import ODataClient.Model.Service
import ODataClient.Proofs.Dictionary
import ODataClient.Proofs.Outcome

/-!
# The order of complex types

When the walk through the graph of complex types ends without a cycle, it has met every type once,
and each type stands behind those it depends on. So do the complex types of a schema when they are
put into that order.
-/

namespace ODataClient.ComplexGraph

variable {graph : ComplexGraph} {order : List String} {node : String}

theorem mem_names_of_mem_dependencies {name dependency : String}
    (member : dependency ∈ graph.dependencies name) : dependency ∈ graph.names := by
  unfold dependencies at member
  split at member
  · simp at member
  · simpa using (List.mem_filter.1 member).2

theorem dependencies_of_notMem {name : String} (unknown : name ∉ graph.names) :
    graph.dependencies name = [] := by
  unfold dependencies
  split
  · rfl
  · next found => exact (unknown (Dictionary.mem_keys_of_get? found)).elim

/-- Each type of a list comes after those it depends on. -/
def DependenciesFirst (graph : ComplexGraph) (order : List String) : Prop :=
  ∀ before node after, order = before ++ node :: after →
    ∀ dependency ∈ graph.dependencies node, dependency ∈ before

theorem dependenciesFirst_nil : graph.DependenciesFirst [] := by
  intro before node after split
  simp at split

theorem DependenciesFirst.concat (first : graph.DependenciesFirst order)
    (finished : ∀ dependency ∈ graph.dependencies node, dependency ∈ order) :
    graph.DependenciesFirst (order ++ [node]) := by
  intro before other after split
  rcases List.eq_nil_or_concat after with rfl | ⟨after, last, rfl⟩
  · obtain ⟨rfl, same⟩ := List.append_inj' split rfl
    cases same
    exact finished
  · rw [List.concat_eq_append, ← List.cons_append, ← List.append_assoc] at split
    exact first before other after (List.append_inj' split rfl).1

/-- The dependencies of each type on the stack that have been looked at are finished, or else are
being visited above it. -/
def Waiting (graph : ComplexGraph) (finished : List String) : List Frame → Prop
  | [] => True
  | frame :: outer =>
      (∃ seen, graph.dependencies frame.node = seen ++ frame.pending ∧
        ∀ dependency ∈ seen, dependency ∈ finished) ∧
      Waiting graph (frame.node :: finished) outer

theorem Waiting.mono {finished more : List String} {stack : List Frame}
    (waiting : graph.Waiting finished stack) (subset : finished ⊆ more) :
    graph.Waiting more stack := by
  induction stack generalizing finished more with
  | nil => trivial
  | cons frame outer ih =>
      obtain ⟨⟨seen, split, done⟩, rest⟩ := waiting
      refine ⟨⟨seen, split, fun dependency member => subset (done dependency member)⟩, ?_⟩
      exact ih rest (List.cons_subset_cons frame.node subset)

/-- What holds at every point of a walk: each type is fresh, being visited or finished, and those
that are finished are in order. -/
structure Walking (graph : ComplexGraph) (fresh : List String) (stack : List Frame)
    (order : List String) : Prop where
  types : (fresh ++ (stack.map Frame.node ++ order)).Perm graph.names
  finished : graph.DependenciesFirst order
  waiting : graph.Waiting order stack

theorem Walking.enter {root : String} {fresh : List String}
    (walking : graph.Walking (root :: fresh) [] order) :
    graph.Walking fresh [⟨root, graph.dependencies root⟩] order := by
  have moved : (fresh ++ root :: order).Perm (root :: fresh ++ order) := List.perm_middle
  exact ⟨moved.trans walking.types, walking.finished, ⟨⟨[], rfl, by simp⟩, trivial⟩⟩

theorem Walking.leave {fresh : List String} {outer : List Frame}
    (walking : graph.Walking fresh (⟨node, []⟩ :: outer) order) :
    graph.Walking fresh outer (order ++ [node]) := by
  obtain ⟨types, finished, ⟨seen, split, done⟩, rest⟩ := walking
  rw [List.append_nil] at split
  refine ⟨?_, finished.concat (by simpa [split] using done), rest.mono ?_⟩
  · refine List.Perm.trans (List.Perm.append_left fresh ?_) types
    rw [← List.append_assoc]
    exact List.perm_append_singleton node _
  · intro name member
    rw [List.mem_append, List.mem_singleton, or_comm]
    exact List.mem_cons.1 member

theorem Walking.push {next : String} {fresh pending : List String} {outer : List Frame}
    (walking : graph.Walking fresh (⟨node, next :: pending⟩ :: outer) order)
    (isFresh : next ∈ fresh) :
    graph.Walking (fresh.erase next)
      (⟨next, graph.dependencies next⟩ :: ⟨node, pending⟩ :: outer) order := by
  obtain ⟨types, finished, ⟨seen, split, done⟩, rest⟩ := walking
  refine ⟨?_, finished, ⟨[], rfl, by simp⟩, ⟨seen ++ [next], by simp [split], ?_⟩, rest.mono ?_⟩
  · have moved (met : List String) : (fresh.erase next ++ next :: met).Perm (fresh ++ met) :=
      List.perm_middle.trans ((List.perm_cons_erase isFresh).append_right met).symm
    exact (moved _).trans types
  · intro dependency member
    rw [List.mem_append, List.mem_singleton] at member
    exact List.mem_cons.2 (member.symm.imp id (done dependency))
  · exact List.cons_subset_cons node (List.subset_cons_self next order)

/-- A dependency that is neither fresh nor being visited is finished. -/
theorem Walking.skip {next : String} {fresh pending : List String} {outer : List Frame}
    (walking : graph.Walking fresh (⟨node, next :: pending⟩ :: outer) order)
    (notFresh : next ∉ fresh) (notVisited : next ∉ (node :: outer.map Frame.node).reverse) :
    graph.Walking fresh (⟨node, pending⟩ :: outer) order := by
  obtain ⟨types, finished, ⟨seen, split, done⟩, rest⟩ := walking
  have met : next ∈ order := by
    have isDependency : next ∈ graph.dependencies node := by simp [split]
    have present := types.mem_iff.2 (mem_names_of_mem_dependencies isDependency)
    simp only [List.mem_append, List.map_cons] at present
    rw [List.mem_reverse] at notVisited
    exact (present.resolve_left notFresh).resolve_left notVisited
  refine ⟨types, finished, ⟨seen ++ [next], by simp [split], ?_⟩, rest⟩
  intro dependency member
  rw [List.mem_append, List.mem_singleton] at member
  exact member.elim (done dependency) fun same => same ▸ met

/-- The invariant of the walk carries over to its result, by induction on the steps of the walk. -/
theorem Walking.result {fresh result : List String} {stack : List Frame}
    (walking : graph.Walking fresh stack order)
    (walked : graph.walk fresh stack order = .ok result) :
    result.Perm graph.names ∧ graph.DependenciesFirst result := by
  fun_induction graph.walk fresh stack order with
  | case1 order =>
      cases walked
      exact ⟨walking.types, walking.finished⟩
  | case2 order root fresh ih => exact ih walking.enter walked
  | case3 fresh order node outer ih => exact ih walking.leave walked
  | case4 fresh order node next pending outer isFresh ih => exact ih (walking.push isFresh) walked
  | case5 fresh order node next pending outer notFresh path visited =>
      have onStack : next ∈ (node :: outer.map Frame.node).reverse := by simpa [path] using visited
      simp only [if_pos onStack, reduceCtorEq] at walked
  | case6 fresh order node next pending outer notFresh path notVisited ih =>
      have notOnStack : next ∉ (node :: outer.map Frame.node).reverse := by
        simpa [path] using notVisited
      refine ih (walking.skip notFresh notOnStack) ?_
      simpa only [if_neg notOnStack] using walked

theorem postOrder_eq_ok (ordered : graph.postOrder = .ok order) :
    order.Perm graph.names ∧ graph.DependenciesFirst order :=
  Walking.result ⟨by simp, dependenciesFirst_nil, by trivial⟩ ordered

end ODataClient.ComplexGraph

namespace ODataClient.ComplexGraph

variable {schema : Schema} {name : String} {type : Schema.ComplexType}

theorem nodup_names_ofSchema : (ofSchema schema).names.Nodup :=
  Dictionary.nodup_keys_ofEntries

theorem mem_names_ofSchema :
    name ∈ (ofSchema schema).names ↔ name ∈ schema.complexTypes.map (·.qualifiedName) := by
  rw [names, ofSchema, Dictionary.mem_keys_ofEntries, List.map_map]
  rfl

theorem mem_complexTypes_of_find? (found : (ofSchema schema).find? name = some type) :
    type ∈ schema.complexTypes ∧ type.qualifiedName = name := by
  have member := Dictionary.mem_of_mem_ofEntries (Dictionary.mem_of_get? found)
  obtain ⟨type, declared, same⟩ := List.mem_map.1 member
  cases same
  exact ⟨declared, rfl⟩

theorem exists_find?_of_mem_names (member : name ∈ (ofSchema schema).names) :
    ∃ type, (ofSchema schema).find? name = some type :=
  Dictionary.exists_get?_of_mem_keys member

/-- A complex type depends on each complex type of the schema that a property of it is of. -/
theorem mem_dependencies {property : Schema.Property} {reference : TypeReference}
    {dependency : String} (found : (ofSchema schema).find? name = some type)
    (member : property ∈ type.properties)
    (parsed : TypeReference.parse property.type = .ok reference)
    (named : reference.qualifiedName? = some dependency)
    (isType : dependency ∈ (ofSchema schema).names) :
    dependency ∈ (ofSchema schema).dependencies name := by
  simp only [dependencies, found, List.mem_filter, List.mem_filterMap]
  refine ⟨⟨property, member, ?_⟩, by simpa using isType⟩
  simp [parsed, Except.toOption, named]

/-- Whether targets are the complex types of a schema that properties are of, in the order of the
properties. -/
inductive AreTargets (schema : Schema) : List Schema.Property → List String → Prop
  | nil : AreTargets schema [] []
  | target {property : Schema.Property} {reference : TypeReference} {name : String}
      {properties : List Schema.Property} {targets : List String}
      (parsed : TypeReference.parse property.type = .ok reference)
      (named : reference.qualifiedName? = some name)
      (declared : name ∈ schema.complexTypes.map (·.qualifiedName))
      (rest : AreTargets schema properties targets) :
      AreTargets schema (property :: properties) (name :: targets)
  | other {property : Schema.Property} {properties : List Schema.Property} {targets : List String}
      (elsewhere : ∀ reference name, TypeReference.parse property.type = .ok reference →
        reference.qualifiedName? = some name → name ∉ schema.complexTypes.map (·.qualifiedName))
      (rest : AreTargets schema properties targets) :
      AreTargets schema (property :: properties) targets

theorem areTargets_filter (properties : List Schema.Property) :
    AreTargets schema properties ((properties.filterMap fun property =>
      (TypeReference.parse property.type).toOption.bind TypeReference.qualifiedName?).filter
        (ofSchema schema).names.contains) := by
  induction properties with
  | nil => exact .nil
  | cons property properties ih =>
      cases target : (TypeReference.parse property.type).toOption.bind
          TypeReference.qualifiedName? with
      | none =>
          simp only [List.filterMap_cons, target]
          refine .other (fun reference name parsed named => ?_) ih
          simp [parsed, Except.toOption, named] at target
      | some name =>
          simp only [List.filterMap_cons, target]
          obtain ⟨reference, isReference, named⟩ := Option.bind_eq_some_iff.1 target
          have parsed := Outcome.toOption_eq_some_iff.1 isReference
          by_cases isType : name ∈ (ofSchema schema).names
          · rw [List.filter_cons_of_pos (by simpa using isType)]
            exact .target parsed named (mem_names_ofSchema.1 isType) ih
          · rw [List.filter_cons_of_neg (by simpa using isType)]
            refine .other (fun other found parsedToo namedToo declared => ?_) ih
            obtain rfl := Except.ok.inj (parsed.symm.trans parsedToo)
            obtain rfl := Option.some.inj (named.symm.trans namedToo)
            exact isType (mem_names_ofSchema.2 declared)

/-- Whether a graph has the complex types of a schema, each leading on to those that its properties
are of. Of the types that are declared with one name, the last counts. -/
structure IsGraphOf (graph : ComplexGraph) (schema : Schema) : Prop where
  names : ∀ name, name ∈ graph.names ↔ name ∈ schema.complexTypes.map (·.qualifiedName)
  dependencies : ∀ before type after, schema.complexTypes = before ++ type :: after →
    type.qualifiedName ∉ after.map (·.qualifiedName) →
      AreTargets schema type.properties (graph.dependencies type.qualifiedName)

theorem isGraphOf_ofSchema (schema : Schema) : (ofSchema schema).IsGraphOf schema where
  names _ := mem_names_ofSchema
  dependencies before type after split last := by
    have found : (ofSchema schema).find? type.qualifiedName = some type := by
      rw [find?, ofSchema, split, List.map_append, List.map_cons]
      exact Dictionary.get?_ofEntries_append (by simpa using last)
    simp only [dependencies, found]
    exact areTargets_filter type.properties

/-- Types found under the names of a list have just these names. -/
theorem map_qualifiedName_filterMap_find? {order : List String}
    (types : ∀ name ∈ order, name ∈ (ofSchema schema).names) :
    (order.filterMap (ofSchema schema).find?).map (·.qualifiedName) = order := by
  induction order with
  | nil => rfl
  | cons name order ih =>
      obtain ⟨type, found⟩ := exists_find?_of_mem_names (types name List.mem_cons_self)
      rw [List.filterMap_cons_some found, List.map_cons, (mem_complexTypes_of_find? found).2,
        ih fun other member => types other (List.mem_cons_of_mem name member)]

end ODataClient.ComplexGraph

namespace ODataClient.Model

open ComplexGraph

variable {schema : Schema} {types : List Schema.ComplexType}

/-- Complex types of a schema, one for each qualified name, with each type behind those that its
properties are of. -/
structure IsOrdered (schema : Schema) (types : List Schema.ComplexType) : Prop where
  subset : types ⊆ schema.complexTypes
  distinct : (types.map (·.qualifiedName)).Nodup
  complete : ∀ type ∈ schema.complexTypes,
    type.qualifiedName ∈ types.map (·.qualifiedName)
  dependencies : ∀ before type after, types = before ++ type :: after →
    ∀ property ∈ type.properties, ∀ reference dependency,
      TypeReference.parse property.type = .ok reference →
      reference.qualifiedName? = some dependency →
      dependency ∈ schema.complexTypes.map (·.qualifiedName) →
      dependency ∈ before.map (·.qualifiedName)

theorem isOrdered_orderedComplexTypes (ordered : orderedComplexTypes schema = .ok types) :
    IsOrdered schema types := by
  simp only [orderedComplexTypes] at ordered
  split at ordered
  · next order walked =>
    cases ordered
    obtain ⟨same, first⟩ := postOrder_eq_ok walked
    have names := map_qualifiedName_filterMap_find? fun name member => same.subset member
    constructor
    · intro type member
      obtain ⟨name, -, found⟩ := List.mem_filterMap.1 member
      exact (mem_complexTypes_of_find? found).1
    · rw [names]
      exact same.nodup_iff.2 nodup_names_ofSchema
    · intro type member
      rw [names, same.mem_iff, mem_names_ofSchema]
      exact List.mem_map_of_mem member
    · intro before type after split property member reference dependency parsed named declared
      have position : order = before.map (·.qualifiedName) ++ type.qualifiedName ::
          after.map (·.qualifiedName) := by
        rw [← names, split, List.map_append, List.map_cons]
      have found : (ofSchema schema).find? type.qualifiedName = some type := by
        have present : type ∈ order.filterMap (ofSchema schema).find? := by simp [split]
        obtain ⟨name, -, found⟩ := List.mem_filterMap.1 present
        rwa [(mem_complexTypes_of_find? found).2]
      exact first _ _ _ position dependency
        (mem_dependencies found member parsed named (mem_names_ofSchema.2 declared))
  · contradiction

theorem postOrder_of_nil (none : schema.complexTypes = []) :
    (ofSchema schema).postOrder = .ok [] := by
  have names : (ofSchema schema).names = [] := by
    simp [names, ofSchema, none, Dictionary.ofEntries]
  simp [postOrder, walk, names]

theorem orderedComplexTypes_of_nil (none : schema.complexTypes = []) :
    orderedComplexTypes schema = .ok [] := by
  simp [orderedComplexTypes, postOrder_of_nil none]

theorem orderedComplexTypes_of_leaf {type : Schema.ComplexType}
    (single : schema.complexTypes = [type])
    (leaf : (ofSchema schema).dependencies type.qualifiedName = []) :
    orderedComplexTypes schema = .ok [type] := by
  have nodes : (ofSchema schema).nodes = [(type.qualifiedName, type)] := by
    simp [ofSchema, single, Dictionary.ofEntries, Dictionary.insert]
  have names : (ofSchema schema).names = [type.qualifiedName] := by
    rw [names, nodes, List.map_singleton]
  have order : (ofSchema schema).postOrder = .ok [type.qualifiedName] := by
    simp [postOrder, walk, names, leaf]
  have found : (ofSchema schema).find? type.qualifiedName = some type := by
    simp [find?, nodes, Dictionary.get?]
  simp [orderedComplexTypes, order, found]

/-- Where the complex types have different names, none is lost and none is doubled. -/
theorem IsOrdered.perm (ordered : IsOrdered schema types)
    (distinct : (schema.complexTypes.map (·.qualifiedName)).Nodup) :
    types.Perm schema.complexTypes := by
  refine (List.perm_ext_iff_of_nodup (.of_map _ ordered.distinct) (.of_map _ distinct)).2 ?_
  intro type
  refine ⟨fun member => ordered.subset member, fun declared => ?_⟩
  obtain ⟨other, member, same⟩ := List.mem_map.1 (ordered.complete type declared)
  rwa [← List.inj_on_of_nodup_map distinct (ordered.subset member) declared same]

end ODataClient.Model
