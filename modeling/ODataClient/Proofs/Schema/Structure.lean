import Mathlib.Data.List.Nodup
import ODataClient.Proofs.Schema.Accepted

/-!
# Structure of accepted schemas

While constructs are merged into a schema, a name that has been declared before is refused and a key
must name a property. When all constructs are there, each reference of a navigation property, of the
end of an association, of an entity set and of a function import must lead to one of them. Together
this makes every accepted schema well-formed.
-/

namespace ODataClient.Schema

variable {sources : List Source} {context : MergeContext} {schema later : Schema}
  {merging next : Merging}

/-- The names of the constructs of a kind. -/
def names (schema : Schema) : DeclarationKind → List String
  | .entityType => schema.entityTypes.map (·.name)
  | .complexType => schema.complexTypes.map (·.name)
  | .association => schema.associations.map (·.name)
  | .entitySet => schema.entitySets.map (·.name)
  | .functionImport => schema.functionImports.map (·.name)

/-- Whether the keys of a type are properties of it. -/
def EntityType.IsKeyed (type : EntityType) : Prop :=
  type.keys ⊆ type.properties.map (·.name)

/-- Whether a navigation property goes along an association of the schema between roles of it. -/
def Resolves (schema : Schema) (navigation : NavigationProperty) : Prop :=
  ∃ association, schema.findAssociation? navigation.relationship = some association ∧
    (association.findEnd? navigation.fromRole).isSome ∧
    (association.findEnd? navigation.toRole).isSome

/-- A schema in which names are unique among the constructs of a kind, and which declares what its
keys, navigation properties, associations, entity sets and function imports refer to. -/
structure IsWellFormed (schema : Schema) : Prop where
  distinct : ∀ kind, (schema.names kind).Nodup
  keys : ∀ type ∈ schema.entityTypes, type.IsKeyed
  navigation : ∀ type ∈ schema.entityTypes, ∀ navigation ∈ type.navigation,
    schema.Resolves navigation
  ends : ∀ association ∈ schema.associations, ∀ associationEnd ∈ association.ends,
    (schema.findEntityType? associationEnd.type).isSome
  entitySets : ∀ set ∈ schema.entitySets, (schema.findEntityType? set.type).isSome
  resultSets : ∀ function ∈ schema.functionImports, ∀ set, function.entitySet = some set →
    (schema.findEntitySet? set).isSome

theorem keyOfDocument_eq_ok {type key : String} {properties : List Property}
    {given : Option String} (found : keyOfDocument context type properties given = .ok key) :
    key ∈ properties.map (·.name) := by
  obtain ⟨name, -, found⟩ := Outcome.bind_eq_ok_iff.1 found
  split at found
  · next present =>
    cases found
    obtain ⟨property, member, same⟩ := List.any_eq_true.1 present
    exact List.mem_map.2 ⟨property, member, of_decide_eq_true same⟩
  · contradiction

theorem EntityType.ofDocument_eq_ok {ns name : String} {given : Document.EntityType}
    {type : EntityType} (made : EntityType.ofDocument context ns name given = .ok type) :
    type.name = name ∧ type.IsKeyed := by
  obtain ⟨properties, -, made⟩ := Outcome.bind_eq_ok_iff.1 made
  obtain ⟨keys, found, made⟩ := Outcome.bind_eq_ok_iff.1 made
  obtain ⟨navigation, -, made⟩ := Outcome.bind_eq_ok_iff.1 made
  cases made
  refine ⟨rfl, fun key member => ?_⟩
  obtain ⟨reference, -, isKey⟩ := (Outcome.mapM_eq_ok_iff.1 found).exists_of_mem_right member
  exact keyOfDocument_eq_ok isKey

theorem ComplexType.name_of_ofDocument {ns name : String} {given : Document.ComplexType}
    {type : ComplexType} (made : ComplexType.ofDocument context ns name given = .ok type) :
    type.name = name := by
  obtain ⟨_, -, made⟩ := Outcome.bind_eq_ok_iff.1 made
  cases made
  rfl

theorem Association.name_of_ofDocument {ns name : String} {given : Document.Association}
    {association : Association}
    (made : Association.ofDocument context ns name given = .ok association) :
    association.name = name := by
  obtain ⟨_, -, made⟩ := Outcome.bind_eq_ok_iff.1 made
  cases made
  rfl

theorem EntitySet.name_of_ofDocument {name : String} {given : Document.EntitySet}
    {set : EntitySet} (made : EntitySet.ofDocument context name given = .ok set) :
    set.name = name := by
  obtain ⟨_, -, made⟩ := Outcome.bind_eq_ok_iff.1 made
  obtain ⟨_, -, made⟩ := Outcome.bind_eq_ok_iff.1 made
  cases made
  rfl

theorem FunctionImport.name_of_ofDocument {name : String} {given : Document.FunctionImport}
    {function : FunctionImport}
    (made : FunctionImport.ofDocument context name given = .ok function) :
    function.name = name := by
  unfold FunctionImport.ofDocument at made
  split at made <;>
  · obtain ⟨_, -, made⟩ := Outcome.bind_eq_ok_iff.1 made
    obtain ⟨_, -, made⟩ := Outcome.bind_eq_ok_iff.1 made
    cases made
    rfl

/-- A construct that is added puts its name behind those of its kind, and a type that is added has
its keys among its properties. -/
theorem add_eq_ok {ns name : String} {declaration : Declaration}
    (added : schema.add context ns name declaration = .ok later) :
    (∀ kind, later.names kind =
      schema.names kind ++ if kind = declaration.kind then [name] else []) ∧
    ∀ type ∈ later.entityTypes, type ∈ schema.entityTypes ∨ type.IsKeyed := by
  cases declaration with
  | entityType given =>
      obtain ⟨type, made, added⟩ := Outcome.bind_eq_ok_iff.1 added
      obtain ⟨named, isKeyed⟩ := EntityType.ofDocument_eq_ok made
      cases added
      constructor
      · intro kind
        cases kind <;> simp [names, Declaration.kind, named]
      · intro other member
        rcases List.mem_append.1 member with present | isNew
        · exact .inl present
        · rw [List.mem_singleton.1 isNew]
          exact .inr isKeyed
  | complexType given =>
      obtain ⟨type, made, added⟩ := Outcome.bind_eq_ok_iff.1 added
      have named := ComplexType.name_of_ofDocument made
      cases added
      refine ⟨fun kind => ?_, fun _ member => .inl member⟩
      cases kind <;> simp [names, Declaration.kind, named]
  | association given =>
      obtain ⟨association, made, added⟩ := Outcome.bind_eq_ok_iff.1 added
      have named := Association.name_of_ofDocument made
      cases added
      refine ⟨fun kind => ?_, fun _ member => .inl member⟩
      cases kind <;> simp [names, Declaration.kind, named]
  | entitySet container given =>
      obtain ⟨set, made, added⟩ := Outcome.bind_eq_ok_iff.1 added
      have named := EntitySet.name_of_ofDocument made
      cases added
      refine ⟨fun kind => ?_, fun _ member => .inl member⟩
      cases kind <;> simp [names, Declaration.kind, named]
  | functionImport container given =>
      obtain ⟨function, made, added⟩ := Outcome.bind_eq_ok_iff.1 added
      have named := FunctionImport.name_of_ofDocument made
      cases added
      refine ⟨fun kind => ?_, fun _ member => .inl member⟩
      cases kind <;> simp [names, Declaration.kind, named]

/-- What holds of a schema in the making: its names are unique and written down as declared, and its
types have their keys among their properties. -/
structure Merging.IsRecorded (merging : Merging) : Prop where
  distinct : ∀ kind, (merging.schema.names kind).Nodup
  declared : ∀ kind, ∀ name ∈ merging.schema.names kind,
    (merging.declared.lookup (kind, name)).isSome
  keys : ∀ type ∈ merging.schema.entityTypes, type.IsKeyed

theorem Merging.isRecorded_empty (ns : String) (namespaces : List String) :
    Merging.IsRecorded { schema := { ns, namespaces }, declared := [] } where
  distinct kind := by cases kind <;> exact List.nodup_nil
  declared kind name member := by cases kind <;> simp [names] at member
  keys type member := by simp at member

theorem Merging.take_eq_ok {item : String × Declaration}
    (taken : merging.take context item = .ok next) :
    ∃ name, item.2.name context item.1 = .ok name ∧
      merging.declared.lookup (item.2.kind, name) = none ∧
      merging.schema.add context item.1 name item.2 = .ok next.schema ∧
      next.declared = ((item.2.kind, name), item.1) :: merging.declared := by
  obtain ⟨ns, declaration⟩ := item
  obtain ⟨name, named, taken⟩ := Outcome.bind_eq_ok_iff.1 taken
  cases known : merging.declared.lookup (declaration.kind, name) with
  | some first =>
      simp only [known] at taken
      contradiction
  | none =>
      simp only [known] at taken
      obtain ⟨schema, added, taken⟩ := Outcome.bind_eq_ok_iff.1 taken
      cases taken
      exact ⟨name, named, known, added, rfl⟩

/-- A name that is not written down is new, so names stay unique when it is taken. -/
theorem Merging.IsRecorded.take {item : String × Declaration} (recorded : merging.IsRecorded)
    (taken : merging.take context item = .ok next) : next.IsRecorded := by
  obtain ⟨name, -, unknown, added, written⟩ := Merging.take_eq_ok taken
  obtain ⟨names, types⟩ := add_eq_ok added
  constructor
  · intro kind
    rw [names]
    split
    · next same =>
      rw [← List.concat_eq_append]
      refine List.Nodup.concat (fun member => ?_) (recorded.distinct kind)
      have known := recorded.declared kind name member
      simp [same, unknown] at known
    · simpa using recorded.distinct kind
  · intro kind other member
    rw [written, List.lookup_cons]
    by_cases isNew : (kind, other) = (item.2.kind, name)
    · simp [isNew]
    · have present : other ∈ merging.schema.names kind := by
        rw [names, List.mem_append] at member
        refine member.resolve_right fun last => isNew ?_
        split at last
        · next same => rw [same, List.mem_singleton.1 last]
        · simp at last
      rw [beq_false_of_ne isNew]
      exact recorded.declared kind other present
  · intro type member
    exact (types type member).elim (recorded.keys type) id

theorem resolves_of_checkNavigation {type : String} {navigation : NavigationProperty}
    {result : Unit} (checked : checkNavigation context schema type navigation = .ok result) :
    schema.Resolves navigation := by
  unfold checkNavigation at checked
  cases found : schema.findAssociation? navigation.relationship with
  | none =>
      rw [found] at checked
      contradiction
  | some association =>
      rw [found] at checked
      have isRole : ∀ role ∈ [navigation.fromRole, navigation.toRole],
          (association.findEnd? role).isSome := by
        intro role member
        have succeeded := Outcome.forM_eq_ok_iff.1 checked role member
        split at succeeded
        · next found => exact found
        · contradiction
      exact ⟨association, found, isRole _ (by simp), isRole _ (by simp)⟩

theorem isSome_of_checkEntityReference {reference : String} {place : Construct} {result : Unit}
    (checked : checkEntityReference context schema reference place = .ok result) :
    (schema.findEntityType? reference).isSome := by
  unfold checkEntityReference at checked
  split at checked
  · next found => exact found
  · contradiction

theorem isSome_of_checkFunctionImport {function : FunctionImport} {set : String} {result : Unit}
    (named : function.entitySet = some set)
    (checked : checkFunctionImport context schema function = .ok result) :
    (schema.findEntitySet? set).isSome := by
  unfold checkFunctionImport at checked
  simp only [named] at checked
  obtain ⟨_, -, checked⟩ := Outcome.bind_eq_ok_iff.1 checked
  split at checked <;>
  · obtain ⟨_, -, checked⟩ := Outcome.bind_eq_ok_iff.1 checked
    split at checked
    · next found => exact found
    · contradiction

theorem isRecorded_of_parse (accepted : parse sources = .ok schema) :
    ∃ merging : Merging, merging.schema = schema ∧ merging.IsRecorded ∧
      checkReferences (contextOf sources) schema = .ok () := by
  obtain ⟨ns, namespaces, items, merging, merged, rfl, checked⟩ := merged_of_parse accepted
  refine ⟨merging, rfl, ?_, checked⟩
  exact Outcome.foldlM_preserves Merging.IsRecorded
    (fun _ _ _ recorded taken => recorded.take taken) (Merging.isRecorded_empty ns namespaces)
    merged

theorem nodup_names_of_parse (accepted : parse sources = .ok schema) (kind : DeclarationKind) :
    (schema.names kind).Nodup := by
  obtain ⟨merging, rfl, recorded, -⟩ := isRecorded_of_parse accepted
  exact recorded.distinct kind

/-- Every accepted schema is well-formed. -/
theorem isWellFormed_of_parse (accepted : parse sources = .ok schema) : schema.IsWellFormed := by
  obtain ⟨merging, rfl, recorded, checked⟩ := isRecorded_of_parse accepted
  obtain ⟨_, entityTypes, checked⟩ := Outcome.bind_eq_ok_iff.1 checked
  obtain ⟨_, -, checked⟩ := Outcome.bind_eq_ok_iff.1 checked
  obtain ⟨_, associations, checked⟩ := Outcome.bind_eq_ok_iff.1 checked
  obtain ⟨_, entitySets, functionImports⟩ := Outcome.bind_eq_ok_iff.1 checked
  rw [Outcome.forM_eq_ok_iff] at entityTypes associations entitySets functionImports
  constructor
  · exact recorded.distinct
  · exact recorded.keys
  · intro type member navigation isNavigation
    obtain ⟨_, -, each⟩ := Outcome.bind_eq_ok_iff.1 (entityTypes type member)
    exact resolves_of_checkNavigation (Outcome.forM_eq_ok_iff.1 each navigation isNavigation)
  · intro association member associationEnd isEnd
    have each := associations association member
    exact isSome_of_checkEntityReference (Outcome.forM_eq_ok_iff.1 each associationEnd isEnd)
  · intro set member
    exact isSome_of_checkEntityReference (entitySets set member)
  · intro function member set named
    exact isSome_of_checkFunctionImport named (functionImports function member)

/-- The types of a shop. -/
def shopTypes : Source where
  name := "types.edmx"
  text := "<Edmx><DataServices><Schema Namespace=\"Shop\">
    <EntityType Name=\"Order\">
      <Key><PropertyRef Name=\"Number\"/></Key>
      <Property Name=\"Number\" Type=\"Edm.String\"/>
      <NavigationProperty Name=\"Lines\" Relationship=\"Shop.OrderLines\"
        FromRole=\"Order\" ToRole=\"Line\"/>
    </EntityType>
    <EntityType Name=\"Line\"/>
    <Association Name=\"OrderLines\">
      <End Type=\"Shop.Order\" Multiplicity=\"1\" Role=\"Order\"/>
      <End Type=\"Shop.Line\" Multiplicity=\"*\" Role=\"Line\"/>
    </Association>
  </Schema></DataServices></Edmx>"

/-- The sets and functions of the shop, in a namespace of their own. -/
def shopSets : Source where
  name := "sets.edmx"
  text := "<Edmx><DataServices><Schema Namespace=\"Sales\"><EntityContainer>
    <EntitySet Name=\"Orders\" EntityType=\"Shop.Order\"/>
    <EntitySet Name=\"Lines\" EntityType=\"Shop.Line\"/>
    <FunctionImport Name=\"Open\" ReturnType=\"Collection(Shop.Line)\" EntitySet=\"Lines\"/>
  </EntityContainer></Schema></DataServices></Edmx>"

set_option maxRecDepth 4000 in
theorem isWellFormed_shop : ∃ schema, parse [shopTypes, shopSets] = .ok schema ∧
    schema.names .entitySet = ["Orders", "Lines"] ∧
    schema.functionImports.map (·.entitySet) = [some "Lines"] ∧ schema.IsWellFormed := by
  have outline : ((parse [shopTypes, shopSets]).toOption.any fun schema =>
      schema.names .entitySet = ["Orders", "Lines"] ∧
        schema.functionImports.map (·.entitySet) = [some "Lines"]) = true := by
    have types : shopTypes.text.toList = _ := toList_of_eq_ofList rfl
    have sets : shopSets.text.toList = _ := toList_of_eq_ofList rfl
    rw [parse, List.mapM_cons, List.mapM_cons, partsOf, Document.parse?, Xml.Document.ofText?,
      types, partsOf, Document.parse?, Xml.Document.ofText?, sets]
    decide +kernel
  cases accepted : parse [shopTypes, shopSets] with
  | error error =>
      rw [accepted] at outline
      contradiction
  | ok schema =>
      rw [accepted] at outline
      obtain ⟨sets, results⟩ := of_decide_eq_true outline
      exact ⟨schema, rfl, sets, results, isWellFormed_of_parse accepted⟩

end ODataClient.Schema
