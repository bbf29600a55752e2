import ODataClient.Proofs.Schema.Structure

/-!
# Schemas of documents taken together

Where no alternative names are given to namespaces, what a construct is completed to depends on
nothing but the construct and its namespace. So the constructs that are read from two lists of
documents together are those read from the first, and behind them those read from the second.
-/

namespace ODataClient.Schema

open Outcome (Agree)

section Completion

variable {context other : MergeContext} (same : context.alternatives = other.alternatives)

theorem agree_require {element required owner : String} {place : Construct}
    {value : Option String} : Agree (context.require element required owner place value)
      (other.require element required owner place value) := by
  cases value with
  | none => exact Agree.failed _ _
  | some value => exact Agree.refl _

include same

theorem agree_typeText {reference : String} {place : Construct} :
    Agree (context.typeText reference place) (other.typeText reference place) := by
  have sameNames : context.resolveNamespace = other.resolveNamespace := by
    funext ns
    rw [MergeContext.resolveNamespace, MergeContext.resolveNamespace, same]
  apply Agree.map
  unfold MergeContext.typeReference
  cases TypeReference.parse reference with
  | error reason => exact Agree.failed _ _
  | ok parsed =>
      rw [sameNames]
      exact Agree.refl _

theorem agree_property {type : String} (given : Document.Property) :
    Agree (Property.ofDocument context type given) (Property.ofDocument other type given) := by
  refine agree_require.bind fun name => ?_
  refine agree_require.bind fun reference => ?_
  exact (agree_typeText same).bind fun reference => Agree.refl _

theorem agree_navigation {type : String} (given : Document.NavigationProperty) :
    Agree (NavigationProperty.ofDocument context type given)
      (NavigationProperty.ofDocument other type given) := by
  refine agree_require.bind fun name => ?_
  refine agree_require.bind fun relationship => ?_
  refine agree_require.bind fun fromRole => ?_
  refine agree_require.bind fun toRole => ?_
  exact (agree_typeText same).bind fun relationship => Agree.refl _

omit same in
theorem agree_key {type : String} {properties : List Property} (given : Option String) :
    Agree (keyOfDocument context type properties given)
      (keyOfDocument other type properties given) := by
  refine agree_require.bind fun key => ?_
  split
  · exact Agree.refl _
  · exact Agree.failed _ _

theorem agree_entityType {ns name : String} (given : Document.EntityType) :
    Agree (EntityType.ofDocument context ns name given)
      (EntityType.ofDocument other ns name given) := by
  refine (Agree.mapM (agree_property same) _).bind fun properties => ?_
  refine (Agree.mapM agree_key _).bind fun keys => ?_
  exact (Agree.mapM (agree_navigation same) _).bind fun navigation => Agree.refl _

theorem agree_complexType {ns name : String} (given : Document.ComplexType) :
    Agree (ComplexType.ofDocument context ns name given)
      (ComplexType.ofDocument other ns name given) :=
  (Agree.mapM (agree_property same) _).bind fun _ => Agree.refl _

theorem agree_associationEnd {association : String} (given : Document.AssociationEnd) :
    Agree (AssociationEnd.ofDocument context association given)
      (AssociationEnd.ofDocument other association given) := by
  refine agree_require.bind fun type => ?_
  refine agree_require.bind fun role => ?_
  refine agree_require.bind fun text => ?_
  split
  · exact Agree.failed _ _
  · exact (agree_typeText same).bind fun type => Agree.refl _

theorem agree_association {ns name : String} (given : Document.Association) :
    Agree (Association.ofDocument context ns name given)
      (Association.ofDocument other ns name given) :=
  (Agree.mapM (agree_associationEnd same) _).bind fun _ => Agree.refl _

theorem agree_entitySet {name : String} (given : Document.EntitySet) :
    Agree (EntitySet.ofDocument context name given) (EntitySet.ofDocument other name given) := by
  refine agree_require.bind fun type => ?_
  exact (agree_typeText same).bind fun type => Agree.refl _

theorem agree_parameter {function : String} (given : Document.Parameter) :
    Agree (Parameter.ofDocument context function given)
      (Parameter.ofDocument other function given) := by
  refine agree_require.bind fun name => ?_
  refine agree_require.bind fun type => ?_
  exact (agree_typeText same).bind fun type => Agree.refl _

theorem agree_functionImport {name : String} (given : Document.FunctionImport) :
    Agree (FunctionImport.ofDocument context name given)
      (FunctionImport.ofDocument other name given) := by
  unfold FunctionImport.ofDocument
  cases given.returnType with
  | none => exact (Agree.mapM (agree_parameter same) _).bind fun _ => Agree.refl _
  | some type =>
      refine (agree_typeText same).map.bind fun returnType => ?_
      exact (Agree.mapM (agree_parameter same) _).bind fun _ => Agree.refl _

omit same in
theorem agree_name {ns : String} (declaration : Declaration) :
    Agree (declaration.name context ns) (declaration.name other ns) := by
  cases declaration <;> exact agree_require

end Completion

/-- A schema whose constructs are those of one schema and behind them those of another. -/
structure Follows (first second both : Schema) : Prop where
  entityTypes : both.entityTypes = first.entityTypes ++ second.entityTypes
  complexTypes : both.complexTypes = first.complexTypes ++ second.complexTypes
  associations : both.associations = first.associations ++ second.associations
  entitySets : both.entitySets = first.entitySets ++ second.entitySets
  functionImports : both.functionImports = first.functionImports ++ second.functionImports

variable {context other : MergeContext} {first schema next both last : Schema}

/-- Whatever a construct is put behind, it is completed to the same. -/
theorem Follows.add {ns name : String} {declaration : Declaration}
    (same : context.alternatives = other.alternatives) (follows : first.Follows schema both)
    (added : schema.add context ns name declaration = .ok next)
    (addedToo : both.add other ns name declaration = .ok last) : first.Follows next last := by
  cases declaration with
  | entityType given =>
      obtain ⟨type, ⟨⟩, ⟨⟩⟩ := (agree_entityType same given).exists_of_bind added addedToo
      exact { follows with entityTypes := by simp [follows.entityTypes] }
  | complexType given =>
      obtain ⟨type, ⟨⟩, ⟨⟩⟩ := (agree_complexType same given).exists_of_bind added addedToo
      exact { follows with complexTypes := by simp [follows.complexTypes] }
  | association given =>
      obtain ⟨association, ⟨⟩, ⟨⟩⟩ := (agree_association same given).exists_of_bind added addedToo
      exact { follows with associations := by simp [follows.associations] }
  | entitySet container given =>
      obtain ⟨set, ⟨⟩, ⟨⟩⟩ := (agree_entitySet same given).exists_of_bind added addedToo
      exact { follows with entitySets := by simp [follows.entitySets] }
  | functionImport container given =>
      obtain ⟨function, ⟨⟩, ⟨⟩⟩ := (agree_functionImport same given).exists_of_bind added addedToo
      exact { follows with functionImports := by simp [follows.functionImports] }

/-- The constructs that are taken by two mergings stay behind those that one of them has had from
the beginning. -/
theorem Follows.run {merging result begun ended : Merging} {items : List (String × Declaration)}
    (follows : first.Follows merging.schema begun.schema)
    (merged : items.foldlM (Merging.take context) merging = .ok result)
    (mergedToo : items.foldlM (Merging.take other) begun = .ok ended)
    (same : context.alternatives = other.alternatives) :
    first.Follows result.schema ended.schema := by
  refine Outcome.foldlM_relates (fun merging begun => first.Follows merging.schema begun.schema)
    ?_ follows merged mergedToo
  intro merging begun item next last follows taken takenToo
  obtain ⟨name, named, -, added, -⟩ := Merging.take_eq_ok taken
  obtain ⟨again, namedToo, -, addedToo, -⟩ := Merging.take_eq_ok takenToo
  obtain rfl := (agree_name item.2).eq_of_ok named namedToo
  exact follows.add same added addedToo

/-- Constructs that are added leave the namespaces as they are. -/
theorem namespaces_of_add {ns name : String} {declaration : Declaration}
    (added : schema.add context ns name declaration = .ok next) :
    next.ns = schema.ns ∧ next.namespaces = schema.namespaces := by
  cases declaration <;>
  · obtain ⟨_, -, added⟩ := Outcome.bind_eq_ok_iff.1 added
    cases added
    exact ⟨rfl, rfl⟩

theorem namespaces_of_run {merging result : Merging} {items : List (String × Declaration)}
    (merged : items.foldlM (Merging.take context) merging = .ok result) :
    result.schema.ns = merging.schema.ns ∧
      result.schema.namespaces = merging.schema.namespaces := by
  refine Outcome.foldlM_preserves (fun reached => reached.schema.ns = merging.schema.ns ∧
    reached.schema.namespaces = merging.schema.namespaces) ?_ ⟨rfl, rfl⟩ merged
  intro reached item next kept taken
  obtain ⟨name, -, -, added, -⟩ := Merging.take_eq_ok taken
  obtain ⟨sameNamespace, sameNamespaces⟩ := namespaces_of_add added
  exact ⟨sameNamespace.trans kept.1, sameNamespaces.trans kept.2⟩

/-- Whether one of the parts has an entity container. -/
def HasContainer (parts : List Document.Part) : Prop :=
  ∃ part ∈ parts, part.containers ≠ []

theorem hasContainer_iff {parts : List Document.Part} {namespaces : List String}
    (sameLength : namespaces.length = parts.length) : HasContainer parts ↔
      ((namespaces.zip parts).find? fun (_, part) => !part.containers.isEmpty).isSome := by
  have second : (namespaces.zip parts).map Prod.snd = parts :=
    List.map_snd_zip (Nat.le_of_eq sameLength.symm)
  rw [List.find?_isSome]
  constructor
  · rintro ⟨part, found, contained⟩
    rw [← second] at found
    obtain ⟨named, mem, rfl⟩ := List.mem_map.1 found
    exact ⟨named, mem, by simpa using contained⟩
  · rintro ⟨named, mem, contained⟩
    have found : named.2 ∈ parts := second ▸ List.mem_map_of_mem mem
    exact ⟨named.2, found, by simpa using contained⟩

/-- The main namespace is found among the first parts, unless only the others have an entity
container. -/
theorem mainNamespace_append {parts others : List Document.Part}
    {namespaces otherNamespaces : List String} (present : parts ≠ [])
    (sameLength : namespaces.length = parts.length)
    (otherLength : otherNamespaces.length = others.length) :
    let both := mainNamespace (namespaces.zip parts ++ otherNamespaces.zip others)
    (HasContainer parts ∨ ¬ HasContainer others → both = mainNamespace (namespaces.zip parts)) ∧
      (¬ HasContainer parts ∧ HasContainer others →
        both = mainNamespace (otherNamespaces.zip others)) := by
  have headed : (namespaces.zip parts ++ otherNamespaces.zip others).head? =
      (namespaces.zip parts).head? := by
    obtain ⟨part, parts, rfl⟩ := List.exists_cons_of_ne_nil present
    obtain ⟨ns, namespaces, rfl⟩ := List.exists_cons_of_length_eq_add_one sameLength
    rfl
  rw [hasContainer_iff sameLength, hasContainer_iff otherLength]
  simp only [mainNamespace, List.find?_append, headed]
  cases (namespaces.zip parts).find? fun (_, part) => !part.containers.isEmpty with
  | some found => simp
  | none =>
      cases (otherNamespaces.zip others).find? fun (_, part) => !part.containers.isEmpty with
      | some found => simp
      | none => simp

/-- Without alternative names, the schema of accepted documents is what their constructs have been
merged into under the names that they have. -/
theorem merged_of_plain {sources : List Source}
    (plain : ∀ part ∈ partsIn sources, part.alternative = none)
    (accepted : parse sources = .ok schema) : ∃ namespaces merging,
      List.Forall₂ (fun part ns => part.ns = some ns) (partsIn sources) namespaces ∧
      (itemsOf (namespaces.zip (partsIn sources))).foldlM
        (Merging.take { sources, alternatives := [] })
        { schema := { ns := mainNamespace (namespaces.zip (partsIn sources)), namespaces },
          declared := [] } = .ok merging ∧ merging.schema = schema := by
  obtain ⟨namespaces, merging, named, merged, same, -⟩ :=
    ofParts_eq_ok (ofParts_of_parse accepted).2
  have none : (partsIn sources).filterMap alternative? = [] := by
    rw [List.filterMap_eq_nil_iff]
    intro part member
    rw [alternative?, plain part member]
    simp
  rw [none, List.reverse_nil] at merged
  exact ⟨namespaces, merging, named, merged, same⟩

/-- What is read from two lists of documents together, neither of which gives alternative names to
namespaces, is what is read from the first and behind it what is read from the second. The main
namespace is that of the first, unless only the second has an entity container. -/
theorem joins_of_parse {sources others : List Source} {schema other both : Schema}
    (plain : ∀ part ∈ partsIn (sources ++ others), part.alternative = none)
    (first : parse sources = .ok schema) (second : parse others = .ok other)
    (together : parse (sources ++ others) = .ok both) :
    both.namespaces = schema.namespaces ++ other.namespaces ∧ schema.Follows other both ∧
      (HasContainer (partsIn sources) ∨ ¬ HasContainer (partsIn others) → both.ns = schema.ns) ∧
      (¬ HasContainer (partsIn sources) ∧ HasContainer (partsIn others) → both.ns = other.ns) := by
  rw [partsIn_append] at plain
  obtain ⟨namespaces, merging, named, merged, rfl⟩ :=
    merged_of_plain (fun part member => plain part (List.mem_append_left _ member)) first
  obtain ⟨otherNamespaces, otherMerging, otherNamed, otherMerged, rfl⟩ :=
    merged_of_plain (fun part member => plain part (List.mem_append_right _ member)) second
  obtain ⟨allNamespaces, result, allNamed, run, rfl⟩ :=
    merged_of_plain (partsIn_append ▸ plain) together
  rw [partsIn_append] at allNamed run
  obtain rfl : allNamespaces = namespaces ++ otherNamespaces :=
    List.right_unique_forall₂' (fun _ _ _ found again => Option.some.inj (found.symm.trans again))
      allNamed (List.rel_append named otherNamed)
  rw [List.zip_append named.length_eq.symm, itemsOf, List.flatMap_append,
    List.foldlM_append] at run
  obtain ⟨between, begun, ended⟩ := Outcome.bind_eq_ok_iff.1 run
  obtain ⟨sameNamespace, sameNamespaces⟩ := namespaces_of_run merged
  obtain ⟨otherNamespace, otherSame⟩ := namespaces_of_run otherMerged
  obtain ⟨begunNamespace, begunSame⟩ := namespaces_of_run begun
  obtain ⟨endedNamespace, endedSame⟩ := namespaces_of_run ended
  have leading : Follows {} merging.schema between.schema := by
    refine Follows.run ?_ merged begun rfl
    exact ⟨rfl, rfl, rfl, rfl, rfl⟩
  have trailing : merging.schema.Follows otherMerging.schema result.schema := by
    refine Follows.run ?_ otherMerged ended rfl
    exact ⟨by simp [leading.entityTypes], by simp [leading.complexTypes],
      by simp [leading.associations], by simp [leading.entitySets],
      by simp [leading.functionImports]⟩
  obtain ⟨kept, replaced⟩ := mainNamespace_append (ofParts_of_parse first).1
    named.length_eq.symm otherNamed.length_eq.symm
  refine ⟨?_, trailing, fun condition => ?_, fun condition => ?_⟩
  · rw [endedSame, begunSame, sameNamespaces, otherSame]
  · rw [endedNamespace, begunNamespace, sameNamespace]
    exact kept condition
  · rw [endedNamespace, begunNamespace, otherNamespace]
    exact replaced condition

/-- A document of types only. -/
def addresses : Source where
  name := "addresses.edmx"
  text := "<Edmx><DataServices><Schema Namespace=\"Common\"><ComplexType Name=\"Address\">
    <Property Name=\"City\" Type=\"Edm.String\"/></ComplexType></Schema></DataServices></Edmx>"

/-- A document with an entity container. -/
def people : Source where
  name := "people.edmx"
  text := "<Edmx><DataServices><Schema Namespace=\"Staff\"><EntityType Name=\"Person\"/>
    <EntityContainer><EntitySet Name=\"People\" EntityType=\"Staff.Person\"/>
    </EntityContainer></Schema></DataServices></Edmx>"

set_option maxRecDepth 2000 in
/-- The container of the second document decides about the namespace. -/
theorem joins_addresses_people : ∃ schema other both, parse [addresses] = .ok schema ∧
    parse [people] = .ok other ∧ parse [addresses, people] = .ok both ∧
    both.namespaces = schema.namespaces ++ other.namespaces ∧ schema.Follows other both ∧
    schema.ns = "Common" ∧ both.ns = other.ns := by
  have text : addresses.text.toList = _ := toList_of_eq_ofList rfl
  have otherText : people.text.toList = _ := toList_of_eq_ofList rfl
  have outline : (parse [addresses]).toOption.map (·.ns) = some "Common" := by
    rw [parse, List.mapM_cons, partsOf, Document.parse?, Xml.Document.ofText?, text]
    decide +kernel
  have otherOutline : (parse [people]).toOption.map (·.ns) = some "Staff" := by
    rw [parse, List.mapM_cons, partsOf, Document.parse?, Xml.Document.ofText?, otherText]
    decide +kernel
  have outlineOfBoth : (parse ([addresses] ++ [people])).toOption.map (·.ns) = some "Staff" := by
    rw [List.singleton_append, parse, List.mapM_cons, List.mapM_cons, partsOf, Document.parse?,
      Xml.Document.ofText?, text, partsOf, Document.parse?, Xml.Document.ofText?, otherText]
    decide +kernel
  have outlineOfParts : (Document.parse? addresses.text).map
      (·.map fun part => (part.alternative, part.containers.length)) = some [(none, 0)] := by
    rw [Document.parse?, Xml.Document.ofText?, text]
    decide +kernel
  have otherOutlineOfParts : (Document.parse? people.text).map
      (·.map fun part => (part.alternative, part.containers.length)) = some [(none, 1)] := by
    rw [Document.parse?, Xml.Document.ofText?, otherText]
    decide +kernel
  obtain ⟨schema, first, ns⟩ := Outcome.exists_of_toOption outline
  obtain ⟨other, second, -⟩ := Outcome.exists_of_toOption otherOutline
  obtain ⟨both, together, -⟩ := Outcome.exists_of_toOption outlineOfBoth
  obtain ⟨parts, read, seen⟩ := Option.map_eq_some_iff.1 outlineOfParts
  obtain ⟨otherParts, otherRead, otherSeen⟩ := Option.map_eq_some_iff.1 otherOutlineOfParts
  obtain ⟨part, rfl, only⟩ := List.map_eq_singleton_iff.1 seen
  obtain ⟨otherPart, rfl, otherOnly⟩ := List.map_eq_singleton_iff.1 otherSeen
  obtain ⟨plain, empty⟩ := Prod.mk.inj only
  obtain ⟨otherPlain, contained⟩ := Prod.mk.inj otherOnly
  have holds : partsIn [addresses] = [part] := by simp [partsIn, read]
  have otherHolds : partsIn [people] = [otherPart] := by simp [partsIn, otherRead]
  have allPlain : ∀ part ∈ partsIn ([addresses] ++ [people]), part.alternative = none := by
    rw [partsIn_append, holds, otherHolds]
    simp [plain, otherPlain]
  have absent : ¬ HasContainer (partsIn [addresses]) := by
    simpa [HasContainer, holds] using empty
  have present : HasContainer (partsIn [people]) :=
    ⟨otherPart, by simp [otherHolds], List.ne_nil_of_length_eq_add_one contained⟩
  obtain ⟨namespaces, follows, -, replaced⟩ := joins_of_parse allPlain first second together
  exact ⟨schema, other, both, first, second, together, namespaces, follows, ns,
    replaced ⟨absent, present⟩⟩

end ODataClient.Schema
