import ODataClient.Proofs.Outcome
import ODataClient.Schema.Merge

/-!
# Accepted documents

What is known of the documents of a service once a schema has been read from them: which alternative
names they give to namespaces, and that the references of the schema have been checked.
-/

namespace ODataClient.Schema

variable {sources : List Source} {schema : Schema}

/-- The characters of a literal are found in this way without a detour over its bytes. -/
theorem toList_of_eq_ofList {text : String} {characters : List Char}
    (same : text = String.ofList characters) : text.toList = characters := by
  rw [same, String.toList_ofList]

/-- The alternative name of the namespace of a part, with that namespace. -/
def alternative? (part : Document.Part) : Option (String × String) :=
  part.ns.bind fun ns => part.alternative.map fun name => (name, ns)

/-- The documents with the alternative names that they give to namespaces, the latest first. -/
def contextOf (sources : List Source) : MergeContext where
  sources
  alternatives :=
    ((sources.filterMap fun source => Document.parse? source.text).flatten.filterMap
      alternative?).reverse

theorem namespaceOf_eq_ok {part : Document.Part} {ns : String}
    (found : namespaceOf sources part = .ok ns) : part.ns = some ns := by
  unfold namespaceOf at found
  cases named : part.ns with
  | none =>
      rw [named] at found
      contradiction
  | some given =>
      rw [named] at found
      cases found
      rfl

theorem partsOf_eq_ok {source : Source} {parts : List Document.Part}
    (read : partsOf source = .ok parts) : Document.parse? source.text = some parts := by
  unfold partsOf at read
  split at read
  · next found =>
    cases read
    exact found
  · contradiction

theorem filterMap_parse? {parts : List (List Document.Part)}
    (read : List.Forall₂ (fun source part => partsOf source = .ok part) sources parts) :
    sources.filterMap (fun source => Document.parse? source.text) = parts := by
  induction read with
  | nil => rfl
  | cons first _ ih => rw [List.filterMap_cons, partsOf_eq_ok first, ih]

theorem alternativesOf_zip {parts : List Document.Part} {namespaces : List String}
    (named : List.Forall₂ (fun part ns => part.ns = some ns) parts namespaces) :
    alternativesOf (namespaces.zip parts) = (parts.filterMap alternative?).reverse := by
  unfold alternativesOf
  congr 1
  induction named with
  | nil => rfl
  | @cons part ns parts namespaces found _ ih =>
      have first : alternative? part = part.alternative.map fun name => (name, ns) := by
        rw [alternative?, found, Option.bind_some]
      rw [List.zip_cons_cons, List.filterMap_cons, List.filterMap_cons, first, ih]

/-- The constructs of parts behind their namespaces, in the order in which they are taken. -/
def itemsOf (named : List (String × Document.Part)) : List (String × Declaration) :=
  named.flatMap fun (ns, part) => (declarations ns part).map fun item => (ns, item)

/-- A schema that parts are put together into is what their constructs have been merged into, and its
references have been checked. -/
theorem ofParts_eq_ok {parts : List Document.Part} (made : ofParts sources parts = .ok schema) :
    ∃ namespaces merging,
      List.Forall₂ (fun part ns => part.ns = some ns) parts namespaces ∧
      (itemsOf (namespaces.zip parts)).foldlM
        (Merging.take { sources, alternatives := (parts.filterMap alternative?).reverse })
        { schema := { ns := mainNamespace (namespaces.zip parts), namespaces }, declared := [] } =
          .ok merging ∧
      merging.schema = schema ∧
      checkReferences { sources, alternatives := (parts.filterMap alternative?).reverse } schema =
        .ok () := by
  obtain ⟨namespaces, found, made⟩ := Outcome.bind_eq_ok_iff.1 made
  have named : List.Forall₂ (fun part ns => part.ns = some ns) parts namespaces :=
    (Outcome.mapM_eq_ok_iff.1 found).imp fun _ _ => namespaceOf_eq_ok
  obtain ⟨merging, merged, made⟩ := Outcome.bind_eq_ok_iff.1 made
  obtain ⟨_, checked, same⟩ := Outcome.bind_eq_ok_iff.1 made
  cases same
  rw [alternativesOf_zip named] at merged checked
  exact ⟨namespaces, merging, named, merged, rfl, checked⟩

/-- The parts of all documents, in order. -/
def partsIn (sources : List Source) : List Document.Part :=
  (sources.filterMap fun source => Document.parse? source.text).flatten

theorem partsIn_append {others : List Source} :
    partsIn (sources ++ others) = partsIn sources ++ partsIn others := by
  rw [partsIn, List.filterMap_append, List.flatten_append]
  rfl

/-- Accepted documents have parts, which have been put together. -/
theorem ofParts_of_parse (accepted : parse sources = .ok schema) :
    partsIn sources ≠ [] ∧ ofParts sources (partsIn sources) = .ok schema := by
  obtain ⟨parts, read, accepted⟩ := Outcome.bind_eq_ok_iff.1 accepted
  rw [partsIn, filterMap_parse? (Outcome.mapM_eq_ok_iff.1 read)]
  split at accepted
  · contradiction
  · next present => exact ⟨fun nothing => present (List.isEmpty_iff.2 nothing), accepted⟩

/-- The schema of accepted documents is what all their constructs have been merged into, and its
references have been checked. -/
theorem merged_of_parse (accepted : parse sources = .ok schema) :
    ∃ ns namespaces items merging,
      List.foldlM (Merging.take (contextOf sources))
        { schema := { ns, namespaces }, declared := [] } items = .ok merging ∧
      merging.schema = schema ∧ checkReferences (contextOf sources) schema = .ok () := by
  obtain ⟨namespaces, merging, -, merged, same, checked⟩ :=
    ofParts_eq_ok (ofParts_of_parse accepted).2
  exact ⟨_, namespaces, _, merging, merged, same, checked⟩

/-- The references of accepted documents have been checked. -/
theorem checkReferences_of_parse (accepted : parse sources = .ok schema) :
    checkReferences (contextOf sources) schema = .ok () := by
  obtain ⟨_, _, _, _, _, _, checked⟩ := merged_of_parse accepted
  exact checked

end ODataClient.Schema
