import Mathlib.Data.List.Nodup
import ODataClient.Proofs.Model.ComplexOrder

/-!
# Visiting complex types by recursion

The walk through the graph of complex types keeps a stack of its own. Told by recursion, a type is
visited by visiting the types it depends on and noting it as finished after them. Both ways lead to
the same order, and to the same cycle.
-/

namespace ODataClient.ComplexGraph

variable {graph : ComplexGraph} {path types order finished : List String} {outer : List Frame}
  {type node : String}

/-- The types that are neither on a path nor finished. -/
def unmet (graph : ComplexGraph) (path order : List String) : List String :=
  graph.names.filter fun name => name ∉ path ∧ name ∉ order

theorem mem_unmet :
    type ∈ graph.unmet path order ↔ type ∈ graph.names ∧ type ∉ path ∧ type ∉ order := by
  simp [unmet]

/-- It does not matter whether the last type of the path is still on it or finished. -/
theorem unmet_concat : graph.unmet (path ++ [type]) order = graph.unmet path (order ++ [type]) := by
  refine List.filter_congr fun name _ => ?_
  simp [and_comm, and_assoc, and_left_comm]

theorem unmet_concat_eq_filter :
    graph.unmet (path ++ [type]) order = (graph.unmet path order).filter (· ≠ type) := by
  rw [unmet, unmet, List.filter_filter]
  refine List.filter_congr fun name _ => ?_
  simp [and_comm, and_assoc]

theorem erase_unmet (distinct : graph.names.Nodup) :
    (graph.unmet path order).erase type = graph.unmet (path ++ [type]) order := by
  have once : (graph.unmet path order).Nodup := distinct.filter _
  rw [once.erase_eq_filter, unmet_concat_eq_filter]
  refine List.filter_congr fun name _ => ?_
  by_cases same : name = type <;> simp [same]

theorem unmet_of_notMem (unknown : type ∉ graph.names) :
    graph.unmet (path ++ [type]) order = graph.unmet path order := by
  rw [unmet_concat_eq_filter, List.filter_eq_self]
  intro name isUnmet
  have differ : name ≠ type := fun same => unknown (same ▸ (mem_unmet.1 isUnmet).1)
  simpa using differ

theorem length_unmet_lt (isUnmet : type ∈ graph.unmet path order) :
    (graph.unmet (path ++ [type]) order).length < (graph.unmet path order).length := by
  rw [unmet_concat_eq_filter, List.length_filter_lt_length_iff_exists]
  exact ⟨type, isUnmet, by simp⟩

/-- Visits types one after the other, from the end of a path of types that are not finished. A type
that is finished is passed over, and one on the path closes a cycle. Any other is finished once the
types it depends on have been visited. -/
def visit (graph : ComplexGraph) (path types order : List String) :
    Except (List String) (List String) :=
  match types with
  | [] => .ok order
  | type :: types =>
    if type ∈ order then graph.visit path types order
    else if type ∈ path then .error (path.dropWhile (· ≠ type) ++ [type])
    else do
      let order ← graph.visit (path ++ [type]) (graph.dependencies type) order
      graph.visit path types (order ++ [type])
termination_by ((graph.unmet path []).length, types.length)
decreasing_by
  · simp [Prod.lex_def]
  · next _ notOnPath =>
    -- a type that is not in the graph leaves as many unmet, but there is nothing to visit behind it
    by_cases isType : type ∈ graph.names
    · exact .left _ _ (length_unmet_lt (mem_unmet.2 ⟨isType, notOnPath, by simp⟩))
    · simp [Prod.lex_def, unmet_of_notMem isType, dependencies_of_notMem isType]
  · simp [Prod.lex_def]

theorem concat_disjoint (notDone : type ∉ order) (disjoint : path.Disjoint order) :
    (path ++ [type]).Disjoint order :=
  List.disjoint_append_left.2 ⟨disjoint, List.singleton_disjoint.2 notDone⟩

theorem disjoint_concat (notOnPath : type ∉ path) (disjoint : (path ++ [type]).Disjoint order) :
    path.Disjoint (order ++ [type]) :=
  List.disjoint_append_right.2
    ⟨(List.disjoint_append_left.1 disjoint).1, List.disjoint_singleton.2 notOnPath⟩

/-- What is finished after a visit: what was finished before, the types that were to be visited, and
nothing that is on the path. -/
structure Visited (path types order finished : List String) : Prop where
  earlier : order ⊆ finished
  types : types ⊆ finished
  disjoint : path.Disjoint order → path.Disjoint finished

theorem visit_eq_ok (visited : graph.visit path types order = .ok finished) :
    Visited path types order finished := by
  fun_induction graph.visit path types order generalizing finished with
  | case1 path order =>
      cases visited
      exact ⟨List.Subset.refl order, List.nil_subset order, id⟩
  | case2 path order type types done ih =>
      obtain ⟨earlier, others, disjoint⟩ := ih visited
      exact ⟨earlier, List.cons_subset.2 ⟨earlier done, others⟩, disjoint⟩
  | case3 path order type types notDone onPath => contradiction
  | case4 path order type types notDone notOnPath inner onward =>
      obtain ⟨middle, within, rest⟩ := Outcome.bind_eq_ok_iff.1 visited
      obtain ⟨before, -, apart⟩ := inner within
      obtain ⟨later, others, disjoint⟩ := onward middle rest
      refine ⟨?_, List.cons_subset.2 ⟨later (by simp), others⟩, fun start => disjoint ?_⟩
      · exact fun name member => later (List.mem_append_left _ (before member))
      · exact disjoint_concat notOnPath (apart (concat_disjoint notDone start))

/-- A walk does what a visit does: it comes to where the type on top of the stack has nothing left
to look at, or to the same cycle. By induction on the visit, with the stack as its path. -/
theorem walk_eq_visit (distinct : graph.names.Nodup) (known : types ⊆ graph.names)
    (isPath : path = (node :: outer.map Frame.node).reverse) (disjoint : path.Disjoint order) :
    graph.walk (graph.unmet path order) (⟨node, types⟩ :: outer) order =
      graph.visit path types order >>= fun finished =>
        graph.walk (graph.unmet path finished) (⟨node, []⟩ :: outer) finished := by
  fun_induction graph.visit path types order generalizing node outer with
  | case1 path order => rfl
  | case2 path order type types done ih =>
      have met : type ∉ graph.unmet path order := fun isUnmet => (mem_unmet.1 isUnmet).2.2 done
      have left : type ∉ path := fun onPath => disjoint onPath done
      rw [walk, dif_neg met]
      simp only [← isPath, if_neg left]
      exact ih (List.subset_of_cons_subset known) isPath disjoint
  | case3 path order type types notDone onPath =>
      have met : type ∉ graph.unmet path order := fun isUnmet => (mem_unmet.1 isUnmet).2.1 onPath
      rw [walk, dif_neg met]
      simp only [← isPath, if_pos onPath]
      rfl
  | case4 path order type types notDone notOnPath inner onward =>
      have isUnmet : type ∈ graph.unmet path order :=
        mem_unmet.2 ⟨known List.mem_cons_self, notOnPath, notDone⟩
      have longer := concat_disjoint notDone disjoint
      rw [walk, dif_pos isUnmet, erase_unmet distinct, bind_assoc,
        inner (fun name => mem_names_of_mem_dependencies) (by simp [isPath]) longer]
      refine Outcome.bind_congr_of_ok fun middle visited => ?_
      have apart := (visit_eq_ok visited).disjoint longer
      rw [walk, unmet_concat]
      exact onward middle (List.subset_of_cons_subset known) isPath
        (disjoint_concat notOnPath apart)

theorem unmet_nil_of_split {before roots : List String} (split : graph.names = before ++ roots)
    (done : before ⊆ order) : graph.unmet [] order = roots.filter (· ∉ order) := by
  have none : before.filter (· ∉ order) = [] :=
    List.filter_eq_nil_iff.2 fun name member => by simpa using done member
  have all : graph.unmet [] order = graph.names.filter (· ∉ order) := by simp [unmet]
  rw [all, split, List.filter_append, none, List.nil_append]

/-- From an empty stack, a walk does what a visit does of the types that have not been looked at as
roots. By induction on these. -/
theorem walk_nil_eq_visit {before roots : List String} (distinct : graph.names.Nodup)
    (split : graph.names = before ++ roots) (done : before ⊆ order) :
    graph.walk (graph.unmet [] order) [] order = graph.visit [] roots order := by
  have left := unmet_nil_of_split split done
  induction roots generalizing before order with
  | nil => simp [left, walk, visit]
  | cons root roots ih =>
      have next : graph.names = (before ++ [root]) ++ roots := by simp [split]
      by_cases met : root ∈ order
      · have covered : before ++ [root] ⊆ order := by simpa [met] using done
        rw [visit, if_pos met]
        exact ih next covered (unmet_nil_of_split next covered)
      · rw [List.filter_cons_of_pos (by simpa using met)] at left
        have others : roots.filter (· ∉ order) = graph.unmet [root] order := by
          have erased : (graph.unmet [] order).erase root = graph.unmet ([] ++ [root]) order :=
            erase_unmet distinct
          rwa [left, List.erase_cons_head, List.nil_append] at erased
        have known : graph.dependencies root ⊆ graph.names := fun name =>
          mem_names_of_mem_dependencies
        have begun : graph.walk (graph.unmet [root] order) [⟨root, graph.dependencies root⟩] order =
            graph.visit [root] (graph.dependencies root) order >>= fun finished =>
              graph.walk (graph.unmet [root] finished) [⟨root, []⟩] finished :=
          walk_eq_visit distinct known rfl (by simpa using met)
        rw [visit, if_neg met, if_neg List.not_mem_nil, left, others, walk, List.nil_append, begun]
        refine Outcome.bind_congr_of_ok fun finished visited => ?_
        have earlier : before ⊆ finished := List.Subset.trans done (visit_eq_ok visited).earlier
        have covered : before ++ [root] ⊆ finished ++ [root] :=
          List.append_subset.2 ⟨List.subset_append_of_subset_left _ earlier, by simp⟩
        -- the root is left on an empty stack, where it counts as finished and not as on the path
        rw [walk, ← ih next covered (unmet_nil_of_split next covered)]
        rw [← List.nil_append [root], unmet_concat]
        rfl

theorem visit_append {others : List String} :
    graph.visit path (types ++ others) order =
      graph.visit path types order >>= fun finished => graph.visit path others finished := by
  induction types generalizing order with
  | nil =>
      conv_rhs => rw [visit]
      rfl
  | cons type types ih =>
      rw [List.cons_append, visit]
      conv_rhs => rw [visit]
      split
      · exact ih
      · split
        · rfl
        · rw [bind_assoc]
          exact bind_congr fun finished => ih

/-- A type that is declared twice is passed over the second time. -/
theorem visit_ofEntries {α : Type} {entries : List (String × α)} :
    graph.visit [] ((Dictionary.ofEntries entries).map Prod.fst) order =
      graph.visit [] (entries.map Prod.fst) order := by
  induction entries using List.reverseRecOn with
  | nil => rfl
  | append_singleton entries entry ih =>
      rw [Dictionary.ofEntries_concat, List.map_append, List.map_singleton, visit_append, ← ih]
      by_cases present : entry.1 ∈ (Dictionary.ofEntries entries).map Prod.fst
      · have again : graph.visit [] ((Dictionary.ofEntries entries).map Prod.fst) order >>= pure =
            graph.visit [] ((Dictionary.ofEntries entries).map Prod.fst) order >>= fun finished =>
              graph.visit [] [entry.1] finished := by
          refine Outcome.bind_congr_of_ok fun finished visited => ?_
          have done : entry.1 ∈ finished := (visit_eq_ok visited).types present
          rw [visit, if_pos done, visit]
          rfl
        rw [Dictionary.keys_insert_of_mem present, ← again, bind_pure]
      · rw [Dictionary.insert_of_notMem present, List.map_append, visit_append]
        rfl

/-- The walk through the complex types of a schema finds what visiting them by recursion in the
order of their declaration finds: the same order, or the same cycle. Each type leads on to the
complex types that its properties are of, in the order of the properties. -/
theorem postOrder_eq_visit (schema : Schema) :
    (ofSchema schema).IsGraphOf schema ∧
    (ofSchema schema).postOrder =
      (ofSchema schema).visit [] (schema.complexTypes.map (·.qualifiedName)) [] := by
  refine ⟨isGraphOf_ofSchema schema, ?_⟩
  have all : (ofSchema schema).unmet [] [] = (ofSchema schema).names := by simp [unmet]
  calc (ofSchema schema).postOrder
    _ = (ofSchema schema).walk ((ofSchema schema).unmet [] []) [] [] := by rw [all, postOrder]
    _ = (ofSchema schema).visit [] (ofSchema schema).names [] :=
        walk_nil_eq_visit nodup_names_ofSchema (List.nil_append _).symm (List.nil_subset [])
    _ = (ofSchema schema).visit []
          ((schema.complexTypes.map fun type => (type.qualifiedName, type)).map Prod.fst) [] :=
        visit_ofEntries
    _ = _ := by rw [List.map_map]; rfl

end ODataClient.ComplexGraph
