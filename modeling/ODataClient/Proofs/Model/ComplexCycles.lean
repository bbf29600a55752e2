import Mathlib.Algebra.BigOperators.Group.List.Basic
import Mathlib.Algebra.Ring.Nat
import Mathlib.Data.List.Chain
import ODataClient.Proofs.Model.ComplexOrder

/-!
# Cycles of complex types

The walk through the graph of complex types takes one step to enter or leave a type and one to look
at a dependency, so it comes to an end. It ends with an order exactly if no type reaches itself
along dependencies; otherwise it ends with a way from a type back to itself.
-/

namespace ODataClient.ComplexGraph

variable {graph : ComplexGraph} {fresh order cycle path : List String} {stack outer : List Frame}
  {node next name dependency : String}

/-- A type has a property of another complex type, or of its own. -/
def DependsOn (graph : ComplexGraph) (name dependency : String) : Prop :=
  dependency ∈ graph.dependencies name

theorem DependsOn.mem_names (depends : graph.DependsOn name dependency) : name ∈ graph.names := by
  by_contra unknown
  simp [DependsOn, dependencies_of_notMem unknown] at depends

/-- A way along dependencies from a type back to itself, on which no other type is met twice. -/
structure IsCycle (graph : ComplexGraph) (cycle : List String) : Prop where
  length : 2 ≤ cycle.length
  closed : cycle.head? = cycle.getLast?
  distinct : cycle.dropLast.Nodup
  isChain : cycle.IsChain graph.DependsOn

theorem IsCycle.reachesItself (isCycle : graph.IsCycle cycle) :
    ∃ name ∈ graph.names, Relation.TransGen graph.DependsOn name name := by
  match cycle, isCycle with
  | first :: second :: rest, isCycle =>
      have last : (second :: rest).getLast (List.cons_ne_nil second rest) = first := by
        simpa [List.getLast?_eq_some_getLast] using isCycle.closed.symm
      obtain ⟨edge, isChain⟩ := List.isChain_cons_cons.1 isCycle.isChain
      have onward := List.relationReflTransGen_of_exists_isChain_cons rest isChain last
      exact ⟨first, edge.mem_names, .head' edge onward⟩

/-- A way along dependencies that leads on to a type already on it goes around a cycle. -/
theorem isCycle_of_path (isChain : path.IsChain graph.DependsOn) (distinct : path.Nodup)
    (onward : ∀ node ∈ path.getLast?, graph.DependsOn node next) (met : next ∈ path) :
    graph.IsCycle (path.dropWhile (· ≠ next) ++ [next]) := by
  obtain ⟨before, after, rfl, absent⟩ := List.eq_append_cons_of_mem met
  have around : (before ++ next :: after).dropWhile (· ≠ next) = next :: after := by
    rw [List.dropWhile_append_of_pos fun name member => ?_]
    · simp
    · have differ : name ≠ next := fun same => absent (same ▸ member)
      simpa using differ
  rw [around]
  constructor
  · simp
  · rw [List.getLast?_concat]
    rfl
  · rw [List.dropLast_concat]
    exact distinct.of_append_right
  · refine isChain.right_of_append.append (.singleton next) fun node isLast other isNext => ?_
    obtain rfl : next = other := by simpa using isNext
    refine onward node ?_
    rwa [List.getLast?_append_of_ne_nil before (List.cons_ne_nil next after)]

/-- Each type on the stack is a dependency of the one below it. -/
def IsStacked (graph : ComplexGraph) (stack : List Frame) : Prop :=
  (stack.map Frame.node).IsChain fun inner outer => graph.DependsOn outer inner

theorem isStacked_nil : graph.IsStacked [] :=
  List.isChain_nil

/-- The type on top of the stack depends on the one that is looked at next. -/
theorem Walking.dependsOn {pending : List String}
    (walking : graph.Walking fresh (⟨node, next :: pending⟩ :: outer) order) :
    graph.DependsOn node next := by
  obtain ⟨⟨seen, split, -⟩, -⟩ := walking.waiting
  simp [DependsOn, split]

theorem Walking.nodup_path (walking : graph.Walking fresh stack order)
    (distinct : graph.names.Nodup) : (stack.map Frame.node).reverse.Nodup := by
  have all := walking.types.nodup_iff.2 distinct
  exact List.nodup_reverse.2 all.of_append_right.of_append_left

/-- A walk that does not end with an order ends with a cycle: by induction on the steps of the walk,
what is on the stack is a way along dependencies. -/
theorem Walking.isCycle (distinct : graph.names.Nodup) (walking : graph.Walking fresh stack order)
    (stacked : graph.IsStacked stack) (walked : graph.walk fresh stack order = .error cycle) :
    graph.IsCycle cycle := by
  fun_induction graph.walk fresh stack order with
  | case1 order => cases walked
  | case2 order root fresh ih => exact ih walking.enter (.singleton root) walked
  | case3 fresh order node outer ih => exact ih walking.leave stacked.tail walked
  | case4 fresh order node next pending outer isFresh ih =>
      exact ih (walking.push isFresh) (stacked.cons_cons walking.dependsOn) walked
  | case5 fresh order node next pending outer notFresh path visited =>
      have onStack : next ∈ (node :: outer.map Frame.node).reverse := by simpa [path] using visited
      simp only [if_pos onStack, Except.error.injEq] at walked
      rw [← walked]
      have isChain : (node :: outer.map Frame.node).reverse.IsChain graph.DependsOn :=
        List.isChain_reverse.2 stacked
      refine isCycle_of_path isChain (walking.nodup_path distinct) (fun top isTop => ?_) onStack
      obtain rfl : node = top := by simpa using isTop
      exact walking.dependsOn
  | case6 fresh order node next pending outer notFresh path notVisited ih =>
      have notOnStack : next ∉ (node :: outer.map Frame.node).reverse := by
        simpa [path] using notVisited
      refine ih (walking.skip notFresh notOnStack) stacked ?_
      simpa only [if_neg notOnStack] using walked

theorem postOrder_eq_error (distinct : graph.names.Nodup)
    (refused : graph.postOrder = .error cycle) : graph.IsCycle cycle :=
  Walking.isCycle distinct ⟨by simp, dependenciesFirst_nil, by trivial⟩ isStacked_nil refused

theorem DependenciesFirst.idxOf_lt (first : graph.DependenciesFirst order) (distinct : order.Nodup)
    (member : node ∈ order) (depends : graph.DependsOn node dependency) :
    order.idxOf dependency < order.idxOf node := by
  obtain ⟨before, after, rfl⟩ := List.append_of_mem member
  have earlier : dependency ∈ before := first before node after rfl dependency depends
  have absent : node ∉ before := fun present =>
    List.disjoint_of_nodup_append distinct present List.mem_cons_self
  rw [List.idxOf_append_of_mem earlier, List.idxOf_append_of_notMem absent]
  exact Nat.lt_add_right _ (List.idxOf_lt_length_iff.2 earlier)

/-- In a graph of which the types can be ordered, no type reaches itself: along dependencies the
positions in the order go down. -/
theorem DependenciesFirst.not_reachesItself (first : graph.DependenciesFirst order)
    (distinct : order.Nodup) (complete : ∀ name ∈ graph.names, name ∈ order) :
    ¬ Relation.TransGen graph.DependsOn name name := by
  intro around
  have goesDown (name dependency : String) (depends : graph.DependsOn name dependency) :
      order.idxOf name > order.idxOf dependency :=
    first.idxOf_lt distinct (complete name depends.mem_names) depends
  have lower : Relation.TransGen (· > ·) (order.idxOf name) (order.idxOf name) :=
    around.lift order.idxOf goesDown
  rw [Relation.transGen_eq_self] at lower
  exact lt_irrefl _ lower

/-- A position of the walk. -/
structure Position where
  fresh : List String
  stack : List Frame
  order : List String

/-- What one step of the walk leads to: the next position, or the result. -/
def advance (graph : ComplexGraph) : Position → Position ⊕ Except (List String) (List String)
  | ⟨[], [], order⟩ => .inr (.ok order)
  | ⟨root :: fresh, [], order⟩ => .inl ⟨fresh, [⟨root, graph.dependencies root⟩], order⟩
  | ⟨fresh, ⟨node, []⟩ :: outer, order⟩ => .inl ⟨fresh, outer, order ++ [node]⟩
  | ⟨fresh, ⟨node, next :: pending⟩ :: outer, order⟩ =>
    let path := (node :: outer.map Frame.node).reverse
    if next ∈ fresh then
      .inl ⟨fresh.erase next, ⟨next, graph.dependencies next⟩ :: ⟨node, pending⟩ :: outer, order⟩
    else if next ∈ path then .inr (.error (path.dropWhile (· ≠ next) ++ [next]))
    else .inl ⟨fresh, ⟨node, pending⟩ :: outer, order⟩

/-- The result of the walk from a position, if it is reached within a number of steps. -/
def resultWithin (graph : ComplexGraph) :
    Nat → Position → Option (Except (List String) (List String))
  | 0, _ => none
  | steps + 1, position =>
    match graph.advance position with
    | .inl next => graph.resultWithin steps next
    | .inr result => some result

/-- How many steps are left at most: one to leave each type on the stack and two to enter and leave
each fresh one, besides one for each dependency. -/
def stepsLeft (graph : ComplexGraph) (position : Position) : Nat :=
  (position.fresh.map fun name => (graph.dependencies name).length + 2).sum +
    pendingSteps position.stack

/-- How many dependencies there are in a graph. -/
def size (graph : ComplexGraph) : Nat :=
  (graph.names.map fun name => (graph.dependencies name).length).sum

theorem stepsLeft_advance {position following : Position}
    (advanced : graph.advance position = .inl following) :
    graph.stepsLeft following < graph.stepsLeft position := by
  unfold advance at advanced
  split at advanced
  · contradiction
  · cases advanced
    simp only [stepsLeft, pendingSteps, List.map_cons, List.sum_cons, List.foldr_cons,
      List.foldr_nil]
    omega
  · cases advanced
    simp only [stepsLeft, pendingSteps, List.foldr_cons, List.length_nil]
    omega
  · next fresh node next pending outer order =>
    simp only at advanced
    split at advanced
    · next isFresh =>
      cases advanced
      have apart := List.sum_map_erase (fun name => (graph.dependencies name).length + 2) isFresh
      simp only [stepsLeft, pendingSteps, List.foldr_cons, List.length_cons]
      omega
    · split at advanced
      · contradiction
      · cases advanced
        simp only [stepsLeft, pendingSteps, List.foldr_cons, List.length_cons]
        omega

theorem stepsLeft_start :
    graph.stepsLeft ⟨graph.names, [], []⟩ = 2 * graph.names.length + graph.size := by
  have apart : (graph.names.map fun name => (graph.dependencies name).length + 2).sum =
      graph.size + graph.names.length * 2 := by
    rw [List.sum_map_add, List.map_const', List.sum_replicate_nat, size]
  simp only [stepsLeft, pendingSteps, List.foldr_nil, apart]
  omega

theorem walk_eq_advance (position : Position) :
    graph.walk position.fresh position.stack position.order =
      (graph.advance position).elim
        (fun following => graph.walk following.fresh following.stack following.order) id := by
  unfold advance
  split
  · simp [walk]
  · rw [walk]
    rfl
  · rw [walk]
    rfl
  · next fresh node next pending outer order =>
    rw [walk]
    split
    · rfl
    · simp only
      split <;> rfl

/-- The result is there once as many steps have been taken as there can be. -/
theorem resultWithin_of_stepsLeft {steps : Nat} {position : Position}
    (enough : graph.stepsLeft position < steps) :
    graph.resultWithin steps position =
      some (graph.walk position.fresh position.stack position.order) := by
  induction steps generalizing position with
  | zero => omega
  | succ steps ih =>
      rw [resultWithin, walk_eq_advance]
      cases advanced : graph.advance position with
      | inl following =>
          have fewer := stepsLeft_advance advanced
          exact ih (by omega)
      | inr result => rfl

/-- The types of a graph, each of them once and behind those it depends on. -/
structure IsPostOrder (graph : ComplexGraph) (order : List String) : Prop where
  distinct : order.Nodup
  mem_iff : ∀ name, name ∈ order ↔ name ∈ graph.names
  dependenciesFirst : graph.DependenciesFirst order

theorem isPostOrder_of_postOrder (distinct : graph.names.Nodup)
    (ordered : graph.postOrder = .ok order) : graph.IsPostOrder order := by
  obtain ⟨same, first⟩ := postOrder_eq_ok ordered
  exact ⟨same.nodup_iff.2 distinct, fun name => same.mem_iff, first⟩

/-- The dependencies of a complex type are the complex types of the schema that its properties are
of. The walk through them comes to its result after at most two steps for each type and one for each
dependency, and one that ends it. There is no order exactly if a type reaches itself along one or
more dependencies. An order has each type once, behind those that it depends on; what there is
instead of an order is a cycle. -/
theorem postOrder_settles (schema : Schema) :
    let graph := ofSchema schema
    graph.IsGraphOf schema ∧
    (∀ steps > 2 * graph.names.length + graph.size,
      graph.resultWithin steps ⟨graph.names, [], []⟩ = some graph.postOrder) ∧
    ((∃ cycle, graph.postOrder = .error cycle) ↔
      ∃ name ∈ graph.names, Relation.TransGen graph.DependsOn name name) ∧
    (∀ order, graph.postOrder = .ok order → graph.IsPostOrder order) ∧
    (∀ cycle, graph.postOrder = .error cycle → graph.IsCycle cycle) := by
  intro graph
  have distinct : graph.names.Nodup := nodup_names_ofSchema
  have ordered (order : List String) : graph.postOrder = .ok order → graph.IsPostOrder order :=
    isPostOrder_of_postOrder distinct
  have refused (cycle : List String) : graph.postOrder = .error cycle → graph.IsCycle cycle :=
    postOrder_eq_error distinct
  refine ⟨isGraphOf_ofSchema schema, fun steps enough => resultWithin_of_stepsLeft ?_, ⟨?_, ?_⟩,
    ordered, refused⟩
  · rwa [stepsLeft_start]
  · rintro ⟨cycle, result⟩
    exact (refused cycle result).reachesItself
  · rintro ⟨name, -, around⟩
    cases result : graph.postOrder with
    | error cycle => exact ⟨cycle, rfl⟩
    | ok order =>
        obtain ⟨once, same, first⟩ := ordered order result
        exact (first.not_reachesItself once (fun other => (same other).2) around).elim

end ODataClient.ComplexGraph
