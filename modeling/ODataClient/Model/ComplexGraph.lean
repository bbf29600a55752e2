import ODataClient.Dictionary
import ODataClient.Schema.Basic
import ODataClient.Schema.TypeReference

/-!
# The graph of complex types

A complex type depends on the complex types that its properties are of. The types can be ordered so
that each comes after those it depends on, unless one of them depends on itself. The order is found
by walking the graph in depth, with a stack of the types that are being visited.
-/

namespace ODataClient

/-- The complex types of a schema under their qualified names. Of two types with one name, the
later one counts, in the place of the first. -/
structure ComplexGraph where
  nodes : Dictionary Schema.ComplexType

namespace ComplexGraph

def ofSchema (schema : Schema) : ComplexGraph where
  nodes := Dictionary.ofEntries (schema.complexTypes.map fun type => (type.qualifiedName, type))

/-- A type on the stack, with those of its dependencies that have not been looked at. -/
structure Frame where
  node : String
  pending : List String
deriving DecidableEq, Repr

variable (graph : ComplexGraph)

/-- The names of the types, in the order of their declaration. -/
def names : List String := graph.nodes.map Prod.fst

def find? (name : String) : Option Schema.ComplexType :=
  graph.nodes.get? name

/-- The types of the graph that the properties of a type are of, in the order of the properties. -/
def dependencies (name : String) : List String :=
  match graph.find? name with
  | none => []
  | some type =>
    (type.properties.filterMap fun property =>
      (TypeReference.parse property.type).toOption.bind TypeReference.qualifiedName?).filter
        graph.names.contains

/-- The steps that are left for the types on the stack. -/
def pendingSteps (stack : List Frame) : Nat :=
  stack.foldr (fun frame steps => frame.pending.length + 1 + steps) 0

/-- Walks on from a point at which the types in `fresh` have not been met, those on the stack are
being visited, and those in `order` are finished. A dependency that is being visited closes a cycle,
which is the result then. -/
def walk (fresh : List String) (stack : List Frame) (order : List String) :
    Except (List String) (List String) :=
  match stack with
  | [] =>
    match fresh with
    | [] => .ok order
    | root :: fresh => walk fresh [⟨root, graph.dependencies root⟩] order
  | ⟨node, []⟩ :: outer => walk fresh outer (order ++ [node])
  | ⟨node, next :: pending⟩ :: outer =>
    if _h : next ∈ fresh then
      walk (fresh.erase next) (⟨next, graph.dependencies next⟩ :: ⟨node, pending⟩ :: outer) order
    else
      let path := (node :: outer.map Frame.node).reverse
      if next ∈ path then .error (path.dropWhile (· ≠ next) ++ [next])
      else walk fresh (⟨node, pending⟩ :: outer) order
termination_by (fresh.length, pendingSteps stack)
decreasing_by
  · simp [Prod.lex_def]
  · simp [pendingSteps, Prod.lex_def]
  · have := List.length_pos_of_mem _h
    simp only [Prod.lex_def, List.length_erase_of_mem _h]
    exact .inl (Nat.sub_lt this Nat.one_pos)
  · simp [pendingSteps, Prod.lex_def]

/-- The names of the types, each after those it depends on, or a cycle: a way along dependencies
from a type back to itself. -/
def postOrder : Except (List String) (List String) :=
  graph.walk graph.names [] []

end ComplexGraph

end ODataClient
