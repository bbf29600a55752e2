import ODataClient.Name.Registry

/-!
# Runs of a registry

Whole sequences of operations on a registry, with the answers that they give.
-/

namespace ODataClient.Name

/-- One operation on a registry. -/
inductive Operation where
  | resolve (request : Request)
  | reserve (scope : Scope) (name : String)
  | isTaken (scope : Scope) (name : String)
  | lookup (slot : Slot)
deriving DecidableEq, Repr

/-- What an operation answers. -/
inductive Answer where
  | named (name : String)
  | refused (error : NameError)
  | reserved
  | taken (isTaken : Bool)
  | found (name : Option String)
deriving DecidableEq, Repr

/-- The scope that an operation is addressed to. -/
def Operation.scope : Operation → Scope
  | resolve request => request.slot.scope
  | reserve scope _ => scope
  | isTaken scope _ => scope
  | lookup slot => slot.scope

/-- Carries out one operation. A refused request leaves the scope open that it is addressed to. -/
def Registry.step (registry : Registry) : Operation → Answer × Registry
  | .resolve request =>
    match registry.resolve request with
    | .ok (name, next) => (.named name, next)
    | .error error => (.refused error, registry.opened request.slot.scope)
  | .reserve scope name => (.reserved, registry.reserve scope name)
  | .isTaken scope name => (.taken (registry.isTaken scope name), registry)
  | .lookup slot => (.found (registry.lookup slot), registry)

def Registry.run (registry : Registry) : List Operation → List Answer × Registry
  | [] => ([], registry)
  | operation :: operations =>
    let (answer, next) := registry.step operation
    let (answers, last) := next.run operations
    (answer :: answers, last)

end ODataClient.Name
