import ODataClient.Xml.Basic

/-!
# Scopes of prefixes

The namespaces that prefixes are bound to at a place in a document, and the mark by which an
element in a scope says that it stands for nothing.
-/

namespace ODataClient.Xml

/-- The namespace of the `xml` prefix. -/
def xmlNamespace : List Char := "http://www.w3.org/XML/1998/namespace".toList

/-- The namespace of namespace bindings. -/
def bindingNamespace : List Char := "http://www.w3.org/2000/xmlns/".toList

/-- The namespace of the attribute that marks elements as standing for nothing. -/
def instanceNamespace : List Char := "http://www.w3.org/2001/XMLSchema-instance".toList

/-- Whether a prefix may be bound to a namespace: `xml` and `xmlns` and their namespaces belong
to each other. -/
def isLawfulBinding : List Char × List Char → Bool
  | (bound, ns) =>
    if bound = ['x', 'm', 'l'] then ns = xmlNamespace
    else bound ≠ ['x', 'm', 'l', 'n', 's'] && ns ≠ xmlNamespace && ns ≠ bindingNamespace

/-- Whether a tag binds prefixes only as it may. -/
def Tag.isLawful (tag : Tag) : Bool := tag.bindings.all isLawfulBinding

/-- A prefix that is bound at a depth. -/
structure Binding where
  depth : Nat
  bound : List Char
  ns : List Char
deriving DecidableEq, Repr

/-- The bindings in force at a place, the innermost first, with the depth of the place. -/
structure Scopes where
  depth : Nat := 0
  bindings : List Binding := []
deriving DecidableEq, Repr

namespace Scopes

/-- The scopes inside an element. -/
def enter (scopes : Scopes) (tag : Tag) : Scopes where
  depth := scopes.depth + 1
  bindings :=
    (tag.bindings.map fun (bound, ns) => ⟨scopes.depth + 1, bound, ns⟩).reverse ++ scopes.bindings

/-- The scopes behind the end of an element. -/
def leave (scopes : Scopes) : Scopes where
  depth := scopes.depth - 1
  bindings := scopes.bindings.dropWhile fun binding => scopes.depth - 1 < binding.depth

/-- The namespace that a prefix is bound to. The empty prefix never is. -/
def namespace? (scopes : Scopes) (mark : List Char) : Option (List Char) :=
  if mark = [] then none
  else (scopes.bindings.find? fun binding => binding.bound = mark).map Binding.ns

/-- The scopes ahead of some nodes: those inside the first of them, if it is an element. -/
def ahead (scopes : Scopes) : List Node → Scopes
  | .element tag _ :: _ => scopes.enter tag
  | _ => scopes

/-- Whether an attribute marks its element as standing for nothing. -/
def marksNil (scopes : Scopes) (attr : Attribute) : Bool :=
  match splitName attr.name with
  | (some mark, localPart) =>
    localPart = ['n', 'i', 'l'] && scopes.namespace? mark = some instanceNamespace &&
      (attr.value = ['t', 'r', 'u', 'e'] || attr.value = ['1'])
  | (none, _) => false

/-- Whether an element with a tag stands for nothing. -/
def isNil (scopes : Scopes) (tag : Tag) : Bool :=
  tag.attributes.any fun attr? => attr?.any scopes.marksNil

end Scopes

end ODataClient.Xml
