import ODataClient.Unicode.Property

/-!
# Type references

The texts by which a schema names types: a primitive such as `Edm.String`, a type of a schema such
as `Sales.Address`, or a collection of one of these.
-/

namespace ODataClient

/-- A type that stands alone or makes up a collection. -/
inductive ElementType where
  /-- A primitive, kept with its `Edm.` in front. -/
  | primitive (name : String)
  /-- A type that a schema declares. -/
  | declared (ns name : String)
deriving DecidableEq, Repr

inductive TypeReference where
  | single (type : ElementType)
  | collection (type : ElementType)
deriving DecidableEq, Repr

/-- Why a text is no type reference. -/
inductive TypeReferenceError where
  | empty
  | unclosedCollection
  | nestedCollection
  | unqualified
deriving DecidableEq, Repr

def TypeReferenceError.message : TypeReferenceError → String
  | empty => "the reference is empty"
  | unclosedCollection => "'Collection(' is not closed"
  | nestedCollection => "collections of collections are not supported"
  | unqualified => "expected a namespace-qualified name"

namespace ElementType

def text : ElementType → String
  | primitive name => name
  | declared ns name => ns ++ "." ++ name

/-- The qualified name of a type that a schema declares. -/
def qualifiedName? : ElementType → Option String
  | primitive _ => none
  | declared ns name => some (ns ++ "." ++ name)

/-- The type with its namespace replaced by what `rename` gives for it. -/
def mapNamespace (rename : String → String) : ElementType → ElementType
  | primitive name => primitive name
  | declared ns name => declared (rename ns) name

/-- The parts before and after the last point. -/
def splitLastPoint : List Char → Option (List Char × List Char)
  | [] => none
  | c :: rest =>
    match splitLastPoint rest with
    | some (before, after) => some (c :: before, after)
    | none => if c = '.' then some ([], rest) else none

/-- Reads a text without blanks around it as the name of one type. -/
def ofTrimmed (text : List Char) : Except TypeReferenceError ElementType :=
  match splitLastPoint text with
  | none => .error .unqualified
  | some (before, after) =>
    if before = [] ∨ after = [] then .error .unqualified
    else if before = ['E', 'd', 'm'] then .ok (primitive (String.ofList text))
    else .ok (declared (String.ofList before) (String.ofList after))

end ElementType

namespace TypeReference

/-- The type referred to, or the one that the collection is made of. -/
def element : TypeReference → ElementType
  | single type | collection type => type

def isCollection : TypeReference → Bool
  | single _ => false
  | collection _ => true

def text : TypeReference → String
  | single type => type.text
  | collection type => "Collection(" ++ type.text ++ ")"

/-- The qualified name of the declared type referred to, alone or in a collection. -/
def qualifiedName? (reference : TypeReference) : Option String :=
  reference.element.qualifiedName?

/-- The reference with the namespace of its type replaced by what `rename` gives for it. -/
def mapNamespace (rename : String → String) : TypeReference → TypeReference
  | single type => single (type.mapNamespace rename)
  | collection type => collection (type.mapNamespace rename)

/-- The text after `Collection(`, if the text begins with it. -/
def collectionBody? (text : List Char) : Option (List Char) :=
  if "Collection(".toList.isPrefixOf text then some (text.drop 11) else none

theorem length_trim_le (text : List Char) : (Unicode.trim text).length ≤ text.length := by
  have dropWhile_le (p : Char → Bool) (l : List Char) : (l.dropWhile p).length ≤ l.length :=
    (List.dropWhile_sublist p).length_le
  simp only [Unicode.trim, List.length_reverse]
  exact Nat.le_trans (dropWhile_le _ _) (by simpa using dropWhile_le _ text)

theorem length_collectionBody_lt {text body : List Char} (h : collectionBody? text = some body) :
    body.length < text.length := by
  simp only [collectionBody?] at h
  split at h
  · next isStart =>
    have := (List.isPrefixOf_iff_prefix.1 isStart).length_le
    simp only [Option.some.injEq] at h
    subst h
    simp at this ⊢
    omega
  · contradiction

/-- Reads a reference. Blanks around it and inside the brackets of a collection do not count. -/
def ofChars (text : List Char) : Except TypeReferenceError TypeReference :=
  let trimmed := Unicode.trim text
  if trimmed = [] then .error .empty
  else
    match _h : collectionBody? trimmed with
    | some body =>
      if body.getLast? = some ')' then
        match ofChars body.dropLast with
        | .error reason => .error reason
        | .ok (single type) => .ok (collection type)
        | .ok (collection _) => .error .nestedCollection
      else .error .unclosedCollection
    | none => (ElementType.ofTrimmed trimmed).map single
termination_by text.length
decreasing_by
  have := length_trim_le text
  have : body.length < (Unicode.trim text).length := length_collectionBody_lt _h
  simp only [List.length_dropLast]
  omega

def parse (text : String) : Except TypeReferenceError TypeReference :=
  ofChars text.toList

end TypeReference

end ODataClient
