/-!
# Places in a text

Where a needle occurs in a text, and the bytes that an occurrence covers when the text is encoded
in UTF-8.
-/

namespace ODataClient.Text

/-- A run of bytes of an encoded text. -/
structure Span where
  offset : Nat
  length : Nat
deriving DecidableEq, Repr

/-- The byte behind a run. -/
def Span.stop (span : Span) : Nat := span.offset + span.length

/-- The number of bytes of the encoded characters. -/
def byteLength (characters : List Char) : Nat :=
  characters.foldl (fun length c => length + c.utf8Size) 0

/-- The parts of a text before and after the first occurrence of a needle. -/
def cutAt? (needle : List Char) : List Char → Option (List Char × List Char)
  | [] => if needle = [] then some ([], []) else none
  | c :: rest =>
    if needle.isPrefixOf (c :: rest) then some ([], (c :: rest).drop needle.length)
    else (cutAt? needle rest).map fun (before, after) => (c :: before, after)

/-- The bytes that the first occurrence of a needle covers. -/
def firstSpan? (needle text : List Char) : Option Span :=
  (cutAt? needle text).map fun (before, _) =>
    { offset := byteLength before, length := byteLength needle }

/-- The characters of a text from a byte on. A byte within a character is refused, and so is one
behind the end. -/
def dropBytes? : Nat → List Char → Option (List Char)
  | 0, text => some text
  | _ + 1, [] => none
  | offset + 1, c :: rest =>
    if c.utf8Size ≤ offset + 1 then dropBytes? (offset + 1 - c.utf8Size) rest else none

/-- The bytes that the first occurrence of a needle covers in what a text holds from a byte on. -/
def spanFrom? (offset : Nat) (needle text : List Char) : Option Span := do
  let rest ← dropBytes? offset text
  let span ← firstSpan? needle rest
  return { span with offset := offset + span.offset }

end ODataClient.Text
