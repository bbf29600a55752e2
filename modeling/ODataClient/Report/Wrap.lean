import ODataClient.Report.Terminal
import ODataClient.Unicode.LineBreak

/-!
# Wrapped text

Text is broken into lines of a given width between words, and inside of words that are wider than a
line.
-/

namespace ODataClient.Wrap

open Terminal (Escape)

/-- A piece of a line that stays together, with the blanks behind it. -/
structure Piece where
  word : List Char
  blanks : List Char
deriving DecidableEq, Repr

/-- A character in front of the first of some words. -/
def prepend (c : Char) : List (List Char) → List (List Char)
  | [] => [[c]]
  | word :: words => (c :: word) :: words

/-- The characters behind which no word ends by itself: a hyphen, and one that is not seen. -/
def isHyphen (c : Char) : Bool := c = '-' || c = '\u00ad'

/-- Takes back the last of some breaks. -/
def dropLastBreak : List Bool → List Bool
  | [] => []
  | allowed :: rest =>
    if rest.any id then allowed :: dropLastBreak rest else false :: rest

/-- For each character that is seen whether a word may start with it. None starts behind a hyphen.
The last place where a word may start does not count: it is the end of the text, unless that is
behind a hyphen. -/
def wordStarts (text : List Char) : List Bool :=
  let allowed := (Unicode.lineBreaks text).zip (none :: text.map some)
  let starts := allowed.map fun (allowed, before) => allowed && !before.any isHyphen
  if text.getLast?.any isHyphen then dropLastBreak starts else starts

/-- Cuts a text into words where they may start. An escape sequence belongs to the word behind
it. -/
def cut (state : Escape) (starts : List Bool) : List Char → List (List Char)
  | [] => [[]]
  | c :: rest =>
    if state = .outside then
      let behind := if state.shows c then starts.tail else false :: starts.tail
      let words := prepend c (cut (state.next c) behind rest)
      if starts.head?.getD false then [] :: words else words
    else prepend c (cut (state.next c) starts rest)

/-- A word without the blanks at its end, and those. -/
def Piece.ofChars (characters : List Char) : Piece :=
  let word := (characters.reverse.dropWhile (· = ' ')).reverse
  { word, blanks := characters.drop word.length }

def words (text : List Char) : List Piece :=
  let starts := wordStarts (Terminal.visible .outside text)
  ((cut .outside starts text).filter (!·.isEmpty)).map Piece.ofChars

/-- Whether a word may be broken between a hyphen and the character behind it. -/
def breaksAfterHyphen (before : Option Char) (after : Option Char) : Bool :=
  before.any Unicode.isAlphanumeric && after.any Unicode.isAlphanumeric

/-- Cuts a word behind hyphens between letters or digits. -/
def cutAtHyphens (before : Option Char) : List Char → List (List Char)
  | [] => [[]]
  | c :: rest =>
    let others := cutAtHyphens (some c) rest
    if c = '-' && breaksAfterHyphen before rest.head? then [c] :: others else prepend c others

/-- Cuts a word into chunks of a given width, the first of which has used up some of it. -/
def chunks (width : Nat) (state : Escape) (used : Nat) : List Char → List (List Char)
  | [] => [[]]
  | c :: rest =>
    let next := state.next c
    if state.shows c then
      let wide := Unicode.width c
      if 0 < used && width < used + wide then [] :: prepend c (chunks width next wide rest)
      else prepend c (chunks width next (used + wide) rest)
    else prepend c (chunks width next used rest)

/-- The pieces that parts of a word are, of which the last has the blanks behind it. -/
def Piece.ofParts (parts : List (List Char)) (blanks : List Char) : List Piece :=
  parts.dropLast.map (⟨·, []⟩) ++ [⟨parts.getLastD [], blanks⟩]

/-- A piece in parts that end behind hyphens. -/
def Piece.hyphenated (piece : Piece) : List Piece :=
  Piece.ofParts (cutAtHyphens none piece.word) piece.blanks

/-- A piece in parts that are no wider than a line. -/
def Piece.broken (width : Nat) (piece : Piece) : List Piece :=
  if Terminal.width piece.word ≤ width then [piece]
  else Piece.ofParts (chunks width .outside 0 piece.word) piece.blanks

/-- Puts pieces into lines, as many into each as it has room for. The line so far is given with its
width, blanks at its end included. -/
def fill (width : Nat) (line : List Piece) (used : Nat) : List Piece → List (List Piece)
  | [] => [line]
  | piece :: pieces =>
    let wordWidth := Terminal.width piece.word
    let wide := wordWidth + piece.blanks.length
    if used + wordWidth > width && !line.isEmpty then
      line :: fill width [piece] wide pieces
    else fill width (line ++ [piece]) (used + wide) pieces

/-- The text of a line, without the blanks at its end. -/
def lineText : List Piece → List Char
  | [] => []
  | [piece] => piece.word
  | piece :: pieces => piece.word ++ piece.blanks ++ lineText pieces

/-- The lines of a text without line feeds. The first piece is empty, so that a word that is wider
than a line starts in a line of its own. -/
def wrapLine (width : Nat) (text : List Char) : List String :=
  let pieces := ((words text).flatMap Piece.hyphenated).flatMap (Piece.broken width)
  (fill width [] 0 (⟨[], []⟩ :: pieces)).map fun line => String.ofList (lineText line)

/-- A text in lines of a given width, the first behind one indentation and the others behind
another that is as wide. -/
def wrap (width : Nat) (first others text : String) : String :=
  match (text.splitOn "\n").flatMap fun line => wrapLine (width - first.length) line.toList with
  | [] => first
  | line :: lines => "\n".intercalate ((first ++ line) :: lines.map (others ++ ·))

end ODataClient.Wrap
