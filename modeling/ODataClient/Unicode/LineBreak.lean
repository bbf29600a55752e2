import ODataClient.Unicode.LineBreakClass

/-!
# Line breaking

The places where a line of text may be broken, found from the classes of the characters. A mark
that combines with the character before it counts as that character.
-/

namespace ODataClient.Unicode

open LineBreakClass

namespace LineBreakClass

/-- Whether a line always ends behind a class. -/
def endsLine (c : LineBreakClass) : Bool :=
  [mandatory, carriageReturn, lineFeed, nextLine].contains c

/-- Whether marks do not combine with a character of a class. -/
def standsAlone (c : LineBreakClass) : Bool :=
  c.endsLine || c = space || c = zeroWidthSpace

def isMark (c : LineBreakClass) : Bool := c = combiningMark || c = zeroWidthJoiner

def isLetter (c : LineBreakClass) : Bool := [alphabetic, hebrewLetter, dottedCircle].contains c

/-- Whether a class is one of letters of syllables that stay in one line. -/
def isAksara (c : LineBreakClass) : Bool := [aksara, aksaraStart, dottedCircle].contains c

def isOpening (c : LineBreakClass) : Bool := c = opening || c = wideOpening

def isQuotation (c : LineBreakClass) : Bool :=
  [initialQuotation, finalQuotation, quotation].contains c

def isClosing (c : LineBreakClass) : Bool := c = closing || c = closingParenthesis

/-- Whether a class is one of ideographs and pictographs. -/
def isIdeographic (c : LineBreakClass) : Bool :=
  [ideograph, reservedPictograph, emojiBase, emojiModifier].contains c

/-- Whether a class is one of Korean syllables and their letters. -/
def isKorean (c : LineBreakClass) : Bool :=
  [leadingJamo, vowelJamo, trailingJamo, openSyllable, closedSyllable].contains c

/-- Whether a class is one of units of numbers. -/
def isUnit (c : LineBreakClass) : Bool := c = behindNumber || c = beforeNumber

/-- Whether nothing is broken off before a class, even behind spaces. -/
def clings (c : LineBreakClass) : Bool :=
  c.isClosing || [exclamation, separator, solidus].contains c

/-- Whether a quotation may begin behind a class. -/
def precedesQuotation (c : LineBreakClass) : Bool :=
  c.endsLine || c.isOpening || c.isQuotation || [glue, space, zeroWidthSpace].contains c

/-- Whether a quotation may end in front of a class. -/
def followsQuotation (c : LineBreakClass) : Bool :=
  c.endsLine || c.clings || c.isQuotation || [space, glue, wordJoiner, zeroWidthSpace].contains c

/-- Whether letters, digits and brackets of two classes belong to one word. Brackets as wide as an
ideograph belong to none. -/
def makeWord (a b : LineBreakClass) : Bool :=
  (a.isLetter && (b.isLetter || b = digit || b.isUnit)) ||
    ((a = digit || a.isUnit || a = separator) && b.isLetter) ||
    ((a.isLetter || a = digit) && b = opening) ||
    (a = closingParenthesis && (b.isLetter || b = digit))

/-- Whether two classes belong to one number. -/
def makeNumber (a b : LineBreakClass) : Bool :=
  ((a.isClosing || a = digit) && b.isUnit) ||
    (a.isUnit && (b.isOpening || b = digit)) ||
    ([hyphen, separator, digit, solidus].contains a && b = digit) ||
    (a = beforeNumber && (b.isIdeographic || b.isKorean)) ||
    ((a.isIdeographic || a.isKorean) && b = behindNumber)

/-- Whether two classes belong to one syllable, of which the class behind them is known. -/
def makeAksara (a b : LineBreakClass) (after : Option LineBreakClass) : Bool :=
  (a = aksaraPrebase && b.isAksara) ||
    (a.isAksara && (b = virama || b = viramaFinal || (b.isAksara && after = some viramaFinal)))

/-- Whether two classes belong to one Korean syllable. -/
def makeSyllable (a b : LineBreakClass) : Bool :=
  (a = leadingJamo && [leadingJamo, vowelJamo, openSyllable, closedSyllable].contains b) ||
    ((a = vowelJamo || a = openSyllable) && (b = vowelJamo || b = trailingJamo)) ||
    ((a = trailingJamo || a = closedSyllable) && b = trailingJamo)

/-- Whether no line is broken between two classes that touch, neither of which is that of a
space. -/
def stayTogether (a b : LineBreakClass) (after : Option LineBreakClass) : Bool :=
  a.isQuotation || b.isQuotation ||
    (a ≠ contingent && b ≠ contingent &&
      ([opportunityAfter, hyphen, nonstarter, inseparable].contains b || a = opportunityBefore ||
        (a = solidus && b = hebrewLetter) || makeWord a b || makeNumber a b ||
        makeSyllable a b || makeAksara a b after ||
        ((a = emojiBase || a = reservedPictograph) && b = emojiModifier)))

end LineBreakClass

/-- A place behind a character. -/
structure LinePlace where
  /-- The class that the character counts as. -/
  last : LineBreakClass
  /-- The class before the spaces at the place, or the same class if there are none. -/
  beforeSpaces : LineBreakClass
  /-- Whether the character joins what is on both sides of it. -/
  isJoined : Bool
  /-- Whether the character is a hyphen behind a Hebrew letter. -/
  isHebrewHyphen : Bool
  /-- Whether an odd number of regional indicators come to an end here. -/
  isHalfFlag : Bool
  /-- Whether the character begins a quotation, with the spaces behind it. -/
  beginsQuotation : Bool
  /-- Whether the character is a virama behind a letter, which may join it to the next one. -/
  isLinked : Bool
deriving DecidableEq, Repr

namespace LinePlace

/-- The place in front of a text. -/
def first : LinePlace := ⟨mandatory, mandatory, false, false, false, false, false⟩

variable (place : LinePlace)

/-- The place behind a character of a class. -/
def next (c : LineBreakClass) : LinePlace :=
  if c.isMark && !place.last.standsAlone then { place with isJoined := c = zeroWidthJoiner }
  else
    let counted := if c.isMark then alphabetic else c
    { last := counted
      beforeSpaces := if counted = space then place.beforeSpaces else counted
      isJoined := c = zeroWidthJoiner
      isHebrewHyphen :=
        (counted = hyphen || counted = opportunityAfter) && place.last = hebrewLetter
      isHalfFlag := counted = regionalIndicator && !place.isHalfFlag
      beginsQuotation :=
        (counted = initialQuotation && place.last.precedesQuotation) ||
          (counted = space && place.beginsQuotation)
      isLinked := counted = virama && place.last.isAksara }

/-- Whether a line is broken here before a character of a class that is no mark of the character
before, behind a space or not. The class behind it is known, unless the text ends there. -/
def isBrokenBefore (c : LineBreakClass) (after : Option LineBreakClass) : Bool :=
  let a := place.last
  let b := place.beforeSpaces
  if c = wordJoiner || a = wordJoiner || a = glue then false
  else if c = glue && !([space, opportunityAfter, hyphen].contains a) then false
  else if c.clings || b.isOpening || place.beginsQuotation then false
  else if c = finalQuotation && after.all followsQuotation then false
  else if b.isClosing && c = nonstarter then false
  else if b = opportunityAround && c = opportunityAround then false
  else if a = space then true
  else if place.isHebrewHyphen && c ≠ contingent then false
  else if place.isHalfFlag && c = regionalIndicator then false
  else if place.isLinked && (c = aksara || c = dottedCircle) then false
  else !stayTogether a c after

/-- Whether a line may be broken here before a character of a class, with that of the next one. -/
def allowsBreakBefore (c : LineBreakClass) (after : Option LineBreakClass) : Bool :=
  if place.last = carriageReturn && c = lineFeed then false
  else if place.last.endsLine then true
  else if c.endsLine || c = space || c = zeroWidthSpace then false
  else if place.isJoined then false
  else if place.beforeSpaces = zeroWidthSpace then true
  else if c.isMark && !place.last.standsAlone then false
  else place.isBrokenBefore (if c.isMark then alphabetic else c) after

/-- The class of the first of some characters that is no mark. -/
def nextClass? : List Char → Option LineBreakClass
  | [] => none
  | c :: rest =>
    let kind := lineBreakClass c
    if kind.isMark then nextClass? rest else some kind

/-- For each character behind a place whether a line may be broken before it. -/
def breaks (place : LinePlace) : List Char → List Bool
  | [] => []
  | c :: rest =>
    let kind := lineBreakClass c
    place.allowsBreakBefore kind (nextClass? rest) :: (place.next kind).breaks rest

end LinePlace

/-- For each character of a text whether a line may be broken before it. There is no break before
the first. -/
def lineBreaks : List Char → List Bool
  | [] => []
  | c :: rest => false :: (LinePlace.first.next (lineBreakClass c)).breaks rest

end ODataClient.Unicode
