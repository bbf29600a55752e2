/-!
# Numbers and dates

The forms of numbers, dates and times in settings files. No setting is a number or a date, so it is
only told whether a word is one.
-/

namespace ODataClient.Settings

/-- A number without its sign. -/
def withoutSign : List Char → List Char
  | '+' :: rest | '-' :: rest => rest
  | letters => letters

/-- Whether each underscore in letters stands between digits. In front of the first there may be a
sign alone. -/
def areDivided (isDigit : Char → Bool) (letters : List Char) : Bool :=
  let behindFirst := letters.tail
  letters.head? ≠ some '_' && letters.getLast? ≠ some '_' &&
    (letters.zip behindFirst).all (fun (before, c) => before ≠ '_' || isDigit c) &&
    (behindFirst.zip behindFirst.tail).all fun (c, after) => after ≠ '_' || isDigit c

def isHexDigit (c : Char) : Bool :=
  c.isDigit || ('a' ≤ c && c ≤ 'f') || ('A' ≤ c && c ≤ 'F')

/-- The digits to some base that letters name, with what may be such a digit. -/
def basedDigits? : List Char → Option ((Char → Bool) × List Char)
  | '0' :: 'x' :: digits => some (isHexDigit, digits)
  | '0' :: 'o' :: digits => some (fun c => '0' ≤ c && c ≤ '7', digits)
  | '0' :: 'b' :: digits => some (fun c => c = '0' || c = '1', digits)
  | _ => none

/-- Whether letters have a mark of floating-point numbers: a point, or that of an exponent. -/
def hasFloatMark (letters : List Char) : Bool :=
  letters.any fun c => c = '.' || c = 'e' || c = 'E'

/-- Whether letters are taken for an integer: digits to some base, or decimal digits with an
underscore behind them. No value is made of it, so there need be no digits to a base that is named,
and what stands behind the last underscore need only start with a digit. -/
def isInteger (letters : List Char) : Bool :=
  match basedDigits? letters with
  | some (isDigit, digits) =>
    digits.all (fun c => isDigit c || c = '_') && areDivided isHexDigit digits
  | none =>
    match (withoutSign letters).span Char.isDigit with
    | (digits, []) => !digits.isEmpty && (digits.length = 1 || digits.head? ≠ some '0')
    | (digits, '_' :: rest) =>
      digits.head? ≠ some '0' && !hasFloatMark rest && !rest.contains ' ' &&
        areDivided isHexDigit letters
    | _ => false

/-- Digits and underscores at the start of letters, if there is a digit among them, and what stands
behind them. -/
def takeDigits? (letters : List Char) : Option (List Char × List Char) :=
  let taken := letters.takeWhile fun c => c.isDigit || c = '_'
  if taken.any Char.isDigit then some (taken, letters.drop taken.length) else none

/-- Whether letters are the exponent of a number, or nothing. -/
def isExponent : List Char → Bool
  | [] => true
  | c :: rest =>
    (c = 'e' || c = 'E') && (takeDigits? (withoutSign rest)).any fun (_, behind) => behind.isEmpty

/-- Whether letters are what stands in a number behind its whole part: a fraction, an exponent or
both. -/
def isFraction : List Char → Bool
  | '.' :: rest => (takeDigits? rest).any fun (_, behind) => isExponent behind
  | letters => isExponent letters

/-- Whether letters are a floating-point number, or one of the two that have a name. Of whole parts
only that of a single digit starts with a zero. -/
def isFloat (letters : List Char) : Bool :=
  let unsigned := withoutSign letters
  unsigned = "inf".toList || unsigned = "nan".toList ||
    (hasFloatMark unsigned && areDivided Char.isDigit letters &&
      (takeDigits? unsigned).any fun (whole, behind) =>
        ((whole.filter Char.isDigit).length = 1 || whole.head? ≠ some '0') && isFraction behind)

/-- The number that exactly the given count of digits make. -/
def digits? (count : Nat) (letters : List Char) : Option Nat :=
  if letters.length = count && letters.all Char.isDigit then
    some (letters.foldl (fun value c => value * 10 + (c.toNat - '0'.toNat)) 0)
  else none

def daysIn (year month : Nat) : Nat :=
  if month = 2 then
    if year % 4 = 0 && (year % 100 ≠ 0 || year % 400 = 0) then 29 else 28
  else if [4, 6, 9, 11].contains month then 30
  else 31

def isDate (letters : List Char) : Bool :=
  match letters with
  | [y, y', y'', y''', '-', m, m', '-', d, d'] =>
    match digits? 4 [y, y', y'', y'''], digits? 2 [m, m'], digits? 2 [d, d'] with
    | some year, some month, some day =>
      1 ≤ month && month ≤ 12 && 1 ≤ day && day ≤ daysIn year month
    | _, _, _ => false
  | _ => false

/-- Whether letters are hours and minutes, at most so many of each. -/
def isClock (hours minutes : Nat) : List Char → Bool
  | [h, h', ':', m, m'] =>
    (digits? 2 [h, h']).any (· ≤ hours) && (digits? 2 [m, m']).any (· ≤ minutes)
  | _ => false

/-- Whether letters are a time. Seconds may be left out, and may have a fraction. -/
def isTime (letters : List Char) : Bool :=
  isClock 23 59 (letters.take 5) &&
    match letters.drop 5 with
    | [] => true
    | ':' :: s :: s' :: fraction =>
      (digits? 2 [s, s']).any (· ≤ 60) &&
        match fraction with
        | [] => true
        | '.' :: digits => !digits.isEmpty && digits.all Char.isDigit
        | _ => false
    | _ => false

/-- Whether letters are a time with a difference to universal time, or without one. -/
def isTimeWithOffset (letters : List Char) : Bool :=
  let time := letters.takeWhile fun c => !(['Z', 'z', '+', '-'].contains c)
  isTime time &&
    match letters.drop time.length with
    | [] | ['Z'] | ['z'] => true
    | _ :: offset => isClock 23 59 offset

/-- Whether letters are a date, a time, or both. -/
def isDateOrTime (letters : List Char) : Bool :=
  isDate letters || isTime letters ||
    (isDate (letters.take 10) &&
      match letters.drop 10 with
      | mark :: time => ['T', 't', ' '].contains mark && isTimeWithOffset time
      | [] => false)

/-- Whether a word is a number, a date or a time. -/
def isLiteral (word : String) : Bool :=
  let letters := word.toList
  isInteger letters || isFloat letters || isDateOrTime letters

end ODataClient.Settings
