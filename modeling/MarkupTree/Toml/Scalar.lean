import MarkupTree.Decimal.Numeral
import MarkupTree.Value

/-!
# Toml.Scalar: numbers and dates of a settings text

A scalar without quotes is a run of characters: a whole number in one of four bases, a
floating-point number, or a date, a time or both.

- `Toml.number?` reads a number.
- `Toml.moment?` reads a date or a time; it is kept as its text.
-/

namespace MarkupTree
namespace Toml

variable {C : Type}

/-! ## Numbers -/

/-- Drops the underscores between two digits; `before` says whether a digit stands in front. -/
def dropBetween (isDigit : Char → Bool) (before : Bool) : List Char → List Char
  | [] => []
  | '_' :: c :: rest =>
    if before && isDigit c then c :: dropBetween isDigit true rest
    else '_' :: dropBetween isDigit false (c :: rest)
  | c :: rest => c :: dropBetween isDigit (isDigit c) rest

def takeSign : List Char → List Char × List Char
  | '+' :: rest => (['+'], rest)
  | '-' :: rest => (['-'], rest)
  | cs => ([], cs)

def baseOf : List Char → Nat
  | '0' :: 'x' :: _ => 16
  | '0' :: 'o' :: _ => 8
  | '0' :: 'b' :: _ => 2
  | _ => 10

/-- Whether a numeral without its sign has a zero in front that does not belong there. -/
def hasLeadingZero : List Char → Bool
  | '0' :: c :: _ => !(['.', 'o', 'x', 'b', 'e'].contains c)
  | _ => false

/-- Whether a point stands at the end of a numeral or in front of its exponent. -/
def hasOpenPoint (cs : List Char) : Bool :=
  cs.getLast? = some '.' || (baseOf cs != 16 && (cs.takeWhile (· ≠ 'e')).getLast? = some '.')

/-- Reads a number. Underscores may stand between digits; only numbers in base ten have a sign. -/
def number? (run : List Char) : Option (Value C) :=
  let (sign, body) := takeSign run
  let base := baseOf body
  let digits := (dropBetween (Decimal.isDigitOf base) false body).map Char.toLower
  if hasLeadingZero body ∨ (sign ≠ [] ∧ (body.head? = some '.' ∨ base ≠ 10)) then none
  else if digits.contains '_' ∨ hasOpenPoint digits then none
  else
    match Decimal.integer? base (sign ++ digits) with
    | some n => some (.int n)
    | none => (Decimal.real? (sign ++ digits)).map .float

/-! ## Dates and times -/

def takeNumber? (count : Nat) (cs : List Char) : Option (Nat × List Char) :=
  let digits := cs.take count
  if digits.length = count ∧ digits.all Char.isDigit then
    some (Decimal.digitsValue 0 digits, cs.drop count)
  else none

def takeChar? (c : Char) : List Char → Option (List Char)
  | d :: rest => if d = c then some rest else none
  | [] => none

def isLeap (year : Nat) : Bool :=
  year % 4 == 0 && (year % 100 != 0 || year % 400 == 0)

def daysIn (year month : Nat) : Nat :=
  if month = 2 then (if isLeap year then 29 else 28)
  else if [4, 6, 9, 11].contains month then 30 else 31

/-- Takes a date. The year may have any number of digits. -/
def takeDate? (cs : List Char) : Option (List Char) := do
  let year := Decimal.digitsValue 0 (cs.takeWhile Char.isDigit)
  let (month, rest) ← takeNumber? 2 (← takeChar? '-' (cs.dropWhile Char.isDigit))
  let (day, rest) ← takeNumber? 2 (← takeChar? '-' rest)
  if 1 ≤ year ∧ year ≤ 9999 ∧ 1 ≤ month ∧ month ≤ 12 ∧ 1 ≤ day ∧ day ≤ daysIn year month then
    return rest
  else none

/-- Takes the parts of a second, if there are any. -/
def takeFraction? : List Char → Option (List Char)
  | '.' :: rest => if (rest.takeWhile Char.isDigit).isEmpty then none
    else some (rest.dropWhile Char.isDigit)
  | cs => some cs

/-- Takes the seconds of a time, if there are any. -/
def takeSeconds? : List Char → Option (List Char)
  | ':' :: rest => do
    let (second, rest) ← takeNumber? 2 rest
    if second ≤ 59 then takeFraction? rest else none
  | cs => some cs

def takeTime? (cs : List Char) : Option (List Char) := do
  let (hour, rest) ← takeNumber? 2 cs
  let (minute, rest) ← takeNumber? 2 (← takeChar? ':' rest)
  if hour ≤ 23 ∧ minute ≤ 59 then takeSeconds? rest else none

def isOffset : List Char → Bool
  | [] | ['Z'] | ['z'] => true
  | c :: rest =>
    (c = '+' || c = '-' || c = '|') &&
      match takeNumber? 2 rest with
      | some (hour, ':' :: rest) =>
        match takeNumber? 2 rest with
        | some (minute, []) => hour ≤ 23 && minute ≤ 59
        | _ => false
      | _ => false

def isDate (cs : List Char) : Bool :=
  takeDate? cs == some []

/-- Whether a text is a date and a time of day with one character between them. -/
def isDateTime (cs : List Char) : Bool :=
  match takeDate? cs with
  | some (c :: rest) =>
    ['T', 't', ' '].contains c && ((takeTime? rest).map isOffset).getD false
  | _ => false

def isTime (cs : List Char) : Bool :=
  takeTime? cs == some []

/-- Reads a date, a time or both. -/
def moment? (cs : List Char) : Option (Value C) :=
  if isDate cs || isDateTime cs || isTime cs then some (.token (String.ofList cs)) else none

end Toml
end MarkupTree
