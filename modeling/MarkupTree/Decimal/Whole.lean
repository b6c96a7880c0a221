import MarkupTree.Decimal.Notation
import MarkupTree.Text.Blank

/-!
# Decimal.Whole: whole numbers as people write them

A whole number may be written with blanks around it, a sign, zeros in front, single underscores
between its digits and zeros after a point. Very long numerals are refused.

- `Decimal.isWritable` says whether the numeral of a number is short enough.
- `Decimal.plain` reads a numeral without any of these freedoms.
- `Decimal.whole` reads a numeral with them.
-/

namespace MarkupTree
namespace Decimal

/-- Why a numeral gives no whole number. -/
inductive NumeralFault
  /-- it is not written as a whole number -/
  | malformed
  /-- it is written with too many digits -/
  | tooLong
  deriving DecidableEq, Repr

/-- The most characters that a sign and the digits after it may take. -/
def longest : Nat := 4300

/-- Whether a number has no more digits than may be written. -/
def isWritable (n : Int) : Bool :=
  n.natAbs < power 10 longest

def signed (negative : Bool) (digits : List Char) : Int :=
  if negative then -(digitsValue 0 digits : Int) else digitsValue 0 digits

def takeMinus : List Char → Bool × List Char
  | '-' :: rest => (true, rest)
  | cs => (false, cs)

/-- Reads digits that do not start with a superfluous zero, after an optional minus. The length is
judged before what stands behind the digits. -/
def plain (cs : List Char) : Except NumeralFault Int :=
  let (negative, body) := takeMinus cs
  let digits := body.takeWhile Char.isDigit
  let rest := body.dropWhile Char.isDigit
  if digits = [] ∨ (digits.head? = some '0' ∧ digits ≠ ['0']) then .error .malformed
  else if longest < cs.length - rest.length then .error .tooLong
  else if rest = [] then .ok (signed negative digits)
  else .error .malformed

def isPadding (c : Char) : Bool :=
  Text.isBlank c && !(0x1c ≤ c.toNat && c.toNat ≤ 0x1f)

def trim (cs : List Char) : List Char :=
  ((cs.dropWhile isPadding).reverse.dropWhile isPadding).reverse

def isSign (c : Char) : Bool :=
  c = '+' || c = '-'

/-- Takes one sign in front, unless another one follows, and tells whether it is a minus. -/
def takeOneSign? : List Char → Option (Bool × List Char)
  | [] => some (false, [])
  | c :: rest =>
    if !isSign c then some (false, c :: rest)
    else if (rest.head?.map isSign).getD false then none
    else some (c = '-', rest)

/-- After a zero in front: goes on to the first other digit or a minus, but keeps what stands
before a point or before the end. -/
def dropZeros? (last : Char) : List Char → Option (List Char)
  | [] => some [last]
  | c :: rest =>
    if c = '0' ∨ c = '_' then dropZeros? c rest
    else if c.isDigit ∨ c = '-' then some (c :: rest)
    else if c = '.' then some (last :: c :: rest)
    else none

def dropLeadingZeros? : List Char → Option (List Char)
  | '0' :: rest => dropZeros? '0' rest
  | c :: rest => if c.isDigit ∨ c = '-' then some (c :: rest) else none
  | [] => none

/-- Drops a point that is followed by zeros alone, and by at least one. -/
def dropEmptyPlaces (cs : List Char) : List Char :=
  match cs.dropWhile (· ≠ '.') with
  | _ :: places =>
    if places ≠ [] ∧ places.all (· == '0') then cs.takeWhile (· ≠ '.') else cs
  | [] => cs

def hasDoubleUnderscore : List Char → Bool
  | '_' :: '_' :: _ => true
  | _ :: rest => hasDoubleUnderscore rest
  | [] => false

def dropUnderscores (cs : List Char) : List Char :=
  if cs.head? = some '_' ∨ cs.getLast? = some '_' ∨ hasDoubleUnderscore cs then cs
  else cs.filter (· ≠ '_')

/-- The plain numeral behind one that is written with freedoms. -/
def tidy? (cs : List Char) : Option (List Char) := do
  let (negative, rest) ← takeOneSign? cs
  let digits := dropUnderscores (dropEmptyPlaces (← dropLeadingZeros? rest))
  return if negative then '-' :: digits else digits

/-- Reads a whole number. -/
def whole (s : String) : Except NumeralFault Int :=
  let cs := trim s.toList
  match plain cs with
  | .error .malformed =>
    match tidy? cs with
    | some cs => plain cs
    | none => .error .malformed
  | answer => answer

end Decimal
end MarkupTree
