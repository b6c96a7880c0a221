import MarkupTree.Decimal.Shortest

/-!
# Decimal.Notation: how numbers are written and read

A floating-point number is written with the fewest digits that read back: positionally, with at
least one decimal place, from `1e-4` up to `1e16`, and with a signed exponent of at least two
digits elsewhere.

- `Notation.text` writes a number.
- `read?` reads a decimal numeral, `ofScaled` rounds a decimal.
-/

namespace MarkupTree
namespace Decimal

/-! ## Writing -/

/-- The decisions of a format for floating-point numbers. -/
structure Notation where
  /-- the least exponent that is written positionally -/
  least : Int
  /-- the first exponent above it that is not -/
  bound : Int
  /-- the least number of digits of a written exponent -/
  exponentDigits : Nat

/-- `0` as often as said. -/
def zeros (n : Nat) : String :=
  String.ofList (List.replicate n '0')

/-- Digits with a point after the first `places`, and at least one digit on both sides. -/
def positional (digits : String) (places : Int) : String :=
  if places ≤ 0 then "0." ++ zeros (-places).toNat ++ digits
  else if places < digits.length then
    String.ofList (digits.toList.take places.toNat) ++ "." ++
      String.ofList (digits.toList.drop places.toNat)
  else digits ++ zeros (places.toNat - digits.length) ++ ".0"

/-- Digits with a point after the first, if there are more, and an exponent. -/
def Notation.scientific (style : Notation) (digits : String) (exponent : Int) : String :=
  let rest := digits.toList.drop 1
  let power := toString exponent.natAbs
  let fraction := if rest.isEmpty then "" else "." ++ String.ofList rest
  let sign := if exponent < 0 then "-" else "+"
  String.ofList (digits.toList.take 1) ++ fraction ++ "e" ++ sign ++
    zeros (style.exponentDigits - power.length) ++ power

/-- The text of a number in a format. -/
def Notation.text (style : Notation) : Binary64 → String
  | .undefined => "nan"
  | .infinite negative => if negative then "-inf" else "inf"
  | .finite negative m q =>
    let sign := if negative then "-" else ""
    if m = 0 then sign ++ "0.0"
    else
      let d := shortest m q
      let digits := toString d.digits
      let exponent := d.exponent + digits.length - 1
      if style.least ≤ exponent ∧ exponent < style.bound then
        sign ++ positional digits (exponent + 1)
      else sign ++ style.scientific digits exponent

/-! ## Reading -/

/-- The floating-point number nearest to `digits * 10 ^ exponent`. Beyond the range of the
numbers no power is computed: far above it the answer is infinite, far below it zero. -/
def ofScaled (negative : Bool) (digits : Nat) (exponent : Int) : Float :=
  let size := (toString digits).length + exponent
  let magnitude : Float :=
    if digits = 0 ∨ size < -400 then 0
    else if 400 < size then 1 / 0
    else Float.ofScientific digits (decide (exponent < 0)) exponent.natAbs
  if negative then -magnitude else magnitude

/-- The value of decimal digits, read after those of `start`. -/
def digitsValue (start : Nat) (cs : List Char) : Nat :=
  cs.foldl (fun n c => 10 * n + (c.toNat - '0'.toNat)) start

/-- An optional sign, and what follows it. -/
def takeSign : List Char → Bool × List Char
  | '-' :: rest => (true, rest)
  | '+' :: rest => (false, rest)
  | rest => (false, rest)

def exponent? : List Char → Option Int
  | [] => some 0
  | c :: rest =>
    if c = 'e' ∨ c = 'E' then
      let (negative, digits) := takeSign rest
      if digits ≠ [] ∧ digits.all Char.isDigit then
        some (if negative then -(digitsValue 0 digits : Int) else digitsValue 0 digits)
      else none
    else none

/-- Reads an unsigned decimal numeral: digits, optional places after a point, an optional
exponent. -/
def unsigned? (negative : Bool) (cs : List Char) : Option Float :=
  let whole := cs.takeWhile Char.isDigit
  match cs.dropWhile Char.isDigit with
  | '.' :: rest =>
    let places := rest.takeWhile Char.isDigit
    if whole ≠ [] ∨ places ≠ [] then
      (exponent? (rest.dropWhile Char.isDigit)).map fun e =>
        ofScaled negative (digitsValue (digitsValue 0 whole) places) (e - places.length)
    else none
  | rest =>
    if whole ≠ [] then (exponent? rest).map (ofScaled negative (digitsValue 0 whole)) else none

/-- Reads a numeral with an optional sign, or one of the words `nan`, `inf` and `infinity`. -/
def read? (s : String) : Option Float :=
  let (negative, cs) := takeSign s.toList
  let word := String.ofList (cs.map Char.toLower)
  if word = "nan" then some (0 / 0)
  else if word = "inf" ∨ word = "infinity" then some (if negative then -(1 / 0) else 1 / 0)
  else unsigned? negative cs

end Decimal
end MarkupTree
