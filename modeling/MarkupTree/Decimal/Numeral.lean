import MarkupTree.Decimal.Whole
import MarkupTree.Text.Digit

/-!
# Decimal.Numeral: numerals with freedoms

A numeral may have blanks around it and digits of any script. A whole number in a base other than
ten may have the mark of its base in front of its digits.

- `Decimal.integer?` reads a whole number in a base.
- `Decimal.real?` reads a floating-point number.
-/

namespace MarkupTree
namespace Decimal

/-! ## Digits -/

def digitValue (c : Char) : Nat :=
  if c.isDigit then c.toNat - '0'.toNat else c.toLower.toNat - 'a'.toNat + 10

def isDigitOf (base : Nat) (c : Char) : Bool :=
  (c.isDigit || ('a' ≤ c.toLower && c.toLower ≤ 'f')) && digitValue c < base

/-- A numeral without the padding around it, in ASCII digits. -/
def unpadded (cs : List Char) : List Char :=
  (trim cs).map Text.plainDigit

/-! ## Whole numbers -/

/-- The letter behind a zero that marks a base. -/
def baseMark? (base : Nat) : Option Char :=
  if base = 16 then some 'x'
  else if base = 8 then some 'o'
  else if base = 2 then some 'b'
  else none

/-- Drops the mark of a base, and one underscore behind it. -/
def dropBaseMark (base : Nat) (cs : List Char) : List Char :=
  match cs with
  | '0' :: c :: rest =>
    if baseMark? base = some c.toLower then
      match rest with
      | '_' :: rest => rest
      | rest => rest
    else cs
  | _ => cs

/-- The digits of a base, between which single underscores may stand. -/
def digitsOf? (base : Nat) (cs : List Char) : Option (List Char) :=
  let digits := dropUnderscores cs
  if digits ≠ [] ∧ digits.all (isDigitOf base) then some digits else none

/-- Reads a whole number in a base. In base ten very long numerals are refused. -/
def integer? (base : Nat) (cs : List Char) : Option Int := do
  let (negative, body) := takeSign (unpadded cs)
  let digits ← digitsOf? base (dropBaseMark base body)
  if base = 10 ∧ longest < digits.length then none
  else
    let n : Int := digits.foldl (fun n c => base * n + digitValue c) 0
    return if negative then -n else n

/-! ## Floating-point numbers -/

/-- Reads a floating-point number. -/
def real? (cs : List Char) : Option Float :=
  read? (String.ofList (unpadded cs))

end Decimal
end MarkupTree
