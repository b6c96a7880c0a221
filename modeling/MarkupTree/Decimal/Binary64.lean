/-!
# Decimal.Binary64: the exact value of a floating-point number

A binary floating-point number is undefined, infinite, or exactly `m * 2 ^ q` with a sign.

- `Binary64.ofFloat` reads the bits.
- `Binary64.toInt?` is the integer that a number is equal to.
-/

namespace MarkupTree
namespace Decimal

def power (base exponent : Nat) : Nat :=
  Nat.pow base exponent

/-- A floating-point number, taken apart. -/
inductive Binary64
  | undefined
  | infinite (negative : Bool)
  | finite (negative : Bool) (m : Nat) (q : Int)
  deriving DecidableEq, Repr

namespace Binary64

/-- Reads the sign, the exponent and the fraction of 64 bits. -/
def ofBits (bits : UInt64) : Binary64 :=
  let negative := bits >>> 63 != 0
  let exponent := ((bits >>> 52) &&& 0x7ff).toNat
  let fraction := (bits &&& 0xfffffffffffff).toNat
  if exponent = 0x7ff then
    if fraction = 0 then .infinite negative else .undefined
  else if exponent = 0 then .finite negative fraction (-1074)
  else .finite negative (power 2 52 + fraction) (exponent - 1075)

/-- The number that a `Float` holds. -/
def ofFloat (x : Float) : Binary64 :=
  ofBits x.toBits

/-- Whether a number is zero, of either sign. -/
def isZero : Binary64 → Bool
  | .finite _ m _ => m == 0
  | _ => false

/-- The integer that a number is equal to, if there is one. -/
def toInt? : Binary64 → Option Int
  | .finite negative m q =>
    let scale := power 2 (-q).toNat
    if m % scale = 0 then
      let n : Int := Int.ofNat (m / scale * power 2 q.toNat)
      some (if negative then -n else n)
    else none
  | _ => none

/-- Whether two numbers are equal. An undefined number is equal to none, and the two zeros are
equal. -/
def beq : Binary64 → Binary64 → Bool
  | .finite s m q, .finite s' m' q' =>
    (m == 0 && m' == 0) ||
      (s == s' && m * power 2 (q - q').toNat == m' * power 2 (q' - q).toNat)
  | .infinite s, .infinite s' => s == s'
  | _, _ => false

end Binary64
end Decimal
end MarkupTree
