import MarkupTree.Text.Half

/-!
# Text.Encoding: how bytes spell a text

A text comes as bytes in one of five encodings. Which one it is shows in where the first bytes
are zero, since a text starts with two ASCII characters.

- `Text.Encoding.detect` finds the encoding of bytes.
- `Text.decode?` reads the characters that bytes spell.
-/

namespace MarkupTree
namespace Text

/-- How characters are spelled by bytes. -/
inductive Encoding
  | utf8
  | utf16 (bigEndian : Bool)
  | utf32 (bigEndian : Bool)
  deriving DecidableEq, Repr

/-- The encoding that the first bytes show. -/
def Encoding.detect : List UInt8 → Encoding
  | [a, b] => if a = 0 then .utf16 true else if b = 0 then .utf16 false else .utf8
  | a :: b :: c :: d :: _ =>
    if a = 0 then (if b = 0 then .utf32 true else .utf16 true)
    else if b = 0 then (if c = 0 ∧ d = 0 then .utf32 false else .utf16 false)
    else .utf8
  | _ => .utf8

/-- The number that bytes spell, the most significant one first or last. -/
def numberOf (bigEndian : Bool) (bytes : List UInt8) : Nat :=
  (if bigEndian then bytes else bytes.reverse).foldl (fun n b => 256 * n + b.toNat) 0

def pairs? (bigEndian : Bool) : List UInt8 → Option (List Nat)
  | [] => some []
  | a :: b :: rest => (pairs? bigEndian rest).map (numberOf bigEndian [a, b] :: ·)
  | _ => none

def quadruples? (bigEndian : Bool) : List UInt8 → Option (List Char)
  | [] => some []
  | a :: b :: c :: d :: rest =>
    let n := numberOf bigEndian [a, b, c, d]
    if n < 0x110000 then (quadruples? bigEndian rest).map (spell n ++ ·) else none
  | _ => none

/-- The characters of codes, where two halves in a row spell one. -/
def joinHalves : List Nat → List Char
  | [] => []
  | [n] => spell n
  | m :: n :: rest =>
    match joined? m n with
    | some c => c :: joinHalves rest
    | none => spell m ++ joinHalves (n :: rest)

def dropMark : List Char → List Char
  | '\ufeff' :: rest => rest
  | cs => cs

/-- The characters that bytes spell. In the encoding by single bytes no half can stand alone. -/
def decode? (bytes : List UInt8) : Option (List Char) :=
  match Encoding.detect bytes with
  | .utf8 => (String.fromUTF8? ⟨bytes.toArray⟩).map fun s => dropMark (keep s).toList
  | .utf16 bigEndian => (pairs? bigEndian bytes).map joinHalves
  | .utf32 bigEndian => quadruples? bigEndian bytes

end Text
end MarkupTree
