import MarkupTree.Text.Half
import MarkupTree.Text.Printable

/-!
# Text.Quoted: quoted text and bytes

The written form of a text inside a larger written form. Single quotes enclose it unless the
text holds a single quote and no double quote. The backslash, the enclosing quote and the three
common controls are escaped by name, every other unprintable character by its code.
-/

namespace MarkupTree
namespace Text

/-- The last `width` hexadecimal digits of a number, in lower case. -/
def hex : (width : Nat) → Nat → List Char
  | 0, _ => []
  | width + 1, n => hex width (n / 16) ++ [Nat.digitChar (n % 16)]

/-- An escape by code: the shortest of the forms with two, four and eight digits. -/
def codeEscape (n : Nat) : List Char :=
  if n < 0x100 then '\\' :: 'x' :: hex 2 n
  else if n < 0x10000 then '\\' :: 'u' :: hex 4 n
  else '\\' :: 'U' :: hex 8 n

def quoteMark (ns : List Nat) : Char :=
  if ns.contains '\''.toNat && !ns.contains '"'.toNat then '"' else '\''

/-- A character between two quotes, given which characters stand for themselves. -/
def quoteChar (mark : Char) (plain : Char → Bool) (c : Char) : List Char :=
  if c = mark || c = '\\' then ['\\', c]
  else if c = '\n' then ['\\', 'n']
  else if c = '\r' then ['\\', 'r']
  else if c = '\t' then ['\\', 't']
  else if plain c then [c]
  else codeEscape c.toNat

/-- Codes between two quotes. A half of a character never stands for itself. -/
def quoteCodes (plain : Char → Bool) (ns : List Nat) : List Char :=
  let mark := quoteMark ns
  let inside := ns.flatMap fun n =>
    if isHalf n then codeEscape n else quoteChar mark plain (Char.ofNat n)
  mark :: inside ++ [mark]

def quoted (s : String) : String :=
  String.ofList (quoteCodes isPrintable (codes s.toList))

/-- The quoted form of bytes: every byte outside printable ASCII is escaped. -/
def quotedBytes (bytes : List UInt8) : String :=
  String.ofList ('b' :: quoteCodes (fun c => 0x20 ≤ c.toNat && c.toNat < 0x7f)
    (bytes.map UInt8.toNat))

end Text
end MarkupTree
