import MarkupTree.Decimal.Whole
import MarkupTree.Text.Encoding
import MarkupTree.Value.Key

/-!
# Json: values from the body of a post

Besides the usual notation a body may hold the numbers `NaN`, `Infinity` and `-Infinity`. Of
several entries under one key the last counts, in the place of the first. Readers take what they
read off the front of the text and tell the rest; of several faults the first one counts.

- `Json.string?` reads a string after its opening quote.
- `Json.number` reads a number.
- `Json.read` reads a whole body.
-/

namespace MarkupTree

/-- Why a body gives no value. -/
inductive JsonFault
  /-- it is not written as it should be -/
  | malformed
  /-- its bytes spell no text, or a numeral or the nesting in it exceeds the limits -/
  | unreadable
  deriving DecidableEq, Repr

namespace Json

variable {C : Type}

def expect {α : Type} : Option α → Except JsonFault α
  | some a => .ok a
  | none => .error .malformed

def deepest : Nat := 960

/-! ## Blanks -/

def isSpace (c : Char) : Bool :=
  c = ' ' || c = '\t' || c = '\n' || c = '\r'

def skip (cs : List Char) : List Char :=
  cs.dropWhile isSpace

/-! ## Strings -/

def hexValue? (c : Char) : Option Nat :=
  if c.isDigit then some (c.toNat - '0'.toNat)
  else if 'a' ≤ c.toLower ∧ c.toLower ≤ 'f' then some (c.toLower.toNat - 'a'.toNat + 10)
  else none

def unit? (a b c d : Char) : Option Nat := do
  return 4096 * (← hexValue? a) + 256 * (← hexValue? b) + 16 * (← hexValue? c) + (← hexValue? d)

def escapeCode? (c : Char) : Option Nat :=
  if c = '"' ∨ c = '\\' ∨ c = '/' then some c.toNat
  else if c = 'b' then some 8
  else if c = 'f' then some 12
  else if c = 'n' then some 10
  else if c = 'r' then some 13
  else if c = 't' then some 9
  else none

/-- A piece of a string. -/
inductive Piece
  /-- a character as it stands there -/
  | char (c : Char)
  /-- a code that is given by an escape -/
  | code (n : Nat)

/-- The characters that pieces spell. Only two escapes in a row can give the halves of one. -/
def Piece.spell : List Piece → List Char
  | [] => []
  | .char c :: rest => c :: spell rest
  | .code m :: .code n :: rest =>
    match Text.joined? m n with
    | some c => c :: spell rest
    | none => Text.spell m ++ spell (.code n :: rest)
  | .code n :: rest => Text.spell n ++ spell rest

/-- The pieces of a string after its opening quote. -/
def pieces? : List Char → Option (List Piece × List Char)
  | [] => none
  | '"' :: rest => some ([], rest)
  -- an escape by code comes before the escapes with one character, as `u` is none of these
  | '\\' :: 'u' :: a :: b :: c :: d :: rest => do
    let n ← unit? a b c d
    let (ps, rest) ← pieces? rest
    return (.code n :: ps, rest)
  | '\\' :: c :: rest => do
    let n ← escapeCode? c
    let (ps, rest) ← pieces? rest
    return (.code n :: ps, rest)
  | c :: rest =>
    if c.toNat < 0x20 then none
    else (pieces? rest).map fun r => (.char c :: r.1, r.2)

/-- A string, read after its opening quote. A half of a character may stand alone. -/
def string? (cs : List Char) : Option (String × List Char) :=
  (pieces? cs).map fun r => (String.ofList (Piece.spell r.1), r.2)

/-! ## Numbers -/

/-- The places after a point, if there are any. -/
def places : List Char → List Char × List Char
  | '.' :: rest =>
    if (rest.takeWhile Char.isDigit).isEmpty then ([], '.' :: rest)
    else (rest.takeWhile Char.isDigit, rest.dropWhile Char.isDigit)
  | cs => ([], cs)

/-- An exponent, if there is one. -/
def exponent (cs : List Char) : Option Int × List Char :=
  match cs with
  | c :: rest =>
    let (negative, digits) := Decimal.takeSign rest
    let run := digits.takeWhile Char.isDigit
    if (c = 'e' ∨ c = 'E') ∧ ¬run.isEmpty then
      let n : Int := Decimal.digitsValue 0 run
      (some (if negative then -n else n), digits.dropWhile Char.isDigit)
    else (none, cs)
  | [] => (none, cs)

/-- The whole part of a number: a zero alone, or digits that do not start with one. -/
def whole? : List Char → Option (List Char × List Char)
  | '0' :: rest => some (['0'], rest)
  | cs =>
    if (cs.takeWhile Char.isDigit).isEmpty then none
    else some (cs.takeWhile Char.isDigit, cs.dropWhile Char.isDigit)

/-- A number without its sign. With places or an exponent it is a floating-point number. -/
def unsigned (negative : Bool) (cs : List Char) :
    Except JsonFault (Value C × List Char) := do
  let (digits, rest) ← expect (whole? cs)
  let (decimals, rest) := places rest
  let (power, rest) := exponent rest
  let n := Decimal.digitsValue 0 (digits ++ decimals)
  -- the limit on digits holds for whole numbers alone
  if decimals ≠ [] ∨ power.isSome then
    return (.float (Decimal.ofScaled negative n (power.getD 0 - decimals.length)), rest)
  else if Decimal.longest < digits.length then throw .unreadable
  else return (.int (if negative then -(n : Int) else n), rest)

def word? (word : String) (cs : List Char) : Option (List Char) :=
  if word.toList.isPrefixOf cs then some (cs.drop word.length) else none

/-- A number. -/
def number (cs : List Char) : Except JsonFault (Value C × List Char) :=
  match cs with
  | '-' :: rest =>
    match word? "Infinity" rest with
    | some rest => .ok (.float (-(1 / 0)), rest)
    | none => unsigned true rest
  | cs => unsigned false cs

/-! ## Values -/

def words : List (String × Value C) :=
  [("null", .null), ("true", .bool true), ("false", .bool false), ("NaN", .float (0 / 0)),
    ("Infinity", .float (1 / 0))]

def scalar (cs : List Char) : Except JsonFault (Value C × List Char) :=
  match words.findSome? fun w => (word? w.1 cs).map (w.2, ·) with
  | some r => .ok r
  | none => number cs

mutual

/-- A value of any kind, in front of which there is no blank, nested so many levels at most. -/
def value : (fuel levels : Nat) → List Char → Except JsonFault (Value C × List Char)
  | 0, _, _ => .error .malformed
  | fuel + 1, levels, cs =>
    match cs with
    | '"' :: rest => do
      let (s, rest) ← expect (string? rest)
      return (.str s, rest)
    | '[' :: rest =>
      match levels with
      | 0 => .error .unreadable
      | levels + 1 =>
        match skip rest with
        | ']' :: rest => .ok (.list [], rest)
        | rest => do
          let (vs, rest) ← items fuel levels rest
          return (.list vs, rest)
    | '\x7b' :: rest =>
      match levels with
      | 0 => .error .unreadable
      | levels + 1 =>
        match skip rest with
        | '\x7d' :: rest => .ok (.mapping [], rest)
        | rest => do
          let (es, rest) ← members fuel levels [] rest
          return (.mapping es, rest)
    | cs => scalar cs

/-- The items of a list, up to its closing bracket. -/
def items : (fuel levels : Nat) → List Char → Except JsonFault (List (Value C) × List Char)
  | 0, _, _ => .error .malformed
  | fuel + 1, levels, cs => do
    let (v, rest) ← value fuel levels cs
    match skip rest with
    | ',' :: rest =>
      let (vs, rest) ← items fuel levels (skip rest)
      return (v :: vs, rest)
    | ']' :: rest => return ([v], rest)
    | _ => throw .malformed

/-- The members of a mapping after those found, up to its closing bracket. -/
def members :
    (fuel levels : Nat) → Entries C → List Char → Except JsonFault (Entries C × List Char)
  | 0, _, _, _ => .error .malformed
  | fuel + 1, levels, found, cs => do
    match cs with
    | '"' :: rest =>
      let (name, rest) ← expect (string? rest)
      match skip rest with
      | ':' :: rest =>
        let (v, rest) ← value fuel levels (skip rest)
        let found := Entries.put (.str name) v found
        match skip rest with
        | ',' :: rest => members fuel levels found (skip rest)
        | '\x7d' :: rest => return (found, rest)
        | _ => throw .malformed
      | _ => throw .malformed
    | _ => throw .malformed

end

def ofChars (cs : List Char) : Except JsonFault (Value C) := do
  let (v, rest) ← value (cs.length + 1) deepest (skip cs)
  if (skip rest).isEmpty then return v else throw .malformed

/-- Reads a whole body. Its bytes may spell the text in any encoding. -/
def read (body : String) : Except JsonFault (Value C) :=
  match Text.decode? body.toUTF8.data.toList with
  | some cs => ofChars cs
  | none => .error .unreadable

end Json
end MarkupTree
