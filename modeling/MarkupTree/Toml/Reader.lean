import MarkupTree.Text.Half
import MarkupTree.Toml.Outline
import MarkupTree.Toml.Scalar

/-!
# Toml.Reader: from a settings text to its outline

Every reader takes what it reads off the front of the text and tells the rest; there is no
answer if the text does not fit. Readers that call themselves count down the length of the text.
An array may end within a table among its items; that item is left out.

- `Toml.string?`, `Toml.keyPath?` and `Toml.value` read the parts of a line.
- `Toml.outline?` reads a whole text, `Toml.document?` also makes its tables.
-/

namespace MarkupTree
namespace Toml

variable {C : Type}

/-! ## Blanks and comments -/

def isSpace (c : Char) : Bool :=
  c = ' ' || c = '\t'

def isControl (c : Char) : Bool :=
  (c.toNat < 0x20 && c ≠ '\t') || c.toNat = 0x7f

def skipSpaces (cs : List Char) : List Char :=
  cs.dropWhile isSpace

/-- Drops a comment in front, if there is one, up to the end of its line. -/
def skipComment? : List Char → Option (List Char)
  | '#' :: rest =>
    if (rest.takeWhile (· ≠ '\n')).any isControl then none else some (rest.dropWhile (· ≠ '\n'))
  | cs => some cs

/-- Drops what may stand at the end of a line, and the end itself. -/
def endLine? (cs : List Char) : Option (List Char) :=
  match skipComment? (skipSpaces cs) with
  | some [] => some []
  | some ('\n' :: rest) => some rest
  | _ => none

/-- Drops lines without content, and blanks in front of the next content. -/
def skipLines? : (fuel : Nat) → List Char → Option (List Char)
  | 0, _ => none
  | fuel + 1, cs =>
    match (skipComment? (skipSpaces cs)) with
    | some ('\n' :: rest) => skipLines? fuel rest
    | other => other

/-! ## Strings -/

/-- The character with a code given by a hexadecimal numeral of so many characters. A half of a
character may be given as well. -/
def spellHex? (count : Nat) (cs : List Char) : Option (List Char × List Char) := do
  let numeral := cs.take count
  let code ← Decimal.integer? 16 numeral
  if numeral.length = count ∧ 0 ≤ code ∧ code < 0x110000 then
    return (Text.spell code.toNat, cs.drop count)
  else none

/-- Whether a numeral starts like that of a half. -/
def looksLikeHalf : List Char → Bool
  | c :: d :: _ => c.toLower = 'd' && !('0' ≤ d && d ≤ '7')
  | _ => false

/-- What an escape stands for, read after its backslash. -/
def escape? : List Char → Option (List Char × List Char)
  | 'b' :: rest => some ([Char.ofNat 8], rest)
  | 't' :: rest => some (['\t'], rest)
  | 'n' :: rest => some (['\n'], rest)
  | 'f' :: rest => some ([Char.ofNat 12], rest)
  | 'r' :: rest => some (['\r'], rest)
  | 'e' :: rest => some ([Char.ofNat 27], rest)
  | '"' :: rest => some (['"'], rest)
  | '\\' :: rest => some (['\\'], rest)
  | 'x' :: rest => spellHex? 2 rest
  | 'u' :: rest => if looksLikeHalf rest then none else spellHex? 4 rest
  | 'U' :: rest => if looksLikeHalf rest then none else spellHex? 8 rest
  | _ => none

/-- A string on one line, read after its opening quote. -/
def lineString? (quote : Char) (escapes : Bool) :
    (fuel : Nat) → List Char → Option (List Char × List Char)
  | 0, _ | _, [] => none
  | fuel + 1, c :: rest =>
    if c = quote then some ([], rest)
    else if escapes ∧ c = '\\' then do
      let (escaped, rest) ← escape? rest
      let (ds, rest) ← lineString? quote escapes fuel rest
      return (escaped ++ ds, rest)
    else if isControl c then none
    else (lineString? quote escapes fuel rest).map fun r => (c :: r.1, r.2)

/-- A string of several lines, read after its opening quotes. Up to two quotes may stand in
front of the closing ones. A backslash at the end of a line joins it to the next content. -/
def blockString? (quote : Char) (escapes : Bool) :
    (fuel : Nat) → List Char → Option (List Char × List Char)
  | 0, _ | _, [] => none
  | fuel + 1, c :: rest =>
    if c = quote then
      let quotes := (c :: rest).takeWhile (· = quote)
      let rest := (c :: rest).dropWhile (· = quote)
      if 6 ≤ quotes.length then none
      else if 3 ≤ quotes.length then some (quotes.drop 3, rest)
      else (blockString? quote escapes fuel rest).map fun r => (quotes ++ r.1, r.2)
    else if escapes ∧ c = '\\' then
      let blanks := rest.takeWhile fun d => isSpace d || d = '\n'
      if blanks.isEmpty then do
        let (escaped, rest) ← escape? rest
        let (ds, rest) ← blockString? quote escapes fuel rest
        return (escaped ++ ds, rest)
      else if blanks.contains '\n' then
        blockString? quote escapes fuel (rest.drop blanks.length)
      else none
    else if isControl c ∧ c ≠ '\n' then none
    else (blockString? quote escapes fuel rest).map fun r => (c :: r.1, r.2)

def dropLineEnd : List Char → List Char
  | '\n' :: rest => rest
  | cs => cs

/-- A string of any form, read with its quotes. -/
def string? : List Char → Option (String × List Char)
  | '"' :: '"' :: '"' :: rest =>
    (blockString? '"' true (rest.length + 1) (dropLineEnd rest)).map fun r =>
      (String.ofList r.1, r.2)
  | '\'' :: '\'' :: '\'' :: rest =>
    (blockString? '\'' false (rest.length + 1) (dropLineEnd rest)).map fun r =>
      (String.ofList r.1, r.2)
  | '"' :: rest =>
    (lineString? '"' true (rest.length + 1) rest).map fun r => (String.ofList r.1, r.2)
  | '\'' :: rest =>
    (lineString? '\'' false (rest.length + 1) rest).map fun r => (String.ofList r.1, r.2)
  | _ => none

/-! ## Keys -/

def isKeyChar (c : Char) : Bool :=
  c.isAlphanum || c = '-' || c = '_'

/-- One key, with or without quotes, and the blanks after it. A tab may stand inside a key
without quotes. -/
def key? (cs : List Char) : Option (String × List Char) :=
  match cs with
  | '"' :: rest =>
    (lineString? '"' true (rest.length + 1) rest).map fun r => (String.ofList r.1, skipSpaces r.2)
  | '\'' :: rest =>
    (lineString? '\'' false (rest.length + 1) rest).map fun r =>
      (String.ofList r.1, skipSpaces r.2)
  | _ =>
    let run := cs.takeWhile fun c => isKeyChar c || isSpace c
    let name := (run.reverse.dropWhile isSpace).reverse
    if name.isEmpty ∨ name.contains ' ' then none else some (String.ofList name, cs.drop run.length)

/-- Keys joined by points, and the blanks after them. -/
def keyPath? : (fuel : Nat) → List Char → Option (List String × List Char)
  | 0, _ => none
  | fuel + 1, cs => do
    let (name, rest) ← key? (skipSpaces cs)
    match rest with
    | '.' :: rest =>
      let (names, rest) ← keyPath? fuel rest
      return (name :: names, rest)
    | rest => return ([name], rest)

/-! ## Values -/

/-- Why there is no value. -/
inductive Stop
  /-- the text does not fit -/
  | refused
  /-- a bracket stands where a part of a table was expected; this is the text behind it -/
  | bracket (rest : List Char)
  deriving DecidableEq, Repr

def expect {α : Type} : Option α → Except Stop α
  | some a => .ok a
  | none => .error .refused

/-- Whether a character ends a number, a date or a time. -/
def endsScalar (c : Char) : Bool :=
  [' ', '\t', '\n', '\r', '#', ',', ']', '}'].contains c

/-- A number, a date or a time. After a date a time may follow behind a blank. -/
def scalar? (cs : List Char) : Option (Value C × List Char) :=
  let run := cs.takeWhile (!endsScalar ·)
  let rest := cs.dropWhile (!endsScalar ·)
  if isDate run then
    let more := rest.takeWhile fun c => c = ' ' || !endsScalar c
    let time := (more.reverse.dropWhile Text.isBlank).reverse
    if time.isEmpty then some (.token (String.ofList run), rest.drop more.length)
    else if isDateTime (run ++ time) then
      some (.token (String.ofList (run ++ time)), rest.drop more.length)
    else none
  else
    match run with
    | c :: _ =>
      if c.isDigit ∨ c = '+' ∨ c = '-' ∨ run = ['i', 'n', 'f'] ∨ run = ['n', 'a', 'n'] then
        ((moment? run).or (number? run)).map (·, rest)
      else none
    | [] => none

def keyOf (cs : List Char) : Except Stop (List String × List Char) := do
  let (path, rest) ← expect (keyPath? (cs.length + 1) cs)
  match rest with
  | '=' :: rest => return (path, skipSpaces rest)
  | ']' :: rest => throw (.bracket rest)
  | _ => throw .refused

mutual

/-- A value of any kind. -/
def value : (fuel : Nat) → List Char → Except Stop (Value C × List Char)
  | 0, _ => .error .refused
  | fuel + 1, cs =>
    match cs with
    | '"' :: _ | '\'' :: _ => do
      let (s, rest) ← expect (string? cs)
      return (.str s, rest)
    | 't' :: 'r' :: 'u' :: 'e' :: rest => .ok (.bool true, rest)
    | 'f' :: 'a' :: 'l' :: 's' :: 'e' :: rest => .ok (.bool false, rest)
    | '[' :: rest => do
      let (vs, rest) ← items fuel rest
      return (.list vs, rest)
    | '\x7b' :: rest => do
      let (es, rest) ← members fuel [] rest
      return (← expect (Node.value? (cs.length + 1) (.table false es)), rest)
    | ']' :: rest => .error (.bracket rest)
    | _ => expect (scalar? cs)

/-- The items of an array, up to its closing bracket. -/
def items : (fuel : Nat) → List Char → Except Stop (List (Value C) × List Char)
  | 0, _ => .error .refused
  | fuel + 1, cs => do
    match value fuel (← expect (skipLines? (cs.length + 1) cs)) with
    | .error .refused => throw .refused
    | .error (.bracket rest) => return ([], rest)
    | .ok (v, rest) =>
      match ← expect (skipLines? (rest.length + 1) rest) with
      | ',' :: rest =>
        let (vs, rest) ← items fuel rest
        return (v :: vs, rest)
      | ']' :: rest => return ([v], rest)
      | _ => throw .refused

/-- The entries of a table among values after those found, up to its closing bracket. -/
def members : (fuel : Nat) → Node.Entries C → List Char →
    Except Stop (Node.Entries C × List Char)
  | 0, _, _ => .error .refused
  | fuel + 1, found, cs => do
    match ← expect (skipLines? (cs.length + 1) cs) with
    | '\x7d' :: rest => return (found, rest)
    | cs =>
      let (path, rest) ← keyOf cs
      let (v, rest) ← value fuel rest
      let found ← expect (Node.insert? (cs.length + 1) path v found)
      match ← expect (skipLines? (rest.length + 1) rest) with
      | ',' :: rest => members fuel found rest
      | '\x7d' :: rest => return (found, rest)
      | ']' :: rest => throw (.bracket rest)
      | _ => throw .refused

end

/-! ## Documents -/

def line? (cs : List Char) : Option (Line C × List Char) :=
  match keyOf cs with
  | .ok (path, rest) =>
    match value (rest.length + 1) rest with
    | .ok (v, rest) => (endLine? rest).map (⟨path, v⟩, ·)
    | .error _ => none
  | .error _ => none

def lines? : (fuel : Nat) → List Char → Option (List (Line C) × List Char)
  | 0, _ => none
  | fuel + 1, cs => do
    match ← skipLines? (cs.length + 1) cs with
    | [] => return ([], [])
    | '[' :: rest => return ([], '[' :: rest)
    | cs =>
      let (line, rest) ← line? cs
      let (lines, rest) ← lines? fuel rest
      return (line :: lines, rest)

/-- A header: its path, and whether several tables may share it. What stands in place of a second
closing bracket does not matter. -/
def header? (cs : List Char) : Option ((Bool × List String) × List Char) := do
  match cs with
  | '[' :: '[' :: rest =>
    let (path, rest) ← keyPath? (rest.length + 1) rest
    return ((true, path), ← endLine? ((← takeChar? ']' rest).drop 1))
  | '[' :: rest =>
    let (path, rest) ← keyPath? (rest.length + 1) rest
    return ((false, path), ← endLine? (← takeChar? ']' rest))
  | _ => none

def sections? : (fuel : Nat) → List Char → Option (List (Section C))
  | 0, _ => none
  | _, [] => some []
  | fuel + 1, cs => do
    let ((shared, path), rest) ← header? cs
    let (lines, rest) ← lines? (rest.length + 1) rest
    return ⟨shared, path, lines⟩ :: (← sections? fuel rest)

def unifyLines : List Char → List Char
  | '\r' :: '\n' :: rest => '\n' :: unifyLines rest
  | '\r' :: rest => '\n' :: unifyLines rest
  | c :: rest => c :: unifyLines rest
  | [] => []

/-- Reads a whole text as lines and sections. -/
def outline? (cs : List Char) : Option (Outline C) := do
  let (lines, rest) ← lines? (cs.length + 1) cs
  return ⟨lines, ← sections? (rest.length + 1) rest⟩

/-- Reads a whole text as it comes from outside. No tables in it are nested deeper than it is
long. -/
def document? (text : String) : Option (Document C) := do
  let cs := unifyLines (Text.keep text).toList
  let levels := cs.length + 1
  return ⟨levels, ← (← outline? cs).entries? levels⟩

end Toml
end MarkupTree
