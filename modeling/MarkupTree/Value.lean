import MarkupTree.Callable
import MarkupTree.Decimal.Notation
import MarkupTree.Text.Quoted

/-!
# Value: what can stand in an element

An element is nested data: text, numbers, sequences, mappings, markup and callables. Any value
can stand in any position; what it means there is decided by its kind. The code of callables is
a parameter, and its behaviour is given to the renderer. All texts in values are kept as
`Text.keep` has them.

A value here always has a text. A whole number is written with all its digits, however many there
are; where so many are not taken, this is asked of the number itself (`Decimal.isWritable`).

- `Value.isTruthy` says whether a value counts as present.
- `Value.text` and `Value.literal` are the two text forms: alone, and inside a larger value.
- `Value.html?` is the markup of a value that stands for markup.
-/

namespace MarkupTree

/-- A value. -/
inductive Value (C : Type)
  | null
  | undefined
  | bool (b : Bool)
  | int (n : Int)
  | float (x : Float)
  | str (s : String)
  /-- a string that also stands for itself as markup, and is added to others as any string is;
  strings that stand for other markup than themselves, or that have an addition of their own, are
  no values -/
  | markupStr (s : String)
  | bytes (bs : List UInt8)
  | list (items : List (Value C))
  | tuple (items : List (Value C))
  | mapping (entries : List (Value C × Value C))
  /-- a mapping that cannot be changed -/
  | frozen (entries : List (Value C × Value C))
  /-- items that can be drawn once, from a numbered source -/
  | lazy (source : Nat) (items : List (Value C))
  /-- the integers from `start` towards `stop`, `stop` excluded -/
  | range (start stop step : Int)
  /-- text that is known to be safe markup -/
  | safe (html : String)
  /-- an object of which only its markup is known, and whether it counts as present -/
  | markup (html : String) (present : Bool)
  /-- an object of which only its text is known -/
  | token (text : String)
  /-- the result of an earlier rendering, and how its bindings are written -/
  | rendered (html bindings : String)
  /-- a region of a page that belongs to no surface -/
  | container (key content : String)
  | callable (f : Callable (Value C) C)
  /-- what is posted when an element fires an event -/
  | payload (detail : List (Value C × Value C))
  /-- a call whose value is computed when it is waited for -/
  | pending (f : Callable (Value C) C) (args : Arguments (Value C))

/-- The entries of a mapping, in order. -/
abbrev Entries (C : Type) := List (Value C × Value C)

namespace Value

variable {C : Type}

instance : Inhabited (Value C) := ⟨.null⟩

/-! ## Kinds -/

def string? : Value C → Option String
  | .str s | .markupStr s => some s
  | _ => none

/-- The markup that a value stands for. -/
def html? : Value C → Option String
  | .safe html | .markup html _ | .rendered html _ | .markupStr html => some html
  | .container _ content => some content
  | _ => none

def entries? : Value C → Option (Entries C)
  | .mapping es | .frozen es => some es
  | _ => none

def items? : Value C → Option (List (Value C))
  | .list vs | .tuple vs => some vs
  | _ => none

def callable? : Value C → Option (Callable (Value C) C)
  | .callable f => some f
  | _ => none

def rangeSize (start stop step : Int) : Nat :=
  if 0 < step then ((stop - start + step - 1) / step).toNat
  else if step < 0 then ((start - stop - step - 1) / -step).toNat
  else 0

/-- The integers of a range, in order. -/
def rangeItems (start stop step : Int) : List (Value C) :=
  (List.range (rangeSize start stop step)).map fun i => .int (start + Int.ofNat i * step)

/-- Whether a value counts as present. Zeros, empty text and empty collections do not; an object
that stands for markup tells by itself. -/
def isTruthy : Value C → Bool
  | .null | .undefined => false
  | .bool b => b
  | .int n => n != 0
  | .float x => !(Decimal.Binary64.ofFloat x).isZero
  | .str s | .markupStr s | .safe s => s != ""
  | .bytes bs => !bs.isEmpty
  | .list vs | .tuple vs => !vs.isEmpty
  | .mapping es | .frozen es => !es.isEmpty
  | .range start stop step => rangeSize start stop step != 0
  | .markup _ present => present
  | _ => true

/-! ## Text forms -/

/-- Numbers are written positionally from `1e-4` up to `1e16`. -/
def numbers : Decimal.Notation := ⟨-4, 16, 2⟩

/-- Written forms between two brackets, separated by commas. -/
def bracketed (opening : String) (parts : List String) (closing : String) : String :=
  opening ++ ", ".intercalate parts ++ closing

mutual

/-- The text of a value inside a larger one. -/
def literal : Value C → String
  | .null => "None"
  | .undefined => "UNDEFINED"
  | .bool b => if b then "True" else "False"
  | .int n => toString n
  | .float x => numbers.text (Decimal.Binary64.ofFloat x)
  | .str s | .markupStr s => Text.quoted s
  | .bytes bs => Text.quotedBytes bs
  | .list vs => bracketed "[" (literals vs) "]"
  | .tuple vs =>
    match literals vs with
    | [one] => "(" ++ one ++ ",)"
    | parts => bracketed "(" parts ")"
  | .mapping es => bracketed "\x7b" (entryLiterals es) "\x7d"
  | .frozen es => "mappingproxy(" ++ bracketed "\x7b" (entryLiterals es) "\x7d" ++ ")"
  | .lazy _ _ => "<lazy>"
  | .range start stop step =>
    if step = 1 then bracketed "range(" [toString start, toString stop] ")"
    else bracketed "range(" [toString start, toString stop, toString step] ")"
  | .safe html => "SafeHTML(content=" ++ Text.quoted html ++ ")"
  | .markup _ _ => "<markup>"
  | .token _ => "<strobj>"
  | .rendered html bindings =>
    "RenderResult(markup=" ++ Text.quoted html ++ ", bindings=" ++ bindings ++ ")"
  | .container key content =>
    bracketed "Container("
      ["key=" ++ Text.quoted key, "content=" ++ Text.quoted content, "listeners=\x7b\x7d"] ")"
  | .callable f => f.text
  | .payload detail =>
    "EventPayload(detail=" ++ bracketed "\x7b" (entryLiterals detail) "\x7d" ++ ")"
  | .pending f _ => "<pending " ++ f.name ++ ">"

def literals : List (Value C) → List String
  | [] => []
  | v :: rest => v.literal :: literals rest

def entryLiterals : List (Value C × Value C) → List String
  | [] => []
  | (k, v) :: rest => (k.literal ++ ": " ++ v.literal) :: entryLiterals rest

end

/-- The text of a value. -/
def text : Value C → String
  | .str s | .markupStr s | .safe s | .token s | .rendered s _ => s
  | .frozen es => bracketed "\x7b" (entryLiterals es) "\x7d"
  | .payload detail => "detail=" ++ bracketed "\x7b" (entryLiterals detail) "\x7d"
  | v => v.literal

/-- The text of a value as a leaf or as the value of an attribute, where the three constants
have names of their own. -/
def leafText : Value C → String
  | .bool b => if b then "true" else "false"
  | .null => "null"
  | v => v.text

end Value
end MarkupTree
