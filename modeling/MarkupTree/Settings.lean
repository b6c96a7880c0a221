import MarkupTree.Decimal.Whole
import MarkupTree.Table
import MarkupTree.Value
import MarkupTree.Vocabulary

/-!
# Settings: limits and names of a renderer

A renderer is given a depth limit, the size of its store of selectors, and the text that the ids
of its bindings start with. Settings are read from named values; every value that does not fit
is told, in the order of the settings.

- `Settings` holds values that fit.
- `Settings.ofFields` reads settings, with defaults for those that are not named.
-/

namespace MarkupTree

variable {C : Type}

/-- Limits and names of a renderer. -/
structure Settings where
  maxDepth : Nat
  cacheSize : Nat
  idStem : String
  one_le_maxDepth : 1 ≤ maxDepth
  one_le_cacheSize : 1 ≤ cacheSize
  idStem_ne_empty : idStem ≠ ""

/-- Why a value does not fit a setting. -/
inductive SettingFault
  /-- the number is not positive -/
  | tooSmall
  /-- the text is empty -/
  | tooShort
  /-- the text is no whole number -/
  | notANumeral
  /-- neither a number nor a text -/
  | notANumber
  /-- the number has a fraction -/
  | fraction
  /-- the number is infinite or undefined -/
  | notFinite
  /-- the number is too large to be taken exactly -/
  | tooLarge
  /-- not a text -/
  | notAText
  /-- bytes that spell no text, or a text with half a character -/
  | notUtf8
  /-- the settings as a whole are no mapping -/
  | notAMapping
  deriving DecidableEq, Repr

def SettingFault.word : SettingFault → String
  | .tooSmall => "greater_than_equal"
  | .tooShort => "string_too_short"
  | .notANumeral => "int_parsing"
  | .notANumber => "int_type"
  | .fraction => "int_from_float"
  | .notFinite => "finite_number"
  | .tooLarge => "int_parsing_size"
  | .notAText => "string_type"
  | .notUtf8 => "string_unicode"
  | .notAMapping => "model_type"

/-- A fault and the setting it belongs to; none for the settings as a whole. -/
structure SettingIssue where
  setting : Option String
  fault : SettingFault
  deriving DecidableEq, Repr

namespace Settings

def standard : Settings :=
  ⟨Vocabulary.maxDepth, Vocabulary.cacheSize, Vocabulary.idStem, by decide, by decide, by decide⟩

/-! ## Single values -/

def spelled (bs : List UInt8) : Except SettingFault String :=
  match String.fromUTF8? ⟨bs.toArray⟩ with
  | some s => .ok (Text.keep s)
  | none => .error .notUtf8

def wholeOfFloat (x : Decimal.Binary64) : Except SettingFault Int :=
  match x, x.toInt? with
  | .finite _ _ _, some n => if n.natAbs < Decimal.power 2 63 then .ok n else .error .tooLarge
  | .finite _ _ _, none => .error .fraction
  | _, _ => .error .notFinite

def wholeOfText (s : String) : Except SettingFault Int :=
  if Text.holdsHalf s then .error .notUtf8
  else
    match Decimal.whole s with
    | .ok n => .ok n
    | .error .malformed => .error .notANumeral
    | .error .tooLong => .error .tooLarge

/-- A value as a whole number. Truth values count as one and zero. -/
def toWhole : Value C → Except SettingFault Int
  | .bool b => .ok (if b then 1 else 0)
  | .int n => .ok n
  | .float x => wholeOfFloat (Decimal.Binary64.ofFloat x)
  | .str s | .markupStr s => wholeOfText s
  | .bytes bs =>
    match spelled bs with
    | .ok s => wholeOfText s
    | .error _ => .error .notANumeral
  | _ => .error .notANumber

def toPositive (v : Value C) : Except SettingFault { n : Nat // 1 ≤ n } := do
  let n ← toWhole v
  if h : 1 ≤ n.toNat then return ⟨n.toNat, h⟩ else throw .tooSmall

def toStem (v : Value C) : Except SettingFault { s : String // s ≠ "" } := do
  let s ← match v with
    | .str s | .markupStr s => if Text.holdsHalf s then throw .notUtf8 else pure s
    | .bytes bs => spelled bs
    | _ => throw .notAText
  if h : s ≠ "" then return ⟨s, h⟩ else throw .tooShort

/-! ## All settings -/

/-- The value of a setting, or its default if it is not named. -/
def field {α : Type} (fields : Table (Value C)) (name : String)
    (read : Value C → Except SettingFault α) (standard : α) : Except SettingIssue α :=
  match fields.get? name with
  | none => .ok standard
  | some v =>
    match read v with
    | .ok a => .ok a
    | .error fault => .error ⟨some name, fault⟩

def issueOf {α : Type} : Except SettingIssue α → List SettingIssue
  | .ok _ => []
  | .error issue => [issue]

/-- Reads the settings from named values. Values under other names are passed over. -/
def ofFields (fields : Table (Value C)) : Except (List SettingIssue) Settings :=
  let depth := field fields "max_depth" toPositive ⟨Vocabulary.maxDepth, by decide⟩
  let size := field fields "cache_size" toPositive ⟨Vocabulary.cacheSize, by decide⟩
  let stem := field fields "id_prefix" toStem ⟨Vocabulary.idStem, by decide⟩
  match depth, size, stem with
  | .ok depth, .ok size, .ok stem =>
    .ok ⟨depth.1, size.1, stem.1, depth.2, size.2, stem.2⟩
  | _, _, _ => .error (issueOf depth ++ issueOf size ++ issueOf stem)

def ofValue (v : Value C) : Except (List SettingIssue) Settings :=
  match v.entries? with
  | some es =>
    ofFields (es.filterMap fun e => e.1.string?.map fun name => (name, e.2))
  | none => .error [⟨none, .notAMapping⟩]

end Settings
end MarkupTree
