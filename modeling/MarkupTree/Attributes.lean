import MarkupTree.Fault
import MarkupTree.Text.Lowercase
import MarkupTree.Value.Key
import MarkupTree.Value.Safe

/-!
# Attributes: what the mapping of a tag means

The attributes that a tag is given are put over those of its selector and sorted: handlers of
events, the inner markup, and the attributes that are written. Missing values are refused.

- `AttributePlan.prepare` sorts the attributes of a tag.
- `writeAttribute` writes one attribute, `writeAttributes` a whole mapping.
- `styleText` and `classText` are the texts of a style mapping and of a class list.
-/

namespace MarkupTree

variable {C : Type}

/-! ## Missing values -/

def Value.check : Value C → Except (Fault C) Unit
  | .null => .error .nullElement
  | .undefined => .error .undefinedElement
  | _ => .ok ()

/-- Refuses a missing value under a key. A missing key stands for no key at all. -/
def Value.checkUnder (key v : Value C) : Except (Fault C) Unit :=
  match key, v with
  | .null, _ => v.check
  | _, .null => .error (.nullAttribute key)
  | _, .undefined => .error (.undefinedAttribute key)
  | _, _ => .ok ()

/-! ## Writing -/

/-- One attribute: nothing for `False`, the bare name for `True`, a name and a quoted value
otherwise. -/
def writeAttribute (name : String) (v : Value C) : Except (Fault C) String := do
  Value.checkUnder (.str name) v
  match v with
  | .bool true => return name
  | .bool false => return ""
  | _ => return name ++ "=\"" ++ v.escaped ++ "\""

/-- Attributes in the order of the mapping, each after a space. -/
def writeAttributes : Entries C → Except (Fault C) String
  | [] => .ok ""
  | (key, v) :: rest => do
    let written ← writeAttribute key.text v
    let others ← writeAttributes rest
    return (if written = "" then "" else " " ++ written) ++ others

/-! ## Styles and classes -/

/-- A hyphen before every capital letter of the alphabet. -/
def hyphenate (cs : List Char) : List Char :=
  cs.flatMap fun c => if c.isUpper then ['-', c] else [c]

def styleProperty (key : Value C) : String :=
  Text.lower (String.ofList (hyphenate key.text.toList))

def declaration (entry : Value C × Value C) : String :=
  styleProperty entry.1 ++ ": " ++ entry.2.leafText

/-- The text of a style: a string as it is, a mapping as declarations, nothing else. -/
def styleText (v : Value C) : String :=
  match v.string?, v.entries? with
  | some s, _ => s
  | none, some es => "; ".intercalate (es.map declaration)
  | none, none => ""

/-- The text of a class list: a string as it is, the names that are present in a sequence,
nothing else. -/
def classText (v : Value C) : String :=
  match v.string?, v.items? with
  | some s, _ => s
  | none, some vs => " ".intercalate ((vs.filter Value.isTruthy).map Value.leafText)
  | none, none => ""

/-! ## Sorting -/

def afterStart? (start s : String) : Option String :=
  if start.toList.isPrefixOf s.toList then
    some (String.ofList (s.toList.drop start.toList.length))
  else none

def eventName? (key : Value C) : Option String :=
  key.string?.bind (afterStart? Vocabulary.eventMark)

/-- The attributes of a tag, sorted by what happens to them. -/
structure AttributePlan (C : Type) where
  attributes : Entries C
  events : Table (Callable (Value C) C)
  innerHtml : Value C

namespace AttributePlan

/-- Sorts entries in order into a plan. A value for an event that cannot be called is dropped. -/
def sort (plan : AttributePlan C) : Entries C → Except (Fault C) (AttributePlan C)
  | [] => .ok plan
  | (key, v) :: rest => do
    Value.checkUnder key v
    match eventName? key with
    | some event =>
      -- whatever it holds, the key of an event is never written as an attribute
      match v.callable? with
      | some f => sort { plan with events := plan.events.put event f } rest
      | none => sort plan rest
    | none => sort { plan with attributes := plan.attributes.put key v } rest

/-- Changes the value under a name, if it was given explicitly. -/
def normalize (explicit : Entries C) (name : String) (f : Value C → String) (es : Entries C) :
    Entries C :=
  match explicit.get? (.str name), es.get? (.str name) with
  | some _, some v => es.put (.str name) (.str (f v))
  | _, _ => es

def takeInnerHtml (plan : AttributePlan C) : AttributePlan C :=
  let key : Value C := .str Vocabulary.innerHtml
  { plan with
    attributes := plan.attributes.remove key
    innerHtml := (plan.attributes.get? key).getD .null }

/-- Puts explicit attributes over those of a selector and sorts them. An explicit style or class
is brought into its text form and replaces the selector's. -/
def prepare (seed : Entries C) (explicit : Option (Entries C)) :
    Except (Fault C) (AttributePlan C) := do
  let given := explicit.getD []
  -- the explicit entries go over the selector's one by one
  let plan ← sort ⟨seed, [], .null⟩ given
  let styled := normalize given Vocabulary.style styleText plan.attributes
  let classed := normalize given Vocabulary.className classText styled
  return takeInnerHtml { plan with attributes := classed }

end AttributePlan
end MarkupTree
