import MarkupTree.Table
import MarkupTree.Text.Blank
import MarkupTree.Vocabulary

/-!
# Selector: a tag with an id and classes in one text

A selector is a tag name followed by segments in any order: `#` and an id, at most once, or `.`
and a class. No blank may stand anywhere in it.

- `Selector.split` cuts a text into its leading name and its segments; nothing is lost.
- `Selector.parse` reads a selector or tells the first fault.
- `Selector.attributes` is what a selector says about attributes.
- `Selector.text` writes a selector with its id first.
-/

namespace MarkupTree

/-- A tag, its id and its classes. -/
structure Selector where
  tag : String
  id : Option String
  classes : List String
  deriving DecidableEq, Repr

/-- Why a text is no selector. -/
inductive SelectorFault
  /-- the leading name is not a tag name -/
  | badName (name : String)
  /-- there is a blank in the selector -/
  | blank (selector : String)
  /-- nothing follows a `#` or a `.` -/
  | emptySegment (selector : String)
  /-- there is more than one `#` -/
  | secondId (selector : String)
  deriving DecidableEq, Repr

def SelectorFault.message : SelectorFault → String
  | .badName name => "Invalid tag name: \"" ++ name ++ "\""
  | .blank selector => "Invalid tag format - spaces not allowed: \"" ++ selector ++ "\""
  | .emptySegment selector => "Invalid tag format: \"" ++ selector ++ "\""
  | .secondId selector => "Multiple IDs not allowed: \"" ++ selector ++ "\""

namespace Selector

/-! ## Segments -/

/-- What a segment starts with. -/
inductive Mark
  | hash
  | dot
  deriving DecidableEq, Repr

def Mark.ofChar? (c : Char) : Option Mark :=
  if c = '#' then some .hash else if c = '.' then some .dot else none

def Mark.char : Mark → Char
  | .hash => '#'
  | .dot => '.'

/-- A mark and the text up to the next one. -/
structure Segment where
  mark : Mark
  text : List Char
  deriving DecidableEq, Repr

/-- Cuts a text at its marks: what stands before the first, and the segments. -/
def split : List Char → List Char × List Segment
  | [] => ([], [])
  | c :: rest =>
    -- what the rest begins with belongs to this character's segment
    let (lead, segments) := split rest
    match Mark.ofChar? c with
    | some mark => ([], ⟨mark, lead⟩ :: segments)
    | none => (c :: lead, segments)

def Segment.written (segment : Segment) : List Char :=
  segment.mark.char :: segment.text

theorem Mark.ofChar?_eq_some {c : Char} {mark : Mark} (h : Mark.ofChar? c = some mark) :
    mark.char = c := by
  unfold Mark.ofChar? at h
  split at h
  · next hc => cases h; exact hc.symm
  · split at h
    · next hc => cases h; exact hc.symm
    · cases h

/-- Nothing is lost when a text is cut. -/
theorem split_written (cs : List Char) :
    (split cs).1 ++ (split cs).2.flatMap Segment.written = cs := by
  induction cs with
  | nil => rfl
  | cons c rest ih =>
    unfold split
    cases h : Mark.ofChar? c with
    | none => simpa using ih
    | some mark => simpa [Segment.written, Mark.ofChar?_eq_some h] using ih

/-! ## Tag names -/

/-- The characters of a tag name after the first. -/
def isNameChar (c : Char) : Bool :=
  c.isAlphanum || c == '-'

/-- A letter, then letters, digits and hyphens; ASCII alone counts. -/
def isTagName : List Char → Bool
  | [] => false
  | c :: rest => c.isAlpha && rest.all isNameChar

/-- Whether a name is taken as a tag name. A single line feed after it is passed over. -/
def acceptsTagName (cs : List Char) : Bool :=
  isTagName cs || (cs.getLast? == some '\n' && isTagName cs.dropLast)

def validateTagName (name : String) : Except SelectorFault Unit :=
  if acceptsTagName name.toList then .ok () else .error (.badName name)

/-! ## Reading -/

/-- Reads segments from left to right, after an id and classes already found. -/
def scan (selector : String) (id : Option String) (classes : List String) :
    List Segment → Except SelectorFault (Option String × List String)
  | [] => .ok (id, classes)
  | segment :: rest =>
    -- a second id is refused even if it is empty
    if segment.mark = .hash ∧ id.isSome then .error (.secondId selector)
    else if segment.text.isEmpty then .error (.emptySegment selector)
    else
      match segment.mark with
      | .hash => scan selector (some (String.ofList segment.text)) classes rest
      | .dot => scan selector id (classes ++ [String.ofList segment.text]) rest

/-- Reads a selector. A blank is a fault before all others, the name comes next, and then the
first segment that does not fit. -/
def parse (s : String) : Except SelectorFault Selector :=
  if s.toList.any Text.isBlank then .error (.blank s)
  else do
    let (lead, segments) := split s.toList
    let tag := String.ofList lead
    validateTagName tag
    let (id, classes) ← scan s none [] segments
    return ⟨tag, id, classes⟩

/-! ## What a selector says -/

/-- The attributes of a selector: the id, then the classes joined by spaces. -/
def attributes (s : Selector) : Table String :=
  (match s.id with
    | some id => [(Vocabulary.identity, id)]
    | none => []) ++
  if s.classes.isEmpty then [] else [(Vocabulary.className, " ".intercalate s.classes)]

/-- A selector written with its id first. -/
def text (s : Selector) : String :=
  s.tag ++ (match s.id with
    | some id => "#" ++ id
    | none => "") ++ String.join (s.classes.map ("." ++ ·))

end Selector
end MarkupTree
