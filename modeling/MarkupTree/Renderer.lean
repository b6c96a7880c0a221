import MarkupTree.Binding
import MarkupTree.Notice
import MarkupTree.Selector.Cache
import MarkupTree.Session
import MarkupTree.Settings
import MarkupTree.Shape

/-!
# Renderer: from elements to markup

An element is rendered by its shape. Markup is written from front to back onto a canvas; the
canvas also holds the recorder, if bindings are wanted, and what the press keeps: the store of
selectors, what was reported, and the session. Elements may be nested as deep as the settings
say.

- `Renderer.html` renders elements to markup.
- `Renderer.render` renders elements to markup and bindings.
- `Renderer.paint` writes one element; it calls itself one level deeper for everything inside.
-/

namespace MarkupTree

variable {C σ : Type}

/-- What is kept between two renderings. -/
structure Press (σ : Type) where
  cache : Cache (Tag String)
  /-- what was reported, in order -/
  notices : List Notice
  session : Session σ

namespace Press

/-- A press that has printed nothing, with a store for so many selectors. -/
def start (capacity : Int) (state : σ) : Press σ :=
  ⟨Cache.empty capacity, [], Session.start state⟩

def report (news : List Notice) (press : Press σ) : Press σ :=
  { press with notices := press.notices ++ news }

end Press

/-- A rendering in progress. -/
structure Canvas (C σ : Type) where
  markup : String
  recorder : Option (Recorder C)
  press : Press σ

/-- The result of a rendering with bindings. -/
structure Rendering (C : Type) where
  markup : String
  bindings : List (Binding C)

/-- A rendering that stands in a later one. -/
def Rendering.toValue (r : Rendering C) : Value C :=
  .rendered r.markup (Value.bracketed "[" (r.bindings.map Binding.text) "]")

namespace Canvas

/-! ## Steps on a canvas -/

def write (markup : String) : Attempt (Canvas C σ) C Unit :=
  modify fun canvas => { canvas with markup := canvas.markup ++ markup }

def inSession {α : Type} (step : Attempt (Session σ) C α) : Attempt (Canvas C σ) C α :=
  fun canvas =>
    let (answer, session) := step canvas.press.session
    (answer, { canvas with press := { canvas.press with session } })

/-- Reads a selector through the store and reports which ones had to leave. -/
def readSelector (selector : String) : Attempt (Canvas C σ) C (Tag String) := do
  let canvas ← get
  match canvas.press.cache.parse Tag.parse selector with
  | .ok (tag, cache, evicted) =>
    let press := { canvas.press with cache }
    set { canvas with press := press.report (evicted.map .evicted) }
    return tag
  | .error (.unreadable fault) => throw (.selector fault)
  | .error .noRoom => throw .noRoom

/-- Records the handlers of a tag, if bindings are wanted and there are any, and adds the marker
to the attributes. -/
def mark (plan : AttributePlan C) : Attempt (Canvas C σ) C (Entries C) := do
  let canvas ← get
  match canvas.recorder with
  | some recorder =>
    -- no id is given out for a tag without handlers
    if plan.events.isEmpty then return plan.attributes
    else
      let (id, recorder) := recorder.record plan.events
      set { canvas with recorder := some recorder }
      return plan.attributes.put (.str Vocabulary.marker) (.str id)
  | none => return plan.attributes

end Canvas

namespace Renderer

open Canvas

/-! ## Tags -/

def seedOf (tag : Tag String) : Entries C :=
  tag.attributes.map fun e => (.str e.1, .str e.2)

def innerMarkup (v : Value C) : String :=
  v.html?.getD v.leafText

/-- Writes a tag. Void tags end with their open tag; present inner markup takes the place of the
children. -/
def paintTag (paintChildren : List (Value C) → Attempt (Canvas C σ) C Unit) (selector : String)
    (explicit : Option (Entries C)) (children : List (Value C)) :
    Attempt (Canvas C σ) C Unit := do
  -- faults come in this order: the selector, then the attributes, then what stands inside
  let tag ← readSelector selector
  let plan ← ofExcept (AttributePlan.prepare (seedOf tag) explicit)
  let attributes ← mark plan
  let written ← ofExcept (writeAttributes attributes)
  write ("<" ++ tag.name ++ written ++ ">")
  if Vocabulary.isVoid tag.name then return ()
  else
    if plan.innerHtml.isTruthy then write (innerMarkup plan.innerHtml)
    else paintChildren children
    write ("</" ++ tag.name ++ ">")

/-! ## Elements -/

/-- Writes an element that may be nested so many levels deep, itself included. -/
def paint (B : Behaviour C σ) (limit : Nat) :
    (levels : Nat) → Value C → Attempt (Canvas C σ) C Unit
  | 0, _ => throw (.tooDeep limit)
  | levels + 1, v => do
    match ← ofExcept v.shape with
    | .skip => return ()
    | .text v => write v.escaped
    | .markup _ html => write html
    | .items vs => vs.forM (paint B limit levels)
    | .stream source vs => do
      let vs ← inSession (Session.draw source vs)
      vs.forM (paint B limit levels)
    | .fragment children => children.forM (paint B limit levels)
    | .component f props children => do
      -- what a component answers is one level deeper than its call
      let v ← inSession (Session.callComponent B f props children)
      paint B limit levels v
    | .tag selector explicit children =>
      paintTag (fun children => children.forM (paint B limit levels)) selector explicit children

/-- Several elements are read as one sequence, a single one as it is. -/
def root : List (Value C) → Value C
  | [v] => v
  | vs => .list vs

/-- Renders elements onto an empty canvas. What the press keeps is kept also after a fault. -/
def paintAll (B : Behaviour C σ) (settings : Settings) (recorder : Option (Recorder C))
    (elements : List (Value C)) : Attempt (Press σ) C (Canvas C σ) := fun press =>
  let (answer, canvas) :=
    paint B settings.maxDepth (settings.maxDepth + 1) (root elements)
      ⟨"", recorder, press⟩
  (answer.map fun _ => canvas, canvas.press)

/-- Renders elements to markup. -/
def html (B : Behaviour C σ) (settings : Settings) (elements : List (Value C)) :
    Attempt (Press σ) C String := do
  let canvas ← paintAll B settings none elements
  return canvas.markup

/-- Renders elements to markup and the bindings of its tags. -/
def render (B : Behaviour C σ) (settings : Settings) (elements : List (Value C)) :
    Attempt (Press σ) C (Rendering C) := do
  let canvas ← paintAll B settings (some (.start settings.idStem)) elements
  return ⟨canvas.markup, (canvas.recorder.map Recorder.bindings).getD []⟩

end Renderer
end MarkupTree
