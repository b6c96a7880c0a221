import MarkupTree.Proofs.Attempt
import MarkupTree.Proofs.Attributes
import MarkupTree.Proofs.Forest
import MarkupTree.Renderer

/-!
# Visit — the forest that a rendering walks through

What a renderer writes depends on its input only through the tags and leaves that it comes past.
`Renderer.visit` collects them in a forest, with the same effects in the same order, but without
markup and without bindings. Markup is printed from that forest.

* `Renderer.visit` finds the forest of an element; how selectors are read is a parameter.
* `Forest.print` prints a forest, `TagVisit.label` gives a tag its marker if one is wanted.
* `Renderer.paint_follows` says that painting is visiting and then printing.
-/

namespace MarkupTree

variable {C σ : Type}

/-! ## What is visited -/

inductive Leaf
  /-- plain text, not escaped yet -/
  | text (s : String)
  /-- markup that is written as it is: of a value that stands for markup, or inside a tag in the
  place of its children -/
  | verbatim (html : String)
  deriving DecidableEq, Repr

def Leaf.IsText (a : Leaf) : Prop :=
  ∃ s, a = .text s

instance : DecidablePred Leaf.IsText
  | .text s => .isTrue ⟨s, rfl⟩
  | .verbatim _ => .isFalse (by rintro ⟨s, h⟩; cases h)

/-- A tag on the way: its selector and explicit attributes, and what became of both. -/
structure TagVisit (C : Type) where
  selector : String
  given : Option (Entries C)
  tag : Tag String
  plan : AttributePlan C

/-- The leaves and tags that a rendering comes past. -/
abbrev Visited (C : Type) := Forest Leaf (TagVisit C)

abbrev SelectorReading (C σ : Type) := String → Attempt (Press σ) C (Tag String)

namespace Press

def readStored : SelectorReading C σ := fun selector press =>
  match press.cache.parse Tag.parse selector with
  | .ok (tag, cache, evicted) => (.ok tag, { press with cache }.report (evicted.map .evicted))
  | .error (.unreadable fault) => (.error (.selector fault), press)
  | .error .noRoom => (.error .noRoom, press)

def readAfresh : SelectorReading C σ := fun selector =>
  ofExcept ((Tag.parse selector).mapError .selector)

def inSession {α : Type} (step : Attempt (Session σ) C α) : Attempt (Press σ) C α := fun press =>
  ((step press.session).1, { press with session := (step press.session).2 })

end Press

namespace Renderer

open Press

def visitEach (visit : Value C → Attempt (Press σ) C (Visited C)) :
    List (Value C) → Attempt (Press σ) C (Visited C)
  | [] => return .nil
  | v :: rest => do
    let first ← visit v
    let others ← visitEach visit rest
    return first ++ others

/-- What stands inside a tag: nothing in a void tag, present inner markup, or the children. -/
def visitInside (visitChildren : Attempt (Press σ) C (Visited C)) (tag : Tag String)
    (plan : AttributePlan C) : Attempt (Press σ) C (Visited C) :=
  if Vocabulary.isVoid tag.name then return .nil
  else if plan.innerHtml.isTruthy then
    return .leaf (.verbatim (innerMarkup plan.innerHtml)) .nil
  else visitChildren

def visitTag (read : SelectorReading C σ) (visitChildren : Attempt (Press σ) C (Visited C))
    (selector : String) (given : Option (Entries C)) : Attempt (Press σ) C (Visited C) := do
  let tag ← read selector
  let plan ← ofExcept (AttributePlan.prepare (seedOf tag) given)
  let inside ← visitInside visitChildren tag plan
  return .node ⟨selector, given, tag, plan⟩ inside .nil

/-- Visits an element that may be nested so many levels deep, itself included. -/
def visit (B : Behaviour C σ) (read : SelectorReading C σ) (limit : Nat) :
    (levels : Nat) → Value C → Attempt (Press σ) C (Visited C)
  | 0, _ => throw (.tooDeep limit)
  | levels + 1, v => do
    match ← ofExcept v.shape with
    | .skip => return .nil
    | .text v => return .leaf (.text v.leafText) .nil
    | .markup _ html => return .leaf (.verbatim html) .nil
    | .items vs => visitEach (visit B read limit levels) vs
    | .stream source vs => do
      let vs ← inSession (Session.draw source vs)
      visitEach (visit B read limit levels) vs
    | .fragment children => visitEach (visit B read limit levels) children
    | .component f props children => do
      let v ← inSession (Session.callComponent B f props children)
      visit B read limit levels v
    | .tag selector given children =>
      visitTag read (visitEach (visit B read limit levels) children) selector given

def visitAll (B : Behaviour C σ) (read : SelectorReading C σ) (settings : Settings)
    (elements : List (Value C)) : Attempt (Press σ) C (Visited C) :=
  visit B read settings.maxDepth (settings.maxDepth + 1) (root elements)

theorem visitEach_singleton (visit : Value C → Attempt (Press σ) C (Visited C)) (v : Value C) :
    visitEach visit [v] = visit v := by
  simp only [visitEach, pure_bind, Forest.append_nil, bind_pure]

theorem visitEach_append (visit : Value C → Attempt (Press σ) C (Visited C))
    (xs ys : List (Value C)) :
    visitEach visit (xs ++ ys) = (do
      let first ← visitEach visit xs
      let others ← visitEach visit ys
      return first ++ others) := by
  induction xs with
  | nil => simp only [visitEach, List.nil_append, pure_bind, Forest.nil_append, bind_pure]
  | cons x rest ih =>
      simp only [visitEach, List.cons_append, ih, bind_assoc, pure_bind, Forest.append_assoc]

end Renderer

/-! ## Printing -/

structure Label where
  name : String
  attributes : List (String × Option String)
  deriving DecidableEq, Repr

namespace Label

def openTag (label : Label) : String :=
  "<" ++ label.name ++ printAttributes label.attributes ++ ">"

def closeTag (label : Label) : String :=
  if Vocabulary.isVoid label.name then "" else "</" ++ label.name ++ ">"

end Label

def Leaf.print : Leaf → String
  | text s => Text.escape s
  | verbatim html => html

def Forest.print : Forest Leaf Label → String
  | nil => ""
  | leaf a rest => a.print ++ rest.print
  | node label inside rest => label.openTag ++ inside.print ++ label.closeTag ++ rest.print

@[simp]
theorem Forest.print_append (f g : Forest Leaf Label) : (f ++ g).print = f.print ++ g.print := by
  induction f with
  | nil => simp [print]
  | leaf a rest ih => simp [print, ih, String.append_assoc]
  | node label inside rest _ ih => simp [print, ih, String.append_assoc]

/-! ## Markers -/

namespace TagVisit

/-- The attributes of a tag with its marker, and the recorder afterwards. Without a recorder, or
without handlers, the attributes stay as they are. -/
def marked (recorder : Option (Recorder C)) (t : TagVisit C) :
    Entries C × Option (Recorder C) :=
  match recorder with
  | none => (t.plan.attributes, none)
  | some r =>
    if t.plan.events.isEmpty then (t.plan.attributes, some r)
    else
      (t.plan.attributes.put (.str Vocabulary.marker) (.str (r.record t.plan.events).1),
        some (r.record t.plan.events).2)

/-- An attribute of a tag with its marker is an attribute of the tag, or it holds an id; and then it
is under the marker or a key that was there. -/
theorem mem_marked {recorder : Option (Recorder C)} {t : TagVisit C} {e : Value C × Value C}
    (h : e ∈ (t.marked recorder).1) :
    e ∈ t.plan.attributes ∨ (∃ id, e.2 = .str id) ∧
      (e.1 = .str Vocabulary.marker ∨ e.1 ∈ t.plan.attributes.map Prod.fst) := by
  unfold marked at h
  split at h
  · exact Or.inl h
  · split at h
    · exact Or.inl h
    · rcases Entries.mem_put h with hold | ⟨hid, hkey⟩
      · exact Or.inl hold
      · exact Or.inr ⟨⟨_, hid⟩, hkey⟩

theorem key_marked {recorder : Option (Recorder C)} {t : TagVisit C} {e : Value C × Value C}
    (h : e ∈ (t.marked recorder).1) :
    e.1 = .str Vocabulary.marker ∨ e.1 ∈ t.plan.attributes.map Prod.fst := by
  rcases mem_marked h with hold | ⟨-, hkey⟩
  · exact Or.inr (List.mem_map_of_mem hold)
  · exact hkey

def label (recorder : Option (Recorder C)) (t : TagVisit C) : Label × Option (Recorder C) :=
  (⟨t.tag.name, writtenPairs (t.marked recorder).1⟩, (t.marked recorder).2)

def plainLabel (t : TagVisit C) : Label :=
  ⟨t.tag.name, writtenPairs t.plan.attributes⟩

end TagVisit

def Visited.labelled (recorder : Option (Recorder C)) (forest : Visited C) :
    Forest Leaf Label × Option (Recorder C) :=
  forest.thread TagVisit.label recorder

theorem Visited.labelled_none (forest : Visited C) :
    forest.labelled none = (forest.map id TagVisit.plainLabel, none) :=
  Forest.thread_of_const (fun _ => rfl) forest

/-- The rendering with bindings of a visited forest, with ids that start with a stem. -/
def Visited.rendering (stem : String) (forest : Visited C) : Rendering C :=
  let (written, recorder) := forest.labelled (some (.start stem))
  ⟨written.print, (recorder.map Recorder.bindings).getD []⟩

namespace Canvas

def after (canvas : Canvas C σ) (forest : Visited C) (press : Press σ) : Canvas C σ :=
  { markup := canvas.markup ++ (forest.labelled canvas.recorder).1.print
    recorder := (forest.labelled canvas.recorder).2
    press }

theorem after_nil (canvas : Canvas C σ) (press : Press σ) :
    canvas.after .nil press = { canvas with press } := by
  simp [after, Visited.labelled, Forest.thread, Forest.print]

@[simp]
theorem after_press (canvas : Canvas C σ) (forest : Visited C) (press : Press σ) :
    (canvas.after forest press).press = press := rfl

/-- Painting one forest after another is painting both side by side. -/
theorem after_after (canvas : Canvas C σ) (f g : Visited C) (press press' : Press σ) :
    (canvas.after f press).after g press' = canvas.after (f ++ g) press' := by
  simp [after, Visited.labelled, Forest.thread_append, String.append_assoc]

end Canvas

/-! ## Painting is visiting and printing -/

/-- A painter follows a visitor: it has the same effects on what the press keeps, fails when the
visitor fails, and otherwise leaves the visited forest on the canvas. What a canvas holds after a
fault is never shown. -/
def Follows (paint : Attempt (Canvas C σ) C Unit) (visit : Attempt (Press σ) C (Visited C)) :
    Prop :=
  ∀ canvas : Canvas C σ, match visit canvas.press with
    | (.ok forest, press) => paint canvas = (.ok (), canvas.after forest press)
    | (.error fault, press) => (paint canvas).1 = .error fault ∧ (paint canvas).2.press = press

namespace Follows

theorem pure : Follows (pure () : Attempt (Canvas C σ) C Unit) (pure .nil) := by
  intro canvas
  show (_, canvas) = (_, canvas.after .nil canvas.press)
  rw [Canvas.after_nil]

theorem throw (fault : Fault C) :
    Follows (throw fault : Attempt (Canvas C σ) C Unit) (throw fault) := by
  intro canvas
  exact ⟨rfl, rfl⟩

theorem write (a : Leaf) :
    Follows (Canvas.write a.print : Attempt (Canvas C σ) C Unit) (Pure.pure (.leaf a .nil)) := by
  intro canvas
  simp [Canvas.write, Canvas.after, Visited.labelled, Forest.thread, Forest.print]

/-- A first step that changes nothing on the canvas but what the press keeps. -/
theorem bind_press {α : Type} {first : Attempt (Canvas C σ) C α} {first' : Attempt (Press σ) C α}
    (hfirst : ∀ canvas, first canvas =
      ((first' canvas.press).1, { canvas with press := (first' canvas.press).2 }))
    {next : α → Attempt (Canvas C σ) C Unit} {next' : α → Attempt (Press σ) C (Visited C)}
    (hnext : ∀ a, Follows (next a) (next' a)) : Follows (first >>= next) (first' >>= next') := by
  intro canvas
  cases h : first' canvas.press with
  | mk answer press =>
      have hcanvas : first canvas = (answer, { canvas with press }) := by rw [hfirst, h]
      rw [Attempt.bind_apply first' next', h]
      cases answer with
      | error fault =>
          rw [Attempt.bind_apply_error hcanvas]
          exact ⟨rfl, rfl⟩
      | ok a =>
          rw [Attempt.bind_apply_ok hcanvas]
          exact hnext a { canvas with press }

theorem bind_except {α : Type} {answer : Except (Fault C) α}
    {next : α → Attempt (Canvas C σ) C Unit} {next' : α → Attempt (Press σ) C (Visited C)}
    (hnext : ∀ a, answer = .ok a → Follows (next a) (next' a)) :
    Follows (ofExcept answer >>= next) (ofExcept answer >>= next') := by
  cases answer with
  | error fault => exact throw fault
  | ok a => exact hnext a rfl

theorem seq {m n : Attempt (Canvas C σ) C Unit} {m' n' : Attempt (Press σ) C (Visited C)}
    (hm : Follows m m') (hn : Follows n n') :
    Follows (do m; n) (do let f ← m'; let g ← n'; return f ++ g) := by
  intro canvas
  have hfirst := hm canvas
  -- a fault of either visitor is the fault of its painter, and the second goes on from the first
  cases h : m' canvas.press with
  | mk answer press =>
      rw [h] at hfirst
      cases answer with
      | error fault =>
          rcases hfirst with ⟨hfault, hpress⟩
          have hm : m canvas = (.error fault, (m canvas).2) := Prod.ext hfault rfl
          rw [Attempt.bind_apply_error h, Attempt.bind_apply_error hm]
          exact ⟨rfl, hpress⟩
      | ok f =>
          rw [Attempt.bind_apply_ok h, Attempt.bind_apply_ok hfirst, Attempt.bind_apply]
          have hsecond := hn (canvas.after f press)
          cases h' : n' press with
          | mk answer press' =>
              simp only [Canvas.after_press, h'] at hsecond
              cases answer with
              | error fault => exact hsecond
              | ok g =>
                  show n _ = (_, canvas.after (f ++ g) press')
                  rw [hsecond, Canvas.after_after]

theorem forM {paint : Value C → Attempt (Canvas C σ) C Unit}
    {visit : Value C → Attempt (Press σ) C (Visited C)} (h : ∀ v, Follows (paint v) (visit v))
    (vs : List (Value C)) : Follows (vs.forM paint) (Renderer.visitEach visit vs) := by
  induction vs with
  | nil => exact Follows.pure
  | cons v rest ih => exact Follows.seq (h v) ih

end Follows

namespace Renderer

open Canvas

theorem inSession_apply {α : Type} (step : Attempt (Session σ) C α) (canvas : Canvas C σ) :
    inSession step canvas = ((Press.inSession step canvas.press).1,
      { canvas with press := (Press.inSession step canvas.press).2 }) := rfl

theorem readSelector_apply (selector : String) (canvas : Canvas C σ) :
    readSelector selector canvas = ((Press.readStored (C := C) selector canvas.press).1,
      { canvas with press := (Press.readStored (C := C) selector canvas.press).2 }) := by
  unfold readSelector Press.readStored
  rw [Attempt.bind_apply, Attempt.get_apply]
  dsimp only
  cases canvas.press.cache.parse Tag.parse selector with
  | ok found => rfl
  | error fault => cases fault <;> rfl

theorem mark_apply (t : TagVisit C) (canvas : Canvas C σ) :
    mark t.plan canvas = (.ok (t.marked canvas.recorder).1,
      { canvas with recorder := (t.marked canvas.recorder).2 }) := by
  unfold mark TagVisit.marked
  rw [Attempt.bind_apply, Attempt.get_apply]
  rcases canvas with ⟨markup, recorder, press⟩
  cases recorder with
  | none => rfl
  | some r =>
      dsimp only
      split <;> rfl

/-- Nothing of the attributes that a selector seeds a tag with is missing. -/
theorem present_seedOf (tag : Tag String) : ∀ e ∈ (seedOf tag : Entries C), e.2.Present := by
  intro e he
  rcases List.mem_map.1 he with ⟨e', -, rfl⟩
  exact Value.present_str e'.2

theorem present_marked (recorder : Option (Recorder C)) (t : TagVisit C)
    (h : ∀ e ∈ t.plan.attributes, e.2.Present) : ∀ e ∈ (t.marked recorder).1, e.2.Present := by
  intro e he
  rcases TagVisit.mem_marked he with hold | ⟨⟨id, hid⟩, -⟩
  · exact h e hold
  · exact hid ▸ Value.present_str id

/-- The canvas when the open tag of a visited tag is written and nothing behind it. -/
def opened (canvas : Canvas C σ) (t : TagVisit C) : Canvas C σ :=
  { canvas with
    markup := canvas.markup ++ (t.label canvas.recorder).1.openTag
    recorder := (t.label canvas.recorder).2 }

theorem after_node (canvas : Canvas C σ) (t : TagVisit C) (inside : Visited C)
    (press : Press σ) :
    canvas.after (.node t inside .nil) press =
      { (opened canvas t).after inside press with
        markup := ((opened canvas t).after inside press).markup ++
          (t.label canvas.recorder).1.closeTag } := by
  simp [after, opened, Visited.labelled, Forest.thread, Forest.print, String.append_assoc]

theorem open_apply (t : TagVisit C) (h : ∀ e ∈ t.plan.attributes, e.2.Present)
    (next : Attempt (Canvas C σ) C Unit) (canvas : Canvas C σ) :
    (do
      let attributes ← mark t.plan
      let written ← ofExcept (writeAttributes attributes)
      write ("<" ++ t.tag.name ++ written ++ ">")
      next : Attempt (Canvas C σ) C Unit) canvas = next (opened canvas t) := by
  rw [Attempt.bind_apply_ok (mark_apply t canvas),
    writeAttributes_eq (present_marked canvas.recorder t h)]
  rfl

theorem write_empty : (write "" : Attempt (Canvas C σ) C Unit) = pure () := by
  funext canvas
  simp [write]

theorem node_follows (t : TagVisit C) (h : ∀ e ∈ t.plan.attributes, e.2.Present)
    {inside : Attempt (Canvas C σ) C Unit} {inside' : Attempt (Press σ) C (Visited C)}
    (hinside : Follows inside inside') (recorder : Option (Recorder C)) :
    Follows
      (do
        let attributes ← mark t.plan
        let written ← ofExcept (writeAttributes attributes)
        write ("<" ++ t.tag.name ++ written ++ ">")
        inside
        write (t.label recorder).1.closeTag)
      (do let f ← inside'; return .node t f .nil) := by
  intro canvas
  rw [open_apply t h]
  -- the open tag leaves the press alone, so painter and visitor enter the inside together
  have hfollows := hinside (opened canvas t)
  have hpress : (opened canvas t).press = canvas.press := rfl
  rw [hpress] at hfollows
  cases hrun : inside' canvas.press with
  | mk answer press =>
      rw [hrun] at hfollows
      cases answer with
      | error fault =>
          rcases hfollows with ⟨hfault, hkept⟩
          have hpaint : inside (opened canvas t) = (.error fault, (inside (opened canvas t)).2) :=
            Prod.ext hfault rfl
          rw [Attempt.bind_apply_error hrun, Attempt.bind_apply_error hpaint]
          exact ⟨rfl, hkept⟩
      | ok f =>
          rw [Attempt.bind_apply_ok hrun, Attempt.bind_apply_ok hfollows]
          show _ = (_, canvas.after (.node t f .nil) press)
          rw [after_node]
          rfl

theorem paintTag_follows {paintChildren : List (Value C) → Attempt (Canvas C σ) C Unit}
    {visitChildren : Attempt (Press σ) C (Visited C)} {children : List (Value C)}
    (h : Follows (paintChildren children) visitChildren) (selector : String)
    (given : Option (Entries C)) :
    Follows (paintTag paintChildren selector given children)
      (visitTag Press.readStored visitChildren selector given) := by
  apply Follows.bind_press (readSelector_apply selector)
  intro tag
  apply Follows.bind_except
  intro plan hplan
  have hpresent := AttributePlan.present_of_prepare hplan (present_seedOf tag)
  let t : TagVisit C := ⟨selector, given, tag, plan⟩
  unfold visitInside
  -- what stands inside, and whether the tag is closed, depends on the same two tests
  by_cases hvoid : Vocabulary.isVoid tag.name
  · have hnode := node_follows (σ := σ) t hpresent Follows.pure none
    have hclose : (t.label none).1.closeTag = "" := if_pos hvoid
    rw [hclose, write_empty] at hnode
    simp only [hvoid, if_true]
    exact hnode
  · by_cases hinner : plan.innerHtml.isTruthy
    · have hwrite := Follows.write (C := C) (σ := σ) (.verbatim (innerMarkup plan.innerHtml))
      have hnode := node_follows t hpresent hwrite none
      have hclose : (t.label none).1.closeTag = "</" ++ tag.name ++ ">" := if_neg hvoid
      rw [hclose] at hnode
      simp only [hvoid, hinner, if_true]
      exact hnode
    · have hnode := node_follows t hpresent h none
      have hclose : (t.label none).1.closeTag = "</" ++ tag.name ++ ">" := if_neg hvoid
      rw [hclose] at hnode
      simp only [hvoid, hinner]
      exact hnode

/-- Painting an element is visiting it and printing what was visited. -/
theorem paint_follows (B : Behaviour C σ) (limit levels : Nat) (v : Value C) :
    Follows (paint B limit levels v) (visit B Press.readStored limit levels v) := by
  induction levels generalizing v with
  | zero => exact Follows.throw (.tooDeep limit)
  | succ levels ih =>
      apply Follows.bind_except
      intro shape _
      -- everything nested is one level down, and so is the result of a component
      cases shape with
      | skip => exact Follows.pure
      | text v => exact Follows.write (.text v.leafText)
      | markup v html => exact Follows.write (.verbatim html)
      | items vs => exact Follows.forM ih vs
      | stream source vs =>
          apply Follows.bind_press (inSession_apply (Session.draw source vs))
          intro vs
          exact Follows.forM ih vs
      | fragment children => exact Follows.forM ih children
      | component f props children =>
          apply Follows.bind_press (inSession_apply (Session.callComponent B f props children))
          intro v
          exact ih v
      | tag selector given children =>
          exact paintTag_follows (Follows.forM ih children) selector given

/-! ## Whole renderings -/

theorem paintAll_eq (B : Behaviour C σ) (settings : Settings) (recorder : Option (Recorder C))
    (elements : List (Value C)) (press : Press σ) :
    paintAll B settings recorder elements press =
      match visitAll B Press.readStored settings elements press with
      | (.ok forest, press') =>
        (.ok (Canvas.after ⟨"", recorder, press⟩ forest press'), press')
      | (.error fault, press') => (.error fault, press') := by
  have hfollows := paint_follows B settings.maxDepth (settings.maxDepth + 1) (root elements)
    ⟨"", recorder, press⟩
  unfold paintAll visitAll
  -- what a canvas holds after a fault is dropped here, so only the press has to agree
  cases hrun : visit B Press.readStored settings.maxDepth (settings.maxDepth + 1) (root elements)
      press with
  | mk answer press' =>
      rw [hrun] at hfollows
      cases answer with
      | ok forest =>
          simp only at hfollows
          rw [hfollows]
          rfl
      | error fault =>
          rcases hfollows with ⟨hfault, hpress⟩
          cases hpaint : paint B settings.maxDepth (settings.maxDepth + 1) (root elements)
              ⟨"", recorder, press⟩ with
          | mk answer canvas =>
              rw [hpaint] at hfault hpress
              have hanswer : answer = .error fault := hfault
              subst hanswer
              exact Prod.ext rfl hpress

/-- A rendering to markup prints the visited forest without markers. -/
theorem html_eq (B : Behaviour C σ) (settings : Settings) (elements : List (Value C))
    (press : Press σ) :
    html B settings elements press =
      match visitAll B Press.readStored settings elements press with
      | (.ok forest, press') => (.ok (forest.labelled none).1.print, press')
      | (.error fault, press') => (.error fault, press') := by
  unfold html
  rw [Attempt.bind_apply, paintAll_eq]
  cases visitAll B Press.readStored settings elements press with
  | mk answer press' =>
      cases answer with
      | ok forest => simp [Canvas.after]
      | error fault => rfl

/-- A rendering with bindings prints the visited forest with the markers of a new recorder. -/
theorem render_eq (B : Behaviour C σ) (settings : Settings) (elements : List (Value C))
    (press : Press σ) :
    render B settings elements press =
      match visitAll B Press.readStored settings elements press with
      | (.ok forest, press') => (.ok (forest.rendering settings.idStem), press')
      | (.error fault, press') => (.error fault, press') := by
  unfold render
  rw [Attempt.bind_apply, paintAll_eq]
  cases visitAll B Press.readStored settings elements press with
  | mk answer press' =>
      cases answer with
      | ok forest => simp [Canvas.after, Visited.rendering]
      | error fault => rfl

end Renderer

/-! ## Code for examples -/

/-- All code answers with the children that it is given. -/
def Behaviour.echo : Behaviour Nat Unit := fun _ args _ state =>
  ⟨.ok ((args.get? "children").getD .null), [], state⟩

/-- A callable that takes children. -/
def Callable.sample (name : String) : Callable (Value Nat) Nat :=
  ⟨name, false, some ⟨[⟨"children", .normal⟩], []⟩, false, 0⟩
end MarkupTree
