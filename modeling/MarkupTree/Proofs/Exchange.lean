import MarkupTree.Proofs.Meaning

/-!
# Exchange — one element in the place of another

Two elements that paint the same can be exchanged for each other, wherever they stand: among other
elements, in fragments, in tags, or in what a lazy source gives. Only a component may notice, for
it is given the element itself.

* `Canvas.Prepared` canvases are those that renderings paint on, with or without bindings.
* `Coincide` compares two computations on such canvases.
* `Exchanged` relates elements that differ in one place.
* `Renderer.sameHtml_of_coincide` and `Renderer.sameRendering_of_coincide` say that they are
  rendered the same.
-/

namespace MarkupTree

variable {C σ : Type}

/-! ## Canvases of renderings -/

/-- A canvas with a faithful store of selectors, on which bindings are wanted or not. -/
structure Canvas.Prepared (bound : Bool) (canvas : Canvas C σ) : Prop where
  faithful : canvas.press.cache.Faithful
  recorder : canvas.recorder.isSome = bound

/-- From every such canvas two computations come to the same, and they stay on such canvases. -/
def Coincide {α : Type} (bound : Bool) (m m' : Attempt (Canvas C σ) C α) : Prop :=
  ∀ canvas, canvas.Prepared bound → m canvas = m' canvas ∧ (m canvas).2.Prepared bound

namespace Coincide

variable {α β : Type} {bound : Bool}

/-- A step that stays on such canvases coincides with itself. -/
theorem refl {m : Attempt (Canvas C σ) C α}
    (h : ∀ canvas, canvas.Prepared bound → (m canvas).2.Prepared bound) : Coincide bound m m :=
  fun canvas hcanvas => ⟨rfl, h canvas hcanvas⟩

theorem bind {m m' : Attempt (Canvas C σ) C α} {f f' : α → Attempt (Canvas C σ) C β}
    (hm : Coincide bound m m') (hf : ∀ a, Coincide bound (f a) (f' a)) :
    Coincide bound (m >>= f) (m' >>= f') := by
  intro canvas hcanvas
  obtain ⟨hsame, hkept⟩ := hm canvas hcanvas
  rw [Attempt.bind_apply, Attempt.bind_apply, ← hsame]
  cases hrun : m canvas with
  | mk answer after =>
      rw [hrun] at hkept
      cases answer with
      | error fault => exact ⟨rfl, hkept⟩
      | ok a => exact hf a after hkept

/-- What follows on an answer only has to coincide for that answer. -/
theorem bind_except {answer : Except (Fault C) α} {f f' : α → Attempt (Canvas C σ) C β}
    (h : ∀ a, answer = .ok a → Coincide bound (f a) (f' a)) :
    Coincide bound (ofExcept answer >>= f) (ofExcept answer >>= f') := by
  cases answer with
  | error fault => exact fun canvas hcanvas => ⟨rfl, hcanvas⟩
  | ok a => exact h a rfl

/-- Two answers are made of one, and what follows on them coincides. -/
theorem bind_map {γ : Type} {common : Except (Fault C) γ} {answer answer' : Except (Fault C) α}
    {k k' : γ → α} {f f' : α → Attempt (Canvas C σ) C β} (hanswer : answer = common.map k)
    (hanswer' : answer' = common.map k')
    (h : ∀ c, common = .ok c → Coincide bound (f (k c)) (f' (k' c))) :
    Coincide bound (ofExcept answer >>= f) (ofExcept answer' >>= f') := by
  rw [hanswer, hanswer']
  cases common with
  | error fault => exact fun canvas hcanvas => ⟨rfl, hcanvas⟩
  | ok c => exact h c rfl

theorem ofExcept (answer : Except (Fault C) α) :
    Coincide bound (ofExcept answer : Attempt (Canvas C σ) C α) (ofExcept answer) := by
  refine refl fun canvas hcanvas => ?_
  rw [Attempt.ofExcept_apply]
  exact hcanvas

theorem pure (a : α) : Coincide bound (pure a : Attempt (Canvas C σ) C α) (pure a) :=
  ofExcept (.ok a)

theorem write (markup : String) :
    Coincide bound (Canvas.write markup : Attempt (Canvas C σ) C Unit) (Canvas.write markup) :=
  refl fun _ hcanvas => ⟨hcanvas.faithful, hcanvas.recorder⟩

theorem inSession (step : Attempt (Session σ) C α) :
    Coincide bound (Canvas.inSession step) (Canvas.inSession step) :=
  refl fun _ hcanvas => ⟨hcanvas.faithful, hcanvas.recorder⟩

theorem mark (plan : AttributePlan C) :
    Coincide bound (Canvas.mark plan : Attempt (Canvas C σ) C (Entries C)) (Canvas.mark plan) := by
  refine refl fun canvas hcanvas => ?_
  rw [Renderer.mark_apply ⟨"", none, ⟨"", []⟩, plan⟩]
  refine ⟨hcanvas.faithful, ?_⟩
  -- a recorder is never lost, and none comes from nowhere
  have hrecorder := hcanvas.recorder
  unfold TagVisit.marked
  cases hfound : canvas.recorder with
  | none => simpa [hfound] using hrecorder
  | some recorder =>
      rw [hfound] at hrecorder
      dsimp only
      split <;> exact hrecorder

/-- Through a faithful store a selector is read as it is parsed. -/
theorem bind_read {selector : String} {f f' : Tag String → Attempt (Canvas C σ) C β}
    (h : ∀ tag, Tag.parse selector = .ok tag → Coincide bound (f tag) (f' tag)) :
    Coincide bound (Canvas.readSelector selector >>= f) (Canvas.readSelector selector >>= f') := by
  intro canvas hcanvas
  rw [Attempt.bind_apply, Attempt.bind_apply, Renderer.readSelector_apply]
  unfold Press.readStored
  cases hparse : canvas.press.cache.parse Tag.parse selector with
  | error fault => cases fault <;> exact ⟨rfl, hcanvas⟩
  | ok found =>
      obtain ⟨tag, stored, left⟩ := found
      obtain ⟨hread, hfaithful, -⟩ := hcanvas.faithful.of_parse_ok hparse
      exact h tag hread _ ⟨hfaithful, hcanvas.recorder⟩

theorem forM {paint : Value C → Attempt (Canvas C σ) C Unit}
    (h : ∀ v, Coincide bound (paint v) (paint v)) (vs : List (Value C)) :
    Coincide bound (vs.forM paint) (vs.forM paint) := by
  induction vs with
  | nil => exact pure ()
  | cons v rest ih => exact (h v).bind fun _ => ih

/-- One item is exchanged for another. -/
theorem forM_exchange {paint : Value C → Attempt (Canvas C σ) C Unit}
    (h : ∀ v, Coincide bound (paint v) (paint v)) {w w' : Value C}
    (hw : Coincide bound (paint w) (paint w')) (before behind : List (Value C)) :
    Coincide bound ((before ++ w :: behind).forM paint)
      ((before ++ w' :: behind).forM paint) := by
  induction before with
  | nil => exact hw.bind fun _ => forM h behind
  | cons v rest ih => exact (h v).bind fun _ => ih

end Coincide

namespace Renderer

open Canvas

/-- The attributes of a tag as they are written, with its marker if it gets one. -/
def writtenAttributes (plan : AttributePlan C) : Attempt (Canvas C σ) C String := do
  let attributes ← mark plan
  ofExcept (writeAttributes attributes)

theorem writtenAttributes_apply (t : TagVisit C) (canvas : Canvas C σ) :
    writtenAttributes t.plan canvas = (writeAttributes (t.marked canvas.recorder).1,
      { canvas with recorder := (t.marked canvas.recorder).2 }) :=
  (Attempt.bind_apply_ok (mark_apply t canvas) _).trans (Attempt.ofExcept_apply _ _)

/-- What happens to a tag when it is read and its attributes are sorted. -/
def finishTag (inside : Attempt (Canvas C σ) C Unit) (tag : Tag String)
    (plan : AttributePlan C) : Attempt (Canvas C σ) C Unit := do
  let written ← writtenAttributes plan
  write ("<" ++ tag.name ++ written ++ ">")
  if Vocabulary.isVoid tag.name then return ()
  else
    (if plan.innerHtml.isTruthy then write (innerMarkup plan.innerHtml) else inside)
    write ("</" ++ tag.name ++ ">")

theorem paintTag_eq (paintChildren : List (Value C) → Attempt (Canvas C σ) C Unit)
    (selector : String) (explicit : Option (Entries C)) (children : List (Value C)) :
    paintTag paintChildren selector explicit children = (do
      let tag ← readSelector selector
      let plan ← ofExcept (AttributePlan.prepare (seedOf tag) explicit)
      finishTag (paintChildren children) tag plan) := by
  unfold paintTag finishTag writtenAttributes
  simp only [bind_assoc]
  refine congrArg _ (funext fun tag => congrArg _ (funext fun plan => ?_))
  by_cases hinner : plan.innerHtml.isTruthy = true <;> simp only [hinner] <;> rfl

/-- Present inner markup is written as if it were all that stands inside. -/
theorem finishTag_eq (inside : Attempt (Canvas C σ) C Unit) (tag : Tag String)
    (plan : AttributePlan C) :
    finishTag inside tag plan =
      finishTag (if plan.innerHtml.isTruthy then write (innerMarkup plan.innerHtml) else inside)
        tag { plan with innerHtml := .null } := rfl

/-- Paints what stands in an element of this shape, one level deeper. -/
def paintShape (B : Behaviour C σ) (limit levels : Nat) :
    Shape C → Attempt (Canvas C σ) C Unit
  | .skip => return ()
  | .text v => write v.escaped
  | .markup _ html => write html
  | .items vs => vs.forM (paint B limit levels)
  | .stream source vs => do
    let vs ← inSession (Session.draw source vs)
    vs.forM (paint B limit levels)
  | .fragment children => children.forM (paint B limit levels)
  | .component f props children => do
    let v ← inSession (Session.callComponent B f props children)
    paint B limit levels v
  | .tag selector explicit children =>
    paintTag (fun children => children.forM (paint B limit levels)) selector explicit children

theorem paintShape_tag (B : Behaviour C σ) (limit levels : Nat) (selector : String)
    (explicit : Option (Entries C)) (children : List (Value C)) :
    paintShape B limit levels (.tag selector explicit children) =
      paintTag (fun children => children.forM (paint B limit levels)) selector explicit
        children := rfl

theorem paint_succ (B : Behaviour C σ) (limit levels : Nat) (v : Value C) :
    paint B limit (levels + 1) v = ofExcept v.shape >>= paintShape B limit levels := by
  conv => lhs; unfold paint
  refine congrArg (ofExcept v.shape >>= ·) (funext fun shape => ?_)
  cases shape <;> rfl

theorem paint_of_shape (B : Behaviour C σ) (limit levels : Nat) {v : Value C} {shape : Shape C}
    (h : v.shape = .ok shape) :
    paint B limit (levels + 1) v = paintShape B limit levels shape := by
  rw [paint_succ, h]
  rfl

section Paint

variable {bound : Bool}

theorem writtenAttributes_coincide (plan : AttributePlan C) :
    Coincide bound (writtenAttributes plan : Attempt (Canvas C σ) C String)
      (writtenAttributes plan) :=
  (Coincide.mark plan).bind fun _ => .ofExcept _

theorem finishTag_coincide {inside inside' : Attempt (Canvas C σ) C Unit}
    (h : Coincide bound inside inside') (tag : Tag String) {plan plan' : AttributePlan C}
    (hinner : plan.innerHtml = plan'.innerHtml)
    (hwritten : Coincide bound (writtenAttributes plan : Attempt (Canvas C σ) C String)
      (writtenAttributes plan')) :
    Coincide bound (finishTag inside tag plan) (finishTag inside' tag plan') := by
  unfold finishTag
  rw [hinner]
  apply hwritten.bind
  intro written
  apply (Coincide.write _).bind
  intro _
  split
  · exact .pure ()
  · refine Coincide.bind ?_ fun _ => .write _
    split
    · exact .write _
    · exact h

theorem paintTag_coincide {paintChildren : List (Value C) → Attempt (Canvas C σ) C Unit}
    {children children' : List (Value C)}
    (h : Coincide bound (paintChildren children) (paintChildren children'))
    (selector : String) (explicit : Option (Entries C)) :
    Coincide bound (paintTag paintChildren selector explicit children)
      (paintTag paintChildren selector explicit children') := by
  rw [paintTag_eq, paintTag_eq]
  apply Coincide.bind_read
  intro tag _
  apply (Coincide.ofExcept _).bind
  intro plan
  exact finishTag_coincide h tag rfl (writtenAttributes_coincide plan)

/-- Painting stays on canvases of renderings. -/
theorem paint_coincide (B : Behaviour C σ) (limit levels : Nat) (v : Value C) :
    Coincide bound (paint B limit levels v) (paint B limit levels v) := by
  induction levels generalizing v with
  | zero => exact .ofExcept (.error (.tooDeep limit))
  | succ levels ih =>
      rw [paint_succ]
      apply (Coincide.ofExcept v.shape).bind
      intro shape
      cases shape with
      | skip => exact .pure ()
      | text v => exact .write _
      | markup v html => exact .write _
      | items vs => exact .forM ih vs
      | stream source vs =>
          exact (Coincide.inSession (Session.draw source vs)).bind fun vs => .forM ih vs
      | fragment children => exact .forM ih children
      | component f props children =>
          exact (Coincide.inSession (Session.callComponent B f props children)).bind ih
      | tag selector explicit children =>
          rw [paintShape_tag]
          exact paintTag_coincide (.forM ih children) selector explicit

end Paint

/-- Two tags with the same selector are painted the same, if what follows on reading it coincides
whatever the children are. -/
theorem tag_coincide {bound : Bool} {B : Behaviour C σ} {w w' : Value C} {selector : String}
    {given given' : Option (Entries C)} {children children' : List (Value C)}
    (hw : w.shape = .ok (.tag selector given children))
    (hw' : w'.shape = .ok (.tag selector given' children'))
    (h : ∀ tag, Tag.parse selector = .ok tag →
      ∀ paintChildren : List (Value C) → Attempt (Canvas C σ) C Unit,
        (∀ vs, Coincide bound (paintChildren vs) (paintChildren vs)) →
        Coincide bound
          (ofExcept (AttributePlan.prepare (seedOf tag) given) >>=
            finishTag (paintChildren children) tag)
          (ofExcept (AttributePlan.prepare (seedOf tag) given') >>=
            finishTag (paintChildren children') tag))
    (limit levels : Nat) :
    Coincide bound (paint B limit levels w) (paint B limit levels w') := by
  cases levels with
  | zero => exact .ofExcept (.error (.tooDeep limit))
  | succ levels =>
      rw [paint_of_shape B limit levels hw, paint_of_shape B limit levels hw', paintShape_tag,
        paintShape_tag, paintTag_eq, paintTag_eq]
      apply Coincide.bind_read
      intro tag hparse
      exact h tag hparse (fun vs => vs.forM (paint B limit levels))
        (Coincide.forM (paint_coincide B limit levels))

end Renderer

/-! ## Elements that differ in one place -/

/-- Shapes of elements that are painted child by child. -/
inductive Shape.Holder : (List (Value C) → Shape C) → Prop
  | items : Holder .items
  | stream (source : Nat) : Holder (.stream source)
  | fragment : Holder .fragment
  | tag (selector : String) (explicit : Option (Entries C)) : Holder (.tag selector explicit)

/-- Elements that are the same but for one place, where one holds `w` and the other one `w'`. -/
inductive Exchanged (w w' : Value C) : Value C → Value C → Prop
  | here : Exchanged w w' w w'
  | inside {v v' u u' : Value C} {holder : List (Value C) → Shape C}
      (before behind : List (Value C)) : Shape.Holder holder → Exchanged w w' v v' →
    u.shape = .ok (holder (before ++ v :: behind)) →
    u'.shape = .ok (holder (before ++ v' :: behind)) → Exchanged w w' u u'

namespace Renderer

open Canvas

variable {bound : Bool} {B : Behaviour C σ}

/-- A source that was drawn before gives nothing, and any other one gives its items. -/
theorem inSession_draw (source : Nat) (vs : List (Value C)) (canvas : Canvas C σ) :
    inSession (Session.draw source vs) canvas =
      if canvas.press.session.spent.contains source then (.ok [], canvas)
      else (.ok vs, { canvas with press := { canvas.press with
        session := { canvas.press.session with
          spent := source :: canvas.press.session.spent } } }) := by
  have hdraw := Session.draw_apply source vs canvas.press.session
  by_cases hspent : canvas.press.session.spent.contains source = true
  · rw [if_pos hspent] at hdraw ⊢
    rw [inSession_apply, Press.inSession_apply hdraw]
  · rw [if_neg hspent] at hdraw ⊢
    rw [inSession_apply, Press.inSession_apply hdraw]

/-- What follows on a source has to coincide for its items and for nothing. -/
theorem draw_coincide {source : Nat} {vs vs' : List (Value C)}
    {f : List (Value C) → Attempt (Canvas C σ) C Unit}
    (hnothing : Coincide bound (f []) (f [])) (hitems : Coincide bound (f vs) (f vs')) :
    Coincide bound (inSession (Session.draw source vs) >>= f)
      (inSession (Session.draw source vs') >>= f) := by
  intro canvas hcanvas
  have hdraw := fun us : List (Value C) => inSession_draw source us canvas
  by_cases hspent : canvas.press.session.spent.contains source = true
  · simp only [if_pos hspent] at hdraw
    rw [Attempt.bind_apply_ok (hdraw vs), Attempt.bind_apply_ok (hdraw vs')]
    exact hnothing canvas hcanvas
  · simp only [if_neg hspent] at hdraw
    rw [Attempt.bind_apply_ok (hdraw vs), Attempt.bind_apply_ok (hdraw vs')]
    exact hitems _ ⟨hcanvas.faithful, hcanvas.recorder⟩

/-- What paints the same paints the same inside of other elements. -/
theorem paint_exchanged {w w' u u' : Value C} {limit : Nat}
    (h : ∀ levels, Coincide bound (paint B limit levels w) (paint B limit levels w'))
    (hplace : Exchanged w w' u u') (levels : Nat) :
    Coincide bound (paint B limit levels u) (paint B limit levels u') := by
  induction hplace generalizing levels with
  | here => exact h levels
  | @inside v v' u u' holder before behind hholder _ hu hu' ih =>
      cases levels with
      | zero => exact .ofExcept (.error (.tooDeep limit))
      | succ levels =>
          have hitem : ∀ item,
              Coincide bound (paint B limit levels item) (paint B limit levels item) :=
            paint_coincide B limit levels
          have hchildren := Coincide.forM_exchange hitem (ih levels) before behind
          rw [paint_of_shape B limit levels hu, paint_of_shape B limit levels hu']
          cases hholder with
          | items => exact hchildren
          | stream source => exact draw_coincide (.pure ()) hchildren
          | fragment => exact hchildren
          | tag selector explicit =>
              rw [paintShape_tag, paintShape_tag]
              exact paintTag_coincide hchildren selector explicit

/-! ## Whole renderings -/

/-- Wherever they stand, and whatever was rendered before, two elements are rendered to the same
markup, or fail for the same reason, and the same is left behind. -/
def SameHtml (B : Behaviour C σ) (w w' : Value C) : Prop :=
  ∀ (settings : Settings) (elements elements' : List (Value C)),
    Exchanged w w' (root elements) (root elements') → ∀ press : Press σ, press.Reached C →
      html B settings elements press = html B settings elements' press

/-- The same for renderings with bindings. -/
def SameRendering (B : Behaviour C σ) (w w' : Value C) : Prop :=
  ∀ (settings : Settings) (elements elements' : List (Value C)),
    Exchanged w w' (root elements) (root elements') → ∀ press : Press σ, press.Reached C →
      render B settings elements press = render B settings elements' press

theorem paintAll_exchanged {w w' : Value C}
    (h : ∀ limit levels, Coincide bound (paint B limit levels w) (paint B limit levels w'))
    (settings : Settings) {elements elements' : List (Value C)}
    (hplace : Exchanged w w' (root elements) (root elements')) {press : Press σ}
    (hpress : press.Reached C) {recorder : Option (Recorder C)}
    (hrecorder : recorder.isSome = bound) :
    paintAll B settings recorder elements press = paintAll B settings recorder elements' press := by
  have hsame := (paint_exchanged (h settings.maxDepth) hplace (settings.maxDepth + 1)
    ⟨"", recorder, press⟩ ⟨hpress.faithful, hrecorder⟩).1
  unfold paintAll
  rw [hsame]

theorem sameHtml_of_coincide {w w' : Value C}
    (h : ∀ limit levels, Coincide false (paint B limit levels w) (paint B limit levels w')) :
    SameHtml B w w' := by
  intro settings elements elements' hplace press hpress
  unfold html
  rw [Attempt.bind_apply, Attempt.bind_apply,
    paintAll_exchanged h settings hplace hpress rfl]

theorem sameRendering_of_coincide {w w' : Value C}
    (h : ∀ limit levels, Coincide true (paint B limit levels w) (paint B limit levels w')) :
    SameRendering B w w' := by
  intro settings elements elements' hplace press hpress
  unfold render
  rw [Attempt.bind_apply, Attempt.bind_apply,
    paintAll_exchanged h settings hplace hpress rfl]

end Renderer
end MarkupTree
