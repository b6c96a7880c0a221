import MarkupTree.Factory
import MarkupTree.Proofs.Grouping
import MarkupTree.Proofs.Independence
import MarkupTree.Proofs.Marking
import MarkupTree.Proofs.Positions

/-!
# Printing — what an element prints, rule by rule

What becomes of an element is put together from what becomes of its parts. There is one rule for
every shape, and each of them holds whatever was rendered before. The code that is called in
between may do anything but change its state.

* `Renderer.Ends` is a visit that always ends in the same way, `Renderer.Finds` one that comes past
  a certain forest.
* `Renderer.Certain` is an element that is always rendered, `Renderer.Frames` one that is rendered
  around some markup.
* `Renderer.html_of_ends` and `Renderer.render_of_ends` tell what a rendering answers.
-/

namespace MarkupTree

variable {C σ : Type}

/-! ## Tags as they are read -/

theorem TagVisit.read_given {selector : String} {given : Option (Entries C)} {t : TagVisit C}
    (h : TagVisit.read selector given = .ok t) : t.given = given := by
  unfold TagVisit.read at h
  cases hparse : (Tag.parse selector).mapError (Fault.selector (C := C)) with
  | error fault => simp [hparse, bind, Except.bind] at h
  | ok tag =>
      cases hplan : AttributePlan.prepare (Renderer.seedOf tag) given with
      | error fault => simp [hparse, hplan, bind, Except.bind] at h
      | ok plan =>
          simp only [hparse, hplan, bind, Except.bind, pure, Except.pure, Except.ok.injEq] at h
          rw [← h]

/-- A tag can be read if its selector can and none of its attributes is missing. -/
theorem TagVisit.exists_read {selector : String} {tag : Tag String}
    (hselector : Tag.parse selector = .ok tag) {given : Option (Entries C)}
    (hpresent : ∀ e ∈ given.getD [], e.2.Present) :
    ∃ t, TagVisit.read selector given = .ok t ∧ t.tag = tag := by
  have hsort := AttributePlan.sort_eq_of_present ⟨Renderer.seedOf tag, [], .null⟩ hpresent
  unfold TagVisit.read AttributePlan.prepare
  rw [hselector]
  dsimp only [Except.mapError, bind, Except.bind]
  rw [hsort]
  exact ⟨_, rfl, rfl⟩

/-- What a tag prints by itself and what decides about the rest: whether it carries inner markup,
and whether it has handlers and can be marked. -/
structure Sketch where
  name : String
  attributes : String
  carries : Bool
  handled : Bool
  unmarked : Bool
  deriving DecidableEq

namespace TagVisit

def sketch (t : TagVisit C) : Sketch :=
  ⟨t.tag.name, printAttributes (writtenPairs t.plan.attributes), t.plan.innerHtml.isTruthy,
    t.isHandled, decide t.Unmarked⟩

theorem exists_read_of_sketch {selector : String} {given : Option (Entries C)} {sketch : Sketch}
    (h : (TagVisit.read selector given).toOption.map TagVisit.sketch = some sketch) :
    ∃ t, TagVisit.read selector given = .ok t ∧ t.sketch = sketch := by
  cases hread : TagVisit.read selector given with
  | error fault =>
      rw [hread] at h
      cases h
  | ok t =>
      rw [hread] at h
      exact ⟨t, rfl, Option.some.inj h⟩

theorem openTag_of_sketch {t : TagVisit C} {sketch : Sketch} (h : t.sketch = sketch) :
    t.plainLabel.openTag = "<" ++ sketch.name ++ sketch.attributes ++ ">" := by
  rw [← h]
  rfl

theorem closeTag_of_sketch {t : TagVisit C} {sketch : Sketch} (h : t.sketch = sketch)
    (hvoid : Vocabulary.isVoid sketch.name = false) :
    t.plainLabel.closeTag = "</" ++ sketch.name ++ ">" := by
  rw [← h] at hvoid ⊢
  exact if_neg (by rw [show t.plainLabel.name = t.sketch.name from rfl, hvoid]; decide)

/-- Without handlers there is no slot in an open tag, with handlers it is in front of the end. -/
theorem fill_openPieces {t : TagVisit C} {sketch : Sketch} (h : t.sketch = sketch)
    (f : Nat → String) (n : Nat) :
    t.openPieces.fill f n =
      "<" ++ sketch.name ++ sketch.attributes ++ (if sketch.handled then f n else "") ++ ">" := by
  rw [← h]
  show t.openPieces.fill f n = "<" ++ t.tag.name ++
    printAttributes (writtenPairs t.plan.attributes) ++ (if t.isHandled then f n else "") ++ ">"
  unfold openPieces
  cases t.isHandled <;> simp [Slotted.fill, String.append_assoc]

end TagVisit

theorem Value.shape_list (vs : List (Value C)) :
    (Value.list vs).shape = .ok (Value.sequenceShape vs) := rfl

/-- What a factory makes is a tag with the attributes of its keywords. -/
theorem Factory.shape_element {tag : String} (htag : tag ≠ Vocabulary.fragment)
    (children : List (Value C)) (keywords : Table (Value C)) :
    (element tag children keywords).shape =
      .ok (.tag tag (some (attributes keywords)) children) := by
  have hmapping : (Value.mapping (attributes keywords)).entries? = some (attributes keywords) := rfl
  unfold element
  rw [Value.shape_list, Value.sequenceShape_tag htag hmapping]

/-- A tag with handlers takes one number, and what stands inside and behind it the next ones. -/
theorem Visited.fill_node {t : TagVisit C} {sketch : Sketch} (h : t.sketch = sketch)
    (hvoid : Vocabulary.isVoid sketch.name = false) (inside rest : Visited C)
    (f : Nat → String) (n : Nat) :
    (pieces (.node t inside rest)).fill f n =
      "<" ++ sketch.name ++ sketch.attributes ++ (if sketch.handled then f n else "") ++ ">" ++
        (inside.pieces.fill f (n + sketch.handled.toNat) ++
          ("</" ++ sketch.name ++ ">" ++
            rest.pieces.fill f (n + sketch.handled.toNat + inside.handled.length))) := by
  have hslots : t.openPieces.slots = sketch.handled.toNat := by
    rw [← h, TagVisit.slots_openPieces]
    show _ = t.isHandled.toNat
    cases ht : t.isHandled <;> simp [ht]
  rw [pieces, Slotted.fill_append, Slotted.fill_append, Slotted.fill, hslots, slots_pieces,
    TagVisit.fill_openPieces h, TagVisit.closeTag_of_sketch h hvoid]

theorem Visited.markup_leaf (a : Leaf) : markup (.leaf a .nil : Visited C) = a.print := by
  simp [markup, labelled, Forest.thread, Forest.print]

namespace Renderer

/-! ## Forests that are found for certain -/

/-- Whatever was rendered before, a visit ends in this way, and the state of the code stays as it
is. -/
def Ends (m : Attempt (Press σ) C (Visited C)) (answer : Except (Fault C) (Visited C)) : Prop :=
  ∀ press, ∃ after, m press = (answer, after) ∧ after.session.state = press.session.state

/-- Whatever was rendered before, a visit comes past this forest. -/
def Finds (m : Attempt (Press σ) C (Visited C)) (forest : Visited C) : Prop :=
  Ends m (.ok forest)

/-- A call of a component ends in this way, and the state of the code stays as it is. -/
def Responds (B : Behaviour C σ) (f : Callable (Value C) C) (props : Entries C)
    (children : List (Value C)) (answer : Except (Fault C) (Value C)) : Prop :=
  ∀ s, ∃ s', Session.callComponent B f props children s = (answer, s') ∧ s'.state = s.state

/-- A component ends as its code does with the arguments that it is given. -/
theorem Responds.of_bound {B : Behaviour C σ} {f : Callable (Value C) C} {props given : Entries C}
    {children : List (Value C)} {args : Arguments (Value C)} {answer : Except (Fault C) (Value C)}
    (hnow : f.deferred = false) (hgiven : Session.propsWithChildren f props children = .ok given)
    (hargs : Session.bindProps f given = some args)
    (hcode : ∀ spent state, B f.code args spent state = ⟨answer, [], state⟩) :
    Responds B f props children answer := by
  intro s
  refine ⟨⟨s.spent, s.calls ++ [f.name], s.state⟩, ?_, rfl⟩
  rw [Session.callComponent_apply, hgiven]
  dsimp only
  rw [hargs]
  dsimp only
  unfold Session.run
  rw [hnow]
  show Session.compute B f.code args ⟨s.spent, s.calls ++ [f.name], s.state⟩ = _
  unfold Session.compute
  rw [hcode]
  rfl

/-- A component answers with this value. -/
def Answers (B : Behaviour C σ) (f : Callable (Value C) C) (props : Entries C)
    (children : List (Value C)) (v : Value C) : Prop :=
  Responds B f props children (.ok v)

/-- The fault of a component is the fault of the element that calls it. -/
theorem Ends.of_responds {B : Behaviour C σ} {limit levels : Nat} {v : Value C}
    {vs : List (Value C)} {f : Callable (Value C) C} {props : Entries C} {fault : Fault C}
    (hshape : v.shape = .ok (.component f props vs)) (hcall : Responds B f props vs (.error fault)) :
    Ends (visit B Press.readAfresh limit (levels + 1) v) (.error fault) := by
  intro press
  obtain ⟨s', hcalled, hstate⟩ := hcall press.session
  refine ⟨{ press with session := s' }, ?_, hstate⟩
  have hvisit : visit B Press.readAfresh limit (levels + 1) v =
      Press.inSession (Session.callComponent B f props vs) >>=
        visit B Press.readAfresh limit levels := by
    rw [visit, hshape]
    rfl
  rw [hvisit]
  exact Attempt.bind_apply_error (Press.inSession_apply hcalled) _

namespace Finds

theorem pure (forest : Visited C) : Finds (pure forest : Attempt (Press σ) C (Visited C)) forest :=
  fun press => ⟨press, rfl, rfl⟩

theorem map {m : Attempt (Press σ) C (Visited C)} {forest : Visited C} (h : Finds m forest)
    (wrap : Visited C → Visited C) : Finds (do let f ← m; return wrap f) (wrap forest) := by
  intro press
  obtain ⟨after, hrun, hstate⟩ := h press
  refine ⟨after, ?_, hstate⟩
  rw [Attempt.map_apply, hrun]
  rfl

/-- A forest that is found was read tag by tag. -/
theorem sound {B : Behaviour C σ} {limit levels : Nat} {v : Value C} {forest : Visited C}
    (h : Finds (visit B Press.readAfresh limit levels v) forest) (press : Press σ) :
    forest.Sound := by
  obtain ⟨after, hrun, -⟩ := h press
  exact visit_sound B limit levels v press forest after hrun

theorem seq {m n : Attempt (Press σ) C (Visited C)} {f g : Visited C} (hm : Finds m f)
    (hn : Finds n g) : Finds (do let f ← m; let g ← n; return f ++ g) (f ++ g) := by
  intro press
  obtain ⟨between, hfirst, hstate⟩ := hm press
  obtain ⟨after, hrun, hstate'⟩ := (hn.map (f ++ ·)) between
  exact ⟨after, (Attempt.bind_apply_ok hfirst _).trans hrun, hstate'.trans hstate⟩

theorem ofExcept {α : Type} {answer : Except (Fault C) α} {a : α} (hanswer : answer = .ok a)
    {next : α → Attempt (Press σ) C (Visited C)} {forest : Visited C}
    (h : Finds (next a) forest) : Finds (ofExcept answer >>= next) forest := by
  rw [hanswer]
  exact h

section Shapes

variable {B : Behaviour C σ} {limit levels : Nat} {v w : Value C} {vs : List (Value C)}
  {forest : Visited C}

theorem nil : Finds (visitEach (visit B Press.readAfresh limit levels) []) .nil :=
  pure .nil

theorem cons {first others : Visited C}
    (hfirst : Finds (visit B Press.readAfresh limit levels v) first)
    (hothers : Finds (visitEach (visit B Press.readAfresh limit levels) vs) others) :
    Finds (visitEach (visit B Press.readAfresh limit levels) (v :: vs)) (first ++ others) :=
  hfirst.seq hothers

theorem text (hshape : v.shape = .ok (.text w)) :
    Finds (visit B Press.readAfresh limit (levels + 1) v) (.leaf (.text w.leafText) .nil) :=
  ofExcept hshape (pure _)

theorem markup {html : String} (hshape : v.shape = .ok (.markup w html)) :
    Finds (visit B Press.readAfresh limit (levels + 1) v) (.leaf (.verbatim html) .nil) :=
  ofExcept hshape (pure _)

theorem items (hshape : v.shape = .ok (.items vs))
    (h : Finds (visitEach (visit B Press.readAfresh limit levels) vs) forest) :
    Finds (visit B Press.readAfresh limit (levels + 1) v) forest :=
  ofExcept hshape h

theorem fragment (hshape : v.shape = .ok (.fragment vs))
    (h : Finds (visitEach (visit B Press.readAfresh limit levels) vs) forest) :
    Finds (visit B Press.readAfresh limit (levels + 1) v) forest :=
  ofExcept hshape h

theorem component {f : Callable (Value C) C} {props : Entries C}
    (hshape : v.shape = .ok (.component f props vs)) (hcall : Answers B f props vs w)
    (h : Finds (visit B Press.readAfresh limit levels w) forest) :
    Finds (visit B Press.readAfresh limit (levels + 1) v) forest := by
  refine ofExcept hshape fun press => ?_
  obtain ⟨s', hcalled, hstate⟩ := hcall press.session
  obtain ⟨after, hrun, hstate'⟩ := h { press with session := s' }
  have hsession := Press.inSession_apply hcalled
  exact ⟨after, (Attempt.bind_apply_ok hsession _).trans hrun, hstate'.trans hstate⟩

/-- A tag that is read is a node around what stands inside. -/
theorem node {selector : String} {given : Option (Entries C)} {t : TagVisit C} {inside : Visited C}
    (hshape : v.shape = .ok (.tag selector given vs)) (hread : TagVisit.read selector given = .ok t)
    (h : Finds (visitInside (visitEach (visit B Press.readAfresh limit levels) vs) t.tag t.plan)
      inside) :
    Finds (visit B Press.readAfresh limit (levels + 1) v) (.node t inside .nil) := by
  refine ofExcept hshape ?_
  show Finds (visitTag Press.readAfresh _ selector given) _
  rw [visitTag_afresh]
  exact ofExcept hread (h.map fun inside => .node t inside .nil)

theorem tag {selector : String} {given : Option (Entries C)} {t : TagVisit C} {inside : Visited C}
    (hshape : v.shape = .ok (.tag selector given vs)) (hread : TagVisit.read selector given = .ok t)
    (hvoid : Vocabulary.isVoid t.tag.name = false) (hinner : t.plan.innerHtml.isTruthy = false)
    (h : Finds (visitEach (visit B Press.readAfresh limit levels) vs) inside) :
    Finds (visit B Press.readAfresh limit (levels + 1) v) (.node t inside .nil) := by
  refine node hshape hread ?_
  unfold visitInside
  rw [hvoid, hinner]
  exact h

/-- Present inner markup stands inside a tag in the place of the children. -/
theorem inner {selector : String} {given : Option (Entries C)} {t : TagVisit C}
    (hshape : v.shape = .ok (.tag selector given vs)) (hread : TagVisit.read selector given = .ok t)
    (hvoid : Vocabulary.isVoid t.tag.name = false) (hinner : t.plan.innerHtml.isTruthy = true) :
    Finds (visit B Press.readAfresh limit (levels + 1) v)
      (.node t (.leaf (.verbatim (innerMarkup t.plan.innerHtml)) .nil) .nil) := by
  refine node hshape hread ?_
  unfold visitInside
  rw [hvoid, hinner]
  exact pure _

end Shapes

end Finds

/-! ## Elements that are always rendered -/

section Certain

variable (B : Behaviour C σ) (limit levels : Nat)

/-- An element that is always rendered, and always the same way. -/
def Certain (v : Value C) : Prop :=
  ∃ forest, Finds (visit B Press.readAfresh limit levels v) forest

/-- Elements of which each is always rendered. -/
def CertainEach (vs : List (Value C)) : Prop :=
  ∃ forest, Finds (visitEach (visit B Press.readAfresh limit levels) vs) forest

/-- An element that is rendered around some markup, unless that is empty. -/
def Frames (around : String → Value C) : Prop :=
  ∃ front back, ∀ markup ≠ "", ∃ forest,
    Finds (visit B Press.readAfresh limit levels (around markup)) forest ∧
      forest.markup = front ++ markup ++ back

/-- Elements one of which is rendered around some markup. -/
def FramesEach (around : String → List (Value C)) : Prop :=
  ∃ front back, ∀ markup ≠ "", ∃ forest,
    Finds (visitEach (visit B Press.readAfresh limit levels) (around markup)) forest ∧
      forest.markup = front ++ markup ++ back

end Certain

variable {B : Behaviour C σ} {limit levels : Nat} {v w : Value C} {vs : List (Value C)}

namespace CertainEach

theorem nil : CertainEach B limit levels [] :=
  ⟨.nil, Finds.nil⟩

theorem cons (hv : Certain B limit levels v) (hvs : CertainEach B limit levels vs) :
    CertainEach B limit levels (v :: vs) := by
  obtain ⟨first, hfirst⟩ := hv
  obtain ⟨others, hothers⟩ := hvs
  exact ⟨first ++ others, hfirst.cons hothers⟩

theorem of_forall (h : ∀ v ∈ vs, Certain B limit levels v) : CertainEach B limit levels vs := by
  induction vs with
  | nil => exact nil
  | cons v rest ih =>
      have hrest := ih fun v' hv' => h v' (List.mem_cons_of_mem _ hv')
      exact cons (h v (by simp)) hrest

end CertainEach

namespace Certain

theorem text (hshape : v.shape = .ok (.text w)) : Certain B limit (levels + 1) v :=
  ⟨_, Finds.text hshape⟩

theorem str (s : String) : Certain B limit (levels + 1) (.str s) :=
  text rfl

theorem markup (html : String) (present : Bool) :
    Certain B limit (levels + 1) (.markup html present) :=
  ⟨_, Finds.markup (w := .markup html present) rfl⟩

theorem items (hshape : v.shape = .ok (.items vs)) (h : CertainEach B limit levels vs) :
    Certain B limit (levels + 1) v := by
  obtain ⟨forest, hforest⟩ := h
  exact ⟨forest, Finds.items hshape hforest⟩

theorem component {f : Callable (Value C) C} {props : Entries C}
    (hshape : v.shape = .ok (.component f props vs)) (hcall : Answers B f props vs w)
    (h : Certain B limit levels w) : Certain B limit (levels + 1) v := by
  obtain ⟨forest, hforest⟩ := h
  exact ⟨forest, Finds.component hshape hcall hforest⟩

/-- A tag whose selector can be read and whose attributes are all there. -/
theorem tag {selector : String} {given : Option (Entries C)} {tag : Tag String}
    (hshape : v.shape = .ok (.tag selector given vs)) (hselector : Tag.parse selector = .ok tag)
    (hpresent : ∀ e ∈ given.getD [], e.2.Present) (h : CertainEach B limit levels vs) :
    Certain B limit (levels + 1) v := by
  obtain ⟨t, hread, -⟩ := TagVisit.exists_read hselector hpresent
  obtain ⟨forest, hforest⟩ := h
  -- whether the tag is void or carries inner markup, something is found inside
  have hinside : ∃ inside, Finds
      (visitInside (visitEach (visit B Press.readAfresh limit levels) vs) t.tag t.plan) inside := by
    unfold visitInside
    split
    · exact ⟨_, Finds.pure _⟩
    · split
      · exact ⟨_, Finds.pure _⟩
      · exact ⟨forest, hforest⟩
  obtain ⟨inside, hinside⟩ := hinside
  exact ⟨_, Finds.node hshape hread hinside⟩

end Certain

namespace FramesEach

variable {around : String → Value C} {arounds : String → List (Value C)}

/-- What is always rendered may stand in front. -/
theorem cons (hv : Certain B limit levels v) (h : FramesEach B limit levels arounds) :
    FramesEach B limit levels fun markup => v :: arounds markup := by
  obtain ⟨first, hfirst⟩ := hv
  obtain ⟨front, back, hframes⟩ := h
  refine ⟨first.markup ++ front, back, ?_⟩
  intro markup hmarkup
  obtain ⟨forest, hforest, hprinted⟩ := hframes markup hmarkup
  refine ⟨first ++ forest, hfirst.cons hforest, ?_⟩
  rw [Visited.markup_append, hprinted]
  simp only [String.append_assoc]

/-- What is always rendered may stand behind. -/
theorem of_frames (h : Frames B limit levels around) (hvs : CertainEach B limit levels vs) :
    FramesEach B limit levels fun markup => around markup :: vs := by
  obtain ⟨others, hothers⟩ := hvs
  obtain ⟨front, back, hframes⟩ := h
  refine ⟨front, back ++ others.markup, ?_⟩
  intro markup hmarkup
  obtain ⟨forest, hforest, hprinted⟩ := hframes markup hmarkup
  refine ⟨forest ++ others, hforest.cons hothers, ?_⟩
  rw [Visited.markup_append, hprinted]
  simp only [String.append_assoc]

end FramesEach

namespace Frames

variable {around : String → Value C} {arounds : String → List (Value C)}

theorem fragment (hshape : ∀ markup, (around markup).shape = .ok (.fragment (arounds markup)))
    (h : FramesEach B limit levels arounds) : Frames B limit (levels + 1) around := by
  obtain ⟨front, back, hframes⟩ := h
  refine ⟨front, back, fun markup hmarkup => ?_⟩
  obtain ⟨forest, hforest, hprinted⟩ := hframes markup hmarkup
  exact ⟨forest, Finds.fragment (hshape markup) hforest, hprinted⟩

theorem component {f : Callable (Value C) C} {props : Entries C} {answer : String → Value C}
    (hshape : ∀ markup, (around markup).shape = .ok (.component f props (arounds markup)))
    (hcall : ∀ markup, Answers B f props (arounds markup) (answer markup))
    (h : Frames B limit levels answer) : Frames B limit (levels + 1) around := by
  obtain ⟨front, back, hframes⟩ := h
  refine ⟨front, back, fun markup hmarkup => ?_⟩
  obtain ⟨forest, hforest, hprinted⟩ := hframes markup hmarkup
  exact ⟨forest, Finds.component (hshape markup) (hcall markup) hforest, hprinted⟩

theorem tag {selector : String} {given : Option (Entries C)} {tag : Tag String}
    (hshape : ∀ markup, (around markup).shape = .ok (.tag selector given (arounds markup)))
    (hselector : Tag.parse selector = .ok tag) (hpresent : ∀ e ∈ given.getD [], e.2.Present)
    (hvoid : Vocabulary.isVoid tag.name = false) (hinner : carriesMarkup given = false)
    (h : FramesEach B limit levels arounds) : Frames B limit (levels + 1) around := by
  obtain ⟨t, hread, rfl⟩ := TagVisit.exists_read hselector hpresent
  obtain ⟨front, back, hframes⟩ := h
  refine ⟨t.plainLabel.openTag ++ front, back ++ t.plainLabel.closeTag, ?_⟩
  intro markup hmarkup
  obtain ⟨forest, hforest, hprinted⟩ := hframes markup hmarkup
  refine ⟨_, Finds.tag (hshape markup) hread hvoid
    ((TagVisit.isTruthy_innerHtml hread).trans hinner) hforest, ?_⟩
  rw [Visited.markup_node, hprinted]
  simp only [String.append_assoc]

/-- A tag around inner markup, which is nowhere else in the tag. -/
theorem inner {selector : String} {label : Label} {t : String → TagVisit C}
    {given : String → Option (Entries C)}
    (hshape : ∀ markup, (around markup).shape = .ok (.tag selector (given markup) []))
    (hread : ∀ markup, TagVisit.read selector (given markup) = .ok (t markup))
    (hlabel : ∀ markup, (t markup).plainLabel = label)
    (hvoid : Vocabulary.isVoid label.name = false)
    (hinner : ∀ markup, (t markup).plan.innerHtml = .str markup) :
    Frames B limit (levels + 1) around := by
  refine ⟨label.openTag, label.closeTag, fun markup hmarkup => ?_⟩
  have hname : Vocabulary.isVoid (t markup).tag.name = false :=
    (congrArg (fun label => Vocabulary.isVoid label.name) (hlabel markup)).trans hvoid
  have hpresent : (t markup).plan.innerHtml.isTruthy = true := by
    rw [hinner markup]
    exact bne_iff_ne.2 hmarkup
  refine ⟨_, Finds.inner (hshape markup) (hread markup) hname hpresent, ?_⟩
  rw [Visited.markup_node, Visited.markup_leaf, hlabel markup, hinner markup]
  exact String.append_assoc.symm

end Frames

/-! ## Whole renderings -/

variable {settings : Settings} {elements : List (Value C)} {press : Press σ}
  {answer : Except (Fault C) (Visited C)}

/-- A visit that always ends in the same way does so through a store with room, too. -/
theorem visitAll_of_ends (hpress : press.Settled)
    (h : Ends (visitAll B Press.readAfresh settings elements) answer) :
    (visitAll B Press.readStored settings elements press).1 = answer ∧
      (visitAll B Press.readStored settings elements press).2.Settled ∧
      (visitAll B Press.readStored settings elements press).2.session.state =
        press.session.state := by
  obtain ⟨after, hvisit, hstate⟩ := h press
  obtain ⟨hanswer, hsession⟩ := visitAll_eq_afresh B settings elements hpress press rfl
  rw [hvisit] at hanswer hsession
  exact ⟨hanswer, (visitAll_settled B settings elements hpress).1,
    (congrArg Session.state hsession).trans hstate⟩

theorem html_of_ends (hpress : press.Settled)
    (h : Ends (visitAll B Press.readAfresh settings elements) answer) :
    ∃ after, html B settings elements press = (answer.map Visited.markup, after) ∧ after.Settled ∧
      after.session.state = press.session.state := by
  obtain ⟨hanswer, hsettled, hstate⟩ := visitAll_of_ends hpress h
  have hafter := Press.html_press B settings elements press
  refine ⟨(html B settings elements press).2, Prod.ext ?_ rfl, ?_, ?_⟩
  · rw [html_answer, hanswer]
    rfl
  · rw [hafter]
    exact hsettled
  · rw [hafter]
    exact hstate

theorem render_of_ends (hpress : press.Settled)
    (h : Ends (visitAll B Press.readAfresh settings elements) answer) :
    ∃ after, render B settings elements press =
        (answer.map (Visited.rendering settings.idStem), after) ∧
      after.Settled ∧ after.session.state = press.session.state := by
  obtain ⟨hanswer, hsettled, hstate⟩ := visitAll_of_ends hpress h
  have hafter := Press.render_press B settings elements press
  refine ⟨(render B settings elements press).2, Prod.ext ?_ rfl, ?_, ?_⟩
  · rw [render_answer, hanswer]
  · rw [hafter]
    exact hsettled
  · rw [hafter]
    exact hstate

end Renderer
end MarkupTree
