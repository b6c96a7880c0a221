import MarkupTree.Proofs.Depth
import MarkupTree.Proofs.Sources

/-!
# Grouping — a run of children as one child

Children of fragments and tags stand side by side. A run of them may be put together into one
child, by a fragment, by a sequence that is neither a tag nor a call, or by a lazy source: nothing
of what is rendered changes, only that the run is one level deeper.

* `IsLiteral` lists the literals that have children, `Surrounds` what may stand around one, and
  `Groups` the children that stand for a run.
* `SameBut` compares computations that may be cut off, up to a source of which nobody knows.
* `Renderer.grouping_irrelevant` says that a literal is rendered the same with its children grouped.
-/

namespace MarkupTree

variable {C σ : Type}

/-! ## Literals and groups -/

/-- A sequence is written as a list or as a tuple. -/
inductive Brackets
  | list
  | tuple
  deriving DecidableEq

def Brackets.around : Brackets → List (Value C) → Value C
  | .list, vs => .list vs
  | .tuple, vs => .tuple vs

/-- What is built around children: a fragment, or a tag with an explicit mapping of attributes. -/
inductive IsLiteral : (List (Value C) → Value C) → Prop
  | fragment (brackets : Brackets) :
    IsLiteral fun children => brackets.around (.str Vocabulary.fragment :: children)
  | tag (brackets : Brackets) {selector : String} {mapping : Value C} {given : Entries C} :
    selector ≠ Vocabulary.fragment → mapping.entries? = some given →
    IsLiteral fun children => brackets.around (.str selector :: mapping :: children)

/-- Literals around one place, which have these other children. -/
inductive Surrounds : List (Value C) → (Value C → Value C) → Prop
  | nothing : Surrounds [] id
  | literal {literal : List (Value C) → Value C} {surrounding : Value C → Value C}
      {others : List (Value C)} (before behind : List (Value C)) :
    IsLiteral literal → Surrounds others surrounding →
    Surrounds (before ++ behind ++ others) fun v => literal (before ++ surrounding v :: behind)

/-- One child that stands for a run of children: their fragment, a lazy source of them, or a
sequence of them that does not start as a tag or a call does. -/
inductive Groups (run : List (Value C)) : Value C → Prop
  | fragment (brackets : Brackets) :
    Groups run (brackets.around (.str Vocabulary.fragment :: run))
  | lazy (source : Nat) : Groups run (.lazy source run)
  | sequence (brackets : Brackets) :
    (∀ first ∈ run.head?, (∀ f, first ≠ .callable f) ∧ ∀ s, first ≠ .str s) →
    Groups run (brackets.around run)

def Value.source? : Value C → Option Nat
  | .lazy source _ => some source
  | _ => none

theorem Brackets.source?_around (brackets : Brackets) (vs : List (Value C)) :
    (brackets.around vs).source? = none := by
  cases brackets <;> rfl

theorem Brackets.check_around (brackets : Brackets) (vs : List (Value C)) :
    (brackets.around vs).check = .ok () := by
  cases brackets <;> rfl

theorem Brackets.presentShape_around (brackets : Brackets) (vs : List (Value C)) :
    (brackets.around vs).presentShape = Value.sequenceShape vs := by
  cases brackets <;> rfl

theorem Value.sequenceShape_fragment (children : List (Value C)) :
    sequenceShape (.str Vocabulary.fragment :: children) = .fragment children := by
  unfold sequenceShape
  exact if_pos rfl

theorem Value.sequenceShape_tag {selector : String} (hselector : selector ≠ Vocabulary.fragment)
    {mapping : Value C} {given : Entries C} (hmapping : mapping.entries? = some given)
    (children : List (Value C)) :
    sequenceShape (.str selector :: mapping :: children) =
      .tag selector (some given) children := by
  unfold sequenceShape leadingEntries
  simp only [hselector, if_false, hmapping]

theorem Value.sequenceShape_items {vs : List (Value C)}
    (h : ∀ first ∈ vs.head?, (∀ f, first ≠ .callable f) ∧ ∀ s, first ≠ .str s) :
    sequenceShape vs = .items vs := by
  cases vs with
  | nil => rfl
  | cons first rest =>
      obtain ⟨hcallable, hstr⟩ := h first rfl
      cases first with
      | callable f => exact absurd rfl (hcallable f)
      | str s => exact absurd rfl (hstr s)
      | _ => rfl

/-! ## Up to a source -/

namespace Press

/-- The press as if the source of a group, if it has one, had never been drawn. -/
def hide (hidden : Option Nat) (press : Press σ) : Press σ :=
  hidden.elim press fun source => press.forget source

/-- The press when the source of a group, if it has one, is drawn. -/
def draw (hidden : Option Nat) (press : Press σ) : Press σ :=
  hidden.elim press fun source => press.withSpent (source :: press.session.spent)

theorem hide_draw (hidden : Option Nat) (press : Press σ) :
    (press.draw hidden).hide hidden = press.hide hidden := by
  cases hidden with
  | none => rfl
  | some source =>
      simp [hide, draw, forget, Session.forget, withSpent]

theorem state_draw (hidden : Option Nat) (press : Press σ) :
    (press.draw hidden).session.state = press.session.state := by
  cases hidden <;> rfl

/-- The source of a group, if it has one, is still to be drawn, and what code keeps does not know
it. -/
structure Ready (hidden : Option Nat) (ignorant : σ → Prop) (press : Press σ) : Prop where
  undrawn : ∀ source ∈ hidden, source ∉ press.session.spent
  state : ignorant press.session.state

end Press

/-- A computation that neither notices the source of a group nor draws it. -/
structure Unfazed {α : Type} (hidden : Option Nat) (ignorant : σ → Prop)
    (m : Attempt (Press σ) C α) : Prop where
  alike : ∀ press press', ignorant press.session.state → ignorant press'.session.state →
    press.hide hidden = press'.hide hidden →
    (m press).1 = (m press').1 ∧ (m press).2.hide hidden = (m press').2.hide hidden
  state : ∀ press, ignorant press.session.state → ignorant (m press).2.session.state
  undrawn : ∀ press, ignorant press.session.state → ∀ source ∈ hidden,
    source ∈ (m press).2.session.spent → source ∈ press.session.spent

namespace Unfazed

variable {α : Type}

/-- Without a source there is nothing to notice. -/
theorem of_none (m : Attempt (Press σ) C α) : Unfazed none (fun _ => True) m := by
  refine ⟨?_, fun _ _ => trivial, by simp⟩
  rintro press press' - - h
  have heq : press = press' := h
  rw [heq]
  exact ⟨rfl, rfl⟩

theorem of_blind {source : Nat} {ignorant : σ → Prop} {known : α → Prop}
    {m : Attempt (Press σ) C α} (h : Blind source ignorant known m) :
    Unfazed (some source) ignorant m := by
  refine ⟨?_, fun press hpress => (h press hpress).2.1, ?_⟩
  · intro press press' hpress hpress' heq
    have hforget : press.forget source = press'.forget source := heq
    have hsame := (h press hpress).1
    rw [hforget, (h press' hpress').1] at hsame
    obtain ⟨hanswer, hpress⟩ := Prod.mk.inj hsame
    exact ⟨hanswer.symm, hpress.symm⟩
  · intro press hpress other hother
    rw [← Option.some.inj hother]
    exact (h press hpress).2.2.1

theorem ready {hidden : Option Nat} {ignorant : σ → Prop} {m : Attempt (Press σ) C α}
    (h : Unfazed hidden ignorant m) {press : Press σ} (hready : press.Ready hidden ignorant) :
    (m press).2.Ready hidden ignorant :=
  ⟨fun source hsource hmem => hready.undrawn source hsource
    (h.undrawn press hready.state source hsource hmem), h.state press hready.state⟩

theorem ofExcept {hidden : Option Nat} {ignorant : σ → Prop} (answer : Except (Fault C) α) :
    Unfazed hidden ignorant (ofExcept answer : Attempt (Press σ) C α) := by
  refine ⟨?_, ?_, ?_⟩
  · intro press press' _ _ h
    rw [Attempt.ofExcept_apply, Attempt.ofExcept_apply]
    exact ⟨rfl, h⟩
  · intro press hpress
    rw [Attempt.ofExcept_apply]
    exact hpress
  · intro press _ source _ hmem
    rw [Attempt.ofExcept_apply] at hmem
    exact hmem

theorem map {β : Type} {hidden : Option Nat} {ignorant : σ → Prop} {m : Attempt (Press σ) C α}
    (h : Unfazed hidden ignorant m) (k : α → β) :
    Unfazed hidden ignorant (do let a ← m; return k a) := by
  refine ⟨?_, ?_, ?_⟩
  · intro press press' hpress hpress' heq
    rw [Attempt.map_apply, Attempt.map_apply]
    have hsame := h.alike press press' hpress hpress' heq
    exact ⟨congrArg (Except.map k) hsame.1, hsame.2⟩
  · intro press hpress
    rw [Attempt.map_apply]
    exact h.state press hpress
  · intro press hpress source hsource hmem
    rw [Attempt.map_apply] at hmem
    exact h.undrawn press hpress source hsource hmem

end Unfazed

/-- From every press that is ready, a computation comes to the same as another one up to the source
of a group, or it is cut off by the limit; and neither lets code hear of the source. -/
structure SameBut {α : Type} (hidden : Option Nat) (ignorant : σ → Prop) (limit : Nat)
    (m m' : Attempt (Press σ) C α) : Prop where
  state : ∀ press, press.Ready hidden ignorant →
    ignorant (m press).2.session.state ∧ ignorant (m' press).2.session.state
  same : ∀ press, press.Ready hidden ignorant → (m press).1 = .error (.tooDeep limit) ∨
    (m press).1 = (m' press).1 ∧ (m press).2.hide hidden = (m' press).2.hide hidden

namespace SameBut

variable {α β : Type} {hidden : Option Nat} {ignorant : σ → Prop} {limit : Nat}

theorem refl {m : Attempt (Press σ) C α} (hm : Unfazed hidden ignorant m) :
    SameBut hidden ignorant limit m m :=
  ⟨fun press hready => ⟨hm.state press hready.state, hm.state press hready.state⟩,
    fun _ _ => Or.inr ⟨rfl, rfl⟩⟩

theorem map {m m' : Attempt (Press σ) C α} (h : SameBut hidden ignorant limit m m') (k : α → β) :
    SameBut hidden ignorant limit (do let a ← m; return k a) (do let a ← m'; return k a) := by
  constructor
  · intro press hready
    rw [Attempt.map_apply, Attempt.map_apply]
    exact h.state press hready
  · intro press hready
    rw [Attempt.map_apply, Attempt.map_apply]
    rcases h.same press hready with hdeep | ⟨hanswer, hpress⟩
    · exact Or.inl (congrArg (Except.map k) hdeep)
    · exact Or.inr ⟨congrArg (Except.map k) hanswer, hpress⟩

/-- After a first step that does not notice the source, both go on from the same press. -/
theorem after {m : Attempt (Press σ) C α} (hm : Unfazed hidden ignorant m)
    {f f' : α → Attempt (Press σ) C β} (hf : ∀ a, SameBut hidden ignorant limit (f a) (f' a)) :
    SameBut hidden ignorant limit (m >>= f) (m >>= f') := by
  constructor
  · intro press hready
    have hready₁ := hm.ready hready
    rw [Attempt.bind_apply, Attempt.bind_apply]
    cases hrun : m press with
    | mk answer press₁ =>
        rw [hrun] at hready₁
        cases answer with
        | error fault => exact ⟨hready₁.state, hready₁.state⟩
        | ok a => exact (hf a).state press₁ hready₁
  · intro press hready
    have hready₁ := hm.ready hready
    rw [Attempt.bind_apply, Attempt.bind_apply]
    cases hrun : m press with
    | mk answer press₁ =>
        rw [hrun] at hready₁
        cases answer with
        | error fault => exact Or.inr ⟨rfl, rfl⟩
        | ok a => exact (hf a).same press₁ hready₁

/-- Behind two computations that come to the same, nothing that does not notice the source tells
them apart. -/
theorem before {m m' : Attempt (Press σ) C α} (h : SameBut hidden ignorant limit m m')
    {f : α → Attempt (Press σ) C β} (hf : ∀ a, Unfazed hidden ignorant (f a)) :
    SameBut hidden ignorant limit (m >>= f) (m' >>= f) := by
  have hstate : ∀ (n : Attempt (Press σ) C α) press, ignorant (n press).2.session.state →
      ignorant ((n >>= f) press).2.session.state := by
    intro n press hn
    rw [Attempt.bind_apply]
    cases hrun : n press with
    | mk answer press₁ =>
        rw [hrun] at hn
        cases answer with
        | error fault => exact hn
        | ok a => exact (hf a).state press₁ hn
  constructor
  · -- only the first steps differ, and code stays ignorant in both
    intro press hready
    obtain ⟨hm, hm'⟩ := h.state press hready
    exact ⟨hstate m press hm, hstate m' press hm'⟩
  · intro press hready
    obtain ⟨hm, hm'⟩ := h.state press hready
    rcases h.same press hready with hdeep | ⟨hanswer, hpress⟩
    · exact Or.inl (Attempt.fst_bind_of_error hdeep f)
    · rw [Attempt.bind_apply, Attempt.bind_apply]
      cases hrun : m press with
      | mk answer press₁ =>
          cases hrun' : m' press with
          | mk answer' press₁' =>
              rw [hrun] at hanswer hpress hm
              rw [hrun'] at hanswer hpress hm'
              have hsame : answer = answer' := hanswer
              subst hsame
              -- the presses may differ in the source, which the second step does not notice
              cases answer with
              | error fault => exact Or.inr ⟨rfl, hpress⟩
              | ok a => exact Or.inr ((hf a).alike press₁ press₁' hm hm' hpress)

end SameBut

namespace Renderer

/-- A group is visited by visiting its run one level deeper. -/
theorem visit_group (B : Behaviour C σ) (limit levels : Nat) {run : List (Value C)}
    {group : Value C} (h : Groups run group) {press : Press σ}
    (hundrawn : ∀ source ∈ group.source?, source ∉ press.session.spent) :
    visit B Press.readStored limit (levels + 1) group press =
      visitEach (visit B Press.readStored limit levels) run (press.draw group.source?) := by
  unfold visit Value.shape
  cases h with
  | fragment brackets =>
      rw [brackets.check_around, brackets.presentShape_around, brackets.source?_around,
        Value.sequenceShape_fragment]
      rfl
  | sequence brackets hrun =>
      rw [brackets.check_around, brackets.presentShape_around, brackets.source?_around,
        Value.sequenceShape_items hrun]
      rfl
  | lazy source =>
      have hnew : ¬ press.session.spent.contains source = true := by
        simpa using hundrawn source rfl
      have hdraw := Session.draw_apply (C := C) source run press.session
      rw [if_neg hnew] at hdraw
      show (Press.inSession (Session.draw source run) >>= visitEach _ : Attempt _ _ _) press = _
      rw [Attempt.bind_apply_ok (Press.inSession_apply hdraw)]
      rfl

/-- The visits to these children do not notice the source of a group. -/
structure Unnoticed (B : Behaviour C σ) (hidden : Option Nat) (ignorant : σ → Prop)
    (children : List (Value C)) : Prop where
  read : ∀ selector, Unfazed hidden ignorant
    (Press.readStored selector : Attempt (Press σ) C (Tag String))
  visit : ∀ limit levels, ∀ vs ⊆ children,
    Unfazed hidden ignorant (visitEach (visit B Press.readStored limit levels) vs)

section Grouped

variable {B : Behaviour C σ} {hidden : Option Nat} {ignorant : σ → Prop}
  {children : List (Value C)} {limit : Nat}

/-- A group comes to the same as its run, or it is cut off. -/
theorem visit_group_sameBut {run : List (Value C)} {group : Value C} (hgroup : Groups run group)
    (h : Unnoticed B group.source? ignorant children) (hrun : run ⊆ children) (levels : Nat) :
    SameBut group.source? ignorant limit (visit B Press.readStored limit levels group)
      (visitEach (visit B Press.readStored limit levels) run) := by
  have hunfazed := fun levels => h.visit limit levels run hrun
  cases levels with
  | zero =>
      exact ⟨fun press hready => ⟨hready.state, (hunfazed 0).state press hready.state⟩,
        fun _ _ => Or.inl rfl⟩
  | succ levels =>
      have hdrawn : ∀ press : Press σ, press.Ready group.source? ignorant →
          ignorant (press.draw group.source?).session.state := by
        intro press hready
        rw [Press.state_draw]
        exact hready.state
      constructor
      · intro press hready
        rw [visit_group B limit levels hgroup hready.undrawn]
        exact ⟨(hunfazed levels).state _ (hdrawn press hready),
          (hunfazed (levels + 1)).state press hready.state⟩
      · intro press hready
        rw [visit_group B limit levels hgroup hready.undrawn]
        have hcut : CutsOff limit (visitEach (visit B Press.readStored limit levels) run)
            (visitEach (visit B Press.readStored limit (levels + 1)) run) :=
          visitEach_related (CutsOff.closed limit)
            (visit_cutsOff B Press.readStored limit limit (Nat.le_succ levels)) run
        -- one level less cuts off or changes nothing, and the drawn source is not noticed
        rcases hcut (press.draw group.source?) with hdeep | hsame
        · exact Or.inl hdeep
        · rw [hsame]
          exact Or.inr ((hunfazed (levels + 1)).alike _ press (hdrawn press hready) hready.state
            (Press.hide_draw group.source? press))

/-- Some children are replaced by others that come to the same. -/
theorem visitEach_replace (h : Unnoticed B hidden ignorant children) {us us' : List (Value C)}
    {levels : Nat}
    (hus : SameBut hidden ignorant limit (visitEach (visit B Press.readStored limit levels) us')
      (visitEach (visit B Press.readStored limit levels) us))
    {xs zs : List (Value C)} (hxs : xs ⊆ children) (hzs : zs ⊆ children) :
    SameBut hidden ignorant limit
      (visitEach (visit B Press.readStored limit levels) (xs ++ us' ++ zs))
      (visitEach (visit B Press.readStored limit levels) (xs ++ us ++ zs)) := by
  rw [List.append_assoc, List.append_assoc]
  simp only [visitEach_append, bind_assoc, pure_bind]
  -- those before are the same, those replaced come to the same, and so do those behind
  apply SameBut.after (h.visit limit levels xs hxs)
  intro first
  apply hus.before
  intro middle
  exact (h.visit limit levels zs hzs).map fun others => first ++ (middle ++ others)

theorem visitTag_sameBut {inside inside' : Attempt (Press σ) C (Visited C)}
    (h : Unnoticed B hidden ignorant children)
    (hinside : SameBut hidden ignorant limit inside inside')
    (selector : String) (given : Option (Entries C)) :
    SameBut hidden ignorant limit (visitTag Press.readStored inside selector given)
      (visitTag Press.readStored inside' selector given) := by
  apply SameBut.after (h.read selector)
  intro tag
  apply SameBut.after (.ofExcept _)
  intro plan
  have hvisited : SameBut hidden ignorant limit (visitInside inside tag plan)
      (visitInside inside' tag plan) := by
    unfold visitInside
    split
    · exact .refl (.ofExcept (.ok _))
    · split
      · exact .refl (.ofExcept (.ok _))
      · exact hinside
  exact hvisited.map fun f => Forest.node (⟨selector, given, tag, plan⟩ : TagVisit C) f .nil

theorem visit_literal_replace (h : Unnoticed B hidden ignorant children)
    {literal : List (Value C) → Value C} (hliteral : IsLiteral literal) {us us' : List (Value C)}
    (hus : ∀ levels, SameBut hidden ignorant limit
      (visitEach (visit B Press.readStored limit levels) us')
      (visitEach (visit B Press.readStored limit levels) us))
    {xs zs : List (Value C)} (hxs : xs ⊆ children) (hzs : zs ⊆ children) (levels : Nat) :
    SameBut hidden ignorant limit
      (visit B Press.readStored limit levels (literal (xs ++ us' ++ zs)))
      (visit B Press.readStored limit levels (literal (xs ++ us ++ zs))) := by
  cases levels with
  | zero => exact .refl (.ofExcept (.error (.tooDeep limit)))
  | succ levels =>
      have hinside := visitEach_replace h (hus levels) hxs hzs
      unfold visit Value.shape
      cases hliteral with
      | fragment brackets =>
          simp only [brackets.check_around, brackets.presentShape_around,
            Value.sequenceShape_fragment]
          exact hinside
      | tag brackets hselector hmapping =>
          simp only [brackets.check_around, brackets.presentShape_around,
            Value.sequenceShape_tag hselector hmapping]
          exact visitTag_sameBut h hinside _ _

/-- What comes to the same comes to the same among other literals. -/
theorem visit_surrounding_replace (h : Unnoticed B hidden ignorant children)
    {others : List (Value C)} {surrounding : Value C → Value C}
    (hsurrounding : Surrounds others surrounding) (hothers : others ⊆ children) {v v' : Value C}
    (hv : ∀ levels, SameBut hidden ignorant limit (visit B Press.readStored limit levels v')
      (visit B Press.readStored limit levels v)) (levels : Nat) :
    SameBut hidden ignorant limit
      (visit B Press.readStored limit levels (surrounding v'))
      (visit B Press.readStored limit levels (surrounding v)) := by
  induction hsurrounding generalizing levels with
  | nothing => exact hv levels
  | @literal literal surrounding others before behind hliteral _ ih =>
      have hsub := List.append_subset.1 hothers
      have hbeside := List.append_subset.1 hsub.1
      have hinner : ∀ levels, SameBut hidden ignorant limit
          (visitEach (visit B Press.readStored limit levels) [surrounding v'])
          (visitEach (visit B Press.readStored limit levels) [surrounding v]) := by
        intro levels
        rw [visitEach_singleton, visitEach_singleton]
        exact ih hsub.2 levels
      have houter := visit_literal_replace h hliteral hinner hbeside.1 hbeside.2 levels
      rwa [List.append_assoc, List.append_assoc] at houter

end Grouped

end Renderer

/-! ## Renderings -/

/-- The source is new: it was not drawn, no child holds it, and no code has heard of it. -/
structure Unshared (B : Behaviour C σ) (source : Nat) (children : List (Value C))
    (s : Session σ) : Prop where
  undrawn : source ∉ s.spent
  unmentioned : ∀ v ∈ children, v.FreeOf source
  unaware : ∃ ignorant : σ → Prop, ignorant s.state ∧ B.Unaware source ignorant

/-- Two computations give the same answer and leave the same press behind, with the same calls made,
but for the source of a group: it is drawn in one of them only. -/
def EndAlike {α : Type} (hidden : Option Nat) (press : Press σ) (m m' : Attempt (Press σ) C α) :
    Prop :=
  (m press).1 = (m' press).1 ∧
    (m press).2.session.calls = (m' press).2.session.calls ∧
    (m press).2.hide hidden = (m' press).2.hide hidden

namespace Renderer

theorem exists_unnoticed {B : Behaviour C σ} {hidden : Option Nat} {children : List (Value C)}
    {press : Press σ} (h : ∀ source ∈ hidden, Unshared B source children press.session) :
    ∃ ignorant : σ → Prop, press.Ready hidden ignorant ∧ Unnoticed B hidden ignorant children := by
  cases hidden with
  | none =>
      exact ⟨fun _ => True, ⟨by simp, trivial⟩, fun _ => .of_none _, fun _ _ _ _ => .of_none _⟩
  | some source =>
      obtain ⟨hundrawn, hunmentioned, ignorant, hstate, hB⟩ := h source rfl
      refine ⟨ignorant, ⟨?_, hstate⟩, fun selector => .of_blind (.readStored selector), ?_⟩
      · intro other hother
        rw [← Option.some.inj hother]
        exact hundrawn
      · intro limit levels vs hvs
        exact .of_blind (visitEach_blind fun v hv =>
          visit_blind hB limit levels (hunmentioned v (hvs hv)))

theorem calls_of_hide {hidden : Option Nat} {press press' : Press σ}
    (h : press.hide hidden = press'.hide hidden) : press.session.calls = press'.session.calls := by
  have hcalls : ∀ p : Press σ, (p.hide hidden).session.calls = p.session.calls := by
    intro p
    cases hidden <;> rfl
  calc press.session.calls
      = (press.hide hidden).session.calls := (hcalls press).symm
    _ = (press'.hide hidden).session.calls := by rw [h]
    _ = press'.session.calls := hcalls press'

/-- Where the limit does not come between, what is visited the same but for a source is rendered the
same. -/
theorem endAlike_of_sameBut {B : Behaviour C σ} {settings : Settings} {hidden : Option Nat}
    {ignorant : σ → Prop} {press : Press σ} (hready : press.Ready hidden ignorant) {v v' : Value C}
    (hsame : ∀ limit levels, SameBut hidden ignorant limit
      (visit B Press.readStored limit levels v') (visit B Press.readStored limit levels v))
    (hv' : WithinDepth B settings [v'] press) (hv : WithinDepth B settings [v] press) :
    EndAlike hidden press (html B settings [v']) (html B settings [v]) ∧
      EndAlike hidden press (render B settings [v']) (render B settings [v]) := by
  obtain ⟨hanswer, hpress⟩ : (visitAll B Press.readStored settings [v'] press).1 =
        (visitAll B Press.readStored settings [v] press).1 ∧
      (visitAll B Press.readStored settings [v'] press).2.hide hidden =
        (visitAll B Press.readStored settings [v] press).2.hide hidden := by
    rcases (hsame settings.maxDepth (settings.maxDepth + 1)).same press hready with hdeep | halike
    · -- cut off under this limit, though the limit does not matter: so look under the next one
      let deeper := settings.withDepth (settings.maxDepth + 1) (Nat.succ_pos _)
      have hle : settings.maxDepth ≤ deeper.maxDepth := Nat.le_succ _
      have hlift := hv'.visitAll_eq hle
      rw [← hlift, ← hv.visitAll_eq hle]
      rcases (hsame deeper.maxDepth (deeper.maxDepth + 1)).same press hready with hdeep' | halike
      · have hfault : (visitAll B Press.readStored deeper [v'] press).1 =
            .error (.tooDeep settings.maxDepth) := by
          rw [hlift]
          exact hdeep
        have hlimit : deeper.maxDepth = settings.maxDepth :=
          Fault.tooDeep.inj (Except.error.inj (hdeep'.symm.trans hfault))
        exact absurd hlimit (Nat.succ_ne_self _)
      · exact halike
    · exact halike
  have hcalls := calls_of_hide hpress
  constructor
  · unfold EndAlike
    rw [html_answer, html_answer, Press.html_press, Press.html_press, hanswer]
    exact ⟨rfl, hcalls, hpress⟩
  · unfold EndAlike
    rw [render_answer, render_answer, Press.render_press, Press.render_press, hanswer]
    exact ⟨rfl, hcalls, hpress⟩

/-- Of a fragment, or a tag with an explicit mapping, any run of children may be put together into
one child: their fragment, a new lazy source of them, or a sequence of them that does not start as
a tag or a call does. Wherever the fragment or the tag stands, and unless a limit on nesting comes
between, a rendering gives the same markup and the same bindings, or fails for the same reason, with
the same components called in the same order. -/
theorem grouping_irrelevant (B : Behaviour C σ) (settings : Settings)
    {others : List (Value C)} {surrounding : Value C → Value C}
    (hsurrounding : Surrounds others surrounding)
    {literal : List (Value C) → Value C} (hliteral : IsLiteral literal) (xs ys zs : List (Value C))
    {group : Value C} (hgroup : Groups ys group) {press : Press σ}
    (hunshared : ∀ source ∈ group.source?,
      Unshared B source (others ++ xs ++ ys ++ zs) press.session)
    (hgrouped : WithinDepth B settings [surrounding (literal (xs ++ group :: zs))] press)
    (hplain : WithinDepth B settings [surrounding (literal (xs ++ ys ++ zs))] press) :
    EndAlike group.source? press (html B settings [surrounding (literal (xs ++ group :: zs))])
        (html B settings [surrounding (literal (xs ++ ys ++ zs))]) ∧
      EndAlike group.source? press (render B settings [surrounding (literal (xs ++ group :: zs))])
        (render B settings [surrounding (literal (xs ++ ys ++ zs))]) := by
  obtain ⟨ignorant, hready, hunnoticed⟩ := exists_unnoticed hunshared
  obtain ⟨hbehind, hzs⟩ := List.append_subset.1 (List.Subset.refl (others ++ xs ++ ys ++ zs))
  obtain ⟨hbefore, hys⟩ := List.append_subset.1 hbehind
  obtain ⟨hothers, hxs⟩ := List.append_subset.1 hbefore
  have hrun : ∀ limit levels, SameBut group.source? ignorant limit
      (visitEach (visit B Press.readStored limit levels) [group])
      (visitEach (visit B Press.readStored limit levels) ys) := by
    intro limit levels
    rw [visitEach_singleton]
    exact visit_group_sameBut hgroup hunnoticed hys levels
  have hchildren : ∀ limit levels, SameBut group.source? ignorant limit
      (visit B Press.readStored limit levels (literal (xs ++ group :: zs)))
      (visit B Press.readStored limit levels (literal (xs ++ ys ++ zs))) := by
    intro limit levels
    have hreplace := visit_literal_replace hunnoticed hliteral (hrun limit) hxs hzs levels
    rwa [List.append_assoc xs [group] zs] at hreplace
  exact endAlike_of_sameBut hready
    (fun limit => visit_surrounding_replace hunnoticed hsurrounding hothers (hchildren limit))
    hgrouped hplain

/-- A list tag around children. -/
def bulleted (children : List (Value Nat)) : Value Nat :=
  Brackets.list.around (.str "ul" :: .mapping [] :: children)

/-- A fragment around something, in front of a text. -/
def exclaimed (v : Value Nat) : Value Nat :=
  Brackets.tuple.around (.str Vocabulary.fragment :: ([] ++ v :: [.str "!"]))

/-- A call, a mapping and a nested list, of which none starts as a tag does. -/
def mixedRun : List (Value Nat) :=
  [.list [.callable (.sample "Item"), .str "hr"], .mapping [], .list [.int 1, .bool false]]

theorem surrounds_exclaimed : Surrounds [.str "!"] exclaimed :=
  .literal [] [.str "!"] (.fragment .tuple) .nothing

theorem unshared_mixedRun :
    Unshared .echo 7 ([.str "!"] ++ [.bool false] ++ mixedRun ++ [.str "z"])
      (Session.start ()) := by
  have hsample : (Value.callable (.sample "Item") : Value Nat).FreeOf 7 :=
    .of_parts (by simp) (by simp [Value.parts, Callable.defaults, Callable.sample])
  have hleaf : ∀ b, (Value.bool b : Value Nat).FreeOf 7 :=
    fun b => .of_parts (by simp) (by simp [Value.parts])
  refine ⟨by simp [Session.start], ?_, fun _ => True, trivial, ?_⟩
  · simp only [mixedRun, List.cons_append, List.nil_append, List.forall_mem_cons]
    refine ⟨.str "!", hleaf false, .list ?_, .mapping (by simp), .list ?_, .str "z", by simp⟩
    · simp only [List.forall_mem_cons]
      exact ⟨hsample, .str "hr", by simp⟩
    · simp only [List.forall_mem_cons]
      exact ⟨.int 1, hleaf false, by simp⟩
  · -- the code answers with the children that it was given, and never looks what was drawn
    intro code args spent state hargs _
    refine ⟨rfl, by simp [Behaviour.echo], trivial, ?_⟩
    intro v hv
    cases hchildren : args.get? "children" with
    | none =>
        simp only [Behaviour.echo, hchildren, Option.getD_none, Except.ok.injEq] at hv
        exact hv ▸ .of_parts (by simp) (by simp [Value.parts])
    | some children =>
        simp only [Behaviour.echo, hchildren, Option.getD_some, Except.ok.injEq] at hv
        exact hv ▸ hargs _ (mem_of_lookup hchildren)

theorem grouping_irrelevant_mixedRun :
    Groups mixedRun (.lazy 7 mixedRun) ∧
      Unshared .echo 7 ([.str "!"] ++ [.bool false] ++ mixedRun ++ [.str "z"])
        (Session.start ()) ∧
      EndAlike (some 7) (.start 10 () : Press Unit)
        (html .echo .standard
          [exclaimed (bulleted ([.bool false] ++ .lazy 7 mixedRun :: [.str "z"]))])
        (html .echo .standard [exclaimed (bulleted ([.bool false] ++ mixedRun ++ [.str "z"]))]) ∧
      (html .echo .standard [exclaimed (bulleted ([.bool false] ++ mixedRun ++ [.str "z"]))]
        (.start 10 () : Press Unit)).1.toOption = some "<ul><hr>{}1z</ul>!" := by
  have hgroup : Groups mixedRun (.lazy 7 mixedRun) := .lazy 7
  have hgrouped :
      (html .echo .standard
        [exclaimed (bulleted ([.bool false] ++ .lazy 7 mixedRun :: [.str "z"]))]
        (.start 10 () : Press Unit)).1.toOption = some "<ul><hr>{}1z</ul>!" := by
    decide +kernel
  have hplain :
      (html .echo .standard [exclaimed (bulleted ([.bool false] ++ mixedRun ++ [.str "z"]))]
        (.start 10 () : Press Unit)).1.toOption = some "<ul><hr>{}1z</ul>!" := by
    decide +kernel
  have hwithin : ∀ elements : List (Value Nat), ∀ markup,
      (html .echo .standard elements (.start 10 () : Press Unit)).1.toOption = some markup →
      WithinDepth .echo .standard elements (.start 10 ()) := by
    intro elements markup h
    apply withinDepth_of_ne
    intro hfault
    rw [hfault] at h
    cases h
  have hliteral : IsLiteral bulleted := .tag .list (by decide) rfl
  have hunshared : ∀ source ∈ (Value.lazy 7 mixedRun).source?,
      Unshared .echo source ([.str "!"] ++ [.bool false] ++ mixedRun ++ [.str "z"])
        (Session.start ()) := by
    rintro source ⟨⟩
    exact unshared_mixedRun
  have hsame := grouping_irrelevant .echo .standard surrounds_exclaimed hliteral [.bool false]
    mixedRun [.str "z"] hgroup hunshared (hwithin _ _ hgrouped) (hwithin _ _ hplain)
  exact ⟨hgroup, unshared_mixedRun, hsame.1, hplain⟩

end Renderer
end MarkupTree
