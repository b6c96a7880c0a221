import MarkupTree.Proofs.Positions

/-!
# Sources — who can notice that a source was drawn

The items of a lazy source can be drawn once. Whether they were matters only to those who hold the
source: a rendering of elements that do not mention it, with components that never heard of it,
goes the same way whether it was drawn before or not.

* `Value.Mentions` finds a source inside a value, `Value.FreeOf` says that it is not there.
* `Behaviour.Unaware` code neither notices a source nor comes up with it.
* `Blind` computations do not notice a source, `Renderer.visit_blind` says that visits are blind.
-/

namespace MarkupTree

variable {C σ : Type}

/-! ## Sources inside values -/

/-- What a callable passes on when it is given nothing else. -/
def Callable.defaults (f : Callable (Value C) C) : List (Value C) :=
  (f.signature.map fun s => s.fallbacks.map Prod.snd).getD []

namespace Value

/-- The values that a value holds at first hand. -/
def parts : Value C → List (Value C)
  | .list vs | .tuple vs | .lazy _ vs => vs
  | .mapping es | .frozen es | .payload es => es.flatMap fun e => [e.1, e.2]
  | .callable f => f.defaults
  | .pending f args => f.defaults ++ args.bound.map Prod.snd
  | _ => []

/-- A source is the value itself or somewhere inside. -/
inductive Mentions (source : Nat) : Value C → Prop
  | itself (vs : List (Value C)) : Mentions source (.lazy source vs)
  | part {v w : Value C} : w ∈ v.parts → Mentions source w → Mentions source v

def FreeOf (source : Nat) (v : Value C) : Prop :=
  ¬ v.Mentions source

namespace FreeOf

variable {source : Nat}

theorem part {v w : Value C} (h : v.FreeOf source) (hw : w ∈ v.parts) : w.FreeOf source :=
  fun hmentions => h (.part hw hmentions)

/-- A value that is not the source itself is free of it if all that it holds is. -/
theorem of_parts {v : Value C} (hv : ∀ vs, v ≠ .lazy source vs)
    (h : ∀ w ∈ v.parts, w.FreeOf source) : v.FreeOf source := by
  intro hmentions
  cases hmentions with
  | itself vs => exact hv vs rfl
  | part hw hmentions => exact h _ hw hmentions

theorem list {vs : List (Value C)} (h : ∀ v ∈ vs, v.FreeOf source) :
    (Value.list vs).FreeOf source :=
  of_parts (by simp) h

theorem tuple {vs : List (Value C)} (h : ∀ v ∈ vs, v.FreeOf source) :
    (Value.tuple vs).FreeOf source :=
  of_parts (by simp) h

theorem str (s : String) : (Value.str s : Value C).FreeOf source :=
  of_parts (by simp) (by simp [parts])

theorem int (n : Int) : (Value.int n : Value C).FreeOf source :=
  of_parts (by simp) (by simp [parts])

theorem mapping {es : Entries C} (h : ∀ e ∈ es, e.1.FreeOf source ∧ e.2.FreeOf source) :
    (Value.mapping es).FreeOf source := by
  apply of_parts (by simp)
  intro w hw
  rcases List.mem_flatMap.1 hw with ⟨e, he, hw⟩
  have hw : w = e.1 ∨ w = e.2 := by simpa using hw
  rcases hw with rfl | rfl
  · exact (h e he).1
  · exact (h e he).2

theorem entry {v : Value C} {es : Entries C} (h : v.FreeOf source) (hes : v.entries? = some es) :
    ∀ e ∈ es, e.1.FreeOf source ∧ e.2.FreeOf source := by
  intro e he
  have hparts : e.1 ∈ v.parts ∧ e.2 ∈ v.parts := by
    cases v <;> cases hes <;>
      exact ⟨List.mem_flatMap.2 ⟨e, he, by simp⟩, List.mem_flatMap.2 ⟨e, he, by simp⟩⟩
  exact ⟨h.part hparts.1, h.part hparts.2⟩

end FreeOf
end Value

/-- No element that is visited next, and nothing that a component is called with, holds the
source. -/
def Shape.FreeOf (source : Nat) : Shape C → Prop
  | .items vs | .fragment vs | .tag _ _ vs => ∀ v ∈ vs, v.FreeOf source
  | .stream other vs => other ≠ source ∧ ∀ v ∈ vs, v.FreeOf source
  | .component f props children =>
    (Value.callable f).FreeOf source ∧ (∀ e ∈ props, e.2.FreeOf source) ∧
      ∀ v ∈ children, v.FreeOf source
  | _ => True

theorem freeOf_leadingEntries {source : Nat} {vs : List (Value C)}
    (h : ∀ v ∈ vs, v.FreeOf source) :
    (∀ e ∈ (leadingEntries vs).1.getD [], e.2.FreeOf source) ∧
      ∀ v ∈ (leadingEntries vs).2, v.FreeOf source := by
  cases vs with
  | nil => simp [leadingEntries]
  | cons v rest =>
      unfold leadingEntries
      dsimp only
      cases hes : v.entries? with
      | none => exact ⟨by simp, h⟩
      | some es =>
          exact ⟨fun e he => ((h v (by simp)).entry hes e he).2,
            fun w hw => h w (List.mem_cons_of_mem _ hw)⟩

theorem Value.freeOf_sequenceShape {source : Nat} {vs : List (Value C)}
    (h : ∀ v ∈ vs, v.FreeOf source) : (sequenceShape vs).FreeOf source := by
  cases vs with
  | nil => exact h
  | cons first rest =>
      have hrest : ∀ v ∈ rest, v.FreeOf source := fun v hv => h v (List.mem_cons_of_mem _ hv)
      have hleading := freeOf_leadingEntries hrest
      cases first with
      | callable f => exact ⟨h _ (by simp), hleading.1, hleading.2⟩
      | str s =>
          unfold sequenceShape
          dsimp only
          split
          · exact hrest
          · exact hleading.2
      | _ => exact h

/-- What is looked at next in an element holds no source that the element does not hold. -/
theorem Value.FreeOf.presentShape {source : Nat} {v : Value C} (h : v.FreeOf source) :
    v.presentShape.FreeOf source := by
  cases v with
  | list vs => exact freeOf_sequenceShape fun w hw => h.part hw
  | tuple vs => exact freeOf_sequenceShape fun w hw => h.part hw
  | lazy other vs =>
      refine ⟨?_, fun w hw => h.part hw⟩
      rintro rfl
      exact h (.itself vs)
  | range start stop step =>
      intro w hw
      rcases List.mem_map.1 hw with ⟨i, -, rfl⟩
      exact .int _
  | payload detail =>
      have hdetail : (Value.mapping detail).FreeOf source :=
        .of_parts (by simp) fun w hw => h.part hw
      intro w hw
      rw [List.mem_singleton.1 hw]
      apply FreeOf.tuple
      intro u hu
      have hu : u = .str "detail" ∨ u = .mapping detail := by simpa using hu
      rcases hu with rfl | rfl
      · exact .str _
      · exact hdetail
  | bool b => cases b <;> trivial
  | _ => trivial

/-! ## Sources in arguments -/

/-- Collecting succeeds if there is something to collect of every member of a list. -/
theorem mapM_eq_some_iff {α β : Type} {f : α → Option β} {as : List α} {bs : List β} :
    as.mapM f = some bs ↔ as.map f = bs.map some := by
  induction as generalizing bs with
  | nil => cases bs <;> simp
  | cons a rest ih =>
      rw [List.mapM_cons, List.map_cons]
      cases hfirst : f a with
      | none => cases bs <;> simp
      | some first =>
          cases bs with
          | nil => cases rest.mapM f <;> simp
          | cons b others =>
              rw [List.map_cons, List.cons.injEq, Option.some.injEq, ← ih]
              cases rest.mapM f <;> simp

/-- Whatever is collected of a list comes from one of its members. -/
theorem exists_of_mem_mapM {α β : Type} {f : α → Option β} {as : List α} {bs : List β}
    (h : as.mapM f = some bs) : ∀ b ∈ bs, ∃ a ∈ as, f a = some b := by
  intro b hb
  have hmem : some b ∈ as.map f := by
    rw [mapM_eq_some_iff.1 h]
    exact List.mem_map_of_mem hb
  exact List.mem_map.1 hmem

theorem mem_of_mapM {α β : Type} {f : α → Option β} {as : List α} {bs : List β}
    (h : as.mapM f = some bs) : ∀ a ∈ as, ∃ b ∈ bs, f a = some b := by
  intro a ha
  have hmem : f a ∈ bs.map some := by
    rw [← mapM_eq_some_iff.1 h]
    exact List.mem_map_of_mem ha
  obtain ⟨b, hb, heq⟩ := List.mem_map.1 hmem
  exact ⟨b, hb, heq.symm⟩

theorem mem_of_lookup {α : Type} {name : String} {a : α} {pairs : List (String × α)}
    (h : pairs.lookup name = some a) : (name, a) ∈ pairs := by
  obtain ⟨before, behind, rfl, -⟩ := List.lookup_eq_some_iff.1 h
  simp

namespace Session

variable {source : Nat}

theorem freeOf_keywords {props : Entries C} {keywords : List (String × Value C)}
    (h : ∀ e ∈ props, e.2.FreeOf source) (hkeywords : keywords? props = some keywords) :
    ∀ kw ∈ keywords, kw.2.FreeOf source := by
  intro kw hkw
  obtain ⟨e, he, hkw⟩ := exists_of_mem_mapM hkeywords kw hkw
  obtain ⟨name, -, rfl⟩ := Option.map_eq_some_iff.1 hkw
  exact h e he

theorem freeOf_keywordMapping {keywords : List (String × Value C)}
    (h : ∀ kw ∈ keywords, kw.2.FreeOf source) : (keywordMapping keywords).FreeOf source := by
  apply Value.FreeOf.mapping
  intro e he
  rcases List.mem_map.1 he with ⟨kw, hkw, rfl⟩
  exact ⟨.str kw.1, h kw hkw⟩

/-- Whatever a parameter is bound to comes from the keywords or from what the callable passes on
by itself. -/
theorem freeOf_bindParameter {s : Signature (Value C)} {keywords : List (String × Value C)}
    (hs : ∀ fallback ∈ s.fallbacks, fallback.2.FreeOf source)
    (h : ∀ kw ∈ keywords, kw.2.FreeOf source) {p : Parameter} {bound : String × Value C}
    (hbound : s.bindParameter .tuple keywordMapping keywords p = some bound) :
    bound.2.FreeOf source := by
  unfold Signature.bindParameter at hbound
  have hfallback : ∀ v, s.fallbacks.lookup p.name = some v → v.FreeOf source :=
    fun v hv => hs _ (mem_of_lookup hv)
  have hkeyword : ∀ v, keywords.lookup p.name = some v → v.FreeOf source :=
    fun v hv => h _ (mem_of_lookup hv)
  have hgiven : ∀ v, (keywords.lookup p.name).or (s.fallbacks.lookup p.name) = some v →
      v.FreeOf source := by
    intro v hv
    rcases Option.or_eq_some_iff.1 hv with hv | ⟨-, hv⟩
    · exact hkeyword v hv
    · exact hfallback v hv
  cases hkind : p.kind <;> simp only [hkind] at hbound
  case normal =>
    obtain ⟨v, hv, rfl⟩ := Option.map_eq_some_iff.1 hbound
    exact hgiven v hv
  case keywordOnly =>
    obtain ⟨v, hv, rfl⟩ := Option.map_eq_some_iff.1 hbound
    exact hgiven v hv
  case positionalOnly =>
    -- such a parameter cannot be given by its name
    obtain ⟨v, hv, rfl⟩ := Option.map_eq_some_iff.1 hbound
    exact hfallback v hv
  case restPositional =>
    cases hbound
    exact .tuple (by simp)
  case restKeywords =>
    cases hbound
    exact freeOf_keywordMapping fun kw hkw => h kw (List.mem_filter.1 hkw).1

theorem freeOf_propsWithChildren {f : Callable (Value C) C} {props given : Entries C}
    {children : List (Value C)} (hprops : ∀ e ∈ props, e.2.FreeOf source)
    (hchildren : ∀ v ∈ children, v.FreeOf source)
    (h : propsWithChildren f props children = .ok given) :
    ∀ e ∈ given, e.2.FreeOf source := by
  unfold propsWithChildren at h
  split at h
  · cases h
    intro e he
    rcases Entries.mem_put he with hold | ⟨hnew, -⟩
    · exact hprops e hold
    · exact hnew ▸ .list hchildren
  · split at h
    · cases h
      exact hprops
    · cases h

theorem freeOf_bindProps {f : Callable (Value C) C} {props : Entries C}
    {args : Arguments (Value C)} (hf : (Value.callable f).FreeOf source)
    (hprops : ∀ e ∈ props, e.2.FreeOf source) (h : bindProps f props = some args) :
    ∀ bound ∈ args.bound, bound.2.FreeOf source := by
  unfold bindProps at h
  obtain ⟨keywords, hkeywords, h⟩ := Option.bind_eq_some_iff.1 h
  have hfree := freeOf_keywords hprops hkeywords
  cases hsignature : f.signature with
  | none =>
      simp only [hsignature] at h
      cases h
      exact hfree
  | some s =>
      simp only [hsignature] at h
      have hs : ∀ fallback ∈ s.fallbacks, fallback.2.FreeOf source := by
        intro fallback hmem
        apply hf.part
        simp only [Value.parts, Callable.defaults, hsignature, Option.map_some, Option.getD_some]
        exact List.mem_map_of_mem hmem
      unfold Signature.bindKeywords at h
      split at h
      · obtain ⟨bound, hbound, rfl⟩ := Option.map_eq_some_iff.1 h
        intro b hb
        obtain ⟨p, -, hp⟩ := exists_of_mem_mapM hbound b hb
        exact freeOf_bindParameter hs hfree hp
      · cases h

end Session

/-! ## Code that does not know a source -/

/-- On arguments that do not mention the source, code goes the same way whether the source was
drawn or not, does not draw it, and does not answer with it; and so on in every state that it
leaves behind. -/
def Behaviour.Unaware (B : Behaviour C σ) (source : Nat) (ignorant : σ → Prop) : Prop :=
  ∀ code (args : Arguments (Value C)) spent state,
    (∀ bound ∈ args.bound, bound.2.FreeOf source) → ignorant state →
      B code args (spent.filter (· ≠ source)) state = B code args spent state ∧
      source ∉ (B code args spent state).drawn ∧
      ignorant (B code args spent state).state ∧
      ∀ v, (B code args spent state).answer = .ok v → v.FreeOf source

/-- The session as if the source had never been drawn. -/
def Session.forget (source : Nat) (s : Session σ) : Session σ :=
  { s with spent := s.spent.filter (· ≠ source) }

def Press.forget (source : Nat) (press : Press σ) : Press σ :=
  { press with session := press.session.forget source }

/-- A computation in a session does not notice whether the source was drawn, does not draw it, and
answers only with what it is meant to know. -/
def Session.Blind {α : Type} (source : Nat) (ignorant : σ → Prop) (known : α → Prop)
    (step : Attempt (Session σ) C α) : Prop :=
  ∀ s, ignorant s.state →
    step (s.forget source) = ((step s).1, (step s).2.forget source) ∧
      ignorant (step s).2.state ∧
      (source ∈ (step s).2.spent → source ∈ s.spent) ∧
      ∀ a, (step s).1 = .ok a → known a

/-- The same of a computation on a press. -/
def Blind {α : Type} (source : Nat) (ignorant : σ → Prop) (known : α → Prop)
    (m : Attempt (Press σ) C α) : Prop :=
  ∀ press, ignorant press.session.state →
    m (press.forget source) = ((m press).1, (m press).2.forget source) ∧
      ignorant (m press).2.session.state ∧
      (source ∈ (m press).2.session.spent → source ∈ press.session.spent) ∧
      ∀ a, (m press).1 = .ok a → known a

namespace Session.Blind

variable {B : Behaviour C σ} {source : Nat} {ignorant : σ → Prop}

theorem draw {other : Nat} (h : other ≠ source) {vs : List (Value C)}
    (hvs : ∀ v ∈ vs, v.FreeOf source) :
    Session.Blind source ignorant (fun vs => ∀ v ∈ vs, v.FreeOf source)
      (Session.draw other vs : Attempt (Session σ) C (List (Value C))) := by
  intro s hs
  have hspent : (s.forget source).spent.contains other = s.spent.contains other := by
    simp [forget, h]
  rw [draw_apply, draw_apply, hspent]
  split
  · refine ⟨rfl, hs, id, ?_⟩
    intro a ha
    cases ha
    simp
  · refine ⟨?_, hs, ?_, ?_⟩
    · simp [forget, h]
    · intro hmem
      exact (List.mem_cons.1 hmem).resolve_left (Ne.symm h)
    · intro a ha
      cases ha
      exact hvs

theorem compute (hB : B.Unaware source ignorant) (code : C) {args : Arguments (Value C)}
    (hargs : ∀ bound ∈ args.bound, bound.2.FreeOf source) :
    Session.Blind source ignorant (Value.FreeOf source) (Session.compute B code args) := by
  intro s hs
  obtain ⟨houtcome, hdrawn, hstate, hanswer⟩ := hB code args s.spent s.state hargs hs
  refine ⟨?_, hstate, ?_, hanswer⟩
  · unfold Session.compute forget
    dsimp only
    rw [houtcome, List.filter_append]
    -- nothing that the code draws is forgotten
    have hkept : (B code args s.spent s.state).drawn.filter (· ≠ source) =
        (B code args s.spent s.state).drawn := by
      rw [List.filter_eq_self]
      intro other hother
      have hne : other ≠ source := by
        rintro rfl
        exact hdrawn hother
      simpa using hne
    rw [hkept]
  · intro hmem
    exact (List.mem_append.1 hmem).resolve_left hdrawn

theorem run (hB : B.Unaware source ignorant) {f : Callable (Value C) C}
    (hf : (Value.callable f).FreeOf source) {args : Arguments (Value C)}
    (hargs : ∀ bound ∈ args.bound, bound.2.FreeOf source) :
    Session.Blind source ignorant (Value.FreeOf source) (Session.run B f args) := by
  intro s hs
  unfold Session.run
  rw [Attempt.bind_apply_ok (Attempt.modify_apply _ _),
    Attempt.bind_apply_ok (Attempt.modify_apply _ _)]
  split
  · -- what is awaited holds what the code will be given
    refine ⟨rfl, hs, id, ?_⟩
    intro v hv
    cases hv
    apply Value.FreeOf.of_parts (by simp)
    intro w hw
    rcases List.mem_append.1 hw with hw | hw
    · exact hf.part hw
    · rcases List.mem_map.1 hw with ⟨bound, hbound, rfl⟩
      exact hargs bound hbound
  · exact compute hB f.code hargs { s with calls := s.calls ++ [f.name] } hs

theorem callComponent (hB : B.Unaware source ignorant) {f : Callable (Value C) C}
    (hf : (Value.callable f).FreeOf source) {props : Entries C} {children : List (Value C)}
    (hprops : ∀ e ∈ props, e.2.FreeOf source) (hchildren : ∀ v ∈ children, v.FreeOf source) :
    Session.Blind source ignorant (Value.FreeOf source)
      (Session.callComponent B f props children) := by
  intro s hs
  rw [callComponent_apply, callComponent_apply]
  -- whether the call is made does not depend on what was drawn
  cases hgiven : Session.propsWithChildren f props children with
  | error fault => exact ⟨rfl, hs, id, by simp⟩
  | ok given =>
      dsimp only
      cases hbind : Session.bindProps f given with
      | none => exact ⟨rfl, hs, id, by simp⟩
      | some args =>
          have hfree := freeOf_propsWithChildren hprops hchildren hgiven
          exact run hB hf (freeOf_bindProps hf hfree hbind) s hs

end Session.Blind

namespace Blind

variable {source : Nat} {ignorant : σ → Prop} {α β : Type}

theorem ofExcept {known : α → Prop} {answer : Except (Fault C) α}
    (h : ∀ a, answer = .ok a → known a) :
    Blind source ignorant known (ofExcept answer : Attempt (Press σ) C α) := by
  intro press hpress
  rw [Attempt.ofExcept_apply, Attempt.ofExcept_apply]
  exact ⟨rfl, hpress, id, h⟩

theorem pure {known : α → Prop} {a : α} (h : known a) :
    Blind source ignorant known (pure a : Attempt (Press σ) C α) := by
  intro press hpress
  refine ⟨rfl, hpress, id, ?_⟩
  intro a' ha'
  cases ha'
  exact h

theorem throw {known : α → Prop} (fault : Fault C) :
    Blind source ignorant known (throw fault : Attempt (Press σ) C α) :=
  fun _ hpress => ⟨rfl, hpress, id, fun _ h => by cases h⟩

theorem inSession {known : α → Prop} {step : Attempt (Session σ) C α}
    (h : Session.Blind source ignorant known step) :
    Blind source ignorant known (Press.inSession step) := by
  intro press hpress
  obtain ⟨hsame, hstate, hspent, hknown⟩ := h press.session hpress
  refine ⟨?_, hstate, hspent, hknown⟩
  exact Press.inSession_apply hsame

theorem bind {known : α → Prop} {known' : β → Prop} {m : Attempt (Press σ) C α}
    {f : α → Attempt (Press σ) C β} (hm : Blind source ignorant known m)
    (hf : ∀ a, known a → Blind source ignorant known' (f a)) :
    Blind source ignorant known' (m >>= f) := by
  intro press hpress
  obtain ⟨hsame, hstate, hspent, hknown⟩ := hm press hpress
  cases hrun : m press with
  | mk answer press₁ =>
      rw [hrun] at hsame hstate hspent hknown
      cases answer with
      | error fault =>
          rw [Attempt.bind_apply_error hrun, Attempt.bind_apply_error hsame]
          exact ⟨rfl, hstate, hspent, by simp⟩
      | ok a =>
          rw [Attempt.bind_apply_ok hrun, Attempt.bind_apply_ok hsame]
          obtain ⟨hsame', hstate', hspent', hknown'⟩ := hf a (hknown a rfl) press₁ hstate
          exact ⟨hsame', hstate', fun hmem => hspent (hspent' hmem), hknown'⟩

theorem readStored (selector : String) :
    Blind source ignorant (fun _ => True)
      (Press.readStored selector : Attempt (Press σ) C (Tag String)) := by
  intro press hpress
  unfold Press.readStored
  rw [show (press.forget source).cache = press.cache from rfl]
  cases press.cache.parse Tag.parse selector with
  | ok found => exact ⟨rfl, hpress, id, fun _ _ => trivial⟩
  | error fault => cases fault <;> exact ⟨rfl, hpress, id, fun _ _ => trivial⟩

end Blind

namespace Renderer

variable {source : Nat} {ignorant : σ → Prop}

theorem visitEach_blind {visit : Value C → Attempt (Press σ) C (Visited C)}
    {vs : List (Value C)} (h : ∀ v ∈ vs, Blind source ignorant (fun _ => True) (visit v)) :
    Blind source ignorant (fun _ => True) (visitEach visit vs) := by
  induction vs with
  | nil => exact .pure trivial
  | cons v rest ih =>
      apply (h v (by simp)).bind
      intro first _
      apply (ih fun w hw => h w (List.mem_cons_of_mem _ hw)).bind
      intro others _
      exact .pure trivial

theorem visitTag_blind {children : Attempt (Press σ) C (Visited C)}
    (h : Blind source ignorant (fun _ => True) children) (selector : String)
    (given : Option (Entries C)) :
    Blind source ignorant (fun _ => True)
      (visitTag Press.readStored children selector given) := by
  apply (Blind.readStored selector).bind
  intro tag _
  have hplan : Blind source ignorant (fun _ => True) (ofExcept
      (AttributePlan.prepare (seedOf tag) given) : Attempt (Press σ) C (AttributePlan C)) :=
    .ofExcept fun _ _ => trivial
  apply hplan.bind
  intro plan _
  have hinside : Blind source ignorant (fun _ => True) (visitInside children tag plan) := by
    unfold visitInside
    split
    · exact .pure trivial
    · split
      · exact .pure trivial
      · exact h
  exact hinside.bind fun _ _ => .pure trivial

/-- A visit to an element that does not mention a source does not notice whether it was drawn. -/
theorem visit_blind {B : Behaviour C σ} (hB : B.Unaware source ignorant) (limit levels : Nat)
    {v : Value C} (h : v.FreeOf source) :
    Blind source ignorant (fun _ => True) (visit B Press.readStored limit levels v) := by
  -- on the levels that are left; what is nested, and what a component answers, is free as well
  induction levels generalizing v with
  | zero => exact .throw (.tooDeep limit)
  | succ levels ih =>
      have hshape : ∀ shape, v.shape = .ok shape → shape.FreeOf source := by
        intro shape hv
        unfold Value.shape at hv
        cases hcheck : v.check with
        | error fault =>
            rw [hcheck] at hv
            cases hv
        | ok =>
            rw [hcheck] at hv
            cases hv
            exact h.presentShape
      apply (Blind.ofExcept hshape).bind
      intro shape hfree
      have heach : ∀ vs : List (Value C), (∀ v ∈ vs, v.FreeOf source) →
          Blind source ignorant (fun _ => True)
            (visitEach (visit B Press.readStored limit levels) vs) :=
        fun vs hvs => visitEach_blind fun w hw => ih (hvs w hw)
      cases shape with
      | skip => exact .pure trivial
      | text v => exact .pure trivial
      | markup v html => exact .pure trivial
      | items vs => exact heach vs hfree
      | stream other vs => exact (Blind.inSession (.draw hfree.1 hfree.2)).bind heach
      | fragment children => exact heach children hfree
      | component f props children =>
          exact (Blind.inSession (.callComponent hB hfree.1 hfree.2.1 hfree.2.2)).bind
            fun w hw => ih hw
      | tag selector given children => exact visitTag_blind (heach children hfree) selector given

end Renderer
end MarkupTree
