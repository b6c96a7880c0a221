import MarkupTree.Proofs.Visit

/-!
# History — what earlier renderings leave behind

A press keeps a store of selectors between renderings. Whatever happened before, the store holds
nothing but what the selectors would be read as afresh; so a rendering visits the same forest as
without a store, unless the store has no room at all.

* `Press.Reached` are the presses that renderings lead to, `Cache.Faithful` is the invariant.
* `Attempt.Closed` are relations that go along with what visits are made of.
* `Renderer.visit_agrees` compares visits with and without a store.
-/

namespace MarkupTree

variable {C σ : Type}

/-! ## Faithful stores -/

/-- Everything in the store is what its selector is read as. -/
def Cache.Faithful (cache : Cache (Tag String)) : Prop :=
  ∀ e ∈ cache.entries, Tag.parse e.1 = .ok e.2

namespace Table

variable {α : Type}

theorem mem_of_get? {name : String} {a : α} {t : Table α} (h : t.get? name = some a) :
    (name, a) ∈ t := by
  induction t with
  | nil => cases h
  | cons e rest ih =>
      unfold get? at h
      split at h
      · next hname =>
          cases h
          exact List.mem_cons.2 (Or.inl (Prod.ext hname.symm rfl))
      · exact List.mem_cons_of_mem _ (ih h)

end Table

namespace Cache

theorem contains_eq_isSome_get? {α : Type} (cache : Cache α) (selector : String) :
    cache.contains selector = (cache.get? selector).isSome :=
  Table.has_eq_isSome_get? selector cache.entries

/-- A store with room takes a new selector at its end, after the oldest have left. -/
theorem set?_of_new {α : Type} {cache : Cache α} {selector : String}
    (hnew : cache.contains selector = false) (a : α) :
    cache.set? selector a =
      if cache.capacity ≤ 0 then none
      else some ({ cache with entries := cache.entries.drop cache.surplus ++ [(selector, a)] },
        Table.names (cache.entries.take cache.surplus)) := by
  unfold set?
  rw [hnew]
  rfl

/-- A selector is served from the store, or it is read, and stored where there is room. -/
theorem parse_eq_ok {α ε : Type} {read : String → Except ε α} {cache stored : Cache α}
    {selector : String} {a : α} {left : List String}
    (h : cache.parse read selector = .ok (a, stored, left)) :
    (cache.get? selector = some a ∧ stored = cache ∧ left = []) ∨
      (cache.get? selector = none ∧ read selector = .ok a ∧ 0 < cache.capacity ∧
        stored = { cache with entries := cache.entries.drop cache.surplus ++ [(selector, a)] } ∧
        left = Table.names (cache.entries.take cache.surplus)) := by
  unfold parse at h
  cases hget : cache.get? selector with
  | some found =>
      rw [hget] at h
      cases h
      exact Or.inl ⟨rfl, rfl, rfl⟩
  | none =>
      have hnew : cache.contains selector = false := by
        rw [contains_eq_isSome_get?, hget, Option.isSome_none]
      simp only [hget] at h
      cases hread : read selector with
      | error fault =>
          rw [hread] at h
          cases h
      | ok found =>
          rw [hread] at h
          simp only [set?_of_new hnew] at h
          by_cases hroom : cache.capacity ≤ 0
          · simp [hroom] at h
          · rw [if_neg hroom] at h
            cases h
            exact Or.inr ⟨rfl, rfl, Int.not_le.1 hroom, rfl, rfl⟩

/-- A faithful store tells what a selector is read as and stays faithful. -/
theorem Faithful.of_parse_ok {cache stored : Cache (Tag String)} {selector : String}
    {tag : Tag String} {left : List String} (h : cache.Faithful)
    (hparse : cache.parse Tag.parse selector = .ok (tag, stored, left)) :
    Tag.parse selector = .ok tag ∧ stored.Faithful ∧ stored.capacity = cache.capacity := by
  rcases parse_eq_ok hparse with ⟨hget, rfl, -⟩ | ⟨-, hread, -, rfl, -⟩
  · exact ⟨h _ (Table.mem_of_get? hget), h, rfl⟩
  · -- a new selector was just read, and the others were faithful before
    refine ⟨hread, ?_, rfl⟩
    intro e he
    rcases List.mem_append.1 he with hold | hlast
    · exact h e (List.mem_of_mem_drop hold)
    · have he : e = (selector, tag) := List.mem_singleton.1 hlast
      exact he ▸ hread

/-- A faithful store keeps only what its selectors are read as. -/
theorem Faithful.of_get? {cache : Cache (Tag String)} (h : cache.Faithful) {selector : String}
    {tag : Tag String} (hget : cache.get? selector = some tag) : Tag.parse selector = .ok tag :=
  h _ (Table.mem_of_get? hget)

/-- What cannot be read is not in a faithful store. -/
theorem Faithful.not_contains {cache : Cache (Tag String)} (h : cache.Faithful)
    {selector : String} {fault : SelectorFault} (hread : Tag.parse selector = .error fault) :
    cache.contains selector = false := by
  rw [contains_eq_isSome_get?]
  cases hget : cache.get? selector with
  | none => rfl
  | some tag =>
      rw [h.of_get? hget] at hread
      cases hread

/-- A selector that is refused through a store cannot be read, or the store has no room. -/
theorem of_parse_error {cache : Cache (Tag String)} {selector : String}
    {fault : CacheFault SelectorFault} (hparse : cache.parse Tag.parse selector = .error fault) :
    (∃ f, fault = .unreadable f ∧ Tag.parse selector = .error f) ∨
      fault = .noRoom ∧ cache.capacity ≤ 0 := by
  unfold parse at hparse
  cases hget : cache.get? selector with
  | some found => simp [hget] at hparse
  | none =>
      simp only [hget] at hparse
      cases hread : Tag.parse selector with
      | error f =>
          simp only [hread, Except.error.injEq] at hparse
          exact Or.inl ⟨f, hparse.symm, rfl⟩
      | ok found =>
          simp only [hread] at hparse
          cases hset : cache.set? selector found with
          | some answer => simp [hset] at hparse
          | none =>
              simp only [hset, Except.error.injEq] at hparse
              refine Or.inr ⟨hparse.symm, ?_⟩
              unfold set? at hset
              split at hset
              · cases hset
              · split at hset
                · assumption
                · cases hset

end Cache

/-! ## Relations between visits -/

/-- A relation between computations that goes along with what visits are made of. -/
structure Attempt.Closed
    (R : ∀ {α : Type}, Attempt (Press σ) C α → Attempt (Press σ) C α → Prop) : Prop where
  ofExcept : ∀ {α : Type} (answer : Except (Fault C) α), R (ofExcept answer) (ofExcept answer)
  inSession : ∀ {α : Type} (step : Attempt (Session σ) C α),
    R (Press.inSession step) (Press.inSession step)
  bind : ∀ {α β : Type} {m m' : Attempt (Press σ) C α} {f f' : α → Attempt (Press σ) C β},
    R m m' → (∀ a, R (f a) (f' a)) → R (m >>= f) (m' >>= f')

theorem Attempt.Closed.pure
    {R : ∀ {α : Type}, Attempt (Press σ) C α → Attempt (Press σ) C α → Prop}
    (hR : Attempt.Closed R) {α : Type} (a : α) : R (pure a) (pure a) :=
  hR.ofExcept (.ok a)

namespace Renderer

section Related

variable {R : ∀ {α : Type}, Attempt (Press σ) C α → Attempt (Press σ) C α → Prop}

theorem visitEach_related (hR : Attempt.Closed R)
    {visit visit' : Value C → Attempt (Press σ) C (Visited C)}
    (h : ∀ v, R (visit v) (visit' v)) (vs : List (Value C)) :
    R (visitEach visit vs) (visitEach visit' vs) := by
  induction vs with
  | nil => exact hR.pure Forest.nil
  | cons v rest ih =>
      apply hR.bind (h v)
      intro first
      apply hR.bind ih
      intro others
      exact hR.pure (first ++ others)

theorem visitTag_related (hR : Attempt.Closed R) {read read' : SelectorReading C σ}
    (hread : ∀ selector, R (read selector) (read' selector))
    {children children' : Attempt (Press σ) C (Visited C)} (h : R children children')
    (selector : String) (given : Option (Entries C)) :
    R (visitTag read children selector given) (visitTag read' children' selector given) := by
  apply hR.bind (hread selector)
  intro tag
  apply hR.bind (hR.ofExcept _)
  intro plan
  -- what stands inside is decided by the tag and the plan, which are the same by now
  refine hR.bind ?_ fun inside => hR.pure _
  unfold visitInside
  split
  · exact hR.pure Forest.nil
  · split
    · exact hR.pure _
    · exact h

/-- Visits that read selectors in related ways are related. -/
theorem visit_related (hR : Attempt.Closed R) (read read' : SelectorReading C σ)
    (hread : ∀ selector, R (read selector) (read' selector)) (B : Behaviour C σ)
    (limit levels : Nat) (v : Value C) :
    R (visit B read limit levels v) (visit B read' limit levels v) := by
  -- on the levels that are left; the element changes from level to level
  induction levels generalizing v with
  | zero => exact hR.ofExcept (.error (.tooDeep limit))
  | succ levels ih =>
      apply hR.bind (hR.ofExcept v.shape)
      intro shape
      cases shape with
      | skip => exact hR.pure Forest.nil
      | text v => exact hR.pure _
      | markup v html => exact hR.pure _
      | items vs => exact visitEach_related hR ih vs
      | stream source vs =>
          apply hR.bind (hR.inSession (Session.draw source vs))
          intro vs
          exact visitEach_related hR ih vs
      | fragment children => exact visitEach_related hR ih children
      | component f props children =>
          apply hR.bind (hR.inSession (Session.callComponent B f props children))
          intro v
          exact ih v
      | tag selector given children =>
          exact visitTag_related hR hread (visitEach_related hR ih children) selector given

end Related

end Renderer

/-! ## Visits with and without a store -/

/-- Two computations agree in the session and the answer, from every press with a faithful store
and any press in the same session; the first keeps its store faithful. They may disagree only by
a store without room. -/
def Agrees {α : Type} (stored fresh : Attempt (Press σ) C α) : Prop :=
  ∀ press press' : Press σ, press.cache.Faithful → press.session = press'.session →
    (stored press).2.cache.Faithful ∧
      (stored press).2.cache.capacity = press.cache.capacity ∧
      ((stored press).1 = (fresh press').1 ∧
          (stored press).2.session = (fresh press').2.session ∨
        (stored press).1 = .error .noRoom ∧ press.cache.capacity ≤ 0)

namespace Agrees

variable {α β : Type}

theorem ofExcept (answer : Except (Fault C) α) :
    Agrees (ofExcept answer : Attempt (Press σ) C α) (ofExcept answer) := by
  intro press press' hcache hsession
  rw [Attempt.ofExcept_apply, Attempt.ofExcept_apply]
  exact ⟨hcache, rfl, Or.inl ⟨rfl, hsession⟩⟩

theorem inSession (step : Attempt (Session σ) C α) :
    Agrees (Press.inSession step) (Press.inSession step) := by
  intro press press' hcache hsession
  refine ⟨hcache, rfl, Or.inl ?_⟩
  unfold Press.inSession
  rw [hsession]
  exact ⟨rfl, rfl⟩

theorem bind {m m' : Attempt (Press σ) C α} {f f' : α → Attempt (Press σ) C β}
    (hm : Agrees m m') (hf : ∀ a, Agrees (f a) (f' a)) : Agrees (m >>= f) (m' >>= f') := by
  intro press press' hcache hsession
  rcases hm press press' hcache hsession with ⟨hcache₁, hcapacity₁, hanswer₁⟩
  cases hrun : m press with
  | mk answer press₁ =>
      cases hrun' : m' press' with
      | mk answer' press₁' =>
          rw [hrun] at hcache₁ hcapacity₁ hanswer₁
          rw [hrun'] at hanswer₁
          -- the first steps agree, or the store had no room and the sequence ends there
          rcases hanswer₁ with ⟨hsame, hsession₁⟩ | ⟨hroom, hcapacity⟩
          · have hsame : answer = answer' := hsame
            subst hsame
            cases answer with
            | error fault =>
                rw [Attempt.bind_apply_error hrun, Attempt.bind_apply_error hrun']
                exact ⟨hcache₁, hcapacity₁, Or.inl ⟨rfl, hsession₁⟩⟩
            | ok a =>
                rw [Attempt.bind_apply_ok hrun, Attempt.bind_apply_ok hrun']
                rcases hf a press₁ press₁' hcache₁ hsession₁ with ⟨hcache₂, hcapacity₂, hanswer₂⟩
                -- the capacity never changes, so having no room later is having none at first
                rw [show press₁.cache.capacity = press.cache.capacity from hcapacity₁]
                  at hcapacity₂ hanswer₂
                exact ⟨hcache₂, hcapacity₂, hanswer₂⟩
          · have hroom : answer = .error .noRoom := hroom
            subst hroom
            rw [Attempt.bind_apply_error hrun]
            exact ⟨hcache₁, hcapacity₁, Or.inr ⟨rfl, hcapacity⟩⟩

theorem closed : Attempt.Closed (σ := σ) (C := C) (fun m m' => Agrees m m') :=
  ⟨ofExcept, inSession, bind⟩

end Agrees

namespace Renderer

theorem read_agrees (selector : String) :
    Agrees (Press.readStored selector : Attempt (Press σ) C (Tag String))
      (Press.readAfresh selector) := by
  intro press press' hcache hsession
  have hfresh : (Press.readAfresh selector : Attempt (Press σ) C (Tag String)) press' =
      ((Tag.parse selector).mapError .selector, press') := by
    unfold Press.readAfresh
    rw [Attempt.ofExcept_apply]
  rw [hfresh]
  unfold Press.readStored
  cases hparse : press.cache.parse Tag.parse selector with
  | ok found =>
      rcases found with ⟨tag, stored, left⟩
      rcases hcache.of_parse_ok hparse with ⟨hread, hfaithful, hcapacity⟩
      rw [hread]
      exact ⟨hfaithful, hcapacity, Or.inl ⟨rfl, hsession⟩⟩
  | error fault =>
      rcases Cache.of_parse_error hparse with ⟨f, rfl, hread⟩ | ⟨rfl, hroom⟩
      · rw [hread]
        exact ⟨hcache, rfl, Or.inl ⟨rfl, hsession⟩⟩
      · exact ⟨hcache, rfl, Or.inr ⟨rfl, hroom⟩⟩

/-- A visit through a faithful store agrees with a visit that reads every selector afresh. -/
theorem visit_agrees (B : Behaviour C σ) (limit levels : Nat) (v : Value C) :
    Agrees (visit B Press.readStored limit levels v) (visit B Press.readAfresh limit levels v) :=
  visit_related Agrees.closed Press.readStored Press.readAfresh read_agrees B limit levels v

theorem visitAll_agrees (B : Behaviour C σ) (settings : Settings) (elements : List (Value C)) :
    Agrees (visitAll B Press.readStored settings elements)
      (visitAll B Press.readAfresh settings elements) :=
  visit_agrees B settings.maxDepth (settings.maxDepth + 1) (root elements)

end Renderer

/-! ## Presses after any number of renderings -/

/-- The presses that come up between renderings: a new one, one after a rendering of either kind,
successful or not, with any settings and any behaviour, one whose store was cleared, and one in
another session. -/
inductive Press.Reached (C : Type) : Press σ → Prop
  | start (capacity : Int) (state : σ) : Reached C (.start capacity state)
  | html (B : Behaviour C σ) (settings : Settings) (elements : List (Value C)) {press : Press σ} :
      Reached C press → Reached C (Renderer.html B settings elements press).2
  | render (B : Behaviour C σ) (settings : Settings) (elements : List (Value C))
      {press : Press σ} :
      Reached C press → Reached C (Renderer.render B settings elements press).2
  | clear {press : Press σ} : Reached C press → Reached C { press with cache := press.cache.clear }
  | resume (session : Session σ) {press : Press σ} :
      Reached C press → Reached C { press with session }

namespace Press

theorem html_press (B : Behaviour C σ) (settings : Settings) (elements : List (Value C))
    (press : Press σ) : (Renderer.html B settings elements press).2 =
      (Renderer.visitAll B readStored settings elements press).2 := by
  rw [Renderer.html_eq]
  cases Renderer.visitAll B readStored settings elements press with
  | mk answer press' => cases answer <;> rfl

theorem render_press (B : Behaviour C σ) (settings : Settings) (elements : List (Value C))
    (press : Press σ) : (Renderer.render B settings elements press).2 =
      (Renderer.visitAll B readStored settings elements press).2 := by
  rw [Renderer.render_eq]
  cases Renderer.visitAll B readStored settings elements press with
  | mk answer press' => cases answer <;> rfl

/-- Every store that renderings lead to is faithful. -/
theorem Reached.faithful {press : Press σ} (h : press.Reached C) : press.cache.Faithful := by
  induction h with
  | start capacity state =>
      intro e he
      cases he
  | html B settings elements _ ih =>
      rw [html_press]
      exact (Renderer.visitAll_agrees B settings elements _ _ ih rfl).1
  | render B settings elements _ ih =>
      rw [render_press]
      exact (Renderer.visitAll_agrees B settings elements _ _ ih rfl).1
  | clear _ ih =>
      -- nothing is left that could be unfaithful
      intro e he
      cases he
  | resume session _ ih => exact ih

end Press

/-! ## What renderings answer -/

namespace Renderer

theorem html_answer (B : Behaviour C σ) (settings : Settings) (elements : List (Value C))
    (press : Press σ) : (html B settings elements press).1 =
      (visitAll B Press.readStored settings elements press).1.map
        fun forest => (forest.labelled none).1.print := by
  rw [html_eq]
  rcases visitAll B Press.readStored settings elements press with ⟨fault | forest, press'⟩ <;> rfl

theorem render_answer (B : Behaviour C σ) (settings : Settings) (elements : List (Value C))
    (press : Press σ) : (render B settings elements press).1 =
      (visitAll B Press.readStored settings elements press).1.map
        fun forest => forest.rendering settings.idStem := by
  rw [render_eq]
  rcases visitAll B Press.readStored settings elements press with ⟨fault | forest, press'⟩ <;> rfl

/-- After earlier renderings a visit answers as if every selector were read afresh, if the store
has room. -/
theorem visitAll_answer_afresh (B : Behaviour C σ) (settings : Settings)
    (elements : List (Value C)) {press : Press σ} (reached : press.Reached C)
    (room : 1 ≤ press.cache.capacity) :
    (visitAll B Press.readStored settings elements press).1 =
      (visitAll B Press.readAfresh settings elements press).1 := by
  rcases visitAll_agrees B settings elements press press reached.faithful rfl with
    ⟨-, -, ⟨hsame, -⟩ | ⟨-, hnone⟩⟩
  · exact hsame
  · omega

/-- A visit that comes to an end after earlier renderings would have come to the same end with
every selector read afresh. -/
theorem visitAll_afresh {B : Behaviour C σ} {settings : Settings} {elements : List (Value C)}
    {press after : Press σ} {forest : Visited C} (reached : press.Reached C)
    (h : visitAll B Press.readStored settings elements press = (.ok forest, after)) :
    ∃ visited, visitAll B Press.readAfresh settings elements press = (.ok forest, visited) ∧
      visited.session = after.session := by
  rcases visitAll_agrees B settings elements press press reached.faithful rfl with ⟨-, -, hanswer⟩
  rw [h] at hanswer
  rcases hanswer with ⟨hsame, hsession⟩ | ⟨hroom, -⟩
  · exact ⟨(visitAll B Press.readAfresh settings elements press).2, Prod.ext hsame.symm rfl,
      hsession.symm⟩
  · cases hroom

theorem visit_of_html {B : Behaviour C σ} {settings : Settings} {elements : List (Value C)}
    {press after : Press σ} {markup : String} (reached : press.Reached C)
    (h : html B settings elements press = (.ok markup, after)) :
    ∃ forest visited,
      visitAll B Press.readAfresh settings elements press = (.ok forest, visited) ∧
      visited.session = after.session ∧ markup = (forest.labelled none).1.print := by
  rw [html_eq] at h
  cases hvisit : visitAll B Press.readStored settings elements press with
  | mk answer press' =>
      rw [hvisit] at h
      cases answer with
      | error fault => cases h
      | ok forest =>
          cases h
          rcases visitAll_afresh reached hvisit with ⟨visited, hfresh, hsession⟩
          exact ⟨forest, visited, hfresh, hsession, rfl⟩

theorem visit_of_render {B : Behaviour C σ} {settings : Settings} {elements : List (Value C)}
    {press after : Press σ} {rendering : Rendering C} (reached : press.Reached C)
    (h : render B settings elements press = (.ok rendering, after)) :
    ∃ forest visited,
      visitAll B Press.readAfresh settings elements press = (.ok forest, visited) ∧
      visited.session = after.session ∧
      rendering = forest.rendering settings.idStem := by
  rw [render_eq] at h
  cases hvisit : visitAll B Press.readStored settings elements press with
  | mk answer press' =>
      rw [hvisit] at h
      cases answer with
      | error fault => cases h
      | ok forest =>
          cases h
          rcases visitAll_afresh reached hvisit with ⟨visited, hfresh, hsession⟩
          exact ⟨forest, visited, hfresh, hsession, rfl⟩

end Renderer
end MarkupTree
