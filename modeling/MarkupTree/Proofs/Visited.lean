import MarkupTree.Proofs.Visit

/-!
# Visited — what holds of every visited forest

Every tag of a visited forest was read from its selector and had its attributes prepared, and void
tags are empty. So its name is a tag name, and the names of its attributes are `id`, `class` and
the explicit keys.

* `Visited.Sound` collects these facts, `Renderer.visit_sound` proves them of every visit.
-/

namespace MarkupTree

variable {C σ : Type}

/-! ## Tags that were read -/

theorem Selector.mem_attributes {s : Selector} {e : String × String} (h : e ∈ s.attributes) :
    e.1 = Vocabulary.identity ∨ e.1 = Vocabulary.className := by
  unfold attributes at h
  rcases List.mem_append.1 h with hid | hclass
  · cases hs : s.id with
    | none => simp [hs] at hid
    | some id =>
        simp only [hs, List.mem_singleton] at hid
        exact Or.inl (by rw [hid])
  · split at hclass
    · cases hclass
    · exact Or.inr (by rw [List.mem_singleton.1 hclass])

theorem Selector.lead_subset (cs : List Char) : ∀ c ∈ (split cs).1, c ∈ cs := by
  intro c hc
  have hwritten := split_written cs
  rw [← hwritten]
  exact List.mem_append_left _ hc

/-- A line feed is a blank, so it cannot be passed over behind the name of a selector. -/
theorem Selector.isTagName_of_accepts {cs : List Char} (h : acceptsTagName cs = true)
    (hblank : ∀ c ∈ cs, Text.isBlank c = false) : isTagName cs = true := by
  unfold acceptsTagName at h
  rcases Bool.or_eq_true_iff.1 h with hname | hline
  · exact hname
  · have hlast := (Bool.and_eq_true_iff.1 hline).1
    -- the line feed that is passed over would be a blank in the selector
    have hmem : '\n' ∈ cs := List.mem_of_getLast? (by simpa using hlast)
    have hnot := hblank '\n' hmem
    exact absurd hnot (by decide)

/-- A selector that is read has no blank, is cut at its marks, and its segments are all read. -/
theorem Selector.parse_eq_ok {s : String} {selector : Selector} (h : parse s = .ok selector) :
    (∀ c ∈ s.toList, Text.isBlank c = false) ∧ acceptsTagName (split s.toList).1 = true ∧
      scan s none [] (split s.toList).2 = .ok (selector.id, selector.classes) ∧
      selector.tag = String.ofList (split s.toList).1 := by
  unfold parse at h
  split at h
  · cases h
  · next hblank =>
      have hnone : ∀ c ∈ s.toList, Text.isBlank c = false := by
        intro c hc
        simpa using fun hb => hblank (List.any_eq_true.2 ⟨c, hc, hb⟩)
      cases hname : validateTagName (String.ofList (split s.toList).1) with
      | error fault => simp [hname, bind, Except.bind] at h
      | ok =>
          have haccepts : acceptsTagName (split s.toList).1 = true := by
            unfold validateTagName at hname
            split at hname
            · next haccepts => simpa using haccepts
            · cases hname
          cases hscan : scan s none [] (split s.toList).2 with
          | error fault => simp [hname, hscan, bind, Except.bind] at h
          | ok found =>
              simp only [hname, hscan, bind, Except.bind, pure, Except.pure, Except.ok.injEq] at h
              subst h
              exact ⟨hnone, haccepts, rfl, rfl⟩

theorem Tag.exists_of_parse_eq_ok {s : String} {tag : Tag String} (h : Tag.parse s = .ok tag) :
    ∃ selector, Selector.parse s = .ok selector ∧ tag = selector.toTag := by
  unfold Tag.parse at h
  cases hparse : Selector.parse s with
  | error fault =>
      rw [hparse] at h
      cases h
  | ok selector =>
      rw [hparse] at h
      cases h
      exact ⟨selector, rfl, rfl⟩

/-- A selector that is read gives a tag name, and no attributes but an id and a class. -/
theorem Tag.of_parse_eq_ok {s : String} {tag : Tag String} (h : Tag.parse s = .ok tag) :
    Selector.isTagName tag.name.toList = true ∧
      ∀ e ∈ tag.attributes, e.1 = Vocabulary.identity ∨ e.1 = Vocabulary.className := by
  obtain ⟨selector, hparse, rfl⟩ := exists_of_parse_eq_ok h
  obtain ⟨hblank, haccepts, -, htag⟩ := Selector.parse_eq_ok hparse
  refine ⟨?_, fun e he => Selector.mem_attributes he⟩
  have hname : selector.toTag.name.toList = (Selector.split s.toList).1 := by
    simp [Selector.toTag, htag]
  rw [hname]
  exact Selector.isTagName_of_accepts haccepts fun c hc => hblank c (Selector.lead_subset _ c hc)

/-! ## Sound forests -/

/-- The tag was read from its selector and its attributes were prepared. -/
structure TagVisit.Sound (t : TagVisit C) : Prop where
  read : Tag.parse t.selector = .ok t.tag
  prepared : AttributePlan.prepare (Renderer.seedOf t.tag) t.given = .ok t.plan

/-- All tags are sound and the void ones are empty. -/
def Visited.Sound : Visited C → Prop
  | .nil => True
  | .leaf _ rest => Sound rest
  | .node t inside rest =>
    t.Sound ∧ (Vocabulary.isVoid t.tag.name = true → inside = .nil) ∧ Sound inside ∧ Sound rest

theorem Visited.Sound.append {f g : Visited C} (hf : f.Sound) (hg : g.Sound) :
    (f ++ g).Sound := by
  induction f with
  | nil => exact hg
  | leaf a rest ih => exact ih hf
  | node t inside rest _ ih => exact ⟨hf.1, hf.2.1, hf.2.2.1, ih hf.2.2.2⟩

theorem Visited.Sound.of_mem {f : Visited C} (h : f.Sound) : ∀ t ∈ f.labels, t.Sound := by
  induction f with
  | nil => simp [Forest.labels]
  | leaf a rest ih => exact ih h
  | node t inside rest ihi ihr =>
      intro t' ht'
      rcases List.mem_cons.1 ht' with rfl | hmem
      · exact h.1
      · rcases List.mem_append.1 hmem with hinside | hrest
        · exact ihi h.2.2.1 t' hinside
        · exact ihr h.2.2.2 t' hrest

namespace TagVisit

/-- An explicit attribute mapping, empty if there is none. -/
def explicit (t : TagVisit C) : Entries C :=
  t.given.getD []

theorem Sound.isTagName {t : TagVisit C} (h : t.Sound) :
    Selector.isTagName t.tag.name.toList = true :=
  (Tag.of_parse_eq_ok h.read).1

theorem key_seedOf {tag : Tag String} {key : Value C}
    (h : key ∈ (Renderer.seedOf tag : Entries C).map Prod.fst) :
    ∃ e ∈ tag.attributes, key = .str e.1 := by
  rcases List.mem_map.1 h with ⟨e, he, rfl⟩
  rcases List.mem_map.1 he with ⟨e', he', rfl⟩
  exact ⟨e', he', rfl⟩

/-- The key of an attribute is `id`, `class` or an explicit key. -/
theorem Sound.key_mem {t : TagVisit C} (h : t.Sound) {e : Value C × Value C}
    (he : e ∈ t.plan.attributes) :
    e.1 = .str Vocabulary.identity ∨ e.1 = .str Vocabulary.className ∨
      ∃ e' ∈ t.explicit, e'.1 = e.1 := by
  rcases AttributePlan.key_mem_of_prepare h.prepared he with hseed | hgiven
  · obtain ⟨e', he', hkey⟩ := key_seedOf hseed
    rcases (Tag.of_parse_eq_ok h.read).2 e' he' with hid | hclass
    · exact Or.inl (by rw [hkey, hid])
    · exact Or.inr (Or.inl (by rw [hkey, hclass]))
  · obtain ⟨e', he', hkey⟩ := List.mem_map.1 hgiven
    exact Or.inr (Or.inr ⟨e', he', hkey⟩)

/-- The handlers of a tag are those of its explicit mapping. -/
theorem Sound.events_eq {t : TagVisit C} (h : t.Sound) :
    t.plan.events = Table.ofPairs t.explicit.handlers :=
  (AttributePlan.prepare_eq_ok h.prepared).2.1

end TagVisit

/-! ## Every visit is sound -/

namespace Renderer

theorem visitEach_sound {visit : Value C → Attempt (Press σ) C (Visited C)}
    (h : ∀ v press forest press', visit v press = (.ok forest, press') → forest.Sound)
    (vs : List (Value C)) : ∀ press forest press',
      visitEach visit vs press = (.ok forest, press') → forest.Sound := by
  induction vs with
  | nil =>
      intro press forest press' hrun
      cases hrun
      trivial
  | cons v rest ih =>
      intro press forest press' hrun
      rcases Attempt.bind_apply_eq_ok hrun with ⟨first, press₁, hfirst, hrun⟩
      rcases Attempt.bind_apply_eq_ok hrun with ⟨others, press₂, hothers, hrun⟩
      cases hrun
      exact (h v press first press₁ hfirst).append (ih press₁ others _ hothers)

theorem visitTag_sound {children : Attempt (Press σ) C (Visited C)}
    (h : ∀ press forest press', children press = (.ok forest, press') → forest.Sound)
    (selector : String) (given : Option (Entries C)) : ∀ press forest press',
      visitTag Press.readAfresh children selector given press = (.ok forest, press') →
        forest.Sound := by
  intro press forest press' hrun
  rcases Attempt.bind_apply_eq_ok hrun with ⟨tag, press₁, htag, hrun⟩
  rcases Attempt.bind_apply_eq_ok hrun with ⟨plan, press₂, hplan, hrun⟩
  rcases Attempt.bind_apply_eq_ok hrun with ⟨inside, press₃, hinside, hrun⟩
  cases hrun
  have hread : Tag.parse selector = .ok tag := by
    unfold Press.readAfresh at htag
    rw [Attempt.ofExcept_apply] at htag
    cases hparse : Tag.parse selector with
    | ok found =>
        rw [hparse] at htag
        cases htag
        rfl
    | error fault =>
        rw [hparse] at htag
        cases htag
  have hprepared : AttributePlan.prepare (seedOf tag) given = .ok plan := by
    rw [Attempt.ofExcept_apply] at hplan
    exact congrArg Prod.fst hplan
  unfold visitInside at hinside
  -- the tag is sound by what was read; void tags and inner markup leave nothing to visit
  refine ⟨⟨hread, hprepared⟩, ?_, ?_, trivial⟩
  · intro hvoid
    simp only [hvoid, if_true] at hinside
    cases hinside
    rfl
  · split at hinside
    · cases hinside
      trivial
    · split at hinside
      · cases hinside
        trivial
      · exact h press₂ inside _ hinside

/-- Every forest that is visited is sound. -/
theorem visit_sound (B : Behaviour C σ) (limit levels : Nat) (v : Value C) :
    ∀ press forest press',
      visit B Press.readAfresh limit levels v press = (.ok forest, press') → forest.Sound := by
  -- on the levels that are left, as the visit itself goes
  induction levels generalizing v with
  | zero =>
      intro press forest press' hrun
      cases hrun
  | succ levels ih =>
      intro press forest press' hrun
      rcases Attempt.bind_apply_eq_ok hrun with ⟨shape, press₁, -, hrun⟩
      cases shape with
      | skip =>
          cases hrun
          trivial
      | text v =>
          cases hrun
          trivial
      | markup v html =>
          cases hrun
          trivial
      | items vs => exact visitEach_sound ih vs press₁ forest press' hrun
      | stream source vs =>
          rcases Attempt.bind_apply_eq_ok hrun with ⟨vs, press₂, -, hrun⟩
          exact visitEach_sound ih vs press₂ forest press' hrun
      | fragment children => exact visitEach_sound ih children press₁ forest press' hrun
      | component f props children =>
          rcases Attempt.bind_apply_eq_ok hrun with ⟨v, press₂, -, hrun⟩
          exact ih v press₂ forest press' hrun
      | tag selector given children =>
          exact visitTag_sound (visitEach_sound ih children) selector given press₁ forest press'
            hrun

theorem visitAll_sound {B : Behaviour C σ} {settings : Settings} {elements : List (Value C)}
    {press press' : Press σ} {forest : Visited C}
    (h : visitAll B Press.readAfresh settings elements press = (.ok forest, press')) :
    forest.Sound :=
  visit_sound B settings.maxDepth (settings.maxDepth + 1) (root elements) press forest press' h

end Renderer
end MarkupTree
