import MarkupTree.Proofs.Arrangement

/-!
# Insertion — a place in a mapping where an entry may stand

A tag is given some attributes, and at one place among them perhaps one more, under a string that
stands nowhere else. What becomes of it depends on that string alone: it handles an event, it is
inner markup, or it stands at one place among the attributes. Everything else is as without it.

* `Entries.Open` describes mappings that are the same but for one place; putting, changing and
  removing other entries goes along with it.
* `AttributePlan.form` is the form in which a value is written under a name.
* `AttributePlan.refused_or_present` says that the entry takes no part in what is refused.
* `AttributePlan.prepare_event`, `AttributePlan.prepare_innerMarkup` and
  `AttributePlan.prepare_written` say what becomes of it.
-/

namespace MarkupTree

variable {C : Type}

namespace Entries

section Fresh

variable {name : String} {es : Entries C}

theorem Fresh.of_append {front back : Entries C} (h : Fresh name (front ++ back)) :
    front.Fresh name ∧ back.Fresh name :=
  ⟨fun e he => h e (List.mem_append_left _ he), fun e he => h e (List.mem_append_right _ he)⟩

theorem Fresh.filter (h : es.Fresh name) (p : Value C × Value C → Bool) :
    Fresh name (es.filter p) :=
  fun e he => h e (List.mem_filter.1 he).1

theorem Fresh.put {k : Value C} (hk : k.string? ≠ some name) (w : Value C) (h : es.Fresh name) :
    (put k w es).Fresh name := by
  intro e he
  rcases mem_put he with hold | ⟨-, hkey | hkey⟩
  · exact h e hold
  · exact hkey ▸ hk
  · obtain ⟨e', he', hkey⟩ := List.mem_map.1 hkey
    exact hkey ▸ h e' he'

theorem Fresh.update {news : Entries C} (hes : es.Fresh name) (hnews : news.Fresh name) :
    (update es news).Fresh name := by
  induction news generalizing es with
  | nil => exact hes
  | cons new rest ih =>
      have hput := hes.put (hnews new (by simp)) new.2
      exact ih hput fun e he => hnews e (List.mem_cons_of_mem _ he)

/-- Nothing is the same key as a string that is not there. -/
theorem Fresh.sameKey (h : es.Fresh name) {key : Value C} (hkey : key.string? = some name) :
    ∀ e ∈ es, e.1.sameKey key = false :=
  fun e he => Bool.eq_false_iff.2 fun hsame =>
    h e he ((Value.sameKey_of_string? hkey e.1).1 hsame)

end Fresh

/-- A value under a key, or nothing. -/
def slot (key : Value C) (x : Option (Value C)) : Entries C :=
  (x.map fun v => (key, v)).toList

/-- Mappings that are the same but for one place, where a value stands in this form under a string
that is nowhere else. -/
def Open (key : Value C) (name : String) (form : Value C → Value C)
    (es : Option (Value C) → Entries C) : Prop :=
  ∃ front back, Fresh name (front ++ back) ∧ ∀ x, es x = front ++ slot key (x.map form) ++ back

section Open

variable {key : Value C} {name other : String} {form : Value C → Value C}
  {es : Option (Value C) → Entries C}

theorem find?_slot_of_ne (hkey : key.string? = some name) (hne : name ≠ other)
    (x : Option (Value C)) : (slot key x).find? (fun e => e.1.string? = some other) = none := by
  cases x <;> simp [slot, hkey, hne]

theorem put_slot_append (hkey : key.string? = some name) {k : Value C}
    (hk : k.string? ≠ some name) (w : Value C) (x : Option (Value C)) (back : Entries C) :
    put k w (slot key x ++ back) = slot key x ++ put k w back := by
  have hother : ¬ key.sameKey k = true := fun hsame => hk (Value.string?_of_sameKey hkey hsame)
  cases x with
  | none => rfl
  | some v => exact if_neg hother

/-- A value under the string itself replaces the one that stands there. -/
theorem put_self (hkey : key.string? = some name) {front : Entries C} (h : front.Fresh name)
    (v w : Value C) (back : Entries C) :
    put (.str name) w (front ++ (key, v) :: back) = front ++ (key, w) :: back := by
  induction front with
  | nil =>
      have hsame : key.sameKey (.str name) = true := (Value.sameKey_of_string? rfl key).2 hkey
      exact if_pos hsame
  | cons first rest ih =>
      have hfirst : ¬ first.1.sameKey (.str name) = true :=
        fun hsame => h first (by simp) ((Value.sameKey_of_string? rfl first.1).1 hsame)
      have hrest := ih fun e he => h e (List.mem_cons_of_mem _ he)
      rw [List.cons_append, List.cons_append, ← hrest]
      exact if_neg hfirst

namespace Open

theorem intro {before behind : Entries C} (h : Fresh name (before ++ behind)) (key : Value C) :
    Open key name id fun x => before ++ slot key x ++ behind :=
  ⟨before, behind, h, fun x => by rw [Option.map_id, id]⟩

theorem none_fresh (h : Open key name form es) : (es none).Fresh name := by
  obtain ⟨front, back, hfresh, hes⟩ := h
  rw [hes, Option.map_none]
  simpa [slot] using hfresh

theorem get?_of_ne (hkey : key.string? = some name) (hne : name ≠ other)
    (h : Open key name form es) (x : Option (Value C)) :
    (es x).get? (.str other) = (es none).get? (.str other) := by
  obtain ⟨front, back, -, hes⟩ := h
  rw [get?_str, get?_str, hes, hes]
  simp only [List.find?_append, find?_slot_of_ne hkey hne]

theorem get?_self (hkey : key.string? = some name) (h : Open key name form es)
    (x : Option (Value C)) : (es x).get? (.str name) = x.map form := by
  obtain ⟨front, back, hfresh, hes⟩ := h
  have hfront : front.find? (fun e => e.1.string? = some name) = none :=
    List.find?_eq_none.2 fun e he => by simpa using hfresh.of_append.1 e he
  have hback : back.find? (fun e => e.1.string? = some name) = none :=
    List.find?_eq_none.2 fun e he => by simpa using hfresh.of_append.2 e he
  rw [get?_str, hes]
  cases x <;> simp [List.find?_append, hfront, hback, slot, hkey]

theorem last?_of_ne (hkey : key.string? = some name) (hne : name ≠ other)
    (h : Open key name form es) (x : Option (Value C)) :
    (es x).last? other = (es none).last? other := by
  obtain ⟨front, back, -, hes⟩ := h
  rw [hes, hes]
  cases x <;> simp [last?, slot, List.filter_append, hkey, hne]

theorem last?_self (hkey : key.string? = some name) (h : Open key name form es)
    (x : Option (Value C)) : (es x).last? name = x.map form := by
  obtain ⟨front, back, hfresh, hes⟩ := h
  have hnone : ∀ {es : Entries C}, es.Fresh name →
      es.filter (fun e => e.1.string? = some name) = [] := fun hfresh =>
    List.filter_eq_nil_iff.2 fun e he => by simpa using hfresh e he
  rw [hes]
  cases x <;>
    simp [last?, slot, List.filter_append, hkey, hnone hfresh.of_append.1,
      hnone hfresh.of_append.2]

/-- What is put under another key goes along. -/
theorem put (hkey : key.string? = some name) {k : Value C} (hk : k.string? ≠ some name)
    (w : Value C) (h : Open key name form es) :
    Open key name form fun x => Entries.put k w (es x) := by
  obtain ⟨front, back, hfresh, hes⟩ := h
  have hput : ∃ front' back', ∀ o : Option (Value C),
      Entries.put k w (front ++ slot key o ++ back) = front' ++ slot key o ++ back' := by
    clear hfresh hes
    induction front with
    | nil => exact ⟨[], Entries.put k w back, fun o => put_slot_append hkey hk w o back⟩
    | cons first rest ih =>
        -- the first entry is changed, or the others are
        by_cases hfirst : first.1.sameKey k = true
        · exact ⟨(first.1, w) :: rest, back, fun o => if_pos hfirst⟩
        · obtain ⟨front', back', hrest⟩ := ih
          refine ⟨first :: front', back', fun o => ?_⟩
          rw [List.cons_append, List.cons_append, List.cons_append, List.cons_append, ← hrest o]
          exact if_neg hfirst
  obtain ⟨front', back', hput⟩ := hput
  refine ⟨front', back', ?_, fun x => (congrArg (Entries.put k w) (hes x)).trans (hput _)⟩
  have hplain := hput none
  simp only [slot, Option.map_none, Option.toList_none, List.append_nil] at hplain
  exact hplain ▸ hfresh.put hk w

theorem update (hkey : key.string? = some name) {news : Entries C} (hnews : news.Fresh name)
    (h : Open key name form es) : Open key name form fun x => Entries.update (es x) news := by
  induction news generalizing es with
  | nil => exact h
  | cons new rest ih =>
      have hput := h.put hkey (hnews new (by simp)) new.2
      exact ih (fun e he => hnews e (List.mem_cons_of_mem _ he)) hput

theorem remove_of_ne (hkey : key.string? = some name) (hne : name ≠ other)
    (h : Open key name form es) : Open key name form fun x => (es x).remove (.str other) := by
  obtain ⟨front, back, hfresh, hes⟩ := h
  have hstays : ∀ o, (slot key o).remove (.str other) = slot key o := by
    intro o
    have hother : key.sameKey (.str other) = false :=
      Value.sameKey_eq_false_of_ne hkey rfl hne
    cases o <;> simp [slot, remove, hother]
  refine ⟨front.remove (.str other), back.remove (.str other), ?_, fun x => ?_⟩
  · exact List.filter_append .. ▸ hfresh.filter _
  · have hx := hstays (x.map form)
    unfold remove at hx
    simp only [remove, hes, List.filter_append, hx]

theorem remove_self (hkey : key.string? = some name) (h : Open key name form es)
    (x : Option (Value C)) : (es x).remove (.str name) = (es none).remove (.str name) := by
  obtain ⟨front, back, -, hes⟩ := h
  have hsame : key.sameKey (.str name) = true := (Value.sameKey_of_string? rfl key).2 hkey
  rw [hes, hes]
  cases x <;> simp [slot, remove, List.filter_append, hsame]

/-- Values of one form are not told apart. -/
theorem eq_of_form (h : Open key name form es) {v w : Value C} (hform : form v = form w) :
    es (some v) = es (some w) := by
  obtain ⟨front, back, -, hes⟩ := h
  rw [hes, hes, Option.map_some, Option.map_some, hform]

/-- Values that are replaced are not told apart. -/
theorem put_self (hkey : key.string? = some name) (h : Open key name form es) (v v' w : Value C) :
    Entries.put (.str name) w (es (some v)) = Entries.put (.str name) w (es (some v')) := by
  obtain ⟨front, back, hfresh, hes⟩ := h
  have hput := fun u => Entries.put_self hkey hfresh.of_append.1 u w back
  simp only [hes, slot, Option.map_some, Option.toList_some, List.append_assoc,
    List.singleton_append, hput]

end Open
end Open
end Entries

namespace AttributePlan

open Entries

/-! ## Among the attributes -/

/-- The form in which a value is written under a name. -/
def form (name : String) (v : Value C) : Value C :=
  if name = "style" then .str (styleText v)
  else if name = "class" then .str (classText v)
  else v

section Open

variable {key : Value C} {name : String} {seed : Entries C}
  {given : Option (Value C) → Entries C}

/-- A value under the name is brought into its text form where it stands. -/
theorem open_normalize_self (hkey : key.string? = some name) (hgiven : Open key name id given)
    {g : Value C → Value C} {es : Option (Value C) → Entries C} (hes : Open key name g es)
    (f : Value C → String) :
    Open key name (fun v => .str (f (g v))) fun x => normalize (given x) name f (es x) := by
  obtain ⟨front, back, hfresh, hcut⟩ := id hes
  refine ⟨front, back, hfresh, fun x => ?_⟩
  dsimp only
  cases x with
  | none =>
      rw [normalize_of_fresh hgiven.none_fresh, hcut]
      rfl
  | some v =>
      unfold normalize
      rw [hgiven.get?_self hkey, hes.get?_self hkey, hcut]
      simp only [slot, Option.map_some, Option.toList_some, List.append_assoc]
      exact Entries.put_self hkey hfresh.of_append.1 _ _ back

/-- What is done to the value under another name does not depend on this one. -/
theorem open_normalize_of_ne (hkey : key.string? = some name) {other : String}
    (hname : name ≠ other) (hgiven : Open key name id given) {g : Value C → Value C}
    {es : Option (Value C) → Entries C} (hes : Open key name g es) (f : Value C → String) :
    Open key name g fun x => normalize (given x) other f (es x) := by
  have hother : (Value.str other : Value C).string? ≠ some name :=
    fun hstr => hname (Option.some.inj hstr).symm
  obtain ⟨asked, hasked⟩ : ∃ o, ∀ x, (given x).get? (.str other) = o :=
    ⟨_, hgiven.get?_of_ne hkey hname⟩
  obtain ⟨found, hfound⟩ : ∃ o, ∀ x, (es x).get? (.str other) = o :=
    ⟨_, hes.get?_of_ne hkey hname⟩
  unfold normalize
  simp only [hasked, hfound]
  split
  · exact hes.put hkey hother _
  · exact hes

/-- The value is brought into the text form of its own name, and stays as it is otherwise. -/
theorem open_normalize (hkey : key.string? = some name) (hgiven : Open key name id given)
    {g : Value C → Value C} {es : Option (Value C) → Entries C} (hes : Open key name g es)
    (other : String) (f : Value C → String) :
    Open key name (fun v => if name = other then .str (f (g v)) else g v)
      fun x => normalize (given x) other f (es x) := by
  by_cases hname : name = other
  · subst hname
    simp only [if_true]
    exact open_normalize_self hkey hgiven hes f
  · simp only [if_neg hname]
    exact open_normalize_of_ne hkey hname hgiven hes f

/-- An entry that is for no event goes in behind those in front of it. -/
theorem open_update_plain (hkey : key.string? = some name) (hevent : eventName? key = none)
    (hseed : seed.Fresh name) (hgiven : Open key name id given) :
    Open key name id fun x => update seed (given x).plain := by
  obtain ⟨before, behind, hfresh, hcut⟩ := hgiven
  obtain ⟨hbefore, hbehind⟩ := hfresh.of_append
  have hfront : (update seed before.plain).Fresh name := hseed.update (hbefore.filter _)
  have hslot : ∀ x, update (update seed before.plain) (slot key x) =
      update seed before.plain ++ slot key x := by
    intro x
    cases x with
    | none => exact (List.append_nil _).symm
    | some v => exact put_of_absent v (hfront.sameKey hkey)
  have hplain : ∀ x, (slot key x).plain = slot key x := by
    intro x
    cases x <;> simp [slot, Entries.plain, hevent]
  have hsame : (fun x => update seed (given x).plain) = fun x =>
      update (update seed before.plain ++ slot key x ++ []) behind.plain := by
    funext x
    rw [hcut, Option.map_id, id, List.append_nil, ← hslot x]
    unfold update
    conv => lhs; rw [Entries.plain, List.filter_append, List.filter_append, List.foldl_append,
      List.foldl_append]
    have hx := hplain x
    unfold Entries.plain at hx ⊢
    rw [hx]
  rw [hsame]
  refine Open.update hkey (hbehind.filter _) (Open.intro ?_ key)
  rw [List.append_nil]
  exact hfront

/-- In the place of the entry stands what is written of it. -/
theorem open_merged (hkey : key.string? = some name) (hevent : eventName? key = none)
    (hseed : seed.Fresh name) (hgiven : Open key name id given) :
    Open key name (form name) fun x => merged seed (given x) := by
  have hupdated := open_update_plain hkey hevent hseed hgiven
  have hstyled := open_normalize hkey hgiven hupdated Vocabulary.style styleText
  have hclassed := open_normalize hkey hgiven hstyled Vocabulary.className classText
  -- at most one of the two names has a text form
  have hform : (fun v : Value C => if name = Vocabulary.className then
      .str (classText (if name = Vocabulary.style then .str (styleText (id v)) else id v))
      else if name = Vocabulary.style then .str (styleText (id v)) else id v) = form name := by
    funext v
    unfold form Vocabulary.className Vocabulary.style
    by_cases hstyle : name = "style"
    · subst hstyle
      rfl
    · simp [hstyle]
  rw [hform] at hclassed
  exact hclassed

/-- Without a callable nothing under the key of an event counts. -/
theorem merged_of_event (hkey : key.string? = some name) {event : String}
    (hevent : eventName? key = some event) (hgiven : Open key name id given)
    (x : Option (Value C)) : merged seed (given x) = merged seed (given none) := by
  have hplain : ∀ x, (given x).plain = (given none).plain := by
    obtain ⟨front, back, -, hcut⟩ := hgiven
    intro x
    rw [hcut, hcut]
    cases x <;> simp [slot, Entries.plain, List.filter_append, hevent]
  have hother : ∀ other : String, ¬ "on:".toList <+: other.toList → name ≠ other := by
    rintro other hno rfl
    rw [eventName?_eq hkey, if_neg hno] at hevent
    cases hevent
  have hstyle := hgiven.get?_of_ne hkey (hother Vocabulary.style (by decide)) x
  have hclass := hgiven.get?_of_ne hkey (hother Vocabulary.className (by decide)) x
  unfold merged normalize
  rw [hplain x, hstyle, hclass]

/-! ## What becomes of the entry -/

/-- A value that is there takes no part in what is refused. -/
theorem refused_or_present (seed : Entries C) (hgiven : Open key name id given) :
    (∃ fault, ∀ x : Option (Value C), (∀ v ∈ x, v.Present) →
        prepare seed (some (given x)) = .error fault) ∨
      ∀ x : Option (Value C), (∀ v ∈ x, v.Present) → ∀ e ∈ given x, e.2.Present := by
  obtain ⟨front, back, -, hcut⟩ := hgiven
  have hslot : ∀ x : Option (Value C), (∀ v ∈ x, v.Present) →
      ∀ e ∈ slot key (x.map id), e.2.Present := by
    intro x hx e he
    cases x with
    | none => cases he
    | some v =>
        obtain rfl : e = (key, v) := List.mem_singleton.1 he
        exact hx v rfl
  have hfaults : ∀ x : Option (Value C), (∀ v ∈ x, v.Present) →
      (given x).flatMap (fun e => faultsOf (Value.checkUnder e.1 e.2)) =
        (front ++ back).flatMap fun e => faultsOf (Value.checkUnder e.1 e.2) := by
    intro x hx
    have hnone : (slot key (x.map id)).flatMap
        (fun e => faultsOf (Value.checkUnder e.1 e.2)) = [] := by
      refine List.flatMap_eq_nil_iff.2 fun e he => ?_
      rw [(Value.checkUnder_eq_ok_iff e.1 e.2).2 (hslot x hx e he)]
      rfl
    rw [hcut, List.flatMap_append, List.flatMap_append, hnone, List.append_nil,
      List.flatMap_append]
  cases hplain : prepare seed (some (given none)) with
  | error fault =>
      refine Or.inl ⟨fault, fun x hx => ?_⟩
      rw [prepare_eq_error_iff_head?, Option.getD_some] at hplain ⊢
      rw [hfaults x hx, ← hfaults none (by simp)]
      exact hplain
  | ok plan =>
      refine Or.inr fun x hx e he => ?_
      have hothers := (prepare_eq_ok hplain).1
      rw [Option.getD_some, hcut] at hothers
      rw [hcut] at he
      rcases List.mem_append.1 he with he | he
      · rcases List.mem_append.1 he with he | he
        · exact hothers e (List.mem_append_left _ (List.mem_append_left _ he))
        · exact hslot x hx e he
      · exact hothers e (List.mem_append_right _ he)

theorem handlers_of_quiet (hgiven : Open key name id given) {x : Option (Value C)}
    (hquiet : ∀ v ∈ x, handler? (key, v) = none) :
    (given x).handlers = (given none).handlers := by
  obtain ⟨front, back, -, hcut⟩ := hgiven
  rw [hcut, hcut]
  cases x with
  | none => rfl
  | some v => simp [slot, handlers, List.filterMap_append, hquiet v rfl]

/-- What cannot handle its event counts for nothing. -/
theorem prepare_event (hkey : key.string? = some name) {event : String}
    (hevent : eventName? key = some event) (hgiven : Open key name id given)
    {x : Option (Value C)} (hx : ∀ v ∈ x, v.Present) (hquiet : ∀ v ∈ x, v.callable? = none) :
    prepare seed (some (given x)) = prepare seed (some (given none)) := by
  rcases refused_or_present seed hgiven with ⟨fault, hfault⟩ | hpresent
  · rw [hfault x hx, hfault none (by simp)]
  · have hhandlers : (given x).handlers = (given none).handlers :=
      handlers_of_quiet hgiven fun v hv => by simp [handler?, hevent, hquiet v hv]
    have hne : name ≠ Vocabulary.innerHtml := by
      rintro rfl
      rw [eventName?_eq hkey, if_neg (by decide)] at hevent
      cases hevent
    rw [prepare_of_present seed (some (given x)) (hpresent x hx),
      prepare_of_present seed (some (given none)) (hpresent none (by simp))]
    simp only [Option.getD_some, merged_of_event hkey hevent hgiven x, hhandlers,
      hgiven.last?_of_ne hkey hne x]

/-- Inner markup is taken out of the attributes. -/
theorem prepare_innerMarkup (hkey : key.string? = some Vocabulary.innerHtml)
    (hseed : seed.Fresh Vocabulary.innerHtml) (hgiven : Open key Vocabulary.innerHtml id given)
    {x : Option (Value C)} (hx : ∀ v ∈ x, v.Present) :
    prepare seed (some (given x)) = (prepare seed (some (given none))).map
      fun plan => { plan with innerHtml := x.getD .null } := by
  have hevent : eventName? key = none := by
    rw [eventName?_eq hkey]
    decide
  rcases refused_or_present seed hgiven with ⟨fault, hfault⟩ | hpresent
  · rw [hfault x hx, hfault none (by simp)]
    rfl
  · have hhandlers : (given x).handlers = (given none).handlers :=
      handlers_of_quiet hgiven fun v _ => by simp [handler?, hevent]
    have hattributes := (open_merged hkey hevent hseed hgiven).remove_self hkey x
    rw [prepare_of_present seed (some (given x)) (hpresent x hx),
      prepare_of_present seed (some (given none)) (hpresent none (by simp))]
    simp only [Option.getD_some, hattributes, hhandlers, hgiven.last?_self hkey, hseed.get?,
      Option.or_none, Option.map_id, id]
    rfl

/-- Any other value stands at one place among the attributes, in its form. -/
theorem prepare_written (hkey : key.string? = some name) (hevent : eventName? key = none)
    (hinner : name ≠ Vocabulary.innerHtml) (hseed : seed.Fresh name)
    (hgiven : Open key name id given) :
    ∃ attributes, Open key name (form name) attributes ∧
      ∀ x : Option (Value C), (∀ v ∈ x, v.Present) →
        prepare seed (some (given x)) = (prepare seed (some (given none))).map
          fun plan => { plan with attributes := attributes x } := by
  refine ⟨fun x => (merged seed (given x)).remove (.str Vocabulary.innerHtml),
    (open_merged hkey hevent hseed hgiven).remove_of_ne hkey hinner, fun x hx => ?_⟩
  rcases refused_or_present seed hgiven with ⟨fault, hfault⟩ | hpresent
  · rw [hfault x hx, hfault none (by simp)]
    rfl
  · have hhandlers : (given x).handlers = (given none).handlers :=
      handlers_of_quiet hgiven fun v _ => by simp [handler?, hevent]
    rw [prepare_of_present seed (some (given x)) (hpresent x hx),
      prepare_of_present seed (some (given none)) (hpresent none (by simp))]
    simp only [Option.getD_some, hhandlers, hgiven.last?_of_ne hkey hinner x]
    rfl

end Open

end AttributePlan
end MarkupTree
