import MarkupTree.Proofs.Registry

/-!
# Listeners — handlers go with the markup that they came with

Whatever replaces the content of a container drops its handlers first, and handlers are added only
for tags that are in the new content. So the handlers of a container are always some of those that
were last attached to it, and their tags are still there.

* `Container.BackedBy` says that handlers have tags and come from bindings.
* `Surface.LastAttached` reads the last attachment to a container off the past of a surface.
* `Surface.Backed` is the invariant of a run, and `Surface.listeners_of_last_attach` says what it
  means for each of the handlers.
-/

namespace MarkupTree

variable {C : Type}

/-- What is in an adjusted table was in it before, or it is the adjusted entry. -/
theorem Table.mem_adjust {α : Type} {name : String} {f : Option α → α} {t : Table α}
    {e : String × α} (h : e ∈ adjust name f t) : e ∈ t ∨ e = (name, f (t.get? name)) := by
  induction t with
  | nil => exact Or.inr (by simpa [adjust] using h)
  | cons first rest ih =>
      by_cases hname : first.1 = name
      · simp only [adjust, hname, if_true, List.mem_cons] at h
        rcases h with rfl | hrest
        · exact Or.inr (by simp [get?, hname])
        · exact Or.inl (List.mem_cons_of_mem _ hrest)
      · simp only [adjust, hname, if_false, List.mem_cons] at h
        rcases h with rfl | hrest
        · exact Or.inl (by simp)
        · rcases ih hrest with hold | hnew
          · exact Or.inl (List.mem_cons_of_mem _ hold)
          · exact Or.inr (by simpa [get?, hname] using hnew)

/-! ## Containers -/

namespace Container

/-- Every id with handlers has its tag in the content, every event has handlers, and each of them
is the one that some of these bindings has for this id and this event. -/
def BackedBy (bindings : List (Binding C)) (container : Container C) : Prop :=
  ∀ row ∈ container.listeners, container.hasElement row.1 = true ∧
    ∀ e ∈ row.2, e.2 ≠ [] ∧ ∀ f ∈ e.2, ∃ b ∈ bindings, b.id = row.1 ∧ (e.1, f) ∈ b.events

theorem backedBy_write (bindings : List (Binding C)) (markup : String)
    (container : Container C) : (container.write markup).BackedBy bindings := by
  intro row hrow
  cases hrow

theorem BackedBy.addListener {bindings : List (Binding C)} {container : Container C}
    (h : container.BackedBy bindings) {b : Binding C} (hb : b ∈ bindings)
    (hpresent : container.hasElement b.id = true) {e : String × Callable (Value C) C}
    (he : e ∈ b.events) : (container.addListener b.id e.1 e.2).BackedBy bindings := by
  intro row hrow
  rcases Table.mem_adjust hrow with hold | hnew
  · exact h row hold
  · -- the row of this id: what it held before, and one more handler
    subst hnew
    refine ⟨hpresent, ?_⟩
    have hbefore : ∀ entry ∈ (container.listeners.get? b.id).getD [],
        entry.2 ≠ [] ∧ ∀ f ∈ entry.2, ∃ b' ∈ bindings, b'.id = b.id ∧ (entry.1, f) ∈ b'.events := by
      intro entry hentry
      cases hget : container.listeners.get? b.id with
      | none =>
          rw [hget] at hentry
          cases hentry
      | some events =>
          rw [hget] at hentry
          exact (h _ (Table.mem_of_get? hget)).2 entry hentry
    intro entry hentry
    rcases Table.mem_adjust hentry with hold | hnew
    · exact hbefore entry hold
    · subst hnew
      refine ⟨by simp, ?_⟩
      intro f hf
      rcases List.mem_append.1 hf with hold | hlast
      · cases hget : ((container.listeners.get? b.id).getD []).get? e.1 with
        | none =>
            rw [hget] at hold
            cases hold
        | some fs =>
            rw [hget] at hold
            exact (hbefore _ (Table.mem_of_get? hget)).2 f hold
      · rw [List.mem_singleton.1 hlast]
        exact ⟨b, hb, rfl, he⟩

/-- After attaching, every handler is one of the bindings and has its tag. -/
theorem backedBy_attach (markup : String) (bindings : List (Binding C))
    (container : Container C) : (container.attach markup bindings).BackedBy bindings := by
  refine attach_keeps (backedBy_write bindings markup container) ?_
  intro b hb changed hbacked hpresent
  -- adding handlers leaves the content alone, so the tag stays there for the next one
  have hboth : (changed.bind b).BackedBy bindings ∧
      (changed.bind b).hasElement b.id = true := by
    refine bind_keeps (P := fun changed => changed.BackedBy bindings ∧
      changed.hasElement b.id = true) ?_ ⟨hbacked, hpresent⟩
    intro e he container hcontainer
    exact ⟨hcontainer.1.addListener hb hcontainer.2 he, hcontainer.2⟩
  exact hboth.1

theorem content_attach (markup : String) (bindings : List (Binding C))
    (container : Container C) : (container.attach markup bindings).content = markup :=
  attach_keeps (P := fun changed => changed.content = markup) rfl
    fun b _ changed hcontent _ => (content_bind b changed).trans hcontent

end Container

/-! ## The past of a surface -/

namespace Surface

/-- The action adds a handler by itself, whatever the content. -/
def Action.listens : Action C → Bool
  | .listen _ _ _ _ => true
  | _ => false

/-- The action replaces the content of the container that it is about. -/
def Action.replaces : Action C → Bool
  | .write _ _ | .attach _ _ _ | .cleanup _ | .clear _ => true
  | _ => false

/-- In the past of a surface, this markup and these bindings were the last that were attached to a
container, and its content was not replaced since. -/
def LastAttached (past : List (Action C × Option Nat)) (handle : Nat) (markup : String)
    (bindings : List (Binding C)) : Prop :=
  ∃ earlier later reference,
    past = earlier ++ (.attach reference markup bindings, some handle) :: later ∧
    ∀ step ∈ later, step.2 = some handle → step.1.replaces = false

theorem LastAttached.append {past : List (Action C × Option Nat)} {handle : Nat}
    {markup : String} {bindings : List (Binding C)} (h : LastAttached past handle markup bindings)
    {step : Action C × Option Nat} (hstep : step.2 = some handle → step.1.replaces = false) :
    LastAttached (past ++ [step]) handle markup bindings := by
  obtain ⟨earlier, later, reference, rfl, hlater⟩ := h
  refine ⟨earlier, later ++ [step], reference, by simp, ?_⟩
  intro step' hstep'
  rcases List.mem_append.1 hstep' with hold | hlast
  · exact hlater step' hold
  · exact List.mem_singleton.1 hlast ▸ hstep

/-- A container has no handlers, or they are backed by the last attachment to it. -/
def Backed (past : List (Action C × Option Nat)) (s : Surface C) : Prop :=
  ∀ handle container, s.containers[handle]? = some container → container.listeners = [] ∨
    ∃ markup bindings, LastAttached past handle markup bindings ∧ container.content = markup ∧
      container.BackedBy bindings

namespace Backed

variable {past : List (Action C × Option Nat)} {s : Surface C}

theorem empty : Backed [] (empty : Surface C) := by
  intro handle container hcontainer
  simp [Surface.empty] at hcontainer

/-- A step leaves a container alone, and the past of the container stays the same. -/
theorem append_of_same (h : Backed past s) {step : Action C × Option Nat} {handle : Nat}
    {container : Container C} (hcontainer : s.containers[handle]? = some container)
    (hstep : step.2 = some handle → step.1.replaces = false) :
    container.listeners = [] ∨ ∃ markup bindings,
      LastAttached (past ++ [step]) handle markup bindings ∧ container.content = markup ∧
        container.BackedBy bindings := by
  rcases h handle container hcontainer with hnone | ⟨markup, bindings, hlast, hbacked⟩
  · exact Or.inl hnone
  · exact Or.inr ⟨markup, bindings, hlast.append hstep, hbacked⟩

/-- A new container has no handlers. -/
theorem append_new (h : Backed past s) {step : Action C × Option Nat}
    (hstep : step.1.replaces = false) (key content : String) (mounted : Table Nat) :
    Backed (past ++ [step]) ⟨s.containers ++ [⟨key, content, []⟩], mounted⟩ := by
  intro handle container hcontainer
  rcases Nat.lt_or_ge handle s.containers.length with hlt | hge
  · rw [List.getElem?_append_left hlt] at hcontainer
    exact h.append_of_same hcontainer fun _ => hstep
  · rw [List.getElem?_append_right hge] at hcontainer
    have hnew := List.mem_singleton.1 (List.mem_of_getElem? hcontainer)
    exact Or.inl (by rw [hnew])

/-- The container that an action refers to is backed by that action, or by what backed it before. -/
theorem effect (h : Backed past s) {action : Action C} (hlistens : action.listens = false)
    {reference : Reference C} (hrefers : action.reference? = some reference) {handle : Nat}
    {container : Container C} (hcontainer : s.containers[handle]? = some container) :
    (action.effect container).listeners = [] ∨ ∃ markup bindings,
      LastAttached (past ++ [(action, some handle)]) handle markup bindings ∧
        (action.effect container).content = markup ∧
        (action.effect container).BackedBy bindings := by
  cases action with
  | adopt key content => cases hrefers
  | mount key content => cases hrefers
  | unmount key => cases hrefers
  | resolve r => exact h.append_of_same hcontainer fun _ => rfl
  | write r markup => exact Or.inl rfl
  | attach r markup bindings =>
      refine Or.inr ⟨markup, bindings, ⟨past, [], r, rfl, ?_⟩, ?_, ?_⟩
      · intro step hstep
        cases hstep
      · exact Container.content_attach markup bindings container
      · exact Container.backedBy_attach markup bindings container
  | cleanup r => exact Or.inl rfl
  | clear r => exact Or.inl rfl
  | listen r id event f => cases hlistens

/-- One action: the container that it is about gets a new past, the others keep theirs. -/
theorem perform (h : Backed past s) (orderly : s.Orderly) {action : Action C}
    (hlistens : action.listens = false) :
    Backed (past ++ [(action, action.about? s)]) (action.perform s).2 := by
  cases deed orderly action with
  | refuses reference refers lost after =>
      have habout : action.about? s = none := by simp only [Action.about?, after]
      rw [after, habout]
      exact fun handle container hcontainer =>
        h.append_of_same hcontainer fun hnone => by cases hnone
  | changes reference handle container refers denotes found after =>
      have habout : action.about? s = some handle := by simp only [Action.about?, after]
      rw [after, habout]
      intro other container' hcontainer'
      by_cases hother : other = handle
      · subst hother
        rw [getElem?_update_self found] at hcontainer'
        cases hcontainer'
        exact h.effect hlistens refers found
      · rw [getElem?_update_of_ne s hother] at hcontainer'
        exact h.append_of_same hcontainer' fun hsame =>
          absurd (Option.some.inj hsame).symm hother
  | adopts key content adopt after =>
      rw [after]
      exact h.append_new (by rw [adopt]; rfl) key content s.mounted
  | finds key content handle mount held after =>
      rw [after]
      exact fun other container hcontainer =>
        h.append_of_same hcontainer fun _ => by rw [mount]; rfl
  | mounts key content mount new after =>
      rw [after]
      exact h.append_new (by rw [mount]; rfl) (nameOf key) content _
  | unmounts key unmount after =>
      rw [after]
      exact fun other container hcontainer =>
        h.append_of_same hcontainer fun _ => by rw [unmount]; rfl

theorem run (h : Backed past s) (orderly : s.Orderly) {actions : List (Action C)}
    (hlistens : ∀ action ∈ actions, action.listens = false) :
    Backed (past ++ trace actions s) (Surface.run actions s) := by
  induction actions generalizing past s with
  | nil =>
      rw [trace, List.append_nil]
      exact h
  | cons action rest ih =>
      have hfirst := h.perform orderly (hlistens action (by simp))
      have hrest := ih hfirst (orderly.perform action)
        fun action' haction' => hlistens action' (List.mem_cons_of_mem _ haction')
      rw [List.append_assoc] at hrest
      exact hrest

end Backed

/-- Handlers never outlive the markup that they came with. -/
theorem listeners_of_last_attach {actions : List (Action C)}
    (hlistens : ∀ action ∈ actions, action.listens = false) {handle : Nat}
    {container : Container C}
    (hcontainer : (run actions empty).containers[handle]? = some container)
    {row : String × Table (List (Callable (Value C) C))} (hrow : row ∈ container.listeners) :
    ("data-hiccpy-id=\"" ++ Text.escape row.1 ++ "\"").toList <:+: container.content.toList ∧
      ∃ markup bindings, LastAttached (trace actions empty) handle markup bindings ∧
        container.content = markup ∧
        ∀ e ∈ row.2, e.2 ≠ [] ∧ ∀ f ∈ e.2, ∃ b ∈ bindings, b.id = row.1 ∧ (e.1, f) ∈ b.events := by
  have hbacked := Backed.empty.run Orderly.empty hlistens
  rw [List.nil_append] at hbacked
  rcases hbacked handle container hcontainer with
    hnone | ⟨markup, bindings, hlast, hcontent, hlisteners⟩
  · rw [hnone] at hrow
    cases hrow
  · obtain ⟨hpresent, hevents⟩ := hlisteners row hrow
    exact ⟨(Text.occursIn_iff _ _).1 hpresent, markup, bindings, hlast, hcontent, hevents⟩

/-- A container gets one of two handlers and loses its name to a container that is written to. -/
def replacing : List (Action Nat) :=
  [.mount "#app" "old",
    .attach (.value (.str "app")) "<b data-hiccpy-id=\"1\"></b>"
      [⟨"1", [("click", .sample "kept")]⟩, ⟨"2", [("click", .sample "missing")]⟩],
    .unmount "app", .mount "app" "new", .write (.value (.str "#app")) "other"]

theorem listeners_of_last_attach_replacing :
    (∀ action ∈ replacing, action.listens = false) ∧
      ∃ container row, (run replacing empty).containers[0]? = some container ∧
        row ∈ container.listeners ∧
        ("data-hiccpy-id=\"" ++ Text.escape row.1 ++ "\"").toList <:+: container.content.toList ∧
        ∃ bindings, LastAttached (trace replacing empty) 0 "<b data-hiccpy-id=\"1\"></b>" bindings ∧
          ∀ e ∈ row.2, e.2 ≠ [] ∧
            ∀ f ∈ e.2, ∃ b ∈ bindings, b.id = row.1 ∧ (e.1, f) ∈ b.events := by
  have hlistens : ∀ action ∈ replacing, action.listens = false := by decide
  have hview : ((run replacing empty).containers[0]?.map fun container =>
      (container.content, container.listeners.map Prod.fst)) =
        some ("<b data-hiccpy-id=\"1\"></b>", ["1"]) := by
    decide +kernel
  obtain ⟨container, hcontainer, hpair⟩ := Option.map_eq_some_iff.1 hview
  obtain ⟨hcontent, hnames⟩ := Prod.mk.inj hpair
  have hname : "1" ∈ container.listeners.map Prod.fst := by
    rw [hnames]
    exact List.mem_singleton_self "1"
  obtain ⟨row, hrow, -⟩ := List.mem_map.1 hname
  obtain ⟨hmarker, markup, bindings, hlast, hmarkup, hevents⟩ :=
    listeners_of_last_attach hlistens hcontainer hrow
  have hsame : markup = "<b data-hiccpy-id=\"1\"></b>" := hmarkup.symm.trans hcontent
  subst hsame
  exact ⟨hlistens, container, row, hcontainer, hrow, hmarker, bindings, hlast, hevents⟩

end Surface
end MarkupTree
