import MarkupTree.Proofs.Delivery
import MarkupTree.Proofs.Listeners

/-!
# Registration — the handlers of a container after attaching

Attaching goes through the bindings one by one. Ids and events may come back as often as they like:
every binding whose marker is in the markup adds its handlers behind those that are there for the
same id and event, and the others are reported and add none. So what is registered in the end can be
read off the list of bindings, whatever the container held before.

* `Container.Marked` says that the marker of an id is in the markup.
* `Binding.offered` is what bindings have for an id and an event, in their order.
* `Container.handlers_attach` is what a container holds afterwards.
* `Surface.attach_registers` says this of containers on a surface, and what a dispatch then calls.
-/

namespace MarkupTree

variable {C σ : Type}

/-! ## What bindings offer -/

namespace Binding

/-- The handlers of one binding for an id and an event. -/
def offers (id event : String) (b : Binding C) : List (Callable (Value C) C) :=
  if b.id = id then (b.events.filter fun e => e.1 = event).map Prod.snd else []

/-- The handlers that bindings have for an id and an event, in the order of the bindings. -/
def offered (id event : String) (bindings : List (Binding C)) : List (Callable (Value C) C) :=
  bindings.flatMap (offers id event)

/-- When bindings are chosen by their ids, all of an id are there or none is. -/
theorem offered_filter (id event : String) (p : String → Bool) (bindings : List (Binding C)) :
    offered id event (bindings.filter fun b => p b.id) =
      if p id then offered id event bindings else [] := by
  induction bindings with
  | nil => simp [offered]
  | cons b rest ih =>
      unfold offered at ih ⊢
      -- a binding of another id offers nothing, so it does not matter whether it is chosen
      by_cases hid : b.id = id
      · cases hp : p id <;> simp_all
      · have hnone : offers id event b = [] := if_neg hid
        cases hp : p b.id <;> simp [hp, ih, hnone]

end Binding

/-! ## Containers -/

namespace Container

/-- The marker of an id is in some markup. -/
def Marked (markup id : String) : Prop :=
  ("data-hiccpy-id=\"" ++ Text.escape id ++ "\"").toList <:+: markup.toList

instance (markup id : String) : Decidable (Marked markup id) :=
  decidable_of_iff _ (Text.occursIn_iff (markerOf id).toList markup.toList)

theorem hasElement_write (markup id : String) (container : Container C) :
    (container.write markup).hasElement id = decide (Marked markup id) := by
  rw [Bool.eq_iff_iff, decide_eq_true_iff]
  exact Text.occursIn_iff (markerOf id).toList markup.toList

/-- A new handler comes last for its id and its event, and nothing else changes. -/
theorem handlers_addListener (id event : String) (f : Callable (Value C) C)
    (container : Container C) (id' event' : String) :
    (container.addListener id event f).handlers id' event' =
      container.handlers id' event' ++ if id = id' ∧ event = event' then [f] else [] := by
  unfold handlers addListener
  by_cases hid : id = id'
  · subst hid
    rw [Table.get?_adjust_self]
    by_cases hevent : event = event'
    · subst hevent
      rw [Option.bind_some, Table.get?_adjust_self]
      cases container.listeners.get? id <;> simp
    · rw [Option.bind_some, Table.get?_adjust_of_ne (Ne.symm hevent)]
      cases container.listeners.get? id <;> simp [hevent]
  · rw [Table.get?_adjust_of_ne (Ne.symm hid)]
    simp [hid]

/-- A binding adds what it offers behind what is there. -/
theorem handlers_bind (b : Binding C) (container : Container C) (id event : String) :
    (container.bind b).handlers id event = container.handlers id event ++ b.offers id event := by
  unfold bind Binding.offers
  generalize b.events = events
  induction events generalizing container with
  | nil => simp
  | cons e rest ih =>
      -- the handler of the first event is there before those of the others are added
      rw [List.foldl_cons, ih, handlers_addListener, List.append_assoc]
      by_cases hid : b.id = id <;> by_cases hevent : e.1 = event <;> simp [hid, hevent]

theorem handlers_foldl_bind (bindings : List (Binding C)) (container : Container C)
    (id event : String) :
    (bindings.foldl (fun container b => container.bind b) container).handlers id event =
      container.handlers id event ++ Binding.offered id event bindings := by
  induction bindings generalizing container with
  | nil => simp [Binding.offered]
  | cons b rest ih =>
      rw [List.foldl_cons, ih, handlers_bind, List.append_assoc]
      rfl

/-- After attaching, an id has exactly what the bindings offer for it if its marker is in the
markup, and nothing otherwise. -/
theorem handlers_attach (markup : String) (bindings : List (Binding C)) (container : Container C)
    (id event : String) :
    (container.attach markup bindings).handlers id event =
      if Marked markup id then Binding.offered id event bindings else [] := by
  -- the content was replaced first, so no handler is left from before
  have hnone : (container.write markup).handlers id event = [] := rfl
  have hmarked : (container.write markup).hasElement = fun id => decide (Marked markup id) :=
    funext fun id => hasElement_write markup id container
  calc (container.attach markup bindings).handlers id event
      = (container.write markup).handlers id event ++ Binding.offered id event
          (bindings.filter fun b => (container.write markup).hasElement b.id) :=
        handlers_foldl_bind _ _ id event
    _ = Binding.offered id event (bindings.filter fun b => decide (Marked markup b.id)) := by
        rw [hnone, hmarked, List.nil_append]
    _ = if decide (Marked markup id) then Binding.offered id event bindings else [] :=
        Binding.offered_filter id event (fun id => decide (Marked markup id)) bindings
    _ = if Marked markup id then Binding.offered id event bindings else [] := by simp

theorem attachNotices_marked (markup : String) (bindings : List (Binding C))
    (container : Container C) :
    container.attachNotices markup bindings =
      (bindings.filter fun b => ¬ Marked markup b.id).map
          (fun b => .missingElement b.id container.key) ++
        [.attached (bindings.filter fun b => Marked markup b.id).length container.key] := by
  unfold attachNotices
  simp only [hasElement_write, List.countP_eq_length_filter, decide_not]

end Container

/-! ## Surfaces -/

theorem Attempt.Series.length_eq {S α β : Type} {step : α → Attempt S C β} {as : List α} {s s' : S}
    {answer : Except (Fault C) (List β)} (h : Series step as s answer s') :
    ∀ bs, answer = .ok bs → bs.length = as.length := by
  induction h with
  | done s => rintro bs ⟨⟩; rfl
  | stops hstep => rintro bs ⟨⟩
  | @goesOn a rest s s₁ s' b answer hstep _ ih =>
      intro bs hbs
      cases answer with
      | error fault => cases hbs
      | ok others =>
          cases hbs
          rw [List.length_cons, List.length_cons, ih others rfl]

namespace Surface

open Container

/-- Attaching any bindings, with any ids and events, to a container in any state: the content is the
markup, every id whose marker is there has the handlers that the bindings offer for it, in their
order, and no other id has any. Each binding without its marker is reported, in order, and then the
number of the others. A dispatch afterwards calls those handlers one after another, and each of them
gives one result unless there is a fault. -/
theorem attach_registers {s : Surface C} {reference : Reference C} {handle : Nat}
    {container : Container C} (hresolve : s.resolve reference = .ok (handle, container))
    (markup : String) (bindings : List (Binding C)) :
    ∃ attached : Container C,
      s.attach reference markup bindings =
        .ok (handle, s.update handle attached,
          (bindings.filter fun b => ¬ Marked markup b.id).map
              (fun b => .missingElement b.id container.key) ++
            [.attached (bindings.filter fun b => Marked markup b.id).length container.key]) ∧
      (s.update handle attached).resolve reference = .ok (handle, attached) ∧
      attached.content = markup ∧
      ∀ id event,
        attached.handlers id event =
          (if Marked markup id then Binding.offered id event bindings else []) ∧
        ∀ {τ : Type} (B : Behaviour C τ) (v : Value C) (session : Session τ), ∃ answer after,
          (s.update handle attached).dispatch B reference id event v session = (answer, after) ∧
          Attempt.Series (fun f => Session.callHandler B f v) (attached.handlers id event) session
            answer after ∧
          ∀ results, answer = .ok results →
            results.length = (attached.handlers id event).length := by
  have hattach := attach_apply hresolve markup bindings
  rw [attachNotices_marked] at hattach
  have hafter := resolve_update hresolve (container.attach markup bindings)
  refine ⟨container.attach markup bindings, hattach, hafter,
    content_attach markup bindings container, ?_⟩
  intro id event
  refine ⟨handlers_attach markup bindings container id event, ?_⟩
  intro τ B v session
  have hseries := Attempt.series_mapM (fun f => Session.callHandler B f v)
    ((container.attach markup bindings).handlers id event) session
  rw [dispatch_apply B hafter]
  exact ⟨_, _, rfl, hseries, hseries.length_eq⟩

/-- Two bindings of one id for the same event, and one of an id that is not in the markup. -/
def crossedBindings : List (Binding Nat) :=
  [⟨"1", [("click", .sample "first"), ("blur", .sample "leave")]⟩,
    ⟨"10", [("click", .sample "lost")]⟩, ⟨"1", [("click", .sample "second")]⟩]

theorem attach_registers_crossedBindings :
    ∃ container attached,
      usedSurface.resolve (.value (.str "#app")) = .ok (0, container) ∧
      usedSurface.attach (.value (.str "#app")) "<b data-hiccpy-id=\"1\"></b>" crossedBindings =
        .ok (0, usedSurface.update 0 attached, [.missingElement "10" "app", .attached 2 "app"]) ∧
      (attached.handlers "1" "click").map Callable.name = ["first", "second"] ∧
      attached.handlers "old" "click" = [] := by
  have hresolve : usedSurface.resolve (.value (.str "#app")) =
      .ok (0, ⟨"app", "<p data-hiccpy-id=\"old\">", [("old", [("click", [.sample "stale"])])]⟩) :=
    resolve_eq_ok.2 ⟨by decide +kernel, rfl⟩
  obtain ⟨attached, hattach, -, -, hhandlers⟩ :=
    attach_registers hresolve "<b data-hiccpy-id=\"1\"></b>" crossedBindings
  have hpresent : Marked "<b data-hiccpy-id=\"1\"></b>" "1" := by decide +kernel
  have hmissing : ¬ Marked "<b data-hiccpy-id=\"1\"></b>" "10" := by decide +kernel
  have hold : ¬ Marked "<b data-hiccpy-id=\"1\"></b>" "old" := by decide +kernel
  refine ⟨_, attached, hresolve, ?_, ?_, ?_⟩
  · rw [hattach]
    simp [crossedBindings, hpresent, hmissing]
  · rw [(hhandlers "1" "click").1, if_pos hpresent]
    rfl
  · rw [(hhandlers "old" "click").1, if_neg hold]

end Surface
end MarkupTree
