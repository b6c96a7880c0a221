import MarkupTree.Proofs.Delivery
import MarkupTree.Proofs.Naming

/-!
# Reach — posts to the handlers of a rendering

Once a rendering is attached to a mounted container, every handler that was recorded has a path:
the name of the container, the id of its tag and its event. A post to that path calls this handler
and nothing else, as long as the path can be read. An id is read back if there is no slash in the
stem of the ids, an event if it is not empty and holds no slash. Otherwise the path leads nowhere.

* `EventRoute.Reaches` is a post that calls one handler, `EventRoute.Misses` one that is lost.
* `EventRoute.attached_reached` tells for every recorded handler which of the two it is.
-/

namespace MarkupTree

variable {C σ : Type}

/-! ## Ids in a path -/

/-- An id ends with its number, so only its stem may keep it out of a path. -/
theorem Recorder.isSegment_idOf_iff (stem : String) (n : Nat) :
    EventRoute.IsSegment (idOf stem n) ↔ '/' ∉ stem.toList := by
  have hdigits : '/' ∉ Nat.toDigits 10 n := fun hmem =>
    absurd (Nat.isDigit_of_mem_toDigits (by decide) (by decide) hmem) (by decide)
  have hne : idOf stem n ≠ "" := by
    intro heq
    have hnil := toList_idOf stem n ▸ String.toList_eq_nil_iff.2 heq
    exact Nat.toDigits_ne_nil (List.append_eq_nil_iff.1 hnil).2
  unfold EventRoute.IsSegment
  rw [toList_idOf, List.mem_append, not_or]
  exact ⟨fun h => h.2.1, fun h => ⟨hne, h, hdigits⟩⟩

/-! ## Attached renderings -/

namespace Renderer

variable {B : Behaviour C σ} {settings : Settings} {elements : List (Value C)}
  {press after : Press σ} {rendering : Rendering C}

theorem recorded_of_render (reached : press.Reached C)
    (hrender : render B settings elements press = (.ok rendering, after)) :
    Binding.Recorded rendering.bindings := by
  obtain ⟨forest, visited, hvisit, -, rfl⟩ := visit_of_render reached hrender
  exact Visited.recorded_rendering (visitAll_sound hvisit) settings.idStem

/-- The id of a binding is the stem with a number. -/
theorem id_of_render (reached : press.Reached C)
    (hrender : render B settings elements press = (.ok rendering, after)) :
    ∀ b ∈ rendering.bindings, ∃ n, b.id = Recorder.idOf settings.idStem n := by
  obtain ⟨forest, visited, hvisit, -, rfl⟩ := visit_of_render reached hrender
  rw [Visited.rendering_bindings (visitAll_sound hvisit)]
  intro b hb
  obtain ⟨i, -, rfl⟩ := List.mem_mapIdx.1 hb
  exact ⟨_, rfl⟩

theorem attach_of_render (reached : press.Reached C)
    (hrender : render B settings elements press = (.ok rendering, after))
    (container : Container C) :
    container.attach rendering.markup rendering.bindings =
      ⟨container.key, rendering.markup, rendering.bindings.map Binding.row⟩ := by
  obtain ⟨forest, visited, hvisit, -, rfl⟩ := visit_of_render reached hrender
  exact Visited.attach_rendering_eq (visitAll_sound hvisit) settings.idStem container

end Renderer

namespace EventRoute

open Surface

/-! ## Posts that reach a handler, and posts that do not -/

/-- A post to a target calls one handler and nothing else, and it is never answered that there is
nothing at its path. -/
structure Reaches (B : Behaviour C σ) (route : EventRoute) (target : Target) (s : Surface C)
    (key : String) (f : Callable (Value C) C) : Prop where
  calls : ∀ v, s.dispatch B target.reference target.id target.event v = do
    let answer ← Session.callHandler B f v
    return [answer]
  fires : ∀ body v, payload body = .ok v → ∀ press, ∃ reply press',
    answer B route (route.post target body) ⟨s, press⟩ = (reply, ⟨s, press'⟩) ∧
      Fired B route target v s key press reply press'
  found : ∀ body press reply,
    (answer B route (route.post target body) ⟨s, press⟩).1 = .ok reply → reply.status ≠ 404

/-- A post to a target ends before it is looked for, and changes nothing. -/
def Misses (B : Behaviour C σ) (route : EventRoute) (target : Target) : Prop :=
  ∀ body (site : Site C σ),
    answer B route (route.post target body) site = (.ok .notFound, site) ∨
      answer B route (route.post target body) site = (.ok .elsewhere, site)

theorem misses_of_not_addressable (B : Behaviour C σ) (route : EventRoute) {target : Target}
    (h : ¬ target.Addressable) : Misses B route target := by
  intro body site
  unfold answer post
  rw [destination?_pathOf_eq_none route h]
  dsimp only
  split
  · exact Or.inr rfl
  · exact Or.inl rfl

/-- A body that cannot be read is refused for what it is. -/
theorem status_of_bodyFault {fault : BodyFault C} {reply : Reply} (h : fault.reply = .ok reply) :
    reply.status ≠ 404 := by
  have hrepeating : ∀ (v : Value C) (place : List String) (word : String),
      BodyFault.repeating v (.invalid place word) = .ok reply → reply.status ≠ 404 := by
    intro v place word heq
    unfold BodyFault.repeating at heq
    split at heq
    · cases heq
    · split at heq
      · cases heq
      · cases heq
        exact (by decide : (422 : Nat) ≠ 404)
  cases fault with
  | unreadable => cases h; decide
  | malformed => cases h; exact (by decide : (422 : Nat) ≠ 404)
  | notAnObject body => exact hrepeating body _ _ h
  | detailNotAnObject detail => exact hrepeating detail _ _ h

theorem Fired.status {B : Behaviour C σ} {route : EventRoute} {target : Target} {v : Value C}
    {s : Surface C} {key : String} {press press' : Press σ} {reply : Reply}
    (h : Fired B route target v s key press (.ok reply) press') : reply.status = 200 := by
  generalize hanswer : (Except.ok reply : Except (Fault C) Reply) = answer at h
  cases h with
  | callFails => cases hanswer
  | awaitFails => cases hanswer
  | renderFails => cases hanswer
  | @responds _ _ _ _ markup =>
      rcases sent_cases (C := C) markup with hcut | hpage
      · rw [hcut] at hanswer
        cases hanswer
      · rw [hpage] at hanswer
        cases hanswer
        rfl

theorem reaches_of_single (B : Behaviour C σ) (route : EventRoute) {target : Target}
    (haddressable : target.Addressable) {s : Surface C} {handle : Nat} {container : Container C}
    (hresolve : s.resolve target.reference = .ok (handle, container))
    {f : Callable (Value C) C} (hsingle : container.handlers target.id target.event = [f]) :
    Reaches B route target s container.key f := by
  have hfires : ∀ body v, payload body = .ok v → ∀ press, ∃ reply press',
      answer B route (route.post target body) ⟨s, press⟩ = (reply, ⟨s, press'⟩) ∧
        Fired B route target v s container.key press reply press' := by
    intro body v hbody press
    rw [answer_post B route haddressable hbody]
    exact fired_of_bound B route v press hresolve (by rw [hsingle]; exact List.cons_ne_nil _ _)
  refine ⟨fun v => dispatch_single B hresolve hsingle v, hfires, ?_⟩
  intro body press reply hreply
  cases hbody : (payload body : Except (BodyFault C) (Value C)) with
  | ok v =>
      obtain ⟨fired, press', hanswer, hfired⟩ := hfires body v hbody press
      rw [hanswer] at hreply
      rw [show fired = .ok reply from hreply] at hfired
      rw [hfired.status]
      decide
  | error fault =>
      rw [answer_unreadable B route haddressable hbody] at hreply
      exact status_of_bodyFault hreply

/-- After a rendering is attached to a mounted container, a post to the path of a recorded handler
reaches exactly this handler if the path can be read: if the stem of the ids holds no slash and the
event is a name between slashes. Otherwise no post to the path reaches anything. -/
theorem attached_reached {B : Behaviour C σ} {settings : Settings} {elements : List (Value C)}
    {press after : Press σ} {rendering : Rendering C} (reached : press.Reached C)
    (hrender : Renderer.render B settings elements press = (.ok rendering, after))
    (route : EventRoute) (before : List (Action C)) {key : String} {handle : Nat}
    (hmounted : (key, handle) ∈ (run before empty).mounted) (hkey : IsSegment key)
    (hplain : '#' ∉ key.toList) {reference : Reference C}
    (hdenotes : (run before empty).Denotes reference handle) :
    ∃ s' notices,
      (run before empty).attach reference rendering.markup rendering.bindings =
        .ok (handle, s', notices) ∧
      ∀ b ∈ rendering.bindings, ∀ e ∈ b.events,
        ('/' ∉ settings.idStem.toList ∧ IsSegment e.1 →
          Reaches B route ⟨key, b.id, e.1⟩ s' key e.2) ∧
        (¬ ('/' ∉ settings.idStem.toList ∧ IsSegment e.1) → Misses B route ⟨key, b.id, e.1⟩) := by
  have horderly : (run before (empty : Surface C)).Orderly := Orderly.empty.run before
  obtain ⟨container, hcontainer, hresolve⟩ := horderly.resolve_of_denotes hdenotes
  have hattached := attach_apply hresolve rendering.markup rendering.bindings
  rw [Renderer.attach_of_render reached hrender container] at hattached
  refine ⟨_, _, hattached, ?_⟩
  intro b hb e he
  obtain ⟨n, hid⟩ := Renderer.id_of_render reached hrender b hb
  have hsegment : IsSegment b.id ↔ '/' ∉ settings.idStem.toList :=
    hid ▸ Recorder.isSegment_idOf_iff settings.idStem n
  constructor
  · rintro ⟨hstem, hevent⟩
    have haddressable : Target.Addressable ⟨key, b.id, e.1⟩ := ⟨hkey, hsegment.2 hstem, hevent⟩
    -- the name of the container is also its key, and it is found by it
    have hname : nameOf key = key :=
      nameOf_plain fun hstart => hplain (hstart.subset (List.mem_singleton_self _))
    have hnamed : (run before empty).Denotes
        (Target.reference ⟨key, b.id, e.1⟩ : Reference C) handle :=
      .name rfl (hname.symm ▸ hmounted)
    obtain ⟨found, hfound, hlooked⟩ := horderly.resolve_of_denotes hnamed
    cases hcontainer.symm.trans hfound
    have hkeyed : container.key = key := (horderly.reachedByName hmounted hcontainer).key
    have hafter := resolve_update hlooked
      ⟨container.key, rendering.markup, rendering.bindings.map Binding.row⟩
    have hsingle := Container.handlers_of_mem (Renderer.recorded_of_render reached hrender)
      container.key rendering.markup hb he
    have hreaches := reaches_of_single B route haddressable hafter hsingle
    rw [hkeyed] at hreaches ⊢
    exact hreaches
  · intro hnot
    refine misses_of_not_addressable B route fun haddressable => hnot ?_
    exact ⟨hsegment.1 haddressable.id, haddressable.event⟩

theorem attached_reached_handledTags :
    (Press.start 10 () : Press Unit).Reached Nat ∧
      ("app", 0) ∈ (run [.mount "#app" ""] (empty : Surface Nat)).mounted ∧
      IsSegment "app" ∧ '#' ∉ "app".toList ∧
      (run [.mount "#app" ""] (empty : Surface Nat)).Denotes (.container 0) 0 ∧
      '/' ∉ Settings.standard.idStem.toList ∧ IsSegment "Blur" ∧
      ∃ rendering after s' notices f,
        Renderer.render .echo .standard [Renderer.handledTags] (.start 10 ()) =
          (.ok rendering, after) ∧
        (run [.mount "#app" ""] empty).attach (.container 0) rendering.markup
          rendering.bindings = .ok (0, s', notices) ∧
        f.name = "leave" ∧
        Reaches .echo listeningRoute ⟨"app", "hiccpy-2", "Blur"⟩ s' "app" f := by
  have hreached : (Press.start 10 () : Press Unit).Reached Nat := .start 10 ()
  have hmounted : ("app", 0) ∈ (run [.mount "#app" ""] (empty : Surface Nat)).mounted := by
    decide +kernel
  have hdenotes : (run [.mount "#app" ""] (empty : Surface Nat)).Denotes (.container 0) 0 :=
    .container (by decide +kernel)
  have hkey : IsSegment "app" := by decide
  have hplain : '#' ∉ "app".toList := by decide
  have hstem : '/' ∉ Settings.standard.idStem.toList := by decide
  have hevent : IsSegment "Blur" := by decide
  have hanswer :
      (Renderer.render .echo .standard [Renderer.handledTags] (.start 10 ())).1.toOption.map
        (fun rendering => rendering.bindings.map fun b =>
          (b.id, b.events.map fun e => (e.1, e.2.name))) =
      some [("hiccpy-1", [("submit", "send")]),
        ("hiccpy-2", [("input", "edit"), ("Blur", "leave")])] := by
    decide +kernel
  obtain ⟨rendering, hsome, hbindings⟩ := Option.map_eq_some_iff.1 hanswer
  have hrender := Attempt.apply_eq_of_toOption hsome
  obtain ⟨s', notices, hattach, hevery⟩ :=
    attached_reached hreached hrender listeningRoute [.mount "#app" ""] hmounted hkey hplain
      hdenotes
  have hrow : ("hiccpy-2", [("input", "edit"), ("Blur", "leave")]) ∈
      rendering.bindings.map fun b => (b.id, b.events.map fun e => (e.1, e.2.name)) := by
    rw [hbindings]
    simp
  obtain ⟨b, hb, hpair⟩ := List.mem_map.1 hrow
  obtain ⟨hid, hevents⟩ := Prod.mk.inj hpair
  have hblur : ("Blur", "leave") ∈ b.events.map fun e => (e.1, e.2.name) := by
    rw [hevents]
    simp
  obtain ⟨e, he, hpair⟩ := List.mem_map.1 hblur
  obtain ⟨hname, hhandler⟩ := Prod.mk.inj hpair
  have hreaches := (hevery b hb e he).1 ⟨hstem, hname.symm ▸ hevent⟩
  rw [hid, hname] at hreaches
  exact ⟨hreached, hmounted, hkey, hplain, hdenotes, hstem, hevent, rendering, _, s', notices,
    e.2, hrender, hattach, hhandler, hreaches⟩

/-- Ids with a slash in their stem. -/
def slashedStem : Settings :=
  { Settings.standard with idStem := "a/", idStem_ne_empty := by decide }

/-- The handler of a button is there, but no post to its path gets to it. -/
theorem attached_missed_slashedStem :
    ∃ rendering after s' notices,
      Renderer.render .echo slashedStem [Renderer.handledTags] (.start 10 ()) =
        (.ok rendering, after) ∧
      (run [.mount "app" ""] (empty : Surface Nat)).attach (.value (.str "app"))
        rendering.markup rendering.bindings = .ok (0, s', notices) ∧
      ∃ b ∈ rendering.bindings, ∃ e ∈ b.events, b.id = "a/1" ∧ e.1 = "submit" ∧
        s'.handlers (.value (.str "app")) "a/1" "submit" = .ok [e.2] ∧
        answer .echo listeningRoute (listeningRoute.post ⟨"app", "a/1", "submit"⟩ none)
            ⟨s', after⟩ = (.ok (.refusal 404 "Not Found"), ⟨s', after⟩) := by
  have hreached : (Press.start 10 () : Press Unit).Reached Nat := .start 10 ()
  have hanswer :
      (Renderer.render .echo slashedStem [Renderer.handledTags] (.start 10 ())).1.toOption.map
        (fun rendering => rendering.bindings.map fun b => (b.id, b.events.map Prod.fst)) =
      some [("a/1", ["submit"]), ("a/2", ["input", "Blur"])] := by
    decide +kernel
  obtain ⟨rendering, hsome, hbindings⟩ := Option.map_eq_some_iff.1 hanswer
  have hrender := Attempt.apply_eq_of_toOption hsome
  have hresolve : (run [.mount "app" ""] (empty : Surface Nat)).resolve (.value (.str "app")) =
      .ok (0, ⟨"app", "", []⟩) :=
    resolve_eq_ok.2 ⟨by decide +kernel, rfl⟩
  have hattach := attach_apply hresolve rendering.markup rendering.bindings
  rw [Renderer.attach_of_render hreached hrender] at hattach
  have hrow : ("a/1", ["submit"]) ∈
      rendering.bindings.map fun b => (b.id, b.events.map Prod.fst) := by
    rw [hbindings]
    simp
  obtain ⟨b, hb, hpair⟩ := List.mem_map.1 hrow
  obtain ⟨hid, hevents⟩ := Prod.mk.inj hpair
  have hsubmit : "submit" ∈ b.events.map Prod.fst := by
    rw [hevents]
    simp
  obtain ⟨e, he, hname⟩ := List.mem_map.1 hsubmit
  have hhandlers := Container.handlers_of_mem (Renderer.recorded_of_render hreached hrender)
    "app" rendering.markup hb he
  rw [hid, hname] at hhandlers
  refine ⟨rendering, _, _, _, hrender, hattach, b, hb, e, he, hid, hname, ?_, ?_⟩
  · unfold Surface.handlers
    rw [resolve_update hresolve]
    exact congrArg Except.ok hhandlers
  · have hnowhere : listeningRoute.destination?
        (listeningRoute.pathOf ⟨"app", "a/1", "submit"⟩) = none := by
      decide +kernel
    have hother : isElsewhere (fun path => (listeningRoute.destination? path).isSome)
        (listeningRoute.pathOf ⟨"app", "a/1", "submit"⟩) = false := by
      decide +kernel
    unfold answer post
    rw [hnowhere]
    dsimp only
    rw [hother]
    rfl

end EventRoute
end MarkupTree
