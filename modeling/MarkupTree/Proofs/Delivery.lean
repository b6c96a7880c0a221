import MarkupTree.Proofs.Meaning
import MarkupTree.Proofs.Paths
import MarkupTree.Proofs.Registry

/-!
# Delivery — posts and the handlers that they reach

A post reaches the handlers of an event by names in its path. It agrees with a dispatch on the
surface itself: the same container is found, the same handlers are called in the same order with
the same value, and only then something is awaited or rendered. The surface stays as it is.

* `Attempt.Series` says how steps follow one another up to the first fault.
* `EventRoute.Fired` lists the ways in which a post ends once handlers are called.
* `EventRoute.Delivered` says which posts are refused and which call handlers.
* `EventRoute.post_delivered` holds for every post to a target, after any run of the surface.
-/

namespace MarkupTree

variable {C σ : Type}

/-! ## Steps in a row -/

namespace Attempt

variable {S α β : Type}

/-- A step is taken for one thing after another, up to the first fault. -/
inductive Series (step : α → Attempt S C β) : List α → S → Except (Fault C) (List β) → S → Prop
  | done (s : S) : Series step [] s (.ok []) s
  | stops {a : α} {rest : List α} {s s' : S} {fault : Fault C} :
      step a s = (.error fault, s') → Series step (a :: rest) s (.error fault) s'
  | goesOn {a : α} {rest : List α} {s s₁ s' : S} {b : β} {answer : Except (Fault C) (List β)} :
      step a s = (.ok b, s₁) → Series step rest s₁ answer s' →
      Series step (a :: rest) s (answer.map (b :: ·)) s'

theorem mapM_cons_apply (step : α → Attempt S C β) (a : α) (rest : List α) {s s₁ : S} {b : β}
    (h : step a s = (.ok b, s₁)) :
    (a :: rest).mapM step s =
      ((rest.mapM step s₁).1.map (b :: ·), (rest.mapM step s₁).2) := by
  rw [List.mapM_cons, bind_apply_ok h, map_apply]

theorem series_mapM (step : α → Attempt S C β) (as : List α) (s : S) :
    Series step as s (as.mapM step s).1 (as.mapM step s).2 := by
  induction as generalizing s with
  | nil => exact .done s
  | cons a rest ih =>
      cases h : step a s with
      | mk answer s₁ =>
          cases answer with
          | error fault =>
              rw [List.mapM_cons, bind_apply_error h]
              exact .stops h
          | ok b =>
              rw [mapM_cons_apply step a rest h]
              exact .goesOn h (ih s₁)

theorem series_iff {step : α → Attempt S C β} {as : List α} {s s' : S}
    {answer : Except (Fault C) (List β)} :
    Series step as s answer s' ↔ as.mapM step s = (answer, s') := by
  constructor
  · intro h
    induction h with
    | done s => rfl
    | stops hstep => rw [List.mapM_cons, bind_apply_error hstep]
    | goesOn hstep _ ih => rw [mapM_cons_apply step _ _ hstep, ih]
  · intro h
    have hseries := series_mapM step as s
    rwa [h] at hseries

end Attempt

/-! ## Calls -/

/-- A handler whose parameters take the value is entered; any other call fails where it stands. -/
theorem Session.calls_callHandler (B : Behaviour C σ) (f : Callable (Value C) C) (v : Value C)
    (s : Session σ) :
    (callHandler B f v s).2.calls = s.calls ++ [f.name] ∨
      (callHandler B f v s).2 = s ∧ ∃ fault, (callHandler B f v s).1 = .error fault := by
  unfold callHandler
  cases bindValue f v with
  | some args => exact Or.inl (calls_run B f args s)
  | none => exact Or.inr ⟨rfl, _, rfl⟩

/-- The handlers that are entered are the first of those in the row, and all of them if there is
no fault. -/
theorem Session.calls_series {B : Behaviour C σ} {v : Value C} {fs : List (Callable (Value C) C)}
    {s s' : Session σ} {answer : Except (Fault C) (List (Value C))}
    (h : Attempt.Series (fun f => callHandler B f v) fs s answer s') :
    ∃ entered, entered <+: fs ∧ s'.calls = s.calls ++ entered.map Callable.name ∧
      (answer.isOk → entered = fs) := by
  induction h with
  | done s => exact ⟨[], List.prefix_rfl, by simp, fun _ => rfl⟩
  | @stops f rest s s' fault hstep =>
      -- the fault is one of the code of this handler, or of the call before it is entered
      have hcalls := calls_callHandler B f v s
      rw [hstep] at hcalls
      rcases hcalls with hentered | ⟨hsame, -⟩
      · refine ⟨[f], ?_, hentered, fun hok => by cases hok⟩
        exact List.prefix_cons_inj f |>.2 List.nil_prefix
      · refine ⟨[], List.nil_prefix, ?_, fun hok => by cases hok⟩
        rw [show s' = s from hsame, List.map_nil, List.append_nil]
  | @goesOn f rest s s₁ s' b answer hstep _ ih =>
      obtain ⟨entered, hprefix, hcalls, hall⟩ := ih
      have hfirst := calls_callHandler B f v s
      rw [hstep] at hfirst
      rcases hfirst with hentered | ⟨-, fault, hfault⟩
      · refine ⟨f :: entered, List.prefix_cons_inj f |>.2 hprefix, ?_, ?_⟩
        · rw [hcalls, hentered, List.map_cons, List.append_assoc, List.singleton_append]
        · intro hok
          cases answer with
          | error fault => cases hok
          | ok bs => rw [hall rfl]
      · cases hfault

namespace Site

variable (site : Site C σ) {α : Type} {answer : Except (Fault C) α}

/-- A step on the press of a site leaves its surface alone. -/
theorem onPress_apply {step : Attempt (Press σ) C α} {press : Press σ}
    (h : step site.press = (answer, press)) :
    onPress step site = (answer, { site with press }) := by
  unfold onPress
  rw [h]

theorem inSession_apply {step : Attempt (Session σ) C α} {session : Session σ}
    (h : step site.press.session = (answer, session)) :
    inSession step site = (answer, { site with press := { site.press with session } }) := by
  unfold inSession
  rw [h]

end Site

theorem Renderer.page_apply {B : Behaviour C σ} {settings : Settings} {elements : List (Value C)}
    {press press' : Press σ} {answer : Except (Fault C) String}
    (h : html B settings elements press = (answer, press')) (status : Nat) :
    page B settings status elements press = (answer.map (.page status), press') := by
  unfold page
  rw [Attempt.map_apply, h]

namespace EventRoute

open Attempt Surface

/-! ## How a post ends -/

/-- The press while an event is delivered: the delivery is reported, and the session goes on. -/
def delivering (press : Press σ) (target : Target) (key : String) (session : Session σ) :
    Press σ :=
  { press.report [.dispatching target.event target.id key] with session }

/-- The container that a target names, as it is referred to. -/
def Target.reference (target : Target) : Reference C :=
  .value (.str target.container)

/-- What is sent for markup: a page, unless there is half a character in it. -/
def sent (markup : String) : Except (Fault C) Reply :=
  if Text.holdsHalf markup then .error .cutCharacter else .ok (.page 200 markup)

theorem sent_cases (markup : String) :
    (sent markup : Except (Fault C) Reply) = .error .cutCharacter ∨
      (sent markup : Except (Fault C) Reply) = .ok (.page 200 markup) := by
  unfold sent
  cases Text.holdsHalf markup
  · exact Or.inr rfl
  · exact Or.inl rfl

/-- The ways in which a post ends once handlers are called. All handlers are called first, then
their answers are awaited, and then what is there is rendered as one fragment. -/
inductive Fired (B : Behaviour C σ) (route : EventRoute) (target : Target) (v : Value C)
    (s : Surface C) (key : String) (press : Press σ) : Except (Fault C) Reply → Press σ → Prop
  | callFails {fault : Fault C} {s₁ : Session σ}
      (calls : s.dispatch B target.reference target.id target.event v press.session =
        (.error fault, s₁)) :
      Fired B route target v s key press (.error fault) (delivering press target key s₁)
  | awaitFails {fault : Fault C} {answers : List (Value C)} {s₁ s₂ : Session σ}
      (calls : s.dispatch B target.reference target.id target.event v press.session =
        (.ok answers, s₁))
      (awaits : Series (Session.await B) answers s₁ (.error fault) s₂) :
      Fired B route target v s key press (.error fault) (delivering press target key s₂)
  | renderFails {fault : Fault C} {answers values : List (Value C)} {s₁ s₂ : Session σ}
      {press' : Press σ}
      (calls : s.dispatch B target.reference target.id target.event v press.session =
        (.ok answers, s₁))
      (awaits : Series (Session.await B) answers s₁ (.ok values) s₂)
      (renders : Renderer.html B route.settings
        [.list (.str ":<>" :: present values)] (delivering press target key s₂) =
          (.error fault, press')) :
      Fired B route target v s key press (.error fault) press'
  | responds {answers values : List (Value C)} {s₁ s₂ : Session σ} {markup : String}
      {press' : Press σ}
      (calls : s.dispatch B target.reference target.id target.event v press.session =
        (.ok answers, s₁))
      (awaits : Series (Session.await B) answers s₁ (.ok values) s₂)
      (renders : Renderer.html B route.settings
        [.list (.str ":<>" :: present values)] (delivering press target key s₂) =
          (.ok markup, press')) :
      Fired B route target v s key press (sent markup) press'

/-- Once handlers are called, a post is not refused. -/
theorem Fired.ne_refusal {B : Behaviour C σ} {route : EventRoute} {target : Target} {v : Value C}
    {s : Surface C} {key : String} {press press' : Press σ} {reply : Except (Fault C) Reply}
    (h : Fired B route target v s key press reply press') (status : Nat) (reason : String) :
    reply ≠ .ok (.refusal status reason) := by
  cases h with
  | callFails => exact fun heq => by cases heq
  | awaitFails => exact fun heq => by cases heq
  | renderFails => exact fun heq => by cases heq
  | @responds _ _ _ _ markup =>
      rcases sent_cases (C := C) markup with hcut | hpage
      · rw [hcut]
        exact fun heq => by cases heq
      · rw [hpage]
        exact fun heq => by cases heq

/-- What a post to a target does on a surface. -/
structure Delivered (B : Behaviour C σ) (route : EventRoute) (target : Target) (v : Value C)
    (s : Surface C) (press : Press σ) (reply : Except (Fault C) Reply) (press' : Press σ) :
    Prop where
  /-- it is refused for its container if there is none of this name -/
  lost : reply = .ok (.refusal 404 ("Container \"" ++ target.container ++ "\" not found")) ↔
    ∀ handle, ¬ s.Denotes target.reference handle
  /-- a name that is given away belongs to a container -/
  owned : ∀ handle, s.Denotes target.reference handle →
    ∃ container, s.containers[handle]? = some container
  /-- it is refused for its event if the container has no handler for it -/
  unbound : ∀ handle container, s.Denotes target.reference handle →
    s.containers[handle]? = some container →
    (reply = .ok (.refusal 404 ("No '" ++ target.event ++ "' handler bound to " ++ target.id)) ↔
      container.handlers target.id target.event = [])
  /-- nothing is called for a refusal -/
  quiet : ∀ status reason, reply = .ok (.refusal status reason) → press' = press
  /-- otherwise the handlers of the container are called in a row, as a dispatch calls them -/
  fired : ∀ handle container, s.Denotes target.reference handle →
    s.containers[handle]? = some container → container.handlers target.id target.event ≠ [] →
    ∃ answer s₁,
      s.dispatch B target.reference target.id target.event v press.session = (answer, s₁) ∧
      Series (fun f => Session.callHandler B f v) (container.handlers target.id target.event)
        press.session answer s₁ ∧
      (∃ entered, entered <+: container.handlers target.id target.event ∧
        s₁.calls = press.session.calls ++ entered.map Callable.name ∧
        (answer.isOk → entered = container.handlers target.id target.event)) ∧
      Fired B route target v s container.key press reply press'

section Fire

variable (B : Behaviour C σ) (route : EventRoute) {target : Target} (v : Value C)
  {s : Surface C} (press : Press σ)

/-! ## Firing an event -/

theorem fire_of_lost {fault : Fault C} (h : s.resolve target.reference = .error fault) :
    fire B route target v ⟨s, press⟩ = (.ok (.refusal 404 fault.message), ⟨s, press⟩) := by
  unfold fire
  rw [bind_apply_ok (get_apply _)]
  dsimp only
  rw [show s.resolve (.value (.str target.container)) = .error fault from h]
  rfl

theorem fire_of_unbound {handle : Nat} {container : Container C}
    (h : s.resolve target.reference = .ok (handle, container))
    (hnone : container.handlers target.id target.event = []) :
    fire B route target v ⟨s, press⟩ =
      (.ok (.refusal 404 (unbound target)), ⟨s, press⟩) := by
  unfold fire
  rw [bind_apply_ok (get_apply _)]
  dsimp only
  rw [show s.resolve (.value (.str target.container)) = .ok (handle, container) from h]
  dsimp only
  rw [hnone]
  rfl

/-- With handlers, everything is called and awaited before anything is rendered. -/
theorem fire_of_bound {handle : Nat} {container : Container C}
    (h : s.resolve target.reference = .ok (handle, container))
    (hsome : container.handlers target.id target.event ≠ []) :
    fire B route target v ⟨s, press⟩ =
      match call B (container.handlers target.id target.event) v press.session with
      | (.error fault, s₂) => (.error fault, ⟨s, delivering press target container.key s₂⟩)
      | (.ok values, s₂) =>
        match Renderer.html B route.settings [.list (.str ":<>" :: present values)]
            (delivering press target container.key s₂) with
        | (.error fault, press') => (.error fault, ⟨s, press'⟩)
        | (.ok markup, press') => (sent markup, ⟨s, press'⟩) := by
  unfold fire
  rw [bind_apply_ok (get_apply _)]
  dsimp only
  rw [show s.resolve (.value (.str target.container)) = .ok (handle, container) from h]
  dsimp only
  rw [if_neg (by simpa using hsome)]
  -- the delivery is reported before the first call
  have hreport : Site.report [.dispatching target.event target.id container.key]
      (⟨s, press⟩ : Site C σ) =
        (.ok ⟨⟩, ⟨s, press.report [.dispatching target.event target.id container.key]⟩) :=
    Site.onPress_apply ⟨s, press⟩ (modify_apply _ _)
  rw [bind_apply_ok hreport]
  cases hcall : call B (container.handlers target.id target.event) v press.session with
  | mk answer s₂ =>
      have hsession := Site.inSession_apply
        ⟨s, press.report [.dispatching target.event target.id container.key]⟩ hcall
      cases answer with
      | error fault => exact bind_apply_error hsession _
      | ok values =>
          rw [bind_apply_ok hsession]
          dsimp only
          cases hhtml : Renderer.html B route.settings [.list (.str ":<>" :: present values)]
              (delivering press target container.key s₂) with
          | mk answer press' =>
              have hpage := Site.onPress_apply ⟨s, delivering press target container.key s₂⟩
                (Renderer.page_apply hhtml 200)
              cases answer with
              | error fault => exact bind_apply_error hpage _
              | ok markup =>
                  -- only now it is seen whether the page can be sent
                  refine (bind_apply_ok hpage _).trans ?_
                  show (if Text.holdsHalf markup = true then
                    throw .cutCharacter else return .page 200 markup :
                      Attempt (Site C σ) C Reply) _ = _
                  unfold sent
                  dsimp only
                  cases Text.holdsHalf markup <;> rfl

/-- With handlers, an event ends in one of the ways that there are. -/
theorem fired_of_bound {handle : Nat} {container : Container C}
    (h : s.resolve target.reference = .ok (handle, container))
    (hsome : container.handlers target.id target.event ≠ []) :
    ∃ reply press', fire B route target v ⟨s, press⟩ = (reply, ⟨s, press'⟩) ∧
      Fired B route target v s container.key press reply press' := by
  have hdispatch := dispatch_apply B h target.id target.event v
  rw [fire_of_bound B route v press h hsome]
  unfold call
  rw [← hdispatch]
  cases hcalls : s.dispatch B target.reference target.id target.event v press.session with
  | mk answer s₁ =>
      cases answer with
      | error fault =>
          rw [bind_apply_error hcalls]
          exact ⟨_, _, rfl, .callFails hcalls⟩
      | ok answers =>
          rw [bind_apply_ok hcalls]
          cases hawaits : answers.mapM (Session.await B) s₁ with
          | mk answer s₂ =>
              have hseries := series_iff.2 hawaits
              cases answer with
              | error fault => exact ⟨_, _, rfl, .awaitFails hcalls hseries⟩
              | ok values =>
                  dsimp only
                  cases hhtml : Renderer.html B route.settings
                      [.list (.str ":<>" :: present values)]
                      (delivering press target container.key s₂) with
                  | mk answer press' =>
                      cases answer with
                      | error fault => exact ⟨_, _, rfl, .renderFails hcalls hseries hhtml⟩
                      | ok markup => exact ⟨_, _, rfl, .responds hcalls hseries hhtml⟩

/-- An event that is fired leaves the surface alone. -/
theorem surface_fire (target : Target) (site : Site C σ) :
    (fire B route target v site).2.surface = site.surface := by
  cases hresolve : site.surface.resolve (target.reference : Reference C) with
  | error fault => rw [fire_of_lost B route v site.press hresolve]
  | ok found =>
      by_cases hnone : found.2.handlers target.id target.event = []
      · rw [fire_of_unbound B route v site.press hresolve hnone]
      · obtain ⟨reply, press', hfire, -⟩ :=
          fired_of_bound B route v site.press hresolve hnone
        rw [hfire]

end Fire

/-! ## Answering a post -/

/-- No request changes a surface. -/
theorem surface_answer (B : Behaviour C σ) (route : EventRoute) (request : Request)
    (site : Site C σ) : (answer B route request site).2.surface = site.surface := by
  unfold answer
  -- anything but a post to a target is answered without a look at the site
  cases route.destination? request.path with
  | none =>
      dsimp only
      split <;> rfl
  | some place =>
      cases place with
      | description =>
          dsimp only
          split <;> rfl
      | handlers target =>
          dsimp only
          split
          · rfl
          · cases payload request.body with
            | error fault =>
                dsimp only
                rw [ofExcept_apply]
            | ok v => exact surface_fire B route v target site

/-- A post to a target fires the event of the target with the payload of the post. -/
theorem answer_post (B : Behaviour C σ) (route : EventRoute) {target : Target}
    (haddressable : target.Addressable) {body : Option String} {v : Value C}
    (hbody : payload body = .ok v) (site : Site C σ) :
    answer B route (route.post target body) site = fire B route target v site := by
  unfold answer post
  rw [destination?_pathOf route haddressable]
  dsimp only
  rw [if_neg (by decide), hbody]

/-- A post to a target whose body cannot be read is refused for that, and nothing is looked up. -/
theorem answer_unreadable (B : Behaviour C σ) (route : EventRoute) {target : Target}
    (haddressable : target.Addressable) {body : Option String} {fault : BodyFault C}
    (hbody : payload body = .error fault) (site : Site C σ) :
    answer B route (route.post target body) site = (fault.reply, site) := by
  unfold answer post
  rw [destination?_pathOf route haddressable]
  dsimp only
  rw [if_neg (by decide), hbody]
  exact ofExcept_apply _ site

/-- The two refusals of a post are different. -/
theorem notFound_ne_unbound (name : String) (target : Target) :
    "Container \"" ++ name ++ "\" not found" ≠ unbound target := by
  intro heq
  have hfirst := congrArg (fun text => text.toList.head?) heq
  simp [unbound, String.toList_append] at hfirst

section Delivered

variable (B : Behaviour C σ) (route : EventRoute) {target : Target} (v : Value C)
  {s : Surface C} (press : Press σ)

theorem delivered_of_lost (hlost : ∀ handle, ¬ s.Denotes target.reference handle) :
    Delivered B route target v s press
      (.ok (.refusal 404 ("Container \"" ++ target.container ++ "\" not found"))) press where
  lost := ⟨fun _ => hlost, fun _ => rfl⟩
  owned handle hdenotes := absurd hdenotes (hlost handle)
  unbound handle _ hdenotes := absurd hdenotes (hlost handle)
  quiet _ _ _ := rfl
  fired handle _ hdenotes := absurd hdenotes (hlost handle)

variable {handle : Nat} {container : Container C}

theorem delivered_of_unbound (horderly : s.Orderly) (hdenotes : s.Denotes target.reference handle)
    (hcontainer : s.containers[handle]? = some container)
    (hnone : container.handlers target.id target.event = []) :
    Delivered B route target v s press (.ok (.refusal 404 (unbound target))) press where
  lost := by
    refine ⟨fun heq => ?_, fun hlost => absurd hdenotes (hlost handle)⟩
    have hreason := (Reply.refusal.inj (Except.ok.inj heq)).2
    exact absurd hreason.symm (notFound_ne_unbound target.container target)
  owned other hother := ⟨container, horderly.denotes_unique hdenotes hother ▸ hcontainer⟩
  unbound other container' hother hcontainer' := by
    rw [horderly.container_unique hdenotes hcontainer hother hcontainer']
    exact ⟨fun _ => hnone, fun _ => rfl⟩
  quiet _ _ _ := rfl
  fired other container' hother hcontainer' hsome := by
    rw [horderly.container_unique hdenotes hcontainer hother hcontainer'] at hsome
    exact absurd hnone hsome

theorem delivered_of_bound (horderly : s.Orderly) (hdenotes : s.Denotes target.reference handle)
    (hcontainer : s.containers[handle]? = some container)
    (hresolve : s.resolve target.reference = .ok (handle, container))
    (hsome : container.handlers target.id target.event ≠ []) {reply : Except (Fault C) Reply}
    {press' : Press σ} (hfired : Fired B route target v s container.key press reply press') :
    Delivered B route target v s press reply press' where
  lost := ⟨fun heq => absurd heq (hfired.ne_refusal _ _),
    fun hlost => absurd hdenotes (hlost handle)⟩
  owned other hother := ⟨container, horderly.denotes_unique hdenotes hother ▸ hcontainer⟩
  unbound other container' hother hcontainer' := by
    rw [horderly.container_unique hdenotes hcontainer hother hcontainer']
    exact ⟨fun heq => absurd heq (hfired.ne_refusal _ _), fun hnone => absurd hnone hsome⟩
  quiet _ _ heq := absurd heq (hfired.ne_refusal _ _)
  fired other container' hother hcontainer' _ := by
    rw [horderly.container_unique hdenotes hcontainer hother hcontainer']
    have hseries := series_mapM (fun f => Session.callHandler B f v)
      (container.handlers target.id target.event) press.session
    -- a dispatch is this row of calls
    rw [← dispatch_apply B hresolve] at hseries
    exact ⟨_, _, rfl, hseries, Session.calls_series hseries, hfired⟩

theorem delivered_fire (target : Target) (horderly : s.Orderly) :
    ∃ reply press', fire B route target v ⟨s, press⟩ = (reply, ⟨s, press'⟩) ∧
      Delivered B route target v s press reply press' := by
  by_cases hlost : ∀ handle, ¬ s.Denotes target.reference handle
  · have hresolve := horderly.resolve_of_lost hlost
    exact ⟨_, _, fire_of_lost B route v press hresolve, delivered_of_lost B route v press hlost⟩
  · obtain ⟨handle, hdenotes⟩ := not_forall_not.1 hlost
    obtain ⟨container, hcontainer, hresolve⟩ := horderly.resolve_of_denotes hdenotes
    by_cases hnone : container.handlers target.id target.event = []
    · exact ⟨_, _, fire_of_unbound B route v press hresolve hnone,
        delivered_of_unbound B route v press horderly hdenotes hcontainer hnone⟩
    · obtain ⟨reply, press', hfire, hfired⟩ := fired_of_bound B route v press hresolve hnone
      exact ⟨reply, press', hfire,
        delivered_of_bound B route v press horderly hdenotes hcontainer hresolve hnone hfired⟩

end Delivered

/-- After any run of a surface, a post to a target agrees with a dispatch on the surface, and no
request changes the surface. -/
theorem post_delivered (B : Behaviour C σ) (route : EventRoute) (before : List (Action C))
    (press : Press σ) {target : Target} (haddressable : target.Addressable)
    {body : Option String} {v : Value C} (hbody : payload body = .ok v) :
    (∃ reply press',
      answer B route (route.post target body) ⟨run before empty, press⟩ =
        (reply, ⟨run before empty, press'⟩) ∧
      Delivered B route target v (run before empty) press reply press') ∧
      (body = none → v = .payload []) ∧
      ∀ request, (answer B route request ⟨run before empty, press⟩).2.surface =
        run before empty := by
  refine ⟨?_, ?_, fun request => surface_answer B route request _⟩
  · rw [answer_post B route haddressable hbody]
    exact delivered_fire B route v press target (Orderly.empty.run before)
  · rintro rfl
    exact (Except.ok.inj hbody).symm

/-! ## An event with three handlers -/

/-- Code answers with its number, and with nothing if that is zero. -/
def answering : Behaviour Nat Unit := fun code _ _ state =>
  ⟨.ok (if code = 0 then .null else .int code), [], state⟩

/-- Three handlers of one event, found by each way to refer to a container. The first answers
later, the second with nothing. -/
def listening : List (Action Nat) :=
  [.mount "#app" "", .listen (.value (.str "app")) "x" "click" ⟨"later", false, none, true, 1⟩,
    .listen (.container 0) "x" "click" ⟨"nothing", false, none, false, 0⟩,
    .listen (.value (.str "#app")) "x" "click" ⟨"again", false, none, false, 2⟩]

def listeningRoute : EventRoute :=
  ⟨"/__hiccpy", .standard⟩

def listeningTarget : Target :=
  ⟨"app", "x", "click"⟩

def listeningBody : Option String :=
  some "\x7b\"detail\": \x7b\"n\": 1\x7d\x7d"

/-- A page, seen from outside. -/
def pageOf (reply : Except (Fault C) Reply) : Option (Nat × String) :=
  match reply with
  | .ok (.page status markup) => some (status, markup)
  | _ => none

theorem post_delivered_listening :
    listeningTarget.Addressable ∧
      ∃ v, payload listeningBody = .ok v ∧ v.text = "detail=\x7b'n': 1\x7d" ∧
        ∃ reply press',
          answer answering listeningRoute (listeningRoute.post listeningTarget listeningBody)
              ⟨run listening empty, .start 10 ()⟩ = (reply, ⟨run listening empty, press'⟩) ∧
            Delivered answering listeningRoute listeningTarget v (run listening empty)
              (.start 10 ()) reply press' ∧
            pageOf reply = some (200, "12") := by
  have haddressable : listeningTarget.Addressable := ⟨by decide, by decide, by decide⟩
  have hpage : pageOf (answer answering listeningRoute
      (listeningRoute.post listeningTarget listeningBody)
      ⟨run listening empty, .start 10 ()⟩).1 = some (200, "12") := by
    decide +kernel
  have htext : (payload listeningBody : Except (BodyFault Nat) (Value Nat)).toOption.map
      Value.text = some "detail=\x7b'n': 1\x7d" := by
    decide +kernel
  cases hbody : (payload listeningBody : Except (BodyFault Nat) (Value Nat)) with
  | error fault =>
      rw [hbody] at htext
      cases htext
  | ok v =>
      rw [hbody] at htext
      obtain ⟨⟨reply, press', hanswer, hdelivered⟩, -, -⟩ :=
        post_delivered answering listeningRoute listening (.start 10 ()) haddressable hbody
      rw [hanswer] at hpage
      exact ⟨haddressable, v, rfl, Option.some.inj htext, reply, press', hanswer, hdelivered,
        hpage⟩

end EventRoute
end MarkupTree
