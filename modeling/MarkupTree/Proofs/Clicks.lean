import Mathlib.Algebra.Ring.Int.Defs
import Mathlib.Data.List.Induction
import Mathlib.Data.List.TakeWhile
import MarkupTree.Proofs.Board
import MarkupTree.Proofs.Bodies
import MarkupTree.Proofs.Reach

/-!
# Clicks — every click is counted once

A visitor of the site asks for the page, clicks on the button of the counter or posts something
else. Each page renders the counter again and attaches it to the same container, so there is one
handler for a click from the first page on, and never a second one. What is counted is the sum of
the steps of the clicks that were made since. A count that has become too long to be written is
still counted, but it cannot be shown.

* `Leaderboard.Move` is what a visitor can do, `Leaderboard.run` is the site after some moves.
* `Leaderboard.Counted` is the invariant of a run, `Counted.move` says what one move makes of it.
* `Leaderboard.clicks_counted` says how the site answers after any moves.
-/

namespace MarkupTree

namespace EventRoute

/-! ## Paths away from the root -/

theorem mem_otherForm {c : Char} (hc : c ≠ '/') {path : String} (h : c ∈ path.toList) :
    c ∈ (otherForm path).toList := by
  unfold otherForm
  split
  · rw [String.toList_ofList, List.mem_reverse]
    -- only slashes are taken away
    have hparts : c ∈ path.toList.reverse.takeWhile (· = '/') ++
        path.toList.reverse.dropWhile (· = '/') := by
      rw [List.takeWhile_append_dropWhile, List.mem_reverse]
      exact h
    rcases List.mem_append.1 hparts with htaken | hleft
    · have hslash := List.mem_takeWhile_imp htaken
      exact absurd (of_decide_eq_true hslash) hc
    · exact hleft
  · rw [String.toList_append]
    exact List.mem_append_left _ h

theorem isAt_root_eq_false {path : String} (h : '_' ∈ path.toList) : isAt "/" path = false := by
  refine Bool.eq_false_iff.2 fun hat => ?_
  rcases Bool.or_eq_true_iff.1 hat with heq | heq
  · rw [of_decide_eq_true heq] at h
    exact absurd h (by decide)
  · rw [of_decide_eq_true heq] at h
    exact absurd h (by decide)

end EventRoute

namespace Leaderboard

open Renderer EventRoute

/-! ## Moves -/

/-- Where the site takes its posts. -/
def siteRoute : EventRoute :=
  ⟨Vocabulary.eventPath, .standard⟩

/-- The button of the counter. -/
def buttonTarget : Target :=
  ⟨counterKey, buttonId, "click"⟩

/-- The step that a body says, if it can be read and says a whole number. -/
def saidStep? (body : Option String) : Option Int :=
  match (payload body : Except (BodyFault Part) Val) with
  | .ok v =>
    match Count.ofValue? (stepOf v) with
    | some (.whole step) => some step
    | _ => none
  | .error _ => none

example : saidStep? (some "\x7b\"detail\": \x7b\"step\": 3\x7d\x7d") = some 3 := by decide +kernel

/-- What a visitor can do. -/
inductive Move
  /-- asking for the page -/
  | look
  /-- a click on the button of the counter -/
  | click (body : Option String) (step : Int) (said : saidStep? body = some step)
  /-- a post to another id, or of another event -/
  | stray (target : Target) (body : Option String)
      (other : ¬ (target.id = buttonId ∧ target.event = "click"))

namespace Move

def request : Move → Request
  | .look => ⟨"GET", "/", none⟩
  | .click body _ _ => siteRoute.post buttonTarget body
  | .stray target body _ => siteRoute.post target body

def isLook : Move → Bool
  | .look => true
  | _ => false

def step? : Move → Option Int
  | .click _ step _ => some step
  | _ => none

end Move

/-- The site after some moves of its visitors. -/
def run (ranked : List User) (moves : List Move) : Site Part Count :=
  moves.foldl (fun site move => (answer .standard ranked move.request site).2) (start .standard)

/-- Whether somebody has seen the page. -/
def looked (moves : List Move) : Bool :=
  moves.any Move.isLook

/-- The steps of the clicks from the first page on. -/
def accepted (moves : List Move) : List Int :=
  (moves.dropWhile fun move => !move.isLook).filterMap Move.step?

/-- What is counted after some moves: the steps of the clicks that were accepted. -/
def total (moves : List Move) : Int :=
  (accepted moves).sum

theorem looked_append (moves : List Move) (move : Move) :
    looked (moves ++ [move]) = (looked moves || move.isLook) := by
  simp [looked]

/-- Before the first page nothing is accepted. -/
theorem dropWhile_of_not_looked {moves : List Move} (h : looked moves = false) :
    (moves.dropWhile fun move => !move.isLook) = [] :=
  List.dropWhile_eq_nil_iff.2 fun move hmove => by
    simpa using List.any_eq_false.1 h move hmove

theorem total_of_not_looked {moves : List Move} (h : looked moves = false) : total moves = 0 := by
  unfold total accepted
  rw [dropWhile_of_not_looked h]
  rfl

theorem accepted_append (moves : List Move) (move : Move) :
    accepted (moves ++ [move]) =
      accepted moves ++ (if looked moves then move.step?.toList else []) := by
  unfold accepted
  rw [List.dropWhile_append]
  -- a look among the earlier moves decides whether anything is left of them to add to
  cases hlooked : looked moves with
  | true =>
      obtain ⟨seen, hseen, hlook⟩ := List.any_eq_true.1 hlooked
      have hleft : (moves.dropWhile fun move => !move.isLook) ≠ [] := by
        intro hnone
        have hall := List.dropWhile_eq_nil_iff.1 hnone seen hseen
        rw [hlook] at hall
        cases hall
      rw [if_neg (by simpa using hleft), List.filterMap_append]
      cases move <;> rfl
  | false =>
      rw [dropWhile_of_not_looked hlooked]
      cases move <;> rfl

/-! ## A click -/

theorem saidStep?_eq_some {body : Option String} {step : Int} (h : saidStep? body = some step) :
    ∃ v : Val, payload body = .ok v ∧ Count.ofValue? (stepOf v) = some (.whole step) := by
  unfold saidStep? at h
  split at h
  · next v hbody =>
      refine ⟨v, hbody, ?_⟩
      split at h
      · next found hfound =>
          rw [hfound, Option.some.inj h]
      · cases h
  · cases h

/-- The handler counts the step, and answers with the new count if that can be written. -/
theorem call_increment {v : Val} {step n : Int}
    (h : Count.ofValue? (stepOf v) = some (.whole step)) {session : Session Count}
    (hcount : session.state = .whole n) :
    ∃ after : Session Count, EventRoute.call Part.behaviour [increment] v session =
        ((writing [.int (n + step)] (shown (.int (n + step)))).map ([·]), after) ∧
      after.state = .whole (n + step) := by
  have hclick : click v session.state =
      (writing [.int (n + step)] (shown (.int (n + step))), .whole (n + step)) := by
    unfold click
    rw [h, hcount]
    rfl
  have hcall : Session.callHandler Part.behaviour increment v session =
      ((click v session.state).1,
        ⟨session.spent, session.calls ++ ["increment"], (click v session.state).2⟩) :=
    rfl
  rw [hclick] at hcall
  refine ⟨⟨session.spent, session.calls ++ ["increment"], .whole (n + step)⟩, ?_, rfl⟩
  unfold EventRoute.call
  rw [List.mapM_cons, List.mapM_nil]
  -- with nothing but one handler, its fault or its answer is all there is
  cases hwritable : Decimal.isWritable (n + step) with
  | false =>
      rw [writing_int hwritable] at hcall ⊢
      exact Attempt.bind_apply_error (Attempt.bind_apply_error hcall _) _
  | true =>
      rw [writing_of_writable (by simpa using hwritable)] at hcall ⊢
      rw [Attempt.bind_apply_ok (Attempt.bind_apply_ok hcall _)]
      rfl

/-! ## What stays the same from move to move -/

/-- What is on the surface: nothing before the first page, then the container of the counter. -/
inductive Holds : Bool → Surface Part → Prop
  | nothing : Holds false Surface.empty
  | counter (content : String) :
      Holds true ⟨[⟨counterKey, content, [(buttonId, [("click", [increment])])]⟩],
        [(counterKey, 0)]⟩

/-- What the moves so far have made of the site: whether the page was seen, and the count. -/
structure Counted (seen : Bool) (count : Int) (site : Site Part Count) : Prop where
  settled : site.press.Settled
  counts : site.press.session.state = .whole count
  holds : Holds seen site.surface

theorem Counted.start : Counted false 0 (start .standard) where
  settled := Studio.settled_fresh .standard (Session.start (Count.whole 0))
  counts := rfl
  holds := .nothing

/-- Posts get past the page, to the handlers. -/
theorem answer_siteRoute (ranked : List User) (target : Target) (body : Option String) :
    answer .standard ranked (siteRoute.post target body) =
      EventRoute.answer Part.behaviour siteRoute (siteRoute.post target body) := by
  -- there is an underscore in both forms of the path, and none in the root
  have hpath : '_' ∈ (siteRoute.post target body).path.toList := by
    show '_' ∈ (siteRoute.pathOf target).toList
    rw [pathOf_eq, String.toList_append]
    exact List.mem_append_left _ (by decide)
  have hat : isAt "/" (siteRoute.post target body).path = false := isAt_root_eq_false hpath
  have helsewhere : isElsewhere (isAt "/") (siteRoute.post target body).path = false := by
    unfold isElsewhere
    rw [isAt_root_eq_false (mem_otherForm (by decide) hpath), Bool.and_false]
  unfold answer
  rw [hat, helsewhere]
  rfl

namespace Holds

variable {seen : Bool} {s : Surface Part}

/-- Whatever was there, the counter ends up in its container with its one handler. -/
theorem attach (h : Holds seen s) {forest : Visited Part} (hsound : forest.Sound) {markup : String}
    (hrendering : forest.rendering Settings.standard.idStem =
      ⟨markup, [⟨buttonId, [("click", increment)]⟩]⟩) :
    ∃ s' notices, (s.mount counterKey "").2.attach (.value (.str counterKey)) markup
        [⟨buttonId, [("click", increment)]⟩] = .ok (0, s', notices) ∧ Holds true s' := by
  -- mounting makes the container the first time and finds it after that
  obtain ⟨content, listeners, hmounted⟩ : ∃ content listeners, (s.mount counterKey "").2 =
      ⟨[⟨counterKey, content, listeners⟩], [(counterKey, 0)]⟩ := by
    cases h with
    | nothing => exact ⟨_, _, rfl⟩
    | counter content => exact ⟨_, _, rfl⟩
  rw [hmounted]
  have hattached := Visited.attach_rendering_eq hsound Settings.standard.idStem
    ⟨counterKey, content, listeners⟩
  rw [hrendering] at hattached
  have hresolve : (⟨[⟨counterKey, content, listeners⟩], [(counterKey, 0)]⟩ : Surface Part).resolve
      (.value (.str counterKey)) = .ok (0, ⟨counterKey, content, listeners⟩) := rfl
  rw [Surface.attach_apply hresolve, hattached]
  exact ⟨_, _, rfl, .counter markup⟩

/-- Before the first page nothing is found. -/
theorem resolve_nothing (h : Holds false s) (target : Target) :
    s.resolve target.reference = .error (.containerNotFound (.str target.container)) := by
  cases h
  rfl

/-- From the first page on, a click on the button finds its container and in it one handler. -/
theorem resolve_button (h : Holds true s) : ∃ container,
    s.resolve buttonTarget.reference = .ok (0, container) ∧
      container.listeners = [(buttonId, [("click", [increment])])] := by
  cases h with
  | counter content => exact ⟨_, rfl, rfl⟩

/-- The container has no handlers but the one for a click on the button. -/
theorem handlers_other (h : Holds seen s) {reference : Reference Part} {handle : Nat}
    {container : Container Part} (hresolve : s.resolve reference = .ok (handle, container))
    {id event : String} (hother : ¬ (id = buttonId ∧ event = "click")) :
    container.handlers id event = [] := by
  -- whatever the reference, there is only one container that it can lead to
  have hmem := List.mem_of_getElem? (Surface.resolve_eq_ok.1 hresolve).2
  cases h with
  | nothing => cases hmem
  | counter content =>
      rw [List.mem_singleton.1 hmem]
      unfold Container.handlers
      by_cases hid : buttonId = id
      · have hevent : "click" ≠ event := fun heq => hother ⟨hid.symm, heq.symm⟩
        simp [Table.get?, hid, hevent]
      · simp [Table.get?, hid]

end Holds

theorem addressable_buttonTarget : buttonTarget.Addressable :=
  ⟨by decide, by decide, by decide⟩

/-- What the page has in front of the counter and behind it. -/
def PageAround (ranked : List User) (front back : String) : Prop :=
  ∀ markup ≠ "", ∃ forest,
    Finds (visitAll Part.behaviour Press.readAfresh .standard [page ranked markup]) forest ∧
      forest.markup = front ++ markup ++ back

theorem exists_pageAround {ranked : List User} (h : Rankable ranked) :
    ∃ front back, PageAround ranked front back := by
  have hframes : Frames Part.behaviour 100 101 (page ranked) := frames_page h
  exact hframes

/-- A page that shows a number. It cannot be made if the number is too long to be written. -/
def pageShowing (n : Int) (markup : String) : Except (Fault Part) Reply :=
  if Decimal.isWritable n then .ok (.page 200 markup) else .error .tooManyDigits

theorem pageShowing_of_writable {n : Int} (h : Decimal.isWritable n = true) (markup : String) :
    pageShowing n markup = .ok (.page 200 markup) :=
  if_pos h

theorem pageShowing_of_not_writable {n : Int} (h : Decimal.isWritable n = false)
    (markup : String) : pageShowing n markup = .error .tooManyDigits :=
  if_neg (by rw [h]; exact Bool.false_ne_true)

/-! ## One move -/

section Steps

variable (ranked : List User) {seen : Bool} {count : Int} {site : Site Part Count}

/-- A post to another id, or of another event, changes nothing. If it can be read, it is answered
that there is nothing there. -/
theorem Counted.stray (h : Counted seen count site) {target : Target}
    (hother : ¬ (target.id = buttonId ∧ target.event = "click")) (body : Option String) :
    (answer .standard ranked (siteRoute.post target body) site).2 = site ∧
      (target.Addressable → (payload body : Except (BodyFault Part) Val).isOk →
        ∃ reason, answer .standard ranked (siteRoute.post target body) site =
          (.ok (.refusal 404 reason), site)) := by
  rw [answer_siteRoute]
  -- the path is read first, then the body, and only then the handlers are looked for
  by_cases haddressable : target.Addressable
  · cases hbody : (payload body : Except (BodyFault Part) Val) with
    | error fault =>
        have hrefused := answer_unreadable Part.behaviour siteRoute haddressable hbody site
        exact ⟨congrArg Prod.snd hrefused, fun _ hok => by cases hok⟩
    | ok v =>
        have hfire : ∃ reason, fire Part.behaviour siteRoute target v site =
            (.ok (.refusal 404 reason), site) := by
          cases hresolve : site.surface.resolve target.reference with
          | error fault => exact ⟨_, fire_of_lost _ siteRoute v site.press hresolve⟩
          | ok found =>
              exact ⟨_, fire_of_unbound _ siteRoute v site.press hresolve
                (h.holds.handlers_other hresolve hother)⟩
        rw [EventRoute.answer_post _ siteRoute haddressable hbody]
        obtain ⟨reason, hfire⟩ := hfire
        exact ⟨congrArg Prod.snd hfire, fun _ _ => ⟨reason, hfire⟩⟩
  · refine ⟨?_, fun haddressable' => absurd haddressable' haddressable⟩
    rcases misses_of_not_addressable Part.behaviour siteRoute haddressable body site with
      hmissed | hmissed
    · rw [hmissed]
    · rw [hmissed]

/-- A click before the first page is refused and changes nothing. -/
theorem Counted.early (h : Counted false count site) {body : Option String} {step : Int}
    (hsaid : saidStep? body = some step) :
    answer .standard ranked (siteRoute.post buttonTarget body) site =
      (.ok (.refusal 404 "Container \"counter\" not found"), site) := by
  obtain ⟨v, hbody, -⟩ := saidStep?_eq_some hsaid
  rw [answer_siteRoute, EventRoute.answer_post _ siteRoute addressable_buttonTarget hbody]
  exact fire_of_lost Part.behaviour siteRoute v site.press (h.holds.resolve_nothing buttonTarget)

/-- A click adds its step and is answered with the new count, if that can be written. -/
theorem Counted.click (h : Counted true count site) {body : Option String} {step : Int}
    (hsaid : saidStep? body = some step) :
    ∃ after, answer .standard ranked (siteRoute.post buttonTarget body) site =
        (pageShowing (count + step) (countMarkup (count + step)), after) ∧
      Counted true (count + step) after := by
  obtain ⟨v, hbody, hstep⟩ := saidStep?_eq_some hsaid
  obtain ⟨container, hresolve, hlisteners⟩ := h.holds.resolve_button
  have hhandlers : container.handlers buttonTarget.id buttonTarget.event = [increment] := by
    unfold Container.handlers
    rw [hlisteners]
    rfl
  have hfire := fire_of_bound Part.behaviour siteRoute v site.press hresolve
    (by rw [hhandlers]; exact List.cons_ne_nil _ _)
  obtain ⟨session, hcall, hcount⟩ := call_increment hstep h.counts
  rw [hhandlers, hcall] at hfire
  have hsettled : (delivering site.press buttonTarget container.key session).Settled :=
    ⟨h.settled.faithful, h.settled.fits⟩
  rw [answer_siteRoute, EventRoute.answer_post _ siteRoute addressable_buttonTarget hbody]
  cases hwritable : Decimal.isWritable (count + step) with
  | false =>
      -- the count has changed when the handler fails, and nothing is rendered
      rw [writing_int hwritable] at hfire
      rw [pageShowing_of_not_writable hwritable]
      exact ⟨_, hfire, hsettled, hcount, h.holds⟩
  | true =>
      rw [writing_of_writable (by simpa using hwritable)] at hfire
      rw [pageShowing_of_writable hwritable]
      -- the answer of the handler is rendered on its own
      obtain ⟨forest, hfinds, hprinted⟩ := finds_answer (count + step)
      obtain ⟨press, hhtml, hafter, hstate⟩ := html_of_ends hsettled hfinds
      have hpresent : present [shown (.int (count + step))] = [shown (.int (count + step))] := rfl
      have hsent : (sent (countMarkup (count + step)) : Except (Fault Part) Reply) =
          .ok (.page 200 (countMarkup (count + step))) :=
        if_neg (by rw [holdsHalf_countMarkup]; exact Bool.false_ne_true)
      refine ⟨⟨site.surface, press⟩, hfire.trans ?_, hafter, hstate.trans hcount, h.holds⟩
      dsimp only [Except.map]
      rw [hpresent, show siteRoute.settings = .standard from rfl, hhtml]
      dsimp only [Except.map]
      rw [hprinted, hsent]

/-- The counter is rendered with the count, and only then the surface is looked at. -/
theorem attachCounter_apply {answer : Except (Fault Part) (Rendering Part)} {press : Press Count}
    (hcount : site.press.session.state = .whole count)
    (hrender : Renderer.render Part.behaviour .standard [counterElement count] site.press =
      (answer, press)) :
    attachCounter .standard site =
      match answer with
      | .error fault => (.error fault, ⟨site.surface, press⟩)
      | .ok rendering =>
        match (site.surface.mount counterKey "").2.attach (.value (.str counterKey))
            rendering.markup rendering.bindings with
        | .error fault => (.error fault, ⟨site.surface, press⟩)
        | .ok (_, surface, notices) => (.ok rendering.markup, ⟨surface, press.report notices⟩) := by
  rw [counterElement] at hrender
  unfold attachCounter
  rw [Attempt.bind_apply_ok (Attempt.get_apply site)]
  dsimp only
  rw [hcount, show (Count.whole count).toValue = (.int count : Val) from rfl]
  cases answer with
  | error fault => exact Attempt.bind_apply_error (Site.onPress_apply site hrender) _
  | ok rendering =>
      rw [Attempt.bind_apply_ok (Site.onPress_apply site hrender)]
      rw [Attempt.bind_apply_ok (Attempt.get_apply _)]
      dsimp only
      cases (site.surface.mount counterKey "").2.attach (.value (.str counterKey))
          rendering.markup rendering.bindings <;> rfl

/-- A count that can be written is attached to the container of the counter. -/
theorem Counted.attached (h : Counted seen count site)
    (hwritable : Decimal.isWritable count = true) :
    ∃ after, attachCounter .standard site = (.ok (counterMarkup count), after) ∧
      Counted true count after := by
  obtain ⟨forest, hfinds, hsound, hrendering⟩ := finds_counter hwritable
  obtain ⟨press, hrender, hsettled, hstate⟩ := render_of_ends h.settled hfinds
  obtain ⟨surface, notices, hattach, hholds⟩ := h.holds.attach hsound hrendering
  have happly := attachCounter_apply h.counts hrender
  dsimp only [Except.map] at happly
  rw [hrendering] at happly
  dsimp only at happly
  rw [hattach] at happly
  exact ⟨_, happly, ⟨hsettled.faithful, hsettled.fits⟩, hstate.trans h.counts, hholds⟩

/-- A count that is too long is not rendered, and the surface stays as it is. -/
theorem Counted.not_attached (h : Counted seen count site)
    (hlong : Decimal.isWritable count = false) :
    ∃ after, attachCounter .standard site = (.error .tooManyDigits, after) ∧
      Counted seen count after := by
  obtain ⟨press, hrender, hsettled, hstate⟩ := render_of_ends h.settled (ends_counter hlong)
  exact ⟨_, attachCounter_apply h.counts hrender, hsettled, hstate.trans h.counts, h.holds⟩

/-- Asking for the page shows the count, if it can be written, and leaves it as it is. -/
theorem Counted.look (h : Counted seen count site) {front back : String}
    (hpage : PageAround ranked front back) :
    ∃ after, answer .standard ranked Move.look.request site =
        (pageShowing count (front ++ counterMarkup count ++ back), after) ∧
      Counted (seen || Decimal.isWritable count) count after := by
  have hindex : answer .standard ranked Move.look.request site = index .standard ranked site := rfl
  rw [hindex]
  unfold index
  cases hwritable : Decimal.isWritable count with
  | false =>
      obtain ⟨after, hattached, hcounted⟩ := h.not_attached hwritable
      rw [pageShowing_of_not_writable hwritable, Bool.or_false]
      exact ⟨after, Attempt.bind_apply_error hattached _, hcounted⟩
  | true =>
      obtain ⟨attached, hattached, hcounted⟩ := h.attached hwritable
      obtain ⟨forest, hfinds, hprinted⟩ := hpage _ (counterMarkup_ne_empty count)
      obtain ⟨press, hhtml, hsettled, hstate⟩ := html_of_ends hcounted.settled hfinds
      rw [show (Except.ok forest).map Visited.markup = .ok forest.markup from rfl,
        hprinted] at hhtml
      rw [pageShowing_of_writable hwritable, Bool.or_true, Attempt.bind_apply_ok hattached]
      exact ⟨_, Site.onPress_apply attached (Renderer.page_apply hhtml 200), hsettled,
        hstate.trans hcounted.counts, hcounted.holds⟩

end Steps

/-! ## Runs -/

theorem total_append (moves : List Move) (move : Move) :
    total (moves ++ [move]) =
      total moves + (if looked moves then move.step?.getD 0 else 0) := by
  unfold total
  rw [accepted_append, List.sum_append]
  cases looked moves with
  | false => rfl
  | true => cases move <;> simp [Move.step?]

/-- Only clicks are counted. -/
theorem total_append_of_none (moves : List Move) {move : Move} (h : move.step? = none) :
    total (moves ++ [move]) = total moves := by
  rw [total_append, h, Option.getD_none, ite_self, Int.add_zero]

example :
    total [.click none 1 rfl, .look, .click none 1 rfl, .look, .click (some "") 1 rfl] = 2 := by
  decide

theorem run_append (ranked : List User) (moves : List Move) (move : Move) :
    run ranked (moves ++ [move]) =
      (answer .standard ranked move.request (run ranked moves)).2 := by
  unfold run
  rw [List.foldl_append]
  rfl

/-- A count that cannot be written was made by clicks, so the page was seen before. -/
theorem looked_or_isWritable (moves : List Move) :
    (looked moves || Decimal.isWritable (total moves)) = true := by
  cases hseen : looked moves with
  | true => rfl
  | false =>
      rw [total_of_not_looked hseen]
      decide +kernel

/-- One move: a look counts nothing, a click counts its step once the page was seen, and anything
else leaves the site as it is. -/
theorem Counted.move {ranked : List User} (hranked : Rankable ranked) {moves : List Move}
    (h : Counted (looked moves) (total moves) (run ranked moves)) (move : Move) :
    Counted (looked (moves ++ [move])) (total (moves ++ [move]))
      (run ranked (moves ++ [move])) := by
  rw [looked_append, run_append]
  cases move with
  | look =>
      obtain ⟨front, back, hpage⟩ := exists_pageAround hranked
      obtain ⟨after, hanswer, hcounted⟩ := h.look ranked hpage
      rw [looked_or_isWritable] at hcounted
      rw [hanswer, total_append_of_none moves rfl, show Move.look.isLook = true from rfl,
        Bool.or_true]
      exact hcounted
  | click body step hsaid =>
      rw [total_append, show (Move.click body step hsaid).isLook = false from rfl, Bool.or_false]
      -- whether a click is accepted was decided by the moves before it
      cases hseen : looked moves with
      | true =>
          rw [hseen] at h
          obtain ⟨after, hanswer, hcounted⟩ := h.click ranked hsaid
          rw [show (Move.click body step hsaid).request = siteRoute.post buttonTarget body from rfl,
            hanswer]
          exact hcounted
      | false =>
          rw [hseen] at h
          have hrefused := h.early ranked hsaid
          rw [show (Move.click body step hsaid).request = siteRoute.post buttonTarget body from rfl,
            hrefused, if_neg Bool.false_ne_true, Int.add_zero]
          exact h
  | stray target body hother =>
      have hsame := (h.stray ranked hother body).1
      rw [total_append_of_none moves rfl,
        show (Move.stray target body hother).isLook = false from rfl, Bool.or_false]
      exact hsame.symm ▸ h

theorem counted_run {ranked : List User} (hranked : Rankable ranked) (moves : List Move) :
    Counted (looked moves) (total moves) (run ranked moves) := by
  induction moves using List.reverseRecOn with
  | nil => exact .start
  | append_singleton earlier move ih => exact ih.move hranked move

/-- How a site answers that has counted so far, and what becomes of its count. -/
structure Serves (ranked : List User) (front back : String) (seen : Bool) (count : Int)
    (site : Site Part Count) : Prop where
  /-- the count is what was counted -/
  counts : site.press.session.state = .whole count
  /-- the page shows the count, between two parts that never change, and leaves it as it is -/
  shows : ∃ after, answer .standard ranked Move.look.request site =
      (pageShowing count (front ++ counterMarkup count ++ back), after) ∧
    after.press.session.state = .whole count
  /-- before the first page, clicks are refused and change nothing -/
  early : seen = false → ∀ body step, saidStep? body = some step →
    answer .standard ranked (siteRoute.post buttonTarget body) site =
      (.ok (.refusal 404 "Container \"counter\" not found"), site)
  /-- after it, every click adds its step and is answered with the new count -/
  clicked : seen = true → ∀ body step, saidStep? body = some step →
    ∃ after, answer .standard ranked (siteRoute.post buttonTarget body) site =
        (pageShowing (count + step) (countMarkup (count + step)), after) ∧
      after.press.session.state = .whole (count + step)
  /-- the container of the counter has one handler, for clicks on the button -/
  listens : seen = true → ∃ container,
    site.surface.resolve (.value (.str counterKey)) = .ok (0, container) ∧
      container.listeners = [(buttonId, [("click", [increment])])]
  /-- other ids and events change nothing -/
  ignores : ∀ target body, ¬ (target.id = buttonId ∧ target.event = "click") →
    (answer .standard ranked (siteRoute.post target body) site).2 = site
  /-- there is nothing at them -/
  refuses : ∀ target body, ¬ (target.id = buttonId ∧ target.event = "click") →
    target.Addressable → (payload body : Except (BodyFault Part) Val).isOk →
    ∃ reason, answer .standard ranked (siteRoute.post target body) site =
      (.ok (.refusal 404 reason), site)
  /-- names that cannot stand in a path lead nowhere, or away with another slash -/
  misses : ∀ target body, ¬ target.Addressable →
    answer .standard ranked (siteRoute.post target body) site = (.ok .notFound, site) ∨
      answer .standard ranked (siteRoute.post target body) site = (.ok .elsewhere, site)

/-- After any moves of its visitors, the site has counted every accepted click once, and goes on
to do so. It shows the count as long as that can be written. -/
theorem clicks_counted {ranked : List User} (hranked : Rankable ranked) :
    ∃ front back, ∀ moves : List Move,
      Serves ranked front back (looked moves) (total moves) (run ranked moves) := by
  obtain ⟨front, back, hpage⟩ := exists_pageAround hranked
  refine ⟨front, back, fun moves => ?_⟩
  have hcounted := counted_run hranked moves
  refine ⟨hcounted.counts, ?_, ?_, ?_, ?_, ?_, ?_, ?_⟩
  · obtain ⟨after, hanswer, hafter⟩ := hcounted.look ranked hpage
    exact ⟨after, hanswer, hafter.counts⟩
  · intro hseen body step hsaid
    rw [hseen] at hcounted
    exact hcounted.early ranked hsaid
  · intro hseen body step hsaid
    rw [hseen] at hcounted
    obtain ⟨after, hanswer, hafter⟩ := hcounted.click ranked hsaid
    exact ⟨after, hanswer, hafter.counts⟩
  · intro hseen
    rw [hseen] at hcounted
    exact hcounted.holds.resolve_button
  · exact fun target body hother => (hcounted.stray ranked hother body).1
  · exact fun target body hother => (hcounted.stray ranked hother body).2
  · intro target body hnot
    rw [answer_siteRoute]
    exact misses_of_not_addressable Part.behaviour siteRoute hnot body _

theorem rankable_users : Rankable users where
  points := by decide +kernel
  ranks := by decide +kernel

/-- A click comes too early, and the page is asked for twice. -/
def twoLooks : List Move :=
  [.click none 1 rfl, .look,
    .click (some "\x7b\"detail\": \x7b\"step\": 3\x7d\x7d") 3 (by decide +kernel), .look]

theorem clicks_counted_twoLooks :
    Rankable users ∧ looked twoLooks = true ∧ total twoLooks = 3 ∧ ∃ after,
      answer .standard users (siteRoute.post buttonTarget none) (run users twoLooks) =
        (.ok (.page 200 "<span id=\"count\">4</span>"), after) := by
  have hlooked : looked twoLooks = true := rfl
  have htotal : total twoLooks = 3 := by decide
  have hmarkup : countMarkup (3 + 1) = "<span id=\"count\">4</span>" := by decide +kernel
  obtain ⟨front, back, hserves⟩ := clicks_counted rankable_users
  obtain ⟨after, hanswer, -⟩ := (hserves twoLooks).clicked hlooked none 1 rfl
  rw [htotal, pageShowing_of_writable (by decide +kernel), hmarkup] at hanswer
  exact ⟨rankable_users, hlooked, htotal, after, hanswer⟩

/-! ## Counts that are too long -/

theorem digitsValue_nines (k : Nat) :
    Decimal.digitsValue 0 (List.replicate k '9') + 1 = Decimal.power 10 k := by
  induction k with
  | zero => rfl
  | succ k ih =>
      have hlast : Decimal.digitsValue 0 (List.replicate (k + 1) '9') =
          10 * Decimal.digitsValue 0 (List.replicate k '9') + 9 := by
        unfold Decimal.digitsValue
        rw [List.replicate_succ', List.foldl_append]
        rfl
      have hpower : Decimal.power 10 (k + 1) = Decimal.power 10 k * 10 := rfl
      omega

/-- A click can say every step whose digits may be read. -/
theorem saidStep?_stepBody {first : Char} {more : List Char} (h : Json.IsNumeral first more)
    (hshort : more.length < Decimal.longest) :
    saidStep? (some (stepBody (first :: more))) = some (Decimal.digitsValue 0 (first :: more)) := by
  unfold saidStep?
  rw [payload_stepBody h hshort]
  rfl

/-- The highest step of so many digits. -/
theorem saidStep?_nines {k : Nat} (h : k < Decimal.longest) :
    saidStep? (some (stepBody (List.replicate (k + 1) '9'))) =
      some ((Decimal.power 10 (k + 1) : Int) - 1) := by
  have hnumeral : Json.IsNumeral '9' (List.replicate k '9') := by
    refine ⟨fun c hc => ?_, fun hzero => absurd hzero (by decide)⟩
    rw [← List.replicate_succ] at hc
    rw [List.eq_of_mem_replicate hc]
    decide
  have hvalue : (Decimal.digitsValue 0 (List.replicate (k + 1) '9') : Int) =
      Decimal.power 10 (k + 1) - 1 := by
    have hnext := digitsValue_nines (k + 1)
    omega
  calc saidStep? (some (stepBody (List.replicate (k + 1) '9')))
      = some (Decimal.digitsValue 0 (List.replicate (k + 1) '9') : Int) :=
        saidStep?_stepBody hnumeral (by rw [List.length_replicate]; exact h)
    _ = some ((Decimal.power 10 (k + 1) : Int) - 1) := by rw [hvalue]

theorem isWritable_power : Decimal.isWritable (Decimal.power 10 Decimal.longest) = false := by
  unfold Decimal.isWritable
  rw [Int.natAbs_natCast]
  exact decide_eq_false (Nat.lt_irrefl _)

theorem total_look_click {body : Option String} {step : Int} (said : saidStep? body = some step) :
    total [.look, .click body step said] = step :=
  Int.add_zero step

/-- The page is asked for, and a click says the highest step that may be read. -/
def longClick : List Move :=
  [.look, .click _ _ (saidStep?_nines (by decide : 4299 < Decimal.longest))]

/-- The next click is counted, but neither the answer to it nor the page can be written then. And
an event with a slash at its end is sent on, not refused. -/
theorem click_unanswered :
    (∃ after later,
      answer .standard users (siteRoute.post buttonTarget none) (run users longClick) =
        (.error .tooManyDigits, after) ∧
      after.press.session.state = .whole (Decimal.power 10 Decimal.longest) ∧
      answer .standard users Move.look.request after = (.error .tooManyDigits, later)) ∧
    answer .standard users (siteRoute.post ⟨counterKey, buttonId, "click/"⟩ none)
      (run users [.look]) = (.ok .elsewhere, run users [.look]) := by
  have hcounted : Counted true (total longClick) (run users longClick) :=
    counted_run rankable_users longClick
  have htotal : total longClick + 1 = Decimal.power 10 Decimal.longest := by
    rw [longClick, total_look_click]
    exact Int.sub_add_cancel _ _
  have hlong : Decimal.isWritable (total longClick + 1) = false := by
    rw [htotal]
    exact isWritable_power
  -- one more than so many nines is the first number that is too long
  obtain ⟨front, back, hpage⟩ := exists_pageAround rankable_users
  obtain ⟨after, hclicked, hafter⟩ := hcounted.click users (show saidStep? none = some 1 from rfl)
  obtain ⟨later, hlooked, -⟩ := hafter.look users hpage
  rw [pageShowing_of_not_writable hlong] at hclicked hlooked
  -- the path of the other event leads nowhere, but it would without its last slash
  have hslash : ¬ (⟨counterKey, buttonId, "click/"⟩ : Target).Addressable := fun h =>
    absurd h.event (by decide)
  have hother : isElsewhere (fun path => (siteRoute.destination? path).isSome)
      (siteRoute.pathOf ⟨counterKey, buttonId, "click/"⟩) = true := by
    decide +kernel
  refine ⟨⟨after, later, hclicked, ?_, hlooked⟩, ?_⟩
  · rw [hafter.counts, htotal]
  · rw [answer_siteRoute]
    unfold EventRoute.answer post
    dsimp only
    rw [destination?_pathOf_eq_none siteRoute hslash]
    dsimp only
    rw [if_pos hother]
    rfl

end Leaderboard
end MarkupTree
