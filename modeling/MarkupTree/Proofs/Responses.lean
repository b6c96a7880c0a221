import MarkupTree.Proofs.Delivery
import MarkupTree.Proofs.Depth
import MarkupTree.Proofs.Grouping

/-!
# Responses — what handlers answer, side by side

A post renders what the handlers answered as one fragment. What stands in a fragment is rendered
side by side, each one level deeper than it would be on its own. So the response is the renderings
of the single answers one after another, as long as none of them needs all levels that there are.

* `Renderer.html_fragment` takes a fragment apart into fragments of one element.
* `Renderer.html_single_cutsOff` compares an element on its own with a fragment of it.
* `EventRoute.post_concatenates` says when a response is the concatenation.
-/

namespace MarkupTree

variable {C σ : Type}

theorem CutsOff.mapM {α β : Type} {limit : Nat} {f g : α → Attempt (Press σ) C β}
    (h : ∀ a, CutsOff limit (f a) (g a)) (as : List α) :
    CutsOff limit (as.mapM f) (as.mapM g) := by
  induction as with
  | nil => exact .refl limit _
  | cons a rest ih =>
      rw [List.mapM_cons, List.mapM_cons]
      exact .bind (h a) fun b => .bind ih fun bs => .refl limit _

namespace Renderer

/-! ## A fragment and what stands in it -/

/-- The markup of what a visitor finds. -/
def markupFrom (visitor : Attempt (Press σ) C (Visited C)) : Attempt (Press σ) C String := do
  let forest ← visitor
  return forest.markup

theorem markupFrom_apply (visitor : Attempt (Press σ) C (Visited C)) (press : Press σ) :
    markupFrom visitor press = ((visitor press).1.map Visited.markup, (visitor press).2) :=
  Attempt.map_apply visitor Visited.markup press

theorem map_markup_append (first : Visited C) (answer : Except (Fault C) (Visited C)) :
    (answer.map (first ++ ·)).map Visited.markup =
      (answer.map Visited.markup).map (first.markup ++ ·) := by
  cases answer with
  | error fault => rfl
  | ok others => exact congrArg _ (Visited.markup_append first others)

theorem map_join_cons (first : String) (answer : Except (Fault C) (List String)) :
    (answer.map String.join).map (first ++ ·) = (answer.map (first :: ·)).map String.join := by
  cases answer with
  | error fault => rfl
  | ok markups => exact congrArg _ String.join_cons.symm

/-- What is visited one after another is printed side by side. -/
theorem markupFrom_visitEach (visitor : Value C → Attempt (Press σ) C (Visited C))
    (vs : List (Value C)) (press : Press σ) :
    markupFrom (visitEach visitor vs) press =
      ((vs.mapM (fun v => markupFrom (visitor v)) press).1.map String.join,
        (vs.mapM (fun v => markupFrom (visitor v)) press).2) := by
  induction vs generalizing press with
  | nil => rfl
  | cons v rest ih =>
      have hfirst := markupFrom_apply (visitor v) press
      rw [markupFrom_apply]
      cases hvisit : visitor v press with
      | mk answer press₁ =>
          rw [hvisit] at hfirst
          cases answer with
          | error fault =>
              -- nothing behind the fault is visited
              rw [visitEach, Attempt.bind_apply_error hvisit, List.mapM_cons,
                Attempt.bind_apply_error hfirst]
              rfl
          | ok first =>
              have hrest := ih press₁
              rw [markupFrom_apply] at hrest
              rw [visitEach, Attempt.bind_apply_ok hvisit, Attempt.map_apply,
                Attempt.mapM_cons_apply _ v rest hfirst]
              obtain ⟨hanswer, hpress⟩ := Prod.mk.inj hrest
              refine Prod.ext ?_ hpress
              calc ((visitEach visitor rest press₁).1.map (first ++ ·)).map Visited.markup
                  = ((visitEach visitor rest press₁).1.map Visited.markup).map
                      (first.markup ++ ·) := map_markup_append first _
                _ = ((rest.mapM (fun v => markupFrom (visitor v)) press₁).1.map
                      String.join).map (first.markup ++ ·) := by rw [hanswer]
                _ = ((rest.mapM (fun v => markupFrom (visitor v)) press₁).1.map
                      (first.markup :: ·)).map String.join := map_join_cons first.markup _

theorem html_eq_markupFrom (B : Behaviour C σ) (settings : Settings) (elements : List (Value C)) :
    html B settings elements = markupFrom (visitAll B Press.readStored settings elements) := by
  funext press
  rw [markupFrom_apply]
  exact Prod.ext (html_answer B settings elements press)
    (Press.html_press B settings elements press)

/-- What stands in a fragment is visited with one level less than a fragment. -/
theorem visitAll_fragment (B : Behaviour C σ) (settings : Settings) (vs : List (Value C)) :
    visitAll B Press.readStored settings [.list (.str ":<>" :: vs)] =
      visitEach (visit B Press.readStored settings.maxDepth settings.maxDepth) vs := by
  funext press
  exact visit_group B settings.maxDepth settings.maxDepth (.fragment .list)
    (by simp [Brackets.source?_around])

/-- A fragment is rendered as the fragments of its single children are, one after another. -/
theorem html_fragment (B : Behaviour C σ) (settings : Settings) (vs : List (Value C))
    (press : Press σ) :
    html B settings [.list (.str ":<>" :: vs)] press =
      ((vs.mapM (fun v => html B settings [.list [.str ":<>", v]]) press).1.map String.join,
        (vs.mapM (fun v => html B settings [.list [.str ":<>", v]]) press).2) := by
  simp only [html_eq_markupFrom, visitAll_fragment, visitEach_singleton]
  exact markupFrom_visitEach _ vs press

/-- In a fragment of its own, an element is rendered as it is without, or it is cut off. -/
theorem html_single_cutsOff (B : Behaviour C σ) (settings : Settings) (v : Value C) :
    CutsOff settings.maxDepth (html B settings [.list [.str ":<>", v]])
      (html B settings [v]) := by
  simp only [html_eq_markupFrom, visitAll_fragment, visitEach_singleton]
  exact .bind (visit_cutsOff B Press.readStored _ _ (Nat.le_succ _) v) fun _ => .refl _ _

/-- One level to spare is enough for a fragment. -/
theorem html_cutsOff_single (B : Behaviour C σ) {settings shallower : Settings}
    (h : shallower.maxDepth < settings.maxDepth) (v : Value C) :
    CutsOff shallower.maxDepth (html B shallower [v])
      (html B settings [.list [.str ":<>", v]]) := by
  simp only [html_eq_markupFrom, visitAll_fragment, visitEach_singleton]
  exact .bind (visit_cutsOff B Press.readStored _ _ h v) fun _ => .refl _ _

end Renderer

namespace EventRoute

open Attempt

/-! ## The response to a post -/

theorem sent_ne_tooDeep (markup : String) (limit : Nat) :
    (sent markup : Except (Fault C) Reply) ≠ .error (.tooDeep limit) := by
  rcases sent_cases (C := C) markup with hcut | hpage
  · rw [hcut]
    exact fun heq => by cases heq
  · rw [hpage]
    exact fun heq => by cases heq

section Post

variable (B : Behaviour C σ) (route : EventRoute) (press : Press σ) {s : Surface C}
  {press' : Press σ} {target : Target} {body : Option String} {v : Value C} {handle : Nat}
  {container : Container C} {answers values : List (Value C)} {s₁ s₂ : Session σ}
  {markups : List String}

/-- Once there are values of all handlers, a post sends what their fragment is rendered to. -/
theorem answer_of_values (haddressable : target.Addressable) (hbody : payload body = .ok v)
    (hresolve : s.resolve target.reference = .ok (handle, container))
    (hbound : container.handlers target.id target.event ≠ [])
    (hcalls : Series (fun f => Session.callHandler B f v)
      (container.handlers target.id target.event) press.session (.ok answers) s₁)
    (hawaits : Series (Session.await B) answers s₁ (.ok values) s₂) :
    answer B route (route.post target body) ⟨s, press⟩ =
      match Renderer.html B route.settings [.list (.str ":<>" :: present values)]
          (delivering press target container.key s₂) with
      | (.error fault, press') => (.error fault, ⟨s, press'⟩)
      | (.ok markup, press') => (sent markup, ⟨s, press'⟩) := by
  have hcall : call B (container.handlers target.id target.event) v press.session =
      (.ok values, s₂) := by
    unfold call
    rw [bind_apply_ok (series_iff.1 hcalls)]
    exact series_iff.1 hawaits
  have hfire := fire_of_bound B route v press hresolve hbound
  rw [hcall] at hfire
  exact (answer_post B route haddressable hbody ⟨s, press⟩).trans hfire

/-- If the values that are not `null` are rendered without a fault one after another, each on its
own, the response is their markup side by side exactly if each of them is also rendered in a
fragment of its own, as it is whenever the limit leaves one level to spare. Otherwise the response
is one level too deep. -/
theorem post_concatenates (haddressable : target.Addressable) (hbody : payload body = .ok v)
    (hresolve : s.resolve target.reference = .ok (handle, container))
    (hbound : container.handlers target.id target.event ≠ [])
    (hcalls : Series (fun f => Session.callHandler B f v)
      (container.handlers target.id target.event) press.session (.ok answers) s₁)
    (hawaits : Series (Session.await B) answers s₁ (.ok values) s₂)
    (halone : Series (fun r => Renderer.html B route.settings [r]) (present values)
      (delivering press target container.key s₂) (.ok markups) press') :
    (answer B route (route.post target body) ⟨s, press⟩ =
        (sent (String.join markups), ⟨s, press'⟩) ↔
      Series (fun r => Renderer.html B route.settings [.list [.str ":<>", r]]) (present values)
        (delivering press target container.key s₂) (.ok markups) press') ∧
    (¬ Series (fun r => Renderer.html B route.settings [.list [.str ":<>", r]]) (present values)
        (delivering press target container.key s₂) (.ok markups) press' →
      (answer B route (route.post target body) ⟨s, press⟩).1 =
        .error (.tooDeep route.settings.maxDepth)) ∧
    ∀ shallower : Settings, shallower.maxDepth < route.settings.maxDepth →
      ∀ others press'', Series (fun r => Renderer.html B shallower [r]) (present values)
        (delivering press target container.key s₂) (.ok others) press'' →
      answer B route (route.post target body) ⟨s, press⟩ =
        (sent (String.join markups), ⟨s, press'⟩) := by
  rw [answer_of_values B route press haddressable hbody hresolve hbound hcalls hawaits,
    Renderer.html_fragment]
  have hcut := CutsOff.mapM (Renderer.html_single_cutsOff B route.settings) (present values)
    (delivering press target container.key s₂)
  rw [series_iff.1 halone] at hcut
  rw [series_iff]
  cases hfragments : (present values).mapM
      (fun r => Renderer.html B route.settings [.list [.str ":<>", r]])
      (delivering press target container.key s₂) with
  | mk found press₁ =>
      rw [hfragments] at hcut
      rcases hcut with hdeep | hsame
      · -- some value needs all levels, so it is cut off in a fragment
        have hfound : found = .error (.tooDeep route.settings.maxDepth) := hdeep
        subst hfound
        refine ⟨⟨fun heq => ?_, fun heq => by cases heq⟩, fun _ => rfl, ?_⟩
        · exact absurd (congrArg Prod.fst heq).symm (sent_ne_tooDeep _ _)
        · intro shallower hlt others press'' hshallow
          have hspare := CutsOff.mapM (Renderer.html_cutsOff_single B hlt) (present values)
            (delivering press target container.key s₂)
          rw [series_iff.1 hshallow, hfragments] at hspare
          rcases hspare with hfault | hsame
          · cases hfault
          · cases hsame
      · cases hsame
        exact ⟨⟨fun _ => rfl, fun _ => rfl⟩, fun hne => absurd rfl hne, fun _ _ _ _ _ => rfl⟩

end Post

/-! ## A text, nothing and a tag -/

/-- Code answers with nothing, with a text, or with a tag. -/
def replying : Behaviour Nat Unit := fun code _ _ state =>
  ⟨.ok (match code with
    | 0 => .null
    | 1 => .str "div"
    | _ => .list [.str "p", .str "x"]), [], state⟩

def replyingHandler (code : Nat) (deferred : Bool) : Callable (Value Nat) Nat :=
  ⟨"handler", false, none, deferred, code⟩

def replyingContainer (handlers : List (Callable (Value Nat) Nat)) : Container Nat :=
  ⟨"app", "", [("x", [("click", handlers)])]⟩

def replyingSite (handlers : List (Callable (Value Nat) Nat)) : Site Nat Unit :=
  ⟨⟨[replyingContainer handlers], [("app", 0)]⟩, .start 10 ()⟩

def replyingTarget : Target :=
  ⟨"app", "x", "click"⟩

/-- The first handler answers later, and the second with nothing. -/
def threeHandlers : List (Callable (Value Nat) Nat) :=
  [replyingHandler 1 true, replyingHandler 0 false, replyingHandler 2 false]

/-- What the three handlers answer at once, and what is there when it was awaited. -/
def threeAnswers : List (Value Nat) :=
  [.pending (replyingHandler 1 true) ⟨[("", .payload [])], []⟩, .null,
    .list [.str "p", .str "x"]]

def threeValues : List (Value Nat) :=
  [.str "div", .null, .list [.str "p", .str "x"]]

theorem post_concatenates_threeHandlers :
    replyingTarget.Addressable ∧ payload none = .ok (.payload [] : Value Nat) ∧
      (replyingSite threeHandlers).surface.resolve replyingTarget.reference =
        .ok (0, replyingContainer threeHandlers) ∧
      (replyingContainer threeHandlers).handlers "x" "click" ≠ [] ∧
      ∃ session press',
        Series (fun f => Session.callHandler replying f (.payload []))
          ((replyingContainer threeHandlers).handlers "x" "click") (Session.start ())
          (.ok threeAnswers) session ∧
        Series (Session.await replying) threeAnswers session (.ok threeValues) session ∧
        Series (fun r => Renderer.html replying .standard [r]) (present threeValues)
          (delivering (.start 10 ()) replyingTarget "app" session) (.ok ["div", "<p>x</p>"])
          press' ∧
        answer replying ⟨"/__hiccpy", .standard⟩
            (post ⟨"/__hiccpy", .standard⟩ replyingTarget none) (replyingSite threeHandlers) =
          (.ok (.page 200 "div<p>x</p>"), ⟨(replyingSite threeHandlers).surface, press'⟩) := by
  have haddressable : replyingTarget.Addressable := ⟨by decide, by decide, by decide⟩
  have hbody : payload none = .ok (.payload [] : Value Nat) := rfl
  have hresolve : (replyingSite threeHandlers).surface.resolve replyingTarget.reference =
      .ok (0, replyingContainer threeHandlers) := rfl
  have hbound : (replyingContainer threeHandlers).handlers "x" "click" ≠ [] := by
    rw [show (replyingContainer threeHandlers).handlers "x" "click" = threeHandlers from rfl]
    exact List.cons_ne_nil _ _
  have hcalls : Series (fun f => Session.callHandler replying f (.payload []))
      ((replyingContainer threeHandlers).handlers "x" "click") (Session.start ())
      (.ok threeAnswers) ⟨[], ["handler", "handler", "handler"], ()⟩ :=
    series_iff.2 rfl
  have hawaits : Series (Session.await replying) threeAnswers
      ⟨[], ["handler", "handler", "handler"], ()⟩ (.ok threeValues)
      ⟨[], ["handler", "handler", "handler"], ()⟩ :=
    series_iff.2 rfl
  have halone : ((present threeValues).mapM (fun r => Renderer.html replying .standard [r])
      (delivering (.start 10 ()) replyingTarget "app"
        ⟨[], ["handler", "handler", "handler"], ()⟩)).1.toOption = some ["div", "<p>x</p>"] := by
    decide +kernel
  have hshallow : ((present threeValues).mapM
      (fun r => Renderer.html replying (.withDepth .standard 1 (by decide)) [r])
      (delivering (.start 10 ()) replyingTarget "app"
        ⟨[], ["handler", "handler", "handler"], ()⟩)).1.toOption = some ["div", "<p>x</p>"] := by
    decide +kernel
  have hseries := series_iff.2 (apply_eq_of_toOption halone)
  obtain ⟨-, -, hspare⟩ := post_concatenates replying ⟨"/__hiccpy", .standard⟩
    (.start 10 ()) haddressable hbody hresolve hbound hcalls hawaits hseries
  have hanswer := hspare (.withDepth .standard 1 (by decide)) (by decide) _ _
    (series_iff.2 (apply_eq_of_toOption hshallow))
  have hsent : (sent (String.join ["div", "<p>x</p>"]) : Except (Fault Nat) Reply) =
      .ok (.page 200 "div<p>x</p>") := by
    unfold sent
    rw [show String.join ["div", "<p>x</p>"] = "div<p>x</p>" by decide,
      show Text.holdsHalf "div<p>x</p>" = false by decide +kernel]
    rfl
  rw [hsent] at hanswer
  exact ⟨haddressable, hbody, hresolve, hbound, _, _, hcalls, hawaits, hseries, hanswer⟩

/-- An answer that needs all levels that there are is rendered on its own, but not as a
response. -/
theorem post_cut_off :
    (Renderer.html replying (.withDepth .standard 1 (by decide)) [.list [.str "p", .str "x"]]
        (.start 10 ())).1.toOption = some "<p>x</p>" ∧
      ∃ fault, (answer replying ⟨"/__hiccpy", .withDepth .standard 1 (by decide)⟩
          (post ⟨"/__hiccpy", .withDepth .standard 1 (by decide)⟩ replyingTarget none)
          (replyingSite [replyingHandler 2 false])).1 = .error fault ∧
        fault.code = some "MAX_DEPTH_EXCEEDED" := by
  refine ⟨by decide +kernel, ?_⟩
  have hcode : (match (answer replying ⟨"/__hiccpy", .withDepth .standard 1 (by decide)⟩
      (post ⟨"/__hiccpy", .withDepth .standard 1 (by decide)⟩ replyingTarget none)
      (replyingSite [replyingHandler 2 false])).1 with
    | .error fault => fault.code
    | .ok _ => none) = some "MAX_DEPTH_EXCEEDED" := by
    decide +kernel
  split at hcode
  · next fault hanswer => exact ⟨fault, hanswer, hcode⟩
  · cases hcode

end EventRoute
end MarkupTree
