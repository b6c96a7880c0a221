import Mathlib.Data.List.Nodup
import Mathlib.Data.List.Perm.Subperm
import MarkupTree.Proofs.Positions

/-!
# Depth — what a limit on nesting cuts off

Every level of nesting takes one away from the levels that are left, and so does the result of a
component. A limit therefore ends what would go on without end, and changes nothing else.

* `CutsOff` relates a computation under a limit to one under a higher limit.
* `callsOnPath` are the calls of components on the way to one place.
* `Endless` elements lead from call to call and never come to an end by themselves.
* `Renderer.depth_limit_cuts_off` says what a limit does to renderings.
-/

namespace MarkupTree

variable {C σ : Type}

/-! ## Two limits -/

/-- Whatever a computation comes to, it comes to the same as another one, or it is cut off by the
limit. -/
def CutsOff {α : Type} (limit : Nat) (m m' : Attempt (Press σ) C α) : Prop :=
  ∀ press, (m press).1 = .error (.tooDeep limit) ∨ m press = m' press

theorem CutsOff.refl {α : Type} (limit : Nat) (m : Attempt (Press σ) C α) : CutsOff limit m m :=
  fun _ => Or.inr rfl

theorem CutsOff.bind {α β : Type} {limit : Nat} {m m' : Attempt (Press σ) C α}
    {f f' : α → Attempt (Press σ) C β} (hm : CutsOff limit m m')
    (hf : ∀ a, CutsOff limit (f a) (f' a)) : CutsOff limit (m >>= f) (m' >>= f') := by
  intro press
  rcases hm press with hdeep | hsame
  · exact Or.inl (Attempt.fst_bind_of_error hdeep f)
  · rw [Attempt.bind_apply, Attempt.bind_apply, hsame]
    cases m' press with
    | mk answer press₁ =>
        cases answer with
        | error fault => exact Or.inr rfl
        | ok a => exact hf a press₁

theorem CutsOff.closed (limit : Nat) :
    Attempt.Closed (σ := σ) (C := C) (fun m m' => CutsOff limit m m') :=
  ⟨fun _ => .refl limit _, fun _ => .refl limit _, .bind⟩

namespace Renderer

/-- A visit with fewer levels left comes to the same, or it is cut off. -/
theorem visit_cutsOff (B : Behaviour C σ) (read : SelectorReading C σ) (limit limit' : Nat)
    {levels levels' : Nat} (h : levels ≤ levels') (v : Value C) :
    CutsOff limit (visit B read limit levels v) (visit B read limit' levels' v) := by
  induction levels generalizing levels' v with
  | zero => exact fun _ => Or.inl rfl
  | succ levels ih =>
      cases levels' with
      | zero => omega
      | succ levels' =>
          have hlevels : levels ≤ levels' := Nat.le_of_succ_le_succ h
          have hclosed := CutsOff.closed (C := C) (σ := σ) limit
          apply CutsOff.bind (.refl limit _)
          intro shape
          -- everything nested is one level down in both visits
          cases shape with
          | skip => exact .refl limit _
          | text v => exact .refl limit _
          | markup v html => exact .refl limit _
          | items vs => exact visitEach_related hclosed (ih hlevels) vs
          | stream source vs =>
              exact .bind (.refl limit _) fun vs => visitEach_related hclosed (ih hlevels) vs
          | fragment children => exact visitEach_related hclosed (ih hlevels) children
          | component f props children => exact .bind (.refl limit _) fun v => ih hlevels v
          | tag selector given children =>
              exact visitTag_related hclosed (fun _ => .refl limit _)
                (visitEach_related hclosed (ih hlevels) children) selector given

end Renderer

/-- The same settings with another depth limit. -/
def Settings.withDepth (settings : Settings) (d : Nat) (h : 1 ≤ d) : Settings :=
  { settings with maxDepth := d, one_le_maxDepth := h }

namespace Renderer

variable (B : Behaviour C σ) (settings : Settings) (elements : List (Value C))

theorem visitAll_cutsOff (deeper : Settings) (h : settings.maxDepth ≤ deeper.maxDepth) :
    CutsOff settings.maxDepth (visitAll B Press.readStored settings elements)
      (visitAll B Press.readStored deeper elements) :=
  visit_cutsOff B Press.readStored settings.maxDepth deeper.maxDepth (Nat.succ_le_succ h)
    (root elements)

theorem html_cutsOff (deeper : Settings) (h : settings.maxDepth ≤ deeper.maxDepth) :
    CutsOff settings.maxDepth (html B settings elements) (html B deeper elements) := by
  intro press
  rw [html_answer, html_eq, html_eq]
  rcases visitAll_cutsOff B settings elements deeper h press with hdeep | hsame
  · rw [hdeep]
    exact Or.inl rfl
  · rw [hsame]
    exact Or.inr rfl

theorem render_cutsOff (deeper : Settings) (h : settings.maxDepth ≤ deeper.maxDepth)
    (hstem : settings.idStem = deeper.idStem) :
    CutsOff settings.maxDepth (render B settings elements) (render B deeper elements) := by
  intro press
  rw [render_answer, render_eq, render_eq, hstem]
  rcases visitAll_cutsOff B settings elements deeper h press with hdeep | hsame
  · rw [hdeep]
    exact Or.inl rfl
  · rw [hsame]
    exact Or.inr rfl

/-- The limit is not what ends this rendering: under any higher limit it comes to the same. -/
def WithinDepth (press : Press σ) : Prop :=
  ∀ deeper : Settings, settings.maxDepth ≤ deeper.maxDepth →
    html B deeper elements press = html B settings elements press

variable {B settings elements}

/-- A rendering that does not fail for its depth is not ended by the limit. -/
theorem withinDepth_of_ne {press : Press σ}
    (h : (html B settings elements press).1 ≠ .error (.tooDeep settings.maxDepth)) :
    WithinDepth B settings elements press := by
  intro deeper hle
  rcases html_cutsOff B settings elements deeper hle press with hdeep | hsame
  · exact absurd hdeep h
  · exact hsame.symm

theorem html_answer_eq_error_iff {press : Press σ} {fault : Fault C} :
    (html B settings elements press).1 = .error fault ↔
      (visitAll B Press.readStored settings elements press).1 = .error fault := by
  rw [html_answer]
  cases (visitAll B Press.readStored settings elements press).1 <;> simp [Except.map]

theorem WithinDepth.visitAll_eq {press : Press σ} (h : WithinDepth B settings elements press)
    {deeper : Settings} (hle : settings.maxDepth ≤ deeper.maxDepth) :
    visitAll B Press.readStored deeper elements press =
      visitAll B Press.readStored settings elements press := by
  rcases visitAll_cutsOff B settings elements deeper hle press with hdeep | hsame
  · -- the fault is the same under the higher limit, so it is not a fault of the depth there
    have hhtml := h deeper hle
    have hfault := html_answer_eq_error_iff.2 hdeep
    rw [← hhtml, html_answer_eq_error_iff] at hfault
    refine Prod.ext (hfault.trans hdeep.symm) ?_
    rw [← Press.html_press, ← Press.html_press, hhtml]
  · exact hsame.symm

end Renderer

/-! ## Calls on the way to a place -/

/-- Where a component is called. -/
def Event.callPlace? : Event C σ → Option Place
  | .called place _ => some place
  | _ => none

/-- The places on the way to this one where a component is called, from the outside in. -/
def callsOnPath (path : Place) (events : List (Event C σ)) : List Place :=
  (events.filterMap Event.callPlace?).filter (·.isPrefixOf path)

namespace Meaning

/-- Components are called only in places that are less deep than this. -/
def CallsAbove (depth : Nat) (m : Meaning C σ) : Prop :=
  ∀ s, ∀ e ∈ (m s).1, ∀ place ∈ e.callPlace?, place.length < depth

namespace CallsAbove

variable {depth : Nat} {m n : Meaning C σ}

theorem nothing : CallsAbove depth (nothing : Meaning C σ) := by
  intro s e he
  cases he

theorem written (markup : String) : CallsAbove depth (written markup : Meaning C σ) := by
  intro s e he place hplace
  rw [List.mem_singleton.1 he] at hplace
  cases hplace

theorem faulty (place : Place) (faults : List (Fault C)) :
    CallsAbove depth (faulty place faults : Meaning C σ) := by
  intro s e he place hplace
  rcases List.mem_map.1 he with ⟨fault, -, rfl⟩
  cases hplace

theorem andThen (hm : CallsAbove depth m) (hn : CallsAbove depth n) :
    CallsAbove depth (m.andThen n) := by
  intro s e he
  rcases List.mem_append.1 he with he | he
  · exact hm s e he
  · exact hn _ e he

theorem each {item : Place → Value C → Meaning C σ} {place : Place}
    (h : ∀ n v, CallsAbove depth (item (place ++ [n]) v)) (n : Nat) (vs : List (Value C)) :
    CallsAbove depth (each item place n vs) := by
  induction vs generalizing n with
  | nil => exact nothing
  | cons v rest ih => exact (h n v).andThen (ih (n + 1))

theorem drawn (source : Nat) (vs : List (Value C)) {items : List (Value C) → Meaning C σ}
    (h : ∀ vs, CallsAbove depth (items vs)) : CallsAbove depth (drawn source vs items) := by
  intro s
  unfold Meaning.drawn
  split
  · exact h [] s
  · exact h vs _

theorem call (B : Behaviour C σ) {place : Place} (hplace : place.length < depth)
    (f : Callable (Value C) C) (props : Entries C) (children : List (Value C))
    {result : Value C → Meaning C σ} (h : ∀ v, CallsAbove depth (result v)) :
    CallsAbove depth (call B place f props children result) := by
  unfold Meaning.call
  cases Session.propsWithChildren f props children with
  | error fault => exact faulty place [fault]
  | ok props =>
      dsimp only
      cases Session.bindProps f props with
      | none => exact faulty place [.badArguments]
      | some args =>
          have hanswer : ∀ answer, CallsAbove depth (answered place result answer) := by
            intro answer
            cases answer with
            | error fault => exact faulty place [fault]
            | ok v => exact h v
          intro s e he place' hplace'
          rcases List.mem_cons.1 he with rfl | he
          · cases hplace'
            exact hplace
          · exact hanswer _ _ e he place' hplace'

theorem tag (t : TagVisit C) (h : CallsAbove depth m) : CallsAbove depth (tag t m) := by
  unfold Meaning.tag
  split
  · exact written _
  · refine (written _).andThen (andThen ?_ (written _))
    split
    · exact written _
    · exact h

end CallsAbove
end Meaning

/-- With so many levels left, no component is called deeper than they reach. -/
theorem meaning_callsAbove (B : Behaviour C σ) (limit levels : Nat) (place : Place)
    (v : Value C) :
    (meaning B limit levels place v).CallsAbove (place.length + levels) := by
  induction levels generalizing place v with
  | zero => exact Meaning.CallsAbove.faulty place _
  | succ levels ih =>
      -- a place inside is one step longer, and one level less is left there
      have hdeeper : ∀ n v, (meaning B limit levels (place ++ [n]) v).CallsAbove
          (place.length + (levels + 1)) := by
        intro n v
        have hitem := ih (place ++ [n]) v
        rw [List.length_append, List.length_singleton, Nat.add_assoc, Nat.add_comm 1] at hitem
        exact hitem
      have hitems : ∀ vs, (Meaning.each (meaning B limit levels) place 0 vs).CallsAbove
          (place.length + (levels + 1)) := Meaning.CallsAbove.each hdeeper 0
      unfold meaning
      split
      · cases v.presentShape with
        | skip => exact Meaning.CallsAbove.nothing
        | text v => exact Meaning.CallsAbove.written _
        | markup v html => exact Meaning.CallsAbove.written html
        | items vs => exact hitems vs
        | stream source vs => exact Meaning.CallsAbove.drawn source vs hitems
        | fragment children => exact hitems children
        | component f props children =>
            exact Meaning.CallsAbove.call B (by omega) f props children (hdeeper 0)
        | tag selector given children =>
            cases hread : TagVisit.read selector given with
            | ok t =>
                simp only [hread]
                exact Meaning.CallsAbove.tag t (hitems children)
            | error fault =>
                simp only [hread]
                exact Meaning.CallsAbove.faulty place [fault]
      · exact Meaning.CallsAbove.faulty place _

/-- Calls that come in document order stand in places that differ. -/
theorem nodup_callPlaces {events : List (Event C σ)} (h : events.Pairwise Event.Precedes) :
    (events.filterMap Event.callPlace?).Nodup := by
  rw [List.Nodup, List.pairwise_filterMap]
  refine h.imp ?_
  intro e e' hprecedes p hp q hq
  -- both are calls, of which the first stands before the other
  cases e <;> cases hp
  cases e' <;> cases hq
  rcases hprecedes p rfl q rfl with hlt | ⟨-, hfault⟩
  · exact fun heq => List.lt_irrefl q (heq ▸ hlt)
  · cases hfault

/-- On any path there are no more calls than there are places above the depth of the deepest. -/
theorem length_callsOnPath_le {events : List (Event C σ)} {depth : Nat}
    (hordered : events.Pairwise Event.Precedes)
    (hdepth : ∀ e ∈ events, ∀ place ∈ e.callPlace?, place.length < depth) (path : Place) :
    (callsOnPath path events).length ≤ depth := by
  have hpath : ∀ place ∈ callsOnPath path events, place <+: path ∧ place.length < depth := by
    intro place hplace
    rcases List.mem_filter.1 hplace with ⟨hcalled, hprefix⟩
    rcases List.mem_filterMap.1 hcalled with ⟨e, he, hcall⟩
    exact ⟨List.isPrefixOf_iff_prefix.1 hprefix, hdepth e he place hcall⟩
  -- places on one path are told apart by their lengths
  have hlengths : ((callsOnPath path events).map List.length).Nodup := by
    refine List.Nodup.map_on ?_ ((nodup_callPlaces hordered).filter _)
    intro p hp q hq hlength
    exact (List.prefix_of_prefix_length_le (hpath p hp).1 (hpath q hq).1
      (Nat.le_of_eq hlength)).eq_of_length hlength
  have hrange : (callsOnPath path events).map List.length ⊆ List.range depth := by
    intro n hn
    rcases List.mem_map.1 hn with ⟨place, hplace, rfl⟩
    exact List.mem_range.2 (hpath place hplace).2
  have hle := (hlengths.subperm hrange).length_le
  rwa [List.length_map, List.length_range] at hle

/-! ## Elements that lead on -/

/-- Elements are visited from one session to another, under every limit that does not cut them
off. -/
def Passes (B : Behaviour C σ) (s : Session σ) (vs : List (Value C)) (s' : Session σ) : Prop :=
  ∀ limit levels (press : Press σ), press.session = s →
    (Renderer.visitEach (Renderer.visit B Press.readAfresh limit levels) vs press).1 =
        .error (.tooDeep limit) ∨
      ∃ forest press', Renderer.visitEach (Renderer.visit B Press.readAfresh limit levels) vs
        press = (.ok forest, press') ∧ press'.session = s'

theorem Passes.str (B : Behaviour C σ) (s : Session σ) (text : String) :
    Passes B s [.str text] s := by
  intro limit levels press hs
  cases levels with
  | zero => exact Or.inl rfl
  | succ levels => exact Or.inr ⟨.leaf (.text text) .nil, press, rfl, hs⟩

/-- In this session the element comes to a call of a component, past elements that are rendered
without a fault, and the component answers with an element that is said to lead on. -/
inductive LeadsOn (B : Behaviour C σ) (leading : Session σ → Value C → Prop) :
    Session σ → Value C → Prop
  | call {s s' : Session σ} {v answer : Value C} {f : Callable (Value C) C} {props : Entries C}
      {children : List (Value C)} : v.presentShape = .component f props children →
      Session.callComponent B f props children s = (.ok answer, s') → leading s' answer →
      LeadsOn B leading s v
  | inside {s s' : Session σ} {v next : Value C} {before behind : List (Value C)} :
      v.faults = [] → (v.presentShape.inside s.spent).1 = before ++ next :: behind →
      Passes B { s with spent := (v.presentShape.inside s.spent).2 } before s' →
      LeadsOn B leading s' next → LeadsOn B leading s v

/-- The element leads to the call of a component, what the component answers leads to another call,
and so on without end. -/
def Endless (B : Behaviour C σ) (s : Session σ) (v : Value C) : Prop :=
  ∃ leading : Session σ → Value C → Prop,
    leading s v ∧ ∀ s v, leading s v → LeadsOn B leading s v

theorem Value.check_of_component {v : Value C} {f : Callable (Value C) C} {props : Entries C}
    {children : List (Value C)} (h : v.presentShape = .component f props children) :
    v.check = .ok () := by
  cases v <;> first | rfl | cases h

namespace Renderer

/-- Every level that is left leads to another one. -/
theorem visit_leadsOn {B : Behaviour C σ} {leading : Session σ → Value C → Prop}
    (hleading : ∀ s v, leading s v → LeadsOn B leading s v) (limit levels : Nat) {v : Value C}
    {press : Press σ} (h : LeadsOn B leading press.session v) :
    (visit B Press.readAfresh limit levels v press).1 = .error (.tooDeep limit) := by
  induction levels generalizing v press with
  | zero => rfl
  | succ levels ih =>
      generalize hs : press.session = s at h
      cases h with
      | call hv hcall hanswer =>
          subst hs
          unfold visit Value.shape
          rw [Value.check_of_component hv, hv]
          show ((Press.inSession _ >>= _ : Attempt (Press σ) C _) press).1 = _
          rw [Attempt.bind_apply_ok (Press.inSession_apply hcall)]
          exact ih (hleading _ _ hanswer)
      | inside hfaults hinside hpasses hnext =>
          subst hs
          have hcall : ∀ f props children, v.presentShape ≠ .component f props children := by
            intro f props children hv
            rw [hv] at hinside
            simp [Shape.inside] at hinside
          obtain ⟨wrap, hvisit⟩ := visit_inside B limit levels hfaults hcall
          rw [hvisit, hinside, visitEach_append]
          -- what stands before is cut off, or the next call is reached one level deeper
          rcases hpasses limit levels (press.withSpent _) rfl with
            hdeep | ⟨forest, press', hrun, hsession⟩
          · exact Attempt.fst_bind_of_error (Attempt.fst_bind_of_error hdeep _) _
          · subst hsession
            refine Attempt.fst_bind_of_error ?_ _
            rw [Attempt.bind_apply_ok hrun]
            exact Attempt.fst_bind_of_error
              (Attempt.fst_bind_of_error (ih hnext) _) _

/-! ## Renderings -/

/-- Under any limit, a rendering is cut off or comes to the same as under a higher one. On no path
are there more calls than levels, the outermost included, so that what leads from call to call
without end is always cut off. -/
theorem depth_limit_cuts_off (B : Behaviour C σ) (settings : Settings)
    (elements : List (Value C)) {d d' : Nat} (hd : 1 ≤ d) (hle : d ≤ d') (press : Press σ) :
    ((html B (settings.withDepth d hd) elements press).1 = .error (.tooDeep d) ∨
      html B (settings.withDepth d hd) elements press =
        html B (settings.withDepth d' (Nat.le_trans hd hle)) elements press) ∧
    ((render B (settings.withDepth d hd) elements press).1 = .error (.tooDeep d) ∨
      render B (settings.withDepth d hd) elements press =
        render B (settings.withDepth d' (Nat.le_trans hd hle)) elements press) ∧
    (Fault.tooDeep d : Fault C).context = [("depth", .int (d + 1)), ("max_depth", .int d)] ∧
    (press.Reached C → 1 ≤ press.cache.capacity →
      (∃ events session,
        meaningAll B (settings.withDepth d hd) elements press.session = (events, session) ∧
        ((html B (settings.withDepth d hd) elements press).1,
          (html B (settings.withDepth d hd) elements press).2.session) =
            outcome (events, session) ∧
        (html B (settings.withDepth d hd) elements press).2.session.calls =
          press.session.calls ++ callsMade events ∧
        ∀ path, (callsOnPath path events).length ≤ d + 1) ∧
      (Endless B press.session (root elements) →
        (html B (settings.withDepth d hd) elements press).1 = .error (.tooDeep d) ∧
        (render B (settings.withDepth d hd) elements press).1 = .error (.tooDeep d))) := by
  refine ⟨?_, ?_, rfl, ?_⟩
  · exact html_cutsOff B (settings.withDepth d hd) elements
      (settings.withDepth d' (Nat.le_trans hd hle)) hle press
  · exact render_cutsOff B (settings.withDepth d hd) elements
      (settings.withDepth d' (Nat.le_trans hd hle)) hle rfl press
  · intro reached room
    constructor
    · obtain ⟨events, session, hmeaning, houtcome, hcalls, hordered⟩ :=
        html_eq_meaning B (settings.withDepth d hd) elements reached room
      have habove := meaning_callsAbove B d (d + 1) [] (root elements) press.session
      rw [show meaning B d (d + 1) [] (root elements) press.session = (events, session) from
        hmeaning, List.length_nil, Nat.zero_add] at habove
      exact ⟨events, session, hmeaning, houtcome, hcalls, length_callsOnPath_le hordered habove⟩
    · rintro ⟨leading, hroot, hleading⟩
      have hdeep : (visitAll B Press.readStored (settings.withDepth d hd) elements press).1 =
          .error (.tooDeep d) := by
        rw [visitAll_answer_afresh B _ elements reached room]
        exact visit_leadsOn hleading d (d + 1) (hleading _ _ hroot)
      rw [html_answer, render_answer, hdeep]
      exact ⟨rfl, rfl⟩

/-- All code answers with a tag around a call of what it was given as `self`, with itself. -/
def selfish : Behaviour Nat Unit := fun _ args _ state =>
  let self := (args.get? "self").getD .null
  ⟨.ok (.list [.str "div", .str "again", .list [self, .mapping [(.str "self", self)]]]), [], state⟩

/-- A component that takes itself. -/
def selfTaker : Callable (Value Nat) Nat :=
  ⟨"Loop", false, some ⟨[⟨"self", .normal⟩], []⟩, false, 0⟩

def selfCall : Value Nat :=
  .list [.callable selfTaker, .mapping [(.str "self", .callable selfTaker)]]

theorem endless_selfCall (s : Session Unit) : Endless selfish s selfCall := by
  refine ⟨fun _ v => v = selfCall ∨ v = .list [.str "div", .str "again", selfCall],
    Or.inl rfl, ?_⟩
  have hcall : ∀ s, LeadsOn selfish
      (fun _ v => v = selfCall ∨ v = .list [.str "div", .str "again", selfCall]) s selfCall := by
    intro s
    have hanswer :
        Session.callComponent selfish selfTaker [(.str "self", .callable selfTaker)] [] s =
          (.ok (.list [.str "div", .str "again", selfCall]),
            ⟨s.spent, s.calls ++ ["Loop"], ()⟩) := rfl
    exact .call rfl hanswer (Or.inr rfl)
  rintro s v (rfl | rfl)
  · exact hcall s
  · -- the call is the second child, and the text before it is no obstacle
    have hinside :
        (Value.list [.str "div", .str "again", selfCall]).presentShape.inside s.spent =
          ([.str "again", selfCall], s.spent) :=
      Shape.inside_tag_open (by decide +kernel) (by decide +kernel) _ _
    have hchildren : ((Value.list [.str "div", .str "again", selfCall]).presentShape.inside
        s.spent).1 = [.str "again"] ++ selfCall :: [] := by
      rw [hinside, List.singleton_append]
    refine .inside (by decide +kernel) hchildren ?_ (hcall s)
    rw [hinside]
    exact .str selfish s "again"

theorem depth_limit_cuts_off_selfCall :
    1 ≤ 2 ∧ 2 ≤ 7 ∧ Endless selfish (Session.start ()) selfCall ∧
      (html selfish (Settings.standard.withDepth 2 (by decide)) [selfCall] (.start 10 ())).1 =
        .error (.tooDeep 2) ∧
      (html selfish (Settings.standard.withDepth 2 (by decide)) [selfCall]
        (.start 10 ())).2.session.calls = ["Loop", "Loop"] := by
  have hlow : 1 ≤ 2 := by decide
  have hhigh : 2 ≤ 7 := by decide
  obtain ⟨-, -, -, hreached⟩ :=
    depth_limit_cuts_off selfish .standard [selfCall] hlow hhigh (.start 10 ())
  obtain ⟨-, hendless⟩ := hreached (.start 10 ()) (by decide)
  have hself := endless_selfCall (Session.start ())
  exact ⟨hlow, hhigh, hself, (hendless hself).1, by decide +kernel⟩

end Renderer
end MarkupTree
