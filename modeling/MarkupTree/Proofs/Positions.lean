import MarkupTree.Proofs.Grammar
import MarkupTree.Proofs.Meaning

/-!
# Positions — the places that a rendering comes to

Without components, what a rendering comes past can be read off the elements before anything is
rendered: the element itself, and one level deeper what is inside it.

* `Shape.inside` is what is visited one level deeper, `Renderer.visit_inside` says that it is.
* `positions` lists elements with what is inside them, in document order and with their depths.
* `FailsFirst` says how a run fails of these faults; `Renderer.visitEach_positions` compares a visit
  with the positions it comes to.
-/

namespace MarkupTree

variable {C σ : Type}

/-! ## Inner markup -/

theorem Value.sameKey_of_string? {key : Value C} {name : String} (h : key.string? = some name)
    (v : Value C) : v.sameKey key = true ↔ v.string? = some name := by
  cases key <;> simp only [string?, reduceCtorEq, Option.some.injEq] at h <;> subst h <;>
    cases v <;> simp [sameKey, string?, integer?]

theorem Value.string?_of_sameKey {v key : Value C} {name : String} (hv : v.string? = some name)
    (h : v.sameKey key = true) : key.string? = some name := by
  cases v <;> simp only [string?, reduceCtorEq, Option.some.injEq] at hv <;> subst hv <;>
    cases key <;> simp_all [sameKey, string?, integer?]

namespace Entries

/-- The last value under a string. -/
def last? (name : String) (es : Entries C) : Option (Value C) :=
  ((es.filter fun e => e.1.string? = some name).getLast?).map (·.2)

theorem get?_str (name : String) (es : Entries C) :
    es.get? (.str name) = (es.find? fun e => e.1.string? = some name).map (·.2) := by
  have htest : (fun e : Value C × Value C => e.1.sameKey (.str name)) =
      fun e => decide (e.1.string? = some name) := by
    funext e
    rw [Bool.eq_iff_iff, decide_eq_true_iff]
    exact Value.sameKey_of_string? rfl e.1
  rw [get?, htest]

theorem get?_put_str (key v : Value C) (es : Entries C) (name : String) :
    (put key v es).get? (.str name) =
      if key.string? = some name then some v else es.get? (.str name) := by
  rw [get?_str, get?_str]
  induction es with
  | nil => by_cases hkey : key.string? = some name <;> simp [put, hkey]
  | cons first rest ih =>
      unfold put
      by_cases hkey : key.string? = some name
      · by_cases hfirst : first.1.string? = some name
        · have hsame := (Value.sameKey_of_string? hkey first.1).2 hfirst
          simp [hsame, hkey, hfirst]
        · have hother : ¬ first.1.sameKey key = true :=
            fun hsame => hfirst ((Value.sameKey_of_string? hkey first.1).1 hsame)
          simpa [hother, hkey, hfirst] using ih
      · by_cases hsame : first.1.sameKey key = true
        · have hfirst : first.1.string? ≠ some name :=
            fun hname => hkey (Value.string?_of_sameKey hname hsame)
          simp [hsame, hkey, hfirst]
        · by_cases hfirst : first.1.string? = some name
          · simp [hsame, hkey, hfirst]
          · simpa [hsame, hkey, hfirst] using ih

theorem get?_update_str (es news : Entries C) (name : String) :
    (update es news).get? (.str name) = (news.last? name).or (es.get? (.str name)) := by
  induction news generalizing es with
  | nil => simp [update, last?]
  | cons new rest ih =>
      have hrest : (update es (new :: rest)).get? (.str name) =
          (last? name rest).or ((put new.1 new.2 es).get? (.str name)) := ih (put new.1 new.2 es)
      rw [hrest, get?_put_str]
      -- the new value counts unless there is a later one
      by_cases hnew : new.1.string? = some name
      · have hlast : last? name (new :: rest) = (last? name rest).or (some new.2) := by
          simp only [last?, List.filter_cons, hnew, decide_true, if_true, List.getLast?_cons]
          cases (rest.filter fun e => decide (e.1.string? = some name)).getLast? <;> rfl
        rw [hlast, if_pos hnew, Option.or_assoc, Option.some_or]
      · have hlast : last? name (new :: rest) = last? name rest := by
          simp [last?, hnew]
        rw [hlast, if_neg hnew]

end Entries

namespace AttributePlan

theorem get?_normalize_of_ne {name other : String} (h : name ≠ other) (given : Entries C)
    (f : Value C → String) (es : Entries C) :
    (normalize given name f es).get? (.str other) = es.get? (.str other) := by
  unfold normalize
  split
  · rw [Entries.get?_put_str, if_neg (by simpa [Value.string?] using h)]
  · rfl

/-- The inner markup of a plan is what stands last under its name in the explicit mapping, or else
under that name in the selector's attributes. -/
theorem innerHtml_of_prepare {seed : Entries C} {given : Option (Entries C)}
    {plan : AttributePlan C} (h : prepare seed given = .ok plan) :
    plan.innerHtml = (((given.getD []).last? Vocabulary.innerHtml).or
      (seed.get? (.str Vocabulary.innerHtml))).getD .null := by
  unfold prepare at h
  dsimp only at h
  cases hsort : sort ⟨seed, [], .null⟩ (given.getD []) with
  | error fault =>
      rw [hsort] at h
      cases h
  | ok sorted =>
      rw [sort_eq_of_present _ (present_of_sort_eq_ok hsort)] at h
      cases h
      -- no event is under that name, and the text forms are under other names
      have hplain : (given.getD []).plain.last? Vocabulary.innerHtml =
          (given.getD []).last? Vocabulary.innerHtml := by
        unfold Entries.last? Entries.plain
        rw [List.filter_filter]
        congr 3
        funext e
        by_cases hname : e.1.string? = some Vocabulary.innerHtml
        · have hevent : eventName? e.1 = none := by
            simp [eventName?, hname, afterStart?, Vocabulary.innerHtml, Vocabulary.eventMark]
          simp [hname, hevent]
        · simp [hname]
      show (Entries.get? _ _).getD _ = _
      rw [get?_normalize_of_ne (by decide), get?_normalize_of_ne (by decide),
        Entries.get?_update_str, hplain]

end AttributePlan

/-! ## What is inside an element -/

/-- Whether an explicit mapping carries inner markup that counts. -/
def carriesMarkup (given : Option (Entries C)) : Bool :=
  (((given.getD []).last? Vocabulary.innerHtml).getD .null).isTruthy

/-- What is visited one level deeper than an element of this shape, and which sources are drawn
then. A source gives its items only once; void tags and tags with inner markup keep their children
to themselves, and what a component answers is not there yet. -/
def Shape.inside (spent : List Nat) : Shape C → List (Value C) × List Nat
  | .items vs | .fragment vs => (vs, spent)
  | .stream source vs => if spent.contains source then ([], spent) else (vs, source :: spent)
  | .tag selector given children =>
    let name := String.ofList (Selector.split selector.toList).1
    if Vocabulary.isVoid name || carriesMarkup given then ([], spent) else (children, spent)
  | _ => ([], spent)

theorem Shape.inside_stream (source : Nat) (vs : List (Value C)) (spent : List Nat) :
    (Shape.stream source vs).inside spent =
      if spent.contains source then ([], spent) else (vs, source :: spent) := rfl

/-- A tag that is not void and has no inner markup holds its children. -/
theorem Shape.inside_tag_open {selector : String} {given : Option (Entries C)}
    (hvoid : Vocabulary.isVoid (String.ofList (Selector.split selector.toList).1) = false)
    (hmarkup : carriesMarkup given = false) (children : List (Value C)) (spent : List Nat) :
    (Shape.tag selector given children).inside spent = (children, spent) := by
  simp [inside, hvoid, hmarkup]

theorem Shape.inside_tag_spent (selector : String) (given : Option (Entries C))
    (children : List (Value C)) (spent : List Nat) :
    ((Shape.tag selector given children).inside spent).2 = spent := by
  unfold inside
  dsimp only
  split <;> rfl

/-- Whether an element is a sequence with a callable in front: a call of a component. -/
def Value.startsWithCallable (v : Value C) : Bool :=
  match v.items? with
  | some (.callable _ :: _) => true
  | _ => false

theorem Value.startsWithCallable_of_component {v : Value C} {f : Callable (Value C) C}
    {props : Entries C} {children : List (Value C)}
    (h : v.presentShape = .component f props children) : v.startsWithCallable = true := by
  have hsequence : ∀ vs, sequenceShape vs = .component f props children →
      ∃ rest, vs = .callable f :: rest := by
    intro vs hvs
    unfold sequenceShape at hvs
    split at hvs
    · cases hvs
    · split at hvs
      · cases hvs
        exact ⟨_, rfl⟩
      · split at hvs <;> cases hvs
      · cases hvs
  cases v with
  | list vs =>
      obtain ⟨rest, rfl⟩ := hsequence vs h
      rfl
  | tuple vs =>
      obtain ⟨rest, rfl⟩ := hsequence vs h
      rfl
  | bool b => cases b <;> cases h
  | _ => cases h

theorem TagVisit.of_read {selector : String} {given : Option (Entries C)} {t : TagVisit C}
    (h : TagVisit.read selector given = .ok t) :
    Tag.parse selector = .ok t.tag ∧
      AttributePlan.prepare (Renderer.seedOf t.tag) given = .ok t.plan := by
  unfold TagVisit.read at h
  cases hparse : Tag.parse selector with
  | error fault =>
      rw [hparse] at h
      cases h
  | ok tag =>
      cases hplan : AttributePlan.prepare (Renderer.seedOf tag) given with
      | error fault => simp [hparse, hplan, Except.mapError, bind, Except.bind] at h
      | ok plan =>
          simp only [hparse, hplan, Except.mapError, bind, Except.bind, pure, Except.pure,
            Except.ok.injEq] at h
          subst h
          exact ⟨rfl, hplan⟩

/-- The inner markup of a tag is that of its explicit mapping: a selector gives none. -/
theorem TagVisit.isTruthy_innerHtml {selector : String} {given : Option (Entries C)}
    {t : TagVisit C} (h : TagVisit.read selector given = .ok t) :
    t.plan.innerHtml.isTruthy = carriesMarkup given := by
  obtain ⟨hparse, hplan⟩ := of_read h
  have hseed : (Renderer.seedOf t.tag : Entries C).get? (.str Vocabulary.innerHtml) = none := by
    rw [Entries.get?_str, Option.map_eq_none_iff, List.find?_eq_none]
    intro e he
    rcases List.mem_map.1 he with ⟨a, ha, rfl⟩
    rcases (Tag.of_parse_eq_ok hparse).2 a ha with hid | hclass
    · simp [Value.string?, hid, Vocabulary.identity, Vocabulary.innerHtml]
    · simp [Value.string?, hclass, Vocabulary.className, Vocabulary.innerHtml]
  rw [AttributePlan.innerHtml_of_prepare hplan, hseed, Option.or_none]
  rfl

/-- The press when these sources are drawn. -/
def Press.withSpent (press : Press σ) (spent : List Nat) : Press σ :=
  { press with session := { press.session with spent } }

@[simp]
theorem Press.spent_withSpent (press : Press σ) (spent : List Nat) :
    (press.withSpent spent).session.spent = spent := rfl

@[simp]
theorem Press.withSpent_self (press : Press σ) : press.withSpent press.session.spent = press := rfl

namespace Renderer

/-- What a tag that was read has inside. -/
theorem visitInside_of_read {selector : String} {given : Option (Entries C)} {t : TagVisit C}
    (h : TagVisit.read selector given = .ok t) (children : List (Value C))
    (visit : Value C → Attempt (Press σ) C (Visited C)) :
    ∃ wrap : Visited C → Visited C, ∀ spent,
      visitInside (visitEach visit children) t.tag t.plan =
        (do let inside ← visitEach visit ((Shape.tag selector given children).inside spent).1
            return wrap inside) := by
  have hname := Tag.name_of_parse (TagVisit.of_read h).1
  have hinner := TagVisit.isTruthy_innerHtml h
  unfold visitInside Shape.inside
  rw [hname, hinner]
  by_cases hvoid : Vocabulary.isVoid (String.ofList (Selector.split selector.toList).1)
  · simp only [hvoid, if_true, Bool.true_or]
    exact ⟨id, fun _ => rfl⟩
  · by_cases hmarkup : carriesMarkup given
    · simp only [hvoid, hmarkup, if_true, Bool.or_true]
      exact ⟨fun _ => .leaf (.verbatim (innerMarkup t.plan.innerHtml)) .nil, fun _ => rfl⟩
    · simp only [hvoid, hmarkup]
      exact ⟨id, fun _ => (bind_pure _).symm⟩

theorem visitTag_inside {selector : String} {given : Option (Entries C)} {children : List (Value C)}
    (hfaults : (Shape.tag selector given children).faults = [])
    (visit : Value C → Attempt (Press σ) C (Visited C)) :
    ∃ wrap : Visited C → Visited C, ∀ press : Press σ,
      visitTag Press.readAfresh (visitEach visit children) selector given press =
        (do let inside ← visitEach visit
              ((Shape.tag selector given children).inside press.session.spent).1
            return wrap inside : Attempt (Press σ) C (Visited C)) press := by
  have hread := TagVisit.head?_faults_read selector given children
  rw [hfaults] at hread
  cases ht : TagVisit.read selector given with
  | error fault =>
      rw [ht] at hread
      cases hread
  | ok t =>
      obtain ⟨wrap, hinside⟩ := visitInside_of_read ht children visit
      refine ⟨fun inside => .node t (wrap inside) .nil, fun press => ?_⟩
      rw [visitTag_afresh, ht]
      show (visitInside _ t.tag t.plan >>= _) press = _
      rw [hinside press.session.spent]
      simp only [bind_assoc, pure_bind]

/-- A source that was drawn before is empty, and a new one is drawn. -/
theorem visitStream_inside (source : Nat) (vs : List (Value C))
    (visit : Value C → Attempt (Press σ) C (Visited C)) (press : Press σ) :
    (do let vs ← Press.inSession (Session.draw source vs)
        visitEach visit vs : Attempt (Press σ) C (Visited C)) press =
      visitEach visit ((Shape.stream source vs).inside press.session.spent).1
        (press.withSpent ((Shape.stream source vs).inside press.session.spent).2) := by
  have hdraw := Session.draw_apply (C := C) source vs press.session
  rw [Shape.inside_stream]
  by_cases hspent : press.session.spent.contains source
  · rw [if_pos hspent] at hdraw
    rw [Attempt.bind_apply_ok (Press.inSession_apply hdraw), if_pos hspent, Press.withSpent_self]
  · rw [if_neg hspent] at hdraw
    rw [Attempt.bind_apply_ok (Press.inSession_apply hdraw), if_neg hspent]
    rfl

/-- A visit of an element without faults is a visit of what is inside it. -/
theorem visit_inside (B : Behaviour C σ) (limit levels : Nat) {v : Value C}
    (hfaults : v.faults = [])
    (hcall : ∀ f props children, v.presentShape ≠ .component f props children) :
    ∃ wrap : Visited C → Visited C, ∀ press : Press σ,
      visit B Press.readAfresh limit (levels + 1) v press =
        (do let inside ← visitEach (visit B Press.readAfresh limit levels)
              (v.presentShape.inside press.session.spent).1
            return wrap inside : Attempt (Press σ) C (Visited C))
          (press.withSpent (v.presentShape.inside press.session.spent).2) := by
  obtain ⟨hcheck, hshape⟩ := List.append_eq_nil_iff.1 hfaults
  have hvisible : v.check = .ok () := by
    cases hv : v.check with
    | ok => rfl
    | error fault =>
        rw [hv] at hcheck
        cases hcheck
  unfold visit Value.shape
  rw [hvisible]
  cases hv : v.presentShape with
  | skip => exact ⟨fun _ => .nil, fun press => rfl⟩
  | text w => exact ⟨fun _ => .leaf (.text w.leafText) .nil, fun press => rfl⟩
  | markup w html => exact ⟨fun _ => .leaf (.verbatim html) .nil, fun press => rfl⟩
  | items vs => exact ⟨id, fun press => congrFun (bind_pure _).symm press⟩
  | fragment vs => exact ⟨id, fun press => congrFun (bind_pure _).symm press⟩
  | stream source vs =>
      refine ⟨id, fun press => ?_⟩
      show _ = (visitEach _ _ >>= Pure.pure : Attempt _ _ _) _
      rw [bind_pure]
      exact visitStream_inside source vs _ press
  | component f props children => exact absurd hv (hcall f props children)
  | tag selector given children =>
      rw [hv] at hshape
      obtain ⟨wrap, htag⟩ := visitTag_inside hshape (visit B Press.readAfresh limit levels)
      refine ⟨wrap, fun press => ?_⟩
      rw [Shape.inside_tag_spent, Press.withSpent_self]
      exact htag press

end Renderer

/-! ## All positions -/

mutual

/-- How many elements stand in a value at most, itself included. -/
def Value.bulk : Value C → Nat
  | .list vs | .tuple vs | .lazy _ vs => bulks vs + 1
  | .range start stop step => Value.rangeSize start stop step + 1
  -- the entry of a payload is a sequence of its name and its value
  | .payload _ => 4
  | _ => 1

def bulks : List (Value C) → Nat
  | [] => 0
  | v :: rest => v.bulk + bulks rest

end

theorem bulks_map {α : Type} {f : α → Value C} (h : ∀ a, (f a).bulk = 1) (as : List α) :
    bulks (as.map f) = as.length := by
  induction as with
  | nil => rfl
  | cons a rest ih =>
      rw [List.map_cons, bulks, h, ih, List.length_cons, Nat.add_comm]

theorem bulks_leadingEntries (vs : List (Value C)) : bulks (leadingEntries vs).2 ≤ bulks vs := by
  cases vs with
  | nil => exact Nat.le_refl _
  | cons v rest =>
      unfold leadingEntries
      dsimp only
      cases v.entries? with
      | some es => exact Nat.le_add_left _ _
      | none => exact Nat.le_refl _

theorem Shape.bulks_inside_sequence (vs : List (Value C)) (spent : List Nat) :
    bulks ((Value.sequenceShape vs).inside spent).1 ≤ bulks vs := by
  cases vs with
  | nil => exact Nat.le_refl _
  | cons first rest =>
      have hrest : bulks rest ≤ bulks (first :: rest) := Nat.le_add_left _ _
      cases first with
      | callable f => exact Nat.zero_le _
      | str s =>
          unfold Value.sequenceShape
          dsimp only
          split
          · exact hrest
          · unfold inside
            dsimp only
            split
            · exact Nat.zero_le _
            · exact Nat.le_trans (bulks_leadingEntries rest) hrest
      | _ => exact Nat.le_refl _

/-- What is inside an element is less than the element. -/
theorem Value.bulks_inside (v : Value C) (spent : List Nat) :
    bulks (v.presentShape.inside spent).1 < v.bulk := by
  cases v with
  | list vs => exact Nat.lt_succ_of_le (Shape.bulks_inside_sequence vs spent)
  | tuple vs => exact Nat.lt_succ_of_le (Shape.bulks_inside_sequence vs spent)
  | lazy source vs =>
      show bulks ((Shape.stream source vs).inside spent).1 < bulks vs + 1
      rw [Shape.inside_stream]
      split
      · exact Nat.succ_pos _
      · exact Nat.lt_succ_self _
  | range start stop step =>
      show bulks (rangeItems start stop step) < Value.rangeSize start stop step + 1
      rw [rangeItems, bulks_map fun _ => rfl, List.length_range]
      exact Nat.lt_succ_self _
  | payload detail => exact Nat.lt_succ_self 3
  | bool b => cases b <;> exact Nat.zero_lt_one
  | _ => exact Nat.zero_lt_one

/-- An element and how deep it stands. -/
structure Position (C : Type) where
  depth : Nat
  element : Value C

/-- The positions of elements that stand this deep and of all that is inside them, in document
order, and which sources are drawn in the end. -/
def positions (depth : Nat) (spent : List Nat) : List (Value C) → List (Position C) × List Nat
  | [] => ([], spent)
  | v :: rest =>
    let within := v.presentShape.inside spent
    let deeper := positions (depth + 1) within.2 within.1
    let others := positions depth deeper.2 rest
    (⟨depth, v⟩ :: deeper.1 ++ others.1, others.2)
termination_by vs => bulks vs
decreasing_by
  · exact Nat.lt_of_lt_of_le (v.bulks_inside spent) (Nat.le_add_right _ _)
  · exact Nat.lt_add_of_pos_left (Nat.zero_lt_of_lt (v.bulks_inside spent))

theorem positions_nil (depth : Nat) (spent : List Nat) :
    positions depth spent ([] : List (Value C)) = ([], spent) := by
  rw [positions]

theorem positions_cons (depth : Nat) (spent : List Nat) (v : Value C) (rest : List (Value C)) :
    positions depth spent (v :: rest) =
      let within := v.presentShape.inside spent
      let deeper := positions (depth + 1) within.2 within.1
      let others := positions depth deeper.2 rest
      (⟨depth, v⟩ :: deeper.1 ++ others.1, others.2) := by
  rw [positions]

/-- What is wrong with a position: it is too deep, or else its element is at fault. -/
def Position.faults (limit : Nat) (p : Position C) : List (Fault C) :=
  if p.depth ≤ limit then p.element.faults else [.tooDeep limit]

/-- All that is wrong with positions, in document order. -/
def faultsAmong (limit : Nat) (ps : List (Position C)) : List (Fault C) :=
  ps.flatMap (Position.faults limit)

theorem faultsAmong_append (limit : Nat) (ps qs : List (Position C)) :
    faultsAmong limit (ps ++ qs) = faultsAmong limit ps ++ faultsAmong limit qs :=
  List.flatMap_append

/-- A run fails with the first of these faults, and if there is none, these sources are drawn in
the end. -/
def FailsFirst {α : Type} (faults : List (Fault C)) (spent : List Nat)
    (run : Except (Fault C) α × Press σ) : Prop :=
  match run with
  | (.ok _, press) => faults = [] ∧ press.session.spent = spent
  | (.error fault, _) => faults.head? = some fault

namespace FailsFirst

variable {α β : Type} {faults more : List (Fault C)} {spent between : List Nat}
  {m : Attempt (Press σ) C α} {press : Press σ}

theorem of_error {fault : Fault C} {run : Except (Fault C) α × Press σ}
    (hrun : run.1 = .error fault) (hfaults : faults.head? = some fault) :
    FailsFirst faults spent run := by
  obtain ⟨answer, press⟩ := run
  cases hrun
  exact hfaults

theorem map (h : FailsFirst faults spent (m press)) (k : α → β) :
    FailsFirst faults spent ((do let a ← m; return k a : Attempt (Press σ) C β) press) := by
  rw [Attempt.map_apply]
  rcases hrun : m press with ⟨fault | a, press'⟩ <;> rw [hrun] at h <;> exact h

/-- Faults of a second step count behind those of the first, if it is come to. -/
theorem bind (hm : FailsFirst faults between (m press)) {f : α → Attempt (Press σ) C β}
    (hf : ∀ a press', press'.session.spent = between → FailsFirst more spent (f a press')) :
    FailsFirst (faults ++ more) spent ((m >>= f) press) := by
  rw [Attempt.bind_apply]
  cases hrun : m press with
  | mk answer press' =>
      rw [hrun] at hm
      cases answer with
      | error fault =>
          have hfirst : faults.head? = some fault := hm
          show (faults ++ more).head? = some fault
          rw [List.head?_append, hfirst, Option.some_or]
      | ok a =>
          obtain ⟨hclear, hspent⟩ := hm
          rw [hclear]
          exact hf a press' hspent

end FailsFirst

namespace Renderer

/-- Of a faulty element the first fault is told. -/
theorem visit_faulty (B : Behaviour C σ) (limit levels : Nat) {v : Value C} {fault : Fault C}
    (h : v.faults.head? = some fault) (press : Press σ) :
    (visit B Press.readAfresh limit (levels + 1) v press).1 = .error fault := by
  have htells := visit_tells B limit (levels + 1) [] v press
  have hmeaning : meaning B limit (levels + 1) [] v = Meaning.faulty [] v.faults := by
    unfold meaning
    split
    · next hnone =>
        rw [hnone] at h
        cases h
    · rfl
  rw [hmeaning, Meaning.outcome_faulty [] h] at htells
  have hanswer := (Prod.mk.inj htells).1
  cases hvisit : (visit B Press.readAfresh limit (levels + 1) v press).1 with
  | ok forest =>
      rw [hvisit] at hanswer
      cases hanswer
  | error fault' =>
      rw [hvisit] at hanswer
      cases hanswer
      rfl

/-- Of a faulty element the first fault is told, and what is inside another one is visited. -/
theorem visit_failsFirst (B : Behaviour C σ) {limit levels depth : Nat} (hdepth : depth ≤ limit)
    {v : Value C} (hcall : v.startsWithCallable = false) (press : Press σ) {ps : List (Position C)}
    {spent : List Nat}
    (hinside : FailsFirst (faultsAmong limit ps) spent
      (visitEach (visit B Press.readAfresh limit levels)
        (v.presentShape.inside press.session.spent).1
        (press.withSpent (v.presentShape.inside press.session.spent).2))) :
    FailsFirst (faultsAmong limit (⟨depth, v⟩ :: ps)) spent
      (visit B Press.readAfresh limit (levels + 1) v press) := by
  have hhere : (Position.mk depth v).faults limit = v.faults := if_pos hdepth
  unfold faultsAmong
  rw [List.flatMap_cons, hhere]
  cases hfaults : v.faults with
  | cons fault more =>
      have hfirst : v.faults.head? = some fault := by rw [hfaults, List.head?_cons]
      exact .of_error (visit_faulty B limit levels hfirst press) rfl
  | nil =>
      obtain ⟨wrap, hvisit⟩ := visit_inside B limit levels hfaults fun f props children h =>
        Bool.false_ne_true (hcall.symm.trans (Value.startsWithCallable_of_component h))
      rw [hvisit press]
      exact hinside.map wrap

/-- A visit to elements fails with the first of all faults at the positions it comes to, and not
without one. -/
theorem visitEach_positions (B : Behaviour C σ) (limit levels depth : Nat)
    (hlevels : depth + levels = limit + 1) (vs : List (Value C)) (press : Press σ)
    (hcalls : ∀ p ∈ (positions depth press.session.spent vs).1,
      p.element.startsWithCallable = false) :
    FailsFirst (faultsAmong limit (positions depth press.session.spent vs).1)
      (positions depth press.session.spent vs).2
      (visitEach (visit B Press.readAfresh limit levels) vs press) := by
  -- on the levels that are left, and on each level on the elements side by side
  induction levels generalizing depth vs press with
  | zero =>
      cases vs with
      | nil =>
          rw [positions_nil]
          exact ⟨rfl, rfl⟩
      | cons v rest =>
          have hdeep : ¬ depth ≤ limit := by omega
          have hvisit : (visitEach (visit B Press.readAfresh limit 0) (v :: rest) press).1 =
            .error (.tooDeep limit) := rfl
          rw [positions_cons]
          exact .of_error hvisit (by simp [faultsAmong, Position.faults, hdeep])
  | succ levels ih =>
      have hdepth : depth ≤ limit := by omega
      induction vs generalizing press with
      | nil =>
          rw [positions_nil]
          exact ⟨rfl, rfl⟩
      | cons v rest ihrest =>
          rw [positions_cons] at hcalls ⊢
          dsimp only at hcalls ⊢
          rw [faultsAmong_append]
          have hdeeper := ih (depth + 1) (by omega) (v.presentShape.inside press.session.spent).1
            (press.withSpent (v.presentShape.inside press.session.spent).2)
            fun p hp => hcalls p (List.mem_append_left _ (List.mem_cons_of_mem _ hp))
          have hhere := visit_failsFirst B hdepth (hcalls ⟨depth, v⟩ (by simp)) press hdeeper
          -- what stands behind the element draws from what is left
          apply hhere.bind
          intro first press' hspent
          rw [Press.spent_withSpent] at hspent
          rw [← hspent] at hcalls ⊢
          exact (ihrest press' fun p hp => hcalls p (List.mem_append_right _ hp)).map _

end Renderer
end MarkupTree
