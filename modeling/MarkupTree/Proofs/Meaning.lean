import MarkupTree.Proofs.History

/-!
# Meaning — what an element stands for, piece by piece

A renderer writes into one growing text, reads selectors through a store and stops at the first
fault. The meaning of an element knows nothing of that: it is put together from the meanings of
what stands inside, lists all that happens in document order, and goes on behind a fault as if
there were none. A rendering is what such a list comes to when it is followed up to its first
fault.

* `meaning` says shape by shape what an element gives; places tell where in the document.
* `Value.faults` lists the faults of a single element in the order in which they count.
* `outcome` and `callsMade` follow a list of events up to the first fault.
* `Renderer.html_eq_meaning` compares renderings with meanings.
-/

namespace MarkupTree

variable {C σ : Type}

/-! ## The faults of one element -/

def faultsOf {α : Type} : Except (Fault C) α → List (Fault C)
  | .ok _ => []
  | .error fault => [fault]

/-- All faults of a tag itself: its selector, then its attributes in the order of the mapping. -/
def Shape.faults : Shape C → List (Fault C)
  | .tag selector given _ =>
    faultsOf ((Tag.parse selector).mapError .selector) ++
      (given.getD []).flatMap fun e => faultsOf (Value.checkUnder e.1 e.2)
  | _ => []

/-- All faults of an element itself, whatever stands inside: first that it is missing. -/
def Value.faults (v : Value C) : List (Fault C) :=
  faultsOf v.check ++ v.presentShape.faults

/-- A tag as it is read from its selector and explicit attributes. -/
def TagVisit.read (selector : String) (given : Option (Entries C)) :
    Except (Fault C) (TagVisit C) := do
  let tag ← (Tag.parse selector).mapError .selector
  let plan ← AttributePlan.prepare (Renderer.seedOf tag) given
  return ⟨selector, given, tag, plan⟩

/-! ## Events -/

/-- Where an element stands: which item of which item, from the outside in. The result of a
component is its only item. Of two places the one that comes first in the document is less. -/
abbrev Place := List Nat

/-- Something that happens while an element is looked through. -/
inductive Event (C σ : Type)
  | written (markup : String)
  /-- a component is called, and this is where it stands -/
  | called (place : Place) (f : Callable (Value C) C)
  /-- there is a fault here, found in this session -/
  | faulty (place : Place) (fault : Fault C) (session : Session σ)

namespace Event

def place? : Event C σ → Option Place
  | .written _ => none
  | .called place _ | .faulty place _ _ => some place

def fault? : Event C σ → Option (Fault C × Session σ)
  | .faulty _ fault session => some (fault, session)
  | _ => none

/-- The first event stands further to the front, or it is followed by a fault in its place. So no
component is called twice where it stands. -/
def Precedes (a b : Event C σ) : Prop :=
  ∀ p ∈ a.place?, ∀ q ∈ b.place?, p < q ∨ p = q ∧ b.fault?.isSome

end Event

def markupOf : List (Event C σ) → String
  | [] => ""
  | .written markup :: rest => markup ++ markupOf rest
  | _ :: rest => markupOf rest

/-- The names of the components that are called before the first fault. -/
def callsMade : List (Event C σ) → List String
  | [] => []
  | .written _ :: rest => callsMade rest
  | .called _ f :: rest => f.name :: callsMade rest
  | .faulty _ _ _ :: _ => []

def firstFault (events : List (Event C σ)) : Option (Fault C × Session σ) :=
  events.findSome? Event.fault?

/-- What events come to: the first fault in the session where it was found, or all markup side by
side. -/
def outcome (told : List (Event C σ) × Session σ) : Except (Fault C) String × Session σ :=
  match firstFault told.1 with
  | some (fault, session) => (.error fault, session)
  | none => (.ok (markupOf told.1), told.2)

/-! ## Meanings -/

/-- All that happens in a session while something is looked through, and the session afterwards. -/
abbrev Meaning (C σ : Type) := Session σ → List (Event C σ) × Session σ

namespace Meaning

def nothing : Meaning C σ := fun s =>
  ([], s)

def written (markup : String) : Meaning C σ := fun s =>
  ([.written markup], s)

def faulty (place : Place) (faults : List (Fault C)) : Meaning C σ := fun s =>
  (faults.map (.faulty place · s), s)

/-- One meaning and then another, side by side. -/
def andThen (m n : Meaning C σ) : Meaning C σ := fun s =>
  let (events, s) := m s
  let (others, s) := n s
  (events ++ others, s)

/-- The meanings of items side by side, the first of them with this number. -/
def each (item : Place → Value C → Meaning C σ) (place : Place) :
    Nat → List (Value C) → Meaning C σ
  | _, [] => nothing
  | n, v :: rest => (item (place ++ [n]) v).andThen (each item place (n + 1) rest)

/-- The items of a lazy source, unless they were drawn before. -/
def drawn (source : Nat) (vs : List (Value C)) (items : List (Value C) → Meaning C σ) :
    Meaning C σ := fun s =>
  if s.spent.contains source then items [] s
  else items vs { s with spent := source :: s.spent }

/-- What comes of a call: the meaning of the result, or the fault that the code ended with. -/
def answered (place : Place) (result : Value C → Meaning C σ) :
    Except (Fault C) (Value C) → Meaning C σ
  | .ok v => result v
  | .error fault => faulty place [fault]

/-- A component is called once, and then comes the meaning of its result. Nothing else is made of
its children. -/
def call (B : Behaviour C σ) (place : Place) (f : Callable (Value C) C) (props : Entries C)
    (children : List (Value C)) (result : Value C → Meaning C σ) : Meaning C σ :=
  match Session.propsWithChildren f props children with
  | .error fault => faulty place [fault]
  | .ok props =>
    match Session.bindProps f props with
    | none => faulty place [.badArguments]
    | some args => fun s =>
      let (answer, s) := Session.run B f args s
      let (events, s) := answered place result answer s
      (.called place f :: events, s)

/-- A void tag is its open tag alone; any other has present inner markup or its children between
open and close tag. -/
def tag (t : TagVisit C) (children : Meaning C σ) : Meaning C σ :=
  let opened : Meaning C σ := written t.plainLabel.openTag
  if Vocabulary.isVoid t.tag.name then opened
  else
    let inside :=
      if t.plan.innerHtml.isTruthy then written (Renderer.innerMarkup t.plan.innerHtml)
      else children
    opened.andThen (inside.andThen (written ("</" ++ t.tag.name ++ ">")))

end Meaning

open Meaning in
/-- What an element stands for in this place, if it may be nested so many levels deep, itself
included. Of a faulty element its own faults are told and nothing that stands inside, which would
come behind them anyway. -/
def meaning (B : Behaviour C σ) (limit : Nat) : (levels : Nat) → Place → Value C → Meaning C σ
  | 0, place, v => faulty place (.tooDeep limit :: v.faults)
  | levels + 1, place, v =>
    match v.faults with
    | [] =>
      match v.presentShape with
      | .skip => nothing
      | .text v => written v.escaped
      | .markup _ html => written html
      | .items vs => each (meaning B limit levels) place 0 vs
      | .stream source vs => drawn source vs (each (meaning B limit levels) place 0)
      | .fragment children => each (meaning B limit levels) place 0 children
      | .component f props children =>
        -- the result takes the place of a first and only item, so it comes behind the call
        call B place f props children (meaning B limit levels (place ++ [0]))
      | .tag selector given children =>
        match TagVisit.read selector given with
        | .ok t => tag t (each (meaning B limit levels) place 0 children)
        | .error fault => faulty place [fault]
    | faults => faulty place faults

/-! ## Following events -/

@[simp]
theorem markupOf_append (events others : List (Event C σ)) :
    markupOf (events ++ others) = markupOf events ++ markupOf others := by
  induction events with
  | nil => simp [markupOf]
  | cons e rest ih => cases e <;> simp [markupOf, ih, String.append_assoc]

theorem firstFault_append (events others : List (Event C σ)) :
    firstFault (events ++ others) = (firstFault events).or (firstFault others) :=
  List.findSome?_append

theorem callsMade_append {events : List (Event C σ)} (h : firstFault events = none)
    (others : List (Event C σ)) :
    callsMade (events ++ others) = callsMade events ++ callsMade others := by
  induction events with
  | nil => rfl
  | cons e rest ih =>
      cases e with
      | written markup => exact ih h
      | called place f => simp [callsMade, ih h]
      | faulty place fault session => cases h

/-- Behind a fault nothing is called any more. -/
theorem callsMade_append_of_fault {events : List (Event C σ)} {found : Fault C × Session σ}
    (h : firstFault events = some found) (others : List (Event C σ)) :
    callsMade (events ++ others) = callsMade events := by
  induction events with
  | nil => cases h
  | cons e rest ih =>
      cases e with
      | written markup => exact ih h
      | called place f => simp [callsMade, ih h]
      | faulty place fault session => rfl

namespace Meaning

theorem outcome_faulty (place : Place) {faults : List (Fault C)} {fault : Fault C}
    (h : faults.head? = some fault) (s : Session σ) :
    outcome (faulty place faults s) = (.error fault, s) := by
  cases faults with
  | nil => cases h
  | cons first rest =>
      cases h
      rfl

/-- One meaning after another comes to what the first comes to, and goes on if that is no fault. -/
theorem outcome_andThen (m n : Meaning C σ) (s : Session σ) :
    outcome (m.andThen n s) = match outcome (m s) with
      | (.error fault, s') => (.error fault, s')
      | (.ok markup, s') => match outcome (n s') with
        | (.error fault, s'') => (.error fault, s'')
        | (.ok others, s'') => (.ok (markup ++ others), s'') := by
  unfold outcome andThen
  simp only [firstFault_append, markupOf_append]
  cases hfirst : firstFault (m s).1 with
  | some found => simp
  | none => cases hsecond : firstFault (n (m s).2).1 <;> simp [hsecond]

end Meaning

/-! ## Faults of tags -/

theorem AttributePlan.head?_faults_sort (plan : AttributePlan C) (es : Entries C) :
    (es.flatMap fun e => faultsOf (Value.checkUnder e.1 e.2)).head? =
      (faultsOf (sort plan es)).head? := by
  induction es generalizing plan with
  | nil => rfl
  | cons e rest ih =>
      rcases e with ⟨key, v⟩
      rw [List.flatMap_cons]
      unfold sort
      cases hcheck : Value.checkUnder key v with
      | error fault => rfl
      | ok =>
          -- wherever a present value goes, the rest is sorted after it
          show (rest.flatMap _).head? = _
          cases hevent : eventName? key with
          | none => exact ih _
          | some event =>
              cases hf : v.callable? with
              | none => exact ih plan
              | some f => exact ih _

theorem AttributePlan.head?_faults_prepare (seed : Entries C) (given : Option (Entries C)) :
    ((given.getD []).flatMap fun e => faultsOf (Value.checkUnder e.1 e.2)).head? =
      (faultsOf (prepare seed given)).head? := by
  rw [head?_faults_sort ⟨seed, [], .null⟩]
  unfold prepare
  dsimp only
  cases hsort : sort ⟨seed, [], .null⟩ (given.getD []) <;> rfl

/-- Reading a tag refuses the first of its faults. -/
theorem TagVisit.head?_faults_read (selector : String) (given : Option (Entries C))
    (children : List (Value C)) :
    (Shape.tag selector given children).faults.head? =
      (faultsOf (TagVisit.read selector given)).head? := by
  unfold TagVisit.read
  simp only [Shape.faults]
  cases hparse : Tag.parse selector with
  | error fault => rfl
  | ok tag =>
      -- a selector that is read has no fault, so those of the attributes come first
      show (List.flatMap _ _).head? = (faultsOf (AttributePlan.prepare _ given >>= _)).head?
      rw [AttributePlan.head?_faults_prepare (Renderer.seedOf tag)]
      cases AttributePlan.prepare (Renderer.seedOf tag) given <;> rfl

/-! ## Steps in a session -/

theorem Session.draw_apply (source : Nat) (vs : List (Value C)) (s : Session σ) :
    draw source vs s =
      if s.spent.contains source then (.ok [], s)
      else (.ok vs, { s with spent := source :: s.spent }) := by
  unfold draw
  rw [Attempt.bind_apply_ok (Attempt.get_apply s)]
  split <;> rfl

theorem Session.callComponent_apply (B : Behaviour C σ) (f : Callable (Value C) C)
    (props : Entries C) (children : List (Value C)) (s : Session σ) :
    callComponent B f props children s =
      match propsWithChildren f props children with
      | .error fault => (.error fault, s)
      | .ok props =>
        match bindProps f props with
        | some args => run B f args s
        | none => (.error .badArguments, s) := by
  unfold callComponent
  rw [Attempt.bind_apply, Attempt.ofExcept_apply]
  cases propsWithChildren f props children with
  | error fault => rfl
  | ok props =>
      dsimp only
      cases bindProps f props <;> rfl

theorem Press.inSession_apply {α : Type} {step : Attempt (Session σ) C α} {press : Press σ}
    {answer : Except (Fault C) α} {s : Session σ} (h : step press.session = (answer, s)) :
    inSession step press = (answer, { press with session := s }) := by
  unfold inSession
  rw [h]

/-! ## Visits tell the meaning -/

/-- The markup of a visited forest without markers. -/
def Visited.markup (forest : Visited C) : String :=
  (forest.labelled none).1.print

theorem Visited.markup_append (f g : Visited C) : markup (f ++ g) = f.markup ++ g.markup := by
  unfold markup labelled
  rw [Forest.thread_append, Forest.print_append]
  rw [show (f.thread TagVisit.label none).2 = none from
    congrArg Prod.snd (Visited.labelled_none f)]

theorem Visited.markup_node (t : TagVisit C) (inside : Visited C) :
    markup (.node t inside .nil) =
      t.plainLabel.openTag ++ (inside.markup ++ t.plainLabel.closeTag) := by
  unfold markup
  rw [Visited.labelled_none, Visited.labelled_none]
  simp [Forest.map, Forest.print, String.append_assoc]

/-- What a meaning comes to in any session is what a visit leads to: the markup of the forest, or
the fault, and the session afterwards. -/
def Tells (m : Attempt (Press σ) C (Visited C)) (n : Meaning C σ) : Prop :=
  ∀ press, outcome (n press.session) = ((m press).1.map Visited.markup, (m press).2.session)

namespace Tells

open Meaning

theorem nothing : Tells (pure .nil : Attempt (Press σ) C (Visited C)) nothing := by
  intro press
  rfl

theorem written (a : Leaf) :
    Tells (pure (.leaf a .nil) : Attempt (Press σ) C (Visited C)) (written a.print) := by
  intro press
  rfl

theorem faulty (place : Place) {faults : List (Fault C)} {fault : Fault C}
    (h : faults.head? = some fault) :
    Tells (throw fault : Attempt (Press σ) C (Visited C)) (faulty place faults) := by
  intro press
  rw [outcome_faulty place h]
  rfl

theorem andThen {m m' : Attempt (Press σ) C (Visited C)} {n n' : Meaning C σ}
    (h : Tells m n) (h' : Tells m' n') :
    Tells (do let f ← m; let g ← m'; return f ++ g) (n.andThen n') := by
  intro press
  have hfirst := h press
  rw [outcome_andThen, hfirst]
  cases hrun : m press with
  | mk answer press₁ =>
      cases answer with
      | error fault =>
          rw [Attempt.bind_apply_error hrun]
          rfl
      | ok f =>
          rw [Attempt.bind_apply_ok hrun]
          have hsecond := h' press₁
          cases hrun' : m' press₁ with
          | mk answer press₂ =>
              rw [hrun'] at hsecond
              cases answer with
              | error fault =>
                  rw [Attempt.bind_apply_error hrun']
                  simp only [Except.map, hsecond]
              | ok g =>
                  rw [Attempt.bind_apply_ok hrun']
                  simp only [Except.map, hsecond, Attempt.pure_apply, Visited.markup_append]

theorem each {visit : Value C → Attempt (Press σ) C (Visited C)}
    {item : Place → Value C → Meaning C σ} (h : ∀ place v, Tells (visit v) (item place v))
    (place : Place) (n : Nat) (vs : List (Value C)) :
    Tells (Renderer.visitEach visit vs) (each item place n vs) := by
  induction vs generalizing n with
  | nil => exact nothing
  | cons v rest ih => exact andThen (h _ v) (ih (n + 1))

theorem drawn (source : Nat) (vs : List (Value C))
    {visit : List (Value C) → Attempt (Press σ) C (Visited C)}
    {items : List (Value C) → Meaning C σ} (h : ∀ vs, Tells (visit vs) (items vs)) :
    Tells (Press.inSession (Session.draw source vs) >>= visit) (drawn source vs items) := by
  intro press
  have hdraw := Session.draw_apply source vs press.session
  unfold Meaning.drawn
  by_cases hspent : press.session.spent.contains source
  · rw [if_pos hspent] at hdraw
    rw [if_pos hspent, Attempt.bind_apply_ok (Press.inSession_apply hdraw)]
    exact h [] press
  · rw [if_neg hspent] at hdraw
    rw [if_neg hspent, Attempt.bind_apply_ok (Press.inSession_apply hdraw)]
    exact h vs { press with session := { press.session with
      spent := source :: press.session.spent } }

theorem call (B : Behaviour C σ) (place : Place) (f : Callable (Value C) C) (props : Entries C)
    (children : List (Value C)) {visit : Value C → Attempt (Press σ) C (Visited C)}
    {result : Value C → Meaning C σ} (h : ∀ v, Tells (visit v) (result v)) :
    Tells (Press.inSession (Session.callComponent B f props children) >>= visit)
      (call B place f props children result) := by
  intro press
  have hcall := Session.callComponent_apply B f props children press.session
  unfold Meaning.call
  -- the arguments are refused before the call, or the code ends with a fault or with a value
  cases hprops : Session.propsWithChildren f props children with
  | error fault =>
      simp only [hprops] at hcall
      rw [Attempt.bind_apply_error (Press.inSession_apply hcall)]
      rfl
  | ok props =>
      cases hbind : Session.bindProps f props with
      | none =>
          simp only [hprops, hbind] at hcall
          rw [Attempt.bind_apply_error (Press.inSession_apply hcall)]
          simp only [hbind]
          rfl
      | some args =>
          simp only [hprops, hbind] at hcall
          simp only [hbind]
          cases hrun : Session.run B f args press.session with
          | mk answer s =>
              rw [hrun] at hcall
              cases answer with
              | error fault =>
                  rw [Attempt.bind_apply_error (Press.inSession_apply hcall)]
                  rfl
              | ok v =>
                  rw [Attempt.bind_apply_ok (Press.inSession_apply hcall)]
                  exact h v { press with session := s }

/-- A tag that is closed stands around what is inside. -/
theorem closed (t : TagVisit C) (hvoid : Vocabulary.isVoid t.tag.name = false)
    {m : Attempt (Press σ) C (Visited C)} {n : Meaning C σ} (h : Tells m n) :
    Tells (do let inside ← m; return .node t inside .nil)
      ((Meaning.written t.plainLabel.openTag).andThen
        (n.andThen (Meaning.written ("</" ++ t.tag.name ++ ">")))) := by
  intro press
  have hinside := h press
  have hclose : t.plainLabel.closeTag = "</" ++ t.tag.name ++ ">" :=
    if_neg (by simpa [TagVisit.plainLabel] using hvoid)
  have hwritten : ∀ markup (s : Session σ),
      outcome (C := C) (Meaning.written markup s) = (.ok markup, s) := by
    intro markup s
    simp [outcome, Meaning.written, firstFault, Event.fault?, markupOf]
  rw [outcome_andThen, hwritten]
  dsimp only
  rw [outcome_andThen, hinside]
  cases hrun : m press with
  | mk answer press₁ =>
      cases answer with
      | error fault =>
          rw [Attempt.bind_apply_error hrun]
          rfl
      | ok f =>
          rw [Attempt.bind_apply_ok hrun]
          simp only [Except.map, hwritten, Attempt.pure_apply, Visited.markup_node, hclose]

theorem tag (t : TagVisit C) {m : Attempt (Press σ) C (Visited C)} {n : Meaning C σ}
    (h : Tells m n) :
    Tells (do let inside ← Renderer.visitInside m t.tag t.plan; return .node t inside .nil)
      (tag t n) := by
  unfold Renderer.visitInside Meaning.tag
  by_cases hvoid : Vocabulary.isVoid t.tag.name
  · simp only [hvoid, if_true]
    intro press
    have hclose : t.plainLabel.closeTag = "" := if_pos hvoid
    show (Except.ok (t.plainLabel.openTag ++ ""), press.session) =
      (Except.ok (Visited.markup (.node t .nil .nil)), press.session)
    rw [Visited.markup_node, hclose]
    rfl
  · have hvoid : Vocabulary.isVoid t.tag.name = false := by simpa using hvoid
    by_cases hinner : t.plan.innerHtml.isTruthy
    · simp only [hvoid, hinner, if_true]
      exact closed t hvoid (written (.verbatim (Renderer.innerMarkup t.plan.innerHtml)))
    · simp only [hvoid, hinner]
      exact closed t hvoid h

end Tells

namespace Renderer

theorem visitTag_afresh (children : Attempt (Press σ) C (Visited C)) (selector : String)
    (given : Option (Entries C)) :
    visitTag Press.readAfresh children selector given = (do
      let t ← ofExcept (TagVisit.read selector given)
      let inside ← visitInside children t.tag t.plan
      return .node t inside .nil) := by
  funext press
  unfold visitTag Press.readAfresh TagVisit.read
  simp only [Attempt.bind_apply, Attempt.ofExcept_apply]
  cases (Tag.parse selector).mapError (Fault.selector (C := C)) with
  | error fault => rfl
  | ok tag =>
      dsimp only [bind, Except.bind]
      cases AttributePlan.prepare (seedOf tag) given <;> rfl

/-- A visit that reads every selector afresh leads to what the meaning comes to. -/
theorem visit_tells (B : Behaviour C σ) (limit levels : Nat) (place : Place) (v : Value C) :
    Tells (visit B Press.readAfresh limit levels v) (meaning B limit levels place v) := by
  -- on the levels that are left; places and elements change from level to level
  induction levels generalizing place v with
  | zero => exact Tells.faulty place rfl
  | succ levels ih =>
      unfold visit meaning Value.shape Value.faults
      cases v.check with
      | error fault => exact Tells.faulty place rfl
      | ok =>
          simp only [faultsOf, List.nil_append]
          cases v.presentShape with
          | skip => exact Tells.nothing
          | text v => exact Tells.written (.text v.leafText)
          | markup v html => exact Tells.written (.verbatim html)
          | items vs => exact Tells.each ih place 0 vs
          | stream source vs => exact Tells.drawn source vs (Tells.each ih place 0)
          | fragment children => exact Tells.each ih place 0 children
          | component f props children =>
              exact Tells.call B place f props children (ih (place ++ [0]))
          | tag selector given children =>
              show Tells (visitTag Press.readAfresh _ selector given) _
              rw [visitTag_afresh]
              -- the tag is read unless it has a fault of its own
              have hfaults := TagVisit.head?_faults_read selector given children
              cases hread : TagVisit.read selector given with
              | ok t =>
                  rw [hread] at hfaults
                  rw [List.head?_eq_none_iff.1 hfaults]
                  simp only [hread]
                  exact Tells.tag t (Tells.each ih place 0 children)
              | error fault =>
                  rw [hread] at hfaults
                  rcases List.head?_eq_some_iff.1 hfaults with ⟨others, hothers⟩
                  rw [hothers]
                  exact Tells.faulty place rfl

end Renderer

/-! ## Document order -/

namespace Place

/-- Whatever stands inside an element comes after the element. -/
theorem lt_of_item {place p : Place} {n : Nat} (h : place ++ [n] <+: p) : place < p := by
  rcases h with ⟨rest, rfl⟩
  have hlt : place ++ [] < place ++ ([n] ++ rest) :=
    List.append_left_lt (List.nil_lt_cons n rest)
  rwa [List.append_nil, ← List.append_assoc] at hlt

/-- Whatever stands in an earlier item comes before all that stands in a later one. -/
theorem lt_of_items {place p q : Place} {m n : Nat} (hmn : m < n) (hp : place ++ [m] <+: p)
    (hq : place ++ [n] <+: q) : p < q := by
  rcases hp with ⟨rest, rfl⟩
  rcases hq with ⟨others, rfl⟩
  rw [List.append_assoc, List.append_assoc]
  exact List.append_left_lt (List.cons_lt_cons_iff.2 (Or.inl hmn))

end Place

theorem Session.calls_run (B : Behaviour C σ) (f : Callable (Value C) C)
    (args : Arguments (Value C)) (s : Session σ) :
    (run B f args s).2.calls = s.calls ++ [f.name] := by
  unfold run
  rw [Attempt.bind_apply_ok (Attempt.modify_apply _ s)]
  split <;> rfl

namespace Meaning

/-- All that a meaning tells stands in one part of the document and in document order, and the
session counts the calls up to the first fault. -/
structure Orderly (part : Place → Prop) (m : Meaning C σ) : Prop where
  within : ∀ s, ∀ e ∈ (m s).1, ∀ p ∈ e.place?, part p
  ordered : ∀ s, (m s).1.Pairwise Event.Precedes
  counted : ∀ s, (outcome (m s)).2.calls = s.calls ++ callsMade (m s).1

namespace Orderly

variable {part part' whole : Place → Prop} {m n : Meaning C σ}

theorem mono (h : Orderly part m) (hpart : ∀ p, part p → whole p) : Orderly whole m :=
  ⟨fun s e he p hp => hpart p (h.within s e he p hp), h.ordered, h.counted⟩

theorem nothing : Orderly part (nothing : Meaning C σ) :=
  ⟨by simp [Meaning.nothing], fun s => .nil, fun s => (List.append_nil _).symm⟩

theorem written (markup : String) : Orderly part (written markup : Meaning C σ) :=
  ⟨by simp [Meaning.written, Event.place?], fun s => List.pairwise_singleton _ _,
    fun s => (List.append_nil _).symm⟩

theorem faulty (place : Place) (faults : List (Fault C)) :
    Orderly (place <+: ·) (faulty place faults : Meaning C σ) := by
  refine ⟨?_, ?_, ?_⟩
  · intro s e he p hp
    rcases List.mem_map.1 he with ⟨fault, -, rfl⟩
    cases hp
    exact List.prefix_refl place
  · intro s
    unfold Meaning.faulty
    rw [List.pairwise_map]
    -- faults of one element stand in one place
    refine List.pairwise_of_forall ?_
    intro fault fault' p hp q hq
    cases hp
    cases hq
    exact Or.inr ⟨rfl, rfl⟩
  · intro s
    cases faults with
    | nil => exact (List.append_nil _).symm
    | cons fault rest => exact (List.append_nil _).symm

theorem andThen (hm : Orderly part m) (hn : Orderly part' n)
    (hlt : ∀ p q, part p → part' q → p < q) (hpart : ∀ p, part p ∨ part' p → whole p) :
    Orderly whole (m.andThen n) := by
  refine ⟨?_, ?_, ?_⟩
  · intro s e he p hp
    rcases List.mem_append.1 he with he | he
    · exact hpart p (Or.inl (hm.within s e he p hp))
    · exact hpart p (Or.inr (hn.within _ e he p hp))
  · intro s
    refine List.pairwise_append.2 ⟨hm.ordered s, hn.ordered _, ?_⟩
    intro e he e' he' p hp q hq
    exact Or.inl (hlt p q (hm.within s e he p hp) (hn.within _ e' he' q hq))
  · intro s
    have hfirst := hm.counted s
    have hsecond := hn.counted (m s).2
    unfold outcome at hfirst hsecond ⊢
    show (match firstFault ((m s).1 ++ (n (m s).2).1) with
      | some (fault, session) => (Except.error fault, session)
      | none => (.ok (markupOf ((m s).1 ++ (n (m s).2).1)), (n (m s).2).2)).2.calls =
      s.calls ++ callsMade ((m s).1 ++ (n (m s).2).1)
    rw [firstFault_append]
    cases hfault : firstFault (m s).1 with
    | some found =>
        rw [hfault] at hfirst
        rw [callsMade_append_of_fault hfault]
        exact hfirst
    | none =>
        rw [hfault] at hfirst
        rw [callsMade_append hfault, ← List.append_assoc, ← hfirst]
        cases hfault' : firstFault (n (m s).2).1 with
        | some found =>
            rw [hfault'] at hsecond
            exact hsecond
        | none =>
            rw [hfault'] at hsecond
            exact hsecond

/-- The items from the one with this number on. -/
theorem each {item : Place → Value C → Meaning C σ} {place : Place}
    (h : ∀ n v, Orderly (place ++ [n] <+: ·) (item (place ++ [n]) v)) (n : Nat)
    (vs : List (Value C)) :
    Orderly (fun p => ∃ i, n ≤ i ∧ place ++ [i] <+: p) (each item place n vs) := by
  induction vs generalizing n with
  | nil => exact nothing
  | cons v rest ih =>
      apply (h n v).andThen (ih (n + 1))
      · rintro p q hp ⟨i, hi, hq⟩
        exact Place.lt_of_items hi hp hq
      · rintro p (hp | ⟨i, hi, hp⟩)
        · exact ⟨n, Nat.le_refl n, hp⟩
        · exact ⟨i, Nat.le_of_succ_le hi, hp⟩

theorem inside {place : Place} (h : Orderly (fun p => ∃ i, 0 ≤ i ∧ place ++ [i] <+: p) m) :
    Orderly (place <+: ·) m := by
  apply h.mono
  rintro p ⟨i, -, hp⟩
  exact (List.prefix_append place [i]).trans hp

theorem drawn (source : Nat) (vs : List (Value C)) {items : List (Value C) → Meaning C σ}
    (h : ∀ vs, Orderly part (items vs)) : Orderly part (drawn source vs items) := by
  have hcases : ∀ s, ∃ vs' s', Meaning.drawn source vs items s = items vs' s' ∧
      s'.calls = s.calls := by
    intro s
    unfold Meaning.drawn
    split
    · exact ⟨[], s, rfl, rfl⟩
    · exact ⟨vs, _, rfl, rfl⟩
  refine ⟨?_, ?_, ?_⟩
  · intro s
    rcases hcases s with ⟨vs', s', hs', -⟩
    exact hs' ▸ (h vs').within s'
  · intro s
    rcases hcases s with ⟨vs', s', hs', -⟩
    exact hs' ▸ (h vs').ordered s'
  · intro s
    rcases hcases s with ⟨vs', s', hs', hcalls⟩
    rw [hs', ← hcalls]
    exact (h vs').counted s'

theorem call (B : Behaviour C σ) (place : Place) (f : Callable (Value C) C) (props : Entries C)
    (children : List (Value C)) {result : Value C → Meaning C σ}
    (h : ∀ v, Orderly (place ++ [0] <+: ·) (result v)) :
    Orderly (place <+: ·) (call B place f props children result) := by
  unfold Meaning.call
  cases Session.propsWithChildren f props children with
  | error fault => exact faulty place [fault]
  | ok props =>
      dsimp only
      cases Session.bindProps f props with
      | none => exact faulty place [.badArguments]
      | some args =>
          dsimp only
          -- what comes of the call, and why it comes behind the call
          have hanswer : ∀ answer, Orderly (place <+: ·) (answered place result answer) := by
            intro answer
            cases answer with
            | error fault => exact faulty place [fault]
            | ok v =>
                exact (h v).mono fun p hp => (List.prefix_append place [0]).trans hp
          have hafter : ∀ answer s, ∀ e ∈ (answered place result answer s).1,
              Event.Precedes (.called place f) e := by
            intro answer s e he p hp q hq
            cases hp
            cases answer with
            | error fault =>
                rcases List.mem_map.1 he with ⟨fault', -, rfl⟩
                cases hq
                exact Or.inr ⟨rfl, rfl⟩
            | ok v => exact Or.inl (Place.lt_of_item ((h v).within s e he q hq))
          refine ⟨?_, ?_, ?_⟩
          · intro s e he p hp
            rcases List.mem_cons.1 he with rfl | he
            · cases hp
              exact List.prefix_refl place
            · exact (hanswer _).within _ e he p hp
          · intro s
            exact List.pairwise_cons.2 ⟨hafter _ _, (hanswer _).ordered _⟩
          · intro s
            have hcalls := (hanswer (Session.run B f args s).1).counted (Session.run B f args s).2
            rw [Session.calls_run, List.append_assoc] at hcalls
            exact hcalls

theorem tag (t : TagVisit C) {place : Place} (h : Orderly (place <+: ·) m) :
    Orderly (place <+: ·) (tag t m) := by
  -- markup has no place, so it can stand anywhere
  have hwritten : ∀ markup, Orderly (fun _ => False) (Meaning.written markup : Meaning C σ) :=
    Orderly.written
  have hinside : Orderly (place <+: ·)
      (if t.plan.innerHtml.isTruthy then
        (Meaning.written (Renderer.innerMarkup t.plan.innerHtml) : Meaning C σ) else m) := by
    split
    · exact Orderly.written _
    · exact h
  unfold Meaning.tag
  split
  · exact Orderly.written _
  · have hclosed : Orderly (place <+: ·) (Meaning.andThen _ _) :=
      hinside.andThen (hwritten ("</" ++ t.tag.name ++ ">")) (fun p q _ hq => hq.elim)
        fun p hp => hp.elim id False.elim
    exact (hwritten _).andThen hclosed (fun p q hp _ => hp.elim) fun p hp => hp.elim False.elim id

end Orderly

end Meaning

/-- Whatever an element is, what it tells is told in document order. -/
theorem meaning_orderly (B : Behaviour C σ) (limit levels : Nat) (place : Place) (v : Value C) :
    (meaning B limit levels place v).Orderly (place <+: ·) := by
  induction levels generalizing place v with
  | zero => exact Meaning.Orderly.faulty place _
  | succ levels ih =>
      have hitems : ∀ vs, (Meaning.each (meaning B limit levels) place 0 vs).Orderly
          (place <+: ·) :=
        fun vs => (Meaning.Orderly.each (fun n v => ih (place ++ [n]) v) 0 vs).inside
      unfold meaning
      split
      · cases v.presentShape with
        | skip => exact Meaning.Orderly.nothing
        | text v => exact Meaning.Orderly.written _
        | markup v html => exact Meaning.Orderly.written html
        | items vs => exact hitems vs
        | stream source vs => exact Meaning.Orderly.drawn source vs hitems
        | fragment children => exact hitems children
        | component f props children =>
            exact Meaning.Orderly.call B place f props children (ih (place ++ [0]))
        | tag selector given children =>
            cases hread : TagVisit.read selector given with
            | ok t =>
                simp only [hread]
                exact Meaning.Orderly.tag t (hitems children)
            | error fault =>
                simp only [hread]
                exact Meaning.Orderly.faulty place [fault]
      · exact Meaning.Orderly.faulty place _

/-! ## Renderings -/

namespace Renderer

/-- What elements that are rendered together stand for. -/
def meaningAll (B : Behaviour C σ) (settings : Settings) (elements : List (Value C)) :
    Meaning C σ :=
  meaning B settings.maxDepth (settings.maxDepth + 1) [] (root elements)

theorem visitAll_tells (B : Behaviour C σ) (settings : Settings) (elements : List (Value C)) :
    Tells (visitAll B Press.readAfresh settings elements) (meaningAll B settings elements) :=
  visit_tells B settings.maxDepth (settings.maxDepth + 1) [] (root elements)

theorem meaningAll_orderly (B : Behaviour C σ) (settings : Settings)
    (elements : List (Value C)) : (meaningAll B settings elements).Orderly ([] <+: ·) :=
  meaning_orderly B settings.maxDepth (settings.maxDepth + 1) [] (root elements)

theorem html_tells (B : Behaviour C σ) (settings : Settings) (elements : List (Value C))
    {press : Press σ} (reached : press.Reached C) (room : 1 ≤ press.cache.capacity) :
    ((html B settings elements press).1, (html B settings elements press).2.session) =
      outcome (meaningAll B settings elements press.session) := by
  rw [visitAll_tells B settings elements press, html_answer, Press.html_press]
  -- a store with room is as good as reading every selector afresh
  rcases visitAll_agrees B settings elements press press reached.faithful rfl with
    ⟨-, -, ⟨hanswer, hsession⟩ | ⟨-, hnone⟩⟩
  · rw [hanswer, hsession]
    rfl
  · omega

/-- Rendering to markup comes to what the meaning of the elements comes to, in the answer and in
the session. What the meaning tells stands in document order, with every component called once
in its place; the components that are called are those before the first fault. -/
theorem html_eq_meaning (B : Behaviour C σ) (settings : Settings) (elements : List (Value C))
    {press : Press σ} (reached : press.Reached C) (room : 1 ≤ press.cache.capacity) :
    ∃ events session,
      meaningAll B settings elements press.session = (events, session) ∧
      ((html B settings elements press).1, (html B settings elements press).2.session) =
        outcome (events, session) ∧
      (html B settings elements press).2.session.calls =
        press.session.calls ++ callsMade events ∧
      events.Pairwise Event.Precedes := by
  have hhtml := html_tells B settings elements reached room
  have horderly := meaningAll_orderly B settings elements
  have hcounted := horderly.counted press.session
  have hordered := horderly.ordered press.session
  rw [← hhtml] at hcounted
  cases hmeaning : meaningAll B settings elements press.session with
  | mk events session =>
      rw [hmeaning] at hhtml hcounted hordered
      exact ⟨events, session, rfl, hhtml, hcounted, hordered⟩

/-- Components in a void tag, behind inner markup, as children that come back and as children
that do not; and three faults, of which the result of the last component comes first. -/
def faultyItems : Value Nat :=
  let component (name : String) (children : List (Value Nat)) : Value Nat :=
    .list (.callable (.sample name) :: children)
  let sink : Callable (Value Nat) Nat :=
    ⟨"Sink", false, some ⟨[⟨"rest", .restKeywords⟩], []⟩, false, 0⟩
  .list [.list [.str "br", component "Hidden" []],
    .list [.str "p", .mapping [(.str "dangerouslySetInnerHTML", .str "<i>")],
      component "Covered" []],
    component "Card" [component "Inner" []],
    .list [.callable sink, component "Dropped" []],
    .list [.str "b#", component "Late" []],
    .undefined]

theorem html_eq_meaning_faultyItems :
    (Press.start 10 () : Press Unit).Reached Nat ∧
      (1 : Int) ≤ (Press.start 10 () : Press Unit).cache.capacity ∧
      ∃ fault after,
        html .echo .standard [faultyItems] (.start 10 ()) = (.error fault, after) ∧
        fault.message = "None values are not allowed. Use False instead." ∧
        after.session.calls = ["Card", "Inner", "Sink"] := by
  have hreached : (Press.start 10 () : Press Unit).Reached Nat := .start 10 ()
  have hroom : (1 : Int) ≤ (Press.start 10 () : Press Unit).cache.capacity := by decide
  obtain ⟨events, session, hmeaning, hhtml, hcalls, -⟩ :=
    html_eq_meaning .echo .standard [faultyItems] hreached hroom
  have htold : (fun told : List (Event Nat Unit) × Session Unit =>
      ((firstFault told.1).map fun found => found.1.message,
        (told.1.filterMap Event.fault?).length, callsMade told.1))
        (meaningAll .echo .standard [faultyItems] (Session.start ())) =
      (some "None values are not allowed. Use False instead.", 3, ["Card", "Inner", "Sink"]) := by
    decide +kernel
  rw [show meaningAll .echo .standard [faultyItems] (Session.start ()) = (events, session) from
    hmeaning] at htold
  rcases Prod.mk.inj htold with ⟨hfirst, hothers⟩
  rcases Prod.mk.inj hothers with ⟨-, hmade⟩
  rcases Option.map_eq_some_iff.1 hfirst with ⟨⟨fault, found⟩, hfault, hmessage⟩
  unfold outcome at hhtml
  simp only [hfault] at hhtml
  refine ⟨hreached, hroom, ?_⟩
  rw [hmade] at hcalls
  generalize html .echo .standard [faultyItems] (.start 10 ()) = ending at hhtml hcalls ⊢
  rcases ending with ⟨answer, after⟩
  rcases Prod.mk.inj hhtml with ⟨hanswer, -⟩
  exact ⟨fault, after, Prod.ext hanswer rfl, hmessage, hcalls⟩

end Renderer
end MarkupTree
