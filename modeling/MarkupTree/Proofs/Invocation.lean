import MarkupTree.Proofs.Exchange
import MarkupTree.Proofs.Sources

/-!
# Invocation — how a component is called

A component is called by name: the properties are its keywords, and the children that stand behind
it may be one more. Whether they are passed on is decided before the call from the parameters, while
the call itself looks at how each parameter may be given. Both agree except for one kind of
component: one with a parameter that is called like the children but cannot be given by name. Such a
component is handed the keyword and refuses every call.

* `Session.callNamed` is a call with given keywords, `Arguments.Holds` says what reaches the code.
* `Callable.TakesChildren` says that children can be given by name.
* `Session.takesChildren_of_bindNamed` and `Session.exists_bindNamed_put` compare this with calls.
* `Renderer.component_invocation` says what rendering a component comes to.
-/

namespace MarkupTree

variable {C σ : Type}

/-! ## Parameters for children -/

namespace Signature

variable {V : Type} (s : Signature V)

theorem takesKeyword_iff (name : String) :
    s.takesKeyword name = true ↔
      ∃ p ∈ s.parameters, p.name = name ∧ (p.kind = .normal ∨ p.kind = .keywordOnly) := by
  have hkind : ∀ kind : ParameterKind,
      kind.byName = true ↔ kind = .normal ∨ kind = .keywordOnly := by
    intro kind
    cases kind <;> simp [ParameterKind.byName]
  simp [takesKeyword, hkind]

theorem collectsKeywords_iff :
    s.collectsKeywords = true ↔ ∃ p ∈ s.parameters, p.kind = .restKeywords := by
  simp [collectsKeywords]

end Signature

namespace Callable

variable {V : Type}

/-- Children can be given by name: there is such a parameter, further keywords are collected, or the
parameters are not known. -/
def TakesChildren (f : Callable V C) : Prop :=
  ∀ s ∈ f.signature,
    (∃ p ∈ s.parameters, p.name = "children" ∧ (p.kind = .normal ∨ p.kind = .keywordOnly)) ∨
      ∃ p ∈ s.parameters, p.kind = .restKeywords

/-- Some parameter is called like the children, however it may be given. -/
def NamesChildren (f : Callable V C) : Prop :=
  ∃ s ∈ f.signature, ∃ p ∈ s.parameters, p.name = "children"

theorem acceptsChildren_iff (f : Callable V C) :
    f.acceptsChildren = true ↔ f.TakesChildren ∨ f.NamesChildren := by
  unfold acceptsChildren TakesChildren NamesChildren
  cases f.signature with
  | none => simp
  | some s =>
      simp only [List.any_eq_true, Bool.or_eq_true, beq_iff_eq, Option.mem_some_iff,
        forall_eq', exists_eq_left']
      constructor
      · rintro ⟨p, hp, hname | hkind⟩
        · exact Or.inr ⟨p, hp, hname⟩
        · exact Or.inl (Or.inr ⟨p, hp, hkind⟩)
      · rintro ((⟨p, hp, hname, -⟩ | ⟨p, hp, hkind⟩) | ⟨p, hp, hname⟩)
        · exact ⟨p, hp, Or.inl hname⟩
        · exact ⟨p, hp, Or.inr hkind⟩
        · exact ⟨p, hp, Or.inl hname⟩

end Callable

/-! ## Calls by name -/

/-- A value reaches the code under a name: a parameter of that name is bound to it, or it is among
the keywords that another parameter collects. -/
def Arguments.Holds (args : Arguments (Value C)) (name : String) (v : Value C) : Prop :=
  (name, v) ∈ args.bound ∨
    ∃ rest keywords, (rest, Session.keywordMapping keywords) ∈ args.bound ∧ (name, v) ∈ keywords

theorem Table.lookup_eq_get? {α : Type} (name : String) (t : Table α) :
    List.lookup name t = t.get? name := by
  induction t with
  | nil => rfl
  | cons e rest ih =>
      rw [List.lookup_cons, ih]
      by_cases h : e.1 = name
      · simp [get?, h]
      · have hne : (name == e.1) = false := beq_false_of_ne (Ne.symm h)
        simp [get?, h, hne]

/-- After a value is put, every name is an old one or the new one. -/
theorem Table.name_of_mem_put {α : Type} {name : String} {a : α} {t : Table α} {e : String × α}
    (h : e ∈ t.put name a) : e.1 ∈ t.names ∨ e.1 = name := by
  have hname : e.1 ∈ names (t.put name a) := List.mem_map_of_mem h
  rw [names_put] at hname
  split at hname
  · exact Or.inl hname
  · simpa using hname

/-- Something is collected of every member of a list. -/
theorem exists_mapM {α β : Type} {f : α → Option β} {as : List α}
    (h : ∀ a ∈ as, ∃ b, f a = some b) : ∃ bs, as.mapM f = some bs := by
  induction as with
  | nil => exact ⟨[], rfl⟩
  | cons a rest ih =>
      obtain ⟨b, hb⟩ := h a (by simp)
      obtain ⟨bs, hbs⟩ := ih fun a' ha' => h a' (List.mem_cons_of_mem _ ha')
      exact ⟨b :: bs, mapM_eq_some_iff.2 (by simp [hb, mapM_eq_some_iff.1 hbs])⟩

namespace Session

/-- The arguments that keywords come to. -/
def bindNamed (f : Callable (Value C) C) (keywords : Table (Value C)) :
    Option (Arguments (Value C)) :=
  match f.signature with
  | some s => s.bindKeywords .tuple keywordMapping keywords
  | none => some ⟨keywords, keywords.names⟩

/-- A call with keywords and nothing else: the code is entered if they fit the parameters. -/
def callNamed (B : Behaviour C σ) (f : Callable (Value C) C) (keywords : Table (Value C)) :
    Attempt (Session σ) C (Value C) :=
  match bindNamed f keywords with
  | some args => run B f args
  | none => throw .badArguments

theorem bindNamed_eq_some {f : Callable (Value C) C} {s : Signature (Value C)}
    (hs : f.signature = some s) {keywords : Table (Value C)} {args : Arguments (Value C)} :
    bindNamed f keywords = some args ↔
      (∀ kw ∈ keywords, s.takesKeyword kw.1 = true ∨ s.collectsKeywords = true) ∧
        s.parameters.mapM (s.bindParameter .tuple keywordMapping keywords) = some args.bound ∧
        args.received = keywords.names := by
  have hfit : (keywords.all fun kw => s.takesKeyword kw.1 || s.collectsKeywords) = true ↔
      ∀ kw ∈ keywords, s.takesKeyword kw.1 = true ∨ s.collectsKeywords = true := by
    simp
  unfold bindNamed Signature.bindKeywords
  simp only [hs]
  split
  · next hall =>
      rw [Option.map_eq_some_iff]
      constructor
      · rintro ⟨bound, hbound, rfl⟩
        exact ⟨hfit.1 hall, hbound, rfl⟩
      · rintro ⟨-, hbound, hreceived⟩
        exact ⟨args.bound, hbound, by rw [← Table.names, ← hreceived]⟩
  · next hall =>
      constructor
      · intro h
        cases h
      · rintro ⟨hkeywords, -⟩
        exact absurd (hfit.2 hkeywords) hall

/-- A keyword that is called like the children fits only where children can be given by name. -/
theorem takesChildren_of_bindNamed {f : Callable (Value C) C} {keywords : Table (Value C)}
    {args : Arguments (Value C)} (h : bindNamed f keywords = some args) {v : Value C}
    (hv : keywords.get? "children" = some v) : f.TakesChildren := by
  intro s hs
  rcases ((bindNamed_eq_some hs).1 h).1 _ (Table.mem_of_get? hv) with htakes | hcollects
  · exact Or.inl ((s.takesKeyword_iff _).1 htakes)
  · exact Or.inr (s.collectsKeywords_iff.1 hcollects)

/-- A parameter that is not missing is not missing either when there is one more keyword. -/
theorem exists_bindParameter_put {s : Signature (Value C)} {keywords : Table (Value C)}
    {p : Parameter} {bound : String × Value C}
    (h : s.bindParameter .tuple keywordMapping keywords p = some bound) (name : String)
    (v : Value C) :
    ∃ bound', s.bindParameter .tuple keywordMapping (keywords.put name v) p = some bound' := by
  have hgiven : ∀ w, (keywords.lookup p.name).or (s.fallbacks.lookup p.name) = some w →
      ∃ w', ((keywords.put name v).lookup p.name).or (s.fallbacks.lookup p.name) = some w' := by
    intro w hw
    rw [Table.lookup_eq_get?]
    by_cases hname : p.name = name
    · exact ⟨v, by rw [hname, Table.get?_put_self, Option.some_or]⟩
    · exact ⟨w, by rw [Table.get?_put_of_ne hname, ← Table.lookup_eq_get?, hw]⟩
  -- only parameters that are given by name, or collect what is, look at the keywords at all
  unfold Signature.bindParameter at h ⊢
  cases hkind : p.kind <;> simp only [hkind] at h ⊢
  case normal | keywordOnly =>
    obtain ⟨w, hw, -⟩ := Option.map_eq_some_iff.1 h
    obtain ⟨w', hw'⟩ := hgiven w hw
    exact ⟨(p.name, w'), by rw [hw', Option.map_some]⟩
  case positionalOnly | restPositional => exact ⟨bound, h⟩
  case restKeywords => exact ⟨_, rfl⟩

/-- Where children can be given by name, keywords that fit still fit with children put among
them. -/
theorem exists_bindNamed_put {f : Callable (Value C) C} (hf : f.TakesChildren)
    {keywords : Table (Value C)} {args : Arguments (Value C)}
    (h : bindNamed f keywords = some args) (v : Value C) :
    ∃ args', bindNamed f (keywords.put "children" v) = some args' := by
  cases hs : f.signature with
  | none => exact ⟨⟨_, _⟩, by simp only [bindNamed, hs]; rfl⟩
  | some s =>
      obtain ⟨hfit, hbound, -⟩ := (bindNamed_eq_some hs).1 h
      have hchildren : s.takesKeyword "children" = true ∨ s.collectsKeywords = true := by
        rw [s.takesKeyword_iff, s.collectsKeywords_iff]
        exact hf s hs
      have hnew := exists_mapM fun p hp => by
        obtain ⟨bound, -, hp⟩ := mem_of_mapM hbound p hp
        exact exists_bindParameter_put hp "children" v
      obtain ⟨bound, hbound'⟩ := hnew
      refine ⟨⟨bound, _⟩, (bindNamed_eq_some hs).2 ⟨?_, hbound', rfl⟩⟩
      intro kw hkw
      -- each name fitted before, or it is the name of the children
      rcases Table.name_of_mem_put hkw with hold | hname
      · obtain ⟨kw', hkw', hname⟩ := List.mem_map.1 hold
        exact hname ▸ hfit kw' hkw'
      · rw [hname]
        exact hchildren

/-- Every keyword of a call that fits reaches the code. -/
theorem holds_of_bindNamed {f : Callable (Value C) C} {keywords : Table (Value C)}
    {args : Arguments (Value C)} (h : bindNamed f keywords = some args) {name : String}
    {v : Value C} (hv : keywords.get? name = some v) : args.Holds name v := by
  rw [← Table.lookup_eq_get?] at hv
  have hmem := mem_of_lookup hv
  cases hs : f.signature with
  | none =>
      simp only [bindNamed, hs] at h
      cases h
      exact Or.inl hmem
  | some s =>
      obtain ⟨hfit, hbound, -⟩ := (bindNamed_eq_some hs).1 h
      by_cases htakes : s.takesKeyword name = true
      · -- the parameter of this name is bound to the value
        obtain ⟨p, hp, rfl, hkind⟩ := (s.takesKeyword_iff name).1 htakes
        obtain ⟨bound, hmem, hp⟩ := mem_of_mapM hbound p hp
        have hgiven : some (p.name, v) = some bound := by
          rw [← hp]
          unfold Signature.bindParameter
          rcases hkind with hkind | hkind <;> simp [hkind, hv]
        exact Or.inl (Option.some.inj hgiven ▸ hmem)
      · -- no parameter takes the name, so the value is collected
        rcases hfit (name, v) hmem with htakes' | hcollects
        · exact absurd htakes' htakes
        · obtain ⟨p, hp, hkind⟩ := s.collectsKeywords_iff.1 hcollects
          obtain ⟨bound, hmem', hp⟩ := mem_of_mapM hbound p hp
          simp only [Signature.bindParameter, hkind] at hp
          cases hp
          refine Or.inr ⟨_, _, hmem', List.mem_filter.2 ⟨hmem, ?_⟩⟩
          simpa using htakes

theorem keywords?_put {props : Entries C} {keywords : Table (Value C)}
    (h : keywords? props = some keywords) (name : String) (v : Value C) :
    keywords? (props.put (.str name) v) = some (keywords.put name v) := by
  induction props generalizing keywords with
  | nil =>
      cases h
      rfl
  | cons e rest ih =>
      unfold keywords? at h ih ⊢
      rw [List.mapM_cons] at h
      obtain ⟨first, hfirst, h⟩ := Option.bind_eq_some_iff.1 h
      obtain ⟨others, hothers, h⟩ := Option.bind_eq_some_iff.1 h
      cases h
      obtain ⟨key, hkey, rfl⟩ := Option.map_eq_some_iff.1 hfirst
      have hsame : e.1.sameKey (.str name) = true ↔ key = name := by
        rw [Value.sameKey_of_string? rfl, hkey, Option.some.injEq]
      by_cases hname : key = name
      · -- the present key keeps its place and its spelling
        have hput : Entries.put (.str name) v (e :: rest) = (e.1, v) :: rest := by
          simp [Entries.put, hsame.2 hname]
        have hput' : Table.put name v ((key, e.2) :: others) = (key, v) :: others := by
          simp [Table.put, Table.adjust, hname]
        rw [hput, hput', List.mapM_cons, hkey, hothers]
        rfl
      · have hother : e.1.sameKey (.str name) = false :=
          Bool.eq_false_iff.2 fun h => hname (hsame.1 h)
        have hput : Entries.put (.str name) v (e :: rest) = e :: Entries.put (.str name) v rest := by
          simp [Entries.put, hother]
        have hput' : Table.put name v ((key, e.2) :: others) =
            (key, e.2) :: Table.put name v others := by
          simp [Table.put, Table.adjust, hname]
        rw [hput, hput', List.mapM_cons, hkey, ih hothers]
        rfl

theorem callNamed_apply (B : Behaviour C σ) {f : Callable (Value C) C}
    {keywords : Table (Value C)} {args : Arguments (Value C)}
    (h : bindNamed f keywords = some args) : callNamed B f keywords = run B f args := by
  unfold callNamed
  rw [h]

theorem bindProps_eq (f : Callable (Value C) C) {props : Entries C} {keywords : Table (Value C)}
    (h : keywords? props = some keywords) : bindProps f props = bindNamed f keywords := by
  unfold bindProps bindNamed
  rw [h, Option.bind_some]
  rfl

/-- Once it is decided whether children are passed on, a component is called by name. -/
theorem callComponent_of_ok (B : Behaviour C σ) {f : Callable (Value C) C}
    {props given : Entries C} {children : List (Value C)} {keywords : Table (Value C)}
    (h : propsWithChildren f props children = .ok given)
    (hkeywords : keywords? given = some keywords) :
    callComponent B f props children = callNamed B f keywords := by
  funext session
  rw [callComponent_apply, h]
  dsimp only
  rw [bindProps_eq f hkeywords]
  unfold callNamed
  cases bindNamed f keywords <;> rfl

theorem propsWithChildren_of_accepts {f : Callable (Value C) C} (h : f.acceptsChildren = true)
    (props : Entries C) (children : List (Value C)) :
    propsWithChildren f props children = .ok (props.put (.str "children") (.list children)) :=
  if_pos h

theorem propsWithChildren_of_refuses {f : Callable (Value C) C}
    (h : ¬ f.acceptsChildren = true) (props : Entries C) (children : List (Value C)) :
    propsWithChildren f props children =
      if children = [] then .ok props else .error (.childrenRefused f.reportedName) := by
  unfold propsWithChildren
  rw [if_neg h]
  cases children <;> rfl

end Session

/-! ## Rendering components -/

namespace Renderer

open Canvas Session

/-- Calls a component with keywords and paints what it answers, one level deeper. -/
def paintCall (B : Behaviour C σ) (limit levels : Nat) (f : Callable (Value C) C)
    (keywords : Table (Value C)) : Attempt (Canvas C σ) C Unit := do
  let v ← inSession (callNamed B f keywords)
  paint B limit levels v

/-- A call that fails before any code is entered leaves everything as it is. -/
theorem inSession_error {α : Type} {step : Attempt (Session σ) C α} {fault : Fault C}
    (h : ∀ session, step session = (.error fault, session))
    (next : α → Attempt (Canvas C σ) C Unit) (canvas : Canvas C σ) :
    (inSession step >>= next) canvas = (.error fault, canvas) := by
  apply Attempt.bind_apply_error
  unfold inSession
  rw [h]

section Component

variable (B : Behaviour C σ) {v : Value C} {f : Callable (Value C) C} {props : Entries C}
  {children : List (Value C)} {keywords : Table (Value C)}
  (hshape : v.shape = .ok (.component f props children))
  (hkeywords : keywords? props = some keywords) (limit levels : Nat)

include hshape hkeywords

omit hkeywords in
theorem paint_of_component :
    paint B limit (levels + 1) v =
      inSession (callComponent B f props children) >>= paint B limit levels :=
  paint_of_shape B limit levels hshape

theorem paint_of_accepts (hf : f.acceptsChildren = true) :
    paint B limit (levels + 1) v =
      paintCall B limit levels f (keywords.put "children" (.list children)) := by
  have hput := keywords?_put hkeywords "children" (.list children)
  have hgiven := propsWithChildren_of_accepts hf props children
  rw [paint_of_component B hshape, callComponent_of_ok B hgiven hput]
  rfl

theorem paint_of_refuses (hf : ¬ f.acceptsChildren = true) (hnone : children = []) :
    paint B limit (levels + 1) v = paintCall B limit levels f keywords := by
  have hgiven := propsWithChildren_of_refuses hf props children
  rw [if_pos hnone] at hgiven
  rw [paint_of_component B hshape, callComponent_of_ok B hgiven hkeywords]
  rfl

omit hkeywords in
theorem paint_refused (hf : ¬ f.acceptsChildren = true) (hsome : children ≠ [])
    (canvas : Canvas C σ) :
    paint B limit (levels + 1) v canvas = (.error (.childrenRefused f.reportedName), canvas) := by
  have hgiven := propsWithChildren_of_refuses hf props children
  rw [if_neg hsome] at hgiven
  rw [paint_of_component B hshape]
  refine inSession_error (fun session => ?_) _ canvas
  rw [callComponent_apply, hgiven]

/-- A component that is misled by the name of a parameter cannot be called. -/
theorem paint_misled (hf : ¬ f.TakesChildren) (hnames : f.NamesChildren) (canvas : Canvas C σ) :
    paint B limit (levels + 1) v canvas = (.error .badArguments, canvas) := by
  rw [paint_of_accepts B hshape hkeywords limit levels (f.acceptsChildren_iff.2 (Or.inr hnames))]
  refine inSession_error (fun session => ?_) _ canvas
  cases hargs : bindNamed f (keywords.put "children" (.list children)) with
  | none =>
      unfold callNamed
      rw [hargs]
      rfl
  | some args => exact absurd (takesChildren_of_bindNamed hargs (Table.get?_put_self _ _ _)) hf

/-- How an element is rendered that calls a component with properties under strings and perhaps
children. Where children can be given by name, the component is called once with the properties and
the children, which replace a property of this name. Where they cannot and no parameter is called
like them, children are refused before any call, and without children the component is called once
with the properties alone. Where they cannot and a parameter is called like them all the same, no
call fits; but for such components, whatever fits without children is called without children. -/
theorem component_invocation :
    (f.TakesChildren →
      paint B limit (levels + 1) v =
        paintCall B limit levels f (keywords.put "children" (.list children))) ∧
    (¬ f.TakesChildren → ¬ f.NamesChildren →
      (children ≠ [] → ∀ canvas,
        paint B limit (levels + 1) v canvas =
          (.error (.childrenRefused f.reportedName), canvas)) ∧
      (children = [] → paint B limit (levels + 1) v = paintCall B limit levels f keywords)) ∧
    (¬ f.TakesChildren → f.NamesChildren → ∀ canvas,
      paint B limit (levels + 1) v canvas = (.error .badArguments, canvas)) ∧
    (∀ args, bindNamed f keywords = some args →
      (f.TakesChildren ↔
        ∃ args', bindNamed f (keywords.put "children" (.list children)) = some args') ∧
      (children = [] → (f.NamesChildren → f.TakesChildren) → ∃ given args',
        bindNamed f given = some args' ∧
          paint B limit (levels + 1) v = paintCall B limit levels f given)) ∧
    ∀ given args, bindNamed f given = some args →
      callNamed B f given = run B f args ∧
      (∀ session, (run B f args session).2.calls = session.calls ++ [f.name]) ∧
      ∀ name w, given.get? name = some w → args.Holds name w := by
  have haccepts : f.TakesChildren → f.acceptsChildren = true :=
    fun hf => f.acceptsChildren_iff.2 (Or.inl hf)
  have hrefuses : ¬ f.TakesChildren → ¬ f.NamesChildren → ¬ f.acceptsChildren = true :=
    fun htakes hnames hf => (f.acceptsChildren_iff.1 hf).elim htakes hnames
  refine ⟨fun hf => paint_of_accepts B hshape hkeywords limit levels (haccepts hf), ?_,
    paint_misled B hshape hkeywords limit levels, ?_, ?_⟩
  · intro htakes hnames
    have hf := hrefuses htakes hnames
    exact ⟨fun hsome => paint_refused B hshape limit levels hf hsome,
      fun hnone => paint_of_refuses B hshape hkeywords limit levels hf hnone⟩
  · intro args hargs
    refine ⟨⟨fun hf => exists_bindNamed_put hf hargs _, ?_⟩, ?_⟩
    · rintro ⟨args', hput⟩
      exact takesChildren_of_bindNamed hput (Table.get?_put_self _ _ _)
    · -- a component that takes children is handed the empty list of them
      intro hnone hnames
      by_cases hf : f.TakesChildren
      · obtain ⟨args', hput⟩ := exists_bindNamed_put hf hargs (.list children)
        exact ⟨_, args', hput, paint_of_accepts B hshape hkeywords limit levels (haccepts hf)⟩
      · exact ⟨keywords, args, hargs, paint_of_refuses B hshape hkeywords limit levels
          (hrefuses hf fun h => hf (hnames h)) hnone⟩
  · intro given args hargs
    exact ⟨callNamed_apply B hargs, calls_run B f args, fun name w => holds_of_bindNamed hargs⟩

end Component

/-- A component that takes a title and collects all else. -/
def collector : Callable (Value Nat) Nat :=
  ⟨"Box", false, some ⟨[⟨"title", .keywordOnly⟩, ⟨"others", .restKeywords⟩], []⟩, false, 0⟩

/-- A component that takes a title and nothing else. -/
def titled : Callable (Value Nat) Nat :=
  ⟨"Card", false, some ⟨[⟨"title", .normal⟩], []⟩, false, 0⟩

/-- A component that collects positions under the name of the children. -/
def gatherer : Callable (Value Nat) Nat :=
  ⟨"Row", false, some ⟨[⟨"children", .restPositional⟩], []⟩, false, 0⟩

def boxed : Value Nat :=
  .list [.callable collector, .mapping [(.str "children", .int 7), (.str "title", .str "t")],
    .str "x"]

def card (children : List (Value Nat)) : Value Nat :=
  .list (.callable titled :: .mapping [(.str "title", .str "t")] :: children)

theorem component_invocation_card :
    collector.TakesChildren ∧ ¬ titled.TakesChildren ∧ ¬ titled.NamesChildren ∧
      (paint .echo 9 9 boxed : Attempt (Canvas Nat Unit) Nat Unit) =
        paintCall .echo 9 8 collector [("children", .list [.str "x"]), ("title", .str "t")] ∧
      (paint .echo 9 9 (card []) : Attempt (Canvas Nat Unit) Nat Unit) =
        paintCall .echo 9 8 titled [("title", .str "t")] ∧
      (∃ given args, bindNamed titled given = some args ∧
        (paint .echo 9 9 (card []) : Attempt (Canvas Nat Unit) Nat Unit) =
          paintCall .echo 9 8 titled given) ∧
      ∀ canvas : Canvas Nat Unit, paint .echo 9 9 (card [.str "x"]) canvas =
        (.error (.childrenRefused "Card"), canvas) := by
  have hcollector : collector.TakesChildren := by
    rintro s ⟨⟩
    exact Or.inr ⟨⟨"others", .restKeywords⟩, by simp, rfl⟩
  have htakes : ¬ titled.TakesChildren := by
    intro h
    simpa using h _ rfl
  have hnames : ¬ titled.NamesChildren := by
    rintro ⟨s, ⟨⟩, p, hp, hname⟩
    simp_all
  have hboxed : boxed.shape = .ok (.component collector
      [(.str "children", .int 7), (.str "title", .str "t")] [.str "x"]) := rfl
  have hcard : ∀ children, (card children).shape =
      .ok (.component titled [(.str "title", .str "t")] children) := fun _ => rfl
  have hbox := component_invocation (.echo : Behaviour Nat Unit) hboxed rfl 9 8
  have halone := component_invocation (.echo : Behaviour Nat Unit) (hcard []) rfl 9 8
  have hfilled := component_invocation (.echo : Behaviour Nat Unit) (hcard [.str "x"]) rfl 9 8
  have hfits : bindNamed titled [("title", .str "t")] =
      some ⟨[("title", .str "t")], ["title"]⟩ := rfl
  exact ⟨hcollector, htakes, hnames, hbox.1 hcollector, (halone.2.1 htakes hnames).2 rfl,
    (halone.2.2.2.1 _ hfits).2 rfl fun h => absurd h hnames,
    (hfilled.2.1 htakes hnames).1 (by simp)⟩

/-- A component that can be called without anything is handed children that it cannot take. -/
theorem gatherer_unfit :
    (∃ args, Session.bindProps gatherer [] = some args) ∧
      html .echo .standard [.list [.callable gatherer]] (.start 10 () : Press Unit) =
        (.error .badArguments, .start 10 ()) :=
  ⟨⟨_, rfl⟩, rfl⟩

end Renderer
end MarkupTree
