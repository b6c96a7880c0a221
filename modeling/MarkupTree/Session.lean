import MarkupTree.Fault
import MarkupTree.Value.Key

/-!
# Session: calls of components and handlers

A session is what calls leave behind: which lazy sources were drawn, which callables were called,
and the state that the code of callables keeps. The code itself is given as a behaviour; nothing
here depends on what it does.

- `Session.callComponent` passes properties and children to a component, all by name.
- `Session.callHandler` passes one value to a handler, by position.
- `Session.await` waits for a value that is computed later.
-/

namespace MarkupTree

/-- What running some code ends with. -/
structure Outcome (C σ : Type) where
  answer : Except (Fault C) (Value C)
  /-- the lazy sources that the code drew -/
  drawn : List Nat
  state : σ

/-- What the code of callables does with bound arguments, the lazy sources that were drawn before,
and a state of its own. -/
abbrev Behaviour (C σ : Type) :=
  C → Arguments (Value C) → (spent : List Nat) → σ → Outcome C σ

/-- A computation on a state that may end in a fault. The state is kept in both cases. -/
abbrev Attempt (S C : Type) := ExceptT (Fault C) (StateM S)

/-- What calls leave behind. -/
structure Session (σ : Type) where
  /-- the lazy sources that were drawn -/
  spent : List Nat
  /-- the names of the callables that were called, in order -/
  calls : List String
  /-- what the code of callables keeps -/
  state : σ

namespace Session

variable {C σ : Type}

def start (state : σ) : Session σ :=
  ⟨[], [], state⟩

def compute (B : Behaviour C σ) (code : C) (args : Arguments (Value C)) :
    Attempt (Session σ) C (Value C) := fun s =>
  let outcome := B code args s.spent s.state
  (outcome.answer, { s with spent := outcome.drawn ++ s.spent, state := outcome.state })

def run (B : Behaviour C σ) (f : Callable (Value C) C) (args : Arguments (Value C)) :
    Attempt (Session σ) C (Value C) := do
  -- the call counts even if the code fails or is run later
  modify fun s => { s with calls := s.calls ++ [f.name] }
  if f.deferred then return .pending f args else compute B f.code args

/-- Waits for a value that is computed later; any other value is there already. -/
def await (B : Behaviour C σ) : Value C → Attempt (Session σ) C (Value C)
  | .pending f args => compute B f.code args
  | v => return v

/-! ## Components -/

def keywordMapping (keywords : List (String × Value C)) : Value C :=
  .mapping (keywords.map fun kw => (.str kw.1, kw.2))

/-- Properties as keywords, if all keys are strings. -/
def keywords? (props : Entries C) : Option (List (String × Value C)) :=
  props.mapM fun e => e.1.string?.map (·, e.2)

def bindProps (f : Callable (Value C) C) (props : Entries C) : Option (Arguments (Value C)) :=
  (keywords? props).bind fun keywords =>
    match f.signature with
    | some s => s.bindKeywords .tuple keywordMapping keywords
    | none => some ⟨keywords, keywords.map (·.1)⟩

/-- The properties that a component is called with, or a refusal of its children. -/
def propsWithChildren (f : Callable (Value C) C) (props : Entries C)
    (children : List (Value C)) : Except (Fault C) (Entries C) :=
  if f.acceptsChildren then .ok (props.put (.str "children") (.list children))
  else if children.isEmpty then .ok props
  else .error (.childrenRefused f.reportedName)

/-- Calls a component with properties and children. -/
def callComponent (B : Behaviour C σ) (f : Callable (Value C) C) (props : Entries C)
    (children : List (Value C)) : Attempt (Session σ) C (Value C) := do
  let props ← ofExcept (propsWithChildren f props children)
  match bindProps f props with
  | some args => run B f args
  | none => throw .badArguments

/-! ## Handlers -/

/-- Binds a value that is given by position. Where the parameters are not known, it is passed on
without a name. -/
def bindValue (f : Callable (Value C) C) (v : Value C) : Option (Arguments (Value C)) :=
  match f.signature with
  | some s => s.bindPosition .tuple keywordMapping v
  | none => some ⟨[("", v)], []⟩

/-- Calls a handler with one value. -/
def callHandler (B : Behaviour C σ) (f : Callable (Value C) C) (v : Value C) :
    Attempt (Session σ) C (Value C) :=
  match bindValue f v with
  | some args => run B f args
  | none => throw .badArguments

/-- Draws a lazy source: its items the first time, nothing after that. -/
def draw (source : Nat) (vs : List (Value C)) : Attempt (Session σ) C (List (Value C)) := do
  let s ← get
  -- a source that was drawn before, in any rendering, gives nothing more
  if s.spent.contains source then return []
  else
    set { s with spent := source :: s.spent }
    return vs

end Session
end MarkupTree
