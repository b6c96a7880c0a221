/-!
# Callable: components, handlers and how they take arguments

A callable has a name, a list of parameters and some code. What the code does is not part of
it: a renderer is given the behaviour of all code. Values are a parameter here, so that a value
may itself be a callable.

- `Signature.bindKeywords` binds the arguments of a component call, all given by name.
- `Signature.bindPosition` binds the one argument of a handler call, given by position.
- `Callable.acceptsChildren` decides whether positional children may be passed on.
-/

namespace MarkupTree

/-! ## Parameters -/

/-- How an argument may be given. -/
inductive ParameterKind
  /-- by position or by name -/
  | normal
  /-- by name -/
  | keywordOnly
  /-- by position -/
  | positionalOnly
  /-- all further arguments that are given by position -/
  | restPositional
  /-- all further arguments that are given by name -/
  | restKeywords
  deriving DecidableEq, Repr

namespace ParameterKind

def byName : ParameterKind → Bool
  | .normal | .keywordOnly => true
  | _ => false

def byPosition : ParameterKind → Bool
  | .normal | .positionalOnly => true
  | _ => false

end ParameterKind

/-- A parameter of a callable. -/
structure Parameter where
  name : String
  kind : ParameterKind
  deriving DecidableEq, Repr

/-- The parameters of a callable and the values of those that may be left out. -/
structure Signature (V : Type) where
  parameters : List Parameter
  fallbacks : List (String × V)

/-- Arguments after binding: what each name stands for, and the names that were given, in order.
No parameter has the empty name: under it stands what is given by position to a callable whose
parameters are not known. -/
structure Arguments (V : Type) where
  bound : List (String × V)
  received : List String

def Arguments.get? {V : Type} (args : Arguments V) (name : String) : Option V :=
  args.bound.lookup name

/-- A component or a handler. -/
structure Callable (V C : Type) where
  name : String
  /-- the name is not known to callers -/
  anonymous : Bool
  /-- what the callable takes, if that can be found out -/
  signature : Option (Signature V)
  /-- a call answers at once with a value that is computed later -/
  deferred : Bool
  code : C

namespace Signature

variable {V : Type}

/-! ## Binding -/

def takesKeyword (s : Signature V) (keyword : String) : Bool :=
  s.parameters.any fun p => p.name == keyword && p.kind.byName

def collectsKeywords (s : Signature V) : Bool :=
  s.parameters.any fun p => p.kind == .restKeywords

def bindParameter (s : Signature V) (tuple : List V → V) (mapping : List (String × V) → V)
    (keywords : List (String × V)) (p : Parameter) : Option (String × V) :=
  match p.kind with
  | .normal | .keywordOnly =>
    ((keywords.lookup p.name).or (s.fallbacks.lookup p.name)).map (p.name, ·)
  -- a keyword never reaches a parameter that is given by position alone
  | .positionalOnly => (s.fallbacks.lookup p.name).map (p.name, ·)
  | .restPositional => some (p.name, tuple [])
  | .restKeywords => some (p.name, mapping (keywords.filter fun kw => !s.takesKeyword kw.1))

/-- Binds a call by keywords: every keyword must be taken, and every parameter must be given or
have a value of its own. -/
def bindKeywords (s : Signature V) (tuple : List V → V) (mapping : List (String × V) → V)
    (keywords : List (String × V)) : Option (Arguments V) :=
  if keywords.all fun kw => s.takesKeyword kw.1 || s.collectsKeywords then
    (s.parameters.mapM (s.bindParameter tuple mapping keywords)).map fun bound =>
      ⟨bound, keywords.map (·.1)⟩
  else none

/-- Binds the parameters of a call with one value given by position, which goes to the first
parameter of the kind said. -/
def bindFirst (s : Signature V) (tuple : List V → V) (mapping : List (String × V) → V)
    (takes : ParameterKind → Bool) (wrap : V → V) (value : V) :
    List Parameter → Option (List (String × V))
  | [] => none
  | p :: rest =>
    if takes p.kind then
      -- the value is used up: the rest is bound as without any argument
      (rest.mapM (s.bindParameter tuple mapping [])).map ((p.name, wrap value) :: ·)
    else do
      let here ← s.bindParameter tuple mapping [] p
      let others ← bindFirst s tuple mapping takes wrap value rest
      return here :: others

/-- Binds a call with one value given by position: it goes to the first parameter that takes a
position, else to the one that collects positions. -/
def bindPosition (s : Signature V) (tuple : List V → V) (mapping : List (String × V) → V)
    (value : V) : Option (Arguments V) :=
  let bound :=
    if s.parameters.any fun p => p.kind.byPosition then
      s.bindFirst tuple mapping ParameterKind.byPosition id value s.parameters
    else
      s.bindFirst tuple mapping (· == .restPositional) (fun v => tuple [v]) value s.parameters
  bound.map fun bound => ⟨bound, []⟩

end Signature

namespace Callable

variable {V C : Type}

/-- Whether positional children are passed on: some parameter has their name, further keywords
are collected, or the parameters are not known. -/
def acceptsChildren (f : Callable V C) : Bool :=
  match f.signature with
  | none => true
  | some s => s.parameters.any fun p => p.name == "children" || p.kind == .restKeywords

def text (f : Callable V C) : String :=
  "<function " ++ f.name ++ ">"

def reportedName (f : Callable V C) : String :=
  if f.anonymous then f.text else f.name

end Callable
end MarkupTree
