import MarkupTree.Factory
import MarkupTree.Session

/-!
# Template: code of callables as data

A template describes the value that a callable answers with. It names the arguments of the call
where their values are to stand.

- `Template.evaluate` fills a template in with arguments.
- `Template.behaviour` is the behaviour of callables whose code is a template. Its state is the
  number of lazy sources handed out, so that every filled-in lazy sequence is a new one.
- `Template.spreadOf` draws the items of an argument; a lazy sequence gives them only once.
-/

namespace MarkupTree

/-- The description of a value. -/
inductive Template
  /-- a value that does not depend on the arguments -/
  | constant (v : Value Template)
  | list (items : List Template)
  | tuple (items : List Template)
  | lazy (items : List Template)
  | mapping (entries : List (Template × Template))
  | frozen (entries : List (Template × Template))
  /-- a callable whose fallback values may depend on the arguments; its body does not -/
  | callable (f : Callable (Value Template) Template) (fallbacks : List (String × Template))
  /-- an element made by the factory of a tag -/
  | element (tag : String) (children : List Template) (keywords : List (String × Template))
  /-- children without a tag -/
  | fragment (children : List Template)
  /-- the argument of this name -/
  | argument (name : String)
  /-- among items: the items of the argument of this name -/
  | spread (name : String)
  /-- the keywords that were given -/
  | keywords
  /-- an entry of the detail of a payload, or a fallback -/
  | detail (name : String) (key fallback : Template)
  /-- a refusal of the arguments -/
  | refuse (text : String)

namespace Template

instance : Inhabited Template := ⟨.constant .null⟩

/-- What is kept while a template is filled in. -/
structure Ledger where
  /-- the lazy sources that were drawn before -/
  spent : List Nat
  /-- the lazy sources that were drawn since -/
  drawn : List Nat
  /-- the number of lazy sources handed out -/
  sources : Nat

abbrev Filling := Attempt Ledger Template

def argumentOf (args : Arguments (Value Template)) (name : String) : Filling (Value Template) :=
  match args.get? name with
  | some v => return v
  | none => throw (.unbound name)

def newLazy (vs : List (Value Template)) : Filling (Value Template) := do
  let ledger ← get
  set { ledger with sources := ledger.sources + 1 }
  return .lazy ledger.sources vs

/-- The items of a lazy sequence, if they were not drawn already. -/
def drawLazy (source : Nat) (vs : List (Value Template)) : Filling (List (Value Template)) := do
  let ledger ← get
  if ledger.spent.contains source || ledger.drawn.contains source then return []
  else
    set { ledger with drawn := source :: ledger.drawn }
    return vs

/-- The values that a value contributes where it is spread among items. -/
def spreadOf : Value Template → Filling (List (Value Template))
  | .list vs | .tuple vs => return vs
  | .range start stop step => return Value.rangeItems start stop step
  | .mapping es | .frozen es => return es.map (·.1)
  | .lazy source vs => drawLazy source vs
  | .str s | .markupStr s =>
    return (Text.codes s.toList).map fun n => .str (String.ofList (Text.spell n))
  | .bytes bs => return bs.map fun b => .int b.toNat
  | .payload es => return [.tuple [.str "detail", .mapping es]]
  | _ => throw .badArguments

def detailOf : Value Template → Filling (Entries Template)
  | .payload es => return es
  | _ => throw .noDetail

/-- The entry under a key, which must be something that can be a key. -/
def entryOf (es : Entries Template) (key fallback : Value Template) :
    Filling (Value Template) :=
  if key.isKey then return (Entries.get? es key).getD fallback else throw .badArguments

def withFallbacks (f : Callable (Value Template) Template)
    (fallbacks : List (String × Value Template)) : Callable (Value Template) Template :=
  { f with signature := f.signature.map fun s => { s with fallbacks } }

mutual

/-- Fills a template in. -/
def evaluate (args : Arguments (Value Template)) : Template → Filling (Value Template)
  | .constant v => return v
  | .list items => do return .list (← evaluateItems args items)
  | .tuple items => do return .tuple (← evaluateItems args items)
  | .lazy items => do newLazy (← evaluateItems args items)
  | .mapping entries => do return .mapping (Entries.ofPairs (← evaluateEntries args entries))
  | .frozen entries => do return .frozen (Entries.ofPairs (← evaluateEntries args entries))
  | .callable f fallbacks => do
    return .callable (withFallbacks f (← evaluateNamed args fallbacks))
  | .element tag children named => do
    let vs ← evaluateItems args children
    return Factory.element tag vs (← evaluateNamed args named)
  | .fragment children => do return Factory.fragment (← evaluateItems args children)
  | .argument name | .spread name => argumentOf args name
  | .keywords => return .str (", ".intercalate args.received)
  | .detail name key fallback => do
    let es ← detailOf (← argumentOf args name)
    let k ← evaluate args key
    entryOf es k (← evaluate args fallback)
  | .refuse text => throw (.raised text)

/-- Fills items in; what is spread contributes its items in its place. -/
def evaluateItems (args : Arguments (Value Template)) :
    List Template → Filling (List (Value Template))
  | [] => return []
  | .spread name :: rest => do
    let vs ← spreadOf (← argumentOf args name)
    return vs ++ (← evaluateItems args rest)
  | t :: rest => do
    let v ← evaluate args t
    return v :: (← evaluateItems args rest)

/-- Fills the keys and the values of entries in. What can change is no key. -/
def evaluateEntries (args : Arguments (Value Template)) :
    List (Template × Template) → Filling (List (Value Template × Value Template))
  | [] => return []
  | (key, t) :: rest => do
    let k ← evaluate args key
    let v ← evaluate args t
    if k.isKey then return (k, v) :: (← evaluateEntries args rest) else throw .badArguments

def evaluateNamed (args : Arguments (Value Template)) :
    List (String × Template) → Filling (List (String × Value Template))
  | [] => return []
  | (name, t) :: rest => do
    let v ← evaluate args t
    return (name, v) :: (← evaluateNamed args rest)

end

/-- Callables whose code is a template answer with it, filled in. -/
def behaviour : Behaviour Template Nat := fun body args spent sources =>
  let (answer, ledger) := evaluate args body ⟨spent, [], sources⟩
  ⟨answer, ledger.drawn, ledger.sources⟩

end Template
end MarkupTree
