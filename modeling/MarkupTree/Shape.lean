import MarkupTree.Attributes

/-!
# Shape: what an element is

Any value can stand in the place of an element. Its shape says how it is rendered; the shape is
found once, from the outermost layer of the value alone.

- `Shape` lists the shapes.
- `Value.shape` finds the shape of a value, or refuses a missing one.
-/

namespace MarkupTree

variable {C : Type}

/-- How an element is rendered. -/
inductive Shape (C : Type)
  /-- not at all -/
  | skip
  /-- as escaped text -/
  | text (v : Value C)
  /-- as the markup it stands for -/
  | markup (v : Value C) (html : String)
  /-- item by item -/
  | items (vs : List (Value C))
  /-- item by item, where the items can be drawn once -/
  | stream (source : Nat) (vs : List (Value C))
  /-- child by child, without a tag -/
  | fragment (children : List (Value C))
  /-- as what a component makes of properties and children -/
  | component (f : Callable (Value C) C) (props : Entries C) (children : List (Value C))
  /-- as a tag with attributes and children -/
  | tag (selector : String) (attributes : Option (Entries C)) (children : List (Value C))

def leadingEntries : List (Value C) → Option (Entries C) × List (Value C)
  | [] => (none, [])
  | v :: rest =>
    match v.entries? with
    | some es => (some es, rest)
    | none => (none, v :: rest)

namespace Value

/-- The shape of a sequence: it depends on what stands first. -/
def sequenceShape : List (Value C) → Shape C
  | [] => .items []
  | first :: rest =>
    match first with
    | .callable f =>
      let (props, children) := leadingEntries rest
      .component f (props.getD []) children
    -- only a plain string is a selector: one that stands for markup is an item
    | .str s =>
      if s = Vocabulary.fragment then .fragment rest
      else
        let (attributes, children) := leadingEntries rest
        .tag s attributes children
    | _ => .items (first :: rest)

def presentShape (v : Value C) : Shape C :=
  -- whatever stands for markup is written as that markup, before anything else counts
  match v.html? with
  | some html => .markup v html
  | none =>
    match v with
    | .bool false => .skip
    | .list vs | .tuple vs => sequenceShape vs
    | .lazy source vs => .stream source vs
    | .range start stop step => .items (rangeItems start stop step)
    | .payload detail => .items [.tuple [.str "detail", .mapping detail]]
    | _ => .text v

/-- The shape of a value in the place of an element. -/
def shape (v : Value C) : Except (Fault C) (Shape C) := do
  v.check
  return v.presentShape

end Value
end MarkupTree
