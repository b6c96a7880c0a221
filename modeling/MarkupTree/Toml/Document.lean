import MarkupTree.Value

/-!
# Toml.Document: tables that are defined piece by piece

A settings text may come back to a table after it went on to others. Then there are several
entries under one name, and all of them together are the table. A piece may extend what other
pieces only implied, but nothing is defined twice.

- `Node` is a part of a document, with how it came about.
- `Node.put?` adds an entry to others, unless that defines something twice.
- `Node.isConsistent` says whether the entries under one name fit together.
- `Node.find` is what stands under a name, `Node.value?` the value of a part.
- `Document` is a whole document.
-/

namespace MarkupTree
namespace Toml

variable {C : Type}

/-- A named part, and whether the name stood in front of a point in a dotted key. -/
structure Entry (α : Type) where
  name : String
  dotted : Bool
  part : α

/-- A part of a document. -/
inductive Node (C : Type)
  | leaf (v : Value C)
  /-- a table; it is implied if it is only a part of the path to another part -/
  | table (implied : Bool) (entries : List (Entry (Node C)))
  /-- tables that share one header -/
  | rows (tables : List (List (Entry (Node C))))

namespace Node

abbrev Entries (C : Type) := List (Entry (Node C))

def isTable : Node C → Bool
  | .table _ _ => true
  | _ => false

/-! ## Entries under a name -/

def named (name : String) (es : Entries C) : Entries C :=
  es.filter fun e => e.name = name

def last? (name : String) (es : Entries C) : Option (Entry (Node C)) :=
  (named name es).getLast?

def lastTable? (es : Entries C) : Option String :=
  (es.filter fun e => e.part.isTable).getLast?.map (·.name)

/-- The names, each where it comes first. -/
def names (es : Entries C) : List String :=
  (es.map (·.name)).eraseDups

def inside (name : String) (es : Entries C) : Entries C :=
  (named name es).flatMap fun e =>
    match e.part with
    | .table _ inner => inner
    | _ => []

def replaceLast (name : String) (part : Node C) : Entries C → Entries C
  | [] => []
  | e :: rest =>
    if e.name = name ∧ rest.all (fun other => other.name ≠ name) then { e with part } :: rest
    else e :: replaceLast name part rest

/-! ## What stands under a name -/

/-- What is found under a name. -/
inductive Sight (C : Type)
  | nothing
  /-- tables that cannot be seen as one -/
  | broken
  | part (node : Node C)

/-- Entries as those of one table. Behind a table others may follow under its name, behind
anything else nothing may. -/
def united? (es : Entries C) : Option (Entries C) :=
  es.foldlM (fun es e =>
    match last? e.name es with
    | some old => if old.part.isTable then some (es ++ [e]) else none
    | none => some (es ++ [e])) []

/-- What stands under a name. Several tables are seen as one. -/
def find (name : String) (es : Entries C) : Sight C :=
  match named name es with
  | [] => .nothing
  | [e] => .part e.part
  | _ =>
    match united? (inside name es) with
    | some inner => .part (.table false inner)
    | none => .broken

/-- Entries among which a name can be looked up. -/
def visible? (name : String) (es : Entries C) : Option (Entries C) :=
  match find name es with
  | .broken => none
  | _ => some es

/-! ## Adding entries -/

mutual

/-- Adds an entry to others. Implied tables that follow each other become one; otherwise several
entries stand under one name, which is checked on demand. -/
def put? : (levels : Nat) → (check : Bool) → Entry (Node C) → Entries C → Option (Entries C)
  | 0, _, _, _ => none
  | levels + 1, check, e, es =>
    match last? e.name es with
    | none => some (es ++ [e])
    | some old =>
      match e.part, old.part with
      | .table true news, .table true olds =>
        if e.dotted || old.dotted || lastTable? es != some e.name then
          if check && !isConsistent levels e.name (es ++ [e]) then none else some (es ++ [e])
        else
          (news.foldlM (fun es e => (put? levels true e es).bind (visible? e.name)) olds).map
            fun all => replaceLast e.name (.table true all) es
      | .table true _, .table false _ => some (es ++ [e])
      | .table false _, .table true _ => if old.dotted then none else some (es ++ [e])
      | .rows news, .rows olds => some (replaceLast e.name (.rows (olds ++ news)) es)
      | _, _ => none

/-- Whether the tables under a name fit together, and what is inside them. -/
def isConsistent : (levels : Nat) → (name : String) → Entries C → Bool
  | 0, _, _ => false
  | levels + 1, name, es =>
    if (named name es).length ≤ 1 then true
    else
      match (inside name es).foldlM (fun es e => put? levels false e es) [] with
      | some inner => (names inner).all fun name => isConsistent levels name inner
      | none => false

end

def append? (levels : Nat) (e : Entry (Node C)) (es : Entries C) : Option (Entries C) :=
  (put? levels false e es).bind (visible? e.name)

def allConsistent (levels : Nat) (es : Entries C) : Bool :=
  (names es).all fun name => isConsistent levels name es

def entryOf? (v : Value C) : (path : List String) → Option (Entry (Node C))
  | [] => none
  | [name] => some ⟨name, false, .leaf v⟩
  | name :: path => (entryOf? v path).map fun e => ⟨name, true, .table true [e]⟩

def insert? (levels : Nat) (path : List String) (v : Value C) (es : Entries C) :
    Option (Entries C) :=
  (entryOf? v path).bind fun e => put? levels true e es

/-! ## Values -/

/-- The value of a part of a document, unless something in it cannot be seen as one table. -/
def value? : (levels : Nat) → Node C → Option (Value C)
  | 0, _ => none
  | _ + 1, .leaf v => some v
  | levels + 1, .table _ es =>
    ((names es).mapM fun name =>
      match find name es with
      | .part node => (value? levels node).map (Value.str name, ·)
      | _ => none).map .mapping
  | levels + 1, .rows tables => (tables.mapM fun es => value? levels (.table false es)).map .list

end Node

/-- A whole document, and how deep tables in it may be nested. -/
structure Document (C : Type) where
  levels : Nat
  entries : Node.Entries C

end Toml
end MarkupTree
