import MarkupTree.Selector

/-!
# Selector.Cache: a bounded store of selectors already read

The store holds what each selector was read as, oldest first. A new selector that finds the
store full drops the oldest ones until there is room. What is kept is a parameter.

- `Cache.get?` looks a selector up and changes nothing.
- `Cache.set?` puts a selector, telling which ones had to leave.
- `Cache.parse` reads a selector once and serves repeats from the store.
-/

namespace MarkupTree

/-- What a selector gives a renderer: a tag name and attributes. -/
structure Tag (V : Type) where
  name : String
  attributes : Table V
  deriving Repr

def Selector.toTag (s : Selector) : Tag String :=
  ⟨s.tag, s.attributes⟩

/-- Reads a selector as a tag. -/
def Tag.parse (s : String) : Except SelectorFault (Tag String) :=
  (Selector.parse s).map Selector.toTag

def Tag.map {V W : Type} (f : V → W) (tag : Tag V) : Tag W :=
  ⟨tag.name, tag.attributes.map fun e => (e.1, f e.2)⟩

/-- A bounded store of selectors, oldest first. -/
structure Cache (α : Type) where
  capacity : Int
  entries : Table α

/-- Why a selector could not be served. -/
inductive CacheFault (ε : Type)
  /-- the selector cannot be read -/
  | unreadable (fault : ε)
  /-- the store can hold nothing -/
  | noRoom
  deriving Repr

namespace Cache

variable {α ε : Type}

def empty (capacity : Int) : Cache α :=
  ⟨capacity, []⟩

def size (cache : Cache α) : Nat :=
  cache.entries.length

/-- The stored selectors, oldest first. -/
def selectors (cache : Cache α) : List String :=
  cache.entries.names

def contains (cache : Cache α) (selector : String) : Bool :=
  cache.entries.has selector

/-- What a selector was read as, if it is stored. -/
def get? (cache : Cache α) (selector : String) : Option α :=
  cache.entries.get? selector

def clear (cache : Cache α) : Cache α :=
  { cache with entries := [] }

/-- The number of selectors that must leave before one more fits. -/
def surplus (cache : Cache α) : Nat :=
  (cache.entries.length + 1 - cache.capacity).toNat

/-- Stores a selector. A stored one changes its value in place; a new one goes to the end, after
the oldest have left. The answer tells who left, and is `none` if the store can hold nothing. -/
def set? (cache : Cache α) (selector : String) (a : α) : Option (Cache α × List String) :=
  if cache.contains selector then
    some ({ cache with entries := cache.entries.put selector a }, [])
  else if cache.capacity ≤ 0 then none
  else
    -- the oldest leave first, so that the new one is the last of those that fit
    some ({ cache with entries := cache.entries.drop cache.surplus ++ [(selector, a)] },
      Table.names (cache.entries.take cache.surplus))

/-- Reads a selector, serving repeats from the store. The answer tells what it was read as, the
store afterwards and who left. -/
def parse (read : String → Except ε α) (cache : Cache α) (selector : String) :
    Except (CacheFault ε) (α × Cache α × List String) :=
  match cache.get? selector with
  | some a => .ok (a, cache, [])
  | none =>
    -- a selector that cannot be read is not stored
    match read selector with
    | .error fault => .error (.unreadable fault)
    | .ok a =>
      match cache.set? selector a with
      | some (stored, left) => .ok (a, stored, left)
      | none => .error .noRoom

end Cache
end MarkupTree
