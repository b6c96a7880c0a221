import MarkupTree.Value

/-!
# Value.Key: keys of mappings

A mapping holds a key once. Numbers are equal keys when they are equal as numbers, whatever
their kind, and a string that stands for markup is the same key as the plain string.

- `Value.sameKey` says when two keys are equal.
- `Entries.put` replaces the value of a present key in its place and adds a new key at the end.
-/

namespace MarkupTree

variable {C : Type}

namespace Value

def integer? : Value C → Option Int
  | .bool b => some (if b then 1 else 0)
  | .int n => some n
  | .float x => (Decimal.Binary64.ofFloat x).toInt?
  | _ => none

mutual

/-- Whether two values are the same key. -/
def sameKey : Value C → Value C → Bool
  | .null, .null => true
  | .undefined, .undefined => true
  | .str s, .str t | .str s, .markupStr t | .markupStr s, .str t | .markupStr s, .markupStr t =>
    s == t
  | .bytes bs, .bytes cs => bs == cs
  | .safe s, .safe t => s == t
  | .tuple vs, .tuple ws => sameKeys vs ws
  | .range a b c, .range a' b' c' =>
    rangeSize a b c == rangeSize a' b' c' &&
      (rangeSize a b c == 0 || a == a') && (rangeSize a b c ≤ 1 || c == c')
  | .float x, .float y =>
    (Decimal.Binary64.ofFloat x).beq (Decimal.Binary64.ofFloat y)
  | v, w =>
    match v.integer?, w.integer? with
    | some m, some n => m == n
    | _, _ => false

def sameKeys : List (Value C) → List (Value C) → Bool
  | [], [] => true
  | v :: vs, w :: ws => sameKey v w && sameKeys vs ws
  | _, _ => false

end

mutual

/-- Whether a value can be a key at all: no part of it can change. -/
def isKey : Value C → Bool
  | .list _ | .mapping _ | .frozen _ | .rendered _ _ | .container _ _ | .payload _ => false
  | .tuple vs => areKeys vs
  | _ => true

def areKeys : List (Value C) → Bool
  | [] => true
  | v :: vs => isKey v && areKeys vs

end
end Value

namespace Entries

/-- Puts a value under a key. A present key keeps its place and its spelling. -/
def put (key value : Value C) : Entries C → Entries C
  | [] => [(key, value)]
  | e :: rest => if e.1.sameKey key then (e.1, value) :: rest else e :: put key value rest

def get? (es : Entries C) (key : Value C) : Option (Value C) :=
  (es.find? fun e => e.1.sameKey key).map (·.2)

def remove (es : Entries C) (key : Value C) : Entries C :=
  es.filter fun e => !e.1.sameKey key

/-- The mapping with the given pairs, put in one after the other. -/
def ofPairs (pairs : List (Value C × Value C)) : Entries C :=
  pairs.foldl (fun es e => put e.1 e.2 es) []

/-- Puts the entries of a mapping into another, in order. -/
def update (es news : Entries C) : Entries C :=
  news.foldl (fun es e => put e.1 e.2 es) es

end Entries
end MarkupTree
