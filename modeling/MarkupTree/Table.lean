/-!
# Table: named entries in order

A table holds one entry under a name and keeps the order in which the names came.

- `Table.put` replaces an entry in its place and adds a new one at the end.
- `Table.get?` finds the entry under a name, `Table.remove` drops it.
- `Table.adjust` changes the entry under a name, starting from none for a new name.
-/

namespace MarkupTree

/-- Named entries, in the order in which their names came. -/
abbrev Table (α : Type) := List (String × α)

namespace Table

variable {α : Type}

/-- The entry under a name. -/
def get? (name : String) : Table α → Option α
  | [] => none
  | e :: rest => if e.1 = name then some e.2 else get? name rest

/-- Changes the entry under a name where it stands, and adds one at the end for a new name. -/
def adjust (name : String) (f : Option α → α) : Table α → Table α
  | [] => [(name, f none)]
  | e :: rest =>
    if e.1 = name then (e.1, f (some e.2)) :: rest else e :: adjust name f rest

/-- Puts an entry under a name. -/
def put (name : String) (a : α) (t : Table α) : Table α :=
  t.adjust name fun _ => a

/-- Drops the entry under a name. -/
def remove (name : String) (t : Table α) : Table α :=
  t.filter fun e => e.1 ≠ name

def has (name : String) (t : Table α) : Bool :=
  t.any fun e => e.1 = name

/-- The names, in order. -/
def names (t : Table α) : List String :=
  t.map (·.1)

/-! ## What is found afterwards -/

@[simp]
theorem get?_nil (name : String) : get? name ([] : Table α) = none := rfl

theorem get?_adjust_self (name : String) (f : Option α → α) (t : Table α) :
    get? name (adjust name f t) = some (f (get? name t)) := by
  induction t with
  | nil => simp [adjust, get?]
  | cons e rest ih => by_cases h : e.1 = name <;> simp [adjust, get?, h, ih]

theorem get?_adjust_of_ne {name other : String} (h : other ≠ name) (f : Option α → α)
    (t : Table α) : get? other (adjust name f t) = get? other t := by
  induction t with
  | nil => simp [adjust, get?, Ne.symm h]
  | cons e rest ih =>
    by_cases he : e.1 = name
    · have : e.1 ≠ other := fun ho => h (ho.symm.trans he)
      simp [adjust, get?, he, Ne.symm h]
    · simp [adjust, get?, he, ih]

@[simp]
theorem get?_put_self (name : String) (a : α) (t : Table α) :
    get? name (put name a t) = some a :=
  get?_adjust_self name (fun _ => a) t

theorem get?_put_of_ne {name other : String} (h : other ≠ name) (a : α) (t : Table α) :
    get? other (put name a t) = get? other t :=
  get?_adjust_of_ne h (fun _ => a) t

@[simp]
theorem get?_remove_self (name : String) (t : Table α) : get? name (remove name t) = none := by
  induction t with
  | nil => rfl
  | cons e rest ih =>
    by_cases h : e.1 = name
    · simpa [remove, h] using ih
    · simpa [remove, get?, h] using ih

theorem get?_remove_of_ne {name other : String} (h : other ≠ name) (t : Table α) :
    get? other (remove name t) = get? other t := by
  induction t with
  | nil => rfl
  | cons e rest ih =>
    by_cases he : e.1 = name
    · simpa [remove, get?, he, Ne.symm h] using ih
    · by_cases ho : e.1 = other
      · simp [remove, get?, ho, h]
      · simpa [remove, get?, he, ho] using ih

/-- There is an entry under a name exactly if one is found there. -/
theorem has_eq_isSome_get? (name : String) (t : Table α) : has name t = (get? name t).isSome := by
  induction t with
  | nil => rfl
  | cons e rest ih =>
    by_cases h : e.1 = name
    · simp [has, get?, h]
    · simpa [has, get?, h] using ih

/-- A name keeps its place; a new one comes last. -/
theorem names_put (name : String) (a : α) (t : Table α) :
    names (put name a t) = if has name t then names t else names t ++ [name] := by
  induction t with
  | nil => rfl
  | cons e rest ih =>
    by_cases h : e.1 = name
    · simp [names, put, adjust, has, h]
    · have ih' : names (adjust name (fun _ => a) rest) =
          if has name rest then names rest else names rest ++ [name] := ih
      have hnames : names (put name a (e :: rest)) =
          e.1 :: names (adjust name (fun _ => a) rest) := by
        simp [names, put, adjust, h]
      have hhas : has name (e :: rest) = has name rest := by simp [has, h]
      rw [hnames, ih', hhas]
      split <;> rfl

end Table
end MarkupTree
