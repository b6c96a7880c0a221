import Mathlib.Data.List.DropRight
import MarkupTree.Notice
import MarkupTree.Proofs.History

/-!
# Eviction — a full store drops what came first

A store keeps its selectors in the order in which they came in. Looking one up or setting it again
does not move it; a new one goes to the end, and in a full store the first one has to leave. So the
store always holds the last selectors that came in since it was cleared, as many as fit.

* `Shelf` is a store with what was reported of it, `Shelf.perform` is one request to it.
* `Shelf.Request.brings?` tells insertions apart, `Shelf.insertions` lists those since the last
  clear.
* `Shelf.Deed` lists all that a request can do, `Shelf.InTurn` is the invariant of a run.
* `Shelf.first_in_first_out` describes the store and its reports after any run.
-/

namespace MarkupTree

variable {α ε V : Type}

/-! ## Setting in place -/

namespace Table

/-- Putting an entry under a name that is there changes the entry and nothing else. -/
theorem put_of_has {name : String} (a : α) {t : Table α} (hnodup : t.names.Nodup)
    (h : t.has name = true) :
    t.put name a = t.map fun e => if e.1 = name then (e.1, a) else e := by
  induction t with
  | nil => cases h
  | cons e rest ih =>
      rcases List.nodup_cons.1 hnodup with ⟨hfirst, hrest⟩
      by_cases he : e.1 = name
      · -- no later entry has the name, so the rest stays as it is
        have hothers : ∀ e' ∈ rest, (if e'.1 = name then (e'.1, a) else e') = e' := by
          intro e' he'
          apply if_neg
          intro heq
          have hmem : e'.1 ∈ names rest := List.mem_map_of_mem he'
          rw [heq, ← he] at hmem
          exact hfirst hmem
        simp [put, adjust, he, List.map_congr_left hothers]
      · have hhas : has name rest = true := by simpa [has, he] using h
        have htail : adjust name (fun _ => a) rest = _ := ih hrest hhas
        simp [put, adjust, he, htail]

end Table

/-! ## Requests -/

/-- A store of selectors and what was reported of it. -/
structure Shelf (α : Type) where
  cache : Cache α
  /-- what was reported, in order -/
  notices : List Notice

namespace Shelf

/-- What can be asked of a store. -/
inductive Request (α : Type)
  | parse (selector : String)
  | set (selector : String) (a : α)
  | get (selector : String)
  | contains (selector : String)
  | clear

inductive Answer (α : Type)
  | found (a : α)
  | nothing
  | truth (b : Bool)

def start (capacity : Nat) : Shelf α :=
  ⟨Cache.empty capacity, []⟩

/-- The store afterwards, and a report for everyone who had to leave. -/
def take (shelf : Shelf α) (stored : Cache α) (left : List String) : Shelf α :=
  ⟨stored, shelf.notices ++ left.map .evicted⟩

def perform (read : String → Except ε α) (request : Request α) (shelf : Shelf α) :
    Except (CacheFault ε) (Answer α) × Shelf α :=
  match request with
  | .parse selector =>
    match shelf.cache.parse read selector with
    | .ok (a, stored, left) => (.ok (.found a), shelf.take stored left)
    | .error fault => (.error fault, shelf)
  | .set selector a =>
    match shelf.cache.set? selector a with
    | some (stored, left) => (.ok .nothing, shelf.take stored left)
    | none => (.error .noRoom, shelf)
  | .get selector => (.ok (((shelf.cache.get? selector).map .found).getD .nothing), shelf)
  | .contains selector => (.ok (.truth (shelf.cache.contains selector)), shelf)
  | .clear => (.ok .nothing, { shelf with cache := shelf.cache.clear })

def run (read : String → Except ε α) (requests : List (Request α)) (shelf : Shelf α) : Shelf α :=
  requests.foldl (fun shelf request => (shelf.perform read request).2) shelf

/-! ## Insertions and drops -/

/-- The selector that a request inserts: one that is parsed successfully, or set, and that the
store does not hold at that moment. -/
def Request.brings? (read : String → Except ε α) (request : Request α) (shelf : Shelf α) :
    Option String :=
  match request, (shelf.perform read request).1 with
  | .parse selector, .ok _ | .set selector _, .ok _ =>
    if shelf.cache.contains selector then none else some selector
  | _, _ => none

/-- The insertions since the last clear, if those so far are given. -/
def Request.recall (read : String → Except ε α) (request : Request α) (shelf : Shelf α)
    (past : List String) : List String :=
  match request with
  | .clear => []
  | request => past ++ (request.brings? read shelf).toList

/-- The insertions of a run since its last clear, in order, behind those before the run. -/
def insertions (read : String → Except ε α) :
    List (Request α) → Shelf α → List String → List String
  | [], _, past => past
  | request :: rest, shelf, past =>
    insertions read rest (shelf.perform read request).2 (request.recall read shelf past)

/-- The selectors that the store holds before a request and not after it, oldest first. What a
clear takes out is not dropped. -/
def dropped (read : String → Except ε α) (request : Request α) (shelf : Shelf α) : List String :=
  match request with
  | .clear => []
  | request => shelf.cache.selectors.filter fun selector =>
      !(shelf.perform read request).2.cache.contains selector

/-- All that is dropped in a run, in order. -/
def drops (read : String → Except ε α) : List (Request α) → Shelf α → List String
  | [], _ => []
  | request :: rest, shelf =>
    dropped read request shelf ++ drops read rest (shelf.perform read request).2

/-! ## What a request can do -/

/-- A selector is put behind all others, after the surplus has left and was reported. -/
def push (shelf : Shelf α) (selector : String) (a : α) : Shelf α :=
  shelf.take
    { shelf.cache with
      entries := shelf.cache.entries.drop shelf.cache.surplus ++ [(selector, a)] }
    (Table.names (shelf.cache.entries.take shelf.cache.surplus))

def replace (shelf : Shelf α) (selector : String) (a : α) : Shelf α :=
  { shelf with cache.entries := shelf.cache.entries.put selector a }

/-- All that a request can do. -/
inductive Deed (read : String → Except ε α) (request : Request α) (shelf : Shelf α) : Prop
  | inserts (selector : String) (a : α) (brings : request.brings? read shelf = some selector)
      (new : shelf.cache.contains selector = false)
      (after : (shelf.perform read request).2 = shelf.push selector a)
  | replaces (selector : String) (a : α) (brings : request.brings? read shelf = none)
      (set : request = .set selector a) (held : shelf.cache.contains selector = true)
      (after : (shelf.perform read request).2 = shelf.replace selector a)
  | clears (brings : request.brings? read shelf = none) (clear : request = .clear)
      (after : (shelf.perform read request).2 = { shelf with cache := shelf.cache.clear })
  | idles (brings : request.brings? read shelf = none) (kept : request ≠ .clear)
      (after : (shelf.perform read request).2 = shelf)

@[simp]
theorem take_nil (shelf : Shelf α) (stored : Cache α) :
    shelf.take stored [] = { shelf with cache := stored } := by
  simp [take]

theorem parse_deed (read : String → Except ε α) (selector : String) (shelf : Shelf α) :
    Deed read (.parse selector) shelf := by
  cases hparse : shelf.cache.parse read selector with
  | error fault =>
      have hperform : shelf.perform read (.parse selector) = (.error fault, shelf) := by
        simp only [perform, hparse]
      exact .idles (by simp only [Request.brings?, hperform]) (by simp) (by rw [hperform])
  | ok answer =>
      rcases answer with ⟨a, stored, left⟩
      have hperform : shelf.perform read (.parse selector) =
          (.ok (.found a), shelf.take stored left) := by
        simp only [perform, hparse]
      -- a selector that is served was held, one that is read was not
      rcases Cache.parse_eq_ok hparse with ⟨hget, rfl, rfl⟩ | ⟨hget, -, -, rfl, rfl⟩
      · have hheld : shelf.cache.contains selector = true := by
          rw [Cache.contains_eq_isSome_get?, hget, Option.isSome_some]
        rw [take_nil] at hperform
        exact .idles (by simp [Request.brings?, hperform, hheld]) (by simp) (by rw [hperform])
      · have hnew : shelf.cache.contains selector = false := by
          rw [Cache.contains_eq_isSome_get?, hget, Option.isSome_none]
        exact .inserts selector a (by simp [Request.brings?, hperform, hnew]) hnew
          (by rw [hperform]; rfl)

theorem perform_set_of_held (read : String → Except ε α) {selector : String} (a : α)
    {shelf : Shelf α} (held : shelf.cache.contains selector = true) :
    shelf.perform read (.set selector a) = (.ok .nothing, shelf.replace selector a) := by
  have hset : shelf.cache.set? selector a =
      some ({ shelf.cache with entries := shelf.cache.entries.put selector a }, []) :=
    if_pos held
  simp only [perform, hset, take_nil]
  rfl

theorem set_deed (read : String → Except ε α) (selector : String) (a : α) (shelf : Shelf α) :
    Deed read (.set selector a) shelf := by
  cases hheld : shelf.cache.contains selector with
  | true =>
      have hperform := perform_set_of_held read a hheld
      exact .replaces selector a (by simp [Request.brings?, hperform, hheld]) rfl hheld
        (by rw [hperform])
  | false =>
      by_cases hroom : shelf.cache.capacity ≤ 0
      · -- nothing fits into a store without room
        have hperform : shelf.perform read (.set selector a) = (.error .noRoom, shelf) := by
          simp only [perform, Cache.set?_of_new hheld, if_pos hroom]
        exact .idles (by simp only [Request.brings?, hperform]) (by simp) (by rw [hperform])
      · have hperform : shelf.perform read (.set selector a) =
            (.ok .nothing, shelf.push selector a) := by
          simp only [perform, Cache.set?_of_new hheld, if_neg hroom]
          rfl
        exact .inserts selector a (by simp [Request.brings?, hperform, hheld]) hheld
          (by rw [hperform])

theorem deed (read : String → Except ε α) (request : Request α) (shelf : Shelf α) :
    Deed read request shelf := by
  cases request with
  | parse selector => exact parse_deed read selector shelf
  | set selector a => exact set_deed read selector a shelf
  | get selector => exact .idles rfl (by simp) rfl
  | contains selector => exact .idles rfl (by simp) rfl
  | clear => exact .clears rfl rfl rfl

/-! ## One request -/

variable {read : String → Except ε α} {shelf : Shelf α}

/-- The store holds the last selectors that came in, as many as fit, and none twice. -/
structure InTurn (capacity : Nat) (past : List String) (shelf : Shelf α) : Prop where
  capacity_eq : shelf.cache.capacity = capacity
  selectors_eq : shelf.cache.selectors = past.drop (past.length - capacity)
  nodup : shelf.cache.selectors.Nodup

theorem contains_iff (cache : Cache α) (selector : String) :
    cache.contains selector = true ↔ selector ∈ cache.selectors := by
  simp [Cache.contains, Cache.selectors, Table.has, Table.names]

theorem size_eq_length (shelf : Shelf α) : shelf.cache.size = shelf.cache.selectors.length := by
  simp [Cache.size, Cache.selectors, Table.names]

theorem selectors_push (shelf : Shelf α) (selector : String) (a : α) :
    (shelf.push selector a).cache.selectors =
      shelf.cache.selectors.drop shelf.cache.surplus ++ [selector] := by
  simp [push, take, Cache.selectors, Table.names]

theorem notices_push (shelf : Shelf α) (selector : String) (a : α) :
    (shelf.push selector a).notices = shelf.notices ++
      (shelf.cache.selectors.take shelf.cache.surplus).map .evicted := by
  simp [push, take, Cache.selectors, Table.names]

theorem selectors_replace {shelf : Shelf α} {selector : String} (a : α)
    (held : shelf.cache.contains selector = true) :
    (shelf.replace selector a).cache.selectors = shelf.cache.selectors :=
  (Table.names_put selector a shelf.cache.entries).trans (if_pos held)

namespace InTurn

variable {capacity : Nat} {past : List String}

theorem start (capacity : Nat) : InTurn capacity [] (Shelf.start capacity : Shelf α) :=
  ⟨rfl, List.drop_nil.symm, List.nodup_nil⟩

theorem size_eq (h : InTurn capacity past shelf) :
    shelf.cache.selectors.length = min past.length capacity := by
  rw [h.selectors_eq, List.length_drop]
  omega

theorem surplus_eq (h : InTurn capacity past shelf) :
    shelf.cache.surplus = shelf.cache.selectors.length + 1 - capacity := by
  have hsize : shelf.cache.size = shelf.cache.selectors.length := size_eq_length shelf
  unfold Cache.surplus
  rw [h.capacity_eq, ← hsize]
  unfold Cache.size
  omega

/-- A new selector comes in behind all others. -/
theorem push (h : InTurn capacity past shelf) (room : 1 ≤ capacity) {selector : String} (a : α)
    (new : shelf.cache.contains selector = false) :
    InTurn capacity (past ++ [selector]) (shelf.push selector a) := by
  have hleft : past.length - capacity + (min past.length capacity + 1 - capacity) =
      past.length + 1 - capacity := by omega
  have hdrop : shelf.cache.selectors.drop shelf.cache.surplus =
      past.drop (past.length + 1 - capacity) := by
    calc shelf.cache.selectors.drop shelf.cache.surplus
        = (past.drop (past.length - capacity)).drop (min past.length capacity + 1 - capacity) := by
          rw [h.surplus_eq, h.size_eq, h.selectors_eq]
      _ = past.drop (past.length + 1 - capacity) := by rw [List.drop_drop, hleft]
  refine ⟨h.capacity_eq, ?_, ?_⟩
  · rw [selectors_push, hdrop, List.length_append, List.length_singleton,
      List.drop_append_of_le_length (by omega)]
  · -- what stays is still different, and the new one was not there
    have hnot : selector ∉ shelf.cache.selectors := by
      rw [← contains_iff, new]
      simp
    rw [selectors_push]
    refine List.nodup_append.2 ⟨h.nodup.sublist (List.drop_sublist _ _), by simp, ?_⟩
    intro s hs t ht heq
    rw [List.mem_singleton.1 ht] at heq
    exact hnot (heq ▸ List.mem_of_mem_drop hs)

variable (read) in
/-- Every request keeps the order, with what it inserts behind what came before. -/
theorem perform (h : InTurn capacity past shelf) (room : 1 ≤ capacity) (request : Request α) :
    InTurn capacity (request.recall read shelf past) (shelf.perform read request).2 := by
  cases deed read request shelf with
  | inserts selector a brings new after =>
      have hrecall : request.recall read shelf past = past ++ [selector] := by
        cases request with
        | clear => cases brings
        | _ => simp only [Request.recall, brings, Option.toList_some]
      rw [hrecall, after]
      exact h.push room a new
  | replaces selector a brings set held after =>
      have hrecall : request.recall read shelf past = past := by
        subst set
        simp only [Request.recall, brings, Option.toList_none, List.append_nil]
      have hselectors := selectors_replace a held
      rw [hrecall, after]
      exact ⟨h.capacity_eq, hselectors ▸ h.selectors_eq, hselectors ▸ h.nodup⟩
  | clears brings clear after =>
      subst clear
      rw [after]
      exact ⟨h.capacity_eq, List.drop_nil.symm, List.nodup_nil⟩
  | idles brings kept after =>
      have hrecall : request.recall read shelf past = past := by
        cases request with
        | clear => exact absurd rfl kept
        | _ => simp only [Request.recall, brings, Option.toList_none, List.append_nil]
      rw [hrecall, after]
      exact h

variable (read) in
theorem run (h : InTurn capacity past shelf) (room : 1 ≤ capacity) (requests : List (Request α)) :
    InTurn capacity (insertions read requests shelf past) (shelf.run read requests) := by
  induction requests generalizing shelf past with
  | nil => exact h
  | cons request rest ih => exact ih (h.perform read room request)

end InTurn

/-! ## Reports -/

/-- Of different items, those that are missing behind a cut and an item that was not there are
those before the cut. -/
theorem filter_not_mem_drop {items : List String} (hnodup : items.Nodup) {new : String}
    (hnew : new ∉ items) (n : Nat) :
    items.filter (fun s => !decide (s ∈ items.drop n ++ [new])) = items.take n := by
  have hparts : items.take n ++ items.drop n = items := List.take_append_drop n items
  have hdisjoint := (List.nodup_append.1 (hparts.symm ▸ hnodup)).2.2
  have hbefore : (items.take n).filter (fun s => !decide (s ∈ items.drop n ++ [new])) =
      items.take n := by
    refine List.filter_eq_self.2 fun s hs => ?_
    have hdrop : s ∉ items.drop n := fun hmem => hdisjoint s hs s hmem rfl
    have hne : s ≠ new := fun heq => hnew (heq ▸ List.mem_of_mem_take hs)
    simp [hdrop, hne]
  have hbehind : (items.drop n).filter (fun s => !decide (s ∈ items.drop n ++ [new])) = [] :=
    List.filter_eq_nil_iff.2 fun s hs => by simp [hs]
  calc items.filter (fun s => !decide (s ∈ items.drop n ++ [new]))
      = (items.take n ++ items.drop n).filter
          (fun s => !decide (s ∈ items.drop n ++ [new])) := by rw [hparts]
    _ = items.take n := by rw [List.filter_append, hbefore, hbehind, List.append_nil]

theorem dropped_eq {request : Request α} (kept : request ≠ .clear) :
    dropped read request shelf = shelf.cache.selectors.filter fun s =>
      !decide (s ∈ (shelf.perform read request).2.cache.selectors) := by
  have hcontains : ∀ s, (shelf.perform read request).2.cache.contains s =
      decide (s ∈ (shelf.perform read request).2.cache.selectors) := by
    intro s
    rw [Bool.eq_iff_iff, contains_iff, decide_eq_true_iff]
  cases request with
  | clear => exact absurd rfl kept
  | _ => simp only [dropped, hcontains]

/-- What keeps all selectors drops none. -/
theorem dropped_eq_nil {request : Request α}
    (h : (shelf.perform read request).2.cache.selectors = shelf.cache.selectors) :
    dropped read request shelf = [] := by
  by_cases hclear : request = .clear
  · rw [hclear]
    rfl
  · rw [dropped_eq hclear, h]
    exact List.filter_eq_nil_iff.2 fun s hs => by simp [hs]

/-- What is put in drops the surplus. -/
theorem dropped_push {request : Request α} {selector : String} {a : α}
    (nodup : shelf.cache.selectors.Nodup)
    (brings : request.brings? read shelf = some selector)
    (new : shelf.cache.contains selector = false)
    (after : (shelf.perform read request).2 = shelf.push selector a) :
    dropped read request shelf = shelf.cache.selectors.take shelf.cache.surplus := by
  have hclear : request ≠ .clear := by
    intro hclear
    subst hclear
    cases brings
  have hnot : selector ∉ shelf.cache.selectors := by
    rw [← contains_iff, new]
    simp
  rw [dropped_eq hclear, after, selectors_push]
  exact filter_not_mem_drop nodup hnot _

variable (read) in
/-- A request reports what it drops and nothing else. -/
theorem notices_perform (nodup : shelf.cache.selectors.Nodup) (request : Request α) :
    (shelf.perform read request).2.notices =
      shelf.notices ++ (dropped read request shelf).map .evicted := by
  cases deed read request shelf with
  | inserts selector a brings new after =>
      rw [dropped_push nodup brings new after, after, notices_push]
  | replaces selector a brings set held after =>
      rw [dropped_eq_nil (by rw [after, selectors_replace a held]), after]
      exact (List.append_nil _).symm
  | clears brings clear after =>
      subst clear
      exact (List.append_nil _).symm
  | idles brings kept after =>
      rw [dropped_eq_nil (by rw [after]), after]
      exact (List.append_nil _).symm

variable (read) in
theorem InTurn.notices_run {capacity : Nat} {past : List String}
    (h : InTurn capacity past shelf) (room : 1 ≤ capacity) (requests : List (Request α)) :
    (shelf.run read requests).notices =
      shelf.notices ++ (drops read requests shelf).map .evicted := by
  induction requests generalizing shelf past with
  | nil => exact (List.append_nil _).symm
  | cons request rest ih =>
      have hrest := ih (h.perform read room request)
      have hfirst := notices_perform read h.nodup request
      calc (shelf.run read (request :: rest)).notices
          = (shelf.perform read request).2.notices ++
              (drops read rest (shelf.perform read request).2).map Notice.evicted := hrest
        _ = shelf.notices ++ ((dropped read request shelf).map Notice.evicted ++
              (drops read rest (shelf.perform read request).2).map Notice.evicted) := by
            rw [hfirst, List.append_assoc]
        _ = shelf.notices ++ (drops read (request :: rest) shelf).map .evicted := by
            rw [drops, List.map_append]

/-! ## First in, first out -/

/-- What a request does to the order of a store and to the reports. -/
structure FirstOut (read : String → Except ε α) (capacity : Nat) (request : Request α)
    (shelf : Shelf α) : Prop where
  /-- only insertions and clears change which selectors are held and in what order, and only
  insertions are reported -/
  order : request.brings? read shelf = none → request ≠ .clear →
    (shelf.perform read request).2.cache.selectors = shelf.cache.selectors ∧
      (shelf.perform read request).2.notices = shelf.notices
  /-- hits, look-ups and parses that fail change nothing at all -/
  values : request.brings? read shelf = none → request ≠ .clear →
    (∀ selector a, request ≠ .set selector a) → (shelf.perform read request).2 = shelf
  /-- setting a selector that is held changes its value in its place -/
  inPlace : ∀ selector a, request = .set selector a → shelf.cache.contains selector = true →
    (shelf.perform read request).2.cache.entries =
      shelf.cache.entries.map fun e => if e.1 = selector then (e.1, a) else e
  /-- while there is room, an insertion goes to the end -/
  fills : ∀ selector, request.brings? read shelf = some selector → shelf.cache.size < capacity →
    (shelf.perform read request).2.cache.selectors = shelf.cache.selectors ++ [selector] ∧
      (shelf.perform read request).2.notices = shelf.notices
  /-- in a full store the oldest selector leaves and is reported -/
  evicts : ∀ selector, request.brings? read shelf = some selector → shelf.cache.size = capacity →
    ∃ oldest others, shelf.cache.selectors = oldest :: others ∧
      (shelf.perform read request).2.cache.selectors = others ++ [selector] ∧
      (shelf.perform read request).2.notices = shelf.notices ++ [.evicted oldest]

namespace InTurn

variable {capacity : Nat} {past : List String}

theorem push_fills (h : InTurn capacity past shelf) (hroom : shelf.cache.size < capacity)
    (selector : String) (a : α) :
    (shelf.push selector a).cache.selectors = shelf.cache.selectors ++ [selector] ∧
      (shelf.push selector a).notices = shelf.notices := by
  have hnone : shelf.cache.surplus = 0 := by
    rw [h.surplus_eq, ← size_eq_length]
    omega
  rw [selectors_push, notices_push, hnone]
  simp

theorem push_evicts (h : InTurn capacity past shelf) (room : 1 ≤ capacity)
    (hfull : shelf.cache.size = capacity) (selector : String) (a : α) :
    ∃ oldest others, shelf.cache.selectors = oldest :: others ∧
      (shelf.push selector a).cache.selectors = others ++ [selector] ∧
      (shelf.push selector a).notices = shelf.notices ++ [.evicted oldest] := by
  have hone : shelf.cache.surplus = 1 := by
    rw [h.surplus_eq, ← size_eq_length]
    omega
  rw [selectors_push, notices_push, hone]
  cases hselectors : shelf.cache.selectors with
  | nil =>
      -- an empty store is not full
      rw [size_eq_length, hselectors, List.length_nil] at hfull
      omega
  | cons oldest others => exact ⟨oldest, others, rfl, rfl, rfl⟩

theorem firstOut (h : InTurn capacity past shelf) (room : 1 ≤ capacity) (request : Request α) :
    FirstOut read capacity request shelf := by
  have hinPlace : ∀ selector a, request = .set selector a →
      shelf.cache.contains selector = true → (shelf.perform read request).2.cache.entries =
        shelf.cache.entries.map fun e => if e.1 = selector then (e.1, a) else e := by
    intro selector a hset hheld
    rw [hset, perform_set_of_held read a hheld]
    exact Table.put_of_has a h.nodup hheld
  cases deed read request shelf with
  | inserts selector a brings new after =>
      refine ⟨by simp [brings], by simp [brings], hinPlace, ?_, ?_⟩
      · intro s hs hroom
        obtain rfl := Option.some.inj (brings.symm.trans hs)
        rw [after]
        exact h.push_fills hroom selector a
      · intro s hs hfull
        obtain rfl := Option.some.inj (brings.symm.trans hs)
        rw [after]
        exact h.push_evicts room hfull selector a
  | replaces selector a brings set held after =>
      refine ⟨?_, ?_, hinPlace, by simp [brings], by simp [brings]⟩
      · intro _ _
        rw [after]
        exact ⟨selectors_replace a held, rfl⟩
      · intro _ _ hset
        exact absurd set (hset selector a)
  | clears brings clear after =>
      exact ⟨fun _ kept => absurd clear kept, fun _ kept => absurd clear kept, hinPlace,
        by simp [brings], by simp [brings]⟩
  | idles brings kept after =>
      refine ⟨?_, fun _ _ _ => after, hinPlace, by simp [brings], by simp [brings]⟩
      intro _ _
      rw [after]
      exact ⟨rfl, rfl⟩

end InTurn

/-- Reads a selector as a tag whose attributes are values of any kind. -/
def readTag (lift : String → V) (selector : String) : Except SelectorFault (Tag V) :=
  (Tag.parse selector).map (Tag.map lift)

/-- Whatever is asked of a store, at every point it holds the last selectors that were inserted
since the last clear, oldest first, as many as fit, and none twice; what was reported is what was
dropped, in that order; and only insertions into a full store drop anything. -/
theorem first_in_first_out (lift : String → V) {capacity : Nat} (room : 1 ≤ capacity)
    (requests : List (Request (Tag V))) :
    ∃ shelf past,
      (start capacity).run (readTag lift) requests = shelf ∧
      insertions (readTag lift) requests (start capacity) [] = past ∧
      shelf.cache.selectors.Nodup ∧ shelf.cache.size ≤ capacity ∧
      shelf.cache.selectors = past.rtake (min past.length capacity) ∧
      shelf.notices = (drops (readTag lift) requests (start capacity)).map .evicted ∧
      ∀ request, FirstOut (readTag lift) capacity request shelf := by
  have hturn := (InTurn.start capacity).run (readTag lift) room requests
  have hnotices := (InTurn.start capacity).notices_run (readTag lift) room requests
  refine ⟨_, _, rfl, rfl, hturn.nodup, ?_, ?_, ?_, hturn.firstOut room⟩
  · rw [size_eq_length, hturn.size_eq]
    exact Nat.min_le_right _ _
  · rw [hturn.selectors_eq, List.rtake]
    congr 1
    omega
  · rw [hnotices]
    exact List.nil_append _

/-- `a` is hit and set again before it is the oldest one and leaves, and later comes back; one
selector cannot be read. -/
def returningRequests : List (Request (Tag String)) :=
  [.parse "u", .clear, .parse "a", .parse "b", .get "a", .parse "a", .set "a" ⟨"a", [("id", "x")]⟩,
    .parse "b c", .parse "i", .contains "a", .set "a" ⟨"a", []⟩]

theorem first_in_first_out_returningRequests :
    1 ≤ 2 ∧
      ∃ shelf, (start 2).run (readTag id) returningRequests = shelf ∧
        insertions (readTag id) returningRequests (start 2) [] = ["a", "b", "i", "a"] ∧
        shelf.cache.selectors = ["i", "a"] ∧
        shelf.notices = [.evicted "a", .evicted "b"] := by
  have hroom : 1 ≤ 2 := by decide
  obtain ⟨shelf, past, hrun, hpast, -, -, hselectors, hnotices, -⟩ :=
    first_in_first_out id hroom returningRequests
  have hinserted : insertions (readTag id) returningRequests (start 2) [] =
      ["a", "b", "i", "a"] := by
    decide +kernel
  have hdropped : drops (readTag id) returningRequests (start 2) = ["a", "b"] := by
    decide +kernel
  rw [hinserted] at hpast
  subst hpast
  rw [hdropped] at hnotices
  exact ⟨hroom, shelf, hrun, hinserted, hselectors, hnotices⟩

end Shelf
end MarkupTree
