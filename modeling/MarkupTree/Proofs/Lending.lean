import MarkupTree.Proofs.History

/-!
# Lending — a store whose answers can be changed

The attributes of a tag are a mapping that whoever asked for it may change in place. So the store
keeps mappings of its own and hands out copies. Here every mapping has a number, and callers change
the mappings whose numbers they hold; the store still answers as if it read every selector afresh.

* `Lender` is a store together with all mappings that were made, `Lender.perform` is one step of it.
* `Lender.Apart` is the invariant: no mapping of the store is held by a caller.
* `Lender.view` is the store with its mappings read off, `Lender.parse_view` follows it.
* `Lender.transparent` compares every run with reading afresh.
-/

namespace MarkupTree

/-! ## Stores of other things -/

namespace Table

variable {α β : Type}

def mapValues (f : α → β) (t : Table α) : Table β :=
  t.map fun e => (e.1, f e.2)

theorem get?_mapValues (f : α → β) (name : String) (t : Table α) :
    (t.mapValues f).get? name = (t.get? name).map f := by
  induction t with
  | nil => rfl
  | cons e rest ih =>
      have hcons : mapValues f (e :: rest) = (e.1, f e.2) :: mapValues f rest := rfl
      by_cases h : e.1 = name
      · simp [hcons, get?, h]
      · simpa [hcons, get?, h] using ih

theorem has_mapValues (f : α → β) (name : String) (t : Table α) :
    (t.mapValues f).has name = t.has name := by
  rw [has_eq_isSome_get?, has_eq_isSome_get?, get?_mapValues, Option.isSome_map]

/-- Values that read alike in every entry make the same table. -/
theorem mapValues_congr {f g : α → β} {t : Table α} (h : ∀ e ∈ t, f e.2 = g e.2) :
    t.mapValues f = t.mapValues g :=
  List.map_congr_left fun e he => by rw [h e he]

end Table

namespace Cache

variable {α β : Type}

def map (f : α → β) (cache : Cache α) : Cache β :=
  ⟨cache.capacity, cache.entries.mapValues f⟩

theorem get?_map (f : α → β) (cache : Cache α) (selector : String) :
    (cache.map f).get? selector = (cache.get? selector).map f :=
  Table.get?_mapValues f selector cache.entries

theorem contains_map (f : α → β) (cache : Cache α) (selector : String) :
    (cache.map f).contains selector = cache.contains selector :=
  Table.has_mapValues f selector cache.entries

/-- A new selector leaves a store as it would leave the store of what is read off. -/
theorem set?_map (f : α → β) {cache : Cache α} {selector : String} (a : α)
    (hnew : cache.contains selector = false) :
    (cache.map f).set? selector (f a) =
      (cache.set? selector a).map fun stored => (stored.1.map f, stored.2) := by
  have hnew' : (cache.map f).contains selector = false := by
    rw [contains_map, hnew]
  have hcapacity : (cache.map f).capacity = cache.capacity := rfl
  have hsurplus : (cache.map f).surplus = cache.surplus := by
    simp [surplus, map, Table.mapValues]
  rw [set?_of_new hnew, set?_of_new hnew', hcapacity, hsurplus]
  split
  · rfl
  · simp [map, Table.mapValues, Table.names, List.map_drop, List.map_take, Function.comp_def]

/-- An entry of a store with a new selector is an old one or the new one. -/
theorem mem_entries_of_set? {cache stored : Cache α} {selector : String} {a : α}
    {left : List String} (hnew : cache.contains selector = false)
    (h : cache.set? selector a = some (stored, left)) :
    ∀ e ∈ stored.entries, e ∈ cache.entries ∨ e = (selector, a) := by
  rw [set?_of_new hnew] at h
  by_cases hroom : cache.capacity ≤ 0
  · simp [hroom] at h
  · rw [if_neg hroom] at h
    cases h
    intro e he
    rcases List.mem_append.1 he with hold | hlast
    · exact Or.inl (List.mem_of_mem_drop hold)
    · exact Or.inr (List.mem_singleton.1 hlast)

end Cache

/-! ## Mappings with numbers -/

/-- A tag whose attributes stand in the mapping with a number. -/
structure Slip where
  name : String
  mapping : Nat

/-- A store of selectors, and all mappings that were ever made. -/
structure Lender where
  cache : Cache Slip
  mappings : List (Table String)
  /-- the numbers of the mappings that callers hold -/
  lent : List Nat

namespace Lender

def start (capacity : Int) : Lender :=
  ⟨Cache.empty capacity, [], []⟩

/-- What a slip says at the moment. -/
def read (l : Lender) (slip : Slip) : Tag String :=
  ⟨slip.name, (l.mappings[slip.mapping]?).getD []⟩

/-- Writes attributes into a new mapping. -/
def copy (tag : Tag String) (l : Lender) : Slip × Lender :=
  (⟨tag.name, l.mappings.length⟩, { l with mappings := l.mappings ++ [tag.attributes] })

/-- Writes attributes into a new mapping and gives its number away. -/
def lend (tag : Tag String) (l : Lender) : Slip × Lender :=
  let (slip, l) := l.copy tag
  (slip, { l with lent := slip.mapping :: l.lent })

/-- Looks a selector up. A caller gets a copy of what is kept. -/
def get (selector : String) (l : Lender) : Option Slip × Lender :=
  match l.cache.get? selector with
  | some kept =>
    let (slip, l) := l.lend (l.read kept)
    (some slip, l)
  | none => (none, l)

/-- Reads a selector, serving repeats from the store. The store and the caller get copies of their
own. -/
def parse (selector : String) (l : Lender) : Except (CacheFault SelectorFault) Slip × Lender :=
  match l.get selector with
  | (some slip, l) => (.ok slip, l)
  | (none, l) =>
    match Tag.parse selector with
    | .error fault => (.error (.unreadable fault), l)
    | .ok tag =>
      let (kept, l) := l.copy tag
      match l.cache.set? selector kept with
      | some (cache, _) =>
        let (slip, l) := lend tag { l with cache }
        (.ok slip, l)
      | none => (.error .noRoom, l)

def clear (l : Lender) : Lender :=
  { l with cache := l.cache.clear }

/-- A caller changes a mapping in place. Only the mappings that were given away can be reached. -/
def update (n : Nat) (f : Table String → Table String) (l : Lender) : Lender :=
  if n ∈ l.lent then { l with mappings := l.mappings.modify n f } else l

/-! ## Runs -/

/-- What can happen to a store. -/
inductive Step
  | parse (selector : String)
  | get (selector : String)
  | contains (selector : String)
  | size
  | info
  | clear
  /-- a caller changes a mapping -/
  | update (n : Nat) (f : Table String → Table String)

/-- What is answered, with mappings as they are at that moment. -/
inductive Answer
  | tag (tag : Tag String)
  | nothing
  | truth (b : Bool)
  | size (n : Nat)
  | info (size : Nat) (capacity : Int)

def perform (step : Step) (l : Lender) : Except (CacheFault SelectorFault) Answer × Lender :=
  match step with
  | .parse selector =>
    let (answer, after) := l.parse selector
    (answer.map fun slip => .tag (after.read slip), after)
  | .get selector =>
    let (answer, after) := l.get selector
    (.ok ((answer.map fun slip => .tag (after.read slip)).getD .nothing), after)
  | .contains selector => (.ok (.truth (l.cache.contains selector)), l)
  | .size => (.ok (.size l.cache.size), l)
  | .info => (.ok (.info l.cache.size l.cache.capacity), l)
  | .clear => (.ok .nothing, l.clear)
  | .update n f => (.ok .nothing, l.update n f)

def run (steps : List Step) (l : Lender) : Lender :=
  steps.foldl (fun l step => (l.perform step).2) l

/-! ## What is kept is not lent -/

/-- The store's mappings are there and no caller holds them. -/
structure Apart (l : Lender) : Prop where
  kept : ∀ e ∈ l.cache.entries, e.2.mapping < l.mappings.length
  unlent : ∀ e ∈ l.cache.entries, e.2.mapping ∉ l.lent
  lent : ∀ n ∈ l.lent, n < l.mappings.length

/-- The store with its mappings read off. -/
def view (l : Lender) : Cache (Tag String) :=
  l.cache.map l.read

theorem read_copy_of_lt (tag : Tag String) {l : Lender} {slip : Slip}
    (h : slip.mapping < l.mappings.length) : (l.copy tag).2.read slip = l.read slip := by
  simp [read, copy, List.getElem?_append_left h]

@[simp]
theorem read_copy_self (tag : Tag String) (l : Lender) :
    (l.copy tag).2.read (l.copy tag).1 = tag := by
  simp [read, copy]

@[simp]
theorem read_lend_self (tag : Tag String) (l : Lender) :
    (l.lend tag).2.read (l.lend tag).1 = tag :=
  read_copy_self tag l

theorem read_update_of_not_mem {n : Nat} (f : Table String → Table String) {l : Lender}
    {slip : Slip} (h : slip.mapping ∉ l.lent) : (l.update n f).read slip = l.read slip := by
  unfold update
  split
  · next hn =>
      have hne : n ≠ slip.mapping := fun heq => h (heq ▸ hn)
      simp [read, hne]
  · rfl

namespace Apart

variable {l : Lender}

theorem start (capacity : Int) : Apart (Lender.start capacity) := by
  refine ⟨?_, ?_, ?_⟩ <;> simp [Lender.start, Cache.empty]

theorem copy (h : Apart l) (tag : Tag String) : Apart (l.copy tag).2 := by
  have hlonger : (l.copy tag).2.mappings.length = l.mappings.length + 1 := by
    simp [Lender.copy]
  refine ⟨?_, h.unlent, ?_⟩
  · intro e he
    rw [hlonger]
    exact Nat.lt_succ_of_lt (h.kept e he)
  · intro n hn
    rw [hlonger]
    exact Nat.lt_succ_of_lt (h.lent n hn)

theorem lend (h : Apart l) (tag : Tag String) : Apart (l.lend tag).2 := by
  have hcopy := h.copy tag
  refine ⟨hcopy.kept, ?_, ?_⟩
  · intro e he hlent
    rcases List.mem_cons.1 hlent with heq | hold
    · -- what is given away is new, and what is kept was there before
      have hkept := h.kept e he
      have hnew : e.2.mapping = l.mappings.length := heq
      omega
    · exact h.unlent e he hold
  · intro n hn
    rcases List.mem_cons.1 hn with rfl | hold
    · simp [Lender.lend, Lender.copy]
    · exact hcopy.lent n hold

/-- Storing the copy that was just made keeps the store apart. -/
theorem store (h : Apart l) {selector : String} {tag : Tag String} {cache : Cache Slip}
    {left : List String} (hnew : l.cache.contains selector = false)
    (hset : l.cache.set? selector (l.copy tag).1 = some (cache, left)) :
    Apart { (l.copy tag).2 with cache } := by
  have hcopy := h.copy tag
  have hmem := Cache.mem_entries_of_set? hnew hset
  refine ⟨?_, ?_, hcopy.lent⟩
  · intro e he
    rcases hmem e he with hold | rfl
    · exact hcopy.kept e hold
    · simp [Lender.copy]
  · intro e he hlent
    rcases hmem e he with hold | rfl
    · exact h.unlent e hold hlent
    · exact Nat.lt_irrefl _ (h.lent _ hlent)

theorem get (h : Apart l) (selector : String) : Apart (l.get selector).2 := by
  unfold Lender.get
  cases l.cache.get? selector with
  | none => exact h
  | some kept => exact h.lend (l.read kept)

theorem clear (h : Apart l) : Apart l.clear := by
  refine ⟨?_, ?_, h.lent⟩ <;> simp [Lender.clear, Cache.clear]

theorem update (h : Apart l) (n : Nat) (f : Table String → Table String) :
    Apart (l.update n f) := by
  unfold Lender.update
  split
  · exact ⟨fun e he => by simpa using h.kept e he, h.unlent,
      fun n hn => by simpa using h.lent n hn⟩
  · exact h

end Apart

/-! ## The view of every step -/

theorem view_copy {l : Lender} (h : Apart l) (tag : Tag String) :
    (l.copy tag).2.view = l.view := by
  have hentries : l.cache.entries.mapValues (l.copy tag).2.read =
      l.cache.entries.mapValues l.read :=
    Table.mapValues_congr fun e he => read_copy_of_lt tag (h.kept e he)
  exact congrArg (Cache.mk l.cache.capacity) hentries

theorem view_lend {l : Lender} (h : Apart l) (tag : Tag String) : (l.lend tag).2.view = l.view :=
  view_copy h tag

theorem view_update {l : Lender} (h : Apart l) (n : Nat) (f : Table String → Table String) :
    (l.update n f).view = l.view := by
  have hcache : (l.update n f).cache = l.cache := by
    unfold update
    split <;> rfl
  have hentries : l.cache.entries.mapValues (l.update n f).read =
      l.cache.entries.mapValues l.read :=
    Table.mapValues_congr fun e he => read_update_of_not_mem f (h.unlent e he)
  unfold view
  rw [hcache]
  exact congrArg (Cache.mk l.cache.capacity) hentries

/-- A look-up changes nothing, and a caller reads what is kept. -/
theorem get_view {l : Lender} (h : Apart l) (selector : String) :
    (l.get selector).1.map (l.get selector).2.read = l.view.get? selector ∧
      (l.get selector).2.view = l.view := by
  have hview : l.view.get? selector = (l.cache.get? selector).map l.read :=
    Cache.get?_map l.read l.cache selector
  rw [hview]
  unfold get
  cases l.cache.get? selector with
  | none => exact ⟨rfl, rfl⟩
  | some kept => exact ⟨congrArg some (read_lend_self (l.read kept) l), view_lend h (l.read kept)⟩

/-- Reading a selector does to the view what a store of tags does to itself. -/
theorem parse_view {l : Lender} (h : Apart l) (selector : String) :
    match l.view.parse Tag.parse selector with
    | .ok (tag, stored, _) => ∃ slip, (l.parse selector).1 = .ok slip ∧
        (l.parse selector).2.read slip = tag ∧ (l.parse selector).2.view = stored
    | .error fault => (l.parse selector).1 = .error fault ∧ (l.parse selector).2.view = l.view := by
  have hget : l.view.get? selector = (l.cache.get? selector).map l.read :=
    Cache.get?_map l.read l.cache selector
  unfold Cache.parse parse get
  rw [hget]
  cases hkept : l.cache.get? selector with
  | some kept => exact ⟨_, rfl, read_lend_self (l.read kept) l, view_lend h (l.read kept)⟩
  | none =>
      dsimp only [Option.map_none]
      cases hread : Tag.parse selector with
      | error fault => exact ⟨rfl, rfl⟩
      | ok tag =>
          have hnew : l.cache.contains selector = false := by
            rw [Cache.contains_eq_isSome_get?, hkept, Option.isSome_none]
          -- the copy for the store is made before anything is stored, so the view is still the old one
          have hset := Cache.set?_map (l.copy tag).2.read (l.copy tag).1 hnew
          rw [read_copy_self] at hset
          have hview : l.cache.map (l.copy tag).2.read = l.view := view_copy h tag
          rw [hview] at hset
          dsimp only
          rw [hset]
          have hsame : (l.copy tag).2.cache = l.cache := rfl
          rw [hsame]
          cases hstored : l.cache.set? selector (l.copy tag).1 with
          | none => exact ⟨rfl, view_copy h tag⟩
          | some answer =>
              have hstore : Apart { (l.copy tag).2 with cache := answer.1 } := h.store hnew hstored
              exact ⟨_, rfl, read_lend_self tag _, view_lend hstore tag⟩

theorem Apart.parse {l : Lender} (h : Apart l) (selector : String) :
    Apart (l.parse selector).2 := by
  unfold Lender.parse Lender.get
  cases hkept : l.cache.get? selector with
  | some kept => exact h.lend (l.read kept)
  | none =>
      dsimp only
      cases Tag.parse selector with
      | error fault => exact h
      | ok tag =>
          have hnew : l.cache.contains selector = false := by
            rw [Cache.contains_eq_isSome_get?, hkept, Option.isSome_none]
          have hsame : (l.copy tag).2.cache = l.cache := rfl
          dsimp only
          rw [hsame]
          cases hstored : l.cache.set? selector (l.copy tag).1 with
          | none => exact h.copy tag
          | some answer => exact (h.store hnew hstored).lend tag

end Lender

/-! ## Faithful stores answer like reading afresh -/

namespace Cache

/-- A faithful store with room answers what the selector is read as. -/
theorem Faithful.parse_eq {cache : Cache (Tag String)} (h : cache.Faithful)
    (hroom : 1 ≤ cache.capacity) (selector : String) :
    match Tag.parse selector with
    | .ok tag => ∃ stored left, cache.parse Tag.parse selector = .ok (tag, stored, left) ∧
        stored.Faithful ∧ stored.capacity = cache.capacity
    | .error fault => cache.parse Tag.parse selector = .error (.unreadable fault) := by
  cases hparse : cache.parse Tag.parse selector with
  | ok answer =>
      rcases answer with ⟨tag, stored, left⟩
      rcases h.of_parse_ok hparse with ⟨hread, hstored, hcapacity⟩
      rw [hread]
      exact ⟨stored, left, rfl, hstored, hcapacity⟩
  | error fault =>
      rcases of_parse_error hparse with ⟨f, rfl, hread⟩ | ⟨-, hnone⟩
      · rw [hread]
      · omega

end Cache

namespace Lender

/-- The invariant of every run: nothing that is kept is lent, and all of it is right. -/
structure Sound (capacity : Int) (l : Lender) : Prop where
  apart : l.Apart
  faithful : l.view.Faithful
  capacity_eq : l.view.capacity = capacity

variable {capacity : Int}

theorem Sound.start (capacity : Int) : Sound capacity (Lender.start capacity) := by
  refine ⟨Apart.start capacity, ?_, rfl⟩
  intro e he
  cases he

/-- One step keeps the invariant. -/
theorem Sound.perform {l : Lender} (h : Sound capacity l) (hroom : 1 ≤ capacity) (step : Step) :
    Sound capacity (l.perform step).2 := by
  cases step with
  | parse selector =>
      have hview := parse_view h.apart selector
      have hparse := h.faithful.parse_eq (h.capacity_eq ▸ hroom) selector
      show Sound capacity (l.parse selector).2
      cases hread : Tag.parse selector with
      | ok tag =>
          rw [hread] at hparse
          rcases hparse with ⟨stored, left, hstored, hfaithful, hcapacity⟩
          rw [hstored] at hview
          rcases hview with ⟨slip, -, -, hafter⟩
          exact ⟨h.apart.parse selector, hafter ▸ hfaithful,
            hafter ▸ hcapacity.trans h.capacity_eq⟩
      | error fault =>
          rw [hread] at hparse
          rw [hparse] at hview
          exact ⟨h.apart.parse selector, hview.2 ▸ h.faithful, hview.2 ▸ h.capacity_eq⟩
  | get selector =>
      have hview := (get_view h.apart selector).2
      exact ⟨h.apart.get selector, hview ▸ h.faithful, hview ▸ h.capacity_eq⟩
  | clear =>
      refine ⟨h.apart.clear, ?_, h.capacity_eq⟩
      intro e he
      cases he
  | update n f =>
      have hview := view_update h.apart n f
      exact ⟨h.apart.update n f, hview ▸ h.faithful, hview ▸ h.capacity_eq⟩
  | contains selector => exact h
  | size => exact h
  | info => exact h

theorem Sound.run {l : Lender} (h : Sound capacity l) (hroom : 1 ≤ capacity)
    (steps : List Step) : Sound capacity (l.run steps) := by
  induction steps generalizing l with
  | nil => exact h
  | cons step rest ih => exact ih (h.perform hroom step)

/-! ## Transparent stores -/

/-- Nobody can tell the store from reading every selector afresh, except by what it holds. -/
structure Transparent (l : Lender) : Prop where
  /-- a selector is answered, or refused, as it is read -/
  parse : ∀ selector, (l.perform (.parse selector)).1 =
    ((Tag.parse selector).map Answer.tag).mapError .unreadable
  /-- what is looked up is not there or is what the selector is read as -/
  get : ∀ selector, (l.perform (.get selector)).1 = .ok .nothing ∨
    ∃ tag, Tag.parse selector = .ok tag ∧ (l.perform (.get selector)).1 = .ok (.tag tag)
  /-- something is found exactly if the store holds the selector -/
  contains : ∀ selector, (l.perform (.get selector)).1 ≠ .ok .nothing ↔
    (l.perform (.contains selector)).1 = .ok (.truth true)
  /-- the store never holds a selector that cannot be read -/
  unreadable : ∀ selector fault, Tag.parse selector = .error fault →
    (l.perform (.contains selector)).1 = .ok (.truth false)
  /-- no step fails but the reading of a selector that cannot be read -/
  fault : ∀ step fault, (l.perform step).1 = .error fault →
    ∃ selector f, step = .parse selector ∧ Tag.parse selector = .error f ∧ fault = .unreadable f
  /-- the store does what a store of tags without any numbers does -/
  view : ∀ selector,
    (l.view.parse Tag.parse selector).map (fun answer => (Answer.tag answer.1, answer.2.1)) =
      (l.perform (.parse selector)).1.map fun answer =>
        (answer, (l.perform (.parse selector)).2.view)

theorem Sound.parse_eq {l : Lender} (h : Sound capacity l) (hroom : 1 ≤ capacity)
    (selector : String) : (l.perform (.parse selector)).1 =
      ((Tag.parse selector).map Answer.tag).mapError .unreadable := by
  have hview := parse_view h.apart selector
  have hparse := h.faithful.parse_eq (h.capacity_eq ▸ hroom) selector
  unfold Lender.perform
  cases hread : Tag.parse selector with
  | ok tag =>
      rw [hread] at hparse
      rcases hparse with ⟨stored, left, hstored, -, -⟩
      rw [hstored] at hview
      rcases hview with ⟨slip, hslip, htag, -⟩
      simp only [hslip, Except.map, htag]
      rfl
  | error fault =>
      rw [hread] at hparse
      rw [hparse] at hview
      simp only [hview.1]
      rfl

theorem Sound.get_eq {l : Lender} (h : Sound capacity l) (selector : String) :
    (l.perform (.get selector)).1 =
      .ok (((l.view.get? selector).map Answer.tag).getD .nothing) := by
  have hget := (get_view h.apart selector).1
  unfold Lender.perform
  rw [← hget, Option.map_map]
  rfl

theorem contains_view (l : Lender) (selector : String) :
    l.view.contains selector = l.cache.contains selector :=
  Cache.contains_map l.read l.cache selector

/-- Whatever is asked of a store, and however callers change the mappings that they were given, it
answers as if every selector were read afresh. -/
theorem transparent (hroom : 1 ≤ capacity) (steps : List Step) :
    ((start capacity).run steps).Transparent := by
  have hsound := (Sound.start capacity).run hroom steps
  generalize (start capacity).run steps = l at hsound
  refine ⟨hsound.parse_eq hroom, ?_, ?_, ?_, ?_, ?_⟩
  · intro selector
    rw [hsound.get_eq]
    cases hget : l.view.get? selector with
    | none => exact Or.inl rfl
    | some tag => exact Or.inr ⟨tag, hsound.faithful.of_get? hget, rfl⟩
  · intro selector
    have hcontains : (l.perform (.contains selector)).1 =
        .ok (.truth (l.view.get? selector).isSome) := by
      rw [← Cache.contains_eq_isSome_get?, contains_view]
      rfl
    rw [hsound.get_eq, hcontains]
    cases l.view.get? selector <;> simp
  · intro selector fault hread
    have hnot := hsound.faithful.not_contains hread
    rw [contains_view] at hnot
    show Except.ok (Answer.truth (l.cache.contains selector)) = _
    rw [hnot]
  · intro step fault hfault
    cases step with
    | parse selector =>
        rw [hsound.parse_eq hroom] at hfault
        cases hread : Tag.parse selector with
        | ok tag =>
            rw [hread] at hfault
            cases hfault
        | error f =>
            rw [hread] at hfault
            cases hfault
            exact ⟨selector, f, rfl, hread, rfl⟩
    | _ => cases hfault
  · intro selector
    have hview := parse_view hsound.apart selector
    unfold perform
    cases hparse : l.view.parse Tag.parse selector with
    | ok answer =>
        rcases answer with ⟨tag, stored, left⟩
        rw [hparse] at hview
        rcases hview with ⟨slip, hslip, htag, hafter⟩
        simp only [hslip, htag, hafter, Except.map]
    | error fault =>
        rw [hparse] at hview
        simp only [hview.1, Except.map]

/-- The first selector leaves the store. Of the second one, callers spoil both copies that they hold
and reach for the one that is kept. -/
def spoilingSteps : List Step :=
  [.parse "b", .parse "p#a.b", .update 3 (fun _ => [("class", "spoiled")]), .parse "i",
    .parse "p q", .get "p#a.b", .update 6 (fun _ => []), .update 2 (fun _ => [])]

theorem transparent_spoilingSteps :
    (1 : Int) ≤ 2 ∧
      (((start 2).run spoilingSteps).perform (.contains "p#a.b")).1 = .ok (.truth true) ∧
      (((start 2).run spoilingSteps).perform (.parse "p#a.b")).1 =
        .ok (.tag ⟨"p", [("id", "a"), ("class", "b")]⟩) ∧
      (((start 2).run spoilingSteps).perform (.parse "b")).1 = .ok (.tag ⟨"b", []⟩) ∧
      (((start 2).run spoilingSteps).perform (.parse "p q")).1 =
        .error (.unreadable (.blank "p q")) ∧
      (((start 2).run spoilingSteps).perform (.contains "p q")).1 = .ok (.truth false) := by
  have hroom : (1 : Int) ≤ 2 := by decide
  have htransparent := transparent hroom spoilingSteps
  have hpresent : Tag.parse "p#a.b" = .ok ⟨"p", [("id", "a"), ("class", "b")]⟩ := by rfl
  have hbare : Tag.parse "b" = .ok ⟨"b", []⟩ := by rfl
  have hblank : Tag.parse "p q" = .error (.blank "p q") := by rfl
  refine ⟨hroom, ?_, ?_, ?_, ?_, htransparent.unreadable "p q" _ hblank⟩
  · rfl
  · rw [htransparent.parse, hpresent]
    rfl
  · rw [htransparent.parse, hbare]
    rfl
  · rw [htransparent.parse, hblank]
    rfl

end Lender
end MarkupTree
