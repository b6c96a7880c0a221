import MarkupTree.Attributes
import MarkupTree.Table

/-!
# Attributes — what a sorted mapping holds and how it is written

The attributes of a tag are those of its selector with the explicit ones put over them. This file
says where every entry of a sorted plan comes from, which handlers it holds, and that writing the
attributes cannot fail any more.

* `AttributePlan.sort_eq_of_present` and `AttributePlan.present_of_sort_eq_ok` describe sorting.
* `AttributePlan.mem_attributes_of_prepare` traces the attributes of a plan back.
* `writtenPairs` is what is written of a mapping, `writeAttributes_eq` says that it is.
-/

namespace MarkupTree

variable {C : Type}

/-! ## Missing values -/

def Value.Present (v : Value C) : Prop :=
  v.check = .ok ()

theorem Value.present_str (s : String) : (Value.str s : Value C).Present := rfl

theorem Value.checkUnder_eq_ok_iff (key v : Value C) :
    Value.checkUnder key v = .ok () ↔ v.Present := by
  unfold Value.Present
  cases key <;> cases v <;> simp [Value.checkUnder, Value.check]

/-! ## Putting entries -/

namespace Entries

/-- After a value is put, every entry is an old one or has that value, and then its key is the new
one or an old one. -/
theorem mem_put {key v : Value C} {es : Entries C} {e : Value C × Value C}
    (h : e ∈ put key v es) : e ∈ es ∨ e.2 = v ∧ (e.1 = key ∨ e.1 ∈ es.map Prod.fst) := by
  induction es with
  | nil =>
      have he : e = (key, v) := by simpa [put] using h
      subst he
      exact Or.inr ⟨rfl, Or.inl rfl⟩
  | cons first rest ih =>
      unfold put at h
      split at h
      · -- the present key keeps its spelling, so it is an old one
        rcases List.mem_cons.1 h with rfl | hrest
        · exact Or.inr ⟨rfl, Or.inr (by simp)⟩
        · exact Or.inl (List.mem_cons_of_mem _ hrest)
      · rcases List.mem_cons.1 h with rfl | hrest
        · exact Or.inl (by simp)
        · rcases ih hrest with hold | ⟨hv, hkey | hkey⟩
          · exact Or.inl (List.mem_cons_of_mem _ hold)
          · exact Or.inr ⟨hv, Or.inl hkey⟩
          · exact Or.inr ⟨hv, Or.inr (by simp [hkey])⟩

/-- A present key keeps its spelling, so that putting a value under it brings no new key. -/
theorem map_fst_put_of_get? {key v w : Value C} {es : Entries C} (h : es.get? key = some w) :
    (put key v es).map Prod.fst = es.map Prod.fst := by
  induction es with
  | nil => simp [get?] at h
  | cons first rest ih =>
      unfold put
      split
      · rfl
      · next hfirst =>
          have hrest : Entries.get? rest key = some w := by
            simpa [get?, List.find?_cons, hfirst] using h
          simp [ih hrest]

theorem put_of_absent {key : Value C} (v : Value C) {es : Entries C}
    (h : ∀ e ∈ es, e.1.sameKey key = false) : put key v es = es ++ [(key, v)] := by
  induction es with
  | nil => rfl
  | cons first rest ih =>
      have hfirst : first.1.sameKey key = false := h first (by simp)
      have hrest := ih fun e he => h e (List.mem_cons_of_mem _ he)
      simp [put, hfirst, hrest]

theorem mem_update {es news : Entries C} {e : Value C × Value C} (h : e ∈ update es news) :
    (e.1 ∈ es.map Prod.fst ∨ e.1 ∈ news.map Prod.fst) ∧
      (e.2 ∈ es.map Prod.snd ∨ e.2 ∈ news.map Prod.snd) := by
  induction news generalizing es with
  | nil =>
      have he : e ∈ es := h
      exact ⟨Or.inl (List.mem_map_of_mem he), Or.inl (List.mem_map_of_mem he)⟩
  | cons new rest ih =>
      rcases ih h with ⟨hkey, hvalue⟩
      constructor
      · rcases hkey with hkey | hkey
        · obtain ⟨e', he', heq⟩ := List.mem_map.1 hkey
          rcases mem_put he' with hold | ⟨_, hnew | hold⟩
          · exact Or.inl (heq ▸ List.mem_map_of_mem hold)
          · exact Or.inr (by simp [← heq, hnew])
          · exact Or.inl (heq ▸ hold)
        · exact Or.inr (by simpa using Or.inr (by simpa using hkey))
      · rcases hvalue with hvalue | hvalue
        · obtain ⟨e', he', heq⟩ := List.mem_map.1 hvalue
          rcases mem_put he' with hold | ⟨hnew, _⟩
          · exact Or.inl (heq ▸ List.mem_map_of_mem hold)
          · exact Or.inr (by simp [← heq, hnew])
        · exact Or.inr (by simpa using Or.inr (by simpa using hvalue))

def plain (es : Entries C) : Entries C :=
  es.filter fun e => (eventName? e.1).isNone

def handler? (e : Value C × Value C) : Option (String × Callable (Value C) C) :=
  (eventName? e.1).bind fun event => e.2.callable?.map (event, ·)

/-- The handlers of a mapping under the names of their events, in the order of the mapping. -/
def handlers (es : Entries C) : Table (Callable (Value C) C) :=
  es.filterMap handler?

end Entries

/-! ## Handlers -/

namespace Table

variable {α : Type}

def ofPairs (pairs : List (String × α)) : Table α :=
  pairs.foldl (fun t e => t.put e.1 e.2) []

theorem adjust_of_not_mem {name : String} (f : Option α → α) {t : Table α}
    (h : name ∉ t.map Prod.fst) : t.adjust name f = t ++ [(name, f none)] := by
  induction t with
  | nil => rfl
  | cons e rest ih =>
      have he : e.1 ≠ name := by
        intro heq
        exact h (by simp [heq])
      have hrest : name ∉ rest.map Prod.fst := by
        intro hmem
        exact h (List.mem_cons_of_mem _ hmem)
      simp [adjust, he, ih hrest]

theorem put_of_not_mem {name : String} (a : α) {t : Table α} (h : name ∉ t.map Prod.fst) :
    t.put name a = t ++ [(name, a)] :=
  adjust_of_not_mem (fun _ => a) h

theorem nodup_names_put (name : String) (a : α) {t : Table α} (h : t.names.Nodup) :
    (t.put name a).names.Nodup := by
  rw [names_put]
  split
  · exact h
  · next hnew =>
      have hmem : name ∉ t.names := by
        intro hmem
        rcases List.mem_map.1 hmem with ⟨e, he, rfl⟩
        exact hnew (List.any_eq_true.2 ⟨e, he, by simp⟩)
      simpa [List.nodup_append] using ⟨h, fun x hx heq => hmem (heq ▸ hx)⟩

/-- No name comes twice in a table that is put together entry by entry. -/
theorem nodup_names_ofPairs (pairs : List (String × α)) : (ofPairs pairs).names.Nodup := by
  have hfold : ∀ (t : Table α), t.names.Nodup →
      (pairs.foldl (fun t e => t.put e.1 e.2) t).names.Nodup := by
    induction pairs with
    | nil => exact fun t ht => ht
    | cons e rest ih => exact fun t ht => ih _ (nodup_names_put e.1 e.2 ht)
  exact hfold [] List.nodup_nil

theorem ofPairs_of_nodup {pairs : List (String × α)} (h : (pairs.map Prod.fst).Nodup) :
    ofPairs pairs = pairs := by
  have hfold : ∀ (t : Table α), ((t ++ pairs).map Prod.fst).Nodup →
      pairs.foldl (fun t e => t.put e.1 e.2) t = t ++ pairs := by
    induction pairs with
    | nil => exact fun t _ => (List.append_nil t).symm
    | cons e rest ih =>
        intro t ht
        have hnew : e.1 ∉ t.map Prod.fst := by
          intro hmem
          have hdisjoint := (List.nodup_append.1 (by simpa using ht)).2.2
          exact hdisjoint e.1 hmem e.1 (by simp) rfl
        have hrest : rest.map Prod.fst |>.Nodup := (List.nodup_cons.1 h).2
        have hput : t.put e.1 e.2 ++ rest = t ++ e :: rest := by
          rw [put_of_not_mem e.2 hnew, List.append_assoc, List.singleton_append]
        rw [List.foldl_cons, ih hrest _ (by rw [hput]; exact ht), hput]
  simpa [ofPairs] using hfold [] (by simpa using h)

end Table

theorem eq_append_of_afterStart? {start s rest : String} (h : afterStart? start s = some rest) :
    s = start ++ rest := by
  unfold afterStart? at h
  split at h
  · next hstart =>
      cases h
      rcases List.isPrefixOf_iff_prefix.1 hstart with ⟨more, hmore⟩
      rw [← String.ofList_toList (s := s), ← hmore]
      apply String.toList_injective
      simp
  · cases h

theorem sameKey_of_eventName? {k l : Value C} {event : String} (hk : eventName? k = some event)
    (hl : eventName? l = some event) : k.sameKey l = true := by
  unfold eventName? at hk hl
  rcases Option.bind_eq_some_iff.1 hk with ⟨s, hs, hs'⟩
  rcases Option.bind_eq_some_iff.1 hl with ⟨t, ht, ht'⟩
  -- both strings are the mark of events and the same event behind it
  have hst : s = t := by
    rw [eq_append_of_afterStart? hs', eq_append_of_afterStart? ht']
  cases k <;> simp [Value.string?] at hs <;>
    cases l <;> simp [Value.string?] at ht <;> simp [Value.sameKey, hs, ht, hst]

namespace Entries

/-- No two entries have the same key. Every mapping that is built by putting entries is so. -/
def Distinct (es : Entries C) : Prop :=
  es.Pairwise fun e e' => e.1.sameKey e'.1 = false

theorem nodup_names_handlers {es : Entries C} (h : es.Distinct) :
    (es.handlers.map Prod.fst).Nodup := by
  unfold handlers
  rw [List.Nodup, List.pairwise_map, List.pairwise_filterMap]
  refine h.imp ?_
  intro e e' hdistinct b hb b' hb' hname
  -- two handlers under one name would come from keys that name the same event
  rcases Option.bind_eq_some_iff.1 hb with ⟨event, hevent, hf⟩
  rcases Option.bind_eq_some_iff.1 hb' with ⟨event', hevent', hf'⟩
  rcases Option.map_eq_some_iff.1 hf with ⟨f, -, rfl⟩
  rcases Option.map_eq_some_iff.1 hf' with ⟨f', -, rfl⟩
  have hsame : event = event' := hname
  subst hsame
  rw [sameKey_of_eventName? hevent hevent'] at hdistinct
  cases hdistinct

end Entries

/-! ## Sorting -/

namespace AttributePlan

/-- Entries without missing values are sorted into plain attributes and handlers. -/
theorem sort_eq_of_present (plan : AttributePlan C) {es : Entries C}
    (h : ∀ e ∈ es, e.2.Present) :
    sort plan es = .ok
      ⟨Entries.update plan.attributes es.plain,
        es.handlers.foldl (fun t e => t.put e.1 e.2) plan.events, plan.innerHtml⟩ := by
  induction es generalizing plan with
  | nil => rfl
  | cons e rest ih =>
      rcases e with ⟨key, v⟩
      have hv : Value.checkUnder key v = .ok () :=
        (Value.checkUnder_eq_ok_iff key v).2 (h (key, v) (by simp))
      have hrest : ∀ e ∈ rest, e.2.Present := fun e he => h e (List.mem_cons_of_mem _ he)
      unfold sort
      rw [hv]
      -- the three ways an entry can go: an attribute, a handler, or dropped
      cases hevent : eventName? key with
      | none =>
          show sort _ rest = _
          rw [ih _ hrest]
          simp [Entries.plain, Entries.handlers, Entries.handler?, Entries.update, hevent]
      | some event =>
          cases hf : v.callable? with
          | none =>
              show sort plan rest = _
              rw [ih _ hrest]
              simp [Entries.plain, Entries.handlers, Entries.handler?, hevent, hf]
          | some f =>
              show sort _ rest = _
              rw [ih _ hrest]
              simp [Entries.plain, Entries.handlers, Entries.handler?, hevent, hf]

/-- Sorting refuses every missing value. -/
theorem present_of_sort_eq_ok {plan plan' : AttributePlan C} {es : Entries C}
    (h : sort plan es = .ok plan') : ∀ e ∈ es, e.2.Present := by
  induction es generalizing plan with
  | nil => simp
  | cons e rest ih =>
      rcases e with ⟨key, v⟩
      unfold sort at h
      cases hv : Value.checkUnder key v with
      | error fault =>
          rw [hv] at h
          cases h
      | ok =>
          rw [hv] at h
          have hrest : ∀ e ∈ rest, e.2.Present := by
            cases hevent : eventName? key with
            | none =>
                simp only [hevent] at h
                exact ih h
            | some event =>
                cases hf : v.callable? with
                | none =>
                    simp only [hevent, hf] at h
                    exact ih h
                | some f =>
                    simp only [hevent, hf] at h
                    exact ih h
          intro e he
          rcases List.mem_cons.1 he with rfl | he
          · exact (Value.checkUnder_eq_ok_iff key v).1 hv
          · exact hrest e he

theorem mem_normalize {given es : Entries C} {name : String} {f : Value C → String}
    {e : Value C × Value C} (h : e ∈ normalize given name f es) :
    e.1 ∈ es.map Prod.fst ∧ (e ∈ es ∨ e.2.Present) := by
  unfold normalize at h
  split at h
  · next v _ hv =>
      have hkey : e.1 ∈ (Entries.put (.str name) (.str (f v)) es).map Prod.fst :=
        List.mem_map_of_mem h
      rw [Entries.map_fst_put_of_get? hv] at hkey
      refine ⟨hkey, ?_⟩
      rcases Entries.mem_put h with hold | ⟨hnew, -⟩
      · exact Or.inl hold
      · exact Or.inr (hnew ▸ Value.present_str (f v))
  · exact ⟨List.mem_map_of_mem h, Or.inl h⟩

/-- A plan exists exactly if no explicit value is missing; its handlers are those of the explicit
mapping. -/
theorem prepare_eq_ok {seed : Entries C} {given : Option (Entries C)} {plan : AttributePlan C}
    (h : prepare seed given = .ok plan) :
    (∀ e ∈ given.getD [], e.2.Present) ∧ plan.events = Table.ofPairs (given.getD []).handlers ∧
      ∀ e ∈ plan.attributes, e ∈ normalize (given.getD []) Vocabulary.className classText
        (normalize (given.getD []) Vocabulary.style styleText
          (Entries.update seed (given.getD []).plain)) := by
  unfold prepare at h
  dsimp only at h
  cases hsort : sort ⟨seed, [], .null⟩ (given.getD []) with
  | error fault =>
      rw [hsort] at h
      cases h
  | ok sorted =>
      -- sorting succeeded, so nothing is missing, so it did what it does then
      have hpresent := present_of_sort_eq_ok hsort
      rw [sort_eq_of_present _ hpresent] at h
      cases h
      refine ⟨hpresent, rfl, ?_⟩
      intro e he
      exact (List.mem_filter.1 he).1

/-- The key of an attribute is a key of the selector's attributes or an explicit key, and then not
the key of an event. -/
theorem plainKey_mem_of_prepare {seed : Entries C} {given : Option (Entries C)}
    {plan : AttributePlan C} (h : prepare seed given = .ok plan) {e : Value C × Value C}
    (he : e ∈ plan.attributes) :
    e.1 ∈ seed.map Prod.fst ∨ e.1 ∈ (given.getD []).plain.map Prod.fst := by
  rcases prepare_eq_ok h with ⟨-, -, hfrom⟩
  -- back through both text forms to the merged mapping
  rcases List.mem_map.1 (mem_normalize (hfrom e he)).1 with ⟨e₁, he₁, hkey₁⟩
  rcases List.mem_map.1 (mem_normalize he₁).1 with ⟨e₂, he₂, hkey₂⟩
  rw [← hkey₁, ← hkey₂]
  exact (Entries.mem_update he₂).1

/-- The key of an attribute is a key of the selector's attributes or an explicit key. -/
theorem key_mem_of_prepare {seed : Entries C} {given : Option (Entries C)}
    {plan : AttributePlan C} (h : prepare seed given = .ok plan) {e : Value C × Value C}
    (he : e ∈ plan.attributes) :
    e.1 ∈ seed.map Prod.fst ∨ e.1 ∈ (given.getD []).map Prod.fst := by
  rcases plainKey_mem_of_prepare h he with hseed | hplain
  · exact Or.inl hseed
  · obtain ⟨e', he', hkey⟩ := List.mem_map.1 hplain
    exact Or.inr (hkey ▸ List.mem_map_of_mem (List.mem_filter.1 he').1)

/-- No attribute of a plan is missing, if none of the selector's is. -/
theorem present_of_prepare {seed : Entries C} {given : Option (Entries C)}
    {plan : AttributePlan C} (h : prepare seed given = .ok plan)
    (hseed : ∀ e ∈ seed, e.2.Present) : ∀ e ∈ plan.attributes, e.2.Present := by
  rcases prepare_eq_ok h with ⟨hgiven, -, hfrom⟩
  intro e he
  rcases (mem_normalize (hfrom e he)).2 with he₁ | hpresent
  · rcases (mem_normalize he₁).2 with he₂ | hpresent
    · rcases (Entries.mem_update he₂).2 with hmem | hmem
      · obtain ⟨e', he', heq⟩ := List.mem_map.1 hmem
        exact heq ▸ hseed e' he'
      · obtain ⟨e', he', heq⟩ := List.mem_map.1 hmem
        exact heq ▸ hgiven e' (List.mem_filter.1 he').1
    · exact hpresent
  · exact hpresent

end AttributePlan

/-! ## Writing -/

/-- What is written of one attribute: its name, and its value unless the name stands alone.
Nothing is written of `False`, nor of a name that is empty and stands alone. -/
def writtenPair? (e : Value C × Value C) : Option (String × Option String) :=
  match e.2 with
  | .bool false => none
  | .bool true => if e.1.text = "" then none else some (e.1.text, none)
  | v => some (e.1.text, some v.leafText)

/-- What is written of a mapping, in its order. -/
def writtenPairs (es : Entries C) : List (String × Option String) :=
  es.filterMap writtenPair?

theorem writtenPairs_append_str (es : Entries C) (name value : String) :
    writtenPairs (es ++ [(.str name, .str value)]) = writtenPairs es ++ [(name, some value)] := by
  simp [writtenPairs, writtenPair?, Value.leafText, Value.text]

/-- An attribute in markup, after a space. -/
def printAttribute : String × Option String → String
  | (name, none) => " " ++ name
  | (name, some value) => " " ++ name ++ "=\"" ++ Text.escape value ++ "\""

def printAttributes : List (String × Option String) → String
  | [] => ""
  | pair :: rest => printAttribute pair ++ printAttributes rest

@[simp]
theorem printAttributes_append (ps qs : List (String × Option String)) :
    printAttributes (ps ++ qs) = printAttributes ps ++ printAttributes qs := by
  induction ps with
  | nil => simp [printAttributes]
  | cons p rest ih => simp [printAttributes, ih, String.append_assoc]

theorem quoted_ne_empty (name value : String) : name ++ "=\"" ++ value ++ "\"" ≠ "" := by
  intro h
  have hlength := congrArg String.length h
  simp at hlength

/-- One present attribute is written after a space, or not at all. -/
theorem writeAttribute_eq (key : Value C) {v : Value C} (h : v.Present) :
    ∃ written, writeAttribute key.text v = .ok written ∧
      (if written = "" then "" else " " ++ written) =
        printAttributes (writtenPair? (key, v)).toList := by
  have hquoted : ∀ w : Value C, (if key.text ++ "=\"" ++ w.escaped ++ "\"" = "" then ""
      else " " ++ (key.text ++ "=\"" ++ w.escaped ++ "\"")) =
        printAttributes [(key.text, some w.leafText)] := by
    intro w
    rw [if_neg (quoted_ne_empty _ _)]
    simp [printAttributes, printAttribute, Value.escaped, String.append_assoc]
  cases v with
  | null => cases h
  | undefined => cases h
  | bool b =>
      cases b with
      | false => exact ⟨"", rfl, rfl⟩
      | true =>
          refine ⟨key.text, rfl, ?_⟩
          by_cases hempty : key.text = "" <;>
            simp [writtenPair?, hempty, printAttributes, printAttribute]
  | _ => exact ⟨_, rfl, hquoted _⟩

/-- Attributes without missing values can always be written. -/
theorem writeAttributes_eq {es : Entries C} (h : ∀ e ∈ es, e.2.Present) :
    writeAttributes es = .ok (printAttributes (writtenPairs es)) := by
  induction es with
  | nil => rfl
  | cons e rest ih =>
      rcases e with ⟨key, v⟩
      rcases writeAttribute_eq key (h (key, v) (by simp)) with ⟨written, hwritten, hprinted⟩
      have hrest := ih fun e he => h e (List.mem_cons_of_mem _ he)
      have hpairs : writtenPairs ((key, v) :: rest) =
          (writtenPair? (key, v)).toList ++ writtenPairs rest := by
        unfold writtenPairs
        cases hpair : writtenPair? (key, v) <;> simp [hpair]
      unfold writeAttributes
      rw [hwritten, hrest, hpairs, printAttributes_append, ← hprinted]
      rfl

end MarkupTree
