import MarkupTree.Proofs.Diagnosis
import MarkupTree.Proofs.Spelling

/-!
# Validation — which texts are tag names

A tag name is a letter with letters, digits and hyphens behind it. A name that is checked by itself
may have one line feed at its end; a selector is refused for that line feed, since it is a blank.
So the check of a name and the reading of a selector agree on all other texts, and on no such one.

* `Selector.NamesTag` says which texts are tag names, `Selector.NamesTagFed` adds the line feed.
* `Selector.acceptsTagName_iff` and `Tag.parse_eq_bare_iff` tell what the check and the reader take.
* `Selector.validateTagName_compared` compares both.
-/

namespace MarkupTree
namespace Selector

/-! ## Tag names -/

/-- One letter, and then letters, digits and hyphens; ASCII alone counts. -/
def NamesTag (s : String) : Prop :=
  ∃ first rest, s.toList = first :: rest ∧ first.isAlpha = true ∧
    ∀ c ∈ rest, c.isAlphanum = true ∨ c = '-'

/-- A tag name and one line feed behind it. -/
def NamesTagFed (s : String) : Prop :=
  ∃ name, NamesTag name ∧ s = name ++ "\n"

theorem isTagName_iff (s : String) : isTagName s.toList = true ↔ NamesTag s := by
  constructor
  · intro h
    cases hs : s.toList with
    | nil =>
        rw [hs] at h
        cases h
    | cons first rest =>
        rw [hs] at h
        exact ⟨first, rest, hs, by simpa [isTagName, isNameChar] using h⟩
  · rintro ⟨first, rest, hs, h⟩
    simpa [hs, isTagName, isNameChar] using h

theorem NamesTag.noBlank {s : String} (h : NamesTag s) : Unbroken s := by
  intro c hc
  exact isBlank_of_isNameChar (isNameChar_of_isTagName ((isTagName_iff s).2 h) c hc)

/-- The line feed is the only blank. -/
theorem NamesTagFed.broken {s : String} (h : NamesTagFed s) : ¬ Unbroken s := by
  obtain ⟨name, -, rfl⟩ := h
  intro hunbroken
  have hfeed : Text.isBlank '\n' = false := hunbroken '\n' (by simp)
  exact absurd hfeed (by decide)

theorem NamesTag.not_fed {s : String} (h : NamesTag s) : ¬ NamesTagFed s :=
  fun hfed => hfed.broken h.noBlank

/-! ## What is taken -/

/-- The check of a name takes tag names, and passes over a line feed at the end. -/
theorem acceptsTagName_iff (s : String) :
    acceptsTagName s.toList = true ↔ NamesTag s ∨ NamesTagFed s := by
  have hfed : (s.toList.getLast? = some '\n' ∧ isTagName s.toList.dropLast = true) ↔
      NamesTagFed s := by
    constructor
    · rintro ⟨hlast, hname⟩
      obtain ⟨front, hfront⟩ := List.getLast?_eq_some_iff.1 hlast
      rw [hfront, List.dropLast_concat] at hname
      refine ⟨String.ofList front, (isTagName_iff _).1 (by simpa using hname), ?_⟩
      apply String.toList_injective
      simpa using hfront
    · rintro ⟨name, hname, rfl⟩
      have hlist : (name ++ "\n").toList = name.toList ++ ['\n'] := by simp
      rw [hlist, List.dropLast_concat]
      exact ⟨by simp, (isTagName_iff name).2 hname⟩
  unfold acceptsTagName
  rw [Bool.or_eq_true, Bool.and_eq_true, beq_iff_eq, isTagName_iff, hfed]

end Selector

namespace Tag

open Selector

/-- A selector without an id and classes is a tag name. -/
theorem parse_eq_bare_iff (s : String) : Tag.parse s = .ok ⟨s, []⟩ ↔ NamesTag s := by
  rw [← isTagName_iff]
  constructor
  · intro hparse
    exact (of_parse_eq_ok hparse).1
  · intro hname
    have hcut : Cut s s.toList [] :=
      ⟨by simp, unmarked_of_isTagName hname, by simp⟩
    unfold Tag.parse
    have hattributes : (⟨s, none, []⟩ : Selector).attributes = [] := rfl
    rw [parse_of_unbroken hcut ((isTagName_iff s).1 hname).noBlank, if_pos hname]
    simp [scan, Except.map, toTag, hattributes]

end Tag

namespace Selector

/-- Reading gives a bare tag exactly for a tag name. The check of a name takes these and tag names
with a line feed behind them, and refuses every other text by its name. The two agree exactly on the
texts that are not such a name with a line feed; those are refused as selectors for their blank. -/
theorem validateTagName_compared (s : String) :
    (Tag.parse s = .ok ⟨s, []⟩ ↔ NamesTag s) ∧
      (validateTagName s = .ok () ↔ NamesTag s ∨ NamesTagFed s) ∧
      (∀ fault, validateTagName s = .error fault ↔
        fault = .badName s ∧ ¬ NamesTag s ∧ ¬ NamesTagFed s) ∧
      ((validateTagName s = .ok () ↔ Tag.parse s = .ok ⟨s, []⟩) ↔ ¬ NamesTagFed s) ∧
      (validateTagName s = .ok () ∧ Tag.parse s = .error (.blank s) ↔ NamesTagFed s) := by
  have hbare := Tag.parse_eq_bare_iff s
  have hvalid : validateTagName s = .ok () ↔ NamesTag s ∨ NamesTagFed s := by
    rw [← acceptsTagName_iff]
    unfold validateTagName
    split <;> simp [*]
  have hrefused : ∀ fault, validateTagName s = .error fault ↔
      fault = .badName s ∧ ¬ NamesTag s ∧ ¬ NamesTagFed s := by
    intro fault
    rw [← not_or, ← acceptsTagName_iff]
    unfold validateTagName
    split <;> simp [*, eq_comm]
  refine ⟨hbare, hvalid, hrefused, ?_, ?_⟩
  · rw [hvalid, hbare]
    constructor
    · intro hagree hfed
      exact (hagree.1 (Or.inr hfed)).not_fed hfed
    · intro hfed
      exact or_iff_left hfed
  · constructor
    · rintro ⟨htaken, hblank⟩
      rcases hvalid.1 htaken with hname | hfed
      · -- a tag name is read, so it is not refused
        rw [hbare.2 hname] at hblank
        cases hblank
      · exact hfed
    · intro hfed
      exact ⟨hvalid.2 (Or.inr hfed), (Tag.parse_eq_error_iff s _).2 (parse_of_blank hfed.broken)⟩

/-- A line feed behind a tag name is passed over by the check of names and refused in a selector. -/
theorem validateTagName_lineFeed :
    validateTagName "div\n" = .ok () ∧ Tag.parse "div\n" = .error (.blank "div\n") ∧
      ¬ NamesTag "div\n" := by
  have hname : ¬ NamesTag "div\n" := by
    rw [← isTagName_iff]
    decide
  have hblank : ¬ Unbroken "div\n" := not_unbroken_iff.2 ⟨'\n', by simp, by decide⟩
  exact ⟨if_pos (by decide), (Tag.parse_eq_error_iff _ _).2 (parse_of_blank hblank), hname⟩

end Selector
end MarkupTree
