import MarkupTree.Proofs.Reader
import MarkupTree.Proofs.Visited

/-!
# Grammar — which texts are selectors

A selector is a tag name with marked segments behind it. Each segment has a text of its own, at
most one of them is an id, and there is no blank anywhere. Reading takes exactly these texts.

* `Selector.Spelled` says that a text is spelled with a name and segments.
* `Selector.InGrammar` is the language of selectors.
* `Selector.parse_ok_iff` and `Tag.parse_ok_iff` say that reading accepts this language.
-/

namespace MarkupTree
namespace Selector

/-! ## The language -/

/-- The text is a tag name and then segments, each with a text without marks; not more than one of
them is an id, and nothing is blank. -/
structure Spelled (s : String) (name : List Char) (segments : List Segment) : Prop where
  isTagName : isTagName name = true
  written : s.toList = name ++ segments.flatMap Segment.written
  texts : ∀ segment ∈ segments, segment.text ≠ []
  unmarked : ∀ segment ∈ segments, ∀ c ∈ segment.text, Mark.ofChar? c = none
  oneId : segments.countP (·.mark = .hash) ≤ 1
  noBlank : ∀ c ∈ s.toList, Text.isBlank c = false

def InGrammar (s : String) : Prop :=
  ∃ name segments, Spelled s name segments

/-! ## Cutting -/

/-- No mark is left in what a text is cut into. -/
theorem split_unmarked (cs : List Char) :
    (∀ c ∈ (split cs).1, Mark.ofChar? c = none) ∧
      ∀ segment ∈ (split cs).2, ∀ c ∈ segment.text, Mark.ofChar? c = none := by
  induction cs with
  | nil => simp [split]
  | cons c rest ih =>
      unfold split
      cases hmark : Mark.ofChar? c with
      | none =>
          refine ⟨?_, ih.2⟩
          intro d hd
          rcases List.mem_cons.1 hd with rfl | hd
          · exact hmark
          · exact ih.1 d hd
      | some mark =>
          refine ⟨by simp, ?_⟩
          intro segment hsegment
          rcases List.mem_cons.1 hsegment with rfl | hsegment
          · exact ih.1
          · exact ih.2 segment hsegment

/-- Text without marks goes to what stands in front. -/
theorem split_append {lead : List Char} (h : ∀ c ∈ lead, Mark.ofChar? c = none)
    (rest : List Char) : split (lead ++ rest) = (lead ++ (split rest).1, (split rest).2) := by
  induction lead with
  | nil => rfl
  | cons c lead ih =>
      have hfirst : Mark.ofChar? c = none := h c (by simp)
      have hothers := ih fun d hd => h d (List.mem_cons_of_mem _ hd)
      simp [split, hfirst, hothers]

theorem split_segments {segments : List Segment}
    (h : ∀ segment ∈ segments, ∀ c ∈ segment.text, Mark.ofChar? c = none) :
    split (segments.flatMap Segment.written) = ([], segments) := by
  induction segments with
  | nil => rfl
  | cons segment rest ih =>
      have hrest := ih fun other hother => h other (List.mem_cons_of_mem _ hother)
      have htext := split_append (h segment (by simp)) (rest.flatMap Segment.written)
      have hmark : Mark.ofChar? segment.mark.char = some segment.mark := by
        cases segment.mark <;> rfl
      rw [hrest, List.append_nil] at htext
      simp only [List.flatMap_cons, Segment.written, List.cons_append, split, htext, hmark]

/-- The name is what stands before the first mark, and every segment goes from its mark up to the
next one. Together they are the whole text. -/
structure Cut (s : String) (name : List Char) (segments : List Segment) : Prop where
  written : s.toList = name ++ segments.flatMap Segment.written
  name : ∀ c ∈ name, Mark.ofChar? c = none
  texts : ∀ segment ∈ segments, ∀ c ∈ segment.text, Mark.ofChar? c = none

theorem cut_split (s : String) : Cut s (split s.toList).1 (split s.toList).2 :=
  ⟨(split_written s.toList).symm, (split_unmarked s.toList).1, (split_unmarked s.toList).2⟩

/-- A text is cut in one way. -/
theorem Cut.split_eq {s : String} {name : List Char} {segments : List Segment}
    (h : Cut s name segments) : split s.toList = (name, segments) := by
  rw [h.written, split_append h.name, split_segments h.texts, List.append_nil]

/-- No mark is a character of a tag name. -/
theorem unmarked_of_isTagName {name : List Char} (h : isTagName name = true) :
    ∀ c ∈ name, Mark.ofChar? c = none := by
  intro c hc
  have hchar := isNameChar_of_isTagName h c hc
  cases hmark : Mark.ofChar? c with
  | none => rfl
  | some mark =>
      rw [← Mark.ofChar?_eq_some hmark] at hchar
      cases mark <;> exact absurd hchar (by decide)

theorem Spelled.cut {s : String} {name : List Char} {segments : List Segment}
    (h : Spelled s name segments) : Cut s name segments :=
  ⟨h.written, unmarked_of_isTagName h.isTagName, h.unmarked⟩

/-- A spelled text is cut into what it is spelled with. -/
theorem Spelled.split_eq {s : String} {name : List Char} {segments : List Segment}
    (h : Spelled s name segments) : split s.toList = (name, segments) :=
  h.cut.split_eq

/-! ## Reading -/

/-- Segments are read to the end if each has a text and there is one id in all. -/
theorem scan_ok_iff (s : String) (id : Option String) (classes : List String)
    (segments : List Segment) :
    (∃ found, scan s id classes segments = .ok found) ↔
      (∀ segment ∈ segments, segment.text ≠ []) ∧
        segments.countP (·.mark = .hash) + id.toList.length ≤ 1 := by
  induction segments generalizing id classes with
  | nil => cases id <;> simp [scan]
  | cons segment rest ih =>
      rcases segment with ⟨mark, text⟩
      by_cases htext : text = []
      · -- the empty segment is refused, if not for being a second id
        subst htext
        refine iff_of_false ?_ ?_
        · rintro ⟨found, hfound⟩
          unfold scan at hfound
          simp at hfound
          split at hfound <;> cases hfound
        · intro h
          exact h.1 ⟨mark, []⟩ (by simp) rfl
      · cases mark with
        | dot => simp [scan, htext, ih]
        | hash =>
            cases id with
            | none => simp [scan, htext, ih]
            | some found => simp [scan]

/-- Exactly the texts of the language are read as selectors. -/
theorem parse_ok_iff (s : String) :
    (∃ selector, Selector.parse s = .ok selector) ↔ InGrammar s := by
  constructor
  · -- a text that is read is spelled with what it is cut into
    rintro ⟨selector, hparse⟩
    obtain ⟨hblank, haccepts, hscan, -⟩ := parse_eq_ok hparse
    have hsegments := (scan_ok_iff s none [] (split s.toList).2).1 ⟨_, hscan⟩
    refine ⟨(split s.toList).1, (split s.toList).2, ?_, (split_written _).symm,
      hsegments.1, (split_unmarked _).2, by simpa using hsegments.2, hblank⟩
    exact isTagName_of_accepts haccepts fun c hc => hblank c (lead_subset _ c hc)
  · rintro ⟨name, segments, h⟩
    have hblank : s.toList.any Text.isBlank = false := by
      rw [List.any_eq_false]
      intro c hc
      simp [h.noBlank c hc]
    have hname : validateTagName (String.ofList name) = .ok () := by
      simp [validateTagName, acceptsTagName, h.isTagName]
    obtain ⟨found, hfound⟩ := (scan_ok_iff s none [] segments).2 ⟨h.texts, by simpa using h.oneId⟩
    refine ⟨⟨String.ofList name, found.1, found.2⟩, ?_⟩
    unfold parse
    simp [hblank, h.split_eq, hname, hfound, bind, Except.bind, pure, Except.pure]

end Selector

namespace Tag

theorem parse_ok_iff (s : String) :
    (∃ tag, Tag.parse s = .ok tag) ↔ Selector.InGrammar s := by
  rw [← Selector.parse_ok_iff]
  unfold Tag.parse
  cases Selector.parse s <;> simp [Except.map]

/-- The name of a tag is what its selector begins with. -/
theorem name_of_parse {s : String} {tag : Tag String} (h : Tag.parse s = .ok tag) :
    tag.name = String.ofList (Selector.split s.toList).1 := by
  obtain ⟨selector, hparse, rfl⟩ := exists_of_parse_eq_ok h
  exact (Selector.parse_eq_ok hparse).2.2.2

end Tag
end MarkupTree
