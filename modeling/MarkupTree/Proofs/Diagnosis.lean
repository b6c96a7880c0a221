import MarkupTree.Proofs.Grammar

/-!
# Diagnosis — which fault a text has that is no selector

Every text can be cut in one way into a name and marked segments. A text that is refused has one
fault of several that it may hold: a blank anywhere counts before the name, the name before the
segments, and of the segments the first one that does not fit.

* `Selector.FirstOffence` is the first segment from the left that does not fit, with its fault.
* `Tag.parse_diagnosis` tells the fault of every text, and which texts have none.
-/

namespace MarkupTree
namespace Selector

/-! ## Segments that do not fit -/

/-- The segment is a second id, whether it is empty or not. -/
def RepeatsId (before : List Segment) (segment : Segment) : Prop :=
  segment.mark = .hash ∧ ∃ other ∈ before, other.mark = .hash

/-- Why a segment does not fit behind others. -/
inductive Offence (s : String) (before : List Segment) (segment : Segment) : SelectorFault → Prop
  | secondId : RepeatsId before segment → Offence s before segment (.secondId s)
  | empty : ¬ RepeatsId before segment → segment.text = [] →
      Offence s before segment (.emptySegment s)

/-- Of segments that follow others, the first from the left that does not fit has this fault. -/
def FirstOffence (s : String) (seen segments : List Segment) (fault : SelectorFault) : Prop :=
  ∃ before segment after, segments = before ++ segment :: after ∧
    Offence s (seen ++ before) segment fault ∧
    ∀ earlier other later, before = earlier ++ other :: later →
      ∀ fault', ¬ Offence s (seen ++ earlier) other fault'

section Scan

variable {s : String} {seen : List Segment} {segment : Segment}

/-- A segment has one fault at most. -/
theorem Offence.unique {fault fault' : SelectorFault} (h : Offence s seen segment fault)
    (h' : Offence s seen segment fault') : fault' = fault := by
  cases h with
  | secondId hrepeats =>
      cases h' with
      | secondId => rfl
      | empty hnot => exact absurd hrepeats hnot
  | empty hnot =>
      cases h' with
      | secondId hrepeats => exact absurd hrepeats hnot
      | empty => rfl

/-- No segment is left in which a fault could be. -/
theorem not_firstOffence_nil (fault : SelectorFault) : ¬ FirstOffence s seen [] fault := by
  rintro ⟨before, segment, after, hcut, -⟩
  exact absurd hcut (by simp)

/-- A first segment that does not fit has the fault of all segments. -/
theorem firstOffence_cons_of_offence {found : SelectorFault} (h : Offence s seen segment found)
    (rest : List Segment) (fault : SelectorFault) :
    FirstOffence s seen (segment :: rest) fault ↔ fault = found := by
  constructor
  · rintro ⟨before, other, after, hcut, hoffence, hfirst⟩
    rcases List.cons_eq_append_iff.1 hcut with ⟨rfl, heq⟩ | ⟨later, rfl, -⟩
    · cases heq
      rw [List.append_nil] at hoffence
      exact h.unique hoffence
    · -- nothing before the offence offends, but the first segment does
      have hnot := hfirst [] segment later rfl found
      rw [List.append_nil] at hnot
      exact absurd h hnot
  · rintro rfl
    refine ⟨[], segment, rest, rfl, ?_, ?_⟩
    · rwa [List.append_nil]
    · intro earlier other later hnil
      exact absurd hnil (by simp)

/-- Behind a first segment that fits, the fault is one of the others. -/
theorem firstOffence_cons_of_fits (h : ∀ fault, ¬ Offence s seen segment fault)
    (rest : List Segment) (fault : SelectorFault) :
    FirstOffence s seen (segment :: rest) fault ↔
      FirstOffence s (seen ++ [segment]) rest fault := by
  constructor
  · rintro ⟨before, other, after, hcut, hoffence, hfirst⟩
    rcases List.cons_eq_append_iff.1 hcut with ⟨rfl, heq⟩ | ⟨later, rfl, hrest⟩
    · cases heq
      rw [List.append_nil] at hoffence
      exact absurd hoffence (h fault)
    · refine ⟨later, other, after, hrest, by simpa using hoffence, ?_⟩
      intro earlier other' later' hlater fault'
      simpa using hfirst (segment :: earlier) other' later' (by simp [hlater]) fault'
  · rintro ⟨before, other, after, rfl, hoffence, hfirst⟩
    refine ⟨segment :: before, other, after, rfl, by simpa using hoffence, ?_⟩
    intro earlier other' later hcut fault'
    rcases List.cons_eq_append_iff.1 hcut with ⟨rfl, heq⟩ | ⟨more, rfl, hbefore⟩
    · cases heq
      rw [List.append_nil]
      exact h fault'
    · simpa using hfirst more other' later hbefore fault'

/-! ## Reading segments -/

/-- The id that was found tells whether there is one among the segments that were read. -/
def Tracks (seen : List Segment) (id : Option String) : Prop :=
  id.isSome = true ↔ ∃ other ∈ seen, other.mark = .hash

/-- A segment is refused for its fault, or it is read and the others come next. -/
theorem scan_cons {id : Option String} (h : Tracks seen id) (classes : List String)
    (segment : Segment) (rest : List Segment) :
    (∃ fault, Offence s seen segment fault ∧
        scan s id classes (segment :: rest) = .error fault) ∨
      (∀ fault, ¬ Offence s seen segment fault) ∧
        ∃ id' classes', Tracks (seen ++ [segment]) id' ∧
          scan s id classes (segment :: rest) = scan s id' classes' rest := by
  have hrepeats : (segment.mark = .hash ∧ id.isSome = true) ↔ RepeatsId seen segment :=
    and_congr_right fun _ => h
  rw [scan]
  by_cases hsecond : RepeatsId seen segment
  · exact Or.inl ⟨_, .secondId hsecond, if_pos (hrepeats.2 hsecond)⟩
  · rw [if_neg (mt hrepeats.1 hsecond)]
    by_cases htext : segment.text = []
    · exact Or.inl ⟨_, .empty hsecond htext, if_pos (by simp [htext])⟩
    · rw [if_neg (by simpa using htext)]
      refine Or.inr ⟨?_, ?_⟩
      · intro fault hoffence
        cases hoffence with
        | secondId hrepeats => exact hsecond hrepeats
        | empty _ hempty => exact htext hempty
      · cases hmark : segment.mark with
        | hash => exact ⟨_, _, by simp [Tracks, hmark], rfl⟩
        | dot =>
            refine ⟨id, _, ?_, rfl⟩
            simpa [Tracks, or_and_right, exists_or, hmark] using h

/-- Segments are refused for the first one that does not fit. -/
theorem scan_eq_error_iff {id : Option String} (h : Tracks seen id) (classes : List String)
    (segments : List Segment) (fault : SelectorFault) :
    scan s id classes segments = .error fault ↔ FirstOffence s seen segments fault := by
  -- on the segments; what was seen grows by the one that is read
  induction segments generalizing seen id classes with
  | nil => exact iff_of_false (fun hscan => by cases hscan) (not_firstOffence_nil fault)
  | cons segment rest ih =>
      rcases scan_cons h classes segment rest with
        ⟨found, hoffence, hscan⟩ | ⟨hfits, id', classes', htracks, hscan⟩
      · rw [hscan, firstOffence_cons_of_offence hoffence]
        exact ⟨fun heq => (Except.error.inj heq).symm, fun heq => heq ▸ rfl⟩
      · rw [hscan, firstOffence_cons_of_fits hfits]
        exact ih htracks classes'

end Scan

/-! ## Reading texts -/

/-- No character of the text is blank. -/
def Unbroken (s : String) : Prop :=
  ∀ c ∈ s.toList, Text.isBlank c = false

theorem not_unbroken_iff {s : String} :
    ¬ Unbroken s ↔ ∃ c ∈ s.toList, Text.isBlank c = true := by
  simp [Unbroken]

section Parse

variable {s : String} {name : List Char} {segments : List Segment}

theorem parse_of_blank (h : ¬ Unbroken s) : parse s = .error (.blank s) := by
  unfold parse
  rw [if_pos (List.any_eq_true.2 (not_unbroken_iff.1 h))]

/-- Without a blank, what is in front must be a tag name, and then the segments are read. -/
theorem parse_of_unbroken (hcut : Cut s name segments) (h : Unbroken s) :
    parse s =
      if isTagName name = true then
        (scan s none [] segments).map fun found => ⟨String.ofList name, found.1, found.2⟩
      else .error (.badName (String.ofList name)) := by
  have hblank : s.toList.any Text.isBlank = false := by
    rw [List.any_eq_false]
    intro c hc
    simp [h c hc]
  -- the line feed that a name may end with would be a blank
  have hname : ∀ c ∈ name, Text.isBlank c = false := by
    intro c hc
    refine h c ?_
    rw [hcut.written]
    exact List.mem_append_left _ hc
  have haccepts : acceptsTagName name = true ↔ isTagName name = true :=
    ⟨fun haccepts => isTagName_of_accepts haccepts hname, fun his => by simp [acceptsTagName, his]⟩
  unfold parse validateTagName
  rw [if_neg (by simp [hblank]), hcut.split_eq]
  dsimp only
  rw [String.toList_ofList]
  by_cases his : isTagName name = true
  · rw [if_pos (haccepts.2 his), if_pos his]
    cases scan s none [] segments <;> rfl
  · rw [if_neg (mt haccepts.1 his), if_neg his]
    rfl

end Parse

end Selector

namespace Tag

theorem parse_eq_error_iff (s : String) (fault : SelectorFault) :
    Tag.parse s = .error fault ↔ Selector.parse s = .error fault := by
  unfold Tag.parse
  cases Selector.parse s <;> simp [Except.map]

open Selector in
/-- Every text is cut in one way into a name and segments. It is refused for a blank exactly if
there is one; otherwise for its name exactly if that is no tag name; otherwise for the first
segment that is a second id or else is empty. It is read exactly if there is none of these. -/
theorem parse_diagnosis (s : String) :
    ∃ name segments, Cut s name segments ∧
      (∀ name' segments', Cut s name' segments' → name' = name ∧ segments' = segments) ∧
      (Tag.parse s = .error (.blank s) ↔ ∃ c ∈ s.toList, Text.isBlank c = true) ∧
      (Tag.parse s = .error (.badName (String.ofList name)) ↔
        Unbroken s ∧ isTagName name = false) ∧
      (Tag.parse s = .error (.secondId s) ↔
        Unbroken s ∧ isTagName name = true ∧ FirstOffence s [] segments (.secondId s)) ∧
      (Tag.parse s = .error (.emptySegment s) ↔
        Unbroken s ∧ isTagName name = true ∧ FirstOffence s [] segments (.emptySegment s)) ∧
      ((∃ tag, Tag.parse s = .ok tag) ↔
        Unbroken s ∧ isTagName name = true ∧ ∀ fault, ¬ FirstOffence s [] segments fault) := by
  have hcut := cut_split s
  refine ⟨_, _, hcut, ?_, ?_⟩
  · intro name' segments' hcut'
    exact Prod.mk.inj (hcut'.split_eq.symm.trans hcut.split_eq)
  have hscan : ∀ fault, scan s none [] (split s.toList).2 = .error fault ↔
      FirstOffence s [] (split s.toList).2 fault :=
    scan_eq_error_iff (by simp [Tracks]) [] (split s.toList).2
  generalize (split s.toList).1 = name at hcut
  generalize (split s.toList).2 = segments at hcut hscan
  simp only [parse_eq_error_iff, ← not_unbroken_iff]
  unfold Tag.parse
  by_cases hblank : Unbroken s
  · rw [parse_of_unbroken hcut hblank]
    by_cases hname : isTagName name = true
    · simp only [← hscan, hblank, hname]
      cases hread : scan s none [] segments with
      | ok found => simp [Except.map]
      | error fault =>
          -- the fault is one of a segment, so it is neither a blank nor the name
          obtain ⟨before, segment, after, -, hoffence, -⟩ := (hscan fault).1 hread
          cases hoffence <;> simp [Except.map]
    · simp [hname, hblank, Except.map]
  · simp [parse_of_blank hblank, hblank, Except.map]

end Tag
end MarkupTree
