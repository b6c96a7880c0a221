import MarkupTree.Proofs.Diagnosis

/-!
# Spelling — selectors written out and read back

A selector can be written with its id in front of the classes, behind them or between any two of
them. Reading takes what was written apart again and forgets only where the id stood, so that a tag
can be printed as a selector and read once more.

* `Selector.textAt` writes a selector with its id at any place among the classes.
* `Selector.parse_eq_ok_iff` says that reading undoes writing and nothing else.
* `Tag.printed` prints what was read, `Tag.parse_printed` compares both directions.
-/

namespace MarkupTree
namespace Selector

/-! ## Written selectors -/

/-- A text that can stand behind a mark: it is not empty, and holds neither a mark nor a blank. -/
def IsWord (w : String) : Prop :=
  w ≠ "" ∧ ∀ c ∈ w.toList, c ≠ '#' ∧ c ≠ '.' ∧ Text.isBlank c = false

instance : DecidablePred IsWord := fun _ => @instDecidableAnd _ _ _ (List.decidableBAll _ _)

/-- A tag name, with words for the id and the classes. -/
structure Valid (s : Selector) : Prop where
  tag : isTagName s.tag.toList = true
  id : ∀ id ∈ s.id, IsWord id
  classes : ∀ name ∈ s.classes, IsWord name

/-- A selector written with its id behind so many classes. -/
def textAt (place : Nat) (s : Selector) : String :=
  s.tag ++ String.join ((s.classes.take place).map ("." ++ ·)) ++
    (s.id.map ("#" ++ ·)).getD "" ++ String.join ((s.classes.drop place).map ("." ++ ·))

theorem text_eq_textAt (s : Selector) : s.text = s.textAt 0 := by
  unfold text textAt
  cases s.id <;> simp

def dotted (words : List String) : List Segment :=
  words.map fun w => ⟨.dot, w.toList⟩

def hashed (id : Option String) : List Segment :=
  id.toList.map fun w => ⟨.hash, w.toList⟩

/-- The segments of a selector that is written with its id behind so many classes. -/
def segmentsAt (place : Nat) (s : Selector) : List Segment :=
  dotted (s.classes.take place) ++ hashed s.id ++ dotted (s.classes.drop place)

theorem toList_join_dots (words : List String) :
    (String.join (words.map ("." ++ ·))).toList = (dotted words).flatMap Segment.written := by
  rw [String.toList_join, dotted, List.flatMap_map, List.flatMap_map]
  refine congrArg (words.flatMap ·) ?_
  funext w
  rw [String.toList_append]
  rfl

/-- What is written is the tag name and then the segments. -/
theorem toList_textAt (place : Nat) (s : Selector) :
    (s.textAt place).toList = s.tag.toList ++ (s.segmentsAt place).flatMap Segment.written := by
  have hid : ((s.id.map ("#" ++ ·)).getD "").toList = (hashed s.id).flatMap Segment.written := by
    cases s.id with
    | none => rfl
    | some id => simp [hashed, Segment.written, Mark.char]
  unfold textAt segmentsAt
  simp only [String.toList_append, toList_join_dots, hid, List.flatMap_append, List.append_assoc]

/-! ## Segments that are read -/

section Scan

variable {text : String} {id : Option String} {classes : List String}

/-- Words behind dots are read as classes. -/
theorem scan_dotted {words : List String} (h : ∀ w ∈ words, w ≠ "") (classes : List String)
    (rest : List Segment) :
    scan text id classes (dotted words ++ rest) = scan text id (classes ++ words) rest := by
  induction words generalizing classes with
  | nil => simp [dotted]
  | cons w words ih =>
      have hw : w ≠ "" := h w (by simp)
      have hwords := ih (fun w' hw' => h w' (List.mem_cons_of_mem _ hw')) (classes ++ [w])
      rw [List.append_assoc, List.singleton_append] at hwords
      rw [← hwords]
      simp [dotted, scan, hw]

/-- One word behind a hash is read as the id. -/
theorem scan_hashed (hid : ∀ w ∈ id, w ≠ "") (classes : List String) (rest : List Segment) :
    scan text none classes (hashed id ++ rest) = scan text id classes rest := by
  cases id with
  | none => rfl
  | some w =>
      have hw : w ≠ "" := hid w rfl
      simp [hashed, scan, hw]

/-- Behind an id only classes are read. -/
theorem eq_dotted_of_scan {w : String} {segments : List Segment}
    {found : Option String × List String}
    (h : scan text (some w) classes segments = .ok found) :
    ∃ words, segments = dotted words ∧ (∀ w ∈ words, w ≠ "") ∧
      found = (some w, classes ++ words) := by
  induction segments generalizing classes with
  | nil =>
      cases h
      exact ⟨[], rfl, by simp, by simp⟩
  | cons segment rest ih =>
      rcases segment with ⟨mark, cs⟩
      unfold scan at h
      cases mark with
      | hash => simp at h
      | dot =>
          by_cases hcs : cs = []
          · simp [hcs] at h
          · simp only [hcs, List.isEmpty_iff, reduceCtorEq, false_and, if_false] at h
            obtain ⟨words, rfl, hwords, rfl⟩ := ih h
            have hword : String.ofList cs ≠ "" := by simpa using hcs
            exact ⟨String.ofList cs :: words, by simp [dotted],
              List.forall_mem_cons.2 ⟨hword, hwords⟩, by simp⟩

/-- Segments that are read are classes with at most one id between them. -/
theorem eq_segments_of_scan {segments : List Segment} {found : Option String × List String}
    (h : scan text none classes segments = .ok found) :
    ∃ before behind, segments = dotted before ++ hashed found.1 ++ dotted behind ∧
      (∀ w ∈ found.1, w ≠ "") ∧ (∀ w ∈ before ++ behind, w ≠ "") ∧
      found.2 = classes ++ (before ++ behind) := by
  induction segments generalizing classes with
  | nil =>
      cases h
      exact ⟨[], [], rfl, by simp, by simp, by simp⟩
  | cons segment rest ih =>
      rcases segment with ⟨mark, cs⟩
      unfold scan at h
      by_cases hcs : cs = []
      · simp [hcs] at h
      · simp only [hcs, List.isEmpty_iff, Option.isSome_none, Bool.false_eq_true, and_false,
          if_false] at h
        have hword : String.ofList cs ≠ "" := by simpa using hcs
        cases mark with
        | hash =>
            -- this is the id, so there are only classes behind it
            obtain ⟨words, rfl, hwords, rfl⟩ := eq_dotted_of_scan h
            exact ⟨[], words, by simp [dotted, hashed], by simpa using hcs, by simpa using hwords,
              by simp⟩
        | dot =>
            obtain ⟨before, behind, rfl, hid, hwords, hfound⟩ := ih h
            exact ⟨String.ofList cs :: before, behind, by simp [dotted], hid,
              List.forall_mem_cons.2 ⟨hword, hwords⟩, by simp [hfound]⟩

end Scan

/-! ## Reading undoes writing -/

theorem isWord_iff {w : String} :
    IsWord w ↔ w ≠ "" ∧ (∀ c ∈ w.toList, Mark.ofChar? c = none) ∧
      ∀ c ∈ w.toList, Text.isBlank c = false := by
  have hmark : ∀ c : Char, Mark.ofChar? c = none ↔ c ≠ '#' ∧ c ≠ '.' := by
    intro c
    unfold Mark.ofChar?
    split
    · next h => simp [h]
    · split
      · next h => simp [h]
      · next hhash hdot => simp [hhash, hdot]
  simp only [IsWord, hmark, ← forall_and, and_assoc]

/-- No character of a tag name is a blank. -/
theorem isBlank_of_isNameChar {c : Char} (h : isNameChar c = true) : Text.isBlank c = false := by
  have hcode : c.toNat = 45 ∨ (48 ≤ c.toNat ∧ c.toNat ≤ 57) ∨ (65 ≤ c.toNat ∧ c.toNat ≤ 90) ∨
      (97 ≤ c.toNat ∧ c.toNat ≤ 122) := by
    unfold isNameChar Char.isAlphanum Char.isAlpha Char.isUpper Char.isLower Char.isDigit at h
    simp only [Bool.or_eq_true, Bool.and_eq_true, decide_eq_true_eq, beq_iff_eq, ge_iff_le,
      UInt32.le_iff_toNat_le] at h
    rcases h with ((h | h) | h) | rfl
    · exact Or.inr (Or.inr (Or.inl h))
    · exact Or.inr (Or.inr (Or.inr h))
    · exact Or.inr (Or.inl h)
    · exact Or.inl rfl
  refine Bool.eq_false_iff.2 fun hblank => ?_
  simp only [Text.isBlank, Text.inRanges, Text.blankRanges, List.any_cons, List.any_nil,
    Bool.or_eq_true, Bool.and_eq_true, decide_eq_true_eq, Bool.false_eq_true, or_false] at hblank
  omega

/-- A written selector is spelled with its tag name and its segments. -/
theorem Valid.spelled {s : Selector} (h : s.Valid) (place : Nat) :
    Spelled (s.textAt place) s.tag.toList (s.segmentsAt place) := by
  have hclass : ∀ w, w ∈ s.classes.take place ∨ w ∈ s.classes.drop place → IsWord w := by
    rintro w (hw | hw)
    · exact h.classes w (List.mem_of_mem_take hw)
    · exact h.classes w (List.mem_of_mem_drop hw)
  have hsegment : ∀ segment ∈ s.segmentsAt place, ∃ w, IsWord w ∧ segment.text = w.toList := by
    intro segment hmem
    simp only [segmentsAt, dotted, hashed, List.mem_append, List.mem_map, Option.mem_toList]
      at hmem
    rcases hmem with (⟨w, hw, rfl⟩ | ⟨w, hw, rfl⟩) | ⟨w, hw, rfl⟩
    · exact ⟨w, hclass w (Or.inl hw), rfl⟩
    · exact ⟨w, h.id w hw, rfl⟩
    · exact ⟨w, hclass w (Or.inr hw), rfl⟩
  refine ⟨h.tag, toList_textAt place s, ?_, ?_, ?_, ?_⟩
  · intro segment hmem hempty
    obtain ⟨w, hw, htext⟩ := hsegment segment hmem
    exact hw.1 (by simpa [htext] using hempty)
  · intro segment hmem
    obtain ⟨w, hw, htext⟩ := hsegment segment hmem
    rw [htext]
    exact (isWord_iff.1 hw).2.1
  · have hdots : ∀ words, (dotted words).countP (·.mark = .hash) = 0 := by
      intro words
      simp [dotted, List.countP_eq_zero]
    cases hid : s.id <;> simp [segmentsAt, hdots, hashed, hid]
  · intro c hc
    rw [toList_textAt] at hc
    rcases List.mem_append.1 hc with hname | hrest
    · exact isBlank_of_isNameChar (isNameChar_of_isTagName h.tag c hname)
    · obtain ⟨segment, hmem, hwritten⟩ := List.mem_flatMap.1 hrest
      obtain ⟨w, hw, htext⟩ := hsegment segment hmem
      rcases List.mem_cons.1 hwritten with rfl | hc
      · cases segment.mark <;> decide
      · exact (isWord_iff.1 hw).2.2 c (htext ▸ hc)

/-- What is read as a selector is exactly what it can be written as. -/
theorem parse_eq_ok_iff (text : String) (s : Selector) :
    Selector.parse text = .ok s ↔ s.Valid ∧ ∃ place, text = s.textAt place := by
  constructor
  · intro h
    obtain ⟨hblank, haccepts, hscan, htag⟩ := parse_eq_ok h
    obtain ⟨before, behind, hsegments, hid, hwords, hclasses⟩ := eq_segments_of_scan hscan
    have hclasses : s.classes = before ++ behind := hclasses.trans (List.nil_append _)
    have hname : s.tag.toList = (split text.toList).1 := by rw [htag, String.toList_ofList]
    -- what stands in a segment stands in the text, and no mark is left there
    have hword : ∀ w, w ≠ "" → (∃ mark, ⟨mark, w.toList⟩ ∈ (split text.toList).2) → IsWord w := by
      rintro w hw ⟨mark, hmem⟩
      refine isWord_iff.2 ⟨hw, (split_unmarked text.toList).2 _ hmem, fun c hc => hblank c ?_⟩
      rw [← split_written text.toList]
      exact List.mem_append_right _ (List.mem_flatMap.2 ⟨_, hmem, List.mem_cons_of_mem _ hc⟩)
    refine ⟨⟨?_, ?_, ?_⟩, before.length, ?_⟩
    · rw [hname]
      exact isTagName_of_accepts haccepts fun c hc => hblank c (lead_subset _ c hc)
    · intro id hmem
      exact hword id (hid id hmem) ⟨.hash, by simp [hsegments, hashed, Option.mem_def.1 hmem]⟩
    · intro name hmem
      rw [hclasses] at hmem
      refine hword name (hwords name hmem) ⟨.dot, ?_⟩
      rw [hsegments, List.append_assoc]
      rcases List.mem_append.1 hmem with hbefore | hbehind
      · exact List.mem_append_left _ (List.mem_map_of_mem hbefore)
      · exact List.mem_append_right _ (List.mem_append_right _ (List.mem_map_of_mem hbehind))
    · apply String.toList_injective
      rw [toList_textAt, hname, segmentsAt, hclasses, List.take_left, List.drop_left, ← hsegments]
      exact (split_written text.toList).symm
  · rintro ⟨hvalid, place, rfl⟩
    have hspelled := hvalid.spelled place
    have hid : ∀ w ∈ s.id, w ≠ "" := fun w hw => (hvalid.id w hw).1
    have hbefore : ∀ w ∈ s.classes.take place, w ≠ "" :=
      fun w hw => (hvalid.classes w (List.mem_of_mem_take hw)).1
    have hbehind : ∀ w ∈ s.classes.drop place, w ≠ "" :=
      fun w hw => (hvalid.classes w (List.mem_of_mem_drop hw)).1
    have hscan : scan (s.textAt place) none [] (s.segmentsAt place) = .ok (s.id, s.classes) := by
      calc scan (s.textAt place) none [] (s.segmentsAt place)
          = scan (s.textAt place) none (s.classes.take place)
              (hashed s.id ++ dotted (s.classes.drop place)) := by
            rw [segmentsAt, List.append_assoc, scan_dotted hbefore, List.nil_append]
        _ = scan (s.textAt place) s.id (s.classes.take place ++ s.classes.drop place) [] := by
            rw [scan_hashed hid, ← List.append_nil (dotted _), scan_dotted hbehind]
        _ = .ok (s.id, s.classes) := by rw [List.take_append_drop, scan]
    rw [parse_of_unbroken hspelled.cut hspelled.noBlank, if_pos hspelled.isTagName, hscan]
    simp [Except.map, String.ofList_toList]

end Selector

/-! ## Printed tags -/

namespace Tag

/-- What a selector says about attributes: an id if it has one, and then its classes joined by
spaces if it has any. -/
theorem attributes_eq (s : Selector) :
    s.attributes = (s.id.toList.map fun id => ("id", id)) ++
      if s.classes = [] then [] else [("class", " ".intercalate s.classes)] := by
  unfold Selector.attributes
  congr 1
  · cases s.id <;> rfl
  · cases s.classes <;> rfl

/-- The classes that the text of a class attribute lists, with spaces between them. -/
def classesOf (text : String) : List String :=
  (text.toList.splitOn ' ').map String.ofList

/-- A tag printed as a selector, its id first and then the classes that its class attribute
lists. -/
def printed (tag : Tag String) : String :=
  Selector.text ⟨tag.name, tag.attributes.get? "id",
    ((tag.attributes.get? "class").map classesOf).getD []⟩

/-- Classes without spaces are found again in their list. -/
theorem classesOf_intercalate {names : List String} (hnames : names ≠ [])
    (h : ∀ name ∈ names, ' ' ∉ name.toList) : classesOf (" ".intercalate names) = names := by
  have hlists : ∀ cs ∈ names.map String.toList, ' ' ∉ cs := by
    intro cs hcs
    obtain ⟨name, hname, rfl⟩ := List.mem_map.1 hcs
    exact h name hname
  unfold classesOf
  rw [String.toList_intercalate, show " ".toList = [' '] from rfl,
    List.splitOn_intercalate ' ' hlists (by simpa using hnames), List.map_map]
  simp [Function.comp_def]

/-- What a selector is read as is printed as the selector with its id in front. -/
theorem printed_toTag {s : Selector} (h : s.Valid) : s.toTag.printed = s.textAt 0 := by
  have hspace : ∀ name ∈ s.classes, ' ' ∉ name.toList := by
    intro name hname hmem
    exact absurd ((h.classes name hname).2 ' ' hmem).2.2 (by decide)
  have hid : Table.get? "id" s.attributes = s.id := by
    rw [attributes_eq]
    cases s.id with
    | none => by_cases hnone : s.classes = [] <;> simp [hnone, Table.get?]
    | some id => simp [Table.get?]
  have hclass : ((Table.get? "class" s.attributes).map classesOf).getD [] = s.classes := by
    rw [attributes_eq]
    by_cases hnone : s.classes = []
    · cases s.id <;> simp [hnone, Table.get?]
    · cases s.id <;> simp [hnone, Table.get?, classesOf_intercalate hnone hspace]
  rw [← Selector.text_eq_textAt]
  unfold printed Selector.toTag
  dsimp only
  rw [hid, hclass]

theorem parse_textAt {s : Selector} (h : s.Valid) (place : Nat) :
    Tag.parse (s.textAt place) = .ok s.toTag := by
  unfold Tag.parse
  rw [(Selector.parse_eq_ok_iff _ s).2 ⟨h, place, rfl⟩]
  rfl

/-- A tag name, an id and classes that are written as a selector, with the id at any place among
the classes, are read as the tag with that id in front of the classes, joined by spaces, and with
nothing else. What is read from any selector can be printed, and is read from that once more. -/
theorem parse_printed :
    (∀ (s : Selector) (place : Nat), s.Valid →
      Tag.parse (s.textAt place) = .ok ⟨s.tag, (s.id.toList.map fun id => ("id", id)) ++
        if s.classes = [] then [] else [("class", " ".intercalate s.classes)]⟩) ∧
      ∀ (text : String) (tag : Tag String), Tag.parse text = .ok tag →
        Tag.parse tag.printed = .ok tag := by
  constructor
  · intro s place hvalid
    rw [parse_textAt hvalid, ← attributes_eq]
    rfl
  · intro text tag hparse
    obtain ⟨s, hread, rfl⟩ := exists_of_parse_eq_ok hparse
    have hvalid := ((Selector.parse_eq_ok_iff text s).1 hread).1
    rw [printed_toTag hvalid, parse_textAt hvalid]

/-- An id between two classes, one of which comes once more behind the id. -/
theorem parse_printed_betweenClasses :
    (⟨"h1", some "é", ["a:b", "ß", "ß"]⟩ : Selector).Valid ∧
      Tag.parse "h1.a:b.ß#é.ß" = .ok ⟨"h1", [("id", "é"), ("class", "a:b ß ß")]⟩ ∧
      Tag.parse "h1#é.a:b.ß.ß" = .ok ⟨"h1", [("id", "é"), ("class", "a:b ß ß")]⟩ := by
  have hvalid : (⟨"h1", some "é", ["a:b", "ß", "ß"]⟩ : Selector).Valid :=
    ⟨by decide, by decide, by decide⟩
  have hread := parse_printed.1 _ 2 hvalid
  exact ⟨hvalid, hread, parse_printed.2 _ _ hread⟩

end Tag
end MarkupTree
