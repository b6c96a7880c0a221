/-!
# Text.Half: halves of characters

Some encodings spell a character beyond the first plane by two halves, which have codes of their
own. A half may also stand alone, although it is no character. So that nothing of a text is lost
and nothing is taken for something else, such a half is kept as two characters: a mark, and a
private character that tells which half it is. The mark is a code point that is left free in all
scripts; where it occurs by itself, it is kept as two marks. Every other character is kept as it
is.

- `Text.joined?` is the character of two halves.
- `Text.spell` gives the characters that keep a code, `Text.codes` the codes that are kept.
- `Text.keep` takes in characters as they come from outside.
- `Text.holdsHalf` says whether a text holds a half, so that it cannot be written out.
- `Text.codes_flatMap_spell` and `Text.codes_keep` say that nothing is lost.
-/

namespace MarkupTree
namespace Text

def isHighHalf (n : Nat) : Bool :=
  0xd800 ≤ n && n < 0xdc00

def isLowHalf (n : Nat) : Bool :=
  0xdc00 ≤ n && n < 0xe000

def isHalf (n : Nat) : Bool :=
  isHighHalf n || isLowHalf n

/-- The character that two halves spell. -/
def joined? (high low : Nat) : Option Char :=
  if isHighHalf high && isLowHalf low then
    some (Char.ofNat (0x10000 + 0x400 * (high - 0xd800) + (low - 0xdc00)))
  else none

/-! ## Codes and the characters that keep them -/

/-- What stands in front of the private character for a half. -/
def halfMark : Char := '\uffff'

/-- How far the private character for a half lies behind the code of the half. -/
def privateShift : Nat := 0x100000

/-- The characters that keep a code. -/
def spell (n : Nat) : List Char :=
  if isHalf n then [halfMark, Char.ofNat (privateShift + n)]
  else if Char.ofNat n = halfMark then [halfMark, halfMark]
  else [Char.ofNat n]

/-- The half that a character tells, if it is one of the private characters for these. -/
def half? (c : Char) : Option Nat :=
  if privateShift ≤ c.toNat && isHalf (c.toNat - privateShift) then some (c.toNat - privateShift)
  else none

/-- The codes that characters keep. -/
def codes : List Char → List Nat
  | [] => []
  | [c] => [c.toNat]
  | c :: d :: rest =>
    if c = halfMark then
      match half? d with
      | some n => n :: codes rest
      | none => if d = halfMark then c.toNat :: codes rest else c.toNat :: codes (d :: rest)
    else c.toNat :: codes (d :: rest)

/-- A text from characters as they come from outside, where no half can stand alone. -/
def keep (s : String) : String :=
  String.ofList (s.toList.flatMap fun c => spell c.toNat)

/-- Whether a text holds a half that is alone; such a text cannot be written out. -/
def holdsHalf (s : String) : Bool :=
  (codes s.toList).any isHalf

/-! ## Halves are no characters -/

theorem isHalf_iff {n : Nat} : isHalf n = true ↔ 0xd800 ≤ n ∧ n < 0xe000 := by
  simp only [isHalf, isHighHalf, isLowHalf, Bool.or_eq_true, Bool.and_eq_true, decide_eq_true_eq]
  omega

theorem isHalf_toNat (c : Char) : isHalf c.toNat = false := by
  have hvalid : c.toNat < 0xd800 ∨ 0xdfff < c.toNat ∧ c.toNat < 0x110000 := c.valid
  refine Bool.eq_false_iff.2 fun hin => ?_
  have hrange := isHalf_iff.1 hin
  omega

/-! ## Nothing is lost -/

theorem toNat_ofNat {n : Nat} (hn : n < 0x110000) (h : isHalf n = false) :
    (Char.ofNat n).toNat = n := by
  have hout : ¬ (0xd800 ≤ n ∧ n < 0xe000) := fun hin => by
    rw [isHalf_iff.2 hin] at h
    cases h
  have hvalid : n.isValidChar := by
    show n < 0xd800 ∨ 0xdfff < n ∧ n < 0x110000
    omega
  unfold Char.ofNat
  rw [dif_pos hvalid]
  rfl

/-- The private character for a half tells the half again. -/
theorem half?_ofNat {n : Nat} (h : isHalf n = true) :
    half? (Char.ofNat (privateShift + n)) = some n := by
  have hrange := isHalf_iff.1 h
  have hprivate : isHalf (privateShift + n) = false := Bool.eq_false_iff.2 fun hin => by
    have hlow := (isHalf_iff.1 hin).2
    unfold privateShift at hlow
    omega
  have hcode : (Char.ofNat (privateShift + n)).toNat = privateShift + n :=
    toNat_ofNat (by unfold privateShift; omega) hprivate
  unfold half?
  rw [hcode, Nat.add_sub_cancel_left, h]
  exact if_pos (by simp)

/-- What keeps a code is read as the code again, whatever follows it. -/
theorem codes_spell {n : Nat} (hn : n < 0x110000) (rest : List Char) :
    codes (spell n ++ rest) = n :: codes rest := by
  unfold spell
  cases hhalf : isHalf n with
  | true =>
      show codes (halfMark :: Char.ofNat (privateShift + n) :: rest) = n :: codes rest
      rw [codes, if_pos rfl, half?_ofNat hhalf]
  | false =>
      have hcode := toNat_ofNat hn hhalf
      by_cases hmark : Char.ofNat n = halfMark
      · -- the mark itself comes twice, and is no private character
        rw [if_neg Bool.false_ne_true, if_pos hmark]
        rw [hmark] at hcode
        show codes (halfMark :: halfMark :: rest) = n :: codes rest
        rw [codes, if_pos rfl, show half? halfMark = none by decide, ← hcode]
        exact if_pos rfl
      · rw [if_neg Bool.false_ne_true, if_neg hmark]
        show codes (Char.ofNat n :: rest) = n :: codes rest
        cases rest with
        | nil => exact congrArg (· :: []) hcode
        | cons d rest => rw [codes, if_neg hmark, hcode]

/-- Codes that are kept one by one are all there again. -/
theorem codes_flatMap_spell {ns : List Nat} (h : ∀ n ∈ ns, n < 0x110000) :
    codes (ns.flatMap spell) = ns := by
  induction ns with
  | nil => rfl
  | cons n rest ih =>
      have hrest := ih fun m hm => h m (List.mem_cons_of_mem _ hm)
      rw [List.flatMap_cons, codes_spell (h n List.mem_cons_self), hrest]

/-! ## Texts from outside -/

/-- A text from outside keeps all of its characters, and none of them is taken for a half. -/
theorem codes_keep (s : String) : codes (keep s).toList = s.toList.map Char.toNat := by
  have hcodes : ∀ n ∈ s.toList.map Char.toNat, n < 0x110000 := by
    intro n hn
    obtain ⟨c, -, rfl⟩ := List.mem_map.1 hn
    have hvalid : c.toNat < 0xd800 ∨ 0xdfff < c.toNat ∧ c.toNat < 0x110000 := c.valid
    omega
  calc codes (keep s).toList
      = codes ((s.toList.map Char.toNat).flatMap spell) := by
        unfold keep
        rw [String.toList_ofList, List.flatMap_map]
    _ = s.toList.map Char.toNat := codes_flatMap_spell hcodes

theorem holdsHalf_keep (s : String) : holdsHalf (keep s) = false := by
  unfold holdsHalf
  rw [codes_keep, List.any_map]
  exact List.any_eq_false.2 fun c _ => by simp [isHalf_toNat]

theorem spell_toNat {c : Char} (h : c ≠ halfMark) : spell c.toNat = [c] := by
  unfold spell
  rw [isHalf_toNat, Char.ofNat_toNat, if_neg Bool.false_ne_true, if_neg h]

/-- A text in which no mark occurs is kept as it is. -/
theorem keep_of_not_mem {s : String} (h : halfMark ∉ s.toList) : keep s = s := by
  have hsame : ∀ cs : List Char, halfMark ∉ cs → (cs.flatMap fun c => spell c.toNat) = cs := by
    intro cs
    induction cs with
    | nil => exact fun _ => rfl
    | cons c rest ih =>
        intro hmem
        have hc : c ≠ halfMark := fun heq => hmem (heq ▸ List.mem_cons_self)
        rw [List.flatMap_cons, spell_toNat hc, ih fun hrest => hmem (List.mem_cons_of_mem _ hrest)]
        rfl
  unfold keep
  rw [hsame _ h, String.ofList_toList]

theorem holdsHalf_of_not_mem {s : String} (h : halfMark ∉ s.toList) : holdsHalf s = false := by
  rw [← keep_of_not_mem h]
  exact holdsHalf_keep s

end Text
end MarkupTree
