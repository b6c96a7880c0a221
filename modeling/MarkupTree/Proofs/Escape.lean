import Mathlib.Tactic.SplitIfs
import MarkupTree.Text.Escape

/-!
# Escape — escaped text holds no markup and can be read back

* `Text.unescapeChars_escapeChars` reads escaped text back.
* `Text.not_mem_escapeChars` says that the characters with a meaning in markup are gone.
-/

namespace MarkupTree
namespace Text

theorem unescapeChars_cons_of_ne {c : Char} (h : c ≠ '&') (cs : List Char) :
    unescapeChars (c :: cs) = c :: unescapeChars cs := by
  rw [unescapeChars.eq_def]
  split <;> simp_all

/-- One escaped character is read back, whatever follows it. -/
theorem unescapeChars_escapeChar (c : Char) (rest : List Char) :
    unescapeChars (escapeChar c ++ rest) = c :: unescapeChars rest := by
  unfold escapeChar
  split
  · next h => subst h; rfl
  · next hamp =>
      split
      · next h => subst h; rfl
      · split
        · next h => subst h; rfl
        · split
          · next h => subst h; rfl
          · split
            · next h => subst h; rfl
            · exact unescapeChars_cons_of_ne hamp rest

theorem unescapeChars_escapeChars (cs : List Char) : unescapeChars (escapeChars cs) = cs := by
  induction cs with
  | nil => rfl
  | cons c rest ih => rw [escapeChars_cons, unescapeChars_escapeChar, ih]

theorem unescape_escape (s : String) : unescape (escape s) = s := by
  unfold unescape
  rw [toList_escape, unescapeChars_escapeChars, String.ofList_toList]

theorem escapeChars_injective {cs ds : List Char} (h : escapeChars cs = escapeChars ds) :
    cs = ds := by
  have hread := congrArg unescapeChars h
  rwa [unescapeChars_escapeChars, unescapeChars_escapeChars] at hread

/-- The characters that escaped text is free of. -/
def isFence (c : Char) : Bool :=
  c = '<' || c = '>' || c = '"' || c = '\''

theorem not_mem_escapeChar {c : Char} (hc : isFence c = true) (d : Char) :
    c ∉ escapeChar d := by
  have hfence : c = '<' ∨ c = '>' ∨ c = '"' ∨ c = '\'' := by
    simpa [isFence, or_assoc] using hc
  by_cases hcd : c = d
  · -- a fence is replaced by its entity
    subst hcd
    rcases hfence with rfl | rfl | rfl | rfl <;> decide
  · -- the entities hold no fence themselves
    intro hmem
    unfold escapeChar at hmem
    rcases hfence with rfl | rfl | rfl | rfl <;> split_ifs at hmem <;> simp_all

/-- No quote and no angle bracket is left in escaped text. -/
theorem not_mem_escapeChars {c : Char} (hc : isFence c = true) (cs : List Char) :
    c ∉ escapeChars cs := by
  intro hmem
  rcases List.mem_flatMap.1 hmem with ⟨d, -, hd⟩
  exact not_mem_escapeChar hc d hd

/-- Digits are written as they are. -/
theorem escapeChars_of_isDigit {cs : List Char} (h : ∀ c ∈ cs, c.isDigit = true) :
    escapeChars cs = cs := by
  induction cs with
  | nil => rfl
  | cons c rest ih =>
      have hc := h c (by simp)
      have hplain : c ≠ '&' ∧ c ≠ '<' ∧ c ≠ '>' ∧ c ≠ '"' ∧ c ≠ '\'' := by
        refine ⟨?_, ?_, ?_, ?_, ?_⟩ <;> rintro rfl <;> revert hc <;> decide
      have hsame : escapeChar c = [c] := by
        simp [escapeChar, hplain]
      rw [escapeChars_cons, hsame, ih fun d hd => h d (List.mem_cons_of_mem _ hd)]
      rfl

end Text
end MarkupTree
