import MarkupTree.Proofs.Escape

/-!
# Entities — which texts are escaped texts

Escaping and reading entities are inverse to each other: on one side stand all texts, on the other
those in which nothing is left to escape. A text is one of these exactly if it holds no quote and no
angle bracket and each of its ampersands starts an entity.

* `Text.IsEscaped` describes the texts in which nothing is left to escape.
* `Text.isEscaped_iff` says that these are the escaped texts and no others.
* `Text.escaping_inverse` puts both directions together.
-/

namespace MarkupTree
namespace Text

/-- What stands for the characters that have a meaning in markup. -/
def entities : List String :=
  ["&amp;", "&lt;", "&gt;", "&quot;", "&#39;"]

/-- No quote and no angle bracket is left, and an ampersand only as the start of an entity. -/
structure IsEscaped (cs : List Char) : Prop where
  fences : ∀ c ∈ ['<', '>', '"', '\''], c ∉ cs
  ampersands : ∀ behind, '&' :: behind <:+ cs →
    ∃ entity ∈ entities, entity.toList <+: '&' :: behind

/-! ## Characters and entities -/

/-- An entity has one ampersand, at its front. -/
theorem exists_tail_of_entity {entity : String} (h : entity ∈ entities) :
    ∃ tail, entity.toList = '&' :: tail ∧ '&' ∉ tail := by
  simp only [entities, List.mem_cons, List.not_mem_nil, or_false] at h
  rcases h with rfl | rfl | rfl | rfl | rfl <;> exact ⟨_, rfl, by decide⟩

/-- Every entity stands for a character. -/
theorem exists_escapeChar_of_entity {entity : String} (h : entity ∈ entities) :
    ∃ c, escapeChar c = entity.toList := by
  simp only [entities, List.mem_cons, List.not_mem_nil, or_false] at h
  rcases h with rfl | rfl | rfl | rfl | rfl
  · exact ⟨'&', rfl⟩
  · exact ⟨'<', rfl⟩
  · exact ⟨'>', rfl⟩
  · exact ⟨'"', rfl⟩
  · exact ⟨'\'', rfl⟩

/-- A character is written as it is, unless it has an entity; the ampersand has one. -/
theorem escapeChar_cases (c : Char) :
    (escapeChar c = [c] ∧ c ≠ '&') ∨ ∃ entity ∈ entities, escapeChar c = entity.toList := by
  unfold escapeChar
  split_ifs with hamp
  · exact Or.inr ⟨"&amp;", by simp [entities], rfl⟩
  · exact Or.inr ⟨"&lt;", by simp [entities], rfl⟩
  · exact Or.inr ⟨"&gt;", by simp [entities], rfl⟩
  · exact Or.inr ⟨"&quot;", by simp [entities], rfl⟩
  · exact Or.inr ⟨"&#39;", by simp [entities], rfl⟩
  · exact Or.inl ⟨rfl, hamp⟩

theorem escapeChar_ne_nil (c : Char) : escapeChar c ≠ [] := by
  rcases escapeChar_cases c with ⟨hplain, -⟩ | ⟨entity, hentity, hwritten⟩
  · simp [hplain]
  · obtain ⟨tail, htail, -⟩ := exists_tail_of_entity hentity
    simp [hwritten, htail]

/-! ## Escaped text -/

theorem suffix_of_not_mem {a : Char} {front behind cs : List Char} (ha : a ∉ front)
    (h : a :: behind <:+ front ++ cs) : a :: behind <:+ cs := by
  induction front with
  | nil => exact h
  | cons c rest ih =>
      rcases List.suffix_cons_iff.1 h with heq | hrest
      · exact absurd (List.cons.inj heq).1 (List.ne_of_not_mem_cons ha)
      · exact ih (List.not_mem_of_not_mem_cons ha) hrest

/-- In escaped text an ampersand starts the entity of some character. -/
theorem exists_entity_of_suffix {cs behind : List Char} (h : '&' :: behind <:+ escapeChars cs) :
    ∃ entity ∈ entities, entity.toList <+: '&' :: behind := by
  induction cs with
  | nil => simp at h
  | cons c rest ih =>
      rw [escapeChars_cons] at h
      rcases escapeChar_cases c with ⟨hplain, hamp⟩ | ⟨entity, hentity, hwritten⟩
      · -- a plain character is no ampersand, so the one in question stands further back
        rw [hplain] at h
        exact ih (suffix_of_not_mem (by simpa using hamp.symm) h)
      · obtain ⟨tail, htail, hnone⟩ := exists_tail_of_entity hentity
        rw [hwritten, htail, List.cons_append] at h
        rcases List.suffix_cons_iff.1 h with heq | hlater
        · -- this is the ampersand of the entity itself
          refine ⟨entity, hentity, escapeChars rest, ?_⟩
          rw [heq, htail, List.cons_append]
        · exact ih (suffix_of_not_mem hnone hlater)

theorem isEscaped_escapeChars (cs : List Char) : IsEscaped (escapeChars cs) where
  fences c hc := by
    apply not_mem_escapeChars
    simp only [List.mem_cons, List.not_mem_nil, or_false] at hc
    rcases hc with rfl | rfl | rfl | rfl <;> rfl
  ampersands _ := exists_entity_of_suffix

namespace IsEscaped

theorem of_suffix {cs ds : List Char} (h : IsEscaped cs) (hsuffix : ds <:+ cs) :
    IsEscaped ds where
  fences c hc hmem := h.fences c hc (hsuffix.subset hmem)
  ampersands behind hbehind := h.ampersands behind (hbehind.trans hsuffix)

/-- At the front of a text in which nothing is left to escape stands an escaped character. -/
theorem exists_front {c : Char} {cs : List Char} (h : IsEscaped (c :: cs)) :
    ∃ d rest, c :: cs = escapeChar d ++ rest := by
  by_cases hamp : c = '&'
  · subst hamp
    obtain ⟨entity, hentity, rest, hrest⟩ := h.ampersands cs List.suffix_rfl
    obtain ⟨d, hd⟩ := exists_escapeChar_of_entity hentity
    exact ⟨d, rest, by rw [hd, hrest]⟩
  · have hne : ∀ d ∈ ['<', '>', '"', '\''], c ≠ d := by
      rintro d hd rfl
      exact h.fences c hd (by simp)
    have hplain : escapeChar c = [c] := by
      simp [escapeChar, hamp, hne '<', hne '>', hne '"', hne '\'']
    exact ⟨c, cs, by rw [hplain, List.singleton_append]⟩

theorem exists_escapeChars {cs : List Char} (h : IsEscaped cs) : ∃ ds, escapeChars ds = cs := by
  -- an entity is several characters long, so the rest is shorter but need not be the tail
  induction hlength : cs.length using Nat.strongRecOn generalizing cs with
  | ind n ih =>
      cases cs with
      | nil => exact ⟨[], rfl⟩
      | cons c rest =>
          obtain ⟨d, behind, hfront⟩ := h.exists_front
          have hsuffix : behind <:+ c :: rest := ⟨escapeChar d, hfront.symm⟩
          have hshorter : behind.length < n := by
            have hfilled := List.length_pos_iff.2 (escapeChar_ne_nil d)
            rw [← hlength, hfront, List.length_append]
            omega
          obtain ⟨ds, hds⟩ := ih _ hshorter (h.of_suffix hsuffix) rfl
          exact ⟨d :: ds, by rw [escapeChars_cons, hds, hfront]⟩

end IsEscaped

/-- The texts in which nothing is left to escape are the escaped texts. -/
theorem isEscaped_iff (cs : List Char) : IsEscaped cs ↔ escapeChars (unescapeChars cs) = cs := by
  constructor
  · intro h
    obtain ⟨ds, rfl⟩ := h.exists_escapeChars
    rw [unescapeChars_escapeChars]
  · intro h
    rw [← h]
    exact isEscaped_escapeChars _

/-- Escaping and reading entities are inverse to each other between all texts and those in which
nothing is left to escape. -/
theorem escaping_inverse :
    (∀ s, unescape (escape s) = s ∧ IsEscaped (escape s).toList) ∧
      ∀ t, IsEscaped t.toList ↔ escape (unescape t) = t := by
  refine ⟨fun s => ⟨unescape_escape s, ?_⟩, fun t => ?_⟩
  · rw [toList_escape]
    exact isEscaped_escapeChars s.toList
  · rw [isEscaped_iff, ← String.toList_inj, toList_escape, unescape, String.toList_ofList]

end Text
end MarkupTree
