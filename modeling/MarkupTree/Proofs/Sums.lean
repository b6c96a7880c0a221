import MarkupTree.Proofs.Entities
import MarkupTree.Proofs.Exchange

/-!
# Sums — safe markup joined piece by piece

Strings and safe markup can be joined by additions, as long as each addition has safe markup on one
side. However the additions are nested, the sum is the same: safe pieces as they are and the escaped
text of the strings, one after another. A fragment of the same pieces is written that way as well,
except for strings that stand for markup: the fragment writes them as they are, a sum escapes them.

* `Summed` lists the ways of adding pieces.
* `Summed.safePiece_eq` is the sum of pieces, however they are added.
* `Renderer.html_pieces` is the markup of their fragment.
* `Renderer.sum_compared` says when both are the same.
-/

namespace MarkupTree

variable {C σ : Type}

namespace Value

/-- Strings and safe markup. -/
def isPiece : Value C → Bool
  | .safe _ | .str _ | .markupStr _ => true
  | _ => false

def isSafe : Value C → Bool
  | .safe _ => true
  | _ => false

/-- A piece as it is written in a fragment: the markup that it stands for, or its escaped text. -/
def shown (v : Value C) : String :=
  v.html?.getD v.escaped

theorem exists_of_isSafe {v : Value C} (h : v.isSafe = true) : ∃ content, v = .safe content := by
  cases v with
  | safe html => exact ⟨html, rfl⟩
  | _ => cases h

end Value

/-! ## Ways of adding -/

/-- The value is what becomes of the pieces when they are added, two sums at a time and in their
order, where safe markup stands on at least one side of each addition. -/
inductive Summed : List (Value C) → Value C → Prop
  | piece {v : Value C} : v.isPiece = true → Summed [v] v
  | plus {vs ws : List (Value C)} {a b : Value C} :
    Summed vs a → Summed ws b → a.isSafe = true ∨ b.isSafe = true → Summed (vs ++ ws) (a.sum b)

namespace Summed

variable {pieces : List (Value C)} {v w : Value C}

theorem isPiece_of_mem (h : Summed pieces v) : ∀ p ∈ pieces, p.isPiece = true := by
  induction h with
  | piece hv => simpa using hv
  | plus _ _ _ ihl ihr =>
      intro p hp
      rcases List.mem_append.1 hp with hleft | hright
      · exact ihl p hleft
      · exact ihr p hright

theorem pieces_ne_nil (h : Summed pieces v) : pieces ≠ [] := by
  induction h with
  | piece _ => simp
  | plus _ _ _ ihl _ => simp [ihl]

/-- Either there is one piece and nothing was added, or the sum is safe markup. -/
theorem single_or_safe (h : Summed pieces v) :
    pieces = [v] ∨ 1 < pieces.length ∧ v.isSafe = true := by
  cases h with
  | piece _ => exact Or.inl rfl
  | plus hl hr _ =>
      have hleft := List.length_pos_iff.2 hl.pieces_ne_nil
      have hright := List.length_pos_iff.2 hr.pieces_ne_nil
      refine Or.inr ⟨?_, rfl⟩
      rw [List.length_append]
      omega

/-- As a piece of a larger sum, a sum is its pieces one after another. -/
theorem safePiece_eq (h : Summed pieces v) :
    v.safePiece = String.join (pieces.map Value.safePiece) := by
  induction h with
  | piece _ => simp
  | @plus vs ws a b _ _ _ ihl ihr =>
      calc (a.sum b).safePiece
          = a.safePiece ++ b.safePiece := rfl
        _ = String.join (vs.map Value.safePiece) ++ String.join (ws.map Value.safePiece) := by
              rw [ihl, ihr]
        _ = String.join ((vs ++ ws).map Value.safePiece) := by simp

theorem unique (h : Summed pieces v) (h' : Summed pieces w) : w = v := by
  -- the number of pieces tells whether anything was added, so it was in both or in neither
  rcases h.single_or_safe with hsingle | ⟨hlength, hsafe⟩
  · rcases h'.single_or_safe with hsingle' | ⟨hlength', -⟩
    · rw [hsingle] at hsingle'
      exact (List.singleton_inj.1 hsingle').symm
    · rw [hsingle] at hlength'
      exact absurd hlength' (by simp)
  · rcases h'.single_or_safe with hsingle' | ⟨-, hsafe'⟩
    · rw [hsingle'] at hlength
      exact absurd hlength (by simp)
    · obtain ⟨content, rfl⟩ := Value.exists_of_isSafe hsafe
      obtain ⟨content', rfl⟩ := Value.exists_of_isSafe hsafe'
      have hsame : content' = content := h'.safePiece_eq.trans h.safePiece_eq.symm
      rw [hsame]

end Summed

/-! ## Sums and fragments -/

namespace Text

theorem length_le_escapeChars (cs : List Char) : cs.length ≤ (escapeChars cs).length := by
  induction cs with
  | nil => exact Nat.le_refl 0
  | cons c rest ih =>
      have hfilled := List.length_pos_iff.2 (escapeChar_ne_nil c)
      rw [escapeChars_cons, List.length_append, List.length_cons]
      omega

theorem length_le_escape (s : String) : s.length ≤ (escape s).length := by
  rw [← String.length_toList, ← String.length_toList, toList_escape]
  exact length_le_escapeChars s.toList

end Text

theorem length_join_le {α : Type} {f g : α → String} {as : List α}
    (h : ∀ a ∈ as, (g a).length ≤ (f a).length) :
    (String.join (as.map g)).length ≤ (String.join (as.map f)).length := by
  induction as with
  | nil => simp
  | cons a rest ih =>
      have hfirst := h a (by simp)
      have hrest := ih fun b hb => h b (List.mem_cons_of_mem _ hb)
      simp only [List.map_cons, String.join_cons, String.length_append]
      omega

/-- Where no text gets shorter, the texts side by side are the same only if each of them is. -/
theorem join_eq_join_iff {α : Type} {f g : α → String} {as : List α}
    (h : ∀ a ∈ as, (g a).length ≤ (f a).length) :
    String.join (as.map f) = String.join (as.map g) ↔ ∀ a ∈ as, f a = g a := by
  constructor
  · intro heq
    induction as with
    | nil => simp
    | cons a rest ih =>
        have hlater : ∀ b ∈ rest, (g b).length ≤ (f b).length :=
          fun b hb => h b (List.mem_cons_of_mem _ hb)
        simp only [List.map_cons, String.join_cons] at heq
        have hlength := congrArg String.length heq
        have hfirst := h a (by simp)
        have hrest := length_join_le hlater
        simp only [String.length_append] at hlength
        -- neither the first text nor what follows gets shorter, so both have the same length
        have hsplit := List.append_inj (by simpa using congrArg String.toList heq)
          (by simp only [String.length_toList]; omega)
        intro b hb
        rcases List.mem_cons.1 hb with rfl | hb
        · exact String.toList_inj.1 hsplit.1
        · exact ih hlater (String.toList_inj.1 (by simpa using hsplit.2)) b hb
  · intro hsame
    rw [List.map_congr_left hsame]

namespace Value

theorem length_shown_le {v : Value C} (h : v.isPiece = true) :
    v.shown.length ≤ v.safePiece.length := by
  cases v with
  | safe html => exact Nat.le_refl _
  | str s => exact Nat.le_refl _
  | markupStr s => exact Text.length_le_escape s
  | _ => cases h

theorem safePiece_eq_shown_iff {v : Value C} (h : v.isPiece = true) :
    v.safePiece = v.shown ↔ ∀ s, v = .markupStr s → Text.escape s = s := by
  cases v with
  | safe html => simp [safePiece, shown, html?]
  | str s => simp [safePiece, shown, html?]
  | markupStr s => simp [safePiece, shown, html?, escaped, leafText, text]
  | _ => cases h

end Value

namespace Renderer

open Canvas

theorem write_write (first second : String) :
    (do write first; write second : Attempt (Canvas C σ) C Unit) = write (first ++ second) := by
  funext canvas
  simp [write, Attempt.bind_apply, String.append_assoc]

theorem paint_piece (B : Behaviour C σ) (limit levels : Nat) {v : Value C}
    (h : v.isPiece = true) : paint B limit (levels + 1) v = write v.shown := by
  cases v with
  | safe html =>
      have hshape : (Value.safe html : Value C).shape = .ok (.markup (.safe html) html) := rfl
      exact paint_of_shape B limit levels hshape
  | str s =>
      have hshape : (Value.str s : Value C).shape = .ok (.text (.str s)) := rfl
      exact paint_of_shape B limit levels hshape
  | markupStr s =>
      have hshape : (Value.markupStr s : Value C).shape = .ok (.markup (.markupStr s) s) := rfl
      exact paint_of_shape B limit levels hshape
  | _ => cases h

theorem forM_paint_pieces (B : Behaviour C σ) (limit levels : Nat) {pieces : List (Value C)}
    (h : ∀ p ∈ pieces, p.isPiece = true) :
    pieces.forM (paint B limit (levels + 1)) = write (String.join (pieces.map Value.shown)) := by
  induction pieces with
  | nil => exact write_empty.symm
  | cons p rest ih =>
      have hfirst := paint_piece B limit levels (h p (by simp))
      have hrest := ih fun q hq => h q (List.mem_cons_of_mem _ hq)
      calc (p :: rest).forM (paint B limit (levels + 1))
          = (do write p.shown; write (String.join (rest.map Value.shown))) := by
              rw [← hfirst, ← hrest]
              rfl
        _ = write (p.shown ++ String.join (rest.map Value.shown)) := write_write _ _
        _ = write (String.join ((p :: rest).map Value.shown)) := by simp

/-- A fragment of pieces is written piece by piece. -/
theorem html_pieces (B : Behaviour C σ) (settings : Settings) {pieces : List (Value C)}
    (h : ∀ p ∈ pieces, p.isPiece = true) (press : Press σ) :
    html B settings [.list (.str ":<>" :: pieces)] press =
      (.ok (String.join (pieces.map Value.shown)), press) := by
  -- the pieces stand one level below the fragment, and there always is such a level
  obtain ⟨levels, hlevels⟩ := Nat.exists_eq_add_of_le' settings.one_le_maxDepth
  have hshape : (Value.list (.str ":<>" :: pieces)).shape = .ok (.fragment pieces) := rfl
  have hfragment : paint B settings.maxDepth (settings.maxDepth + 1)
      (.list (.str ":<>" :: pieces)) = write (String.join (pieces.map Value.shown)) := by
    rw [paint_of_shape B settings.maxDepth settings.maxDepth hshape]
    show pieces.forM (paint B settings.maxDepth settings.maxDepth) = _
    rw [hlevels]
    exact forM_paint_pieces B _ levels h
  unfold html paintAll root
  rw [hfragment, Attempt.bind_apply]
  simp [write, Except.map]

/-- However pieces are added, with at least one addition or with a single safe piece, the sum is
safe markup and always the same: the safe pieces as they are and the strings escaped once, side by
side. The fragment of the pieces shows the same, exactly if escaping changes none of the strings
that stand for markup. -/
theorem sum_compared (B : Behaviour C σ) (settings : Settings) {pieces : List (Value C)}
    {v : Value C} (h : Summed pieces v) (hadded : 1 < pieces.length ∨ v.isSafe = true)
    (press : Press σ) :
    ∃ content, v = .safe content ∧
      content = String.join (pieces.map Value.safePiece) ∧
      (∀ w, Summed pieces w → w = v) ∧
      html B settings [.list (.str ":<>" :: pieces)] press =
        (.ok (String.join (pieces.map Value.shown)), press) ∧
      (html B settings [.list (.str ":<>" :: pieces)] press = (.ok content, press) ↔
        ∀ s, .markupStr s ∈ pieces → Text.escape s = s) := by
  have hsafe : v.isSafe = true := by
    rcases h.single_or_safe with hsingle | ⟨-, hsafe⟩
    · rcases hadded with hlength | hsafe
      · rw [hsingle] at hlength
        exact absurd hlength (by simp)
      · exact hsafe
    · exact hsafe
  obtain ⟨content, rfl⟩ := Value.exists_of_isSafe hsafe
  have hcontent : content = String.join (pieces.map Value.safePiece) := h.safePiece_eq
  have hpieces := h.isPiece_of_mem
  have hhtml := html_pieces B settings hpieces press
  refine ⟨content, rfl, hcontent, fun w hw => h.unique hw, hhtml, ?_⟩
  have hsame := join_eq_join_iff (f := Value.safePiece) (g := Value.shown)
    fun p hp => Value.length_shown_le (hpieces p hp)
  constructor
  · -- no piece gets shorter by being added, so equal texts are equal piece by piece
    intro heq s hs
    have hshown := Except.ok.inj (Prod.mk.inj (hhtml.symm.trans heq)).1
    have heach := hsame.1 (hcontent.symm.trans hshown.symm)
    exact (Value.safePiece_eq_shown_iff (hpieces _ hs)).1 (heach _ hs) s rfl
  · intro hstrings
    have heach : ∀ p ∈ pieces, p.safePiece = p.shown := fun p hp =>
      (Value.safePiece_eq_shown_iff (hpieces p hp)).2 fun s hs => hstrings s (hs ▸ hp)
    rw [hhtml, hcontent, hsame.2 heach]

/-- A string, safe markup, and a string that stands for markup without special characters. -/
def mixedPieces : List (Value Nat) :=
  [.str "a<", .safe "<b>", .markupStr "x"]

theorem sum_compared_mixedPieces :
    ∃ v, Summed mixedPieces v ∧ 1 < mixedPieces.length ∧ v = .safe "a&lt;<b>x" ∧
      html .echo .standard [.list (.str ":<>" :: mixedPieces)] (.start 10 () : Press Unit) =
        (.ok "a&lt;<b>x", .start 10 ()) := by
  have hsummed : Summed mixedPieces
      (.sum (.str "a<") (.sum (.safe "<b>") (.markupStr "x"))) :=
    .plus (.piece rfl) (.plus (.piece rfl) (.piece rfl) (Or.inl rfl)) (Or.inr rfl)
  have hlength : 1 < mixedPieces.length := by decide
  obtain ⟨content, hsum, hcontent, -, -, hhtml⟩ :=
    sum_compared .echo .standard hsummed (Or.inl hlength) (.start 10 () : Press Unit)
  have hjoined : String.join (mixedPieces.map Value.safePiece) = "a&lt;<b>x" := by
    decide +kernel
  rw [hjoined] at hcontent
  subst hcontent
  refine ⟨_, hsummed, hlength, hsum, hhtml.2 ?_⟩
  intro s hs
  obtain rfl : s = "x" := by simpa [mixedPieces] using hs
  decide +kernel

/-- A string that stands for markup is escaped in a sum and written as it is in a fragment. -/
theorem sum_escapes_markup :
    Summed [.safe "", .markupStr "<b>"] (.safe "&lt;b&gt;" : Value Nat) ∧
      (html .echo .standard [.list [.str ":<>", .safe "", .markupStr "<b>"]]
        (.start 10 () : Press Unit)).1.toOption = some "<b>" := by
  refine ⟨?_, by decide +kernel⟩
  have hsum : Value.sum (.safe "") (.markupStr "<b>") = (.safe "&lt;b&gt;" : Value Nat) :=
    congrArg Value.safe (by decide +kernel)
  show Summed ([.safe ""] ++ [.markupStr "<b>"]) _
  rw [← hsum]
  exact .plus (.piece rfl) (.piece rfl) (Or.inl rfl)

end Renderer
end MarkupTree
