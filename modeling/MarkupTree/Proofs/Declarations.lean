import MarkupTree.Proofs.Positions
import MarkupTree.Proofs.Sources

/-!
# Declarations — a style can be read back

The text of a style mapping is cut at its semicolons, every piece at its first colon, and a hyphen
with a small letter behind it stands for a capital. That gives back the keys of the mapping and the
texts of its values, if no key holds a hyphen, a colon or a semicolon and no text a semicolon.

* `Style.read` reads the declarations of a style.
* `Style.capitals_styleProperty` says that the name of a property tells the key it comes from.
* `Style.read_styleText` reads a whole mapping back.
-/

namespace MarkupTree

variable {C : Type}

namespace Style

/-! ## Reading a style -/

/-- Cuts a text wherever the two characters follow each other, from left to right. -/
def pieces (a b : Char) : List Char → List (List Char)
  | [] => [[]]
  | [c] => [[c]]
  | c :: d :: rest =>
    if c = a ∧ d = b then [] :: pieces a b rest
    else (pieces a b (d :: rest)).modifyHead (c :: ·)

/-- Cuts a text where the two characters follow each other for the first time. -/
def cut? (a b : Char) : List Char → Option (List Char × List Char)
  | c :: d :: rest =>
    if c = a ∧ d = b then some ([], rest)
    else (cut? a b (d :: rest)).map fun parts => (c :: parts.1, parts.2)
  | _ => none

/-- A capital for every hyphen that has a small letter behind it. -/
def capitals : List Char → List Char
  | '-' :: c :: rest =>
    if c.isLower then c.toUpper :: capitals rest else '-' :: capitals (c :: rest)
  | c :: rest => c :: capitals rest
  | [] => []

def readDeclaration (piece : List Char) : Option (String × String) :=
  (cut? ':' ' ' piece).map fun parts =>
    (String.ofList (capitals parts.1), String.ofList parts.2)

/-- The declarations of a style as keys and texts, in order. -/
def read (style : String) : Option (List (String × String)) :=
  (pieces ';' ' ' style.toList).mapM readDeclaration

/-! ## Cutting -/

section Cutting

variable {a b c : Char}

theorem pieces_cons_of_ne (h : c ≠ a) (cs : List Char) :
    pieces a b (c :: cs) = (pieces a b cs).modifyHead (c :: ·) := by
  cases cs with
  | nil => rfl
  | cons d rest => simp [pieces, h]

theorem cut?_cons_of_ne (h : c ≠ a) (cs : List Char) :
    cut? a b (c :: cs) = (cut? a b cs).map fun parts => (c :: parts.1, parts.2) := by
  cases cs with
  | nil => rfl
  | cons d rest => simp [cut?, h]

theorem pieces_of_not_mem {cs : List Char} (h : a ∉ cs) : pieces a b cs = [cs] := by
  induction cs with
  | nil => rfl
  | cons c rest ih =>
      rw [pieces_cons_of_ne (List.ne_of_not_mem_cons h).symm, ih (List.not_mem_of_not_mem_cons h)]
      rfl

theorem pieces_append {piece : List Char} (h : a ∉ piece) (rest : List Char) :
    pieces a b (piece ++ a :: b :: rest) = piece :: pieces a b rest := by
  induction piece with
  | nil => simp [pieces]
  | cons c others ih =>
      rw [List.cons_append, pieces_cons_of_ne (List.ne_of_not_mem_cons h).symm,
        ih (List.not_mem_of_not_mem_cons h)]
      rfl

theorem cut?_append {front : List Char} (h : a ∉ front) (rest : List Char) :
    cut? a b (front ++ a :: b :: rest) = some (front, rest) := by
  induction front with
  | nil => simp [cut?]
  | cons c others ih =>
      rw [List.cons_append, cut?_cons_of_ne (List.ne_of_not_mem_cons h).symm,
        ih (List.not_mem_of_not_mem_cons h)]
      rfl

/-- Texts that are joined by two characters are cut apart again, if the first of these is in none of
them. -/
theorem pieces_intercalate {texts : List (List Char)} (hfilled : texts ≠ [])
    (h : ∀ text ∈ texts, a ∉ text) : pieces a b ([a, b].intercalate texts) = texts := by
  induction texts with
  | nil => exact absurd rfl hfilled
  | cons text others ih =>
      have htext : a ∉ text := h text (by simp)
      cases others with
      | nil => simpa using pieces_of_not_mem htext
      | cons next others =>
          have hothers := ih (by simp) fun other hother => h other (List.mem_cons_of_mem _ hother)
          rw [List.intercalate_cons_cons, List.append_assoc, List.cons_append, List.cons_append,
            List.nil_append, pieces_append htext, hothers]

end Cutting

/-! ## Letters -/

theorem toLower_of_isUpper {c : Char} (h : c.isUpper = true) :
    c.toLower.isLower = true ∧ c.toLower.toUpper = c := by
  have hcapitals : ∀ n < 128, (Char.ofNat n).isUpper = true →
      (Char.ofNat n).toLower.isLower = true ∧ (Char.ofNat n).toLower.toUpper = Char.ofNat n := by
    decide
  have hcode : c.toNat < 128 := by
    unfold Char.isUpper at h
    simp only [decide_eq_true_eq, ge_iff_le, UInt32.le_iff_toNat_le] at h
    exact Nat.lt_of_le_of_lt h.2 (by decide)
  simpa using hcapitals c.toNat hcode (by simpa using h)

theorem toLower_of_not_isUpper {c : Char} (h : c.isUpper = false) : c.toLower = c := by
  unfold Char.isUpper at h
  unfold Char.toLower
  rw [dif_neg (by simpa using h)]

/-- Only a small letter can be the small letter of another character. -/
theorem eq_of_toLower_eq {c d : Char} (h : c.toLower = d) (hd : d.isLower = false) : c = d := by
  cases hupper : c.isUpper with
  | false => rwa [toLower_of_not_isUpper hupper] at h
  | true =>
      rw [← h, (toLower_of_isUpper hupper).1] at hd
      cases hd

theorem lowerFrom_of_ascii (before : List Char) {cs : List Char}
    (h : ∀ c ∈ cs, c.toNat < 0x80) : Text.lowerFrom before cs = cs.map Char.toLower := by
  induction cs generalizing before with
  | nil => rfl
  | cons c rest ih =>
      have hfirst : c.toNat < 0x80 := h c (by simp)
      have hothers := ih (c :: before) fun d hd => h d (List.mem_cons_of_mem _ hd)
      simp [Text.lowerFrom, hfirst, hothers]

/-! ## Properties -/

/-- The key is ASCII, without a hyphen and without the characters that separate declarations. -/
def IsPlainKey (key : List Char) : Prop :=
  ∀ c ∈ key, c.toNat < 0x80 ∧ c ≠ '-' ∧ c ≠ ':' ∧ c ≠ ';'

instance (key : List Char) : Decidable (IsPlainKey key) :=
  List.decidableBAll _ key

theorem mem_hyphenate {c : Char} {cs : List Char} (h : c ∈ hyphenate cs) : c = '-' ∨ c ∈ cs := by
  obtain ⟨d, hd, hc⟩ := List.mem_flatMap.1 h
  split at hc
  · rcases List.mem_cons.1 hc with rfl | hc
    · exact Or.inl rfl
    · exact Or.inr (List.mem_singleton.1 hc ▸ hd)
  · exact Or.inr (List.mem_singleton.1 hc ▸ hd)

theorem capitals_cons_of_ne {c : Char} (h : c ≠ '-') (cs : List Char) :
    capitals (c :: cs) = c :: capitals cs := by
  rw [capitals]
  rintro d rest rfl
  exact absurd rfl h

/-- The hyphens of a property are those in front of the letters that were capitals. -/
theorem capitals_hyphenate {cs : List Char} (h : '-' ∉ cs) :
    capitals ((hyphenate cs).map Char.toLower) = cs := by
  induction cs with
  | nil => rfl
  | cons c rest ih =>
      have hfirst : c ≠ '-' := (List.ne_of_not_mem_cons h).symm
      have hothers := ih (List.not_mem_of_not_mem_cons h)
      cases hupper : c.isUpper with
      | true =>
          obtain ⟨hlower, hback⟩ := toLower_of_isUpper hupper
          have hsplit : (hyphenate (c :: rest)).map Char.toLower =
              '-' :: c.toLower :: (hyphenate rest).map Char.toLower := by
            simp [hyphenate, hupper]
          rw [hsplit, capitals, if_pos hlower, hback, hothers]
      | false =>
          have hsplit : (hyphenate (c :: rest)).map Char.toLower =
              c :: (hyphenate rest).map Char.toLower := by
            simp [hyphenate, hupper, toLower_of_not_isUpper hupper]
          rw [hsplit, capitals_cons_of_ne hfirst, hothers]

section Property

variable {key : Value C}

theorem toList_styleProperty (h : IsPlainKey key.text.toList) :
    (styleProperty key).toList = (hyphenate key.text.toList).map Char.toLower := by
  have hascii : ∀ c ∈ hyphenate key.text.toList, c.toNat < 0x80 := by
    intro c hc
    rcases mem_hyphenate hc with rfl | hc
    · decide
    · exact (h c hc).1
  simp [styleProperty, Text.lower, lowerFrom_of_ascii [] hascii]

/-- The name of a property tells the key that it comes from. -/
theorem capitals_styleProperty (h : IsPlainKey key.text.toList) :
    capitals (styleProperty key).toList = key.text.toList := by
  rw [toList_styleProperty h]
  exact capitals_hyphenate fun hmem => (h '-' hmem).2.1 rfl

/-- No character that separates declarations is in the name of a property. -/
theorem not_mem_styleProperty (h : IsPlainKey key.text.toList) {a : Char} (ha : a = ':' ∨ a = ';') :
    a ∉ (styleProperty key).toList := by
  rw [toList_styleProperty h]
  intro hmem
  obtain ⟨c, hc, hlower⟩ := List.mem_map.1 hmem
  have hsame : c = a := eq_of_toLower_eq hlower (by rcases ha with rfl | rfl <;> decide)
  subst hsame
  rcases mem_hyphenate hc with rfl | hc
  · rcases ha with ha | ha <;> exact absurd ha (by decide)
  · rcases ha with rfl | rfl
    · exact (h ':' hc).2.2.1 rfl
    · exact (h ';' hc).2.2.2 rfl

end Property

/-! ## Declarations -/

section Entry

variable {e : Value C × Value C}

theorem toList_declaration (e : Value C × Value C) :
    (declaration e).toList =
      (styleProperty e.1).toList ++ ':' :: ' ' :: e.2.leafText.toList := by
  simp [declaration]

theorem readDeclaration_declaration (h : IsPlainKey e.1.text.toList) :
    readDeclaration (declaration e).toList = some (e.1.text, e.2.leafText) := by
  unfold readDeclaration
  rw [toList_declaration, cut?_append (not_mem_styleProperty h (Or.inl rfl))]
  simp [capitals_styleProperty h]

theorem not_mem_declaration (hkey : IsPlainKey e.1.text.toList)
    (htext : ';' ∉ e.2.leafText.toList) : ';' ∉ (declaration e).toList := by
  have hproperty := not_mem_styleProperty hkey (Or.inr rfl)
  simp [toList_declaration, hproperty, htext]

end Entry

theorem styleText_of_entries {v : Value C} {es : Entries C} (h : v.entries? = some es) :
    styleText v = "; ".intercalate (es.map declaration) := by
  unfold styleText
  cases v <;> simp_all [Value.entries?, Value.string?]

/-- The text of a style mapping says which texts stand under which keys, in the order of the
mapping; and properties are different if their keys are. -/
theorem read_styleText {v : Value C} {es : Entries C} (hmapping : v.entries? = some es)
    (hfilled : es ≠ [])
    (hkeys : ∀ e ∈ es, ∃ key, e.1.string? = some key ∧ IsPlainKey key.toList)
    (htexts : ∀ e ∈ es, ';' ∉ e.2.leafText.toList) :
    read (styleText v) = some (es.map fun e => (e.1.text, e.2.leafText)) ∧
      ∀ e ∈ es, ∀ e' ∈ es, styleProperty e.1 = styleProperty e'.1 →
        e.1.sameKey e'.1 = true := by
  have hstring : ∀ e ∈ es, e.1.string? = some e.1.text ∧ IsPlainKey e.1.text.toList := by
    intro e he
    obtain ⟨key, hkey, hplain⟩ := hkeys e he
    have htext : e.1.text = key := by
      cases h : e.1 <;> simp_all [Value.string?, Value.text]
    rw [htext]
    exact ⟨hkey, hplain⟩
  constructor
  · have hpieces : pieces ';' ' ' (styleText v).toList =
        es.map fun e => (declaration e).toList := by
      rw [styleText_of_entries hmapping, String.toList_intercalate, List.map_map]
      refine pieces_intercalate (by simpa using hfilled) ?_
      intro text htext
      obtain ⟨e, he, rfl⟩ := List.mem_map.1 htext
      exact not_mem_declaration (hstring e he).2 (htexts e he)
    unfold read
    rw [hpieces, mapM_eq_some_iff, List.map_map, List.map_map]
    refine List.map_congr_left fun e he => ?_
    rw [Function.comp_apply, Function.comp_apply, readDeclaration_declaration (hstring e he).2]
  · intro e he e' he' hproperty
    have hsame : e.1.text = e'.1.text := by
      apply String.toList_injective
      calc
        e.1.text.toList = capitals (styleProperty e.1).toList :=
          (capitals_styleProperty (hstring e he).2).symm
        _ = capitals (styleProperty e'.1).toList := by rw [hproperty]
        _ = e'.1.text.toList := capitals_styleProperty (hstring e' he').2
    have hkey := (hstring e he).1
    rw [hsame] at hkey
    exact (Value.sameKey_of_string? (hstring e' he').1 e.1).2 hkey

/-- A style with an empty key, a capital in front and texts with a colon and a hyphen. -/
def vendorStyle : Entries Empty :=
  [(.str "WebkitTransform", .str "x: -y"), (.str "", .null), (.markupStr "msUp down", .bool true),
    (.str "zIndex", .int (-3))]

theorem read_styleText_vendorStyle :
    styleText (.frozen vendorStyle) =
        "-webkit-transform: x: -y; : null; ms-up down: true; z-index: -3" ∧
      read (styleText (.frozen vendorStyle)) =
        some [("WebkitTransform", "x: -y"), ("", "null"), ("msUp down", "true"),
          ("zIndex", "-3")] := by
  have hkeys : ∀ e ∈ vendorStyle, ∃ key, e.1.string? = some key ∧ IsPlainKey key.toList := by
    simp only [vendorStyle, List.forall_mem_cons]
    exact ⟨⟨_, rfl, by decide⟩, ⟨_, rfl, by decide⟩, ⟨_, rfl, by decide⟩, ⟨_, rfl, by decide⟩,
      by simp⟩
  have htexts : ∀ e ∈ vendorStyle, ';' ∉ e.2.leafText.toList := by
    decide
  exact ⟨by decide +kernel, (read_styleText rfl (by decide) hkeys htexts).1⟩

end Style
end MarkupTree
