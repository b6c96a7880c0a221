import MarkupTree.EventRoute

/-!
# Bodies — what a body says that holds one number

A body is read as text, then as a value, and its details are taken out of it. In a body that is
written without blanks all of this can be followed from the outside to the inside: first the bytes,
then one mapping in the other, then the digits of the number.

* `Text.decode?_bytes` reads a text from its bytes.
* `Json.IsNumeral` says which digits are a number, `Json.value_numeral` reads them.
* `Json.value_single` reads a mapping with one entry.
* `EventRoute.stepBody` is a body that says a step, `EventRoute.payload_stepBody` its details.
-/

namespace MarkupTree

/-! ## Bytes -/

namespace Text

theorem data_toUTF8 (s : String) :
    s.toUTF8.data.toList = s.toList.flatMap String.utf8EncodeChar := by
  rw [String.toUTF8_eq_toByteArray, ← String.utf8Encode_toList]
  unfold List.utf8Encode
  exact List.toList_data_toByteArray

/-- The bytes of a text without a zero in front are taken for single bytes. -/
theorem detect_bytes {a b : UInt8} (ha : a ≠ 0) (hb : b ≠ 0) (rest : List UInt8) :
    Encoding.detect (a :: b :: rest) = .utf8 := by
  -- how many bytes there are decides which of them are looked at
  match rest with
  | [] => simp [Encoding.detect, ha, hb]
  | [c] => rfl
  | c :: d :: rest => simp [Encoding.detect, ha, hb]

/-- A text is read from its bytes if it starts with two characters that take one byte each. -/
theorem decode?_bytes {s : String} {a b : Char} {rest : List Char} (hs : s.toList = a :: b :: rest)
    {x y : UInt8} (ha : String.utf8EncodeChar a = [x]) (hb : String.utf8EncodeChar b = [y])
    (hx : x ≠ 0) (hy : y ≠ 0) (hmark : halfMark ∉ s.toList) :
    decode? s.toUTF8.data.toList = some s.toList := by
  have hbytes : s.toUTF8.data.toList = x :: y :: rest.flatMap String.utf8EncodeChar := by
    rw [data_toUTF8, hs, List.flatMap_cons, List.flatMap_cons, ha, hb]
    rfl
  have hdetect : Encoding.detect s.toUTF8.data.toList = .utf8 := by
    rw [hbytes]
    exact detect_bytes hx hy _
  have hback : String.fromUTF8? ⟨s.toUTF8.data.toList.toArray⟩ = some s := by
    rw [Array.toArray_toList]
    exact dif_pos s.isValidUTF8
  -- the order mark takes three bytes, so it is not what the text starts with
  have horder : a ≠ '\ufeff' := by
    rintro rfl
    have hlength : (String.utf8EncodeChar '\ufeff').length = 1 := congrArg List.length ha
    exact absurd hlength (by decide)
  unfold decode?
  rw [hdetect]
  dsimp only
  rw [hback, Option.map_some, keep_of_not_mem hmark, hs]
  unfold dropMark
  split
  · next heq => exact absurd (List.cons.inj heq).1 horder
  · rfl

end Text

namespace Json

variable {C : Type}

/-! ## Numbers -/

/-- Digits that are a number: at least one, and no other one behind a zero. -/
structure IsNumeral (first : Char) (more : List Char) : Prop where
  digits : ∀ c ∈ first :: more, c.isDigit = true
  lead : first = '0' → more = []

theorem whole?_numeral {first : Char} {more : List Char} (h : IsNumeral first more)
    (rest : List Char) :
    whole? (first :: more ++ '\x7d' :: rest) = some (first :: more, '\x7d' :: rest) := by
  by_cases hzero : first = '0'
  · -- a zero is read alone, and nothing else follows it here
    rw [hzero, h.lead hzero]
    rfl
  · have hdigits : ∀ c ∈ first :: more, Char.isDigit c = true := h.digits
    have htaken : (first :: more ++ '\x7d' :: rest).takeWhile Char.isDigit = first :: more := by
      rw [List.takeWhile_append_of_pos hdigits]
      exact List.append_nil _
    have hleft : (first :: more ++ '\x7d' :: rest).dropWhile Char.isDigit = '\x7d' :: rest := by
      rw [List.dropWhile_append_of_pos hdigits]
      rfl
    rw [List.cons_append] at htaken hleft ⊢
    unfold whole?
    split
    · next heq => exact absurd (List.cons.inj heq).1 hzero
    · rw [htaken, hleft]
      rfl

theorem exponent_brace (rest : List Char) :
    exponent ('\x7d' :: rest) = (none, '\x7d' :: rest) := by
  unfold exponent
  exact if_neg fun h => absurd h.1 (by decide)

/-- A number that is not too long is read up to the bracket behind it. -/
theorem unsigned_numeral {first : Char} {more : List Char} (h : IsNumeral first more)
    (hshort : more.length < Decimal.longest) (rest : List Char) :
    (unsigned false (first :: more ++ '\x7d' :: rest) : Except JsonFault (Value C × List Char)) =
      .ok (.int (Decimal.digitsValue 0 (first :: more)), '\x7d' :: rest) := by
  have hlength : ¬ Decimal.longest < (first :: more).length := by
    rw [List.length_cons]
    omega
  -- neither places nor an exponent start with a bracket, so the number is whole
  have hplaces : places ('\x7d' :: rest) = ([], '\x7d' :: rest) := rfl
  unfold unsigned
  rw [whole?_numeral h]
  simp only [expect, bind, Except.bind, hplaces, exponent_brace, List.append_nil]
  rw [if_neg (by simp), if_neg hlength]
  rfl

theorem ne_of_isDigit {c d : Char} (hc : c.isDigit = true) (hd : d.isDigit = false) : c ≠ d := by
  rintro rfl
  rw [hc] at hd
  cases hd

/-- None of the words starts with a digit. -/
theorem scalar_of_isDigit {c : Char} (h : c.isDigit = true) (cs : List Char) :
    (scalar (c :: cs) : Except JsonFault (Value C × List Char)) = unsigned false (c :: cs) := by
  have hword : ∀ (word : String) (d : Char) (more : List Char), word.toList = d :: more →
      d.isDigit = false → word? word (c :: cs) = none := by
    intro word d more hmore hd
    unfold word?
    rw [hmore, List.isPrefixOf, beq_false_of_ne (ne_of_isDigit h hd).symm]
    rfl
  have hnone : (words.findSome? fun w => (word? w.1 (c :: cs)).map (w.2, ·)) =
      (none : Option (Value C × List Char)) := by
    rw [List.findSome?_eq_none_iff]
    intro w hw
    rw [Option.map_eq_none_iff]
    simp only [words, List.mem_cons, List.not_mem_nil, or_false] at hw
    rcases hw with rfl | rfl | rfl | rfl | rfl
    · exact hword "null" _ _ rfl (by decide)
    · exact hword "true" _ _ rfl (by decide)
    · exact hword "false" _ _ rfl (by decide)
    · exact hword "NaN" _ _ rfl (by decide)
    · exact hword "Infinity" _ _ rfl (by decide)
  unfold scalar
  rw [hnone]
  dsimp only
  unfold number
  split
  · next heq => exact absurd (List.cons.inj heq).1 (ne_of_isDigit h (by decide))
  · rfl

/-- A number is read as a value, as it starts like no text, list or mapping. -/
theorem value_numeral {first : Char} {more : List Char} (h : IsNumeral first more)
    (hshort : more.length < Decimal.longest) (fuel levels : Nat) (rest : List Char) :
    (value (fuel + 1) levels (first :: more ++ '\x7d' :: rest) :
        Except JsonFault (Value C × List Char)) =
      .ok (.int (Decimal.digitsValue 0 (first :: more)), '\x7d' :: rest) := by
  have hdigit : first.isDigit = true := h.digits first (by simp)
  have hnumber := unsigned_numeral (C := C) h hshort rest
  rw [List.cons_append] at hnumber ⊢
  unfold value
  split
  · next heq => exact absurd (List.cons.inj heq).1 (ne_of_isDigit hdigit (by decide))
  · next heq => exact absurd (List.cons.inj heq).1 (ne_of_isDigit hdigit (by decide))
  · next heq => exact absurd (List.cons.inj heq).1 (ne_of_isDigit hdigit (by decide))
  · rw [scalar_of_isDigit hdigit, hnumber]

/-! ## Mappings -/

/-- A name that may stand between quotes as it is. -/
def IsPlain (name : List Char) : Prop :=
  ∀ c ∈ name, c ≠ '"' ∧ c ≠ '\\' ∧ 0x20 ≤ c.toNat

instance (name : List Char) : Decidable (IsPlain name) :=
  List.decidableBAll _ name

theorem pieces?_plain {name : List Char} (h : IsPlain name) (rest : List Char) :
    pieces? (name ++ '"' :: rest) = some (name.map Piece.char, rest) := by
  induction name with
  | nil => rfl
  | cons c more ih =>
      -- the character ends nothing and escapes nothing, so it is a piece by itself
      obtain ⟨hquote, hback, hcontrol⟩ := h c (by simp)
      have hmore := ih fun d hd => h d (List.mem_cons_of_mem _ hd)
      rw [List.cons_append, pieces?.eq_def]
      split
      · next heq => cases heq
      · next heq => exact absurd (List.cons.inj heq).1 hquote
      · next heq => exact absurd (List.cons.inj heq).1 hback
      · next heq => exact absurd (List.cons.inj heq).1 hback
      · next heq =>
          obtain ⟨rfl, rfl⟩ := List.cons.inj heq
          rw [if_neg (Nat.not_lt.2 hcontrol), hmore]
          rfl

theorem string?_plain {name : String} (h : IsPlain name.toList) (rest : List Char) :
    string? (name.toList ++ '"' :: rest) = some (name, rest) := by
  have hspell : ∀ cs : List Char, Piece.spell (cs.map Piece.char) = cs := by
    intro cs
    induction cs with
    | nil => rfl
    | cons c rest ih => rw [List.map_cons, Piece.spell, ih]
  unfold string?
  rw [pieces?_plain h, Option.map_some, hspell, String.ofList_toList]

/-- How a mapping with one entry is written without blanks, up to the value of the entry. -/
def opening (name : String) (cs : List Char) : List Char :=
  '\x7b' :: '"' :: (name.toList ++ '"' :: ':' :: cs)

theorem skip_cons {c : Char} (h : isSpace c = false) (cs : List Char) : skip (c :: cs) = c :: cs :=
  List.dropWhile_cons_of_neg (by rw [h]; exact Bool.false_ne_true)

theorem isSpace_of_isDigit {c : Char} (h : c.isDigit = true) : isSpace c = false := by
  unfold isSpace
  rw [decide_eq_false (ne_of_isDigit h (by decide)), decide_eq_false (ne_of_isDigit h (by decide)),
    decide_eq_false (ne_of_isDigit h (by decide)), decide_eq_false (ne_of_isDigit h (by decide))]
  rfl

/-- A mapping with one entry is read if the value of the entry is. -/
theorem value_single {fuel levels : Nat} {name : String} {cs rest : List Char} {v : Value C}
    (hname : IsPlain name.toList) (hcs : skip cs = cs)
    (h : value fuel levels cs = .ok (v, '\x7d' :: rest)) :
    value (fuel + 2) (levels + 1) (opening name cs) = .ok (.mapping [(.str name, v)], rest) := by
  -- the name, the colon, the value and the bracket behind it, with one level of fuel
  have hmembers : members (fuel + 1) levels [] ('"' :: (name.toList ++ '"' :: ':' :: cs)) =
      .ok ([(.str name, v)], rest) := by
    unfold members
    simp only [string?_plain hname, expect, bind, Except.bind]
    rw [skip_cons (by decide)]
    simp only [hcs, h]
    rw [skip_cons (by decide)]
    rfl
  have hskip : skip ('"' :: (name.toList ++ '"' :: ':' :: cs)) =
      '"' :: (name.toList ++ '"' :: ':' :: cs) :=
    skip_cons (by decide) _
  unfold opening value
  simp only [hskip, bind, Except.bind]
  -- what follows the bracket is a quote, not the other bracket
  split
  · next heq => exact absurd (List.cons.inj heq).1 (by decide)
  · rw [hmembers]
    rfl

end Json

namespace EventRoute

variable {C : Type}

/-- A body that says a step, written without blanks. -/
def stepBody (digits : List Char) : String :=
  String.ofList (Json.opening "detail" (Json.opening "step" (digits ++ ['\x7d', '\x7d'])))

theorem halfMark_not_mem_stepBody {digits : List Char} (h : ∀ c ∈ digits, c.isDigit = true) :
    Text.halfMark ∉ (stepBody digits).toList := by
  have hdigits : '\uffff' ∉ digits := fun hmem => absurd (h _ hmem) (by decide)
  simp [stepBody, Json.opening, hdigits, Text.halfMark]

theorem read_stepBody {first : Char} {more : List Char} (h : Json.IsNumeral first more)
    (hshort : more.length < Decimal.longest) :
    (Json.read (stepBody (first :: more)) : Except JsonFault (Value C)) =
      .ok (.mapping [(.str "detail",
        .mapping [(.str "step", .int (Decimal.digitsValue 0 (first :: more)))])]) := by
  -- the bytes of the bracket and the quote in front show the encoding
  have hdecoded : Text.decode? (stepBody (first :: more)).toUTF8.data.toList =
      some (stepBody (first :: more)).toList :=
    Text.decode?_bytes (String.toList_ofList) rfl rfl (by decide) (by decide)
      (halfMark_not_mem_stepBody h.digits)
  have hspace : Json.isSpace first = false := Json.isSpace_of_isDigit (h.digits first (by simp))
  -- the fuel is the length of the body, and five levels are used
  have hlength : 5 ≤ (stepBody (first :: more)).toList.length + 1 := by
    simp [stepBody, Json.opening]
  obtain ⟨fuel, hfuel⟩ := Nat.exists_eq_add_of_le' hlength
  have hstep : Json.value (C := C) (fuel + 3) 959
      (Json.opening "step" (first :: more ++ ['\x7d', '\x7d'])) =
        .ok (.mapping [(.str "step", .int (Decimal.digitsValue 0 (first :: more)))], ['\x7d']) :=
    Json.value_single (by decide +kernel) (Json.skip_cons hspace _)
      (Json.value_numeral h hshort fuel 958 ['\x7d'])
  have hdetail : Json.value (C := C) (fuel + 5) Json.deepest
      (Json.opening "detail" (Json.opening "step" (first :: more ++ ['\x7d', '\x7d']))) =
        .ok (.mapping [(.str "detail",
          .mapping [(.str "step", .int (Decimal.digitsValue 0 (first :: more)))])], []) :=
    Json.value_single (by decide +kernel) (Json.skip_cons (by decide) _) hstep
  have hskip : Json.skip (stepBody (first :: more)).toList = (stepBody (first :: more)).toList := by
    unfold stepBody
    rw [String.toList_ofList]
    exact Json.skip_cons (by decide) _
  unfold Json.read
  rw [hdecoded]
  dsimp only
  unfold Json.ofChars
  rw [hfuel, hskip]
  unfold stepBody
  rw [String.toList_ofList, hdetail]
  rfl

/-- The details of such a body are the step that it says. -/
theorem payload_stepBody {first : Char} {more : List Char} (h : Json.IsNumeral first more)
    (hshort : more.length < Decimal.longest) :
    (payload (some (stepBody (first :: more))) : Except (BodyFault C) (Value C)) =
      .ok (.payload [(.str "step", .int (Decimal.digitsValue 0 (first :: more)))]) := by
  have hsome : stepBody (first :: more) ≠ "" := fun hempty => by
    have hnone := congrArg String.toList hempty
    rw [stepBody, String.toList_ofList] at hnone
    cases hnone
  unfold payload
  dsimp only
  rw [if_neg hsome, read_stepBody h hshort]
  rfl

end EventRoute
end MarkupTree
