import MarkupTree.Proofs.Runs
import MarkupTree.Proofs.Structure

/-!
# Places — where markers stand in markup

A marker is looked for as a stretch of characters. It holds two quotes, and in markup without
anything verbatim quotes stand only around the values of attributes. So a marker can begin only in
front of a value, and it ends where the value ends.

* `Text.places` are the places of a pattern, `Text.places_skip` finds them up to the next quote.
* `Run.places_printAll` are the places of a marker in a list of runs.
* `Renderer.marker_places` says that a rendering holds the markers of its bindings and no others.
-/

namespace MarkupTree

variable {C σ : Type}

/-! ## Places of a pattern -/

namespace Text

/-- The places at which a pattern stands in a text. -/
def places (pattern cs : List Char) : List Nat :=
  (List.range (cs.length + 1)).filter fun k => pattern.isPrefixOf (cs.drop k)

theorem mem_places {pattern cs : List Char} {k : Nat} :
    k ∈ places pattern cs ↔ k ≤ cs.length ∧ pattern <+: cs.drop k := by
  simp only [places, List.mem_filter, List.mem_range, Nat.lt_succ_iff, List.isPrefixOf_iff_prefix]

theorem places_cons (pattern : List Char) (c : Char) (rest : List Char) :
    places pattern (c :: rest) =
      (if pattern <+: c :: rest then [0] else []) ++ (places pattern rest).map (· + 1) := by
  unfold places
  rw [List.length_cons, List.range_succ_eq_map, List.filter_cons, List.filter_map]
  simp only [List.drop_zero, List.isPrefixOf_iff_prefix]
  split <;> rfl

theorem occursIn_iff_places (pattern cs : List Char) :
    occursIn pattern cs = true ↔ places pattern cs ≠ [] := by
  rw [occursIn_iff]
  constructor
  · rintro ⟨front, back, rfl⟩
    have hplace : front.length ∈ places pattern (front ++ pattern ++ back) := by
      refine mem_places.2 ⟨by simp [List.append_assoc], ?_⟩
      simp [List.append_assoc]
    exact List.ne_nil_of_mem hplace
  · intro hne
    rcases List.exists_mem_of_ne_nil _ hne with ⟨k, hk⟩
    exact (mem_places.1 hk).2.isInfix.trans (List.drop_suffix k cs).isInfix

/-! ## Quotes -/

/-- What stands in front of the first quote is the same on both sides. -/
theorem prefix_quote {m x : List Char} (hm : '"' ∉ m) (hx : '"' ∉ x) (e rest : List Char) :
    m ++ '"' :: e <+: x ++ '"' :: rest ↔ m = x ∧ e <+: rest := by
  induction m generalizing x with
  | nil =>
      cases x with
      | nil => simp
      | cons c x =>
          have hc : '"' ≠ c := by
            rintro rfl
            exact hx (by simp)
          simp [hc]
  | cons d m ih =>
      have hd : d ≠ '"' := by
        rintro rfl
        exact hm (by simp)
      cases x with
      | nil => simp [hd]
      | cons c x =>
          have htail := ih (x := x) (fun h => hm (List.mem_cons_of_mem _ h))
            (fun h => hx (List.mem_cons_of_mem _ h))
          simp only [List.cons_append, List.cons_prefix_cons, htail, List.cons.injEq, and_assoc]

theorem places_of_quoteFree (m e : List Char) {x : List Char} (hx : '"' ∉ x) :
    places (m ++ '"' :: e) x = [] := by
  rw [List.eq_nil_iff_forall_not_mem]
  intro k hk
  -- the pattern would bring its quote along
  have hquote : '"' ∈ x.drop k := (mem_places.1 hk).2.subset (by simp)
  exact hx (List.mem_of_mem_drop hquote)

/-- A pattern with a quote stands up to the next quote of a text at most once: so that the quotes
come together. -/
theorem places_skip {m x : List Char} (hm : '"' ∉ m) (hne : m ≠ []) (hx : '"' ∉ x)
    (e rest : List Char) :
    places (m ++ '"' :: e) (x ++ '"' :: rest) =
      (if m <:+ x ∧ e <+: rest then [x.length - m.length] else []) ++
        (places (m ++ '"' :: e) rest).map (· + (x.length + 1)) := by
  induction x with
  | nil =>
      have hnone : ¬ (m ++ '"' :: e <+: [] ++ '"' :: rest) := by
        rw [prefix_quote hm hx]
        exact fun h => hne h.1
      have hsuffix : ¬ (m <:+ [] ∧ e <+: rest) := by
        rintro ⟨hm, -⟩
        exact hne (List.suffix_nil.1 hm)
      rw [if_neg hsuffix, List.nil_append, places_cons, if_neg (by simpa using hnone)]
      simp
  | cons c x ih =>
      have hx' : '"' ∉ x := fun h => hx (List.mem_cons_of_mem _ h)
      have hfirst := prefix_quote hm hx e rest
      rw [List.cons_append] at hfirst
      rw [List.cons_append, places_cons, ih hx', List.map_append, List.map_map]
      simp only [hfirst]
      have hshift : ((fun k => k + 1) ∘ fun k => k + (x.length + 1)) =
          fun k => k + ((c :: x).length + 1) := by
        funext k
        simp only [Function.comp_apply, List.length_cons]
        omega
      rw [hshift, ← List.append_assoc]
      congr 1
      -- a pattern that is open at the quote began here or later, never both
      by_cases hrest : e <+: rest
      · by_cases hwhole : m = c :: x
        · subst hwhole
          have hlong : ¬ (c :: x <:+ x) := by
            intro h
            have hlength := h.length_le
            rw [List.length_cons] at hlength
            omega
          simp [hrest, hlong]
        · have hsuffix : m <:+ c :: x ↔ m <:+ x := by
            rw [List.suffix_cons_iff]
            exact or_iff_right hwhole
          by_cases hin : m <:+ x
          · have hlength := hin.length_le
            have hpos : x.length - m.length + 1 = x.length + 1 - m.length := by omega
            simp [hrest, hwhole, hsuffix, hin, hpos]
          · simp [hrest, hwhole, hsuffix, hin]
      · simp [hrest]

end Text

/-! ## Markers in runs -/

/-- What stands in front of the value in a marker. -/
def markerHead : List Char :=
  Vocabulary.marker.toList ++ ['=']

theorem toList_markerOf (id : String) : (Container.markerOf id).toList =
    markerHead ++ '"' :: (Text.escapeChars id.toList ++ ['"']) := by
  simp [Container.markerOf, markerHead]

/-- A marker ends a name exactly if it ends the text in front of the value. -/
theorem markerHead_suffix (x name : List Char) :
    markerHead <:+ x ++ ' ' :: (name ++ ['=']) ↔ Vocabulary.marker.toList <:+ name := by
  have hend : x ++ ' ' :: (name ++ ['=']) = (x ++ ' ' :: name) ++ ['='] := by simp
  have hspace : ' ' ∉ Vocabulary.marker.toList := by decide
  unfold markerHead
  rw [hend, List.suffix_append_self_iff]
  constructor
  · intro h
    -- the marker has no space in it, so it cannot reach beyond the name
    rcases List.suffix_or_suffix_of_suffix h (List.suffix_append x (' ' :: name)) with hin | hout
    · rcases List.suffix_cons_iff.1 hin with hwhole | hname
      · have hmem : ' ' ∈ Vocabulary.marker.toList := by simp [hwhole]
        exact absurd hmem hspace
      · exact hname
    · exact absurd (hout.subset (by simp)) hspace
  · intro h
    exact (h.trans (List.suffix_cons ' ' name)).trans (List.suffix_append x (' ' :: name))

/-- The name has no quote, and it does not end with the marker unless it is the marker. -/
def IsCleanName (name : String) : Prop :=
  '"' ∉ name.toList ∧
    (Vocabulary.marker.toList <:+ name.toList → name = Vocabulary.marker)

namespace Run

/-- The places and ids of the markers in a list of runs that begins at a given place. -/
def markersFrom : Nat → List Run → List (Nat × String)
  | _, [] => []
  | k, run :: rest =>
    (run.markerId?.map fun id => (k + 1, id)).toList ++
      markersFrom (k + run.print.length) rest

theorem map_snd_markersFrom (k : Nat) (rs : List Run) :
    (markersFrom k rs).map Prod.snd = rs.filterMap markerId? := by
  induction rs generalizing k with
  | nil => rfl
  | cons run rest ih =>
      rw [markersFrom, List.map_append, ih, List.filterMap_cons]
      cases run.markerId? <;> rfl

theorem markersFrom_add (j k : Nat) (rs : List Run) :
    markersFrom (k + j) rs = (markersFrom k rs).map fun m => (m.1 + j, m.2) := by
  induction rs generalizing k with
  | nil => rfl
  | cons run rest ih =>
      have hplace : k + j + run.print.length = k + run.print.length + j := by omega
      have hone : k + j + 1 = k + 1 + j := by omega
      rw [markersFrom, markersFrom, hplace, ih, List.map_append]
      cases run.markerId? with
      | none => rfl
      | some id => simp [hone]

theorem le_markersFrom {k : Nat} {rs : List Run} : ∀ m ∈ markersFrom k rs, k < m.1 := by
  induction rs generalizing k with
  | nil => simp [markersFrom]
  | cons run rest ih =>
      intro m hm
      rcases List.mem_append.1 hm with hfirst | hrest
      · rcases Option.map_eq_some_iff.1 (Option.mem_toList.1 hfirst) with ⟨id, -, rfl⟩
        exact Nat.lt_succ_self k
      · have hlater := ih m hrest
        omega

theorem pairwise_markersFrom (k : Nat) (rs : List Run) :
    ((markersFrom k rs).map Prod.fst).Pairwise (· < ·) := by
  induction rs generalizing k with
  | nil => exact List.Pairwise.nil
  | cons run rest ih =>
      rw [markersFrom, List.map_append, List.pairwise_append]
      refine ⟨?_, ih _, ?_⟩
      · cases run.markerId? <;> simp
      · -- a marker is behind its place in the markup, and the next run is behind the marker
        intro i hi j hj
        rcases List.mem_map.1 hi with ⟨m, hm, rfl⟩
        rcases List.mem_map.1 hj with ⟨m', hm', rfl⟩
        rcases Option.map_eq_some_iff.1 (Option.mem_toList.1 hm) with ⟨id, hid, rfl⟩
        have hlong : 0 < run.print.length := by
          rw [eq_of_markerId? hid, print_marker, String.length_append]
          exact Nat.add_pos_left (by decide) _
        have hlater := le_markersFrom m' hm'
        show k + 1 < m'.1
        omega

/-- Nothing but values is quoted, and no name but the marker's ends with it. -/
def Clean : Run → Prop
  | plain s => '"' ∉ s.toList
  | field name _ => IsCleanName name

theorem clean_text (s : String) : Run.Clean (.plain (Text.escape s)) := by
  show '"' ∉ (Text.escape s).toList
  rw [Text.toList_escape]
  exact Text.not_mem_escapeChars (by decide) s.toList

theorem toList_print_field (name value : String) : (field name value).print.toList =
    (' ' :: (name.toList ++ ['='])) ++ '"' :: (Text.escapeChars value.toList ++ ['"']) := by
  simp [print, printAttribute]

/-- Outside of values, what stands in front of a quote ends with an equality sign. -/
theorem not_closed {rs : List Run} (hclean : ∀ run ∈ rs, run.Clean) {e x : List Char}
    (he : '"' ∉ e) (hlast : e.getLast? ≠ some '=') (hx : '"' ∉ x) :
    ¬ (e ++ ['"'] <+: x ++ (printAll rs).toList) := by
  induction rs generalizing x with
  | nil =>
      intro hprefix
      have hquote : '"' ∈ x := by simpa [printAll] using hprefix.subset (by simp)
      exact hx hquote
  | cons run rest ih =>
      have hrest : ∀ run ∈ rest, run.Clean := fun r hr => hclean r (List.mem_cons_of_mem _ hr)
      have hrun := hclean run (by simp)
      cases run with
      | plain s =>
          have hsame := ih hrest (x := x ++ s.toList) (by simp [hx]; exact hrun)
          simpa [printAll, print] using hsame
      | field name value =>
          have hfront : '"' ∉ x ++ ' ' :: (name.toList ++ ['=']) := by
            simp [hx, hrun.1]
          have htext : x ++ (printAll (field name value :: rest)).toList =
              (x ++ ' ' :: (name.toList ++ ['='])) ++
                '"' :: (Text.escapeChars value.toList ++ '"' :: (printAll rest).toList) := by
            rw [printAll, String.toList_append, toList_print_field]
            simp
          -- the first quote behind the text opens the value of this field
          rw [htext, Text.prefix_quote he hfront]
          rintro ⟨rfl, -⟩
          exact hlast (List.singleton_suffix_iff_getLast?_eq_some.1
            ⟨x ++ ' ' :: name.toList, by simp⟩)

/-- Where a value begins, a marker is open exactly if the field is that marker. -/
theorem opens_iff {name value id : String} (hclean : IsCleanName name) (x rest : List Char) :
    markerHead <:+ x ++ ' ' :: (name.toList ++ ['=']) ∧
        Text.escapeChars id.toList ++ ['"'] <+: Text.escapeChars value.toList ++ '"' :: rest ↔
      name = Vocabulary.marker ∧ value = id := by
  have hvalue : '"' ∉ Text.escapeChars value.toList :=
    Text.not_mem_escapeChars (by decide) value.toList
  have hid : '"' ∉ Text.escapeChars id.toList :=
    Text.not_mem_escapeChars (by decide) id.toList
  rw [markerHead_suffix, Text.prefix_quote hid hvalue]
  constructor
  · rintro ⟨hname, hsame, -⟩
    exact ⟨hclean.2 hname, String.toList_injective (Text.escapeChars_injective hsame.symm)⟩
  · rintro ⟨rfl, rfl⟩
    exact ⟨List.suffix_refl _, rfl, List.nil_prefix⟩

theorem length_print_field (name value : String) : (field name value).print.length =
    name.length + (Text.escapeChars value.toList).length + 4 := by
  rw [← String.length_toList, toList_print_field]
  simp only [List.length_append, List.length_cons, List.length_nil, String.length_toList]
  omega

/-- Up to the end of a clean field, a marker stands at most in its place: it cannot begin inside the
value, since it would have to end at a quote that opens another value. -/
theorem places_field {name value id : String} (hclean : (field name value).Clean)
    {x rest : List Char} (hx : '"' ∉ x)
    (hclosed : ¬ (Text.escapeChars id.toList ++ ['"'] <+: rest)) :
    Text.places (Container.markerOf id).toList (x ++ ((field name value).print.toList ++ rest)) =
      (if name = Vocabulary.marker ∧ value = id then [x.length + 1] else []) ++
        (Text.places (Container.markerOf id).toList rest).map
          (· + (x.length + (field name value).print.length)) := by
  have hhead : '"' ∉ markerHead := by decide
  have hne : markerHead ≠ [] := by decide
  have hlead : '"' ∉ x ++ ' ' :: (name.toList ++ ['=']) := by
    simp [hx, hclean.1]
  have hvalue : '"' ∉ Text.escapeChars value.toList :=
    Text.not_mem_escapeChars (by decide) value.toList
  have htext : x ++ ((field name value).print.toList ++ rest) =
      (x ++ ' ' :: (name.toList ++ ['='])) ++
        '"' :: (Text.escapeChars value.toList ++ '"' :: rest) := by
    rw [toList_print_field]
    simp
  have hinside : ¬ (markerHead <:+ Text.escapeChars value.toList ∧
      Text.escapeChars id.toList ++ ['"'] <+: rest) := fun h => hclosed h.2
  -- one skip goes up to the quote that opens the value, the other to the quote that closes it
  rw [toList_markerOf, htext, Text.places_skip hhead hne hlead, Text.places_skip hhead hne hvalue,
    if_neg hinside, List.nil_append, List.map_map]
  simp only [opens_iff hclean x rest]
  congr 1
  · by_cases hmarker : name = Vocabulary.marker ∧ value = id
    · rcases hmarker with ⟨rfl, rfl⟩
      have hplace : (x ++ ' ' :: (Vocabulary.marker.toList ++ ['='])).length - markerHead.length =
          x.length + 1 := by
        simp only [markerHead, List.length_append, List.length_cons, List.length_nil]
        omega
      simp only [and_self, if_true, hplace]
    · rw [if_neg hmarker, if_neg hmarker]
  · apply List.map_congr_left
    intro k _
    simp only [Function.comp_apply, length_print_field, List.length_append, List.length_cons,
      List.length_nil, String.length_toList]
    omega

/-- In a list of clean runs behind clean text, the places of a marker are those of the fields that
hold its id. The text in front is what stands there since the last quote. -/
theorem places_printAll {rs : List Run} (hclean : ∀ run ∈ rs, run.Clean) {id : String}
    (hlast : (Text.escapeChars id.toList).getLast? ≠ some '=') {x : List Char} (hx : '"' ∉ x) :
    Text.places (Container.markerOf id).toList (x ++ (printAll rs).toList) =
      ((markersFrom x.length rs).filter fun m => m.2 = id).map Prod.fst := by
  induction rs generalizing x with
  | nil =>
      rw [toList_markerOf]
      simpa [printAll, markersFrom] using Text.places_of_quoteFree markerHead _ hx
  | cons run rest ih =>
      have hrest : ∀ run ∈ rest, run.Clean := fun r hr => hclean r (List.mem_cons_of_mem _ hr)
      have hrun := hclean run (by simp)
      cases run with
      | plain s =>
          -- plain text only makes the text in front longer
          have hlead : '"' ∉ x ++ s.toList := by
            have hs : '"' ∉ s.toList := hrun
            simp [hx, hs]
          have hsame := ih hrest hlead
          rw [List.length_append, String.length_toList] at hsame
          simpa [printAll, print, markersFrom, markerId?] using hsame
      | field name value =>
          -- behind the value nothing is open, so the text in front is empty again
          have hid : '"' ∉ Text.escapeChars id.toList :=
            Text.not_mem_escapeChars (by decide) id.toList
          have hclosed : ¬ (Text.escapeChars id.toList ++ ['"'] <+: (printAll rest).toList) :=
            not_closed hrest hid hlast (x := []) (by simp)
          have hlater := ih hrest (x := []) (by simp)
          have hshift := markersFrom_add (x.length + (field name value).print.length) 0 rest
          rw [List.nil_append, List.length_nil] at hlater
          rw [Nat.zero_add] at hshift
          rw [printAll, String.toList_append, places_field hrun hx hclosed, hlater, markersFrom,
            hshift, List.filter_append, List.map_append]
          congr 1
          · by_cases hname : name = Vocabulary.marker
            · by_cases hsame : value = id <;> simp [markerId?, hname, hsame]
            · simp [markerId?, hname]
          · rw [List.filter_map, List.map_map, List.map_map]
            rfl

end Run

/-! ## Names that are not the marker's -/

theorem quote_not_mem_of_isPlainName {name : String} (h : isPlainName name = true) :
    '"' ∉ name.toList := by
  have hplain : ∀ c ∈ name.toList, isKeyChar c = true := by
    have hparts := (Bool.and_eq_true_iff.1 h).2
    simpa using hparts
  intro hquote
  exact (Reader.ne_of_isKeyChar (hplain _ hquote)).2.2.2 rfl

namespace TagVisit

/-- No explicit key is a name that ends with the marker. -/
def Unforged (t : TagVisit C) : Prop :=
  ∀ e ∈ t.explicit, ¬ (Vocabulary.marker.toList <:+ e.1.text.toList)

instance (t : TagVisit C) : Decidable t.Unforged :=
  inferInstanceAs
    (Decidable (∀ e ∈ t.explicit, ¬ (Vocabulary.marker.toList <:+ e.1.text.toList)))

theorem Sound.name_of_label {t : TagVisit C} (h : t.Sound) {P : String → Prop}
    (hid : P Vocabulary.identity) (hclass : P Vocabulary.className) (hmarker : P Vocabulary.marker)
    (hkeys : ∀ e ∈ t.explicit, P e.1.text) (recorder : Option (Recorder C)) :
    ∀ p ∈ (t.label recorder).1.attributes, P p.1 := by
  have hplan : ∀ e ∈ t.plan.attributes, P e.1.text := by
    intro e he
    rcases h.key_mem he with hkey | hkey | ⟨e', he', hkey⟩
    · exact hkey ▸ hid
    · exact hkey ▸ hclass
    · exact hkey ▸ hkeys e' he'
  intro p hp
  rcases name_of_mem_writtenPairs hp with ⟨e, he, hname⟩
  rw [hname]
  rcases key_marked he with hkey | hkey
  · exact hkey ▸ hmarker
  · rcases List.mem_map.1 hkey with ⟨e', he', hsame⟩
    exact hsame ▸ hplan e' he'

theorem Sound.clean_runs {t : TagVisit C} (h : t.Sound) (hforged : t.Unforged)
    (hkeys : ∀ e ∈ t.explicit, isPlainName e.1.text = true) (recorder : Option (Recorder C)) :
    (∀ run ∈ (t.label recorder).1.runs, run.Clean) ∧
      Run.Clean (.plain (t.label recorder).1.closeTag) := by
  have hname : '"' ∉ (t.label recorder).1.name.toList := by
    intro hquote
    have hchar := Selector.isNameChar_of_isTagName h.isTagName _ hquote
    exact absurd hchar (by decide)
  have hnames := h.name_of_label (P := IsCleanName) ⟨by decide, by decide⟩ ⟨by decide, by decide⟩
    ⟨by decide, fun _ => rfl⟩
    (fun e he => ⟨quote_not_mem_of_isPlainName (hkeys e he), fun hs => absurd hs (hforged e he)⟩)
    recorder
  constructor
  · intro run hrun
    rcases List.mem_cons.1 hrun with rfl | hrun
    · simp [Run.Clean, hname]
    · rcases List.mem_append.1 hrun with hattribute | hend
      · rcases List.mem_map.1 hattribute with ⟨⟨name, value⟩, hp, rfl⟩
        have hclean := hnames _ hp
        cases value with
        | none => simp [Run.ofAttribute, Run.Clean, printAttribute, hclean.1]
        | some value => exact hclean
      · rw [List.mem_singleton.1 hend]
        show '"' ∉ (">" : String).toList
        decide
  · unfold Label.closeTag
    split <;> simp [Run.Clean, hname]

/-- A tag holds the marker of its own id and no other. -/
theorem Sound.markers_label {t : TagVisit C} (h : t.Sound) (hforged : t.Unforged)
    (r : Recorder C) : (t.label (some r)).1.markers =
      (bindings r.stem r.issued ([t].filter isHandled)).map Binding.id := by
  have hmarker : t.Unmarked := by
    intro e he
    rw [Bool.eq_false_iff]
    intro hsame
    have htext := Value.text_of_sameKey_str hsame
    exact hforged e he (htext ▸ List.suffix_refl _)
  -- no attribute of the plan has the marker's name, so only the one that is put can hold it
  have hplan : (writtenPairs t.plan.attributes).filterMap
      (fun p => Run.markerId? (Run.ofAttribute p)) = [] := by
    rw [List.filterMap_eq_nil_iff]
    rintro ⟨name, value⟩ hp
    have hname := h.name_of_mem (P := fun name => name ≠ Vocabulary.marker) (by decide) (by decide)
      (fun e he heq => hforged e he (heq ▸ List.suffix_refl _)) _ hp
    cases value with
    | none => rfl
    | some value => simpa [Run.ofAttribute, Run.markerId?] using hname
  rw [Label.markers_eq]
  unfold label
  cases ht : t.isHandled with
  | false =>
      rw [h.marked_of_not_handled ht, hplan]
      simp [ht, bindings]
  | true =>
      rw [h.marked_of_handled ht, Entries.put_of_absent _ (h.absent_marker hmarker),
        writtenPairs_append_str, List.filterMap_append, hplan]
      simp [ht, bindings, binding, Run.ofAttribute, Run.markerId?]

end TagVisit

namespace Visited

theorem markers_eq {forest : Visited C} (h : forest.Sound)
    (hforged : ∀ t ∈ forest.labels, t.Unforged) (r : Recorder C) :
    (forest.labelled (some r)).1.markers =
      (TagVisit.bindings r.stem r.issued forest.handled).map Binding.id := by
  refine (markers_related (R := Eq) rfl (fun h₁ h₂ => h₁ ▸ h₂ ▸ rfl) h ?_ r).symm
  intro t ht r
  exact ((h.of_mem t ht).markers_label (hforged t ht) r).symm

theorem clean_labels {forest : Visited C} (h : forest.Sound)
    (hkeys : ∀ t ∈ forest.labels, ∀ e ∈ t.explicit, isPlainName e.1.text = true)
    (hforged : ∀ t ∈ forest.labels, t.Unforged) (recorder : Option (Recorder C)) :
    ∀ label ∈ (forest.labelled recorder).1.labels,
      (∀ run ∈ label.runs, run.Clean) ∧ Run.Clean (.plain label.closeTag) := by
  apply Forest.forall_labels_thread
  intro t ht recorder
  exact (h.of_mem t ht).clean_runs (hforged t ht) (hkeys t ht) recorder

theorem clean_runs {forest : Visited C} (h : forest.Sound) (hplain : forest.Plain)
    (hforged : ∀ t ∈ forest.labels, t.Unforged) (recorder : Option (Recorder C)) :
    ∀ run ∈ (forest.labelled recorder).1.runs, run.Clean := by
  intro run hrun
  have hlabels := clean_labels h hplain.plain_keys hforged recorder
  rcases Forest.mem_runs hrun with ⟨a, ha, rfl⟩ | ⟨label, hlabel, hrun | rfl⟩
  · rw [labelled, Forest.leaves_thread] at ha
    rcases hplain.no_verbatim a ha with ⟨s, rfl⟩
    exact Run.clean_text s
  · exact (hlabels label hlabel).1 run hrun
  · exact (hlabels label hlabel).2

end Visited

/-! ## The markers of a rendering -/

/-- An id ends with a digit, and so does what is written of it. -/
theorem Recorder.getLast?_escape_idOf (stem : String) (n : Nat) :
    (Text.escapeChars (idOf stem n).toList).getLast? ≠ some '=' := by
  have hdigit : ∀ c ∈ Nat.toDigits 10 n, c.isDigit = true := fun c hc =>
    Nat.isDigit_of_mem_toDigits (by decide) (by decide) hc
  intro hlast
  rw [toList_idOf, Text.escapeChars_append, Text.escapeChars_of_isDigit hdigit] at hlast
  cases hend : (Nat.toDigits 10 n).getLast? with
  | none => exact Nat.toDigits_ne_nil (List.getLast?_eq_none_iff.1 hend)
  | some c =>
      rw [List.getLast?_append, hend, Option.some_or, Option.some.injEq] at hlast
      have hequals := hdigit c (List.mem_of_getLast? hend)
      rw [hlast] at hequals
      exact absurd hequals (by decide)

namespace Run

variable {marks : List (Nat × String)}

theorem filter_ne_nil_iff {id : String} :
    (marks.filter fun m => m.2 = id).map Prod.fst ≠ [] ↔ id ∈ marks.map Prod.snd := by
  constructor
  · intro hne
    rcases List.exists_mem_of_ne_nil _ hne with ⟨k, hk⟩
    rcases List.mem_map.1 hk with ⟨m, hm, -⟩
    rcases List.mem_filter.1 hm with ⟨hm, hid⟩
    exact List.mem_map.2 ⟨m, hm, of_decide_eq_true hid⟩
  · intro hid
    rcases List.mem_map.1 hid with ⟨m, hm, hsame⟩
    have hin : m ∈ marks.filter fun m => m.2 = id :=
      List.mem_filter.2 ⟨hm, decide_eq_true hsame⟩
    exact List.ne_nil_of_mem (List.mem_map_of_mem hin)

/-- Under different ids, every id is found once. -/
theorem filter_snd_eq (h : (marks.map Prod.snd).Nodup) {m : Nat × String} (hm : m ∈ marks) :
    marks.filter (fun other => other.2 = m.2) = [m] := by
  induction marks with
  | nil => cases hm
  | cons first rest ih =>
      have hparts := List.nodup_cons.1 h
      rcases List.mem_cons.1 hm with rfl | hrest
      · have hnone : rest.filter (fun other => other.2 = m.2) = [] := by
          rw [List.filter_eq_nil_iff]
          intro other hother
          have hne : other.2 ≠ m.2 := fun heq => hparts.1 (heq ▸ List.mem_map_of_mem hother)
          simpa using hne
        simp [hnone]
      · have hne : first.2 ≠ m.2 := fun heq => hparts.1 (heq ▸ List.mem_map_of_mem hrest)
        simp [hne, ih hparts.2 hrest]

theorem map_places_eq (h : (marks.map Prod.snd).Nodup) {places : String → List Nat}
    (hplaces : ∀ id ∈ marks.map Prod.snd,
      places id = (marks.filter fun m => m.2 = id).map Prod.fst) :
    (marks.map Prod.snd).map places = (marks.map Prod.fst).map fun k => [k] := by
  rw [List.map_map, List.map_map]
  apply List.map_congr_left
  intro m hm
  have hone := hplaces m.2 (List.mem_map_of_mem hm)
  rw [filter_snd_eq h hm] at hone
  exact hone

end Run

namespace Visited

/-- In a rendering without anything verbatim and without forged keys, the markers stand where the
bindings have them. -/
theorem exists_marks {forest : Visited C} (h : forest.Sound) (hplain : forest.Plain)
    (hforged : ∀ t ∈ forest.labels, t.Unforged) (stem : String) :
    ∃ marks : List (Nat × String),
      marks.map Prod.snd = (forest.rendering stem).bindings.map Binding.id ∧
      (marks.map Prod.fst).Pairwise (· < ·) ∧
      ∀ p n, Text.places (Container.markerOf (Recorder.idOf p n)).toList
          (forest.rendering stem).markup.toList =
        (marks.filter fun m => m.2 = Recorder.idOf p n).map Prod.fst := by
  refine ⟨Run.markersFrom 0 (forest.labelled (some (.start stem))).1.runs, ?_,
    Run.pairwise_markersFrom 0 _, ?_⟩
  · rw [Run.map_snd_markersFrom, rendering_bindings h]
    exact markers_eq h hforged (.start stem)
  · intro p n
    have hplaces := Run.places_printAll (clean_runs h hplain hforged (some (.start stem)))
      (Recorder.getLast?_escape_idOf p n) (x := []) (by simp)
    rw [Forest.printAll_runs, List.nil_append] at hplaces
    exact hplaces

end Visited

namespace Renderer

/-- No text, attribute, id or class can forge a marker: an id is found in rendered markup exactly
if it is the id of a binding, its marker is there once, and the markers come in the order of the
bindings. -/
theorem marker_places {B : Behaviour C σ} {settings : Settings} {elements : List (Value C)}
    {press after : Press σ} {rendering : Rendering C} (reached : press.Reached C)
    (hrender : render B settings elements press = (.ok rendering, after)) :
    ∃ forest visited,
      visitAll B Press.readAfresh settings elements press = (.ok forest, visited) ∧
      visited.session = after.session ∧
      (forest.Plain → (∀ t ∈ forest.labels, t.Unforged) →
        (∀ container : Container C, container.content = rendering.markup →
          ∀ (p : String) (n : Nat), container.hasElement (p ++ toString n) = true ↔
            ∃ b ∈ rendering.bindings, b.id = p ++ toString n) ∧
        ∃ ks : List Nat, ks.Pairwise (· < ·) ∧
          rendering.bindings.map (fun b =>
            Text.places (Container.markerOf b.id).toList rendering.markup.toList) =
          ks.map fun k => [k]) := by
  rcases visit_of_render reached hrender with ⟨forest, visited, hvisit, hsession, rfl⟩
  refine ⟨forest, visited, hvisit, hsession, ?_⟩
  intro hplain hforged
  have hsound := visitAll_sound hvisit
  have hbindings := Visited.rendering_bindings hsound settings.idStem
  rcases Visited.exists_marks hsound hplain hforged settings.idStem with
    ⟨marks, hids, hincreasing, hplaces⟩
  constructor
  · rintro container hcontent p n
    have hmem : (∃ b ∈ (forest.rendering settings.idStem).bindings, b.id = p ++ toString n) ↔
        p ++ toString n ∈ marks.map Prod.snd := by
      rw [hids, List.mem_map]
    have hfound := hplaces p n
    unfold Recorder.idOf at hfound
    unfold Container.hasElement
    rw [hcontent, Text.occursIn_iff_places, hfound, Run.filter_ne_nil_iff, hmem]
  · refine ⟨marks.map Prod.fst, hincreasing, ?_⟩
    have hnodup : (marks.map Prod.snd).Nodup := by
      rw [hids, hbindings]
      exact TagVisit.nodup_ids _ _ _
    -- every id that is marked was given out for a number, so its places are known
    have hnumbered : ∀ id ∈ marks.map Prod.snd,
        Text.places (Container.markerOf id).toList
            (forest.rendering settings.idStem).markup.toList =
          (marks.filter fun m => m.2 = id).map Prod.fst := by
      rw [hids, hbindings]
      intro id hid
      rcases List.mem_map.1 hid with ⟨b, hb, rfl⟩
      rcases List.mem_mapIdx.1 hb with ⟨i, hi, rfl⟩
      exact hplaces settings.idStem (0 + i + 1)
    have hmap := Run.map_places_eq hnodup hnumbered
    rw [hids, List.map_map] at hmap
    exact hmap

/-- A tag with a handler, in which an attribute ends like the front of a marker and the text and
another attribute look like a whole one. -/
def forgingTag : Value Nat :=
  .list [.str "p",
    .mapping [(.str "title", .str "data-hiccpy-id="),
      (.str "on:click", .callable (.sample "go")),
      (.str "lang", .str "data-hiccpy-id=\"hiccpy-7\"")],
    .str "data-hiccpy-id=\"hiccpy-7\""]

theorem marker_places_forgingTag :
    (Press.start 10 () : Press Unit).Reached Nat ∧
      ∃ rendering after, render .echo .standard [forgingTag] (.start 10 ()) =
          (.ok rendering, after) ∧
        (∀ n : Nat, (⟨"app", rendering.markup, []⟩ : Container Nat).hasElement
          ("hiccpy-" ++ toString n) = true ↔ n = 1) ∧
        ∃ k, Text.places (Container.markerOf "hiccpy-1").toList rendering.markup.toList = [k] := by
  have hreached : (Press.start 10 () : Press Unit).Reached Nat := .start 10 ()
  have hanswer : (render .echo .standard [forgingTag] (.start 10 ())).1.toOption.map
      (fun rendering => rendering.bindings.map Binding.id) = some ["hiccpy-1"] := by
    decide +kernel
  have hforest :
      (visitAll .echo Press.readAfresh .standard [forgingTag] (.start 10 ())).1.toOption.map
        (fun forest => decide (forest.Plain ∧ ∀ t ∈ forest.labels, t.Unforged)) = some true := by
    decide +kernel
  rcases Option.map_eq_some_iff.1 hanswer with ⟨rendering, hsome, hids⟩
  have hrender := Attempt.apply_eq_of_toOption hsome
  rcases marker_places hreached hrender with ⟨forest, visited, hvisit, -, hmarkers⟩
  rw [hvisit] at hforest
  rcases of_decide_eq_true (Option.some.inj hforest) with ⟨hplain, hforged⟩
  rcases hmarkers hplain hforged with ⟨hfound, ks, -, hplaces⟩
  refine ⟨hreached, rendering, _, hrender, ?_, ?_⟩
  · intro n
    rw [hfound _ rfl]
    have hmem : (∃ b ∈ rendering.bindings, b.id = "hiccpy-" ++ toString n) ↔
        "hiccpy-" ++ toString n ∈ rendering.bindings.map Binding.id := by
      rw [List.mem_map]
    rw [hmem, hids, List.mem_singleton]
    constructor
    · intro hid
      have hsame : Recorder.idOf "hiccpy-" n = Recorder.idOf "hiccpy-" 1 := hid
      exact Recorder.eq_of_idOf_eq hsame
    · rintro rfl
      rfl
  · have hmap : (rendering.bindings.map Binding.id).map (fun id =>
        Text.places (Container.markerOf id).toList rendering.markup.toList) =
        ks.map fun k => [k] := by
      rw [List.map_map]
      exact hplaces
    rw [hids] at hmap
    cases ks with
    | nil => cases hmap
    | cons k ks => exact ⟨k, (List.cons.inj hmap).1⟩

end Renderer
end MarkupTree
