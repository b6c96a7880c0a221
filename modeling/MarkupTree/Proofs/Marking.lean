import MarkupTree.Proofs.History
import MarkupTree.Proofs.Visited
import MarkupTree.Surface

/-!
# Marking — what a rendering with bindings adds to the markup

With and without bindings a renderer does the same. Only the open tags that have handlers differ:
with bindings, each of them ends with a marker.

* `Visited.handled` are the tags with handlers, `TagVisit.bindings` numbers them.
* `Visited.pieces` is the markup with a slot in every such tag, `Slotted.fill` fills the slots.
* `Renderer.html_render_agree` compares both kinds of renderings.
-/

namespace MarkupTree

variable {C σ : Type}

/-! ## Tags with handlers -/

namespace TagVisit

def isHandled (t : TagVisit C) : Bool :=
  !t.explicit.handlers.isEmpty

/-- The binding of a tag under the id with a given number. -/
def binding (stem : String) (t : TagVisit C) (n : Nat) : Binding C :=
  ⟨Recorder.idOf stem n, Table.ofPairs t.explicit.handlers⟩

/-- The bindings of tags in order, when so many ids were given out before. -/
def bindings (stem : String) (issued : Nat) (ts : List (TagVisit C)) : List (Binding C) :=
  ts.mapIdx fun i t => t.binding stem (issued + i + 1)

theorem bindings_append (stem : String) (issued : Nat) (ts us : List (TagVisit C)) :
    bindings stem issued (ts ++ us) =
      bindings stem issued ts ++ bindings stem (issued + ts.length) us := by
  unfold bindings
  simp only [List.mapIdx_append, Nat.add_assoc, Nat.add_left_comm]

/-- No explicit key is the marker's. -/
def Unmarked (t : TagVisit C) : Prop :=
  ∀ e ∈ t.explicit, e.1.sameKey (.str Vocabulary.marker) = false

instance (t : TagVisit C) : Decidable t.Unmarked :=
  inferInstanceAs (Decidable (∀ e ∈ t.explicit, e.1.sameKey (.str Vocabulary.marker) = false))

end TagVisit

namespace Visited

/-- The tags with handlers, in document order. -/
def handled (forest : Visited C) : List (TagVisit C) :=
  forest.labels.filter TagVisit.isHandled

theorem handled_node (t : TagVisit C) (inside rest : Visited C) :
    handled (.node t inside rest) =
      [t].filter TagVisit.isHandled ++ (inside.handled ++ rest.handled) := by
  have hlabels : (Forest.node t inside rest : Visited C).labels =
      [t] ++ (inside.labels ++ rest.labels) := rfl
  unfold handled
  rw [hlabels, List.filter_append, List.filter_append]

end Visited

/-! ## Recorders -/

namespace Table

variable {α : Type}

theorem put_ne_nil (name : String) (a : α) (t : Table α) : t.put name a ≠ [] := by
  cases t with
  | nil => simp [put, adjust]
  | cons e rest =>
      unfold put adjust
      split <;> simp

theorem ofPairs_eq_nil {pairs : List (String × α)} : ofPairs pairs = [] ↔ pairs = [] := by
  have hfold : ∀ (pairs : List (String × α)) (t : Table α), t ≠ [] →
      pairs.foldl (fun t e => t.put e.1 e.2) t ≠ [] := by
    intro pairs
    induction pairs with
    | nil => exact fun t ht => ht
    | cons e rest ih => exact fun t _ => ih _ (put_ne_nil e.1 e.2 t)
  -- a table that holds something never becomes empty
  cases pairs with
  | nil => simp [ofPairs]
  | cons e rest => simpa [ofPairs] using hfold rest _ (put_ne_nil e.1 e.2 [])

end Table

namespace Recorder

/-- The recorder after more tags with handlers. -/
def advance (r : Recorder C) (ts : List (TagVisit C)) : Recorder C :=
  ⟨r.stem, r.issued + ts.length, r.bindings ++ TagVisit.bindings r.stem r.issued ts⟩

@[simp]
theorem advance_nil (r : Recorder C) : r.advance [] = r := by
  simp [advance, TagVisit.bindings]

@[simp]
theorem advance_stem (r : Recorder C) (ts : List (TagVisit C)) : (r.advance ts).stem = r.stem :=
  rfl

@[simp]
theorem advance_issued (r : Recorder C) (ts : List (TagVisit C)) :
    (r.advance ts).issued = r.issued + ts.length := rfl

theorem advance_advance (r : Recorder C) (ts us : List (TagVisit C)) :
    (r.advance ts).advance us = r.advance (ts ++ us) := by
  simp only [advance, TagVisit.bindings_append, List.length_append, List.append_assoc,
    Nat.add_assoc]

theorem toList_idOf (stem : String) (n : Nat) :
    (idOf stem n).toList = stem.toList ++ Nat.toDigits 10 n := by
  simp [idOf]

/-- Different numbers give different ids. -/
theorem eq_of_idOf_eq {stem : String} {m n : Nat} (h : idOf stem m = idOf stem n) : m = n := by
  have hdigits : Nat.toDigits 10 m = Nat.toDigits 10 n := by
    have hchars := congrArg String.toList h
    rw [toList_idOf, toList_idOf] at hchars
    exact List.append_cancel_left hchars
  calc
    m = Nat.ofDigitChars 10 (Nat.toDigits 10 m) 0 := Nat.ofDigitChars_ten_toDigits.symm
    _ = Nat.ofDigitChars 10 (Nat.toDigits 10 n) 0 := by rw [hdigits]
    _ = n := Nat.ofDigitChars_ten_toDigits

end Recorder

/-- The ids of bindings are numbered on from those given out before. -/
theorem TagVisit.ids_bindings (stem : String) (issued : Nat) (ts : List (TagVisit C)) :
    (bindings stem issued ts).map Binding.id =
      (List.range ts.length).map fun i => Recorder.idOf stem (issued + i + 1) := by
  apply List.ext_getElem
  · simp [bindings]
  · intro i _ _
    simp [bindings, binding]

/-- No two bindings have the same id. -/
theorem TagVisit.nodup_ids (stem : String) (issued : Nat) (ts : List (TagVisit C)) :
    ((bindings stem issued ts).map Binding.id).Nodup := by
  rw [ids_bindings, List.Nodup, List.pairwise_map]
  refine List.nodup_range.imp ?_
  intro i j hne hid
  have hnumber := Recorder.eq_of_idOf_eq hid
  omega

namespace TagVisit

theorem Sound.isEmpty_events {t : TagVisit C} (h : t.Sound) :
    t.plan.events.isEmpty = !t.isHandled := by
  rw [h.events_eq, isHandled, Bool.not_not]
  cases hpairs : t.explicit.handlers with
  | nil => rfl
  | cons e rest =>
      have hne : Table.ofPairs (e :: rest) ≠ [] := by
        simp [Table.ofPairs_eq_nil]
      simpa using hne

theorem Sound.marked_of_not_handled {t : TagVisit C} (h : t.Sound) (ht : t.isHandled = false)
    (r : Recorder C) : t.marked (some r) = (t.plan.attributes, some r) := by
  have hempty : t.plan.events.isEmpty = true := by rw [h.isEmpty_events, ht, Bool.not_false]
  unfold marked
  simp only [hempty, if_true]

theorem Sound.marked_of_handled {t : TagVisit C} (h : t.Sound) (ht : t.isHandled = true)
    (r : Recorder C) : t.marked (some r) =
      (t.plan.attributes.put (.str Vocabulary.marker)
        (.str (Recorder.idOf r.stem (r.issued + 1))), some (r.advance [t])) := by
  have hempty : t.plan.events.isEmpty = false := by rw [h.isEmpty_events, ht, Bool.not_true]
  unfold marked
  simp only [hempty, Bool.false_eq_true, if_false, Recorder.record_eq]
  rw [h.events_eq]
  rfl

/-- A recorder goes on by a tag that has handlers, and only by such a tag. -/
theorem Sound.label_recorder {t : TagVisit C} (h : t.Sound) (r : Recorder C) :
    (t.label (some r)).2 = some (r.advance ([t].filter isHandled)) := by
  unfold label
  cases ht : t.isHandled with
  | false =>
      have hnone : [t].filter isHandled = [] := by simp [ht]
      rw [h.marked_of_not_handled ht, hnone, Recorder.advance_nil]
  | true =>
      have hone : [t].filter isHandled = [t] := by simp [ht]
      rw [h.marked_of_handled ht, hone]

end TagVisit

theorem Visited.labelled_recorder {forest : Visited C} (h : forest.Sound) (r : Recorder C) :
    (forest.labelled (some r)).2 = some (r.advance forest.handled) := by
  -- the recorder goes through the tag, its inside and the rest in this order
  induction forest generalizing r with
  | nil => simp [labelled, Forest.thread, handled, Forest.labels]
  | leaf a rest ih => exact ih h r
  | node t inside rest ihi ihr =>
      rcases h with ⟨ht, -, hinside, hrest⟩
      have htag := ht.label_recorder r
      have hi := ihi hinside (r.advance ([t].filter TagVisit.isHandled))
      have hr := ihr hrest
        ((r.advance ([t].filter TagVisit.isHandled)).advance (handled inside))
      unfold labelled at hi hr ⊢
      rw [handled_node, ← Recorder.advance_advance, ← Recorder.advance_advance, ← hr]
      simp only [Forest.thread, htag, hi]

/-! ## Markup with slots -/

/-- Markup in pieces, with slots between them. -/
abbrev Slotted := List (Option String)

namespace Slotted

/-- Fills the slots in order, with a text for each number from `n` on. -/
def fill (f : Nat → String) : (n : Nat) → Slotted → String
  | _, [] => ""
  | n, some s :: rest => s ++ fill f n rest
  | n, none :: rest => f n ++ fill f (n + 1) rest

def slots (ps : Slotted) : Nat :=
  ps.countP Option.isNone

theorem fill_append (f : Nat → String) (n : Nat) (ps qs : Slotted) :
    fill f n (ps ++ qs) = fill f n ps ++ fill f (n + slots ps) qs := by
  induction ps generalizing n with
  | nil => simp [fill, slots]
  | cons p rest ih =>
      cases p with
      | some s =>
          have hslots : slots (some s :: rest) = slots rest := by simp [slots]
          calc
            fill f n (some s :: (rest ++ qs))
                = s ++ (fill f n rest ++ fill f (n + slots rest) qs) := by rw [fill, ih]
            _ = fill f n (some s :: rest) ++ fill f (n + slots (some s :: rest)) qs := by
                rw [fill, hslots, String.append_assoc]
      | none =>
          have hslots : n + slots (none :: rest) = n + 1 + slots rest := by
            simp only [slots, List.countP_cons, Option.isNone_none, if_true]
            omega
          calc
            fill f n (none :: (rest ++ qs))
                = f n ++ (fill f (n + 1) rest ++ fill f (n + 1 + slots rest) qs) := by
                  rw [fill, ih]
            _ = fill f n (none :: rest) ++ fill f (n + slots (none :: rest)) qs := by
                rw [fill, hslots, String.append_assoc]

/-- Without slots there is nothing to fill. -/
theorem fill_eq_of_slots {ps : Slotted} (h : slots ps = 0) (f g : Nat → String) (n m : Nat) :
    fill f n ps = fill g m ps := by
  induction ps with
  | nil => rfl
  | cons p rest ih =>
      cases p with
      | some s =>
          have hrest : slots rest = 0 := by simpa [slots] using h
          rw [fill, fill, ih hrest]
      | none => simp [slots] at h

end Slotted

/-- What marks the tag whose id has a given number. -/
def Recorder.markOf (stem : String) (n : Nat) : String :=
  " " ++ Container.markerOf (idOf stem n)

namespace TagVisit

/-- The open tag of a visited tag, with a slot in front of its end if it has handlers. -/
def openPieces (t : TagVisit C) : Slotted :=
  let start := "<" ++ t.tag.name ++ printAttributes (writtenPairs t.plan.attributes)
  if t.isHandled then [some start, none, some ">"] else [some start, some ">"]

theorem slots_openPieces (t : TagVisit C) :
    t.openPieces.slots = ([t].filter isHandled).length := by
  unfold openPieces
  cases ht : t.isHandled <;> simp [Slotted.slots, ht]

theorem fill_openPieces_empty (t : TagVisit C) (n : Nat) :
    t.openPieces.fill (fun _ => "") n = t.plainLabel.openTag := by
  unfold openPieces
  cases t.isHandled <;> simp [Slotted.fill, plainLabel, Label.openTag]

theorem Sound.absent_marker {t : TagVisit C} (h : t.Sound) (hmarker : t.Unmarked) :
    ∀ e ∈ t.plan.attributes, e.1.sameKey (.str Vocabulary.marker) = false := by
  intro e he
  rcases h.key_mem he with hkey | hkey | ⟨e', he', hkey⟩
  · -- neither of the two names that a selector gives is the marker's
    rw [hkey, Value.sameKey]
    decide
  · rw [hkey, Value.sameKey]
    decide
  · rw [← hkey]
    exact hmarker e' he'

theorem Sound.openTag_label {t : TagVisit C} (h : t.Sound)
    (hmarker : t.isHandled = true → t.Unmarked) (r : Recorder C) :
    (t.label (some r)).1.openTag =
      t.openPieces.fill (Recorder.markOf r.stem) (r.issued + 1) := by
  unfold label openPieces
  cases ht : t.isHandled with
  | false =>
      rw [h.marked_of_not_handled ht]
      simp [Slotted.fill, Label.openTag]
  | true =>
      -- a new key comes last, so the marker stands right in front of the end of the tag
      have habsent := h.absent_marker (hmarker ht)
      rw [h.marked_of_handled ht, Entries.put_of_absent _ habsent, writtenPairs_append_str]
      simp [Slotted.fill, Label.openTag, Recorder.markOf, Container.markerOf, printAttributes,
        printAttribute, String.append_assoc]

end TagVisit

namespace Visited

/-- The markup of a forest, with a slot in every open tag that has handlers. -/
def pieces : Visited C → Slotted
  | .nil => []
  | .leaf a rest => some a.print :: pieces rest
  | .node t inside rest =>
    t.openPieces ++ (pieces inside ++ (some t.plainLabel.closeTag :: pieces rest))

theorem slots_pieces (forest : Visited C) : forest.pieces.slots = forest.handled.length := by
  induction forest with
  | nil => rfl
  | leaf a rest ih =>
      have hrest : handled (.leaf a rest) = handled rest := rfl
      unfold Slotted.slots at ih ⊢
      rw [hrest, ← ih]
      simp [pieces]
  | node t inside rest ihi ihr =>
      have ht := t.slots_openPieces
      unfold Slotted.slots at ht ihi ihr ⊢
      rw [handled_node, List.length_append, List.length_append, ← ht, ← ihi, ← ihr]
      simp [pieces]

theorem print_labelled_none (forest : Visited C) (n : Nat) :
    (forest.labelled none).1.print = forest.pieces.fill (fun _ => "") n := by
  rw [labelled_none]
  induction forest generalizing n with
  | nil => rfl
  | leaf a rest ih => simp [Forest.map, Forest.print, pieces, Slotted.fill, ih n]
  | node t inside rest ihi ihr =>
      rw [pieces, Slotted.fill_append, Slotted.fill_append, Slotted.fill, ← ihi, ← ihr,
        t.fill_openPieces_empty]
      simp [Forest.map, Forest.print, String.append_assoc]

/-- With a recorder every slot is filled with the marker of its number. -/
theorem print_labelled_some {forest : Visited C} (h : forest.Sound)
    (hmarker : ∀ t ∈ forest.handled, t.Unmarked) (r : Recorder C) :
    (forest.labelled (some r)).1.print =
      forest.pieces.fill (Recorder.markOf r.stem) (r.issued + 1) := by
  induction forest generalizing r with
  | nil => rfl
  | leaf a rest ih =>
      have hrest := ih h hmarker r
      unfold labelled at hrest
      simp [labelled, Forest.thread, Forest.print, pieces, Slotted.fill, hrest]
  | node t inside rest ihi ihr =>
      rcases h with ⟨ht, -, hinside, hrest⟩
      rw [handled_node] at hmarker
      have hopen := ht.openTag_label (fun hhandled => hmarker t (by simp [hhandled])) r
      have htag := ht.label_recorder r
      have hstate := labelled_recorder hinside (r.advance ([t].filter TagVisit.isHandled))
      have hi := ihi hinside (fun t' ht' => hmarker t' (by simp [ht']))
        (r.advance ([t].filter TagVisit.isHandled))
      have hr := ihr hrest (fun t' ht' => hmarker t' (by simp [ht']))
        ((r.advance ([t].filter TagVisit.isHandled)).advance (handled inside))
      have hclose : (t.label (some r)).1.closeTag = t.plainLabel.closeTag := rfl
      unfold labelled at hi hr hstate ⊢
      -- the numbers go on behind the tag by one if it has handlers, and behind its inside
      simp only [Forest.thread, htag, hstate, Forest.print, hopen, hi, hclose, hr]
      rw [pieces, Slotted.fill_append, Slotted.fill_append, Slotted.fill, t.slots_openPieces,
        slots_pieces]
      simp only [Recorder.advance_stem, Recorder.advance_issued, String.append_assoc,
        Nat.add_right_comm _ _ 1]

theorem rendering_bindings {forest : Visited C} (h : forest.Sound) (stem : String) :
    (forest.rendering stem).bindings = TagVisit.bindings stem 0 forest.handled := by
  unfold rendering
  simp only [labelled_recorder h, Option.map_some, Option.getD_some]
  rw [Recorder.advance, Recorder.start, List.nil_append]

theorem rendering_markup {forest : Visited C} (h : forest.Sound)
    (hmarker : ∀ t ∈ forest.handled, t.Unmarked) (stem : String) :
    (forest.rendering stem).markup = forest.pieces.fill (Recorder.markOf stem) 1 :=
  print_labelled_some h hmarker (.start stem)

end Visited

/-! ## Both kinds of renderings -/

namespace Renderer

/-- Both kinds of renderings end with the same fault, or succeed and leave the same press. The
markup with bindings is the one without, with the marker of its number in every tag that has
handlers; the bindings are the handlers of these tags. -/
theorem html_render_agree (B : Behaviour C σ) (settings : Settings) (elements : List (Value C))
    {press : Press σ} (reached : press.Reached C) :
    (∃ fault after, html B settings elements press = (.error fault, after) ∧
      render B settings elements press = (.error fault, after)) ∨
    ∃ forest visited markup rendering after,
      visitAll B Press.readAfresh settings elements press = (.ok forest, visited) ∧
      html B settings elements press = (.ok markup, after) ∧
      render B settings elements press = (.ok rendering, after) ∧
      visited.session = after.session ∧
      rendering.bindings = forest.handled.mapIdx (fun i t =>
        ⟨Recorder.idOf settings.idStem (i + 1), Table.ofPairs t.explicit.handlers⟩) ∧
      (∀ t ∈ forest.handled, t.explicit.Distinct →
        Table.ofPairs t.explicit.handlers = t.explicit.handlers) ∧
      markup = forest.pieces.fill (fun _ => "") 1 ∧
      ((∀ t ∈ forest.handled, t.Unmarked) →
        rendering.markup = forest.pieces.fill (Recorder.markOf settings.idStem) 1) ∧
      (forest.handled = [] → rendering = ⟨markup, []⟩) := by
  rw [html_eq, render_eq]
  cases hvisit : visitAll B Press.readStored settings elements press with
  | mk answer after =>
      cases answer with
      | error fault => exact Or.inl ⟨fault, after, rfl, rfl⟩
      | ok forest =>
          rcases visitAll_afresh reached hvisit with ⟨visited, hfresh, hsession⟩
          have hsound := visitAll_sound hfresh
          have hbindings := Visited.rendering_bindings hsound settings.idStem
          have hmarkup := Visited.print_labelled_none forest 1
          refine Or.inr ⟨forest, visited, (forest.labelled none).1.print,
            forest.rendering settings.idStem, after, hfresh, rfl, rfl, hsession, ?_, ?_, hmarkup,
            ?_, ?_⟩
          · rw [hbindings, TagVisit.bindings]
            simp only [Nat.zero_add]
            rfl
          · intro t _ hdistinct
            exact Table.ofPairs_of_nodup (Entries.nodup_names_handlers hdistinct)
          · intro hmarker
            exact Visited.rendering_markup hsound hmarker settings.idStem
          · intro hnone
            -- without handlers there are no slots, and both kinds fill them alike
            have hslots : forest.pieces.slots = 0 := by
              rw [Visited.slots_pieces, hnone, List.length_nil]
            have hfilled := Visited.rendering_markup hsound (by simp [hnone]) settings.idStem
            have hsame : (forest.rendering settings.idStem).markup =
                (forest.labelled none).1.print := by
              calc
                (forest.rendering settings.idStem).markup
                    = forest.pieces.fill (Recorder.markOf settings.idStem) 1 := hfilled
                _ = forest.pieces.fill (fun _ => "") 1 :=
                    Slotted.fill_eq_of_slots hslots _ _ 1 1
                _ = (forest.labelled none).1.print := hmarkup.symm
            have hempty : (forest.rendering settings.idStem).bindings = [] := by
              rw [hbindings, hnone]
              rfl
            rw [← hsame, ← hempty]

/-- Two tags with handlers, one of them void, and one with a value that cannot be called. -/
def handledTags : Value Nat :=
  .list [.str "form", .mapping [(.str "on:submit", .callable (.sample "send"))],
    .list [.str "input",
      .mapping [(.str "on:input", .callable (.sample "edit")),
        (.str "on:Blur", .callable (.sample "leave"))]],
    .list [.callable (.sample "Card"),
      .list [.str "b", .mapping [(.str "on:click", .int 1)], .str "z"]]]

theorem html_render_agree_handledTags :
    (Press.start 10 () : Press Unit).Reached Nat ∧
      (html .echo .standard [handledTags] (.start 10 ())).1.toOption =
        some "<form><input><b>z</b></form>" ∧
      ∃ rendering after,
        render .echo .standard [handledTags] (.start 10 ()) = (.ok rendering, after) ∧
        rendering.markup = "<form data-hiccpy-id=\"hiccpy-1\">" ++
          "<input data-hiccpy-id=\"hiccpy-2\"><b>z</b></form>" ∧
        rendering.bindings.map (fun b => (b.id, b.events.names)) =
          [("hiccpy-1", ["submit"]), ("hiccpy-2", ["input", "Blur"])] := by
  have hreached : (Press.start 10 () : Press Unit).Reached Nat := .start 10 ()
  have hplain : (html .echo .standard [handledTags] (.start 10 ())).1.toOption =
      some "<form><input><b>z</b></form>" := by
    decide +kernel
  rcases html_render_agree .echo .standard [handledTags] hreached with
    ⟨fault, after, hhtml, -⟩ |
    ⟨forest, visited, markup, rendering, after, hvisit, -, hrender, -, hbindings, -, -, hmarkup, -⟩
  · rw [hhtml] at hplain
    cases hplain
  · have hforest :
        (visitAll .echo Press.readAfresh .standard [handledTags] (.start 10 ())).1.toOption.map
          (fun forest => (decide (∀ t ∈ forest.handled, t.Unmarked),
            forest.pieces.fill (Recorder.markOf Settings.standard.idStem) 1,
            (TagVisit.bindings Settings.standard.idStem 0 forest.handled).map fun b =>
              (b.id, b.events.names))) =
        some (true, "<form data-hiccpy-id=\"hiccpy-1\">" ++
            "<input data-hiccpy-id=\"hiccpy-2\"><b>z</b></form>",
          [("hiccpy-1", ["submit"]), ("hiccpy-2", ["input", "Blur"])]) := by
      decide +kernel
    rw [hvisit] at hforest
    rcases Prod.mk.inj (Option.some.inj hforest) with ⟨hfree, hpair⟩
    rcases Prod.mk.inj hpair with ⟨hfilled, hevents⟩
    refine ⟨hreached, hplain, rendering, after, hrender, ?_, ?_⟩
    · rw [hmarkup (of_decide_eq_true hfree), hfilled]
    · rw [← hevents, hbindings, TagVisit.bindings]
      simp only [Nat.zero_add]
      rfl

end Renderer
end MarkupTree
