import Mathlib.Algebra.Ring.Nat
import Mathlib.Tactic.Choose
import MarkupTree.Proofs.Attach
import MarkupTree.Proofs.Places

/-!
# Embedding — renderings inside a rendering

The result of a rendering stands for its markup, so it can be put into another element, as a child
or in the place of the children. Its markup is written as it is, with the markers that are in it;
but ids are counted from one in every rendering. So the new ids are told apart among themselves,
and not from those inside.

* `markCount` is how many elements in markup answer to an id.
* `Made` are renderings that hold nothing verbatim but renderings of the same kind.
* `Renderer.embedding_shares_ids` counts the elements that answer to every id.
-/

namespace MarkupTree

variable {C σ : Type}

/-! ## Counting markers -/

/-- How many elements in markup answer to an id. -/
def markCount (id markup : String) : Nat :=
  (Text.places (Container.markerOf id).toList markup.toList).length

theorem hasElement_iff_markCount (container : Container C) (id : String) :
    container.hasElement id = true ↔ 0 < markCount id container.content := by
  unfold Container.hasElement markCount
  rw [Text.occursIn_iff_places, List.length_pos_iff]

namespace Run

/-- In clean runs an id is found as often as it is in a marker. -/
theorem markCount_printAll {rs : List Run} (hclean : ∀ run ∈ rs, run.Clean) (stem : String)
    (n : Nat) : markCount (Recorder.idOf stem n) (printAll rs) =
      (rs.filterMap markerId?).count (Recorder.idOf stem n) := by
  have hplaces := places_printAll hclean (Recorder.getLast?_escape_idOf stem n) (x := []) (by simp)
  rw [List.nil_append] at hplaces
  unfold markCount
  rw [hplaces, List.length_map, ← map_snd_markersFrom 0 rs, List.count, List.countP_map,
    List.countP_eq_length_filter]
  congr 1

end Run

/-- Markup in which markers can be counted: it is made of clean runs. -/
def CleanMarkup (markup : String) : Prop :=
  ∃ rs : List Run, (∀ run ∈ rs, run.Clean) ∧ Run.printAll rs = markup

/-! ## Runs of what is written as it is -/

def Leaf.verbatim? : Leaf → Option String
  | .text _ => none
  | .verbatim html => some html

namespace Forest

/-- What is written as it is, in document order. -/
def verbatims {T : Type} (F : Forest Leaf T) : List String :=
  F.leaves.filterMap Leaf.verbatim?

/-- The runs of a forest, where everything that is written as it is has runs of its own. -/
def expand (runsOf : String → List Run) : Forest Leaf Label → List Run
  | nil => []
  | leaf (.text s) rest => .plain (Text.escape s) :: rest.expand runsOf
  | leaf (.verbatim html) rest => runsOf html ++ rest.expand runsOf
  | node label inside rest =>
    label.runs ++ (inside.expand runsOf ++ (.plain label.closeTag :: rest.expand runsOf))

variable {runsOf : String → List Run}

theorem printAll_expand {F : Forest Leaf Label}
    (h : ∀ html ∈ F.verbatims, Run.printAll (runsOf html) = html) :
    Run.printAll (F.expand runsOf) = F.print := by
  induction F with
  | nil => rfl
  | leaf a rest ih =>
      cases a with
      | text s =>
          have hrest := ih h
          simp [expand, Run.printAll, Run.print, print, Leaf.print, hrest]
      | verbatim html =>
          have hfirst := h html (by simp [verbatims, leaves, Leaf.verbatim?])
          have hrest := ih fun html' hmem => h html' (List.mem_cons_of_mem _ hmem)
          simp [expand, print, Leaf.print, hfirst, hrest]
  | node label inside rest ihi ihr =>
      have hinside := ihi fun html hmem => h html (by
        simp only [verbatims, leaves, List.filterMap_append]
        exact List.mem_append_left _ hmem)
      have hrest := ihr fun html hmem => h html (by
        simp only [verbatims, leaves, List.filterMap_append]
        exact List.mem_append_right _ hmem)
      simp [expand, Label.runs, Run.printAll, Run.print, Run.printAll_attributes, print,
        Label.openTag, hinside, hrest, String.append_assoc]

theorem count_expand (F : Forest Leaf Label) (id : String) :
    ((F.expand runsOf).filterMap Run.markerId?).count id =
      F.markers.count id +
        (F.verbatims.map fun html => ((runsOf html).filterMap Run.markerId?).count id).sum := by
  induction F with
  | nil => rfl
  | leaf a rest ih =>
      rw [markers_leaf]
      cases a with
      | text s => exact ih
      | verbatim html =>
          have hverbatims : (leaf (.verbatim html) rest : Forest Leaf Label).verbatims =
              html :: rest.verbatims := rfl
          rw [hverbatims, List.map_cons, List.sum_cons]
          simp only [expand, List.filterMap_append, List.count_append, ih]
          omega
  | node label inside rest ihi ihr =>
      have hverbatims : (node label inside rest).verbatims =
          inside.verbatims ++ rest.verbatims := List.filterMap_append
      rw [markers_node, hverbatims, List.map_append, List.sum_append]
      simp only [expand, List.filterMap_append, Run.filterMap_plain, List.count_append, ihi, ihr,
        Label.markers]
      omega

theorem clean_expand {F : Forest Leaf Label}
    (hlabels : ∀ label ∈ F.labels,
      (∀ run ∈ label.runs, run.Clean) ∧ Run.Clean (.plain label.closeTag))
    (hverbatims : ∀ html ∈ F.verbatims, ∀ run ∈ runsOf html, run.Clean) :
    ∀ run ∈ F.expand runsOf, run.Clean := by
  induction F with
  | nil => simp [expand]
  | leaf a rest ih =>
      intro run hrun
      cases a with
      | text s =>
          rcases List.mem_cons.1 hrun with rfl | hrest
          · exact Run.clean_text s
          · exact ih hlabels hverbatims run hrest
      | verbatim html =>
          rcases List.mem_append.1 hrun with hfirst | hrest
          · exact hverbatims html (List.mem_cons_self ..) run hfirst
          · exact ih hlabels (fun html' hmem => hverbatims html' (List.mem_cons_of_mem _ hmem))
              run hrest
  | node label inside rest ihi ihr =>
      have hverbatims' : (node label inside rest).verbatims =
          inside.verbatims ++ rest.verbatims := List.filterMap_append
      rw [hverbatims'] at hverbatims
      have hinside := ihi (fun label' hmem => hlabels label' (by simp [labels, hmem]))
        fun html hmem => hverbatims html (List.mem_append_left _ hmem)
      have hrest := ihr (fun label' hmem => hlabels label' (by simp [labels, hmem]))
        fun html hmem => hverbatims html (List.mem_append_right _ hmem)
      have hlabel := hlabels label (by simp [labels])
      intro run hrun
      rcases List.mem_append.1 hrun with hopen | hrun
      · exact hlabel.1 run hopen
      · rcases List.mem_append.1 hrun with hin | hrun
        · exact hinside run hin
        · rcases List.mem_cons.1 hrun with rfl | hbehind
          · exact hlabel.2
          · exact hrest run hbehind

/-- If all that is written as it is has clean runs, so has the whole forest; and an id is found as
often as in the markers of the forest and in all that is written as it is. -/
theorem markCount_print {F : Forest Leaf Label}
    (hlabels : ∀ label ∈ F.labels,
      (∀ run ∈ label.runs, run.Clean) ∧ Run.Clean (.plain label.closeTag))
    (hverbatims : ∀ html ∈ F.verbatims, CleanMarkup html) :
    CleanMarkup F.print ∧ ∀ stem n, markCount (Recorder.idOf stem n) F.print =
      F.markers.count (Recorder.idOf stem n) +
        (F.verbatims.map (markCount (Recorder.idOf stem n))).sum := by
  have hruns : ∀ html, ∃ rs : List Run,
      html ∈ F.verbatims → (∀ run ∈ rs, run.Clean) ∧ Run.printAll rs = html := by
    intro html
    by_cases hmem : html ∈ F.verbatims
    · rcases hverbatims html hmem with ⟨rs, hrs⟩
      exact ⟨rs, fun _ => hrs⟩
    · exact ⟨[], fun hin => absurd hin hmem⟩
  choose runsOf hrunsOf using hruns
  have hclean := clean_expand hlabels fun html hmem => (hrunsOf html hmem).1
  have hprint := printAll_expand fun html hmem => (hrunsOf html hmem).2
  refine ⟨⟨_, hclean, hprint⟩, ?_⟩
  intro stem n
  rw [← hprint, Run.markCount_printAll hclean, count_expand]
  congr 2
  apply List.map_congr_left
  intro html hmem
  rw [← Run.markCount_printAll (hrunsOf html hmem).1, (hrunsOf html hmem).2]

end Forest

/-! ## Ids of a rendering -/

namespace Visited

/-- The ids are numbered from one, whatever else is in the markup. -/
theorem ids_rendering {forest : Visited C} (h : forest.Sound) (stem : String) :
    (forest.rendering stem).bindings.map Binding.id =
      (List.range (forest.rendering stem).bindings.length).map fun k =>
        Recorder.idOf stem (k + 1) := by
  have hids := TagVisit.ids_bindings stem 0 forest.handled
  have hlength : (TagVisit.bindings stem 0 forest.handled).length = forest.handled.length := by
    simp [TagVisit.bindings]
  simp only [Nat.zero_add] at hids
  rw [rendering_bindings h, hlength, hids]

theorem mem_ids_rendering {forest : Visited C} (h : forest.Sound) (stem : String) (k : Nat) :
    Recorder.idOf stem (k + 1) ∈ (forest.rendering stem).bindings.map Binding.id ↔
      k < (forest.rendering stem).bindings.length := by
  rw [ids_rendering h]
  constructor
  · intro hmem
    rcases List.mem_map.1 hmem with ⟨i, hi, hid⟩
    have hsame := Recorder.eq_of_idOf_eq hid
    have hlt := List.mem_range.1 hi
    omega
  · intro hlt
    exact List.mem_map.2 ⟨k, List.mem_range.2 hlt, rfl⟩

theorem count_ids_rendering {forest : Visited C} (h : forest.Sound) (stem : String) (k : Nat) :
    ((forest.rendering stem).bindings.map Binding.id).count (Recorder.idOf stem (k + 1)) =
      if k < (forest.rendering stem).bindings.length then 1 else 0 := by
  have hnodup : ((forest.rendering stem).bindings.map Binding.id).Nodup := by
    rw [rendering_bindings h]
    exact TagVisit.nodup_ids stem 0 forest.handled
  rw [hnodup.count]
  simp only [mem_ids_rendering h]

/-! ## What is inside a rendering -/

/-- All explicit keys are plain names that do not end with the marker, and this is what is written
as it is. -/
structure Holds (forest : Visited C) (markups : List String) : Prop where
  plain_keys : ∀ t ∈ forest.labels, ∀ e ∈ t.explicit, isPlainName e.1.text = true
  unforged : ∀ t ∈ forest.labels, t.Unforged
  verbatims_eq : forest.verbatims = markups

instance (forest : Visited C) (markups : List String) : Decidable (forest.Holds markups) :=
  decidable_of_iff
    ((∀ t ∈ forest.labels, ∀ e ∈ t.explicit, isPlainName e.1.text = true) ∧
      (∀ t ∈ forest.labels, t.Unforged) ∧ forest.verbatims = markups)
    ⟨fun h => ⟨h.1, h.2.1, h.2.2⟩, fun h => ⟨h.1, h.2, h.3⟩⟩

theorem Holds.markCount_rendering {forest : Visited C} {markups : List String}
    (hholds : forest.Holds markups) (h : forest.Sound) (stem : String)
    (hmarkups : ∀ html ∈ markups, CleanMarkup html) :
    CleanMarkup (forest.rendering stem).markup ∧
      ∀ k, markCount (Recorder.idOf stem (k + 1)) (forest.rendering stem).markup =
        (if k < (forest.rendering stem).bindings.length then 1 else 0) +
          (markups.map (markCount (Recorder.idOf stem (k + 1)))).sum := by
  have hverbatims : (forest.labelled (some (.start stem))).1.verbatims = markups := by
    rw [← hholds.verbatims_eq]
    exact congrArg (List.filterMap Leaf.verbatim?) (Forest.leaves_thread _ _ forest)
  have hown : (forest.labelled (some (.start stem))).1.markers =
      (forest.rendering stem).bindings.map Binding.id := by
    rw [rendering_bindings h]
    exact markers_eq h hholds.unforged (.start stem)
  have hlabels := clean_labels h hholds.plain_keys hholds.unforged (some (.start stem))
  rcases Forest.markCount_print hlabels (hverbatims.symm ▸ hmarkups) with ⟨hclean, hcount⟩
  refine ⟨hclean, ?_⟩
  intro k
  have hprint := hcount stem (k + 1)
  rw [hown, hverbatims, count_ids_rendering h] at hprint
  exact hprint

end Visited

/-! ## Renderings made of renderings -/

namespace Renderer

/-- Renderings with these settings in which everything that is written as it is is the markup of
another such rendering. The numbers are how many bindings it has, and then how many each of those
inside has, at any depth. -/
inductive Made (settings : Settings) : Rendering C → List Nat → Prop
  | render {σ : Type} {B : Behaviour C σ} {elements : List (Value C)}
      {press after visited : Press σ} {rendering : Rendering C} {forest : Visited C}
      (parts : List (Rendering C × List Nat)) :
      press.Reached C →
      Renderer.render B settings elements press = (.ok rendering, after) →
      visitAll B Press.readAfresh settings elements press = (.ok forest, visited) →
      forest.Holds (parts.map (·.1.markup)) →
      (∀ part ∈ parts, Made settings part.1 part.2) →
      Made settings rendering (rendering.bindings.length :: parts.flatMap (·.2))

/-- The markup is clean, and the id with a number is found once for each of these sizes that
reaches so far. -/
def Counted (settings : Settings) (part : Rendering C × List Nat) : Prop :=
  CleanMarkup part.1.markup ∧
    ∀ k, markCount (Recorder.idOf settings.idStem (k + 1)) part.1.markup =
      part.2.countP fun n => k < n

variable {B : Behaviour C σ} {settings : Settings} {elements : List (Value C)}
  {press after : Press σ} {rendering : Rendering C}

/-- A rendering adds its own bindings to those of the renderings inside. -/
theorem counted_render {forest : Visited C} {visited : Press σ} (reached : press.Reached C)
    (hrender : render B settings elements press = (.ok rendering, after))
    (hvisit : visitAll B Press.readAfresh settings elements press = (.ok forest, visited))
    {parts : List (Rendering C × List Nat)} (hholds : forest.Holds (parts.map (·.1.markup)))
    (hparts : ∀ part ∈ parts, Counted settings part) :
    Counted settings (rendering, rendering.bindings.length :: parts.flatMap (·.2)) := by
  rcases visit_of_render reached hrender with ⟨forest', visited', hvisit', -, rfl⟩
  rw [hvisit] at hvisit'
  cases hvisit'
  have hmarkups : ∀ html ∈ parts.map (·.1.markup), CleanMarkup html := by
    intro html hhtml
    rcases List.mem_map.1 hhtml with ⟨part, hpart, rfl⟩
    exact (hparts part hpart).1
  rcases hholds.markCount_rendering (visitAll_sound hvisit) settings.idStem hmarkups with
    ⟨hclean, hcount⟩
  refine ⟨hclean, ?_⟩
  intro k
  have hsum : (parts.map (·.1.markup)).map (markCount (Recorder.idOf settings.idStem (k + 1))) =
      parts.map fun part => part.2.countP fun n => k < n := by
    rw [List.map_map]
    exact List.map_congr_left fun part hpart => (hparts part hpart).2 k
  rw [hcount k, hsum, List.countP_cons, List.countP_flatMap, Nat.add_comm]
  simp only [decide_eq_true_eq]
  rfl

theorem Made.counted {sizes : List Nat} (h : Made settings rendering sizes) :
    Counted settings (rendering, sizes) := by
  induction h with
  | render parts reached hrender hvisit hholds _ ih =>
      exact counted_render reached hrender hvisit hholds ih

end Renderer

/-! ## Handlers after attaching -/

/-- An id and an event find the handlers of the first binding with this id. -/
theorem Container.handlers_rows (bs : List (Binding C)) (key content id event : String) :
    handlers ⟨key, content, bs.map Binding.row⟩ id event =
      ((bs.find? fun b => b.id = id).bind fun b => b.events.get? event).toList := by
  have hevents : ∀ events : Table (Callable (Value C) C),
      Table.get? event (events.map fun e => (e.1, [e.2])) = (events.get? event).map ([·]) := by
    intro events
    induction events with
    | nil => rfl
    | cons e rest ih =>
        by_cases he : e.1 = event
        · simp [Table.get?, he]
        · simpa [Table.get?, he] using ih
  unfold handlers
  induction bs with
  | nil => rfl
  | cons b rest ih =>
      by_cases hb : b.id = id
      · have hrow : Table.get? id ((b :: rest).map Binding.row) = some b.row.2 := by
          simp [Table.get?, Binding.row, hb]
        simp only [hrow, Option.bind_some, List.find?_cons, hb, decide_true]
        rw [Binding.row, hevents]
        cases b.events.get? event <;> rfl
      · have hrow : Table.get? id ((b :: rest).map Binding.row) =
            Table.get? id (rest.map Binding.row) := by
          simp [Table.get?, Binding.row, hb]
        simpa only [hrow, List.find?_cons, hb, decide_false] using ih

namespace Surface

variable {B : Behaviour C σ} {settings : Settings} {elements : List (Value C)}
  {press after : Press σ} {rendering : Rendering C}

/-- Attaching a rendering puts its markup and a row for every binding into the container. -/
theorem attach_rows (reached : press.Reached C)
    (hrender : Renderer.render B settings elements press = (.ok rendering, after))
    {s : Surface C} {reference : Reference C} {handle : Nat} {container : Container C}
    (hresolve : s.resolve reference = .ok (handle, container)) :
    s.attach reference rendering.markup rendering.bindings =
      .ok (handle, s.update handle
          ⟨container.key, rendering.markup, rendering.bindings.map Binding.row⟩,
        [.attached rendering.bindings.length container.key]) := by
  rcases Renderer.visit_of_render reached hrender with ⟨forest, visited, hvisit, -, rfl⟩
  have hsound := Renderer.visitAll_sound hvisit
  have hpresent := Visited.hasElement_of_mem hsound settings.idStem container
  have hrecorded : Binding.Recorded (forest.rendering settings.idStem).bindings := by
    rw [Visited.rendering_bindings hsound]
    apply TagVisit.recorded_bindings
    intro t ht
    exact (List.mem_filter.1 ht).2
  rw [attach_apply hresolve, Container.attach_eq hrecorded _ container hpresent,
    Container.attachNotices_eq _ container hpresent]

end Surface

/-! ## Ids that are used twice -/

namespace Renderer

variable {B : Behaviour C σ} {settings : Settings} {elements : List (Value C)}
  {press after : Press σ} {rendering : Rendering C}

/-- Whatever it holds, a rendering with so many bindings has a marker for every number so far. -/
theorem markCount_pos_of_render (reached : press.Reached C)
    (hrender : render B settings elements press = (.ok rendering, after)) {k : Nat}
    (hk : k < rendering.bindings.length) :
    0 < markCount (Recorder.idOf settings.idStem (k + 1)) rendering.markup := by
  rcases visit_of_render reached hrender with ⟨forest, visited, hvisit, -, rfl⟩
  have hsound := visitAll_sound hvisit
  have hmem := (Visited.mem_ids_rendering hsound settings.idStem k).2 hk
  rcases List.mem_map.1 hmem with ⟨b, hb, hid⟩
  have hfound := Visited.hasElement_of_mem hsound settings.idStem ⟨"", "", []⟩ b hb
  rw [hasElement_iff_markCount, hid] at hfound
  exact hfound

/-- New ids are not in use inside exactly if there are none, or none inside. -/
theorem apart_iff {ids : List String} {n : Nat}
    (hids : ids = (List.range n).map fun k => Recorder.idOf settings.idStem (k + 1))
    {parts : List (Rendering C × List Nat)} (hparts : ∀ part ∈ parts, Counted settings part) :
    (∀ id ∈ ids, ∀ part ∈ parts, markCount id part.1.markup = 0) ↔
      n = 0 ∨ ∀ part ∈ parts, ∀ size ∈ part.2, size = 0 := by
  constructor
  · intro hapart
    by_cases hn : n = 0
    · exact Or.inl hn
    · -- the first id is given out, so it is not inside, so no size reaches it
      refine Or.inr ?_
      intro part hpart size hsize
      have hfirst : Recorder.idOf settings.idStem (0 + 1) ∈ ids := by
        rw [hids]
        exact List.mem_map.2 ⟨0, List.mem_range.2 (Nat.pos_of_ne_zero hn), rfl⟩
      have hnone := hapart _ hfirst part hpart
      rw [(hparts part hpart).2 0, List.countP_eq_zero] at hnone
      simpa using hnone size hsize
  · rintro (rfl | hzero) id hid part hpart
    · rw [hids] at hid
      cases hid
    · rw [hids] at hid
      rcases List.mem_map.1 hid with ⟨k, -, rfl⟩
      rw [(hparts part hpart).2 k, List.countP_eq_zero]
      intro size hsize
      simp [hzero part hpart size hsize]

/-- Ids are counted from one in every rendering, so renderings inside another use the same ids
again. The id with a number is found once for the binding with this number, and once for every
rendering inside with so many bindings; and an event on any of these elements calls the handlers
of the outer binding. Handlers are kept apart exactly if there are none outside or none inside. -/
theorem embedding_shares_ids (reached : press.Reached C)
    (hrender : render B settings elements press = (.ok rendering, after)) :
    ∃ forest visited,
      visitAll B Press.readAfresh settings elements press = (.ok forest, visited) ∧
      visited.session = after.session ∧
      rendering.bindings.map Binding.id = (List.range rendering.bindings.length).map
        (fun k => Recorder.idOf settings.idStem (k + 1)) ∧
      (∀ k, k < rendering.bindings.length →
        0 < markCount (Recorder.idOf settings.idStem (k + 1)) rendering.markup) ∧
      (∀ parts : List (Rendering C × List Nat), forest.Holds (parts.map (·.1.markup)) →
        (∀ part ∈ parts, Made settings part.1 part.2) →
        (∀ k, markCount (Recorder.idOf settings.idStem (k + 1)) rendering.markup =
          (if k < rendering.bindings.length then 1 else 0) +
            (parts.flatMap (·.2)).countP fun size => k < size) ∧
        (∀ part ∈ parts, ∀ k,
          markCount (Recorder.idOf settings.idStem (k + 1)) part.1.markup =
            part.2.countP fun size => k < size) ∧
        ((∀ b ∈ rendering.bindings, ∀ part ∈ parts, markCount b.id part.1.markup = 0) ↔
          rendering.bindings = [] ∨ ∀ part ∈ parts, ∀ size ∈ part.2, size = 0)) ∧
      ∀ {s : Surface C} {reference : Reference C} {handle : Nat} {container : Container C},
        s.resolve reference = .ok (handle, container) →
        ∃ attached : Container C,
          s.attach reference rendering.markup rendering.bindings =
            .ok (handle, s.update handle attached,
              [.attached rendering.bindings.length container.key]) ∧
          attached.content = rendering.markup ∧
          ∀ id event,
            attached.handlers id event =
              ((rendering.bindings.find? fun b => b.id = id).bind fun b =>
                b.events.get? event).toList ∧
            ∀ {τ : Type} (B' : Behaviour C τ) (v : Value C),
              (s.update handle attached).dispatch B' reference id event v =
                (attached.handlers id event).mapM fun f => Session.callHandler B' f v := by
  rcases visit_of_render reached hrender with ⟨forest, visited, hvisit, hsession, heq⟩
  have hids : rendering.bindings.map Binding.id = (List.range rendering.bindings.length).map
      fun k => Recorder.idOf settings.idStem (k + 1) := by
    rw [heq]
    exact Visited.ids_rendering (visitAll_sound hvisit) settings.idStem
  refine ⟨forest, visited, hvisit, hsession, hids, ?_, ?_, ?_⟩
  · exact fun k hk => markCount_pos_of_render reached hrender hk
  · intro parts hholds hmade
    have hparts : ∀ part ∈ parts, Counted settings part :=
      fun part hpart => (hmade part hpart).counted
    have hcounted := counted_render reached hrender hvisit hholds hparts
    refine ⟨?_, fun part hpart => (hparts part hpart).2, ?_⟩
    · intro k
      rw [hcounted.2 k, List.countP_cons, Nat.add_comm]
      simp only [decide_eq_true_eq]
    · have hapart := apart_iff hids hparts
      rw [List.forall_mem_map, List.length_eq_zero_iff] at hapart
      exact hapart
  · intro s reference handle container hresolve
    refine ⟨_, Surface.attach_rows reached hrender hresolve, rfl, ?_⟩
    intro id event
    have hafter := Surface.resolve_update hresolve
      ⟨container.key, rendering.markup, rendering.bindings.map Binding.row⟩
    refine ⟨Container.handlers_rows _ _ _ id event, ?_⟩
    intro τ B' v
    exact Surface.dispatch_apply B' hafter id event v

/-- A tag with a handler around something. -/
def around (handler : String) (inside : Value Nat) : Value Nat :=
  .list [.str "div", .mapping [(.str "on:click", .callable (.sample handler))], inside]

theorem Made.of_holds {rendering : Rendering C} {sizes : List Nat} (reached : press.Reached C)
    (hrender : (Renderer.render B settings elements press).1.toOption = some rendering)
    (parts : List (Rendering C × List Nat))
    (hholds : (visitAll B Press.readAfresh settings elements press).1.toOption.map
      (fun forest => decide (forest.Holds (parts.map (·.1.markup)))) = some true)
    (hparts : ∀ part ∈ parts, Made settings part.1 part.2)
    (hsizes : rendering.bindings.length :: parts.flatMap (·.2) = sizes) :
    Made settings rendering sizes := by
  rcases Option.map_eq_some_iff.1 hholds with ⟨forest, hforest, hdecide⟩
  rw [← hsizes]
  exact .render parts reached (Attempt.apply_eq_of_toOption hrender)
    (Attempt.apply_eq_of_toOption hforest) (of_decide_eq_true hdecide) hparts

def innerMarkupText : String :=
  "<div data-hiccpy-id=\"hiccpy-1\">x</div>"

/-- An earlier rendering of one tag with a handler. -/
def earlier (markup handler : String) : Value Nat :=
  Rendering.toValue ⟨markup, [⟨"hiccpy-1", [("click", .sample handler)]⟩]⟩

/-- A tag with a handler and an earlier rendering in the place of its children. -/
def middleTag : Value Nat :=
  .list [.str "p", .mapping [(.str "on:click", .callable (.sample "middle")),
    (.str "dangerouslySetInnerHTML", earlier innerMarkupText "inner")]]

def middleMarkup : String :=
  "<p data-hiccpy-id=\"hiccpy-1\">" ++ innerMarkupText ++ "</p>"

/-- Two tags with handlers and two earlier renderings, one of which holds the other. -/
def nestedRenderings : Value Nat :=
  .list [around "first" (earlier innerMarkupText "inner"), around "second" (.str "y"),
    earlier middleMarkup "middle"]

theorem embedding_shares_ids_nestedRenderings :
    (Press.start 10 () : Press Unit).Reached Nat ∧
      ∃ outer after,
        render .echo .standard [nestedRenderings] (.start 10 ()) = (.ok outer, after) ∧
        outer.bindings.map Binding.id = ["hiccpy-1", "hiccpy-2"] ∧
        markCount "hiccpy-1" outer.markup = 4 ∧ markCount "hiccpy-2" outer.markup = 1 := by
  have hreached : (Press.start 10 () : Press Unit).Reached Nat := .start 10 ()
  have hinner : (render .echo .standard [around "inner" (.str "x")] (.start 10 ())).1.toOption.map
      (fun r => (r.markup, r.bindings.length)) = some (innerMarkupText, 1) := by
    decide +kernel
  have hmiddle : (render .echo .standard [middleTag] (.start 10 ())).1.toOption.map
      (fun r => (r.markup, r.bindings.length)) = some (middleMarkup, 1) := by
    decide +kernel
  have houter : (render .echo .standard [nestedRenderings] (.start 10 ())).1.toOption.map
      (fun r => r.bindings.length) = some 2 := by
    decide +kernel
  rcases Option.map_eq_some_iff.1 hinner with ⟨inner, hinner, hview⟩
  rcases Prod.mk.inj hview with ⟨hinnerMarkup, hinnerLength⟩
  rcases Option.map_eq_some_iff.1 hmiddle with ⟨middle, hmiddle, hview⟩
  rcases Prod.mk.inj hview with ⟨hmiddleMarkup, hmiddleLength⟩
  rcases Option.map_eq_some_iff.1 houter with ⟨outer, houter, hlength⟩
  have hinnerHolds : (visitAll .echo Press.readAfresh .standard [around "inner" (.str "x")]
      (.start 10 ())).1.toOption.map (fun forest => decide (forest.Holds [])) = some true := by
    decide +kernel
  have hmiddleHolds : (visitAll .echo Press.readAfresh .standard [middleTag]
      (.start 10 ())).1.toOption.map (fun forest => decide (forest.Holds [innerMarkupText])) =
        some true := by
    decide +kernel
  rw [← hinnerMarkup] at hmiddleHolds
  have hinnerMade : Made .standard inner [1] :=
    .of_holds hreached hinner [] hinnerHolds (by simp) (by simp [hinnerLength])
  have hmiddleMade : Made .standard middle [1, 1] :=
    .of_holds hreached hmiddle [(inner, [1])] hmiddleHolds (by simpa using hinnerMade)
      (by simp [hmiddleLength])
  have hrender := Attempt.apply_eq_of_toOption houter
  obtain ⟨forest, visited, hvisit, -, hids, -, hinside, -⟩ := embedding_shares_ids hreached hrender
  have hholds : (visitAll .echo Press.readAfresh .standard [nestedRenderings]
      (.start 10 ())).1.toOption.map (fun forest =>
        decide (forest.Holds [innerMarkupText, middleMarkup])) = some true := by
    decide +kernel
  rw [hvisit] at hholds
  have hparts := of_decide_eq_true (Option.some.inj hholds)
  rw [← hinnerMarkup, ← hmiddleMarkup] at hparts
  obtain ⟨hcount, -⟩ := hinside [(inner, [1]), (middle, [1, 1])] hparts
    (by simpa using ⟨hinnerMade, hmiddleMade⟩)
  rw [hlength] at hids hcount
  exact ⟨hreached, outer, _, hrender, hids, hcount 0, hcount 1⟩

/-- Rendered, and put into a tag with a handler, an element answers to the id of that tag: events
on it call the handler of the tag. -/
def Collides (inside : Value Nat) : Prop :=
  ∃ inner outer between after,
    render .echo .standard [inside] (.start 10 ()) = (.ok inner, between) ∧
    render .echo .standard [around "outer" inner.toValue] between =
      (.ok outer, after) ∧
    outer.bindings.map Binding.id = ["hiccpy-1"] ∧
    markCount "hiccpy-1" inner.markup = 1 ∧ markCount "hiccpy-1" outer.markup = 2 ∧
    ((Container.attach outer.markup outer.bindings ⟨"app", "", []⟩).handlers
      "hiccpy-1" "click").map Callable.name = ["outer"]

/-- What is left of both renderings when they are looked at from outside. -/
def collision (inside : Value Nat) : Option (List String × List Nat × List String) := do
  let (answer, between) := render .echo .standard [inside] (.start 10 ())
  let inner ← answer.toOption
  let outer ← (render .echo .standard [around "outer" inner.toValue]
    between).1.toOption
  let container : Container Nat := .attach outer.markup outer.bindings ⟨"app", "", []⟩
  return (outer.bindings.map Binding.id,
    [markCount "hiccpy-1" inner.markup, markCount "hiccpy-1" outer.markup],
    (container.handlers "hiccpy-1" "click").map Callable.name)

theorem collides_of_collision {inside : Value Nat}
    (h : collision inside = some (["hiccpy-1"], [1, 2], ["outer"])) : Collides inside := by
  unfold collision at h
  rcases Option.bind_eq_some_iff.1 h with ⟨inner, hinner, hrest⟩
  rcases Option.bind_eq_some_iff.1 hrest with ⟨outer, houter, hview⟩
  simp only [Option.pure_def, Option.some.injEq, Prod.mk.injEq, List.cons.injEq, and_true] at hview
  exact ⟨inner, outer, _, _, Attempt.apply_eq_of_toOption hinner,
    Attempt.apply_eq_of_toOption houter, hview.1, hview.2.1.1, hview.2.1.2, hview.2.2⟩

/-- Embedding does not keep handlers apart: not from an earlier rendering with a handler of its
own, and not from one that holds a marker by foreign markup or by an explicit key. -/
theorem embedding_collides :
    Collides (around "inner" (.str "x")) ∧
      Collides (.safe "<i data-hiccpy-id=\"hiccpy-1\"></i>") ∧
      Collides (.list [.str "i", .mapping [(.str "data-hiccpy-id", .str "hiccpy-1")]]) :=
  ⟨collides_of_collision (by decide +kernel), collides_of_collision (by decide +kernel),
    collides_of_collision (by decide +kernel)⟩

end Renderer
end MarkupTree
