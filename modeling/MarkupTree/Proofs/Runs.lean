import MarkupTree.Proofs.Marking

/-!
# Runs — markup as plain stretches and fields

Markup is a list of runs: attributes with a value, which are fields, and the stretches between
them. A marker is a field with a name of its own. So the markers of a forest can be read off its
runs, whatever else it holds.

* `Forest.runs` are the runs of a forest, `Forest.markers` the ids of its markers.
* `Visited.sublist_markers` finds the ids of all bindings among them.
-/

namespace MarkupTree

variable {C σ : Type}

/-! ## Runs -/

/-- A stretch of markup. -/
inductive Run
  | plain (s : String)
  | field (name value : String)

namespace Run

def print : Run → String
  | plain s => s
  | field name value => printAttribute (name, some value)

def printAll : List Run → String
  | [] => ""
  | run :: rest => run.print ++ printAll rest

@[simp]
theorem printAll_append (rs qs : List Run) : printAll (rs ++ qs) = printAll rs ++ printAll qs := by
  induction rs with
  | nil => simp [printAll]
  | cons run rest ih => simp [printAll, ih, String.append_assoc]

def ofAttribute : String × Option String → Run
  | (name, none) => plain (printAttribute (name, none))
  | (name, some value) => field name value

theorem printAll_attributes (attributes : List (String × Option String)) :
    printAll (attributes.map ofAttribute) = printAttributes attributes := by
  induction attributes with
  | nil => rfl
  | cons p rest ih =>
      rcases p with ⟨name, _ | value⟩
      · simp [printAll, printAttributes, ofAttribute, print, ih]
      · simp [printAll, printAttributes, ofAttribute, print, ih]

/-- The id that a marker holds. -/
def markerId? : Run → Option String
  | plain _ => none
  | field name value => if name = Vocabulary.marker then some value else none

@[simp]
theorem filterMap_plain (s : String) (rs : List Run) :
    (plain s :: rs).filterMap markerId? = rs.filterMap markerId? := rfl

theorem eq_of_markerId? {run : Run} {id : String} (h : run.markerId? = some id) :
    run = field Vocabulary.marker id := by
  cases run with
  | plain s => cases h
  | field name value =>
      by_cases hname : name = Vocabulary.marker
      · simp only [markerId?, hname, if_true, Option.some.injEq] at h
        rw [hname, h]
      · simp [markerId?, hname] at h

theorem print_marker (id : String) :
    (field Vocabulary.marker id).print = " " ++ Container.markerOf id := by
  simp [print, printAttribute, Container.markerOf, String.append_assoc]

/-- Whoever holds a marker shows it in the markup. -/
theorem markerOf_infix {rs : List Run} {id : String} (h : id ∈ rs.filterMap markerId?) :
    (Container.markerOf id).toList <:+: (printAll rs).toList := by
  rcases List.mem_filterMap.1 h with ⟨run, hmem, hid⟩
  rcases List.append_of_mem hmem with ⟨front, back, rfl⟩
  rw [eq_of_markerId? hid]
  -- in front of the marker stand the runs before it and one space
  refine ⟨(printAll front).toList ++ [' '], (printAll back).toList, ?_⟩
  have hprint := congrArg String.toList (print_marker id)
  simp only [printAll_append, printAll, String.toList_append, hprint]
  simp

end Run

/-! ## The runs of a forest -/

def Label.runs (label : Label) : List Run :=
  .plain ("<" ++ label.name) :: (label.attributes.map Run.ofAttribute ++ [.plain ">"])

def Label.markers (label : Label) : List String :=
  label.runs.filterMap Run.markerId?

namespace Forest

def runs : Forest Leaf Label → List Run
  | nil => []
  | leaf a rest => .plain a.print :: rest.runs
  | node label inside rest =>
    label.runs ++ (inside.runs ++ (.plain label.closeTag :: rest.runs))

/-- The ids in the markers of a forest, in document order. -/
def markers (F : Forest Leaf Label) : List String :=
  F.runs.filterMap Run.markerId?

theorem printAll_runs (F : Forest Leaf Label) : Run.printAll F.runs = F.print := by
  induction F with
  | nil => rfl
  | leaf a rest ih => simp [runs, Run.printAll, Run.print, print, ih]
  | node label inside rest ihi ihr =>
      simp [runs, Label.runs, Run.printAll, Run.print, Run.printAll_attributes, print,
        Label.openTag, ihi, ihr, String.append_assoc]

theorem markers_leaf (a : Leaf) (rest : Forest Leaf Label) :
    (leaf a rest).markers = rest.markers := by
  simp [markers, runs]

theorem markers_node (label : Label) (inside rest : Forest Leaf Label) :
    (node label inside rest).markers = label.markers ++ (inside.markers ++ rest.markers) := by
  simp [markers, Label.markers, runs]

end Forest

theorem Forest.mem_runs {F : Forest Leaf Label} {run : Run} (h : run ∈ F.runs) :
    (∃ a ∈ F.leaves, run = .plain a.print) ∨
      ∃ label ∈ F.labels, run ∈ label.runs ∨ run = .plain label.closeTag := by
  induction F with
  | nil => cases h
  | leaf a rest ih =>
      rcases List.mem_cons.1 h with rfl | hrest
      · exact Or.inl ⟨a, by simp [leaves], rfl⟩
      · rcases ih hrest with ⟨b, hb, hrun⟩ | hlabel
        · exact Or.inl ⟨b, List.mem_cons_of_mem _ hb, hrun⟩
        · exact Or.inr hlabel
  | node label inside rest ihi ihr =>
      rcases List.mem_append.1 h with hopen | h
      · exact Or.inr ⟨label, by simp [labels], Or.inl hopen⟩
      · rcases List.mem_append.1 h with hinside | h
        · rcases ihi hinside with ⟨a, ha, hrun⟩ | ⟨label', hlabel, hrun⟩
          · exact Or.inl ⟨a, by simp [leaves, ha], hrun⟩
          · exact Or.inr ⟨label', by simp [labels, hlabel], hrun⟩
        · rcases List.mem_cons.1 h with rfl | hrest
          · exact Or.inr ⟨label, by simp [labels], Or.inr rfl⟩
          · rcases ihr hrest with ⟨a, ha, hrun⟩ | ⟨label', hlabel, hrun⟩
            · exact Or.inl ⟨a, by simp [leaves, ha], hrun⟩
            · exact Or.inr ⟨label', by simp [labels, hlabel], hrun⟩

namespace Label

theorem markers_eq (label : Label) : label.markers =
    label.attributes.filterMap fun p => Run.markerId? (Run.ofAttribute p) := by
  simp only [markers, runs, Run.filterMap_plain, List.filterMap_append, List.filterMap_map,
    List.filterMap_nil, List.append_nil]
  rfl

theorem mem_markers {label : Label} {id : String} :
    id ∈ label.markers ↔ (Vocabulary.marker, some id) ∈ label.attributes := by
  rw [markers_eq, List.mem_filterMap]
  constructor
  · rintro ⟨⟨name, _ | value⟩, hmem, hid⟩
    · cases hid
    · have hfield := Run.eq_of_markerId? hid
      cases hfield
      exact hmem
  · intro hmem
    exact ⟨_, hmem, by simp [Run.ofAttribute, Run.markerId?]⟩

end Label

/-! ## The markers of a visited forest -/

namespace Visited

/-- The ids of a forest stand to the markers as those of every single tag do. The relation goes
along with putting lists together. -/
theorem markers_related {R : List String → List String → Prop} (hnil : R [] [])
    (happend : ∀ {as bs cs ds}, R as bs → R cs ds → R (as ++ cs) (bs ++ ds))
    {forest : Visited C} (h : forest.Sound)
    (htag : ∀ t ∈ forest.labels, ∀ r : Recorder C,
      R ((TagVisit.bindings r.stem r.issued ([t].filter TagVisit.isHandled)).map Binding.id)
        (t.label (some r)).1.markers)
    (r : Recorder C) :
    R ((TagVisit.bindings r.stem r.issued forest.handled).map Binding.id)
      (forest.labelled (some r)).1.markers := by
  induction forest generalizing r with
  | nil => exact hnil
  | leaf a rest ih =>
      have hrest := ih h htag r
      have hmarkers := Forest.markers_leaf a (labelled (some r) rest).1
      exact hmarkers ▸ hrest
  | node t inside rest ihi ihr =>
      rcases h with ⟨ht, -, hinside, hrest⟩
      have hfirst := htag t (by simp [Forest.labels]) r
      have hi := ihi hinside (fun t' ht' => htag t' (by simp [Forest.labels, ht']))
        (r.advance ([t].filter TagVisit.isHandled))
      have hr := ihr hrest (fun t' ht' => htag t' (by simp [Forest.labels, ht']))
        ((r.advance ([t].filter TagVisit.isHandled)).advance (handled inside))
      have hstate := labelled_recorder hinside (r.advance ([t].filter TagVisit.isHandled))
      -- ids and markers split alike: those of the tag, of its inside and of the rest
      unfold labelled at hi hr hstate ⊢
      rw [handled_node, TagVisit.bindings_append, TagVisit.bindings_append, List.map_append,
        List.map_append]
      simp only [Forest.thread, ht.label_recorder r, hstate, Forest.markers_node]
      exact happend hfirst (happend hi hr)

end Visited

namespace Entries

theorem exists_mem_put (key v : Value C) (es : Entries C) :
    ∃ e ∈ put key v es, e.2 = v ∧ (e.1 = key ∨ e.1.sameKey key = true) := by
  induction es with
  | nil => exact ⟨(key, v), by simp [put], rfl, Or.inl rfl⟩
  | cons first rest ih =>
      by_cases hfirst : first.1.sameKey key = true
      · exact ⟨(first.1, v), by simp [put, hfirst], rfl, Or.inr hfirst⟩
      · rcases ih with ⟨e, he, hv, hkey⟩
        exact ⟨e, by simp [put, hfirst, he], hv, hkey⟩

end Entries

theorem Value.text_of_sameKey_str {v : Value C} {s : String} (h : v.sameKey (.str s) = true) :
    v.text = s := by
  cases v <;> simp [sameKey, integer?] at h
  · simp [text, h]
  · simp [text, h]

namespace TagVisit

theorem Sound.mem_markers {t : TagVisit C} (h : t.Sound) (ht : t.isHandled = true)
    (r : Recorder C) : Recorder.idOf r.stem (r.issued + 1) ∈ (t.label (some r)).1.markers := by
  rw [Label.mem_markers]
  unfold label
  rw [h.marked_of_handled ht]
  rcases Entries.exists_mem_put (.str Vocabulary.marker)
    (.str (Recorder.idOf r.stem (r.issued + 1))) t.plan.attributes with ⟨⟨key, v⟩, he, rfl, hkey⟩
  -- an explicit key in the marker's place keeps its spelling, which is the marker
  have htext : key.text = Vocabulary.marker := by
    rcases hkey with rfl | hsame
    · rfl
    · exact Value.text_of_sameKey_str hsame
  refine List.mem_filterMap.2 ⟨_, he, ?_⟩
  simp only [writtenPair?, htext]
  rfl

end TagVisit

/-- Every id is in a marker, in the order of the bindings. -/
theorem Visited.sublist_markers {forest : Visited C} (h : forest.Sound) (r : Recorder C) :
    ((TagVisit.bindings r.stem r.issued forest.handled).map Binding.id).Sublist
      (forest.labelled (some r)).1.markers := by
  refine markers_related (R := List.Sublist) List.Sublist.slnil
    (fun h₁ h₂ => h₁.append h₂) h ?_ r
  intro t ht r
  -- explicit keys may add markers, but a tag with handlers always has the one of its id
  cases hhandled : t.isHandled with
  | false => simp [hhandled, TagVisit.bindings]
  | true =>
      have hmem := (h.of_mem t ht).mem_markers hhandled r
      simpa [hhandled, TagVisit.bindings, TagVisit.binding] using hmem

end MarkupTree
