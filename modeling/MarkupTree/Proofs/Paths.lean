import MarkupTree.EventRoute
import MarkupTree.Proofs.Attributes

/-!
# Paths — where posts lead

The path of a target is taken apart at its slashes. As long as the three names of the target are
not empty and hold no slash, they come out as they went in, and the path is none of those at which
a site describes itself.

* `Target.Addressable` says which targets have a path of their own.
* `pieces_segment` takes the first name off a path.
* `destination?_pathOf` leads the path of a target back to the target, and
  `destination?_pathOf_eq_none` says that no other target has a path that leads anywhere.
-/

namespace MarkupTree

/-- What is behind a start is found there. -/
theorem afterStart?_append (start rest : String) :
    afterStart? start (start ++ rest) = some rest := by
  unfold afterStart?
  rw [String.toList_append, if_pos (List.isPrefixOf_iff_prefix.2 (List.prefix_append _ _)),
    List.drop_left, String.ofList_toList]

namespace EventRoute

/-- A name that can stand between two slashes. -/
def IsSegment (s : String) : Prop :=
  s ≠ "" ∧ '/' ∉ s.toList

instance : DecidablePred IsSegment := fun s => inferInstanceAs (Decidable (s ≠ "" ∧ _))

/-- A target whose names can stand in a path. -/
structure Target.Addressable (target : Target) : Prop where
  container : IsSegment target.container
  id : IsSegment target.id
  event : IsSegment target.event

/-- The request that posts an event to a target. -/
def post (route : EventRoute) (target : Target) (body : Option String) : Request :=
  ⟨"POST", route.pathOf target, body⟩

/-! ## Pieces -/

theorem pieces_of_not_mem {cs : List Char} (h : '/' ∉ cs) : pieces cs = [cs] := by
  induction cs with
  | nil => rfl
  | cons c rest ih =>
      have hparts := not_or.1 (mt List.mem_cons.2 h)
      simp [pieces, ih hparts.2, Ne.symm hparts.1]

theorem pieces_slash (cs : List Char) : pieces ('/' :: cs) = [] :: pieces cs := by
  rw [pieces]
  cases hcs : pieces cs with
  | nil =>
      -- there is always a first piece
      cases cs with
      | nil => cases hcs
      | cons c rest =>
          unfold pieces at hcs
          split at hcs
          · split at hcs <;> cases hcs
          · cases hcs
  | cons first more => simp

/-- A name before a slash is a piece of its own. -/
theorem pieces_segment {cs : List Char} (h : '/' ∉ cs) (rest : List Char) :
    pieces (cs ++ '/' :: rest) = cs :: pieces rest := by
  induction cs with
  | nil => exact pieces_slash rest
  | cons c cs ih =>
      have hparts := not_or.1 (mt List.mem_cons.2 h)
      rw [List.cons_append, pieces, ih hparts.2]
      simp [Ne.symm hparts.1]

/-! ## Paths of targets -/

theorem pathOf_eq (route : EventRoute) (target : Target) :
    route.pathOf target = route.path ++
      ("/" ++ target.container ++ "/" ++ target.id ++ "/" ++ target.event) := by
  simp only [pathOf, String.append_assoc]

/-- Names without a slash come out between the slashes of a path. -/
theorem pieces_names {container id event : String} (hcontainer : '/' ∉ container.toList)
    (hid : '/' ∉ id.toList) (hevent : '/' ∉ event.toList) :
    pieces ("/" ++ container ++ "/" ++ id ++ "/" ++ event).toList =
      [[], container.toList, id.toList, event.toList] := by
  have hslash : "/".toList = ['/'] := rfl
  simp only [String.toList_append, hslash, List.append_assoc, List.nil_append, List.cons_append]
  rw [pieces_slash, pieces_segment hcontainer, pieces_segment hid, pieces_of_not_mem hevent]

theorem target?_pathOf (route : EventRoute) {target : Target} (h : target.Addressable) :
    route.target? (route.pathOf target) = some target := by
  have hcontainer : target.container.toList ≠ [] := fun heq =>
    h.container.1 (String.toList_eq_nil_iff.1 heq)
  have hid : target.id.toList ≠ [] := fun heq => h.id.1 (String.toList_eq_nil_iff.1 heq)
  have hevent : target.event.toList ≠ [] := fun heq =>
    h.event.1 (String.toList_eq_nil_iff.1 heq)
  unfold target?
  rw [pathOf_eq, afterStart?_append, Option.map_some,
    pieces_names h.container.2 h.id.2 h.event.2]
  simp [hcontainer, hid, hevent, String.ofList_toList]

/-- A path with three slashes is none of those at which a site describes itself. -/
theorem not_isAt_of_count {path : String} (h : 3 ≤ path.toList.count '/') :
    Vocabulary.descriptionPaths.any (fun place => isAt place path) = false := by
  have hfew : ∀ place ∈ Vocabulary.descriptionPaths,
      place.toList.count '/' ≤ 2 ∧ (place ++ "\n").toList.count '/' ≤ 2 := by
    decide +kernel
  rw [List.any_eq_false]
  intro place hplace hat
  have hcounts := hfew place hplace
  unfold isAt at hat
  rcases Bool.or_eq_true_iff.1 hat with heq | heq
  · rw [of_decide_eq_true heq] at h
    omega
  · rw [of_decide_eq_true heq] at h
    omega

/-- Between two slashes there is one piece. -/
theorem length_pieces (cs : List Char) : (pieces cs).length = cs.count '/' + 1 := by
  induction cs with
  | nil => rfl
  | cons c rest ih =>
      by_cases hslash : c = '/'
      · subst hslash
        rw [pieces_slash, List.length_cons, ih, List.count_cons_self]
      · rw [List.count_cons_of_ne hslash, ← ih, pieces]
        cases hrest : pieces rest with
        | nil => simp [hrest] at ih
        | cons first more => simp [hslash]

theorem count_pathOf (route : EventRoute) (target : Target) :
    3 ≤ (route.pathOf target).toList.count '/' := by
  have hslash : "/".toList = ['/'] := rfl
  simp only [pathOf, String.toList_append, hslash, List.count_append, List.count_singleton_self]
  omega

/-- A slash in one of the names makes too many pieces, and an empty name is passed over. -/
theorem target?_pathOf_eq_none (route : EventRoute) {target : Target} (h : ¬ target.Addressable) :
    route.target? (route.pathOf target) = none := by
  unfold target?
  rw [pathOf_eq, afterStart?_append, Option.map_some]
  by_cases hclean : '/' ∉ target.container.toList ∧ '/' ∉ target.id.toList ∧
      '/' ∉ target.event.toList
  · obtain ⟨hcontainer, hid, hevent⟩ := hclean
    rw [pieces_names hcontainer hid hevent]
    refine if_pos (Decidable.byContradiction fun hfull => ?_)
    simp only [List.isEmpty_iff, String.toList_eq_nil_iff, not_or] at hfull
    exact h ⟨⟨hfull.1, hcontainer⟩, ⟨hfull.2.1, hid⟩, ⟨hfull.2.2, hevent⟩⟩
  · have hslash : "/".toList = ['/'] := rfl
    have hcount : 4 ≤ ("/" ++ target.container ++ "/" ++ target.id ++ "/" ++
        target.event).toList.count '/' := by
      simp only [String.toList_append, hslash, List.count_append, List.count_singleton_self]
      simp only [← List.count_eq_zero] at hclean
      omega
    have hlength := length_pieces
      ("/" ++ target.container ++ "/" ++ target.id ++ "/" ++ target.event).toList
    split
    · next hpieces =>
        rw [Option.some.inj hpieces] at hlength
        simp only [List.length_cons, List.length_nil] at hlength
        omega
    · rfl

/-- The path of a target leads to the handlers of the target. -/
theorem destination?_pathOf (route : EventRoute) {target : Target} (h : target.Addressable) :
    route.destination? (route.pathOf target) = some (.handlers target) := by
  unfold destination?
  rw [not_isAt_of_count (count_pathOf route target), target?_pathOf route h]
  rfl

/-- A target whose names cannot stand in a path has a path that leads nowhere. -/
theorem destination?_pathOf_eq_none (route : EventRoute) {target : Target}
    (h : ¬ target.Addressable) : route.destination? (route.pathOf target) = none := by
  unfold destination?
  rw [not_isAt_of_count (count_pathOf route target), target?_pathOf_eq_none route h]
  rfl

end EventRoute
end MarkupTree
