import MarkupTree.Proofs.Paths
import MarkupTree.Proofs.Registry

/-!
# Naming — which keys lead to a mounted container

A key may be written with a `#` in front of it, and exactly one is taken off. A name can be used
as a key of its own container as long as it does not itself start with a `#`. A name that does is
reached with one more in front, and by itself stands for the name behind its `#`.

* `Surface.Spells` says which keys spell a name.
* `Surface.ReachedByName` is what a name is good for: looking up, mounting again, unmounting.
* `Surface.names_reach` has it for every name on a surface after any run.
-/

namespace MarkupTree

variable {C : Type}

namespace Surface

/-! ## Spellings -/

/-- The keys that spell a name. -/
inductive Spells : String → String → Prop
  | hashed (name : String) : Spells ("#" ++ name) name
  | plain {name : String} : ¬ ['#'] <+: name.toList → Spells name name

theorem nameOf_hash (name : String) : nameOf ("#" ++ name) = name := by
  unfold nameOf
  rw [afterStart?_append, Option.getD_some]

theorem nameOf_plain {key : String} (h : ¬ ['#'] <+: key.toList) : nameOf key = key := by
  have hnot : "#".toList.isPrefixOf key.toList = false :=
    Bool.eq_false_iff.2 fun hstart => h (List.isPrefixOf_iff_prefix.1 hstart)
  unfold nameOf afterStart?
  rw [hnot]
  rfl

/-- One `#` in front of a key is taken off, and no other one. -/
theorem nameOf_eq_iff {key name : String} : nameOf key = name ↔ Spells key name := by
  constructor
  · rintro rfl
    by_cases h : ['#'] <+: key.toList
    · obtain ⟨rest, hrest⟩ := h
      have hkey : key = "#" ++ String.ofList rest := by
        have htail : (String.ofList rest).toList = rest := String.toList_ofList
        apply String.toList_inj.1
        rw [String.toList_append, htail]
        exact hrest.symm
      rw [hkey, nameOf_hash]
      exact .hashed _
    · rw [nameOf_plain h]
      exact .plain h
  · intro h
    cases h with
    | hashed => exact nameOf_hash name
    | plain hplain => exact nameOf_plain hplain

/-! ## The mounted containers -/

namespace Orderly

variable {s : Surface C}

theorem mem_view_iff {name : String} {container : Container C} :
    (name, container) ∈ s.view ↔
      ∃ handle, (name, handle) ∈ s.mounted ∧ s.containers[handle]? = some container := by
  unfold view
  rw [List.mem_filterMap]
  constructor
  · rintro ⟨e, he, hfound⟩
    obtain ⟨found, hcontainer, heq⟩ := Option.map_eq_some_iff.1 hfound
    cases heq
    exact ⟨e.2, he, hcontainer⟩
  · rintro ⟨handle, hmem, hcontainer⟩
    exact ⟨(name, handle), hmem, by rw [hcontainer]; rfl⟩

/-- Every name on the surface shows its container. -/
theorem names_view (h : s.Orderly) : s.view.map Prod.fst = s.mounted.map Prod.fst := by
  unfold view
  rw [List.map_filterMap, ← List.filterMap_eq_map]
  apply List.filterMap_congr
  intro e he
  obtain ⟨container, hcontainer, -⟩ := h.keys e he
  rw [hcontainer]
  rfl

theorem handle_unique (h : s.Orderly) {name : String} {handle other : Nat}
    (hmem : (name, handle) ∈ s.mounted) (hother : (name, other) ∈ s.mounted) :
    other = handle := by
  have hsame := (Table.get?_of_mem h.names hother).symm.trans (Table.get?_of_mem h.names hmem)
  exact Option.some.inj hsame

/-- No container has two names. -/
theorem name_unique (h : s.Orderly) {name other : String} {handle : Nat}
    (hmem : (name, handle) ∈ s.mounted) (hother : (other, handle) ∈ s.mounted) :
    other = name :=
  congrArg Prod.fst (List.inj_on_of_nodup_map h.handles hother hmem rfl)

/-- Taking a name off the surface takes one entry off. -/
theorem remove_eq_erase (h : s.Orderly) {name : String} {handle : Nat}
    (hmem : (name, handle) ∈ s.mounted) :
    s.mounted.remove name = s.mounted.erase (name, handle) := by
  rw [(List.Nodup.of_map _ h.names).erase_eq_filter]
  apply List.filter_congr
  intro e he
  rw [Bool.eq_iff_iff, decide_eq_true_iff, bne_iff_ne]
  refine not_congr ⟨fun hname => ?_, fun heq => congrArg Prod.fst heq⟩
  have hhandle : e.2 = handle := h.handle_unique hmem (hname ▸ he)
  exact Prod.ext hname hhandle

end Orderly

/-! ## What a name is good for -/

/-- The container that is mounted under a name is the one that is found, mounted again and
unmounted by the keys that spell the name, and by no others. -/
structure ReachedByName (s : Surface C) (name : String) (handle : Nat) (container : Container C) :
    Prop where
  mounted : (name, handle) ∈ s.mounted
  held : s.containers[handle]? = some container
  key : container.key = name
  resolve : ∀ v key, v.string? = some key →
    (s.resolve (.value v) = .ok (handle, container) ↔ Spells key name)
  /-- mounting again gives this container and leaves the surface as it is -/
  mount : ∀ key content, s.mount key content = (handle, s) ↔ Spells key name
  /-- this entry is taken off the surface and no other one -/
  unmount : ∀ key,
    s.unmount key = { s with mounted := s.mounted.erase (name, handle) } ↔ Spells key name

namespace Orderly

variable {s : Surface C} {name : String} {handle : Nat}

theorem resolve_iff_spells (h : s.Orderly) (hmem : (name, handle) ∈ s.mounted)
    {container : Container C} (hcontainer : s.containers[handle]? = some container)
    {v : Value C} {key : String} (hkey : v.string? = some key) :
    s.resolve (.value v) = .ok (handle, container) ↔ Spells key name := by
  have hposition : s.position? (.value v) = s.mounted.get? (nameOf key) := by
    show Option.bind _ _ = _
    rw [hkey, Option.bind_some]
  rw [resolve_eq_ok, hposition, ← nameOf_eq_iff]
  constructor
  · rintro ⟨hget, -⟩
    exact h.name_unique hmem (Table.mem_of_get? hget)
  · rintro rfl
    exact ⟨Table.get?_of_mem h.names hmem, hcontainer⟩

theorem mount_iff_spells (h : s.Orderly) (hmem : (name, handle) ∈ s.mounted)
    (key content : String) : s.mount key content = (handle, s) ↔ Spells key name := by
  rw [← nameOf_eq_iff]
  constructor
  · intro hmount
    by_cases hheld : nameOf key ∈ s.mounted.map Prod.fst
    · obtain ⟨e, he, hname⟩ := List.mem_map.1 hheld
      have hfound : (nameOf key, e.2) ∈ s.mounted := hname ▸ he
      rw [mount_of_mem h hfound] at hmount
      have hhandle : e.2 = handle := congrArg Prod.fst hmount
      exact h.name_unique hmem (hhandle ▸ hfound)
    · -- a new container is none of those that were there
      rw [mount_of_not_mem hheld] at hmount
      have hnew : s.containers.length = handle := congrArg Prod.fst hmount
      exact absurd (h.lt_length hmem) (by simp [hnew])
  · rintro rfl
    exact mount_of_mem h hmem content

theorem unmount_iff_spells (h : s.Orderly) (hmem : (name, handle) ∈ s.mounted) (key : String) :
    s.unmount key = { s with mounted := s.mounted.erase (name, handle) } ↔ Spells key name := by
  rw [← nameOf_eq_iff]
  constructor
  · intro hunmount
    by_contra hother
    have hkept : (name, handle) ∈ s.mounted.remove (nameOf key) :=
      List.mem_filter.2 ⟨hmem, decide_eq_true (Ne.symm hother)⟩
    have hmounted : s.mounted.remove (nameOf key) = s.mounted.erase (name, handle) :=
      congrArg Surface.mounted hunmount
    exact (List.Nodup.of_map _ h.names).not_mem_erase (hmounted ▸ hkept)
  · rintro rfl
    exact congrArg (Surface.mk s.containers) (h.remove_eq_erase hmem)

theorem reachedByName (h : s.Orderly) (hmem : (name, handle) ∈ s.mounted)
    {container : Container C} (hcontainer : s.containers[handle]? = some container) :
    s.ReachedByName name handle container := by
  have hkey : container.key = name := by
    obtain ⟨found, hfound, hname⟩ := h.keys _ hmem
    cases hfound.symm.trans hcontainer
    exact hname
  exact ⟨hmem, hcontainer, hkey, fun v key => h.resolve_iff_spells hmem hcontainer,
    h.mount_iff_spells hmem, h.unmount_iff_spells hmem⟩

end Orderly

/-- After any run the names on a surface are distinct, so are their containers, and every name
is the key of its container. With a `#` in front the name leads to it, and so does the name itself
if it does not start with a `#`. -/
theorem names_reach (before : List (Action C)) :
    ((run before empty).view.map Prod.fst).Nodup ∧
      ((run before empty).mounted.map Prod.snd).Nodup ∧
      ∀ name container, (name, container) ∈ (run before empty).view →
        ∃ handle, (run before empty).ReachedByName name handle container := by
  have h : (run before (empty : Surface C)).Orderly := Orderly.empty.run before
  refine ⟨h.names_view ▸ h.names, h.handles, ?_⟩
  intro name container hview
  obtain ⟨handle, hmem, hcontainer⟩ := Orderly.mem_view_iff.1 hview
  exact ⟨handle, h.reachedByName hmem hcontainer⟩

/-- A container whose name starts with a `#` is not found by its own key, mounting under that key
makes another one, and unmounting by it leaves the container where it is. -/
theorem hashed_name_lost :
    ∃ s : Surface Unit, s = run [.mount "##app" ""] empty ∧
      s.view = [("#app", ⟨"#app", "", []⟩)] ∧
      s.resolve (.value (.str "#app")) = .error (.containerNotFound (.str "#app")) ∧
      (s.mount "#app" "").2.view = [("#app", ⟨"#app", "", []⟩), ("app", ⟨"app", "", []⟩)] ∧
      s.unmount "#app" = s := by
  refine ⟨_, rfl, ?_, ?_, ?_, ?_⟩ <;> rfl

end Surface
end MarkupTree
