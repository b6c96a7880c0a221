import Mathlib.Data.List.Nodup
import MarkupTree.Proofs.Attach
import MarkupTree.Proofs.Attempt

/-!
# Registry — what an action leaves as it was

An action on a surface finds one container and changes that one, step by step, or it only changes
which container goes by which name. Since the container is looked up before the first step, an
action that fails has done nothing.

* `Surface.Action` is what can be asked of a surface, `Action.perform` takes it step by step and
  `Action.operate` is the operation that it stands for.
* `Surface.Denotes` says which container a reference stands for.
* `Surface.Deed` lists all that an action can do, `Surface.Orderly` is the invariant of a run.
* `Surface.perform_isolated` says what is left alone after any run.
-/

namespace MarkupTree

variable {C : Type}

namespace Container

/-- A step that looks for the tag of a binding first. -/
def bindIfPresent (binding : Binding C) (container : Container C) : Container C :=
  if container.hasElement binding.id then container.bind binding else container

/-- What every handler of a binding keeps, the whole binding keeps. -/
theorem bind_keeps {P : Container C → Prop} {binding : Binding C}
    (h : ∀ e ∈ binding.events, ∀ container, P container →
      P (container.addListener binding.id e.1 e.2))
    {container : Container C} (hP : P container) : P (container.bind binding) := by
  unfold bind
  generalize binding.events = events at h
  induction events generalizing container with
  | nil => exact hP
  | cons e rest ih =>
      have hfirst := h e (by simp) container hP
      exact ih hfirst fun e' he' => h e' (List.mem_cons_of_mem _ he')

@[simp]
theorem content_bind (binding : Binding C) (container : Container C) :
    (container.bind binding).content = container.content :=
  bind_keeps (P := fun changed => changed.content = container.content)
    (fun _ _ _ h => h) rfl

@[simp]
theorem key_bind (binding : Binding C) (container : Container C) :
    (container.bind binding).key = container.key :=
  bind_keeps (P := fun changed => changed.key = container.key) (fun _ _ _ h => h) rfl

/-- Adding handlers does not change which tags are there, so the tags may be looked for before or
between the bindings. -/
theorem foldl_bindIfPresent (bindings : List (Binding C)) (container : Container C) :
    bindings.foldl (fun container binding => container.bindIfPresent binding) container =
      container.bindPresent bindings := by
  unfold bindPresent
  induction bindings generalizing container with
  | nil => rfl
  | cons b rest ih =>
      rw [List.foldl_cons, ih, List.filter_cons]
      unfold bindIfPresent
      cases hpresent : container.hasElement b.id with
      | false => simp
      | true =>
          have hsame : ∀ id, (container.bind b).hasElement id = container.hasElement id := by
            intro id
            unfold hasElement
            rw [content_bind]
          simp [hsame]

/-- What holds of the new content, and what every binding keeps whose tag is there, holds after
attaching. -/
theorem attach_keeps {P : Container C → Prop} {markup : String} {bindings : List (Binding C)}
    {container : Container C} (hwrite : P (container.write markup))
    (hbind : ∀ b ∈ bindings, ∀ container, P container → container.hasElement b.id = true →
      P (container.bind b)) : P (container.attach markup bindings) := by
  unfold attach
  rw [← foldl_bindIfPresent]
  generalize container.write markup = written at hwrite
  induction bindings generalizing written with
  | nil => exact hwrite
  | cons b rest ih =>
      refine ih (fun b' hb' => hbind b' (List.mem_cons_of_mem _ hb')) (written.bindIfPresent b) ?_
      unfold bindIfPresent
      split
      · next hpresent => exact hbind b (by simp) written hwrite hpresent
      · exact hwrite

theorem key_attach (markup : String) (bindings : List (Binding C)) (container : Container C) :
    (container.attach markup bindings).key = container.key :=
  attach_keeps (P := fun changed => changed.key = container.key) rfl
    fun b _ changed hkey _ => (key_bind b changed).trans hkey

end Container

namespace Surface

/-! ## Actions -/

/-- What can be asked of a surface. -/
inductive Action (C : Type)
  /-- a container is made that has no place on the surface -/
  | adopt (key content : String)
  | mount (key content : String)
  | unmount (key : String)
  | resolve (reference : Reference C)
  | write (reference : Reference C) (markup : String)
  | attach (reference : Reference C) (markup : String) (bindings : List (Binding C))
  | cleanup (reference : Reference C)
  | clear (reference : Reference C)
  | listen (reference : Reference C) (id event : String) (f : Callable (Value C) C)

/-- Finds the container of a reference. -/
def find (reference : Reference C) : Attempt (Surface C) C Nat := do
  let s ← get
  let (handle, _) ← ofExcept (s.resolve reference)
  return handle

/-- One step on one container. -/
def touch (handle : Nat) (f : Container C → Container C) : Attempt (Surface C) C Unit :=
  modify fun s => { s with containers := s.containers.modify handle f }

/-- Empties a container, then fills it. -/
def refill (reference : Reference C) (markup : String) : Attempt (Surface C) C Nat := do
  let handle ← find reference
  touch handle Container.clear
  touch handle fun container => { container with content := markup }
  return handle

namespace Action

/-- The reference that an action goes by. -/
def reference? : Action C → Option (Reference C)
  | .adopt _ _ | .mount _ _ | .unmount _ => none
  | .resolve reference | .write reference _ | .attach reference _ _ | .cleanup reference
  | .clear reference | .listen reference _ _ _ => some reference

/-- The name that an action gives away or takes back. -/
def name? : Action C → Option String
  | .mount key _ | .unmount key => some (nameOf key)
  | _ => none

/-- What becomes of the container that an action refers to. -/
def effect : Action C → Container C → Container C
  | .write _ markup => Container.write markup
  | .attach _ markup bindings => Container.attach markup bindings
  | .cleanup _ | .clear _ => Container.clear
  | .listen _ id event f => Container.addListener id event f
  | _ => id

/-- Takes an action step by step, and tells the container that it was about. A fault in the middle
would leave the steps before it done. -/
def perform : Action C → Attempt (Surface C) C (Option Nat)
  | .adopt key content => do
    let (handle, s) := (← get).adopt key content
    set s
    return some handle
  | .mount key content => do
    let (handle, s) := (← get).mount key content
    set s
    return some handle
  | .unmount key => do
    modify fun s => s.unmount key
    return none
  | .resolve reference => do
    let handle ← find reference
    return some handle
  | .write reference markup => do
    let handle ← refill reference markup
    return some handle
  | .attach reference markup bindings => do
    let handle ← refill reference markup
    bindings.forM fun binding => touch handle fun container => container.bindIfPresent binding
    return some handle
  | .cleanup reference | .clear reference => do
    let handle ← find reference
    touch handle Container.clear
    return some handle
  | .listen reference id event f => do
    let handle ← find reference
    touch handle (Container.addListener id event f)
    return some handle

/-- The operation of the surface that an action stands for. -/
def operate (action : Action C) (s : Surface C) : Except (Fault C) (Option Nat × Surface C) :=
  match action with
  | .adopt key content => .ok (some (s.adopt key content).1, (s.adopt key content).2)
  | .mount key content => .ok (some (s.mount key content).1, (s.mount key content).2)
  | .unmount key => .ok (none, s.unmount key)
  | .resolve reference => (s.resolve reference).map fun found => (some found.1, s)
  | .write reference markup => (s.write reference markup).map fun done => (some done.1, done.2)
  | .attach reference markup bindings =>
    (s.attach reference markup bindings).map fun done => (some done.1, done.2.1)
  | .cleanup reference => (s.cleanup reference).map fun done => (some done.1, done.2.1)
  | .clear reference => (s.clear reference).map fun done => (some done.1, done.2)
  | .listen reference id event f =>
    (s.listen reference id event f).map fun done => (some done.1, done.2)

/-- The container that an action was about, if it was about one and did not fail. -/
def about? (action : Action C) (s : Surface C) : Option Nat :=
  match (action.perform s).1 with
  | .ok about => about
  | .error _ => none

end Action

def run (actions : List (Action C)) (s : Surface C) : Surface C :=
  actions.foldl (fun s action => (action.perform s).2) s

/-- The actions of a run, each with the container that it was about. -/
def trace : List (Action C) → Surface C → List (Action C × Option Nat)
  | [], _ => []
  | action :: rest, s => (action, action.about? s) :: trace rest (action.perform s).2

/-! ## References -/

/-- What a reference stands for: a container by itself, or the one that is mounted under the name
that a string spells. -/
inductive Denotes (s : Surface C) : Reference C → Nat → Prop
  | container {handle : Nat} : handle < s.containers.length → Denotes s (.container handle) handle
  | name {v : Value C} {key : String} {handle : Nat} :
      v.string? = some key → (nameOf key, handle) ∈ s.mounted → Denotes s (.value v) handle

/-- No name is given twice, no container has two names, and every name belongs to a container that
knows it. -/
structure Orderly (s : Surface C) : Prop where
  names : (s.mounted.map Prod.fst).Nodup
  handles : (s.mounted.map Prod.snd).Nodup
  keys : ∀ e ∈ s.mounted, ∃ container, s.containers[e.2]? = some container ∧ container.key = e.1

namespace Orderly

variable {s : Surface C}

theorem lt_length (h : s.Orderly) {e : String × Nat} (he : e ∈ s.mounted) :
    e.2 < s.containers.length := by
  obtain ⟨container, hcontainer, -⟩ := h.keys e he
  exact (List.getElem?_eq_some_iff.1 hcontainer).1

theorem denotes_iff (h : s.Orderly) {reference : Reference C} {handle : Nat} :
    s.Denotes reference handle ↔
      s.position? reference = some handle ∧ handle < s.containers.length := by
  constructor
  · intro hdenotes
    cases hdenotes with
    | container hlt => exact ⟨rfl, hlt⟩
    | name hkey hmem =>
        refine ⟨?_, h.lt_length hmem⟩
        show Option.bind _ _ = _
        rw [hkey, Option.bind_some]
        exact Table.get?_of_mem h.names hmem
  · rintro ⟨hposition, hlt⟩
    cases reference with
    | container handle' =>
        cases hposition
        exact .container hlt
    | value v =>
        obtain ⟨key, hkey, hget⟩ := Option.bind_eq_some_iff.1 hposition
        exact .name hkey (Table.mem_of_get? hget)

/-- A reference is resolved to the container that it denotes. -/
theorem resolve_of_denotes (h : s.Orderly) {reference : Reference C} {handle : Nat}
    (hdenotes : s.Denotes reference handle) :
    ∃ container, s.containers[handle]? = some container ∧
      s.resolve reference = .ok (handle, container) := by
  obtain ⟨hposition, hlt⟩ := h.denotes_iff.1 hdenotes
  have hcontainer := List.getElem?_eq_getElem hlt
  exact ⟨_, hcontainer, resolve_eq_ok.2 ⟨hposition, hcontainer⟩⟩

/-- A reference that denotes nothing is refused. -/
theorem resolve_of_lost (h : s.Orderly) {reference : Reference C}
    (hlost : ∀ handle, ¬ s.Denotes reference handle) :
    s.resolve reference = .error (.containerNotFound (reported reference)) := by
  cases hresolve : s.resolve reference with
  | ok found =>
      obtain ⟨hposition, hcontainer⟩ := resolve_eq_ok.1 hresolve
      have hlt := (List.getElem?_eq_some_iff.1 hcontainer).1
      exact absurd (h.denotes_iff.2 ⟨hposition, hlt⟩) (hlost found.1)
  | error fault =>
      unfold resolve at hresolve
      split at hresolve
      · cases hresolve
      · exact hresolve.symm

end Orderly

/-! ## Steps -/

theorem find_apply (reference : Reference C) (s : Surface C) :
    find reference s = ((s.resolve reference).map Prod.fst, s) := by
  unfold find
  rw [Attempt.bind_apply_ok (Attempt.get_apply s), Attempt.map_apply, Attempt.ofExcept_apply]

theorem find_of_found {s : Surface C} {reference : Reference C} {handle : Nat}
    {container : Container C} (h : s.resolve reference = .ok (handle, container)) :
    find reference s = (.ok handle, s) := by
  rw [find_apply, h]
  rfl

theorem touch_apply {s : Surface C} {handle : Nat} {container : Container C}
    (h : s.containers[handle]? = some container) (f : Container C → Container C) :
    touch handle f s = (.ok (), s.update handle (f container)) := by
  obtain ⟨hlt, hget⟩ := List.getElem?_eq_some_iff.1 h
  have hmodify : s.containers.modify handle f = s.containers.set handle (f container) := by
    rw [List.modify_eq_set_getElem?, h]
    rfl
  unfold touch update
  rw [Attempt.modify_apply, hmodify]

theorem getElem?_update_self {s : Surface C} {handle : Nat} {old : Container C}
    (h : s.containers[handle]? = some old) (new : Container C) :
    (s.update handle new).containers[handle]? = some new := by
  have hlt := (List.getElem?_eq_some_iff.1 h).1
  simp [update, hlt]

theorem getElem?_update_of_ne (s : Surface C) {handle other : Nat} (h : other ≠ handle)
    (new : Container C) : (s.update handle new).containers[other]? = s.containers[other]? := by
  simp [update, Ne.symm h]

@[simp]
theorem update_update (s : Surface C) (handle : Nat) (first second : Container C) :
    (s.update handle first).update handle second = s.update handle second := by
  simp [update]

theorem update_self {s : Surface C} {handle : Nat} {container : Container C}
    (h : s.containers[handle]? = some container) : s.update handle container = s := by
  obtain ⟨hlt, rfl⟩ := List.getElem?_eq_some_iff.1 h
  simp [update]

/-- Steps on one container come to one change of it. -/
theorem forM_touch_apply {α : Type} {s : Surface C} {handle : Nat} {container : Container C}
    (h : s.containers[handle]? = some container) (f : Container C → α → Container C)
    (as : List α) :
    (as.forM fun a => touch handle fun container => f container a) s =
      (.ok (), s.update handle (as.foldl f container)) := by
  induction as generalizing s container with
  | nil =>
      rw [List.foldl_nil, update_self h]
      rfl
  | cons a rest ih =>
      have hfirst := touch_apply h fun container => f container a
      refine (Attempt.bind_apply_ok hfirst _).trans ?_
      rw [ih (getElem?_update_self h _), update_update, List.foldl_cons]

theorem refill_apply {s : Surface C} {reference : Reference C} {handle : Nat}
    {container : Container C} (h : s.resolve reference = .ok (handle, container))
    (markup : String) :
    refill reference markup s = (.ok handle, s.update handle (container.write markup)) := by
  have hcontainer := (resolve_eq_ok.1 h).2
  have hclear := touch_apply hcontainer Container.clear
  have hfill := touch_apply (getElem?_update_self hcontainer container.clear)
    fun container => { container with content := markup }
  unfold refill
  rw [Attempt.bind_apply_ok (find_of_found h), Attempt.bind_apply_ok hclear,
    Attempt.bind_apply_ok hfill, Attempt.pure_apply, update_update]
  rfl

/-! ## Actions that refer to a container -/

namespace Action

variable {action : Action C} {s : Surface C} {reference : Reference C}

/-- The container is looked up first; without one, nothing was done yet. -/
theorem perform_of_refused (hrefers : action.reference? = some reference) {fault : Fault C}
    (h : s.resolve reference = .error fault) : action.perform s = (.error fault, s) := by
  have hfind : find reference s = (.error fault, s) := by rw [find_apply, h]; rfl
  have hrefill : ∀ markup, refill reference markup s = (.error fault, s) := fun markup =>
    Attempt.bind_apply_error hfind _
  cases action with
  | adopt key content => cases hrefers
  | mount key content => cases hrefers
  | unmount key => cases hrefers
  | resolve r => cases hrefers; exact Attempt.bind_apply_error hfind _
  | write r markup => cases hrefers; exact Attempt.bind_apply_error (hrefill markup) _
  | attach r markup bindings => cases hrefers; exact Attempt.bind_apply_error (hrefill markup) _
  | cleanup r => cases hrefers; exact Attempt.bind_apply_error hfind _
  | clear r => cases hrefers; exact Attempt.bind_apply_error hfind _
  | listen r id event f => cases hrefers; exact Attempt.bind_apply_error hfind _

/-- The steps come to one change of the container that was found. -/
theorem perform_of_found (hrefers : action.reference? = some reference) {handle : Nat}
    {container : Container C} (h : s.resolve reference = .ok (handle, container)) :
    action.perform s = (.ok (some handle), s.update handle (action.effect container)) := by
  have hcontainer := (resolve_eq_ok.1 h).2
  have hfind := find_of_found h
  have htouch : ∀ f : Container C → Container C,
      (do let handle ← find reference; touch handle f; return some handle) s =
        (.ok (some handle), s.update handle (f container)) := by
    intro f
    rw [Attempt.bind_apply_ok hfind, Attempt.bind_apply_ok (touch_apply hcontainer f)]
    rfl
  cases action with
  | adopt key content => cases hrefers
  | mount key content => cases hrefers
  | unmount key => cases hrefers
  | resolve r =>
      cases hrefers
      refine (Attempt.bind_apply_ok hfind _).trans ?_
      exact congrArg (Prod.mk _) (update_self hcontainer).symm
  | write r markup =>
      cases hrefers
      exact Attempt.bind_apply_ok (refill_apply h markup) _
  | attach r markup bindings =>
      cases hrefers
      refine (Attempt.bind_apply_ok (refill_apply h markup) _).trans ?_
      -- the bindings are looked for one by one in the new content
      have hbind := forM_touch_apply (getElem?_update_self hcontainer (container.write markup))
        (fun container binding => container.bindIfPresent binding) bindings
      refine (Attempt.bind_apply_ok hbind _).trans ?_
      rw [update_update, Container.foldl_bindIfPresent]
      rfl
  | cleanup r => cases hrefers; exact htouch Container.clear
  | clear r => cases hrefers; exact htouch Container.clear
  | listen r id event f => cases hrefers; exact htouch (Container.addListener id event f)

theorem operate_of_refers (hrefers : action.reference? = some reference) :
    action.operate s = (s.resolve reference).map fun found =>
      (some found.1, s.update found.1 (action.effect found.2)) := by
  have hchange : ∀ f : Container C → Container C,
      (s.change f reference).map (fun done => (some done.1, done.2)) =
        (s.resolve reference).map fun found => (some found.1, s.update found.1 (f found.2)) := by
    intro f
    unfold change
    cases s.resolve reference <;> rfl
  cases action with
  | adopt key content => cases hrefers
  | mount key content => cases hrefers
  | unmount key => cases hrefers
  | resolve r =>
      cases hrefers
      show (s.resolve reference).map _ = _
      cases hresolve : s.resolve reference with
      | error fault => rfl
      | ok found =>
          have hsame : s.update found.1 found.2 = s := update_self (resolve_eq_ok.1 hresolve).2
          exact congrArg (fun s' => Except.ok (some found.1, s')) hsame.symm
  | write r markup => cases hrefers; exact hchange (Container.write markup)
  | attach r markup bindings =>
      cases hrefers
      show (s.attach reference markup bindings).map _ = _
      unfold Surface.attach change
      cases s.resolve reference <;> rfl
  | cleanup r =>
      cases hrefers
      show (s.cleanup reference).map _ = _
      unfold Surface.cleanup Surface.clear change
      cases s.resolve reference <;> rfl
  | clear r => cases hrefers; exact hchange Container.clear
  | listen r id event f => cases hrefers; exact hchange (Container.addListener id event f)

/-- Step by step, an action does what its operation says. -/
theorem operate_eq (action : Action C) (s : Surface C) :
    action.operate s = (action.perform s).1.map fun about => (about, (action.perform s).2) := by
  cases hrefers : action.reference? with
  | none =>
      cases action with
      | adopt key content => rfl
      | mount key content => rfl
      | unmount key => rfl
      | _ => cases hrefers
  | some reference =>
      rw [operate_of_refers hrefers]
      cases hresolve : s.resolve reference with
      | error fault => rw [perform_of_refused hrefers hresolve]; rfl
      | ok found => rw [perform_of_found hrefers hresolve]; rfl

end Action

/-! ## Names -/

theorem mount_of_mem {s : Surface C} (h : s.Orderly) {key : String} {handle : Nat}
    (hmem : (nameOf key, handle) ∈ s.mounted) (content : String) :
    s.mount key content = (handle, s) := by
  unfold mount
  simp only [Table.get?_of_mem h.names hmem]

theorem mount_of_not_mem {s : Surface C} {key : String}
    (hnew : nameOf key ∉ s.mounted.map Prod.fst) (content : String) :
    s.mount key content = (s.containers.length,
      ⟨s.containers ++ [⟨nameOf key, content, []⟩],
        s.mounted ++ [(nameOf key, s.containers.length)]⟩) := by
  have hnone : s.mounted.get? (nameOf key) = none := by
    cases hget : s.mounted.get? (nameOf key) with
    | none => rfl
    | some handle => exact absurd (Table.mem_names_of_get? hget) hnew
  unfold mount
  simp only [hnone, adopt, Table.put_of_not_mem _ hnew]

/-! ## What an action can do -/

/-- All that an action can do. -/
inductive Deed (action : Action C) (s : Surface C) : Prop
  | refuses (reference : Reference C) (refers : action.reference? = some reference)
      (lost : ∀ handle, ¬ s.Denotes reference handle)
      (after : action.perform s = (.error (.containerNotFound (reported reference)), s))
  | changes (reference : Reference C) (handle : Nat) (container : Container C)
      (refers : action.reference? = some reference) (denotes : s.Denotes reference handle)
      (found : s.containers[handle]? = some container)
      (after : action.perform s = (.ok (some handle), s.update handle (action.effect container)))
  | adopts (key content : String) (adopt : action = .adopt key content)
      (after : action.perform s =
        (.ok (some s.containers.length), ⟨s.containers ++ [⟨key, content, []⟩], s.mounted⟩))
  | finds (key content : String) (handle : Nat) (mount : action = .mount key content)
      (held : (nameOf key, handle) ∈ s.mounted)
      (after : action.perform s = (.ok (some handle), s))
  | mounts (key content : String) (mount : action = .mount key content)
      (new : nameOf key ∉ s.mounted.map Prod.fst)
      (after : action.perform s = (.ok (some s.containers.length),
        ⟨s.containers ++ [⟨nameOf key, content, []⟩],
          s.mounted ++ [(nameOf key, s.containers.length)]⟩))
  | unmounts (key : String) (unmount : action = .unmount key)
      (after : action.perform s =
        (.ok none, ⟨s.containers, s.mounted.remove (nameOf key)⟩))

/-- An action that refers to a container is refused, or it changes that container. -/
theorem perform_of_refers {s : Surface C} (h : s.Orderly) {action : Action C}
    {reference : Reference C} (hrefers : action.reference? = some reference) :
    ((∀ handle, ¬ s.Denotes reference handle) ∧
        action.perform s = (.error (.containerNotFound (reported reference)), s)) ∨
      ∃ handle container, s.Denotes reference handle ∧ s.containers[handle]? = some container ∧
        action.perform s = (.ok (some handle), s.update handle (action.effect container)) := by
  by_cases hlost : ∀ handle, ¬ s.Denotes reference handle
  · exact Or.inl ⟨hlost, action.perform_of_refused hrefers (h.resolve_of_lost hlost)⟩
  · rw [not_forall_not] at hlost
    obtain ⟨handle, hdenotes⟩ := hlost
    obtain ⟨container, hcontainer, hresolve⟩ := h.resolve_of_denotes hdenotes
    exact Or.inr ⟨handle, container, hdenotes, hcontainer,
      action.perform_of_found hrefers hresolve⟩

theorem deed {s : Surface C} (h : s.Orderly) (action : Action C) : Deed action s := by
  cases hrefers : action.reference? with
  | some reference =>
      rcases perform_of_refers h hrefers with
        ⟨hlost, hafter⟩ | ⟨handle, container, hdenotes, hcontainer, hafter⟩
      · exact .refuses reference hrefers hlost hafter
      · exact .changes reference handle container hrefers hdenotes hcontainer hafter
  | none =>
      cases action with
      | adopt key content => exact .adopts key content rfl rfl
      | mount key content =>
          have hperform : (Action.mount key content : Action C).perform s =
            (.ok (some (s.mount key content).1), (s.mount key content).2) := rfl
          by_cases hname : nameOf key ∈ s.mounted.map Prod.fst
          · obtain ⟨e, hmem, hname⟩ := List.mem_map.1 hname
            have hheld : (nameOf key, e.2) ∈ s.mounted := hname ▸ hmem
            rw [mount_of_mem h hheld] at hperform
            exact .finds key content e.2 rfl hheld hperform
          · rw [mount_of_not_mem hname] at hperform
            exact .mounts key content rfl hname hperform
      | unmount key => exact .unmounts key rfl rfl
      | _ => cases hrefers

/-! ## Orderly surfaces -/

theorem Action.key_effect (action : Action C) (container : Container C) :
    (action.effect container).key = container.key := by
  cases action with
  | attach reference markup bindings => exact Container.key_attach markup bindings container
  | _ => rfl

namespace Orderly

variable {s : Surface C}

theorem empty : (empty : Surface C).Orderly :=
  ⟨List.nodup_nil, List.nodup_nil, fun e he => by cases he⟩

theorem update (h : s.Orderly) {handle : Nat} {old new : Container C}
    (hold : s.containers[handle]? = some old) (hkey : new.key = old.key) :
    (s.update handle new).Orderly := by
  refine ⟨h.names, h.handles, ?_⟩
  intro e he
  obtain ⟨container, hcontainer, hname⟩ := h.keys e he
  by_cases hhandle : e.2 = handle
  · -- the changed container goes by the name that it had
    rw [hhandle] at hcontainer ⊢
    rw [hold] at hcontainer
    cases hcontainer
    exact ⟨new, getElem?_update_self hold new, hkey.trans hname⟩
  · exact ⟨container, (getElem?_update_of_ne s hhandle new).trans hcontainer, hname⟩

theorem append (h : s.Orderly) (container : Container C) :
    Orderly ⟨s.containers ++ [container], s.mounted⟩ := by
  refine ⟨h.names, h.handles, ?_⟩
  intro e he
  obtain ⟨old, hold, hname⟩ := h.keys e he
  exact ⟨old, (List.getElem?_append_left (h.lt_length he)).trans hold, hname⟩

theorem mounted_append (h : s.Orderly) {name : String} (content : String)
    (hnew : name ∉ s.mounted.map Prod.fst) :
    Orderly ⟨s.containers ++ [⟨name, content, []⟩],
      s.mounted ++ [(name, s.containers.length)]⟩ := by
  have hbefore := h.append ⟨name, content, []⟩
  refine ⟨?_, ?_, ?_⟩
  · rw [List.map_append]
    exact List.Nodup.append h.names (List.nodup_singleton name) (by simpa using hnew)
  · -- no name belongs to a container that was not there
    have hfresh : s.containers.length ∉ s.mounted.map Prod.snd := by
      intro hmem
      obtain ⟨e, he, heq⟩ := List.mem_map.1 hmem
      exact Nat.lt_irrefl _ (heq ▸ h.lt_length he)
    rw [List.map_append]
    exact List.Nodup.append h.handles (List.nodup_singleton _) (by simpa using hfresh)
  · intro e he
    rcases List.mem_append.1 he with hold | hlast
    · exact hbefore.keys e hold
    · rw [List.mem_singleton.1 hlast]
      exact ⟨_, List.getElem?_concat_length, rfl⟩

theorem remove (h : s.Orderly) (name : String) :
    Orderly ⟨s.containers, s.mounted.remove name⟩ := by
  have hsublist : List.Sublist (s.mounted.remove name) s.mounted := List.filter_sublist
  exact ⟨h.names.sublist (hsublist.map _), h.handles.sublist (hsublist.map _),
    fun e he => h.keys e (hsublist.subset he)⟩

theorem perform (h : s.Orderly) (action : Action C) : (action.perform s).2.Orderly := by
  cases deed h action with
  | refuses reference refers lost after => rw [after]; exact h
  | changes reference handle container refers denotes found after =>
      rw [after]
      exact h.update found (action.key_effect container)
  | adopts key content adopt after => rw [after]; exact h.append _
  | finds key content handle mount held after => rw [after]; exact h
  | mounts key content mount new after => rw [after]; exact h.mounted_append content new
  | unmounts key unmount after => rw [after]; exact h.remove (nameOf key)

theorem run (h : s.Orderly) (actions : List (Action C)) : (Surface.run actions s).Orderly := by
  induction actions generalizing s with
  | nil => exact h
  | cons action rest ih => exact ih (h.perform action)

/-- A reference denotes one container at most. -/
theorem denotes_unique (h : s.Orderly) {reference : Reference C} {handle other : Nat}
    (hhandle : s.Denotes reference handle) (hother : s.Denotes reference other) :
    other = handle := by
  have hsame := (h.denotes_iff.1 hother).1.symm.trans (h.denotes_iff.1 hhandle).1
  exact Option.some.inj hsame

/-- A reference that stands for a container stands for no other one. -/
theorem container_unique (h : s.Orderly) {reference : Reference C} {handle other : Nat}
    {container container' : Container C} (hhandle : s.Denotes reference handle)
    (hcontainer : s.containers[handle]? = some container) (hother : s.Denotes reference other)
    (hcontainer' : s.containers[other]? = some container') : container' = container := by
  rw [h.denotes_unique hhandle hother, hcontainer] at hcontainer'
  exact (Option.some.inj hcontainer').symm

end Orderly

/-! ## What is left alone -/

/-- What an action changes, and what it leaves as it was. -/
structure Isolated (action : Action C) (s : Surface C) (answer : Except (Fault C) (Option Nat))
    (s' : Surface C) : Prop where
  /-- it fails only by a reference that denotes nothing -/
  refused : ∀ fault, answer = .error fault ↔ ∃ reference, action.reference? = some reference ∧
    (∀ handle, ¬ s.Denotes reference handle) ∧ fault = .containerNotFound (reported reference)
  /-- a failure leaves everything as it was -/
  undone : ∀ fault, answer = .error fault → s' = s
  /-- it is about the one container that it refers to -/
  denoted : ∀ reference about, action.reference? = some reference → answer = .ok about →
    ∃ handle, about = some handle ∧ (∀ other, s.Denotes reference other ↔ other = handle) ∧
      s'.mounted = s.mounted
  /-- every container that it is not about stays as it was -/
  others : ∀ other < s.containers.length, answer ≠ .ok (some other) →
    s'.containers[other]? = s.containers[other]?
  /-- a mounted container is found with the content that it has -/
  found : ∀ key content handle, action = .mount key content → (nameOf key, handle) ∈ s.mounted →
    answer = .ok (some handle) ∧ s' = s
  /-- under a free name, also one that was given away before, a new container is mounted -/
  opened : ∀ key content, action = .mount key content → nameOf key ∉ s.mounted.map Prod.fst →
    answer = .ok (some s.containers.length) ∧
      s'.containers = s.containers ++ [⟨nameOf key, content, []⟩]
  /-- a container that loses its name is still there -/
  closed : ∀ key, action = .unmount key →
    s'.containers = s.containers ∧ nameOf key ∉ s'.mounted.map Prod.fst
  /-- every other name belongs to the container that it belonged to -/
  names : ∀ name, action.name? ≠ some name → s'.mounted.get? name = s.mounted.get? name
  /-- names are taken out of the order or put behind it -/
  order : List.Sublist s'.mounted s.mounted ∨ s.mounted <+: s'.mounted

namespace Orderly

variable {s : Surface C}

theorem perform_eq_error_iff (h : s.Orderly) (action : Action C) (fault : Fault C) :
    (action.perform s).1 = .error fault ↔ ∃ reference, action.reference? = some reference ∧
      (∀ handle, ¬ s.Denotes reference handle) ∧
      fault = .containerNotFound (reported reference) := by
  constructor
  · intro hfault
    cases deed h action with
    | refuses reference refers lost after =>
        rw [after] at hfault
        cases hfault
        exact ⟨reference, refers, lost, rfl⟩
    | changes reference handle container refers denotes found after =>
        rw [after] at hfault
        cases hfault
    | adopts key content adopt after => rw [after] at hfault; cases hfault
    | finds key content handle mount held after => rw [after] at hfault; cases hfault
    | mounts key content mount new after => rw [after] at hfault; cases hfault
    | unmounts key unmount after => rw [after] at hfault; cases hfault
  · rintro ⟨reference, hrefers, hlost, rfl⟩
    rw [action.perform_of_refused hrefers (h.resolve_of_lost hlost)]

theorem perform_of_error (h : s.Orderly) (action : Action C) {fault : Fault C}
    (hfault : (action.perform s).1 = .error fault) : (action.perform s).2 = s := by
  obtain ⟨reference, hrefers, hlost, -⟩ := (h.perform_eq_error_iff action fault).1 hfault
  rw [action.perform_of_refused hrefers (h.resolve_of_lost hlost)]

theorem getElem?_perform (h : s.Orderly) (action : Action C) {other : Nat}
    (hlt : other < s.containers.length) (hother : (action.perform s).1 ≠ .ok (some other)) :
    (action.perform s).2.containers[other]? = s.containers[other]? := by
  cases deed h action with
  | refuses reference refers lost after => rw [after]
  | changes reference handle container refers denotes found after =>
      rw [after] at hother ⊢
      exact getElem?_update_of_ne s (fun heq => hother (by rw [heq])) _
  | adopts key content adopt after => rw [after]; exact List.getElem?_append_left hlt
  | finds key content handle mount held after => rw [after]
  | mounts key content mount new after => rw [after]; exact List.getElem?_append_left hlt
  | unmounts key unmount after => rw [after]

/-- The names after an action: those before it, or one more, or one less. -/
theorem mounted_perform (h : s.Orderly) (action : Action C) :
    (action.perform s).2.mounted = s.mounted ∨
      (∃ key, action.name? = some (nameOf key) ∧ nameOf key ∉ s.mounted.map Prod.fst ∧
        (action.perform s).2.mounted = s.mounted ++ [(nameOf key, s.containers.length)]) ∨
      ∃ key, action.name? = some (nameOf key) ∧
        (action.perform s).2.mounted = s.mounted.remove (nameOf key) := by
  cases deed h action with
  | refuses reference refers lost after => exact Or.inl (by rw [after])
  | changes reference handle container refers denotes found after =>
      exact Or.inl (by rw [after]; rfl)
  | adopts key content adopt after => exact Or.inl (by rw [after])
  | finds key content handle mount held after => exact Or.inl (by rw [after])
  | mounts key content mount new after =>
      exact Or.inr (Or.inl ⟨key, by rw [mount]; rfl, new, by rw [after]⟩)
  | unmounts key unmount after =>
      exact Or.inr (Or.inr ⟨key, by rw [unmount]; rfl, by rw [after]⟩)

theorem get?_perform (h : s.Orderly) (action : Action C) {name : String}
    (hname : action.name? ≠ some name) :
    (action.perform s).2.mounted.get? name = s.mounted.get? name := by
  rcases h.mounted_perform action with
    hsame | ⟨key, hkey, hnew, happend⟩ | ⟨key, hkey, hremove⟩
  · rw [hsame]
  · have hne : name ≠ nameOf key := fun heq => hname (heq ▸ hkey)
    rw [happend, ← Table.put_of_not_mem _ hnew]
    exact Table.get?_put_of_ne hne _ _
  · have hne : name ≠ nameOf key := fun heq => hname (heq ▸ hkey)
    rw [hremove]
    exact Table.get?_remove_of_ne hne _

theorem order_perform (h : s.Orderly) (action : Action C) :
    List.Sublist (action.perform s).2.mounted s.mounted ∨
      s.mounted <+: (action.perform s).2.mounted := by
  rcases h.mounted_perform action with
    hsame | ⟨key, -, -, happend⟩ | ⟨key, -, hremove⟩
  · exact Or.inl (hsame ▸ List.Sublist.refl _)
  · exact Or.inr (happend ▸ List.prefix_append _ _)
  · exact Or.inl (hremove ▸ List.filter_sublist)

/-- Every action leaves alone what it is not about. -/
theorem isolated (h : s.Orderly) (action : Action C) :
    Isolated action s (action.perform s).1 (action.perform s).2 := by
  refine ⟨h.perform_eq_error_iff action, fun fault => h.perform_of_error action, ?_,
    fun other hlt => h.getElem?_perform action hlt, ?_, ?_, ?_,
    fun name => h.get?_perform action, h.order_perform action⟩
  · intro reference about hrefers habout
    rcases perform_of_refers h hrefers with
      ⟨-, hafter⟩ | ⟨handle, container, hdenotes, -, hafter⟩
    · rw [hafter] at habout
      cases habout
    · rw [hafter] at habout ⊢
      cases habout
      refine ⟨handle, rfl, ?_, rfl⟩
      intro other
      exact ⟨h.denotes_unique hdenotes, fun heq => heq ▸ hdenotes⟩
  · rintro key content handle rfl hheld
    show Except.ok (some (s.mount key content).1) = _ ∧ (s.mount key content).2 = _
    rw [mount_of_mem h hheld]
    exact ⟨rfl, rfl⟩
  · rintro key content rfl hnew
    show Except.ok (some (s.mount key content).1) = _ ∧ (s.mount key content).2.containers = _
    rw [mount_of_not_mem hnew]
    exact ⟨rfl, rfl⟩
  · rintro key rfl
    refine ⟨rfl, ?_⟩
    intro hmem
    obtain ⟨e, he, heq⟩ := List.mem_map.1 hmem
    simpa [heq] using (List.mem_filter.1 he).2

theorem length_le_perform (h : s.Orderly) (action : Action C) :
    s.containers.length ≤ (action.perform s).2.containers.length := by
  cases deed h action with
  | refuses reference refers lost after => exact after ▸ Nat.le_refl _
  | changes reference handle container refers denotes found after =>
      simp [after, Surface.update]
  | adopts key content adopt after => simp [after]
  | finds key content handle mount held after => exact after ▸ Nat.le_refl _
  | mounts key content mount new after => simp [after]
  | unmounts key unmount after => exact after ▸ Nat.le_refl _

/-- A container that no action of a run was about is as it was before the run. -/
theorem getElem?_run (h : s.Orderly) (actions : List (Action C)) {handle : Nat}
    (hlt : handle < s.containers.length)
    (hother : ∀ step ∈ trace actions s, step.2 ≠ some handle) :
    (Surface.run actions s).containers[handle]? = s.containers[handle]? := by
  induction actions generalizing s with
  | nil => rfl
  | cons action rest ih =>
      have hfirst : (action.perform s).1 ≠ .ok (some handle) := by
        intro habout
        refine hother (action, action.about? s) (by simp [trace]) ?_
        simp only [Action.about?, habout]
      have hrest := ih (h.perform action) (Nat.lt_of_lt_of_le hlt (h.length_le_perform action))
        fun step hstep => hother step (List.mem_cons_of_mem _ hstep)
      exact hrest.trans (h.getElem?_perform action hlt hfirst)

end Orderly

/-- After any run, an action does all that its operation says or nothing at all; it changes at most
the one container that its reference stands for, and no run changes a container that none of its
actions is about. -/
theorem perform_isolated (before : List (Action C)) (action : Action C) :
    ∃ answer s', action.perform (run before empty) = (answer, s') ∧
      action.operate (run before empty) = answer.map (fun about => (about, s')) ∧
      Isolated action (run before empty) answer s' ∧
      ∀ handle < s'.containers.length, ∀ later : List (Action C),
        (∀ step ∈ trace later s', step.2 ≠ some handle) →
        (run later s').containers[handle]? = s'.containers[handle]? := by
  have hbefore := Orderly.empty.run before
  have hafter := hbefore.perform action
  exact ⟨_, _, rfl, action.operate_eq _, hbefore.isolated action,
    fun handle hlt later => hafter.getElem?_run later hlt⟩

end Surface
end MarkupTree
