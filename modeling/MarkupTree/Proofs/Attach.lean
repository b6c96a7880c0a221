import MarkupTree.Proofs.Runs

/-!
# Attach — handlers that reach their tags

When a rendering is attached to a container, every binding finds its tag in the markup. The table of
handlers is then the list of bindings, whatever the container held before.

* `Binding.Recorded` says what holds of the bindings of one rendering.
* `Container.attach_eq` is the container afterwards.
* `Surface.attach_rendering` puts both together.
-/

namespace MarkupTree

variable {C σ : Type}

/-! ## Tables -/

namespace Table

variable {α : Type}

theorem adjust_last {name : String} (f : Option α → α) (a : α) {t : Table α}
    (h : name ∉ t.map Prod.fst) :
    adjust name f (t ++ [(name, a)]) = t ++ [(name, f (some a))] := by
  induction t with
  | nil => simp [adjust]
  | cons e rest ih =>
      have he : e.1 ≠ name := by
        intro heq
        exact h (by simp [heq])
      have hrest : name ∉ rest.map Prod.fst := by
        intro hmem
        exact h (List.mem_cons_of_mem _ hmem)
      simp [adjust, he, ih hrest]

theorem get?_of_mem {name : String} {a : α} {t : Table α} (h : (t.map Prod.fst).Nodup)
    (hmem : (name, a) ∈ t) : t.get? name = some a := by
  induction t with
  | nil => cases hmem
  | cons e rest ih =>
      have hparts := List.nodup_cons.1 h
      rcases List.mem_cons.1 hmem with rfl | hrest
      · simp [get?]
      · have he : e.1 ≠ name := by
          intro heq
          exact hparts.1 (heq ▸ List.mem_map_of_mem hrest)
        simpa [get?, he] using ih hparts.2 hrest

theorem mem_names_of_get? {name : String} {a : α} {t : Table α} (h : t.get? name = some a) :
    name ∈ t.names :=
  List.mem_map_of_mem (f := Prod.fst) (mem_of_get? h)

end Table

/-! ## Bindings of one rendering -/

namespace Binding

/-- What is put into a table of handlers for a binding. -/
def row (b : Binding C) : String × Table (List (Callable (Value C) C)) :=
  (b.id, b.events.map fun e => (e.1, [e.2]))

theorem names_row (b : Binding C) : (b.row.2).map Prod.fst = b.events.map Prod.fst := by
  simp [row]

theorem map_row_fst (bs : List (Binding C)) :
    (bs.map row).map Prod.fst = bs.map Binding.id := by
  simp [row]

/-- The bindings differ in their ids, and each of them holds handlers, under different events. -/
structure Recorded (bs : List (Binding C)) : Prop where
  ids : (bs.map Binding.id).Nodup
  events : ∀ b ∈ bs, (b.events.map Prod.fst).Nodup
  handlers : ∀ b ∈ bs, b.events ≠ []

end Binding

theorem TagVisit.recorded_bindings (stem : String) (issued : Nat) {ts : List (TagVisit C)}
    (h : ∀ t ∈ ts, t.isHandled = true) : Binding.Recorded (bindings stem issued ts) := by
  refine ⟨nodup_ids stem issued ts, ?_, ?_⟩
  · intro b hb
    rcases List.mem_mapIdx.1 hb with ⟨i, hi, rfl⟩
    exact Table.nodup_names_ofPairs _
  · intro b hb
    rcases List.mem_mapIdx.1 hb with ⟨i, hi, rfl⟩
    have hhandled := h ts[i] (List.getElem_mem hi)
    intro hempty
    have hnone : ts[i].explicit.handlers = [] := Table.ofPairs_eq_nil.1 hempty
    simp [isHandled, hnone] at hhandled

/-! ## Containers -/

namespace Container

theorem addListener_new {id : String} (event : String) (f : Callable (Value C) C)
    {container : Container C} (h : id ∉ container.listeners.map Prod.fst) :
    container.addListener id event f =
      { container with listeners := container.listeners ++ [(id, [(event, [f])])] } := by
  unfold addListener
  rw [Table.adjust_of_not_mem _ h]
  rfl

theorem addListener_last {id event : String} (f : Callable (Value C) C) (container : Container C)
    {t : Table (Table (List (Callable (Value C) C)))}
    {events : Table (List (Callable (Value C) C))} (hid : id ∉ t.map Prod.fst)
    (hevent : event ∉ events.map Prod.fst) :
    addListener id event f { container with listeners := t ++ [(id, events)] } =
      { container with listeners := t ++ [(id, events ++ [(event, [f])])] } := by
  unfold addListener
  simp only [Table.adjust_last _ _ hid, Option.getD_some, Table.adjust_of_not_mem _ hevent,
    Option.getD_none, List.nil_append]

/-- Handlers under new events go behind those in the last row. -/
theorem foldl_addListener {id : String} (container : Container C)
    {t : Table (Table (List (Callable (Value C) C)))} (hid : id ∉ t.map Prod.fst)
    (es : Table (Callable (Value C) C)) :
    ∀ events : Table (List (Callable (Value C) C)),
      (events.map Prod.fst ++ es.map Prod.fst).Nodup →
      es.foldl (fun container e => container.addListener id e.1 e.2)
          { container with listeners := t ++ [(id, events)] } =
        { container with
          listeners := t ++ [(id, events ++ es.map fun e => (e.1, [e.2]))] } := by
  induction es with
  | nil =>
      intro events _
      simp
  | cons e rest ih =>
      intro events hnodup
      have hnew : e.1 ∉ events.map Prod.fst := by
        intro hmem
        exact (List.nodup_append.1 hnodup).2.2 e.1 hmem e.1 (by simp) rfl
      have hrest := ih (events ++ [(e.1, [e.2])]) (by simpa using hnodup)
      rw [List.foldl_cons, addListener_last e.2 container hid hnew, hrest]
      simp

/-- A binding under a new id adds one row. -/
theorem bind_eq {b : Binding C} {container : Container C}
    (hid : b.id ∉ container.listeners.map Prod.fst) (hevents : (b.events.map Prod.fst).Nodup)
    (hhandlers : b.events ≠ []) :
    container.bind b = { container with listeners := container.listeners ++ [b.row] } := by
  unfold bind
  cases hlist : b.events with
  | nil => exact absurd hlist hhandlers
  | cons e rest =>
      -- the first handler makes the row, the others are added to it
      rw [hlist] at hevents
      have hrest := foldl_addListener container hid rest [(e.1, [e.2])] (by simpa using hevents)
      rw [List.foldl_cons, addListener_new e.1 e.2 hid, hrest]
      simp [Binding.row, hlist]

theorem foldl_bind {bs : List (Binding C)} (h : Binding.Recorded bs) (container : Container C)
    (hnew : ∀ b ∈ bs, b.id ∉ container.listeners.map Prod.fst) :
    bs.foldl (fun container b => container.bind b) container =
      { container with listeners := container.listeners ++ bs.map Binding.row } := by
  induction bs generalizing container with
  | nil => simp
  | cons b rest ih =>
      have hids := List.nodup_cons.1 h.ids
      have hrest : Binding.Recorded rest := by
        refine ⟨hids.2, ?_, ?_⟩
        · exact fun b' hb' => h.events b' (List.mem_cons_of_mem _ hb')
        · exact fun b' hb' => h.handlers b' (List.mem_cons_of_mem _ hb')
      have hfirst := bind_eq (hnew b (by simp)) (h.events b (by simp)) (h.handlers b (by simp))
      rw [List.foldl_cons, hfirst, ih hrest]
      · simp
      · -- a later id is neither among the old ones nor the one that was just added
        intro b' hb' hmem
        have hmem : b'.id ∈ (container.listeners ++ [b.row]).map Prod.fst := hmem
        rw [List.map_append] at hmem
        rcases List.mem_append.1 hmem with hold | hlast
        · exact hnew b' (List.mem_cons_of_mem _ hb') hold
        · have hsame : b'.id = b.id := by simpa [Binding.row] using hlast
          exact hids.1 (hsame ▸ List.mem_map_of_mem hb')

/-- When all tags are there, attaching leaves the markup and a row for every binding, and nothing
of what was there before. -/
theorem attach_eq {bs : List (Binding C)} (h : Binding.Recorded bs) (markup : String)
    (container : Container C)
    (hpresent : ∀ b ∈ bs, (container.write markup).hasElement b.id = true) :
    container.attach markup bs = ⟨container.key, markup, bs.map Binding.row⟩ := by
  -- every binding finds its tag, so the filter keeps them all
  have hall : bs.filter (fun b => (container.write markup).hasElement b.id) = bs :=
    List.filter_eq_self.2 hpresent
  unfold attach bindPresent
  rw [hall, foldl_bind h (container.write markup) (by simp [write, clear])]
  simp [write, clear]

theorem attachNotices_eq {bs : List (Binding C)} (markup : String) (container : Container C)
    (hpresent : ∀ b ∈ bs, (container.write markup).hasElement b.id = true) :
    container.attachNotices markup bs = [.attached bs.length container.key] := by
  have hmissing : bs.filter (fun b => !(container.write markup).hasElement b.id) = [] := by
    rw [List.filter_eq_nil_iff]
    intro b hb
    simp [hpresent b hb]
  have hcount : bs.countP (fun b => (container.write markup).hasElement b.id) = bs.length :=
    List.countP_eq_length.2 hpresent
  unfold attachNotices
  simp only [hmissing, hcount, List.map_nil, List.nil_append]

theorem handlers_of_mem {bs : List (Binding C)} (h : Binding.Recorded bs) (key content : String)
    {b : Binding C} (hb : b ∈ bs) {e : String × Callable (Value C) C} (he : e ∈ b.events) :
    handlers ⟨key, content, bs.map Binding.row⟩ b.id e.1 = [e.2] := by
  have hrow : Table.get? b.id (bs.map Binding.row) = some b.row.2 := by
    apply Table.get?_of_mem
    · rw [Binding.map_row_fst]
      exact h.ids
    · exact List.mem_map_of_mem hb
  have hevent : Table.get? e.1 b.row.2 = some [e.2] := by
    apply Table.get?_of_mem
    · rw [Binding.names_row]
      exact h.events b hb
    · exact List.mem_map_of_mem (f := fun e => (e.1, [e.2])) he
  unfold handlers
  simp only [hrow, Option.bind_some, hevent, Option.getD_some]

theorem handlers_of_not_mem {bs : List (Binding C)} (key content : String) {id event : String}
    (h : ∀ b ∈ bs, b.id = id → event ∉ b.events.map Prod.fst) :
    handlers ⟨key, content, bs.map Binding.row⟩ id event = [] := by
  unfold handlers
  cases hrow : Table.get? id (bs.map Binding.row) with
  | none => rfl
  | some events =>
      rcases List.mem_map.1 (Table.mem_of_get? hrow) with ⟨b, hb, heq⟩
      cases hevent : Table.get? event events with
      | none => simp [hevent]
      | some fs =>
          -- a handler that is found would be one of a binding with this id and this event
          have hid : b.id = id := congrArg Prod.fst heq
          have hevents : b.row.2 = events := congrArg Prod.snd heq
          have hmem := Table.mem_names_of_get? hevent
          rw [← hevents] at hmem
          have hname : event ∈ b.events.map Prod.fst := by
            rw [← Binding.names_row]
            exact hmem
          exact absurd hname (h b hb hid)

end Container

/-! ## Surfaces -/

namespace Surface

theorem resolve_eq_ok {s : Surface C} {reference : Reference C} {handle : Nat}
    {container : Container C} :
    s.resolve reference = .ok (handle, container) ↔
      s.position? reference = some handle ∧ s.containers[handle]? = some container := by
  unfold resolve
  cases hposition : s.position? reference with
  | none => simp
  | some position =>
      cases hcontainer : s.containers[position]? with
      | none =>
          simp only [Option.bind_some, hcontainer, Option.map_none, reduceCtorEq, Option.some.injEq,
            false_iff, not_and]
          rintro rfl
          simp [hcontainer]
      | some found =>
          simp only [Option.bind_some, hcontainer, Option.map_some, Except.ok.injEq, Prod.mk.injEq,
            Option.some.injEq]
          constructor
          · rintro ⟨rfl, rfl⟩
            exact ⟨rfl, hcontainer⟩
          · rintro ⟨rfl, hsame⟩
            rw [hcontainer] at hsame
            exact ⟨rfl, Option.some.inj hsame⟩

/-- A surface in which one container was changed. -/
def update (s : Surface C) (handle : Nat) (container : Container C) : Surface C :=
  { s with containers := s.containers.set handle container }

theorem resolve_update {s : Surface C} {reference : Reference C} {handle : Nat}
    {old : Container C} (h : s.resolve reference = .ok (handle, old)) (new : Container C) :
    (s.update handle new).resolve reference = .ok (handle, new) := by
  rcases resolve_eq_ok.1 h with ⟨hposition, hcontainer⟩
  -- the reference stands for the same position, where the new container is
  have hlt : handle < s.containers.length := (List.getElem?_eq_some_iff.1 hcontainer).1
  refine resolve_eq_ok.2 ⟨?_, ?_⟩
  · cases reference <;> exact hposition
  · simp [update, hlt]

theorem attach_apply {s : Surface C} {reference : Reference C} {handle : Nat}
    {container : Container C} (h : s.resolve reference = .ok (handle, container))
    (markup : String) (bs : List (Binding C)) :
    s.attach reference markup bs =
      .ok (handle, s.update handle (container.attach markup bs),
        container.attachNotices markup bs) := by
  unfold attach change
  rw [h]
  rfl

theorem dispatch_apply (B : Behaviour C σ) {s : Surface C} {reference : Reference C}
    {handle : Nat} {container : Container C} (h : s.resolve reference = .ok (handle, container))
    (id event : String) (v : Value C) :
    s.dispatch B reference id event v =
      (container.handlers id event).mapM fun f => Session.callHandler B f v := by
  unfold dispatch handlers
  rw [h]
  rfl

theorem dispatch_single (B : Behaviour C σ) {s : Surface C} {reference : Reference C}
    {handle : Nat} {container : Container C} (h : s.resolve reference = .ok (handle, container))
    {id event : String} {f : Callable (Value C) C} (hf : container.handlers id event = [f])
    (v : Value C) :
    s.dispatch B reference id event v = do
      let answer ← Session.callHandler B f v
      return [answer] := by
  rw [dispatch_apply B h, hf, List.mapM_cons, List.mapM_nil]
  simp

theorem dispatch_none (B : Behaviour C σ) {s : Surface C} {reference : Reference C}
    {handle : Nat} {container : Container C} (h : s.resolve reference = .ok (handle, container))
    {id event : String} (hnone : container.handlers id event = []) (v : Value C) :
    s.dispatch B reference id event v = return [] := by
  rw [dispatch_apply B h, hnone, List.mapM_nil]

end Surface

/-! ## Attaching a rendering -/

theorem Visited.hasElement_of_mem {forest : Visited C} (h : forest.Sound) (stem : String)
    (container : Container C) :
    ∀ b ∈ (forest.rendering stem).bindings,
      (container.write (forest.rendering stem).markup).hasElement b.id = true := by
  intro b hb
  rw [rendering_bindings h] at hb
  have hid : b.id ∈ (forest.labelled (some (.start stem))).1.markers :=
    (sublist_markers h (.start stem)).subset (List.mem_map_of_mem hb)
  have hinfix := Run.markerOf_infix hid
  rw [Forest.printAll_runs] at hinfix
  exact (Text.occursIn_iff _ _).2 hinfix

theorem Visited.recorded_rendering {forest : Visited C} (h : forest.Sound) (stem : String) :
    Binding.Recorded (forest.rendering stem).bindings := by
  rw [rendering_bindings h]
  exact TagVisit.recorded_bindings stem 0 fun t ht => (List.mem_filter.1 ht).2

/-- A container to which a rendering was attached holds its markup and one handler for every event
of every binding. -/
theorem Visited.attach_rendering_eq {forest : Visited C} (h : forest.Sound) (stem : String)
    (container : Container C) :
    container.attach (forest.rendering stem).markup (forest.rendering stem).bindings =
      ⟨container.key, (forest.rendering stem).markup,
        (forest.rendering stem).bindings.map Binding.row⟩ :=
  Container.attach_eq (recorded_rendering h stem) _ container (hasElement_of_mem h stem container)

namespace Surface

/-- No recorded handler is lost: after a rendering is attached, every event of a binding calls its
handler and nothing else calls anything. -/
theorem attach_rendering {B : Behaviour C σ} {settings : Settings} {elements : List (Value C)}
    {press after : Press σ} {rendering : Rendering C} (reached : press.Reached C)
    (hrender : Renderer.render B settings elements press = (.ok rendering, after))
    {s : Surface C} {reference : Reference C} {handle : Nat} {container : Container C}
    (hresolve : s.resolve reference = .ok (handle, container)) :
    ∃ attached : Container C,
      attached = ⟨container.key, rendering.markup,
        rendering.bindings.map fun b => (b.id, b.events.map fun e => (e.1, [e.2]))⟩ ∧
      s.attach reference rendering.markup rendering.bindings =
        .ok (handle, s.update handle attached,
          [.attached rendering.bindings.length container.key]) ∧
      (s.update handle attached).resolve reference = .ok (handle, attached) ∧
      (∀ b ∈ rendering.bindings, ∀ e ∈ b.events,
        attached.handlers b.id e.1 = [e.2] ∧
        ∀ {τ : Type} (B' : Behaviour C τ) (v : Value C),
          (s.update handle attached).dispatch B' reference b.id e.1 v = do
            let answer ← Session.callHandler B' e.2 v
            return [answer]) ∧
      ∀ id event, (∀ b ∈ rendering.bindings, b.id = id → event ∉ b.events.map Prod.fst) →
        attached.handlers id event = [] ∧
        ∀ {τ : Type} (B' : Behaviour C τ) (v : Value C),
          (s.update handle attached).dispatch B' reference id event v = return [] := by
  rcases Renderer.visit_of_render reached hrender with ⟨forest, visited, hvisit, -, rfl⟩
  have hsound := Renderer.visitAll_sound hvisit
  have hpresent := Visited.hasElement_of_mem hsound settings.idStem container
  have hrecorded : Binding.Recorded (forest.rendering settings.idStem).bindings := by
    rw [Visited.rendering_bindings hsound]
    apply TagVisit.recorded_bindings
    intro t ht
    exact (List.mem_filter.1 ht).2
  have hattach := attach_apply hresolve (forest.rendering settings.idStem).markup
    (forest.rendering settings.idStem).bindings
  rw [Container.attach_eq hrecorded _ container hpresent,
    Container.attachNotices_eq _ container hpresent] at hattach
  have hafter := resolve_update hresolve ⟨container.key, (forest.rendering settings.idStem).markup,
    (forest.rendering settings.idStem).bindings.map Binding.row⟩
  refine ⟨_, rfl, hattach, hafter, ?_, ?_⟩
  · intro b hb e he
    have hhandlers := Container.handlers_of_mem hrecorded container.key
      (forest.rendering settings.idStem).markup hb he
    exact ⟨hhandlers, fun B' v => dispatch_single B' hafter hhandlers v⟩
  · intro id event hnone
    have hhandlers := Container.handlers_of_not_mem container.key
      (forest.rendering settings.idStem).markup hnone
    exact ⟨hhandlers, fun B' v => dispatch_none B' hafter hhandlers v⟩

/-- A surface with a container that holds old markup and an old handler. -/
def usedSurface : Surface Nat :=
  ⟨[⟨"app", "<p data-hiccpy-id=\"old\">", [("old", [("click", [.sample "stale"])])]⟩],
    [("app", 0)]⟩

def quotedStem : Settings :=
  { Settings.standard with idStem := "a\"&", idStem_ne_empty := by decide }

theorem attach_rendering_usedSurface :
    (Press.start 10 () : Press Unit).Reached Nat ∧
      ∃ rendering after container attached,
        Renderer.render .echo quotedStem [Renderer.handledTags] (.start 10 ()) =
          (.ok rendering, after) ∧
        usedSurface.resolve (.value (.str "#app")) = .ok (0, container) ∧
        usedSurface.attach (.value (.str "#app")) rendering.markup rendering.bindings =
          .ok (0, usedSurface.update 0 attached, [.attached 2 "app"]) ∧
        (attached.handlers "a\"&2" "Blur").map Callable.name = ["leave"] ∧
        attached.handlers "old" "click" = [] := by
  have hreached : (Press.start 10 () : Press Unit).Reached Nat := .start 10 ()
  have hanswer :
      (Renderer.render .echo quotedStem [Renderer.handledTags] (.start 10 ())).1.toOption.map
        (fun rendering => rendering.bindings.map fun b =>
          (b.id, b.events.map fun e => (e.1, e.2.name))) =
      some [("a\"&1", [("submit", "send")]), ("a\"&2", [("input", "edit"), ("Blur", "leave")])] := by
    decide +kernel
  rcases Option.map_eq_some_iff.1 hanswer with ⟨rendering, hsome, hbindings⟩
  have hrender := Attempt.apply_eq_of_toOption hsome
  have hresolve : usedSurface.resolve (.value (.str "#app")) =
      .ok (0, ⟨"app", "<p data-hiccpy-id=\"old\">", [("old", [("click", [.sample "stale"])])]⟩) :=
    resolve_eq_ok.2 ⟨by decide +kernel, rfl⟩
  rcases attach_rendering hreached hrender hresolve with
    ⟨attached, -, hattach, -, hkept, hnone⟩
  have hlength : rendering.bindings.length = 2 := by
    simpa using congrArg List.length hbindings
  refine ⟨hreached, rendering, _, _, attached, hrender, hresolve, ?_, ?_, ?_⟩
  · rw [hattach, hlength]
  · have hmem : ("a\"&2", [("input", "edit"), ("Blur", "leave")]) ∈ rendering.bindings.map
        fun b => (b.id, b.events.map fun e => (e.1, e.2.name)) := by
      rw [hbindings]
      simp
    rcases List.mem_map.1 hmem with ⟨b, hb, hrow⟩
    rcases Prod.mk.inj hrow with ⟨hid, hevents⟩
    have hevent : ("Blur", "leave") ∈ b.events.map fun e => (e.1, e.2.name) := by
      rw [hevents]
      simp
    rcases List.mem_map.1 hevent with ⟨e, he, hpair⟩
    rcases Prod.mk.inj hpair with ⟨hname, hhandler⟩
    rw [← hid, ← hname, (hkept b hb e he).1, List.map_singleton, hhandler]
  · refine (hnone "old" "click" ?_).1
    intro b hb hid
    have hmem := List.mem_map_of_mem
      (f := fun b => (b.id, b.events.map fun e => (e.1, e.2.name))) hb
    rw [hbindings, hid] at hmem
    simp at hmem

end Surface
end MarkupTree
