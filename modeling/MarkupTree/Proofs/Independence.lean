import Mathlib.Logic.Function.Basic
import MarkupTree.Proofs.History

/-!
# Independence — renderings do not depend on earlier ones

Several renderers may share stores of selectors, of any size, and every call leaves the stores in
another state: a call that fails in the middle leaves what it had read, and a full store drops what
came first. None of this can be noticed in the answer to a later call.

* `Studio` is a family of renderers with their stores, `Studio.run` is any sequence of calls.
* `Press.Keeps` follows what holds of a store through a rendering.
* `Studio.perform_eq_alone` compares every call with the same call on a new renderer.
-/

namespace MarkupTree

variable {C σ : Type}

/-! ## What a rendering keeps of a store -/

/-- Whatever a computation does, a property of the store stays true. -/
def Press.Keeps (P : Cache (Tag String) → Prop) {α : Type} (m : Attempt (Press σ) C α) : Prop :=
  ∀ press, P press.cache → P (m press).2.cache

namespace Press.Keeps

variable {P : Cache (Tag String) → Prop}

theorem bind {α β : Type} {m : Attempt (Press σ) C α} {f : α → Attempt (Press σ) C β}
    (hm : Keeps P m) (hf : ∀ a, Keeps P (f a)) : Keeps P (m >>= f) := by
  intro press hpress
  have hfirst := hm press hpress
  cases hrun : m press with
  | mk answer press₁ =>
      rw [hrun] at hfirst
      cases answer with
      | error fault =>
          rw [Attempt.bind_apply_error hrun]
          exact hfirst
      | ok a =>
          rw [Attempt.bind_apply_ok hrun]
          exact hf a press₁ hfirst

theorem closed : Attempt.Closed (σ := σ) (C := C) (fun m _ => Keeps P m) := by
  refine ⟨?_, ?_, fun hm hf => hm.bind hf⟩
  · intro α answer press hpress
    rw [Attempt.ofExcept_apply]
    exact hpress
  · intro α step press hpress
    exact hpress

/-- What holds of a store after every selector that is read holds of it after a rendering. -/
theorem readStored (h : ∀ (cache stored : Cache (Tag String)) selector tag left, P cache →
      cache.parse Tag.parse selector = .ok (tag, stored, left) → P stored) (selector : String) :
    Keeps P (Press.readStored selector : Attempt (Press σ) C (Tag String)) := by
  intro press hpress
  unfold Press.readStored
  cases hparse : press.cache.parse Tag.parse selector with
  | ok found =>
      rcases found with ⟨tag, stored, left⟩
      exact h press.cache stored selector tag left hpress hparse
  | error fault => cases fault <;> exact hpress

end Press.Keeps

namespace Cache

/-- A store with room for something, which holds no more than there is room for. -/
structure Fits (cache : Cache (Tag String)) : Prop where
  room : 1 ≤ cache.capacity
  size_le : (cache.size : Int) ≤ cache.capacity

theorem Fits.empty {capacity : Int} (h : 1 ≤ capacity) : (Cache.empty capacity).Fits := by
  refine ⟨h, ?_⟩
  show ((0 : Nat) : Int) ≤ capacity
  omega

theorem Fits.of_parse_ok {cache stored : Cache (Tag String)} {selector : String}
    {tag : Tag String} {left : List String} (h : cache.Fits)
    (hparse : cache.parse Tag.parse selector = .ok (tag, stored, left)) : stored.Fits := by
  rcases parse_eq_ok hparse with ⟨-, rfl, -⟩ | ⟨-, -, hroom, rfl, -⟩
  · exact h
  · -- as many leave as are too many with the new one
    refine ⟨h.room, ?_⟩
    have hsize : (cache.entries.drop cache.surplus ++ [(selector, tag)]).length =
        cache.entries.length - (cache.entries.length + 1 - cache.capacity).toNat + 1 := by
      simp [surplus]
    show (((cache.entries.drop cache.surplus ++ [(selector, tag)]).length : Nat) : Int) ≤
      cache.capacity
    rw [hsize]
    omega

end Cache

/-! ## Renderings through different stores -/

/-- The store is faithful and has room. -/
structure Press.Settled (press : Press σ) : Prop where
  faithful : press.cache.Faithful
  fits : press.cache.Fits

namespace Renderer

variable (B : Behaviour C σ) (settings : Settings) (elements : List (Value C))

theorem visitAll_keeps {P : Cache (Tag String) → Prop}
    (h : ∀ (cache stored : Cache (Tag String)) selector tag left, P cache →
      cache.parse Tag.parse selector = .ok (tag, stored, left) → P stored) :
    Press.Keeps P (visitAll B Press.readStored settings elements) :=
  visit_related (R := fun m _ => Press.Keeps P m) Press.Keeps.closed Press.readStored
    Press.readStored (Press.Keeps.readStored h) B settings.maxDepth (settings.maxDepth + 1)
    (root elements)

/-- Through a store with room, a visit ends as if every selector were read afresh. -/
theorem visitAll_eq_afresh {press : Press σ} (h : press.Settled) (press' : Press σ)
    (hsession : press.session = press'.session) :
    (visitAll B Press.readStored settings elements press).1 =
        (visitAll B Press.readAfresh settings elements press').1 ∧
      (visitAll B Press.readStored settings elements press).2.session =
        (visitAll B Press.readAfresh settings elements press').2.session := by
  rcases visitAll_agrees B settings elements press press' h.faithful hsession with
    ⟨-, -, hsame | ⟨-, hnone⟩⟩
  · exact hsame
  · have hroom := h.fits.room
    omega

theorem visitAll_settled {press : Press σ} (h : press.Settled) :
    (visitAll B Press.readStored settings elements press).2.Settled ∧
      (visitAll B Press.readStored settings elements press).2.cache.capacity =
        press.cache.capacity := by
  rcases visitAll_agrees B settings elements press press h.faithful rfl with
    ⟨hfaithful, hcapacity, -⟩
  have hfits := visitAll_keeps B settings elements (P := Cache.Fits)
    (fun _ _ _ _ _ hfits hparse => hfits.of_parse_ok hparse) press h.fits
  exact ⟨⟨hfaithful, hfits⟩, hcapacity⟩

end Renderer

/-! ## Studios -/

/-- Renderers and the stores of selectors that they read through. A store may belong to one
renderer or to several. -/
structure Studio (ι κ : Type) where
  settings : ι → Settings
  store : ι → κ
  capacity : κ → Int
  room : ∀ k, 1 ≤ capacity k

namespace Studio

/-- What the calls of a studio change. -/
structure State (κ σ : Type) where
  stores : κ → Cache (Tag String)
  notices : List Notice
  session : Session σ

/-- What can be asked of a studio. -/
inductive Call (ι κ C σ : Type)
  | html (r : ι) (elements : List (Value C))
  | render (r : ι) (elements : List (Value C))
  /-- a store is cleared -/
  | clear (k : κ)
  /-- something happens that is not rendering -/
  | elsewhere (change : Session σ → Session σ)

inductive Answer (C : Type)
  | markup (answer : Except (Fault C) String)
  | rendering (answer : Except (Fault C) (Rendering C))
  | done

variable {ι κ : Type}

def State.press (state : State κ σ) (k : κ) : Press σ :=
  ⟨state.stores k, state.notices, state.session⟩

def opening (studio : Studio ι κ) (session : Session σ) : State κ σ :=
  ⟨fun k => Cache.empty (studio.capacity k), [], session⟩

variable [DecidableEq κ]

def State.take (state : State κ σ) (k : κ) (press : Press σ) : State κ σ :=
  ⟨Function.update state.stores k press.cache, press.notices, press.session⟩

/-- Makes a call. What it leaves in the store stays there also after a fault. -/
def perform (studio : Studio ι κ) (B : Behaviour C σ) (call : Call ι κ C σ) (state : State κ σ) :
    Answer C × State κ σ :=
  match call with
  | .html r elements =>
    let (answer, press) :=
      Renderer.html B (studio.settings r) elements (state.press (studio.store r))
    (.markup answer, state.take (studio.store r) press)
  | .render r elements =>
    let (answer, press) :=
      Renderer.render B (studio.settings r) elements (state.press (studio.store r))
    (.rendering answer, state.take (studio.store r) press)
  | .clear k =>
    (.done, { state with stores := Function.update state.stores k (state.stores k).clear })
  | .elsewhere change => (.done, { state with session := change state.session })

def run (studio : Studio ι κ) (B : Behaviour C σ) (calls : List (Call ι κ C σ))
    (state : State κ σ) : State κ σ :=
  calls.foldl (fun state call => (studio.perform B call state).2) state

/-- A renderer that was made just now, with an empty store of its own. -/
def fresh (settings : Settings) (session : Session σ) : Press σ :=
  ⟨Cache.empty settings.cacheSize, [], session⟩

/-- Makes a call on a renderer with the same settings that was made for this call alone. -/
def alone (studio : Studio ι κ) (B : Behaviour C σ) (call : Call ι κ C σ)
    (session : Session σ) : Answer C × Session σ :=
  match call with
  | .html r elements =>
    let (answer, press) := Renderer.html B (studio.settings r) elements
      (fresh (studio.settings r) session)
    (.markup answer, press.session)
  | .render r elements =>
    let (answer, press) := Renderer.render B (studio.settings r) elements
      (fresh (studio.settings r) session)
    (.rendering answer, press.session)
  | .clear _ => (.done, session)
  | .elsewhere change => (.done, change session)

/-! ## Stores stay sound -/

/-- Every store has the size that it was made with, holds no more than that, and holds nothing but
what its selectors are read as. -/
structure Sound (studio : Studio ι κ) (state : State κ σ) : Prop where
  capacity_eq : ∀ k, (state.stores k).capacity = studio.capacity k
  fits : ∀ k, (state.stores k).Fits
  faithful : ∀ k, (state.stores k).Faithful

variable {studio : Studio ι κ} {state : State κ σ}

omit [DecidableEq κ] in
theorem Sound.opening (studio : Studio ι κ) (session : Session σ) :
    Sound studio (studio.opening session) := by
  refine ⟨fun k => rfl, fun k => Cache.Fits.empty (studio.room k), ?_⟩
  intro k e he
  cases he

omit [DecidableEq κ] in
theorem Sound.settled (h : Sound studio state) (k : κ) : (state.press k).Settled :=
  ⟨h.faithful k, h.fits k⟩

/-- One store is replaced by a sound one, and the others are as they were. -/
theorem Sound.update (h : Sound studio state) {k : κ} {cache : Cache (Tag String)}
    (hcapacity : cache.capacity = studio.capacity k) (hfits : cache.Fits)
    (hfaithful : cache.Faithful) (notices : List Notice) (session : Session σ) :
    Sound studio ⟨Function.update state.stores k cache, notices, session⟩ := by
  refine ⟨?_, ?_, ?_⟩
  · exact (Function.forall_update_iff state.stores
      fun j store => store.capacity = studio.capacity j).2 ⟨hcapacity, fun j _ => h.capacity_eq j⟩
  · exact (Function.forall_update_iff state.stores
      fun _ store => store.Fits).2 ⟨hfits, fun j _ => h.fits j⟩
  · exact (Function.forall_update_iff state.stores
      fun _ store => store.Faithful).2 ⟨hfaithful, fun j _ => h.faithful j⟩

theorem Sound.take (h : Sound studio state) (B : Behaviour C σ) (settings : Settings)
    (elements : List (Value C)) (k : κ) :
    Sound studio (state.take k
      (Renderer.visitAll B Press.readStored settings elements (state.press k)).2) := by
  have hvisit := Renderer.visitAll_settled B settings elements (h.settled k)
  exact h.update (hvisit.2.trans (h.capacity_eq k)) hvisit.1.fits hvisit.1.faithful _ _

/-- A call keeps every store sound, whether it fails or not. -/
theorem Sound.perform (h : Sound studio state) (B : Behaviour C σ) (call : Call ι κ C σ) :
    Sound studio (studio.perform B call state).2 := by
  cases call with
  | html r elements =>
      have htake := h.take B (studio.settings r) elements (studio.store r)
      rw [← Press.html_press] at htake
      exact htake
  | render r elements =>
      have htake := h.take B (studio.settings r) elements (studio.store r)
      rw [← Press.render_press] at htake
      exact htake
  | clear k =>
      have hfits : (state.stores k).clear.Fits :=
        Cache.Fits.empty (h.capacity_eq k ▸ studio.room k)
      have hfaithful : (state.stores k).clear.Faithful := by
        intro e he
        cases he
      have hcapacity : (state.stores k).clear.capacity = studio.capacity k := h.capacity_eq k
      exact h.update hcapacity hfits hfaithful _ _
  | elsewhere change => exact ⟨h.capacity_eq, h.fits, h.faithful⟩

theorem Sound.run (h : Sound studio state) (B : Behaviour C σ) (calls : List (Call ι κ C σ)) :
    Sound studio (studio.run B calls state) := by
  induction calls generalizing state with
  | nil => exact h
  | cons call rest ih => exact ih (h.perform B call)

/-! ## Calls made alone -/

theorem settled_fresh (settings : Settings) (session : Session σ) :
    (fresh settings session).Settled := by
  have hroom : (1 : Int) ≤ settings.cacheSize := by
    exact_mod_cast settings.one_le_cacheSize
  refine ⟨?_, Cache.Fits.empty hroom⟩
  intro e he
  cases he

omit [DecidableEq κ] in
/-- A visit through any sound store ends as one on a new renderer. -/
theorem Sound.visitAll_eq (h : Sound studio state) (B : Behaviour C σ) (settings : Settings)
    (elements : List (Value C)) (k : κ) :
    (Renderer.visitAll B Press.readStored settings elements (state.press k)).1 =
        (Renderer.visitAll B Press.readStored settings elements
          (fresh settings state.session)).1 ∧
      (Renderer.visitAll B Press.readStored settings elements (state.press k)).2.session =
        (Renderer.visitAll B Press.readStored settings elements
          (fresh settings state.session)).2.session := by
  -- both end as if every selector were read afresh
  have hstored := Renderer.visitAll_eq_afresh B settings elements (h.settled k)
    (fresh settings state.session) rfl
  have hfresh := Renderer.visitAll_eq_afresh B settings elements
    (settled_fresh settings state.session) (fresh settings state.session) rfl
  exact ⟨hstored.1.trans hfresh.1.symm, hstored.2.trans hfresh.2.symm⟩

theorem Sound.perform_eq (h : Sound studio state) (B : Behaviour C σ) (call : Call ι κ C σ) :
    ((studio.perform B call state).1, (studio.perform B call state).2.session) =
      studio.alone B call state.session := by
  cases call with
  | html r elements =>
      have hvisit := h.visitAll_eq B (studio.settings r) elements (studio.store r)
      show (Answer.markup (Renderer.html B _ elements (state.press (studio.store r))).1,
          (Renderer.html B _ elements (state.press (studio.store r))).2.session) =
        (Answer.markup (Renderer.html B _ elements (fresh _ state.session)).1,
          (Renderer.html B _ elements (fresh _ state.session)).2.session)
      rw [Renderer.html_answer, Renderer.html_answer, Press.html_press, Press.html_press,
        hvisit.1, hvisit.2]
  | render r elements =>
      have hvisit := h.visitAll_eq B (studio.settings r) elements (studio.store r)
      show (Answer.rendering (Renderer.render B _ elements (state.press (studio.store r))).1,
          (Renderer.render B _ elements (state.press (studio.store r))).2.session) =
        (Answer.rendering (Renderer.render B _ elements (fresh _ state.session)).1,
          (Renderer.render B _ elements (fresh _ state.session)).2.session)
      rw [Renderer.render_answer, Renderer.render_answer, Press.render_press, Press.render_press,
        hvisit.1, hvisit.2]
  | clear k => rfl
  | elsewhere change => rfl

/-- Whatever was asked of a studio before, a call is answered, and the components called in it, as
if it were the only one; and its stores hold no more than they have room for, and nothing that is
not read as it says there. -/
theorem perform_eq_alone (studio : Studio ι κ) (B : Behaviour C σ) (session : Session σ)
    (calls : List (Call ι κ C σ)) (call : Call ι κ C σ) :
    ∃ answer after,
      studio.perform B call (studio.run B calls (studio.opening session)) = (answer, after) ∧
      studio.alone B call (studio.run B calls (studio.opening session)).session =
        (answer, after.session) ∧
      ∀ k, ((after.stores k).size : Int) ≤ studio.capacity k ∧
        (∀ e ∈ (after.stores k).entries, Tag.parse e.1 = .ok e.2) ∧
        ∀ selector fault, Tag.parse selector = .error fault →
          (after.stores k).contains selector = false := by
  have hbefore := (Sound.opening studio session).run B calls
  have hafter := hbefore.perform B call
  refine ⟨_, _, rfl, (hbefore.perform_eq B call).symm, ?_⟩
  intro k
  refine ⟨?_, hafter.faithful k, ?_⟩
  · exact hafter.capacity_eq k ▸ (hafter.fits k).size_le
  · intro selector fault hread
    exact Cache.Faithful.not_contains (hafter.faithful k) hread

/-- Two renderers, with names of their own for what they mark, that read through one store with
room for a single selector. -/
def sharing : Studio Bool Unit where
  settings r :=
    if r then { Settings.standard with idStem := "x", idStem_ne_empty := by decide } else .standard
  store _ := ()
  capacity _ := 1
  room _ := by decide

/-- A list whose second item cannot be read. -/
def brokenList : Value Nat :=
  .list [.str "ul", .list [.str "li"], .list [.str "p>"]]

/-- The store is filled, cleared, and filled again by a call that fails. -/
def sharedCalls : List (Call Bool Unit Nat Unit) :=
  [.html true [.list [.str "p"]], .clear (), .render true [brokenList]]

/-- The selector that the failing call read last is still in the store, and the next call on the
other renderer does not notice. -/
theorem perform_eq_alone_sharing :
    (sharing.perform .echo (.render true [brokenList]) (sharing.opening (.start ()))).1 =
        .rendering (.error (.selector (.badName "p>"))) ∧
      ((sharing.run .echo sharedCalls (sharing.opening (.start ()))).stores ()).contains "li" =
        true ∧
      ∃ after, sharing.perform .echo (.render false [.list [.str "ul", .list [.str "p#a"]]])
          (sharing.run .echo sharedCalls (sharing.opening (.start ()))) =
            (.rendering (.ok ⟨"<ul><p id=\"a\"></p></ul>", []⟩), after) ∧
        ((after.stores ()).size : Int) ≤ 1 := by
  obtain ⟨answer, after, hperform, halone, hstores⟩ := perform_eq_alone sharing .echo (.start ())
    sharedCalls (.render false [.list [.str "ul", .list [.str "p#a"]]])
  have hanswer : answer = .rendering (.ok ⟨"<ul><p id=\"a\"></p></ul>", []⟩) :=
    (congrArg Prod.fst halone).symm.trans rfl
  rw [hanswer] at hperform
  exact ⟨rfl, by decide +kernel, after, hperform, (hstores ()).1⟩

end Studio
end MarkupTree
