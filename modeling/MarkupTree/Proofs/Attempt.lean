import MarkupTree.Session

/-!
# Attempt — how computations that may fail run

An attempt is a function from a state to an answer and a state. Each equation below says what one
building block of attempts does to a state, so that later proofs can follow a computation step by
step without opening the transformers it is made of.
-/

namespace MarkupTree
namespace Attempt

variable {S C α β : Type}

/-! ## Building blocks -/

/-- A sequence stops at the first fault and keeps the state that it has reached. -/
theorem bind_apply (m : Attempt S C α) (f : α → Attempt S C β) (s : S) :
    (m >>= f) s = match m s with
      | (.ok a, s') => f a s'
      | (.error fault, s') => (.error fault, s') := by
  show StateT.bind m (ExceptT.bindCont f) s = _
  unfold StateT.bind
  cases h : m s with
  | mk answer s' =>
      cases answer with
      | ok a =>
          simp only [bind]
          rfl
      | error fault =>
          simp only [bind]
          rfl

@[simp]
theorem pure_apply (a : α) (s : S) : (pure a : Attempt S C α) s = (.ok a, s) := rfl

@[simp]
theorem throw_apply (fault : Fault C) (s : S) :
    (throw fault : Attempt S C α) s = (.error fault, s) := rfl

@[simp]
theorem ofExcept_apply (answer : Except (Fault C) α) (s : S) :
    (ofExcept answer : Attempt S C α) s = (answer, s) := by
  cases answer <;> rfl

@[simp]
theorem get_apply (s : S) : (get : Attempt S C S) s = (.ok s, s) := rfl

@[simp]
theorem set_apply (s s' : S) : (set s' : Attempt S C PUnit) s = (.ok ⟨⟩, s') := rfl

@[simp]
theorem modify_apply (f : S → S) (s : S) :
    (modify f : Attempt S C PUnit) s = (.ok ⟨⟩, f s) := rfl

/-! ## Sequences whose first step is known -/

theorem bind_apply_ok {m : Attempt S C α} {s s' : S} {a : α} (h : m s = (.ok a, s'))
    (f : α → Attempt S C β) : (m >>= f) s = f a s' := by
  rw [bind_apply, h]

theorem bind_apply_error {m : Attempt S C α} {s s' : S} {fault : Fault C}
    (h : m s = (.error fault, s')) (f : α → Attempt S C β) :
    (m >>= f) s = (.error fault, s') := by
  rw [bind_apply, h]

/-- What is made of an answer leaves the state alone. -/
theorem map_apply (m : Attempt S C α) (k : α → β) (s : S) :
    (do let a ← m; return k a : Attempt S C β) s = ((m s).1.map k, (m s).2) := by
  rw [bind_apply]
  rcases m s with ⟨fault | a, s'⟩ <;> rfl

theorem fst_bind_of_error {m : Attempt S C α} {s : S} {fault : Fault C}
    (h : (m s).1 = .error fault) (f : α → Attempt S C β) : ((m >>= f) s).1 = .error fault := by
  have hrun : m s = (.error fault, (m s).2) := Prod.ext h rfl
  rw [bind_apply_error hrun]

/-- A sequence that succeeds has a first step that succeeds. -/
theorem bind_apply_eq_ok {m : Attempt S C α} {f : α → Attempt S C β} {s s' : S} {b : β}
    (h : (m >>= f) s = (.ok b, s')) :
    ∃ a s₁, m s = (.ok a, s₁) ∧ f a s₁ = (.ok b, s') := by
  rw [bind_apply] at h
  cases hm : m s with
  | mk answer s₁ =>
      rw [hm] at h
      cases answer with
      | ok a => exact ⟨a, s₁, rfl, h⟩
      | error fault => cases h

/-- An answer that can be looked at is the answer. -/
theorem apply_eq_of_toOption {m : Attempt S C α} {s : S} {a : α}
    (h : (m s).1.toOption = some a) : m s = (.ok a, (m s).2) := by
  cases hm : m s with
  | mk answer s' =>
      rw [hm] at h
      cases answer with
      | ok b =>
          cases h
          rfl
      | error fault => cases h

end Attempt
end MarkupTree
