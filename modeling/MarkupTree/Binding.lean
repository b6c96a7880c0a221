import MarkupTree.Value
import MarkupTree.Table
import MarkupTree.Vocabulary

/-!
# Binding: handlers of rendered tags

While a page is rendered with bindings, every tag that has handlers gets an id, and the handlers
are recorded under it. Ids are counted from one.

- `Recorder.record` records the handlers of a tag and tells its id.
- `Binding.text` is the text of a binding inside a larger one.
-/

namespace MarkupTree

variable {C : Type}

/-- The handlers of one tag, by event. -/
structure Binding (C : Type) where
  id : String
  events : Table (Callable (Value C) C)

def Binding.text (b : Binding C) : String :=
  Value.bracketed "Binding("
    ["id=" ++ Text.quoted b.id,
      "events=" ++ Value.bracketed "\x7b"
        (b.events.map fun e => Text.quoted e.1 ++ ": " ++ e.2.text) "\x7d"] ")"

/-- Gives out ids and collects bindings, in the order of the tags. -/
structure Recorder (C : Type) where
  stem : String
  issued : Nat
  bindings : List (Binding C)

namespace Recorder

def start (stem : String) : Recorder C :=
  ⟨stem, 0, []⟩

def idOf (stem : String) (n : Nat) : String :=
  stem ++ toString n

def nextId (r : Recorder C) : String × Recorder C :=
  (idOf r.stem (r.issued + 1), { r with issued := r.issued + 1 })

/-- Records handlers under the next id. -/
def record (r : Recorder C) (events : Table (Callable (Value C) C)) : String × Recorder C :=
  let (id, r) := r.nextId
  (id, { r with bindings := r.bindings ++ [⟨id, events⟩] })

/-- Every record gives out one id and adds one binding under it, after all others. -/
theorem record_eq (r : Recorder C) (events : Table (Callable (Value C) C)) :
    r.record events =
      (idOf r.stem (r.issued + 1),
        ⟨r.stem, r.issued + 1, r.bindings ++ [⟨idOf r.stem (r.issued + 1), events⟩]⟩) := rfl

end Recorder
end MarkupTree
