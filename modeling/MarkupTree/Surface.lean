import MarkupTree.Attributes
import MarkupTree.Binding
import MarkupTree.Notice
import MarkupTree.Session
import MarkupTree.Text.Occurrence

/-!
# Surface: named containers with content and handlers

A surface holds containers under names. Writing markup into a container drops its handlers;
attaching a rendering also registers the handlers of the tags that are in the markup. A container
outlives its name: whoever holds it may still write into it.

- `Surface.mount`, `Surface.unmount` and `Surface.resolve` are the registry.
- `Surface.write`, `Surface.attach` and `Surface.cleanup` change one container.
- `Surface.dispatch` calls the handlers of an event.
-/

namespace MarkupTree

variable {C σ : Type}

/-! ## Containers -/

/-- A region of a page: its markup, and handlers by id and event. -/
structure Container (C : Type) where
  key : String
  content : String
  listeners : Table (Table (List (Callable (Value C) C)))

namespace Container

def markerOf (id : String) : String :=
  Vocabulary.marker ++ "=\"" ++ Text.escape id ++ "\""

def hasElement (container : Container C) (id : String) : Bool :=
  Text.occursIn (markerOf id).toList container.content.toList

def addListener (id event : String) (f : Callable (Value C) C) (container : Container C) :
    Container C :=
  { container with
    listeners := container.listeners.adjust id fun events =>
      Table.adjust event (fun fs => fs.getD [] ++ [f]) (events.getD []) }

/-- The handlers of an id and an event, in the order of registration. -/
def handlers (container : Container C) (id event : String) : List (Callable (Value C) C) :=
  ((container.listeners.get? id).bind (Table.get? event)).getD []

def clear (container : Container C) : Container C :=
  { container with content := "", listeners := [] }

/-- New content, without handlers. -/
def write (markup : String) (container : Container C) : Container C :=
  { container.clear with content := markup }

def bind (binding : Binding C) (container : Container C) : Container C :=
  binding.events.foldl (fun container e => container.addListener binding.id e.1 e.2) container

def bindPresent (bindings : List (Binding C)) (container : Container C) : Container C :=
  (bindings.filter fun binding => container.hasElement binding.id).foldl
    (fun container binding => container.bind binding) container

/-- New content with its handlers. -/
def attach (markup : String) (bindings : List (Binding C)) (container : Container C) :
    Container C :=
  (container.write markup).bindPresent bindings

/-- What is reported when markup is attached: every binding whose tag is missing, then how many
are there. -/
def attachNotices (markup : String) (bindings : List (Binding C)) (container : Container C) :
    List Notice :=
  let written := container.write markup
  (bindings.filter fun binding => !written.hasElement binding.id).map
      (fun binding => .missingElement binding.id container.key) ++
    [.attached (bindings.countP fun binding => written.hasElement binding.id) container.key]

end Container

/-! ## Surfaces -/

/-- All containers that were ever made, and which of them are mounted under a name, in the order
of mounting. A container is told apart by its position. -/
structure Surface (C : Type) where
  containers : List (Container C)
  mounted : Table Nat

/-- How a container is referred to: by itself, or by a value that should be its name. -/
inductive Reference (C : Type)
  | container (handle : Nat)
  | value (v : Value C)

namespace Surface

def empty : Surface C :=
  ⟨[], []⟩

/-- The name that a key stands for: one `#` in front of it does not count. -/
def nameOf (key : String) : String :=
  (afterStart? "#" key).getD key

def adopt (key content : String) (s : Surface C) : Nat × Surface C :=
  (s.containers.length, { s with containers := s.containers ++ [⟨key, content, []⟩] })

/-- Mounts a new container, or finds the one that is already mounted under this name. -/
def mount (key content : String) (s : Surface C) : Nat × Surface C :=
  let name := nameOf key
  match s.mounted.get? name with
  -- a mounted container keeps its content
  | some handle => (handle, s)
  | none =>
    let (handle, s) := s.adopt name content
    (handle, { s with mounted := s.mounted.put name handle })

/-- Takes a name off the surface. -/
def unmount (key : String) (s : Surface C) : Surface C :=
  { s with mounted := s.mounted.remove (nameOf key) }

def position? (s : Surface C) : Reference C → Option Nat
  | .container handle => some handle
  | .value v => v.string?.bind fun key => s.mounted.get? (nameOf key)

def reported : Reference C → Value C
  | .container handle => .int handle
  | .value v => v

/-- Finds the container that a reference stands for. -/
def resolve (s : Surface C) (reference : Reference C) : Except (Fault C) (Nat × Container C) :=
  match (s.position? reference).bind fun handle => s.containers[handle]?.map (handle, ·) with
  | some found => .ok found
  | none => .error (.containerNotFound (reported reference))

def change (f : Container C → Container C) (reference : Reference C) (s : Surface C) :
    Except (Fault C) (Nat × Surface C) := do
  let (handle, container) ← s.resolve reference
  return (handle, { s with containers := s.containers.set handle (f container) })

/-- Writes markup into a container. -/
def write (reference : Reference C) (markup : String) (s : Surface C) :
    Except (Fault C) (Nat × Surface C) :=
  s.change (Container.write markup) reference

/-- Writes markup into a container and registers its bindings. -/
def attach (reference : Reference C) (markup : String) (bindings : List (Binding C))
    (s : Surface C) : Except (Fault C) (Nat × Surface C × List Notice) := do
  -- the notices speak of the container as it was found
  let (_, container) ← s.resolve reference
  let (handle, changed) ← s.change (Container.attach markup bindings) reference
  return (handle, changed, container.attachNotices markup bindings)

def clear (reference : Reference C) (s : Surface C) : Except (Fault C) (Nat × Surface C) :=
  s.change Container.clear reference

/-- Drops the content and the handlers of a container and reports it. -/
def cleanup (reference : Reference C) (s : Surface C) :
    Except (Fault C) (Nat × Surface C × List Notice) := do
  let (_, container) ← s.resolve reference
  let (handle, changed) ← s.clear reference
  return (handle, changed, [.cleared container.key])

def listen (reference : Reference C) (id event : String) (f : Callable (Value C) C)
    (s : Surface C) : Except (Fault C) (Nat × Surface C) :=
  s.change (Container.addListener id event f) reference

def handlers (s : Surface C) (reference : Reference C) (id event : String) :
    Except (Fault C) (List (Callable (Value C) C)) := do
  let (_, container) ← s.resolve reference
  return container.handlers id event

/-- The mounted containers with their names, in the order of mounting. -/
def view (s : Surface C) : Table (Container C) :=
  s.mounted.filterMap fun e => s.containers[e.2]?.map (e.1, ·)

/-- Calls the handlers of an id and an event in a container, in the order of registration. -/
def dispatch (B : Behaviour C σ) (s : Surface C) (reference : Reference C) (id event : String)
    (v : Value C) : Attempt (Session σ) C (List (Value C)) := do
  -- without handlers nothing is called, and that is no fault
  let fs ← ofExcept (s.handlers reference id event)
  fs.mapM fun f => Session.callHandler B f v

end Surface
end MarkupTree
