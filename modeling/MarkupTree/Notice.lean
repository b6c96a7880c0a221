import MarkupTree.Text.Quoted

/-!
# Notice: what is reported besides answers

Some operations report what they did. A notice is a cause; its wording and its level follow
from it.
-/

namespace MarkupTree

/-- How much attention a notice asks for. -/
inductive Level
  | debug
  | info
  | warning
  deriving DecidableEq, Repr

/-- Something that was done or found. -/
inductive Notice
  /-- a selector left the store to make room -/
  | evicted (selector : String)
  /-- handlers are dropped, since no tag in the container has their id -/
  | missingElement (id key : String)
  /-- so many elements of a container now have their handlers -/
  | attached (count : Nat) (key : String)
  /-- a container lost its content and its handlers -/
  | cleared (key : String)
  /-- an event was posted and its handlers are about to be called -/
  | dispatching (event id key : String)
  deriving DecidableEq, Repr

namespace Notice

def level : Notice → Level
  | .evicted _ => .debug
  | .missingElement _ _ => .warning
  | _ => .info

def message : Notice → String
  | .evicted selector => "evicted selector " ++ Text.quoted selector ++ " from tag cache"
  | .missingElement id key => "Element " ++ id ++ " not found in container '" ++ key ++ "'"
  | .attached count key =>
    "Attached " ++ toString count ++ " bindings to container '" ++ key ++ "'"
  | .cleared key => "Cleared container '" ++ key ++ "'"
  | .dispatching event id key =>
    "Dispatching '" ++ event ++ "' to " ++ id ++ " in '" ++ key ++ "'"

end Notice
end MarkupTree
