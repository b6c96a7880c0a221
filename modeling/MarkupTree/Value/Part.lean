import MarkupTree.Text.Half
import MarkupTree.Value

/-!
# Value.Part: what is inside a value

Not every value can be written back where it came from: a number may be infinite or undefined,
and a text may hold half a character.

- `Value.anyPart` looks for a part in sequences, mappings and payloads.
- `Value.holdsHalf` and `Value.holdsNotFinite` are the two parts that cannot be written back.
-/

namespace MarkupTree
namespace Value

variable {C : Type}

mutual

/-- Whether some part without parts of its own satisfies a condition, keys included. -/
def anyPart (p : Value C → Bool) : Value C → Bool
  | .list vs | .tuple vs => anyItem p vs
  | .mapping es | .frozen es | .payload es => anyEntry p es
  | v => p v

def anyItem (p : Value C → Bool) : List (Value C) → Bool
  | [] => false
  | v :: rest => anyPart p v || anyItem p rest

def anyEntry (p : Value C → Bool) : List (Value C × Value C) → Bool
  | [] => false
  | (k, v) :: rest => anyPart p k || anyPart p v || anyEntry p rest

end

/-- Whether a text in a value holds half a character. -/
def holdsHalf : Value C → Bool :=
  anyPart fun v => (v.string?.map Text.holdsHalf).getD false

/-- Whether a number in a value is infinite or undefined. -/
def holdsNotFinite : Value C → Bool :=
  anyPart fun
    | .float x =>
      match Decimal.Binary64.ofFloat x with
      | .finite _ _ _ => false
      | _ => true
    | _ => false

end Value
end MarkupTree
