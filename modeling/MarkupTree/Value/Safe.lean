import MarkupTree.Text.Escape
import MarkupTree.Value

/-!
# Value.Safe: safe markup and its sums

Every value can be written as safe markup: markup that is already safe stands for itself, and
the text of anything else is escaped.

- `Value.escaped` is the escaped text of a value.
- `Value.safePiece` is a value as a piece of safe markup, `Value.sum` joins two pieces.
-/

namespace MarkupTree
namespace Value

variable {C : Type}

/-- The text of a value with every character escaped that has a meaning in markup. -/
def escaped (v : Value C) : String :=
  Text.escape v.leafText

/-- A value as a piece of safe markup. -/
def safePiece : Value C → String
  | .safe html => html
  | v => v.escaped

/-- Two values joined to safe markup. One of them at least is safe already; the other one is
escaped unless it is safe too, also if it stands for markup. -/
def sum (left right : Value C) : Value C :=
  .safe (left.safePiece ++ right.safePiece)

end Value
end MarkupTree
