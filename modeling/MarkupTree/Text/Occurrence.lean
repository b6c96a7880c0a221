/-!
# Text.Occurrence: one text inside another

- `occursIn` says whether a text holds another one.
-/

namespace MarkupTree
namespace Text

/-- Whether a pattern stands somewhere in a text. -/
def occursIn (pattern : List Char) : List Char → Bool
  | [] => pattern.isEmpty
  | c :: rest => pattern.isPrefixOf (c :: rest) || occursIn pattern rest

/-- A pattern stands in a text exactly if the text is something, the pattern, and something. -/
theorem occursIn_iff (pattern cs : List Char) : occursIn pattern cs = true ↔ pattern <:+: cs := by
  induction cs with
  | nil => simp [occursIn]
  | cons c rest ih => simp [occursIn, ih, List.infix_cons_iff]

end Text
end MarkupTree
