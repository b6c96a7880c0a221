/-!
# Text.Escape: plain text inside markup

Five characters have a meaning in markup. Plain text is written with each of them replaced by
its entity, and read back by one left-to-right pass over the entities.

- `escape` writes text; it acts on each character alone.
- `unescape` reads the five entities and leaves every other character as it is.
-/

namespace MarkupTree
namespace Text

/-- The entity of a character that has a meaning in markup, the character itself otherwise. -/
def escapeChar (c : Char) : List Char :=
  if c = '&' then ['&', 'a', 'm', 'p', ';']
  else if c = '<' then ['&', 'l', 't', ';']
  else if c = '>' then ['&', 'g', 't', ';']
  else if c = '"' then ['&', 'q', 'u', 'o', 't', ';']
  else if c = '\'' then ['&', '#', '3', '9', ';']
  else [c]

/-- Replaces every character that has a meaning in markup by its entity. -/
def escapeChars (cs : List Char) : List Char :=
  cs.flatMap escapeChar

/-- Text as it is written between tags and inside quoted attribute values. -/
def escape (s : String) : String :=
  String.ofList (escapeChars s.toList)

/-- Reads the five entities once, from left to right. -/
def unescapeChars : List Char → List Char
  | [] => []
  | '&' :: 'a' :: 'm' :: 'p' :: ';' :: rest => '&' :: unescapeChars rest
  | '&' :: 'l' :: 't' :: ';' :: rest => '<' :: unescapeChars rest
  | '&' :: 'g' :: 't' :: ';' :: rest => '>' :: unescapeChars rest
  | '&' :: 'q' :: 'u' :: 'o' :: 't' :: ';' :: rest => '"' :: unescapeChars rest
  | '&' :: '#' :: '3' :: '9' :: ';' :: rest => '\'' :: unescapeChars rest
  | c :: rest => c :: unescapeChars rest

/-- The plain text that escaped text stands for. -/
def unescape (s : String) : String :=
  String.ofList (unescapeChars s.toList)

@[simp]
theorem escapeChars_nil : escapeChars [] = [] := rfl

@[simp]
theorem escapeChars_cons (c : Char) (cs : List Char) :
    escapeChars (c :: cs) = escapeChar c ++ escapeChars cs := rfl

theorem escapeChars_append (xs ys : List Char) :
    escapeChars (xs ++ ys) = escapeChars xs ++ escapeChars ys := by
  simp [escapeChars]

@[simp]
theorem toList_escape (s : String) : (escape s).toList = escapeChars s.toList := by
  simp [escape]

end Text
end MarkupTree
