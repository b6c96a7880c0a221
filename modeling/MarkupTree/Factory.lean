import MarkupTree.Attributes

/-!
# Factory: elements from keywords

A factory makes the element of one tag from children and keywords. Keywords are names as a
programming language allows them, so they are turned into attribute names.

- `Factory.attributeName` is the attribute that a keyword names.
- `Factory.element` and `Factory.fragment` make elements.
- `Factory.tags` lists the factories with their tags.
-/

namespace MarkupTree
namespace Factory

variable {C : Type}

def eventKeyword : String := "on_"

def dropTrailing (cs : List Char) : List Char :=
  if cs.getLast? = some '_' then cs.dropLast else cs

/-- The attribute that a keyword names. A keyword for an event keeps the event as it is. From
any other keyword one underscore at the end is dropped, and the remaining ones become hyphens. -/
def attributeName (keyword : String) : String :=
  match afterStart? eventKeyword keyword with
  | some event => Vocabulary.eventMark ++ event
  | none =>
    String.ofList ((dropTrailing keyword.toList).map fun c => if c = '_' then '-' else c)

def attributes (keywords : Table (Value C)) : Entries C :=
  Entries.ofPairs (keywords.map fun kw => (.str (attributeName kw.1), kw.2))

/-- The element of a tag with attributes from keywords. -/
def element (tag : String) (children : List (Value C)) (keywords : Table (Value C)) : Value C :=
  .list (.str tag :: .mapping (attributes keywords) :: children)

/-- Children without a tag. -/
def fragment (children : List (Value C)) : Value C :=
  .list (.str Vocabulary.fragment :: children)

def description (tag : String) : String :=
  "Create a <" ++ tag ++ "> element."

/-- The factories that are named otherwise than their tags. -/
def renamed : Table String :=
  [("html_el", "html"), ("input_", "input"), ("meta_", "meta")]

/-- The factories that are named as their tags. -/
def plain : List String :=
  ["head", "body", "title", "section", "article", "aside", "header", "footer", "nav", "main",
    "div", "h1", "h2", "h3", "h4", "h5", "h6", "p", "pre", "blockquote", "ol", "ul", "li", "dl",
    "dt", "dd", "a", "span", "strong", "em", "small", "code", "form", "label", "button", "select",
    "option", "textarea", "fieldset", "legend", "table", "thead", "tbody", "tr", "th", "td",
    "img", "source", "video", "audio", "br", "hr", "link", "script", "style", "template"]

/-- All factories and their tags. -/
def tags : Table String :=
  renamed ++ plain.map fun tag => (tag, tag)

end Factory
end MarkupTree
