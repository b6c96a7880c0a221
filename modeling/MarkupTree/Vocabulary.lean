/-!
# Vocabulary: the fixed words and limits

The words with a meaning of their own in elements and in markup, and the limits that hold when
nothing else is said.
-/

namespace MarkupTree
namespace Vocabulary

/-- In place of a selector: the children stand for themselves, without a tag. -/
def fragment : String := ":<>"

/-- The attribute that gives the inner markup of a tag. -/
def innerHtml : String := "dangerouslySetInnerHTML"

def className : String := "class"

def identity : String := "id"

def style : String := "style"

def eventMark : String := "on:"

def marker : String := "data-hiccpy-id"

def idStem : String := "hiccpy-"

def eventPath : String := "/__hiccpy"

/-- The paths at which a site describes itself. They can only be read. -/
def descriptionPaths : List String :=
  ["/openapi.json", "/docs", "/docs/oauth2-redirect", "/redoc"]

def settingsTable : String := "hiccpy"

def maxDepth : Nat := 100

def cacheSize : Nat := 1000

def voidTags : List String :=
  ["area", "base", "br", "col", "command", "embed", "hr", "img", "input", "keygen", "link",
    "menuitem", "meta", "param", "source", "track", "wbr"]

def isVoid (tag : String) : Bool :=
  voidTags.contains tag

end Vocabulary
end MarkupTree
