import MarkupTree.EventRoute
import MarkupTree.Factory

/-!
# Leaderboard: a small site

A page with some numbers, a ranking of users and a counter. A click on the counter's button is
posted as an event; its handler adds to the count and answers with the new one.

- `Part` lists the components and the handler of the site, `Part.behaviour` says what they do.
- `Leaderboard.page` is the page, `Leaderboard.answer` answers a request.
-/

namespace MarkupTree
namespace Leaderboard

/-! ## Numbers -/

/-- What has been counted. -/
inductive Count
  | whole (n : Int)
  | real (x : Float)

namespace Count

variable {C : Type}

def toValue : Count → Value C
  | .whole n => .int n
  | .real x => .float x

/-- The count that a value is. Truth values count as one and zero. -/
def ofValue? : Value C → Option Count
  | .bool b => some (.whole (if b then 1 else 0))
  | .int n => some (.whole n)
  | .float x => some (.real x)
  | _ => none

/-- A count as a floating-point number, if it does not lie beyond the range of these. -/
def toFloat? : Count → Option Float
  | .whole n =>
    let x := Decimal.ofScaled (n < 0) n.natAbs 0
    match Decimal.Binary64.ofFloat x with
    | .finite _ _ _ => some x
    | _ => none
  | .real x => some x

/-- Two counts together: whole as long as both are. -/
def add? : Count → Count → Option Count
  | .whole m, .whole n => some (.whole (m + n))
  | a, b => do return .real ((← a.toFloat?) + (← b.toFloat?))

end Count

/-- Digits in groups of three, given from the end. -/
def groups : List Char → List Char
  | a :: b :: c :: d :: rest => a :: b :: c :: ',' :: groups (d :: rest)
  | cs => cs

def grouped (n : Int) : String :=
  (if n < 0 then "-" else "") ++
    String.ofList (groups (toString n.natAbs).toList.reverse).reverse

/-- Whether a value can be written: a whole number must not have too many digits. -/
def isWritable {C : Type} : Value C → Bool
  | .int n => Decimal.isWritable n
  | _ => true

/-! ## Users -/

/-- A user of the site. -/
structure User where
  id : Int
  username : String
  points : Int
  isAdmin : Bool
  deriving Repr

def users : List User :=
  [⟨2, "alice", 1200, false⟩, ⟨1, "bob", 420, true⟩, ⟨3, "charlie", 380, false⟩]

/-! ## Parts -/

/-- The components of the site, and the handler of its button. -/
inductive Part
  | layout
  | statCard
  | userRow (user : User)
  | counter
  | increment
  deriving Repr

abbrev Val := Value Part

def Part.callable (part : Part) (name : String) (parameters : List String) : Callable Val Part :=
  { name
    anonymous := false
    signature := some ⟨parameters.map fun p => ⟨p, .normal⟩, []⟩
    deferred := false
    code := part }

def Part.element (part : Part) (name : String) (props : Table Val) (children : List Val) : Val :=
  .list (.callable (part.callable name props.names) ::
    .mapping (props.map fun p => (.str p.1, p.2)) :: children)

/-- The element of a tag, with attributes that are given by keywords. -/
def tag (name : String) (children : List Val) (keywords : Table Val) : Val :=
  Factory.element name children keywords

def layout (title : Val) (children : List Val) : Val :=
  Factory.fragment
    [.markup "<!DOCTYPE html>" true,
      tag "html"
        [tag "head"
            [tag "meta" [] [("charset", .str "utf-8")],
              tag "title" [title] [],
              tag "link" []
                [("rel", .str "stylesheet"),
                  ("href", .str "https://unpkg.com/@picocss/pico@2/css/pico.min.css")]] [],
          tag "body"
            [tag "header"
                [tag "nav"
                  [tag "ul" [tag "li" [tag "a" [.str "Leaderboard"] [("href", .str "/")]] []] []]
                  [("class_", .str "container")]] [],
              tag "main" children [("class_", .str "container")],
              tag "footer" [tag "p" [.str "Made with hiccpy"] []]
                [("class_", .str "container")]] []]
        [("lang", .str "en")]]

def statCard (label : Val) (value : Val) : Val :=
  let number : Val := match value with
    | .int n => .str (grouped n)
    | v => .str v.text
  .list [.str "article.stat", .list [.str "h3", number], .list [.str "small", label]]

def userRow (user : User) (rank : Val) : Val :=
  .list
    [.str "li",
      .mapping [(.str "class",
        .list [.str "user", if user.isAdmin then .str "admin" else .bool false])],
      tag "span" [.str ("#" ++ rank.text ++ " ")] [],
      .list [.str "strong", .str user.username],
      tag "span" [.str (" " ++ toString user.points ++ " pts")]
        [("style", .mapping [(.str "fontWeight", .str "bold")])]]

def shown (count : Val) : Val :=
  tag "span" [count] [("id", .str "count")]

def counter (count : Val) : Val :=
  tag "div"
    [shown count,
      tag "button" [.str "+1"]
        [("type", .str "button"),
          ("on_click", .callable (Part.increment.callable "increment" ["event"]))]]
    [("id", .str "counter")]

/-- The step of a click: what its details say, or one. -/
def stepOf : Val → Val
  | .payload detail => (Entries.get? detail (.str "step")).getD (.int 1)
  | _ => .int 1

/-- An element in which values are written. -/
def writing (values : List Val) (element : Val) : Except (Fault Part) Val :=
  if values.all isWritable then .ok element else .error .tooManyDigits

def click (event : Val) (count : Count) : Except (Fault Part) Val × Count :=
  match Count.ofValue? (stepOf event) with
  | none => (.error .notANumber, count)
  | some step =>
    match count.add? step with
    -- the count has changed already when it turns out that it cannot be written
    | some sum => (writing [sum.toValue] (shown sum.toValue), sum)
    | none => (.error .tooLarge, count)

def childrenOf (args : Arguments Val) : List Val :=
  ((args.get? "children").bind Value.items?).getD []

/-- What the parts of the site do. Only the handler changes the count. A part fails if a number in
it cannot be written. -/
def Part.behaviour : Behaviour Part Count := fun part args _ count =>
  let argument (name : String) : Val := (args.get? name).getD .null
  match part with
  | .layout => ⟨.ok (Leaderboard.layout (argument "page_title") (childrenOf args)), [], count⟩
  | .statCard =>
    ⟨writing [argument "value"] (Leaderboard.statCard (argument "label") (argument "value")), [],
      count⟩
  | .userRow user =>
    ⟨writing [argument "rank", .int user.points] (Leaderboard.userRow user (argument "rank")), [],
      count⟩
  -- the tags around the count are read before it is written, which leaves nothing to be seen
  | .counter =>
    ⟨writing [argument "count"] (Leaderboard.counter (argument "count")), [], count⟩
  | .increment =>
    let (answer, count) := click (argument "event") count
    ⟨answer, [], count⟩

/-! ## Pages -/

def stat (label : String) (n : Int) : Val :=
  Part.statCard.element "StatCard" [("label", .str label), ("value", .int n)] []

def ranking (ranked : List User) : List Val :=
  ranked.mapIdx fun i user =>
    (Part.userRow user).element "UserRow" [("rank", .int (i + 1))] []

/-- The whole page around the markup of the counter. -/
def page (ranked : List User) (counterMarkup : String) : Val :=
  .list
    [.callable (Part.layout.callable "Layout" ["page_title", "children"]),
      .mapping [(.str "page_title", .str "Leaderboard")],
      tag "h1" [.str "Leaderboard"] [],
      tag "section"
        [stat "Commits" 12847, stat "Participants" 342, stat "Days left" 18]
        [("class_", .str "grid")],
      tag "h2" [.str "Top users"] [],
      .list [.str "ol", .list (ranking ranked)],
      tag "h2" [.str "Counter"] [],
      .list [.str "div#counter-root",
        .mapping [(.str Vocabulary.innerHtml, .str counterMarkup)]]]

def counterKey : String := "counter"

/-- Renders the counter and attaches it to its container, which is mounted first. -/
def attachCounter (settings : Settings) : Attempt (Site Part Count) Part String := do
  let site ← get
  let count : Val := site.press.session.state.toValue
  let element := Part.counter.element "Counter" [("count", count)] []
  let rendering ← Site.onPress (Renderer.render Part.behaviour settings [element])
  let site ← get
  let (_, surface) := site.surface.mount counterKey ""
  let (_, surface, notices) ←
    ofExcept (surface.attach (.value (.str counterKey)) rendering.markup rendering.bindings)
  set { site with surface }
  Site.report notices
  return rendering.markup

def index (settings : Settings) (ranked : List User) : Attempt (Site Part Count) Part Reply := do
  let markup ← attachCounter settings
  Site.onPress (Renderer.page Part.behaviour settings 200 [page ranked markup])

/-- Answers a request: the page at the root, and posted events. -/
def answer (settings : Settings) (ranked : List User) (request : Request) :
    Attempt (Site Part Count) Part Reply :=
  if EventRoute.isAt "/" request.path then
    if request.method = "GET" then index settings ranked else return .wrongMethod
  else if EventRoute.isElsewhere (EventRoute.isAt "/") request.path then return .elsewhere
  else
    EventRoute.answer Part.behaviour ⟨Vocabulary.eventPath, settings⟩ request

def start (settings : Settings) : Site Part Count :=
  ⟨Surface.empty, Press.start settings.cacheSize (.whole 0)⟩

end Leaderboard
end MarkupTree
