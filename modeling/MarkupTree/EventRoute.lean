import MarkupTree.Json
import MarkupTree.Renderer
import MarkupTree.Surface
import MarkupTree.Value.Part

/-!
# EventRoute: events that are posted

The handlers of a surface can be reached by posts. The path of a post names a container, an id
and an event; its body may hold details. The handlers are called with the details, and what they
answer is rendered.

- `EventRoute.target?` reads the path of a post.
- `EventRoute.payload` reads its body, `BodyFault.reply` refuses one that cannot be read.
- `EventRoute.fire` calls the handlers and renders their answers.
- `EventRoute.answer` answers any request.
-/

namespace MarkupTree

variable {C σ : Type}

/-- A request, with its path already decoded and its body as it was sent. -/
structure Request where
  method : String
  path : String
  body : Option String
  deriving Repr

/-- The answer to a request. -/
inductive Reply
  /-- a page, or a part of one -/
  | page (status : Nat) (markup : String)
  /-- a refusal and its reason -/
  | refusal (status : Nat) (reason : String)
  /-- a refusal of a part of the request: where it is, and the word for what is wrong with it -/
  | invalid (place : List String) (word : String)
  /-- the same request should be made with another number of slashes at the end of its path -/
  | elsewhere
  deriving Repr

namespace Reply

def status : Reply → Nat
  | .page status _ | .refusal status _ => status
  | .invalid _ _ => 422
  | .elsewhere => 307

def contentType : Reply → Option String
  | .page _ _ => some "text/html; charset=utf-8"
  | .refusal _ _ | .invalid _ _ => some "application/json"
  | .elsewhere => none

def notFound : Reply := .refusal 404 "Not Found"

/-- There is something at this path, but not for this method. -/
def wrongMethod : Reply := .refusal 405 "Method Not Allowed"

end Reply

/-- Whether an answer is a page that cannot be written. -/
def Reply.holdsHalf : Reply → Bool
  | .page _ markup => Text.holdsHalf markup
  | _ => false

/-- What is wrong with a body. -/
inductive BodyFault (C : Type)
  /-- it cannot be taken in -/
  | unreadable
  /-- it is not written as it should be -/
  | malformed
  /-- it is not an object -/
  | notAnObject (body : Value C)
  /-- its details are not an object -/
  | detailNotAnObject (detail : Value C)

namespace BodyFault

/-- An answer that repeats a value, which must be possible to write. -/
def repeating (v : Value C) (reply : Reply) : Except (Fault C) Reply :=
  if v.holdsNotFinite then .error .notFinite
  else if v.holdsHalf then .error .cutCharacter
  else .ok reply

/-- The refusal of a body. It repeats the part that does not fit. -/
def reply : BodyFault C → Except (Fault C) Reply
  | .unreadable => .ok (.refusal 400 "There was an error parsing the body")
  | .malformed => .ok (.invalid ["body"] "json_invalid")
  | .notAnObject body => repeating body (.invalid ["body"] "model_attributes_type")
  | .detailNotAnObject detail => repeating detail (.invalid ["body", "detail"] "dict_type")

end BodyFault

/-- What is kept between requests. -/
structure Site (C σ : Type) where
  surface : Surface C
  press : Press σ

namespace Site

def onPress {α : Type} (step : Attempt (Press σ) C α) : Attempt (Site C σ) C α := fun site =>
  let (answer, press) := step site.press
  (answer, { site with press })

def inSession {α : Type} (step : Attempt (Session σ) C α) : Attempt (Site C σ) C α := fun site =>
  let (answer, session) := step site.press.session
  (answer, { site with press := { site.press with session } })

def report (news : List Notice) : Attempt (Site C σ) C Unit :=
  onPress (modify fun press => press.report news)

end Site

def Renderer.page (B : Behaviour C σ) (settings : Settings) (status : Nat)
    (elements : List (Value C)) : Attempt (Press σ) C Reply := do
  return .page status (← Renderer.html B settings elements)

/-- Where posts are taken, and how answers are rendered. -/
structure EventRoute where
  path : String
  settings : Settings

namespace EventRoute

/-! ## Paths -/

/-- What a post is about. -/
structure Target where
  container : String
  id : String
  event : String
  deriving DecidableEq, Repr

def pieces : List Char → List (List Char)
  | [] => [[]]
  | c :: rest =>
    match pieces rest with
    | first :: more => if c = '/' then [] :: first :: more else (c :: first) :: more
    | [] => [[c]]

def pathOf (route : EventRoute) (target : Target) : String :=
  route.path ++ "/" ++ target.container ++ "/" ++ target.id ++ "/" ++ target.event

/-- The target that a path reaches: three names that are not empty behind the route's path. -/
def target? (route : EventRoute) (path : String) : Option Target :=
  match (afterStart? route.path path).map fun rest => pieces rest.toList with
  -- the path goes on with a slash, so the first piece is empty
  | some [[], container, id, event] =>
    if container.isEmpty ∨ id.isEmpty ∨ event.isEmpty then none
    else some ⟨String.ofList container, String.ofList id, String.ofList event⟩
  | _ => none

/-- Whether a path is a certain one. A line feed at its end does not count. -/
def isAt (place path : String) : Bool :=
  path = place || path = place ++ "\n"

/-- What a path leads to. -/
inductive Destination
  /-- the description of the site -/
  | description
  /-- the handlers of an event -/
  | handlers (target : Target)
  deriving DecidableEq, Repr

/-- What a path leads to, if anything. -/
def destination? (route : EventRoute) (path : String) : Option Destination :=
  if Vocabulary.descriptionPaths.any fun place => isAt place path then some .description
  else (route.target? path).map .handlers

/-- A path without the slashes at its end, or with one if there are none. -/
def otherForm (path : String) : String :=
  if path.toList.getLast? = some '/' then
    String.ofList (path.toList.reverse.dropWhile (· = '/')).reverse
  else path ++ "/"

/-- Whether a path that leads nowhere leads somewhere in its other form. -/
def isElsewhere (leads : String → Bool) (path : String) : Bool :=
  path ≠ "/" && leads (otherForm path)

/-! ## Bodies -/

def detailOf : Value C → Except (BodyFault C) (Entries C)
  | .null => .ok []
  | .mapping es =>
    match Entries.get? es (.str "detail") with
    | none => .ok []
    | some (.mapping detail) => .ok detail
    | some v => .error (.detailNotAnObject v)
  | v => .error (.notAnObject v)

/-- The payload that a body holds. Without a body it is empty. -/
def payload : Option String → Except (BodyFault C) (Value C)
  | none => .ok (.payload [])
  | some body =>
    if body = "" then .ok (.payload [])
    else
      match Json.read body with
      | .error .malformed => .error .malformed
      | .error .unreadable => .error .unreadable
      | .ok v => (detailOf v).map .payload

/-! ## Events -/

/-- The values that are not `null`. -/
def present (vs : List (Value C)) : List (Value C) :=
  vs.filter fun
    | .null => false
    | _ => true

def unbound (target : Target) : String :=
  "No '" ++ target.event ++ "' handler bound to " ++ target.id

/-- Calls all handlers of an event, then waits for those answers that are computed later. -/
def call (B : Behaviour C σ) (fs : List (Callable (Value C) C)) (v : Value C) :
    Attempt (Session σ) C (List (Value C)) := do
  -- all handlers are called before any answer is waited for
  let answers ← fs.mapM fun f => Session.callHandler B f v
  answers.mapM (Session.await B)

/-- Fires an event: finds its handlers, calls them and renders their answers as one fragment. A
page that holds half a character cannot be sent. -/
def fire (B : Behaviour C σ) (route : EventRoute) (target : Target) (v : Value C) :
    Attempt (Site C σ) C Reply := do
  let site ← get
  match site.surface.resolve (.value (.str target.container)) with
  | .error fault => return .refusal 404 fault.message
  | .ok (_, container) =>
    -- the container is looked up before its handlers, and both before anything is called
    let fs := container.handlers target.id target.event
    if fs.isEmpty then return .refusal 404 (unbound target)
    else
      Site.report [.dispatching target.event target.id container.key]
      let answers ← Site.inSession (call B fs v)
      let fragment := Value.list (.str Vocabulary.fragment :: present answers)
      let reply ← Site.onPress (Renderer.page B route.settings 200 [fragment])
      if reply.holdsHalf then throw .cutCharacter else return reply

/-- Answers a request. The path decides first, then the method, then the body. -/
def answer (B : Behaviour C σ) (route : EventRoute) (request : Request) :
    Attempt (Site C σ) C Reply :=
  match route.destination? request.path with
  | some .description =>
    if request.method = "GET" ∨ request.method = "HEAD" then return .page 200 ""
    else return .wrongMethod
  | some (.handlers target) =>
    if request.method ≠ "POST" then return .wrongMethod
    else
      match payload request.body with
      | .error fault => ofExcept fault.reply
      | .ok v => fire B route target v
  | none =>
    if isElsewhere (fun path => (route.destination? path).isSome) request.path then
      return .elsewhere
    else return .notFound

end EventRoute
end MarkupTree
