import Gatehouse.Router.Template
import Gatehouse.Service.World

/-!
Route tables: which handler answers a request. A path is looked up literally first, then among the
templates with parameters; the method decides within the route.
-/
namespace Gatehouse.Router

/-- How a route treats methods: one handler for all of them, or one handler each. -/
inductive Methods (σ : Type) where
  | every (handler : Handler σ)
  | listed (handlers : List (String × Handler σ))

namespace Methods

variable {σ : Type}

/-- The handler of a method. `HEAD` is answered by the handler of `GET`. -/
def handler? (methods : Methods σ) (method : String) : Option (Handler σ) :=
  match methods with
  | every handler => some handler
  | listed handlers =>
    (handlers.lookup method).or (if method = "HEAD" then handlers.lookup "GET" else none)

/-- The methods of a route, as a field of its answers to other methods. -/
def allow (methods : Methods σ) : Option String :=
  match methods with
  | every _ => none
  | listed handlers =>
    some (",".intercalate (handlers.flatMap fun (method, _) =>
      if method = "GET" then ["GET", "HEAD"] else [method]))

end Methods

structure Route (σ : Type) where
  template : Template
  methods : Methods σ

/-- Routes in the order they were added, and what answers all other paths. Without a fallback these
get an empty answer. -/
structure Table (σ : Type) where
  routes : List (Route σ)
  fallback : Option (Handler σ)

/-- Why a route cannot be added. -/
inductive RouteDefect where
  | template (text : String) (defect : TemplateDefect)
  | overlap (method path : String)
  deriving DecidableEq, Repr

def RouteDefect.message : RouteDefect → String
  | template text defect => defect.message text
  | overlap method path =>
    "Overlapping method route. Handler for \x60" ++ method ++ " " ++ path ++ "\x60 already exists"

namespace Table

variable {σ : Type}

def empty : Table σ := ⟨[], none⟩

/-- Adds a handler to a route that is there already; a second handler for one method is refused. -/
def extend (route : Route σ) (method : String) (handler : Handler σ) :
    Except RouteDefect (Route σ) :=
  match route.methods with
  | .every _ => .error (.overlap method route.template.text)
  | .listed handlers =>
    if handlers.any (·.1 == method) then .error (.overlap method route.template.text)
    else .ok { route with methods := .listed (handlers ++ [(method, handler)]) }

/-- Adds a handler for one method of a path. -/
def add (table : Table σ) (method path : String) (handler : Handler σ) :
    Except RouteDefect (Table σ) := do
  (Template.checkText path).mapError (.template path)
  if table.routes.any (·.template.text == path) then
    let routes ← table.routes.mapM fun route =>
      if route.template.text == path then extend route method handler else pure route
    return { table with routes }
  else
    let template ← (Template.ofChecked path).mapError (.template path)
    return { table with routes := table.routes ++ [⟨template, .listed [(method, handler)]⟩] }

/-- Adds a handler for every method of a path. -/
def addEvery (table : Table σ) (path : String) (handler : Handler σ) :
    Except RouteDefect (Table σ) := do
  let template ← (Template.ofText path).mapError (.template path)
  return { table with routes := table.routes ++ [⟨template, .every handler⟩] }

/-- The route of a path: a literal template wins over one with parameters. -/
def find? (table : Table σ) (path : String) : Option (Route σ) :=
  let accepting := table.routes.filter (·.template.accepts path)
  (accepting.find? (·.template.isStatic)).or accepting.head?

/-- The length of the body is stated where it is known and not stated yet. -/
def stateLength (response : Response) : Response :=
  if response.sized && !response.headers.contains "content-length" then
    response.mapHeaders (·.set "content-length" (Numeral.decimal response.body.length))
  else response

/-- Completes the answer of a route or of a fallback: the length is stated, the methods too where
there are any to be stated, and the answer to `HEAD` loses its body after that. A successful answer
to `CONNECT` only loses its body. -/
def finish (method : String) (allow : Option String) (response : Response) : Response :=
  if method = "CONNECT" ∧ 200 ≤ response.status ∧ response.status < 300 then
    { response with body := [], sized := true }
  else
    let allowed := match allow with
      | some methods => response.mapHeaders (·.default "allow" methods)
      | none => response
    let stated := stateLength allowed
    if method = "HEAD" then { stated with body := [] } else stated

/-- Answers a path without a route, where there is no fallback. -/
def notFound : Handler σ := fun _ => return .ofStatus 404

/-- Answers a method that a route does not have. -/
def methodNotAllowed : Handler σ := fun _ => return .ofStatus 405

/-- Answers a request. The layer stands in front of every handler, of the answers to other methods
and of the fallback; the table completes what comes out of it. -/
def serve (table : Table σ) (layer : Layer σ) : Handler σ := fun request => do
  match table.find? request.path with
  | some route =>
    let request := { request with route := some route.template.text }
    match route.methods.handler? request.method with
    | some handler =>
      let response ← layer handler request
      return finish request.method none response
    | none =>
      let response ← layer methodNotAllowed request
      return finish request.method route.methods.allow response
  | none =>
    let request := { request with route := none }
    match table.fallback with
    | some fallback =>
      let response ← layer fallback request
      return finish request.method none response
    | none => layer notFound request

end Table
end Gatehouse.Router
