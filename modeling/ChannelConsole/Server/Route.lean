import ChannelConsole.Text.Percent
import ChannelConsole.Text.Search

/-!
# Routes

What can be asked of the server, and by which method at which path. The escapes of a path are read,
and it is cut at its slashes; each list of segments has a few endpoints, and the first one with the
method of a request answers it.

## Main definitions

* `Server.Route`: what can be asked.
* `Server.endpoints`: the endpoints at a list of segments.
* `Server.resolve`: what becomes of a method and a path.

## Main statements

* `Server.resolve_of_endpoint`: an endpoint that is alone at its path answers its method.
-/

namespace ChannelConsole.Server

/-- What can be done with an open editor. -/
inductive Action where
  | look
  | keys
  | field (name : Text)
  | template (field : Text)
  | models
  | selector
  | submit
deriving DecidableEq

/-- What can be asked of the server. The numbers of channels are as they stand in the path. -/
inductive Route where
  | documentation
  | health
  | login
  | logout
  | verify
  | listCatalog
  | fetchModels
  | fetchModelsById (id : Text)
  | getChannel (id : Text)
  | createChannel
  | updateChannel
  | listGroups
  | openEditor
  | closeEditor (id : Text)
  | editor (id : Text) (action : Action)
deriving DecidableEq

/-- The endpoints at paths without names, by their segments. -/
def fixedEndpoints : List Text → List (Text × Route)
  | ["docs"] | ["docs", "oauth2-redirect"] | ["redoc"] | ["openapi.json"] =>
    [("GET", .documentation), ("HEAD", .documentation)]
  | ["api", "health"] => [("GET", .health)]
  | ["api", "admin", "login"] => [("POST", .login)]
  | ["api", "admin", "logout"] => [("POST", .logout)]
  | ["api", "admin", "verify"] => [("GET", .verify)]
  | ["api", "channel", ""] => [("POST", .createChannel), ("PUT", .updateChannel)]
  | ["api", "channel", "models"] => [("GET", .listCatalog)]
  | ["api", "channel", "fetch_models"] => [("POST", .fetchModels)]
  | ["api", "group", ""] => [("GET", .listGroups)]
  | ["api", "editor", "sessions"] => [("POST", .openEditor)]
  | _ => []

/-- The actions on an editor whose paths end in a word. -/
def editorWords : List (Text × Action) :=
  [("credentials", .keys), ("models", .models), ("selector", .selector), ("submit", .submit)]

/-- The endpoints below an editor that end in a word. -/
def wordEndpoints : List Text → List (Text × Route)
  | ["api", "editor", "sessions", id, word] =>
    match editorWords.lookup word with
    | some action => if id.isEmpty then [] else [("POST", .editor id action)]
    | none => []
  | _ => []

/-- The endpoints at paths that end in a name or a number. None of the names may be empty. -/
def namedEndpoints : List Text → List (Text × Route)
  | ["api", "channel", id] => if id.isEmpty then [] else [("GET", .getChannel id)]
  | ["api", "channel", "fetch_models", id] =>
    if id.isEmpty then [] else [("GET", .fetchModelsById id)]
  | ["api", "editor", "sessions", id] =>
    if id.isEmpty then [] else [("GET", .editor id .look), ("DELETE", .closeEditor id)]
  | ["api", "editor", "sessions", id, "fields", name] =>
    if id.isEmpty || name.isEmpty then [] else [("PUT", .editor id (.field name))]
  | ["api", "editor", "sessions", id, "templates", field] =>
    if id.isEmpty || field.isEmpty then [] else [("POST", .editor id (.template field))]
  | _ => []

/-- The segments of a path without a line break at its end. -/
def dropBreak : List Text → List Text
  | [] => []
  | [s] => [if Text.endsWith "\n" s then Text.ofList s.toList.dropLast else s]
  | s :: r => s :: dropBreak r

/-- The endpoints at a list of segments. Where a path ends in a word, a line break behind the word
makes no difference. -/
def endpoints (segments : List Text) : List (Text × Route) :=
  fixedEndpoints (dropBreak segments) ++ wordEndpoints (dropBreak segments) ++
    namedEndpoints segments

/-! ### Paths -/

/-- The segments of a path behind its first slash. -/
def segments (path : Text) : List Text :=
  match (path.toList.splitOnP (· == CodePoint.char '/')).map Text.ofList with
  | "" :: r => r
  | r => r

/-- The path with the slashes at its end taken away, or with one added if it has none. -/
def otherEnding (path : Text) : Text :=
  if Text.endsWith "/" path then Text.dropTrailing '/' path else path ++ "/"

/-- What becomes of a method and a path. -/
inductive Resolution where
  | found (r : Route)
  /-- there are endpoints at the path, but for other methods -/
  | otherMethod
  /-- there are endpoints at the path with the other ending -/
  | moved
  | nowhere
deriving DecidableEq

/-- What becomes of a method and a path. -/
def resolve (method path : Text) : Resolution :=
  let path := Text.unescape path
  match endpoints (segments path) with
  | [] =>
    if path ≠ "/" ∧ endpoints (segments (otherEnding path)) ≠ [] then .moved else .nowhere
  | found =>
    match found.lookup method with
    | some route => .found route
    | none => .otherMethod

/-- An endpoint that is alone at its path answers its method. -/
theorem resolve_of_endpoint {method path : Text} {route : Route}
    (h : endpoints (segments (Text.unescape path)) = [(method, route)]) :
    resolve method path = .found route := by
  simp [resolve, h]

/-- Whether anybody may ask. -/
def Route.isPublic : Route → Bool
  | .documentation | .health | .login => true
  | _ => false

/-- Whether the body of a request is looked at. -/
def Route.readsBody : Route → Bool
  | .login | .fetchModels | .createChannel | .updateChannel | .openEditor => true
  | .editor _ action =>
    match action with
    | .keys | .field _ | .models | .selector => true
    | .look | .template _ | .submit => false
  | _ => false

end ChannelConsole.Server
