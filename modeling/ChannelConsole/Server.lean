import ChannelConsole.Access
import ChannelConsole.Editor.Sessions
import ChannelConsole.Password
import ChannelConsole.Server.Reading
import ChannelConsole.Settings
import ChannelConsole.Store

/-!
# The server

The store of channels and the open editors behind a network interface. A request is answered in
steps, and the first thing that is wrong decides the answer: the path, the method, a body that
cannot be read, the token, the editor that is asked for, the parts of the request, and at last what
the request asks for. A response with halves of characters cannot be sent, and a failure is sent in
its place.

## Main definitions

* `Server`: the state of the server.
* `Server.handle`: the answer to a request.
* `Server.operate`: carry out an operation on an open editor.

## Main statements

* `Server.answer_not_admitted`: a request without a valid token changes nothing.
-/

namespace ChannelConsole

open Backend Channel Editor Schema
open Network (Body Link Request Response)

/-- The state of the server: its settings, the stored channels, the link to providers, the time in
millionths of a second, who is logged in, the open editors, and how many channels were saved in
editors. -/
structure Server where
  settings : Settings := {}
  store : Store := {}
  link : Link Provider.Request := {}
  now : Int := 0
  access : Access := {}
  editors : Sessions := {}
  revision : Nat := 0

namespace Server

/-- The server that starts with the given settings. -/
def ofSettings (settings : Settings) : Server :=
  { settings
    store := { groups := settings.channelGroups, extraModels := settings.extraCatalogModels } }

/-- A second on the clock. -/
def second : Int := 1000000

/-- How long an editor may be idle, on the clock. -/
def idleTime (s : Server) : Int := 60 * s.settings.editorSessionTtlMinutes * second

/-- How long a token lasts, in seconds. -/
def tokenSeconds (s : Server) : Int := 3600 * s.settings.adminTokenExpiryHours

/-- The server after some time. -/
def wait (s : Server) (time : Int) : Server := { s with now := s.now + time }

/-- Forget the tokens that have ended. -/
def sweep (s : Server) : Server := { s with access := s.access.sweep s.now }

/-! ### Responses -/

/-- A response of success. -/
def success (v : Json) : Response := ⟨200, .json v⟩

/-- A response with a status of failure and what is said about it. -/
def refusal (status : Nat) (detail : Json) : Response := ⟨status, .json (.obj [("detail", detail)])⟩

/-- A response with a status of failure and words. -/
def saying (status : Nat) (words : Text) : Response := refusal status (.str words)

/-- The response to a request whose parts are not as they should be. -/
def malformed (issues : List Issue) : Response := refusal 422 (.arr (issues.map Issue.toJson))

/-- The response to a request whose body cannot be read. -/
def unreadable : BodyFault → Response
  | .notJson => malformed [{ path := [.field "body"], kind := .jsonUnreadable }]
  | .givenUp => saying 400 "There was an error parsing the body"

/-- The response when something fails that nobody expects to fail. -/
def crash : Response := ⟨500, .text "Internal Server Error"⟩

/-- The response when an editor is not open. -/
def notOpen (id : Text) : Response := saying 404 ("Editor session with id " ++ id ++ " not found")

/-- The response that carries an envelope. -/
def ofEnvelope : Except Fault Envelope → Response
  | .ok e => success e.toJson
  | .error _ => crash

/-- The response that carries models. A refusal to list them is an envelope of failure. -/
def ofListing : Except Store.FetchFault (List Model.Name) → Response
  | .ok names => success (Envelope.succeed (Model.Name.array names)).toJson
  | .error (.refused message _) => success (Envelope.failure message).toJson
  | .error (.fault _) => crash

/-- Go on with the checked part of a request, or say what is wrong with it. -/
def withChecked {α : Type} (s : Server) (c : Checked α) (next : α → Server × Response) :
    Server × Response :=
  match c with
  | .ok a => next a
  | .error issues => (s, malformed issues)

/-- Go on with the checked body of a request, or say what is wrong with it. -/
def withBody {α : Type} (s : Server) (check : Json → Checked α) (body? : Option Json)
    (next : α → Server × Response) : Server × Response :=
  match checkBody check body? with
  | .ok a => next a
  | .error issues =>
    (s, if body?.all (canReport · issues) then malformed issues else crash)

/-! ### Logging in -/

/-- Whether a text is the password. There may be no password; and one that cannot be hashed makes
the question unanswerable. -/
def knowsPassword? (s : Server) (attempt : Text) : Option Bool :=
  match s.settings.adminPassword? with
  | none => some false
  | some password =>
    if password.isEmpty then some false
    else (Password.hash? password).map fun h => h.accepts attempt

/-- Give out a token to who knows the password. -/
def login (s : Server) (attempt : Text) : Server × Response :=
  match s.knowsPassword? attempt with
  | none => (s, crash)
  | some false => (s, saying 401 "Invalid password")
  | some true =>
    let (access, token) := s.access.issue s.now (s.tokenSeconds * second)
    ({ s with access },
      success (.obj [("token", .str token), ("expires_in", .int s.tokenSeconds)]))

/-- Take a token back. -/
def logout (s : Server) (token : Text) : Server × Response :=
  ({ s with access := s.access.revoke token },
    success (.obj [("message", .str "Logged out successfully")]))

/-- How the server is doing. -/
def health (s : Server) : Response :=
  success (.obj [("status", .str "healthy"), ("editor_sessions", .int s.editors.live.length),
    ("revision", .int s.revision)])

/-! ### Channels -/

/-- Store a new channel. Its number is not for the request to choose. -/
def createChannel (s : Server) (p : Payload) : Server × Response :=
  match p.id? with
  | some _ => (s, saying 400 "id must not be set when creating a channel")
  | none =>
    let (store, r) := s.store.create p
    ({ s with store }, ofEnvelope r)

/-- Change a stored channel. -/
def updateChannel (s : Server) (p : Payload) : Server × Response :=
  let (store, r) := s.store.update p
  ({ s with store }, ofEnvelope r)

/-- List the models of a provider. -/
def fetchModels (s : Server) (r : FetchRequest) : Server × Response :=
  let (link, names) := Store.fetchModels s.link r.channelType r.baseUrl r.key
  ({ s with link }, ofListing names)

/-- List the models of the provider of a stored channel. -/
def fetchModelsById (s : Server) (id : Int) : Server × Response :=
  let (link, names) := s.store.fetchModelsById s.link id
  ({ s with link }, ofListing names)

/-! ### Editors -/

/-- The outcome for the keys that an operation had, if it is one on the keys or the type. -/
def outcome? : Answer → Option Credential.Outcome
  | .outcome o => some o
  | .pool (.outcome o) => some o
  | .pool .nothing => some {}
  | _ => none

/-- Whether the channel was saved, if the operation was to save it. -/
def saved? : Answer → Option Bool
  | .submitted b _ => some b
  | _ => none

/-- The response about an editor: its state, what has been said since the last response, and what
came of the operation. -/
def ofEditor (id : Text) (f : Form) (a : Answer) : Response :=
  success (.obj [("session_id", .str id), ("state", f.snapshot),
    ("notices", .arr (f.notices.map Notice.toJson)),
    ("outcome", match outcome? a with
      | some o => o.toJson
      | none => .null),
    ("success", match saved? a with
      | some b => .bool b
      | none => .null)])

/-- What the store and the providers answer to the calls of an editor. -/
def answerCall (b : Store × Link Provider.Request) (call : Call) :
    (Store × Link Provider.Request) × Reply :=
  let (store, link, reply) := b.1.answer b.2 call
  ((store, link), reply)

/-- Carry out an operation on a form. -/
def perform (s : Server) (f : Form) (op : Op) : Server × Form × Except Fault Answer :=
  let ((store, link), g, r) := f.perform answerCall (s.store, s.link) op
  ({ s with store, link, revision := s.revision + (g.saves - f.saves) }, g, r)

/-- Keep what became of an editor. -/
def keep (s : Server) (e : Session) (f : Form) : Server :=
  { s with editors := s.editors.put { e with form := f } }

/-- Tell about an editor. What has been said is not said again, even if the response about it cannot
be written, since a value in the draft is nested too deeply. -/
def tell (s : Server) (e : Session) (f : Form) (a : Answer) : Server × Response :=
  if f.canShow then
    (s.keep e f.drained, if f.draft.isShallow then ofEditor e.id f a else crash)
  else (s.keep e f, crash)

/-- Open an editor, for a new channel or for a stored one. -/
def openEditor (s : Server) (channelId? : Option Int) : Server × Response :=
  let (editors, id) := (s.editors.purge s.idleTime s.now).takeName
  let (s, f, r) := { s with editors }.perform { channelId? } .openForm
  match r with
  | .error _ => (s, crash)
  | .ok a =>
    let e : Session := { id, form := f, lastUsed := s.now }
    { s with editors := s.editors.add e }.tell e f a

/-- Give up an editor. -/
def closeEditor (s : Server) (id : Text) : Server × Response :=
  match s.editors.find? id with
  | none => (s, notOpen id)
  | some _ =>
    ({ s with editors := s.editors.discard id },
      success (.obj [("message", .str "Editor session closed")]))

/-- What is said when something is to be picked and the selector is closed. -/
def selectorClosed : Text := "The model selector is not open"

/-- Carry out an operation on an open editor. -/
def operate (s : Server) (e : Session) (op : Op) : Server × Response :=
  let (s, f, r) := s.perform e.form op
  match r with
  | .ok .noSelector => (s.keep e f, saying 400 selectorClosed)
  | .ok a => s.tell e f a
  | .error fault =>
    match op.faultWords? fault with
    | some words => (s.keep e f, saying 400 words)
    | none => (s.keep e f, crash)

/-- Set a field of the channel in an open editor. -/
def setField (s : Server) (e : Session) (name : Text) (v : Json) : Server × Response :=
  match fieldOp name v with
  | .ok op => s.operate e op
  | .error fault =>
    match fault.words? with
    | some words => (s, saying 400 words)
    | none => (s, crash)

/-- Do with an open editor what a request asks for. -/
def act (s : Server) (e : Session) (action : Action) (body? : Option Json) : Server × Response :=
  match action with
  | .look => s.tell e e.form .nothing
  | .keys => s.withBody keyEvent body? fun event => s.operate e (.editKeys event)
  | .field name => s.withBody fieldValue body? fun v => s.setField e name v
  | .template field => s.operate e (.fillTemplate field)
  | .models => s.withBody modelOp body? fun op => s.operate e op
  | .selector => s.withBody selectorOp body? fun op => s.operate e op
  | .submit => s.operate e .submit

/-- Find an open editor and do with it what a request asks for. -/
def inEditor (s : Server) (id : Text) (action : Action) (body? : Option Json) :
    Server × Response :=
  match s.editors.use s.idleTime s.now id with
  | (editors, none) => ({ s with editors }, notOpen id)
  | (editors, some e) => { s with editors }.act e action body?

/-! ### Requests -/

/-- The answer of a route to a request that was let in with a token. -/
def serve (s : Server) (token : Text) (route : Route) (body? : Option Json) :
    Server × Response :=
  match route with
  | .documentation => (s, ⟨200, .empty⟩)
  | .health => (s, s.health)
  | .login => s.withBody passwordIn body? s.login
  | .logout => s.logout token
  | .verify => (s, success (.obj [("valid", .bool true)]))
  | .listCatalog => (s, success (Envelope.succeed (.strings s.store.listCatalog)).toJson)
  | .listGroups => (s, success (Envelope.succeed (.strings s.store.listGroups)).toJson)
  | .fetchModels => s.withBody (FetchRequest.check .recordExpected) body? s.fetchModels
  | .fetchModelsById id => s.withChecked (channelId id) s.fetchModelsById
  | .getChannel id => s.withChecked (channelId id) fun id => (s, ofEnvelope (s.store.get id))
  | .createChannel => s.withBody Payload.check body? s.createChannel
  | .updateChannel => s.withBody Payload.check body? s.updateChannel
  | .openEditor => s.withBody editedChannel body? s.openEditor
  | .closeEditor id => s.closeEditor id
  | .editor id action => s.inEditor id action body?

/-- The answer of a route to a request with the given header and body. -/
def answer (s : Server) (route : Route) (authorization? : Option Text) (body? : Option Json) :
    Server × Response :=
  if route.isPublic then s.serve "" route body?
  else
    match s.access.letIn s.now authorization? with
    | .error e => (s, saying 401 e.message)
    | .ok token => s.serve token route body?

/-- The body of a request as far as a route looks at it. -/
def bodyFor (route : Route) (body : Body) : Except BodyFault (Option Json) :=
  if route.readsBody then readBody body else .ok none

/-- Whether a response can be sent, which takes whole characters. -/
def canSend (r : Response) : Bool := r.body.isEncodable

/-- The answer to a request. -/
def respond (s : Server) (r : Request) : Server × Response :=
  match resolve r.method r.path with
  | .nowhere => (s, saying 404 "Not Found")
  | .moved => (s, ⟨307, .empty⟩)
  | .otherMethod => (s, saying 405 "Method Not Allowed")
  | .found route =>
    match bodyFor route r.body with
    | .error e => (s, unreadable e)
    | .ok body? =>
      let (s, a) := s.answer route r.authorization? body?
      (s, if canSend a then a else crash)

/-- The answer to a request, which has no body if the request is for the head alone. -/
def handle (s : Server) (r : Request) : Server × Response :=
  let (s, a) := s.respond r
  (s, if r.method = "HEAD" then { a with body := .empty } else a)

/-! ### Small facts -/

/-- A request that is not let in changes nothing. -/
theorem answer_not_admitted {s : Server} {route : Route} {authorization? : Option Text}
    {e : Access.Refusal} (body? : Option Json) (hp : route.isPublic = false)
    (h : s.access.letIn s.now authorization? = .error e) :
    s.answer route authorization? body? = (s, saying 401 e.message) := by
  simp [answer, hp, h]

end Server

end ChannelConsole
