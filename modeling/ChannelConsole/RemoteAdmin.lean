import ChannelConsole.Backend
import ChannelConsole.Network.Link
import ChannelConsole.Network.Url

/-!
# Calls to a remote server

An editor need not run beside the store of channels: its calls can be sent to a server over the
network. This module has the request for each call and the reading of the answers.

## Main definitions

* `RemoteAdmin.Target`: where the server is and how one logs in.
* `RemoteAdmin.contentOf`: the method, the path and the body for each call.
* `RemoteAdmin.Target.canCarry`: whether the body for a call can be written.
* `RemoteAdmin.readEnvelope`, `RemoteAdmin.readNames`: what an answer says.
* `RemoteAdmin.perform`: the whole exchange.

## Main statements

* `RemoteAdmin.perform_sent`: each call that has an address and can be written sends exactly one
  request.
-/

namespace ChannelConsole.RemoteAdmin

open Backend Channel Network
open CodePoint (char)

/-- Where the server is, how one logs in, and whether bodies are written with escapes for all that
is not ASCII. Older senders do so, and newer ones write characters as they are. -/
structure Target where
  base : Url
  token? : Option Text := none
  escapes : Bool := false
deriving DecidableEq

/-- Why there is no way to a server. -/
inductive TargetFault where
  /-- the address is none -/
  | badAddress
  /-- the token has characters that cannot be sent -/
  | unencodable
deriving DecidableEq

/-- What an address that cannot be used comes to. -/
def faultOfAddress : Url.Fault → TargetFault
  | .invalid => .badAddress
  | .unencodable _ => .unencodable

/-- The way to a server with a typed address and a token. Slashes at the end of the address make no
difference. -/
def Target.of (address : Text) (token? : Option Text) : Except TargetFault Target :=
  match (Url.ofText (Text.dropTrailing '/' address)).bind Url.asBase with
  | .error e => .error (faultOfAddress e)
  | .ok base =>
    if token?.all fun token => token.toList.all (·.toNat < 0x80) then .ok { base, token? }
    else .error .unencodable

/-- The header with which one logs in: with a name and a password if the address has them, otherwise
with the token, if there is one. -/
def Target.authorization? (t : Target) : Option Text :=
  match t.base.credentials? with
  | some header => some header
  | none =>
    match t.token? with
    | some token => if token.isEmpty then none else some ("Bearer " ++ token)
    | none => none

/-- The address for a path below that of the server. -/
def Target.address (t : Target) (path : Text) : Except Url.Fault Url :=
  (Url.ofText path).bind t.base.join

/-- The number of a channel in a path. -/
def numberOr : Option Int → Text
  | some id => Text.ofInt id
  | none => "None"

/-- The method and the path of a call, below the path of the server, and what is sent with it. -/
def contentOf : Call → Text × Text × Body
  | .getChannel id? => ("GET", "/api/channel/" ++ numberOr id?, .empty)
  | .createChannel p => ("POST", "/api/channel/", .json p.toJsonWithoutId)
  | .updateChannel p => ("PUT", "/api/channel/", .json p.toJson)
  | .listCatalog => ("GET", "/api/channel/models", .empty)
  | .listGroups => ("GET", "/api/group/", .empty)
  | .fetchModels channelType baseUrl key =>
    ("POST", "/api/channel/fetch_models",
      .json (FetchRequest.toJson { channelType, baseUrl, key }))
  | .fetchModelsById id => ("GET", "/api/channel/fetch_models/" ++ Text.ofInt id, .empty)

/-- The request for a call at an address. -/
def requestAt (t : Target) (call : Call) (url : Url) : Request :=
  let (method, _, body) := contentOf call
  { method, path := url.plainPath, authorization? := t.authorization?, body }

/-- The address for a call. -/
def addressFor (t : Target) (call : Call) : Except Url.Fault Url := t.address (contentOf call).2.1

/-- Whether the body of the request for a call can be written. Only with escapes can halves of
characters be. -/
def Target.canCarry (t : Target) (call : Call) : Bool :=
  t.escapes || (contentOf call).2.2.isEncodable

/-! ### Values as names -/

/-- Doubles in names are written positionally while the leading digit stands between the fourth
place after the point and the sixteenth place before it, and exponents have two digits. -/
def nameLayout : Binary64.Layout := ⟨-4, 16, 2⟩

mutual

/-- A value inside a list. -/
def display : Json → List CodePoint
  | .null => Text.toList "None"
  | .bool true => Text.toList "True"
  | .bool false => Text.toList "False"
  | .int n => Text.intChars n
  | .float x => Binary64.chars nameLayout x
  | .nonFinite .notANumber => Text.toList "nan"
  | .nonFinite (.infinite negative) => if negative then Text.toList "-inf" else Text.toList "inf"
  | .str s => Text.quotedChars s.toList
  | .arr xs => '[' :: (List.intercalate [char ',', ' '] (displayItems xs) ++ [char ']'])
  | .obj fs =>
    '\x7b' :: (List.intercalate [char ',', ' '] (displayFields fs) ++ [char '\x7d'])

/-- The items of an array inside a list. -/
def displayItems : List Json → List (List CodePoint)
  | [] => []
  | x :: r => display x :: displayItems r

/-- The fields of an object inside a list. -/
def displayFields : List (Text × Json) → List (List CodePoint)
  | [] => []
  | (k, x) :: r =>
    (Text.quotedChars k.toList ++ char ':' :: ' ' :: display x) :: displayFields r

end

/-- The name that a value stands for: a text is its own name. -/
def nameOf : Json → Text
  | .str s => s
  | v => Text.ofList (display v)

/-- The values one gets by going through a value: the items of an array, the characters of a text,
or the keys of an object; a void value has none. -/
def elementsOf (v : Json) : Except Fault (List Json) :=
  if v.isVoid then .ok []
  else
    match v with
    | .arr xs => .ok xs
    | .str s => .ok (s.toList.map fun c => .str (Text.singleton c))
    | .obj fs => .ok (fs.map fun f => .str f.1)
    | _ => .error .wrongKind

/-! ### Reading answers -/

/-- What an answer or its absence came to. -/
inductive Failure where
  | refused (r : Refusal)
  | fault (f : Fault)

/-- What a body that cannot be read comes to. -/
def faultOfBody (f : Json.ReadFault) : Fault :=
  match f.flaw with
  | .tooDeep => .tooDeep
  | .tooLong _ => .unusable f.words
  | _ => .notJson

/-- The refusal in an answer with a status of failure: what the body has under `detail`, or the
status if it has nothing there. A body that is JSON but no object has no such part. -/
def readRefusal (status : Nat) (body : Body) : Failure :=
  let detail : Except Fault Json :=
    match body.read with
    | .ok (.obj fs) => .ok ((fs.lookup ("detail" : Text)).getD .null)
    | .ok _ => .error .noSuchPart
    | .error f => if f.flaw = .tooDeep then .error .tooDeep else .ok .null
  match detail with
  | .error f => .fault f
  | .ok v =>
    let message := if v.isVoid then
      .str ("Request failed with status " ++ Text.ofInt status) else v
    .refused { message, status? := some status }

/-- The envelope in an answer. -/
def readEnvelope : Answer → Except Failure Envelope
  | .unreachable message => .error (.refused (.ofText ("Request failed: " ++ message)))
  | .response ⟨status, body⟩ =>
    if 400 ≤ status then .error (readRefusal status body)
    else
      match body.read with
      | .error f => .error (.fault (faultOfBody f))
      | .ok v =>
        match Envelope.check v with
        | .ok e => .ok e
        | .error issues => .error (.fault (.invalid .envelope issues))

/-- The names in an answer, which stand under the data of its envelope or one level deeper. -/
def readNames (a : Answer) : Except Failure (List Text) :=
  match readEnvelope a with
  | .error f => .error f
  | .ok e =>
    if e.success then
      let data := match e.data with
        | .obj fs => (fs.lookup ("data" : Text)).getD (.arr [])
        | v => v
      match elementsOf data with
      | .ok xs => .ok (xs.map nameOf)
      | .error f => .error (.fault f)
    else
      .error (.refused (.ofText (if e.message.isEmpty then "Request failed" else e.message)))

/-- The reply that a failure makes. -/
def Failure.reply : Failure → Reply
  | .refused r => .refused r
  | .fault f => .fault f

/-- The reply to a call that an answer makes. -/
def readReply (call : Call) (a : Answer) : Reply :=
  match call with
  | .getChannel _ | .createChannel _ | .updateChannel _ =>
    match readEnvelope a with
    | .ok e => .envelope e
    | .error f => f.reply
  | .listCatalog | .listGroups =>
    match readNames a with
    | .ok xs => .names xs
    | .error f => f.reply
  | .fetchModels .. | .fetchModelsById _ =>
    match readNames a with
    | .ok xs => .models (Model.Name.ofTexts xs)
    | .error f => f.reply

/-- The reply to a call that an answer from an address makes. An answer from an address of no known
kind is of no use. -/
def replyFrom (call : Call) (url : Url) : Answer → Reply
  | .unreachable message => readReply call (.unreachable message)
  | .response r =>
    if url.hasKind then readReply call (.response r) else .fault (.unusable url.unknownKind)

/-- Send the request for a call and read the answer. -/
def perform (t : Target) (link : Link Request) (call : Call) : Link Request × Reply :=
  match addressFor t call with
  | .error .invalid => (link, .fault .badAddress)
  | .error (.unencodable _) => (link, .fault .unencodable)
  | .ok url =>
    if t.canCarry call then
      let (link, a) := link.send (requestAt t call url)
      (link, replyFrom call url a)
    else (link, .fault .unencodable)

/-- Each call that has an address and can be written sends exactly one request. -/
theorem perform_sent {t : Target} {call : Call} {url : Url} (link : Link Request)
    (h : addressFor t call = .ok url) (hcarry : t.canCarry call = true) :
    (perform t link call).1.sent = link.sent ++ [requestAt t call url] := by
  rw [perform, h, ← Link.sent_send]
  simp only [hcarry, if_true]

end ChannelConsole.RemoteAdmin
