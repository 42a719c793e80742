import ChannelConsole.Network.Link
import ChannelConsole.Network.Url
import ChannelConsole.ChannelType.Table
import ChannelConsole.Model.Name

/-!
# Asking a provider for its models

Providers list their models in one of four ways. Each has its own address below that of the
provider, its own way of carrying the key, and its own place for the names in the answer.

## Main definitions

* `Provider.Request`: an address and the headers sent to it.
* `Provider.listingRequest`: the request for each of the four ways.
* `Provider.namesIn`: the names in an answer.
* `Provider.discover`: the whole exchange.
* `Provider.Fault`: what can go wrong.

## Main statements

* `Provider.list_sent`: each way of listing makes one request, which is kept on record.
-/

namespace ChannelConsole.Provider

open Network

/-- A request for an address, with the headers that were set for it. -/
structure Request where
  url : Text
  headers : List (Text × Text) := []
deriving DecidableEq

/-- What can go wrong when models are listed. -/
inductive Fault where
  /-- there was no connection -/
  | unreachable (message : Text)
  /-- the answer has a status of failure -/
  | badStatus (status : Nat) (url : Text)
  /-- the body cannot be read -/
  | unreadable (fault : Json.ReadFault)
  /-- the body is JSON, but no object -/
  | notObject (url kind : Text)
  /-- no address was given and the type has none of its own -/
  | noAddress (typeName : Text)
  /-- a part of the body is of a kind that cannot be used there -/
  | wrongKind
  /-- a model has a name that is no text where only a text will do -/
  | nameNotText
  /-- the address is none -/
  | badAddress
  /-- the address has a character that cannot be sent -/
  | badCharacter (c : CodePoint)
  /-- a header has characters that cannot be sent: the first run of them, and its place -/
  | badHeader (place : Nat) (run : List CodePoint)
  /-- the address does not say of which kind it is -/
  | noKind (url : Url)
deriving DecidableEq

/-- What is said when no address is known for a type. -/
def noAddressComplaint (typeName : Text) : Text :=
  "base_url is required to list models for " ++ typeName ++ " channels"

/-- What is said about a body that is no object. -/
def notObjectComplaint (url kind : Text) : Text :=
  "Unexpected response shape from " ++ url ++ ": " ++ kind

/-- What is said about a character that is half of one. -/
def badCharacterComplaint (c : CodePoint) : Text :=
  "'utf-8' codec can't encode character '" ++ Text.ofList (Text.escapedCode c.toNat) ++
    "' in position 0: surrogates not allowed"

/-- What is said about a header with characters beyond ASCII. -/
def badHeaderComplaint (place : Nat) (run : List CodePoint) : Text :=
  let ending : Text := ": ordinal not in range(128)"
  "'ascii' codec can't encode character" ++
    match run with
    | [c] =>
      " '" ++ Text.ofList (Text.escapedCode c.toNat) ++ "' in position " ++
        Text.ofInt place ++ ending
    | _ =>
      "s in position " ++ Text.ofInt place ++ "-" ++ Text.ofInt (place + run.length - 1 : Nat) ++
        ending

/-- What a fault says, for those that are reported to users. The others are not expected, and nobody
reports them. -/
def Fault.message? : Fault → Option Text
  | .unreachable message => some message
  | .badStatus status url => some (statusComplaint status url)
  | .unreadable fault => if fault.flaw = .tooDeep then none else some fault.words
  | .notObject url kind => some (notObjectComplaint url kind)
  | .noAddress typeName => some (noAddressComplaint typeName)
  | .badCharacter c => some (badCharacterComplaint c)
  | .badHeader place run => some (badHeaderComplaint place run)
  | .noKind url => some url.unknownKind
  | .wrongKind => none
  | .nameNotText => none
  | .badAddress => none

/-! ### Requests -/

/-- The header that carries a key, if there is one. -/
def bearer (key? : Option Text) : List (Text × Text) :=
  match key? with
  | some key => if key.isEmpty then [] else [("Authorization", "Bearer " ++ key)]
  | none => []

/-- The request that lists models in one of the four ways, at an address without slashes at its
end. -/
def listingRequest (listing : ChannelType.Listing) (key? : Option Text) (base : Text) :
    Request :=
  match listing with
  | .openai =>
    { url := base ++ if Text.endsWith "/v1" base then ("/models" : Text) else "/v1/models"
      headers := bearer key? }
  | .anthropic =>
    { url := base ++ "/v1/models"
      headers := [("x-api-key", key?.getD ""), ("anthropic-version", "2023-06-01")] }
  | .gemini => { url := base ++ "/v1/models?key=" ++ key?.getD "None" }
  | .ollama =>
    { url := Text.replaceAll "/v1" "" base ++ "/api/tags"
      headers := bearer key? }

/-! ### Names in an answer -/

/-- The values one gets by going through a value: the items of an array, the characters of a text,
or the keys of an object. -/
def elements? : Json → Option (List Json)
  | .arr xs => some xs
  | .str s => some (s.toList.map fun c => .str (Text.singleton c))
  | .obj fs => some (fs.map fun f => .str f.1)
  | _ => none

/-- Whether a text is found in a value: as an item of an array, inside a text, or as a key of an
object. -/
def contains? (s : Text) : Json → Option Bool
  | .arr xs => some (xs.any fun | .str t => t == s | _ => false)
  | .str t => some (Text.occursIn s t)
  | .obj fs => some (fs.any fun f => f.1 == s)
  | _ => none

/-- Where names of a sort stand among the others. What is no number is neither less nor greater than
anything, so that its place is left to chance; here it is behind the numbers. -/
def rank : Model.Name.Key → Nat
  | .nonFinite (.infinite true) => 0
  | .number _ => 1
  | .nonFinite (.infinite false) => 2
  | .nonFinite .notANumber => 3
  | .text _ => 4

/-- The order of names, texts by the codes of their characters and numbers by their size. -/
def isOrdered : Model.Name.Key → Model.Name.Key → Bool
  | .text s, .text t => !Text.comesBefore t s
  | .number m, .number n => m ≤ n
  | j, k => rank j ≤ rank k

/-- The names that are not void, each once and in ascending order. Texts and numbers cannot be put
into one order. -/
def sortedNames (xs : List Model.Name) : Except Fault (List Model.Name) :=
  let solid := Model.Name.unique xs
  if solid.all Model.Name.isText || solid.all (!·.isText) then
    .ok (solid.mergeSort fun m n => isOrdered m.key n.key)
  else .error .wrongKind

/-- The names among values that are not void, each once and in ascending order. Arrays and objects
are no names. -/
def sortedIds (xs : List Json) : Except Fault (List Model.Name) :=
  match (xs.filter (!·.isVoid)).mapM Model.Name.ofJson? with
  | some names => sortedNames names
  | none => .error .wrongKind

/-- The value of a field, or the given one when there is no such field. -/
def fieldOr (fields : List (Text × Json)) (name : Text) (default : Json) : Json :=
  (fields.lookup name).getD default

/-- The objects among the elements of a field. A missing field has none. -/
def objectsIn (body : List (Text × Json)) (name : Text) :
    Except Fault (List (List (Text × Json))) :=
  match elements? (fieldOr body name (.arr [])) with
  | none => .error .wrongKind
  | some xs => .ok (xs.filterMap fun | .obj fs => some fs | _ => none)

/-- The names in a list whose objects carry them in a field. -/
def plainNames (body : List (Text × Json)) (listField nameField : Text) :
    Except Fault (List Model.Name) :=
  match objectsIn body listField with
  | .error e => .error e
  | .ok objects => sortedIds (objects.map fun fs => fieldOr fs nameField (.str ""))

/-- The name without the word in front of it, where there is one. -/
def withoutLead (name : Text) : Text :=
  if Text.beginsWith "models/" name then Text.replaceAll "models/" "" name else name

/-- The names of the models that can generate text. -/
def generatingNames : List (List (Text × Json)) → Except Fault (List Model.Name)
  | [] => .ok []
  | fs :: r =>
    match fieldOr fs "name" (.str "") with
    | .str name =>
      match contains? "generateContent" (fieldOr fs "supportedGenerationMethods" (.arr [])) with
      | none => .error .wrongKind
      | some able =>
        match generatingNames r with
        | .error e => .error e
        | .ok names => .ok (if able then .text (withoutLead name) :: names else names)
    | _ => .error .nameNotText

/-- The names in the answer to one of the four requests. -/
def namesIn (listing : ChannelType.Listing) (body : List (Text × Json)) :
    Except Fault (List Model.Name) :=
  match listing with
  | .openai | .anthropic => plainNames body "data" "id"
  | .ollama => plainNames body "models" "name"
  | .gemini =>
    match objectsIn body "models" with
    | .error e => .error e
    | .ok objects =>
      match generatingNames objects with
      | .error e => .error e
      | .ok names => sortedNames names

/-! ### The exchange -/

/-- Why an address cannot be used. -/
def faultOfAddress : Url.Fault → Fault
  | .invalid => .badAddress
  | .unencodable c => .badCharacter c

/-- The address to which a request goes. An address without a scheme or a host is one below no
other. -/
def Request.address (r : Request) : Except Fault Url :=
  match Url.ofText r.url with
  | .error e => .error (faultOfAddress e)
  | .ok url =>
    match ({} : Url).join url with
    | .error e => .error (faultOfAddress e)
    | .ok url => .ok url

/-- The first run of characters in a header that cannot be sent, which are those beyond ASCII, with
its place. -/
def badRun? (value : Text) : Option (Nat × List CodePoint) :=
  match value.toList.span (·.toNat < 0x80) with
  | (_, []) => none
  | (front, r) => some (front.length, r.takeWhile (0x80 ≤ ·.toNat))

/-- What keeps a request from being sent, or the address to which it goes. -/
def Request.ready (r : Request) : Except Fault Url :=
  match r.address with
  | .error e => .error e
  | .ok url =>
    match r.headers.findSome? fun h => badRun? h.2 with
    | some (place, run) => .error (.badHeader place run)
    | none => .ok url

/-- The object in an answer from an address. -/
def readObject (request : Request) (url : Url) : Answer → Except Fault (List (Text × Json))
  | .unreachable message => .error (.unreachable message)
  | .response ⟨status, body⟩ =>
    if !url.hasKind then .error (.noKind url)
    else if isSuccess status then
      match body.read with
      | .error fault => .error (.unreadable fault)
      | .ok (.obj fields) => .ok fields
      | .ok v => .error (.notObject request.url v.kindName)
    else .error (.badStatus status url.text)

/-- The object in the answer to a request. A request is on record even if it cannot be sent. -/
def fetchObject (link : Link Request) (request : Request) :
    Link Request × Except Fault (List (Text × Json)) :=
  match request.ready with
  | .error e => (link.record request, .error e)
  | .ok url =>
    let (link, answer) := link.send request
    (link, readObject request url answer)

/-- List models in one of the four ways. -/
def list (listing : ChannelType.Listing) (link : Link Request) (key? : Option Text)
    (base : Text) : Link Request × Except Fault (List Model.Name) :=
  match fetchObject link (listingRequest listing key? base) with
  | (link, .error e) => (link, .error e)
  | (link, .ok body) => (link, namesIn listing body)

/-- List models in the way of most providers. When the answer has a status of failure, the server
may be a local one, and is asked in its way; if that fails too, the first failure counts. -/
def listWithFallback (link : Link Request) (key? : Option Text) (base : Text) :
    Link Request × Except Fault (List Model.Name) :=
  match list .openai link key? base with
  | (link, .error (.badStatus status url)) =>
    match list .ollama link key? base with
    | (link, .ok names) => (link, .ok names)
    | (link, .error _) => (link, .error (.badStatus status url))
  | result => result

/-- The address of a provider without slashes at its end: the given one, or if none is given the one
that belongs to the type. -/
def address (profile : ChannelType.Profile) (baseUrl? : Option Text) : Text :=
  let given := baseUrl?.getD ""
  Text.dropTrailing '/' (if given.isEmpty then profile.defaultBaseUrl?.getD "" else given)

/-- The models that a provider serves. -/
def discover (link : Link Request) (channelType : Int) (key? baseUrl? : Option Text) :
    Link Request × Except Fault (List Model.Name) :=
  let profile := ChannelType.profile channelType
  let base := address profile baseUrl?
  if base.isEmpty then (link, .error (.noAddress profile.name))
  else
    match profile.listing with
    | .openai => listWithFallback link key? base
    | listing => list listing link key? base

/-! ### Small facts -/

theorem fetchObject_sent (link : Link Request) (request : Request) :
    (fetchObject link request).1.sent = link.sent ++ [request] := by
  unfold fetchObject
  cases request.ready with
  | error e => rfl
  | ok url => exact Link.sent_send link request

/-- Each way of listing makes one request, which is kept on record. -/
theorem list_sent (listing : ChannelType.Listing) (link : Link Request) (key? : Option Text)
    (base : Text) :
    (list listing link key? base).1.sent = link.sent ++ [listingRequest listing key? base] := by
  have h := fetchObject_sent link (listingRequest listing key? base)
  unfold list
  rcases hf : fetchObject link (listingRequest listing key? base) with ⟨l, r⟩
  rw [hf] at h
  cases r <;> simpa using h

end ChannelConsole.Provider
