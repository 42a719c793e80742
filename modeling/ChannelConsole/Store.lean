import ChannelConsole.Backend
import ChannelConsole.ChannelType.Catalog
import ChannelConsole.Credential.Keys
import ChannelConsole.Provider.Discovery

/-!
# The store of channels

The channels that are configured, by number. Numbers are given out in ascending order and stay with
their channels. What is saved must name a model and have JSON in its JSON fields; a new channel also
needs a name and a key. The columns for whole numbers have 64 bits.

## Main definitions

* `Store`: the stored channels and what they are offered.
* `Store.find?`: the channel with a number.
* `Store.create`, `Store.update`: saving a channel.
* `Store.answer`: the answer to each call of an editor.

## Main statements

* `Store.find?_put_self`, `Store.find?_put_of_ne`: replacing a channel replaces that one alone.
* `Store.create_refused`, `Store.update_refused`: a record that is refused changes nothing.
-/

namespace ChannelConsole

open Channel Backend

/-- The stored channels in the order of their numbers, and what is offered with them: groups, and
models beyond the common ones. -/
structure Store where
  rows : List (Nat × Payload) := []
  groups : List Text := ["default"]
  extraModels : List Text := []

namespace Store

/-- Whether a number fits into a column. -/
def fitsColumn (n : Int) : Bool := -(Nat.pow 2 63) ≤ n && n < Nat.pow 2 63

/-- Whether the numbers of a record fit into their columns. -/
def fitsRow (p : Payload) : Bool :=
  [p.channelType, p.priority, p.weight, p.autoBan, p.status].all fitsColumn

/-- Whether the texts of a record can be stored, which takes whole characters. -/
def isStorable (p : Payload) : Bool :=
  [p.name, p.key, p.organization, p.baseUrl, p.other, p.models, p.group, p.modelMapping,
    p.statusCodeMapping, p.setting, p.paramOverride, p.tag, p.modelPrefix, p.testModel].all
      Text.isEncodable

/-- What keeps a record from being stored, if anything does. -/
def faultOf? (p : Payload) : Option Fault :=
  if !isStorable p then some .unencodable else if !fitsRow p then some .overflow else none

/-- The channel with a number. -/
def find? (s : Store) (id : Int) : Option Payload :=
  (s.rows.find? fun row => (row.1 : Int) == id).map Prod.snd

/-- The number of the next channel. -/
def nextId (s : Store) : Nat := s.rows.length + 1

/-- The store with another record in the place of one. -/
def put (s : Store) (id : Int) (p : Payload) : Store :=
  { s with rows := s.rows.map fun row => if (row.1 : Int) = id then (row.1, p) else row }

/-! ### Saving -/

/-- What is said when there is no channel with a number. -/
def notFound (id : Text) : Text := "Channel with id " ++ id ++ " not found"

/-- What is wrong with a record: it names no model, or one of its JSON fields is no JSON. -/
def complaint? (p : Payload) : Option Text :=
  if (Names.split p.models).isEmpty then some "At least one model is required"
  else (JsonField.firstInvalid? fun f => .str (p.jsonText f)).map JsonField.complaint

/-- Store a new channel. -/
def create (s : Store) (p : Payload) : Store × Except Fault Envelope :=
  if p.name.isEmpty || p.key.isEmpty then
    (s, .ok (.failure "Channel name and key are required"))
  else
    match complaint? p with
    | some message => (s, .ok (.failure message))
    | none =>
      match faultOf? p with
      | some f => (s, .error f)
      | none =>
        let row := { p with id? := some (s.nextId : Int) }
        ({ s with rows := s.rows ++ [(s.nextId, row)] }, .ok (.succeed row.toJson))

/-- What an update makes of a stored record: an empty key leaves the stored key, and the status is
not changed. -/
def revise (stored p : Payload) : Payload :=
  { p with
    id? := stored.id?
    key := if p.key.isEmpty then stored.key else p.key
    status := stored.status }

/-- Change a stored channel. -/
def update (s : Store) (p : Payload) : Store × Except Fault Envelope :=
  match p.id? with
  | none => (s, .ok (.failure "Channel id is required for update"))
  | some id =>
    match complaint? p with
    | some message => (s, .ok (.failure message))
    | none =>
      if fitsColumn id then
        match s.find? id with
        | none => (s, .ok (.failure (notFound (Text.ofInt id))))
        | some stored =>
          let row := revise stored p
          match faultOf? row with
          | some f => (s, .error f)
          | none => (s.put id row, .ok (.succeed row.toJson))
      else (s, .error .overflow)

/-! ### Reading -/

/-- The channel with a number. -/
def get (s : Store) (id : Int) : Except Fault Envelope :=
  if fitsColumn id then
    match s.find? id with
    | none => .ok (.failure (notFound (Text.ofInt id)))
    | some p => .ok (.succeed p.toJson)
  else .error .overflow

/-- The groups on offer: those that are configured, then those that channels use. -/
def listGroups (s : Store) : List Text :=
  Names.unique (s.groups ++ s.rows.flatMap fun row => Names.split row.2.group)

/-- The models on offer. -/
def listCatalog (s : Store) : List Text := ChannelType.catalog s.extraModels

/-! ### Asking providers -/

/-- Why models could not be listed. -/
inductive FetchFault where
  | refused (message : Text) (status? : Option Nat)
  | fault (f : Fault)
deriving DecidableEq

/-- What is reported about a failure to list models. -/
def reportOf (f : Provider.Fault) : FetchFault :=
  match f.message? with
  | some message => .refused ("Failed to fetch the model list: " ++ message) none
  | none =>
    match f with
    | .nameNotText => .fault .noSuchPart
    | .badAddress => .fault .badAddress
    | .unreadable _ => .fault .tooDeep
    | _ => .fault .wrongKind

/-- The models a provider serves. -/
def fetchModels (link : Network.Link Provider.Request) (channelType : Int) (baseUrl key : Text) :
    Network.Link Provider.Request × Except FetchFault (List Model.Name) :=
  match Provider.discover link channelType (some key) (some baseUrl) with
  | (link, .ok names) => (link, .ok names)
  | (link, .error f) => (link, .error (reportOf f))

/-- The models the provider of a stored channel serves, asked with the first of its keys. -/
def fetchModelsById (s : Store) (link : Network.Link Provider.Request) (id : Int) :
    Network.Link Provider.Request × Except FetchFault (List Model.Name) :=
  if fitsColumn id then
    match s.find? id with
    | none => (link, .error (.refused (notFound (Text.ofInt id)) (some 404)))
    | some p => fetchModels link p.channelType p.baseUrl (Credential.first p.key)
  else (link, .error (.fault .overflow))

/-! ### Answering an editor -/

/-- The reply that an envelope or a fault makes. -/
def replyOfEnvelope : Except Fault Envelope → Reply
  | .ok e => .envelope e
  | .error f => .fault f

/-- The reply that a listing of models makes. -/
def replyOfNames : Except FetchFault (List Model.Name) → Reply
  | .ok xs => .models xs
  | .error (.refused message status?) => .refused { message := .str message, status? }
  | .error (.fault f) => .fault f

/-- The answer to a call, with the store and the link after it. -/
def answer (s : Store) (link : Network.Link Provider.Request) :
    Call → Store × Network.Link Provider.Request × Reply
  | .getChannel none => (s, link, .envelope (.failure (notFound "None")))
  | .getChannel (some id) => (s, link, replyOfEnvelope (s.get id))
  | .createChannel p =>
    let (s, r) := s.create p
    (s, link, replyOfEnvelope r)
  | .updateChannel p =>
    let (s, r) := s.update p
    (s, link, replyOfEnvelope r)
  | .listCatalog => (s, link, .names s.listCatalog)
  | .listGroups => (s, link, .names s.listGroups)
  | .fetchModels channelType baseUrl key =>
    let (link, r) := fetchModels link channelType baseUrl key
    (s, link, replyOfNames r)
  | .fetchModelsById id =>
    let (link, r) := s.fetchModelsById link id
    (s, link, replyOfNames r)

/-! ### Small facts -/

/-- A record that is put in the place of one is found there. -/
theorem find?_put_self {s : Store} {id : Int} {p q : Payload} (h : s.find? id = some q) :
    (s.put id p).find? id = some p := by
  obtain ⟨row, hrow, -⟩ := Option.map_eq_some_iff.1 h
  unfold find? put
  rw [List.find?_map]
  have hk : (fun row : Nat × Payload => (row.1 : Int) == id) ∘
      (fun row => if (row.1 : Int) = id then (row.1, p) else row) =
      fun row => (row.1 : Int) == id := by
    funext row; by_cases h : (row.1 : Int) = id <;> simp [h]
  have hid : (row.1 : Int) = id := by simpa using List.find?_some hrow
  rw [hk, hrow, Option.map_some, Option.map_some, if_pos hid]

/-- Other records stay as they were. -/
theorem find?_put_of_ne {s : Store} {id other : Int} {p : Payload} (h : other ≠ id) :
    (s.put id p).find? other = s.find? other := by
  unfold find? put
  rw [List.find?_map]
  have hk : (fun row : Nat × Payload => (row.1 : Int) == other) ∘
      (fun row => if (row.1 : Int) = id then (row.1, p) else row) =
      fun row => (row.1 : Int) == other := by
    funext row; by_cases h : (row.1 : Int) = id <;> simp [h]
  rw [hk]
  cases hf : s.rows.find? fun row => (row.1 : Int) == other with
  | none => rfl
  | some row =>
    have hid : (row.1 : Int) = other := by simpa using List.find?_some hf
    simp [hid, h]

/-- A new channel that is refused changes nothing. -/
theorem create_refused {s : Store} {p : Payload} {e : Envelope}
    (h : (s.create p).2 = .ok e) (he : e.success = false) : (s.create p).1 = s := by
  unfold create at *
  grind [Envelope.succeed, Envelope.failure]

/-- A change that is refused changes nothing. -/
theorem update_refused {s : Store} {p : Payload} {e : Envelope}
    (h : (s.update p).2 = .ok e) (he : e.success = false) : (s.update p).1 = s := by
  unfold update at *
  grind [Envelope.succeed, Envelope.failure]

end Store

end ChannelConsole
