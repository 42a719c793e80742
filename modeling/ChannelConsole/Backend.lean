import ChannelConsole.Channel.Envelope
import ChannelConsole.Channel.Payload
import ChannelConsole.Model.Name

/-!
# What an editor asks for

An editor reads and saves channels, lists groups and models, and asks providers for their models.
It does so by seven calls, which a store of channels or a remote server answers. This module has the
calls and their replies, so that everything that makes or answers calls speaks of the same things.

## Main definitions

* `Backend.Call`: the seven calls.
* `Backend.Reply`: what comes back.
* `Backend.Refusal`: a call that was understood and not granted.
-/

namespace ChannelConsole.Backend

open Channel

/-- The calls. A channel without a number can be asked for, though no store has one. -/
inductive Call where
  | getChannel (id? : Option Int)
  | createChannel (payload : Payload)
  | updateChannel (payload : Payload)
  | listCatalog
  | listGroups
  | fetchModels (channelType : Int) (baseUrl key : Text)
  | fetchModelsById (id : Int)
deriving DecidableEq

/-- The name of a call in answers. -/
def Call.name : Call → Text
  | .getChannel _ => "get_channel"
  | .createChannel _ => "create_channel"
  | .updateChannel _ => "update_channel"
  | .listCatalog => "list_global_catalog"
  | .listGroups => "list_groups"
  | .fetchModels .. => "fetch_upstream_models"
  | .fetchModelsById _ => "fetch_upstream_models_by_channel_id"

/-- A call that was understood and not granted. The message is a text unless a remote server put
something else in its place. -/
structure Refusal where
  message : Json
  status? : Option Nat := none

/-- A refusal with a text. -/
def Refusal.ofText (message : Text) : Refusal := { message := .str message }

/-- The words of a refusal. -/
def Refusal.words (r : Refusal) : Text :=
  match r.message with
  | .str s => s
  | v => v.text .compact

/-- Failures that nobody expects and that end whatever was going on. -/
inductive Fault where
  /-- a value of the wrong kind was used -/
  | wrongKind
  /-- a value of the named kind was to be turned into a number -/
  | noNumber (kind : Text)
  /-- something was asked of a value that it does not have -/
  | noSuchPart
  /-- an address is none -/
  | badAddress
  /-- a text has characters that cannot be sent or stored -/
  | unencodable
  /-- a number does not fit where it should be stored -/
  | overflow
  /-- a text is no JSON -/
  | notJson
  /-- a value is nested too deeply -/
  | tooDeep
  /-- a value is not what the subject looks like -/
  | invalid (subject : Schema.Subject) (issues : List Schema.Issue)
  /-- a value cannot be used, for the reason given -/
  | unusable (reason : Text)
  /-- something that always holds does not -/
  | broken (what : Text)
deriving DecidableEq

/-- What a fault says to users, for faults that lie with a value they gave. -/
def Fault.words? : Fault → Option Text
  | .noNumber kind =>
    some ("int() argument must be a string, a bytes-like object or a real number, not '" ++
      kind ++ "'")
  | .invalid subject issues => some (subject.summary issues)
  | .unusable reason => some reason
  | _ => none

/-- What comes back for a call: an envelope for the first three, texts for a listing of the catalog
or of groups, and names of models for the last two. -/
inductive Reply where
  | envelope (e : Envelope)
  | names (xs : List Text)
  | models (xs : List Model.Name)
  | refused (r : Refusal)
  | fault (f : Fault)

/-- Whether a reply says that what was asked for was done. -/
def Reply.succeeds : Reply → Bool
  | .envelope e => e.success
  | _ => false

end ChannelConsole.Backend
