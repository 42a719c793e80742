import ChannelConsole.Editor.Operation
import ChannelConsole.Network.Message
import ChannelConsole.Server.Route
import ChannelConsole.Text.Encoding

/-!
# Reading requests

What the bodies and the numbers in the paths of requests stand for. What is wrong with a body is
reported under `body`, and what is wrong with a number in a path under `path`.

## Main definitions

* `Server.readBody`: the value of a body.
* `Server.checkBody`, `Server.channelId`: a checked body, and a checked number in a path.
* `Server.keyEvent`, `Server.modelOp`, `Server.selectorOp`: what an action on an editor asks for.

## Main statements

* `Server.checkBody_none`: a request without a body lacks one.
-/

namespace ChannelConsole.Server

open Schema Editor

/-! ### Bodies -/

/-- Why a body cannot be read. -/
inductive BodyFault where
  /-- it is no JSON -/
  | notJson
  /-- it is JSON, perhaps, but reading it was given up -/
  | givenUp
deriving DecidableEq

/-- How deeply the body of a request may be nested. -/
def maxBodyDepth : Nat := 900

/-- The value of a body that came as text, in whatever encoding. -/
def readText (s : Text) : Except BodyFault Json :=
  match Text.decode? (s.toList.flatMap Text.bytesOf) with
  | none => .error .givenUp
  | some text =>
    match Json.read (.careless maxBodyDepth) text with
    | .ok v => .ok v
    | .error fault => .error (if fault.flaw.isSyntactic then .notJson else .givenUp)

/-- The value of a body; there may be none. -/
def readBody : Network.Body → Except BodyFault (Option Json)
  | .empty => .ok none
  | .text s => (readText s).map some
  | .json v => if v.depth ≤ maxBodyDepth then .ok (some v) else .error .givenUp

/-- The value that an issue with a body is about: what stands at its place, or the object in which
something is missing there. -/
def valueAt (v : Json) : List Step → Json
  | [] => v
  | .field name :: r =>
    match v.field? name with
    | some w => valueAt w r
    | none => v
  | .index i :: r =>
    match v with
    | .arr xs =>
      match xs[i]? with
      | some w => valueAt w r
      | none => v
    | _ => v

/-- Whether issues with a body can be reported. A report repeats the values it is about, which takes
finite numbers and whole characters. -/
def canReport (v : Json) (issues : List Issue) : Bool :=
  issues.all fun i =>
    let about := valueAt v i.path.tail
    about.isFinite && about.isEncodable

/-! ### Parts of requests -/

/-- The checked body of a request; there may be none. -/
def checkBody {α : Type} (check : Json → Checked α) (body? : Option Json) : Checked α :=
  Checked.under (.field "body") <|
    match body? with
    | none => refuse .missing
    | some v => check v

/-- The number of a channel in a path. -/
def channelId (text : Text) : Checked Int :=
  ((readInteger text).under (.field "channel_id")).under (.field "path")

/-- One of a few words, each of which stands for something. -/
def choice {α : Type} (words : List (Text × α)) (v : Json) : Checked α :=
  match v with
  | .str s =>
    match words.lookup s with
    | some a => .ok a
    | none => refuseText .choiceUnknown s
  | _ => refuse .choiceUnknown

/-- The password in the body of a login. -/
def passwordIn (v : Json) : Checked Text :=
  match record .recordExpected v with
  | .ok fs => required fs "password" text
  | .error issues => .error issues

/-- The number of the channel to be edited, if it is a stored one. -/
def editedChannel (v : Json) : Checked (Option Int) :=
  match record .recordExpected v with
  | .ok fs => optional fs "channel_id" none integer?
  | .error issues => .error issues

/-! ### Actions on an editor -/

/-- The actions on the keys, which may need a text and an index. -/
def keyActions : List (Text × (Text → Int → Credential.Event)) :=
  [("input", fun value _ => .input value), ("paste", fun value _ => .paste value),
    ("clear", fun _ _ => .clear), ("toggle_visibility", fun _ _ => .toggleVisibility),
    ("toggle_multi_view", fun _ _ => .toggleMultiView),
    ("add_entry", fun value _ => .addEntry value),
    ("remove_entry", fun _ index => .removeEntry index),
    ("update_entry", fun value index => .updateEntry index value),
    ("paste_entry", fun value index => .pasteEntry index value),
    ("key", fun value index => .press index (.ofName value))]

/-- The event that an action on the keys stands for. -/
def keyEvent (v : Json) : Checked Credential.Event :=
  match record .recordExpected v with
  | .error issues => .error issues
  | .ok fs =>
    let c := required fs "action" (choice keyActions)
    let c := Checked.and c (optional fs "value" "" text)
    Checked.and c (optional fs "index" 0 integer)

/-- The actions on the models, which may need a text and a list of names. -/
def modelActions : List (Text × (Text → List Text → Op)) :=
  [("add_custom", fun value _ => .addCustom value),
    ("set", fun _ names => .setField "models" (.strings names)), ("clear", fun _ _ => .clearModels),
    ("fill_basic", fun _ _ => .fillBasic), ("fill_all", fun _ _ => .fillAll),
    ("fetch", fun _ _ => .fetchModels)]

/-- The operation that an action on the models stands for. -/
def modelOp (v : Json) : Checked Op :=
  match record .recordExpected v with
  | .error issues => .error issues
  | .ok fs =>
    let c := required fs "action" (choice modelActions)
    let c := Checked.and c (optional fs "value" "" text)
    Checked.and c (optional fs "names" [] texts)

/-- The actions on the selector, which may need a text. -/
def selectorActions : List (Text × (Text → Op)) :=
  [("open", fun _ => .openSelector), ("search", fun value => .pick (.search value)),
    ("toggle", fun value => .pick (.toggle value)), ("select_all", fun _ => .pick .selectAll),
    ("invert", fun _ => .pick .invert), ("apply", fun _ => .applySelector),
    ("cancel", fun _ => .cancelSelector)]

/-- The operation that an action on the selector stands for. -/
def selectorOp (v : Json) : Checked Op :=
  match record .recordExpected v with
  | .error issues => .error issues
  | .ok fs =>
    let c := required fs "action" (choice selectorActions)
    Checked.and c (optional fs "value" "" text)

/-- The value that a field is to be set to. -/
def fieldValue (v : Json) : Checked Json :=
  match record .recordExpected v with
  | .ok fs => optional fs "value" .null .ok
  | .error issues => .error issues

/-- The operation that sets a field. The type is chosen, so that the outcome for the keys is known;
a value that is no type is refused. -/
def fieldOp (name : Text) (v : Json) : Except Backend.Fault Op :=
  if name = "type" then (Form.typeCode v).map .changeType else .ok (.setField name v)

/-- A request without a body lacks one. -/
theorem checkBody_none {α : Type} (check : Json → Checked α) :
    checkBody check none = .error [{ path := [.field "body"], kind := .missing }] := rfl

end ChannelConsole.Server
