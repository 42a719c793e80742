import ChannelConsole.Schema
import ChannelConsole.ChannelType.Table

/-!
# Messages about channels

The envelope in which every answer about channels comes, and the request to list the models of a
channel that is not stored.

## Main definitions

* `Channel.Envelope`: whether something succeeded, a message, and data.
* `Channel.FetchRequest`: what is needed to list models without a stored channel.

## Main statements

* `Channel.Envelope.check_toJson`: the value of an envelope stands for that envelope.
-/

namespace ChannelConsole.Channel

open Schema

/-- An answer: whether it succeeded, a message, and data, which is null when there is none. -/
structure Envelope where
  success : Bool
  message : Text := ""
  data : Json := .null

namespace Envelope

/-- An answer of success with data. -/
def succeed (data : Json) : Envelope := { success := true, data }

/-- An answer of failure with a message. -/
def failure (message : Text) : Envelope := { success := false, message }

/-- The answer that a value stands for. -/
def check (v : Json) : Checked Envelope :=
  match record .modelExpected v with
  | .error issues => .error issues
  | .ok fs =>
    let start : Checked _ := .ok Envelope.mk
    let c := start.and (required fs "success" flag)
    let c := Checked.and c (optional fs "message" "" text)
    Checked.and c (optional fs "data" .null .ok)

/-- The value of an answer. -/
def toJson (e : Envelope) : Json :=
  .obj [("success", .bool e.success), ("message", .str e.message), ("data", e.data)]

/-- The value of an answer stands for that answer. -/
theorem check_toJson (e : Envelope) : check e.toJson = .ok e := rfl

end Envelope

/-- What is needed to list the models of a channel that is not stored. -/
structure FetchRequest where
  channelType : Int := ChannelType.default
  baseUrl : Text := ""
  key : Text
deriving DecidableEq

namespace FetchRequest

/-- A text that is not empty. To see how long it is takes whole characters. -/
def filledText (v : Json) : Checked Text :=
  match text v with
  | .ok s =>
    if Text.isEncodable s then
      if s.isEmpty then refuse .textTooShort else .ok s
    else refuse .textNotWhole
  | .error issues => .error issues

/-- The request that a value stands for; the argument says what is complained about when the value
is no object. -/
def check (complaint : Kind) (v : Json) : Checked FetchRequest :=
  match record complaint v with
  | .error issues => .error issues
  | .ok fs =>
    let start : Checked _ := .ok FetchRequest.mk
    let c := start.and (optional fs "type" ChannelType.default integer)
    let c := Checked.and c (optional fs "base_url" "" text)
    Checked.and c (required fs "key" filledText)

/-- The value of a request. -/
def toJson (r : FetchRequest) : Json :=
  .obj [("type", .int r.channelType), ("base_url", .str r.baseUrl), ("key", .str r.key)]

end FetchRequest

end ChannelConsole.Channel
