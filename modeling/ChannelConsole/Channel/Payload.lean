import ChannelConsole.Schema
import ChannelConsole.Names
import ChannelConsole.JsonField
import ChannelConsole.ChannelType.Table

/-!
# Channel records

A channel as it is stored and sent: lists are texts with commas, and the flag for automatic banning
is a number. Records come from outside as JSON objects in which texts, the priority and the weight
may be null.

## Main definitions

* `Channel.Payload`: a record.
* `Channel.Payload.check`: the record that a value stands for.
* `Channel.Payload.toJson`: the value of a record.

## Main statements

* `Channel.Payload.check_toJson`: the value of a record stands for that record.
-/

namespace ChannelConsole.Channel

open Schema

/-- A channel record. -/
structure Payload where
  id? : Option Int := none
  name : Text := ""
  channelType : Int := ChannelType.default
  key : Text := ""
  organization : Text := ""
  baseUrl : Text := ""
  other : Text := ""
  models : Text := ""
  group : Text := "default"
  modelMapping : Text := ""
  statusCodeMapping : Text := ""
  setting : Text := ""
  paramOverride : Text := ""
  priority : Int := 0
  weight : Int := 0
  tag : Text := ""
  modelPrefix : Text := ""
  testModel : Text := ""
  autoBan : Int := 1
  status : Int := 1
deriving DecidableEq

namespace Payload

/-- The text of a JSON field. -/
def jsonText (p : Payload) : JsonField → Text
  | .modelMapping => p.modelMapping
  | .setting => p.setting
  | .paramOverride => p.paramOverride
  | .statusCodeMapping => p.statusCodeMapping

/-- The record that an object stands for. Fields that are not known are passed over. -/
def ofFields (fs : List (Text × Json)) : Checked Payload :=
  let start : Checked _ := .ok Payload.mk
  let c := start.and (optional fs "id" none integer?)
  let c := Checked.and c (optional fs "name" "" nullableText)
  let c := Checked.and c (optional fs "type" ChannelType.default integer)
  let c := Checked.and c (optional fs "key" "" nullableText)
  let c := Checked.and c (optional fs "openai_organization" "" nullableText)
  let c := Checked.and c (optional fs "base_url" "" nullableText)
  let c := Checked.and c (optional fs "other" "" nullableText)
  let c := Checked.and c (optional fs "models" "" nullableText)
  let c := Checked.and c (optional fs "group" "default" nullableText)
  let c := Checked.and c (optional fs "model_mapping" "" nullableText)
  let c := Checked.and c (optional fs "status_code_mapping" "" nullableText)
  let c := Checked.and c (optional fs "setting" "" nullableText)
  let c := Checked.and c (optional fs "param_override" "" nullableText)
  let c := Checked.and c (optional fs "priority" 0 nullableInteger)
  let c := Checked.and c (optional fs "weight" 0 nullableInteger)
  let c := Checked.and c (optional fs "tag" "" nullableText)
  let c := Checked.and c (optional fs "model_prefix" "" nullableText)
  let c := Checked.and c (optional fs "test_model" "" nullableText)
  let c := Checked.and c (optional fs "auto_ban" 1 integer)
  Checked.and c (optional fs "status" 1 integer)

/-- The record that a value stands for. -/
def check (v : Json) : Checked Payload :=
  match record .recordExpected v with
  | .ok fields => ofFields fields
  | .error issues => .error issues

/-- The fields of a record apart from its number. -/
def bodyFields (p : Payload) : List (Text × Json) :=
  [("name", .str p.name), ("type", .int p.channelType), ("key", .str p.key),
    ("openai_organization", .str p.organization), ("base_url", .str p.baseUrl),
    ("other", .str p.other), ("models", .str p.models), ("group", .str p.group),
    ("model_mapping", .str p.modelMapping), ("status_code_mapping", .str p.statusCodeMapping),
    ("setting", .str p.setting), ("param_override", .str p.paramOverride),
    ("priority", .int p.priority), ("weight", .int p.weight), ("tag", .str p.tag),
    ("model_prefix", .str p.modelPrefix), ("test_model", .str p.testModel),
    ("auto_ban", .int p.autoBan), ("status", .int p.status)]

/-- The value of a record. -/
def toJson (p : Payload) : Json := .obj (("id", .ofInt? p.id?) :: p.bodyFields)

/-- The value of a record without its number. -/
def toJsonWithoutId (p : Payload) : Json := .obj p.bodyFields

/-- The value of a record stands for that record. -/
theorem check_toJson (p : Payload) : check p.toJson = .ok p := by
  obtain ⟨id?, _⟩ := p
  cases id? <;> rfl

end Payload

end ChannelConsole.Channel
