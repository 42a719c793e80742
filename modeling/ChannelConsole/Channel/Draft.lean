import ChannelConsole.Channel.Payload

/-!
# Channel drafts

The plain fields of a channel while it is edited; its keys and models have editors of their own.
The additional field and the JSON fields may hold values in place of texts for a while.

## Main definitions

* `Channel.Draft`: the fields.
* `Channel.Draft.check`: the draft that a value stands for.
* `Channel.Draft.Field`: the fields that can be set one by one, with `Channel.Draft.assign`.
* `Channel.Draft.assignNamed`: the same with names, of which some are not those of fields.
* `Channel.Draft.isShallow`: whether no field is nested too deeply to be told to users.

## Main statements

* `Channel.Draft.Field.ofName?_label`: a field is found by its name.
-/

namespace ChannelConsole.Channel

open Schema

/-- The plain fields of a channel while it is edited. -/
structure Draft where
  name : Text := ""
  channelType : Int := ChannelType.default
  organization : Text := ""
  baseUrl : Text := ""
  other : Json := .str ""
  modelMapping : Json := .str ""
  statusCodeMapping : Json := .str ""
  setting : Json := .str ""
  paramOverride : Json := .str ""
  groups : List Text := ["default"]
  priority : Int := 0
  weight : Int := 0
  tag : Text := ""
  modelPrefix : Text := ""
  testModel : Text := ""
  autoBan : Bool := true

/-- A text, an object or an array. Anything else is refused once for each of them. -/
def textOrTree : Json → Checked Json
  | .str s => .ok (.str s)
  | .obj fields => .ok (.obj fields)
  | .arr items => .ok (.arr items)
  | _ => .error [{ path := [.field "str"], kind := .textExpected },
      { path := [.field "dict[str,any]"], kind := .objectExpected },
      { path := [.field "list[any]"], kind := .listExpected }]

namespace Draft

/-- The value of a JSON field. -/
def jsonValue (d : Draft) : JsonField → Json
  | .modelMapping => d.modelMapping
  | .setting => d.setting
  | .paramOverride => d.paramOverride
  | .statusCodeMapping => d.statusCodeMapping

/-- The draft that an object stands for. Fields that are not known are passed over. -/
def ofFields (fs : List (Text × Json)) : Checked Draft :=
  let start : Checked _ := .ok Draft.mk
  let c := start.and (optional fs "name" "" text)
  let c := Checked.and c (optional fs "type" ChannelType.default integer)
  let c := Checked.and c (optional fs "openai_organization" "" text)
  let c := Checked.and c (optional fs "base_url" "" text)
  let c := Checked.and c (optional fs "other" (.str "") textOrTree)
  let c := Checked.and c (optional fs "model_mapping" (.str "") textOrTree)
  let c := Checked.and c (optional fs "status_code_mapping" (.str "") textOrTree)
  let c := Checked.and c (optional fs "setting" (.str "") textOrTree)
  let c := Checked.and c (optional fs "param_override" (.str "") textOrTree)
  let c := Checked.and c (optional fs "groups" ["default"] texts)
  let c := Checked.and c (optional fs "priority" 0 integer)
  let c := Checked.and c (optional fs "weight" 0 integer)
  let c := Checked.and c (optional fs "tag" "" text)
  let c := Checked.and c (optional fs "model_prefix" "" text)
  let c := Checked.and c (optional fs "test_model" "" text)
  Checked.and c (optional fs "auto_ban" true flag)

/-- The draft that a value stands for. -/
def check (v : Json) : Checked Draft :=
  match record .modelExpected v with
  | .ok fields => ofFields fields
  | .error issues => .error issues

/-- The value of a draft. -/
def toJson (d : Draft) : Json :=
  .obj [("name", .str d.name), ("type", .int d.channelType),
    ("openai_organization", .str d.organization), ("base_url", .str d.baseUrl),
    ("other", d.other), ("model_mapping", d.modelMapping),
    ("status_code_mapping", d.statusCodeMapping), ("setting", d.setting),
    ("param_override", d.paramOverride), ("groups", .strings d.groups),
    ("priority", .int d.priority), ("weight", .int d.weight), ("tag", .str d.tag),
    ("model_prefix", .str d.modelPrefix), ("test_model", .str d.testModel),
    ("auto_ban", .bool d.autoBan)]

/-- How many values there may be on the longest way into a field that is told to users. -/
def maxHeight : Nat := 254

/-- Whether no field is nested too deeply to be told to users. -/
def isShallow (d : Draft) : Bool :=
  (d.other :: JsonField.all.map d.jsonValue).all (·.height ≤ maxHeight)

/-! ### Setting one field -/

/-- The fields of a draft. -/
inductive Field where
  | name
  | channelType
  | organization
  | baseUrl
  | other
  | json (f : JsonField)
  | groups
  | priority
  | weight
  | tag
  | modelPrefix
  | testModel
  | autoBan
deriving DecidableEq

/-- The name of a field in records. -/
def Field.label : Field → Text
  | .name => "name"
  | .channelType => "type"
  | .organization => "openai_organization"
  | .baseUrl => "base_url"
  | .other => "other"
  | .json f => f.name
  | .groups => "groups"
  | .priority => "priority"
  | .weight => "weight"
  | .tag => "tag"
  | .modelPrefix => "model_prefix"
  | .testModel => "test_model"
  | .autoBan => "auto_ban"

/-- All fields. -/
def Field.all : List Field :=
  [.name, .channelType, .organization, .baseUrl, .other] ++ JsonField.all.map .json ++
    [.groups, .priority, .weight, .tag, .modelPrefix, .testModel, .autoBan]

/-- The field with the given name. -/
def Field.ofName? (name : Text) : Option Field := Field.all.find? (·.label == name)

/-- The draft with another value in a JSON field. -/
def setJson (d : Draft) (f : JsonField) (v : Json) : Draft :=
  match f with
  | .modelMapping => { d with modelMapping := v }
  | .setting => { d with setting := v }
  | .paramOverride => { d with paramOverride := v }
  | .statusCodeMapping => { d with statusCodeMapping := v }

/-- The draft with what a value stands for in a field; the value may be refused, and then there is
no new draft. -/
def assign (d : Draft) (f : Field) (v : Json) : Checked Draft :=
  Checked.under (.field f.label) <|
    match f with
    | .name => (text v).map fun a => { d with name := a }
    | .channelType => (integer v).map fun a => { d with channelType := a }
    | .organization => (text v).map fun a => { d with organization := a }
    | .baseUrl => (text v).map fun a => { d with baseUrl := a }
    | .other => (textOrTree v).map fun a => { d with other := a }
    | .json f => (textOrTree v).map (d.setJson f)
    | .groups => (texts v).map fun a => { d with groups := a }
    | .priority => (integer v).map fun a => { d with priority := a }
    | .weight => (integer v).map fun a => { d with weight := a }
    | .tag => (text v).map fun a => { d with tag := a }
    | .modelPrefix => (text v).map fun a => { d with modelPrefix := a }
    | .testModel => (text v).map fun a => { d with testModel := a }
    | .autoBan => (flag v).map fun a => { d with autoBan := a }

/-- Why something about a draft cannot be set by its name. -/
inductive AssignFault where
  | invalid (issues : List Issue)
  /-- it is worked out from the draft -/
  | workedOut
deriving DecidableEq

/-- The names of what is worked out from a draft and cannot be set. -/
def workedOutNames : List Text := ["model_extra", "model_fields_set"]

/-- The draft with what a value stands for in the field with a name. A name that begins with an
underscore is that of something a draft keeps for itself, and changes none of its fields. -/
def assignNamed (d : Draft) (name : Text) (v : Json) : Except AssignFault Draft :=
  if name.toList.head? = some (CodePoint.char '_') then .ok d
  else if name ∈ workedOutNames then .error .workedOut
  else
    match Field.ofName? name with
    | some f => (d.assign f v).mapError .invalid
    | none => .error (.invalid [{ path := [.field name], kind := .noSuchField }])

/-- A field is found by its name. -/
theorem Field.ofName?_label (f : Field) : Field.ofName? f.label = some f := by
  cases f with
  | json f => cases f <;> decide
  | _ => decide

end Draft

end ChannelConsole.Channel
