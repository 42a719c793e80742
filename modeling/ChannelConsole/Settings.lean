import ChannelConsole.Schema
import ChannelConsole.Json.Reader
import ChannelConsole.Text.Lowercase

/-!
# Settings

The settings of the service come from the variables of its environment, whose names may be in upper
or lower case. Lists are given as JSON, whose writers need not be careful; everything else is
checked as leniently as fields of a record.

## Main definitions

* `Settings`: the settings.
* `Settings.ofEnvironment`: the settings in an environment.
* `Settings.mayStart`: whether the service starts at all.

## Main statements

* `Settings.ofEnvironment_nil`: an empty environment gives the defaults.
-/

namespace ChannelConsole

open Schema

/-- The settings of the service. -/
structure Settings where
  adminPassword? : Option Text := none
  databaseUrl? : Option Text := none
  channelGroups : List Text := ["default"]
  extraCatalogModels : List Text := []
  providerTimeout : Int := 30
  editorSessionTtlMinutes : Int := 60
  host : Text := "0.0.0.0"
  tcpPort : Int := 8000
  debug : Bool := false
  adminTokenExpiryHours : Int := 24
deriving DecidableEq

namespace Settings

/-- Why there are no settings. -/
inductive Fault where
  /-- a list is no JSON -/
  | unreadableList (name : Text)
  /-- a list is nested too deeply to be read -/
  | tooDeep (name : Text)
  | invalid (issues : List Issue)
deriving DecidableEq

/-- The settings that are lists. -/
def listNames : List Text := ["channel_groups", "extra_catalog_models"]

/-- How deeply a list may be nested. -/
def maxListDepth : Nat := 960

/-- The value of a variable, which is JSON for a list and a text otherwise. A list that is null is
not given. -/
def valueOf? (name text : Text) : Except Fault (Option Json) :=
  if name ∈ listNames then
    match Json.read (.careless maxListDepth) text with
    | .ok .null => .ok none
    | .ok v => .ok (some v)
    | .error { flaw := .tooDeep, .. } => .error (.tooDeep name)
    | .error _ => .error (.unreadableList name)
  else .ok (some (.str text))

/-- The variables with their names in lower case. A later variable takes the place of an earlier one
of the same name. -/
def byName : List (Text × Text) → List (Text × Text)
  | [] => []
  | (name, text) :: r =>
    let name := Text.lower name
    if (byName r).any (·.1 == name) then byName r else (name, text) :: byName r

/-- The values that are given to some of the named settings. -/
def collect (given : List (Text × Text)) :
    List Text → Except Fault (List (Text × Json))
  | [] => .ok []
  | name :: r =>
    match given.lookup name with
    | none => collect given r
    | some text =>
      match valueOf? name text with
      | .error f => .error f
      | .ok v? =>
        match collect given r with
        | .error f => .error f
        | .ok fields => .ok (v?.toList.map (fun v => (name, v)) ++ fields)

/-- The names of all settings. -/
def names : List Text :=
  ["admin_password", "database_url", "channel_groups", "extra_catalog_models", "upstream_timeout",
    "editor_session_ttl_minutes", "host", "port", "debug", "admin_token_expiry_hours"]

/-- The settings that values stand for. -/
def ofFields (fs : List (Text × Json)) : Checked Settings :=
  let start : Checked _ := .ok Settings.mk
  let c := start.and (optional fs "admin_password" none fun v => (text v).map some)
  let c := Checked.and c (optional fs "database_url" none fun v => (text v).map some)
  let c := Checked.and c (optional fs "channel_groups" ["default"] texts)
  let c := Checked.and c (optional fs "extra_catalog_models" [] texts)
  let c := Checked.and c (optional fs "upstream_timeout" 30 integer)
  let c := Checked.and c (optional fs "editor_session_ttl_minutes" 60 integer)
  let c := Checked.and c (optional fs "host" "0.0.0.0" text)
  let c := Checked.and c (optional fs "port" 8000 integer)
  let c := Checked.and c (optional fs "debug" false flag)
  Checked.and c (optional fs "admin_token_expiry_hours" 24 integer)

/-- The settings in an environment, given as names with texts. -/
def ofEnvironment (environment : List (Text × Text)) : Except Fault Settings :=
  match collect (byName environment) names with
  | .error f => .error f
  | .ok fields =>
    match ofFields fields with
    | .ok s => .ok s
    | .error issues => .error (.invalid issues)

/-- The value of settings. -/
def toJson (s : Settings) : Json :=
  .obj [("admin_password", .ofText? s.adminPassword?), ("database_url", .ofText? s.databaseUrl?),
    ("channel_groups", .strings s.channelGroups),
    ("extra_catalog_models", .strings s.extraCatalogModels),
    ("upstream_timeout", .int s.providerTimeout),
    ("editor_session_ttl_minutes", .int s.editorSessionTtlMinutes), ("host", .str s.host),
    ("port", .int s.tcpPort), ("debug", .bool s.debug),
    ("admin_token_expiry_hours", .int s.adminTokenExpiryHours)]

/-- Whether the service starts: it needs a password that is not empty. -/
def mayStart (adminPassword? : Option Text) : Bool :=
  match adminPassword? with
  | some password => !password.isEmpty
  | none => false

/-- An empty environment gives the defaults. -/
theorem ofEnvironment_nil : ofEnvironment [] = .ok {} := rfl

end Settings

end ChannelConsole
