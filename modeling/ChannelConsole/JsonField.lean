import ChannelConsole.Json.Reader
import ChannelConsole.Json.Printer

/-!
# JSON fields of a channel

Four fields of a channel hold JSON as text, and the empty text means that a field is not set. They
are laid out anew when a channel is opened, checked before it is saved, and turned back into text
when an editor holds them as values.

## Main definitions

* `JsonField`: the four fields, in the order in which they are checked.
* `JsonField.isValid`: whether a text may stand in such a field.
* `JsonField.load`: a stored text made ready for editing.
* `JsonField.store`: the text of a value.
* `JsonField.firstInvalid?`: the first field that may not be saved as it is.

## Main statements

* `JsonField.load_empty`, `JsonField.load_invalid`: an unset field stays unset, and a text that is
  no JSON is kept as it is.
* `JsonField.store_str`: a text is stored as it is.
-/

namespace ChannelConsole

/-- The fields of a channel that hold JSON, in the order in which they are checked. -/
inductive JsonField where
  | modelMapping
  | setting
  | paramOverride
  | statusCodeMapping
deriving DecidableEq

namespace JsonField

/-- All fields, in the order in which they are checked. -/
def all : List JsonField := [.modelMapping, .setting, .paramOverride, .statusCodeMapping]

/-- The name of a field in records. -/
def name : JsonField → Text
  | .modelMapping => "model_mapping"
  | .setting => "setting"
  | .paramOverride => "param_override"
  | .statusCodeMapping => "status_code_mapping"

/-- What is said about a field that is no JSON. -/
def complaint : JsonField → Text
  | .modelMapping => "Model mapping must be valid JSON"
  | .setting => "Channel extra settings must be valid JSON"
  | .paramOverride => "Parameter override must be valid JSON"
  | .statusCodeMapping => "Status code mapping must be valid JSON"

/-- Why a text cannot be laid out anew. -/
inductive Fault where
  /-- it is no JSON -/
  | unreadable
  /-- its value cannot be written, since it is nested too deeply -/
  | unwritable
deriving DecidableEq

/-- How the text of a field is read: strictly, with integers of machine size. -/
def reading : Json.Reading := { maxDepth := 1024, keepsIntegers := false }

/-- The value of a text in a JSON field. There is none for a text with halves of characters. -/
def parse? (value : Text) : Option Json :=
  if Text.isEncodable value then Json.read? reading value else none

/-- Whether a text may stand in a JSON field: it is empty or JSON. -/
def isValid (value : Text) : Bool := value.isEmpty || (parse? value).isSome

/-- A JSON text in indented form. -/
def pretty (value : Text) : Except Fault Text :=
  match parse? value with
  | none => .error .unreadable
  | some v =>
    match v.encode? .indented with
    | none => .error .unwritable
    | some s => .ok s

/-! ### Editing -/

/-- A stored text made ready for editing. -/
structure Loaded where
  value : Text
  /-- what is wrong with the stored text -/
  diagnostic? : Option Text := none
deriving DecidableEq

/-- What is said about a stored field that is no JSON. -/
def diagnosis (field : Text) : Text := "Stored " ++ field ++ " is not valid JSON: "

/-- Make a stored text ready for editing. JSON is laid out anew; a text that is no JSON is kept as
it is, with a diagnostic. The only failure is a value that can be read but not written. -/
def load (field value : Text) : Except Fault Loaded :=
  if value.isEmpty then .ok { value := "" }
  else
    match pretty value with
    | .ok s => .ok { value := s }
    | .error .unreadable => .ok { value, diagnostic? := some (diagnosis field) }
    | .error .unwritable => .error .unwritable

/-- The text of a value: nothing for null, a text as it is, and anything else in compact form. There
is none for a value that cannot be written. -/
def store : Json → Option Text
  | .null => some ""
  | .str s => some s
  | v => v.encode? .compact

/-- Whether a value may stand in a JSON field while it is edited: a text must be valid, and any
other value is JSON already. -/
def accepts : Json → Bool
  | .str s => isValid s
  | _ => true

/-- The first field whose value may not be saved. -/
def firstInvalid? (values : JsonField → Json) : Option JsonField :=
  all.find? fun f => !accepts (values f)

/-! ### Examples shown to users -/

/-- The example for a field. -/
def example? (field : Text) : Option Json :=
  match field with
  | "model_mapping" => some (.obj [("gpt-3.5-turbo", .str "gpt-3.5-turbo-0125")])
  | "status_code_mapping" => some (.obj [("400", .str "500")])
  | "setting" => some (.obj [("force_format", .bool true)])
  | "other" => some (.obj [("default", .str "us-central1"),
      ("claude-3-5-sonnet-20240620", .str "europe-west1")])
  | _ => none

/-- The text of the example for a field. -/
def template? (field : Text) : Option Text := (example? field).map (Json.text .indented)

/-- What is said about a field without an example. -/
def noTemplate (field : Text) : Text := "No template for field: " ++ field

/-- What is said about a text in the additional field that begins like JSON and is none. -/
def otherComplaint : Text := "Deployment region must be valid JSON or plain text"

/-! ### Small facts -/

theorem load_empty (field : Text) : load field "" = .ok { value := "" } := rfl

/-- A text that is no JSON is kept as it is. -/
theorem load_invalid {field value : Text} (hne : value.isEmpty = false)
    (h : parse? value = none) :
    load field value = .ok { value, diagnostic? := some (diagnosis field) } := by
  simp [load, hne, pretty, h]

/-- A text is stored as it is. -/
theorem store_str (s : Text) : store (.str s) = some s := rfl

end JsonField

end ChannelConsole
