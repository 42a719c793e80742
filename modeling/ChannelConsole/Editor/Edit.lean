import ChannelConsole.Editor.Form
import ChannelConsole.Text.Quoted

/-!
# Editing a channel

The changes to a form that need nobody's answer: setting fields, choosing a type, filling in
examples, and picking models.

## Main definitions

* `Editor.Form.setField`: set a field given by its name.
* `Editor.Form.changeType`: choose a type.
* `Editor.Form.editKeys`: change the keys.
* `Editor.Form.addCustom`: select typed names.

## Main statements

* `Editor.Form.setField_unknown`: a field that does not exist is refused, and nothing changes.
-/

namespace ChannelConsole.Editor.Form

open Channel Backend

/-! ### Keys -/

/-- Something happens in the credential field. When the text to be stored changes, the answers to
fetches under way are about another key. -/
def editKeys (f : Form) (event : Credential.Event) : Form × Credential.Response :=
  let (pool, response) := f.pool.step event
  let models := if pool.raw = f.pool.raw then f.models else f.models.invalidate
  ({ f with pool, models }, response)

/-! ### Fields -/

/-- What is said about a text that is no integer. -/
def noInteger (s : Text) : Text :=
  "invalid literal for int() with base 10: " ++ Text.ofList ((Text.quoted s).toList.take 200)

/-- What is said about a value that is no number at all. -/
def notANumber : Text := "cannot convert float NaN to integer"

/-- The type code that a value stands for: an integer, a truth value, a double without its fraction,
or a text of digits. -/
def typeCode : Json → Except Fault Int
  | .int n => .ok n
  | .bool b => .ok (if b then 1 else 0)
  | .float x => .ok x.wholePart
  | .nonFinite .notANumber => .error (.unusable notANumber)
  | .nonFinite (.infinite _) => .error .overflow
  | .str s =>
    match Text.anyScriptInteger s with
    | .number n => .ok n
    | .tooLong count => .error (.unusable (Text.tooManyDigits count))
    | .unreadable => .error (.unusable (noInteger s))
  | v => .error (.noNumber v.kindName)

/-- The names that a value stands for: a text with commas, or a list of texts. -/
def modelNames : Json → Except Fault (List Model.Name)
  | .str s => .ok (Model.Name.ofTexts (Names.split s))
  | .arr xs =>
    match xs.mapM fun | .str s => some (Model.Name.text s) | _ => none with
    | some names => .ok names
    | none => .error (.unusable "models must be a comma-separated string or a list of names")
  | _ => .error (.unusable "models must be a comma-separated string or a list of names")

/-- Choose a type. The keys and the models follow. -/
def changeType (f : Form) (channelType : Int) : Form × Credential.Outcome :=
  let (pool, outcome) := f.pool.changeType channelType
  let (models, replaced) := f.models.changeType channelType
  let f := { f with draft := { f.draft with channelType }, pool }
  (if replaced then f.withModels models else { f with models }, outcome)

/-- What is said about an address that ends in a version. -/
def versionWarning : Notice :=
  { level := .warning
    message := "The API address does not need a trailing /v1; it is added automatically " ++
      "and may cause requests to fail"
    field? := some "base_url" }

/-- Set a plain field. A new address makes the answers to fetches under way useless. -/
def setPlain (f : Form) (field : Draft.Field) (v : Json) : Form × Except Fault (Option Notice) :=
  match f.draft.assign field v with
  | .error issues => (f, .error (.invalid .draft issues))
  | .ok draft =>
    let f := { f with draft }
    if field = .baseUrl then
      let f := { f with models := f.models.invalidate }
      if Text.endsWith "/v1" draft.baseUrl then (f.notify versionWarning, .ok (some versionWarning))
      else (f, .ok none)
    else (f, .ok none)

/-- Set a field given by its name. The type and the models are passed on to those who know. -/
def setField (f : Form) (name : Text) (v : Json) : Form × Except Fault (Option Notice) :=
  if name = "type" then
    match typeCode v with
    | .ok code => ((f.changeType code).1, .ok none)
    | .error e => (f, .error e)
  else if name = "models" then
    match modelNames v with
    | .ok names => (f.withModels (f.models.setModels names), .ok none)
    | .error e => (f, .error e)
  else
    match Draft.Field.ofName? name with
    | none => (f, .error (.unusable ("Unknown channel field: " ++ name)))
    | some field => f.setPlain field v

/-- Fill a field with its example. -/
def fillTemplate (f : Form) (name : Text) : Form × Except Fault Unit :=
  if name = "other" ∧ f.profile.otherKind ≠ .jsonOrPlain then
    (f, .error (.unusable (f.profile.name ++ " channels have no JSON template for other")))
  else
    match JsonField.template? name, Draft.Field.ofName? name with
    | some text, some field =>
      match f.draft.assign field (.str text) with
      | .ok draft => ({ f with draft }, .ok ())
      | .error issues => (f, .error (.invalid .draft issues))
    | _, _ => (f, .error (.unusable (JsonField.noTemplate name)))

/-! ### Models -/

/-- Names one after the other with a comma and a space between them. -/
def enumerate (names : List Text) : Text := 
  Text.ofList (List.intercalate (Text.toList ", ") (names.map Text.toList))

/-- What is said about typed names. -/
def typedNotice (t : Model.Resolver.Typed) : Notice :=
  let count := "Added " ++ Text.ofInt t.added.length ++ " model(s)"
  if t.duplicates.isEmpty then { level := .success, message := count, field? := some "models" }
  else
    { level := .warning
      message :=
        if t.added.isEmpty then
          "Some models already exist and were ignored: " ++ enumerate t.duplicates
        else count ++ "; ignored models that already exist: " ++ enumerate t.duplicates
      field? := some "models" }

/-- Select typed names. Nothing is said about a blank text. A text in the place of the selection
counts as having every name that occurs in it, and can take no other. -/
def addCustom (f : Form) (text : Text) : Form × Except Fault (Option Notice) :=
  if Text.isAllBlank text then (f, .ok none)
  else
    match f.mangled? with
    | none =>
      let (models, t) := f.models.addCustom text
      let notice := typedNotice t
      ({ f with models }.notify notice, .ok (some notice))
    | some mangled =>
      let names := Model.Resolver.typedNames text
      if names.all (Text.occursIn · mangled) then
        let notice := typedNotice ⟨[], names⟩
        (f.notify notice, .ok (some notice))
      else (f, .error .noSuchPart)

/-- Select nothing. -/
def clearModels (f : Form) : Form := f.withModels f.models.clear

/-- Select the models that the type offers first. -/
def fillBasic (f : Form) : Form := f.withModels f.models.fillBasic

/-- Select the whole catalog. -/
def fillAll (f : Form) : Form := f.withModels f.models.fillAll

/-- Take over what is picked in the selector, and close it. -/
def applySelector (f : Form) : Form :=
  match f.selector? with
  | some s => { f.withModels (f.models.setModels s.selected) with selector? := none }
  | none => f

/-- Close the selector. -/
def cancelSelector (f : Form) : Form := { f with selector? := none }

/-- A field that does not exist is refused, and nothing changes. -/
theorem setField_unknown {f : Form} {name : Text} {v : Json} (ht : name ≠ "type")
    (hm : name ≠ "models") (h : Draft.Field.ofName? name = none) :
    f.setField name v = (f, .error (.unusable ("Unknown channel field: " ++ name))) := by
  simp [setField, ht, hm, h]

end ChannelConsole.Editor.Form
