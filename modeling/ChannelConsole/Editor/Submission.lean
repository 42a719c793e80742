import ChannelConsole.Editor.Form

/-!
# Saving a channel

What must hold before a channel can be saved, and the record that a form stands for.

## Main definitions

* `Editor.Form.problem?`: the first thing that keeps a form from being saved.
* `Editor.Form.payload`: the record that a form stands for.
* `Editor.Form.saved`: the form after its channel was saved.

## Main statements

* `Editor.Form.payload_id`: the record has the number of the form.
-/

namespace ChannelConsole.Editor.Form

open Channel Backend

/-- The first thing that keeps a form from being saved. -/
def problem? (f : Form) : Option Notice :=
  if !f.isEdit && (f.draft.name.isEmpty || f.pool.raw.isEmpty) then
    some { level := .info, message := "Please fill in the channel name and key" }
  else if f.models.models.isEmpty then
    some { level := .info, message := "Please select at least one model", field? := some "models" }
  else
    match JsonField.firstInvalid? f.draft.jsonValue with
    | some field =>
      some { level := .info, message := field.complaint, field? := some field.name }
    | none =>
      match f.draft.other with
      | .str other =>
        if f.profile.otherIsJson other && !JsonField.isValid other then
          some { level := .info, message := JsonField.otherComplaint, field? := some "other" }
        else none
      | _ => none

/-- Look for something that keeps the form from being saved, and say what it is. -/
def validate (f : Form) : Form × Option Notice :=
  match f.problem? with
  | some n => (f.notify n, some n)
  | none => (f, none)

/-- The text without one slash at its end. -/
def dropSlash (s : Text) : Text :=
  if Text.endsWith "/" s then Text.ofList s.toList.dropLast else s

/-- The text of a value that a field is to be stored as. -/
def storedText (v : Json) : Except Fault Text :=
  match JsonField.store v with
  | some s => .ok s
  | none => .error .wrongKind

/-- The value of the additional field, or the default of the type when it is empty. -/
def otherValue (f : Form) : Json :=
  match f.draft.other with
  | .str other => .str (if other.isEmpty then f.profile.otherDefault else other)
  | v => v

/-- The text in which the selected models are stored. There is none when one of them is named by a
number. -/
def modelText (f : Form) : Except Fault Text :=
  if f.models.models.all Model.Name.isText then
    .ok (Text.join (Model.Name.texts f.models.models))
  else .error .wrongKind

/-- The record that a form stands for. There is none when a text is in the place of the selection,
when a model is named by a number, or when a value cannot be written as JSON. -/
def payload (f : Form) : Except Fault Payload :=
  if f.mangled?.isSome then .error (.broken "models must be a list, got str")
  else do
    let d := f.draft
    let other ← storedText f.otherValue
    let models ← f.modelText
    let modelMapping ← storedText d.modelMapping
    let statusCodeMapping ← storedText d.statusCodeMapping
    let setting ← storedText d.setting
    let paramOverride ← storedText d.paramOverride
    return {
      id? := f.channelId?
      name := d.name
      channelType := d.channelType
      key := f.pool.raw
      organization := d.organization
      baseUrl := dropSlash d.baseUrl
      other
      models
      group := Text.join d.groups
      modelMapping
      statusCodeMapping
      setting
      paramOverride
      priority := d.priority
      weight := d.weight
      tag := d.tag
      modelPrefix := d.modelPrefix
      testModel := d.testModel
      autoBan := if d.autoBan then 1 else 0 }

/-- What is said after a channel was saved. -/
def savedNotice (f : Form) : Notice :=
  { level := .success, message := if f.isEdit then "Channel updated" else "Channel created" }

/-- The form after its channel was saved: the user is told, a form for a new channel is emptied, the
saving is announced, and the editor ends. -/
def saved (f : Form) : Form :=
  let told := f.notify f.savedNotice
  let told := if f.isEdit then told else told.reset
  { told with saves := if told.announces then told.saves + 1 else told.saves }.close

/-- The record has the number of the form. -/
theorem payload_id {f : Form} {p : Payload} (h : f.payload = .ok p) : p.id? = f.channelId? := by
  unfold payload at h
  split at h
  · simp at h
  · simp only [bind, Except.bind, pure, Except.pure] at h
    repeat' split at h
    all_goals simp only [Except.ok.injEq, reduceCtorEq] at h
    all_goals exact h ▸ rfl

end ChannelConsole.Editor.Form
