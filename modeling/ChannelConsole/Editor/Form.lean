import ChannelConsole.Backend
import ChannelConsole.Channel.Draft
import ChannelConsole.Credential.Pool
import ChannelConsole.Model.Resolver
import ChannelConsole.Model.Selector

/-!
# The form of a channel editor

One open editor: the plain fields of a channel, the pool of its keys, its models, and what has been
said to the user. A form without a number is for a new channel.

## Main definitions

* `Editor.Form`: the state of an editor.
* `Editor.Notice`: what is said to the user.
* `Editor.Form.hydrate`: take over a stored channel.
* `Editor.Form.snapshot`: what a user interface needs to know of a form.

## Main statements

* `Editor.Form.draft_notify`: saying something changes nothing else.
-/

namespace ChannelConsole.Editor

open Channel Backend

/-- How much weight a notice has. -/
inductive Level where
  | info
  | success
  | warning
  | error
deriving DecidableEq

/-- The name of a level in answers. -/
def Level.name : Level → Text
  | .info => "info"
  | .success => "success"
  | .warning => "warning"
  | .error => "error"

/-- What is said to the user, possibly about a field. -/
structure Notice where
  level : Level
  message : Text
  field? : Option Text := none
deriving DecidableEq

/-- A notice in answers. -/
def Notice.toJson (n : Notice) : Json :=
  .obj [("level", .str n.level.name), ("message", .str n.message), ("field", .ofText? n.field?)]

/-- The state of an editor. `saves` counts how often it was announced that the channel was saved;
`announces` says whether anybody wants to hear of it. `selection` counts how often another selection
of models was put in the place of the one before; models that are added to a selection leave it the
same one. `mangled?` is a text that was put in the place of the selected models by mistake; while it
is there, `models.models` is empty exactly when the text is. -/
structure Form where
  channelId? : Option Int := none
  draft : Draft := {}
  pool : Credential.Pool := {}
  models : Model.Resolver := .ofType ChannelType.default
  selector? : Option Model.Selector := none
  groupOptions : List Text := []
  notices : List Notice := []
  diagnostics : List Text := []
  closed : Bool := false
  saves : Nat := 0
  announces : Bool := true
  selection : Nat := 0
  mangled? : Option Text := none

namespace Form

/-- Whether the form is for a stored channel. -/
def isEdit (f : Form) : Bool := f.channelId?.isSome

/-- The profile of the type of the channel. -/
def profile (f : Form) : ChannelType.Profile := ChannelType.profile f.draft.channelType

/-- Say something to the user. -/
def notify (f : Form) (n : Notice) : Form := { f with notices := f.notices ++ [n] }

/-- The form after the user has seen everything that was said. -/
def drained (f : Form) : Form := { f with notices := [] }

/-- The names of the selected models: those of the list, or the characters of a text that is in its
place. -/
def selected (f : Form) : List Model.Name :=
  match f.mangled? with
  | some text => text.toList.map fun c => .text (Text.singleton c)
  | none => f.models.models

/-- All models that can be picked. -/
def available (f : Form) : List Model.Name := { f.models with models := f.selected }.available

/-- Put another selection in the place of the present one, whatever that is. -/
def withModels (f : Form) (models : Model.Resolver) : Form :=
  { f with models, selection := f.selection + 1, mangled? := none }

/-- Put a text in the place of the selected models. -/
def mangle (f : Form) (text : Text) : Form :=
  { f with
    models := { f.models with models := if text.isEmpty then [] else [.text text] }
    selection := f.selection + 1
    mangled? := some text }

/-! ### Taking over a channel -/

/-- Make the JSON fields of a record ready for editing, one after the other. The diagnostics found
on the way are kept even if a field cannot be made ready. -/
def loadFields (p : Payload) : List JsonField → List Text × Option (List (JsonField × Json))
  | [] => ([], some [])
  | field :: r =>
    match JsonField.load field.name (p.jsonText field) with
    | .error _ => ([], none)
    | .ok loaded =>
      let (diagnostics, values?) := loadFields p r
      (loaded.diagnostic?.toList ++ diagnostics,
        values?.map fun values => (field, .str loaded.value) :: values)

/-- The plain fields of a record. -/
def draftOf (p : Payload) (values : List (JsonField × Json)) : Draft :=
  let plain : Draft :=
    { name := p.name
      channelType := p.channelType
      organization := p.organization
      baseUrl := p.baseUrl
      other := .str p.other
      groups := Names.split p.group
      priority := p.priority
      weight := p.weight
      tag := p.tag
      modelPrefix := p.modelPrefix
      testModel := p.testModel
      autoBan := p.autoBan != 0 }
  values.foldl (fun d v => d.setJson v.1 v.2) plain

/-- Take over a stored channel. It fails when a JSON field can be read but not laid out anew; then
only diagnostics are added. -/
def hydrate (f : Form) (p : Payload) : Form × Except Fault Unit :=
  let (diagnostics, values?) := loadFields p JsonField.all
  let f := { f with diagnostics := f.diagnostics ++ diagnostics }
  match values? with
  | none => (f, .error .wrongKind)
  | some values =>
    let f := { f with
      draft := draftOf p values
      pool := .hydrate (some p.key) p.channelType }
    (f.withModels (f.models.hydrate (Names.split p.models) p.channelType), .ok ())

/-- The form of a new channel, as far as candidate lists and messages allow. -/
def reset (f : Form) : Form :=
  { f.withModels (f.models.hydrate [] ChannelType.default) with
    draft := {}
    pool := .reset ChannelType.default
    selector? := none }

/-- End the editor. -/
def close (f : Form) : Form := { f with closed := true, selector? := none }

/-! ### Snapshots -/

/-- The part of a profile that a user interface needs. -/
def profileJson (p : ChannelType.Profile) : Json :=
  .obj [("name", .str p.name), ("visible_fields", .strings p.visibleFields),
    ("base_url_label", .ofText? p.baseUrlLabel?),
    ("base_url_placeholder", .str p.baseUrlPlaceholder),
    ("other_label", .ofText? p.otherLabel?), ("other_placeholder", .str p.otherPlaceholder),
    ("other_kind", .str p.otherKind.name), ("credential_prompt", .str p.credentialPrompt),
    ("notice", .ofText? p.notice?)]

/-- The types one can choose from, as they are shown. -/
def choicesJson : Json :=
  .arr (ChannelType.choices.map fun c => .obj [("value", .int c.1), ("label", .str c.2)])

/-- Whether it can be said what a user interface needs to know, which takes a selector in which the
models to be shown are known. -/
def canShow (f : Form) : Bool := f.selector?.all Model.Selector.canSearch

/-- What a user interface needs to know of a form. -/
def snapshot (f : Form) : Json :=
  .obj [("channel_id", .ofInt? f.channelId?), ("is_edit", .bool f.isEdit),
    ("closed", .bool f.closed), ("channel", f.draft.toJson), ("profile", profileJson f.profile),
    ("credentials", f.pool.snapshot),
    ("capabilities", .obj [("models", Model.Name.array f.selected),
      ("basic", .strings f.models.basic), ("available", Model.Name.array f.available)]),
    ("selector", match f.selector? with
      | some s => s.snapshot
      | none => .null),
    ("type_options", choicesJson), ("group_options", .strings f.groupOptions),
    ("diagnostics", .strings f.diagnostics)]

/-! ### Small facts -/

@[simp] theorem draft_notify (f : Form) (n : Notice) : (f.notify n).draft = f.draft := rfl

@[simp] theorem pool_notify (f : Form) (n : Notice) : (f.notify n).pool = f.pool := rfl

@[simp] theorem models_notify (f : Form) (n : Notice) : (f.notify n).models = f.models := rfl

end Form

end ChannelConsole.Editor
