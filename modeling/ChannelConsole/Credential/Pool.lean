import ChannelConsole.Credential.Keys
import ChannelConsole.ChannelType.Table
import ChannelConsole.Json.Basic

/-!
# Editing the keys of a channel

The keys of a channel are shown as one text, or as one entry for each key. A pool knows which of the
two is shown and moves between them as text is typed and pasted; at all times it has one text to be
stored. Where the keyboard focus should go is part of the outcome of an event.

## Main definitions

* `Credential.Pool`: the state of the credential field.
* `Credential.Pool.raw`: the text to be stored.
* `Credential.Event`: what can happen to a pool, and `Credential.Pool.step` what it does.

## Main statements

* `Credential.Pool.raw_collapse`, `Credential.Pool.raw_enterList`: the stored text in each view.
* `Credential.Pool.adopt_eq_enter`, `Credential.Pool.adopt_eq_collapse`: a list of entries is shown
  as a list exactly when at least two of them are not blank.
-/

namespace ChannelConsole.Credential

/-- How the keys are shown: as one text or one by one. -/
inductive Mode where
  | single
  | list
deriving DecidableEq

/-- The name of a mode in answers. -/
def Mode.name : Mode → Text
  | .single => "single"
  | .list => "list"

/-- Where the keyboard focus should go. -/
inductive Focus where
  | entry (index : Nat)
  | single
deriving DecidableEq

/-- What an event came to. An event that is not handled leaves the field to its usual behaviour. -/
structure Outcome where
  handled : Bool := true
  focus? : Option Focus := none
deriving DecidableEq

/-- The outcome of an event that does not concern the pool. -/
def Outcome.ignored : Outcome := { handled := false }

/-- The outcome of an event that moves the focus. -/
def Outcome.focusing (f : Focus) : Outcome := { focus? := some f }

/-- A focus in answers. -/
def Focus.toJson : Focus → Json
  | .entry index => .obj [("target", .str "entry"), ("index", .int index)]
  | .single => .obj [("target", .str "single"), ("index", .null)]

/-- An outcome in answers. -/
def Outcome.toJson (o : Outcome) : Json :=
  .obj [("handled", .bool o.handled),
    ("focus", match o.focus? with
      | some f => f.toJson
      | none => .null)]

/-- The state of the credential field. `text` is what the single field holds; in list mode it is
kept along, but nothing reads it. -/
structure Pool where
  channelType : Int := ChannelType.default
  mode : Mode := .single
  entries : List Text := []
  multiViewDisabled : Bool := false
  showPlain : Bool := false
  text : Text := ""
deriving DecidableEq

namespace Pool

/-- A pool for a channel type with a text in its single field. -/
def ofText (channelType : Int) (text : Text) : Pool := { channelType, text }

/-- Whether the keys may be shown one by one: the type allows it and the user has not turned it
off. -/
def listViewEnabled (p : Pool) : Bool :=
  (ChannelType.profile p.channelType).multiKeyView && !p.multiViewDisabled

/-- Whether the single field has several lines. -/
def textarea (p : Pool) : Bool := (ChannelType.profile p.channelType).credentialTextarea

/-- The text to be stored. -/
def raw (p : Pool) : Text :=
  match p.mode with
  | .list => join p.entries
  | .single => p.text

/-- The key that is used when one is needed. -/
def firstKey (p : Pool) : Text := first p.raw

/-! ### Changing the view -/

/-- Show the given keys one by one, in plain text. -/
def enterList (p : Pool) (keys : List Text) : Pool :=
  { p with mode := .list, entries := keys, showPlain := true, text := join keys }

/-- Show one text. -/
def collapse (p : Pool) (text : Text) : Pool := { p with mode := .single, entries := [], text }

/-- Take over a list of entries: two or more that are not blank are shown one by one, and otherwise
the only one is the text of the single field, to which the focus goes. -/
def adopt (p : Pool) (entries : List Text) : Pool × Option Focus :=
  match tidy entries with
  | [] => (p.collapse "", some .single)
  | [key] => (p.collapse key, some .single)
  | keys => ({ p with mode := .list, entries := keys, text := join keys }, none)

/-- Show the keys of a text one by one if it has any, else do something else. -/
def enterListOf (p : Pool) (text : Text) (otherwise : Pool × Outcome) : Pool × Outcome :=
  match split text with
  | [] => otherwise
  | keys => (p.enterList keys, .focusing (.entry 0))

/-- The place of an index among the entries, if the entries are shown and there is one. -/
def place? (p : Pool) (index : Int) : Option Nat :=
  if p.mode = .list ∧ 0 ≤ index ∧ index < p.entries.length then some index.toNat else none

/-- The pool of a channel type with nothing in it. -/
def reset (channelType : Int) : Pool := { channelType }

/-- A pool with a stored text. Several keys are shown one by one from the start. -/
def hydrate (raw? : Option Text) (channelType : Int) : Pool :=
  let raw := raw?.getD ""
  let p := ofText channelType raw
  if p.listViewEnabled && 1 < (split raw).length then p.enterList (split raw) else p

/-! ### Events in the single field -/

/-- The text of the field was changed. In list mode the text takes the place of all entries. -/
def input (p : Pool) (value : Text) : Pool × Outcome :=
  match p.mode with
  | .list =>
    let (p, focus?) := p.adopt (split value)
    (p, { focus? })
  | .single =>
    let typed : Pool × Outcome := ({ p with text := value }, {})
    if p.listViewEnabled && hasDelimiter value then p.enterListOf value typed else typed

/-- A text was pasted behind the one in the field. Only a text with delimiters is taken. -/
def paste (p : Pool) (text : Text) : Pool × Outcome :=
  match p.mode with
  | .list => (p, .ignored)
  | .single =>
    if p.listViewEnabled && hasDelimiter text then
      p.enterListOf (p.text ++ text) ({ p with text := "" }, {})
    else (p, .ignored)

/-- Empty the field. -/
def clear (p : Pool) : Pool := p.collapse ""

/-- Show or hide the keys in plain text. -/
def toggleVisibility (p : Pool) : Pool := { p with showPlain := !p.showPlain }

/-! ### Events in the list -/

/-- Add an entry at the end and go there. -/
def addEntry (p : Pool) (initial : Text) : Pool × Outcome :=
  ({ p with entries := p.entries ++ [initial] }, .focusing (.entry p.entries.length))

/-- Remove an entry. -/
def removeEntry (p : Pool) (index : Int) : Pool × Outcome :=
  match p.place? index with
  | none => (p, .ignored)
  | some i =>
    let (p, focus?) := p.adopt (p.entries.eraseIdx i)
    (p, { focus? })

/-- Change the text of an entry. The view stays as it is while one types. -/
def updateEntry (p : Pool) (index : Int) (value : Text) : Pool × Outcome :=
  match p.place? index with
  | none => (p, .ignored)
  | some i => ({ p with entries := p.entries.set i value }, {})

/-- The entries in front of a place that are not blank. -/
def solidBefore (p : Pool) (i : Nat) : Nat :=
  ((p.entries.take i).filter fun e => !Text.isAllBlank e).length

/-- Paste into an entry. A text with delimiters puts the keys of the entry and the text together in
the place of the entry, and the focus goes to the last of them. -/
def pasteEntry (p : Pool) (index : Int) (text : Text) : Pool × Outcome :=
  match p.place? index with
  | none => (p, .ignored)
  | some i =>
    if hasDelimiter text then
      let keys := split (p.entries.getD i "" ++ text)
      let before := p.solidBefore i
      match p.adopt (p.entries.take i ++ keys ++ p.entries.drop (i + 1)) with
      | (q, some focus) => (q, .focusing focus)
      | (q, none) =>
        (q, .focusing (.entry (min (before + keys.length - 1) (q.entries.length - 1))))
    else (p, .ignored)

/-- The keys of the keyboard that mean something in an entry. -/
inductive Key where
  | enter
  | comma
  | backspace
  | other
deriving DecidableEq

/-- The key with the given name. -/
def Key.ofName (name : Text) : Key :=
  if name = "Enter" then .enter
  else if name = "," then .comma
  else if name = "Backspace" then .backspace
  else .other

/-- A key was pressed in an entry. Enter, and a comma behind some text, add an entry; a comma in a
blank entry is swallowed; Backspace in an empty entry that is not the first one removes it. -/
def press (p : Pool) (index : Int) (key : Key) : Pool × Outcome :=
  match p.place? index with
  | none => (p, .ignored)
  | some i =>
    let entry := p.entries.getD i ""
    match key with
    | .enter => p.addEntry ""
    | .comma => if Text.isAllBlank entry then (p, {}) else p.addEntry ""
    | .backspace =>
      if entry.isEmpty && 1 < p.entries.length && 0 < i then
        match p.removeEntry index with
        | (q, { handled, focus? := none }) =>
          (q, { handled, focus? := some (.entry (p.solidBefore i - 1)) })
        | removed => removed
      else (p, .ignored)
    | .other => (p, .ignored)

/-! ### Events from outside the field -/

/-- Forbid or allow that the keys are shown one by one. -/
def setMultiViewDisabled (p : Pool) (disabled : Bool) : Pool × Outcome :=
  if disabled = p.multiViewDisabled then (p, {})
  else
    let q := { p with multiViewDisabled := disabled }
    if disabled then
      match p.mode with
      | .list => (q.collapse (join p.entries), .focusing .single)
      | .single => (q, {})
    else if q.listViewEnabled && hasDelimiter q.text then q.enterListOf q.text (q, {})
    else (q, {})

/-- Forbid what was allowed, or allow what was forbidden. -/
def toggleMultiView (p : Pool) : Pool × Outcome := p.setMultiViewDisabled !p.multiViewDisabled

/-- The channel got another type, which may or may not allow that its keys are shown one by one. -/
def changeType (p : Pool) (channelType : Int) : Pool × Outcome :=
  let current := p.raw
  let q := { p with channelType }
  let collapsed : Pool × Outcome :=
    match p.mode with
    | .list => (q.collapse current, .focusing .single)
    | .single => (q, {})
  if q.listViewEnabled && hasDelimiter current then q.enterListOf current collapsed else collapsed

/-- Settle the view as it is to be stored, and give the text to be stored. -/
def finalize (p : Pool) : Pool × Text :=
  match p.mode with
  | .list =>
    let q := (p.adopt p.entries).1
    (q, q.raw)
  | .single => (p, p.raw)

/-- What a user interface needs to know of a pool. -/
def snapshot (p : Pool) : Json :=
  .obj [("mode", .str p.mode.name), ("entries", .strings p.entries), ("key", .str p.raw),
    ("multi_view_disabled", .bool p.multiViewDisabled),
    ("list_view_enabled", .bool p.listViewEnabled), ("show_plain", .bool p.showPlain),
    ("textarea", .bool p.textarea)]

end Pool

/-! ### Runs -/

/-- What can happen to a pool. -/
inductive Event where
  | input (value : Text)
  | paste (value : Text)
  | clear
  | toggleVisibility
  | toggleMultiView
  | setMultiViewDisabled (disabled : Bool)
  | addEntry (value : Text)
  | removeEntry (index : Int)
  | updateEntry (index : Int) (value : Text)
  | pasteEntry (index : Int) (value : Text)
  | press (index : Int) (key : Pool.Key)
  | changeType (channelType : Int)
  | hydrate (raw? : Option Text) (channelType : Int)
  | reset (channelType : Int)
  | finalize
deriving DecidableEq

/-- What an event gives back. -/
inductive Response where
  | nothing
  | outcome (o : Outcome)
  | text (s : Text)
deriving DecidableEq

/-- What an event does to a pool, and what it gives back. -/
def Pool.step (p : Pool) : Event → Pool × Response
  | .input value => (p.input value).map id .outcome
  | .paste value => (p.paste value).map id .outcome
  | .clear => (p.clear, .nothing)
  | .toggleVisibility => (p.toggleVisibility, .nothing)
  | .toggleMultiView => p.toggleMultiView.map id .outcome
  | .setMultiViewDisabled disabled => (p.setMultiViewDisabled disabled).map id .outcome
  | .addEntry value => (p.addEntry value).map id .outcome
  | .removeEntry index => (p.removeEntry index).map id .outcome
  | .updateEntry index value => (p.updateEntry index value).map id .outcome
  | .pasteEntry index value => (p.pasteEntry index value).map id .outcome
  | .press index key => (p.press index key).map id .outcome
  | .changeType channelType => (p.changeType channelType).map id .outcome
  | .hydrate raw? channelType => (.hydrate raw? channelType, .nothing)
  | .reset channelType => (.reset channelType, .nothing)
  | .finalize => p.finalize.map id .text

/-- The pool after a sequence of events. -/
def Pool.run (p : Pool) (events : List Event) : Pool :=
  events.foldl (fun q e => (q.step e).1) p

/-! ### Small facts -/

namespace Pool

@[simp] theorem raw_collapse (p : Pool) (text : Text) : (p.collapse text).raw = text := rfl

@[simp] theorem raw_enterList (p : Pool) (keys : List Text) :
    (p.enterList keys).raw = join keys := rfl

/-- With at most one entry that is not blank, one text is shown. -/
theorem adopt_eq_collapse {p : Pool} {entries : List Text} (h : (tidy entries).length ≤ 1) :
    p.adopt entries = (p.collapse ((tidy entries).headD ""), some .single) := by
  unfold adopt
  match ht : tidy entries with
  | [] => rfl
  | [key] => rfl
  | _ :: _ :: _ => simp [ht] at h

/-- With two entries that are not blank, they are shown one by one. -/
theorem adopt_eq_enter {p : Pool} {entries : List Text} (h : 1 < (tidy entries).length) :
    p.adopt entries =
      ({ p with mode := .list, entries := tidy entries, text := join (tidy entries) }, none) := by
  unfold adopt
  match ht : tidy entries with
  | [] => simp [ht] at h
  | [key] => simp [ht] at h
  | _ :: _ :: _ => rfl

end Pool

end ChannelConsole.Credential
