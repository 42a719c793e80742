import ChannelConsole.Proofs.Editor.Saving
import ChannelConsole.Proofs.JsonField
import ChannelConsole.Proofs.Names

/-!
# Saving a channel that was not edited

A form that takes over a stored record and saves it stands for the record `Payload.resaved`
(`payload_of_hydrate`), which means what the stored one means (`keepsMeaning_resaved`): its keys,
models and groups are the same lists, its JSON fields have the same values, and of its address it
has lost at most one slash.

Taking over that record in turn gives it once more, up to another slash at the end of its address
(`resaved_resaved`). The slashes at the end of an address are taken off one at a time, so an address
that ends in several of them is still another one after the second time.
-/

namespace ChannelConsole

open Editor
open CodePoint (char)

/-! ### Slashes at the end of an address -/

namespace Editor.Form

theorem endsWith_slash_iff {s : Text} :
    Text.endsWith "/" s = true ↔ s.toList.getLast? = some (char '/') := by
  unfold Text.endsWith
  have hslash : (Text.toList "/").reverse = [char '/'] := by decide
  rw [hslash, ← List.head?_reverse]
  cases s.toList.reverse with
  | nil => simp
  | cons c r =>
    show ('/' == c && true) = true ↔ some c = some (char '/')
    rw [Bool.and_true, beq_iff_eq, Option.some.injEq]
    exact eq_comm

/-- Exactly one slash is taken off an address that ends in one. -/
theorem dropSlash_append_slash (s : Text) : dropSlash (s ++ "/") = s := by
  have hlast : (s ++ "/").toList = s.toList ++ [char '/'] := by
    rw [Text.toList_append]
    rfl
  rw [dropSlash, if_pos (endsWith_slash_iff.2 (by rw [hlast, List.getLast?_concat])), hlast,
    List.dropLast_concat, Text.ofList_toList]

/-- An address that does not end in a slash is left alone. -/
theorem dropSlash_of_forall_ne {s : Text} (h : ∀ t, s ≠ t ++ "/") : dropSlash s = s := by
  rw [dropSlash, if_neg]
  intro hslash
  obtain ⟨cs, hcs⟩ := List.getLast?_eq_some_iff.1 (endsWith_slash_iff.1 hslash)
  apply h (Text.ofList cs)
  rw [← Text.toList_inj, hcs, Text.toList_append, Text.toList_ofList]
  rfl

end Editor.Form

/-! ### What a saved record has in common with the stored one -/

namespace Channel.Payload

/-- Whether a record means the same as a stored one, apart from the number and the status. -/
structure KeepsMeaning (stored saved : Payload) : Prop where
  name : saved.name = stored.name
  channelType : saved.channelType = stored.channelType
  organization : saved.organization = stored.organization
  priority : saved.priority = stored.priority
  weight : saved.weight = stored.weight
  tag : saved.tag = stored.tag
  modelPrefix : saved.modelPrefix = stored.modelPrefix
  testModel : saved.testModel = stored.testModel
  keys : Credential.split saved.key = Credential.split stored.key
  models : Names.split saved.models = Names.unique (Names.split stored.models)
  groups : Names.split saved.group = Names.split stored.group
  json : ∀ field, JsonField.Keeps (stored.jsonText field) (saved.jsonText field)
  other : saved.other = if stored.other = "" then
    (ChannelType.profile stored.channelType).otherDefault else stored.other
  slash : ∀ s, stored.baseUrl = s ++ "/" → saved.baseUrl = s
  noSlash : (∀ s, stored.baseUrl ≠ s ++ "/") → saved.baseUrl = stored.baseUrl
  autoBan : saved.autoBan = if stored.autoBan = 0 then 0 else 1

/-- Whether the JSON fields of a record can be made ready for editing. -/
def IsLoadable (p : Payload) : Prop :=
  ∀ field : JsonField, ∃ l, JsonField.load field.name (p.jsonText field) = .ok l

/-- Whether all numbers in the JSON fields of a record are integers of machine words. -/
def HasOnlyWords (p : Payload) : Prop := ∀ field, JsonField.HasOnlyWords (p.jsonText field)

/-- The text of a JSON field of a record when it is made ready for editing. -/
def laidOut (p : Payload) (field : JsonField) : Text :=
  match JsonField.load field.name (p.jsonText field) with
  | .ok l => l.value
  | .error _ => ""

/-- The record that is saved when a record was taken over and not edited. -/
def resaved (p : Payload) (id? : Option Int) : Payload where
  id?
  name := p.name
  channelType := p.channelType
  key := (Credential.Pool.hydrate (some p.key) p.channelType).raw
  organization := p.organization
  baseUrl := Form.dropSlash p.baseUrl
  other := if p.other.isEmpty then (ChannelType.profile p.channelType).otherDefault else p.other
  models := Text.join (Names.unique (Names.split p.models))
  group := Text.join (Names.split p.group)
  modelMapping := p.laidOut .modelMapping
  statusCodeMapping := p.laidOut .statusCodeMapping
  setting := p.laidOut .setting
  paramOverride := p.laidOut .paramOverride
  priority := p.priority
  weight := p.weight
  tag := p.tag
  modelPrefix := p.modelPrefix
  testModel := p.testModel
  autoBan := if p.autoBan != 0 then 1 else 0

variable {p : Payload} {id? : Option Int}

theorem laidOut_of_load {field : JsonField} {l : JsonField.Loaded}
    (h : JsonField.load field.name (p.jsonText field) = .ok l) : p.laidOut field = l.value := by
  rw [laidOut, h]

theorem jsonText_resaved (field : JsonField) :
    (p.resaved id?).jsonText field = p.laidOut field := by
  cases field <;> rfl

theorem keeps_laidOut (hl : p.IsLoadable) (hw : p.HasOnlyWords) (field : JsonField) :
    JsonField.Keeps (p.jsonText field) (p.laidOut field) := by
  obtain ⟨l, hload⟩ := hl field
  rw [laidOut_of_load hload]
  exact JsonField.keeps_load hload (hw field)

/-- The record that is saved means what the stored one means. -/
theorem keepsMeaning_resaved (hl : p.IsLoadable) (hw : p.HasOnlyWords) :
    KeepsMeaning p (p.resaved id?) where
  name := rfl
  channelType := rfl
  organization := rfl
  priority := rfl
  weight := rfl
  tag := rfl
  modelPrefix := rfl
  testModel := rfl
  keys := Credential.Pool.keys_hydrate (some p.key) p.channelType
  models := Names.split_join_unique_split p.models
  groups := Names.split_join_split p.group
  json field := by
    rw [jsonText_resaved]
    exact keeps_laidOut hl hw field
  other := by simp only [resaved, Text.isEmpty_iff]
  slash s hs := by
    show Form.dropSlash p.baseUrl = s
    rw [hs, Form.dropSlash_append_slash]
  noSlash hs := Form.dropSlash_of_forall_ne hs
  autoBan := by
    show (if p.autoBan != 0 then 1 else 0) = _
    by_cases h : p.autoBan = 0 <;> simp [h]

theorem load_resaved (hw : p.HasOnlyWords) {field : JsonField} {l : JsonField.Loaded}
    (h : JsonField.load field.name (p.jsonText field) = .ok l) :
    JsonField.load field.name ((p.resaved id?).jsonText field) = .ok l := by
  rw [jsonText_resaved, laidOut_of_load h]
  exact JsonField.load_load h (hw field)

/-- A record that was saved can be taken over in turn. -/
theorem isLoadable_resaved (hl : p.IsLoadable) (hw : p.HasOnlyWords) :
    (p.resaved id?).IsLoadable := by
  intro field
  obtain ⟨l, hload⟩ := hl field
  exact ⟨l, load_resaved hw hload⟩

/-- Saving once more changes at most a slash at the end of the address. -/
theorem resaved_resaved (hl : p.IsLoadable) (hw : p.HasOnlyWords) :
    (p.resaved id?).resaved id? =
      { p.resaved id? with baseUrl := Form.dropSlash (p.resaved id?).baseUrl } := by
  -- what was laid out is laid out as it is
  have hlaid : ∀ field, (p.resaved id?).laidOut field = p.laidOut field := by
    intro field
    obtain ⟨l, hload⟩ := hl field
    rw [laidOut_of_load (load_resaved hw hload), laidOut_of_load hload]
  have hmeaning : KeepsMeaning p (p.resaved id?) := keepsMeaning_resaved hl hw
  have hkey := Credential.Pool.raw_hydrate_raw p.key p.channelType
  have hother : (if (p.resaved id?).other.isEmpty then
      (ChannelType.profile p.channelType).otherDefault else (p.resaved id?).other) =
        (p.resaved id?).other := by
    show (if (ite _ _ _ : Text).isEmpty then _ else ite _ _ _) = ite _ _ _
    -- an empty field has taken the default of the type, and takes it again if that is empty too
    by_cases h : p.other.isEmpty <;> simp [h]
  -- the models lost their repetitions the first time
  have hmodels : Names.unique (Names.split (p.resaved id?).models) =
      Names.unique (Names.split p.models) := by
    rw [hmeaning.models, Names.unique_unique]
  have hban : (if (p.resaved id?).autoBan != 0 then 1 else 0) = (p.resaved id?).autoBan := by
    rw [hmeaning.autoBan]
    by_cases h : p.autoBan = 0 <;> simp [h]
  rw [resaved, mk.injEq]
  refine ⟨rfl, rfl, rfl, hkey, rfl, rfl, hother, ?_, ?_, hlaid _, hlaid _, hlaid _, hlaid _, rfl,
    rfl, rfl, rfl, rfl, hban, rfl⟩
  · rw [hmodels]
    rfl
  · rw [hmeaning.groups]
    rfl

end Channel.Payload

/-! ### Taking over a record -/

namespace Editor.Form

open Channel Backend

variable {f g : Form} {p : Payload}

/-- The plain fields of a form that has taken over a record. -/
def takenOver (p : Payload) : Draft :=
  draftOf p (JsonField.all.map fun field => (field, .str (p.laidOut field)))

theorem loadFields_of_isLoadable (hl : p.IsLoadable) (fields : List JsonField) :
    (loadFields p fields).2 = some (fields.map fun field => (field, .str (p.laidOut field))) := by
  induction fields with
  | nil => rfl
  | cons field fields ih =>
    obtain ⟨l, hload⟩ := hl field
    simp only [loadFields, hload, ih, Option.map_some, List.map_cons,
      Payload.laidOut_of_load hload]

theorem load_of_loadFields {fields : List JsonField} {values : List (JsonField × Json)}
    (h : (loadFields p fields).2 = some values) :
    ∀ field ∈ fields, ∃ l, JsonField.load field.name (p.jsonText field) = .ok l := by
  induction fields generalizing values with
  | nil => intro field hfield; exact absurd hfield List.not_mem_nil
  | cons first fields ih =>
    unfold loadFields at h
    cases hload : JsonField.load first.name (p.jsonText first) with
    | error fault => simp [hload] at h
    | ok l =>
      simp only [hload, Option.map_eq_some_iff] at h
      obtain ⟨rest, hrest, -⟩ := h
      intro field hfield
      rcases List.mem_cons.1 hfield with rfl | hmem
      · exact ⟨l, hload⟩
      · exact ih hrest field hmem

/-- Only a record whose JSON fields can all be made ready is taken over. -/
theorem isLoadable_of_hydrate (h : f.hydrate p = (g, .ok ())) : p.IsLoadable := by
  unfold hydrate at h
  cases hvalues : (loadFields p JsonField.all).2 with
  | none => simp [hvalues] at h
  | some values =>
    intro field
    exact load_of_loadFields hvalues field (by cases field <;> decide)

/-- What a form becomes when it takes over a record. -/
theorem hydrate_of_isLoadable (f : Form) (hl : p.IsLoadable) :
    ∃ diagnostics, f.hydrate p = ({ f with
      diagnostics
      draft := takenOver p
      pool := .hydrate (some p.key) p.channelType
      models := f.models.hydrate (Names.split p.models) p.channelType
      selection := f.selection + 1
      mangled? := none }, .ok ()) := by
  refine ⟨f.diagnostics ++ (loadFields p JsonField.all).1, ?_⟩
  have hvalues := loadFields_of_isLoadable hl JsonField.all
  simp only [hydrate, hvalues]
  rfl

/-- What a form that has taken over a record is. -/
theorem eq_of_hydrate (h : f.hydrate p = (g, .ok ())) :
    ∃ diagnostics, g = { f with
      diagnostics
      draft := takenOver p
      pool := .hydrate (some p.key) p.channelType
      models := f.models.hydrate (Names.split p.models) p.channelType
      selection := f.selection + 1
      mangled? := none } := by
  obtain ⟨diagnostics, hg⟩ := hydrate_of_isLoadable f (isLoadable_of_hydrate h)
  rw [h] at hg
  exact ⟨diagnostics, (Prod.mk.inj hg).1⟩

/-- A record that cannot be made ready is not taken over. -/
theorem hydrate_of_not_isLoadable (f : Form) (h : ¬ p.IsLoadable) :
    ∃ diagnostics, f.hydrate p = ({ f with diagnostics }, .error .wrongKind) := by
  have hnone : (loadFields p JsonField.all).2 = none := by
    cases hvalues : (loadFields p JsonField.all).2 with
    | none => rfl
    | some values =>
      have hload : p.IsLoadable := by
        intro field
        exact load_of_loadFields hvalues field (by cases field <;> decide)
      exact absurd hload h
  refine ⟨f.diagnostics ++ (loadFields p JsonField.all).1, ?_⟩
  simp only [hydrate, hnone]

/-- What can come of taking over the channel in an answer. -/
inductive TakesOver (f : Form) (opening : Bool) (e : Envelope) : Form × Progress → Prop where
  | refused (message : Text) : TakesOver f opening e (f.loadRefused opening message)
  | malformed {issues : List Schema.Issue} (hcheck : Payload.check e.data = .error issues) :
      TakesOver f opening e (f, .fail (.invalid .channel issues))
  | unloadable (diagnostics : List Text) :
      TakesOver f opening e ({ f with diagnostics }, .fail .wrongKind)
  | loaded {p : Payload} (diagnostics : List Text) (hsuccess : e.success = true)
      (hcheck : Payload.check e.data = .ok p) (hload : p.IsLoadable) :
      TakesOver f opening e
        ({ f with
          diagnostics
          draft := takenOver p
          pool := .hydrate (some p.key) p.channelType
          models := f.models.hydrate (Names.split p.models) p.channelType
          selection := f.selection + 1
          mangled? := none }, .answer (loadAnswer opening true))

theorem takesOver_takeOver (f : Form) (opening : Bool) (e : Envelope) :
    f.TakesOver opening e (f.takeOver opening e) := by
  unfold takeOver
  by_cases hsuccess : e.success = true
  · rw [if_pos hsuccess]
    cases hcheck : Payload.check e.data with
    | error issues => exact .malformed hcheck
    | ok p =>
      by_cases hload : p.IsLoadable
      · obtain ⟨diagnostics, hh⟩ := hydrate_of_isLoadable f hload
        simp only [hh]
        exact .loaded diagnostics hsuccess hcheck hload
      · obtain ⟨diagnostics, hh⟩ := hydrate_of_not_isLoadable f hload
        simp only [hh]
        exact .unloadable diagnostics
  · rw [if_neg hsuccess]
    exact .refused _

/-- A form that has taken over a record stands for that record as it is saved. -/
theorem payload_of_hydrate (h : f.hydrate p = (g, .ok ())) :
    g.channelId? = f.channelId? ∧ g.mangled? = none ∧
      g.payload = .ok (p.resaved f.channelId?) := by
  obtain ⟨diagnostics, rfl⟩ := eq_of_hydrate h
  refine ⟨rfl, rfl, ?_⟩
  -- all models of a record are named by texts, so the record can be made
  have hmodels : Model.Name.unique (Model.Name.ofTexts (Names.split p.models)) =
      Model.Name.ofTexts (Names.unique (Names.split p.models)) := Model.Name.unique_ofTexts _
  simp only [payload, modelText, Model.Resolver.hydrate, hmodels, Model.Name.all_isText_ofTexts,
    Model.Name.texts_ofTexts, if_true]
  rfl

/-! ### Opening and saving -/

/-- Whether a form becomes another one by taking over a record that a reply brings. -/
def Opens (f : Form) (p : Payload) (g : Form) : Prop :=
  ∃ opening e, e.success = true ∧ Payload.check e.data = .ok p ∧
    f.resume (.channel opening) (.envelope e) = (g, .answer (loadAnswer opening true))

theorem hydrate_of_opens (h : f.Opens p g) : f.hydrate p = (g, .ok ()) := by
  obtain ⟨opening, e, he, hp, hresume⟩ := h
  have htake : f.takeOver opening e = (g, .answer (loadAnswer opening true)) := hresume
  unfold takeOver at htake
  simp only [he, if_true, hp] at htake
  cases hh : f.hydrate p with
  | mk f' result =>
    rw [hh] at htake
    cases result with
    | ok u =>
      obtain ⟨rfl, -⟩ := Prod.mk.inj htake
      rfl
    | error fault => simp [Progress.fail, Progress.answer] at htake

/-- A record whose JSON fields can be made ready is taken over. -/
theorem opens_of_isLoadable (f : Form) (hl : p.IsLoadable) : ∃ g, f.Opens p g := by
  have hhydrate : ∃ g, f.hydrate p = (g, .ok ()) := by
    obtain ⟨diagnostics, hh⟩ := hydrate_of_isLoadable f hl
    exact ⟨_, hh⟩
  obtain ⟨g, hh⟩ := hhydrate
  refine ⟨g, true, .succeed p.toJson, rfl, Payload.check_toJson p, ?_⟩
  show f.takeOver true (.succeed p.toJson) = _
  unfold takeOver
  simp only [Envelope.succeed, if_true, Payload.check_toJson, hh]

/-- A stored channel that was opened and not edited is saved with the same meaning. When the record
that is saved is opened in turn, it is saved once more as it is, up to one slash at the end of its
address. -/
theorem saved_of_opens (hedit : f.isEdit = true) (h : f.Opens p g) (hw : p.HasOnlyWords) :
    ∃ q, g.payload = .ok q ∧ q.id? = f.channelId? ∧ p.KeepsMeaning q ∧
      (∀ g' call, g.start .submit = (g', .waiting call .save) → call = .updateChannel q) ∧
      ∀ f' : Form, f'.channelId? = f.channelId? →
        (∃ g', f'.Opens q g') ∧
        ∀ g', f'.Opens q g' → g'.payload = .ok { q with baseUrl := dropSlash q.baseUrl } := by
  have hl := isLoadable_of_hydrate (hydrate_of_opens h)
  obtain ⟨hid, hlist, hpayload⟩ := payload_of_hydrate (hydrate_of_opens h)
  refine ⟨p.resaved f.channelId?, hpayload, rfl, Payload.keepsMeaning_resaved hl hw, ?_, ?_⟩
  · -- of the ways in which saving can begin, one makes a call, and it has the record of the form
    intro g' call hsubmit
    have hsubmit : g.startSubmit = (g', .waiting call .save) := hsubmit
    have hgedit : g.isEdit = true := by rw [isEdit, hid, ← isEdit, hedit]
    rcases startSubmit_cases hlist with ⟨n, -, hstart⟩ | ⟨-, -, hstart⟩ | ⟨-, q, hq, hstart⟩
    · simp [hstart, Progress.answer] at hsubmit
    · simp [hstart, Progress.fail] at hsubmit
    · rw [hstart] at hsubmit
      obtain ⟨-, hwaiting⟩ := Prod.mk.inj hsubmit
      obtain ⟨rfl, -⟩ := Progress.waiting.inj hwaiting
      obtain rfl := Except.ok.inj (hpayload.symm.trans hq)
      rw [saveCall, if_pos hgedit]
  · intro f' hf'
    refine ⟨opens_of_isLoadable f' (Payload.isLoadable_resaved hl hw), ?_⟩
    intro g' h'
    obtain ⟨-, -, hpayload'⟩ := payload_of_hydrate (hydrate_of_opens h')
    rw [hpayload', hf', Payload.resaved_resaved hl hw]

/-- A stored channel whose address ends in a slash and that names a model twice is opened. -/
theorem saved_of_opens_stored :
    ∃ g q, ({ channelId? := some 7 } : Form).Opens
        { models := "gpt-4,o1,gpt-4", baseUrl := "https://relay.example.com/" } g ∧
      g.payload = .ok q ∧ q.id? = some 7 ∧
      Payload.KeepsMeaning { models := "gpt-4,o1,gpt-4", baseUrl := "https://relay.example.com/" }
        q := by
  have hload : Payload.IsLoadable
      { models := "gpt-4,o1,gpt-4", baseUrl := "https://relay.example.com/" } := by
    intro field
    exact ⟨{ value := "" }, by cases field <;> rfl⟩
  obtain ⟨g, hopens⟩ := opens_of_isLoadable { channelId? := some 7 } hload
  have hwords : Payload.HasOnlyWords
      { models := "gpt-4,o1,gpt-4", baseUrl := "https://relay.example.com/" } := by
    intro field v hv
    cases field <;> simp [Payload.jsonText, JsonField.parse?_empty] at hv
  obtain ⟨q, hq, hid, hmeaning, -, -⟩ := saved_of_opens rfl hopens hwords
  exact ⟨g, q, hopens, hq, hid, hmeaning⟩

/-- An address with two slashes at its end is another one after the second time. -/
theorem payload_of_two_slashes :
    (({ channelId? := some 7 } : Form).resume (.channel true) (.envelope (.succeed
      ({ id? := some 7, baseUrl := "https://relay.example.com//" } : Payload).toJson))).1.payload =
        .ok { id? := some 7, baseUrl := "https://relay.example.com/" } ∧
    (({ channelId? := some 7 } : Form).resume (.channel true) (.envelope (.succeed
      ({ id? := some 7, baseUrl := "https://relay.example.com/" } : Payload).toJson))).1.payload ≠
        .ok { id? := some 7, baseUrl := "https://relay.example.com/" } := by
  have hsecond : (({ channelId? := some 7 } : Form).resume (.channel true) (.envelope (.succeed
      ({ id? := some 7, baseUrl := "https://relay.example.com/" } : Payload).toJson))).1.payload =
        .ok { id? := some 7, baseUrl := "https://relay.example.com" } := rfl
  refine ⟨rfl, ?_⟩
  rw [hsecond]
  intro h
  have haddress := congrArg Payload.baseUrl (Except.ok.inj h)
  exact absurd haddress (by decide)

end Editor.Form

end ChannelConsole
