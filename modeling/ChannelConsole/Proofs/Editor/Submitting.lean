import ChannelConsole.Proofs.Editor.Opening
import ChannelConsole.Proofs.Editor.Selection

/-!
# When saving gives an answer

Whoever saves a channel should be told what came of it, whatever the form holds. A form is refused
with an answer for each problem that is looked for, but some things are not looked for: a value in
the place of a JSON text may have integers outside the machine words, halves of characters or more
than 254 levels, and a model may be named by a number. A form without other problems that has one of
these cannot be sent, and saving it ends in a fault (`answersSubmit_iff_of_reachable`).

What cannot be sent has been brought in as it is: by setting a JSON field to such a value, or by
models that were listed for the form. If no move does that, saving always gives an answer
(`isSendable_afterAll`).
-/

namespace ChannelConsole

open Channel Backend

/-! ### Values that can be stored -/

/-- Whether a value has a text to be stored: it is a text, or it can be written. -/
def Json.IsStorable (v : Json) : Prop := (∃ s, v = .str s) ∨ v.isWritable = true

theorem JsonField.exists_store_iff {v : Json} :
    (∃ s, JsonField.store v = some s) ↔ v.IsStorable := by
  unfold Json.IsStorable
  cases v with
  | str s => exact iff_of_true ⟨s, rfl⟩ (.inl ⟨s, rfl⟩)
  | null => exact iff_of_true ⟨"", rfl⟩ (.inr rfl)
  | _ => simp [JsonField.store, Json.encode?]

namespace Channel.Draft

/-- The values that may be in the place of a text. -/
def trees (d : Draft) : List Json := d.other :: JsonField.all.map d.jsonValue

/-- The names of the fields that may have a value in the place of a text. -/
def treeNames : List Text := "other" :: JsonField.all.map JsonField.name

theorem mem_trees {d : Draft} {v : Json} :
    v ∈ d.trees ↔ v = d.other ∨ ∃ field, v = d.jsonValue field := by
  rw [trees, List.mem_cons, List.mem_map]
  constructor
  · rintro (rfl | ⟨field, -, rfl⟩)
    · exact .inl rfl
    · exact .inr ⟨field, rfl⟩
  · rintro (rfl | ⟨field, rfl⟩)
    · exact .inl rfl
    · exact .inr ⟨field, by cases field <;> decide, rfl⟩

theorem textOrTree_eq_ok {v w : Json} (h : textOrTree v = .ok w) : w = v := by
  unfold textOrTree at h
  split at h
  · exact (Except.ok.inj h).symm
  · exact (Except.ok.inj h).symm
  · exact (Except.ok.inj h).symm
  · cases h

theorem mem_trees_iff_value {d : Draft} {v : Json} :
    v ∈ d.trees ↔ ∃ field : Field, field.label ∈ treeNames ∧ d.value field = v := by
  rw [mem_trees]
  constructor
  · rintro (rfl | ⟨field, rfl⟩)
    · exact ⟨.other, by decide, rfl⟩
    · exact ⟨.json field, by cases field <;> decide, rfl⟩
  · rintro ⟨field, hlabel, rfl⟩
    cases field with
    | other => exact .inl rfl
    | json field => exact .inr ⟨field, rfl⟩
    | _ => exact absurd hlabel (by decide)

/-- Such a field takes a value as it is. -/
theorem value_eq_of_assign {d d' : Draft} {field : Field} {v : Json}
    (hlabel : field.label ∈ treeNames) (hassign : d.assign field v = .ok d') :
    d'.value field = v := by
  have hread := read_of_assign hassign
  have htree : field.read v = textOrTree v := by
    cases field with
    | other | json field => rfl
    | _ => exact absurd hlabel (by decide)
  rw [htree] at hread
  exact textOrTree_eq_ok hread

end Channel.Draft

namespace Editor.Form

variable {f g : Form} {p : Payload}

/-! ### The record of a form -/

theorem exists_storedText_iff {v : Json} : (∃ s, storedText v = .ok s) ↔ v.IsStorable := by
  rw [← JsonField.exists_store_iff]
  unfold storedText
  cases JsonField.store v <;> simp

/-- A form has no problem if it has a name, a key, at least one model, and JSON where JSON belongs.
Name and key are asked for in a form for a new channel alone. -/
theorem problem?_eq_none_iff :
    f.problem? = none ↔
      (f.isEdit = false → f.draft.name ≠ "" ∧ f.pool.raw ≠ "") ∧ f.models.models ≠ [] ∧
      (∀ field, JsonField.accepts (f.draft.jsonValue field) = true) ∧
      ∀ s, f.draft.other = .str s → f.profile.otherIsJson s = true →
        JsonField.isValid s = true := by
  have hfill : (!f.isEdit && (f.draft.name.isEmpty || f.pool.raw.isEmpty)) = false ↔
      (f.isEdit = false → f.draft.name ≠ "" ∧ f.pool.raw ≠ "") := by
    cases f.isEdit <;> simp
  have hjson : JsonField.firstInvalid? f.draft.jsonValue = none ↔
      ∀ field, JsonField.accepts (f.draft.jsonValue field) = true := by
    unfold JsonField.firstInvalid?
    rw [List.find?_eq_none]
    constructor
    · intro h field
      simpa using h field (by cases field <;> decide)
    · intro h field _
      simp [h field]
  have hmodels : f.models.models.isEmpty = false ↔ f.models.models ≠ [] := by simp
  -- the problems are looked for in this order, and the first one found is told
  unfold problem?
  rw [← hfill, ← hjson, ← hmodels]
  split
  · simp_all
  split
  · simp_all
  split
  · simp_all
  · split
    · simp_all
    · simp_all

/-- What a record has that can be wrong with it: the name, the keys, the models, and the fields that
may have values in the place of texts. -/
structure HasRecord (f : Form) (p : Payload) : Prop where
  name : p.name = f.draft.name
  key : p.key = f.pool.raw
  models : f.modelText = .ok p.models
  other : storedText f.otherValue = .ok p.other
  json : ∀ field, storedText (f.draft.jsonValue field) = .ok (p.jsonText field)

theorem hasRecord_of_payload (h : f.payload = .ok p) : f.HasRecord p := by
  unfold payload at h
  split at h
  · simp at h
  obtain ⟨other, hother, h⟩ := bind_eq_ok h
  obtain ⟨models, hmodels, h⟩ := bind_eq_ok h
  obtain ⟨modelMapping, hmapping, h⟩ := bind_eq_ok h
  obtain ⟨statusCodeMapping, hcodes, h⟩ := bind_eq_ok h
  obtain ⟨setting, hsetting, h⟩ := bind_eq_ok h
  obtain ⟨paramOverride, hoverride, h⟩ := bind_eq_ok h
  obtain rfl := Except.ok.inj h
  refine ⟨rfl, rfl, hmodels, hother, fun field => ?_⟩
  cases field with
  | modelMapping => exact hmapping
  | setting => exact hsetting
  | paramOverride => exact hoverride
  | statusCodeMapping => exact hcodes

/-- Whether a form can be sent: its models are named by texts, and the values in the place of texts
can be stored. -/
structure IsSendable (f : Form) : Prop where
  models : f.models.models.all Model.Name.isText = true
  trees : ∀ v ∈ f.draft.trees, v.IsStorable

theorem exists_modelText_iff :
    (∃ s, f.modelText = .ok s) ↔ f.models.models.all Model.Name.isText = true := by
  unfold modelText
  split
  · rename_i h
    exact iff_of_true ⟨_, rfl⟩ h
  · rename_i h
    exact iff_of_false (by simp) h

/-- The additional field is stored whether or not it takes the default of the type. -/
theorem isStorable_otherValue_iff : f.otherValue.IsStorable ↔ f.draft.other.IsStorable := by
  unfold otherValue
  split
  · rename_i s hs
    rw [hs]
    exact iff_of_true (.inl ⟨_, rfl⟩) (.inl ⟨s, rfl⟩)
  · exact Iff.rfl

/-- A form with a list of models stands for a record exactly if it can be sent. -/
theorem exists_payload_iff (hf : f.mangled? = none) : (∃ p, f.payload = .ok p) ↔ f.IsSendable := by
  constructor
  · rintro ⟨p, hp⟩
    have hrecord := hasRecord_of_payload hp
    refine ⟨exists_modelText_iff.1 ⟨_, hrecord.models⟩, fun v hv => ?_⟩
    rcases Draft.mem_trees.1 hv with rfl | ⟨field, rfl⟩
    · exact isStorable_otherValue_iff.1 (exists_storedText_iff.1 ⟨_, hrecord.other⟩)
    · exact exists_storedText_iff.1 ⟨_, hrecord.json field⟩
  · intro h
    have hjson : ∀ field, ∃ s, storedText (f.draft.jsonValue field) = .ok s := fun field =>
      exists_storedText_iff.2 (h.trees _ (Draft.mem_trees.2 (.inr ⟨field, rfl⟩)))
    obtain ⟨other, hother⟩ := exists_storedText_iff.2
      (isStorable_otherValue_iff.2 (h.trees _ (Draft.mem_trees.2 (.inl rfl))))
    obtain ⟨models, hmodels⟩ := exists_modelText_iff.2 h.models
    obtain ⟨mapping, hmapping⟩ := hjson .modelMapping
    obtain ⟨codes, hcodes⟩ := hjson .statusCodeMapping
    obtain ⟨setting, hsetting⟩ := hjson .setting
    obtain ⟨override, hoverride⟩ := hjson .paramOverride
    simp only [Draft.jsonValue] at hmapping hcodes hsetting hoverride
    unfold payload
    simp only [hf, Option.isSome_none, Bool.false_eq_true, if_false, hother, hmodels, hmapping,
      hcodes, hsetting, hoverride]
    exact ⟨_, rfl⟩

/-! ### Answers -/

/-- Whether saving a form gives an answer: at once, or whenever its call is answered or refused,
whatever moves the form has made until then. -/
def AnswersSubmit (f : Form) : Prop :=
  match f.start .submit with
  | (_, .done result) => ∃ success n, result = .ok (.submitted success n)
  | (g, .waiting _ w) =>
    ∀ moves reply, ((∃ e, reply = .envelope e) ∨ ∃ r, reply = .refused r) →
      ∃ success n, ((g.afterAll moves).resume w reply).2 = .answer (.submitted success n)

theorem answersSubmit_of_answer {success : Bool} {n : Notice}
    (h : f.startSubmit = (g, .answer (.submitted success n))) : f.AnswersSubmit := by
  have hstart : f.start .submit = (g, .done (.ok (.submitted success n))) := h
  rw [AnswersSubmit, hstart]
  exact ⟨success, n, rfl⟩

theorem not_answersSubmit_of_fail {fault : Fault} (h : f.startSubmit = (g, .fail fault)) :
    ¬ f.AnswersSubmit := by
  have hstart : f.start .submit = (g, .done (.error fault)) := h
  rw [AnswersSubmit, hstart]
  rintro ⟨success, n, hresult⟩
  cases hresult

/-- Once a call is made, any answer to it is passed on. -/
theorem answersSubmit_of_waiting {call : Call} (h : f.startSubmit = (g, .waiting call .save)) :
    f.AnswersSubmit := by
  have hstart : f.start .submit = (g, .waiting call .save) := h
  rw [AnswersSubmit, hstart]
  intro moves reply hreply
  rcases resume_save_cases (g.afterAll moves) hreply with ⟨-, hdone⟩ | ⟨-, n, -, hdone⟩
  · rw [hdone]
    exact ⟨_, _, rfl⟩
  · rw [hdone]
    exact ⟨_, _, rfl⟩

/-- Saving a form that can come about gives an answer exactly if there is a problem to be told or
the form can be sent. Otherwise it ends in a fault, which leaves everything but the view of the
keys. -/
theorem answersSubmit_iff_of_reachable (hf : f.mangled? = none) :
    (f.AnswersSubmit ↔ (f.validate.2 = none → f.IsSendable)) ∧
    (¬ f.AnswersSubmit → f.start .submit = (f.settled, .fail .wrongKind)) := by
  rcases startSubmit_cases hf with ⟨n, hproblem, hstart⟩ | ⟨hvalid, hpayload, hstart⟩ |
    ⟨hvalid, p, hp, hstart⟩
  · have hanswers := answersSubmit_of_answer hstart
    refine ⟨iff_of_true hanswers fun hnone => ?_, fun hnot => absurd hanswers hnot⟩
    rw [hproblem] at hnone
    cases hnone
  · refine ⟨iff_of_false (not_answersSubmit_of_fail hstart) fun hsend => ?_, fun _ => hstart⟩
    obtain ⟨p, hp⟩ := (exists_payload_iff hf).2 (hsend hvalid)
    rw [hpayload] at hp
    cases hp
  · have hanswers := answersSubmit_of_waiting hstart
    have hsend := (exists_payload_iff hf).1 ⟨p, hp⟩
    exact ⟨iff_of_true hanswers fun _ => hsend, fun hnot => absurd hanswers hnot⟩

end Editor.Form

/-! ### What moves bring in -/

namespace Editor.Move

/-- The values that a move puts in the place of texts. -/
def trees : Move → List Json
  | .begin (.setField name v) => if name ∈ Draft.treeNames then [v] else []
  | _ => []

/-- Whether a move brings nothing that cannot be sent: names of models are texts, and what it puts
in the place of texts can be stored. -/
structure BringsSendable (m : Move) : Prop where
  names : ∀ n ∈ m.names, n.isText = true
  trees : ∀ v ∈ m.trees, v.IsStorable

end Editor.Move

namespace Editor.Form

variable {f g : Form} {p : Payload}

/-- Setting a field puts the value in the place of a text, or leaves these alone. -/
theorem mem_trees_assign {d d' : Draft} {field : Draft.Field} {v w : Json}
    (hassign : d.assign field v = .ok d') (hw : w ∈ d'.trees) :
    w ∈ d.trees ∨ field.label ∈ Draft.treeNames ∧ w = v := by
  obtain ⟨field', hlabel, rfl⟩ := Draft.mem_trees_iff_value.1 hw
  by_cases hfield : field' = field
  · subst hfield
    exact .inr ⟨hlabel, Draft.value_eq_of_assign hlabel hassign⟩
  · have hkept := Draft.value_of_assign hassign hfield
    exact .inl (Draft.mem_trees_iff_value.2 ⟨field', hlabel, hkept.symm⟩)

theorem eq_str_of_mem_trees_new {v : Json} (h : v ∈ ({} : Draft).trees) : ∃ s, v = .str s := by
  rcases Draft.mem_trees.1 h with rfl | ⟨field, rfl⟩
  · exact ⟨"", rfl⟩
  · exact ⟨"", by cases field <;> rfl⟩

/-! ### Moves that leave the fields alone -/

/-- Whether the number, the plain fields and the keys are as they were. -/
structure SameFields (f g : Form) : Prop where
  channelId? : g.channelId? = f.channelId?
  draft : g.draft = f.draft
  pool : g.pool = f.pool

theorem sameFields_addCustom (f : Form) (text : Text) :
    f.SameFields (f.addCustom text).1 := by
  unfold addCustom
  split
  · exact ⟨rfl, rfl, rfl⟩
  split
  · exact ⟨rfl, rfl, rfl⟩
  · simp only
    split <;> exact ⟨rfl, rfl, rfl⟩

theorem sameFields_startFetch (f : Form) : f.SameFields f.startFetch.1 := by
  unfold startFetch
  split <;> exact ⟨rfl, rfl, rfl⟩

theorem sameFields_startSelector (f : Form) : f.SameFields f.startSelector.1 := by
  unfold startSelector
  simp only
  split <;> exact ⟨rfl, rfl, rfl⟩

theorem sameFields_finishSelector (f : Form) (names : List Model.Name) :
    f.SameFields (f.finishSelector names).1 := by
  unfold finishSelector
  split <;> exact ⟨rfl, rfl, rfl⟩

theorem sameFields_finishFetch (f : Form) (pending : Model.Resolver.Pending)
    (names : List Model.Name) : f.SameFields (f.finishFetch pending names).1 := by
  unfold finishFetch
  simp only
  split
  · exact ⟨rfl, rfl, rfl⟩
  split
  · exact ⟨rfl, rfl, rfl⟩
  · split <;> exact ⟨rfl, rfl, rfl⟩

theorem sameFields_pick (f : Form) (event : Model.Selector.Event) :
    f.SameFields (f.start (.pick event)).1 := by
  unfold start
  simp only
  split
  · split <;> exact ⟨rfl, rfl, rfl⟩
  · exact ⟨rfl, rfl, rfl⟩

theorem sameFields_applySelector (f : Form) : f.SameFields f.applySelector := by
  unfold applySelector
  split <;> exact ⟨rfl, rfl, rfl⟩

theorem sameFields_validate (f : Form) : f.SameFields f.validate.1 := by
  unfold validate
  split <;> exact ⟨rfl, rfl, rfl⟩

theorem sameFields_buildPayload (f : Form) : f.SameFields (f.start .buildPayload).1 := by
  unfold start
  simp only
  split <;> exact ⟨rfl, rfl, rfl⟩

theorem sameFields_startChannel (f : Form) : f.SameFields f.startChannel.1 := by
  unfold startChannel
  split <;> exact ⟨rfl, rfl, rfl⟩

theorem fields_startSubmit (f : Form) :
    f.startSubmit.1.channelId? = f.channelId? ∧ f.startSubmit.1.draft = f.draft := by
  unfold startSubmit
  simp only
  split
  · exact ⟨rfl, rfl⟩
  · split <;> exact ⟨rfl, rfl⟩

/-! ### What a move makes of the plain fields -/

/-- What a move makes of the plain fields: they stay as they are, the type becomes another one, one
of them is set or filled with its example, those of a record take their place, or they are
emptied. -/
inductive DraftStep (d : Draft) : Move → Draft → Prop where
  | same (m : Move) : DraftStep d m d
  | retyped (m : Move) (channelType : Int) : DraftStep d m { d with channelType }
  | set {name : Text} {field : Draft.Field} {v : Json} {d' : Draft}
      (hfield : Draft.Field.ofName? name = some field) (hassign : d.assign field v = .ok d') :
      DraftStep d (.begin (.setField name v)) d'
  | filled {name text : Text} {field : Draft.Field} {d' : Draft}
      (htemplate : JsonField.template? name = some text)
      (hfield : Draft.Field.ofName? name = some field)
      (hassign : d.assign field (.str text) = .ok d') :
      DraftStep d (.begin (.fillTemplate name)) d'
  | loaded (opening : Bool) (e : Envelope) (p : Payload) :
      DraftStep d (.reply (.channel opening) (.envelope e)) (takenOver p)
  | emptied (m : Move) : DraftStep d m {}

/-- Whether a form has the number that another one had before a move, and the plain fields that the
move can make of the ones before. -/
structure FieldsFollow (f : Form) (m : Move) (g : Form) : Prop where
  channelId? : g.channelId? = f.channelId?
  draft : DraftStep f.draft m g.draft

theorem FieldsFollow.refl (f : Form) (m : Move) : f.FieldsFollow m f := ⟨rfl, .same m⟩

theorem SameFields.follow (h : f.SameFields g) (m : Move) : f.FieldsFollow m g :=
  ⟨h.channelId?, h.draft ▸ .same m⟩

theorem fieldsFollow_changeType (m : Move) (channelType : Int) :
    f.FieldsFollow m (f.changeType channelType).1 := by
  unfold changeType
  simp only
  split
  · exact ⟨rfl, .retyped m channelType⟩
  · exact ⟨rfl, .retyped m channelType⟩

theorem fieldsFollow_setField (name : Text) (v : Json) :
    f.FieldsFollow (.begin (.setField name v)) (f.setField name v).1 := by
  have hsets := f.sets_setField name v
  generalize f.setField name v = r at hsets ⊢
  cases hsets with
  | refused => exact .refl f _
  | type => exact fieldsFollow_changeType _ _
  | models => exact ⟨rfl, .same _⟩
  | address hassign => exact ⟨rfl, .set rfl hassign⟩
  | plain htype hfield hassign => exact ⟨rfl, .set (Draft.Field.ofName?_label _) hassign⟩

theorem fieldsFollow_fillTemplate (name : Text) :
    f.FieldsFollow (.begin (.fillTemplate name)) (f.fillTemplate name).1 := by
  have hfills := f.fills_fillTemplate name
  generalize f.fillTemplate name = r at hfills ⊢
  cases hfills with
  | refused => exact .refl f _
  | filled htemplate hfield hassign => exact ⟨rfl, .filled htemplate hfield hassign⟩

theorem fieldsFollow_takeOver (opening : Bool) (e : Envelope) :
    f.FieldsFollow (.reply (.channel opening) (.envelope e)) (f.takeOver opening e).1 := by
  have htakes := f.takesOver_takeOver opening e
  generalize f.takeOver opening e = r at htakes ⊢
  cases htakes with
  | loaded => exact ⟨rfl, .loaded opening e _⟩
  | refused | malformed | unloadable => exact ⟨rfl, .same _⟩

theorem fieldsFollow_saved (m : Move) : f.FieldsFollow m f.saved := by
  unfold saved
  by_cases hedit : f.isEdit = true
  · simp only [hedit, if_true]
    exact ⟨rfl, .same m⟩
  · simp only [hedit]
    exact ⟨rfl, .emptied m⟩

theorem fieldsFollow_start (f : Form) (op : Op) : f.FieldsFollow (.begin op) (f.start op).1 := by
  cases op with
  | setField name value =>
    rw [start, fst_resultOf]
    exact fieldsFollow_setField name value
  | changeType channelType => exact fieldsFollow_changeType _ channelType
  | fillTemplate field =>
    rw [start, fst_resultOf]
    exact fieldsFollow_fillTemplate field
  | addCustom text =>
    rw [start, fst_resultOf]
    exact (sameFields_addCustom f text).follow _
  | reset => exact ⟨rfl, .emptied _⟩
  | fetchModels => exact (sameFields_startFetch f).follow _
  | openSelector => exact (sameFields_startSelector f).follow _
  | applySelector => exact (sameFields_applySelector f).follow _
  | submit =>
    obtain ⟨hid, hdraft⟩ := fields_startSubmit f
    exact ⟨hid, hdraft ▸ .same _⟩
  | pick event => exact (sameFields_pick f event).follow _
  | validate => exact (sameFields_validate f).follow _
  | buildPayload => exact (sameFields_buildPayload f).follow _
  | _ => exact ⟨rfl, .same _⟩

theorem fieldsFollow_resume (f : Form) (w : Waiting) (reply : Reply) :
    f.FieldsFollow (.reply w reply) (f.resume w reply).1 := by
  cases w with
  | groups =>
    cases reply with
    | names xs =>
      have hsame := sameFields_startChannel { f with groupOptions := xs }
      exact ⟨hsame.channelId?, hsame.draft ▸ .same _⟩
    | refused r =>
      have hsame := sameFields_startChannel (f.notify { level := .error, message := r.words })
      exact ⟨hsame.channelId?, hsame.draft ▸ .same _⟩
    | _ => exact .refl f _
  | channel opening =>
    cases reply with
    | envelope e => exact fieldsFollow_takeOver opening e
    | _ => exact ⟨rfl, .same _⟩
  | fetch pending =>
    cases reply with
    | models xs => exact (sameFields_finishFetch f pending xs).follow _
    | _ => exact ⟨rfl, .same _⟩
  | selection =>
    cases reply with
    | models xs => exact (sameFields_finishSelector f xs).follow _
    | _ => exact ⟨rfl, .same _⟩
  | save =>
    cases reply with
    | envelope e =>
      show f.FieldsFollow _ (f.finishSubmit e).1
      unfold finishSubmit
      split
      · exact fieldsFollow_saved _
      · exact ⟨rfl, .same _⟩
    | _ => exact ⟨rfl, .same _⟩
  | catalog => cases reply <;> exact ⟨rfl, .same _⟩

theorem fieldsFollow_after (f : Form) (m : Move) : f.FieldsFollow m (f.after m) := by
  cases m with
  | begin op => exact fieldsFollow_start f op
  | reply w reply => exact fieldsFollow_resume f w reply

/-- A move puts no values in the place of texts but those that it brings, and texts. -/
theorem DraftStep.trees {d d' : Draft} {m : Move} (h : DraftStep d m d') {v : Json}
    (hv : v ∈ d'.trees) : v ∈ d.trees ∨ v ∈ m.trees ∨ ∃ s, v = .str s := by
  cases h with
  | same => exact .inl hv
  | retyped => exact .inl hv
  | set hfield hassign =>
    rcases mem_trees_assign hassign hv with hv | ⟨hname, rfl⟩
    · exact .inl hv
    · right
      left
      rw [label_of_ofName? hfield] at hname
      rw [Move.trees, if_pos hname]
      exact List.mem_singleton_self v
  | filled htemplate hfield hassign =>
    rcases mem_trees_assign hassign hv with hv | ⟨-, rfl⟩
    · exact .inl hv
    · exact .inr (.inr ⟨_, rfl⟩)
  | loaded opening e p =>
    right
    right
    rcases Draft.mem_trees.1 hv with rfl | ⟨field, rfl⟩
    · exact ⟨p.other, rfl⟩
    · exact ⟨p.laidOut field, jsonValue_takenOver p field⟩
  | emptied => exact .inr (.inr (eq_str_of_mem_trees_new hv))

theorem isStorable_trees_afterAll {moves : List Move} (hf : ∀ v ∈ f.draft.trees, v.IsStorable)
    (hmoves : ∀ m ∈ moves, ∀ v ∈ m.trees, v.IsStorable) :
    ∀ v ∈ (f.afterAll moves).draft.trees, v.IsStorable := by
  induction moves generalizing f with
  | nil => exact hf
  | cons m moves ih =>
    rw [List.forall_mem_cons] at hmoves
    apply ih _ hmoves.2
    intro v hv
    rcases (fieldsFollow_after f m).draft.trees hv with hv | hv | hs
    · exact hf v hv
    · exact hmoves.1 v hv
    · exact .inl hs

/-- No type has fixed names that are no texts. -/
theorem holdsOfFixed_isText : Model.Resolver.HoldsOfFixed fun n => n.isText = true :=
  fun _ _ _ _ _ => rfl

/-- If no move brings what cannot be sent, the form can be sent. -/
theorem isSendable_afterAll (channelId? : Option Int) (announces : Bool) {moves : List Move}
    (hmoves : ∀ m ∈ moves, m.BringsSendable) :
    (({ channelId?, announces } : Form).afterAll moves).IsSendable := by
  have hnew : ∀ v ∈ ({ channelId?, announces } : Form).draft.trees, v.IsStorable :=
    fun _ hv => .inl (eq_str_of_mem_trees_new hv)
  have hholds := (holds_new (Q := fun _ => True) holdsOfFixed_isText trivial channelId?
    announces).afterAll holdsOfFixed_isText trivial
      fun m hm => ⟨(hmoves m hm).names, fun _ _ => trivial⟩
  exact ⟨List.all_eq_true.2 hholds.models.models,
    isStorable_trees_afterAll hnew fun m hm => (hmoves m hm).trees⟩

/-! ### Main statement -/

/-- In every form that moves lead to, saving gives an answer exactly if there is a problem to be
told or the form can be sent; otherwise it ends in a fault, which leaves everything but the view of
the keys. The form can be sent if no move has brought what cannot be. -/
theorem answersSubmit_afterAll (channelId? : Option Int) (announces : Bool) (moves : List Move) :
    let f := ({ channelId?, announces } : Form).afterAll moves
    (f.AnswersSubmit ↔ (f.validate.2 = none → f.IsSendable)) ∧
    (¬ f.AnswersSubmit → f.start .submit = (f.settled, .fail .wrongKind)) ∧
    ((∀ m ∈ moves, m.BringsSendable) → f.IsSendable) := by
  intro f
  have hreach : f.Reachable := ⟨channelId?, announces, moves, rfl⟩
  obtain ⟨hanswers, hfails⟩ := answersSubmit_iff_of_reachable hreach.consistent.isList
  exact ⟨hanswers, hfails, isSendable_afterAll channelId? announces⟩

/-- A limit that is too large for a machine word is no problem that is told, and the channel cannot
be sent. -/
theorem answersSubmit_limit :
    let f := ({ channelId? := some 7 } : Form).afterAll
      [.begin (.setField "models" (.str "gpt-4o")),
        .begin (.setField "setting" (.obj [("limit", .int (2 ^ 64))]))]
    f.validate.2 = none ∧ f.start .submit = (f, .fail .wrongKind) ∧ ¬ f.AnswersSubmit := by
  intro f
  have hstart : f.startSubmit = (f, .fail .wrongKind) := rfl
  exact ⟨rfl, hstart, not_answersSubmit_of_fail hstart⟩

end Editor.Form

end ChannelConsole
