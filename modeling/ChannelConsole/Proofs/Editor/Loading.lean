import ChannelConsole.Proofs.Channel.Payload
import ChannelConsole.Proofs.Editor.Selection
import ChannelConsole.Proofs.Editor.Selector

/-!
# Loading a channel

A form that is sent a value which is no record takes over nothing of it, but it does not say so
either: loading fails with the issues of the value, exactly for such values
(`Form.amid_load_of_success`).

A form that is sent a record becomes what a new form would have become, whatever it was before
(`Form.opens_forgets`), with one exception: the diagnostics of stored texts that are no JSON are
added to those of all records that were sent before (`Form.diagnostics_afterAll`), so they are those
of the record that has been taken over alone exactly if no record before had any.
-/

namespace ChannelConsole

open Editor Channel Backend

/-! ### Values that are no records -/

namespace Editor.Form

variable {f : Form} {e : Envelope}

theorem takeOver_of_not_isRecord (f : Form) (opening : Bool) (hsuccess : e.success = true)
    (h : ¬ Payload.IsRecord e.data) :
    ∃ issues, f.takeOver opening e = (f, .fail (.invalid .channel issues)) := by
  obtain ⟨issues, hissues⟩ := Payload.exists_issues_iff.2 h
  refine ⟨issues, ?_⟩
  unfold takeOver
  simp only [hsuccess, if_true, hissues]

theorem takeOver_of_isRecord (f : Form) (opening : Bool) (h : Payload.IsRecord e.data)
    (issues : List Schema.Issue) :
    (f.takeOver opening e).2 ≠ .fail (.invalid .channel issues) := by
  obtain ⟨p, hp⟩ := Payload.exists_check_iff.2 h
  have htakes := f.takesOver_takeOver opening e
  generalize f.takeOver opening e = r at htakes ⊢
  cases htakes with
  | malformed hcheck =>
    rw [hp] at hcheck
    cases hcheck
  | refused | unloadable | loaded => simp [loadRefused, Progress.fail, Progress.answer]

/-- What comes of loading a channel when other things happen while it is asked for, and the reply
brings a value. Loading fails with the issues of the value exactly if it is no record, and then the
form is as the moves left it. -/
theorem amid_load_of_success (f : Form) (moves : List Move) (hsuccess : e.success = true) :
    ((∃ issues, (f.amid .load moves (.envelope e)).2 = .fail (.invalid .channel issues)) ↔
      ¬ Payload.IsRecord e.data) ∧
    (¬ Payload.IsRecord e.data → (f.amid .load moves (.envelope e)).1 = f.afterAll moves) := by
  have hamid : f.amid .load moves (.envelope e) = (f.afterAll moves).takeOver false e := rfl
  rw [hamid]
  refine ⟨⟨?_, fun h => ?_⟩, fun h => ?_⟩
  · rintro ⟨issues, hfail⟩ hrecord
    exact takeOver_of_isRecord _ false hrecord issues hfail
  · obtain ⟨issues, htake⟩ := takeOver_of_not_isRecord (f.afterAll moves) false hsuccess h
    exact ⟨issues, congrArg Prod.snd htake⟩
  · obtain ⟨issues, htake⟩ := takeOver_of_not_isRecord (f.afterAll moves) false hsuccess h
    exact congrArg Prod.fst htake

/-- Null is no record. -/
theorem amid_load_of_success_null :
    (Envelope.succeed .null).success = true ∧ ¬ Payload.IsRecord .null ∧
    (∃ issues, (({ channelId? := some 7 } : Form).amid .load []
      (.envelope (.succeed .null))).2 = .fail (.invalid .channel issues)) ∧
    (({ channelId? := some 7 } : Form).amid .load [] (.envelope (.succeed .null))).1 =
      { channelId? := some 7 } := by
  have hnull := Payload.not_isRecord_null
  obtain ⟨hiff, hkeeps⟩ :=
    amid_load_of_success ({ channelId? := some 7 } : Form) [] (e := .succeed .null) rfl
  exact ⟨rfl, hnull, hiff.2 hnull, hkeeps hnull⟩

/-- It is not said that the channel could not be loaded, as it is when the reply is a refusal. -/
theorem amid_load_null :
    ({ channelId? := some 7 } : Form).isEdit = true ∧ ¬ Payload.IsRecord .null ∧
    (({ channelId? := some 7 } : Form).amid .load [] (.envelope (.succeed .null))).2 ≠
      .answer (.flag false) ∧
    (({ channelId? := some 7 } : Form).amid .load [] (.envelope (.succeed .null))).1.notices = [] ∧
    (({ channelId? := some 7 } : Form).amid .load [] (.envelope { success := false })) =
      (({ channelId? := some 7 } : Form).notify
        { level := .error, message := "Channel 7 could not be loaded" },
        .answer (.flag false)) := by
  have hfail : (({ channelId? := some 7 } : Form).amid .load []
      (.envelope (.succeed .null))).2 =
        .fail (.invalid .channel [{ kind := .recordExpected }]) := rfl
  refine ⟨rfl, Payload.not_isRecord_null, ?_, rfl, rfl⟩
  rw [hfail]
  simp [Progress.fail, Progress.answer]

end Editor.Form

/-! ### Diagnostics -/

namespace Channel.Payload

/-- Whether a JSON field of a record can be made ready for editing. -/
def loads (p : Payload) (field : JsonField) : Bool :=
  (JsonField.load field.name (p.jsonText field)).isOk

/-- The diagnostics of a record: one for each JSON field that holds no JSON, up to the first field
that cannot be made ready for editing. -/
def diagnoses (p : Payload) : List Text :=
  ((JsonField.all.takeWhile p.loads).filter fun field =>
    !JsonField.isValid (p.jsonText field)).map fun field => JsonField.diagnosis field.name

end Channel.Payload

/-- The diagnostics that a move brings. -/
def Editor.Move.diagnoses : Move → List Text
  | .reply (.channel _) (.envelope e) =>
    match Move.record? e with
    | some p => p.diagnoses
    | none => []
  | _ => []

theorem JsonField.diagnostic?_of_load {field value : Text} {l : JsonField.Loaded}
    (h : JsonField.load field value = .ok l) :
    l.diagnostic? = if JsonField.isValid value then none else some (JsonField.diagnosis field) := by
  unfold JsonField.isValid
  rcases JsonField.load_cases h with ⟨rfl, -, hnone⟩ | ⟨hne, hv, -, hsome⟩ | ⟨v, hv, -, hnone⟩
  · exact hnone
  · simp [hne, hv, hsome]
  · simp [hv, hnone]

namespace Editor.Form

variable {f g : Form} {p : Payload} {moves : List Move}

theorem diagnostics_loadFields (p : Payload) (fields : List JsonField) :
    (loadFields p fields).1 = ((fields.takeWhile p.loads).filter fun field =>
      !JsonField.isValid (p.jsonText field)).map fun field => JsonField.diagnosis field.name := by
  induction fields with
  | nil => rfl
  | cons field fields ih =>
    unfold loadFields
    cases hload : JsonField.load field.name (p.jsonText field) with
    | error fault =>
      have hloads : p.loads field = false := by rw [Payload.loads, hload]; rfl
      simp [hloads]
    | ok l =>
      have hloads : p.loads field = true := by rw [Payload.loads, hload]; rfl
      have hdiagnostic := JsonField.diagnostic?_of_load hload
      rw [List.takeWhile_cons_of_pos hloads, List.filter_cons]
      cases hvalid : JsonField.isValid (p.jsonText field) with
      | true => simp [hdiagnostic, hvalid, ih]
      | false => simp [hdiagnostic, hvalid, ih]

theorem diagnostics_hydrate (f : Form) (p : Payload) :
    (f.hydrate p).1.diagnostics = f.diagnostics ++ p.diagnoses := by
  have hfields : (loadFields p JsonField.all).1 = p.diagnoses := diagnostics_loadFields p _
  unfold hydrate
  rw [← hfields]
  cases loadFields p JsonField.all with
  | mk diagnostics values? => cases values? <;> rfl

theorem diagnostics_takeOver (f : Form) (opening : Bool) (e : Envelope) :
    (f.takeOver opening e).1.diagnostics =
      f.diagnostics ++ Move.diagnoses (.reply (.channel opening) (.envelope e)) := by
  unfold takeOver Move.diagnoses Move.record?
  by_cases hsuccess : e.success = true
  · simp only [hsuccess, if_true]
    cases hp : Payload.check e.data with
    | error issues => exact (List.append_nil _).symm
    | ok p =>
      have hh := diagnostics_hydrate f p
      simp only
      generalize f.hydrate p = r at hh ⊢
      obtain ⟨g, fault | _⟩ := r <;> exact hh
  · simp only [hsuccess]
    exact (List.append_nil _).symm

theorem diagnostics_changeType (f : Form) (code : Int) :
    (f.changeType code).1.diagnostics = f.diagnostics := by
  unfold changeType
  simp only
  split <;> rfl

theorem diagnostics_setField (f : Form) (name : Text) (v : Json) :
    (f.setField name v).1.diagnostics = f.diagnostics := by
  have hsets := f.sets_setField name v
  generalize f.setField name v = r at hsets ⊢
  cases hsets with
  | type => exact diagnostics_changeType f _
  | refused | models | address | plain => rfl

theorem diagnostics_fillTemplate (f : Form) (name : Text) :
    (f.fillTemplate name).1.diagnostics = f.diagnostics := by
  have hfills := f.fills_fillTemplate name
  generalize f.fillTemplate name = r at hfills ⊢
  cases hfills with
  | refused | filled => rfl

theorem diagnostics_addCustom (f : Form) (text : Text) :
    (f.addCustom text).1.diagnostics = f.diagnostics := by
  unfold addCustom
  split
  · rfl
  split
  · rfl
  · simp only
    split <;> rfl

theorem diagnostics_startChannel (f : Form) : f.startChannel.1.diagnostics = f.diagnostics := by
  unfold startChannel
  split <;> rfl

theorem diagnostics_startSubmit (f : Form) : f.startSubmit.1.diagnostics = f.diagnostics := by
  unfold startSubmit
  simp only
  split
  · rfl
  · split <;> rfl

theorem diagnostics_finishFetch (f : Form) (pending : Model.Resolver.Pending)
    (names : List Model.Name) : (f.finishFetch pending names).1.diagnostics = f.diagnostics := by
  unfold finishFetch
  simp only
  split
  · rfl
  split
  · rfl
  · split <;> rfl

theorem diagnostics_finishSubmit (f : Form) (e : Envelope) :
    (f.finishSubmit e).1.diagnostics = f.diagnostics := by
  unfold finishSubmit
  split
  · unfold saved
    cases f.isEdit <;> rfl
  · rfl

/-- No operation adds to the diagnostics or takes something from them when it begins. -/
theorem diagnostics_start (f : Form) (op : Op) : (f.start op).1.diagnostics = f.diagnostics := by
  cases op with
  | setField name v =>
    rw [start, fst_resultOf]
    exact diagnostics_setField f name v
  | fillTemplate field =>
    rw [start, fst_resultOf]
    exact diagnostics_fillTemplate f field
  | addCustom text =>
    rw [start, fst_resultOf]
    exact diagnostics_addCustom f text
  | changeType channelType => exact diagnostics_changeType f channelType
  | submit => exact diagnostics_startSubmit f
  | fetchModels =>
    show f.startFetch.1.diagnostics = _
    unfold startFetch
    split <;> rfl
  | openSelector =>
    show f.startSelector.1.diagnostics = _
    unfold startSelector
    simp only
    split <;> rfl
  | pick event =>
    unfold start
    simp only
    split
    · split <;> rfl
    · rfl
  | applySelector =>
    show f.applySelector.diagnostics = _
    unfold applySelector
    split <;> rfl
  | validate =>
    show f.validate.1.diagnostics = _
    unfold validate
    split <;> rfl
  | buildPayload =>
    unfold start
    simp only
    split <;> rfl
  | _ => rfl

/-- Only the reply to the call for a stored channel adds to the diagnostics. -/
theorem diagnostics_resume (f : Form) (w : Waiting) (reply : Reply) :
    (f.resume w reply).1.diagnostics = f.diagnostics ++ Move.diagnoses (.reply w reply) := by
  have hsame : ∀ {g : Form}, g.diagnostics = f.diagnostics → g.diagnostics = f.diagnostics ++ [] :=
    fun h => h.trans (List.append_nil _).symm
  cases w with
  | channel opening =>
    cases reply with
    | envelope e => exact diagnostics_takeOver f opening e
    | _ => exact hsame rfl
  | groups =>
    cases reply with
    | names xs => exact hsame (diagnostics_startChannel { f with groupOptions := xs })
    | refused r => exact hsame (diagnostics_startChannel (f.notify _))
    | _ => exact hsame rfl
  | fetch pending =>
    cases reply with
    | models xs => exact hsame (diagnostics_finishFetch f pending xs)
    | _ => exact hsame rfl
  | selection =>
    cases reply with
    | models xs =>
      refine hsame ?_
      show (f.finishSelector xs).1.diagnostics = _
      unfold finishSelector
      split <;> rfl
    | _ => exact hsame rfl
  | save =>
    cases reply with
    | envelope e => exact hsame (diagnostics_finishSubmit f e)
    | _ => exact hsame rfl
  | catalog => cases reply <;> exact hsame rfl

/-- A move adds to the diagnostics what it brings. -/
theorem diagnostics_after (f : Form) (m : Move) :
    (f.after m).diagnostics = f.diagnostics ++ m.diagnoses := by
  cases m with
  | begin op => exact (diagnostics_start f op).trans (List.append_nil _).symm
  | reply w reply => exact diagnostics_resume f w reply

/-- The diagnostics of a form are those of all records that it was sent. -/
theorem diagnostics_afterAll (f : Form) (moves : List Move) :
    (f.afterAll moves).diagnostics = f.diagnostics ++ moves.flatMap Move.diagnoses := by
  induction moves generalizing f with
  | nil => exact (List.append_nil _).symm
  | cons m moves ih =>
    show ((f.after m).afterAll moves).diagnostics = _
    rw [ih, diagnostics_after, List.flatMap_cons, List.append_assoc]

/-! ### Taking over a record anew -/

theorem diagnostics_of_opens (h : f.Opens p g) : g.diagnostics = f.diagnostics ++ p.diagnoses := by
  have hhydrate := diagnostics_hydrate f p
  rwa [hydrate_of_opens h] at hhydrate

theorem draft_of_opens (h : f.Opens p g) : g.draft = takenOver p := by
  obtain ⟨diagnostics, rfl⟩ := eq_of_hydrate (hydrate_of_opens h)
  rfl

theorem pool_of_opens (h : f.Opens p g) : g.pool = .hydrate (some p.key) p.channelType := by
  obtain ⟨diagnostics, rfl⟩ := eq_of_hydrate (hydrate_of_opens h)
  rfl

theorem selected_of_opens (h : f.Opens p g) :
    g.selected = Model.Name.unique (Model.Name.ofTexts (Names.split p.models)) := by
  obtain ⟨diagnostics, rfl⟩ := eq_of_hydrate (hydrate_of_opens h)
  rfl

/-- A form that takes over a record has the plain fields, the keys and the models of a new form that
does the same, whatever has happened to it before. Its diagnostics are those of all records it was
ever sent. So they are those of the new form exactly if no record before had any. -/
theorem opens_forgets {channelId? : Option Int} {announces : Bool}
    (h : (({ channelId?, announces } : Form).afterAll moves).Opens p g) (announces' : Bool) :
    (∃ fresh, ({ channelId?, announces := announces' } : Form).Opens p fresh) ∧
    ∀ fresh, ({ channelId?, announces := announces' } : Form).Opens p fresh →
      g.draft = fresh.draft ∧ g.pool = fresh.pool ∧ g.selected = fresh.selected ∧
      fresh.diagnostics = p.diagnoses ∧
      g.diagnostics = moves.flatMap Move.diagnoses ++ fresh.diagnostics ∧
      (g.diagnostics = fresh.diagnostics ↔ ∀ m ∈ moves, m.diagnoses = []) := by
  have hload : p.IsLoadable := isLoadable_of_hydrate (hydrate_of_opens h)
  refine ⟨opens_of_isLoadable _ hload, fun fresh hfresh => ?_⟩
  have hnew : fresh.diagnostics = p.diagnoses := diagnostics_of_opens hfresh
  have hall : g.diagnostics = moves.flatMap Move.diagnoses ++ fresh.diagnostics := by
    rw [diagnostics_of_opens h, diagnostics_afterAll, hnew]
    rfl
  refine ⟨?_, ?_, ?_, hnew, hall, ?_⟩
  · rw [draft_of_opens h, draft_of_opens hfresh]
  · rw [pool_of_opens h, pool_of_opens hfresh]
  · rw [selected_of_opens h, selected_of_opens hfresh]
  · rw [hall, List.append_left_eq_self, List.flatMap_eq_nil_iff]

/-- What was typed is forgotten. -/
theorem opens_forgets_typed :
    ∃ g fresh, (({ channelId? := some 7 } : Form).afterAll
        [.begin (.setField "name" (.str "typed")), .begin (.addCustom "o1")]).Opens
          { name := "relay", key := "sk-a", models := "gpt-4o" } g ∧
      ({ channelId? := some 7 } : Form).Opens
        { name := "relay", key := "sk-a", models := "gpt-4o" } fresh ∧
      g.draft = fresh.draft ∧ g.pool = fresh.pool ∧ g.selected = fresh.selected ∧
      g.diagnostics = fresh.diagnostics := by
  have hload : Payload.IsLoadable { name := "relay", key := "sk-a", models := "gpt-4o" } := by
    intro field
    exact ⟨{ value := "" }, by cases field <;> rfl⟩
  obtain ⟨g, hopens⟩ := opens_of_isLoadable (({ channelId? := some 7 } : Form).afterAll
    [.begin (.setField "name" (.str "typed")), .begin (.addCustom "o1")]) hload
  obtain ⟨⟨fresh, hfresh⟩, hforgets⟩ := opens_forgets hopens true
  obtain ⟨hdraft, hpool, hselected, -, -, hiff⟩ := hforgets fresh hfresh
  refine ⟨g, fresh, hopens, hfresh, hdraft, hpool, hselected, hiff.2 ?_⟩
  simp [Move.diagnoses]

/-- It is still said that a stored text is no JSON when a record without it has been taken over. -/
theorem diagnostics_of_opens_corrected :
    ∃ g fresh, (({ channelId? := some 7 } : Form).afterAll [.reply (.channel false)
        (.envelope (.succeed ({ setting := "\x7b" } : Payload).toJson))]).Opens {} g ∧
      ({ channelId? := some 7 } : Form).Opens {} fresh ∧
      g.diagnostics = (["Stored setting is not valid JSON: "] : List Text) ∧
      fresh.diagnostics = [] := by
  have hload : Payload.IsLoadable {} := by
    intro field
    exact ⟨{ value := "" }, by cases field <;> rfl⟩
  obtain ⟨g, hopens⟩ := opens_of_isLoadable (({ channelId? := some 7 } : Form).afterAll
    [.reply (.channel false)
      (.envelope (.succeed ({ setting := "\x7b" } : Payload).toJson))]) hload
  obtain ⟨fresh, hfresh⟩ := opens_of_isLoadable { channelId? := some 7 } hload
  refine ⟨g, fresh, hopens, hfresh, ?_, ?_⟩
  · rw [diagnostics_of_opens hopens]
    rfl
  · rw [diagnostics_of_opens hfresh]
    rfl

end Editor.Form

end ChannelConsole
