import ChannelConsole.Proofs.Editor.Submitting

/-!
# Records that are approved and refused

An editor looks for problems before it sends a record, and a store looks at the record again. The
editor looks at a list of models, at values in the place of JSON, and at a pool of keys; the store
looks at texts. Both agree about the name, the key and the JSON (`isValid_jsonText`), but not about
the models: a name that is made of blanks and commas is one for the editor and none for the store.
So a record that the editor approves of is refused exactly if all of its models have such names
(`submit_of_approves`), which cannot be if no move has brought one.
-/

namespace ChannelConsole

open Channel Backend Store

/-! ### Names without a name in them -/

namespace Names

/-- Whether a name is made of blanks and commas, so that a list of names has none for it. -/
def IsHollow (s : Text) : Prop := ∀ c ∈ s.toList, Text.isBlank c = true ∨ (c == ',') = true

theorem split_eq_nil_iff {s : Text} : split s = [] ↔ IsHollow s := Text.items_eq_nil_iff

/-- Joined names are found to be none exactly if all of them are hollow. -/
theorem split_join_eq_nil_iff {xs : List Text} :
    split (Text.join xs) = [] ↔ ∀ x ∈ xs, IsHollow x := by
  rw [split_join, List.flatMap_eq_nil_iff]
  exact forall₂_congr fun _ _ => split_eq_nil_iff

end Names

namespace Editor.Form

variable {f : Form} {p : Payload} {s : Store}

/-- Whether an editor approves of saving a form as a record: it finds no problem, and the form
stands for the record. -/
structure Approves (f : Form) (p : Payload) : Prop where
  valid : f.validate.2 = none
  record : f.payload = .ok p

/-- Whether a store has the channel of a form, if the form is for a stored channel. -/
def HeldBy (f : Form) (s : Store) : Prop :=
  ∀ id, f.channelId? = some id → ∃ stored, s.find? id = some stored

/-! ### What both look for -/

/-- A record for a new channel has a name and a key. -/
theorem filled_of_approves (h : f.Approves p) (hedit : f.isEdit = false) :
    p.name ≠ "" ∧ p.key ≠ "" := by
  have hrecord := hasRecord_of_payload h.record
  have hfilled := (problem?_eq_none_iff.1 (validate_eq_none_iff.1 h.valid)).1 hedit
  rw [hrecord.name, hrecord.key]
  exact hfilled

/-- The JSON fields of a record are empty or JSON. -/
theorem isValid_jsonText (h : f.Approves p) (field : JsonField) :
    JsonField.isValid (p.jsonText field) = true := by
  have hrecord := hasRecord_of_payload h.record
  obtain ⟨-, -, haccepts, -⟩ := problem?_eq_none_iff.1 (validate_eq_none_iff.1 h.valid)
  have hstored := hrecord.json field
  unfold storedText at hstored
  cases hstore : JsonField.store (f.draft.jsonValue field) with
  | none =>
    rw [hstore] at hstored
    cases hstored
  | some text =>
    rw [hstore] at hstored
    rw [← Except.ok.inj hstored]
    exact JsonField.isValid_of_store (haccepts field) hstore

/-- A record names no model exactly if all selected models have hollow names. -/
theorem split_models_eq_nil_iff (hp : f.payload = .ok p) :
    Names.split p.models = [] ↔ ∀ x, .text x ∈ f.models.models → Names.IsHollow x := by
  obtain ⟨xs, hxs, hmodels, -⟩ := payload_eq_ok hp
  rw [hmodels, Names.split_join_eq_nil_iff, hxs]
  refine forall_congr' fun x => ?_
  rw [Model.Name.ofTexts, List.mem_map_of_injective fun _ _ => Model.Name.text.inj]

theorem isSound_of_approves (h : f.Approves p) (hmodels : Names.split p.models ≠ []) :
    IsSound p := ⟨hmodels, isValid_jsonText h⟩

/-! ### What the store says -/

/-- What a store says about a record that names no model. -/
def noModels : Text := "At least one model is required"

/-- A record that is approved of and names no model is refused for that reason. -/
theorem answer_saveCall_of_hollow (h : f.Approves p) (hnone : Names.split p.models = [])
    (s : Store) (link : Network.Link Provider.Request) :
    s.answer link (f.saveCall p) = (s, link, .envelope (.failure noModels)) := by
  have hcomplaint : complaint? p = some noModels := by
    rw [complaint?, hnone]
    rfl
  unfold saveCall
  split
  · rename_i hedit
    obtain ⟨id, hid⟩ := Option.isSome_iff_exists.1 hedit
    rw [← payload_id h.record] at hid
    simp only [answer, update, hid, hcomplaint]
    rfl
  · rename_i hedit
    obtain ⟨hname, hkey⟩ := filled_of_approves h (Bool.eq_false_of_not_eq_true hedit)
    simp only [answer, create, Text.isEmpty_eq_false_iff.2 hname,
      Text.isEmpty_eq_false_iff.2 hkey, hcomplaint]
    rfl

/-- A record that is approved of and names a model is saved, unless it cannot be stored. -/
theorem answer_saveCall_of_named (h : f.Approves p) (hmodels : Names.split p.models ≠ [])
    (hheld : f.HeldBy s) (link : Network.Link Provider.Request) :
    (∃ s' data, s.answer link (f.saveCall p) = (s', link, .envelope (.succeed data))) ∨
    ∃ fault, s.answer link (f.saveCall p) = (s, link, .fault fault) := by
  have hsound := isSound_of_approves h hmodels
  unfold saveCall
  split
  · rename_i hedit
    obtain ⟨id, hid⟩ := Option.isSome_iff_exists.1 hedit
    obtain ⟨stored, hstored⟩ := hheld id hid
    rw [← payload_id h.record] at hid
    simp only [answer]
    rcases update_cases s p with ⟨hbad, -⟩ | ⟨-, fault, -, hfault, -⟩ | ⟨_, _, -, -, -, -, hdone⟩
    · exact absurd ⟨hsound, id, stored, hid, hstored⟩ hbad
    · rw [hfault]
      exact .inr ⟨fault, rfl⟩
    · rw [hdone]
      exact .inl ⟨_, _, rfl⟩
  · rename_i hedit
    obtain ⟨hname, hkey⟩ := filled_of_approves h (Bool.eq_false_of_not_eq_true hedit)
    simp only [answer]
    rcases create_cases s p with ⟨hbad, -⟩ | ⟨fault, -, hfault⟩ | ⟨-, -, hdone⟩
    · exact absurd ⟨hname, hkey, hsound⟩ hbad
    · rw [hfault]
      exact .inr ⟨fault, rfl⟩
    · rw [hdone]
      exact .inl ⟨_, _, rfl⟩

/-! ### What saving comes to -/

/-- Saving a form that is approved of ends with what becomes of the answer of the store. -/
theorem perform_submit_of_answer (h : f.Approves p) {s' : Store}
    {link link' : Network.Link Provider.Request} {reply : Reply} {g : Form}
    {result : Except Fault Answer}
    (hanswer : s.answer link (f.saveCall p) = (s', link', reply))
    (hdone : f.settled.resume .save reply = (g, .done result)) :
    f.perform storeAnswer (s, link) .submit = ((s', link'), g, result) := by
  have hstart : f.start .submit = (f.settled, .waiting (f.saveCall p) .save) :=
    startSubmit_of_payload (validate_eq_none_iff.1 h.valid) h.record
  have hstore : storeAnswer (s, link) (f.saveCall p) = ((s', link'), reply) := by
    simp only [storeAnswer, hanswer]
  rw [perform, hstart]
  simp only [answeredBy, hstore, hdone]

/-- What is told when a store refuses a record that names no model. -/
def refusalNotice : Notice := { level := .error, message := noModels }

theorem perform_submit_of_hollow (h : f.Approves p) (hnone : Names.split p.models = [])
    (s : Store) (link : Network.Link Provider.Request) :
    f.perform storeAnswer (s, link) .submit =
      ((s, link), f.settled.notify refusalNotice, .ok (.submitted false refusalNotice)) :=
  perform_submit_of_answer h (answer_saveCall_of_hollow h hnone s link) rfl

theorem perform_submit_of_named (h : f.Approves p) (hmodels : Names.split p.models ≠ [])
    (hheld : f.HeldBy s) (link : Network.Link Provider.Request) :
    (∃ s', f.perform storeAnswer (s, link) .submit =
      ((s', link), f.settled.saved, .ok (.submitted true f.savedNotice))) ∨
    ∃ fault, f.perform storeAnswer (s, link) .submit = ((s, link), f.settled, .error fault) := by
  rcases answer_saveCall_of_named h hmodels hheld link with ⟨s', data, hanswer⟩ | ⟨fault, hanswer⟩
  · exact .inl ⟨s', perform_submit_of_answer h hanswer rfl⟩
  · exact .inr ⟨fault, perform_submit_of_answer h hanswer (resume_fault _ _ _)⟩

/-! ### Main statement -/

/-- Whether a property of texts holds of names that are texts. -/
def OfText (P : Text → Prop) (n : Model.Name) : Prop := ∀ x, n = .text x → P x

/-- No type has hollow names for its models. -/
theorem holdsOfFixed_not_isHollow :
    Model.Resolver.HoldsOfFixed (OfText fun x => ¬ Names.IsHollow x) := by
  intro code models hmodels x hx t ht hhollow
  have hplain := holdsOfFixed_isPlainName code models hmodels x hx x rfl
  obtain rfl := Model.Name.text.inj ht
  rw [Names.IsPlain, Names.split_eq_nil_iff.2 hhollow] at hplain
  cases hplain

/-- If no move has brought a hollow name, no model has one. -/
theorem not_isHollow_afterAll (channelId? : Option Int) (announces : Bool) {moves : List Move}
    (h : ∀ m ∈ moves, ∀ x, .text x ∈ m.names → ¬ Names.IsHollow x) :
    ∀ x, .text x ∈ (({ channelId?, announces } : Form).afterAll moves).models.models →
      ¬ Names.IsHollow x := by
  have hmoves : ∀ m ∈ moves, m.Brings (OfText fun x => ¬ Names.IsHollow x) fun _ => True :=
    fun m hm => ⟨fun n hn x hx => h m hm x (hx ▸ hn), fun _ _ => trivial⟩
  have hnew := holds_new (Q := fun _ => True) holdsOfFixed_not_isHollow trivial channelId? announces
  have hall := hnew.afterAll holdsOfFixed_not_isHollow trivial hmoves
  exact fun x hx => hall.models.models _ hx x rfl

/-- The editor and the store agree about the name, the key and the JSON of a record that the editor
approves of, but the record may name no model, which is so exactly if all selected models have
hollow names. Then saving is refused; otherwise a store that has the channel of the form saves it,
or fails to store it. If no move has brought a hollow name, the record names a model. -/
theorem submit_of_approves {channelId? : Option Int} {announces : Bool} {moves : List Move}
    (hf : f = ({ channelId?, announces } : Form).afterAll moves) (h : f.Approves p) :
    (f.isEdit = false → p.name ≠ "" ∧ p.key ≠ "") ∧
    (∀ field, JsonField.isValid (p.jsonText field) = true) ∧
    (Names.split p.models = [] ↔ ∀ x, .text x ∈ f.models.models → Names.IsHollow x) ∧
    (∀ s link, f.HeldBy s →
      (Names.split p.models = [] → f.perform storeAnswer (s, link) .submit =
        ((s, link), f.settled.notify refusalNotice, .ok (.submitted false refusalNotice))) ∧
      (Names.split p.models ≠ [] →
        (∃ s', f.perform storeAnswer (s, link) .submit =
          ((s', link), f.settled.saved, .ok (.submitted true f.savedNotice))) ∨
        ∃ fault, f.perform storeAnswer (s, link) .submit = ((s, link), f.settled, .error fault))) ∧
    ((∀ m ∈ moves, ∀ x, .text x ∈ m.names → ¬ Names.IsHollow x) → Names.split p.models ≠ []) := by
  refine ⟨filled_of_approves h, isValid_jsonText h, split_models_eq_nil_iff h.record,
    fun s link hheld => ⟨fun hnone => perform_submit_of_hollow h hnone s link, fun hmodels =>
      perform_submit_of_named h hmodels hheld link⟩, fun hmoves hnone => ?_⟩
  -- a model is selected, and its name is a text since the form stands for a record
  obtain ⟨xs, hxs, -, -⟩ := payload_eq_ok h.record
  have hselected := (problem?_eq_none_iff.1 (validate_eq_none_iff.1 h.valid)).2.1
  rw [hxs] at hselected
  obtain ⟨x, hx⟩ := List.exists_mem_of_ne_nil xs fun hnil => hselected (by rw [hnil]; rfl)
  have hmem : .text x ∈ f.models.models := by
    rw [hxs]
    exact List.mem_map_of_mem hx
  have hsolid := not_isHollow_afterAll channelId? announces hmoves x (hf ▸ hmem)
  exact hsolid ((split_models_eq_nil_iff h.record).1 hnone x hmem)

/-- A form for a new channel in which one model is listed. -/
def naming (model : Text) : List Move :=
  [.begin (.setField "name" (.str "relay")), .begin (.editKeys (.input "sk-a")),
    .begin (.setField "models" (.arr [.str model]))]

theorem submit_of_approves_naming :
    (({} : Form).afterAll (naming "gpt-4o")).Approves
        { name := "relay", key := "sk-a", models := "gpt-4o" } ∧
      Names.split "gpt-4o" ≠ [] ∧
      ∃ s' g, (({} : Form).afterAll (naming "gpt-4o")).perform storeAnswer (({} : Store), {})
        .submit = ((s', {}), g,
          .ok (.submitted true { level := .success, message := "Channel created" })) := by
  have happroves : (({} : Form).afterAll (naming "gpt-4o")).Approves
      { name := "relay", key := "sk-a", models := "gpt-4o" } := ⟨rfl, rfl⟩
  have hnames : ∀ m ∈ naming "gpt-4o", ∀ x, .text x ∈ m.names → ¬ Names.IsHollow x := by
    intro m hm x hx
    simp only [naming, List.mem_cons, List.not_mem_nil, or_false] at hm
    rcases hm with rfl | rfl | rfl
    · exact absurd hx List.not_mem_nil
    · exact absurd hx List.not_mem_nil
    · obtain rfl := Model.Name.text.inj (List.mem_singleton.1 hx)
      rw [← Names.split_eq_nil_iff]
      decide
  have hheld : (({} : Form).afterAll (naming "gpt-4o")).HeldBy {} := fun _ hid => by cases hid
  obtain ⟨-, -, -, hsaves, hnamed⟩ := submit_of_approves rfl happroves
  refine ⟨happroves, hnamed hnames, ?_⟩
  rcases (hsaves {} {} hheld).2 (hnamed hnames) with ⟨s', hdone⟩ | ⟨fault, hfault⟩
  · exact ⟨s', _, hdone⟩
  · -- there is nothing in this record that cannot be stored
    have hstored : ((({} : Form).afterAll (naming "gpt-4o")).perform storeAnswer
        (({} : Store), {}) .submit).2.2 = .ok (.submitted true
          { level := .success, message := "Channel created" }) := rfl
    rw [hfault] at hstored
    cases hstored

/-- A comma is approved of as a model, and the store refuses the channel. -/
theorem submit_of_approves_comma :
    let f := ({} : Form).afterAll (naming ",")
    f.Approves { name := "relay", key := "sk-a", models := "," } ∧ Names.split "," = [] ∧
      f.perform storeAnswer (({} : Store), {}) .submit =
        (({}, {}), f.settled.notify refusalNotice, .ok (.submitted false refusalNotice)) := by
  intro f
  have happroves : f.Approves { name := "relay", key := "sk-a", models := "," } := ⟨rfl, rfl⟩
  have hnone : Names.split "," = [] := by decide
  exact ⟨happroves, hnone, perform_submit_of_hollow happroves hnone {} {}⟩

end Editor.Form

end ChannelConsole
