import ChannelConsole.Editor.Operation
import ChannelConsole.Proofs.Channel.Draft
import ChannelConsole.Proofs.Steps

/-!
# Runs of an editor

A form changes when an operation begins and when the reply to a call comes. `Form.afterAll` is the
form after any number of such moves in any order, so operations may be begun while others wait.

`Form.after_cases` says once what a move can do to the generation of the models: a move that
invalidates fetches under way counts it up by one, and any other move keeps it together with the
type and the address of the channel. `Form.afterAll_cases` is the same for a whole run. Both rest on
an invariant of the forms that can come about (`Form.Consistent`): the selection is a list, and the
draft and the models agree about the type.
-/

namespace ChannelConsole.Editor

open Channel Backend Steps

/-- What can happen to a form: an operation begins, or a reply comes for something that waits. -/
inductive Move where
  | begin (op : Op)
  | reply (w : Waiting) (reply : Reply)

namespace Form

/-- The form after a move. -/
def after (f : Form) : Move → Form
  | .begin op => (f.start op).1
  | .reply w reply => (f.resume w reply).1

/-- The form after several moves. -/
def afterAll (f : Form) (moves : List Move) : Form := moves.foldl after f

/-- Whether a form can come about from a new one. -/
def Reachable (f : Form) : Prop :=
  ∃ channelId? announces moves,
    f = ({ channelId?, announces } : Form).afterAll moves

theorem afterAll_append (f : Form) (before rest : List Move) :
    f.afterAll (before ++ rest) = (f.afterAll before).afterAll rest := List.foldl_append

theorem Reachable.afterAll {f : Form} (hf : f.Reachable) (moves : List Move) :
    (f.afterAll moves).Reachable := by
  obtain ⟨channelId?, announces, before, rfl⟩ := hf
  exact ⟨channelId?, announces, before ++ moves, (afterAll_append _ _ _).symm⟩

end Form

/-- Whether a move makes the answers to fetches under way useless: the address is set, the type
becomes another one, the keys become others, a stored channel is taken over, or the form is emptied,
by itself or after a new channel was saved. -/
def Move.Invalidates (f : Form) : Move → Prop
  | .begin (.setField name value) =>
    (name = "base_url" ∧ ∃ address, value = .str address) ∨
      (name = "type" ∧ ∃ code, Form.typeCode value = .ok code ∧ code ≠ f.draft.channelType)
  | .begin (.changeType channelType) => channelType ≠ f.draft.channelType
  | .begin (.editKeys event) => (f.pool.step event).1.raw ≠ f.pool.raw
  | .begin .reset => True
  | .reply (.channel _) (.envelope e) =>
    e.success = true ∧ ∃ p, Payload.check e.data = .ok p ∧ ∃ g, f.hydrate p = (g, .ok ())
  | .reply .save (.envelope e) => e.success = true ∧ f.isEdit = false
  | _ => False

namespace Form

/-! ### What moves preserve -/

/-- The selection is a list, and the draft and the models agree about the type. -/
structure Consistent (f : Form) : Prop where
  isList : f.mangled? = none
  channelType : f.models.channelType = f.draft.channelType

/-- Whether a form is about the same type and address as the one before, with no fetch invalidated
since. -/
structure KeepsSubject (f g : Form) : Prop where
  isList : g.mangled? = none
  generation : g.models.generation = f.models.generation
  modelType : g.models.channelType = f.models.channelType
  channelType : g.draft.channelType = f.draft.channelType
  baseUrl : g.draft.baseUrl = f.draft.baseUrl

/-- Whether a form is one step further on in the count of what invalidates fetches. -/
structure TurnsTo (f g : Form) : Prop where
  consistent : g.Consistent
  generation : g.models.generation = f.models.generation + 1

/-- Whether a form is one step further on if something is the case, and keeps the subject if it is
not. -/
abbrev TurnsIff (f : Form) (invalid : Prop) (g : Form) : Prop :=
  (invalid ∧ f.TurnsTo g) ∨ (¬ invalid ∧ f.KeepsSubject g)

theorem consistent_new (channelId? : Option Int) (announces : Bool) :
    ({ channelId?, announces } : Form).Consistent := ⟨rfl, rfl⟩

variable {f g h : Form}

theorem KeepsSubject.refl (hf : f.mangled? = none) : f.KeepsSubject f := ⟨hf, rfl, rfl, rfl, rfl⟩

theorem KeepsSubject.trans (hg : f.KeepsSubject g) (hh : g.KeepsSubject h) : f.KeepsSubject h where
  isList := hh.isList
  generation := hh.generation.trans hg.generation
  modelType := hh.modelType.trans hg.modelType
  channelType := hh.channelType.trans hg.channelType
  baseUrl := hh.baseUrl.trans hg.baseUrl

theorem KeepsSubject.consistent (hf : f.Consistent) (hg : f.KeepsSubject g) : g.Consistent :=
  ⟨hg.isList, by rw [hg.modelType, hg.channelType, hf.channelType]⟩

/-- Saying something keeps the subject, like whatever went before. -/
theorem KeepsSubject.notify (hg : f.KeepsSubject g) (n : Notice) : f.KeepsSubject (g.notify n) :=
  ⟨hg.isList, hg.generation, hg.modelType, hg.channelType, hg.baseUrl⟩

/-- So does another selection for the same type. -/
theorem keepsSubject_withModels {models : Model.Resolver}
    (ht : models.channelType = f.models.channelType)
    (hg : models.generation = f.models.generation) : f.KeepsSubject (f.withModels models) :=
  ⟨rfl, hg, ht, rfl, rfl⟩

/-! ### Setting fields -/

/-- Only a text is taken as an address. -/
theorem assign_baseUrl {d d' : Draft} {v : Json} (hassign : d.assign .baseUrl v = .ok d') :
    ∃ address, v = .str address ∧ d' = { d with baseUrl := address } := by
  obtain ⟨a, ha, rfl⟩ := Schema.under_map_eq_ok hassign
  cases v with
  | str s => exact ⟨s, rfl, by rw [Except.ok.inj ha]⟩
  | _ => simp [Schema.text, Schema.refuse] at ha

theorem label_of_ofName? {name : Text} {field : Draft.Field}
    (hn : Draft.Field.ofName? name = some field) : field.label = name := by
  have hfound := List.find?_some hn
  simpa using hfound

/-- A change of the type keeps the subject exactly when it is no change. -/
theorem changeType_cases (hf : f.Consistent) (channelType : Int) :
    f.TurnsIff (channelType ≠ f.draft.channelType) (f.changeType channelType).1 := by
  -- the models compare the new type with their own, which is that of the draft
  by_cases ht : channelType = f.models.channelType
  · right
    subst ht
    refine ⟨fun hne => hne hf.channelType, ?_⟩
    -- an empty selection is filled even then, which is no change of the subject
    by_cases he : f.models.models.isEmpty = true
    · simp only [changeType, Model.Resolver.changeType, he, ne_eq, not_true_eq_false, if_true,
        if_false]
      exact ⟨rfl, rfl, rfl, hf.channelType, rfl⟩
    · simp only [changeType, Model.Resolver.changeType, he, ne_eq, not_true_eq_false, if_false]
      exact ⟨hf.isList, rfl, rfl, hf.channelType, rfl⟩
  · left
    refine ⟨by rwa [← hf.channelType], ?_⟩
    simp only [changeType, Model.Resolver.changeType, ne_eq, ht, not_false_eq_true, if_true]
    exact ⟨⟨rfl, rfl⟩, rfl⟩

theorem setPlain_cases (hf : f.Consistent) {field : Draft.Field} (ht : field ≠ .channelType)
    (v : Json) :
    f.TurnsIff (field = .baseUrl ∧ ∃ address, v = .str address) (f.setPlain field v).1 := by
  unfold setPlain
  cases hassign : f.draft.assign field v with
  | error issues =>
    right
    refine ⟨?_, .refl hf.isList⟩
    -- a text is never refused as an address
    rintro ⟨rfl, address, rfl⟩
    exact absurd hassign (by simp [Draft.assign, Schema.text, Schema.Checked.under, Except.map])
  | ok d =>
    by_cases hb : field = .baseUrl
    · left
      subst hb
      obtain ⟨address, rfl, rfl⟩ := assign_baseUrl hassign
      refine ⟨⟨rfl, address, rfl⟩, ?_⟩
      simp only [if_true]
      split
      · exact ⟨⟨hf.isList, hf.channelType⟩, rfl⟩
      · exact ⟨⟨hf.isList, hf.channelType⟩, rfl⟩
    · right
      simp only [hb, if_false]
      exact ⟨fun h => h.1, hf.isList, rfl, rfl, Draft.channelType_of_assign hassign ht,
        Draft.baseUrl_of_assign hassign hb⟩

/-- Setting a field by its name keeps the subject unless it is the address or another type. -/
theorem setField_cases (hf : f.Consistent) (name : Text) (v : Json) :
    f.TurnsIff (Move.Invalidates f (.begin (.setField name v))) (f.setField name v).1 := by
  unfold setField
  by_cases ht : name = "type"
  · subst ht
    simp only [if_true, Move.Invalidates, true_and, Text.whole.injEq, String.reduceEq, false_and,
      false_or]
    cases hcode : typeCode v with
    | error e =>
      right
      exact ⟨fun ⟨code, h, _⟩ => by simp at h, .refl hf.isList⟩
    | ok code =>
      rcases changeType_cases hf code with ⟨hne, hturn⟩ | ⟨hsame, hkeep⟩
      · exact .inl ⟨⟨code, rfl, hne⟩, hturn⟩
      · right
        refine ⟨?_, hkeep⟩
        rintro ⟨code', h, hne⟩
        obtain rfl := Except.ok.inj h
        exact hsame hne
  by_cases hm : name = "models"
  · subst hm
    right
    refine ⟨by simp [Move.Invalidates], ?_⟩
    simp only [ht, if_true, if_false]
    cases modelNames v with
    | error e => exact .refl hf.isList
    | ok names => exact keepsSubject_withModels rfl rfl
  simp only [ht, hm, if_false, Move.Invalidates, false_and, or_false]
  cases hname : Draft.Field.ofName? name with
  | none =>
    right
    refine ⟨?_, .refl hf.isList⟩
    rintro ⟨rfl, -⟩
    exact absurd hname (by decide)
  | some field =>
    have hlabel := label_of_ofName? hname
    -- the type has been dealt with under its own name
    have hfield : field ≠ .channelType := by
      rintro rfl
      exact ht hlabel.symm
    have hbase : name = "base_url" ↔ field = .baseUrl := by
      constructor
      · rintro rfl
        rw [← Option.some.injEq, ← hname]
        decide
      · rintro rfl
        exact hlabel.symm
    rw [hbase]
    exact setPlain_cases hf hfield v

/-- Examples are there for fields other than the type and the address. -/
theorem keepsSubject_fillTemplate (hf : f.Consistent) (name : Text) :
    f.KeepsSubject (f.fillTemplate name).1 := by
  unfold fillTemplate
  split
  · exact .refl hf.isList
  split
  · rename_i text field htemplate hname
    have hlabel := label_of_ofName? hname
    subst hlabel
    split
    · rename_i d hassign
      -- there is no example for either of the two fields that matter
      have hnone : JsonField.template? Draft.Field.channelType.label = none ∧
          JsonField.template? Draft.Field.baseUrl.label = none := ⟨rfl, rfl⟩
      have hne : field ≠ .channelType ∧ field ≠ .baseUrl := by
        constructor
        · rintro rfl
          simp [hnone.1] at htemplate
        · rintro rfl
          simp [hnone.2] at htemplate
      exact ⟨hf.isList, rfl, rfl, Draft.channelType_of_assign hassign hne.1,
        Draft.baseUrl_of_assign hassign hne.2⟩
    · exact .refl hf.isList
  · exact .refl hf.isList

/-! ### Keys and models -/

/-- A change of the keys invalidates fetches exactly when another text is to be stored. -/
theorem editKeys_cases (hf : f.Consistent) (event : Credential.Event) :
    f.TurnsIff ((f.pool.step event).1.raw ≠ f.pool.raw) (f.editKeys event).1 := by
  by_cases hraw : (f.pool.step event).1.raw = f.pool.raw
  · right
    simp only [editKeys, hraw, if_true]
    exact ⟨fun h => h rfl, hf.isList, rfl, rfl, rfl, rfl⟩
  · left
    simp only [editKeys, hraw, if_false]
    exact ⟨hraw, ⟨hf.isList, hf.channelType⟩, rfl⟩

theorem keepsSubject_addCustom (hf : f.Consistent) (text : Text) :
    f.KeepsSubject (f.addCustom text).1 := by
  unfold addCustom
  split
  · exact .refl hf.isList
  split
  · exact ⟨hf.isList, rfl, rfl, rfl, rfl⟩
  · -- no text stands in the place of the selection
    rename_i mangled hm
    rw [hf.isList] at hm
    exact absurd hm (by simp)

theorem keepsSubject_applySelector (hf : f.Consistent) : f.KeepsSubject f.applySelector := by
  unfold applySelector
  split
  · exact ⟨rfl, rfl, rfl, rfl, rfl⟩
  · exact .refl hf.isList

/-! ### Asking the provider -/

theorem keepsSubject_startFetch (hf : f.Consistent) : f.KeepsSubject f.startFetch.1 := by
  unfold startFetch
  split
  · exact (KeepsSubject.refl hf.isList).notify _
  · exact .refl hf.isList

theorem keepsSubject_startSelector (hf : f.Consistent) : f.KeepsSubject f.startSelector.1 := by
  unfold startSelector
  simp only
  split
  · exact ⟨hf.isList, rfl, rfl, rfl, rfl⟩
  · exact ⟨hf.isList, rfl, rfl, rfl, rfl⟩

theorem keepsSubject_finishSelector (hf : f.Consistent) (names : List Model.Name) :
    f.KeepsSubject (f.finishSelector names).1 := by
  unfold finishSelector
  split
  · exact .refl hf.isList
  · exact ⟨hf.isList, rfl, rfl, rfl, rfl⟩

/-- What a fetch comes to when the selection is a list: it is too late, or its names are merged. -/
theorem finishFetch_of_isList (hf : f.mangled? = none) (pending : Model.Resolver.Pending)
    (names : List Model.Name) :
    f.finishFetch pending names =
      if pending.generation ≠ f.models.generation then f.saying staleNotice
      else { f with models := (f.models.finishFetch pending names).1 }.saying
        (fetchedNotice (f.models.finishFetch pending names).2) := by
  by_cases hg : pending.generation = f.models.generation
  · simp only [finishFetch, Model.Resolver.finishFetch, hg, ne_eq, not_true_eq_false, if_false, hf]
    rfl
  · simp only [finishFetch, Model.Resolver.finishFetch, hg, ne_eq, not_false_eq_true, if_true]

theorem keepsSubject_finishFetch (hf : f.Consistent) (pending : Model.Resolver.Pending)
    (names : List Model.Name) : f.KeepsSubject (f.finishFetch pending names).1 := by
  rw [finishFetch_of_isList hf.isList]
  split
  · exact (KeepsSubject.refl hf.isList).notify _
  · rename_i hg
    simp only [Model.Resolver.finishFetch, hg, if_false]
    exact ⟨hf.isList, rfl, rfl, rfl, rfl⟩

/-! ### Loading and saving -/

theorem keepsSubject_startChannel (hf : f.Consistent) : f.KeepsSubject f.startChannel.1 := by
  unfold startChannel
  split
  · exact .refl hf.isList
  · exact keepsSubject_withModels rfl rfl

/-- The draft of a record has its type, whatever its JSON fields hold. -/
theorem channelType_draftOf (p : Payload) (values : List (JsonField × Json)) :
    (draftOf p values).channelType = p.channelType := by
  have hset : ∀ (d : Draft) (field : JsonField) (v : Json),
      (d.setJson field v).channelType = d.channelType := by
    intro d field v
    cases field <;> rfl
  have hfold : ∀ d : Draft, (values.foldl (fun d v => d.setJson v.1 v.2) d).channelType =
      d.channelType := by
    induction values with
    | nil => intro d; rfl
    | cons v values ih => intro d; rw [List.foldl_cons, ih, hset]
  exact hfold _

/-- Taking over a stored channel invalidates fetches; failing to do so changes nothing but what is
known to be wrong with it. -/
theorem hydrate_cases (hf : f.Consistent) (p : Payload) :
    f.TurnsIff (∃ g, f.hydrate p = (g, .ok ())) (f.hydrate p).1 := by
  unfold hydrate
  cases loadFields p JsonField.all with
  | mk diagnostics values? =>
    cases values? with
    | none =>
      right
      refine ⟨?_, hf.isList, rfl, rfl, rfl, rfl⟩
      rintro ⟨g, h⟩
      simp at h
    | some values => exact .inl ⟨⟨_, rfl⟩, ⟨rfl, (channelType_draftOf p values).symm⟩, rfl⟩

/-- The reply to the call for a stored channel invalidates fetches exactly when the channel is taken
over. -/
theorem takeOver_cases (hf : f.Consistent) (opening : Bool) (e : Envelope) :
    f.TurnsIff (Move.Invalidates f (.reply (.channel opening) (.envelope e)))
      (f.takeOver opening e).1 := by
  unfold takeOver
  by_cases he : e.success = true
  · simp only [he, if_true, Move.Invalidates, true_and]
    cases hp : Payload.check e.data with
    | error issues =>
      right
      exact ⟨fun ⟨p, h, _⟩ => by simp at h, .refl hf.isList⟩
    | ok p =>
      rcases hydrate_cases hf p with ⟨⟨g, hg⟩, hturn⟩ | ⟨hnot, hkeep⟩
      · left
        rw [hg] at hturn
        simp only [hg]
        exact ⟨⟨p, rfl, g, hg⟩, hturn⟩
      · right
        constructor
        · rintro ⟨p', hp', hok⟩
          obtain rfl := Except.ok.inj hp'
          exact hnot hok
        · cases hh : f.hydrate p with
          | mk g r =>
            cases r with
            | ok u => exact absurd ⟨g, hh⟩ hnot
            | error fault =>
              rw [hh] at hkeep
              simp only [hh]
              exact hkeep
  · right
    simp only [he, Move.Invalidates]
    exact ⟨fun h => absurd h.1 (by simp), (KeepsSubject.refl hf.isList).notify _⟩

theorem keepsSubject_startSubmit (hf : f.Consistent) : f.KeepsSubject f.startSubmit.1 := by
  unfold startSubmit
  simp only
  split
  · exact ⟨hf.isList, rfl, rfl, rfl, rfl⟩
  · split <;> exact ⟨hf.isList, rfl, rfl, rfl, rfl⟩

/-- A form for a new channel is emptied when the channel was saved; a form for a stored one is
not. -/
theorem finishSubmit_cases (hf : f.Consistent) (e : Envelope) :
    f.TurnsIff (e.success = true ∧ f.isEdit = false) (f.finishSubmit e).1 := by
  unfold finishSubmit
  by_cases he : e.success = true
  · simp only [he, if_true, true_and]
    cases hedit : f.isEdit with
    | false =>
      left
      simp only [saved, hedit, Bool.false_eq_true, if_false]
      exact ⟨trivial, ⟨rfl, rfl⟩, rfl⟩
    | true =>
      right
      simp only [saved, hedit, if_true]
      exact ⟨by simp, hf.isList, rfl, rfl, rfl, rfl⟩
  · right
    simp only [he]
    exact ⟨fun h => absurd h.1 (by simp), (KeepsSubject.refl hf.isList).notify _⟩

/-! ### One move -/

theorem fst_resultOf {α : Type} (answer : α → Answer) (r : Form × Except Fault α) :
    (resultOf answer r).1 = r.1 := by
  obtain ⟨f, a | fault⟩ := r
  · rfl
  · rfl

/-- What can happen when an operation begins. -/
theorem start_cases (hf : f.Consistent) (op : Op) :
    f.TurnsIff (Move.Invalidates f (.begin op)) (f.start op).1 := by
  have hrefl : f.KeepsSubject f := .refl hf.isList
  cases op with
  | setField name value =>
    rw [start, fst_resultOf]
    exact setField_cases hf name value
  | changeType channelType => exact changeType_cases hf channelType
  | editKeys event => exact editKeys_cases hf event
  | reset => exact .inl ⟨trivial, ⟨rfl, rfl⟩, rfl⟩
  | fillTemplate field =>
    rw [start, fst_resultOf]
    exact .inr ⟨id, keepsSubject_fillTemplate hf field⟩
  | addCustom text =>
    rw [start, fst_resultOf]
    exact .inr ⟨id, keepsSubject_addCustom hf text⟩
  | fetchModels => exact .inr ⟨id, keepsSubject_startFetch hf⟩
  | openSelector => exact .inr ⟨id, keepsSubject_startSelector hf⟩
  | pick event =>
    refine .inr ⟨id, ?_⟩
    unfold start
    simp only
    split
    · split
      · exact ⟨hf.isList, rfl, rfl, rfl, rfl⟩
      · exact hrefl
    · exact hrefl
  | applySelector => exact .inr ⟨id, keepsSubject_applySelector hf⟩
  | validate =>
    refine .inr ⟨id, ?_⟩
    unfold start validate
    simp only
    cases f.problem? with
    | none => exact hrefl
    | some n => exact hrefl.notify n
  | buildPayload =>
    refine .inr ⟨id, ?_⟩
    unfold start
    simp only
    split <;> exact hrefl
  | submit => exact .inr ⟨id, keepsSubject_startSubmit hf⟩
  | openForm | load => exact .inr ⟨id, hrefl⟩
  | credential event => exact .inr ⟨id, hf.isList, rfl, rfl, rfl, rfl⟩
  | clearModels | fillBasic | fillAll => exact .inr ⟨id, keepsSubject_withModels rfl rfl⟩
  | cancelSelector | close => exact .inr ⟨id, hf.isList, rfl, rfl, rfl, rfl⟩

/-- What can happen when a reply comes. -/
theorem resume_cases (hf : f.Consistent) (w : Waiting) (reply : Reply) :
    f.TurnsIff (Move.Invalidates f (.reply w reply)) (f.resume w reply).1 := by
  have hrefl : f.KeepsSubject f := .refl hf.isList
  cases w with
  | catalog =>
    cases reply with
    | names xs => exact .inr ⟨id, hf.isList, rfl, rfl, rfl, rfl⟩
    | refused r => exact .inr ⟨id, hrefl.notify _⟩
    | envelope e | models xs | fault fault => exact .inr ⟨id, hrefl⟩
  | groups =>
    cases reply with
    | names xs =>
      have hgroups : f.KeepsSubject { f with groupOptions := xs } :=
        ⟨hf.isList, rfl, rfl, rfl, rfl⟩
      exact .inr ⟨id, hgroups.trans (keepsSubject_startChannel (hgroups.consistent hf))⟩
    | refused r =>
      have hsaid := hrefl.notify { level := .error, message := r.words }
      exact .inr ⟨id, hsaid.trans (keepsSubject_startChannel (hsaid.consistent hf))⟩
    | envelope e | models xs | fault fault => exact .inr ⟨id, hrefl⟩
  | channel opening =>
    cases reply with
    | envelope e => exact takeOver_cases hf opening e
    | refused r => exact .inr ⟨id, hrefl.notify _⟩
    | names xs | models xs | fault fault => exact .inr ⟨id, hrefl⟩
  | fetch pending =>
    cases reply with
    | models xs => exact .inr ⟨id, keepsSubject_finishFetch hf pending xs⟩
    | refused r => exact .inr ⟨id, hrefl.notify _⟩
    | envelope e | names xs | fault fault => exact .inr ⟨id, hrefl⟩
  | selection =>
    cases reply with
    | models xs => exact .inr ⟨id, keepsSubject_finishSelector hf xs⟩
    | refused r => exact .inr ⟨id, hrefl.notify _⟩
    | envelope e | names xs | fault fault => exact .inr ⟨id, hrefl⟩
  | save =>
    cases reply with
    | envelope e => exact finishSubmit_cases hf e
    | refused r => exact .inr ⟨id, hrefl.notify _⟩
    | names xs | models xs | fault fault => exact .inr ⟨id, hrefl⟩

/-- A move either counts the generation up by one or keeps it, together with the type and the
address of the channel. -/
theorem after_cases (hf : f.Consistent) (m : Move) :
    f.TurnsIff (m.Invalidates f) (f.after m) := by
  cases m with
  | begin op => exact start_cases hf op
  | reply w reply => exact resume_cases hf w reply

theorem consistent_after (hf : f.Consistent) (m : Move) : (f.after m).Consistent := by
  rcases after_cases hf m with ⟨-, hturn⟩ | ⟨-, hkeep⟩
  · exact hturn.consistent
  · exact hkeep.consistent hf

/-! ### Runs -/

theorem consistent_afterAll (hf : f.Consistent) (moves : List Move) :
    (f.afterAll moves).Consistent := by
  induction moves generalizing f with
  | nil => exact hf
  | cons m moves ih => exact ih (consistent_after hf m)

theorem Reachable.consistent (hf : f.Reachable) : f.Consistent := by
  obtain ⟨channelId?, announces, moves, rfl⟩ := hf
  exact consistent_afterAll (consistent_new channelId? announces) moves

/-- The generation never goes down, and it goes up exactly when fetches are invalidated. -/
theorem afterAll_cases (hf : f.Consistent) (moves : List Move) :
    (Sees after Move.Invalidates f moves ∧
      f.models.generation < (f.afterAll moves).models.generation) ∨
    (¬ Sees after Move.Invalidates f moves ∧ f.KeepsSubject (f.afterAll moves)) := by
  induction moves generalizing f with
  | nil => exact .inr ⟨not_sees_nil Move.Invalidates f, .refl hf.isList⟩
  | cons m moves ih =>
    rw [sees_cons]
    have hrest := ih (consistent_after hf m)
    have hall : f.afterAll (m :: moves) = (f.after m).afterAll moves := rfl
    rw [hall]
    -- once the generation has gone up, the rest of the moves cannot bring it down again
    rcases after_cases hf m with ⟨hm, hturn⟩ | ⟨hm, hkeep⟩
    · left
      refine ⟨.inl hm, ?_⟩
      have hstep := hturn.generation
      rcases hrest with ⟨-, hlt⟩ | ⟨-, hkeep⟩
      · omega
      · have hsame := hkeep.generation
        omega
    · rcases hrest with ⟨hinv, hlt⟩ | ⟨hinv, hkeep'⟩
      · left
        rw [hkeep.generation] at hlt
        exact ⟨.inr hinv, hlt⟩
      · right
        exact ⟨fun h => h.elim hm hinv, hkeep.trans hkeep'⟩

end Form

end ChannelConsole.Editor
