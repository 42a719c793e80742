import ChannelConsole.Proofs.Editor.Keys
import ChannelConsole.Proofs.Model.Runs
import ChannelConsole.Server.Reading

/-!
# The parts of a form agree about the type

The type of a channel is kept three times: in the draft, in the pool of the keys, and with the
models. The names that the type offers first are kept as well, although the type and the catalog
determine them, and so is whether the keys are shown one by one, which not every type allows.

A pool can be given a type of its own, but no request does that to the pool of an editor
(`Server.channelType?_keyEvent`). As long as nobody else does, each move leaves the draft and the
pool with the same type (`Editor.Form.SharesType.after`). A move is at most one event or one answer
for the models (`Editor.Form.modelsFollow_after`), so what holds of resolvers holds of the models of
forms. The parts of a form stay in step through all moves, those that fail included
(`Editor.Form.InStep.after`), and so they agree about the type (`Editor.Form.agrees_afterAll`).
-/

namespace ChannelConsole

/-! ### The type of a pool -/

namespace Credential

/-- The type that an event gives to a pool, if it gives one. -/
def Event.channelType? : Event → Option Int
  | .changeType channelType | .hydrate _ channelType | .reset channelType => some channelType
  | _ => none

namespace Pool

variable (p : Pool)

theorem channelType_adopt (entries : List Text) :
    (p.adopt entries).1.channelType = p.channelType := by
  unfold adopt
  split <;> rfl

theorem channelType_enterListOf (text : Text) {otherwise : Pool × Outcome}
    (h : otherwise.1.channelType = p.channelType) :
    (p.enterListOf text otherwise).1.channelType = p.channelType := by
  unfold enterListOf
  split
  · exact h
  · rfl

theorem channelType_input (value : Text) : (p.input value).1.channelType = p.channelType := by
  unfold input
  split
  · exact p.channelType_adopt _
  · simp only
    split
    · exact p.channelType_enterListOf value rfl
    · rfl

theorem channelType_paste (value : Text) : (p.paste value).1.channelType = p.channelType := by
  unfold paste
  split
  · rfl
  · split
    · exact p.channelType_enterListOf _ rfl
    · rfl

theorem channelType_removeEntry (index : Int) :
    (p.removeEntry index).1.channelType = p.channelType := by
  unfold removeEntry
  split
  · rfl
  · exact p.channelType_adopt _

theorem channelType_updateEntry (index : Int) (value : Text) :
    (p.updateEntry index value).1.channelType = p.channelType := by
  unfold updateEntry
  split <;> rfl

theorem channelType_pasteEntry (index : Int) (value : Text) :
    (p.pasteEntry index value).1.channelType = p.channelType :=
  pasteEntry_induction (P := fun q => q.channelType = p.channelType) rfl
    fun _ _ => p.channelType_adopt _

theorem channelType_press (index : Int) (key : Key) :
    (p.press index key).1.channelType = p.channelType :=
  press_induction (P := fun q => q.channelType = p.channelType) rfl (fun _ => rfl)
    fun _ _ _ => p.channelType_adopt _

theorem channelType_setMultiViewDisabled (disabled : Bool) :
    (p.setMultiViewDisabled disabled).1.channelType = p.channelType := by
  unfold setMultiViewDisabled
  split
  · rfl
  · simp only
    split
    · split <;> rfl
    · split
      · exact channelType_enterListOf _ _ rfl
      · rfl

theorem channelType_changeType (channelType : Int) :
    (p.changeType channelType).1.channelType = channelType :=
  changeType_induction (P := fun q => q.channelType = channelType) (fun _ => rfl) (fun _ => rfl)
    fun _ _ h => channelType_enterListOf _ _ h

theorem channelType_hydrate (raw? : Option Text) (channelType : Int) :
    (hydrate raw? channelType).channelType = channelType := by
  unfold hydrate
  simp only
  split <;> rfl

theorem channelType_finalize : p.finalize.1.channelType = p.channelType := by
  unfold finalize
  split
  · exact p.channelType_adopt _
  · rfl

/-- After an event a pool has the type that the event gives it, or else the one it had. -/
theorem channelType_step (e : Event) :
    (p.step e).1.channelType = e.channelType?.getD p.channelType := by
  cases e with
  | input value => exact p.channelType_input value
  | paste value => exact p.channelType_paste value
  | toggleMultiView => exact p.channelType_setMultiViewDisabled _
  | setMultiViewDisabled disabled => exact p.channelType_setMultiViewDisabled disabled
  | removeEntry index => exact p.channelType_removeEntry index
  | updateEntry index value => exact p.channelType_updateEntry index value
  | pasteEntry index value => exact p.channelType_pasteEntry index value
  | press index key => exact p.channelType_press index key
  | changeType channelType => exact p.channelType_changeType channelType
  | hydrate raw? channelType => exact channelType_hydrate raw? channelType
  | finalize => exact p.channelType_finalize
  | clear | toggleVisibility | addEntry value | reset channelType => rfl

end Pool

end Credential

/-! ### The events that requests ask for -/

theorem Server.mem_of_choice {α : Type} {words : List (Text × α)} {v : Json} {a : α}
    (h : choice words v = .ok a) : ∃ word, (word, a) ∈ words := by
  unfold choice at h
  split at h
  · rename_i s
    split at h
    · rename_i b hlookup
      obtain rfl := Except.ok.inj h
      obtain ⟨before, rest, hwords, -⟩ := List.lookup_eq_some_iff.1 hlookup
      refine ⟨s, ?_⟩
      rw [hwords]
      exact List.mem_append_right _ List.mem_cons_self
    · cases h
  · cases h

/-- What stands for a word in a field is one of the things that words stand for. -/
theorem Server.mem_of_required {α : Type} {fields : List (Text × Json)} {name : Text}
    {words : List (Text × α)} {a : α}
    (h : Schema.required fields name (choice words) = .ok a) : ∃ word, (word, a) ∈ words := by
  unfold Schema.required at h
  split at h
  · cases h
  · rename_i v _
    cases hchoice : choice words v with
    | error issues =>
      rw [hchoice] at h
      cases h
    | ok b =>
      rw [hchoice] at h
      obtain rfl := Except.ok.inj h
      exact mem_of_choice hchoice

/-- What a request asks for leaves the pool of an editor with its type. -/
theorem Server.channelType?_keyEvent {v : Json} {e : Credential.Event} (h : keyEvent v = .ok e) :
    e.channelType? = none := by
  unfold keyEvent at h
  split at h
  · cases h
  · obtain ⟨make', index, hmake', -, rfl⟩ := Schema.and_eq_ok_iff.1 h
    obtain ⟨make, value, hmake, -, rfl⟩ := Schema.and_eq_ok_iff.1 hmake'
    obtain ⟨word, hmem⟩ := mem_of_required hmake
    have hall : ∀ a ∈ keyActions, (a.2 value index).channelType? = none := by
      intro a ha
      simp only [keyActions, List.mem_cons, List.not_mem_nil, or_false] at ha
      rcases ha with rfl | rfl | rfl | rfl | rfl | rfl | rfl | rfl | rfl | rfl <;> rfl
    exact hall _ hmem

/-! ### The type of the draft and of the pool -/

namespace Editor

open Channel Backend

/-- Whether what a move does to the keys alone is something that a request can ask for. -/
def Move.IsOffered : Move → Prop
  | .begin (.credential event) | .begin (.editKeys event) => ∃ v, Server.keyEvent v = .ok event
  | _ => True

namespace Form

variable {f g : Form}

/-- Whether the draft and the pool of a form have the same type. -/
def SharesType (f : Form) : Prop := f.pool.channelType = f.draft.channelType

theorem SameFields.sharesType (hg : f.SameFields g) (h : f.SharesType) : g.SharesType := by
  rw [SharesType, hg.pool, hg.draft]
  exact h

/-- An event that gives the pool no type leaves it with the one that it shares. -/
theorem SharesType.of_step (h : f.SharesType) {e : Credential.Event} (he : e.channelType? = none)
    (hpool : g.pool = (f.pool.step e).1) (hdraft : g.draft.channelType = f.draft.channelType) :
    g.SharesType := by
  rw [SharesType, hpool, hdraft, Credential.Pool.channelType_step, he]
  exact h

theorem sharesType_changeType (f : Form) (channelType : Int) :
    (f.changeType channelType).1.SharesType := by
  have hpool : (f.changeType channelType).1.pool.channelType = channelType := by
    rw [pool_changeType, Credential.Pool.channelType_step]
    rfl
  have hdraft : (f.changeType channelType).1.draft.channelType = channelType := by
    unfold changeType
    simp only
    split <;> rfl
  rw [SharesType, hpool, hdraft]

theorem SharesType.setField (h : f.SharesType) (name : Text) (v : Json) :
    (f.setField name v).1.SharesType := by
  -- a field other than the type leaves the type of the draft alone
  have hplain : ∀ {field : Draft.Field} {d : Draft}, field ≠ .channelType →
      f.draft.assign field v = .ok d → f.pool.channelType = d.channelType := by
    intro field d hfield hassign
    rw [Draft.channelType_of_assign hassign hfield]
    exact h
  have hsets := f.sets_setField name v
  generalize f.setField name v = r at hsets ⊢
  cases hsets with
  | refused | models => exact h
  | type => exact sharesType_changeType f _
  | address hassign => exact hplain (by decide) hassign
  | plain htype hfield hassign => exact hplain htype hassign

/-- There is no example for the type. -/
theorem SharesType.fillTemplate (h : f.SharesType) (name : Text) :
    (f.fillTemplate name).1.SharesType := by
  have hfills := f.fills_fillTemplate name
  generalize f.fillTemplate name = r at hfills ⊢
  cases hfills with
  | refused => exact h
  | @filled field text d htemplate hname hassign =>
    have hfield : field ≠ .channelType := by
      rintro rfl
      rw [← label_of_ofName? hname] at htemplate
      cases htemplate
    show f.pool.channelType = d.channelType
    rw [Draft.channelType_of_assign hassign hfield]
    exact h

theorem SharesType.takeOver (h : f.SharesType) (opening : Bool) (e : Envelope) :
    (f.takeOver opening e).1.SharesType := by
  have htakes := f.takesOver_takeOver opening e
  generalize f.takeOver opening e = r at htakes ⊢
  cases htakes with
  | @loaded p => exact Credential.Pool.channelType_hydrate (some p.key) p.channelType
  | refused | malformed | unloadable => exact h

theorem SharesType.finishSubmit (h : f.SharesType) (e : Envelope) :
    (f.finishSubmit e).1.SharesType := by
  unfold Form.finishSubmit
  split
  · unfold saved
    cases hedit : f.isEdit with
    | true => exact h
    | false => exact rfl
  · exact h

/-- No operation gives the draft and the pool different types, unless it gives one to the pool
alone. -/
theorem SharesType.start (h : f.SharesType) {op : Op} (hop : (Move.begin op).IsOffered) :
    (f.start op).1.SharesType := by
  cases op with
  | setField name value =>
    rw [Form.start, fst_resultOf]
    exact h.setField name value
  | changeType channelType => exact sharesType_changeType f channelType
  | credential event | editKeys event =>
    obtain ⟨v, hv⟩ := hop
    exact h.of_step (Server.channelType?_keyEvent hv) rfl rfl
  | fillTemplate field =>
    rw [Form.start, fst_resultOf]
    exact h.fillTemplate field
  | addCustom text =>
    rw [Form.start, fst_resultOf]
    exact (sameFields_addCustom f text).sharesType h
  | fetchModels => exact (sameFields_startFetch f).sharesType h
  | openSelector => exact (sameFields_startSelector f).sharesType h
  | pick event => exact (sameFields_pick f event).sharesType h
  | applySelector => exact (sameFields_applySelector f).sharesType h
  | validate => exact (sameFields_validate f).sharesType h
  | buildPayload => exact (sameFields_buildPayload f).sharesType h
  | submit =>
    have hdraft := congrArg Draft.channelType (fields_startSubmit f).2
    exact h.of_step (e := .finalize) rfl (pool_startSubmit f) hdraft
  | reset => exact rfl
  | openForm | load | clearModels | fillBasic | fillAll | cancelSelector | close => exact h

theorem SharesType.resume (h : f.SharesType) (w : Waiting) (reply : Reply) :
    (f.resume w reply).1.SharesType := by
  cases w with
  | catalog => cases reply <;> exact h
  | groups =>
    cases reply with
    | names xs => exact (sameFields_startChannel { f with groupOptions := xs }).sharesType h
    | refused r => exact (sameFields_startChannel (f.notify _)).sharesType h
    | _ => exact h
  | channel opening =>
    cases reply with
    | envelope e => exact h.takeOver opening e
    | _ => exact h
  | fetch pending =>
    cases reply with
    | models xs => exact (sameFields_finishFetch f pending xs).sharesType h
    | _ => exact h
  | selection =>
    cases reply with
    | models xs => exact (sameFields_finishSelector f xs).sharesType h
    | _ => exact h
  | save =>
    cases reply with
    | envelope e => exact h.finishSubmit e
    | _ => exact h

theorem SharesType.after (h : f.SharesType) {m : Move} (hm : m.IsOffered) :
    (f.after m).SharesType := by
  cases m with
  | begin op => exact h.start hm
  | reply w reply => exact h.resume w reply

/-! ### The models of a form as a resolver -/

/-- Whether the models of a form are as they were, or one event or one answer later. -/
def ModelsFollow (f g : Form) : Prop := f.models.Follows g.models

theorem modelsFollow_changeType (f : Form) (channelType : Int) :
    f.ModelsFollow (f.changeType channelType).1 := by
  have hmodels : (f.changeType channelType).1.models =
      (f.models.step (.changeType channelType)).1 := by
    unfold changeType
    simp only
    split <;> rfl
  rw [ModelsFollow, hmodels]
  exact .event _

theorem modelsFollow_setField (f : Form) (name : Text) (v : Json) :
    f.ModelsFollow (f.setField name v).1 := by
  have hsets := f.sets_setField name v
  generalize f.setField name v = r at hsets ⊢
  cases hsets with
  | type => exact modelsFollow_changeType f _
  | models => exact .event (.setModels _)
  | address => exact .event .invalidate
  | refused | plain => exact .same

theorem modelsFollow_editKeys (f : Form) (event : Credential.Event) :
    f.ModelsFollow (f.editKeys event).1 := by
  unfold editKeys ModelsFollow
  simp only
  split
  · exact .same
  · exact .event .invalidate

theorem modelsFollow_fillTemplate (f : Form) (name : Text) :
    f.ModelsFollow (f.fillTemplate name).1 := by
  have hfills := f.fills_fillTemplate name
  generalize f.fillTemplate name = r at hfills ⊢
  cases hfills with
  | refused | filled => exact .same

theorem modelsFollow_addCustom (hf : f.mangled? = none) (text : Text) :
    f.ModelsFollow (f.addCustom text).1 := by
  unfold addCustom
  rw [hf]
  split
  · exact .same
  · exact .event (.addCustom text)

theorem modelsFollow_applySelector (f : Form) : f.ModelsFollow f.applySelector := by
  unfold applySelector
  split
  · exact .event (.setModels _)
  · exact .same

theorem modelsFollow_finishFetch (hf : f.mangled? = none) (pending : Model.Resolver.Pending)
    (names : List Model.Name) : f.ModelsFollow (f.finishFetch pending names).1 := by
  rw [finishFetch_of_isList hf]
  split
  · exact .same
  · exact .answer pending names

theorem modelsFollow_startChannel (f : Form) : f.ModelsFollow f.startChannel.1 := by
  unfold startChannel
  split
  · exact .same
  · exact .event .fillBasic

theorem modelsFollow_takeOver (f : Form) (opening : Bool) (e : Envelope) :
    f.ModelsFollow (f.takeOver opening e).1 := by
  have htakes := f.takesOver_takeOver opening e
  generalize f.takeOver opening e = r at htakes ⊢
  cases htakes with
  | @loaded p => exact .event (.hydrate (Names.split p.models) p.channelType)
  | refused | malformed | unloadable => exact .same

theorem modelsFollow_startFetch (f : Form) : f.ModelsFollow f.startFetch.1 := by
  unfold startFetch
  split
  · exact .same
  · exact .same

theorem modelsFollow_startSelector (f : Form) : f.ModelsFollow f.startSelector.1 := by
  unfold startSelector
  simp only
  split
  · exact .same
  · exact .same

theorem modelsFollow_finishSelector (f : Form) (names : List Model.Name) :
    f.ModelsFollow (f.finishSelector names).1 := by
  unfold finishSelector
  split
  · exact .same
  · exact .same

theorem modelsFollow_startSubmit (f : Form) : f.ModelsFollow f.startSubmit.1 := by
  unfold startSubmit
  simp only
  split
  · exact .same
  · split
    · exact .same
    · exact .same
    · exact .same

theorem modelsFollow_finishSubmit (f : Form) (e : Envelope) :
    f.ModelsFollow (f.finishSubmit e).1 := by
  unfold finishSubmit
  split
  · unfold saved
    cases hedit : f.isEdit with
    | true => exact .same
    | false => exact .event (.hydrate [] ChannelType.default)
  · exact .same

theorem modelsFollow_start (hf : f.mangled? = none) (op : Op) :
    f.ModelsFollow (f.start op).1 := by
  cases op with
  | setField name value =>
    rw [start, fst_resultOf]
    exact modelsFollow_setField f name value
  | changeType channelType => exact modelsFollow_changeType f channelType
  | editKeys event => exact modelsFollow_editKeys f event
  | fillTemplate field =>
    rw [start, fst_resultOf]
    exact modelsFollow_fillTemplate f field
  | addCustom text =>
    rw [start, fst_resultOf]
    exact modelsFollow_addCustom hf text
  | clearModels => exact .event .clear
  | fillBasic => exact .event .fillBasic
  | fillAll => exact .event .fillAll
  | fetchModels => exact modelsFollow_startFetch f
  | openSelector => exact modelsFollow_startSelector f
  | pick event =>
    unfold start
    simp only
    split
    · split
      · exact .same
      · exact .same
    · exact .same
  | applySelector => exact modelsFollow_applySelector f
  | validate =>
    unfold start validate
    simp only
    cases f.problem? with
    | none => exact .same
    | some n => exact .same
  | buildPayload =>
    unfold start
    simp only
    split
    · exact .same
    · exact .same
  | submit => exact modelsFollow_startSubmit f
  | reset => exact .event (.hydrate [] ChannelType.default)
  | openForm | load | credential event | cancelSelector | close => exact .same

theorem modelsFollow_resume (hf : f.mangled? = none) (w : Waiting) (reply : Reply) :
    f.ModelsFollow (f.resume w reply).1 := by
  cases w with
  | catalog =>
    cases reply with
    | names xs => exact .event (.loadCatalog xs)
    | _ => exact .same
  | groups =>
    cases reply with
    | names xs => exact modelsFollow_startChannel { f with groupOptions := xs }
    | refused r => exact modelsFollow_startChannel (f.notify _)
    | _ => exact .same
  | channel opening =>
    cases reply with
    | envelope e => exact modelsFollow_takeOver f opening e
    | _ => exact .same
  | fetch pending =>
    cases reply with
    | models xs => exact modelsFollow_finishFetch hf pending xs
    | _ => exact .same
  | selection =>
    cases reply with
    | models xs => exact modelsFollow_finishSelector f xs
    | _ => exact .same
  | save =>
    cases reply with
    | envelope e => exact modelsFollow_finishSubmit f e
    | _ => exact .same

/-- A move is at most one event or one answer for the models. -/
theorem modelsFollow_after (hf : f.mangled? = none) (m : Move) : f.ModelsFollow (f.after m) := by
  cases m with
  | begin op => exact modelsFollow_start hf op
  | reply w reply => exact modelsFollow_resume hf w reply

/-! ### What moves preserve -/

/-- Whether the parts of a form are in step: draft, pool and models have the same type, what the
type offers first is up to date, and the keys are shown one by one only where that is allowed. -/
structure InStep (f : Form) : Prop where
  consistent : f.Consistent
  shares : f.SharesType
  current : f.models.IsCurrent
  allowed : f.pool.ListAllowed

theorem inStep_new (channelId? : Option Int) (announces : Bool) :
    ({ channelId?, announces } : Form).InStep where
  consistent := consistent_new channelId? announces
  shares := rfl
  current := Model.Resolver.isCurrent_ofType ChannelType.default
  allowed := Credential.Pool.listAllowed_of_single rfl

theorem InStep.after (h : f.InStep) {m : Move} (hm : m.IsOffered) : (f.after m).InStep where
  consistent := consistent_after h.consistent m
  shares := h.shares.after hm
  current := by
    have hfollows : f.models.Follows (f.after m).models := modelsFollow_after h.consistent.isList m
    exact h.current.follows hfollows
  allowed := by
    rcases poolFollows_after f m with hsame | ⟨e, -, hstep⟩
    · rw [hsame]
      exact h.allowed
    · rw [hstep]
      exact Credential.Pool.listAllowed_step h.allowed e

theorem InStep.afterAll (h : f.InStep) {moves : List Move} (hmoves : ∀ m ∈ moves, m.IsOffered) :
    (f.afterAll moves).InStep := by
  induction moves generalizing f with
  | nil => exact h
  | cons m moves ih =>
    rw [List.forall_mem_cons] at hmoves
    exact ih (h.after hmoves.1) hmoves.2

/-! ### Main statement -/

/-- Whether all parts of a form agree about the type. -/
structure Agrees (f : Form) : Prop where
  pool : f.pool.channelType = f.draft.channelType
  models : f.models.channelType = f.draft.channelType
  basic : f.models.basic = ChannelType.basicModels f.draft.channelType f.models.catalog
  list : f.pool.mode = .list → f.profile.multiKeyView = true

theorem InStep.agrees (h : f.InStep) : f.Agrees where
  pool := h.shares
  models := h.consistent.channelType
  basic := by
    rw [← h.consistent.channelType]
    exact h.current
  list := by
    intro hlist
    have hshares : f.pool.channelType = f.draft.channelType := h.shares
    have henabled := h.allowed hlist
    rw [Credential.Pool.listViewEnabled, hshares, Bool.and_eq_true] at henabled
    exact henabled.1

/-- After any moves from the beginning, the draft, the pool and the models have the same type, what
it offers first is worked out from this type and the present catalog, and the keys are shown one by
one only if the type allows it. -/
theorem agrees_afterAll (channelId? : Option Int) (announces : Bool) {moves : List Move}
    (hmoves : ∀ m ∈ moves, m.IsOffered) :
    (({ channelId?, announces } : Form).afterAll moves).Agrees :=
  ((inStep_new channelId? announces).afterAll hmoves).agrees

/-- Two keys are typed and shown one by one, then a type is chosen that allows no such thing, and at
last something that is no type. -/
def retyping : List Move :=
  [.begin (.editKeys (.input "sk-a,sk-b")), .begin (.changeType 41),
    .begin (.setField "type" (.str "Vertex AI"))]

theorem agrees_afterAll_retyping :
    (∀ m ∈ retyping, m.IsOffered) ∧ (({} : Form).afterAll (retyping.take 1)).pool.mode = .list ∧
      (({} : Form).afterAll retyping).draft.channelType = 41 ∧
      (({} : Form).afterAll retyping).Agrees := by
  have hoffered : ∀ m ∈ retyping, m.IsOffered := by
    intro m hm
    simp only [retyping, List.mem_cons, List.not_mem_nil, or_false] at hm
    rcases hm with rfl | rfl | rfl
    · exact ⟨.obj [("action", .str "input"), ("value", .str "sk-a,sk-b")], rfl⟩
    · exact trivial
    · exact trivial
  exact ⟨hoffered, rfl, rfl, agrees_afterAll none true hoffered⟩

end Form

end Editor

end ChannelConsole
