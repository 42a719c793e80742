import ChannelConsole.Proofs.Credential.Usable
import ChannelConsole.Proofs.Editor.Submitting

/-!
# The keys of a form

The pool of a form is a pool like any other: each move leaves it alone or is one event for it
(`poolFollows_after`), so what holds of pools holds of the pools of forms (`pool_afterAll`).

A new channel is created with what is in the pool. A form is refused when that text is empty, but
not when it is made of blanks and delimiters, and such a channel has no key that could be used
(`asks_createChannel_keys`). If every text that comes into the pool has a key in it, every channel
that is created has one.
-/

namespace ChannelConsole.Editor

open Channel Backend

/-! ### Moves as events for the keys -/

/-- The events for the keys that a move can be. -/
def Move.keyEvents : Move → List Credential.Event
  | .begin (.credential event) | .begin (.editKeys event) => [event]
  | .begin (.changeType channelType) => [.changeType channelType]
  | .begin (.setField _ v) => (Form.typeCode v).toOption.toList.map .changeType
  | .begin .submit => [.finalize]
  | .begin .reset => [.reset ChannelType.default]
  | .reply (.channel _) (.envelope e) =>
    match Move.record? e with
    | some p => [.hydrate (some p.key) p.channelType]
    | none => []
  | .reply .save (.envelope _) => [.reset ChannelType.default]
  | _ => []

/-- Whether the texts that a move brings into the pool have keys. -/
def Move.BringsKeys (m : Move) : Prop := ∀ e ∈ m.keyEvents, e.BringsKeys

namespace Form

variable {f g : Form} {p : Payload}

/-- Whether a pool is as it was, or one event later. -/
def PoolFollows (f : Form) (events : List Credential.Event) (g : Form) : Prop :=
  g.pool = f.pool ∨ ∃ e ∈ events, g.pool = (f.pool.step e).1

theorem SameFields.poolFollows (h : f.SameFields g) (events : List Credential.Event) :
    f.PoolFollows events g := .inl h.pool

theorem pool_changeType (f : Form) (channelType : Int) :
    (f.changeType channelType).1.pool = (f.pool.step (.changeType channelType)).1 := by
  unfold changeType
  simp only
  split <;> rfl

theorem poolFollows_setField (name : Text) (v : Json) :
    f.PoolFollows (Move.keyEvents (.begin (.setField name v))) (f.setField name v).1 := by
  have hsets := f.sets_setField name v
  generalize f.setField name v = r at hsets ⊢
  cases hsets with
  | type hcode =>
    refine .inr ⟨.changeType _, ?_, pool_changeType f _⟩
    rw [Move.keyEvents, hcode]
    exact List.mem_singleton_self _
  | refused | models | address | plain => exact .inl rfl

theorem poolFollows_fillTemplate (events : List Credential.Event) (name : Text) :
    f.PoolFollows events (f.fillTemplate name).1 := by
  have hfills := f.fills_fillTemplate name
  generalize f.fillTemplate name = r at hfills ⊢
  cases hfills with
  | refused | filled => exact .inl rfl

theorem poolFollows_takeOver (opening : Bool) (e : Envelope) :
    f.PoolFollows (Move.keyEvents (.reply (.channel opening) (.envelope e)))
      (f.takeOver opening e).1 := by
  have htakes := f.takesOver_takeOver opening e
  generalize f.takeOver opening e = r at htakes ⊢
  cases htakes with
  | loaded diagnostics hsuccess hcheck hload =>
    refine .inr ⟨.hydrate (some _) _, ?_, rfl⟩
    simp only [Move.keyEvents, Move.record?_of_check hsuccess hcheck, List.mem_singleton]
  | refused | malformed | unloadable => exact .inl rfl

theorem pool_startSubmit (f : Form) : f.startSubmit.1.pool = (f.pool.step .finalize).1 := by
  unfold startSubmit
  simp only
  split
  · rfl
  · split <;> rfl

theorem poolFollows_finishSubmit (e : Envelope) :
    f.PoolFollows [.reset ChannelType.default] (f.finishSubmit e).1 := by
  unfold finishSubmit
  split
  · unfold saved
    by_cases hedit : f.isEdit = true
    · simp only [hedit, if_true]
      exact .inl rfl
    · simp only [hedit]
      exact .inr ⟨_, List.mem_singleton_self _, rfl⟩
  · exact .inl rfl

/-- A move leaves the pool of a form alone, or is one event for it. -/
theorem poolFollows_after (f : Form) (m : Move) : f.PoolFollows m.keyEvents (f.after m) := by
  cases m with
  | begin op =>
    show f.PoolFollows _ (f.start op).1
    cases op with
    | setField name value =>
      rw [start, fst_resultOf]
      exact poolFollows_setField name value
    | changeType channelType =>
      exact .inr ⟨_, List.mem_singleton_self _, pool_changeType f channelType⟩
    | credential event => exact .inr ⟨event, List.mem_singleton_self _, rfl⟩
    | editKeys event => exact .inr ⟨event, List.mem_singleton_self _, rfl⟩
    | fillTemplate field =>
      rw [start, fst_resultOf]
      exact poolFollows_fillTemplate _ field
    | addCustom text =>
      rw [start, fst_resultOf]
      exact (sameFields_addCustom f text).poolFollows _
    | reset => exact .inr ⟨_, List.mem_singleton_self _, rfl⟩
    | submit => exact .inr ⟨_, List.mem_singleton_self _, pool_startSubmit f⟩
    | fetchModels => exact (sameFields_startFetch f).poolFollows _
    | openSelector => exact (sameFields_startSelector f).poolFollows _
    | applySelector => exact (sameFields_applySelector f).poolFollows _
    | pick event => exact (sameFields_pick f event).poolFollows _
    | validate => exact (sameFields_validate f).poolFollows _
    | buildPayload => exact (sameFields_buildPayload f).poolFollows _
    | _ => exact .inl rfl
  | reply w reply =>
    show f.PoolFollows _ (f.resume w reply).1
    cases w with
    | groups =>
      cases reply with
      | names xs => exact (sameFields_startChannel { f with groupOptions := xs }).poolFollows _
      | refused r => exact (sameFields_startChannel (f.notify _)).poolFollows _
      | _ => exact .inl rfl
    | channel opening =>
      cases reply with
      | envelope e => exact poolFollows_takeOver opening e
      | _ => exact .inl rfl
    | fetch pending =>
      cases reply with
      | models xs => exact (sameFields_finishFetch f pending xs).poolFollows _
      | _ => exact .inl rfl
    | selection =>
      cases reply with
      | models xs => exact (sameFields_finishSelector f xs).poolFollows _
      | _ => exact .inl rfl
    | save =>
      cases reply with
      | envelope e => exact poolFollows_finishSubmit e
      | _ => exact .inl rfl
    | catalog => cases reply <;> exact .inl rfl

/-- What moves make of the pool of a form, events make of it. -/
theorem pool_afterAll (f : Form) (moves : List Move) :
    ∃ events, (∀ e ∈ events, ∃ m ∈ moves, e ∈ m.keyEvents) ∧
      (f.afterAll moves).pool = f.pool.run events := by
  induction moves generalizing f with
  | nil => exact ⟨[], fun _ he => absurd he List.not_mem_nil, rfl⟩
  | cons m moves ih =>
    obtain ⟨events, hevents, hpool⟩ := ih (f.after m)
    have hrest : ∀ e ∈ events, ∃ m' ∈ m :: moves, e ∈ m'.keyEvents := by
      intro e he
      obtain ⟨m', hm', hmem⟩ := hevents e he
      exact ⟨m', List.mem_cons_of_mem m hm', hmem⟩
    have hall : (f.afterAll (m :: moves)).pool = ((f.after m).afterAll moves).pool := rfl
    rw [hall, hpool]
    rcases poolFollows_after f m with hsame | ⟨e, he, hstep⟩
    · exact ⟨events, hrest, by rw [hsame]⟩
    · refine ⟨e :: events, ?_, by rw [hstep]; rfl⟩
      rw [List.forall_mem_cons]
      exact ⟨⟨m, List.mem_cons_self, he⟩, hrest⟩

/-- If moves bring keys, there is a key in the text to be stored, unless it is empty. -/
theorem isSolid_raw_afterAll (channelId? : Option Int) (announces : Bool) {moves : List Move}
    (h : ∀ m ∈ moves, m.BringsKeys) :
    Credential.IsSolid (({ channelId?, announces } : Form).afterAll moves).pool.raw := by
  obtain ⟨events, hevents, hpool⟩ := pool_afterAll ({ channelId?, announces } : Form) moves
  rw [hpool]
  have hnew : ({ channelId?, announces } : Form).pool.Solid := Credential.isSolid_empty
  apply Credential.Pool.Solid.raw
  apply Credential.Pool.solid_run hnew
  intro e he
  obtain ⟨m, hm, hmem⟩ := hevents e he
  exact h m hm e hmem

/-! ### The calls by which channels are saved -/

/-- How far an operation is after a move. -/
def progress (f : Form) : Move → Progress
  | .begin op => (f.start op).2
  | .reply w reply => (f.resume w reply).2

/-- Whether a form makes a call in a move. -/
def Asks (f : Form) (m : Move) (call : Call) : Prop := ∃ w, f.progress m = .waiting call w

variable {call : Call}

/-- A reply leads to no call but those by which an editor is opened. -/
theorem not_asks_write_of_reply (hcall : Store.isWrite call = true) (f : Form) (w : Waiting)
    (reply : Reply) : ¬ f.Asks (.reply w reply) call := by
  rintro ⟨w', h⟩
  have hresume : f.resume w reply = ((f.resume w reply).1, .waiting call w') := Prod.ext rfl h
  have hrank := rank_lt_of_resume hresume
  cases w with
  | catalog =>
    cases reply with
    | names | refused =>
      obtain ⟨rfl, -⟩ := Progress.waiting.inj h
      cases hcall
    | _ => cases h
  | groups =>
    have hchannel : ∀ g : Form, g.startChannel.2 ≠ .waiting call w' := by
      intro g
      unfold startChannel
      split
      · intro h
        obtain ⟨rfl, -⟩ := Progress.waiting.inj h
        cases hcall
      · rintro ⟨⟩
    cases reply with
    | names xs => exact hchannel _ h
    | refused r => exact hchannel _ h
    | _ => cases h
  | _ => exact absurd hrank (Nat.not_lt_zero _)

/-- No question to a provider saves a channel. -/
theorem callOf_ne_write (hcall : Store.isWrite call = true) (query : Model.Resolver.Query) :
    callOf query ≠ call := by
  rintro rfl
  cases query <;> cases hcall

/-- No operation but saving begins with the saving of a channel. -/
theorem eq_submit_of_start (hcall : Store.isWrite call = true) {op : Op} {w : Waiting}
    (h : (f.start op).2 = .waiting call w) : op = .submit := by
  cases hlocal : op.isLocal with
  | true =>
    obtain ⟨result, hdone⟩ := start_of_isLocal f hlocal
    rw [hdone] at h
    cases h
  | false =>
    cases op with
    | submit => rfl
    | fetchModels =>
      have h : f.startFetch.2 = .waiting call w := h
      unfold startFetch at h
      split at h
      · cases h
      · exact absurd (Progress.waiting.inj h).1 (callOf_ne_write hcall _)
    | openSelector =>
      have h : f.startSelector.2 = .waiting call w := h
      unfold startSelector at h
      simp only at h
      split at h
      · cases h
      · exact absurd (Progress.waiting.inj h).1 (callOf_ne_write hcall _)
    | openForm | load =>
      obtain ⟨rfl, -⟩ := Progress.waiting.inj h
      cases hcall
    | _ => cases hlocal

/-- A form for a stored channel is saved by a change of that channel, and another one by the
creation of a channel. -/
theorem saveCall_eq_createChannel_iff {q : Payload} :
    f.saveCall q = .createChannel p ↔ f.isEdit = false ∧ q = p := by
  rw [saveCall]
  cases f.isEdit with
  | true => simp
  | false => simp

/-- A channel is created by saving a form for a new channel without problems and by nothing else. -/
theorem asks_createChannel_iff (hf : f.mangled? = none) {m : Move} :
    f.Asks m (.createChannel p) ↔
      m = .begin .submit ∧ f.isEdit = false ∧ f.problem? = none ∧ f.payload = .ok p := by
  constructor
  · rintro ⟨w, h⟩
    cases m with
    | reply w' reply => exact absurd ⟨w, h⟩ (not_asks_write_of_reply rfl f w' reply)
    | begin op =>
      obtain rfl := eq_submit_of_start rfl h
      have h : f.startSubmit.2 = .waiting (.createChannel p) w := h
      rcases startSubmit_cases hf with ⟨n, -, hstart⟩ | ⟨-, -, hstart⟩ | ⟨hvalid, q, hq, hstart⟩
      · rw [hstart] at h
        cases h
      · rw [hstart] at h
        cases h
      · rw [hstart] at h
        obtain ⟨hedit, rfl⟩ := saveCall_eq_createChannel_iff.1 (Progress.waiting.inj h).1
        exact ⟨rfl, hedit, validate_eq_none_iff.1 hvalid, hq⟩
  · rintro ⟨rfl, hedit, hproblem, hp⟩
    refine ⟨.save, ?_⟩
    show f.startSubmit.2 = _
    rw [startSubmit_of_payload hproblem hp, saveCall_eq_createChannel_iff.2 ⟨hedit, rfl⟩]

/-! ### Main statement -/

/-- A channel that a form creates has the keys of the form, in a text that is not empty. It has no
key exactly if that text is made of blanks and delimiters, which cannot be if every text that was
brought in has a key. -/
theorem asks_createChannel_keys {channelId? : Option Int} {announces : Bool} {moves : List Move}
    {m : Move} (h : (({ channelId?, announces } : Form).afterAll moves).Asks m (.createChannel p)) :
    p.key ≠ "" ∧
      Credential.split p.key = (({ channelId?, announces } : Form).afterAll moves).pool.keys ∧
      (Credential.split p.key = [] ↔
        ∀ c ∈ p.key.toList, Text.isBlank c = true ∨ Credential.isDelimiter c = true) ∧
      ((∀ m ∈ moves, m.BringsKeys) → Credential.split p.key ≠ []) := by
  have hreach : (({ channelId?, announces } : Form).afterAll moves).Reachable :=
    ⟨channelId?, announces, moves, rfl⟩
  obtain ⟨-, hedit, hproblem, hp⟩ := (asks_createChannel_iff hreach.consistent.isList).1 h
  have hkey := (hasRecord_of_payload hp).key
  have hne : p.key ≠ "" := by
    rw [hkey]
    exact ((problem?_eq_none_iff.1 hproblem).1 hedit).2
  refine ⟨hne, by rw [hkey, Credential.Pool.keys], Credential.split_eq_nil_iff, fun hmoves => ?_⟩
  rw [hkey] at hne ⊢
  exact isSolid_raw_afterAll channelId? announces hmoves hne

/-- A form for a new channel in which a key is typed. -/
def typing (key : Text) : List Move :=
  [.begin (.setField "name" (.str "relay")), .begin (.setField "models" (.str "gpt-4o")),
    .begin (.editKeys (.input key))]

theorem asks_createChannel_keys_typing :
    (({} : Form).afterAll (typing "sk-a")).Asks (.begin .submit)
        (.createChannel { name := "relay", key := "sk-a", models := "gpt-4o" }) ∧
      Credential.split "sk-a" ≠ [] := by
  have hasks : (({} : Form).afterAll (typing "sk-a")).Asks (.begin .submit)
      (.createChannel { name := "relay", key := "sk-a", models := "gpt-4o" }) := ⟨.save, rfl⟩
  have hmoves : ∀ m ∈ typing "sk-a", m.BringsKeys := by
    intro m hm e he
    simp only [typing, List.mem_cons, List.not_mem_nil, or_false] at hm
    rcases hm with rfl | rfl | rfl
    · cases he
    · cases he
    · obtain rfl := List.mem_singleton.1 he
      intro _
      decide
  obtain ⟨-, -, -, hkeys⟩ := asks_createChannel_keys hasks
  exact ⟨hasks, hkeys hmoves⟩

/-- A blank is taken for a key, and a channel without a key is created. -/
theorem asks_createChannel_blank :
    (({} : Form).afterAll (typing " ")).Asks (.begin .submit)
        (.createChannel { name := "relay", key := " ", models := "gpt-4o" }) ∧
      Credential.split " " = [] :=
  ⟨⟨.save, rfl⟩, by decide⟩

end Form

end ChannelConsole.Editor
