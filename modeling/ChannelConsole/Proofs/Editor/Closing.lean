import ChannelConsole.Proofs.Editor.Keys

/-!
# What a closed editor writes

An editor is closed when its channel was saved, when its form turns out to be broken, and when it is
given up. That it is closed is told to the user and is not looked at again: two forms that differ
at most in that make the same calls, whatever is done to them (`matches_move`). So a closed form
writes whenever it is saved while nothing is wrong with it, like any other form (`asks_write_iff`).

What keeps a closed form from being written once more is only what closing happens to take away. A
form for a new channel is emptied when the channel was saved, and writes nothing until it has a name
again; a form for a stored channel keeps what it has, and sends the same record again
(`writes_when_closed`).
-/

namespace ChannelConsole.Editor

open Channel Backend

/-- Whether a move brings a name: it is set, or a stored channel may be taken over. -/
def Move.BringsName : Move → Prop
  | .begin (.setField name _) => name = "name"
  | .reply (.channel _) (.envelope _) => True
  | _ => False

namespace Form

/-- The form as if it had not been closed. -/
def reopened (f : Form) : Form := { f with closed := false }

/-- Whether two results differ at most in whether the form is closed. -/
def Matches {α : Type} (x y : Form × α) : Prop := x.1.reopened = y.1.reopened ∧ x.2 = y.2

variable {f g : Form} {p : Payload} {call : Call} {m : Move} {moves : List Move}

/-! ### Closed or not -/

theorem matches_ite {α : Type} {c : Prop} [Decidable c] {x y x' y' : Form × α}
    (h : Matches x y) (h' : Matches x' y') :
    Matches (if c then x else x') (if c then y else y') := by
  split
  · exact h
  · exact h'

@[simp] theorem channelId?_reopened (f : Form) : f.reopened.channelId? = f.channelId? := rfl
@[simp] theorem draft_reopened (f : Form) : f.reopened.draft = f.draft := rfl
@[simp] theorem pool_reopened (f : Form) : f.reopened.pool = f.pool := rfl
@[simp] theorem models_reopened (f : Form) : f.reopened.models = f.models := rfl
@[simp] theorem selector?_reopened (f : Form) : f.reopened.selector? = f.selector? := rfl
@[simp] theorem mangled?_reopened (f : Form) : f.reopened.mangled? = f.mangled? := rfl
@[simp] theorem isEdit_reopened (f : Form) : f.reopened.isEdit = f.isEdit := rfl
@[simp] theorem profile_reopened (f : Form) : f.reopened.profile = f.profile := rfl
@[simp] theorem problem?_reopened (f : Form) : f.reopened.problem? = f.problem? := rfl
@[simp] theorem payload_reopened (f : Form) : f.reopened.payload = f.payload := rfl

theorem matches_setPlain (f : Form) (field : Draft.Field) (v : Json) :
    Matches (f.reopened.setPlain field v) (f.setPlain field v) := by
  simp only [setPlain, draft_reopened]
  split
  · exact ⟨rfl, rfl⟩
  · split
    · split <;> exact ⟨rfl, rfl⟩
    · exact ⟨rfl, rfl⟩

theorem matches_changeType (f : Form) (channelType : Int) :
    Matches (f.reopened.changeType channelType) (f.changeType channelType) := by
  refine ⟨?_, rfl⟩
  unfold changeType
  by_cases hreplaced : (f.models.changeType channelType).2 = true
  · simp only [models_reopened, hreplaced, if_true]
    rfl
  · simp only [models_reopened, hreplaced]
    rfl

theorem matches_setField (f : Form) (name : Text) (v : Json) :
    Matches (f.reopened.setField name v) (f.setField name v) := by
  simp only [setField, models_reopened]
  split
  · split
    · exact ⟨(matches_changeType f _).1, rfl⟩
    · exact ⟨rfl, rfl⟩
  split
  · split <;> exact ⟨rfl, rfl⟩
  split
  · exact ⟨rfl, rfl⟩
  · exact matches_setPlain f _ v

theorem matches_fillTemplate (f : Form) (name : Text) :
    Matches (f.reopened.fillTemplate name) (f.fillTemplate name) := by
  unfold fillTemplate
  refine matches_ite ⟨rfl, rfl⟩ ?_
  simp only [draft_reopened]
  split
  · split <;> exact ⟨rfl, rfl⟩
  · exact ⟨rfl, rfl⟩

theorem matches_addCustom (f : Form) (text : Text) :
    Matches (f.reopened.addCustom text) (f.addCustom text) := by
  simp only [addCustom, models_reopened, mangled?_reopened]
  split
  · exact ⟨rfl, rfl⟩
  split
  · exact ⟨rfl, rfl⟩
  · split <;> exact ⟨rfl, rfl⟩

theorem matches_startFetch (f : Form) : Matches f.reopened.startFetch f.startFetch := by
  simp only [startFetch, models_reopened, draft_reopened, pool_reopened, channelId?_reopened]
  split <;> exact ⟨rfl, rfl⟩

theorem matches_startSelector (f : Form) :
    Matches f.reopened.startSelector f.startSelector := by
  unfold startSelector
  by_cases hblank : Text.isAllBlank f.pool.raw = true
  · simp only [models_reopened, draft_reopened, pool_reopened, channelId?_reopened, hblank, if_true]
    split <;> exact ⟨rfl, rfl⟩
  · simp only [models_reopened, draft_reopened, pool_reopened, hblank, Bool.false_eq_true, if_false]
    split <;> exact ⟨rfl, rfl⟩

theorem matches_startSubmit (f : Form) : Matches f.reopened.startSubmit f.startSubmit := by
  rw [startSubmit_eq, startSubmit_eq, problem?_reopened, payload_reopened]
  split
  · exact ⟨rfl, rfl⟩
  · split <;> exact ⟨rfl, rfl⟩

theorem matches_resultOf {α : Type} (answer : α → Answer) {x y : Form × Except Fault α}
    (h : Matches x y) : Matches (resultOf answer x) (resultOf answer y) := by
  obtain ⟨f, r⟩ := x
  obtain ⟨g, r'⟩ := y
  obtain ⟨hfg, rfl : r = r'⟩ := h
  cases r with
  | ok a => exact ⟨hfg, rfl⟩
  | error fault => exact ⟨hfg, rfl⟩

theorem matches_start (f : Form) (op : Op) : Matches (f.reopened.start op) (f.start op) := by
  cases op with
  | setField name v => exact matches_resultOf _ (matches_setField f name v)
  | changeType channelType =>
    have h := matches_changeType f channelType
    exact ⟨h.1, congrArg (fun o => Progress.answer (.outcome o)) h.2⟩
  | fillTemplate name => exact matches_resultOf _ (matches_fillTemplate f name)
  | addCustom text => exact matches_resultOf _ (matches_addCustom f text)
  | fetchModels => exact matches_startFetch f
  | openSelector => exact matches_startSelector f
  | pick event =>
    simp only [start, selector?_reopened]
    split
    · split <;> exact ⟨rfl, rfl⟩
    · exact ⟨rfl, rfl⟩
  | applySelector =>
    refine ⟨?_, rfl⟩
    simp only [start, applySelector, selector?_reopened]
    split <;> rfl
  | validate =>
    simp only [start, validate, problem?_reopened]
    split <;> exact ⟨rfl, rfl⟩
  | buildPayload =>
    simp only [start, payload_reopened]
    split <;> exact ⟨rfl, rfl⟩
  | submit => exact matches_startSubmit f
  | _ => exact ⟨rfl, rfl⟩

theorem matches_hydrate (f : Form) (p : Payload) :
    Matches (f.reopened.hydrate p) (f.hydrate p) := by
  unfold hydrate
  split
  split <;> exact ⟨rfl, rfl⟩

theorem matches_takeOver (f : Form) (opening : Bool) (e : Envelope) :
    Matches (f.reopened.takeOver opening e) (f.takeOver opening e) := by
  unfold takeOver
  refine matches_ite ?_ ?_
  · split
    · exact ⟨rfl, rfl⟩
    · rename_i p _
      have h := matches_hydrate f p
      generalize f.reopened.hydrate p = x at h ⊢
      generalize f.hydrate p = y at h ⊢
      obtain ⟨g, r⟩ := x
      obtain ⟨g', r'⟩ := y
      obtain ⟨hg, rfl : r = r'⟩ := h
      cases r with
      | ok u => exact ⟨hg, rfl⟩
      | error fault => exact ⟨hg, rfl⟩
  · exact ⟨rfl, rfl⟩

theorem matches_startChannel (f : Form) :
    Matches f.reopened.startChannel f.startChannel := by
  unfold startChannel
  exact matches_ite ⟨rfl, rfl⟩ ⟨rfl, rfl⟩

theorem matches_finishFetch (f : Form) (pending : Model.Resolver.Pending)
    (names : List Model.Name) :
    Matches (f.reopened.finishFetch pending names) (f.finishFetch pending names) := by
  obtain ⟨⟩ := f
  dsimp only [finishFetch, reopened]
  split
  · exact ⟨rfl, rfl⟩
  split
  · exact ⟨rfl, rfl⟩
  · split <;> exact ⟨rfl, rfl⟩

theorem matches_finishSelector (f : Form) (names : List Model.Name) :
    Matches (f.reopened.finishSelector names) (f.finishSelector names) := by
  simp only [finishSelector, selector?_reopened]
  split <;> exact ⟨rfl, rfl⟩

theorem matches_finishSubmit (f : Form) (e : Envelope) :
    Matches (f.reopened.finishSubmit e) (f.finishSubmit e) := by
  unfold finishSubmit
  refine matches_ite ⟨?_, rfl⟩ ⟨rfl, rfl⟩
  unfold saved
  by_cases hedit : f.isEdit = true
  · simp only [isEdit_reopened, hedit, if_true]
    rfl
  · simp only [isEdit_reopened, hedit]
    rfl

theorem matches_resume (f : Form) (w : Waiting) (reply : Reply) :
    Matches (f.reopened.resume w reply) (f.resume w reply) := by
  cases w with
  | catalog => cases reply <;> exact ⟨rfl, rfl⟩
  | groups =>
    cases reply with
    | names names => exact matches_startChannel { f with groupOptions := names }
    | refused r => exact matches_startChannel (f.notify { level := .error, message := r.words })
    | _ => exact ⟨rfl, rfl⟩
  | channel opening =>
    cases reply with
    | envelope e => exact matches_takeOver f opening e
    | _ => exact ⟨rfl, rfl⟩
  | fetch pending =>
    cases reply with
    | models names => exact matches_finishFetch f pending names
    | _ => exact ⟨rfl, rfl⟩
  | selection =>
    cases reply with
    | models names => exact matches_finishSelector f names
    | _ => exact ⟨rfl, rfl⟩
  | save =>
    cases reply with
    | envelope e => exact matches_finishSubmit f e
    | _ => exact ⟨rfl, rfl⟩

theorem matches_of_reopened {α : Type} {k : Form → Form × α}
    (h : ∀ f, Matches (k f.reopened) (k f)) (hfg : f.reopened = g.reopened) :
    Matches (k f) (k g) := by
  obtain ⟨hf, hf'⟩ := h f
  obtain ⟨hg, hg'⟩ := h g
  rw [hfg] at hf hf'
  exact ⟨hf.symm.trans hg, hf'.symm.trans hg'⟩

/-- Two forms that differ at most in whether they are closed do so after any move, and make the same
calls. -/
theorem matches_move (hfg : f.reopened = g.reopened) (m : Move) :
    Matches (f.after m, f.progress m) (g.after m, g.progress m) := by
  cases m with
  | begin op => exact matches_of_reopened (k := fun f => f.start op) (matches_start · op) hfg
  | reply w reply =>
    exact matches_of_reopened (k := fun f => f.resume w reply) (matches_resume · w reply) hfg

theorem reopened_afterAll (hfg : f.reopened = g.reopened) (moves : List Move) :
    (f.afterAll moves).reopened = (g.afterAll moves).reopened := by
  induction moves generalizing f g with
  | nil => exact hfg
  | cons m moves ih => exact ih (matches_move hfg m).1

theorem asks_iff_of_reopened (hfg : f.reopened = g.reopened) : f.Asks m call ↔ g.Asks m call := by
  have hprogress : f.progress m = g.progress m := (matches_move hfg m).2
  rw [Asks, Asks, hprogress]

/-! ### What is written -/

/-- A form writes when it is saved while there is no problem and it has a record, and only then. -/
theorem asks_write_iff (hcall : Store.isWrite call = true) :
    f.Asks m call ↔
      m = .begin .submit ∧ f.problem? = none ∧ ∃ p, f.payload = .ok p ∧ call = f.saveCall p := by
  constructor
  · rintro ⟨w, h⟩
    cases m with
    | reply w' reply => exact absurd ⟨w, h⟩ (not_asks_write_of_reply hcall f w' reply)
    | begin op =>
      obtain rfl := eq_submit_of_start hcall h
      have h : f.startSubmit.2 = .waiting call w := h
      rw [startSubmit_eq] at h
      split at h
      · cases h
      split at h
      · cases h
      · cases h
      · rename_i hproblem _ p hp
        exact ⟨rfl, hproblem, p, hp, (Progress.waiting.inj h).1.symm⟩
  · rintro ⟨rfl, hproblem, p, hp, rfl⟩
    refine ⟨.save, ?_⟩
    show f.startSubmit.2 = _
    rw [startSubmit_of_payload hproblem hp]

theorem asks_write_congr (hproblem : f.problem? = g.problem?) (hpayload : f.payload = g.payload)
    (hedit : f.isEdit = g.isEdit) (hcall : Store.isWrite call = true) :
    f.Asks m call ↔ g.Asks m call := by
  have hsave : ∀ p, f.saveCall p = g.saveCall p := by
    intro p
    rw [saveCall, saveCall, hedit]
  simp only [asks_write_iff hcall, hproblem, hpayload, hsave]

/-! ### A form that was emptied -/

theorem DraftStep.name {d d' : Draft} (h : DraftStep d m d') (hm : ¬ m.BringsName)
    (hd : d.name = "") : d'.name = "" := by
  cases h with
  | same => exact hd
  | retyped => exact hd
  | set hfield hassign =>
    refine (Draft.name_of_assign hassign ?_).trans hd
    rintro rfl
    exact hm (label_of_ofName? hfield).symm
  | filled htemplate hfield hassign =>
    refine (Draft.name_of_assign hassign ?_).trans hd
    rintro rfl
    rw [← label_of_ofName? hfield] at htemplate
    cases htemplate
  | loaded => exact absurd trivial hm
  | emptied => rfl

/-- A form for a new channel without a name stays one until a name is brought. -/
theorem nameless_afterAll (hedit : f.isEdit = false) (hname : f.draft.name = "")
    (hmoves : ∀ m ∈ moves, ¬ m.BringsName) :
    (f.afterAll moves).isEdit = false ∧ (f.afterAll moves).draft.name = "" := by
  induction moves generalizing f with
  | nil => exact ⟨hedit, hname⟩
  | cons m moves ih =>
    obtain ⟨hm, hmoves⟩ := List.forall_mem_cons.1 hmoves
    have hstep := fieldsFollow_after f m
    refine ih ?_ (hstep.draft.name hm hname) hmoves
    rw [isEdit, hstep.channelId?]
    exact hedit

theorem not_asks_write_of_nameless (hedit : f.isEdit = false) (hname : f.draft.name = "")
    (hcall : Store.isWrite call = true) : ¬ f.Asks m call := by
  intro h
  obtain ⟨-, hproblem, -⟩ := (asks_write_iff hcall).1 h
  exact ((problem?_eq_none_iff.1 hproblem).1 hedit).1 hname

/-! ### Main statement -/

/-- Whether a form is closed makes no difference to the calls that are made from then on. It writes
exactly when it is saved without a problem and with a record, so to give it up changes nothing about
what it writes. After its channel was saved it is closed; a form for a stored channel then writes
what it would have written before, and one for a new channel writes nothing until a name is brought.
A form with a text in the place of its models is closed when it is to be saved, and writes nothing
as long as the text is there. -/
theorem writes_when_closed (f : Form) :
    (∀ moves m call, (f.reopened.afterAll moves).Asks m call ↔ (f.afterAll moves).Asks m call) ∧
    (∀ m call, Store.isWrite call = true →
      (f.Asks m call ↔ m = .begin .submit ∧ f.problem? = none ∧
        ∃ p, f.payload = .ok p ∧ call = if f.isEdit then .updateChannel p else .createChannel p) ∧
      (f.close.Asks m call ↔ f.Asks m call)) ∧
    (∀ e, e.success = true →
      let g := f.after (.reply .save (.envelope e))
      g.closed = true ∧
      (f.isEdit = true →
        ∀ m call, Store.isWrite call = true → (g.Asks m call ↔ f.Asks m call)) ∧
      (f.isEdit = false →
        ∀ moves, (∀ m ∈ moves, ¬ m.BringsName) →
          ∀ m call, Store.isWrite call = true → ¬ (g.afterAll moves).Asks m call)) ∧
    (f.mangled?.isSome = true →
      (f.problem? = none → (f.after (.begin .submit)).closed = true) ∧
      ∀ m call, Store.isWrite call = true → ¬ f.Asks m call) := by
  refine ⟨fun moves m call => ?_, fun m call hcall => ⟨asks_write_iff hcall, ?_⟩,
    fun e he => ?_, fun hmangled => ?_⟩
  · have hreopened : f.reopened.reopened = f.reopened := rfl
    exact asks_iff_of_reopened (reopened_afterAll hreopened moves)
  · exact asks_write_congr rfl rfl rfl hcall
  · have hsaved : f.after (.reply .save (.envelope e)) = f.saved := by
      show (f.finishSubmit e).1 = f.saved
      rw [finishSubmit, if_pos he]
    rw [hsaved]
    refine ⟨rfl, fun hedit m call hcall => ?_, fun hedit moves hmoves m call hcall => ?_⟩
    · have hkept : f.saved.problem? = f.problem? ∧ f.saved.payload = f.payload ∧
          f.saved.isEdit = f.isEdit := by
        simp only [saved, hedit, if_true]
        exact ⟨rfl, rfl, hedit⟩
      exact asks_write_congr hkept.1 hkept.2.1 hkept.2.2 hcall
    · have hemptied : f.saved.isEdit = false ∧ f.saved.draft.name = "" := by
        simp only [saved, hedit, Bool.false_eq_true, if_false]
        exact ⟨hedit, rfl⟩
      obtain ⟨hnew, hname⟩ := nameless_afterAll hemptied.1 hemptied.2 hmoves
      exact not_asks_write_of_nameless hnew hname hcall
  · have hbroken : f.payload = .error (.broken "models must be a list, got str") := by
      rw [payload, if_pos hmangled]
    refine ⟨fun hproblem => ?_, fun m call hcall h => ?_⟩
    · show f.startSubmit.1.closed = true
      rw [startSubmit_eq, hproblem, hbroken]
      rfl
    · obtain ⟨-, -, p, hp, -⟩ := (asks_write_iff hcall).1 h
      rw [hbroken] at hp
      cases hp

/-- A form for a stored channel in which a model was selected. -/
def selecting : Form :=
  ({ channelId? := some 7 } : Form).after (.begin (.setField "models" (.str "gpt-4o")))

/-- A form that was saved is closed, and saves its channel again; so does one that was given up, and
one that was closed since it was broken, once models are selected. -/
theorem writes_when_closed_again :
    let saved := selecting.afterAll [.begin .submit, .reply .save (.envelope (.succeed .null))]
    let broken := (selecting.mangle "gpt-4o").after (.begin .submit)
    let call : Call := .updateChannel { id? := some 7, models := "gpt-4o" }
    (saved.closed = true ∧ saved.Asks (.begin .submit) call) ∧
      (selecting.close.closed = true ∧ selecting.close.Asks (.begin .submit) call) ∧
      (broken.closed = true ∧
        (broken.after (.begin (.setField "models" (.str "gpt-4o")))).Asks (.begin .submit) call) :=
  ⟨⟨rfl, .save, rfl⟩, ⟨rfl, .save, rfl⟩, rfl, .save, rfl⟩

end Form

end ChannelConsole.Editor
