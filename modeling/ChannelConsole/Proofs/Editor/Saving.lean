import ChannelConsole.Proofs.Credential.Pool
import ChannelConsole.Proofs.Editor.Run

/-!
# Saving is all or nothing

`perform_submit` says what becomes of a form that can come about when its channel is to be saved and
nothing else happens meanwhile. At most one call is made, and only for a form without problems. The
channel counts as saved exactly if that call was made and the reply says so. When it was not saved,
the form keeps everything but the view of its keys, which is settled; when it was saved, that is
announced once and the editor ends. Either way exactly one notice is added, which is the one that is
given back.

The ways in which saving can go are told apart once, before the call (`startSubmit_cases`) and after
it (`resume_save_cases`).
-/

namespace ChannelConsole.Editor

open Channel Backend

namespace Form

variable {f g : Form}

/-! ### The record that is sent -/

/-- The form with the view of its keys settled. -/
def settled (f : Form) : Form := { f with pool := f.pool.finalize.1 }

/-- Settling the view of the keys makes no problem and solves none. -/
theorem problem?_settled (f : Form) : f.settled.problem? = f.problem? := by
  unfold problem? settled
  simp only [Credential.Pool.raw_finalize]
  rfl

/-- The record that a form stands for is the same in every view of its keys. -/
theorem payload_settled (f : Form) : f.settled.payload = f.payload := by
  unfold payload settled
  simp only [Credential.Pool.raw_finalize]
  rfl

theorem validate_eq_none_iff : f.validate.2 = none ↔ f.problem? = none := by
  unfold validate
  cases f.problem? <;> simp

/-- What keeps a form from being saved is never told of as a success. -/
theorem level_of_validate {n : Notice} (h : f.validate.2 = some n) : n.level ≠ .success := by
  have hproblem : f.problem? = some n := by
    unfold validate at h
    cases hp : f.problem? <;> simp_all
  unfold problem? at hproblem
  repeat' split at hproblem
  all_goals simp only [Option.some.injEq, reduceCtorEq] at hproblem
  all_goals
    rw [← hproblem]
    simp

theorem bind_eq_error {α β : Type} {x : Except Fault α} {k : α → Except Fault β} {fault : Fault}
    (h : x >>= k = .error fault) : x = .error fault ∨ ∃ a, k a = .error fault := by
  cases x with
  | error e =>
    obtain rfl : e = fault := Except.error.inj h
    exact .inl rfl
  | ok a => exact .inr ⟨a, h⟩

theorem storedText_eq_error {v : Json} {fault : Fault} (h : storedText v = .error fault) :
    fault = .wrongKind := by
  unfold storedText at h
  split at h
  · simp at h
  · exact (Except.error.inj h).symm

/-- The record of a form whose selection is a list fails only for values of the wrong kind. -/
theorem payload_eq_error (hf : f.mangled? = none) {fault : Fault} (h : f.payload = .error fault) :
    fault = .wrongKind := by
  unfold payload at h
  simp only [hf, Option.isSome_none, Bool.false_eq_true, if_false] at h
  -- one part of the record after the other, in the order in which they are made
  rcases bind_eq_error h with h | ⟨other, h⟩
  · exact storedText_eq_error h
  rcases bind_eq_error h with h | ⟨models, h⟩
  · unfold modelText at h
    split at h
    · simp at h
    · exact (Except.error.inj h).symm
  rcases bind_eq_error h with h | ⟨modelMapping, h⟩
  · exact storedText_eq_error h
  rcases bind_eq_error h with h | ⟨statusCodeMapping, h⟩
  · exact storedText_eq_error h
  rcases bind_eq_error h with h | ⟨setting, h⟩
  · exact storedText_eq_error h
  rcases bind_eq_error h with h | ⟨paramOverride, h⟩
  · exact storedText_eq_error h
  · simp [pure, Except.pure] at h

/-! ### The ways in which saving can go -/

/-- The call by which the record of a form is saved. -/
def saveCall (f : Form) (p : Payload) : Call :=
  if f.isEdit then .updateChannel p else .createChannel p

/-- Saving begins in the same way in every view of the keys. -/
theorem startSubmit_eq (f : Form) : f.startSubmit =
    match f.problem? with
    | some n => f.settled.notSaved n
    | none =>
      match f.payload with
      | .error (.broken _) =>
        ((f.settled.notify brokenNotice).close, .answer (.submitted false brokenNotice))
      | .error fault => (f.settled, .fail fault)
      | .ok p => (f.settled, .waiting (f.saveCall p) .save) := by
  rw [← problem?_settled, ← payload_settled]
  rfl

theorem startSubmit_of_problem {n : Notice} (h : f.problem? = some n) :
    f.startSubmit = (f.settled.notify n, .answer (.submitted false n)) := by
  rw [startSubmit_eq, h]
  rfl

theorem startSubmit_of_payload {p : Payload} (h : f.problem? = none) (hp : f.payload = .ok p) :
    f.startSubmit = (f.settled, .waiting (f.saveCall p) .save) := by
  rw [startSubmit_eq, h, hp]

theorem startSubmit_of_wrongKind (h : f.problem? = none) (hp : f.payload = .error .wrongKind) :
    f.startSubmit = (f.settled, .fail .wrongKind) := by
  rw [startSubmit_eq, h, hp]

/-- Before the call: there is a problem, the form has no record, or its record is sent. -/
theorem startSubmit_cases (hf : f.mangled? = none) :
    (∃ n, f.validate.2 = some n ∧
      f.startSubmit = (f.settled.notify n, .answer (.submitted false n))) ∨
    (f.validate.2 = none ∧ f.payload = .error .wrongKind ∧
      f.startSubmit = (f.settled, .fail .wrongKind)) ∨
    (f.validate.2 = none ∧ ∃ p, f.payload = .ok p ∧
      f.startSubmit = (f.settled, .waiting (f.saveCall p) .save)) := by
  cases hproblem : f.problem? with
  | some n => exact .inl ⟨n, by rw [validate, hproblem], startSubmit_of_problem hproblem⟩
  | none =>
    have hvalid : f.validate.2 = none := validate_eq_none_iff.2 hproblem
    cases hpayload : f.payload with
    | error fault =>
      -- a record that is broken takes a selection that is no list
      obtain rfl := payload_eq_error hf hpayload
      exact .inr (.inl ⟨hvalid, rfl, startSubmit_of_wrongKind hproblem hpayload⟩)
    | ok p => exact .inr (.inr ⟨hvalid, p, rfl, startSubmit_of_payload hproblem hpayload⟩)

/-- After the call: the reply says that the channel was saved, or it is said why it was not. -/
theorem resume_save_cases (f : Form) {reply : Reply}
    (hreply : (∃ e, reply = .envelope e) ∨ ∃ r, reply = .refused r) :
    (reply.succeeds = true ∧
      f.resume .save reply = (f.saved, .answer (.submitted true f.savedNotice))) ∨
    (reply.succeeds = false ∧ ∃ n : Notice, n.level ≠ .success ∧
      f.resume .save reply = (f.notify n, .answer (.submitted false n))) := by
  rcases hreply with ⟨e, rfl⟩ | ⟨r, rfl⟩
  · show e.success = true ∧ f.finishSubmit e = _ ∨
      e.success = false ∧ ∃ n : Notice, n.level ≠ .success ∧ f.finishSubmit e = _
    unfold finishSubmit
    split
    case isTrue he => exact .inl ⟨he, rfl⟩
    case isFalse he => exact .inr ⟨Bool.eq_false_iff.2 he, _, by simp, rfl⟩
  · exact .inr ⟨rfl, _, by simp, rfl⟩

/-! ### What becomes of the form -/

/-- Whether a form is as it was before its channel was not saved: all that has changed are the view
of the keys and what was said. -/
structure Unsaved (f g : Form) : Prop where
  draft : g.draft = f.draft
  models : g.models = f.models
  selector? : g.selector? = f.selector?
  groupOptions : g.groupOptions = f.groupOptions
  diagnostics : g.diagnostics = f.diagnostics
  closed : g.closed = f.closed
  saves : g.saves = f.saves
  pool : g.pool = f.pool.finalize.1
  raw : g.pool.raw = f.pool.raw

/-- Whether a form is as it should be after its channel was saved: whoever wants to hear of it was
told once, the editor has ended, and a form for a new channel is empty. -/
structure IsSaved (f g : Form) : Prop where
  saves : g.saves = f.saves + if f.announces then 1 else 0
  closed : g.closed = true
  edited : f.isEdit = true → g.draft = f.draft ∧ g.models = f.models
  created : f.isEdit = false → g.draft = ({} : Form).draft ∧ g.pool = ({} : Form).pool ∧
    g.models.models = ({} : Form).models.models ∧
    g.models.channelType = ({} : Form).models.channelType

theorem unsaved_settled (f : Form) (n : Notice) : f.Unsaved (f.settled.notify n) :=
  ⟨rfl, rfl, rfl, rfl, rfl, rfl, rfl, rfl, Credential.Pool.raw_finalize f.pool⟩

theorem saves_saved (f : Form) : f.saved.saves = f.saves + if f.announces then 1 else 0 := by
  have htold : ∀ told : Form, told.announces = f.announces → told.saves = f.saves →
      (if told.announces then told.saves + 1 else told.saves) =
        f.saves + if f.announces then 1 else 0 := by
    intro told ha hs
    rw [ha, hs]
    split <;> rfl
  -- emptying a form leaves the count alone
  unfold saved
  by_cases h : f.isEdit = true
  · simp only [h, if_true]
    exact htold (f.notify f.savedNotice) rfl rfl
  · simp only [h]
    exact htold (f.notify f.savedNotice).reset rfl rfl

theorem isSaved_saved (f : Form) : f.IsSaved f.saved where
  saves := saves_saved f
  closed := rfl
  edited h := by
    simp only [saved, h, if_true]
    exact ⟨rfl, rfl⟩
  created h := by
    simp only [saved, h, Bool.false_eq_true, if_false]
    exact ⟨rfl, rfl, rfl, rfl⟩

theorem notices_saved (f : Form) : f.saved.notices = f.notices ++ [f.savedNotice] := by
  unfold saved
  split <;> rfl

/-! ### The calls -/

/-- Somebody who answers calls, with a record of the calls that were made. -/
def recording {σ : Type} (answer : σ → Call → σ × Reply) (s : σ × List Call) (call : Call) :
    (σ × List Call) × Reply :=
  (((answer s.1 call).1, s.2 ++ [call]), (answer s.1 call).2)

/-- Whether calls by which channels are saved are answered or refused, whatever happened before. -/
def AnswersSaves {σ : Type} (answer : σ → Call → σ × Reply) : Prop :=
  ∀ s p, ∀ call ∈ [Call.createChannel p, Call.updateChannel p],
    (∃ e, (answer s call).2 = .envelope e) ∨ ∃ r, (answer s call).2 = .refused r

theorem saveCall_mem (f : Form) (p : Payload) :
    f.saveCall p ∈ [Call.createChannel p, Call.updateChannel p] := by
  unfold saveCall
  split <;> simp

/-- What becomes of a form when its channel is to be saved, which calls are made for it, and what
decides whether it counts as saved. -/
theorem perform_submit {σ : Type} {answer : σ → Call → σ × Reply} (hanswer : AnswersSaves answer)
    {f g : Form} (hf : f.Reachable) {s s' : σ} {calls : List Call} {a : Answer}
    (h : f.perform (recording answer) (s, []) .submit = ((s', calls), g, .ok a)) :
    ∃ success n, a = .submitted success n ∧ g.notices = f.notices ++ [n] ∧
      ((f.validate.2 = some n ∧ calls = [] ∧ success = false) ∨
        (f.validate.2 = none ∧ ∃ p, f.payload = .ok p ∧ p.id? = f.channelId? ∧
          calls = [if f.isEdit then .updateChannel p else .createChannel p] ∧
          success = (answer s (f.saveCall p)).2.succeeds)) ∧
      (success = false → n.level ≠ .success ∧ f.Unsaved g) ∧
      (success = true → n = f.savedNotice ∧ f.IsSaved g) := by
  have hperform : f.perform (recording answer) (s, []) .submit =
      answeredBy (recording answer) (s, []) 3 f.startSubmit := rfl
  rw [hperform] at h
  -- without a call the operation is done at once, and with one it is done after the reply
  rcases startSubmit_cases hf.consistent.isList with ⟨n, htold, hstart⟩ | ⟨-, -, hstart⟩ |
    ⟨hvalid, p, hp, hstart⟩
  · rw [hstart] at h
    simp only [answeredBy, Progress.answer, Prod.mk.injEq, Except.ok.injEq] at h
    obtain ⟨⟨-, rfl⟩, rfl, rfl⟩ := h
    exact ⟨false, n, rfl, rfl, .inl ⟨htold, rfl, rfl⟩,
      fun _ => ⟨level_of_validate htold, unsaved_settled f n⟩, fun hs => by simp at hs⟩
  · rw [hstart] at h
    simp [answeredBy, Progress.fail] at h
  · rw [hstart] at h
    have hcall := hanswer s p (f.saveCall p) (saveCall_mem f p)
    have hid : p.id? = f.channelId? := payload_id hp
    have hstep : answeredBy (recording answer) (s, []) 3
        (f.settled, .waiting (f.saveCall p) .save) =
          answeredBy (recording answer) ((answer s (f.saveCall p)).1, [f.saveCall p]) 2
            (f.settled.resume .save (answer s (f.saveCall p)).2) := rfl
    rw [hstep] at h
    rcases resume_save_cases f.settled hcall with ⟨hreplied, hdone⟩ | ⟨hreplied, n, hlevel, hdone⟩
    · rw [hdone] at h
      simp only [answeredBy, Progress.answer, Prod.mk.injEq, Except.ok.injEq] at h
      obtain ⟨⟨-, rfl⟩, rfl, rfl⟩ := h
      have hsaved := isSaved_saved f.settled
      -- what the form was before it was settled is what counts
      refine ⟨true, f.settled.savedNotice, rfl, notices_saved f.settled,
        .inr ⟨hvalid, p, hp, hid, rfl, hreplied.symm⟩, fun hs => by simp at hs, fun _ => ⟨rfl, ?_⟩⟩
      exact ⟨hsaved.saves, hsaved.closed, hsaved.edited, hsaved.created⟩
    · rw [hdone] at h
      simp only [answeredBy, Progress.answer, Prod.mk.injEq, Except.ok.injEq] at h
      obtain ⟨⟨-, rfl⟩, rfl, rfl⟩ := h
      exact ⟨false, n, rfl, rfl, .inr ⟨hvalid, p, hp, hid, rfl, hreplied.symm⟩,
        fun _ => ⟨hlevel, unsaved_settled f n⟩, fun hs => by simp at hs⟩

/-- A model was selected in a form for a stored channel, and the channel is saved: the reply says
that it was, that it was not, or refuses the call. -/
theorem perform_submit_stored :
    let f := ({ channelId? := some 7 } : Form).afterAll
      [.begin (.setField "models" (.str "gpt-4"))]
    let save := fun s : Envelope ⊕ Refusal =>
      f.perform (recording fun s _ => (s, Sum.elim .envelope .refused s)) (s, []) .submit
    let call := Call.updateChannel { id? := some 7, models := "gpt-4" }
    (∃ s g n, save (.inl (.succeed .null)) = ((s, [call]), g, .ok (.submitted true n)) ∧
      n.message = "Channel updated" ∧ f.IsSaved g) ∧
    (∃ s g n, save (.inl (.failure "locked")) = ((s, [call]), g, .ok (.submitted false n)) ∧
      n.message = "locked" ∧ f.Unsaved g) ∧
    (∃ s g n, save (.inr (.ofText "timed out")) = ((s, [call]), g, .ok (.submitted false n)) ∧
      n.message = "timed out" ∧ f.Unsaved g) := by
  intro f save call
  have hanswer : AnswersSaves fun (s : Envelope ⊕ Refusal) (_ : Call) =>
      (s, Sum.elim Reply.envelope Reply.refused s) := by
    intro s p call hcall
    cases s with
    | inl e => exact .inl ⟨e, rfl⟩
    | inr r => exact .inr ⟨r, rfl⟩
  have hf : f.Reachable := ⟨some 7, true, _, rfl⟩
  have hsaved : save (.inl (.succeed .null)) = ((.inl (.succeed .null), [call]), f.settled.saved,
      .ok (.submitted true f.savedNotice)) := rfl
  have hfailed : save (.inl (.failure "locked")) = ((.inl (.failure "locked"), [call]),
      f.settled.notify { level := .error, message := "locked" },
      .ok (.submitted false { level := .error, message := "locked" })) := rfl
  have hrefused : save (.inr (.ofText "timed out")) = ((.inr (.ofText "timed out"), [call]),
      f.settled.notify { level := .error, message := "timed out" },
      .ok (.submitted false { level := .error, message := "timed out" })) := rfl
  obtain ⟨success₁, n₁, h₁, -, -, -, hdone₁⟩ := perform_submit hanswer hf hsaved
  obtain ⟨success₂, n₂, h₂, -, -, hkept₂, -⟩ := perform_submit hanswer hf hfailed
  obtain ⟨success₃, n₃, h₃, -, -, hkept₃, -⟩ := perform_submit hanswer hf hrefused
  obtain ⟨rfl, rfl⟩ := Answer.submitted.inj h₁
  obtain ⟨rfl, rfl⟩ := Answer.submitted.inj h₂
  obtain ⟨rfl, rfl⟩ := Answer.submitted.inj h₃
  exact ⟨⟨_, _, _, hsaved, rfl, (hdone₁ rfl).2⟩, ⟨_, _, _, hfailed, rfl, (hkept₂ rfl).2⟩,
    ⟨_, _, _, hrefused, rfl, (hkept₃ rfl).2⟩⟩

end Form

end ChannelConsole.Editor
