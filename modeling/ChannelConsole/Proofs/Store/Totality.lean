import ChannelConsole.Proofs.Store.History

/-!
# When a store answers at all

A record may have whole numbers of any size, and a channel may be asked for under any number, but
the columns of a store have 64 bits, and its texts are made of whole characters. Nobody checks this
before a store binds what it was given: whatever does not fit ends the call in a fault.

`Accommodates` says what has to fit for an envelope to come back. It is less than one might think. A
record that is refused for another reason is not looked at, an update of a channel that is not there
needs nothing but a number that fits, and the status in an update is not taken over.
`Log.envelope_afterAll_iff` says that this is exactly so in every store that calls can lead to, and
that a call changes nothing unless an envelope of success comes back.
-/

namespace ChannelConsole

open Channel Backend

namespace Store

/-- Whether everything fits that a store looks up or keeps for a call. Only calls for a channel are
meant; the others are not answered with an envelope. -/
def Accommodates (s : Store) : Call → Prop
  | .getChannel id? => ∀ id, id? = some id → fitsColumn id = true
  | .createChannel p =>
    p.name ≠ "" → p.key ≠ "" → IsSound p → isStorable p = true ∧ fitsRow p = true
  | .updateChannel p => ∀ id, p.id? = some id → IsSound p →
    fitsColumn id = true ∧
      ((s.find? id).isSome = true → isStorable p = true ∧ fitsRevision p = true)
  | _ => False

variable {s : Store} {p : Payload}

theorem exists_envelope_iff {r : Except Fault Envelope} :
    (∃ e, replyOfEnvelope r = .envelope e) ↔ ∃ e, r = .ok e := by
  cases r <;> simp [replyOfEnvelope]

/-! ### Each call -/

theorem get_isOk_iff {id : Int} : (∃ e, s.get id = .ok e) ↔ fitsColumn id = true := by
  unfold get
  by_cases hfits : fitsColumn id = true
  · rw [if_pos hfits]
    cases s.find? id <;> simp [hfits]
  · simp [hfits]

theorem create_isOk_iff :
    (∃ e, (s.create p).2 = .ok e) ↔
      (p.name ≠ "" → p.key ≠ "" → IsSound p → faultOf? p = none) := by
  rw [← complaint?_eq_none_iff]
  unfold create
  by_cases hfilled : (p.name.isEmpty || p.key.isEmpty) = true
  · rw [if_pos hfilled]
    refine iff_of_true ⟨_, rfl⟩ fun hname hkey => ?_
    simp [hname, hkey] at hfilled
  · have hname : p.name ≠ "" ∧ p.key ≠ "" := by simpa using hfilled
    rw [if_neg hfilled]
    cases complaint? p with
    | some message => simp
    | none => cases faultOf? p <;> simp [hname]

theorem update_isOk_iff (hs : ∀ id stored, s.find? id = some stored → faultOf? stored = none) :
    (∃ e, (s.update p).2 = .ok e) ↔ s.Accommodates (.updateChannel p) := by
  simp only [Accommodates, ← complaint?_eq_none_iff]
  unfold update
  cases p.id? with
  | none => simp
  | some id =>
    cases complaint? p with
    | some message => simp
    | none =>
      by_cases hfits : fitsColumn id = true
      · cases hfind : s.find? id with
        | none => simp [hfits, hfind]
        | some stored =>
          have hrow := faultOf?_revise_eq_none_iff (p := p) (hs id stored hfind)
          cases hf : faultOf? (revise stored p) <;> simp [hfits, hfind, hf, ← hrow]
      · simp [hfits]

theorem replyOfNames_ne_envelope (r : Except FetchFault (List Model.Name)) (e : Envelope) :
    replyOfNames r ≠ .envelope e := by
  rcases r with (⟨_, _⟩ | _) | _ <;> simp [replyOfNames]

/-! ### Every call, in every store that calls can lead to -/

variable (link : Network.Link Provider.Request)

theorem envelope_answer_iff (hs : ∀ id stored, s.find? id = some stored → faultOf? stored = none)
    (call : Call) :
    (∃ e, (s.answer link call).2.2 = .envelope e) ↔ s.Accommodates call := by
  cases call with
  | getChannel id? =>
    cases id? with
    | none => exact iff_of_true ⟨_, rfl⟩ (by simp [Accommodates])
    | some id =>
      refine (exists_envelope_iff.trans get_isOk_iff).trans ⟨?_, fun h => h id rfl⟩
      intro h other hother
      rwa [← Option.some.inj hother]
  | createChannel p =>
    refine (exists_envelope_iff.trans create_isOk_iff).trans ?_
    rw [faultOf?_eq_none_iff]
    rfl
  | updateChannel p => exact exists_envelope_iff.trans (update_isOk_iff hs)
  | listCatalog | listGroups =>
    refine iff_of_false ?_ id
    simp [answer]
  | fetchModels _ _ _ | fetchModelsById _ =>
    refine iff_of_false ?_ id
    simp [answer, replyOfNames_ne_envelope]

/-- A call that no envelope of success comes back for changes nothing. -/
theorem answer_of_not_success {call : Call}
    (h : ∀ e, (s.answer link call).2.2 = .envelope e → e.success = false) :
    (s.answer link call).1 = s := by
  refine answer_of_unreported link ?_
  -- a write is reported by an envelope of success only
  cases hreply : (s.answer link call).2.2 with
  | envelope e =>
    have hfailure := h e hreply
    cases call <;> simp [Write.reported?, hfailure]
  | _ => cases call <;> rfl

/-- After any run of calls to an empty store, an envelope comes back for a call exactly if
everything fits that has to be looked up or kept for it, and nothing changes unless it is one of
success. -/
theorem Log.envelope_afterAll_iff (groups extraModels : List Text)
    (start : Network.Link Provider.Request) (calls : List Call)
    (link : Network.Link Provider.Request) (call : Call) :
    let s := (Log.afterAll { store := { groups, extraModels }, link := start } calls).store
    ((∃ e, (s.answer link call).2.2 = .envelope e) ↔ s.Accommodates call) ∧
      ((∀ e, (s.answer link call).2.2 = .envelope e → e.success = false) →
        (s.answer link call).1 = s) := by
  intro s
  have hreflects := Reflects.afterAll (x := { store := { groups, extraModels }, link := start })
    (reflects_empty groups extraModels) calls
  exact ⟨envelope_answer_iff link (fun id stored => hreflects.storable_of_find?) call,
    answer_of_not_success link⟩

/-- A record that is sound, with a priority that has more than 64 bits. -/
def farAhead : Payload :=
  { name := "relay", key := "sk-a", models := "gpt-4o", priority := Nat.pow 2 63 }

/-- A sound record is not stored if its priority has more than 64 bits, and it is not said that
there is no channel under such a number. -/
theorem envelope_ne_answer_overflow :
    complaint? farAhead = none ∧
      (answer {} {} (.createChannel farAhead)).2.2 = .fault .overflow ∧
      (answer {} {} (.getChannel (some (Nat.pow 2 63)))).2.2 = .fault .overflow ∧
      ∀ e, .fault .overflow ≠ Reply.envelope e := by
  refine ⟨by decide +kernel, ?_, ?_, by simp⟩
  · rfl
  · rfl

end Store

end ChannelConsole
