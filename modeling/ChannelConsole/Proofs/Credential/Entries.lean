import ChannelConsole.Proofs.Credential.Pool

/-!
# The entries of a pool

A pool that shows entries has at least one of them. A pool that shows one text should have none, and
every event sees to that but one: an entry can be added while one text is shown. Such an entry is
hidden. It is in the pool, but it is neither shown nor stored, and it stays there until the text is
emptied or taken over anew, or the keys are shown one by one.

`entries_run` says which entries there are in each pool that events can lead to, and when an entry
that is added brings its keys. A hidden entry does nothing else (`run_addEntry_of_single`): no event
reads it, so the pool goes on as if the entry had never been added.
-/

namespace ChannelConsole.Credential.Pool

/-- The entries that are in a pool, but not shown. -/
def hidden (p : Pool) : List Text :=
  match p.mode with
  | .single => p.entries
  | .list => []

/-- The entries that are hidden after an event, if one text is shown then. -/
def hiddenAfter (p : Pool) : Event → List Text
  | .clear | .hydrate _ _ | .reset _ => []
  | .addEntry value =>
    match p.mode with
    | .single => p.entries ++ [value]
    | .list => []
  | _ => p.hidden

/-- A pool shows at least one entry, or it shows one text and hides the given entries. -/
def Hides (p : Pool) (entries : List Text) : Prop :=
  match p.mode with
  | .single => p.entries = entries
  | .list => p.entries ≠ []

theorem hidden_of_single {p : Pool} (h : p.mode = .single) : p.hidden = p.entries := by
  rw [hidden, h]

theorem hidden_of_list {p : Pool} (h : p.mode = .list) : p.hidden = [] := by
  rw [hidden, h]

theorem hides_of_single {p : Pool} {entries : List Text} (h : p.mode = .single)
    (he : p.entries = entries) : p.Hides entries := by
  rwa [Hides, h]

theorem hides_of_list {p : Pool} {entries : List Text} (h : p.mode = .list)
    (he : p.entries ≠ []) : p.Hides entries := by
  rwa [Hides, h]

/-- What a pool hides is what it hides, unless entries should be shown and there are none. -/
theorem Hides.hidden {p : Pool} {entries : List Text} (h : p.Hides entries) :
    p.Hides p.hidden := by
  cases hm : p.mode with
  | single => exact hides_of_single hm (hidden_of_single hm).symm
  | list =>
    rw [Hides, hm] at h
    exact hides_of_list hm h

/-! ### Changing the view -/

theorem hides_collapse (p : Pool) (text : Text) : (p.collapse text).Hides [] := rfl

/-- Taking over a list of entries leaves none hidden. -/
theorem hides_adopt (p : Pool) (entries : List Text) : (p.adopt entries).1.Hides [] := by
  by_cases h : 1 < (tidy entries).length
  · rw [adopt_eq_enter h]
    apply hides_of_list rfl
    rintro (he : tidy entries = [])
    simp [he] at h
  · rw [adopt_eq_collapse (by omega)]
    exact hides_collapse p _

theorem hides_enterListOf {p : Pool} {text : Text} {otherwise : Pool × Outcome}
    {entries : List Text} (h : otherwise.1.Hides entries) :
    (p.enterListOf text otherwise).1.Hides entries := by
  unfold enterListOf
  split
  · exact h
  · rename_i hs
    exact hides_of_list rfl hs

/-! ### What events hide -/

theorem hides_input (p : Pool) (value : Text) : (p.input value).1.Hides p.hidden := by
  unfold input
  split
  · rename_i hm
    rw [hidden_of_list hm]
    exact hides_adopt p (split value)
  · rename_i hm
    have htyped : ({ p with text := value } : Pool).Hides p.hidden :=
      hides_of_single hm (hidden_of_single hm).symm
    split
    · exact hides_enterListOf htyped
    · exact htyped

theorem hides_paste {p : Pool} (hp : p.Hides p.hidden) (value : Text) :
    (p.paste value).1.Hides p.hidden := by
  unfold paste
  split
  · exact hp
  · rename_i hm
    split
    · exact hides_enterListOf (hides_of_single hm (hidden_of_single hm).symm)
    · exact hp

theorem hides_setMultiViewDisabled {p : Pool} (hp : p.Hides p.hidden) (disabled : Bool) :
    (p.setMultiViewDisabled disabled).1.Hides p.hidden := by
  -- the switch itself is no part of what a pool shows or hides
  have hq : ({ p with multiViewDisabled := disabled } : Pool).Hides p.hidden := hp
  unfold setMultiViewDisabled
  split
  · exact hp
  · simp only
    split
    · split
      · rename_i hm
        rw [hidden_of_list hm]
        exact hides_collapse _ _
      · exact hq
    · split
      · exact hides_enterListOf hq
      · exact hq

/-- An added entry is hidden exactly if one text is shown. -/
theorem hides_addEntry (p : Pool) (value : Text) :
    (p.addEntry value).1.Hides (p.hiddenAfter (.addEntry value)) := by
  cases hm : p.mode with
  | single =>
    have hq : (p.addEntry value).1.mode = .single := hm
    exact hides_of_single hq (by simp [addEntry, hiddenAfter, hm])
  | list =>
    have hq : (p.addEntry value).1.mode = .list := hm
    exact hides_of_list hq (by simp [addEntry])

theorem hides_removeEntry {p : Pool} (hp : p.Hides p.hidden) (index : Int) :
    (p.removeEntry index).1.Hides p.hidden := by
  unfold removeEntry
  cases h : p.place? index with
  | none => exact hp
  | some i =>
    rw [hidden_of_list (mode_of_place? h)]
    exact hides_adopt p _

theorem hides_updateEntry {p : Pool} (hp : p.Hides p.hidden) (index : Int) (value : Text) :
    (p.updateEntry index value).1.Hides p.hidden := by
  unfold updateEntry
  cases h : p.place? index with
  | none => exact hp
  | some i =>
    have hm := mode_of_place? h
    have hq : ({ p with entries := p.entries.set i value } : Pool).mode = .list := hm
    apply hides_of_list hq
    apply List.ne_nil_of_length_pos
    rw [List.length_set]
    exact Nat.zero_lt_of_lt (lt_of_place? h)

theorem hides_pasteEntry {p : Pool} (hp : p.Hides p.hidden) (index : Int) (value : Text) :
    (p.pasteEntry index value).1.Hides p.hidden := by
  apply pasteEntry_induction (P := fun q => q.Hides p.hidden) hp
  intro i h
  rw [hidden_of_list (mode_of_place? h)]
  exact hides_adopt p _

theorem hides_press {p : Pool} (hp : p.Hides p.hidden) (index : Int) (key : Key) :
    (p.press index key).1.Hides p.hidden := by
  apply press_induction (P := fun q => q.Hides p.hidden) hp
  · intro hm
    have hadded := hides_addEntry p ""
    rwa [hiddenAfter, hm, ← hidden_of_list hm] at hadded
  · intro i h _
    rw [hidden_of_list (mode_of_place? h)]
    exact hides_adopt p _

theorem hides_changeType {p : Pool} (channelType : Int) :
    (p.changeType channelType).1.Hides p.hidden := by
  apply changeType_induction (P := fun q => q.Hides p.hidden)
  · intro hm
    rw [hidden_of_list hm]
    exact hides_collapse _ _
  · exact fun hm => hides_of_single hm (hidden_of_single hm).symm
  · exact fun _ _ h => hides_enterListOf h

theorem hides_hydrate (raw? : Option Text) (channelType : Int) :
    (hydrate raw? channelType).Hides [] := by
  unfold hydrate
  simp only
  split
  · rename_i h
    rw [Bool.and_eq_true, decide_eq_true_iff] at h
    apply hides_of_list rfl
    exact List.ne_nil_of_length_pos (Nat.zero_lt_of_lt h.2)
  · exact hides_of_single rfl rfl

theorem hides_finalize {p : Pool} : p.finalize.1.Hides p.hidden := by
  unfold finalize
  split
  · rename_i hm
    rw [hidden_of_list hm]
    exact hides_adopt p p.entries
  · rename_i hm
    exact hides_of_single hm (hidden_of_single hm).symm

/-- After each event, at least one entry is shown, or one text with the entries hidden that
`hiddenAfter` says. -/
theorem hides_step {p : Pool} (hp : p.Hides p.hidden) (e : Event) :
    (p.step e).1.Hides (p.hiddenAfter e) := by
  cases e with
  | input value => exact hides_input p value
  | paste value => exact hides_paste hp value
  | clear => exact hides_collapse p ""
  | toggleVisibility => exact hp
  | toggleMultiView => exact hides_setMultiViewDisabled hp _
  | setMultiViewDisabled disabled => exact hides_setMultiViewDisabled hp disabled
  | addEntry value => exact hides_addEntry p value
  | removeEntry index => exact hides_removeEntry hp index
  | updateEntry index value => exact hides_updateEntry hp index value
  | pasteEntry index value => exact hides_pasteEntry hp index value
  | press index key => exact hides_press hp index key
  | changeType channelType => exact hides_changeType channelType
  | hydrate raw? channelType => exact hides_hydrate raw? channelType
  | reset channelType => exact hides_of_single rfl rfl
  | finalize => exact hides_finalize

theorem hides_run {p : Pool} (hp : p.Hides p.hidden) (events : List Event) :
    (p.run events).Hides (p.run events).hidden := by
  induction events generalizing p with
  | nil => exact hp
  | cons e events ih => exact ih (hides_step hp e).hidden

/-! ### What hidden entries do -/

/-- Two pools are the same but for the entries that they hide. -/
def SameShown (p q : Pool) : Prop := p = q ∨ p.mode = .single ∧ ∃ entries, q = { p with entries }

theorem SameShown.raw_eq {p q : Pool} (h : p.SameShown q) : p.raw = q.raw := by
  obtain rfl | ⟨hm, entries, rfl⟩ := h
  · rfl
  · simp only [raw, hm]

theorem sameShown_enterListOf {p : Pool} {entries : List Text} {text : Text}
    {otherwise otherwise' : Pool × Outcome} (h : otherwise.1.SameShown otherwise'.1) :
    (p.enterListOf text otherwise).1.SameShown
      (({ p with entries } : Pool).enterListOf text otherwise').1 := by
  unfold enterListOf
  split
  · exact h
  · -- the keys that are shown now take the place of all entries
    exact .inl rfl

theorem sameShown_of_single {p : Pool} (h : p.mode = .single) (entries : List Text) :
    p.SameShown { p with entries } :=
  .inr ⟨h, entries, rfl⟩

theorem sameShown_ite {c : Prop} [Decidable c] {r s r' s' : Pool × Outcome}
    (hr : r.1.SameShown r'.1) (hs : s.1.SameShown s'.1) :
    (if c then r else s).1.SameShown (if c then r' else s').1 := by
  split
  · exact hr
  · exact hs

theorem sameShown_input {p : Pool} (hm : p.mode = .single) (entries : List Text)
    (value : Text) :
    (p.input value).1.SameShown (({ p with entries } : Pool).input value).1 := by
  have htyped := sameShown_of_single (p := { p with text := value }) hm entries
  cases p
  cases hm
  exact sameShown_ite (sameShown_enterListOf htyped) htyped

theorem sameShown_paste {p : Pool} (hm : p.mode = .single) (entries : List Text)
    (value : Text) :
    (p.paste value).1.SameShown (({ p with entries } : Pool).paste value).1 := by
  have hemptied := sameShown_of_single (p := { p with text := "" }) hm entries
  have hsame := sameShown_of_single hm entries
  cases p
  cases hm
  exact sameShown_ite (sameShown_enterListOf hemptied) hsame

theorem sameShown_setMultiViewDisabled {p : Pool} (hm : p.mode = .single) (entries : List Text)
    (disabled : Bool) :
    (p.setMultiViewDisabled disabled).1.SameShown
      (({ p with entries } : Pool).setMultiViewDisabled disabled).1 := by
  have hset := sameShown_of_single (p := { p with multiViewDisabled := disabled }) hm entries
  have hsame := sameShown_of_single hm entries
  cases p
  cases hm
  exact sameShown_ite hsame
    (sameShown_ite hset (sameShown_ite (sameShown_enterListOf hset) hset))

theorem sameShown_changeType {p : Pool} (hm : p.mode = .single) (entries : List Text)
    (channelType : Int) :
    (p.changeType channelType).1.SameShown
      (({ p with entries } : Pool).changeType channelType).1 := by
  have hset := sameShown_of_single (p := { p with channelType }) hm entries
  cases p
  cases hm
  exact sameShown_ite (sameShown_enterListOf hset) hset

theorem sameShown_finalize {p : Pool} (hm : p.mode = .single) (entries : List Text) :
    p.finalize.1.SameShown ({ p with entries } : Pool).finalize.1 := by
  have hsame := sameShown_of_single hm entries
  cases p
  cases hm
  exact hsame

/-- No event reads hidden entries. -/
theorem sameShown_step_of_single {p : Pool} (hm : p.mode = .single) (entries : List Text)
    (e : Event) : (p.step e).1.SameShown (({ p with entries } : Pool).step e).1 := by
  have hsame := sameShown_of_single hm entries
  -- an event about an entry that is shown changes nothing, for none is
  have hignored : ∀ {index}, e.index? = some index →
      (p.step e).1.SameShown (({ p with entries } : Pool).step e).1 := by
    intro index he
    have hp : p.place? index = none := by simp [place?, hm]
    have hq : ({ p with entries } : Pool).place? index = none := by simp [place?, hm]
    rw [step_of_place?_none he hp, step_of_place?_none he hq]
    exact hsame
  cases e with
  | input value => exact sameShown_input hm entries value
  | paste value => exact sameShown_paste hm entries value
  | clear => exact .inl rfl
  | toggleVisibility => exact sameShown_of_single (p := p.toggleVisibility) hm entries
  | toggleMultiView => exact sameShown_setMultiViewDisabled hm entries _
  | setMultiViewDisabled disabled => exact sameShown_setMultiViewDisabled hm entries disabled
  | addEntry value => exact .inr ⟨hm, entries ++ [value], rfl⟩
  | removeEntry index => exact hignored rfl
  | updateEntry index value => exact hignored rfl
  | pasteEntry index value => exact hignored rfl
  | press index key => exact hignored rfl
  | changeType channelType => exact sameShown_changeType hm entries channelType
  | hydrate raw? channelType => exact .inl rfl
  | reset channelType => exact .inl rfl
  | finalize => exact sameShown_finalize hm entries

theorem SameShown.run {p q : Pool} (h : p.SameShown q) (events : List Event) :
    (p.run events).SameShown (q.run events) := by
  induction events generalizing p q with
  | nil => exact h
  | cons e events ih =>
    apply ih
    obtain rfl | ⟨hm, entries, rfl⟩ := h
    · exact .inl rfl
    · exact sameShown_step_of_single hm entries e

/-- An entry that is added while one text is shown is in no text that is stored later on. -/
theorem run_addEntry_of_single {p : Pool} (hm : p.mode = .single) (value : Text)
    (events : List Event) : ((p.addEntry value).1.run events).raw = (p.run events).raw :=
  ((sameShown_of_single hm (p.entries ++ [value])).run events).raw_eq.symm

/-! ### Main statement -/

/-- If entries are added only where entries are shown, none are hidden. -/
theorem hides_nil_run {p : Pool} (hp : p.Hides []) (events : List Event)
    (h : ∀ before value after, events = before ++ .addEntry value :: after →
      (p.run before).mode = .list) : (p.run events).Hides [] := by
  induction events generalizing p with
  | nil => exact hp
  | cons e events ih =>
    have hnone : p.hidden = [] := by
      cases hm : p.mode with
      | single =>
        rw [Hides, hm] at hp
        rw [hidden_of_single hm, hp]
      | list => exact hidden_of_list hm
    have hafter : p.hiddenAfter e = [] := by
      cases e with
      | addEntry value =>
        have hm : p.mode = .list := h [] value events rfl
        rw [hiddenAfter, hm]
      | clear | hydrate _ _ | reset _ => rfl
      | _ => exact hnone
    have hstep := hides_step hp.hidden e
    rw [hafter] at hstep
    apply ih hstep
    intro before value after he
    exact h (e :: before) value after (by rw [he, List.cons_append])

theorem keys_addEntry_eq_iff (p : Pool) (value : Text) :
    (p.addEntry value).1.keys = p.keys ++ split value ↔ p.mode = .list ∨ split value = [] := by
  rw [keys_addEntry]
  cases p.mode with
  | list => simp
  | single => simp [List.self_eq_append_right]

/-- In every pool that events can lead to, there is an entry if entries are shown. If one text is
shown after an event, the entries in the pool are the ones that `hiddenAfter` says: there were
already some before, or one was added while a text was shown. Hence there are none if no entry was
ever added then. An entry that is added brings its keys, behind the others, exactly if entries are
shown or it has none; added while one text is shown, it is in no text to be stored later on. -/
theorem entries_run (channelType : Int) (text : Text) (events : List Event) :
    let p := (ofText channelType text).run events
    (p.mode = .list → p.entries ≠ []) ∧
    (∀ e, (p.step e).1.mode = .single → (p.step e).1.entries = p.hiddenAfter e) ∧
    ((∀ before value after, events = before ++ .addEntry value :: after →
      ((ofText channelType text).run before).mode = .list) → p.mode = .single → p.entries = []) ∧
    (∀ value, (p.addEntry value).1.keys = p.keys ++ split value ↔
      p.mode = .list ∨ split value = []) ∧
    (p.mode = .single → ∀ value later,
      ((p.addEntry value).1.run later).raw = (p.run later).raw) := by
  intro p
  have hstart : (ofText channelType text).Hides [] := rfl
  have hp : p.Hides p.hidden := hides_run hstart.hidden events
  refine ⟨fun hm => ?_, fun e hm => ?_, fun h hm => ?_, keys_addEntry_eq_iff p,
    fun hm value later => run_addEntry_of_single hm value later⟩
  · rwa [Hides, hm] at hp
  · have hstep := hides_step hp e
    rwa [Hides, hm] at hstep
  · have hnone := hides_nil_run hstart events h
    rwa [Hides, hm] at hnone

/-- Added to an empty field, an entry is in a pool that shows one text, and its key is not stored.
-/
theorem entries_addEntry_hidden :
    let p := ofText ChannelType.default ""
    let q := p.run [.addEntry "sk-a"]
    q.mode = .single ∧ q.entries = (["sk-a"] : List Text) ∧ q.keys = [] ∧
      q.keys ≠ p.keys ++ split "sk-a" := by
  decide

end ChannelConsole.Credential.Pool
