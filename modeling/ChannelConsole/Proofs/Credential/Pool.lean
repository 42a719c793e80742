import ChannelConsole.Credential.Pool
import ChannelConsole.Proofs.Credential.Keys

/-!
# A pool is a list of keys

Whatever is shown of a pool, one text or a list of entries, it stands for the keys in its stored
text. The main statement, `keys_step_run`, says what each event makes of them in every pool that
events can lead to: typing and pasting put keys in, removing and changing an entry concern the keys
of that entry alone, and everything else, changes of the view and of the type above all, leaves the
keys as they are, in the same order and as many times each.

The invariant behind it is `ListAllowed`: entries are shown only where the type and the user allow
it. Without it, allowing the list view again could bring back the old text of the single field,
which nobody keeps up to date while entries are shown.
-/

namespace ChannelConsole.Credential.Pool

/-- The keys in the text to be stored. -/
def keys (p : Pool) : List Text := split p.raw

/-- The keys of a pool when those of the entry at an index are replaced by what is made of the
entry. An index without an entry leaves the keys alone. -/
def keysReplacing (p : Pool) (index : Int) (replacement : Text → List Text) : List Text :=
  match p.place? index with
  | some i =>
    (p.entries.take i).flatMap split ++ replacement (p.entries.getD i "") ++
      (p.entries.drop (i + 1)).flatMap split
  | none => p.keys

/-- The keys that an event should leave, given whether the pool handled it. -/
def keysAfter (p : Pool) (handled : Bool) : Event → List Text
  | .input value => split value
  | .paste value => if handled then split (p.raw ++ value) else p.keys
  | .clear | .reset _ => []
  | .hydrate raw? _ => split (raw?.getD "")
  | .addEntry value =>
    match p.mode with
    | .list => p.keys ++ split value
    | .single => p.keys
  | .removeEntry index => p.keysReplacing index fun _ => []
  | .updateEntry index value => p.keysReplacing index fun _ => split value
  | .pasteEntry index value =>
    if handled then p.keysReplacing index fun entry => split (entry ++ value) else p.keys
  | .toggleVisibility | .toggleMultiView | .setMultiViewDisabled _ | .press _ _ | .changeType _
  | .finalize => p.keys

/-- Entries are shown only where that is allowed. -/
def ListAllowed (p : Pool) : Prop := p.mode = .list → p.listViewEnabled = true

/-- A pool in which the list view is forbidden shows one text. -/
theorem ListAllowed.mode_of_disabled {p : Pool} (hp : p.ListAllowed)
    (hdis : p.multiViewDisabled = true) : p.mode = .single := by
  cases hm : p.mode with
  | single => rfl
  | list => simpa [listViewEnabled, hdis] using hp hm

end ChannelConsole.Credential.Pool

namespace ChannelConsole.Credential

/-- Whether the pool handled an event. An event that gives back no outcome is always handled. -/
def Response.handled : Response → Bool
  | .outcome o => o.handled
  | _ => true

/-- The index that an event is about. -/
def Event.index? : Event → Option Int
  | .removeEntry index | .updateEntry index _ | .pasteEntry index _ | .press index _ => some index
  | _ => none

namespace Pool

/-! ### Keys in the two views -/

theorem keys_of_single {p : Pool} (h : p.mode = .single) : p.keys = split p.text := by
  rw [keys, raw, h]

theorem keys_of_list {p : Pool} (h : p.mode = .list) : p.keys = p.entries.flatMap split := by
  rw [keys, raw, h]
  exact split_join p.entries

@[simp] theorem keys_collapse (p : Pool) (text : Text) : (p.collapse text).keys = split text := rfl

@[simp] theorem keys_enterList_split (p : Pool) (s : Text) :
    (p.enterList (split s)).keys = split s :=
  split_join_split s

/-- However a list of entries is shown, its stored text is the same. -/
theorem raw_adopt (p : Pool) (entries : List Text) : (p.adopt entries).1.raw = join entries := by
  unfold adopt
  split
  · rename_i ht
    rw [raw_collapse, join, ht, Text.join_nil]
  · rename_i key ht
    rw [raw_collapse, join, ht, Text.join_singleton]
  · -- both sides join the tidy entries
    exact join_tidy entries

/-- A list of entries is taken over with all its keys. -/
theorem keys_adopt (p : Pool) (entries : List Text) :
    (p.adopt entries).1.keys = entries.flatMap split := by
  rw [keys, raw_adopt, split_join]

/-- Showing the keys of a text one by one keeps them, if what happens to a text without keys leaves
none. -/
theorem keys_enterListOf (p : Pool) (text : Text) {otherwise : Pool × Outcome}
    (h : split text = [] → otherwise.1.keys = []) :
    (p.enterListOf text otherwise).1.keys = split text := by
  unfold enterListOf
  split
  · rename_i hs
    rw [h hs, hs]
  · exact keys_enterList_split p text

/-! ### Places -/

theorem mode_of_place? {p : Pool} {index : Int} {i : Nat} (h : p.place? index = some i) :
    p.mode = .list := by
  unfold place? at h
  split at h
  · rename_i hp
    exact hp.1
  · simp at h

theorem lt_of_place? {p : Pool} {index : Int} {i : Nat} (h : p.place? index = some i) :
    i < p.entries.length := by
  unfold place? at h
  split at h
  · rename_i hp
    obtain rfl := Option.some.inj h
    omega
  · simp at h

/-- The entry at a place stands between those in front of it and those behind it. -/
theorem entries_eq_of_place? {p : Pool} {index : Int} {i : Nat} (h : p.place? index = some i) :
    p.entries = p.entries.take i ++ p.entries.getD i "" :: p.entries.drop (i + 1) := by
  have hi := lt_of_place? h
  have he : p.entries.getD i "" = p.entries[i] := by simp [hi]
  rw [he, ← List.drop_eq_getElem_cons hi, List.take_append_drop]

/-- An event about an index without an entry is not handled, and changes nothing. -/
theorem step_of_place?_none {p : Pool} {e : Event} {index : Int} (he : e.index? = some index)
    (h : p.place? index = none) : p.step e = (p, .outcome .ignored) := by
  cases e with
  | removeEntry i =>
    obtain rfl := Option.some.inj he
    simp [step, removeEntry, h, Prod.map]
  | updateEntry i value =>
    obtain rfl := Option.some.inj he
    simp [step, updateEntry, h, Prod.map]
  | pasteEntry i value =>
    obtain rfl := Option.some.inj he
    simp [step, pasteEntry, h, Prod.map]
  | press i key =>
    obtain rfl := Option.some.inj he
    simp [step, press, h, Prod.map]
  | _ => simp [Event.index?] at he

/-! ### Events about an entry -/

/-- The entries of a pool with the keys of an entry and a pasted text in the place of that entry. -/
def pasted (p : Pool) (i : Nat) (value : Text) : List Text :=
  p.entries.take i ++ split (p.entries.getD i "" ++ value) ++ p.entries.drop (i + 1)

/-- Take over a list of entries, with the focus on one of them unless it goes to the single
field. -/
def adoptAt (p : Pool) (entries : List Text) (i : Nat) : Pool × Outcome :=
  ((p.adopt entries).1, .focusing ((p.adopt entries).2.getD (.entry i)))

theorem adoptAt_eq_enter {p : Pool} {entries : List Text} (h : 1 < (tidy entries).length)
    (i : Nat) : p.adoptAt entries i =
      ({ p with mode := .list, entries := tidy entries, text := join (tidy entries) },
        .focusing (.entry i)) := by
  rw [adoptAt, adopt_eq_enter h, Option.getD_none]

/-- What is pasted into an entry takes its place, and the focus goes to the last key. Only a text
with delimiters is taken. -/
theorem pasteEntry_cases (p : Pool) (index : Int) (value : Text) :
    p.pasteEntry index value = (p, .ignored) ∨
      ∃ i, p.place? index = some i ∧ p.pasteEntry index value =
        p.adoptAt (p.pasted i value)
          (min (p.solidBefore i + (split (p.entries.getD i "" ++ value)).length - 1)
            ((p.adopt (p.pasted i value)).1.entries.length - 1)) := by
  cases h : p.place? index with
  | none => exact .inl (by simp only [pasteEntry, h])
  | some i =>
    by_cases hd : hasDelimiter value = true
    · refine .inr ⟨i, rfl, ?_⟩
      have hadopt : p.adopt (p.pasted i value) =
          ((p.adopt (p.pasted i value)).1, (p.adopt (p.pasted i value)).2) := rfl
      simp only [pasteEntry, h, hd, if_true]
      rw [← pasted, hadopt, adoptAt]
      cases (p.adopt (p.pasted i value)).2 with
      | none => rfl
      | some focus => rfl
    · exact .inl (by simp only [pasteEntry, h, hd]; rfl)

/-- Backspace removes an empty entry that is not the first one, and the focus goes to the entry in
front of it. -/
theorem press_backspace_cases (p : Pool) (index : Int) :
    p.press index .backspace = (p, .ignored) ∨
      ∃ i, p.place? index = some i ∧ p.entries.getD i "" = "" ∧
        p.press index .backspace = p.adoptAt (p.entries.eraseIdx i) (p.solidBefore i - 1) := by
  cases h : p.place? index with
  | none => exact .inl (by simp only [press, h])
  | some i =>
    have hremoved : p.removeEntry index = ((p.adopt (p.entries.eraseIdx i)).1,
        { focus? := (p.adopt (p.entries.eraseIdx i)).2 }) := by
      simp only [removeEntry, h]
    simp only [press, h]
    split
    · rename_i hempty
      simp only [Bool.and_eq_true, Text.isEmpty_iff] at hempty
      refine .inr ⟨i, rfl, hempty.1.1, ?_⟩
      rw [hremoved, adoptAt]
      cases (p.adopt (p.entries.eraseIdx i)).2 with
      | none => rfl
      | some focus => rfl
    · exact .inl rfl

/-- What holds of a pool and of what comes of taking over other entries in its place holds after a
text was pasted into an entry. -/
theorem pasteEntry_induction {P : Pool → Prop} {p : Pool} {index : Int} {value : Text}
    (ignored : P p)
    (taken : ∀ i, p.place? index = some i → P (p.adopt (p.pasted i value)).1) :
    P (p.pasteEntry index value).1 := by
  obtain hsame | ⟨i, hplace, htaken⟩ := pasteEntry_cases p index value
  · rw [hsame]
    exact ignored
  · rw [htaken]
    exact taken i hplace

/-- What holds of a pool, with an empty entry added where entries are shown, and with an empty entry
removed, holds after a key was pressed. -/
theorem press_induction {P : Pool → Prop} {p : Pool} {index : Int} {key : Key} (ignored : P p)
    (added : p.mode = .list → P (p.addEntry "").1)
    (removed : ∀ i, p.place? index = some i → p.entries.getD i "" = "" →
      P (p.adopt (p.entries.eraseIdx i)).1) :
    P (p.press index key).1 := by
  cases h : p.place? index with
  | none =>
    simp only [press, h]
    exact ignored
  | some i =>
    have hadded := added (mode_of_place? h)
    cases key with
    | enter =>
      simp only [press, h]
      exact hadded
    | comma =>
      simp only [press, h]
      split
      · exact ignored
      · exact hadded
    | backspace =>
      obtain hsame | ⟨j, hplace, hempty, hremoved⟩ := press_backspace_cases p index
      · rw [hsame]
        exact ignored
      · rw [hremoved]
        exact removed j hplace hempty
    | other =>
      simp only [press, h]
      exact ignored

/-! ### What events make of the keys -/

theorem keys_input (p : Pool) (value : Text) : (p.input value).1.keys = split value := by
  unfold input
  split
  · -- the new entries are the keys of the text, whatever the old ones were
    have h := keys_adopt p (split value)
    rw [flatMap_split_split] at h
    exact h
  · rename_i hm
    have htyped : ({ p with text := value } : Pool).keys = split value := keys_of_single hm
    split
    · exact keys_enterListOf p value fun he => htyped.trans he
    · exact htyped

theorem keys_paste (p : Pool) (value : Text) :
    (p.paste value).1.keys =
      if (p.paste value).2.handled then split (p.raw ++ value) else p.keys := by
  cases hm : p.mode with
  | list => simp [paste, hm, Outcome.ignored]
  | single =>
    by_cases hd : (p.listViewEnabled && hasDelimiter value) = true
    · have hraw : p.raw = p.text := by rw [raw, hm]
      have hp : p.paste value =
          p.enterListOf (p.text ++ value) ({ p with text := "" }, {}) := by
        simp only [paste, hm, hd, if_true]
      have hh : (p.paste value).2.handled = true := by
        rw [hp]
        unfold enterListOf
        split <;> rfl
      rw [hh, if_pos rfl, hp, hraw]
      apply keys_enterListOf
      intro _
      have hempty : ({ p with text := "" } : Pool).keys = split "" := keys_of_single hm
      rw [hempty, split_empty]
    · simp only [paste, hm, hd]
      rfl

theorem keys_hydrate (raw? : Option Text) (channelType : Int) :
    (hydrate raw? channelType).keys = split (raw?.getD "") := by
  unfold hydrate
  simp only
  split
  · exact keys_enterList_split _ _
  · rfl

/-- Several keys are joined when a text is taken over, where they may be shown one by one. -/
theorem raw_hydrate (key : Text) (channelType : Int) :
    (hydrate (some key) channelType).raw =
      if (ChannelType.profile channelType).multiKeyView = true ∧ 1 < (split key).length then
        join (split key)
      else key := by
  have hview : (ofText channelType key).listViewEnabled =
      (ChannelType.profile channelType).multiKeyView := Bool.and_true _
  simp only [hydrate, Option.getD_some, hview, Bool.and_eq_true, decide_eq_true_eq]
  split <;> rfl

/-- The stored text of a pool is stored as it is when it is taken over once more. -/
theorem raw_hydrate_raw (key : Text) (channelType : Int) :
    (hydrate (some (hydrate (some key) channelType).raw) channelType).raw =
      (hydrate (some key) channelType).raw := by
  rw [raw_hydrate key]
  split
  · rename_i hlist
    rw [raw_hydrate, split_join_split, if_pos hlist]
  · rename_i hsingle
    rw [raw_hydrate, if_neg hsingle]

theorem keys_addEntry (p : Pool) (value : Text) :
    (p.addEntry value).1.keys =
      match p.mode with
      | .list => p.keys ++ split value
      | .single => p.keys := by
  cases hm : p.mode with
  | list =>
    have h : (p.addEntry value).1.mode = .list := hm
    rw [keys_of_list h, keys_of_list hm]
    simp [addEntry]
  | single => simp [keys, raw, addEntry, hm]

theorem keys_addEntry_empty (p : Pool) : (p.addEntry "").1.keys = p.keys := by
  rw [keys_addEntry]
  cases p.mode with
  | list => simp [split_empty]
  | single => rfl

theorem keys_removeEntry (p : Pool) (index : Int) :
    (p.removeEntry index).1.keys = p.keysReplacing index fun _ => [] := by
  unfold removeEntry keysReplacing
  cases h : p.place? index with
  | none => rfl
  | some i =>
    simp only
    rw [keys_adopt, List.eraseIdx_eq_take_drop_succ, List.flatMap_append, List.append_nil]

theorem keys_updateEntry (p : Pool) (index : Int) (value : Text) :
    (p.updateEntry index value).1.keys = p.keysReplacing index fun _ => split value := by
  unfold updateEntry keysReplacing
  cases h : p.place? index with
  | none => rfl
  | some i =>
    have hp : p.mode = .list := mode_of_place? h
    have hm : ({ p with entries := p.entries.set i value } : Pool).mode = .list := hp
    -- while one types, the entries are not tidied, so the view stays
    simp only
    rw [keys_of_list hm, List.set_eq_take_append_cons_drop, if_pos (lt_of_place? h)]
    simp

theorem keys_pasteEntry (p : Pool) (index : Int) (value : Text) :
    (p.pasteEntry index value).1.keys =
      if (p.pasteEntry index value).2.handled then
        p.keysReplacing index fun entry => split (entry ++ value)
      else p.keys := by
  obtain hsame | ⟨i, hplace, htaken⟩ := pasteEntry_cases p index value
  · rw [hsame]
    rfl
  · -- the keys of the entry and the pasted text are in the place of the entry
    have hkeys := keys_adopt p (p.pasted i value)
    rw [pasted, List.flatMap_append, List.flatMap_append, flatMap_split_split, ← pasted] at hkeys
    rw [htaken]
    simp only [keysReplacing, hplace]
    exact hkeys

/-- Without an empty entry, the keys are the same. -/
theorem keys_adopt_eraseIdx {p : Pool} {index : Int} {i : Nat} (h : p.place? index = some i)
    (he : p.entries.getD i "" = "") : (p.adopt (p.entries.eraseIdx i)).1.keys = p.keys := by
  rw [keys_adopt, keys_of_list (mode_of_place? h), List.eraseIdx_eq_take_drop_succ]
  conv => rhs; rw [entries_eq_of_place? h]
  rw [List.flatMap_append, List.flatMap_append, List.flatMap_cons, he, split_empty, List.nil_append]

theorem keys_press (p : Pool) (index : Int) (key : Key) : (p.press index key).1.keys = p.keys :=
  press_induction (P := fun q => q.keys = p.keys) rfl (fun _ => keys_addEntry_empty p)
    fun _ hplace hempty => keys_adopt_eraseIdx hplace hempty

theorem keys_setMultiViewDisabled {p : Pool} (hp : p.ListAllowed) (disabled : Bool) :
    (p.setMultiViewDisabled disabled).1.keys = p.keys := by
  unfold setMultiViewDisabled
  split
  · rfl
  · rename_i hne
    simp only
    split
    · cases hm : p.mode with
      | list =>
        simp only [keys_collapse]
        rw [keys, raw, hm]
      | single =>
        rw [keys_of_single hm]
        rfl
    · -- the view was forbidden, so the pool shows one text, and it is the current one
      rename_i hd
      have hdis : p.multiViewDisabled = true := by
        cases hb : p.multiViewDisabled <;> simp_all
      have hm := hp.mode_of_disabled hdis
      have hkeys : ({ p with multiViewDisabled := disabled } : Pool).keys = p.keys := rfl
      split
      · rw [keys_of_single hm]
        apply keys_enterListOf
        intro he
        rw [hkeys, keys_of_single hm, he]
      · exact hkeys

/-- What holds of the pool as one text and of what comes of showing its keys one by one holds of the
pool with another type. -/
theorem changeType_induction {P : Pool → Prop} {p : Pool} {channelType : Int}
    (collapsed : p.mode = .list → P (({ p with channelType } : Pool).collapse p.raw))
    (single : p.mode = .single → P { p with channelType })
    (entered : ∀ otherwise : Pool × Outcome,
      ({ p with channelType } : Pool).listViewEnabled = true →
      P otherwise.1 → P (({ p with channelType } : Pool).enterListOf p.raw otherwise).1) :
    P (p.changeType channelType).1 := by
  unfold changeType
  cases hm : p.mode with
  | list =>
    have hq := collapsed hm
    simp only
    split
    · rename_i h
      rw [Bool.and_eq_true] at h
      exact entered _ h.1 hq
    · exact hq
  | single =>
    have hq := single hm
    rw [hm] at hq
    simp only
    split
    · rename_i h
      rw [Bool.and_eq_true] at h
      exact entered _ h.1 hq
    · exact hq

theorem keys_changeType (p : Pool) (channelType : Int) :
    (p.changeType channelType).1.keys = p.keys := by
  apply changeType_induction (P := fun q => q.keys = p.keys)
  · exact fun _ => rfl
  · intro hm
    have htyped : ({ p with channelType } : Pool).keys = split p.text := keys_of_single hm
    rw [htyped, keys_of_single hm]
  · exact fun _ _ h => keys_enterListOf _ _ h.trans

/-- Settling the view leaves the stored text as it is. -/
theorem raw_finalize (p : Pool) : p.finalize.1.raw = p.raw := by
  unfold finalize
  split
  · rename_i hm
    rw [raw_adopt, raw, hm]
  · rfl

theorem keys_finalize (p : Pool) : p.finalize.1.keys = p.keys := by
  rw [keys, raw_finalize, keys]

/-! ### Entries are shown only where that is allowed -/

theorem listAllowed_of_single {p : Pool} (h : p.mode = .single) : p.ListAllowed := by
  intro hm
  rw [h] at hm
  cases hm

theorem listViewEnabled_adopt (p : Pool) (entries : List Text) :
    (p.adopt entries).1.listViewEnabled = p.listViewEnabled := by
  unfold adopt
  split <;> rfl

theorem listAllowed_adopt {p : Pool} (h : p.listViewEnabled = true) (entries : List Text) :
    (p.adopt entries).1.ListAllowed := by
  intro _
  rw [listViewEnabled_adopt, h]

theorem listAllowed_enterListOf {p : Pool} {text : Text} {otherwise : Pool × Outcome}
    (h : p.listViewEnabled = true) (ho : otherwise.1.ListAllowed) :
    (p.enterListOf text otherwise).1.ListAllowed := by
  unfold enterListOf
  split
  · exact ho
  · exact fun _ => h

theorem listAllowed_input {p : Pool} (hp : p.ListAllowed) (value : Text) :
    (p.input value).1.ListAllowed := by
  unfold input
  split
  · rename_i hm
    exact listAllowed_adopt (hp hm) (split value)
  · rename_i hm
    have htyped : ({ p with text := value } : Pool).ListAllowed := listAllowed_of_single hm
    split
    · rename_i hd
      rw [Bool.and_eq_true] at hd
      exact listAllowed_enterListOf hd.1 htyped
    · exact htyped

theorem listAllowed_paste {p : Pool} (hp : p.ListAllowed) (value : Text) :
    (p.paste value).1.ListAllowed := by
  unfold paste
  split
  · exact hp
  · rename_i hm
    split
    · rename_i hd
      rw [Bool.and_eq_true] at hd
      exact listAllowed_enterListOf hd.1 (listAllowed_of_single hm)
    · exact hp

theorem listAllowed_hydrate (raw? : Option Text) (channelType : Int) :
    (hydrate raw? channelType).ListAllowed := by
  unfold hydrate
  simp only
  split
  · rename_i h
    rw [Bool.and_eq_true] at h
    exact fun _ => h.1
  · exact listAllowed_of_single rfl

theorem listAllowed_removeEntry {p : Pool} (hp : p.ListAllowed) (index : Int) :
    (p.removeEntry index).1.ListAllowed := by
  unfold removeEntry
  split
  · exact hp
  · rename_i i h
    exact listAllowed_adopt (hp (mode_of_place? h)) _

theorem listAllowed_updateEntry {p : Pool} (hp : p.ListAllowed) (index : Int) (value : Text) :
    (p.updateEntry index value).1.ListAllowed := by
  unfold updateEntry
  split
  · exact hp
  · exact hp

theorem listAllowed_pasteEntry {p : Pool} (hp : p.ListAllowed) (index : Int) (value : Text) :
    (p.pasteEntry index value).1.ListAllowed :=
  pasteEntry_induction hp fun _ h => listAllowed_adopt (hp (mode_of_place? h)) _

theorem listAllowed_press {p : Pool} (hp : p.ListAllowed) (index : Int) (key : Key) :
    (p.press index key).1.ListAllowed :=
  press_induction hp (fun _ => hp) fun _ h _ => listAllowed_adopt (hp (mode_of_place? h)) _

theorem listAllowed_setMultiViewDisabled {p : Pool} (hp : p.ListAllowed) (disabled : Bool) :
    (p.setMultiViewDisabled disabled).1.ListAllowed := by
  unfold setMultiViewDisabled
  split
  · exact hp
  · rename_i hne
    simp only
    split
    · cases hm : p.mode with
      | list => exact listAllowed_of_single rfl
      | single => exact listAllowed_of_single rfl
    · rename_i hd
      have hdis : p.multiViewDisabled = true := by
        cases hb : p.multiViewDisabled <;> simp_all
      have hm := hp.mode_of_disabled hdis
      split
      · rename_i he
        rw [Bool.and_eq_true] at he
        exact listAllowed_enterListOf he.1 (listAllowed_of_single hm)
      · exact listAllowed_of_single hm

theorem listAllowed_changeType (p : Pool) (channelType : Int) :
    (p.changeType channelType).1.ListAllowed :=
  changeType_induction (fun _ => listAllowed_of_single rfl) (fun hm => listAllowed_of_single hm)
    fun _ henabled h => listAllowed_enterListOf henabled h

theorem listAllowed_finalize {p : Pool} (hp : p.ListAllowed) : p.finalize.1.ListAllowed := by
  unfold finalize
  split
  · rename_i hm
    exact listAllowed_adopt (hp hm) p.entries
  · exact hp

/-- No event shows entries where that is not allowed. -/
theorem listAllowed_step {p : Pool} (hp : p.ListAllowed) (e : Event) :
    (p.step e).1.ListAllowed := by
  cases e with
  | input value => exact listAllowed_input hp value
  | paste value => exact listAllowed_paste hp value
  | clear => exact listAllowed_of_single rfl
  | toggleVisibility => exact hp
  | toggleMultiView => exact listAllowed_setMultiViewDisabled hp _
  | setMultiViewDisabled disabled => exact listAllowed_setMultiViewDisabled hp disabled
  | addEntry value => exact hp
  | removeEntry index => exact listAllowed_removeEntry hp index
  | updateEntry index value => exact listAllowed_updateEntry hp index value
  | pasteEntry index value => exact listAllowed_pasteEntry hp index value
  | press index key => exact listAllowed_press hp index key
  | changeType channelType => exact listAllowed_changeType p channelType
  | hydrate raw? channelType => exact listAllowed_hydrate raw? channelType
  | reset channelType => exact listAllowed_of_single rfl
  | finalize => exact listAllowed_finalize hp

/-- In no pool that events lead to are entries shown where that is not allowed. -/
theorem listAllowed_run {p : Pool} (hp : p.ListAllowed) (events : List Event) :
    (p.run events).ListAllowed := by
  induction events generalizing p with
  | nil => exact hp
  | cons e events ih => exact ih (listAllowed_step hp e)

/-! ### Main statement -/

/-- Each event leaves the keys that it should. -/
theorem keys_step {p : Pool} (hp : p.ListAllowed) (e : Event) :
    (p.step e).1.keys = p.keysAfter (p.step e).2.handled e := by
  cases e with
  | input value => exact keys_input p value
  | paste value => exact keys_paste p value
  | clear => exact split_empty
  | toggleVisibility => rfl
  | toggleMultiView => exact keys_setMultiViewDisabled hp _
  | setMultiViewDisabled disabled => exact keys_setMultiViewDisabled hp disabled
  | addEntry value => exact keys_addEntry p value
  | removeEntry index => exact keys_removeEntry p index
  | updateEntry index value => exact keys_updateEntry p index value
  | pasteEntry index value => exact keys_pasteEntry p index value
  | press index key => exact keys_press p index key
  | changeType channelType => exact keys_changeType p channelType
  | hydrate raw? channelType => exact keys_hydrate raw? channelType
  | reset channelType => exact split_empty
  | finalize => exact keys_finalize p

/-- In every pool that events can lead to, entries are shown only where that is allowed, and the
keys are those of the entries, one entry after the other. There, the next event leaves the keys that
`keysAfter` says, whatever it is, and changes nothing if it is about an index without an entry. -/
theorem keys_step_run (channelType : Int) (text : Text) (events : List Event) :
    let p := (ofText channelType text).run events
    (p.mode = .list → p.listViewEnabled = true ∧ p.keys = p.entries.flatMap split) ∧
    (∀ e, (p.step e).1.keys = p.keysAfter (p.step e).2.handled e) ∧
    (∀ e index, e.index? = some index → p.place? index = none →
      p.step e = (p, .outcome .ignored)) := by
  intro p
  have hp : p.ListAllowed := listAllowed_run (listAllowed_of_single rfl) events
  exact ⟨fun hm => ⟨hp hm, keys_of_list hm⟩, fun e => keys_step hp e,
    fun _ _ he h => step_of_place?_none he h⟩

end Pool

end ChannelConsole.Credential
