import ChannelConsole.Proofs.Credential.Collapse

/-!
# Where the focus goes

An event may say where the keyboard focus should go, and what it names has to be there when the
event is over: an entry among those that are shown then, or the single field, and then no entries
are left behind it. An event that changes the view always says so (`Pool.Directs`).

The place of an entry is counted before blank entries are dropped, and looked up afterwards. Blank
ones in front of it must not be counted, therefore: `Pool.solidBefore` is the number of entries in
front of a place that stay when the entries are tidied, so the keys that are pasted there stand
right behind that many (`Pool.focus_step`).
-/

namespace ChannelConsole.Credential.Pool

variable {p q : Pool}

/-- Whether the focus goes to something that is there after an event, and goes somewhere if the view
has changed. -/
structure Directs (p : Pool) (r : Pool × Outcome) : Prop where
  entry : ∀ i, r.2.focus? = some (.entry i) → r.1.mode = .list ∧ i < r.1.entries.length
  single : r.2.focus? = some .single → r.1.mode = .single ∧ r.1.entries = []
  switched : r.1.mode ≠ p.mode → r.2.focus? ≠ none

/-! ### Changing the view -/

theorem directs_of_mode_eq {handled : Bool} (h : q.mode = p.mode) :
    p.Directs (q, { handled, focus? := none }) where
  entry _ hi := by cases hi
  single hs := by cases hs
  switched hne := absurd h hne

theorem directs_entry {i : Nat} (hm : q.mode = .list) (hi : i < q.entries.length) :
    p.Directs (q, .focusing (.entry i)) where
  entry j hj := by
    obtain rfl := Focus.entry.inj (Option.some.inj hj)
    exact ⟨hm, hi⟩
  single hs := by cases hs
  switched _ h := by cases h

theorem directs_collapse (q : Pool) (text : Text) :
    p.Directs (q.collapse text, .focusing .single) where
  entry _ hi := by cases hi
  single _ := ⟨rfl, rfl⟩
  switched _ h := by cases h

theorem directs_enterListOf {text : Text} {otherwise : Pool × Outcome}
    (h : p.Directs otherwise) : p.Directs (q.enterListOf text otherwise) := by
  unfold enterListOf
  split
  · exact h
  · rename_i hs
    exact directs_entry rfl (List.length_pos_iff.2 hs)

/-- Most events show the keys of a text one by one only under a condition, and without it they do
what they would do for a text without keys. -/
theorem directs_enterListOf_ite {c : Bool} {text : Text} {otherwise : Pool × Outcome}
    (h : p.Directs otherwise) :
    p.Directs (if c then q.enterListOf text otherwise else otherwise) := by
  cases c with
  | true => exact directs_enterListOf h
  | false => exact h

/-- Where entries are shown, entries that are taken over are shown again, or the focus goes to the
single field. -/
theorem directs_adopt (hm : p.mode = .list) (entries : List Text) :
    p.Directs ((p.adopt entries).1, { focus? := (p.adopt entries).2 }) := by
  by_cases h : 1 < (tidy entries).length
  · rw [adopt_eq_enter h]
    exact directs_of_mode_eq hm.symm
  · rw [adopt_eq_collapse (by omega)]
    exact directs_collapse p _

/-- The same when the focus goes to one of the entries. -/
theorem directs_adoptAt (entries : List Text) {i : Nat}
    (hi : 1 < (tidy entries).length → i < (tidy entries).length) :
    p.Directs (p.adoptAt entries i) := by
  by_cases h : 1 < (tidy entries).length
  · rw [adoptAt_eq_enter h]
    exact directs_entry rfl (hi h)
  · rw [adoptAt, adopt_eq_collapse (by omega)]
    exact directs_collapse p _

/-! ### Events -/

theorem directs_input (p : Pool) (value : Text) : p.Directs (p.input value) := by
  unfold input
  split
  · rename_i hm
    exact directs_adopt hm (split value)
  · exact directs_enterListOf_ite (directs_of_mode_eq rfl)

theorem directs_paste (p : Pool) (value : Text) : p.Directs (p.paste value) := by
  have hignored : p.Directs (p, .ignored) := directs_of_mode_eq rfl
  unfold paste
  split
  · exact hignored
  · split
    · exact directs_enterListOf (directs_of_mode_eq rfl)
    · exact hignored

theorem directs_setMultiViewDisabled (p : Pool) (disabled : Bool) :
    p.Directs (p.setMultiViewDisabled disabled) := by
  have hset : p.Directs ({ p with multiViewDisabled := disabled }, {}) := directs_of_mode_eq rfl
  unfold setMultiViewDisabled
  split
  · exact directs_of_mode_eq rfl
  · simp only
    split
    · split
      · exact directs_collapse _ _
      · exact hset
    · exact directs_enterListOf_ite hset

theorem directs_changeType (p : Pool) (channelType : Int) :
    p.Directs (p.changeType channelType) := by
  apply directs_enterListOf_ite
  split
  · exact directs_collapse _ _
  · exact directs_of_mode_eq rfl

theorem directs_removeEntry (p : Pool) (index : Int) : p.Directs (p.removeEntry index) := by
  unfold removeEntry
  split
  · exact directs_of_mode_eq rfl
  · rename_i i h
    exact directs_adopt (mode_of_place? h) _

/-- An entry that is added where entries are shown is the last of them. -/
theorem directs_addEntry (hm : p.mode = .list) (value : Text) : p.Directs (p.addEntry value) := by
  have hq : (p.addEntry value).1.mode = .list := hm
  exact directs_entry hq (by simp)

theorem directs_updateEntry (p : Pool) (index : Int) (value : Text) :
    p.Directs (p.updateEntry index value) := by
  unfold updateEntry
  split
  · exact directs_of_mode_eq rfl
  · exact directs_of_mode_eq rfl

theorem directs_pasteEntry (p : Pool) (index : Int) (value : Text) :
    p.Directs (p.pasteEntry index value) := by
  obtain hsame | ⟨i, -, htaken⟩ := pasteEntry_cases p index value
  · rw [hsame]
    exact directs_of_mode_eq rfl
  · rw [htaken]
    apply directs_adoptAt
    intro hlen
    simp only [adopt_eq_enter hlen]
    omega

theorem solidBefore_eq (p : Pool) (i : Nat) :
    p.solidBefore i = (tidy (p.entries.take i)).length := (length_tidy _).symm

/-- Entries that begin with those in front of a place are as many, tidied, as are counted there, or
more. -/
theorem solidBefore_le (p : Pool) (i : Nat) (ys : List Text) :
    p.solidBefore i ≤ (tidy (p.entries.take i ++ ys)).length := by
  rw [tidy_append, List.length_append, solidBefore_eq]
  exact Nat.le_add_right _ _

theorem directs_press (p : Pool) (index : Int) (key : Key) : p.Directs (p.press index key) := by
  have hignored : p.Directs (p, .ignored) := directs_of_mode_eq rfl
  cases h : p.place? index with
  | none =>
    simp only [press, h]
    exact hignored
  | some i =>
    have hadded := directs_addEntry (mode_of_place? h) ""
    cases key with
    | enter =>
      simp only [press, h]
      exact hadded
    | comma =>
      simp only [press, h]
      split
      · exact directs_of_mode_eq rfl
      · exact hadded
    | backspace =>
      obtain hsame | ⟨j, -, -, hremoved⟩ := press_backspace_cases p index
      · rw [hsame]
        exact hignored
      · rw [hremoved]
        apply directs_adoptAt
        intro hlen
        have hle := solidBefore_le p j (p.entries.drop (j + 1))
        rw [← List.eraseIdx_eq_take_drop_succ] at hle
        omega
    | other =>
      simp only [press, h]
      exact hignored

/-- Whatever an event gives back directs the focus, unless an entry was added. -/
theorem directs_step (p : Pool) {e : Event} {o : Outcome} (ho : (p.step e).2 = .outcome o)
    (he : ∀ value, e ≠ .addEntry value) : p.Directs ((p.step e).1, o) := by
  cases e with
  | input value => exact Response.outcome.inj ho ▸ directs_input p value
  | paste value => exact Response.outcome.inj ho ▸ directs_paste p value
  | toggleMultiView => exact Response.outcome.inj ho ▸ directs_setMultiViewDisabled p _
  | setMultiViewDisabled disabled =>
    exact Response.outcome.inj ho ▸ directs_setMultiViewDisabled p disabled
  | addEntry value => exact absurd rfl (he value)
  | removeEntry index => exact Response.outcome.inj ho ▸ directs_removeEntry p index
  | updateEntry index value => exact Response.outcome.inj ho ▸ directs_updateEntry p index value
  | pasteEntry index value => exact Response.outcome.inj ho ▸ directs_pasteEntry p index value
  | press index key => exact Response.outcome.inj ho ▸ directs_press p index key
  | changeType channelType => exact Response.outcome.inj ho ▸ directs_changeType p channelType
  | _ => cases ho

/-! ### The place of an entry -/

/-- The last of the items that stand in front of others. -/
theorem getElem?_append_last {α : Type} {xs : List α} (h : xs ≠ []) (ys : List α) :
    (xs ++ ys)[xs.length - 1]? = xs.getLast? := by
  have hlen := List.length_pos_iff.2 h
  rw [List.getElem?_append_left (by omega), List.getLast?_eq_getElem?]

/-- Entries that are taken over are shown one by one only if two of them are not blank. -/
theorem one_lt_of_mode_adopt {entries : List Text} (hm : (p.adopt entries).1.mode = .list) :
    1 < (tidy entries).length := by
  rw [length_tidy]
  exact (settles_adopt p entries).mode_iff.1 hm

/-- The keys that are pasted into an entry stand behind what stays of the entries in front of it,
and the focus goes to the last of them. -/
theorem focus_pasteEntry {index : Int} {value : Text}
    (hh : (p.pasteEntry index value).2.handled = true)
    (hkeys : split (p.entries.getD index.toNat "" ++ value) ≠ [])
    (hm : (p.pasteEntry index value).1.mode = .list) :
    (p.pasteEntry index value).1.entries =
      tidy (p.entries.take index.toNat) ++ split (p.entries.getD index.toNat "" ++ value) ++
        tidy (p.entries.drop (index.toNat + 1)) ∧
    (p.pasteEntry index value).2.focus? =
      some (.entry ((tidy (p.entries.take index.toNat)).length +
        (split (p.entries.getD index.toNat "" ++ value)).length - 1)) := by
  rw [pasteEntry_of_handled hh] at hm ⊢
  have hlen := one_lt_of_mode_adopt hm
  have hpos := List.length_pos_iff.2 hkeys
  -- the place is counted among the tidy entries, so it is not moved to the last of them
  have hmin : p.solidBefore index.toNat +
      (split (p.entries.getD index.toNat "" ++ value)).length - 1 ≤
        (tidy (p.pasted index.toNat value)).length - 1 := by
    rw [solidBefore_eq, pasted, tidy_append, tidy_append, tidy_split, List.length_append,
      List.length_append]
    omega
  rw [adopt_eq_enter hlen, adoptAt_eq_enter hlen, Nat.min_eq_left hmin, solidBefore_eq]
  exact ⟨by rw [pasted, tidy_append, tidy_append, tidy_split], rfl⟩

theorem press_backspace_of_handled {index : Int}
    (hh : (p.press index .backspace).2.handled = true) :
    p.press index .backspace =
      p.adoptAt (p.entries.eraseIdx index.toNat) (p.solidBefore index.toNat - 1) := by
  obtain hsame | ⟨i, hplace, -, hremoved⟩ := press_backspace_cases p index
  · rw [hsame] at hh
    exact absurd hh Bool.false_ne_true
  · obtain rfl := eq_toNat_of_place? hplace
    exact hremoved

/-- Where an empty entry is removed, the focus goes to the last entry in front of it that stays. -/
theorem focus_press_backspace {index : Int} (hh : (p.press index .backspace).2.handled = true)
    (hm : (p.press index .backspace).1.mode = .list) :
    (p.press index .backspace).1.entries =
      tidy (p.entries.take index.toNat) ++ tidy (p.entries.drop (index.toNat + 1)) ∧
    (p.press index .backspace).2.focus? =
      some (.entry ((tidy (p.entries.take index.toNat)).length - 1)) := by
  rw [press_backspace_of_handled hh] at hm ⊢
  have hlen := one_lt_of_mode_adopt hm
  rw [adoptAt_eq_enter hlen, ← tidy_append, ← List.eraseIdx_eq_take_drop_succ, solidBefore_eq]
  exact ⟨rfl, rfl⟩

/-! ### Main statement -/

/-- Whatever an event gives back about the focus holds of the pool after it, unless an entry was
added: an entry that is named is shown, where the single field is named one text is shown and no
entries are left, and something is named if the view has changed.

If keys are pasted into an entry and entries are shown afterwards, the focus goes to the last of
these keys, which stand behind the entries in front that are not blank. If Backspace removes an
entry and entries are shown afterwards, it goes to the last entry in front of it that is not blank,
and to the first entry of all if there is none. -/
theorem focus_step (p : Pool) :
    (∀ e o, (p.step e).2 = .outcome o → (∀ value, e ≠ .addEntry value) →
      p.Directs ((p.step e).1, o)) ∧
    (∀ index value,
      let before := tidy (p.entries.take index.toNat)
      let keys := split (p.entries.getD index.toNat "" ++ value)
      let q := (p.pasteEntry index value).1
      let o := (p.pasteEntry index value).2
      o.handled = true → keys ≠ [] → q.mode = .list →
        ∃ j, o.focus? = some (.entry j) ∧
          q.entries = before ++ keys ++ tidy (p.entries.drop (index.toNat + 1)) ∧
          j + 1 = (before ++ keys).length ∧ q.entries[j]? = keys.getLast?) ∧
    (∀ index,
      let before := tidy (p.entries.take index.toNat)
      let q := (p.press index .backspace).1
      let o := (p.press index .backspace).2
      o.handled = true → q.mode = .list →
        ∃ j, o.focus? = some (.entry j) ∧
          q.entries = before ++ tidy (p.entries.drop (index.toNat + 1)) ∧
          (before = [] → j = 0) ∧
          (before ≠ [] → j + 1 = before.length ∧ q.entries[j]? = before.getLast?)) := by
  refine ⟨fun e o ho he => directs_step p ho he, ?_, ?_⟩
  · intro index value before keys q o hh hkeys hm
    obtain ⟨hentries, hfocus⟩ := focus_pasteEntry hh hkeys hm
    have hne : before ++ keys ≠ [] := List.append_ne_nil_of_right_ne_nil before hkeys
    have hpos := List.length_pos_iff.2 hne
    have hlast : (before ++ keys).getLast? = keys.getLast? := by
      rw [List.getLast?_append, List.getLast?_eq_some_getLast hkeys, Option.some_or]
    rw [← List.length_append] at hfocus
    refine ⟨(before ++ keys).length - 1, hfocus, hentries, by omega, ?_⟩
    rw [← hlast, show q.entries = _ from hentries]
    exact getElem?_append_last hne _
  · intro index before q o hh hm
    obtain ⟨hentries, hfocus⟩ := focus_press_backspace hh hm
    refine ⟨before.length - 1, hfocus, hentries, fun hnone => by simp [hnone], fun hne => ?_⟩
    have hpos := List.length_pos_iff.2 hne
    refine ⟨by omega, ?_⟩
    rw [show q.entries = _ from hentries]
    exact getElem?_append_last hne _

end ChannelConsole.Credential.Pool
