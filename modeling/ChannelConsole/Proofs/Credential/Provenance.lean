import ChannelConsole.Proofs.Credential.Pool

/-!
# Where the texts of a pool come from

A pool shows one text or a list of entries. Each of them was brought by an event as it is, or was
made by cutting and joining others. Hence a property of texts holds of what a pool shows if it holds
of all that events bring, and if cutting and joining keep it: the keys that are found in a text have
to have it, and so have texts that are joined from entries that have it (`Pool.holds_run`). Blanks
around an entry do not matter, as they are left out when the entries are stored.

Entries and single texts may be asked for different properties. What is typed into the single field
is cut before it is shown as entries, so entries can be better than that.
-/

namespace ChannelConsole.Credential

variable {Q R : Text → Prop}

/-- Whether cutting and joining keep properties, one of entries and one of single texts. -/
structure Suits (Q R : Text → Prop) : Prop where
  blank : Q ""
  key : ∀ s, ∀ x ∈ split s, Q x
  joined : ∀ entries, (∀ x ∈ entries, Q (Text.trim x)) → R (join entries)

/-- Whether properties hold of the texts that an event brings as they are, one of entries and one of
single texts. What is pasted is cut. -/
def Event.Brings (Q R : Text → Prop) : Event → Prop
  | .input value => R value
  | .hydrate raw? _ => R (raw?.getD "")
  | .addEntry value | .updateEntry _ value => Q (Text.trim value)
  | _ => True

/-- Nothing is joined to the empty text. -/
theorem Suits.empty (h : Suits Q R) : R "" := h.joined [] fun _ hx => absurd hx List.not_mem_nil

theorem Suits.trim_key (h : Suits Q R) (s : Text) : ∀ x ∈ split s, Q (Text.trim x) := by
  intro x hx
  rw [(isKey_of_mem_split hx).trim_eq]
  exact h.key s x hx

namespace Pool

variable {p : Pool}

/-- Whether properties hold of what a pool shows, one of entries and one of a single text. -/
def Holds (Q R : Text → Prop) (p : Pool) : Prop :=
  match p.mode with
  | .single => R p.text
  | .list => ∀ x ∈ p.entries, Q (Text.trim x)

theorem holds_of_single (hm : p.mode = .single) (h : R p.text) : p.Holds Q R := by
  rwa [Holds, hm]

theorem holds_of_list (hm : p.mode = .list) (h : ∀ x ∈ p.entries, Q (Text.trim x)) :
    p.Holds Q R := by
  rwa [Holds, hm]

theorem Holds.text (h : p.Holds Q R) (hm : p.mode = .single) : R p.text := by
  rwa [Holds, hm] at h

theorem Holds.entries (h : p.Holds Q R) (hm : p.mode = .list) :
    ∀ x ∈ p.entries, Q (Text.trim x) := by
  rwa [Holds, hm] at h

section

variable (hs : Suits Q R)

include hs

/-- The text to be stored is the one that is shown, or is joined from the entries. -/
theorem Holds.raw (h : p.Holds Q R) : R p.raw := by
  unfold Pool.raw
  split
  · rename_i hm
    exact hs.joined p.entries (h.entries hm)
  · rename_i hm
    exact h.text hm

/-! ### Changing the view -/

/-- The keys of a text are shown one by one whatever the text is. -/
theorem holds_enterListOf {text : Text} {otherwise : Pool × Outcome}
    (h : otherwise.1.Holds Q R) : (p.enterListOf text otherwise).1.Holds Q R := by
  unfold enterListOf
  split
  · exact h
  · exact holds_of_list rfl (hs.trim_key text)

theorem holds_adopt (p : Pool) {entries : List Text} (h : ∀ x ∈ entries, Q (Text.trim x)) :
    (p.adopt entries).1.Holds Q R := by
  by_cases hlen : 1 < (tidy entries).length
  · rw [adopt_eq_enter hlen]
    apply holds_of_list rfl
    intro x hx
    rw [(trim_of_mem_tidy hx).1]
    exact (forall_mem_tidy_iff hs.blank).2 h x hx
  · -- the one text is the only entry that is not blank, and so it is what the entries are joined to
    have hraw := raw_adopt p entries
    rw [adopt_eq_collapse (by omega), raw_collapse] at hraw
    rw [adopt_eq_collapse (by omega), hraw]
    exact holds_of_single rfl (hs.joined entries h)

/-! ### Events -/

theorem holds_input (p : Pool) {value : Text} (hv : R value) :
    (p.input value).1.Holds Q R := by
  unfold input
  split
  · exact holds_adopt hs p (hs.trim_key value)
  · rename_i hm
    have htyped : ({ p with text := value } : Pool).Holds Q R := holds_of_single hm hv
    split
    · exact holds_enterListOf hs htyped
    · exact htyped

theorem holds_paste (hp : p.Holds Q R) (value : Text) : (p.paste value).1.Holds Q R := by
  unfold paste
  split
  · exact hp
  · rename_i hm
    split
    · exact holds_enterListOf hs (holds_of_single hm hs.empty)
    · exact hp

theorem holds_setMultiViewDisabled (hp : p.Holds Q R) (disabled : Bool) :
    (p.setMultiViewDisabled disabled).1.Holds Q R := by
  have hq : ({ p with multiViewDisabled := disabled } : Pool).Holds Q R := hp
  unfold setMultiViewDisabled
  split
  · exact hp
  · simp only
    split
    · split
      · rename_i hm
        exact holds_of_single rfl (hs.joined p.entries (hp.entries hm))
      · exact hq
    · split
      · exact holds_enterListOf hs hq
      · exact hq

omit hs in
theorem holds_addEntry (hp : p.Holds Q R) {value : Text} (hv : Q (Text.trim value)) :
    (p.addEntry value).1.Holds Q R := by
  cases hm : p.mode with
  | single =>
    have hq : (p.addEntry value).1.mode = .single := hm
    exact holds_of_single hq (hp.text hm)
  | list =>
    have hq : (p.addEntry value).1.mode = .list := hm
    refine holds_of_list hq ?_
    show ∀ x ∈ p.entries ++ [value], Q (Text.trim x)
    rw [List.forall_mem_append, List.forall_mem_singleton]
    exact ⟨hp.entries hm, hv⟩

theorem holds_removeEntry (hp : p.Holds Q R) (index : Int) :
    (p.removeEntry index).1.Holds Q R := by
  unfold removeEntry
  split
  · exact hp
  · rename_i i h
    have hentries := hp.entries (mode_of_place? h)
    exact holds_adopt hs p fun x hx => hentries x (List.mem_of_mem_eraseIdx hx)

omit hs in
theorem holds_updateEntry (hp : p.Holds Q R) (index : Int) {value : Text}
    (hv : Q (Text.trim value)) : (p.updateEntry index value).1.Holds Q R := by
  unfold updateEntry
  split
  · exact hp
  · rename_i i h
    have hm := mode_of_place? h
    have hq : ({ p with entries := p.entries.set i value } : Pool).mode = .list := hm
    refine holds_of_list hq fun x hx => ?_
    rcases List.mem_or_eq_of_mem_set hx with hx | rfl
    · exact hp.entries hm x hx
    · exact hv

theorem holds_pasteEntry (hp : p.Holds Q R) (index : Int) (value : Text) :
    (p.pasteEntry index value).1.Holds Q R := by
  apply pasteEntry_induction (P := Holds Q R) hp
  intro i h
  have hentries := hp.entries (mode_of_place? h)
  -- the entries on both sides stay, and keys come between them
  apply holds_adopt hs
  rw [pasted, List.forall_mem_append, List.forall_mem_append]
  exact ⟨⟨fun x hx => hentries x (List.mem_of_mem_take hx), hs.trim_key _⟩,
    fun x hx => hentries x (List.mem_of_mem_drop hx)⟩

theorem holds_press (hp : p.Holds Q R) (index : Int) (key : Key) :
    (p.press index key).1.Holds Q R := by
  apply press_induction (P := Holds Q R) hp
  · exact fun _ => holds_addEntry hp hs.blank
  · intro i h _
    have hentries := hp.entries (mode_of_place? h)
    exact holds_adopt hs p fun x hx => hentries x (List.mem_of_mem_eraseIdx hx)

theorem holds_changeType (hp : p.Holds Q R) (channelType : Int) :
    (p.changeType channelType).1.Holds Q R :=
  changeType_induction (fun _ => holds_of_single rfl (hp.raw hs)) (fun _ => hp)
    fun _ _ h => holds_enterListOf hs h

theorem holds_hydrate {raw? : Option Text} (h : R (raw?.getD "")) (channelType : Int) :
    (hydrate raw? channelType).Holds Q R := by
  unfold hydrate
  simp only
  split
  · exact holds_of_list rfl (hs.trim_key _)
  · exact holds_of_single rfl h

theorem holds_finalize (hp : p.Holds Q R) : p.finalize.1.Holds Q R := by
  unfold finalize
  split
  · rename_i hm
    exact holds_adopt hs p (hp.entries hm)
  · exact hp

/-- What holds of a pool and of what an event brings holds after the event. -/
theorem holds_step (hp : p.Holds Q R) {e : Event} (he : e.Brings Q R) :
    (p.step e).1.Holds Q R := by
  cases e with
  | input value => exact holds_input hs p he
  | paste value => exact holds_paste hs hp value
  | clear => exact holds_of_single rfl hs.empty
  | toggleVisibility => exact hp
  | toggleMultiView => exact holds_setMultiViewDisabled hs hp _
  | setMultiViewDisabled disabled => exact holds_setMultiViewDisabled hs hp disabled
  | addEntry value => exact holds_addEntry hp he
  | removeEntry index => exact holds_removeEntry hs hp index
  | updateEntry index value => exact holds_updateEntry hp index he
  | pasteEntry index value => exact holds_pasteEntry hs hp index value
  | press index key => exact holds_press hs hp index key
  | changeType channelType => exact holds_changeType hs hp channelType
  | hydrate raw? channelType => exact holds_hydrate hs he channelType
  | reset channelType => exact holds_of_single rfl hs.empty
  | finalize => exact holds_finalize hs hp

/-- What holds of a pool and of all that events bring holds after the events. -/
theorem holds_run (hp : p.Holds Q R) {events : List Event} (h : ∀ e ∈ events, e.Brings Q R) :
    (p.run events).Holds Q R := by
  induction events generalizing p with
  | nil => exact hp
  | cons e events ih =>
    rw [List.forall_mem_cons] at h
    exact ih (holds_step hs hp h.1) h.2

end

end Pool

end ChannelConsole.Credential
