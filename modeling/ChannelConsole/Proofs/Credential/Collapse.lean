import ChannelConsole.Proofs.Credential.Pool

/-!
# When a list of entries collapses

Four events leave a list of entries behind and settle how it is shown: typing over the list,
removing an entry, pasting keys into an entry, and settling the view as it is to be stored. What the
entries are differs (`Pool.settled?`), what is made of them does not: two or more that are not blank
are shown one by one, trimmed, and otherwise the one that is not blank, trimmed, becomes the one
text that is shown (`Pool.settles_step`).

To settle the view changes nothing about the text to be stored, and there is nothing left to do when
it is settled once more.
-/

namespace ChannelConsole.Credential

/-- The entries that are not blank. -/
def nonblank (entries : List Text) : List Text := entries.filter (!Text.isAllBlank ·)

theorem trim_eq_empty_iff {s : Text} : Text.trim s = "" ↔ Text.isAllBlank s = true := by
  rw [Text.isAllBlank, List.all_eq_true, ← Text.trimChars_eq_nil_iff, ← Text.toList_trim,
    Text.toList_eq_nil_iff]

/-- Tidy entries are those that are not blank, trimmed. -/
theorem tidy_eq (entries : List Text) : tidy entries = (nonblank entries).map Text.trim := by
  have hblank : ∀ e ∈ entries, ((!·.isEmpty) ∘ Text.trim) e = !Text.isAllBlank e := by
    intro e _
    rw [Function.comp_apply, Bool.eq_iff_iff, Bool.not_eq_true', Bool.not_eq_true',
      Bool.eq_false_iff, Bool.eq_false_iff, ne_eq, ne_eq, Text.isEmpty_iff, trim_eq_empty_iff]
  rw [tidy, List.filter_map, List.filter_congr hblank, nonblank]

theorem length_tidy (entries : List Text) :
    (tidy entries).length = (nonblank entries).length := by
  rw [tidy_eq, List.length_map]

namespace Pool

variable {p : Pool}

/-! ### Settling -/

/-- Whether a pool shows what a list of entries comes to. -/
structure Settles (q : Pool) (entries : List Text) : Prop where
  mode_iff : q.mode = .list ↔ 2 ≤ (nonblank entries).length
  listed : q.mode = .list → q.entries = (nonblank entries).map Text.trim
  unlisted : q.mode = .single → q.entries = []
  left : q.mode = .single → q.raw = ((nonblank entries).map Text.trim).headD ""

/-- The list of entries that an event leaves behind, if it settles how it is shown. -/
def settled? (p : Pool) : Event → Option (List Text)
  | .finalize => some p.entries
  | .input value => some (split value)
  | .removeEntry index => some (p.entries.eraseIdx index.toNat)
  | .pasteEntry index value => some (p.pasted index.toNat value)
  | _ => none

theorem settles_adopt (p : Pool) (entries : List Text) : (p.adopt entries).1.Settles entries := by
  by_cases h : 1 < (tidy entries).length
  · rw [adopt_eq_enter h]
    rw [length_tidy] at h
    exact {
      mode_iff := iff_of_true rfl h
      listed := fun _ => tidy_eq entries
      unlisted := fun hm => by cases hm
      left := fun hm => by cases hm }
  · have hle : (tidy entries).length ≤ 1 := by omega
    rw [adopt_eq_collapse hle, tidy_eq]
    rw [length_tidy] at h
    exact {
      mode_iff := iff_of_false (fun hm => by cases hm) (by omega)
      listed := fun hm => by cases hm
      unlisted := fun _ => rfl
      left := fun _ => rfl }

/-- An index with an entry is the place of that entry. -/
theorem eq_toNat_of_place? {index : Int} {i : Nat} (h : p.place? index = some i) :
    i = index.toNat := by
  unfold place? at h
  split at h
  · exact (Option.some.inj h).symm
  · cases h

/-- An event about an index is handled only if there is an entry at it. -/
theorem place?_of_handled {e : Event} {index : Int} (he : e.index? = some index)
    (hh : (p.step e).2.handled = true) : p.place? index = some index.toNat := by
  cases h : p.place? index with
  | none =>
    rw [step_of_place?_none he h] at hh
    exact absurd hh Bool.false_ne_true
  | some i => rw [eq_toNat_of_place? h]

theorem pasteEntry_of_handled {index : Int} {value : Text}
    (hh : (p.pasteEntry index value).2.handled = true) :
    p.pasteEntry index value = p.adoptAt (p.pasted index.toNat value)
      (min (p.solidBefore index.toNat +
          (split (p.entries.getD index.toNat "" ++ value)).length - 1)
        ((p.adopt (p.pasted index.toNat value)).1.entries.length - 1)) := by
  obtain hsame | ⟨i, hplace, htaken⟩ := pasteEntry_cases p index value
  · rw [hsame] at hh
    exact absurd hh Bool.false_ne_true
  · obtain rfl := eq_toNat_of_place? hplace
    exact htaken

/-- What settles how entries are shown takes them over. -/
theorem step_of_settled? {e : Event} {entries : List Text} (hm : p.mode = .list)
    (he : p.settled? e = some entries) (hh : (p.step e).2.handled = true) :
    (p.step e).1 = (p.adopt entries).1 := by
  cases e with
  | finalize =>
    obtain rfl := Option.some.inj he
    simp only [step, finalize, hm]
    rfl
  | input value =>
    obtain rfl := Option.some.inj he
    simp only [step, input, hm]
    rfl
  | removeEntry index =>
    obtain rfl := Option.some.inj he
    have hplace := place?_of_handled rfl hh
    simp only [step, removeEntry, hplace]
    rfl
  | pasteEntry index value =>
    obtain rfl := Option.some.inj he
    exact congrArg Prod.fst (pasteEntry_of_handled hh)
  | _ => cases he

/-! ### Settling again -/

/-- Entries that were taken over are taken over once more as they are. -/
theorem adopt_adopt (entries : List Text) (hm : (p.adopt entries).1.mode = .list) :
    (p.adopt entries).1.adopt (p.adopt entries).1.entries = ((p.adopt entries).1, none) := by
  by_cases h : 1 < (tidy entries).length
  · rw [adopt_eq_enter h]
    have hagain : 1 < (tidy (tidy entries)).length := by rwa [tidy_tidy]
    simp only [adopt_eq_enter hagain, tidy_tidy]
  · rw [adopt_eq_collapse (by omega)] at hm
    cases hm

theorem finalize_of_single (hm : p.mode = .single) : p.finalize = (p, p.raw) := by
  simp only [finalize, hm]

theorem finalize_finalize (p : Pool) : p.finalize.1.finalize = p.finalize := by
  cases hm : p.mode with
  | single => simp only [finalize_of_single hm]
  | list =>
    have hfinal : p.finalize = ((p.adopt p.entries).1, (p.adopt p.entries).1.raw) := by
      simp only [finalize, hm]
    rw [hfinal]
    cases hq : (p.adopt p.entries).1.mode with
    | single => rw [finalize_of_single hq]
    | list => simp only [finalize, hq, adopt_adopt p.entries hq]

/-- What is given to be stored is the text to be stored. -/
theorem finalize_snd (p : Pool) : p.finalize.2 = p.raw := by
  rw [← raw_finalize]
  unfold finalize
  split <;> rfl

/-! ### Main statement -/

/-- Where entries are shown, an event that settles how they are shown leaves two or more that are
not blank shown one by one, trimmed and in order, and otherwise one text, which is the only one that
is not blank, trimmed, or else empty. Settling the view for storing keeps the text to be stored,
which is the one that is given, and does nothing when it is done again. -/
theorem settles_step (p : Pool) :
    (∀ e entries, p.mode = .list → p.settled? e = some entries → (p.step e).2.handled = true →
      (p.step e).1.Settles entries) ∧
    p.finalize.1.raw = p.raw ∧ p.finalize.2 = p.raw ∧ p.finalize.1.finalize = p.finalize := by
  refine ⟨fun e entries hm he hh => ?_, raw_finalize p, finalize_snd p, finalize_finalize p⟩
  rw [step_of_settled? hm he hh]
  exact settles_adopt p entries

end Pool

end ChannelConsole.Credential
