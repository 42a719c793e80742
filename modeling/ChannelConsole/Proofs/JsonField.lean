import ChannelConsole.JsonField
import ChannelConsole.Proofs.Json.RoundTrip
import ChannelConsole.Proofs.Json.Whole
import ChannelConsole.Proofs.Json.Words

/-!
# Laying out JSON fields

A text that is made ready for editing means what it meant before (`keeps_load`): an empty text and
a text that is no JSON stay as they are, and any other text is read as the same value. Making it
ready once more changes nothing (`load_load`). A value that is stored is valid again, whatever
numbers it has (`isValid_of_store`).

The first two need numbers to be integers of machine words. Nothing has to be asked of the nesting,
since a value that is nested too deeply is not made ready at all: a text may be nested more deeply
when it is read than when it is laid out, and `exists_load_iff` says which texts are made ready.

Plain values (`IsPlain`) are written and read without any loss, and their texts have one layout,
which is kept when they are laid out once more (`reads_back`).
-/

namespace ChannelConsole.JsonField

/-- Whether a text means the same as the one that is stored: an unset field and a text that is no
JSON are kept as they are, and JSON keeps its value. -/
structure Keeps (stored kept : Text) : Prop where
  verbatim : stored = "" ∨ parse? stored = none → kept = stored
  value : ∀ v, parse? stored = some v → parse? kept = some v

theorem Keeps.refl (s : Text) : Keeps s s where
  verbatim _ := rfl
  value _ h := h

/-- Whether all numbers in a text are integers that fit into machine words, if it is JSON. -/
def HasOnlyWords (value : Text) : Prop := ∀ v, parse? value = some v → v.hasOnlyWords = true

/-! ### Written values -/

theorem takesWords_reading : reading.TakesWords := fun _ _ => rfl

theorem parse?_empty : parse? "" = none := by decide

theorem isEmpty_of_parse? {value : Text} {v : Json} (h : parse? value = some v) :
    value.isEmpty = false := by
  rw [Bool.eq_false_iff]
  intro hempty
  rw [Text.isEmpty_iff.1 hempty, parse?_empty] at h
  exact absurd h (by simp)

theorem read?_of_parse? {value : Text} {v : Json} (h : parse? value = some v) :
    Json.read? reading value = some v := by
  unfold parse? at h
  split at h
  · exact h
  · cases h

/-- The text of a field and what is read from it have no halves of characters. -/
theorem isEncodable_of_parse? {value : Text} {v : Json} (h : parse? value = some v) :
    v.isEncodable = true := by
  have hread := read?_of_parse? h
  unfold parse? at h
  split at h
  · rename_i hvalue
    exact Json.isEncodable_of_read? rfl hvalue hread
  · cases h

theorem hasDistinctKeys_of_parse? {value : Text} {v : Json} (h : parse? value = some v) :
    v.hasDistinctKeys = true :=
  Json.hasDistinctKeys_of_read? (read?_of_parse? h)

/-- What can be written can be read. -/
theorem parse?_text_of_isWritable (form : Json.Form) {v : Json} (h : v.isWritable = true) :
    parse? (v.text form) = some v.asRead := by
  simp only [Json.isWritable, Bool.and_eq_true, decide_eq_true_eq] at h
  obtain ⟨⟨hfit, hencodable⟩, hdepth⟩ := h
  have hmax : Json.maxWrittenDepth ≤ reading.maxDepth := by decide
  rw [parse?, if_pos (Json.isEncodable_text form hencodable)]
  exact Json.read?_text_eq_asRead takesWords_reading form hfit (hdepth.trans hmax)

/-- A value that may stand in a field while it is edited has a text that may stand there. -/
theorem isValid_of_store {v : Json} {s : Text} (hv : accepts v = true)
    (hs : store v = some s) : isValid s = true := by
  -- whatever is neither null nor a text is written as JSON
  have hencode : v.encode? .compact = some s → isValid s = true := by
    intro he
    unfold Json.encode? at he
    split at he
    · rename_i hwritable
      obtain rfl := Option.some.inj he
      rw [isValid, parse?_text_of_isWritable .compact hwritable, Option.isSome_some, Bool.or_true]
    · cases he
  cases v with
  | null =>
    obtain rfl := Option.some.inj hs
    rfl
  | str t =>
    obtain rfl := Option.some.inj hs
    exact hv
  | _ => exact hencode hs

/-- The text of a value is read as that value, even if the value is nested more deeply than what is
laid out. -/
theorem parse?_text (form : Json.Form) {v : Json} (hw : v.hasOnlyWords = true)
    (hd : v.hasDistinctKeys = true) (he : v.isEncodable = true)
    (hdepth : v.depth ≤ reading.maxDepth) : parse? (v.text form) = some v := by
  rw [parse?, if_pos (Json.isEncodable_text form he)]
  exact Json.read?_text takesWords_reading form hw hd hdepth

/-- The text that is written for the value of a text is read as that value. -/
theorem parse?_encode? {form : Json.Form} {value written : Text} {v : Json}
    (hv : parse? value = some v) (hw : v.hasOnlyWords = true)
    (he : v.encode? form = some written) : parse? written = some v := by
  unfold Json.encode? at he
  split at he
  · rename_i hwritable
    obtain rfl := Option.some.inj he
    simp only [Json.isWritable, Bool.and_eq_true, decide_eq_true_eq] at hwritable
    obtain ⟨⟨-, hencodable⟩, hdepth⟩ := hwritable
    -- less may be written than is read, so what was written can be read
    have hmax : v.depth ≤ reading.maxDepth := by
      have h254 : Json.maxWrittenDepth ≤ reading.maxDepth := by decide
      omega
    exact parse?_text form hw (hasDistinctKeys_of_parse? hv) hencodable hmax
  · simp at he

/-! ### Texts that are made ready -/

/-- A text that was made ready for editing is empty, no JSON, or the layout of a value. -/
theorem load_cases {field value : Text} {l : Loaded} (h : load field value = .ok l) :
    (value = "" ∧ l.value = "" ∧ l.diagnostic? = none) ∨
    (value ≠ "" ∧ parse? value = none ∧ l.value = value ∧
      l.diagnostic? = some (diagnosis field)) ∨
    (∃ v, parse? value = some v ∧ v.encode? .indented = some l.value ∧ l.diagnostic? = none) := by
  unfold load at h
  split at h
  · rename_i hempty
    obtain rfl := Except.ok.inj h
    exact .inl ⟨Text.isEmpty_iff.1 hempty, rfl, rfl⟩
  · rename_i hempty
    have hne : value ≠ "" := fun he => hempty (Text.isEmpty_iff.2 he)
    unfold pretty at h
    cases hv : parse? value with
    | none =>
      simp only [hv] at h
      obtain rfl := Except.ok.inj h
      exact .inr (.inl ⟨hne, rfl, rfl, rfl⟩)
    | some v =>
      simp only [hv] at h
      cases hs : v.encode? .indented with
      | none => simp [hs] at h
      | some s =>
        simp only [hs] at h
        obtain rfl := Except.ok.inj h
        exact .inr (.inr ⟨v, rfl, hs, rfl⟩)

/-- What is read from a text can be laid out exactly if it is not nested too deeply. -/
theorem isWritable_iff_of_parse? {value : Text} {v : Json} (h : parse? value = some v) :
    v.isWritable = true ↔ v.depth ≤ Json.maxWrittenDepth := by
  rw [Json.isWritable_iff_of_read? rfl (read?_of_parse? h)]
  exact and_iff_right (isEncodable_of_parse? h)

/-- A text can be made ready for editing exactly if its value can be written, should it have one. -/
theorem exists_load_iff {field value : Text} :
    (∃ l, load field value = .ok l) ↔ ∀ v, parse? value = some v → v.isWritable = true := by
  constructor
  · rintro ⟨l, hl⟩ v hv
    rcases load_cases hl with ⟨rfl, -, -⟩ | ⟨-, hnone, -, -⟩ | ⟨w, hw, hs, -⟩
    · rw [parse?_empty] at hv
      exact absurd hv (by simp)
    · rw [hnone] at hv
      exact absurd hv (by simp)
    · obtain rfl := Option.some.inj (hv.symm.trans hw)
      unfold Json.encode? at hs
      split at hs
      · assumption
      · simp at hs
  · intro h
    unfold load
    split
    · exact ⟨_, rfl⟩
    · unfold pretty
      cases hv : parse? value with
      | none => exact ⟨_, rfl⟩
      | some v =>
        have hs : v.encode? .indented = some (v.text .indented) := if_pos (h v hv)
        simp only [hs]
        exact ⟨_, rfl⟩

/-- A text that is made ready for editing means what it meant before. -/
theorem keeps_load {field value : Text} {l : Loaded} (h : load field value = .ok l)
    (hw : HasOnlyWords value) : Keeps value l.value := by
  rcases load_cases h with ⟨rfl, hl, -⟩ | ⟨-, -, hl, -⟩ | ⟨v, hv, hs, -⟩
  · rw [hl]
    exact Keeps.refl _
  · rw [hl]
    exact Keeps.refl _
  · constructor
    · rintro (rfl | hnone)
      · rw [parse?_empty] at hv
        exact absurd hv (by simp)
      · rw [hnone] at hv
        exact absurd hv (by simp)
    · intro w hw'
      obtain rfl := Option.some.inj (hv.symm.trans hw')
      exact parse?_encode? hv (hw v hv) hs

/-- A text that was made ready for editing is ready. -/
theorem load_load {field value : Text} {l : Loaded} (h : load field value = .ok l)
    (hw : HasOnlyWords value) : load field l.value = .ok l := by
  rcases load_cases h with ⟨rfl, hl, hd⟩ | ⟨-, -, hl, -⟩ | ⟨v, hv, hs, hd⟩
  · rw [hl, ← h]
  · rw [hl, h]
  · have hread := parse?_encode? hv (hw v hv) hs
    unfold load pretty
    rw [isEmpty_of_parse? hread]
    simp only [hread, hs, Bool.false_eq_true, if_false]
    rw [← hd]

/-! ### Plain values -/

/-- Whether a value comes back from its texts as it is: its numbers are integers of machine words,
no object has a key twice, its texts consist of whole characters, and it is not nested too
deeply. -/
structure IsPlain (v : Json) : Prop where
  words : v.hasOnlyWords = true
  keys : v.hasDistinctKeys = true
  characters : v.isEncodable = true
  depth : v.depth ≤ Json.maxWrittenDepth

variable {v : Json} {s : Text}

/-- What is read has no key twice and no halves of characters, so the other two are to be asked
for. -/
theorem isPlain_of_parse? (h : parse? s = some v) (words : v.hasOnlyWords = true)
    (depth : v.depth ≤ Json.maxWrittenDepth) : IsPlain v :=
  ⟨words, hasDistinctKeys_of_parse? h, isEncodable_of_parse? h, depth⟩

namespace IsPlain

theorem encode?_eq (h : IsPlain v) (form : Json.Form) : v.encode? form = some (v.text form) := by
  refine if_pos ?_
  rw [Json.isWritable, Json.integersFit_of_hasOnlyWords h.words, h.characters]
  exact decide_eq_true h.depth

theorem parse?_text (h : IsPlain v) (form : Json.Form) : parse? (v.text form) = some v := by
  have hmax : Json.maxWrittenDepth ≤ reading.maxDepth := by decide
  exact JsonField.parse?_text form h.words h.keys h.characters (h.depth.trans hmax)

/-- A plain value that is neither null nor a text is stored in compact form. -/
theorem store_eq (h : IsPlain v) (hnull : v ≠ .null) (hstr : ∀ t, v ≠ .str t) :
    store v = some (v.text .compact) := by
  cases v with
  | null => exact absurd rfl hnull
  | str t => exact absurd rfl (hstr t)
  | _ => exact h.encode?_eq .compact

theorem pretty_eq (h : IsPlain v) (hs : parse? s = some v) :
    pretty s = .ok (v.text .indented) := by
  simp only [pretty, hs, h.encode?_eq .indented]

end IsPlain

/-- A plain value is read back from the text that is stored for it and from the text in which it is
laid out. A text of a plain value is laid out as a text of the same value, and laying that out once
more changes nothing. -/
theorem reads_back :
    (∀ v, IsPlain v →
      (v ≠ .null → (∀ t, v ≠ .str t) → ∃ s, store v = some s ∧ parse? s = some v) ∧
        ∃ s, v.encode? .indented = some s ∧ parse? s = some v) ∧
    ∀ s, isValid s = true → s ≠ "" →
      (∀ v, parse? s = some v → v.hasOnlyWords = true ∧ v.depth ≤ Json.maxWrittenDepth) →
      ∃ t, pretty s = .ok t ∧ isValid t = true ∧ parse? t = parse? s ∧ pretty t = .ok t := by
  refine ⟨fun v hv => ⟨fun hnull hstr => ?_, ?_⟩, fun s hvalid hne hplain => ?_⟩
  · exact ⟨_, hv.store_eq hnull hstr, hv.parse?_text .compact⟩
  · exact ⟨_, hv.encode?_eq .indented, hv.parse?_text .indented⟩
  · obtain ⟨v, hs⟩ : ∃ v, parse? s = some v := by
      simpa [isValid, hne, Option.isSome_iff_exists] using hvalid
    obtain ⟨words, depth⟩ := hplain v hs
    have hv := isPlain_of_parse? hs words depth
    have ht := hv.parse?_text .indented
    exact ⟨_, hv.pretty_eq hs, by simp [isValid, ht], by rw [ht, hs], hv.pretty_eq ht⟩

/-- The keys of an object come back in the order in which they were, and its text is laid out. -/
theorem reads_back_fields :
    let v := Json.obj [("b", .arr [.int (-1), .null]), ("a", .str "\"")]
    (∃ s, store v = some s ∧ parse? s = some v) ∧
      ∃ t, pretty (v.text .compact) = .ok t ∧ isValid t = true ∧ parse? t = some v ∧
        pretty t = .ok t := by
  intro v
  have hv : IsPlain v := ⟨rfl, by decide, rfl, by decide⟩
  have hs : parse? (v.text .compact) = some v := hv.parse?_text .compact
  refine ⟨(reads_back.1 v hv).1 (by simp [v]) (by simp [v]), ?_⟩
  obtain ⟨t, hpretty, hvalid, hread, hagain⟩ :=
    reads_back.2 (v.text .compact) (by simp [isValid, hs]) (by decide) fun w hw => by
      obtain rfl := Option.some.inj (hs.symm.trans hw)
      exact ⟨hv.words, hv.depth⟩
  exact ⟨t, hpretty, hvalid, hread.trans hs, hagain⟩

end ChannelConsole.JsonField
