import ChannelConsole.Proofs.Credential.Collapse
import ChannelConsole.Proofs.Credential.Provenance

/-!
# Canonical texts

The text that is stored should be its keys with commas between them, and nothing else: no blanks
around a key, no place without one, no line break. Those who read it later cut it at its commas
alone, and in such a text they find exactly its keys (`parts_eq_split`).

A list of entries is stored as such a text exactly if each of its entries is such a text, trimmed
(`isCanonical_join_iff`). Keys that were cut from a text are. An entry that was typed is stored as
it was typed, apart from the blanks around it, so whether the stored text is canonical depends on
what was typed into entries, and on nothing else (`Pool.isCanonical_finalize_run`).
-/

namespace ChannelConsole.Credential

/-- Whether a text is its keys with commas between them. -/
def IsCanonical (s : Text) : Prop := join (split s) = s

instance (s : Text) : Decidable (IsCanonical s) :=
  inferInstanceAs (Decidable (join (split s) = s))

/-- The parts of a text between its commas, as they are. -/
def parts (s : Text) : List Text := (Text.pieces (· == CodePoint.char ',') s.toList).map Text.ofList

/-! ### Parts -/

theorem join_parts (s : Text) : Text.join (parts s) = s := by
  have hparts : (parts s).map Text.toList = s.toList.splitOn (.char ',') := by
    rw [parts, Text.pieces, List.splitOn_eq_splitOnP, List.map_map]
    simp [Function.comp_def]
  rw [Text.join, hparts, List.intercalate_splitOn, Text.ofList_toList]

/-- A joined text has the parts of what it was joined from, in order. -/
theorem parts_join {xs : List Text} (hne : xs ≠ []) :
    parts (Text.join xs) = xs.flatMap parts := by
  induction xs with
  | nil => exact absurd rfl hne
  | cons x xs ih =>
    cases xs with
    | nil => rw [Text.join_singleton, List.flatMap_singleton]
    | cons y ys =>
      rw [List.flatMap_cons, ← ih (List.cons_ne_nil y ys), parts, Text.toList_join_cons_cons,
        Text.pieces, List.splitOnP_append_cons _ _ (by decide), List.map_append]
      rfl

/-- A key has no comma. -/
theorem parts_of_mem_split {s x : Text} (h : x ∈ split s) : parts x = [x] := by
  have hcomma : ∀ c ∈ x.toList, (c == ',') = false := by
    intro c hc
    rw [beq_eq_false_iff_ne]
    rintro rfl
    exact (isKey_of_mem_split h).comma_notMem hc
  rw [parts, Text.pieces, List.splitOnP_eq_singleton hcomma, List.map_singleton,
    Text.ofList_toList]

/-! ### Canonical texts -/

theorem isCanonical_empty : IsCanonical "" := by decide

/-- Cutting a canonical text at its commas alone gives exactly its keys. -/
theorem parts_eq_split {s : Text} (h : IsCanonical s) (hne : s ≠ "") : parts s = split s := by
  have hkeys : split s ≠ [] := by
    intro hnone
    rw [IsCanonical, hnone] at h
    exact hne h.symm
  have hjoin : Text.join (split s) = s := by
    rw [IsCanonical, join, tidy_split] at h
    exact h
  calc parts s = parts (Text.join (split s)) := by rw [hjoin]
    _ = (split s).flatMap parts := parts_join hkeys
    _ = split s := Text.flatMap_eq_self fun x hx => parts_of_mem_split hx

/-- A text that is not empty is canonical exactly if each of its parts is a key. -/
theorem isCanonical_iff {s : Text} (hne : s ≠ "") :
    IsCanonical s ↔ ∀ x ∈ parts s, split x = [x] := by
  constructor
  · intro h x hx
    rw [parts_eq_split h hne] at hx
    exact split_of_mem_split hx
  · intro h
    have hsplit : split s = parts s := by
      conv => lhs; rw [← join_parts s]
      exact (Text.items_join isDelimiter_comma (parts s)).trans (Text.flatMap_eq_self h)
    rw [IsCanonical, join, tidy_split, hsplit, join_parts]

/-- Texts that are not empty are joined to a text that is not empty. -/
theorem join_ne_empty {xs : List Text} (hne : xs ≠ []) (h : ∀ x ∈ xs, x ≠ "") :
    Text.join xs ≠ "" := by
  cases xs with
  | nil => exact absurd rfl hne
  | cons x xs =>
    cases xs with
    | nil =>
      rw [Text.join_singleton]
      exact h x List.mem_cons_self
    | cons y ys =>
      intro hempty
      have hchars := congrArg Text.toList hempty
      rw [Text.toList_join_cons_cons] at hchars
      exact absurd hchars (by simp)

/-- A list of entries is joined to a canonical text exactly if each entry is canonical, trimmed. -/
theorem isCanonical_join_iff {entries : List Text} :
    IsCanonical (join entries) ↔ ∀ x ∈ entries, IsCanonical (Text.trim x) := by
  rw [← forall_mem_tidy_iff isCanonical_empty, join]
  by_cases hnone : tidy entries = []
  · rw [hnone, Text.join_nil]
    exact iff_of_true isCanonical_empty fun y hy => absurd hy List.not_mem_nil
  · have hfilled : ∀ y ∈ tidy entries, y ≠ "" := fun y hy => (trim_of_mem_tidy hy).2
    rw [isCanonical_iff (join_ne_empty hnone hfilled), parts_join hnone, List.forall_mem_flatMap]
    exact forall₂_congr fun y hy => (isCanonical_iff (hfilled y hy)).symm

/-- A key is canonical. -/
theorem isCanonical_of_mem_split {s x : Text} (h : x ∈ split s) : IsCanonical x := by
  rw [IsCanonical, join, tidy_split, split_of_mem_split h, Text.join_singleton]

/-- In a joined text there are commas and the characters of what it was joined from. -/
theorem notMem_join {c : CodePoint} {xs : List Text} (hc : c ≠ ',') (h : ∀ x ∈ xs, c ∉ x.toList) :
    c ∉ (Text.join xs).toList := by
  induction xs with
  | nil => exact List.not_mem_nil
  | cons x xs ih =>
    rw [List.forall_mem_cons] at h
    cases xs with
    | nil =>
      rw [Text.join_singleton]
      exact h.1
    | cons y ys =>
      rw [Text.toList_join_cons_cons, List.mem_append, List.mem_cons, not_or, not_or]
      exact ⟨h.1, hc, ih h.2⟩

/-- A canonical text has no line break. -/
theorem break_notMem {s : Text} (h : IsCanonical s) : ('\n' : CodePoint) ∉ s.toList := by
  rw [← h, join, tidy_split]
  exact notMem_join (by decide) fun _ hx => (isKey_of_mem_split hx).break_notMem

/-- Entries that are cut from texts are canonical. -/
theorem suits_isCanonical : Suits IsCanonical fun _ => True where
  blank := isCanonical_empty
  key _ _ hx := isCanonical_of_mem_split hx
  joined _ _ := trivial

namespace Pool

/-! ### Main statement -/

/-- Where entries are shown, the text that is given to be stored is canonical exactly if each entry
is, trimmed; and it is, if that holds of all texts that entries were added with or changed to. A
canonical text has no line break, and its parts between commas are its keys. -/
theorem isCanonical_finalize_run (channelType : Int) (text : Text) (events : List Event) :
    let p := (ofText channelType text).run events
    (p.mode = .list →
      (IsCanonical p.finalize.2 ↔ ∀ x ∈ p.entries, IsCanonical (Text.trim x))) ∧
    (p.mode = .list → (∀ e ∈ events, e.Brings IsCanonical fun _ => True) →
      IsCanonical p.finalize.2) ∧
    (IsCanonical p.finalize.2 → ('\n' : CodePoint) ∉ p.finalize.2.toList ∧
      (p.finalize.2 ≠ "" → parts p.finalize.2 = split p.finalize.2)) := by
  intro p
  have hiff : p.mode = .list →
      (IsCanonical p.finalize.2 ↔ ∀ x ∈ p.entries, IsCanonical (Text.trim x)) := by
    intro hm
    rw [finalize_snd, raw, hm]
    exact isCanonical_join_iff
  refine ⟨hiff, fun hm hevents => ?_, fun h => ⟨break_notMem h, parts_eq_split h⟩⟩
  have hstart : (ofText channelType text).Holds IsCanonical fun _ => True := trivial
  have hp : p.Holds IsCanonical fun _ => True := holds_run suits_isCanonical hstart hevents
  exact (hiff hm).2 (hp.entries hm)

/-- An entry that was changed to two keys with a line break between them is stored with it, and
there is no comma between the two. -/
theorem not_isCanonical_finalize_typed :
    let p := (ofText ChannelType.default "").run
      [.input "sk-a,sk-b", .updateEntry 0 "sk-c\nsk-d"]
    p.mode = .list ∧ p.finalize.2 = "sk-c\nsk-d,sk-b" ∧ ¬ IsCanonical p.finalize.2 ∧
      ('\n' : CodePoint) ∈ p.finalize.2.toList ∧
      split p.finalize.2 = (["sk-c", "sk-d", "sk-b"] : List Text) ∧
      parts p.finalize.2 = (["sk-c\nsk-d", "sk-b"] : List Text) := by
  decide

end Pool

end ChannelConsole.Credential
