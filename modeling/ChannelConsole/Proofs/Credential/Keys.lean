import ChannelConsole.Credential.Keys
import ChannelConsole.Proofs.Text.Items

/-!
# Splitting and joining keys

A text is cut at every comma and every line break, and what stands between those is one key,
trimmed, unless it is blank. No other function does that (`eq_split_iff`). What cutting finds is
trimmed, not empty and free of commas and line breaks (`IsKey`), and each such text is its own only
key (`isKey_iff`).

The keys of a joined list of entries are the keys of the entries, one entry after the other, even
when entries are blank, padded, or have delimiters of their own (`split_join`). Hence tidying a list
of entries changes none of their keys (`flatMap_split_tidy`), and splitting finds those lists again
that consist of keys, and no others (`split_join_eq_self_iff`).
-/

namespace ChannelConsole.Credential

theorem isDelimiter_comma : isDelimiter ',' = true := by decide

/-! ### Cutting -/

/-- Trimming a text changes none of its keys. -/
theorem split_trim (s : Text) : split (Text.trim s) = split s := Text.items_trim s

/-- The two laws of cutting, which no other function has: a text falls apart at each delimiter, and
a text without any is one key, trimmed, or none when it is blank. -/
theorem eq_split_iff {f : Text → List Text} :
    f = split ↔
      (∀ s d t, isDelimiter d = true → f (s ++ Text.singleton d ++ t) = f s ++ f t) ∧
      ∀ s, hasDelimiter s = false → f s = if Text.trim s = "" then [] else [Text.trim s] := by
  have hnone : ∀ s, hasDelimiter s = false ↔ ∀ c ∈ s.toList, isDelimiter c = false := by
    simp [hasDelimiter]
  simp only [hnone]
  exact Text.eq_items_iff

/-! ### Keys -/

/-- What is true of a key, however it was found. -/
structure IsKey (s : Text) : Prop where
  ne_empty : s ≠ ""
  trim_eq : Text.trim s = s
  comma_notMem : (',' : CodePoint) ∉ s.toList
  break_notMem : ('\n' : CodePoint) ∉ s.toList

/-- A key is a text that is cut into nothing but itself. -/
theorem isKey_iff {s : Text} : IsKey s ↔ split s = [s] := by
  have hcut : (∀ c ∈ s.toList, isDelimiter c = false) ↔
      (',' : CodePoint) ∉ s.toList ∧ ('\n' : CodePoint) ∉ s.toList := by
    constructor
    · intro h
      exact ⟨fun hc => absurd (h _ hc) (by decide), fun hc => absurd (h _ hc) (by decide)⟩
    · rintro ⟨hcomma, hbreak⟩ c hc
      have hne : c ≠ ',' ∧ c ≠ '\n' :=
        ⟨fun h => hcomma (h ▸ hc), fun h => hbreak (h ▸ hc)⟩
      simpa [isDelimiter] using hne
  rw [split, Text.items_eq_singleton_iff, hcut]
  exact ⟨fun h => ⟨h.ne_empty, h.trim_eq, h.comma_notMem, h.break_notMem⟩,
    fun ⟨hne, htrim, hcomma, hbreak⟩ => ⟨hne, htrim, hcomma, hbreak⟩⟩

instance (s : Text) : Decidable (IsKey s) := decidable_of_iff (split s = [s]) isKey_iff.symm

/-- What is found in a text is cut into nothing but itself. -/
theorem split_of_mem_split {s key : Text} (h : key ∈ split s) : split key = [key] :=
  Text.items_of_mem_items h

theorem isKey_of_mem_split {s key : Text} (h : key ∈ split s) : IsKey key :=
  isKey_iff.2 (split_of_mem_split h)

theorem flatMap_split_split (s : Text) : (split s).flatMap split = split s :=
  Text.flatMap_items_items s

/-! ### Tidy entries -/

/-- Tidying leaves out blank entries and trims the others. -/
theorem tidy_cons (x : Text) (xs : List Text) :
    tidy (x :: xs) = if Text.trim x = "" then tidy xs else Text.trim x :: tidy xs := by
  by_cases h : Text.trim x = "" <;> simp [tidy, h]

/-- A list of trimmed entries that are not empty is tidy. -/
theorem tidy_eq_self {xs : List Text} (h : ∀ x ∈ xs, Text.trim x = x ∧ x ≠ "") :
    tidy xs = xs := by
  induction xs with
  | nil => rfl
  | cons x xs ih =>
    obtain ⟨htrim, hne⟩ := h x (by simp)
    rw [tidy_cons, htrim, if_neg hne, ih fun y hy => h y (by simp [hy])]

/-- Keys are tidy. -/
theorem tidy_split (s : Text) : tidy (split s) = split s :=
  tidy_eq_self fun _ hx => ⟨(isKey_of_mem_split hx).trim_eq, (isKey_of_mem_split hx).ne_empty⟩

theorem tidy_append (xs ys : List Text) : tidy (xs ++ ys) = tidy xs ++ tidy ys := by
  rw [tidy, List.map_append, List.filter_append, tidy, tidy]

theorem trim_of_mem_tidy {x : Text} {xs : List Text} (h : x ∈ tidy xs) :
    Text.trim x = x ∧ x ≠ "" := by
  obtain ⟨hx, hne⟩ := List.mem_filter.1 h
  obtain ⟨y, -, rfl⟩ := List.mem_map.1 hx
  exact ⟨Text.trim_trim y, by simpa using hne⟩

/-- Whatever holds of the empty text holds of tidy entries if it holds of the entries, trimmed. -/
theorem forall_mem_tidy_iff {P : Text → Prop} (hempty : P "") {xs : List Text} :
    (∀ y ∈ tidy xs, P y) ↔ ∀ x ∈ xs, P (Text.trim x) := by
  constructor
  · intro h x hx
    by_cases hblank : Text.trim x = ""
    · rwa [hblank]
    · exact h _ (List.mem_filter.2 ⟨List.mem_map_of_mem hx, by simpa using hblank⟩)
  · intro h y hy
    obtain ⟨x, hx, rfl⟩ := List.mem_map.1 (List.mem_filter.1 hy).1
    exact h x hx

theorem tidy_tidy (xs : List Text) : tidy (tidy xs) = tidy xs :=
  tidy_eq_self fun _ h => trim_of_mem_tidy h

/-- Tidying a list of entries changes none of their keys. -/
theorem flatMap_split_tidy (xs : List Text) : (tidy xs).flatMap split = xs.flatMap split := by
  induction xs with
  | nil => rfl
  | cons x xs ih =>
    rw [tidy_cons, List.flatMap_cons, ← ih]
    split
    · rename_i h
      have hx : split x = [] := Text.items_of_trim_eq_empty h
      rw [hx, List.nil_append]
    · rw [List.flatMap_cons, split_trim]

/-! ### Joined entries -/

theorem join_tidy (xs : List Text) : join (tidy xs) = join xs := by
  rw [join, tidy_tidy, join]

/-- The keys of a joined list of entries are the keys of the entries, in order. -/
theorem split_join (xs : List Text) : split (join xs) = xs.flatMap split := by
  rw [← flatMap_split_tidy]
  exact Text.items_join isDelimiter_comma (tidy xs)

/-- A list of entries is found again in the text that joins them exactly if all of them are keys. -/
theorem split_join_eq_self_iff {xs : List Text} :
    split (join xs) = xs ↔ ∀ x ∈ xs, IsKey x := by
  simp only [split_join, isKey_iff]
  exact Text.flatMap_items_eq_self_iff

theorem split_join_split (s : Text) : split (join (split s)) = split s :=
  split_join_eq_self_iff.2 fun _ h => isKey_of_mem_split h

/-! ### Main statement -/

/-- The laws of cutting and joining. A text is cut at each comma and each line break, wherever it
stands, and what is found are keys. A joined list of entries has the keys of the entries, in order,
whatever the entries are; it has the entries themselves exactly if they are keys. So the keys of a
text are found again when they are joined, and joining them once more gives the same text. -/
theorem split_join_laws (a b : Text) {d : Text} (hd : d = "," ∨ d = "\n")
    (entries : List Text) :
    split (a ++ d ++ b) = split a ++ split b ∧
    (∀ key ∈ split a, IsKey key) ∧
    split (join entries) = entries.flatMap split ∧
    (split (join entries) = entries ↔ ∀ e ∈ entries, IsKey e) ∧
    split (join (split a)) = split a ∧
    join (split (join (split a))) = join (split a) := by
  have hcut : split (a ++ d ++ b) = split a ++ split b := by
    have happend := (eq_split_iff.1 rfl).1
    rcases hd with rfl | rfl
    · exact happend a ',' b (by decide)
    · exact happend a '\n' b (by decide)
  exact ⟨hcut, fun _ h => isKey_of_mem_split h, split_join entries, split_join_eq_self_iff,
    split_join_split a, congrArg join (split_join_split a)⟩

/-- Blanks and delimiters next to each other, and entries that are blank, padded or made of several
keys. -/
theorem split_join_laws_padded :
    let a : Text := " sk-a ,\nsk-b\u00a0,, "
    let b : Text := "\u3000\n,sk-c\n"
    let entries : List Text := ["", " \n", "\tsk-a ", "sk-b, ,sk-c\nsk-d", ",,"]
    split (a ++ "\n" ++ b) = (["sk-a", "sk-b", "sk-c"] : List Text) ∧
      (("sk-b" : Text) ∈ split a ∧ IsKey "sk-b") ∧
      split (join entries) = (["sk-a", "sk-b", "sk-c", "sk-d"] : List Text) ∧
      split (join entries) ≠ entries ∧
      split (join (split a)) = (["sk-a", "sk-b"] : List Text) ∧
      join (split (join (split a))) = "sk-a,sk-b" := by
  intro a b entries
  obtain ⟨hcut, hkeys, hjoin, hself, hfound, hagain⟩ := split_join_laws a b (.inr rfl) entries
  have hmem : ("sk-b" : Text) ∈ split a := by decide
  have hpadded : ¬ ∀ e ∈ entries, IsKey e := by decide
  exact ⟨hcut.trans (by decide), ⟨hmem, hkeys _ hmem⟩, hjoin.trans (by decide), mt hself.1 hpadded,
    hfound.trans (by decide), hagain.trans (by decide)⟩

end ChannelConsole.Credential
