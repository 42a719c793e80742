import ChannelConsole.Text.Search

/-!
# Finding and replacing parts of texts

Whether a text occurs in another one is whether its characters are an unbroken run of the other's
(`occursIn_iff`). Taking out every occurrence of a text changes exactly those texts that have one
(`replaceAll_empty_eq_self_iff`). If the first character of a text comes only once in it, an
occurrence of it that is put behind another text is taken out, and nothing else becomes of the
other text (`replaceAll_append_self`). Characters that are dropped at the end may as well not be
there (`dropTrailing_append`).
-/

namespace ChannelConsole.Text

/-! ### Finding -/

theorem occursInChars_iff {t cs : List CodePoint} : occursInChars t cs = true ↔ t <:+: cs := by
  induction cs with
  | nil => simp [occursInChars]
  | cons c cs ih =>
    rw [occursInChars, Bool.or_eq_true, List.isPrefixOf_iff_prefix, ih, List.infix_cons_iff]

theorem occursIn_iff {t s : Text} : occursIn t s = true ↔ t.toList <:+: s.toList :=
  occursInChars_iff

theorem occursIn_refl (s : Text) : occursIn s s = true := occursIn_iff.2 (List.infix_refl _)

theorem occursIn_trans {t u s : Text} (htu : occursIn t u = true) (hus : occursIn u s = true) :
    occursIn t s = true :=
  occursIn_iff.2 ((occursIn_iff.1 htu).trans (occursIn_iff.1 hus))

section

variable {old new cs : List CodePoint}

/-- Characters that belong to the last occurrence are passed over. -/
theorem replaceFrom_skip (old new cs r : List CodePoint) :
    replaceFrom old new cs.length (cs ++ r) = replaceFrom old new 0 r := by
  induction cs with
  | nil => rfl
  | cons c cs ih => exact ih

theorem replaceFrom_append_left (hold : old ≠ []) (new r : List CodePoint) :
    replaceFrom old new 0 (old ++ r) = new ++ replaceFrom old new 0 r := by
  obtain ⟨c, tail, rfl⟩ := List.exists_cons_of_ne_nil hold
  have hprefix : (c :: tail).isPrefixOf (c :: (tail ++ r)) = true :=
    List.isPrefixOf_iff_prefix.2 (List.prefix_append (c :: tail) r)
  rw [List.cons_append, replaceFrom, if_pos hprefix]
  exact congrArg (new ++ ·) (replaceFrom_skip (c :: tail) new tail r)

theorem replaceFrom_of_not_isInfix (h : ¬ old <:+: cs) : replaceFrom old new 0 cs = cs := by
  induction cs with
  | nil => rfl
  | cons c cs ih =>
    rw [List.infix_cons_iff, not_or] at h
    rw [replaceFrom, if_neg (by rw [List.isPrefixOf_iff_prefix]; exact h.1), ih h.2]

theorem length_replaceFrom_le (old : List CodePoint) (skip : Nat) (cs : List CodePoint) :
    (replaceFrom old [] skip cs).length ≤ cs.length := by
  induction cs generalizing skip with
  | nil => exact Nat.le_refl _
  | cons c cs ih =>
    cases skip with
    | succ skip => exact Nat.le_trans (ih skip) (Nat.le_succ _)
    | zero =>
      rw [replaceFrom]
      split
      · exact Nat.le_trans (ih _) (Nat.le_succ _)
      · exact Nat.succ_le_succ (ih 0)

theorem length_replaceFrom_lt (hold : old ≠ []) (h : old <:+: cs) :
    (replaceFrom old [] 0 cs).length < cs.length := by
  induction cs with
  | nil => exact absurd (List.infix_nil.1 h) hold
  | cons c cs ih =>
    rw [replaceFrom]
    split
    · exact Nat.lt_succ_of_le (length_replaceFrom_le old _ cs)
    · rename_i hprefix
      rw [List.isPrefixOf_iff_prefix] at hprefix
      exact Nat.succ_lt_succ (ih ((List.infix_cons_iff.1 h).resolve_left hprefix))

/-- An occurrence that begins in front of a text whose first character comes only once in it does
not reach into that text. -/
theorem prefix_of_prefix_append {c d : CodePoint} {tail r : List CodePoint} (hc : c ∉ tail)
    (h : c :: tail <+: d :: r ++ c :: tail) : c :: tail <+: d :: r := by
  rcases List.prefix_or_prefix_of_prefix h (List.prefix_append _ _) with h | ⟨s, hs⟩
  · exact h
  · rw [← hs, List.prefix_append_right_inj] at h
    cases s with
    | nil => exact ⟨[], (List.append_nil _).trans (hs.symm.trans (List.append_nil _))⟩
    | cons e s =>
      obtain ⟨rfl, -⟩ := List.cons_prefix_cons.1 (hs ▸ h)
      rw [List.cons_append] at hs
      exact absurd ((List.cons.inj hs).2 ▸ by simp) hc

/-- An occurrence at the end is taken out, and nothing else becomes of what is in front of it. -/
theorem replaceFrom_append_self {c : CodePoint} {tail : List CodePoint} (hc : c ∉ tail) {skip : Nat}
    (hskip : skip ≤ cs.length) :
    replaceFrom (c :: tail) [] skip (cs ++ c :: tail) = replaceFrom (c :: tail) [] skip cs := by
  induction cs generalizing skip with
  | nil =>
    obtain rfl := Nat.le_zero.1 hskip
    have h := replaceFrom_append_left (List.cons_ne_nil c tail) [] []
    rwa [List.append_nil] at h
  | cons d cs ih =>
    cases skip with
    | succ skip => exact ih (Nat.le_of_succ_le_succ hskip)
    | zero =>
      have hsame : (c :: tail).isPrefixOf (d :: (cs ++ c :: tail)) =
          (c :: tail).isPrefixOf (d :: cs) := by
        rw [Bool.eq_iff_iff, List.isPrefixOf_iff_prefix, List.isPrefixOf_iff_prefix]
        exact ⟨prefix_of_prefix_append hc, fun h => h.trans (List.prefix_append _ _)⟩
      rw [List.cons_append, replaceFrom, replaceFrom, hsame]
      split
      · rename_i hprefix
        exact ih (Nat.le_of_succ_le_succ (List.isPrefixOf_iff_prefix.1 hprefix).length_le)
      · rw [ih (Nat.zero_le _)]

end

section

variable {old s : Text}

theorem replaceAll_of_not_occursIn (h : occursIn old s = false) (new : Text) :
    replaceAll old new s = s := by
  rw [← Bool.not_eq_true, occursIn_iff] at h
  unfold replaceAll
  split
  · rfl
  · rw [replaceFrom_of_not_isInfix h, Text.ofList_toList]

theorem toList_replaceAll_empty (hold : old ≠ "") (s : Text) :
    (replaceAll old "" s).toList = replaceFrom old.toList [] 0 s.toList := by
  rw [replaceAll, if_neg (by simpa using hold), Text.toList_ofList]
  rfl

/-- Taking out every occurrence of a text changes the texts that have one. -/
theorem replaceAll_empty_eq_self_iff (hold : old ≠ "") :
    replaceAll old "" s = s ↔ occursIn old s = false := by
  refine ⟨fun h => ?_, fun h => replaceAll_of_not_occursIn h ""⟩
  rw [← Bool.not_eq_true, occursIn_iff]
  intro hinfix
  have hlt := length_replaceFrom_lt (by simpa using hold) hinfix
  rw [← toList_replaceAll_empty hold, h] at hlt
  exact Nat.lt_irrefl _ hlt

/-- Taking a text whose first character comes only once in it out of another one with the text at
its end. -/
theorem replaceAll_append_self {c : CodePoint} {tail : List CodePoint}
    (hold : old.toList = c :: tail)
    (hc : c ∉ tail) (s : Text) : replaceAll old "" (s ++ old) = replaceAll old "" s := by
  have hne : old ≠ "" := by
    rintro rfl
    cases hold
  rw [← Text.toList_inj, toList_replaceAll_empty hne, toList_replaceAll_empty hne,
    Text.toList_append, hold, replaceFrom_append_self hc (Nat.zero_le _)]

end

/-! ### Ends of texts -/

theorem endsWith_append (s t : Text) : endsWith t (s ++ t) = true := by
  rw [endsWith, Text.toList_append, List.reverse_append, List.isPrefixOf_iff_prefix]
  exact List.prefix_append _ _

/-- A character that is dropped at the end may as well not be there. -/
theorem dropTrailing_append (c : CodePoint) (s : Text) (n : Nat) :
    dropTrailing c (s ++ Text.ofList (List.replicate n c)) = dropTrailing c s := by
  have hdrop : ∀ d ∈ List.replicate n c, (d == c) = true := by simp
  rw [dropTrailing, dropTrailing, Text.toList_append, Text.toList_ofList, List.reverse_append,
    List.reverse_replicate, List.dropWhile_append_of_pos hdrop]

/-- A text that does not end with a character keeps its end when that character is dropped. -/
theorem dropTrailing_eq_self {c : CodePoint} {s : Text}
    (h : endsWith (Text.singleton c) s = false) :
    dropTrailing c s = s := by
  have hhead : s.toList.reverse.dropWhile (· == c) = s.toList.reverse := by
    cases hs : s.toList.reverse with
    | nil => rfl
    | cons d r =>
      rw [endsWith, hs] at h
      refine List.dropWhile_cons_of_neg ?_
      rintro hd
      simp [beq_iff_eq.1 hd] at h
  rw [dropTrailing, hhead, List.reverse_reverse, Text.ofList_toList]

end ChannelConsole.Text
