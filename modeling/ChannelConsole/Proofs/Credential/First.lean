import ChannelConsole.Proofs.Credential.Usable

/-!
# The first key

When one key is needed, it is the part of a text in front of the first comma (`first`). That need
not be the first of the keys of the text: a line break is no comma, and the part in front of the
first comma may be blank. `first_eq_headD_split_iff` says when the two are the same: there are no
keys, or that part holds exactly one.

Joined keys have the first of them in front of their first comma (`first_join_split`). So a pool
that takes a stored text over has the first key of the text if it shows the keys one by one, and
otherwise what the text itself gives (`firstKey_hydrate_eq_headD_split_iff`).
-/

namespace ChannelConsole.Credential

open CodePoint (char)

/-- The part of a text in front of its first comma. -/
def front (s : Text) : Text := Text.ofList (s.toList.takeWhile (· != ','))

/-- Whether no other key stands in front of the first comma of a text than the first one, which is
there unless the text has no keys at all. -/
def LeadsAlone (s : Text) : Prop := split s = [] ∨ ∃ key, split (front s) = [key]

theorem first_eq_trim_front (s : Text) : first s = Text.trim (front s) := by
  rw [first, Text.beforeComma, Text.trim, front, Text.toList_ofList]

/-- The keys of a text are those in front of its first comma and then those behind it. -/
theorem exists_split_eq_append (s : Text) : ∃ rest, split s = split (front s) ++ rest := by
  have hcut := List.takeWhile_append_dropWhile (p := (· != char ',')) (l := s.toList)
  rw [front, split, split, Text.items, Text.items, Text.toList_ofList]
  cases hrest : s.toList.dropWhile (· != char ',') with
  | nil =>
    rw [hrest, List.append_nil] at hcut
    exact ⟨[], by rw [hcut, List.append_nil]⟩
  | cons c r =>
    have hc : c = ',' := by
      have hhead := List.head?_dropWhile_not (· != char ',') s.toList
      rw [hrest] at hhead
      simpa using hhead
    refine ⟨(Text.itemChars isDelimiter r).map Text.ofList, ?_⟩
    rw [hrest, hc] at hcut
    rw [← List.map_append, ← Text.itemChars_append_cons isDelimiter_comma, hcut]

/-- In front of the first comma, all delimiters are line breaks and so are blank. -/
theorem isBlank_of_mem_front {s : Text} {c : CodePoint} (hc : c ∈ (front s).toList)
    (hcut : isDelimiter c = true) : Text.isBlank c = true := by
  rw [front, Text.toList_ofList] at hc
  have hcomma : c ≠ ',' := by simpa using List.mem_takeWhile_imp hc
  have hbreak : c = '\n' := by simpa [isDelimiter, hcomma] using hcut
  rw [hbreak]
  decide

/-- There is no first key if there is no key in front of the first comma. -/
theorem first_of_split_front_eq_nil {s : Text} (h : split (front s) = []) : first s = "" := by
  have hblank : ∀ c ∈ (front s).toList, Text.isBlank c = true := fun c hc =>
    (split_eq_nil_iff.1 h c hc).elim id (isBlank_of_mem_front hc)
  rw [first_eq_trim_front, Text.trim, Text.trimChars_eq_nil_iff.2 hblank,
    Text.ofList_nil]

/-- A key that is the only one in front of the first comma is the first. -/
theorem first_of_split_front_eq_singleton {s key : Text} (h : split (front s) = [key]) :
    first s = key := by
  obtain ⟨x, hx, rfl⟩ := List.map_eq_singleton_iff.1 h
  rw [first_eq_trim_front, Text.trim,
    Text.trimChars_of_itemChars_eq_singleton (fun _ hc => isBlank_of_mem_front hc) hx]

/-- The first key of a text is the first of its keys exactly if it stands alone in front of the
first comma, or there are no keys at all. -/
theorem first_eq_headD_split_iff {s : Text} : first s = (split s).headD "" ↔ LeadsAlone s := by
  obtain ⟨rest, hsplit⟩ := exists_split_eq_append s
  unfold LeadsAlone
  rw [hsplit]
  match hfront : split (front s) with
  | [] =>
    rw [first_of_split_front_eq_nil hfront]
    cases rest with
    | nil => simp
    | cons key rest =>
      have hne : key ≠ "" := mem_split_ne_empty (s := s) (by simp [hsplit])
      simpa using hne.symm
  | [key] => simp [first_of_split_front_eq_singleton hfront]
  | key :: other :: more =>
    refine iff_of_false (fun h => ?_) (by simp)
    -- cutting the first key would give only itself, but there are two keys in it
    have hkey : split key = [key] := split_of_mem_split (s := s) (by
      rw [hsplit, hfront]
      simp)
    have hfirst : first s = key := h
    rw [← hfirst, first_eq_trim_front, split_trim, hfront] at hkey
    exact absurd hkey (by simp)

/-- Joined keys have the first of them in front of the first comma. -/
theorem first_join_split (s : Text) : first (join (split s)) = (split s).headD "" := by
  rw [join, tidy_split]
  cases hsplit : split s with
  | nil => rfl
  | cons key rest =>
    have hkey : IsKey key := isKey_of_mem_split (s := s) (by simp [hsplit])
    have hplain : ∀ c ∈ key.toList, (c != ',') = true := by
      intro c hc
      rw [bne_iff_ne]
      rintro rfl
      exact hkey.comma_notMem hc
    have hfront : front (Text.join (key :: rest)) = key := by
      cases rest with
      | nil => rw [Text.join_singleton, front, List.takeWhile_eq_self_iff.2 hplain,
          Text.ofList_toList]
      | cons other more =>
        simp [front, Text.join, List.intercalate_cons_cons, List.takeWhile_append_of_pos hplain]
    rw [first_eq_trim_front, hfront, hkey.trim_eq, List.headD_cons]

namespace Pool

/-- A pool that takes a stored text over has the first of its keys as the first key exactly if the
keys are shown one by one, or if the first one leads alone. -/
theorem firstKey_hydrate_eq_headD_split_iff {key : Text} {channelType : Int} :
    (hydrate (some key) channelType).firstKey = (split key).headD "" ↔
      ((ChannelType.profile channelType).multiKeyView = true ∧ 1 < (split key).length) ∨
        LeadsAlone key := by
  rw [firstKey, raw_hydrate]
  split
  · rename_i hlist
    exact iff_of_true (first_join_split key) (.inl hlist)
  · rename_i hsingle
    rw [first_eq_headD_split_iff, or_iff_right hsingle]

end Pool

end ChannelConsole.Credential
