import ChannelConsole.Text.Search
import Mathlib.Data.List.TakeWhile

/-!
# Cutting and joining undo each other

Cutting a text forgets the blanks around its items, so trimming a text first changes none of them.
A text that was joined with commas is cut at those commas again, and each of its parts is cut as it
would be alone: joining and cutting lose no item, double none and keep the order, whatever
delimiters and blanks the parts have inside (`items_join`). What cutting finds is clean: trimmed,
not empty and without a delimiter (`clean_of_mem_items`), and lists of such texts are the ones that
cutting leaves as they are (`items_eq_singleton_iff`, `flatMap_items_eq_self_iff`).

Two laws say all that there is to say about cutting: a text falls apart at each delimiter, and a
text without any is one item, trimmed, or none. No other function has both (`eq_items_iff`).

Everything follows from what cutting does at one delimiter (`itemChars_append_cons`) and on a text
without any (`itemChars_of_forall_not`), by an induction over the delimiters of a text
(`cut_induction`).
-/

namespace ChannelConsole.Text

/-! ### Trimming -/

theorem mem_of_mem_dropBlanks {c : CodePoint} {cs : List CodePoint} (h : c ∈ dropBlanks cs) :
    c ∈ cs :=
  (List.dropWhile_suffix isBlank).subset h

theorem mem_of_mem_trimChars {c : CodePoint} {cs : List CodePoint} (h : c ∈ trimChars cs) :
    c ∈ cs := by
  unfold trimChars at h
  rw [List.mem_reverse] at h
  exact mem_of_mem_dropBlanks (List.mem_reverse.1 (mem_of_mem_dropBlanks h))

theorem trimChars_nil : trimChars [] = [] := rfl

/-- A blank in front is dropped. -/
theorem trimChars_cons_of_isBlank {c : CodePoint} (hc : isBlank c = true) (cs : List CodePoint) :
    trimChars (c :: cs) = trimChars cs := by
  have h : dropBlanks (c :: cs) = dropBlanks cs := by simp [dropBlanks, hc]
  rw [trimChars, h, trimChars]

/-- A blank at the end is dropped. -/
theorem trimChars_concat_of_isBlank {c : CodePoint} (hc : isBlank c = true) (cs : List CodePoint) :
    trimChars (cs ++ [c]) = trimChars cs := by
  have hd : dropBlanks (cs ++ [c]) =
      if (dropBlanks cs).isEmpty then [] else dropBlanks cs ++ [c] := by
    simp [dropBlanks, List.dropWhile_append, hc]
  unfold trimChars
  rw [hd]
  split
  · rename_i he
    rw [List.isEmpty_iff.1 he]
  · rw [List.reverse_append, List.reverse_singleton, List.singleton_append]
    simp [dropBlanks, hc]

/-- Blanks in front are dropped. -/
theorem trimChars_append_of_isBlank_left {xs : List CodePoint} (h : ∀ c ∈ xs, isBlank c = true)
    (ys : List CodePoint) : trimChars (xs ++ ys) = trimChars ys := by
  induction xs with
  | nil => rfl
  | cons c xs ih =>
    rw [List.forall_mem_cons] at h
    rw [List.cons_append, trimChars_cons_of_isBlank h.1, ih h.2]

/-- Blanks at the end are dropped. -/
theorem trimChars_append_of_isBlank_right {ys : List CodePoint} (h : ∀ c ∈ ys, isBlank c = true)
    (xs : List CodePoint) : trimChars (xs ++ ys) = trimChars xs := by
  induction ys generalizing xs with
  | nil => rw [List.append_nil]
  | cons c ys ih =>
    rw [List.forall_mem_cons] at h
    rw [List.append_cons, ih h.2, trimChars_concat_of_isBlank h.1]

/-- What is left after trimming has no blank in front. -/
theorem isBlank_head_trimChars {cs : List CodePoint} {c : CodePoint}
    (h : (trimChars cs).head? = some c) : isBlank c = false := by
  -- trimming the end takes nothing away from the front of what is left
  have hp : trimChars cs <+: dropBlanks cs := by
    have := List.dropWhile_suffix isBlank (l := (dropBlanks cs).reverse)
    simpa [trimChars, dropBlanks] using List.reverse_prefix.2 this
  obtain ⟨t, ht⟩ := hp
  have hd : (dropBlanks cs).head? = some c := by
    rw [← ht, List.head?_append, h]
    rfl
  exact isBlank_head_dropBlanks hd

/-- What is left after trimming has no blank at its end. -/
theorem isBlank_getLast_trimChars {cs : List CodePoint} {c : CodePoint}
    (h : (trimChars cs).getLast? = some c) : isBlank c = false := by
  rw [trimChars, List.getLast?_reverse] at h
  exact isBlank_head_dropBlanks h

/-- A trimmed text is left alone. -/
theorem trimChars_trimChars (cs : List CodePoint) : trimChars (trimChars cs) = trimChars cs :=
  trimChars_of_isBlank_ends (fun _ h => isBlank_head_trimChars h)
    fun _ h => isBlank_getLast_trimChars h

/-- Nothing is left of a blank text alone. -/
theorem trimChars_eq_nil_iff {cs : List CodePoint} :
    trimChars cs = [] ↔ ∀ c ∈ cs, isBlank c = true := by
  have hdrop : ∀ {cs : List CodePoint}, dropBlanks cs = [] ↔ ∀ c ∈ cs, isBlank c = true :=
    List.dropWhile_eq_nil_iff
  rw [trimChars, List.reverse_eq_nil_iff, hdrop]
  constructor
  · intro h
    -- what is left when the blanks in front are dropped would begin with a blank
    cases hcs : dropBlanks cs with
    | nil => exact hdrop.1 hcs
    | cons d r =>
      have hd : isBlank d = true := h d (by simp [hcs])
      rw [isBlank_head_dropBlanks (by rw [hcs]; rfl)] at hd
      exact absurd hd Bool.false_ne_true
  · intro h c hc
    exact h c (mem_of_mem_dropBlanks (List.mem_reverse.1 hc))

theorem toList_trim (s : Text) : (trim s).toList = trimChars s.toList := by
  simp [trim]

theorem trim_trim (s : Text) : trim (trim s) = trim s := by
  simp [trim, trimChars_trimChars]

/-! ### Cutting -/

section

variable {cut : CodePoint → Bool}

/-- Induction over the delimiters of a text: what holds of texts without delimiters, and of two
texts with a delimiter between them when it holds of each, holds of all texts. -/
@[elab_as_elim]
theorem cut_induction {motive : List CodePoint → Prop} (cut : CodePoint → Bool)
    (cs : List CodePoint)
    (plain : ∀ cs, (∀ c ∈ cs, cut c = false) → motive cs)
    (append : ∀ xs d ys, cut d = true → motive xs → motive ys → motive (xs ++ d :: ys)) :
    motive cs := by
  by_cases h : ∃ d ∈ cs, cut d = true
  · obtain ⟨d, hd, hcut⟩ := h
    obtain ⟨xs, ys, hcs⟩ := List.append_of_mem hd
    have hlen : cs.length = xs.length + (ys.length + 1) := by simp [hcs]
    have hx : xs.length < cs.length := by omega
    have hy : ys.length < cs.length := by omega
    rw [hcs]
    exact append xs d ys hcut (cut_induction cut xs plain append)
      (cut_induction cut ys plain append)
  · exact plain cs fun c hc => by simpa using fun hcut => h ⟨c, hc, hcut⟩
termination_by cs.length

/-- The pieces are made of characters of the text. -/
theorem mem_of_mem_pieces {c : CodePoint} {cs piece : List CodePoint}
    (hpiece : piece ∈ pieces cut cs)
    (hc : c ∈ piece) : c ∈ cs := by
  revert hpiece
  unfold pieces
  refine cut_induction cut cs ?_ ?_
  · intro cs h hpiece
    rw [List.splitOnP_eq_singleton h] at hpiece
    exact List.mem_singleton.1 hpiece ▸ hc
  · intro xs d ys hd hx hy hpiece
    rw [List.splitOnP_append_cons xs ys hd] at hpiece
    rcases List.mem_append.1 hpiece with hpiece | hpiece
    · exact List.mem_append_left _ (hx hpiece)
    · exact List.mem_append_right _ (List.mem_cons_of_mem _ (hy hpiece))

/-- A text is cut at a delimiter. -/
theorem itemChars_append_cons {d : CodePoint} (hd : cut d = true) (xs ys : List CodePoint) :
    itemChars cut (xs ++ d :: ys) = itemChars cut xs ++ itemChars cut ys := by
  unfold itemChars pieces
  rw [List.splitOnP_append_cons xs ys hd, List.map_append, List.filter_append]

/-- A text without delimiters is one item, or none when it is blank. -/
theorem itemChars_of_forall_not {cs : List CodePoint} (h : ∀ c ∈ cs, cut c = false) :
    itemChars cut cs = if (trimChars cs).isEmpty then [] else [trimChars cs] := by
  unfold itemChars pieces
  rw [List.splitOnP_eq_singleton h]
  by_cases he : (trimChars cs).isEmpty = true <;> simp_all

theorem itemChars_nil : itemChars cut [] = [] := by
  rw [itemChars_of_forall_not (by simp), trimChars_nil]
  rfl

/-- A blank in front belongs to no item. -/
theorem itemChars_cons_of_isBlank {c : CodePoint} (hc : isBlank c = true) (cs : List CodePoint) :
    itemChars cut (c :: cs) = itemChars cut cs := by
  by_cases hcut : cut c = true
  · have h := itemChars_append_cons hcut [] cs
    rwa [itemChars_nil, List.nil_append, List.nil_append] at h
  · -- the blank stands in front of the first piece, where trimming drops it
    refine cut_induction cut cs ?_ ?_
    · intro cs h
      have hcs : ∀ d ∈ c :: cs, cut d = false := by
        intro d hd
        rcases List.mem_cons.1 hd with rfl | hd
        · simpa using hcut
        · exact h d hd
      rw [itemChars_of_forall_not hcs, itemChars_of_forall_not h, trimChars_cons_of_isBlank hc]
    · intro xs d ys hd hx _
      rw [← List.cons_append, itemChars_append_cons hd, itemChars_append_cons hd, hx]

/-- A blank at the end belongs to no item. -/
theorem itemChars_concat_of_isBlank {c : CodePoint} (hc : isBlank c = true) (cs : List CodePoint) :
    itemChars cut (cs ++ [c]) = itemChars cut cs := by
  by_cases hcut : cut c = true
  · rw [itemChars_append_cons hcut, itemChars_nil, List.append_nil]
  · -- the blank stands behind the last piece, where trimming drops it
    refine cut_induction cut cs ?_ ?_
    · intro cs h
      have hcs : ∀ d ∈ cs ++ [c], cut d = false := by
        intro d hd
        rcases List.mem_append.1 hd with hd | hd
        · exact h d hd
        · rw [List.mem_singleton.1 hd]
          simpa using hcut
      rw [itemChars_of_forall_not hcs, itemChars_of_forall_not h, trimChars_concat_of_isBlank hc]
    · intro xs d ys hd _ hy
      rw [List.append_assoc, List.cons_append, itemChars_append_cons hd,
        itemChars_append_cons hd, hy]

theorem itemChars_dropBlanks (cs : List CodePoint) :
    itemChars cut (dropBlanks cs) = itemChars cut cs := by
  induction cs with
  | nil => rfl
  | cons c cs ih =>
    by_cases hc : isBlank c = true
    · rw [itemChars_cons_of_isBlank hc, ← ih]
      simp [dropBlanks, hc]
    · simp [dropBlanks, hc]

theorem itemChars_dropBlanks_reverse (cs : List CodePoint) :
    itemChars cut (dropBlanks cs).reverse = itemChars cut cs.reverse := by
  induction cs with
  | nil => rfl
  | cons c cs ih =>
    by_cases hc : isBlank c = true
    · rw [List.reverse_cons, itemChars_concat_of_isBlank hc, ← ih]
      simp [dropBlanks, hc]
    · simp [dropBlanks, hc]

/-- Trimming a text changes none of its items. -/
theorem itemChars_trimChars (cs : List CodePoint) :
    itemChars cut (trimChars cs) = itemChars cut cs := by
  rw [trimChars, itemChars_dropBlanks_reverse, List.reverse_reverse, itemChars_dropBlanks]

/-- What cutting finds is trimmed, not empty and without a delimiter. -/
theorem clean_of_mem_itemChars {x cs : List CodePoint} (h : x ∈ itemChars cut cs) :
    (∀ c ∈ x, cut c = false) ∧ trimChars x = x ∧ x ≠ [] := by
  revert h
  refine cut_induction cut cs ?_ ?_
  · intro cs hcs h
    rw [itemChars_of_forall_not hcs] at h
    split at h
    · simp at h
    · rename_i hne
      obtain rfl := List.mem_singleton.1 h
      exact ⟨fun c hc => hcs c (mem_of_mem_trimChars hc), trimChars_trimChars cs,
        by simpa using hne⟩
  · intro xs d ys hd hx hy h
    rw [itemChars_append_cons hd] at h
    rcases List.mem_append.1 h with h | h
    · exact hx h
    · exact hy h

/-- A text has no items exactly if it is made of blanks and delimiters. -/
theorem itemChars_eq_nil_iff {cs : List CodePoint} :
    itemChars cut cs = [] ↔ ∀ c ∈ cs, isBlank c = true ∨ cut c = true := by
  refine cut_induction cut cs ?_ ?_
  · intro cs hcs
    have hblank : (∀ c ∈ cs, isBlank c = true ∨ cut c = true) ↔ ∀ c ∈ cs, isBlank c = true :=
      forall₂_congr fun c hc => by simp [hcs c hc]
    rw [itemChars_of_forall_not hcs, hblank, ← trimChars_eq_nil_iff]
    cases trimChars cs <;> simp
  · intro xs d ys hd hx hy
    rw [itemChars_append_cons hd, List.append_eq_nil_iff, hx, hy, List.forall_mem_append,
      List.forall_mem_cons]
    simp [hd]

/-- Where all delimiters are blanks, there are blanks only around a single item. -/
theorem trimChars_of_itemChars_eq_singleton {x cs : List CodePoint}
    (hblank : ∀ c ∈ cs, cut c = true → isBlank c = true) (h : itemChars cut cs = [x]) :
    trimChars cs = x := by
  revert hblank h
  refine cut_induction cut cs ?_ ?_
  · intro cs hcs _ h
    rw [itemChars_of_forall_not hcs] at h
    split at h
    · exact absurd h (by simp)
    · exact List.singleton_inj.1 h
  · intro xs d ys hd hx hy hblank h
    rw [List.forall_mem_append, List.forall_mem_cons] at hblank
    obtain ⟨hxs, hdblank, hys⟩ := hblank
    -- what has no items consists of blanks, as its delimiters are blanks
    have hnone : ∀ {zs}, (∀ c ∈ zs, cut c = true → isBlank c = true) → itemChars cut zs = [] →
        ∀ c ∈ zs, isBlank c = true := fun hzs hnil c hc =>
      (itemChars_eq_nil_iff.1 hnil c hc).elim id (hzs c hc)
    rw [itemChars_append_cons hd] at h
    rcases List.append_eq_singleton_iff.1 h with ⟨hnil, hone⟩ | ⟨hone, hnil⟩
    · rw [trimChars_append_of_isBlank_left (hnone hxs hnil),
        trimChars_cons_of_isBlank (hdblank hd), hy hys hone]
    · rw [trimChars_append_of_isBlank_right, hx hxs hone]
      exact List.forall_mem_cons.2 ⟨hdblank hd, hnone hys hnil⟩

/-! ### Texts -/

theorem items_empty : items cut "" = [] := by
  simp [items, itemChars_nil]

/-- A text is cut at a delimiter, wherever it stands. -/
theorem items_append {d : CodePoint} (hd : cut d = true) (s t : Text) :
    items cut (s ++ Text.singleton d ++ t) = items cut s ++ items cut t := by
  rw [items, Text.toList_append, Text.toList_append, Text.toList_singleton,
    List.append_assoc, List.singleton_append, itemChars_append_cons hd, List.map_append, items,
    items]

/-- A text without delimiters is one item, trimmed, or none when it is blank. -/
theorem items_of_forall_not {s : Text} (h : ∀ c ∈ s.toList, cut c = false) :
    items cut s = if trim s = "" then [] else [trim s] := by
  have hblank : (trimChars s.toList).isEmpty = true ↔ trim s = "" := by simp [trim]
  rw [items, itemChars_of_forall_not h]
  by_cases hempty : trim s = ""
  · rw [if_pos (hblank.2 hempty), if_pos hempty, List.map_nil]
  · rw [if_neg (mt hblank.1 hempty), if_neg hempty, List.map_singleton, trim]

/-- Cutting is the only function that takes texts apart at each delimiter and has a text without
delimiters for one item, trimmed, or for none when it is blank. -/
theorem eq_items_iff {f : Text → List Text} :
    f = items cut ↔
      (∀ s d t, cut d = true → f (s ++ Text.singleton d ++ t) = f s ++ f t) ∧
      ∀ s : Text, (∀ c ∈ s.toList, cut c = false) →
        f s = if trim s = "" then [] else [trim s] := by
  constructor
  · rintro rfl
    exact ⟨fun s _ t hd => items_append hd s t, fun _ h => items_of_forall_not h⟩
  · rintro ⟨happend, hplain⟩
    -- both take a text apart at the same places, and do the same with what is left between them
    have hchars : ∀ cs, f (Text.ofList cs) = items cut (Text.ofList cs) := by
      intro cs
      refine cut_induction cut cs ?_ ?_
      · intro cs h
        have htext : ∀ c ∈ (Text.ofList cs).toList, cut c = false := by simpa using h
        rw [hplain _ htext, items_of_forall_not htext]
      · intro xs d ys hd hx hy
        have htext : Text.ofList (xs ++ d :: ys) =
            Text.ofList xs ++ Text.singleton d ++ Text.ofList ys := by
          rw [← Text.toList_inj]
          simp
        rw [htext, happend _ _ _ hd, items_append hd, hx, hy]
    funext s
    rw [← Text.ofList_toList (s := s), hchars]

/-- Trimming a text changes none of its items. -/
theorem items_trim (s : Text) : items cut (trim s) = items cut s := by
  rw [items, toList_trim, itemChars_trimChars, items]

theorem items_of_trim_eq_empty {s : Text} (h : trim s = "") : items cut s = [] := by
  rw [← items_trim, h, items_empty]

/-- A text has no items exactly if it is made of blanks and delimiters. -/
theorem items_eq_nil_iff {s : Text} :
    items cut s = [] ↔ ∀ c ∈ s.toList, isBlank c = true ∨ cut c = true := by
  rw [items, List.map_eq_nil_iff, itemChars_eq_nil_iff]

/-- What cutting finds is trimmed, not empty and without a delimiter. -/
theorem clean_of_mem_items {x s : Text} (h : x ∈ items cut s) :
    x ≠ "" ∧ trim x = x ∧ ∀ c ∈ x.toList, cut c = false := by
  have hne := mem_items_ne_empty h
  obtain ⟨cs, hcs, rfl⟩ := List.mem_map.1 h
  obtain ⟨hcut, htrim, -⟩ := clean_of_mem_itemChars hcs
  refine ⟨hne, ?_, by simpa using hcut⟩
  rw [trim, Text.toList_ofList, htrim]

/-- A text is its own only item exactly if it is trimmed, not empty and without a delimiter. -/
theorem items_eq_singleton_iff {s : Text} :
    items cut s = [s] ↔ s ≠ "" ∧ trim s = s ∧ ∀ c ∈ s.toList, cut c = false := by
  constructor
  · intro h
    exact clean_of_mem_items (by rw [h]; exact List.mem_singleton.2 rfl)
  · rintro ⟨hne, htrim, hcut⟩
    rw [items_of_forall_not hcut, htrim, if_neg hne]

/-- An item is cut into nothing but itself. -/
theorem items_of_mem_items {x s : Text} (h : x ∈ items cut s) : items cut x = [x] :=
  items_eq_singleton_iff.2 (clean_of_mem_items h)

/-- Nothing changes when everything is cut into nothing but itself. -/
theorem flatMap_eq_self {α : Type} {f : α → List α} {xs : List α} (h : ∀ x ∈ xs, f x = [x]) :
    xs.flatMap f = xs := by
  induction xs with
  | nil => rfl
  | cons x xs ih =>
    rw [List.forall_mem_cons] at h
    rw [List.flatMap_cons, h.1, ih h.2, List.singleton_append]

/-- Cutting everything in a list changes nothing exactly if everything is cut into nothing but
itself. -/
theorem flatMap_items_eq_self_iff {xs : List Text} :
    xs.flatMap (items cut) = xs ↔ ∀ x ∈ xs, items cut x = [x] := by
  constructor
  · intro h x hx
    -- each text is an item of some text, and what is cut from a text cannot be cut again
    rw [← h] at hx
    obtain ⟨y, -, hxy⟩ := List.mem_flatMap.1 hx
    exact items_of_mem_items hxy
  · exact flatMap_eq_self

/-- Items of a text, in any order, are cut into nothing but themselves. -/
theorem flatMap_items_of_forall_mem {s : Text} {xs : List Text}
    (h : ∀ x ∈ xs, x ∈ items cut s) : xs.flatMap (items cut) = xs :=
  flatMap_eq_self fun x hx => items_of_mem_items (h x hx)

/-- The items of items are those items. -/
theorem flatMap_items_items (s : Text) : (items cut s).flatMap (items cut) = items cut s :=
  flatMap_items_of_forall_mem fun _ hx => hx

/-! ### Joining -/

theorem join_nil : join [] = "" := rfl

theorem join_singleton (x : Text) : join [x] = x := by simp [join]

theorem toList_join_cons_cons (x y : Text) (xs : List Text) :
    (join (x :: y :: xs)).toList = x.toList ++ CodePoint.char ',' :: (join (y :: xs)).toList := by
  simp [join, List.intercalate_cons_cons]

/-- A joined text has the items of its parts, in order. -/
theorem items_join (hcut : cut ',' = true) (xs : List Text) :
    items cut (join xs) = xs.flatMap (items cut) := by
  induction xs with
  | nil => rw [join_nil, items_empty]; rfl
  | cons x xs ih =>
    cases xs with
    | nil => rw [join_singleton, List.flatMap_singleton]
    | cons y ys =>
      rw [List.flatMap_cons, ← ih, items, toList_join_cons_cons, itemChars_append_cons hcut,
        List.map_append, items, items]

end

end ChannelConsole.Text
