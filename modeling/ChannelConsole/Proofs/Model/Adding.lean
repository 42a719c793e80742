import ChannelConsole.Proofs.Model.Provenance
import ChannelConsole.Proofs.Text.Runs
import Mathlib.Data.List.Basic

/-!
# What adding names adds

Names are added one after the other, so whether one is new depends on those in front of it: it must
not be selected, and it must not have been mentioned before. `Names.sift` picks items from a list by
a condition of this kind, and both ways to add names are told by it
(`Resolver.adds_first_mentions`). Typed text is read as the longest runs of characters that are
neither blank nor commas, and each of these runs is accounted for: it is taken over or reported as a
duplicate.

Adding never takes a name away and never moves one, and what was added is known from then on, so
adding the same names once more changes nothing.
-/

namespace ChannelConsole

namespace Names

variable {α κ : Type}

/-- The items of a list that a condition holds of, which looks at the items in front of them, too.
-/
def sift (p : List α → α → Bool) (xs : List α) : List α :=
  (xs.zipIdx.filter fun m => p (xs.take m.2) m.1).map Prod.fst

/-- The first item has none in front of it, and is in front of all others. -/
theorem sift_cons (p : List α → α → Bool) (x : α) (xs : List α) :
    sift p (x :: xs) =
      if p [] x then x :: sift (fun before => p (x :: before)) xs
      else sift (fun before => p (x :: before)) xs := by
  have hrest : ((xs.zipIdx 1).filter fun m => p ((x :: xs).take m.2) m.1).map Prod.fst =
      sift (fun before => p (x :: before)) xs := by
    rw [List.zipIdx_succ, List.filter_map, List.map_map]
    rfl
  rw [sift, List.zipIdx_cons, List.filter_cons, List.take_zero]
  split
  · rw [List.map_cons, hrest]
  · exact hrest

/-- To pick from what was picked is to ask for both at once. -/
theorem filter_sift (p : List α → α → Bool) (q : α → Bool) (xs : List α) :
    (sift p xs).filter q = sift (fun before x => p before x && q x) xs := by
  induction xs generalizing p with
  | nil => rfl
  | cons x xs ih =>
    rw [sift_cons, sift_cons, ← ih]
    by_cases hp : p [] x = true
    · rw [if_pos hp, hp, Bool.true_and, List.filter_cons]
    · rw [if_neg hp, if_neg (by simp [hp])]

/-- Cleaning a list leaves the first mention of each key, unless it is void. -/
theorem uniqueBy_eq_sift [DecidableEq κ] {key : α → κ} {isVoid : α → Bool}
    (hvoid : ∀ x y, key x = key y → isVoid x = isVoid y) (xs : List α) :
    uniqueBy key isVoid xs = sift (fun before x => !isVoid x && key x ∉ before.map key) xs := by
  induction xs with
  | nil => rfl
  | cons x xs ih =>
    rw [uniqueBy, sift_cons, ih]
    by_cases hx : isVoid x = true
    · rw [if_pos hx, if_neg (by simp [hx])]
      congr 1
      funext before y
      -- what has the key of something void is void itself
      by_cases hy : key y = key x
      · simp [hvoid y x hy, hx]
      · simp [hy]
    · rw [if_neg hx, if_pos (by simp [hx]), filter_sift]
      congr 2
      funext before y
      by_cases hy : key y = key x
      · simp [hy]
      · simp [hy]

end Names

namespace Model.Resolver

/-- A typed name is new if it is neither known nor among the names in front of it. -/
theorem sortOut_eq (known xs : List Text) :
    sortOut known xs =
      { added := Names.sift (fun before s => s ∉ known ++ before) xs
        duplicates := Names.sift (fun before s => s ∈ known ++ before) xs } := by
  induction xs generalizing known with
  | nil => rfl
  | cons x xs ih =>
    rw [sortOut, Names.sift_cons, Names.sift_cons, List.append_nil]
    by_cases hx : x ∈ known
    · -- as `x` is known already, nothing is added by mentioning it
      have hknown : ∀ before s, s ∈ known ++ x :: before ↔ s ∈ known ++ before := by
        grind
      simp only [hx, ih, hknown, if_true, not_true, decide_true, decide_false,
        Bool.false_eq_true, if_false]
    · simp only [hx, ih, List.append_assoc, List.singleton_append, if_false, not_false_eq_true,
        decide_true, decide_false, Bool.false_eq_true, if_true]

theorem perm_sortOut (known xs : List Text) :
    ((sortOut known xs).added ++ (sortOut known xs).duplicates).Perm xs := by
  induction xs generalizing known with
  | nil => rfl
  | cons x xs ih =>
    rw [sortOut]
    split
    · exact List.perm_middle.trans ((ih known).cons x)
    · exact (ih (known ++ [x])).cons x

/-- Known names are all duplicates. -/
theorem sortOut_of_forall_mem {known xs : List Text} (h : ∀ x ∈ xs, x ∈ known) :
    sortOut known xs = ⟨[], xs⟩ := by
  induction xs with
  | nil => rfl
  | cons x xs ih =>
    rw [List.forall_mem_cons] at h
    rw [sortOut, if_pos h.1, ih h.2]

/-- Every typed name is known or taken over. -/
theorem mem_or_mem_added_sortOut {x : Text} {known xs : List Text} (hx : x ∈ xs) :
    x ∈ known ∨ x ∈ (sortOut known xs).added := by
  induction xs generalizing known with
  | nil => exact absurd hx List.not_mem_nil
  | cons y xs ih =>
    rw [sortOut]
    split
    · rename_i hy
      rcases List.mem_cons.1 hx with rfl | hx
      · exact .inl hy
      · exact ih hx
    · rcases List.mem_cons.1 hx with rfl | hx
      · exact .inr List.mem_cons_self
      · have hrest : x ∈ known ++ [y] ∨ x ∈ (sortOut (known ++ [y]) xs).added := ih hx
        rcases hrest with hmem | hadded
        · rcases List.mem_append.1 hmem with hknown | hlast
          · exact .inl hknown
          · exact .inr (List.mem_singleton.1 hlast ▸ List.mem_cons_self)
        · exact .inr (List.mem_cons_of_mem y hadded)

/-! ### Merged names -/

variable {r : Resolver}

/-- A merged name is new if it is not void and names no model that is known or named in front of
it. -/
theorem novel_eq (known names : List Name) :
    novel known names =
      Names.sift (fun before n => !n.isVoid && !n.isAmong (known ++ before)) names := by
  rw [novel, Name.unique, Names.uniqueBy_eq_sift fun _ _ => Name.isVoid_congr, Names.filter_sift]
  congr 1
  funext before n
  have hbefore : (decide (n.key ∉ before.map Name.key)) = !n.isAmong before := by
    rw [Bool.eq_iff_iff, Bool.not_eq_true', Bool.eq_false_iff, ne_eq, Name.isAmong_iff]
    simp
  rw [hbefore, Name.isAmong_append, Bool.not_or, Bool.and_assoc, Bool.and_comm (!n.isAmong before)]

/-- What was merged is named from then on. -/
theorem merge_merge (names : List Name) :
    (r.merge names).1.merge names = ((r.merge names).1, []) := by
  have hnone : novel (r.models ++ novel r.models names) names = [] := by
    rw [novel, List.filter_eq_nil_iff]
    intro n hn
    by_cases hknown : n.isAmong r.models = true
    · simp [Name.isAmong_append, hknown]
    · have hnew : n ∈ novel r.models names := List.mem_filter.2 ⟨hn, by simpa using hknown⟩
      have hamong : n.isAmong (novel r.models names) = true := Name.isAmong_iff.2 ⟨n, hnew, rfl⟩
      simp [Name.isAmong_append, hamong]
  simp only [merge, hnone, List.append_nil]

/-! ### Typed names -/

/-- The characters between typed names. -/
def isBetween (c : CodePoint) : Bool := c == ',' || Text.isBlank c

theorem typedNames_eq_runs (text : Text) : typedNames text = Text.runs isBetween text :=
  Text.items_eq_runs (fun c hc => by simp [hc]) text

/-- Names that were typed are known from then on. -/
theorem addCustom_addCustom (text : Text) :
    (r.addCustom text).1.addCustom text = ((r.addCustom text).1, ⟨[], typedNames text⟩) := by
  have hknown : ∀ x ∈ typedNames text, x ∈ Name.texts (r.addCustom text).1.models := by
    intro x hx
    rw [Name.mem_texts]
    rcases mem_or_mem_added_sortOut hx with hknown | hadded
    · exact List.mem_append_left _ (Name.mem_texts.1 hknown)
    · exact List.mem_append_right _ (List.mem_map_of_mem hadded)
  rw [addCustom, sortOut_of_forall_mem hknown]
  simp [Name.ofTexts]

theorem mem_available_addCustom {s text : Text} (h : s ∈ (r.addCustom text).2.added) :
    Name.text s ∈ (r.addCustom text).1.available := by
  have hne : s ≠ "" := Text.mem_items_ne_empty (mem_added_sortOut h).1
  have hmodels : Name.text s ∈ (r.addCustom text).1.models :=
    List.mem_append_right _ (List.mem_map_of_mem h)
  rw [available, Name.mem_unique_text]
  exact ⟨List.mem_append_right _ hmodels, hne⟩

/-! ### Main statement -/

/-- Of the typed names, which are the longest runs of characters that are neither blank nor commas,
those are added that are not selected and are mentioned for the first time, in the order in which
they stand in the text. All other mentions are reported as duplicates, in that order, too, so that
each mention is accounted for once. What is added comes behind the selected models, and behind the
names that were typed before unless it is one of them, and can be picked. Merging adds to the
selected models in the same way, void names left out. What was typed or merged once is known, so
doing it again changes nothing. -/
theorem adds_first_mentions (r : Resolver) :
    (∀ text,
      let tokens := Text.runs isBetween text
      let q := (r.addCustom text).1
      let typed := (r.addCustom text).2
      typed.added = Names.sift (fun before s => Name.text s ∉ r.models ∧ s ∉ before) tokens ∧
      typed.duplicates = Names.sift (fun before s => Name.text s ∈ r.models ∨ s ∈ before) tokens ∧
      typed.added.Nodup ∧ typed.added.length + typed.duplicates.length = tokens.length ∧
      (typed.added ++ typed.duplicates).Perm tokens ∧
      q.models = r.models ++ Name.ofTexts typed.added ∧
      q.custom = r.custom ++ typed.added.filter (· ∉ r.custom) ∧
      (∀ s ∈ typed.added, Name.text s ∈ q.available) ∧
      q.addCustom text = (q, { added := [], duplicates := tokens })) ∧
    (∀ names,
      let q := (r.merge names).1
      let added := (r.merge names).2
      added = Names.sift
        (fun before n => !n.isVoid && !n.isAmong r.models && !n.isAmong before) names ∧
      q.models = r.models ++ added ∧ q.merge names = (q, [])) := by
  constructor
  · intro text tokens q typed
    have htokens : typedNames text = tokens := typedNames_eq_runs text
    have hperm : (typed.added ++ typed.duplicates).Perm tokens :=
      htokens ▸ perm_sortOut (Name.texts r.models) (typedNames text)
    have hlength := hperm.length_eq
    rw [List.length_append] at hlength
    have htyped : typed = sortOut (Name.texts r.models) tokens := htokens ▸ rfl
    have hagain : q.addCustom text = (q, ⟨[], tokens⟩) := htokens ▸ addCustom_addCustom text
    refine ⟨?_, ?_, nodup_added_sortOut _ _, hlength, hperm, rfl, rfl,
      fun s hs => mem_available_addCustom hs, hagain⟩
    · rw [htyped, sortOut_eq]
      simp only [List.mem_append, Name.mem_texts, not_or]
    · rw [htyped, sortOut_eq]
      simp only [List.mem_append, Name.mem_texts]
  · intro names q added
    refine ⟨?_, rfl, merge_merge names⟩
    have hadded : added = novel r.models names := rfl
    rw [hadded, novel_eq]
    simp only [Name.isAmong_append, Bool.not_or, Bool.and_assoc]

end Model.Resolver

end ChannelConsole
