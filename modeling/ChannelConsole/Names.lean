import ChannelConsole.Text.Search

/-!
# Lists of names

Models and groups are lists of names. A clean list has no empty name and no name twice; the order
of first mention is what users see, so cleaning a list keeps it. Names that are not plain texts are
compared by a key.

## Main definitions

* `Names.uniqueBy`: a list without void items and without items whose key an earlier one has.
* `Names.unique`: a list of texts without empty ones and without repetitions.
* `Names.split`: the names of a text with commas between them.

## Main statements

* `Names.mem_unique`: cleaning a list loses no name but the empty one.
* `Names.nodup_map_uniqueBy`, `Names.nodup_unique`: no name is left twice.
* `Names.uniqueBy_eq_self`, `Names.unique_eq_self`: a clean list is left alone.
-/

namespace ChannelConsole.Names

/-- A list without void items and without items whose key an earlier one has. -/
def uniqueBy {α κ : Type} [DecidableEq κ] (key : α → κ) (isVoid : α → Bool) : List α → List α
  | [] => []
  | x :: r =>
    if isVoid x then uniqueBy key isVoid r
    else x :: (uniqueBy key isVoid r).filter (key · ≠ key x)

/-- A list without empty names and without repetitions, in the order of first mention. -/
def unique (xs : List Text) : List Text := uniqueBy id (fun x : Text => x == "") xs

/-- The names of a text with commas between them, trimmed, blank ones left out. -/
def split (s : Text) : List Text := Text.items (· == ',') s

/-! ### Items with keys -/

section

variable {α κ : Type} [DecidableEq κ] {key : α → κ} {isVoid : α → Bool}

/-- What is left was there, and is not void. -/
theorem mem_of_mem_uniqueBy {x : α} {xs : List α} (h : x ∈ uniqueBy key isVoid xs) :
    x ∈ xs ∧ isVoid x = false := by
  induction xs with
  | nil => simp [uniqueBy] at h
  | cons y r ih =>
    unfold uniqueBy at h
    split at h
    · exact ⟨List.mem_cons_of_mem _ (ih h).1, (ih h).2⟩
    · rcases List.mem_cons.1 h with rfl | hr
      · exact ⟨List.mem_cons_self, by simp_all⟩
      · have hr := ih (List.mem_filter.1 hr).1
        exact ⟨List.mem_cons_of_mem _ hr.1, hr.2⟩

/-- Of every item that is not void, its key is left. -/
theorem key_mem_map_uniqueBy {x : α} {xs : List α} (hx : x ∈ xs) (hv : isVoid x = false) :
    key x ∈ (uniqueBy key isVoid xs).map key := by
  induction xs with
  | nil => simp at hx
  | cons y r ih =>
    unfold uniqueBy
    split
    · rename_i hy
      rcases List.mem_cons.1 hx with rfl | hr
      · simp [hv] at hy
      · exact ih hr
    · by_cases hk : key x = key y
      · simp [hk]
      · rcases List.mem_cons.1 hx with rfl | hr
        · exact absurd rfl hk
        · obtain ⟨z, hz, hzk⟩ := List.mem_map.1 (ih hr)
          exact List.mem_map.2
            ⟨z, List.mem_cons_of_mem _ (List.mem_filter.2 ⟨hz, by simpa [hzk] using hk⟩), hzk⟩

/-- No key is left twice. -/
theorem nodup_map_uniqueBy (xs : List α) : ((uniqueBy key isVoid xs).map key).Nodup := by
  induction xs with
  | nil => simp [uniqueBy]
  | cons y r ih =>
    unfold uniqueBy
    split
    · exact ih
    · rw [List.map_cons, List.nodup_cons]
      refine ⟨?_, (List.filter_sublist.map key).nodup ih⟩
      simp only [List.mem_map, List.mem_filter, decide_eq_true_eq, not_exists, not_and]
      exact fun z hz => hz.2

/-- A clean list is left alone. -/
theorem uniqueBy_eq_self {xs : List α} (hd : (xs.map key).Nodup)
    (hv : ∀ x ∈ xs, isVoid x = false) : uniqueBy key isVoid xs = xs := by
  induction xs with
  | nil => rfl
  | cons y r ih =>
    rw [List.map_cons, List.nodup_cons] at hd
    have hr := ih hd.2 fun x hx => hv x (List.mem_cons_of_mem _ hx)
    have hf : r.filter (key · ≠ key y) = r :=
      List.filter_eq_self.2 fun z hz => by
        simpa using fun h : key z = key y => hd.1 (h ▸ List.mem_map_of_mem hz)
    rw [uniqueBy, if_neg (by simp [hv y]), hr, hf]

end

/-! ### Texts -/

/-- Cleaning a list loses no name but the empty one. -/
theorem mem_unique {x : Text} {xs : List Text} : x ∈ unique xs ↔ x ∈ xs ∧ x ≠ "" := by
  constructor
  · intro h
    simpa using mem_of_mem_uniqueBy h
  · intro ⟨hx, hne⟩
    have h := @key_mem_map_uniqueBy _ _ _ id (fun x : Text => x == "") _ _ hx (by simpa using hne)
    simpa [unique] using h

/-- No name is left twice. -/
theorem nodup_unique (xs : List Text) : (unique xs).Nodup := by
  simpa [unique] using @nodup_map_uniqueBy _ _ _ id (fun x : Text => x == "") xs

theorem not_mem_unique_empty (xs : List Text) : ("" : Text) ∉ unique xs := fun h =>
  (mem_unique.1 h).2 rfl

/-- A clean list is left alone. -/
theorem unique_eq_self {xs : List Text} (hd : xs.Nodup) (he : ("" : Text) ∉ xs) : unique xs = xs :=
  uniqueBy_eq_self (by simpa using hd) fun x hx => by
    simpa using fun h : x = "" => he (h ▸ hx)

/-- Cleaning a clean list again changes nothing. -/
theorem unique_unique (xs : List Text) : unique (unique xs) = unique xs :=
  unique_eq_self (nodup_unique xs) (not_mem_unique_empty xs)

end ChannelConsole.Names
