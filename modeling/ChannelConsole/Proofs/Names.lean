import ChannelConsole.Model.Name
import ChannelConsole.Proofs.Text.Items

/-!
# Lists of names as text

The names of a text are found again in the text that joins them (`split_join_split`), and so are
those that are left when later repetitions are removed (`split_join_unique_split`). A list that goes
on keeps what it had and gains what is new (`unique_append`). For names that are texts it makes no
difference whether they are cleaned as texts or as names of models (`unique_ofTexts`).

A list of any names is found again in the text that joins them exactly if all of them are plain,
which is to be trimmed and not empty and to have no comma (`split_join_eq_self_iff`, `isPlain_iff`).

A cleaned list of names of models has only texts exactly if all others of the list were void, and
likewise for numbers (`all_unique_iff`).
-/

namespace ChannelConsole

namespace Names

theorem split_join (xs : List Text) : split (Text.join xs) = xs.flatMap split :=
  Text.items_join (by decide) xs

/-- Names of a text that are joined in any order are found again. -/
theorem split_join_of_forall_mem {s : Text} {xs : List Text} (h : ∀ x ∈ xs, x ∈ split s) :
    split (Text.join xs) = xs := by
  rw [split_join]
  exact Text.flatMap_items_of_forall_mem h

theorem split_join_split (s : Text) : split (Text.join (split s)) = split s :=
  split_join_of_forall_mem fun _ hx => hx

/-- The names that are left without later repetitions are found again when they are joined. -/
theorem split_join_unique_split (s : Text) :
    split (Text.join (unique (split s))) = unique (split s) :=
  split_join_of_forall_mem fun _ hx => (mem_unique.1 hx).1

/-- Whether a name is found as it is in a text that names it. -/
def IsPlain (s : Text) : Prop := split s = [s]

instance (s : Text) : Decidable (IsPlain s) := inferInstanceAs (Decidable (split s = [s]))

/-- Plain names are those that are trimmed and not empty and have no comma. -/
theorem isPlain_iff {s : Text} :
    IsPlain s ↔ s ≠ "" ∧ Text.trim s = s ∧ (',' : CodePoint) ∉ s.toList := by
  rw [IsPlain, split, Text.items_eq_singleton_iff]
  refine and_congr_right fun _ => and_congr_right fun _ => ?_
  constructor
  · intro h hmem
    exact absurd (h ',' hmem) (by decide)
  · intro h c hc
    simpa using fun hcomma : c = ',' => h (hcomma ▸ hc)

theorem isPlain_of_mem_split {x s : Text} (h : x ∈ split s) : IsPlain x :=
  Text.items_of_mem_items h

/-- A list of names is found again in the text that joins them exactly if all of them are plain. -/
theorem split_join_eq_self_iff {xs : List Text} :
    split (Text.join xs) = xs ↔ ∀ x ∈ xs, IsPlain x := by
  rw [split_join]
  exact Text.flatMap_items_eq_self_iff

/-- The same of a list without repetitions, when they are removed once more after reading it. -/
theorem unique_split_join_eq_self_iff {xs : List Text} (hclean : unique xs = xs) :
    unique (split (Text.join xs)) = xs ↔ ∀ x ∈ xs, IsPlain x := by
  constructor
  · intro h x hx
    rw [← h, split_join] at hx
    obtain ⟨y, -, hxy⟩ := List.mem_flatMap.1 (mem_unique.1 hx).1
    exact isPlain_of_mem_split hxy
  · intro h
    rw [split_join_eq_self_iff.2 h, hclean]

/-- Cleaning a list goes along with renaming its items, if that keeps keys apart. -/
theorem uniqueBy_map {α β κ μ : Type} [DecidableEq κ] [DecidableEq μ] {key : α → κ} {key' : β → μ}
    {isVoid : α → Bool} {isVoid' : β → Bool} {f : β → α}
    (hkey : ∀ x y, key (f x) = key (f y) ↔ key' x = key' y)
    (hvoid : ∀ x, isVoid (f x) = isVoid' x) (xs : List β) :
    uniqueBy key isVoid (xs.map f) = (uniqueBy key' isVoid' xs).map f := by
  induction xs with
  | nil => rfl
  | cons x xs ih =>
    rw [List.map_cons, uniqueBy, uniqueBy, hvoid x, ih]
    split
    · rfl
    · rw [List.map_cons, List.filter_map]
      congr 3
      ext y
      simp only [Function.comp_apply, ne_eq, hkey]

/-- Items that come later are kept as far as no earlier one that is left has their key. -/
theorem uniqueBy_append {α κ : Type} [DecidableEq κ] {key : α → κ} {isVoid : α → Bool}
    (xs ys : List α) :
    uniqueBy key isVoid (xs ++ ys) = uniqueBy key isVoid xs ++
      (uniqueBy key isVoid ys).filter (key · ∉ (uniqueBy key isVoid xs).map key) := by
  induction xs with
  | nil => exact (List.filter_eq_self.2 fun y _ => by simp [uniqueBy]).symm
  | cons x xs ih =>
    rw [List.cons_append, uniqueBy, uniqueBy, ih]
    split
    · rfl
    · rw [List.filter_append, List.filter_filter, List.cons_append]
      congr 2
      -- an item with another key than `x` is among those that are left whether `x` is there or not
      refine List.filter_congr fun y _ => ?_
      by_cases hy : key y = key x
      · simp [hy]
      · simp only [hy, ne_eq, not_false_eq_true, decide_true, Bool.true_and, List.map_cons,
          List.mem_cons, false_or, decide_eq_decide, List.mem_map, List.mem_filter,
          decide_eq_true_eq]
        grind

/-- A list without repetitions loses only what is void. -/
theorem uniqueBy_eq_filter {α κ : Type} [DecidableEq κ] {key : α → κ} {isVoid : α → Bool}
    {xs : List α} (hd : (xs.map key).Nodup) :
    uniqueBy key isVoid xs = xs.filter (!isVoid ·) := by
  induction xs with
  | nil => rfl
  | cons x xs ih =>
    rw [List.map_cons, List.nodup_cons] at hd
    rw [uniqueBy, ih hd.2, List.filter_cons]
    by_cases hx : isVoid x = true
    · simp [hx]
    · -- no later item has the key of `x`
      have hlater : ∀ y ∈ xs.filter (!isVoid ·), decide (key y ≠ key x) = true := by
        intro y hy
        refine decide_eq_true fun hkey => hd.1 ?_
        rw [← hkey]
        exact List.mem_map_of_mem (List.mem_filter.1 hy).1
      rw [if_neg hx, if_pos (by simp [hx]), List.filter_eq_self.2 hlater]

/-- Names that come later are kept as far as the earlier ones do not have them. -/
theorem unique_append (xs ys : List Text) :
    unique (xs ++ ys) = unique xs ++ (unique ys).filter (· ∉ xs) := by
  have happend := @uniqueBy_append Text Text _ id (· == "") xs ys
  rw [← unique, ← unique, ← unique, List.map_id] at happend
  rw [happend]
  congr 1
  refine List.filter_congr fun y hy => ?_
  simp [mem_unique, (mem_unique.1 hy).2]

/-- Whether no name of a list is empty and none is there twice. -/
structure IsClean (xs : List Text) : Prop where
  distinct : xs.Nodup
  named : ("" : Text) ∉ xs

theorem isClean_unique (xs : List Text) : IsClean (unique xs) :=
  ⟨nodup_unique xs, not_mem_unique_empty xs⟩

end Names

namespace Model.Name

theorem texts_ofTexts (xs : List Text) : texts (ofTexts xs) = xs := by
  rw [texts, ofTexts, List.filterMap_map]
  exact List.filterMap_some

theorem ofTexts_inj {xs ys : List Text} : ofTexts xs = ofTexts ys ↔ xs = ys := by
  refine ⟨fun h => ?_, fun h => by rw [h]⟩
  rw [← texts_ofTexts xs, h, texts_ofTexts]

theorem exists_of_isText {n : Name} (h : n.isText = true) : ∃ s, n = .text s := by
  cases n with
  | text s => exact ⟨s, rfl⟩
  | _ => simp [isText, text?] at h

theorem ofTexts_texts {names : List Name} (h : names.all isText = true) :
    ofTexts (texts names) = names := by
  induction names with
  | nil => rfl
  | cons n names ih =>
    rw [List.all_cons, Bool.and_eq_true] at h
    obtain ⟨s, rfl⟩ := exists_of_isText h.1
    exact congrArg (Name.text s :: ·) (ih h.2)

theorem mem_texts {s : Text} {xs : List Name} : s ∈ texts xs ↔ Name.text s ∈ xs := by
  rw [texts, List.mem_filterMap]
  constructor
  · rintro ⟨n, hn, hs⟩
    cases n with
    | text t => rwa [← Option.some.inj hs]
    | _ => cases hs
  · exact fun h => ⟨_, h, rfl⟩

theorem all_isText_ofTexts (xs : List Text) : (ofTexts xs).all isText = true := by
  rw [ofTexts, List.all_map, List.all_eq_true]
  intro s _
  rfl

/-- Texts are cleaned in the same way as names of models. -/
theorem unique_ofTexts (xs : List Text) : unique (ofTexts xs) = ofTexts (Names.unique xs) := by
  refine Names.uniqueBy_map (fun x y => ?_) (fun x => ?_) xs
  · simp [key]
  · rw [Bool.eq_iff_iff]
    simp [isVoid, key]

/-! ### Models that are named in a list -/

variable {m n : Name} {xs : List Name}

theorem isAmong_iff : n.isAmong xs = true ↔ ∃ m ∈ xs, m.key = n.key := by
  simp only [isAmong, List.any_eq_true, beq_iff_eq]

theorem isAmong_append (xs ys : List Name) :
    n.isAmong (xs ++ ys) = (n.isAmong xs || n.isAmong ys) := List.any_append

/-- What names the same model as a text is that text. -/
theorem eq_of_key_eq (hn : n.isText = true) (h : m.key = n.key) : m = n := by
  obtain ⟨s, rfl⟩ := exists_of_isText hn
  cases m with
  | text t => rw [Key.text.inj h]
  | _ => simp [key] at h

/-- What names the same model as something void is void. -/
theorem isVoid_congr (h : m.key = n.key) : m.isVoid = n.isVoid := by rw [isVoid, isVoid, h]

/-- Models stay named when repetitions are removed, unless their name is void. -/
theorem isAmong_unique (hn : n.isVoid = false) : n.isAmong (unique xs) = n.isAmong xs := by
  rw [Bool.eq_iff_iff, isAmong_iff, isAmong_iff]
  constructor
  · rintro ⟨m, hm, hkey⟩
    exact ⟨m, (Names.mem_of_mem_uniqueBy hm).1, hkey⟩
  · rintro ⟨m, hm, hkey⟩
    have hm' : m.isVoid = false := by rw [isVoid_congr hkey, hn]
    rw [← hkey]
    exact List.mem_map.1 (Names.key_mem_map_uniqueBy hm hm')

/-- Names without repetitions stay as they are when repetitions are removed. -/
theorem unique_unique (names : List Name) : unique (unique names) = unique names :=
  Names.uniqueBy_eq_self (nodup_map_key_unique names) fun _ hn => (Names.mem_of_mem_uniqueBy hn).2

/-- A power of two is not zero, nor is it when it counts as an integer. -/
theorem natCast_pow_ne_zero (n : Nat) : ((Nat.pow 2 n : Nat) : Int) ≠ 0 :=
  Int.natCast_ne_zero.2 (Nat.pow_pos (by decide)).ne'

theorem scaled_eq_zero_iff (x : Binary64) : x.scaled = 0 ↔ x.significand = 0 := by
  have hpow := natCast_pow_ne_zero (x.exponent + 1074).toNat
  unfold Binary64.scaled
  split
  · rw [Int.neg_eq_zero, Int.natCast_mul, Int.mul_eq_zero, or_iff_left hpow, Int.natCast_eq_zero]
  · rw [Int.natCast_mul, Int.mul_eq_zero, or_iff_left hpow, Int.natCast_eq_zero]

theorem one_ne_zero : one ≠ 0 := by
  rw [one]
  apply natCast_pow_ne_zero

/-- A name is void if its value is. -/
theorem isVoid_of_ofJson? {v : Json} {n : Name} (h : ofJson? v = some n) :
    n.isVoid = v.isVoid := by
  rw [Bool.eq_iff_iff]
  cases v with
  | str s =>
    obtain rfl := Option.some.inj h
    simp [isVoid, key, Json.isVoid]
  | int i =>
    obtain rfl := Option.some.inj h
    have hscaled : i * one = 0 ↔ i = 0 := by rw [Int.mul_eq_zero, or_iff_left one_ne_zero]
    simp only [isVoid, key, Json.isVoid, Bool.or_eq_true, beq_iff_eq, reduceCtorEq, false_or,
      Key.number.injEq, hscaled]
  | float x =>
    obtain rfl := Option.some.inj h
    simp [isVoid, key, Json.isVoid, Binary64.isZero, scaled_eq_zero_iff]
  | bool b =>
    obtain rfl := Option.some.inj h
    cases b <;> simp [isVoid, key, Json.isVoid, one_ne_zero]
  | nonFinite x =>
    obtain rfl := Option.some.inj h
    simp [isVoid, key, Json.isVoid]
  | _ => cases h

end Model.Name

end ChannelConsole
