import ChannelConsole.Binary64.Shortest
import ChannelConsole.Proofs.Binary64.Nearest
import Mathlib.Tactic.Ring

/-!
# The shortest decimal reads back

The shortest decimal of a double is found by comparisons of naturals. They compare the decimal with
the two halfway points around the double (`readsBack_iff`), so what is found is covered by the
double and reading it gives the double again (`ofDecimal?_shortest`).

A double is written as this decimal with its sign, which need not be its own value. A number that a
double is written as is rounded to a double that is written as this number
(`ofDecimal?_of_written_eq`).
-/

namespace ChannelConsole.Binary64

/-- The number that a decimal stands for. -/
def Decimal.value (d : Decimal) : ℚ := d.digits * 10 ^ d.exponent

/-- The size of a double. -/
def size (x : Binary64) : ℚ := x.significand * 2 ^ x.exponent

/-! ### Comparisons -/

/-- Naturals in units of powers of ten and of two are compared as the numbers that they stand for.
-/
theorem compareScaled_eq (a : ℕ) (i : ℤ) (n : ℕ) (j : ℤ) :
    compareScaled a i n j = cmp ((a : ℚ) * 10 ^ i) (n * 2 ^ j) := by
  have hten := zpow_mul_pow_toNat (a := 10) (by norm_num) i
  have htwo := zpow_mul_pow_toNat (a := 2) (by norm_num) j
  have hscale : (0 : ℚ) < 10 ^ (-i).toNat * 2 ^ (-j).toNat := by positivity
  have hleft : ((a * Nat.pow 10 i.toNat * Nat.pow 2 (-j).toNat : ℕ) : ℚ) =
      10 ^ (-i).toNat * 2 ^ (-j).toNat * (a * 10 ^ i) := by
    simp only [Nat.pow_eq, Nat.cast_mul, Nat.cast_pow, Nat.cast_ofNat]
    rw [← hten]
    ring
  have hright : ((n * Nat.pow 2 j.toNat * Nat.pow 10 (-i).toNat : ℕ) : ℚ) =
      10 ^ (-i).toNat * 2 ^ (-j).toNat * (n * 2 ^ j) := by
    simp only [Nat.pow_eq, Nat.cast_mul, Nat.cast_pow, Nat.cast_ofNat]
    rw [← htwo]
    ring
  rw [compareScaled, ← cmp_eq_compare, ← (Nat.strictMono_cast (α := ℚ)).cmp_map_eq, hleft, hright,
    cmp_mul_pos_left hscale]

/-- A decimal is compared with quarters of the unit of a double. -/
theorem compareScaled_quarters (x : Binary64) (d : Decimal) (n : ℕ) :
    compareScaled d.digits d.exponent n (x.exponent - 2) =
      cmp (d.value / 2 ^ x.exponent) ((n : ℚ) / 4) := by
  have hpow : (0 : ℚ) < 2 ^ x.exponent := by positivity
  have hvalue : d.value = 2 ^ x.exponent * (d.value / 2 ^ x.exponent) := by field_simp
  have hquarter : (n : ℚ) * 2 ^ (x.exponent - 2) = 2 ^ x.exponent * (n / 4) := by
    rw [zpow_sub₀ (by norm_num)]
    ring
  rw [compareScaled_eq, ← Decimal.value, hquarter, hvalue, cmp_mul_pos_left hpow, ← hvalue]

/-- Whether a number is above a bound, the bound included if it is closed. -/
theorem above_iff (closed : Bool) (t b : ℚ) :
    (cmp t b == .gt || (closed && cmp t b == .eq)) = true ↔ if closed then b ≤ t else b < t := by
  rw [Bool.or_eq_true, Bool.and_eq_true, beq_iff_eq, beq_iff_eq, cmp_eq_gt_iff, cmp_eq_eq_iff]
  cases closed with
  | false => simp
  | true => simp [le_iff_lt_or_eq, @eq_comm ℚ t b]

/-- Whether a number is below a bound, the bound included if it is closed. -/
theorem below_iff (closed : Bool) (t b : ℚ) :
    (cmp t b == .lt || (closed && cmp t b == .eq)) = true ↔ if closed then t ≤ b else t < b := by
  rw [Bool.or_eq_true, Bool.and_eq_true, beq_iff_eq, beq_iff_eq, cmp_eq_lt_iff, cmp_eq_eq_iff]
  cases closed with
  | false => simp
  | true => simp [le_iff_lt_or_eq]

/-- The numbers that are rounded to a natural, between the halves around it. -/
theorem roundsTo_iff (t : ℚ) (m : ℕ) :
    RoundsTo t m ↔ (if m % 2 == 0 then (m : ℚ) - 1 / 2 ≤ t else (m : ℚ) - 1 / 2 < t) ∧
      (if m % 2 == 0 then t ≤ m + 1 / 2 else t < m + 1 / 2) := by
  simp only [RoundsTo, beq_iff_eq]
  split
  · rw [abs_le, neg_le_sub_iff_le_add, sub_le_iff_le_add, sub_le_iff_le_add, add_comm t,
      add_comm (1 / 2 : ℚ), add_comm (1 / 2 : ℚ)]
  · rw [abs_lt, neg_lt_sub_iff_lt_add, sub_lt_iff_lt_add, sub_lt_iff_lt_add, add_comm t,
      add_comm (1 / 2 : ℚ), add_comm (1 / 2 : ℚ)]

/-- The decimals that read back are the ones that the double covers. -/
theorem readsBack_iff {x : Binary64} (hx : x.significand ≠ 0) (d : Decimal) :
    x.readsBack d = true ↔ x.Covers d.value := by
  have hhigh : ((4 * x.significand + 2 : ℕ) : ℚ) / 4 = x.significand + 1 / 2 := by
    push_cast
    ring
  rw [readsBack, Bool.and_eq_true, compareScaled_quarters, compareScaled_quarters, above_iff,
    below_iff, hhigh, Covers]
  generalize d.value / 2 ^ x.exponent = t
  by_cases hnarrow : x.significand = 2 ^ 52 ∧ x.exponent ≠ -1074
  · obtain ⟨hm, he⟩ := hnarrow
    have hbelow : x.narrowBelow = true := by simp [narrowBelow, hm, he]
    have hlow : ((4 * x.significand - 1 : ℕ) : ℚ) / 4 = x.significand - 1 / 4 := by
      rw [Nat.cast_sub (by omega)]
      push_cast
      ring
    have heven : (x.significand % 2 == 0) = true := by simp [hm]
    have hcast : (x.significand : ℚ) = 2 ^ 52 := by exact_mod_cast hm
    rw [hbelow, if_pos rfl, hlow, roundsTo_iff, heven, if_pos rfl, if_pos rfl, if_pos rfl, ← hcast]
    constructor
    · rintro ⟨hl, hh⟩
      exact ⟨⟨by linarith, hh⟩, fun _ _ => hl⟩
    · rintro ⟨⟨-, hh⟩, hl⟩
      exact ⟨hl hm he, hh⟩
  · have hbelow : x.narrowBelow = false := by
      simpa [narrowBelow] using hnarrow
    have hlow : ((4 * x.significand - 2 : ℕ) : ℚ) / 4 = x.significand - 1 / 2 := by
      rw [Nat.cast_sub (by omega)]
      push_cast
      ring
    rw [hbelow, if_neg Bool.false_ne_true, hlow, roundsTo_iff]
    exact ⟨fun h => ⟨h, fun hm he => absurd ⟨hm, he⟩ hnarrow⟩, And.left⟩

/-! ### The shortest decimal -/

/-- Zeros at the end of the digits do not matter. -/
theorem value_dropZeros (fuel : ℕ) (d : Decimal) : (dropZeros fuel d).value = d.value := by
  induction fuel generalizing d with
  | zero => rfl
  | succ fuel ih =>
    unfold dropZeros
    split
    · rename_i hzero
      simp only [Bool.and_eq_true, beq_iff_eq] at hzero
      have hten : (d.digits : ℚ) = (d.digits / 10 : ℕ) * 10 := by
        exact_mod_cast (Nat.div_mul_cancel (Nat.dvd_of_mod_eq_zero hzero.2)).symm
      rw [ih, Decimal.value, Decimal.value, hten, zpow_add_one₀ (by norm_num)]
      ring
    · rfl

/-- The exact decimal is the size of the double. -/
theorem value_exactDecimal (x : Binary64) : x.exactDecimal.value = x.size := by
  unfold exactDecimal
  split
  · rename_i he
    obtain ⟨n, hn⟩ := Int.eq_ofNat_of_zero_le he
    simp [Decimal.value, size, hn]
  · rename_i he
    obtain ⟨n, hn⟩ := Int.eq_ofNat_of_zero_le (a := -x.exponent) (by omega)
    have hexp : x.exponent = -(n : ℤ) := by omega
    have hten : (10 : ℚ) ^ n = 5 ^ n * 2 ^ n := by rw [← mul_pow]; norm_num
    simp [Decimal.value, size, hexp, hten]
    field_simp

/-- A double covers its own size. -/
theorem covers_size (x : Binary64) : x.Covers x.size := by
  have hpow : (2 : ℚ) ^ x.exponent ≠ 0 := by positivity
  rw [Covers, size, mul_div_cancel_right₀ _ hpow, RoundsTo, sub_self, abs_zero]
  refine ⟨by split <;> norm_num, fun hm _ => ?_⟩
  rw [hm]
  norm_num

variable {x : Binary64}

/-- A double that is not zero covers its shortest decimal. -/
theorem covers_shortest (hx : x.significand ≠ 0) : x.Covers x.shortest.value := by
  simp only [shortest, value_dropZeros]
  cases hfound : (List.range 17).findSome?
      fun (i : Nat) => x.candidate? (x.decimalScale - 1 - i) with
  | none =>
    rw [Option.getD_none, value_exactDecimal]
    exact x.covers_size
  | some d =>
    obtain ⟨i, -, hcandidate⟩ := List.exists_of_findSome?_eq_some hfound
    exact (readsBack_iff hx d).1 (readsBack_of_candidate? hcandidate)

/-- The shortest decimal of a double that is not zero has digits. -/
theorem digits_shortest_ne_zero (hx : x.significand ≠ 0) : x.shortest.digits ≠ 0 := by
  intro hzero
  have hle := (covers_shortest hx).le hx
  rw [Decimal.value, hzero, Nat.cast_zero, zero_mul] at hle
  exact absurd hle (not_le.2 (by positivity))

/-- A decimal of the same value as the shortest one is rounded to the double. -/
theorem ofDecimal?_shortest (hx : x.significand ≠ 0) {digits : ℕ} {exponent : ℤ}
    (h : (digits : ℚ) * 10 ^ exponent = x.shortest.value) :
    ofDecimal? x.negative digits exponent = some x :=
  ofDecimal?_of_covers hx (h ▸ covers_shortest hx)

/-! ### Written doubles -/

/-- The number with the given sign and size. -/
def withSign (negative : Bool) (q : ℚ) : ℚ := if negative then -q else q

theorem withSign_eq_zero_iff {negative : Bool} {q : ℚ} : withSign negative q = 0 ↔ q = 0 := by
  cases negative <;> simp [withSign]

/-- Numbers that are not zero have a sign of their own. -/
theorem withSign_inj {negative negative' : Bool} {p q : ℚ} (hp : 0 < p) (hq : 0 < q)
    (h : withSign negative p = withSign negative' q) : negative = negative' ∧ p = q := by
  cases negative <;> cases negative' <;> simp only [withSign, Bool.false_eq_true, if_true,
    if_false] at h
  · exact ⟨rfl, h⟩
  · linarith
  · linarith
  · exact ⟨rfl, neg_injective h⟩

/-- The number that a double is written as. -/
def written (x : Binary64) : ℚ := withSign x.negative (if x.isZero then 0 else x.shortest.value)

theorem written_of_isZero (hx : x.isZero = true) : x.written = 0 := by
  rw [written, hx, if_pos rfl]
  exact withSign_eq_zero_iff.2 rfl

theorem written_of_ne_zero (hx : x.significand ≠ 0) :
    x.written = withSign x.negative x.shortest.value := by
  simp [written, isZero, hx]

theorem value_shortest_pos (hx : x.significand ≠ 0) : 0 < x.shortest.value := by
  have hdigits : (0 : ℚ) < x.shortest.digits := by
    exact_mod_cast Nat.pos_of_ne_zero (digits_shortest_ne_zero hx)
  rw [Decimal.value]
  positivity

/-- A number that a double is written as is rounded to a double that is written as it. -/
theorem ofDecimal?_of_written_eq {negative : Bool} {digits : ℕ} {exponent : ℤ}
    (h : x.written = withSign negative (digits * 10 ^ exponent)) :
    ∃ y, ofDecimal? negative digits exponent = some y ∧
      y.written = withSign negative (digits * 10 ^ exponent) := by
  by_cases hdigits : digits = 0
  · refine ⟨zero negative, if_pos hdigits, ?_⟩
    rw [written_of_isZero rfl, hdigits, Nat.cast_zero, zero_mul]
    exact (withSign_eq_zero_iff.2 rfl).symm
  have hpos : (0 : ℚ) < digits * 10 ^ exponent := by
    have hd : (0 : ℚ) < digits := by exact_mod_cast Nat.pos_of_ne_zero hdigits
    positivity
  -- a number that is not zero fixes the sign and the shortest decimal of the double
  have hx : x.significand ≠ 0 := by
    intro hzero
    rw [written_of_isZero (by simp [isZero, hzero])] at h
    exact hpos.ne' (withSign_eq_zero_iff.1 h.symm)
  obtain ⟨hsign, hvalue⟩ :=
    withSign_inj (value_shortest_pos hx) hpos ((written_of_ne_zero hx).symm.trans h)
  exact ⟨x, hsign ▸ ofDecimal?_shortest hx hvalue.symm, h⟩

end ChannelConsole.Binary64
