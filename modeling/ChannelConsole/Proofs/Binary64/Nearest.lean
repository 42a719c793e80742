import ChannelConsole.Binary64.Basic
import Mathlib.Algebra.Order.Field.Power
import Mathlib.Data.Int.Log
import Mathlib.Data.Rat.Floor
import Mathlib.Tactic.FieldSimp
import Mathlib.Tactic.Linarith
import Mathlib.Tactic.Positivity

/-!
# The numbers that are rounded to a double

`Covers` says of a rational number that it lies around the size of a double, at most half of the way
to its neighbours, the halves themselves included if the significand is even. Every quotient of
naturals that a double covers is rounded to it (`nearest?_of_covers`), and so is every decimal
(`ofDecimal?_of_covers`).

Rounding depends on the exponent that is chosen for the quotient. It is the one of the double,
unless the double is a power of two and the quotient is smaller: then the exponent is one less,
where rounding gives the double of the significand, which is carried over.
-/

namespace ChannelConsole.Binary64

/-! ### Powers -/

/-- A power with an integer exponent is the quotient of two powers with natural exponents. -/
theorem zpow_mul_pow_toNat {a : ℚ} (ha : a ≠ 0) (i : ℤ) :
    a ^ i * a ^ (-i).toNat = a ^ i.toNat := by
  have hsum : i + ((-i).toNat : ℤ) = (i.toNat : ℤ) := by omega
  rw [← zpow_natCast, ← zpow_natCast, ← zpow_add₀ ha, hsum]

/-- A quotient in units of a power of two. -/
theorem scaled_div (num den : ℕ) (q : ℤ) :
    ((num * Nat.pow 2 (-q).toNat : ℕ) : ℚ) / ((den * Nat.pow 2 q.toNat : ℕ) : ℚ) =
      (num : ℚ) / den / 2 ^ q := by
  have hpow := zpow_mul_pow_toNat (a := 2) (by norm_num) q
  have hq : (2 : ℚ) ^ q ≠ 0 := by positivity
  have hneg : (2 : ℚ) ^ (-q).toNat ≠ 0 := by positivity
  simp only [Nat.pow_eq, Nat.cast_mul, Nat.cast_pow, Nat.cast_ofNat]
  rw [← hpow]
  field_simp

/-! ### Rounding to naturals -/

/-- Whether a number is rounded to a natural, a half to the even neighbour. -/
def RoundsTo (t : ℚ) (m : ℕ) : Prop :=
  if m % 2 = 0 then |t - m| ≤ 1 / 2 else |t - m| < 1 / 2

theorem RoundsTo.le {t : ℚ} {m : ℕ} (h : RoundsTo t m) : |t - m| ≤ 1 / 2 := by
  unfold RoundsTo at h
  split at h
  · exact h
  · exact h.le

/-- A quotient that is rounded to a natural lies within half of the denominator around it. -/
theorem bounds_of_roundsTo {num den m : ℕ} (hden : 0 < den)
    (h : RoundsTo ((num : ℚ) / den) m) :
    2 * (m * den) ≤ 2 * num + den ∧ 2 * num ≤ 2 * (m * den) + den ∧
      (m % 2 = 1 → 2 * (m * den) < 2 * num + den ∧ 2 * num < 2 * (m * den) + den) := by
  have hd : (0 : ℚ) < den := by exact_mod_cast hden
  have hdiff : (num : ℚ) / den - m = (num - m * den) / den := by field_simp
  have hle := h.le
  rw [hdiff, abs_le, le_div_iff₀ hd, div_le_iff₀ hd] at hle
  have hlow : 2 * ((m : ℚ) * den) ≤ 2 * num + den := by linarith [hle.1]
  have hhigh : 2 * (num : ℚ) ≤ 2 * (m * den) + den := by linarith [hle.2]
  refine ⟨by exact_mod_cast hlow, by exact_mod_cast hhigh, fun hodd => ?_⟩
  rw [RoundsTo, if_neg (by omega), hdiff, abs_lt, lt_div_iff₀ hd, div_lt_iff₀ hd] at h
  have hlow' : 2 * ((m : ℚ) * den) < 2 * num + den := by linarith [h.1]
  have hhigh' : 2 * (num : ℚ) < 2 * (m * den) + den := by linarith [h.2]
  exact ⟨by exact_mod_cast hlow', by exact_mod_cast hhigh'⟩

/-- A quotient is rounded to the natural that it is rounded to. -/
theorem roundHalfEven_of_roundsTo {num den m : ℕ} (hden : 0 < den)
    (h : RoundsTo ((num : ℚ) / den) m) : roundHalfEven num den = m := by
  obtain ⟨hlow, hhigh, hodd⟩ := bounds_of_roundsTo hden h
  have hdiv := Nat.div_add_mod num den
  have hr := Nat.mod_lt num hden
  unfold roundHalfEven
  generalize num / den = q at *
  generalize num % den = r at *
  subst hdiv
  rw [Nat.mul_comm den q] at hlow hhigh hodd
  -- the natural is the whole part of the quotient or the next one
  have hq : q ≤ m := by
    by_contra hlt
    have hmul : (m + 1) * den ≤ q * den := Nat.mul_le_mul_right den (by omega)
    rw [Nat.add_mul] at hmul
    omega
  have hm : m ≤ q + 1 := by
    by_contra hlt
    have hmul : (q + 2) * den ≤ m * den := Nat.mul_le_mul_right den (by omega)
    rw [Nat.add_mul] at hmul
    omega
  rcases Nat.lt_or_eq_of_le hq with hlt | rfl
  · obtain rfl : m = q + 1 := by omega
    rw [Nat.add_mul] at hlow hhigh hodd
    have hup : (decide (den < 2 * r) || (2 * r == den && q % 2 == 1)) = true := by
      simp only [Bool.or_eq_true, decide_eq_true_eq, Bool.and_eq_true, beq_iff_eq]
      omega
    simp only [hup, if_true]
  · have hdown : (decide (den < 2 * r) || (2 * r == den && q % 2 == 1)) = false := by
      simp only [Bool.or_eq_false_iff, decide_eq_false_iff_not, Bool.and_eq_false_iff,
        beq_eq_false_iff_ne]
      omega
    simp only [hdown, Bool.false_eq_true, if_false]

/-! ### The leading bit -/

/-- A natural other than zero lies between two powers of two, the first one given by its logarithm.
-/
theorem log2_bounds {n : ℕ} (hn : n ≠ 0) :
    (2 : ℚ) ^ (n.log2 : ℤ) ≤ n ∧ (n : ℚ) < 2 ^ ((n.log2 : ℤ) + 1) := by
  have hlow := Nat.log2_self_le hn
  have hhigh := Nat.lt_log2_self (n := n)
  constructor
  · rw [zpow_natCast]
    exact_mod_cast hlow
  · have hsucc : ((n.log2 : ℤ) + 1) = ((n.log2 + 1 : ℕ) : ℤ) := by push_cast; rfl
    rw [hsucc, zpow_natCast]
    exact_mod_cast hhigh

theorem log_eq {v : ℚ} {b : ℤ} (hlow : 2 ^ b ≤ v) (hhigh : v < 2 ^ (b + 1)) :
    Int.log 2 v = b := by
  have hv : 0 < v := lt_of_lt_of_le (by positivity) hlow
  have hle : b ≤ Int.log 2 v :=
    (Int.zpow_le_iff_le_log (by norm_num) hv).1 (by exact_mod_cast hlow)
  have hlt : Int.log 2 v < b + 1 :=
    (Int.lt_zpow_iff_log_lt (by norm_num) hv).1 (by exact_mod_cast hhigh)
  omega

/-- The leading bit of a quotient is its binary logarithm. -/
theorem leadingBit_eq_log {num den : ℕ} (hnum : num ≠ 0) (hden : den ≠ 0) :
    leadingBit num den = Int.log 2 ((num : ℚ) / den) := by
  have hd : (0 : ℚ) < den := by exact_mod_cast Nat.pos_of_ne_zero hden
  obtain ⟨hnlow, hnhigh⟩ := log2_bounds hnum
  obtain ⟨hdlow, hdhigh⟩ := log2_bounds hden
  unfold leadingBit
  simp only
  set b : ℤ := (num.log2 : ℤ) - den.log2 with hb
  -- the difference of the logarithms is the logarithm of the quotient, or one too large
  have hbelow : (2 : ℚ) ^ (b - 1) ≤ num / den := by
    rw [le_div_iff₀ hd]
    calc (2 : ℚ) ^ (b - 1) * den ≤ 2 ^ (b - 1) * 2 ^ ((den.log2 : ℤ) + 1) := by gcongr
      _ = 2 ^ (num.log2 : ℤ) := by rw [← zpow_add₀ (by norm_num)]; congr 1; omega
      _ ≤ num := hnlow
  have habove : (num : ℚ) / den < 2 ^ (b + 1) := by
    rw [div_lt_iff₀ hd]
    calc (num : ℚ) < 2 ^ ((num.log2 : ℤ) + 1) := hnhigh
      _ = 2 ^ (b + 1) * 2 ^ (den.log2 : ℤ) := by
        rw [← zpow_add₀ (by norm_num)]; congr 1; omega
      _ ≤ 2 ^ (b + 1) * den := by gcongr
  have hiff : den * Nat.pow 2 b.toNat ≤ num * Nat.pow 2 (-b).toNat ↔
      (2 : ℚ) ^ b ≤ num / den := by
    have hscaled : (0 : ℚ) < ((den * Nat.pow 2 b.toNat : ℕ) : ℚ) := by
      exact_mod_cast Nat.mul_pos (Nat.pos_of_ne_zero hden) (Nat.pow_pos (by decide))
    have hpow : (0 : ℚ) < 2 ^ b := by positivity
    rw [← one_le_div hpow, ← scaled_div, one_le_div hscaled, Nat.cast_le]
  split
  · rename_i hle
    exact (log_eq (hiff.1 hle) habove).symm
  · rename_i hlt
    have hsmall : (num : ℚ) / den < 2 ^ b := lt_of_not_ge fun h => hlt (hiff.2 h)
    have hb' : b - 1 + 1 = b := by omega
    exact (log_eq hbelow (by rwa [hb'])).symm

/-! ### The nearest double -/

/-- The exponent at which a number is rounded. -/
def roundingExponent (v : ℚ) : ℤ := max (Int.log 2 v - 52) (-1074)

section

variable {num den m : ℕ} {q : ℤ}

/-- A quotient is rounded at its exponent to a significand, which is carried over if it has a bit
too many. -/
theorem nearest?_eq_carry (negative : Bool) (hnum : num ≠ 0) (hden : den ≠ 0)
    (hq : roundingExponent ((num : ℚ) / den) = q) (hm : RoundsTo ((num : ℚ) / den / 2 ^ q) m) :
    nearest? negative num den =
      let (m, q) := if m = Nat.pow 2 53 then (Nat.pow 2 52, q + 1) else (m, q)
      if h : Normal m q then some ⟨negative, m, q, h⟩ else none := by
  have hscaled : 0 < den * Nat.pow 2 q.toNat :=
    Nat.mul_pos (Nat.pos_of_ne_zero hden) (Nat.pow_pos (by decide))
  rw [← scaled_div] at hm
  rw [roundingExponent, ← leadingBit_eq_log hnum hden] at hq
  unfold nearest?
  rw [if_neg hnum]
  simp only [hq, roundHalfEven_of_roundsTo hscaled hm]

end

/-- Whether a number lies so close around the size of a double that it is rounded to it: at most
half of the gap to the next larger double away, and below a power of two, where the gap is half as
wide, at most a quarter of it. -/
def Covers (x : Binary64) (v : ℚ) : Prop :=
  RoundsTo (v / 2 ^ x.exponent) x.significand ∧
    (x.significand = 2 ^ 52 → x.exponent ≠ -1074 → 2 ^ 52 - 1 / 4 ≤ v / 2 ^ x.exponent)

variable {x : Binary64} {v : ℚ}

theorem Covers.bounds (h : x.Covers v) :
    (x.significand : ℚ) - 1 / 2 ≤ v / 2 ^ x.exponent ∧
      v / 2 ^ x.exponent ≤ x.significand + 1 / 2 := by
  have hle := abs_le.1 h.1.le
  exact ⟨by linarith [hle.1], by linarith [hle.2]⟩

/-- What a double covers is below the second power of two from its own. -/
theorem Covers.lt (h : x.Covers v) : v < 2 ^ (x.exponent + 53) := by
  have hm : (x.significand : ℚ) + 1 ≤ 2 ^ 53 := by exact_mod_cast x.normal.1
  have hpow : (0 : ℚ) < 2 ^ x.exponent := by positivity
  have ht : v / 2 ^ x.exponent < 2 ^ 53 := by linarith [h.bounds.2]
  rw [div_lt_iff₀ hpow] at ht
  rw [zpow_add₀ (by norm_num), mul_comm]
  exact_mod_cast ht

/-- What a double covers that is not zero is at least half of the least double. -/
theorem Covers.le (h : x.Covers v) (hx : x.significand ≠ 0) : 2 ^ (x.exponent - 1) ≤ v := by
  have hm : (1 : ℚ) ≤ x.significand := by exact_mod_cast Nat.pos_of_ne_zero hx
  have hpow : (0 : ℚ) < 2 ^ x.exponent := by positivity
  have ht : 1 / 2 ≤ v / 2 ^ x.exponent := by linarith [h.bounds.1]
  rw [le_div_iff₀ hpow] at ht
  rw [zpow_sub_one₀ (by norm_num), mul_comm]
  linarith

/-- What a double covers is rounded at its exponent, unless it is below the power of two. -/
theorem Covers.roundingExponent_eq (h : x.Covers v) (hx : x.significand ≠ 0)
    (hlow : 2 ^ (x.exponent + 52) ≤ v ∨ x.exponent = -1074) :
    roundingExponent v = x.exponent := by
  have hv : 0 < v := lt_of_lt_of_le (by positivity) (h.le hx)
  have hlt : Int.log 2 v < x.exponent + 53 :=
    (Int.lt_zpow_iff_log_lt (by norm_num) hv).1 (by exact_mod_cast h.lt)
  have hmin := x.normal.2.1
  unfold roundingExponent
  rcases hlow with hle | hsub
  · have hlog : x.exponent + 52 ≤ Int.log 2 v :=
      (Int.zpow_le_iff_le_log (by norm_num) hv).1 (by exact_mod_cast hle)
    omega
  · omega

/-- What a double covers below the power of two is rounded at the next exponent, to the double of
its significand. -/
theorem Covers.of_lt (h : x.Covers v) (hlt : v < 2 ^ (x.exponent + 52)) (he : x.exponent ≠ -1074) :
    x.significand = 2 ^ 52 ∧ roundingExponent v = x.exponent - 1 ∧
      RoundsTo (v / 2 ^ (x.exponent - 1)) (2 ^ 53) := by
  have hpow : (0 : ℚ) < 2 ^ x.exponent := by positivity
  have ht : v / 2 ^ x.exponent < 2 ^ 52 := by
    rw [div_lt_iff₀ hpow, mul_comm]
    rw [zpow_add₀ (by norm_num)] at hlt
    exact_mod_cast hlt
  have hmin := x.normal.2.1
  have hfull : 2 ^ 52 ≤ x.significand := by
    rcases x.normal.2.2.2 with hfull | hsub
    · exact hfull
    · exact absurd hsub he
  -- the least significand of its exponent is the only one with a half below it
  have hm : x.significand = 2 ^ 52 := by
    have hclose : (x.significand : ℚ) < 2 ^ 52 + 1 := by linarith [h.bounds.1]
    have hless : x.significand < 2 ^ 52 + 1 := by exact_mod_cast hclose
    omega
  have hquarter := h.2 hm he
  refine ⟨hm, ?_, ?_⟩
  · have hlog : Int.log 2 v = x.exponent + 51 := by
      apply log_eq
      · have hhalf : (2 : ℚ) ^ 51 ≤ v / 2 ^ x.exponent := by linarith
        rw [le_div_iff₀ hpow] at hhalf
        rw [zpow_add₀ (by norm_num), mul_comm]
        exact_mod_cast hhalf
      · rwa [show x.exponent + 51 + 1 = x.exponent + 52 by omega]
    unfold roundingExponent
    omega
  · have hdouble : v / 2 ^ (x.exponent - 1) = 2 * (v / 2 ^ x.exponent) := by
      rw [zpow_sub_one₀ (by norm_num)]
      field_simp
    rw [RoundsTo, if_pos (by norm_num), hdouble, abs_le]
    push_cast
    exact ⟨by linarith, by linarith⟩

/-- A quotient that a double covers is rounded to it. -/
theorem nearest?_of_covers {num den : ℕ} (hden : den ≠ 0) (hx : x.significand ≠ 0)
    (h : x.Covers ((num : ℚ) / den)) : nearest? x.negative num den = some x := by
  have hnum : num ≠ 0 := by
    rintro rfl
    have hle := h.le hx
    rw [Nat.cast_zero, zero_div] at hle
    exact absurd hle (not_le.2 (by positivity))
  by_cases hlow : 2 ^ (x.exponent + 52) ≤ (num : ℚ) / den ∨ x.exponent = -1074
  · have hcarry := nearest?_eq_carry x.negative hnum hden (h.roundingExponent_eq hx hlow) h.1
    have hm : x.significand ≠ Nat.pow 2 53 := Nat.ne_of_lt x.normal.1
    rw [hcarry, if_neg hm]
    exact dif_pos x.normal
  · obtain ⟨hlt, he⟩ := not_or.1 hlow
    obtain ⟨hm, hq, hround⟩ := h.of_lt (not_le.1 hlt) he
    have hcarry := nearest?_eq_carry x.negative hnum hden hq hround
    have hexp : x.exponent - 1 + 1 = x.exponent := by omega
    rw [hcarry, if_pos Nat.pow_eq.symm, hexp]
    obtain ⟨negative, m, e, hnormal⟩ := x
    obtain rfl : m = Nat.pow 2 52 := hm
    exact dif_pos hnormal

/-! ### Decimals -/

/-- A power of ten is at least the power of eight with its exponent. -/
theorem two_zpow_le_ten_zpow {e : ℤ} (he : 0 ≤ e) : (2 : ℚ) ^ (3 * e) ≤ 10 ^ e := by
  obtain ⟨n, rfl⟩ := Int.eq_ofNat_of_zero_le he
  rw [zpow_mul, zpow_natCast, zpow_natCast]
  gcongr
  norm_num

/-- Below one, a power of ten is at most the power of eight. -/
theorem ten_zpow_le_two_zpow {e : ℤ} (he : e ≤ 0) : (10 : ℚ) ^ e ≤ 2 ^ (3 * e) := by
  have hinv := two_zpow_le_ten_zpow (e := -e) (by omega)
  rw [show 3 * -e = -(3 * e) by omega, zpow_neg, zpow_neg] at hinv
  exact (inv_le_inv₀ (by positivity) (by positivity)).1 hinv

/-- A decimal that a double covers is not too large to be looked at. -/
theorem Covers.exponent_le {digits : ℕ} {exponent : ℤ} (h : x.Covers (digits * 10 ^ exponent))
    (hd : digits ≠ 0) : exponent ≤ 400 := by
  by_contra hlarge
  have hone : (1 : ℚ) ≤ digits := by exact_mod_cast Nat.pos_of_ne_zero hd
  have hmax := x.normal.2.2.1
  have hbound : (2 : ℚ) ^ (3 * exponent) < 2 ^ (x.exponent + 53) :=
    calc (2 : ℚ) ^ (3 * exponent) ≤ 10 ^ exponent := two_zpow_le_ten_zpow (by omega)
      _ ≤ digits * 10 ^ exponent := le_mul_of_one_le_left (by positivity) hone
      _ < 2 ^ (x.exponent + 53) := h.lt
  have hlt := (zpow_lt_zpow_iff_right₀ (by norm_num)).1 hbound
  omega

/-- A decimal that a double other than zero covers is not too small to be looked at. -/
theorem Covers.le_exponent {digits : ℕ} {exponent : ℤ} (h : x.Covers (digits * 10 ^ exponent))
    (hx : x.significand ≠ 0) (hd : digits ≠ 0) : -(400 + digits.log2 : ℤ) ≤ exponent := by
  by_contra hsmall
  have hmin := x.normal.2.1
  have hbound : (2 : ℚ) ^ (x.exponent - 1) < 2 ^ ((digits.log2 : ℤ) + 1 + 3 * exponent) :=
    calc (2 : ℚ) ^ (x.exponent - 1) ≤ digits * 10 ^ exponent := h.le hx
      _ < 2 ^ ((digits.log2 : ℤ) + 1) * 10 ^ exponent := by
          gcongr
          exact (log2_bounds hd).2
      _ ≤ 2 ^ ((digits.log2 : ℤ) + 1) * 2 ^ (3 * exponent) := by
          gcongr
          exact ten_zpow_le_two_zpow (by omega)
      _ = 2 ^ ((digits.log2 : ℤ) + 1 + 3 * exponent) := (zpow_add₀ (by norm_num) _ _).symm
  have hlt := (zpow_lt_zpow_iff_right₀ (by norm_num)).1 hbound
  omega

/-- A decimal that a double covers is rounded to it. -/
theorem ofDecimal?_of_covers {digits : ℕ} {exponent : ℤ} (hx : x.significand ≠ 0)
    (h : x.Covers (digits * 10 ^ exponent)) : ofDecimal? x.negative digits exponent = some x := by
  have hd : digits ≠ 0 := by
    rintro rfl
    have hle := h.le hx
    rw [Nat.cast_zero, zero_mul] at hle
    exact absurd hle (not_le.2 (by positivity))
  have hvalue : (digits : ℚ) * 10 ^ exponent =
      ((digits * Nat.pow 10 exponent.toNat : ℕ) : ℚ) /
        ((Nat.pow 10 (-exponent).toNat : ℕ) : ℚ) := by
    have hpow := zpow_mul_pow_toNat (a := 10) (by norm_num) exponent
    have hneg : (10 : ℚ) ^ (-exponent).toNat ≠ 0 := by positivity
    simp only [Nat.pow_eq, Nat.cast_mul, Nat.cast_pow, Nat.cast_ofNat]
    rw [← hpow]
    field_simp
  have hlarge := h.exponent_le hd
  have hsmall := h.le_exponent hx hd
  rw [hvalue] at h
  rw [ofDecimal?, if_neg hd, if_neg (by omega), if_neg (by omega)]
  exact nearest?_of_covers (Nat.ne_of_gt (Nat.pow_pos (by decide))) hx h

end ChannelConsole.Binary64
