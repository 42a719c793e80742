/-!
# Finite double-precision numbers

A finite double is a sign, a significand below 2⁵³ and a power of two. The pair of significand and
exponent is normalised, so that two doubles are the same number with the same sign exactly when
they are equal as structures. Everything here is arithmetic on naturals and integers, which the
kernel can evaluate. The powers are written `Nat.pow`, which means the same whether or not the
powers of a monoid are imported.

## Main definitions

* `Binary64`: the finite doubles, zeros and subnormal numbers included.
* `Binary64.nearest?`: the double nearest to a quotient of naturals, ties to the even significand;
  there is none when the quotient is too large.
* `Binary64.wholePart`: the integer towards zero.

## Main statements

* `Binary64.significand_lt`: the significand has at most 53 bits.
* `Binary64.roundHalfEven_of_dvd`: rounding a whole quotient does nothing.
-/

namespace ChannelConsole

/-- The pairs of significand and exponent that stand for a double: at most 53 bits, an exponent the
format has, and all 53 bits used unless the exponent is the least one. -/
def Binary64.Normal (significand : Nat) (exponent : Int) : Prop :=
  significand < Nat.pow 2 53 ∧ -1074 ≤ exponent ∧ exponent ≤ 971 ∧
    (Nat.pow 2 52 ≤ significand ∨ exponent = -1074)

instance Binary64.decidableNormal (m : Nat) (q : Int) : Decidable (Binary64.Normal m q) := by
  unfold Binary64.Normal; infer_instance

/-- A finite double, `± significand * 2 ^ exponent`. -/
structure Binary64 where
  negative : Bool
  significand : Nat
  exponent : Int
  normal : Binary64.Normal significand exponent
deriving DecidableEq

namespace Binary64

theorem significand_lt (x : Binary64) : x.significand < Nat.pow 2 53 := x.normal.1

/-- Zero with a sign. -/
def zero (negative : Bool) : Binary64 := ⟨negative, 0, -1074, by decide⟩

/-- Whether the number is one of the two zeros. -/
def isZero (x : Binary64) : Bool := x.significand == 0

/-! ### Rounding -/

/-- The quotient of two naturals rounded to the nearest natural, a half to the even neighbour. -/
def roundHalfEven (num den : Nat) : Nat :=
  let q := num / den
  let r := num % den
  if den < 2 * r || (2 * r == den && q % 2 == 1) then q + 1 else q

/-- The exponent of the leading bit of a quotient of positive naturals: the greatest `b` such that
`2 ^ b` is at most the quotient. -/
def leadingBit (num den : Nat) : Int :=
  let b := (num.log2 : Int) - den.log2
  if den * Nat.pow 2 b.toNat ≤ num * Nat.pow 2 (-b).toNat then b else b - 1

/-- The double nearest to `num / den`, a tie to the even significand. There is none when the
rounded number needs an exponent that the format does not have. -/
def nearest? (negative : Bool) (num den : Nat) : Option Binary64 :=
  if num = 0 then some (zero negative)
  else
    let q := max (leadingBit num den - 52) (-1074)
    let m := roundHalfEven (num * Nat.pow 2 (-q).toNat) (den * Nat.pow 2 q.toNat)
    let (m, q) := if m = Nat.pow 2 53 then (Nat.pow 2 52, q + 1) else (m, q)
    if h : Normal m q then some ⟨negative, m, q, h⟩ else none

/-- The double nearest to `± digits * 10 ^ exponent`. An exponent far outside the range of the
format is decided without computing the power. -/
def ofDecimal? (negative : Bool) (digits : Nat) (exponent : Int) : Option Binary64 :=
  if digits = 0 then some (zero negative)
  else if 400 < exponent then none
  else if exponent < -(400 + digits.log2 : Int) then some (zero negative)
  else nearest? negative (digits * Nat.pow 10 exponent.toNat) (Nat.pow 10 (-exponent).toNat)

/-- Rounding a whole quotient does nothing. -/
theorem roundHalfEven_of_dvd {num den : Nat} (hpos : 0 < den) (h : den ∣ num) :
    roundHalfEven num den = num / den := by
  have hr : num % den = 0 := Nat.mod_eq_zero_of_dvd h
  have hne : (0 == den) = false := by
    rw [beq_eq_false_iff_ne]; omega
  simp [roundHalfEven, hr, hne]

/-! ### Comparing and truncating -/

/-- The number times 2¹⁰⁷⁴, which is an integer. -/
def scaled (x : Binary64) : Int :=
  let n : Int := (x.significand * Nat.pow 2 (x.exponent + 1074).toNat : Nat)
  if x.negative then -n else n

/-- The integer next to the number on the side of zero. -/
def wholePart (x : Binary64) : Int :=
  let n : Int :=
    (x.significand * Nat.pow 2 x.exponent.toNat / Nat.pow 2 (-x.exponent).toNat : Nat)
  if x.negative then -n else n

/-- Whether the number is an integer. -/
def isWhole (x : Binary64) : Bool :=
  x.significand * Nat.pow 2 x.exponent.toNat % Nat.pow 2 (-x.exponent).toNat == 0

end Binary64

end ChannelConsole
