import ChannelConsole.Binary64.Basic
import ChannelConsole.Text.Digits

/-!
# The shortest decimal text of a double

A double is written with the fewest significant digits that read back as the same double; among
those, with the digits nearest to it. The digits are found by exact arithmetic. Where the point and
the exponent are put is a matter of layout and is described by a record.

## Main definitions

* `Binary64.readsBack`: whether a decimal lies among the numbers that round to a double.
* `Binary64.shortest`: the digits and the power of ten of the shortest such decimal.
* `Binary64.Layout`: where positional notation ends and how exponents are written.
* `Binary64.chars`: the text of a double in a layout.

## Main statements

* `Binary64.readsBack_of_candidate?`: what the search for `n` digits finds reads back.
-/

namespace ChannelConsole.Binary64

open CodePoint (char)

/-- A non-negative decimal number, `digits * 10 ^ exponent`. -/
structure Decimal where
  digits : Nat
  exponent : Int
deriving DecidableEq

/-! ### The numbers that round to a double -/

/-- Compare `a * 10 ^ i` with `n * 2 ^ j`. -/
def compareScaled (a : Nat) (i : Int) (n : Nat) (j : Int) : Ordering :=
  compare (a * Nat.pow 10 i.toNat * Nat.pow 2 (-j).toNat)
    (n * Nat.pow 2 j.toNat * Nat.pow 10 (-i).toNat)

/-- Whether the gap to the next smaller double is half of the gap to the next larger one, which is
so at the powers of two that are not subnormal. -/
def narrowBelow (x : Binary64) : Bool := x.significand == Nat.pow 2 52 && x.exponent != -1074

/-- Whether a decimal rounds to the size of `x`: it lies between the two halfway points around it,
these included when the significand of `x` is even. -/
def readsBack (x : Binary64) (d : Decimal) : Bool :=
  let low := if x.narrowBelow then 4 * x.significand - 1 else 4 * x.significand - 2
  let high := 4 * x.significand + 2
  let closed := x.significand % 2 == 0
  let l := compareScaled d.digits d.exponent low (x.exponent - 2)
  let h := compareScaled d.digits d.exponent high (x.exponent - 2)
  (l == .gt || (closed && l == .eq)) && (h == .lt || (closed && h == .eq))

/-! ### The search -/

/-- The least `k` such that the size of `x` is below `10 ^ k`, for an `x` that is not zero: an
estimate from the binary logarithm, corrected upwards. -/
def decimalScale (x : Binary64) : Int :=
  let bits : Int := x.significand.log2 + x.exponent
  let k := bits * 30103 / 100000
  let below (k : Int) : Bool := compareScaled 1 k x.significand x.exponent == .gt
  if below k then k else if below (k + 1) then k + 1 else k + 2

/-- The size of `x` cut down to the grid of the multiples of `10 ^ g`, in units of the grid. -/
def floorAt (x : Binary64) (g : Int) : Nat :=
  (x.significand * Nat.pow 2 x.exponent.toNat * Nat.pow 10 (-g).toNat) /
    (Nat.pow 2 (-x.exponent).toNat * Nat.pow 10 g.toNat)

/-- Compare the size of `x` with the middle between `n` and `n + 1` on the grid of the multiples of
`10 ^ g`. -/
def compareMiddle (x : Binary64) (g : Int) (n : Nat) : Ordering :=
  compare (2 * (x.significand * Nat.pow 2 x.exponent.toNat * Nat.pow 10 (-g).toNat))
    ((2 * n + 1) * (Nat.pow 2 (-x.exponent).toNat * Nat.pow 10 g.toNat))

/-- The better of the two neighbours of `x` on the grid of the multiples of `10 ^ g`, if one of
them reads back: the nearer one, and of two equally near ones the even one. -/
def candidate? (x : Binary64) (g : Int) : Option Decimal :=
  let n := x.floorAt g
  let below : Decimal := ⟨n, g⟩
  let above : Decimal := ⟨n + 1, g⟩
  if x.readsBack below then
    if x.readsBack above then
      match x.compareMiddle g n with
      | .lt => some below
      | .gt => some above
      | .eq => some (if n % 2 == 0 then below else above)
    else some below
  else if x.readsBack above then some above
  else none

/-- What the search finds on a grid reads back. -/
theorem readsBack_of_candidate? {x : Binary64} {g : Int} {d : Decimal}
    (h : x.candidate? g = some d) : x.readsBack d = true := by
  unfold candidate? at h
  grind

/-- A decimal without zeros at the end of its digits. -/
def dropZeros : Nat → Decimal → Decimal
  | 0, d => d
  | fuel + 1, d =>
    if d.digits != 0 && d.digits % 10 == 0 then dropZeros fuel ⟨d.digits / 10, d.exponent + 1⟩
    else d

/-- The exact decimal value of the size of a double. -/
def exactDecimal (x : Binary64) : Decimal :=
  if 0 ≤ x.exponent then ⟨x.significand * Nat.pow 2 x.exponent.toNat, 0⟩
  else ⟨x.significand * Nat.pow 5 (-x.exponent).toNat, x.exponent⟩

/-- The decimal with the fewest digits that reads back as the size of a double that is not zero;
among those of this length, the nearest one. -/
def shortest (x : Binary64) : Decimal :=
  let k := x.decimalScale
  let found := (List.range 17).findSome? fun (i : Nat) => x.candidate? (k - 1 - i)
  dropZeros 20 (found.getD x.exactDecimal)

/-! ### Layout -/

/-- How the digits of a number are laid out. Exponents are those of the leading digit. -/
structure Layout where
  /-- the least exponent that is written positionally -/
  plainFrom : Int
  /-- the first exponent above that is not -/
  plainBelow : Int
  /-- the least number of digits of a written exponent -/
  exponentWidth : Nat

/-- Zeros, `n` of them. -/
def zeros (n : Nat) : List CodePoint := List.replicate n '0'

/-- The digits `ds`, with the leading one at exponent `e`, in positional notation. There is always
at least one digit on either side of the point. -/
def positional (ds : List CodePoint) (e : Int) : List CodePoint :=
  if e < 0 then '0' :: '.' :: (zeros (-e - 1).toNat ++ ds)
  else
    let whole := e.toNat + 1
    if ds.length ≤ whole then ds ++ zeros (whole - ds.length) ++ [char '.', '0']
    else ds.take whole ++ char '.' :: ds.drop whole

/-- The exponent of a number in scientific notation, with its sign; a plus is written too. -/
def exponentChars (width : Nat) (e : Int) : List CodePoint :=
  let ds := Text.ofNat e.natAbs
  (if e < 0 then '-' else '+') :: (zeros (width - ds.length) ++ ds)

/-- The digits `ds`, with the leading one at exponent `e`, in scientific notation. -/
def scientific (width : Nat) (ds : List CodePoint) (e : Int) : List CodePoint :=
  match ds with
  | [] => []
  | [d] => d :: 'e' :: exponentChars width e
  | d :: r => d :: '.' :: (r ++ char 'e' :: exponentChars width e)

/-- The text of a double in a layout. -/
def chars (layout : Layout) (x : Binary64) : List CodePoint :=
  let sign : List CodePoint := if x.negative then ['-'] else []
  if x.isZero then sign ++ [char '0', '.', '0']
  else
    let d := x.shortest
    let ds := Text.ofNat d.digits
    let e := d.exponent + ds.length - 1
    sign ++
      if layout.plainFrom ≤ e ∧ e < layout.plainBelow then positional ds e
      else scientific layout.exponentWidth ds e

end ChannelConsole.Binary64
