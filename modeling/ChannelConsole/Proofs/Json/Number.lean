import ChannelConsole.Proofs.Binary64.Shortest
import ChannelConsole.Proofs.Json.Token

/-!
# Written doubles are read back

A double is written as its shortest decimal, positionally or with an exponent. Either way the number
that is read has the value of that decimal (`readsAs_positional`, `readsAs_scientific`), and so it
is rounded to the double (`scanNumber_chars`).

The value of a written number is known exactly (`Numeral.value`), before it is rounded.
-/

namespace ChannelConsole.Json

open Binary64 (Layout chars zeros positional scientific exponentChars withSign)
open CodePoint (char)

/-- The exact value of a written number. -/
def Numeral.value (n : Numeral) : ℚ := withSign n.negative (n.digits * 10 ^ n.exponent)

/-! ### Digits and zeros -/

theorem isDigit_of_mem_zeros {n : Nat} {c : CodePoint} (h : c ∈ zeros n) : isDigit c = true := by
  rw [List.eq_of_mem_replicate h]
  rfl

theorem foldl_numberOf (n : Nat) (ds : List CodePoint) :
    ds.foldl (fun n d => 10 * n + (d.toNat - '0'.toNat)) n =
      10 ^ ds.length * n + Text.numberOf ds := by
  induction ds generalizing n with
  | nil => simp [Text.numberOf]
  | cons d r ih =>
    rw [Text.numberOf, List.foldl_cons, List.foldl_cons, ih, ih, List.length_cons, pow_succ]
    ring

/-- Digits in front of others count for more, by a power of ten for each of those. -/
theorem numberOf_append (ds es : List CodePoint) :
    Text.numberOf (ds ++ es) = 10 ^ es.length * Text.numberOf ds + Text.numberOf es := by
  rw [Text.numberOf, List.foldl_append, foldl_numberOf, ← Text.numberOf]

theorem numberOf_zeros (n : Nat) : Text.numberOf (zeros n) = 0 := by
  induction n with
  | zero => rfl
  | succ n ih =>
    have hzeros : zeros (n + 1) = zeros n ++ [char '0'] := List.replicate_succ'
    rw [hzeros, numberOf_append, ih]
    rfl

theorem numberOf_zeros_append (n : Nat) (ds : List CodePoint) :
    Text.numberOf (zeros n ++ ds) = Text.numberOf ds := by
  rw [numberOf_append, numberOf_zeros, Nat.mul_zero, Nat.zero_add]

theorem numberOf_append_zeros (ds : List CodePoint) (n : Nat) :
    Text.numberOf (ds ++ zeros n) = 10 ^ n * Text.numberOf ds := by
  rw [numberOf_append, numberOf_zeros, Nat.add_zero, zeros, List.length_replicate]

/-- Digits that do not begin with a zero may stand in front of the point. -/
theorem isWhole_of_ne_zero {c : CodePoint} {s : List CodePoint} (hzero : c ≠ '0')
    (h : ∀ d ∈ c :: s, isDigit d = true) : IsWhole (c :: s) where
  ne_nil := List.cons_ne_nil c s
  isDigit := h
  head _ hr := absurd (List.cons.inj hr).1 hzero

/-! ### Fractions and exponents -/

theorem scanFraction_point {fs k : List CodePoint} (hne : fs ≠ [])
    (hfs : ∀ c ∈ fs, isDigit c = true)
    (hk : EndsDigits k) : scanFraction ('.' :: (fs ++ k)) = (fs, k) := by
  obtain ⟨c, s, rfl⟩ := List.exists_cons_of_ne_nil hne
  rw [List.cons_append, scanFraction, if_pos (hfs c List.mem_cons_self)]
  exact span_isDigit hfs hk

theorem scanExponent_exponentChars (width : Nat) (e : Int) {k : List CodePoint}
    (hk : EndsDigits k) :
    scanExponent ('e' :: (exponentChars width e ++ k)) = (some e, k) := by
  have hdigits : ∀ c ∈ zeros (width - (Text.ofNat e.natAbs).length) ++ Text.ofNat e.natAbs,
      isDigit c = true := by
    intro c hc
    rcases List.mem_append.1 hc with hc | hc
    · exact isDigit_of_mem_zeros hc
    · exact isDigit_of_mem_ofNat hc
  have hsplit : Text.splitSign (exponentChars width e ++ k) = (decide (e < 0),
      zeros (width - (Text.ofNat e.natAbs).length) ++ Text.ofNat e.natAbs ++ k) := by
    unfold exponentChars
    by_cases he : e < 0
    · simp [he, Text.splitSign]
    · simp [he, Text.splitSign]
  have hvalue := numberOf_zeros_append (width - (Text.ofNat e.natAbs).length)
    (Text.ofNat e.natAbs)
  rw [scanExponent, if_pos (.inl rfl), hsplit]
  simp only [span_isDigit hdigits hk]
  -- the digits are not missing, since the size of an exponent has one
  split
  · rename_i h
    have hnil := (List.append_eq_nil_iff.1 (Prod.mk.inj h).1).2
    exact absurd hnil (Text.ofNat_ne_nil _)
  · rename_i h
    obtain ⟨rfl, rfl⟩ := Prod.mk.inj h
    rw [hvalue, Text.numberOf_ofNat, signed_natAbs]

/-! ### Numbers with a point or an exponent -/

/-- Whether characters are read as a number of that size that is no integer, whatever sign stands in
front of them and whatever follows the number. -/
def ReadsAs (cs : List CodePoint) (size : ℚ) : Prop :=
  ∀ (reading : Reading) (negative : Bool) (k : List CodePoint), EndsNumber k →
    ∃ n : Numeral, scanNumber reading (sign negative ++ (cs ++ k)) = .ok (n, k) ∧
      n.negative = negative ∧ n.whole = false ∧ (n.digits : ℚ) * 10 ^ n.exponent = size

section

variable {ds fs : List CodePoint}

theorem readsAs_point (hds : IsWhole ds) (hne : fs ≠ []) (hfs : ∀ c ∈ fs, isDigit c = true) :
    ReadsAs (ds ++ char '.' :: fs)
      (Text.numberOf (ds ++ fs) * 10 ^ (-(fs.length : ℤ))) := by
  intro reading negative k hk
  have hwhole : (fs.isEmpty && (none : Option Int).isNone) = false := by simp [hne]
  have hscan := scanNumber_of_parts reading negative hds
    (endsDigits_cons (by decide) (fs ++ k)) (scanFraction_point hne hfs hk.endsDigits)
    (scanExponent_of_endsNumber hk) fun h => absurd h (by simp [hne])
  refine ⟨_, by rw [List.append_assoc]; exact hscan, rfl, hwhole, ?_⟩
  simp

theorem readsAs_exponent (hds : IsWhole ds) (width : Nat) (e : Int) :
    ReadsAs (ds ++ char 'e' :: exponentChars width e) (Text.numberOf ds * 10 ^ e) := by
  intro reading negative k hk
  have hfraction : scanFraction ('e' :: (exponentChars width e ++ k)) =
      ([], char 'e' :: (exponentChars width e ++ k)) := rfl
  have hscan := scanNumber_of_parts reading negative hds
    (endsDigits_cons (by decide) (exponentChars width e ++ k)) hfraction
    (scanExponent_exponentChars width e hk.endsDigits) fun h => absurd h (by simp)
  refine ⟨_, by rw [List.append_assoc]; exact hscan, rfl, rfl, ?_⟩
  simp

theorem readsAs_point_exponent (hds : IsWhole ds) (hne : fs ≠ [])
    (hfs : ∀ c ∈ fs, isDigit c = true) (width : Nat) (e : Int) :
    ReadsAs (ds ++ char '.' :: (fs ++ char 'e' :: exponentChars width e))
      (Text.numberOf (ds ++ fs) * 10 ^ (e - fs.length)) := by
  intro reading negative k hk
  have hfraction := scanFraction_point hne hfs
    (endsDigits_cons (by decide : isDigit 'e' = false) (exponentChars width e ++ k))
  have hscan := scanNumber_of_parts reading negative hds
    (endsDigits_cons (by decide) (fs ++ char 'e' :: (exponentChars width e ++ k)))
    hfraction
    (scanExponent_exponentChars width e hk.endsDigits) fun h => absurd h (by simp)
  refine ⟨_, by simpa using hscan, rfl, by simp, by simp⟩

end

section

variable {c : CodePoint} {s : List CodePoint} (hzero : c ≠ '0')
    (hs : ∀ d ∈ c :: s, isDigit d = true)

include hs in
/-- Below one, zeros stand between the point and the digits. -/
theorem readsAs_zeros_digits (n : ℕ) :
    ReadsAs ('0' :: '.' :: (zeros n ++ c :: s))
      (Text.numberOf (c :: s) * 10 ^ (-(n + s.length + 1 : ℤ))) := by
  have hfs : ∀ d ∈ zeros n ++ c :: s, isDigit d = true := by
    intro d hd
    rcases List.mem_append.1 hd with hd | hd
    · exact isDigit_of_mem_zeros hd
    · exact hs d hd
  have hvalue :
      Text.numberOf ([char '0'] ++ (zeros n ++ c :: s)) = Text.numberOf (c :: s) :=
    numberOf_zeros_append (n + 1) (c :: s)
  have hlength : ((zeros n ++ c :: s).length : ℤ) = n + s.length + 1 := by
    simp [zeros, add_assoc]
  have hread := readsAs_point (isWhole_ofNat 0) (by simp) hfs
  rw [show Text.ofNat 0 = [char '0'] from rfl, hvalue, hlength] at hread
  exact hread

include hzero hs in
/-- Zeros stand between the digits and the point if there are too few of them. -/
theorem readsAs_digits_zeros (n : ℕ) :
    ReadsAs (c :: s ++ zeros n ++ [char '.', '0']) (Text.numberOf (c :: s) * 10 ^ n) := by
  have hds : ∀ d ∈ c :: (s ++ zeros n), isDigit d = true := by
    intro d hd
    rw [← List.cons_append] at hd
    rcases List.mem_append.1 hd with hd | hd
    · exact hs d hd
    · exact isDigit_of_mem_zeros hd
  have hvalue :
      Text.numberOf (c :: (s ++ zeros n) ++ [char '0']) =
        10 ^ (n + 1) * Text.numberOf (c :: s) := by
    have hzeros : c :: (s ++ zeros n) ++ [char '0'] = c :: s ++ zeros (n + 1) := by
      simp [zeros, List.replicate_succ']
    rw [hzeros, numberOf_append_zeros]
  have hread := readsAs_point (isWhole_of_ne_zero hzero hds) (List.cons_ne_nil (.char '0') [])
    (by simp [isDigit])
  have hpow :
      ((10 ^ (n + 1) * Text.numberOf (c :: s) : ℕ) : ℚ) * 10 ^ (-([char '0'].length : ℤ)) =
      Text.numberOf (c :: s) * 10 ^ n := by
    simp only [List.length_singleton, Nat.cast_one, zpow_neg_one]
    push_cast
    ring
  rw [hvalue, hpow] at hread
  exact hread

include hzero hs in
/-- The point stands between the digits if there are enough of them. -/
theorem readsAs_digits_digits {n : ℕ} (hn : n < s.length) :
    ReadsAs (c :: s.take n ++ char '.' :: s.drop n)
      (Text.numberOf (c :: s) * 10 ^ ((n : ℤ) - s.length)) := by
  have hds : ∀ d ∈ c :: s.take n, isDigit d = true := by
    intro d hd
    rcases List.mem_cons.1 hd with rfl | hd
    · exact hs d List.mem_cons_self
    · exact hs d (List.mem_cons_of_mem c (List.mem_of_mem_take hd))
  have hfs : ∀ d ∈ s.drop n, isDigit d = true := fun d hd =>
    hs d (List.mem_cons_of_mem c (List.mem_of_mem_drop hd))
  have hne : s.drop n ≠ [] := by
    rw [Ne, List.drop_eq_nil_iff]
    omega
  have hvalue : Text.numberOf (c :: s.take n ++ s.drop n) = Text.numberOf (c :: s) := by
    rw [List.cons_append, List.take_append_drop]
  have hlength : -((s.drop n).length : ℤ) = n - s.length := by
    rw [List.length_drop]
    omega
  have hread := readsAs_point (isWhole_of_ne_zero hzero hds) hne hfs
  rw [hvalue, hlength] at hread
  exact hread

include hzero hs in
/-- Digits in positional notation are read as themselves with the exponent of the leading one. -/
theorem readsAs_positional (e : ℤ) :
    ReadsAs (positional (c :: s) e) (Text.numberOf (c :: s) * 10 ^ (e - s.length)) := by
  unfold positional
  split
  · rename_i he
    have hread := readsAs_zeros_digits hs (-e - 1).toNat
    rwa [show -(((-e - 1).toNat : ℤ) + s.length + 1) = e - s.length by omega] at hread
  rename_i he
  simp only
  split
  · rename_i hlen
    rw [List.length_cons] at hlen
    have hread := readsAs_digits_zeros hzero hs (e.toNat + 1 - (c :: s).length)
    rw [← zpow_natCast, List.length_cons,
      show ((e.toNat + 1 - (s.length + 1) : ℕ) : ℤ) = e - s.length by omega] at hread
    exact hread
  · rename_i hlen
    rw [List.length_cons] at hlen
    have hread := readsAs_digits_digits hzero hs (n := e.toNat) (by omega)
    rw [show (e.toNat : ℤ) = e by omega] at hread
    exact hread

include hzero hs in
/-- Digits in scientific notation are read as themselves with the exponent of the leading one. -/
theorem readsAs_scientific (width : ℕ) (e : ℤ) :
    ReadsAs (scientific width (c :: s) e) (Text.numberOf (c :: s) * 10 ^ (e - s.length)) := by
  have hwhole : IsWhole [c] := isWhole_of_ne_zero hzero fun d hd =>
    hs d (List.mem_cons.2 (.inl (List.mem_singleton.1 hd)))
  cases s with
  | nil =>
    have hread : ReadsAs (scientific width [c] e) (Text.numberOf [c] * 10 ^ e) :=
      readsAs_exponent hwhole width e
    rwa [List.length_nil, Nat.cast_zero, sub_zero]
  | cons d r =>
    have hfs : ∀ d' ∈ d :: r, isDigit d' = true := fun d' hd' => hs d' (List.mem_cons_of_mem c hd')
    exact readsAs_point_exponent hwhole (List.cons_ne_nil d r) hfs width e

end

/-! ### Doubles -/

section

variable (layout : Layout) (x : Binary64)

/-- A double is written as a zero, or as the digits of its shortest decimal in one of the two
notations. -/
theorem chars_cases :
    (x.isZero = true ∧ chars layout x = sign x.negative ++ [char '0', '.', '0']) ∨
    (x.isZero = false ∧ ∃ c s e, Text.ofNat x.shortest.digits = c :: s ∧
      e - s.length = x.shortest.exponent ∧
      (chars layout x = sign x.negative ++ positional (c :: s) e ∨
        chars layout x = sign x.negative ++ scientific layout.exponentWidth (c :: s) e)) := by
  unfold chars
  cases hx : x.isZero with
  | true => exact .inl ⟨rfl, rfl⟩
  | false =>
    obtain ⟨c, s, hd, -⟩ := ofNat_eq_cons x.shortest.digits
    refine .inr ⟨rfl, c, s, x.shortest.exponent + (c :: s).length - 1, hd, ?_, ?_⟩
    · rw [List.length_cons]
      omega
    · simp only [hd, Bool.false_eq_true, if_false]
      by_cases hplain : layout.plainFrom ≤ x.shortest.exponent + (c :: s).length - 1 ∧
          x.shortest.exponent + (c :: s).length - 1 < layout.plainBelow
      · exact .inl (congrArg _ (if_pos hplain))
      · exact .inr (congrArg _ (if_neg hplain))

/-- The digits of a double that is not zero begin with another digit than zero. -/
theorem ne_zero_of_digits_shortest {c : CodePoint} {s : List CodePoint} (hx : x.isZero = false)
    (hd : Text.ofNat x.shortest.digits = c :: s) : c ≠ '0' := by
  rintro rfl
  have hsig : x.significand ≠ 0 := by simpa [Binary64.isZero] using hx
  exact head_ofNat_ne_zero (Binary64.digits_shortest_ne_zero hsig) s hd

/-- A zero has the least exponent. -/
theorem eq_zero_of_isZero {x : Binary64} (hx : x.isZero = true) :
    x = Binary64.zero x.negative := by
  obtain ⟨negative, m, e, hnormal⟩ := x
  obtain rfl : m = 0 := by simpa [Binary64.isZero] using hx
  obtain rfl : e = -1074 := by
    rcases hnormal.2.2.2 with hfull | he
    · exact absurd hfull (by decide)
    · exact he
  rfl

/-- A written double is read back, up to what follows it. What is read has the value that the double
is written as. -/
theorem scanNumber_chars (reading : Reading) {k : List CodePoint} (hk : EndsNumber k) :
    ∃ n, scanNumber reading (chars layout x ++ k) = .ok (n, k) ∧
      n.toJson? reading = some (.float x) ∧ n.value = x.written := by
  rcases chars_cases layout x with ⟨hx, hchars⟩ | ⟨hx, c, s, e, hd, he, hchars⟩
  · -- a zero is read as a zero with the same sign
    have hwhole : IsWhole ['0'] := isWhole_ofNat 0
    obtain ⟨n, hscan, hneg, hn, hvalue⟩ := readsAs_point hwhole
      (List.cons_ne_nil (.char '0') []) (by simp [isDigit]) reading x.negative k hk
    have hdigits : n.digits = 0 := by
      have hten : (10 : ℚ) ^ n.exponent ≠ 0 := by positivity
      have hzero : Text.numberOf ([.char '0'] ++ [.char '0']) = 0 := rfl
      rw [hzero, Nat.cast_zero, zero_mul, mul_eq_zero] at hvalue
      exact_mod_cast hvalue.resolve_right hten
    refine ⟨n, by rw [hchars, List.append_assoc]; exact hscan, ?_, ?_⟩
    · rw [Numeral.toJson?, hn, hneg, Binary64.ofDecimal?, if_pos hdigits, ← eq_zero_of_isZero hx]
      rfl
    · rw [Numeral.value, hdigits, Nat.cast_zero, zero_mul, Binary64.written_of_isZero hx]
      exact Binary64.withSign_eq_zero_iff.2 rfl
  · have hzero := ne_zero_of_digits_shortest x hx hd
    have hdigits : ∀ d ∈ c :: s, isDigit d = true := by
      rw [← hd]
      exact fun d => isDigit_of_mem_ofNat
    -- in either notation the value of the shortest decimal is read
    have hread : ∃ cs, chars layout x = sign x.negative ++ cs ∧
        ReadsAs cs (Text.numberOf (c :: s) * 10 ^ (e - s.length)) := by
      rcases hchars with hchars | hchars
      · exact ⟨_, hchars, readsAs_positional hzero hdigits e⟩
      · exact ⟨_, hchars, readsAs_scientific hzero hdigits layout.exponentWidth e⟩
    obtain ⟨cs, hcs, hread⟩ := hread
    obtain ⟨n, hscan, hneg, hn, hvalue⟩ := hread reading x.negative k hk
    have hsig : x.significand ≠ 0 := by simpa [Binary64.isZero] using hx
    rw [← hd, Text.numberOf_ofNat, he] at hvalue
    refine ⟨n, by rw [hcs, List.append_assoc]; exact hscan, ?_, ?_⟩
    · rw [Numeral.toJson?, hn, hneg, Binary64.ofDecimal?_shortest hsig hvalue]
      rfl
    · rw [Numeral.value, hneg, hvalue, Binary64.written_of_ne_zero hsig, Binary64.Decimal.value]

/-- A written double begins like a number. -/
theorem beginsNumber_chars (k : List CodePoint) : BeginsNumber (chars layout x ++ k) := by
  rcases chars_cases layout x with ⟨-, hchars⟩ | ⟨-, c, s, e, hd, -, hchars⟩
  · rw [hchars, List.append_assoc]
    exact beginsNumber_sign _ (by decide) _
  · have hc : isDigit c = true := by
      apply isDigit_of_mem_ofNat (n := x.shortest.digits)
      rw [hd]
      exact List.mem_cons_self
    rcases hchars with hchars | hchars
    · rw [hchars, List.append_assoc]
      unfold positional
      split
      · exact beginsNumber_sign _ (by decide) _
      · simp only
        split
        · exact beginsNumber_sign _ hc _
        · exact beginsNumber_sign _ hc _
    · rw [hchars, List.append_assoc]
      cases s <;> exact beginsNumber_sign _ hc _

end

/-! ### Characters of numbers -/

/-- Whether a character may stand in a written number. -/
def InNumber (c : CodePoint) : Prop := isDigit c = true ∨ c ∈ [char '.', '-', '+', 'e']

theorem inNumber_of_mem_sign {negative : Bool} {c : CodePoint} (h : c ∈ sign negative) :
    InNumber c := by
  cases negative with
  | true =>
    obtain rfl := List.mem_singleton.1 h
    exact .inr (by decide)
  | false => exact absurd h List.not_mem_nil

section

variable {ds : List CodePoint} (hds : ∀ c ∈ ds, isDigit c = true)

include hds in
theorem inNumber_of_mem_positional {e : ℤ} {c : CodePoint} (h : c ∈ positional ds e) :
    InNumber c := by
  have hpoint : InNumber '.' := .inr (by decide)
  have hzero : InNumber '0' := .inl rfl
  have hdigit : ∀ d ∈ ds, InNumber d := fun d hd => .inl (hds d hd)
  unfold positional at h
  split at h
  · simp only [List.mem_cons, List.mem_append] at h
    rcases h with rfl | rfl | h | h
    · exact hzero
    · exact hpoint
    · exact .inl (isDigit_of_mem_zeros h)
    · exact hdigit c h
  simp only at h
  split at h
  · simp only [List.mem_append, List.mem_cons, List.not_mem_nil, or_false] at h
    rcases h with (h | h) | rfl | rfl
    · exact hdigit c h
    · exact .inl (isDigit_of_mem_zeros h)
    · exact hpoint
    · exact hzero
  · rcases List.mem_append.1 h with h | h
    · exact hdigit c (List.mem_of_mem_take h)
    · rcases List.mem_cons.1 h with rfl | h
      · exact hpoint
      · exact hdigit c (List.mem_of_mem_drop h)

theorem inNumber_of_mem_exponentChars {width : ℕ} {e : ℤ} {c : CodePoint}
    (h : c ∈ exponentChars width e) : InNumber c := by
  unfold exponentChars at h
  simp only [List.mem_cons, List.mem_append] at h
  rcases h with rfl | h | h
  · split <;> exact .inr (by decide)
  · exact .inl (isDigit_of_mem_zeros h)
  · exact .inl (isDigit_of_mem_ofNat h)

include hds in
theorem inNumber_of_mem_scientific {width : ℕ} {e : ℤ} {c : CodePoint}
    (h : c ∈ scientific width ds e) : InNumber c := by
  have hpoint : InNumber '.' := .inr (by decide)
  have hletter : InNumber 'e' := .inr (by decide)
  unfold scientific at h
  split at h
  · exact absurd h List.not_mem_nil
  · rcases List.mem_cons.1 h with rfl | h
    · exact .inl (hds c List.mem_cons_self)
    · rcases List.mem_cons.1 h with rfl | h
      · exact hletter
      · exact inNumber_of_mem_exponentChars h
  · simp only [List.mem_cons, List.mem_append] at h
    rcases h with rfl | rfl | h | rfl | h
    · exact .inl (hds c List.mem_cons_self)
    · exact hpoint
    · exact .inl (hds c (List.mem_cons_of_mem _ h))
    · exact hletter
    · exact inNumber_of_mem_exponentChars h

end

/-- A double is written with digits, points, signs and the letter of an exponent. -/
theorem inNumber_of_mem_chars {layout : Layout} {x : Binary64} {c : CodePoint}
    (h : c ∈ chars layout x) : InNumber c := by
  rcases chars_cases layout x with ⟨-, hchars⟩ | ⟨-, d, s, e, hd, -, hchars⟩
  · rw [hchars, List.mem_append] at h
    rcases h with h | h
    · exact inNumber_of_mem_sign h
    · simp only [List.mem_cons, List.not_mem_nil, or_false] at h
      rcases h with rfl | rfl | rfl
      · exact .inl rfl
      · exact .inr (by decide)
      · exact .inl rfl
  · have hdigits : ∀ c ∈ d :: s, isDigit c = true := by
      rw [← hd]
      exact fun c => isDigit_of_mem_ofNat
    rcases hchars with hchars | hchars
    · rw [hchars, List.mem_append] at h
      exact h.elim inNumber_of_mem_sign (inNumber_of_mem_positional hdigits)
    · rw [hchars, List.mem_append] at h
      exact h.elim inNumber_of_mem_sign (inNumber_of_mem_scientific hdigits)

end ChannelConsole.Json
