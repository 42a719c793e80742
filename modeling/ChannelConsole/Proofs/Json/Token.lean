import ChannelConsole.Json.Reader
import ChannelConsole.Json.Printer
import Mathlib.Data.List.TakeDrop

/-!
# Written numbers and texts are read back

The two kinds of tokens that a written JSON text is made of, each in front of whatever follows it:
`scanNumber_intChars` for integers and `scanText_writeString` for quoted texts. Any other number is
read part by part as well (`scanNumber_of_parts`). A number has to be followed by something that
does not belong to it (`EndsNumber`); behind a quoted text nothing matters, since its closing quote
ends it.
-/

namespace ChannelConsole.Json

open CodePoint (char)

/-! ### Digits -/

theorem isDigit_of_mem_ofNat {n : Nat} {c : CodePoint} (h : c ∈ Text.ofNat n) :
    isDigit c = true := by
  obtain ⟨d, rfl, hd⟩ := Text.exists_isDigit_of_mem_ofNat h
  simpa [Char.isDigit, isDigit, CodePoint.le_def, UInt32.le_iff_toNat_le] using hd

/-- The code points of the digits. -/
theorem toNat_of_isDigit {c : CodePoint} (h : isDigit c = true) : 48 ≤ c.toNat ∧ c.toNat ≤ 57 := by
  simpa [isDigit, CodePoint.le_def] using h

/-- A written number begins with a digit. -/
theorem ofNat_eq_cons (n : Nat) : ∃ c s, Text.ofNat n = c :: s ∧ isDigit c = true := by
  obtain ⟨c, s, hd⟩ := List.exists_cons_of_ne_nil (Text.ofNat_ne_nil n)
  refine ⟨c, s, hd, isDigit_of_mem_ofNat (n := n) ?_⟩
  rw [hd]
  exact List.mem_cons_self

/-- A number other than zero does not begin with a zero. -/
theorem head_ofNat_ne_zero {n : Nat} (h : n ≠ 0) (r : List CodePoint) :
    Text.ofNat n ≠ char '0' :: r := by
  induction n using Nat.strongRecOn generalizing r with
  | _ n ih =>
    unfold Text.ofNat
    by_cases hlt : n < 10
    · rw [Nat.toDigits_of_lt_base hlt]
      intro he
      have hd : n.digitChar = '0' := CodePoint.char.inj (List.cons.inj he).1
      have : ∀ m < 10, m.digitChar = '0' → m = 0 := by decide
      exact h (this n hlt hd)
    · -- the first digit is that of the number without its last digit
      rw [Nat.toDigits_of_base_le (by decide) (by omega)]
      intro he
      cases hq : Nat.toDigits 10 (n / 10) with
      | nil => exact Nat.toDigits_ne_nil hq
      | cons c s =>
        rw [hq, List.cons_append] at he
        obtain rfl : c = '0' := CodePoint.char.inj (List.cons.inj he).1
        have hfront : Text.ofNat (n / 10) = char '0' :: s.map char := by
          rw [Text.ofNat, hq, List.map_cons]
        exact ih (n / 10) (by omega) (by omega) (s.map char) hfront

/-! ### Numbers -/

/-- What follows does not belong to a number that stands in front of it. -/
def EndsNumber (cs : List CodePoint) : Prop :=
  ∀ c, cs.head? = some c → isDigit c = false ∧ c ≠ '.' ∧ c ≠ 'e' ∧ c ≠ 'E'

theorem endsNumber_nil : EndsNumber [] := by
  intro c h
  simp at h

theorem endsNumber_cons {c : CodePoint} (h : isDigit c = false ∧ c ≠ '.' ∧ c ≠ 'e' ∧ c ≠ 'E')
    (cs : List CodePoint) : EndsNumber (c :: cs) := by
  intro d hd
  obtain rfl : c = d := by simpa using hd
  exact h

/-- What follows does not go on with digits. -/
def EndsDigits (cs : List CodePoint) : Prop := ∀ c, cs.head? = some c → isDigit c = false

theorem EndsNumber.endsDigits {cs : List CodePoint} (h : EndsNumber cs) : EndsDigits cs :=
  fun c hc => (h c hc).1

theorem endsDigits_cons {c : CodePoint} (h : isDigit c = false) (cs : List CodePoint) :
    EndsDigits (c :: cs) := by
  intro d hd
  obtain rfl : c = d := by simpa using hd
  exact h

/-- Digits are read up to where they end. -/
theorem span_isDigit {ds k : List CodePoint} (hds : ∀ c ∈ ds, isDigit c = true)
    (hk : EndsDigits k) :
    (ds ++ k).span isDigit = (ds, k) := by
  have htake : k.takeWhile isDigit = [] := by
    cases k with
    | nil => rfl
    | cons c r => simp [hk c rfl]
  have hdrop : k.dropWhile isDigit = k := by
    cases k with
    | nil => rfl
    | cons c r => simp [hk c rfl]
  rw [List.span_eq_takeWhile_dropWhile, List.takeWhile_append_of_pos hds,
    List.dropWhile_append_of_pos hds, htake, hdrop, List.append_nil]

/-- Whether digits may stand in front of the point: there is one, and only a zero alone begins with
a zero. -/
structure IsWhole (ds : List CodePoint) : Prop where
  ne_nil : ds ≠ []
  isDigit : ∀ c ∈ ds, isDigit c = true
  head : ∀ r, ds = char '0' :: r → r = []

theorem isWhole_ofNat (n : Nat) : IsWhole (Text.ofNat n) where
  ne_nil := Text.ofNat_ne_nil n
  isDigit _ := isDigit_of_mem_ofNat
  head r hr := by
    by_cases hn : n = 0
    · subst hn
      exact (List.cons.inj hr).2.symm
    · exact absurd hr (head_ofNat_ne_zero hn r)

theorem scanWhole_of_isWhole {ds k : List CodePoint} (h : IsWhole ds) (hk : EndsDigits k) :
    scanWhole (ds ++ k) = (ds, k) := by
  obtain ⟨c, s, rfl⟩ := List.exists_cons_of_ne_nil h.ne_nil
  unfold scanWhole
  -- a zero in front is the whole number
  split
  · rename_i r hr
    obtain ⟨rfl, rfl⟩ := List.cons.inj hr
    obtain rfl := h.head s rfl
    rfl
  · exact span_isDigit h.isDigit hk

theorem scanFraction_of_endsNumber {k : List CodePoint} (hk : EndsNumber k) :
    scanFraction k = ([], k) := by
  unfold scanFraction
  split
  · exact absurd rfl (hk '.' rfl).2.1
  · rfl

theorem scanExponent_of_endsNumber {k : List CodePoint} (hk : EndsNumber k) :
    scanExponent k = (none, k) := by
  cases k with
  | nil => rfl
  | cons c r =>
    obtain ⟨-, -, he, hE⟩ := hk c rfl
    simp [scanExponent, he, hE]

/-- The exact value of a written integer. -/
def Numeral.ofInt (n : Int) : Numeral := ⟨n < 0, n.natAbs, 0, true⟩

theorem signed_natAbs (n : Int) : Text.signed (n < 0) n.natAbs = n := by
  unfold Text.signed
  by_cases h : n < 0
  · rw [if_pos (by simpa using h)]
    omega
  · rw [if_neg (by simpa using h)]
    omega

/-- An integer that fits into a machine word has at most twenty digits. -/
theorem length_ofNat_le {n : Int} (h : fitsWord n = true) : (Text.ofNat n.natAbs).length ≤ 20 := by
  simp only [fitsWord, Nat.pow_eq, Bool.and_eq_true, decide_eq_true_eq] at h
  have hlt : n.natAbs < 10 ^ 20 := by omega
  rw [Text.ofNat, List.length_map]
  exact (Nat.length_toDigits_le_iff (by decide) (by decide)).2 hlt

/-- Whether a leaf of a value is no number but an integer that fits into a machine word. -/
def isWordLeaf : Json → Bool
  | .int n => fitsWord n
  | .float _ | .nonFinite _ => false
  | _ => true

/-- Whether all numbers in a value are integers that fit into machine words. -/
def hasOnlyWords (v : Json) : Bool := v.everyLeaf isWordLeaf

/-- A reading takes the integers of machine words. -/
def Reading.TakesWords (reading : Reading) : Prop := ∀ d ≤ 20, reading.takes d = true

/-- The sign in front of a number. -/
def sign (negative : Bool) : List CodePoint := if negative then ['-'] else []

theorem intChars_eq (n : Int) : Text.intChars n = sign (n < 0) ++ Text.ofNat n.natAbs := by
  cases n with
  | ofNat m =>
    have hneg : ¬ ((m : Int) < 0) := by omega
    simp [Text.intChars, sign, hneg]
  | negSucc m => simp [Text.intChars, sign, Int.negSucc_lt_zero]

/-- A number is read part by part: the digits in front of the point, the fraction and the
exponent. -/
theorem scanNumber_of_parts (reading : Reading) (negative : Bool) {ds fs rest r k : List CodePoint}
    {e? : Option Int} (hds : IsWhole ds) (hrest : EndsDigits rest)
    (hfraction : scanFraction rest = (fs, r)) (hexponent : scanExponent r = (e?, k))
    (htakes : (fs.isEmpty && e?.isNone) = true → reading.takes ds.length = true) :
    scanNumber reading (sign negative ++ (ds ++ rest)) =
      .ok (⟨negative, Text.numberOf (ds ++ fs), e?.getD 0 - fs.length, fs.isEmpty && e?.isNone⟩,
        k) := by
  have hscan := scanWhole_of_isWhole hds hrest
  have htooLong : (fs.isEmpty && e?.isNone && !reading.takes ds.length) = false := by
    cases hwhole : fs.isEmpty && e?.isNone with
    | false => rfl
    | true => simp [htakes hwhole]
  obtain ⟨c, s, rfl⟩ := List.exists_cons_of_ne_nil hds.ne_nil
  -- the first character is a digit, and a minus sign is none
  have hminus : c ≠ '-' := by
    rintro rfl
    exact absurd (hds.isDigit '-' List.mem_cons_self) (by decide)
  cases negative with
  | true =>
    show scanNumber reading ('-' :: (c :: s ++ rest)) = _
    unfold scanNumber
    simp only [hscan, hfraction, hexponent, htooLong, Bool.false_eq_true, if_false]
  | false =>
    show scanNumber reading (c :: s ++ rest) = _
    unfold scanNumber
    split
    rename_i negative r' hsplit
    split at hsplit
    · rename_i h
      exact absurd (List.cons.inj h).1 hminus
    · obtain ⟨rfl, rfl⟩ := Prod.mk.inj hsplit
      simp only [hscan, hfraction, hexponent, htooLong, Bool.false_eq_true, if_false]

/-- A written integer is read back, up to what follows it. -/
theorem scanNumber_intChars {reading : Reading} (hr : reading.TakesWords) {n : Int}
    (hn : fitsWord n = true) {k : List CodePoint} (hk : EndsNumber k) :
    scanNumber reading (Text.intChars n ++ k) = .ok (Numeral.ofInt n, k) := by
  rw [intChars_eq, List.append_assoc, scanNumber_of_parts _ _ (isWhole_ofNat _) hk.endsDigits
    (scanFraction_of_endsNumber hk) (scanExponent_of_endsNumber hk)
    fun _ => hr _ (length_ofNat_le hn), List.append_nil, Text.numberOf_ofNat]
  rfl

/-! ### Quoted texts -/

theorem hexValue4?_of_lt {n : Nat} (h : n < 0x20) :
    hexValue4? '0' '0' (Text.hexDigit (n / 16)) (Text.hexDigit (n % 16)) = some n := by
  have : ∀ m < 0x20,
      hexValue4? '0' '0' (Text.hexDigit (m / 16)) (Text.hexDigit (m % 16)) = some m := by decide
  exact this n h

section

variable {halves : Bool} {start acc : List CodePoint}

/-- Characters that belong to the one before them are skipped. -/
theorem scanString_skip (cs r : List CodePoint) :
    scanString halves start cs.length acc (cs ++ r) = scanString halves start 0 acc r := by
  induction cs with
  | nil => rfl
  | cons c cs ih => exact ih

/-- A character behind a backslash that has a meaning there. -/
theorem scanString_escaped {d e : CodePoint} (h : escaped? d = some e) (hu : d ≠ 'u')
    (r : List CodePoint) :
    scanString halves start 0 acc ('\\' :: d :: r) = scanString halves start 0 (e :: acc) r := by
  conv => lhs; unfold scanString
  simp only [if_neg (show ¬ char '\\' = '"' by decide), if_true]
  split
  · rename_i h'
    simp at h'
  · rename_i h'
    exact absurd (List.cons.inj h').1 hu
  · rename_i h'
    exact absurd (List.cons.inj h').1 hu
  · rename_i h'
    obtain ⟨rfl, rfl⟩ := List.cons.inj h'
    rw [h]
    exact scanString_skip [d] r

/-- The escape of a control character, which is followed by something. -/
theorem scanString_control {n : Nat} (hn : n < 0x20) {r : List CodePoint} (hr : r ≠ []) :
    scanString halves start 0 acc ('\\' :: 'u' :: '0' :: '0' :: Text.hexDigit (n / 16) ::
      Text.hexDigit (n % 16) :: r) = scanString halves start 0 (CodePoint.ofNat n :: acc) r := by
  obtain ⟨d, rest, rfl⟩ := List.exists_cons_of_ne_nil hr
  -- such a code is neither half of a character, so nothing is joined to it
  have hhigh : Text.isHighHalf n = false := by
    simp [Text.isHighHalf]
    omega
  have hlow : Text.isLowHalf n = false := by
    simp [Text.isLowHalf]
    omega
  conv => lhs; unfold scanString
  rw [if_neg (by decide), if_pos rfl]
  simp only [hexValue4?_of_lt hn, hhigh, hlow]
  exact scanString_skip ['u', '0', '0', Text.hexDigit (n / 16), Text.hexDigit (n % 16)] (d :: rest)

/-- A character that stands for itself. -/
theorem scanString_plain {c : CodePoint} (hq : c ≠ '"') (hb : c ≠ '\\') (hc : ¬ c.toNat < 0x20)
    (r : List CodePoint) :
    scanString halves start 0 acc (c :: r) = scanString halves start 0 (c :: acc) r := by
  conv => lhs; unfold scanString
  rw [if_neg hq, if_neg hb, if_neg hc]

/-- A character in its form inside quotes is read back. -/
theorem scanString_escapeChar (c : CodePoint) {r : List CodePoint} (hr : r ≠ []) :
    scanString halves start 0 acc (escapeChar c ++ r) = scanString halves start 0 (c :: acc) r := by
  unfold escapeChar
  split
  · rename_i h
    subst h
    exact scanString_escaped rfl (by decide) r
  split
  · rename_i h
    subst h
    exact scanString_escaped rfl (by decide) r
  split
  · rename_i hn
    have hc : CodePoint.ofNat c.toNat = c := CodePoint.ofNat_toNat c
    -- five control characters have a letter of their own, the others are written by their code
    split
    · rename_i h
      rw [h] at hc
      exact scanString_escaped (by rw [← hc]; rfl) (by decide) r
    · rename_i h
      rw [h] at hc
      exact scanString_escaped (by rw [← hc]; rfl) (by decide) r
    · rename_i h
      rw [h] at hc
      exact scanString_escaped (by rw [← hc]; rfl) (by decide) r
    · rename_i h
      rw [h] at hc
      exact scanString_escaped (by rw [← hc]; rfl) (by decide) r
    · rename_i h
      rw [h] at hc
      exact scanString_escaped (by rw [← hc]; rfl) (by decide) r
    · conv => rhs; rw [← hc]
      exact scanString_control hn hr
  · rename_i hq hb hn
    exact scanString_plain hq hb hn r

theorem writeChars_ne_nil (cs k : List CodePoint) : writeChars cs k ≠ [] := by
  induction cs with
  | nil => simp [writeChars]
  | cons c cs ih =>
    intro h
    exact ih (List.append_eq_nil_iff.1 h).2

/-- Escapes make a text no shorter. -/
theorem length_add_le_writeChars (cs k : List CodePoint) :
    cs.length + k.length < (writeChars cs k).length := by
  induction cs with
  | nil => simp [writeChars]
  | cons c cs ih =>
    have hc : 0 < (escapeChar c).length := by
      unfold escapeChar
      repeat' split
      all_goals simp
    simp only [writeChars, List.length_append, List.length_cons]
    omega

/-- A text in its form inside quotes is read back, up to what follows its closing quote. -/
theorem scanString_writeChars (cs k : List CodePoint) :
    scanString halves start 0 acc (writeChars cs k) = .ok (acc.reverse ++ cs, k) := by
  induction cs generalizing acc with
  | nil =>
    unfold writeChars scanString
    simp
  | cons c cs ih =>
    rw [writeChars, scanString_escapeChar c (writeChars_ne_nil cs k), ih]
    simp

end

/-- A quoted text is read back, up to what follows it. -/
theorem scanText_writeString (reading : Reading) (s : Text) (k : List CodePoint) :
    scanText reading (writeChars s.toList k) = .ok (s, k) := by
  unfold scanText
  rw [scanString_writeChars]
  simp [Except.map]

/-! ### Words -/

theorem scanWord_null (reading : Reading) (k : List CodePoint) :
    scanWord reading ('n' :: 'u' :: 'l' :: 'l' :: k) = some (.null, k) := by
  cases h : reading.lenient <;> simp [scanWord, Reading.words, h, words]

theorem scanWord_true (reading : Reading) (k : List CodePoint) :
    scanWord reading ('t' :: 'r' :: 'u' :: 'e' :: k) = some (.bool true, k) := by
  cases h : reading.lenient <;> simp [scanWord, Reading.words, h, words]

theorem scanWord_false (reading : Reading) (k : List CodePoint) :
    scanWord reading ('f' :: 'a' :: 'l' :: 's' :: 'e' :: k) = some (.bool false, k) := by
  cases h : reading.lenient <;> simp [scanWord, Reading.words, h, words]

/-- No word begins like a number. -/
theorem scanWord_of_isDigit (reading : Reading) {c : CodePoint} (hc : isDigit c = true)
    (k : List CodePoint) :
    scanWord reading (c :: k) = none ∧ scanWord reading ('-' :: c :: k) = none := by
  have hn : c ≠ 'n' := by rintro rfl; exact absurd hc (by decide)
  have ht : c ≠ 't' := by rintro rfl; exact absurd hc (by decide)
  have hf : c ≠ 'f' := by rintro rfl; exact absurd hc (by decide)
  have hN : c ≠ 'N' := by rintro rfl; exact absurd hc (by decide)
  have hI : c ≠ 'I' := by rintro rfl; exact absurd hc (by decide)
  have hm : c ≠ '-' := by rintro rfl; exact absurd hc (by decide)
  cases h : reading.lenient <;>
    simp [scanWord, Reading.words, h, words, lenientWords, hn.symm, ht.symm, hf.symm, hN.symm,
      hI.symm, hm.symm]

/-- Whether a text begins like a number, with a digit that may have a minus sign in front of it. -/
def BeginsNumber (cs : List CodePoint) : Prop :=
  ∃ c r, isDigit c = true ∧ (cs = c :: r ∨ cs = char '-' :: c :: r)

theorem beginsNumber_sign (negative : Bool) {c : CodePoint} (hc : isDigit c = true)
    (r : List CodePoint) :
    BeginsNumber (sign negative ++ c :: r) := by
  refine ⟨c, r, hc, ?_⟩
  cases negative with
  | true => exact .inr rfl
  | false => exact .inl rfl

theorem beginsNumber_intChars (n : Int) (k : List CodePoint) :
    BeginsNumber (Text.intChars n ++ k) := by
  obtain ⟨c, s, hd, hc⟩ := ofNat_eq_cons n.natAbs
  rw [intChars_eq, List.append_assoc, hd]
  exact beginsNumber_sign _ hc (s ++ k)

theorem BeginsNumber.scanWord {cs : List CodePoint} (h : BeginsNumber cs) (reading : Reading) :
    scanWord reading cs = none := by
  obtain ⟨c, r, hc, rfl | rfl⟩ := h
  · exact (scanWord_of_isDigit reading hc r).1
  · exact (scanWord_of_isDigit reading hc r).2

/-- A number begins with a digit or a minus sign. -/
theorem BeginsNumber.head {cs : List CodePoint} (h : BeginsNumber cs) :
    ∃ c r, cs = c :: r ∧ (isDigit c = true ∨ c = '-') := by
  obtain ⟨c, r, hc, rfl | rfl⟩ := h
  · exact ⟨c, r, rfl, .inl hc⟩
  · exact ⟨'-', c :: r, rfl, .inr rfl⟩

end ChannelConsole.Json
