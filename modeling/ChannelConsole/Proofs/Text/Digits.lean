import ChannelConsole.Proofs.Json.Token
import Mathlib.Data.List.TakeWhile

/-!
# Written integers are read back

An integer that is written in decimal is read plainly as itself, unless it has more digits than are
read at all (`lenientInteger_ofInt`).
-/

namespace ChannelConsole.Text

open Json (isDigit isDigit_of_mem_ofNat toNat_of_isDigit head_ofNat_ne_zero)

/-- The values of digits are those that the standard reader takes. -/
theorem digitValue?_eq_ite (c : CodePoint) :
    digitValue? c = if isDigit c = true then some (c.toNat - '0'.toNat) else none := by
  unfold digitValue? isDigit
  simp

theorem ofDigitValues_filterMap {cs : List CodePoint} (h : ∀ c ∈ cs, isDigit c = true) :
    ofDigitValues (cs.filterMap digitValue?) = numberOf cs := by
  have hfold : ∀ n, (cs.filterMap digitValue?).foldl (fun n d => 10 * n + d) n =
      cs.foldl (fun n d => 10 * n + (d.toNat - '0'.toNat)) n := by
    induction cs with
    | nil => exact fun _ => rfl
    | cons c r ih =>
      intro n
      have hc : digitValue? c = some (c.toNat - '0'.toNat) := by
        rw [digitValue?_eq_ite, if_pos (h c List.mem_cons_self)]
      rw [List.filterMap_cons_some hc, List.foldl_cons, List.foldl_cons,
        ih fun d hd => h d (List.mem_cons_of_mem _ hd)]
  exact hfold 0

/-- What digits behind a sign are read as. -/
def plainDigits (negative : Bool) (cs : List CodePoint) : Numeral :=
  match cs with
  | ['0'] => .number 0
  | '0' :: _ => .unreadable
  | _ =>
    let ds := cs.takeWhile fun c => (digitValue? c).isSome
    if maxDigits < ds.length then .tooLong ds.length
    else if ds.isEmpty || ds.length < cs.length then .unreadable
    else .number (signed negative (ofDigitValues (ds.filterMap digitValue?)))

theorem plainInteger_minus (cs : List CodePoint) :
    plainInteger ('-' :: cs) = plainDigits true cs := rfl

theorem plainInteger_of_ne_minus {c : CodePoint} (h : c ≠ '-') (cs : List CodePoint) :
    plainInteger (c :: cs) = plainDigits false (c :: cs) := by
  unfold plainInteger
  split
  rename_i negative rest hsign
  split at hsign
  · rename_i he
    exact absurd (List.cons.inj he).1 h
  · obtain ⟨rfl, rfl⟩ := Prod.mk.inj hsign
    rfl

theorem plainDigits_ofNat {n : Nat} (h : (ofNat n).length ≤ maxDigits) (negative : Bool) :
    plainDigits negative (ofNat n) = .number (signed negative n) := by
  have hdigits : ∀ c ∈ ofNat n, isDigit c = true := fun c => isDigit_of_mem_ofNat
  have hvalues : ∀ c ∈ ofNat n, (digitValue? c).isSome = true := by
    intro c hc
    rw [digitValue?_eq_ite, if_pos (hdigits c hc)]
    rfl
  have hvalue : ofDigitValues ((ofNat n).filterMap digitValue?) = n := by
    rw [ofDigitValues_filterMap hdigits, numberOf_ofNat]
  unfold plainDigits
  split
  · rename_i hzero
    -- only zero is written as a zero
    have hn : n = 0 := ofNat_injective hzero
    subst hn
    cases negative <;> rfl
  · rename_i r hne hzero
    have hn : n = 0 := by
      by_contra hn
      exact head_ofNat_ne_zero hn r hzero
    subst hn
    exact absurd (List.cons.inj hzero).2.symm hne
  · have hfilled : (ofNat n).isEmpty = false := by simp [ofNat, Nat.toDigits_ne_nil]
    rw [List.takeWhile_eq_self_iff.2 hvalues]
    dsimp only
    rw [if_neg (by omega), hfilled, if_neg (by simp), hvalue]

/-- A written integer is read plainly as itself. -/
theorem plainInteger_intChars {i : Int} (h : (intChars i).length ≤ maxDigits) :
    plainInteger (intChars i) = .number i := by
  cases i with
  | ofNat n =>
    obtain ⟨c, s, hc, hdigit⟩ := Json.ofNat_eq_cons n
    have hminus : c ≠ '-' := by
      rintro rfl
      exact absurd hdigit (by decide)
    have hread := plainDigits_ofNat h false
    rw [intChars, hc, plainInteger_of_ne_minus hminus, ← hc]
    exact hread
  | negSucc n =>
    have hlength : (ofNat (n + 1)).length ≤ maxDigits := by
      have hcons : (intChars (.negSucc n)).length = (ofNat (n + 1)).length + 1 := rfl
      omega
    rw [intChars, plainInteger_minus, plainDigits_ofNat hlength]
    rfl

theorem mem_intChars {i : Int} {c : CodePoint} (h : c ∈ intChars i) :
    c = '-' ∨ isDigit c = true := by
  cases i with
  | ofNat n => exact .inr (isDigit_of_mem_ofNat h)
  | negSucc n =>
    rcases List.mem_cons.1 h with rfl | h
    · exact .inl rfl
    · exact .inr (isDigit_of_mem_ofNat h)

/-- There are no blanks in a written integer that could be dropped. -/
theorem trimNumber_intChars (i : Int) : trimNumber (intChars i) = intChars i := by
  have hkeep : ∀ cs : List CodePoint, (∀ c ∈ cs, isNumberBlank c = false) →
      cs.dropWhile isNumberBlank = cs := by
    intro cs hcs
    cases cs with
    | nil => rfl
    | cons c r => simp [hcs c List.mem_cons_self]
  have hblank : ∀ c ∈ intChars i, isNumberBlank c = false := by
    intro c hc
    rcases mem_intChars hc with rfl | hdigit
    · decide
    · have hbounds : 48 ≤ c.toNat ∧ c.toNat ≤ 57 := toNat_of_isDigit hdigit
      have hnone : isBlank c = false := by
        simp only [isBlank, Bool.or_eq_false_iff, Bool.and_eq_false_iff, decide_eq_false_iff_not,
          beq_eq_false_iff_ne]
        omega
      rw [isNumberBlank, hnone, Bool.false_and]
  unfold trimNumber
  rw [hkeep _ hblank, hkeep _ fun c hc => hblank c (List.mem_reverse.1 hc), List.reverse_reverse]

theorem lenientInteger_ofInt {i : Int} (h : (intChars i).length ≤ maxDigits) :
    lenientInteger (ofInt i) = .number i := by
  apply lenientInteger_of_plain
  rw [ofInt, Text.toList_ofList, trimNumber_intChars, plainInteger_intChars h]

/-- An integer of 64 bits has at most twenty characters. -/
theorem length_intChars {i : Int} (h : -(Nat.pow 2 63) ≤ i ∧ i < Nat.pow 2 63) :
    (intChars i).length ≤ 20 := by
  have hsize : ∀ n : Nat, n ≤ 2 ^ 63 → (ofNat n).length ≤ 19 := by
    intro n hn
    rw [ofNat, List.length_map, Nat.length_toDigits_le_iff (by decide) (by decide)]
    omega
  cases i with
  | ofNat n =>
    have hn : n ≤ 2 ^ 63 := by
      have h2 := h.2
      simp at h2
      omega
    have hlength := hsize n hn
    rw [intChars]
    omega
  | negSucc n =>
    have hn : n + 1 ≤ 2 ^ 63 := by
      have h1 := h.1
      simp at h1
      omega
    have hlength := hsize (n + 1) hn
    rw [intChars, List.length_cons]
    omega

end ChannelConsole.Text
