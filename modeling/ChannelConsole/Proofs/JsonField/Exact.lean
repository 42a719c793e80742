import ChannelConsole.Proofs.Json.Scanned
import ChannelConsole.Proofs.JsonField

/-!
# What JSON fields say once they are laid out

A text that is made ready for editing is read and written anew. Its arrays and objects, its texts
and its keys come back, but a number comes back as the one that is written for the machine word or
the double that it was read as. So the text says what it said before exactly if every number of it
that counts is written as itself (`load_says_iff`).
-/

namespace ChannelConsole.JsonField

open Json (Document Exact)

/-- What a text in a JSON field says, if it is JSON. -/
def meaning? (s : Text) : Option Exact := (Document.read reading s).toOption.map Document.exact

variable {field s : Text}

/-- The text of a value that can be written says what it is meant to say. -/
theorem meaning?_text (form : Json.Form) {v : Json} (h : v.isWritable = true) :
    meaning? (v.text form) = some v.exact := by
  simp only [Json.isWritable, Bool.and_eq_true, decide_eq_true_eq] at h
  have hmax : Json.maxWrittenDepth ≤ reading.maxDepth := by decide
  obtain ⟨d, hread, -, hexact⟩ := Json.read_text takesWords_reading form h.1.1 (h.2.trans hmax)
  rw [meaning?, hread, ← hexact]
  rfl

/-- A text that was made ready for editing is unset, or it says what it said before but for the
numbers, which are those that are written for the ones in it. It says exactly what it said before if
each number that counts is written as itself, and only then. -/
theorem load_says_iff {l : Loaded} (h : load field s = .ok l) (hready : l.diagnostic? = none) :
    (s = "" ∧ l.value = "") ∨
    ∃ d, Document.read reading s = .ok d ∧
      meaning? l.value = some (d.exactBy (Json.writtenLeaf reading)) ∧
      (∀ x ∈ d.leaves, (∀ n, x ≠ .number n) → Json.writtenLeaf reading x = x.exactLeaf) ∧
      (meaning? l.value = meaning? s ↔ ∀ n, .number n ∈ d.leaves → n.IsKept) := by
  rcases load_cases h with ⟨hs, hl, -⟩ | ⟨-, -, -, hdiagnosis⟩ | ⟨v, hv, hencode, -⟩
  · exact .inl ⟨hs, hl⟩
  · rw [hready] at hdiagnosis
    cases hdiagnosis
  obtain ⟨d, hread, hjson⟩ := Json.exists_document_of_read? (read?_of_parse? hv)
  have hwritable : v.isWritable = true := exists_load_iff.1 ⟨l, h⟩ v hv
  have hl : l.value = v.text .indented := by
    rw [Json.encode?, if_pos hwritable] at hencode
    exact (Option.some.inj hencode).symm
  have hnow : meaning? l.value = some (d.exactBy (Json.writtenLeaf reading)) := by
    rw [hl, meaning?_text .indented hwritable, Json.exact_of_toJson? hjson]
  have hbefore : meaning? s = some d.exact := by
    rw [meaning?, hread]
    rfl
  have hstrict : d.IsStrict := Json.isStrict_of_read rfl hread
  refine .inr ⟨d, hread, hnow, fun x hx => Json.writtenLeaf_of_ne_number (hstrict x hx), ?_⟩
  rw [hnow, hbefore, Option.some_inj]
  exact Document.exactBy_writtenLeaf_eq_iff rfl hstrict

/-- A text that is a number is read as that number. -/
theorem read_of_scanNumber {n : Json.Numeral} (hbegins : Json.BeginsNumber s.toList)
    (hscan : Json.scanNumber reading s.toList = .ok (n, [])) :
    Document.read reading s = .ok (.number n) := by
  have hskip := Json.skipSpace_of_beginsNumber hbegins
  rw [Document.read, Document.readChars,
    Json.scanValue_of_beginsNumber (by rwa [hskip]) (by rwa [hskip])]
  rfl

/-- The double one half. -/
def half : Binary64 := ⟨false, 4503599627370496, -53, by decide⟩

/-- A zero at the end of a fraction goes, which does not change what the text says. -/
theorem load_says_half :
    let l : Loaded := { value := "0.5" }
    load "setting" "0.50" = .ok l ∧ l.diagnostic? = none ∧ meaning? l.value = meaning? "0.50" := by
  intro l
  have hload : load "setting" "0.50" = .ok l := by decide +kernel
  have hread : Document.read reading "0.50" = .ok (.number ⟨false, 50, -2, false⟩) :=
    read_of_scanNumber ⟨'0', _, rfl, .inl rfl⟩ (by decide +kernel)
  have hshortest : half.shortest = ⟨5, -1⟩ := by decide +kernel
  refine ⟨hload, rfl, ?_⟩
  rcases load_says_iff hload rfl with ⟨hempty, -⟩ | ⟨d, hd, -, -, hiff⟩
  · exact absurd hempty (by decide)
  obtain rfl := Except.ok.inj (hread.symm.trans hd)
  refine hiff.2 fun n hn => .inr ⟨half, ?_⟩
  obtain rfl := Document.number.inj (List.mem_singleton.1 hn)
  rw [Binary64.written_of_ne_zero (by decide), hshortest]
  norm_num [Binary64.Decimal.value, Json.Numeral.value, Binary64.withSign, half]

/-- An integer that fits into no machine word comes back as the number that is written for the
nearest double. -/
theorem not_says_long_integer :
    let l : Loaded := { value := "1.2345678901234568e+22" }
    load "setting" "12345678901234567890123" = .ok l ∧ l.diagnostic? = none ∧
      meaning? l.value ≠ meaning? "12345678901234567890123" := by
  intro l
  have hwritten : Document.read reading "1.2345678901234568e+22" =
      .ok (.number ⟨false, 12345678901234568, 6, false⟩) :=
    read_of_scanNumber ⟨'1', _, rfl, .inl rfl⟩ (by decide +kernel)
  have hread : Document.read reading "12345678901234567890123" =
      .ok (.number ⟨false, 12345678901234567890123, 0, true⟩) :=
    read_of_scanNumber ⟨'1', _, rfl, .inl rfl⟩ (by decide +kernel)
  refine ⟨by decide +kernel, rfl, fun h => ?_⟩
  rw [meaning?, meaning?, show l.value = "1.2345678901234568e+22" from rfl, hwritten, hread] at h
  have hvalue := Exact.number.inj (Option.some.inj h)
  norm_num [Json.Numeral.value, Binary64.withSign] at hvalue

end ChannelConsole.JsonField
