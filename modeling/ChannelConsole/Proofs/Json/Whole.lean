import ChannelConsole.Proofs.Json.Number
import ChannelConsole.Proofs.Json.Scanned
import ChannelConsole.Proofs.Json.Words

/-!
# Whole characters in written values and in values that are read

A value whose texts consist of whole characters is written with whole characters alone
(`isEncodable_text`), so its text can be stored wherever texts of whole characters are asked for.
The other way round, a reading that is not lenient takes an escape for half a character only next to
one for the other half. So what it makes of a text of whole characters consists of whole characters
as well (`isEncodable_of_read?`), whether these stand in the text themselves or as escapes.
-/

namespace ChannelConsole.Json

open CodePoint (char)

/-- Whether all characters of a text are whole ones. -/
def WholeChars (cs : List CodePoint) : Prop := ∀ c ∈ cs, CodePoint.isHalf c = false

theorem wholeChars_append {cs ds : List CodePoint} :
    WholeChars (cs ++ ds) ↔ WholeChars cs ∧ WholeChars ds := by
  simp [WholeChars, or_imp, forall_and]

theorem wholeChars_cons {c : CodePoint} {cs : List CodePoint} :
    WholeChars (c :: cs) ↔ CodePoint.isHalf c = false ∧ WholeChars cs := by
  simp [WholeChars]

theorem wholeChars_toList {s : Text} (h : Text.isEncodable s = true) :
    WholeChars s.toList := by
  intro c hc
  rw [Text.isEncodable_eq, List.all_eq_true] at h
  simpa using h c hc

/-- A character below the halves is whole. -/
theorem isHalf_of_lt {c : CodePoint} (h : c.toNat < 0x80) : CodePoint.isHalf c = false := by
  cases c with
  | char c => rfl
  | half i =>
    have hbounds := CodePoint.toNat_half_bounds i
    omega

theorem wholeChars_of_ascii {cs : List CodePoint} (h : cs.all (·.toNat < 0x80) = true) :
    WholeChars cs := by
  intro c hc
  have hlt := List.all_eq_true.1 h c hc
  exact isHalf_of_lt (by simpa using hlt)

theorem wholeChars_ascii_append (cs : List CodePoint) {k : List CodePoint}
    (h : cs.all (·.toNat < 0x80) = true) (hk : WholeChars k) : WholeChars (cs ++ k) :=
  wholeChars_append.2 ⟨wholeChars_of_ascii h, hk⟩

/-! ### Written texts -/

theorem wholeChars_gap (form : Form) (level : Nat) : WholeChars (form.gap level) := by
  cases form with
  | compact => exact wholeChars_of_ascii rfl
  | indented =>
    refine wholeChars_cons.2 ⟨by decide, ?_⟩
    intro c hc
    rw [List.eq_of_mem_replicate hc]
    decide

theorem wholeChars_colon (form : Form) : WholeChars form.colon := by
  cases form with
  | compact => exact wholeChars_of_ascii (by decide)
  | indented => exact wholeChars_of_ascii (by decide)

theorem isHalf_of_isDigit {c : CodePoint} (h : isDigit c = true) : CodePoint.isHalf c = false := by
  have hbounds := toNat_of_isDigit h
  exact isHalf_of_lt (by omega)

theorem wholeChars_intChars (n : Int) : WholeChars (Text.intChars n) := by
  have hdigits : ∀ m, WholeChars (Text.ofNat m) :=
    fun m c hc => isHalf_of_isDigit (isDigit_of_mem_ofNat hc)
  cases n with
  | ofNat m => exact hdigits m
  | negSucc m => exact wholeChars_cons.2 ⟨by decide, hdigits (m + 1)⟩

theorem wholeChars_chars (layout : Binary64.Layout) (x : Binary64) :
    WholeChars (Binary64.chars layout x) := by
  intro c hc
  have hothers : WholeChars ['.', '-', '+', 'e'] := wholeChars_of_ascii (by decide)
  rcases inNumber_of_mem_chars hc with hdigit | hother
  · exact isHalf_of_isDigit hdigit
  · exact hothers c hother

theorem wholeChars_escapeChar {c : CodePoint} (hc : CodePoint.isHalf c = false) :
    WholeChars (escapeChar c) := by
  unfold escapeChar
  split
  · exact wholeChars_of_ascii (by decide)
  split
  · exact wholeChars_of_ascii (by decide)
  split
  · rename_i hn
    split
    all_goals try exact wholeChars_of_ascii (by decide)
    -- both digits of the code are those of a number below thirty-two
    have hdigits : ∀ m < 0x20, [char '\\', 'u', '0', '0', Text.hexDigit (m / 16),
        Text.hexDigit (m % 16)].all (·.toNat < 0x80) = true := by decide
    exact wholeChars_of_ascii (hdigits c.toNat hn)
  · intro d hd
    rw [List.mem_singleton.1 hd]
    exact hc

theorem wholeChars_writeChars {cs k : List CodePoint} (hcs : WholeChars cs) (hk : WholeChars k) :
    WholeChars (writeChars cs k) := by
  induction cs with
  | nil => exact wholeChars_cons.2 ⟨by decide, hk⟩
  | cons c cs ih =>
    obtain ⟨hc, hcs⟩ := wholeChars_cons.1 hcs
    exact wholeChars_append.2 ⟨wholeChars_escapeChar hc, ih hcs⟩

theorem wholeChars_writeString {s : Text} {k : List CodePoint} (hs : Text.isEncodable s = true)
    (hk : WholeChars k) : WholeChars (writeString s k) :=
  wholeChars_cons.2 ⟨by decide, wholeChars_writeChars (wholeChars_toList hs) hk⟩

/-! ### Written values -/

/-- Whether a leaf of a value is no text with halves of characters. -/
def isEncodableLeaf : Json → Bool
  | .str s => Text.isEncodable s
  | _ => true

mutual

/-- A value whose texts consist of whole characters is written with whole characters. -/
theorem wholeChars_write (form : Form) : ∀ (v : Json) (level : Nat) (k : List CodePoint),
    v.everyLeaf isEncodableLeaf = true → WholeChars k → WholeChars (write form level v k)
  | .null, level, k, _, hk =>
    wholeChars_ascii_append (Text.toList "null") (by decide) hk
  | .bool true, level, k, _, hk =>
    wholeChars_ascii_append (Text.toList "true") (by decide) hk
  | .bool false, level, k, _, hk =>
    wholeChars_ascii_append (Text.toList "false") (by decide) hk
  | .int n, level, k, _, hk => wholeChars_append.2 ⟨wholeChars_intChars n, hk⟩
  | .float x, level, k, _, hk => wholeChars_append.2 ⟨wholeChars_chars floatLayout x, hk⟩
  | .nonFinite x, level, k, _, hk =>
    wholeChars_ascii_append (Text.toList "null") (by decide) hk
  | .str s, level, k, he, hk => wholeChars_writeString he hk
  | .arr [], level, k, _, hk =>
    wholeChars_ascii_append ['[', ']'] (by decide) hk
  | .arr (x :: xs), level, k, he, hk => by
    simp only [everyLeaf, everyLeafOfItems, Bool.and_eq_true] at he
    have hend : WholeChars (form.gap level ++ char ']' :: k) :=
      wholeChars_append.2 ⟨wholeChars_gap form level, wholeChars_cons.2 ⟨by decide, hk⟩⟩
    have hxs := wholeChars_writeItems form xs (level + 1) _ he.2 hend
    exact wholeChars_cons.2 ⟨by decide, wholeChars_append.2
      ⟨wholeChars_gap form _, wholeChars_write form x (level + 1) _ he.1 hxs⟩⟩
  | .obj [], level, k, _, hk =>
    wholeChars_ascii_append ['\x7b', '\x7d'] (by decide) hk
  | .obj ((key, x) :: fs), level, k, he, hk => by
    simp only [everyLeaf, everyLeafOfFields, Bool.and_eq_true] at he
    have hend : WholeChars (form.gap level ++ char '\x7d' :: k) :=
      wholeChars_append.2 ⟨wholeChars_gap form level, wholeChars_cons.2 ⟨by decide, hk⟩⟩
    have hfs := wholeChars_writeFields form fs (level + 1) _ he.2 hend
    have hx := wholeChars_write form x (level + 1) _ he.1.2 hfs
    exact wholeChars_cons.2 ⟨by decide, wholeChars_append.2 ⟨wholeChars_gap form _,
      wholeChars_writeString he.1.1 (wholeChars_append.2 ⟨wholeChars_colon form, hx⟩)⟩⟩

/-- The same for the items of an array after the first one. -/
theorem wholeChars_writeItems (form : Form) : ∀ (xs : List Json) (level : Nat) (k : List CodePoint),
    everyLeafOfItems isEncodableLeaf xs = true → WholeChars k →
      WholeChars (writeItems form level xs k)
  | [], level, k, _, hk => hk
  | x :: xs, level, k, he, hk => by
    simp only [everyLeafOfItems, Bool.and_eq_true] at he
    have hxs := wholeChars_writeItems form xs level k he.2 hk
    exact wholeChars_cons.2 ⟨by decide, wholeChars_append.2
      ⟨wholeChars_gap form level, wholeChars_write form x level _ he.1 hxs⟩⟩

/-- The same for the fields of an object after the first one. -/
theorem wholeChars_writeFields (form : Form) : ∀ (fs : List (Text × Json)) (level : Nat)
    (k : List CodePoint), everyLeafOfFields isEncodableLeaf fs = true → WholeChars k →
      WholeChars (writeFields form level fs k)
  | [], level, k, _, hk => hk
  | (key, x) :: fs, level, k, he, hk => by
    simp only [everyLeafOfFields, Bool.and_eq_true] at he
    have hfs := wholeChars_writeFields form fs level k he.2 hk
    have hx := wholeChars_write form x level _ he.1.2 hfs
    exact wholeChars_cons.2 ⟨by decide, wholeChars_append.2 ⟨wholeChars_gap form level,
      wholeChars_writeString he.1.1 (wholeChars_append.2 ⟨wholeChars_colon form, hx⟩)⟩⟩

end

theorem isEncodable_eq_everyLeaf (v : Json) : v.isEncodable = v.everyLeaf isEncodableLeaf := rfl

/-- The text of a value without halves of characters has none. -/
theorem isEncodable_text (form : Form) {v : Json} (he : v.isEncodable = true) :
    Text.isEncodable (v.text form) = true := by
  rw [isEncodable_eq_everyLeaf] at he
  have hnil : WholeChars [] := fun _ hc => absurd hc List.not_mem_nil
  have hwhole := wholeChars_write form v 0 [] he hnil
  rw [Text.isEncodable_eq, text, Text.toList_ofList, List.all_eq_true]
  intro c hc
  rw [hwhole c hc]
  rfl

/-! ### Quoted texts that are read -/

/-- Two halves make a whole character. -/
theorem isHalf_pairCode (high low : Nat) :
    (CodePoint.ofNat (Text.pairCode high low)).isHalf = false := by
  have hcode : 0xE000 ≤ Text.pairCode high low := by
    unfold Text.pairCode
    omega
  rw [CodePoint.isHalf_ofNat, decide_eq_false_iff_not]
  omega

/-- A code that is neither that of a first nor that of a second half is one of a character. -/
theorem isHalf_of_code {n : Nat} (h : ¬ (Text.isHighHalf n || Text.isLowHalf n) = true) :
    (CodePoint.ofNat n).isHalf = false := by
  rw [CodePoint.isHalf_ofNat, decide_eq_false_iff_not]
  simp only [Text.isHighHalf, Text.isLowHalf, Bool.or_eq_true, Bool.and_eq_true,
    decide_eq_true_eq] at h
  omega

theorem isHalf_of_escaped? {c d : CodePoint} (h : escaped? c = some d) : d.isHalf = false := by
  unfold escaped? at h
  split at h <;> cases h <;> rfl

/-- A quoted text of whole characters gives whole characters, unless halves may stand alone. -/
theorem wholeChars_scanString {start acc cs s k : List CodePoint} {skip : Nat}
    (hacc : WholeChars acc) (hcs : WholeChars cs)
    (h : scanString false start skip acc cs = .ok (s, k)) : WholeChars s := by
  fun_induction scanString false start skip acc cs
  case case3 =>
    obtain ⟨rfl, -⟩ := Prod.mk.inj (Except.ok.inj h)
    exact fun c hc => hacc c (List.mem_reverse.1 hc)
  -- characters that belong to an escape are passed over
  case case2 ih => exact ih hacc (wholeChars_cons.1 hcs).2 h
  -- an escape adds one whole character, and so does a character that stands for itself
  case case6 ih =>
    exact ih (wholeChars_cons.2 ⟨isHalf_pairCode _ _, hacc⟩) (wholeChars_cons.1 hcs).2 h
  case case9 hcode _ ih =>
    exact ih (wholeChars_cons.2 ⟨isHalf_of_code hcode, hacc⟩) (wholeChars_cons.1 hcs).2 h
  case case11 hescaped _ ih =>
    exact ih (wholeChars_cons.2 ⟨isHalf_of_escaped? hescaped, hacc⟩) (wholeChars_cons.1 hcs).2 h
  case case14 ih =>
    obtain ⟨hc, hr⟩ := wholeChars_cons.1 hcs
    exact ih (wholeChars_cons.2 ⟨hc, hacc⟩) hr h
  -- and otherwise the reader complains
  all_goals contradiction

/-! ### Values that are read -/

variable {reading : Reading} {input : List CodePoint}

/-- Whether the value of a document, should it have one, consists of whole characters. -/
def Document.HasWholeValue (reading : Reading) (d : Document) : Prop :=
  ∀ v, d.toJson? reading = some v → v.everyLeaf isEncodableLeaf = true

theorem hasWholeValue_number (n : Numeral) : (Document.number n).HasWholeValue reading := by
  intro v h
  rw [Document.toJson?, Numeral.toJson?] at h
  repeat' split at h
  all_goals cases h
  all_goals rfl

theorem hasWholeValue_arr {xs : List Document} (h : ∀ x ∈ xs, x.HasWholeValue reading) :
    (Document.arr xs).HasWholeValue reading := by
  intro v hv
  rw [Document.toJson?, Option.map_eq_some_iff] at hv
  obtain ⟨vs, hvs, rfl⟩ := hv
  exact everyLeafOfItems_of_forall₂ (forall₂_of_itemsToJson? h hvs)

theorem hasWholeValue_obj {fs : List (Text × Document)}
    (h : ∀ p ∈ fs, p.1.isEncodable = true ∧ p.2.HasWholeValue reading) :
    (Document.obj fs).HasWholeValue reading := by
  intro v hv
  rw [Document.toJson?, Option.map_eq_some_iff] at hv
  obtain ⟨gs, hgs, rfl⟩ := hv
  have hall := forall₂_of_fieldsToJson?
    (motive := fun _ v => v.everyLeaf isEncodableLeaf = true) (fun p hp => (h p hp).2) hgs
  exact everyLeafOfFields_collectFields
    (everyLeafOfFields_of_forall₂ (fun p hp => (h p hp).1) hall)

theorem passedOn_hasWholeValue (hr : reading.lenient = false) (hinput : WholeChars input) :
    PassedOn reading input (fun s => s.isEncodable = true) (Document.HasWholeValue reading) where
  text hcs h := by
    obtain ⟨chars, hchars, rfl⟩ := exists_of_map_eq_ok h
    rw [hr] at hchars
    have hwhole := wholeChars_scanString (fun _ hc => absurd hc List.not_mem_nil)
      (fun c hc => hinput c (hcs.subset hc)) hchars
    rw [Text.isEncodable_eq, Text.toList_ofList, List.all_eq_true]
    exact fun c hc => by simp [hwhole c hc]
  str hs v hv := by
    obtain rfl := Option.some.inj hv
    exact hs
  word h v hv := by
    rcases eq_of_scanWord hr h with rfl | rfl | rfl <;> cases hv <;> rfl
  number _ := hasWholeValue_number _
  arr h := hasWholeValue_arr h
  obj h := hasWholeValue_obj h

/-- What a reading that is not lenient makes of a text without halves has none. -/
theorem isEncodable_of_read? (hr : reading.lenient = false) {s : Text}
    (hs : s.isEncodable = true) {v : Json} (h : read? reading s = some v) :
    v.isEncodable = true := by
  obtain ⟨d, hread, hd⟩ := exists_document_of_read? h
  exact (passedOn_hasWholeValue hr (wholeChars_toList hs)).of_readChars hread v hd

end ChannelConsole.Json
