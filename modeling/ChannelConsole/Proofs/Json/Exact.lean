import ChannelConsole.Proofs.Json.Documents
import ChannelConsole.Proofs.Json.Fields
import ChannelConsole.Proofs.Json.Number

/-!
# What JSON says

A JSON text says a value whose numbers are rationals (`Exact`), of whatever size they are written.
What a document says is found by telling what each of its leaves says (`Document.exactBy`), where of
a key that an object has more than once the last value counts. So a document says the same under two
tellings exactly if these agree on all leaves that count (`Document.exactBy_eq_iff`).

The value of a document is not what the document says, since its numbers are fitted into machine
types. When the value is written, its text says what the document does if each number is replaced by
the one that is written for it (`exact_of_toJson?`). A number is written as itself exactly if it is
an integer of a machine word, or one of the numbers as which doubles are written
(`Numeral.says_iff_isKept`).
-/

namespace ChannelConsole.Json

/-! ### What a document says -/

/-- What a JSON text says, with rationals for its numbers. Some texts have numbers that are not
finite, and so no rationals. -/
inductive Exact where
  | null
  | bool (b : Bool)
  | number (q : ℚ)
  | nonFinite (x : NonFinite)
  | str (s : Text)
  | arr (items : List Exact)
  | obj (fields : List (Text × Exact))

namespace Document

mutual

/-- What a document says, if it is told what its leaves say. -/
def exactBy (say : Document → Exact) : Document → Exact
  | .arr xs => .arr (itemsExactBy say xs)
  | .obj fs => .obj (mergeKeys (fieldsExactBy say fs))
  | d => say d

/-- What the items of an array say. -/
def itemsExactBy (say : Document → Exact) : List Document → List Exact
  | [] => []
  | x :: r => exactBy say x :: itemsExactBy say r

/-- What the fields of an object say. -/
def fieldsExactBy (say : Document → Exact) : List (Text × Document) → List (Text × Exact)
  | [] => []
  | (k, x) :: r => (k, exactBy say x) :: fieldsExactBy say r

end

mutual

/-- The leaves of a document that count: of a key that an object has more than once, only those of
the last value do. -/
def leaves : Document → List Document
  | .arr xs => leavesOfItems xs
  | .obj fs => (mergeKeys (leavesOfFields fs)).flatMap Prod.snd
  | d => [d]

/-- The leaves of the items of an array. -/
def leavesOfItems : List Document → List Document
  | [] => []
  | x :: r => x.leaves ++ leavesOfItems r

/-- The leaves of each field of an object. -/
def leavesOfFields : List (Text × Document) → List (Text × List Document)
  | [] => []
  | (k, x) :: r => (k, x.leaves) :: leavesOfFields r

end

section

variable {say : Document → Exact}

theorem exactBy_of_isLeaf {d : Document} (h : d.isLeaf = true) : d.exactBy say = say d := by
  cases d with
  | arr xs => cases h
  | obj fs => cases h
  | _ => rfl

theorem leaves_of_isLeaf {d : Document} (h : d.isLeaf = true) : d.leaves = [d] := by
  cases d with
  | arr xs => cases h
  | obj fs => cases h
  | _ => rfl

theorem itemsExactBy_eq_map (xs : List Document) :
    itemsExactBy say xs = xs.map (exactBy say) := by
  induction xs with
  | nil => rfl
  | cons x r ih => rw [itemsExactBy, ih, List.map_cons]

theorem fieldsExactBy_eq_mapFields (fs : List (Text × Document)) :
    fieldsExactBy say fs = mapFields (exactBy say) fs := by
  induction fs with
  | nil => rfl
  | cons f r ih => exact congrArg (_ :: ·) ih

theorem leavesOfItems_eq_flatMap (xs : List Document) :
    leavesOfItems xs = xs.flatMap leaves := by
  induction xs with
  | nil => rfl
  | cons x r ih => rw [leavesOfItems, ih, List.flatMap_cons]

theorem leavesOfFields_eq_mapFields (fs : List (Text × Document)) :
    leavesOfFields fs = mapFields leaves fs := by
  induction fs with
  | nil => rfl
  | cons f r ih => exact congrArg (_ :: ·) ih

theorem exactBy_obj (fs : List (Text × Document)) :
    (obj fs).exactBy say = .obj (mapFields (exactBy say) (mergeKeys fs)) := by
  rw [exactBy, fieldsExactBy_eq_mapFields, mapFields_mergeKeys]

theorem mem_leaves_arr {xs : List Document} {d : Document} :
    d ∈ (arr xs).leaves ↔ ∃ x ∈ xs, d ∈ x.leaves := by
  rw [leaves, leavesOfItems_eq_flatMap, List.mem_flatMap]

theorem mem_leaves_obj {fs : List (Text × Document)} {d : Document} :
    d ∈ (obj fs).leaves ↔ ∃ p ∈ mergeKeys fs, d ∈ p.2.leaves := by
  rw [leaves, leavesOfFields_eq_mapFields, ← mapFields_mergeKeys, mapFields, List.flatMap_map,
    List.mem_flatMap]

end

/-- A document says the same under two tellings exactly if these agree on its leaves. -/
theorem exactBy_eq_iff (say say' : Document → Exact) (d : Document) :
    d.exactBy say = d.exactBy say' ↔ ∀ x ∈ d.leaves, say x = say' x := by
  induction d using Document.induction with
  | leaf d h => simp [exactBy_of_isLeaf h, leaves_of_isLeaf h]
  | arr xs ih =>
    rw [exactBy, exactBy, Exact.arr.injEq, itemsExactBy_eq_map, itemsExactBy_eq_map,
      List.map_inj_left]
    constructor
    · intro h x hx
      obtain ⟨y, hy, hx⟩ := mem_leaves_arr.1 hx
      exact (ih y hy).1 (h y hy) x hx
    · exact fun h y hy => (ih y hy).2 fun x hx => h x (mem_leaves_arr.2 ⟨y, hy, hx⟩)
  | obj fs ih =>
    rw [exactBy_obj, exactBy_obj, Exact.obj.injEq, mapFields, mapFields, List.map_inj_left]
    constructor
    · intro h x hx
      obtain ⟨p, hp, hx⟩ := mem_leaves_obj.1 hx
      exact (ih p (mem_of_mem_mergeKeys hp)).1 (Prod.mk.inj (h p hp)).2 x hx
    · intro h p hp
      refine Prod.ext rfl ((ih p (mem_of_mem_mergeKeys hp)).2 fun x hx => ?_)
      exact h x (mem_leaves_obj.2 ⟨p, hp, hx⟩)

/-- What a leaf says. -/
def exactLeaf : Document → Exact
  | .bool b => .bool b
  | .number n => .number n.value
  | .nonFinite x => .nonFinite x
  | .str s => .str s
  | _ => .null

/-- What a document says. -/
def exact (d : Document) : Exact := d.exactBy exactLeaf

end Document

/-! ### What a written value says -/

mutual

/-- What the text of a value says. A number that is not finite is written as null. -/
def exact : Json → Exact
  | .null => .null
  | .bool b => .bool b
  | .int n => .number n
  | .float x => .number x.written
  | .nonFinite _ => .null
  | .str s => .str s
  | .arr xs => .arr (itemsExact xs)
  | .obj fs => .obj (mergeKeys (fieldsExact fs))

/-- What the texts of the items of an array say. -/
def itemsExact : List Json → List Exact
  | [] => []
  | x :: r => x.exact :: itemsExact r

/-- What the texts of the fields of an object say. -/
def fieldsExact : List (Text × Json) → List (Text × Exact)
  | [] => []
  | (k, x) :: r => (k, x.exact) :: fieldsExact r

end

theorem fieldsExact_eq_mapFields (fs : List (Text × Json)) :
    fieldsExact fs = mapFields exact fs := by
  induction fs with
  | nil => rfl
  | cons f r ih => exact congrArg (_ :: ·) ih

/-- What an object says does not depend on whether its fields were merged before. -/
theorem exact_obj_collectFields (fs : List (Text × Json)) :
    (obj (collectFields fs)).exact = (obj fs).exact := by
  simp only [exact, fieldsExact_eq_mapFields, ← mapFields_mergeKeys, collectFields_eq_mergeKeys,
    mergeKeys_mergeKeys]

/-! ### What is written for a document -/

section

variable {reading : Reading}

/-- What is said by the text that is written for a leaf once it was read. -/
def writtenLeaf (reading : Reading) (d : Document) : Exact :=
  match d.toJson? reading with
  | some v => v.exact
  | none => .null

/-- The text of the value of a document says what the document does, but for its leaves, which say
what is written for them. -/
theorem exact_of_toJson? {d : Document} {v : Json} (h : d.toJson? reading = some v) :
    v.exact = d.exactBy (writtenLeaf reading) := by
  refine toJson?_induction (motive := fun d v => v.exact = d.exactBy (writtenLeaf reading))
    ?leaf ?arr ?obj h
  case leaf =>
    intro d v hleaf h
    rw [Document.exactBy_of_isLeaf hleaf, writtenLeaf, h]
  case arr =>
    intro ds vs hall
    refine congrArg Exact.arr ?_
    induction hall with
    | nil => rfl
    | cons hv _ ih => exact congrArg₂ List.cons hv ih
  case obj =>
    intro ds fs hall
    rw [exact_obj_collectFields]
    refine congrArg (fun es => Exact.obj (mergeKeys es)) ?_
    induction hall with
    | nil => rfl
    | cons hf _ ih => exact congrArg₂ List.cons (Prod.ext hf.1.symm hf.2) ih

/-! ### Numbers that are kept -/

/-- Whether a number is written as itself once it was read: it is an integer that fits into a
machine word, or one of the numbers as which doubles are written. -/
def Numeral.IsKept (n : Numeral) : Prop :=
  (n.whole = true ∧ fitsWord (Text.signed n.negative n.digits) = true) ∨
    ∃ x : Binary64, x.written = n.value

/-- Whether a leaf is one that a strict text has: its number is finite, and an integer has no
exponent. -/
def Document.IsStrictLeaf : Document → Prop
  | .number n => n.whole = true → n.exponent = 0
  | .nonFinite _ | .arr _ | .obj _ => False
  | _ => True

theorem Numeral.value_of_whole {n : Numeral} (h : n.exponent = 0) :
    n.value = Text.signed n.negative n.digits := by
  rw [Numeral.value, h, zpow_zero, mul_one, Binary64.withSign, Text.signed]
  split <;> simp

section

variable {n : Numeral}

/-- An integer of a machine word is written as it is. -/
theorem writtenLeaf_of_fitsWord (hwhole : n.whole = true)
    (hword : fitsWord (Text.signed n.negative n.digits) = true) :
    writtenLeaf reading (.number n) = .number (Text.signed n.negative n.digits) := by
  have hjson : n.toJson? reading = some (.int (Text.signed n.negative n.digits)) := by
    simp [Numeral.toJson?, hwhole, hword]
  rw [writtenLeaf, Document.toJson?, hjson]
  rfl

/-- Any other number is written as the nearest double, or as no number if it is too large. -/
theorem writtenLeaf_eq_number_iff (hr : reading.keepsIntegers = false)
    (hword : ¬ (n.whole = true ∧ fitsWord (Text.signed n.negative n.digits) = true)) {q : ℚ} :
    writtenLeaf reading (.number n) = .number q ↔
      ∃ x, Binary64.ofDecimal? n.negative n.digits n.exponent = some x ∧ x.written = q := by
  have hcond : (n.whole && (reading.keepsIntegers ||
      fitsWord (Text.signed n.negative n.digits))) = false := by
    simpa [hr] using hword
  cases hdecimal : Binary64.ofDecimal? n.negative n.digits n.exponent with
  | some x =>
    have hjson : n.toJson? reading = some (.float x) := by
      simp [Numeral.toJson?, hcond, hdecimal]
    rw [writtenLeaf, Document.toJson?, hjson]
    simp [exact]
  | none =>
    cases hlenient : reading.lenient <;>
      simp [writtenLeaf, Document.toJson?, Numeral.toJson?, hcond, hdecimal, hlenient, exact]

end

/-- What is written for a number says its value exactly if it is kept. -/
theorem Numeral.says_iff_isKept (hr : reading.keepsIntegers = false) {n : Numeral}
    (hn : (Document.number n).IsStrictLeaf) :
    writtenLeaf reading (.number n) = .number n.value ↔ n.IsKept := by
  by_cases hword : n.whole = true ∧ fitsWord (Text.signed n.negative n.digits) = true
  · refine iff_of_true ?_ (.inl hword)
    rw [writtenLeaf_of_fitsWord hword.1 hword.2, Numeral.value_of_whole (hn hword.1)]
  rw [writtenLeaf_eq_number_iff hr hword]
  constructor
  · rintro ⟨x, -, hx⟩
    exact .inr ⟨x, hx⟩
  · rintro (h | ⟨x, hx⟩)
    · exact absurd h hword
    · exact Binary64.ofDecimal?_of_written_eq hx

/-- Whatever is no number is written as itself. -/
theorem writtenLeaf_of_ne_number {x : Document} (hx : x.IsStrictLeaf)
    (h : ∀ n, x ≠ .number n) : writtenLeaf reading x = x.exactLeaf := by
  cases x with
  | number n => exact absurd rfl (h n)
  | nonFinite x => exact absurd hx id
  | arr xs => exact absurd hx id
  | obj fs => exact absurd hx id
  | _ => rfl

/-- A document with strict leaves is written as itself exactly if all its numbers that count are
kept. -/
theorem Document.exactBy_writtenLeaf_eq_iff (hr : reading.keepsIntegers = false) {d : Document}
    (hd : ∀ x ∈ d.leaves, x.IsStrictLeaf) :
    d.exactBy (writtenLeaf reading) = d.exact ↔
      ∀ n, .number n ∈ d.leaves → n.IsKept := by
  rw [Document.exact, Document.exactBy_eq_iff]
  refine ⟨fun h n hn => (Numeral.says_iff_isKept hr (hd _ hn)).1 (h _ hn), fun h x hx => ?_⟩
  by_cases hnumber : ∃ n, x = .number n
  · obtain ⟨n, rfl⟩ := hnumber
    exact (Numeral.says_iff_isKept hr (hd _ hx)).2 (h n hx)
  · exact writtenLeaf_of_ne_number (hd x hx) fun n hn => hnumber ⟨n, hn⟩

end

end ChannelConsole.Json
