import ChannelConsole.Proofs.Json.Documents
import ChannelConsole.Proofs.Json.Fields
import ChannelConsole.Proofs.Json.Token

/-!
# Integers of values that were read

A reading that does not keep integers outside the machine words gives values whose integers fit into
such words (`integersFit_of_read?`): an integer that does not fit has become a number with a
fraction. So of what it takes to write such a value, only whole characters and the nesting are left
(`isWritable_iff_of_read?`). Integers also fit if there are no other numbers than integers of
machine words (`integersFit_of_hasOnlyWords`), since a weaker test holds of every leaf as well.
-/

namespace ChannelConsole.Json

/-- Whether a leaf of a value is no integer that does not fit into a machine word. -/
def isFittingLeaf : Json → Bool
  | .int n => fitsWord n
  | _ => true

/-! ### Weaker tests -/

mutual

/-- A weaker test holds of every leaf as well. -/
theorem everyLeaf_mono {test test' : Json → Bool} (hweaker : ∀ v, test v = true → test' v = true) :
    ∀ {v : Json}, v.everyLeaf test = true → v.everyLeaf test' = true
  | .null, h => hweaker .null h
  | .bool b, h => hweaker (.bool b) h
  | .int n, h => hweaker (.int n) h
  | .float x, h => hweaker (.float x) h
  | .nonFinite x, h => hweaker (.nonFinite x) h
  | .str s, h => hweaker (.str s) h
  | .arr _, h => everyLeafOfItems_mono hweaker h
  | .obj _, h => everyLeafOfFields_mono hweaker h

/-- The same for the items of an array. -/
theorem everyLeafOfItems_mono {test test' : Json → Bool}
    (hweaker : ∀ v, test v = true → test' v = true) : ∀ {xs : List Json},
    everyLeafOfItems test xs = true → everyLeafOfItems test' xs = true
  | [], _ => rfl
  | x :: xs, h => by
    rw [everyLeafOfItems, Bool.and_eq_true] at h ⊢
    exact ⟨everyLeaf_mono hweaker h.1, everyLeafOfItems_mono hweaker h.2⟩

/-- The same for the fields of an object. -/
theorem everyLeafOfFields_mono {test test' : Json → Bool}
    (hweaker : ∀ v, test v = true → test' v = true) : ∀ {fs : List (Text × Json)},
    everyLeafOfFields test fs = true → everyLeafOfFields test' fs = true
  | [], _ => rfl
  | (k, x) :: fs, h => by
    rw [everyLeafOfFields, Bool.and_eq_true, Bool.and_eq_true] at h ⊢
    exact ⟨⟨hweaker (.str k) h.1.1, everyLeaf_mono hweaker h.1.2⟩,
      everyLeafOfFields_mono hweaker h.2⟩

end

theorem integersFit_of_hasOnlyWords {v : Json} (h : v.hasOnlyWords = true) :
    v.integersFit = true := by
  refine everyLeaf_mono (fun w hw => ?_) h
  cases w with
  | int n => exact hw
  | _ => rfl

/-! ### Fields of objects -/

theorem everyLeafOfFields_iff {test : Json → Bool} {fs : List (Text × Json)} :
    everyLeafOfFields test fs = true ↔
      ∀ f ∈ fs, test (.str f.1) = true ∧ f.2.everyLeaf test = true := by
  induction fs with
  | nil => simp [everyLeafOfFields]
  | cons f fs ih =>
    rw [everyLeafOfFields, Bool.and_eq_true, Bool.and_eq_true, ih, List.forall_mem_cons]

/-- What holds of every leaf of fields holds of every leaf once they are collected. -/
theorem everyLeafOfFields_collectFields {test : Json → Bool} {fs : List (Text × Json)}
    (h : everyLeafOfFields test fs = true) : everyLeafOfFields test (collectFields fs) = true := by
  rw [everyLeafOfFields_iff] at h ⊢
  exact fun f hf => h f (mem_of_mem_collectFields hf)

/-! ### Values of documents -/

variable {reading : Reading} {test : Json → Bool}

/-- What holds of every leaf of the values of documents holds of every leaf of the array of these
values. -/
theorem everyLeafOfItems_of_forall₂ {ds : List Document} {vs : List Json}
    (h : List.Forall₂ (fun _ v => v.everyLeaf test = true) ds vs) :
    everyLeafOfItems test vs = true := by
  induction h with
  | nil => rfl
  | cons hv _ ih => rw [everyLeafOfItems, hv, ih, Bool.and_self]

/-- The same for the object with these values, where the keys are to be tested as well. -/
theorem everyLeafOfFields_of_forall₂ {ds : List (Text × Document)} {fs : List (Text × Json)}
    (hkeys : ∀ p ∈ ds, test (.str p.1) = true)
    (h : List.Forall₂ (fun p f => p.1 = f.1 ∧ f.2.everyLeaf test = true) ds fs) :
    everyLeafOfFields test fs = true := by
  induction h with
  | nil => rfl
  | @cons p f _ _ hf _ ih =>
    obtain ⟨hkey, hrest⟩ := List.forall_mem_cons.1 hkeys
    rw [everyLeafOfFields, ← hf.1, hkey, hf.2, ih hrest]
    rfl

theorem everyLeaf_numeral (hr : reading.keepsIntegers = false) {n : Numeral} {v : Json}
    (h : n.toJson? reading = some v) : v.everyLeaf isFittingLeaf = true := by
  rw [Numeral.toJson?] at h
  split at h
  · rename_i hwhole
    obtain rfl := Option.some.inj h
    simp only [hr, Bool.false_or, Bool.and_eq_true] at hwhole
    exact hwhole.2
  · split at h
    · obtain rfl := Option.some.inj h
      rfl
    · split at h
      · obtain rfl := Option.some.inj h
        rfl
      · simp at h

/-- Every integer in the value of a document fits into a machine word. -/
theorem everyLeaf_toJson? (hr : reading.keepsIntegers = false) {d : Document} {v : Json}
    (h : d.toJson? reading = some v) : v.everyLeaf isFittingLeaf = true := by
  refine toJson?_induction (motive := fun _ v => v.everyLeaf isFittingLeaf = true)
    ?leaf ?arr ?obj h
  case leaf =>
    intro d v hleaf h
    cases d with
    | number n => exact everyLeaf_numeral hr h
    | arr ds => cases hleaf
    | obj ds => cases hleaf
    | _ =>
      obtain rfl := Option.some.inj h
      rfl
  case arr => exact fun ds vs hall => everyLeafOfItems_of_forall₂ hall
  case obj =>
    exact fun ds fs hall =>
      everyLeafOfFields_collectFields (everyLeafOfFields_of_forall₂ (fun _ _ => rfl) hall)

/-- Every integer in a value that was read fits into a machine word. -/
theorem integersFit_of_read? (hr : reading.keepsIntegers = false) {s : Text} {v : Json}
    (h : read? reading s = some v) : v.integersFit = true := by
  obtain ⟨d, -, hd⟩ := exists_document_of_read? h
  exact everyLeaf_toJson? hr hd

/-- What was read can be written exactly if its texts consist of whole characters and it is not
nested too deeply. -/
theorem isWritable_iff_of_read? (hr : reading.keepsIntegers = false) {s : Text} {v : Json}
    (h : read? reading s = some v) :
    v.isWritable = true ↔ v.isEncodable = true ∧ v.depth ≤ maxWrittenDepth := by
  rw [isWritable, integersFit_of_read? hr h]
  simp

end ChannelConsole.Json
