import ChannelConsole.Proofs.Json.Documents
import ChannelConsole.Proofs.Json.Fields

/-!
# Keys of objects

An object that is read has every key only once, since a later field with the same key takes the
place of the earlier one (`hasDistinctKeys_of_read?`).
-/

namespace ChannelConsole.Json

mutual

/-- Whether no object in a value has a key twice. -/
def hasDistinctKeys : Json → Bool
  | .arr xs => itemsHaveDistinctKeys xs
  | .obj fs => decide (fs.map Prod.fst).Nodup && fieldsHaveDistinctKeys fs
  | _ => true

/-- Whether no object in the items of an array has a key twice. -/
def itemsHaveDistinctKeys : List Json → Bool
  | [] => true
  | x :: r => x.hasDistinctKeys && itemsHaveDistinctKeys r

/-- Whether no object in the values of fields has a key twice. -/
def fieldsHaveDistinctKeys : List (Text × Json) → Bool
  | [] => true
  | (_, x) :: r => x.hasDistinctKeys && fieldsHaveDistinctKeys r

end

theorem fieldsHaveDistinctKeys_iff {fs : List (Text × Json)} :
    fieldsHaveDistinctKeys fs = true ↔ ∀ f ∈ fs, f.2.hasDistinctKeys = true := by
  induction fs with
  | nil => simp [fieldsHaveDistinctKeys]
  | cons f fs ih => rw [fieldsHaveDistinctKeys, Bool.and_eq_true, ih, List.forall_mem_cons]

/-- Fields that are given one after the other come to have each key only once. -/
theorem hasDistinctKeys_collectFields {fs : List (Text × Json)}
    (h : fieldsHaveDistinctKeys fs = true) : (obj (collectFields fs)).hasDistinctKeys = true := by
  rw [fieldsHaveDistinctKeys_iff] at h
  rw [hasDistinctKeys, Bool.and_eq_true, decide_eq_true_eq, fieldsHaveDistinctKeys_iff]
  refine ⟨?_, fun f hf => h f (mem_of_mem_collectFields hf)⟩
  rw [collectFields_eq_mergeKeys]
  exact nodup_keys_mergeKeys fs

/-! ### Values of documents -/

/-- No object in the value of a document has a key twice. -/
theorem hasDistinctKeys_toJson? {reading : Reading} {d : Document} {v : Json}
    (h : d.toJson? reading = some v) : v.hasDistinctKeys = true := by
  refine toJson?_induction (motive := fun _ v => v.hasDistinctKeys = true) ?leaf ?arr ?obj h
  case leaf =>
    intro d v hleaf h
    have hdepth := depth_of_isLeaf hleaf h
    cases v with
    | arr xs => exact absurd hdepth (Nat.succ_ne_zero _)
    | obj fs => exact absurd hdepth (Nat.succ_ne_zero _)
    | _ => rfl
  case arr =>
    intro ds vs hall
    show itemsHaveDistinctKeys vs = true
    induction hall with
    | nil => rfl
    | cons hv _ ih => rw [itemsHaveDistinctKeys, hv, ih, Bool.and_self]
  case obj =>
    intro ds fs hall
    refine hasDistinctKeys_collectFields ?_
    induction hall with
    | nil => rfl
    | cons hf _ ih => rw [fieldsHaveDistinctKeys, hf.2, ih, Bool.and_self]

/-- No object in a value that was read has a key twice. -/
theorem hasDistinctKeys_of_read? {reading : Reading} {s : Text} {v : Json}
    (h : read? reading s = some v) : v.hasDistinctKeys = true := by
  obtain ⟨d, -, hd⟩ := exists_document_of_read? h
  exact hasDistinctKeys_toJson? hd

end ChannelConsole.Json
