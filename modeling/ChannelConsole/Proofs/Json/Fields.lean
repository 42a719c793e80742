import ChannelConsole.Json.Basic

/-!
# Fields with a key each

The fields of an object are given one after the other, and one that has the key of an earlier one
sets the value of that. This is done alike for values of any kind (`mergeKeys`), so it does not
matter whether values are replaced by others before or after it (`mapFields_mergeKeys`). What comes
of it are some of the fields (`mem_of_mem_mergeKeys`), with distinct keys (`nodup_keys_mergeKeys`);
fields with distinct keys stay as they are (`mergeKeys_eq_self`).
-/

namespace ChannelConsole.Json

section

variable {α β : Type}

/-- Set the value of a key: an existing one keeps its place, a new one comes last. -/
def setKey (key : Text) (v : α) : List (Text × α) → List (Text × α)
  | [] => [(key, v)]
  | (k, w) :: r => if k = key then (key, v) :: r else (k, w) :: setKey key v r

/-- The fields given one after the other, where a later one with the same key sets the value of the
earlier one. -/
def mergeKeys (fields : List (Text × α)) : List (Text × α) :=
  fields.foldl (fun acc f => setKey f.1 f.2 acc) []

/-- The fields with another value each. -/
def mapFields (f : α → β) (fields : List (Text × α)) : List (Text × β) :=
  fields.map fun p => (p.1, f p.2)

variable {fields : List (Text × α)}

/-! ### Setting a key -/

theorem mapFields_setKey (f : α → β) (key : Text) (v : α) (fields : List (Text × α)) :
    mapFields f (setKey key v fields) = setKey key (f v) (mapFields f fields) := by
  induction fields with
  | nil => rfl
  | cons p r ih =>
    obtain ⟨k, w⟩ := p
    by_cases hk : k = key
    · simp [setKey, mapFields, hk]
    · have hcons := congrArg ((k, f w) :: ·) ih
      simpa [setKey, mapFields, hk] using hcons

theorem mem_setKey {key : Text} {v : α} {p : Text × α} (h : p ∈ setKey key v fields) :
    p = (key, v) ∨ p ∈ fields := by
  induction fields with
  | nil => exact .inl (List.mem_singleton.1 h)
  | cons q r ih =>
    obtain ⟨k, w⟩ := q
    unfold setKey at h
    split at h
    · exact (List.mem_cons.1 h).imp_right (List.mem_cons_of_mem _)
    · rcases List.mem_cons.1 h with rfl | h
      · exact .inr List.mem_cons_self
      · exact (ih h).imp_right (List.mem_cons_of_mem _)

theorem nodup_keys_setKey {key : Text} {v : α} (h : (fields.map Prod.fst).Nodup) :
    ((setKey key v fields).map Prod.fst).Nodup := by
  induction fields with
  | nil => simp [setKey]
  | cons p r ih =>
    obtain ⟨k, w⟩ := p
    obtain ⟨hnew, hrest⟩ := List.nodup_cons.1 h
    unfold setKey
    split
    · rename_i hk
      exact hk ▸ h
    · rename_i hk
      refine List.nodup_cons.2 ⟨fun hmem => ?_, ih hrest⟩
      obtain ⟨q, hq, rfl⟩ := List.mem_map.1 hmem
      rcases mem_setKey hq with rfl | hq
      · exact hk rfl
      · exact hnew (List.mem_map.2 ⟨q, hq, rfl⟩)

/-- A new key comes last. -/
theorem setKey_of_notMem {key : Text} (v : α) (h : key ∉ fields.map Prod.fst) :
    setKey key v fields = fields ++ [(key, v)] := by
  induction fields with
  | nil => rfl
  | cons p r ih =>
    obtain ⟨k, w⟩ := p
    rw [List.map_cons, List.mem_cons, not_or] at h
    rw [setKey, if_neg (Ne.symm h.1), ih h.2, List.cons_append]

/-! ### Merging -/

/-- It does not matter whether values are replaced before or after fields are merged. -/
theorem mapFields_mergeKeys (f : α → β) (fields : List (Text × α)) :
    mapFields f (mergeKeys fields) = mergeKeys (mapFields f fields) := by
  rw [mergeKeys, mergeKeys, mapFields.eq_def f fields, List.foldl_map]
  exact (List.foldl_hom (mapFields f) fun acc p => (mapFields_setKey f p.1 p.2 acc).symm).symm

/-- Merging makes up no fields. -/
theorem mem_of_mem_mergeKeys {p : Text × α} (h : p ∈ mergeKeys fields) : p ∈ fields := by
  have hall : ∀ p ∈ mergeKeys fields, p ∈ fields :=
    List.foldlRecOn (motive := fun acc => ∀ p ∈ acc, p ∈ fields) fields _ (List.forall_mem_nil _)
      fun acc hacc f hf p hp => (mem_setKey hp).elim (fun heq => heq ▸ hf) (hacc p)
  exact hall p h

theorem nodup_keys_mergeKeys (fields : List (Text × α)) :
    ((mergeKeys fields).map Prod.fst).Nodup :=
  List.foldlRecOn (motive := fun acc => (List.map Prod.fst acc).Nodup) fields _ List.nodup_nil
    fun _ hacc _ _ => nodup_keys_setKey hacc

/-- Fields with distinct keys are merged into themselves. -/
theorem mergeKeys_eq_self (h : (fields.map Prod.fst).Nodup) : mergeKeys fields = fields := by
  -- with `acc` merged already, the keys of the rest are none of those in `acc`
  have hfold : ∀ rest acc : List (Text × α), ((acc ++ rest).map Prod.fst).Nodup →
      rest.foldl (fun acc f => setKey f.1 f.2 acc) acc = acc ++ rest := by
    intro rest
    induction rest with
    | nil => simp
    | cons f rest ih =>
      intro acc hacc
      have hf : f.1 ∉ acc.map Prod.fst := by
        rw [List.map_append, List.map_cons, List.nodup_append] at hacc
        intro hmem
        exact hacc.2.2 _ hmem _ (by simp) rfl
      rw [List.foldl_cons, setKey_of_notMem f.2 hf, ih _ (by simpa using hacc)]
      simp
  exact hfold fields [] h

theorem mergeKeys_mergeKeys (fields : List (Text × α)) :
    mergeKeys (mergeKeys fields) = mergeKeys fields :=
  mergeKeys_eq_self (nodup_keys_mergeKeys fields)

end

/-! ### Fields of values -/

variable {fs : List (Text × Json)}

theorem setField_eq_setKey (key : Text) (v : Json) (fs : List (Text × Json)) :
    setField key v fs = setKey key v fs := by
  induction fs with
  | nil => rfl
  | cons f r ih => rw [setField, setKey, ih]

/-- The fields of a value are merged like any others. -/
theorem collectFields_eq_mergeKeys (fs : List (Text × Json)) :
    collectFields fs = mergeKeys fs := by
  simp only [collectFields, mergeKeys, setField_eq_setKey]

/-- Fields with distinct keys are collected as they are. -/
theorem collectFields_eq_self (h : (fs.map Prod.fst).Nodup) : collectFields fs = fs := by
  rw [collectFields_eq_mergeKeys, mergeKeys_eq_self h]

theorem mem_of_mem_collectFields {f : Text × Json} (h : f ∈ collectFields fs) : f ∈ fs := by
  rw [collectFields_eq_mergeKeys] at h
  exact mem_of_mem_mergeKeys h

end ChannelConsole.Json
