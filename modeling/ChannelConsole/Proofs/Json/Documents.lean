import ChannelConsole.Json.Reader
import Mathlib.Data.List.Forall2

/-!
# Induction over documents

A document is a leaf, an array or an object. What holds of leaves, and of arrays and objects if it
holds of all that is in them, holds of every document (`Document.induction`). A document and its
value have the same shape, so the same can be said of the two of them together
(`toJson?_induction`); only the fields of an object are merged in its value.
-/

namespace ChannelConsole.Json

/-- Whether a document is neither an array nor an object. -/
def Document.isLeaf : Document → Bool
  | .arr _ | .obj _ => false
  | _ => true

/-- What holds of leaves, and of arrays and objects if it holds of what is in them, holds of every
document. -/
theorem Document.induction {motive : Document → Prop} (leaf : ∀ d, d.isLeaf = true → motive d)
    (arr : ∀ xs, (∀ x ∈ xs, motive x) → motive (.arr xs))
    (obj : ∀ fs, (∀ p ∈ fs, motive p.2) → motive (.obj fs)) (d : Document) : motive d :=
  @Document.rec motive (fun xs => ∀ x ∈ xs, motive x) (fun fs => ∀ p ∈ fs, motive p.2)
    (fun p => motive p.2) (leaf _ rfl) (fun _ => leaf _ rfl) (fun _ => leaf _ rfl)
    (fun _ => leaf _ rfl) (fun _ => leaf _ rfl) arr obj
    (List.forall_mem_nil _) (fun _ _ hx hr => List.forall_mem_cons.2 ⟨hx, hr⟩)
    (List.forall_mem_nil _) (fun _ _ hp hr => List.forall_mem_cons.2 ⟨hp, hr⟩) (fun _ _ h => h) d

section

variable {reading : Reading} {motive : Document → Json → Prop}

/-- The value of a leaf is neither an array nor an object. -/
theorem depth_of_isLeaf {d : Document} {v : Json} (hleaf : d.isLeaf = true)
    (h : d.toJson? reading = some v) : v.depth = 0 := by
  cases d with
  | number n =>
    rw [Document.toJson?, Numeral.toJson?] at h
    split at h
    · obtain rfl := Option.some.inj h
      rfl
    · split at h
      · obtain rfl := Option.some.inj h
        rfl
      · split at h
        · obtain rfl := Option.some.inj h
          rfl
        · cases h
  | arr xs => cases hleaf
  | obj fs => cases hleaf
  | _ =>
    obtain rfl := Option.some.inj h
    rfl

theorem forall₂_of_itemsToJson? {ds : List Document} {vs : List Json}
    (hall : ∀ d ∈ ds, ∀ v, d.toJson? reading = some v → motive d v)
    (h : Document.itemsToJson? reading ds = some vs) : List.Forall₂ motive ds vs := by
  induction ds generalizing vs with
  | nil =>
    obtain rfl := Option.some.inj h
    exact .nil
  | cons d ds ih =>
    obtain ⟨hd, hds⟩ := List.forall_mem_cons.1 hall
    rw [Document.itemsToJson?] at h
    split at h
    · rename_i v vs hv hvs
      obtain rfl := Option.some.inj h
      exact .cons (hd v hv) (ih hds hvs)
    · cases h

theorem forall₂_of_fieldsToJson? {ds : List (Text × Document)} {fs : List (Text × Json)}
    (hall : ∀ p ∈ ds, ∀ v, p.2.toJson? reading = some v → motive p.2 v)
    (h : Document.fieldsToJson? reading ds = some fs) :
    List.Forall₂ (fun p f => p.1 = f.1 ∧ motive p.2 f.2) ds fs := by
  induction ds generalizing fs with
  | nil =>
    obtain rfl := Option.some.inj h
    exact .nil
  | cons p ds ih =>
    obtain ⟨hp, hds⟩ := List.forall_mem_cons.1 hall
    rw [Document.fieldsToJson?] at h
    split at h
    · rename_i v fs hv hfs
      obtain rfl := Option.some.inj h
      exact .cons ⟨rfl, hp v hv⟩ (ih hds hfs)
    · cases h

/-- What holds of leaves and their values, and of arrays and objects if it holds of what is in them,
holds of every document and its value. -/
theorem toJson?_induction
    (leaf : ∀ d v, d.isLeaf = true → d.toJson? reading = some v → motive d v)
    (arr : ∀ ds vs, List.Forall₂ motive ds vs → motive (.arr ds) (.arr vs))
    (obj : ∀ ds fs, List.Forall₂ (fun p f => p.1 = f.1 ∧ motive p.2 f.2) ds fs →
      motive (.obj ds) (.obj (collectFields fs)))
    {d : Document} {v : Json} (h : d.toJson? reading = some v) : motive d v := by
  induction d using Document.induction generalizing v with
  | leaf d hleaf => exact leaf d v hleaf h
  | arr ds ih =>
    rw [Document.toJson?, Option.map_eq_some_iff] at h
    obtain ⟨vs, hvs, rfl⟩ := h
    exact arr ds vs (forall₂_of_itemsToJson? (fun d hd v hv => ih d hd hv) hvs)
  | obj ds ih =>
    rw [Document.toJson?, Option.map_eq_some_iff] at h
    obtain ⟨fs, hfs, rfl⟩ := h
    exact obj ds fs (forall₂_of_fieldsToJson? (fun p hp v hv => ih p hp hv) hfs)

end

/-- A value that is read is the value of the document that is read. -/
theorem exists_document_of_read? {reading : Reading} {s : Text} {v : Json}
    (h : read? reading s = some v) :
    ∃ d, Document.read reading s = .ok d ∧ d.toJson? reading = some v := by
  unfold read? read at h
  split at h
  · cases h
  · rename_i d hread
    split at h
    · rename_i w hjson
      obtain rfl := Option.some.inj h
      exact ⟨d, hread, hjson⟩
    · cases h

end ChannelConsole.Json
