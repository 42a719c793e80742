import ChannelConsole.Proofs.Names
import ChannelConsole.Provider.Discovery

/-!
# Lists of models in answers

A provider may put anything in the place of its list of models. Names that are texts are found in it
exactly if it has the shape that is looked for (`isBorne_namesIn_iff`): there is something to go
through, and every object in it has a text, or something void, in the place of its name. What is no
object is passed over. Where a name must be a text and it is also asked what the model can do, there
must be something to look through as well.

In any other list something is met that cannot be used, and the fault is not one that is reported.
Lists of numbers are the exception: the numbers are given as they are
(`not_areTexts_plainNames_iff`).
-/

namespace ChannelConsole

open Model

namespace Provider

variable {xs : List Name}

theorem silent_sortedNames {fault : Fault} (h : sortedNames xs = .error fault) :
    fault.message? = none := by
  unfold sortedNames at h
  dsimp only at h
  split at h
  · cases h
  · rw [← Except.error.inj h]
    rfl

/-! ### Values in the place of names -/

/-- Whether a value is void or is a name of some kind. -/
def MayName (isKind : Name → Bool) (v : Json) : Prop :=
  v.isVoid = true ∨ ∃ n, Name.ofJson? v = some n ∧ isKind n = true

/-- What comes of a list of values of which each may come to something. -/
theorem mapM_eq {α β : Type} (f : α → Option β) (xs : List α) :
    xs.mapM f = if xs.all fun x => (f x).isSome then some (xs.filterMap f) else none := by
  induction xs with
  | nil => rfl
  | cons x xs ih =>
    rw [List.mapM_cons, List.all_cons, List.filterMap_cons, ih]
    cases hx : f x with
    | none => rfl
    | some y => cases hall : xs.all fun x => (f x).isSome <;> rfl

/-- A list of values has an item that is no name at all, or comes to names that are of one kind
exactly if the values are. -/
theorem sortedIds_cases (xs : List Json) :
    (sortedIds xs = .error .wrongKind ∧ ∃ v ∈ xs, ∀ isKind, ¬ MayName isKind v) ∨
      ∃ names, sortedIds xs = sortedNames names ∧
        ∀ isKind : Name → Bool, (∀ n ∈ names, n.isVoid = true ∨ isKind n = true) ↔
          ∀ v ∈ xs, MayName isKind v := by
  unfold sortedIds
  rw [mapM_eq]
  by_cases hall : (xs.filter (!·.isVoid)).all fun v => (Name.ofJson? v).isSome
  · rw [if_pos hall]
    refine .inr ⟨_, rfl, fun isKind => ⟨fun h v hv => ?_, fun h n hn => ?_⟩⟩
    · by_cases hvoid : v.isVoid = true
      · exact .inl hvoid
      have hsolid : v ∈ xs.filter (!·.isVoid) := List.mem_filter.2 ⟨hv, by simp [hvoid]⟩
      obtain ⟨n, hname⟩ := Option.isSome_iff_exists.1 (List.all_eq_true.1 hall v hsolid)
      have hn := h n (List.mem_filterMap.2 ⟨v, hsolid, hname⟩)
      rw [Name.isVoid_of_ofJson? hname] at hn
      exact .inr ⟨n, hname, hn.resolve_left hvoid⟩
    · obtain ⟨v, hsolid, hname⟩ := List.mem_filterMap.1 hn
      have hv := h v (List.mem_filter.1 hsolid).1
      rw [Name.isVoid_of_ofJson? hname]
      refine hv.imp_right ?_
      rintro ⟨m, hm, hkind⟩
      rwa [Option.some.inj (hname.symm.trans hm)]
  · rw [if_neg hall]
    simp only [List.all_eq_true, not_forall] at hall
    obtain ⟨v, hsolid, hnone⟩ := hall
    obtain ⟨hv, hvoid⟩ := List.mem_filter.1 hsolid
    refine .inl ⟨rfl, v, hv, fun isKind => ?_⟩
    rintro (hvoid' | ⟨n, hname, -⟩)
    · simp [hvoid'] at hvoid
    · simp [hname] at hnone

variable {vs : List Json}

/-- Whether a field of an object has something that can be gone through, in which every object is as
it should be. A missing field counts as an empty list, and what is no object is passed over. -/
def Lists (body : List (Text × Json)) (field : Text) (P : List (Text × Json) → Prop) : Prop :=
  ∃ vs, elements? (fieldOr body field (.arr [])) = some vs ∧ ∀ fs, .obj fs ∈ vs → P fs

variable {body : List (Text × Json)} {field nameField : Text}

/-- Whether a field lists objects is decided by the objects that are read from it. -/
theorem objectsIn_cases (body : List (Text × Json)) (field : Text) :
    (objectsIn body field = .error .wrongKind ∧ ∀ P, ¬ Lists body field P) ∨
      ∃ objects, objectsIn body field = .ok objects ∧
        ∀ P, Lists body field P ↔ ∀ fs ∈ objects, P fs := by
  unfold objectsIn Lists
  cases elements? (fieldOr body field (.arr [])) with
  | none => exact .inl ⟨rfl, by simp⟩
  | some vs =>
    refine .inr ⟨_, rfl, fun P => ?_⟩
    simp only [Option.some.injEq, exists_eq_left', List.mem_filterMap]
    constructor
    · rintro h fs ⟨v, hv, hfs⟩
      cases v <;> cases hfs
      exact h fs hv
    · exact fun h fs hfs => h fs ⟨_, hfs, rfl⟩

theorem silent_plainNames {fault : Fault} (h : plainNames body field nameField = .error fault) :
    fault.message? = none := by
  unfold plainNames at h
  rcases objectsIn_cases body field with ⟨herror, -⟩ | ⟨objects, hobjects, -⟩
  · rw [herror] at h
    rw [← Except.error.inj h]
    rfl
  · rw [hobjects] at h
    dsimp only at h
    rcases sortedIds_cases (objects.map fun fs => fieldOr fs nameField (.str "")) with
      ⟨herror, -⟩ | ⟨names, hnames, -⟩
    · rw [herror] at h
      rw [← Except.error.inj h]
      rfl
    · rw [hnames] at h
      exact silent_sortedNames h

end Provider

end ChannelConsole
