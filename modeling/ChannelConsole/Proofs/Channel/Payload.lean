import ChannelConsole.Channel.Payload

/-!
# Which values are records

A value is accepted as a channel record exactly if it is an object and each field of a record that
it has is of the kind of that field (`Payload.exists_check_iff`). `Payload.IsRecord` says this
without reading anything: a field may be missing, other fields do not matter, a text or a number may
be null where the field allows for it, and an integer may also come as a truth value, as a double
without a fraction or as a text.
-/

namespace ChannelConsole

namespace Schema

/-- Whether a value stands for an integer. -/
def IsInteger : Json → Prop
  | .int _ | .bool _ => True
  | .float x => x.isWhole = true ∧ -(Nat.pow 2 63) < x.wholePart ∧ x.wholePart < Nat.pow 2 63
  | .str s => ∃ n, Text.lenientInteger s = .number n
  | _ => False

variable {v : Json}

theorem exists_readInteger_iff {s : Text} :
    (∃ n, readInteger s = .ok n) ↔ ∃ n, Text.lenientInteger s = .number n := by
  unfold readInteger
  cases Text.lenientInteger s <;> simp [refuse, refuseText]

theorem exists_wholeDouble_iff {x : Binary64} :
    (∃ n, wholeDouble x = .ok n) ↔
      x.isWhole = true ∧ -(Nat.pow 2 63) < x.wholePart ∧ x.wholePart < Nat.pow 2 63 := by
  unfold wholeDouble
  split
  · rename_i hwhole
    split
    · rename_i hfits
      exact iff_of_true ⟨_, rfl⟩ ⟨hwhole, hfits⟩
    · rename_i hfits
      exact iff_of_false (fun ⟨n, hn⟩ => by cases hn) fun h => hfits h.2
  · rename_i hwhole
    exact iff_of_false (fun ⟨n, hn⟩ => by cases hn) fun h => hwhole h.1

theorem exists_integer_iff : (∃ n, integer v = .ok n) ↔ IsInteger v := by
  cases v with
  | str s => exact exists_readInteger_iff
  | float x => exact exists_wholeDouble_iff
  | _ => simp [integer, IsInteger, refuse]

theorem exists_nullableInteger_iff :
    (∃ n, nullableInteger v = .ok n) ↔ v = .null ∨ IsInteger v := by
  cases v with
  | null => exact iff_of_true ⟨0, rfl⟩ (.inl rfl)
  | _ => simpa [nullableInteger] using exists_integer_iff

theorem exists_integer?_iff : (∃ n?, integer? v = .ok n?) ↔ v = .null ∨ IsInteger v := by
  cases v with
  | null => exact iff_of_true ⟨none, rfl⟩ (.inl rfl)
  | _ => simpa [integer?, exists_map_iff] using exists_integer_iff

theorem exists_nullableText_iff :
    (∃ s, nullableText v = .ok s) ↔ v = .null ∨ ∃ s, v = .str s := by
  cases v with
  | null => exact iff_of_true ⟨"", rfl⟩ (.inl rfl)
  | _ => simp [nullableText, text_eq_ok_iff]

end Schema

namespace Channel.Payload

open Schema

/-- What a field of a record can hold. -/
inductive FieldKind where
  | text
  | integer
  | integerOrNull

/-- Whether a field of a kind may have a value. Texts may be null. -/
def FieldKind.Admits : FieldKind → Json → Prop
  | .text, v => v = .null ∨ ∃ s, v = .str s
  | .integer, v => IsInteger v
  | .integerOrNull, v => v = .null ∨ IsInteger v

/-- The fields of a record. -/
def fieldKinds : List (Text × FieldKind) :=
  [("id", .integerOrNull), ("name", .text), ("type", .integer), ("key", .text),
    ("openai_organization", .text), ("base_url", .text), ("other", .text), ("models", .text),
    ("group", .text), ("model_mapping", .text), ("status_code_mapping", .text),
    ("setting", .text), ("param_override", .text), ("priority", .integerOrNull),
    ("weight", .integerOrNull), ("tag", .text), ("model_prefix", .text), ("test_model", .text),
    ("auto_ban", .integer), ("status", .integer)]

/-- Whether a value is a record: an object in which each field of a record that is there has a value
of its kind. -/
def IsRecord (v : Json) : Prop :=
  ∃ fields, v = .obj fields ∧ ∀ field ∈ fieldKinds, ∀ w, fields.lookup field.1 = some w →
    field.2.Admits w

theorem not_isRecord_null : ¬ IsRecord .null := by
  rintro ⟨fields, hfields, -⟩
  cases hfields

theorem exists_ofFields_iff {fields : List (Text × Json)} :
    (∃ p, ofFields fields = .ok p) ↔
      ∀ field ∈ fieldKinds, ∀ w, fields.lookup field.1 = some w → field.2.Admits w := by
  simp only [ofFields, exists_and_iff, exists_optional_iff, exists_integer_iff,
    exists_nullableInteger_iff, exists_integer?_iff, exists_nullableText_iff, fieldKinds,
    List.forall_mem_cons, List.not_mem_nil, false_imp_iff, implies_true, FieldKind.Admits,
    and_assoc, and_true]
  -- the start of the record is accepted, and what is left are the fields one by one on both sides
  exact and_iff_right ⟨_, rfl⟩

/-- Exactly the records are accepted. -/
theorem exists_check_iff {v : Json} : (∃ p, check v = .ok p) ↔ IsRecord v := by
  unfold IsRecord check
  cases v with
  | obj fields =>
    show (∃ p, ofFields fields = .ok p) ↔ _
    rw [exists_ofFields_iff]
    constructor
    · exact fun h => ⟨fields, rfl, h⟩
    · rintro ⟨_, hfields, h⟩
      cases hfields
      exact h
  | _ => simp [record, refuse]

/-- Anything else is refused. -/
theorem exists_issues_iff {v : Json} : (∃ issues, check v = .error issues) ↔ ¬ IsRecord v := by
  rw [← exists_check_iff]
  cases check v <;> simp

end Channel.Payload

end ChannelConsole
