import ChannelConsole.Proofs.Credential.Provenance

/-!
# Texts without a key

A text that is not empty need not have a key in it: it may be made of blanks and delimiters
(`split_eq_nil_iff`). A pool takes such texts as they are typed, and then there is something to be
stored, but no key.

That is the only way to get there. If every text that comes into a pool has a key, unless there is
nothing in it, then there is a key in the text to be stored, unless that is empty (`solid_run`). No
change of the view and no cutting or joining takes the last key away.
-/

namespace ChannelConsole.Credential

/-- A text has no keys exactly if it is made of blanks and delimiters. -/
theorem split_eq_nil_iff {s : Text} :
    split s = [] ↔ ∀ c ∈ s.toList, Text.isBlank c = true ∨ isDelimiter c = true :=
  Text.items_eq_nil_iff

/-- Whether there is a key in a text, unless it is empty. -/
def IsSolid (s : Text) : Prop := s ≠ "" → split s ≠ []

/-- Whether the texts that an event brings into a pool have keys. An entry may be blank, too; and a
text that is pasted is taken for its keys alone. -/
def Event.BringsKeys : Event → Prop
  | .input value => IsSolid value
  | .hydrate raw? _ => IsSolid (raw?.getD "")
  | .addEntry value | .updateEntry _ value => IsSolid (Text.trim value)
  | _ => True

theorem isSolid_empty : IsSolid "" := fun h => absurd rfl h

/-- Every key has a key in it, which is itself. -/
theorem isSolid_of_mem_split {s key : Text} (h : key ∈ split s) : IsSolid key := by
  intro _
  rw [split_of_mem_split h]
  exact List.cons_ne_nil _ _

/-- The text of a list of entries has a key, unless all of them are blank. -/
theorem isSolid_join {entries : List Text} (h : ∀ e ∈ entries, IsSolid (Text.trim e)) :
    IsSolid (join entries) := by
  intro hne hsplit
  rw [split_join, List.flatMap_eq_nil_iff] at hsplit
  have htidy : tidy entries = [] := by
    rw [tidy, List.filter_eq_nil_iff]
    intro x hx
    obtain ⟨e, he, rfl⟩ := List.mem_map.1 hx
    by_cases hempty : Text.trim e = ""
    · simp [hempty]
    · exact absurd (by rw [split_trim, hsplit e he]) (h e he hempty)
  exact hne (by rw [join, htidy, Text.join_nil])

/-- Cutting and joining take no key away. -/
theorem suits_isSolid : Suits IsSolid IsSolid where
  blank := isSolid_empty
  key _ _ hx := isSolid_of_mem_split hx
  joined _ h := isSolid_join h

theorem Event.BringsKeys.brings {e : Event} (h : e.BringsKeys) : e.Brings IsSolid IsSolid := by
  cases e <;> exact h

namespace Pool

/-- Whether the texts in a pool have keys: the one text that is shown, unless it is empty, or the
entries that are shown, unless they are blank. -/
def Solid (p : Pool) : Prop :=
  match p.mode with
  | .single => IsSolid p.text
  | .list => ∀ e ∈ p.entries, IsSolid (Text.trim e)

/-- The text to be stored has a key, unless it is empty. -/
theorem Solid.raw {p : Pool} (h : p.Solid) : IsSolid p.raw := Holds.raw suits_isSolid h

/-- If all events bring keys, there is a key in the text to be stored, unless it is empty. -/
theorem solid_run {p : Pool} (hp : p.Solid) {events : List Event}
    (h : ∀ e ∈ events, e.BringsKeys) : (p.run events).Solid :=
  holds_run suits_isSolid hp fun e he => (h e he).brings

end Pool

end ChannelConsole.Credential
