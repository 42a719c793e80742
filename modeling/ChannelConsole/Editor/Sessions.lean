import ChannelConsole.Editor.Form

/-!
# Open editors

A server keeps many editors open. Each has a name by which it is asked for, and ends when nobody has
asked for it for too long. Times are in millionths of a second.

## Main definitions

* `Editor.Session`: an open editor, its name, and when it was last asked for.
* `Editor.Sessions`: the open editors.
* `Editor.Sessions.takeName`, `Editor.Sessions.add`: the two ends of opening an editor.
* `Editor.Sessions.use`, `Editor.Sessions.discard`: an editor is asked for, or given up.
* `Editor.Sessions.purge`: end the editors that were idle for too long.

## Main statements

* `Editor.Sessions.nameOf_injective`: no two editors have the same name.
* `Editor.Sessions.use_eq_none`: asking for an editor that is not open, or was idle for too long,
  gives none.
* `Editor.Sessions.find?_put_of_ne`: a change of one editor leaves the others alone.
-/

namespace ChannelConsole.Editor

/-- An open editor. -/
structure Session where
  id : Text
  form : Form
  lastUsed : Int

/-- Whether an editor was idle for too long. -/
def Session.isIdle (ttl now : Int) (s : Session) : Bool := ttl < now - s.lastUsed

/-- How many editors were ever asked to be opened, and those that are open. -/
structure Sessions where
  opened : Nat := 0
  live : List Session := []

namespace Sessions

/-- The name of the editor that is opened after so many others. -/
def nameOf (opened : Nat) : Text := "session-" ++ Text.ofInt (opened + 1 : Nat)

/-- The open editor with a name. -/
def find? (s : Sessions) (id : Text) : Option Session := s.live.find? (·.id == id)

/-- End the editors that were idle for too long. -/
def purge (s : Sessions) (ttl now : Int) : Sessions :=
  { s with live := s.live.filter fun e => !e.isIdle ttl now }

/-- Take a name for an editor that is about to be opened. A name that was taken is never given
again, even if the editor is not opened in the end. -/
def takeName (s : Sessions) : Sessions × Text :=
  ({ s with opened := s.opened + 1 }, nameOf s.opened)

/-- Keep an editor that was opened. -/
def add (s : Sessions) (e : Session) : Sessions := { s with live := s.live ++ [e] }

/-- Give up an editor. -/
def discard (s : Sessions) (id : Text) : Sessions :=
  { s with live := s.live.filter (·.id ≠ id) }

/-- Keep what became of an editor. -/
def put (s : Sessions) (e : Session) : Sessions :=
  { s with live := s.live.map fun old => if old.id = e.id then e else old }

/-- Ask for an editor. One that was idle for too long ends. -/
def use (s : Sessions) (ttl now : Int) (id : Text) : Sessions × Option Session :=
  match s.find? id with
  | none => (s, none)
  | some e =>
    if e.isIdle ttl now then (s.discard id, none)
    else
      let e := { e with lastUsed := now }
      (s.put e, some e)

/-! ### Small facts -/

/-- No two editors have the same name. -/
theorem nameOf_injective {m n : Nat} (h : nameOf m = nameOf n) : m = n := by
  have hl := congrArg Text.toList h
  simp only [nameOf, Text.toList_append, Text.ofInt, Text.toList_ofList] at hl
  exact Nat.succ.inj (Text.ofNat_injective (List.append_cancel_left hl))

/-- Asking for an editor gives none exactly when it is not open or was idle for too long. -/
theorem use_eq_none {s : Sessions} {ttl now : Int} {id : Text} :
    (s.use ttl now id).2 = none ↔ ∀ e, s.find? id = some e → e.isIdle ttl now = true := by
  unfold use
  cases s.find? id with
  | none => simp
  | some e => by_cases h : e.isIdle ttl now <;> simp [h]

/-- What is found when an editor has taken the place of those with its name. -/
theorem find?_put (s : Sessions) (e : Session) (id : Text) :
    (s.put e).find? id = (s.find? id).map fun old => if old.id = e.id then e else old := by
  unfold find? put
  rw [List.find?_map]
  have hk : ((·.id == id) : Session → Bool) ∘ (fun old => if old.id = e.id then e else old) =
      (·.id == id) := by
    funext old
    by_cases ho : old.id = e.id <;> simp [ho]
  rw [hk]

theorem id_of_find? {s : Sessions} {e : Session} {id : Text} (h : s.find? id = some e) :
    e.id = id := by
  simpa using List.find?_some h

/-- A change of one editor leaves the others alone. -/
theorem find?_put_of_ne {s : Sessions} {e : Session} {id : Text} (h : id ≠ e.id) :
    (s.put e).find? id = s.find? id := by
  rw [find?_put]
  cases hfind : s.find? id with
  | none => rfl
  | some old =>
    have hold : old.id ≠ e.id := by
      rw [id_of_find? hfind]
      exact h
    rw [Option.map_some, if_neg hold]

/-- An editor that has taken the place of another one is found there. -/
theorem find?_put_self {s : Sessions} {e old : Session} (h : s.find? e.id = some old) :
    (s.put e).find? e.id = some e := by
  rw [find?_put, h, Option.map_some, if_pos (id_of_find? h)]

/-- An editor that was given up is not open any more. -/
theorem find?_discard_self (s : Sessions) (id : Text) : (s.discard id).find? id = none := by
  unfold find? discard
  rw [List.find?_eq_none]
  intro e he
  simpa using (List.mem_filter.1 he).2

/-- Giving up an editor leaves the others alone. -/
theorem find?_discard_of_ne {s : Sessions} {id other : Text} (h : other ≠ id) :
    (s.discard id).find? other = s.find? other := by
  unfold find? discard
  rw [List.find?_filter]
  congr 1
  funext e
  by_cases he : e.id = other <;> simp [he, h]

end Sessions

end ChannelConsole.Editor
