import Mathlib.Data.List.Induction

/-!
# What a run comes to

A run takes a state through a list of events, each of which leads from one state to the next. This
module says what it means that there is an event of some kind among them. Whether an event is of a
kind is decided at the moment when it happens, and what comes after it can matter as well.

Nothing here speaks of channels. Runs of servers and of editors are told about in these terms, each
with its own `step`.

## Main definitions

* `Steps.Meets`: there is an event of a kind, in view of the state in which it happens and of the
  events that follow.
* `Steps.Sees`: there is an event of a kind, in view of the state alone.
* `Steps.SeesSince`: there is one, and no event of another sort follows it.

## Main statements

* `Steps.meets_cons`, `Steps.sees_cons`: it is the first event or one of the others.
* `Steps.seesSince_append_singleton`: it is the last event or one before it.
-/

namespace ChannelConsole.Steps

section

variable {σ ε : Type} {step : σ → ε → σ} {s : σ} {e : ε} {events : List ε}

/-- Whether there is an event of a kind among the events of a run. The kind is given by the state in
which the event happens, the event, and the events after it. -/
def Meets (step : σ → ε → σ) (kind : σ → ε → List ε → Prop) (s : σ) (events : List ε) : Prop :=
  ∃ before e later, events = before ++ e :: later ∧ kind (before.foldl step s) e later

/-- Whether there is an event of a kind among the events of a run, whatever follows it. -/
def Sees (step : σ → ε → σ) (kind : σ → ε → Prop) (s : σ) (events : List ε) : Prop :=
  Meets step (fun s e _ => kind s e) s events

/-- Whether there is an event of a kind among the events of a run and none of those that follow it
is the one named last. -/
def SeesSince (step : σ → ε → σ) (kind : σ → ε → Prop) (last : ε) (s : σ) (events : List ε) :
    Prop :=
  Meets step (fun s e later => kind s e ∧ last ∉ later) s events

/-! ### From the front -/

theorem not_meets_nil (kind : σ → ε → List ε → Prop) (s : σ) : ¬ Meets step kind s [] := by
  rintro ⟨before, e, later, hsplit, -⟩
  simp at hsplit

theorem meets_cons {kind : σ → ε → List ε → Prop} :
    Meets step kind s (e :: events) ↔ kind s e events ∨ Meets step kind (step s e) events := by
  constructor
  · rintro ⟨before, e', later, hsplit, hkind⟩
    cases before with
    | nil =>
      obtain ⟨rfl, rfl⟩ := List.cons.inj hsplit
      exact .inl hkind
    | cons first before =>
      obtain ⟨rfl, htail⟩ := List.cons.inj hsplit
      exact .inr ⟨before, e', later, htail, hkind⟩
  · rintro (hkind | ⟨before, e', later, rfl, hkind⟩)
    · exact ⟨[], e, events, rfl, hkind⟩
    · exact ⟨e :: before, e', later, rfl, hkind⟩

theorem not_sees_nil (kind : σ → ε → Prop) (s : σ) : ¬ Sees step kind s [] := not_meets_nil _ s

theorem sees_cons {kind : σ → ε → Prop} :
    Sees step kind s (e :: events) ↔ kind s e ∨ Sees step kind (step s e) events := meets_cons

/-! ### From the back -/

theorem not_seesSince_nil (kind : σ → ε → Prop) (last : ε) (s : σ) :
    ¬ SeesSince step kind last s [] := not_meets_nil _ s

theorem seesSince_append_singleton {kind : σ → ε → Prop} {last : ε} :
    SeesSince step kind last s (events ++ [e]) ↔
      kind (events.foldl step s) e ∨ e ≠ last ∧ SeesSince step kind last s events := by
  constructor
  · rintro ⟨before, e', later, hsplit, hkind, hlater⟩
    rcases List.eq_nil_or_concat later with rfl | ⟨later, final, rfl⟩
    · obtain ⟨rfl, he⟩ := List.append_inj' hsplit rfl
      obtain rfl := List.singleton_inj.1 he
      exact .inl hkind
    · right
      rw [List.concat_eq_append] at hsplit hlater
      rw [← List.cons_append, ← List.append_assoc] at hsplit
      obtain ⟨hevents, he⟩ := List.append_inj' hsplit rfl
      obtain rfl := List.singleton_inj.1 he
      rw [List.mem_append, not_or, List.mem_singleton] at hlater
      exact ⟨fun h => hlater.2 h.symm, before, e', later, hevents, hkind, hlater.1⟩
  · rintro (hkind | ⟨hne, before, e', later, rfl, hkind, hlater⟩)
    · exact ⟨events, e, [], rfl, hkind, List.not_mem_nil⟩
    · refine ⟨before, e', later ++ [e], by simp, hkind, ?_⟩
      rw [List.mem_append, not_or, List.mem_singleton]
      exact ⟨hlater, fun h => hne h.symm⟩

end

end ChannelConsole.Steps
