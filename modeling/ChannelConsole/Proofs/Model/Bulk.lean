import ChannelConsole.Proofs.Model.Picking
import ChannelConsole.Proofs.Model.Provenance
import Mathlib.Data.List.Nodup

/-!
# Picking all that is shown

`Selector.run` is what becomes of a selector by any events, where those that cannot happen change
nothing. No model is ever picked twice (`Selector.IsTidy.run`), although what is picked, what is
available and what is shown overlap in any way: picked models need not be available any more, and
the empty name can be picked by toggling it.

From this follows what the events do to the order of what is picked (`Selector.isOrderly_run`).
Picking all that is shown adds to the end. Turning the ticks around leaves alone what is not shown,
and doing it twice gives back what was picked, in another order. Toggling leaves all others alone.
-/

namespace ChannelConsole.Model

namespace Name

variable {xs ys : List Name}

/-- Texts that are new can be put behind a list without repetitions. -/
theorem nodup_map_key_append (hx : (xs.map key).Nodup) (hy : (ys.map key).Nodup)
    (htext : ∀ n ∈ ys, n.isText = true) (hnew : ∀ n ∈ ys, n ∉ xs) :
    ((xs ++ ys).map key).Nodup := by
  rw [List.map_append, List.nodup_append]
  refine ⟨hx, hy, ?_⟩
  intro k hk k' hk' hkk
  obtain ⟨m, hm, rfl⟩ := List.mem_map.1 hk
  obtain ⟨n, hn, rfl⟩ := List.mem_map.1 hk'
  -- no other name has the key of a text
  exact hnew n hn (eq_of_key_eq (htext n hn) hkk ▸ hm)

end Name

namespace Selector

variable {s : Selector} {n : Name}

/-! ### Runs -/

/-- What becomes of a selector when an event is tried. One that cannot happen changes nothing. -/
def attempt (s : Selector) (e : Event) : Selector := if s.admits e then s.step e else s

/-- A selector after several events. -/
def run (s : Selector) (events : List Event) : Selector := events.foldl attempt s

/-- Whether a selector can come about from two lists of names. -/
def Reachable (s : Selector) : Prop :=
  ∃ selected available events, s = (ofLists selected available).run events

theorem attempt_of_admits {e : Event} (h : s.admits e = true) : s.attempt e = s.step e := by
  rw [attempt, if_pos h]

theorem attempt_induction {P : Selector → Prop} {e : Event} (same : P s) (step : P (s.step e)) :
    P (s.attempt e) := by
  unfold attempt
  split
  · exact step
  · exact same

theorem run_append (s : Selector) (before rest : List Event) :
    s.run (before ++ rest) = (s.run before).run rest := List.foldl_append

theorem reachable_ofLists (selected available : List Name) :
    (ofLists selected available).Reachable := ⟨selected, available, [], rfl⟩

theorem Reachable.attempt (h : s.Reachable) (e : Event) : (s.attempt e).Reachable := by
  obtain ⟨selected, available, events, rfl⟩ := h
  refine ⟨selected, available, events ++ [e], ?_⟩
  rw [run_append]
  rfl

/-! ### No model is picked twice -/

/-- Whether no model is picked twice or available twice, and nothing void is there but the empty
name, which can be picked. -/
structure IsTidy (s : Selector) : Prop where
  distinct : (s.selected.map Name.key).Nodup
  named : ∀ n ∈ s.selected, n.isVoid = true → n = .text ""
  available : Name.IsClean s.available

theorem isTidy_ofLists (selected available : List Name) : (ofLists selected available).IsTidy where
  distinct := Name.nodup_map_key_unique selected
  named n hn hvoid := by
    have hclean := (Name.isClean_unique selected).named n hn
    rw [hvoid] at hclean
    cases hclean
  available := Name.isClean_unique available

namespace IsTidy

theorem visible (h : s.IsTidy) : Name.IsClean s.visible where
  distinct := (List.filter_sublist.map Name.key).nodup h.available.distinct
  named n hn := h.available.named n (mem_visible.1 hn).1

theorem toggle (h : s.IsTidy) (name : Text) : (s.toggle name).IsTidy := by
  by_cases hname : Name.text name ∈ s.selected
  · refine ⟨?_, ?_, h.available⟩
    all_goals simp only [Selector.toggle, if_pos hname]
    · exact (List.filter_sublist.map Name.key).nodup h.distinct
    · exact fun n hn => h.named n (List.mem_filter.1 hn).1
  · refine ⟨?_, ?_, h.available⟩
    all_goals simp only [Selector.toggle, if_neg hname]
    · refine Name.nodup_map_key_append h.distinct (List.nodup_singleton _) ?_ ?_
      · exact fun n hn => by rw [List.mem_singleton.1 hn]; rfl
      · exact fun n hn => by rwa [List.mem_singleton.1 hn]
    · intro n hn hvoid
      rcases List.mem_append.1 hn with hn | hn
      · exact h.named n hn hvoid
      · obtain rfl := List.mem_singleton.1 hn
        have hempty : name = "" := by simpa [Name.isVoid, Name.key] using hvoid
        rw [hempty]

theorem selectAll (h : s.IsTidy) : s.selectAll.IsTidy where
  distinct := Name.nodup_map_key_unique _
  named n hn hvoid := by
    have hclean := (Name.isClean_unique (s.selected ++ s.visible)).named n hn
    rw [hvoid] at hclean
    cases hclean
  available := h.available

theorem invert (h : s.IsTidy) : s.invert.IsTidy where
  distinct := by
    refine Name.nodup_map_key_append ?_ ?_ ?_ ?_
    · exact (List.filter_sublist.map Name.key).nodup h.distinct
    · exact (List.filter_sublist.map Name.key).nodup h.visible.distinct
    · exact fun n hn => isText_of_mem_visible (List.mem_filter.1 hn).1
    · -- what is added is shown, and what stays is not
      intro n hadded hkept
      have hhidden : n ∉ s.visible := by simpa using (List.mem_filter.1 hkept).2
      exact hhidden (List.mem_filter.1 hadded).1
  named n hn hvoid := by
    rcases List.mem_append.1 hn with hn | hn
    · exact h.named n (List.mem_filter.1 hn).1 hvoid
    · have hclean := h.visible.named n (List.mem_filter.1 hn).1
      rw [hvoid] at hclean
      cases hclean
  available := h.available

theorem step (h : s.IsTidy) (e : Event) : (s.step e).IsTidy := by
  cases e with
  | search term => exact ⟨h.distinct, h.named, h.available⟩
  | toggle name => exact h.toggle name
  | selectAll => exact h.selectAll
  | invert => exact h.invert
  | setAvailable names => exact ⟨h.distinct, h.named, Name.isClean_unique names⟩

theorem run (h : s.IsTidy) (events : List Event) : (s.run events).IsTidy := by
  induction events generalizing s with
  | nil => exact h
  | cons e events ih => exact ih (attempt_induction h (h.step e))

end IsTidy

/-- A selector that is only given texts can be searched at any time. -/
theorem canSearch_run {selected available : List Name} {events : List Event}
    (hs : ∀ n ∈ selected, n.isText = true) (ha : ∀ n ∈ available, n.isText = true)
    (he : ∀ e ∈ events, ∀ n ∈ e.names, n.isText = true) :
    ((ofLists selected available).run events).canSearch = true := by
  have hrun : ∀ {s : Selector}, s.Holds (fun n => n.isText = true) →
      (∀ e ∈ events, ∀ n ∈ e.names, n.isText = true) →
      (s.run events).Holds fun n => n.isText = true := by
    induction events with
    | nil => exact fun h _ => h
    | cons e events ih =>
      intro s h he
      rw [List.forall_mem_cons] at he
      exact ih he.2 (attempt_induction h (h.step he.1)) he.2
  exact List.all_eq_true.2 (hrun (holds_ofLists hs ha) he).available

/-! ### Order -/

/-- Picking all that is shown adds it to the end, as far as it was not picked, and drops the empty
name. -/
theorem IsTidy.selected_selectAll (h : s.IsTidy) :
    s.selectAll.selected =
      s.selected.filter (· ≠ .text "") ++ s.visible.filter (· ∉ s.selected) := by
  have hkept : Name.unique s.selected = s.selected.filter (· ≠ .text "") := by
    rw [Name.unique, Names.uniqueBy_eq_filter h.distinct]
    refine List.filter_congr fun n hn => ?_
    by_cases hvoid : n.isVoid = true
    · obtain rfl := h.named n hn hvoid
      decide
    · have hne : n ≠ .text "" := by
        rintro rfl
        exact hvoid rfl
      simp [hvoid, hne]
  have happend := @Names.uniqueBy_append _ _ _ Name.key Name.isVoid s.selected s.visible
  rw [← Name.unique, ← Name.unique, ← Name.unique, h.visible.unique_eq] at happend
  show Name.unique (s.selected ++ s.visible) = _
  rw [happend, hkept]
  congr 1
  refine List.filter_congr fun n hn => ?_
  rw [decide_eq_decide, not_iff_not]
  constructor
  · intro hkey
    obtain ⟨m, hm, hkey⟩ := List.mem_map.1 hkey
    rw [← Name.eq_of_key_eq (isText_of_mem_visible hn) hkey]
    exact (List.mem_filter.1 hm).1
  · intro hselected
    have hne : n ≠ .text "" := by
      rintro rfl
      exact absurd (h.visible.named _ hn) (by decide)
    exact List.mem_map_of_mem (List.mem_filter.2 ⟨hselected, by simpa using hne⟩)

theorem mem_selected_invert : n ∈ s.invert.selected ↔ (n ∈ s.selected ↔ n ∉ s.visible) := by
  rw [invert, List.mem_append, List.mem_filter, List.mem_filter, decide_eq_true_iff,
    decide_eq_true_iff]
  tauto

/-- What is picked and not shown stays where it is when the ticks are turned around. -/
theorem filter_selected_invert (s : Selector) :
    s.invert.selected.filter (· ∉ s.visible) = s.selected.filter (· ∉ s.visible) := by
  have hadded : (s.visible.filter (· ∉ s.selected)).filter (· ∉ s.visible) = [] := by
    rw [List.filter_eq_nil_iff]
    intro n hn
    simpa using (List.mem_filter.1 hn).1
  rw [invert, List.filter_append, hadded, List.append_nil, List.filter_filter]
  simp only [Bool.and_self]

/-- Turning the ticks around twice gives back what was picked, in another order. -/
theorem IsTidy.perm_invert_invert (h : s.IsTidy) :
    s.invert.invert.selected.Perm s.selected := by
  rw [List.perm_ext_iff_of_nodup h.invert.invert.distinct.of_map h.distinct.of_map]
  intro n
  -- the same is shown in between
  have hvisible : s.invert.visible = s.visible := rfl
  rw [mem_selected_invert, mem_selected_invert, hvisible]
  tauto

/-- Toggling a name leaves all others where they are. -/
theorem filter_selected_toggle (s : Selector) (name : Text) :
    (s.toggle name).selected.filter (· ≠ .text name) = s.selected.filter (· ≠ .text name) := by
  unfold toggle
  split
  · rw [List.filter_filter]
    simp only [Bool.and_self]
  · simp [List.filter_append]

/-- What the events that pick models do to those that are picked, and that none is picked twice. -/
structure IsOrderly (s : Selector) : Prop where
  distinct : (s.selected.map Name.key).Nodup
  selectAll : s.canSearch = true → (s.attempt .selectAll).selected =
    s.selected.filter (· ≠ .text "") ++ s.visible.filter (· ∉ s.selected)
  invert : s.canSearch = true → ∀ n,
    n ∈ (s.attempt .invert).selected ↔ (n ∈ s.selected ↔ n ∉ s.visible)
  hidden : s.canSearch = true →
    (s.attempt .invert).selected.filter (· ∉ s.visible) = s.selected.filter (· ∉ s.visible)
  twice : s.canSearch = true →
    ((s.attempt .invert).attempt .invert).selected.Perm s.selected
  toggle : ∀ name n,
    n ∈ (s.attempt (.toggle name)).selected ↔ (n ∈ s.selected ↔ n ≠ .text name)
  others : ∀ name, (s.attempt (.toggle name)).selected.filter (· ≠ .text name) =
    s.selected.filter (· ≠ .text name)

theorem IsTidy.isOrderly (h : s.IsTidy) : s.IsOrderly := by
  have hbulk : s.canSearch = true → ∀ e, s.attempt e = s.step e := by
    intro hsearch e
    exact attempt_of_admits (by rw [admits, hsearch, Bool.true_or])
  have htoggle : ∀ name, s.attempt (.toggle name) = s.toggle name :=
    fun name => attempt_of_admits (by simp [admits, Event.needsSearch])
  refine ⟨h.distinct, fun hsearch => ?_, fun hsearch n => ?_, fun hsearch => ?_, fun hsearch => ?_,
    fun name n => ?_, fun name => ?_⟩
  · rw [hbulk hsearch]
    exact h.selected_selectAll
  · rw [hbulk hsearch]
    exact mem_selected_invert
  · rw [hbulk hsearch]
    exact s.filter_selected_invert
  · -- the same models are available in between
    have hbetween : s.invert.canSearch = true := hsearch
    have hagain : s.invert.attempt .invert = s.invert.invert :=
      attempt_of_admits (by rw [admits, hbetween, Bool.true_or])
    rw [hbulk hsearch]
    show (s.invert.attempt .invert).selected.Perm s.selected
    rw [hagain]
    exact h.perm_invert_invert
  · rw [htoggle, mem_selected_toggle]
    by_cases hn : n = .text name
    · simp [hn]
    · simp [hn]
  · rw [htoggle]
    exact s.filter_selected_toggle name

/-- Whatever has happened to a selector, no model is picked twice, and the events that pick models
do to their order what they should. If all names that it was given are texts, all events can
happen. -/
theorem isOrderly_run (selected available : List Name) (events : List Event) :
    ((ofLists selected available).run events).IsOrderly ∧
    ((∀ n ∈ selected, n.isText = true) → (∀ n ∈ available, n.isText = true) →
      (∀ e ∈ events, ∀ n ∈ e.names, n.isText = true) →
      ((ofLists selected available).run events).canSearch = true) :=
  ⟨((isTidy_ofLists selected available).run events).isOrderly, canSearch_run⟩

end Selector

end ChannelConsole.Model
