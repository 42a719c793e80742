import ChannelConsole.Model.Selector
import ChannelConsole.Proofs.Names

/-!
# What is picked in a selector

An event changes whether a model is picked exactly as `Selector.Flips` says: the name that is
toggled changes, what is shown changes when the ticks are turned around, and what is shown and was
not picked changes when all is picked (`isAmong_selected_step`). Only texts are shown and toggled,
so a model that is named by a number stays as it is.
-/

namespace ChannelConsole.Model

/-- If the texts of some kind have been put in or taken out of a list, these are the models that the
list names now and did not name before, or the other way round. -/
theorem Name.isAmong_flip {kind : Name → Prop} {xs ys : List Name} {n : Name}
    (hkind : ∀ m, kind m → m.isText = true) (h : ∀ m, m ∈ ys ↔ (m ∈ xs ↔ ¬ kind m)) :
    n.isAmong ys = true ↔ (n.isAmong xs = true ↔ ¬ kind n) := by
  by_cases hn : n.isText = true
  · -- no other name has the key of a text
    obtain ⟨s, rfl⟩ := exists_of_isText hn
    rw [isAmong_text, isAmong_text]
    exact h _
  · have hother : ∀ m : Name, m.key = n.key → ¬ kind m := by
      intro m hkey hm
      exact hn (eq_of_key_eq (hkind m hm) hkey.symm ▸ hkind m hm)
    rw [isAmong_iff, isAmong_iff, iff_true_right (hother n rfl)]
    refine exists_congr fun m => and_congr_left fun hkey => ?_
    rw [h m, iff_true_right (hother m hkey)]

namespace Selector

variable {s : Selector} {n : Name}

/-- Whether an event changes whether a model is picked. -/
def Flips (s : Selector) (n : Name) : Event → Prop
  | .toggle name => n = .text name
  | .selectAll => n ∈ s.visible ∧ n.isAmong s.selected = false
  | .invert => n ∈ s.visible
  | .search _ | .setAvailable _ => False

theorem isText_of_mem_visible (h : n ∈ s.visible) : n.isText = true := by
  have hmatch := (mem_visible.1 h).2
  cases n with
  | text name => rfl
  | _ => simp [isMatch] at hmatch

theorem isAmong_visible : n.isAmong s.visible = true ↔ n ∈ s.visible := by
  refine ⟨fun h => ?_, fun h => Name.isAmong_iff.2 ⟨n, h, rfl⟩⟩
  obtain ⟨m, hm, hkey⟩ := Name.isAmong_iff.1 h
  exact Name.eq_of_key_eq (isText_of_mem_visible hm) hkey.symm ▸ hm

theorem isAmong_selected_toggle (name : Text) :
    n.isAmong (s.toggle name).selected = true ↔
      (n.isAmong s.selected = true ↔ ¬ n = .text name) := by
  have htext : ∀ m : Name, m = .text name → m.isText = true := by
    rintro m rfl
    rfl
  refine Name.isAmong_flip htext fun m => ?_
  rw [mem_selected_toggle]
  split
  · rename_i hm
    simp [hm]
  · rename_i hm
    simp [hm]

theorem isAmong_selected_selectAll (hn : n.isVoid = false) :
    n.isAmong s.selectAll.selected = true ↔
      n.isAmong s.selected = true ∨ n ∈ s.visible := by
  rw [selectAll, Name.isAmong_unique hn, Name.isAmong_append, Bool.or_eq_true, isAmong_visible]

theorem isAmong_selected_invert :
    n.isAmong s.invert.selected = true ↔ (n.isAmong s.selected = true ↔ ¬ n ∈ s.visible) := by
  refine Name.isAmong_flip (fun m hm => isText_of_mem_visible hm) fun m => ?_
  rw [invert, List.mem_append, List.mem_filter, List.mem_filter, decide_eq_true_iff,
    decide_eq_true_iff]
  by_cases hm : m ∈ s.selected
  · simp [hm]
  · simp [hm]

/-- An event changes whether a model is picked, or leaves it picked or not as it was. -/
theorem isAmong_selected_step (hn : n.isVoid = false) (e : Event) :
    n.isAmong (s.step e).selected = true ↔ (n.isAmong s.selected = true ↔ ¬ s.Flips n e) := by
  cases e with
  | toggle name => exact isAmong_selected_toggle name
  | invert => exact isAmong_selected_invert
  | selectAll =>
    show n.isAmong s.selectAll.selected = true ↔ _
    rw [isAmong_selected_selectAll hn]
    by_cases h : n.isAmong s.selected = true
    · simp [Flips, h]
    · simp [Flips, h]
  | search term => exact (iff_true_right id).symm
  | setAvailable names => exact (iff_true_right id).symm

end Selector

end ChannelConsole.Model
