import ChannelConsole.Model.Selector
import ChannelConsole.Proofs.Text.Lowercase

/-!
# Searching for models

Two things are expected of a search: it shows every available model whose name has the searched
text in it as it stands, and searching for more shows fewer models. Both hold of every selector
exactly if the searched text is settled, and otherwise both fail of a new selector with a single
model (`Selector.showsAndNarrows_iff`). The names and the searched text are lower-cased apart from
each other, and only a settled text has one small form wherever it stands. A text without capital
sigmas is settled.

The statements are about available models that are named by texts. While one is named by a number,
nothing can be searched.
-/

namespace ChannelConsole.Model.Selector

variable {s : Selector} {t : Text}

/-- Whether a search for a text shows every available name that has the text in it as it stands. -/
def ShowsLiterally (s : Selector) (t : Text) : Prop :=
  ∀ name, .text name ∈ s.available → Text.occursIn t name = true →
    .text name ∈ (s.step (.search t)).visible

/-- Whether all that is shown in a search for a longer text is shown in a search for a part of
it. -/
def NarrowsFrom (s : Selector) (t : Text) : Prop :=
  ∀ u, Text.occursIn t u = true → ∀ n ∈ (s.step (.search u)).visible,
    n ∈ (s.step (.search t)).visible

/-- What is shown in a search are the available names that match. -/
theorem mem_visible_search {n : Name} :
    n ∈ (s.step (.search t)).visible ↔ n ∈ s.available ∧ isMatch t n = true :=
  mem_visible

theorem showsLiterally_of_isSettled (h : Text.isSettled t = true) : s.ShowsLiterally t :=
  fun _ hname hoccurs => mem_visible_search.2 ⟨hname, Text.occursIn_lower h hoccurs⟩

theorem narrowsFrom_of_isSettled (h : Text.isSettled t = true) : s.NarrowsFrom t := by
  intro u htu n hn
  obtain ⟨havailable, hmatch⟩ := mem_visible_search.1 hn
  refine mem_visible_search.2 ⟨havailable, ?_⟩
  cases n with
  | text name => exact Text.occursIn_trans (Text.occursIn_lower h htu) hmatch
  | _ => cases hmatch

/-- A name in which a text is not found although it is a part of it is shown when it is searched
for itself, and not when that part of it is. -/
theorem fails_of_not_occursIn_lower {name : Text} (hoccurs : Text.occursIn t name = true)
    (hlower : Text.occursIn (Text.lower t) (Text.lower name) = false) :
    ¬ (ofLists [] [.text name]).ShowsLiterally t ∧ ¬ (ofLists [] [.text name]).NarrowsFrom t := by
  -- the empty name is never available, but it has no part except itself
  have hne : name ≠ "" := by
    rintro rfl
    obtain rfl : t = "" := by simpa [Text.occursIn_iff] using hoccurs
    exact Bool.false_ne_true (hlower.symm.trans (Text.occursIn_refl _))
  have havailable : .text name ∈ (ofLists [] [.text name]).available :=
    Name.mem_unique_text.2 ⟨List.mem_singleton_self _, hne⟩
  have hhidden : .text name ∉ ((ofLists [] [.text name]).step (.search t)).visible := by
    intro hshown
    exact Bool.false_ne_true (hlower.symm.trans (mem_visible_search.1 hshown).2)
  have hitself : isMatch name (.text name) = true := Text.occursIn_refl (Text.lower name)
  exact ⟨fun h => hhidden (h name havailable hoccurs),
    fun h => hhidden (h name hoccurs _ (mem_visible_search.2 ⟨havailable, hitself⟩))⟩

/-- Searching for a text shows every name that has the text in it, and narrows what is shown in
searches for parts of it, for all selectors exactly if the text is settled. If it is not, both fail
of a new selector with one model. -/
theorem showsAndNarrows_iff (t : Text) :
    ((∀ s : Selector, s.ShowsLiterally t ∧ s.NarrowsFrom t) ↔ Text.isSettled t = true) ∧
      ((∃ name, ¬ (ofLists [] [.text name]).ShowsLiterally t ∧
        ¬ (ofLists [] [.text name]).NarrowsFrom t) ↔ Text.isSettled t = false) := by
  have hsettled (h : Text.isSettled t = true) (s : Selector) :
      s.ShowsLiterally t ∧ s.NarrowsFrom t :=
    ⟨showsLiterally_of_isSettled h, narrowsFrom_of_isSettled h⟩
  have hnot (h : Text.isSettled t = false) : ∃ name, ¬ (ofLists [] [.text name]).ShowsLiterally t ∧
      ¬ (ofLists [] [.text name]).NarrowsFrom t := by
    obtain ⟨name, hoccurs, hlower⟩ := Text.exists_not_occursIn_lower h
    exact ⟨name, fails_of_not_occursIn_lower hoccurs hlower⟩
  refine ⟨⟨fun h => ?_, hsettled⟩, ⟨fun ⟨name, hname, _⟩ => ?_, hnot⟩⟩
  · rw [← Bool.not_eq_false]
    intro hfalse
    obtain ⟨name, hname, -⟩ := hnot hfalse
    exact hname (h _).1
  · rw [← Bool.not_eq_true]
    exact fun htrue => hname (hsettled htrue _).1

/-- A search for a capital sigma hides a name that ends in one, which is shown in a search for the
whole name. -/
theorem not_showsLiterally_sigma :
    let s := ofLists [] [.text "ΛΟΓΟΣ"]
    Text.occursIn "Σ" "ΛΟΓΟΣ" = true ∧ (s.step (.search "Σ")).visible = [] ∧
      (s.step (.search "ΛΟΓΟΣ")).visible = [.text "ΛΟΓΟΣ"] ∧
      ¬ s.ShowsLiterally "Σ" ∧ ¬ s.NarrowsFrom "Σ" := by
  have hfails := fails_of_not_occursIn_lower (show Text.occursIn "Σ" "ΛΟΓΟΣ" = true by decide)
    (by decide +kernel)
  exact ⟨by decide, by decide +kernel, by decide +kernel, hfails⟩

end ChannelConsole.Model.Selector
