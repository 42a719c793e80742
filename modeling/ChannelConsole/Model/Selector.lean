import ChannelConsole.Model.Name
import ChannelConsole.Text.Lowercase

/-!
# Picking models from a list

A selector shows the available models that match a search and lets the user tick them off. Ticking
all of them or turning their ticks around touches the models that are shown and no others. Only
texts can be searched: while a model is named by a number, it cannot be said which models are to be
shown.

## Main definitions

* `Model.Selector`: the state of the selector.
* `Model.Selector.visible`: the available models that match the search.
* `Model.Selector.canSearch`: whether all available models are named by texts.
* `Model.Selector.Event`: what can happen to it, and `Model.Selector.step` what it does.

## Main statements

* `Model.Selector.mem_visible`: a model is shown when it is available and matches.
* `Model.Selector.mem_selected_toggle`: toggling a name flips it and no other one.
-/

namespace ChannelConsole.Model

/-- The models to pick from, those that are picked, and what is searched for. -/
structure Selector where
  selected : List Name
  available : List Name
  search : Text := ""
deriving DecidableEq

namespace Selector

/-- A selector with nothing searched for. -/
def ofLists (selected available : List Name) : Selector :=
  { selected := Name.unique selected, available := Name.unique available }

/-- Whether a name matches a search: it contains what is searched for, upper and lower case
disregarded. A number matches nothing. -/
def isMatch (search : Text) : Name → Bool
  | .text name => Text.occursIn (Text.lower search) (Text.lower name)
  | _ => false

/-- The available models that match the search. -/
def visible (s : Selector) : List Name := s.available.filter (isMatch s.search)

/-- Whether the available models can be searched, which takes names that are texts. -/
def canSearch (s : Selector) : Bool := s.available.all Name.isText

/-- Put other models up for selection. -/
def setAvailable (s : Selector) (names : List Name) : Selector :=
  { s with available := Name.unique names }

/-- Pick a model, or drop it if it was picked. -/
def toggle (s : Selector) (name : Text) : Selector :=
  { s with
    selected :=
      if .text name ∈ s.selected then s.selected.filter (· ≠ .text name)
      else s.selected ++ [.text name] }

/-- Pick all models that are shown. -/
def selectAll (s : Selector) : Selector :=
  { s with selected := Name.unique (s.selected ++ s.visible) }

/-- Pick the models that are shown and were not picked, and drop those that are shown and were. -/
def invert (s : Selector) : Selector :=
  { s with
    selected :=
      s.selected.filter (· ∉ s.visible) ++ s.visible.filter (· ∉ s.selected) }

/-- What a user interface needs to know of a selector. -/
def snapshot (s : Selector) : Json :=
  .obj [("search", .str s.search), ("visible", Name.array s.visible),
    ("selected", Name.array s.selected)]

/-- What can happen to a selector. -/
inductive Event where
  | search (term : Text)
  | toggle (name : Text)
  | selectAll
  | invert
  | setAvailable (names : List Name)
deriving DecidableEq

/-- Whether an event is about the models that are shown. -/
def Event.needsSearch : Event → Bool
  | .selectAll | .invert => true
  | _ => false

/-- Whether an event can happen. -/
def admits (s : Selector) (e : Event) : Bool := s.canSearch || !e.needsSearch

/-- What an event does to a selector. -/
def step (s : Selector) : Event → Selector
  | .search term => { s with search := term }
  | .toggle name => s.toggle name
  | .selectAll => s.selectAll
  | .invert => s.invert
  | .setAvailable names => s.setAvailable names

/-! ### Small facts -/

/-- A model is shown when it is available and matches the search. -/
theorem mem_visible {s : Selector} {x : Name} :
    x ∈ s.visible ↔ x ∈ s.available ∧ isMatch s.search x := by simp [visible]

/-- Toggling a name flips whether it is picked, and leaves every other one as it was. -/
theorem mem_selected_toggle {s : Selector} {x : Name} {name : Text} :
    x ∈ (s.toggle name).selected ↔
      if x = .text name then .text name ∉ s.selected else x ∈ s.selected := by
  unfold toggle
  by_cases h : Name.text name ∈ s.selected <;> by_cases hx : x = .text name <;> simp_all

end Selector

end ChannelConsole.Model
