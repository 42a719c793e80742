import ChannelConsole.Json.Basic
import ChannelConsole.Names

/-!
# Names of models

Most models are named by a text. A provider may name its models by numbers instead, or even by truth
values, and such names are kept as they are. Numbers that are equal name the same model, however
they are written, and a truth value counts as zero or one. What is no number names one model, as
there is only one such value among those that are read.

## Main definitions

* `Model.Name`: the names.
* `Model.Name.key`: what two names have in common when they name the same model.
* `Model.Name.unique`: a list of names without void ones and without repetitions.

## Main statements

* `Model.Name.ofJson?_toJson`: the value of a name stands for that name.
* `Model.Name.mem_unique_text`: cleaning a list loses no text but the empty one.
-/

namespace ChannelConsole.Model

/-- The name of a model. -/
inductive Name where
  | text (s : Text)
  | int (n : Int)
  | float (x : Binary64)
  | nonFinite (x : NonFinite)
  | flag (b : Bool)
deriving DecidableEq

/-- What names of the same model have in common: a text, a number as a multiple of 2⁻¹⁰⁷⁴, or what
stands for a number that is not finite. -/
inductive Name.Key where
  | text (s : Text)
  | number (scaled : Int)
  | nonFinite (x : NonFinite)
deriving DecidableEq

namespace Name

/-- The number one as a multiple of 2⁻¹⁰⁷⁴. -/
def one : Int := Nat.pow 2 1074

/-- The key of a name. -/
def key : Name → Key
  | .text s => .text s
  | .int n => .number (n * one)
  | .float x => .number x.scaled
  | .nonFinite x => .nonFinite x
  | .flag b => .number (if b then one else 0)

/-- Whether a name names nothing: an empty text or a zero. -/
def isVoid (n : Name) : Bool := n.key == .text "" || n.key == .number 0

/-- The value of a name. -/
def toJson : Name → Json
  | .text s => .str s
  | .int n => .int n
  | .float x => .float x
  | .nonFinite x => .nonFinite x
  | .flag b => .bool b

/-- The name that a value stands for, if it can be one. Null, arrays and objects cannot. -/
def ofJson? : Json → Option Name
  | .str s => some (.text s)
  | .int n => some (.int n)
  | .float x => some (.float x)
  | .nonFinite x => some (.nonFinite x)
  | .bool b => some (.flag b)
  | _ => none

/-- The text that is a name. -/
def text? : Name → Option Text
  | .text s => some s
  | _ => none

/-- Whether a name is a text. -/
def isText (n : Name) : Bool := n.text?.isSome

/-- Texts as names. -/
def ofTexts (xs : List Text) : List Name := xs.map .text

/-- The texts in a list of names. -/
def texts (xs : List Name) : List Text := xs.filterMap text?

/-- Whether a name is the name of a model in a list. -/
def isAmong (n : Name) (xs : List Name) : Bool := xs.any (·.key == n.key)

/-- A list without void names and without repetitions, in the order of first mention. -/
def unique (xs : List Name) : List Name := Names.uniqueBy key isVoid xs

/-- An array of names. -/
def array (xs : List Name) : Json := .arr (xs.map toJson)

/-! ### Small facts -/

/-- The value of a name stands for that name. -/
theorem ofJson?_toJson (n : Name) : ofJson? n.toJson = some n := by cases n <;> rfl

/-- A text is the name of a model in a list exactly when it is in the list. -/
theorem isAmong_text {s : Text} {xs : List Name} :
    isAmong (.text s) xs = true ↔ Name.text s ∈ xs := by
  simp only [isAmong, List.any_eq_true, beq_iff_eq]
  constructor
  · rintro ⟨n, hn, hk⟩
    cases n <;> simp_all [key]
  · exact fun h => ⟨_, h, rfl⟩

/-- Cleaning a list loses no text but the empty one. -/
theorem mem_unique_text {s : Text} {xs : List Name} :
    Name.text s ∈ unique xs ↔ Name.text s ∈ xs ∧ s ≠ "" := by
  constructor
  · intro h
    have h := Names.mem_of_mem_uniqueBy h
    exact ⟨h.1, by simpa [isVoid, key] using h.2⟩
  · intro ⟨hx, hne⟩
    have h := @Names.key_mem_map_uniqueBy _ _ _ key isVoid _ _ hx
      (by simpa [isVoid, key] using hne)
    obtain ⟨n, hn, hk⟩ := List.mem_map.1 h
    cases n <;> simp_all [key, unique]

/-- No model is left twice. -/
theorem nodup_map_key_unique (xs : List Name) : ((unique xs).map key).Nodup :=
  Names.nodup_map_uniqueBy xs

end Name

end ChannelConsole.Model
