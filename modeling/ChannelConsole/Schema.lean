import ChannelConsole.Json.Basic
import ChannelConsole.Text.Digits

/-!
# Checking values that come from outside

Records, requests and answers come as JSON values. A check turns a value into what it stands for, or
says what is wrong and where. The checks are lenient: a text of digits passes as an integer, and a
few words pass as truth values. All issues of a record are reported, in the order of its fields.

## Main definitions

* `Schema.Issue`: what is wrong at a place inside a value.
* `Schema.Checked`: a checked value, or all issues with it.
* `Schema.integer`, `Schema.flag`, `Schema.text`, `Schema.texts`: the checks for fields.
* `Schema.optional`, `Schema.required`: a field of a record.

## Main statements

* `Schema.and_eq_ok_iff`: a record is accepted when all its parts are.
* `Schema.required_eq_ok_iff`, `Schema.optional_eq_ok_iff`: a part is accepted when the value of its
  field is, or the default in its place.
* `Schema.integer_int`: an integer passes as itself.
-/

namespace ChannelConsole.Schema

/-- One step on the way to a place inside a value. -/
inductive Step where
  | field (name : Text)
  | index (i : Nat)
deriving DecidableEq

/-- What can be wrong. -/
inductive Kind where
  | missing
  | textExpected
  | textTooShort
  | textNotWhole
  | integerExpected
  | integerUnreadable
  | integerTooLong
  | integerHasFraction
  | flagExpected
  | flagUnreadable
  | listExpected
  | objectExpected
  | recordExpected
  | modelExpected
  | choiceUnknown
  | jsonUnreadable
  | notFinite
  | noSuchField
deriving DecidableEq

/-- The name of what is wrong in answers. -/
def Kind.name : Kind → Text
  | .missing => "missing"
  | .textExpected => "string_type"
  | .textTooShort => "string_too_short"
  | .textNotWhole => "string_unicode"
  | .integerExpected => "int_type"
  | .integerUnreadable => "int_parsing"
  | .integerTooLong => "int_parsing_size"
  | .integerHasFraction => "int_from_float"
  | .flagExpected => "bool_type"
  | .flagUnreadable => "bool_parsing"
  | .listExpected => "list_type"
  | .objectExpected => "dict_type"
  | .recordExpected => "model_attributes_type"
  | .modelExpected => "model_type"
  | .choiceUnknown => "literal_error"
  | .jsonUnreadable => "json_invalid"
  | .notFinite => "finite_number"
  | .noSuchField => "no_such_attribute"

/-- What is wrong at a place inside a value. -/
structure Issue where
  path : List Step := []
  kind : Kind
deriving DecidableEq

/-- The issue seen from one step further out. -/
def Issue.under (step : Step) (i : Issue) : Issue := { i with path := step :: i.path }

/-- A step in answers. -/
def Step.toJson : Step → Json
  | .field name => .str name
  | .index i => .int i

/-- An issue in answers. -/
def Issue.toJson (i : Issue) : Json :=
  .obj [("loc", .arr (i.path.map Step.toJson)), ("type", .str i.kind.name)]

/-- What a value can be checked as. -/
inductive Subject where
  | channel
  | draft
  | envelope
  | fetchRequest
  | settings
deriving DecidableEq

/-- The title under which issues with a subject are reported. -/
def Subject.title : Subject → Text
  | .channel => "ChannelPayload"
  | .draft => "ChannelDraft"
  | .envelope => "ApiResult"
  | .fetchRequest => "FetchModelsRequest"
  | .settings => "Settings"

/-- What is said about a value with issues. -/
def Subject.summary (subject : Subject) (issues : List Issue) : Text :=
  Text.ofInt issues.length ++ (if issues.length = 1 then (" validation error" : Text) else
    " validation errors") ++ " for " ++ subject.title

/-- A checked value, or all issues with it. -/
abbrev Checked (α : Type) := Except (List Issue) α

/-- Refuse a value as a whole. -/
def refuse {α : Type} (kind : Kind) : Checked α := .error [{ kind }]

/-- Report issues from one step further out. -/
def Checked.under {α : Type} (step : Step) (c : Checked α) : Checked α :=
  match c with
  | .ok a => .ok a
  | .error issues => .error (issues.map (·.under step))

/-- Check two parts of a record and report the issues of both. -/
def Checked.and {α β : Type} (f : Checked (α → β)) (a : Checked α) : Checked β :=
  match f, a with
  | .ok f, .ok a => .ok (f a)
  | .ok _, .error js => .error js
  | .error is, .ok _ => .error is
  | .error is, .error js => .error (is ++ js)

/-! ### Values -/

/-- A text. -/
def text : Json → Checked Text
  | .str s => .ok s
  | _ => refuse .textExpected

/-- A text that may be null, which counts as empty. -/
def nullableText : Json → Checked Text
  | .null => .ok ""
  | v => text v

/-- Refuse a text that cannot be read as something else. That it has halves of characters is found
out before it is read. -/
def refuseText {α : Type} (kind : Kind) (s : Text) : Checked α :=
  refuse (if Text.isEncodable s then kind else .textNotWhole)

/-- The integer that a text stands for. -/
def readInteger (s : Text) : Checked Int :=
  match Text.lenientInteger s with
  | .number n => .ok n
  | .tooLong _ => refuse .integerTooLong
  | .unreadable => refuseText .integerUnreadable s

/-- The integer that a double without a fraction stands for, if it fits into a machine word. -/
def wholeDouble (x : Binary64) : Checked Int :=
  if x.isWhole then
    if -(Nat.pow 2 63) < x.wholePart ∧ x.wholePart < Nat.pow 2 63 then .ok x.wholePart
    else refuse .integerTooLong
  else refuse .integerHasFraction

/-- An integer, a truth value in its place, a double without a fraction, or a text that stands for
an integer. -/
def integer : Json → Checked Int
  | .int n => .ok n
  | .bool b => .ok (if b then 1 else 0)
  | .float x => wholeDouble x
  | .nonFinite _ => refuse .notFinite
  | .str s => readInteger s
  | _ => refuse .integerExpected

/-- An integer that may be null, which counts as zero. -/
def nullableInteger : Json → Checked Int
  | .null => .ok 0
  | v => integer v

/-- An integer that may be null. -/
def integer? : Json → Checked (Option Int)
  | .null => .ok none
  | v => (integer v).map some

/-- The words for a truth value. -/
def wordsForFalse : List Text := ["0", "off", "f", "false", "n", "no"]

/-- The words for a truth value. -/
def wordsForTrue : List Text := ["1", "on", "t", "true", "y", "yes"]

/-- Whether an integer fits into a signed word of 64 bits. -/
def fitsSignedWord (n : Int) : Bool := -(Nat.pow 2 63) ≤ n && n < Nat.pow 2 63

/-- A truth value, zero or one in its place, or a word for it in upper or lower case. An integer
that does not fit into a word is not even looked at. -/
def flag : Json → Checked Bool
  | .bool b => .ok b
  | .int n =>
    if n = 0 then .ok false
    else if n = 1 then .ok true
    else refuse (if fitsSignedWord n then .flagUnreadable else .flagExpected)
  | .float x =>
    if x.isWhole && x.wholePart == 0 then .ok false
    else if x.isWhole && x.wholePart == 1 then .ok true
    else refuse .flagExpected
  | .str s =>
    let word := Text.ofList (s.toList.map CodePoint.toLower)
    if word ∈ wordsForFalse then .ok false
    else if word ∈ wordsForTrue then .ok true
    else refuseText .flagUnreadable s
  | _ => refuse .flagExpected

/-- The items of a list of texts from a place on. -/
def textsFrom (i : Nat) : List Json → Checked (List Text)
  | [] => .ok []
  | x :: r =>
    let rest : Checked (Text → List Text) := (textsFrom (i + 1) r).map fun xs x => x :: xs
    match (text x).under (.index i), rest with
    | .error is, .error js => .error (is ++ js)
    | a, f => f.and a

/-- A list of texts. -/
def texts : Json → Checked (List Text)
  | .arr xs => textsFrom 0 xs
  | _ => refuse .listExpected

/-! ### Fields of a record -/

/-- A field with a default. -/
def optional {α : Type} (fields : List (Text × Json)) (name : Text) (default : α)
    (check : Json → Checked α) : Checked α :=
  match fields.lookup name with
  | none => .ok default
  | some v => (check v).under (.field name)

/-- A field that must be there. -/
def required {α : Type} (fields : List (Text × Json)) (name : Text)
    (check : Json → Checked α) : Checked α :=
  match fields.lookup name with
  | none => (refuse .missing : Checked α).under (.field name)
  | some v => (check v).under (.field name)

/-- The fields of an object, or the given complaint about anything else. -/
def record (complaint : Kind) : Json → Checked (List (Text × Json))
  | .obj fields => .ok fields
  | _ => refuse complaint

/-! ### Small facts -/

/-- A record is accepted when all its parts are. -/
theorem and_eq_ok_iff {α β : Type} {f : Checked (α → β)} {a : Checked α} {b : β} :
    f.and a = .ok b ↔ ∃ g x, f = .ok g ∧ a = .ok x ∧ g x = b := by
  cases f <;> cases a <;> simp [Checked.and]

/-- It is accepted if each of its parts is. -/
theorem exists_and_iff {α β : Type} {f : Checked (α → β)} {a : Checked α} :
    (∃ b, f.and a = .ok b) ↔ (∃ g, f = .ok g) ∧ ∃ x, a = .ok x := by
  cases f <;> cases a <;> simp [Checked.and]

theorem under_eq_ok_iff {α : Type} {step : Step} {c : Checked α} {a : α} :
    c.under step = .ok a ↔ c = .ok a := by
  cases c <;> simp [Checked.under]

/-- What is accepted is made of what was accepted further in. -/
theorem under_map_eq_ok {α β : Type} {step : Step} {c : Checked α} {make : α → β} {b : β}
    (h : Checked.under step (c.map make) = .ok b) : ∃ a, c = .ok a ∧ make a = b := by
  cases c with
  | error issues => cases h
  | ok a => exact ⟨a, rfl, Except.ok.inj h⟩

theorem exists_under_iff {α : Type} {step : Step} {c : Checked α} :
    (∃ a, c.under step = .ok a) ↔ ∃ a, c = .ok a := exists_congr fun _ => under_eq_ok_iff

theorem exists_map_iff {α β : Type} {c : Checked α} {make : α → β} :
    (∃ b, c.map make = .ok b) ↔ ∃ a, c = .ok a := by
  cases c <;> simp [Except.map]

/-- A field with a default is accepted unless it is there and its value is refused. -/
theorem exists_optional_iff {α : Type} {fields : List (Text × Json)} {name : Text}
    {check : Json → Checked α} {default : α} :
    (∃ a, optional fields name default check = .ok a) ↔
      ∀ v, fields.lookup name = some v → ∃ a, check v = .ok a := by
  unfold optional
  cases fields.lookup name with
  | none => simp
  | some v => simpa using exists_under_iff

theorem text_eq_ok_iff {v : Json} {s : Text} : text v = .ok s ↔ v = .str s := by
  cases v <;> simp [text, refuse]

/-- An integer passes as itself. -/
theorem integer_int (n : Int) : integer (.int n) = .ok n := rfl

end ChannelConsole.Schema
