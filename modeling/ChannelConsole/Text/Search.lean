import ChannelConsole.Text.Blank

/-!
# Cutting, joining and searching texts

Lists of keys, groups and models are kept as one text with a comma between the items. This module
has the two directions, cutting such a text into its items and joining items into a text, and the
few searches the rest of the library needs. All of them work on the list of characters of a text.

## Main definitions

* `Text.items`: the trimmed pieces of a text between the characters of a class, blank ones dropped.
* `Text.join`: texts with a comma between them.
* `Text.occursIn`: whether a text occurs inside another one.
* `Text.replaceAll`: every occurrence of a text replaced, from left to right.
-/

namespace ChannelConsole.Text

/-! ### Cutting and joining -/

/-- The pieces of a text between the characters of a class; there is always at least one piece. -/
def pieces (cut : CodePoint → Bool) (cs : List CodePoint) : List (List CodePoint) := cs.splitOnP cut

/-- The trimmed pieces of a list of characters, without those that were blank. -/
def itemChars (cut : CodePoint → Bool) (cs : List CodePoint) : List (List CodePoint) :=
  ((pieces cut cs).map trimChars).filter (!·.isEmpty)

/-- The trimmed pieces of a text between the characters of a class, without those that were
blank. -/
def items (cut : CodePoint → Bool) (s : Text) : List Text :=
  (itemChars cut s.toList).map Text.ofList

/-- Texts one after the other with a comma between them. -/
def join (xs : List Text) : Text :=
  Text.ofList (List.intercalate [','] (xs.map Text.toList))

/-- The part of a text in front of its first comma, trimmed. -/
def beforeComma (s : Text) : Text :=
  Text.ofList (trimChars (s.toList.takeWhile (· != ',')))

/-! ### Searching -/

/-- Whether a list of characters occurs inside another one as an unbroken run. -/
def occursInChars (t : List CodePoint) : List CodePoint → Bool
  | [] => t.isEmpty
  | c :: r => t.isPrefixOf (c :: r) || occursInChars t r

/-- Whether a text occurs inside another one. -/
def occursIn (t s : Text) : Bool := occursInChars t.toList s.toList

/-- Whether a text begins with another one. -/
def beginsWith (t s : Text) : Bool := t.toList.isPrefixOf s.toList

/-- Whether a text ends with another one. -/
def endsWith (t s : Text) : Bool := t.toList.reverse.isPrefixOf s.toList.reverse

/-- Replace every occurrence, where `skip` characters still belong to the last one found. -/
def replaceFrom (old new : List CodePoint) (skip : Nat) : List CodePoint → List CodePoint
  | [] => []
  | c :: r =>
    match skip with
    | n + 1 => replaceFrom old new n r
    | 0 =>
      if old.isPrefixOf (c :: r) then new ++ replaceFrom old new (old.length - 1) r
      else c :: replaceFrom old new 0 r

/-- Replace every occurrence of a non-empty text by another one, from left to right and without
looking again at what was put in. -/
def replaceAll (old new s : Text) : Text :=
  if old.isEmpty then s else Text.ofList (replaceFrom old.toList new.toList 0 s.toList)

/-- A text without the given character at its end, however often it stands there. -/
def dropTrailing (c : CodePoint) (s : Text) : Text :=
  Text.ofList ((s.toList.reverse.dropWhile (· == c)).reverse)

/-! ### Small facts -/

theorem occursInChars_nil_left (cs : List CodePoint) : occursInChars [] cs = true := by
  cases cs <;> simp [occursInChars]

theorem mem_items_ne_empty {cut : CodePoint → Bool} {s x : Text} (h : x ∈ items cut s) :
    x ≠ "" := by
  obtain ⟨cs, hcs, rfl⟩ := List.mem_map.1 h
  have hne : cs ≠ [] := by simpa using (List.mem_filter.1 hcs).2
  intro he
  exact hne (by simpa using congrArg Text.toList he)

end ChannelConsole.Text
