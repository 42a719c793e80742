import ChannelConsole.Text.Basic

/-!
# Blank characters

Which characters count as blank, and what is left of a text when blanks at its two ends are dropped.
Every reader of typed text in this library uses this one class: keys, model names and group names
are trimmed by it, and numbers by all but four of its members.

## Main definitions

* `Text.isBlank`: the class, which has 29 members; the zero-width characters are not among them.
* `Text.isNumberBlank`: the members of the class that may stand around a number.
* `Text.trim`: a text without the blanks at its ends.

## Main statements

* `Text.isBlank_head_dropBlanks`: what is left starts with no blank.
* `Text.trimChars_of_isBlank_ends`: a text whose ends are not blank is left alone.
-/

namespace ChannelConsole.Text

/-- The blank characters: the controls from tab to carriage return and from file separator to unit
separator, next line, and the space separators, line separator and paragraph separator. -/
def isBlank (c : CodePoint) : Bool :=
  let n := c.toNat
  (9 ≤ n && n ≤ 13) || (28 ≤ n && n ≤ 32) || n == 0x85 || n == 0xA0 || n == 0x1680 ||
    (0x2000 ≤ n && n ≤ 0x200A) || n == 0x2028 || n == 0x2029 || n == 0x202F || n == 0x205F ||
    n == 0x3000

/-- The blanks that may stand around a number: all but the controls from file separator to unit
separator. -/
def isNumberBlank (c : CodePoint) : Bool := isBlank c && !(0x1C ≤ c.toNat && c.toNat ≤ 0x1F)

/-- Drop the blanks in front. -/
def dropBlanks (cs : List CodePoint) : List CodePoint := cs.dropWhile isBlank

/-- Drop the blanks at both ends. -/
def trimChars (cs : List CodePoint) : List CodePoint :=
  (dropBlanks (dropBlanks cs).reverse).reverse

/-- A text without the blanks at its ends. -/
def trim (s : Text) : Text := Text.ofList (trimChars s.toList)

/-- Whether nothing is left of a text once it is trimmed. -/
def isAllBlank (s : Text) : Bool := s.toList.all isBlank

/-! ### Trimming -/

theorem dropWhile_eq_self_of_head {α : Type} {p : α → Bool} {xs : List α}
    (h : ∀ x, xs.head? = some x → p x = false) : xs.dropWhile p = xs := by
  cases xs with
  | nil => rfl
  | cons x r => simp [h x rfl]

/-- The first character that survives is not blank. -/
theorem isBlank_head_dropBlanks {cs : List CodePoint} {c : CodePoint}
    (h : (dropBlanks cs).head? = some c) : isBlank c = false := by
  induction cs with
  | nil => simp [dropBlanks] at h
  | cons d r ih =>
    by_cases hd : isBlank d = true
    · simp only [dropBlanks, List.dropWhile_cons, hd, ite_true] at h
      exact ih h
    · simp only [dropBlanks, List.dropWhile_cons, hd] at h
      simp at h
      subst h
      simpa using hd

/-- A text whose ends are not blank is left alone. -/
theorem trimChars_of_isBlank_ends {cs : List CodePoint}
    (hf : ∀ c, cs.head? = some c → isBlank c = false)
    (hl : ∀ c, cs.getLast? = some c → isBlank c = false) : trimChars cs = cs := by
  have h₁ : dropBlanks cs = cs := dropWhile_eq_self_of_head hf
  have h₂ : dropBlanks cs.reverse = cs.reverse :=
    dropWhile_eq_self_of_head fun c hc => hl c (by simpa using hc)
  rw [trimChars, h₁, h₂, List.reverse_reverse]

end ChannelConsole.Text
