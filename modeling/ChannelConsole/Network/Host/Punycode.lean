import ChannelConsole.Text.Basic

/-!
# Host names in ASCII

A part of a host name with characters beyond ASCII is sent in a form that has letters, digits and
hyphens alone. The characters of ASCII come first, then a hyphen, and then the others in ascending
order: each as the number of steps from the one before, where a step goes to the next place in the
text and, behind the last place, to the next code. The numbers are written in base 36, with digits
whose bounds follow the size of the numbers seen so far.

## Main definitions

* `Network.Host.punycode`: the form in ASCII.
* `Network.Host.writeSteps`: a number of steps in digits.

## Main statements

* `Network.Host.punycode_ascii`: a text of ASCII is followed by a hyphen, and nothing else is added.
-/

namespace ChannelConsole.Network.Host

/-- The digit with a value below 36. -/
def stepDigit (n : Nat) : CodePoint :=
  if n < 26 then CodePoint.ofNat ('a'.toNat + n) else CodePoint.ofNat ('0'.toNat + (n - 26))

/-- The bound on the digit at a place, which is a multiple of 36. A digit below its bound is the
last one of its number. -/
def bound (place bias : Nat) : Nat := max 1 (min 26 (place - bias))

theorem one_le_bound (place bias : Nat) : 1 ≤ bound place bias := Nat.le_max_left _ _

/-- A number of steps in digits, the lowest one first. -/
def writeSteps (bias place n : Nat) : List CodePoint :=
  let t := bound place bias
  if n < t then [stepDigit n]
  else stepDigit (t + (n - t) % (36 - t)) :: writeSteps bias (place + 36) ((n - t) / (36 - t))
termination_by n
decreasing_by
  have ht := one_le_bound place bias
  exact Nat.lt_of_le_of_lt (Nat.div_le_self _ _) (by omega)

/-- How many digits beyond the first a number takes, and what is left of it then. -/
def shrink (n places : Nat) : Nat × Nat :=
  if 455 < n then shrink (n / 35) (places + 36) else (n, places)
termination_by n
decreasing_by exact Nat.div_lt_self (by omega) (by omega)

/-- The bias after a number of steps, by which `count` characters are in place. -/
def nextBias (n count : Nat) (isFirst : Bool) : Nat :=
  let n := if isFirst then n / 700 else n / 2
  let (n, places) := shrink (n + n / count) 0
  places + 36 * n / (n + 38)

/-- The state of writing: the steps since the last character that was put in place, how many
characters are in place, how many of them are of ASCII, the bias, and what has been written. -/
structure Writing where
  steps : Nat := 0
  placed : Nat
  plain : Nat
  bias : Nat := 72
  written : List CodePoint := []

/-- Go past one place of the text while characters with a code are put in place. -/
def Writing.pass (code : Nat) (w : Writing) (c : CodePoint) : Writing :=
  if c.toNat < code then { w with steps := w.steps + 1 }
  else if c.toNat = code then
    { w with
      steps := 0
      placed := w.placed + 1
      bias := nextBias w.steps (w.placed + 1) (w.placed == w.plain)
      written := w.written ++ writeSteps w.bias 36 w.steps }
  else w

/-- Put the characters of a text with the given codes in place, one code after the other. The number
in front is the first code that has not been looked at. -/
def Writing.run (cs : List CodePoint) : Nat → List Nat → Writing → Writing
  | _, [], w => w
  | start, code :: r, w =>
    let w := { w with steps := w.steps + (code - start) * (w.placed + 1) }
    let w := cs.foldl (Writing.pass code) w
    run cs (code + 1) r { w with steps := w.steps + 1 }

/-- The codes beyond ASCII in a text, each once and in ascending order. -/
def foreignCodes (cs : List CodePoint) : List Nat :=
  ((cs.map CodePoint.toNat).filter (0x80 ≤ ·)).eraseDups.mergeSort (· ≤ ·)

/-- The form in ASCII of a text. -/
def punycode (cs : List CodePoint) : List CodePoint :=
  let plain := cs.filter (·.toNat < 0x80)
  let start : Writing := { placed := plain.length, plain := plain.length }
  (if plain.isEmpty then [] else plain ++ [CodePoint.char '-']) ++
    (Writing.run cs 0x80 (foreignCodes cs) start).written

/-- A text of ASCII is followed by a hyphen, and nothing else is added. -/
theorem punycode_ascii {cs : List CodePoint} (hne : cs ≠ []) (h : ∀ c ∈ cs, c.toNat < 0x80) :
    punycode cs = cs ++ [CodePoint.char '-'] := by
  have hp : cs.filter (·.toNat < 0x80) = cs :=
    List.filter_eq_self.2 fun c hc => by simpa using h c hc
  have hf : foreignCodes cs = [] := by
    have : (cs.map CodePoint.toNat).filter (0x80 ≤ ·) = [] := by
      simp only [List.filter_eq_nil_iff, List.mem_map, decide_eq_true_eq]
      rintro _ ⟨c, hc, rfl⟩
      exact Nat.not_le.2 (h c hc)
    simp [foreignCodes, this]
  simp [punycode, hp, hf, Writing.run, hne]

end ChannelConsole.Network.Host
