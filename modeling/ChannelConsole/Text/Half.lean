import ChannelConsole.Text.Basic

/-!
# Halves of characters and the order of texts

The codes of the two kinds of halves, what two halves make up when they stand side by side, and the
order of texts by the codes of their code points.

## Main definitions

* `Text.pairCode`: the code of the character that two halves make up.
* `Text.ofCode?`: the code point with a code.
* `Text.comesBefore`: the order of texts by their codes.
-/

namespace ChannelConsole.Text

/-- Whether a code is that of a first half. -/
def isHighHalf (n : Nat) : Bool := 0xD800 ≤ n && n < 0xDC00

/-- Whether a code is that of a second half. -/
def isLowHalf (n : Nat) : Bool := 0xDC00 ≤ n && n < 0xE000

/-- The code of the character that two halves make up. -/
def pairCode (high low : Nat) : Nat := 0x10000 + (high - 0xD800) * 0x400 + (low - 0xDC00)

/-- The code point with a code, if there is one. -/
def ofCode? (code : Nat) : Option CodePoint :=
  if code < 0x110000 then some (CodePoint.ofNat code) else none

/-- The codes of the code points of a text. -/
def codes (t : Text) : List Nat := t.toList.map CodePoint.toNat

/-- Whether a text comes before another one: the first code point in which they differ has the lower
code, or there is none and it ends earlier. -/
def comesBefore (s t : Text) : Bool := (codes s).lex (codes t) fun m n => decide (m < n)

end ChannelConsole.Text
