import ChannelConsole.Text.Basic

/-!
# Bytes as text

Three bytes are written as four characters of an alphabet of 64; where bytes are missing at the end,
equals signs fill up the four.

## Main definitions

* `Text.base64`: the text of a list of bytes.

## Main statements

* `Text.base64_length`: the text has four characters for every three bytes that are begun.
-/

namespace ChannelConsole.Text

/-- The characters for the values below 64. -/
def base64Alphabet : List CodePoint :=
  Text.toList "ABCDEFGHIJKLMNOPQRSTUVWXYZabcdefghijklmnopqrstuvwxyz0123456789+/"

/-- The character for a value below 64. -/
def base64Digit (n : Nat) : CodePoint := base64Alphabet.getD n '='

/-- The text of a list of bytes. -/
def base64 : List Nat → List CodePoint
  | [] => []
  | [a] => [base64Digit (a / 4), base64Digit (a % 4 * 16), '=', '=']
  | [a, b] =>
    [base64Digit (a / 4), base64Digit (a % 4 * 16 + b / 16), base64Digit (b % 16 * 4), '=']
  | a :: b :: c :: r =>
    base64Digit (a / 4) :: base64Digit (a % 4 * 16 + b / 16) ::
      base64Digit (b % 16 * 4 + c / 64) :: base64Digit (c % 64) :: base64 r

/-- The text has four characters for every three bytes that are begun. -/
theorem base64_length (bs : List Nat) : (base64 bs).length = 4 * ((bs.length + 2) / 3) := by
  fun_induction base64 bs with
  | case1 => rfl
  | case2 => simp
  | case3 => simp
  | case4 a b c r ih =>
    simp only [List.length_cons, ih]
    omega

end ChannelConsole.Text
