import ChannelConsole.Text.Printable

/-!
# Texts in quotes

How a text is shown inside a message or a list: in single quotes, or in double quotes when it has a
single one and no double one, with backslashes in front of what would be misread. A character that
cannot be printed is given by its code, and so is a half of one.

## Main definitions

* `Text.quoted`: a text in quotes.

## Main statements

* `Text.quoted_plain`: a text without anything special is put into single quotes as it is.
-/

namespace ChannelConsole.Text

/-- The lower-case hexadecimal digit of a value below sixteen. -/
def hexDigit (n : Nat) : CodePoint :=
  if n < 10 then CodePoint.ofNat ('0'.toNat + n) else CodePoint.ofNat ('a'.toNat + (n - 10))

/-- The lowest hexadecimal digits of a number, as many as asked for. -/
def hexDigits (n : Nat) : Nat → List CodePoint
  | 0 => []
  | count + 1 => hexDigits (n / 16) count ++ [hexDigit (n % 16)]

/-- The code of a character behind a backslash, in as few digits as its size allows. -/
def escapedCode (n : Nat) : List CodePoint :=
  if n < 0x100 then '\\' :: 'x' :: hexDigits n 2
  else if n < 0x10000 then '\\' :: 'u' :: hexDigits n 4
  else '\\' :: 'U' :: hexDigits n 8

/-- A character inside quotes. -/
def quotedChar (quote c : CodePoint) : List CodePoint :=
  if c = quote ∨ c = '\\' then ['\\', c]
  else if c = '\n' then ['\\', 'n']
  else if c = '\r' then ['\\', 'r']
  else if c = '\t' then ['\\', 't']
  else if isPrintable c then [c]
  else escapedCode (c.toNat)

/-- The quote around a text. -/
def quoteFor (cs : List CodePoint) : CodePoint :=
  if cs.contains '\'' && !cs.contains '"' then '"' else '\''

/-- The characters of a text in quotes. -/
def quotedChars (cs : List CodePoint) : List CodePoint :=
  quoteFor cs :: (cs.flatMap (quotedChar (quoteFor cs)) ++ [quoteFor cs])

/-- A text in quotes. -/
def quoted (s : Text) : Text := Text.ofList (quotedChars s.toList)

/-- A text without anything special is put into single quotes as it is. -/
theorem quoted_plain {cs : List CodePoint} (hq : ('\'' : CodePoint) ∉ cs)
    (h : ∀ c ∈ cs, quotedChar '\'' c = [c]) :
    quotedChars cs = CodePoint.char '\'' :: (cs ++ [CodePoint.char '\'']) := by
  have hf : quoteFor cs = '\'' := by simp [quoteFor, hq]
  have hm : cs.flatMap (quotedChar '\'') = cs := by
    clear hf hq
    induction cs with
    | nil => rfl
    | cons c r ih =>
      rw [List.flatMap_cons, h c (by simp), ih fun d hd => h d (by simp [hd])]
      rfl
  rw [quotedChars, hf, hm]

end ChannelConsole.Text
