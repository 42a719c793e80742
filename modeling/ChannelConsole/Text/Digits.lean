import ChannelConsole.Text.Blank

/-!
# Whole numbers in text

How whole numbers are written, and the two ways in which typed text is read as one. One takes the
decimal digits of every script. The other knows the digits 0 to 9 only, and first reads them
plainly; what is not written plainly is brought into that form and read again.

## Main definitions

* `Text.ofInt`: the decimal text of an integer.
* `Text.digitRun?`: the digits at the front of a text, with single underscores between them.
* `Text.anyScriptInteger`: the integer that a text stands for, with the digits of any script.
* `Text.lenientInteger`: the integer that a text stands for, with the digits 0 to 9.

## Main statements

* `Text.ofNat_injective`: numbers that are written alike are equal.
* `Text.lenientInteger_of_plain`: an integer that is read plainly is read as itself.
-/

namespace ChannelConsole.Text

/-! ### Writing -/

/-- The decimal digits of a natural number. -/
def ofNat (n : Nat) : List CodePoint := (Nat.toDigits 10 n).map .char

/-- The decimal text of an integer: a minus sign in front of the digits of a negative one. -/
def intChars : Int → List CodePoint
  | .ofNat n => ofNat n
  | .negSucc n => '-' :: ofNat (n + 1)

/-- The decimal text of an integer. -/
def ofInt (i : Int) : Text := Text.ofList (intChars i)

theorem ofNat_ne_nil (n : Nat) : ofNat n ≠ [] :=
  mt List.map_eq_nil_iff.1 Nat.toDigits_ne_nil

/-- A number is written with the digits 0 to 9. -/
theorem exists_isDigit_of_mem_ofNat {n : Nat} {c : CodePoint} (h : c ∈ ofNat n) :
    ∃ d : Char, c = d ∧ d.isDigit = true := by
  obtain ⟨d, hd, rfl⟩ := List.mem_map.1 h
  exact ⟨d, rfl, Nat.isDigit_of_mem_toDigits (by decide) (by decide) hd⟩

/-- The number that the digits 0 to 9 stand for. -/
def numberOf (ds : List CodePoint) : Nat := ds.foldl (fun n d => 10 * n + (d.toNat - '0'.toNat)) 0

/-- What is written for a number stands for it. -/
theorem numberOf_ofNat (n : Nat) : numberOf (ofNat n) = n := by
  have hread : Nat.ofDigitChars 10 (Nat.toDigits 10 n) 0 = n := Nat.ofDigitChars_ten_toDigits
  rw [ofNat, numberOf, List.foldl_map]
  exact hread

/-- Numbers that are written alike are equal. -/
theorem ofNat_injective {m n : Nat} (h : ofNat m = ofNat n) : m = n := by
  rw [← numberOf_ofNat m, h, numberOf_ofNat]

/-! ### Reading -/

/-- The value of one of the digits 0 to 9. -/
def digitValue? (c : CodePoint) : Option Nat :=
  if '0' ≤ c ∧ c ≤ '9' then some (c.toNat - '0'.toNat) else none

/-- The value of a hexadecimal digit in either case. -/
def hexValue? (c : CodePoint) : Option Nat :=
  if '0' ≤ c ∧ c ≤ '9' then some (c.toNat - '0'.toNat)
  else if 'a' ≤ c ∧ c ≤ 'f' then some (c.toNat - 'a'.toNat + 10)
  else if 'A' ≤ c ∧ c ≤ 'F' then some (c.toNat - 'A'.toNat + 10)
  else none

/-- The characters with the value zero, one for each run of ten decimal digits of a script. -/
def scriptZeros : List Nat :=
  [0x30, 0x660, 0x6F0, 0x7C0, 0x966, 0x9E6, 0xA66, 0xAE6, 0xB66, 0xBE6, 0xC66, 0xCE6, 0xD66,
    0xDE6, 0xE50, 0xED0, 0xF20, 0x1040, 0x1090, 0x17E0, 0x1810, 0x1946, 0x19D0, 0x1A80, 0x1A90,
    0x1B50, 0x1BB0, 0x1C40, 0x1C50, 0xA620, 0xA8D0, 0xA900, 0xA9D0, 0xA9F0, 0xAA50, 0xABF0,
    0xFF10, 0x104A0, 0x10D30, 0x11066, 0x110F0, 0x11136, 0x111D0, 0x112F0, 0x11450, 0x114D0,
    0x11650, 0x116C0, 0x11730, 0x118E0, 0x11950, 0x11C50, 0x11D50, 0x11DA0, 0x16A60, 0x16AC0,
    0x16B50, 0x1D7CE, 0x1D7D8, 0x1D7E2, 0x1D7EC, 0x1D7F6, 0x1E140, 0x1E2F0, 0x1E950, 0x1FBF0]

/-- The value of a decimal digit of any script. -/
def anyScriptDigitValue? (c : CodePoint) : Option Nat :=
  (scriptZeros.find? fun z => z ≤ c.toNat && c.toNat < z + 10).map (c.toNat - ·)

/-- The values of the digits at the front of a text, between any two of which a single underscore
may stand, and what is left of the text. There must be a digit, and an underscore must have digits
on both sides. `afterDigit` says whether a digit came last. -/
def digitRun? (value? : CodePoint → Option Nat) (afterDigit : Bool) :
    List CodePoint → Option (List Nat × List CodePoint)
  | [] => if afterDigit then some ([], []) else none
  | c :: r =>
    if c = '_' then
      if afterDigit then digitRun? value? false r else none
    else
      match value? c with
      | some d => (digitRun? value? true r).map fun (ds, rest) => (d :: ds, rest)
      | none => if afterDigit then some ([], c :: r) else none

/-- The number that a list of digit values stands for. -/
def ofDigitValues (ds : List Nat) : Nat := ds.foldl (fun n d => 10 * n + d) 0

/-- Split off one sign. The result says whether the number is negative. -/
def splitSign : List CodePoint → Bool × List CodePoint
  | '-' :: r => (true, r)
  | '+' :: r => (false, r)
  | r => (false, r)

/-- The integer with the given sign and size. -/
def signed (negative : Bool) (n : Nat) : Int := if negative then -(n : Int) else n

/-- How many digits a text may have that is to be read as an integer. -/
def maxDigits : Nat := 4300

/-- What is said about a text with too many digits. -/
def tooManyDigits (count : Nat) : Text :=
  "Exceeds the limit (" ++ ofInt maxDigits ++
    " digits) for integer string conversion: value has " ++ ofInt count ++
    " digits; use sys.set_int_max_str_digits() to increase the limit"

/-- What reading a text as an integer comes to. -/
inductive Numeral where
  | number (n : Int)
  /-- there are too many digits -/
  | tooLong (count : Nat)
  | unreadable
deriving DecidableEq

/-- The characters of a text without the blanks around a number. -/
def trimNumber (cs : List CodePoint) : List CodePoint :=
  ((cs.dropWhile isNumberBlank).reverse.dropWhile isNumberBlank).reverse

/-- The integer a text stands for: blanks around it, one sign, and decimal digits of any script with
single underscores between them. Too many digits are complained about whatever comes behind them. -/
def anyScriptInteger (s : Text) : Numeral :=
  let (negative, cs) := splitSign (trimNumber s.toList)
  match digitRun? anyScriptDigitValue? false cs with
  | none => .unreadable
  | some (ds, rest) =>
    if maxDigits < ds.length then .tooLong ds.length
    else if rest.isEmpty then .number (signed negative (ofDigitValues ds))
    else .unreadable

/-! ### The plain reading -/

/-- The integer that the digits 0 to 9 stand for, with a minus sign in front of them or not. No
digit comes behind a zero at the front. -/
def plainInteger (cs : List CodePoint) : Numeral :=
  let (negative, cs) := match cs with
    | '-' :: r => (true, r)
    | r => (false, r)
  match cs with
  | ['0'] => .number 0
  | '0' :: _ => .unreadable
  | _ =>
    let ds := cs.takeWhile fun c => (digitValue? c).isSome
    if maxDigits < ds.length then .tooLong ds.length
    else if ds.isEmpty || ds.length < cs.length then .unreadable
    else .number (signed negative (ofDigitValues (ds.filterMap digitValue?)))

/-- What is left of digits behind a zero when zeros and underscores are dropped: a digit other than
zero or a minus sign ends them. A point ends them too, and takes the character in front of it along,
as does the end of the text. -/
def dropZeros (last : CodePoint) : List CodePoint → Option (List CodePoint)
  | [] => some [last]
  | c :: r =>
    if c = '0' ∨ c = '_' then dropZeros c r
    else if c = '.' then some (last :: c :: r)
    else if c = '-' ∨ (digitValue? c).isSome then some (c :: r)
    else none

/-- Digits without the zeros in front of them. There must be a digit at the front. -/
def dropLeadingZeros : List CodePoint → Option (List CodePoint)
  | [] => none
  | c :: r =>
    if c = '0' then dropZeros c r else if (digitValue? c).isSome then some (c :: r) else none

/-- The text without the zeros of an empty fraction: a point with one or more zeros behind it. -/
def dropEmptyFraction (cs : List CodePoint) : List CodePoint :=
  match cs.reverse.span fun c : CodePoint => c == '0' with
  | (_ :: _, '.' :: front) => front.reverse
  | _ => cs

/-- Whether two underscores stand side by side. -/
def hasUnderscores : List CodePoint → Bool
  | a :: b :: r => (a == '_' && b == '_') || hasUnderscores (b :: r)
  | _ => false

/-- The text without its underscores, if they stand one by one and inside the text. -/
def dropUnderscores (cs : List CodePoint) : List CodePoint :=
  let underscore := some (CodePoint.char '_')
  if cs.head? = underscore || cs.getLast? = underscore || hasUnderscores cs then cs
  else cs.filter (· != '_')

/-- The digits of a text in the form that is read plainly: without a plus sign, zeros at the front,
an empty fraction, and underscores. -/
def plainForm? (cs : List CodePoint) : Option (List CodePoint) :=
  let (negative, digits) := splitSign cs
  (dropLeadingZeros digits).map fun ds =>
    let ds := dropUnderscores (dropEmptyFraction ds)
    if negative then '-' :: ds else ds

/-- The integer a text stands for: blanks around it, one sign, and the digits 0 to 9, with zeros in
front, an empty fraction, and single underscores between digits. -/
def lenientInteger (s : Text) : Numeral :=
  let cs := trimNumber s.toList
  match plainInteger cs with
  | .unreadable =>
    match (plainForm? cs).map plainInteger with
    | some (.number n) => .number n
    | _ => .unreadable
  | found => found

/-- An integer that is read plainly is read as itself. -/
theorem lenientInteger_of_plain {s : Text} {n : Int}
    (h : plainInteger (trimNumber s.toList) = .number n) : lenientInteger s = .number n := by
  simp [lenientInteger, h]

end ChannelConsole.Text
