import ChannelConsole.Text.Digits

/-!
# Escaped texts

In an address a character may be written as the bytes of its UTF-8 form, each behind a percent sign.
Reading such a text never fails: a percent sign without two hexadecimal digits stands for itself,
and bytes that make up no character become replacement characters. A character that is broken off
becomes one of them, however many of its bytes are there.

## Main definitions

* `Text.unescape`: the text that an escaped text stands for.
* `Text.escape`: a text in which only the characters of a class stand for themselves.

## Main statements

* `Text.unescapedBytes_plain`: a text without percent signs stands for itself.
* `Text.escapeChars_plain`: a text of characters that may stand for themselves is left alone.
-/

namespace ChannelConsole.Text

/-- The bytes of a code point. Those of a half follow the scheme of the characters around it. -/
def bytesOf : CodePoint → List Nat
  | .char c => (String.utf8EncodeChar c).map UInt8.toNat
  | .half i => [0xED, 0xA0 + i / 0x40, 0x80 + i % 0x40]

/-- The bytes that an escaped text stands for. -/
def unescapedBytes : List CodePoint → List Nat
  | [] => []
  | '%' :: a :: b :: r =>
    match hexValue? a, hexValue? b with
    | some high, some low => (16 * high + low) :: unescapedBytes r
    | _, _ => '%'.toNat :: unescapedBytes (a :: b :: r)
  | c :: r => bytesOf c ++ unescapedBytes r

/-! ### Characters from bytes -/

/-- A character of which some bytes have come. -/
structure Unfinished where
  /-- the bits that have come -/
  code : Nat
  /-- how many bytes are to come after the next one -/
  after : Nat
  /-- the least value of the next byte -/
  least : Nat := 0x80
  /-- the greatest value of the next byte -/
  greatest : Nat := 0xBF
deriving DecidableEq

/-- What the first byte of a character of several bytes says. The bounds on the second byte keep
out longer forms of characters that have shorter ones, codes that no character has, and, unless
halves are let through, those of halves. -/
def Unfinished.ofByte? (halves : Bool) (b : Nat) : Option Unfinished :=
  if 0xC2 ≤ b ∧ b ≤ 0xDF then some { code := b - 0xC0, after := 0 }
  else if b = 0xE0 then some { code := 0, after := 1, least := 0xA0 }
  else if b = 0xED then some { code := 0xD, after := 1, greatest := if halves then 0xBF else 0x9F }
  else if 0xE1 ≤ b ∧ b ≤ 0xEF then some { code := b - 0xE0, after := 1 }
  else if b = 0xF0 then some { code := 0, after := 2, least := 0x90 }
  else if 0xF1 ≤ b ∧ b ≤ 0xF3 then some { code := b - 0xF0, after := 2 }
  else if b = 0xF4 then some { code := 4, after := 2, greatest := 0x8F }
  else none

/-- The character that stands for what is no character. -/
def replacement : CodePoint := CodePoint.ofNat 0xFFFD

/-- The characters that a byte completes where no character is under way, and the character that is
under way then. -/
def startChar (halves : Bool) (b : Nat) : List CodePoint × Option Unfinished :=
  if b < 0x80 then ([CodePoint.ofNat b], none)
  else
    match Unfinished.ofByte? halves b with
    | some u => ([], some u)
    | none => ([replacement], none)

/-- The characters that a byte completes, and the character that is under way then. -/
def takeByte (halves : Bool) (under? : Option Unfinished) (b : Nat) :
    List CodePoint × Option Unfinished :=
  match under? with
  | none => startChar halves b
  | some u =>
    if u.least ≤ b ∧ b ≤ u.greatest then
      let code := 0x40 * u.code + (b - 0x80)
      match u.after with
      | 0 => ([CodePoint.ofNat code], none)
      | n + 1 => ([], some { code, after := n })
    else
      let (cs, next?) := startChar halves b
      (replacement :: cs, next?)

/-- The characters that bytes stand for, when a character may be under way. -/
def charsOfBytes (halves : Bool) (under? : Option Unfinished) : List Nat → List CodePoint
  | [] => if under?.isSome then [replacement] else []
  | b :: r => (takeByte halves under? b).1 ++ charsOfBytes halves (takeByte halves under? b).2 r

/-- The text that an escaped text stands for. -/
def unescape (s : Text) : Text := Text.ofList (charsOfBytes false none (unescapedBytes s.toList))

/-! ### Escaping -/

/-- The upper-case hexadecimal digit of a value below sixteen. -/
def upperHexDigit (n : Nat) : CodePoint :=
  if n < 10 then CodePoint.ofNat ('0'.toNat + n) else CodePoint.ofNat ('A'.toNat + (n - 10))

/-- A byte behind a percent sign. -/
def escapedByte (b : Nat) : List CodePoint := ['%', upperHexDigit (b / 16), upperHexDigit (b % 16)]

/-- The characters of a text in which only those of a class stand for themselves. A percent sign
with two hexadecimal digits is an escape already, and stays one. -/
def escapeChars (safe : CodePoint → Bool) : List CodePoint → List CodePoint
  | [] => []
  | '%' :: a :: b :: r =>
    if (hexValue? a).isSome && (hexValue? b).isSome then '%' :: a :: b :: escapeChars safe r
    else
      (if safe '%' then [CodePoint.char '%'] else escapedByte '%'.toNat) ++
        escapeChars safe (a :: b :: r)
  | c :: r => (if safe c then [c] else (bytesOf c).flatMap escapedByte) ++ escapeChars safe r

/-- A text in which only the characters of a class stand for themselves. -/
def escape (safe : CodePoint → Bool) (s : Text) : Text :=
  Text.ofList (escapeChars safe s.toList)

/-! ### Small facts -/

/-- A text without percent signs stands for itself. -/
theorem unescapedBytes_plain {cs : List CodePoint} (h : ('%' : CodePoint) ∉ cs) :
    unescapedBytes cs = cs.flatMap bytesOf := by
  induction cs with
  | nil => rfl
  | cons c r ih =>
    have hc : c ≠ '%' := fun he => h (by simp [he])
    rw [unescapedBytes.eq_3 _ _ (fun _ _ _ hp _ => hc hp),
      ih fun hr => h (List.mem_cons_of_mem _ hr), List.flatMap_cons]

/-- A text of characters that may stand for themselves, without percent signs, is left alone. -/
theorem escapeChars_plain {safe : CodePoint → Bool} {cs : List CodePoint}
    (h : ('%' : CodePoint) ∉ cs)
    (hs : ∀ c ∈ cs, safe c = true) : escapeChars safe cs = cs := by
  induction cs with
  | nil => rfl
  | cons c r ih =>
    have hc : c ≠ '%' := fun he => h (by simp [he])
    rw [escapeChars.eq_3 _ _ _ (fun _ _ _ hp _ => hc hp), if_pos (hs c (by simp)),
      ih (fun hr => h (List.mem_cons_of_mem _ hr)) fun d hd => hs d (List.mem_cons_of_mem _ hd)]
    rfl

end ChannelConsole.Text
