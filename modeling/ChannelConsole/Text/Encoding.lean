import ChannelConsole.Text.Half
import ChannelConsole.Text.Percent

/-!
# Encodings

Bytes that are to be a text of JSON may be in units of one, two or four bytes, and nothing says in
which. Since such a text begins with characters of ASCII, the zeros among its first bytes tell.
Units of two bytes may be halves of characters without their partners; bytes that make up no units,
and units that are no codes, cannot be read.

## Main definitions

* `Text.Encoding`: the encodings.
* `Text.Encoding.ofBytes`: the encoding that the first bytes tell.
* `Text.decode?`: the text that bytes stand for.

## Main statements

* `Text.Encoding.ofBytes_utf8`: bytes without zeros are in units of one byte.
-/

namespace ChannelConsole.Text

/-- In what units a text comes, and whether their highest byte comes first. -/
inductive Encoding where
  | bytes
  | pairs (highFirst : Bool)
  | fours (highFirst : Bool)
deriving DecidableEq

/-- The encoding that the first bytes tell. -/
def Encoding.ofBytes : List Nat → Encoding
  | a :: b :: c :: d :: _ =>
    if a = 0 then if b = 0 then .fours true else .pairs true
    else if b = 0 then if c = 0 ∧ d = 0 then .fours false else .pairs false
    else .bytes
  | [a, b] => if a = 0 then .pairs true else if b = 0 then .pairs false else .bytes
  | _ => .bytes

/-- The number that bytes stand for. -/
def unitOf (highFirst : Bool) (bs : List Nat) : Nat :=
  (if highFirst then bs else bs.reverse).foldl (0x100 * · + ·) 0

/-- The units of two bytes, if there is an even number of bytes. -/
def pairUnits? (highFirst : Bool) : List Nat → Option (List Nat)
  | [] => some []
  | a :: b :: r => (pairUnits? highFirst r).map (unitOf highFirst [a, b] :: ·)
  | _ => none

/-- The units of four bytes, if the number of bytes is a multiple of four. -/
def fourUnits? (highFirst : Bool) : List Nat → Option (List Nat)
  | [] => some []
  | a :: b :: c :: d :: r => (fourUnits? highFirst r).map (unitOf highFirst [a, b, c, d] :: ·)
  | _ => none

/-- The codes in units of two bytes, where two halves that belong together make one. -/
def joinHalves : List Nat → List Nat
  | a :: b :: r =>
    if isHighHalf a && isLowHalf b then pairCode a b :: joinHalves r else a :: joinHalves (b :: r)
  | r => r

/-- The mark that may stand in front of a text in bytes. -/
def byteOrderMark : CodePoint := CodePoint.ofNat 0xFEFF

/-- The text that bytes stand for, where characters that are broken off become others. -/
def ofBytes (bs : List Nat) : List CodePoint :=
  match charsOfBytes true none bs with
  | c :: r => if c = byteOrderMark then r else c :: r
  | [] => []

/-- The text that bytes in an unnamed encoding stand for. -/
def decode? (bs : List Nat) : Option Text :=
  match Encoding.ofBytes bs with
  | .bytes => some (Text.ofList (ofBytes bs))
  | .pairs highFirst =>
    ((pairUnits? highFirst bs).bind fun units => (joinHalves units).mapM ofCode?).map Text.ofList
  | .fours highFirst => ((fourUnits? highFirst bs).bind (·.mapM ofCode?)).map Text.ofList

/-- Bytes without zeros are in units of one byte. -/
theorem Encoding.ofBytes_utf8 {bs : List Nat} (h : 0 ∉ bs) : Encoding.ofBytes bs = .bytes := by
  unfold Encoding.ofBytes
  grind

end ChannelConsole.Text
