import ChannelConsole.Json.Basic
import ChannelConsole.Text.Digits

/-!
# JSON documents

What a JSON text says, before its numbers are fitted into machine types and before repeated keys of
an object are merged. A document is the exact reading of a text: the value of each number is known
as a decimal of any size.

## Main definitions

* `Json.Numeral`: the exact value of a written number, and whether it was written as an integer.
* `Json.Document`: the exact reading of a text.
* `Json.Reading`: what a reader takes and what it makes of numbers.
* `Json.Document.toJson?`: the value of a document.

## Main statements

* `Json.Numeral.toJson?_lenient`: in a lenient reading every number has a value.
-/

namespace ChannelConsole.Json

/-- A written number, `± digits * 10 ^ exponent`. A number written with neither a fraction nor an
exponent is `whole`. -/
structure Numeral where
  negative : Bool
  digits : Nat
  exponent : Int
  whole : Bool
deriving DecidableEq

/-- The exact reading of a JSON text. The fields of an object are as written, repeated keys
included. -/
inductive Document where
  | null
  | bool (b : Bool)
  | number (n : Numeral)
  | nonFinite (x : NonFinite)
  | str (s : Text)
  | arr (items : List Document)
  | obj (fields : List (Text × Document))

/-- What a reader takes and what it makes of numbers. -/
structure Reading where
  /-- how deeply arrays and objects may be nested -/
  maxDepth : Nat
  /-- whether integers outside the machine words are kept as such -/
  keepsIntegers : Bool := true
  /-- how many digits an integer may have, if there is a limit -/
  maxDigits? : Option Nat := none
  /-- whether numbers need not be finite and texts may have halves of characters -/
  lenient : Bool := false
deriving DecidableEq

/-- Whether an integer fits into a signed or an unsigned word of 64 bits. -/
def fitsWord (n : Int) : Bool := -(Nat.pow 2 63) ≤ n && n < Nat.pow 2 64

/-- The value of a written number. An integer that the reading does not keep, and every number with
a fraction or an exponent, becomes the nearest double; a number that is too large for one is
infinite in a lenient reading, and has no value in others. -/
def Numeral.toJson? (reading : Reading) (n : Numeral) : Option Json :=
  let whole := Text.signed n.negative n.digits
  if n.whole && (reading.keepsIntegers || fitsWord whole) then some (.int whole)
  else
    match Binary64.ofDecimal? n.negative n.digits n.exponent with
    | some x => some (.float x)
    | none => if reading.lenient then some (.nonFinite (.infinite n.negative)) else none

/-- In a lenient reading every number has a value. -/
theorem Numeral.toJson?_lenient {reading : Reading} (h : reading.lenient = true) (n : Numeral) :
    (n.toJson? reading).isSome = true := by
  simp only [Numeral.toJson?, h, if_true]
  split
  · rfl
  · split <;> rfl

namespace Document

mutual

/-- The value of a document; there is none when one of its numbers has none. -/
def toJson? (reading : Reading) : Document → Option Json
  | .null => some .null
  | .bool b => some (.bool b)
  | .number n => n.toJson? reading
  | .nonFinite x => some (.nonFinite x)
  | .str s => some (.str s)
  | .arr xs => (itemsToJson? reading xs).map .arr
  | .obj fs => (fieldsToJson? reading fs).map fun gs => .obj (collectFields gs)

/-- The values of the items of an array. -/
def itemsToJson? (reading : Reading) : List Document → Option (List Json)
  | [] => some []
  | x :: r =>
    match toJson? reading x, itemsToJson? reading r with
    | some v, some vs => some (v :: vs)
    | _, _ => none

/-- The values of the fields of an object. -/
def fieldsToJson? (reading : Reading) : List (Text × Document) → Option (List (Text × Json))
  | [] => some []
  | (k, x) :: r =>
    match toJson? reading x, fieldsToJson? reading r with
    | some v, some vs => some ((k, v) :: vs)
    | _, _ => none

end

end Document

end ChannelConsole.Json
