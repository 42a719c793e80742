import ChannelConsole.Json.Document
import ChannelConsole.Text.Half

/-!
# Reading JSON

The strict grammar: four blank characters, no comments, no commas at the end, no zeros in front of a
number, no control characters inside a text. Readings differ in how deeply arrays and objects may be
nested, in the length of integers, and in whether words for numbers that are not finite and escapes
for halves of characters are taken. A reader goes through a text from left to right, and the first
thing that is wrong decides what is said about it. A number ends where what comes next is no part of
one, so a point without digits behind it is not wrong in the number but behind it.

## Main definitions

* `Json.Flaw`, `Json.ReadFault`: what can be wrong with a text, and where.
* `Json.ReadFault.words`: what is said about it.
* `Json.scanNumber`: a number at the front of a text.
* `Json.scanString`: the rest of a quoted text, up to and including the closing quote.
* `Json.Document.read`: the exact reading of a text.
* `Json.read`: the value of a text.

The reader takes what is left of the text and gives back what is left after the value. It has a
bound on the number of its steps, which `Document.read` sets above what any text needs.
-/

namespace ChannelConsole.Json

/-- What can be wrong with a text. -/
inductive Flaw where
  /-- a value is missing -/
  | noValue
  /-- a key is missing -/
  | noKey
  /-- there is no colon behind a key -/
  | noColon
  /-- there is neither a comma nor an end behind an item or a field -/
  | noComma
  /-- there is more text behind the value -/
  | moreText
  /-- a quoted text does not end -/
  | noQuote
  /-- a backslash has no meaning before what comes next -/
  | badEscape
  /-- an escape has no four hexadecimal digits, or nothing comes behind them -/
  | badCode
  /-- a control character stands in a quoted text -/
  | control
  /-- arrays and objects are nested too deeply -/
  | tooDeep
  /-- an integer has too many digits -/
  | tooLong (digits : Nat)
deriving DecidableEq

/-- Whether a text with a flaw is no JSON. It may be otherwise if reading it was given up. -/
def Flaw.isSyntactic : Flaw → Bool
  | .tooDeep | .tooLong _ => false
  | _ => true

/-- What is said about a flaw wherever it is. -/
def Flaw.words : Flaw → Text
  | .noValue => "Expecting value"
  | .noKey => "Expecting property name enclosed in double quotes"
  | .noColon => "Expecting ':' delimiter"
  | .noComma => "Expecting ',' delimiter"
  | .moreText => "Extra data"
  | .noQuote => "Unterminated string starting at"
  | .badEscape => "Invalid \\escape"
  | .badCode => "Invalid \\uXXXX escape"
  | .control => "Invalid control character at"
  | .tooDeep => "maximum recursion depth exceeded"
  | .tooLong digits => Text.tooManyDigits digits

/-- What is wrong with a text, and what stands in front of it. -/
structure ReadFault where
  flaw : Flaw
  front : List CodePoint := []
deriving DecidableEq

/-- Where a fault is: its line, its place in the line, and its place in the text. -/
def ReadFault.place (f : ReadFault) : Text :=
  let line := f.front.count (.char '\n') + 1
  let column := (f.front.reverse.takeWhile (· != CodePoint.char '\n')).length + 1
  "line " ++ Text.ofInt line ++ " column " ++ Text.ofInt column ++ " (char " ++
    Text.ofInt f.front.length ++ ")"

/-- What is said about a fault, with its place if the text is no JSON. -/
def ReadFault.words (f : ReadFault) : Text :=
  if f.flaw.isSyntactic then f.flaw.words ++ ": " ++ f.place else f.flaw.words

/-- What comes at the front of a text, with what is left of the text; or a flaw, with what is left
of the text where it is. -/
abbrev Scanned (α : Type) := Except (Flaw × List CodePoint) (α × List CodePoint)

/-- The blanks that may stand between the parts of a JSON text. -/
def isSpace (c : CodePoint) : Bool := c == ' ' || c == '\t' || c == '\n' || c == '\r'

/-- What is left after blanks. -/
def skipSpace (cs : List CodePoint) : List CodePoint := cs.dropWhile isSpace

/-! ### Numbers -/

/-- Whether a character is one of the digits 0 to 9. -/
def isDigit (c : CodePoint) : Bool := '0' ≤ c && c ≤ '9'

/-- The digits of a fraction, if a point and a digit come next, and what is left. -/
def scanFraction : List CodePoint → List CodePoint × List CodePoint
  | '.' :: d :: r => if isDigit d then (d :: r).span isDigit else ([], '.' :: d :: r)
  | r => ([], r)

/-- The value of a written exponent, if a letter for one and a digit come next, and what is left. -/
def scanExponent : List CodePoint → Option Int × List CodePoint
  | [] => (none, [])
  | c :: r =>
    if c = 'e' ∨ c = 'E' then
      let (negative, digits) := Text.splitSign r
      match digits.span isDigit with
      | ([], _) => (none, c :: r)
      | (ds, rest) => (some (Text.signed negative (Text.numberOf ds)), rest)
    else (none, c :: r)

/-- The digits in front of the point, and what is left. No digit belongs to a zero in front. -/
def scanWhole : List CodePoint → List CodePoint × List CodePoint
  | '0' :: r => (['0'], r)
  | cs => cs.span isDigit

/-- Whether a reading takes an integer with that many digits. -/
def Reading.takes (reading : Reading) (digits : Nat) : Bool :=
  match reading.maxDigits? with
  | some limit => digits ≤ limit
  | none => true

/-- A number at the front of a text: at least one digit, possibly behind a minus sign. -/
def scanNumber (reading : Reading) (cs : List CodePoint) : Scanned Numeral :=
  let (negative, r) := match cs with
    | '-' :: r => (true, r)
    | r => (false, r)
  match scanWhole r with
  | ([], _) => .error (.noValue, cs)
  | (ds, r) =>
    let (fs, r) := scanFraction r
    let (e, r) := scanExponent r
    let whole := fs.isEmpty && e.isNone
    if whole && !reading.takes ds.length then .error (.tooLong ds.length, cs)
    else .ok (⟨negative, Text.numberOf (ds ++ fs), e.getD 0 - fs.length, whole⟩, r)

/-! ### Quoted texts -/

/-- The value of four hexadecimal digits. -/
def hexValue4? (a b c d : CodePoint) : Option Nat := do
  let high := (← Text.hexValue? a) * 16 + (← Text.hexValue? b)
  let low := (← Text.hexValue? c) * 16 + (← Text.hexValue? d)
  return high * 256 + low

/-- The character that a backslash and a letter other than `u` stand for. -/
def escaped? : CodePoint → Option CodePoint
  | '"' => some '"'
  | '\\' => some '\\'
  | '/' => some '/'
  | 'b' => some (CodePoint.ofNat 8)
  | 't' => some '\t'
  | 'n' => some '\n'
  | 'f' => some (CodePoint.ofNat 12)
  | 'r' => some '\r'
  | _ => none

/-- The second half of a character, if its escape comes next and is not the end. -/
def lowHalf? : List CodePoint → Option Nat
  | '\\' :: 'u' :: e :: f :: g :: h :: _ :: _ =>
    match hexValue4? e f g h with
    | some m => if Text.isLowHalf m then some m else none
    | none => none
  | _ => none

/-- The rest of a quoted text after its opening quote, in which halves of characters may stand alone
or not. The whole of it from that quote on is `start`, for complaints about a missing end. The
characters read so far are kept in reverse in `acc`, and `skip` characters still belong to the last
one of them. -/
def scanString (halves : Bool) (start : List CodePoint) (skip : Nat) (acc : List CodePoint) :
    List CodePoint → Scanned (List CodePoint)
  | [] => .error (.noQuote, start)
  | c :: r =>
    match skip with
    | n + 1 => scanString halves start n acc r
    | 0 =>
      if c = '"' then .ok (acc.reverse, r)
      else if c = '\\' then
        match r with
        | [] => .error (.noQuote, start)
        | 'u' :: e :: f :: g :: h :: d :: rest =>
          match hexValue4? e f g h with
          | none => .error (.badCode, r)
          | some n =>
            if Text.isHighHalf n || Text.isLowHalf n then
              match if Text.isHighHalf n then lowHalf? (d :: rest) else none with
              | some m => scanString halves start 11 (CodePoint.ofNat (Text.pairCode n m) :: acc) r
              | none =>
                if halves then scanString halves start 5 (CodePoint.ofNat n :: acc) r
                else .error (.badCode, r)
            else scanString halves start 5 (CodePoint.ofNat n :: acc) r
        | 'u' :: _ => .error (.badCode, r)
        | d :: _ =>
          match escaped? d with
          | some d => scanString halves start 1 (d :: acc) r
          | none => .error (.badEscape, c :: r)
      else if c.toNat < 0x20 then .error (.control, c :: r)
      else scanString halves start 0 (c :: acc) r

/-! ### Values -/

/-- The words, with what they stand for. -/
def words : List (List CodePoint × Document) :=
  [(Text.toList "null", .null), (Text.toList "true", .bool true),
    (Text.toList "false", .bool false)]

/-- The words that only a lenient reading takes. -/
def lenientWords : List (List CodePoint × Document) :=
  [(Text.toList "NaN", .nonFinite .notANumber),
    (Text.toList "Infinity", .nonFinite (.infinite false)),
    (Text.toList "-Infinity", .nonFinite (.infinite true))]

/-- The words that a reading takes. -/
def Reading.words (reading : Reading) : List (List CodePoint × Document) :=
  if reading.lenient then Json.words ++ lenientWords else Json.words

/-- One of the words at the front of a text. -/
def scanWord (reading : Reading) (cs : List CodePoint) : Option (Document × List CodePoint) :=
  (reading.words.find? fun w => w.1.isPrefixOf cs).map fun w => (w.2, cs.drop w.1.length)

/-- A quoted text at the front of a text, behind its opening quote. -/
def scanText (reading : Reading) (cs : List CodePoint) : Scanned Text :=
  (scanString reading.lenient ('"' :: cs) 0 [] cs).map fun (s, r) => (Text.ofList s, r)

/-- A key with the colon behind it. -/
def scanKey (reading : Reading) (cs : List CodePoint) : Scanned Text :=
  match skipSpace cs with
  | '"' :: r =>
    match scanText reading r with
    | .ok (k, r) =>
      match skipSpace r with
      | ':' :: r => .ok (k, r)
      | r => .error (.noColon, r)
    | .error e => .error e
  | r => .error (.noKey, r)

mutual

/-- A value at the front of a text, in which at most `depth` arrays and objects are nested. -/
def scanValue (reading : Reading) : Nat → Nat → List CodePoint → Scanned Document
  | 0, _, cs => .error (.noValue, cs)
  | fuel + 1, depth, cs =>
    match skipSpace cs with
    | '"' :: r => (scanText reading r).map fun (s, r) => (.str s, r)
    | '[' :: r =>
      match depth, skipSpace r with
      | 0, _ => .error (.tooDeep, r)
      | _, ']' :: r => .ok (.arr [], r)
      | depth + 1, r => scanItems reading fuel depth [] r
    | '{' :: r =>
      match depth, skipSpace r with
      | 0, _ => .error (.tooDeep, r)
      | _, '}' :: r => .ok (.obj [], r)
      | depth + 1, r => scanFields reading fuel depth [] r
    | r =>
      match scanWord reading r with
      | some found => .ok found
      | none => (scanNumber reading r).map fun (n, r) => (.number n, r)

/-- The rest of an array from its next item on. The items read so far are kept in reverse in
`acc`. -/
def scanItems (reading : Reading) : Nat → Nat → List Document → List CodePoint → Scanned Document
  | 0, _, _, cs => .error (.noValue, cs)
  | fuel + 1, depth, acc, cs =>
    match scanValue reading fuel depth cs with
    | .error e => .error e
    | .ok (v, r) =>
      match skipSpace r with
      | ',' :: r => scanItems reading fuel depth (v :: acc) r
      | ']' :: r => .ok (.arr (v :: acc).reverse, r)
      | r => .error (.noComma, r)

/-- The rest of an object from its next key on. The fields read so far are kept in reverse in
`acc`. -/
def scanFields (reading : Reading) :
    Nat → Nat → List (Text × Document) → List CodePoint → Scanned Document
  | 0, _, _, cs => .error (.noValue, cs)
  | fuel + 1, depth, acc, cs =>
    match scanKey reading cs with
    | .error e => .error e
    | .ok (k, r) =>
      match scanValue reading fuel depth r with
      | .error e => .error e
      | .ok (v, r) =>
        match skipSpace r with
        | ',' :: r => scanFields reading fuel depth ((k, v) :: acc) r
        | '}' :: r => .ok (.obj ((k, v) :: acc).reverse, r)
        | r => .error (.noComma, r)

end

/-- The fault in a text with a flaw where something is left of it. -/
def faultIn (cs : List CodePoint) (flaw : Flaw) (rest : List CodePoint) : ReadFault :=
  { flaw, front := cs.take (cs.length - rest.length) }

/-- The exact reading of the characters of a text. -/
def Document.readChars (reading : Reading) (cs : List CodePoint) : Except ReadFault Document :=
  match scanValue reading (2 * cs.length + 2) reading.maxDepth cs with
  | .ok (v, r) =>
    match skipSpace r with
    | [] => .ok v
    | r => .error (faultIn cs .moreText r)
  | .error (flaw, r) => .error (faultIn cs flaw r)

/-- The exact reading of a text. -/
def Document.read (reading : Reading) (s : Text) : Except ReadFault Document :=
  Document.readChars reading s.toList

/-- The value of a text. -/
def read (reading : Reading) (s : Text) : Except ReadFault Json :=
  match Document.read reading s with
  | .error e => .error e
  | .ok d =>
    match d.toJson? reading with
    | some v => .ok v
    | none => .error { flaw := .noValue }

/-- The value of a text, if it has one. -/
def read? (reading : Reading) (s : Text) : Option Json := (read reading s).toOption

/-- The reading that takes integers of any size and any nesting. -/
def Reading.exact (s : Text) : Reading := { maxDepth := s.toList.length }

/-- The reading of texts whose senders are not careful, with a limit on the nesting. -/
def Reading.careless (maxDepth : Nat) : Reading :=
  { maxDepth, maxDigits? := some Text.maxDigits, lenient := true }

/-- The value of a text with integers of any size and any nesting. -/
def readAny? (s : Text) : Option Json := read? (.exact s) s

end ChannelConsole.Json
