import ChannelConsole.Network.Host.Letters
import ChannelConsole.Network.Host.Punycode
import ChannelConsole.Text.Lowercase
import ChannelConsole.Text.Percent

/-!
# Hosts

The host in an address is a name or a number. A number is written as four numbers below 256 with
points between them, or in brackets as eight groups of hexadecimal digits with colons between them.
A name beyond ASCII is sent in a form within ASCII.

## Main definitions

* `Network.Host.encode?`: the form in which a host is sent, if it is one.
* `Network.Host.isFourNumbers`, `Network.Host.isEightGroups`: the two forms of numbers.
* `Network.Host.international?`: the form of a name beyond ASCII.

## Main statements

* `Network.Host.encode?_nil`: no host is sent as none.
-/

namespace ChannelConsole.Network.Host

open CodePoint (char)

/-- Whether a character is one of the digits 0 to 9. -/
def isDigit (c : CodePoint) : Bool := (Text.digitValue? c).isSome

/-! ### Numbers -/

/-- Whether a host is taken for four numbers: digits with three other characters, or digits in the
place of these, inside. -/
def looksNumeric (cs : List CodePoint) : Bool :=
  let runs := cs.splitOnP (!isDigit ·)
  runs.all (!·.isEmpty) && runs.length ≤ 4 &&
    4 ≤ runs.foldl (fun n r => n + (r.length + 1) / 2) 0

/-- Whether digits are a number below 256, without zeros in front. -/
def isSmallNumber (cs : List CodePoint) : Bool :=
  !cs.isEmpty && cs.length ≤ 3 && cs.all isDigit &&
    (cs.length == 1 || cs.head? != some (char '0')) && Text.numberOf cs < 256

/-- Whether a host is four numbers with points between them. -/
def isFourNumbers (cs : List CodePoint) : Bool :=
  let parts := cs.splitOnP (· == char '.')
  parts.length == 4 && parts.all isSmallNumber

/-- Whether there are at most four hexadecimal digits. -/
def isGroup (cs : List CodePoint) : Bool :=
  !cs.isEmpty && cs.length ≤ 4 && cs.all fun c => (Text.hexValue? c).isSome

/-- The parts of a host between its colons, where four numbers at the end count as two groups. -/
def groups? (cs : List CodePoint) : Option (List (List CodePoint)) :=
  let parts := cs.splitOnP (· == char ':')
  match parts.getLast? with
  | some last =>
    if parts.length < 3 then none
    else if char '.' ∈ last then
      if isFourNumbers last then some (parts.dropLast ++ [[char '0'], ['0']]) else none
    else some parts
  | none => none

/-- Whether parts are eight groups, of which a run of zeros may be left out: then an empty part
stands in its place, and another one beside it if the run is at the front or at the end. -/
def areEightGroups (parts : List (List CodePoint)) : Bool :=
  let inner := parts.dropLast.tail
  match (inner.filter (·.isEmpty)).length with
  | 0 => parts.length == 8 && parts.all isGroup
  | 1 =>
    let i := inner.findIdx (·.isEmpty)
    let front := parts.take (i + 1)
    let back := parts.drop (i + 2)
    let front := if front == [[]] then [] else front
    let back := if back == [[]] then [] else back
    front.all isGroup && back.all isGroup && front.length + back.length < 8
  | _ => false

/-- Whether a host is eight groups of hexadecimal digits, possibly with the name of a zone behind a
percent sign. -/
def isEightGroups (cs : List CodePoint) : Bool :=
  let address := cs.takeWhile (· != char '%')
  let zone := cs.drop address.length
  !cs.contains '/' && (zone.isEmpty || (1 < zone.length && !zone.tail.contains '%')) &&
    match groups? address with
    | some parts => parts.length ≤ 9 && areEightGroups parts
    | none => false

/-! ### Names -/

/-- The characters that stand for themselves in a name of ASCII. -/
def isSafe (c : CodePoint) : Bool :=
  c.isAlphanum || (Text.toList "-._~!$&'()*+,;=\"`\x7b\x7d%|\\").contains c

/-- The points between the parts of a name. -/
def isPoint (c : CodePoint) : Bool :=
  c == '.' || c.toNat == 0x3002 || c.toNat == 0xFF0E || c.toNat == 0xFF61

/-- Whether characters may be a part of an international name. They are written in one direction,
and hyphens stand neither at the ends nor in the third and the fourth place together. -/
def isPart (cs : List CodePoint) : Bool :=
  let hyphen := char '-'
  !cs.isEmpty && cs.head? != some hyphen && cs.getLast? != some hyphen &&
    (cs.drop 2).take 2 != [hyphen, hyphen] && cs.all isLetter && hasOneDirection cs

/-- What is in front of a part that is in its form within ASCII. -/
def marker : List CodePoint := ['x', 'n', '-', '-']

/-- The form within ASCII of a part of an international name. -/
def part? (cs : List CodePoint) : Option (List CodePoint) :=
  let encoded? :=
    if cs.all (·.toNat < 0x80) then
      if marker.isPrefixOf cs then
        let rest := cs.drop 4
        if rest.isEmpty || rest.getLast? == some (char '-') then none else some cs
      else if isPart cs then some cs
      else none
    else if isPart cs then some (marker ++ punycode cs)
    else none
  encoded?.bind fun e => if e.length ≤ 63 then some e else none

/-- The form within ASCII of an international name in small letters. A point at its end is kept. -/
def international? (cs : List CodePoint) : Option (List CodePoint) := do
  let parts := cs.splitOnP isPoint
  let (parts, ending) :=
    if parts.getLast? == some [] then (parts.dropLast, [char '.']) else (parts, [])
  let encoded := List.intercalate [char '.'] (← parts.mapM part?) ++ ending
  if encoded.length ≤ 253 + ending.length then some encoded else none

/-! ### Hosts -/

/-- The form in which a host is sent, if it is one. Brackets are left off. -/
def encode? (cs : List CodePoint) : Option (List CodePoint) :=
  if cs.isEmpty then some []
  else if looksNumeric cs then if isFourNumbers cs then some cs else none
  else if cs.head? == some (char '[') && cs.getLast? == some (char ']') then
    let inner := cs.tail.dropLast
    if isEightGroups inner then some inner else none
  else
    let lowered := Text.lowerChars cs
    if cs.all (·.toNat < 0x80) then some (Text.escapeChars isSafe lowered)
    else international? lowered

theorem encode?_nil : encode? [] = some [] := rfl

end ChannelConsole.Network.Host
