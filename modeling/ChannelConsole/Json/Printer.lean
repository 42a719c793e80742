import ChannelConsole.Json.Document
import ChannelConsole.Binary64.Shortest
import ChannelConsole.Text.Quoted

/-!
# Writing JSON

Two forms of the text of a value, which differ in the blanks alone: the compact one has none, the
indented one puts each item and each field on a line of its own. A number that is not finite is
written as null. Writers put the text of a value in front of the characters that follow it.

## Main definitions

* `Json.Form`: the two forms.
* `Json.text`: the text of a value, whatever its size.
* `Json.encode?`: the text of a value that can be stored, which has no integer outside the machine
  words and no half of a character, and is not nested too deeply.
-/

namespace ChannelConsole.Json

/-- A text of JSON is compact or indented. -/
inductive Form where
  | compact
  | indented
deriving DecidableEq

/-- What stands in front of an item or a closing bracket at a level: nothing, or a new line and two
spaces for each level. -/
def Form.gap : Form → Nat → List CodePoint
  | .compact, _ => []
  | .indented, level => '\n' :: List.replicate (2 * level) ' '

/-- What stands between a key and its value. -/
def Form.colon : Form → List CodePoint
  | .compact => [':']
  | .indented => [':', ' ']

/-- Doubles are written positionally while the leading digit stands between the fifth place after
the point and the sixteenth place before it. -/
def floatLayout : Binary64.Layout := ⟨-5, 16, 1⟩

/-! ### Texts -/

/-- The form of a character inside quotes: quotes, backslashes and control characters are escaped,
everything else stands for itself. -/
def escapeChar (c : CodePoint) : List CodePoint :=
  if c = '"' then ['\\', '"']
  else if c = '\\' then ['\\', '\\']
  else if c.toNat < 0x20 then
    match c.toNat with
    | 8 => ['\\', 'b']
    | 9 => ['\\', 't']
    | 10 => ['\\', 'n']
    | 12 => ['\\', 'f']
    | 13 => ['\\', 'r']
    | n => ['\\', 'u', '0', '0', Text.hexDigit (n / 16), Text.hexDigit (n % 16)]
  else [c]

/-- The characters of a text in their form inside quotes, with the closing quote. -/
def writeChars : List CodePoint → List CodePoint → List CodePoint
  | [], k => '"' :: k
  | c :: r, k => escapeChar c ++ writeChars r k

/-- A text in quotes. -/
def writeString (s : Text) (k : List CodePoint) : List CodePoint := '"' :: writeChars s.toList k

/-! ### Values -/

mutual

/-- The text of a value that starts at a level. -/
def write (form : Form) (level : Nat) : Json → List CodePoint → List CodePoint
  | .null, k => 'n' :: 'u' :: 'l' :: 'l' :: k
  | .bool true, k => 't' :: 'r' :: 'u' :: 'e' :: k
  | .bool false, k => 'f' :: 'a' :: 'l' :: 's' :: 'e' :: k
  | .int n, k => Text.intChars n ++ k
  | .float x, k => Binary64.chars floatLayout x ++ k
  | .nonFinite _, k => 'n' :: 'u' :: 'l' :: 'l' :: k
  | .str s, k => writeString s k
  | .arr [], k => '[' :: ']' :: k
  | .arr (x :: xs), k =>
    '[' :: (form.gap (level + 1) ++ write form (level + 1) x
      (writeItems form (level + 1) xs (form.gap level ++ CodePoint.char ']' :: k)))
  | .obj [], k => '{' :: '}' :: k
  | .obj ((key, x) :: fs), k =>
    '{' :: (form.gap (level + 1) ++ writeString key (form.colon ++ write form (level + 1) x
      (writeFields form (level + 1) fs (form.gap level ++ CodePoint.char '}' :: k))))

/-- The items of an array after the first one. -/
def writeItems (form : Form) (level : Nat) : List Json → List CodePoint → List CodePoint
  | [], k => k
  | x :: xs, k => ',' :: (form.gap level ++ write form level x (writeItems form level xs k))

/-- The fields of an object after the first one. -/
def writeFields (form : Form) (level : Nat) : List (Text × Json) → List CodePoint → List CodePoint
  | [], k => k
  | (key, x) :: fs, k =>
    ',' :: (form.gap level ++ writeString key (form.colon ++ write form level x
      (writeFields form level fs k)))

end

/-- The text of a value. -/
def text (form : Form) (v : Json) : Text := Text.ofList (write form 0 v [])

/-! ### Values that can be stored -/

/-- Whether every integer in a value fits into a machine word. -/
def integersFit (v : Json) : Bool :=
  v.everyLeaf fun
    | .int n => fitsWord n
    | _ => true

/-- How deeply a value that is written may be nested. -/
def maxWrittenDepth : Nat := 254

/-- Whether a value can be written: its integers fit into machine words, its texts consist of whole
characters, and it is not nested too deeply. -/
def isWritable (v : Json) : Bool :=
  v.integersFit && v.isEncodable && v.depth ≤ maxWrittenDepth

/-- The text of a value that can be written. -/
def encode? (form : Form) (v : Json) : Option Text :=
  if v.isWritable then some (v.text form) else none

end ChannelConsole.Json
