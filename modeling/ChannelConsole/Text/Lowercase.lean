import ChannelConsole.Text.Basic
import ChannelConsole.Text.Lowercase.Table

/-!
# Lower-casing

The full lower-casing of a text, as the Unicode standard defines it without regard to language.
Two letters make it more than a map on characters: the capital I with a dot becomes two characters,
and the capital sigma has another small form at the end of a word.

## Main definitions

* `Text.lowerChar`: the small form of a character that does not depend on its neighbours.
* `Text.lower`: the lower-cased text.

## Main statements

* `Text.lowerChars_sigma`: a sigma by itself is not the end of a word.
* `Text.lowerChars_word_sigma`: a sigma after a letter, with no letter behind it, is.
-/

namespace ChannelConsole.Text

/-- Whether a character has case, and is not passed over in the search for one that has. -/
def isCased (c : CodePoint) : Bool := inRanges casedRanges c.toNat

/-- Whether a character is passed over when the next letter is looked for. -/
def isCaseIgnorable (c : CodePoint) : Bool := inRanges caseIgnorableRanges c.toNat

/-- The small form of a character on its own. -/
def lowerChar (c : CodePoint) : List CodePoint :=
  if c.toNat = 0x130 then ['i', CodePoint.ofNat 0x307]
  else if c.toNat < 128 then [c.toLower]
  else
    match smallForms.find? (·.has c.toNat) with
    | some r => [CodePoint.ofNat (c.toNat + r.distance).toNat]
    | none => [c]

/-- The capital sigma. -/
def capitalSigma : CodePoint := CodePoint.ofNat 0x3A3

/-- The small sigma inside a word. -/
def smallSigma : CodePoint := CodePoint.ofNat 0x3C3

/-- The small sigma at the end of a word. -/
def finalSigma : CodePoint := CodePoint.ofNat 0x3C2

/-- Whether the next character that is not passed over is a letter with case. -/
def continuesWord (cs : List CodePoint) : Bool :=
  match cs.dropWhile isCaseIgnorable with
  | c :: _ => isCased c
  | [] => false

/-- Lower-case characters, where `inWord` says whether the last character that was not passed over
is a letter with case. -/
def lowerFrom (inWord : Bool) : List CodePoint → List CodePoint
  | [] => []
  | c :: r =>
    (if c = capitalSigma then [if inWord && !continuesWord r then finalSigma else smallSigma]
      else lowerChar c) ++
      lowerFrom (if isCaseIgnorable c then inWord else isCased c) r

/-- The lower-cased characters of a text. -/
def lowerChars (cs : List CodePoint) : List CodePoint := lowerFrom false cs

/-- The lower-cased text. -/
def lower (s : Text) : Text := Text.ofList (lowerChars s.toList)

/-- A sigma by itself is not the end of a word. -/
theorem lowerChars_sigma : lowerChars [capitalSigma] = [smallSigma] := by decide +kernel

/-- A sigma after a letter, with no letter behind it, is the end of a word. -/
theorem lowerChars_word_sigma : lowerChars ['A', capitalSigma] = [.char 'a', finalSigma] := by
  decide +kernel

end ChannelConsole.Text
