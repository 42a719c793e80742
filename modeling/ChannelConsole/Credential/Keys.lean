import ChannelConsole.Text.Search

/-!
# The keys in a credential text

A channel keeps all its keys in one text. Typed text is cut at commas and line breaks; the stored
text has commas alone.

## Main definitions

* `Credential.split`: the keys in a text.
* `Credential.join`: the stored text of a list of keys.
* `Credential.first`: the key that is used when one is needed.

## Main statements

* `Credential.split_empty`: the empty text has no keys.
* `Credential.mem_split_ne_empty`: no key is empty.
-/

namespace ChannelConsole.Credential

/-- The characters between two keys. -/
def isDelimiter (c : CodePoint) : Bool := c == ',' || c == '\n'

/-- Whether a text has a place where it is cut. -/
def hasDelimiter (s : Text) : Bool := s.toList.any isDelimiter

/-- The keys in a text: its trimmed pieces between delimiters, blank ones left out. -/
def split (s : Text) : List Text := Text.items isDelimiter s

/-- The entries that are not blank, trimmed. -/
def tidy (entries : List Text) : List Text :=
  (entries.map Text.trim).filter (!·.isEmpty)

/-- The stored text of a list of entries: those that are not blank, trimmed, with commas between
them. -/
def join (entries : List Text) : Text := Text.join (tidy entries)

/-- The key that is used when one is needed: the part in front of the first comma, trimmed. -/
def first (s : Text) : Text := Text.beforeComma s

theorem split_empty : split "" = [] := by decide

theorem mem_split_ne_empty {s x : Text} (h : x ∈ split s) : x ≠ "" := Text.mem_items_ne_empty h

end ChannelConsole.Credential
