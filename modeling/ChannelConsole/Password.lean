import ChannelConsole.Text.Half
import ChannelConsole.Text.Percent

/-!
# Passwords

A password is kept as a hash, and a text is accepted as the password when it yields the same hash.
What is hashed is the material of a text: its bytes with a zero behind them, over and over again
until there are 72 bytes. Longer texts can be neither hashed nor accepted, and neither can texts
with halves of characters, which have no bytes. How a hash conceals the material is no matter here:
a hash is as good as the material it was made from, and the only thing to be done with it is to try
a text.

## Main definitions

* `Password.material`: the bytes that are hashed.
* `Password.hash?`: the hash of a password.
* `Password.Hash.accepts`: whether a text is the password.
* `Password.verify`: the same for whatever is stored as a hash.

## Main statements

* `Password.accepts_iff`: the hash of a password accepts the texts with the material of that
  password and nothing else.
* `Password.length_material`: the material of every text has the same length.
-/

namespace ChannelConsole.Password

/-- How many bytes are hashed. -/
def maxBytes : Nat := 72

/-- The cost with which passwords are hashed. -/
def rounds : Nat := 12

/-- The bytes of a text with a zero behind them. -/
def terminated (s : Text) : List Nat := s.toList.flatMap Text.bytesOf ++ [0]

/-- The bytes that are hashed: those of a text with a zero behind them, over and over again. -/
def material (s : Text) : List Nat :=
  (List.range maxBytes).map fun i => (terminated s).getD (i % (terminated s).length) 0

/-- Whether a text can be hashed. -/
def isHashable (s : Text) : Bool :=
  s.isEncodable && (s.toList.flatMap Text.bytesOf).length ≤ maxBytes

/-- A hash. -/
structure Hash where
  bytes : List Nat
deriving DecidableEq

/-- The hash of a password; there is none of a password that cannot be hashed. -/
def hash? (password : Text) : Option Hash :=
  if isHashable password then some ⟨material password⟩ else none

/-- Whether a text has the material that a hash was made from. -/
def Hash.accepts (h : Hash) (attempt : Text) : Bool :=
  isHashable attempt && material attempt == h.bytes

/-- Whether a text is accepted against what is stored as a hash. What is stored may be anything; if
it is no hash, nothing is accepted. -/
def verify (stored? : Option Hash) (attempt : Text) : Bool :=
  match stored? with
  | some h => h.accepts attempt
  | none => false

/-- What is said about a password that is too long. -/
def tooLong : Text :=
  "password cannot be longer than 72 bytes, truncate manually if necessary (e.g. my_password[:72])"

/-- The hash of a password accepts the texts with the material of that password and nothing else. -/
theorem accepts_iff {password attempt : Text} {h : Hash} (hh : hash? password = some h) :
    h.accepts attempt = true ↔
      isHashable attempt = true ∧ material attempt = material password := by
  unfold hash? at hh
  split at hh
  · simp only [Option.some.injEq] at hh
    subst hh
    simp [Hash.accepts]
  · simp at hh

/-- The material of every text has the same length. -/
theorem length_material (s : Text) : (material s).length = maxBytes := by simp [material]

end ChannelConsole.Password
