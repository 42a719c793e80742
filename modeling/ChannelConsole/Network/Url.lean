import ChannelConsole.Network.Host
import ChannelConsole.Text.Base64
import ChannelConsole.Text.Half
import ChannelConsole.Text.Quoted
import ChannelConsole.Text.Search

/-!
# Addresses

An address names a scheme, a host, possibly with who asks and the number of a service there, a path,
and possibly a query and a fragment. Typed addresses are brought into one form before they are used:
what must not stand for itself is escaped, the scheme and the host are in small letters, the service
is left out where it is the usual one of the scheme, and the steps `.` and `..` of a path are taken.

## Main definitions

* `Network.Url`: an address in that form.
* `Network.Url.ofText`: the address that a text stands for.
* `Network.Url.text`: the text of an address.
* `Network.Url.target`: the path and the query, which are what a server is asked for.
* `Network.Url.join`: an address below another one.

## Main statements

* `Network.Url.takeSteps_plain`: a path without points is left alone.
* `Network.Url.join_absolute`: an address with a scheme and a host is below no other one.
-/

namespace ChannelConsole.Network

open CodePoint (char)

/-- An address in the form in which it is used. -/
structure Url where
  scheme : Text := ""
  userinfo : Text := ""
  host : Text := ""
  service? : Option Int := none
  path : Text := ""
  query? : Option Text := none
  fragment? : Option Text := none
deriving DecidableEq

namespace Url

/-- Why a text is no address. -/
inductive Fault where
  | invalid
  /-- a character cannot be escaped, since it is half of one -/
  | unencodable (c : CodePoint)
deriving DecidableEq

/-! ### The parts of a text -/

/-- The parts of an address as they were typed. -/
structure Parts where
  scheme : List CodePoint := []
  authority : List CodePoint := []
  path : List CodePoint := []
  query? : Option (List CodePoint) := none
  fragment? : Option (List CodePoint) := none

/-- Whether a character may stand in a scheme behind its first letter. -/
def isSchemeChar (c : CodePoint) : Bool := c.isAlphanum || c == '+' || c == '.' || c == '-'

/-- The scheme in front of a colon, which may be empty, and what comes behind the colon. -/
def cutScheme (cs : List CodePoint) : List CodePoint × List CodePoint :=
  let scheme := if cs.head?.all CodePoint.isAlpha then cs.takeWhile isSchemeChar else []
  match cs.drop scheme.length with
  | ':' :: r => (scheme, r)
  | _ => ([], cs)

/-- Cut a text in front of the first of the given characters. -/
def cutAt (marks : List CodePoint) (cs : List CodePoint) : List CodePoint × List CodePoint :=
  cs.span (!marks.contains ·)

/-- The part behind a mark, if the mark comes next, up to the first of the given characters. -/
def cutPart (mark : CodePoint) (marks : List CodePoint) :
    List CodePoint → Option (List CodePoint) × List CodePoint
  | [] => (none, [])
  | c :: r =>
    if c = mark then
      let (part, rest) := cutAt marks r
      (some part, rest)
    else (none, c :: r)

/-- The parts of a text. -/
def Parts.ofChars (cs : List CodePoint) : Parts :=
  let (scheme, r) := cutScheme cs
  let (authority, r) := match r with
    | '/' :: '/' :: r => cutAt ['/', '?', '#'] r
    | _ => ([], r)
  let (path, r) := cutAt ['?', '#'] r
  let (query?, r) := cutPart '?' ['#'] r
  let (fragment?, _) := cutPart '#' [] r
  { scheme, authority, path, query?, fragment? }

/-- What stands in front of the last of a character, if there is one, and what comes behind it. -/
def cutAtLast (mark : CodePoint) (cs : List CodePoint) : List CodePoint × List CodePoint :=
  match cs.reverse.span (· != mark) with
  | (behind, _ :: front) => (front.reverse, behind.reverse)
  | (behind, []) => ([], behind.reverse)

/-- The host in front of the number of a service, and the number. A host in brackets reaches to the
last bracket. -/
def cutHost (cs : List CodePoint) : List CodePoint × List CodePoint :=
  let host :=
    if cs.head? == some (char '[') && cs.contains ']' then
      (cutAtLast ']' cs).1 ++ [char ']']
    else (cutAt [':', '@'] cs).1
  match cs.drop host.length with
  | ':' :: r => (host, r)
  | r => (host, r)

/-! ### The form in which an address is used -/

/-- Whether a character is one of ASCII that shows as itself or as a blank, and none of some. -/
def isShownBut (others : Text) (c : CodePoint) : Bool :=
  0x20 ≤ c.toNat && c.toNat < 0x7F && !others.toList.contains c

/-- The characters that stand for themselves in a path. -/
def isPathChar : CodePoint → Bool := isShownBut " \"#<>?`\x7b\x7d"

/-- The characters that stand for themselves in a query. -/
def isQueryChar : CodePoint → Bool := isShownBut " \"#<>"

/-- The characters that stand for themselves in a fragment. -/
def isFragmentChar : CodePoint → Bool := isShownBut " \"<>`"

/-- The characters that stand for themselves in the name and the password of who asks. -/
def isUserinfoChar : CodePoint → Bool := isShownBut " \"#<>?`\x7b\x7d/;=@[\\]^|"

/-- Characters of which only those of a class stand for themselves. -/
def escaped (safe : CodePoint → Bool) (cs : List CodePoint) : Except Fault Text :=
  match cs.find? CodePoint.isHalf with
  | some c => .error (.unencodable c)
  | none => .ok (Text.ofList (Text.escapeChars safe cs))

/-- The same for a part that need not be there. -/
def escaped? (safe : CodePoint → Bool) : Option (List CodePoint) → Except Fault (Option Text)
  | none => .ok none
  | some cs => (escaped safe cs).map some

/-- The services that are usual for a scheme. -/
def usualServices : List (Text × Int) :=
  [("ftp", 21), ("http", 80), ("https", 443), ("ws", 80), ("wss", 443)]

/-- The service that a text stands for. There is none in an empty text, nor where it is the usual
one of the scheme as it was written. -/
def serviceOf (scheme : Text) (cs : List CodePoint) : Except Fault (Option Int) :=
  if cs.isEmpty then .ok none
  else
    match Text.anyScriptInteger (Text.ofList cs) with
    | .number n => .ok (if usualServices.lookup scheme = some n then none else some n)
    | _ => .error .invalid

/-- Take the steps `.` and `..` of a path, given by its segments. The segments taken so far are kept
in reverse; a first one that is empty stays. -/
def takeSteps (taken : List (List CodePoint)) : List (List CodePoint) → List (List CodePoint)
  | [] => taken.reverse
  | segment :: r =>
    if segment = (['.'] : List CodePoint) then takeSteps taken r
    else if segment = (['.', '.'] : List CodePoint) then
      takeSteps (if taken = [[]] then taken else taken.tail) r
    else takeSteps (segment :: taken) r

/-- A path without the steps `.` and `..`. -/
def plainSteps (path : List CodePoint) : List CodePoint :=
  List.intercalate ['/'] (takeSteps [] (path.splitOnP (· == '/')))

/-- Whether a path may stand where it does. Behind a host it begins with a slash, unless it is
empty; and with neither a scheme nor a host, it begins with neither two slashes nor a colon. -/
def isPathAt (hasScheme hasAuthority : Bool) (path : List CodePoint) : Bool :=
  if hasAuthority then path.isEmpty || path.head? == some (char '/')
  else
    hasScheme ||
      !([char '/', '/'].isPrefixOf path || path.head? == some (char ':'))

/-- How many characters an address or a part of one may have. -/
def maxLength : Nat := 65536

/-- Whether characters may stand in an address at all. Control characters of ASCII may not. -/
def isAddressText (cs : List CodePoint) : Bool :=
  cs.length ≤ maxLength && cs.all fun c => 0x20 ≤ c.toNat && c.toNat ≠ 0x7F

/-- The address with the given parts. -/
def ofParts (parts : Parts) : Except Fault Url := do
  let scheme := Text.ofList parts.scheme
  let (userinfo, rest) := cutAtLast '@' parts.authority
  let (host, number) := cutHost rest
  let userinfo ← escaped isUserinfoChar userinfo
  let host ← (Host.encode? host).elim (.error .invalid) .ok
  let service? ← serviceOf scheme number
  let hasScheme := !parts.scheme.isEmpty
  let hasAuthority := !userinfo.isEmpty || !host.isEmpty || service?.isSome
  if isPathAt hasScheme hasAuthority parts.path then
    let path := if hasScheme || hasAuthority then plainSteps parts.path else parts.path
    return {
      scheme := Text.lower scheme
      userinfo
      host := Text.ofList host
      service?
      path := ← escaped isPathChar path
      query? := ← escaped? isQueryChar parts.query?
      fragment? := ← escaped? isFragmentChar parts.fragment? }
  else .error .invalid

/-- The address that a text stands for. -/
def ofText (s : Text) : Except Fault Url :=
  if isAddressText s.toList then ofParts (.ofChars s.toList) else .error .invalid

/-! ### Texts of an address -/

/-- The text of what may or may not be there, behind a mark. -/
def marked (mark : Text) : Option Text → Text
  | some s => mark ++ s
  | none => ""

/-- The host of an address, with who asks and the service. -/
def authority (u : Url) : Text :=
  (if u.userinfo.isEmpty then ("" : Text) else u.userinfo ++ "@") ++
    (if u.host.toList.contains ':' then "[" ++ u.host ++ "]" else u.host) ++
    marked ":" (u.service?.map Text.ofInt)

/-- The text of an address. -/
def text (u : Url) : Text :=
  (if u.scheme.isEmpty then ("" : Text) else u.scheme ++ ":") ++
    (if u.authority.isEmpty then ("" : Text) else "//" ++ u.authority) ++
    u.path ++ marked "?" u.query? ++ marked "#" u.fragment?

/-- What a server is asked for: the path, which is a slash if there is none, and the query. -/
def target (u : Url) : Text :=
  (if u.path.isEmpty then ("/" : Text) else u.path) ++ marked "?" u.query?

/-- The path of an address, with its escapes read. -/
def plainPath (u : Url) : Text := if u.path.isEmpty then "/" else Text.unescape u.path

/-- Whether an address stands for itself and need not be looked for below another one. -/
def isAbsolute (u : Url) : Bool := !u.scheme.isEmpty && !u.host.isEmpty

/-! ### Other addresses -/

/-- The same address with something else to ask for. -/
def withTarget (u : Url) (target : Text) : Except Fault Url :=
  let (path, rest) := cutAt ['?'] target.toList
  let query? := rest.tail?
  if isAddressText path && query?.all isAddressText then
    ofParts { scheme := u.scheme.toList, authority := u.authority.toList, path, query?
              fragment? := u.fragment?.map Text.toList }
  else .error .invalid

/-- The address as one that others are below: what it asks for ends with a slash. -/
def asBase (u : Url) : Except Fault Url :=
  if Text.endsWith "/" u.target then .ok u else u.withTarget (u.target ++ "/")

/-- An address below a base. One with a scheme and a host is below no other. -/
def join (base u : Url) : Except Fault Url :=
  if u.isAbsolute then .ok u
  else
    base.withTarget
      (base.target ++ Text.ofList (u.target.toList.dropWhile (· == '/')))

/-- The path for which a server is asked by who follows an address on it, with its escapes. A text
that is no address is taken for a path. -/
def pathFor (address : Text) : Text :=
  match (ofText address).bind (join { scheme := "http", host := "localhost", path := "/" }) with
  | .ok u => if u.path.isEmpty then "/" else u.path
  | .error _ => address

/-! ### Who asks -/

/-- The header that tells a name and a password, if an address has them. -/
def credentials? (u : Url) : Option Text :=
  let (name, rest) := cutAt [':'] u.userinfo.toList
  let name := Text.unescape (Text.ofList name)
  let password := Text.unescape (Text.ofList rest.tail)
  if name.isEmpty && password.isEmpty then none
  else
    some ("Basic " ++
      Text.ofList (Text.base64 ((name ++ ":" ++ password).toList.flatMap Text.bytesOf)))

/-! ### Addresses without a kind -/

/-- Whether the text of an address begins with a word for its kind, which a colon ends. -/
def hasKind (u : Url) : Bool :=
  match u.text.toList.span fun c : CodePoint => c != '/' && c != ':' with
  | (_ :: _, ':' :: _) => true
  | _ => false

/-- What is said about an address without a word for its kind. A mark of a fragment with nothing
behind it is not mentioned. -/
def unknownKind (u : Url) : Text :=
  let cs := u.text.toList
  "unknown url type: " ++
    Text.quoted (Text.ofList (if cs.getLast? == some (char '#') then cs.dropLast else cs))

/-! ### Small facts -/

/-- A path without points is left alone. -/
theorem takeSteps_plain {taken segments : List (List CodePoint)}
    (h : ∀ s ∈ segments, ('.' : CodePoint) ∉ s) :
    takeSteps taken segments = taken.reverse ++ segments := by
  induction segments generalizing taken with
  | nil => simp [takeSteps]
  | cons s r ih =>
    have hs := h s (by simp)
    have h₁ : s ≠ (['.'] : List CodePoint) := fun he => hs (by simp [he])
    have h₂ : s ≠ (['.', '.'] : List CodePoint) := fun he => hs (by simp [he])
    rw [takeSteps, if_neg h₁, if_neg h₂, ih fun t ht => h t (by simp [ht])]
    simp

/-- An address with a scheme and a host is below no other one. -/
theorem join_absolute {u : Url} (base : Url) (h : u.isAbsolute = true) : base.join u = .ok u := by
  simp [join, h]

end Url

end ChannelConsole.Network
