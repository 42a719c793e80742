import ChannelConsole.Network.Url
import ChannelConsole.Proofs.Text.Items
import Mathlib.Data.List.TakeDrop
import Mathlib.Data.List.TakeWhile

/-!
# Plain paths below the root of a server

The paths of calls are made of small letters, digits, slashes, hyphens and underscores. Such a path
is an address of its own, it needs no escapes, and put below the root of a server it is the path
that the server is asked for.
-/

namespace ChannelConsole.Text

/-- A character of ASCII is one byte. -/
theorem bytesOf_ascii {c : CodePoint} (hc : c.toNat < 0x80) : bytesOf c = [c.toNat] := by
  have hle : c.toNat ≤ 0x7F := Nat.le_of_lt_succ hc
  have hmod : c.toNat % 2 ^ 8 = c.toNat := Nat.mod_eq_of_lt (by omega)
  cases c with
  | char c =>
    have hencode : String.utf8EncodeChar c = [UInt8.ofNat c.toNat] := by
      have hchar : c.toNat ≤ 0x7F := hle
      simp [String.utf8EncodeChar, hchar]
    rw [bytesOf, hencode, List.map_cons, List.map_nil, UInt8.toNat_ofNat']
    exact congrArg (fun n => [n]) hmod
  | half i =>
    have hbounds := CodePoint.toNat_half_bounds i
    omega

/-- A text of ASCII without percent signs stands for itself. -/
theorem unescape_plain {s : Text} (h : ('%' : CodePoint) ∉ s.toList)
    (hs : ∀ c ∈ s.toList, c.toNat < 0x80) :
    unescape s = s := by
  have hchars : ∀ cs : List CodePoint, (∀ c ∈ cs, c.toNat < 0x80) →
      charsOfBytes false none (cs.flatMap bytesOf) = cs := by
    intro cs hcs
    induction cs with
    | nil => rfl
    | cons c r ih =>
      have hc := hcs c List.mem_cons_self
      -- nothing is left to be completed behind the byte of a character
      have hstart : takeByte false none c.toNat = ([c], none) := by
        simp only [takeByte, startChar, hc, if_true, CodePoint.ofNat_toNat]
      rw [List.flatMap_cons, bytesOf_ascii hc, List.cons_append, List.nil_append, charsOfBytes,
        hstart, ih fun d hd => hcs d (List.mem_cons_of_mem _ hd)]
      rfl
  rw [unescape, unescapedBytes_plain h, hchars _ hs, Text.ofList_toList]

end ChannelConsole.Text

namespace ChannelConsole.Network.Url

open CodePoint (char)

/-- The characters of the paths of calls. -/
def plainChars : List CodePoint := Text.toList "abcdefghijklmnopqrstuvwxyz0123456789/-_"

/-- Whether a path is made of such characters and begins with exactly one slash. -/
structure IsPlain (path : List CodePoint) : Prop where
  opening : ∃ c r, path = char '/' :: c :: r ∧ c ≠ '/'
  chars : ∀ c ∈ path, c ∈ plainChars
  length : path.length ≤ maxLength

/-- The marks that have a meaning of their own in addresses. -/
def marks : List CodePoint := ['%', '.', '?', '#', ':']

/-- None of them needs an escape, and none is a mark that cuts an address. -/
theorem safe_of_mem_plainChars {c : CodePoint} (h : c ∈ plainChars) :
    isPathChar c = true ∧ CodePoint.isHalf c = false ∧ (0x20 ≤ c.toNat ∧ c.toNat < 0x7F) ∧
      c ∉ marks := by
  have hall : (plainChars.all fun c => isPathChar c && !CodePoint.isHalf c &&
      (decide (0x20 ≤ c.toNat) && decide (c.toNat < 0x7F)) && !marks.contains c) = true := by
    decide
  have hc := List.all_eq_true.1 hall c h
  simpa [and_assoc] using hc

theorem mem_plainChars_of_all {path : List CodePoint} (h : path.all plainChars.contains = true) :
    ∀ c ∈ path, c ∈ plainChars := by
  intro c hc
  have hcontains := List.all_eq_true.1 h c hc
  simpa using hcontains

/-- What no mark occurs in is not cut. -/
theorem cutAt_of_forall_notMem {marks cs : List CodePoint} (h : ∀ c ∈ cs, c ∉ marks) :
    cutAt marks cs = (cs, []) := by
  have hkeep : ∀ c ∈ cs, (!marks.contains c) = true := by simpa using h
  rw [cutAt, List.span_eq_takeWhile_dropWhile, List.takeWhile_eq_self_iff.2 hkeep,
    List.dropWhile_eq_nil_iff.2 hkeep]

namespace IsPlain

variable {path : List CodePoint}

theorem notMem_of_mem_marks (h : IsPlain path) {mark : CodePoint}
    (hmark : mark ∈ marks) : mark ∉ path :=
  fun hmem => (safe_of_mem_plainChars (h.chars _ hmem)).2.2.2 hmark

theorem isAddressText (h : IsPlain path) : isAddressText path = true := by
  have hshown : ∀ c ∈ path, 0x20 ≤ c.toNat ∧ c.toNat ≠ 0x7F := by
    intro c hc
    have hbounds := (safe_of_mem_plainChars (h.chars c hc)).2.2.1
    omega
  simpa [Url.isAddressText, h.length] using hshown

theorem escaped (h : IsPlain path) : escaped isPathChar path = .ok (Text.ofList path) := by
  have hwhole : path.find? CodePoint.isHalf = none :=
    List.find?_eq_none.2 fun c hc => by simp [(safe_of_mem_plainChars (h.chars c hc)).2.1]
  rw [Url.escaped, hwhole, Text.escapeChars_plain (h.notMem_of_mem_marks (by decide))
    fun c hc => (safe_of_mem_plainChars (h.chars c hc)).1]

/-- There are no steps to be taken in a plain path. -/
theorem plainSteps (h : IsPlain path) : plainSteps path = path := by
  have hpoints :
      ∀ segment ∈ path.splitOnP (· == char '/'), ('.' : CodePoint) ∉ segment := by
    intro segment hsegment hpoint
    exact h.notMem_of_mem_marks (by decide) (Text.mem_of_mem_pieces hsegment hpoint)
  rw [Url.plainSteps, takeSteps_plain hpoints, List.reverse_nil, List.nil_append]
  exact List.intercalate_splitOn (char '/')

/-- A plain path may stand behind a host as well as alone. -/
theorem isPathAt (h : IsPlain path) (hasScheme hasAuthority : Bool) :
    isPathAt hasScheme hasAuthority path = true := by
  obtain ⟨c, r, rfl, hc⟩ := h.opening
  cases hasAuthority
  · have hslash : ('/' == c) = false := by simpa using fun he : '/' = c => hc he.symm
    simp [Url.isPathAt, List.isPrefixOf, hslash]
  · simp [Url.isPathAt]

/-- A plain path has no other parts. -/
theorem parts (h : IsPlain path) : Parts.ofChars path = { path } := by
  have hcut : cutAt ['?', '#'] path = (path, []) := by
    apply cutAt_of_forall_notMem
    intro c hc hmark
    have hsubset : [char '?', '#'] ⊆ marks := by simp [marks]
    exact h.notMem_of_mem_marks (hsubset hmark) hc
  obtain ⟨c, r, rfl, hc⟩ := h.opening
  have hscheme : cutScheme ('/' :: c :: r) = ([], char '/' :: c :: r) := rfl
  unfold Parts.ofChars
  rw [hscheme]
  dsimp only
  split
  · -- the second character is no slash, so that no host comes first
    rename_i he
    exact absurd (List.cons.inj (List.cons.inj he).2).1 hc
  · rw [hcut]
    rfl

/-- An address may have any plain path in the place of its own. -/
theorem ofParts {u : Url} (h : IsPlain path) (parts : Parts) (hu : Url.ofParts parts = .ok u) :
    Url.ofParts { parts with path } = .ok { u with path := Text.ofList path } := by
  unfold Url.ofParts at hu ⊢
  simp only [bind, Except.bind, pure, Except.pure] at hu ⊢
  -- the parts in front of the path are read first, and the same in both
  split at hu
  · exact absurd hu (by simp)
  split at hu
  · exact absurd hu (by simp)
  split at hu
  · exact absurd hu (by simp)
  split at hu
  · rw [if_pos (h.isPathAt _ _), h.plainSteps, ite_self, h.escaped]
    split at hu
    · exact absurd hu (by simp)
    split at hu
    · exact absurd hu (by simp)
    split at hu
    · exact absurd hu (by simp)
    · rw [← Except.ok.inj hu]
  · exact absurd hu (by simp)

/-- A plain path is an address without anything else. -/
theorem ofText (h : IsPlain path) :
    ofText (Text.ofList path) = .ok { path := Text.ofList path } := by
  have hroot : Url.ofParts { path := ['/'] } = .ok { path := "/" } := rfl
  rw [Url.ofText, Text.toList_ofList, if_pos h.isAddressText, h.parts]
  exact h.ofParts { path := ['/'] } hroot

end IsPlain

/-- Whether an address is that of the root of a server: it has no path of its own, and with the path
`/` it is an address in form. -/
structure IsRoot (u : Url) : Prop where
  target : u.target = "/"
  inForm : u.withTarget "/" = .ok { u with path := "/" }

/-- The parts of an address with another path in the place of what it asks for. -/
def partsAt (u : Url) (path : List CodePoint) : Parts :=
  { scheme := u.scheme.toList, authority := u.authority.toList, path
    fragment? := u.fragment?.map Text.toList }

theorem withTarget_of_notMem {path : List CodePoint} (hmark : ('?' : CodePoint) ∉ path)
    (htext : isAddressText path = true) (u : Url) :
    u.withTarget (Text.ofList path) = Url.ofParts (u.partsAt path) := by
  have hcut : cutAt ['?'] path = (path, []) := by
    apply cutAt_of_forall_notMem
    intro c hc hc'
    exact hmark (List.mem_singleton.1 hc' ▸ hc)
  unfold withTarget
  rw [Text.toList_ofList, hcut]
  dsimp only
  rw [if_pos (by simp [htext])]
  rfl

/-- Whoever follows a plain path below the root of a server asks that server for it. -/
theorem IsRoot.join {u : Url} (hu : u.IsRoot) {path : List CodePoint} (h : IsPlain path) :
    (ofText (Text.ofList path)).bind u.join = .ok { u with path := Text.ofList path } := by
  have hroot := hu.inForm
  have hslash : "/" = Text.ofList ['/'] := rfl
  rw [hslash, withTarget_of_notMem (by decide) (by decide)] at hroot
  -- the slash at the end of the root takes the place of the one that the path begins with
  have htarget : u.target ++ Text.ofList
      (({ path := Text.ofList path } : Url).target.toList.dropWhile (· == '/')) =
      Text.ofList path := by
    obtain ⟨c, r, hcr, hc⟩ := h.opening
    have hown : ({ path := Text.ofList path } : Url).target = Text.ofList path := by
      have hfilled : (Text.ofList path).isEmpty = false := by simp [hcr]
      rw [Url.target, hfilled]
      exact Text.append_empty
    have hdrop : path.dropWhile (· == char '/') = c :: r := by simp [hcr, hc]
    rw [hu.target, hown, Text.toList_ofList, hdrop, hcr, ← Text.toList_inj]
    simp
  have hparts := h.ofParts (u.partsAt ['/']) hroot
  rw [h.ofText]
  simp only [Except.bind]
  rw [Url.join, if_neg (by simp [isAbsolute]), htarget,
    withTarget_of_notMem (h.notMem_of_mem_marks (by decide)) h.isAddressText]
  exact hparts

/-- A plain path has no escapes to be read. -/
theorem IsPlain.unescape {path : List CodePoint} (h : IsPlain path) :
    Text.unescape (Text.ofList path) = Text.ofList path := by
  apply Text.unescape_plain
  · rw [Text.toList_ofList]
    exact h.notMem_of_mem_marks (by decide)
  · intro c hc
    rw [Text.toList_ofList] at hc
    have hbounds := (safe_of_mem_plainChars (h.chars c hc)).2.2.1
    omega

theorem plainPath_of_isPlain (u : Url) {path : Text} (h : IsPlain path.toList) :
    ({ u with path } : Url).plainPath = path := by
  obtain ⟨c, r, hcr, -⟩ := h.opening
  have hread := h.unescape
  rw [Text.ofList_toList] at hread
  have hfilled : path.isEmpty = false := by simp [← Text.toList_inj, hcr]
  show (if path.isEmpty = true then ("/" : Text) else Text.unescape path) = path
  rw [hfilled]
  exact hread

/-- Whether an address has a word for its kind is decided by its scheme. -/
theorem hasKind_of_scheme {u : Url} {c : CodePoint} {r : List CodePoint}
    (hs : u.scheme.toList = c :: r)
    (hmarks : (u.scheme.toList.all fun d => d != '/' && d != ':') = true) : u.hasKind = true := by
  -- the first mark in the text is the colon behind the scheme
  have hkeep := List.all_eq_true.1 hmarks
  have htext : ∃ rest, u.text.toList = u.scheme.toList ++ char ':' :: rest := by
    have hfilled : u.scheme.isEmpty = false := by simp [← Text.toList_inj, hs]
    simp [Url.text, hfilled, Text.toList_append]
  obtain ⟨rest, hrest⟩ := htext
  unfold hasKind
  rw [hrest, List.span_eq_takeWhile_dropWhile, List.takeWhile_append_of_pos hkeep,
    List.dropWhile_append_of_pos hkeep, hs]
  rfl

end ChannelConsole.Network.Url
