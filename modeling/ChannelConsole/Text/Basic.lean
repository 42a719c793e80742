/-!
# Texts

A text is a sequence of code points. Nearly all of them are characters. The others are halves: some
texts come in units of sixteen bits, in which a character outside the basic plane is a pair of
halves, and a sender that cuts such a text in the wrong place leaves a half without its partner. It
has a code and no character. A text with halves can be kept and looked at, but it cannot be sent or
stored.

A text is given by its halves and the strings of characters around them, so that a text of
characters is a string, and texts are equal if their code points are.

## Main definitions

* `CodePoint`: a character or a half, with its code (`CodePoint.toNat`).
* `Text`: the texts, with their code points (`Text.toList`) and the text of a list of them
  (`Text.ofList`).
* `Text.isEncodable`: whether a text has no halves.

## Main statements

* `CodePoint.ofNat_toNat`, `CodePoint.toNat_ofNat`: code points and their codes are the same.
* `Text.ofList_toList`, `Text.toList_ofList`: texts and lists of code points are the same.
* `Text.toList_append`: the code points of two texts that are joined.
* `Text.isEncodable_iff`, `Text.isEncodable_append`: a text without halves is a string, and two such
  texts make one.
-/

namespace ChannelConsole

/-! ### Code points -/

/-- A member of a text: a character, or a half of one that is without its partner. -/
inductive CodePoint where
  | char (c : Char)
  /-- the half that has the given place among all halves -/
  | half (i : Fin 0x800)
deriving DecidableEq

namespace CodePoint

instance : Coe Char CodePoint := ⟨char⟩

instance : Inhabited CodePoint := ⟨char 'A'⟩

/-- The code of a code point. -/
def toNat : CodePoint → Nat
  | char c => c.toNat
  | half i => 0xD800 + i

/-- The code point with the given code, if there is one. -/
def ofNat (n : Nat) : CodePoint :=
  if h : 0xD800 ≤ n ∧ n < 0xE000 then half ⟨n - 0xD800, by omega⟩ else char (Char.ofNat n)

/-- Code points are in the order of their codes. -/
instance : LE CodePoint := ⟨fun a b => a.toNat ≤ b.toNat⟩

instance (a b : CodePoint) : Decidable (a ≤ b) := inferInstanceAs (Decidable (a.toNat ≤ b.toNat))

theorem le_def {a b : CodePoint} : a ≤ b ↔ a.toNat ≤ b.toNat := Iff.rfl

@[simp] theorem char_le_char {c d : Char} : char c ≤ char d ↔ c ≤ d := Iff.rfl

/-- Whether a code point is a half. -/
def isHalf : CodePoint → Bool
  | char _ => false
  | half _ => true

/-- Whether a code point is a letter or a digit of ASCII. -/
def isAlphanum : CodePoint → Bool
  | char c => c.isAlphanum
  | half _ => false

/-- Whether a code point is a letter of ASCII. -/
def isAlpha : CodePoint → Bool
  | char c => c.isAlpha
  | half _ => false

/-- The small form of a capital letter of ASCII. Other code points are left alone. -/
def toLower : CodePoint → CodePoint
  | char c => char c.toLower
  | half i => half i

@[simp] theorem isHalf_char (c : Char) : (char c).isHalf = false := rfl

@[simp] theorem toNat_char (c : Char) : (char c).toNat = c.toNat := rfl

/-- The code of a half lies in a range in which no character has its code. -/
theorem toNat_half_bounds (i : Fin 0x800) :
    0xD800 ≤ (half i).toNat ∧ (half i).toNat < 0xE000 := by
  have hi := i.isLt
  simp only [toNat]
  omega

theorem toNat_char_bounds (c : Char) :
    c.toNat < 0xD800 ∨ 0xE000 ≤ c.toNat ∧ c.toNat < 0x110000 := by
  have hc := c.valid
  simp only [UInt32.isValidChar, Nat.isValidChar] at hc
  simp only [Char.toNat]
  omega

/-- A code point is told by its code. -/
@[simp] theorem ofNat_toNat (p : CodePoint) : ofNat p.toNat = p := by
  cases p with
  | char c =>
    have hc := toNat_char_bounds c
    rw [toNat_char, ofNat, dif_neg (by omega), Char.ofNat_toNat]
  | half i =>
    have hi := toNat_half_bounds i
    rw [ofNat, dif_pos hi]
    simp [toNat]

/-- The code of the code point with a code. -/
theorem toNat_ofNat {n : Nat} (h : n < 0x110000) : (ofNat n).toNat = n := by
  unfold ofNat
  split
  · simp only [toNat]
    omega
  · have hv : n.isValidChar := by
      simp only [Nat.isValidChar]
      omega
    rw [Char.ofNat, dif_pos hv]
    rfl

/-- The halves are the code points with codes in their range. -/
theorem isHalf_ofNat (n : Nat) : (ofNat n).isHalf = decide (0xD800 ≤ n ∧ n < 0xE000) := by
  unfold ofNat
  split <;> rename_i h <;> simp [isHalf, h]

end CodePoint

/-! ### Texts -/

/-- A text: characters, and halves with characters around them. -/
inductive Text where
  | whole (s : String)
  /-- a half with the characters in front of it and the text behind it -/
  | cut (s : String) (i : Fin 0x800) (rest : Text)
deriving DecidableEq

namespace Text

instance : Coe String Text := ⟨whole⟩

instance : Inhabited Text := ⟨whole ""⟩

/-- The code points of a text. -/
def toList : Text → List CodePoint
  | whole s => s.toList.map .char
  | cut s i t => s.toList.map .char ++ .half i :: toList t

/-- The text of code points behind the given characters, the last of which comes first. -/
def ofListAfter (cs : List Char) : List CodePoint → Text
  | [] => whole (String.ofList cs.reverse)
  | .char c :: r => ofListAfter (c :: cs) r
  | .half i :: r => cut (String.ofList cs.reverse) i (ofListAfter [] r)

/-- The text of a list of code points. -/
def ofList (ps : List CodePoint) : Text := ofListAfter [] ps

/-- A text with a string in front of it. -/
def prepend (s : String) : Text → Text
  | whole t => whole (s ++ t)
  | cut t i r => cut (s ++ t) i r

/-- Two texts, one behind the other. -/
def append : Text → Text → Text
  | whole s, t => prepend s t
  | cut s i r, t => cut s i (append r t)

instance : Append Text := ⟨append⟩

/-- Whether a text has no code points. -/
def isEmpty : Text → Bool
  | whole s => s.isEmpty
  | cut .. => false

/-- The text of one code point. -/
def singleton (p : CodePoint) : Text := ofList [p]

/-- Whether a text has no halves. -/
def isEncodable : Text → Bool
  | whole _ => true
  | cut .. => false

/-! ### Texts and lists of code points -/

theorem toList_ofListAfter (cs : List Char) (ps : List CodePoint) :
    (ofListAfter cs ps).toList = cs.reverse.map .char ++ ps := by
  fun_induction ofListAfter cs ps with
  | case1 cs => simp [toList]
  | case2 cs c r ih => simp [ih]
  | case3 cs i r ih => simp [toList, ih]

@[simp] theorem toList_ofList {l : List CodePoint} : (ofList l).toList = l := by
  simp [ofList, toList_ofListAfter]

theorem ofListAfter_map (cs ds : List Char) (ps : List CodePoint) :
    ofListAfter cs (ds.map .char ++ ps) = ofListAfter (ds.reverse ++ cs) ps := by
  induction ds generalizing cs with
  | nil => rfl
  | cons d r ih => simp [ofListAfter, ih]

@[simp] theorem ofList_toList {s : Text} : ofList s.toList = s := by
  induction s with
  | whole s => simpa [ofList, toList, ofListAfter] using ofListAfter_map [] s.toList []
  | cut s i t ih =>
    rw [ofList] at *
    simp [toList, ofListAfter_map, ofListAfter, ih]

@[simp] theorem toList_inj {s t : Text} : s.toList = t.toList ↔ s = t :=
  ⟨fun h => by rw [← ofList_toList (s := s), h, ofList_toList], congrArg toList⟩

@[simp] theorem ofList_inj {ps qs : List CodePoint} : ofList ps = ofList qs ↔ ps = qs :=
  ⟨fun h => by rw [← toList_ofList (l := ps), h, toList_ofList], congrArg ofList⟩

@[simp] theorem toList_whole (s : String) : (whole s).toList = s.toList.map .char := rfl

/-! ### Joining texts -/

theorem toList_prepend (s : String) (t : Text) :
    (prepend s t).toList = s.toList.map .char ++ t.toList := by
  cases t <;> simp [prepend, toList]

@[simp] theorem toList_append (s t : Text) : (s ++ t).toList = s.toList ++ t.toList := by
  change (append s t).toList = _
  fun_induction append s t with
  | case1 s t => rw [toList_prepend, toList]
  | case2 s i r t ih => simp [toList, ih]

theorem ofList_append (ps qs : List CodePoint) : ofList (ps ++ qs) = ofList ps ++ ofList qs :=
  toList_inj.1 (by simp)

theorem append_assoc {s t u : Text} : s ++ t ++ u = s ++ (t ++ u) := toList_inj.1 (by simp)

@[simp] theorem whole_append_whole (s t : String) : whole s ++ whole t = whole (s ++ t) := rfl

@[simp] theorem append_left_inj {s t : Text} (u : Text) : s ++ u = t ++ u ↔ s = t := by
  simp [← toList_inj]

@[simp] theorem toList_empty : (whole "").toList = [] := rfl

@[simp] theorem ofList_nil : ofList [] = whole "" := rfl

@[simp] theorem ofList_eq_empty_iff {ps : List CodePoint} : ofList ps = whole "" ↔ ps = [] := by
  rw [← ofList_nil, ofList_inj]

@[simp] theorem append_empty {s : Text} : s ++ whole "" = s := toList_inj.1 (by simp)

@[simp] theorem empty_append {s : Text} : whole "" ++ s = s := toList_inj.1 (by simp)

@[simp] theorem toList_eq_nil_iff {t : Text} : t.toList = [] ↔ t = whole "" := by
  rw [← toList_empty, toList_inj]

@[simp] theorem append_eq_empty_iff {s t : Text} :
    s ++ t = whole "" ↔ s = whole "" ∧ t = whole "" := by
  simp [← toList_eq_nil_iff]

theorem isEmpty_eq (t : Text) : t.isEmpty = t.toList.isEmpty := by
  cases t with
  | whole s =>
    rw [isEmpty, toList_whole, List.isEmpty_map, Bool.eq_iff_iff, String.isEmpty_iff,
      List.isEmpty_iff, String.toList_eq_nil_iff]
  | cut s i r => simp [isEmpty, toList]

@[simp] theorem isEmpty_iff {t : Text} : t.isEmpty = true ↔ t = whole "" := by
  simp [isEmpty_eq]

@[simp] theorem isEmpty_eq_false_iff {t : Text} : t.isEmpty = false ↔ t ≠ whole "" := by
  simp [isEmpty_eq]

@[simp] theorem toList_singleton (p : CodePoint) : (singleton p).toList = [p] := toList_ofList

/-! ### Halves -/

theorem isEncodable_eq (t : Text) : t.isEncodable = t.toList.all (!·.isHalf) := by
  cases t <;> simp [isEncodable, toList, CodePoint.isHalf]

/-- Two texts without halves make one. -/
theorem isEncodable_append (s t : Text) :
    (s ++ t).isEncodable = (s.isEncodable && t.isEncodable) := by
  simp [isEncodable_eq]

/-- A text without halves is a string. -/
theorem isEncodable_iff {t : Text} : t.isEncodable = true ↔ ∃ s : String, t = s := by
  cases t <;> simp [isEncodable]

end Text

end ChannelConsole
