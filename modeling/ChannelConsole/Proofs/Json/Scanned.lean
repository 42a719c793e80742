import ChannelConsole.Json.Reader
import ChannelConsole.Proofs.Json.Exact

/-!
# What is read from a text

A reader always goes on to what is left of its text, so all that it reads stands somewhere in there.
A property of documents that arrays and objects have if all that is in them has it is therefore one
of every document that is read, as soon as it is one of the texts and leaves that stand there
(`PassedOn.of_readChars`).

This is how a reading that is not lenient gives documents whose leaves are strict ones: their
numbers are finite, and what is written as an integer has no exponent (`isStrict_of_read`).
-/

namespace ChannelConsole.Json

open CodePoint (char)

variable {reading : Reading} {cs k : List CodePoint}

/-! ### What is left of a text -/

theorem suffix_skipSpace (cs : List CodePoint) : skipSpace cs <:+ cs :=
  List.dropWhile_suffix isSpace

/-- What comes behind blanks and one more character. -/
theorem suffix_of_skipSpace {c : CodePoint} (h : skipSpace cs = c :: k) : k <:+ cs := by
  have hspace := suffix_skipSpace cs
  rw [h] at hspace
  exact (List.suffix_cons c k).trans hspace

theorem suffix_span (p : CodePoint → Bool) (cs : List CodePoint) : (cs.span p).2 <:+ cs := by
  rw [List.span_eq_takeWhile_dropWhile]
  exact List.dropWhile_suffix p

theorem suffix_scanWhole (cs : List CodePoint) : (scanWhole cs).2 <:+ cs := by
  unfold scanWhole
  split
  · exact List.suffix_cons _ _
  · exact suffix_span isDigit _

theorem suffix_scanFraction (cs : List CodePoint) : (scanFraction cs).2 <:+ cs := by
  unfold scanFraction
  split
  · split
    · exact (suffix_span isDigit _).trans (List.suffix_cons _ _)
    · exact List.suffix_rfl
  · exact List.suffix_rfl

theorem suffix_splitSign (cs : List CodePoint) : (Text.splitSign cs).2 <:+ cs := by
  unfold Text.splitSign
  split
  · exact List.suffix_cons _ _
  · exact List.suffix_cons _ _
  · exact List.suffix_rfl

theorem suffix_scanExponent (cs : List CodePoint) : (scanExponent cs).2 <:+ cs := by
  fun_cases scanExponent cs with
  | case3 c r h negative digits hsplit ds rest hne hspan =>
    have hdigits := suffix_splitSign r
    have hrest := suffix_span isDigit digits
    rw [hsplit] at hdigits
    rw [hspan] at hrest
    exact (hrest.trans hdigits).trans (List.suffix_cons c r)
  | _ => exact List.suffix_rfl

theorem suffix_scanNumber {n : Numeral} (h : scanNumber reading cs = .ok (n, k)) : k <:+ cs := by
  unfold scanNumber at h
  split at h
  rename_i negative digits hsign
  have hdigits : digits <:+ cs := by
    split at hsign <;> obtain ⟨-, rfl⟩ := Prod.mk.inj hsign
    · exact List.suffix_cons _ _
    · exact List.suffix_rfl
  have hwhole := suffix_scanWhole digits
  split at h
  · cases h
  · rename_i ds r hne hds
    rw [hds] at hwhole
    have hfraction := suffix_scanFraction r
    have hexponent := suffix_scanExponent (scanFraction r).2
    simp only at h
    split at h
    · cases h
    · obtain ⟨-, rfl⟩ := Prod.mk.inj (Except.ok.inj h)
      exact ((hexponent.trans hfraction).trans hwhole).trans hdigits

theorem suffix_scanWord {d : Document} (h : scanWord reading cs = some (d, k)) : k <:+ cs := by
  obtain ⟨w, -, heq⟩ := Option.map_eq_some_iff.1 h
  obtain ⟨-, rfl⟩ := Prod.mk.inj heq
  exact List.drop_suffix _ _

theorem suffix_scanString {halves : Bool} {start acc s : List CodePoint} {skip : Nat}
    (h : scanString halves start skip acc cs = .ok (s, k)) : k <:+ cs := by
  fun_induction scanString halves start skip acc cs
  -- the reader ends behind the closing quote, or goes on behind one character
  case case3 =>
    obtain ⟨-, rfl⟩ := Prod.mk.inj (Except.ok.inj h)
    exact List.suffix_cons _ _
  case case2 ih | case6 ih | case7 ih | case9 ih | case11 ih | case14 ih =>
    exact (ih h).trans (List.suffix_cons _ _)
  -- and otherwise it complains
  all_goals contradiction

/-- What was scanned and made into something else. -/
theorem exists_of_map_eq_ok {α β : Type} {scanned : Scanned α} {make : α → β} {b : β}
    (h : (scanned.map fun p => (make p.1, p.2)) = .ok (b, k)) :
    ∃ a, scanned = .ok (a, k) ∧ b = make a := by
  cases scanned with
  | error e => cases h
  | ok p =>
    obtain ⟨rfl, rfl⟩ := Prod.mk.inj (Except.ok.inj h)
    exact ⟨p.1, rfl, rfl⟩

theorem suffix_scanText {s : Text} (h : scanText reading cs = .ok (s, k)) : k <:+ cs := by
  obtain ⟨chars, hchars, -⟩ := exists_of_map_eq_ok h
  exact suffix_scanString hchars

/-- A key is a text that stands in the text, and what is left stands there behind it. -/
theorem exists_of_scanKey {key : Text} (h : scanKey reading cs = .ok (key, k)) :
    ∃ ds es, ds <:+ cs ∧ scanText reading ds = .ok (key, es) ∧ k <:+ cs := by
  unfold scanKey at h
  split at h
  · rename_i r hquote
    have hr := suffix_of_skipSpace hquote
    split at h
    · rename_i key' rest htext
      have hrest := (suffix_scanText htext).trans hr
      split at h
      · rename_i hcolon
        obtain ⟨rfl, rfl⟩ := Prod.mk.inj (Except.ok.inj h)
        exact ⟨r, rest, hr, htext, (suffix_of_skipSpace hcolon).trans hrest⟩
      · cases h
    · cases h
  · cases h

/-! ### Values -/

/-- A property of texts and a property of documents such that whatever is read from `input` has
them: the texts and leaves that stand there do, and containers do if all that is in them does. -/
structure PassedOn (reading : Reading) (input : List CodePoint) (T : Text → Prop)
    (P : Document → Prop) : Prop where
  text : ∀ {cs s k}, cs <:+ input → scanText reading cs = .ok (s, k) → T s
  str : ∀ {s}, T s → P (.str s)
  word : ∀ {cs d k}, scanWord reading cs = some (d, k) → P d
  number : ∀ {cs n k}, scanNumber reading cs = .ok (n, k) → P (.number n)
  arr : ∀ {xs}, (∀ x ∈ xs, P x) → P (.arr xs)
  obj : ∀ {fs}, (∀ p ∈ fs, T p.1 ∧ P p.2) → P (.obj fs)

/-- With so many steps, all three readers give documents with a property, if what was read before
has it, and stop somewhere in `input`. They call one another with one step less each time. -/
structure Scans (reading : Reading) (input : List CodePoint) (T : Text → Prop)
    (P : Document → Prop) (fuel : Nat) : Prop where
  values : ∀ {depth cs d k}, cs <:+ input → scanValue reading fuel depth cs = .ok (d, k) →
    P d ∧ k <:+ input
  items : ∀ {depth acc cs d k}, cs <:+ input → (∀ x ∈ acc, P x) →
    scanItems reading fuel depth acc cs = .ok (d, k) → P d ∧ k <:+ input
  fields : ∀ {depth acc cs d k}, cs <:+ input → (∀ p ∈ acc, T p.1 ∧ P p.2) →
    scanFields reading fuel depth acc cs = .ok (d, k) → P d ∧ k <:+ input

namespace PassedOn

variable {input : List CodePoint} {T : Text → Prop} {P : Document → Prop} {fuel depth : Nat}
  {d : Document}

theorem scans_zero : Scans reading input T P 0 where
  values _ h := by simp [scanValue] at h
  items _ _ h := by simp [scanItems] at h
  fields _ _ h := by simp [scanFields] at h

theorem scanValue_succ (hp : PassedOn reading input T P) (ih : Scans reading input T P fuel)
    (hcs : cs <:+ input) (h : scanValue reading (fuel + 1) depth cs = .ok (d, k)) :
    P d ∧ k <:+ input := by
  unfold scanValue at h
  split at h
  · rename_i r hquote
    have hr := (suffix_of_skipSpace hquote).trans hcs
    obtain ⟨s, htext, rfl⟩ := exists_of_map_eq_ok h
    exact ⟨hp.str (hp.text hr htext), (suffix_scanText htext).trans hr⟩
  · rename_i r hbracket
    have hr := (suffix_of_skipSpace hbracket).trans hcs
    split at h
    · cases h
    · rename_i hclose
      obtain ⟨rfl, rfl⟩ := Prod.mk.inj (Except.ok.inj h)
      exact ⟨hp.arr fun x hx => absurd hx List.not_mem_nil, (suffix_of_skipSpace hclose).trans hr⟩
    · exact ih.items ((suffix_skipSpace r).trans hr) (fun x hx => absurd hx List.not_mem_nil) h
  · rename_i r hbrace
    have hr := (suffix_of_skipSpace hbrace).trans hcs
    split at h
    · cases h
    · rename_i hclose
      obtain ⟨rfl, rfl⟩ := Prod.mk.inj (Except.ok.inj h)
      exact ⟨hp.obj fun p hp => absurd hp List.not_mem_nil, (suffix_of_skipSpace hclose).trans hr⟩
    · exact ih.fields ((suffix_skipSpace r).trans hr) (fun p hp => absurd hp List.not_mem_nil) h
  · have hr := (suffix_skipSpace cs).trans hcs
    split at h
    · rename_i found hword
      obtain rfl := Except.ok.inj h
      exact ⟨hp.word hword, (suffix_scanWord hword).trans hr⟩
    · obtain ⟨n, hnumber, rfl⟩ := exists_of_map_eq_ok h
      exact ⟨hp.number hnumber, (suffix_scanNumber hnumber).trans hr⟩

theorem scanItems_succ (hp : PassedOn reading input T P) (ih : Scans reading input T P fuel)
    {acc : List Document} (hcs : cs <:+ input) (hacc : ∀ x ∈ acc, P x)
    (h : scanItems reading (fuel + 1) depth acc cs = .ok (d, k)) : P d ∧ k <:+ input := by
  unfold scanItems at h
  split at h
  · cases h
  · rename_i v r hvalue
    obtain ⟨hv, hr⟩ := ih.values hcs hvalue
    have hmore : ∀ x ∈ v :: acc, P x := List.forall_mem_cons.2 ⟨hv, hacc⟩
    split at h
    · rename_i hcomma
      exact ih.items ((suffix_of_skipSpace hcomma).trans hr) hmore h
    · rename_i hclose
      obtain ⟨rfl, rfl⟩ := Prod.mk.inj (Except.ok.inj h)
      exact ⟨hp.arr fun x hx => hmore x (List.mem_reverse.1 hx),
        (suffix_of_skipSpace hclose).trans hr⟩
    · cases h

theorem scanFields_succ (hp : PassedOn reading input T P) (ih : Scans reading input T P fuel)
    {acc : List (Text × Document)} (hcs : cs <:+ input) (hacc : ∀ p ∈ acc, T p.1 ∧ P p.2)
    (h : scanFields reading (fuel + 1) depth acc cs = .ok (d, k)) : P d ∧ k <:+ input := by
  unfold scanFields at h
  split at h
  · cases h
  · rename_i key behind hkey
    obtain ⟨ds, es, hds, htext, hbehind⟩ := exists_of_scanKey hkey
    split at h
    · cases h
    · rename_i v r hvalue
      obtain ⟨hv, hr⟩ := ih.values (hbehind.trans hcs) hvalue
      have hmore : ∀ p ∈ (key, v) :: acc, T p.1 ∧ P p.2 :=
        List.forall_mem_cons.2 ⟨⟨hp.text (hds.trans hcs) htext, hv⟩, hacc⟩
      split at h
      · rename_i hcomma
        exact ih.fields ((suffix_of_skipSpace hcomma).trans hr) hmore h
      · rename_i hclose
        obtain ⟨rfl, rfl⟩ := Prod.mk.inj (Except.ok.inj h)
        exact ⟨hp.obj fun p hp => hmore p (List.mem_reverse.1 hp),
          (suffix_of_skipSpace hclose).trans hr⟩
      · cases h

theorem scans (hp : PassedOn reading input T P) (fuel : Nat) : Scans reading input T P fuel := by
  induction fuel with
  | zero => exact scans_zero
  | succ fuel ih => exact ⟨hp.scanValue_succ ih, hp.scanItems_succ ih, hp.scanFields_succ ih⟩

/-- What is read from a text has every property that is passed on there. -/
theorem of_readChars (hp : PassedOn reading input T P)
    (h : Document.readChars reading input = .ok d) : P d := by
  unfold Document.readChars at h
  split at h
  · rename_i hvalue
    split at h
    · obtain rfl := Except.ok.inj h
      exact ((hp.scans _).values List.suffix_rfl hvalue).1
    · cases h
  · cases h

end PassedOn

/-! ### Strict leaves -/

/-- Whether all leaves of a document that count are strict ones. -/
def Document.IsStrict (d : Document) : Prop := ∀ x ∈ d.leaves, x.IsStrictLeaf

theorem isStrict_arr {xs : List Document} (h : ∀ x ∈ xs, x.IsStrict) :
    (Document.arr xs).IsStrict := by
  intro y hy
  obtain ⟨x, hx, hy⟩ := Document.mem_leaves_arr.1 hy
  exact h x hx y hy

theorem isStrict_obj {fs : List (Text × Document)} (h : ∀ p ∈ fs, p.2.IsStrict) :
    (Document.obj fs).IsStrict := by
  intro y hy
  obtain ⟨p, hp, hy⟩ := Document.mem_leaves_obj.1 hy
  exact h p (mem_of_mem_mergeKeys hp) y hy

theorem isStrict_of_isStrictLeaf {d : Document} (hleaf : d.isLeaf = true) (h : d.IsStrictLeaf) :
    d.IsStrict := by
  intro x hx
  rw [Document.leaves_of_isLeaf hleaf] at hx
  rwa [List.mem_singleton.1 hx]

theorem isStrictLeaf_scanNumber {n : Numeral} (h : scanNumber reading cs = .ok (n, k)) :
    (Document.number n).IsStrictLeaf := by
  unfold scanNumber at h
  split at h
  split at h
  · cases h
  · simp only at h
    split at h
    · cases h
    · obtain ⟨rfl, -⟩ := Prod.mk.inj (Except.ok.inj h)
      intro hwhole
      simp only [Bool.and_eq_true, List.isEmpty_iff, Option.isNone_iff_eq_none] at hwhole
      simp [hwhole]

/-- The words of a reading that is not lenient. -/
theorem eq_of_scanWord (hr : reading.lenient = false) {d : Document}
    (h : scanWord reading cs = some (d, k)) : d = .null ∨ d = .bool true ∨ d = .bool false := by
  obtain ⟨w, hfind, heq⟩ := Option.map_eq_some_iff.1 h
  obtain ⟨rfl, -⟩ := Prod.mk.inj heq
  have hmem := List.mem_of_find?_eq_some hfind
  rw [Reading.words, hr, if_neg Bool.false_ne_true, words] at hmem
  simp only [List.mem_cons, List.not_mem_nil, or_false] at hmem
  rcases hmem with rfl | rfl | rfl
  · exact .inl rfl
  · exact .inr (.inl rfl)
  · exact .inr (.inr rfl)

theorem passedOn_isStrict (hr : reading.lenient = false) (input : List CodePoint) :
    PassedOn reading input (fun _ => True) Document.IsStrict where
  text _ _ := trivial
  str _ := isStrict_of_isStrictLeaf rfl trivial
  word h := by
    rcases eq_of_scanWord hr h with rfl | rfl | rfl <;> exact isStrict_of_isStrictLeaf rfl trivial
  number h := isStrict_of_isStrictLeaf rfl (isStrictLeaf_scanNumber h)
  arr h := isStrict_arr h
  obj h := isStrict_obj fun p hp => (h p hp).2

/-- What a reading that is not lenient gives is strict. -/
theorem isStrict_of_read (hr : reading.lenient = false) {s : Text} {d : Document}
    (h : Document.read reading s = .ok d) : d.IsStrict :=
  (passedOn_isStrict hr s.toList).of_readChars h

end ChannelConsole.Json
