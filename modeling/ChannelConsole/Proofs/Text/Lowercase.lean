import ChannelConsole.Proofs.Text.Search
import ChannelConsole.Text.Lowercase

/-!
# Lower-casing part of a text

The small form of a capital sigma depends on what stands around it, and that of every other
character does not. So a part of a text need not be found in it any more once both are lower-cased:
a sigma that ends a word in the text need not end one in the part, and the other way round.

A text is settled (`isSettled`) if it has, for each of its capital sigmas, as much around it as is
needed to tell whether it ends a word. A settled text has one small form wherever it stands
(`lowerAmid_eq_of_settlesFrom`). If a text is not settled, a letter put in front of it or behind it
changes one of its sigmas, and then its own small form is no longer found
(`exists_not_occursIn_lower`). So exactly the settled texts are found in whatever they are a part of
(`occursIn_lower_iff`).
-/

namespace ChannelConsole.Text

open CodePoint (char)

/-! ### What stands around a character -/

/-- Whether the first character that is not passed over is a letter with case; none if all are
passed over. -/
def neighbour? (cs : List CodePoint) : Option Bool := (cs.find? (!isCaseIgnorable ·)).map isCased

theorem neighbour?_cons (c : CodePoint) (cs : List CodePoint) :
    neighbour? (c :: cs) = if isCaseIgnorable c then neighbour? cs else some (isCased c) := by
  cases h : isCaseIgnorable c <;> simp [neighbour?, h]

theorem neighbour?_append (cs ds : List CodePoint) :
    neighbour? (cs ++ ds) = (neighbour? cs).or (neighbour? ds) := by
  rw [neighbour?, List.find?_append, Option.map_or]
  rfl

theorem continuesWord_eq (cs : List CodePoint) : continuesWord cs = (neighbour? cs).getD false := by
  induction cs with
  | nil => rfl
  | cons c cs ih =>
    rw [neighbour?_cons, continuesWord, List.dropWhile_cons]
    cases h : isCaseIgnorable c with
    | true => exact ih
    | false => rfl

/-- A sigma is not passed over. -/
theorem isCaseIgnorable_sigma : isCaseIgnorable capitalSigma = false := by decide +kernel

theorem isCased_sigma : isCased capitalSigma = true := by decide +kernel

theorem neighbour?_sigma (cs : List CodePoint) : neighbour? (capitalSigma :: cs) = some true := by
  simp [neighbour?_cons, isCaseIgnorable_sigma, isCased_sigma]

/-- A sigma does not stand among characters that are all passed over. -/
theorem sigma_notMem_of_neighbour? {cs : List CodePoint} (h : neighbour? cs = none) :
    capitalSigma ∉ cs := by
  intro hmem
  obtain ⟨a, b, rfl⟩ := List.append_of_mem hmem
  rw [neighbour?_append, neighbour?_sigma] at h
  cases hfront : neighbour? a <;> simp [hfront] at h

/-! ### Lower-casing amid other characters -/

/-- Whether the last character that is not passed over is a letter, after `cs` have been read. -/
def wordAfter (inWord : Bool) (cs : List CodePoint) : Bool := (neighbour? cs.reverse).getD inWord

/-- Lower-case characters that stand in front of `next`. -/
def lowerAmid (inWord : Bool) (next : List CodePoint) : List CodePoint → List CodePoint
  | [] => []
  | c :: r =>
    (if c = capitalSigma then
        [if inWord && !continuesWord (r ++ next) then finalSigma else smallSigma]
      else lowerChar c) ++
      lowerAmid (if isCaseIgnorable c then inWord else isCased c) next r

theorem wordAfter_cons (inWord : Bool) (c : CodePoint) (cs : List CodePoint) :
    wordAfter inWord (c :: cs) =
      wordAfter (if isCaseIgnorable c then inWord else isCased c) cs := by
  rw [wordAfter, wordAfter, List.reverse_cons, neighbour?_append, neighbour?_cons]
  cases neighbour? cs.reverse <;> cases isCaseIgnorable c <;> rfl

theorem lowerFrom_append (inWord : Bool) (cs next : List CodePoint) :
    lowerFrom inWord (cs ++ next) =
      lowerAmid inWord next cs ++ lowerFrom (wordAfter inWord cs) next := by
  induction cs generalizing inWord with
  | nil => rfl
  | cons c cs ih =>
    rw [List.cons_append, lowerFrom, lowerAmid, ih, wordAfter_cons, List.append_assoc]

theorem lowerFrom_eq_lowerAmid (inWord : Bool) (cs : List CodePoint) :
    lowerFrom inWord cs = lowerAmid inWord [] cs := by
  have h := lowerFrom_append inWord cs []
  rwa [List.append_nil, lowerFrom, List.append_nil] at h

/-- Of what follows, only the first character that is not passed over matters. -/
theorem lowerAmid_congr {next next' : List CodePoint} (h : neighbour? next = neighbour? next')
    (inWord : Bool) (cs : List CodePoint) :
    lowerAmid inWord next cs = lowerAmid inWord next' cs := by
  induction cs generalizing inWord with
  | nil => rfl
  | cons c cs ih =>
    rw [lowerAmid, lowerAmid, ih, continuesWord_eq, continuesWord_eq, neighbour?_append,
      neighbour?_append, h]

/-- Without a sigma, nothing around the characters matters. -/
theorem lowerAmid_of_notMem {cs : List CodePoint} (h : capitalSigma ∉ cs) (inWord : Bool)
    (next : List CodePoint) : lowerAmid inWord next cs = cs.flatMap lowerChar := by
  induction cs generalizing inWord with
  | nil => rfl
  | cons c cs ih =>
    rw [List.mem_cons, not_or] at h
    rw [lowerAmid, if_neg (Ne.symm h.1), ih h.2, List.flatMap_cons]

/-- A sigma after some characters, with some more behind it. -/
theorem lowerFrom_append_sigma (inWord : Bool) (a b : List CodePoint) :
    lowerFrom inWord (a ++ capitalSigma :: b) = lowerAmid inWord (capitalSigma :: b) a ++
      (if wordAfter inWord a && !continuesWord b then finalSigma else smallSigma) ::
        lowerFrom true b := by
  rw [lowerFrom_append, lowerFrom, if_pos rfl, isCaseIgnorable_sigma, isCased_sigma]
  rfl

/-! ### Settled texts -/

/-- Whether what stands on both sides of a sigma tells its small form. It ends no word if there is
no letter in front of it or a letter behind it. -/
def settles (front? behind? : Option Bool) : Bool :=
  front? == some false || behind? == some true || front?.isSome && behind?.isSome

/-- Whether every sigma among characters is settled, where `front?` tells what stands in front of
them. -/
def settlesFrom (front? : Option Bool) : List CodePoint → Bool
  | [] => true
  | c :: r =>
    (c != capitalSigma || settles front? (neighbour? r)) &&
      settlesFrom (if isCaseIgnorable c then front? else some (isCased c)) r

/-- Whether a text has around each of its capital sigmas what is needed to tell whether it ends a
word. -/
def isSettled (t : Text) : Bool := settlesFrom none t.toList

/-- What is in front of a text agrees with what is known of it. -/
def Agrees (front? : Option Bool) (inWord : Bool) : Prop := ∀ b, front? = some b → inWord = b

theorem Agrees.next {front? : Option Bool} {inWord : Bool} (h : Agrees front? inWord)
    (c : CodePoint) :
    Agrees (if isCaseIgnorable c then front? else some (isCased c))
      (if isCaseIgnorable c then inWord else isCased c) := by
  intro b hb
  split at hb
  · rename_i hc
    rw [if_pos hc]
    exact h b hb
  · rename_i hc
    rw [if_neg hc]
    exact Option.some.inj hb

/-- Whether a settled sigma ends a word does not depend on what is not known. -/
theorem ends_eq_of_settles {front? behind? : Option Bool} (h : settles front? behind? = true)
    {inWord inWord' : Bool} (hw : Agrees front? inWord) (hw' : Agrees front? inWord')
    (next next' : Option Bool) :
    (inWord && !((behind?.or next).getD false)) =
      (inWord' && !((behind?.or next').getD false)) := by
  cases front? with
  | none =>
    obtain rfl : behind? = some true := by simpa [settles] using h
    simp
  | some b =>
    rw [hw b rfl, hw' b rfl]
    cases behind? with
    | none =>
      obtain rfl : b = false := by simpa [settles] using h
      rfl
    | some d => rfl

/-- Characters whose sigmas are settled have one small form, whatever stands around them. -/
theorem lowerAmid_eq_of_settlesFrom {cs : List CodePoint} {front? : Option Bool}
    (h : settlesFrom front? cs = true) {inWord inWord' : Bool} (hw : Agrees front? inWord)
    (hw' : Agrees front? inWord') (next next' : List CodePoint) :
    lowerAmid inWord next cs = lowerAmid inWord' next' cs := by
  induction cs generalizing front? inWord inWord' with
  | nil => rfl
  | cons c cs ih =>
    rw [settlesFrom, Bool.and_eq_true] at h
    rw [lowerAmid, lowerAmid, ih h.2 (hw.next c) (hw'.next c)]
    congr 1
    split
    · rename_i hc
      have hsettles : settles front? (neighbour? cs) = true := by simpa [hc] using h.1
      rw [continuesWord_eq, continuesWord_eq, neighbour?_append, neighbour?_append,
        ends_eq_of_settles hsettles hw hw']
    · rfl

/-- The small form of a settled text is a part of that of every text around it. -/
theorem infix_lowerChars {cs : List CodePoint} (h : settlesFrom none cs = true)
    (p q : List CodePoint) :
    lowerChars cs <:+: lowerChars (p ++ cs ++ q) := by
  have hnone : ∀ w, Agrees none w := fun _ _ hb => by cases hb
  refine ⟨lowerAmid false (cs ++ q) p, lowerFrom (wordAfter (wordAfter false p) cs) q, ?_⟩
  rw [lowerChars, lowerChars, lowerFrom_eq_lowerAmid,
    lowerAmid_eq_of_settlesFrom h (hnone _) (hnone (wordAfter false p)) [] q, List.append_assoc p,
    lowerFrom_append, lowerFrom_append, List.append_assoc]

/-! ### Texts that are not settled -/

/-- Where not every sigma is settled, there is one that is not. -/
theorem exists_of_not_settlesFrom {cs : List CodePoint} {front? : Option Bool}
    (h : settlesFrom front? cs = false) :
    ∃ a b, cs = a ++ capitalSigma :: b ∧
      settles ((neighbour? a.reverse).or front?) (neighbour? b) = false := by
  induction cs generalizing front? with
  | nil => cases h
  | cons c cs ih =>
    rw [settlesFrom, Bool.and_eq_false_iff] at h
    rcases h with h | h
    · simp only [Bool.or_eq_false_iff, bne_eq_false_iff_eq] at h
      exact ⟨[], cs, by rw [h.1, List.nil_append], h.2⟩
    · obtain ⟨a, b, rfl, hab⟩ := ih h
      refine ⟨c :: a, b, rfl, ?_⟩
      rw [List.reverse_cons, neighbour?_append, neighbour?_cons]
      cases hfront : neighbour? a.reverse with
      | none =>
        rw [hfront] at hab
        cases hc : isCaseIgnorable c <;> simpa [hc, neighbour?] using hab
      | some b' => simpa [hfront] using hab

/-- A part with one of its characters replaced is not found, if what is added elsewhere does not
make up for it. -/
theorem not_infix_of_replaced {x y : CodePoint} (hxy : x ≠ y) (front back l r : List CodePoint)
    (hfront : x ∉ front) (hback : x ∉ back) :
    ¬ l ++ x :: r <:+: front ++ (l ++ y :: r) ++ back := by
  intro h
  have hcount := h.sublist.count_le x
  simp only [List.count_append, List.count_cons_self, List.count_cons_of_ne hxy.symm,
    List.count_eq_zero_of_not_mem hfront, List.count_eq_zero_of_not_mem hback] at hcount
  omega

theorem neighbour?_letter : neighbour? ['a'] = some true := by decide +kernel

theorem lowerAmid_letter (inWord : Bool) (next : List CodePoint) :
    lowerAmid inWord next ['a'] = (['a'] : List CodePoint) := by
  rw [lowerAmid_of_notMem (by decide)]
  decide +kernel

/-- Behind a letter, a sigma ends a word that did not end one before. -/
theorem not_infix_behind_letter {a b : List CodePoint} (hfront : neighbour? a.reverse = none)
    (hbehind : continuesWord b = false) :
    ¬ lowerChars (a ++ capitalSigma :: b) <:+:
      lowerChars ([char 'a'] ++ (a ++ capitalSigma :: b)) := by
  have hsigma : capitalSigma ∉ a := by simpa using sigma_notMem_of_neighbour? hfront
  have hword : wordAfter false ['a'] = true := by decide +kernel
  rw [lowerChars, lowerChars, lowerFrom_append false ['a'], lowerAmid_letter, hword,
    lowerFrom_append_sigma, lowerFrom_append_sigma, lowerAmid_of_notMem hsigma,
    lowerAmid_of_notMem hsigma, wordAfter, wordAfter, hfront, hbehind]
  have h := not_infix_of_replaced (show smallSigma ≠ finalSigma by decide) ['a'] []
    (a.flatMap lowerChar) (lowerFrom true b) (by decide) (by simp)
  simpa using h

/-- In front of a letter, a sigma does not end a word that it ended before. -/
theorem not_infix_before_letter {a b : List CodePoint} (hfront : neighbour? a.reverse = some true)
    (hbehind : neighbour? b = none) :
    ¬ lowerChars (a ++ capitalSigma :: b) <:+:
      lowerChars (a ++ capitalSigma :: b ++ [char 'a']) := by
  have hsigma := sigma_notMem_of_neighbour? hbehind
  have hsame : neighbour? (capitalSigma :: (b ++ [char 'a'])) =
      neighbour? (capitalSigma :: b) := by
    rw [neighbour?_sigma, neighbour?_sigma]
  have hcontinues : continuesWord (b ++ [char 'a']) = true := by
    rw [continuesWord_eq, neighbour?_append, hbehind, neighbour?_letter]
    rfl
  have hends : continuesWord b = false := by rw [continuesWord_eq, hbehind]; rfl
  rw [lowerChars, lowerChars, List.append_assoc, List.cons_append, lowerFrom_append_sigma,
    lowerFrom_append_sigma, lowerAmid_congr hsame, wordAfter, hfront, hcontinues, hends,
    lowerFrom_append true b, lowerFrom_eq_lowerAmid true b, lowerFrom_eq_lowerAmid _ ['a'],
    lowerAmid_letter, lowerAmid_of_notMem hsigma, lowerAmid_of_notMem hsigma]
  have h := not_infix_of_replaced (show finalSigma ≠ smallSigma by decide) [] ['a']
    (lowerAmid false (capitalSigma :: b) a) (b.flatMap lowerChar) (by simp) (by decide)
  simpa using h

/-- A text that is not settled is a part of one in which it is not found any more. -/
theorem exists_not_infix_lowerChars {cs : List CodePoint} (h : settlesFrom none cs = false) :
    ∃ ds, cs <:+: ds ∧ ¬ lowerChars cs <:+: lowerChars ds := by
  obtain ⟨a, b, rfl, hab⟩ := exists_of_not_settlesFrom h
  rw [Option.or_none] at hab
  cases hfront : neighbour? a.reverse with
  | none =>
    have hbehind : continuesWord b = false := by
      rw [continuesWord_eq]
      cases hb : neighbour? b with
      | none => rfl
      | some d => simpa [settles, hfront, hb] using hab
    exact ⟨_, (List.suffix_append [.char 'a'] _).isInfix, not_infix_behind_letter hfront hbehind⟩
  | some w =>
    have hw : w = true ∧ neighbour? b = none := by
      cases w <;> cases hb : neighbour? b <;> simp [settles, hfront, hb] at hab ⊢
    obtain ⟨rfl, hbehind⟩ := hw
    exact ⟨_, (List.prefix_append _ [.char 'a']).isInfix, not_infix_before_letter hfront hbehind⟩

/-! ### Texts -/

/-- A settled text is found in every text of which it is a part, once both are lower-cased. -/
theorem occursIn_lower {t s : Text} (h : isSettled t = true) (hts : occursIn t s = true) :
    occursIn (lower t) (lower s) = true := by
  obtain ⟨p, q, hs⟩ := occursIn_iff.1 hts
  rw [occursIn_iff, lower, lower, Text.toList_ofList, Text.toList_ofList, ← hs]
  exact infix_lowerChars h p q

/-- A text that is not settled is a part of a text in which it is not found once both are
lower-cased. -/
theorem exists_not_occursIn_lower {t : Text} (h : isSettled t = false) :
    ∃ s, occursIn t s = true ∧ occursIn (lower t) (lower s) = false := by
  obtain ⟨ds, hinfix, hnot⟩ := exists_not_infix_lowerChars h
  refine ⟨Text.ofList ds, ?_, ?_⟩
  · rwa [occursIn_iff, Text.toList_ofList]
  · rw [← Bool.not_eq_true, occursIn_iff, lower, lower, Text.toList_ofList, Text.toList_ofList,
      Text.toList_ofList]
    exact hnot

/-- The settled texts are those that are found in whatever they are a part of, once both are
lower-cased. -/
theorem occursIn_lower_iff {t : Text} :
    (∀ s, occursIn t s = true → occursIn (lower t) (lower s) = true) ↔ isSettled t = true := by
  refine ⟨fun h => ?_, fun h s => occursIn_lower h⟩
  cases hsettled : isSettled t with
  | true => rfl
  | false =>
    obtain ⟨s, hts, hlower⟩ := exists_not_occursIn_lower hsettled
    rw [h s hts] at hlower
    cases hlower

/-- A capital sigma alone, at the beginning or at the end of a word is not settled, and inside a
word it is. -/
example : ((["Σ", "Σ-7B", "ΛΟΓΟΣ", "ΟΓΟΣ-7B"] : List Text).map isSettled =
      [false, false, false, true]) ∧
    isSettled "ΣΟΦΙΑ" = true := by decide +kernel

end ChannelConsole.Text
