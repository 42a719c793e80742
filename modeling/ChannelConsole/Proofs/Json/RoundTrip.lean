import ChannelConsole.Proofs.Json.Exact
import ChannelConsole.Proofs.Json.Keys
import ChannelConsole.Proofs.Json.Words

/-!
# Written values are read back

`read?_text_eq_asRead`: the text of a value, compact or indented, is read back, provided that its
integers fit into machine words and the reading takes values nested as deeply. What is read is the
value itself, but for numbers that are not finite, which are written as null, and for keys that an
object has twice, of which the last one counts (`Json.asRead`). So a value is read as itself if its
numbers are integers and no object has a key twice (`read?_text`). The document that is read says
what the text of the value is meant to say (`read_text`).

The reader counts its steps; `Json.steps` is the count it needs for a value, and the text of the
value is at least as long as that (`steps_add_length_le`).
-/

namespace ChannelConsole.Json

open CodePoint (char)

/-! ### What is read back -/

mutual

/-- What a value is read as once it was written: null for each number that is not finite, and the
fields of an object one after the other. -/
def asRead : Json → Json
  | .nonFinite _ => .null
  | .arr xs => .arr (itemsAsRead xs)
  | .obj fs => .obj (collectFields (fieldsAsRead fs))
  | v => v

/-- What the items of an array are read as. -/
def itemsAsRead : List Json → List Json
  | [] => []
  | x :: r => x.asRead :: itemsAsRead r

/-- What the fields of an object are read as. -/
def fieldsAsRead : List (Text × Json) → List (Text × Json)
  | [] => []
  | (k, x) :: r => (k, x.asRead) :: fieldsAsRead r

end

mutual

/-- A value without numbers that are not finite is read as itself if no object has a key twice. -/
theorem asRead_eq_self : ∀ {v : Json}, v.hasOnlyWords = true → v.hasDistinctKeys = true →
    v.asRead = v
  | .null, _, _ => rfl
  | .bool b, _, _ => rfl
  | .int n, _, _ => rfl
  | .float x, _, _ => rfl
  | .nonFinite x, hw, _ => by simp [hasOnlyWords, everyLeaf, isWordLeaf] at hw
  | .str s, _, _ => rfl
  | .arr xs, hw, hd => congrArg Json.arr (itemsAsRead_eq_self hw hd)
  | .obj fs, hw, hd => by
    rw [hasDistinctKeys, Bool.and_eq_true, decide_eq_true_eq] at hd
    rw [asRead, fieldsAsRead_eq_self hw hd.2, collectFields_eq_self hd.1]

/-- The same for the items of an array. -/
theorem itemsAsRead_eq_self : ∀ {xs : List Json}, everyLeafOfItems isWordLeaf xs = true →
    itemsHaveDistinctKeys xs = true → itemsAsRead xs = xs
  | [], _, _ => rfl
  | x :: xs, hw, hd => by
    rw [everyLeafOfItems, Bool.and_eq_true] at hw
    rw [itemsHaveDistinctKeys, Bool.and_eq_true] at hd
    rw [itemsAsRead, asRead_eq_self hw.1 hd.1, itemsAsRead_eq_self hw.2 hd.2]

/-- The same for the fields of an object. -/
theorem fieldsAsRead_eq_self : ∀ {fs : List (Text × Json)},
    everyLeafOfFields isWordLeaf fs = true → fieldsHaveDistinctKeys fs = true →
      fieldsAsRead fs = fs
  | [], _, _ => rfl
  | (k, x) :: fs, hw, hd => by
    rw [everyLeafOfFields, Bool.and_eq_true, Bool.and_eq_true] at hw
    rw [fieldsHaveDistinctKeys, Bool.and_eq_true] at hd
    rw [fieldsAsRead, asRead_eq_self hw.1.2 hd.1, fieldsAsRead_eq_self hw.2 hd.2]

end

/-! ### Steps -/

mutual

/-- How many steps deep a reader has to go for a value. -/
def steps : Json → Nat
  | .arr xs => stepsOfItems xs + 1
  | .obj fs => stepsOfFields fs + 1
  | _ => 1

/-- How many steps deep a reader has to go for the items of an array. -/
def stepsOfItems : List Json → Nat
  | [] => 0
  | x :: r => max x.steps (stepsOfItems r) + 1

/-- How many steps deep a reader has to go for the fields of an object. -/
def stepsOfFields : List (Text × Json) → Nat
  | [] => 0
  | (_, x) :: r => max x.steps (stepsOfFields r) + 1

end

/-! ### Blanks between the parts -/

theorem skipSpace_gap (form : Form) (level : Nat) (cs : List CodePoint) :
    skipSpace (form.gap level ++ cs) = skipSpace cs := by
  cases form with
  | compact => rfl
  | indented =>
    have hblank : ∀ c ∈ List.replicate (2 * level) (char ' '), isSpace c = true := by
      intro c hc
      rw [List.eq_of_mem_replicate hc]
      rfl
    have hnewline : isSpace '\n' = true := by decide
    simp [Form.gap, skipSpace, hnewline, List.dropWhile_append_of_pos hblank]

theorem skipSpace_cons {c : CodePoint} (h : isSpace c = false) (cs : List CodePoint) :
    skipSpace (c :: cs) = c :: cs := by
  simp [skipSpace, h]

theorem skipSpace_colon (form : Form) (cs : List CodePoint) :
    ∃ r, skipSpace (form.colon ++ cs) = char ':' :: r ∧ skipSpace r = skipSpace cs := by
  cases form with
  | compact => exact ⟨cs, rfl, rfl⟩
  | indented => exact ⟨' ' :: cs, rfl, rfl⟩

/-- No number goes on where an item or a field ends. -/
theorem endsNumber_gap {c : CodePoint} (h : isDigit c = false ∧ c ≠ '.' ∧ c ≠ 'e' ∧ c ≠ 'E')
    (form : Form) (level : Nat) (k : List CodePoint) : EndsNumber (form.gap level ++ c :: k) := by
  cases form with
  | compact => exact endsNumber_cons h k
  | indented => exact endsNumber_cons (by decide) _

theorem endsNumber_writeItems (form : Form) (level level' : Nat) (xs : List Json)
    (k : List CodePoint) :
    EndsNumber (writeItems form level xs (form.gap level' ++ char ']' :: k)) := by
  cases xs with
  | nil => exact endsNumber_gap (by decide) form level' k
  | cons x xs => exact endsNumber_cons (by decide) _

theorem endsNumber_writeFields (form : Form) (level level' : Nat) (fs : List (Text × Json))
    (k : List CodePoint) :
    EndsNumber (writeFields form level fs (form.gap level' ++ char '\x7d' :: k)) := by
  cases fs with
  | nil => exact endsNumber_gap (by decide) form level' k
  | cons f fs => exact endsNumber_cons (by decide) _

theorem skipSpace_of_beginsNumber {cs : List CodePoint} (h : BeginsNumber cs) :
    skipSpace cs = cs := by
  obtain ⟨c, r, rfl, hc⟩ := h.head
  have hspace : isSpace c = false := by
    rw [Bool.eq_false_iff]
    intro hblank
    simp only [isSpace, Bool.or_eq_true, beq_iff_eq] at hblank
    rcases hblank with ((rfl | rfl) | rfl) | rfl <;>
      exact absurd hc (by decide)
  exact skipSpace_cons hspace r

/-- The text of a value does not begin with a blank. -/
theorem skipSpace_write (form : Form) (level : Nat) (v : Json) (k : List CodePoint) :
    skipSpace (write form level v k) = write form level v k := by
  cases v with
  | null => rfl
  | bool b => cases b <;> rfl
  | int n => exact skipSpace_of_beginsNumber (beginsNumber_intChars n k)
  | float x => exact skipSpace_of_beginsNumber (beginsNumber_chars floatLayout x k)
  | nonFinite x => rfl
  | str s => rfl
  | arr xs => cases xs <;> rfl
  | obj fs => cases fs <;> rfl

/-! ### Leaves -/

section

variable {reading : Reading} {fuel depth : Nat} {cs k : List CodePoint}

/-- What begins like no text, array or object is read as a word or a number. -/
theorem scanValue_of_head {c : CodePoint} {r : List CodePoint} (hcs : skipSpace cs = c :: r)
    (hc : c ≠ '"' ∧ c ≠ '[' ∧ c ≠ '\x7b') :
    scanValue reading (fuel + 1) depth cs =
      match scanWord reading (c :: r) with
      | some found => .ok found
      | none => (scanNumber reading (c :: r)).map fun (n, r) => (.number n, r) := by
  obtain ⟨hquote, hbracket, hbrace⟩ := hc
  unfold scanValue
  rw [hcs]
  split
  · rename_i h
    exact absurd (List.cons.inj h).1 hquote
  · rename_i h
    exact absurd (List.cons.inj h).1 hbracket
  · rename_i h
    exact absurd (List.cons.inj h).1 hbrace
  · rfl

/-- A word is read as what it stands for. -/
theorem scanValue_of_scanWord {c : CodePoint} {r : List CodePoint}
    {found : Document × List CodePoint}
    (hcs : skipSpace cs = c :: r) (hc : c ≠ '"' ∧ c ≠ '[' ∧ c ≠ '\x7b')
    (h : scanWord reading (c :: r) = some found) :
    scanValue reading (fuel + 1) depth cs = .ok found := by
  rw [scanValue_of_head hcs hc, h]

/-- What begins like a number is read as one. -/
theorem scanValue_of_beginsNumber {n : Numeral} (h : BeginsNumber (skipSpace cs))
    (hn : scanNumber reading (skipSpace cs) = .ok (n, k)) :
    scanValue reading (fuel + 1) depth cs = .ok (.number n, k) := by
  obtain ⟨c, r, hcs, hc⟩ := h.head
  have hhead : c ≠ '"' ∧ c ≠ '[' ∧ c ≠ '\x7b' := by
    refine ⟨?_, ?_, ?_⟩
    all_goals
      rintro rfl
      exact absurd hc (by decide)
  have hword := h.scanWord reading
  rw [hcs] at hword hn
  rw [scanValue_of_head hcs hhead, hword, hn]
  rfl

theorem scanValue_str {s : Text} (hcs : skipSpace cs = writeString s k) :
    scanValue reading (fuel + 1) depth cs = .ok (.str s, k) := by
  unfold scanValue
  rw [hcs, writeString]
  simp only [scanText_writeString]
  rfl

theorem scanKey_writeString {key : Text} {r : List CodePoint}
    (hcs : skipSpace cs = writeString key r) (hr : skipSpace r = char ':' :: k) :
    scanKey reading cs = .ok (key, k) := by
  unfold scanKey
  rw [hcs, writeString]
  simp only [scanText_writeString, hr]

theorem value_ofInt (n : Int) : (Numeral.ofInt n).value = n := by
  rw [Numeral.value_of_whole rfl]
  exact congrArg Int.cast (signed_natAbs n)

theorem toJson?_ofInt {n : Int} (hn : fitsWord n = true) :
    (Numeral.ofInt n).toJson? reading = some (.int n) := by
  simp [Numeral.toJson?, Numeral.ofInt, signed_natAbs, hn]

end

/-! ### Values -/

/-- What is left behind an item of an array is another item or the end. -/
theorem skipSpace_writeItems (form : Form) (level level' : Nat) (xs : List Json)
    (k : List CodePoint) :
    skipSpace (writeItems form level xs (form.gap level' ++ char ']' :: k)) =
      match xs with
      | [] => ']' :: k
      | x :: xs => ',' :: (form.gap level ++ write form level x
          (writeItems form level xs (form.gap level' ++ char ']' :: k))) := by
  cases xs with
  | nil => exact (skipSpace_gap form level' _).trans (skipSpace_cons (by decide) k)
  | cons x xs => exact skipSpace_cons (by decide) _

/-- What is left behind a field of an object is another field or the end. -/
theorem skipSpace_writeFields (form : Form) (level level' : Nat) (fs : List (Text × Json))
    (k : List CodePoint) :
    skipSpace (writeFields form level fs (form.gap level' ++ char '\x7d' :: k)) =
      match fs with
      | [] => '\x7d' :: k
      | (key, x) :: fs => ',' :: (form.gap level ++ writeString key (form.colon ++
          write form level x
            (writeFields form level fs (form.gap level' ++ char '\x7d' :: k)))) := by
  cases fs with
  | nil => exact (skipSpace_gap form level' _).trans (skipSpace_cons (by decide) k)
  | cons f fs => exact skipSpace_cons (by decide) _

/-- An array is read item by item, if values may be nested at all. -/
theorem scanValue_arr {reading : Reading} {fuel depth : Nat} {cs r : List CodePoint}
    (hcs : skipSpace cs = char '[' :: r) :
    scanValue reading (fuel + 1) (depth + 1) cs =
      match skipSpace r with
      | ']' :: r => .ok (.arr [], r)
      | r => scanItems reading fuel depth [] r := by
  unfold scanValue
  rw [hcs]
  simp only
  split <;> simp_all

/-- An object is read field by field, if values may be nested at all. -/
theorem scanValue_obj {reading : Reading} {fuel depth : Nat} {cs r : List CodePoint}
    (hcs : skipSpace cs = char '\x7b' :: r) :
    scanValue reading (fuel + 1) (depth + 1) cs =
      match skipSpace r with
      | '\x7d' :: r => .ok (.obj [], r)
      | r => scanFields reading fuel depth [] r := by
  unfold scanValue
  rw [hcs]
  simp only
  split <;> simp_all

theorem ne_bracket_of_beginsNumber {cs : List CodePoint} (h : BeginsNumber cs)
    (r : List CodePoint) :
    cs ≠ char ']' :: r := by
  obtain ⟨c, s, rfl, hc⟩ := h.head
  rintro he
  obtain ⟨rfl, -⟩ := List.cons.inj he
  exact absurd hc (by decide)

/-- No value begins with a closing bracket. -/
theorem write_ne_bracket (form : Form) (level : Nat) (v : Json) (k r : List CodePoint) :
    write form level v k ≠ char ']' :: r := by
  cases v with
  | null => simp [write]
  | bool b => cases b <;> simp [write]
  | int n => exact ne_bracket_of_beginsNumber (beginsNumber_intChars n k) r
  | float x => exact ne_bracket_of_beginsNumber (beginsNumber_chars floatLayout x k) r
  | nonFinite x => simp [write]
  | str s => simp [write, writeString]
  | arr xs => cases xs <;> simp [write]
  | obj fs => cases fs <;> simp [write]

/-! The three readers call one another with one step less each time, so what they make of written
texts is proved of all three at once, by induction on the number of steps they have. -/

/-- With so many steps, every value that needs no more is read back, up to what follows it. -/
def ReadsValues (reading : Reading) (form : Form) (fuel : Nat) : Prop :=
  ∀ (v : Json) (level depth : Nat) (cs k : List CodePoint), v.everyLeaf isFittingLeaf = true →
    v.depth ≤ depth → v.steps ≤ fuel → EndsNumber k → skipSpace cs = write form level v k →
    ∃ d, scanValue reading fuel depth cs = .ok (d, k) ∧ d.toJson? reading = some v.asRead ∧
      d.exact = v.exact

/-- With so many steps, all items of an array that need no more are read back. -/
def ReadsItems (reading : Reading) (form : Form) (fuel : Nat) : Prop :=
  ∀ (x : Json) (xs : List Json) (level level' depth : Nat) (acc : List Document)
    (cs k : List CodePoint), everyLeafOfItems isFittingLeaf (x :: xs) = true →
    depthOfItems (x :: xs) ≤ depth → stepsOfItems (x :: xs) ≤ fuel →
    skipSpace cs =
      write form level x (writeItems form level xs (form.gap level' ++ char ']' :: k)) →
    ∃ ds, scanItems reading fuel depth acc cs = .ok (.arr (acc.reverse ++ ds), k) ∧
      Document.itemsToJson? reading ds = some (itemsAsRead (x :: xs)) ∧
      Document.itemsExactBy Document.exactLeaf ds = itemsExact (x :: xs)

/-- With so many steps, all fields of an object that need no more are read back. -/
def ReadsFields (reading : Reading) (form : Form) (fuel : Nat) : Prop :=
  ∀ (key : Text) (x : Json) (fs : List (Text × Json)) (level level' depth : Nat)
    (acc : List (Text × Document)) (cs k : List CodePoint),
    everyLeafOfFields isFittingLeaf ((key, x) :: fs) = true →
    depthOfFields ((key, x) :: fs) ≤ depth → stepsOfFields ((key, x) :: fs) ≤ fuel →
    skipSpace cs = writeString key (form.colon ++
      write form level x
        (writeFields form level fs (form.gap level' ++ char '\x7d' :: k))) →
    ∃ ds, scanFields reading fuel depth acc cs = .ok (.obj (acc.reverse ++ ds), k) ∧
      Document.fieldsToJson? reading ds = some (fieldsAsRead ((key, x) :: fs)) ∧
      Document.fieldsExactBy Document.exactLeaf ds = fieldsExact ((key, x) :: fs)

section

variable {reading : Reading} {form : Form} {fuel : Nat}

theorem readsValues_zero : ReadsValues reading form 0 := by
  intro v level depth cs k _ _ hfuel
  cases v <;> simp [steps] at hfuel

theorem readsItems_zero : ReadsItems reading form 0 := by
  intro x xs level level' depth acc cs k _ _ hfuel
  simp [stepsOfItems] at hfuel

theorem readsFields_zero : ReadsFields reading form 0 := by
  intro key x fs level level' depth acc cs k _ _ hfuel
  simp [stepsOfFields] at hfuel

theorem readsValues_succ (hr : reading.TakesWords) (hitems : ReadsItems reading form fuel)
    (hfields : ReadsFields reading form fuel) : ReadsValues reading form (fuel + 1) := by
  intro v level depth cs k hfit hdepth hfuel hk hcs
  cases v with
  | null =>
    exact ⟨.null, scanValue_of_scanWord hcs (by decide) (scanWord_null reading k), rfl, rfl⟩
  | bool b =>
    cases b with
    | true =>
      exact ⟨.bool true, scanValue_of_scanWord hcs (by decide) (scanWord_true reading k), rfl, rfl⟩
    | false =>
      exact ⟨.bool false, scanValue_of_scanWord hcs (by decide) (scanWord_false reading k), rfl,
        rfl⟩
  | int n =>
    have hn : fitsWord n = true := hfit
    have hbegins := beginsNumber_intChars n k
    have hscan := scanNumber_intChars hr hn hk
    rw [write] at hcs
    rw [← hcs] at hbegins hscan
    exact ⟨.number (.ofInt n), scanValue_of_beginsNumber hbegins hscan, toJson?_ofInt hn,
      congrArg Exact.number (value_ofInt n)⟩
  | float x =>
    have hbegins := beginsNumber_chars floatLayout x k
    obtain ⟨n, hscan, hjson, hvalue⟩ := scanNumber_chars floatLayout x reading hk
    rw [write] at hcs
    rw [← hcs] at hbegins hscan
    exact ⟨.number n, scanValue_of_beginsNumber hbegins hscan, hjson, congrArg Exact.number hvalue⟩
  | nonFinite x =>
    exact ⟨.null, scanValue_of_scanWord hcs (by decide) (scanWord_null reading k), rfl, rfl⟩
  | str s => exact ⟨.str s, scanValue_str hcs, rfl, rfl⟩
  | arr xs =>
    rw [Json.depth] at hdepth
    obtain ⟨depth, rfl⟩ : ∃ n, depth = n + 1 := ⟨depth - 1, by omega⟩
    cases xs with
    | nil =>
      rw [write] at hcs
      refine ⟨.arr [], ?_, rfl, rfl⟩
      rw [scanValue_arr hcs, skipSpace_cons (by decide)]
      rfl
    | cons x xs =>
      rw [write] at hcs
      have hskip := skipSpace_write form (level + 1) x
        (writeItems form (level + 1) xs (form.gap level ++ char ']' :: k))
      obtain ⟨ds, hscan, hjson, hexact⟩ := hitems x xs (level + 1) level depth [] _ k hfit
        (by omega) (Nat.le_of_succ_le_succ hfuel) hskip
      refine ⟨.arr ds, ?_, by rw [Document.toJson?, hjson]; rfl, congrArg Exact.arr hexact⟩
      rw [scanValue_arr hcs, skipSpace_gap, hskip]
      -- an array that goes on with a value does not end here
      split
      · rename_i h'
        exact absurd h' (write_ne_bracket form _ x _ _)
      · exact hscan
  | obj fs =>
    rw [Json.depth] at hdepth
    obtain ⟨depth, rfl⟩ : ∃ n, depth = n + 1 := ⟨depth - 1, by omega⟩
    cases fs with
    | nil =>
      rw [write] at hcs
      refine ⟨.obj [], ?_, rfl, rfl⟩
      rw [scanValue_obj hcs, skipSpace_cons (by decide)]
      rfl
    | cons f fs =>
      obtain ⟨key, x⟩ := f
      rw [write] at hcs
      obtain ⟨ds, hscan, hjson, hexact⟩ := hfields key x fs (level + 1) level depth [] _ k hfit
        (by omega) (Nat.le_of_succ_le_succ hfuel) (skipSpace_cons (by decide) _)
      refine ⟨.obj ds, ?_, by rw [Document.toJson?, hjson]; rfl,
        congrArg (fun es => Exact.obj (mergeKeys es)) hexact⟩
      rw [scanValue_obj hcs, skipSpace_gap, writeString, skipSpace_cons (by decide)]
      exact hscan

theorem readsItems_succ (hvalues : ReadsValues reading form fuel)
    (hitems : ReadsItems reading form fuel) : ReadsItems reading form (fuel + 1) := by
  intro x xs level level' depth acc cs k hfit hdepth hfuel hcs
  simp only [everyLeafOfItems, Bool.and_eq_true] at hfit
  rw [depthOfItems] at hdepth
  rw [stepsOfItems] at hfuel
  -- the first item is read as a value, and what is behind its comma as the items of the rest
  obtain ⟨d, hscan, hjson, hexact⟩ := hvalues x level depth cs _ hfit.1 (by omega) (by omega)
    (endsNumber_writeItems form level level' xs k) hcs
  unfold scanItems
  rw [hscan]
  simp only [skipSpace_writeItems]
  cases xs with
  | nil => exact ⟨[d], by simp, by simp [Document.itemsToJson?, hjson, itemsAsRead],
      congrArg ([·]) hexact⟩
  | cons y ys =>
    have hskip := skipSpace_write form level y
      (writeItems form level ys (form.gap level' ++ char ']' :: k))
    obtain ⟨ds, hrest, hjsons, hexacts⟩ := hitems y ys level level' depth (d :: acc) _ k hfit.2
      (by omega) (by omega) ((skipSpace_gap form level _).trans hskip)
    refine ⟨d :: ds, by simpa using hrest, ?_, congrArg₂ List.cons hexact hexacts⟩
    rw [Document.itemsToJson?, hjson, hjsons]
    rfl

theorem readsFields_succ (hvalues : ReadsValues reading form fuel)
    (hfields : ReadsFields reading form fuel) : ReadsFields reading form (fuel + 1) := by
  intro key x fs level level' depth acc cs k hfit hdepth hfuel hcs
  simp only [everyLeafOfFields, Bool.and_eq_true] at hfit
  rw [depthOfFields] at hdepth
  rw [stepsOfFields] at hfuel
  -- the value stands behind the colon, and the rest of the fields behind the comma
  obtain ⟨r, hcolon, hr⟩ := skipSpace_colon form
    (write form level x (writeFields form level fs (form.gap level' ++ char '\x7d' :: k)))
  rw [skipSpace_write form level x] at hr
  obtain ⟨d, hscan, hjson, hexact⟩ := hvalues x level depth r _ hfit.1.2 (by omega) (by omega)
    (endsNumber_writeFields form level level' fs k) hr
  unfold scanFields
  rw [scanKey_writeString hcs hcolon]
  simp only
  rw [hscan]
  simp only [skipSpace_writeFields]
  cases fs with
  | nil => exact ⟨[(key, d)], by simp, by simp [Document.fieldsToJson?, hjson, fieldsAsRead],
      congrArg (fun e => [(key, e)]) hexact⟩
  | cons f fs =>
    obtain ⟨key', y⟩ := f
    obtain ⟨ds, hrest, hjsons, hexacts⟩ := hfields key' y fs level level' depth
      ((key, d) :: acc) _ k hfit.2 (by omega) (by omega) ((skipSpace_gap form level _).trans
        (skipSpace_cons (by decide) _))
    refine ⟨(key, d) :: ds, ?_, ?_, congrArg₂ (fun e es => (key, e) :: es) hexact hexacts⟩
    · rw [List.reverse_cons, List.append_assoc, List.singleton_append] at hrest
      exact hrest
    · rw [Document.fieldsToJson?, hjson, hjsons]
      rfl

end

/-- What is written is read back by all three readers, whatever number of steps they have. -/
theorem reads_written {reading : Reading} (hr : reading.TakesWords) (form : Form) (fuel : Nat) :
    ReadsValues reading form fuel ∧ ReadsItems reading form fuel ∧
      ReadsFields reading form fuel := by
  induction fuel with
  | zero => exact ⟨readsValues_zero, readsItems_zero, readsFields_zero⟩
  | succ fuel ih =>
    obtain ⟨hvalues, hitems, hfields⟩ := ih
    exact ⟨readsValues_succ hr hitems hfields, readsItems_succ hvalues hitems,
      readsFields_succ hvalues hfields⟩

/-! ### Enough steps -/

theorem length_pos_of_beginsNumber {cs : List CodePoint} (h : BeginsNumber (cs ++ [])) :
    0 < cs.length := by
  obtain ⟨c, r, hcs, -⟩ := h.head
  rw [List.append_nil] at hcs
  rw [hcs]
  exact Nat.zero_lt_succ _

mutual

/-- The text of a value is at least as long as the number of steps a reader needs for it. -/
theorem steps_add_length_le (form : Form) : ∀ (v : Json) (level : Nat) (k : List CodePoint),
    v.steps + k.length ≤ (write form level v k).length
  | .null, level, k => by simp [steps, write]; omega
  | .bool true, level, k => by simp [steps, write]; omega
  | .bool false, level, k => by simp [steps, write]; omega
  | .int n, level, k => by
    have hpos := length_pos_of_beginsNumber (beginsNumber_intChars n [])
    simp only [steps, write, List.length_append]
    omega
  | .float x, level, k => by
    have hpos := length_pos_of_beginsNumber (beginsNumber_chars floatLayout x [])
    simp only [steps, write, List.length_append]
    omega
  | .nonFinite x, level, k => by simp [steps, write]; omega
  | .str s, level, k => by
    have h := length_add_le_writeChars s.toList k
    simp only [steps, write, writeString, List.length_cons]
    omega
  | .arr [], level, k => by simp [steps, stepsOfItems, write]; omega
  | .arr (x :: xs), level, k => by
    have hx := steps_add_length_le form x (level + 1)
      (writeItems form (level + 1) xs (form.gap level ++ char ']' :: k))
    have hxs := stepsOfItems_add_length_le form xs (level + 1)
      (form.gap level ++ char ']' :: k)
    simp only [List.length_append, List.length_cons] at hxs
    simp only [steps, stepsOfItems, write, List.length_append, List.length_cons]
    omega
  | .obj [], level, k => by simp [steps, stepsOfFields, write]; omega
  | .obj ((key, x) :: fs), level, k => by
    have hx := steps_add_length_le form x (level + 1)
      (writeFields form (level + 1) fs (form.gap level ++ char '\x7d' :: k))
    have hfs := stepsOfFields_add_length_le form fs (level + 1)
      (form.gap level ++ char '\x7d' :: k)
    have hkey := length_add_le_writeChars key.toList (form.colon ++ write form (level + 1) x
      (writeFields form (level + 1) fs (form.gap level ++ char '\x7d' :: k)))
    simp only [List.length_append, List.length_cons] at hfs hkey
    simp only [steps, stepsOfFields, write, writeString, List.length_append, List.length_cons]
    omega

/-- The same for the items of an array after the first one. -/
theorem stepsOfItems_add_length_le (form : Form) : ∀ (xs : List Json) (level : Nat)
    (k : List CodePoint), stepsOfItems xs + k.length ≤ (writeItems form level xs k).length
  | [], level, k => by simp [stepsOfItems, writeItems]
  | x :: xs, level, k => by
    have hx := steps_add_length_le form x level (writeItems form level xs k)
    have hxs := stepsOfItems_add_length_le form xs level k
    simp only [stepsOfItems, writeItems, List.length_append, List.length_cons]
    omega

/-- The same for the fields of an object after the first one. -/
theorem stepsOfFields_add_length_le (form : Form) : ∀ (fs : List (Text × Json)) (level : Nat)
    (k : List CodePoint), stepsOfFields fs + k.length ≤ (writeFields form level fs k).length
  | [], level, k => by simp [stepsOfFields, writeFields]
  | (key, x) :: fs, level, k => by
    have hx := steps_add_length_le form x level (writeFields form level fs k)
    have hfs := stepsOfFields_add_length_le form fs level k
    have hkey := length_add_le_writeChars key.toList (form.colon ++
      write form level x (writeFields form level fs k))
    simp only [List.length_append] at hkey
    simp only [stepsOfFields, writeFields, writeString, List.length_append, List.length_cons]
    omega

end

/-! ### Main statements -/

section

variable {reading : Reading} (hr : reading.TakesWords) (form : Form) {v : Json}

include hr

/-- The text of a value whose integers fit into machine words is read exactly. -/
theorem read_text (hfit : v.integersFit = true) (hdepth : v.depth ≤ reading.maxDepth) :
    ∃ d, Document.read reading (v.text form) = .ok d ∧ d.toJson? reading = some v.asRead ∧
      d.exact = v.exact := by
  -- the reader is given two steps for each character, and fewer are enough
  have hfuel := steps_add_length_le form v 0 []
  rw [List.length_nil, Nat.add_zero] at hfuel
  obtain ⟨d, hscan, hjson, hexact⟩ := (reads_written hr form
    (2 * (write form 0 v []).length + 2)).1 v 0 reading.maxDepth (write form 0 v []) [] hfit hdepth
    (by omega) endsNumber_nil (skipSpace_write form 0 v [])
  refine ⟨d, ?_, hjson, hexact⟩
  rw [Document.read, text, Text.toList_ofList, Document.readChars, hscan]
  rfl

/-- The text of a value whose integers fit into machine words is read back. -/
theorem read?_text_eq_asRead (hfit : v.integersFit = true) (hdepth : v.depth ≤ reading.maxDepth) :
    read? reading (v.text form) = some v.asRead := by
  obtain ⟨d, hread, hjson, -⟩ := read_text hr form hfit hdepth
  rw [read?, read, hread]
  simp only [hjson]
  rfl

/-- The text of a value is read as that value if its numbers are integers of machine words and no
object has a key twice. -/
theorem read?_text (hw : v.hasOnlyWords = true) (hd : v.hasDistinctKeys = true)
    (hdepth : v.depth ≤ reading.maxDepth) : read? reading (v.text form) = some v := by
  rw [read?_text_eq_asRead hr form (integersFit_of_hasOnlyWords hw) hdepth, asRead_eq_self hw hd]

end

end ChannelConsole.Json
