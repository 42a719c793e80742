import ChannelConsole.Proofs.Credential.Entries

/-!
# The text behind the entries

While a pool shows entries, the text of its single field is still there. Nobody keeps it up to date:
an entry that is changed or added leaves it as it was, so that it soon is the text of other keys
than those shown. One event reads that text, the one that allows the list view again.

It never reads an old one. Entries are shown only where the list view is allowed, so the view has to
be forbidden first, and by then the text is that of the entries. `list_of_reachable` says more: with
any other text behind its entries, a pool that shows entries goes through the same, whatever happens
to it. The two pools give the same answers and look the same after each event (`watch_eq`), because
an event either leaves both texts where they are, or brings both pools to the same state
(`step_withText`).
-/

namespace ChannelConsole.Credential.Pool

/-! ### What is seen of a pool -/

/-- What is seen of a pool: what a user interface needs to know, the text that would be stored, and
the key that is used when one is needed. -/
structure Sight where
  snapshot : Json
  stored : Text
  firstKey : Text

/-- What is seen of a pool at a moment. -/
def sight (p : Pool) : Sight :=
  { snapshot := p.snapshot, stored := p.finalize.2, firstKey := p.firstKey }

/-- What is seen of a pool while events happen: for each of them, what it gives back and the pool
after it. -/
def watch (p : Pool) : List Event → List (Response × Sight)
  | [] => []
  | e :: events => ((p.step e).2, (p.step e).1.sight) :: (p.step e).1.watch events

/-- Whether a pool comes about from a new one. -/
def Reachable (p : Pool) : Prop :=
  ∃ channelType text events, p = (ofText channelType text).run events

/-- Two pools are the same but for the text behind the entries that they show. -/
def SameButText (p q : Pool) : Prop := p = q ∨ p.mode = .list ∧ ∃ text, q = { p with text }

theorem Reachable.listAllowed {p : Pool} (hp : p.Reachable) : p.ListAllowed := by
  obtain ⟨channelType, text, events, rfl⟩ := hp
  exact listAllowed_run (listAllowed_of_single rfl) events

theorem Reachable.entries_ne_nil {p : Pool} (hp : p.Reachable) (hm : p.mode = .list) :
    p.entries ≠ [] := by
  obtain ⟨channelType, text, events, rfl⟩ := hp
  have hstart : (ofText channelType text).Hides [] := rfl
  have hrun := hides_run hstart.hidden events
  rwa [Hides, hm] at hrun

theorem sameButText_of_list {p : Pool} (hm : p.mode = .list) (text : Text) :
    p.SameButText { p with text } :=
  .inr ⟨hm, text, rfl⟩

/-- The text behind the entries is not seen. -/
theorem SameButText.sight_eq {p q : Pool} (h : p.SameButText q) : q.sight = p.sight := by
  obtain rfl | ⟨hm, text, rfl⟩ := h
  · rfl
  · cases p
    cases hm
    rfl

/-! ### What events do to the text -/

/-- Two results are the same but for the text behind the entries. -/
def SameResult {α : Type} (r r' : Pool × α) : Prop := r'.2 = r.2 ∧ r.1.SameButText r'.1

theorem SameResult.of_eq {α : Type} {r r' : Pool × α} (h : r' = r) : SameResult r r' := by
  subst h
  exact ⟨rfl, .inl rfl⟩

theorem SameResult.map {α β : Type} {r r' : Pool × α} (h : SameResult r r') (answer : α → β) :
    SameResult (r.map id answer) (r'.map id answer) :=
  ⟨congrArg answer h.1, h.2⟩

section

variable {p : Pool} (hm : p.mode = .list) (text : Text)

include hm

theorem addEntry_withText (value : Text) :
    SameResult (p.addEntry value) (({ p with text } : Pool).addEntry value) :=
  ⟨rfl, sameButText_of_list (p := { p with entries := p.entries ++ [value] }) hm text⟩

theorem updateEntry_withText (index : Int) (value : Text) :
    SameResult (p.updateEntry index value)
      (({ p with text } : Pool).updateEntry index value) := by
  have hplace : ({ p with text } : Pool).place? index = p.place? index := rfl
  unfold updateEntry
  rw [hplace]
  cases p.place? index with
  | none => exact ⟨rfl, sameButText_of_list hm text⟩
  | some i =>
    exact ⟨rfl, sameButText_of_list (p := { p with entries := p.entries.set i value }) hm text⟩

/-- Entries that are taken over bring their own text. -/
theorem pasteEntry_withText (index : Int) (value : Text) :
    SameResult (p.pasteEntry index value) (({ p with text } : Pool).pasteEntry index value) := by
  have hplace : ({ p with text } : Pool).place? index = p.place? index := rfl
  unfold pasteEntry
  rw [hplace]
  cases p.place? index with
  | none => exact ⟨rfl, sameButText_of_list hm text⟩
  | some i =>
    simp only
    split
    · exact .of_eq rfl
    · exact ⟨rfl, sameButText_of_list hm text⟩

theorem removeEntry_withText (index : Int) :
    SameResult (p.removeEntry index) (({ p with text } : Pool).removeEntry index) := by
  have hplace : ({ p with text } : Pool).place? index = p.place? index := rfl
  unfold removeEntry
  rw [hplace]
  cases p.place? index with
  | none => exact ⟨rfl, sameButText_of_list hm text⟩
  | some i => exact .of_eq rfl

theorem press_withText (index : Int) (key : Key) :
    SameResult (p.press index key) (({ p with text } : Pool).press index key) := by
  have hplace : ({ p with text } : Pool).place? index = p.place? index := rfl
  have hsame : SameResult (p, Outcome.ignored) (({ p with text } : Pool), Outcome.ignored) :=
    ⟨rfl, sameButText_of_list hm text⟩
  unfold press
  rw [hplace]
  cases hi : p.place? index with
  | none => exact hsame
  | some i =>
    cases key with
    | enter => exact addEntry_withText hm text ""
    | comma =>
      simp only
      split
      · exact ⟨rfl, hsame.2⟩
      · exact addEntry_withText hm text ""
    | backspace =>
      -- what is left of the entries is taken over, with its own text
      have hremove : ({ p with text } : Pool).removeEntry index = p.removeEntry index := by
        rw [removeEntry, removeEntry, hplace, hi]
        rfl
      simp only
      split
      · rw [hremove]
        exact .of_eq rfl
      · exact hsame
    | other => exact hsame

/-- The view is allowed where entries are shown. Forbidding it makes one text of the entries, and
allowing it once more changes nothing. -/
theorem setMultiViewDisabled_withText (hp : p.ListAllowed) (disabled : Bool) :
    SameResult (p.setMultiViewDisabled disabled)
      (({ p with text } : Pool).setMultiViewDisabled disabled) := by
  have hallowed : p.multiViewDisabled = false := by
    have henabled := hp hm
    rw [listViewEnabled, Bool.and_eq_true] at henabled
    simpa using henabled.2
  have hsame := sameButText_of_list hm text
  cases p
  cases hm
  cases hallowed
  cases disabled with
  | true => exact .of_eq rfl
  | false => exact ⟨rfl, hsame⟩

/-- The text that the view is chosen for is that of the entries. -/
theorem changeType_withText (channelType : Int) :
    ({ p with text } : Pool).changeType channelType = p.changeType channelType := by
  have hraw : ({ p with text } : Pool).raw = p.raw := by
    unfold raw
    simp only [hm]
  unfold changeType
  rw [hraw]
  simp only [hm]
  rfl

theorem toggleVisibility_withText :
    p.toggleVisibility.SameButText ({ p with text } : Pool).toggleVisibility :=
  sameButText_of_list (p := p.toggleVisibility) hm text

/-- No event reads the text behind the entries: each leaves it where it is, or puts another one in
its place. -/
theorem step_withText (hp : p.ListAllowed) (e : Event) :
    SameResult (p.step e) (({ p with text } : Pool).step e) := by
  have hsame := sameButText_of_list hm text
  cases e with
  | toggleVisibility => exact ⟨rfl, toggleVisibility_withText hm text⟩
  | toggleMultiView => exact (setMultiViewDisabled_withText hm text hp _).map _
  | setMultiViewDisabled disabled => exact (setMultiViewDisabled_withText hm text hp disabled).map _
  | addEntry value => exact (addEntry_withText hm text value).map _
  | removeEntry index => exact (removeEntry_withText hm text index).map _
  | updateEntry index value => exact (updateEntry_withText hm text index value).map _
  | pasteEntry index value => exact (pasteEntry_withText hm text index value).map _
  | press index key => exact (press_withText hm text index key).map _
  | paste value =>
    -- where entries are shown, nothing is pasted into the single field
    cases p
    cases hm
    exact ⟨rfl, hsame⟩
  | changeType channelType =>
    exact (SameResult.of_eq (changeType_withText hm text channelType)).map _
  | input value | finalize =>
    cases p
    cases hm
    exact .of_eq rfl
  | clear | hydrate raw? channelType | reset channelType => exact .of_eq rfl

end

/-! ### Main statement -/

/-- Pools that are the same but for the text behind their entries go through the same. -/
theorem watch_eq {p q : Pool} (hp : p.ListAllowed) (h : p.SameButText q) (events : List Event) :
    q.watch events = p.watch events := by
  induction events generalizing p q with
  | nil => rfl
  | cons e events ih =>
    have hstep : SameResult (p.step e) (q.step e) := by
      obtain rfl | ⟨hm, text, rfl⟩ := h
      · exact .of_eq rfl
      · exact step_withText hm text hp e
    obtain ⟨hresponse, hpool⟩ := hstep
    rw [watch, watch, hresponse, hpool.sight_eq, ih (listAllowed_step hp e) hpool]

/-- If a pool that events can lead to shows entries, then the type of the channel allows the list
view, the user has not turned it off, and there is an entry. What text the single field is left with
does not matter: with any other text, the pool looks the same, and so it does after each of any
events, which give back the same. -/
theorem list_of_reachable {p : Pool} (hp : p.Reachable) (hm : p.mode = .list) :
    (ChannelType.profile p.channelType).multiKeyView = true ∧ p.multiViewDisabled = false ∧
      p.entries ≠ [] ∧
      ∀ q : Pool, q = { p with text := q.text } →
        q.sight = p.sight ∧ ∀ events, q.watch events = p.watch events := by
  have hallowed := hp.listAllowed
  have henabled := hallowed hm
  rw [listViewEnabled, Bool.and_eq_true, Bool.not_eq_true'] at henabled
  refine ⟨henabled.1, henabled.2, hp.entries_ne_nil hm, fun q hq => ?_⟩
  have hsame : p.SameButText q := .inr ⟨hm, q.text, hq⟩
  exact ⟨hsame.sight_eq, watch_eq hallowed hsame⟩

/-- The same two keys are shown whether they were typed at once, or the second was typed over
another one, whose text is still there. -/
theorem list_of_reachable_typed_over :
    let p := (ofText ChannelType.default "").run [.input "sk-a,sk-b"]
    let q := (ofText ChannelType.default "").run [.input "sk-a,sk-c", .updateEntry 1 "sk-b"]
    p.text = "sk-a,sk-b" ∧ q.text = "sk-a,sk-c" ∧ q.sight = p.sight ∧
      ∀ events, q.watch events = p.watch events := by
  intro p q
  have hp : p.Reachable := ⟨_, _, _, rfl⟩
  have hq : q = { p with text := q.text } := by decide
  obtain ⟨-, -, -, hsame⟩ := list_of_reachable hp (by decide)
  exact ⟨by decide, by decide, hsame q hq⟩

end ChannelConsole.Credential.Pool
