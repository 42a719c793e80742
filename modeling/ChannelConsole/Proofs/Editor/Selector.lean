import ChannelConsole.Proofs.Editor.Fetch
import ChannelConsole.Proofs.Editor.Fields
import ChannelConsole.Proofs.Editor.Resaving
import ChannelConsole.Proofs.Model.Bulk
import Mathlib.Data.List.Induction

/-!
# The selector while a provider is asked

Opening the selector asks the provider which models to put up for selection, and the form is not
held back until the reply comes. `Form.amid` begins an operation, makes any moves in between, and
goes on with the reply.

`Move.selectorAfter` says once what a move does to the selector, and `Form.selector?_after` that
this is what happens. So a selector that is open has come about by events of its own
(`Form.Reachable.selector`), and one that was open is closed after a run exactly if the last move
that opens or closes it closes it (`Form.selector?_afterAll_eq_none_iff`).

* `Form.amid_openSelector`: opening the selector is answered with a notice, unless models are found
  and the selector is closed by then. In that case the operation fails.
* `Form.amid_openSelector_models`: models that are found are put up for selection in the selector
  that is open by then, and can be selected there. Nothing asks whether they are for the type and
  the address that the channel has by then.
-/

namespace ChannelConsole.Editor

open Channel Backend Steps

/-! ### What becomes of the selector -/

namespace Move

/-- The selector that a form has after a move. -/
def selectorAfter (f : Form) : Move → Option Model.Selector
  | .begin .openSelector => some (.ofLists f.selected f.available)
  | .begin (.pick event) => f.selector?.map fun s => if s.admits event then s.step event else s
  | .reply .selection (.models names) => f.selector?.map (·.setAvailable names)
  | .begin .applySelector | .begin .cancelSelector | .begin .reset | .begin .close => none
  | .reply .save (.envelope e) => if e.success then none else f.selector?
  | _ => f.selector?

/-- Whether a move closes the selector: it is applied or given up, the form is emptied, or the
editor ends, by itself or after the channel was saved. -/
def ClosesSelector : Move → Prop
  | .begin .applySelector | .begin .cancelSelector | .begin .reset | .begin .close => True
  | .reply .save (.envelope e) => e.success = true
  | _ => False

end Move

/-- Whether of several moves that open or close the selector, the last one closes it. -/
def ClosedBy (moves : List Move) : Prop :=
  ∃ before m rest, moves = before ++ m :: rest ∧ m.ClosesSelector ∧
    ¬ Move.begin .openSelector ∈ rest

namespace Form

variable {f g : Form}

theorem selector?_changeType (channelType : Int) :
    (f.changeType channelType).1.selector? = f.selector? := by
  unfold changeType
  simp only
  split <;> rfl

theorem selector?_setField (name : Text) (v : Json) :
    (f.setField name v).1.selector? = f.selector? := by
  have hsets := f.sets_setField name v
  generalize f.setField name v = r at hsets ⊢
  cases hsets with
  | type => exact selector?_changeType _
  | refused | models | address | plain => rfl

theorem selector?_fillTemplate (name : Text) :
    (f.fillTemplate name).1.selector? = f.selector? := by
  have hfills := f.fills_fillTemplate name
  generalize f.fillTemplate name = r at hfills ⊢
  cases hfills with
  | refused | filled => rfl

theorem selector?_addCustom (text : Text) :
    (f.addCustom text).1.selector? = f.selector? := by
  unfold addCustom
  split
  · rfl
  split
  · rfl
  · simp only
    split <;> rfl

theorem selector?_startFetch : f.startFetch.1.selector? = f.selector? := by
  unfold startFetch
  split <;> rfl

theorem selector?_startSelector :
    f.startSelector.1.selector? = some (.ofLists f.selected f.available) := by
  unfold startSelector
  simp only
  split <;> rfl

theorem selector?_startChannel : f.startChannel.1.selector? = f.selector? := by
  unfold startChannel
  split <;> rfl

theorem selector?_takeOver (opening : Bool) (e : Envelope) :
    (f.takeOver opening e).1.selector? = f.selector? := by
  have htakes := f.takesOver_takeOver opening e
  generalize f.takeOver opening e = r at htakes ⊢
  cases htakes with
  | refused | malformed | unloadable | loaded => rfl

theorem selector?_finishFetch (hf : f.mangled? = none) (pending : Model.Resolver.Pending)
    (names : List Model.Name) : (f.finishFetch pending names).1.selector? = f.selector? := by
  rw [finishFetch_of_isList hf]
  split <;> rfl

theorem selector?_finishSelector (names : List Model.Name) :
    (f.finishSelector names).1.selector? = f.selector?.map (·.setAvailable names) := by
  unfold finishSelector
  split
  · rename_i h
    rw [h]
    rfl
  · rename_i h
    rw [h]
    rfl

theorem selector?_startSubmit (hf : f.mangled? = none) :
    f.startSubmit.1.selector? = f.selector? := by
  rcases startSubmit_cases hf with ⟨n, -, hstart⟩ | ⟨-, -, hstart⟩ | ⟨-, p, -, hstart⟩
  · rw [hstart]
    rfl
  · rw [hstart]
    rfl
  · rw [hstart]
    rfl

theorem selector?_finishSubmit (e : Envelope) :
    (f.finishSubmit e).1.selector? = if e.success then none else f.selector? := by
  unfold finishSubmit
  split
  · rfl
  · rfl

theorem selector?_after (hf : f.Consistent) (m : Move) :
    (f.after m).selector? = m.selectorAfter f := by
  cases m with
  | begin op =>
    cases op with
    | setField name value =>
      show (f.start _).1.selector? = _
      rw [start, fst_resultOf]
      exact selector?_setField name value
    | fillTemplate field =>
      show (f.start _).1.selector? = _
      rw [start, fst_resultOf]
      exact selector?_fillTemplate field
    | addCustom text =>
      show (f.start _).1.selector? = _
      rw [start, fst_resultOf]
      exact selector?_addCustom text
    | changeType channelType => exact selector?_changeType channelType
    | fetchModels => exact selector?_startFetch
    | openSelector => exact selector?_startSelector
    | pick event =>
      show (f.start (.pick event)).1.selector? = f.selector?.map _
      unfold start
      cases hs : f.selector? with
      | none => exact hs
      | some s =>
        simp only [Option.map_some]
        split
        · rfl
        · exact hs
    | applySelector =>
      show f.applySelector.selector? = none
      unfold applySelector
      split
      · rfl
      · assumption
    | validate =>
      show (f.start _).1.selector? = f.selector?
      unfold start validate
      simp only
      split <;> rfl
    | buildPayload =>
      show (f.start _).1.selector? = f.selector?
      unfold start
      simp only
      split <;> rfl
    | submit => exact selector?_startSubmit hf.isList
    | openForm | load | credential event | editKeys event | clearModels | fillBasic | fillAll
    | cancelSelector | reset | close => rfl
  | reply w reply =>
    cases w with
    | catalog => cases reply <;> rfl
    | groups =>
      cases reply with
      | names xs => exact selector?_startChannel
      | refused r => exact selector?_startChannel
      | envelope e | models xs | fault fault => rfl
    | channel opening =>
      cases reply with
      | envelope e => exact selector?_takeOver opening e
      | refused r | names xs | models xs | fault fault => rfl
    | fetch pending =>
      cases reply with
      | models xs => exact selector?_finishFetch hf.isList pending xs
      | refused r | envelope e | names xs | fault fault => rfl
    | selection =>
      cases reply with
      | models xs => exact selector?_finishSelector xs
      | refused r | envelope e | names xs | fault fault => rfl
    | save =>
      cases reply with
      | envelope e => exact selector?_finishSubmit e
      | refused r | names xs | models xs | fault fault => rfl

/-- A selector that is open after a move has just been opened, or has had one event at most. -/
theorem reachable_selectorAfter (hf : ∀ s, f.selector? = some s → s.Reachable) {m : Move}
    {s : Model.Selector} (hs : m.selectorAfter f = some s) : s.Reachable := by
  unfold Move.selectorAfter at hs
  split at hs
  · obtain rfl := Option.some.inj hs
    exact Model.Selector.reachable_ofLists _ _
  · rename_i event
    obtain ⟨s', hs', rfl⟩ := Option.map_eq_some_iff.1 hs
    exact (hf s' hs').attempt event
  · rename_i names
    obtain ⟨s', hs', rfl⟩ := Option.map_eq_some_iff.1 hs
    have hput : s'.attempt (.setAvailable names) = s'.setAvailable names :=
      Model.Selector.attempt_of_admits (by simp [Model.Selector.admits,
        Model.Selector.Event.needsSearch])
    exact hput ▸ (hf s' hs').attempt (.setAvailable names)
  any_goals cases hs
  · split at hs
    · cases hs
    · exact hf s hs
  · exact hf s hs

/-- Whatever has happened to a form, its selector has come about by events of its own. -/
theorem Reachable.selector (hf : f.Reachable) {s : Model.Selector} (hs : f.selector? = some s) :
    s.Reachable := by
  obtain ⟨channelId?, announces, moves, rfl⟩ := hf
  induction moves using List.reverseRecOn generalizing s with
  | nil => cases hs
  | append_singleton moves m ih =>
    have hlast : ({ channelId?, announces } : Form).afterAll (moves ++ [m]) =
        (({ channelId?, announces } : Form).afterAll moves).after m := afterAll_append _ _ _
    rw [hlast, selector?_after (consistent_afterAll (consistent_new channelId? announces) moves)]
      at hs
    exact reachable_selectorAfter (fun s hs => ih hs) hs

/-- A form has no selector after a move if the move closes it, or if there was none and the move
opens none. -/
theorem selector?_after_eq_none_iff (hf : f.Consistent) (m : Move) :
    (f.after m).selector? = none ↔
      m.ClosesSelector ∨ m ≠ .begin .openSelector ∧ f.selector? = none := by
  rw [selector?_after hf]
  cases m with
  | begin op => cases op <;> simp [Move.selectorAfter, Move.ClosesSelector]
  | reply w reply =>
    cases w with
    | save =>
      cases reply with
      | envelope e =>
        by_cases he : e.success = true <;> simp [Move.selectorAfter, Move.ClosesSelector, he]
      | _ => simp [Move.selectorAfter, Move.ClosesSelector]
    | _ => cases reply <;> simp [Move.selectorAfter, Move.ClosesSelector]

end Form

theorem not_closedBy_nil : ¬ ClosedBy [] := by
  show ¬ SeesSince Form.after (fun _ => Move.ClosesSelector) (.begin .openSelector) {} []
  exact not_seesSince_nil _ _ _

theorem closedBy_append_singleton {moves : List Move} {m : Move} :
    ClosedBy (moves ++ [m]) ↔ m.ClosesSelector ∨ m ≠ .begin .openSelector ∧ ClosedBy moves := by
  -- what the moves do to a form does not matter
  show SeesSince Form.after (fun _ => Move.ClosesSelector) (.begin .openSelector) {}
    (moves ++ [m]) ↔ _
  exact seesSince_append_singleton

namespace Form

variable {f : Form}

/-- A selector that was open is closed after a run exactly if the last of the moves that open or
close it has closed it. -/
theorem selector?_afterAll_eq_none_iff (hf : f.Consistent) (hopen : f.selector? ≠ none)
    (moves : List Move) : (f.afterAll moves).selector? = none ↔ ClosedBy moves := by
  induction moves using List.reverseRecOn with
  | nil => exact iff_of_false hopen not_closedBy_nil
  | append_singleton moves m ih =>
    have hlast : f.afterAll (moves ++ [m]) = (f.afterAll moves).after m := afterAll_append _ _ _
    rw [hlast, selector?_after_eq_none_iff (consistent_afterAll hf moves),
      closedBy_append_singleton, ih]

/-! ### Opening the selector -/

/-- An operation that asks once, with moves that are made before the reply comes. -/
def amid (f : Form) (op : Op) (moves : List Move) (reply : Reply) : Form × Progress :=
  match f.start op with
  | (g, .waiting _ w) => (g.afterAll moves).resume w reply
  | done => done

/-- A form of which the selector has just been opened. -/
def opened (f : Form) : Form := { f with selector? := some (.ofLists f.selected f.available) }

/-- The question that is put to the provider when the selector is opened. There is none without a
key. -/
def selectorQuery? (f : Form) : Option Model.Resolver.Query :=
  f.models.query? (if Text.isAllBlank f.pool.raw then f.channelId? else none) f.draft.baseUrl
    f.pool.raw

/-- What is said about models that are put up for selection. -/
def foundNotice (names : List Model.Name) : Notice :=
  { level := .success
    message := "Fetched " ++ Text.ofInt names.length ++ " model(s)"
    field? := some "models" }

theorem start_openSelector_of_none (h : f.selectorQuery? = none) :
    f.start .openSelector = f.opened.missingKey := by
  show f.startSelector = _
  rw [selectorQuery?] at h
  unfold startSelector
  simp only [h]
  rfl

theorem start_openSelector_of_some {query : Model.Resolver.Query}
    (h : f.selectorQuery? = some query) :
    f.start .openSelector = (f.opened, .waiting (callOf query) .selection) := by
  show f.startSelector = _
  rw [selectorQuery?] at h
  unfold startSelector
  simp only [h]
  rfl

theorem amid_openSelector_of_some {query : Model.Resolver.Query}
    (h : f.selectorQuery? = some query) (moves : List Move) (reply : Reply) :
    f.amid .openSelector moves reply = (f.opened.afterAll moves).resume .selection reply := by
  rw [amid, start_openSelector_of_some h]

theorem Consistent.opened (hf : f.Consistent) : f.opened.Consistent := ⟨hf.isList, hf.channelType⟩

/-- Models are put up for selection if the selector is open. -/
theorem resume_selection_of_some {s : Model.Selector} (h : f.selector? = some s)
    (names : List Model.Name) :
    f.resume .selection (.models names) =
      (({ f with selector? := some (s.setAvailable names) } : Form).notify (foundNotice names),
        .answer (.notice (some (foundNotice names)))) := by
  show f.finishSelector names = _
  unfold finishSelector
  rw [h]
  rfl

/-- A selector that is closed cannot take them. -/
theorem resume_selection_of_none (h : f.selector? = none) (names : List Model.Name) :
    f.resume .selection (.models names) = (f, .fail .noSuchPart) := by
  show f.finishSelector names = _
  unfold finishSelector
  rw [h]

/-- Models come too late for a selector that has been closed. -/
theorem amid_openSelector_of_closed (hf : f.Consistent) {query : Model.Resolver.Query}
    (hquery : f.selectorQuery? = some query) {moves : List Move} (hmoves : ClosedBy moves)
    (names : List Model.Name) :
    f.amid .openSelector moves (.models names) = (f.opened.afterAll moves, .fail .noSuchPart) := by
  have hclosed : (f.opened.afterAll moves).selector? = none :=
    (selector?_afterAll_eq_none_iff hf.opened (Option.some_ne_none _) moves).2 hmoves
  rw [amid_openSelector_of_some hquery, resume_selection_of_none hclosed]

/-- They are put up in one that is open. -/
theorem amid_openSelector_of_open (hf : f.Consistent) {query : Model.Resolver.Query}
    (hquery : f.selectorQuery? = some query) {moves : List Move} (hmoves : ¬ ClosedBy moves)
    (names : List Model.Name) :
    ∃ s, (f.opened.afterAll moves).selector? = some s ∧
      f.amid .openSelector moves (.models names) =
        (({ f.opened.afterAll moves with
            selector? := some (s.setAvailable names) } : Form).notify (foundNotice names),
          .answer (.notice (some (foundNotice names)))) := by
  have hiff := selector?_afterAll_eq_none_iff hf.opened (Option.some_ne_none _) moves
  obtain ⟨s, hs⟩ := Option.ne_none_iff_exists'.1 fun hnone => hmoves (hiff.1 hnone)
  exact ⟨s, hs, by rw [amid_openSelector_of_some hquery, resume_selection_of_some hs]⟩

/-- What comes of opening the selector when other things happen while the provider is asked. It is
answered with a notice, unless models have been found and the selector is closed by then. In that
case it fails, and the form is as the moves left it. -/
theorem amid_openSelector (hf : f.Reachable) (moves : List Move) {reply : Reply}
    (hreply : (∃ names, reply = .models names) ∨ ∃ refusal, reply = .refused refusal) :
    ((∃ n, (f.amid .openSelector moves reply).2 = .answer (.notice (some n))) ↔
      ¬ (f.selectorQuery? ≠ none ∧ (∃ names, reply = .models names) ∧ ClosedBy moves)) ∧
    (f.selectorQuery? ≠ none → ClosedBy moves → ∀ names,
      f.amid .openSelector moves (.models names) =
        (f.opened.afterAll moves, .fail .noSuchPart)) := by
  cases hquery : f.selectorQuery? with
  | none =>
    -- nobody is asked, and it is said at once that there is no key
    refine ⟨iff_of_true ?_ fun h => h.1 rfl, fun h => absurd rfl h⟩
    rw [amid, start_openSelector_of_none hquery]
    exact ⟨_, rfl⟩
  | some query =>
    have hfail : ClosedBy moves → ∀ names, f.amid .openSelector moves (.models names) =
        (f.opened.afterAll moves, .fail .noSuchPart) :=
      amid_openSelector_of_closed hf.consistent hquery
    refine ⟨?_, fun _ => hfail⟩
    rcases hreply with ⟨names, rfl⟩ | ⟨refusal, rfl⟩
    · by_cases h : ClosedBy moves
      · refine iff_of_false ?_ fun hnot => hnot ⟨Option.some_ne_none _, ⟨names, rfl⟩, h⟩
        rintro ⟨n, hn⟩
        rw [hfail h] at hn
        simp [Progress.fail, Progress.answer] at hn
      · refine iff_of_true ?_ fun hall => h hall.2.2
        obtain ⟨s, -, hamid⟩ := amid_openSelector_of_open hf.consistent hquery h names
        rw [hamid]
        exact ⟨_, rfl⟩
    · refine iff_of_true ?_ ?_
      · rw [amid_openSelector_of_some hquery]
        exact ⟨_, rfl⟩
      · rintro ⟨-, ⟨names, hnames⟩, -⟩
        simp at hnames

/-- The selector was closed while the provider was asked, and opened once more. -/
theorem amid_openSelector_reopened :
    (({ channelId? := some 7 } : Form).Reachable ∧
      ¬ ClosedBy [.begin .cancelSelector, .begin .openSelector]) ∧
    ∃ n, (({ channelId? := some 7 } : Form).amid .openSelector
      [.begin .cancelSelector, .begin .openSelector] (.models [.text "gpt-4o"])).2 =
        .answer (.notice (some n)) := by
  have hreach : ({ channelId? := some 7 } : Form).Reachable := ⟨some 7, true, [], rfl⟩
  have hopen : ¬ ClosedBy ([.begin .cancelSelector] ++ [.begin .openSelector]) := by
    rw [closedBy_append_singleton]
    rintro (hclose | ⟨hne, -⟩)
    · exact hclose
    · exact hne rfl
  refine ⟨⟨hreach, hopen⟩, ?_⟩
  exact (amid_openSelector hreach _ (.inl ⟨_, rfl⟩)).1.2 fun h => hopen h.2.2

/-- The editor of a stored channel was ended while the provider was asked. -/
theorem amid_openSelector_ended :
    ({ channelId? := some 7 } : Form).Reachable ∧
    ¬ ∃ n, (({ channelId? := some 7 } : Form).amid .openSelector [.begin .close]
      (.models [.text "gpt-4o"])).2 = .answer (.notice (some n)) := by
  refine ⟨⟨some 7, true, [], rfl⟩, ?_⟩
  rintro ⟨n, hn⟩
  have hfail : (({ channelId? := some 7 } : Form).amid .openSelector [.begin .close]
      (.models [.text "gpt-4o"])).2 = .fail .noSuchPart := rfl
  rw [hfail] at hn
  simp [Progress.fail, Progress.answer] at hn

/-! ### What is put up for selection -/

/-- Everything that is shown is picked at once, and what is picked is selected by applying it. -/
theorem models_afterAll_selectAll {s : Model.Selector} (hs : f.selector? = some s)
    (hsearch : s.canSearch = true) :
    (f.afterAll [.begin (.pick .selectAll), .begin .applySelector]).models.models =
      Model.Name.unique s.selectAll.selected := by
  have hadmits : s.admits .selectAll = true := by rw [Model.Selector.admits, hsearch, Bool.true_or]
  have hpick : f.after (.begin (.pick .selectAll)) = { f with selector? := some s.selectAll } := by
    show (f.start (.pick .selectAll)).1 = _
    unfold start
    simp only [hs, hadmits, if_true]
    rfl
  show ((f.after (.begin (.pick .selectAll))).after (.begin .applySelector)).models.models = _
  rw [hpick]
  rfl

/-- Hence all names that are put up and match the search can be selected. -/
theorem mem_models_of_setAvailable {s : Model.Selector} {xs : List Text}
    (hs : f.selector? = some (s.setAvailable (Model.Name.ofTexts xs))) {x : Text} (hx : x ∈ xs)
    (hne : x ≠ "") (hmatch : Model.Selector.isMatch s.search (.text x) = true) :
    .text x ∈ (f.afterAll [.begin (.pick .selectAll), .begin .applySelector]).models.models := by
  have havailable : (s.setAvailable (Model.Name.ofTexts xs)).available =
      Model.Name.ofTexts (Names.unique xs) := Model.Name.unique_ofTexts xs
  have hsearch : (s.setAvailable (Model.Name.ofTexts xs)).canSearch = true := by
    rw [Model.Selector.canSearch, havailable]
    exact Model.Name.all_isText_ofTexts _
  have hvisible : .text x ∈ (s.setAvailable (Model.Name.ofTexts xs)).visible := by
    rw [Model.Selector.mem_visible, havailable]
    exact ⟨List.mem_map_of_mem (Names.mem_unique.2 ⟨hx, hne⟩), hmatch⟩
  rw [models_afterAll_selectAll hs hsearch, Model.Name.mem_unique_text]
  exact ⟨Model.Name.mem_unique_text.2 ⟨List.mem_append_right _ hvisible, hne⟩, hne⟩

/-- What becomes of the models that a provider names for a selector. If the selector is open when
they come, they are put up for selection, whatever has happened since the provider was asked, and
from there they can be selected; nothing is ever said to be too late. They are for the type and the
address that the form has, as long as no move has made them useless. -/
theorem amid_openSelector_models (hf : f.Reachable) {query : Model.Resolver.Query}
    (hquery : f.selectorQuery? = some query) (moves : List Move) (names : List Model.Name) :
    f.start .openSelector = (f.opened, .waiting (callOf query) .selection) ∧
    (f.amid .openSelector moves (.models names)).2 ≠ .answer (.notice (some staleNotice)) ∧
    (¬ ClosedBy moves → ∃ s g, (f.opened.afterAll moves).selector? = some s ∧
      g = ({ f.opened.afterAll moves with
        selector? := some (s.setAvailable names) } : Form).notify (foundNotice names) ∧
      f.amid .openSelector moves (.models names) =
        (g, .answer (.notice (some (foundNotice names)))) ∧
      ∀ xs, names = Model.Name.ofTexts xs → ∀ x ∈ xs, x ≠ "" →
        Model.Selector.isMatch s.search (.text x) = true →
        .text x ∈ (g.afterAll [.begin (.pick .selectAll), .begin .applySelector]).models.models) ∧
    (¬ Sees after Move.Invalidates f.opened moves →
      (f.opened.afterAll moves).draft.channelType = f.draft.channelType ∧
      (f.opened.afterAll moves).draft.baseUrl = f.draft.baseUrl ∧
      ∀ channelType baseUrl key, callOf query = .fetchModels channelType baseUrl key →
        (f.opened.afterAll moves).draft.channelType = channelType ∧
        (f.opened.afterAll moves).draft.baseUrl = baseUrl) := by
  refine ⟨start_openSelector_of_some hquery, ?_, fun hnot => ?_,
    subject_of_query hf.consistent.opened hquery⟩
  · by_cases h : ClosedBy moves
    · rw [amid_openSelector_of_closed hf.consistent hquery h]
      simp [Progress.fail, Progress.answer]
    · obtain ⟨s, -, hamid⟩ := amid_openSelector_of_open hf.consistent hquery h names
      rw [hamid]
      have hne : foundNotice names ≠ staleNotice := ne_staleNotice (.inl rfl)
      simpa [Progress.answer] using hne
  · obtain ⟨s, hs, hamid⟩ := amid_openSelector_of_open hf.consistent hquery hnot names
    refine ⟨s, _, hs, rfl, hamid, ?_⟩
    rintro xs rfl x hx hne hmatch
    exact mem_models_of_setAvailable rfl hx hne hmatch

/-- A key was typed. -/
def typedKey : Form := ({} : Form).afterAll [.begin (.editKeys (.input "sk-a"))]

/-- The channel is given a name. -/
def named : Move := .begin (.setField "name" (.str "relay"))

/-- Models are put up for the type that they were asked for, though the channel got a name in the
meantime. -/
theorem amid_openSelector_models_named :
    (typedKey.Reachable ∧ typedKey.selectorQuery? = some (.byForm 1 "" "sk-a") ∧
      ¬ ClosedBy [named] ∧ ¬ Sees after Move.Invalidates typedKey.opened [named]) ∧
    (typedKey.opened.afterAll [named]).draft.channelType = 1 ∧
    ∃ s g, (typedKey.opened.afterAll [named]).selector? = some s ∧
      g = ({ typedKey.opened.afterAll [named] with
        selector? := some (s.setAvailable [.text "gpt-4o"]) } : Form).notify
          (foundNotice [.text "gpt-4o"]) ∧
      typedKey.amid .openSelector [named] (.models [.text "gpt-4o"]) =
        (g, .answer (.notice (some (foundNotice [.text "gpt-4o"])))) := by
  have hreach : typedKey.Reachable := ⟨none, true, [_], rfl⟩
  have hquery : typedKey.selectorQuery? = some (.byForm 1 "" "sk-a") := by decide
  have hopen : ¬ ClosedBy ([] ++ [named]) := by
    rw [closedBy_append_singleton]
    rintro (hclose | ⟨-, hnil⟩)
    · exact hclose
    · exact not_closedBy_nil hnil
  have hvalid : ¬ Sees after Move.Invalidates typedKey.opened [named] := by
    rw [sees_cons]
    rintro (hnamed | hnil)
    · simp [named, Move.Invalidates] at hnamed
    · exact not_sees_nil _ _ hnil
  obtain ⟨-, -, hput, hsubject⟩ :=
    amid_openSelector_models hreach hquery [named] [.text "gpt-4o"]
  obtain ⟨s, g, hs, hg, hamid, -⟩ := hput hopen
  exact ⟨⟨hreach, hquery, hopen, hvalid⟩, (hsubject hvalid).1, s, g, hs, hg, hamid⟩

/-- The type of the channel was changed while the provider of the type before was asked, and its
models are selected for the new one. -/
theorem amid_openSelector_other_type :
    let r := typedKey.amid .openSelector [.begin (.changeType 3)] (.models [.text "gpt-4o"])
    typedKey.Reachable ∧
      (typedKey.start .openSelector).2 = .waiting (.fetchModels 1 "" "sk-a") .selection ∧
      r.1.draft.channelType = 3 ∧ r.2 = .answer (.notice (some (foundNotice [.text "gpt-4o"]))) ∧
      (r.1.selector?.map fun s => s.available) = some [.text "gpt-4o"] ∧
      (r.1.afterAll [.begin (.pick .selectAll), .begin .applySelector]).models.models =
        [.text "gpt-4o"] := by
  intro r
  exact ⟨⟨none, true, [_], rfl⟩, rfl, rfl, rfl, by decide, by decide⟩

end Form

end ChannelConsole.Editor
