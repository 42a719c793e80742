import ChannelConsole.Proofs.Editor.Selection
import ChannelConsole.Proofs.Editor.Selector
import ChannelConsole.Proofs.Model.Picking

/-!
# What stays selected

Moves that do not put another selection in the place of the present one (`Move.Replaces`) leave it
alone or add to its end, except for applying the selector (`Form.models_prefix_after`). The selector
has a selection of its own, which is the one of the form at the time when it was opened, and
applying it puts this one in the place of the other, whatever has been selected in the meantime.

A selected model therefore stays selected until a selector is applied in which it is not picked
(`Form.isAmong_models_after_iff`). If it was picked in the selector at first, the user has dropped
it there. If it was not, because it has been selected since the selector was opened, it is lost
without having been dropped (`Form.keeps_unless_overlooked`).
-/

namespace ChannelConsole.Editor

open Channel Backend Steps

/-! ### Kinds of moves -/

/-- Whether a model is picked in the selector, if that is open. -/
def Form.Picks (f : Form) (n : Model.Name) : Prop :=
  ∀ s, f.selector? = some s → n.isAmong s.selected = true

namespace Move

/-- Whether a move puts another selection in the place of the present one: nothing, the first models
or the whole catalog is selected, the models are set, the type becomes another one, a stored channel
is taken over, or the form is emptied, by itself or after a new channel was saved. Opening the
editor of a new channel selects the first models. -/
def Replaces (f : Form) : Move → Prop
  | .begin .clearModels | .begin .fillBasic | .begin .fillAll | .begin .reset => True
  | .begin (.setField name value) =>
    (name = "models" ∧ ∃ names, Form.modelNames value = .ok names) ∨
      (name = "type" ∧ ∃ code, Form.typeCode value = .ok code ∧ code ≠ f.draft.channelType)
  | .begin (.changeType channelType) => channelType ≠ f.draft.channelType
  | .reply .groups (.names _) | .reply .groups (.refused _) => f.isEdit = false
  | .reply (.channel _) (.envelope e) =>
    e.success = true ∧ ∃ p, Payload.check e.data = .ok p ∧ ∃ g, f.hydrate p = (g, .ok ())
  | .reply .save (.envelope e) => e.success = true ∧ f.isEdit = false
  | _ => False

/-- Whether a move changes whether a model is picked in the selector. -/
def Flips (n : Model.Name) (f : Form) (m : Move) : Prop :=
  ∃ s event, f.selector? = some s ∧ m = .begin (.pick event) ∧ s.admits event = true ∧
    s.Flips n event

/-- Whether a move drops a model that is picked in the selector. -/
def Deselects (n : Model.Name) (f : Form) (m : Move) : Prop := f.Picks n ∧ m.Flips n f

/-- Whether a move applies a selector in which a model is not picked. -/
def Overlooks (n : Model.Name) (f : Form) (m : Move) : Prop :=
  m = .begin .applySelector ∧ ¬ f.Picks n

end Move

namespace Form

variable {f : Form} {n : Model.Name}

/-- Whether a model is selected before several moves, between them, and after them. -/
def Keeps (f : Form) (n : Model.Name) (moves : List Move) : Prop :=
  ∀ before, before <+: moves → n.isAmong (f.afterAll before).models.models = true

/-! ### Selections that grow -/

/-- A change of the type to the present one leaves the selection alone, unless it is empty. -/
theorem models_prefix_changeType (hf : f.Consistent) {channelType : Int}
    (ht : channelType = f.draft.channelType) :
    f.models.models <+: (f.changeType channelType).1.models.models := by
  rw [ht, ← hf.channelType]
  by_cases hempty : f.models.models.isEmpty = true
  · rw [List.isEmpty_iff.1 hempty]
    exact List.nil_prefix
  · simp only [changeType, Model.Resolver.changeType, hempty, ne_eq, not_true_eq_false, if_false]
    exact List.prefix_rfl

theorem models_prefix_setField (hf : f.Consistent) {name : Text} {v : Json}
    (hm : ¬ Move.Replaces f (.begin (.setField name v))) :
    f.models.models <+: (f.setField name v).1.models.models := by
  rw [Move.Replaces, not_or] at hm
  have hsets := f.sets_setField name v
  generalize f.setField name v = r at hsets ⊢
  cases hsets with
  | refused | address | plain => exact List.prefix_rfl
  | @type v code hcode =>
    refine models_prefix_changeType hf ?_
    by_contra hne
    exact hm.2 ⟨rfl, code, hcode, hne⟩
  | models hnames => exact absurd ⟨rfl, _, hnames⟩ hm.1

theorem models_fillTemplate (name : Text) :
    (f.fillTemplate name).1.models.models = f.models.models := by
  have hfills := f.fills_fillTemplate name
  generalize f.fillTemplate name = r at hfills ⊢
  cases hfills with
  | refused | filled => rfl

theorem models_prefix_addCustom (text : Text) :
    f.models.models <+: (f.addCustom text).1.models.models := by
  unfold addCustom
  split
  · exact List.prefix_rfl
  split
  · exact List.prefix_append _ _
  · simp only
    split <;> exact List.prefix_rfl

theorem models_startFetch : f.startFetch.1.models.models = f.models.models := by
  unfold startFetch
  split <;> rfl

theorem models_prefix_finishFetch (hf : f.Consistent) (pending : Model.Resolver.Pending)
    (names : List Model.Name) :
    f.models.models <+: (f.finishFetch pending names).1.models.models := by
  rw [finishFetch_of_isList hf.isList]
  split
  · exact List.prefix_rfl
  · rename_i hg
    simp only [Model.Resolver.finishFetch, hg, if_false]
    exact List.prefix_append _ _

theorem models_startSelector : f.startSelector.1.models.models = f.models.models := by
  unfold startSelector
  simp only
  split <;> rfl

theorem models_finishSelector (names : List Model.Name) :
    (f.finishSelector names).1.models.models = f.models.models := by
  unfold finishSelector
  split <;> rfl

theorem models_startChannel (hedit : f.isEdit = true) :
    f.startChannel.1.models.models = f.models.models := by
  rw [startChannel, if_pos hedit]

theorem models_takeOver {opening : Bool} {e : Envelope}
    (hm : ¬ Move.Replaces f (.reply (.channel opening) (.envelope e))) :
    (f.takeOver opening e).1.models.models = f.models.models := by
  have htakes := f.takesOver_takeOver opening e
  generalize f.takeOver opening e = r at htakes ⊢
  cases htakes with
  | refused | malformed | unloadable => rfl
  | @loaded p diagnostics hsuccess hcheck hload =>
    have hopens : ∃ g, f.hydrate p = (g, .ok ()) := by
      obtain ⟨diagnostics, hh⟩ := hydrate_of_isLoadable f hload
      exact ⟨_, hh⟩
    exact absurd ⟨hsuccess, p, hcheck, hopens⟩ hm

theorem models_startSubmit (hf : f.Consistent) :
    f.startSubmit.1.models.models = f.models.models := by
  rcases startSubmit_cases hf.isList with ⟨n, -, hstart⟩ | ⟨-, -, hstart⟩ | ⟨-, p, -, hstart⟩
  · rw [hstart]
    rfl
  · rw [hstart]
    rfl
  · rw [hstart]
    rfl

theorem models_finishSubmit {e : Envelope}
    (hm : ¬ Move.Replaces f (.reply .save (.envelope e))) :
    (f.finishSubmit e).1.models.models = f.models.models := by
  unfold finishSubmit
  by_cases he : e.success = true
  · have hedit : f.isEdit = true := Bool.not_eq_false _ |>.mp fun h => hm ⟨he, h⟩
    rw [if_pos he]
    simp only [saved, hedit, if_true]
    rfl
  · rw [if_neg he]
    rfl

/-- A move that does not replace the selection adds to its end or leaves it alone, unless it applies
the selector. -/
theorem models_prefix_after (hf : f.Consistent) {m : Move} (hm : ¬ m.Replaces f)
    (happly : m ≠ .begin .applySelector) :
    f.models.models <+: (f.after m).models.models := by
  have hsame : ∀ g : Form, g.models.models = f.models.models →
      f.models.models <+: g.models.models := fun g hg => by rw [hg]
  cases m with
  | begin op =>
    cases op with
    | setField name value =>
      show _ <+: (f.start _).1.models.models
      rw [start, fst_resultOf]
      exact models_prefix_setField hf hm
    | fillTemplate field =>
      show _ <+: (f.start _).1.models.models
      rw [start, fst_resultOf]
      exact hsame _ (models_fillTemplate field)
    | addCustom text =>
      show _ <+: (f.start _).1.models.models
      rw [start, fst_resultOf]
      exact models_prefix_addCustom text
    | changeType channelType => exact models_prefix_changeType hf (not_not.1 hm)
    | editKeys event =>
      show _ <+: (f.editKeys event).1.models.models
      simp only [editKeys]
      split <;> exact List.prefix_rfl
    | fetchModels => exact hsame _ models_startFetch
    | openSelector => exact hsame _ models_startSelector
    | pick event =>
      show _ <+: (f.start _).1.models.models
      unfold start
      simp only
      split
      · split <;> exact List.prefix_rfl
      · exact List.prefix_rfl
    | applySelector => exact absurd rfl happly
    | validate =>
      show _ <+: (f.start _).1.models.models
      unfold start validate
      simp only
      split <;> exact List.prefix_rfl
    | buildPayload =>
      show _ <+: (f.start _).1.models.models
      unfold start
      simp only
      split <;> exact List.prefix_rfl
    | submit => exact hsame _ (models_startSubmit hf)
    | clearModels | fillBasic | fillAll | reset => exact absurd trivial hm
    | openForm | load | credential event | cancelSelector | close => exact hsame _ rfl
  | reply w reply =>
    cases w with
    | catalog => cases reply <;> exact hsame _ rfl
    | groups =>
      cases reply with
      | names xs =>
        have hedit : f.isEdit = true := by simpa [Move.Replaces] using hm
        exact hsame _ (models_startChannel (f := { f with groupOptions := xs }) hedit)
      | refused r =>
        have hedit : f.isEdit = true := by simpa [Move.Replaces] using hm
        exact hsame _ (models_startChannel (f := f.notify _) hedit)
      | envelope e | models xs | fault fault => exact hsame _ rfl
    | channel opening =>
      cases reply with
      | envelope e => exact hsame _ (models_takeOver hm)
      | refused r | names xs | models xs | fault fault => exact hsame _ rfl
    | fetch pending =>
      cases reply with
      | models xs => exact models_prefix_finishFetch hf pending xs
      | refused r | envelope e | names xs | fault fault => exact hsame _ rfl
    | selection =>
      cases reply with
      | models xs => exact hsame _ (models_finishSelector xs)
      | refused r | envelope e | names xs | fault fault => exact hsame _ rfl
    | save =>
      cases reply with
      | envelope e => exact hsame _ (models_finishSubmit hm)
      | refused r | names xs | models xs | fault fault => exact hsame _ rfl

/-! ### Selections that are replaced by what is picked -/

instance (f : Form) (n : Model.Name) : Decidable (f.Picks n) :=
  decidable_of_iff (f.selector?.all fun s => n.isAmong s.selected) (by
    cases h : f.selector? with
    | none => simp [Picks, h]
    | some s => simp [Picks, h])

theorem picks_of_none (h : f.selector? = none) : f.Picks n := by
  intro s hs
  rw [h] at hs
  exact absurd hs (by simp)

theorem picks_iff_of_some {s : Model.Selector} (h : f.selector? = some s) :
    f.Picks n ↔ n.isAmong s.selected = true := by
  rw [Picks, h]
  exact ⟨fun hall => hall s rfl, fun hs s' hs' => Option.some.inj hs' ▸ hs⟩

theorem Reachable.isVoid_eq_false (hf : f.Reachable) (hn : n.isAmong f.models.models = true) :
    n.isVoid = false := by
  obtain ⟨channelId?, announces, moves, rfl⟩ := hf
  obtain ⟨m, hm, hkey⟩ := Model.Name.isAmong_iff.1 hn
  rw [← Model.Name.isVoid_congr hkey]
  exact (isClean_afterAll channelId? announces moves).named m hm

/-- What is picked is selected by applying the selector, and nothing else is. -/
theorem isAmong_models_applySelector (hn : n.isVoid = false) {s : Model.Selector}
    (hs : f.selector? = some s) :
    n.isAmong (f.after (.begin .applySelector)).models.models = n.isAmong s.selected := by
  show n.isAmong f.applySelector.models.models = _
  rw [applySelector, hs]
  exact Model.Name.isAmong_unique hn

/-- A selected model stays selected in a move that does not replace the selection, unless a selector
is applied in which it is not picked. -/
theorem isAmong_models_after_iff (hf : f.Reachable) (hn : n.isAmong f.models.models = true)
    {m : Move} (hm : ¬ m.Replaces f) :
    n.isAmong (f.after m).models.models = true ↔ ¬ m.Overlooks n f := by
  by_cases happly : m = .begin .applySelector
  · subst happly
    rw [Move.Overlooks, eq_self, true_and, not_not]
    cases hs : f.selector? with
    | none =>
      have hsame : f.after (.begin .applySelector) = f := by
        show f.applySelector = f
        rw [applySelector, hs]
      rw [hsame]
      exact iff_of_true hn (picks_of_none hs)
    | some s =>
      rw [isAmong_models_applySelector (hf.isVoid_eq_false hn) hs, picks_iff_of_some hs]
  · refine iff_of_true ?_ fun hoverlooks => happly hoverlooks.1
    obtain ⟨added, hadded⟩ := models_prefix_after hf.consistent hm happly
    rw [← hadded, Model.Name.isAmong_append, hn, Bool.true_or]

/-! ### What is picked -/

/-- The selector is opened with the selection of the form. -/
theorem picks_after_openSelector (hf : f.Reachable) (hn : n.isAmong f.models.models = true) :
    (f.after (.begin .openSelector)).Picks n := by
  have hselected : f.selected = f.models.models := by rw [selected, hf.consistent.isList]
  refine (picks_iff_of_some (selector?_after hf.consistent _)).2 ?_
  show n.isAmong (Model.Name.unique f.selected) = true
  rw [Model.Name.isAmong_unique (hf.isVoid_eq_false hn), hselected, hn]

theorem picks_iff_of_map {g : Form} {change : Model.Selector → Model.Selector}
    (hg : g.selector? = f.selector?.map change)
    (hchange : ∀ s, f.selector? = some s →
      (n.isAmong (change s).selected = true ↔ n.isAmong s.selected = true)) :
    g.Picks n ↔ f.Picks n := by
  cases hs : f.selector? with
  | none =>
    rw [hs] at hg
    exact iff_of_true (picks_of_none hg) (picks_of_none hs)
  | some s =>
    rw [hs] at hg
    rw [picks_iff_of_some hg, picks_iff_of_some hs]
    exact hchange s hs

/-- As long as the selector is open, only its own events change what is picked. -/
theorem picks_after_iff (hf : f.Consistent) (hn : n.isVoid = false) {m : Move}
    (hopen : m ≠ .begin .openSelector) (hclose : ¬ m.ClosesSelector) (hflips : ¬ m.Flips n f) :
    (f.after m).Picks n ↔ f.Picks n := by
  have hafter := selector?_after hf m
  have hsame : m.selectorAfter f = f.selector? → ((f.after m).Picks n ↔ f.Picks n) := by
    intro h
    rw [Picks, Picks, hafter, h]
  cases m with
  | begin op =>
    cases op with
    | openSelector => exact absurd rfl hopen
    | pick event =>
      refine picks_iff_of_map hafter fun s hs => ?_
      by_cases hadmits : s.admits event = true
      · have hkeeps : ¬ s.Flips n event := fun h => hflips ⟨s, event, hs, rfl, hadmits, h⟩
        rw [if_pos hadmits, Model.Selector.isAmong_selected_step hn, iff_true_right hkeeps]
      · rw [if_neg hadmits]
    | applySelector | cancelSelector | reset | close => exact absurd trivial hclose
    | _ => exact hsame rfl
  | reply w reply =>
    cases w with
    | selection =>
      cases reply with
      | models names => exact picks_iff_of_map hafter fun s _ => Iff.rfl
      | _ => exact hsame rfl
    | save =>
      cases reply with
      | envelope e => exact hsame (if_neg hclose)
      | _ => exact hsame rfl
    | _ => cases reply <;> exact hsame rfl

theorem picks_afterAll_iff (hf : f.Consistent) (hn : n.isVoid = false) {moves : List Move}
    (hmoves : ∀ m ∈ moves, m ≠ .begin .openSelector ∧ ¬ m.ClosesSelector)
    (hflips : ¬ Sees after (Move.Flips n) f moves) : (f.afterAll moves).Picks n ↔ f.Picks n := by
  induction moves generalizing f with
  | nil => exact Iff.rfl
  | cons m moves ih =>
    rw [sees_cons, not_or] at hflips
    obtain ⟨hopen, hclose⟩ := hmoves m List.mem_cons_self
    have hrest := ih (consistent_after hf m)
      (fun m' hm' => hmoves m' (List.mem_cons_of_mem m hm')) hflips.2
    exact hrest.trans (picks_after_iff hf hn hopen hclose hflips.1)

/-- A selected model that is picked stays picked, or it is dropped. -/
theorem picks_after (hf : f.Reachable) (hn : n.isAmong f.models.models = true) (hpicks : f.Picks n)
    (m : Move) : (f.after m).Picks n ∨ m.Deselects n f := by
  by_cases hopen : m = .begin .openSelector
  · rw [hopen]
    exact .inl (picks_after_openSelector hf hn)
  by_cases hclose : m.ClosesSelector
  · left
    exact picks_of_none ((selector?_after_eq_none_iff hf.consistent m).2 (.inl hclose))
  by_cases hflips : m.Flips n f
  · exact .inr ⟨hpicks, hflips⟩
  · left
    exact (picks_after_iff hf.consistent (hf.isVoid_eq_false hn) hopen hclose hflips).2 hpicks

/-- While a model stays selected, it is picked in the selector, unless it has been dropped since the
selector was opened. -/
theorem picks_afterAll (hf : f.Reachable) (hpicks : f.Picks n) {moves : List Move}
    (hkeeps : f.Keeps n moves) :
    (f.afterAll moves).Picks n ∨
      SeesSince after (Move.Deselects n) (.begin .openSelector) f moves := by
  induction moves using List.reverseRecOn with
  | nil => exact .inl hpicks
  | append_singleton moves m ih =>
    have hsofar : f.Keeps n moves := fun before hbefore =>
      hkeeps before (hbefore.trans (List.prefix_append _ _))
    have hselected := hkeeps moves (List.prefix_append _ _)
    have hlast : f.afterAll (moves ++ [m]) = (f.afterAll moves).after m := afterAll_append _ _ _
    rw [hlast, seesSince_append_singleton]
    rcases ih hsofar with h | h
    · exact (picks_after (hf.afterAll moves) hselected h m).imp_right .inl
    · by_cases hopen : m = .begin .openSelector
      · rw [hopen]
        exact .inl (picks_after_openSelector (hf.afterAll moves) hselected)
      · exact .inr (.inr ⟨hopen, h⟩)

/-! ### Runs -/

/-- A selected model that is lost is lost in some move for the first time. -/
theorem exists_of_not_keeps (hn : n.isAmong f.models.models = true) {moves : List Move}
    (h : ¬ f.Keeps n moves) :
    ∃ before m rest, moves = before ++ m :: rest ∧ f.Keeps n before ∧
      ¬ n.isAmong ((f.afterAll before).after m).models.models = true := by
  induction moves using List.reverseRecOn with
  | nil =>
    refine absurd (fun before hbefore => ?_) h
    rw [List.prefix_nil.1 hbefore]
    exact hn
  | append_singleton moves m ih =>
    by_cases hkeeps : f.Keeps n moves
    · refine ⟨moves, m, [], rfl, hkeeps, fun hlast => h fun before hbefore => ?_⟩
      rcases List.prefix_concat_iff.1 hbefore with rfl | hbefore
      · rw [afterAll_append]
        exact hlast
      · exact hkeeps before hbefore
    · obtain ⟨before, m', rest, rfl, hbefore, hlost⟩ := ih hkeeps
      exact ⟨before, m', rest ++ [m], by simp, hbefore, hlost⟩

/-- What is lost without being replaced is lost by applying a selector that overlooks it. -/
theorem exists_overlooks_of_not_keeps (hf : f.Reachable) (hn : n.isAmong f.models.models = true)
    {moves : List Move} (hmoves : ¬ Sees after Move.Replaces f moves) (h : ¬ f.Keeps n moves) :
    ∃ before rest, moves = before ++ .begin .applySelector :: rest ∧ f.Keeps n before ∧
      ¬ (f.afterAll before).Picks n := by
  obtain ⟨before, m, rest, hsplit, hbefore, hlost⟩ := exists_of_not_keeps hn h
  have hselected := hbefore before List.prefix_rfl
  have hm : ¬ m.Replaces (f.afterAll before) := fun hreplaces =>
    hmoves ⟨before, m, rest, hsplit, hreplaces⟩
  rw [isAmong_models_after_iff (hf.afterAll before) hselected hm, not_not] at hlost
  obtain ⟨rfl, hmisses⟩ := hlost
  exact ⟨before, rest, hsplit, hbefore, hmisses⟩

theorem keeps_iff (hf : f.Reachable) (hn : n.isAmong f.models.models = true) {moves : List Move}
    (hmoves : ¬ Sees after Move.Replaces f moves) :
    f.Keeps n moves ↔ ¬ Sees after (Move.Overlooks n) f moves := by
  constructor
  · rintro h ⟨before, m, rest, rfl, hoverlooks⟩
    have hselected := h before (List.prefix_append _ _)
    have hafter := h (before ++ [m]) ⟨rest, by simp⟩
    rw [afterAll_append] at hafter
    have hm : ¬ m.Replaces (f.afterAll before) := fun hreplaces =>
      hmoves ⟨before, m, rest, rfl, hreplaces⟩
    exact (isAmong_models_after_iff (hf.afterAll before) hselected hm).1 hafter hoverlooks
  · intro h
    by_contra hnot
    obtain ⟨before, rest, hsplit, -, hmisses⟩ := exists_overlooks_of_not_keeps hf hn hmoves hnot
    exact h ⟨before, _, rest, hsplit, rfl, hmisses⟩

/-- In moves that do not replace the selection, a selected model stays selected exactly if no
selector is applied in which it is not picked. If it was picked in the selector, or the selector was
closed, it can only be lost when a selector is applied in which it has been dropped. If it was not
picked, then the selector does not get it by itself, and it is lost when the selector is applied. -/
theorem keeps_unless_overlooked (hf : f.Reachable) (hn : n.isAmong f.models.models = true)
    {moves : List Move} (hmoves : ¬ Sees after Move.Replaces f moves) :
    (f.Keeps n moves ↔ ¬ Sees after (Move.Overlooks n) f moves) ∧
    (f.Picks n → ¬ f.Keeps n moves → ∃ before rest,
      moves = before ++ .begin .applySelector :: rest ∧ f.Keeps n before ∧
      SeesSince after (Move.Deselects n) (.begin .openSelector) f before) ∧
    (¬ f.Picks n → (∀ m ∈ moves, m ≠ .begin .openSelector ∧ ¬ m.ClosesSelector) →
      ¬ Sees after (Move.Flips n) f moves →
      n.isAmong (f.afterAll moves).models.models = true ∧
      n.isAmong (f.afterAll (moves ++ [.begin .applySelector])).models.models = false) := by
  have hkeeps := keeps_iff hf hn hmoves
  refine ⟨hkeeps, fun hpicks hnot => ?_, fun hpicks hopen hflips => ?_⟩
  · obtain ⟨before, rest, hsplit, hbefore, hmisses⟩ :=
      exists_overlooks_of_not_keeps hf hn hmoves hnot
    exact ⟨before, rest, hsplit, hbefore, (picks_afterAll hf hpicks hbefore).resolve_left hmisses⟩
  · have hmisses : ¬ (f.afterAll moves).Picks n := fun h =>
      hpicks ((picks_afterAll_iff hf.consistent (hf.isVoid_eq_false hn) hopen hflips).1 h)
    -- as the selector stays open, none is applied before the end
    have hselected : n.isAmong (f.afterAll moves).models.models = true := by
      refine hkeeps.2 ?_ moves List.prefix_rfl
      rintro ⟨before, m, rest, rfl, rfl, -⟩
      exact (hopen _ (List.mem_append_right _ List.mem_cons_self)).2 trivial
    have hiff := isAmong_models_after_iff (hf.afterAll moves) hselected
      (m := .begin .applySelector) id
    refine ⟨hselected, ?_⟩
    rw [afterAll_append, ← Bool.not_eq_true]
    exact fun h => hiff.1 h ⟨rfl, hmisses⟩

/-- A model is typed, and the selector is opened. -/
def typedBefore : Form := ({} : Form).afterAll [.begin (.addCustom "o1"), .begin .openSelector]

/-- The selector is opened, and a model is typed. -/
def typedMeanwhile : Form := ({} : Form).afterAll [.begin .openSelector, .begin (.addCustom "o1")]

/-- The model is dropped in the selector, and the selector is applied. -/
def dropping : List Move := [.begin (.pick (.toggle "o1")), .begin .applySelector]

/-- A model that was typed before the selector was opened is lost by dropping it; one that was typed
after that is lost at once. -/
theorem keeps_unless_overlooked_typed :
    (typedBefore.Reachable ∧ Model.Name.isAmong (.text "o1") typedBefore.models.models = true ∧
      ¬ Sees after Move.Replaces typedBefore dropping ∧ typedBefore.Picks (.text "o1") ∧
      ¬ typedMeanwhile.Picks (.text "o1")) ∧
    ¬ typedBefore.Keeps (.text "o1") dropping ∧
    (∃ before rest, dropping = before ++ .begin .applySelector :: rest ∧
      typedBefore.Keeps (.text "o1") before ∧
      SeesSince after (Move.Deselects (.text "o1")) (.begin .openSelector) typedBefore before) ∧
    Model.Name.isAmong (.text "o1") typedMeanwhile.models.models = true ∧
    Model.Name.isAmong (.text "o1")
      (typedMeanwhile.afterAll [.begin .applySelector]).models.models = false := by
  have hreach : typedBefore.Reachable := ⟨none, true, _, rfl⟩
  have hselected : Model.Name.isAmong (.text "o1") typedBefore.models.models = true := by decide
  have hreplaces : ¬ Sees after Move.Replaces typedBefore dropping := by
    rw [dropping, sees_cons, sees_cons]
    rintro (h | h | h)
    · exact h
    · exact h
    · exact not_sees_nil _ _ h
  have hoverlooks : Sees after (Move.Overlooks (.text "o1")) typedBefore dropping :=
    ⟨[.begin (.pick (.toggle "o1"))], _, [], rfl, rfl, by decide⟩
  have hpicks : typedBefore.Picks (.text "o1") := by decide
  have hmisses : ¬ typedMeanwhile.Picks (.text "o1") := by decide
  obtain ⟨hkeeps, hlost, -⟩ := keeps_unless_overlooked hreach hselected hreplaces
  have hnot : ¬ typedBefore.Keeps (.text "o1") dropping := fun h => hkeeps.1 h hoverlooks
  have hmeanwhile : typedMeanwhile.Reachable := ⟨none, true, _, rfl⟩
  obtain ⟨-, -, happlied⟩ := keeps_unless_overlooked hmeanwhile (n := .text "o1") (by decide)
    (not_sees_nil Move.Replaces _)
  exact ⟨⟨hreach, hselected, hreplaces, hpicks, hmisses⟩, hnot, hlost hpicks hnot,
    happlied hmisses (by simp) (not_sees_nil _ _)⟩

/-- The model that was typed after the selector was opened is lost though nobody has dropped it and
nothing else has replaced the selection. -/
theorem isLost_typedMeanwhile :
    let moves : List Move :=
      [.begin .openSelector, .begin (.addCustom "o1"), .begin .applySelector]
    Model.Name.text "o1" ∈ (({} : Form).afterAll (moves.take 2)).models.models ∧
    ¬ Sees after Move.Replaces ({} : Form) moves ∧
    ¬ Sees after (Move.Deselects (.text "o1")) ({} : Form) moves ∧
    (({} : Form).afterAll moves).models.models = [] := by
  intro moves
  refine ⟨by decide, ?_, ?_, by decide⟩
  · rw [sees_cons, sees_cons, sees_cons]
    rintro (h | h | h | h)
    · exact h
    · exact h
    · exact h
    · exact not_sees_nil _ _ h
  · -- none of the moves is an event of the selector
    rw [sees_cons, sees_cons, sees_cons]
    rintro (⟨-, s, e, -, h, -⟩ | ⟨-, s, e, -, h, -⟩ | ⟨-, s, e, -, h, -⟩ | h)
    · simp at h
    · simp at h
    · simp at h
    · exact not_sees_nil _ _ h

end Form

end ChannelConsole.Editor
