import ChannelConsole.Proofs.Editor.Fields
import ChannelConsole.Proofs.Editor.Resaving
import ChannelConsole.Proofs.Model.Provenance

/-!
# What is selected and what is stored

Models and groups are stored as texts with commas between the names. The names of a form are found
again in the stored texts, and in every form that opens the stored channel, exactly if all of them
are plain (`payload_keeps_selection`): a name with a comma in it comes back as several, one with
blanks around it comes back without them, and a blank one does not come back.

Names that are typed are plain (`brings_addCustom`). Others are as plain as the lists that bring
them, which are those that fields are set to, what is picked by its name, catalogs, and the answers
of providers (`Form.Holds.after`): whatever property the names have that moves bring, all names of a
form have it.
-/

namespace ChannelConsole.Editor

open Channel Backend

/-! ### What moves bring -/

namespace Move

/-- The record that a reply to the call for a stored channel brings. -/
def record? (e : Envelope) : Option Payload :=
  if e.success then (Payload.check e.data).toOption else none

theorem record?_of_check {e : Envelope} {p : Payload} (hsuccess : e.success = true)
    (hcheck : Payload.check e.data = .ok p) : record? e = some p := by
  rw [record?, if_pos hsuccess, hcheck]
  rfl

/-- The names of models that a move brings. -/
def names : Move → List Model.Name
  | .begin (.setField field value) =>
    if field = "models" then ((Form.modelNames value).toOption).getD [] else []
  | .begin (.addCustom text) => Model.Name.ofTexts (Model.Resolver.typedNames text)
  | .begin (.pick event) => event.names
  | .reply .catalog (.names xs) => Model.Name.ofTexts xs
  | .reply (.channel _) (.envelope e) =>
    match record? e with
    | some p => Model.Name.ofTexts (Names.split p.models)
    | none => []
  | .reply (.fetch _) (.models xs) => xs
  | .reply .selection (.models xs) => xs
  | _ => []

/-- The groups that a move brings. -/
def groups : Move → List Text
  | .begin (.setField field value) =>
    if field = "groups" then ((Schema.texts value).toOption).getD [] else []
  | .reply (.channel _) (.envelope e) =>
    match record? e with
    | some p => Names.split p.group
    | none => []
  | _ => []

/-- Whether properties hold of the names of models and of the groups that a move brings. -/
structure Brings (P : Model.Name → Prop) (Q : Text → Prop) (m : Move) : Prop where
  names : ∀ n ∈ m.names, P n
  groups : ∀ g ∈ m.groups, Q g

end Move

namespace Form

/-- Whether properties hold of the names of models and of the groups that a form has. -/
structure Holds (P : Model.Name → Prop) (Q : Text → Prop) (f : Form) : Prop where
  isList : f.mangled? = none
  clean : Model.Name.IsClean f.models.models
  models : f.models.Holds P
  selector : ∀ s, f.selector? = some s → s.Holds P
  groups : ∀ g ∈ f.draft.groups, Q g

section

variable {P : Model.Name → Prop} {Q : Text → Prop} {f g : Form}

theorem holds_new (hP : Model.Resolver.HoldsOfFixed P) (hQ : Q "default")
    (channelId? : Option Int) (announces : Bool) :
    ({ channelId?, announces } : Form).Holds P Q where
  isList := rfl
  clean := Model.Name.isClean_nil
  models := Model.Resolver.holds_ofType hP ChannelType.default
  selector _ hs := absurd hs (by simp)
  groups x hx := by
    rw [List.mem_singleton.1 hx]
    exact hQ

namespace Holds

/-- A selector that stays open has no other names, and one that is closed has none. -/
theorem selector_of_eq (h : f.Holds P Q)
    (hselector : g.selector? = f.selector? ∨ g.selector? = none) :
    ∀ s, g.selector? = some s → s.Holds P := by
  intro s hs
  rcases hselector with hselector | hselector
  · exact h.selector s (hselector ▸ hs)
  · rw [hselector] at hs
    exact absurd hs (by simp)

/-- Only the models, the selector and the groups count. -/
theorem of_eq (h : f.Holds P Q) (hlist : g.mangled? = f.mangled?) (hmodels : g.models = f.models)
    (hselector : g.selector? = f.selector? ∨ g.selector? = none)
    (hgroups : g.draft.groups = f.draft.groups) : g.Holds P Q where
  isList := hlist.trans h.isList
  clean := by rw [hmodels]; exact h.clean
  models := by rw [hmodels]; exact h.models
  selector := h.selector_of_eq hselector
  groups := by rw [hgroups]; exact h.groups

/-- An event of the models brings no names but its own. -/
theorem of_step (hP : Model.Resolver.HoldsOfFixed P) (h : f.Holds P Q) {e : Model.Resolver.Event}
    (he : ∀ n ∈ e.names, P n) (hlist : g.mangled? = none)
    (hmodels : g.models = (f.models.step e).1)
    (hselector : g.selector? = f.selector? ∨ g.selector? = none)
    (hgroups : ∀ x ∈ g.draft.groups, Q x) : g.Holds P Q where
  isList := hlist
  clean := by rw [hmodels]; exact Model.Resolver.isClean_step h.clean e
  models := by rw [hmodels]; exact h.models.step hP he
  selector := h.selector_of_eq hselector
  groups := hgroups

theorem notify (h : f.Holds P Q) (n : Notice) : (f.notify n).Holds P Q :=
  h.of_eq rfl rfl (.inl rfl) rfl

end Holds

/-! ### Setting fields -/

/-- Setting a field leaves the groups alone, unless they are set to a list of texts. -/
theorem groups_assign {d d' : Draft} {field : Draft.Field} {v : Json}
    (hassign : d.assign field v = .ok d') :
    d'.groups = d.groups ∨ field = .groups ∧ Schema.texts v = .ok d'.groups := by
  by_cases hfield : field = .groups
  · subst hfield
    obtain ⟨xs, hxs, rfl⟩ := Schema.under_map_eq_ok hassign
    exact .inr ⟨rfl, hxs⟩
  · exact .inl (Draft.groups_of_assign hassign hfield)

theorem Holds.changeType (hP : Model.Resolver.HoldsOfFixed P) (h : f.Holds P Q)
    (channelType : Int) : (f.changeType channelType).1.Holds P Q := by
  have hevent : ∀ n ∈ (Model.Resolver.Event.changeType channelType).names, P n :=
    fun _ hn => absurd hn List.not_mem_nil
  unfold Form.changeType
  simp only
  split
  · exact h.of_step hP hevent rfl rfl (.inl rfl) h.groups
  · exact h.of_step hP hevent h.isList rfl (.inl rfl) h.groups

theorem Holds.setField (hP : Model.Resolver.HoldsOfFixed P) (h : f.Holds P Q) {name : Text}
    {v : Json} (hm : Move.Brings P Q (.begin (.setField name v))) :
    (f.setField name v).1.Holds P Q := by
  have hsets := f.sets_setField name v
  generalize f.setField name v = r at hsets ⊢
  cases hsets with
  | refused => exact h
  | type => exact h.changeType hP _
  | @models v names hnames =>
    have hevent : ∀ n ∈ (Model.Resolver.Event.setModels names).names, P n := by
      intro n hn
      refine hm.names n ?_
      rw [Move.names, if_pos rfl, hnames]
      exact hn
    exact h.of_step hP hevent rfl rfl (.inl rfl) h.groups
  | @address v d hassign =>
    have hevent : ∀ n ∈ Model.Resolver.Event.invalidate.names, P n :=
      fun _ hn => absurd hn List.not_mem_nil
    have hgroups : ∀ x ∈ d.groups, Q x := by
      rw [Draft.groups_of_assign hassign (by decide)]
      exact h.groups
    exact h.of_step hP hevent h.isList rfl (.inl rfl) hgroups
  | @plain field v d htype hfield hassign =>
    refine ⟨h.isList, h.clean, h.models, h.selector, ?_⟩
    rcases groups_assign hassign with hsame | ⟨rfl, htexts⟩
    · show ∀ x ∈ d.groups, Q x
      rw [hsame]
      exact h.groups
    · intro x hx
      refine hm.groups x ?_
      have hname : Draft.Field.groups.label = "groups" := rfl
      rw [Move.groups, if_pos hname, htexts]
      exact hx

/-- No example is a list of groups. -/
theorem Holds.fillTemplate (h : f.Holds P Q) (name : Text) :
    (f.fillTemplate name).1.Holds P Q := by
  have hfills := f.fills_fillTemplate name
  generalize f.fillTemplate name = r at hfills ⊢
  cases hfills with
  | refused => exact h
  | @filled field text d htemplate hname hassign =>
    have hgroups : d.groups = f.draft.groups := by
      rcases groups_assign hassign with hsame | ⟨-, htexts⟩
      · exact hsame
      · simp [Schema.texts, Schema.refuse] at htexts
    exact h.of_eq rfl rfl (.inl rfl) hgroups

/-! ### Models and the selector -/

theorem Holds.addCustom (hP : Model.Resolver.HoldsOfFixed P) (h : f.Holds P Q) {text : Text}
    (hm : Move.Brings P Q (.begin (.addCustom text))) : (f.addCustom text).1.Holds P Q := by
  have hevent : ∀ n ∈ (Model.Resolver.Event.addCustom text).names, P n := hm.names
  unfold Form.addCustom
  split
  · exact h
  · rw [h.isList]
    simp only
    exact h.of_step hP hevent rfl rfl (.inl rfl) h.groups

theorem Holds.applySelector (hP : Model.Resolver.HoldsOfFixed P) (h : f.Holds P Q) :
    f.applySelector.Holds P Q := by
  unfold Form.applySelector
  split
  · rename_i s hs
    have hevent : ∀ n ∈ (Model.Resolver.Event.setModels s.selected).names, P n :=
      (h.selector s hs).selected
    exact h.of_step hP hevent rfl rfl (.inr rfl) h.groups
  · exact h

theorem Holds.withSelector (h : f.Holds P Q) {s : Model.Selector} (hs : s.Holds P) :
    ({ f with selector? := some s } : Form).Holds P Q where
  isList := h.isList
  clean := h.clean
  models := h.models
  selector s' hs' := by
    obtain rfl := Option.some.inj hs'
    exact hs
  groups := h.groups

theorem Holds.startSelector (h : f.Holds P Q) : f.startSelector.1.Holds P Q := by
  have hselected : f.selected = f.models.models := by rw [selected, h.isList]
  have hs : (Model.Selector.ofLists f.selected f.available).Holds P := by
    rw [available, hselected]
    exact Model.Selector.holds_ofLists h.models.models h.models.available
  have hopen := h.withSelector hs
  unfold Form.startSelector
  simp only
  split
  · exact hopen.notify _
  · exact hopen

theorem Holds.finishSelector (h : f.Holds P Q) {names : List Model.Name}
    (hnames : ∀ n ∈ names, P n) : (f.finishSelector names).1.Holds P Q := by
  unfold Form.finishSelector
  split
  · exact h
  · rename_i s hs
    have hevent : ∀ n ∈ (Model.Selector.Event.setAvailable names).names, P n := hnames
    exact (h.withSelector ((h.selector s hs).step hevent)).notify _

theorem Holds.startFetch (h : f.Holds P Q) : f.startFetch.1.Holds P Q := by
  unfold Form.startFetch
  split
  · exact h.notify _
  · exact h

theorem Holds.finishFetch (h : f.Holds P Q) (pending : Model.Resolver.Pending)
    {names : List Model.Name} (hnames : ∀ n ∈ names, P n) :
    (f.finishFetch pending names).1.Holds P Q := by
  rw [finishFetch_of_isList h.isList]
  split
  · exact h.notify _
  · have hmerged : ({ f with
        models := (f.models.finishFetch pending names).1 } : Form).Holds P Q :=
      ⟨h.isList, Model.Resolver.isClean_finishFetch h.clean pending names,
        h.models.finishFetch pending hnames, h.selector, h.groups⟩
    exact hmerged.notify _

/-! ### Opening and saving -/

theorem Holds.reset (hP : Model.Resolver.HoldsOfFixed P) (hQ : Q "default") (h : f.Holds P Q) :
    f.reset.Holds P Q := by
  have hevent : ∀ n ∈ (Model.Resolver.Event.hydrate [] ChannelType.default).names, P n :=
    fun _ hn => absurd hn List.not_mem_nil
  refine h.of_step hP hevent rfl rfl (.inr rfl) ?_
  intro x hx
  rw [List.mem_singleton.1 hx]
  exact hQ

theorem Holds.startChannel (hP : Model.Resolver.HoldsOfFixed P) (h : f.Holds P Q) :
    f.startChannel.1.Holds P Q := by
  have hevent : ∀ n ∈ Model.Resolver.Event.fillBasic.names, P n :=
    fun _ hn => absurd hn List.not_mem_nil
  unfold Form.startChannel
  split
  · exact h
  · exact h.of_step hP hevent rfl rfl (.inl rfl) h.groups

theorem Holds.takeOver (hP : Model.Resolver.HoldsOfFixed P) (h : f.Holds P Q) {opening : Bool}
    {e : Envelope} (hm : Move.Brings P Q (.reply (.channel opening) (.envelope e))) :
    (f.takeOver opening e).1.Holds P Q := by
  have htakes := f.takesOver_takeOver opening e
  generalize f.takeOver opening e = r at htakes ⊢
  cases htakes with
  | refused => exact h.notify _
  | malformed => exact h
  | unloadable => exact h.of_eq rfl rfl (.inl rfl) rfl
  | @loaded p diagnostics hsuccess hcheck hload =>
    have hrecord := Move.record?_of_check hsuccess hcheck
    have hevent : ∀ n ∈ (Model.Resolver.Event.hydrate (Names.split p.models)
        p.channelType).names, P n := by
      intro n hn
      refine hm.names n ?_
      simp only [Move.names, hrecord]
      exact hn
    refine h.of_step hP hevent rfl rfl (.inl rfl) fun x hx => hm.groups x ?_
    simp only [Move.groups, hrecord]
    exact hx

theorem Holds.startSubmit (h : f.Holds P Q) : f.startSubmit.1.Holds P Q := by
  unfold Form.startSubmit
  simp only
  split
  · exact h.of_eq rfl rfl (.inl rfl) rfl
  · split
    · exact h.of_eq rfl rfl (.inr rfl) rfl
    · exact h.of_eq rfl rfl (.inl rfl) rfl
    · exact h.of_eq rfl rfl (.inl rfl) rfl

theorem Holds.saved (hP : Model.Resolver.HoldsOfFixed P) (hQ : Q "default") (h : f.Holds P Q) :
    f.saved.Holds P Q := by
  unfold Form.saved
  by_cases hedit : f.isEdit = true
  · simp only [hedit, if_true]
    exact h.of_eq rfl rfl (.inr rfl) rfl
  · simp only [hedit]
    exact ((h.notify f.savedNotice).reset hP hQ).of_eq rfl rfl (.inr rfl) rfl

theorem Holds.finishSubmit (hP : Model.Resolver.HoldsOfFixed P) (hQ : Q "default")
    (h : f.Holds P Q) (e : Envelope) : (f.finishSubmit e).1.Holds P Q := by
  unfold Form.finishSubmit
  split
  · exact h.saved hP hQ
  · exact h.notify _

/-! ### Moves -/

theorem Holds.start (hP : Model.Resolver.HoldsOfFixed P) (hQ : Q "default") (h : f.Holds P Q)
    {op : Op} (hm : Move.Brings P Q (.begin op)) : (f.start op).1.Holds P Q := by
  -- most operations leave alone what counts, and some are events that bring nothing
  have hsame : ∀ g : Form, g.mangled? = f.mangled? → g.models = f.models →
      g.selector? = f.selector? ∨ g.selector? = none → g.draft.groups = f.draft.groups →
      g.Holds P Q := fun _ => h.of_eq
  have hlocal : ∀ e : Model.Resolver.Event, e.names = [] →
      (f.withModels (f.models.step e).1).Holds P Q := by
    intro e he
    have hevent : ∀ n ∈ e.names, P n := by
      rw [he]
      exact fun _ hn => absurd hn List.not_mem_nil
    exact h.of_step hP hevent rfl rfl (.inl rfl) h.groups
  cases op with
  | setField name value =>
    rw [Form.start, fst_resultOf]
    exact h.setField hP hm
  | changeType channelType => exact h.changeType hP channelType
  | editKeys event =>
    show (f.editKeys event).1.Holds P Q
    have hevent : ∀ n ∈ Model.Resolver.Event.invalidate.names, P n :=
      fun _ hn => absurd hn List.not_mem_nil
    -- a change of the keys makes what is asked for out of date, and no name is lost by it
    by_cases hraw : (f.pool.step event).1.raw = f.pool.raw
    · simp only [editKeys, hraw, if_true]
      exact hsame _ rfl rfl (.inl rfl) rfl
    · simp only [editKeys, hraw, if_false]
      exact h.of_step hP hevent h.isList rfl (.inl rfl) h.groups
  | fillTemplate field =>
    rw [Form.start, fst_resultOf]
    exact h.fillTemplate field
  | addCustom text =>
    rw [Form.start, fst_resultOf]
    exact h.addCustom hP hm
  | clearModels => exact hlocal .clear rfl
  | fillBasic => exact hlocal .fillBasic rfl
  | fillAll => exact hlocal .fillAll rfl
  | fetchModels => exact h.startFetch
  | openSelector => exact h.startSelector
  | pick event =>
    unfold Form.start
    simp only
    split
    · rename_i s hs
      split
      · exact h.withSelector ((h.selector s hs).step hm.names)
      · exact h
    · exact h
  | applySelector => exact h.applySelector hP
  | validate =>
    unfold Form.start Form.validate
    simp only
    split
    · exact h.notify _
    · exact h
  | buildPayload =>
    unfold Form.start
    simp only
    split <;> exact h
  | submit => exact h.startSubmit
  | reset => exact h.reset hP hQ
  | cancelSelector | close => exact hsame _ rfl rfl (.inr rfl) rfl
  | openForm | load | credential event => exact hsame _ rfl rfl (.inl rfl) rfl

theorem Holds.resume (hP : Model.Resolver.HoldsOfFixed P) (hQ : Q "default") (h : f.Holds P Q)
    {w : Waiting} {reply : Reply} (hm : Move.Brings P Q (.reply w reply)) :
    (f.resume w reply).1.Holds P Q := by
  cases w with
  | catalog =>
    cases reply with
    | names xs =>
      have hevent : ∀ n ∈ (Model.Resolver.Event.loadCatalog xs).names, P n := hm.names
      exact h.of_step hP hevent h.isList rfl (.inl rfl) h.groups
    | refused r => exact h.notify _
    | envelope e | models xs | fault fault => exact h
  | groups =>
    cases reply with
    | names xs =>
      -- the groups on offer are none of those that the channel is in
      have hgroups : ({ f with groupOptions := xs } : Form).Holds P Q :=
        h.of_eq rfl rfl (.inl rfl) rfl
      exact hgroups.startChannel hP
    | refused r => exact (h.notify { level := .error, message := r.words }).startChannel hP
    | envelope e | models xs | fault fault => exact h
  | channel opening =>
    cases reply with
    | envelope e => exact h.takeOver hP hm
    | refused r => exact h.notify _
    | names xs | models xs | fault fault => exact h
  | fetch pending =>
    cases reply with
    | models xs => exact h.finishFetch pending hm.names
    | refused r => exact h.notify _
    | envelope e | names xs | fault fault => exact h
  | selection =>
    cases reply with
    | models xs => exact h.finishSelector hm.names
    | refused r => exact h.notify _
    | envelope e | names xs | fault fault => exact h
  | save =>
    cases reply with
    | envelope e => exact h.finishSubmit hP hQ e
    | refused r => exact h.notify _
    | names xs | models xs | fault fault => exact h

/-- Whatever properties the names have that a form has and that a move brings, the form has no other
names after the move. -/
theorem Holds.after (hP : Model.Resolver.HoldsOfFixed P) (hQ : Q "default") (h : f.Holds P Q)
    {m : Move} (hm : m.Brings P Q) : (f.after m).Holds P Q := by
  cases m with
  | begin op => exact h.start hP hQ hm
  | reply w reply => exact h.resume hP hQ hm

theorem Holds.afterAll (hP : Model.Resolver.HoldsOfFixed P) (hQ : Q "default") (h : f.Holds P Q)
    {moves : List Move} (hm : ∀ m ∈ moves, m.Brings P Q) : (f.afterAll moves).Holds P Q := by
  induction moves generalizing f with
  | nil => exact h
  | cons m moves ih =>
    have hfirst := h.after hP hQ (hm m List.mem_cons_self)
    exact ih hfirst fun m' hm' => hm m' (List.mem_cons_of_mem m hm')

end

/-- No model is selected twice or without a name, whatever moves bring. -/
theorem isClean_afterAll (channelId? : Option Int) (announces : Bool) (moves : List Move) :
    Model.Name.IsClean (({ channelId?, announces } : Form).afterAll moves).models.models := by
  have hfixed : Model.Resolver.HoldsOfFixed fun _ => True := fun _ _ _ _ _ => trivial
  have hmoves : ∀ m ∈ moves, m.Brings (fun _ => True) (fun _ => True) :=
    fun _ _ => ⟨fun _ _ => trivial, fun _ _ => trivial⟩
  have hnew := holds_new (Q := fun _ => True) hfixed trivial channelId? announces
  exact (hnew.afterAll hfixed trivial hmoves).clean

/-! ### The record of a form -/

variable {f g : Form} {p : Payload}

theorem bind_eq_ok {α β : Type} {x : Except Fault α} {k : α → Except Fault β} {b : β}
    (h : x >>= k = .ok b) : ∃ a, x = .ok a ∧ k a = .ok b := by
  cases x with
  | error fault => exact absurd h (by simp [bind, Except.bind])
  | ok a => exact ⟨a, rfl, h⟩

/-- A record has the selected models, which must be named by texts, and the groups. -/
theorem payload_eq_ok (h : f.payload = .ok p) :
    ∃ xs, f.models.models = Model.Name.ofTexts xs ∧ p.models = Text.join xs ∧
      p.group = Text.join f.draft.groups := by
  unfold payload at h
  split at h
  · simp at h
  obtain ⟨other, -, h⟩ := bind_eq_ok h
  obtain ⟨models, hmodels, h⟩ := bind_eq_ok h
  obtain ⟨modelMapping, -, h⟩ := bind_eq_ok h
  obtain ⟨statusCodeMapping, -, h⟩ := bind_eq_ok h
  obtain ⟨setting, -, h⟩ := bind_eq_ok h
  obtain ⟨paramOverride, -, h⟩ := bind_eq_ok h
  obtain rfl := Except.ok.inj h
  unfold modelText at hmodels
  split at hmodels
  · rename_i htext
    exact ⟨Model.Name.texts f.models.models, (Model.Name.ofTexts_texts htext).symm,
      (Except.ok.inj hmodels).symm, rfl⟩
  · simp at hmodels

/-- A form that opens a record has its models, without repetitions, and its groups. -/
theorem lists_of_opens (h : f.Opens p g) :
    g.models.models = Model.Name.ofTexts (Names.unique (Names.split p.models)) ∧
      g.draft.groups = Names.split p.group := by
  obtain ⟨diagnostics, rfl⟩ := eq_of_hydrate (hydrate_of_opens h)
  exact ⟨Model.Name.unique_ofTexts _, rfl⟩

/-! ### What is found again -/

/-- Whether a name is plain, if it is a text. -/
def IsPlainName (n : Model.Name) : Prop := ∀ s, n = .text s → Names.IsPlain s

theorem holdsOfFixed_isPlainName : Model.Resolver.HoldsOfFixed IsPlainName := by
  have hknown : ∀ profile ∈ ChannelType.known, ∀ models, profile.fixedModels? = some models →
      ∀ s ∈ models, Names.IsPlain s := by decide
  intro code models hmodels s hs t ht
  obtain rfl := Model.Name.text.inj ht
  unfold ChannelType.profile at hmodels
  cases hfound : ChannelType.known.find? (·.code == code) with
  | none => simp [hfound, ChannelType.general] at hmodels
  | some profile =>
    rw [hfound] at hmodels
    exact hknown profile (List.mem_of_find?_eq_some hfound) models hmodels s hs

/-- Names that are typed are plain. -/
theorem brings_addCustom (text : Text) :
    Move.Brings IsPlainName Names.IsPlain (.begin (.addCustom text)) where
  names n hn := by
    obtain ⟨s, hs, rfl⟩ := List.mem_map.1 hn
    intro t ht
    obtain rfl := Model.Name.text.inj ht
    exact Model.Resolver.isPlain_of_mem_typedNames hs
  groups _ hx := absurd hx List.not_mem_nil

/-- The selected models and the groups of a form are found again, in order, in the record that it
stands for, and in every form that opens this record, exactly if all of them are plain. They are if
all moves of the form have brought plain names. -/
theorem payload_keeps_selection {channelId? : Option Int} {announces : Bool} {moves : List Move}
    (hf : f = ({ channelId?, announces } : Form).afterAll moves) (hp : f.payload = .ok p) :
    ∃ xs, f.models.models = Model.Name.ofTexts xs ∧
      (Names.split p.models = xs ↔ ∀ x ∈ xs, Names.IsPlain x) ∧
      (Names.split p.group = f.draft.groups ↔ ∀ x ∈ f.draft.groups, Names.IsPlain x) ∧
      (∀ f' g' : Form, f'.Opens p g' →
        (g'.models.models = f.models.models ↔ ∀ x ∈ xs, Names.IsPlain x) ∧
        (g'.draft.groups = f.draft.groups ↔ ∀ x ∈ f.draft.groups, Names.IsPlain x)) ∧
      ((∀ m ∈ moves, m.Brings IsPlainName Names.IsPlain) →
        (∀ x ∈ xs, Names.IsPlain x) ∧ ∀ x ∈ f.draft.groups, Names.IsPlain x) := by
  obtain ⟨xs, hxs, hmodels, hgroup⟩ := payload_eq_ok hp
  have hgroups : Names.split p.group = f.draft.groups ↔
      ∀ x ∈ f.draft.groups, Names.IsPlain x := by
    rw [hgroup]
    exact Names.split_join_eq_self_iff
  -- the selection has no repetitions, so none are removed from what is found again
  have hclean : Names.unique xs = xs := by
    have hclean := isClean_afterAll channelId? announces moves
    rw [← hf, hxs] at hclean
    have hunique := hclean.unique_eq
    rw [Model.Name.unique_ofTexts] at hunique
    exact Model.Name.ofTexts_inj.1 hunique
  refine ⟨xs, hxs, ?_, hgroups, ?_, ?_⟩
  · rw [hmodels]
    exact Names.split_join_eq_self_iff
  · intro f' g' hopens
    obtain ⟨hmodels', hgroups'⟩ := lists_of_opens hopens
    rw [hmodels', hgroups', hxs, Model.Name.ofTexts_inj, hmodels]
    exact ⟨Names.unique_split_join_eq_self_iff hclean, hgroups⟩
  · intro hmoves
    have hall := (holds_new holdsOfFixed_isPlainName (Q := Names.IsPlain) (by decide) channelId?
      announces).afterAll holdsOfFixed_isPlainName (by decide) hmoves
    rw [← hf] at hall
    refine ⟨fun x hx => ?_, hall.groups⟩
    have hname : IsPlainName (.text x) := by
      refine hall.models.models _ ?_
      rw [hxs]
      exact List.mem_map_of_mem hx
    exact hname x rfl

/-- Models are listed and typed, and groups are listed. -/
def listing : List Move :=
  [.begin (.setField "models" (.arr [.str "gpt-4o"])), .begin (.addCustom "o1, o3-mini"),
    .begin (.setField "groups" (.arr [.str "vip", .str "default"]))]

theorem payload_keeps_selection_listing :
    (({} : Form).afterAll listing).payload =
        .ok { models := "gpt-4o,o1,o3-mini", group := "vip,default" } ∧
      (({} : Form).afterAll listing).models.models =
        Model.Name.ofTexts (Names.split "gpt-4o,o1,o3-mini") ∧
      (({} : Form).afterAll listing).draft.groups = Names.split "vip,default" := by
  have hpayload : (({} : Form).afterAll listing).payload =
      .ok { models := "gpt-4o,o1,o3-mini", group := "vip,default" } := rfl
  have hmodels : Move.Brings IsPlainName Names.IsPlain
      (.begin (.setField "models" (.arr [.str "gpt-4o"]))) := by
    refine ⟨fun n hn t ht => ?_, fun _ hx => absurd hx List.not_mem_nil⟩
    obtain rfl := List.mem_singleton.1 hn
    obtain rfl := Model.Name.text.inj ht
    decide
  have hgroups : Move.Brings IsPlainName Names.IsPlain
      (.begin (.setField "groups" (.arr [.str "vip", .str "default"]))) := by
    refine ⟨fun _ hn => absurd hn List.not_mem_nil, ?_⟩
    show ∀ g ∈ (["vip", "default"] : List Text), Names.IsPlain g
    decide
  have hmoves : ∀ m ∈ listing, m.Brings IsPlainName Names.IsPlain := by
    intro m hm
    simp only [listing, List.mem_cons, List.not_mem_nil, or_false] at hm
    rcases hm with rfl | rfl | rfl
    · exact hmodels
    · exact brings_addCustom "o1, o3-mini"
    · exact hgroups
  obtain ⟨xs, hxs, hfound, hfoundGroups, -, hplain⟩ :=
    payload_keeps_selection (f := ({} : Form).afterAll listing) rfl hpayload
  obtain ⟨hplainModels, hplainGroups⟩ := hplain hmoves
  refine ⟨hpayload, ?_, (hfoundGroups.2 hplainGroups).symm⟩
  rw [hxs, hfound.2 hplainModels]

/-- One model with a comma in its name is stored as two, and two are selected when the channel is
opened again. -/
theorem payload_splits_comma :
    ∃ f g : Form, ∃ p, f = ({ channelId? := some 7 } : Form).afterAll
        [.begin (.setField "models" (.arr [.str "gpt-4o,o1"]))] ∧
      f.validate.2 = none ∧ f.payload = .ok p ∧ f.models.models = [.text "gpt-4o,o1"] ∧
      Names.split p.models = (["gpt-4o", "o1"] : List Text) ∧ f.Opens p g ∧
      g.models.models = [.text "gpt-4o", .text "o1"] := by
  have hload : Payload.IsLoadable { id? := some 7, models := "gpt-4o,o1" } := by
    intro field
    exact ⟨{ value := "" }, by cases field <;> rfl⟩
  obtain ⟨g, hopens⟩ := opens_of_isLoadable (({ channelId? := some 7 } : Form).afterAll
    [.begin (.setField "models" (.arr [.str "gpt-4o,o1"]))]) hload
  refine ⟨_, g, _, rfl, rfl, rfl, rfl, by decide, hopens, ?_⟩
  rw [(lists_of_opens hopens).1]
  decide

end Form

end ChannelConsole.Editor
