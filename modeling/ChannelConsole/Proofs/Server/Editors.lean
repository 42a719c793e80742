import ChannelConsole.Proofs.Editor.Agreement
import ChannelConsole.Proofs.Server.Run

/-!
# The editors of a server

The forms of a server change by moves that requests can ask for, and whatever was said in them is
forgotten once it was told. A property of forms that survives both (`Editor.Form.IsKept`) holds of
the forms of all open editors at any time (`Server.Reachable.allForms`). In particular the parts of
these forms agree about the type (`Server.Reachable.agrees`).
-/

namespace ChannelConsole

open Backend Channel Editor
open Network (Link Request Response)

namespace Editor

/-- Whether a property of forms holds from the beginning, whatever requests ask for and whenever it
was told what was said. -/
structure Form.IsKept (P : Form → Prop) : Prop where
  new : ∀ channelId?, P { channelId? }
  drained : ∀ f, P f → P f.drained
  after : ∀ (f : Form) (m : Move), m.IsOffered → P f → P (f.after m)

/-- What each move keeps, an operation keeps. -/
theorem Form.IsKept.perform {P : Form → Prop} (hP : Form.IsKept P) {f : Form} {op : Op}
    (hop : (Move.begin op).IsOffered) (h : P f) {σ : Type} (answer : σ → Call → σ × Reply) (s : σ) :
    P (f.perform answer s op).2.1 := by
  refine perform_induction (P := fun _ x => P x.1) ?_ ?_ (hP.after f (.begin op) hop h)
  · intro s g call w hg
    exact hP.after g (.reply w (answer s call).2) trivial hg
  · exact fun _ _ _ _ hg => hg

/-- Whether a property holds of the forms of all open editors. -/
def Sessions.AllForms (P : Form → Prop) (s : Sessions) : Prop := ∀ e ∈ s.live, P e.form

namespace Sessions.AllForms

variable {P : Form → Prop} {s : Sessions} {e : Session}

theorem put (h : s.AllForms P) (he : P e.form) : (s.put e).AllForms P := by
  intro e' he'
  obtain ⟨old, hold, rfl⟩ := List.mem_map.1 he'
  split
  · exact he
  · exact h old hold

theorem add (h : s.AllForms P) (he : P e.form) : (s.add e).AllForms P := by
  intro e' he'
  rcases List.mem_append.1 he' with he' | he'
  · exact h e' he'
  · rw [List.mem_singleton.1 he']
    exact he

theorem discard (h : s.AllForms P) (id : Text) : (s.discard id).AllForms P :=
  fun e he => h e (List.mem_of_mem_filter he)

theorem purge (h : s.AllForms P) (ttl now : Int) : (s.purge ttl now).AllForms P :=
  fun e he => h e (List.mem_of_mem_filter he)

theorem use (h : s.AllForms P) (ttl now : Int) (id : Text) :
    (s.use ttl now id).1.AllForms P ∧ ∀ e, (s.use ttl now id).2 = some e → P e.form := by
  unfold Sessions.use
  cases hfind : s.find? id with
  | none => exact ⟨h, fun e he => by cases he⟩
  | some old =>
    have hold : P old.form := h old (List.mem_of_find?_eq_some hfind)
    simp only
    split
    · exact ⟨h.discard id, fun e he => by cases he⟩
    · refine ⟨h.put hold, fun e he => ?_⟩
      obtain rfl := Option.some.inj he
      exact hold

end Sessions.AllForms

end Editor

namespace Server

variable {P : Form → Prop} {s : Server}

/-- Whether a property holds of the forms of all open editors of a server. -/
def AllForms (P : Form → Prop) (s : Server) : Prop := s.editors.AllForms P

/-! ### Operations on an editor -/

/-- What a body asks to be done with the models is no change of the keys. -/
theorem isOffered_modelOp {v : Json} {op : Op} (h : modelOp v = .ok op) :
    (Move.begin op).IsOffered := by
  unfold modelOp at h
  split at h
  · cases h
  · obtain ⟨make', names, hmake', -, rfl⟩ := Schema.and_eq_ok_iff.1 h
    obtain ⟨make, value, hmake, -, rfl⟩ := Schema.and_eq_ok_iff.1 hmake'
    obtain ⟨word, hmem⟩ := mem_of_required hmake
    have hall : ∀ a ∈ modelActions, (Move.begin (a.2 value names)).IsOffered := by
      intro a ha
      simp only [modelActions, List.mem_cons, List.not_mem_nil, or_false] at ha
      rcases ha with rfl | rfl | rfl | rfl | rfl | rfl <;> exact trivial
    exact hall _ hmem

theorem isOffered_selectorOp {v : Json} {op : Op} (h : selectorOp v = .ok op) :
    (Move.begin op).IsOffered := by
  unfold selectorOp at h
  split at h
  · cases h
  · obtain ⟨make, value, hmake, -, rfl⟩ := Schema.and_eq_ok_iff.1 h
    obtain ⟨word, hmem⟩ := mem_of_required hmake
    have hall : ∀ a ∈ selectorActions, (Move.begin (a.2 value)).IsOffered := by
      intro a ha
      simp only [selectorActions, List.mem_cons, List.not_mem_nil, or_false] at ha
      rcases ha with rfl | rfl | rfl | rfl | rfl | rfl | rfl <;> exact trivial
    exact hall _ hmem

theorem isOffered_fieldOp {name : Text} {v : Json} {op : Op} (h : fieldOp name v = .ok op) :
    (Move.begin op).IsOffered := by
  unfold fieldOp at h
  split at h
  · cases hcode : Form.typeCode v with
    | error fault =>
      rw [hcode] at h
      cases h
    | ok code =>
      rw [hcode] at h
      obtain rfl := Except.ok.inj h
      exact trivial
  · obtain rfl := Except.ok.inj h
    exact trivial

theorem allForms_tell (hP : Form.IsKept P) (h : s.AllForms P) (e : Session) {f : Form} (hf : P f)
    (a : Answer) : (s.tell e f a).1.AllForms P := by
  unfold tell
  split
  · exact h.put (hP.drained f hf)
  · exact h.put hf

theorem allForms_operate (hP : Form.IsKept P) (h : s.AllForms P) {e : Session} (he : P e.form)
    {op : Op} (hop : (Move.begin op).IsOffered) : (s.operate e op).1.AllForms P := by
  have hf : P (s.perform e.form op).2.1 := hP.perform hop he answerCall (s.store, s.link)
  have hs : (s.perform e.form op).1.AllForms P := h
  unfold operate
  generalize s.perform e.form op = x at hf hs ⊢
  obtain ⟨s', f, r⟩ := x
  have hkeep : (s'.keep e f).AllForms P := hs.put hf
  simp only
  split
  · exact hkeep
  · exact allForms_tell hP hs e hf _
  · split
    · exact hkeep
    · exact hkeep

theorem allForms_withBody {α : Type} (h : s.AllForms P) {check : Json → Schema.Checked α}
    {body? : Option Json} {next : α → Server × Response}
    (hnext : ∀ v a, check v = .ok a → (next a).1.AllForms P) :
    (s.withBody check body? next).1.AllForms P := by
  unfold withBody
  split
  · rename_i a ha
    cases body? with
    | none => cases ha
    | some v =>
      cases hcheck : check v with
      | error issues =>
        rw [checkBody, hcheck] at ha
        cases ha
      | ok b =>
        rw [checkBody, hcheck] at ha
        obtain rfl := Except.ok.inj ha
        exact hnext v b hcheck
  · exact h

theorem allForms_act (hP : Form.IsKept P) (h : s.AllForms P) {e : Session} (he : P e.form)
    (action : Action) (body? : Option Json) : (s.act e action body?).1.AllForms P := by
  cases action with
  | look => exact allForms_tell hP h e he .nothing
  | keys => exact allForms_withBody h fun v event hevent => allForms_operate hP h he ⟨v, hevent⟩
  | field name =>
    refine allForms_withBody h fun _ v _ => ?_
    unfold setField
    split
    · rename_i op hop
      exact allForms_operate hP h he (isOffered_fieldOp hop)
    · split
      · exact h
      · exact h
  | template field => exact allForms_operate hP h he trivial
  | models =>
    exact allForms_withBody h fun v op hop => allForms_operate hP h he (isOffered_modelOp hop)
  | selector =>
    exact allForms_withBody h fun v op hop => allForms_operate hP h he (isOffered_selectorOp hop)
  | submit => exact allForms_operate hP h he trivial

theorem allForms_inEditor (hP : Form.IsKept P) (h : s.AllForms P) (id : Text) (action : Action)
    (body? : Option Json) : (s.inEditor id action body?).1.AllForms P := by
  have huse := Sessions.AllForms.use h s.idleTime s.now id
  unfold inEditor
  generalize s.editors.use s.idleTime s.now id = x at huse ⊢
  obtain ⟨editors, e?⟩ := x
  obtain ⟨heditors, hfound⟩ := huse
  cases e? with
  | none => exact heditors
  | some e => exact allForms_act (s := { s with editors }) hP heditors (hfound e rfl) action body?

theorem allForms_openEditor (hP : Form.IsKept P) (h : s.AllForms P) (channelId? : Option Int) :
    (s.openEditor channelId?).1.AllForms P := by
  have hpurge : ((s.editors.purge s.idleTime s.now).takeName.1).AllForms P :=
    Sessions.AllForms.purge h s.idleTime s.now
  unfold openEditor
  generalize (s.editors.purge s.idleTime s.now).takeName = named at hpurge ⊢
  obtain ⟨editors, id⟩ := named
  let s₁ : Server := { s with editors }
  have hop : (Move.begin .openForm).IsOffered := trivial
  have hf : P (s₁.perform { channelId? } .openForm).2.1 :=
    hP.perform hop (hP.new channelId?) answerCall (s₁.store, s₁.link)
  have hs₁ : (s₁.perform { channelId? } .openForm).1.AllForms P := hpurge
  simp only
  generalize s₁.perform { channelId? } .openForm = x at hf hs₁ ⊢
  obtain ⟨s₂, f, r⟩ := x
  cases r with
  | error fault => exact hs₁
  | ok a =>
    let e : Session := { id, form := f, lastUsed := s₂.now }
    have hadd : ({ s₂ with editors := s₂.editors.add e } : Server).AllForms P :=
      Sessions.AllForms.add hs₁ hf
    exact allForms_tell hP hadd e hf a

/-! ### Requests -/

theorem allForms_serve (hP : Form.IsKept P) (h : s.AllForms P) (token : Text) (route : Route)
    (body? : Option Json) : (s.serve token route body?).1.AllForms P := by
  cases route with
  | editor id action => exact allForms_inEditor hP h id action body?
  | openEditor => exact allForms_withBody h fun _ id? _ => allForms_openEditor hP h id?
  | closeEditor id =>
    show (s.closeEditor id).1.AllForms P
    unfold closeEditor
    split
    · exact h
    · exact Sessions.AllForms.discard h id
  | login =>
    refine allForms_withBody h fun _ attempt _ => ?_
    unfold login
    split
    · exact h
    · exact h
    · exact h
  | createChannel =>
    refine allForms_withBody h fun _ p _ => ?_
    unfold createChannel
    split
    · exact h
    · generalize s.store.create p = x
      exact h
  | updateChannel =>
    refine allForms_withBody h fun _ p _ => ?_
    unfold updateChannel
    generalize s.store.update p = x
    exact h
  | fetchModels =>
    refine allForms_withBody h fun _ r _ => ?_
    unfold fetchModels
    generalize Store.fetchModels s.link r.channelType r.baseUrl r.key = x
    exact h
  | fetchModelsById id =>
    show (s.withChecked (channelId id) s.fetchModelsById).1.AllForms P
    unfold withChecked fetchModelsById
    split
    · rename_i id _
      generalize s.store.fetchModelsById s.link id = x
      exact h
    · exact h
  | getChannel id =>
    show (s.withChecked (channelId id) _).1.AllForms P
    unfold withChecked
    split
    · exact h
    · exact h
  | documentation | health | logout | verify | listCatalog | listGroups => exact h

theorem allForms_answer (hP : Form.IsKept P) (h : s.AllForms P) (route : Route)
    (authorization? : Option Text) (body? : Option Json) :
    (s.answer route authorization? body?).1.AllForms P := by
  unfold answer
  split
  · exact allForms_serve hP h "" route body?
  · split
    · exact h
    · exact allForms_serve hP h _ route body?

theorem allForms_handle (hP : Form.IsKept P) (h : s.AllForms P) (r : Request) :
    (s.handle r).1.AllForms P := by
  have hrespond : (s.respond r).1.AllForms P := by
    unfold respond
    split
    · exact h
    · exact h
    · exact h
    · rename_i route _
      split
      · exact h
      · rename_i body? _
        have hanswer := allForms_answer hP h route r.authorization? body?
        generalize s.answer route r.authorization? body? = x at hanswer ⊢
        exact hanswer
  unfold handle
  generalize s.respond r = x at hrespond ⊢
  exact hrespond

/-! ### Runs -/

theorem AllForms.after (hP : Form.IsKept P) (h : s.AllForms P) (e : Event) :
    (s.after e).AllForms P := by
  cases e with
  | request r => exact allForms_handle hP h r
  | wait time | sweep | relink link => exact h

theorem AllForms.afterAll (hP : Form.IsKept P) (h : s.AllForms P) (events : List Event) :
    (s.afterAll events).AllForms P := by
  induction events generalizing s with
  | nil => exact h
  | cons e events ih => exact ih (AllForms.after hP h e)

/-- A property that forms keep holds of the forms of all open editors. -/
theorem Reachable.allForms (hP : Form.IsKept P) (hs : s.Reachable) : s.AllForms P := by
  obtain ⟨settings, events, rfl⟩ := hs
  have hnone : (ofSettings settings).AllForms P := fun _ he => absurd he List.not_mem_nil
  exact AllForms.afterAll hP hnone events

/-- To be told what was said changes nothing about the type. -/
theorem isKept_inStep : Form.IsKept Form.InStep where
  new channelId? := Form.inStep_new channelId? true
  drained _ h :=
    ⟨⟨h.consistent.isList, h.consistent.channelType⟩, h.shares, h.current, h.allowed⟩
  after _ _ hm h := h.after hm

/-- The parts of every open editor agree about the type, whatever requests have come. -/
theorem Reachable.agrees (hs : s.Reachable) : ∀ e ∈ s.editors.live, e.form.Agrees :=
  fun e he => (hs.allForms isKept_inStep e he).agrees

end Server

end ChannelConsole
