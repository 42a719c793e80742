import ChannelConsole.Proofs.Store.History
import ChannelConsole.Server

/-!
# Runs of a server

Whatever a request asks for, and whatever is done in an editor because of it, the stored channels
change by calls only (`Consults`). Beyond that a login gives out a token and a logout takes one back
(`changes_handle`). So a server that can come about from its settings holds a store that reflects
its history, and the tokens that it has given out are not empty (`Reachable.isSound`).
-/

namespace ChannelConsole

open Backend Editor
open Network (Link Request)

/-- What answers the calls of an editor after several calls. -/
def Editor.Form.callsAll {σ : Type} (answer : σ → Call → σ × Reply) (s : σ) (calls : List Call) :
    σ := calls.foldl (fun s call => (answer s call).1) s

/-- Whoever answers the calls of an operation is changed by these calls only. -/
theorem Editor.Form.perform_calls {σ : Type} (answer : σ → Call → σ × Reply) (s : σ) (f : Form)
    (op : Op) : ∃ calls, (f.perform answer s op).1 = callsAll answer s calls := by
  refine perform_induction (P := fun s' _ => ∃ calls, s' = callsAll answer s calls) ?_ ?_ ⟨[], rfl⟩
  · rintro _ g call w ⟨calls, rfl⟩
    refine ⟨calls ++ [call], ?_⟩
    rw [callsAll, callsAll, List.foldl_append]
    rfl
  · exact fun _ _ _ _ h => h

namespace Server

/-- Whether a server comes from another one by calls to its store alone, apart from its editors. -/
structure Consults (s s' : Server) : Prop where
  calls : ∃ calls, (s'.store, s'.link) = Form.callsAll answerCall (s.store, s.link) calls
  access : s'.access = s.access
  now : s'.now = s.now
  settings : s'.settings = s.settings

variable {s s' s'' : Server}

theorem Consults.refl (s : Server) : s.Consults s := ⟨⟨[], rfl⟩, rfl, rfl, rfl⟩

theorem Consults.trans (h : s.Consults s') (h' : s'.Consults s'') : s.Consults s'' where
  calls := by
    obtain ⟨calls, hcalls⟩ := h.calls
    obtain ⟨calls', hcalls'⟩ := h'.calls
    refine ⟨calls ++ calls', ?_⟩
    rw [hcalls', hcalls, Form.callsAll, Form.callsAll, Form.callsAll, List.foldl_append]
  access := h'.access.trans h.access
  now := h'.now.trans h.now
  settings := h'.settings.trans h.settings

/-- One call is asked of the store. -/
theorem Consults.ofCall {call : Call} {b : Store × Link Provider.Request}
    (h : (answerCall (s.store, s.link) call).1 = b) :
    s.Consults { s with store := b.1, link := b.2 } :=
  ⟨⟨[call], h.symm⟩, rfl, rfl, rfl⟩

/-! ### Editors -/

theorem consults_perform (s : Server) (f : Form) (op : Op) : s.Consults (s.perform f op).1 where
  calls := Form.perform_calls answerCall (s.store, s.link) f op
  access := rfl
  now := rfl
  settings := rfl

theorem consults_editors (s : Server) (editors : Sessions) : s.Consults { s with editors } :=
  ⟨⟨[], rfl⟩, rfl, rfl, rfl⟩

theorem consults_keep (s : Server) (e : Session) (f : Form) : s.Consults (s.keep e f) :=
  consults_editors s _

theorem consults_tell (s : Server) (e : Session) (f : Form) (a : Answer) :
    s.Consults (s.tell e f a).1 := by
  unfold tell
  split
  · exact consults_keep s e _
  · exact consults_keep s e _

theorem consults_operate (s : Server) (e : Session) (op : Op) : s.Consults (s.operate e op).1 := by
  have hperform := consults_perform s e.form op
  unfold operate
  split
  rename_i s' f r hr
  rw [hr] at hperform
  split
  · exact hperform.trans (consults_keep s' e f)
  · exact hperform.trans (consults_tell s' e f _)
  · split
    · exact hperform.trans (consults_keep s' e f)
    · exact hperform.trans (consults_keep s' e f)

theorem consults_withBody {α : Type} (s : Server) (check : Json → Schema.Checked α)
    (body? : Option Json) {next : α → Server × Network.Response}
    (h : ∀ a, s.Consults (next a).1) : s.Consults (s.withBody check body? next).1 := by
  unfold withBody
  split
  · exact h _
  · exact .refl s

theorem consults_withChecked {α : Type} (s : Server) (c : Schema.Checked α)
    {next : α → Server × Network.Response} (h : ∀ a, s.Consults (next a).1) :
    s.Consults (s.withChecked c next).1 := by
  unfold withChecked
  split
  · exact h _
  · exact .refl s

theorem consults_openEditor (s : Server) (channelId? : Option Int) :
    s.Consults (s.openEditor channelId?).1 := by
  unfold openEditor
  split
  rename_i editors id _
  -- the form is opened before its session is added
  have hopen := consults_editors s editors
  have hperform := hopen.trans (consults_perform { s with editors } { channelId? } .openForm)
  split
  rename_i s' f r hr
  rw [hr] at hperform
  split
  · exact hperform
  · rename_i a
    have hadd := consults_editors s' (s'.editors.add { id, form := f, lastUsed := s'.now })
    exact hperform.trans (hadd.trans (consults_tell _ _ f a))

theorem consults_inEditor (s : Server) (id : Text) (action : Action) (body? : Option Json) :
    s.Consults (s.inEditor id action body?).1 := by
  unfold inEditor
  split
  · exact consults_editors s _
  · rename_i editors e _
    refine (consults_editors s editors).trans ?_
    cases action with
    | look => exact consults_tell _ e _ _
    | keys => exact consults_withBody _ _ _ fun event => consults_operate _ e _
    | field name =>
      refine consults_withBody _ _ _ fun v => ?_
      unfold setField
      split
      · exact consults_operate _ e _
      · split <;> exact .refl _
    | template field => exact consults_operate _ e _
    | models => exact consults_withBody _ _ _ fun op => consults_operate _ e op
    | selector => exact consults_withBody _ _ _ fun op => consults_operate _ e op
    | submit => exact consults_operate _ e _

/-! ### Requests -/

theorem consults_createChannel (s : Server) (p : Channel.Payload) :
    s.Consults (s.createChannel p).1 := by
  unfold createChannel
  split
  · exact .refl s
  generalize hrun : s.store.create p = r
  obtain ⟨store, r⟩ := r
  have hcall : (answerCall (s.store, s.link) (.createChannel p)).1 = (store, s.link) := by
    simp only [answerCall, Store.answer, hrun]
  exact Consults.ofCall hcall

theorem consults_updateChannel (s : Server) (p : Channel.Payload) :
    s.Consults (s.updateChannel p).1 := by
  unfold updateChannel
  generalize hrun : s.store.update p = r
  obtain ⟨store, r⟩ := r
  have hcall : (answerCall (s.store, s.link) (.updateChannel p)).1 = (store, s.link) := by
    simp only [answerCall, Store.answer, hrun]
  exact Consults.ofCall hcall

theorem consults_fetchModels (s : Server) (r : Channel.FetchRequest) :
    s.Consults (s.fetchModels r).1 := by
  unfold fetchModels
  generalize hrun : Store.fetchModels s.link r.channelType r.baseUrl r.key = x
  obtain ⟨link, names⟩ := x
  have hcall : (answerCall (s.store, s.link) (.fetchModels r.channelType r.baseUrl r.key)).1 =
      (s.store, link) := by
    simp only [answerCall, Store.answer, hrun]
  exact Consults.ofCall hcall

theorem consults_fetchModelsById (s : Server) (id : Int) :
    s.Consults (s.fetchModelsById id).1 := by
  unfold fetchModelsById
  generalize hrun : s.store.fetchModelsById s.link id = x
  obtain ⟨link, names⟩ := x
  have hcall : (answerCall (s.store, s.link) (.fetchModelsById id)).1 = (s.store, link) := by
    simp only [answerCall, Store.answer, hrun]
  exact Consults.ofCall hcall

/-- What a request can do to a server: calls are asked of the store, a token is given out, or one is
taken back. -/
inductive Changes (s : Server) : Server → Prop where
  | consults {s' : Server} (h : s.Consults s') : Changes s s'
  | issued (lifetime : Int) : Changes s { s with access := (s.access.issue s.now lifetime).1 }
  | revoked (token : Text) : Changes s { s with access := s.access.revoke token }

theorem changes_login (s : Server) (attempt : Text) : s.Changes (s.login attempt).1 := by
  unfold login
  split
  · exact .consults (.refl s)
  · exact .consults (.refl s)
  · exact .issued (s.tokenSeconds * second)

/-- A route that is neither for logging in nor for logging out asks for calls only. -/
theorem consults_serve (s : Server) (token : Text) {route : Route} (body? : Option Json)
    (hlogin : route ≠ .login) (hlogout : route ≠ .logout) :
    s.Consults (s.serve token route body?).1 := by
  cases route with
  | login => exact absurd rfl hlogin
  | logout => exact absurd rfl hlogout
  | fetchModels => exact consults_withBody s _ _ (consults_fetchModels s)
  | fetchModelsById id => exact consults_withChecked s _ (consults_fetchModelsById s)
  | getChannel id => exact consults_withChecked s _ fun _ => .refl s
  | createChannel => exact consults_withBody s _ _ (consults_createChannel s)
  | updateChannel => exact consults_withBody s _ _ (consults_updateChannel s)
  | openEditor => exact consults_withBody s _ _ (consults_openEditor s)
  | closeEditor id =>
    show s.Consults (s.closeEditor id).1
    unfold closeEditor
    split
    · exact .refl s
    · exact consults_editors s _
  | editor id action => exact consults_inEditor s id action body?
  | documentation | health | verify | listCatalog | listGroups => exact .refl s

theorem changes_serve (s : Server) (token : Text) (route : Route) (body? : Option Json) :
    s.Changes (s.serve token route body?).1 := by
  by_cases hlogin : route = .login
  · subst hlogin
    show s.Changes (s.withBody passwordIn body? s.login).1
    unfold withBody
    split
    · exact changes_login s _
    · exact .consults (.refl s)
  by_cases hlogout : route = .logout
  · subst hlogout
    exact .revoked token
  exact .consults (consults_serve s token body? hlogin hlogout)

/-- What holds of a server, and of what is left of it when a route is served, holds of what is left
of it when a request is answered. -/
theorem handle_induction {P : Server → Prop} {r : Request} (hself : P s)
    (hserve : ∀ route token body?, resolve r.method r.path = .found route →
      P (s.serve token route body?).1) : P (s.handle r).1 := by
  have hrespond : P (s.respond r).1 := by
    unfold respond
    split
    · exact hself
    · exact hself
    · exact hself
    rename_i route hroute
    split
    · exact hself
    rename_i body? _
    have hanswer : P (s.answer route r.authorization? body?).1 := by
      unfold answer
      split
      · exact hserve route "" body? hroute
      split
      · exact hself
      · exact hserve route _ body? hroute
    -- whether the response can be sent does not matter to the server
    generalize s.answer route r.authorization? body? = x at hanswer ⊢
    exact hanswer
  unfold handle
  generalize s.respond r = x at hrespond ⊢
  exact hrespond

theorem changes_handle (s : Server) (r : Request) : s.Changes (s.handle r).1 :=
  handle_induction (.consults (.refl s)) fun route token body? _ =>
    changes_serve s token route body?

/-- No request changes the settings, or takes time. -/
theorem Changes.now_settings (h : s.Changes s') : s'.now = s.now ∧ s'.settings = s.settings := by
  cases h with
  | consults h => exact ⟨h.now, h.settings⟩
  | issued lifetime => exact ⟨rfl, rfl⟩
  | revoked token => exact ⟨rfl, rfl⟩

/-! ### Runs -/

/-- What can happen to a server: a request comes, time passes, the tokens that have ended are
forgotten, and providers are going to answer otherwise. -/
inductive Event where
  | request (r : Request)
  | wait (time : Int)
  | sweep
  | relink (link : Link Provider.Request)

/-- The server after an event. -/
def after (s : Server) : Event → Server
  | .request r => (s.handle r).1
  | .wait time => s.wait time
  | .sweep => s.sweep
  | .relink link => { s with link }

/-- The server after several events. -/
def afterAll (s : Server) (events : List Event) : Server := events.foldl after s

/-- Whether a server can come about from its settings. -/
def Reachable (s : Server) : Prop := ∃ settings events, s = (ofSettings settings).afterAll events

/-- Whether the store of a server reflects what was written to it, and none of the tokens that were
given out is empty. -/
structure IsSound (s : Server) : Prop where
  store : ∃ writes, Store.Reflects writes s.store
  tokens : ∀ t ∈ s.access.tokens, t.text ≠ ""

theorem isSound_ofSettings (settings : Settings) : (ofSettings settings).IsSound where
  store := ⟨[], Store.reflects_empty _ _⟩
  tokens _ ht := absurd ht List.not_mem_nil

/-- A call keeps the store in line with its history. -/
theorem reflects_answerCall {b : Store × Link Provider.Request}
    (h : ∃ writes, Store.Reflects writes b.1) (call : Call) :
    ∃ writes, Store.Reflects writes (answerCall b call).1.1 := by
  obtain ⟨writes, hwrites⟩ := h
  let log : Store.Log := { store := b.1, link := b.2, writes }
  have hlog : Store.Reflects log.writes log.store := hwrites
  have hafter := hlog.after call
  unfold answerCall
  unfold Store.Log.after at hafter
  generalize b.1.answer b.2 call = x at hafter ⊢
  exact ⟨_, hafter⟩

theorem Consults.isSound (h : s.Consults s') (hs : s.IsSound) : s'.IsSound where
  store := by
    -- the history grows with each call, so it differs from step to step
    have hrun : ∀ (calls : List Call) (b : Store × Link Provider.Request),
        (∃ writes, Store.Reflects writes b.1) →
          ∃ writes, Store.Reflects writes (Form.callsAll answerCall b calls).1 := by
      intro calls
      induction calls with
      | nil => exact fun _ hb => hb
      | cons call calls ih => exact fun b hb => ih _ (reflects_answerCall hb call)
    obtain ⟨calls, hcalls⟩ := h.calls
    have hstore := hrun calls (s.store, s.link) hs.store
    rw [← hcalls] at hstore
    exact hstore
  tokens := h.access ▸ hs.tokens

theorem Changes.isSound (h : s.Changes s') (hs : s.IsSound) : s'.IsSound := by
  cases h with
  | consults h => exact h.isSound hs
  | issued lifetime =>
    refine ⟨hs.store, ?_⟩
    intro t ht
    rcases List.mem_append.1 ht with ht | ht
    · exact hs.tokens t ht
    · -- the text of a new token begins with a word
      have htext : t.text = Access.tokenText s.access.issued := by rw [List.mem_singleton.1 ht]
      rw [htext]
      simp [Access.tokenText]
  | revoked token => exact ⟨hs.store, fun _ ht => hs.tokens _ (List.mem_of_mem_filter ht)⟩

theorem IsSound.after (hs : s.IsSound) (e : Event) : (s.after e).IsSound := by
  cases e with
  | request r => exact (changes_handle s r).isSound hs
  | wait time => exact ⟨hs.store, hs.tokens⟩
  | sweep => exact ⟨hs.store, fun _ ht => hs.tokens _ (List.mem_of_mem_filter ht)⟩
  | relink link => exact ⟨hs.store, hs.tokens⟩

theorem IsSound.afterAll (hs : s.IsSound) (events : List Event) : (s.afterAll events).IsSound := by
  induction events generalizing s with
  | nil => exact hs
  | cons e events ih => exact ih (hs.after e)

/-- The store of a server that can come about reflects what was written to it. -/
theorem Reachable.isSound (hs : s.Reachable) : s.IsSound := by
  obtain ⟨settings, events, rfl⟩ := hs
  exact (isSound_ofSettings settings).afterAll events

end Server

end ChannelConsole
