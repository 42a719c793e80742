import ChannelConsole.Proofs.Editor.Fields
import ChannelConsole.Proofs.Editor.Resaving
import ChannelConsole.Server

/-!
# Requests that are refused

Requests are refused for many reasons, some of them after the editor that they are about was found:
a body that is not as it should be, a field that does not exist, a value that does not fit into a
field, a field without an example, a selector that is closed, an editor that is not open, a channel
that brings its own number.

Whatever the reason, a request that is answered with status 400, 404 or 422 leaves the server as it
was (`Server.untouched_of_refused`). This rests on the forms: an operation that is refused leaves
the form as it was and has asked nobody (`Editor.Form.perform_of_refuses`). Only the time at which
the editor was asked for last is taken down before anything is refused, and an editor that was idle
for too long ends (`Editor.Sessions.kept_use`).
-/

namespace ChannelConsole

open Backend Channel Editor
open Network (Request Response)

/-! ### Open editors -/

namespace Editor

/-- Whether what is open under a name is still the same: nothing or the same editor, which may have
been asked for, or have ended because it was idle for too long. -/
inductive Session.Kept (ttl now : Int) : Option Session → Option Session → Prop where
  | same (e? : Option Session) : Kept ttl now e? e?
  | used (e : Session) : Kept ttl now (some e) (some { e with lastUsed := now })
  | ended {e : Session} (h : e.isIdle ttl now = true) : Kept ttl now (some e) none

namespace Sessions

variable {s : Sessions} {e : Session} {id : Text}

/-- An editor that was put in its place is in its place. -/
theorem put_put (s : Sessions) (e : Session) : (s.put e).put e = s.put e := by
  have hput : ((fun old => if old.id = e.id then e else old) ∘
      fun old => if old.id = e.id then e else old) =
      fun old : Session => if old.id = e.id then e else old := by
    funext old
    by_cases h : old.id = e.id <;> simp [h]
  unfold put
  rw [List.map_map, hput]

/-- Asking for an editor keeps what is open. -/
theorem kept_use (s : Sessions) (ttl now : Int) (id other : Text) :
    Session.Kept ttl now (s.find? other) ((s.use ttl now id).1.find? other) := by
  unfold use
  cases hfind : s.find? id with
  | none => exact .same _
  | some e =>
    have hid := id_of_find? hfind
    simp only
    split
    · rename_i hidle
      by_cases h : other = id
      · subst h
        rw [hfind, find?_discard_self]
        exact .ended hidle
      · rw [find?_discard_of_ne h]
        exact .same _
    · by_cases h : other = id
      · subst h
        have hput := find?_put_self (e := { e with lastUsed := now }) (hid.symm ▸ hfind)
        rw [hfind, ← hid, hput]
        exact .used e
      · rw [find?_put_of_ne (hid.symm ▸ h)]
        exact .same _

theorem opened_use (s : Sessions) (ttl now : Int) (id : Text) :
    (s.use ttl now id).1.opened = s.opened := by
  unfold use
  split
  · rfl
  · split <;> rfl

/-- An editor that is found by its name has been put in its place. -/
theorem put_of_use {ttl now : Int} {editors : Sessions}
    (h : s.use ttl now id = (editors, some e)) : editors.put e = editors := by
  unfold use at h
  split at h
  · cases h
  · split at h
    · cases h
    · obtain ⟨rfl, he⟩ := Prod.mk.inj h
      obtain rfl := Option.some.inj he
      exact put_put _ _

end Sessions

/-! ### Operations that are refused -/

/-- Whether users are told that an operation with a result was refused. -/
def Op.Refuses (op : Op) (r : Except Fault Answer) : Prop :=
  r = .ok .noSelector ∨ ∃ fault, r = .error fault ∧ (op.faultWords? fault).isSome = true

/-- Whether an operation that has got so far is not refused. -/
def Op.Unrefused (op : Op) : Progress → Prop
  | .done r => ¬ op.Refuses r
  | .waiting _ _ => True

/-- Whether users are never told about the faults of an operation. -/
def Op.IsSilent (op : Op) : Prop := ∀ fault, op.faultWords? fault = none

theorem Op.unrefused_answer (op : Op) {a : Answer} (ha : a ≠ .noSelector) :
    op.Unrefused (.answer a) := by
  rintro (h | ⟨fault, h, -⟩)
  · exact ha (Except.ok.inj h)
  · cases h

theorem Op.IsSilent.unrefused_fail {op : Op} (hop : op.IsSilent) (fault : Fault) :
    op.Unrefused (.fail fault) := by
  rintro (h | ⟨fault', -, hwords⟩)
  · cases h
  · rw [hop fault'] at hwords
    cases hwords

namespace Form

variable {f : Form} {op : Op}

theorem unrefused_resultOf {α : Type} (hop : op.IsSilent) {answer : α → Answer}
    (ha : ∀ x, answer x ≠ .noSelector) (r : Form × Except Fault α) :
    op.Unrefused (resultOf answer r).2 := by
  obtain ⟨f, fault | x⟩ := r
  · exact hop.unrefused_fail fault
  · exact op.unrefused_answer (ha x)

theorem unrefused_startFetch (f : Form) : op.Unrefused f.startFetch.2 := by
  unfold startFetch
  split
  · exact op.unrefused_answer (by simp)
  · exact trivial

theorem unrefused_startSelector (f : Form) : op.Unrefused f.startSelector.2 := by
  unfold startSelector
  simp only
  split
  · exact op.unrefused_answer (by simp)
  · exact trivial

theorem unrefused_startSubmit (hop : op.IsSilent) (f : Form) : op.Unrefused f.startSubmit.2 := by
  unfold startSubmit
  simp only
  split
  · exact op.unrefused_answer (by simp)
  · split
    · exact op.unrefused_answer (by simp)
    · exact hop.unrefused_fail _
    · exact trivial

theorem unrefused_startChannel (f : Form) : op.Unrefused f.startChannel.2 := by
  unfold startChannel
  split
  · exact trivial
  · exact op.unrefused_answer (by simp)

theorem unrefused_takeOver (hop : op.IsSilent) (f : Form) (opening : Bool) (e : Envelope) :
    op.Unrefused (f.takeOver opening e).2 := by
  have hanswer : ∀ loaded, loadAnswer opening loaded ≠ .noSelector := by
    intro loaded
    cases opening <;> simp [loadAnswer]
  have htakes := f.takesOver_takeOver opening e
  generalize f.takeOver opening e = r at htakes ⊢
  cases htakes with
  | refused | loaded => exact op.unrefused_answer (hanswer _)
  | malformed | unloadable => exact hop.unrefused_fail _

theorem unrefused_finishFetch (hop : op.IsSilent) (f : Form) (pending : Model.Resolver.Pending)
    (names : List Model.Name) : op.Unrefused (f.finishFetch pending names).2 := by
  unfold finishFetch
  simp only
  split
  · exact op.unrefused_answer (by simp)
  · split
    · exact op.unrefused_answer (by simp)
    · split
      · exact op.unrefused_answer (by simp)
      · exact hop.unrefused_fail _

theorem unrefused_finishSelector (hop : op.IsSilent) (f : Form) (names : List Model.Name) :
    op.Unrefused (f.finishSelector names).2 := by
  unfold finishSelector
  split
  · exact hop.unrefused_fail _
  · exact op.unrefused_answer (by simp)

theorem unrefused_finishSubmit (f : Form) (e : Envelope) : op.Unrefused (f.finishSubmit e).2 := by
  unfold finishSubmit
  split
  · exact op.unrefused_answer (by simp)
  · exact op.unrefused_answer (by simp)

/-- No operation is refused because of a reply. -/
theorem unrefused_resume (hop : op.IsSilent) (f : Form) (w : Waiting) (reply : Reply) :
    op.Unrefused (f.resume w reply).2 := by
  cases w with
  | catalog =>
    cases reply with
    | names xs | refused r => exact trivial
    | _ => exact hop.unrefused_fail _
  | groups =>
    cases reply with
    | names xs | refused r => exact unrefused_startChannel _
    | _ => exact hop.unrefused_fail _
  | channel opening =>
    cases reply with
    | envelope e => exact unrefused_takeOver hop f opening e
    | refused r =>
      apply op.unrefused_answer
      cases opening <;> simp [loadAnswer]
    | _ => exact hop.unrefused_fail _
  | fetch pending =>
    cases reply with
    | models xs => exact unrefused_finishFetch hop f pending xs
    | refused r => exact op.unrefused_answer (by simp)
    | _ => exact hop.unrefused_fail _
  | selection =>
    cases reply with
    | models xs => exact unrefused_finishSelector hop f xs
    | refused r => exact op.unrefused_answer (by simp)
    | _ => exact hop.unrefused_fail _
  | save =>
    cases reply with
    | envelope e => exact unrefused_finishSubmit f e
    | refused r => exact op.unrefused_answer (by simp)
    | _ => exact hop.unrefused_fail _

/-- Only where a field is set or something is picked can an operation be refused when it begins. -/
theorem unrefused_start (hop : op.IsSilent) (hpick : ∀ event, op ≠ .pick event) (f : Form) :
    op.Unrefused (f.start op).2 := by
  cases op with
  | setField name v => cases hop (.unusable "")
  | fillTemplate name => cases hop (.unusable "")
  | pick event => exact absurd rfl (hpick event)
  | addCustom text => exact unrefused_resultOf hop (by simp) (f.addCustom text)
  | fetchModels => exact unrefused_startFetch f
  | openSelector => exact unrefused_startSelector f
  | submit => exact unrefused_startSubmit hop f
  | buildPayload =>
    unfold start
    simp only
    split
    · exact Op.unrefused_answer _ (by simp)
    · exact hop.unrefused_fail _
  | openForm | load => exact trivial
  | _ => exact Op.unrefused_answer _ (by simp)

theorem not_refuses_perform (hop : op.IsSilent) (hpick : ∀ event, op ≠ .pick event) {σ : Type}
    (answer : σ → Call → σ × Reply) (s : σ) (f : Form) :
    ¬ op.Refuses (f.perform answer s op).2.2 := by
  refine perform_induction (P := fun _ x => op.Unrefused x.2) ?_ ?_ (unrefused_start hop hpick f)
  · exact fun s g call w _ => unrefused_resume hop g w (answer s call).2
  · exact fun _ _ _ _ _ => hop.unrefused_fail .wrongKind

/-- An operation that is done when it begins asks nobody. -/
theorem perform_of_done {σ : Type} (answer : σ → Call → σ × Reply) (s : σ) {g : Form}
    {r : Except Fault Answer} (h : f.start op = (g, .done r)) :
    f.perform answer s op = (s, g, r) := by
  rw [perform, h]
  rfl

/-- A form in which something is to be picked is left if that is refused. -/
theorem start_pick_of_refuses {event : Model.Selector.Event} {g : Form} {r : Except Fault Answer}
    (h : f.start (.pick event) = (g, .done r)) (hr : (Op.pick event).Refuses r) : g = f := by
  unfold start at h
  simp only at h
  split at h
  · split at h
    · obtain ⟨-, hdone⟩ := Prod.mk.inj h
      obtain rfl := Progress.done.inj hdone
      exact absurd hr (Op.unrefused_answer _ (by simp))
    · exact (Prod.mk.inj h).1.symm
  · exact (Prod.mk.inj h).1.symm

/-- A form in which a field is to be set is left if that is refused. -/
theorem resultOf_of_refuses {α : Type} {answer : α → Answer} (ha : ∀ x, answer x ≠ .noSelector)
    {x : Form × Except Fault α} (hx : ∀ fault, x.2 = .error fault → x.1 = f) {g : Form}
    {r : Except Fault Answer} (h : resultOf answer x = (g, .done r)) (hr : op.Refuses r) :
    g = f := by
  obtain ⟨g', fault | a⟩ := x
  · obtain ⟨rfl, -⟩ := Prod.mk.inj h
    exact hx fault rfl
  · obtain ⟨-, hdone⟩ := Prod.mk.inj h
    obtain rfl := Progress.done.inj hdone
    exact absurd hr (op.unrefused_answer (ha a))

/-- An operation that is refused leaves the form, and has asked nobody. -/
theorem perform_of_refuses {σ : Type} (answer : σ → Call → σ × Reply) (s : σ) (f : Form) (op : Op)
    (h : op.Refuses (f.perform answer s op).2.2) :
    f.perform answer s op = (s, f, (f.perform answer s op).2.2) := by
  have hlocal : op.isLocal = true →
      (∀ r, f.start op = ((f.start op).1, .done r) → op.Refuses r → (f.start op).1 = f) →
      f.perform answer s op = (s, f, (f.perform answer s op).2.2) := by
    intro hop hleft
    obtain ⟨r, hdone⟩ := start_of_isLocal f hop
    have hstart : f.start op = ((f.start op).1, .done r) := Prod.ext rfl hdone
    rw [perform_of_done answer s hstart] at h ⊢
    rw [hleft r hstart h]
  cases op with
  | setField name v =>
    exact hlocal rfl fun r hstart =>
      resultOf_of_refuses (by simp) (fun _ => setField_of_error) hstart
  | fillTemplate name =>
    exact hlocal rfl fun r hstart =>
      resultOf_of_refuses (by simp) (fun _ => fillTemplate_of_error) hstart
  | pick event => exact hlocal rfl fun r hstart => start_pick_of_refuses hstart
  | _ => exact absurd h (not_refuses_perform (fun _ => rfl) (by simp) answer s f)

end Form

end Editor

namespace Server

variable {s s' : Server}

/-! ### Responses that refuse -/

/-- The statuses of requests that are refused for what they ask. -/
def refusals : List Nat := [400, 404, 422]

/-- Whether a request that is refused in this way leaves the server as it was. -/
def Spares (s : Server) (x : Server × Response) : Prop := x.2.status ∈ refusals → x.1 = s

theorem spares_self (s : Server) (a : Response) : s.Spares (s, a) := fun _ => rfl

/-- What is no refusal may change the server. -/
theorem spares_of_status {x : Server × Response} (status : Nat) (hx : x.2.status = status)
    (h : status ∉ refusals) : s.Spares x := by
  intro hrefused
  rw [hx] at hrefused
  exact absurd hrefused h

theorem spares_success (s' : Server) (v : Json) : s.Spares (s', success v) :=
  spares_of_status 200 rfl (by decide)

theorem spares_crash (s' : Server) : s.Spares (s', crash) :=
  spares_of_status 500 rfl (by decide)

theorem spares_ofEnvelope (s' : Server) (r : Except Fault Envelope) :
    s.Spares (s', ofEnvelope r) := by
  cases r with
  | ok e => exact spares_success s' _
  | error fault => exact spares_crash s'

theorem spares_ofListing (s' : Server) (r : Except Store.FetchFault (List Model.Name)) :
    s.Spares (s', ofListing r) := by
  cases r with
  | ok names => exact spares_success s' _
  | error fault =>
    cases fault with
    | refused message status => exact spares_success s' _
    | fault fault => exact spares_crash s'

theorem spares_withBody {α : Type} (check : Json → Schema.Checked α) (body? : Option Json)
    {next : α → Server × Response} (h : ∀ a, s.Spares (next a)) :
    s.Spares (s.withBody check body? next) := by
  unfold withBody
  split
  · exact h _
  · exact spares_self s _

theorem spares_withChecked {α : Type} (c : Schema.Checked α) {next : α → Server × Response}
    (h : ∀ a, s.Spares (next a)) : s.Spares (s.withChecked c next) := by
  unfold withChecked
  split
  · exact h _
  · exact spares_self s _

/-! ### Editors -/

theorem spares_tell (s' : Server) (e : Session) (f : Form) (a : Answer) :
    s.Spares (s'.tell e f a) := by
  unfold tell
  split
  · split
    · exact spares_success _ _
    · exact spares_crash _
  · exact spares_crash _

/-- An editor that is in its place is kept as it is. -/
theorem keep_self {e : Session} (he : s.editors.put e = s.editors) : s.keep e e.form = s := by
  have hput : s.editors.put { e with form := e.form } = s.editors := he
  rw [keep, hput]

theorem perform_of_refuses (s : Server) (f : Form) (op : Op)
    (h : op.Refuses (s.perform f op).2.2) : s.perform f op = (s, f, (s.perform f op).2.2) := by
  have hperform := Form.perform_of_refuses answerCall (s.store, s.link) f op h
  unfold perform
  rw [hperform]
  simp

theorem spares_operate {e : Session} (he : s.editors.put e = s.editors) (op : Op) :
    s.Spares (s.operate e op) := by
  have hperform := perform_of_refuses s e.form op
  unfold operate
  generalize s.perform e.form op = x at hperform ⊢
  obtain ⟨s', f, r⟩ := x
  -- with words or without a selector the operation was refused
  have hkeep : op.Refuses r → s'.keep e f = s := by
    intro hr
    obtain ⟨rfl, hf⟩ := Prod.mk.inj (hperform hr)
    obtain ⟨rfl, -⟩ := Prod.mk.inj hf
    exact keep_self he
  cases r with
  | ok a =>
    cases a with
    | noSelector => exact fun _ => hkeep (.inl rfl)
    | _ => exact spares_tell s' e f _
  | error fault =>
    simp only
    split
    · rename_i words hwords
      exact fun _ => hkeep (.inr ⟨fault, rfl, by rw [hwords]; rfl⟩)
    · exact spares_crash _

theorem spares_setField {e : Session} (he : s.editors.put e = s.editors) (name : Text)
    (v : Json) : s.Spares (s.setField e name v) := by
  unfold setField
  split
  · exact spares_operate he _
  · split
    · exact spares_self s _
    · exact spares_self s _

theorem spares_act {e : Session} (he : s.editors.put e = s.editors) (action : Action)
    (body? : Option Json) : s.Spares (s.act e action body?) := by
  cases action with
  | look => exact spares_tell s e e.form .nothing
  | keys => exact spares_withBody _ _ fun event => spares_operate he (.editKeys event)
  | field name => exact spares_withBody _ _ (spares_setField he name)
  | template field => exact spares_operate he (.fillTemplate field)
  | models => exact spares_withBody _ _ (spares_operate he)
  | selector => exact spares_withBody _ _ (spares_operate he)
  | submit => exact spares_operate he .submit

theorem spares_openEditor (channelId? : Option Int) : s.Spares (s.openEditor channelId?) := by
  unfold openEditor
  simp only
  split
  · exact spares_crash _
  · exact spares_tell _ _ _ _

theorem spares_closeEditor (id : Text) : s.Spares (s.closeEditor id) := by
  unfold closeEditor
  split
  · exact spares_self s _
  · exact spares_success _ _

theorem spares_createChannel (p : Payload) : s.Spares (s.createChannel p) := by
  unfold createChannel
  split
  · exact spares_self s _
  · exact spares_ofEnvelope _ _

theorem spares_login (attempt : Text) : s.Spares (s.login attempt) := by
  unfold login
  split
  · exact spares_self s _
  · exact spares_self s _
  · exact spares_success _ _

/-! ### What is left of a server -/

/-- Whether a server is as it was, but for editors that were asked for or were idle for too long. -/
structure Untouched (s s' : Server) : Prop where
  store : s'.store = s.store
  revision : s'.revision = s.revision
  access : s'.access = s.access
  link : s'.link = s.link
  now : s'.now = s.now
  settings : s'.settings = s.settings
  opened : s'.editors.opened = s.editors.opened
  editors : ∀ id, Session.Kept s.idleTime s.now (s.editors.find? id) (s'.editors.find? id)

theorem Untouched.refl (s : Server) : s.Untouched s :=
  ⟨rfl, rfl, rfl, rfl, rfl, rfl, rfl, fun _ => .same _⟩

theorem Spares.untouched {x : Server × Response} (h : s.Spares x) (hx : x.2.status ∈ refusals) :
    s.Untouched x.1 := by
  rw [h hx]
  exact .refl s

theorem untouched_inEditor (s : Server) (id : Text) (action : Action) (body? : Option Json)
    (h : (s.inEditor id action body?).2.status ∈ refusals) :
    s.Untouched (s.inEditor id action body?).1 := by
  have hopened := s.editors.opened_use s.idleTime s.now id
  have hkept := s.editors.kept_use s.idleTime s.now id
  unfold inEditor at h ⊢
  cases huse : s.editors.use s.idleTime s.now id with
  | mk editors e? =>
    rw [huse] at h hopened hkept
    have hused : s.Untouched { s with editors } :=
      ⟨rfl, rfl, rfl, rfl, rfl, rfl, hopened, hkept⟩
    cases e? with
    | none => exact hused
    | some e =>
      have hact := spares_act (s := { s with editors }) (Sessions.put_of_use huse) action body? h
      simp only
      rw [hact]
      exact hused

theorem untouched_serve (s : Server) (token : Text) (route : Route) (body? : Option Json)
    (h : (s.serve token route body?).2.status ∈ refusals) :
    s.Untouched (s.serve token route body?).1 := by
  cases route with
  | editor id action => exact untouched_inEditor s id action body? h
  | login => exact (spares_withBody _ _ spares_login).untouched h
  | logout => exact (spares_success _ _).untouched h
  | fetchModels =>
    exact (spares_withBody _ _ fun r => spares_ofListing _ _).untouched h
  | fetchModelsById id =>
    exact (spares_withChecked _ fun id => spares_ofListing _ _).untouched h
  | getChannel id => exact (spares_withChecked _ fun id => spares_ofEnvelope _ _).untouched h
  | createChannel => exact (spares_withBody _ _ spares_createChannel).untouched h
  | updateChannel => exact (spares_withBody _ _ fun p => spares_ofEnvelope _ _).untouched h
  | openEditor => exact (spares_withBody _ _ spares_openEditor).untouched h
  | closeEditor id => exact (spares_closeEditor id).untouched h
  | documentation | health | verify | listCatalog | listGroups => exact .refl s

theorem untouched_answer (s : Server) (route : Route) (authorization? : Option Text)
    (body? : Option Json) (h : (s.answer route authorization? body?).2.status ∈ refusals) :
    s.Untouched (s.answer route authorization? body?).1 := by
  unfold answer at h ⊢
  split
  · rename_i hpublic
    rw [if_pos hpublic] at h
    exact untouched_serve s "" route body? h
  · rename_i hpublic
    rw [if_neg hpublic] at h
    split
    · exact .refl s
    · rename_i token hletIn
      rw [hletIn] at h
      exact untouched_serve s token route body? h

theorem untouched_respond (s : Server) (r : Request) (h : (s.respond r).2.status ∈ refusals) :
    s.Untouched (s.respond r).1 := by
  unfold respond at h ⊢
  split
  · exact .refl s
  · exact .refl s
  · exact .refl s
  · rename_i route hroute
    rw [hroute] at h
    simp only at h
    split
    · exact .refl s
    · rename_i body? hbody
      rw [hbody] at h
      simp only at h
      -- a response that cannot be sent is no refusal
      split at h
      · exact untouched_answer s route r.authorization? body? h
      · exact absurd (show 500 ∈ refusals from h) (by decide)

/-- A request for the head alone is dealt with like any other one. -/
theorem handle_respond (s : Server) (r : Request) :
    (s.handle r).1 = (s.respond r).1 ∧ (s.handle r).2.status = (s.respond r).2.status := by
  unfold handle
  generalize s.respond r = x
  obtain ⟨s', a⟩ := x
  refine ⟨rfl, ?_⟩
  simp only
  split
  · rfl
  · rfl

/-! ### Main statement -/

/-- A request that is refused for what it asks leaves the stored channels, the count of saved ones,
and all that is known about open editors, whatever it asks and whoever sends it. At most it is taken
down that an editor was asked for, and an editor that was idle for too long ends. -/
theorem untouched_of_refused {s : Server} {r : Request} (h : (s.handle r).2.status ∈ refusals) :
    s.Untouched (s.handle r).1 := by
  obtain ⟨hstate, hstatus⟩ := handle_respond s r
  rw [hstatus] at h
  rw [hstate]
  exact untouched_respond s r h

/-- A server where somebody has logged in and opened an editor a minute ago. -/
def editingSince : Server where
  now := 60 * second
  access := { issued := 1, tokens := [{ text := "token-1", endsAt := 3600 * second }] }
  editors := { opened := 1, live := [{ id := "session-1", form := {}, lastUsed := 0 }] }

/-- The keys are no field of a draft, so they cannot be set as one. -/
theorem untouched_of_refused_unknown :
    let r : Request := { method := "PUT", path := "/api/editor/sessions/session-1/fields/key"
                         authorization? := some "Bearer token-1"
                         body := .json (.obj [("value", .str "sk-a")]) }
    (editingSince.handle r).2.status = 400 ∧ editingSince.Untouched (editingSince.handle r).1 ∧
      ((editingSince.handle r).1.editors.find? "session-1").map Session.lastUsed =
        some (60 * second) := by
  intro r
  have hstatus : (editingSince.handle r).2.status = 400 := by decide +kernel
  have hrefused : (editingSince.handle r).2.status ∈ refusals := by
    rw [hstatus]
    decide
  have hused : ((editingSince.handle r).1.editors.find? "session-1").map Session.lastUsed =
      some (60 * second) := by decide +kernel
  exact ⟨hstatus, untouched_of_refused hrefused, hused⟩

end Server

end ChannelConsole
