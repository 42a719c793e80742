import ChannelConsole.Proofs.Server.Outsiders
import ChannelConsole.Proofs.Server.Refusals
import ChannelConsole.Proofs.Server.Serving

/-!
# Who is let in

Whoever is let in is never told that he is not, whatever he asks for (`isForGuests_serve`), so that
it can be told from the status of a response (`status_handle_eq_iff`). A login with the password is
answered with a new token, and any other login is refused (`handle_of_login`); a logout takes back
the token with which somebody was let in (`handle_of_logout`); and no other request does anything to
the tokens (`consults_handle`).
-/

namespace ChannelConsole.Server

open Editor
open Network (Request Response)

/-- How long a token lasts, on the clock. -/
def lifetime (s : Server) : Int := s.tokenSeconds * second

/-- The response that hands over a token. -/
def handsOver (s : Server) (token : Text) : Response :=
  success (.obj [("token", .str token), ("expires_in", .int s.tokenSeconds)])

/-- The password that a login tries; there may be none that can be read. -/
def attempt? (r : Request) : Option Text :=
  match bodyFor .login r.body with
  | .ok body? => (checkBody passwordIn body?).toOption
  | .error _ => none

/-- Whether a request is a login with the password. -/
def LogsIn (s : Server) (r : Request) : Prop :=
  resolve r.method r.path = .found .login ∧
    ∃ attempt, attempt? r = some attempt ∧ s.knowsPassword? attempt = some true

/-- Whether a response is one to who is let in. -/
def IsForGuests (a : Response) : Prop := a.status ≠ 401

variable {s : Server} {r : Request} {token : Text}

/-! ### Who is turned away -/

theorem isForGuests_success (v : Json) : IsForGuests (success v) := (by decide : 200 ≠ 401)

theorem isForGuests_refusal {status : Nat} (h : status ≠ 401) (detail : Json) :
    IsForGuests (refusal status detail) := h

theorem isForGuests_crash : IsForGuests crash := (by decide : 500 ≠ 401)

theorem isForGuests_withBody {α : Type} {check : Json → Schema.Checked α} {body? : Option Json}
    {next : α → Server × Response} (h : ∀ a, IsForGuests (next a).2) :
    IsForGuests (s.withBody check body? next).2 := by
  unfold withBody
  split
  · exact h _
  · dsimp only
    split
    · exact isForGuests_refusal (by decide) _
    · exact isForGuests_crash

theorem isForGuests_withChecked {α : Type} {c : Schema.Checked α} {next : α → Server × Response}
    (h : ∀ a, IsForGuests (next a).2) : IsForGuests (s.withChecked c next).2 := by
  unfold withChecked
  split
  · exact h _
  · exact isForGuests_refusal (by decide) _

theorem isForGuests_ofEnvelope (c : Except Backend.Fault Channel.Envelope) :
    IsForGuests (ofEnvelope c) := by
  cases c with
  | ok e => exact isForGuests_success _
  | error fault => exact isForGuests_crash

theorem isForGuests_ofListing (c : Except Store.FetchFault (List Model.Name)) :
    IsForGuests (ofListing c) := by
  cases c with
  | ok names => exact isForGuests_success _
  | error fault =>
    cases fault with
    | refused message status? => exact isForGuests_success _
    | fault f => exact isForGuests_crash

theorem isForGuests_tell (s : Server) (e : Session) (f : Form) (a : Answer) :
    IsForGuests (s.tell e f a).2 := by
  unfold tell
  split
  · dsimp only
    split
    · exact isForGuests_success _
    · exact isForGuests_crash
  · exact isForGuests_crash

theorem isForGuests_operate (s : Server) (e : Session) (op : Op) :
    IsForGuests (s.operate e op).2 := by
  unfold operate
  dsimp only
  split
  · exact isForGuests_refusal (by decide) _
  · exact isForGuests_tell _ _ _ _
  · split
    · exact isForGuests_refusal (by decide) _
    · exact isForGuests_crash

theorem isForGuests_setField (s : Server) (e : Session) (name : Text) (v : Json) :
    IsForGuests (s.setField e name v).2 := by
  unfold setField
  split
  · exact isForGuests_operate _ _ _
  · split
    · exact isForGuests_refusal (by decide) _
    · exact isForGuests_crash

theorem isForGuests_inEditor (s : Server) (id : Text) (action : Action) (body? : Option Json) :
    IsForGuests (s.inEditor id action body?).2 := by
  unfold inEditor
  split
  · exact isForGuests_refusal (by decide) _
  · cases action with
    | look => exact isForGuests_tell _ _ _ _
    | keys => exact isForGuests_withBody fun event => isForGuests_operate _ _ _
    | field name => exact isForGuests_withBody (isForGuests_setField _ _ _)
    | template field => exact isForGuests_operate _ _ _
    | models => exact isForGuests_withBody (isForGuests_operate _ _)
    | selector => exact isForGuests_withBody (isForGuests_operate _ _)
    | submit => exact isForGuests_operate _ _ _

theorem isForGuests_openEditor (s : Server) (channelId? : Option Int) :
    IsForGuests (s.openEditor channelId?).2 := by
  unfold openEditor
  dsimp only
  split
  · exact isForGuests_crash
  · exact isForGuests_tell _ _ _ _

theorem isForGuests_closeEditor (s : Server) (id : Text) :
    IsForGuests (s.closeEditor id).2 := by
  unfold closeEditor
  split
  · exact isForGuests_refusal (by decide) _
  · exact isForGuests_success _

theorem isForGuests_createChannel (s : Server) (p : Channel.Payload) :
    IsForGuests (s.createChannel p).2 := by
  unfold createChannel
  split
  · exact isForGuests_refusal (by decide) _
  · exact isForGuests_ofEnvelope _

theorem isForGuests_fetchModels (s : Server) (r : Channel.FetchRequest) :
    IsForGuests (s.fetchModels r).2 := by
  unfold fetchModels
  dsimp only
  exact isForGuests_ofListing _

theorem isForGuests_fetchModelsById (s : Server) (id : Int) :
    IsForGuests (s.fetchModelsById id).2 := by
  unfold fetchModelsById
  dsimp only
  exact isForGuests_ofListing _

theorem isForGuests_updateChannel (s : Server) (p : Channel.Payload) :
    IsForGuests (s.updateChannel p).2 := by
  unfold updateChannel
  dsimp only
  exact isForGuests_ofEnvelope _

/-- A route that is not for everybody turns nobody away who was let in. -/
theorem isForGuests_serve (s : Server) (token : Text) {route : Route} (body? : Option Json)
    (h : route.isPublic = false) : IsForGuests (s.serve token route body?).2 := by
  cases route with
  | documentation | health | login => cases h
  | logout | verify | listCatalog | listGroups => exact isForGuests_success _
  | fetchModels => exact isForGuests_withBody (isForGuests_fetchModels s)
  | fetchModelsById id => exact isForGuests_withChecked (isForGuests_fetchModelsById s)
  | getChannel id => exact isForGuests_withChecked fun _ => isForGuests_ofEnvelope _
  | createChannel => exact isForGuests_withBody (isForGuests_createChannel s)
  | updateChannel => exact isForGuests_withBody (isForGuests_updateChannel s)
  | openEditor => exact isForGuests_withBody (isForGuests_openEditor s)
  | closeEditor id => exact isForGuests_closeEditor s id
  | editor id action => exact isForGuests_inEditor s id action body?

theorem shutsOut_eq_false_iff {route : Route} (hroute : resolve r.method r.path = .found route)
    (hpublic : route.isPublic = false) :
    s.shutsOut r = false ↔ ∃ token, s.access.letIn s.now r.authorization? = .ok token := by
  simp only [shutsOut, hroute, hpublic, Access.letIn_eq_ok_iff]
  cases Access.shown? r.authorization? with
  | none => simp
  | some token => simp

/-- A request whose body can be read is answered that it is not let in exactly if it is shut out. -/
theorem status_handle_eq_iff {route : Route} (hroute : resolve r.method r.path = .found route)
    (hpublic : route.isPublic = false) {body? : Option Json}
    (hbody : bodyFor route r.body = .ok body?) :
    (s.handle r).2.status = 401 ↔ s.shutsOut r = true := by
  rw [(handle_respond s r).2]
  constructor
  · intro hstatus
    by_contra hin
    obtain ⟨token, hletIn⟩ := (shutsOut_eq_false_iff hroute hpublic).1 (by simpa using hin)
    have hserve := isForGuests_serve s token body? hpublic
    unfold respond answer at hstatus
    simp only [hroute, hbody, hpublic, hletIn, Bool.false_eq_true, if_false] at hstatus
    split at hstatus
    · exact hserve hstatus
    · exact isForGuests_crash hstatus
  · intro hout
    rw [respond_of_shutsOut hroute hout, turnAway, hbody]
    rfl

/-! ### Logging in and out -/

/-- A route is found at an endpoint with the method of the request. -/
theorem mem_endpoints_of_resolve {method path : Text} {route : Route}
    (h : resolve method path = .found route) :
    (method, route) ∈ endpoints (segments (Text.unescape path)) := by
  unfold resolve at h
  dsimp only at h
  split at h
  · split at h
    · cases h
    · cases h
  · split at h
    · rename_i hlookup
      obtain rfl := Resolution.found.inj h
      obtain ⟨before, later, hsplit, -⟩ := List.lookup_eq_some_iff.1 hlookup
      rw [hsplit]
      exact List.mem_append_right before List.mem_cons_self
    · cases h

/-- Nobody logs in by asking for the head alone. -/
theorem method_of_login {method path : Text} (h : resolve method path = .found .login) :
    method = "POST" := by
  have hmem := mem_endpoints_of_resolve h
  generalize segments (Text.unescape path) = segs at hmem
  simp only [endpoints, List.mem_append] at hmem
  rcases hmem with (hmem | hmem) | hmem
  · unfold fixedEndpoints at hmem
    split at hmem
    all_goals simp_all
  · unfold wordEndpoints at hmem
    repeat' split at hmem
    all_goals simp at hmem
  · unfold namedEndpoints at hmem
    repeat' split at hmem
    all_goals simp at hmem

/-- A token that is given out can be sent. -/
theorem canSend_handsOver (s : Server) (issued : Nat) :
    canSend (s.handsOver (Access.tokenText issued)) = true := by
  have htext : Text.isEncodable (Access.tokenText issued) = true := by
    rw [Access.tokenText, Text.isEncodable_append, isEncodable_ofInt]
    decide
  show (Json.obj _).everyLeaf Json.isEncodableLeaf = true
  simp +decide [Json.everyLeaf, Json.everyLeafOfFields, Json.isEncodableLeaf, htext]

/-- What is given out is given out to who knows the password. -/
theorem login_cases (s : Server) (attempt : Text) :
    (s.knowsPassword? attempt = some true ∧
      s.login attempt = ({ s with access := (s.access.issue s.now s.lifetime).1 },
        s.handsOver (Access.tokenText s.access.issued))) ∨
    (s.knowsPassword? attempt ≠ some true ∧
      ∃ a : Response, a.status ≠ 200 ∧ s.login attempt = (s, a)) := by
  unfold login
  split
  · rename_i h
    exact .inr ⟨by simp [h], crash, by decide, rfl⟩
  · rename_i h
    exact .inr ⟨by simp [h], saying 401 "Invalid password", by decide, rfl⟩
  · rename_i h
    exact .inl ⟨h, rfl⟩

theorem handle_eq_respond (h : resolve r.method r.path = .found .login) :
    s.handle r = s.respond r := by
  have hmethod : r.method ≠ "HEAD" := by
    rw [method_of_login h]
    decide
  simp [handle, hmethod]

theorem handle_login (h : resolve r.method r.path = .found .login) {body? : Option Json}
    (hbody : bodyFor .login r.body = .ok body?) {x : Server × Response}
    (hx : s.withBody passwordIn body? s.login = x) :
    s.handle r = (x.1, if canSend x.2 then x.2 else crash) := by
  have hanswer : s.answer .login r.authorization? body? = x := hx
  simp only [handle_eq_respond h, respond, h, hbody, hanswer]

theorem attempt?_of_body {body? : Option Json} (h : bodyFor .login r.body = .ok body?) :
    attempt? r = (checkBody passwordIn body?).toOption := by
  rw [attempt?, h]

/-- What a login does, and what it is answered. -/
theorem handle_of_login (h : resolve r.method r.path = .found .login) :
    (s.LogsIn r ∧ s.handle r = ({ s with access := (s.access.issue s.now s.lifetime).1 },
      s.handsOver (Access.tokenText s.access.issued))) ∨
    (¬ s.LogsIn r ∧ ∃ a : Response, a.status ≠ 200 ∧ s.handle r = (s, a)) := by
  cases hbody : bodyFor .login r.body with
  | error fault =>
    have hattempt : attempt? r = none := by rw [attempt?, hbody]
    refine .inr ⟨by simp [LogsIn, hattempt], unreadable fault, ?_, ?_⟩
    · cases fault with
      | notJson => exact (by decide : 422 ≠ 200)
      | givenUp => exact (by decide : 400 ≠ 200)
    · simp only [handle_eq_respond h, respond, h, hbody]
  | ok body? =>
    cases hcheck : checkBody passwordIn body? with
    | error issues =>
      have hattempt : attempt? r = none := by rw [attempt?_of_body hbody, hcheck, Except.toOption]
      refine .inr ⟨by simp [LogsIn, hattempt], ?_⟩
      have hrefused : s.withBody passwordIn body? s.login =
          (s, if body?.all (canReport · issues) then malformed issues else crash) := by
        rw [withBody, hcheck]
      rw [handle_login h hbody hrefused]
      refine ⟨_, ?_, rfl⟩
      dsimp only
      split
      · split
        · exact (by decide : 422 ≠ 200)
        · decide
      · decide
    | ok attempt =>
      have hattempt : attempt? r = some attempt := by
        rw [attempt?_of_body hbody, hcheck, Except.toOption]
      have hlogin : s.withBody passwordIn body? s.login = s.login attempt := by
        rw [withBody, hcheck]
      rw [handle_login h hbody hlogin]
      rcases login_cases s attempt with ⟨hknows, hlogin⟩ | ⟨hknows, a, ha, hlogin⟩
      · rw [hlogin, canSend_handsOver]
        exact .inl ⟨⟨h, attempt, hattempt, hknows⟩, rfl⟩
      · rw [hlogin]
        refine .inr ⟨?_, _, ?_, rfl⟩
        · rintro ⟨-, attempt', hattempt', hknows'⟩
          obtain rfl := Option.some.inj (hattempt.symm.trans hattempt')
          exact hknows hknows'
        · dsimp only
          split
          · exact ha
          · decide

/-- Whoever is let in is logged out. -/
theorem handle_of_logout (h : resolve r.method r.path = .found .logout)
    (hletIn : s.access.letIn s.now r.authorization? = .ok token) :
    (s.handle r).1 = { s with access := s.access.revoke token } := by
  rw [(handle_respond s r).1, respond, h]
  show (s.answer .logout r.authorization? none).1 = _
  unfold answer
  rw [hletIn]
  rfl

/-- What is neither a login nor a logout by who is let in does nothing to the tokens. -/
theorem consults_handle (hlogin : resolve r.method r.path ≠ .found .login)
    (hlogout : resolve r.method r.path = .found .logout →
      ∀ token, s.access.letIn s.now r.authorization? ≠ .ok token) :
    s.Consults (s.handle r).1 := by
  by_cases hroute : resolve r.method r.path = .found .logout
  · have hout : s.shutsOut r = true := by
      by_contra hin
      obtain ⟨token, hletIn⟩ := (shutsOut_eq_false_iff hroute rfl).1 (by simpa using hin)
      exact hlogout hroute token hletIn
    obtain ⟨a, ha⟩ := handle_of_shutsOut r
    rw [ha s hout]
    exact .refl s
  · refine handle_induction (.refl s) fun route token body? hfound => ?_
    refine consults_serve s token body? ?_ ?_
    · rintro rfl
      exact hlogin hfound
    · rintro rfl
      exact hroute hfound

end ChannelConsole.Server
