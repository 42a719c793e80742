import ChannelConsole.Proofs.Server.Run

/-!
# Requests without a valid token

Anybody may log in, ask how the server is doing, and read the documentation. Whoever asks for more
has to show a token, and a request that shows none, or one that lets nobody in, is shut out.

A request that is shut out changes nothing, and what it is answered depends on the request alone
(`handle_of_shutsOut`). So it cannot be told from the answer which channels are stored, which
editors are open, or whether a token was valid once (`handle_shutsOut_same`). A server is after any
run what it would be if the requests that were shut out had never come (`afterAll_heard`).
-/

namespace ChannelConsole.Server

open Network (Request Response)

/-- Whether a request asks for more than anybody may, and shows no token that lets it in. -/
def shutsOut (s : Server) (r : Request) : Bool :=
  match resolve r.method r.path with
  | .found route =>
    !route.isPublic &&
      (Access.shown? r.authorization?).all fun token => !s.access.admits s.now token
  | _ => false

/-- Whether the same tokens let one in to two servers. -/
def AdmitSame (s s' : Server) : Prop :=
  ∀ token, s.access.admits s.now token = s'.access.admits s'.now token

variable {s s' : Server} {r : Request}

theorem shutsOut_eq_true_iff :
    s.shutsOut r = true ↔ ∃ route, resolve r.method r.path = .found route ∧
      route.isPublic = false ∧
      ∀ token, Access.shown? r.authorization? = some token →
        s.access.admits s.now token = false := by
  unfold shutsOut
  cases resolve r.method r.path with
  | found route =>
    cases Access.shown? r.authorization? with
    | none => simp
    | some token => simp
  | _ => simp

theorem AdmitSame.shutsOut (h : s.AdmitSame s') (r : Request) : s.shutsOut r = s'.shutsOut r := by
  have hadmits : s.access.admits s.now = s'.access.admits s'.now := funext h
  unfold Server.shutsOut
  rw [hadmits]

/-! ### What is answered -/

/-- Why a request with a header is turned away. -/
def refusalFor (authorization? : Option Text) : Access.Refusal :=
  if (Access.shown? authorization?).isSome then .invalid else .missing

/-- What a route answers to a request that is shut out. A body that cannot be read is found before
anybody looks at the token. -/
def turnAway (r : Request) (route : Route) : Response :=
  match bodyFor route r.body with
  | .error e => unreadable e
  | .ok _ => saying 401 (refusalFor r.authorization?).message

theorem letIn_of_not_admitted
    (h : ∀ token, Access.shown? r.authorization? = some token →
      s.access.admits s.now token = false) :
    s.access.letIn s.now r.authorization? = .error (refusalFor r.authorization?) := by
  unfold Access.letIn refusalFor
  cases hshown : Access.shown? r.authorization? with
  | none => rfl
  | some token =>
    have hnot := h token hshown
    simp [hnot]

theorem respond_of_shutsOut {route : Route} (hroute : resolve r.method r.path = .found route)
    (h : s.shutsOut r = true) : s.respond r = (s, turnAway r route) := by
  obtain ⟨route', hroute', hpublic, htoken⟩ := shutsOut_eq_true_iff.1 h
  obtain rfl := Resolution.found.inj (hroute.symm.trans hroute')
  have hletIn := letIn_of_not_admitted htoken
  unfold respond turnAway
  simp only [hroute]
  cases bodyFor route r.body with
  | error e => rfl
  | ok body? =>
    have hsent : canSend (saying 401 (refusalFor r.authorization?).message) = true := by
      cases refusalFor r.authorization? with
      | missing => decide
      | invalid => decide
    simp only [answer_not_admitted body? hpublic hletIn, hsent, if_true]

/-- All servers that shut out a request give it the same answer, and stay as they are. -/
theorem handle_of_shutsOut (r : Request) :
    ∃ a : Response, ∀ s : Server, s.shutsOut r = true → s.handle r = (s, a) := by
  cases hroute : resolve r.method r.path with
  | found route =>
    let a := turnAway r route
    refine ⟨if r.method = "HEAD" then { a with body := .empty } else a, fun s h => ?_⟩
    rw [handle, respond_of_shutsOut hroute h]
  | _ =>
    refine ⟨crash, fun s h => ?_⟩
    obtain ⟨route, hfound, -⟩ := shutsOut_eq_true_iff.1 h
    rw [hroute] at hfound
    cases hfound

/-! ### Runs -/

/-- Whether an event is anything but a request that is shut out. -/
def isHeard (s : Server) : Event → Bool
  | .request r => !s.shutsOut r
  | _ => true

/-- The events of a run without the requests that are shut out when they come. -/
def heard (s : Server) : List Event → List Event
  | [] => []
  | e :: events => if s.isHeard e then e :: (s.after e).heard events else s.heard events

theorem after_of_not_isHeard {e : Event} (h : s.isHeard e = false) : s.after e = s := by
  cases e with
  | request r =>
    have hout : s.shutsOut r = true := by
      unfold isHeard at h
      simpa using h
    obtain ⟨a, ha⟩ := handle_of_shutsOut r
    rw [after, ha s hout]
  | _ => cases h

theorem afterAll_cons (s : Server) (e : Event) (events : List Event) :
    s.afterAll (e :: events) = (s.after e).afterAll events := List.foldl_cons ..

/-- A run leaves what it leaves without the requests that are shut out. -/
theorem afterAll_heard (s : Server) (events : List Event) :
    s.afterAll (s.heard events) = s.afterAll events := by
  induction events generalizing s with
  | nil => rfl
  | cons e events ih =>
    rw [heard, afterAll_cons]
    split
    · rw [afterAll_cons, ih]
    · rename_i h
      rw [after_of_not_isHeard (Bool.eq_false_iff.2 h), ih]

/-! ### Main statement -/

/-- A request that shows no valid token to a route that asks for one is answered alike by any two
servers that let in the same tokens, whatever channels they store and whatever editors are open, and
neither of them is changed by it. -/
theorem handle_shutsOut_same {route : Route} (hsame : s.AdmitSame s')
    (hroute : resolve r.method r.path = .found route) (hpublic : route.isPublic = false)
    (htoken : ∀ token, Access.shown? r.authorization? = some token →
      s.access.admits s.now token = false) :
    (s.handle r).2 = (s'.handle r).2 ∧ (s.handle r).1 = s ∧ (s'.handle r).1 = s' := by
  have hout : s.shutsOut r = true := shutsOut_eq_true_iff.2 ⟨route, hroute, hpublic, htoken⟩
  have hout' : s'.shutsOut r = true := by rw [← hsame.shutsOut r, hout]
  obtain ⟨a, ha⟩ := handle_of_shutsOut r
  rw [ha s hout, ha s' hout']
  exact ⟨rfl, rfl, rfl⟩

/-- A server where somebody has logged in. -/
def loggedIn : Server :=
  (ofSettings { adminPassword? := some "pw" }).after <| .request
    { method := "POST", path := "/api/admin/login", body := .json (.obj [("password", .str "pw")]) }

/-- The same server with an open editor. -/
def editing : Server :=
  loggedIn.after <| .request
    { method := "POST", path := "/api/editor/sessions", authorization? := some "Bearer token-1"
      body := .json (.obj []) }

/-- Who asks for an editor with a wrong token does not learn whether it is open. -/
theorem handle_shutsOut_same_editor :
    let r : Request := { method := "GET", path := "/api/editor/sessions/session-1"
                         authorization? := some "Bearer token-2" }
    (editing.editors.find? "session-1").isSome = true ∧
      (loggedIn.editors.find? "session-1").isSome = false ∧ editing.AdmitSame loggedIn ∧
      (editing.handle r).2 = (loggedIn.handle r).2 ∧ (editing.handle r).1 = editing ∧
      (loggedIn.handle r).1 = loggedIn := by
  intro r
  have haccess : editing.access = loggedIn.access := by decide +kernel
  have hnow : editing.now = loggedIn.now := by decide +kernel
  have hsame : editing.AdmitSame loggedIn := by
    intro token
    rw [haccess, hnow]
  have htoken : ∀ token, Access.shown? r.authorization? = some token →
      editing.access.admits editing.now token = false := by
    have hwrong : editing.access.admits editing.now "token-2" = false := by decide +kernel
    intro token htoken
    obtain rfl := Option.some.inj htoken
    exact hwrong
  have hroute : resolve r.method r.path = .found (.editor "session-1" .look) := by decide +kernel
  have hopen : (editing.editors.find? "session-1").isSome = true := by decide +kernel
  have hclosed : (loggedIn.editors.find? "session-1").isSome = false := by decide +kernel
  exact ⟨hopen, hclosed, hsame, handle_shutsOut_same hsame hroute rfl htoken⟩

end ChannelConsole.Server
