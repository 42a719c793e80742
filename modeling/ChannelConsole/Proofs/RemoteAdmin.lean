import ChannelConsole.Proofs.Server.Serving
import ChannelConsole.RemoteAdmin

/-!
# Calls over the network and calls to the store

A call that is sent to a server comes to the same as the call to the store of that server
(`exchange_eq_answer`): the store is changed alike, and the reply is the same but for the status of
a refusal, which does not travel. On the way a record becomes a body and is read again, its reply
becomes an envelope and is read again, and neither loses anything.
-/

namespace ChannelConsole.RemoteAdmin

open Backend Channel Network

/-- What a call comes to when its request is handed to a server and the response is read. -/
def exchange (t : Target) (s : Server) (call : Call) : Server × Reply :=
  match addressFor t call with
  | .error _ => (s, (perform t {} call).2)
  | .ok url =>
    if t.canCarry call then
      let (s, r) := s.handle (requestAt t call url)
      (s, (perform t { answers := [.response r] } call).2)
    else (s, (perform t {} call).2)

theorem exchange_of_address {t : Target} {call : Call} {url : Url} (s : Server)
    (h : addressFor t call = .ok url) (hcarry : t.canCarry call = true) :
    exchange t s call = ((s.handle (requestAt t call url)).1,
      replyFrom call url (.response (s.handle (requestAt t call url)).2)) := by
  have hreply : ∀ r, (perform t { answers := [.response r] } call).2 =
      replyFrom call url (.response r) := by
    intro r
    simp only [perform, h, hcarry, if_true]
    rfl
  unfold exchange
  rw [h]
  dsimp only
  rw [if_pos hcarry, hreply]

/-- A call that cannot be written does not reach the server. -/
theorem exchange_of_not_canCarry {t : Target} {call : Call} {url : Url} (s : Server)
    (h : addressFor t call = .ok url) (hcarry : t.canCarry call = false) :
    exchange t s call = (s, .fault .unencodable) := by
  simp only [exchange, perform, h, hcarry, Bool.false_eq_true, if_false]

/-- Whether the requests of a target come to the root of a server, with a token and with nobody's
name. -/
structure Target.Reaches (t : Target) (token : Text) : Prop where
  root : t.base.IsRoot
  scheme : t.base.scheme = "http" ∨ t.base.scheme = "https"
  nobody : t.base.userinfo = ""
  token : t.token? = some token

/-! ### The request -/

/-- The paths of requests, or what stands in them in front of a number. -/
def fronts : List Text :=
  ["/api/channel/", "/api/channel/models", "/api/group/", "/api/channel/fetch_models",
    "/api/channel/fetch_models/"]

theorem isPlain_of_mem_fronts {front : Text} (h : front ∈ fronts) :
    Url.IsPlain front.toList ∧ front.toList.length ≤ 100 := by
  have hall : ∀ front ∈ fronts, front.toList = CodePoint.char '/' :: 'a' :: front.toList.drop 2 ∧
      front.toList.all Url.plainChars.contains = true ∧ front.toList.length ≤ 100 := by
    decide
  obtain ⟨hopening, hchars, hlength⟩ := hall front h
  have hmax : 100 ≤ Url.maxLength := by decide
  exact ⟨⟨⟨_, _, hopening, by decide⟩, Url.mem_plainChars_of_all hchars,
    Nat.le_trans hlength hmax⟩, hlength⟩

/-- The path of a complete call is plain. -/
theorem isPlain_path {call : Call} (hcomplete : Server.IsComplete call)
    (hfits : ∀ id, Server.numberIn? call = some id → Store.fitsColumn id = true) :
    Url.IsPlain (contentOf call).2.1.toList := by
  have hnumber : ∀ front ∈ fronts, ∀ id, Store.fitsColumn id = true →
      Url.IsPlain (front ++ Text.ofInt id).toList := by
    intro front hfront id hid
    obtain ⟨hplain, hlength⟩ := isPlain_of_mem_fronts hfront
    rw [Text.toList_append, Text.ofInt, Text.toList_ofList]
    exact Server.isPlain_append_intChars hplain hlength hid
  have hfixed : ∀ front ∈ fronts, Url.IsPlain front.toList :=
    fun _ hfront => (isPlain_of_mem_fronts hfront).1
  cases call with
  | getChannel id? =>
    obtain ⟨id, rfl⟩ := Option.ne_none_iff_exists'.1 hcomplete
    exact hnumber "/api/channel/" (by decide) id (hfits id rfl)
  | fetchModelsById id =>
    exact hnumber "/api/channel/fetch_models/" (by decide) id (hfits id rfl)
  | createChannel p => exact hfixed "/api/channel/" (by decide)
  | updateChannel p => exact hfixed "/api/channel/" (by decide)
  | listCatalog => exact hfixed "/api/channel/models" (by decide)
  | listGroups => exact hfixed "/api/group/" (by decide)
  | fetchModels channelType baseUrl key => exact hfixed "/api/channel/fetch_models" (by decide)

theorem resolve_contentOf {call : Call} (hcomplete : Server.IsComplete call)
    (hfits : ∀ id, Server.numberIn? call = some id → Store.fitsColumn id = true) :
    Server.resolve (contentOf call).1 (contentOf call).2.1 = .found (Server.routeOf call) := by
  cases call with
  | getChannel id? =>
    obtain ⟨id, rfl⟩ := Option.ne_none_iff_exists'.1 hcomplete
    exact Server.resolve_getChannel (hfits id rfl)
  | fetchModelsById id => exact Server.resolve_fetchModelsById (hfits id rfl)
  | createChannel p =>
    have hroute : Server.resolve "POST" "/api/channel/" = .found .createChannel := by decide
    exact hroute
  | updateChannel p =>
    have hroute : Server.resolve "PUT" "/api/channel/" = .found .updateChannel := by decide
    exact hroute
  | listCatalog =>
    have hroute : Server.resolve "GET" "/api/channel/models" = .found .listCatalog := by decide
    exact hroute
  | listGroups =>
    have hroute : Server.resolve "GET" "/api/group/" = .found .listGroups := by decide
    exact hroute
  | fetchModels channelType baseUrl key =>
    have hroute : Server.resolve "POST" "/api/channel/fetch_models" = .found .fetchModels := by
      decide
    exact hroute

theorem bodyFor_contentOf (call : Call) :
    Server.bodyFor (Server.routeOf call) (contentOf call).2.2 = .ok (Server.bodyOf? call) := by
  -- the bodies of calls are flat
  have hread : ∀ v : Json, v.depth ≤ 1 → Server.readBody (.json v) = .ok (some v) := by
    intro v hv
    exact if_pos (Nat.le_trans hv (by decide))
  cases call with
  | createChannel p => exact hread p.toJsonWithoutId (Nat.le_refl 1)
  | updateChannel p =>
    refine hread p.toJson ?_
    obtain ⟨id?, _⟩ := p
    cases id? <;> exact Nat.le_refl 1
  | fetchModels channelType baseUrl key =>
    exact hread (FetchRequest.toJson { channelType, baseUrl, key }) (Nat.le_refl 1)
  | _ => rfl

/-- What consists of whole characters can be written, with or without escapes. -/
theorem canCarry_of_isWhole (t : Target) {call : Call} (h : Server.IsWhole call) :
    t.canCarry call = true := by
  have hbody : (contentOf call).2.2.isEncodable = true := by
    cases call with
    | createChannel p => exact h p.toJsonWithoutId rfl
    | updateChannel p => exact h p.toJson rfl
    | fetchModels channelType baseUrl key =>
      exact h (FetchRequest.toJson { channelType, baseUrl, key }) rfl
    | _ => rfl
  rw [Target.canCarry, hbody, Bool.or_true]

theorem authorization_of_reaches {t : Target} {token : Text} (ht : t.Reaches token)
    (htoken : token ≠ "") : t.authorization? = some ("Bearer " ++ token) := by
  have hnobody : t.base.credentials? = none := by
    unfold Url.credentials?
    rw [ht.nobody]
    rfl
  have hfilled : token.isEmpty = false := by simpa using htoken
  simp only [Target.authorization?, hnobody, ht.token, hfilled]
  rfl

theorem letIn_of_admits {access : Access} {now : Int} {token : Text} (htoken : token ≠ "")
    (h : access.admits now token = true) :
    access.letIn now (some ("Bearer " ++ token)) = .ok token := by
  rw [Access.letIn, Access.shown?_bearer, if_neg htoken]
  exact if_pos h

/-! ### The response -/

/-- A reply as it is after it has travelled: without the status of a refusal. -/
def withoutStatus : Reply → Reply
  | .refused r => .refused { r with status? := none }
  | reply => reply

theorem readEnvelope_success (e : Envelope) :
    readEnvelope (.response (Server.success e.toJson)) = .ok e := rfl

theorem readNames_strings (xs : List Text) :
    readNames (.response (Server.success (Envelope.succeed (.strings xs)).toJson)) = .ok xs := by
  have hdata : Json.strings xs = .arr (xs.map .str) := rfl
  -- an empty array is void, and has no elements either
  have helements : elementsOf (.arr (xs.map .str)) = .ok (xs.map .str) := by
    cases xs <;> rfl
  have hnames : (xs.map Json.str).map nameOf = xs := by
    rw [List.map_map]
    exact List.map_id xs
  rw [readNames, readEnvelope_success, hdata]
  simp only [Envelope.succeed, if_true, helements, hnames]

theorem readNames_failure {message : Text} (h : message ≠ "") :
    readNames (.response (Server.success (Envelope.failure message).toJson)) =
      .error (.refused (.ofText message)) := by
  have hfilled : message.isEmpty = false := by simpa using h
  rw [readNames, readEnvelope_success]
  simp [Envelope.failure, hfilled]

/-- The names in a response that carries what a provider was found to offer, or the reason why it
was not found out. -/
theorem readNames_replyOfNames {r : Except Store.FetchFault (List Model.Name)}
    (hplain : Server.IsPlain (Store.replyOfNames r))
    (hmessage : ∀ message status?, r = .error (.refused message status?) → message ≠ "") :
    (∃ texts, r = .ok (Model.Name.ofTexts texts) ∧
      readNames (.response (Server.responseTo (Store.replyOfNames r))) = .ok texts) ∨
    ∃ message status?, r = .error (.refused message status?) ∧
      readNames (.response (Server.responseTo (Store.replyOfNames r))) =
        .error (.refused (.ofText message)) := by
  cases r with
  | ok names =>
    obtain ⟨texts, rfl, -⟩ := hplain
    refine .inl ⟨texts, rfl, ?_⟩
    rw [Store.replyOfNames, Server.responseTo, Server.array_ofTexts]
    exact readNames_strings texts
  | error fault =>
    cases fault with
    | refused message status? =>
      exact .inr ⟨message, status?, rfl, readNames_failure (hmessage message status? rfl)⟩
    | fault f => exact hplain.elim

theorem exists_envelope_of_isPlain {r : Except Fault Envelope}
    (hplain : Server.IsPlain (Store.replyOfEnvelope r)) : ∃ e, r = .ok e := by
  cases r with
  | ok e => exact ⟨e, rfl⟩
  | error f => exact hplain.elim

/-- What carries a reply is read as that reply. -/
theorem readReply_responseTo {call : Call} {reply : Reply} (h : Server.Expects call reply)
    (hplain : Server.IsPlain reply) :
    readReply call (.response (Server.responseTo reply)) = withoutStatus reply := by
  cases call with
  | getChannel | createChannel | updateChannel =>
    obtain ⟨r, rfl⟩ := h
    obtain ⟨e, rfl⟩ := exists_envelope_of_isPlain hplain
    rfl
  | listCatalog | listGroups =>
    obtain ⟨xs, rfl⟩ := h
    rw [readReply, Server.responseTo, readNames_strings]
    rfl
  | fetchModels | fetchModelsById =>
    obtain ⟨r, rfl, hmessage⟩ := h
    obtain ⟨texts, rfl, hread⟩ | ⟨message, status?, rfl, hread⟩ :=
      readNames_replyOfNames hplain hmessage
    · rw [readReply, hread]
      rfl
    · rw [readReply, hread]
      rfl

/-! ### Both -/

theorem token_ne_empty {s : Server} (hs : s.Reachable) {token : Text}
    (h : s.access.admits s.now token = true) : token ≠ "" := by
  obtain ⟨t, ht, hadmits⟩ := List.any_eq_true.1 h
  have htext : t.text = token := by
    have hboth := Bool.and_eq_true_iff.1 hadmits
    simpa using hboth.1
  rw [← htext]
  exact hs.isSound.tokens t ht

theorem requestAt_eq (t : Target) (call : Call) (url : Url) :
    requestAt t call url =
      { method := (contentOf call).1, path := url.plainPath, authorization? := t.authorization?
        body := (contentOf call).2.2 } := rfl

/-- What a call comes to whose request leads to an endpoint. -/
theorem exchange_of_route {t : Target} {s : Server} {call : Call} {url : Url}
    (haddress : addressFor t call = .ok url) (hcarry : t.canCarry call = true)
    (hkind : url.hasKind = true) {route : Server.Route}
    (hroute : Server.resolve (contentOf call).1 url.plainPath = .found route)
    {body? : Option Json} (hbody : Server.bodyFor route (contentOf call).2.2 = .ok body?)
    {a : Response} (hanswer : (s.answer route t.authorization? body?).2 = a) :
    (exchange t s call).2 =
      readReply call (.response (if Server.canSend a then a else Server.crash)) := by
  -- no call asks for a response without its body
  have hmethod : (contentOf call).1 ≠ "HEAD" := by cases call <;> simp [contentOf]
  have hheader : (requestAt t call url).authorization? = t.authorization? := by rw [requestAt_eq]
  have hhandle := Server.handle_eq_of_route (s := s) (r := requestAt t call url) hroute hbody
    hmethod
  rw [exchange_of_address s haddress hcarry, replyFrom, if_pos hkind, hhandle, hheader, hanswer]

/-- The request for a call is handled as the endpoint for the call serves it. -/
theorem handle_requestAt {s : Server} {t : Target} {token : Text} (ht : t.Reaches token)
    (hne : token ≠ "") (htoken : s.access.admits s.now token = true) {call : Call}
    (hcomplete : Server.IsComplete call)
    (hfits : ∀ id, Server.numberIn? call = some id → Store.fitsColumn id = true)
    (hsend : Server.canSend (s.serve token (Server.routeOf call) (Server.bodyOf? call)).2 = true)
    {url : Url} (hurl : url.plainPath = (contentOf call).2.1) :
    s.handle (requestAt t call url) =
      s.serve token (Server.routeOf call) (Server.bodyOf? call) := by
  have hroute : Server.resolve (contentOf call).1 url.plainPath = .found (Server.routeOf call) := by
    rw [hurl]
    exact resolve_contentOf hcomplete hfits
  have hletin : s.access.letIn s.now t.authorization? = .ok token := by
    rw [authorization_of_reaches ht hne]
    exact letIn_of_admits hne htoken
  have hprivate : (Server.routeOf call).isPublic = false := by cases call <;> rfl
  -- no call asks for a response without its body
  have hmethod : (contentOf call).1 ≠ "HEAD" := by cases call <;> simp [contentOf]
  rw [requestAt_eq]
  generalize t.authorization? = header? at hletin ⊢
  exact Server.handle_of_route hroute (bodyFor_contentOf call) hprivate hletin hmethod hsend

theorem hasKind_of_reaches {t : Target} {token : Text} (ht : t.Reaches token) (path : Text) :
    ({ t.base with path } : Url).hasKind = true := by
  rcases ht.scheme with hscheme | hscheme
  · exact Url.hasKind_of_scheme (c := 'h') (r := (Text.toList "ttp")) (by rw [hscheme]; rfl)
      (by rw [hscheme]; decide)
  · exact Url.hasKind_of_scheme (c := 'h') (r := (Text.toList "ttps")) (by rw [hscheme]; rfl)
      (by rw [hscheme]; decide)

/-- A call to a server over the network comes to the same as the call to its store. -/
theorem exchange_eq_answer {s : Server} (hs : s.Reachable) {t : Target} {token : Text}
    (ht : t.Reaches token) (htoken : s.access.admits s.now token = true) {call : Call}
    (hcomplete : Server.IsComplete call) (hwhole : Server.IsWhole call)
    (hplain : Server.IsPlain (s.store.answer s.link call).2.2) :
    exchange t s call =
      ({ s with store := (s.store.answer s.link call).1
                link := (s.store.answer s.link call).2.1 },
        withoutStatus (s.store.answer s.link call).2.2) := by
  have hfits : ∀ id, Server.numberIn? call = some id → Store.fitsColumn id = true :=
    fun id hid => Server.fitsColumn_of_isPlain hplain hid
  -- the request reaches the endpoint for the call
  have hpath := isPlain_path hcomplete hfits
  obtain ⟨url, haddress, hurl, hkind⟩ : ∃ url, addressFor t call = .ok url ∧
      url.plainPath = (contentOf call).2.1 ∧ url.hasKind = true := by
    have hjoin := ht.root.join hpath
    rw [Text.ofList_toList] at hjoin
    exact ⟨_, hjoin, Url.plainPath_of_isPlain t.base hpath, hasKind_of_reaches ht _⟩
  have hserve := Server.serve_routeOf hcomplete hwhole hfits s token
  have hsend : Server.canSend (s.serve token (Server.routeOf call) (Server.bodyOf? call)).2 =
      true := by
    obtain ⟨writes, hwrites⟩ := hs.isSound.store
    rw [hserve]
    exact Server.canSend_responseTo hwrites s.link hplain
  have hne := token_ne_empty hs htoken
  have hhandle := handle_requestAt ht hne htoken hcomplete hfits hsend hurl
  -- and its response is read as the reply of the store
  have hread := readReply_responseTo (Server.expects_answer s.store s.link call) hplain
  rw [exchange_of_address s haddress (canCarry_of_isWhole t hwhole), hhandle, hserve, replyFrom,
    hkind, ← hread]
  rfl

/-- A server with one group, where somebody has logged in. -/
def serverWith (group : Text) : Server :=
  (Server.ofSettings { adminPassword? := some "pw", channelGroups := [group] }).afterAll
    [.request { method := "POST", path := "/api/admin/login"
                body := .json (.obj [("password", .str "pw")]) }]

theorem reachable_serverWith (group : Text) : (serverWith group).Reachable := ⟨_, _, rfl⟩

/-- A half of a character. -/
def half : Text := Text.ofList [.half 0]

theorem admits_serverWith : ∀ group ∈ (["default", half] : List Text),
    (serverWith group).access.admits (serverWith group).now "token-1" = true := by decide +kernel

/-- A way to a server with the token that is given out first. -/
def adminTarget : Target :=
  { base := { scheme := "https", host := "admin.example.com" }, token? := some "token-1" }

theorem reaches_adminTarget : adminTarget.Reaches "token-1" where
  root := ⟨rfl, rfl⟩
  scheme := .inr rfl
  nobody := rfl
  token := rfl

example : Target.of "https://admin.example.com/" (some "token-1") = .ok adminTarget := rfl

/-- A channel that is made over the network is in the store, and the reply tells its number. -/
theorem exchange_eq_answer_created :
    let s := serverWith "default"
    let p : Payload := { id? := some 7, name := "relay", key := "sk-a", models := "gpt-4o" }
    (s.Reachable ∧ adminTarget.Reaches "token-1" ∧ s.access.admits s.now "token-1" = true ∧
      Server.IsComplete (.createChannel p) ∧ Server.IsWhole (.createChannel p) ∧
      Server.IsPlain (s.store.answer s.link (.createChannel p)).2.2) ∧
    exchange adminTarget s (.createChannel p) =
      ({ s with store := { s.store with rows := [(1, { p with id? := some 1 })] } },
        .envelope (.succeed ({ p with id? := some 1 } : Payload).toJson)) := by
  intro s p
  have hs : s.Reachable := reachable_serverWith "default"
  have htoken : s.access.admits s.now "token-1" = true := admits_serverWith "default" (by decide)
  have hcomplete : Server.IsComplete (.createChannel p) := trivial
  have hwhole : Server.IsWhole (.createChannel p) := by
    intro v hv
    obtain rfl := Option.some.inj hv
    decide
  have hcreate : s.store.create p =
      ({ s.store with rows := [(1, { p with id? := some 1 })] },
        .ok (.succeed ({ p with id? := some 1 } : Payload).toJson)) := by
    have hsound : Store.IsSound p := ⟨by decide, fun field => by cases field <;> rfl⟩
    exact Store.create_of_isSound s.store (by decide) (by decide) hsound (by decide)
  have hanswer : s.store.answer s.link (.createChannel p) =
      ({ s.store with rows := [(1, { p with id? := some 1 })] }, s.link,
        .envelope (.succeed ({ p with id? := some 1 } : Payload).toJson)) := by
    simp only [Store.answer, hcreate]
    rfl
  have hplain : Server.IsPlain (s.store.answer s.link (.createChannel p)).2.2 := by
    rw [hanswer]
    trivial
  have hexchange := exchange_eq_answer hs reaches_adminTarget htoken hcomplete hwhole hplain
  rw [hanswer] at hexchange
  exact ⟨⟨hs, reaches_adminTarget, htoken, hcomplete, hwhole, hplain⟩, hexchange⟩

/-- The same way with a name and a password in the address, which are sent in place of the token. -/
def namedTarget : Target := { adminTarget with base := { adminTarget.base with userinfo := "u:p" } }

/-- What a provider of one kind is asked with a key. -/
def askedWith (key : Text) : Call := .fetchModels 1 "https://relay.example.com" key

/-- What is said when a key has a half of a character in it. -/
def halfKeyComplaint : Text :=
  "Failed to fetch the model list: 'ascii' codec can't encode character '\\ud800' in " ++
    "position 7: ordinal not in range(128)"

theorem answer_askedWith_half :
    ((serverWith "default").store.answer (serverWith "default").link (askedWith half)).2.2 =
      .refused (.ofText halfKeyComplaint) := by
  have hfetch : (Store.fetchModels {} 1 "https://relay.example.com" half).2 =
      .error (.refused halfKeyComplaint none) := by decide +kernel
  have hlink : (serverWith "default").link = {} := rfl
  rw [askedWith, Server.reply_fetchModels, hlink, hfetch]
  rfl

/-- A key with a half of a character is refused, and the refusal cannot be sent, since it repeats
the key. -/
theorem serve_askedWith_half (s : Server) (token : Text) :
    s.serve token .fetchModels (Server.bodyOf? (askedWith half)) = (s, Server.crash) := by
  let request : FetchRequest :=
    { channelType := 1, baseUrl := "https://relay.example.com", key := half }
  let issue : Schema.Issue := { path := [.field "body", .field "key"], kind := .textNotWhole }
  have hcheck : Server.checkBody (FetchRequest.check .recordExpected) (some request.toJson) =
      .error [issue] := by decide +kernel
  have hreport : Server.canReport request.toJson [issue] = false := by decide +kernel
  show s.withBody (FetchRequest.check .recordExpected) (some request.toJson) s.fetchModels = _
  rw [Server.withBody, hcheck]
  simp [hreport]

/-- A key with a half of a character is not written as it is, and is refused when it is written with
an escape. -/
theorem exchange_askedWith_half :
    (exchange adminTarget (serverWith "default") (askedWith half)).2 = .fault .unencodable ∧
    (exchange { adminTarget with escapes := true } (serverWith "default") (askedWith half)).2 =
      .refused { message := .str "Request failed with status 500", status? := some 500 } := by
  let url := { adminTarget.base with path := "/api/channel/fetch_models" }
  constructor
  · have haddress : addressFor adminTarget (askedWith half) = .ok url := by decide +kernel
    rw [exchange_of_not_canCarry _ haddress (by decide +kernel)]
  · let t : Target := { adminTarget with escapes := true }
    have haddress : addressFor t (askedWith half) = .ok url := by decide +kernel
    have hkind : url.hasKind = true := by decide +kernel
    have hroute : Server.resolve "POST" url.plainPath = .found .fetchModels := by decide +kernel
    have hbody := bodyFor_contentOf (askedWith half)
    have hanswer : ((serverWith "default").answer .fetchModels t.authorization?
        (Server.bodyOf? (askedWith half))).2 = Server.crash := by
      have ht : t.authorization? = some (("Bearer " : Text) ++ "token-1") := by decide +kernel
      have hadmits := admits_serverWith "default" (by decide)
      rw [ht, Server.answer, letIn_of_admits (by decide) hadmits, serve_askedWith_half]
      rfl
    rw [exchange_of_route haddress rfl hkind hroute hbody hanswer]
    rfl

/-- What does not come to the same over the network: to ask for a channel without a number, which a
path cannot do; to be told a name with a half of a character in it, which cannot be sent, or to
bring one along; and to ask for anything with a name in the address. -/
theorem exchange_ne_answer :
    ((serverWith "default").Reachable ∧ adminTarget.Reaches "token-1" ∧
      (serverWith "default").access.admits (serverWith "default").now "token-1" = true ∧
      ((serverWith "default").store.answer (serverWith "default").link (.getChannel none)).2.2 =
        .envelope (.failure "Channel with id None not found") ∧
      (exchange adminTarget (serverWith "default") (.getChannel none)).2 =
        .refused { message := .arr [.obj [("loc", .arr [.str "path", .str "channel_id"]),
          ("type", .str "int_parsing")]], status? := some 422 }) ∧
    ((serverWith half).Reachable ∧ adminTarget.Reaches "token-1" ∧
      (serverWith half).access.admits (serverWith half).now "token-1" = true ∧
      ((serverWith half).store.answer (serverWith half).link .listGroups).2.2 = .names [half] ∧
      (exchange adminTarget (serverWith half) .listGroups).2 =
        .refused { message := .str "Request failed with status 500", status? := some 500 }) ∧
    (((serverWith "default").store.answer (serverWith "default").link (askedWith half)).2.2 =
        .refused (.ofText halfKeyComplaint) ∧
      (exchange adminTarget (serverWith "default") (askedWith half)).2 = .fault .unencodable ∧
      (exchange { adminTarget with escapes := true } (serverWith "default") (askedWith half)).2 =
        .refused { message := .str "Request failed with status 500", status? := some 500 }) ∧
    Target.of "https://u:p@admin.example.com/" (some "token-1") = .ok namedTarget ∧
      ((serverWith "default").store.answer (serverWith "default").link .listGroups).2.2 =
        .names ["default"] ∧
      (exchange namedTarget (serverWith "default") .listGroups).2 =
        .refused { message := .str "Missing authentication token", status? := some 401 } := by
  have hadmits := admits_serverWith
  -- the addresses of the three requests, and where they lead
  have hnone : addressFor adminTarget (.getChannel none) =
      .ok { adminTarget.base with path := "/api/channel/None" } := by decide +kernel
  have hgroups : ∀ t ∈ [adminTarget, namedTarget],
      addressFor t .listGroups = .ok { t.base with path := "/api/group/" } ∧
        ({ t.base with path := "/api/group/" } : Url).hasKind = true := by decide +kernel
  obtain ⟨hplain, hkind⟩ := hgroups adminTarget (by decide)
  obtain ⟨hnamed, hkind'⟩ := hgroups namedTarget (by decide)
  have hnowhere : Server.resolve "GET" "/api/channel/None" = .found (.getChannel "None") := by
    decide +kernel
  have hlist : Server.resolve "GET" "/api/group/" = .found .listGroups := by decide +kernel
  refine ⟨⟨reachable_serverWith _, reaches_adminTarget, hadmits _ (by decide), ?_, ?_⟩,
    ⟨reachable_serverWith _, reaches_adminTarget, hadmits _ (by decide), ?_, ?_⟩,
    ⟨answer_askedWith_half, exchange_askedWith_half⟩, ?_, ?_, ?_⟩
  -- no number
  · rfl
  · rw [exchange_of_route hnone rfl (by decide +kernel) hnowhere rfl rfl]
    rfl
  -- half of a character
  · rfl
  · rw [exchange_of_route hplain rfl hkind hlist rfl rfl]
    rfl
  -- a name in the address
  · rfl
  · rfl
  · rw [exchange_of_route hnamed rfl hkind' hlist rfl rfl]
    rfl

end ChannelConsole.RemoteAdmin
