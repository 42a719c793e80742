import ChannelConsole.Proofs.Json.Whole
import ChannelConsole.Proofs.Network.Url
import ChannelConsole.Proofs.Server.Run
import ChannelConsole.Proofs.Text.Digits

/-!
# How requests about channels are served

The endpoint for each request about channels (`resolve_getChannel` and its neighbours), and what
remains of a request once its path leads to an endpoint, its body can be read and its token lets one
in (`handle_of_route`).
-/

namespace ChannelConsole.Server

open Backend Channel Network
open CodePoint (char)

/-! ### Paths with numbers -/

theorem segments_slash (cs : List CodePoint) :
    segments (Text.ofList (char '/' :: cs)) = (cs.splitOnP (· == char '/')).map Text.ofList := by
  have hcut : (char '/' :: cs).splitOnP (· == char '/') = [] :: cs.splitOnP (· == char '/') := by
    rw [← List.nil_append (char '/' :: cs), List.splitOnP_append_cons [] cs rfl]
    rfl
  unfold segments
  rw [Text.toList_ofList, hcut, List.map_cons]
  rfl

theorem notMem_intChars {c : CodePoint} (hc : c ∈ [char '/', 'm', '\n']) (id : Int) :
    c ∉ Text.intChars id := by
  intro hmem
  have hneither : ∀ d ∈ [char '/', 'm', '\n'], ¬ (d = '-' ∨ Json.isDigit d = true) := by
    simp [Json.isDigit]
  exact hneither c hc (Text.mem_intChars hmem)

/-- The text of a number is not one of the words that stand in its place in other paths. -/
theorem ofInt_notMem_words (id : Int) :
    Text.ofInt id ∉ (["", "models", "fetch_models"] : List Text) := by
  intro hmem
  -- the words are empty or have a letter in them, and a number has neither
  have hm : ∀ s ∈ (["", "models", "fetch_models"] : List Text),
      s.toList = [] ∨ char 'm' ∈ s.toList := by decide
  have htext := hm _ hmem
  rw [Text.ofInt, Text.toList_ofList] at htext
  rcases htext with hnil | hletter
  · cases id with
    | ofNat n => exact absurd hnil (Text.ofNat_ne_nil n)
    | negSucc n => exact absurd hnil (List.cons_ne_nil _ _)
  · exact notMem_intChars (by decide) id hletter

theorem endsWith_break_ofInt (id : Int) : Text.endsWith "\n" (Text.ofInt id) = false := by
  rw [Bool.eq_false_iff]
  intro hend
  have htext : (Text.ofInt id).toList = Text.intChars id := Text.toList_ofList
  rw [Text.endsWith, htext] at hend
  have hbreak := (List.isPrefixOf_iff_prefix.1 hend).subset (List.mem_singleton_self (char '\n'))
  exact notMem_intChars (by decide) id (List.mem_reverse.1 hbreak)

/-- The endpoint for the channel with a number. -/
theorem endpoints_channel (id : Int) :
    endpoints ["api", "channel", Text.ofInt id] =
      ([("GET", .getChannel (Text.ofInt id))] : List (Text × Route)) := by
  have hid := ofInt_notMem_words id
  simp only [List.mem_cons, List.not_mem_nil, or_false, not_or] at hid
  simp [endpoints, dropBreak, endsWith_break_ofInt, fixedEndpoints, wordEndpoints, namedEndpoints,
    hid]

/-- The endpoint for the models of the channel with a number. -/
theorem endpoints_fetchModels (id : Int) :
    endpoints ["api", "channel", "fetch_models", Text.ofInt id] =
      ([("GET", .fetchModelsById (Text.ofInt id))] : List (Text × Route)) := by
  have hid := ofInt_notMem_words id
  simp only [List.mem_cons, List.not_mem_nil, or_false, not_or] at hid
  simp [endpoints, dropBreak, endsWith_break_ofInt, fixedEndpoints, wordEndpoints, namedEndpoints,
    hid]

/-- A number at the end of a plain path leaves it plain. -/
theorem isPlain_append_intChars {front : List CodePoint} (hfront : Url.IsPlain front)
    (hlength : front.length ≤ 100) {id : Int} (hid : Store.fitsColumn id = true) :
    Url.IsPlain (front ++ Text.intChars id) where
  opening := by
    obtain ⟨c, r, hcr, hc⟩ := hfront.opening
    exact ⟨c, r ++ Text.intChars id, by rw [hcr]; rfl, hc⟩
  chars := by
    intro c hc
    rcases List.mem_append.1 hc with hc | hc
    · exact hfront.chars c hc
    · rcases Text.mem_intChars hc with rfl | hdigit
      · decide
      · have hbounds := Json.toNat_of_isDigit hdigit
        have hall : ∀ k < 10, CodePoint.ofNat (48 + k) ∈ Url.plainChars := by decide
        have hmem := hall (c.toNat - 48) (by omega)
        rwa [Nat.add_sub_cancel' hbounds.1, CodePoint.ofNat_toNat] at hmem
  length := by
    have hnumber := Text.length_intChars (by simpa [Store.fitsColumn] using hid)
    have hmax : 120 ≤ Url.maxLength := by decide
    rw [List.length_append]
    omega

/-- The endpoint for a path that ends in a number is found by its segments. -/
theorem resolve_of_number {front : List CodePoint} {route : Route} {id : Int}
    (hplain : Url.IsPlain (char '/' :: front ++ [char '/'])) (hlength : front.length ≤ 90)
    (hid : Store.fitsColumn id = true)
    (hroute : endpoints ((front.splitOnP (· == char '/')).map Text.ofList ++ [Text.ofInt id]) =
      ([("GET", route)] : List (Text × Route))) :
    resolve "GET" (Text.ofList (char '/' :: front ++ [char '/'] ++ Text.intChars id)) =
      .found route := by
  have hfull := isPlain_append_intChars hplain (by simp; omega) hid
  -- there is no slash in a number, so it is a segment of its own
  have hcut : (front ++ char '/' :: Text.intChars id).splitOnP (· == char '/') =
      front.splitOnP (· == char '/') ++ [Text.intChars id] := by
    have hnumber : ∀ c ∈ Text.intChars id, (c == '/') = false := by
      intro c hc
      rw [beq_eq_false_iff_ne]
      rintro rfl
      exact notMem_intChars (by decide) id hc
    rw [List.splitOnP_append_cons _ _ rfl, List.splitOnP_eq_singleton hnumber]
  have hshape : char '/' :: front ++ [char '/'] ++ Text.intChars id =
      char '/' :: (front ++ char '/' :: Text.intChars id) := by simp
  apply resolve_of_endpoint
  rw [hfull.unescape, hshape, segments_slash, hcut, List.map_append]
  exact hroute

theorem resolve_getChannel {id : Int} (hid : Store.fitsColumn id = true) :
    resolve "GET" ("/api/channel/" ++ Text.ofInt id) = .found (.getChannel (Text.ofInt id)) := by
  have hpath : "/api/channel/" ++ Text.ofInt id =
      Text.ofList (char '/' :: Text.toList "api/channel" ++ [char '/'] ++ Text.intChars id) := by
    rw [Text.ofList_append]
    rfl
  rw [hpath]
  have hplain : Url.IsPlain (char '/' :: Text.toList "api/channel" ++ [char '/']) :=
    ⟨⟨_, _, rfl, by decide⟩, Url.mem_plainChars_of_all (by decide), by decide⟩
  exact resolve_of_number hplain (by decide) hid (endpoints_channel id)

theorem resolve_fetchModelsById {id : Int} (hid : Store.fitsColumn id = true) :
    resolve "GET" ("/api/channel/fetch_models/" ++ Text.ofInt id) =
      .found (.fetchModelsById (Text.ofInt id)) := by
  have hpath : "/api/channel/fetch_models/" ++ Text.ofInt id =
      Text.ofList (char '/' :: Text.toList "api/channel/fetch_models" ++ [char '/'] ++
        Text.intChars id) := by
    rw [Text.ofList_append]
    rfl
  rw [hpath]
  have hplain : Url.IsPlain (char '/' :: Text.toList "api/channel/fetch_models" ++ [char '/']) :=
    ⟨⟨_, _, rfl, by decide⟩, Url.mem_plainChars_of_all (by decide), by decide⟩
  exact resolve_of_number hplain (by decide) hid (endpoints_fetchModels id)

/-! ### Endpoints for calls -/

/-- The number of a channel that a call names in the path of its request. -/
def numberIn? : Call → Option Int
  | .getChannel id? => id?
  | .fetchModelsById id => some id
  | _ => none

/-- Whether everything is there that the request for a call takes: the number of the channel that is
asked for, and the key with which a provider is asked. -/
def IsComplete : Call → Prop
  | .getChannel id? => id? ≠ none
  | .fetchModels _ _ key => key ≠ ""
  | _ => True

/-- The endpoint for a call. -/
def routeOf : Call → Route
  | .getChannel id? => .getChannel (Text.ofInt (id?.getD 0))
  | .createChannel _ => .createChannel
  | .updateChannel _ => .updateChannel
  | .listCatalog => .listCatalog
  | .listGroups => .listGroups
  | .fetchModels .. => .fetchModels
  | .fetchModelsById id => .fetchModelsById (Text.ofInt id)

/-- The value in the body of the request for a call. -/
def bodyOf? : Call → Option Json
  | .createChannel p => some p.toJsonWithoutId
  | .updateChannel p => some p.toJson
  | .fetchModels channelType baseUrl key =>
    some (FetchRequest.toJson { channelType, baseUrl, key })
  | _ => none

/-- Whether what is sent with a call consists of whole characters. -/
def IsWhole (call : Call) : Prop := ∀ v, bodyOf? call = some v → v.isEncodable = true

/-- The response that carries a reply. Failures are carried without a status. -/
def responseTo : Reply → Response
  | .envelope e => success e.toJson
  | .names xs => success (Envelope.succeed (.strings xs)).toJson
  | .models xs => success (Envelope.succeed (Model.Name.array xs)).toJson
  | .refused r => success (Envelope.failure r.words).toJson
  | .fault _ => crash

theorem ofEnvelope_eq_responseTo (r : Except Fault Envelope) :
    ofEnvelope r = responseTo (Store.replyOfEnvelope r) := by
  cases r <;> rfl

theorem ofListing_eq_responseTo (r : Except Store.FetchFault (List Model.Name)) :
    ofListing r = responseTo (Store.replyOfNames r) := by
  cases r with
  | ok names => rfl
  | error fault => cases fault <;> rfl

/-! ### What is read from requests -/

theorem channelId_ofInt {id : Int} (hid : Store.fitsColumn id = true) :
    channelId (Text.ofInt id) = .ok id := by
  have hnumber := Text.length_intChars (i := id) (by simpa [Store.fitsColumn] using hid)
  have hread := Text.lenientInteger_ofInt (i := id)
    (Nat.le_trans hnumber (by decide : 20 ≤ Text.maxDigits))
  rw [channelId, Schema.readInteger, hread]
  rfl

/-- A record that is sent without its number is read as one that has none. -/
theorem check_toJsonWithoutId (p : Payload) :
    Payload.check p.toJsonWithoutId = .ok { p with id? := none } := by
  cases p
  rfl

/-- A new channel is given a number by the store, whatever number its record has. -/
theorem create_withoutId (s : Store) (p : Payload) :
    s.create { p with id? := none } = s.create p := by
  have hjson : ({ p with id? := none } : Payload).jsonText = p.jsonText := by
    funext field
    cases field <;> rfl
  have hcomplaint : Store.complaint? { p with id? := none } = Store.complaint? p := by
    unfold Store.complaint?
    rw [hjson]
  have hfault : Store.faultOf? { p with id? := none } = Store.faultOf? p := rfl
  unfold Store.create
  rw [hcomplaint, hfault]

theorem isEncodable_key {r : FetchRequest} (h : r.toJson.isEncodable = true) :
    Text.isEncodable r.key = true := by
  rw [Json.isEncodable_eq_everyLeaf] at h
  simp only [FetchRequest.toJson, Json.everyLeaf, Json.everyLeafOfFields, Json.isEncodableLeaf,
    Bool.and_eq_true] at h
  exact h.2.2.1.2

theorem check_fetchRequest {r : FetchRequest} (h : r.key ≠ "")
    (hwhole : r.toJson.isEncodable = true) :
    FetchRequest.check .recordExpected r.toJson = .ok r := by
  have hkey : FetchRequest.filledText (.str r.key) = .ok r.key := by
    have hencodable := isEncodable_key hwhole
    simp [FetchRequest.filledText, Schema.text, h, hencodable]
  have hfield : Schema.required [("type", .int r.channelType), ("base_url", .str r.baseUrl),
      ("key", .str r.key)] "key" FetchRequest.filledText = .ok r.key := by
    show Schema.Checked.under _ (FetchRequest.filledText (.str r.key)) = _
    rw [hkey]
    rfl
  simp only [FetchRequest.check, FetchRequest.toJson, Schema.record, hfield]
  rfl

/-! ### Serving -/

theorem withBody_of_check {α : Type} {s : Server} {check : Json → Schema.Checked α} {v : Json}
    {a : α} (h : check v = .ok a) (next : α → Server × Response) :
    s.withBody check (some v) next = next a := by
  rw [withBody, checkBody, h]
  rfl

/-- The endpoint for a call asks it of the store and answers with what carries the reply. -/
theorem serve_routeOf {call : Call} (hcomplete : IsComplete call) (hwhole : IsWhole call)
    (hfits : ∀ id, numberIn? call = some id → Store.fitsColumn id = true) (s : Server)
    (token : Text) :
    s.serve token (routeOf call) (bodyOf? call) =
      ({ s with store := (s.store.answer s.link call).1
                link := (s.store.answer s.link call).2.1 },
        responseTo (s.store.answer s.link call).2.2) := by
  cases call with
  | getChannel id? =>
    obtain ⟨id, rfl⟩ := Option.ne_none_iff_exists'.1 hcomplete
    show s.withChecked (channelId (Text.ofInt id)) _ = _
    rw [channelId_ofInt (hfits id rfl), withChecked, ofEnvelope_eq_responseTo]
    rfl
  | createChannel p =>
    show s.withBody Payload.check (some p.toJsonWithoutId) s.createChannel = _
    -- the store gives out the number anyway, so the one that is not sent is not missed
    rw [withBody_of_check (check_toJsonWithoutId p), createChannel, create_withoutId]
    generalize hrun : s.store.create p = r
    obtain ⟨store, r⟩ := r
    simp only [Store.answer, hrun, ofEnvelope_eq_responseTo]
  | updateChannel p =>
    show s.withBody Payload.check (some p.toJson) s.updateChannel = _
    rw [withBody_of_check (Payload.check_toJson p), updateChannel]
    generalize hrun : s.store.update p = r
    obtain ⟨store, r⟩ := r
    simp only [Store.answer, hrun, ofEnvelope_eq_responseTo]
  | listCatalog => rfl
  | listGroups => rfl
  | fetchModels channelType baseUrl key =>
    show s.withBody (FetchRequest.check .recordExpected)
      (some (FetchRequest.toJson { channelType, baseUrl, key })) s.fetchModels = _
    have hcheck := check_fetchRequest (r := { channelType, baseUrl, key }) hcomplete (hwhole _ rfl)
    rw [withBody_of_check hcheck, fetchModels]
    generalize hrun : Store.fetchModels s.link channelType baseUrl key = x
    obtain ⟨link, names⟩ := x
    simp only [Store.answer, hrun, ofListing_eq_responseTo]
  | fetchModelsById id =>
    show s.withChecked (channelId (Text.ofInt id)) _ = _
    rw [channelId_ofInt (hfits id rfl), withChecked]
    unfold fetchModelsById
    generalize hrun : s.store.fetchModelsById s.link id = x
    obtain ⟨link, names⟩ := x
    simp only [Store.answer, hrun, ofListing_eq_responseTo]

/-! ### Replies -/

theorem reply_createChannel (s : Store) (link : Link Provider.Request) (p : Payload) :
    (s.answer link (.createChannel p)).2.2 = Store.replyOfEnvelope (s.create p).2 := by
  simp only [Store.answer]

theorem reply_updateChannel (s : Store) (link : Link Provider.Request) (p : Payload) :
    (s.answer link (.updateChannel p)).2.2 = Store.replyOfEnvelope (s.update p).2 := by
  simp only [Store.answer]

theorem reply_fetchModels (s : Store) (link : Link Provider.Request) (channelType : Int)
    (baseUrl key : Text) :
    (s.answer link (.fetchModels channelType baseUrl key)).2.2 =
      Store.replyOfNames (Store.fetchModels link channelType baseUrl key).2 := by
  simp only [Store.answer]

theorem reply_fetchModelsById (s : Store) (link : Link Provider.Request) (id : Int) :
    (s.answer link (.fetchModelsById id)).2.2 =
      Store.replyOfNames (s.fetchModelsById link id).2 := by
  simp only [Store.answer]

/-- Whether a reply is one that a store gives to a call. -/
def Expects (call : Call) (reply : Reply) : Prop :=
  match call with
  | .getChannel _ | .createChannel _ | .updateChannel _ => ∃ r, reply = Store.replyOfEnvelope r
  | .listCatalog | .listGroups => ∃ xs, reply = .names xs
  | .fetchModels .. | .fetchModelsById _ =>
    ∃ r, reply = Store.replyOfNames r ∧
      ∀ message status?, r = .error (.refused message status?) → message ≠ ""

/-- Whoever refuses to list models says why. -/
theorem message_ne_empty_of_fetchModels {link : Link Provider.Request} {channelType : Int}
    {baseUrl key message : Text} {status? : Option Nat}
    (h : (Store.fetchModels link channelType baseUrl key).2 = .error (.refused message status?)) :
    message ≠ "" := by
  unfold Store.fetchModels at h
  split at h
  · exact absurd h (by simp)
  unfold Store.reportOf at h
  split at h
  · rename_i reason _
    have hmessage : "Failed to fetch the model list: " ++ reason = message := by
      have hparts := Store.FetchFault.refused.inj (Except.error.inj h)
      exact hparts.1
    rw [← hmessage]
    simp
  · split at h <;> exact absurd h (by simp)

theorem expects_answer (s : Store) (link : Link Provider.Request) (call : Call) :
    Expects call (s.answer link call).2.2 := by
  cases call with
  | getChannel id? =>
    cases id? with
    | none => exact ⟨.ok _, rfl⟩
    | some id => exact ⟨s.get id, rfl⟩
  | createChannel p => exact ⟨_, reply_createChannel s link p⟩
  | updateChannel p => exact ⟨_, reply_updateChannel s link p⟩
  | listCatalog => exact ⟨_, rfl⟩
  | listGroups => exact ⟨_, rfl⟩
  | fetchModels channelType baseUrl key =>
    refine ⟨_, reply_fetchModels s link channelType baseUrl key, ?_⟩
    exact fun message status? h => message_ne_empty_of_fetchModels h
  | fetchModelsById id =>
    refine ⟨_, reply_fetchModelsById s link id, ?_⟩
    intro message status? h
    unfold Store.fetchModelsById at h
    split at h
    · split at h
      · obtain ⟨rfl, -⟩ := Store.FetchFault.refused.inj (Except.error.inj h)
        unfold Store.notFound
        simp
      · exact message_ne_empty_of_fetchModels h
    · exact absurd h (by simp)

/-! ### Sending -/

/-- Whether a reply is a value or a refusal that a response can carry: models are named by texts,
and names and messages consist of whole characters. -/
def IsPlain : Reply → Prop
  | .envelope _ => True
  | .names xs => ∀ x ∈ xs, Text.isEncodable x = true
  | .models xs => ∃ texts, xs = Model.Name.ofTexts texts ∧ ∀ x ∈ texts, Text.isEncodable x = true
  | .refused r => Text.isEncodable r.words = true
  | .fault _ => False

theorem isEncodable_strings {xs : List Text} (h : ∀ x ∈ xs, Text.isEncodable x = true) :
    (Json.strings xs).isEncodable = true := by
  show Json.everyLeafOfItems Json.isEncodableLeaf (xs.map .str) = true
  induction xs with
  | nil => rfl
  | cons x r ih =>
    rw [List.map_cons, Json.everyLeafOfItems, ih fun y hy => h y (List.mem_cons_of_mem _ hy),
      Bool.and_true]
    exact h x List.mem_cons_self

theorem array_ofTexts (xs : List Text) :
    Model.Name.array (Model.Name.ofTexts xs) = Json.strings xs := by
  rw [Model.Name.array, Model.Name.ofTexts, List.map_map]
  rfl

/-- The keys of an envelope are whole, so that it can be sent if its message and its data can. -/
theorem canSend_success {e : Envelope} (hmessage : Text.isEncodable e.message = true)
    (hdata : e.data.isEncodable = true) : canSend (success e.toJson) = true := by
  rw [Json.isEncodable_eq_everyLeaf] at hdata
  show (e.toJson).everyLeaf Json.isEncodableLeaf = true
  simp +decide [Envelope.toJson, Json.everyLeaf, Json.everyLeafOfFields, Json.isEncodableLeaf,
    hmessage, hdata]

/-- What can be stored can be sent. -/
theorem isEncodable_of_isStorable {p : Payload} (h : Store.isStorable p = true) :
    p.toJson.isEncodable = true := by
  simp only [Store.isStorable, List.all_cons, List.all_nil, Bool.and_true, Bool.and_eq_true] at h
  have hid : (Json.ofInt? p.id?).everyLeaf Json.isEncodableLeaf = true := by
    cases p.id? <;> rfl
  show p.toJson.everyLeaf Json.isEncodableLeaf = true
  simp +decide [Payload.toJson, Payload.bodyFields, Json.everyLeaf, Json.everyLeafOfFields,
    Json.isEncodableLeaf, hid, h]

theorem canSend_succeed {p : Payload} (h : Store.faultOf? p = none) :
    canSend (success (Envelope.succeed p.toJson).toJson) = true :=
  canSend_success rfl (isEncodable_of_isStorable (Store.faultOf?_eq_none_iff.1 h).1)

theorem canSend_failure {message : Text} (h : Text.isEncodable message = true) :
    canSend (success (Envelope.failure message).toJson) = true := canSend_success h rfl

theorem isEncodable_ofInt (i : Int) : Text.isEncodable (Text.ofInt i) = true := by
  rw [Text.isEncodable_eq, Text.ofInt, Text.toList_ofList, List.all_eq_true]
  intro c hc
  rw [Json.wholeChars_intChars i c hc]
  rfl

theorem isEncodable_notFound (id : Int) :
    Text.isEncodable (Store.notFound (Text.ofInt id)) = true := by
  unfold Store.notFound
  rw [Text.isEncodable_append, Text.isEncodable_append, isEncodable_ofInt]
  decide

theorem isEncodable_complaint {p : Payload} {message : Text}
    (h : Store.complaint? p = some message) : Text.isEncodable message = true := by
  unfold Store.complaint? at h
  split at h
  · rw [← Option.some.inj h]
    decide
  · obtain ⟨field, -, rfl⟩ := Option.map_eq_some_iff.1 h
    cases field <;> decide

/-- Whether what is said about a channel can be sent. -/
def Sendable (r : Except Fault Envelope) : Prop :=
  ∀ e, r = .ok e → canSend (success e.toJson) = true

theorem sendable_ok {e : Envelope} (h : canSend (success e.toJson) = true) : Sendable (.ok e) :=
  fun _ he => Except.ok.inj he ▸ h

theorem sendable_error (f : Fault) : Sendable (.error f) := fun _ he => absurd he (by simp)

theorem sendable_get {writes : List Store.Write} {s : Store} (hs : Store.Reflects writes s)
    (id : Int) : Sendable (s.get id) := by
  unfold Store.get
  split
  · split
    · exact sendable_ok (canSend_failure (isEncodable_notFound id))
    · rename_i p hfind
      exact sendable_ok (canSend_succeed (hs.storable_of_find? hfind))
  · exact sendable_error _

theorem sendable_create (s : Store) (p : Payload) : Sendable (s.create p).2 := by
  unfold Store.create
  split
  · exact sendable_ok (canSend_failure (by decide))
  split
  · rename_i message hmessage
    exact sendable_ok (canSend_failure (isEncodable_complaint hmessage))
  split
  · exact sendable_error _
  · rename_i hfault
    exact sendable_ok (canSend_succeed hfault)

theorem sendable_update (s : Store) (p : Payload) : Sendable (s.update p).2 := by
  unfold Store.update
  split
  · exact sendable_ok (canSend_failure (by decide))
  split
  · rename_i message hmessage
    exact sendable_ok (canSend_failure (isEncodable_complaint hmessage))
  split
  · split
    · exact sendable_ok (canSend_failure (isEncodable_notFound _))
    dsimp only
    split
    · exact sendable_error _
    · rename_i hfault
      exact sendable_ok (canSend_succeed hfault)
  · exact sendable_error _

/-- A number that no column holds is a fault, and not a plain reply. -/
theorem fitsColumn_of_isPlain {s : Store} {link : Link Provider.Request} {call : Call}
    (h : IsPlain (s.answer link call).2.2) {id : Int} (hid : numberIn? call = some id) :
    Store.fitsColumn id = true := by
  by_contra hfits
  -- only the calls with a number in their path ask for one that may not fit
  cases call with
  | getChannel id? =>
    obtain rfl : id? = some id := hid
    have hget : s.get id = .error .overflow := if_neg hfits
    replace h : IsPlain (Store.replyOfEnvelope (s.get id)) := h
    rw [hget] at h
    exact h
  | fetchModelsById id' =>
    obtain rfl := Option.some.inj hid
    have hfetch : s.fetchModelsById link id' = (link, .error (.fault .overflow)) := if_neg hfits
    rw [reply_fetchModelsById, hfetch] at h
    exact h
  | _ => exact absurd hid (by simp [numberIn?])

theorem canSend_replyOfEnvelope {r : Except Fault Envelope} (h : Sendable r)
    (hplain : IsPlain (Store.replyOfEnvelope r)) :
    canSend (responseTo (Store.replyOfEnvelope r)) = true := by
  cases r with
  | ok e => exact h e rfl
  | error f => exact hplain.elim

theorem canSend_replyOfNames {r : Except Store.FetchFault (List Model.Name)}
    (hplain : IsPlain (Store.replyOfNames r)) :
    canSend (responseTo (Store.replyOfNames r)) = true := by
  cases r with
  | ok names =>
    obtain ⟨texts, rfl, htexts⟩ := hplain
    have hdata : (Model.Name.array (Model.Name.ofTexts texts)).isEncodable = true := by
      rw [array_ofTexts]
      exact isEncodable_strings htexts
    exact canSend_success rfl hdata
  | error fault =>
    cases fault with
    | refused message status? => exact canSend_failure hplain
    | fault f => exact hplain.elim

/-- Whatever a store replies to a call can be sent, if it is plain. -/
theorem canSend_responseTo {writes : List Store.Write} {s : Store} (hs : Store.Reflects writes s)
    (link : Link Provider.Request) {call : Call} (h : IsPlain (s.answer link call).2.2) :
    canSend (responseTo (s.answer link call).2.2) = true := by
  cases call with
  | getChannel id? =>
    cases id? with
    | none => exact canSend_failure (by decide)
    | some id =>
      -- a record that is read has been stored, so that it can be sent
      exact canSend_replyOfEnvelope (sendable_get hs id) h
  | createChannel p =>
    rw [reply_createChannel] at h ⊢
    exact canSend_replyOfEnvelope (sendable_create s p) h
  | updateChannel p =>
    rw [reply_updateChannel] at h ⊢
    exact canSend_replyOfEnvelope (sendable_update s p) h
  | listCatalog => exact canSend_success rfl (isEncodable_strings h)
  | listGroups => exact canSend_success rfl (isEncodable_strings h)
  | fetchModels channelType baseUrl key =>
    rw [reply_fetchModels] at h ⊢
    -- whatever the provider has answered
    generalize (Store.fetchModels link channelType baseUrl key).2 = r at h ⊢
    exact canSend_replyOfNames h
  | fetchModelsById id =>
    rw [reply_fetchModelsById] at h ⊢
    generalize (s.fetchModelsById link id).2 = r at h ⊢
    exact canSend_replyOfNames h

/-- A request whose path leads to an endpoint and whose body can be read is answered by the
endpoint, if the response can be sent. -/
theorem handle_eq_of_route {s : Server} {r : Request} {route : Route} {body? : Option Json}
    (hroute : resolve r.method r.path = .found route) (hbody : bodyFor route r.body = .ok body?)
    (hmethod : r.method ≠ "HEAD") :
    s.handle r = ((s.answer route r.authorization? body?).1,
      if canSend (s.answer route r.authorization? body?).2 then
        (s.answer route r.authorization? body?).2 else crash) := by
  unfold handle respond
  rw [hroute]
  dsimp only
  rw [hbody]
  dsimp only
  rw [if_neg hmethod]

/-- If its token lets one in as well, the endpoint serves it. -/
theorem handle_of_route {s : Server} {r : Request} {route : Route} {body? : Option Json}
    {token : Text} (hroute : resolve r.method r.path = .found route)
    (hbody : bodyFor route r.body = .ok body?) (hprivate : route.isPublic = false)
    (htoken : s.access.letIn s.now r.authorization? = .ok token) (hmethod : r.method ≠ "HEAD")
    (hsend : canSend (s.serve token route body?).2 = true) :
    s.handle r = s.serve token route body? := by
  have hanswer : s.answer route r.authorization? body? = s.serve token route body? := by
    rw [answer, hprivate, htoken]
    rfl
  rw [handle_eq_of_route hroute hbody hmethod, hanswer, hsend]
  rfl

end ChannelConsole.Server
