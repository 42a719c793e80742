import ChannelConsole.Proofs.Editor.Resaving
import ChannelConsole.Proofs.Store.History

/-!
# Opening stored channels

A store accepts JSON that is nested up to 1024 levels, and a form lays out anew what is nested up to
254 levels. So a form can open a stored channel exactly if none of its JSON fields is nested more
deeply (`perform_load_of_record?`), and a channel with a field in between is stored and cannot be
opened again (`perform_load_nested`).
-/

namespace ChannelConsole

open Channel Backend

/-! ### Records that can be opened -/

namespace Channel.Payload

/-- The JSON fields of a record can be made ready exactly if no value in them is nested too
deeply. -/
theorem isLoadable_iff {p : Payload} :
    p.IsLoadable ↔ ∀ field v, JsonField.parse? (p.jsonText field) = some v →
      v.depth ≤ Json.maxWrittenDepth := by
  constructor
  · intro h field v hv
    have hwritable := JsonField.exists_load_iff.1 (h field) v hv
    exact (JsonField.isWritable_iff_of_parse? hv).1 hwritable
  · intro h field
    apply JsonField.exists_load_iff.2
    intro v hv
    exact (JsonField.isWritable_iff_of_parse? hv).2 (h field v hv)

end Channel.Payload

namespace Editor.Form

open Store

variable {f : Form} {p : Payload}

theorem jsonValue_takenOver (p : Payload) (field : JsonField) :
    (takenOver p).jsonValue field = .str (p.laidOut field) := by
  cases field <;> rfl

/-! ### Forms over a store -/

/-- A store that answers calls at once, with its link to providers. -/
def storeAnswer (s : Store × Network.Link Provider.Request) (call : Call) :
    (Store × Network.Link Provider.Request) × Reply :=
  let (store, link, reply) := s.1.answer s.2 call
  ((store, link), reply)

/-- What becomes of a form that is to open a stored channel. It succeeds exactly if the JSON fields
can be laid out anew, and then has them in this form, or empty if they are not set. Otherwise the
operation ends in a fault, and the form still stands for whatever it stood for. -/
structure OpensStored (p : Payload) (f g : Form) (result : Except Fault Answer) : Prop where
  opens_iff : result = .ok (.flag true) ↔
    ∀ field v, JsonField.parse? (p.jsonText field) = some v → v.depth ≤ Json.maxWrittenDepth
  laidOut : result = .ok (.flag true) → ∀ field, ∃ text, g.draft.jsonValue field = .str text ∧
    (p.jsonText field = "" ∧ text = "" ∨
      ∃ v, JsonField.parse? (p.jsonText field) = some v ∧ v.encode? .indented = some text)
  fails : result ≠ .ok (.flag true) → result = .error .wrongKind ∧ g.draft = f.draft

theorem opensStored_takeOver (f : Form) (hsound : IsSound p) :
    ∃ g result, f.takeOver false (.succeed p.toJson) = (g, .done result) ∧
      OpensStored p f g result := by
  by_cases hload : p.IsLoadable
  · have hhydrate : ∃ g, f.hydrate p = (g, .ok ()) ∧ g.draft = takenOver p := by
      obtain ⟨diagnostics, hh⟩ := hydrate_of_isLoadable f hload
      exact ⟨_, hh, rfl⟩
    obtain ⟨g, hhydrate, hdraft⟩ := hhydrate
    have htake : f.takeOver false (.succeed p.toJson) = (g, .done (.ok (.flag true))) := by
      simp only [takeOver, Envelope.succeed, if_true, Payload.check_toJson, hhydrate]
      rfl
    refine ⟨g, .ok (.flag true), htake, ?_, ?_, fun hne => absurd rfl hne⟩
    · exact iff_of_true rfl (Payload.isLoadable_iff.1 hload)
    · intro _ field
      refine ⟨p.laidOut field, by rw [hdraft, jsonValue_takenOver], ?_⟩
      obtain ⟨l, hl⟩ := hload field
      rw [Payload.laidOut_of_load hl]
      -- what is sound and set is JSON, so nothing is kept as it is for want of a value
      rcases JsonField.load_cases hl with ⟨hempty, hvalue, -⟩ | ⟨hne, hnone, -, -⟩ |
        ⟨v, hv, hs, -⟩
      · exact .inl ⟨hempty, hvalue⟩
      · have hvalid := hsound.json field
        simp [JsonField.isValid, hne, hnone] at hvalid
      · exact .inr ⟨v, hv, hs⟩
  · have hhydrate : ∃ g, f.hydrate p = (g, .error .wrongKind) ∧ g.draft = f.draft := by
      obtain ⟨diagnostics, hh⟩ := hydrate_of_not_isLoadable f hload
      exact ⟨_, hh, rfl⟩
    obtain ⟨g, hhydrate, hdraft⟩ := hhydrate
    have htake : f.takeOver false (.succeed p.toJson) = (g, .done (.error .wrongKind)) := by
      simp only [takeOver, Envelope.succeed, if_true, Payload.check_toJson, hhydrate]
      rfl
    refine ⟨g, .error .wrongKind, htake, ?_, fun h => absurd h (by simp), fun _ => ⟨rfl, hdraft⟩⟩
    exact iff_of_false (by simp) fun h => hload (Payload.isLoadable_iff.2 h)

theorem perform_load_of_find? {s : Store} (link : Network.Link Provider.Request) {id : Int}
    (hp : s.find? id = some p) (hsound : IsSound p) (hid : fitsColumn id = true)
    (hf : f.channelId? = some id) :
    ∃ g result, f.perform storeAnswer (s, link) .load = ((s, link), g, result) ∧
      OpensStored p f g result := by
  obtain ⟨g, result, htake, hopens⟩ := opensStored_takeOver f hsound
  refine ⟨g, result, ?_, hopens⟩
  have hget : s.get id = .ok (.succeed p.toJson) := by
    rw [Store.get, if_pos hid, hp]
  have hanswer : storeAnswer (s, link) (.getChannel (some id)) =
      ((s, link), .envelope (.succeed p.toJson)) := by
    simp only [storeAnswer, answer, hget, replyOfEnvelope]
  have hperform : f.perform storeAnswer (s, link) .load =
      answeredBy storeAnswer (s, link) 3
        (f, .waiting (.getChannel f.channelId?) (.channel false)) := rfl
  rw [hperform, hf, answeredBy, hanswer]
  show answeredBy storeAnswer (s, link) 2 (f.takeOver false (.succeed p.toJson)) = _
  rw [htake]
  rfl

/-- A form over a store that has answered any run of calls, for a channel that these calls have
left: whether it can be opened, and what the form holds then. -/
theorem perform_load_of_record? {groups extraModels : List Text}
    {link : Network.Link Provider.Request} {calls : List Call} {x : Log}
    (hx : x = Log.afterAll { store := { groups, extraModels }, link } calls) {id : Int}
    (hp : Write.record? x.writes id = some p) (hid : fitsColumn id = true)
    (hf : f.channelId? = some id) :
    ∃ g result, f.perform storeAnswer (x.store, x.link) .load = ((x.store, x.link), g, result) ∧
      OpensStored p f g result := by
  have hreflects : Reflects x.writes x.store := by
    rw [hx]
    exact Reflects.afterAll (reflects_empty groups extraModels) calls
  rw [hreflects.record] at hp
  obtain ⟨n, -, hrow⟩ := exists_mem_of_find? hp
  exact perform_load_of_find? x.link hp (hreflects.sound (n, p) hrow) hid hf

/-! ### A record and its setting -/

/-- A record with a setting. -/
def relay (setting : Text) : Payload :=
  { name := "relay", key := "sk-a", models := "gpt-4o", setting }

/-- A store with that record alone. -/
def relayStore (setting : Text) : Store := { rows := [(1, { relay setting with id? := some 1 })] }

section

variable {setting : Text} {v : Json}

theorem isSound_relay (hv : JsonField.parse? setting = some v) : IsSound (relay setting) where
  models := by
    show Names.split "gpt-4o" ≠ []
    decide
  json field := by
    cases field with
    | setting =>
      show JsonField.isValid setting = true
      rw [JsonField.isValid, hv]
      simp
    | _ => rfl

theorem answer_relay (hv : JsonField.parse? setting = some v)
    (he : Text.isEncodable setting = true) (link : Network.Link Provider.Request) :
    ({} : Store).answer link (.createChannel (relay setting)) =
      (relayStore setting, link,
        .envelope (.succeed { relay setting with id? := some 1 }.toJson)) := by
  have hstorable : isStorable (relay setting) = true := by
    have hrest : isStorable (relay "") = true := by decide
    simp only [isStorable, relay, List.all_cons, List.all_nil, Bool.and_true, Bool.and_eq_true]
      at hrest ⊢
    simp only [hrest, he, and_self]
  have hfault : faultOf? (relay setting) = none := by
    have hfits : fitsRow (relay "") = true := by decide
    exact faultOf?_eq_none_iff.2 ⟨hstorable, hfits⟩
  have hname : ("relay" : Text) ≠ "" := by decide
  have hkey : ("sk-a" : Text) ≠ "" := by decide
  have hcreate := create_of_isSound {} (p := relay setting) hname hkey (isSound_relay hv) hfault
  simp only [answer, hcreate]
  rfl

end

/-- A channel with a setting is stored and opened. -/
theorem perform_load_of_record?_relay :
    ∃ g : Form, ({ channelId? := some 1 } : Form).perform storeAnswer
        (relayStore "\x7b\"a\":[true]\x7d", {}) .load =
          ((relayStore "\x7b\"a\":[true]\x7d", {}), g, .ok (.flag true)) ∧
      g.draft.setting = .str "\x7b\n  \"a\": [\n    true\n  ]\n\x7d" := by
  have hparse : JsonField.parse? "\x7b\"a\":[true]\x7d" =
      some (.obj [("a", .arr [.bool true])]) :=
    JsonField.parse?_text .compact (v := .obj [("a", .arr [.bool true])]) rfl rfl rfl (by decide)
  have hanswer := answer_relay hparse (by decide) {}
  have hlog : ({ store := relayStore "\x7b\"a\":[true]\x7d", link := {}, writes := [
      { isNew := true, id := 1, record := relay "\x7b\"a\":[true]\x7d" }] } : Log) =
        Log.afterAll { store := { groups := ["default"], extraModels := [] }, link := {} }
          [.createChannel (relay "\x7b\"a\":[true]\x7d")] := by
    rw [Log.afterAll, List.foldl_cons, List.foldl_nil, Log.after]
    simp only [hanswer]
    rfl
  obtain ⟨g, result, hperform, hopens⟩ := perform_load_of_record? (f := { channelId? := some 1 })
    hlog (p := { relay "\x7b\"a\":[true]\x7d" with id? := some 1 }) rfl (by decide) rfl
  have hresult : result = .ok (.flag true) := by
    apply hopens.opens_iff.2
    intro field v hv
    cases field with
    | setting =>
      obtain rfl := Option.some.inj (hparse.symm.trans hv)
      decide
    | _ => exact absurd (JsonField.parse?_empty.symm.trans hv) (by simp)
  subst hresult
  refine ⟨g, hperform, ?_⟩
  obtain ⟨text, htext, ⟨hunset, -⟩ | ⟨v, hv, hlaid⟩⟩ := hopens.laidOut rfl .setting
  · exact absurd hunset (by decide)
  · obtain rfl := Option.some.inj (hparse.symm.trans hv)
    obtain rfl := Option.some.inj hlaid
    exact htext

/-! ### Settings that are nested too deeply -/

/-- An array that is nested in as many others. -/
def nested : Nat → Json
  | 0 => .arr []
  | n + 1 => .arr [nested n]

theorem depth_nested (n : Nat) : (nested n).depth = n + 1 := by
  induction n with
  | zero => rfl
  | succ n ih => simp [nested, Json.depth, Json.depthOfItems, ih]

theorem everyLeaf_nested (test : Json → Bool) (n : Nat) : (nested n).everyLeaf test = true := by
  induction n with
  | zero => rfl
  | succ n ih => simp [nested, Json.everyLeaf, Json.everyLeafOfItems, ih]

theorem hasDistinctKeys_nested (n : Nat) : (nested n).hasDistinctKeys = true := by
  induction n with
  | zero => rfl
  | succ n ih => simp [nested, Json.hasDistinctKeys, Json.itemsHaveDistinctKeys, ih]

/-- A channel whose setting is nested 255 levels deep is stored, and opening it ends in a fault. -/
theorem perform_load_nested :
    (∃ e, (({} : Store).answer {} (.createChannel (relay ((nested 254).text .compact)))).2.2 =
        .envelope e ∧ e.success = true) ∧
      ∃ g : Form, ({ channelId? := some 1 } : Form).perform storeAnswer
        ((({} : Store).answer {} (.createChannel (relay ((nested 254).text .compact)))).1, {})
          .load = ((relayStore ((nested 254).text .compact), {}), g, .error .wrongKind) := by
  have hwords : (nested 254).hasOnlyWords = true := everyLeaf_nested _ _
  have hwhole : (nested 254).isEncodable = true := everyLeaf_nested _ _
  have hdepth := depth_nested 254
  have hparse : JsonField.parse? ((nested 254).text .compact) = some (nested 254) := by
    refine JsonField.parse?_text .compact hwords (hasDistinctKeys_nested 254) hwhole ?_
    rw [hdepth]
    decide
  have htext := Json.isEncodable_text .compact hwhole
  -- only what the text is read as matters from here on
  generalize (nested 254).text .compact = setting at hparse htext
  rw [answer_relay hparse htext {}]
  refine ⟨⟨_, rfl, rfl⟩, ?_⟩
  have hfind : (relayStore setting).find? 1 = some (({} : Store).newRow (relay setting)) := rfl
  obtain ⟨g, result, hperform, hopens⟩ := perform_load_of_find? {} hfind
    (isSound_newRow (isSound_relay hparse)) (by decide) (f := { channelId? := some 1 }) rfl
  have hfails : result ≠ .ok (.flag true) := by
    intro hresult
    have hmax := hopens.opens_iff.1 hresult .setting (nested 254) hparse
    rw [hdepth] at hmax
    exact absurd hmax (by decide)
  exact ⟨g, by rw [hperform, (hopens.fails hfails).1]⟩

end Editor.Form

end ChannelConsole
