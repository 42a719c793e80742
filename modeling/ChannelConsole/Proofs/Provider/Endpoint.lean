import ChannelConsole.Proofs.Provider.Tolerance
import ChannelConsole.Proofs.Text.Search

/-!
# Where models are asked for

The address of a provider may be given with slashes at its end, and with or without the version that
belongs to the addresses below it. Slashes never matter (`discover_append_slashes`). The version is
taken off in two of the four ways of listing, where it does not matter either
(`discover_append_version`); in the other two it is put in a second time.

The way of local servers takes the version out wherever it stands, also at the beginning of a longer
word or of a host. So all requests go where they should exactly if the version is not doubled, and
nothing is taken out of the address if anybody asks in that way (`asksProperly_iff`).
-/

namespace ChannelConsole.Provider

open Network

/-! ### Addresses as they are given -/

/-- Slashes, `n` of them. -/
def slashes (n : Nat) : Text := Text.ofList (List.replicate n '/')

/-- Whether an address ends neither in a slash nor in the version. -/
structure IsBare (b : Text) : Prop where
  ne_empty : b ≠ ""
  slash : Text.endsWith "/" b = false
  version : Text.endsWith "/v1" b = false

/-- The ways to give a bare address: with slashes at its end, or with the version and slashes. -/
inductive Varies (b : Text) : Text → Prop
  | slashes (n : Nat) : Varies b (b ++ Provider.slashes n)
  | version (n : Nat) : Varies b (b ++ "/v1" ++ Provider.slashes n)

theorem address_append_slashes (profile : ChannelType.Profile) {s : Text} (hne : s ≠ "")
    (hslash : Text.endsWith "/" s = false) (n : Nat) :
    address profile (some (s ++ slashes n)) = s := by
  have hgiven : (s ++ slashes n).isEmpty = false := by simp [hne]
  rw [address, Option.getD_some, hgiven]
  exact (Text.dropTrailing_append '/' s n).trans (Text.dropTrailing_eq_self hslash)

theorem endsWith_slash_version (b : Text) : Text.endsWith "/" (b ++ "/v1") = false := by
  rw [Text.endsWith, Text.toList_append, List.reverse_append]
  rfl

/-! ### Requests -/

section

variable (key? : Option Text)

/-- The same request is sent whether or not the version is given. -/
theorem listingRequest_openai_version {b : Text} (hb : IsBare b) :
    listingRequest .openai key? (b ++ "/v1") = listingRequest .openai key? b := by
  rw [listingRequest, listingRequest, Text.endsWith_append, hb.version]
  simp [Text.append_assoc]

/-- The same request is sent to a local server whether or not the version is given. -/
theorem listingRequest_ollama_version (b : Text) :
    listingRequest .ollama key? (b ++ "/v1") = listingRequest .ollama key? b := by
  rw [listingRequest, listingRequest,
    Text.replaceAll_append_self (show Text.toList "/v1" = CodePoint.char '/' :: ['v', '1'] from rfl)
      (by decide)]

end

variable {link : Link Request} {channelType : Int} {key? : Option Text} {b s t : Text}

theorem list_congr {listing : ChannelType.Listing}
    (h : listingRequest listing key? s = listingRequest listing key? t) (link : Link Request) :
    list listing link key? s = list listing link key? t := by
  rw [list, list, h]

theorem listWithFallback_congr
    (hfirst : listingRequest .openai key? s = listingRequest .openai key? t)
    (hsecond : listingRequest .ollama key? s = listingRequest .ollama key? t) :
    listWithFallback link key? s = listWithFallback link key? t := by
  rw [listWithFallback, listWithFallback, list_congr hfirst]
  simp only [list_congr hsecond]

/-! ### The exchange -/

section

variable (hne : s ≠ "") (hslash : Text.endsWith "/" s = false) (n : Nat)

include hne hslash

/-- Slashes at the end of an address do not matter. -/
theorem discover_append_slashes :
    discover link channelType key? (some (s ++ slashes n)) =
      discover link channelType key? (some s) := by
  have hbare := address_append_slashes (ChannelType.profile channelType) hne hslash 0
  rw [show s ++ slashes 0 = s from Text.append_empty] at hbare
  rw [discover, discover, address_append_slashes _ hne hslash, hbare]

theorem discover_of_openai (hown : (ChannelType.profile channelType).listing = .openai) :
    discover link channelType key? (some (s ++ slashes n)) = listWithFallback link key? s := by
  rw [discover, address_append_slashes _ hne hslash, if_neg (by simpa using hne), hown]

theorem discover_of_ne_openai (hown : (ChannelType.profile channelType).listing ≠ .openai) :
    discover link channelType key? (some (s ++ slashes n)) =
      list (ChannelType.profile channelType).listing link key? s := by
  rw [discover, address_append_slashes _ hne hslash, if_neg (by simpa using hne)]
  cases hlisting : (ChannelType.profile channelType).listing with
  | openai => exact absurd hlisting hown
  | _ => rfl

end

/-- In two of the ways of listing, the version at the end of an address does not matter. -/
theorem discover_append_version (hb : IsBare b) (n : Nat)
    (hown : (ChannelType.profile channelType).listing = .openai ∨
      (ChannelType.profile channelType).listing = .ollama) :
    discover link channelType key? (some (b ++ "/v1" ++ slashes n)) =
      discover link channelType key? (some b) := by
  have hne : b ++ "/v1" ≠ "" := by simp
  have hslash := endsWith_slash_version b
  have hollama := listingRequest_ollama_version key? b
  rw [← discover_append_slashes hb.ne_empty hb.slash 0]
  rcases hown with hown | hown
  · rw [discover_of_openai hne hslash _ hown, discover_of_openai hb.ne_empty hb.slash _ hown]
    exact listWithFallback_congr (listingRequest_openai_version key? hb) hollama
  · have hother : (ChannelType.profile channelType).listing ≠ .openai := by simp [hown]
    rw [discover_of_ne_openai hne hslash _ hother,
      discover_of_ne_openai hb.ne_empty hb.slash _ hother, hown]
    exact list_congr hollama link

/-! ### Where requests go -/

/-- The addresses to which requests go when the models at a given address are asked for, in the
order in which they are sent. -/
def asked (link : Link Request) (channelType : Int) (key? : Option Text) (given : Text) :
    List Text :=
  ((discover link channelType key? (some given)).1.sent.drop link.sent.length).map Request.url

/-- Whether a server refuses to list its models in the first way, so that it is asked in the way of
local servers as well. -/
def IsRefused (link : Link Request) (key? : Option Text) (base : Text) : Prop :=
  ∃ status url, received (listingRequest .openai key? base) (answerAt link 0) =
    .error (.badStatus status url)

/-- The addresses below a bare one where models should be asked for, in the order of asking. -/
def properAddresses (listing : ChannelType.Listing) (key? : Option Text) (b : Text) :
    List Text :=
  match listing with
  | .openai => [b ++ "/v1/models", b ++ "/api/tags"]
  | .anthropic => [b ++ "/v1/models"]
  | .gemini => [b ++ "/v1/models?key=" ++ key?.getD "None"]
  | .ollama => [b ++ "/api/tags"]

/-- Whether the requests for the models at a bare address go where they should, and to the same
addresses however it is given. -/
def AsksProperly (link : Link Request) (channelType : Int) (key? : Option Text) (b : Text) :
    Prop :=
  ∀ given, Varies b given →
    asked link channelType key? given = asked link channelType key? b ∧
      asked link channelType key? given ≠ [] ∧
      asked link channelType key? given <+:
        properAddresses (ChannelType.profile channelType).listing key? b

theorem list_openai_badStatus_iff {status : Nat} {url : Text} :
    (list .openai link key? s).2 = .error (.badStatus status url) ↔
      received (listingRequest .openai key? s) (answerAt link 0) =
        .error (.badStatus status url) := by
  refine ⟨received_of_badStatus link key? s, fun h => ?_⟩
  rw [list_snd, h]
  rfl

/-- The addresses of the requests behind those that were sent before. -/
theorem map_url_drop (link : Link Request) (requests : List Request) :
    ((link.sent ++ requests).drop link.sent.length).map Request.url =
      requests.map Request.url := by
  rw [List.drop_left]

section

variable (hne : s ≠ "") (hslash : Text.endsWith "/" s = false) (n : Nat)

include hne hslash

theorem asked_of_ne_openai (hown : (ChannelType.profile channelType).listing ≠ .openai) :
    asked link channelType key? (s ++ slashes n) =
      [(listingRequest (ChannelType.profile channelType).listing key? s).url] := by
  rw [asked, discover_of_ne_openai hne hslash n hown, list_sent, map_url_drop]
  rfl

theorem asked_of_not_refused (hown : (ChannelType.profile channelType).listing = .openai)
    (h : ¬ IsRefused link key? s) :
    asked link channelType key? (s ++ slashes n) = [(listingRequest .openai key? s).url] := by
  have hnot : ∀ status url, (list .openai link key? s).2 ≠ .error (.badStatus status url) :=
    fun status url hbad => h ⟨status, url, list_openai_badStatus_iff.1 hbad⟩
  rw [asked, discover_of_openai hne hslash n hown, listWithFallback_of_not_refused _ _ _ hnot,
    list_sent, map_url_drop]
  rfl

theorem asked_of_refused (hown : (ChannelType.profile channelType).listing = .openai)
    (h : IsRefused link key? s) :
    asked link channelType key? (s ++ slashes n) =
      [(listingRequest .openai key? s).url, (listingRequest .ollama key? s).url] := by
  obtain ⟨status, url, hbad⟩ := h
  rw [asked, discover_of_openai hne hslash n hown,
    listWithFallback_of_refused _ _ _ (list_openai_badStatus_iff.2 hbad), list_sent, list_sent,
    List.append_assoc, map_url_drop]
  rfl

end

/-- Whether the requests below a bare address stay where they should: in the ways of listing that
take the version off, nothing else may be taken out, if anybody asks in the way of local servers. -/
def StaysBelow (link : Link Request) (listing : ChannelType.Listing) (key? : Option Text)
    (b : Text) : Prop :=
  match listing with
  | .openai => IsRefused link key? b → Text.occursIn "/v1" b = false
  | .ollama => Text.occursIn "/v1" b = false
  | .anthropic | .gemini => False

/-- A request to a local server goes below the address as it is exactly if it has no version to be
taken out. -/
theorem url_ollama_iff :
    (listingRequest .ollama key? b).url = b ++ "/api/tags" ↔ Text.occursIn "/v1" b = false := by
  rw [listingRequest, Text.append_left_inj, Text.replaceAll_empty_eq_self_iff (by decide)]

theorem url_openai (hb : IsBare b) :
    (listingRequest .openai key? b).url = b ++ "/v1/models" := by
  rw [listingRequest, hb.version]
  rfl

theorem asked_bare (hb : IsBare b) (n : Nat) :
    asked link channelType key? (b ++ slashes n) = asked link channelType key? b := by
  rw [asked, asked, discover_append_slashes hb.ne_empty hb.slash]

/-- Where the version is doubled, the requests depend on how the address is given. -/
theorem not_asksProperly_of_doubled (hb : IsBare b) (path : Text)
    (hown : (ChannelType.profile channelType).listing ≠ .openai)
    (hurl : ∀ s, (listingRequest (ChannelType.profile channelType).listing key? s).url =
      s ++ path) : ¬ AsksProperly link channelType key? b := by
  intro h
  have hsame := (h _ (.version 0)).1
  rw [← asked_bare hb 0, asked_of_ne_openai (by simp) (endsWith_slash_version b) 0 hown,
    asked_of_ne_openai hb.ne_empty hb.slash 0 hown, hurl, hurl, List.cons.injEq,
    Text.append_left_inj] at hsame
  have hlength := congrArg (fun t : Text => t.toList.length) hsame.1
  simp at hlength

/-- Requests that do not depend on how the address is given go where they should exactly if those
for the bare address do. -/
theorem asksProperly_iff_of_version
    (hb : IsBare b) (hown : (ChannelType.profile channelType).listing = .openai ∨
      (ChannelType.profile channelType).listing = .ollama) :
    AsksProperly link channelType key? b ↔ asked link channelType key? b ≠ [] ∧
      asked link channelType key? b <+:
        properAddresses (ChannelType.profile channelType).listing key? b := by
  have hversion (n : Nat) : asked link channelType key? (b ++ "/v1" ++ slashes n) =
      asked link channelType key? b := by
    rw [asked, asked, discover_append_version hb n hown]
  constructor
  · intro h
    have hbare := (h _ (.slashes 0)).2
    rwa [asked_bare hb] at hbare
  · rintro h _ (n | n)
    · rw [asked_bare hb]
      exact ⟨rfl, h⟩
    · rw [hversion]
      exact ⟨rfl, h⟩

/-- The requests for the models at a bare address go where they should, however the address is
given, exactly if the version is taken off and nothing else is taken out. Slashes at the end never
matter, and in two of the ways of listing the version at the end does not. -/
theorem asksProperly_iff (hb : IsBare b) :
    (∀ n, discover link channelType key? (some (b ++ slashes n)) =
      discover link channelType key? (some b)) ∧
    ((ChannelType.profile channelType).listing = .openai ∨
        (ChannelType.profile channelType).listing = .ollama →
      ∀ n, discover link channelType key? (some (b ++ "/v1" ++ slashes n)) =
        discover link channelType key? (some b)) ∧
    (AsksProperly link channelType key? b ↔
      StaysBelow link (ChannelType.profile channelType).listing key? b) := by
  refine ⟨discover_append_slashes hb.ne_empty hb.slash,
    fun hown n => discover_append_version hb n hown, ?_⟩
  cases hlisting : (ChannelType.profile channelType).listing with
  | openai =>
    rw [asksProperly_iff_of_version hb (.inl hlisting), ← asked_bare hb 0, hlisting]
    by_cases hrefused : IsRefused link key? b
    · rw [asked_of_refused hb.ne_empty hb.slash 0 hlisting hrefused]
      simp [properAddresses, StaysBelow, hrefused, url_openai hb, url_ollama_iff]
    · rw [asked_of_not_refused hb.ne_empty hb.slash 0 hlisting hrefused]
      simp [properAddresses, StaysBelow, hrefused, url_openai hb]
  | ollama =>
    have hown : (ChannelType.profile channelType).listing ≠ .openai := by simp [hlisting]
    rw [asksProperly_iff_of_version hb (.inr hlisting), ← asked_bare hb 0,
      asked_of_ne_openai hb.ne_empty hb.slash 0 hown, hlisting]
    simp [properAddresses, StaysBelow, url_ollama_iff]
  | anthropic =>
    have hown : (ChannelType.profile channelType).listing ≠ .openai := by simp [hlisting]
    refine iff_of_false (not_asksProperly_of_doubled hb "/v1/models" hown fun s => ?_) id
    rw [hlisting]
    rfl
  | gemini =>
    have hown : (ChannelType.profile channelType).listing ≠ .openai := by simp [hlisting]
    refine iff_of_false
      (not_asksProperly_of_doubled hb ("/v1/models?key=" ++ key?.getD "None") hown fun s => ?_) id
    rw [hlisting]
    exact Text.append_assoc

/-- A relay that refuses the first request is asked twice, below its own address. -/
theorem asksProperly_relay :
    let link : Link Request := { answers := [.response ⟨404, .json (.obj [])⟩] }
    IsBare "https://relay.example.com" ∧ IsRefused link (some "sk-a") "https://relay.example.com" ∧
      AsksProperly link 1 (some "sk-a") "https://relay.example.com" := by
  intro link
  have hbare : IsBare "https://relay.example.com" := ⟨by decide, by decide, by decide⟩
  refine ⟨hbare, ⟨404, "https://relay.example.com/v1/models", by rfl⟩, ?_⟩
  exact (asksProperly_iff hbare).2.2.2 fun _ => by decide

/-- One way of listing puts the version in a second time, and the way of local servers takes it out
of a longer word, so that another host is asked. -/
theorem not_asksProperly_doubled_or_cut :
    IsBare "https://relay.example.com" ∧
      asked {} 14 (some "sk-ant") "https://relay.example.com/v1" =
        (["https://relay.example.com/v1/v1/models"] : List Text) ∧
      ¬ AsksProperly {} 14 (some "sk-ant") "https://relay.example.com" ∧
    IsBare "http://ollama.example.com/v1beta" ∧
      asked {} 4 none "http://ollama.example.com/v1beta" =
        (["http://ollama.example.combeta/api/tags"] : List Text) ∧
      ¬ AsksProperly {} 4 none "http://ollama.example.com/v1beta" := by
  have hbare : IsBare "https://relay.example.com" := ⟨by decide, by decide, by decide⟩
  have hhost : IsBare "http://ollama.example.com/v1beta" := ⟨by decide, by decide, by decide⟩
  have hdoubled : asked {} 14 (some "sk-ant") "https://relay.example.com/v1" =
      (["https://relay.example.com/v1/v1/models"] : List Text) := by
    rw [show "https://relay.example.com/v1" = "https://relay.example.com/v1" ++ slashes 0 from rfl,
      asked_of_ne_openai (by decide) (by decide) 0 (by decide)]
    rfl
  have hcut : asked {} 4 none "http://ollama.example.com/v1beta" =
      (["http://ollama.example.combeta/api/tags"] : List Text) := by
    rw [← asked_bare hhost 0, asked_of_ne_openai hhost.ne_empty hhost.slash 0 (by decide)]
    rfl
  refine ⟨hbare, hdoubled, not_asksProperly_of_doubled hbare "/v1/models" (by decide) fun s => rfl,
    hhost, hcut, fun h => ?_⟩
  have hproper := (h _ (.slashes 0)).2.2
  rw [asked_bare hhost, hcut] at hproper
  exact absurd hproper (by decide)

end ChannelConsole.Provider
