import ChannelConsole.Proofs.Credential.First
import ChannelConsole.Proofs.Editor.Resaving
import ChannelConsole.Store

/-!
# The key that a provider is asked with

A provider can be asked for the models of a stored channel by the number of the channel, or with
what a form holds that has taken the channel over. The store sends what stands in front of the first
comma of the stored text, and the form what stands in front of the first comma of its own text,
which it has joined anew if it shows several keys. `credentials_of_hydrate` says what either sends,
and when that is the first of the stored keys.
-/

namespace ChannelConsole.Editor.Form

open Backend Channel Credential

variable {f g : Form} {p : Payload}

/-- When models are listed for a stored channel by its number, the key in front of the first comma
of the stored text is sent. A form that has taken the channel over sends its own first key, if it
has one. The former is the first of the stored keys exactly if that one leads alone, and the latter
also if the keys are shown one by one. -/
theorem credentials_of_hydrate {s : Store} {id : Int} (hid : Store.fitsColumn id = true)
    (hfind : s.find? id = some p) (hg : f.hydrate p = (g, .ok ())) :
    (∀ link, s.fetchModelsById link id =
        Store.fetchModels link p.channelType p.baseUrl (first p.key)) ∧
      (g.models.query? none g.draft.baseUrl g.pool.raw =
        if g.pool.firstKey = "" then none
        else some (.byForm p.channelType p.baseUrl g.pool.firstKey)) ∧
      (first p.key = (split p.key).headD "" ↔ LeadsAlone p.key) ∧
      (g.pool.firstKey = (split p.key).headD "" ↔
        ((ChannelType.profile p.channelType).multiKeyView = true ∧ 1 < (split p.key).length) ∨
          LeadsAlone p.key) := by
  have hpool : g.pool = .hydrate (some p.key) p.channelType ∧
      g.models.channelType = p.channelType ∧ g.draft.baseUrl = p.baseUrl := by
    obtain ⟨diagnostics, rfl⟩ := eq_of_hydrate hg
    exact ⟨rfl, rfl, rfl⟩
  obtain ⟨hpool, htype, hurl⟩ := hpool
  refine ⟨fun link => ?_, ?_, first_eq_headD_split_iff, ?_⟩
  · simp only [Store.fetchModelsById, hid, if_true, hfind]
  · by_cases hkey : first g.pool.raw = "" <;>
      simp [Model.Resolver.query?, htype, hurl, Pool.firstKey, hkey]
  · rw [hpool]
    exact Pool.firstKey_hydrate_eq_headD_split_iff

/-- A stored channel with a text of keys. -/
def relayWith (key : Text) : Payload :=
  { id? := some 1, name := "relay", key, models := "gpt-4o"
    baseUrl := "https://relay.example.com" }

theorem credentials_of_hydrate_relay :
    let p := relayWith "sk-a, sk-b"
    let g := (hydrate {} p).1
    (hydrate {} p).2 = .ok () ∧
      (∀ link, Store.fetchModelsById { rows := [(1, p)] } link 1 =
        Store.fetchModels link 1 "https://relay.example.com" "sk-a") ∧
      g.models.query? none g.draft.baseUrl g.pool.raw =
        some (.byForm 1 "https://relay.example.com" "sk-a") ∧
      "sk-a" = (split p.key).headD "" := by
  intro p g
  have hfits : Store.fitsColumn 1 = true := by decide
  have hfind : ({ rows := [(1, p)] } : Store).find? 1 = some p := rfl
  have hg : hydrate {} p = (g, .ok ()) := rfl
  obtain ⟨hid, hform, -, hpool⟩ := credentials_of_hydrate hfits hfind hg
  have hfirst : first p.key = "sk-a" := by decide +kernel
  have hkey : g.pool.firstKey = "sk-a" := by decide +kernel
  rw [hfirst] at hid
  rw [hkey] at hform hpool
  have hlist : (ChannelType.profile p.channelType).multiKeyView = true ∧
      1 < (split p.key).length := by
    decide +kernel
  exact ⟨rfl, hid, hform, hpool.2 (.inl hlist)⟩

/-- What is sent when the models of the only channel are listed by its number. -/
def sentFor (key : Text) : List Provider.Request :=
  (Store.fetchModelsById { rows := [(1, relayWith key)] } {} 1).1.sent

/-- No key is sent if the first comma stands in front of all keys, and two if they stand on two
lines. A form shows the latter one by one. -/
theorem sentFor_ne_headD_split :
    (sentFor ",sk-a" = [{ url := "https://relay.example.com/v1/models" }] ∧
      (split ",sk-a").headD "" = "sk-a" ∧ (hydrate {} (relayWith ",sk-a")).1.pool.firstKey = "") ∧
    sentFor "sk-a\nsk-b" = [{ url := "https://relay.example.com/v1/models"
                              headers := [("Authorization", "Bearer sk-a\nsk-b")] }] ∧
      (split "sk-a\nsk-b").headD "" = "sk-a" ∧
      (hydrate {} (relayWith "sk-a\nsk-b")).1.pool.firstKey = "sk-a" := by
  decide +kernel

end ChannelConsole.Editor.Form
