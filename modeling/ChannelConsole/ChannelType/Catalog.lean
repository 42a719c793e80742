import ChannelConsole.ChannelType.Table
import ChannelConsole.Names

/-!
# The catalog of models

The names of models that are known without asking a provider, and which of them a channel type
offers first.

## Main definitions

* `ChannelType.catalog`: all names known here, with names added by the operator behind them.
* `ChannelType.basicModels`: the names a type offers first.
* `ChannelType.choices`: the types one can choose from.

## Main statements

* `ChannelType.nodup_basicModels`: no model is offered twice.
* `ChannelType.mem_basicModels_of_prefixes`: a type without a list of its own offers the names of
  the catalog that begin as its profile says.
-/

namespace ChannelConsole.ChannelType

/-- Names that are known for no particular type. -/
def commonModels : List Text :=
  List.map Text.whole
  ["gpt-3.5-turbo", "gpt-3.5-turbo-0125", "gpt-4", "gpt-4-turbo", "gpt-4o", "gpt-4o-mini",
   "gpt-4.1", "gpt-4.1-mini", "o1", "o1-mini", "o3-mini", "text-embedding-3-small",
   "text-embedding-3-large", "text-embedding-ada-002", "dall-e-3", "whisper-1", "tts-1",
   "claude-3-haiku-20240307", "claude-3-5-sonnet-20240620", "claude-3-5-sonnet-20241022",
   "claude-3-5-haiku-20241022", "claude-3-7-sonnet-20250219", "claude-sonnet-4-20250514",
   "claude-opus-4-20250514", "gemini-1.5-pro", "gemini-1.5-flash", "gemini-2.0-flash",
   "gemini-2.5-pro", "gemini-2.5-flash", "mistral-large-latest", "mistral-small-latest",
   "open-mistral-nemo", "codestral-latest", "deepseek-chat", "deepseek-reasoner", "grok-2",
   "grok-3", "grok-3-mini", "qwen-turbo", "qwen-plus", "qwen-max", "chatglm_turbo", "glm-4",
   "glm-4-flash", "moonshot-v1-8k", "moonshot-v1-32k", "moonshot-v1-128k", "ERNIE-4.0-8K",
   "ERNIE-3.5-8K", "SparkDesk-v3.5", "SparkDesk-v4.0", "hunyuan-lite", "command-r",
   "command-r-plus", "abab6.5-chat", "doubao-pro-32k"]

/-- All names known here: the common ones, those of the types with a list of their own, and then
the given ones. -/
def catalog (extra : List Text) : List Text :=
  Names.unique (commonModels ++ known.flatMap (fun p => p.fixedModels?.getD []) ++ extra)

/-- The names a type offers first: its own list if it has one, and otherwise the names of the
catalog that begin as its profile says. -/
def basicModels (code : Int) (catalog : List Text) : List Text :=
  let p := profile code
  match p.fixedModels? with
  | some models => models
  | none => Names.unique (catalog.filter fun n => p.modelPrefixes.any (Text.beginsWith · n))

/-- The types one can choose from, in ascending order of their codes. -/
def choices : List (Int × Text) := known.map fun p => (p.code, p.name)

/-! ### Facts -/

/-- The lists that types bring with them are clean. -/
theorem clean_fixedModels :
    ∀ p ∈ known, ∀ models, p.fixedModels? = some models → models.Nodup ∧ ("" : Text) ∉ models := by
  decide

/-- A list that a type brings with it is one of the table. -/
theorem clean_of_fixedModels {code : Int} {models : List Text}
    (h : (profile code).fixedModels? = some models) : models.Nodup ∧ ("" : Text) ∉ models := by
  unfold profile at h
  cases hf : known.find? (·.code == code) with
  | none => simp [hf, general] at h
  | some p =>
    exact clean_fixedModels p (List.mem_of_find?_eq_some hf) models (by simpa [hf] using h)

/-- No model is offered twice. -/
theorem nodup_basicModels (code : Int) (catalog : List Text) :
    (basicModels code catalog).Nodup := by
  cases h : (profile code).fixedModels? with
  | none => simpa [basicModels, h] using Names.nodup_unique _
  | some models => simpa [basicModels, h] using (clean_of_fixedModels h).1

/-- The empty name is not offered. -/
theorem not_mem_basicModels_empty (code : Int) (catalog : List Text) :
    ("" : Text) ∉ basicModels code catalog := by
  cases h : (profile code).fixedModels? with
  | none => simpa [basicModels, h] using Names.not_mem_unique_empty _
  | some models => simpa [basicModels, h] using (clean_of_fixedModels h).2

/-- A type without a list of its own offers the names of the catalog that begin as its profile
says. -/
theorem mem_basicModels_of_prefixes {code : Int} {catalog : List Text} {x : Text}
    (h : (profile code).fixedModels? = none) :
    x ∈ basicModels code catalog ↔
      x ∈ catalog ∧ (∃ p ∈ (profile code).modelPrefixes, Text.beginsWith p x) ∧ x ≠ "" := by
  simp [basicModels, h, Names.mem_unique, and_assoc]

end ChannelConsole.ChannelType
