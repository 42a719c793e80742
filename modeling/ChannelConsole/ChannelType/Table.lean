import ChannelConsole.ChannelType.Profile

/-!
# The known channel types

The table of the channel types that have a profile of their own, and the general profile that any
other code gets.

## Main definitions

* `ChannelType.known`: the table.
* `ChannelType.profile`: the profile of a code.

## Main statements

* `ChannelType.profile_code`: the profile of a code carries that code.
-/

namespace ChannelConsole.ChannelType

/-! ### Models of the types that bring their own -/

def midjourneyModels : List Text :=
  ["mj_imagine", "mj_variation", "mj_reroll", "mj_blend", "mj_upscale", "mj_describe",
   "mj_uploads"]

def midjourneyPlusModels : List Text :=
  ["swap_face", "mj_imagine", "mj_variation", "mj_reroll", "mj_blend", "mj_upscale",
   "mj_describe", "mj_zoom", "mj_shorten", "mj_modal", "mj_inpaint", "mj_custom_zoom",
   "mj_high_variation", "mj_low_variation", "mj_pan", "mj_uploads"]

def sunoModels : List Text :=
  ["suno_music", "suno_lyrics"]

/-! ### The table -/

/-- The types that have a profile of their own, in ascending order of their codes. -/
def known : List Profile :=
  [{ code := 1, name := "OpenAI", showOrganization := true,
     defaultBaseUrl? := some "https://api.openai.com" },
   { code := 2, name := "Midjourney Proxy", fixedModels? := some midjourneyModels },
   { code := 3, name := "Azure OpenAI", baseUrlLabel? := some "AZURE_OPENAI_ENDPOINT",
     baseUrlPlaceholder := "e.g. https://docs-test-001.openai.azure.com",
     otherLabel? := some "Default API version", otherPlaceholder := "e.g. 2024-12-01-preview",
     otherKind := .plain,
     notice? := some <|
       "Channels added after 2025-05-10 no longer need \".\" removed from deployment " ++
         "model names" },
   { code := 4, name := "Ollama", defaultBaseUrl? := some "http://localhost:11434",
     listing := .ollama },
   { code := 5, name := "Midjourney Proxy Plus", fixedModels? := some midjourneyPlusModels },
   { code := 8, name := "Custom channel",
     baseUrlLabel? := some "Full base URL, supports the \x7bmodel\x7d variable",
     baseUrlPlaceholder := "e.g. https://api.openai.com/v1/chat/completions",
     notice? := some "Use the OpenAI type for upstream One API / New API style relays" },
   { code := 14, name := "Anthropic Claude", modelPrefixes := ["claude-"],
     defaultBaseUrl? := some "https://api.anthropic.com", listing := .anthropic },
   { code := 15, name := "Baidu Wenxin",
     credentialPrompt := "Format: APIKey|SecretKey; separate multiple keys with commas",
     modelPrefixes := ["ERNIE-"] },
   { code := 16, name := "Zhipu ChatGLM", modelPrefixes := ["chatglm"] },
   { code := 17, name := "Alibaba Qwen", modelPrefixes := ["qwen-"] },
   { code := 18, name := "Xunfei Spark", otherLabel? := some "Model version",
     otherPlaceholder := "Version from the API path, e.g. v2.1", otherKind := .plain,
     otherDefault := "v2.1",
     credentialPrompt := "Format: APPID|APISecret|APIKey; separate multiple keys with commas",
     modelPrefixes := ["SparkDesk"] },
   { code := 20, name := "OpenRouter", defaultBaseUrl? := some "https://openrouter.ai/api" },
   { code := 21, name := "Knowledge base (AI Proxy)", otherLabel? := some "Knowledge base ID",
     otherPlaceholder := "e.g. 123456", otherKind := .plain },
   { code := 22, name := "FastGPT", baseUrlLabel? := some "Private deployment address",
     baseUrlPlaceholder := "e.g. https://fastgpt.run/api/openapi",
     credentialPrompt :=
       "Format: APIKey-AppId, e.g. fastgpt-0sp2gtvfdgyi4k30jwlgwf1i-64f335d84283f05518e9e041; " ++
        "separate multiple keys with commas" },
   { code := 23, name := "Tencent Hunyuan",
     credentialPrompt := "Format: AppId|SecretId|SecretKey; separate multiple keys with commas",
     modelPrefixes := ["hunyuan"] },
   { code := 24, name := "Google Gemini", modelPrefixes := ["gemini-"],
     defaultBaseUrl? := some "https://generativelanguage.googleapis.com", listing := .gemini },
   { code := 25, name := "Moonshot", modelPrefixes := ["moonshot-"],
     defaultBaseUrl? := some "https://api.moonshot.cn" },
   { code := 26, name := "Zhipu GLM-4", modelPrefixes := ["glm-"] },
   { code := 33, name := "AWS Claude",
     credentialPrompt := "Format: Ak|Sk|Region; separate multiple keys with commas",
     modelPrefixes := ["claude-"] },
   { code := 34, name := "Cohere", modelPrefixes := ["command"] },
   { code := 35, name := "MiniMax", modelPrefixes := ["abab"] },
   { code := 36, name := "Suno API",
     baseUrlLabel? := some "API address before /suno (not a chat API)",
     baseUrlPlaceholder := "Usually just the domain, e.g. https://api.example.com",
     fixedModels? := some sunoModels },
   { code := 37, name := "Dify",
     notice? := some <|
       "Dify channels support chatflow and agent apps only; agents do not accept " ++
         "images" },
   { code := 39, name := "Cloudflare", otherLabel? := some "Account ID",
     otherPlaceholder := "e.g. d6b5da8hk1awo8nap34ube6gh", otherKind := .plain },
   { code := 40, name := "SiliconFlow", defaultBaseUrl? := some "https://api.siliconflow.cn" },
   { code := 41, name := "Vertex AI", otherLabel? := some "Deployment region",
     otherPlaceholder := "e.g. us-central1, or a JSON object mapping models to regions",
     otherKind := .jsonOrPlain, credentialPrompt := "Paste the service account JSON key",
     multiKeyView := false, credentialTextarea := true, modelPrefixes := ["gemini-", "claude-"] },
   { code := 42, name := "Mistral", modelPrefixes := ["mistral-", "open-mistral", "codestral"],
     defaultBaseUrl? := some "https://api.mistral.ai" },
   { code := 43, name := "DeepSeek", modelPrefixes := ["deepseek-"],
     defaultBaseUrl? := some "https://api.deepseek.com" },
   { code := 45, name := "VolcEngine", baseUrlLabel? := none, modelPrefixes := ["doubao"] },
   { code := 48, name := "xAI", modelPrefixes := ["grok-"],
     defaultBaseUrl? := some "https://api.x.ai" } ]

/-- The profile of a code that is not in the table. -/
def general (code : Int) : Profile :=
  { code, name := "Type " ++ Text.ofInt code }

/-- The profile of a code. -/
def profile (code : Int) : Profile :=
  (known.find? (·.code == code)).getD (general code)

/-- The code of a channel for which no type was chosen. -/
def default : Int := 1

/-- The profile of a code carries that code. -/
theorem profile_code (code : Int) : (profile code).code = code := by
  unfold profile
  cases h : known.find? (·.code == code) with
  | none => rfl
  | some p => simpa using List.find?_some h

end ChannelConsole.ChannelType
