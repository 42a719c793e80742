import ChannelConsole.Text.Search
import ChannelConsole.Text.Digits

/-!
# Profiles of channel types

A channel reaches one kind of provider, given by a type code. The profile of a type says which
fields an editor shows and how it labels them, how keys are typed in, which models are offered first
and how the provider lists its models.

## Main definitions

* `ChannelType.Profile`: everything the type of a channel decides.
* `ChannelType.Profile.visibleFields`: the additional fields that are shown.
* `ChannelType.Profile.otherIsJson`: whether a text in the additional field is meant as JSON.
-/

namespace ChannelConsole.ChannelType

/-- How the additional field of a type is read. -/
inductive OtherKind where
  /-- the type has no such field -/
  | absent
  /-- plain text -/
  | plain
  /-- JSON when it begins with an opening brace, plain text otherwise -/
  | jsonOrPlain
deriving DecidableEq

/-- The name of a kind in answers. -/
def OtherKind.name : OtherKind → Text
  | .absent => "none"
  | .plain => "text"
  | .jsonOrPlain => "json_or_text"

/-- How a provider lists its models. -/
inductive Listing where
  | openai
  | anthropic
  | gemini
  | ollama
deriving DecidableEq

/-- The name of a listing in answers. -/
def Listing.name : Listing → Text
  | .openai => "openai"
  | .anthropic => "anthropic"
  | .gemini => "gemini"
  | .ollama => "ollama"

/-- What the type of a channel decides. The defaults are those of a type that says nothing else. -/
structure Profile where
  code : Int
  name : Text
  /-- the label of the address field, which is hidden when there is none -/
  baseUrlLabel? : Option Text := some "API address"
  baseUrlPlaceholder : Text :=
    "Optional. Custom API address for proxies or special endpoints, without a trailing /v1 or /"
  otherLabel? : Option Text := none
  otherPlaceholder : Text := ""
  otherKind : OtherKind := .absent
  /-- what is stored when the additional field is left empty -/
  otherDefault : Text := ""
  credentialPrompt : Text :=
    "Enter the channel's API key; separate multiple keys with commas"
  /-- whether several keys may be shown one by one -/
  multiKeyView : Bool := true
  /-- whether the key is typed into a field of several lines -/
  credentialTextarea : Bool := false
  showOrganization : Bool := false
  /-- the models of a type that brings its own list -/
  fixedModels? : Option (List Text) := none
  /-- how the names of the models begin that are offered first -/
  modelPrefixes : List Text := ["gpt-", "text-", "claude-"]
  /-- where the provider is found when no address is given -/
  defaultBaseUrl? : Option Text := none
  listing : Listing := .openai
  /-- a remark that is shown for the type -/
  notice? : Option Text := none
deriving DecidableEq

namespace Profile

/-- The additional fields that are shown, in alphabetical order. -/
def visibleFields (p : Profile) : List Text :=
  let base : List Text := if p.baseUrlLabel?.isSome then ["base_url"] else []
  let organization : List Text := if p.showOrganization then ["openai_organization"] else []
  let other : List Text := if p.otherKind = .absent then [] else ["other"]
  base ++ organization ++ other

/-- Whether a text in the additional field is meant as JSON. -/
def otherIsJson (p : Profile) (value : Text) : Bool :=
  p.otherKind == .jsonOrPlain &&
    (Text.dropBlanks value.toList).head? == some (CodePoint.char '\x7b')

end Profile

end ChannelConsole.ChannelType
