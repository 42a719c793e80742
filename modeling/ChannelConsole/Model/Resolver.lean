import ChannelConsole.ChannelType.Catalog
import ChannelConsole.Credential.Keys
import ChannelConsole.Model.Name

/-!
# The models of a channel

Which models a channel is to serve, together with the lists they are picked from: the catalog, what
the provider was found to serve, and names that were typed in. Asking a provider takes time, and
other things may happen meanwhile; an answer counts only if nothing happened that makes it an answer
about another type or address.

## Main definitions

* `Model.Resolver`: the selected models and the lists beside them.
* `Model.Resolver.query?`: the question that is put to the provider.
* `Model.Resolver.startFetch?`, `Model.Resolver.finishFetch`: the two ends of a fetch.
* `Model.Resolver.Event`: the other things that can happen, and `Model.Resolver.step` what they do.

## Main statements

* `Model.Resolver.merge_models`: merging keeps the selection and adds to its end.
* `Model.Resolver.finishFetch_stale`: an answer that comes too late changes nothing.
-/

namespace ChannelConsole.Model

/-- The selected models and the lists they are picked from. `generation` counts the changes that
make the answer of a fetch under way useless. -/
structure Resolver where
  channelType : Int := ChannelType.default
  models : List Name := []
  catalog : List Text := []
  discovered : List Name := []
  custom : List Text := []
  basic : List Text := []
  generation : Nat := 0
deriving DecidableEq

namespace Resolver

/-- The resolver of a new channel of a type. -/
def ofType (channelType : Int) : Resolver :=
  { channelType, basic := ChannelType.basicModels channelType [] }

/-- All models that can be picked. -/
def available (r : Resolver) : List Name :=
  Name.unique (Name.ofTexts r.catalog ++ r.discovered ++ Name.ofTexts r.custom ++ r.models)

/-! ### Changes -/

/-- Take over a catalog. -/
def loadCatalog (r : Resolver) (names : List Text) : Resolver :=
  let catalog := Names.unique names
  { r with catalog, basic := ChannelType.basicModels r.channelType catalog }

/-- Answers to fetches under way are about another channel from now on. -/
def invalidate (r : Resolver) : Resolver := { r with generation := r.generation + 1 }

/-- Take over the models of a stored channel. -/
def hydrate (r : Resolver) (models : List Text) (channelType : Int) : Resolver :=
  { r with
    channelType
    models := Name.unique (Name.ofTexts models)
    basic := ChannelType.basicModels channelType r.catalog
    generation := r.generation + 1 }

/-- The channel got a type. If it is another one, or if nothing was selected, the models which that
type offers first are selected; the second part of the result says whether they were. -/
def changeType (r : Resolver) (channelType : Int) : Resolver × Bool :=
  let basic := ChannelType.basicModels channelType r.catalog
  if channelType ≠ r.channelType then
    ({ r with
      channelType
      basic
      models := Name.ofTexts basic
      generation := r.generation + 1 }, true)
  else if r.models.isEmpty then ({ r with basic, models := Name.ofTexts basic }, true)
  else ({ r with basic }, false)

/-- Select the given models. -/
def setModels (r : Resolver) (names : List Name) : Resolver :=
  { r with models := Name.unique names }

/-- Select the models that the type offers first. -/
def fillBasic (r : Resolver) : Resolver := r.setModels (Name.ofTexts r.basic)

/-- Select the whole catalog. -/
def fillAll (r : Resolver) : Resolver := r.setModels (Name.ofTexts r.catalog)

/-- Select nothing. -/
def clear (r : Resolver) : Resolver := { r with models := [] }

/-- The names that a list adds to others: those that are neither void nor there already, each once,
in the order of first mention. -/
def novel (known names : List Name) : List Name :=
  (Name.unique names).filter (!Name.isAmong · known)

/-- Select the given models in addition. The second part of the result is what was new. -/
def merge (r : Resolver) (names : List Name) : Resolver × List Name :=
  let added := novel r.models names
  ({ r with models := r.models ++ added }, added)

/-! ### Typed names -/

/-- The names in typed text: the runs of characters that are neither blank nor commas. -/
def typedNames (text : Text) : List Text :=
  Text.items (fun c => c == ',' || Text.isBlank c) text

/-- What became of typed names. -/
structure Typed where
  added : List Text
  duplicates : List Text
deriving DecidableEq

/-- Tell typed names that are new from those that are known, where a name counts as known once it
was mentioned. -/
def sortOut (known : List Text) : List Text → Typed
  | [] => ⟨[], []⟩
  | x :: r =>
    if x ∈ known then
      let t := sortOut known r
      { t with duplicates := x :: t.duplicates }
    else
      let t := sortOut (known ++ [x]) r
      { t with added := x :: t.added }

/-- Select the names in typed text and keep them among those that can be picked. -/
def addCustom (r : Resolver) (text : Text) : Resolver × Typed :=
  let t := sortOut (Name.texts r.models) (typedNames text)
  ({ r with
    models := r.models ++ Name.ofTexts t.added
    custom := r.custom ++ t.added.filter (· ∉ r.custom) }, t)

/-! ### Asking the provider -/

/-- A question put to the provider: for a stored channel by its number, otherwise with what the form
holds. -/
inductive Query where
  | byId (channelId : Int)
  | byForm (channelType : Int) (baseUrl key : Text)
deriving DecidableEq

/-- The question for a channel, which is the number of a stored one or the given address and the
first of the given keys. There is none when no key is given. -/
def query? (r : Resolver) (channelId? : Option Int) (baseUrl credential : Text) : Option Query :=
  match channelId? with
  | some id => some (.byId id)
  | none =>
    let key := Credential.first credential
    if key.isEmpty then none else some (.byForm r.channelType baseUrl key)

/-- What is said when there is no key. -/
def missingKey : Text := "Please fill in the channel key first"

/-- A fetch whose answer has not come yet. -/
structure Pending where
  generation : Nat
  query : Query
deriving DecidableEq

/-- What a fetch came to. -/
structure Fetched where
  fetched : List Name
  added : List Name := []
  /-- whether the answer came too late to count -/
  stale : Bool := false
deriving DecidableEq

/-- Start a fetch. -/
def startFetch? (r : Resolver) (channelId? : Option Int) (baseUrl credential : Text) :
    Option Pending :=
  (r.query? channelId? baseUrl credential).map fun query => { generation := r.generation, query }

/-- Take over the answer of a fetch: what it names can be picked and is selected in addition, unless
the answer comes too late. -/
def finishFetch (r : Resolver) (pending : Pending) (names : List Name) : Resolver × Fetched :=
  let fetched := Name.unique names
  if pending.generation ≠ r.generation then (r, { fetched, stale := true })
  else
    let r := { r with discovered := Name.unique (r.discovered ++ fetched) }
    let (r, added) := r.merge fetched
    (r, { fetched, added })

/-! ### Runs -/

/-- What can happen to a resolver, fetches aside. -/
inductive Event where
  | loadCatalog (names : List Text)
  | hydrate (models : List Text) (channelType : Int)
  | changeType (channelType : Int)
  | invalidate
  | setModels (names : List Name)
  | fillBasic
  | fillAll
  | clear
  | merge (names : List Name)
  | addCustom (text : Text)
deriving DecidableEq

/-- What an event gives back. -/
inductive Response where
  | nothing
  | replaced (b : Bool)
  | names (xs : List Name)
  | typed (t : Typed)
deriving DecidableEq

/-- What an event does to a resolver, and what it gives back. -/
def step (r : Resolver) : Event → Resolver × Response
  | .loadCatalog names => (r.loadCatalog names, .nothing)
  | .hydrate models channelType => (r.hydrate models channelType, .nothing)
  | .changeType channelType => (r.changeType channelType).map id .replaced
  | .invalidate => (r.invalidate, .nothing)
  | .setModels names => (r.setModels names, .nothing)
  | .fillBasic => (r.fillBasic, .nothing)
  | .fillAll => (r.fillAll, .nothing)
  | .clear => (r.clear, .nothing)
  | .merge names => (r.merge names).map id .names
  | .addCustom text => (r.addCustom text).map id .typed

/-! ### Small facts -/

/-- Merging keeps the selection and adds to its end. -/
theorem merge_models (r : Resolver) (names : List Name) :
    (r.merge names).1.models = r.models ++ (r.merge names).2 := rfl

/-- An answer that comes too late changes nothing. -/
theorem finishFetch_stale {r : Resolver} {pending : Pending} (names : List Name)
    (h : pending.generation ≠ r.generation) :
    r.finishFetch pending names = (r, { fetched := Name.unique names, stale := true }) := by
  simp [finishFetch, h]

end Resolver

end ChannelConsole.Model
