import ChannelConsole.Editor.Edit
import ChannelConsole.Editor.Submission
import ChannelConsole.Backend

/-!
# Operations on an editor

Everything that can be done to a form. Most operations are done at once; five of them ask a store or
a provider and go on when the reply has come. In between, any other operation may be carried out on
the same form: what waits for a reply is a value of its own, and the form is not held back.

## Main definitions

* `Editor.Op`: the operations.
* `Editor.Waiting`: what waits for a reply.
* `Editor.Form.start`, `Editor.Form.resume`: the beginning of an operation, and how it goes on.
* `Editor.Progress`: whether an operation is done or waits.

## Main statements

* `Editor.Form.resume_fault`: a failure that nobody expects ends an operation and changes nothing.
* `Editor.Form.start_of_isLocal`: an operation that asks nobody is done at once.
* `Editor.Form.rank_lt_of_resume`: each call leaves room for fewer calls than the one before.
* `Editor.Form.perform_induction`: what each reply preserves, a whole operation preserves.
-/

namespace ChannelConsole.Editor

open Channel Backend

/-- What can be done to a form. -/
inductive Op where
  | openForm
  | load
  | setField (name : Text) (value : Json)
  | changeType (channelType : Int)
  /-- something happens to the pool of keys alone -/
  | credential (event : Credential.Event)
  /-- something happens in the credential field of the form -/
  | editKeys (event : Credential.Event)
  | fillTemplate (field : Text)
  | addCustom (text : Text)
  | clearModels
  | fillBasic
  | fillAll
  | fetchModels
  | openSelector
  | pick (event : Model.Selector.Event)
  | applySelector
  | cancelSelector
  | validate
  | buildPayload
  | submit
  | reset
  | close

/-- What an operation gives back. -/
inductive Answer where
  | nothing
  | flag (b : Bool)
  | notice (n? : Option Notice)
  | outcome (o : Credential.Outcome)
  | pool (r : Credential.Response)
  | payload (p : Payload)
  | submitted (success : Bool) (n : Notice)
  | noSelector

/-- What goes on when a reply has come. -/
inductive Waiting where
  /-- an editor is being opened and needs the catalog -/
  | catalog
  /-- an editor is being opened and needs the groups -/
  | groups
  /-- a stored channel is to be taken over, possibly because an editor is being opened -/
  | channel (opening : Bool)
  /-- models are to be selected in addition -/
  | fetch (pending : Model.Resolver.Pending)
  /-- models are to be put up for selection -/
  | selection
  /-- a channel is being saved -/
  | save
deriving DecidableEq

/-- Whether an operation is done or waits for the reply to a call. -/
inductive Progress where
  | done (result : Except Fault Answer)
  | waiting (call : Call) (w : Waiting)

/-- The progress of an operation that is done. -/
def Progress.answer (a : Answer) : Progress := .done (.ok a)

/-- The progress of an operation that failed in a way nobody expects. -/
def Progress.fail (f : Fault) : Progress := .done (.error f)

/-- The call that puts a question to a provider. -/
def callOf : Model.Resolver.Query → Call
  | .byId id => .fetchModelsById id
  | .byForm channelType baseUrl key => .fetchModels channelType baseUrl key

namespace Form

/-- Say something, and give it back. -/
def saying (f : Form) (n : Notice) : Form × Progress := (f.notify n, .answer (.notice (some n)))

/-- The words of a refusal, or other words when it has none. -/
def wordsOr (r : Refusal) (otherwise : Text) : Text :=
  if r.words.isEmpty then otherwise else r.words

/-- Say that there is no key. -/
def missingKey (f : Form) : Form × Progress :=
  f.saying { level := .error, message := Model.Resolver.missingKey, field? := some "key" }

/-- Say that models could not be listed. -/
def fetchRefused (f : Form) (r : Refusal) : Form × Progress :=
  f.saying { level := .error, message := wordsOr r "Failed to fetch the model list",
             field? := some "models" }

/-! ### Opening -/

/-- Take over the channel that is edited, or fill in what a new channel begins with. -/
def startChannel (f : Form) : Form × Progress :=
  if f.isEdit then (f, .waiting (.getChannel f.channelId?) (.channel true))
  else (f.fillBasic, .answer .nothing)

/-- What taking over a channel gives back. -/
def loadAnswer (opening loaded : Bool) : Answer := if opening then .nothing else .flag loaded

/-- Say that a channel could not be taken over. -/
def loadRefused (f : Form) (opening : Bool) (message : Text) : Form × Progress :=
  (f.notify { level := .error, message }, .answer (loadAnswer opening false))

/-- What is said about a channel that could not be taken over for no stated reason. -/
def notLoaded (f : Form) : Text :=
  "Channel " ++ (match f.channelId? with
    | some id => Text.ofInt id
    | none => "None") ++ " could not be loaded"

/-- Take over the channel in an answer. -/
def takeOver (f : Form) (opening : Bool) (e : Envelope) : Form × Progress :=
  if e.success then
    match Payload.check e.data with
    | .error issues => (f, .fail (.invalid .channel issues))
    | .ok p =>
      match f.hydrate p with
      | (f, .ok ()) => (f, .answer (loadAnswer opening true))
      | (f, .error fault) => (f, .fail fault)
  else f.loadRefused opening (if e.message.isEmpty then f.notLoaded else e.message)

/-! ### Models from a provider -/

/-- Ask the provider for models that are to be selected in addition. A stored channel is asked for
by its number, a new one with what the form holds. -/
def startFetch (f : Form) : Form × Progress :=
  match f.models.startFetch? f.channelId? f.draft.baseUrl f.pool.raw with
  | none => f.missingKey
  | some pending => (f, .waiting (callOf pending.query) (.fetch pending))

/-- What is said about an answer that came too late. -/
def staleNotice : Notice :=
  { level := .warning
    message := "The channel type or address changed while fetching; the fetched model list was " ++
      "discarded"
    field? := some "models" }

/-- What is said about models that were fetched. -/
def fetchedNotice (r : Model.Resolver.Fetched) : Notice :=
  { level := .success
    message := "Fetched " ++ Text.ofInt r.fetched.length ++ " model(s), " ++
      Text.ofInt r.added.length ++ " new"
    field? := some "models" }

/-- Whether a name is a text that occurs in another one. -/
def isFoundIn (text : Text) : Model.Name → Bool
  | .text name => Text.occursIn name text
  | _ => false

/-- Take over the models that were fetched. A text in the place of the selection counts as having
every name that occurs in it, and can take no other. -/
def finishFetch (f : Form) (pending : Model.Resolver.Pending) (names : List Model.Name) :
    Form × Progress :=
  let (models, r) := f.models.finishFetch pending names
  if r.stale then f.saying staleNotice
  else
    match f.mangled? with
    | none => { f with models }.saying (fetchedNotice r)
    | some mangled =>
      let f := { f with models := { models with models := f.models.models } }
      match r.fetched.find? (!isFoundIn mangled ·) with
      | none => f.saying (fetchedNotice { r with added := [] })
      | some name => (f, .fail (if name.isText then .noSuchPart else .wrongKind))

/-- Open the selector and ask the provider what to put up for selection: with what the form holds if
a key was typed, otherwise for a stored channel by its number. -/
def startSelector (f : Form) : Form × Progress :=
  let f := { f with selector? := some (.ofLists f.selected f.available) }
  let credential := f.pool.raw
  let channelId? := if Text.isAllBlank credential then f.channelId? else none
  match f.models.query? channelId? f.draft.baseUrl credential with
  | none => f.missingKey
  | some query => (f, .waiting (callOf query) .selection)

/-- Put the models that were found up for selection. The selector has to be open still. -/
def finishSelector (f : Form) (names : List Model.Name) : Form × Progress :=
  match f.selector? with
  | none => (f, .fail .noSuchPart)
  | some s =>
    { f with selector? := some (s.setAvailable names) }.saying
      { level := .success
        message := "Fetched " ++ Text.ofInt names.length ++ " model(s)"
        field? := some "models" }

/-! ### Saving -/

/-- Say why a channel was not saved. -/
def notSaved (f : Form) (n : Notice) : Form × Progress :=
  (f.notify n, .answer (.submitted false n))

/-- Say that saving was refused. -/
def saveRefused (f : Form) (message : Text) : Form × Progress :=
  f.notSaved { level := .error, message }

/-- What is said when saving was refused for no stated reason. -/
def saveError : Text := "Failed to save the channel"

/-- What is said about a form that is not as it should be. -/
def brokenNotice : Notice :=
  { level := .error, message := "Submission failed, please do not submit again" }

/-- Save the channel: settle the keys, look for problems, and send the record. A form that is not as
it should be ends the editor. -/
def startSubmit (f : Form) : Form × Progress :=
  let f := { f with pool := f.pool.finalize.1 }
  match f.problem? with
  | some n => f.notSaved n
  | none =>
    match f.payload with
    | .error (.broken _) =>
      ((f.notify brokenNotice).close, .answer (.submitted false brokenNotice))
    | .error fault => (f, .fail fault)
    | .ok p => (f, .waiting (if f.isEdit then .updateChannel p else .createChannel p) .save)

/-- Go on when it is known whether the channel was saved. -/
def finishSubmit (f : Form) (e : Envelope) : Form × Progress :=
  if e.success then (f.saved, .answer (.submitted true f.savedNotice))
  else f.saveRefused (if e.message.isEmpty then saveError else e.message)

/-! ### Operations -/

/-- The result of a change that may fail. -/
def resultOf {α : Type} (answer : α → Answer) (r : Form × Except Fault α) : Form × Progress :=
  match r with
  | (f, .ok a) => (f, .answer (answer a))
  | (f, .error fault) => (f, .fail fault)

/-- Begin an operation. -/
def start (f : Form) : Op → Form × Progress
  | .openForm => (f, .waiting .listCatalog .catalog)
  | .load => (f, .waiting (.getChannel f.channelId?) (.channel false))
  | .setField name value => resultOf .notice (f.setField name value)
  | .changeType channelType =>
    let (f, outcome) := f.changeType channelType
    (f, .answer (.outcome outcome))
  | .credential event =>
    let (pool, response) := f.pool.step event
    ({ f with pool }, .answer (.pool response))
  | .editKeys event =>
    let (f, response) := f.editKeys event
    (f, .answer (.pool response))
  | .fillTemplate field => resultOf (fun _ => .nothing) (f.fillTemplate field)
  | .addCustom text => resultOf .notice (f.addCustom text)
  | .clearModels => (f.clearModels, .answer .nothing)
  | .fillBasic => (f.fillBasic, .answer .nothing)
  | .fillAll => (f.fillAll, .answer .nothing)
  | .fetchModels => f.startFetch
  | .openSelector => f.startSelector
  | .pick event =>
    match f.selector? with
    | some s =>
      if s.admits event then ({ f with selector? := some (s.step event) }, .answer .nothing)
      else (f, .fail .noSuchPart)
    | none => (f, .answer .noSelector)
  | .applySelector => (f.applySelector, .answer .nothing)
  | .cancelSelector => (f.cancelSelector, .answer .nothing)
  | .validate =>
    let (f, n?) := f.validate
    (f, .answer (.notice n?))
  | .buildPayload =>
    match f.payload with
    | .ok p => (f, .answer (.payload p))
    | .error fault => (f, .fail fault)
  | .submit => f.startSubmit
  | .reset => (f.reset, .answer .nothing)
  | .close => (f.close, .answer .nothing)

/-- Go on with an operation when the reply to its call has come. -/
def resume (f : Form) (w : Waiting) (reply : Reply) : Form × Progress :=
  match w, reply with
  | _, .fault fault => (f, .fail fault)
  | .catalog, .names names =>
    ({ f with models := f.models.loadCatalog names }, .waiting .listGroups .groups)
  | .catalog, .refused r =>
    (f.notify { level := .error, message := r.words }, .waiting .listGroups .groups)
  | .groups, .names names => { f with groupOptions := names }.startChannel
  | .groups, .refused r => (f.notify { level := .error, message := r.words }).startChannel
  | .channel opening, .envelope e => f.takeOver opening e
  | .channel opening, .refused r => f.loadRefused opening r.words
  | .fetch pending, .models names => f.finishFetch pending names
  | .fetch _, .refused r => f.fetchRefused r
  | .selection, .models names => f.finishSelector names
  | .selection, .refused r => f.fetchRefused r
  | .save, .envelope e => f.finishSubmit e
  | .save, .refused r => f.saveRefused (wordsOr r saveError)
  | .catalog, .envelope _ | .catalog, .models _ => (f, .fail .wrongKind)
  | .groups, .envelope _ | .groups, .models _ => (f, .fail .wrongKind)
  | .channel _, .names _ | .channel _, .models _ => (f, .fail .wrongKind)
  | .fetch _, .envelope _ | .fetch _, .names _ => (f, .fail .wrongKind)
  | .selection, .envelope _ | .selection, .names _ => (f, .fail .wrongKind)
  | .save, .names _ | .save, .models _ => (f, .fail .wrongKind)

/-- A failure that nobody expects ends an operation and changes nothing. -/
theorem resume_fault (f : Form) (w : Waiting) (fault : Fault) :
    f.resume w (.fault fault) = (f, .fail fault) := by
  cases w <;> rfl

end Form

/-! ### How often an operation asks -/

/-- How many more calls may follow the present one. -/
def Waiting.rank : Waiting → Nat
  | .catalog => 2
  | .groups => 1
  | _ => 0

/-- Whether an operation asks nobody. -/
def Op.isLocal : Op → Bool
  | .openForm | .load | .fetchModels | .openSelector | .submit => false
  | _ => true

/-- What users are told about a fault of an operation. Only the faults of operations that set a
field are told to them; any other fault is not theirs. -/
def Op.faultWords? (op : Op) (fault : Fault) : Option Text :=
  match op with
  | .setField _ _ | .fillTemplate _ => fault.words?
  | _ => none

namespace Form

theorem resultOf_done {α : Type} (answer : α → Answer) (r : Form × Except Fault α) :
    ∃ a, (resultOf answer r).2 = .done a := by
  unfold resultOf
  obtain ⟨f, r⟩ := r
  cases r with
  | ok a => exact ⟨_, rfl⟩
  | error fault => exact ⟨_, rfl⟩

/-- An operation that asks nobody is done at once. -/
theorem start_of_isLocal (f : Form) {op : Op} (h : op.isLocal = true) :
    ∃ r, (f.start op).2 = .done r := by
  cases op with
  | setField name value => exact resultOf_done _ _
  | fillTemplate field => exact resultOf_done _ _
  | addCustom text => exact resultOf_done _ _
  | pick event =>
    unfold start
    cases f.selector? with
    | none => exact ⟨_, rfl⟩
    | some s =>
      simp only
      split
      · exact ⟨_, rfl⟩
      · exact ⟨_, rfl⟩
  | buildPayload =>
    unfold start
    cases f.payload with
    | ok p => exact ⟨_, rfl⟩
    | error fault => exact ⟨_, rfl⟩
  | openForm | load | fetchModels | openSelector | submit => simp [Op.isLocal] at h
  | _ => exact ⟨_, rfl⟩

theorem startChannel_waiting {f g : Form} {call : Call} {w : Waiting}
    (h : f.startChannel = (g, .waiting call w)) : w = .channel true := by
  unfold startChannel at h
  split at h
  · simp only [Prod.mk.injEq, Progress.waiting.injEq] at h
    exact h.2.2.symm
  · simp [Progress.answer] at h

/-- Each call of an operation leaves room for fewer calls than the one before. -/
theorem rank_lt_of_resume {f g : Form} {v w : Waiting} {reply : Reply} {call : Call}
    (h : f.resume v reply = (g, .waiting call w)) : w.rank < v.rank := by
  cases v <;> cases reply <;>
    simp only [resume, takeOver, loadRefused, finishFetch, fetchRefused, finishSelector,
      finishSubmit, saveRefused, notSaved, saying, Progress.answer, Progress.fail] at h
  all_goals grind [startChannel_waiting, Waiting.rank]

/-- Carry out an operation with somebody who answers each call at once and may change while doing
so. The bound on the number of calls is that of an operation that opens an editor. -/
def answeredBy {σ : Type} (answer : σ → Call → σ × Reply) (s : σ) :
    Nat → Form × Progress → σ × Form × Except Fault Answer
  | _, (f, .done r) => (s, f, r)
  | 0, (f, .waiting _ _) => (s, f, .error .wrongKind)
  | n + 1, (f, .waiting call w) =>
    let (s, reply) := answer s call
    answeredBy answer s n (f.resume w reply)

/-- Carry out an operation with somebody who answers each call at once. -/
def perform {σ : Type} (answer : σ → Call → σ × Reply) (s : σ) (f : Form) (op : Op) :
    σ × Form × Except Fault Answer :=
  answeredBy answer s 3 (f.start op)

/-- What holds when an operation begins, and still holds whenever a call was answered or was one too
many, holds when the operation is done. -/
theorem perform_induction {σ : Type} {answer : σ → Call → σ × Reply}
    {P : σ → Form × Progress → Prop}
    (answered : ∀ s f call w, P s (f, .waiting call w) →
      P (answer s call).1 (f.resume w (answer s call).2))
    (ended : ∀ s f call w, P s (f, .waiting call w) → P s (f, .fail .wrongKind))
    {s : σ} {f : Form} {op : Op} (begun : P s (f.start op)) :
    let (s', g, r) := f.perform answer s op
    P s' (g, .done r) := by
  have hrun : ∀ (n : Nat) (s : σ) (x : Form × Progress), P s x →
      P (answeredBy answer s n x).1
        ((answeredBy answer s n x).2.1, .done (answeredBy answer s n x).2.2) := by
    intro n
    induction n with
    | zero =>
      rintro s ⟨f, r | ⟨call, w⟩⟩ h
      · exact h
      · exact ended s f call w h
    | succ n ih =>
      rintro s ⟨f, r | ⟨call, w⟩⟩ h
      · exact h
      · exact ih _ _ (answered s f call w h)
  exact hrun 3 s (f.start op) begun

end Form

end ChannelConsole.Editor
