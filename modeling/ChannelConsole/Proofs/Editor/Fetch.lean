import ChannelConsole.Proofs.Editor.Run
import ChannelConsole.Proofs.Names

/-!
# Fetches while other things happen

The answer of a provider comes to a form that may have changed in the meantime. `resume_fetch` says
what becomes of it after any moves at all: the answer is too late exactly when one of the moves
invalidated it, even if everything was changed back; a late answer and a refusal change nothing but
what is said; and any other answer adds its new names to the selection that is there by then, which
is one for the type and the address that the provider was asked about.
-/

namespace ChannelConsole

open Channel Backend Editor Steps

/-! ### New names -/

namespace Model.Resolver

/-- What names add to a selection, taken one after the other: each that is neither void nor selected
by then. -/
def newNames (selected : List Name) : List Name → List Name
  | [] => []
  | n :: rest =>
    if n.isVoid || n.isAmong selected then newNames selected rest
    else n :: newNames (selected ++ [n]) rest

/-- To be among some names and one more is to be one of these. -/
theorem isAmong_append_singleton (m n : Name) (xs : List Name) :
    m.isAmong (xs ++ [n]) = (m.isAmong xs || n.key == m.key) := by
  rw [Name.isAmong_append]
  simp [Name.isAmong]

/-- Removing repetitions first and what is selected afterwards comes to the same as taking the names
one after the other. -/
theorem novel_eq_newNames (selected names : List Name) :
    novel selected names = newNames selected names := by
  induction names generalizing selected with
  | nil => rfl
  | cons n rest ih =>
    have hrest : ∀ known, (Name.unique rest).filter (!Name.isAmong · known) = newNames known rest :=
      fun known => ih known
    unfold novel newNames
    rw [Name.unique, Names.uniqueBy, ← Name.unique]
    by_cases hv : n.isVoid = true
    · rw [if_pos hv, hrest]
      simp [hv]
    rw [if_neg hv]
    by_cases ha : n.isAmong selected = true
    · -- what has the key of `n` is selected already, so that it is removed anyway
      rw [List.filter_cons_of_neg (by simp [ha]), List.filter_filter, if_pos (by simp [ha]),
        ← hrest]
      apply List.filter_congr
      intro m _
      by_cases hkey : m.key = n.key
      · have hm : m.isAmong selected = true := by rwa [Name.isAmong, hkey, ← Name.isAmong]
        simp [hm]
      · simp [hkey]
    · -- from here on `n` is selected
      rw [List.filter_cons_of_pos (by simp [ha]), List.filter_filter,
        if_neg (by simp [hv, ha]), ← hrest]
      congr 1
      apply List.filter_congr
      intro m _
      rw [isAmong_append_singleton, Bool.not_or]
      by_cases hkey : m.key = n.key
      · simp [hkey]
      · have hne : (n.key == m.key) = false := by simpa using fun h : n.key = m.key => hkey h.symm
        simp [hkey, hne]

/-- An answer that comes in time is merged into the selection. -/
theorem finishFetch_inTime {r : Resolver} {pending : Pending} (names : List Name)
    (h : pending.generation = r.generation) :
    r.finishFetch pending names =
      ({ r with
          models := r.models ++ newNames r.models names
          discovered := Name.unique (r.discovered ++ Name.unique names) },
        { fetched := Name.unique names, added := newNames r.models names }) := by
  have hadded : novel r.models (Name.unique names) = newNames r.models names := by
    rw [novel, Name.unique_unique, ← novel, novel_eq_newNames]
  rw [finishFetch, if_neg (fun hne => hne h), ← hadded]
  rfl

end Model.Resolver

/-! ### Fetches of a form -/

namespace Editor.Form

/-- Only a warning says that an answer came too late. -/
theorem ne_staleNotice {n : Notice} (h : n.level = .success ∨ n.level = .error) :
    n ≠ staleNotice := by
  rintro rfl
  exact absurd h (by decide)

/-- A question that is put with what the form holds is about its type and its address. -/
theorem query?_byForm {r : Model.Resolver} {channelId? : Option Int} {baseUrl credential : Text}
    {channelType : Int} {address key : Text}
    (h : r.query? channelId? baseUrl credential = some (.byForm channelType address key)) :
    channelType = r.channelType ∧ address = baseUrl := by
  unfold Model.Resolver.query? at h
  cases channelId? with
  | some id => simp at h
  | none =>
    simp only at h
    split at h
    · simp at h
    · obtain ⟨rfl, rfl, -⟩ := Model.Resolver.Query.byForm.inj (Option.some.inj h)
      exact ⟨rfl, rfl⟩

/-- A fetch that has begun has the present generation. -/
theorem startFetch_waiting {f g : Form} {call : Call} {pending : Model.Resolver.Pending}
    (h : f.start .fetchModels = (g, .waiting call (.fetch pending))) :
    g = f ∧ pending.generation = f.models.generation ∧ call = callOf pending.query ∧
      f.models.query? f.channelId? f.draft.baseUrl f.pool.raw = some pending.query := by
  unfold start startFetch Model.Resolver.startFetch? at h
  cases hquery : f.models.query? f.channelId? f.draft.baseUrl f.pool.raw with
  | none => simp [hquery, missingKey, saying, Progress.answer] at h
  | some query =>
    simp only [hquery, Option.map_some] at h
    obtain ⟨rfl, hwaiting⟩ := Prod.mk.inj h
    obtain ⟨rfl, hfetch⟩ := Progress.waiting.inj hwaiting
    obtain rfl := Waiting.fetch.inj hfetch
    exact ⟨rfl, rfl, rfl, rfl⟩

/-- A form with fetched names, of which the new ones are added to the selection. -/
def withFetched (f : Form) (names : List Model.Name) : Form :=
  { f with models := { f.models with
      models := f.models.models ++ Model.Resolver.newNames f.models.models names
      discovered := Model.Name.unique (f.models.discovered ++ Model.Name.unique names) } }

/-- An answer that comes after the fetch was invalidated changes nothing but what is said. -/
theorem resume_fetch_late {f : Form} (hf : f.Reachable) {pending : Model.Resolver.Pending}
    (hpending : pending.generation = f.models.generation) {moves : List Move}
    (hinv : Sees after Move.Invalidates f moves) (names : List Model.Name) :
    (f.afterAll moves).resume (.fetch pending) (.models names) =
      ((f.afterAll moves).notify staleNotice, .answer (.notice (some staleNotice))) := by
  have hlist := (consistent_afterAll hf.consistent moves).isList
  have hlt : f.models.generation < (f.afterAll moves).models.generation := by
    rcases afterAll_cases hf.consistent moves with ⟨-, hlt⟩ | ⟨hnot, -⟩
    · exact hlt
    · exact absurd hinv hnot
  -- the generation has gone up since the fetch began, and never comes back
  have hne : pending.generation ≠ (f.afterAll moves).models.generation := by omega
  show (f.afterAll moves).finishFetch pending names = _
  rw [finishFetch_of_isList hlist, if_pos hne]
  rfl

/-- An answer that comes before the fetch was invalidated adds its new names. -/
theorem resume_fetch_inTime {f : Form} (hf : f.Reachable) {pending : Model.Resolver.Pending}
    (hpending : pending.generation = f.models.generation) {moves : List Move}
    (hnot : ¬ Sees after Move.Invalidates f moves) (names : List Model.Name) :
    ∃ notice, notice ≠ staleNotice ∧
      (f.afterAll moves).resume (.fetch pending) (.models names) =
        (((f.afterAll moves).withFetched names).notify notice,
          .answer (.notice (some notice))) := by
  have hlist := (consistent_afterAll hf.consistent moves).isList
  have hsame : pending.generation = (f.afterAll moves).models.generation := by
    rcases afterAll_cases hf.consistent moves with ⟨hinv, -⟩ | ⟨-, hkeep⟩
    · exact absurd hinv hnot
    · rw [hpending, hkeep.generation]
  refine ⟨fetchedNotice ((f.afterAll moves).models.finishFetch pending names).2,
    ne_staleNotice (.inl rfl), ?_⟩
  show (f.afterAll moves).finishFetch pending names = _
  rw [finishFetch_of_isList hlist, if_neg (fun hne => hne hsame),
    Model.Resolver.finishFetch_inTime names hsame]
  rfl

/-- The words of a refusal are those of another notice. -/
theorem resume_fetch_refused (f : Form) (pending : Model.Resolver.Pending) (refusal : Refusal) :
    ∃ notice, notice ≠ staleNotice ∧ f.resume (.fetch pending) (.refused refusal) =
      (f.notify notice, .answer (.notice (some notice))) :=
  ⟨{ level := .error, message := _, field? := some "models" }, ne_staleNotice (.inr rfl), rfl⟩

/-- A provider is asked about the type and the address that the form has. As long as no move makes
its answer useless, these are what the form is about. -/
theorem subject_of_query {f : Form} (hf : f.Consistent) {channelId? : Option Int}
    {credential : Text} {query : Model.Resolver.Query}
    (hquery : f.models.query? channelId? f.draft.baseUrl credential = some query)
    {moves : List Move} (hnot : ¬ Sees after Move.Invalidates f moves) :
    (f.afterAll moves).draft.channelType = f.draft.channelType ∧
    (f.afterAll moves).draft.baseUrl = f.draft.baseUrl ∧
    ∀ channelType baseUrl key, callOf query = .fetchModels channelType baseUrl key →
      (f.afterAll moves).draft.channelType = channelType ∧
      (f.afterAll moves).draft.baseUrl = baseUrl := by
  have hkeep : f.KeepsSubject (f.afterAll moves) := by
    rcases afterAll_cases hf moves with ⟨hinv, -⟩ | ⟨-, hkeep⟩
    · exact absurd hinv hnot
    · exact hkeep
  refine ⟨hkeep.channelType, hkeep.baseUrl, ?_⟩
  intro channelType baseUrl key hcall
  cases query with
  | byId id => simp [callOf] at hcall
  | byForm channelType' baseUrl' key' =>
    -- the question was put with what the form held at that time
    obtain ⟨rfl, rfl, rfl⟩ := Call.fetchModels.inj hcall
    obtain ⟨htype, hbase⟩ := query?_byForm hquery
    rw [hkeep.channelType, hkeep.baseUrl, htype, hbase, hf.channelType]
    exact ⟨rfl, rfl⟩

/-- The provider was asked about the type and the address of the form, and as long as the fetch is
not invalidated, these are what the form is about. -/
theorem subject_of_fetch {f : Form} (hf : f.Reachable) {call : Call}
    {pending : Model.Resolver.Pending}
    (hstart : f.start .fetchModels = (f, .waiting call (.fetch pending))) {moves : List Move}
    (hnot : ¬ Sees after Move.Invalidates f moves) :
    (f.afterAll moves).draft.channelType = f.draft.channelType ∧
    (f.afterAll moves).draft.baseUrl = f.draft.baseUrl ∧
    ∀ channelType baseUrl key, call = .fetchModels channelType baseUrl key →
      (f.afterAll moves).draft.channelType = channelType ∧
      (f.afterAll moves).draft.baseUrl = baseUrl := by
  obtain ⟨-, -, rfl, hquery⟩ := startFetch_waiting hstart
  exact subject_of_query hf.consistent hquery hnot

/-- What becomes of a fetch when other things happen while it is under way. The answer is reported
as too late exactly when one of them invalidated the fetch, even if what was changed was changed
back. A late answer and a refusal leave the form as the moves left it, but for the notice. Any other
answer adds its new names to what is selected by then, and the form still has the type and the
address that the provider was asked about. -/
theorem resume_fetch {f : Form} (hf : f.Reachable) {call : Call}
    {pending : Model.Resolver.Pending}
    (hstart : f.start .fetchModels = (f, .waiting call (.fetch pending))) (moves : List Move) :
    (∀ names, ((f.afterAll moves).resume (.fetch pending) (.models names)).2 =
        .answer (.notice (some staleNotice)) ↔ Sees after Move.Invalidates f moves) ∧
    (Sees after Move.Invalidates f moves → ∀ names,
      ((f.afterAll moves).resume (.fetch pending) (.models names)).1 =
        (f.afterAll moves).notify staleNotice) ∧
    (∀ refusal, ∃ notice, notice ≠ staleNotice ∧
      (f.afterAll moves).resume (.fetch pending) (.refused refusal) =
        ((f.afterAll moves).notify notice, .answer (.notice (some notice)))) ∧
    (¬ Sees after Move.Invalidates f moves →
      (∀ names, ∃ notice, ((f.afterAll moves).resume (.fetch pending) (.models names)).1 =
        ((f.afterAll moves).withFetched names).notify notice) ∧
      (f.afterAll moves).draft.channelType = f.draft.channelType ∧
      (f.afterAll moves).draft.baseUrl = f.draft.baseUrl ∧
      ∀ channelType baseUrl key, call = .fetchModels channelType baseUrl key →
        (f.afterAll moves).draft.channelType = channelType ∧
        (f.afterAll moves).draft.baseUrl = baseUrl) := by
  obtain ⟨-, hpending, -, -⟩ := startFetch_waiting hstart
  refine ⟨fun names => ⟨fun hanswer => ?_, fun hinv => ?_⟩, fun hinv names => ?_,
    resume_fetch_refused _ _, fun hnot => ⟨fun names => ?_, subject_of_fetch hf hstart hnot⟩⟩
  · -- an answer that came in time is reported with another notice
    apply Classical.byContradiction
    intro hnot
    obtain ⟨notice, hne, hresume⟩ := resume_fetch_inTime hf hpending hnot names
    rw [hresume] at hanswer
    simp only [Progress.answer, Progress.done.injEq, Except.ok.injEq, Answer.notice.injEq,
      Option.some.injEq] at hanswer
    exact hne hanswer
  · rw [resume_fetch_late hf hpending hinv]
  · rw [resume_fetch_late hf hpending hinv]
  · obtain ⟨notice, -, hresume⟩ := resume_fetch_inTime hf hpending hnot names
    exact ⟨notice, by rw [hresume]⟩

/-- The type of a stored channel was changed and changed back while its models were fetched. -/
theorem resume_fetch_changed_back :
    ((({ channelId? := some 7 } : Form).afterAll
      [.begin (.changeType 3), .begin (.changeType ChannelType.default)]).resume
        (.fetch ⟨0, .byId 7⟩) (.models [.text "gpt-4"])).2 =
      .answer (.notice (some staleNotice)) := by
  have hchanged : Sees after Move.Invalidates ({ channelId? := some 7 } : Form)
      [.begin (.changeType 3), .begin (.changeType ChannelType.default)] := by
    refine ⟨[], _, _, rfl, ?_⟩
    show (3 : Int) ≠ ChannelType.default
    decide
  exact ((resume_fetch ⟨some 7, true, [], rfl⟩ rfl _).1 [.text "gpt-4"]).2 hchanged

end Editor.Form

end ChannelConsole
