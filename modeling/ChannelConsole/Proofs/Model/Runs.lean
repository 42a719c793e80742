import ChannelConsole.Proofs.Model.Provenance

/-!
# Runs of a resolver

A resolver changes by events and by the answers to fetches, and anything may happen while a fetch
waits for its answer. `Asking` is a resolver together with the fetches that wait, and
`Asking.afterAll` what becomes of it by moves of any kind in any order: events, questions, answers
and refusals.

Whatever names come in, the lists of a resolver stay clean, all that a resolver has can be picked
and nothing else, and what was discovered or typed in is never forgotten (`Asking.lists_afterAll`).
This rests on what a single event or answer does to a resolver (`Resolver.Tidy.follows`,
`Resolver.Tidy.grows`). The names that a type offers first are worked out from the type and the
catalog; they are never those of another type or of another catalog
(`Resolver.IsCurrent.follows`).
-/

namespace ChannelConsole.Model

/-- Names that are put behind a clean list leave it as it is when repetitions are removed. -/
theorem Name.IsClean.isPrefix_unique_append {xs : List Name} (h : IsClean xs) (ys : List Name) :
    xs <+: unique (xs ++ ys) := by
  have happend := @Names.uniqueBy_append _ _ _ key isVoid xs ys
  rw [← unique, ← unique, h.unique_eq] at happend
  rw [happend]
  exact List.prefix_append xs _

namespace Resolver

variable {r r' r'' : Resolver}

/-- Whether a resolver is as it was, one event later, or one answer later. -/
inductive Follows (r : Resolver) : Resolver → Prop where
  | same : Follows r r
  | event (e : Event) : Follows r (r.step e).1
  | answer (pending : Pending) (names : List Name) : Follows r (r.finishFetch pending names).1

/-- A change of the type, even to the same one, works out anew what the type offers first. Besides,
only the selection and the generation can change. -/
theorem changeType_eq (r : Resolver) (channelType : Int) :
    ∃ models generation, (r.changeType channelType).1 =
      { r with
        channelType
        basic := ChannelType.basicModels channelType r.catalog
        models
        generation } := by
  unfold changeType
  simp only
  split
  · exact ⟨_, _, rfl⟩
  · rename_i hsame
    obtain rfl := not_not.1 hsame
    split <;> exact ⟨_, _, rfl⟩

/-! ### The names that a type offers first -/

/-- Whether the names that are offered first are those of the type, given the catalog. -/
def IsCurrent (r : Resolver) : Prop := r.basic = ChannelType.basicModels r.channelType r.catalog

theorem isCurrent_ofType (channelType : Int) : (ofType channelType).IsCurrent := rfl

/-- Whenever the type or the catalog changes, the names are worked out anew. -/
theorem IsCurrent.step (h : r.IsCurrent) (e : Event) : (r.step e).1.IsCurrent := by
  cases e with
  | changeType channelType =>
    obtain ⟨models, generation, heq⟩ := changeType_eq r channelType
    show (r.changeType channelType).1.IsCurrent
    rw [heq]
    rfl
  | loadCatalog names | hydrate models channelType => exact rfl
  | _ => exact h

theorem IsCurrent.finishFetch (h : r.IsCurrent) (pending : Pending) (names : List Name) :
    (r.finishFetch pending names).1.IsCurrent := by
  unfold Resolver.finishFetch
  simp only
  split <;> exact h

theorem IsCurrent.follows (h : r.IsCurrent) (hr : r.Follows r') : r'.IsCurrent := by
  cases hr with
  | same => exact h
  | event e => exact h.step e
  | answer pending names => exact h.finishFetch pending names

/-! ### Clean lists -/

/-- Whether no list of a resolver has a void name, or a name twice. -/
structure Tidy (r : Resolver) : Prop where
  models : Name.IsClean r.models
  catalog : Names.IsClean r.catalog
  discovered : Name.IsClean r.discovered
  custom : Names.IsClean r.custom
  basic : Names.IsClean r.basic

theorem names_isClean_basicModels (code : Int) (catalog : List Text) :
    Names.IsClean (ChannelType.basicModels code catalog) :=
  ⟨ChannelType.nodup_basicModels code catalog, ChannelType.not_mem_basicModels_empty code catalog⟩

theorem tidy_ofType (channelType : Int) : (ofType channelType).Tidy where
  models := Name.isClean_nil
  catalog := ⟨List.nodup_nil, List.not_mem_nil⟩
  discovered := Name.isClean_nil
  custom := ⟨List.nodup_nil, List.not_mem_nil⟩
  basic := names_isClean_basicModels channelType []

/-- Names that are typed in are kept once, even if they are selected and taken back many times. -/
theorem Tidy.custom_addCustom (h : r.Tidy) (text : Text) :
    Names.IsClean (r.addCustom text).1.custom := by
  let added := (sortOut (Name.texts r.models) (typedNames text)).added
  have hfresh : ∀ s ∈ added.filter (· ∉ r.custom), s ∉ r.custom := by
    intro s hs
    simpa using (List.mem_filter.1 hs).2
  have hnamed : ("" : Text) ∉ added :=
    fun hempty => Text.mem_items_ne_empty (mem_added_sortOut hempty).1 rfl
  constructor
  · refine List.nodup_append.2 ⟨h.custom.distinct, ?_, ?_⟩
    · exact (nodup_added_sortOut _ _).filter _
    · rintro s hs t ht rfl
      exact hfresh s ht hs
  · intro hempty
    rcases List.mem_append.1 hempty with hempty | hempty
    · exact h.custom.named hempty
    · exact hnamed (List.mem_filter.1 hempty).1

theorem Tidy.step (h : r.Tidy) (e : Event) : (r.step e).1.Tidy := by
  have hmodels := isClean_step h.models e
  cases e with
  | loadCatalog names =>
    have hcatalog := Names.isClean_unique names
    exact { h with catalog := hcatalog, basic := names_isClean_basicModels r.channelType _ }
  | hydrate models channelType =>
    exact { h with models := hmodels, basic := names_isClean_basicModels channelType r.catalog }
  | changeType channelType =>
    obtain ⟨models, generation, heq⟩ := changeType_eq r channelType
    have hmodels : Name.IsClean (r.changeType channelType).1.models := hmodels
    show (r.changeType channelType).1.Tidy
    rw [heq] at hmodels ⊢
    exact { h with models := hmodels, basic := names_isClean_basicModels channelType r.catalog }
  | addCustom text => exact { h with models := hmodels, custom := h.custom_addCustom text }
  | _ => exact { h with models := hmodels }

theorem Tidy.finishFetch (h : r.Tidy) (pending : Pending) (names : List Name) :
    (r.finishFetch pending names).1.Tidy := by
  have hmodels := isClean_finishFetch h.models pending names
  unfold Resolver.finishFetch at hmodels ⊢
  simp only at hmodels ⊢
  split
  · exact h
  · rename_i hinTime
    rw [if_neg hinTime] at hmodels
    exact { h with models := hmodels, discovered := Name.isClean_unique _ }

theorem Tidy.follows (h : r.Tidy) (hr : r.Follows r') : r'.Tidy := by
  cases hr with
  | same => exact h
  | event e => exact h.step e
  | answer pending names => exact h.finishFetch pending names

/-! ### What can be picked -/

/-- Whether a resolver has a name: it is selected, in the catalog, discovered, or typed in. -/
def Has (r : Resolver) (n : Name) : Prop :=
  n ∈ Name.ofTexts r.catalog ∨ n ∈ r.discovered ∨ n ∈ Name.ofTexts r.custom ∨ n ∈ r.models

theorem has_of_mem_available {n : Name} (hn : n ∈ r.available) : r.Has n := by
  have hmem := Name.mem_of_mem_unique hn
  simpa only [Has, List.mem_append, or_assoc] using hmem

theorem Tidy.isVoid_eq_false (h : r.Tidy) {n : Name} (hn : r.Has n) : n.isVoid = false := by
  rcases hn with hn | hn | hn | hn
  · exact (Name.isClean_ofTexts h.catalog.distinct h.catalog.named).named n hn
  · exact h.discovered.named n hn
  · exact (Name.isClean_ofTexts h.custom.distinct h.custom.named).named n hn
  · exact h.models.named n hn

/-- All that a tidy resolver has can be picked. -/
theorem Tidy.isAmong_available (h : r.Tidy) {n : Name} (hn : r.Has n) :
    n.isAmong r.available = true := by
  rw [available, Name.isAmong_unique (h.isVoid_eq_false hn), Name.isAmong_iff]
  refine ⟨n, ?_, rfl⟩
  simpa only [Has, List.mem_append, or_assoc] using hn

/-! ### What is never forgotten -/

/-- Whether one resolver has discovered and been told what another one has, and perhaps more since
then. -/
structure Grows (r r' : Resolver) : Prop where
  discovered : r.discovered <+: r'.discovered
  custom : r.custom <+: r'.custom

theorem Grows.refl (r : Resolver) : r.Grows r := ⟨List.prefix_rfl, List.prefix_rfl⟩

theorem Grows.trans (h : r.Grows r') (h' : r'.Grows r'') : r.Grows r'' :=
  ⟨h.discovered.trans h'.discovered, h.custom.trans h'.custom⟩

theorem grows_step (r : Resolver) (e : Event) : r.Grows (r.step e).1 := by
  cases e with
  | changeType channelType =>
    obtain ⟨models, generation, heq⟩ := changeType_eq r channelType
    show r.Grows (r.changeType channelType).1
    rw [heq]
    exact ⟨List.prefix_rfl, List.prefix_rfl⟩
  | addCustom text => exact ⟨List.prefix_rfl, List.prefix_append _ _⟩
  | _ => exact ⟨List.prefix_rfl, List.prefix_rfl⟩

theorem Tidy.grows_finishFetch (h : r.Tidy) (pending : Pending) (names : List Name) :
    r.Grows (r.finishFetch pending names).1 := by
  unfold Resolver.finishFetch
  simp only
  split
  · exact .refl r
  · exact ⟨h.discovered.isPrefix_unique_append _, List.prefix_rfl⟩

theorem Tidy.grows (h : r.Tidy) (hr : r.Follows r') : r.Grows r' := by
  cases hr with
  | same => exact .refl r
  | event e => exact grows_step r e
  | answer pending names => exact h.grows_finishFetch pending names

end Resolver

/-! ### Runs -/

/-- A resolver and the fetches that wait for an answer. -/
structure Asking where
  resolver : Resolver
  waiting : List Resolver.Pending := []

namespace Asking

/-- What can happen to a resolver while fetches wait. -/
inductive Move where
  | change (e : Resolver.Event)
  /-- models are listed and not merged, which concerns nobody but who asked -/
  | discover (channelId? : Option Int) (baseUrl credential : Text)
  | fetch (channelId? : Option Int) (baseUrl credential : Text)
  /-- the answer to one of the fetches that wait comes -/
  | answer (i : Nat) (names : List Name)
  /-- one of the fetches that wait is refused -/
  | refuse (i : Nat)

/-- A resolver of which nothing was asked yet. -/
def ofType (channelType : Int) : Asking := { resolver := .ofType channelType }

/-- What a move leaves. A fetch without a key is not begun, and an answer that nobody waits for is
lost. -/
def after (a : Asking) : Move → Asking
  | .change e => { a with resolver := (a.resolver.step e).1 }
  | .discover _ _ _ => a
  | .fetch channelId? baseUrl credential =>
    let pending? := a.resolver.startFetch? channelId? baseUrl credential
    { a with waiting := a.waiting ++ pending?.toList }
  | .answer i names =>
    match a.waiting[i]? with
    | none => a
    | some pending =>
      { resolver := (a.resolver.finishFetch pending names).1, waiting := a.waiting.eraseIdx i }
  | .refuse i => { a with waiting := a.waiting.eraseIdx i }

/-- What several moves leave. -/
def afterAll (a : Asking) (moves : List Move) : Asking := moves.foldl after a

/-- A move is at most one event or one answer for the resolver. -/
theorem follows_after (a : Asking) (m : Move) : a.resolver.Follows (a.after m).resolver := by
  cases m with
  | change e => exact .event e
  | discover channelId? baseUrl credential => exact .same
  | fetch channelId? baseUrl credential => exact .same
  | answer i names =>
    simp only [after]
    split
    · exact .same
    · exact .answer _ names
  | refuse i => exact .same

theorem tidy_grows_afterAll {a : Asking} (h : a.resolver.Tidy) (moves : List Move) :
    (a.afterAll moves).resolver.Tidy ∧ a.resolver.Grows (a.afterAll moves).resolver := by
  induction moves generalizing a with
  | nil => exact ⟨h, .refl a.resolver⟩
  | cons m moves ih =>
    have hfollows := follows_after a m
    obtain ⟨htidy, hgrows⟩ := ih (h.follows hfollows)
    exact ⟨htidy, (h.grows hfollows).trans hgrows⟩

/-! ### Main statement -/

/-- After any moves from the beginning, no list of a resolver has a void name or a name twice, what
can be picked is exactly what the resolver has, and what was discovered or typed in stays there
through all further moves. -/
theorem lists_afterAll (channelType : Int) (before moves : List Move) :
    let a := (ofType channelType).afterAll before
    a.resolver.Tidy ∧ Name.IsClean a.resolver.available ∧
      (∀ n, a.resolver.Has n → n.isAmong a.resolver.available = true) ∧
      (∀ n ∈ a.resolver.available, a.resolver.Has n) ∧
      a.resolver.Grows (a.afterAll moves).resolver := by
  intro a
  obtain ⟨htidy, -⟩ :=
    tidy_grows_afterAll (a := ofType channelType) (Resolver.tidy_ofType channelType) before
  refine ⟨htidy, Name.isClean_unique _, fun n => htidy.isAmong_available,
    fun n => Resolver.has_of_mem_available, ?_⟩
  exact (tidy_grows_afterAll htidy moves).2

end Asking

end ChannelConsole.Model
