import ChannelConsole.Model.Resolver
import ChannelConsole.Model.Selector
import ChannelConsole.Proofs.Names

/-!
# Where the names of models come from

A resolver has names that events brought (`Resolver.Event.names`) and names that types bring with
them, and no others: a property that holds of all of these holds of every name that a resolver has
(`Resolver.Holds.step`, `Resolver.Holds.finishFetch`). The same is shown of a selector. Besides, the
selected models are named, and none of them twice (`Resolver.isClean_step`,
`Resolver.isClean_finishFetch`).
-/

namespace ChannelConsole.Model

/-! ### Clean lists -/

namespace Name

variable {n : Name} {xs ys : List Name}

/-- Whether no name of a list is void and none is there twice. -/
structure IsClean (xs : List Name) : Prop where
  distinct : (xs.map key).Nodup
  named : ∀ n ∈ xs, n.isVoid = false

theorem mem_of_mem_unique (h : n ∈ unique xs) : n ∈ xs := (Names.mem_of_mem_uniqueBy h).1

theorem isClean_nil : IsClean [] := ⟨List.nodup_nil, fun _ hn => absurd hn List.not_mem_nil⟩

theorem isClean_unique (xs : List Name) : IsClean (unique xs) :=
  ⟨nodup_map_key_unique xs, fun _ hn => (Names.mem_of_mem_uniqueBy hn).2⟩

theorem IsClean.unique_eq (h : IsClean xs) : unique xs = xs :=
  Names.uniqueBy_eq_self h.distinct h.named

theorem isClean_ofTexts {texts : List Text} (hd : texts.Nodup) (he : ("" : Text) ∉ texts) :
    IsClean (ofTexts texts) := by
  have hunique : unique (ofTexts texts) = ofTexts texts := by
    rw [unique_ofTexts, Names.unique_eq_self hd he]
  exact hunique ▸ isClean_unique _

/-- Clean lists without a common name make a clean list. -/
theorem IsClean.append (hx : IsClean xs) (hy : IsClean ys)
    (hnew : ∀ n ∈ ys, n.isAmong xs = false) : IsClean (xs ++ ys) where
  distinct := by
    rw [List.map_append, List.nodup_append]
    refine ⟨hx.distinct, hy.distinct, ?_⟩
    intro k hk k' hk' hkk
    obtain ⟨m, hm, rfl⟩ := List.mem_map.1 hk
    obtain ⟨n, hn, rfl⟩ := List.mem_map.1 hk'
    have hamong : n.isAmong xs = true := by
      rw [isAmong, List.any_eq_true]
      exact ⟨m, hm, by simpa using hkk⟩
    rw [hnew n hn] at hamong
    exact absurd hamong (by simp)
  named n hn := by
    rcases List.mem_append.1 hn with hn | hn
    · exact hx.named n hn
    · exact hy.named n hn

end Name

/-! ### Typed names -/

namespace Resolver

/-- Typed names that are taken over were typed, and were not known. -/
theorem mem_added_sortOut {x : Text} {known xs : List Text}
    (h : x ∈ (sortOut known xs).added) : x ∈ xs ∧ x ∉ known := by
  induction xs generalizing known with
  | nil => simp [sortOut] at h
  | cons y xs ih =>
    rw [sortOut] at h
    split at h
    · obtain ⟨hx, hknown⟩ := ih h
      exact ⟨List.mem_cons_of_mem y hx, hknown⟩
    · rename_i hy
      rcases List.mem_cons.1 h with rfl | h
      · exact ⟨List.mem_cons_self, hy⟩
      · obtain ⟨hx, hknown⟩ := ih h
        exact ⟨List.mem_cons_of_mem y hx, fun hk => hknown (List.mem_append_left _ hk)⟩

theorem nodup_added_sortOut (known xs : List Text) : (sortOut known xs).added.Nodup := by
  induction xs generalizing known with
  | nil => exact List.nodup_nil
  | cons x xs ih =>
    rw [sortOut]
    split
    · exact ih known
    · -- from here on the name is known, so it is not taken over again
      refine List.nodup_cons.2 ⟨fun hx => ?_, ih _⟩
      exact (mem_added_sortOut hx).2 (List.mem_append_right _ (List.mem_singleton.2 rfl))

theorem isPlain_of_mem_typedNames {x text : Text} (h : x ∈ typedNames text) :
    Names.IsPlain x := by
  obtain ⟨hne, htrim, hcut⟩ := Text.clean_of_mem_items h
  refine Names.isPlain_iff.2 ⟨hne, htrim, fun hcomma => ?_⟩
  exact absurd (hcut ',' hcomma) (by decide)

/-! ### The selected models are clean -/

variable {r : Resolver}

theorem isClean_basicModels (code : Int) (catalog : List Text) :
    Name.IsClean (Name.ofTexts (ChannelType.basicModels code catalog)) :=
  Name.isClean_ofTexts (ChannelType.nodup_basicModels code catalog)
    (ChannelType.not_mem_basicModels_empty code catalog)

theorem isClean_merge (h : Name.IsClean r.models) (names : List Name) :
    Name.IsClean (r.merge names).1.models := by
  have hunique := Name.isClean_unique names
  have hnovel : Name.IsClean (novel r.models names) :=
    ⟨(List.filter_sublist.map _).nodup hunique.distinct,
      fun n hn => hunique.named n (List.mem_filter.1 hn).1⟩
  refine h.append hnovel fun n hn => ?_
  simpa using (List.mem_filter.1 hn).2

theorem isClean_addCustom (h : Name.IsClean r.models) (text : Text) :
    Name.IsClean (r.addCustom text).1.models := by
  have hadded : Name.IsClean
      (Name.ofTexts (sortOut (Name.texts r.models) (typedNames text)).added) := by
    refine Name.isClean_ofTexts (nodup_added_sortOut _ _) fun hempty => ?_
    exact Text.mem_items_ne_empty (mem_added_sortOut hempty).1 rfl
  refine h.append hadded fun n hn => ?_
  obtain ⟨s, hs, rfl⟩ := List.mem_map.1 hn
  rw [Bool.eq_false_iff]
  intro hamong
  -- a text that is selected is known
  have hselected : s ∈ Name.texts r.models :=
    List.mem_filterMap.2 ⟨.text s, Name.isAmong_text.1 hamong, rfl⟩
  exact (mem_added_sortOut hs).2 hselected

theorem isClean_changeType (h : Name.IsClean r.models) (channelType : Int) :
    Name.IsClean (r.changeType channelType).1.models := by
  unfold changeType
  simp only
  split
  · exact isClean_basicModels channelType r.catalog
  · split
    · exact isClean_basicModels channelType r.catalog
    · exact h

theorem isClean_step (h : Name.IsClean r.models) (e : Event) :
    Name.IsClean (r.step e).1.models := by
  cases e with
  | loadCatalog names => exact h
  | hydrate models channelType => exact Name.isClean_unique _
  | changeType channelType => exact isClean_changeType h channelType
  | invalidate => exact h
  | setModels names => exact Name.isClean_unique _
  | fillBasic => exact Name.isClean_unique _
  | fillAll => exact Name.isClean_unique _
  | clear => exact Name.isClean_nil
  | merge names => exact isClean_merge h names
  | addCustom text => exact isClean_addCustom h text

theorem isClean_finishFetch (h : Name.IsClean r.models) (pending : Pending) (names : List Name) :
    Name.IsClean (r.finishFetch pending names).1.models := by
  unfold finishFetch
  simp only
  split
  · exact h
  · exact isClean_merge h _

/-! ### What holds of names -/

/-- Whether a property holds of every name that a resolver has. -/
structure Holds (P : Name → Prop) (r : Resolver) : Prop where
  models : ∀ n ∈ r.models, P n
  catalog : ∀ s ∈ r.catalog, P (.text s)
  discovered : ∀ n ∈ r.discovered, P n
  custom : ∀ s ∈ r.custom, P (.text s)
  basic : ∀ s ∈ r.basic, P (.text s)

/-- Whether a property holds of the names that types bring with them. -/
def HoldsOfFixed (P : Name → Prop) : Prop :=
  ∀ code models, (ChannelType.profile code).fixedModels? = some models →
    ∀ s ∈ models, P (.text s)

/-- The names that an event brings. -/
def Event.names : Event → List Name
  | .loadCatalog names => Name.ofTexts names
  | .hydrate models _ => Name.ofTexts models
  | .setModels names => names
  | .merge names => names
  | .addCustom text => Name.ofTexts (typedNames text)
  | _ => []

section

variable {P : Name → Prop}

theorem forall_mem_ofTexts {texts : List Text} :
    (∀ n ∈ Name.ofTexts texts, P n) ↔ ∀ s ∈ texts, P (.text s) := List.forall_mem_map

theorem forall_mem_unique {xs : List Name} (h : ∀ n ∈ xs, P n) : ∀ n ∈ Name.unique xs, P n :=
  fun n hn => h n (Name.mem_of_mem_unique hn)

theorem forall_mem_basicModels (hfixed : HoldsOfFixed P) {catalog : List Text}
    (h : ∀ s ∈ catalog, P (.text s)) (code : Int) :
    ∀ s ∈ ChannelType.basicModels code catalog, P (.text s) := by
  intro s hs
  unfold ChannelType.basicModels at hs
  simp only at hs
  split at hs
  · rename_i models hmodels
    exact hfixed code models hmodels s hs
  · have hmem := (Names.mem_unique.1 hs).1
    exact h s (List.mem_filter.1 hmem).1

theorem holds_ofType (hfixed : HoldsOfFixed P) (channelType : Int) :
    (ofType channelType).Holds P where
  models _ hn := absurd hn List.not_mem_nil
  catalog _ hn := absurd hn List.not_mem_nil
  discovered _ hn := absurd hn List.not_mem_nil
  custom _ hn := absurd hn List.not_mem_nil
  basic := forall_mem_basicModels hfixed (fun _ hs => absurd hs List.not_mem_nil) channelType

namespace Holds

/-- Whatever holds of all names holds of those that can be picked. -/
theorem available (h : r.Holds P) : ∀ n ∈ r.available, P n := by
  apply forall_mem_unique
  intro n hn
  rcases List.mem_append.1 hn with hn | hn
  · rcases List.mem_append.1 hn with hn | hn
    · rcases List.mem_append.1 hn with hn | hn
      · exact forall_mem_ofTexts.2 h.catalog n hn
      · exact h.discovered n hn
    · exact forall_mem_ofTexts.2 h.custom n hn
  · exact h.models n hn

theorem setModels (h : r.Holds P) {names : List Name} (hnames : ∀ n ∈ names, P n) :
    (r.setModels names).Holds P :=
  { h with models := forall_mem_unique hnames }

theorem merge (h : r.Holds P) {names : List Name} (hnames : ∀ n ∈ names, P n) :
    (r.merge names).1.Holds P :=
  { h with
    models := by
      intro n hn
      rcases List.mem_append.1 hn with hn | hn
      · exact h.models n hn
      · exact forall_mem_unique hnames n (List.mem_filter.1 hn).1 }

theorem addCustom (h : r.Holds P) {text : Text} (htext : ∀ s ∈ typedNames text, P (.text s)) :
    (r.addCustom text).1.Holds P := by
  have hadded : ∀ s ∈ (sortOut (Name.texts r.models) (typedNames text)).added, P (.text s) :=
    fun s hs => htext s (mem_added_sortOut hs).1
  refine { h with models := ?_, custom := ?_ }
  · intro n hn
    rcases List.mem_append.1 hn with hn | hn
    · exact h.models n hn
    · exact forall_mem_ofTexts.2 hadded n hn
  · intro s hs
    rcases List.mem_append.1 hs with hs | hs
    · exact h.custom s hs
    · exact hadded s (List.mem_filter.1 hs).1

theorem changeType (hfixed : HoldsOfFixed P) (h : r.Holds P) (channelType : Int) :
    (r.changeType channelType).1.Holds P := by
  have hbasic := forall_mem_basicModels hfixed h.catalog channelType
  have hmodels := forall_mem_ofTexts.2 hbasic
  unfold Resolver.changeType
  simp only
  split
  · exact { h with basic := hbasic, models := hmodels }
  · split
    · exact { h with basic := hbasic, models := hmodels }
    · exact { h with basic := hbasic }

/-- Whatever holds of the names of a resolver and of those that an event brings holds of all names
after the event. -/
theorem step (hfixed : HoldsOfFixed P) (h : r.Holds P) {e : Event} (he : ∀ n ∈ e.names, P n) :
    (r.step e).1.Holds P := by
  cases e with
  | loadCatalog names =>
    have hcatalog : ∀ s ∈ Names.unique names, P (.text s) :=
      fun s hs => forall_mem_ofTexts.1 he s (Names.mem_unique.1 hs).1
    exact { h with
      catalog := hcatalog, basic := forall_mem_basicModels hfixed hcatalog r.channelType }
  | hydrate models channelType =>
    exact { h with
      models := forall_mem_unique he
      basic := forall_mem_basicModels hfixed h.catalog channelType }
  | changeType channelType => exact h.changeType hfixed channelType
  | invalidate => exact { h with }
  | setModels names => exact h.setModels he
  | fillBasic => exact h.setModels (forall_mem_ofTexts.2 h.basic)
  | fillAll => exact h.setModels (forall_mem_ofTexts.2 h.catalog)
  | clear => exact { h with models := fun _ hn => absurd hn List.not_mem_nil }
  | merge names => exact h.merge he
  | addCustom text => exact h.addCustom (forall_mem_ofTexts.1 he)

theorem finishFetch (h : r.Holds P) (pending : Pending) {names : List Name}
    (hnames : ∀ n ∈ names, P n) : (r.finishFetch pending names).1.Holds P := by
  unfold Resolver.finishFetch
  simp only
  split
  · exact h
  · have hdiscovered : ∀ n ∈ Name.unique (r.discovered ++ Name.unique names), P n := by
      apply forall_mem_unique
      intro n hn
      rcases List.mem_append.1 hn with hn | hn
      · exact h.discovered n hn
      · exact forall_mem_unique hnames n hn
    have hknown : ({ r with
        discovered := Name.unique (r.discovered ++ Name.unique names) } : Resolver).Holds P :=
      { h with discovered := hdiscovered }
    exact hknown.merge (forall_mem_unique hnames)

end Holds

end

end Resolver

/-! ### Selectors -/

namespace Selector

/-- Whether a property holds of every name that a selector has. -/
structure Holds (P : Name → Prop) (s : Selector) : Prop where
  selected : ∀ n ∈ s.selected, P n
  available : ∀ n ∈ s.available, P n

/-- The names that an event brings. -/
def Event.names : Event → List Name
  | .toggle name => [.text name]
  | .setAvailable names => names
  | _ => []

variable {P : Name → Prop} {s : Selector}

theorem holds_ofLists {selected available : List Name} (hs : ∀ n ∈ selected, P n)
    (ha : ∀ n ∈ available, P n) : (ofLists selected available).Holds P :=
  ⟨Resolver.forall_mem_unique hs, Resolver.forall_mem_unique ha⟩

theorem Holds.visible (h : s.Holds P) : ∀ n ∈ s.visible, P n :=
  fun n hn => h.available n (mem_visible.1 hn).1

/-- Whatever holds of the names of a selector and of those that an event brings holds of all names
after the event. -/
theorem Holds.step (h : s.Holds P) {e : Event} (he : ∀ n ∈ e.names, P n) : (s.step e).Holds P := by
  cases e with
  | search term => exact ⟨h.selected, h.available⟩
  | toggle name =>
    refine ⟨fun n hn => ?_, h.available⟩
    by_cases hname : n = .text name
    · exact he n (List.mem_singleton.2 hname)
    · have hmem := mem_selected_toggle.1 hn
      rw [if_neg hname] at hmem
      exact h.selected n hmem
  | selectAll =>
    refine ⟨?_, h.available⟩
    apply Resolver.forall_mem_unique
    intro n hn
    rcases List.mem_append.1 hn with hn | hn
    · exact h.selected n hn
    · exact h.visible n hn
  | invert =>
    refine ⟨fun n hn => ?_, h.available⟩
    rcases List.mem_append.1 hn with hn | hn
    · exact h.selected n (List.mem_filter.1 hn).1
    · exact h.visible n (List.mem_filter.1 hn).1
  | setAvailable names => exact ⟨h.selected, Resolver.forall_mem_unique he⟩

end Selector

end ChannelConsole.Model
