import ChannelConsole.Proofs.Channel.Draft
import ChannelConsole.Proofs.Credential.Pool
import ChannelConsole.Proofs.Editor.Run
import ChannelConsole.Proofs.Names

/-!
# Setting a field is all or nothing

`Form.Sets` says once what can come of setting a field by its name: it is refused and the form is as
it was, or it is the type, the models, the address, or one of the other plain fields
(`Form.sets_setField`). `Form.Fills` does the same for filling a field with its example.

From this follows what is kept (`Form.setField_keeps`). A plain field changes alone, except that a
new address invalidates fetches and may be warned of. The models become those that are given, and
nothing else changes. With the type, the view of the keys and the models may change, but the keys
themselves and all other plain fields are kept.
-/

namespace ChannelConsole.Editor

open Channel Backend

namespace Form

variable {f g : Form} {name : Text} {v : Json}

/-! ### What can come of it -/

/-- What is said about a new address. -/
def addressNotice? (address : Text) : Option Notice :=
  if Text.endsWith "/v1" address then some versionWarning else none

/-- What can come of setting a field by its name. -/
inductive Sets (f : Form) : Text → Json → Form × Except Fault (Option Notice) → Prop where
  | refused {name : Text} {v : Json} (fault : Fault) : Sets f name v (f, .error fault)
  | type {v : Json} {code : Int} (hcode : typeCode v = .ok code) :
      Sets f "type" v ((f.changeType code).1, .ok none)
  | models {v : Json} {names : List Model.Name} (hnames : modelNames v = .ok names) :
      Sets f "models" v (f.withModels (f.models.setModels names), .ok none)
  | address {v : Json} {draft : Draft} (hassign : f.draft.assign .baseUrl v = .ok draft) :
      Sets f "base_url" v
        ({ f with
          draft
          models := f.models.invalidate
          notices := f.notices ++ (addressNotice? draft.baseUrl).toList },
          .ok (addressNotice? draft.baseUrl))
  | plain {field : Draft.Field} {v : Json} {draft : Draft} (htype : field ≠ .channelType)
      (hfield : field ≠ .baseUrl) (hassign : f.draft.assign field v = .ok draft) :
      Sets f field.label v ({ f with draft }, .ok none)

theorem sets_setPlain (f : Form) {field : Draft.Field} (htype : field ≠ .channelType) (v : Json) :
    f.Sets field.label v (f.setPlain field v) := by
  unfold setPlain
  cases hassign : f.draft.assign field v with
  | error issues => exact .refused _
  | ok draft =>
    by_cases hfield : field = .baseUrl
    · subst hfield
      have hset := Sets.address hassign
      by_cases hversion : Text.endsWith "/v1" draft.baseUrl = true
      · simp only [addressNotice?, hversion, if_true] at hset ⊢
        exact hset
      · simp only [addressNotice?, hversion, Bool.false_eq_true, if_false, Option.toList_none,
          List.append_nil, if_true] at hset ⊢
        exact hset
    · simp only [hfield, if_false]
      exact .plain htype hfield hassign

theorem sets_setField (f : Form) (name : Text) (v : Json) :
    f.Sets name v (f.setField name v) := by
  unfold setField
  by_cases ht : name = "type"
  · subst ht
    rw [if_pos rfl]
    cases hcode : typeCode v with
    | error fault => exact .refused fault
    | ok code => exact .type hcode
  rw [if_neg ht]
  by_cases hm : name = "models"
  · subst hm
    rw [if_pos rfl]
    cases hnames : modelNames v with
    | error fault => exact .refused fault
    | ok names => exact .models hnames
  rw [if_neg hm]
  cases hfield : Draft.Field.ofName? name with
  | none => exact .refused _
  | some field =>
    obtain rfl := label_of_ofName? hfield
    have htype : field ≠ .channelType := by
      rintro rfl
      exact ht rfl
    exact f.sets_setPlain htype v

/-- A field that is not set is left, and so is everything else. -/
theorem setField_of_error {fault : Fault} (h : (f.setField name v).2 = .error fault) :
    (f.setField name v).1 = f := by
  have hsets := f.sets_setField name v
  generalize f.setField name v = r at h hsets
  cases hsets with
  | refused fault => rfl
  | type | models | address | plain => cases h

/-- What can come of filling a field with its example. -/
inductive Fills (f : Form) (name : Text) : Form × Except Fault Unit → Prop where
  | refused (fault : Fault) : Fills f name (f, .error fault)
  | filled {field : Draft.Field} {text : Text} {draft : Draft}
      (htemplate : JsonField.template? name = some text)
      (hfield : Draft.Field.ofName? name = some field)
      (hassign : f.draft.assign field (.str text) = .ok draft) :
      Fills f name ({ f with draft }, .ok ())

theorem fills_fillTemplate (f : Form) (name : Text) : f.Fills name (f.fillTemplate name) := by
  unfold fillTemplate
  split
  · exact .refused _
  split
  · rename_i text field htemplate hfield
    cases hassign : f.draft.assign field (.str text) with
    | error issues => exact .refused _
    | ok draft => exact .filled htemplate hfield hassign
  · exact .refused _

theorem fillTemplate_of_error {fault : Fault} (h : (f.fillTemplate name).2 = .error fault) :
    (f.fillTemplate name).1 = f := by
  have hfills := f.fills_fillTemplate name
  generalize f.fillTemplate name = r at h hfills
  cases hfills with
  | refused fault => rfl
  | filled => cases h

/-! ### The names that are given -/

/-- Whether a value gives names: a text with commas between them, or a list of texts. -/
def GivesNames (v : Json) (xs : List Text) : Prop :=
  (∃ s, v = .str s ∧ xs = Names.split s) ∨ v = .strings xs

theorem strings_of_mapM {items : List Json} {names : List Model.Name}
    (h : (items.mapM fun | .str s => some (Model.Name.text s) | _ => none) = some names) :
    ∃ xs : List Text, items = xs.map .str ∧ names = Model.Name.ofTexts xs := by
  induction items generalizing names with
  | nil =>
    obtain rfl := Option.some.inj h
    exact ⟨[], rfl, rfl⟩
  | cons item items ih =>
    rw [List.mapM_cons] at h
    obtain ⟨n, hn, h⟩ := Option.bind_eq_some_iff.1 h
    obtain ⟨rest, hrest, h⟩ := Option.bind_eq_some_iff.1 h
    obtain rfl := Option.some.inj h
    obtain ⟨xs, rfl, rfl⟩ := ih hrest
    cases item with
    | str s =>
      obtain rfl := Option.some.inj hn
      exact ⟨s :: xs, rfl, rfl⟩
    | _ => cases hn

theorem givesNames_of_modelNames {names : List Model.Name} (h : modelNames v = .ok names) :
    ∃ xs, GivesNames v xs ∧ names = Model.Name.ofTexts xs := by
  unfold modelNames at h
  split at h
  · rename_i s
    exact ⟨Names.split s, .inl ⟨s, rfl, rfl⟩, (Except.ok.inj h).symm⟩
  · split at h
    · rename_i items names' hitems
      obtain rfl := Except.ok.inj h
      obtain ⟨xs, rfl, rfl⟩ := strings_of_mapM hitems
      exact ⟨xs, .inr rfl, rfl⟩
    · cases h
  · cases h

/-! ### What is kept -/

/-- Whether a form has become another one by setting a plain field, with a notice or without: the
field has what it makes of the value, the other fields are kept, and nothing else has changed,
unless the field is the address. -/
structure SetsPlain (f : Form) (field : Draft.Field) (v : Json) (g : Form) (n? : Option Notice) :
    Prop where
  read : field.read v = .ok (g.draft.value field)
  fields : ∀ field', field' ≠ field → g.draft.value field' = f.draft.value field'
  rest : field ≠ .baseUrl → g = { f with draft := g.draft } ∧ n? = none
  address : field = .baseUrl → n? = addressNotice? g.draft.baseUrl ∧
    g = { f with
      draft := g.draft
      models := f.models.invalidate
      notices := f.notices ++ n?.toList }

/-- Whether a form has become another one by setting the type: the other plain fields and the keys
are kept, and besides the view of the keys and the models nothing has changed. -/
structure SetsType (f : Form) (code : Int) (g : Form) : Prop where
  code : g.draft.channelType = code
  fields : ∀ field, field ≠ .channelType → g.draft.value field = f.draft.value field
  keys : Credential.split g.pool.raw = Credential.split f.pool.raw
  rest : g = { f with
    draft := g.draft
    pool := g.pool
    models := g.models
    selection := g.selection }

theorem setsType_changeType (hf : f.mangled? = none) (code : Int) :
    f.SetsType code (f.changeType code).1 := by
  have hkeys := Credential.Pool.keys_changeType f.pool code
  have hfields : ∀ field, field ≠ .channelType →
      ({ f.draft with channelType := code } : Draft).value field = f.draft.value field := by
    intro field hfield
    cases field <;> first | rfl | exact absurd rfl hfield
  unfold changeType
  simp only
  split
  · exact ⟨rfl, hfields, hkeys, by rw [withModels, hf]⟩
  · exact ⟨rfl, hfields, hkeys, rfl⟩

/-- Setting a field of a form that can come about either fails and changes nothing, or changes what
it is about and keeps everything else. -/
theorem setField_keeps (hf : f.Reachable) (name : Text) (v : Json) :
    (∀ fault, (f.setField name v).2 = .error fault → (f.setField name v).1 = f) ∧
    ∀ g n?, f.setField name v = (g, .ok n?) →
      (name = "type" → n? = none ∧ ∃ code, typeCode v = .ok code ∧ f.SetsType code g) ∧
      (name = "models" → n? = none ∧ ∃ xs, GivesNames v xs ∧
        g = { f with
          models := { f.models with models := Model.Name.ofTexts (Names.unique xs) }
          selection := f.selection + 1 }) ∧
      (name ≠ "type" → name ≠ "models" →
        ∃ field : Draft.Field, field.label = name ∧ f.SetsPlain field v g n?) := by
  have hlist := hf.consistent.isList
  refine ⟨fun fault => setField_of_error, fun g n? h => ?_⟩
  have hsets := f.sets_setField name v
  rw [h] at hsets
  cases hsets with
  | type hcode =>
    refine ⟨fun _ => ⟨rfl, _, hcode, setsType_changeType hlist _⟩, ?_, ?_⟩
    · exact fun hname => absurd hname (by decide)
    · exact fun hname => absurd rfl hname
  | models hnames =>
    obtain ⟨xs, hxs, rfl⟩ := givesNames_of_modelNames hnames
    refine ⟨?_, fun _ => ⟨rfl, xs, hxs, ?_⟩, ?_⟩
    · exact fun hname => absurd hname (by decide)
    · rw [Model.Resolver.setModels, Model.Name.unique_ofTexts, withModels, hlist]
    · exact fun _ hname => absurd rfl hname
  | address hassign =>
    refine ⟨?_, ?_, fun _ _ => ⟨.baseUrl, rfl, ?_⟩⟩
    · exact fun hname => absurd hname (by decide)
    · exact fun hname => absurd hname (by decide)
    · exact ⟨Draft.read_of_assign hassign, fun _ => Draft.value_of_assign hassign,
        fun hfield => absurd rfl hfield, fun _ => ⟨rfl, rfl⟩⟩
  | plain htype hfield hassign =>
    rename_i field draft
    have hset : f.SetsPlain field v { f with draft } none :=
      ⟨Draft.read_of_assign hassign, fun _ => Draft.value_of_assign hassign,
        fun _ => ⟨rfl, rfl⟩, fun hbase => absurd hbase hfield⟩
    refine ⟨?_, ?_, fun _ _ => ⟨field, rfl, hset⟩⟩
    · exact fun hname => absurd (Draft.Field.label_inj hname) htype
    · intro hname
      have hmodels := Draft.Field.ofName?_label field
      rw [hname] at hmodels
      cases hmodels

/-- An address that ends like a version is set, makes fetches useless and is warned of. -/
theorem setField_keeps_address :
    ({} : Form).Reachable ∧
    ({} : Form).setField "base_url" (.str "https://relay.example.com/v1") =
      ({ draft := { baseUrl := "https://relay.example.com/v1" }
         models := ({} : Form).models.invalidate
         notices := [versionWarning] }, .ok (some versionWarning)) ∧
    ∃ field : Draft.Field, field.label = "base_url" ∧
      ({} : Form).SetsPlain field (.str "https://relay.example.com/v1")
        { draft := { baseUrl := "https://relay.example.com/v1" }
          models := ({} : Form).models.invalidate
          notices := [versionWarning] } (some versionWarning) := by
  have hreach : ({} : Form).Reachable := ⟨none, true, [], rfl⟩
  have hset : ({} : Form).setField "base_url" (.str "https://relay.example.com/v1") =
      ({ draft := { baseUrl := "https://relay.example.com/v1" }
         models := ({} : Form).models.invalidate
         notices := [versionWarning] }, .ok (some versionWarning)) := by rfl
  obtain ⟨-, hkeeps⟩ := setField_keeps hreach "base_url" (.str "https://relay.example.com/v1")
  exact ⟨hreach, hset, (hkeeps _ _ hset).2.2 (by decide) (by decide)⟩

end Form

end ChannelConsole.Editor
