import ChannelConsole.Channel.Draft

/-!
# Setting one field of a draft

`Draft.value` is what a field of a draft has, as it is told to users (`Draft.lookup_toJson`), and a
draft has nothing else (`Draft.ext_value`). A field that is set takes what it makes of the given
value (`Draft.Field.read`), and all other fields keep what they have: `Draft.assign_eq_ok_iff` says
that setting a field is just this, and `Draft.exists_assign_iff` that it fails for nothing else than
the value.
-/

namespace ChannelConsole

theorem Json.strings_inj {xs ys : List Text} (h : strings xs = strings ys) : xs = ys :=
  (List.map_inj_right fun _ _ hs => Json.str.inj hs).1 (Json.arr.inj h)

namespace Channel.Draft

open Schema

/-- What a field makes of a value that it is set to. -/
def Field.read : Field → Json → Checked Json
  | .name, v | .organization, v | .baseUrl, v | .tag, v | .modelPrefix, v | .testModel, v =>
    (text v).map .str
  | .channelType, v | .priority, v | .weight, v => (integer v).map .int
  | .other, v | .json _, v => textOrTree v
  | .groups, v => (texts v).map .strings
  | .autoBan, v => (flag v).map .bool

/-- The value of a field. -/
def value (d : Draft) : Field → Json
  | .name => .str d.name
  | .channelType => .int d.channelType
  | .organization => .str d.organization
  | .baseUrl => .str d.baseUrl
  | .other => d.other
  | .json f => d.jsonValue f
  | .groups => .strings d.groups
  | .priority => .int d.priority
  | .weight => .int d.weight
  | .tag => .str d.tag
  | .modelPrefix => .str d.modelPrefix
  | .testModel => .str d.testModel
  | .autoBan => .bool d.autoBan

variable {d d' : Draft} {field field' : Field} {v : Json}

theorem Field.label_inj (h : field.label = field'.label) : field = field' := by
  have hfield := Field.ofName?_label field
  rw [h, Field.ofName?_label field'] at hfield
  exact (Option.some.inj hfield).symm

/-- The value of a field is found under its name in the value of the draft. -/
theorem lookup_toJson (d : Draft) (field : Field) :
    d.toJson.field? field.label = some (d.value field) := by
  cases field with
  | json f => cases f <;> rfl
  | _ => rfl

/-- Drafts with the same fields are the same. -/
theorem ext_value (h : ∀ field, d.value field = d'.value field) : d = d' := by
  have hname := Json.str.inj (h .name)
  have htype := Json.int.inj (h .channelType)
  have horganization := Json.str.inj (h .organization)
  have hbase := Json.str.inj (h .baseUrl)
  have hother : d.other = d'.other := h .other
  have hmapping : d.modelMapping = d'.modelMapping := h (.json .modelMapping)
  have hstatus : d.statusCodeMapping = d'.statusCodeMapping := h (.json .statusCodeMapping)
  have hsetting : d.setting = d'.setting := h (.json .setting)
  have hparam : d.paramOverride = d'.paramOverride := h (.json .paramOverride)
  have hgroups := Json.strings_inj (h .groups)
  have hpriority := Json.int.inj (h .priority)
  have hweight := Json.int.inj (h .weight)
  have htag := Json.str.inj (h .tag)
  have hprefix := Json.str.inj (h .modelPrefix)
  have htest := Json.str.inj (h .testModel)
  have hban := Json.bool.inj (h .autoBan)
  cases d
  cases d'
  simp_all

/-! ### What is set and what is kept -/

theorem jsonValue_setJson_self (d : Draft) (f : JsonField) (v : Json) :
    (d.setJson f v).jsonValue f = v := by
  cases f <;> rfl

theorem value_setJson_of_ne {f : JsonField} (h : field' ≠ .json f) (v : Json) :
    (d.setJson f v).value field' = d.value field' := by
  cases field' with
  | json g => cases f <;> cases g <;> first | rfl | exact absurd rfl h
  | _ => cases f <;> rfl

/-- A field that was set has what it makes of the value. -/
theorem read_of_assign (h : d.assign field v = .ok d') : field.read v = .ok (d'.value field) := by
  cases field with
  | json f =>
    obtain ⟨a, ha, rfl⟩ := under_map_eq_ok h
    rw [value, jsonValue_setJson_self]
    exact ha
  | other =>
    obtain ⟨a, ha, rfl⟩ := under_map_eq_ok h
    exact ha
  | _ =>
    obtain ⟨a, ha, rfl⟩ := under_map_eq_ok h
    rw [Field.read, ha]
    rfl

/-- All other fields are as they were. -/
theorem value_of_assign (h : d.assign field v = .ok d') (hne : field' ≠ field) :
    d'.value field' = d.value field' := by
  cases field with
  | json f =>
    obtain ⟨a, -, rfl⟩ := under_map_eq_ok h
    exact value_setJson_of_ne hne a
  | _ =>
    obtain ⟨a, -, rfl⟩ := under_map_eq_ok h
    cases field' <;> first | rfl | exact absurd rfl hne

/-- A field can be set to a value if it makes something of it. -/
theorem exists_assign_iff : (∃ d', d.assign field v = .ok d') ↔ ∃ w, field.read v = .ok w := by
  unfold assign
  rw [exists_under_iff]
  cases field with
  | other | json f => exact exists_map_iff
  | _ => exact exists_map_iff.trans exists_map_iff.symm

/-- To set a field is to give it what it makes of the value and to keep all other fields. -/
theorem assign_eq_ok_iff :
    d.assign field v = .ok d' ↔ field.read v = .ok (d'.value field) ∧
      ∀ field', field' ≠ field → d'.value field' = d.value field' := by
  refine ⟨fun h => ⟨read_of_assign h, fun _ => value_of_assign h⟩, fun ⟨hread, hothers⟩ => ?_⟩
  obtain ⟨made, hmade⟩ : ∃ made, d.assign field v = .ok made := exists_assign_iff.2 ⟨_, hread⟩
  have hsame : made = d' := by
    refine ext_value fun field' => ?_
    by_cases hfield : field' = field
    · rw [hfield]
      exact Except.ok.inj ((read_of_assign hmade).symm.trans hread)
    · rw [value_of_assign hmade hfield, hothers field' hfield]
  rw [hmade, hsame]

/-! ### Single fields -/

theorem channelType_of_assign (h : d.assign field v = .ok d') (hne : field ≠ .channelType) :
    d'.channelType = d.channelType := Json.int.inj (value_of_assign h hne.symm)

theorem baseUrl_of_assign (h : d.assign field v = .ok d') (hne : field ≠ .baseUrl) :
    d'.baseUrl = d.baseUrl := Json.str.inj (value_of_assign h hne.symm)

theorem name_of_assign (h : d.assign field v = .ok d') (hne : field ≠ .name) :
    d'.name = d.name := Json.str.inj (value_of_assign h hne.symm)

theorem groups_of_assign (h : d.assign field v = .ok d') (hne : field ≠ .groups) :
    d'.groups = d.groups := Json.strings_inj (value_of_assign h hne.symm)

end Channel.Draft

end ChannelConsole
