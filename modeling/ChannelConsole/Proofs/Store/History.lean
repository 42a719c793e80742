import ChannelConsole.Store
import ChannelConsole.Proofs.Names
import Mathlib.Data.List.Nodup

/-!
# The store and the history of its writes

A store holds what the writes that it has accepted say. The history of a run of calls is read off
the replies alone (`Write.reported?`), and so is the record that it leaves for a number: what was
written last, with the last key that is not empty and the status that the channel was made with
(`Write.record?`).

`Log.Reflects` is the invariant that ties the rows of a store to its history. One call keeps it
(`Log.Reflects.after`), so it holds after any run from an empty store, and everything that a store
answers follows from it (`Log.Reflects.follows`). The whole is `Log.follows_afterAll`.
-/

namespace ChannelConsole

open Channel Backend

namespace Store

/-! ### When records are accepted -/

/-- Whether a record may be saved: it names a model, and its JSON fields are empty or JSON. -/
structure IsSound (p : Payload) : Prop where
  models : Names.split p.models ≠ []
  json : ∀ field, JsonField.isValid (p.jsonText field) = true

/-- Nothing is wrong with a record exactly when it is sound. -/
theorem complaint?_eq_none_iff {p : Payload} : complaint? p = none ↔ IsSound p := by
  have hall : ∀ field, field ∈ JsonField.all := fun field => by cases field <;> decide
  unfold complaint?
  by_cases hm : Names.split p.models = []
  · rw [if_pos (by rw [hm]; rfl)]
    exact ⟨fun h => absurd h (by simp), fun h => absurd hm h.models⟩
  · rw [if_neg (by simpa using hm), Option.map_eq_none_iff, JsonField.firstInvalid?,
      List.find?_eq_none]
    constructor
    · exact fun h => ⟨hm, fun field => by simpa [JsonField.accepts] using h field (hall field)⟩
    · exact fun h field _ => by simpa [JsonField.accepts] using h.json field

/-- The row that a new record becomes. -/
def newRow (s : Store) (p : Payload) : Payload := { p with id? := some (s.nextId : Int) }

theorem jsonText_newRow (s : Store) (p : Payload) : (s.newRow p).jsonText = p.jsonText := by
  funext field
  cases field <;> rfl

theorem jsonText_revise (stored p : Payload) : (revise stored p).jsonText = p.jsonText := by
  funext field
  cases field <;> rfl

theorem isSound_newRow {s : Store} {p : Payload} (h : IsSound p) : IsSound (s.newRow p) :=
  ⟨h.models, fun field => by rw [jsonText_newRow, h.json]⟩

/-- The models and the JSON fields of a revised record are those of the new one. -/
theorem isSound_revise {stored p : Payload} (h : IsSound p) : IsSound (revise stored p) :=
  ⟨h.models, fun field => by rw [jsonText_revise, h.json]⟩

/-- What making a channel can come to: a failure that changes nothing, or one more row. -/
theorem create_cases (s : Store) (p : Payload) :
    (¬ (p.name ≠ "" ∧ p.key ≠ "" ∧ IsSound p) ∧
      ∃ message, s.create p = (s, .ok (.failure message))) ∨
    (∃ f, faultOf? p = some f ∧ s.create p = (s, .error f)) ∨
    ((p.name ≠ "" ∧ p.key ≠ "" ∧ IsSound p) ∧ faultOf? p = none ∧
      s.create p =
        ({ s with rows := s.rows ++ [(s.nextId, s.newRow p)] },
          .ok (.succeed (s.newRow p).toJson))) := by
  unfold create
  by_cases hkey : (p.name.isEmpty || p.key.isEmpty) = true
  · left
    refine ⟨fun ⟨hn, hk, _⟩ => ?_, _, if_pos hkey⟩
    simp [hn, hk] at hkey
  · have hfilled : p.name ≠ "" ∧ p.key ≠ "" := by simpa using hkey
    rw [if_neg hkey]
    cases hc : complaint? p with
    | some message =>
      left
      refine ⟨fun ⟨_, _, hs⟩ => ?_, message, rfl⟩
      rw [complaint?_eq_none_iff.2 hs] at hc
      exact absurd hc (by simp)
    | none =>
      right
      cases hf : faultOf? p with
      | some f => exact .inl ⟨f, rfl, rfl⟩
      | none =>
        exact .inr ⟨⟨hfilled.1, hfilled.2, complaint?_eq_none_iff.1 hc⟩, rfl, rfl⟩

/-- A record that is sound and can be stored becomes one more row. -/
theorem create_of_isSound {p : Payload} (s : Store) (hname : p.name ≠ "") (hkey : p.key ≠ "")
    (hsound : IsSound p) (hp : faultOf? p = none) :
    s.create p = ({ s with rows := s.rows ++ [(s.nextId, s.newRow p)] },
      .ok (.succeed (s.newRow p).toJson)) := by
  rcases create_cases s p with ⟨hbad, -⟩ | ⟨f, hf, -⟩ | ⟨-, -, he⟩
  · exact absurd ⟨hname, hkey, hsound⟩ hbad
  · rw [hp] at hf
    exact absurd hf (by simp)
  · exact he

/-- What changing a channel can come to: a failure that changes nothing, or another record in the
place of the stored one. -/
theorem update_cases (s : Store) (p : Payload) :
    (¬ (IsSound p ∧ ∃ id stored, p.id? = some id ∧ s.find? id = some stored) ∧
      ∃ message, s.update p = (s, .ok (.failure message))) ∨
    (∃ id f, p.id? = some id ∧ s.update p = (s, .error f) ∧
      (fitsColumn id = false ∨
        ∃ stored, s.find? id = some stored ∧ faultOf? (revise stored p) = some f)) ∨
    (∃ id stored, p.id? = some id ∧ s.find? id = some stored ∧ IsSound p ∧
      faultOf? (revise stored p) = none ∧
      s.update p =
        (s.put id (revise stored p), .ok (.succeed (revise stored p).toJson))) := by
  unfold update
  cases hid : p.id? with
  | none => exact .inl ⟨fun ⟨_, _, _, h, _⟩ => by simp at h, _, rfl⟩
  | some id =>
    cases hc : complaint? p with
    | some message =>
      refine .inl ⟨fun ⟨hs, _⟩ => ?_, message, rfl⟩
      rw [complaint?_eq_none_iff.2 hs] at hc
      exact absurd hc (by simp)
    | none =>
      have hs := complaint?_eq_none_iff.1 hc
      by_cases hfits : fitsColumn id = true
      · simp only [hfits, if_true]
        cases hfind : s.find? id with
        | none =>
          refine .inl ⟨fun ⟨_, other, stored, ho, hstored⟩ => ?_, _, rfl⟩
          rw [← Option.some.inj ho, hfind] at hstored
          exact absurd hstored (by simp)
        | some stored =>
          cases hf : faultOf? (revise stored p) with
          | some f => exact .inr (.inl ⟨id, f, rfl, by simp [hf], .inr ⟨stored, hfind, hf⟩⟩)
          | none => exact .inr (.inr ⟨id, stored, rfl, hfind, hs, hf, by simp [hf]⟩)
      · simp only [hfits]
        exact .inr (.inl ⟨id, .overflow, rfl, rfl, .inl (by simpa using hfits)⟩)

/-! ### Records that can be stored -/

theorem faultOf?_eq_none_iff {p : Payload} :
    faultOf? p = none ↔ isStorable p = true ∧ fitsRow p = true := by
  unfold faultOf?
  cases isStorable p <;> cases fitsRow p <;> simp

/-- The number of a new row does not matter, since its column is filled by the store itself. -/
theorem faultOf?_newRow (s : Store) (p : Payload) : faultOf? (s.newRow p) = faultOf? p := rfl

/-- Whether the numbers that an update takes over fit into their columns, which are all but the
status. -/
def fitsRevision (p : Payload) : Bool :=
  [p.channelType, p.priority, p.weight, p.autoBan].all fitsColumn

/-- A record in the place of another one has the texts and the numbers of the new one, but for an
empty key and the status. -/
theorem faultOf?_revise_eq_none_iff {stored p : Payload} (hstored : faultOf? stored = none) :
    faultOf? (revise stored p) = none ↔ isStorable p = true ∧ fitsRevision p = true := by
  rw [faultOf?_eq_none_iff] at *
  simp only [isStorable, fitsRow, fitsRevision, revise, List.all_cons, List.all_nil, Bool.and_true,
    Bool.and_eq_true] at *
  have hkey : Text.isEncodable (if p.key.isEmpty then stored.key else p.key) = true ↔
      Text.isEncodable p.key = true := by
    by_cases hempty : p.key = ""
    · rw [hempty]
      exact iff_of_true hstored.1.2.1 (by decide)
    · simp [hempty]
  rw [hkey]
  simp only [hstored.2.2.2.2.2, and_true]

/-- What can be stored can be stored in the place of another record. -/
theorem faultOf?_revise {stored p : Payload} (hstored : faultOf? stored = none)
    (hp : faultOf? p = none) : faultOf? (revise stored p) = none := by
  rw [faultOf?_eq_none_iff] at hp
  have hnumbers : fitsRevision p = true := by
    simp only [fitsRow, fitsRevision, List.all_cons, List.all_nil, Bool.and_true,
      Bool.and_eq_true] at hp ⊢
    exact ⟨hp.2.1, hp.2.2.1, hp.2.2.2.1, hp.2.2.2.2.1⟩
  exact (faultOf?_revise_eq_none_iff hstored).2 ⟨hp.1, hnumbers⟩

/-! ### Rows -/

/-- A channel that is found stands in its row. -/
theorem exists_mem_of_find? {s : Store} {id : Int} {p : Payload} (h : s.find? id = some p) :
    ∃ n : Nat, (n : Int) = id ∧ (n, p) ∈ s.rows := by
  obtain ⟨row, hrow, rfl⟩ := Option.map_eq_some_iff.1 h
  exact ⟨row.1, by simpa using List.find?_some hrow, List.mem_of_find?_eq_some hrow⟩

/-- A channel is found exactly under the numbers of the rows. -/
theorem isSome_find?_iff {s : Store} {id : Int} :
    (s.find? id).isSome = true ↔ id ∈ s.rows.map fun row => (row.1 : Int) := by
  rw [find?, Option.isSome_map, List.find?_isSome]
  simp [List.mem_map]

/-- A row that is added is found where no row was. -/
theorem find?_add (s : Store) (n : Nat) (p : Payload) (id : Int) :
    ({ s with rows := s.rows ++ [(n, p)] } : Store).find? id =
      (s.find? id).or (if (n : Int) = id then some p else none) := by
  unfold find?
  rw [List.find?_append]
  cases s.rows.find? fun row => (row.1 : Int) == id with
  | some row => rfl
  | none => by_cases hn : (n : Int) = id <;> simp [hn]

theorem map_fst_put (s : Store) (id : Int) (p : Payload) :
    (s.put id p).rows.map Prod.fst = s.rows.map Prod.fst := by
  rw [put, List.map_map]
  refine List.map_congr_left fun row _ => ?_
  simp only [Function.comp_apply]
  split <;> rfl

/-- Every row is as it was or has the new record. -/
theorem mem_rows_put {s : Store} {id : Int} {p : Payload} {row : Nat × Payload}
    (h : row ∈ (s.put id p).rows) : row ∈ s.rows ∨ row.2 = p := by
  obtain ⟨old, hold, rfl⟩ := List.mem_map.1 h
  split
  · exact .inr rfl
  · exact .inl hold

/-! ### Histories -/

/-- A write that a store has accepted: a channel was made or changed. -/
structure Write where
  isNew : Bool
  id : Int
  record : Payload

namespace Write

/-- The number in the data of an answer. -/
def numberIn? (data : Json) : Option Int :=
  match data.field? "id" with
  | some (.int id) => some id
  | _ => none

/-- The write that a reply reports, if it reports one. -/
def reported? : Call → Reply → Option Write
  | .createChannel p, .envelope e =>
    if e.success then (numberIn? e.data).map fun id => { isNew := true, id, record := p } else none
  | .updateChannel p, .envelope e =>
    if e.success then p.id?.map fun id => { isNew := false, id, record := p } else none
  | _, _ => none

/-- The numbers that were given out. -/
def created (writes : List Write) : List Int := (writes.filter (·.isNew)).map (·.id)

/-- The records written for a number, the latest one last. -/
def recordsFor (writes : List Write) (id : Int) : List Payload :=
  (writes.filter (·.id = id)).map (·.record)

/-- The last key that is not empty. -/
def lastKey (records : List Payload) : Text :=
  ((records.map (·.key)).filter (· ≠ ("" : Text))).getLastD ""

/-- What writes leave for a number: the record written last, with the last key that is not empty
and the status that the channel was made with. -/
def record? (writes : List Write) (id : Int) : Option Payload :=
  (writes.find? fun w => w.isNew && w.id == id).map fun first =>
    { (recordsFor writes id).getLastD first.record with
      id? := some id
      key := lastKey (recordsFor writes id)
      status := first.record.status }

variable {writes : List Write} {w : Write}

/-- There is a record exactly for the numbers that were given out. -/
theorem isSome_record?_iff {id : Int} :
    (record? writes id).isSome = true ↔ id ∈ created writes := by
  rw [record?, Option.isSome_map, List.find?_isSome, created]
  simp only [Bool.and_eq_true, beq_iff_eq, List.mem_map, List.mem_filter]
  constructor
  · rintro ⟨w, hw, hnew, hid⟩
    exact ⟨w, ⟨hw, hnew⟩, hid⟩
  · rintro ⟨w, ⟨hw, hnew⟩, hid⟩
    exact ⟨w, hw, hnew, hid⟩

theorem created_concat (writes : List Write) (w : Write) :
    created (writes ++ [w]) = created writes ++ if w.isNew then [w.id] else [] := by
  rw [created, List.filter_append, List.map_append]
  cases hnew : w.isNew <;> simp [created, hnew]

theorem recordsFor_concat (writes : List Write) (w : Write) (id : Int) :
    recordsFor (writes ++ [w]) id =
      recordsFor writes id ++ if w.id = id then [w.record] else [] := by
  rw [recordsFor, List.filter_append, List.map_append]
  by_cases hid : w.id = id <;> simp [recordsFor, hid]

theorem lastKey_concat (records : List Payload) (p : Payload) :
    lastKey (records ++ [p]) = if p.key = "" then lastKey records else p.key := by
  rw [lastKey, List.map_append, List.filter_append]
  by_cases hkey : p.key = "" <;> simp [lastKey, hkey]

/-- A write leaves the records of other numbers alone. -/
theorem record?_concat_of_ne {id : Int} (hid : w.id ≠ id) :
    record? (writes ++ [w]) id = record? writes id := by
  rw [record?, record?, recordsFor_concat, if_neg hid, List.append_nil, List.find?_append]
  cases writes.find? fun w => w.isNew && w.id == id with
  | some first => rfl
  | none => simp [hid]

/-- A new channel is left as it was made. -/
theorem record?_concat_new (hnew : w.isNew = true) (hw : ∀ v ∈ writes, v.id ≠ w.id) :
    record? (writes ++ [w]) w.id = some { w.record with id? := some w.id } := by
  have hrecords : recordsFor (writes ++ [w]) w.id = [w.record] := by
    rw [recordsFor_concat, if_pos rfl, recordsFor, List.filter_eq_nil_iff.2 fun v hv => by
      simpa using hw v hv]
    rfl
  have hfirst : (writes ++ [w]).find? (fun v => v.isNew && v.id == w.id) = some w := by
    rw [List.find?_append, List.find?_eq_none.2 fun v hv => by simp [hw v hv]]
    simp [hnew]
  have hkey : lastKey [w.record] = w.record.key := by
    rw [← List.nil_append [w.record], lastKey_concat]
    split
    · rename_i h
      rw [h]
      rfl
    · rfl
  rw [record?, hrecords, hfirst, hkey]
  rfl

/-- A change of a channel revises what was left. -/
theorem record?_concat_change {stored : Payload} (h : record? writes w.id = some stored) :
    record? (writes ++ [w]) w.id = some (revise stored w.record) := by
  obtain ⟨first, hfirst, rfl⟩ := Option.map_eq_some_iff.1 h
  rw [record?, List.find?_append, hfirst, recordsFor_concat, if_pos rfl, lastKey_concat]
  simp [revise]

end Write

/-! ### What ties a store to its history -/

/-- Whether a store holds what its history says: the rows are numbered in ascending order, their
numbers are those that were given out, every write is about one of these, and every number has the
record that the writes leave for it. What is in the rows is sound and can be stored again. -/
structure Reflects (writes : List Write) (s : Store) : Prop where
  numbered : s.rows.map Prod.fst = List.range' 1 s.rows.length
  created : Write.created writes = s.rows.map fun row => (row.1 : Int)
  known : ∀ w ∈ writes, w.id ∈ Write.created writes
  record : ∀ id, Write.record? writes id = s.find? id
  storable : ∀ row ∈ s.rows, faultOf? row.2 = none
  sound : ∀ row ∈ s.rows, IsSound row.2

theorem reflects_empty (groups extraModels : List Text) :
    Reflects [] { groups, extraModels } where
  numbered := rfl
  created := rfl
  known _ hw := absurd hw List.not_mem_nil
  record _ := rfl
  storable _ hrow := absurd hrow List.not_mem_nil
  sound _ hrow := absurd hrow List.not_mem_nil

namespace Reflects

variable {writes : List Write} {s : Store}

/-- A channel is found exactly under the numbers that were given out. -/
theorem isSome_find?_iff (h : Reflects writes s) {id : Int} :
    (s.find? id).isSome = true ↔ id ∈ Write.created writes := by
  rw [← h.record, Write.isSome_record?_iff]

theorem nodup_created (h : Reflects writes s) : (Write.created writes).Nodup := by
  have hcreated : Write.created writes = (s.rows.map Prod.fst).map fun n : Nat => (n : Int) := by
    rw [h.created, List.map_map]
    rfl
  rw [hcreated, h.numbered]
  exact (List.nodup_range' 1).map fun _ _ hmn => Int.ofNat.inj hmn

/-- The next number was never given out. -/
theorem nextId_notMem_created (h : Reflects writes s) :
    (s.nextId : Int) ∉ Write.created writes := by
  intro hmem
  rw [h.created] at hmem
  obtain ⟨row, hrow, hid⟩ := List.mem_map.1 hmem
  have hnum : row.1 ∈ List.range' 1 s.rows.length := h.numbered ▸ List.mem_map_of_mem hrow
  have hlt := (List.mem_range'_1.1 hnum).2
  have hrow' : row.1 = s.rows.length + 1 := Int.ofNat.inj hid
  omega

/-- A channel that is found can be stored again. -/
theorem storable_of_find? (h : Reflects writes s) {id : Int} {p : Payload}
    (hp : s.find? id = some p) : faultOf? p = none := by
  obtain ⟨n, -, hrow⟩ := exists_mem_of_find? hp
  exact h.storable (n, p) hrow

/-- A new row is the row that the history with one more write asks for. -/
theorem add (h : Reflects writes s) {p : Payload} (hp : faultOf? p = none) (hsound : IsSound p) :
    Reflects (writes ++ [{ isNew := true, id := (s.nextId : Int), record := p }])
      { s with rows := s.rows ++ [(s.nextId, s.newRow p)] } where
  numbered := by
    rw [List.map_append, h.numbered, List.length_append, List.length_singleton,
      List.range'_concat]
    simp [nextId, Nat.add_comm]
  created := by
    rw [Write.created_concat, h.created, List.map_append]
    rfl
  known w hw := by
    rw [Write.created_concat]
    rcases List.mem_append.1 hw with hw | hw
    · exact List.mem_append_left _ (h.known w hw)
    · rw [List.mem_singleton.1 hw]
      exact List.mem_append_right _ (by simp)
  record id := by
    rw [find?_add]
    by_cases hid : (s.nextId : Int) = id
    · have hfree : s.find? id = none := by
        rw [← Option.not_isSome_iff_eq_none, h.isSome_find?_iff, ← hid]
        exact h.nextId_notMem_created
      rw [hfree, if_pos hid, Option.none_or, ← hid]
      refine Write.record?_concat_new rfl fun v hv hvid => ?_
      have hknown := h.known v hv
      rw [hvid] at hknown
      exact h.nextId_notMem_created hknown
    · rw [if_neg hid, Option.or_none, ← h.record]
      exact Write.record?_concat_of_ne hid
  storable row hrow := by
    rcases List.mem_append.1 hrow with hrow | hrow
    · exact h.storable row hrow
    · rw [List.mem_singleton.1 hrow, faultOf?_newRow, hp]
  sound row hrow := by
    rcases List.mem_append.1 hrow with hrow | hrow
    · exact h.sound row hrow
    · rw [List.mem_singleton.1 hrow]
      exact isSound_newRow hsound

/-- A revised row is the row that the history with one more write asks for. -/
theorem revise (h : Reflects writes s) {id : Int} {stored p : Payload}
    (hstored : s.find? id = some stored) (hrow : faultOf? (Store.revise stored p) = none)
    (hsound : IsSound p) :
    Reflects (writes ++ [{ isNew := false, id, record := p }]) (s.put id (Store.revise stored p))
    where
  numbered := by
    rw [map_fst_put, h.numbered, put, List.length_map]
  created := by
    rw [Write.created_concat, h.created, ← Function.comp_def, ← List.map_map, ← List.map_map,
      map_fst_put]
    exact List.append_nil _
  known w hw := by
    rw [Write.created_concat]
    refine List.mem_append_left _ ?_
    rcases List.mem_append.1 hw with hw | hw
    · exact h.known w hw
    · rw [List.mem_singleton.1 hw]
      exact h.isSome_find?_iff.1 (by rw [hstored]; rfl)
  record other := by
    by_cases hid : id = other
    · subst hid
      rw [find?_put_self hstored]
      exact Write.record?_concat_change (w := { isNew := false, id, record := p })
        (by rw [h.record, hstored])
    · rw [find?_put_of_ne (Ne.symm hid), ← h.record]
      exact Write.record?_concat_of_ne hid
  storable row hmem := by
    rcases mem_rows_put hmem with hmem | heq
    · exact h.storable row hmem
    · rw [heq, hrow]
  sound row hmem := by
    rcases mem_rows_put hmem with hmem | heq
    · exact h.sound row hmem
    · rw [heq]
      exact isSound_revise hsound

end Reflects

/-! ### Runs of calls -/

theorem numberIn?_toJson {p : Payload} {id : Int} (h : p.id? = some id) :
    Write.numberIn? p.toJson = some id := by
  rw [Payload.toJson, h]
  rfl

/-- A new channel is reported with the number that it was given. -/
theorem reported?_newRow (s : Store) (p : Payload) :
    Write.reported? (.createChannel p) (replyOfEnvelope (.ok (.succeed (s.newRow p).toJson))) =
      some { isNew := true, id := s.nextId, record := p } := rfl

/-- A change is reported with the number that it was asked for. -/
theorem reported?_revise {p : Payload} {id : Int} (h : p.id? = some id) (stored : Payload) :
    Write.reported? (.updateChannel p) (replyOfEnvelope (.ok (.succeed (revise stored p).toJson))) =
      some { isNew := false, id, record := p } := by
  simp [replyOfEnvelope, Write.reported?, Envelope.succeed, h]

/-- A store with the link to providers, and the writes reported so far. -/
structure Log where
  store : Store
  link : Network.Link Provider.Request
  writes : List Write := []

/-- The log after a call. -/
def Log.after (x : Log) (call : Call) : Log :=
  let (store, link, reply) := x.store.answer x.link call
  { store, link, writes := x.writes ++ (Write.reported? call reply).toList }

/-- The log after several calls. -/
def Log.afterAll (x : Log) (calls : List Call) : Log := calls.foldl Log.after x

/-- What a new channel does to a store is what its reply reports. -/
theorem Reflects.create {writes : List Write} {s : Store} (h : Reflects writes s) (p : Payload) :
    Reflects
      (writes ++ (Write.reported? (.createChannel p) (replyOfEnvelope (s.create p).2)).toList)
      (s.create p).1 := by
  rcases create_cases s p with ⟨-, message, he⟩ | ⟨f, -, he⟩ | ⟨⟨-, -, hsound⟩, hp, he⟩
  · rw [he]
    exact (List.append_nil writes).symm ▸ h
  · rw [he]
    exact (List.append_nil writes).symm ▸ h
  · rw [he, reported?_newRow]
    exact h.add hp hsound

/-- What a change of a channel does to a store is what its reply reports. -/
theorem Reflects.update {writes : List Write} {s : Store} (h : Reflects writes s) (p : Payload) :
    Reflects
      (writes ++ (Write.reported? (.updateChannel p) (replyOfEnvelope (s.update p).2)).toList)
      (s.update p).1 := by
  rcases update_cases s p with
    ⟨-, message, he⟩ | ⟨id, f, -, he, -⟩ | ⟨id, stored, hid, hstored, hsound, hrow, he⟩
  · rw [he]
    exact (List.append_nil writes).symm ▸ h
  · rw [he]
    exact (List.append_nil writes).symm ▸ h
  · rw [he, reported?_revise hid]
    exact h.revise hstored hrow hsound

/-- Whether a call asks for a change. -/
def isWrite : Call → Bool
  | .createChannel _ => true
  | .updateChannel _ => true
  | _ => false

theorem answer_of_not_isWrite {call : Call} (h : isWrite call = false) (s : Store)
    (link : Network.Link Provider.Request) : (s.answer link call).1 = s := by
  cases call with
  | createChannel p => simp [isWrite] at h
  | updateChannel p => simp [isWrite] at h
  | getChannel id? => cases id? <;> rfl
  | _ => simp only [answer]

theorem reported?_of_not_isWrite {call : Call} (h : isWrite call = false) (reply : Reply) :
    Write.reported? call reply = none := by
  cases call with
  | createChannel p => simp [isWrite] at h
  | updateChannel p => simp [isWrite] at h
  | _ => rfl

/-- A call keeps a store in line with its history. -/
theorem Reflects.after {x : Log} (h : Reflects x.writes x.store) (call : Call) :
    Reflects (x.after call).writes (x.after call).store := by
  cases hwrite : isWrite call with
  | false =>
    show Reflects (x.writes ++ (Write.reported? call _).toList) (x.store.answer x.link call).1
    rw [answer_of_not_isWrite hwrite, reported?_of_not_isWrite hwrite, Option.toList_none,
      List.append_nil]
    exact h
  | true =>
    cases call with
    | createChannel p => exact h.create p
    | updateChannel p => exact h.update p
    | _ => simp [isWrite] at hwrite

theorem Reflects.afterAll {x : Log} (h : Reflects x.writes x.store) (calls : List Call) :
    Reflects (x.afterAll calls).writes (x.afterAll calls).store := by
  induction calls generalizing x with
  | nil => exact h
  | cons call calls ih => exact ih (h.after call)

/-! ### What calls leave alone -/

/-- Whatever is not reported as a write changes nothing. -/
theorem answer_of_unreported {s : Store} (link : Network.Link Provider.Request) {call : Call}
    (h : Write.reported? call (s.answer link call).2.2 = none) : (s.answer link call).1 = s := by
  cases hwrite : isWrite call with
  | false => exact answer_of_not_isWrite hwrite s link
  | true =>
    cases call with
    | createChannel p =>
      show (s.create p).1 = s
      rcases create_cases s p with ⟨-, message, he⟩ | ⟨f, -, he⟩ | ⟨-, -, he⟩
      · rw [he]
      · rw [he]
      · replace h : Write.reported? _ (replyOfEnvelope (s.create p).2) = none := h
        rw [he, reported?_newRow] at h
        exact absurd h (by simp)
    | updateChannel p =>
      show (s.update p).1 = s
      rcases update_cases s p with
        ⟨-, message, he⟩ | ⟨id, f, -, he, -⟩ | ⟨id, stored, hid, -, -, -, he⟩
      · rw [he]
      · rw [he]
      · replace h : Write.reported? _ (replyOfEnvelope (s.update p).2) = none := h
        rw [he, reported?_revise hid] at h
        exact absurd h (by simp)
    | _ => simp [isWrite] at hwrite

/-- A change of a channel leaves the others alone. -/
theorem find?_answer_of_ne {s : Store} (link : Network.Link Provider.Request) {p : Payload}
    {id other : Int} (hid : p.id? = some id) (hne : other ≠ id) :
    (s.answer link (.updateChannel p)).1.find? other = s.find? other := by
  show (s.update p).1.find? other = s.find? other
  rcases update_cases s p with
    ⟨-, message, he⟩ | ⟨_, f, -, he, -⟩ | ⟨id', stored, hid', -, -, -, he⟩
  · rw [he]
  · rw [he]
  · rw [he]
    rw [hid] at hid'
    exact find?_put_of_ne (Option.some.inj hid' ▸ hne)

/-! ### What a store answers -/

/-- Whether a store answers as the writes of its history demand, with the configured groups.

A number is never given out twice. A channel can be read under its number and no other, as the
writes have left it. A record that can be stored is accepted exactly when it is sound, and has a
name and a key if it is new, or a number that was given out if it is not. Whatever is not reported
as a write changes nothing, and a change is one of the record with its number alone. The groups are
those that are configured and then those that records have. -/
structure Follows (groups : List Text) (writes : List Write) (s : Store) : Prop where
  distinct : (Write.created writes).Nodup
  known : ∀ id, (Write.record? writes id).isSome = true ↔ id ∈ Write.created writes
  read : ∀ link id, fitsColumn id = true →
    (s.answer link (.getChannel (some id))).2.2 =
      .envelope (match Write.record? writes id with
        | some p => .succeed p.toJson
        | none => .failure (notFound (Text.ofInt id)))
  create : ∀ link p, faultOf? p = none →
    ∃ e, (s.answer link (.createChannel p)).2.2 = .envelope e ∧
      (e.success = true ↔ p.name ≠ "" ∧ p.key ≠ "" ∧ IsSound p) ∧
      (e.success = true → ∃ id, Write.numberIn? e.data = some id ∧ id ∉ Write.created writes)
  update : ∀ link p, faultOf? p = none → (∀ id, p.id? = some id → fitsColumn id = true) →
    ∃ e, (s.answer link (.updateChannel p)).2.2 = .envelope e ∧
      (e.success = true ↔ IsSound p ∧ ∃ id ∈ Write.created writes, p.id? = some id)
  refused : ∀ link call, Write.reported? call (s.answer link call).2.2 = none →
    (s.answer link call).1 = s
  others : ∀ link p id other, p.id? = some id → other ≠ id →
    (s.answer link (.updateChannel p)).1.find? other = s.find? other
  groups : ∀ link, ∃ used,
    (s.answer link .listGroups).2.2 = .names (Names.unique groups ++ used) ∧
      (Names.unique groups ++ used).Nodup ∧
      ∀ g, g ∈ used ↔ g ∉ groups ∧
        ∃ id p, Write.record? writes id = some p ∧ g ∈ Names.split p.group

namespace Reflects

variable {writes : List Write} {s : Store}

theorem answer_get (h : Reflects writes s) (link : Network.Link Provider.Request) {id : Int}
    (hid : fitsColumn id = true) :
    (s.answer link (.getChannel (some id))).2.2 =
      .envelope (match Write.record? writes id with
        | some p => .succeed p.toJson
        | none => .failure (notFound (Text.ofInt id))) := by
  show replyOfEnvelope (s.get id) = _
  rw [h.record, get, if_pos hid]
  cases s.find? id <;> rfl

theorem answer_create (h : Reflects writes s) (link : Network.Link Provider.Request) {p : Payload}
    (hp : faultOf? p = none) :
    ∃ e, (s.answer link (.createChannel p)).2.2 = .envelope e ∧
      (e.success = true ↔ p.name ≠ "" ∧ p.key ≠ "" ∧ IsSound p) ∧
      (e.success = true → ∃ id, Write.numberIn? e.data = some id ∧ id ∉ Write.created writes) := by
  show ∃ e, replyOfEnvelope (s.create p).2 = _ ∧ _
  rcases create_cases s p with ⟨hbad, message, he⟩ | ⟨f, hf, -⟩ | ⟨hgood, -, he⟩
  · rw [he]
    exact ⟨_, rfl, by simpa [Envelope.failure] using hbad, by simp [Envelope.failure]⟩
  · rw [hp] at hf
    exact absurd hf (by simp)
  · rw [he]
    refine ⟨_, rfl, by simpa [Envelope.succeed] using hgood, fun _ => ⟨s.nextId, ?_, ?_⟩⟩
    · exact numberIn?_toJson rfl
    · exact h.nextId_notMem_created

theorem answer_update (h : Reflects writes s) (link : Network.Link Provider.Request) {p : Payload}
    (hp : faultOf? p = none) (hid : ∀ id, p.id? = some id → fitsColumn id = true) :
    ∃ e, (s.answer link (.updateChannel p)).2.2 = .envelope e ∧
      (e.success = true ↔ IsSound p ∧ ∃ id ∈ Write.created writes, p.id? = some id) := by
  show ∃ e, replyOfEnvelope (s.update p).2 = _ ∧ _
  have hfound : (∃ id ∈ Write.created writes, p.id? = some id) ↔
      ∃ id stored, p.id? = some id ∧ s.find? id = some stored := by
    simp only [← h.isSome_find?_iff, Option.isSome_iff_exists]
    grind
  rw [hfound]
  rcases update_cases s p with
    ⟨hbad, message, he⟩ | ⟨id, f, hid', -, hf⟩ | ⟨id, stored, hid', hstored, hsound, -, he⟩
  · rw [he]
    exact ⟨_, rfl, by simpa [Envelope.failure] using hbad⟩
  · -- a record that fits is revised to one that fits
    rcases hf with hf | ⟨stored, hstored, hf⟩
    · rw [hid id hid'] at hf
      exact absurd hf (by simp)
    · rw [faultOf?_revise (h.storable_of_find? hstored) hp] at hf
      exact absurd hf (by simp)
  · rw [he]
    exact ⟨_, rfl, by simpa [Envelope.succeed] using ⟨hsound, id, hid', stored, hstored⟩⟩

/-- A channel is found in its row. -/
theorem find?_eq_some_iff (h : Reflects writes s) {n : Nat} {p : Payload} :
    s.find? n = some p ↔ (n, p) ∈ s.rows := by
  constructor
  · intro hp
    obtain ⟨m, hm, hrow⟩ := exists_mem_of_find? hp
    rwa [← Int.ofNat.inj hm]
  · intro hrow
    have hnodup : (s.rows.map Prod.fst).Nodup := h.numbered ▸ List.nodup_range' 1
    have hsome : (s.find? n).isSome = true :=
      Store.isSome_find?_iff.2 (List.mem_map.2 ⟨_, hrow, rfl⟩)
    obtain ⟨q, hq⟩ := Option.isSome_iff_exists.1 hsome
    obtain ⟨m, hm, hrow'⟩ := exists_mem_of_find? hq
    obtain rfl := Int.ofNat.inj hm
    have hpair := List.inj_on_of_nodup_map hnodup hrow hrow' rfl
    rw [hq, (Prod.mk.inj hpair).2]

/-- Groups in use are those of the records that can be read. -/
theorem mem_groups_iff (h : Reflects writes s) {g : Text} :
    (g ∈ s.rows.flatMap fun row => Names.split row.2.group) ↔
      ∃ id p, Write.record? writes id = some p ∧ g ∈ Names.split p.group := by
  simp only [List.mem_flatMap, h.record]
  constructor
  · rintro ⟨⟨n, p⟩, hrow, hg⟩
    exact ⟨n, p, h.find?_eq_some_iff.2 hrow, hg⟩
  · rintro ⟨id, p, hp, hg⟩
    obtain ⟨n, -, hrow⟩ := exists_mem_of_find? hp
    exact ⟨(n, p), hrow, hg⟩

theorem answer_listGroups (h : Reflects writes s) (link : Network.Link Provider.Request) :
    ∃ used, (s.answer link .listGroups).2.2 = .names (Names.unique s.groups ++ used) ∧
      (Names.unique s.groups ++ used).Nodup ∧
      ∀ g, g ∈ used ↔ g ∉ s.groups ∧
        ∃ id p, Write.record? writes id = some p ∧ g ∈ Names.split p.group := by
  have hlist := Names.unique_append s.groups (s.rows.flatMap fun row => Names.split row.2.group)
  refine ⟨_, congrArg Reply.names hlist, hlist ▸ Names.nodup_unique _, fun g => ?_⟩
  rw [List.mem_filter, Names.mem_unique, ← h.mem_groups_iff, decide_eq_true_eq]
  constructor
  · rintro ⟨⟨hg, -⟩, hnew⟩
    exact ⟨hnew, hg⟩
  · rintro ⟨hnew, hg⟩
    refine ⟨⟨hg, ?_⟩, hnew⟩
    obtain ⟨row, -, hsplit⟩ := List.mem_flatMap.1 hg
    exact Text.mem_items_ne_empty hsplit

theorem follows (h : Reflects writes s) : Follows s.groups writes s where
  distinct := h.nodup_created
  known _ := Write.isSome_record?_iff
  read link _ hid := h.answer_get link hid
  create link _ hp := h.answer_create link hp
  update link _ hp hid := h.answer_update link hp hid
  refused link _ hr := answer_of_unreported link hr
  others link _ _ _ hid hne := find?_answer_of_ne link hid hne
  groups link := h.answer_listGroups link

end Reflects

theorem groups_answer (s : Store) (link : Network.Link Provider.Request) (call : Call) :
    (s.answer link call).1.groups = s.groups := by
  cases hwrite : isWrite call with
  | false => rw [answer_of_not_isWrite hwrite]
  | true =>
    cases call with
    | createChannel p =>
      show (s.create p).1.groups = _
      rcases create_cases s p with ⟨-, message, he⟩ | ⟨f, -, he⟩ | ⟨-, -, he⟩ <;> rw [he]
    | updateChannel p =>
      show (s.update p).1.groups = _
      rcases update_cases s p with
        ⟨-, message, he⟩ | ⟨id, f, -, he, -⟩ | ⟨id, stored, -, -, -, -, he⟩ <;> rw [he]
      rfl
    | _ => simp [isWrite] at hwrite

/-- What is configured stays. -/
theorem Log.groups_afterAll (x : Log) (calls : List Call) :
    (x.afterAll calls).store.groups = x.store.groups := by
  induction calls generalizing x with
  | nil => rfl
  | cons call calls ih =>
    exact (ih (x.after call)).trans (groups_answer x.store x.link call)

/-- After any run of calls to an empty store, whatever providers answer, the store follows the
writes that its replies have reported. -/
theorem Log.follows_afterAll (groups extraModels : List Text)
    (link : Network.Link Provider.Request) (calls : List Call) :
    let x := Log.afterAll { store := { groups, extraModels }, link } calls
    Follows groups x.writes x.store := by
  intro x
  have hreflects : Reflects x.writes x.store :=
    Reflects.afterAll (reflects_empty groups extraModels) calls
  have hgroups : x.store.groups = groups := Log.groups_afterAll _ calls
  exact hgroups ▸ hreflects.follows

end Store

end ChannelConsole
