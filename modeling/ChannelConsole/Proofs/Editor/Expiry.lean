import ChannelConsole.Editor.Sessions
import Mathlib.Data.List.Chain
import Mathlib.Data.List.Nodup

/-!
# How long an editor stays open

An editor that nobody asked for in too long a time ends, either when it is asked for or when the
editors are purged. Which of the two comes first makes no difference to who asks: an editor is
given exactly if it was opened, was not given up, and was never idle for too long
(`Sessions.use_afterAll_eq_some_iff`).

The reason is that a purge ends only editors that would never be given again. So what will be given
under a name from now on (`Sessions.Gives`) changes only by what happens under that name
(`Sessions.standing`), where a purge changes nothing. An idle time of exactly the limit is not too
long.
-/

namespace ChannelConsole.Editor.Sessions

/-- What can happen to the open editors. An editor is opened by a purge, after which it is loaded,
and is then added; `since` is when it was created. -/
inductive Event where
  | purge
  | add (id : Text) (form : Form) (since : Int)
  | use (id : Text)
  | discard (id : Text)

/-- The open editors after an event at a time. -/
def after (s : Sessions) (ttl : Int) (x : Int × Event) : Sessions :=
  match x.2 with
  | .purge => s.purge ttl x.1
  | .add id form since => s.add { id, form, lastUsed := since }
  | .use id => (s.use ttl x.1 id).1
  | .discard id => s.discard id

/-- The open editors after several events. -/
def afterAll (s : Sessions) (ttl : Int) (events : List (Int × Event)) : Sessions :=
  events.foldl (fun s x => s.after ttl x) s

/-- An editor is opened, and is loaded in no time. -/
def opening (now : Int) (id : Text) (form : Form) : List (Int × Event) :=
  [(now, .purge), (now, .add id form now)]

/-- The name of the editor that an event adds. -/
def Event.added? : Event → Option Text
  | .add id _ _ => some id
  | _ => none

/-- Whether an event is about the editor with a name. A purge is about none. -/
def Event.isAbout (id : Text) : Event → Bool
  | .purge => false
  | .add other _ _ | .use other | .discard other => other == id

/-- The names of the editors that are added by events. -/
def added (events : List (Int × Event)) : List Text := events.filterMap (·.2.added?)

/-- Whether events can have happened by now: times do not go back, and no name is given twice. -/
structure IsHistory (events : List (Int × Event)) (now : Int) : Prop where
  ordered : (events.map Prod.fst ++ [now]).Pairwise (· ≤ ·)
  distinct : (added events).Nodup

/-- The times at which an editor was asked for and was given. -/
def timesGiven (ttl : Int) (id : Text) (s : Sessions) : List (Int × Event) → List Int
  | [] => []
  | x :: events =>
    let later := timesGiven ttl id (s.after ttl x) events
    match x.2 with
    | .use other => if other = id ∧ (s.use ttl x.1 id).2.isSome then x.1 :: later else later
    | _ => later

variable {s : Sessions} {ttl now t : Int} {id : Text} {e : Session} {e? : Option Session}
  {x : Int × Event} {events : List (Int × Event)}

/-! ### What is given -/

/-- The editor that is given under a name, before the time is taken down. -/
def awake? (s : Sessions) (ttl now : Int) (id : Text) : Option Session :=
  (s.find? id).filter fun e => !e.isIdle ttl now

/-- Whether this is what is given under a name from a time on, as long as nothing happens. -/
def Gives (s : Sessions) (ttl now : Int) (id : Text) (e? : Option Session) : Prop :=
  ∀ t, now ≤ t → s.awake? ttl t id = e?.filter fun e => !e.isIdle ttl t

/-- What is given under a name after an event, if this was to be given before it. -/
def standing (ttl : Int) (id : Text) (e? : Option Session) (x : Int × Event) : Option Session :=
  match x.2 with
  | .purge => e?
  | .add other form since => if other = id then some { id, form, lastUsed := since } else e?
  | .use other =>
    if other = id then
      (e?.filter fun e => !e.isIdle ttl x.1).map fun e => { e with lastUsed := x.1 }
    else e?
  | .discard other => if other = id then none else e?

theorem not_isIdle_iff : ¬ e.isIdle ttl t = true ↔ t - e.lastUsed ≤ ttl := by
  simp only [Session.isIdle, decide_eq_true_eq]
  omega

theorem use_snd (s : Sessions) (ttl now : Int) (id : Text) :
    (s.use ttl now id).2 = (s.awake? ttl now id).map fun e => { e with lastUsed := now } := by
  unfold use awake?
  cases s.find? id with
  | none => rfl
  | some e => by_cases h : e.isIdle ttl now <;> simp [h, Option.filter_some]

theorem Gives.use (h : s.Gives ttl now id e?) (ht : now ≤ t) :
    (s.use ttl t id).2 =
      (e?.filter fun e => !e.isIdle ttl t).map fun e => { e with lastUsed := t } := by
  rw [use_snd, h t ht]

theorem Gives.mono (h : s.Gives ttl now id e?) (ht : now ≤ t) : s.Gives ttl t id e? :=
  fun t' ht' => h t' (Int.le_trans ht ht')

theorem gives_of_find? (h : s.find? id = e?) : s.Gives ttl now id e? := by
  intro t _
  rw [awake?, h]

/-- The names of the open editors. -/
def ids (s : Sessions) : List Text := s.live.map (·.id)

theorem find?_eq_none_iff : s.find? id = none ↔ id ∉ s.ids := by
  simp [find?, ids]

/-- An editor is found by its name, as no two editors have the same. -/
theorem find?_eq_some_iff (h : s.ids.Nodup) : s.find? id = some e ↔ e ∈ s.live ∧ e.id = id := by
  constructor
  · intro hfind
    exact ⟨List.mem_of_find?_eq_some hfind, id_of_find? hfind⟩
  · rintro ⟨hmem, rfl⟩
    obtain ⟨old, hold⟩ := Option.ne_none_iff_exists'.1 fun hnone =>
      find?_eq_none_iff.1 hnone (List.mem_map_of_mem hmem)
    have hsame : old = e :=
      List.inj_on_of_nodup_map h (List.mem_of_find?_eq_some hold) hmem (id_of_find? hold)
    rw [hold, hsame]

/-- A purge leaves what would be given at once. -/
theorem find?_purge (h : s.ids.Nodup) : (s.purge ttl now).find? id = s.awake? ttl now id := by
  have hids : (s.purge ttl now).ids.Nodup := h.sublist (List.filter_sublist.map _)
  ext e
  rw [find?_eq_some_iff hids, awake?, Option.filter_eq_some_iff, find?_eq_some_iff h, purge,
    List.mem_filter]
  exact and_right_comm

/-! ### One event -/

/-- An event keeps the names, or some of them, and adds one at most. -/
theorem ids_after (s : Sessions) (ttl : Int) (x : Int × Event) :
    (s.after ttl x).ids.Sublist (s.ids ++ x.2.added?.toList) := by
  obtain ⟨u, x⟩ := x
  have hput : ∀ e, (s.put e).ids = s.ids := by
    intro e
    unfold put ids
    rw [List.map_map]
    apply List.map_congr_left
    intro old _
    by_cases h : old.id = e.id <;> simp [h]
  cases x with
  | purge =>
    simp only [Event.added?, Option.toList_none, List.append_nil]
    exact List.filter_sublist.map _
  | add id form since => simp [after, add, ids, Event.added?]
  | discard id =>
    simp only [Event.added?, Option.toList_none, List.append_nil]
    exact List.filter_sublist.map _
  | use id =>
    simp only [after, Event.added?, Option.toList_none, List.append_nil, Sessions.use]
    split
    · exact List.Sublist.refl _
    · split
      · exact List.filter_sublist.map _
      · rw [hput]

/-- Events that are not about an editor leave it as it is, purges apart. -/
theorem find?_after_of_not_isAbout (hx : x.2.isAbout id = false) (hpurge : x.2 ≠ .purge) :
    (s.after ttl x).find? id = s.find? id := by
  obtain ⟨u, x⟩ := x
  cases x with
  | purge => exact absurd rfl hpurge
  | add other form since =>
    have hne : other ≠ id := by simpa [Event.isAbout] using hx
    simp [after, add, find?, List.find?_append, hne]
  | use other =>
    have hne : other ≠ id := by simpa [Event.isAbout] using hx
    simp only [after, Sessions.use]
    split
    · rfl
    · rename_i e hfound
      split
      · exact find?_discard_of_ne hne.symm
      · exact find?_put_of_ne (id_of_find? hfound ▸ hne.symm)
  | discard other =>
    have hne : other ≠ id := by simpa [Event.isAbout] using hx
    exact find?_discard_of_ne hne.symm

/-- Events that are not about an editor change nothing about what is given. -/
theorem standing_of_not_isAbout (hx : x.2.isAbout id = false) : standing ttl id e? x = e? := by
  obtain ⟨u, x⟩ := x
  cases x <;> simp_all [standing, Event.isAbout]

/-- A purge ends nobody who would be given at some later time. -/
theorem Gives.purge (h : s.Gives ttl now id e?) (hids : s.ids.Nodup) (ht : now ≤ t) :
    (s.purge ttl t).Gives ttl t id e? := by
  intro t' ht'
  rw [← h t' (Int.le_trans ht ht'), awake?, find?_purge hids, awake?, awake?,
    Option.filter_filter]
  congr 1
  funext e
  -- whoever was idle for too long is so ever after
  have hlonger : e.isIdle ttl t = true → e.isIdle ttl t' = true := by
    simp only [Session.isIdle, decide_eq_true_eq]
    omega
  cases hidle : e.isIdle ttl t with
  | true => simp [hlonger hidle]
  | false => simp

/-- What is given under a name changes only by what happens under that name. -/
theorem Gives.after (h : s.Gives ttl now id e?) (hids : s.ids.Nodup)
    (hnew : ∀ other, x.2.added? = some other → other ∉ s.ids) (hx : now ≤ x.1) :
    (s.after ttl x).Gives ttl x.1 id (standing ttl id e? x) := by
  cases habout : x.2.isAbout id with
  | false =>
    rw [standing_of_not_isAbout habout]
    by_cases hpurge : x.2 = .purge
    · simpa [Sessions.after, hpurge] using h.purge hids hx
    · intro t ht
      rw [awake?, find?_after_of_not_isAbout habout hpurge]
      exact h t (Int.le_trans hx ht)
  | true =>
    obtain ⟨u, x⟩ := x
    apply gives_of_find?
    cases x with
    | purge => cases habout
    | add other form since =>
      obtain rfl : other = id := by simpa [Event.isAbout] using habout
      have hnone := find?_eq_none_iff.2 (hnew other rfl)
      unfold find? at hnone
      simp [Sessions.after, standing, add, find?, List.find?_append, hnone]
    | use other =>
      obtain rfl : other = id := by simpa [Event.isAbout] using habout
      have hgives : s.awake? ttl u other = e?.filter fun e => !e.isIdle ttl u := h u hx
      simp only [Sessions.after, standing, if_true]
      rw [← hgives, awake?, Sessions.use]
      cases hfind : s.find? other with
      | none => simpa using hfind
      | some e =>
        obtain rfl := id_of_find? hfind
        by_cases hidle : e.isIdle ttl u
        · simp [hidle, Option.filter_some, find?_discard_self]
        · have hput := find?_put_self (e := { e with lastUsed := u }) hfind
          simp [hidle, Option.filter_some, hput]
    | discard other =>
      obtain rfl : other = id := by simpa [Event.isAbout] using habout
      simp [Sessions.after, standing, find?_discard_self]

/-! ### Runs -/

/-- Whether events can come after a time and until another one. -/
structure Follows (s : Sessions) (start : Int) (events : List (Int × Event)) (t : Int) : Prop where
  ordered : (start :: (events.map Prod.fst ++ [t])).Pairwise (· ≤ ·)
  distinct : (s.ids ++ added events).Nodup

theorem added_cons (x : Int × Event) (events : List (Int × Event)) :
    added (x :: events) = x.2.added?.toList ++ added events := by
  unfold added
  cases h : x.2.added? <;> simp [h]

theorem Follows.start_le (h : s.Follows now (x :: events) t) : now ≤ x.1 := by
  have hordered := (List.pairwise_cons.1 h.ordered).1
  exact hordered x.1 (by simp)

theorem Follows.le (h : s.Follows now events t) : now ≤ t :=
  (List.pairwise_cons.1 h.ordered).1 t (by simp)

theorem Follows.nodup (h : s.Follows now events t) : s.ids.Nodup :=
  (List.nodup_append.1 h.distinct).1

theorem Follows.new (h : s.Follows now (x :: events) t) {other : Text}
    (hx : x.2.added? = some other) : other ∉ s.ids := by
  have hdisjoint := (List.nodup_append.1 h.distinct).2.2
  intro hmem
  refine hdisjoint other hmem other ?_ rfl
  simp [added_cons, hx]

theorem Follows.after (h : s.Follows now (x :: events) t) :
    (s.after ttl x).Follows x.1 events t := by
  refine ⟨(List.pairwise_cons.1 h.ordered).2, ?_⟩
  have hdistinct := h.distinct
  rw [added_cons, ← List.append_assoc] at hdistinct
  exact hdistinct.sublist ((ids_after s ttl x).append_right _)

/-- What is given after a run changes by what happens under the name, one event after the other. -/
theorem Gives.afterAll (h : s.Gives ttl now id e?) (hevents : s.Follows now events t) :
    (s.afterAll ttl events).Gives ttl t id (events.foldl (standing ttl id) e?) := by
  induction events generalizing s now e? with
  | nil => exact h.mono hevents.le
  | cons x events ih =>
    exact ih (h.after hevents.nodup (fun _ => hevents.new) hevents.start_le) hevents.after

theorem timesGiven_cons_of_not_isAbout (hx : x.2.isAbout id = false) :
    timesGiven ttl id s (x :: events) = timesGiven ttl id (s.after ttl x) events := by
  obtain ⟨u, x⟩ := x
  cases x <;> simp_all [timesGiven, Event.isAbout]

theorem notMem_added_cons :
    id ∉ added (x :: events) ↔ x.2.added? ≠ some id ∧ id ∉ added events := by
  rw [added_cons, List.mem_append, not_or, Option.mem_toList]

/-- What is not given is not given later, unless it is added. -/
theorem standing_none (hx : x.2.added? ≠ some id) : standing ttl id none x = none := by
  obtain ⟨u, x⟩ := x
  cases x <;> simp_all [standing, Event.added?]

theorem timesGiven_cons_use {u : Int} : timesGiven ttl id s ((u, .use id) :: events) =
    if (s.use ttl u id).2.isSome then u :: timesGiven ttl id (s.after ttl (u, .use id)) events
    else timesGiven ttl id (s.after ttl (u, .use id)) events := by
  simp [timesGiven]

theorem foldl_standing_none (hnew : id ∉ added events) :
    events.foldl (standing ttl id) none = none := by
  induction events with
  | nil => rfl
  | cons x events ih =>
    obtain ⟨hx, hnew⟩ := notMem_added_cons.1 hnew
    rw [List.foldl_cons, standing_none hx, ih hnew]

/-- What is not given, and not added either, is never given. -/
theorem use_of_gives_none (h : s.Gives ttl now id none) (hevents : s.Follows now events t)
    (hnew : id ∉ added events) : ((s.afterAll ttl events).use ttl t id).2 = none := by
  have hnone := h.afterAll hevents
  rw [foldl_standing_none hnew] at hnone
  exact hnone.use (Int.le_refl t)

theorem timesGiven_of_gives_none (h : s.Gives ttl now id none) (hevents : s.Follows now events t)
    (hnew : id ∉ added events) : timesGiven ttl id s events = [] := by
  induction events generalizing s now with
  | nil => rfl
  | cons x events ih =>
    obtain ⟨hx, hnew⟩ := notMem_added_cons.1 hnew
    have hafter := h.after hevents.nodup (fun _ => hevents.new) hevents.start_le
    rw [standing_none hx] at hafter
    have hrest := ih hafter hevents.after hnew
    have huse := h.use hevents.start_le
    unfold timesGiven
    split
    · rw [huse, hrest]
      simp
    · exact hrest

/-! ### The life of an editor -/

/-- Whether no two neighbouring times are further apart than an editor may be idle. -/
def NeverIdle (ttl : Int) (times : List Int) : Prop := times.IsChain fun u v => v - u ≤ ttl

theorem neverIdle_pair {u v : Int} : NeverIdle ttl [u, v] ↔ v - u ≤ ttl := List.isChain_pair

theorem neverIdle_cons_of_le {u v : Int} {times : List Int} (h : v - u ≤ ttl) :
    NeverIdle ttl (u :: v :: times) ↔ NeverIdle ttl (v :: times) :=
  List.isChain_cons_cons.trans (and_iff_right h)

/-- An editor that is given now is given later exactly if it is not given up until then and never
idle for too long. -/
theorem use_afterAll_iff (h : s.Gives ttl now e.id (some e)) (hevents : s.Follows now events t)
    (hnew : e.id ∉ added events) {e' : Session} :
    ((s.afterAll ttl events).use ttl t e.id).2 = some e' ↔
      (∀ x ∈ events, x.2 ≠ .discard e.id) ∧
      NeverIdle ttl (e.lastUsed :: (timesGiven ttl e.id s events ++ [t])) ∧
      e' = { e with lastUsed := t } := by
  induction events generalizing s now e with
  | nil =>
    show (s.use ttl t e.id).2 = some e' ↔ _
    rw [h.use hevents.le]
    by_cases hidle : e.isIdle ttl t
    · have hlong : ¬ NeverIdle ttl [e.lastUsed, t] :=
        fun h => not_isIdle_iff.2 (neverIdle_pair.1 h) hidle
      simp [Option.filter_some, hidle, timesGiven, hlong]
    · have hshort := neverIdle_pair.2 (not_isIdle_iff.1 hidle)
      simp [Option.filter_some, hidle, timesGiven, hshort, eq_comm]
  | cons x events ih =>
    obtain ⟨hx, hnew⟩ := notMem_added_cons.1 hnew
    have hafter := h.after hevents.nodup (fun _ => hevents.new) hevents.start_le
    have hrest : (s.after ttl x).Follows x.1 events t := hevents.after
    show (((s.after ttl x).afterAll ttl events).use ttl t e.id).2 = some e' ↔ _
    cases habout : x.2.isAbout e.id with
    | false =>
      rw [standing_of_not_isAbout habout] at hafter
      rw [ih hafter hrest hnew, timesGiven_cons_of_not_isAbout habout, List.forall_mem_cons]
      have hkept : x.2 ≠ .discard e.id := by
        intro hdiscard
        simp [hdiscard, Event.isAbout] at habout
      simp [hkept]
    | true =>
      obtain ⟨u, x⟩ := x
      cases x with
      | purge => cases habout
      | add other form since => simp_all [Event.isAbout, Event.added?]
      | discard other =>
        obtain rfl : other = e.id := by simpa [Event.isAbout] using habout
        simp only [standing, if_true] at hafter
        rw [use_of_gives_none hafter hrest hnew]
        simp
      | use other =>
        obtain rfl : other = e.id := by simpa [Event.isAbout] using habout
        have huse := h.use hevents.start_le
        simp only [standing, if_true] at hafter
        have hut : u ≤ t := hrest.le
        by_cases hidle : e.isIdle ttl u
        · -- whoever is found idle is given neither now nor later
          simp only [Option.filter_some, hidle, Bool.not_true, Bool.false_eq_true, if_false,
            Option.map_none] at hafter huse
          rw [use_of_gives_none hafter hrest hnew, timesGiven_cons_use, huse,
            timesGiven_of_gives_none hafter hrest hnew]
          have hlong : ¬ NeverIdle ttl [e.lastUsed, t] := by
            intro h
            have hle := neverIdle_pair.1 h
            exact not_isIdle_iff.2 (by omega : u - e.lastUsed ≤ ttl) hidle
          simp [hlong]
        · simp only [Option.filter_some, hidle, Bool.not_false, if_true, Option.map_some]
            at hafter huse
          have hlater := ih (e := { e with lastUsed := u }) hafter hrest hnew
          rw [hlater, timesGiven_cons_use, huse]
          simp [neverIdle_cons_of_le (not_isIdle_iff.1 hidle)]

/-! ### Histories -/

/-- Whether an editor has been open ever since it was opened: it was not given up, and it was never
idle for too long between its creation, the times at which it was given, and now. -/
def HasStayed (ttl : Int) (id : Text) (form : Form) (history : List (Int × Event)) (now : Int) :
    Prop :=
  ∃ before opened since later, history = before ++ (opened, .add id form since) :: later ∧
    (∀ x ∈ later, x.2 ≠ .discard id) ∧
    NeverIdle ttl (since :: (timesGiven ttl id
      (({} : Sessions).afterAll ttl (before ++ [(opened, .add id form since)])) later ++ [now]))

theorem afterAll_append (s : Sessions) (ttl : Int) (before later : List (Int × Event)) :
    s.afterAll ttl (before ++ later) = (s.afterAll ttl before).afterAll ttl later :=
  List.foldl_append

theorem gives_new (ttl now : Int) (id : Text) : ({} : Sessions).Gives ttl now id none :=
  gives_of_find? rfl

theorem added_append (before later : List (Int × Event)) :
    added (before ++ later) = added before ++ added later := List.filterMap_append

/-- Before anything was opened, any history can follow. -/
theorem IsHistory.follows (h : IsHistory events now) :
    ∃ start, ({} : Sessions).Follows start events now := by
  have hordered := h.ordered
  cases events with
  | nil => exact ⟨now, by simp, h.distinct⟩
  | cons x events =>
    refine ⟨x.1, List.pairwise_cons.2 ⟨?_, hordered⟩, h.distinct⟩
    rw [List.map_cons, List.cons_append, List.forall_mem_cons]
    exact ⟨Int.le_refl _, (List.pairwise_cons.1 hordered).1⟩

/-- What happens first can happen without what happens later. -/
theorem Follows.before {before later : List (Int × Event)}
    (h : s.Follows now (before ++ x :: later) t) : s.Follows now before x.1 := by
  have htimes : (before.map Prod.fst ++ [x.1]).Sublist
      ((before ++ x :: later).map Prod.fst ++ [t]) := by simp
  have hnames : (added before).Sublist (added (before ++ x :: later)) := by
    rw [added_append]
    exact List.sublist_append_left _ _
  exact ⟨h.ordered.sublist (htimes.cons_cons now), h.distinct.sublist (hnames.append_left _)⟩

theorem Follows.later (ttl : Int) {before later : List (Int × Event)}
    (h : s.Follows now (before ++ later) t) :
    ∃ start, (s.afterAll ttl before).Follows start later t := by
  induction before generalizing s now with
  | nil => exact ⟨now, h⟩
  | cons x before ih => exact ih h.after

/-- An editor that was opened is given exactly if it has stayed open. -/
theorem use_afterAll_of_added {before later : List (Int × Event)} {opened since : Int}
    {form : Form} (h : IsHistory (before ++ (opened, .add id form since) :: later) now) :
    ((({} : Sessions).afterAll ttl (before ++ (opened, .add id form since) :: later)).use
        ttl now id).2 = some e ↔
      (∀ x ∈ later, x.2 ≠ .discard id) ∧
      NeverIdle ttl (since :: (timesGiven ttl id
        (({} : Sessions).afterAll ttl (before ++ [(opened, .add id form since)])) later ++ [now])) ∧
      e = { id, form, lastUsed := now } := by
  obtain ⟨start, hfollows⟩ := h.follows
  obtain ⟨start', hlater⟩ := hfollows.later ttl
  -- the name is given once, so it is new when the editor is added, and not added again
  have hdistinct := h.distinct
  rw [added_append, added_cons, List.nodup_append] at hdistinct
  obtain ⟨-, hadded, hdisjoint⟩ := hdistinct
  have hbefore : id ∉ added before := fun hmem => hdisjoint id hmem id (by simp [Event.added?]) rfl
  have hnew : id ∉ added later := by
    have hcons : (id :: added later).Nodup := hadded
    exact (List.nodup_cons.1 hcons).1
  have hnone := (gives_new ttl start id).afterAll hfollows.before
  rw [foldl_standing_none hbefore] at hnone
  have hgives := hnone.after hlater.nodup (fun _ => hlater.new) (Int.le_refl _)
  simp only [standing, if_true] at hgives
  rw [afterAll_append, afterAll_append]
  exact use_afterAll_iff (e := { id, form, lastUsed := since }) hgives hlater.after hnew

/-- What is given under a name in the end is decided by the events under that name. -/
theorem use_afterAll (h : IsHistory events now) (ttl : Int) (id : Text) :
    ((({} : Sessions).afterAll ttl events).use ttl now id).2 =
      ((events.foldl (standing ttl id) none).filter fun e => !e.isIdle ttl now).map
        fun e => { e with lastUsed := now } := by
  obtain ⟨start, hfollows⟩ := h.follows
  exact ((gives_new ttl start id).afterAll hfollows).use (Int.le_refl now)

theorem IsHistory.filter (h : IsHistory events now) (p : Int × Event → Bool) :
    IsHistory (events.filter p) now :=
  ⟨h.ordered.sublist ((List.filter_sublist.map _).append_right _),
    h.distinct.sublist (List.filter_sublist.filterMap _)⟩

theorem foldl_standing_filter (e? : Option Session) (events : List (Int × Event)) :
    (events.filter (·.2.isAbout id)).foldl (standing ttl id) e? =
      events.foldl (standing ttl id) e? := by
  rw [List.foldl_filter]
  congr 1
  funext e? x
  cases habout : x.2.isAbout id with
  | true => rfl
  | false => simp [standing_of_not_isAbout habout]

/-- What happens to other editors does not touch an editor, unless a purge ends it. -/
theorem find?_eq_some_of_after (hids : s.ids.Nodup) (hx : x.2.isAbout id = false)
    (h : (s.after ttl x).find? id = some e) : s.find? id = some e := by
  by_cases hpurge : x.2 = .purge
  · have hfound : (s.purge ttl x.1).find? id = some e := by simpa [after, hpurge] using h
    rw [find?_purge hids, awake?, Option.filter_eq_some_iff] at hfound
    exact hfound.1
  · rwa [find?_after_of_not_isAbout hx hpurge] at h

/-! ### Main statement -/

/-- An editor is given exactly if it was opened and has stayed open. It would be given just the same
if nothing but what is about it had happened; what is not about it does not touch it, unless it is
ended by a purge; and once it was not given, it is never given again. -/
theorem use_afterAll_eq_some_iff {history : List (Int × Event)} (h : IsHistory history now)
    (ttl : Int) (id : Text) :
    (∀ e, ((({} : Sessions).afterAll ttl history).use ttl now id).2 = some e ↔
      ∃ form, HasStayed ttl id form history now ∧ e = { id, form, lastUsed := now }) ∧
    ((({} : Sessions).afterAll ttl (history.filter (·.2.isAbout id))).use ttl now id).2 =
      ((({} : Sessions).afterAll ttl history).use ttl now id).2 ∧
    (∀ x t, IsHistory (history ++ [x]) t → x.2.isAbout id = false →
      ∀ e, (({} : Sessions).afterAll ttl (history ++ [x])).find? id = some e →
        (({} : Sessions).afterAll ttl history).find? id = some e) ∧
    (id ∈ added history → ((({} : Sessions).afterAll ttl history).use ttl now id).2 = none →
      ∀ later t, IsHistory (history ++ (now, .use id) :: later) t →
        ((({} : Sessions).afterAll ttl (history ++ (now, .use id) :: later)).use ttl t id).2 =
          none) := by
  refine ⟨fun e => ?_, ?_, fun x t hx habout e he => ?_, fun hadded hnone later t hlater => ?_⟩
  · constructor
    · intro hsome
      have hadded : id ∈ added history := by
        by_contra hnew
        rw [use_afterAll h, foldl_standing_none hnew] at hsome
        cases hsome
      obtain ⟨⟨opened, x⟩, hmem, hx⟩ := List.mem_filterMap.1 hadded
      obtain ⟨before, later, rfl⟩ := List.append_of_mem hmem
      cases x with
      | add other form since =>
        obtain rfl := Option.some.inj hx
        obtain ⟨hkept, hidle, he⟩ := (use_afterAll_of_added h).1 hsome
        exact ⟨form, ⟨before, opened, since, later, rfl, hkept, hidle⟩, he⟩
      | _ => cases hx
    · rintro ⟨form, ⟨before, opened, since, later, rfl, hkept, hidle⟩, he⟩
      exact (use_afterAll_of_added h).2 ⟨hkept, hidle, he⟩
  · rw [use_afterAll (h.filter _), use_afterAll h, foldl_standing_filter]
  · obtain ⟨start, hfollows⟩ := hx.follows
    obtain ⟨start', hlast⟩ := hfollows.later ttl
    rw [afterAll_append] at he
    exact find?_eq_some_of_after hlast.nodup habout he
  · rw [use_afterAll hlater, List.foldl_append, List.foldl_cons]
    rw [use_afterAll h, Option.map_eq_none_iff] at hnone
    have hnew : id ∉ added later := by
      have hdistinct := hlater.distinct
      rw [added_append, added_cons, List.nodup_append] at hdistinct
      intro hmem
      exact hdistinct.2.2 id hadded id (by simp [hmem]) rfl
    simp [standing, hnone, foldl_standing_none hnew]

/-- Two editors are opened, and the first one is asked for in between. It is given after exactly the
time for which it may be idle. The second one is not given at that time, and never again. -/
theorem use_afterAll_eq_some_iff_opening :
    let history := opening 0 "session-1" {} ++ opening 30 "session-2" {} ++
      [(60, .use "session-1"), (100, .purge)]
    IsHistory history 120 ∧
      ((({} : Sessions).afterAll 60 history).use 60 120 "session-1").2 =
        some { id := "session-1", form := {}, lastUsed := 120 } ∧
      IsHistory (history ++ [(120, .use "session-2")]) 121 ∧
      ((({} : Sessions).afterAll 60 (history ++ [(120, .use "session-2")])).use 60 121
        "session-2").2 = none := by
  intro history
  have hhistory : IsHistory history 120 := ⟨by decide, by decide⟩
  have hlater : IsHistory (history ++ [(120, .use "session-2")]) 121 := ⟨by decide, by decide⟩
  obtain ⟨hgiven, -⟩ := use_afterAll_eq_some_iff hhistory 60 "session-1"
  obtain ⟨-, -, -, hnever⟩ := use_afterAll_eq_some_iff hhistory 60 "session-2"
  have hstayed : HasStayed 60 "session-1" {} history 120 := by
    refine ⟨[(0, .purge)], 0, 0, _, rfl, by simp [opening], ?_⟩
    have htimes : timesGiven 60 "session-1" (({} : Sessions).afterAll 60
        [(0, .purge), (0, .add "session-1" {} 0)]) (opening 30 "session-2" {} ++
          [(60, .use "session-1"), (100, .purge)]) = [60] := by decide
    have hclose : NeverIdle 60 (0 :: ([60] ++ [120])) := by simp [NeverIdle]
    rw [← htimes] at hclose
    exact hclose
  refine ⟨hhistory, (hgiven _).2 ⟨{}, hstayed, rfl⟩, hlater, ?_⟩
  exact hnever (by decide) rfl [] 121 hlater

end ChannelConsole.Editor.Sessions
