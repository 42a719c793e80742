import ChannelConsole.Proofs.Server.Admission
import ChannelConsole.Proofs.Steps

/-!
# How long a token lets one in

A request that carries a token is let in exactly if the token was given out to somebody who knew the
password, was not taken back since, and has not ended (`letsIn_iff_hasLent`). At the very time at
which a token ends it lets nobody in any more.

Tokens that have ended are forgotten now and then. This removes only tokens that would let nobody in
at any later time, so it makes no difference when it happens, or whether. What one event does to a
token is said once (`admits_after`); that forgetting makes no difference and that tokens do not
affect one another follows, as a run treats two servers alike in which a token stands alike
(`Alike.afterAll`).
-/

namespace ChannelConsole.Server

open Network (Request Response)
open Steps

/-- Whether a token is given out: somebody logs in and is answered with it. -/
def GivesOut (token : Text) (s : Server) : Event → Prop
  | .request r => resolve r.method r.path = .found .login ∧ (s.handle r).2 = s.handsOver token
  | _ => False

/-- Whether a token is taken back: somebody who is let in with it logs out. -/
def TakesBack (token : Text) (s : Server) : Event → Prop
  | .request r =>
    resolve r.method r.path = .found .logout ∧ s.access.letIn s.now r.authorization? = .ok token
  | _ => False

/-- How long an event takes. -/
def Event.time : Event → Int
  | .wait time => time
  | _ => 0

/-- Whether the tokens that have ended are forgotten. -/
def Event.isSweep : Event → Bool
  | .sweep => true
  | _ => false

/-- Whether a token was given out in a run, has not ended at a time, and was not taken back in what
came later. -/
def HasLent (s : Server) (token : Text) (events : List Event) (t : Int) : Prop :=
  Meets after (fun s e later => GivesOut token s e ∧ t < s.now + s.lifetime ∧
    ¬ Sees after (TakesBack token) (s.after e) later) s events

variable {s s' : Server} {r : Request} {token other : Text} {e : Event} {events : List Event}
  {t : Int}

/-! ### One event -/

/-- The token that is given out is a new one. -/
theorem givesOut_iff : GivesOut token s e ↔
    ∃ r, e = .request r ∧ s.LogsIn r ∧ token = Access.tokenText s.access.issued := by
  cases e with
  | request r =>
    constructor
    · rintro ⟨hroute, hanswer⟩
      rcases handle_of_login (s := s) hroute with ⟨hin, hhandle⟩ | ⟨-, a, ha, hhandle⟩
      · rw [hhandle] at hanswer
        refine ⟨r, rfl, hin, ?_⟩
        simpa [handsOver, success] using hanswer.symm
      · rw [hhandle] at hanswer
        exact absurd (congrArg Response.status hanswer) ha
    · rintro ⟨_, hr, hin, rfl⟩
      obtain rfl := Event.request.inj hr
      rcases handle_of_login (s := s) hin.1 with ⟨-, hhandle⟩ | ⟨hout, -⟩
      · exact ⟨hin.1, by rw [hhandle]⟩
      · exact absurd hin hout
  | _ => exact ⟨False.elim, by rintro ⟨_, ⟨⟩, -⟩⟩

/-- What one event does to the tokens. -/
theorem after_cases (s : Server) (e : Event) :
    (GivesOut (Access.tokenText s.access.issued) s e ∧
      s.after e = { s with access := (s.access.issue s.now s.lifetime).1 }) ∨
    (∃ token, TakesBack token s e ∧ s.after e = { s with access := s.access.revoke token }) ∨
    (e = .sweep ∧ s.after e = s.sweep) ∨
    ((∀ token, ¬ GivesOut token s e) ∧ (∀ token, ¬ TakesBack token s e) ∧
      (s.after e).access = s.access) := by
  cases e with
  | sweep => exact .inr (.inr (.inl ⟨rfl, rfl⟩))
  | wait | relink => exact .inr (.inr (.inr ⟨fun _ => id, fun _ => id, rfl⟩))
  | request r =>
    by_cases hlogin : resolve r.method r.path = .found .login
    · rcases handle_of_login (s := s) hlogin with ⟨hin, hhandle⟩ | ⟨hout, a, ha, hhandle⟩
      · exact .inl ⟨givesOut_iff.2 ⟨r, rfl, hin, rfl⟩, congrArg Prod.fst hhandle⟩
      · refine .inr (.inr (.inr ⟨?_, ?_, ?_⟩))
        · intro token hgives
          obtain ⟨_, hr, hin, -⟩ := givesOut_iff.1 hgives
          obtain rfl := Event.request.inj hr
          exact hout hin
        · rintro token ⟨hlogout, -⟩
          rw [hlogin] at hlogout
          cases hlogout
        · rw [after, hhandle]
    by_cases hlogout : ∃ token, TakesBack token s (.request r)
    · obtain ⟨token, htakes⟩ := hlogout
      exact .inr (.inl ⟨token, htakes, handle_of_logout htakes.1 htakes.2⟩)
    · have hquiet : s.Consults (s.after (.request r)) :=
        consults_handle hlogin fun hroute token hletIn => hlogout ⟨token, hroute, hletIn⟩
      exact .inr (.inr (.inr ⟨fun _ hgives => hlogin hgives.1, not_exists.1 hlogout,
        hquiet.access⟩))

theorem takesBack_of_takesBack (h : TakesBack token s e) (h' : TakesBack other s e) :
    token = other := by
  cases e with
  | request r => exact Except.ok.inj (h.2.symm.trans h'.2)
  | _ => exact h.elim

theorem not_takesBack_of_givesOut (h : GivesOut token s e) : ¬ TakesBack other s e := by
  cases e with
  | request r =>
    rintro ⟨hlogout, -⟩
    have hlogin := h.1
    rw [hlogin] at hlogout
    cases hlogout
  | _ => exact id

/-- A token lets one in after an event if it did before and was not taken back, or if it has just
been given out. -/
theorem admits_after (ht : s.now ≤ t) :
    (s.after e).access.admits t token = true ↔
      (s.access.admits t token = true ∧ ¬ TakesBack token s e) ∨
        (GivesOut token s e ∧ t < s.now + s.lifetime) := by
  rcases after_cases s e with
    ⟨hgives, hafter⟩ | ⟨back, htakes, hafter⟩ | ⟨rfl, hafter⟩ | ⟨hgives, htakes, haccess⟩
  · have hnot : ¬ TakesBack token s e := not_takesBack_of_givesOut hgives
    have hnew : GivesOut token s e ↔ token = Access.tokenText s.access.issued := by
      constructor
      · intro h
        obtain ⟨_, _, _, htoken⟩ := givesOut_iff.1 h
        exact htoken
      · rintro rfl
        exact hgives
    rw [hafter, Access.admits_issue]
    simp [hnot, hnew]
  · have hnot : ¬ GivesOut token s e := fun h => not_takesBack_of_givesOut h htakes
    have hback : TakesBack token s e ↔ token = back := by
      constructor
      · exact fun h => takesBack_of_takesBack h htakes
      · rintro rfl
        exact htakes
    rw [hafter, Access.admits_revoke]
    simp [hnot, hback]
  · rw [hafter]
    show (s.access.sweep s.now).admits t token = true ↔ _
    rw [Access.admits_sweep _ _ _ _ ht]
    simp [TakesBack, GivesOut]
  · rw [haccess]
    simp [hgives, htakes]

theorem now_settings_after (s : Server) (e : Event) :
    (s.after e).now = s.now + e.time ∧ (s.after e).settings = s.settings := by
  cases e with
  | request r =>
    have hchanges : s.Changes (s.after (.request r)) := changes_handle s r
    obtain ⟨hnow, hsettings⟩ := hchanges.now_settings
    exact ⟨hnow.trans (Int.add_zero s.now).symm, hsettings⟩
  | wait time => exact ⟨rfl, rfl⟩
  | sweep | relink => exact ⟨(Int.add_zero s.now).symm, rfl⟩

/-! ### Servers that treat a token alike -/

/-- Whether a token stands alike in two servers from now on, and will stand alike as long as the
same happens to both. -/
structure Alike (token : Text) (s s' : Server) : Prop where
  now : s.now = s'.now
  settings : s.settings = s'.settings
  issued : s.access.issued = s'.access.issued
  admits : ∀ t, s.now ≤ t → s.access.admits t token = s'.access.admits t token

theorem Alike.refl (token : Text) (s : Server) : Alike token s s :=
  ⟨rfl, rfl, rfl, fun _ _ => rfl⟩

theorem Alike.admits_now (h : Alike token s s') :
    s.access.admits s.now token = s'.access.admits s'.now token := by
  rw [h.admits s.now (Int.le_refl _), h.now]

theorem Alike.givesOut_iff (h : Alike token s s') : GivesOut other s e ↔ GivesOut other s' e := by
  have hlogsIn : ∀ r, s.LogsIn r ↔ s'.LogsIn r := by
    intro r
    simp only [LogsIn, knowsPassword?, h.settings]
  rw [Server.givesOut_iff, Server.givesOut_iff, h.issued]
  simp only [hlogsIn]

theorem Alike.takesBack_iff (h : Alike token s s') :
    TakesBack token s e ↔ TakesBack token s' e := by
  cases e with
  | request r =>
    simp only [TakesBack, Access.letIn_eq_ok_iff, h.admits_now]
  | _ => exact Iff.rfl

/-- The tokens that are given out are counted. -/
theorem issued_after (s : Server) (e : Event) :
    (s.after e).access.issued = s.access.issued + 1 ∧
        GivesOut (Access.tokenText s.access.issued) s e ∨
      (s.after e).access.issued = s.access.issued ∧ ∀ token, ¬ GivesOut token s e := by
  rcases after_cases s e with
    ⟨hgives, hafter⟩ | ⟨back, htakes, hafter⟩ | ⟨rfl, hafter⟩ | ⟨hgives, htakes, haccess⟩
  · exact .inl ⟨by rw [hafter]; rfl, hgives⟩
  · exact .inr ⟨by rw [hafter]; rfl, fun _ h => not_takesBack_of_givesOut h htakes⟩
  · exact .inr ⟨by rw [hafter]; rfl, fun _ => id⟩
  · exact .inr ⟨by rw [haccess], hgives⟩

theorem Alike.after (h : Alike token s s') (he : 0 ≤ e.time) :
    Alike token (s.after e) (s'.after e) := by
  obtain ⟨hnow, hsettings⟩ := now_settings_after s e
  obtain ⟨hnow', hsettings'⟩ := now_settings_after s' e
  refine ⟨by rw [hnow, hnow', h.now], by rw [hsettings, hsettings', h.settings], ?_, ?_⟩
  · rcases issued_after s e with ⟨hissued, hgives⟩ | ⟨hissued, hgives⟩
    · rcases issued_after s' e with ⟨hissued', -⟩ | ⟨-, hnot⟩
      · rw [hissued, hissued', h.issued]
      · exact absurd (h.givesOut_iff.1 hgives) (hnot _)
    · rcases issued_after s' e with ⟨-, hgives'⟩ | ⟨hissued', -⟩
      · exact absurd (h.givesOut_iff.2 hgives') (hgives _)
      · rw [hissued, hissued', h.issued]
  · intro t ht
    have hs : s.now ≤ t := by omega
    have hs' : s'.now ≤ t := h.now ▸ hs
    rw [Bool.eq_iff_iff, admits_after hs, admits_after hs', h.admits t hs, h.takesBack_iff,
      h.givesOut_iff, h.now, lifetime, lifetime, tokenSeconds, tokenSeconds, h.settings]

theorem Alike.afterAll (h : Alike token s s') (hevents : ∀ e ∈ events, 0 ≤ e.time) :
    Alike token (s.afterAll events) (s'.afterAll events) := by
  induction events generalizing s s' with
  | nil => exact h
  | cons e events ih =>
    obtain ⟨he, hevents⟩ := List.forall_mem_cons.1 hevents
    exact ih (h.after he) hevents

/-- It makes no difference to a token whether those that have ended are forgotten. -/
theorem alike_sweep (token : Text) (s : Server) : Alike token s s.sweep :=
  ⟨rfl, rfl, rfl, fun _ ht => (Access.admits_sweep _ _ _ _ ht).symm⟩

theorem Alike.trans {s'' : Server} (h : Alike token s s') (h' : Alike token s' s'') :
    Alike token s s'' :=
  ⟨h.now.trans h'.now, h.settings.trans h'.settings, h.issued.trans h'.issued,
    fun t ht => (h.admits t ht).trans (h'.admits t (h.now ▸ ht))⟩

/-- It makes no difference to a token when those that have ended are forgotten, or whether. -/
theorem Alike.afterAll_filter (h : Alike token s s') (hevents : ∀ e ∈ events, 0 ≤ e.time) :
    Alike token (s.afterAll (events.filter (!·.isSweep))) (s'.afterAll events) := by
  induction events generalizing s s' with
  | nil => exact h
  | cons e events ih =>
    obtain ⟨he, hlater⟩ := List.forall_mem_cons.1 hevents
    cases hsweep : e.isSweep with
    | true =>
      cases e with
      | sweep => exact ih (h.trans (alike_sweep token s')) hlater
      | _ => cases hsweep
    | false =>
      rw [List.filter_cons_of_pos (by simp [hsweep])]
      exact ih (h.after he) hlater

/-- It makes no difference to a token whether another one is taken back. -/
theorem alike_of_takesBack (h : TakesBack other s e) (hne : other ≠ token) :
    Alike token (s.after e) s := by
  have hafter : s.after e = { s with access := s.access.revoke other } := by
    cases e with
    | request r => exact handle_of_logout h.1 h.2
    | _ => exact h.elim
  rw [hafter]
  refine ⟨rfl, rfl, rfl, fun t _ => ?_⟩
  rw [Access.admits_revoke]
  simp [hne.symm]

theorem Alike.shutsOut (h : Alike token s s')
    (hshown : Access.shown? r.authorization? = some token) : s.shutsOut r = s'.shutsOut r := by
  unfold Server.shutsOut
  rw [hshown]
  simp only [Option.all_some, h.admits_now]

/-- A request that shows no token is treated alike by all servers. -/
theorem shutsOut_of_not_shown (s s' : Server) (hshown : Access.shown? r.authorization? = none) :
    s.shutsOut r = s'.shutsOut r := by
  simp only [shutsOut, hshown, Option.all_none]

/-! ### Runs -/

theorem hasLent_cons : s.HasLent token (e :: events) t ↔
    (GivesOut token s e ∧ t < s.now + s.lifetime ∧
      ¬ Sees after (TakesBack token) (s.after e) events) ∨
    (s.after e).HasLent token events t := meets_cons

theorem now_le_afterAll (s : Server) (hevents : ∀ e ∈ events, 0 ≤ e.time) :
    s.now ≤ (s.afterAll events).now := by
  induction events generalizing s with
  | nil => exact Int.le_refl _
  | cons e events ih =>
    obtain ⟨he, hlater⟩ := List.forall_mem_cons.1 hevents
    have hnow := (now_settings_after s e).1
    have hrest := ih (s.after e) hlater
    rw [afterAll_cons]
    omega

/-- A token lets one in after a run if it did before and was not taken back, or if it was given out
in the run, has not ended, and was not taken back since. -/
theorem admits_afterAll (hevents : ∀ e ∈ events, 0 ≤ e.time) (ht : (s.afterAll events).now ≤ t) :
    (s.afterAll events).access.admits t token = true ↔
      (s.access.admits t token = true ∧ ¬ Sees after (TakesBack token) s events) ∨
        s.HasLent token events t := by
  induction events generalizing s with
  | nil =>
    have hsees : ¬ Sees after (TakesBack token) s [] := not_sees_nil (TakesBack token) s
    have hlent : ¬ s.HasLent token [] t := not_meets_nil _ s
    simp only [hsees, hlent, not_false_eq_true, and_true, or_false]
    rfl
  | cons e events ih =>
    obtain ⟨-, hlater⟩ := List.forall_mem_cons.1 hevents
    have hnow : s.now ≤ t := Int.le_trans (now_le_afterAll s hevents) ht
    rw [afterAll_cons] at ht ⊢
    rw [ih hlater ht, admits_after hnow, sees_cons, hasLent_cons]
    tauto

/-! ### Main statement -/

theorem IsSound.not_admits_empty (h : s.IsSound) (t : Int) : s.access.admits t "" = false := by
  rw [Access.admits, List.any_eq_false]
  intro token htoken
  simp [h.tokens token htoken]

theorem letIn_bearer_iff {a : Access} {now : Int} (h : a.admits now "" = false) :
    (∃ shown, a.letIn now (some ("Bearer " ++ token)) = .ok shown) ↔
      a.admits now token = true := by
  simp only [Access.letIn_eq_ok_iff, Access.shown?_bearer]
  by_cases htoken : token = ""
  · simp [htoken, h]
  · simp [htoken]

/-- A request that carries a token is let in exactly if the token was given out at a login, has not
ended, and was not taken back since. It makes no difference whether tokens that have ended are
forgotten, and logging out with one token makes no difference to who carries another one. -/
theorem letsIn_iff_hasLent (settings : Settings) {events : List Event}
    (hevents : ∀ e ∈ events, 0 ≤ e.time) (token : Text) :
    let s := (ofSettings settings).afterAll events
    let lent := (ofSettings settings).HasLent token events s.now
    (∀ r route, resolve r.method r.path = .found route → route.isPublic = false →
      r.authorization? = some ("Bearer " ++ token) →
        (s.shutsOut r = false ↔ lent) ∧
        ∀ body?, bodyFor route r.body = .ok body? → ((s.handle r).2.status ≠ 401 ↔ lent)) ∧
    (∀ r, ((ofSettings settings).afterAll (events.filter (!·.isSweep))).shutsOut r =
      s.shutsOut r) ∧
    (∀ other e, TakesBack other s e → other ≠ token →
      ∀ later, (∀ e' ∈ later, 0 ≤ e'.time) → ∀ r, r.authorization? = some ("Bearer " ++ token) →
        ((s.after e).afterAll later).shutsOut r = (s.afterAll later).shutsOut r) := by
  intro s lent
  have hlent : s.access.admits s.now token = true ↔ lent := by
    have hstart : (ofSettings settings).access.admits s.now token = false := rfl
    rw [admits_afterAll hevents (Int.le_refl _), hstart]
    simp only [Bool.false_eq_true, false_and, false_or]
    exact Iff.rfl
  refine ⟨fun r route hroute hpublic hbearer => ?_, fun r => ?_, ?_⟩
  · have hsound : s.IsSound := (isSound_ofSettings settings).afterAll events
    have hin : s.shutsOut r = false ↔ lent := by
      rw [shutsOut_eq_false_iff hroute hpublic, hbearer,
        letIn_bearer_iff (hsound.not_admits_empty s.now), hlent]
    refine ⟨hin, fun body? hbody => ?_⟩
    rw [Ne, status_handle_eq_iff hroute hpublic hbody, ← hin, Bool.not_eq_true]
  · cases hshown : Access.shown? r.authorization? with
    | none => exact shutsOut_of_not_shown _ _ hshown
    | some shown => exact ((Alike.refl shown _).afterAll_filter hevents).shutsOut hshown
  · intro other e htakes hne later hlater r hbearer
    by_cases htoken : token = ""
    · apply shutsOut_of_not_shown
      rw [hbearer, Access.shown?_bearer, if_pos htoken]
    · refine ((alike_of_takesBack htakes hne).afterAll hlater).shutsOut ?_
      rw [hbearer, Access.shown?_bearer, if_neg htoken]

/-- The settings of a server whose tokens last for an hour. -/
def hourly : Settings := { adminPassword? := some "pw", adminTokenExpiryHours := 1 }

/-- Somebody logs in with the password. -/
def loggingIn : Event := .request
  { method := "POST", path := "/api/admin/login", body := .json (.obj [("password", .str "pw")]) }

/-- Two people log in, and almost an hour later the second one logs out. -/
def almostAnHour : List Event :=
  [loggingIn, loggingIn, .wait (3600 * second - 1), .request
    { method := "POST", path := "/api/admin/logout", authorization? := some "Bearer token-2" },
    .sweep]

/-- Who is still logged in is let in until the last moment of the hour, and then no more. -/
theorem letsIn_iff_hasLent_hour :
    (∀ e ∈ almostAnHour ++ [.wait 1], 0 ≤ e.time) ∧
      (ofSettings hourly).HasLent "token-1" almostAnHour
        ((ofSettings hourly).afterAll almostAnHour).now ∧
      ¬ (ofSettings hourly).HasLent "token-1" (almostAnHour ++ [.wait 1])
        ((ofSettings hourly).afterAll (almostAnHour ++ [.wait 1])).now := by
  have hevents : ∀ e ∈ almostAnHour ++ [.wait 1], 0 ≤ e.time := by decide
  have hbefore : ∀ e ∈ almostAnHour, 0 ≤ e.time :=
    fun e he => hevents e (List.mem_append_left _ he)
  let r : Request :=
    { method := "GET", path := "/api/admin/verify", authorization? := some "Bearer token-1" }
  have hroute : resolve r.method r.path = .found .verify := by decide +kernel
  have hin : (((ofSettings hourly).afterAll almostAnHour).handle r).2.status ≠ 401 := by
    decide +kernel
  have hout : (((ofSettings hourly).afterAll (almostAnHour ++ [.wait 1])).handle r).2.status =
      401 := by decide +kernel
  obtain ⟨hsoon, -⟩ := letsIn_iff_hasLent hourly hbefore "token-1"
  obtain ⟨hlate, -⟩ := letsIn_iff_hasLent hourly hevents "token-1"
  have hsoon := (hsoon r .verify hroute rfl rfl).2 none rfl
  have hlate := (hlate r .verify hroute rfl rfl).2 none rfl
  exact ⟨hevents, hsoon.1 hin, fun h => hlate.2 h hout⟩

end ChannelConsole.Server
