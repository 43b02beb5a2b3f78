import ImxHal.Power.SessionManager

/-! @src power/PowerSessionManager.cpp | name:Timeouts | scheme:run | family:deadlines

    An active vote is turned off by a timeout event. To save queue entries `voteSet` schedules one only
    when no event can be on its way early enough, and an event that finds its vote due later schedules
    itself again:

        voteSet, inactive or due earlier ──▶ (session, vote) at start + duration
        event fires, vote due later ──────▶ (session, vote) at the vote's timeout
        event fires, vote due ────────────▶ vote off

    So a vote is covered as long as some event of its own is due no later than the vote. The one call
    that can move a timeout to an earlier time without scheduling is `updateTargetWorkDuration`. -/

namespace ImxHal.Power
open ImxHal.Run

/-- A call of the manager, or the worker handing over the event at place `i` of the queue. -/
inductive TimedAct where
  | call (env : Env) (c : Call)
  | fire (env : Env) (i : ℕ)

/-- An event fires at or after its deadline; before it, nothing happens. -/
def Manager.fire (m : Manager) (now : Time) (i : ℕ) : Manager :=
  match m.timeouts[i]? with
  | none => m
  | some timeout =>
    if timeout.deadline ≤ now then
      Manager.handleEvent { m with timeouts := m.timeouts.eraseIdx i } timeout.event now
    else m

def Manager.timedStep (profile : AdpfProfile) (m : Manager) : TimedAct → Manager
  | .call env c => m.call profile env c
  | .fire env i => m.fire env.now i

/-- An event for the vote is due at `time` or before. -/
def Due (timeouts : List Timeout) (s : SessionId) (v : AdpfVoteType) (time : Time) : Prop :=
  ∃ timeout ∈ timeouts, timeout.event.sessionId = s ∧ timeout.event.voteId = v ∧
    timeout.deadline ≤ time

/-- Every active vote of a session has an event that is due when it times out, or before. -/
def Covered (m : Manager) : Prop :=
  ∀ s sv tids, m.map.session s = some (sv, tids) → ∀ v, sv.votes.voteIsActive v →
    Due m.timeouts s v (sv.votes.voteTimeout v)

/-- A new duration of an active vote does not move its timeout before all its events. -/
def KeepsCover (m : Manager) : TimedAct → Prop
  | .call _ (.updateTargetWorkDuration s v d) => ∀ sv tids, m.map.session s = some (sv, tids) →
      ∀ vote, sv.votes v = some vote → vote.mActive → Due m.timeouts s v (vote.mStartTime + d)
  | _ => True

/-! ### Pending events -/

theorem due_later {timeouts : List Timeout} {s : SessionId} {v : AdpfVoteType} {t t' : Time}
    (h : Due timeouts s v t) (hle : t ≤ t') : Due timeouts s v t' := by
  obtain ⟨timeout, hmem, hs, hv, hdue⟩ := h
  exact ⟨timeout, hmem, hs, hv, hdue.trans hle⟩

theorem due_append {timeouts : List Timeout} {s : SessionId} {v : AdpfVoteType} {t : Time}
    (h : Due timeouts s v t) (more : List Timeout) : Due (timeouts ++ more) s v t := by
  obtain ⟨timeout, hmem, he⟩ := h
  exact ⟨timeout, List.mem_append_left more hmem, he⟩

theorem mem_eraseIdx_of_ne {timeouts : List Timeout} {i : ℕ} {gone other : Timeout}
    (hget : timeouts[i]? = some gone) (hmem : other ∈ timeouts) (hne : other ≠ gone) :
    other ∈ timeouts.eraseIdx i := by
  obtain ⟨j, hj⟩ := List.mem_iff_getElem?.mp hmem
  refine List.mem_eraseIdx_iff_getElem?.mpr ⟨j, ?_, hj⟩
  rintro rfl
  rw [hget] at hj
  exact hne (Option.some.inj hj).symm

/-! ### What each call does to the cover -/

section Cover

variable {profile : AdpfProfile} {m : Manager}

/-- A call that makes no vote active, moves no timeout and drops no event keeps the cover. -/
theorem covered_of_votes {m' : Manager} (h : Covered m)
    (hevents : ∀ timeout ∈ m.timeouts, timeout ∈ m'.timeouts)
    (hvotes : ∀ s sv' tids', m'.map.session s = some (sv', tids') → ∀ v, sv'.votes.voteIsActive v →
      ∃ sv tids, m.map.session s = some (sv, tids) ∧ sv.votes.voteIsActive v ∧
        sv'.votes.voteTimeout v = sv.votes.voteTimeout v) : Covered m' := by
  intro s sv' tids' hs v hv
  obtain ⟨sv, tids, hold, hact, htime⟩ := hvotes s sv' tids' hs v hv
  obtain ⟨timeout, hmem, he⟩ := h s sv tids hold v hact
  rw [htime]
  exact ⟨timeout, hevents timeout hmem, he⟩

theorem covered_addPowerSession (hi : Inv m.map) (h : Covered m) (desc : AppHintDesc)
    (tids : List Pid) (tag : ProcessTag) (t : Time) : Covered (m.addPowerSession desc tids tag t) := by
  refine covered_of_votes h (fun timeout hmem => hmem) ?_
  intro s sv' tids' hs v hv
  rw [session_addPowerSession hi] at hs
  by_cases hsame : s = desc.sessionId
  · subst hsame
    rw [if_pos rfl] at hs
    cases hold : m.map.session desc.sessionId with
    | none =>
      -- the one vote of a new session is not active
      rw [hold] at hs
      cases hs
      by_cases hdef : v = .CPU_VOTE_DEFAULT
      · subst hdef
        simp [Votes.voteIsActive, AppHintDesc.value, Votes.add] at hv
      · simp [Votes.voteIsActive, AppHintDesc.value, Votes.add, hdef] at hv
    | some value =>
      rw [hold] at hs
      cases hs
      exact ⟨value.1, value.2, rfl, hv, rfl⟩
  · rw [if_neg hsame] at hs
    exact ⟨sv', tids', hs, hv, rfl⟩

/-- A change of one session that keeps the timeouts of the votes it leaves active. -/
theorem covered_modify {m' : Manager} {s : SessionId}
    {f : SessionValueEntry × List Pid → SessionValueEntry × List Pid} (h : Covered m)
    (hevents : ∀ timeout ∈ m.timeouts, timeout ∈ m'.timeouts)
    (hmap : ∀ s', m'.map.session s' = if s' = s then (m.map.session s).map f else m.map.session s')
    (hf : ∀ value v, (f value).1.votes.voteIsActive v → value.1.votes.voteIsActive v ∧
      (f value).1.votes.voteTimeout v = value.1.votes.voteTimeout v) : Covered m' := by
  refine covered_of_votes h hevents ?_
  intro s' sv' tids' hs v hv
  rw [hmap] at hs
  by_cases hsame : s' = s
  · subst hsame
    rw [if_pos rfl] at hs
    cases hold : m.map.session s' with
    | none => rw [hold] at hs; cases hs
    | some value =>
      rw [hold] at hs
      have hsome : f value = (sv', tids') := by simpa using hs
      have hv' := hf value v (by rw [hsome]; exact hv)
      rw [hsome] at hv'
      exact ⟨value.1, value.2, rfl, hv'⟩
  · rw [if_neg hsame] at hs
    exact ⟨sv', tids', hs, hv, rfl⟩

/-- Applying the ranges schedules nothing. -/
theorem timeouts_applyLoop (dead : Pid → Bool) (s : SessionId) (t : Time) (tids : List Pid) (pos : ℕ)
    (m : Manager) : (m.applyLoop profile dead s t tids pos).timeouts = m.timeouts := by
  induction tids generalizing pos m with
  | nil => rfl
  | cons tid tids ih =>
    rw [Manager.applyLoop]
    split
    · exact ih pos _
    · exact ih (pos + 1) _

theorem timeouts_applyUclampLocked (profile : AdpfProfile) (dead : Pid → Bool) (m : Manager)
    (s : SessionId) (t : Time) : (m.applyUclampLocked profile dead s t).timeouts = m.timeouts := by
  unfold Manager.applyUclampLocked Manager.applyThreads
  dsimp only
  split
  · exact timeouts_applyLoop dead s t _ 0 m
  · rfl

theorem timeouts_voteSet {s : SessionId} {sv : SessionValueEntry} {tids : List Pid}
    (hs : m.map.session s = some (sv, tids)) (dead : Pid → Bool) (w : AdpfVoteType) (lo hi : ℤ)
    (t d : Time) : (m.voteSet profile dead s w lo hi t d).timeouts = m.timeouts ++
      if shouldScheduleTimeout sv.votes w (t + d) then [⟨⟨t, s, w⟩, t + d⟩] else [] := by
  rcases voteSet_cases profile dead m s w lo hi t d with ⟨hnone, -⟩ | ⟨value, hvalue, hstep⟩
  · rw [hs] at hnone
    cases hnone
  · rw [hs] at hvalue
    cases hvalue
    rw [hstep]
    dsimp only
    rw [timeouts_applyUclampLocked]
    rfl

/-- `voteSet`: either an event is scheduled for the new timeout, or the vote had one due no later
    than its old timeout, which is not after the new one. -/
theorem covered_voteSet (hi : Inv m.map) (h : Covered m) (dead : Pid → Bool) (s : SessionId)
    (w : AdpfVoteType) (lo hi' : ℤ) (t d : Time) :
    Covered (m.voteSet profile dead s w lo hi' t d) := by
  rcases voteSet_cases profile dead m s w lo hi' t d with ⟨-, hstep⟩ | ⟨⟨sv, tids⟩, hs, -⟩
  · rw [hstep]
    exact h
  intro s' sv' tids' hs' v hv
  rw [session_voteSet hi] at hs'
  rw [timeouts_voteSet hs]
  by_cases hsame : s' = s
  · subst hsame
    rw [if_pos rfl, hs] at hs'
    cases hs'
    by_cases hvote : v = w
    · subst hvote
      have htime : (sv.votes.add v ⟨true, t, d, ⟨lo, hi'⟩⟩).voteTimeout v = t + d := by
        simp [Votes.voteTimeout, Votes.add]
      rw [htime]
      by_cases hsched : shouldScheduleTimeout sv.votes v (t + d)
      · rw [if_pos hsched]
        exact ⟨_, List.mem_append_right _ (List.mem_singleton.mpr rfl), rfl, rfl, le_refl _⟩
      · rw [if_neg hsched, List.append_nil]
        simp only [shouldScheduleTimeout, Bool.or_eq_true, Bool.not_eq_true', decide_eq_true_eq,
          not_or, Bool.not_eq_false, not_lt] at hsched
        exact due_later (h s' sv tids hs v hsched.1) hsched.2
    · -- the other votes are as before
      have hother : sv.votes.add w ⟨true, t, d, ⟨lo, hi'⟩⟩ v = sv.votes v := by
        simp [Votes.add, hvote]
      rw [voteIsActive_congr hother] at hv
      rw [voteTimeout_congr hother]
      exact due_append (h s' sv tids hs v hv) _
  · rw [if_neg hsame] at hs'
    exact due_append (h s' sv' tids' hs' v hv) _

/-- An event that finds its vote not yet due schedules itself for the vote's timeout. -/
theorem timeouts_handleEvent (m : Manager) (e : EventSessionTimeout) (t : Time) :
    ∃ more, (m.handleEvent e t).timeouts = m.timeouts ++ more ∧
      ∀ sv tids, m.map.session e.sessionId = some (sv, tids) → sv.votes.voteIsActive e.voteId →
        t < sv.votes.voteTimeout e.voteId → more = [⟨e, sv.votes.voteTimeout e.voteId⟩] := by
  rcases handleEvent_cases m e t with ⟨hstep, hoff⟩ | ⟨value, hs, -, ⟨hle, hstep⟩ | ⟨-, hstep⟩⟩
  · refine ⟨[], by rw [hstep, List.append_nil], fun sv tids hsv hact _ => ?_⟩
    rw [hoff _ hsv] at hact
    cases hact
  · refine ⟨[], by rw [hstep, List.append_nil], fun sv tids hsv _ hlt => ?_⟩
    rw [hs] at hsv
    cases hsv
    exact absurd hle (not_le.mpr hlt)
  · refine ⟨_, by rw [hstep], fun sv tids hsv _ _ => ?_⟩
    rw [hs] at hsv
    cases hsv
    rfl

/-- An event may leave the queue when it fires: the vote it was for is then off, or due at the time
    of the event it has scheduled. Covers of other votes do not use it. -/
theorem covered_handleEvent (hi : Inv m.map) (e : EventSessionTimeout) (t : Time)
    (h : ∀ s sv tids, m.map.session s = some (sv, tids) → ∀ v, sv.votes.voteIsActive v →
      (s = e.sessionId ∧ v = e.voteId) ∨ Due m.timeouts s v (sv.votes.voteTimeout v)) :
    Covered (m.handleEvent e t) := by
  obtain ⟨more, htimeouts, hmore⟩ := timeouts_handleEvent m e t
  intro s sv' tids' hs v hv
  rw [session_handleEvent hi] at hs
  rw [htimeouts]
  by_cases hsame : s = e.sessionId
  · subst hsame
    rw [if_pos rfl] at hs
    obtain ⟨⟨sv, tids⟩, hold, hvalue⟩ := Option.map_eq_some_iff.mp hs
    by_cases hout : sv.votes.voteIsActive e.voteId ∧ sv.votes.voteTimeout e.voteId ≤ t
    · rw [if_pos hout] at hvalue
      cases hvalue
      obtain ⟨hne, hact, htime⟩ := setUseVote_active hv
      rw [htime]
      rcases h _ sv tids hold v hact with ⟨-, hsame⟩ | hdue
      · exact absurd hsame hne
      · exact due_append hdue more
    · rw [if_neg hout] at hvalue
      cases hvalue
      rcases h _ sv' tids' hold v hv with ⟨-, rfl⟩ | hdue
      · have hlt : t < sv'.votes.voteTimeout e.voteId := by
          by_contra hle
          exact hout ⟨hv, not_lt.mp hle⟩
        rw [hmore sv' tids' hold hv hlt]
        exact ⟨_, List.mem_append_right _ (List.mem_singleton.mpr rfl), rfl, rfl, le_refl _⟩
      · exact due_append hdue more
  · rw [if_neg hsame] at hs
    rcases h s sv' tids' hs v hv with ⟨hs', -⟩ | hdue
    · exact absurd hs' hsame
    · exact due_append hdue more

theorem inv_fire (hi : Inv m.map) (t : Time) (i : ℕ) : Inv (m.fire t i).map := by
  unfold Manager.fire
  split
  · exact hi
  · rename_i timeout _
    split
    · exact inv_handleEvent (m := { m with timeouts := m.timeouts.eraseIdx i }) hi timeout.event
    · exact hi

theorem covered_fire (hi : Inv m.map) (h : Covered m) (t : Time) (i : ℕ) : Covered (m.fire t i) := by
  unfold Manager.fire
  cases hget : m.timeouts[i]? with
  | none => exact h
  | some timeout =>
    dsimp only
    split
    · refine covered_handleEvent (m := { m with timeouts := m.timeouts.eraseIdx i }) hi
        timeout.event t ?_
      intro s sv tids hs v hv
      obtain ⟨other, hmem, hsession, hvote, hle⟩ := h s sv tids hs v hv
      -- the event that covers the vote is the one that fires, or it stays in the queue
      by_cases hsame : other = timeout
      · subst hsame
        exact Or.inl ⟨hsession.symm, hvote.symm⟩
      · exact Or.inr ⟨other, mem_eraseIdx_of_ne hget hmem hsame, hsession, hvote, hle⟩
    · exact h

theorem updateDuration_self {votes : Votes} {w : AdpfVoteType} {vote : CpuVote}
    (h : votes w = some vote) (d : Time) :
    votes.updateDuration w d w = some { vote with mDurationNs := d } := by
  simp [Votes.updateDuration, h]

theorem updateDuration_none {votes : Votes} {w : AdpfVoteType} (h : votes w = none) (d : Time) :
    votes.updateDuration w d = votes := by
  simp [Votes.updateDuration, h]

theorem updateDuration_other (votes : Votes) {v w : AdpfVoteType} (hne : v ≠ w) (d : Time) :
    votes.updateDuration w d v = votes v := by
  unfold Votes.updateDuration
  cases votes w with
  | none => rfl
  | some vote => simp [hne]

/-- `updateTargetWorkDuration` keeps the cover if the vote's events are not all too late for the new
    timeout, and only then. -/
theorem covered_updateTargetWorkDuration (hi : Inv m.map) (h : Covered m) (env : Env) (s : SessionId)
    (w : AdpfVoteType) (d : Time) : Covered (m.updateTargetWorkDuration s w d) ↔
      KeepsCover m (.call env (.updateTargetWorkDuration s w d)) := by
  have hmap : ∀ s', (m.updateTargetWorkDuration s w d).map.session s' = if s' = s then
      (m.map.session s).map (Prod.map (fun sv => { sv with votes := sv.votes.updateDuration w d }) id)
      else m.map.session s' := fun s' => session_modify hi s s' _
  constructor
  · intro hcov sv tids hs vote hvote hact
    have hnew : (m.updateTargetWorkDuration s w d).map.session s =
        some ({ sv with votes := sv.votes.updateDuration w d }, tids) := by
      rw [hmap, if_pos rfl, hs]
      rfl
    have hupd := updateDuration_self hvote d
    have hdue := hcov s _ _ hnew w (voteIsActive_iff.mpr ⟨_, hupd, hact⟩)
    rwa [voteTimeout_of hupd] at hdue
  · intro hkeep s' sv' tids' hs' v hv
    rw [hmap] at hs'
    by_cases hsame : s' = s
    · subst hsame
      rw [if_pos rfl] at hs'
      obtain ⟨⟨sv, tids⟩, hold, hvalue⟩ := Option.map_eq_some_iff.mp hs'
      cases hvalue
      dsimp only [Prod.map, id] at hv ⊢
      by_cases hvote : v = w
      · subst hvote
        cases hw : sv.votes v with
        | none =>
          rw [updateDuration_none hw] at hv ⊢
          exact h s' sv tids hold v hv
        | some vote =>
          have hupd := updateDuration_self hw d
          obtain ⟨vote', hvote', hact⟩ := voteIsActive_iff.mp hv
          rw [hupd] at hvote'
          cases hvote'
          rw [voteTimeout_of hupd]
          exact hkeep sv tids hold vote hw hact
      · have hother := updateDuration_other sv.votes hvote d
        rw [voteIsActive_congr hother] at hv
        rw [voteTimeout_congr hother]
        exact h s' sv tids hold v hv
    · rw [if_neg hsame] at hs'
      exact h s' sv' tids' hs' v hv

theorem timeouts_turned {m m' : Manager} {s : SessionId} {b : Bool} (h : Turned m m' s b) :
    m'.timeouts = m.timeouts := by
  rcases h with ⟨hstep, -⟩ | ⟨hstep, -⟩
  · rw [hstep]
  · rw [hstep]
    rfl

theorem timeouts_pause (m : Manager) (s : SessionId) : (m.pause s).timeouts = m.timeouts :=
  timeouts_turned (pause_cases m s)

theorem timeouts_resume (m : Manager) (s : SessionId) : (m.resume s).timeouts = m.timeouts :=
  timeouts_turned (resume_cases m s)

theorem timeouts_setPreferPowerEfficiency (dead : Pid → Bool) (m : Manager) (s : SessionId) (b : Bool)
    (now : Time) :
    (Manager.setPreferPowerEfficiency profile dead m s b now).timeouts = m.timeouts := by
  rcases setPreferPowerEfficiency_cases profile dead m s b now with ⟨hstep, -⟩ | ⟨hstep, -⟩
  · rw [hstep]
  · rw [hstep, timeouts_applyUclampLocked]

/-- Every call keeps the cover, with the one condition. -/
theorem covered_call (hi : Inv m.map) (h : Covered m) (env : Env) (c : Call)
    (hkeep : KeepsCover m (.call env c)) : Covered (m.call profile env c) := by
  have hevents : ∀ timeout ∈ m.timeouts, timeout ∈ m.timeouts := fun _ hmem => hmem
  cases c with
  | addPowerSession desc tids tag => exact covered_addPowerSession hi h desc tids tag env.now
  | removePowerSession s tag =>
    refine covered_of_votes h hevents ?_
    intro s' sv tids hs v hv
    rw [Manager.call, session_removePowerSession hi] at hs
    split at hs
    · cases hs
    · exact ⟨sv, tids, hs, hv, rfl⟩
  | setThreadsFromPowerSession s tids tag =>
    exact covered_modify h hevents (session_setThreads hi tids tag) fun _ _ hv => ⟨hv, rfl⟩
  | pause s =>
    refine covered_modify h ?_ (session_pause hi) fun _ _ hv => ⟨hv, rfl⟩
    rw [Manager.call, timeouts_pause]
    exact hevents
  | resume s =>
    refine covered_modify h ?_ (session_resume hi) fun _ _ hv => ⟨hv, rfl⟩
    rw [Manager.call, timeouts_resume]
    exact hevents
  | updateTargetWorkDuration s v d =>
    exact (covered_updateTargetWorkDuration hi h env s v d).mpr hkeep
  | voteSet s v lo hi' start d => exact covered_voteSet hi h env.dead s v lo hi' start d
  | disableBoosts s =>
    exact covered_modify h hevents (fun s' => session_modify hi s s' _)
      fun value v hv => disable_active boostVotes hv
  | setPreferPowerEfficiency s b =>
    refine covered_modify h ?_ (session_setPreferPowerEfficiency hi b) fun value v hv => ?_
    · rw [Manager.call, timeouts_setPreferPowerEfficiency]
      exact hevents
    · split at hv
      · rename_i hsame
        rw [if_pos hsame]
        exact ⟨hv, rfl⟩
      · rename_i hdiff
        rw [if_neg hdiff]
        exact ⟨hv, rfl⟩
  | handleEvent e =>
    exact covered_handleEvent hi e env.now fun s sv tids hs v hv => Or.inr (h s sv tids hs v hv)

/-- A step keeps the map and, under its condition, the cover. -/
theorem covered_timedStep (profile : AdpfProfile) (act : TimedAct) (h : Inv m.map ∧ Covered m)
    (hkeep : KeepsCover m act) :
    Inv (m.timedStep profile act).map ∧ Covered (m.timedStep profile act) := by
  obtain ⟨hi, hcov⟩ := h
  cases act with
  | call env c => exact ⟨inv_call env c hi, covered_call hi hcov env c hkeep⟩
  | fire env i => exact ⟨inv_fire hi env.now i, covered_fire hi hcov env.now i⟩

end Cover

end ImxHal.Power
