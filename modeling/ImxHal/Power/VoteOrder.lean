import ImxHal.Power.Uclamp
import ImxHal.Schemes.RunningCap

/-! @src power/SessionTaskMap.cpp, power/UClampVoter.cpp | name:VoteOrder | scheme:running cap |
    family:folds

    The range of a task is narrowed by its sessions in the order of its task side, which is the order in
    which they were added. A power-efficient session also caps the ceiling, by the base of the profile
    when all its votes are over, and by `range.uclampMin + offset` when not: that is the minimum of
    the sessions met SO FAR.

        min 500, then efficient min 100      500 + 50 = 550
        efficient min 100, then min 500      100 + 50 = 150 -/

namespace ImxHal.Power
open ImxHal.Run ImxHal.Links ImxHal.RunningCap

/-- What a session is added with. -/
structure AddedSession where
  sessionId : SessionId
  sv : SessionValueEntry
  taskIds : List Pid

/-- The map after the sessions were added to an empty one, in the order of the list. -/
def SessionTaskMap.addAll (m : SessionTaskMap) (sessions : List AddedSession) : SessionTaskMap :=
  sessions.foldl (fun m s => m.add s.sessionId s.sv s.taskIds) m

/-- The sessions of a task. -/
def sessionsOf (taskId : Pid) (sessions : List AddedSession) : List AddedSession :=
  sessions.filter (taskId ∈ ·.taskIds)

/-! ### What a session votes for -/

/-- The minimum of the votes of a session that are in range, if it is active. -/
def SessionValueEntry.lowest (sv : SessionValueEntry) (time : Time) : ℤ :=
  if sv.isActive then (sv.votes.getUclampRange {} time).uclampMin else kUclampMin

/-- The maximum of the votes of a session that are in range, if it is active; of a power-efficient one
    whose votes are over, no more than the base. -/
def SessionValueEntry.highest (sv : SessionValueEntry) (eff : Efficiency) (time : Time) : ℤ :=
  if sv.isActive then
    let uclampMax := (sv.votes.getUclampRange {} time).uclampMax
    match sv.isPowerEfficient && sv.votes.allTimedOut time, eff.mUclampMaxEfficientBase with
    | true, some base => min uclampMax base
    | _, _ => uclampMax
  else kUclampMax

/-- The session caps the range by the running minimum. -/
def SessionValueEntry.caps (sv : SessionValueEntry) (eff : Efficiency) (time : Time) : Bool :=
  sv.isActive && sv.isPowerEfficient && eff.mUclampMaxEfficientBase.isSome &&
    !sv.votes.allTimedOut time

/-- The loop over the sessions of a task as a fold with a running cap. -/
def taskVote (eff : Efficiency) (time : Time) : Vote AddedSession ℤ where
  lo := fun s => s.sv.lowest time
  hi := fun s => s.sv.highest eff time
  capped := fun s => s.sv.caps eff time
  cap := fun uclampMin => uclampMin + eff.mUclampMaxEfficientOffset.getD 0

/-- Each session that caps the range has the greatest minimum of the sessions itself, or its own minimum
    and the offset are not below a maximum that the sessions vote for. -/
def CapsAgree (eff : Efficiency) (time : Time) (sessions : List AddedSession) : Prop :=
  ∀ d ∈ sessions, d.sv.caps eff time →
    (∀ s ∈ sessions, s.sv.lowest time ≤ d.sv.lowest time) ∨
    kUclampMax ≤ d.sv.lowest time + eff.mUclampMaxEfficientOffset.getD 0 ∨
    ∃ s ∈ sessions,
      s.sv.highest eff time ≤ d.sv.lowest time + eff.mUclampMaxEfficientOffset.getD 0

instance (eff : Efficiency) (time : Time) (sessions : List AddedSession) :
    Decidable (CapsAgree eff time sessions) := by
  unfold CapsAgree
  infer_instance

/-! ### One session -/

section Confine

variable {eff : Efficiency} {time : Time} {range : UclampRange}

/-- A loop whose steps raise the minimum and lower the maximum narrows any range by the same bounds. -/
theorem foldl_narrow {ι : Type} {f : UclampRange → ι → UclampRange}
    (hf : ∀ i, (∀ r, f r i = r) ∨
      ∃ lo hi, ∀ r : UclampRange, f r i = ⟨max r.uclampMin lo, min r.uclampMax hi⟩)
    (ids : List ι) (lo hi : ℤ) (range : UclampRange) :
    ids.foldl f ⟨max range.uclampMin lo, min range.uclampMax hi⟩ =
      ⟨max range.uclampMin (ids.foldl f ⟨lo, hi⟩).uclampMin,
        min range.uclampMax (ids.foldl f ⟨lo, hi⟩).uclampMax⟩ := by
  induction ids generalizing lo hi with
  | nil => rfl
  | cons i ids ih =>
    rw [List.foldl_cons, List.foldl_cons]
    rcases hf i with hsame | ⟨lo', hi', hstep⟩
    · rw [hsame, hsame, ih]
    · rw [hstep, hstep, max_assoc, min_assoc, ih]

/-- The votes of a session narrow a range that is within the default one by their own range. -/
theorem getUclampRange_eq (votes : Votes) (time : Time) (hmin : kUclampMin ≤ range.uclampMin)
    (hmax : range.uclampMax ≤ kUclampMax) :
    votes.getUclampRange range time =
      ⟨max range.uclampMin (votes.getUclampRange {} time).uclampMin,
        min range.uclampMax (votes.getUclampRange {} time).uclampMax⟩ := by
  have hrange : range = ⟨max range.uclampMin kUclampMin, min range.uclampMax kUclampMax⟩ := by
    rw [max_eq_left hmin, min_eq_left hmax]
  unfold Votes.getUclampRange
  conv_lhs => rw [hrange]
  refine foldl_narrow (fun id => ?_) AdpfVoteType.all kUclampMin kUclampMax range
  cases votes id with
  | none => exact .inl fun _ => rfl
  | some vote =>
    by_cases hin : vote.isTimeInRange time
    · exact .inr ⟨_, _, fun r => if_pos hin⟩
    · exact .inl fun r => if_neg hin

theorem confine_eq (s : AddedSession) (hmin : kUclampMin ≤ range.uclampMin)
    (hmax : range.uclampMax ≤ kUclampMax) :
    s.sv.confine eff time range =
      let next := step (taskVote eff time) (range.uclampMin, range.uclampMax) s
      ⟨next.1, next.2⟩ := by
  unfold SessionValueEntry.confine step taskVote SessionValueEntry.lowest
    SessionValueEntry.highest SessionValueEntry.caps
  by_cases hactive : s.sv.isActive
  · simp only [hactive, if_true, Bool.true_and, getUclampRange_eq s.sv.votes time hmin hmax]
    cases s.sv.isPowerEfficient with
    | false => simp
    | true =>
      cases eff.mUclampMaxEfficientBase with
      | none => simp
      | some base =>
        cases s.sv.votes.allTimedOut time with
        | false => simp
        | true => simp [min_assoc]
  · simp [hactive, hmin, hmax]

end Confine

/-! ### The sessions of a task -/

/-- The range of a task as the fold of its sessions. -/
theorem voteRange_eq (eff : Efficiency) (time : Time) (l : List AddedSession)
    (range : UclampRange) (hmin : kUclampMin ≤ range.uclampMin)
    (hmax : range.uclampMax ≤ kUclampMax) :
    (l.map fun s => { s.sv with sessionId := s.sessionId }).foldl
        (fun range sv => sv.confine eff time range) range =
      let r := fold (taskVote eff time) (range.uclampMin, range.uclampMax) l
      ⟨r.1, r.2⟩ := by
  induction l generalizing range with
  | nil => rfl
  | cons s l ih =>
    have hstep : ({ s.sv with sessionId := s.sessionId } : SessionValueEntry).confine eff time range =
        s.sv.confine eff time range := rfl
    have hle := (le_step_iff (v := taskVote eff time) (x := s)).mp
      (le_refl (step (taskVote eff time) (range.uclampMin, range.uclampMax) s).2)
    rw [List.map_cons, List.foldl_cons, hstep, confine_eq s hmin hmax]
    exact ih _ (hmin.trans (le_max_left _ _)) (hle.1.trans hmax)

/-- The voters of a task after sessions with new ids were added: one for each link, in order. -/
theorem voters_addAll {m : SessionTaskMap} (h : Inv m) (t : Pid) (sessions : List AddedSession)
    (hids : (sessions.map (·.sessionId)).Nodup)
    (hnew : ∀ s ∈ sessions, m.mSessions s.sessionId = none) :
    (m.addAll sessions).voters t = m.voters t ++
      (sessions.flatMap fun s => List.replicate (s.taskIds.count t) s).map
        fun s => { s.sv with sessionId := s.sessionId } := by
  induction sessions generalizing m with
  | nil => simp [SessionTaskMap.addAll]
  | cons s sessions ih =>
    rw [List.map_cons] at hids
    obtain ⟨hhead, htail⟩ := List.nodup_cons.mp hids
    have hs : m.mSessions s.sessionId = none := hnew s List.mem_cons_self
    have hrest : ∀ s' ∈ sessions,
        (m.add s.sessionId s.sv s.taskIds).mSessions s'.sessionId = none := by
      intro s' hs'
      have hne : s'.sessionId ≠ s.sessionId := by
        intro heq
        exact hhead (heq ▸ List.mem_map_of_mem hs')
      simpa [SessionTaskMap.add, hs, hne] using hnew s' (List.mem_cons_of_mem s hs')
    have hadd := ih (inv_add h s.sessionId s.sv s.taskIds) htail hrest
    rw [voters_add h hs] at hadd
    rw [List.flatMap_cons, List.map_append, List.map_replicate, ← List.append_assoc]
    exact hadd

theorem getTaskVoteRange_addAll (heap : Ptr → SessionValueEntry) (eff : Efficiency) (t : Pid)
    (time : Time) (sessions : List AddedSession) (hids : (sessions.map (·.sessionId)).Nodup) :
    ((SessionTaskMap.empty heap).addAll sessions).getTaskVoteRange eff t time =
      let r := fold (taskVote eff time) (kUclampMin, kUclampMax) (sessionsOf t sessions)
      ⟨r.1, r.2⟩ := by
  have hlinked : (sessions.filter fun s => decide (s.taskIds.count t ≠ 0)) = sessionsOf t sessions := by
    refine List.filter_congr fun s _ => ?_
    simp [List.count_eq_zero]
  rw [getTaskVoteRange_eq, voters_addAll (inv_empty heap) t sessions hids fun _ _ => rfl]
  have hempty : (SessionTaskMap.empty heap).voters t = [] := rfl
  rw [hempty, List.nil_append, voteRange, voteRange_eq _ _ _ _ (le_refl _) (le_refl _)]
  rw [fold_flatMap_replicate, hlinked]

/-! ### The order of the sessions -/

theorem lowest_nonneg (sv : SessionValueEntry) (time : Time) : kUclampMin ≤ sv.lowest time := by
  unfold SessionValueEntry.lowest
  by_cases hactive : sv.isActive
  · have hrange : sv.votes.getUclampRange {} time = _ :=
      getUclampRange_eq sv.votes time (le_refl _) (le_refl _)
    rw [if_pos hactive, hrange]
    exact le_max_left _ _
  · rw [if_neg hactive]

/-- The sessions agree on the cap if and only if the fold does not depend on their order. -/
theorem capsAgree_iff (eff : Efficiency) (time : Time) (l : List AddedSession) :
    CapsAgree eff time l ↔ OrderFree (taskVote eff time) (kUclampMin, kUclampMax) l := by
  have hcap : Monotone (taskVote eff time).cap := fun _ _ hle => Int.add_le_add_right hle _
  rw [orderFree_iff hcap, CapsAgree]
  refine forall₃_congr fun d hd hcaps => ?_
  have hown : max kUclampMin ((taskVote eff time).lo d) = d.sv.lowest time :=
    max_eq_right (lowest_nonneg d.sv time)
  have hfloor : (taskVote eff time).cap (floor (taskVote eff time) kUclampMin l) ≤
      (taskVote eff time).cap (d.sv.lowest time) ↔ ∀ s ∈ l, s.sv.lowest time ≤ d.sv.lowest time := by
    refine (Int.add_le_add_iff_right _).trans (floor_le_iff.trans ?_)
    exact and_iff_right (lowest_nonneg d.sv time)
  rw [hown, min_le_iff, ceiling_le_iff, hfloor]
  exact or_comm

theorem sessionsOf_append_others {t : Pid} {sessions l : List AddedSession}
    (h : l.Perm (sessionsOf t sessions)) :
    (l ++ sessions.filter fun s => ¬t ∈ s.taskIds).Perm sessions ∧
      sessionsOf t (l ++ sessions.filter fun s => ¬t ∈ s.taskIds) = l := by
  constructor
  · refine (h.append_right _).trans ?_
    simpa [sessionsOf] using List.filter_append_perm (fun s => decide (t ∈ s.taskIds)) sessions
  · have hlinked : ∀ s ∈ l, t ∈ s.taskIds := by
      intro s hs
      simpa [sessionsOf] using (List.mem_filter.mp (h.mem_iff.mp hs)).2
    rw [sessionsOf, List.filter_append, List.filter_eq_self.mpr (by simpa using hlinked)]
    simp [List.filter_filter]

/-- BUG: the cap reads the running minimum. The range of a task is the same for every order of its
    sessions if and only if they agree on the cap. -/
theorem vote_range_order_iff (heap : Ptr → SessionValueEntry) (eff : Efficiency) (t : Pid) (time : Time)
    (sessions : List AddedSession) (hids : (sessions.map (·.sessionId)).Nodup) :
    (∀ order : List AddedSession, order.Perm sessions →
      ((SessionTaskMap.empty heap).addAll order).getTaskVoteRange eff t time =
        ((SessionTaskMap.empty heap).addAll sessions).getTaskVoteRange eff t time) ↔
      CapsAgree eff time (sessionsOf t sessions) := by
  have hrange : ∀ order : List AddedSession, order.Perm sessions →
      (((SessionTaskMap.empty heap).addAll order).getTaskVoteRange eff t time =
        ((SessionTaskMap.empty heap).addAll sessions).getTaskVoteRange eff t time ↔
      fold (taskVote eff time) (kUclampMin, kUclampMax) (sessionsOf t order) =
        fold (taskVote eff time) (kUclampMin, kUclampMax) (sessionsOf t sessions)) := by
    intro order hperm
    have hids' := (hperm.map (·.sessionId)).nodup_iff.mpr hids
    rw [getTaskVoteRange_addAll heap eff t time order hids',
      getTaskVoteRange_addAll heap eff t time sessions hids, UclampRange.mk.injEq, Prod.ext_iff]
  rw [capsAgree_iff]
  constructor
  · intro h l hl
    obtain ⟨hperm, hlinked⟩ := sessionsOf_append_others hl
    have hsame := (hrange _ hperm).mp (h _ hperm)
    rwa [hlinked] at hsame
  · intro h order hperm
    exact (hrange order hperm).mpr (h _ (hperm.filter _))

/-! ### A normal and a power-efficient session -/

/-- A session with one vote that holds from 0 to 1000 ns. -/
def oneVote (sessionId : SessionId) (isPowerEfficient : Bool) (uclampMin : ℤ) : AddedSession where
  sessionId := sessionId
  sv := {
    sessionId := sessionId
    isActive := true
    isAppSession := false
    lastUpdatedTime := 0
    votes := Votes.add (fun _ => none) .CPU_VOTE_DEFAULT ⟨true, 0, 1000, ⟨uclampMin, 1024⟩⟩
    isPowerEfficient := isPowerEfficient }
  taskIds := [7]

def halfEfficient : Efficiency := ⟨some 600, some 50⟩

/-- The sessions agree when the efficient one has the greater minimum. -/
theorem vote_range_order_agree :
    ((SessionTaskMap.empty fun _ => (oneVote 0 false 0).sv).addAll
        [oneVote 2 true 500, oneVote 1 false 100]).getTaskVoteRange halfEfficient 7 10 =
      ((SessionTaskMap.empty fun _ => (oneVote 0 false 0).sv).addAll
        [oneVote 1 false 100, oneVote 2 true 500]).getTaskVoteRange halfEfficient 7 10 := by
  have hagree : CapsAgree halfEfficient 10
      (sessionsOf 7 [oneVote 1 false 100, oneVote 2 true 500]) := by decide
  exact (vote_range_order_iff _ halfEfficient 7 10 _ (by decide)).mpr hagree _
    (List.Perm.swap _ _ _)

/-- With the greater minimum on the normal session the order shows: 150 or 550. -/
theorem vote_order_shows :
    ¬∀ (heap : Ptr → SessionValueEntry) (eff : Efficiency) (t : Pid) (time : Time)
      (sessions order : List AddedSession), (sessions.map (·.sessionId)).Nodup →
      order.Perm sessions →
      ((SessionTaskMap.empty heap).addAll order).getTaskVoteRange eff t time =
        ((SessionTaskMap.empty heap).addAll sessions).getTaskVoteRange eff t time := by
  intro h
  have hswap := h (fun _ => (oneVote 0 false 0).sv) halfEfficient 7 10
    [oneVote 1 false 500, oneVote 2 true 100] [oneVote 2 true 100, oneVote 1 false 500]
    (by decide) (List.Perm.swap _ _ _)
  exact absurd hswap (by decide)

end ImxHal.Power
