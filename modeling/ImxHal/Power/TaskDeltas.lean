import ImxHal.Power.Uclamp

/-! @src power/SessionTaskMap.cpp | name:TaskDeltas | scheme:links | family:two-sided index

    `replace` tells its caller which threads have come under a session and which are under none any
    more, from two looks at the task side: before the session is taken out, and after it is back in.

        before   t₁ ▶ [s]   t₂ ▶ [s, s']   t₃ ▶ []        replace s [t₃, t₃]
        after    t₁ ▶ []    t₂ ▶ [s']      t₃ ▶ [s, s]    removed [t₁]   added [t₃, t₃] -/

namespace ImxHal.Power
open ImxHal.Run ImxHal.Links

def SessionTaskMap.getSessionIds (m : SessionTaskMap) (taskId : Pid) : List SessionId :=
  (refs m.mTasks taskId).map fun ptr => (m.heap ptr).sessionId

/-- Of `m` the session `s` was removed, and nothing else. -/
structure Removed (m m' : SessionTaskMap) (s : SessionId) : Prop where
  gone : m'.mSessions s = none
  unlinked : ∀ t, s ∉ m'.getSessionIds t
  dropped : ∀ t, m'.getSessionIds t = [] → m'.mTasks t = none
  others : ∀ s', s' ≠ s → m'.session s' = m.session s' ∧
    ∀ t, (m'.getSessionIds t).count s' = (m.getSessionIds t).count s'

/-- The two lists tell what has changed from `m` to `m'`: the tasks that had no session and have one,
    and those that had one and have none. -/
structure Reported (m m' : SessionTaskMap) (added removed : List Pid) : Prop where
  added_iff : ∀ t, t ∈ added ↔ m.getSessionIds t = [] ∧ m'.getSessionIds t ≠ []
  removed_iff : ∀ t, t ∈ removed ↔ m.getSessionIds t ≠ [] ∧ m'.getSessionIds t = []

section Lemmas

variable {m : SessionTaskMap} {s : SessionId} {t : Pid}

theorem getSessionIds_eq (m : SessionTaskMap) (t : Pid) :
    m.getSessionIds t = (m.voters t).map (·.sessionId) := by
  rw [SessionTaskMap.getSessionIds, SessionTaskMap.voters, List.map_map]
  rfl

/-- A task has no session if and only if it is not in the map. -/
theorem getSessionIds_nil_iff (h : Inv m) : m.getSessionIds t = [] ↔ m.mTasks t = none := by
  rw [SessionTaskMap.getSessionIds, List.map_eq_nil_iff, refs]
  cases htask : m.mTasks t with
  | none => simp
  | some ptrs =>
    have hne : ptrs ≠ [] := by
      rintro rfl
      exact h.tight t htask
    simp [hne]

/-- The two sides say the same: a session is found from its tasks, and they from it. -/
theorem mem_getSessionIds (h : Inv m) : s ∈ m.getSessionIds t ↔ t ∈ m.getTaskIds s := by
  rw [SessionTaskMap.getSessionIds, List.mem_map, SessionTaskMap.getTaskIds]
  cases hs : m.mSessions s with
  | none =>
    refine iff_of_false ?_ List.not_mem_nil
    rintro ⟨ptr, hmem, hid⟩
    exact not_voter h hs hmem hid
  | some entry =>
    have hcount := h.counted s entry hs t
    rw [← List.count_pos_iff, ← hcount, List.count_pos_iff]
    constructor
    · rintro ⟨ptr, hmem, hid⟩
      rwa [(voter_iff h hs hmem).mp hid] at hmem
    · intro hmem
      exact ⟨entry.val, hmem, h.named s entry hs⟩

theorem getSessionIds_remove (h : Inv m) (s : SessionId) (t : Pid) :
    (m.remove s).getSessionIds t = (m.getSessionIds t).filter (· ≠ s) := by
  rw [getSessionIds_eq, getSessionIds_eq, voters_remove h, SessionTaskMap.others, List.filter_map]
  rfl

/-- The session leaves its old tasks and is the last session of the new ones, once for each link. -/
theorem getSessionIds_replace (h : Inv m) {sv : SessionValueEntry} {old : List Pid}
    (hs : m.session s = some (sv, old)) (taskIds : List Pid) (t : Pid) :
    (m.replace s taskIds).getSessionIds t =
      (m.getSessionIds t).filter (· ≠ s) ++ List.replicate (taskIds.count t) s := by
  rw [getSessionIds_eq, getSessionIds_eq, voters_replace h hs, List.map_append, List.map_replicate,
    session_sessionId h hs, SessionTaskMap.others, List.filter_map]
  rfl

theorem removed_of_remove (h : Inv m) (s : SessionId) : Removed m (m.remove s) s where
  gone := by
    have hnone := session_remove m s s
    rw [if_pos rfl] at hnone
    exact Option.map_eq_none_iff.mp hnone
  unlinked t := by
    rw [getSessionIds_remove h]
    simp
  dropped t := (getSessionIds_nil_iff (inv_remove h s)).mp
  others s' hne := by
    refine ⟨by rw [session_remove, if_neg hne], fun t => ?_⟩
    rw [getSessionIds_remove h, List.count_filter (by simpa using hne)]

theorem reported_of_replace (h : Inv m) (s : SessionId) (taskIds : List Pid) :
    Reported m (m.replace s taskIds) (m.addedThreads s taskIds) (m.removedThreads s taskIds) := by
  have h' := inv_replace h s taskIds
  cases he : m.mSessions s with
  | none =>
    have hsame : m.replace s taskIds = m := by simp only [SessionTaskMap.replace, he]
    constructor
    · intro t
      simp [SessionTaskMap.addedThreads, he, hsame]
    · intro t
      simp [SessionTaskMap.removedThreads, he, hsame]
  | some entry =>
    have hs : m.session s = some (m.heap entry.val, entry.linkedTasks) := by
      simp [SessionTaskMap.session, he]
    have hafter := getSessionIds_replace h hs taskIds
    constructor
    · intro t
      have hmem : t ∈ m.addedThreads s taskIds ↔ t ∈ taskIds ∧ m.getSessionIds t = [] := by
        simp [SessionTaskMap.addedThreads, he, getSessionIds_nil_iff h]
      rw [hmem, hafter, and_comm]
      refine and_congr_right fun hnone => ?_
      simp [hnone, List.count_eq_zero]
    · intro t
      have hmem : t ∈ m.removedThreads s taskIds ↔
          t ∈ m.getTaskIds s ∧ (m.replace s taskIds).getSessionIds t = [] := by
        simp [SessionTaskMap.removedThreads, SessionTaskMap.getTaskIds, he, getSessionIds_nil_iff h']
      rw [hmem, ← mem_getSessionIds h]
      refine and_congr_left fun hnone => ⟨List.ne_nil_of_mem, fun hne => ?_⟩
      -- whatever session the task had is gone, so it was this one
      obtain ⟨s', hs'⟩ := List.exists_mem_of_ne_nil _ hne
      rw [hafter, List.append_eq_nil_iff, List.filter_eq_nil_iff] at hnone
      have hsame : s' = s := by simpa using hnone.1 s' hs'
      rwa [← hsame]

end Lemmas

/-- CORRECT: after every sequence of operations, a removal takes out one session and nothing else, and
    a replacement reports exactly the tasks that gain their first session or lose their last one. -/
theorem remove_replace_exact (heap : Ptr → SessionValueEntry) (ops : List Op) (s : SessionId) :
    let m := run SessionTaskMap.step (.empty heap) ops
    Removed m (m.remove s) s ∧ ∀ taskIds : List Pid,
      Reported m (m.replace s taskIds) (m.addedThreads s taskIds) (m.removedThreads s taskIds) := by
  intro m
  have h : Inv m := inv_of_ops heap ops
  exact ⟨removed_of_remove h s, reported_of_replace h s⟩

end ImxHal.Power
