import ImxHal.Schemes.Run
import ImxHal.Schemes.Links

/-! @src power/SessionTaskMap.cpp, power/UClampVoter.cpp, power/SessionValueEntry.h |
    name:SessionTaskMap | scheme:run, links |
    family:two-sided index

    The map links hint sessions to threads, many to many, and keeps the links twice:

        mSessions[s] ──▶ (val, linkedTasks = [t₁, t₂, …])
                          ▲
        mTasks[t]    ──▶ [val, …]      one reference for each link, by the identity of the entry

    `add` and `remove` edit both sides with a loop over the threads, `replace` is a remove and an add
    that makes a NEW entry with the old value, and a dead thread is unlinked at one position of the
    thread list. -/

namespace ImxHal.Power
open ImxHal.Run ImxHal.Links

abbrev Pid := ℤ
abbrev SessionId := ℤ
/-- A `steady_clock` time or a duration, in nanoseconds. -/
abbrev Time := ℤ
/-- A `SessionValueEntry` object, by identity. -/
abbrev Ptr := ℕ

/-! ### Votes -/

inductive AdpfVoteType where
  | CPU_VOTE_DEFAULT | CPU_LOAD_UP | CPU_LOAD_RESET | CPU_LOAD_RESUME | VOTE_POWER_EFFICIENCY
  | VOTE_TYPE_SIZE
  deriving DecidableEq

def AdpfVoteType.all : List AdpfVoteType :=
  [.CPU_VOTE_DEFAULT, .CPU_LOAD_UP, .CPU_LOAD_RESET, .CPU_LOAD_RESUME, .VOTE_POWER_EFFICIENCY,
    .VOTE_TYPE_SIZE]

def kUclampMin : ℤ := 0
def kUclampMax : ℤ := 1024

structure UclampRange where
  uclampMin : ℤ := kUclampMin
  uclampMax : ℤ := kUclampMax
  deriving DecidableEq

structure CpuVote where
  mActive : Bool
  mStartTime : Time
  mDurationNs : Time
  mUclampRange : UclampRange
  deriving DecidableEq

def CpuVote.isTimeInRange (v : CpuVote) (t : Time) : Bool :=
  v.mActive && decide (v.mStartTime ≤ t ∧ v.mStartTime + v.mDurationNs ≥ t)

/-- `Votes::mCpuVotes`. -/
abbrev Votes := AdpfVoteType → Option CpuVote

def Votes.add (votes : Votes) (id : AdpfVoteType) (vote : CpuVote) : Votes :=
  Function.update votes id (some vote)

def Votes.updateDuration (votes : Votes) (id : AdpfVoteType) (durationNs : Time) : Votes :=
  match votes id with
  | none => votes
  | some vote => Function.update votes id (some { vote with mDurationNs := durationNs })

def Votes.setUseVote (votes : Votes) (id : AdpfVoteType) (active : Bool) : Votes :=
  match votes id with
  | none => votes
  | some vote => Function.update votes id (some { vote with mActive := active })

def Votes.voteIsActive (votes : Votes) (id : AdpfVoteType) : Bool :=
  match votes id with
  | none => false
  | some vote => vote.mActive

/-- `voteTimeout`; of a vote that is not there, the epoch. -/
def Votes.voteTimeout (votes : Votes) (id : AdpfVoteType) : Time :=
  match votes id with
  | none => 0
  | some vote => vote.mStartTime + vote.mDurationNs

def Votes.allTimedOut (votes : Votes) (t : Time) : Bool :=
  AdpfVoteType.all.all fun id => match votes id with
    | none => true
    | some vote => !vote.isTimeInRange t

def confine (range : UclampRange) (vote : CpuVote) (t : Time) : UclampRange :=
  if vote.isTimeInRange t then
    ⟨max range.uclampMin vote.mUclampRange.uclampMin, min range.uclampMax vote.mUclampRange.uclampMax⟩
  else range

/-- `getUclampRange`; only the greatest min and the least max count, so the order of the votes does
    not. -/
def Votes.getUclampRange (votes : Votes) (range : UclampRange) (t : Time) : UclampRange :=
  AdpfVoteType.all.foldl (fun range id => match votes id with
    | none => range
    | some vote => confine range vote t) range

theorem voteIsActive_iff {votes : Votes} {v : AdpfVoteType} :
    votes.voteIsActive v ↔ ∃ vote, votes v = some vote ∧ vote.mActive := by
  unfold Votes.voteIsActive
  cases votes v with
  | none => simp
  | some vote => simp

theorem voteTimeout_of {votes : Votes} {v : AdpfVoteType} {vote : CpuVote} (h : votes v = some vote) :
    votes.voteTimeout v = vote.mStartTime + vote.mDurationNs := by
  simp only [Votes.voteTimeout, h]

theorem voteIsActive_congr {votes votes' : Votes} {v : AdpfVoteType} (h : votes' v = votes v) :
    votes'.voteIsActive v = votes.voteIsActive v := by
  simp only [Votes.voteIsActive, h]

theorem voteTimeout_congr {votes votes' : Votes} {v : AdpfVoteType} (h : votes' v = votes v) :
    votes'.voteTimeout v = votes.voteTimeout v := by
  simp only [Votes.voteTimeout, h]

/-- Turning a vote off makes no other vote active and moves no timeout. -/
theorem setUseVote_active {votes : Votes} {w v : AdpfVoteType}
    (h : (votes.setUseVote w false).voteIsActive v) :
    v ≠ w ∧ votes.voteIsActive v ∧
      (votes.setUseVote w false).voteTimeout v = votes.voteTimeout v := by
  unfold Votes.setUseVote at h ⊢
  cases hw : votes w with
  | none =>
    simp only [hw, and_true] at h ⊢
    refine ⟨?_, h⟩
    rintro rfl
    simp [Votes.voteIsActive, hw] at h
  | some vote =>
    simp only [hw] at h ⊢
    by_cases hv : v = w
    · subst hv
      simp [Votes.voteIsActive] at h
    · exact ⟨hv, by simpa [Votes.voteIsActive, hv] using h, by simp [Votes.voteTimeout, hv]⟩

theorem disable_active {votes : Votes} {v : AdpfVoteType} (ws : List AdpfVoteType)
    (h : (ws.foldl (fun votes w => votes.setUseVote w false) votes).voteIsActive v) :
    votes.voteIsActive v ∧
      (ws.foldl (fun votes w => votes.setUseVote w false) votes).voteTimeout v =
        votes.voteTimeout v := by
  induction ws generalizing votes with
  | nil => exact ⟨h, rfl⟩
  | cons w ws ih =>
    obtain ⟨hact, htime⟩ := ih h
    obtain ⟨-, hact', htime'⟩ := setUseVote_active hact
    exact ⟨hact', htime.trans htime'⟩

theorem voteIsActive_setUseVote (votes : Votes) (w : AdpfVoteType) :
    (votes.setUseVote w false).voteIsActive w = false := by
  unfold Votes.setUseVote
  cases hw : votes w with
  | none => simp [Votes.voteIsActive, hw]
  | some vote => simp [Votes.voteIsActive]

/-- A vote that is not active is not changed by turning it off. -/
theorem setUseVote_self {votes : Votes} {w : AdpfVoteType} (h : votes.voteIsActive w = false) :
    votes.setUseVote w false = votes := by
  unfold Votes.setUseVote
  cases hw : votes w with
  | none => rfl
  | some vote =>
    have hoff : vote.mActive = false := by simpa [Votes.voteIsActive, hw] using h
    have hsame : { vote with mActive := false } = vote := by rw [← hoff]
    simp only [hsame]
    rw [← hw, Function.update_eq_self]

theorem disable_inactive (votes : Votes) {v : AdpfVoteType} {ws : List AdpfVoteType} (hv : v ∈ ws) :
    (ws.foldl (fun votes w => votes.setUseVote w false) votes).voteIsActive v = false := by
  induction ws generalizing votes with
  | nil => cases hv
  | cons w ws ih =>
    rcases List.mem_cons.mp hv with rfl | hv
    · by_contra hact
      have hstill := (disable_active ws (Bool.eq_true_of_not_eq_false hact)).1
      rw [voteIsActive_setUseVote] at hstill
      cases hstill
    · exact ih _ hv

theorem disable_self {votes : Votes} (ws : List AdpfVoteType)
    (h : ∀ w ∈ ws, votes.voteIsActive w = false) :
    ws.foldl (fun votes w => votes.setUseVote w false) votes = votes := by
  induction ws with
  | nil => rfl
  | cons w ws ih =>
    rw [List.foldl_cons, setUseVote_self (h w List.mem_cons_self)]
    exact ih fun w' hw' => h w' (List.mem_cons_of_mem w hw')

/-! ### The map -/

/-- The fields of `SessionValueEntry` the manager works on. -/
structure SessionValueEntry where
  sessionId : SessionId
  isActive : Bool
  isAppSession : Bool
  lastUpdatedTime : Time
  votes : Votes
  isPowerEfficient : Bool

structure ValEntry where
  val : Ptr
  linkedTasks : List Pid

structure SessionTaskMap where
  mSessions : SessionId → Option ValEntry
  mTasks : Index Pid Ptr
  /-- The entry objects, and the next one to be allocated. -/
  heap : Ptr → SessionValueEntry
  next : Ptr

def SessionTaskMap.add (m : SessionTaskMap) (sessionId : SessionId) (sv : SessionValueEntry)
    (taskIds : List Pid) : SessionTaskMap :=
  match m.mSessions sessionId with
  | some _ => m
  | none => {
      mSessions := Function.update m.mSessions sessionId (some ⟨m.next, taskIds⟩)
      mTasks := taskIds.foldl (fun tasks taskId => link tasks taskId m.next) m.mTasks
      heap := Function.update m.heap m.next { sv with sessionId := sessionId }
      next := m.next + 1 }

def SessionTaskMap.remove (m : SessionTaskMap) (sessionId : SessionId) : SessionTaskMap :=
  match m.mSessions sessionId with
  | none => m
  | some entry => { m with
      mSessions := Function.update m.mSessions sessionId none
      mTasks := entry.linkedTasks.foldl (fun tasks taskId => unlink tasks taskId entry.val) m.mTasks }

/-- `replace`; what it tells about added and removed threads is computed below. -/
def SessionTaskMap.replace (m : SessionTaskMap) (sessionId : SessionId) (taskIds : List Pid) :
    SessionTaskMap :=
  match m.mSessions sessionId with
  | none => m
  | some entry => (m.remove sessionId).add sessionId (m.heap entry.val) taskIds

/-- `*addedThreads`: the threads no session had before. -/
def SessionTaskMap.addedThreads (m : SessionTaskMap) (sessionId : SessionId) (taskIds : List Pid) :
    List Pid :=
  match m.mSessions sessionId with
  | none => []
  | some _ => taskIds.filter fun tid => (m.mTasks tid).isNone

/-- `*removedThreads`: the threads no session has any more. -/
def SessionTaskMap.removedThreads (m : SessionTaskMap) (sessionId : SessionId)
    (taskIds : List Pid) : List Pid :=
  match m.mSessions sessionId with
  | none => []
  | some entry =>
    entry.linkedTasks.filter fun tid => ((m.replace sessionId taskIds).mTasks tid).isNone

def SessionTaskMap.removeDeadTaskSessionMap (m : SessionTaskMap) (sessionId : SessionId)
    (taskId : Pid) : SessionTaskMap :=
  match m.mSessions sessionId with
  | none => m
  | some entry => { m with mTasks := unlink m.mTasks taskId entry.val }

def SessionTaskMap.getTaskIds (m : SessionTaskMap) (sessionId : SessionId) : List Pid :=
  match m.mSessions sessionId with
  | none => []
  | some entry => entry.linkedTasks

/-- The removal of a dead thread in `applyUclampLocked`: from the task side, then from its position
    in the thread list. -/
def SessionTaskMap.prune (m : SessionTaskMap) (sessionId : SessionId) (pos : ℕ) : SessionTaskMap :=
  match m.mSessions sessionId with
  | none => m
  | some entry =>
    match entry.linkedTasks[pos]? with
    | none => m
    | some taskId => { m.removeDeadTaskSessionMap sessionId taskId with
        mSessions := Function.update m.mSessions sessionId
          (some { entry with linkedTasks := entry.linkedTasks.eraseIdx pos }) }

/-- Change the value of a session through its entry pointer (`findSession`). -/
def SessionTaskMap.modify (m : SessionTaskMap) (sessionId : SessionId)
    (f : SessionValueEntry → SessionValueEntry) : SessionTaskMap :=
  match m.mSessions sessionId with
  | none => m
  | some entry => { m with heap := Function.update m.heap entry.val (f (m.heap entry.val)) }

def SessionTaskMap.findSession (m : SessionTaskMap) (sessionId : SessionId) :
    Option SessionValueEntry :=
  (m.mSessions sessionId).map fun entry => m.heap entry.val

def SessionTaskMap.addVote (m : SessionTaskMap) (sessionId : SessionId) (voteId : AdpfVoteType)
    (uclampMin uclampMax : ℤ) (startTime durationNs : Time) : SessionTaskMap :=
  m.modify sessionId fun sv => { sv with
    votes := sv.votes.add voteId ⟨true, startTime, durationNs, ⟨uclampMin, uclampMax⟩⟩ }

/-- The optional values of the ADPF profile that bound the range of power-efficient sessions. -/
structure Efficiency where
  mUclampMaxEfficientBase : Option ℤ
  mUclampMaxEfficientOffset : Option ℤ

/-- What one session of a task makes of its range. -/
def SessionValueEntry.confine (sv : SessionValueEntry) (eff : Efficiency) (timeNow : Time)
    (range : UclampRange) : UclampRange :=
  if sv.isActive then
    let range := sv.votes.getUclampRange range timeNow
    match sv.isPowerEfficient, eff.mUclampMaxEfficientBase with
    | true, some base =>
      let bound := if sv.votes.allTimedOut timeNow then base
        else range.uclampMin + eff.mUclampMaxEfficientOffset.getD 0
      { range with uclampMax := min range.uclampMax bound }
    | _, _ => range
  else range

def SessionTaskMap.getTaskVoteRange (m : SessionTaskMap) (eff : Efficiency) (taskId : Pid)
    (timeNow : Time) : UclampRange :=
  (refs m.mTasks taskId).foldl (fun range ptr => (m.heap ptr).confine eff timeNow range) {}

inductive Op where
  | add (sessionId : SessionId) (sv : SessionValueEntry) (taskIds : List Pid)
  | remove (sessionId : SessionId)
  | replace (sessionId : SessionId) (taskIds : List Pid)
  | prune (sessionId : SessionId) (pos : ℕ)

def SessionTaskMap.step (m : SessionTaskMap) : Op → SessionTaskMap
  | .add sessionId sv taskIds => m.add sessionId sv taskIds
  | .remove sessionId => m.remove sessionId
  | .replace sessionId taskIds => m.replace sessionId taskIds
  | .prune sessionId pos => m.prune sessionId pos

def SessionTaskMap.empty (heap : Ptr → SessionValueEntry) : SessionTaskMap :=
  ⟨fun _ => none, fun _ => none, heap, 0⟩

/-! ### Consistency -/

/-- Both sides hold the same links: an entry is referenced from a task as often as the task is linked
    to its session, every reference is to the current entry of a session, and no task is mapped to
    an empty list. -/
structure Consistent (m : SessionTaskMap) : Prop where
  counted : ∀ s entry, m.mSessions s = some entry →
    ∀ t, (refs m.mTasks t).count entry.val = entry.linkedTasks.count t
  current : ∀ t, ∀ ptr ∈ refs m.mTasks t, ∃ s entry, m.mSessions s = some entry ∧ entry.val = ptr
  tight : Tight m.mTasks

/-- With it, what makes references by identity work: each session has an entry object of its own,
    allocated before, that knows its session. -/
structure Inv (m : SessionTaskMap) : Prop extends Consistent m where
  distinct : ∀ s s' entry entry', m.mSessions s = some entry → m.mSessions s' = some entry' →
    entry.val = entry'.val → s = s'
  fresh : ∀ s entry, m.mSessions s = some entry → entry.val < m.next
  named : ∀ s entry, m.mSessions s = some entry → (m.heap entry.val).sessionId = s

theorem inv_empty (heap : Ptr → SessionValueEntry) : Inv (.empty heap) where
  counted := by intro s entry h; cases h
  current := by intro t ptr h; cases h
  tight := by intro t h; cases h
  distinct := by intro s s' entry entry' h; cases h
  fresh := by intro s entry h; cases h
  named := by intro s entry h; cases h

/-- No task refers to an object that is still to be allocated. -/
theorem count_next {m : SessionTaskMap} (h : Inv m) (t : Pid) : (refs m.mTasks t).count m.next = 0 := by
  rw [List.count_eq_zero]
  intro hmem
  obtain ⟨s, entry, hs, hval⟩ := h.current t _ hmem
  exact absurd hval (h.fresh s entry hs).ne

theorem inv_add {m : SessionTaskMap} (h : Inv m) (sessionId : SessionId) (sv : SessionValueEntry)
    (taskIds : List Pid) : Inv (m.add sessionId sv taskIds) := by
  unfold SessionTaskMap.add
  cases hs : m.mSessions sessionId with
  | some _ => exact h
  | none =>
    -- a session is the new one, or an old one with another entry
    have hcases : ∀ s entry, Function.update m.mSessions sessionId (some ⟨m.next, taskIds⟩) s =
        some entry → (s = sessionId ∧ entry = ⟨m.next, taskIds⟩) ∨
          (s ≠ sessionId ∧ m.mSessions s = some entry ∧ entry.val ≠ m.next) := by
      intro s entry hentry
      rcases update_some_cases hentry with ⟨rfl, hnew⟩ | ⟨hne, hold⟩
      · exact Or.inl ⟨rfl, (Option.some.inj hnew).symm⟩
      · exact Or.inr ⟨hne, hold, (h.fresh s entry hold).ne⟩
    refine ⟨⟨?_, ?_, ?_⟩, ?_, ?_, ?_⟩
    · intro s entry hentry t
      rw [count_link_all]
      rcases hcases s entry hentry with ⟨-, rfl⟩ | ⟨-, hold, hne⟩
      · rw [count_next h, if_pos rfl, Nat.zero_add]
      · rw [if_neg hne, Nat.add_zero]
        exact h.counted s entry hold t
    · intro t ptr hmem
      by_cases hnew : ptr = m.next
      · exact ⟨sessionId, ⟨m.next, taskIds⟩, Function.update_self _ _ _, hnew.symm⟩
      · have hpos := List.count_pos_iff.mpr hmem
        rw [count_link_all, if_neg hnew, Nat.add_zero] at hpos
        obtain ⟨s, entry, hold, hval⟩ := h.current t ptr (List.count_pos_iff.mp hpos)
        have hne : s ≠ sessionId := by rintro rfl; rw [hs] at hold; cases hold
        exact ⟨s, entry, (Function.update_of_ne hne _ _).trans hold, hval⟩
    · exact tight_link_all h.tight taskIds m.next
    · intro s s' entry entry' hentry hentry' hval
      rcases hcases s entry hentry with ⟨rfl, rfl⟩ | ⟨-, hold, hne⟩
      · rcases hcases s' entry' hentry' with ⟨rfl, rfl⟩ | ⟨-, hold', hne'⟩
        · rfl
        · exact absurd hval.symm hne'
      · rcases hcases s' entry' hentry' with ⟨rfl, rfl⟩ | ⟨-, hold', hne'⟩
        · exact absurd hval hne
        · exact h.distinct s s' entry entry' hold hold' hval
    · intro s entry hentry
      rcases hcases s entry hentry with ⟨-, rfl⟩ | ⟨-, hold, -⟩
      · exact Nat.lt_succ_self _
      · exact (h.fresh s entry hold).trans (Nat.lt_succ_self _)
    · intro s entry hentry
      rcases hcases s entry hentry with ⟨rfl, rfl⟩ | ⟨-, hold, hne⟩
      · simp
      · simpa [hne] using h.named s entry hold

/-- Take `gone` links of an entry away from both sides, by any change of the task side that does no
    more: the session keeps `kept` of its links, or goes if none of it is left. -/
theorem inv_unlinked {m : SessionTaskMap} (h : Inv m) {sessionId : SessionId} {entry : ValEntry}
    (hs : m.mSessions sessionId = some entry) {tasks : Index Pid Ptr} (gone : List Pid)
    (hcount : ∀ t ptr, (refs tasks t).count ptr =
      (refs m.mTasks t).count ptr - if ptr = entry.val then gone.count t else 0)
    (htight : Tight tasks) (after : Option ValEntry)
    (hafter : ∀ e, after = some e → e.val = entry.val ∧
      ∀ t, e.linkedTasks.count t = entry.linkedTasks.count t - gone.count t)
    (hnone : after = none → ∀ t, entry.linkedTasks.count t ≤ gone.count t) :
    Inv { m with mSessions := Function.update m.mSessions sessionId after, mTasks := tasks } := by
  have hcases : ∀ s e, Function.update m.mSessions sessionId after s = some e →
      (s = sessionId ∧ after = some e) ∨ (s ≠ sessionId ∧ m.mSessions s = some e ∧
        e.val ≠ entry.val) := by
    intro s e he
    rcases update_some_cases he with ⟨rfl, hnew⟩ | ⟨hne, hold⟩
    · exact Or.inl ⟨rfl, hnew⟩
    · exact Or.inr ⟨hne, hold, fun hval => hne (h.distinct s sessionId e entry hold hs hval)⟩
  refine ⟨⟨?_, ?_, htight⟩, ?_, ?_, ?_⟩
  · intro s e he t
    rw [hcount]
    rcases hcases s e he with ⟨-, hsome⟩ | ⟨-, hold, hne⟩
    · obtain ⟨hval, hlinks⟩ := hafter e hsome
      rw [if_pos hval, hval, h.counted sessionId entry hs t, hlinks]
    · rw [if_neg hne, Nat.sub_zero]
      exact h.counted s e hold t
  · intro t ptr hmem
    have hpos := List.count_pos_iff.mpr hmem
    rw [hcount] at hpos
    obtain ⟨s, e, hold, hval⟩ := h.current t ptr (List.count_pos_iff.mp (by omega))
    by_cases hsame : s = sessionId
    · subst hsame
      rw [hs] at hold
      cases hold
      rw [if_pos hval.symm, ← hval, h.counted s entry hs t] at hpos
      cases hopt : after with
      | none => exact absurd (hnone hopt t) (by omega)
      | some e' =>
        exact ⟨s, e', (Function.update_self _ _ _).trans rfl, (hafter e' hopt).1.trans hval⟩
    · exact ⟨s, e, (Function.update_of_ne hsame _ _).trans hold, hval⟩
  · intro s s' e e' he he' hval
    rcases hcases s e he with ⟨rfl, hsome⟩ | ⟨-, hold, hne⟩
    · rcases hcases s' e' he' with ⟨rfl, -⟩ | ⟨-, -, hne'⟩
      · rfl
      · exact absurd (hval.symm.trans (hafter e hsome).1) hne'
    · rcases hcases s' e' he' with ⟨rfl, hsome'⟩ | ⟨-, hold', -⟩
      · exact absurd (hval.trans (hafter e' hsome').1) hne
      · exact h.distinct s s' e e' hold hold' hval
  · intro s e he
    rcases hcases s e he with ⟨-, hsome⟩ | ⟨-, hold, -⟩
    · rw [(hafter e hsome).1]
      exact h.fresh sessionId entry hs
    · exact h.fresh s e hold
  · intro s e he
    rcases hcases s e he with ⟨rfl, hsome⟩ | ⟨-, hold, -⟩
    · rw [(hafter e hsome).1]
      exact h.named s entry hs
    · exact h.named s e hold

theorem inv_remove {m : SessionTaskMap} (h : Inv m) (sessionId : SessionId) :
    Inv (m.remove sessionId) := by
  unfold SessionTaskMap.remove
  cases hs : m.mSessions sessionId with
  | none => exact h
  | some entry =>
    refine inv_unlinked h hs entry.linkedTasks ?_ ?_ none ?_ ?_
    · intro t ptr
      exact count_unlink_all entry.linkedTasks m.mTasks t entry.val ptr
    · exact tight_unlink_all h.tight entry.linkedTasks entry.val
    · intro e he
      cases he
    · intro _ t
      exact le_refl _

theorem inv_replace {m : SessionTaskMap} (h : Inv m) (sessionId : SessionId)
    (taskIds : List Pid) : Inv (m.replace sessionId taskIds) := by
  unfold SessionTaskMap.replace
  cases m.mSessions sessionId with
  | none => exact h
  | some entry => exact inv_add (inv_remove h sessionId) sessionId _ taskIds

/-- A pruning in one step: both sides lose the link at that position. -/
theorem prune_eq {m : SessionTaskMap} {sessionId : SessionId} {pos : ℕ} {entry : ValEntry}
    {taskId : Pid} (hs : m.mSessions sessionId = some entry)
    (hpos : entry.linkedTasks[pos]? = some taskId) :
    m.prune sessionId pos = { m with
      mSessions := Function.update m.mSessions sessionId
        (some { entry with linkedTasks := entry.linkedTasks.eraseIdx pos })
      mTasks := unlink m.mTasks taskId entry.val } := by
  simp only [SessionTaskMap.prune, SessionTaskMap.removeDeadTaskSessionMap, hs, hpos]

theorem inv_prune {m : SessionTaskMap} (h : Inv m) (sessionId : SessionId) (pos : ℕ) :
    Inv (m.prune sessionId pos) := by
  cases hs : m.mSessions sessionId with
  | none => simpa only [SessionTaskMap.prune, hs] using h
  | some entry =>
    cases hpos : entry.linkedTasks[pos]? with
    | none => simpa only [SessionTaskMap.prune, hs, hpos] using h
    | some taskId =>
      rw [prune_eq hs hpos]
      refine inv_unlinked h hs [taskId] ?_ (tight_unlink h.tight taskId entry.val) _ ?_ ?_
      · intro t ptr
        exact count_unlink_all [taskId] m.mTasks t entry.val ptr
      · intro e he
        cases he
        exact ⟨rfl, count_eraseIdx hpos⟩
      · intro hno
        cases hno

/-- A change of a value keeps the links. -/
theorem inv_modify {m : SessionTaskMap} (h : Inv m) (sessionId : SessionId)
    {f : SessionValueEntry → SessionValueEntry} (hf : ∀ sv, (f sv).sessionId = sv.sessionId) :
    Inv (m.modify sessionId f) := by
  unfold SessionTaskMap.modify
  cases hs : m.mSessions sessionId with
  | none => exact h
  | some entry =>
    refine ⟨⟨h.counted, h.current, h.tight⟩, h.distinct, h.fresh, ?_⟩
    intro s e he
    by_cases hval : e.val = entry.val
    · simp only [hval, Function.update_self, hf]
      rw [← hval]
      exact h.named s e he
    · simp only [Function.update_of_ne hval]
      exact h.named s e he

theorem inv_step (m : SessionTaskMap) (op : Op) (h : Inv m) : Inv (m.step op) := by
  cases op with
  | add sessionId sv taskIds => exact inv_add h sessionId sv taskIds
  | remove sessionId => exact inv_remove h sessionId
  | replace sessionId taskIds => exact inv_replace h sessionId taskIds
  | prune sessionId pos => exact inv_prune h sessionId pos

theorem inv_of_ops (heap : Ptr → SessionValueEntry) (ops : List Op) :
    Inv (run SessionTaskMap.step (.empty heap) ops) :=
  run_inv Inv (C := fun _ => True) (fun m op h _ => inv_step m op h) ops _ (inv_empty heap)
    fun _ _ => trivial

/-- CORRECT: after every sequence of operations the two sides of the map hold the same links. -/
theorem session_task_consistent (heap : Ptr → SessionValueEntry) (ops : List Op) :
    Consistent (run SessionTaskMap.step (.empty heap) ops) :=
  (inv_of_ops heap ops).toConsistent

/-! ### The sessions behind the map

    Seen from outside a session is its value and its threads; the entry objects and the task side do
    not show. Each operation changes one session of this view. -/

def SessionTaskMap.session (m : SessionTaskMap) (s : SessionId) :
    Option (SessionValueEntry × List Pid) :=
  (m.mSessions s).map fun entry => (m.heap entry.val, entry.linkedTasks)

theorem findSession_eq (m : SessionTaskMap) (s : SessionId) :
    m.findSession s = (m.session s).map Prod.fst := by
  simp only [SessionTaskMap.findSession, SessionTaskMap.session, Option.map_map]
  rfl

theorem getTaskIds_eq (m : SessionTaskMap) (s : SessionId) :
    m.getTaskIds s = ((m.session s).map Prod.snd).getD [] := by
  unfold SessionTaskMap.getTaskIds SessionTaskMap.session
  cases m.mSessions s <;> rfl

theorem session_sessionId {m : SessionTaskMap} (h : Inv m) {s : SessionId} {sv : SessionValueEntry}
    {tids : List Pid} (hs : m.session s = some (sv, tids)) : sv.sessionId = s := by
  unfold SessionTaskMap.session at hs
  cases he : m.mSessions s with
  | none => rw [he] at hs; cases hs
  | some entry =>
    rw [he] at hs
    cases hs
    exact h.named s entry he

/-- A map that stays as it is, read as a change of one session that changes nothing. -/
theorem session_same (m : SessionTaskMap) {s : SessionId}
    {f : SessionValueEntry × List Pid → SessionValueEntry × List Pid}
    (hf : ∀ value, m.session s = some value → f value = value) (s' : SessionId) :
    m.session s' = if s' = s then (m.session s).map f else m.session s' := by
  by_cases hsame : s' = s
  · subst hsame
    rw [if_pos rfl]
    cases hs : m.session s' with
    | none => rfl
    | some value => rw [Option.map_some, hf value hs]
  · rw [if_neg hsame]

/-- What matters of a change is what it does to the value the session has. -/
theorem session_congr {m m' : SessionTaskMap} {s : SessionId}
    {f g : SessionValueEntry × List Pid → SessionValueEntry × List Pid}
    (h : ∀ s', m'.session s' = if s' = s then (m.session s).map f else m.session s')
    (hfg : ∀ value, m.session s = some value → f value = g value) (s' : SessionId) :
    m'.session s' = if s' = s then (m.session s).map g else m.session s' := by
  rw [h, Option.map_congr hfg]

/-- Two changes of one session, one after the other. -/
theorem session_trans {m m' m'' : SessionTaskMap} {s : SessionId}
    {f g : SessionValueEntry × List Pid → SessionValueEntry × List Pid}
    (h : ∀ s', m'.session s' = if s' = s then (m.session s).map f else m.session s')
    (h' : ∀ s', m''.session s' = if s' = s then (m'.session s).map g else m'.session s')
    (s' : SessionId) :
    m''.session s' = if s' = s then (m.session s).map (g ∘ f) else m.session s' := by
  rw [h', h, h]
  by_cases hsame : s' = s
  · rw [if_pos hsame, if_pos rfl, if_pos hsame, Option.map_map]
  · rw [if_neg hsame, if_neg hsame, if_neg hsame]

theorem session_modify {m : SessionTaskMap} (h : Inv m) (s s' : SessionId)
    (f : SessionValueEntry → SessionValueEntry) :
    (m.modify s f).session s' =
      if s' = s then (m.session s).map (Prod.map f id) else m.session s' := by
  unfold SessionTaskMap.modify SessionTaskMap.session
  cases hs : m.mSessions s with
  | none =>
    by_cases hsame : s' = s
    · subst hsame; simp [hs]
    · simp [hsame]
  | some entry =>
    by_cases hsame : s' = s
    · subst hsame; simp [hs]
    · rw [if_neg hsame]
      cases hs' : m.mSessions s' with
      | none => simp
      | some entry' =>
        have hne : entry'.val ≠ entry.val := fun hval => hsame (h.distinct s' s _ _ hs' hs hval)
        simp [hne]

theorem session_add {m : SessionTaskMap} (h : Inv m) {s : SessionId} (hs : m.mSessions s = none)
    (sv : SessionValueEntry) (tids : List Pid) (s' : SessionId) :
    (m.add s sv tids).session s' =
      if s' = s then some ({ sv with sessionId := s }, tids) else m.session s' := by
  unfold SessionTaskMap.session
  simp only [SessionTaskMap.add, hs]
  by_cases hsame : s' = s
  · subst hsame; simp
  · rw [if_neg hsame]
    cases hs' : m.mSessions s' with
    | none => simp [hsame, hs']
    | some entry' =>
      have hne : entry'.val ≠ m.next := (h.fresh s' entry' hs').ne
      simp [hsame, hs', hne]

theorem session_remove (m : SessionTaskMap) (s s' : SessionId) :
    (m.remove s).session s' = if s' = s then none else m.session s' := by
  unfold SessionTaskMap.remove SessionTaskMap.session
  cases hs : m.mSessions s with
  | none =>
    by_cases hsame : s' = s
    · subst hsame; simp [hs]
    · simp [hsame]
  | some entry =>
    by_cases hsame : s' = s
    · subst hsame; simp
    · simp [hsame]

theorem session_replace {m : SessionTaskMap} (h : Inv m) (s s' : SessionId) (tids : List Pid) :
    (m.replace s tids).session s' =
      if s' = s then (m.session s).map (Prod.map id fun _ => tids) else m.session s' := by
  unfold SessionTaskMap.replace
  cases hs : m.mSessions s with
  | none =>
    by_cases hsame : s' = s
    · subst hsame; simp [SessionTaskMap.session, hs]
    · simp [hsame]
  | some entry =>
    have hgone : (m.remove s).mSessions s = none := by simp [SessionTaskMap.remove, hs]
    rw [session_add (inv_remove h s) hgone, session_remove]
    by_cases hsame : s' = s
    · subst hsame
      have hid : { m.heap entry.val with sessionId := s' } = m.heap entry.val := by
        rw [← h.named s' entry hs]
      simp [SessionTaskMap.session, hs, hid]
    · simp [hsame]

theorem session_prune (m : SessionTaskMap) (s s' : SessionId) (pos : ℕ) :
    (m.prune s pos).session s' =
      if s' = s then (m.session s).map (Prod.map id fun tids => tids.eraseIdx pos)
      else m.session s' := by
  cases hs : m.mSessions s with
  | none =>
    by_cases hsame : s' = s
    · subst hsame; simp [SessionTaskMap.prune, SessionTaskMap.session, hs]
    · simp [SessionTaskMap.prune, hs, hsame]
  | some entry =>
    cases hpos : entry.linkedTasks[pos]? with
    | none =>
      have hlen : entry.linkedTasks.length ≤ pos := List.getElem?_eq_none_iff.mp hpos
      by_cases hsame : s' = s
      · subst hsame
        simp [SessionTaskMap.prune, SessionTaskMap.session, hs, hpos, List.eraseIdx_of_length_le hlen]
      · simp [SessionTaskMap.prune, hs, hpos, hsame]
    | some tid =>
      rw [prune_eq hs hpos]
      by_cases hsame : s' = s
      · subst hsame; simp [SessionTaskMap.session, hs]
      · simp [SessionTaskMap.session, hsame]

end ImxHal.Power
