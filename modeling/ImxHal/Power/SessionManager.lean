import ImxHal.Power.SessionTaskMap

/-! @src power/PowerSessionManager.cpp | name:PowerSessionManager | scheme:run |
    family:session management

    The manager owns the session map, the timeout events it has handed to its worker, and what it has
    last told the kernel about each thread:

        voteSet ─────────▶ votes of the session ──applyUclampLocked──▶ set_uclamp(thread, range)
           └──schedule──▶ timeouts ──handleEvent──▶ deactivate the vote, or schedule again

    Every call locks the map for each of its edits; a call is one action here. The mode hints of
    `updateUniversalBoostMode` read the map and change nothing of it. -/

namespace ImxHal.Power
open ImxHal.Run ImxHal.Links

structure AdpfProfile where
  mUclampMinOn : Bool
  efficiency : Efficiency

structure EventSessionTimeout where
  timeStamp : Time
  sessionId : SessionId
  voteId : AdpfVoteType
  deriving DecidableEq

/-- A package of the timeout worker: the event, and when it is due. -/
structure Timeout where
  event : EventSessionTimeout
  deadline : Time
  deriving DecidableEq

inductive ProcessTag where | DEFAULT | SYSTEM_UI
  deriving DecidableEq

structure Manager where
  map : SessionTaskMap
  timeouts : List Timeout
  /-- The range each thread was last given by `set_uclamp`; at first the kernel's default. -/
  lastUclamp : Pid → UclampRange
  /-- The `SetTaskProfiles` calls, newest first. -/
  taskProfiles : List (Pid × String)

/-- The fields of `AppHintDesc` that `addPowerSession` reads. -/
structure AppHintDesc where
  sessionId : SessionId
  uid : ℤ
  is_active : Bool
  targetNs : Time

def AID_APP_START : ℤ := 10000

/-- The bounds `set_uclamp` puts on a range. -/
def set_uclamp (range : UclampRange) : UclampRange :=
  let uclampMin := min (max kUclampMin range.uclampMin) kUclampMax
  ⟨uclampMin, min (max range.uclampMax uclampMin) kUclampMax⟩

/-- A live thread gets the range its sessions vote for. -/
def Manager.push (m : Manager) (profile : AdpfProfile) (timePoint : Time) (tid : Pid) : Manager :=
  let range := m.map.getTaskVoteRange profile.efficiency tid timePoint
  { m with lastUclamp := Function.update m.lastUclamp tid (set_uclamp range) }

/-- The loop of `applyUclampLocked` over the threads still to visit, the next one at position `pos`
    of the list: a dead thread is erased there, a live one gets its range. -/
def Manager.applyLoop (profile : AdpfProfile) (dead : Pid → Bool) (sessionId : SessionId)
    (timePoint : Time) : List Pid → ℕ → Manager → Manager
  | [], _, m => m
  | tid :: tids, pos, m =>
    if dead tid then
      applyLoop profile dead sessionId timePoint tids pos { m with map := m.map.prune sessionId pos }
    else
      applyLoop profile dead sessionId timePoint tids (pos + 1) (m.push profile timePoint tid)

/-- The loop runs if the profile has uclamp on. -/
def Manager.applyThreads (profile : AdpfProfile) (dead : Pid → Bool) (m : Manager)
    (sessionId : SessionId) (timePoint : Time) : Manager :=
  if profile.mUclampMinOn then
    m.applyLoop profile dead sessionId timePoint (m.map.getTaskIds sessionId) 0
  else m

def Manager.applyUclampLocked (profile : AdpfProfile) (dead : Pid → Bool) (m : Manager)
    (sessionId : SessionId) (timePoint : Time) : Manager :=
  let m := m.applyThreads profile dead sessionId timePoint
  { m with map := m.map.modify sessionId fun sv => { sv with lastUpdatedTime := timePoint } }

def Manager.forceSessionActive (m : Manager) (sessionId : SessionId) (isActive : Bool) : Manager :=
  { m with map := m.map.modify sessionId fun sv => { sv with isActive := isActive } }

/-- The calls of `SetTaskProfiles` for a list of threads. -/
def setProfiles (procTag : ProcessTag) (suffix : String) (tids : List Pid) : List (Pid × String) :=
  tids.map fun tid => (tid, (match procTag with
    | .SYSTEM_UI => "SCHED_QOS_SENSITIVE_EXTREME_"
    | .DEFAULT => "SCHED_QOS_SENSITIVE_STANDARD_") ++ suffix)

def Manager.setThreadsFromPowerSession (m : Manager) (sessionId : SessionId) (threadIds : List Pid)
    (procTag : ProcessTag) : Manager :=
  let m := m.forceSessionActive sessionId false
  let profiles := setProfiles procTag "CLEAR" (m.map.removedThreads sessionId threadIds) ++
    setProfiles procTag "SET" (m.map.addedThreads sessionId threadIds)
  let m := { m with
    map := m.map.replace sessionId threadIds
    taskProfiles := profiles ++ m.taskProfiles }
  m.forceSessionActive sessionId true

/-- The value `addPowerSession` adds: the default vote is there, and not active. -/
def AppHintDesc.value (desc : AppHintDesc) (timeNow : Time) : SessionValueEntry where
  sessionId := desc.sessionId
  isActive := desc.is_active
  isAppSession := decide (desc.uid ≥ AID_APP_START)
  lastUpdatedTime := timeNow
  votes := Votes.add (fun _ => none) .CPU_VOTE_DEFAULT
    ⟨false, timeNow, desc.targetNs, ⟨kUclampMin, kUclampMax⟩⟩
  isPowerEfficient := false

def Manager.addPowerSession (m : Manager) (desc : AppHintDesc) (threadIds : List Pid)
    (procTag : ProcessTag) (timeNow : Time) : Manager :=
  let m := { m with map := m.map.add desc.sessionId (desc.value timeNow) [] }
  m.setThreadsFromPowerSession desc.sessionId threadIds procTag

def Manager.removePowerSession (m : Manager) (sessionId : SessionId) (procTag : ProcessTag) :
    Manager :=
  let m := m.forceSessionActive sessionId false
  { m with
    map := (m.map.replace sessionId []).remove sessionId
    taskProfiles := setProfiles procTag "CLEAR" (m.map.removedThreads sessionId []) ++ m.taskProfiles }

def Manager.pause (m : Manager) (sessionId : SessionId) : Manager :=
  match m.map.findSession sessionId with
  | none => m
  | some session => if session.isActive then m.forceSessionActive sessionId false else m

def Manager.resume (m : Manager) (sessionId : SessionId) : Manager :=
  match m.map.findSession sessionId with
  | none => m
  | some session => if session.isActive then m else m.forceSessionActive sessionId true

def Manager.updateTargetWorkDuration (m : Manager) (sessionId : SessionId) (voteId : AdpfVoteType)
    (durationNs : Time) : Manager :=
  { m with map := m.map.modify sessionId fun sv =>
      { sv with votes := sv.votes.updateDuration voteId durationNs } }

def shouldScheduleTimeout (votes : Votes) (voteId : AdpfVoteType) (deadline : Time) : Bool :=
  !votes.voteIsActive voteId || decide (deadline < votes.voteTimeout voteId)

/-- The vote stored in the session, as `voteSet` does before it applies it. -/
def Manager.storeVote (m : Manager) (sessionId : SessionId) (voteId : AdpfVoteType)
    (uclampMin uclampMax : ℤ) (startTime durationNs : Time) : Manager :=
  let voted := m.map.addVote sessionId voteId uclampMin uclampMax startTime durationNs
  { m with map := voted.modify sessionId fun sv => { sv with lastUpdatedTime := startTime } }

def Manager.voteSet (profile : AdpfProfile) (dead : Pid → Bool) (m : Manager)
    (sessionId : SessionId) (voteId : AdpfVoteType) (uclampMin uclampMax : ℤ)
    (startTime durationNs : Time) : Manager :=
  match m.map.findSession sessionId with
  | none => m
  | some session =>
    let timeoutDeadline := startTime + durationNs
    let voted := m.storeVote sessionId voteId uclampMin uclampMax startTime durationNs
    let applied := voted.applyUclampLocked profile dead sessionId startTime
    if shouldScheduleTimeout session.votes voteId timeoutDeadline then
      { applied with timeouts :=
          applied.timeouts ++ [⟨⟨startTime, sessionId, voteId⟩, timeoutDeadline⟩] }
    else applied

/-- The votes `disableBoosts` turns off. -/
def boostVotes : List AdpfVoteType :=
  [.CPU_LOAD_UP, .CPU_LOAD_RESET, .CPU_LOAD_RESUME, .VOTE_POWER_EFFICIENCY]

def Manager.disableBoosts (m : Manager) (sessionId : SessionId) : Manager :=
  { m with map := m.map.modify sessionId fun sv =>
      { sv with votes := boostVotes.foldl (fun votes vid => votes.setUseVote vid false) sv.votes } }

def Manager.setPreferPowerEfficiency (profile : AdpfProfile) (dead : Pid → Bool) (m : Manager)
    (sessionId : SessionId) (enabled : Bool) (timeNow : Time) : Manager :=
  match m.map.findSession sessionId with
  | none => m
  | some session =>
    if enabled ≠ session.isPowerEfficient then
      Manager.applyUclampLocked profile dead { m with map := m.map.modify sessionId fun sv =>
        { sv with isPowerEfficient := enabled } } sessionId timeNow
    else m

def Manager.handleEvent (m : Manager) (event : EventSessionTimeout) (tNow : Time) : Manager :=
  match m.map.findSession event.sessionId with
  | none => m
  | some session =>
    if session.votes.voteIsActive event.voteId then
      if session.votes.voteTimeout event.voteId ≤ tNow then
        { m with map := m.map.modify event.sessionId fun sv =>
            { sv with votes := sv.votes.setUseVote event.voteId false } }
      else { m with timeouts :=
          m.timeouts ++ [⟨event, session.votes.voteTimeout event.voteId⟩] }
    else m

inductive Call where
  | addPowerSession (desc : AppHintDesc) (threadIds : List Pid) (procTag : ProcessTag)
  | removePowerSession (sessionId : SessionId) (procTag : ProcessTag)
  | setThreadsFromPowerSession (sessionId : SessionId) (threadIds : List Pid) (procTag : ProcessTag)
  | pause (sessionId : SessionId)
  | resume (sessionId : SessionId)
  | updateTargetWorkDuration (sessionId : SessionId) (voteId : AdpfVoteType) (durationNs : Time)
  | voteSet (sessionId : SessionId) (voteId : AdpfVoteType) (uclampMin uclampMax : ℤ)
      (startTime durationNs : Time)
  | disableBoosts (sessionId : SessionId)
  | setPreferPowerEfficiency (sessionId : SessionId) (enabled : Bool)
  | handleEvent (event : EventSessionTimeout)

/-- What a call finds outside: the clock, and the threads that are dead. -/
structure Env where
  now : Time
  dead : Pid → Bool

def Manager.call (profile : AdpfProfile) (env : Env) (m : Manager) : Call → Manager
  | .addPowerSession desc threadIds procTag => m.addPowerSession desc threadIds procTag env.now
  | .removePowerSession sessionId procTag => m.removePowerSession sessionId procTag
  | .setThreadsFromPowerSession sessionId threadIds procTag =>
    m.setThreadsFromPowerSession sessionId threadIds procTag
  | .pause sessionId => m.pause sessionId
  | .resume sessionId => m.resume sessionId
  | .updateTargetWorkDuration sessionId voteId durationNs =>
    m.updateTargetWorkDuration sessionId voteId durationNs
  | .voteSet sessionId voteId uclampMin uclampMax startTime durationNs =>
    m.voteSet profile env.dead sessionId voteId uclampMin uclampMax startTime durationNs
  | .disableBoosts sessionId => m.disableBoosts sessionId
  | .setPreferPowerEfficiency sessionId enabled =>
    m.setPreferPowerEfficiency profile env.dead sessionId enabled env.now
  | .handleEvent event => m.handleEvent event env.now

def Manager.envStep (profile : AdpfProfile) (m : Manager) (a : Env × Call) : Manager :=
  m.call profile a.1 a.2

def Manager.init (heap : Ptr → SessionValueEntry) : Manager :=
  ⟨.empty heap, [], fun _ => {}, []⟩

/-! ### What the calls do to the sessions -/

section Calls

variable {profile : AdpfProfile} {dead : Pid → Bool} {m : Manager} {s : SessionId} {t : Time}

/-- A call has turned the flag of the session to `b`, or has found it so. -/
def Turned (m m' : Manager) (s : SessionId) (b : Bool) : Prop :=
  (m' = m ∧ ∀ value, m.map.session s = some value → value.1.isActive = b) ∨
    (m' = m.forceSessionActive s b ∧ ∃ value, m.map.session s = some value ∧ value.1.isActive = !b)

/-- A call that looks at the flag and turns it if need be. -/
theorem turned_of_found {m' : Manager} {b : Bool} (hnone : m.map.session s = none → m' = m)
    (hsome : ∀ value, m.map.session s = some value →
      m' = if value.1.isActive = b then m else m.forceSessionActive s b) : Turned m m' s b := by
  cases hs : m.map.session s with
  | none => exact .inl ⟨hnone hs, fun value hv => by rw [hs] at hv; cases hv⟩
  | some value =>
    have hm' := hsome value hs
    by_cases hact : value.1.isActive = b
    · rw [if_pos hact] at hm'
      refine .inl ⟨hm', fun value' hv => ?_⟩
      rw [hs] at hv
      cases hv
      exact hact
    · rw [if_neg hact] at hm'
      exact .inr ⟨hm', value, hs, Bool.eq_not_of_ne hact⟩

/-- `pause` turns the flag off, or finds it off. -/
theorem pause_cases (m : Manager) (s : SessionId) : Turned m (m.pause s) s false := by
  unfold Manager.pause
  rw [findSession_eq]
  refine turned_of_found (fun hnone => by rw [hnone]; rfl) fun value hs => ?_
  rw [hs]
  cases hact : value.1.isActive <;> simp [hact]

/-- `resume` turns the flag on, or finds it on. -/
theorem resume_cases (m : Manager) (s : SessionId) : Turned m (m.resume s) s true := by
  unfold Manager.resume
  rw [findSession_eq]
  refine turned_of_found (fun hnone => by rw [hnone]; rfl) fun value hs => ?_
  rw [hs]
  cases hact : value.1.isActive <;> simp [hact]

/-- `voteSet` knows the session: it stores the vote, applies it, and schedules its timeout or not. -/
theorem voteSet_cases (profile : AdpfProfile) (dead : Pid → Bool) (m : Manager) (s : SessionId)
    (v : AdpfVoteType) (lo hi : ℤ) (t d : Time) :
    (m.map.session s = none ∧ m.voteSet profile dead s v lo hi t d = m) ∨
      ∃ value, m.map.session s = some value ∧ m.voteSet profile dead s v lo hi t d =
        let applied := (m.storeVote s v lo hi t d).applyUclampLocked profile dead s t
        { applied with timeouts := applied.timeouts ++
            if shouldScheduleTimeout value.1.votes v (t + d) then [⟨⟨t, s, v⟩, t + d⟩] else [] } := by
  unfold Manager.voteSet
  rw [findSession_eq]
  cases m.map.session s with
  | none => exact .inl ⟨rfl, rfl⟩
  | some value =>
    refine .inr ⟨value, rfl, ?_⟩
    simp only [Option.map_some]
    split
    · rfl
    · rw [List.append_nil]

theorem setPreferPowerEfficiency_cases (profile : AdpfProfile) (dead : Pid → Bool) (m : Manager)
    (s : SessionId) (b : Bool) (t : Time) :
    (m.setPreferPowerEfficiency profile dead s b t = m ∧
        ∀ value, m.map.session s = some value → b = value.1.isPowerEfficient) ∨
      (m.setPreferPowerEfficiency profile dead s b t = Manager.applyUclampLocked profile dead
          { m with map := m.map.modify s fun sv => { sv with isPowerEfficient := b } } s t ∧
        ∃ value, m.map.session s = some value ∧ b ≠ value.1.isPowerEfficient) := by
  unfold Manager.setPreferPowerEfficiency
  rw [findSession_eq]
  cases m.map.session s with
  | none => exact .inl ⟨rfl, fun value hv => by cases hv⟩
  | some value =>
    by_cases hb : b = value.1.isPowerEfficient
    · refine .inl ⟨if_neg (not_not.mpr hb), fun value' hv => ?_⟩
      cases hv
      exact hb
    · exact .inr ⟨if_pos hb, value, rfl, hb⟩

/-- An event turns its vote off, schedules itself for the vote's timeout, or finds nothing to do. -/
theorem handleEvent_cases (m : Manager) (e : EventSessionTimeout) (t : Time) :
    (m.handleEvent e t = m ∧ ∀ value, m.map.session e.sessionId = some value →
        value.1.votes.voteIsActive e.voteId = false) ∨
      ∃ value, m.map.session e.sessionId = some value ∧
        value.1.votes.voteIsActive e.voteId = true ∧
        (value.1.votes.voteTimeout e.voteId ≤ t ∧
            m.handleEvent e t = { m with map := m.map.modify e.sessionId fun sv =>
              { sv with votes := sv.votes.setUseVote e.voteId false } } ∨
          t < value.1.votes.voteTimeout e.voteId ∧
            m.handleEvent e t = { m with timeouts :=
              m.timeouts ++ [⟨e, value.1.votes.voteTimeout e.voteId⟩] }) := by
  unfold Manager.handleEvent
  rw [findSession_eq]
  cases m.map.session e.sessionId with
  | none => exact .inl ⟨rfl, fun value hv => by cases hv⟩
  | some value =>
    cases hact : value.1.votes.voteIsActive e.voteId with
    | false =>
      refine .inl ⟨by simp [hact], fun value' hv => ?_⟩
      cases hv
      exact hact
    | true =>
      refine .inr ⟨value, rfl, hact, ?_⟩
      by_cases hle : value.1.votes.voteTimeout e.voteId ≤ t
      · exact .inl ⟨hle, by simp [hact, hle]⟩
      · exact .inr ⟨not_le.mp hle, by simp [hact, hle]⟩

theorem inv_applyLoop (profile : AdpfProfile) (dead : Pid → Bool) (s : SessionId) (t : Time)
    (tids : List Pid) (pos : ℕ) (m : Manager) (h : Inv m.map) :
    Inv (m.applyLoop profile dead s t tids pos).map := by
  induction tids generalizing pos m with
  | nil => exact h
  | cons tid tids ih =>
    rw [Manager.applyLoop]
    split
    · exact ih pos _ (inv_prune h s pos)
    · exact ih (pos + 1) _ h

/-- The loop erases the dead threads from the list it walks, and nothing else. -/
theorem session_applyLoop (profile : AdpfProfile) (dead : Pid → Bool) (t : Time)
    (tids seen : List Pid) (m : Manager) {sv : SessionValueEntry}
    (hs : m.map.session s = some (sv, seen ++ tids)) (s' : SessionId) :
    (m.applyLoop profile dead s t tids seen.length).map.session s' =
      if s' = s then some (sv, seen ++ tids.filter fun tid => !dead tid) else m.map.session s' := by
  induction tids generalizing seen m with
  | nil =>
    rw [Manager.applyLoop]
    split
    · rename_i hsame
      rw [hsame, hs, List.filter_nil]
    · rfl
  | cons tid tids ih =>
    rw [Manager.applyLoop]
    cases hd : dead tid with
    | true =>
      have hpruned : (m.map.prune s seen.length).session s = some (sv, seen ++ tids) := by
        rw [session_prune, if_pos rfl, hs]
        simp [List.eraseIdx_append_of_length_le]
      rw [if_pos rfl, ih seen _ hpruned, List.filter_cons_of_neg (by simp [hd])]
      by_cases hsame : s' = s
      · rw [if_pos hsame, if_pos hsame]
      · rw [if_neg hsame, if_neg hsame, session_prune, if_neg hsame]
    | false =>
      have hseen : seen ++ tid :: tids = (seen ++ [tid]) ++ tids := by simp
      have hlen : seen.length + 1 = (seen ++ [tid]).length := by simp
      rw [hseen] at hs
      have hrec := ih (seen ++ [tid]) (m.push profile t tid) hs
      rw [if_neg (by simp), hlen, hrec, List.filter_cons_of_pos (by simp [hd]), List.append_assoc]
      rfl

theorem inv_applyThreads (h : Inv m.map) : Inv (m.applyThreads profile dead s t).map := by
  unfold Manager.applyThreads
  split
  · exact inv_applyLoop profile dead s t _ _ m h
  · exact h

theorem inv_applyUclampLocked (h : Inv m.map) :
    Inv (m.applyUclampLocked profile dead s t).map :=
  inv_modify (inv_applyThreads h) s (f := fun sv => { sv with lastUpdatedTime := t }) fun _ => rfl

/-- The threads a session keeps when its uclamp is applied. -/
def AdpfProfile.kept (profile : AdpfProfile) (dead : Pid → Bool) (tids : List Pid) : List Pid :=
  if profile.mUclampMinOn then tids.filter fun tid => !dead tid else tids

theorem session_applyThreads (s' : SessionId) :
    (m.applyThreads profile dead s t).map.session s' =
      if s' = s then (m.map.session s).map (Prod.map id (profile.kept dead))
      else m.map.session s' := by
  unfold Manager.applyThreads AdpfProfile.kept
  cases hs : m.map.session s with
  | none =>
    have hids : m.map.getTaskIds s = [] := by rw [getTaskIds_eq, hs]; rfl
    by_cases hsame : s' = s
    · subst hsame
      split <;> simp [hids, Manager.applyLoop, hs]
    · rw [if_neg hsame]
      split <;> simp [hids, Manager.applyLoop]
  | some value =>
    obtain ⟨sv, tids⟩ := value
    have hids : m.map.getTaskIds s = tids := by rw [getTaskIds_eq, hs]; rfl
    cases profile.mUclampMinOn with
    | true =>
      have hloop := session_applyLoop profile dead t tids [] m hs s'
      simpa [hids] using hloop
    | false =>
      by_cases hsame : s' = s
      · subst hsame; simp [hs]
      · simp [hsame]

theorem session_applyUclampLocked (h : Inv m.map) (s' : SessionId) :
    (m.applyUclampLocked profile dead s t).map.session s' =
      if s' = s then (m.map.session s).map
        (Prod.map (fun sv => { sv with lastUpdatedTime := t }) (profile.kept dead))
      else m.map.session s' :=
  session_trans session_applyThreads (fun s' => session_modify (inv_applyThreads h) s s' _) s'

theorem inv_forceSessionActive (h : Inv m.map) (b : Bool) :
    Inv (m.forceSessionActive s b).map :=
  inv_modify h s (f := fun sv => { sv with isActive := b }) fun _ => rfl

theorem session_forceSessionActive (h : Inv m.map) (b : Bool) (s' : SessionId) :
    (m.forceSessionActive s b).map.session s' = if s' = s then (m.map.session s).map
      (Prod.map (fun sv => { sv with isActive := b }) id) else m.map.session s' :=
  session_modify h s s' _

theorem inv_setThreads (h : Inv m.map) (tids : List Pid) (tag : ProcessTag) :
    Inv (m.setThreadsFromPowerSession s tids tag).map :=
  inv_forceSessionActive (inv_replace (inv_forceSessionActive h false) s tids) true

/-- Replacing the threads of a session leaves it active. -/
theorem session_setThreads (h : Inv m.map) (tids : List Pid) (tag : ProcessTag) (s' : SessionId) :
    (m.setThreadsFromPowerSession s tids tag).map.session s' = if s' = s then (m.map.session s).map
      (Prod.map (fun sv => { sv with isActive := true }) fun _ => tids) else m.map.session s' := by
  have hoff := inv_forceSessionActive (s := s) h false
  have hreplaced := session_trans (session_forceSessionActive h false)
    fun s' => session_replace hoff s s' tids
  exact session_trans hreplaced (session_modify (inv_replace hoff s tids) s · _) s'

theorem inv_addPowerSession (h : Inv m.map) (desc : AppHintDesc) (tids : List Pid)
    (tag : ProcessTag) : Inv (m.addPowerSession desc tids tag t).map :=
  inv_setThreads (inv_add h _ _ []) tids tag

/-- A session added, or replaced in its threads if it was there already, is active. -/
theorem session_addPowerSession (h : Inv m.map) (desc : AppHintDesc) (tids : List Pid)
    (tag : ProcessTag) (s' : SessionId) :
    (m.addPowerSession desc tids tag t).map.session s' =
      if s' = desc.sessionId then
        some ({ ((m.map.session desc.sessionId).map Prod.fst).getD (desc.value t) with
          isActive := true }, tids)
      else m.map.session s' := by
  unfold Manager.addPowerSession
  rw [session_setThreads (inv_add h _ _ [])]
  cases hs : m.map.mSessions desc.sessionId with
  | none =>
    have hnone : m.map.session desc.sessionId = none := by simp [SessionTaskMap.session, hs]
    rw [session_add h hs, session_add h hs, hnone]
    by_cases hsame : s' = desc.sessionId
    · rw [if_pos hsame, if_pos hsame, if_pos rfl]
      rfl
    · rw [if_neg hsame, if_neg hsame, if_neg hsame]
  | some entry =>
    have hadd : m.map.add desc.sessionId (desc.value t) [] = m.map := by
      simp only [SessionTaskMap.add, hs]
    rw [hadd]
    by_cases hsame : s' = desc.sessionId
    · rw [if_pos hsame, if_pos hsame]
      simp [SessionTaskMap.session, hs]
    · rw [if_neg hsame, if_neg hsame]

theorem inv_removePowerSession (h : Inv m.map) (tag : ProcessTag) :
    Inv (m.removePowerSession s tag).map :=
  inv_remove (inv_replace (inv_forceSessionActive h false) s []) s

theorem session_removePowerSession (h : Inv m.map) (tag : ProcessTag) (s' : SessionId) :
    (m.removePowerSession s tag).map.session s' = if s' = s then none else m.map.session s' := by
  have hoff := inv_forceSessionActive (s := s) h false
  unfold Manager.removePowerSession
  rw [session_remove, session_replace hoff]
  by_cases hsame : s' = s
  · rw [if_pos hsame, if_pos hsame]
  · rw [if_neg hsame, if_neg hsame, if_neg hsame, session_forceSessionActive h, if_neg hsame]

theorem inv_storeVote (h : Inv m.map) (v : AdpfVoteType) (lo hi : ℤ) (d : Time) :
    Inv (m.storeVote s v lo hi t d).map :=
  inv_modify (inv_modify h s (f := fun sv => { sv with
    votes := sv.votes.add v ⟨true, t, d, ⟨lo, hi⟩⟩ }) fun _ => rfl) s
    (f := fun sv => { sv with lastUpdatedTime := t }) fun _ => rfl

theorem session_storeVote (h : Inv m.map) (v : AdpfVoteType) (lo hi : ℤ) (d : Time)
    (s' : SessionId) : (m.storeVote s v lo hi t d).map.session s' =
      if s' = s then (m.map.session s).map (Prod.map (fun sv => { sv with
        votes := sv.votes.add v ⟨true, t, d, ⟨lo, hi⟩⟩, lastUpdatedTime := t }) id)
      else m.map.session s' := by
  have hadd : Inv (m.map.addVote s v lo hi t d) := inv_modify h s (f := fun sv => { sv with
    votes := sv.votes.add v ⟨true, t, d, ⟨lo, hi⟩⟩ }) fun _ => rfl
  exact session_trans (fun s' => session_modify h s s' _) (fun s' => session_modify hadd s s' _) s'

theorem inv_voteSet (h : Inv m.map) (v : AdpfVoteType) (lo hi : ℤ) (d : Time) :
    Inv (m.voteSet profile dead s v lo hi t d).map := by
  rcases voteSet_cases profile dead m s v lo hi t d with ⟨-, hstep⟩ | ⟨value, -, hstep⟩
  · rw [hstep]
    exact h
  · rw [hstep]
    exact inv_applyUclampLocked (inv_storeVote h v lo hi d)

/-- A vote is stored as active, and the dead threads of the session go. -/
theorem session_voteSet (h : Inv m.map) (v : AdpfVoteType) (lo hi : ℤ) (d : Time)
    (s' : SessionId) :
    (m.voteSet profile dead s v lo hi t d).map.session s' =
      if s' = s then (m.map.session s).map (Prod.map (fun sv => { sv with
        votes := sv.votes.add v ⟨true, t, d, ⟨lo, hi⟩⟩, lastUpdatedTime := t }) (profile.kept dead))
      else m.map.session s' := by
  rcases voteSet_cases profile dead m s v lo hi t d with ⟨hs, hstep⟩ | ⟨value, -, hstep⟩
  · rw [hstep]
    exact session_same _ (fun value hv => by rw [hs] at hv; cases hv) s'
  · rw [hstep]
    exact session_trans (session_storeVote h v lo hi d)
      (session_applyUclampLocked (inv_storeVote h v lo hi d)) s'

theorem inv_setPreferPowerEfficiency (h : Inv m.map) (b : Bool) :
    Inv (m.setPreferPowerEfficiency profile dead s b t).map := by
  have hmod : Inv (m.map.modify s fun sv => { sv with isPowerEfficient := b }) :=
    inv_modify h s fun _ => rfl
  rcases setPreferPowerEfficiency_cases profile dead m s b t with ⟨hstep, -⟩ | ⟨hstep, -⟩
  · rw [hstep]
    exact h
  · rw [hstep]
    exact inv_applyUclampLocked hmod

theorem session_setPreferPowerEfficiency (h : Inv m.map) (b : Bool) (s' : SessionId) :
    (m.setPreferPowerEfficiency profile dead s b t).map.session s' =
      if s' = s then (m.map.session s).map fun value =>
        if b = value.1.isPowerEfficient then value
        else ({ value.1 with isPowerEfficient := b, lastUpdatedTime := t },
          profile.kept dead value.2)
      else m.map.session s' := by
  have hmod : Inv ({ m with map := m.map.modify s fun sv =>
      { sv with isPowerEfficient := b } } : Manager).map :=
    inv_modify h s (f := fun sv => { sv with isPowerEfficient := b }) fun _ => rfl
  rcases setPreferPowerEfficiency_cases profile dead m s b t with
    ⟨hstep, hsame⟩ | ⟨hstep, value, hs, hb⟩
  · rw [hstep]
    exact session_same _ (fun value hs => if_pos (hsame value hs)) s'
  · rw [hstep]
    refine session_congr (session_trans (fun s' => session_modify h s s' _)
      (session_applyUclampLocked hmod)) (fun value' hs' => ?_) s'
    rw [hs] at hs'
    cases hs'
    rw [if_neg hb]
    rfl

theorem inv_turned (h : Inv m.map) {m' : Manager} {b : Bool} (hturned : Turned m m' s b) :
    Inv m'.map := by
  rcases hturned with ⟨hstep, -⟩ | ⟨hstep, -⟩
  · rw [hstep]
    exact h
  · rw [hstep]
    exact inv_forceSessionActive h b

theorem inv_pause (h : Inv m.map) : Inv (m.pause s).map := inv_turned h (pause_cases m s)

theorem inv_resume (h : Inv m.map) : Inv (m.resume s).map := inv_turned h (resume_cases m s)

/-- The flag is set whether or not it was set before. -/
theorem session_turned (h : Inv m.map) {m' : Manager} {b : Bool} (hturned : Turned m m' s b)
    (s' : SessionId) : m'.map.session s' = if s' = s then (m.map.session s).map
      (Prod.map (fun sv => { sv with isActive := b }) id) else m.map.session s' := by
  rcases hturned with ⟨hstep, hfound⟩ | ⟨hstep, -⟩
  · rw [hstep]
    refine session_same _ (fun value hv => ?_) s'
    rw [← hfound value hv]
    rfl
  · rw [hstep]
    exact session_forceSessionActive h b s'

theorem session_pause (h : Inv m.map) (s' : SessionId) :
    (m.pause s).map.session s' = if s' = s then (m.map.session s).map
      (Prod.map (fun sv => { sv with isActive := false }) id) else m.map.session s' :=
  session_turned h (pause_cases m s) s'

theorem session_resume (h : Inv m.map) (s' : SessionId) :
    (m.resume s).map.session s' = if s' = s then (m.map.session s).map
      (Prod.map (fun sv => { sv with isActive := true }) id) else m.map.session s' :=
  session_turned h (resume_cases m s) s'

/-- A timed-out vote is deactivated; nothing else happens to the sessions. -/
theorem session_handleEvent (h : Inv m.map) (e : EventSessionTimeout) (s' : SessionId) :
    (m.handleEvent e t).map.session s' =
      if s' = e.sessionId then (m.map.session e.sessionId).map fun value =>
        if value.1.votes.voteIsActive e.voteId ∧ value.1.votes.voteTimeout e.voteId ≤ t
        then ({ value.1 with votes := value.1.votes.setUseVote e.voteId false }, value.2) else value
      else m.map.session s' := by
  rcases handleEvent_cases m e t with ⟨hstep, hoff⟩ | ⟨value, hs, hact, ⟨hle, hstep⟩ | ⟨hlt, hstep⟩⟩
  · rw [hstep]
    refine session_same _ (fun value hs => if_neg fun hout => ?_) s'
    rw [hoff value hs] at hout
    cases hout.1
  · rw [hstep]
    refine session_congr (fun s' => session_modify h e.sessionId s' _) (fun value' hs' => ?_) s'
    rw [hs] at hs'
    cases hs'
    rw [if_pos ⟨hact, hle⟩]
    rfl
  · rw [hstep]
    refine session_same _ (fun value' hs' => if_neg fun hout => ?_) s'
    rw [hs] at hs'
    cases hs'
    exact absurd hout.2 (not_le.mpr hlt)

theorem inv_handleEvent (h : Inv m.map) (e : EventSessionTimeout) : Inv (m.handleEvent e t).map := by
  rcases handleEvent_cases m e t with ⟨hstep, -⟩ | ⟨value, -, -, ⟨-, hstep⟩ | ⟨-, hstep⟩⟩
  · rw [hstep]
    exact h
  · rw [hstep]
    exact inv_modify h e.sessionId (f := fun sv => { sv with
      votes := sv.votes.setUseVote e.voteId false }) fun _ => rfl
  · rw [hstep]
    exact h

/-- Every call keeps the map. -/
theorem inv_call (env : Env) (c : Call) (h : Inv m.map) : Inv (m.call profile env c).map := by
  cases c with
  | addPowerSession desc tids tag => exact inv_addPowerSession h desc tids tag
  | removePowerSession s tag => exact inv_removePowerSession h tag
  | setThreadsFromPowerSession s tids tag => exact inv_setThreads h tids tag
  | pause s => exact inv_pause h
  | resume s => exact inv_resume h
  | updateTargetWorkDuration s v d =>
    exact inv_modify h s (f := fun sv => { sv with votes := sv.votes.updateDuration v d }) fun _ => rfl
  | voteSet s v lo hi start d => exact inv_voteSet h v lo hi d
  | disableBoosts s =>
    exact inv_modify h s (f := fun sv => { sv with
      votes := boostVotes.foldl (fun votes vid => votes.setUseVote vid false) sv.votes }) fun _ => rfl
  | setPreferPowerEfficiency s b => exact inv_setPreferPowerEfficiency h b
  | handleEvent e => exact inv_handleEvent h e

end Calls

/-- Every manager a process can have keeps its map. -/
theorem inv_run (profile : AdpfProfile) (heap : Ptr → SessionValueEntry) (as : List (Env × Call)) :
    Inv (run (Manager.envStep profile) (.init heap) as).map :=
  run_inv (fun m : Manager => Inv m.map) (C := fun _ => True) (fun _ a h _ => inv_call a.1 a.2 h) as _
    (inv_empty heap) fun _ _ => trivial

end ImxHal.Power
