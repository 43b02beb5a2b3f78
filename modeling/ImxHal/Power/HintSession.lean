import ImxHal.Power.SessionManager

/-! @src power/PowerHintSession.cpp, power/AppHintDesc.h | name:PowerHintSession | scheme:run |
    family:state kept twice

    A hint session keeps `is_active` in its descriptor, and the manager keeps `isActive` in the value
    of the session. `pause` and `resume` set both; pausing also takes the threads away:

        pause    setThreads([]) ─▶ is_active := false ─▶ manager.pause
        resume   setThreads(thread_ids) ─▶ is_active := true ─▶ manager.resume

    where the manager's `setThreadsFromPowerSession` ends with the session ACTIVE, whatever it was
    before. `setThreads` calls it without a look at `is_active`. The factors of the profile and the
    PID controller are floating-point numbers; what they come to is given with each call. -/

namespace ImxHal.Power
open ImxHal.Run

inductive Status where | ok | EX_ILLEGAL_STATE | EX_ILLEGAL_ARGUMENT
  deriving DecidableEq

inductive SessionHint where
  | CPU_LOAD_UP | CPU_LOAD_DOWN | CPU_LOAD_RESET | CPU_LOAD_RESUME | POWER_EFFICIENCY | other
  deriving DecidableEq

inductive SessionMode where | POWER_EFFICIENCY | other
  deriving DecidableEq

/-- The profile of the session. The last three are a duration times a factor of the profile. -/
structure AdpfConfig where
  mPidOn : Bool
  mUclampMinInit : ℤ
  mUclampMinLow : ℤ
  mUclampMinHigh : ℤ
  mUclampMinLoadUp : ℤ
  mUclampMinLoadReset : ℤ
  mReportingRateLimitNs : Time
  targetTime : Time → Time
  staleTime : Time → Time
  halfStaleTime : Time → Time

/-- What a call finds outside: the clock and the dead threads, the profiles of the manager and of the
    session, and what the PID controller makes of the reported durations. -/
structure HintEnv extends Env where
  profile : AdpfProfile
  config : AdpfConfig
  output : ℤ
  uclampMinFloor : ℤ
  uclampMinCeiling : ℤ

/-- The session with its descriptor. -/
structure PowerHintSession where
  mSessionId : SessionId
  mProcTag : ProcessTag
  mSessionClosed : Bool
  mDescriptor : AppHintDesc
  thread_ids : List Pid
  pidControlVariable : ℤ

/-- A hint session and the manager it shares with the others. -/
structure System where
  session : PowerHintSession
  manager : Manager

namespace System

def setThreadsFromPowerSession (w : System) (threadIds : List Pid) : System :=
  ⟨w.session,
    w.manager.setThreadsFromPowerSession w.session.mSessionId threadIds w.session.mProcTag⟩

def store (w : System) (is_active : Bool) : System :=
  { w with session.mDescriptor.is_active := is_active }

def voteSet (w : System) (env : HintEnv) (voteId : AdpfVoteType) (uclampMin : ℤ)
    (durationNs : Time) : System :=
  ⟨w.session, w.manager.voteSet env.profile env.dead w.session.mSessionId voteId uclampMin kUclampMax
    env.now durationNs⟩

def updatePidControlVariable (w : System) (env : HintEnv) (pidControlVariable : ℤ)
    (updateVote : Bool) : System :=
  let w := { w with session.pidControlVariable := pidControlVariable }
  if updateVote then
    w.voteSet env .CPU_VOTE_DEFAULT pidControlVariable
      (max (env.config.staleTime w.session.mDescriptor.targetNs)
        (env.config.mReportingRateLimitNs * 2))
  else w

def pause (w : System) : Status × System :=
  if w.session.mSessionClosed then (.EX_ILLEGAL_STATE, w)
  else if !w.session.mDescriptor.is_active then (.EX_ILLEGAL_STATE, w)
  else
    let w := (w.setThreadsFromPowerSession []).store false
    (.ok, ⟨w.session, w.manager.pause w.session.mSessionId⟩)

def resume (w : System) : Status × System :=
  if w.session.mSessionClosed then (.EX_ILLEGAL_STATE, w)
  else if w.session.mDescriptor.is_active then (.EX_ILLEGAL_STATE, w)
  else
    let w := (w.setThreadsFromPowerSession w.session.thread_ids).store true
    (.ok, ⟨w.session, w.manager.resume w.session.mSessionId⟩)

def close (w : System) : Status × System :=
  if w.session.mSessionClosed then (.EX_ILLEGAL_STATE, w)
  else
    let w := { w with session.mSessionClosed := true }
    let w : System :=
      ⟨w.session, w.manager.removePowerSession w.session.mSessionId w.session.mProcTag⟩
    (.ok, w.store false)

def updateTargetWorkDuration (w : System) (env : HintEnv) (targetDurationNanos : Time) :
    Status × System :=
  if w.session.mSessionClosed then (.EX_ILLEGAL_STATE, w)
  else if targetDurationNanos ≤ 0 then (.EX_ILLEGAL_ARGUMENT, w)
  else
    let targetNs := env.config.targetTime targetDurationNanos
    let w := { w with session.mDescriptor.targetNs := targetNs }
    (.ok, ⟨w.session,
      w.manager.updateTargetWorkDuration w.session.mSessionId .CPU_VOTE_DEFAULT targetNs⟩)

def reportActualWorkDuration (w : System) (env : HintEnv) (actualDurations : List Time) :
    Status × System :=
  if w.session.mSessionClosed then (.EX_ILLEGAL_STATE, w)
  else if w.session.mDescriptor.targetNs = 0 then (.EX_ILLEGAL_STATE, w)
  else if actualDurations.isEmpty then (.EX_ILLEGAL_ARGUMENT, w)
  else if !w.session.mDescriptor.is_active then (.EX_ILLEGAL_STATE, w)
  else
    let w : System := ⟨w.session, w.manager.disableBoosts w.session.mSessionId⟩
    if !env.config.mPidOn then (.ok, w.updatePidControlVariable env env.config.mUclampMinHigh true)
    else
      let next_min := max env.uclampMinFloor
        (min env.uclampMinCeiling (w.session.pidControlVariable + env.output))
      (.ok, w.updatePidControlVariable env next_min true)

def setModeLocked (w : System) (env : HintEnv) (mode : SessionMode) (enabled : Bool) :
    Status × System :=
  if w.session.mSessionClosed then (.EX_ILLEGAL_STATE, w)
  else match mode with
    | .POWER_EFFICIENCY => (.ok, ⟨w.session, w.manager.setPreferPowerEfficiency env.profile env.dead
        w.session.mSessionId enabled env.now⟩)
    | .other => (.EX_ILLEGAL_ARGUMENT, w)

/-- The conversions of `std::max(mUclampMinInit, static_cast<uint32_t>(pidControlVariable))`. -/
def loadResetMin (uclampMinInit pidControlVariable : ℤ) : ℤ :=
  (max uclampMinInit (pidControlVariable % 2 ^ 32)).bmod (2 ^ 32)

def sendHint (w : System) (env : HintEnv) (hint : SessionHint) : Status × System :=
  if w.session.mSessionClosed then (.EX_ILLEGAL_STATE, w)
  else if w.session.mDescriptor.targetNs = 0 then (.EX_ILLEGAL_STATE, w)
  else
    let targetNs := w.session.mDescriptor.targetNs
    match hint with
    | .CPU_LOAD_UP =>
      let w := w.updatePidControlVariable env w.session.pidControlVariable true
      (.ok, w.voteSet env .CPU_LOAD_UP env.config.mUclampMinLoadUp (targetNs * 2))
    | .CPU_LOAD_DOWN => (.ok, w.updatePidControlVariable env env.config.mUclampMinLow true)
    | .CPU_LOAD_RESET =>
      let w := w.updatePidControlVariable env
        (loadResetMin env.config.mUclampMinInit w.session.pidControlVariable) false
      (.ok, w.voteSet env .CPU_LOAD_RESET env.config.mUclampMinLoadReset
        (env.config.halfStaleTime targetNs))
    | .CPU_LOAD_RESUME =>
      (.ok, w.voteSet env .CPU_LOAD_RESUME w.session.pidControlVariable
        (env.config.halfStaleTime targetNs))
    | .POWER_EFFICIENCY => (.ok, (w.setModeLocked env .POWER_EFFICIENCY true).2)
    | .other => (.EX_ILLEGAL_ARGUMENT, w)

def setMode (w : System) (env : HintEnv) (mode : SessionMode) (enabled : Bool) : Status × System :=
  w.setModeLocked env mode enabled

def setThreads (w : System) (env : HintEnv) (threadIds : List Pid) : Status × System :=
  if w.session.mSessionClosed then (.EX_ILLEGAL_STATE, w)
  else if threadIds.isEmpty then (.EX_ILLEGAL_ARGUMENT, w)
  else
    let w := { w with session.thread_ids := threadIds }
    let w := w.setThreadsFromPowerSession threadIds
    (.ok, w.updatePidControlVariable env env.config.mUclampMinInit true)

/-- The constructor: the session is added, and votes twice to begin with. -/
def create (m : Manager) (env : HintEnv) (sessionId : SessionId) (procTag : ProcessTag) (uid : ℤ)
    (threadIds : List Pid) (durationNs : Time) : System :=
  let desc : AppHintDesc := ⟨sessionId, uid, true, durationNs⟩
  let w : System := ⟨⟨sessionId, procTag, false, desc, threadIds, 0⟩,
    m.addPowerSession desc threadIds procTag env.now⟩
  let w := w.voteSet env .CPU_LOAD_RESET env.config.mUclampMinLoadReset
    (env.config.halfStaleTime durationNs)
  w.voteSet env .CPU_VOTE_DEFAULT env.config.mUclampMinInit durationNs

end System

/-- The calls of the session, and of the manager by the rest of the process. -/
inductive HintCall where
  | pause
  | resume
  | close
  | setThreads (threadIds : List Pid)
  | sendHint (hint : SessionHint)
  | setMode (mode : SessionMode) (enabled : Bool)
  | updateTargetWorkDuration (targetDurationNanos : Time)
  | reportActualWorkDuration (actualDurations : List Time)
  | other (c : Call)

/-- The rest of the process calls for other sessions, and hands over timeout events of any. -/
def Call.foreign (s : SessionId) : Call → Bool
  | .addPowerSession desc _ _ => desc.sessionId ≠ s
  | .removePowerSession s' _ | .setThreadsFromPowerSession s' _ _ | .pause s' | .resume s'
  | .updateTargetWorkDuration s' _ _ | .voteSet s' _ _ _ _ _ | .disableBoosts s'
  | .setPreferPowerEfficiency s' _ => s' ≠ s
  | .handleEvent _ => true

def System.step (w : System) : HintEnv × HintCall → System
  | (_, .pause) => w.pause.2
  | (_, .resume) => w.resume.2
  | (_, .close) => w.close.2
  | (env, .setThreads threadIds) => (w.setThreads env threadIds).2
  | (env, .sendHint hint) => (w.sendHint env hint).2
  | (env, .setMode mode enabled) => (w.setMode env mode enabled).2
  | (env, .updateTargetWorkDuration target) => (w.updateTargetWorkDuration env target).2
  | (env, .reportActualWorkDuration durations) => (w.reportActualWorkDuration env durations).2
  | (env, .other c) =>
    if c.foreign w.session.mSessionId then
      ⟨w.session, w.manager.call env.profile env.toEnv c⟩
    else w

/-! ### The law -/

/-- An open session is in the map, with the flag of the descriptor there, and without threads while
    the flag is off. -/
def Agrees (w : System) : Prop :=
  w.session.mSessionClosed = false → ∃ sv tids,
    w.manager.map.session w.session.mSessionId = some (sv, tids) ∧
      sv.isActive = w.session.mDescriptor.is_active ∧
        (w.session.mDescriptor.is_active = false → tids = [])

/-- Threads are set for an open session only while it is not paused. -/
def Unpaused (w : System) : HintEnv × HintCall → Prop
  | (_, .setThreads threadIds) => w.session.mSessionClosed = false → threadIds ≠ [] →
      w.session.mDescriptor.is_active = true
  | _ => True

/-! ### What the manager's calls leave of a session -/

/-- The map is kept; the session stays in it, with its flag, and gets no thread if it has none. -/
def Keeps (s : SessionId) (m m' : Manager) : Prop :=
  Inv m.map → Inv m'.map ∧ ∀ sv tids, m.map.session s = some (sv, tids) →
    ∃ sv' tids', m'.map.session s = some (sv', tids') ∧ sv'.isActive = sv.isActive ∧
      (tids = [] → tids' = [])

section Keeps

variable {s s' : SessionId} {m m' : Manager}

theorem keeps_refl (s : SessionId) (m : Manager) : Keeps s m m :=
  fun hi => ⟨hi, fun sv tids hs => ⟨sv, tids, hs, rfl, id⟩⟩

/-- A change of one session by a function that keeps its flag and adds no thread. -/
theorem keeps_of_session {f : SessionValueEntry × List Pid → SessionValueEntry × List Pid}
    (hinv : Inv m.map → Inv m'.map)
    (hmap : Inv m.map → ∀ s'', m'.map.session s'' =
      if s'' = s' then (m.map.session s').map f else m.map.session s'')
    (hf : ∀ value, (f value).1.isActive = value.1.isActive ∧ (value.2 = [] → (f value).2 = [])) :
    Keeps s m m' := by
  intro hi
  refine ⟨hinv hi, fun sv tids hs => ?_⟩
  rw [hmap hi]
  by_cases hsame : s = s'
  · subst hsame
    rw [if_pos rfl, hs]
    exact ⟨_, _, rfl, hf (sv, tids)⟩
  · rw [if_neg hsame, hs]
    exact ⟨sv, tids, rfl, rfl, id⟩

theorem kept_nil (profile : AdpfProfile) (dead : Pid → Bool) {tids : List Pid} (h : tids = []) :
    profile.kept dead tids = [] := by
  rw [h, AdpfProfile.kept]
  split <;> rfl

theorem keeps_voteSet (profile : AdpfProfile) (dead : Pid → Bool) (s' : SessionId) (v : AdpfVoteType)
    (lo up : ℤ) (t d : Time) : Keeps s m (m.voteSet profile dead s' v lo up t d) :=
  keeps_of_session (inv_voteSet · v lo up d) (session_voteSet · v lo up d)
    fun _ => ⟨rfl, kept_nil profile dead⟩

theorem keeps_setPreferPowerEfficiency (profile : AdpfProfile) (dead : Pid → Bool) (b : Bool)
    (t : Time) : Keeps s m (m.setPreferPowerEfficiency profile dead s' b t) := by
  refine keeps_of_session (inv_setPreferPowerEfficiency · b) (session_setPreferPowerEfficiency · b)
    fun value => ?_
  split
  · exact ⟨rfl, id⟩
  · exact ⟨rfl, kept_nil profile dead⟩

theorem keeps_handleEvent (e : EventSessionTimeout) (t : Time) : Keeps s m (m.handleEvent e t) := by
  refine keeps_of_session (inv_handleEvent · e) (session_handleEvent · e) fun value => ?_
  split
  · exact ⟨rfl, id⟩
  · exact ⟨rfl, id⟩

theorem keeps_modify {f : SessionValueEntry → SessionValueEntry}
    (hf : ∀ sv, (f sv).sessionId = sv.sessionId ∧ (f sv).isActive = sv.isActive) :
    Keeps s m { m with map := m.map.modify s' f } :=
  keeps_of_session (fun hi => inv_modify hi s' fun sv => (hf sv).1)
    (fun hi s'' => session_modify hi s' s'' f) fun value => ⟨(hf value.1).2, id⟩

/-- A change of another session, whatever it is. -/
theorem keeps_elsewhere {value : Option (SessionValueEntry × List Pid)} (hne : s' ≠ s)
    (hinv : Inv m.map → Inv m'.map)
    (hmap : Inv m.map → m'.map.session s = if s = s' then value else m.map.session s) :
    Keeps s m m' := by
  intro hi
  refine ⟨hinv hi, fun sv tids hs => ⟨sv, tids, ?_, rfl, id⟩⟩
  rw [hmap hi, if_neg (Ne.symm hne), hs]

/-- A call for another session does not touch this one, and an event only its votes. -/
theorem keeps_foreign (profile : AdpfProfile) (env : Env) {c : Call} (hc : c.foreign s) :
    Keeps s m (m.call profile env c) := by
  cases c with
  | addPowerSession desc tids tag =>
    exact keeps_elsewhere (of_decide_eq_true hc) (inv_call env _)
      fun hi => session_addPowerSession hi desc tids tag s
  | removePowerSession s' tag =>
    exact keeps_elsewhere (of_decide_eq_true hc) (inv_call env _)
      fun hi => session_removePowerSession hi tag s
  | setThreadsFromPowerSession s' tids tag =>
    exact keeps_elsewhere (of_decide_eq_true hc) (inv_call env _)
      fun hi => session_setThreads hi tids tag s
  | pause s' =>
    exact keeps_elsewhere (of_decide_eq_true hc) (inv_call env _) fun hi => session_pause hi s
  | resume s' =>
    exact keeps_elsewhere (of_decide_eq_true hc) (inv_call env _) fun hi => session_resume hi s
  | updateTargetWorkDuration s' v d => exact keeps_modify fun _ => ⟨rfl, rfl⟩
  | voteSet s' v lo up start d => exact keeps_voteSet profile env.dead s' v lo up start d
  | disableBoosts s' => exact keeps_modify fun _ => ⟨rfl, rfl⟩
  | setPreferPowerEfficiency s' b => exact keeps_setPreferPowerEfficiency profile env.dead b env.now
  | handleEvent e => exact keeps_handleEvent e env.now

end Keeps

/-! ### What the calls of the session do -/

/-- The invariant of a run. -/
structure Good (w : System) : Prop where
  map : Inv w.manager.map
  agrees : Agrees w

section Good

variable {w w' : System} (env : HintEnv)

theorem good_of_keeps (h : Good w) (hid : w'.session.mSessionId = w.session.mSessionId)
    (hclosed : w'.session.mSessionClosed = w.session.mSessionClosed)
    (hactive : w'.session.mDescriptor.is_active = w.session.mDescriptor.is_active)
    (hkeeps : Keeps w.session.mSessionId w.manager w'.manager) : Good w' := by
  obtain ⟨hi, hkeep⟩ := hkeeps h.map
  refine ⟨hi, fun hopen => ?_⟩
  obtain ⟨sv, tids, hs, hflag, hnil⟩ := h.agrees (hclosed ▸ hopen)
  obtain ⟨sv', tids', hs', hflag', hnil'⟩ := hkeep sv tids hs
  rw [hid, hactive]
  exact ⟨sv', tids', hs', hflag'.trans hflag, fun hoff => hnil' (hnil hoff)⟩

theorem good_voteSet (h : Good w) (v : AdpfVoteType) (lo : ℤ) (d : Time) :
    Good (w.voteSet env v lo d) :=
  good_of_keeps h rfl rfl rfl (keeps_voteSet env.profile env.dead _ v lo kUclampMax env.now d)

theorem good_updatePidControlVariable (h : Good w) (pid : ℤ) (b : Bool) :
    Good (w.updatePidControlVariable env pid b) := by
  have hpid : Good { w with session.pidControlVariable := pid } :=
    good_of_keeps h rfl rfl rfl (keeps_refl _ _)
  unfold System.updatePidControlVariable
  cases b with
  | true => exact good_voteSet env hpid _ _ _
  | false => exact hpid

/-- After its threads are replaced, an open session is active in the map. -/
theorem session_of_setThreads (h : Good w) (hopen : w.session.mSessionClosed = false)
    (tids : List Pid) : ∃ sv, (w.setThreadsFromPowerSession tids).manager.map.session
      w.session.mSessionId = some (sv, tids) ∧ sv.isActive = true := by
  obtain ⟨sv, old, hs, -⟩ := h.agrees hopen
  refine ⟨{ sv with isActive := true }, ?_, rfl⟩
  rw [System.setThreadsFromPowerSession, session_setThreads h.map, if_pos rfl, hs]
  rfl

theorem good_pause (h : Good w) : Good w.pause.2 := by
  unfold System.pause
  split
  · exact h
  · split
    · exact h
    · rename_i hopen _
      have hi := inv_setThreads (s := w.session.mSessionId) h.map [] w.session.mProcTag
      obtain ⟨sv, hs, -⟩ := session_of_setThreads h (by simpa using hopen) []
      refine ⟨inv_pause hi, fun _ => ⟨{ sv with isActive := false }, [], ?_, rfl, fun _ => rfl⟩⟩
      exact (session_pause hi _).trans (by rw [if_pos rfl]; exact congrArg _ hs)

theorem good_resume (h : Good w) : Good w.resume.2 := by
  unfold System.resume
  split
  · exact h
  · split
    · exact h
    · rename_i hopen _
      have hi := inv_setThreads (s := w.session.mSessionId) h.map w.session.thread_ids
        w.session.mProcTag
      obtain ⟨sv, hs, -⟩ := session_of_setThreads h (by simpa using hopen) w.session.thread_ids
      refine ⟨inv_resume hi, fun _ => ⟨{ sv with isActive := true }, w.session.thread_ids, ?_, rfl,
        fun hoff => by cases hoff⟩⟩
      exact (session_resume hi _).trans (by rw [if_pos rfl]; exact congrArg _ hs)

theorem good_close (h : Good w) : Good w.close.2 := by
  unfold System.close
  split
  · exact h
  · exact ⟨inv_removePowerSession h.map _, fun hopen => by cases hopen⟩

theorem good_setModeLocked (h : Good w) (mode : SessionMode) (b : Bool) :
    Good (w.setModeLocked env mode b).2 := by
  unfold System.setModeLocked
  split
  · exact h
  · cases mode with
    | POWER_EFFICIENCY =>
      exact good_of_keeps h rfl rfl rfl
        (keeps_setPreferPowerEfficiency env.profile env.dead b env.now)
    | other => exact h

theorem good_sendHint (h : Good w) (hint : SessionHint) : Good (w.sendHint env hint).2 := by
  unfold System.sendHint
  split
  · exact h
  · split
    · exact h
    · cases hint with
      | CPU_LOAD_UP => exact good_voteSet env (good_updatePidControlVariable env h _ true) _ _ _
      | CPU_LOAD_DOWN => exact good_updatePidControlVariable env h _ true
      | CPU_LOAD_RESET => exact good_voteSet env (good_updatePidControlVariable env h _ false) _ _ _
      | CPU_LOAD_RESUME => exact good_voteSet env h _ _ _
      | POWER_EFFICIENCY => exact good_setModeLocked env h .POWER_EFFICIENCY true
      | other => exact h

theorem good_updateTargetWorkDuration (h : Good w) (target : Time) :
    Good (w.updateTargetWorkDuration env target).2 := by
  unfold System.updateTargetWorkDuration
  split
  · exact h
  · split
    · exact h
    · exact good_of_keeps h rfl rfl rfl (keeps_modify fun _ => ⟨rfl, rfl⟩)

theorem good_reportActualWorkDuration (h : Good w) (durations : List Time) :
    Good (w.reportActualWorkDuration env durations).2 := by
  have hoff : Good ⟨w.session, w.manager.disableBoosts w.session.mSessionId⟩ :=
    good_of_keeps h rfl rfl rfl (keeps_modify fun _ => ⟨rfl, rfl⟩)
  unfold System.reportActualWorkDuration
  split
  · exact h
  split
  · exact h
  split
  · exact h
  split
  · exact h
  dsimp only
  split
  · exact good_updatePidControlVariable env hoff _ true
  · exact good_updatePidControlVariable env hoff _ true

/-- The threads of an open session that is not paused may be set. -/
theorem good_setThreads (h : Good w) (tids : List Pid) (hrun : Unpaused w (env, .setThreads tids)) :
    Good (w.setThreads env tids).2 := by
  unfold System.setThreads
  split
  · exact h
  · split
    · exact h
    · rename_i hopen htids
      have hopen : w.session.mSessionClosed = false := by simpa using hopen
      have hactive := hrun hopen (by simpa using htids)
      obtain ⟨sv, hs, hflag⟩ := session_of_setThreads h hopen tids
      refine good_updatePidControlVariable env ⟨inv_setThreads h.map tids _, fun _ => ?_⟩ _ true
      exact ⟨sv, tids, hs, hflag.trans hactive.symm, fun hoff => by cases hactive.symm.trans hoff⟩

/-- Setting the threads of a paused session leaves the two flags different. -/
theorem unpaused_of_agrees (h : Good w) (tids : List Pid)
    (hagrees : Agrees (w.setThreads env tids).2) : Unpaused w (env, .setThreads tids) := by
  intro hopen htids
  have hstep : (w.setThreads env tids).2 =
      System.updatePidControlVariable (System.setThreadsFromPowerSession
        { w with session.thread_ids := tids } tids) env env.config.mUclampMinInit true := by
    simp [System.setThreads, hopen, htids]
  obtain ⟨sv, hs, hflag⟩ := session_of_setThreads h hopen tids
  rw [hstep] at hagrees
  obtain ⟨-, hkeep⟩ := keeps_voteSet (s := w.session.mSessionId) env.profile env.dead
    w.session.mSessionId .CPU_VOTE_DEFAULT env.config.mUclampMinInit kUclampMax env.now
    (max (env.config.staleTime w.session.mDescriptor.targetNs) (env.config.mReportingRateLimitNs * 2))
    (inv_setThreads (s := w.session.mSessionId) h.map tids w.session.mProcTag)
  obtain ⟨sv', tids', hs', hflag', -⟩ := hkeep sv tids hs
  obtain ⟨sv'', tids'', hs'', hflag'', -⟩ := hagrees hopen
  have hvalue : sv'' = sv' := congrArg Prod.fst (Option.some.inj (hs''.symm.trans hs'))
  rw [hvalue, hflag', hflag] at hflag''
  exact hflag''.symm

theorem good_step (a : HintEnv × HintCall) (h : Good w) (hrun : Unpaused w a) : Good (w.step a) := by
  obtain ⟨env, c⟩ := a
  cases c with
  | pause => exact good_pause h
  | resume => exact good_resume h
  | close => exact good_close h
  | setThreads tids => exact good_setThreads env h tids hrun
  | sendHint hint => exact good_sendHint env h hint
  | setMode mode b => exact good_setModeLocked env h mode b
  | updateTargetWorkDuration target => exact good_updateTargetWorkDuration env h target
  | reportActualWorkDuration durations => exact good_reportActualWorkDuration env h durations
  | other c =>
    unfold System.step
    dsimp only
    split
    · exact good_of_keeps h rfl rfl rfl (keeps_foreign env.profile env.toEnv ‹_›)
    · exact h

theorem good_create {m : Manager} (hi : Inv m.map) (s : SessionId) (tag : ProcessTag) (uid : ℤ)
    (tids : List Pid) (d : Time) : Good (System.create m env s tag uid tids d) := by
  refine good_voteSet env (good_voteSet env ⟨inv_addPowerSession hi _ tids tag, fun _ => ?_⟩ _ _ _)
    _ _ _
  have hs := session_addPowerSession (t := env.now) hi ⟨s, uid, true, d⟩ tids tag s
  rw [if_pos rfl] at hs
  exact ⟨_, tids, hs, rfl, fun hoff => by cases hoff⟩

end Good

/-- CORRECT: in every run of calls on a hint session, in a process that has done anything before and
    does anything for its other sessions meanwhile, the two flags agree and a paused session has
    no threads exactly as long as threads are set only while the session is not paused. -/
theorem paused_inactive_iff (profile : AdpfProfile) (heap : Ptr → SessionValueEntry)
    (before : List (Env × Call)) (env : HintEnv) (s : SessionId) (tag : ProcessTag) (uid : ℤ)
    (tids : List Pid) (d : Time) (as : List (HintEnv × HintCall)) :
    Always System.step (fun _ _ w => Agrees w)
        (.create (run (Manager.envStep profile) (.init heap) before) env s tag uid tids d) as ↔
      Meets System.step Unpaused
        (.create (run (Manager.envStep profile) (.init heap) before) env s tag uid tids d) as := by
  refine always_iff_meets (fun w a (h : Good w) hrun => ?_) (fun w a h hagrees => ?_) as _
    (good_create env (inv_run profile heap before) s tag uid tids d)
  · have hnext := good_step a h hrun
    exact ⟨hnext, hnext.agrees⟩
  · obtain ⟨env, c⟩ := a
    cases c with
    | setThreads tids => exact unpaused_of_agrees env h tids hagrees
    | _ => trivial

/-- Time 0, no dead threads, uclamp on, a profile whose factors are 1 and a controller at rest. -/
def HintEnv.rest : HintEnv :=
  ⟨⟨0, fun _ => false⟩, ⟨true, ⟨none, none⟩⟩, ⟨true, 100, 0, 512, 300, 200, 50, id, id, id⟩, 0, 0, 512⟩

/-- A session is paused and its threads are then set: it is active in the map again. -/
theorem threads_set_while_paused :
    ¬ Always System.step (fun _ _ w => Agrees w)
      (.create (.init fun _ => AppHintDesc.value ⟨0, 0, false, 0⟩ 0) .rest 7 .DEFAULT 0 [1] 100)
      [(.rest, .pause), (.rest, .setThreads [2])] := by
  rintro ⟨-, hagrees, -⟩
  obtain ⟨sv, tids, hs, hflag, -⟩ := hagrees rfl
  have hactive := congrArg (Option.map fun value => value.1.isActive) hs
  rw [Option.map_some, hflag] at hactive
  revert hactive
  decide +kernel

end ImxHal.Power
