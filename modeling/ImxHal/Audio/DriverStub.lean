import ImxHal.Audio.Stream

/-! @src audio/default/stub/DriverStubImpl.cpp | name:driver checks | scheme:run | family:audio

    The stub driver validates the worker's state machine: it kills the process when it is asked for
    something before `init` or after `shutdown`, and when it is asked for a transfer in standby.

        worker    STANDBY ─start─▶ IDLE, ACTIVE, PAUSED, DRAINING, …  ─standby─▶ STANDBY
        driver    mIsStandby        ¬ mIsStandby: transfers are fine              mIsStandby

    An input worker never runs into the checks. An output worker takes a burst in STANDBY, which the driver
    does not, and a clip end may move a worker whose driver is in standby. -/

namespace ImxHal.Audio.Streaming

structure DriverStubImpl where
  mIsInitialized : Bool := false
  mIsStandby : Bool := true
  deriving DecidableEq

namespace DriverStubImpl

def init (d : DriverStubImpl) : DriverStubImpl := { d with mIsInitialized := true }

/-- `none` is the `LOG(FATAL)`. The position functions are those of `DriverInterface`. -/
def call (d : DriverStubImpl) : Call → Option DriverStubImpl
  | .drain _ | .flush | .pause => if d.mIsInitialized then some d else none
  | .standby => if d.mIsInitialized then some { d with mIsStandby := true } else none
  | .start => if d.mIsInitialized then some { d with mIsStandby := false } else none
  | .transfer _ => if d.mIsInitialized ∧ d.mIsStandby = false then some d else none
  | .shutdown => some { d with mIsInitialized := false }
  | .refinePosition | .getMmapPositionAndLatency => some d

def run (d : DriverStubImpl) (calls : List (Call × Bool)) : Option DriverStubImpl :=
  calls.foldlM (fun d call => d.call call.1) d

@[simp] theorem run_nil (d : DriverStubImpl) : d.run [] = some d := rfl

@[simp] theorem run_cons (d : DriverStubImpl) (call : Call × Bool) (calls : List (Call × Bool)) :
    d.run (call :: calls) = (d.call call.1).bind fun e => e.run calls := rfl

theorem run_append (d : DriverStubImpl) (calls calls' : List (Call × Bool)) :
    d.run (calls ++ calls') = (d.run calls).bind fun e => e.run calls' := List.foldlM_append

variable (c : StreamContext) (a : Answers)

/-- Asking for the position is always fine. -/
@[simp] theorem run_positionCalls (d : DriverStubImpl) (w : Worker) (isConnected : Bool) :
    d.run (positionCalls c a w isConnected) = some d := by
  cases isConnected <;> cases h : c.isMmap <;> simp [positionCalls, h, call]

end DriverStubImpl

open DriverStubImpl

/-- The worker's states in which its driver has been started. -/
def State.Started (s : State) : Prop := s ≠ .standby ∧ s ≠ .error ∧ s ≠ .closed

instance : DecidablePred State.Started := fun _ => inferInstanceAs (Decidable (_ ∧ _ ∧ _))

/-- The driver is where the worker's state says. -/
structure InSync (state : State) (d : DriverStubImpl) : Prop where
  initialized : state ≠ .closed → d.mIsInitialized = true
  started : state.Started → d.mIsStandby = false

/-- In `STANDBY` an output's driver is in standby too. -/
structure OutSync (state : State) (d : DriverStubImpl) : Prop extends InSync state d where
  standby : state = .standby → d.mIsStandby = true

section Commands
variable {c : StreamContext} {a : Answers} {w : Worker} {d : DriverStubImpl}

theorem InSync.error (h : d.mIsInitialized = true) : InSync .error d :=
  ⟨fun _ => h, fun hs => absurd rfl hs.2.1⟩

theorem InSync.standby (h : d.mIsInitialized = true) : InSync .standby d :=
  ⟨fun _ => h, fun hs => absurd rfl hs.1⟩

theorem OutSync.error (h : d.mIsInitialized = true) : OutSync .error d :=
  ⟨InSync.error h, by rintro ⟨⟩⟩

/-- A relation of state and driver is kept by an attempted call that leaves the driver in `e`. -/
theorem attempt_keeps {R : State → DriverStubImpl → Prop} {call : Call} {next : Worker}
    {e : DriverStubImpl} (status : Bool) (hcall : d.call call = some e) (herror : R .error e)
    (hnext : R next.mState e) :
    ∃ e, d.run (attempt c a w call status next).calls = some e ∧
      R (attempt c a w call status next).worker.mState e := by
  refine ⟨e, ?_⟩
  cases status with
  | true => exact ⟨by simp [attempt, hcall], hnext⟩
  | false => exact ⟨by simp [attempt, hcall], herror⟩

theorem execExit_keeps {R : State → DriverStubImpl → Prop} (h : R w.mState d)
    (hclosed : ∀ e, R .closed e) (cookie : BitVec 32) :
    ∃ e, d.run (execExit c w cookie).calls = some e ∧ R (execExit c w cookie).worker.mState e := by
  unfold execExit
  split
  · exact ⟨{ d with mIsInitialized := false }, rfl, hclosed _⟩
  · exact ⟨d, rfl, h⟩

theorem execStandby_keeps {R : State → DriverStubImpl → Prop} (h : R w.mState d)
    (hinit : w.mState = .idle → d.mIsInitialized = true)
    (hnext : ∀ e : DriverStubImpl, e.mIsInitialized = true → e.mIsStandby = true →
      R .error e ∧ R .standby e) :
    ∃ e, d.run (execStandby c a w).calls = some e ∧ R (execStandby c a w).worker.mState e := by
  unfold execStandby
  split
  next hidle =>
    have hd := hinit hidle
    obtain ⟨herror, hstandby⟩ := hnext { d with mIsStandby := true } hd rfl
    refine ⟨{ d with mIsStandby := true }, by simp [run_append, call, hd], ?_⟩
    dsimp only
    split
    · exact hstandby
    · exact herror
  next => exact ⟨d, rfl, h⟩

theorem InSync.closed (e : DriverStubImpl) : InSync .closed e :=
  ⟨fun h => absurd rfl h, fun hs => absurd rfl hs.2.2⟩

theorem OutSync.closed (e : DriverStubImpl) : OutSync .closed e := ⟨InSync.closed e, by rintro ⟨⟩⟩

/-- Started states of an initialized driver out of standby are in sync. -/
theorem OutSync.of_started {state : State} (hs : state.Started) (hinit : d.mIsInitialized = true)
    (hrun : d.mIsStandby = false) : OutSync state d :=
  ⟨⟨fun _ => hinit, fun _ => hrun⟩, fun h => absurd h hs.1⟩

/-- A driver that is started takes every transfer. -/
theorem run_transfer (hinit : d.mIsInitialized = true) (hs : d.mIsStandby = false) (frameCount : ℕ)
    (ok : Bool) (calls : List (Call × Bool)) : d.run ((.transfer frameCount, ok) :: calls) = d.run calls := by
  simp [call, hinit, hs]

theorem run_transferMmap (hinit : d.mIsInitialized = true) (hs : d.mIsStandby = false) :
    d.run (transferMmap c a w).calls = some d := by
  unfold transferMmap
  split <;> simp [run_transfer hinit hs]

theorem run_transferCalls (hinit : d.mIsInitialized = true) (hs : d.mIsStandby = false)
    (frameCount : ℕ) : d.run (transferCalls a w frameCount) = some d := by
  unfold transferCalls
  split
  · exact run_transfer hinit hs frameCount a.transfer []
  · rfl

theorem run_transferred (hinit : d.mIsInitialized = true) (hs : d.mIsStandby = false)
    (frameCount : ℕ) : d.run (transferred c a w frameCount).calls = some d := by
  rw [transferred, run_append, run_transferCalls hinit hs, Option.bind_some, run_positionCalls]

theorem transferMmap_mState : (transferMmap c a w).worker.mState = w.mState := by
  unfold transferMmap
  split <;> rfl

/-! ### Input streams -/

theorem StreamIn.run_read (hinit : d.mIsInitialized = true) (hs : d.mIsStandby = false)
    (clientSize : ℕ) : d.run (StreamIn.read c a w clientSize).calls = some d := by
  unfold StreamIn.read
  dsimp only
  split
  · exact run_transferred hinit hs _
  · exact run_transferCalls hinit hs _

/-- A burst moves no calls but a transfer, and leaves a started state, `STANDBY` or `ERROR`. -/
theorem StreamIn.burst_sync (h : InSync w.mState d)
    (hs : w.mState ∈ [State.idle, .active, .paused, .draining]) (fmqByteCount : ℕ) :
    d.run (StreamIn.burst c a w fmqByteCount).calls = some d ∧
      InSync (StreamIn.burst c a w fmqByteCount).worker.mState d := by
  have hstarted : w.mState.Started := by
    simp only [List.mem_cons, List.not_mem_nil, or_false] at hs
    rcases hs with hs | hs | hs | hs <;> rw [hs] <;> decide
  have hrun := h.started hstarted
  have hinit := h.initialized (by rintro hc; rw [hc] at hs; simp at hs)
  constructor
  · change d.run (StreamIn.transferData c a w fmqByteCount).calls = some d
    unfold StreamIn.transferData
    split
    · exact run_transferMmap hinit hrun
    · exact StreamIn.run_read hinit hrun fmqByteCount
  · refine ⟨fun _ => hinit, fun _ => hrun⟩

theorem StreamIn.flush_sync (hinit : d.mIsInitialized = true) :
    ∃ e, d.run (StreamIn.flush c a w).calls = some e ∧
      InSync (StreamIn.flush c a w).worker.mState e := by
  unfold StreamIn.flush
  split
  · split
    · exact ⟨{ d with mIsStandby := true }, by simp [call, hinit], InSync.standby hinit⟩
    · exact ⟨{ d with mIsStandby := true }, by simp [call, hinit], InSync.error hinit⟩
  · exact ⟨d, by simp [call, hinit], InSync.error hinit⟩

/-- Every command of an input keeps the worker and its driver in sync. -/
theorem StreamIn.exec_sync (h : InSync w.mState d) (command : Command) :
    ∃ e, d.run (StreamIn.exec c a w command).calls = some e ∧
      InSync (StreamIn.exec c a w command).worker.mState e := by
  have hrefused : ∃ e, d.run (populateReplyWrongState w).calls = some e ∧
      InSync (populateReplyWrongState w).worker.mState e := ⟨d, rfl, h⟩
  cases command with
  | halReservedExit cookie => exact execExit_keeps h InSync.closed cookie
  | getStatus => exact ⟨d, run_positionCalls c a d w _, h⟩
  | start =>
    simp only [StreamIn.exec]
    split
    next hs =>
      have hinit := h.initialized (by rintro hc; simp [hc] at hs)
      have hcall : d.call .start = some { d with mIsStandby := false } := by simp [call, hinit]
      exact attempt_keeps _ hcall (InSync.error hinit) ⟨fun _ => hinit, fun _ => rfl⟩
    next => exact hrefused
  | burst fmqByteCount =>
    simp only [StreamIn.exec]
    split
    · split
      next hs => exact ⟨d, StreamIn.burst_sync h hs _⟩
      next => exact hrefused
    · exact ⟨d, rfl, h⟩
  | drain mode =>
    simp only [StreamIn.exec]
    split
    · split
      next hs =>
        have hinit := h.initialized (by simp [hs])
        have hrun := h.started (by rw [hs]; decide)
        have hcall : d.call (.drain mode) = some d := by simp [call, hinit]
        exact attempt_keeps _ hcall (InSync.error hinit) ⟨fun _ => hinit, fun _ => hrun⟩
      next => exact hrefused
    · exact ⟨d, rfl, h⟩
  | standby =>
    refine execStandby_keeps h (fun hidle => h.initialized (by simp [hidle])) fun e he _ => ?_
    exact ⟨InSync.error he, InSync.standby he⟩
  | pause =>
    simp only [StreamIn.exec]
    split
    next hs =>
      have hinit := h.initialized (by simp [hs])
      have hrun := h.started (by rw [hs]; decide)
      have hcall : d.call .pause = some d := by simp [call, hinit]
      exact attempt_keeps _ hcall (InSync.error hinit) ⟨fun _ => hinit, fun _ => hrun⟩
    next => exact hrefused
  | flush =>
    simp only [StreamIn.exec]
    split
    next hs => exact StreamIn.flush_sync (h.initialized (by simp [hs]))
    next => exact hrefused

/-! ### Output streams -/

theorem StreamOut.burstTaken_started (whole : Bool) (now : ℕ) :
    (StreamOut.burstTaken c w whole now).mState.Started := by
  unfold StreamOut.burstTaken
  split
  · exact (by decide : State.active.Started)
  · exact (by decide : State.transferring.Started)

theorem StreamOut.afterBurst_started (hs : w.mState.Started) (whole : Bool) (now : ℕ) :
    (StreamOut.afterBurst c w whole now).mState.Started := by
  unfold StreamOut.afterBurst
  split
  next => exact (by decide : State.paused.Started)
  next => exact (by decide : State.paused.Started)
  next =>
    cases c.asyncCallback
    · exact (by decide : State.paused.Started)
    · exact (by decide : State.transferPaused.Started)
  next => exact StreamOut.burstTaken_started whole now
  next => exact StreamOut.burstTaken_started whole now
  next =>
    split
    · exact StreamOut.burstTaken_started whole now
    · exact hs
  next => exact hs

theorem StreamOut.afterBurst_error (h : w.mState = .error) (whole : Bool) (now : ℕ) :
    StreamOut.afterBurst c w whole now = w := by
  unfold StreamOut.afterBurst
  rw [h]

theorem StreamOut.run_write (hinit : d.mIsInitialized = true) (hs : d.mIsStandby = false)
    (queue : List Byte) (clientSize : ℕ) :
    d.run (StreamOut.write c a w queue clientSize).calls = some d := by
  unfold StreamOut.write
  split
  · exact run_transferred hinit hs _
  · rfl

theorem StreamOut.write_mState (queue : List Byte) (clientSize : ℕ) :
    (StreamOut.write c a w queue clientSize).worker.mState = w.mState := by
  unfold StreamOut.write
  split <;> rfl

theorem StreamOut.run_transferData (hinit : d.mIsInitialized = true) (hs : d.mIsStandby = false)
    (queue : List Byte) (fmqByteCount : ℕ) :
    d.run (StreamOut.transferData c a w queue fmqByteCount).calls = some d := by
  unfold StreamOut.transferData
  split
  · exact run_transferMmap hinit hs
  · exact StreamOut.run_write hinit hs queue fmqByteCount

theorem StreamOut.transferData_mState (queue : List Byte) (fmqByteCount : ℕ) :
    (StreamOut.transferData c a w queue fmqByteCount).worker.mState = w.mState := by
  unfold StreamOut.transferData
  split
  · exact transferMmap_mState
  · exact StreamOut.write_mState queue fmqByteCount

theorem StreamOut.burst_keeps (hs : w.mState.Started) (hinit : d.mIsInitialized = true)
    (hrun : d.mIsStandby = false) (queue : List Byte) (fmqByteCount : ℕ) :
    d.run (StreamOut.burst c a w queue fmqByteCount).calls = some d ∧
      OutSync (StreamOut.burst c a w queue fmqByteCount).worker.mState d := by
  refine ⟨StreamOut.run_transferData hinit hrun queue fmqByteCount, ?_⟩
  have hstate := StreamOut.transferData_mState (c := c) (a := a) (w := w) queue fmqByteCount
  unfold StreamOut.burst
  rcases hok : (StreamOut.transferData c a w queue fmqByteCount).success with _ | _
  · simp only [hok, Bool.false_eq_true, if_false]
    rw [StreamOut.afterBurst_error rfl]
    exact OutSync.error hinit
  · simp only [hok, if_true]
    refine OutSync.of_started (StreamOut.afterBurst_started ?_ _ _) hinit hrun
    rwa [hstate]

/-- A driver in standby refuses the transfer, unless there is none because the stream is not connected. -/
theorem StreamOut.transferData_standby (hd : d.mIsStandby = true) (queue : List Byte)
    (fmqByteCount : ℕ) :
    d.run (StreamOut.transferData c a w queue fmqByteCount).calls = none ∨
      d.run (StreamOut.transferData c a w queue fmqByteCount).calls = some d ∧
        (StreamOut.transferData c a w queue fmqByteCount).success = true := by
  have hrefused : ∀ frameCount ok calls, d.run ((.transfer frameCount, ok) :: calls) = none := by
    intro frameCount ok calls
    simp [call, hd]
  unfold StreamOut.transferData
  split
  · left
    unfold transferMmap
    split <;> exact hrefused _ _ _
  · unfold StreamOut.write
    split
    · rcases hcon : w.mIsConnected with _ | _
      · right
        simp [transferred, transferCalls, transferFatal, hcon]
      · left
        simp only [transferred, transferCalls, hcon, if_true, List.cons_append, List.nil_append]
        exact hrefused _ _ _
    · exact Or.inr ⟨rfl, rfl⟩

/-- A burst in `STANDBY` does not stay in sync: the driver refuses the transfer, or there is none and the
    worker is `PAUSED` over a driver in standby. -/
theorem StreamOut.burst_standby (hw : w.mState = .standby) (hd : d.mIsStandby = true)
    (queue : List Byte) (fmqByteCount : ℕ) {e : DriverStubImpl}
    (hcalls : d.run (StreamOut.burst c a w queue fmqByteCount).calls = some e) :
    ¬ InSync (StreamOut.burst c a w queue fmqByteCount).worker.mState e := by
  have hstate := StreamOut.transferData_mState (c := c) (a := a) (w := w) queue fmqByteCount
  have hsame : d.run (StreamOut.transferData c a w queue fmqByteCount).calls = some e := hcalls
  rcases StreamOut.transferData_standby (c := c) (a := a) (w := w) hd queue fmqByteCount with
    hnone | ⟨hd', hok⟩
  · exact absurd (hsame.symm.trans hnone) (Option.some_ne_none e)
  · obtain rfl : d = e := Option.some.inj (hd'.symm.trans hsame)
    intro hsync
    have hpaused : (StreamOut.burst c a w queue fmqByteCount).worker.mState = .paused := by
      unfold StreamOut.burst
      simp only [hok, if_true]
      unfold StreamOut.afterBurst
      rw [hstate, hw]
    rw [hpaused] at hsync
    have hrun := hsync.started (by decide)
    rw [hd] at hrun
    exact absurd hrun (by decide)

theorem StreamOut.startedAs_mState (nextState : State) :
    (StreamOut.startedAs a w nextState).mState = nextState := by
  unfold StreamOut.startedAs
  split <;> rfl

theorem StreamOut.startNext_started {state nextState : State}
    (h : StreamOut.startNext state = some nextState) : nextState.Started := by
  cases state <;> cases h <;> decide

theorem StreamOut.pauseNext_started {state nextState : State}
    (h : StreamOut.pauseNext state = some nextState) : state.Started ∧ nextState.Started := by
  cases state <;> cases h <;> decide

/-- Every command of an output keeps the worker and its driver in sync, bursts in `STANDBY` apart. -/
theorem StreamOut.exec_keeps (h : OutSync w.mState d) (hopen : w.mState ≠ .closed) (queue : List Byte)
    {command : Command}
    (hburst : ∀ fmqByteCount, command = .burst fmqByteCount → 0 ≤ fmqByteCount → w.mState ≠ .standby) :
    ∃ e, d.run (StreamOut.exec c a w queue command).calls = some e ∧
      OutSync (StreamOut.exec c a w queue command).worker.mState e := by
  have hinit := h.initialized hopen
  have hrefused : ∃ e, d.run (populateReplyWrongState w).calls = some e ∧
      OutSync (populateReplyWrongState w).worker.mState e := ⟨d, rfl, h⟩
  cases command with
  | halReservedExit cookie => exact execExit_keeps h OutSync.closed cookie
  | getStatus => exact ⟨d, run_positionCalls c a d w _, h⟩
  | start =>
    simp only [StreamOut.exec]
    split
    next nextState hnext =>
      have hcall : d.call .start = some { d with mIsStandby := false } := by simp [call, hinit]
      refine attempt_keeps _ hcall (OutSync.error hinit) (OutSync.of_started ?_ hinit rfl)
      rw [StreamOut.startedAs_mState]
      exact StreamOut.startNext_started hnext
    next => exact hrefused
  | burst fmqByteCount =>
    simp only [StreamOut.exec]
    split
    next hn =>
      split
      next hs =>
        have hstarted : w.mState.Started := ⟨hburst _ rfl hn, hs.1, hopen⟩
        exact ⟨d, StreamOut.burst_keeps hstarted hinit (h.started hstarted) queue _⟩
      next => exact hrefused
    next => exact ⟨d, rfl, h⟩
  | drain mode =>
    simp only [StreamOut.exec]
    split
    · split
      next hs =>
        have hrun := h.started (by rcases hs with hs | hs <;> rw [hs] <;> decide)
        have hcall : d.call (.drain mode) = some d := by simp [call, hinit]
        refine attempt_keeps _ hcall (OutSync.error hinit) (OutSync.of_started ?_ hinit hrun)
        unfold StreamOut.drained
        split
        · exact (by decide : State.idle.Started)
        · exact (by decide : State.draining.Started)
      next =>
        split
        next hs =>
          have hrun := h.started (by rw [hs]; decide)
          have hpaused : State.drainPaused.Started := by decide
          exact ⟨d, run_positionCalls c a d w _, OutSync.of_started hpaused hinit hrun⟩
        next => exact hrefused
    · exact ⟨d, rfl, h⟩
  | standby =>
    refine execStandby_keeps h (fun _ => hinit) fun e he hstandby => ?_
    exact ⟨OutSync.error he, ⟨InSync.standby he, fun _ => hstandby⟩⟩
  | pause =>
    simp only [StreamOut.exec]
    split
    next nextState hnext =>
      obtain ⟨hstarted, hpaused⟩ := StreamOut.pauseNext_started hnext
      have hcall : d.call .pause = some d := by simp [call, hinit]
      exact attempt_keeps _ hcall (OutSync.error hinit)
        (OutSync.of_started hpaused hinit (h.started hstarted))
    next => exact hrefused
  | flush =>
    simp only [StreamOut.exec]
    split
    next hs =>
      have hrun := h.started (by rcases hs with hs | hs | hs <;> rw [hs] <;> decide)
      have hcall : d.call .flush = some d := by simp [call, hinit]
      have hidle : State.idle.Started := by decide
      exact attempt_keeps _ hcall (OutSync.error hinit) (OutSync.of_started hidle hinit hrun)
    next => exact hrefused

/-! ### Runs -/

theorem attempt_mState (call : Call) (status : Bool) (next : Worker) :
    (attempt c a w call status next).worker.mState = next.mState ∨
      (attempt c a w call status next).worker.mState = .error := by
  cases status
  · exact Or.inr rfl
  · exact Or.inl rfl

end Commands

section Runs
variable {c : StreamContext}

/-- The stub's state after all calls of the stream so far, from `init` on. -/
def Stream.driver (s : Stream) : Option DriverStubImpl := (DriverStubImpl.init {}).run s.calls

/-- The driver has refused nothing, and while the worker runs it is where the worker's state says. -/
def Stream.Checked (s : Stream) : Prop :=
  ∃ d, s.driver = some d ∧ (s.running = true → InSync s.worker.mState d)

theorem carryOut_driver {d : Direction} {s : Stream} {o : Outcome} {e : DriverStubImpl}
    (he : s.driver = some e) : (Stream.carryOut d s o).driver = e.run o.calls := by
  unfold Stream.driver at he ⊢
  rw [Stream.carryOut, run_append, he, Option.bind_some]

/-- A cycle of either direction: the driver runs through the command's calls, and the worker goes on from
    the command's outcome unless it stops. -/
theorem cycle_driver (d : Direction) {s : Stream} (command : Command) (a : Answers) (replied : Bool)
    {e : DriverStubImpl} (he : s.driver = some e) :
    (Stream.cycle d c s (some command) a replied).driver =
        e.run (exec c a d s.worker s.queue command).calls ∧
      ((Stream.cycle d c s (some command) a replied).running = true →
        (Stream.cycle d c s (some command) a replied).worker =
            (exec c a d s.worker s.queue command).worker ∧
          earlyReturn c command ≠ some .exit) := by
  have hd := carryOut_driver (d := d) (o := exec c a d s.worker s.queue command) he
  unfold Stream.cycle
  dsimp only
  cases hret : earlyReturn c command with
  | some status =>
    refine ⟨hd, fun hrun => ⟨rfl, ?_⟩⟩
    rintro ⟨⟩
    exact absurd hrun (by simp)
  | none =>
    dsimp only
    split
    · exact ⟨hd, fun _ => ⟨rfl, by simp⟩⟩
    · exact ⟨hd, fun hrun => absurd hrun (by simp [Stream.abort])⟩

/-- A burst is not sent to an output in `STANDBY`, and no drained clip ends while the driver is in standby. -/
def Careful (s : Stream) : Event → Prop
  | .command (some (.burst fmqByteCount)) _ _ =>
    s.running = true → 0 ≤ fmqByteCount → s.worker.mState ≠ .standby
  | .onClipStateChange clipFramesLeft _ =>
    s.running = true → clipFramesLeft = 0 → s.worker.mDrainState ≠ .none →
      s.driver.map mIsStandby = some false
  | _ => True

/-- A running output is not closed, and a driver that has refused nothing is in sync with it. -/
def OutInv (s : Stream) : Prop :=
  ∃ d, s.driver = some d ∧ (s.running = true → OutSync s.worker.mState d ∧ s.worker.mState ≠ .closed)

theorem OutInv.checked {s : Stream} (h : OutInv s) : s.Checked := by
  obtain ⟨d, hd, hsync⟩ := h
  exact ⟨d, hd, fun hrun => (hsync hrun).1.toInSync⟩

theorem StreamOut.afterBurst_ne_closed {w : Worker} (h : w.mState ≠ .closed) (whole : Bool) (now : ℕ) :
    (StreamOut.afterBurst c w whole now).mState ≠ .closed := by
  unfold StreamOut.afterBurst
  split
  next => simp
  next => simp
  next => cases c.asyncCallback <;> simp
  next => exact (StreamOut.burstTaken_started whole now).2.2
  next => exact (StreamOut.burstTaken_started whole now).2.2
  next =>
    split
    · exact (StreamOut.burstTaken_started whole now).2.2
    · exact h
  next => exact h

/-- Only the exit command with the right cookie closes the worker. -/
theorem StreamOut.exec_ne_closed {a : Answers} {w : Worker} {queue : List Byte} {command : Command}
    (hopen : w.mState ≠ .closed) (hexit : command ≠ .halReservedExit c.exitCookie) :
    (StreamOut.exec c a w queue command).worker.mState ≠ .closed := by
  have hattempt : ∀ call status next, next.mState ≠ State.closed →
      (attempt c a w call status next).worker.mState ≠ .closed := by
    intro call status next hnext
    rcases attempt_mState call status next with h | h <;> rw [h]
    · exact hnext
    · decide
  cases command with
  | halReservedExit cookie =>
    have hne : cookie ≠ c.exitCookie := fun h => hexit (by rw [h])
    rw [StreamOut.exec, execExit, if_neg hne]
    exact hopen
  | getStatus => exact hopen
  | start =>
    simp only [StreamOut.exec]
    split
    next nextState hnext =>
      refine hattempt _ _ _ ?_
      rw [StreamOut.startedAs_mState]
      exact (StreamOut.startNext_started hnext).2.2
    next => exact hopen
  | burst fmqByteCount =>
    have hstate := StreamOut.transferData_mState (c := c) (a := a) (w := w) queue fmqByteCount.toNat
    simp only [StreamOut.exec]
    split
    · split
      · refine StreamOut.afterBurst_ne_closed ?_ _ _
        split
        · rwa [hstate]
        · simp
      · exact hopen
    · exact hopen
  | drain mode =>
    simp only [StreamOut.exec]
    split
    · split
      · refine hattempt _ _ _ ?_
        unfold StreamOut.drained
        split <;> simp [Worker.switchToTransientState]
      · split
        · simp
        · exact hopen
    · exact hopen
  | standby =>
    simp only [StreamOut.exec, execStandby]
    split
    · cases a.standby <;> simp
    · exact hopen
  | pause =>
    simp only [StreamOut.exec]
    split
    next nextState hnext => exact hattempt _ _ _ (StreamOut.pauseNext_started hnext).2.2.2
    next => exact hopen
  | flush =>
    simp only [StreamOut.exec]
    split
    · exact hattempt _ _ _ (by simp)
    · exact hopen

/-- The worker stops at the exit command when its cookie is not 0. -/
theorem ne_exit_of_continue (hcookie : c.exitCookie ≠ 0) {command : Command}
    (h : earlyReturn c command ≠ some .exit) : command ≠ .halReservedExit c.exitCookie := by
  rintro rfl
  apply h
  rw [earlyReturn, if_pos hcookie, if_pos rfl]

theorem output_command_keeps (hcookie : c.exitCookie ≠ 0) {s : Stream} {command : Command} {a : Answers}
    {replied : Bool} (h : OutInv s) (hrun : s.running = true)
    (hburst : ∀ fmqByteCount, command = .burst fmqByteCount → 0 ≤ fmqByteCount →
      s.worker.mState ≠ .standby) :
    OutInv (Stream.cycle .output c s (some command) a replied) := by
  obtain ⟨d, hd, hsync⟩ := h
  obtain ⟨hout, hopen⟩ := hsync hrun
  obtain ⟨hcalls, hgoes⟩ := cycle_driver (c := c) .output command a replied hd
  obtain ⟨e, he, hsync'⟩ :=
    StreamOut.exec_keeps (c := c) (a := a) hout hopen s.queue hburst
  refine ⟨e, hcalls.trans he, fun hrun' => ?_⟩
  obtain ⟨hworker, hexit⟩ := hgoes hrun'
  rw [hworker]
  exact ⟨hsync', StreamOut.exec_ne_closed hopen (ne_exit_of_continue hcookie hexit)⟩

/-- A step that takes an accepted burst in `STANDBY` is not checked, unless the stream stops there. -/
theorem burst_standby_unchecked {s : Stream} {fmqByteCount : ℤ} {a : Answers} (h : OutInv s)
    (hrun : s.running = true) (hn : 0 ≤ fmqByteCount) (hw : s.worker.mState = .standby) :
    ¬ (Stream.cycle .output c s (some (.burst fmqByteCount)) a true).Checked := by
  obtain ⟨d, hd, hsync⟩ := h
  rintro ⟨e, he, hsync'⟩
  have hd' := (hsync hrun).1.standby hw
  obtain ⟨hcalls, hgoes⟩ := cycle_driver (c := c) .output (.burst fmqByteCount) a true hd
  have hburst : exec c a .output s.worker s.queue (.burst fmqByteCount) =
      StreamOut.burst c a s.worker s.queue fmqByteCount.toNat := by
    simp [exec, StreamOut.exec, hn, hw]
  have hrun' : (Stream.cycle .output c s (some (.burst fmqByteCount)) a true).running = true := hrun
  rw [hburst] at hcalls
  have hsync' := hsync' hrun'
  rw [(hgoes hrun').1, hburst] at hsync'
  exact StreamOut.burst_standby hw hd' s.queue _ (hcalls.symm.trans he) hsync'

/-- In which states a clip end of a pending drain leaves an output. -/
theorem onClipStateChange_end {w : Worker} (hpending : w.mDrainState ≠ .none) (hasNextClip : Bool) :
    (StreamOut.onClipStateChange c w 0 hasNextClip).1.mState.Started := by
  cases hasNextClip
  · simpa [StreamOut.onClipStateChange, hpending] using (by decide : State.idle.Started)
  · simpa [StreamOut.onClipStateChange, hpending] using (by decide : State.transferring.Started)

theorem onClipStateChange_mState {w : Worker} {clipFramesLeft : ℕ} (hasNextClip : Bool)
    (h : ¬ (w.mDrainState ≠ .none ∧ clipFramesLeft = 0)) :
    (StreamOut.onClipStateChange c w clipFramesLeft hasNextClip).1.mState = w.mState := by
  unfold StreamOut.onClipStateChange
  rw [if_neg h]
  split <;> rfl

/-- The timeout and the callbacks move a started worker to a started state. -/
theorem OutInv.worker {s : Stream} {w : Worker} (h : OutInv s)
    (hmove : ∀ d, s.driver = some d → OutSync s.worker.mState d → s.worker.mState ≠ .closed →
      w.mState = s.worker.mState ∨ s.worker.mState.Started ∧ w.mState.Started) :
    OutInv { s with worker := w } := by
  obtain ⟨d, hd, hsync⟩ := h
  refine ⟨d, hd, fun hrun => ?_⟩
  obtain ⟨hout, hopen⟩ := hsync hrun
  rcases hmove d hd hout hopen with hsame | ⟨hs, hs'⟩
  · rw [hsame]
    exact ⟨hout, hopen⟩
  · exact ⟨OutSync.of_started hs' (hout.initialized hopen) (hout.started hs), hs'.2.2⟩

theorem timeout_moves (w : Worker) (now : ℕ) : (StreamOut.timeout c w now).mState = w.mState ∨
    w.mState.Started ∧ (StreamOut.timeout c w now).mState.Started := by
  unfold StreamOut.timeout
  split
  next h => exact Or.inr ⟨by rw [h.1]; decide, (by decide : State.idle.Started)⟩
  next => exact Or.inl rfl

theorem onBufferStateChange_moves (w : Worker) :
    (StreamOut.onBufferStateChange c w).1.mState = w.mState ∨
      w.mState.Started ∧ (StreamOut.onBufferStateChange c w).1.mState.Started := by
  unfold StreamOut.onBufferStateChange
  split
  · by_cases hw : w.mState = .transferring
    · right
      simp only [hw, if_true]
      exact ⟨by decide, (by decide : State.active.Started)⟩
    · left
      simp [hw]
  · exact Or.inl rfl

/-- A careful step of an output keeps the invariant. -/
theorem output_step_keeps (hcookie : c.exitCookie ≠ 0) {s : Stream} {e : Event} (h : OutInv s)
    (hc : Careful s e) : OutInv (Stream.step .output c s e) := by
  cases e with
  | timeout now =>
    simp only [Stream.step]
    split
    · exact h.worker fun _ _ _ _ => timeout_moves s.worker now
    · exact h
  | command command a replied =>
    simp only [Stream.step]
    split
    next hrun =>
      cases command with
      | none =>
        obtain ⟨d, hd, -⟩ := h
        exact ⟨d, hd, fun h => absurd h (by simp [Stream.cycle, Stream.abort])⟩
      | some command =>
        refine output_command_keeps hcookie h hrun ?_
        rintro fmqByteCount rfl hn
        exact hc hrun hn
    next => exact h
  | onBufferStateChange =>
    have hmoves := onBufferStateChange_moves (c := c) s.worker
    exact h.worker (w := (StreamOut.onBufferStateChange c s.worker).1) fun _ _ _ _ => hmoves
  | onClipStateChange clipFramesLeft hasNextClip =>
    by_cases hend : s.worker.mDrainState ≠ .none ∧ clipFramesLeft = 0
    · obtain ⟨d, hd, hsync⟩ := h
      refine ⟨d, hd, fun hrun => ?_⟩
      have hrun : s.running = true := hrun
      obtain ⟨hout, hopen⟩ := hsync hrun
      have hdriver := hc hrun hend.2 hend.1
      rw [hd, Option.map_some, Option.some.injEq] at hdriver
      obtain ⟨hpending, rfl⟩ := hend
      have hs := onClipStateChange_end (c := c) hpending hasNextClip
      exact ⟨OutSync.of_started hs (hout.initialized hopen) hdriver, hs.2.2⟩
    · have hsame := onClipStateChange_mState (c := c) hasNextClip hend
      exact h.worker (w := (StreamOut.onClipStateChange c s.worker clipFramesLeft hasNextClip).1)
        fun _ _ _ _ => Or.inl hsame
  | setIsConnected connected => exact h.worker fun _ _ _ _ => Or.inl rfl
  | setClosed =>
    simp only [Stream.step]
    split
    next => exact h
    next hstop =>
      obtain ⟨d, hd, -⟩ := h
      exact ⟨d, hd, fun hrun => absurd hrun hstop⟩
  | clientWrite bytes => exact h
  | clientRead count => exact h

/-- A step that is not careful leaves the stream unchecked. -/
theorem careful_of_checked {s : Stream} {e : Event} (h : OutInv s)
    (hreplied : ∀ command a replied, e = .command command a replied → replied = true)
    (hchecked : (Stream.step .output c s e).Checked) : Careful s e := by
  cases e with
  | command command a replied =>
    cases hreplied _ _ _ rfl
    cases command with
    | none => trivial
    | some command =>
      cases command with
      | burst fmqByteCount =>
        intro hrun hn hw
        simp only [Stream.step, hrun, if_true] at hchecked
        exact burst_standby_unchecked h hrun hn hw hchecked
      | _ => trivial
  | onClipStateChange clipFramesLeft hasNextClip =>
    rintro hrun rfl hpending
    obtain ⟨d, hd, hsync⟩ := hchecked
    have hd : s.driver = some d := hd
    have hs := (hsync hrun).started (onClipStateChange_end hpending hasNextClip)
    rw [hd, Option.map_some, hs]
  | _ => trivial

/-- A stereo output of 16-bit samples. -/
def stereoOutput : StreamContext where
  frameSize := 4
  nominalLatencyMs := 10
  isMmap := false
  asyncCallback := false
  transientStateDelayMs := 0
  forceTransientBurst := false
  forceSynchronousDrain := false
  internalCommandCookie := 5
  tid := 2
  dataBufferSize := 64

end Runs

end ImxHal.Audio.Streaming
