import ImxHal.Audio.Stream

/-! @src audio/default/Stream.cpp | name:drain notices | scheme:run | family:audio

    The client of an asynchronous output is told when a drain is over: once for a full drain, twice for one
    with an early notice. What is still owed is kept in `mDrainState`, and a clip end settles it:

        drain ALL    NONE ──▶ ALL ──────────────────clip end───▶ NONE       1 notice
        drain EN     NONE ──▶ EN ──clip > 0──▶ EN_SENT ──clip end──▶ NONE   2 notices
                              └───────clip end───────────────────▶ NONE     none: both are lost -/

namespace ImxHal.Audio.Streaming

/-- The notices a drain asks for. -/
def DrainMode.notices : DrainMode → ℕ
  | .earlyNotify => 2
  | _ => 1

/-- The notices still to come. -/
def DrainState.pending : DrainState → ℕ
  | .none => 0
  | .all => 1
  | .en => 2
  | .enSent => 1

/-- The notices that the client has got or will get. -/
def Stream.drainReady (s : Stream) : ℕ :=
  s.notices.count .drainReady + s.worker.mDrainState.pending

section Notices
variable {c : StreamContext}

/-- A drain is accepted when its reply says so. -/
def DrainAccepted (c : StreamContext) (s : Stream) (a : Answers) (mode : DrainMode) : Prop :=
  s.running = true ∧ (StreamOut.exec c a s.worker s.queue (.drain mode)).reply.status = .ok

instance (s : Stream) (a : Answers) (mode : DrainMode) : Decidable (DrainAccepted c s a mode) :=
  inferInstanceAs (Decidable (_ ∧ _))

/-- The notices that a step makes the stream owe its client. -/
def owed (c : StreamContext) (s : Stream) : Event → ℕ
  | .command (some (.drain mode)) a _ => if DrainAccepted c s a mode then mode.notices else 0
  | _ => 0

/-- A drain is accepted in `ACTIVE` or `TRANSFERRING` with nothing owed and is not cut short, and a clip with
    an early notice does not end before that notice. -/
def Settled (c : StreamContext) (s : Stream) : Event → Prop
  | .command (some (.drain mode)) a _ => DrainAccepted c s a mode →
      s.worker.mDrainState = .none ∧ s.worker.mState ≠ .transferPaused ∧
        ¬ (s.worker.mState = .active ∧ c.forceSynchronousDrain = true)
  | .onClipStateChange clipFramesLeft _ => clipFramesLeft = 0 → s.worker.mDrainState ≠ .en
  | _ => True

@[simp] theorem populateReply_status (a : Answers) (w : Worker) (isConnected : Bool) (reply : Reply) :
    (populateReply c a w isConnected reply).status = .ok := by
  unfold populateReply
  cases isConnected <;> cases c.isMmap <;> cases a.mmapPosition <;> rfl

@[simp] theorem setClosed_mDrainState (w : Worker) : w.setClosed.mDrainState = w.mDrainState := rfl

@[simp] theorem switchToTransientState_mDrainState (w : Worker) (state : State) (now : ℕ) :
    (w.switchToTransientState state now).mDrainState = w.mDrainState := rfl

theorem attempt_mDrainState {a : Answers} {w next : Worker} (call : Call) (status : Bool)
    (h : next.mDrainState = w.mDrainState) :
    (attempt c a w call status next).worker.mDrainState = w.mDrainState := by
  cases status
  · rfl
  · exact h

theorem transferData_mDrainState (a : Answers) (w : Worker) (queue : List Byte) (fmqByteCount : ℕ) :
    (StreamOut.transferData c a w queue fmqByteCount).worker.mDrainState = w.mDrainState := by
  unfold StreamOut.transferData transferMmap StreamOut.write
  split <;> split <;> rfl

theorem afterBurst_mDrainState (w : Worker) (whole : Bool) (now : ℕ) :
    (StreamOut.afterBurst c w whole now).mDrainState = w.mDrainState := by
  have htaken : (StreamOut.burstTaken c w whole now).mDrainState = w.mDrainState := by
    unfold StreamOut.burstTaken
    split <;> rfl
  unfold StreamOut.afterBurst
  split
  next => rfl
  next => rfl
  next => rfl
  next => exact htaken
  next => exact htaken
  next =>
    split
    · exact htaken
    · rfl
  next => rfl

/-- Only a drain changes what is owed. -/
theorem exec_mDrainState (a : Answers) (w : Worker) (queue : List Byte) {command : Command}
    (h : ∀ mode, command ≠ .drain mode) :
    (StreamOut.exec c a w queue command).worker.mDrainState = w.mDrainState := by
  cases command with
  | halReservedExit cookie =>
    simp only [StreamOut.exec, execExit]
    split <;> rfl
  | getStatus => rfl
  | start =>
    simp only [StreamOut.exec]
    split
    · refine attempt_mDrainState _ _ ?_
      unfold StreamOut.startedAs
      split <;> rfl
    · rfl
  | burst fmqByteCount =>
    simp only [StreamOut.exec]
    split
    · split
      · unfold StreamOut.burst
        dsimp only
        rw [afterBurst_mDrainState]
        split
        · exact transferData_mDrainState a w queue _
        · exact transferData_mDrainState a w queue _
      · rfl
    · rfl
  | drain mode => exact absurd rfl (h mode)
  | standby =>
    simp only [StreamOut.exec, execStandby]
    split <;> rfl
  | pause =>
    simp only [StreamOut.exec]
    split
    · exact attempt_mDrainState _ _ rfl
    · rfl
  | flush =>
    simp only [StreamOut.exec]
    split
    · exact attempt_mDrainState _ _ rfl
    · rfl

/-- What a drain does to what is owed: it is accepted in `ACTIVE` and `TRANSFERRING` if the driver takes it,
    and in `TRANSFER_PAUSED`, where nothing is noted. -/
theorem exec_drain (a : Answers) (w : Worker) (queue : List Byte) (mode : DrainMode) :
    ((StreamOut.exec c a w queue (.drain mode)).reply.status ≠ .ok ∧
        (StreamOut.exec c a w queue (.drain mode)).worker.mDrainState = w.mDrainState) ∨
      (StreamOut.exec c a w queue (.drain mode)).reply.status = .ok ∧ mode ≠ .unspecified ∧
        ((w.mState = .transferPaused ∨ w.mState = .active ∧ c.forceSynchronousDrain = true) ∧
            (StreamOut.exec c a w queue (.drain mode)).worker.mDrainState = w.mDrainState ∨
          w.mState ≠ .transferPaused ∧ ¬ (w.mState = .active ∧ c.forceSynchronousDrain = true) ∧
            (StreamOut.exec c a w queue (.drain mode)).worker.mDrainState =
              if mode = .earlyNotify then .en else .all) := by
  simp only [StreamOut.exec]
  split
  next hmode =>
    split
    next hs =>
      cases hdrain : a.drain with
      | false => exact Or.inl ⟨by simp [attempt], rfl⟩
      | true =>
        refine Or.inr ⟨by simp [attempt], hmode, ?_⟩
        by_cases hforce : w.mState = .active ∧ c.forceSynchronousDrain = true
        · refine Or.inl ⟨Or.inr hforce, ?_⟩
          simp [attempt, StreamOut.drained, hforce]
        · refine Or.inr ⟨by rcases hs with hs | hs <;> simp [hs], hforce, ?_⟩
          simp [attempt, StreamOut.drained, hforce]
    next =>
      split
      next hs => exact Or.inr ⟨by simp [execGetStatus], hmode, Or.inl ⟨Or.inl hs, rfl⟩⟩
      next => exact Or.inl ⟨by simp [populateReplyWrongState], rfl⟩
  next => exact Or.inl ⟨by simp [badValue], rfl⟩

theorem notices_pos (mode : DrainMode) : 0 < mode.notices := by cases mode <;> decide

theorem cycle_notices (s : Stream) (command : Option Command) (a : Answers) (replied : Bool) :
    (Stream.cycle .output c s command a replied).notices = s.notices := by
  unfold Stream.cycle
  cases command with
  | none => rfl
  | some command =>
    dsimp only
    split
    · rfl
    · split <;> rfl

/-- Stopping the worker changes nothing of what is owed. -/
theorem cycle_mDrainState (s : Stream) (command : Command) (a : Answers) (replied : Bool) :
    (Stream.cycle .output c s (some command) a replied).worker.mDrainState =
      (StreamOut.exec c a s.worker s.queue command).worker.mDrainState := by
  unfold Stream.cycle
  dsimp only
  split
  · rfl
  · split <;> rfl

theorem timeout_mDrainState (w : Worker) (now : ℕ) :
    (StreamOut.timeout c w now).mDrainState = w.mDrainState := by
  unfold StreamOut.timeout
  split <;> rfl

theorem drainReady_of {s t : Stream} (hn : t.notices = s.notices)
    (hw : t.worker.mDrainState = s.worker.mDrainState) : t.drainReady = s.drainReady + 0 := by
  rw [Stream.drainReady, Stream.drainReady, hn, hw, Nat.add_zero]

theorem pending_eq_zero {d : DrainState} : d.pending = 0 ↔ d = .none := by cases d <;> decide

theorem pending_drain {mode : DrainMode} (h : mode ≠ .unspecified) :
    DrainState.pending (if mode = .earlyNotify then .en else .all) = mode.notices := by
  cases mode with
  | unspecified => exact absurd rfl h
  | all => rfl
  | earlyNotify => rfl

theorem drain_owed_iff {s t : Stream} {a : Answers} {mode : DrainMode} {replied : Bool}
    (hrun : s.running = true) (hn : t.notices = s.notices)
    (hw : t.worker.mDrainState =
      (StreamOut.exec c a s.worker s.queue (.drain mode)).worker.mDrainState) :
    t.drainReady = s.drainReady + owed c s (.command (some (.drain mode)) a replied) ↔
      Settled c s (.command (some (.drain mode)) a replied) := by
  simp only [Stream.drainReady, owed, Settled]
  rw [hn, hw]
  rcases exec_drain (c := c) a s.worker s.queue mode with
    ⟨hrefused, hsame⟩ | ⟨hok, hmode, ⟨hstate, hsame⟩ | ⟨hpaused, hforce, hnoted⟩⟩
  · have hnot : ¬ DrainAccepted c s a mode := fun h => hrefused h.2
    rw [hsame, if_neg hnot]
    exact iff_of_true rfl fun h => absurd h hnot
  · have hacc : DrainAccepted c s a mode := ⟨hrun, hok⟩
    rw [hsame, if_pos hacc]
    have hpos := notices_pos mode
    refine iff_of_false (by omega) fun h => ?_
    obtain ⟨-, hpaused, hforce⟩ := h hacc
    exact hstate.elim hpaused hforce
  · have hacc : DrainAccepted c s a mode := ⟨hrun, hok⟩
    rw [hnoted, if_pos hacc, pending_drain hmode]
    constructor
    · intro h _
      exact ⟨pending_eq_zero.mp (by omega), hpaused, hforce⟩
    · intro h
      rw [(h hacc).1]
      rfl

theorem clip_owed_iff (hasync : c.asyncCallback = true) (s : Stream) (clipFramesLeft : ℕ)
    (hasNextClip : Bool) :
    (Stream.step .output c s (.onClipStateChange clipFramesLeft hasNextClip)).drainReady =
        s.drainReady + owed c s (.onClipStateChange clipFramesLeft hasNextClip) ↔
      Settled c s (.onClipStateChange clipFramesLeft hasNextClip) := by
  simp only [Stream.step, if_true, Stream.drainReady, owed, Settled, StreamOut.onClipStateChange,
    hasync, List.count_append]
  rcases hleft : clipFramesLeft with _ | left
  · cases hd : s.worker.mDrainState <;> simp [DrainState.pending, hd]
  · cases hd : s.worker.mDrainState <;> simp [DrainState.pending, hd]

theorem step_owed_iff (hasync : c.asyncCallback = true) (s : Stream) (e : Event) :
    (Stream.step .output c s e).drainReady = s.drainReady + owed c s e ↔ Settled c s e := by
  cases e with
  | timeout now =>
    refine iff_of_true ?_ trivial
    simp only [Stream.step]
    split
    · exact drainReady_of rfl (timeout_mDrainState s.worker now)
    · rfl
  | command command a replied =>
    simp only [Stream.step]
    split
    next hrun =>
      cases command with
      | none => exact iff_of_true (drainReady_of rfl rfl) trivial
      | some command =>
        have hn := cycle_notices (c := c) s (some command) a replied
        have hw := cycle_mDrainState (c := c) s command a replied
        cases command with
        | drain mode => exact drain_owed_iff hrun hn hw
        | _ => exact iff_of_true (drainReady_of hn (hw.trans (exec_mDrainState a _ _ (by simp)))) trivial
    next hstop =>
      cases command with
      | none => exact iff_of_true rfl trivial
      | some command =>
        cases command with
        | drain mode =>
          have hnot : ¬ DrainAccepted c s a mode := fun h => hstop h.1
          exact iff_of_true (by simp [owed, hnot]) fun h => absurd h hnot
        | _ => exact iff_of_true rfl trivial
  | onBufferStateChange =>
    refine iff_of_true ?_ trivial
    simp only [Stream.step, if_true, Stream.drainReady, owed, StreamOut.onBufferStateChange, hasync]
    by_cases hsent : s.worker.mState = .transferring ∨ s.worker.mDrainState = .enSent
    · simp only [hsent, if_true, List.count_append]
      split <;> rfl
    · simp only [hsent, if_false, List.append_nil, Nat.add_zero]
  | onClipStateChange clipFramesLeft hasNextClip => exact clip_owed_iff hasync s clipFramesLeft hasNextClip
  | setIsConnected connected => exact iff_of_true rfl trivial
  | setClosed =>
    refine iff_of_true ?_ trivial
    simp only [Stream.step]
    split <;> rfl
  | clientWrite bytes => exact iff_of_true rfl trivial
  | clientRead count => exact iff_of_true rfl trivial

/-- An output whose data is played by a signal processor. -/
def offloadOutput : StreamContext where
  frameSize := 1
  nominalLatencyMs := 100
  isMmap := false
  asyncCallback := true
  transientStateDelayMs := 0
  forceTransientBurst := false
  forceSynchronousDrain := false
  internalCommandCookie := 5
  tid := 2
  dataBufferSize := 4096

/-- Every drain that an asynchronous output accepts is told to its client as often as it asks for, with
    what is still owed counted in, exactly as long as every drain and every clip end is settled. -/
theorem drain_notices_settled_iff (c : StreamContext) (hasync : c.asyncCallback = true)
    (es : List Event) :
    (∀ seen, seen <+: es → (Run.run (Stream.step .output c) {} seen).drainReady =
        Run.total (Stream.step .output c) (owed c) {} seen) ↔
      Run.Meets (Stream.step .output c) (Settled c) {} es := by
  have hbalance := Run.balance_iff_meets (fun s e => step_owed_iff hasync s e) es ({} : Stream)
  have hzero : ({} : Stream).drainReady = 0 := rfl
  simpa only [hzero, Nat.zero_add] using hbalance

/-- An early-notified drain of a short clip. -/
def earlyDrain : List Event :=
  [.command (some .start) {} true, .command (some (.burst 0)) {} true,
    .command (some (.drain .earlyNotify)) {} true, .onClipStateChange 9 false, .onClipStateChange 0 false]

theorem drain_notices_settled_early :
    (Run.run (Stream.step .output offloadOutput) {} earlyDrain).drainReady =
      Run.total (Stream.step .output offloadOutput) (owed offloadOutput) {} earlyDrain :=
  (drain_notices_settled_iff offloadOutput rfl earlyDrain).mpr
    ⟨trivial, trivial, fun _ => by decide, fun h => absurd h (by decide), fun _ => by decide, trivial⟩
    _ (List.prefix_refl _)

/-! ### Drains that end -/

/-- The end of the clip takes the output out of `DRAINING` and `DRAIN_PAUSED`. -/
def CanFinish (c : StreamContext) (w : Worker) : Prop :=
  ∀ hasNextClip, (StreamOut.onClipStateChange c w 0 hasNextClip).1.mState ≠ .draining ∧
    (StreamOut.onClipStateChange c w 0 hasNextClip).1.mState ≠ .drainPaused

theorem canFinish_iff {w : Worker} :
    CanFinish c w ↔ (w.mState = .draining ∨ w.mState = .drainPaused → w.mDrainState ≠ .none) := by
  constructor
  · intro h hs hnone
    obtain ⟨hdrain, hpaused⟩ := h false
    simp only [StreamOut.onClipStateChange, hnone, ne_eq, not_true_eq_false, false_and, if_false,
      reduceCtorEq] at hdrain hpaused
    exact hs.elim hdrain hpaused
  · intro h hasNextClip
    by_cases hnone : w.mDrainState = .none
    · have hs := fun hs => h hs hnone
      simp only [StreamOut.onClipStateChange, hnone, ne_eq, not_true_eq_false, false_and, if_false,
        reduceCtorEq]
      exact ⟨fun hd => hs (Or.inl hd), fun hp => hs (Or.inr hp)⟩
    · cases hasNextClip <;> simp [StreamOut.onClipStateChange, hnone]

theorem canFinish_of_state {w : Worker} (hd : w.mState ≠ .draining) (hp : w.mState ≠ .drainPaused) :
    CanFinish c w :=
  canFinish_iff.mpr fun hs => absurd hs (not_or.mpr ⟨hd, hp⟩)

theorem canFinish_of_pending {w : Worker} (h : w.mDrainState ≠ .none) : CanFinish c w :=
  canFinish_iff.mpr fun _ => h

/-- A worker that still drains has what it had pending before. -/
theorem CanFinish.mono {w w' : Worker} (h : CanFinish c w)
    (hstate : w'.mState = .draining ∨ w'.mState = .drainPaused →
      w.mState = .draining ∨ w.mState = .drainPaused)
    (hpending : w'.mDrainState = w.mDrainState) : CanFinish c w' := by
  refine canFinish_iff.mpr fun hs => ?_
  rw [hpending]
  exact canFinish_iff.mp h (hstate hs)

theorem attempt_canFinish {a : Answers} {w next : Worker} (call : Call) (status : Bool)
    (h : CanFinish c next) : CanFinish c (attempt c a w call status next).worker := by
  cases status
  · exact canFinish_of_state (by simp [attempt]) (by simp [attempt])
  · exact h

theorem afterBurst_canFinish {w : Worker} (h : CanFinish c w) (whole : Bool) (now : ℕ) :
    CanFinish c (StreamOut.afterBurst c w whole now) := by
  have htaken : CanFinish c (StreamOut.burstTaken c w whole now) := by
    unfold StreamOut.burstTaken
    split <;> exact canFinish_of_state (by simp [Worker.switchToTransientState])
      (by simp [Worker.switchToTransientState])
  unfold StreamOut.afterBurst
  split
  next => exact canFinish_of_state (by simp) (by simp)
  next => exact canFinish_of_state (by simp) (by simp)
  next => cases c.asyncCallback <;> exact canFinish_of_state (by simp) (by simp)
  next => exact htaken
  next => exact htaken
  next =>
    split
    · exact htaken
    · exact h
  next => exact h

/-- A command leaves a drain that can finish, unless it is a drain taken in `TRANSFER_PAUSED`. -/
theorem exec_canFinish {a : Answers} {w : Worker} {queue : List Byte} {command : Command}
    (h : CanFinish c w)
    (hdrain : ∀ mode, command = .drain mode → w.mState = .transferPaused →
      (StreamOut.exec c a w queue (.drain mode)).reply.status = .ok → w.mDrainState ≠ .none) :
    CanFinish c (StreamOut.exec c a w queue command).worker := by
  cases command with
  | halReservedExit cookie =>
    simp only [StreamOut.exec, execExit]
    split
    · exact canFinish_of_state (by simp [Worker.setClosed]) (by simp [Worker.setClosed])
    · exact h
  | getStatus => exact h
  | start =>
    simp only [StreamOut.exec]
    split
    next nextState hnext =>
      refine attempt_canFinish _ _ (h.mono ?_ ?_)
      · have hmState : (StreamOut.startedAs a w nextState).mState = nextState := by
          unfold StreamOut.startedAs
          split <;> rfl
        rw [hmState]
        rintro (rfl | rfl)
        · refine Or.inr ?_
          cases hw : w.mState <;> simp [hw, StreamOut.startNext] at hnext ⊢
        · cases hw : w.mState <;> simp [hw, StreamOut.startNext] at hnext
      · unfold StreamOut.startedAs
        split <;> rfl
    next => exact h
  | burst fmqByteCount =>
    have hpending := transferData_mDrainState (c := c) a w queue fmqByteCount.toNat
    have hstate : (StreamOut.transferData c a w queue fmqByteCount.toNat).worker.mState = w.mState := by
      unfold StreamOut.transferData transferMmap StreamOut.write
      split <;> split <;> rfl
    simp only [StreamOut.exec]
    split
    · split
      · refine afterBurst_canFinish ?_ _ _
        split
        · exact h.mono (by rw [hstate]; exact id) hpending
        · exact canFinish_of_state (by simp) (by simp)
      · exact h
    · exact h
  | drain mode =>
    have hnoted := hdrain mode rfl
    simp only [StreamOut.exec] at hnoted ⊢
    split
    · split
      · refine attempt_canFinish _ _ ?_
        unfold StreamOut.drained
        split
        · exact canFinish_of_state (by simp) (by simp)
        · refine canFinish_of_pending ?_
          dsimp only
          split <;> simp
      next hmode _ =>
        split
        next hpaused =>
          refine canFinish_of_pending (hnoted hpaused ?_)
          simp [hmode, hpaused, execGetStatus]
        next => exact h
    · exact h
  | standby =>
    simp only [StreamOut.exec, execStandby]
    split
    · cases a.standby <;> exact canFinish_of_state (by simp) (by simp)
    · exact h
  | pause =>
    simp only [StreamOut.exec]
    split
    next nextState hnext =>
      refine attempt_canFinish _ _ (h.mono ?_ rfl)
      rintro (rfl | rfl)
      · cases hw : w.mState <;> simp [hw, StreamOut.pauseNext] at hnext
      · refine Or.inl ?_
        cases hw : w.mState <;> simp [hw, StreamOut.pauseNext] at hnext ⊢
    next => exact h
  | flush =>
    simp only [StreamOut.exec]
    split
    · exact attempt_canFinish _ _ (canFinish_of_state (by simp) (by simp))
    · exact h

/-- A drain taken in `TRANSFER_PAUSED` is one that is pending already. -/
def Noted (c : StreamContext) (s : Stream) : Event → Prop
  | .command (some (.drain mode)) a replied => DrainAccepted c s a mode → replied = true →
      s.worker.mState = .transferPaused → s.worker.mDrainState ≠ .none
  | _ => True

theorem callback_canFinish (hasync : c.asyncCallback = true) {w : Worker} (h : CanFinish c w) :
    (∀ now, CanFinish c (StreamOut.timeout c w now)) ∧ CanFinish c (StreamOut.onBufferStateChange c w).1 ∧
      ∀ clipFramesLeft hasNextClip,
        CanFinish c (StreamOut.onClipStateChange c w clipFramesLeft hasNextClip).1 := by
  refine ⟨fun now => ?_, ?_, fun clipFramesLeft hasNextClip => ?_⟩
  · simpa [StreamOut.timeout, hasync] using h
  · unfold StreamOut.onBufferStateChange
    split
    · dsimp only
      split
      · exact canFinish_of_state (by simp) (by simp)
      · exact h
    · exact h
  · unfold StreamOut.onClipStateChange
    split
    · cases hasNextClip <;> exact canFinish_of_state (by simp) (by simp)
    · split
      · exact canFinish_of_pending (by simp)
      · exact h

theorem cycle_canFinish {s : Stream} (h : CanFinish c s.worker) (hrun : s.running = true)
    {command : Option Command} {a : Answers} {replied : Bool}
    (hc : Noted c s (.command command a replied)) :
    CanFinish c (Stream.cycle .output c s command a replied).worker := by
  have habort : ∀ t : Stream, CanFinish c t.abort.worker := fun t =>
    canFinish_of_state (by simp [Stream.abort]) (by simp [Stream.abort])
  cases command with
  | none => exact habort s
  | some command =>
    unfold Stream.cycle
    dsimp only
    split
    next status hret =>
      refine exec_canFinish h fun mode hmode => ?_
      subst hmode
      cases hret
    next =>
      split
      next hreplied =>
        refine exec_canFinish h fun mode hmode hpaused hok => ?_
        subst hmode
        exact hc ⟨hrun, hok⟩ hreplied hpaused
      next => exact habort _

/-- A drain taken in `TRANSFER_PAUSED` with nothing pending leaves a drain that does not end. -/
theorem noted_of_canFinish {s : Stream} {mode : DrainMode} {a : Answers}
    (hacc : DrainAccepted c s a mode) (hpaused : s.worker.mState = .transferPaused)
    (h : CanFinish c (Stream.cycle .output c s (some (.drain mode)) a true).worker) :
    s.worker.mDrainState ≠ .none := by
  have hok := hacc.2
  have hworker : (StreamOut.exec c a s.worker s.queue (.drain mode)).worker =
      { s.worker with mState := .drainPaused } := by
    simp only [StreamOut.exec, hpaused, reduceCtorEq, or_self, if_false, if_true] at hok ⊢
    split at hok
    next hmode => rw [if_pos hmode]
    next => exact absurd hok (by simp [badValue])
  have hcycle : (Stream.cycle .output c s (some (.drain mode)) a true).worker =
      { s.worker with mState := .drainPaused } := hworker
  rw [hcycle, canFinish_iff] at h
  exact h (Or.inr rfl)

/-- The driver's end of clip takes an asynchronous output out of every drain, exactly as long as no drain is
    accepted in `TRANSFER_PAUSED`: such a drain is answered but neither noted nor told to the driver. -/
theorem drains_can_finish_iff (c : StreamContext) (hasync : c.asyncCallback = true) (es : List Event) :
    Run.Always (Stream.step .output c) (fun _ _ t => CanFinish c t.worker) {} es ↔
      Run.Meets (Stream.step .output c) (Noted c) {} es := by
  refine Run.always_iff_meets (fun (s : Stream) e (h : CanFinish c s.worker) hc => ?_)
    (fun s e _ hp => ?_) es {}
    (canFinish_of_state (by simp) (by simp))
  · obtain ⟨htimeout, hbuffer, hclip⟩ := callback_canFinish hasync h
    refine (and_self_iff).mpr ?_
    cases e with
    | timeout now =>
      simp only [Stream.step]
      split
      · exact htimeout now
      · exact h
    | command command a replied =>
      simp only [Stream.step]
      split
      next hrun => exact cycle_canFinish h hrun hc
      next => exact h
    | onBufferStateChange => exact hbuffer
    | onClipStateChange clipFramesLeft hasNextClip => exact hclip clipFramesLeft hasNextClip
    | setIsConnected connected => exact h.mono id rfl
    | setClosed =>
      simp only [Stream.step]
      split
      · exact h
      · exact canFinish_of_state (by simp [Worker.setClosed]) (by simp [Worker.setClosed])
    | clientWrite bytes => exact h
    | clientRead count => exact h
  · cases e with
    | command command a replied =>
      cases command with
      | none => trivial
      | some command =>
        cases command with
        | drain mode =>
          rintro hacc rfl hpaused
          simp only [Stream.step, hacc.1, if_true] at hp
          exact noted_of_canFinish hacc hpaused hp
        | _ => trivial
    | _ => trivial

theorem drains_can_finish_paused : Run.Always (Stream.step .output offloadOutput)
    (fun _ _ t => CanFinish offloadOutput t.worker) {}
    [.command (some .start) {} true, .command (some (.burst 0)) {} true,
      .command (some (.drain .all)) {} true, .command (some .pause) {} true] :=
  (drains_can_finish_iff offloadOutput rfl _).mpr
    ⟨trivial, trivial, fun _ _ h => absurd h (by decide), trivial, trivial⟩

end Notices

end ImxHal.Audio.Streaming
