import ImxHal.Evs.CaptureBuffers

/-! @src evs/evs_hal/EvsCamera.cpp (startVideoStream, stopVideoStream, collectFrames, shutdown,
    serviceDied) | name:EVS stream | scheme:run | family:state machines

    `mRunMode` is set before the stream is recorded and before the thread is there; a stop sets it back and
    joins the thread, but drops only the death recipient:

        STOPPED ──fetch_or RUN──▶ RUN, stream recorded ──onStart──▶ RUN, thread runs
           ▲                                                            │
           └───────── join, end of stream ◀── fetch_or STOPPING ────────┘ -/

namespace ImxHal.EvsStream
open ImxHal.Evs (EvsResult)

-- `RunModes`
def STOPPED : ℕ := 0
def RUN : ℕ := 1
def STOPPING : ℕ := 2

/-- An EVS camera. Clients are numbered; the capture thread is known by the client it was started for.
    `ended` has the streams whose thread was joined, `notified` the clients that were sent an end of
    stream, `linked` says that the death of the client is reported. -/
structure EvsCamera where
  isOpen : Bool
  mRunMode : ℕ
  mCaptureThread : Option ℕ
  mStream : Option ℕ
  mStream_1_1 : Option ℕ
  mEvsAppRecipient : Bool
  linked : Bool
  ended : List ℕ
  notified : List ℕ
  deriving DecidableEq

def opened : EvsCamera := ⟨true, STOPPED, none, none, none, false, false, [], []⟩

/-! ### The calls -/

/-- The first half of `stopVideoStream`, up to the join. A thread that is dropped without a join ends the
    process. -/
def stopThread (s : EvsCamera) : Option EvsCamera :=
  let prevRunMode := s.mRunMode
  let thread := s.mCaptureThread
  let s := { s with mRunMode := s.mRunMode ||| STOPPING, mCaptureThread := none }
  if prevRunMode = STOPPED then
    if thread = none then some { s with mRunMode := STOPPED } else none
  else if prevRunMode &&& STOPPING ≠ 0 then
    if thread = none then some s else none
  else some { s with mRunMode := STOPPED, ended := thread.toList ++ s.ended }

/-- The second half: the death recipient goes and the end of the stream is sent. -/
def endStream (s : EvsCamera) : EvsCamera :=
  { s with
    mEvsAppRecipient := false
    linked := s.linked && !s.mEvsAppRecipient
    notified := (match s.mStream_1_1 with
      | some stream => [stream]
      | none => s.mStream.toList) ++ s.notified }

def stopVideoStream (s : EvsCamera) : Option EvsCamera := (stopThread s).map endStream

/-- `stopVideoStream` and `onClose`. -/
def shutdown (s : EvsCamera) : Option EvsCamera :=
  (stopVideoStream s).map fun t => { t with isOpen := false }

/-- `is_1_1` tells whether the cast of the stream to interface 1.1 succeeds, `started` what `onStart`
    returns. -/
def startVideoStream (stream : ℕ) (is_1_1 started : Bool) (s : EvsCamera) :
    Option (EvsCamera × EvsResult) :=
  if s.isOpen = false then some (s, .OWNERSHIP_LOST)
  else
    let prevRunMode := s.mRunMode
    let s := { s with mRunMode := s.mRunMode ||| RUN }
    if prevRunMode &&& RUN ≠ 0 then some (s, .UNDERLYING_SERVICE_ERROR)
    else if s.mStream ≠ none then some (s, .STREAM_ALREADY_RUNNING)
    else
      let s := { s with
        mStream := some stream
        mStream_1_1 := if is_1_1 then some stream else none
        mEvsAppRecipient := true }
      if started = false then
        (shutdown { s with mStream := none, mEvsAppRecipient := false }).map
          fun t => (t, .UNDERLYING_SERVICE_ERROR)
      -- a thread that is overwritten ends the process
      else if s.mCaptureThread ≠ none then none
      else some ({ s with linked := true, mCaptureThread := some stream }, .OK)

inductive Call where
  | startVideoStream (stream : ℕ) (is_1_1 started : Bool)
  | stopVideoStream
  | serviceDied
  | shutdown

/-- A client's death is reported only to a recipient that is linked. -/
def exec : Call → EvsCamera → Option EvsCamera
  | .startVideoStream stream is_1_1 started, s => (startVideoStream stream is_1_1 started s).map Prod.fst
  | .stopVideoStream, s => stopVideoStream s
  | .serviceDied, s => if s.linked then shutdown s else some s
  | .shutdown, s => shutdown s

def step (s : Option EvsCamera) (e : Call) : Option EvsCamera := s.bind (exec e)

/-! ### What is promised -/

/-- The run mode, the thread and the recorded stream agree. -/
structure Agree (s : EvsCamera) : Prop where
  mode : s.mRunMode &&& RUN ≠ 0 ↔ s.mCaptureThread ≠ none
  stream : s.mStream ≠ none ↔ s.mCaptureThread ≠ none
  notified : ∀ stream, s.notified.count stream = s.ended.count stream

/-- A start that fails changes neither the mode nor the stream, unless it closes the camera. -/
def FailsCleanly (s : EvsCamera) (e : Call) (t : EvsCamera) : Prop :=
  ∀ stream is_1_1 started r, e = .startVideoStream stream is_1_1 started →
    startVideoStream stream is_1_1 started s = some (t, r) → r ≠ .OK →
      (t.mRunMode = s.mRunMode ∧ t.mStream = s.mStream ∧ t.mStream_1_1 = s.mStream_1_1) ∨ t.isOpen = false

/-- After a stop the camera can be started again. -/
def Restartable (e : Call) (t : EvsCamera) : Prop :=
  e = .stopVideoStream → t.isOpen = true →
    ∀ stream is_1_1, ∃ u, startVideoStream stream is_1_1 true t = some (u, .OK)

def StreamKept (s : Option EvsCamera) (e : Call) (s' : Option EvsCamera) : Prop :=
  ∃ v t, s = some v ∧ s' = some t ∧ Agree t ∧ FailsCleanly v e t ∧ Restartable e t

/-- No stream is ended, and no start of a client of interface 1.1 is refused by the driver. -/
def NeverEnds (s : Option EvsCamera) (e : Call) : Prop :=
  ∀ v, s = some v → match e with
    | .startVideoStream _ is_1_1 started =>
        v.isOpen = true → v.mCaptureThread = none → started = true ∨ is_1_1 = false
    | .stopVideoStream => v.mCaptureThread = none
    | .serviceDied => v.linked = true → v.mCaptureThread = none
    | .shutdown => v.mCaptureThread = none

/-! ### The states of a camera whose stream never ends -/

def idle (isOpen : Bool) : EvsCamera := ⟨isOpen, STOPPED, none, none, none, false, false, [], []⟩

def running (stream : ℕ) (is_1_1 : Bool) : EvsCamera :=
  ⟨true, RUN, some stream, some stream, if is_1_1 then some stream else none, true, true, [], []⟩

/-- A camera that is idle, or runs its first stream. -/
inductive Inv : EvsCamera → Prop
  | idle (isOpen : Bool) : Inv (idle isOpen)
  | running (stream : ℕ) (is_1_1 : Bool) : Inv (running stream is_1_1)

section States
variable {stream stream' : ℕ} {is_1_1 is_1_1' started isOpen : Bool} {s t : EvsCamera} {e : Call}

theorem start_idle : startVideoStream stream is_1_1 true (idle true) =
    some (running stream is_1_1, .OK) := rfl

/-- The refused start of a client of interface 1.1 sends it the end of a stream that never was. -/
theorem start_refused : startVideoStream stream is_1_1 false (idle true) =
    some ({ idle false with
      mStream_1_1 := if is_1_1 then some stream else none
      notified := if is_1_1 then [stream] else [] }, .UNDERLYING_SERVICE_ERROR) := by
  cases is_1_1 <;>
    simp [startVideoStream, shutdown, stopVideoStream, stopThread, endStream, idle, STOPPED, RUN, STOPPING]

theorem start_running : startVideoStream stream' is_1_1' started (running stream is_1_1) =
    some (running stream is_1_1, .UNDERLYING_SERVICE_ERROR) := by
  simp [startVideoStream, running, RUN]

theorem stop_idle : stopVideoStream (idle isOpen) = some (idle isOpen) := rfl

/-- The stream stays recorded. -/
theorem stop_running : stopVideoStream (running stream is_1_1) =
    some { running stream is_1_1 with
      mRunMode := STOPPED, mCaptureThread := none, mEvsAppRecipient := false, linked := false
      ended := [stream], notified := [stream] } := by
  cases is_1_1 <;> simp [stopVideoStream, stopThread, endStream, running, STOPPED, RUN, STOPPING]

theorem shutdown_idle : shutdown (idle isOpen) = some (idle false) := rfl

theorem Inv.agree (h : Inv s) : Agree s := by
  cases h with
  | idle isOpen =>
    have hmode : STOPPED &&& RUN = 0 := by decide
    exact ⟨by simp [EvsStream.idle, hmode], by simp [EvsStream.idle], fun _ => rfl⟩
  | running stream is_1_1 =>
    have hmode : RUN ≠ 0 := by decide
    exact ⟨by simp [EvsStream.running, hmode], by simp [EvsStream.running], fun _ => rfl⟩

/-- Nothing is promised after a stop that leaves the stream recorded. -/
theorem not_agree_of_recorded (hstream : s.mStream ≠ none) (hthread : s.mCaptureThread = none) :
    ¬ Agree s := fun h => h.stream.mp hstream hthread

theorem not_kept_of_recorded (hrun : exec e s = some t) (hstream : t.mStream ≠ none)
    (hthread : t.mCaptureThread = none) : ¬ StreamKept (some s) e (step (some s) e) := by
  rintro ⟨v, u, hv, hu, hagree, -⟩
  obtain rfl := Option.some.inj hv
  obtain rfl : t = u := Option.some.inj (hrun.symm.trans hu)
  exact not_agree_of_recorded hstream hthread hagree

theorem kept_of_exec (hrun : exec e s = some t) (ht : Inv t) (hclean : FailsCleanly s e t)
    (hrestart : Restartable e t) : (∀ u, step (some s) e = some u → Inv u) ∧
      StreamKept (some s) e (step (some s) e) := by
  refine ⟨fun u hu => ?_, s, t, rfl, hrun, ht.agree, hclean, hrestart⟩
  obtain rfl : t = u := Option.some.inj (hrun.symm.trans hu)
  exact ht

theorem exec_kept (h : Inv s) (hc : NeverEnds (some s) e) :
    (∀ u, step (some s) e = some u → Inv u) ∧ StreamKept (some s) e (step (some s) e) := by
  have hother : (∀ stream is_1_1 started, e ≠ .startVideoStream stream is_1_1 started) → ∀ t,
      FailsCleanly s e t := fun hne t stream is_1_1 started r he => absurd he (hne stream is_1_1 started)
  cases h with
  | idle isOpen =>
    cases e with
    | startVideoStream stream is_1_1 started =>
      have hstop : ∀ t, Restartable (.startVideoStream stream is_1_1 started) t := fun t he => by cases he
      rcases isOpen with _ | _
      · refine kept_of_exec (t := idle false) rfl (.idle false) ?_ (hstop _)
        exact fun _ _ _ _ _ _ _ => Or.inr rfl
      · rcases started with _ | _
        · obtain rfl : is_1_1 = false := by
            rcases hc _ rfl rfl rfl with h | h
            · cases h
            · exact h
          have hrun : exec (.startVideoStream stream false false) (idle true) = some (idle false) :=
            congrArg (Option.map Prod.fst) start_refused
          refine kept_of_exec hrun (.idle false) ?_ (hstop _)
          exact fun _ _ _ _ _ _ _ => Or.inr rfl
        · refine kept_of_exec (t := running stream is_1_1) rfl (.running stream is_1_1) ?_ (hstop _)
          rintro stream' is_1_1' started' r he hrun hr
          cases he
          rw [start_idle] at hrun
          exact absurd (Prod.mk.inj (Option.some.inj hrun)).2.symm hr
    | stopVideoStream =>
      refine kept_of_exec (t := idle isOpen) stop_idle (.idle isOpen) (hother (by simp) _) ?_
      rintro - hopen stream is_1_1
      obtain rfl : isOpen = true := hopen
      exact ⟨_, start_idle⟩
    | serviceDied =>
      exact kept_of_exec (t := idle isOpen) rfl (.idle isOpen) (hother (by simp) _) fun he => by cases he
    | shutdown =>
      exact kept_of_exec (t := idle false) shutdown_idle (.idle false) (hother (by simp) _)
        fun he => by cases he
  | running stream is_1_1 =>
    cases e with
    | startVideoStream stream' is_1_1' started =>
      have hrun : exec (.startVideoStream stream' is_1_1' started) (EvsStream.running stream is_1_1) =
        some (EvsStream.running stream is_1_1) := congrArg (Option.map Prod.fst) start_running
      refine kept_of_exec hrun (.running stream is_1_1) ?_ fun he => by cases he
      exact fun _ _ _ _ _ _ _ => Or.inl ⟨rfl, rfl, rfl⟩
    | stopVideoStream => exact absurd (hc _ rfl) (by simp [running])
    | serviceDied => exact absurd (hc _ rfl rfl) (by simp [running])
    | shutdown => exact absurd (hc _ rfl) (by simp [running])

theorem neverEnds_of_kept (h : Inv s) (hk : StreamKept (some s) e (step (some s) e)) :
    NeverEnds (some s) e := by
  rintro v hv
  obtain rfl := Option.some.inj hv
  cases h with
  | idle isOpen =>
    cases e with
    | startVideoStream stream is_1_1 started =>
      rintro hopen -
      obtain rfl : isOpen = true := hopen
      rcases started with _ | _
      · refine Or.inr ?_
        rcases is_1_1 with _ | _
        · rfl
        · obtain ⟨v, t, hv, ht, hagree, -⟩ := hk
          obtain rfl := Option.some.inj hv
          have hrun : t = _ :=
            Option.some.inj (ht.symm.trans (congrArg (Option.map Prod.fst) start_refused))
          have hcount := hagree.notified stream
          rw [hrun] at hcount
          simp [idle] at hcount
      · exact Or.inl rfl
    | stopVideoStream => rfl
    | serviceDied => exact fun _ => rfl
    | shutdown => rfl
  | running stream is_1_1 =>
    cases e with
    | startVideoStream stream' is_1_1' started => exact fun _ hthread => by cases hthread
    | stopVideoStream =>
      exact absurd hk (not_kept_of_recorded stop_running (by simp [running]) rfl)
    | serviceDied =>
      exact absurd hk (not_kept_of_recorded (congrArg (Option.map _) stop_running) (by simp [running]) rfl)
    | shutdown =>
      exact absurd hk (not_kept_of_recorded (congrArg (Option.map _) stop_running) (by simp [running]) rfl)

end States

/-- CORRECT: a run keeps the mode, the thread, the stream and the notifications in step exactly if no stream
    is ended and no start of a client of interface 1.1 is refused. -/
theorem stream_kept_iff (es : List Call) :
    Run.Always step StreamKept (some opened) es ↔ Run.Meets step NeverEnds (some opened) es := by
  refine Run.always_iff_meets (fun s e (hs : ∃ v, s = some v ∧ Inv v) hc => ?_) (fun s e hs hk => ?_) es _
    ⟨opened, rfl, .idle true⟩
  · obtain ⟨v, rfl, hv⟩ := hs
    obtain ⟨hinv, hkept⟩ := exec_kept hv hc
    have hsome := hkept
    obtain ⟨-, t, -, ht, -⟩ := hsome
    exact ⟨⟨t, ht, hinv t ht⟩, hkept⟩
  · obtain ⟨v, rfl, hv⟩ := hs
    exact neverEnds_of_kept hv hk

/-- A second start is refused and leaves RUN set without a thread, and the first stream is ended twice. -/
theorem stopped_stream_stays :
    ((Run.run step (some opened) [.startVideoStream 7 true true, .stopVideoStream]).map fun s =>
        (startVideoStream 7 true true s).map fun r => (r.1.mRunMode, r.1.mCaptureThread, r.2)) =
        some (some (RUN, none, .STREAM_ALREADY_RUNNING)) ∧
      ((Run.run step (some opened) [.startVideoStream 7 true true, .stopVideoStream, .stopVideoStream]).map
        fun s => (s.ended, s.notified)) = some ([7], [7, 7]) ∧
      ¬ Run.Always step StreamKept (some opened) [.startVideoStream 7 true true, .stopVideoStream] := by
  refine ⟨by decide +kernel, by decide +kernel, fun h => ?_⟩
  obtain ⟨-, ⟨v, t, -, ht, hagree, -⟩, -⟩ := h
  have hstopped : ((Run.run step (some opened) [.startVideoStream 7 true true, .stopVideoStream]).map
      fun s => (s.mStream, s.mCaptureThread)) = some (some 7, none) := by decide +kernel
  have hfinal : (t.mStream, t.mCaptureThread) = (some 7, none) :=
    Option.some.inj ((congrArg (Option.map _) ht).symm.trans hstopped)
  obtain ⟨hstream, hthread⟩ := Prod.mk.inj hfinal
  exact not_agree_of_recorded (by rw [hstream]; simp) hthread hagree

end ImxHal.EvsStream
