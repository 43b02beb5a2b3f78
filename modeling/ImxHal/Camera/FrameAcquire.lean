import ImxHal.Schemes.Run
import ImxHal.Camera.VideoStream

/-! @src camera/camera/VideoStream.cpp (onFrameAcquire, postConfigureLocked),
    camera/camera/MMAPStream.cpp, camera/camera/DMAStream.cpp (onDeviceStartLocked) |
    name:frame acquire | scheme:run | family:state machines

    One call goes round a loop until it has a frame to return. What is dequeued and not returned is queued
    again before the next pass, or the call ends:

        select ──timeout──▶ ConfigAndStart(recover) ──0──▶ again
           │
           ▼ DQBUF ──▶ to omit? ──QBUF──▶ again
                          │ no
                          ▼ too old? ──QBUF──▶ again        (a refused QBUF: NULL)
                              │ no
                              ▼ timestamp_ns, return the buffer -/

namespace ImxHal.FrameAcquire
open ImxHal.Run ImxHal.EarlyReturn ImxHal.CameraStream

def MAX_RECOVER_COUNT : ℕ := 1
def NS_PER_SEC : BitVec 64 := 1000000000
def NS_PER_US : BitVec 64 := 1000
def V4L2_BUF_FLAG_TIMESTAMP_MONOTONIC : BitVec 32 := 0x2000

structure OmitFrame where
  width : ℕ
  height : ℕ
  omitnum : ℕ

/-- The session with the sensor's table of frames to omit. -/
structure Device where
  session : Session
  omit_frame : List OmitFrame

/-- What DQBUF fills in. -/
structure v4l2_buffer where
  index : ℕ
  flags : BitVec 32
  tv_sec : BitVec 64
  tv_usec : BitVec 64
  deriving DecidableEq

/-- A stream with its counters. `startOmit` is the number of frames to omit at its last start, `sinceStart`
    counts the frames dequeued from then on. -/
structure Stream where
  video : VideoStream
  mOmitFrames : ℕ
  mOmitFrmCount : ℕ
  mFrames : ℕ
  mRecoverCount : ℕ
  mMaxLagNs : ℕ
  timestamp_ns : ℕ → BitVec 64
  startOmit : ℕ
  sinceStart : ℕ

/-! ### Configuration and start -/

def omitCount (d : Device) (mWidth mHeight : ℕ) : ℕ :=
  match d.omit_frame.find? fun item => mWidth = item.width ∧ mHeight = item.height with
  | some item => item.omitnum
  | none => 0

/-- `video` has the new size and frame rate already. -/
def postConfigureLocked (d : Device) (s : Stream) (video : VideoStream) : Stream :=
  { s with
    video
    mFrames := 0
    mOmitFrmCount := omitCount d video.mWidth video.mHeight
    mMaxLagNs := video.mNumBuffers * 1000000000 * 5 / video.mFps }

/-- A start that has succeeded. -/
def armOmit (s : Stream) (video : VideoStream) : Stream :=
  { s with video, mOmitFrames := s.mOmitFrmCount, startOmit := s.mOmitFrmCount, sinceStart := 0 }

/-- `ConfigAndStart`, with the counters; `none` is undefined behaviour. -/
def configAndStart (d : Device) (r : Request) (a : Answers) (s : Stream) : Option (Stream × ℤ) :=
  if sameConfig d.session s.video r then some (s, 0)
  else
    match prepareAndConfigure d.session (requestFormat s.video r) r a s.video with
    | none => none
    | some (video, ret) =>
      if ret ≠ 0 then some ({ s with video }, ret)
      else
        match andThen (allocateBuffersLocked a) (onDeviceStartLocked a) video with
        | none => none
        | some (video', ret) =>
          if ret ≠ 0 then some ({ postConfigureLocked d s video with video := video' }, ret)
          else
            some (armOmit (postConfigureLocked d s video) { video' with mSceneMode := r.sceneMode }, 0)

/-! ### One call -/

/-- What the driver does in one pass: `select` times out, or DQBUF gives a buffer or fails, with the clock
    read then and whether a QBUF is taken. -/
inductive Turn where
  | timeout (a : Answers)
  | ready (dqbuf : Option v4l2_buffer) (curTimeNs : BitVec 64) (qbuf : Bool)

/-- What becomes of the buffers, in order; a return with the clock and the timestamp. -/
inductive Act where
  | dequeued (index : ℕ)
  | queued (index : ℕ)
  | refused (index : ℕ)
  | returned (buf : v4l2_buffer) (curTimeNs timestamp_ns : BitVec 64)
  deriving DecidableEq

inductive Outcome where
  | buffer (index : ℕ) | NULL | running | undefined
  deriving DecidableEq

/-- After one pass; no outcome means `goto capture_data`. -/
structure Pass where
  stream : Stream
  log : List Act
  outcome : Option Outcome

/-- The driver hands out only buffers it was given, and those are in `mBuffers`. -/
def dqbufAnswer (s : Stream) (dqbuf : Option v4l2_buffer) : Option v4l2_buffer :=
  dqbuf.filter fun buf => (s.video.mBuffers buf.index).isSome

/-- The branch for a `select` that timed out. A stream that was never configured would divide by zero. -/
def recover (d : Device) (s : Stream) (a : Answers) : Pass :=
  let s := { s with mRecoverCount := (s.mRecoverCount + 1) % 2 ^ 32 }
  if s.mRecoverCount > MAX_RECOVER_COUNT then ⟨s, [], some .NULL⟩
  else if h : 0 < s.video.mFps then
    let r : Request := ⟨s.video.mFormat, s.video.mWidth, s.video.mHeight, s.video.mFps,
      s.video.mSceneMode, true, h⟩
    match configAndStart d r a s with
    | none => ⟨s, [], some .undefined⟩
    | some (s', ret) => if ret ≠ 0 then ⟨s', [], some .NULL⟩ else ⟨s', [], none⟩
  else ⟨s, [], some .undefined⟩

/-- The counters behind DQBUF. -/
def countFrame (s : Stream) : Stream :=
  let s := { s with mFrames := (s.mFrames + 1) % 2 ^ 32, sinceStart := s.sinceStart + 1 }
  if s.mFrames = 1 then { s with mRecoverCount := 0 } else s

def v4l2BufTime (buf : v4l2_buffer) (curTimeNs : BitVec 64) : BitVec 64 :=
  let t :=
    if buf.flags &&& V4L2_BUF_FLAG_TIMESTAMP_MONOTONIC ≠ 0 then
      buf.tv_sec * NS_PER_SEC + buf.tv_usec * NS_PER_US
    else curTimeNs
  if t = 0 then curTimeNs else t

/-- `lagNs`, which is unsigned. -/
def lagNs (curTimeNs bufTime : BitVec 64) : ℕ :=
  if curTimeNs.slt bufTime then 0 else (curTimeNs - bufTime).toNat

/-- The branch for a dequeued buffer. -/
def handleFrame (s : Stream) (buf : v4l2_buffer) (curTimeNs : BitVec 64) (qbuf : Bool) : Pass :=
  let s := countFrame s
  let requeue (s' : Stream) : Pass :=
    if qbuf then ⟨s', [.dequeued buf.index, .queued buf.index], none⟩
    else ⟨s, [.dequeued buf.index, .refused buf.index], some .NULL⟩
  if s.mOmitFrames > 0 then requeue { s with mOmitFrames := s.mOmitFrames - 1 }
  else
    let t := v4l2BufTime buf curTimeNs
    if lagNs curTimeNs t > s.mMaxLagNs then requeue s
    else
      ⟨{ s with timestamp_ns := Function.update s.timestamp_ns buf.index t },
        [.dequeued buf.index, .returned buf curTimeNs t], some (.buffer buf.index)⟩

def pass (d : Device) (s : Stream) : Turn → Pass
  | .timeout a => recover d s a
  | .ready dqbuf curTimeNs qbuf =>
    match dqbufAnswer s dqbuf with
    | none => ⟨s, [], some .NULL⟩
    | some buf => handleFrame s buf curTimeNs qbuf

/-- A call that has returned or is still running. -/
structure Acquired where
  stream : Stream
  log : List Act
  outcome : Outcome

/-- The loop from `capture_data`. -/
def captureData (d : Device) : Stream → List Turn → Acquired
  | s, [] => ⟨s, [], .running⟩
  | s, turn :: turns =>
    let p := pass d s turn
    match p.outcome with
    | some o => ⟨p.stream, p.log, o⟩
    | none =>
      let rest := captureData d p.stream turns
      { rest with log := p.log ++ rest.log }

def onFrameAcquire (d : Device) (s : Stream) (turns : List Turn) : Acquired :=
  if s.video.mDev then captureData d s turns else ⟨s, [], .NULL⟩

/-! ### Runs of calls -/

inductive Call where
  | onFrameAcquire (turns : List Turn)
  | ConfigAndStart (r : Request) (a : Answers)
  | Stop (a : Answers)
  | SetBufferNumber (num : ℕ)

/-- A run ends with undefined behaviour. -/
def step (d : Device) (s : Option Stream) (e : Call) : Option Stream :=
  s.bind fun s => match e with
    | .onFrameAcquire turns =>
      let r := onFrameAcquire d s turns
      if r.outcome = .undefined then none else some r.stream
    | .ConfigAndStart r a => (configAndStart d r a s).map Prod.fst
    | .Stop a => (Stop a s.video).map fun r => { s with video := r.1 }
    | .SetBufferNumber num => some { s with video := { s.video with mNumBuffers := num } }

/-- A new stream; the constructor leaves two of the counters as they are. -/
def created (video : VideoStream) (mFrames mMaxLagNs : ℕ) (timestamp_ns : ℕ → BitVec 64) : Stream :=
  { video, mOmitFrames := 0, mOmitFrmCount := 0, mFrames, mRecoverCount := 0, mMaxLagNs, timestamp_ns
    startOmit := 0, sinceStart := 0 }

/-! ### What becomes of the buffers -/

/-- Every buffer that is dequeued is, exactly once and before the next one, queued or returned, and the
    call returns that one. With `refusal` the driver may also refuse to queue it, which ends the call. -/
def HandedOver (refusal : Prop) : List Act → Outcome → Prop
  | [], o => ∀ i, o ≠ .buffer i
  | [.dequeued i, .refused j], o => refusal ∧ i = j ∧ o = .NULL
  | [.dequeued i, .returned buf _ _], o => i = buf.index ∧ o = .buffer i
  | .dequeued i :: .queued j :: rest, o => i = j ∧ HandedOver refusal rest o
  | _, _ => False

/-- The driver's timestamp in nanoseconds, kept in a `nsecs_t`. -/
def driverNs (buf : v4l2_buffer) : BitVec 64 :=
  BitVec.ofInt 64 (buf.tv_sec.toInt * 10 ^ 9 + buf.tv_usec.toInt * 10 ^ 3)

/-- A frame that is returned: not one of those to omit, not too old, and with the driver's timestamp where
    that is monotonic and not zero, else the current time. -/
def Fresh (s : Stream) : Act → Prop
  | .returned buf curTimeNs timestamp_ns =>
    s.startOmit < s.sinceStart ∧ curTimeNs.toInt - timestamp_ns.toInt ≤ s.mMaxLagNs ∧
      s.timestamp_ns buf.index = timestamp_ns ∧
      timestamp_ns = if buf.flags &&& V4L2_BUF_FLAG_TIMESTAMP_MONOTONIC ≠ 0 ∧ driverNs buf ≠ 0
        then driverNs buf else curTimeNs
  | _ => True

/-- What one call of the run does with its buffers. -/
def Sound (refusal : Prop) (d : Device) (s : Option Stream) (e : Call) (_ : Option Stream) : Prop :=
  ∀ v turns, s = some v → e = .onFrameAcquire turns →
    let r := onFrameAcquire d v turns
    HandedOver refusal r.log r.outcome ∧ ∀ act ∈ r.log, Fresh r.stream act

/-! ### Configuration -/

/-- The counters aside, the stream is configured as `ConfigAndStart` does it. -/
theorem configAndStart_video (d : Device) (r : Request) (a : Answers) (s : Stream) :
    (configAndStart d r a s).map (fun q => (q.1.video, q.2)) = ConfigAndStart d.session r a s.video := by
  rw [configAndStart, ConfigAndStart]
  split
  · rfl
  · rw [EarlyReturn.andThen]
    cases prepareAndConfigure d.session (requestFormat s.video r) r a s.video with
    | none => rfl
    | some q =>
      by_cases hret : q.2 = 0
      · simp only [hret, ne_eq, not_true_eq_false, if_false, Option.bind_some, if_true]
        rw [← andThen_assoc]
        generalize andThen (allocateBuffersLocked a) (onDeviceStartLocked a) = start
        rw [EarlyReturn.andThen]
        cases start q.1 with
        | none => rfl
        | some q' =>
          by_cases hret' : q'.2 = 0 <;> simp [hret', succeed, armOmit, postConfigureLocked]
      · simp [hret]

/-- What is still to omit and what was dequeued since the start make up the frames to omit. -/
def Inv (s : Stream) : Prop := s.startOmit ≤ s.mOmitFrames + s.sinceStart

theorem configAndStart_inv {d : Device} {r : Request} {a : Answers} {s s' : Stream} {ret : ℤ}
    (hs : Inv s) (h : configAndStart d r a s = some (s', ret)) : Inv s' := by
  rw [configAndStart] at h
  split at h
  · cases h
    exact hs
  · split at h
    · cases h
    · split at h
      · cases h
        exact hs
      · split at h
        · cases h
        · split at h
          · cases h
            exact hs
          · cases h
            exact Nat.le_add_right _ _

/-! ### One pass -/

/-- A pass that goes round has queued what it dequeued; one that ends the call accounts for it. -/
def PassGood (p : Pass) : Prop :=
  Inv p.stream ∧ match p.outcome with
    | none => p.log = [] ∨ ∃ i, p.log = [.dequeued i, .queued i]
    | some o => HandedOver True p.log o ∧ ∀ act ∈ p.log, Fresh p.stream act

theorem PassGood.silent {s : Stream} {o : Outcome} (hs : Inv s) (ho : ∀ i, o ≠ .buffer i) :
    PassGood ⟨s, [], some o⟩ :=
  ⟨hs, ho, fun _ h => absurd h List.not_mem_nil⟩

theorem recover_good (d : Device) (s : Stream) (a : Answers) (hs : Inv s) : PassGood (recover d s a) := by
  unfold recover
  simp only
  split
  · exact PassGood.silent hs (by simp)
  · split
    · split
      · exact PassGood.silent hs (by simp)
      · rename_i hrun
        have hs' := configAndStart_inv (by exact hs) hrun
        split
        · exact PassGood.silent hs' (by simp)
        · exact ⟨hs', Or.inl rfl⟩
    · exact PassGood.silent hs (by simp)

theorem driverNs_eq (buf : v4l2_buffer) :
    buf.tv_sec * NS_PER_SEC + buf.tv_usec * NS_PER_US = driverNs buf := by
  rw [driverNs, BitVec.ofInt_add, BitVec.ofInt_mul, BitVec.ofInt_mul, BitVec.ofInt_toInt, BitVec.ofInt_toInt]
  rfl

/-- `lagNs` is not less than the age of the frame; for one of the future that is negative. -/
theorem age_le_lagNs (curTimeNs bufTime : BitVec 64) :
    curTimeNs.toInt - bufTime.toInt ≤ lagNs curTimeNs bufTime := by
  unfold lagNs
  split
  · rename_i hfuture
    rw [BitVec.slt_iff_toInt_lt] at hfuture
    omega
  · rename_i hlag
    rw [BitVec.slt_iff_toInt_lt] at hlag
    rw [BitVec.toInt_eq_toNat_cond, BitVec.toInt_eq_toNat_cond] at hlag ⊢
    rw [BitVec.toNat_sub]
    omega

theorem v4l2BufTime_eq (buf : v4l2_buffer) (curTimeNs : BitVec 64) :
    v4l2BufTime buf curTimeNs =
      if buf.flags &&& V4L2_BUF_FLAG_TIMESTAMP_MONOTONIC ≠ 0 ∧ driverNs buf ≠ 0
        then driverNs buf else curTimeNs := by
  unfold v4l2BufTime
  rw [driverNs_eq]
  generalize buf.flags &&& V4L2_BUF_FLAG_TIMESTAMP_MONOTONIC = flag
  generalize driverNs buf = t
  dsimp only
  by_cases hflag : flag = 0
  · have hunset : ¬ flag ≠ 0 := not_not.mpr hflag
    have hnone : ¬ (flag ≠ 0 ∧ t ≠ 0) := fun h => hunset h.1
    rw [if_neg hunset, if_neg hnone, ite_self]
  · rw [if_pos hflag]
    by_cases hzero : t = 0
    · have hnone : ¬ (flag ≠ 0 ∧ t ≠ 0) := fun h => h.2 hzero
      rw [if_pos hzero, if_neg hnone]
    · have hset : flag ≠ 0 ∧ t ≠ 0 := ⟨hflag, hzero⟩
      rw [if_neg hzero, if_pos hset]

theorem countFrame_fields (s : Stream) : (countFrame s).mOmitFrames = s.mOmitFrames ∧
    (countFrame s).startOmit = s.startOmit ∧ (countFrame s).sinceStart = s.sinceStart + 1 := by
  unfold countFrame
  simp only
  split <;> exact ⟨rfl, rfl, rfl⟩

theorem handleFrame_good (s : Stream) (buf : v4l2_buffer) (curTimeNs : BitVec 64) (qbuf : Bool)
    (hs : Inv s) : PassGood (handleFrame s buf curTimeNs qbuf) := by
  obtain ⟨homit, hstart, hsince⟩ := countFrame_fields s
  unfold handleFrame
  simp only
  generalize countFrame s = t at homit hstart hsince ⊢
  have ht : t.startOmit < t.mOmitFrames + t.sinceStart := by
    simp only [Inv] at hs
    omega
  have hrefused : PassGood ⟨t, [.dequeued buf.index, .refused buf.index], some .NULL⟩ :=
    ⟨ht.le, ⟨trivial, rfl, rfl⟩, by simp [Fresh]⟩
  split
  · split
    · refine ⟨?_, Or.inr ⟨buf.index, rfl⟩⟩
      simp only [Inv]
      omega
    · exact hrefused
  · rename_i hnone
    split
    · split
      · exact ⟨ht.le, Or.inr ⟨buf.index, rfl⟩⟩
      · exact hrefused
    · rename_i hlag
      have hstarted : t.startOmit < t.sinceStart := by omega
      refine ⟨ht.le, ⟨rfl, rfl⟩, ?_⟩
      simp only [List.mem_cons, List.not_mem_nil, or_false, forall_eq_or_imp, forall_eq]
      refine ⟨trivial, hstarted, ?_, Function.update_self _ _ _, v4l2BufTime_eq buf curTimeNs⟩
      exact (age_le_lagNs curTimeNs _).trans (by exact_mod_cast not_lt.mp hlag)

theorem pass_good (d : Device) (s : Stream) (turn : Turn) (hs : Inv s) : PassGood (pass d s turn) := by
  cases turn with
  | timeout a => exact recover_good d s a hs
  | ready dqbuf curTimeNs qbuf =>
    rw [pass]
    split
    · exact PassGood.silent hs (by simp)
    · exact handleFrame_good s _ curTimeNs qbuf hs

/-! ### One call and runs -/

/-- The loop by induction on the passes: each that goes round leaves nothing open. -/
theorem captureData_good (d : Device) (turns : List Turn) (s : Stream) (hs : Inv s) :
    Inv (captureData d s turns).stream ∧
      HandedOver True (captureData d s turns).log (captureData d s turns).outcome ∧
      ∀ act ∈ (captureData d s turns).log, Fresh (captureData d s turns).stream act := by
  induction turns generalizing s with
  | nil => exact ⟨hs, by simp [captureData, HandedOver], by simp [captureData]⟩
  | cons turn turns ih =>
    obtain ⟨hinv, hpass⟩ := pass_good d s turn hs
    rw [captureData]
    simp only
    split
    · rename_i o ho
      rw [ho] at hpass
      exact ⟨hinv, hpass⟩
    · rename_i ho
      rw [ho] at hpass
      obtain ⟨hrest, hhanded, hfresh⟩ := ih (pass d s turn).stream hinv
      rcases hpass with hlog | ⟨i, hlog⟩
      · simp only [hlog, List.nil_append]
        exact ⟨hrest, hhanded, hfresh⟩
      · simp only [hlog, List.cons_append, List.nil_append]
        refine ⟨hrest, ⟨rfl, hhanded⟩, ?_⟩
        simp only [List.mem_cons, forall_eq_or_imp]
        exact ⟨trivial, trivial, hfresh⟩

theorem onFrameAcquire_good (d : Device) (turns : List Turn) (s : Stream) (hs : Inv s) :
    Inv (onFrameAcquire d s turns).stream ∧
      HandedOver True (onFrameAcquire d s turns).log (onFrameAcquire d s turns).outcome ∧
      ∀ act ∈ (onFrameAcquire d s turns).log, Fresh (onFrameAcquire d s turns).stream act := by
  rw [onFrameAcquire]
  split
  · exact captureData_good d turns s hs
  · exact ⟨hs, by simp [HandedOver], by simp⟩

def RunInv (s : Option Stream) : Prop := ∀ v, s = some v → Inv v

theorem step_inv (d : Device) (s : Option Stream) (e : Call) (hs : RunInv s) : RunInv (step d s e) := by
  intro v' hv'
  cases s with
  | none => cases hv'
  | some v =>
    have hv := hs v rfl
    cases e with
    | onFrameAcquire turns =>
      simp only [step, Option.bind_some] at hv'
      split at hv'
      · cases hv'
      · cases hv'
        exact (onFrameAcquire_good d turns v hv).1
    | ConfigAndStart r a =>
      obtain ⟨q, hq, rfl⟩ := Option.map_eq_some_iff.mp hv'
      exact configAndStart_inv hv (by rw [hq])
    | Stop a =>
      obtain ⟨q, -, rfl⟩ := Option.map_eq_some_iff.mp hv'
      exact hv
    | SetBufferNumber num =>
      cases hv'
      exact hv

/-- CORRECT: in every run of calls on a new stream, whatever the driver does, each frame that
    `onFrameAcquire` dequeues is handed over once, and each one it returns is a fresh one. -/
theorem frames_handed_over (d : Device) (video : VideoStream) (mFrames mMaxLagNs : ℕ)
    (timestamp_ns : ℕ → BitVec 64) (calls : List Call) :
    Always (step d) (Sound True d) (some (created video mFrames mMaxLagNs timestamp_ns)) calls := by
  refine always_of_inv (fun s e (hs : RunInv s) => ⟨step_inv d s e hs, ?_⟩) calls _ ?_
  · rintro v turns rfl rfl
    exact (onFrameAcquire_good d turns v (hs v rfl)).2
  · intro v hv
    cases hv
    exact Nat.zero_le _

/-- A frame to omit that the driver refuses to queue again is neither queued nor returned. -/
theorem refused_frame_is_lost :
    ¬ ∀ (d : Device) (video : VideoStream) (mFrames mMaxLagNs : ℕ) (timestamp_ns : ℕ → BitVec 64)
        (calls : List Call),
      Always (step d) (Sound False d) (some (created video mFrames mMaxLagNs timestamp_ns)) calls := by
  intro h
  let d : Device := ⟨⟨⟨0, fun _ => ⟨0, 0, 0, 0, 0⟩⟩, 640, 480⟩, [⟨640, 480, 1⟩]⟩
  let r : Request := ⟨YCbCr_422_I, 640, 480, 30, 0, false, by decide⟩
  let good : Answers :=
    ⟨true, none, [], true, true, true, fun _ => some 614400, fun _ => true, fun _ => true, fun _ => true,
      fun _ => some 614400, fun _ => true, true, true, true⟩
  let turns : List Turn := [.ready (some ⟨0, V4L2_BUF_FLAG_TIMESTAMP_MONOTONIC, 1, 0⟩) 1000000000 false]
  have hlast := always_last (h d (CameraStream.created 0 .mmap false true) 0 0 (fun _ => 0)
    ([.SetBufferNumber 4, .ConfigAndStart r good] ++ [.onFrameAcquire turns]))
  have hlogs : (run (step d) (some (created (CameraStream.created 0 .mmap false true) 0 0 fun _ => 0))
      [.SetBufferNumber 4, .ConfigAndStart r good]).map (fun v => (onFrameAcquire d v turns).log)
        = some [.dequeued 0, .refused 0] := by decide +kernel
  obtain ⟨v, hv, hlog⟩ := Option.map_eq_some_iff.mp hlogs
  have hhanded := (hlast v turns hv rfl).1
  rw [hlog] at hhanded
  exact hhanded.1

end ImxHal.FrameAcquire
