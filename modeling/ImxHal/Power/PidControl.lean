import ImxHal.Power.FpsRecords

/-! @src power/PowerHintSession.cpp (convertWorkDurationToBoostByPid, updateTargetWorkDuration,
    reportActualWorkDuration, updateHeuristicBoost) | name:PidControl | scheme:run |
    family:controllers

    A report of work durations moves the `uclamp.min` of a session by a PID controller. Errors are in
    units of 100 us, and so is the target where it becomes the divisor `dt`:

        error = (actual - target) / 100000      dt = target / 100000, 0 for a target below 100 us
        next  = max floor (min ceiling (previous + P + I + D))

    The gains are floating-point numbers; their arithmetic is a parameter. -/

namespace ImxHal.Power.Pid
open ImxHal.Run SessionRecords

/-- The arithmetic of `double`, with the conversions from and to integers. -/
structure FloatOps (F : Type) where
  ofInt : ℤ → F
  add : F → F → F
  sub : F → F → F
  mul : F → F → F
  div : F → F → F
  lt : F → F → Bool
  le : F → F → Bool
  toInt64 : F → ℤ
  toUint32 : F → ℤ

inductive SessionJankyLevel where | LIGHT | MODERATE | SEVERE
  deriving DecidableEq

/-- The profile. `mHeuristicBoostOn` says that the option is there and set; the other options of the
    heuristic boost are there when it is. -/
structure AdpfConfig (F : Type) where
  mPidOn : Bool
  mPidPo : F
  mPidPu : F
  mPidI : F
  mPidDo : F
  mPidDu : F
  getPidIHighDivI : ℤ
  getPidILowDivI : ℤ
  mSamplingWindowP : ℕ
  mSamplingWindowI : ℕ
  mSamplingWindowD : ℕ
  mUclampMinLow : ℤ
  mUclampMinHigh : ℤ
  mTargetTimeFactor : F
  mHeuristicBoostOn : Bool
  mHBoostModerateJankThreshold : ℤ
  mHBoostSevereJankThreshold : ℤ
  mHBoostOffMaxAvgDurRatio : F
  mHBoostSevereJankPidPu : F
  mHBoostUclampMinFloorRange : ℤ × ℤ
  mHBoostUclampMinCeilingRange : ℤ × ℤ
  mLowFrameRateThreshold : ℤ
  records : RecordsConfig

/-- The session, as far as the controller is concerned, with its descriptor. -/
structure Session where
  mSessionClosed : Bool
  is_active : Bool
  targetNs : ℤ
  pidControlVariable : ℤ
  integral_error : ℤ
  previous_error : ℤ
  mSessionRecords : SessionRecords
  mJankyLevel : SessionJankyLevel
  mJankyFrameNum : ℤ

def ns_to_100us (ns : ℤ) : ℤ := ns.tdiv 100000

def kTargetDurationChangeThreshold : ℤ := 30

/-- A division of integers, which has no result for the divisor 0. -/
def divide (a b : ℤ) : Option ℤ := if b = 0 then none else some (a.tdiv b)

variable {F : Type} (fp : FloatOps F) (c : AdpfConfig F)

/-! ### The heuristic boost -/

def jankyFactor (mJankyFrameNum : ℤ) : F :=
  if mJankyFrameNum < c.mHBoostModerateJankThreshold then fp.ofInt 0
  else fp.div (fp.mul (fp.ofInt (mJankyFrameNum - c.mHBoostModerateJankThreshold)) (fp.ofInt 1))
    (fp.ofInt (c.mHBoostSevereJankThreshold - c.mHBoostModerateJankThreshold))

def updateSessionJankState (oldState : SessionJankyLevel) (numOfJankFrames : ℤ)
    (durationVariance : F) (isLowFPS : Bool) : SessionJankyLevel :=
  if isLowFPS then .LIGHT
  else if numOfJankFrames < c.mHBoostModerateJankThreshold then
    if oldState = .LIGHT ∨ fp.lt durationVariance c.mHBoostOffMaxAvgDurRatio then .LIGHT
    else .MODERATE
  else if numOfJankFrames < c.mHBoostSevereJankThreshold then .MODERATE
  else .SEVERE

/-- `isLowFrameRate`: the last three frames are all over the threshold. -/
def isLowFrameRate (r : SessionRecords) : Bool :=
  let cycleDurationThresholdUs := fp.div (fp.ofInt 1000000) (fp.ofInt c.mLowFrameRateThreshold)
  let indices := lowFrameRateIndices c.records r
  !indices.isEmpty && indices.all fun i =>
    fp.le cycleDurationThresholdUs (fp.ofInt (r.mRecords i).startIntervalUs)

def updateHeuristicBoost (s : Session) : Session :=
  match getMaxDuration s.mSessionRecords, getAvgDuration s.mSessionRecords with
  | some maxDurationUs, some avgDurationUs =>
    if avgDurationUs ≤ 0 then s
    else
      let numOfJankFrames := getNumOfMissedCycles s.mSessionRecords
      let maxToAvgRatio :=
        fp.div (fp.mul (fp.ofInt maxDurationUs) (fp.ofInt 1)) (fp.ofInt avgDurationUs)
      { s with
        mJankyLevel := updateSessionJankState fp c s.mJankyLevel numOfJankFrames maxToAvgRatio
          (isLowFrameRate fp c s.mSessionRecords)
        mJankyFrameNum := numOfJankFrames }
  | _, _ => s

def resetSessionHeuristicStates (s : Session) : Session :=
  { s with
    mSessionRecords := resetRecords s.mSessionRecords
    mJankyLevel := .LIGHT
    mJankyFrameNum := 0 }

/-- The floor and the ceiling of `uclamp.min` that a report works with. -/
def uclampMinRange (s : Session) : ℤ × ℤ :=
  if c.mHeuristicBoostOn then
    let hboostMinUclampMinFloor := max c.mUclampMinLow c.mHBoostUclampMinFloorRange.1
    let hboostMaxUclampMinFloor := max c.mUclampMinLow c.mHBoostUclampMinFloorRange.2
    let hboostMinUclampMinCeiling := max c.mUclampMinHigh c.mHBoostUclampMinCeilingRange.1
    let hboostMaxUclampMinCeiling := max c.mUclampMinHigh c.mHBoostUclampMinCeilingRange.2
    let between (low high : ℤ) : ℤ := fp.toUint32 (fp.add (fp.ofInt low)
      (fp.mul (fp.ofInt ((high - low) % 2 ^ 32)) (jankyFactor fp c s.mJankyFrameNum)))
    match s.mJankyLevel with
    | .LIGHT => (c.mUclampMinLow, c.mUclampMinHigh)
    | .MODERATE => (between hboostMinUclampMinFloor hboostMaxUclampMinFloor,
        between hboostMinUclampMinCeiling hboostMaxUclampMinCeiling)
    | .SEVERE => (hboostMaxUclampMinFloor, hboostMaxUclampMinCeiling)
  else (c.mUclampMinLow, c.mUclampMinHigh)

/-! ### The controller -/

/-- Where a sampling window begins in a batch of that length. -/
def windowStart (samplingWindow length : ℕ) : ℕ :=
  if samplingWindow = 0 ∨ samplingWindow > length then 0 else length - samplingWindow

structure Sums where
  err_sum : ℤ
  derivative_sum : ℤ
  integral_error : ℤ
  previous_error : ℤ

/-- The starts of the three windows. -/
structure Starts where
  p_start : ℕ
  i_start : ℕ
  d_start : ℕ

def starts (length : ℕ) : Starts :=
  ⟨windowStart c.mSamplingWindowP length, windowStart c.mSamplingWindowI length,
    windowStart c.mSamplingWindowD length⟩

/-- The body of the loop over the durations, at index `i`. -/
def accumulate (targetDurationNanos dt : ℤ) (st : Starts) (sums : Sums) (x : WorkDuration × ℕ) :
    Sums :=
  let i := x.2
  let error := ns_to_100us (int64 (x.1.durationNanos - targetDurationNanos))
  { err_sum := if i ≥ st.p_start then int64 (sums.err_sum + error) else sums.err_sum
    derivative_sum :=
      if i ≥ st.d_start then int64 (sums.derivative_sum + (error - sums.previous_error))
      else sums.derivative_sum
    integral_error :=
      if i ≥ st.i_start then
        max c.getPidILowDivI (min c.getPidIHighDivI (int64 (sums.integral_error + error * dt)))
      else sums.integral_error
    previous_error := error }

def accumulateAll (s : Session) (actualDurations : List WorkDuration) : Sums :=
  let st := starts c actualDurations.length
  (actualDurations.zipIdx.drop (min st.p_start (min st.i_start st.d_start))).foldl
    (accumulate c s.targetNs (ns_to_100us s.targetNs) st)
    ⟨0, 0, s.integral_error, s.previous_error⟩

def pid_pu_active (s : Session) : F :=
  if c.mHeuristicBoostOn then
    let hboostPidPu :=
      if fp.lt c.mPidPu c.mHBoostSevereJankPidPu then c.mPidPu else c.mHBoostSevereJankPidPu
    match s.mJankyLevel with
    | .LIGHT => c.mPidPu
    | .MODERATE => fp.add c.mPidPu
        (fp.mul (jankyFactor fp c s.mJankyFrameNum) (fp.sub hboostPidPu c.mPidPu))
    | .SEVERE => hboostPidPu
  else c.mPidPu

/-- What the controller computes: its output, the errors it keeps, and the traces that are quotients. -/
structure Output where
  output : ℤ
  integral_error : ℤ
  previous_error : ℤ
  trace_pid_err : ℤ
  trace_pid_derivative : ℤ

/-- `none` when an integer is divided by 0. -/
def convertWorkDurationToBoostByPid (s : Session) (actualDurations : List WorkDuration) :
    Option Output :=
  let length : ℤ := actualDurations.length
  let st := starts c actualDurations.length
  let dt := ns_to_100us s.targetNs
  let sums := accumulateAll c s actualDurations
  let pOut := fp.toInt64 (fp.div
    (fp.mul (if sums.err_sum > 0 then c.mPidPo else pid_pu_active fp c s) (fp.ofInt sums.err_sum))
    (fp.ofInt (length - st.p_start)))
  let iOut := fp.toInt64 (fp.mul c.mPidI (fp.ofInt sums.integral_error))
  let dOut := fp.toInt64 (fp.div (fp.div
    (fp.mul (if sums.derivative_sum > 0 then c.mPidDo else c.mPidDu) (fp.ofInt sums.derivative_sum))
    (fp.ofInt dt)) (fp.ofInt (length - st.d_start)))
  (divide sums.err_sum (length - st.p_start)).bind fun trace_pid_err =>
  (divide sums.derivative_sum dt).bind fun derivative =>
  (divide derivative (length - st.d_start)).bind fun trace_pid_derivative =>
  some ⟨int64 (pOut + iOut + dOut), sums.integral_error, sums.previous_error, trace_pid_err,
    trace_pid_derivative⟩

def updateTargetWorkDuration (s : Session) (targetDurationNanos : ℤ) : Session :=
  if s.mSessionClosed then s
  else if targetDurationNanos ≤ 0 then s
  else
    let targetDurationNanos :=
      fp.toInt64 (fp.mul (fp.ofInt targetDurationNanos) c.mTargetTimeFactor)
    let s :=
      if targetDurationNanos ≠ s.targetNs ∧ c.mHeuristicBoostOn ∧
          |targetDurationNanos - s.targetNs| >
            s.targetNs.tdiv 100 * kTargetDurationChangeThreshold then
        resetSessionHeuristicStates s
      else s
    { s with targetNs := targetDurationNanos }

/-- The checks at the head of a report. -/
def accepted (s : Session) (actualDurations : List WorkDuration) : Bool :=
  !s.mSessionClosed && s.targetNs != 0 && !actualDurations.isEmpty && s.is_active

/-- The records and the jank state after the report, if the heuristic boost is on. -/
def recordDurations (s : Session) (actualDurations : List WorkDuration) (computeFPSJitters : Bool) :
    Session :=
  if c.mHeuristicBoostOn then
    updateHeuristicBoost fp c { s with
      mSessionRecords := (addReportedDurations c.records s.mSessionRecords actualDurations s.targetNs
        ⟨0, 0, 0, 0, 0, 0⟩ computeFPSJitters).1 }
  else s

/-- `none` when an integer is divided by 0. -/
def reportActualWorkDuration (s : Session) (actualDurations : List WorkDuration)
    (computeFPSJitters : Bool) : Option Session :=
  if !accepted s actualDurations then some s
  else if !c.mPidOn then some { s with pidControlVariable := SessionRecords.int32 c.mUclampMinHigh }
  else
    let s := recordDurations fp c s actualDurations computeFPSJitters
    (convertWorkDurationToBoostByPid fp c s actualDurations).bind fun out =>
    let range := uclampMinRange fp c s
    let output := SessionRecords.int32 out.output
    let next_min := min (SessionRecords.int32 range.2)
      (SessionRecords.int32 (s.pidControlVariable + output))
    some { s with
      pidControlVariable := max (SessionRecords.int32 range.1) next_min
      integral_error := out.integral_error
      previous_error := out.previous_error }

/-- A call, with the profile it finds. -/
inductive Op where
  | updateTargetWorkDuration (targetDurationNanos : ℤ)
  | reportActualWorkDuration (actualDurations : List WorkDuration) (computeFPSJitters : Bool)

structure Call (F : Type) where
  config : AdpfConfig F
  op : Op

/-- One call; a run is of interest up to the first division by 0. -/
def step (s : Session) (call : Call F) : Session :=
  match call.op with
  | .updateTargetWorkDuration targetDurationNanos =>
    updateTargetWorkDuration fp call.config s targetDurationNanos
  | .reportActualWorkDuration actualDurations computeFPSJitters =>
    (reportActualWorkDuration fp call.config s actualDurations computeFPSJitters).getD s

/-! ### What a report promises -/

/-- The floor and the ceiling as they are converted to `int`. Without the controller they are those of
    the profile. -/
def effectiveRange (s : Session) : ℤ × ℤ :=
  let range := if c.mPidOn then uclampMinRange fp c s else (c.mUclampMinLow, c.mUclampMinHigh)
  (SessionRecords.int32 range.1, SessionRecords.int32 range.2)

/-- An accepted report divides no integer by 0, and leaves the integral error within its limits and the
    control variable between floor and ceiling. -/
def Good (s : Session) (call : Call F) (s' : Session) : Prop :=
  match call.op with
  | .updateTargetWorkDuration _ => True
  | .reportActualWorkDuration actualDurations computeFPSJitters =>
    accepted s actualDurations →
      (reportActualWorkDuration fp call.config s actualDurations computeFPSJitters).isSome ∧
      (call.config.getPidILowDivI ≤ s'.integral_error ∧
        s'.integral_error ≤ call.config.getPidIHighDivI) ∧
      let range := effectiveRange fp call.config s'
      (range.1 ≤ range.2 → range.1 ≤ s'.pidControlVariable ∧ s'.pidControlVariable ≤ range.2)

/-- An accepted report finds a target of 100 us or more, counted both ways from 0; without the
    controller, it finds the integral error within its limits. -/
def Sound (s : Session) (call : Call F) : Prop :=
  match call.op with
  | .updateTargetWorkDuration _ => True
  | .reportActualWorkDuration actualDurations _ =>
    accepted s actualDurations →
      if call.config.mPidOn then 100000 ≤ |s.targetNs|
      else call.config.getPidILowDivI ≤ s.integral_error ∧
        s.integral_error ≤ call.config.getPidIHighDivI

instance decSound (s : Session) : ∀ call : Call F, Decidable (Sound s call)
  | ⟨_, .updateTargetWorkDuration _⟩ => inferInstanceAs (Decidable True)
  | ⟨c, .reportActualWorkDuration actualDurations _⟩ =>
    inferInstanceAs (Decidable (accepted s actualDurations → if c.mPidOn then 100000 ≤ |s.targetNs|
      else c.getPidILowDivI ≤ s.integral_error ∧ s.integral_error ≤ c.getPidIHighDivI))

/-! ### One report -/

section Lemmas

variable {fp : FloatOps F} {c : AdpfConfig F} {s : Session} {actualDurations : List WorkDuration}

theorem divide_isSome_iff (a b : ℤ) : (divide a b).isSome ↔ b ≠ 0 := by
  unfold divide
  split_ifs with hb
  · simp [hb]
  · simp [hb]

/-- A window begins inside the batch. -/
theorem windowStart_lt (samplingWindow : ℕ) {length : ℕ} (h : 0 < length) :
    windowStart samplingWindow length < length := by
  unfold windowStart
  split_ifs with hw
  · exact h
  · omega

theorem ns_to_100us_eq_zero_iff (ns : ℤ) : ns_to_100us ns = 0 ↔ |ns| < 100000 := by
  rw [ns_to_100us, ← Int.natAbs_eq_zero, Int.natAbs_tdiv, Int.abs_eq_natAbs]
  change ns.natAbs / 100000 = 0 ↔ _
  omega

/-- The one divisor that can be 0 is the target. -/
theorem convert_isSome_iff (fp : FloatOps F) (c : AdpfConfig F) (s : Session)
    (hne : actualDurations ≠ []) :
    (convertWorkDurationToBoostByPid fp c s actualDurations).isSome ↔ 100000 ≤ |s.targetNs| := by
  have hlength : 0 < actualDurations.length := List.length_pos_iff.mpr hne
  have hp : (actualDurations.length : ℤ) - (starts c actualDurations.length).p_start ≠ 0 := by
    have hlt := windowStart_lt c.mSamplingWindowP hlength
    simp only [starts]
    omega
  have hd : (actualDurations.length : ℤ) - (starts c actualDurations.length).d_start ≠ 0 := by
    have hlt := windowStart_lt c.mSamplingWindowD hlength
    simp only [starts]
    omega
  rw [← not_lt, ← ns_to_100us_eq_zero_iff]
  unfold convertWorkDurationToBoostByPid divide
  simp only [hp, hd, if_false, Option.bind_some]
  by_cases hdt : ns_to_100us s.targetNs = 0
  · simp [hdt]
  · simp [hdt]

/-- The last duration of a batch is in the window of the integral, and its error is the last one that
    is added and clamped. -/
theorem accumulateAll_integral (hlimits : c.getPidILowDivI ≤ c.getPidIHighDivI)
    (hne : actualDurations ≠ []) :
    c.getPidILowDivI ≤ (accumulateAll c s actualDurations).integral_error ∧
      (accumulateAll c s actualDurations).integral_error ≤ c.getPidIHighDivI := by
  obtain ⟨init, last, rfl⟩ := (List.eq_nil_or_concat' actualDurations).resolve_left hne
  have hi : windowStart c.mSamplingWindowI (init ++ [last]).length ≤ init.length := by
    have hlt := windowStart_lt c.mSamplingWindowI (List.length_pos_iff.mpr hne)
    rw [List.length_append, List.length_singleton] at hlt ⊢
    omega
  have hfirst : min (starts c (init ++ [last]).length).p_start
      (min (starts c (init ++ [last]).length).i_start (starts c (init ++ [last]).length).d_start) ≤
        init.zipIdx.length := by
    rw [List.length_zipIdx]
    exact (min_le_right _ _).trans ((min_le_left _ _).trans hi)
  simp only [accumulateAll]
  rw [List.zipIdx_append, List.drop_append_of_le_length hfirst, List.foldl_append]
  simp only [List.zipIdx_singleton, List.foldl_cons, List.foldl_nil, accumulate]
  have hin : 0 + init.length ≥ (starts c (init ++ [last]).length).i_start := by
    rw [Nat.zero_add]
    exact hi
  rw [if_pos hin]
  exact ⟨le_max_left _ _, max_le hlimits (min_le_left _ _)⟩

theorem convert_integral {out : Output}
    (h : convertWorkDurationToBoostByPid fp c s actualDurations = some out) :
    out.integral_error = (accumulateAll c s actualDurations).integral_error := by
  obtain ⟨_, -, h⟩ := Option.bind_eq_some_iff.mp h
  obtain ⟨_, -, h⟩ := Option.bind_eq_some_iff.mp h
  obtain ⟨_, -, h⟩ := Option.bind_eq_some_iff.mp h
  rw [← Option.some.inj h]

/-- The heuristic boost leaves the target alone. -/
theorem recordDurations_targetNs (fp : FloatOps F) (c : AdpfConfig F) (s : Session)
    (actualDurations : List WorkDuration) (computeFPSJitters : Bool) :
    (recordDurations fp c s actualDurations computeFPSJitters).targetNs = s.targetNs := by
  unfold recordDurations updateHeuristicBoost
  split_ifs
  · dsimp only
    split
    · split_ifs <;> rfl
    · rfl
  · rfl

/-- Whether an accepted report keeps its promise depends on the state before. -/
theorem good_iff (fp : FloatOps F) (s : Session) (call : Call F)
    (hlimits : call.config.getPidILowDivI ≤ call.config.getPidIHighDivI) :
    Good fp s call (step fp s call) ↔ Sound s call := by
  obtain ⟨c, op⟩ := call
  cases op with
  | updateTargetWorkDuration targetDurationNanos => exact Iff.rfl
  | reportActualWorkDuration actualDurations computeFPSJitters =>
    refine forall_congr' fun haccepted => ?_
    have hne : actualDurations ≠ [] := by
      rintro rfl
      simp [accepted] at haccepted
    cases hpid : c.mPidOn with
    | false =>
      have hreport : reportActualWorkDuration fp c s actualDurations computeFPSJitters =
          some { s with pidControlVariable := SessionRecords.int32 c.mUclampMinHigh } := by
        simp [reportActualWorkDuration, haccepted, hpid]
      simp [step, hreport, effectiveRange, hpid]
    | true =>
      have hsome := convert_isSome_iff fp c
        (recordDurations fp c s actualDurations computeFPSJitters) hne
      rw [recordDurations_targetNs] at hsome
      rw [if_pos rfl, ← hsome]
      cases hconvert : convertWorkDurationToBoostByPid fp c
          (recordDurations fp c s actualDurations computeFPSJitters) actualDurations with
      | none => simp [reportActualWorkDuration, haccepted, hpid, hconvert]
      | some out =>
        have hintegral := accumulateAll_integral (c := c)
          (s := recordDurations fp c s actualDurations computeFPSJitters) hlimits hne
        rw [← convert_integral hconvert] at hintegral
        simp only [step, reportActualWorkDuration, haccepted, hpid, hconvert, Bool.not_true,
          Bool.false_eq_true, if_false, Option.bind_some, Option.isSome_some, Option.getD_some,
          true_and, effectiveRange, if_true, iff_true]
        refine ⟨hintegral, fun hrange => ⟨le_max_left _ _, max_le hrange (min_le_left _ _)⟩⟩

end Lemmas

/-! ### Runs -/

/-- BUG: a target below 100 us is accepted and is the divisor 0 of the next report. Every report of a run
    divides by no 0 and keeps the integral error and the control variable in their ranges if and only
    if every accepted report finds a target of at least 100 us, or, without the controller, an
    integral error that is in its range. -/
theorem pid_update_iff (fp : FloatOps F) (s : Session) (calls : List (Call F))
    (hlimits : ∀ call ∈ calls, call.config.getPidILowDivI ≤ call.config.getPidIHighDivI) :
    Always (step fp) (Good fp) s calls ↔ Meets (step fp) Sound s calls := by
  refine always_iff_meets_given (fun s call (_ : True) hl hs => ?_) (fun s call _ hl hg => ?_) calls
    s trivial (meets_of_forall calls s hlimits)
  · exact ⟨trivial, (good_iff fp s call hl).mpr hs⟩
  · exact (good_iff fp s call hl).mp hg

/-- Arithmetic without rounding. -/
def exactOps : FloatOps ℚ where
  ofInt := fun n => n
  add := fun a b => a + b
  sub := fun a b => a - b
  mul := fun a b => a * b
  div := fun a b => a / b
  lt := fun a b => decide (a < b)
  le := fun a b => decide (a ≤ b)
  toInt64 := fun q => q.num.tdiv q.den
  toUint32 := fun q => q.num.tdiv q.den % 2 ^ 32

/-- A profile with the controller on and without the heuristic boost. -/
def plainProfile : AdpfConfig ℚ where
  mPidOn := true
  mPidPo := 2
  mPidPu := 1
  mPidI := 1
  mPidDo := 500
  mPidDu := 0
  getPidIHighDivI := 512
  getPidILowDivI := -120
  mSamplingWindowP := 1
  mSamplingWindowI := 0
  mSamplingWindowD := 1
  mUclampMinLow := 2
  mUclampMinHigh := 480
  mTargetTimeFactor := 1
  mHeuristicBoostOn := false
  mHBoostModerateJankThreshold := 4
  mHBoostSevereJankThreshold := 10
  mHBoostOffMaxAvgDurRatio := 4
  mHBoostSevereJankPidPu := 1
  mHBoostUclampMinFloorRange := (100, 200)
  mHBoostUclampMinCeilingRange := (480, 800)
  mLowFrameRateThreshold := 25
  records := ⟨50, fun _ _ => false, fun _ _ => false⟩

/-- A session without a target. -/
def newSession : Session where
  mSessionClosed := false
  is_active := true
  targetNs := 0
  pidControlVariable := 162
  integral_error := 0
  previous_error := 0
  mSessionRecords := SessionRecords.new plainProfile.records fun _ => ⟨0, 0, false, false⟩
  mJankyLevel := .LIGHT
  mJankyFrameNum := 0

/-- A target is set, and a report of 20 ms follows. -/
def targetAndReport (targetDurationNanos : ℤ) : List (Call ℚ) :=
  [⟨plainProfile, .updateTargetWorkDuration targetDurationNanos⟩,
    ⟨plainProfile, .reportActualWorkDuration [⟨0, 20000000⟩] false⟩]

/-- With a target of 16 ms. -/
theorem pid_update_iff_60hz :
    Always (step exactOps) (Good exactOps) newSession (targetAndReport 16666666) := by
  have hlimits : ∀ call ∈ targetAndReport 16666666,
      call.config.getPidILowDivI ≤ call.config.getPidIHighDivI := by
    decide
  exact (pid_update_iff exactOps newSession (targetAndReport 16666666) hlimits).mpr
    (by decide +kernel)

/-- With a target of 50 us the report divides by 0. -/
theorem small_target_divides_by_zero :
    ¬∀ (s : Session) (calls : List (Call ℚ)),
      (∀ call ∈ calls, call.config.getPidILowDivI ≤ call.config.getPidIHighDivI) →
        Always (step exactOps) (Good exactOps) s calls := by
  intro h
  obtain ⟨-, hgood, -⟩ := h newSession (targetAndReport 50000) (by decide)
  have hsound := (good_iff exactOps _ _ (by decide)).mp hgood
  exact absurd hsound (by decide +kernel)

end ImxHal.Power.Pid
