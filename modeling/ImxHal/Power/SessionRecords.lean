import ImxHal.Schemes.Leaders
import ImxHal.Schemes.Run
import Mathlib.Data.Int.Lemmas

/-! @src power/SessionRecords.cpp, power/SessionRecords.h, power/SessionMetrics.h | name:SessionRecords |
    scheme:leaders | family:sliding windows

    The records of the last frames of a hint session stand in a ring of `kMaxNumOfRecords` slots. Sums
    and counts over the ring are kept up as records come and go, and the largest duration is the front
    of a queue of slots, whose durations fall from the front to the back:

        slot            0    1    2    3    4             K = 5, eight frames since the reset
        frame           5    6    7    3    4
        duration       12    9   11   20   14             queue  3 4 0 2, which is 20 14 12 11
                                  ▲
                          mLatestRecordIndex

    The comparisons with a fraction of a duration are in floating-point numbers; they are a parameter. -/

namespace ImxHal.Power
open ImxHal.Run ImxHal.Leaders

/-! ### Durations and frames -/

structure WorkDuration where
  timeStampNanos : ℤ
  durationNanos : ℤ

structure FrameBuckets where
  totalNumOfFrames : ℤ
  numOfFrames17to25ms : ℤ
  numOfFrames25to34ms : ℤ
  numOfFrames34to67ms : ℤ
  numOfFrames67to100ms : ℤ
  numOfFramesOver100ms : ℤ

structure CycleRecord where
  startIntervalUs : ℤ
  totalDurationUs : ℤ
  isMissedCycle : Bool
  isFPSJitter : Bool
  deriving DecidableEq

/-- The window's size, and the two comparisons: `totalDurationUs > targetUs * kJankCheckTimeFactor` and
    `startIntervalUs > 1.4 * sum / kTotalFramesForFPSCheck`. -/
structure RecordsConfig where
  kMaxNumOfRecords : ℤ
  isMissed : ℤ → ℤ → Bool
  isJitter : ℤ → ℤ → Bool

def kTotalFramesForFPSCheck : ℤ := 3

/-- The vector of records is memory; its elements are those from 0 to `kMaxNumOfRecords - 1`. -/
structure SessionRecords where
  mRecords : ℤ → CycleRecord
  mRecordsIndQueue : List ℤ
  mAvgDurationUs : ℤ
  mLastStartTimeNs : ℤ
  mLatestRecordIndex : ℤ
  mNumOfMissedCycles : ℤ
  mNumOfFrames : ℤ
  mSumOfDurationsUs : ℤ
  mLatestStartIntervalSumUs : ℤ
  mNumOfFrameFPSJitters : ℤ
  mAddedFramesForFPSCheck : ℤ

namespace SessionRecords

/-- What is stored into an `int32_t`, and into an `int64_t`. -/
def int32 (x : ℤ) : ℤ := x.bmod (2 ^ 32)

def int64 (x : ℤ) : ℤ := x.bmod (2 ^ 64)

/-- The constructor; `stray` is the memory around the vector. -/
def new (c : RecordsConfig) (stray : ℤ → CycleRecord) : SessionRecords where
  mRecords i := if 0 ≤ i ∧ i < c.kMaxNumOfRecords then ⟨0, 0, false, false⟩ else stray i
  mRecordsIndQueue := []
  mAvgDurationUs := 0
  mLastStartTimeNs := 0
  mLatestRecordIndex := -1
  mNumOfMissedCycles := 0
  mNumOfFrames := 0
  mSumOfDurationsUs := 0
  mLatestStartIntervalSumUs := 0
  mNumOfFrameFPSJitters := 0
  mAddedFramesForFPSCheck := 0

variable (c : RecordsConfig)

/-- Where the next record goes, which is where the oldest is when the window is full. -/
def nextIndex (r : SessionRecords) : ℤ := (r.mLatestRecordIndex + 1) % c.kMaxNumOfRecords

/-- "Remove the oldest record when the number of records is greater than allowed." -/
def removeOldest (r : SessionRecords) : SessionRecords :=
  if r.mNumOfFrames ≥ c.kMaxNumOfRecords then
    let indexOfRecordToRemove := nextIndex c r
    let record := r.mRecords indexOfRecordToRemove
    { r with
      mSumOfDurationsUs := r.mSumOfDurationsUs - record.totalDurationUs
      mNumOfMissedCycles :=
        if record.isMissedCycle then r.mNumOfMissedCycles - 1 else r.mNumOfMissedCycles
      mNumOfFrameFPSJitters :=
        if record.isFPSJitter then r.mNumOfFrameFPSJitters - 1 else r.mNumOfFrameFPSJitters
      mNumOfFrames := r.mNumOfFrames - 1
      mRecordsIndQueue :=
        if r.mRecordsIndQueue.head? = some indexOfRecordToRemove then r.mRecordsIndQueue.tail
        else r.mRecordsIndQueue }
  else r

def startTimeNs (duration : WorkDuration) : ℤ := int64 (duration.timeStampNanos - duration.durationNanos)

/-- "Track start delay": the first frame has none. -/
def startIntervalUs (r : SessionRecords) (duration : WorkDuration) : ℤ :=
  if r.mNumOfFrames > 0 then
    int32 ((int64 (startTimeNs duration - r.mLastStartTimeNs)).tdiv 1000)
  else 0

/-- "A frame is evaluated as FPS jitter if its startInterval is not less than previous three frames'
    average startIntervals." -/
def FPSJitter (r : SessionRecords) (computeFPSJitters : Bool) (startIntervalUs : ℤ) : Bool :=
  computeFPSJitters && decide (kTotalFramesForFPSCheck ≤ r.mAddedFramesForFPSCheck) &&
    c.isJitter startIntervalUs r.mLatestStartIntervalSumUs

/-- The record that falls out of the sum when the next one is at `mLatestRecordIndex`. -/
def oldRecordIndex (r : SessionRecords) : ℤ :=
  let oldRecordIndex := r.mLatestRecordIndex - kTotalFramesForFPSCheck
  if oldRecordIndex < 0 then oldRecordIndex + c.kMaxNumOfRecords else oldRecordIndex

/-- "Track the number of frame FPS jitters." -/
def trackFPS (r : SessionRecords) (computeFPSJitters : Bool) (startIntervalUs : ℤ) : SessionRecords :=
  if computeFPSJitters then
    if r.mAddedFramesForFPSCheck < kTotalFramesForFPSCheck then
      if startIntervalUs > 0 then
        { r with
          mLatestStartIntervalSumUs := int32 (r.mLatestStartIntervalSumUs + startIntervalUs)
          mAddedFramesForFPSCheck := r.mAddedFramesForFPSCheck + 1 }
      else r
    else
      { r with
        mNumOfFrameFPSJitters :=
          if FPSJitter c r computeFPSJitters startIntervalUs then r.mNumOfFrameFPSJitters + 1
          else r.mNumOfFrameFPSJitters
        mLatestStartIntervalSumUs := int32 (r.mLatestStartIntervalSumUs
          + (startIntervalUs - (r.mRecords (oldRecordIndex c r)).startIntervalUs)) }
  else { r with mLatestStartIntervalSumUs := 0, mAddedFramesForFPSCheck := 0 }

/-- The record is stored, and what is kept over the window is brought up to date. -/
def store (r : SessionRecords) (record : CycleRecord) : SessionRecords :=
  let mRecords := Function.update r.mRecords r.mLatestRecordIndex record
  let mSumOfDurationsUs := r.mSumOfDurationsUs + record.totalDurationUs
  { r with
    mRecords := mRecords
    mNumOfFrames := r.mNumOfFrames + 1
    mNumOfMissedCycles :=
      if record.isMissedCycle then r.mNumOfMissedCycles + 1 else r.mNumOfMissedCycles
    mRecordsIndQueue := (r.mRecordsIndQueue.rdropWhile fun i =>
      (mRecords i).totalDurationUs ≤ record.totalDurationUs) ++ [r.mLatestRecordIndex]
    mSumOfDurationsUs := mSumOfDurationsUs
    mAvgDurationUs := int32 (mSumOfDurationsUs.tdiv (r.mNumOfFrames + 1)) }

def totalDurationUs (duration : WorkDuration) : ℤ := int32 (duration.durationNanos.tdiv 1000)

def cycleMissed (targetDurationNs : ℤ) (duration : WorkDuration) : Bool :=
  c.isMissed (totalDurationUs duration) (targetDurationNs.tdiv 1000)

/-- The body of the loop over the durations. -/
def addDuration (targetDurationNs : ℤ) (computeFPSJitters : Bool) (r : SessionRecords)
    (duration : WorkDuration) : SessionRecords :=
  let r := removeOldest c r
  let r := { r with mLatestRecordIndex := nextIndex c r }
  let startIntervalUs := startIntervalUs r duration
  let r := { r with mLastStartTimeNs := startTimeNs duration }
  let FPSJitter := FPSJitter c r computeFPSJitters startIntervalUs
  store (trackFPS c r computeFPSJitters startIntervalUs)
    ⟨startIntervalUs, totalDurationUs duration, cycleMissed c targetDurationNs duration, FPSJitter⟩

def updateFrameBuckets (frameDurationUs : ℤ) (isJankFrame : Bool) (b : FrameBuckets) : FrameBuckets :=
  let b := { b with totalNumOfFrames := b.totalNumOfFrames + 1 }
  if isJankFrame = false ∨ frameDurationUs < 17000 then b
  else if frameDurationUs < 25000 then { b with numOfFrames17to25ms := b.numOfFrames17to25ms + 1 }
  else if frameDurationUs < 34000 then { b with numOfFrames25to34ms := b.numOfFrames25to34ms + 1 }
  else if frameDurationUs < 67000 then { b with numOfFrames34to67ms := b.numOfFrames34to67ms + 1 }
  else if frameDurationUs < 100000 then { b with numOfFrames67to100ms := b.numOfFrames67to100ms + 1 }
  else { b with numOfFramesOver100ms := b.numOfFramesOver100ms + 1 }

def addReportedDurations (r : SessionRecords) (actualDurationsNs : List WorkDuration)
    (targetDurationNs : ℤ) (newFramesInBuckets : FrameBuckets) (computeFPSJitters : Bool) :
    SessionRecords × FrameBuckets :=
  (actualDurationsNs.foldl (addDuration c targetDurationNs computeFPSJitters) r,
    actualDurationsNs.foldl (fun b duration => updateFrameBuckets (totalDurationUs duration)
      (cycleMissed c targetDurationNs duration) b) newFramesInBuckets)

def getMaxDuration (r : SessionRecords) : Option ℤ :=
  r.mRecordsIndQueue.head?.map fun i => (r.mRecords i).totalDurationUs

def getAvgDuration (r : SessionRecords) : Option ℤ :=
  if r.mNumOfFrames ≤ 0 then none else some r.mAvgDurationUs

def getNumOfRecords (r : SessionRecords) : ℤ := r.mNumOfFrames

def getNumOfMissedCycles (r : SessionRecords) : ℤ := r.mNumOfMissedCycles

def resetRecords (r : SessionRecords) : SessionRecords :=
  { r with
    mAvgDurationUs := 0
    mLastStartTimeNs := 0
    mLatestRecordIndex := -1
    mNumOfMissedCycles := 0
    mNumOfFrames := 0
    mSumOfDurationsUs := 0
    mRecordsIndQueue := [] }

def getNumOfFPSJitters (r : SessionRecords) : ℤ := r.mNumOfFrameFPSJitters

/-! ### What the window holds -/

/-- The duration of a numbered record. -/
def duration (x : ℕ × CycleRecord) : ℤ := x.2.totalDurationUs

/-- The slot of a numbered record. -/
def slot (k : ℕ) (x : ℕ × CycleRecord) : ℤ := ((x.1 % k : ℕ) : ℤ)

/-- The records of the window `w`, each with its number since the last reset; `n` is the next number. -/
structure Window (k n : ℕ) (w : List (ℕ × CycleRecord)) (r : SessionRecords) : Prop where
  size : w.length ≤ k
  numbers : w.map Prod.fst = List.range' (n - w.length) w.length
  size_le : w.length ≤ n
  frames : r.mNumOfFrames = w.length
  stored : ∀ x ∈ w, r.mRecords (slot k x) = x.2
  queue : r.mRecordsIndQueue = (leaders duration w).map (slot k)
  sum : r.mSumOfDurationsUs = (w.map duration).sum
  missed : r.mNumOfMissedCycles = w.countP (·.2.isMissedCycle)

/-- The slot of the last of `n` records. -/
def Latest (k n : ℕ) (r : SessionRecords) : Prop :=
  r.mLatestRecordIndex = if n = 0 then -1 else (((n - 1) % k : ℕ) : ℤ)

section Lemmas
variable {c : RecordsConfig} {k n : ℕ} {w : List (ℕ × CycleRecord)} {r : SessionRecords}

/-- Numbers that are less than a turn apart have different slots. -/
theorem slot_ne {i j : ℕ} (hlt : i < j) (hturn : j < i + k) : ((i % k : ℕ) : ℤ) ≠ ((j % k : ℕ) : ℤ) := by
  intro h
  have hmod : i % k = j % k := by exact_mod_cast h
  have hdvd : k ∣ j - i := (Nat.modEq_iff_dvd' hlt.le).mp hmod
  have hle := Nat.le_of_dvd (by omega) hdvd
  omega

theorem Window.number_mem (h : Window k n w r) {x : ℕ × CycleRecord} (hx : x ∈ w) :
    n - w.length ≤ x.1 ∧ x.1 < n := by
  have hmem : x.1 ∈ w.map Prod.fst := List.mem_map_of_mem hx
  rw [h.numbers, List.mem_range'_1] at hmem
  have hle := h.size_le
  omega

theorem Latest.nextIndex (hk : c.kMaxNumOfRecords = k) (h : Latest k n r) :
    nextIndex c r = ((n % k : ℕ) : ℤ) := by
  rw [SessionRecords.nextIndex, h, hk]
  split
  · next hn => rw [hn]; rfl
  · next hn =>
    have hsucc : (n - 1) % k + 1 ≡ n [MOD k] := by
      have hmod := (Nat.mod_modEq (n - 1) k).add_right 1
      rwa [Nat.sub_add_cancel (Nat.pos_of_ne_zero hn)] at hmod
    exact_mod_cast hsucc

/-- The fields of the frame rate have no part in it. -/
theorem Window.congr {r' : SessionRecords} (h : Window k n w r) (hrecords : r'.mRecords = r.mRecords)
    (hqueue : r'.mRecordsIndQueue = r.mRecordsIndQueue) (hframes : r'.mNumOfFrames = r.mNumOfFrames)
    (hsum : r'.mSumOfDurationsUs = r.mSumOfDurationsUs)
    (hmissed : r'.mNumOfMissedCycles = r.mNumOfMissedCycles) : Window k n w r' where
  size := h.size
  numbers := h.numbers
  size_le := h.size_le
  frames := hframes.trans h.frames
  stored := hrecords ▸ h.stored
  queue := hqueue.trans h.queue
  sum := hsum.trans h.sum
  missed := hmissed.trans h.missed

/-- The number of the oldest record. -/
theorem Window.oldest {x : ℕ × CycleRecord} (h : Window k n (x :: w) r) :
    x.1 = n - (x :: w).length ∧ w.map Prod.fst = List.range' (n - w.length) w.length := by
  have hnumbers := h.numbers
  have hle := h.size_le
  rw [List.map_cons, List.length_cons, List.range'_succ] at hnumbers
  obtain ⟨hx, hw⟩ := List.cons_eq_cons.mp hnumbers
  rw [List.length_cons] at hle
  have hfirst : n - (w.length + 1) + 1 = n - w.length := by omega
  exact ⟨hx, hfirst ▸ hw⟩

/-- The oldest record leaves a full window. -/
theorem Window.removeOldest {x : ℕ × CycleRecord} (hk : c.kMaxNumOfRecords = k)
    (h : Window k n (x :: w) r) (hlatest : Latest k n r) (hfull : (x :: w).length = k) :
    Window k n w (removeOldest c r) := by
  obtain ⟨hx, hnumbers⟩ := h.oldest
  have hle := h.size_le
  have hslot : ((n % k : ℕ) : ℤ) = slot k x := by
    rw [slot, hx, hfull, ← Nat.mod_eq_sub_mod (hfull ▸ hle)]
  have hremove : r.mNumOfFrames ≥ c.kMaxNumOfRecords := by
    rw [h.frames, hk, hfull]
  have hrecord : r.mRecords (slot k x) = x.2 := h.stored x (List.mem_cons_self ..)
  have hother : ∀ y ∈ w, slot k y ≠ slot k x := by
    intro y hy
    have hmem : y.1 ∈ w.map Prod.fst := List.mem_map_of_mem hy
    rw [hnumbers, List.mem_range'_1] at hmem
    rw [List.length_cons] at hx hfull hle
    exact (slot_ne (by omega) (by omega)).symm
  simp only [List.length_cons] at hle
  rw [SessionRecords.removeOldest, if_pos hremove, hlatest.nextIndex hk, hslot]
  dsimp only
  rw [hrecord]
  exact {
    size := (Nat.le_succ _).trans h.size
    numbers := hnumbers
    size_le := (Nat.le_succ _).trans hle
    frames := by
      change r.mNumOfFrames - 1 = _
      rw [h.frames, List.length_cons]
      push_cast
      ring
    stored := fun y hy => h.stored y (List.mem_cons_of_mem _ hy)
    queue := by
      change (if r.mRecordsIndQueue.head? = some (slot k x) then r.mRecordsIndQueue.tail
        else r.mRecordsIndQueue) = _
      rw [h.queue, map_leaders_tail (slot k) x w hother]
    sum := by
      change r.mSumOfDurationsUs - x.2.totalDurationUs = _
      rw [h.sum, List.map_cons, List.sum_cons, duration]
      ring
    missed := by
      change (if x.2.isMissedCycle then r.mNumOfMissedCycles - 1 else r.mNumOfMissedCycles) = _
      rw [h.missed, List.countP_cons]
      split
      · push_cast
        ring
      · push_cast
        ring }

/-- A window with room is left alone. -/
theorem removeOldest_of_lt (hk : c.kMaxNumOfRecords = k) (h : Window k n w r) (hlt : w.length < k) :
    SessionRecords.removeOldest c r = r := by
  rw [SessionRecords.removeOldest, if_neg]
  rw [h.frames, hk]
  omega

/-- A record comes into a window with room. -/
theorem Window.store (h : Window k n w r) (hlatest : r.mLatestRecordIndex = ((n % k : ℕ) : ℤ))
    (hlt : w.length < k) (record : CycleRecord) :
    Window k (n + 1) (w ++ [(n, record)]) (store r record) := by
  have hother : ∀ x ∈ w, slot k x ≠ r.mLatestRecordIndex := by
    intro x hx
    obtain ⟨hge, hlt'⟩ := h.number_mem hx
    rw [hlatest]
    exact slot_ne hlt' (by omega)
  have hnew : slot k (n, record) = r.mLatestRecordIndex := hlatest.symm
  have hold : ∀ x ∈ w, Function.update r.mRecords r.mLatestRecordIndex record (slot k x) = x.2 := by
    intro x hx
    rw [Function.update_of_ne (hother x hx), h.stored x hx]
  have hle := h.size_le
  exact {
    size := by simpa using hlt
    numbers := by
      have hfirst : n + 1 - (w.length + 1) = n - w.length := by omega
      rw [List.map_append, h.numbers, List.length_append, List.length_singleton, hfirst,
        List.range'_concat, Nat.one_mul, Nat.sub_add_cancel hle]
      rfl
    size_le := by simpa using hle
    frames := by
      change r.mNumOfFrames + 1 = _
      rw [h.frames, List.length_append]
      rfl
    stored := by
      intro x hx
      change Function.update r.mRecords r.mLatestRecordIndex record (slot k x) = x.2
      rcases List.mem_append.mp hx with hx | hx
      · exact hold x hx
      · rw [List.mem_singleton.mp hx, hnew, Function.update_self]
    queue := by
      change (r.mRecordsIndQueue.rdropWhile fun i => (Function.update r.mRecords
        r.mLatestRecordIndex record i).totalDurationUs ≤ record.totalDurationUs)
          ++ [r.mLatestRecordIndex] = _
      rw [h.queue, map_leaders_concat (slot k) (fun i => (Function.update r.mRecords
        r.mLatestRecordIndex record i).totalDurationUs) w (n, record), hnew]
      · rfl
      · intro x hx
        rw [hold x hx, duration]
    sum := by
      change r.mSumOfDurationsUs + record.totalDurationUs = _
      rw [h.sum, List.map_append, List.sum_append]
      simp [duration]
    missed := by
      change (if record.isMissedCycle then r.mNumOfMissedCycles + 1 else r.mNumOfMissedCycles) = _
      rw [h.missed, List.countP_append, List.countP_singleton]
      split
      · push_cast
        ring
      · push_cast
        ring }

/-- Nothing but the fields of the frame rate is changed. -/
theorem Window.trackFPS {flag : Bool} {startIntervalUs : ℤ} (h : Window k n w r) :
    Window k n w (trackFPS c r flag startIntervalUs) := by
  rw [SessionRecords.trackFPS]
  split
  · split
    · split
      · exact h.congr rfl rfl rfl rfl rfl
      · exact h
    · exact h.congr rfl rfl rfl rfl rfl
  · exact h.congr rfl rfl rfl rfl rfl

theorem trackFPS_mLatestRecordIndex {flag : Bool} {startIntervalUs : ℤ} :
    (SessionRecords.trackFPS c r flag startIntervalUs).mLatestRecordIndex = r.mLatestRecordIndex := by
  rw [SessionRecords.trackFPS]
  split
  · split
    · split <;> rfl
    · rfl
  · rfl

/-- The records that stay when one more comes: the oldest one goes if there is no room. -/
def kept (k : ℕ) (w : List (ℕ × CycleRecord)) : List (ℕ × CycleRecord) :=
  if w.length = k then w.tail else w

/-- The window after one more record. -/
def slide (k : ℕ) (w : List (ℕ × CycleRecord)) (x : ℕ × CycleRecord) : List (ℕ × CycleRecord) :=
  kept k w ++ [x]

/-- Room is made, in a window of any size. -/
theorem Window.makeRoom (hk : c.kMaxNumOfRecords = k) (hpos : 0 < k) (h : Window k n w r)
    (hlatest : Latest k n r) :
    Window k n (kept k w) (SessionRecords.removeOldest c r) ∧ (kept k w).length < k := by
  rw [kept]
  split
  · next hfull =>
    cases w with
    | nil => exact absurd hfull hpos.ne
    | cons x w =>
      refine ⟨h.removeOldest hk hlatest hfull, ?_⟩
      rw [List.tail_cons, ← hfull]
      exact Nat.lt_succ_self _
  · next hroom =>
    have hlt := lt_of_le_of_ne h.size hroom
    exact ⟨(removeOldest_of_lt hk h hlt).symm ▸ h, hlt⟩

theorem removeOldest_mLatestRecordIndex :
    (SessionRecords.removeOldest c r).mLatestRecordIndex = r.mLatestRecordIndex := by
  rw [SessionRecords.removeOldest]
  split <;> rfl

/-- The state in which the interval of the next frame is looked at. -/
def beforeTrack (c : RecordsConfig) (r : SessionRecords) (duration : WorkDuration) : SessionRecords :=
  { SessionRecords.removeOldest c r with
    mLatestRecordIndex := nextIndex c r
    mLastStartTimeNs := startTimeNs duration }

/-- The interval of the next frame. -/
def nextInterval (c : RecordsConfig) (r : SessionRecords) (duration : WorkDuration) : ℤ :=
  startIntervalUs (SessionRecords.removeOldest c r) duration

/-- The record of the next frame. -/
def nextRecord (c : RecordsConfig) (targetDurationNs : ℤ) (flag : Bool) (r : SessionRecords)
    (duration : WorkDuration) : CycleRecord :=
  ⟨nextInterval c r duration, totalDurationUs duration, cycleMissed c targetDurationNs duration,
    FPSJitter c (beforeTrack c r duration) flag (nextInterval c r duration)⟩

theorem addDuration_eq (targetDurationNs : ℤ) (flag : Bool) (d : WorkDuration) :
    addDuration c targetDurationNs flag r d
      = store (SessionRecords.trackFPS c (beforeTrack c r d) flag (nextInterval c r d))
        (nextRecord c targetDurationNs flag r d) := by
  have hnext : nextIndex c (SessionRecords.removeOldest c r) = nextIndex c r := by
    rw [nextIndex, removeOldest_mLatestRecordIndex, nextIndex]
  simp only [addDuration, beforeTrack, nextRecord, nextInterval, hnext]
  rfl

/-- One more frame. -/
theorem Window.addDuration (hk : c.kMaxNumOfRecords = k) (hpos : 0 < k) (h : Window k n w r)
    (hlatest : Latest k n r) (targetDurationNs : ℤ) (flag : Bool) (d : WorkDuration) :
    Window k (n + 1) (slide k w (n, nextRecord c targetDurationNs flag r d))
        (addDuration c targetDurationNs flag r d) ∧
      Latest k (n + 1) (addDuration c targetDurationNs flag r d) := by
  obtain ⟨hroom, hlt⟩ := h.makeRoom hk hpos hlatest
  have hbefore : Window k n (kept k w) (beforeTrack c r d) :=
    hroom.congr rfl rfl rfl rfl rfl
  have hslot : (SessionRecords.trackFPS c (beforeTrack c r d) flag
      (nextInterval c r d)).mLatestRecordIndex = ((n % k : ℕ) : ℤ) := by
    rw [trackFPS_mLatestRecordIndex]
    exact hlatest.nextIndex hk
  rw [addDuration_eq]
  exact ⟨hbefore.trackFPS.store hslot hlt _, hslot⟩

theorem window_new (c : RecordsConfig) (k : ℕ) (stray : ℤ → CycleRecord) : Window k 0 [] (new c stray) where
  size := Nat.zero_le k
  numbers := rfl
  size_le := le_refl 0
  frames := rfl
  stored := fun _ hx => absurd hx List.not_mem_nil
  queue := rfl
  sum := rfl
  missed := rfl

theorem window_reset (k : ℕ) (r : SessionRecords) : Window k 0 [] (resetRecords r) where
  size := Nat.zero_le k
  numbers := rfl
  size_le := le_refl 0
  frames := rfl
  stored := fun _ hx => absurd hx List.not_mem_nil
  queue := rfl
  sum := rfl
  missed := rfl

/-- The average is the one of the sum. -/
def Averaged (r : SessionRecords) : Prop :=
  r.mNumOfFrames ≠ 0 → r.mAvgDurationUs = int32 (r.mSumOfDurationsUs.tdiv r.mNumOfFrames)

theorem averaged_addDuration (targetDurationNs : ℤ) (flag : Bool) (d : WorkDuration) :
    Averaged (addDuration c targetDurationNs flag r d) := by
  rw [addDuration_eq]
  exact fun _ => rfl

end Lemmas

/-! ### Whole runs -/

/-- A call on the records. -/
inductive Op where
  | addReportedDurations (actualDurationsNs : List WorkDuration) (targetDurationNs : ℤ)
    (newFramesInBuckets : FrameBuckets) (computeFPSJitters : Bool)
  | resetRecords

def step (r : SessionRecords) : Op → SessionRecords
  | .addReportedDurations durations target buckets flag =>
    (addReportedDurations c r durations target buckets flag).1
  | .resetRecords => resetRecords r

/-- A duration in microseconds and whether it missed its target. -/
def outcome (targetDurationNs : ℤ) (d : WorkDuration) : ℤ × Bool :=
  (d.durationNanos.tdiv 1000, c.isMissed (d.durationNanos.tdiv 1000) (targetDurationNs.tdiv 1000))

/-- What has been reported since the last reset. -/
def report (past : List (ℤ × Bool)) : Op → List (ℤ × Bool)
  | .addReportedDurations durations target _ _ => past ++ durations.map (outcome c target)
  | .resetRecords => []

/-- The last `k` elements. -/
def last {α : Type} (k : ℕ) (l : List α) : List α := l.drop (l.length - k)

/-- The durations fit 32 bits, in microseconds. -/
def Op.Fits : Op → Prop
  | .addReportedDurations durations _ _ _ => ∀ d ∈ durations,
    -2 ^ 31 ≤ d.durationNanos.tdiv 1000 ∧ d.durationNanos.tdiv 1000 < 2 ^ 31
  | .resetRecords => True

section Runs
variable {c : RecordsConfig} {k : ℕ} {r : SessionRecords} {past : List (ℤ × Bool)}

theorem length_last {α : Type} (l : List α) : (last k l).length = min l.length k := by
  rw [last, List.length_drop]
  omega

theorem last_concat {α : Type} (l : List α) (x : α) (hpos : 0 < k) :
    last k (l ++ [x]) = (if (last k l).length = k then (last k l).tail else last k l) ++ [x] := by
  rw [length_last, last, last, List.length_append, List.length_singleton, List.tail_drop]
  split
  · next hfull =>
    have hdrop : l.length + 1 - k = l.length - k + 1 := by omega
    rw [hdrop, List.drop_append_of_le_length (by omega)]
  · next hroom =>
    have hdrop : l.length + 1 - k = l.length - k := by omega
    rw [hdrop, List.drop_append_of_le_length (by omega)]

/-- What a record keeps of a report. -/
def recorded (x : ℕ × CycleRecord) : ℤ × Bool := (x.2.totalDurationUs, x.2.isMissedCycle)

/-- The records are the last ones of the past. -/
structure Kept (c : RecordsConfig) (k : ℕ) (past : List (ℤ × Bool)) (r : SessionRecords) : Prop where
  averaged : Averaged r
  small : ∀ x ∈ past, -2 ^ 31 ≤ x.1 ∧ x.1 < 2 ^ 31
  window : ∃ w, Window k past.length w r ∧ Latest k past.length r ∧ w.map recorded = last k past

theorem int32_eq {x : ℤ} (h : -2 ^ 31 ≤ x ∧ x < 2 ^ 31) : int32 x = x :=
  Int.bmod_eq_of_le (by omega) (by omega)

theorem map_slide (w : List (ℕ × CycleRecord)) (x : ℕ × CycleRecord) (hpos : 0 < k)
    (h : w.map recorded = last k past) :
    (slide k w x).map recorded = last k (past ++ [recorded x]) := by
  have hlen : w.length = (last k past).length := by rw [← h, List.length_map]
  rw [last_concat past _ hpos, slide, kept, List.map_append, ← h, List.length_map]
  split
  · rw [List.map_tail]
    rfl
  · rfl

theorem Kept.addDuration (hk : c.kMaxNumOfRecords = k) (hpos : 0 < k) (h : Kept c k past r)
    (target : ℤ) (flag : Bool) (d : WorkDuration)
    (hfits : -2 ^ 31 ≤ d.durationNanos.tdiv 1000 ∧ d.durationNanos.tdiv 1000 < 2 ^ 31) :
    Kept c k (past ++ [outcome c target d]) (SessionRecords.addDuration c target flag r d) := by
  obtain ⟨w, hw, hlatest, hmap⟩ := h.window
  obtain ⟨hw', hlatest'⟩ := hw.addDuration hk hpos hlatest target flag d
  have hrecorded : recorded (past.length, nextRecord c target flag r d) = outcome c target d := by
    have htotal : totalDurationUs d = d.durationNanos.tdiv 1000 := int32_eq hfits
    rw [recorded, nextRecord, outcome, cycleMissed, htotal]
  refine ⟨averaged_addDuration target flag d, ?_,
    slide k w (past.length, nextRecord c target flag r d), ?_, ?_, ?_⟩
  · intro x hx
    rcases List.mem_append.mp hx with hx | hx
    · exact h.small x hx
    · rw [List.mem_singleton.mp hx]
      exact hfits
  · rw [List.length_append]
    exact hw'
  · rw [List.length_append]
    exact hlatest'
  · rw [map_slide w _ hpos hmap, hrecorded]

/-- One call, with any number of frames. -/
theorem Kept.step (hk : c.kMaxNumOfRecords = k) (hpos : 0 < k) (h : Kept c k past r) (op : Op)
    (hfits : op.Fits) : Kept c k (report c past op) (SessionRecords.step c r op) := by
  cases op with
  | addReportedDurations durations target buckets flag =>
    rw [report, SessionRecords.step, addReportedDurations]
    induction durations generalizing r past with
    | nil =>
      rw [List.map_nil, List.append_nil]
      exact h
    | cons d durations ih =>
      have hd := h.addDuration hk hpos target flag d (hfits d (List.mem_cons_self ..))
      have hrest := ih hd fun d' hd' => hfits d' (List.mem_cons_of_mem _ hd')
      rw [List.append_assoc] at hrest
      exact hrest
  | resetRecords =>
    refine ⟨fun hne => absurd rfl hne, fun _ hx => absurd hx List.not_mem_nil, [], ?_, rfl,
      List.drop_nil.symm⟩
    exact window_reset k r

theorem Kept.run (hk : c.kMaxNumOfRecords = k) (hpos : 0 < k) (ops : List Op) (h : Kept c k past r)
    (hfits : ∀ op ∈ ops, op.Fits) :
    Kept c k (ops.foldl (report c) past) (Run.run (SessionRecords.step c) r ops) := by
  induction ops generalizing r past with
  | nil => exact h
  | cons op ops ih =>
    have hop := h.step hk hpos op (hfits op (List.mem_cons_self ..))
    exact ih hop fun op' hop' => hfits op' (List.mem_cons_of_mem _ hop')

theorem kept_new (c : RecordsConfig) (k : ℕ) (stray : ℤ → CycleRecord) : Kept c k [] (new c stray) := by
  refine ⟨fun hne => absurd rfl hne, fun _ hx => absurd hx List.not_mem_nil, [], ?_, rfl,
    List.drop_nil.symm⟩
  exact window_new c k stray

/-- The average of numbers of 32 bits is one. -/
theorem average_small (l : List ℤ) (hne : l ≠ []) (h : ∀ x ∈ l, -2 ^ 31 ≤ x ∧ x < 2 ^ 31) :
    -2 ^ 31 ≤ l.sum.tdiv l.length ∧ l.sum.tdiv l.length < 2 ^ 31 := by
  have hlen : (0 : ℤ) < l.length := by exact_mod_cast List.length_pos_iff.mpr hne
  have hlow : (l.length : ℤ) * -2 ^ 31 ≤ l.sum := by
    have hsum := List.card_nsmul_le_sum l (-2 ^ 31 : ℤ) fun x hx => (h x hx).1
    rwa [nsmul_eq_mul] at hsum
  have hhigh : l.sum ≤ (l.length : ℤ) * (2 ^ 31 - 1) := by
    have hsum := List.sum_le_card_nsmul l (2 ^ 31 - 1 : ℤ) fun x hx => Int.le_sub_one_of_lt (h x hx).2
    rwa [nsmul_eq_mul] at hsum
  have hlow' := Int.tdiv_le_tdiv hlen hlow
  have hhigh' := Int.tdiv_le_tdiv hlen hhigh
  rw [Int.mul_tdiv_cancel_left _ hlen.ne'] at hlow' hhigh'
  exact ⟨hlow', by omega⟩

/-- What the records say about a window they keep. -/
theorem Kept.getters (h : Kept c k past r) :
    getNumOfRecords r = min (past.length : ℤ) k ∧
      getMaxDuration r = ((last k past).map Prod.fst).max? ∧
      getAvgDuration r = (if last k past = [] then none
        else some (((last k past).map Prod.fst).sum.tdiv (last k past).length)) ∧
      getNumOfMissedCycles r = (last k past).countP Prod.snd := by
  obtain ⟨w, hw, -, hmap⟩ := h.window
  have hlen : w.length = (last k past).length := by rw [← hmap, List.length_map]
  have hdurations : w.map duration = (last k past).map Prod.fst := by
    rw [← hmap, List.map_map]
    rfl
  refine ⟨?_, ?_, ?_, ?_⟩
  · rw [getNumOfRecords, hw.frames, hlen, length_last]
    exact Nat.cast_min _ _
  · rw [← hdurations, max?_map_key, getMaxDuration, hw.queue, List.head?_map, Option.map_map]
    cases hhead : (leaders duration w).head? with
    | none => rfl
    | some x =>
      have hx := (leaders_sublist w).subset (List.mem_of_head? hhead)
      rw [Option.map_some, Option.map_some, Function.comp_apply, hw.stored x hx, duration]
  · rw [getAvgDuration, hw.frames, ← hdurations]
    by_cases hnil : last k past = []
    · rw [if_pos hnil, if_pos (by rw [hlen, hnil]; rfl)]
    · have hne : w ≠ [] := by
        rintro rfl
        exact hnil hmap.symm
      have hpos := List.length_pos_iff.mpr hne
      have hframes : r.mNumOfFrames ≠ 0 := by
        rw [hw.frames]
        omega
      have hsmall := average_small (w.map duration) (by simpa using hne) fun x hx => by
        rw [hdurations] at hx
        obtain ⟨y, hy, rfl⟩ := List.mem_map.mp hx
        exact h.small y (List.drop_sublist _ _ |>.subset hy)
      rw [List.length_map] at hsmall
      rw [if_neg hnil, if_neg (by omega), h.averaged hframes, hw.sum, hw.frames, int32_eq hsmall, hlen]
  · rw [getNumOfMissedCycles, hw.missed, ← hmap, List.countP_map]
    rfl

/-- The records are those of the last reports, whatever has been reported and reset before: their
    number, their largest and their average duration, and how many missed their target. -/
theorem session_records_window (c : RecordsConfig) (stray : ℤ → CycleRecord) (ops : List Op)
    (hsize : 1 ≤ c.kMaxNumOfRecords) (hfits : ∀ op ∈ ops, op.Fits) :
    let r := Run.run (SessionRecords.step c) (new c stray) ops
    let past := ops.foldl (report c) []
    let recent := last c.kMaxNumOfRecords.toNat past
    getNumOfRecords r = min (past.length : ℤ) c.kMaxNumOfRecords ∧
      getMaxDuration r = (recent.map Prod.fst).max? ∧
      getAvgDuration r = (if recent = [] then none
        else some ((recent.map Prod.fst).sum.tdiv recent.length)) ∧
      getNumOfMissedCycles r = recent.countP Prod.snd := by
  have hk : c.kMaxNumOfRecords = c.kMaxNumOfRecords.toNat := (Int.toNat_of_nonneg (by omega)).symm
  have hkept := (kept_new c c.kMaxNumOfRecords.toNat stray).run hk (by omega) ops hfits
  rw [hk]
  exact hkept.getters

/-- A window of two frames, and three frames of 9, 7 and 8 milliseconds for a target of 7.5. -/
def twoFrames : RecordsConfig := ⟨2, fun duration target => target < duration, fun _ _ => false⟩

def threeReports : List Op := [.addReportedDurations
  [⟨20000000, 9000000⟩, ⟨40000000, 7000000⟩, ⟨60000000, 8000000⟩] 7500000 ⟨0, 0, 0, 0, 0, 0⟩ false]

theorem session_records_window_three :
    let r := Run.run (SessionRecords.step twoFrames) (new twoFrames fun _ => ⟨0, 0, false, false⟩)
      threeReports
    getNumOfRecords r = 2 ∧ getMaxDuration r = some 8000 ∧ getAvgDuration r = some 7500 ∧
      getNumOfMissedCycles r = 1 := by
  have hfits : ∀ op ∈ threeReports, op.Fits := by
    intro op hop
    rw [List.mem_singleton.mp hop, Op.Fits]
    decide
  obtain ⟨hnumber, hmax, havg, hmissed⟩ := session_records_window twoFrames
    (fun _ => ⟨0, 0, false, false⟩) threeReports (by decide) hfits
  exact ⟨hnumber.trans (by decide), hmax.trans (by decide), havg.trans (by decide),
    hmissed.trans (by decide)⟩

end Runs

end SessionRecords

end ImxHal.Power
