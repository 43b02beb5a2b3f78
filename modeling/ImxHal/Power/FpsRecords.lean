import ImxHal.Power.SessionRecords

/-! @src power/SessionRecords.cpp, power/PowerHintSession.cpp (updateHeuristicBoost) | name:FPS statistics |
    scheme:leaders | family:sliding windows

    For the frame rate the records keep the sum of the last three start intervals. The first three
    intervals are gathered one by one, and only positive ones count; from then on each new interval
    replaces the one that is three records older:

        flag off ──▶ gathered 0 ──▶ 1 ──▶ 2 ──▶ 3 ⟲ + new - old
                         ⟲ not positive  ⟲

    A reset empties the window, but the sum, the number of gathered frames and the number of jitters
    stay as they are, and an interval that is passed over makes the three gathered ones others than the
    last three. The frame rate is a quotient by the sum, which is 0 when the flag is off. -/

namespace ImxHal.Power
open ImxHal.Run ImxHal.Leaders

namespace SessionRecords

variable (c : RecordsConfig)

def getLatestFPS (r : SessionRecords) : ℤ :=
  (1000000 * kTotalFramesForFPSCheck).tdiv r.mLatestStartIntervalSumUs

/-- The slots that `isLowFrameRate` looks at. -/
def lowFrameRateIndices (r : SessionRecords) : List ℤ :=
  if r.mNumOfFrames ≥ 3 then
    let before : ℤ → ℤ := fun i => if i = 0 then c.kMaxNumOfRecords - 1 else i - 1
    let ind1 := r.mLatestRecordIndex
    let ind2 := before ind1
    let ind3 := before ind2
    [ind1, ind2, ind3]
  else []

/-- `updateHeuristicBoost` gets past its first check: there are data with a positive average. -/
def hasHistory (r : SessionRecords) : Bool :=
  (getMaxDuration r).isSome && match getAvgDuration r with
    | some avgDurationUs => 0 < avgDurationUs
    | none => false

/-- The records of the window, the latest first. -/
def windowRecords (r : SessionRecords) : List CycleRecord :=
  (List.range r.mNumOfFrames.toNat).map fun i : ℕ =>
    r.mRecords ((r.mLatestRecordIndex - (i : ℤ)) % c.kMaxNumOfRecords)

/-- The statistics are those of the records. -/
structure FpsExact (r : SessionRecords) : Prop where
  jitters : getNumOfFPSJitters r = (windowRecords c r).countP (·.isFPSJitter)
  sum : r.mAddedFramesForFPSCheck = kTotalFramesForFPSCheck → r.mLatestStartIntervalSumUs
    = (((windowRecords c r).take 3).map (·.startIntervalUs)).sum

/-! ### One step -/

/-- What is done with the records, frame by frame. `boost` is `updateHeuristicBoost`; in a session of
    SurfaceFlinger it asks for the frame rate. -/
inductive Event where
  | frame (targetDurationNs : ℤ) (computeFPSJitters : Bool) (duration : WorkDuration)
  | reset
  | boost (surfaceFlinger : Bool)

def Event.step (r : SessionRecords) : Event → SessionRecords
  | .frame target flag d => addDuration c target flag r d
  | .reset => resetRecords r
  | .boost _ => r

/-- The slots that a step looks at. -/
def Event.indices (r : SessionRecords) : Event → List ℤ
  | .frame _ flag d =>
    (removeOldest c r).mRecordsIndQueue ++ nextIndex c r ::
      (if flag ∧ ¬ r.mAddedFramesForFPSCheck < kTotalFramesForFPSCheck then
        [oldRecordIndex c (beforeTrack c r d)] else [])
  | .reset => []
  | .boost _ => r.mRecordsIndQueue.head?.toList ++ if hasHistory r then lowFrameRateIndices c r else []

/-- The slots are those of the vector, and a frame rate is a quotient by a number that is not 0. -/
structure Event.Safe (r : SessionRecords) (e : Event) : Prop where
  indices : ∀ i ∈ e.indices c r, 0 ≤ i ∧ i < c.kMaxNumOfRecords
  divisor : e = .boost true → hasHistory r → r.mLatestStartIntervalSumUs ≠ 0

def Small (x : ℤ) : Prop := -2 ^ 31 ≤ x ∧ x < 2 ^ 31

instance (x : ℤ) : Decidable (Small x) := inferInstanceAs (Decidable (_ ∧ _))

/-- A frame whose interval is gathered: the sum fits, and the third one is gathered right behind two
    others, in a window that has room for three. -/
def Gathers (r : SessionRecords) (interval : ℤ) : Prop :=
  Small (r.mLatestStartIntervalSumUs + interval) ∧
    (r.mAddedFramesForFPSCheck = 2 → 3 ≤ c.kMaxNumOfRecords ∧
      ((windowRecords c r).take 2).length = 2 ∧
      ∀ x ∈ (windowRecords c r).take 2, 0 < x.startIntervalUs)

instance (r : SessionRecords) (interval : ℤ) : Decidable (Gathers c r interval) :=
  inferInstanceAs (Decidable (_ ∧ _))

/-- What keeps the statistics right. -/
def Event.Good (r : SessionRecords) : Event → Prop
  | .frame _ flag d =>
    1 ≤ c.kMaxNumOfRecords ∧ (flag = true →
      (r.mAddedFramesForFPSCheck < kTotalFramesForFPSCheck → 0 < nextInterval c r d →
        Gathers c r (nextInterval c r d)) ∧
      (r.mAddedFramesForFPSCheck = kTotalFramesForFPSCheck →
        Small (nextInterval c r d + (((windowRecords c r).take 2).map (·.startIntervalUs)).sum)))
  | .reset => (∀ x ∈ windowRecords c r, x.isFPSJitter = false) ∧
    r.mAddedFramesForFPSCheck ≠ kTotalFramesForFPSCheck
  | .boost surfaceFlinger => surfaceFlinger = true → hasHistory r → r.mAddedFramesForFPSCheck ≠ 0 ∧
    (r.mAddedFramesForFPSCheck = kTotalFramesForFPSCheck →
      (((windowRecords c r).take 3).map (·.startIntervalUs)).sum ≠ 0)

instance (r : SessionRecords) : ∀ e, Decidable (Event.Good c r e)
  | .frame _ flag d => inferInstanceAs (Decidable (_ ∧ (flag = true →
      (_ → 0 < nextInterval c r d → Gathers c r (nextInterval c r d)) ∧ (_ → Small _))))
  | .reset => inferInstanceAs (Decidable (_ ∧ _))
  | .boost surfaceFlinger => inferInstanceAs (Decidable (surfaceFlinger = true → _ → _ ∧ (_ → _)))

/-! ### What a run keeps -/

/-- The start intervals of a window, the latest first. -/
def intervals (w : List (ℕ × CycleRecord)) : List ℤ := w.reverse.map (·.2.startIntervalUs)

section Lemmas
variable {c : RecordsConfig} {k n : ℕ} {w : List (ℕ × CycleRecord)} {r : SessionRecords}

/-- The records of the window, as they are numbered. -/
theorem Window.windowRecords (hk : c.kMaxNumOfRecords = k) (h : Window k n w r)
    (hlatest : Latest k n r) : windowRecords c r = w.reverse.map Prod.snd := by
  rw [SessionRecords.windowRecords, h.frames, hk]
  refine List.ext_getElem (by simp) fun i hi _ => ?_
  have hlt : i < w.length := by simpa using hi
  have hle := h.size_le
  have hpos : w.length - 1 - i < w.length := by omega
  have hnumber : (w[w.length - 1 - i]).1 = n - 1 - i := by
    have hget := List.getElem_of_eq h.numbers (i := w.length - 1 - i) (by simpa using hpos)
    rw [List.getElem_map, List.getElem_range'] at hget
    omega
  have hslot : (r.mLatestRecordIndex - (i : ℤ)) % k = slot k w[w.length - 1 - i] := by
    rw [hlatest, if_neg (by omega), slot, hnumber, Int.natCast_mod, Int.emod_sub_emod,
      Int.natCast_mod, Nat.cast_sub (show i ≤ n - 1 by omega)]
  rw [List.getElem_map, List.getElem_range, List.getElem_map, List.getElem_reverse, hslot,
    h.stored _ (List.getElem_mem hpos)]

/-- The sum is that of the gathered intervals, which are the latest ones if these are all positive;
    once three are gathered they are the latest three. -/
structure SumOk (iv : List ℤ) (sum gathered : ℤ) : Prop where
  range : 0 ≤ gathered ∧ gathered ≤ 3
  warm : ∀ a : ℕ, gathered = a → a < 3 → a ≤ sum ∧
    ((iv.take a).length = a → (∀ x ∈ iv.take a, 0 < x) → sum = (iv.take a).sum)
  steady : gathered = 3 → 3 ≤ iv.length ∧ sum = (iv.take 3).sum

/-- What a run keeps, as long as its steps are good. -/
structure Fps (k n : ℕ) (w : List (ℕ × CycleRecord)) (r : SessionRecords) : Prop where
  window : Window k n w r
  latest : Latest k n r
  jitters : r.mNumOfFrameFPSJitters = w.countP (·.2.isFPSJitter)
  sums : SumOk (intervals w) r.mLatestStartIntervalSumUs r.mAddedFramesForFPSCheck

namespace SumOk
variable {iv : List ℤ} {sum gathered x : ℤ}

/-- Nothing is gathered. -/
theorem none (iv : List ℤ) : SumOk iv 0 0 where
  range := by omega
  warm a ha _ := by
    obtain rfl : a = 0 := by omega
    exact ⟨le_refl 0, fun _ _ => rfl⟩
  steady h := by omega

/-- An interval is gathered; `m` of the records before it stay in the window. -/
theorem gather (h : SumOk iv sum gathered) (hwarm : gathered < 3) (hx : 0 < x) {m : ℕ}
    (hthird : gathered = 2 → 2 ≤ m ∧ (iv.take 2).length = 2 ∧ ∀ y ∈ iv.take 2, 0 < y) :
    SumOk (x :: iv.take m) (sum + x) (gathered + 1) where
  range := by
    have := h.range
    omega
  warm a ha hlt := by
    obtain ⟨b, rfl⟩ : ∃ b, a = b + 1 := ⟨a - 1, by have := h.range; omega⟩
    have hb : gathered = b := by omega
    obtain ⟨hle, hsum⟩ := h.warm b hb (by omega)
    refine ⟨by omega, fun hlen hpos => ?_⟩
    rw [List.take_succ_cons, List.length_cons, List.take_take] at hlen
    have hmin : min b m = b := by
      have := List.length_take_le (min b m) iv
      omega
    rw [hmin] at hlen
    rw [List.take_succ_cons, List.take_take, hmin] at hpos ⊢
    rw [hsum (by omega) fun y hy => hpos y (List.mem_cons_of_mem _ hy), List.sum_cons]
    ring
  steady ha := by
    obtain ⟨hm, hlen, hpos⟩ := hthird (by omega)
    obtain ⟨-, hsum⟩ := h.warm 2 (by omega) (by omega)
    have htake : (iv.take m).take 2 = iv.take 2 := by rw [List.take_take, min_eq_left hm]
    have hlen' : ((iv.take m).take 2).length = 2 := htake ▸ hlen
    refine ⟨?_, ?_⟩
    · rw [List.length_take] at hlen'
      rw [List.length_cons]
      omega
    · rw [List.take_succ_cons, htake, List.sum_cons, hsum hlen hpos]
      ring

/-- An interval that is not positive is passed over. -/
theorem skip (h : SumOk iv sum gathered) (hwarm : gathered < 3) (hx : ¬ 0 < x) (iv' : List ℤ) :
    SumOk (x :: iv') sum gathered where
  range := h.range
  warm a ha hlt := by
    obtain ⟨hle, hsum⟩ := h.warm a ha hlt
    refine ⟨hle, fun _ hpos => ?_⟩
    cases a with
    | zero => exact hsum rfl fun y hy => absurd hy List.not_mem_nil
    | succ a => exact absurd (hpos x (List.mem_cons_self ..)) hx
  steady ha := absurd ha (by omega)

/-- An interval replaces the third last one. -/
theorem replace (h : SumOk iv sum 3) {m : ℕ} (hm : 2 ≤ m) {old : ℤ}
    (hold : iv.take 3 = iv.take 2 ++ [old]) : SumOk (x :: iv.take m) (sum + (x - old)) 3 where
  range := h.range
  warm a ha hlt := by omega
  steady _ := by
    obtain ⟨hlen, hsum⟩ := h.steady rfl
    refine ⟨?_, ?_⟩
    · rw [List.length_cons, List.length_take]
      omega
    · rw [List.take_succ_cons, List.take_take, min_eq_left hm, List.sum_cons, hsum, hold,
        List.sum_append, List.sum_singleton]
      ring

/-- The window is emptied before three are gathered. -/
theorem reset (h : SumOk iv sum gathered) (hne : gathered ≠ 3) : SumOk [] sum gathered where
  range := h.range
  warm a ha hlt := by
    obtain ⟨hle, hsum⟩ := h.warm a ha hlt
    refine ⟨hle, fun hlen _ => ?_⟩
    rw [List.take_nil, List.length_nil] at hlen
    subst hlen
    exact hsum rfl fun y hy => absurd hy List.not_mem_nil
  steady ha := absurd ha hne

end SumOk

/-! ### A frame -/

theorem intervals_slide (x : ℕ × CycleRecord) :
    intervals (slide k w x) = x.2.startIntervalUs :: intervals (kept k w) := by
  rw [intervals, slide, List.reverse_append, List.reverse_singleton, List.singleton_append,
    List.map_cons, intervals]

/-- What leaves the window is the oldest. -/
theorem intervals_kept : intervals (kept k w) = (intervals w).take (kept k w).length := by
  rw [kept]
  split
  · rw [intervals, intervals, ← List.map_take, ← List.dropLast_reverse, List.dropLast_eq_take,
      List.length_reverse, List.length_tail]
  · rw [intervals, List.take_of_length_le (by simp)]

theorem take_intervals_kept {j : ℕ} (h : j ≤ (kept k w).length) :
    (intervals (kept k w)).take j = (intervals w).take j := by
  rw [intervals_kept, List.take_take, min_eq_left h]

/-- The oldest record takes its jitter with it. -/
theorem removeOldest_jitters (hk : c.kMaxNumOfRecords = k) (h : Window k n w r)
    (hlatest : Latest k n r) (hpos : 0 < k) (hj : r.mNumOfFrameFPSJitters = w.countP (·.2.isFPSJitter)) :
    (removeOldest c r).mNumOfFrameFPSJitters = (kept k w).countP (·.2.isFPSJitter) := by
  rw [kept]
  split
  · next hfull =>
    cases w with
    | nil => exact absurd hfull hpos.ne
    | cons x w =>
      have hrecord : r.mRecords (nextIndex c r) = x.2 := by
        rw [hlatest.nextIndex hk, ← h.stored x (List.mem_cons_self ..), slot, h.oldest.1, hfull,
          ← Nat.mod_eq_sub_mod (hfull ▸ h.size_le)]
      have hremove : r.mNumOfFrames ≥ c.kMaxNumOfRecords := by
        rw [h.frames, hk, hfull]
      rw [removeOldest, if_pos hremove]
      dsimp only
      rw [hrecord, hj, List.tail_cons, List.countP_cons]
      split
      · push_cast
        ring
      · push_cast
        ring
  · next hroom =>
    rw [removeOldest_of_lt hk h (lt_of_le_of_ne h.size hroom), hj]

theorem removeOldest_sum : (removeOldest c r).mLatestStartIntervalSumUs = r.mLatestStartIntervalSumUs ∧
    (removeOldest c r).mAddedFramesForFPSCheck = r.mAddedFramesForFPSCheck := by
  rw [removeOldest]
  split <;> exact ⟨rfl, rfl⟩

/-- The first frame has no interval, so a positive one has a record before it. -/
theorem kept_ne_nil (hk : c.kMaxNumOfRecords = k) (hpos : 0 < k) (h : Window k n w r)
    (hlatest : Latest k n r) {d : WorkDuration} (hinterval : 0 < nextInterval c r d) :
    0 < (kept k w).length := by
  have hframes := (h.makeRoom hk hpos hlatest).1.frames
  by_contra hnil
  rw [nextInterval, startIntervalUs, hframes, if_neg] at hinterval
  · exact absurd hinterval (lt_irrefl 0)
  · omega

/-- The record that the sum gives up is the third last. -/
theorem oldRecord (hk : c.kMaxNumOfRecords = k) (h : Window k n w r) (hlatest : Latest k n r)
    (hthree : 3 ≤ w.length) (d : WorkDuration) :
    (0 ≤ oldRecordIndex c (beforeTrack c r d) ∧ oldRecordIndex c (beforeTrack c r d) < k) ∧
      (intervals w).take 3 = (intervals w).take 2
        ++ [(r.mRecords (oldRecordIndex c (beforeTrack c r d))).startIntervalUs] := by
  have hsize := h.size
  have hle := h.size_le
  have hnext : (beforeTrack c r d).mLatestRecordIndex = (n : ℤ) % k := by
    rw [← Int.natCast_mod]
    exact hlatest.nextIndex hk
  have hlow := Int.emod_nonneg (n : ℤ) (show (k : ℤ) ≠ 0 by omega)
  have hhigh := Int.emod_lt_of_pos (n : ℤ) (show (0 : ℤ) < k by omega)
  have hold : oldRecordIndex c (beforeTrack c r d) = ((n : ℤ) - 3) % k := by
    have hmod : ((n : ℤ) % k - 3) % k = ((n : ℤ) - 3) % k := Int.emod_sub_emod ..
    rw [oldRecordIndex, hnext, hk, kTotalFramesForFPSCheck, ← hmod]
    split
    · next hneg =>
      have hwrap : ((n : ℤ) % k - 3 + k) % k = ((n : ℤ) % k - 3) % k := Int.add_emod_right ..
      rw [← hwrap]
      exact (Int.emod_eq_of_lt (by omega) (by omega)).symm
    · next hnonneg => exact (Int.emod_eq_of_lt (by omega) (by omega)).symm
  refine ⟨?_, ?_⟩
  · rw [hold]
    exact ⟨Int.emod_nonneg _ (by omega), Int.emod_lt_of_pos _ (by omega)⟩
  · have hrecords := h.windowRecords hk hlatest
    have hintervals : intervals w = (windowRecords c r).map (·.startIntervalUs) := by
      rw [hrecords, List.map_map]
      rfl
    have hlen : 2 < (intervals w).length := by
      rw [intervals, List.length_map, List.length_reverse]
      omega
    have hslot : (r.mLatestRecordIndex - ((2 : ℕ) : ℤ)) % k = ((n : ℤ) - 3) % k := by
      rw [hlatest, if_neg (by omega), Int.natCast_mod, Int.emod_sub_emod, Nat.cast_sub (by omega)]
      congr 1
      push_cast
      ring
    have hthird : (intervals w)[2] = (r.mRecords (((n : ℤ) - 3) % k)).startIntervalUs := by
      simp only [hintervals, List.getElem_map, windowRecords, List.getElem_range, hk, hslot]
    rw [List.take_succ_eq_append_getElem hlen, hthird, hold]

theorem int32_of_small {x : ℤ} (h : Small x) : int32 x = x := int32_eq h

/-- What a frame does to the statistics: sum, gathered frames, jitters, and the record's own flag. -/
inductive TrackEffect (c : RecordsConfig) (b : SessionRecords) (flag : Bool) (interval : ℤ) :
    ℤ → ℤ → ℤ → Bool → Prop
  | off (hflag : flag = false) : TrackEffect c b flag interval 0 0 b.mNumOfFrameFPSJitters false
  | gather (hflag : flag = true) (hwarm : b.mAddedFramesForFPSCheck < kTotalFramesForFPSCheck)
    (hinterval : 0 < interval) :
    TrackEffect c b flag interval (int32 (b.mLatestStartIntervalSumUs + interval))
      (b.mAddedFramesForFPSCheck + 1) b.mNumOfFrameFPSJitters false
  | skip (hflag : flag = true) (hwarm : b.mAddedFramesForFPSCheck < kTotalFramesForFPSCheck)
    (hinterval : ¬ 0 < interval) :
    TrackEffect c b flag interval b.mLatestStartIntervalSumUs b.mAddedFramesForFPSCheck
      b.mNumOfFrameFPSJitters false
  | steady (hflag : flag = true) (hsteady : ¬ b.mAddedFramesForFPSCheck < kTotalFramesForFPSCheck)
    (jitter : Bool) :
    TrackEffect c b flag interval (int32 (b.mLatestStartIntervalSumUs
        + (interval - (b.mRecords (oldRecordIndex c b)).startIntervalUs))) b.mAddedFramesForFPSCheck
      (if jitter then b.mNumOfFrameFPSJitters + 1 else b.mNumOfFrameFPSJitters) jitter

theorem trackEffect (b : SessionRecords) (flag : Bool) (interval : ℤ) :
    TrackEffect c b flag interval (trackFPS c b flag interval).mLatestStartIntervalSumUs
      (trackFPS c b flag interval).mAddedFramesForFPSCheck
      (trackFPS c b flag interval).mNumOfFrameFPSJitters (FPSJitter c b flag interval) := by
  cases flag with
  | false => exact .off rfl
  | true =>
    rw [trackFPS, if_pos rfl]
    by_cases hwarm : b.mAddedFramesForFPSCheck < kTotalFramesForFPSCheck
    · have hno : FPSJitter c b true interval = false := by
        rw [FPSJitter, decide_eq_false (not_le.mpr hwarm)]
        rfl
      rw [if_pos hwarm, hno]
      by_cases hinterval : 0 < interval
      · rw [if_pos hinterval]
        exact .gather rfl hwarm hinterval
      · rw [if_neg hinterval]
        exact .skip rfl hwarm hinterval
    · rw [if_neg hwarm]
      exact .steady rfl hwarm _

theorem removeOldest_mRecords : (removeOldest c r).mRecords = r.mRecords := by
  rw [removeOldest]
  split <;> rfl

/-- The jitters of the window with one more record. -/
theorem countP_slide (x : ℕ × CycleRecord) : (((slide k w x).countP (·.2.isFPSJitter) : ℕ) : ℤ)
    = if x.2.isFPSJitter then (((kept k w).countP (·.2.isFPSJitter) : ℕ) : ℤ) + 1
      else ((kept k w).countP (·.2.isFPSJitter) : ℕ) := by
  rw [slide, List.countP_append, List.countP_singleton]
  split
  · push_cast
    ring
  · push_cast
    ring

theorem length_kept : (kept k w).length = if w.length = k then k - 1 else w.length := by
  rw [kept]
  split
  · next hfull => rw [List.length_tail, hfull]
  · rfl

/-- What is said of the latest records is said of the latest intervals. -/
theorem Window.map_take (hk : c.kMaxNumOfRecords = k) (h : Window k n w r) (hlatest : Latest k n r)
    (j : ℕ) : ((SessionRecords.windowRecords c r).take j).map (·.startIntervalUs) = (intervals w).take j := by
  rw [h.windowRecords hk hlatest, ← List.map_take, List.map_map, intervals, List.map_take]
  rfl

/-- The effect of a good frame on sum and counts. -/
theorem Fps.effect (hk : c.kMaxNumOfRecords = k) (hpos : 0 < k) (h : Fps k n w r) (target : ℤ)
    {flag : Bool} {d : WorkDuration} (hgood : Event.Good c r (.frame target flag d))
    {sum gathered jitters : ℤ} {jitter : Bool}
    (heffect : TrackEffect c (beforeTrack c r d) flag (nextInterval c r d) sum gathered jitters jitter) :
    SumOk (nextInterval c r d :: intervals (kept k w)) sum gathered ∧
      jitters = if jitter then (((kept k w).countP (·.2.isFPSJitter) : ℕ) : ℤ) + 1
        else ((kept k w).countP (·.2.isFPSJitter) : ℕ) := by
  obtain ⟨hsum, hadded⟩ := removeOldest_sum (c := c) (r := r)
  have hsum' : (beforeTrack c r d).mLatestStartIntervalSumUs = r.mLatestStartIntervalSumUs := hsum
  have hadded' : (beforeTrack c r d).mAddedFramesForFPSCheck = r.mAddedFramesForFPSCheck := hadded
  have hjitters : (beforeTrack c r d).mNumOfFrameFPSJitters = (kept k w).countP (·.2.isFPSJitter) :=
    removeOldest_jitters hk h.window h.latest hpos h.jitters
  have hrecords : (beforeTrack c r d).mRecords = r.mRecords := removeOldest_mRecords
  have htake := h.window.map_take hk h.latest
  cases heffect with
  | off hflag => exact ⟨.none _, hjitters⟩
  | gather hflag hwarm hinterval =>
    rw [hadded'] at hwarm
    obtain ⟨hsmall, hthird⟩ := (hgood.2 hflag).1 hwarm hinterval
    rw [hsum', hadded', int32_of_small hsmall, intervals_kept]
    refine ⟨h.sums.gather hwarm hinterval fun htwo => ?_, hjitters⟩
    obtain ⟨hroom, hlen, hpositive⟩ := hthird htwo
    rw [hk] at hroom
    have hlen' : ((intervals w).take 2).length = 2 := by rw [← htake, List.length_map, hlen]
    refine ⟨?_, hlen', fun y hy => ?_⟩
    · rw [List.length_take, intervals, List.length_map, List.length_reverse] at hlen'
      rw [length_kept]
      split <;> omega
    · rw [← htake] at hy
      obtain ⟨record, hrecord, rfl⟩ := List.mem_map.mp hy
      exact hpositive record hrecord
  | skip hflag hwarm hinterval =>
    rw [hsum', hadded']
    rw [hadded'] at hwarm
    exact ⟨h.sums.skip hwarm hinterval _, hjitters⟩
  | steady hflag hsteady jitter =>
    have hrange := h.sums.range
    rw [hadded', not_lt] at hsteady
    have hthree : r.mAddedFramesForFPSCheck = 3 := le_antisymm hrange.2 hsteady
    have hsums := h.sums
    rw [hthree] at hsums
    obtain ⟨hlen, hsumeq⟩ := hsums.steady rfl
    rw [intervals, List.length_map, List.length_reverse] at hlen
    obtain ⟨-, hold⟩ := oldRecord hk h.window h.latest hlen d
    have hsize := h.window.size
    have hm : 2 ≤ (kept k w).length := by
      rw [length_kept]
      split <;> omega
    have hsmall := (hgood.2 hflag).2 hthree
    rw [htake] at hsmall
    have hnew : r.mLatestStartIntervalSumUs + (nextInterval c r d
        - (r.mRecords (oldRecordIndex c (beforeTrack c r d))).startIntervalUs)
        = nextInterval c r d + ((intervals w).take 2).sum := by
      rw [hsumeq, hold, List.sum_append, List.sum_singleton]
      ring
    rw [hsum', hadded', hrecords, hjitters, int32_of_small (hnew ▸ hsmall), hthree, intervals_kept]
    exact ⟨hsums.replace hm hold, rfl⟩

/-- One more frame, taken as it is good. -/
theorem Fps.frame (hk : c.kMaxNumOfRecords = k) (hpos : 0 < k) (h : Fps k n w r) (target : ℤ)
    (flag : Bool) (d : WorkDuration) (hgood : Event.Good c r (.frame target flag d)) :
    Fps k (n + 1) (slide k w (n, nextRecord c target flag r d)) (addDuration c target flag r d) := by
  obtain ⟨hwindow, hlatest⟩ := h.window.addDuration hk hpos h.latest target flag d
  have heffect := trackEffect (c := c) (beforeTrack c r d) flag (nextInterval c r d)
  obtain ⟨hsums, hjitters⟩ := h.effect hk hpos target hgood heffect
  refine ⟨hwindow, hlatest, ?_, ?_⟩
  · rw [countP_slide, addDuration_eq]
    exact hjitters
  · rw [intervals_slide, addDuration_eq]
    exact hsums

/-- A reset, taken as it is good. -/
theorem Fps.reset (hk : c.kMaxNumOfRecords = k) (h : Fps k n w r) (hgood : Event.Good c r .reset) :
    Fps k 0 [] (resetRecords r) where
  window := window_reset k r
  latest := rfl
  jitters := by
    have hnone : w.countP (·.2.isFPSJitter) = 0 := by
      refine List.countP_eq_zero.mpr fun x hx => ?_
      have hmem : x.2 ∈ windowRecords c r := by
        rw [h.window.windowRecords hk h.latest]
        exact List.mem_map_of_mem (List.mem_reverse.mpr hx)
      simp [hgood.1 x.2 hmem]
    change r.mNumOfFrameFPSJitters = _
    rw [h.jitters, hnone]
    rfl
  sums := h.sums.reset hgood.2

/-- The statistics are exact. -/
theorem Fps.exact (hk : c.kMaxNumOfRecords = k) (h : Fps k n w r) : FpsExact c r where
  jitters := by
    rw [getNumOfFPSJitters, h.jitters, h.window.windowRecords hk h.latest, List.countP_map,
      List.countP_reverse]
    rfl
  sum hthree := by
    rw [h.window.map_take hk h.latest]
    exact (h.sums.steady hthree).2

/-! ### Slots and divisors -/

theorem slot_bounds (hpos : 0 < k) (x : ℕ × CycleRecord) : 0 ≤ slot k x ∧ slot k x < k := by
  have hlt := Nat.mod_lt x.1 hpos
  rw [slot]
  exact ⟨Int.natCast_nonneg _, by exact_mod_cast hlt⟩

theorem Window.queue_bounds (hpos : 0 < k) (h : Window k n w r) :
    ∀ i ∈ r.mRecordsIndQueue, 0 ≤ i ∧ i < k := by
  intro i hi
  rw [h.queue] at hi
  obtain ⟨x, -, rfl⟩ := List.mem_map.mp hi
  exact slot_bounds hpos x

theorem Fps.frame_safe (hk : c.kMaxNumOfRecords = k) (hpos : 0 < k) (h : Fps k n w r) (target : ℤ)
    (flag : Bool) (d : WorkDuration) : Event.Safe c r (.frame target flag d) where
  indices i hi := by
    rw [hk]
    rw [Event.indices, List.mem_append, List.mem_cons] at hi
    rcases hi with hi | rfl | hi
    · exact (h.window.makeRoom hk hpos h.latest).1.queue_bounds hpos i hi
    · rw [h.latest.nextIndex hk]
      exact slot_bounds hpos (n, ⟨0, 0, false, false⟩)
    · split at hi
      · next hsteady =>
        have hthree : r.mAddedFramesForFPSCheck = 3 :=
          le_antisymm h.sums.range.2 (not_lt.mp hsteady.2)
        have hlen := (h.sums.steady hthree).1
        rw [intervals, List.length_map, List.length_reverse] at hlen
        rw [List.mem_singleton.mp hi]
        exact (oldRecord hk h.window h.latest hlen d).1
      · exact absurd hi List.not_mem_nil
  divisor heq := by cases heq

/-- The slots of the last three records. -/
theorem lowFrameRate_bounds (hk : c.kMaxNumOfRecords = k) (h : Window k n w r)
    (hlatest : Latest k n r) : ∀ i ∈ lowFrameRateIndices c r, 0 ≤ i ∧ i < k := by
  intro i hi
  rw [lowFrameRateIndices] at hi
  split at hi
  · next hthree =>
    have hsize := h.size
    have hle := h.size_le
    rw [h.frames] at hthree
    have hbounds : 0 ≤ r.mLatestRecordIndex ∧ r.mLatestRecordIndex < k := by
      rw [hlatest, if_neg (by omega)]
      exact slot_bounds (by omega) (n - 1, ⟨0, 0, false, false⟩)
    have hbefore : ∀ j : ℤ, 0 ≤ j ∧ j < k → 0 ≤ (if j = 0 then c.kMaxNumOfRecords - 1 else j - 1) ∧
        (if j = 0 then c.kMaxNumOfRecords - 1 else j - 1) < k := by
      intro j hj
      rw [hk]
      split <;> omega
    rcases List.mem_cons.mp hi with rfl | hi
    · exact hbounds
    · rcases List.mem_cons.mp hi with rfl | hi
      · exact hbefore _ hbounds
      · rw [List.mem_singleton.mp hi]
        exact hbefore _ (hbefore _ hbounds)
  · exact absurd hi List.not_mem_nil

theorem Fps.boost_safe (hk : c.kMaxNumOfRecords = k) (h : Fps k n w r) (surfaceFlinger : Bool)
    (hgood : Event.Good c r (.boost surfaceFlinger)) : Event.Safe c r (.boost surfaceFlinger) where
  indices i hi := by
    rw [hk]
    rw [Event.indices, List.mem_append] at hi
    rcases hi with hi | hi
    · have hmem : i ∈ r.mRecordsIndQueue := List.mem_of_head? (Option.mem_toList.mp hi)
      have hpos : 0 < k := by
        rw [h.window.queue] at hmem
        obtain ⟨x, hx, -⟩ := List.mem_map.mp hmem
        have hlen := List.length_pos_of_mem ((leaders_sublist w).subset hx)
        exact hlen.trans_le h.window.size
      exact h.window.queue_bounds hpos i hmem
    · split at hi
      · exact lowFrameRate_bounds hk h.window h.latest i hi
      · exact absurd hi List.not_mem_nil
  divisor heq hhistory := by
    cases heq
    obtain ⟨hne, hthree⟩ := hgood rfl hhistory
    have hrange := h.sums.range
    by_cases hsteady : r.mAddedFramesForFPSCheck = 3
    · have hsum := hthree hsteady
      rw [h.window.map_take hk h.latest] at hsum
      rw [(h.sums.steady hsteady).2]
      exact hsum
    · obtain ⟨a, ha⟩ := Int.eq_ofNat_of_zero_le hrange.1
      have hle := (h.sums.warm a ha (by omega)).1
      omega

end Lemmas

/-! ### Whole runs -/

/-- The frames of a call, one by one. -/
def Op.events : Op → List Event
  | .addReportedDurations durations target _ flag => durations.map (.frame target flag)
  | .resetRecords => [.reset]

/-- The calls are runs of such steps. -/
theorem run_events (r : SessionRecords) (ops : List Op) :
    Run.run (Event.step c) r (ops.flatMap Op.events) = Run.run (SessionRecords.step c) r ops := by
  induction ops generalizing r with
  | nil => rfl
  | cons op ops ih =>
    have hcall : Run.run (Event.step c) r op.events = SessionRecords.step c r op := by
      cases op with
      | addReportedDurations durations target buckets flag => exact List.foldl_map
      | resetRecords => rfl
    rw [List.flatMap_cons, run_append, run_cons, ih, hcall]

theorem fps_new (c : RecordsConfig) (k : ℕ) (stray : ℤ → CycleRecord) : Fps k 0 [] (new c stray) where
  window := window_new c k stray
  latest := rfl
  jitters := rfl
  sums := .none []

/-- In every run whose steps are good, each step is safe and leaves the statistics exact. -/
theorem fps_records_exact (c : RecordsConfig) (stray : ℤ → CycleRecord) (events : List Event)
    (haccepted : 0 ≤ c.kMaxNumOfRecords)
    (hgood : Meets (Event.step c) (Event.Good c) (new c stray) events) :
    FpsExact c (new c stray) ∧ Always (Event.step c)
      (fun r e r' => Event.Safe c r e ∧ FpsExact c r') (new c stray) events := by
  have hk : c.kMaxNumOfRecords = c.kMaxNumOfRecords.toNat := (Int.toNat_of_nonneg haccepted).symm
  have hnew := fps_new c c.kMaxNumOfRecords.toNat stray
  have hstep : ∀ r e, (∃ n w, Fps c.kMaxNumOfRecords.toNat n w r) → Event.Good c r e →
      (∃ n w, Fps c.kMaxNumOfRecords.toNat n w (Event.step c r e)) ∧
        Event.Safe c r e ∧ FpsExact c (Event.step c r e) := by
    rintro r e ⟨n, w, h⟩ he
    cases e with
    | frame target flag d =>
      have hpos : 0 < c.kMaxNumOfRecords.toNat := by
        have := he.1
        omega
      have hnext := h.frame hk hpos target flag d he
      exact ⟨⟨_, _, hnext⟩, h.frame_safe hk hpos target flag d, hnext.exact hk⟩
    | reset =>
      have hnext := h.reset hk he
      refine ⟨⟨_, _, hnext⟩, ⟨fun i hi => absurd hi List.not_mem_nil, fun heq => ?_⟩, hnext.exact hk⟩
      cases heq
    | boost surfaceFlinger => exact ⟨⟨n, w, h⟩, h.boost_safe hk surfaceFlinger he, h.exact hk⟩
  exact ⟨hnew.exact hk, always_of_meets hstep events _ ⟨0, [], hnew⟩ hgood⟩

/-- A window of five frames; times are compared as the real numbers they stand for. -/
def fiveFrames : RecordsConfig :=
  ⟨5, fun duration target => target < duration, fun interval sum => 7 * sum < 15 * interval⟩

/-- A frame of one millisecond that starts at `start` milliseconds. -/
def frameAt (flag : Bool) (start : ℤ) : Event :=
  .frame 1000000 flag ⟨start * 1000000 + 1000000, 1000000⟩

def atFirst : SessionRecords := new fiveFrames fun _ => ⟨0, 0, false, false⟩

/-- Frames ten milliseconds apart and one that comes late. -/
def lateFrame : List Event := [frameAt true 0, frameAt true 10, frameAt true 20, frameAt true 30,
  frameAt true 130]

/-- The steps of the run are good. -/
theorem fps_records_exact_late : FpsExact fiveFrames atFirst ∧ Always (Event.step fiveFrames)
    (fun r e r' => Event.Safe fiveFrames r e ∧ FpsExact fiveFrames r') atFirst lateFrame := by
  have hgood : Meets (Event.step fiveFrames) (Event.Good fiveFrames) atFirst lateFrame := by decide +kernel
  exact fps_records_exact fiveFrames (fun _ => ⟨0, 0, false, false⟩) lateFrame (by decide) hgood

/-- A jitter outlives the reset that empties the window, and without the flag the frame rate is a
    quotient by 0. -/
theorem jitter_outlives_reset :
    ¬ FpsExact fiveFrames (Run.run (Event.step fiveFrames) atFirst (lateFrame ++ [.reset])) ∧
      ¬ Event.Safe fiveFrames (Run.run (Event.step fiveFrames) atFirst [frameAt false 0])
        (.boost true) := by
  constructor
  · intro h
    exact absurd h.jitters (by decide)
  · intro h
    exact absurd (h.divisor rfl (by decide)) (by decide)

end SessionRecords

end ImxHal.Power
