import Mathlib.Data.List.Basic
import Mathlib.Tactic

/-! @src display/hwcomposer3/VsyncThread.cpp (GetNextVsyncInPhase, scheduleVsyncUpdate,
    updateVsyncPeriodLocked, threadLoop) | name:Vsync thread | scheme:run | family:timers

    The loop sleeps from one vsync to the next and keeps the period it goes by in a local copy, which it
    renews at every vsync. A change of the period is announced before it happens, with the time of the
    vsync from which on it holds:

        previous      +1         +2         +3                  desired after the second vsync
        ──┼───────────┼──────────┼────┬─────┼─────────┼──       the third one switches
                                   desired  switch

    The announcement divides the time that has passed since the previous vsync by the period, rounding
    towards zero. Times are nanoseconds; a sum exceeds the times it is made of by one period at most. -/

namespace ImxHal.Hwc3.Vsync

structure PendingUpdate where
  period : ℤ
  updateAfter : ℤ
  configId : ℤ
  deriving DecidableEq

/-- The thread's members, and the config that the display has taken over from it. -/
structure VsyncThread where
  mVsyncPeriod : ℤ
  mPreviousVsync : ℤ
  mPendingUpdate : Option PendingUpdate
  config : ℤ
  deriving DecidableEq

structure Timeline where
  newVsyncAppliedTimeNanos : ℤ
  refreshRequired : Bool
  refreshTimeNanos : ℤ
  deriving DecidableEq

def GetNextVsyncInPhase (vsyncPeriod previousVsync now : ℤ) : ℤ :=
  let elapsed := now - previousVsync
  let nextMultiple := elapsed.tdiv vsyncPeriod + 1
  previousVsync + nextMultiple * vsyncPeriod

def VsyncThread.scheduleVsyncUpdate (t : VsyncThread) (configId newVsyncPeriod desiredTimeNanos : ℤ) :
    VsyncThread × Timeline :=
  let (t, updateTime) :=
    if desiredTimeNanos = 0 then
      ({ t with mVsyncPeriod := newVsyncPeriod, config := configId }, t.mPreviousVsync)
    else
      ({ t with mPendingUpdate := some ⟨newVsyncPeriod, desiredTimeNanos, configId⟩ },
        desiredTimeNanos)
  (t, ⟨GetNextVsyncInPhase t.mVsyncPeriod t.mPreviousVsync updateTime, false, 0⟩)

/-- The returned period is the member afterwards. -/
def VsyncThread.updateVsyncPeriodLocked (t : VsyncThread) (now : ℤ) : VsyncThread :=
  match t.mPendingUpdate with
  | some update =>
    if now > update.updateAfter then
      { t with mVsyncPeriod := update.period, config := update.configId, mPendingUpdate := none }
    else t
  | none => t

/-- The thread between two iterations of `threadLoop`, with its local copy of the period. -/
structure Loop where
  thread : VsyncThread
  vsyncPeriod : ℤ
  deriving DecidableEq

/-- What an iteration meets: the time it starts at, and the timestamp of the display's own vsync when
    vsync is enabled and the wait for it succeeds. -/
structure Tick where
  now : ℤ
  hardware : Option ℤ
  deriving DecidableEq

/-- The time of the vsync; a software vsync comes after a sleep. -/
def Loop.vsyncTime (s : Loop) (tick : Tick) : ℤ :=
  match tick.hardware with
  | some timestamp => if timestamp = 0 then tick.now else timestamp
  | none => GetNextVsyncInPhase s.vsyncPeriod s.thread.mPreviousVsync tick.now

/-- One iteration of `threadLoop`. The callback gets the time of the vsync and the new local period. -/
def Loop.iteration (s : Loop) (tick : Tick) : Loop :=
  let vsyncTime := s.vsyncTime tick
  let thread := { s.thread with mPreviousVsync := vsyncTime }.updateVsyncPeriodLocked vsyncTime
  ⟨thread, thread.mVsyncPeriod⟩

def Loop.scheduleVsyncUpdate (s : Loop) (configId newVsyncPeriod desiredTimeNanos : ℤ) :
    Loop × Timeline :=
  let (thread, timeline) := s.thread.scheduleVsyncUpdate configId newVsyncPeriod desiredTimeNanos
  ({ s with thread := thread }, timeline)

/-! ### Runs -/

/-- The loop after `n` iterations. -/
def Loop.after (s : Loop) (ticks : ℕ → Tick) : ℕ → Loop
  | 0 => s
  | n + 1 => (s.after ticks n).iteration (ticks n)

/-- Software vsync; the iteration starts between the previous vsync and the next one. -/
structure OnTime (s : Loop) (tick : Tick) : Prop where
  software : tick.hardware = none
  after_previous : s.thread.mPreviousVsync ≤ tick.now
  before_next : tick.now < s.thread.mPreviousVsync + s.vsyncPeriod

def AllOnTime (s : Loop) (ticks : ℕ → Tick) : Prop := ∀ n, OnTime (s.after ticks n) (ticks n)

/-- Between two iterations the local copy is the member. -/
structure Synced (s : Loop) (period : ℤ) : Prop where
  copy : s.vsyncPeriod = period
  member : s.thread.mVsyncPeriod = period
  pos : 0 < period

/-- The loop goes by the period, and no update is left. -/
def InEffect (s : Loop) (period : ℤ) : Prop :=
  s.vsyncPeriod = period ∧ s.thread.mPendingUpdate = none

instance (s : Loop) (period : ℤ) : Decidable (InEffect s period) :=
  inferInstanceAs (Decidable (_ ∧ _))

/-- Iteration `n` puts the period into effect. -/
def SwitchesAt (s : Loop) (ticks : ℕ → Tick) (period : ℤ) (n : ℕ) : Prop :=
  InEffect (s.after ticks (n + 1)) period ∧ ∀ m < n, ¬ InEffect (s.after ticks (m + 1)) period

/-- The announced time is later than the previous vsync, not before the desired one, and that of the
    vsync which puts the new period into effect. -/
def Announced (s : Loop) (ticks : ℕ → Tick) (configId newVsyncPeriod desiredTimeNanos : ℤ) : Prop :=
  let (s', timeline) := s.scheduleVsyncUpdate configId newVsyncPeriod desiredTimeNanos
  s.thread.mPreviousVsync < timeline.newVsyncAppliedTimeNanos ∧
    (desiredTimeNanos ≠ 0 → desiredTimeNanos ≤ timeline.newVsyncAppliedTimeNanos) ∧
    ∃ n, SwitchesAt s' ticks newVsyncPeriod n ∧
      (s'.after ticks (n + 1)).thread.mPreviousVsync = timeline.newVsyncAppliedTimeNanos

variable {s : Loop} {ticks : ℕ → Tick} {tick : Tick} {period : ℤ}

/-- Every iteration leaves the local copy and the member the same. -/
theorem iteration_synced (s : Loop) (tick : Tick) :
    (s.iteration tick).vsyncPeriod = (s.iteration tick).thread.mVsyncPeriod := rfl

/-- A sleep that starts on time ends one period after the previous vsync. -/
theorem vsyncTime_of_onTime (h : OnTime s tick) :
    s.vsyncTime tick = s.thread.mPreviousVsync + s.vsyncPeriod := by
  have hzero : (tick.now - s.thread.mPreviousVsync).tdiv s.vsyncPeriod = 0 := by
    have hnonneg : 0 ≤ tick.now - s.thread.mPreviousVsync := Int.sub_nonneg.mpr h.after_previous
    have hlt := h.before_next
    rw [Int.tdiv_eq_ediv_of_nonneg hnonneg]
    exact Int.ediv_eq_zero_of_lt hnonneg (by omega)
  rw [Loop.vsyncTime, h.software]
  simp only [GetNextVsyncInPhase, hzero, zero_add, one_mul]

/-! ### The announced time -/

/-- From the previous vsync on, the announced time is that of the first vsync after `now`. -/
theorem next_of_le {prev now : ℤ} (h : prev ≤ now) :
    GetNextVsyncInPhase period prev now = prev + ((now - prev) / period + 1) * period := by
  simp only [GetNextVsyncInPhase]
  rw [Int.tdiv_eq_ediv_of_nonneg (Int.sub_nonneg.mpr h)]

/-- Before it, whole periods are taken off. -/
theorem next_of_lt {prev now : ℤ} (h : now < prev) :
    GetNextVsyncInPhase period prev now = prev + (1 - (prev - now) / period) * period := by
  have hneg : (now - prev).tdiv period = -((prev - now) / period) := by
    rw [← Int.neg_sub prev now, Int.neg_tdiv, Int.tdiv_eq_ediv_of_nonneg (by omega)]
  simp only [GetNextVsyncInPhase]
  rw [hneg]
  ring

/-- It is later than the previous vsync unless `now` is a period or more before that. -/
theorem lt_next_iff {prev now : ℤ} (hp : 0 < period) :
    prev < GetNextVsyncInPhase period prev now ↔ prev - period < now := by
  rcases le_or_gt prev now with h | h
  · have hquot : 0 ≤ (now - prev) / period := Int.ediv_nonneg (by omega) hp.le
    have hpos : 0 < ((now - prev) / period + 1) * period := Int.mul_pos (by omega) hp
    rw [next_of_le h]
    constructor <;> intro <;> omega
  · have hquot : (prev - now) / period < 1 ↔ prev - now < 1 * period := Int.ediv_lt_iff_lt_mul hp
    have hpos : 0 < (1 - (prev - now) / period) * period ↔ 0 < 1 - (prev - now) / period :=
      mul_pos_iff_of_pos_right hp
    rw [next_of_lt h]
    omega

/-- It is not before `now`, and a period at most after the later of the two times. -/
theorem next_bounds {prev now : ℤ} (hp : 0 < period) :
    now ≤ GetNextVsyncInPhase period prev now ∧
      GetNextVsyncInPhase period prev now ≤ max prev now + period := by
  rcases le_or_gt prev now with h | h
  · have hlow : (now - prev) / period * period ≤ now - prev := Int.ediv_mul_le _ hp.ne'
    have hhigh : now - prev < ((now - prev) / period + 1) * period := Int.lt_ediv_add_one_mul_self _ hp
    rw [next_of_le h, max_eq_right h]
    simp only [add_mul, one_mul] at hhigh ⊢
    constructor <;> omega
  · have hquot : 0 ≤ (prev - now) / period * period :=
      mul_nonneg (Int.ediv_nonneg (by omega) hp.le) hp.le
    have hlow : (prev - now) / period * period ≤ prev - now := Int.ediv_mul_le _ hp.ne'
    rw [next_of_lt h, max_eq_left h.le]
    simp only [sub_mul, one_mul]
    constructor <;> omega

/-! ### The switch -/

/-- The same loop at another vsync. -/
def Loop.at (s : Loop) (time : ℤ) : Loop :=
  { s with thread := { s.thread with mPreviousVsync := time } }

/-- A pending update waits as long as the vsync is not after its time. -/
theorem iteration_waiting {update : PendingUpdate} (h : OnTime s tick) (hs : Synced s period)
    (hu : s.thread.mPendingUpdate = some update)
    (hwait : s.thread.mPreviousVsync + period ≤ update.updateAfter) :
    s.iteration tick = s.at (s.thread.mPreviousVsync + period) := by
  have hnot : ¬ s.thread.mPreviousVsync + period > update.updateAfter := not_lt.mpr hwait
  simp only [Loop.iteration, vsyncTime_of_onTime h, hs.copy, VsyncThread.updateVsyncPeriodLocked, hu,
    if_neg hnot, Loop.at, hs.member]

/-- The first vsync after its time takes it over. -/
theorem iteration_switching {update : PendingUpdate} (h : OnTime s tick) (hs : Synced s period)
    (hu : s.thread.mPendingUpdate = some update)
    (hdue : update.updateAfter < s.thread.mPreviousVsync + period) :
    s.iteration tick =
      ⟨⟨update.period, s.thread.mPreviousVsync + period, none, update.configId⟩, update.period⟩ := by
  simp only [Loop.iteration, vsyncTime_of_onTime h, hs.copy, VsyncThread.updateVsyncPeriodLocked, hu,
    gt_iff_lt, if_pos hdue]

/-- Without an update the local copy is renewed, after the sleep. -/
theorem iteration_idle (h : OnTime s tick) (hu : s.thread.mPendingUpdate = none) :
    s.iteration tick =
      ⟨{ s.thread with mPreviousVsync := s.thread.mPreviousVsync + s.vsyncPeriod },
        s.thread.mVsyncPeriod⟩ := by
  simp only [Loop.iteration, vsyncTime_of_onTime h, VsyncThread.updateVsyncPeriodLocked, hu]

theorem at_synced (hs : Synced s period) (time : ℤ) : Synced (s.at time) period :=
  ⟨hs.copy, hs.member, hs.pos⟩

/-- One vsync follows the other at the old period until the update is due. -/
theorem after_waiting {update : PendingUpdate} (ht : AllOnTime s ticks) (hs : Synced s period)
    (hu : s.thread.mPendingUpdate = some update) (n : ℕ)
    (hwait : n ≠ 0 → s.thread.mPreviousVsync + n * period ≤ update.updateAfter) :
    s.after ticks n = s.at (s.thread.mPreviousVsync + n * period) := by
  induction n with
  | zero => simp [Loop.after, Loop.at]
  | succ n ih =>
    have hpos := hs.pos
    have hnext := hwait (Nat.succ_ne_zero n)
    have hsucc : (n + 1 : ℕ) * period = n * period + period := by push_cast; ring
    rw [hsucc] at hnext ⊢
    have hbefore := ih fun _ => by omega
    have htick := ht n
    rw [hbefore] at htick
    have hstep := iteration_waiting htick (at_synced hs _) hu
      (by simp only [Loop.at]; omega)
    rw [Loop.after, hbefore, hstep]
    simp only [Loop.at, add_assoc]

/-- Only one iteration switches. -/
theorem switchesAt_unique {n k : ℕ} (hn : SwitchesAt s ticks period n)
    (hk : SwitchesAt s ticks period k) : n = k := by
  rcases Nat.lt_trichotomy n k with h | h | h
  · exact absurd hn.1 (hk.2 n h)
  · exact h
  · exact absurd hk.1 (hn.2 k h)

/-- The time of the switch, once it is known which iteration it is. -/
theorem exists_switch_iff {n : ℕ} (hn : SwitchesAt s ticks period n) (time : ℤ) :
    (∃ k, SwitchesAt s ticks period k ∧ (s.after ticks (k + 1)).thread.mPreviousVsync = time) ↔
      (s.after ticks (n + 1)).thread.mPreviousVsync = time := by
  constructor
  · rintro ⟨k, hk, htime⟩
    rwa [switchesAt_unique hn hk]
  · exact fun htime => ⟨n, hn, htime⟩

/-- The whole periods from the previous vsync to the desired time, none if that is past. -/
def wholePeriods (prev desired period : ℤ) : ℕ := ((desired - prev) / period).toNat

theorem le_of_le_wholePeriods {prev desired : ℤ} (hp : 0 < period) {n : ℕ} (hn : n ≠ 0)
    (h : n ≤ wholePeriods prev desired period) : prev + n * period ≤ desired := by
  have hquot : (n : ℤ) ≤ (desired - prev) / period := by
    rw [wholePeriods] at h
    omega
  have := (Int.le_ediv_iff_mul_le hp).mp hquot
  omega

theorem lt_wholePeriods {prev desired : ℤ} (hp : 0 < period) :
    desired < prev + wholePeriods prev desired period * period + period := by
  have hlt : desired - prev < ((desired - prev) / period + 1) * period :=
    Int.lt_ediv_add_one_mul_self _ hp
  have hle : ((desired - prev) / period + 1) * period ≤
      (wholePeriods prev desired period + 1 : ℤ) * period :=
    Int.mul_le_mul_of_nonneg_right (by rw [wholePeriods]; omega) hp.le
  simp only [add_mul, one_mul] at hlt hle
  omega

/-- The vsync after the last whole period takes the update over. -/
theorem after_due {update : PendingUpdate} (ht : AllOnTime s ticks) (hs : Synced s period)
    (hu : s.thread.mPendingUpdate = some update) {n : ℕ}
    (hn : n = wholePeriods s.thread.mPreviousVsync update.updateAfter period) :
    s.after ticks (n + 1) =
      ⟨⟨update.period, s.thread.mPreviousVsync + n * period + period, none, update.configId⟩,
        update.period⟩ := by
  have hbefore := after_waiting ht hs hu n fun hne => le_of_le_wholePeriods hs.pos hne hn.le
  have htick := ht n
  rw [hbefore] at htick
  have hdue : update.updateAfter < s.thread.mPreviousVsync + n * period + period :=
    hn ▸ lt_wholePeriods hs.pos
  rw [Loop.after, hbefore, iteration_switching htick (at_synced hs _) hu hdue]
  rfl

/-- A pending update is taken over at the first vsync after its time. -/
theorem switchesAt_pending {update : PendingUpdate} (ht : AllOnTime s ticks) (hs : Synced s period)
    (hu : s.thread.mPendingUpdate = some update) {n : ℕ}
    (hn : n = wholePeriods s.thread.mPreviousVsync update.updateAfter period) :
    SwitchesAt s ticks update.period n ∧
      (s.after ticks (n + 1)).thread.mPreviousVsync
        = s.thread.mPreviousVsync + n * period + period := by
  have hafter := after_due ht hs hu hn
  refine ⟨⟨?_, fun m hm heffect => ?_⟩, ?_⟩
  · rw [hafter]
    exact ⟨rfl, rfl⟩
  · -- an iteration before that leaves the update pending
    have hwait := after_waiting ht hs hu (m + 1) fun hne =>
      le_of_le_wholePeriods hs.pos hne (hn ▸ hm)
    rw [hwait] at heffect
    have hnone : s.thread.mPendingUpdate = none := heffect.2
    rw [hu] at hnone
    cases hnone
  · rw [hafter]

/-- A desired time that is less than a period before the previous vsync is announced rightly. -/
theorem announced_pending_iff (prev desired : ℤ) (hp : 0 < period) :
    (prev < GetNextVsyncInPhase period prev desired ∧
        desired ≤ GetNextVsyncInPhase period prev desired ∧
        prev + wholePeriods prev desired period * period + period
          = GetNextVsyncInPhase period prev desired) ↔ prev - period < desired := by
  constructor
  · exact fun h => (lt_next_iff hp).mp h.1
  · intro h
    have htime : prev + wholePeriods prev desired period * period + period
        = GetNextVsyncInPhase period prev desired := by
      rcases le_or_gt prev desired with hle | hlt
      · have hquot : 0 ≤ (desired - prev) / period := Int.ediv_nonneg (by omega) hp.le
        rw [next_of_le hle, wholePeriods, Int.toNat_of_nonneg hquot]
        ring
      · have hzero : (prev - desired) / period = 0 := Int.ediv_eq_zero_of_lt (by omega) (by omega)
        have hneg : (desired - prev) / period < 0 := Int.ediv_neg_of_neg_of_pos (by omega) hp
        rw [next_of_lt hlt, hzero, wholePeriods, Int.toNat_of_nonpos hneg.le]
        ring
    exact ⟨(lt_next_iff hp).mpr h, (next_bounds hp).1, htime⟩

/-- With the iteration known that switches, the announced time is held against its vsync. -/
theorem announced_iff_time {s' : Loop} {timeline : Timeline} {configId newPeriod desired : ℤ} {n : ℕ}
    (hsched : s.scheduleVsyncUpdate configId newPeriod desired = (s', timeline))
    (hn : SwitchesAt s' ticks newPeriod n) :
    Announced s ticks configId newPeriod desired ↔
      s.thread.mPreviousVsync < timeline.newVsyncAppliedTimeNanos ∧
        (desired ≠ 0 → desired ≤ timeline.newVsyncAppliedTimeNanos) ∧
        (s'.after ticks (n + 1)).thread.mPreviousVsync = timeline.newVsyncAppliedTimeNanos := by
  rw [Announced, hsched]
  simp only [exists_switch_iff hn]

/-- An immediate change is in effect at the next vsync, which comes after the old period. -/
theorem switchesAt_immediate {s' : Loop} (ht : AllOnTime s' ticks)
    (hu : s'.thread.mPendingUpdate = none) :
    SwitchesAt s' ticks s'.thread.mVsyncPeriod 0 ∧
      (s'.after ticks 1).thread.mPreviousVsync = s'.thread.mPreviousVsync + s'.vsyncPeriod := by
  have hfirst : s'.after ticks 1 = _ := iteration_idle (ht 0) hu
  refine ⟨⟨?_, fun m hm => absurd hm (Nat.not_lt_zero m)⟩, ?_⟩
  · rw [hfirst]
    exact ⟨rfl, hu⟩
  · rw [hfirst]
    rfl

/-- Vsyncs every 50 ns, the last one at 500 ns. -/
def fast : Loop := ⟨⟨50, 500, none, 0⟩, 50⟩

/-- Every 100 ns, from 550 ns on. -/
def slow (n : ℕ) : Loop := ⟨⟨100, 550 + 100 * n, none, 1⟩, 100⟩

/-- Iterations that start at the previous vsync, when the period changes from 50 ns to 100 ns. -/
def slowing : ℕ → Tick
  | 0 => ⟨500, none⟩
  | n + 1 => ⟨550 + 100 * n, none⟩

theorem slow_onTime (n : ℕ) : OnTime (slow n) (slowing (n + 1)) :=
  ⟨rfl, le_rfl, by simp only [slow, slowing]; omega⟩

/-- After the switch. -/
theorem after_slowing {s' : Loop} (h : s'.iteration (slowing 0) = slow 0) (n : ℕ) :
    s'.after slowing (n + 1) = slow n := by
  induction n with
  | zero => exact h
  | succ n ih =>
    rw [Loop.after, ih, iteration_idle (slow_onTime n) rfl]
    simp only [slow]
    push_cast
    ring_nf

theorem slowing_allOnTime {s' : Loop} (h : s'.iteration (slowing 0) = slow 0)
    (h₀ : OnTime s' (slowing 0)) : AllOnTime s' slowing := by
  intro n
  cases n with
  | zero => exact h₀
  | succ n =>
    rw [after_slowing h]
    exact slow_onTime n

end ImxHal.Hwc3.Vsync
