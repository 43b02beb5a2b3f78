import ImxHal.Power.Channels

/-! @src power/Power.cpp | name:InteractionBoost | scheme:run | family:rate limits

    A touch asks for an INTERACTION boost of 1.5 to 5.75 seconds. The call is passed on as a hint of ONE
    second, and remembered with the duration it asked for; a later call is dropped when the remembered
    duration reaches beyond its own:

        t=0 s    asks for 5.75 s    hint 0 s to 1 s      remembered to 5.75 s
        t=1 s    asks for 1.5 s     dropped              1 s to 2.5 s without a hint

    A call is passed on unless it comes too soon after the one before. -/

namespace ImxHal.Power.InteractionBoost
open ImxHal.Run

def USINSEC : ℤ := 1000000
def NSINUS : ℤ := 1000

/-- A `timespec` of the monotonic clock. -/
structure Timespec where
  tv_sec : ℕ
  tv_nsec : ℕ
  nsec_lt : tv_nsec < 1000000000

/-- In nanoseconds. -/
def Timespec.nanos (t : Timespec) : ℤ := t.tv_sec * 1000000000 + t.tv_nsec

def calc_timespan_us (start finish : Timespec) : ℤ :=
  ((finish.tv_sec : ℤ) - start.tv_sec) * USINSEC +
    ((finish.tv_nsec : ℤ) - start.tv_nsec).tdiv NSINUS

/-- The duration a call comes to, in milliseconds. -/
def duration (durationMs : ℤ) : ℤ :=
  let duration := 1500 -- 1.5s by default
  if durationMs ≠ 0 then
    let input_duration := int32 (durationMs + 750)
    if input_duration > duration then
      if input_duration > 5750 then 5750 else input_duration
    else duration
  else duration

/-- A hint given to the hint manager: from when, and for how many nanoseconds. -/
structure Hint where
  start : ℤ
  timeout : ℤ

def Hint.activeAt (h : Hint) (t : ℤ) : Prop := h.start ≤ t ∧ t < h.start + h.timeout

/-- `std::chrono::seconds(1)`. -/
def hintTimeout : ℤ := 1000000000

/-- The two statics of `setBoost`, and the INTERACTION hints given so far. -/
structure State where
  s_previous_boost_timespec : Timespec
  s_previous_duration : ℤ
  hints : List Hint

/-- One call for INTERACTION: the modes it finds, the time it reads and its argument. -/
structure Call where
  mVRModeOn : Bool
  mSustainedPerfModeOn : Bool
  cur_boost_timespec : Timespec
  durationMs : ℤ

def Call.ignored (c : Call) : Bool := c.mVRModeOn || c.mSustainedPerfModeOn

/-- "don't hint if previous hint's duration covers this hint's duration" -/
def suppressed (s : State) (c : Call) : Bool :=
  decide (s.s_previous_duration * 1000 >
    calc_timespan_us s.s_previous_boost_timespec c.cur_boost_timespec + duration c.durationMs * 1000)

def setBoost (s : State) (c : Call) : State :=
  if c.ignored then s
  else if suppressed s c then s
  else {
    s_previous_boost_timespec := c.cur_boost_timespec
    s_previous_duration := duration c.durationMs
    hints := s.hints ++ [⟨c.cur_boost_timespec.nanos, hintTimeout⟩] }

/-- Statics are zero when the process starts. -/
def boot : State := ⟨⟨0, 0, by decide⟩, 0, []⟩

/-- If the call is suppressed, there is a hint at every moment of the duration it asked for. -/
def Covered (s : State) (c : Call) (_ : State) : Prop :=
  c.ignored = false → suppressed s c = true →
    ∀ t, c.cur_boost_timespec.nanos ≤ t →
      t < c.cur_boost_timespec.nanos + duration c.durationMs * 1000000 →
      ∃ h ∈ s.hints, h.activeAt t

/-- The calls that are not ignored: their time and the duration they ask for. -/
def boosts (calls : List Call) : List (Timespec × ℤ) :=
  (calls.filter fun c => !c.ignored).map fun c => (c.cur_boost_timespec, duration c.durationMs)

/-- The later boost ends no sooner than the earlier one, as `setBoost` reckons. -/
def EndsLater (earlier later : Timespec × ℤ) : Prop :=
  earlier.2 * 1000 ≤ calc_timespan_us earlier.1 later.1 + later.2 * 1000

instance : DecidableRel EndsLater := fun _ _ => inferInstanceAs (Decidable (_ ≤ _))

/-! ### Lemmas -/

theorem duration_bounds (durationMs : ℤ) : 1500 ≤ duration durationMs ∧ duration durationMs ≤ 5750 := by
  unfold duration
  dsimp only
  split_ifs
  all_goals omega

theorem boosts_cons (c : Call) (calls : List Call) :
    boosts (c :: calls) =
      if c.ignored then boosts calls
      else (c.cur_boost_timespec, duration c.durationMs) :: boosts calls := by
  unfold boosts
  cases hi : c.ignored with
  | true => simp [hi]
  | false => simp [hi]

theorem suppressed_iff (s : State) (c : Call) :
    suppressed s c = false ↔
      EndsLater (s.s_previous_boost_timespec, s.s_previous_duration)
        (c.cur_boost_timespec, duration c.durationMs) := by
  simp [suppressed, EndsLater]

/-- A hint of one second that has begun ends before any boost that is asked for. -/
theorem not_covered {s : State} {c : Call} {s' : State} (hi : c.ignored = false)
    (hs : suppressed s c = true)
    (hhints : ∀ h ∈ s.hints, h.start ≤ c.cur_boost_timespec.nanos ∧ h.timeout = hintTimeout) :
    ¬Covered s c s' := by
  intro hcovered
  obtain ⟨hlow, -⟩ := duration_bounds c.durationMs
  obtain ⟨h, hmem, -, hend⟩ := hcovered hi hs (c.cur_boost_timespec.nanos + hintTimeout)
    (by simp [hintTimeout]) (by simp only [hintTimeout]; omega)
  obtain ⟨hstart, htimeout⟩ := hhints h hmem
  omega

/-- Every boost ends later than the zero duration that is remembered at first. -/
theorem endsLater_boot (c : Call) :
    EndsLater (boot.s_previous_boost_timespec, boot.s_previous_duration)
      (c.cur_boost_timespec, duration c.durationMs) := by
  obtain ⟨hlow, -⟩ := duration_bounds c.durationMs
  have hsec : (0 : ℤ) ≤ (c.cur_boost_timespec.tv_sec : ℤ) * USINSEC := by
    simp only [USINSEC]
    omega
  have hnsec : 0 ≤ (c.cur_boost_timespec.tv_nsec : ℤ).tdiv NSINUS :=
    Int.tdiv_nonneg (by omega) (by decide)
  simp only [EndsLater, boot, calc_timespan_us]
  simp only [Nat.cast_zero, sub_zero, zero_mul]
  omega

/-! ### Runs -/

/-- From any state whose hints have begun: no call is dropped if and only if each boost ends later than
    the one before, beginning with the remembered one. -/
theorem always_covered_iff (calls : List Call) (s : State)
    (htimes : calls.Pairwise fun c c' => c.cur_boost_timespec.nanos ≤ c'.cur_boost_timespec.nanos)
    (hhints : ∀ c ∈ calls, ∀ h ∈ s.hints,
      h.start ≤ c.cur_boost_timespec.nanos ∧ h.timeout = hintTimeout) :
    Always setBoost Covered s calls ↔
      List.IsChain EndsLater
        ((s.s_previous_boost_timespec, s.s_previous_duration) :: boosts calls) := by
  induction calls generalizing s with
  | nil => simp [Always, boosts]
  | cons c calls ih =>
    obtain ⟨hfirst, hrest⟩ := List.pairwise_cons.mp htimes
    rw [Always, boosts_cons]
    cases hi : c.ignored with
    | true =>
      have hcovered : Covered s c (setBoost s c) := fun hne => absurd hne (by simp [hi])
      have hstep : setBoost s c = s := by simp [setBoost, hi]
      rw [if_pos rfl, and_iff_right hcovered, hstep]
      exact ih s hrest fun c' hc' => hhints c' (List.mem_cons_of_mem c hc')
    | false =>
      rw [if_neg (by simp), List.isChain_cons_cons, ← suppressed_iff]
      cases hs : suppressed s c with
      | true =>
        have hgap : ¬Covered s c (setBoost s c) :=
          not_covered hi hs (hhints c List.mem_cons_self)
        simp [hgap]
      | false =>
        have hcovered : Covered s c (setBoost s c) := fun _ hsup => absurd hsup (by simp [hs])
        have hstep : setBoost s c = ⟨c.cur_boost_timespec, duration c.durationMs,
            s.hints ++ [⟨c.cur_boost_timespec.nanos, hintTimeout⟩]⟩ := by
          simp [setBoost, hi, hs]
        rw [and_iff_right hcovered, and_iff_right rfl, hstep]
        refine ih _ hrest fun c' hc' h hmem => ?_
        rcases List.mem_append.mp hmem with hold | hnew
        · exact hhints c' (List.mem_cons_of_mem c hc') h hold
        · rw [List.mem_singleton.mp hnew]
          exact ⟨hfirst c' hc', rfl⟩

/-- BUG: a hint lasts one second whatever was asked for. Every call that is dropped finds its duration
    covered by a hint if and only if no call is dropped at all: each boost ends later than the one
    before it. -/
theorem boost_suppression_iff (calls : List Call)
    (htimes : calls.Pairwise fun c c' => c.cur_boost_timespec.nanos ≤ c'.cur_boost_timespec.nanos) :
    Always setBoost Covered boot calls ↔ (boosts calls).IsChain EndsLater := by
  rw [always_covered_iff calls boot htimes fun _ _ h hmem => absurd hmem List.not_mem_nil]
  constructor
  · intro h
    exact h.tail
  · intro h
    refine h.cons fun later hlater => ?_
    obtain ⟨c, -, rfl⟩ := List.mem_map.mp (List.mem_of_mem_head? hlater)
    exact endsLater_boot c

/-- A long touch at 10 s and a short one. -/
def touches (shortAt : ℕ) : List Call :=
  [⟨false, false, ⟨10, 0, by decide⟩, 5000⟩, ⟨false, false, ⟨shortAt, 0, by decide⟩, 0⟩]

/-- The short touch comes 5 s later and is passed on. -/
theorem boost_suppression_iff_late : Always setBoost Covered boot (touches 15) := by
  have htimes : (touches 15).Pairwise
      fun c c' => c.cur_boost_timespec.nanos ≤ c'.cur_boost_timespec.nanos := by
    decide
  exact (boost_suppression_iff (touches 15) htimes).mpr (by decide)

/-- The short touch comes 1 s later: the hint is over, and the touch is dropped. -/
theorem short_touch_dropped :
    ¬∀ calls : List Call,
      calls.Pairwise (fun c c' => c.cur_boost_timespec.nanos ≤ c'.cur_boost_timespec.nanos) →
        Always setBoost Covered boot calls := by
  intro h
  have htimes : (touches 11).Pairwise
      fun c c' => c.cur_boost_timespec.nanos ≤ c'.cur_boost_timespec.nanos := by
    decide
  obtain ⟨-, hcovered, -⟩ := h (touches 11) htimes
  exact not_covered rfl (by decide) (by decide) hcovered

end ImxHal.Power.InteractionBoost
