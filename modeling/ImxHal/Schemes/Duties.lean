import ImxHal.Schemes.Run

/-! @scheme duties | family:resource ownership

    A system logs events, some of which incur a duty (a request comes in, a buffer is obtained) and some
    of which discharge one (the answer, the return). Between the two the state holds the duty, in a
    queue or in the hands of a thread. A step may also drop what it holds:

        incurred = discharged + held + lost

    Each step is booked alone. At the end of a run that holds nothing, every duty incurred has been
    discharged exactly when no step of the run lost one. -/

namespace ImxHal.Duties
open ImxHal.Run

variable {σ α ε ι : Type} [DecidableEq ι] {step : σ → α → σ} {log : σ → List ε}
  {incurs pays : ε → List ι} {held : σ → List ι} {lost : σ → α → List ι}

/-- Every step is booked: what it logs and what it holds before is discharged, held after, or lost. -/
def Booked (step : σ → α → σ) (log : σ → List ε) (incurs pays : ε → List ι) (held : σ → List ι)
    (lost : σ → α → List ι) : Prop :=
  ∀ s a, ∃ evs, log (step s a) = log s ++ evs ∧ ∀ x,
    (evs.flatMap incurs).count x + (held s).count x
      = (evs.flatMap pays).count x + (held (step s a)).count x + (lost s a).count x

/-- Everything the steps of a run lose. -/
def lostBy (step : σ → α → σ) (lost : σ → α → List ι) : σ → List α → List ι
  | _, [] => []
  | s, a :: as => lost s a ++ lostBy step lost (step s a) as

omit [DecidableEq ι] in
theorem lostBy_eq_nil (s : σ) (as : List α) :
    lostBy step lost s as = [] ↔ Meets step (fun s a => lost s a = []) s as := by
  induction as generalizing s with
  | nil => simp [lostBy, Meets]
  | cons a as ih => rw [lostBy, List.append_eq_nil_iff, Meets, ih]

/-- The books of a run. -/
theorem run_booked (hb : Booked step log incurs pays held lost) (as : List α) (s : σ) (x : ι) :
    ((log (run step s as)).flatMap incurs).count x + ((log s).flatMap pays).count x + (held s).count x
      = ((log (run step s as)).flatMap pays).count x + ((log s).flatMap incurs).count x
        + (held (run step s as)).count x + (lostBy step lost s as).count x := by
  induction as generalizing s with
  | nil =>
    simp only [run, List.foldl_nil, lostBy, List.count_nil]
    omega
  | cons a as ih =>
    obtain ⟨evs, hlog, hx⟩ := hb s a
    have hrest := ih (step s a)
    rw [hlog] at hrest
    simp only [List.flatMap_append, List.count_append] at hrest
    have hstep := hx x
    rw [run_cons, lostBy, List.count_append]
    omega

/-- No more is discharged than was incurred. -/
theorem paid_le_incurred (hb : Booked step log incurs pays held lost) (as : List α) {s : σ}
    (hlog : log s = []) (x : ι) : ((log (run step s as)).flatMap pays).count x
      ≤ ((log (run step s as)).flatMap incurs).count x + (held s).count x := by
  have h := run_booked hb as s x
  simp only [hlog, List.flatMap_nil, List.count_nil] at h
  omega

/-- A run that starts and ends with nothing held has discharged everything incurred exactly when none
    of its steps lost anything. -/
theorem discharged_iff (hb : Booked step log incurs pays held lost) (as : List α) {s : σ}
    (hlog : log s = []) (hs : held s = []) (ht : held (run step s as) = []) :
    (∀ x, ((log (run step s as)).flatMap incurs).count x = ((log (run step s as)).flatMap pays).count x)
      ↔ Meets step (fun s a => lost s a = []) s as := by
  have hbooks := run_booked hb as s
  simp only [hlog, hs, ht, List.flatMap_nil, List.count_nil] at hbooks
  rw [← lostBy_eq_nil, List.eq_nil_iff_forall_not_mem]
  constructor
  · intro h x hx
    have hpos := List.count_pos_iff.mpr hx
    have hx := h x
    have hbook := hbooks x
    omega
  · intro h x
    have hzero := List.count_eq_zero.mpr (h x)
    have hbook := hbooks x
    omega

end ImxHal.Duties
