import ImxHal.Camera.VideoStream

/-! @src camera/camera/MMAPStream.cpp (PickValidFps, onDeviceConfigureLocked), camera/camera/VideoStream.cpp
    (postConfigureLocked) | name:frame rate | scheme:early return | family:state machines

    Every valid interval overwrites the choice of those before it, so the driver's last one decides:

        picked := request;  for each interval  n/d  with n ≠ 0, d ≠ 0:   picked := min request (d / n)

        PickValidFps ─▶ S_PARM ─▶ NS_PER_SEC / vfps ─▶ S_FMT ─▶ mNumBuffers * 1000000000 * 5 / mFps -/

namespace ImxHal.CameraStream
open ImxHal.EarlyReturn

def NS_PER_SEC : ℕ := 1000000000

/-- An interval of the driver that is not skipped. -/
def validInterval (interval : ℕ × ℕ) : Bool := interval.1 ≠ 0 && interval.2 ≠ 0

/-- `valid_fps` of the intervals, in the order of the driver. -/
def rates (frmival : List (ℕ × ℕ)) : List ℕ :=
  (frmival.filter validInterval).map fun interval => interval.2 / interval.1

/-- What a configured stream keeps of the frame rate. -/
structure Timing where
  mFps : ℕ
  mDurationNS : ℕ
  mMaxLagNs : ℕ

/-- A division; by zero it is undefined. -/
def divide (a b : ℕ) : Option ℕ := if b = 0 then none else some (a / b)

def setDuration (vfps : ℕ) : Cmd Timing := fun t =>
  (divide NS_PER_SEC vfps).map fun mDurationNS => ({ t with mDurationNS }, 0)

/-- The frame rate in `postConfigureLocked`. -/
def setMaxLag (mNumBuffers fps : ℕ) : Cmd Timing := fun t =>
  (divide (mNumBuffers * 1000000000 * 5) fps).map fun mMaxLagNs => ({ t with mFps := fps, mMaxLagNs }, 0)

/-- `MMAPStream::onDeviceConfigureLocked` on an open node, as far as the frame rate goes. `S_PARM` and
    `S_FMT` may be refused. -/
def configureTiming (frmival : List (ℕ × ℕ)) (s_parm s_fmt : Bool) (mNumBuffers fps : ℕ) : Cmd Timing :=
  andThen (check (fun _ => s_parm) (-1)) <| andThen (setDuration (PickValidFps fps frmival)) <|
    andThen (check (fun _ => s_fmt) (-1)) (setMaxLag mNumBuffers fps)

/-- The choice as it should be. -/
structure Chosen (requestFps : ℕ) (frmival : List (ℕ × ℕ)) : Prop where
  pos : 0 < PickValidFps requestFps frmival
  le : PickValidFps requestFps frmival ≤ requestFps
  greatest : (∃ fps ∈ rates frmival, 0 < fps ∧ fps ≤ requestFps) →
    IsGreatest {fps | fps ∈ rates frmival ∧ 0 < fps ∧ fps ≤ requestFps} (PickValidFps requestFps frmival)
  order : ∀ other : List (ℕ × ℕ), other.Perm frmival →
    PickValidFps requestFps other = PickValidFps requestFps frmival
  divides : ∀ (s_parm s_fmt : Bool) (mNumBuffers : ℕ) (t : Timing),
    configureTiming frmival s_parm s_fmt mNumBuffers requestFps t ≠ none

/-! ### The last interval -/

theorem rates_append (l l' : List (ℕ × ℕ)) : rates (l ++ l') = rates l ++ rates l' := by
  simp [rates]

theorem rates_perm {l l' : List (ℕ × ℕ)} (h : l.Perm l') : (rates l).Perm (rates l') :=
  (h.filter _).map _

theorem pickValidFps_append (requestFps : ℕ) (l : List (ℕ × ℕ)) (interval : ℕ × ℕ) :
    PickValidFps requestFps (l ++ [interval]) =
      if validInterval interval then min requestFps (interval.2 / interval.1)
      else PickValidFps requestFps l := by
  rw [PickValidFps, List.foldl_append, ← PickValidFps]
  by_cases h : interval.1 = 0 ∨ interval.2 = 0
  · have hskip : validInterval interval = false := by
      rcases h with h | h <;> simp [validInterval, h]
    simp [h, hskip]
  · obtain ⟨hnum, hden⟩ := not_or.mp h
    simp [validInterval, hnum, hden, min_def]

/-- Only the last rate counts. -/
theorem pickValidFps_eq (requestFps : ℕ) (frmival : List (ℕ × ℕ)) :
    PickValidFps requestFps frmival = ((rates frmival).getLast?).elim requestFps (min requestFps) := by
  induction frmival using List.reverseRecOn with
  | nil => rfl
  | append_singleton l interval ih =>
    rw [pickValidFps_append, ih, rates_append]
    cases h : validInterval interval <;> simp [rates, h]

theorem pickValidFps_le (requestFps : ℕ) (frmival : List (ℕ × ℕ)) :
    PickValidFps requestFps frmival ≤ requestFps := by
  rw [pickValidFps_eq]
  cases (rates frmival).getLast? with
  | none => exact le_rfl
  | some fps => exact min_le_left _ _

/-- A stream that runs was never set to more than was asked for. -/
theorem Streams.parm_le {c : Session} {r : Request} {s : VideoStream} (h : Streams c r s) :
    ∃ fps, s.driver.parm = some fps ∧ fps ≤ c.limitFps r.fps r.sceneMode := by
  obtain ⟨-, -, -, ⟨frmival, hparm⟩, -⟩ := h
  refine ⟨_, hparm, ?_⟩
  rw [parmOf]
  split_ifs
  · exact le_rfl
  · exact pickValidFps_le _ _

/-- Any of the rates may come last. -/
theorem exists_perm_last {frmival : List (ℕ × ℕ)} {fps : ℕ} (h : fps ∈ rates frmival) (requestFps : ℕ) :
    ∃ other : List (ℕ × ℕ), other.Perm frmival ∧ PickValidFps requestFps other = min requestFps fps := by
  obtain ⟨interval, hmem, rfl⟩ := List.mem_map.mp h
  obtain ⟨hmem, hvalid⟩ := List.mem_filter.mp hmem
  refine ⟨frmival.erase interval ++ [interval], ?_, ?_⟩
  · exact List.perm_append_comm.trans (List.perm_cons_erase hmem).symm
  · rw [pickValidFps_append, if_pos hvalid]

theorem pickValidFps_of_all {requestFps n : ℕ} {frmival : List (ℕ × ℕ)}
    (h : ∀ fps ∈ rates frmival, min requestFps fps = n) (hne : rates frmival ≠ []) :
    PickValidFps requestFps frmival = n := by
  rw [pickValidFps_eq, List.getLast?_eq_some_getLast hne]
  exact h _ (List.getLast_mem hne)

/-! ### Divisions -/

theorem setDuration_triple {vfps : ℕ} (h : 0 < vfps) :
    Triple False (fun _ => True) (setDuration vfps) (fun t => t.mDurationNS = NS_PER_SEC / vfps)
      fun _ => False := by
  refine Triple.of_some (f := fun t => ({ t with mDurationNS := NS_PER_SEC / vfps }, 0)) ?_ ?_ ?_
  · intro t _
    simp [setDuration, divide, h.ne']
  · intro t _ _
    rfl
  · intro t _ hne
    exact hne rfl

theorem setMaxLag_triple {P : Timing → Prop} {mNumBuffers fps : ℕ} (h : 0 < fps)
    (hp : ∀ t m, P t → P { t with mFps := fps, mMaxLagNs := m }) :
    Triple False P (setMaxLag mNumBuffers fps) (fun t => P t ∧ t.mFps = fps) fun _ => False := by
  refine Triple.of_some
    (f := fun t => ({ t with mFps := fps, mMaxLagNs := mNumBuffers * 1000000000 * 5 / fps }, 0)) ?_ ?_ ?_
  · intro t _
    simp [setMaxLag, divide, h.ne']
  · intro t ht _
    exact ⟨hp t _ ht, rfl⟩
  · intro t _ hne
    exact hne rfl

/-- With a positive rate the configuration is defined, and when it succeeds, the duration is that of the
    rate. -/
theorem configureTiming_triple {frmival : List (ℕ × ℕ)} {s_parm s_fmt : Bool} {mNumBuffers fps : ℕ}
    (hfps : 0 < fps) (hpick : 0 < PickValidFps fps frmival) :
    Triple False (fun _ => True) (configureTiming frmival s_parm s_fmt mNumBuffers fps)
      (fun t => t.mDurationNS = NS_PER_SEC / PickValidFps fps frmival ∧ t.mFps = fps) fun _ => True := by
  have hcheck (P : Timing → Prop) (ok : Bool) :
      Triple False P (check (fun _ => ok) (-1)) P fun _ => True :=
    Triple.check (by decide) (fun _ ht _ => ht) fun _ _ _ => trivial
  refine Triple.andThen (hcheck _ s_parm)
    (Triple.andThen (R := fun t => t.mDurationNS = NS_PER_SEC / PickValidFps fps frmival) ?_ ?_)
  · exact (setDuration_triple hpick).weaken (fun _ h => h) (fun _ h => h) fun _ _ => trivial
  · refine Triple.andThen (hcheck _ s_fmt) ?_
    exact (setMaxLag_triple hfps fun _ _ h => h).weaken (fun _ h => h) (fun _ h => h) fun _ _ => trivial

/-- A rate of zero leaves an accepted configuration undefined. -/
theorem configureTiming_undefined {frmival : List (ℕ × ℕ)} {fps : ℕ} (h : PickValidFps fps frmival = 0)
    (s_fmt : Bool) (mNumBuffers : ℕ) (t : Timing) :
    configureTiming frmival true s_fmt mNumBuffers fps t = none := by
  have hstop : setDuration 0 t = none := rfl
  rw [configureTiming, h, andThen_of_zero rfl, andThen, hstop]
  rfl

/-! ### The choice -/

/-- From the orders of the driver: every rate leads to the same choice. -/
theorem Chosen.min_eq {requestFps : ℕ} {frmival : List (ℕ × ℕ)} (h : Chosen requestFps frmival) {fps : ℕ}
    (hfps : fps ∈ rates frmival) : min requestFps fps = PickValidFps requestFps frmival := by
  obtain ⟨other, hperm, hlast⟩ := exists_perm_last hfps requestFps
  rw [← hlast]
  exact h.order other hperm

/-- The last rate is the right one when it is the only one. -/
theorem chosen_of_same {requestFps n : ℕ} {frmival : List (ℕ × ℕ)} (hreq : 0 < requestFps) (hn : 0 < n)
    (hmin : ∀ fps ∈ rates frmival, min requestFps fps = n)
    (hmem : ∀ fps ∈ rates frmival, fps ≤ requestFps → fps = n) : Chosen requestFps frmival := by
  have hpick (l : List (ℕ × ℕ)) (hl : l.Perm frmival) :
      PickValidFps requestFps l = if rates frmival = [] then requestFps else n := by
    have hrates := rates_perm hl
    split_ifs with hnil
    · rw [hnil] at hrates
      rw [pickValidFps_eq, hrates.eq_nil]
      rfl
    · refine pickValidFps_of_all (fun fps h => hmin fps (hrates.mem_iff.mp h)) fun h => ?_
      rw [h] at hrates
      exact hnil hrates.symm.eq_nil
  have hpos : 0 < PickValidFps requestFps frmival := by
    rw [hpick frmival (List.Perm.refl _)]
    split_ifs <;> assumption
  refine ⟨hpos, pickValidFps_le _ _, ?_, ?_, ?_⟩
  · rintro ⟨fps, hfps, hpos, hle⟩
    have hne : rates frmival ≠ [] := List.ne_nil_of_mem hfps
    rw [hpick frmival (List.Perm.refl _), if_neg hne]
    obtain rfl := hmem fps hfps hle
    refine ⟨⟨hfps, hpos, hle⟩, ?_⟩
    rintro other ⟨hother, -, hle'⟩
    exact (hmem other hother hle').le
  · intro other hperm
    rw [hpick other hperm, hpick frmival (List.Perm.refl _)]
  · intro s_parm s_fmt mNumBuffers t hnone
    exact ((configureTiming_triple hreq hpos) t trivial).1 hnone

/-- The frame rate is chosen as it should be exactly when every rate reaches the request, or all rates are
    one and the same. -/
theorem chosen_iff {requestFps : ℕ} (frmival : List (ℕ × ℕ)) (hreq : 0 < requestFps) :
    Chosen requestFps frmival ↔
      (∀ fps ∈ rates frmival, requestFps ≤ fps) ∨ ∃ n, 0 < n ∧ ∀ fps ∈ rates frmival, fps = n := by
  constructor
  · intro h
    rcases (pickValidFps_le requestFps frmival).lt_or_eq with hlt | heq
    · refine Or.inr ⟨_, h.pos, fun fps hfps => ?_⟩
      have hmin := h.min_eq hfps
      omega
    · refine Or.inl fun fps hfps => ?_
      have hmin := h.min_eq hfps
      omega
  · rintro (hall | ⟨n, hn, hall⟩)
    · exact chosen_of_same hreq hreq (fun fps hfps => min_eq_left (hall fps hfps)) fun fps hfps hle =>
        le_antisymm hle (hall fps hfps)
    · refine chosen_of_same (n := min requestFps n) hreq (lt_min hreq hn) ?_ ?_
      · rintro fps hfps
        rw [hall fps hfps]
      · rintro fps hfps hle
        rw [hall fps hfps] at hle ⊢
        exact (min_eq_right hle).symm

/-- A request of 30 with one rate that is enumerated twice. -/
theorem chosen_twice : Chosen 30 [(1, 15), (2, 30)] :=
  (chosen_iff _ (by decide)).mpr (.inr ⟨15, by decide, by decide⟩)

/-- 30 frames are enumerated before 15: the driver's last one is taken, not the largest. -/
theorem last_interval_decides : ¬ ∀ (requestFps : ℕ) (frmival : List (ℕ × ℕ)), 0 < requestFps →
    Chosen requestFps frmival := by
  intro h
  have hgreatest := (h 30 [(1, 30), (1, 15)] (by decide)).greatest ⟨30, by decide⟩
  exact absurd (hgreatest.2 (show 30 ∈ _ by decide)) (by decide)

/-- The same from a frame every two seconds: the rate is zero, and it is divided by. -/
example (t : Timing) : configureTiming [(1, 30), (2, 1)] true true 3 30 t = none := rfl

end ImxHal.CameraStream
