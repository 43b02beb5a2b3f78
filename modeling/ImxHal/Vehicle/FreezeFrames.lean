import ImxHal.Vehicle.EmulatedHal

/-! @src vehicle/impl/vhal_v2_0/EmulatedVehicleHal.cpp | name:freeze frames | scheme:run | family:stores

    The OBD2 freeze frames are kept under their timestamps:

        get(OBD2_FREEZE_FRAME_INFO)            t₁ < t₂ < t₃
        get(OBD2_FREEZE_FRAME, tᵢ)             the frame
        set(OBD2_FREEZE_FRAME_CLEAR, [tᵢ, …])  gone, up to the first timestamp without a frame -/

namespace ImxHal.Vehicle.EmulatedVehicleHal

open VehicleProperty

/-! ### What a client sees -/

/-- The timestamps a client is told. -/
def listed (hal : EmulatedVehicleHal) : List Int64 :=
  match (hal.get { VehiclePropValue.blank with prop := OBD2_FREEZE_FRAME_INFO }).1 with
  | none => []
  | some v => v.value.int64Values

structure FramesKept (hal : EmulatedVehicleHal) : Prop where
  ascending : hal.listed.Pairwise (· < ·)
  /-- What is listed can be fetched, and nothing else. -/
  fetched : ∀ request, request.prop = OBD2_FREEZE_FRAME →
    ((hal.get request).2 = .ok ↔ ∃ t ∈ hal.listed, request.value.int64Values = [t])
  clearedAll : ∀ v stray, v.prop = OBD2_FREEZE_FRAME_CLEAR → v.value.int64Values = [] →
    (hal.set v stray).2 = .ok ∧ (hal.set v stray).1.listed = []
  /-- A list of timestamps is served up to the first one that is not listed, or no longer. -/
  cleared : ∀ v stray, v.prop = OBD2_FREEZE_FRAME_CLEAR → v.value.int64Values ≠ [] →
    ∃ served, served <+: v.value.int64Values ∧ served.Nodup ∧ (∀ t ∈ served, t ∈ hal.listed) ∧
      (∀ t, served ++ [t] <+: v.value.int64Values → t ∈ hal.listed → t ∈ served) ∧
      (hal.set v stray).1.listed = hal.listed.filter (· ∉ served) ∧
      ((hal.set v stray).2 = .ok ↔ served = v.value.int64Values)
  /-- Nothing else makes a frame go. -/
  kept : ∀ e, (∀ v stray, e = .set v stray → v.prop ≠ OBD2_FREEZE_FRAME_CLEAR) →
    ∀ t ∈ hal.listed, t ∈ (step hal e).listed

/-! ### The frames of a store -/

def frames (s : VehiclePropertyStore) : List Int64 :=
  (s.readValuesForProperty OBD2_FREEZE_FRAME).map (·.timestamp)

theorem get_info (hal : EmulatedVehicleHal) {request : VehiclePropValue}
    (h : request.prop = OBD2_FREEZE_FRAME_INFO) :
    hal.get request = (some { hal.fillObd2DtcInfo with timestamp := hal.clock }, .ok) := by
  have hne : OBD2_FREEZE_FRAME_INFO ≠ OBD2_FREEZE_FRAME := by decide
  unfold get
  rw [h, if_neg hne, if_pos rfl]

theorem listed_eq (hal : EmulatedVehicleHal) : hal.listed = frames hal.mPropStore := by
  rw [listed, get_info hal rfl]
  rfl

section Store
variable {s : VehiclePropertyStore}

theorem Recorded.frame_eq (h : Recorded s) {r : RecordId} {v : VehiclePropValue}
    (hv : s.mPropertyValues.find? r = some v) (hr : r.prop = OBD2_FREEZE_FRAME) :
    r = ⟨OBD2_FREEZE_FRAME, 0, v.timestamp⟩ := by
  have harea := h.area r v hv (by rw [hr]; decide)
  have htoken := h.token r v hv
  rw [if_pos hr] at htoken
  rw [← hr, ← harea, ← htoken]

/-- The range of the freeze frames holds them all and nothing else. -/
theorem range_frames (h : Recorded s) : s.readValuesForProperty OBD2_FREEZE_FRAME =
    (s.mPropertyValues.entries.filter fun e => e.1.prop = OBD2_FREEZE_FRAME).map (·.2) := by
  have hin : ∀ e ∈ s.mPropertyValues.entries,
      ((VehiclePropertyStore.findRangeLocked OBD2_FREEZE_FRAME).1 ≤ e.1 ∧
        e.1 < (VehiclePropertyStore.findRangeLocked OBD2_FREEZE_FRAME).2 ↔ e.1.prop = OBD2_FREEZE_FRAME) := by
    rintro ⟨r, v⟩ he
    have hv := SortedMap.find?_eq_some.mpr he
    have hrange := h.find?_clear r
    rw [VehiclePropertyStore.removeValuesForProperty,
      SortedMap.find?_eraseRange _ (VehiclePropertyStore.findRange_le freezeFrame_ne_max), hv] at hrange
    split_ifs at hrange with hl hr hr
    · exact iff_of_true hl hr
    · exact iff_of_false hl hr
  rw [VehiclePropertyStore.readValuesForProperty, SortedMap.range_eq_filter]
  congr 1
  refine List.filter_congr fun e he => ?_
  rw [decide_eq_decide]
  exact hin e he

/-- The frames are the tokens of the property's records. -/
theorem frames_eq (h : Recorded s) : frames s =
    (s.mPropertyValues.entries.filter fun e => e.1.prop = OBD2_FREEZE_FRAME).map (·.1.token) := by
  rw [frames, range_frames h, List.map_map]
  refine List.map_congr_left fun e he => ?_
  obtain ⟨he, hprop⟩ := List.mem_filter.mp he
  have hframe := h.frame_eq (SortedMap.find?_eq_some.mpr he) (by simpa using hprop)
  rw [hframe]
  rfl

theorem readRecord_frame (t : Int64) :
    s.readRecordOrNull OBD2_FREEZE_FRAME 0 t = s.mPropertyValues.find? ⟨OBD2_FREEZE_FRAME, 0, t⟩ := rfl

theorem mem_frames (h : Recorded s) {t : Int64} :
    t ∈ frames s ↔ s.mPropertyValues.find? ⟨OBD2_FREEZE_FRAME, 0, t⟩ ≠ none := by
  rw [frames, range_frames h, List.map_map, List.mem_map, Option.ne_none_iff_exists']
  constructor
  · rintro ⟨⟨r, v⟩, he, rfl⟩
    obtain ⟨he, hprop⟩ := List.mem_filter.mp he
    have hv := SortedMap.find?_eq_some.mpr he
    have hr := h.frame_eq hv (by simpa using hprop)
    exact ⟨v, by rwa [hr] at hv⟩
  · rintro ⟨v, hv⟩
    have hr := h.frame_eq hv rfl
    refine ⟨(⟨OBD2_FREEZE_FRAME, 0, t⟩, v), ?_, ?_⟩
    · exact List.mem_filter.mpr ⟨SortedMap.find?_eq_some.mp hv, by simp⟩
    · exact (congrArg RecordId.token hr).symm

theorem frames_ascending (h : Recorded s) : (frames s).Pairwise (· < ·) := by
  rw [frames_eq h, List.pairwise_map]
  refine ((s.mPropertyValues.ascending.filter _).imp_of_mem ?_)
  rintro ⟨r, v⟩ ⟨r', v'⟩ he he' hlt
  obtain ⟨he, hprop⟩ := List.mem_filter.mp he
  obtain ⟨he', hprop'⟩ := List.mem_filter.mp he'
  have hr := h.frame_eq (SortedMap.find?_eq_some.mpr he) (by simpa using hprop)
  have hr' := h.frame_eq (SortedMap.find?_eq_some.mpr he') (by simpa using hprop')
  rw [hr, hr', RecordId.lt_iff] at hlt
  rw [hr, hr']
  simpa [Int32.lt_irrefl] using hlt

/-- Ascending lists are told apart by their members. -/
theorem eq_of_ascending {l l' : List Int64} (h : l.Pairwise (· < ·)) (h' : l'.Pairwise (· < ·))
    (hmem : ∀ t, t ∈ l ↔ t ∈ l') : l = l' := by
  have hnodup : ∀ {l : List Int64}, l.Pairwise (· < ·) → l.Nodup := fun h => h.imp fun hlt heq => by
    rw [heq] at hlt
    exact Int64.lt_irrefl hlt
  have hperm : l.Perm l' := (List.perm_ext_iff_of_nodup (hnodup h) (hnodup h')).mpr hmem
  refine hperm.eq_of_pairwise (fun t u _ _ htu hut => ?_) h h'
  exact absurd (Int64.lt_trans htu hut) Int64.lt_irrefl

theorem frames_removeValue (h : Recorded s) {t : Int64} {frame : VehiclePropValue}
    (hframe : s.mPropertyValues.find? ⟨OBD2_FREEZE_FRAME, 0, t⟩ = some frame) :
    frames (s.removeValue frame) = (frames s).filter (· ≠ t) := by
  have hprop := h.prop _ _ hframe
  have hts : t = frame.timestamp := h.token _ _ hframe
  have hreg := h.registered _ _ hframe
  have hid : s.getRecordIdLocked frame = ⟨OBD2_FREEZE_FRAME, 0, t⟩ := by
    have hglobal : isGlobalProp OBD2_FREEZE_FRAME = true := by decide
    rw [h.getRecordId (by rwa [hprop]), hprop, hts]
    simp [hglobal]
  refine eq_of_ascending (frames_ascending (h.removeValue frame)) ((frames_ascending h).filter _) fun u => ?_
  rw [mem_frames (h.removeValue frame), List.mem_filter, mem_frames h, VehiclePropertyStore.removeValue, hid,
    SortedMap.find?_erase]
  by_cases hu : u = t
  · simp [hu]
  · simp [hu]

theorem clearFrames_spec (h : Recorded s) (timestamps : List Int64) :
    ∃ served, served <+: timestamps ∧ served.Nodup ∧ (∀ t ∈ served, t ∈ frames s) ∧
      (∀ t, served ++ [t] <+: timestamps → t ∈ frames s → t ∈ served) ∧
      frames (clearFrames s timestamps).1 = (frames s).filter (· ∉ served) ∧
      ((clearFrames s timestamps).2 = .ok ↔ served = timestamps) := by
  induction timestamps generalizing s with
  | nil => exact ⟨[], List.prefix_refl _, List.nodup_nil, by simp, by simp, by simp [clearFrames], by simp [clearFrames]⟩
  | cons t timestamps ih =>
    rw [clearFrames]
    cases hframe : s.readRecordOrNull OBD2_FREEZE_FRAME 0 t with
    | none =>
      have hmem : t ∉ frames s := by
        rw [mem_frames h]
        exact not_not.mpr hframe
      refine ⟨[], List.nil_prefix, List.nodup_nil, by simp, fun u hu hlisted => ?_, by simp, by simp⟩
      obtain rfl : u = t := by simpa using hu
      exact absurd hlisted hmem
    | some frame =>
      have hmem : t ∈ frames s := by
        rw [mem_frames h]
        exact Option.ne_none_iff_exists'.mpr ⟨frame, hframe⟩
      obtain ⟨served, hprefix, hnodup, hlisted, hstops, hleft, hok⟩ := ih (h.removeValue frame)
      rw [frames_removeValue h hframe] at hlisted hstops hleft
      have hserved : ∀ u ∈ served, u ∈ frames s ∧ u ≠ t := fun u hu => by simpa using hlisted u hu
      refine ⟨t :: served, List.cons_prefix_cons.mpr ⟨rfl, hprefix⟩, ?_, ?_, ?_, ?_, ?_⟩
      · exact List.nodup_cons.mpr ⟨fun ht => (hserved t ht).2 rfl, hnodup⟩
      · exact List.forall_mem_cons.mpr ⟨hmem, fun u hu => (hserved u hu).1⟩
      · intro u hu hin
        by_cases heq : u = t
        · rw [heq]
          exact List.mem_cons_self
        · refine List.mem_cons_of_mem t (hstops u (List.cons_prefix_cons.mp hu).2 ?_)
          simp [hin, heq]
      · rw [hleft, List.filter_filter]
        refine List.filter_congr fun u _ => ?_
        simp [Bool.and_comm]
      · rw [hok, List.cons.injEq, and_iff_right rfl]

end Store

/-! ### Runs -/

theorem get_frame (hal : EmulatedVehicleHal) {request : VehiclePropValue}
    (h : request.prop = OBD2_FREEZE_FRAME) : (hal.get request).2 = (hal.fillObd2FreezeFrame request).2 := by
  unfold get
  rw [if_pos h]

theorem set_clear (hal : EmulatedVehicleHal) {v : VehiclePropValue} (h : v.prop = OBD2_FREEZE_FRAME_CLEAR)
    (stray : Stray) : hal.set v stray = hal.clearObd2FreezeFrames v := by
  have hgenerate : OBD2_FREEZE_FRAME_CLEAR ≠ kGenerateFakeDataControllingProperty := by decide
  have hhvac : OBD2_FREEZE_FRAME_CLEAR ∉ kHvacPowerProperties := by decide
  unfold set
  rw [h, if_neg hgenerate, if_neg fun hfan => hhvac hfan.1, if_pos rfl]

theorem frame_stays (s : VehiclePropertyStore) (v : VehiclePropValue) (updateStatus : Bool) {r : RecordId}
    (h : s.mPropertyValues.find? r ≠ none) :
    (s.writeValue v updateStatus).1.mPropertyValues.find? r ≠ none := by
  by_cases hreg : s.mConfigs.lookup v.prop = none
  · rwa [VehiclePropertyStore.writeValue_unregistered hreg]
  · rw [VehiclePropertyStore.find?_writeValue hreg]
    split_ifs
    · exact Option.some_ne_none _
    · exact h

theorem Recorded.framesKept {hal : EmulatedVehicleHal} (h : Recorded hal.mPropStore) : FramesKept hal where
  ascending := by
    rw [listed_eq]
    exact frames_ascending h
  fetched request hprop := by
    rw [get_frame hal hprop, listed_eq, fillObd2FreezeFrame]
    split
    next t hvalues =>
      simp only [hvalues, List.cons.injEq, and_true, exists_eq_right', mem_frames h, ← readRecord_frame]
      cases hal.mPropStore.readRecordOrNull OBD2_FREEZE_FRAME 0 t <;> simp
    next hvalues =>
      refine iff_of_false (by simp) ?_
      rintro ⟨t, -, heq⟩
      exact hvalues t heq
  clearedAll v stray hprop hempty := by
    rw [set_clear hal hprop stray, clearObd2FreezeFrames, if_pos hempty]
    refine ⟨rfl, ?_⟩
    rw [listed_eq, List.eq_nil_iff_forall_not_mem]
    intro t
    rw [mem_frames h.clear, h.find?_clear, if_pos rfl]
    exact not_not.mpr rfl
  cleared v stray hprop hne := by
    rw [set_clear hal hprop stray, clearObd2FreezeFrames, if_neg hne]
    simp only [listed_eq]
    exact clearFrames_spec h v.value.int64Values
  kept e he t ht := by
    have hnext : Recorded (step hal e).mPropStore :=
      step_store_inv (fun s v updateStatus hs => hs.writeValue v updateStatus) e
        (fun v stray heq hprop => absurd hprop (he v stray heq)) h
    rw [listed_eq, mem_frames h] at ht
    rw [listed_eq, mem_frames hnext]
    have hstays : ∀ (s : VehiclePropertyStore) v updateStatus,
        s.mPropertyValues.find? ⟨OBD2_FREEZE_FRAME, 0, t⟩ ≠ none →
        (s.writeValue v updateStatus).1.mPropertyValues.find? ⟨OBD2_FREEZE_FRAME, 0, t⟩ ≠ none :=
      fun s v updateStatus hs => frame_stays s v updateStatus hs
    exact step_store_inv hstays e (fun v stray heq hprop => absurd hprop (he v stray heq)) ht

/-- After every sequence of events the frames listed are the frames that can be fetched, and a clear takes
    the named ones. -/
theorem freeze_frames_kept (kVehicleProperties : List PropId) (initial : List VehiclePropValue)
    (mInEmulator : Bool) (clock : Int64) (es : List Event) :
    FramesKept (Run.run step (onCreate kVehicleProperties initial mInEmulator clock) es) :=
  (recorded_run kVehicleProperties initial mInEmulator clock es).framesKept

end ImxHal.Vehicle.EmulatedVehicleHal
