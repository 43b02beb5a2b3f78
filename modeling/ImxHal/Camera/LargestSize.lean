import ImxHal.Camera.Resolutions
import ImxHal.Schemes.Champion

/-! @src camera/camera/CameraDeviceHWLImpl.cpp (setMaxPictureResolutions),
    camera/camera/CameraDeviceSessionHWLImpl.cpp (ConfigurePipeline) |
    name:largest size | scheme:champion | family:folds

    Two loops look for the largest of a list of sizes. One takes a size that is larger on one side, the other
    only a size that is larger on both:

        1920x1080, 1600x1200     pictures: 1600 is not, 1200 is larger   ─▶ 1600x1200
        1600x1200, 1920x1080     streams:  1920 is larger, 1080 is not   ─▶ 1600x1200 -/

namespace ImxHal.Resolutions
open ImxHal.Champion

/-- `maxStreamWidth` and `maxStreamHeight` of `ConfigurePipeline`. -/
def maxStreamSize (streams : List (ℕ × ℕ)) : ℕ × ℕ :=
  streams.foldl (fun m stream => if m.1 < stream.1 ∧ m.2 < stream.2 then stream else m) (0, 0)

/-! ### Areas -/

section Largest
variable {α : Type} [CommSemiring α] [LinearOrder α] [IsStrictOrderedRing α]

def area (s : α × α) : α := s.1 * s.2

/-- Both sides are positive. -/
def Positive (l : List (α × α)) : Prop := ∀ s ∈ l, 0 < s.1 ∧ 0 < s.2

/-- The comparison of the pictures. -/
def larger (s m : α × α) : Prop := m.1 < s.1 ∨ m.2 < s.2

/-- The comparison of the streams. -/
def encloses (s m : α × α) : Prop := m.1 < s.1 ∧ m.2 < s.2

instance (s m : α × α) : Decidable (larger s m) := inferInstanceAs (Decidable (_ ∨ _))

instance (s m : α × α) : Decidable (encloses s m) := inferInstanceAs (Decidable (_ ∧ _))

instance : IsStrictOrder (α × α) encloses where
  irrefl _ h := lt_irrefl _ h.1
  trans _ _ _ hst htu := ⟨htu.1.trans hst.1, htu.2.trans hst.2⟩

/-- A choice from a list that does not depend on its order. -/
structure Settled (select : List (α × α) → α × α) (l : List (α × α)) : Prop where
  largest : ∀ l' : List (α × α), l'.Perm l → Largest area l (select l')
  area_eq : ∀ l' : List (α × α), l'.Perm l → area (select l') = area (select l)
  not_exceeded : ∀ l' : List (α × α), l'.Perm l → ∀ s ∈ l, ¬ encloses s (select l')

theorem area_lt {s m : α × α} (hm : 0 < m.1 ∧ 0 < m.2) (h : encloses s m) : area m < area s :=
  mul_lt_mul'' h.1 h.2 hm.1.le hm.2.le

/-- What does not reach beyond another size is smaller or the same. -/
theorem eq_or_area_lt {s m : α × α} (hs : 0 < s.1 ∧ 0 < s.2) (h : ¬ larger s m) :
    s = m ∨ area s < area m := by
  obtain ⟨hw, hh⟩ := not_or.mp h
  rcases (not_lt.mp hw).lt_or_eq with hw | hw
  · exact .inr (mul_lt_mul hw (not_lt.mp hh) hs.2 (hs.1.le.trans hw.le))
  · rcases (not_lt.mp hh).lt_or_eq with hh | hh
    · exact .inr (by rw [area, area, hw]; exact mul_lt_mul_of_pos_left hh (hw ▸ hs.1))
    · exact .inl (Prod.ext hw hh)

/-- A loop that finds a champion settles as far as the champion is of the largest area. -/
theorem settled_iff {beats : α × α → α × α → Prop} [DecidableRel beats] {select : List (α × α) → α × α}
    {l : List (α × α)} (hpos : Positive l)
    (hselect : ∀ l' : List (α × α), l'.Perm l → champion beats l' = some (select l')) :
    Settled select l ↔ OrderFree beats area l := by
  constructor
  · intro h l' hperm c hc
    rw [hselect l' hperm] at hc
    obtain rfl := Option.some.inj hc
    exact h.largest l' hperm
  · intro h
    have hlargest (l' : List (α × α)) (hperm : l'.Perm l) : Largest area l (select l') :=
      h l' hperm _ (hselect l' hperm)
    refine ⟨hlargest, fun l' hperm => ?_, fun l' hperm s hs hlt => ?_⟩
    · exact (hlargest l' hperm).rank_eq (hlargest l (List.Perm.refl l))
    · have harea := area_lt (hpos _ (hlargest l' hperm).1) hlt
      exact absurd ((hlargest l' hperm).2 s hs) (not_le.mpr harea)

end Largest

/-- `setMaxPictureResolutions` over the sizes of a table. -/
def maxPictureSize (sizes : List Size) : Size := setMaxPictureResolutions (filled sizes)

theorem champion_maxPictureSize {sizes : List Size} (hne : sizes ≠ []) (hfit : sizes.length ≤ 32)
    (hpos : Positive sizes) : champion larger sizes = some (maxPictureSize sizes) := by
  obtain ⟨s, l, rfl⟩ := List.exists_cons_of_ne_nil hne
  obtain ⟨c, hc⟩ := exists_champion larger hne
  have hcons := hc
  rw [champion_cons, Option.some.injEq] at hcons
  have hself : ¬ (s.1 < s.1 ∨ s.2 < s.2) := by simp
  have hslots := slots_filled hfit
  have hzero : (filled (s :: l)).get 0 = s := Table.get_of_getElem? (by rw [hslots]; rfl)
  -- The zeros behind the sizes replace nothing.
  have htail (n : ℕ) : (List.replicate n ((0, 0) : Size)).foldl
      (fun m s => if m.1 < s.1 ∨ m.2 < s.2 then s else m) c = c := by
    have hcpos := hpos c (champion_mem hc)
    induction n with
    | zero => rfl
    | succ n ih =>
      have hkeep : ¬ (c.1 < 0 ∨ c.2 < 0) := by omega
      rw [List.replicate_succ, List.foldl_cons, if_neg hkeep, ih]
  rw [hc, maxPictureSize, setMaxPictureResolutions, hslots, hzero, List.foldl_append, List.foldl_cons,
    if_neg hself]
  have hfold : l.foldl (fun m s => if m.1 < s.1 ∨ m.2 < s.2 then s else m) s = c := hcons
  rw [hfold, htail]

theorem champion_maxStreamSize {streams : List (ℕ × ℕ)} (hne : streams ≠ []) (hpos : Positive streams) :
    champion encloses streams = some (maxStreamSize streams) := by
  obtain ⟨s, l, rfl⟩ := List.exists_cons_of_ne_nil hne
  have hfirst := hpos s List.mem_cons_self
  rw [champion_cons, maxStreamSize, List.foldl_cons, if_pos hfirst]
  rfl

/-- The device keeps the choice from its picture sizes. -/
theorem max_of_initSensorStaticData {mSensorData : CameraSensorMetadata} {cam_frmsize : List FrameSize}
    {d : CameraDeviceHwlImpl} (h : initSensorStaticData mSensorData cam_frmsize = some d) :
    (d.mMaxWidth, d.mMaxHeight) = maxPictureSize (pictureSizes mSensorData cam_frmsize) := by
  rw [initSensorStaticData, enumerated, tables] at h
  split_ifs at h
  · obtain rfl := Option.some.inj h
    rfl
  · cases h

/-- The two choices settle exactly when no smaller picture reaches beyond one of the largest area, and every
    smaller stream lies within one of the largest area. -/
theorem choices_settled_iff {pictures : List Size} {streams : List (ℕ × ℕ)} (hpictures : pictures ≠ [])
    (hfit : 2 * pictures.length ≤ MAX_RESOLUTION_SIZE) (hpos : Positive pictures) (hstreams : streams ≠ [])
    (hpos' : Positive streams) :
    Settled maxPictureSize pictures ∧ Settled maxStreamSize streams ↔
      (∀ t, Largest area pictures t → ∀ s ∈ pictures,
        Largest area pictures s ∨ (s.1 ≤ t.1 ∧ s.2 ≤ t.2)) ∧
      ∀ s ∈ streams, Largest area streams s ∨
        ∃ t, Largest area streams t ∧ s.1 < t.1 ∧ s.2 < t.2 := by
  rw [MAX_RESOLUTION_SIZE] at hfit
  have hpicture : Settled maxPictureSize pictures ↔ OrderFree larger area pictures := by
    refine settled_iff hpos fun l' hperm => ?_
    have hne : l' ≠ [] := fun hnil => hpictures (hnil ▸ hperm).symm.eq_nil
    exact champion_maxPictureSize hne (by rw [hperm.length_eq]; omega) fun s hs => hpos s (hperm.mem_iff.mp hs)
  have hstream : Settled maxStreamSize streams ↔ OrderFree encloses area streams := by
    refine settled_iff hpos' fun l' hperm => ?_
    have hne : l' ≠ [] := fun hnil => hstreams (hnil ▸ hperm).symm.eq_nil
    exact champion_maxStreamSize hne fun s hs => hpos' s (hperm.mem_iff.mp hs)
  rw [hpicture, hstream, orderFree_iff_of_rank fun s hs m _ h => eq_or_area_lt (hpos s hs) h,
    orderFree_iff_of_strict]
  refine and_congr (forall₂_congr fun t _ => forall₂_congr fun s _ => ?_) Iff.rfl
  constructor
  · intro h
    by_cases hlarger : larger s t
    · exact .inl (h hlarger)
    · obtain ⟨hw, hh⟩ := not_or.mp hlarger
      exact .inr ⟨not_lt.mp hw, not_lt.mp hh⟩
  · rintro (hlargest | ⟨hw, hh⟩) hlarger
    · exact hlargest
    · rcases hlarger with h | h
      · exact absurd hw (not_le.mpr h)
      · exact absurd hh (not_le.mpr h)

/-- One picture size and two streams of the same shape. -/
theorem choices_settled_same_shape :
    Settled maxPictureSize [(1920, 1080)] ∧ Settled maxStreamSize [(640, 480), (1280, 960)] := by
  have hlargest : Largest area [((640, 480) : ℕ × ℕ), (1280, 960)] (1280, 960) := by
    simp [Largest, area]
  refine (choices_settled_iff (by decide) (by decide) (by simp [Positive]) (by decide)
    (by simp [Positive])).mpr ⟨by simp [Largest, area], fun s hs => ?_⟩
  rcases List.mem_cons.mp hs with rfl | hs
  · exact .inr ⟨_, hlargest, by decide⟩
  · exact .inl (List.mem_singleton.mp hs ▸ hlargest)

/-- A picture size of 1600x1200 replaces the larger one of 1920x1080 in front of it. -/
example : maxPictureSize [(1920, 1080), (1600, 1200)] = (1600, 1200) := by
  have hchampion := @champion_maxPictureSize [(1920, 1080), (1600, 1200)] (by decide) (by decide)
    (by simp [Positive])
  exact Option.some.inj (hchampion.symm.trans (by decide))

/-- A stream of 1920x1080 does not replace the smaller one of 1600x1200 in front of it. -/
theorem mixed_shapes_unsettled : ¬ ∀ (pictures : List Size) (streams : List (ℕ × ℕ)), pictures ≠ [] →
    2 * pictures.length ≤ MAX_RESOLUTION_SIZE → Positive pictures → streams ≠ [] → Positive streams →
      Settled maxPictureSize pictures ∧ Settled maxStreamSize streams := by
  intro h
  obtain ⟨-, hstream⟩ := h [(1920, 1080)] [(1600, 1200), (1920, 1080)] (by decide) (by decide)
    (by simp [Positive]) (by decide) (by simp [Positive])
  have hlargest := (hstream.largest _ (List.Perm.refl _)).2 (1920, 1080) (by decide)
  exact absurd hlargest (by decide)

end ImxHal.Resolutions
