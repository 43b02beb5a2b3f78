import ImxHal.Camera.VideoStream
import ImxHal.Schemes.Exchange

/-! @src camera/camera/CameraDeviceHWLImpl.cpp (PickResByMetaData, initSensorStaticData,
    adjustPreviewResolutions, setMaxPictureResolutions, FoundResoulution, StreamCombJudge) |
    name:camera sizes | scheme:exchange | family:folds

    The sizes of the driver go through the filters into two arrays of 64 ints. The later passes go over the
    whole arrays, with the zeros behind the sizes:

        ENUM_FRAMESIZES ─▶ config ─▶ larger than 160x120 ─▶ 5 fps  ─▶ mPictureResolutions ─▶ mMaxWidth x mMaxHeight
                                                         └▶ 15 fps ─▶ mPreviewResolutions ─▶ widest first, 720p, 768p -/

namespace ImxHal.Resolutions
open ImxHal.CameraStream (int32)
open ImxHal.Exchange

def MAX_RESOLUTION_SIZE : ℕ := 64

-- `HAL_PIXEL_FORMAT_…`
def BLOB : ℤ := 0x21

/-- Width and height. -/
abbrev Size := ℤ × ℤ

/-- `int[MAX_RESOLUTION_SIZE]`, by the pairs of ints that make a size. -/
structure Table where
  slots : List Size
  length_eq : slots.length = MAX_RESOLUTION_SIZE / 2

def Table.get (t : Table) (i : ℕ) : Size := t.slots.getD i (0, 0)

def Table.set (t : Table) (i : ℕ) (s : Size) : Table :=
  ⟨t.slots.set i s, by rw [List.length_set, t.length_eq]⟩

/-- After `memset`. -/
def Table.zero : Table := ⟨List.replicate (MAX_RESOLUTION_SIZE / 2) (0, 0), List.length_replicate⟩

/-- `v4l2_frmsizeenum.discrete` with the frame intervals of the size. -/
structure FrameSize where
  width : ℕ
  height : ℕ
  frmival : List (ℕ × ℕ)

/-- What the configuration says about sizes. -/
structure CameraSensorMetadata where
  mGivenRes : List Size
  mMinWidth : ℤ
  mMinHeight : ℤ
  mMaxWidth : ℤ
  mMaxHeight : ℤ

structure CameraDeviceHwlImpl where
  mPreviewResolutions : Table
  mPreviewResolutionCount : ℕ
  mPictureResolutions : Table
  mPictureResolutionCount : ℕ
  mMaxWidth : ℤ
  mMaxHeight : ℤ

/-! ### Enumeration -/

def PickResByMetaData (mSensorData : CameraSensorMetadata) (width height : ℤ) : Bool :=
  let bPicked := mSensorData.mGivenRes = [] ||
    mSensorData.mGivenRes.any fun given => given.1 = width && given.2 = height
  bPicked && mSensorData.mMinWidth ≤ width && mSensorData.mMinHeight ≤ height &&
    width ≤ mSensorData.mMaxWidth && height ≤ mSensorData.mMaxHeight

/-- The loop over the frame intervals, which ends at one of numerator 0. -/
def scanFps : ℤ → List (ℕ × ℕ) → ℤ
  | maxFrmfps, [] => maxFrmfps
  | maxFrmfps, (numerator, denominator) :: frmival =>
    if numerator = 0 then maxFrmfps
    else
      let frmfps := int32 (denominator / numerator : ℕ)
      scanFps (if maxFrmfps < frmfps then frmfps else maxFrmfps) frmival

/-- Without a frame rate 30 is assumed. -/
def FrameSize.maxFrmfps (f : FrameSize) : ℤ :=
  let maxFrmfps := scanFps 0 f.frmival
  if maxFrmfps = 0 then 30 else maxFrmfps

/-- The size as it is stored. -/
def FrameSize.size (f : FrameSize) : Size := (int32 f.width, int32 f.height)

/-- The filters in front of the frame rate. -/
def FrameSize.usable (f : FrameSize) (mSensorData : CameraSensorMetadata) : Bool :=
  PickResByMetaData mSensorData f.size.1 f.size.2 && !(f.width = 0 || f.height = 0) &&
    !(f.width ≤ 160 || f.height ≤ 120)

def FrameSize.isPicture (f : FrameSize) : Bool := !(f.width = 176 && f.height = 144) && 5 ≤ f.maxFrmfps

def FrameSize.isPreview (f : FrameSize) : Bool := 15 ≤ f.maxFrmfps

/-- The tables and their counters on the way. -/
structure Enumeration where
  mPreviewResolutions : Table
  previewCnt : ℕ
  mPictureResolutions : Table
  pictureCnt : ℕ

/-- `res[cnt++] = width; res[cnt++] = height;`, which is undefined behind the array. -/
def Table.append (t : Table) (cnt : ℕ) (s : Size) : Option (Table × ℕ) :=
  if cnt + 1 < MAX_RESOLUTION_SIZE then some (t.set (cnt / 2) s, cnt + 2) else none

def addPicture (e : Enumeration) (f : FrameSize) : Option Enumeration :=
  if f.isPicture then
    (e.mPictureResolutions.append e.pictureCnt f.size).map fun r =>
      { e with mPictureResolutions := r.1, pictureCnt := r.2 }
  else some e

def addPreview (e : Enumeration) (f : FrameSize) : Option Enumeration :=
  if f.isPreview then
    (e.mPreviewResolutions.append e.previewCnt f.size).map fun r =>
      { e with mPreviewResolutions := r.1, previewCnt := r.2 }
  else some e

/-- One turn of the loop over the frame sizes. -/
def visit (mSensorData : CameraSensorMetadata) (e : Enumeration) (f : FrameSize) : Option Enumeration :=
  if f.usable mSensorData then (addPicture e f).bind fun e => addPreview e f else some e

/-! ### Later passes -/

/-- `xMax`, `yMax` and `idx` after `n` turns. -/
def widest (t : Table) (n : ℕ) : Size × ℕ :=
  (List.range n).foldl (fun m i => if m.1.1 < (t.get i).1 then (t.get i, i) else m) (t.get 0, 0)

/-- The last index of a size, -1 for none, after `n` turns. -/
def lastIndex (t : Table) (s : Size) (n : ℕ) : ℤ :=
  (List.range n).foldl (fun idx i => if t.get i = s then (i : ℤ) else idx) (-1)

def widestFirst (t : Table) : Table :=
  let tmp := t.get 0
  let m := widest t (MAX_RESOLUTION_SIZE / 2)
  (t.set 0 m.1).set m.2 tmp

/-- Sequence 1280x720 before 1024x768. -/
def sequence720p (t : Table) : Table :=
  let idx_720p := lastIndex t (1280, 720) (MAX_RESOLUTION_SIZE / 2)
  let idx_768p := lastIndex t (1024, 768) (MAX_RESOLUTION_SIZE / 2)
  if 0 < idx_720p ∧ 0 < idx_768p ∧ idx_768p < idx_720p then
    (t.set idx_768p.toNat (1280, 720)).set idx_720p.toNat (1024, 768)
  else t

def adjustPreviewResolutions (t : Table) : Table := sequence720p (widestFirst t)

def setMaxPictureResolutions (t : Table) : Size :=
  t.slots.foldl (fun m s => if m.1 < s.1 ∨ m.2 < s.2 then s else m) (t.get 0)

/-- From the opened node on. -/
def initSensorStaticData (mSensorData : CameraSensorMetadata) (cam_frmsize : List FrameSize) :
    Option CameraDeviceHwlImpl :=
  (cam_frmsize.foldlM (visit mSensorData) ⟨.zero, 0, .zero, 0⟩).map fun e =>
    let max := setMaxPictureResolutions e.mPictureResolutions
    { mPreviewResolutions := adjustPreviewResolutions e.mPreviewResolutions
      mPreviewResolutionCount := e.previewCnt
      mPictureResolutions := e.mPictureResolutions
      mPictureResolutionCount := e.pictureCnt
      mMaxWidth := max.1, mMaxHeight := max.2 }

/-! ### Streams -/

inductive StreamType where | kOutput | kInput
  deriving DecidableEq

structure Stream where
  stream_type : StreamType
  format : ℤ
  width : ℕ
  height : ℕ

/-- The first `size` ints of a table by the sizes in them. -/
def Table.recorded (t : Table) (size : ℕ) : List Size := t.slots.take (size / 2)

def FoundResoulution (width height : ℤ) (resArray : Table) (size : ℕ) : Bool :=
  (resArray.recorded size).any fun s => width = s.1 && height = s.2

def StreamCombJudge (streams : List Stream) (d : CameraDeviceHwlImpl) : Bool :=
  streams.all fun stream =>
    stream.stream_type = .kOutput && stream.format ≠ -1 &&
      if stream.format = BLOB then
        FoundResoulution (int32 stream.width) (int32 stream.height) d.mPictureResolutions d.mPictureResolutionCount
      else
        FoundResoulution (int32 stream.width) (int32 stream.height) d.mPreviewResolutions d.mPreviewResolutionCount


/-! ### What the driver's sizes come to -/

/-- A table that holds the sizes, and zeros behind them. -/
def filled (sizes : List Size) : Table :=
  ⟨(sizes ++ List.replicate (MAX_RESOLUTION_SIZE / 2) (0, 0)).take (MAX_RESOLUTION_SIZE / 2), by simp⟩

/-- The sizes that pass the filters of a table. -/
def passing (mSensorData : CameraSensorMetadata) (wanted : FrameSize → Bool) (cam_frmsize : List FrameSize) :
    List Size :=
  (cam_frmsize.filter fun f => f.usable mSensorData && wanted f).map FrameSize.size

def pictureSizes (mSensorData : CameraSensorMetadata) (cam_frmsize : List FrameSize) : List Size :=
  passing mSensorData FrameSize.isPicture cam_frmsize

def previewSizes (mSensorData : CameraSensorMetadata) (cam_frmsize : List FrameSize) : List Size :=
  passing mSensorData FrameSize.isPreview cam_frmsize

theorem Table.slots_set (t : Table) (i : ℕ) (s : Size) : (t.set i s).slots = t.slots.set i s := rfl

theorem Table.ext {t t' : Table} (h : t.slots = t'.slots) : t = t' := by
  cases t
  cases t'
  congr

theorem passing_concat (mSensorData : CameraSensorMetadata) (wanted : FrameSize → Bool) (l : List FrameSize)
    (f : FrameSize) : passing mSensorData wanted (l ++ [f]) =
      passing mSensorData wanted l ++ if f.usable mSensorData && wanted f then [f.size] else [] := by
  cases h : f.usable mSensorData && wanted f <;> simp [passing, h]

theorem slots_filled {sizes : List Size} (h : sizes.length ≤ 32) :
    (filled sizes).slots = sizes ++ List.replicate (32 - sizes.length) (0, 0) := by
  have hmin : min (MAX_RESOLUTION_SIZE / 2 - sizes.length) (MAX_RESOLUTION_SIZE / 2) = 32 - sizes.length := by
    rw [MAX_RESOLUTION_SIZE]
    omega
  have hslots : (filled sizes).slots = (sizes ++ List.replicate (MAX_RESOLUTION_SIZE / 2) (0, 0)).take
      (MAX_RESOLUTION_SIZE / 2) := rfl
  have hfit : sizes.length ≤ MAX_RESOLUTION_SIZE / 2 := h
  rw [hslots, List.take_append, List.take_of_length_le hfit, List.take_replicate, hmin]

/-- A table of sizes takes one more as long as there is room. -/
theorem append_filled (sizes : List Size) (s : Size) (h : sizes.length ≤ 32) :
    (filled sizes).append (2 * sizes.length) s =
      if (sizes ++ [s]).length ≤ 32 then some (filled (sizes ++ [s]), 2 * (sizes ++ [s]).length) else none := by
  have hlen : (sizes ++ [s]).length = sizes.length + 1 := by simp
  rw [Table.append, MAX_RESOLUTION_SIZE, hlen]
  by_cases hroom : sizes.length < 32
  · have hset : (filled sizes).set (2 * sizes.length / 2) s = filled (sizes ++ [s]) := by
      refine Table.ext ?_
      have hpad : 32 - sizes.length = 32 - (sizes ++ [s]).length + 1 := by omega
      rw [Table.slots_set, slots_filled h, slots_filled (by omega), Nat.mul_div_cancel_left _ (by decide), hpad]
      simp [List.replicate_succ]
    rw [if_pos (by omega), if_pos (by omega), hset]
    rfl
  · rw [if_neg (by omega), if_neg (by omega)]

/-- The tables after some sizes of the driver; none at all when one of them has overflowed. -/
def tables (preview picture : List Size) : Option Enumeration :=
  if preview.length ≤ 32 ∧ picture.length ≤ 32 then
    some ⟨filled preview, 2 * preview.length, filled picture, 2 * picture.length⟩
  else none

theorem tables_concat (preview picture : List Size) (s : Size) :
    ((tables preview picture).bind fun e => (e.mPictureResolutions.append e.pictureCnt s).map fun r =>
      ({ e with mPictureResolutions := r.1, pictureCnt := r.2 } : Enumeration)) =
        tables preview (picture ++ [s]) ∧
    ((tables preview picture).bind fun e => (e.mPreviewResolutions.append e.previewCnt s).map fun r =>
      ({ e with mPreviewResolutions := r.1, previewCnt := r.2 } : Enumeration)) =
        tables (preview ++ [s]) picture := by
  have hlen (l : List Size) : (l ++ [s]).length = l.length + 1 := by simp
  by_cases h : preview.length ≤ 32 ∧ picture.length ≤ 32
  · rw [tables, if_pos h]
    simp only [Option.bind_some, append_filled _ _ h.1, append_filled _ _ h.2]
    constructor <;> rw [tables] <;> split_ifs <;> first | rfl | omega
  · have hpicture : ¬ (preview.length ≤ 32 ∧ (picture ++ [s]).length ≤ 32) := by
      rw [hlen]
      omega
    have hpreview : ¬ ((preview ++ [s]).length ≤ 32 ∧ picture.length ≤ 32) := by
      rw [hlen]
      omega
    simp only [tables, if_neg h, if_neg hpicture, if_neg hpreview, Option.bind_none, and_self]

theorem tables_addPicture (preview picture : List Size) (f : FrameSize) :
    ((tables preview picture).bind fun e => addPicture e f) =
      tables preview (picture ++ if f.isPicture then [f.size] else []) := by
  cases h : f.isPicture
  · simp [addPicture, h]
  · simpa [addPicture, h] using (tables_concat preview picture f.size).1

theorem tables_addPreview (preview picture : List Size) (f : FrameSize) :
    ((tables preview picture).bind fun e => addPreview e f) =
      tables (preview ++ if f.isPreview then [f.size] else []) picture := by
  cases h : f.isPreview
  · simp [addPreview, h]
  · simpa [addPreview, h] using (tables_concat preview picture f.size).2

/-- One size of the driver: each table gets it when it passes the filters of that table. -/
theorem tables_visit (mSensorData : CameraSensorMetadata) (preview picture : List Size) (f : FrameSize) :
    ((tables preview picture).bind fun e => visit mSensorData e f) =
      tables (preview ++ if f.usable mSensorData && f.isPreview then [f.size] else [])
        (picture ++ if f.usable mSensorData && f.isPicture then [f.size] else []) := by
  cases husable : f.usable mSensorData with
  | false => simp [visit, husable]
  | true =>
    simp only [visit, husable, if_true, Bool.true_and]
    rw [← Option.bind_assoc, tables_addPicture, tables_addPreview]

/-- The loop over the driver's sizes ends with what passes the filters. -/
theorem enumerated (mSensorData : CameraSensorMetadata) (cam_frmsize : List FrameSize) :
    cam_frmsize.foldlM (visit mSensorData) ⟨.zero, 0, .zero, 0⟩ =
      tables (previewSizes mSensorData cam_frmsize) (pictureSizes mSensorData cam_frmsize) := by
  induction cam_frmsize using List.reverseRecOn with
  | nil => rfl
  | append_singleton l f ih =>
    rw [List.foldlM_append, ih]
    simp only [previewSizes, pictureSizes, passing_concat]
    rw [← tables_visit]
    simp [List.foldlM]

/-! ### The widest size -/

/-- The first of the widest sizes. -/
def FirstWidest (l : List Size) (m : ℕ) : Prop :=
  ∃ s, l[m]? = some s ∧ (∀ s' ∈ l, s'.1 ≤ s.1) ∧ ∀ k < m, ∀ s', l[k]? = some s' → s'.1 < s.1

theorem FirstWidest.unique {l : List Size} {m n : ℕ} (hm : FirstWidest l m) (hn : FirstWidest l n) :
    m = n := by
  obtain ⟨s, hs, hmax, hfirst⟩ := hm
  obtain ⟨s', hs', hmax', hfirst'⟩ := hn
  rcases lt_trichotomy m n with h | h | h
  · exact absurd (hmax s' (List.mem_of_getElem? hs')) (not_le.mpr (hfirst' m h s hs))
  · exact h
  · exact absurd (hmax' s (List.mem_of_getElem? hs)) (not_le.mpr (hfirst n h s' hs'))

theorem Table.get_eq (t : Table) {k : ℕ} (hk : k < 32) : t.slots[k]? = some (t.get k) := by
  have hlt : k < t.slots.length := t.length_eq ▸ hk
  rw [Table.get, List.getD_eq_getElem?_getD, List.getElem?_eq_getElem hlt]
  rfl

theorem Table.lt_of_getElem? {t : Table} {k : ℕ} {s : Size} (h : t.slots[k]? = some s) : k < 32 := by
  have hlt := (List.getElem?_eq_some_iff.mp h).1
  rw [t.length_eq] at hlt
  exact hlt

theorem Table.get_of_getElem? {t : Table} {k : ℕ} {s : Size} (h : t.slots[k]? = some s) : t.get k = s :=
  Option.some.inj ((t.get_eq (Table.lt_of_getElem? h)).symm.trans h)

/-- After some turns the first of the widest so far is known. -/
theorem widest_spec (t : Table) (n : ℕ) :
    (widest t n).1 = t.get (widest t n).2 ∧ (∀ k < n, (t.get k).1 ≤ (widest t n).1.1) ∧
      (∀ k < (widest t n).2, (t.get k).1 < (widest t n).1.1) ∧ (widest t n).2 ≤ n - 1 := by
  induction n with
  | zero => simp [widest]
  | succ n ih =>
    obtain ⟨hget, hmax, hfirst, hle⟩ := ih
    have hstep : widest t (n + 1) =
        if (widest t n).1.1 < (t.get n).1 then (t.get n, n) else widest t n := by
      rw [widest, List.range_succ, List.foldl_append]
      rfl
    rw [hstep]
    split_ifs with hwider
    · refine ⟨rfl, fun k hk => ?_, fun k hk => (hmax k hk).trans_lt hwider, by simp⟩
      rcases Nat.lt_succ_iff_lt_or_eq.mp hk with hk | rfl
      · exact ((hmax k hk).trans_lt hwider).le
      · exact le_rfl
    · refine ⟨hget, fun k hk => ?_, hfirst, by omega⟩
      rcases Nat.lt_succ_iff_lt_or_eq.mp hk with hk | rfl
      · exact hmax k hk
      · exact not_lt.mp hwider

/-- The widest size and the first one trade places. -/
theorem widestFirst_spec (t : Table) :
    ∃ m, FirstWidest t.slots m ∧ (widestFirst t).slots = exchange t.slots 0 m := by
  obtain ⟨hget, hmax, hfirst, hle⟩ := widest_spec t 32
  have hm : (widest t 32).2 < 32 := by omega
  refine ⟨(widest t 32).2, ⟨_, t.get_eq hm, ?_, ?_⟩, ?_⟩
  · intro s hs
    obtain ⟨k, hk⟩ := List.mem_iff_getElem?.mp hs
    rw [← Table.get_of_getElem? hk, ← hget]
    exact hmax k (Table.lt_of_getElem? hk)
  · intro k hk s hs
    rw [← Table.get_of_getElem? hs, ← hget]
    exact hfirst k hk
  · rw [exchange, t.get_eq (by decide : 0 < 32), t.get_eq hm, ← hget]
    rfl

/-! ### 1280x720 and 1024x768 -/

/-- After some turns the last place of a size so far is known. -/
theorem lastIndex_spec (t : Table) (s : Size) (n : ℕ) :
    (lastIndex t s n = -1 ∧ ∀ k < n, t.get k ≠ s) ∨
      ∃ i < n, lastIndex t s n = i ∧ t.get i = s ∧ ∀ k < n, t.get k = s → k ≤ i := by
  induction n with
  | zero => exact .inl ⟨rfl, by simp⟩
  | succ n ih =>
    have hstep : lastIndex t s (n + 1) = if t.get n = s then (n : ℤ) else lastIndex t s n := by
      rw [lastIndex, List.range_succ, List.foldl_append]
      rfl
    rw [hstep]
    split_ifs with hs
    · exact .inr ⟨n, Nat.lt_succ_self n, rfl, hs, fun k hk _ => Nat.le_of_lt_succ hk⟩
    · have hbefore {k : ℕ} (hk : k < n + 1) (h : t.get k = s) : k < n := by
        rcases Nat.lt_succ_iff_lt_or_eq.mp hk with hk | rfl
        · exact hk
        · exact absurd h hs
      rcases ih with ⟨hnone, hne⟩ | ⟨i, hi, hlast, hget, hle⟩
      · exact .inl ⟨hnone, fun k hk h => hne k (hbefore hk h) h⟩
      · exact .inr ⟨i, by omega, hlast, hget, fun k hk h => hle k (hbefore hk h) h⟩

/-- The zeros behind the sizes of a table are no size. -/
theorem lastAt_filled {sizes : List Size} (h : sizes.length ≤ 32) {s : Size} (hs : s ≠ (0, 0)) (k : ℕ) :
    (filled sizes).slots[k]? = some s ↔ sizes[k]? = some s := by
  rw [slots_filled h, List.getElem?_append]
  split_ifs with hk
  · exact Iff.rfl
  · rw [List.getElem?_eq_none (Nat.not_lt.mp hk), List.getElem?_replicate]
    split_ifs <;> simp [hs.symm]

theorem lastIndex_filled {sizes : List Size} (h : sizes.length ≤ 32) {s : Size} (hs : s ≠ (0, 0)) :
    (lastIndex (filled sizes) s 32 = -1 ∧ s ∉ sizes) ∨
      ∃ i : ℕ, lastIndex (filled sizes) s 32 = i ∧ LastAt s sizes i := by
  have hget (k : ℕ) (hk : k < 32) : (filled sizes).get k = s ↔ sizes[k]? = some s := by
    rw [← lastAt_filled h hs, Table.get_eq _ hk, Option.some.injEq]
  have hlt {k : ℕ} (hk : sizes[k]? = some s) : k < 32 :=
    Table.lt_of_getElem? ((lastAt_filled h hs k).mpr hk)
  rcases lastIndex_spec (filled sizes) s 32 with ⟨hnone, hne⟩ | ⟨i, hi, hlast, hs', hle⟩
  · refine .inl ⟨hnone, fun hmem => ?_⟩
    obtain ⟨k, hk⟩ := List.mem_iff_getElem?.mp hmem
    exact hne k (hlt hk) ((hget k (hlt hk)).mpr hk)
  · refine .inr ⟨i, hlast, (hget i hi).mp hs', fun k hk => hle k (hlt hk) ((hget k (hlt hk)).mpr hk)⟩

theorem filled_exchange {sizes : List Size} (h : sizes.length ≤ 32) {i j : ℕ} (hi : i < sizes.length)
    (hj : j < sizes.length) : exchange (filled sizes).slots i j = (filled (exchange sizes i j)).slots := by
  rw [slots_filled h, slots_filled (by rwa [length_exchange]), length_exchange, exchange_append hi hj]

/-- Either the last ones trade places, or they stand in order or at the front. -/
theorem sequence720p_filled {sizes : List Size} (h : sizes.length ≤ 32) :
    (∃ i j, LastAt (1280, 720) sizes i ∧ LastAt (1024, 768) sizes j ∧ j < i ∧
        sequence720p (filled sizes) = filled (exchange sizes j i)) ∨
      (sequence720p (filled sizes) = filled sizes ∧
        ∀ i j, LastAt (1280, 720) sizes i → LastAt (1024, 768) sizes j → j = 0 ∨ i < j) := by
  have hunique {s : Size} {i j : ℕ} (hi : LastAt s sizes i) (hj : LastAt s sizes j) : i = j :=
    le_antisymm (hj.2 i hi.1) (hi.2 j hj.1)
  rw [sequence720p]
  rcases lastIndex_filled h (s := (1280, 720)) (by decide) with ⟨hi, hnone⟩ | ⟨i, hi, hlast⟩
  · refine .inr ⟨?_, fun i j hi' _ => absurd (List.mem_of_getElem? hi'.1) hnone⟩
    rw [MAX_RESOLUTION_SIZE, hi]
    rfl
  · rcases lastIndex_filled h (s := (1024, 768)) (by decide) with ⟨hj, hnone⟩ | ⟨j, hj, hlast'⟩
    · refine .inr ⟨?_, fun i j _ hj' => absurd (List.mem_of_getElem? hj'.1) hnone⟩
      rw [MAX_RESOLUTION_SIZE, hj]
      simp
    · rw [MAX_RESOLUTION_SIZE, hi, hj]
      split_ifs with hswap
      · refine .inl ⟨i, j, hlast, hlast', by omega, Table.ext ?_⟩
        have hi' := hlast.lt_length
        have hj' := hlast'.lt_length
        have hgeti := (lastAt_filled h (by decide) i).mpr hlast.1
        have hgetj := (lastAt_filled h (by decide) j).mpr hlast'.1
        rw [← filled_exchange h hj' hi', exchange, hgeti, hgetj]
        rfl
      · refine .inr ⟨rfl, fun i' j' hi' hj' => ?_⟩
        obtain rfl := hunique hlast hi'
        obtain rfl := hunique hlast' hj'
        have hne : i ≠ j := by
          rintro rfl
          exact absurd (hlast.1.symm.trans hlast'.1) (by simp)
        omega

theorem sequence720p_get_zero (t : Table) : (sequence720p t).get 0 = t.get 0 := by
  rw [sequence720p]
  split_ifs with h
  · have hget (t : Table) {i : ℕ} (hi : i ≠ 0) (s : Size) : (t.set i s).get 0 = t.get 0 := by
      rw [Table.get, Table.slots_set, List.getD_eq_getElem?_getD, List.getElem?_set_ne hi,
        ← List.getD_eq_getElem?_getD, Table.get]
    rw [hget _ (by omega), hget _ (by omega)]
  · rfl

/-! ### The recorded sizes -/

/-- The zeros behind the sizes are not wider than all of them. -/
def WiderThanTail (sizes : List Size) : Prop :=
  sizes = [] ∨ sizes.length = 32 ∨ ∃ s ∈ sizes, 0 ≤ s.1

/-- A 1280x720 comes before every 1024x768, by the places that the sizes have once the first of the widest
    ones and the first one have traded theirs. -/
def LedBy720p (sizes : List Size) : Prop :=
  ∃ m, FirstWidest sizes m ∧ ∃ i : ℕ, sizes[i]? = some (1280, 720) ∧
    ∀ j : ℕ, sizes[j]? = some (1024, 768) → Equiv.swap 0 m i < Equiv.swap 0 m j

/-- 1280x720 comes first where both occur. -/
def Sequenced (sizes : List Size) : Prop :=
  (1280, 720) ∈ sizes → (1024, 768) ∈ sizes → Before (1280, 720) (1024, 768) sizes

theorem firstWidest_filled {sizes : List Size} (h : sizes.length ≤ 32) (hne : sizes ≠ [])
    (hwide : WiderThanTail sizes) {m : ℕ} (hm : FirstWidest (filled sizes).slots m) :
    m < sizes.length ∧ FirstWidest sizes m := by
  obtain ⟨s, hs, hmax, hfirst⟩ := hm
  have hslots := slots_filled h
  have hm32 := Table.lt_of_getElem? hs
  have hlt : m < sizes.length := by
    rcases hwide with hnil | hfull | ⟨w, hw, hpos⟩
    · exact absurd hnil hne
    · omega
    · -- A zero would not be the first of the widest.
      by_contra hge
      obtain ⟨k, hk⟩ := List.mem_iff_getElem?.mp hw
      have hklt := (List.getElem?_eq_some_iff.mp hk).1
      have hwk : (filled sizes).slots[k]? = some w := by
        rw [hslots, List.getElem?_append_left hklt, hk]
      have hzero : s = (0, 0) := by
        rw [hslots, List.getElem?_append_right (by omega), List.getElem?_replicate] at hs
        split_ifs at hs
        exact (Option.some.inj hs).symm
      have hw0 := hfirst k (by omega) w hwk
      rw [hzero] at hw0
      omega
  have hget {k : ℕ} (hk : k < sizes.length) : (filled sizes).slots[k]? = sizes[k]? := by
    rw [hslots, List.getElem?_append_left hk]
  refine ⟨hlt, s, by rw [← hget hlt, hs], fun s' hs' => ?_, fun k hk s' hs' => ?_⟩
  · exact hmax s' (hslots ▸ List.mem_append_left _ hs')
  · exact hfirst k hk s' (by rw [hget (by omega), hs'])

theorem exchange_head {sizes : List Size} {m : ℕ} (hlt : m < sizes.length) :
    (exchange sizes 0 m)[0]? = sizes[m]? := by
  rw [getElem?_exchange (by omega) hlt, Equiv.swap_apply_left]

/-- The second pass, behind one that has put the widest size to the front. -/
theorem sequenced_iff {sizes : List Size} (h : sizes.length ≤ 32)
    (hhead : ∀ s ∈ sizes.head?, ∀ s' ∈ sizes, s'.1 ≤ s.1) :
    ∃ adjusted : List Size, sequence720p (filled sizes) = filled adjusted ∧ adjusted.Perm sizes ∧
      adjusted.head? = sizes.head? ∧
      (Sequenced adjusted ↔ (1280, 720) ∉ sizes ∨ AtMostOnce (1024, 768) sizes ∨
        Before (1280, 720) (1024, 768) sizes) := by
  rcases sequence720p_filled h with ⟨i, j, hi, hj, hji, hseq⟩ | ⟨hseq, horder⟩
  · have hmem := List.mem_of_getElem? hi.1
    have hperm := exchange_perm sizes j i
    have hj0 : j ≠ 0 := by
      rintro rfl
      have hwide := hhead (1024, 768) (by rw [List.head?_eq_getElem?, hj.1]; rfl) _ hmem
      exact absurd hwide (by decide)
    refine ⟨_, hseq, hperm, ?_, ?_⟩
    · rw [List.head?_eq_getElem?, List.head?_eq_getElem?, getElem?_exchange hj.lt_length hi.lt_length,
        Equiv.swap_apply_of_ne_of_ne hj0.symm (by omega)]
    · have hboth : Sequenced (exchange sizes j i) ↔
          Before (1280, 720) (1024, 768) (exchange sizes j i) :=
        ⟨fun hs => hs (hperm.mem_iff.mpr hmem) (hperm.mem_iff.mpr (List.mem_of_getElem? hj.1)),
          fun hs _ _ => hs⟩
      rw [hboth]
      by_cases hone : AtMostOnce (1024, 768) sizes
      · exact iff_of_true (before_exchange_of_once hi hj hji hone) (.inr (.inl hone))
      · rw [before_exchange_of_twice hj hji hone]
        simp [hmem, hone]
  · refine ⟨_, hseq, List.Perm.refl _, rfl, ?_⟩
    constructor
    · intro hs
      by_cases ha : ((1280, 720) : Size) ∈ sizes
      · by_cases hb : ((1024, 768) : Size) ∈ sizes
        · exact .inr (.inr (hs ha hb))
        · exact .inr (.inl fun i j hi _ => absurd (List.mem_of_getElem? hi) hb)
      · exact .inl ha
    · rintro (hnone | hone | hbefore) ha hb
      · exact absurd ha hnone
      · obtain ⟨i, hi⟩ := exists_lastAt ha
        obtain ⟨j, hj⟩ := exists_lastAt hb
        rcases horder i j hi hj with rfl | hij
        · have hwide := hhead (1024, 768) (by rw [List.head?_eq_getElem?, hj.1]; rfl) _ ha
          exact absurd hwide (by decide)
        · exact before_of_lastAt hi hj hij hone
      · exact hbefore

/-- The zeros of an empty table stay where they are. -/
theorem adjust_empty : adjustPreviewResolutions (filled []) = filled [] := by
  have hnone : ([] : List Size).length ≤ 32 := Nat.zero_le 32
  have hslots := slots_filled hnone
  have hzero (k : ℕ) (s : Size) (hs : (filled []).slots[k]? = some s) : s = (0, 0) :=
    List.eq_of_mem_replicate (hslots ▸ List.mem_of_getElem? hs)
  obtain ⟨m, hm, hmoved⟩ := widestFirst_spec (filled [])
  have hm0 : m = 0 := by
    refine hm.unique ⟨_, Table.get_eq _ (by decide), fun s hs => ?_, fun k hk => absurd hk (Nat.not_lt_zero k)⟩
    obtain ⟨k, hk⟩ := List.mem_iff_getElem?.mp hs
    rw [hzero k s hk, hzero 0 _ (Table.get_eq _ (by decide))]
  have hstay : widestFirst (filled []) = filled [] := Table.ext (by rw [hmoved, hm0, exchange_self])
  rw [adjustPreviewResolutions, hstay]
  rcases sequence720p_filled hnone with ⟨i, j, hi, -⟩ | ⟨hseq, -⟩
  · exact absurd hi.lt_length (Nat.not_lt_zero i)
  · exact hseq

/-- The passes over a table whose widest entry is a size. -/
theorem adjust_filled {sizes : List Size} (h : sizes.length ≤ 32) (hwide : WiderThanTail sizes) :
    ∃ adjusted : List Size, adjustPreviewResolutions (filled sizes) = filled adjusted ∧ adjusted.Perm sizes ∧
      (∀ s ∈ adjusted.head?, ∀ s' ∈ adjusted, s'.1 ≤ s.1) ∧
      (Sequenced adjusted ↔ (1280, 720) ∉ sizes ∨ AtMostOnce (1024, 768) sizes ∨ LedBy720p sizes) := by
  rcases eq_or_ne sizes [] with rfl | hne
  · exact ⟨[], adjust_empty, List.Perm.refl _, by simp, by simp [Sequenced]⟩
  · obtain ⟨m, hm, hslots⟩ := widestFirst_spec (filled sizes)
    obtain ⟨hlt, hfirst⟩ := firstWidest_filled h hne hwide hm
    have hpos : 0 < sizes.length := by omega
    have hperm := exchange_perm sizes 0 m
    have hmoved : widestFirst (filled sizes) = filled (exchange sizes 0 m) :=
      Table.ext (hslots.trans (filled_exchange h hpos hlt))
    have hhead : ∀ s ∈ (exchange sizes 0 m).head?, ∀ s' ∈ exchange sizes 0 m, s'.1 ≤ s.1 := by
      intro s hs s' hs'
      obtain ⟨w, hw, hmax, -⟩ := hfirst
      rw [List.head?_eq_getElem?, exchange_head hlt, hw] at hs
      obtain rfl := Option.some.inj hs
      exact hmax s' (hperm.mem_iff.mp hs')
    obtain ⟨adjusted, hseq, hperm', hhead', hiff⟩ := sequenced_iff (by rwa [length_exchange]) hhead
    refine ⟨adjusted, by rw [adjustPreviewResolutions, hmoved, hseq], hperm'.trans hperm, ?_, ?_⟩
    · intro s hs s' hs'
      exact hhead s (hhead' ▸ hs) s' (hperm'.mem_iff.mp hs')
    · have hled : LedBy720p sizes ↔ Before (1280, 720) (1024, 768) (exchange sizes 0 m) := by
        rw [before_exchange_iff hpos hlt]
        constructor
        · rintro ⟨m', hm', hplaces⟩
          rwa [hfirst.unique hm']
        · intro hplaces
          exact ⟨m, hfirst, hplaces⟩
      rw [hiff, hled, hperm.mem_iff, atMostOnce_exchange_iff hpos hlt]

/-- Sizes that are all narrower than the zeros behind them: a zero becomes the first one. -/
theorem adjust_narrow {sizes : List Size} (h : sizes.length ≤ 32) (hwide : ¬ WiderThanTail sizes) :
    ¬ ((adjustPreviewResolutions (filled sizes)).recorded (2 * sizes.length)).Perm sizes := by
  obtain ⟨hne, hfull, hneg⟩ : sizes ≠ [] ∧ sizes.length ≠ 32 ∧ ∀ s ∈ sizes, s.1 < 0 := by
    simpa [WiderThanTail, not_or] using hwide
  have hpos := List.length_pos_iff.mpr hne
  have hslots := slots_filled h
  obtain ⟨m, ⟨s, hs, hmax, -⟩, hmoved⟩ := widestFirst_spec (filled sizes)
  -- The widest entry is not among the sizes.
  have hzero : s = (0, 0) := by
    have hmem := List.mem_of_getElem? hs
    rw [hslots] at hmem
    rcases List.mem_append.mp hmem with hmem | hmem
    · have htail := hmax (0, 0) (by simp [hslots]; omega)
      exact absurd htail (not_le.mpr (hneg s hmem))
    · exact List.eq_of_mem_replicate hmem
  have hm32 := Table.lt_of_getElem? hs
  have hlen := (filled sizes).length_eq
  have hfirst : (adjustPreviewResolutions (filled sizes)).slots[0]? = some (0, 0) := by
    have hget : (widestFirst (filled sizes)).get 0 = (0, 0) := by
      refine Table.get_of_getElem? ?_
      rw [hmoved, exchange_head (by rw [hlen]; exact hm32), hs, hzero]
    rw [Table.get_eq _ (by decide), adjustPreviewResolutions, sequence720p_get_zero, hget]
  intro hperm
  have hmem : ((0, 0) : Size) ∈ sizes := by
    refine hperm.mem_iff.mp (List.mem_iff_getElem?.mpr ⟨0, ?_⟩)
    rw [Table.recorded, List.getElem?_take_of_lt (by omega), hfirst]
  exact absurd (hneg _ hmem) (lt_irrefl 0)


/-! ### The tables -/

/-- What the tables of a device should hold of the driver's sizes. -/
structure Sound (mSensorData : CameraSensorMetadata) (cam_frmsize : List FrameSize)
    (d : CameraDeviceHwlImpl) : Prop where
  counts : d.mPreviewResolutionCount ≤ MAX_RESOLUTION_SIZE ∧ d.mPictureResolutionCount ≤ MAX_RESOLUTION_SIZE
  pictures : d.mPictureResolutions.recorded d.mPictureResolutionCount = pictureSizes mSensorData cam_frmsize
  permuted : (d.mPreviewResolutions.recorded d.mPreviewResolutionCount).Perm
    (previewSizes mSensorData cam_frmsize)
  widest : ∀ s ∈ (d.mPreviewResolutions.recorded d.mPreviewResolutionCount).head?,
    ∀ s' ∈ d.mPreviewResolutions.recorded d.mPreviewResolutionCount, s'.1 ≤ s.1
  sequenced : Sequenced (d.mPreviewResolutions.recorded d.mPreviewResolutionCount)
  judged : ∀ streams : List Stream, StreamCombJudge streams d = true ↔
    ∀ stream ∈ streams, stream.stream_type = .kOutput ∧ stream.format ≠ -1 ∧
      (int32 stream.width, int32 stream.height) ∈
        if stream.format = BLOB then pictureSizes mSensorData cam_frmsize
        else previewSizes mSensorData cam_frmsize

/-- The sizes fit their tables and can be put in order by the two passes. -/
structure Fits (mSensorData : CameraSensorMetadata) (cam_frmsize : List FrameSize) : Prop where
  pictures : 2 * (pictureSizes mSensorData cam_frmsize).length ≤ MAX_RESOLUTION_SIZE
  previews : 2 * (previewSizes mSensorData cam_frmsize).length ≤ MAX_RESOLUTION_SIZE
  wide : WiderThanTail (previewSizes mSensorData cam_frmsize)
  sequence : (1280, 720) ∉ previewSizes mSensorData cam_frmsize ∨
    AtMostOnce (1024, 768) (previewSizes mSensorData cam_frmsize) ∨
      LedBy720p (previewSizes mSensorData cam_frmsize)

theorem recorded_filled {sizes : List Size} (h : sizes.length ≤ 32) :
    (filled sizes).recorded (2 * sizes.length) = sizes := by
  rw [Table.recorded, slots_filled h, Nat.mul_div_cancel_left _ (by decide)]
  simp

theorem foundResoulution_iff (width height : ℤ) (t : Table) (size : ℕ) :
    FoundResoulution width height t size = true ↔ (width, height) ∈ t.recorded size := by
  rw [FoundResoulution, List.any_eq_true]
  constructor
  · rintro ⟨s, hs, heq⟩
    simp only [Bool.and_eq_true, decide_eq_true_eq] at heq
    rw [heq.1, heq.2]
    exact hs
  · intro h
    exact ⟨_, h, by simp⟩

theorem streamCombJudge_iff (streams : List Stream) (d : CameraDeviceHwlImpl) :
    StreamCombJudge streams d = true ↔ ∀ stream ∈ streams, stream.stream_type = .kOutput ∧
      stream.format ≠ -1 ∧ (int32 stream.width, int32 stream.height) ∈
        if stream.format = BLOB then d.mPictureResolutions.recorded d.mPictureResolutionCount
        else d.mPreviewResolutions.recorded d.mPreviewResolutionCount := by
  rw [StreamCombJudge, List.all_eq_true]
  refine forall₂_congr fun stream _ => ?_
  split_ifs <;> simp [foundResoulution_iff, and_assoc]

theorem initSensorStaticData_some {mSensorData : CameraSensorMetadata} {cam_frmsize : List FrameSize}
    {d : CameraDeviceHwlImpl} (h : initSensorStaticData mSensorData cam_frmsize = some d) :
    (previewSizes mSensorData cam_frmsize).length ≤ 32 ∧ (pictureSizes mSensorData cam_frmsize).length ≤ 32 ∧
      d.mPreviewResolutions = adjustPreviewResolutions (filled (previewSizes mSensorData cam_frmsize)) ∧
      d.mPreviewResolutionCount = 2 * (previewSizes mSensorData cam_frmsize).length ∧
      d.mPictureResolutions = filled (pictureSizes mSensorData cam_frmsize) ∧
      d.mPictureResolutionCount = 2 * (pictureSizes mSensorData cam_frmsize).length := by
  rw [initSensorStaticData, enumerated, tables] at h
  split_ifs at h with hfit
  · obtain rfl := Option.some.inj h
    exact ⟨hfit.1, hfit.2, rfl, rfl, rfl, rfl⟩
  · cases h

/-- CORRECT: the sizes of a driver are recorded in bounds, put in order and looked up as they should be
    exactly when they fit. -/
theorem tables_sound_iff (mSensorData : CameraSensorMetadata) (cam_frmsize : List FrameSize) :
    (∃ d, initSensorStaticData mSensorData cam_frmsize = some d ∧ Sound mSensorData cam_frmsize d) ↔
      Fits mSensorData cam_frmsize := by
  constructor
  · rintro ⟨d, hd, hsound⟩
    obtain ⟨hpreview, hpicture, htable, hcount, -⟩ := initSensorStaticData_some hd
    have hperm := hsound.permuted
    have hseq := hsound.sequenced
    rw [htable, hcount] at hperm hseq
    have hwide : WiderThanTail (previewSizes mSensorData cam_frmsize) := by
      by_contra hnarrow
      exact adjust_narrow hpreview hnarrow hperm
    obtain ⟨adjusted, hadjust, hsame, -, hiff⟩ := adjust_filled hpreview hwide
    rw [hadjust, ← hsame.length_eq, recorded_filled (hsame.length_eq.trans_le hpreview)] at hseq
    exact ⟨by rw [MAX_RESOLUTION_SIZE]; omega, by rw [MAX_RESOLUTION_SIZE]; omega, hwide, hiff.mp hseq⟩
  · rintro ⟨hpicture, hpreview, hwide, hseq⟩
    rw [MAX_RESOLUTION_SIZE] at hpicture hpreview
    have hpreview' : (previewSizes mSensorData cam_frmsize).length ≤ 32 := by omega
    have hpicture' : (pictureSizes mSensorData cam_frmsize).length ≤ 32 := by omega
    obtain ⟨adjusted, hadjust, hsame, hwidest, hiff⟩ := adjust_filled hpreview' hwide
    obtain ⟨d, hd⟩ : ∃ d, initSensorStaticData mSensorData cam_frmsize = some d := by
      rw [initSensorStaticData, enumerated, tables, if_pos ⟨hpreview', hpicture'⟩]
      exact ⟨_, rfl⟩
    obtain ⟨-, -, htable, hcount, htable', hcount'⟩ := initSensorStaticData_some hd
    have hrecorded : d.mPreviewResolutions.recorded d.mPreviewResolutionCount = adjusted := by
      rw [htable, hcount, hadjust, ← hsame.length_eq, recorded_filled (hsame.length_eq.trans_le hpreview')]
    have hrecorded' : d.mPictureResolutions.recorded d.mPictureResolutionCount =
        pictureSizes mSensorData cam_frmsize := by
      rw [htable', hcount', recorded_filled hpicture']
    refine ⟨d, hd, ?_, hrecorded', ?_, ?_, ?_, fun streams => ?_⟩
    · rw [hcount, hcount', MAX_RESOLUTION_SIZE]
      omega
    · rwa [hrecorded]
    · rwa [hrecorded]
    · rw [hrecorded]
      exact hiff.mpr hseq
    · rw [streamCombJudge_iff, hrecorded, hrecorded']
      refine forall₂_congr fun stream _ => ?_
      split_ifs
      · exact Iff.rfl
      · rw [hsame.mem_iff]

/-- No limit in the configuration. -/
def anySize : CameraSensorMetadata := ⟨[], 0, 0, 65535, 65535⟩

/-- A driver with 33 sizes: the last one is written behind the arrays. -/
theorem sizes_overflow : ¬ ∀ (mSensorData : CameraSensorMetadata) (cam_frmsize : List FrameSize),
    ∃ d, initSensorStaticData mSensorData cam_frmsize = some d ∧ Sound mSensorData cam_frmsize d := by
  intro h
  obtain ⟨d, hd, -⟩ := h anySize (List.replicate 33 ⟨640, 480, [(1, 30)]⟩)
  have hfit := (initSensorStaticData_some hd).1
  exact absurd hfit (by decide)

end ImxHal.Resolutions
