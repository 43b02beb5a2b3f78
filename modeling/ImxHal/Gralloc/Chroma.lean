import ImxHal.Gralloc.Layout

/-! @src display/display/Composer.cpp (setG2dSurface, convertFormat), display/display/MemoryManager.cpp (lockYCbCr,
    isDrmAlloc), display/display/MemoryDesc.cpp, display/display/Memory.cpp | name:Chroma | scheme:table |
    family:buffer layout

    Three functions of the display HAL have to know where the chroma of a buffer begins:

        checkFormat     ──▶ mSize        the height, rounded up
        setG2dSurface   ──▶ planes[1]    the height the GPU helper says, or else the height itself
        lockYCbCr       ──▶ cb, cr       the height, rounded up to a multiple of 4

    Without the helper the blitter and the CPU look for it in two places whenever the height is no multiple of 4. -/

namespace ImxHal.Gralloc.Chroma

/-! ### A buffer and its helper -/

/-- `enum g2d_format`, as far as its values are named. -/
inductive G2dFormat where
  | RGB565 | YUYV | RGBA8888 | BGRA8888 | RGBX8888 | BGRX8888 | NV16 | NV12 | NV21 | I420 | YV12
  | other (value : ℤ)
  deriving DecidableEq

/-- The fields of `Memory` that decide where its planes are. -/
structure Memory where
  flags : ℕ
  size : ℤ
  base : ℤ
  phys : ℤ
  height : ℕ
  stride : ℤ
  usage : ℕ
  fslFormat : ℤ

/-- `Memory::Memory`, with the addresses the allocator finds for it. -/
def Memory.of (desc : MemoryDesc) (base phys : ℤ) : Memory where
  flags := desc.mFlag
  size := desc.mSize
  base := base
  phys := phys
  height := desc.mHeight
  stride := desc.mStride
  usage := u32 desc.mProduceUsage
  fslFormat := desc.mFslFormat

section
variable (desc : MemoryDesc) (base phys : ℤ)

@[simp] theorem Memory.of_size : (Memory.of desc base phys).size = desc.mSize := rfl

@[simp] theorem Memory.of_stride : (Memory.of desc base phys).stride = desc.mStride := rfl

@[simp] theorem Memory.of_height : (Memory.of desc base phys).height = desc.mHeight := rfl

@[simp] theorem Memory.of_fslFormat : (Memory.of desc base phys).fslFormat = desc.mFslFormat := rfl

end

/-- What `libgpuhelper.so` answers for a buffer: the height where `hwc_getAlignedSize` returns 0, the offset
    `hwc_getFlipOffset` leaves, and the format `hwc_alterFormat` returns. -/
structure GpuHelper where
  getAlignedSize : Memory → Option ℤ
  getFlipOffset : Memory → ℤ
  alterFormat : Memory → G2dFormat → G2dFormat

/-- An `int` expression; beyond 32 bits it has no value. -/
def signed (x : ℤ) : Option ℤ := if -2 ^ 31 ≤ x ∧ x < 2 ^ 31 then some x else none

/-- An address as the blitter takes it. -/
def word (x : ℤ) : ℤ := x % 2 ^ 32

def pointer (x : ℤ) : ℤ := x % 2 ^ 64

/-! ### The blitter -/

section
variable (helper : Option GpuHelper) (handle : Memory)

/-- `getAlignedSize`, and the height itself where it fails. -/
def alignHeight : ℤ := (helper.bind fun gpu => gpu.getAlignedSize handle).getD handle.height

def getFlipOffset : ℤ := (helper.map fun gpu => gpu.getFlipOffset handle).getD 0

def alterFormat (format : G2dFormat) : G2dFormat := (helper.map fun gpu => gpu.alterFormat handle format).getD format

/-- `Composer::convertFormat`. -/
def convertFormat : G2dFormat :=
  alterFormat helper handle <|
    if handle.fslFormat = RGBA_8888 then .RGBA8888
    else if handle.fslFormat = RGBX_8888 then .RGBX8888
    else if handle.fslFormat = RGB_565 then .RGB565
    else if handle.fslFormat = BGRA_8888 then .BGRA8888
    else if handle.fslFormat = YCRCB_420_SP then .NV21
    else if handle.fslFormat = YCbCr_420_SP ∨ handle.fslFormat = NV12_TILED then .NV12
    else if handle.fslFormat = YCbCr_420_P then .I420
    else if handle.fslFormat = YV12 then .YV12
    else if handle.fslFormat = YCBCR_422_SP then .NV16
    else if handle.fslFormat = YCBCR_422_I then .YUYV
    else .RGBA8888

/-- `Composer::setG2dSurface`: the planes it sets. -/
def setG2dSurface : Option (List ℤ) :=
  let plane0 := word (handle.phys + getFlipOffset helper handle)
  match convertFormat helper handle with
  | .NV16 | .NV12 | .NV21 =>
    (signed (handle.stride * alignHeight helper handle)).map fun luma => [plane0, word (plane0 + luma)]
  | .I420 | .YV12 =>
    let c_stride := (handle.stride.tdiv 2 + 15).tdiv 16 * 16
    (signed (handle.stride * alignHeight helper handle)).bind fun luma =>
      (signed (c_stride * alignHeight helper handle)).map fun chroma =>
        let plane1 := word (plane0 + luma)
        [plane0, plane1, word (plane1 + chroma.tdiv 2)]
  | _ => some [plane0]

end

/-! ### The CPU -/

structure android_ycbcr where
  y : ℤ
  cb : ℤ
  cr : ℤ
  ystride : ℤ
  cstride : ℤ
  chroma_step : ℕ

def FLAGS_DIMBUFFER : ℕ := 0x2
def FLAGS_SECURE : ℕ := 0x10000000
def USAGE_SW_READ_OFTEN : ℕ := 0x3
def USAGE_SW_WRITE_OFTEN : ℕ := 0x30
def USAGE_HW_TEXTURE : ℕ := 0x100
def USAGE_HW_RENDER : ℕ := 0x200
def USAGE_PROTECTED : ℕ := 0x4000
def GRALLOC1_CONSUMER_USAGE_CPU_READ_OFTEN : ℕ := 0x6
def GRALLOC1_PRODUCER_USAGE_CPU_WRITE_OFTEN : ℕ := 0x60

/-- `MemoryManager`: its build, and the GPU's gralloc. -/
structure MemoryManager where
  FRAMEBUFFER_COMPRESSION : Bool
  WORKAROUND_VIRTUAL_DISPLAY_FLICKER : Bool
  mGPUAlloc : Bool
  lock_ycbcr : Memory → Except ℤ android_ycbcr

/-- The YUV formats and BLOB, which the GPU's gralloc never allocates. -/
def ionFormats : List ℤ :=
  [YCbCr_420_SP, YCRCB_420_SP, YCBCR_422_SP, YCBCR_422_I, YV12, YCbCr_420_P, NV12_TILED, NV12_G1_TILED, NV12_G2_TILED,
    NV12_G2_TILED_COMPRESSED, P010, P010_TILED, P010_TILED_COMPRESSED, YCBCR_P010, BLOB]

def MemoryManager.isDrmAlloc (m : MemoryManager) (flags : ℕ) (format : ℤ) (usage : ℕ) : Bool :=
  if has flags (FLAGS_SECURE ||| FLAGS_DIMBUFFER) ∨ (!m.FRAMEBUFFER_COMPRESSION && has flags FLAGS_FRAMEBUFFER) then
    false
  else if m.mGPUAlloc = false then false
  else if format = RGB_565 ∧ has usage USAGE_PADDING_BUFFER then false
  else if format ∈ ionFormats then false
  else if has usage USAGE_HW_VIDEO_ENCODER ∨ has usage USAGE_PROTECTED then false
  else if usage = USAGE_SW_READ_OFTEN ||| USAGE_SW_WRITE_OFTEN ||| USAGE_HW_RENDER ||| USAGE_HW_TEXTURE ∨
      usage = GRALLOC1_CONSUMER_USAGE_CPU_READ_OFTEN ||| GRALLOC1_PRODUCER_USAGE_CPU_WRITE_OFTEN |||
        USAGE_HW_RENDER ||| USAGE_HW_TEXTURE then
    false
  else !(m.WORKAROUND_VIRTUAL_DISPLAY_FLICKER && usage = USAGE_HW_TEXTURE ||| USAGE_HW_RENDER)

/-- `MemoryManager::lockYCbCr` of a valid buffer; the error is `-EINVAL`. -/
def MemoryManager.lockYCbCr (m : MemoryManager) (handle : Memory) : Option (Except ℤ android_ycbcr) :=
  let height : ℤ := ALIGN_PIXEL handle.height 4
  let ystride := pointer handle.stride
  if m.isDrmAlloc handle.flags handle.fslFormat handle.usage then some (m.lock_ycbcr handle)
  else if handle.fslFormat = YCbCr_420_SP then
    (signed (handle.stride * height)).map fun luma =>
      let cb := pointer (handle.base + luma)
      .ok ⟨handle.base, cb, pointer (cb + 1), ystride, ystride, 2⟩
  else if handle.fslFormat = YCRCB_420_SP then
    (signed (handle.stride * height)).map fun luma =>
      let cr := pointer (handle.base + luma)
      .ok ⟨handle.base, pointer (cr + 1), cr, ystride, ystride, 2⟩
  else if handle.fslFormat = YCbCr_420_P then
    (signed (handle.stride * height)).map fun luma =>
      let cb := pointer (handle.base + luma)
      .ok ⟨handle.base, cb, pointer (cb + pointer (ystride / 2 * height) / 2), ystride, ystride / 2, 1⟩
  else if handle.fslFormat = YV12 then
    (signed (handle.stride * height)).map fun luma =>
      let cr := pointer (handle.base + luma)
      .ok ⟨handle.base, pointer (cr + pointer (ystride / 2 * height) / 2), cr, ystride, ystride / 2, 1⟩
  else if handle.fslFormat = YCBCR_422_I then
    (signed (handle.stride * 2)).map fun ystride => .ok ⟨handle.base, 0, 0, pointer ystride, pointer handle.stride, 1⟩
  else some (.error (-22))

/-! ### What is to hold -/

/-- The planar and semi-planar formats. -/
def planarFormats : List ℤ :=
  [YCbCr_420_SP, YCRCB_420_SP, YCBCR_422_SP, YCbCr_420_P, YV12, NV12_TILED, NV12_G1_TILED, NV12_G2_TILED,
    NV12_G2_TILED_COMPRESSED, P010, P010_TILED, P010_TILED_COMPRESSED, YCBCR_P010]

/-- Where the blitter looks for the chroma planes, from the start of the buffer on. -/
def blitted (helper : Option GpuHelper) (handle : Memory) : Option (List ℤ) :=
  (setG2dSurface helper handle).map fun planes => planes.tail.map fun plane => (plane - handle.phys) % 2 ^ 32

/-- The chroma planes in the order of their addresses; two samples side by side are one plane. -/
def android_ycbcr.chroma (ycbcr : android_ycbcr) : List ℤ :=
  let cb := (ycbcr.cb - ycbcr.y) % 2 ^ 64
  let cr := (ycbcr.cr - ycbcr.y) % 2 ^ 64
  if ycbcr.chroma_step = 2 then [min cb cr] else [min cb cr, max cb cr]

/-- Where the CPU looks for them; nowhere, if it gets an error. -/
def locked (m : MemoryManager) (handle : Memory) : Option (List ℤ) :=
  (m.lockYCbCr handle).map fun
    | .ok ycbcr => ycbcr.chroma
    | .error _ => []

/-- Both look in the same places, inside of the buffer. -/
def Agree (m : MemoryManager) (helper : Option GpuHelper) (handle : Memory) : Prop :=
  ∃ chroma, blitted helper handle = some chroma ∧ locked m handle = some chroma ∧ ∀ offset ∈ chroma, offset < handle.size

/-- How many chroma planes the blitter takes from a format. -/
def G2dFormat.chromaPlanes : G2dFormat → ℕ
  | .NV16 | .NV12 | .NV21 => 1
  | .I420 | .YV12 => 2
  | _ => 0

/-- The size of a buffer of `width` bytes a row, with the room for the decoder. -/
def semiPlanarSize (d : MemoryDesc) (width : ℕ) : ℕ :=
  if has d.mProduceUsage USAGE_PADDING_BUFFER then
    width * ALIGN_PIXEL d.mHeight 16 * 3 / 2 + width * ALIGN_PIXEL d.mHeight 16 / 4 + 32
  else width * ALIGN_PIXEL d.mHeight 4 * 3 / 2

/-- The blitter counts as many lines of luma as the CPU, and the size fits. -/
def SameLines (helper : Option GpuHelper) (handle : Memory) (d : MemoryDesc) : Prop :=
  let lines := alignHeight helper handle
  let flip := getFlipOffset helper handle
  let height := ALIGN_PIXEL d.mHeight 4
  if d.mFslFormat = YCbCr_420_SP ∨ d.mFslFormat = YCRCB_420_SP then
    let width := ALIGN_PIXEL d.mWidth 16
    (convertFormat helper handle).chromaPlanes = 1 ∧ -2 ^ 31 ≤ width * lines ∧ width * lines < 2 ^ 31 ∧
      (flip + width * lines) % 2 ^ 32 = width * height ∧ (width * height : ℕ) < int32 (semiPlanarSize d width)
  else if d.mFslFormat = YCbCr_420_P ∨ d.mFslFormat = YV12 then
    (convertFormat helper handle).chromaPlanes = 2 ∧ lines = height ∧ flip % 2 ^ 32 = 0 ∧
      ALIGN_PIXEL d.mWidth 32 * height * 3 / 2 < 2 ^ 31
  else (convertFormat helper handle).chromaPlanes = 0

/-! ### Numbers -/

theorem signed_of {x : ℤ} (h : -2 ^ 31 ≤ x ∧ x < 2 ^ 31) : signed x = some x := if_pos h

theorem signed_eq_some {x y : ℤ} : signed x = some y ↔ y = x ∧ -2 ^ 31 ≤ x ∧ x < 2 ^ 31 := by
  rw [signed]
  split_ifs with h
  · rw [Option.some.injEq, eq_comm, and_iff_left h]
  · exact iff_of_false (by simp) fun hy => h hy.2

/-- The luma of a buffer with a stride in 32 bits: a stride that does not fit is beyond them already. -/
theorem luma_signed {width height : ℕ} (hw : width ≤ 2 ^ 31) (hh : 2 ≤ height) : signed (int32 width * height) =
    if width * height < 2 ^ 31 then some (width * height : ℕ) else none := by
  rcases Nat.lt_or_ge width (2 ^ 31) with hlt | hge
  · rw [int32_of_lt hlt, ← Nat.cast_mul, signed]
    split_ifs <;> first | rfl | omega
  · obtain rfl : width = 2 ^ 31 := by omega
    have hneg : int32 (2 ^ 31) = -2 ^ 31 := by decide
    rw [hneg, signed, if_neg (by omega), if_neg (by omega)]
    rfl

theorem int32_lt (x : ℕ) : int32 x < 2 ^ 31 := by
  unfold int32
  rw [Int.bmod_def]
  omega

/-- A size that is stored as a negative number is behind no offset. -/
theorem lt_of_lt_int32 {x : ℕ} (hx : x < 2 ^ 32) {y : ℤ} (hy : 0 ≤ y) (h : y < int32 x) : x < 2 ^ 31 := by
  unfold int32 at h
  rw [Int.bmod_def] at h
  omega

theorem ALIGN_PIXEL_4 (h : ℕ) : ALIGN_PIXEL h 4 = h ↔ h % 4 = 0 := by
  rw [ALIGN_PIXEL]
  omega

/-- A width whose luma fits is stored as it is. -/
theorem int32_of_luma {width height : ℕ} (hh : 0 < height) (hluma : width * height < 2 ^ 31) :
    int32 width = width :=
  int32_of_lt (lt_of_le_of_lt (Nat.le_mul_of_pos_right _ hh) hluma)

section
variable {format : ℤ}

theorem semi_mem (h : format = YCbCr_420_SP ∨ format = YCRCB_420_SP) : format ∈ planarFormats := by
  rcases h with rfl | rfl <;> decide

theorem planar_mem (h : format = YCbCr_420_P ∨ format = YV12) : format ∈ planarFormats := by
  rcases h with rfl | rfl <;> decide

theorem not_semi_of_planar (h : format = YCbCr_420_P ∨ format = YV12) :
    ¬ (format = YCbCr_420_SP ∨ format = YCRCB_420_SP) := by
  rcases h with rfl | rfl <;> decide

end

section
variable {helper : Option GpuHelper} {handle : Memory} {m : MemoryManager}

/-! ### The blitter -/

theorem chromaPlanes_one {format : G2dFormat} (h : format.chromaPlanes = 1) :
    format = .NV16 ∨ format = .NV12 ∨ format = .NV21 := by
  cases format <;> first | cases h; done | decide

theorem chromaPlanes_two {format : G2dFormat} (h : format.chromaPlanes = 2) : format = .I420 ∨ format = .YV12 := by
  cases format <;> first | cases h; done | decide

/-- The start of the buffer does not matter to an offset. -/
theorem offset_eq (phys flip x : ℤ) : (word (word (phys + flip) + x) - phys) % 2 ^ 32 = (flip + x) % 2 ^ 32 := by
  simp only [word]
  omega

theorem blitted_none (h : (convertFormat helper handle).chromaPlanes = 0) : blitted helper handle = some [] := by
  rw [blitted, setG2dSurface]
  split <;> rename_i hformat
  all_goals first
    | rfl
    | (rw [hformat] at h; cases h)

theorem blitted_one (h : (convertFormat helper handle).chromaPlanes = 1) : blitted helper handle =
    (signed (handle.stride * alignHeight helper handle)).map fun luma =>
      [(getFlipOffset helper handle + luma) % 2 ^ 32] := by
  rcases chromaPlanes_one h with hformat | hformat | hformat <;>
    simp only [blitted, setG2dSurface, hformat, Option.map_map, Function.comp_def, List.tail_cons, List.map_cons,
      List.map_nil, offset_eq]

theorem blitted_two (h : (convertFormat helper handle).chromaPlanes = 2) : blitted helper handle =
    (signed (handle.stride * alignHeight helper handle)).bind fun luma =>
      (signed ((handle.stride.tdiv 2 + 15).tdiv 16 * 16 * alignHeight helper handle)).map fun chroma =>
        [(getFlipOffset helper handle + luma) % 2 ^ 32,
          (getFlipOffset helper handle + luma + chroma.tdiv 2) % 2 ^ 32] := by
  have hsecond (x y : ℤ) : (word (word (word (handle.phys + getFlipOffset helper handle) + x) + y) - handle.phys) %
      2 ^ 32 = (getFlipOffset helper handle + x + y) % 2 ^ 32 := by
    simp only [word]
    omega
  rcases chromaPlanes_two h with hformat | hformat <;>
    simp only [blitted, setG2dSurface, hformat, Option.map_map, Option.map_bind, Function.comp_def, List.tail_cons,
      List.map_cons, List.map_nil, offset_eq, hsecond]

theorem blitted_length {chroma : List ℤ} (h : blitted helper handle = some chroma) :
    chroma.length = (convertFormat helper handle).chromaPlanes := by
  rcases hformat : (convertFormat helper handle).chromaPlanes with _ | _ | _ | n
  · rw [blitted_none hformat] at h
    obtain rfl := Option.some.inj h
    rfl
  · rw [blitted_one hformat] at h
    obtain ⟨luma, -, rfl⟩ := Option.map_eq_some_iff.mp h
    rfl
  · rw [blitted_two hformat] at h
    obtain ⟨luma, -, h⟩ := Option.bind_eq_some_iff.mp h
    obtain ⟨chroma, -, rfl⟩ := Option.map_eq_some_iff.mp h
    rfl
  · cases hg : convertFormat helper handle <;> rw [hg] at hformat <;> cases hformat

theorem blitted_eq_one (a : ℤ) : blitted helper handle = some [a] ↔
    (convertFormat helper handle).chromaPlanes = 1 ∧ -2 ^ 31 ≤ handle.stride * alignHeight helper handle ∧
      handle.stride * alignHeight helper handle < 2 ^ 31 ∧
      (getFlipOffset helper handle + handle.stride * alignHeight helper handle) % 2 ^ 32 = a := by
  constructor
  · intro h
    have hone := (blitted_length h).symm
    rw [blitted_one hone] at h
    obtain ⟨luma, hsigned, heq⟩ := Option.map_eq_some_iff.mp h
    obtain ⟨rfl, hlow, hhigh⟩ := signed_eq_some.mp hsigned
    exact ⟨hone, hlow, hhigh, (List.cons.inj heq).1⟩
  · rintro ⟨hone, hlow, hhigh, rfl⟩
    rw [blitted_one hone, signed_of ⟨hlow, hhigh⟩, Option.map_some]

/-- A planar image: a row of chroma is half a row of luma. -/
theorem blitted_eq_two {k : ℕ} (hstride : handle.stride = 32 * k) (a b : ℤ) : blitted helper handle = some [a, b] ↔
    (convertFormat helper handle).chromaPlanes = 2 ∧ -2 ^ 31 ≤ 32 * k * alignHeight helper handle ∧
      32 * k * alignHeight helper handle < 2 ^ 31 ∧
      (getFlipOffset helper handle + 32 * k * alignHeight helper handle) % 2 ^ 32 = a ∧
      (getFlipOffset helper handle + 32 * k * alignHeight helper handle + 8 * k * alignHeight helper handle) % 2 ^ 32 =
        b := by
  have hrow : ((32 * (k : ℤ)).tdiv 2 + 15).tdiv 16 * 16 = 16 * k := by
    have hwidth : (32 * (k : ℤ)).tdiv 2 = 16 * k := by
      rw [Int.tdiv_eq_ediv_of_nonneg (by omega)]
      omega
    rw [hwidth, Int.tdiv_eq_ediv_of_nonneg (by omega)]
    omega
  have hhalf : (16 * k * alignHeight helper handle).tdiv 2 = 8 * k * alignHeight helper handle := by
    rw [show 16 * k * alignHeight helper handle = 2 * (8 * k * alignHeight helper handle) by ring]
    exact Int.mul_tdiv_cancel_left _ (by decide)
  constructor
  · intro h
    have htwo := (blitted_length h).symm
    rw [blitted_two htwo, hstride, hrow] at h
    obtain ⟨luma, hsigned, h⟩ := Option.bind_eq_some_iff.mp h
    obtain ⟨rfl, hlow, hhigh⟩ := signed_eq_some.mp hsigned
    obtain ⟨chroma, hsigned, heq⟩ := Option.map_eq_some_iff.mp h
    obtain ⟨rfl, -⟩ := signed_eq_some.mp hsigned
    rw [hhalf] at heq
    obtain ⟨ha, heq⟩ := List.cons.inj heq
    exact ⟨htwo, hlow, hhigh, ha, (List.cons.inj heq).1⟩
  · rintro ⟨htwo, hlow, hhigh, rfl, rfl⟩
    have hchroma : -2 ^ 31 ≤ 16 * k * alignHeight helper handle ∧ 16 * k * alignHeight helper handle < 2 ^ 31 := by
      simp only [mul_assoc] at hlow hhigh ⊢
      omega
    rw [blitted_two htwo, hstride, hrow, signed_of ⟨hlow, hhigh⟩, Option.bind_some, signed_of hchroma, Option.map_some,
      hhalf]

/-! ### The CPU -/

theorem isDrmAlloc_planar (m : MemoryManager) (flags usage : ℕ) {format : ℤ} (h : format ∈ planarFormats) :
    m.isDrmAlloc flags format usage = false := by
  have hsub : ∀ format ∈ planarFormats, format ∈ ionFormats := by decide
  simp only [MemoryManager.isDrmAlloc, if_pos (hsub format h)]
  split_ifs <;> rfl

theorem locked_error (hplanar : handle.fslFormat ∈ planarFormats)
    (hno : handle.fslFormat ∉ [YCbCr_420_SP, YCRCB_420_SP, YCbCr_420_P, YV12]) : locked m handle = some [] := by
  simp only [List.mem_cons, List.not_mem_nil, or_false, not_or] at hno
  have hyuyv : handle.fslFormat ≠ YCBCR_422_I := by
    intro h
    rw [h] at hplanar
    exact absurd hplanar (by decide)
  rw [locked, MemoryManager.lockYCbCr, if_neg (by simp [isDrmAlloc_planar m _ _ hplanar]), if_neg hno.1,
    if_neg hno.2.1, if_neg hno.2.2.1, if_neg hno.2.2.2, if_neg hyuyv]
  rfl

section
variable (base ystride cstride : ℤ) {x y : ℤ}

/-- Two samples side by side begin where the first of them does. -/
theorem chroma_semi (hx : 0 ≤ x ∧ x < 2 ^ 31) :
    android_ycbcr.chroma ⟨base, pointer (base + x), pointer (pointer (base + x) + 1), ystride, cstride, 2⟩ = [x] ∧
      android_ycbcr.chroma ⟨base, pointer (pointer (base + x) + 1), pointer (base + x), ystride, cstride, 2⟩ = [x] := by
  simp only [android_ycbcr.chroma, pointer, if_true, List.cons.injEq, and_true]
  omega

theorem chroma_planar (hx : 0 ≤ x ∧ x < 2 ^ 31) (hy : 0 ≤ y ∧ y < 2 ^ 31) :
    android_ycbcr.chroma ⟨base, pointer (base + x), pointer (pointer (base + x) + y), ystride, cstride, 1⟩ =
        [x, x + y] ∧
      android_ycbcr.chroma ⟨base, pointer (pointer (base + x) + y), pointer (base + x), ystride, cstride, 1⟩ =
        [x, x + y] := by
  simp only [android_ycbcr.chroma, pointer, OfNat.one_ne_ofNat, if_false, List.cons.injEq, and_true]
  omega

end

section
variable {width : ℕ} (hstride : handle.stride = int32 width) (hw : width ≤ 2 ^ 31)
  (hh : 2 ≤ ALIGN_PIXEL handle.height 4)
include hstride hw hh

theorem locked_one (hformat : handle.fslFormat = YCbCr_420_SP ∨ handle.fslFormat = YCRCB_420_SP) :
    locked m handle = if width * ALIGN_PIXEL handle.height 4 < 2 ^ 31 then
      some [((width * ALIGN_PIXEL handle.height 4 : ℕ) : ℤ)] else none := by
  rw [locked, MemoryManager.lockYCbCr, if_neg (by simp [isDrmAlloc_planar m _ _ (semi_mem hformat)])]
  simp only [hstride, luma_signed hw hh]
  generalize width * ALIGN_PIXEL handle.height 4 = luma
  rcases hformat with h | h
  · rw [if_pos h]
    split_ifs with hlt
    · exact congrArg some (chroma_semi _ _ _ (by omega)).1
    · rfl
  · rw [if_neg (by rw [h]; decide), if_pos h]
    split_ifs with hlt
    · exact congrArg some (chroma_semi _ _ _ (by omega)).2
    · rfl

/-- The rows of a chroma plane have half the width. -/
theorem locked_two (h32 : 32 ∣ width) (hformat : handle.fslFormat = YCbCr_420_P ∨ handle.fslFormat = YV12) :
    locked m handle = if width * ALIGN_PIXEL handle.height 4 < 2 ^ 31 then
      some [((width * ALIGN_PIXEL handle.height 4 : ℕ) : ℤ),
        ((width * ALIGN_PIXEL handle.height 4 : ℕ) : ℤ) + (width * ALIGN_PIXEL handle.height 4 / 4 : ℕ)] else none := by
  have hchroma (hlt : width * ALIGN_PIXEL handle.height 4 < 2 ^ 31) :
      pointer (pointer (int32 width) / 2 * ALIGN_PIXEL handle.height 4) / 2 =
        ((width * ALIGN_PIXEL handle.height 4 / 4 : ℕ) : ℤ) := by
    obtain ⟨k, rfl⟩ := h32
    have hk : 32 * k < 2 ^ 31 := lt_of_le_of_lt (Nat.le_mul_of_pos_right _ (by omega)) hlt
    have hhalf : pointer (int32 (32 * k)) / 2 = ((16 * k : ℕ) : ℤ) := by
      rw [int32_of_lt hk, pointer]
      omega
    rw [hhalf, ← Nat.cast_mul, pointer]
    rw [Nat.mul_assoc] at hlt ⊢
    rw [Nat.mul_assoc]
    omega
  rw [locked, MemoryManager.lockYCbCr, if_neg (by simp [isDrmAlloc_planar m _ _ (planar_mem hformat)])]
  simp only [hstride, luma_signed hw hh]
  rcases hformat with h | h
  · rw [if_neg (by rw [h]; decide), if_neg (by rw [h]; decide), if_pos h]
    split_ifs with hlt
    · simp only [hchroma hlt]
      exact congrArg some (chroma_planar _ _ _ (by omega) (by omega)).1
    · rfl
  · rw [if_neg (by rw [h]; decide), if_neg (by rw [h]; decide), if_neg (by rw [h]; decide), if_pos h]
    split_ifs with hlt
    · simp only [hchroma hlt]
      exact congrArg some (chroma_planar _ _ _ (by omega) (by omega)).2
    · rfl

end

end

/-! ### The layout -/

section
variable {build : Build} {d d' : MemoryDesc}

theorem layout_semi (build : Build) (h : d.mFslFormat = YCbCr_420_SP ∨ d.mFslFormat = YCRCB_420_SP) :
    ∃ bpp, d.layout build = some (ALIGN_PIXEL d.mWidth 16, semiPlanarSize d (ALIGN_PIXEL d.mWidth 16), bpp) := by
  have hnot : d.mFslFormat ∉ MemoryDesc.rgbFormats ∧ d.mFslFormat ≠ BLOB := by
    rcases h with h | h <;> rw [h] <;> decide
  have hmem : d.mFslFormat ∈ [YCbCr_420_SP, YCRCB_420_SP, NV12_G1_TILED, NV12_G2_TILED, NV12_G2_TILED_COMPRESSED] := by
    rcases h with h | h <;> rw [h] <;> decide
  refine ⟨0, ?_⟩
  simp only [MemoryDesc.layout, if_neg hnot.1, if_neg hnot.2, if_pos hmem, semiPlanarSize]
  split_ifs <;> rfl

theorem layout_planar (build : Build) (h : d.mFslFormat = YCbCr_420_P ∨ d.mFslFormat = YV12) : ∃ bpp, d.layout build =
    some (ALIGN_PIXEL d.mWidth 32, ALIGN_PIXEL d.mWidth 32 * ALIGN_PIXEL d.mHeight 4 * 3 / 2, bpp) := by
  have hnot : d.mFslFormat ∉ MemoryDesc.rgbFormats ∧ d.mFslFormat ≠ BLOB ∧
      d.mFslFormat ∉ [YCbCr_420_SP, YCRCB_420_SP, NV12_G1_TILED, NV12_G2_TILED, NV12_G2_TILED_COMPRESSED] ∧
      d.mFslFormat ≠ YCBCR_P010 ∧ ¬ (d.mFslFormat = P010 ∨ d.mFslFormat = P010_TILED_COMPRESSED) := by
    rcases h with h | h <;> rw [h] <;> decide
  obtain ⟨hrgb, hblob, hsemi, hycbcr, hp010⟩ := hnot
  refine ⟨0, ?_⟩
  simp only [MemoryDesc.layout, if_neg hrgb, if_neg hblob, if_neg hsemi, if_neg hycbcr, if_neg hp010, if_pos h]
  obtain ⟨k, hk⟩ := ALIGN_PIXEL_dvd d.mWidth 32
  have hrow : (ALIGN_PIXEL d.mWidth 32 / 2 + 15) / 16 * 16 = 16 * k := by omega
  rw [hrow, hk]
  have hsum (x : ℕ) : 32 * k * x + 16 * k * x = 32 * k * x * 3 / 2 := by
    rw [Nat.mul_assoc, Nat.mul_assoc]
    omega
  rw [hsum]

/-- What `checkFormat` leaves in the description of an image with a layout. -/
theorem checkFormat_ok (hcheck : d.checkFormat build = .ok d') {width size bpp : ℕ}
    (hlayout : d.layout build = some (width, size, bpp)) : (0 < d.mWidth ∧ 0 < d.mHeight) ∧
      d'.mStride = int32 width ∧ d'.mSize = int32 size ∧ d'.mHeight = d.mHeight ∧ d'.mFslFormat = d.mFslFormat := by
  rw [MemoryDesc.checkFormat] at hcheck
  split at hcheck
  · cases hcheck
  · rename_i hpos
    simp only [hlayout, Except.ok.injEq] at hcheck
    generalize int32 width = mStride at hcheck ⊢
    generalize int32 size = mSize at hcheck ⊢
    rw [← hcheck]
    exact ⟨⟨Nat.pos_of_ne_zero fun h => hpos (.inl h), Nat.pos_of_ne_zero fun h => hpos (.inr h)⟩, rfl, rfl, rfl, rfl⟩

theorem checkFormat_format (hcheck : d.checkFormat build = .ok d') : d'.mFslFormat = d.mFslFormat := by
  rw [MemoryDesc.checkFormat] at hcheck
  split at hcheck
  · cases hcheck
  · split at hcheck
    · cases hcheck
    · obtain rfl := Except.ok.inj hcheck
      rfl

theorem ALIGN_PIXEL_pos {h : ℕ} (hpos : 0 < h) : 4 ≤ ALIGN_PIXEL h 4 := by
  rw [ALIGN_PIXEL]
  omega

/-! ### Both sides -/

theorem agree_iff {m : MemoryManager} {helper : Option GpuHelper} {handle : Memory} {chroma : List ℤ} {P : Prop}
    [Decidable P] (hlocked : locked m handle = if P then some chroma else none) : Agree m helper handle ↔
      P ∧ blitted helper handle = some chroma ∧ ∀ offset ∈ chroma, offset < handle.size := by
  rw [Agree, hlocked]
  constructor
  · rintro ⟨chroma', hblit, hlock, hlt⟩
    split_ifs at hlock with hp
    obtain rfl := Option.some.inj hlock
    exact ⟨hp, hblit, hlt⟩
  · rintro ⟨hp, hblit, hlt⟩
    exact ⟨chroma, hblit, if_pos hp, hlt⟩

/-- The two offsets of a planar image, a chroma plane having a quarter of the luma. -/
theorem planar_offsets {k height : ℕ} (hk : 0 < k) (hluma : 32 * k * height < 2 ^ 31) {lines flip : ℤ}
    (hlow : -2 ^ 31 ≤ 32 * k * lines) (hhigh : 32 * k * lines < 2 ^ 31) :
    (flip + 32 * k * lines) % 2 ^ 32 = (32 * k * height : ℕ) ∧
        (flip + 32 * k * lines + 8 * k * lines) % 2 ^ 32 = (32 * k * height : ℕ) + (32 * k * height / 4 : ℕ) ↔
      lines = height ∧ flip % 2 ^ 32 = 0 := by
  have hpos : (k : ℤ) ≠ 0 := by exact_mod_cast hk.ne'
  have hlines : lines = height ↔ (k : ℤ) * lines = (k * height : ℕ) := by
    rw [Nat.cast_mul, mul_right_inj' hpos]
  rw [hlines]
  simp only [mul_assoc] at hlow hhigh hluma ⊢
  generalize (k : ℤ) * lines = x at *
  generalize k * height = y at *
  omega

section
variable (m : MemoryManager) (helper : Option GpuHelper) (base phys : ℤ) (hw : d.mWidth < 2 ^ 31)
include hw

theorem semi_agrees_iff (hcheck : d.checkFormat build = .ok d')
    (hformat : d.mFslFormat = YCbCr_420_SP ∨ d.mFslFormat = YCRCB_420_SP) :
    Agree m helper (Memory.of d' base phys) ↔ SameLines helper (Memory.of d' base phys) d := by
  obtain ⟨bpp, hlayout⟩ := layout_semi build hformat
  obtain ⟨⟨-, hpos⟩, hstride, hsize, hheight, hfsl⟩ := checkFormat_ok hcheck hlayout
  have hlines : 4 ≤ ALIGN_PIXEL d.mHeight 4 := ALIGN_PIXEL_pos hpos
  have hwidth : ALIGN_PIXEL d.mWidth 16 ≤ 2 ^ 31 := ALIGN_PIXEL_le hw.le (by decide) (by decide)
  have hlocked : locked m (Memory.of d' base phys) = if ALIGN_PIXEL d.mWidth 16 * ALIGN_PIXEL d.mHeight 4 < 2 ^ 31 then
      some [((ALIGN_PIXEL d.mWidth 16 * ALIGN_PIXEL d.mHeight 4 : ℕ) : ℤ)] else none := by
    rw [← hheight]
    refine locked_one hstride hwidth ?_ ?_
    · rw [Memory.of_height, hheight]
      omega
    · rwa [Memory.of_fslFormat, hfsl]
  have hfits (hluma : ALIGN_PIXEL d.mWidth 16 * ALIGN_PIXEL d.mHeight 4 < 2 ^ 31) :
      d'.mStride = ALIGN_PIXEL d.mWidth 16 := hstride.trans (int32_of_luma (by omega) hluma)
  rw [SameLines, if_pos hformat, agree_iff hlocked]
  simp only [blitted_eq_one, List.mem_singleton, forall_eq, Memory.of_size, Memory.of_stride, hsize]
  constructor
  · rintro ⟨hluma, ⟨hone, hlow, hhigh, hflip⟩, hroom⟩
    rw [hfits hluma] at hlow hhigh hflip
    rw [Nat.cast_mul] at hflip
    exact ⟨hone, hlow, hhigh, hflip, hroom⟩
  · rintro ⟨hone, hlow, hhigh, hflip, hroom⟩
    have hint := int32_lt (semiPlanarSize d (ALIGN_PIXEL d.mWidth 16))
    have hluma : ALIGN_PIXEL d.mWidth 16 * ALIGN_PIXEL d.mHeight 4 < 2 ^ 31 := by omega
    rw [hfits hluma, Nat.cast_mul]
    rw [Nat.cast_mul] at hroom
    exact ⟨hluma, ⟨hone, hlow, hhigh, hflip⟩, hroom⟩

theorem planar_agrees_iff (hcheck : d.checkFormat build = .ok d')
    (hformat : d.mFslFormat = YCbCr_420_P ∨ d.mFslFormat = YV12) :
    Agree m helper (Memory.of d' base phys) ↔ SameLines helper (Memory.of d' base phys) d := by
  obtain ⟨bpp, hlayout⟩ := layout_planar build hformat
  obtain ⟨⟨hwpos, hpos⟩, hstride, hsize, hheight, hfsl⟩ := checkFormat_ok hcheck hlayout
  have hsemi := not_semi_of_planar hformat
  have hlines : 4 ≤ ALIGN_PIXEL d.mHeight 4 := ALIGN_PIXEL_pos hpos
  have hwidth : ALIGN_PIXEL d.mWidth 32 ≤ 2 ^ 31 := ALIGN_PIXEL_le hw.le (by decide) (by decide)
  obtain ⟨k, hk⟩ := ALIGN_PIXEL_dvd d.mWidth 32
  have hkpos : 0 < k := by
    rw [ALIGN_PIXEL] at hk
    omega
  rw [hk] at hstride hsize hwidth
  have hlocked : locked m (Memory.of d' base phys) = if 32 * k * ALIGN_PIXEL d.mHeight 4 < 2 ^ 31 then
      some [((32 * k * ALIGN_PIXEL d.mHeight 4 : ℕ) : ℤ),
        ((32 * k * ALIGN_PIXEL d.mHeight 4 : ℕ) : ℤ) + (32 * k * ALIGN_PIXEL d.mHeight 4 / 4 : ℕ)] else none := by
    rw [← hheight]
    refine locked_two hstride hwidth ?_ (Dvd.intro _ rfl) ?_
    · rw [Memory.of_height, hheight]
      omega
    · rwa [Memory.of_fslFormat, hfsl]
  have hfits (hluma : 32 * k * ALIGN_PIXEL d.mHeight 4 < 2 ^ 31) : (Memory.of d' base phys).stride = 32 * k :=
    (hstride.trans (int32_of_luma (by omega) hluma)).trans (Nat.cast_mul _ _)
  rw [SameLines, if_neg hsemi, if_pos hformat, agree_iff hlocked, hk]
  simp only [List.mem_cons, List.not_mem_nil, or_false, forall_eq_or_imp, forall_eq, Memory.of_size, hsize]
  constructor
  · rintro ⟨hluma, hblit, -, hroom⟩
    obtain ⟨htwo, hlow, hhigh, hfirst, hsecond⟩ := (blitted_eq_two (hfits hluma) _ _).mp hblit
    obtain ⟨hsame, hflip⟩ := (planar_offsets hkpos hluma hlow hhigh).mp ⟨hfirst, hsecond⟩
    exact ⟨htwo, hsame, hflip, lt_of_lt_int32 (by omega) (by omega) hroom⟩
  · rintro ⟨htwo, hsame, hflip, hroom⟩
    have hluma : 32 * k * ALIGN_PIXEL d.mHeight 4 < 2 ^ 31 := by omega
    have hlow : -2 ^ 31 ≤ 32 * k * alignHeight helper (Memory.of d' base phys) ∧
        32 * k * alignHeight helper (Memory.of d' base phys) < 2 ^ 31 := by
      rw [hsame]
      exact ⟨(by decide : (-2 ^ 31 : ℤ) ≤ 0).trans (by positivity), by exact_mod_cast hluma⟩
    obtain ⟨hfirst, hsecond⟩ := (planar_offsets hkpos hluma hlow.1 hlow.2).mpr ⟨hsame, hflip⟩
    refine ⟨hluma, (blitted_eq_two (hfits hluma) _ _).mpr ⟨htwo, hlow.1, hlow.2, hfirst, hsecond⟩, ?_⟩
    have hsome : 32 ≤ 32 * k * ALIGN_PIXEL d.mHeight 4 := by
      rw [Nat.mul_assoc]
      exact Nat.le_mul_of_pos_right 32 (by positivity)
    rw [int32_of_lt hroom]
    generalize 32 * k * ALIGN_PIXEL d.mHeight 4 = luma at *
    omega

end

end

/-! ### Without the helper -/

section
variable {handle : Memory} {d : MemoryDesc} (hfsl : handle.fslFormat = d.mFslFormat)
include hfsl

theorem chromaPlanes_none (hplanar : d.mFslFormat ∈ planarFormats) : (convertFormat none handle).chromaPlanes =
    if d.mFslFormat = YCbCr_420_P ∨ d.mFslFormat = YV12 then 2
    else if d.mFslFormat ∈ [YCbCr_420_SP, YCRCB_420_SP, YCBCR_422_SP, NV12_TILED] then 1 else 0 := by
  have hall : ∀ format ∈ planarFormats, (convertFormat none { handle with fslFormat := format }).chromaPlanes =
      if format = YCbCr_420_P ∨ format = YV12 then 2
      else if format ∈ [YCbCr_420_SP, YCRCB_420_SP, YCBCR_422_SP, NV12_TILED] then 1 else 0 := by
    simp only [planarFormats, List.forall_mem_cons]
    refine ⟨?_, ?_, ?_, ?_, ?_, ?_, ?_, ?_, ?_, ?_, ?_, ?_, ?_, fun _ h => absurd h List.not_mem_nil⟩ <;> rfl
  have hone := hall _ hplanar
  rwa [← hfsl] at hone ⊢

/-- A semi-planar image has to have a height that is a multiple of 4. -/
theorem sameLines_semi (hheight : handle.height = d.mHeight) (hw : 0 < d.mWidth)
    (hformat : d.mFslFormat = YCbCr_420_SP ∨ d.mFslFormat = YCRCB_420_SP) : SameLines none handle d ↔ d.mHeight % 4 = 0 ∧
      (ALIGN_PIXEL d.mWidth 16 * d.mHeight : ℕ) < int32 (semiPlanarSize d (ALIGN_PIXEL d.mWidth 16)) := by
  have hpos : 0 < ALIGN_PIXEL d.mWidth 16 := by
    rw [ALIGN_PIXEL]
    omega
  have hone : (convertFormat none handle).chromaPlanes = 1 := by
    rw [chromaPlanes_none hfsl (semi_mem hformat)]
    rcases hformat with h | h <;> rw [h] <;> rfl
  have hint := int32_lt (semiPlanarSize d (ALIGN_PIXEL d.mWidth 16))
  simp only [SameLines, if_pos hformat, hone, alignHeight, getFlipOffset, Option.bind_none, Option.map_none,
    Option.getD_none, hheight, zero_add, true_and]
  rw [← Nat.cast_mul, ← Nat.cast_mul]
  constructor
  · rintro ⟨-, hhigh, hsame, hroom⟩
    rw [Int.emod_eq_of_lt (by omega) (by omega), Int.ofNat_inj] at hsame
    have heq := Nat.eq_of_mul_eq_mul_left hpos hsame
    exact ⟨(ALIGN_PIXEL_4 _).mp heq.symm, hsame ▸ hroom⟩
  · rintro ⟨hfour, hroom⟩
    rw [(ALIGN_PIXEL_4 _).mpr hfour]
    refine ⟨by omega, by omega, ?_, hroom⟩
    exact Int.emod_eq_of_lt (by omega) (by omega)

theorem sameLines_planar (hheight : handle.height = d.mHeight)
    (hformat : d.mFslFormat = YCbCr_420_P ∨ d.mFslFormat = YV12) :
    SameLines none handle d ↔ d.mHeight % 4 = 0 ∧ ALIGN_PIXEL d.mWidth 32 * d.mHeight * 3 / 2 < 2 ^ 31 := by
  have hsemi := not_semi_of_planar hformat
  have htwo : (convertFormat none handle).chromaPlanes = 2 := by
    rw [chromaPlanes_none hfsl (planar_mem hformat), if_pos hformat]
  simp only [SameLines, if_neg hsemi, if_pos hformat, htwo, alignHeight, getFlipOffset, Option.bind_none,
    Option.map_none, Option.getD_none, hheight, true_and, Int.ofNat_inj, EuclideanDomain.zero_mod]
  rw [← ALIGN_PIXEL_4, eq_comm]
  exact and_congr_right fun h => by rw [h]

/-- Of the other formats the blitter knows two, which the CPU does not get. -/
theorem sameLines_other (hplanar : d.mFslFormat ∈ planarFormats)
    (hsemi : ¬ (d.mFslFormat = YCbCr_420_SP ∨ d.mFslFormat = YCRCB_420_SP))
    (hthree : ¬ (d.mFslFormat = YCbCr_420_P ∨ d.mFslFormat = YV12)) :
    SameLines none handle d ↔ d.mFslFormat ≠ YCBCR_422_SP ∧ d.mFslFormat ≠ NV12_TILED := by
  simp only [SameLines, if_neg hsemi, if_neg hthree, chromaPlanes_none hfsl hplanar]
  simp only [List.mem_cons, List.not_mem_nil, or_false]
  split_ifs with hmem
  · refine iff_of_false (by decide) fun h => ?_
    tauto
  · refine iff_of_true rfl ?_
    tauto

end

/-- CORRECT: the blitter and the CPU find the chroma of a planar or semi-planar image in the same places of its
    buffer if and only if the blitter counts the lines of luma that the CPU does. -/
theorem chroma_agrees_iff {build : Build} {d d' : MemoryDesc} (m : MemoryManager) (helper : Option GpuHelper)
    (base phys : ℤ) (hw : d.mWidth < 2 ^ 31)
    (hplanar : d.mFslFormat ∈ planarFormats) (hcheck : d.checkFormat build = .ok d') :
    Agree m helper (Memory.of d' base phys) ↔ SameLines helper (Memory.of d' base phys) d := by
  by_cases hsemi : d.mFslFormat = YCbCr_420_SP ∨ d.mFslFormat = YCRCB_420_SP
  · exact semi_agrees_iff m helper base phys hw hcheck hsemi
  · by_cases hthree : d.mFslFormat = YCbCr_420_P ∨ d.mFslFormat = YV12
    · exact planar_agrees_iff m helper base phys hw hcheck hthree
    · have hfsl := checkFormat_format hcheck
      have hlocked : locked m (Memory.of d' base phys) = if True then some [] else none := by
        rw [if_pos trivial]
        refine locked_error ?_ ?_
        · rwa [Memory.of_fslFormat, hfsl]
        · rw [Memory.of_fslFormat, hfsl]
          simp only [List.mem_cons, List.not_mem_nil, or_false]
          tauto
      rw [SameLines, if_neg hsemi, if_neg hthree, agree_iff hlocked]
      refine ⟨fun h => (blitted_length h.2.1).symm, fun h => ⟨trivial, blitted_none h, fun _ hmem => ?_⟩⟩
      exact absurd hmem List.not_mem_nil

/-- A picture of 1920×1080 in NV12, without the helper. -/
theorem chroma_agrees_iff_nv12 : Agree ⟨false, false, false, fun _ => .error (-22)⟩ none
    (Memory.of ⟨0, 1920, 1080, YCbCr_420_SP, 1920, 0, 3110400, 3⟩ 0x7000000000 0x96000000) := by
  have hcheck : MemoryDesc.checkFormat ⟨false, false, false, false⟩ ⟨0, 1920, 1080, YCbCr_420_SP, 0, 0, 0, 3⟩ =
      .ok ⟨0, 1920, 1080, YCbCr_420_SP, 1920, 0, 3110400, 3⟩ := rfl
  refine (chroma_agrees_iff _ none _ _ (by decide) (by decide) hcheck).mpr ?_
  exact (sameLines_semi rfl rfl (by decide) (.inl rfl)).mpr ⟨by decide, by decide +kernel⟩

/-- With 1082 lines the blitter looks for the chroma two lines above the place where the CPU does. -/
theorem two_lines_apart : MemoryDesc.checkFormat ⟨false, false, false, false⟩
      ⟨0, 1920, 1082, YCbCr_420_SP, 0, 0, 0, 3⟩ = .ok ⟨0, 1920, 1082, YCbCr_420_SP, 1920, 0, 3121920, 3⟩ ∧
    ¬ Agree ⟨false, false, false, fun _ => .error (-22)⟩ none
      (Memory.of ⟨0, 1920, 1082, YCbCr_420_SP, 1920, 0, 3121920, 3⟩ 0x7000000000 0x96000000) := by
  refine ⟨rfl, ?_⟩
  rintro ⟨chroma, hblit, hlock, -⟩
  have hblitted : blitted none (Memory.of ⟨0, 1920, 1082, YCbCr_420_SP, 1920, 0, 3121920, 3⟩ 0x7000000000 0x96000000) =
      some [1920 * 1082] := rfl
  have hlocked : locked ⟨false, false, false, fun _ => .error (-22)⟩
      (Memory.of ⟨0, 1920, 1082, YCbCr_420_SP, 1920, 0, 3121920, 3⟩ 0x7000000000 0x96000000) = some [1920 * 1084] := rfl
  have hsame := (hblitted.symm.trans hblit).trans (hlock.symm.trans hlocked)
  exact absurd hsame (by decide)

end ImxHal.Gralloc.Chroma
