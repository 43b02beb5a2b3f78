import ImxHal.Gralloc.Format

/-! @src display/display/MemoryDesc.cpp, display/gralloc/driver_helpers.cpp | name:Layout |
    scheme:table | family:buffer layout

    The display HAL computes the layout of a buffer a second time: `MemoryDesc::checkFormat` has its
    own switch over the formats, with its own alignments and its own padding.

                        ┌── MemoryDesc::checkFormat ──▶ mStride, mSize
        format, w, h, usage
                        └── dmabuf_allocate ──────────▶ pixel_stride, total_size

    The two agree but for two places: `mSize` is an `int`, and the packed and semi-planar 4:2:2
    formats miss the height alignment the driver gives every YUV format of a padded buffer. -/

namespace ImxHal.Gralloc

-- `FORMAT_…` of MemoryDesc.h, where the gralloc table has no such format
def FORMAT_RAW16 : ℤ := 0x203

def FLAGS_FRAMEBUFFER : ℕ := 1
def USAGE_HW_VIDEO_ENCODER : ℕ := 0x10000
/-- `USAGE_HW_COMPOSER | USAGE_HW_2D | USAGE_HW_RENDER | USAGE_SW_WRITE_OFTEN | USAGE_SW_READ_OFTEN`. -/
def USAGE_ENCODER_IMPLIES : ℕ := 0x800 ||| 0x400 ||| 0x200 ||| 0x30 ||| 0x3

/-- The fields of `MemoryDesc` that `checkFormat` uses; a width or height is not negative. -/
structure MemoryDesc where
  mFlag : ℕ
  mWidth : ℕ
  mHeight : ℕ
  mFslFormat : ℤ
  mStride : ℤ
  mBpp : ℤ
  mSize : ℤ
  mProduceUsage : ℕ

/-- The `ALIGN_PIXEL_n` macros of Memory.h, on an `int`: `(x + (n - 1)) & ~(n - 1)`. -/
def ALIGN_PIXEL (x n : ℕ) : ℕ := (x + (n - 1)) / n * n

/-- A `size_t` stored in an `int`. -/
def int32 (x : ℕ) : ℤ := Int.bmod x (2 ^ 32)

def MemoryDesc.rgbFormats : List ℤ :=
  [RGBA_8888, RGBX_8888, BGRA_8888, RGBA_1010102, RGB_888, RGB_565, RGBA_FP16]

/-- `bpp` of the RGB formats. -/
def bppOf (format : ℤ) : ℕ :=
  if format = RGB_565 then 2 else if format = RGB_888 then 3 else if format = RGBA_FP16 then 8 else 4

/-- The alignment of the RGB branch in the IMX8 build. -/
def MemoryDesc.tile (build : Build) (d : MemoryDesc) : ℕ :=
  if has d.mProduceUsage USAGE_GPU_TILED_VIV then
    if build.WORKAROUND_DISPLAY_UNDERRUN && has d.mFlag FLAGS_FRAMEBUFFER then 16 else 64
  else 16

/-- The switch of `checkFormat`: (alignedw, size, bpp), `none` in its default case. -/
def MemoryDesc.layout (build : Build) (d : MemoryDesc) : Option (ℕ × ℕ × ℕ) :=
  let w := d.mWidth
  let h := d.mHeight
  if d.mFslFormat ∈ rgbFormats then
    let alignedw := ALIGN_PIXEL w (d.tile build)
    let alignedh := ALIGN_PIXEL h (d.tile build)
    let size := alignedw * alignedh * bppOf d.mFslFormat
    some (alignedw, if has d.mProduceUsage USAGE_GPU_TILED_VIV then size + 128 else size,
      bppOf d.mFslFormat)
  else if d.mFslFormat = BLOB then some (w, w * h, 0)
  else if d.mFslFormat ∈ [YCbCr_420_SP, YCRCB_420_SP, NV12_G1_TILED, NV12_G2_TILED,
      NV12_G2_TILED_COMPRESSED] then
    let alignedw := ALIGN_PIXEL w 16
    if has d.mProduceUsage USAGE_PADDING_BUFFER then
      let alignedh := ALIGN_PIXEL h 16
      some (alignedw, alignedw * alignedh * 3 / 2 + alignedw * alignedh / 4 + 32, 0)
    else some (alignedw, alignedw * ALIGN_PIXEL h 4 * 3 / 2, 0)
  else if d.mFslFormat = YCBCR_P010 then
    let alignedw := ALIGN_PIXEL w 16
    if has d.mProduceUsage USAGE_PADDING_BUFFER then
      let alignedh := ALIGN_PIXEL h 16
      some (alignedw, alignedw * alignedh * 3 / 2 * 2 + alignedw * alignedh / 4 * 2 + 32, 0)
    else some (alignedw, alignedw * ALIGN_PIXEL h 4 * 3 / 2 * 2, 0)
  else if d.mFslFormat = P010 ∨ d.mFslFormat = P010_TILED_COMPRESSED then
    let alignedw := ALIGN_PIXEL (w * 5 / 4) 16
    if has d.mProduceUsage USAGE_PADDING_BUFFER then
      let alignedh := ALIGN_PIXEL h 16
      some (alignedw, alignedw * alignedh * 3 / 2 + alignedw * alignedh / 4 + 32, 0)
    else some (alignedw, alignedw * ALIGN_PIXEL h 4 * 3 / 2, 0)
  else if d.mFslFormat = YCbCr_420_P ∨ d.mFslFormat = YV12 then
    let alignedw := ALIGN_PIXEL w 32
    let alignedh := ALIGN_PIXEL h 4
    let c_stride := (alignedw / 2 + 15) / 16 * 16
    some (alignedw, alignedw * alignedh + c_stride * alignedh, 0)
  else if d.mFslFormat = YCBCR_422_SP ∨ d.mFslFormat = YCBCR_422_I ∨ d.mFslFormat = FORMAT_RAW16 then
    some (ALIGN_PIXEL w 16, ALIGN_PIXEL w 16 * ALIGN_PIXEL h 4 * 2, 0)
  else if d.mFslFormat = NV12_TILED then
    some (ALIGN_PIXEL w 256, ALIGN_PIXEL w 256 * ALIGN_PIXEL h 256 * 3 / 2, 0)
  else if d.mFslFormat = P010_TILED then
    some (ALIGN_PIXEL (w * 5 / 4) 256, ALIGN_PIXEL (w * 5 / 4) 256 * ALIGN_PIXEL h 256 * 3 / 2, 0)
  else none

/-- `checkFormat`; the error is `-EINVAL`. -/
def MemoryDesc.checkFormat (build : Build) (d : MemoryDesc) : Except ℤ MemoryDesc :=
  if d.mWidth = 0 ∨ d.mHeight = 0 then .error (-22)
  else match d.layout build with
    | none => .error (-22)
    | some (alignedw, size, bpp) => .ok { d with
        mSize := int32 size
        mBpp := int32 bpp
        mStride := int32 alignedw
        mProduceUsage :=
          if d.mFslFormat ∈ rgbFormats ∧ has d.mProduceUsage USAGE_HW_VIDEO_ENCODER
          then d.mProduceUsage ||| USAGE_ENCODER_IMPLIES else d.mProduceUsage }

/-- The two descriptions of one request: same size, format and usage, and the framebuffer and
    underrun flags of the driver as the display HAL and its build have them. -/
structure SameRequest (build : Build) (d : MemoryDesc) (desc : Descriptor) : Prop where
  width : desc.width = d.mWidth
  height : desc.height = d.mHeight
  format : desc.pixel_format = d.mFslFormat
  usage : desc.usage = d.mProduceUsage
  framebuffer : has desc.flags NXP_GRALLOC_FLAGS_FRAMEBUFFER = has d.mFlag FLAGS_FRAMEBUFFER
  underrun : has desc.flags NXP_GRALLOC_FLAGS_DISPLAY_UNDERRUN = build.WORKAROUND_DISPLAY_UNDERRUN

/-- The size of the buffer fits in `mSize`, and a padded 4:2:2 buffer has a height that the two
    alignments round to the same value. -/
def Aligned (build : Build) (d : MemoryDesc) : Prop :=
  (d.mFslFormat = RGBA_FP16 →
    ¬(16384 - d.tile build < d.mWidth ∧ 16384 - d.tile build < d.mHeight)) ∧
  (d.mFslFormat = YCBCR_422_SP ∨ d.mFslFormat = YCBCR_422_I →
    has d.mProduceUsage USAGE_PADDING_BUFFER →
      ALIGN_PIXEL d.mHeight 16 = ALIGN_PIXEL d.mHeight 4)

instance (build : Build) (d : MemoryDesc) : Decidable (Aligned build d) :=
  inferInstanceAs (Decidable (_ ∧ _))

/-! ### Alignments within the range of widths and heights -/

theorem ALIGN_eq {x n : ℕ} (hx : x ≤ 20480) (hn : n ≤ 256) : ALIGN x n = ALIGN_PIXEL x n := by
  unfold ALIGN ALIGN_PIXEL u32
  rw [Nat.mod_eq_of_lt (by omega)]

theorem ALIGN_PIXEL_dvd (x n : ℕ) : n ∣ ALIGN_PIXEL x n := Dvd.intro_left _ rfl

/-- An aligned value stays below a bound that is itself aligned. -/
theorem ALIGN_PIXEL_le {x n bound : ℕ} (hx : x ≤ bound) (hn : n ∣ bound) (hpos : 0 < n) :
    ALIGN_PIXEL x n ≤ bound := by
  obtain ⟨k, rfl⟩ := hn
  have hdiv : (x + (n - 1)) / n ≤ k := by
    have h1 : (x + (n - 1)) / n ≤ (n * k + (n - 1)) / n := Nat.div_le_div_right (by omega)
    have h2 : (n * k + (n - 1)) / n = k := by
      rw [Nat.mul_add_div hpos, Nat.div_eq_of_lt (by omega), Nat.add_zero]
    omega
  calc (x + (n - 1)) / n * n ≤ k * n := Nat.mul_le_mul_right n hdiv
    _ = n * k := Nat.mul_comm k n

/-! ### `mSize` against a size of the driver -/

theorem int32_of_lt {x : ℕ} (h : x < 2 ^ 31) : int32 x = x := by
  unfold int32
  rw [Int.bmod_def]
  omega

theorem int32_eq_iff {x y : ℕ} (h : x < 2 ^ 31) : int32 x = y ↔ x = y := by
  rw [int32_of_lt h]
  exact Int.ofNat_inj

theorem int32_self_iff (x : ℕ) (hx : x < 2 ^ 32) : int32 x = x ↔ x < 2 ^ 31 := by
  unfold int32
  rw [Int.bmod_def]
  omega

/-! ### What the planes of the driver add up to -/

/-- The extra alignment of some formats does nothing to an aligned height. -/
theorem height_of_dvd {fourcc : Fourcc} {x : ℕ} (plane : Plane) (h4 : 4 ∣ x) (hx : x ≤ 16384) :
    drv_height_from_format fourcc x plane = DIV_ROUND_UP x plane.vertical_subsampling := by
  have hsame : ALIGN x 4 = x := by
    simp only [ALIGN, u32]
    omega
  unfold drv_height_from_format
  split <;> simp only [hsame]

/-- One packed plane of `b` bytes a pixel. -/
theorem packed_total {fourcc : Fourcc} {b aw ah h : ℕ}
    (hlayout : layout_from_format fourcc = [⟨1, 1, 8 * b⟩])
    (hf : fourcc ≠ .NV15 ∧ fourcc ≠ .YVU420) (hw : aw ≤ 16384) (hh : ah ≤ 16384) (h4 : 4 ∣ ah)
    (hb : b ≤ 8) :
    (plane_loop fourcc .LINEAR aw ah h (layout_from_format fourcc) 0 0).total_size =
      aw * ah * b := by
  have hstride : drv_stride_from_format fourcc .LINEAR aw 0 ⟨1, 1, 8 * b⟩ = aw * b := by
    have hmul : aw * (8 * b) = 8 * (aw * b) := by ring
    have hle : aw * b ≤ 16384 * 8 := Nat.mul_le_mul hw hb
    simp only [drv_stride_from_format, hf.1, hf.2, DIV_ROUND_UP, ALIGN, u32, ne_eq,
      not_false_eq_true, and_self, if_true, if_false, Nat.div_one]
    rw [show (aw + 1 - 1) % 2 ^ 32 = aw by omega, hmul]
    omega
  have hle : aw * b * ah ≤ 16384 * 8 * 16384 := Nat.mul_le_mul (Nat.mul_le_mul hw hb) hh
  have hheight : drv_height_from_format fourcc ah ⟨1, 1, 8 * b⟩ = ah := by
    rw [height_of_dvd _ h4 hh]
    simp only [DIV_ROUND_UP, u32]
    omega
  simp only [hlayout, plane_loop, drv_size_from_format, hstride, hheight, u32, Nat.add_zero]
  rw [Nat.mod_eq_of_lt (by omega)]
  ring

/-- Two planes with the same stride, the second `c` lines high. -/
theorem biplanar_total {fourcc : Fourcc} {modifier : Modifier} {aw ah h : ℕ} (luma chroma : Plane)
    (c : ℕ) (hlayout : layout_from_format fourcc = [luma, chroma])
    (hs : drv_stride_from_format fourcc modifier aw 0 luma = aw)
    (hs' : drv_stride_from_format fourcc modifier aw 1 chroma = aw)
    (hl : DIV_ROUND_UP ah luma.vertical_subsampling = ah)
    (hc : DIV_ROUND_UP ah chroma.vertical_subsampling = c)
    (h4 : 4 ∣ ah) (hw : aw ≤ 20480) (hh : ah ≤ 16384) (hle : c ≤ 16384) :
    (plane_loop fourcc modifier aw ah h (layout_from_format fourcc) 0 0).total_size =
      aw * ah + aw * c := by
  have h1 : aw * ah ≤ 20480 * 16384 := Nat.mul_le_mul hw hh
  have h2 : aw * c ≤ 20480 * 16384 := Nat.mul_le_mul hw hle
  simp only [hlayout, plane_loop, drv_size_from_format, hs, hs', height_of_dvd _ h4 hh, hl, hc,
    u32, Nat.add_zero, Nat.zero_add]
  rw [Nat.mod_eq_of_lt (by omega), Nat.mod_eq_of_lt (by omega)]

/-- Three planes, the chroma ones half as wide and half as high. -/
theorem triplanar_total {fourcc : Fourcc} {aw ah h : ℕ} (hf : fourcc = .YUV420 ∨ fourcc = .YVU420)
    (h32 : 32 ∣ aw) (h4 : 4 ∣ ah) (hw : aw ≤ 16384) (hh : ah ≤ 16384) :
    (plane_loop fourcc .LINEAR aw ah h (layout_from_format fourcc) 0 0).total_size =
      aw * ah + aw / 2 * ah := by
  obtain ⟨k, rfl⟩ := h32
  obtain ⟨m, rfl⟩ := h4
  have hle : k * m ≤ 512 * 4096 := Nat.mul_le_mul (by omega) (by omega)
  have hluma : 32 * k * (4 * m) = 128 * (k * m) := by ring
  have hchroma : 16 * k * (2 * m) = 32 * (k * m) := by ring
  have hhalf : 32 * k / 2 * (4 * m) = 64 * (k * m) := by
    rw [show 32 * k / 2 = 16 * k by omega]; ring
  have hl : drv_height_from_format fourcc (4 * m) ⟨1, 1, 8⟩ = 4 * m := by
    rw [height_of_dvd _ (Dvd.intro m rfl) hh]
    simp only [DIV_ROUND_UP, u32]
    omega
  have hc : drv_height_from_format fourcc (4 * m) ⟨2, 2, 8⟩ = 2 * m := by
    rw [height_of_dvd _ (Dvd.intro m rfl) hh]
    simp only [DIV_ROUND_UP, u32]
    omega
  have hs : drv_stride_from_format fourcc .LINEAR (32 * k) 0 ⟨1, 1, 8⟩ = 32 * k := by
    rcases hf with rfl | rfl <;> simp [drv_stride_from_format, DIV_ROUND_UP, ALIGN, u32] <;> omega
  have hs' : ∀ p, 0 < p → drv_stride_from_format fourcc .LINEAR (32 * k) p ⟨2, 2, 8⟩ = 16 * k := by
    intro p hp
    have hp0 : p ≠ 0 := by omega
    rcases hf with rfl | rfl <;>
      simp [drv_stride_from_format, DIV_ROUND_UP, ALIGN, u32, hp0] <;> omega
  have hlayout : layout_from_format fourcc = triplanar_yuv_420_layout := by
    rcases hf with rfl | rfl <;> rfl
  simp only [hlayout, triplanar_yuv_420_layout, plane_loop, drv_size_from_format, hs,
    hs' (0 + 1) (by omega), hs' (0 + 1 + 1) (by omega), hl, hc, u32, Nat.add_zero, hluma, hchroma,
    hhalf]
  omega

/-- A plane of eight bits a pixel, or of sixteen at half the width, has the stride of the buffer. -/
theorem semiplanar_stride {fourcc : Fourcc} {modifier : Modifier} {k p : ℕ} (hk : 16 * k ≤ 20480)
    (hf : fourcc ≠ .YVU420) (v : ℕ) :
    drv_stride_from_format fourcc modifier (16 * k) p ⟨1, v, 8⟩ = 16 * k ∧
    drv_stride_from_format fourcc modifier (16 * k) p ⟨2, v, 16⟩ = 16 * k := by
  simp only [drv_stride_from_format, DIV_ROUND_UP, ALIGN, u32, hf, if_false]
  constructor
  · split <;> omega
  · split <;> omega

/-- The 4:2:0 formats with one chroma plane, linear or tiled. -/
theorem semiplanar_total {fourcc : Fourcc} {modifier : Modifier} {aw ah h : ℕ}
    (hf : fourcc = .NV12 ∨ fourcc = .NV21 ∨ fourcc = .NV15) (h16 : 16 ∣ aw) (h4 : 4 ∣ ah)
    (hw : aw ≤ 20480) (hh : ah ≤ 16384) :
    (plane_loop fourcc modifier aw ah h (layout_from_format fourcc) 0 0).total_size =
      aw * ah * 3 / 2 := by
  obtain ⟨k, rfl⟩ := h16
  have hfull : DIV_ROUND_UP ah 1 = ah := by simp only [DIV_ROUND_UP, u32]; omega
  have hhalf : DIV_ROUND_UP ah 2 = ah / 2 := by simp only [DIV_ROUND_UP, u32]; omega
  have htotal : (plane_loop fourcc modifier (16 * k) ah h (layout_from_format fourcc)
      0 0).total_size = 16 * k * ah + 16 * k * (ah / 2) := by
    rcases hf with rfl | rfl | rfl
    · exact biplanar_total ⟨1, 1, 8⟩ ⟨2, 2, 16⟩ _ rfl (semiplanar_stride hw (by decide) 1).1
        (semiplanar_stride hw (by decide) 2).2 hfull hhalf h4 hw hh (by omega)
    · exact biplanar_total ⟨1, 1, 8⟩ ⟨2, 2, 16⟩ _ rfl (semiplanar_stride hw (by decide) 1).1
        (semiplanar_stride hw (by decide) 2).2 hfull hhalf h4 hw hh (by omega)
    · exact biplanar_total ⟨1, 1, 10⟩ ⟨2, 2, 20⟩ _ rfl (by simp [drv_stride_from_format])
        (by simp [drv_stride_from_format]) hfull hhalf h4 hw hh (by omega)
  obtain ⟨m, rfl⟩ := h4
  have h1 : 16 * k * (4 * m) = 64 * (k * m) := by ring
  have h2 : 16 * k * (4 * m / 2) = 32 * (k * m) := by
    rw [show 4 * m / 2 = 2 * m by omega]; ring
  rw [htotal, h1, h2]
  omega

/-- 4:2:2 with one chroma plane as high as the luma plane. -/
theorem nv16_total {aw ah h : ℕ} (h16 : 16 ∣ aw) (h4 : 4 ∣ ah) (hw : aw ≤ 16384)
    (hh : ah ≤ 16384) :
    (plane_loop .NV16 .LINEAR aw ah h (layout_from_format .NV16) 0 0).total_size = aw * ah * 2 := by
  obtain ⟨k, rfl⟩ := h16
  have hfull : DIV_ROUND_UP ah 1 = ah := by simp only [DIV_ROUND_UP, u32]; omega
  have hw' : 16 * k ≤ 20480 := by omega
  rw [biplanar_total ⟨1, 1, 8⟩ ⟨2, 1, 16⟩ ah rfl (semiplanar_stride hw' (by decide) 1).1
    (semiplanar_stride hw' (by decide) 1).2 hfull hfull h4 hw' hh hh]
  ring

/-! ### Format by format -/

/-- The layout of the driver, once the format and the alignments are known. -/
theorem dmabuf_layout_eq {build : Build} {desc : Descriptor} {info : FormatInfo} {aw ah stride : ℕ}
    {out : BufferInfo} (hi : getPixleFormatInfo build desc.pixel_format = some info)
    (ha : drv_pixel_width_height_alignment build desc = some (aw, ah))
    (hg : dmabuf_layout build desc = some (stride, out)) :
    stride = aw ∧ out.total_size = (plane_loop info.fourcc info.modifier aw ah desc.height
      (layout_from_format info.fourcc) 0 0).total_size + end_padding info desc aw ah := by
  simp only [dmabuf_layout, ha, drv_buffer_info_calculation, hi, Option.map_some,
    Option.some.injEq, Prod.mk.injEq] at hg
  obtain ⟨rfl, rfl⟩ := hg
  exact ⟨rfl, rfl⟩

/-- The two layouts of one request agree exactly if the request is `Aligned`. -/
def Agrees (build : Build) (d : MemoryDesc) (stride : ℕ) (out : BufferInfo) : Prop :=
  ∃ aw size bpp, d.layout build = some (aw, size, bpp) ∧ aw = stride ∧ aw ≤ 20480 ∧
    (int32 size = out.total_size ↔ Aligned build d)

/-- A format that is none of the three special ones: equal sizes are all there is to show. -/
theorem agrees_of_eq {build : Build} {d : MemoryDesc} {stride size bpp : ℕ} {out : BufferInfo}
    (hl : d.layout build = some (stride, size, bpp)) (hle : stride ≤ 20480)
    (hfmt : d.mFslFormat ≠ RGBA_FP16 ∧ d.mFslFormat ≠ YCBCR_422_SP ∧ d.mFslFormat ≠ YCBCR_422_I)
    (hs : size = out.total_size) (hlt : size < 2 ^ 31) : Agrees build d stride out := by
  refine ⟨stride, size, bpp, hl, rfl, hle, ?_⟩
  rw [int32_eq_iff hlt]
  refine iff_of_true hs ⟨fun h => absurd h hfmt.1, ?_⟩
  rintro (h | h)
  · exact absurd h hfmt.2.1
  · exact absurd h hfmt.2.2

section Formats

variable {build : Build} {d : MemoryDesc} {desc : Descriptor} {stride : ℕ} {out : BufferInfo}

theorem tile_alignment_eq (hs : SameRequest build d desc) : tile_alignment desc = d.tile build := by
  unfold tile_alignment MemoryDesc.tile
  rw [hs.usage, hs.framebuffer, hs.underrun, Bool.and_comm]

theorem tile_cases (build : Build) (d : MemoryDesc) : d.tile build = 16 ∨ d.tile build = 64 := by
  unfold MemoryDesc.tile
  split
  · split
    · exact Or.inl rfl
    · exact Or.inr rfl
  · exact Or.inl rfl

/-- The entries of the RGB formats are one packed plane. -/
theorem rgb_entry (build : Build) : ∀ info ∈ formats build, info.id ∈ MemoryDesc.rgbFormats →
    info.is_rgb = true ∧ info.is_yuv = false ∧ info.modifier = .LINEAR ∧
    layout_from_format info.fourcc = [⟨1, 1, 8 * bppOf info.id⟩] ∧
    info.fourcc ≠ .NV15 ∧ info.fourcc ≠ .YVU420 := by
  obtain ⟨l, v, f, u⟩ := build
  revert l v f u
  decide +kernel

/-- A layout is made for a format of the table only. -/
theorem entry_of_layout (hs : SameRequest build d desc)
    (hg : dmabuf_layout build desc = some (stride, out)) :
    ∃ info, getPixleFormatInfo build desc.pixel_format = some info ∧ info ∈ formats build ∧
      info.id = d.mFslFormat := by
  cases hi : getPixleFormatInfo build desc.pixel_format with
  | some info =>
    obtain ⟨hmem, hid⟩ := getPixleFormatInfo_mem hi
    exact ⟨info, rfl, hmem, hid.trans hs.format⟩
  | none => simp [dmabuf_layout, drv_pixel_width_height_alignment, hi] at hg

/-- The last stage of the alignment is for the 10-bit formats. -/
theorem alignment_eq {info : FormatInfo}
    (hi : getPixleFormatInfo build desc.pixel_format = some info)
    (hne : desc.pixel_format ∉ [P010, P010_TILED_COMPRESSED, P010_TILED]) :
    drv_pixel_width_height_alignment build desc = some (kind_alignment info desc) := by
  simp only [List.mem_cons, List.not_mem_nil, or_false, not_or] at hne
  simp only [drv_pixel_width_height_alignment, hi, hne.1, hne.2.1, hne.2.2, or_self, if_false]

/-- Only the topmost tile of the range reaches 16384. -/
theorem ALIGN_PIXEL_top {x n : ℕ} (hn : n = 16 ∨ n = 64) (hx : x ≤ 16384) :
    (ALIGN_PIXEL x n = 16384 ∧ 16384 - n < x) ∨ (ALIGN_PIXEL x n ≤ 16368 ∧ ¬16384 - n < x) := by
  unfold ALIGN_PIXEL
  rcases hn with rfl | rfl <;> omega

/-- An RGB size fits in an `int` but for half floats on the full square. -/
theorem rgb_size_lt {pad : ℕ} (hfmt : d.mFslFormat ∈ MemoryDesc.rgbFormats) (hw : d.mWidth ≤ 16384)
    (hh : d.mHeight ≤ 16384) (hpad : pad ≤ 128) :
    ALIGN_PIXEL d.mWidth (d.tile build) * ALIGN_PIXEL d.mHeight (d.tile build) *
      bppOf d.mFslFormat + pad < 2 ^ 31 ↔ Aligned build d := by
  have hother : ∀ f ∈ MemoryDesc.rgbFormats, f ≠ YCBCR_422_SP ∧ f ≠ YCBCR_422_I ∧
      (f ≠ RGBA_FP16 → bppOf f ≤ 4) := by decide
  obtain ⟨hsp, hi, hbpp⟩ := hother _ hfmt
  have hsecond : d.mFslFormat = YCBCR_422_SP ∨ d.mFslFormat = YCBCR_422_I →
      has d.mProduceUsage USAGE_PADDING_BUFFER →
        ALIGN_PIXEL d.mHeight 16 = ALIGN_PIXEL d.mHeight 4 := by
    rintro (h | h)
    · exact absurd h hsp
    · exact absurd h hi
  have htop := ALIGN_PIXEL_top (tile_cases build d) hw
  have htop' := ALIGN_PIXEL_top (tile_cases build d) hh
  have hle : ∀ x, x ≤ 16384 → ALIGN_PIXEL x (d.tile build) ≤ 16384 := by
    intro x hx
    rcases ALIGN_PIXEL_top (tile_cases build d) hx with h | h <;> omega
  by_cases hfp : d.mFslFormat = RGBA_FP16
  · have h8 : bppOf d.mFslFormat = 8 := by rw [hfp]; rfl
    rw [h8]
    unfold Aligned
    rcases htop with ⟨ht, hw'⟩ | ⟨ht, hw'⟩
    · rcases htop' with ⟨ht', hh'⟩ | ⟨ht', hh'⟩
      · rw [ht, ht']
        refine iff_of_false (by omega) fun h => h.1 hfp ⟨hw', hh'⟩
      · have := Nat.mul_le_mul (hle _ hw) ht'
        exact iff_of_true (by omega) ⟨fun _ h => hh' h.2, hsecond⟩
    · have := Nat.mul_le_mul ht (hle _ hh)
      exact iff_of_true (by omega) ⟨fun _ h => hw' h.1, hsecond⟩
  · have hprod := Nat.mul_le_mul (Nat.mul_le_mul (hle _ hw) (hle _ hh)) (hbpp hfp)
    exact iff_of_true (by omega) ⟨fun h => absurd h hfp, hsecond⟩

theorem rgb_agrees (hs : SameRequest build d desc) (hw : d.mWidth ≤ 16384)
    (hh : d.mHeight ≤ 16384) (hfmt : d.mFslFormat ∈ MemoryDesc.rgbFormats)
    (hg : dmabuf_layout build desc = some (stride, out)) : Agrees build d stride out := by
  obtain ⟨info, hi, hmem, hid⟩ := entry_of_layout hs hg
  obtain ⟨hrgb, hyuv, hmod, hlayout, hf⟩ := rgb_entry build info hmem (by rw [hid]; exact hfmt)
  rw [hid] at hlayout
  have hn := tile_cases build d
  have hne : ∀ f ∈ MemoryDesc.rgbFormats, f ≠ P010 ∧ f ≠ P010_TILED_COMPRESSED ∧ f ≠ P010_TILED ∧
      bppOf f ≤ 8 := by decide
  obtain ⟨h1, h2, h3, hbpp⟩ := hne _ hfmt
  have halign : drv_pixel_width_height_alignment build desc =
      some (ALIGN_PIXEL d.mWidth (d.tile build), ALIGN_PIXEL d.mHeight (d.tile build)) := by
    rw [alignment_eq hi (by simp [hs.format, h1, h2, h3])]
    simp only [kind_alignment, hrgb, if_true, tile_alignment_eq hs, hs.width, hs.height]
    rw [ALIGN_eq (by omega) (by omega), ALIGN_eq (by omega) (by omega)]
  obtain ⟨rfl, hout⟩ := dmabuf_layout_eq hi halign hg
  have hle : ∀ x, x ≤ 16384 → ALIGN_PIXEL x (d.tile build) ≤ 16384 := by
    intro x hx
    rcases ALIGN_PIXEL_top hn hx with h | h <;> omega
  have hdvd : 4 ∣ ALIGN_PIXEL d.mHeight (d.tile build) :=
    Dvd.dvd.trans (by rcases hn with h | h <;> rw [h] <;> decide) (ALIGN_PIXEL_dvd _ _)
  rw [hmod, packed_total hlayout hf (hle _ hw) (hle _ hh) hdvd hbpp] at hout
  have hpad : end_padding info desc (ALIGN_PIXEL d.mWidth (d.tile build))
      (ALIGN_PIXEL d.mHeight (d.tile build)) =
        if has d.mProduceUsage USAGE_GPU_TILED_VIV then 128 else 0 := by
    simp [end_padding, hyuv, hrgb, hs.usage]
  have hbound := Nat.mul_le_mul (Nat.mul_le_mul (hle _ hw) (hle _ hh)) hbpp
  have hsize : MemoryDesc.layout build d = some (ALIGN_PIXEL d.mWidth (d.tile build),
      out.total_size, bppOf d.mFslFormat) := by
    rw [hout, hpad, MemoryDesc.layout, if_pos hfmt]
    split <;> rfl
  refine ⟨_, _, _, hsize, rfl, (hle _ hw).trans (by norm_num), ?_⟩
  have hp : (if has d.mProduceUsage USAGE_GPU_TILED_VIV then 128 else 0) ≤ 128 := by
    split <;> omega
  rw [← rgb_size_lt hfmt hw hh hp, ← hpad, ← hout]
  rw [hpad] at hout
  exact int32_self_iff _ (by omega)

/-! The YUV formats -/

/-- The semi-planar formats of the hantro decoder, which get its padding. -/
def paddedFormats : List ℤ :=
  [YCbCr_420_SP, YCRCB_420_SP, NV12_G1_TILED, NV12_G2_TILED, NV12_G2_TILED_COMPRESSED, P010,
    P010_TILED_COMPRESSED]

theorem yuv_entry (build : Build) : ∀ info ∈ formats build,
    info.id ∈ paddedFormats ++ [NV12_TILED, P010_TILED] →
    info.is_rgb = false ∧ info.is_yuv = true ∧
    (info.fourcc = .NV12 ∨ info.fourcc = .NV21 ∨ info.fourcc = .NV15) := by
  obtain ⟨l, v, f, u⟩ := build
  revert l v f u
  decide +kernel

/-- Those of them that pack ten bits a sample, five bytes for four pixels. -/
def tenBitFormats : List ℤ := [P010, P010_TILED_COMPRESSED]

theorem padded_layout (hfmt : d.mFslFormat ∈ paddedFormats) :
    let aw := ALIGN_PIXEL (if d.mFslFormat ∈ tenBitFormats then d.mWidth * 5 / 4 else d.mWidth) 16
    let ah := if has d.mProduceUsage USAGE_PADDING_BUFFER then ALIGN_PIXEL d.mHeight 16
      else ALIGN_PIXEL d.mHeight 4
    d.layout build = some (aw, if has d.mProduceUsage USAGE_PADDING_BUFFER
      then aw * ah * 3 / 2 + aw * ah / 4 + 32 else aw * ah * 3 / 2, 0) := by
  simp only [paddedFormats, List.mem_cons, List.not_mem_nil, or_false] at hfmt
  cases hpad : has d.mProduceUsage USAGE_PADDING_BUFFER <;>
    rcases hfmt with h | h | h | h | h | h | h <;> simp only [MemoryDesc.layout, h, hpad] <;> rfl

/-- The height of a buffer for the decoder, padded or not. -/
theorem padded_height (d : MemoryDesc) (hh : d.mHeight ≤ 16384) {ah : ℕ}
    (hah : ah = if has d.mProduceUsage USAGE_PADDING_BUFFER then ALIGN_PIXEL d.mHeight 16
      else ALIGN_PIXEL d.mHeight 4) : ah ≤ 16384 ∧ 4 ∣ ah := by
  rw [hah]
  split
  · exact ⟨ALIGN_PIXEL_le hh (by decide) (by decide),
      Dvd.dvd.trans (by decide) (ALIGN_PIXEL_dvd d.mHeight 16)⟩
  · exact ⟨ALIGN_PIXEL_le hh (by decide) (by decide), ALIGN_PIXEL_dvd _ _⟩

theorem ten_bit_width (hw : d.mWidth ≤ 16384) {n : ℕ} (hn : n ≤ 256) :
    ALIGN (u32 (d.mWidth * 5) / 4) n = ALIGN_PIXEL (d.mWidth * 5 / 4) n := by
  rw [show u32 (d.mWidth * 5) = d.mWidth * 5 from Nat.mod_eq_of_lt (by omega)]
  exact ALIGN_eq (by omega) hn

/-- The driver's alignment of a YUV format that is neither planar nor tiled for amphion. -/
theorem yuv_kind_alignment {info : FormatInfo} (hs : SameRequest build d desc)
    (hw : d.mWidth ≤ 16384) (hh : d.mHeight ≤ 16384) (hrgb : info.is_rgb = false)
    (hyuv : info.is_yuv = true) (hne : d.mFslFormat ≠ YV12 ∧ d.mFslFormat ≠ YCbCr_420_P ∧
      d.mFslFormat ≠ NV12_TILED ∧ d.mFslFormat ≠ P010_TILED) :
    kind_alignment info desc = (ALIGN_PIXEL d.mWidth 16,
      if has d.mProduceUsage USAGE_PADDING_BUFFER then ALIGN_PIXEL d.mHeight 16
      else ALIGN_PIXEL d.mHeight 4) := by
  obtain ⟨h1, h2, h3, h4⟩ := hne
  simp only [kind_alignment, hrgb, hyuv, hs.format, hs.width, hs.height, hs.usage, h1, h2, h3, h4,
    or_self, Bool.false_eq_true, if_false, if_true]
  rw [ALIGN_eq (by omega) (by norm_num), ALIGN_eq (x := d.mHeight) (by omega) (by norm_num),
    ALIGN_eq (x := d.mHeight) (by omega) (by norm_num)]

/-- The driver aligns these formats the same way. -/
theorem padded_alignment {info : FormatInfo} (hs : SameRequest build d desc)
    (hw : d.mWidth ≤ 16384) (hh : d.mHeight ≤ 16384) (hfmt : d.mFslFormat ∈ paddedFormats)
    (hi : getPixleFormatInfo build desc.pixel_format = some info) (hrgb : info.is_rgb = false)
    (hyuv : info.is_yuv = true) :
    drv_pixel_width_height_alignment build desc =
      some (ALIGN_PIXEL (if d.mFslFormat ∈ tenBitFormats then d.mWidth * 5 / 4 else d.mWidth) 16,
        if has d.mProduceUsage USAGE_PADDING_BUFFER then ALIGN_PIXEL d.mHeight 16
        else ALIGN_PIXEL d.mHeight 4) := by
  have hne : ∀ f ∈ paddedFormats, f ≠ YV12 ∧ f ≠ YCbCr_420_P ∧ f ≠ NV12_TILED ∧ f ≠ P010_TILED := by
    decide
  have hkind := yuv_kind_alignment hs hw hh hrgb hyuv (hne _ hfmt)
  simp only [drv_pixel_width_height_alignment, hi, hkind]
  rw [hs.format, hs.width, ten_bit_width hw (by decide)]
  by_cases ht : d.mFslFormat ∈ tenBitFormats
  · have : d.mFslFormat = P010 ∨ d.mFslFormat = P010_TILED_COMPRESSED := by
      simpa [tenBitFormats] using ht
    rw [if_pos this, if_pos ht]
  · have : ¬(d.mFslFormat = P010 ∨ d.mFslFormat = P010_TILED_COMPRESSED) := by
      simpa [tenBitFormats] using ht
    rw [if_neg this, if_neg (hne _ hfmt).2.2.2, if_neg ht]

theorem padded_agrees (hs : SameRequest build d desc) (hw : d.mWidth ≤ 16384)
    (hh : d.mHeight ≤ 16384) (hfmt : d.mFslFormat ∈ paddedFormats)
    (hg : dmabuf_layout build desc = some (stride, out)) : Agrees build d stride out := by
  obtain ⟨info, hi, hmem, hid⟩ := entry_of_layout hs hg
  obtain ⟨hrgb, hyuv, hf⟩ := yuv_entry build info hmem
    (by rw [hid]; exact List.mem_append_left _ hfmt)
  -- the width differs between the 8-bit and the 10-bit formats, the height does not
  obtain ⟨aw, ah, haw, h16, hah, h4, halign, hlayout⟩ : ∃ aw ah, aw ≤ 20480 ∧ 16 ∣ aw ∧ ah ≤ 16384 ∧
      4 ∣ ah ∧ drv_pixel_width_height_alignment build desc = some (aw, ah) ∧
      d.layout build = some (aw, if has d.mProduceUsage USAGE_PADDING_BUFFER
        then aw * ah * 3 / 2 + aw * ah / 4 + 32 else aw * ah * 3 / 2, 0) := by
    obtain ⟨hah, h4⟩ := padded_height d hh rfl
    exact ⟨ALIGN_PIXEL (if d.mFslFormat ∈ tenBitFormats then d.mWidth * 5 / 4 else d.mWidth) 16, _,
      ALIGN_PIXEL_le (by split <;> omega) (by decide) (by decide), ALIGN_PIXEL_dvd _ _, hah, h4,
      padded_alignment hs hw hh hfmt hi hrgb hyuv, padded_layout hfmt⟩
  obtain ⟨rfl, hout⟩ := dmabuf_layout_eq hi halign hg
  rw [semiplanar_total hf h16 h4 haw hah] at hout
  have hprod := Nat.mul_le_mul haw hah
  have hpad : end_padding info desc stride ah =
      if has d.mProduceUsage USAGE_PADDING_BUFFER then stride * ah / 4 + 32 else 0 := by
    have hin : desc.pixel_format ∈ [YCbCr_420_SP, YCRCB_420_SP, NV12_G1_TILED, NV12_G2_TILED,
        NV12_G2_TILED_COMPRESSED, P010, P010_TILED_COMPRESSED] := by rw [hs.format]; exact hfmt
    simp only [end_padding, hyuv, hrgb, hs.usage, hin, decide_true, Bool.and_true, Bool.true_and,
      Bool.false_and, u32]
    split
    · omega
    · rename_i hno
      simp [hno]
  rw [hpad] at hout
  have hne : ∀ f ∈ paddedFormats, f ≠ RGBA_FP16 ∧ f ≠ YCBCR_422_SP ∧ f ≠ YCBCR_422_I := by decide
  refine agrees_of_eq hlayout haw (hne _ hfmt) ?_ ?_
  · rw [hout]; split <;> omega
  · split <;> omega

/-- A YUV format outside the list of the decoder gets no padding. -/
theorem end_padding_yuv {info : FormatInfo} {aw ah : ℕ} (hrgb : info.is_rgb = false)
    (hfmt : desc.pixel_format ∉ paddedFormats ++ [YCBCR_P010]) : end_padding info desc aw ah = 0 := by
  rw [List.mem_append, List.mem_singleton, not_or] at hfmt
  have hin : desc.pixel_format ∉ [YCbCr_420_SP, YCRCB_420_SP, NV12_G1_TILED, NV12_G2_TILED,
    NV12_G2_TILED_COMPRESSED, P010, P010_TILED_COMPRESSED] := hfmt.1
  simp only [end_padding, hrgb, hin, hfmt.2, decide_false, Bool.and_false, Bool.false_and,
    Bool.false_eq_true, if_false]

/-- The two tiled formats of the amphion decoder. -/
theorem tiled_agrees (hs : SameRequest build d desc) (hw : d.mWidth ≤ 16384)
    (hh : d.mHeight ≤ 16384) (hfmt : d.mFslFormat = NV12_TILED ∨ d.mFslFormat = P010_TILED)
    (hg : dmabuf_layout build desc = some (stride, out)) : Agrees build d stride out := by
  obtain ⟨info, hi, hmem, hid⟩ := entry_of_layout hs hg
  obtain ⟨hrgb, hyuv, hf⟩ := yuv_entry build info hmem
    (by rw [hid]; rcases hfmt with h | h <;> rw [h] <;> decide)
  have hten := ten_bit_width (d := d) hw (n := 256) (by decide)
  have hwidth : ALIGN d.mWidth 256 = ALIGN_PIXEL d.mWidth 256 := ALIGN_eq (by omega) (by norm_num)
  have hheight : ALIGN d.mHeight 256 = ALIGN_PIXEL d.mHeight 256 := ALIGN_eq (by omega) (by norm_num)
  have hah := ALIGN_PIXEL_le (n := 256) hh (by decide) (by decide)
  have h4 : 4 ∣ ALIGN_PIXEL d.mHeight 256 := Dvd.dvd.trans (by decide) (ALIGN_PIXEL_dvd _ _)
  obtain ⟨aw, haw, h16, halign, hlayout⟩ : ∃ aw, aw ≤ 20480 ∧ 16 ∣ aw ∧
      drv_pixel_width_height_alignment build desc = some (aw, ALIGN_PIXEL d.mHeight 256) ∧
      d.layout build = some (aw, aw * ALIGN_PIXEL d.mHeight 256 * 3 / 2, 0) := by
    rcases hfmt with h | h
    · refine ⟨ALIGN_PIXEL d.mWidth 256, ALIGN_PIXEL_le (by omega) (by decide) (by decide),
        Dvd.dvd.trans (by decide) (ALIGN_PIXEL_dvd _ _), ?_, ?_⟩
      · rw [alignment_eq hi (by rw [hs.format, h]; decide)]
        simp only [kind_alignment, hrgb, hs.format, h, hs.width, hs.height, hwidth, hheight]
        rfl
      · simp only [MemoryDesc.layout, h]
        rfl
    · refine ⟨ALIGN_PIXEL (d.mWidth * 5 / 4) 256, ALIGN_PIXEL_le (by omega) (by decide) (by decide),
        Dvd.dvd.trans (by decide) (ALIGN_PIXEL_dvd _ _), ?_, ?_⟩
      · simp only [drv_pixel_width_height_alignment, hi]
        simp only [kind_alignment, hrgb, hs.format, h, hs.width, hs.height, hten, hheight]
        rfl
      · simp only [MemoryDesc.layout, h]
        rfl
  obtain ⟨rfl, hout⟩ := dmabuf_layout_eq hi halign hg
  have hnot : desc.pixel_format ∉ paddedFormats ++ [YCBCR_P010] := by
    rw [hs.format]
    rcases hfmt with h | h <;> rw [h] <;> decide
  rw [semiplanar_total hf h16 h4 haw hah, end_padding_yuv hrgb hnot] at hout
  have hprod := Nat.mul_le_mul haw hah
  refine agrees_of_eq hlayout haw ?_ hout.symm (by omega)
  rcases hfmt with h | h <;> rw [h] <;> decide

theorem triplanar_agrees (hs : SameRequest build d desc) (hw : d.mWidth ≤ 16384)
    (hh : d.mHeight ≤ 16384) (hfmt : d.mFslFormat = YCbCr_420_P ∨ d.mFslFormat = YV12)
    (hg : dmabuf_layout build desc = some (stride, out)) : Agrees build d stride out := by
  obtain ⟨info, hi, hmem, hid⟩ := entry_of_layout hs hg
  have hentry : ∀ l v f u, ∀ info ∈ formats ⟨l, v, f, u⟩, info.id = YCbCr_420_P ∨ info.id = YV12 →
      info.is_rgb = false ∧ info.modifier = .LINEAR ∧
      (info.fourcc = .YUV420 ∨ info.fourcc = .YVU420) := by decide +kernel
  obtain ⟨hrgb, hmod, hf⟩ := hentry _ _ _ _ info hmem (by rw [hid]; exact hfmt)
  have halign : drv_pixel_width_height_alignment build desc =
      some (ALIGN_PIXEL d.mWidth 32, ALIGN_PIXEL d.mHeight 4) := by
    rw [alignment_eq hi (by rw [hs.format]; rcases hfmt with h | h <;> rw [h] <;> decide)]
    simp only [kind_alignment, hrgb, hs.format, or_comm.mp hfmt, if_true, Bool.false_eq_true, if_false,
      hs.width, hs.height]
    rw [ALIGN_eq (by omega) (by norm_num), ALIGN_eq (x := d.mHeight) (by omega) (by norm_num)]
  have haw := ALIGN_PIXEL_le (n := 32) hw (by decide) (by decide)
  have hah := ALIGN_PIXEL_le (n := 4) hh (by decide) (by decide)
  obtain ⟨rfl, hout⟩ := dmabuf_layout_eq hi halign hg
  have hnot : desc.pixel_format ∉ paddedFormats ++ [YCBCR_P010] := by
    rw [hs.format]
    rcases hfmt with h | h <;> rw [h] <;> decide
  rw [hmod, triplanar_total hf (ALIGN_PIXEL_dvd _ _) (ALIGN_PIXEL_dvd _ _) haw hah,
    end_padding_yuv hrgb hnot] at hout
  have hchroma : (ALIGN_PIXEL d.mWidth 32 / 2 + 15) / 16 * 16 = ALIGN_PIXEL d.mWidth 32 / 2 := by
    obtain ⟨k, hk⟩ := ALIGN_PIXEL_dvd d.mWidth 32
    rw [hk]
    omega
  have hlayout : d.layout build = some (ALIGN_PIXEL d.mWidth 32, ALIGN_PIXEL d.mWidth 32 *
      ALIGN_PIXEL d.mHeight 4 + ALIGN_PIXEL d.mWidth 32 / 2 * ALIGN_PIXEL d.mHeight 4, 0) := by
    rw [← hchroma]
    rcases hfmt with h | h <;> simp only [MemoryDesc.layout, h] <;> rfl
  have hprod := Nat.mul_le_mul haw hah
  have hprod' := Nat.mul_le_mul (show ALIGN_PIXEL d.mWidth 32 / 2 ≤ 8192 by omega) hah
  refine agrees_of_eq hlayout (by omega) ?_ hout.symm (by omega)
  rcases hfmt with h | h <;> rw [h] <;> decide

/-- The 4:2:2 formats: the driver rounds the height of a padded buffer to 16, `checkFormat` to 4. -/
theorem yuv422_agrees (hs : SameRequest build d desc) (hpos : 0 < d.mWidth)
    (hw : d.mWidth ≤ 16384) (hh : d.mHeight ≤ 16384)
    (hfmt : d.mFslFormat = YCBCR_422_SP ∨ d.mFslFormat = YCBCR_422_I)
    (hg : dmabuf_layout build desc = some (stride, out)) : Agrees build d stride out := by
  obtain ⟨info, hi, hmem, hid⟩ := entry_of_layout hs hg
  have hentry : ∀ l v f u, ∀ info ∈ formats ⟨l, v, f, u⟩,
      info.id = YCBCR_422_SP ∨ info.id = YCBCR_422_I →
      info.is_rgb = false ∧ info.is_yuv = true ∧ info.modifier = .LINEAR ∧
      (info.fourcc = .NV16 ∨ info.fourcc = .YUYV) := by decide +kernel
  obtain ⟨hrgb, hyuv, hmod, hf⟩ := hentry _ _ _ _ info hmem (by rw [hid]; exact hfmt)
  obtain ⟨ah, hah_eq⟩ : ∃ ah, ah = if has d.mProduceUsage USAGE_PADDING_BUFFER
      then ALIGN_PIXEL d.mHeight 16 else ALIGN_PIXEL d.mHeight 4 := ⟨_, rfl⟩
  have halign : drv_pixel_width_height_alignment build desc =
      some (ALIGN_PIXEL d.mWidth 16, ah) := by
    rw [alignment_eq hi (by rw [hs.format]; rcases hfmt with h | h <;> rw [h] <;> decide), hah_eq,
      yuv_kind_alignment hs hw hh hrgb hyuv (by rcases hfmt with h | h <;> rw [h] <;> decide)]
  have haw := ALIGN_PIXEL_le (n := 16) hw (by decide) (by decide)
  have h16 := ALIGN_PIXEL_dvd d.mWidth 16
  have hle4 := ALIGN_PIXEL_le (n := 4) hh (by decide) (by decide)
  obtain ⟨hah, h4⟩ := padded_height d hh hah_eq
  obtain ⟨rfl, hout⟩ := dmabuf_layout_eq hi halign hg
  have hnot : desc.pixel_format ∉ paddedFormats ++ [YCBCR_P010] := by
    rw [hs.format]
    rcases hfmt with h | h <;> rw [h] <;> decide
  have htotal : (plane_loop info.fourcc info.modifier (ALIGN_PIXEL d.mWidth 16) ah desc.height
      (layout_from_format info.fourcc) 0 0).total_size = ALIGN_PIXEL d.mWidth 16 * ah * 2 := by
    rw [hmod]
    rcases hf with h | h <;> rw [h]
    · exact nv16_total h16 h4 haw hah
    · exact packed_total rfl (by decide) haw hah h4 (by norm_num)
  rw [htotal, end_padding_yuv hrgb hnot] at hout
  have hlayout : d.layout build = some (ALIGN_PIXEL d.mWidth 16,
      ALIGN_PIXEL d.mWidth 16 * ALIGN_PIXEL d.mHeight 4 * 2, 0) := by
    rcases hfmt with h | h <;> simp only [MemoryDesc.layout, h] <;> rfl
  have hprod := Nat.mul_le_mul haw hle4
  have hwpos : 0 < ALIGN_PIXEL d.mWidth 16 := by unfold ALIGN_PIXEL; omega
  refine ⟨_, _, _, hlayout, rfl, by omega, ?_⟩
  rw [int32_eq_iff (by omega), hout, Nat.add_zero,
    Nat.mul_left_inj (by decide), Nat.mul_right_inj (by omega), hah_eq]
  have hfp : d.mFslFormat ≠ RGBA_FP16 := by rcases hfmt with h | h <;> rw [h] <;> decide
  constructor
  · intro h
    refine ⟨fun hno => absurd hno hfp, fun _ hpad => ?_⟩
    rw [if_pos hpad] at h
    exact h.symm
  · intro h
    split
    · rename_i hpad
      exact (h.2 hfmt hpad).symm
    · rfl

/-- Every format both support falls in one of the five groups. -/
theorem supported_formats {d' : MemoryDesc} (hs : SameRequest build d desc)
    (hm : d.checkFormat build = .ok d') (hg : dmabuf_layout build desc = some (stride, out))
    (hblob : d.mFslFormat ≠ BLOB) (hraw : d.mFslFormat ≠ FORMAT_RAW16) :
    d.mFslFormat ∈ MemoryDesc.rgbFormats ∨ d.mFslFormat ∈ paddedFormats ∨
    (d.mFslFormat = NV12_TILED ∨ d.mFslFormat = P010_TILED) ∨
    (d.mFslFormat = YCbCr_420_P ∨ d.mFslFormat = YV12) ∨
    (d.mFslFormat = YCBCR_422_SP ∨ d.mFslFormat = YCBCR_422_I) := by
  have hp010 : d.mFslFormat ≠ YCBCR_P010 := by
    intro h
    obtain ⟨info, -, hmem, hid⟩ := entry_of_layout hs hg
    have hno : ∀ l v f u, ∀ info ∈ formats ⟨l, v, f, u⟩, info.id ≠ YCBCR_P010 := by decide +kernel
    exact hno _ _ _ _ info hmem (hid.trans h)
  by_contra hnone
  simp only [not_or, paddedFormats, List.mem_cons, List.not_mem_nil, or_false] at hnone
  obtain ⟨hrgb, ⟨p1, p2, p3, p4, p5, p6, p7⟩, ⟨t1, t2⟩, ⟨y1, y2⟩, z1, z2⟩ := hnone
  have hnil : d.layout build = none := by
    simp [MemoryDesc.layout, hrgb, hblob, hraw, hp010, p1, p2, p3, p4, p5, p6, p7, t1, t2, y1, y2,
      z1, z2]
  rw [MemoryDesc.checkFormat, hnil] at hm
  split at hm <;> cases hm

end Formats

/-- CORRECT: for every RGB or YUV format of both (the raw ones aside), every width and height up to
    16384 and every usage, stride and size of the two layouts agree exactly if the request is
    `Aligned`. -/
theorem layouts_agree_iff {build : Build} {d d' : MemoryDesc} {desc : Descriptor} {stride : ℕ}
    {out : BufferInfo} (hs : SameRequest build d desc) (hw : 1 ≤ d.mWidth ∧ d.mWidth ≤ 16384)
    (hh : 1 ≤ d.mHeight ∧ d.mHeight ≤ 16384) (hraw : d.mFslFormat ∉ [BLOB, RAW16, FORMAT_RAW16])
    (hm : d.checkFormat build = .ok d') (hg : dmabuf_layout build desc = some (stride, out)) :
    d'.mStride = stride ∧ d'.mSize = out.total_size ↔ Aligned build d := by
  simp only [List.mem_cons, List.not_mem_nil, or_false, not_or] at hraw
  have hagree : Agrees build d stride out := by
    rcases supported_formats hs hm hg hraw.1 hraw.2.2 with h | h | h | h | h
    · exact rgb_agrees hs hw.2 hh.2 h hg
    · exact padded_agrees hs hw.2 hh.2 h hg
    · exact tiled_agrees hs hw.2 hh.2 h hg
    · exact triplanar_agrees hs hw.2 hh.2 h hg
    · exact yuv422_agrees hs hw.1 hw.2 hh.2 h hg
  obtain ⟨aw, size, bpp, hl, rfl, hle, hiff⟩ := hagree
  rw [MemoryDesc.checkFormat, if_neg (by omega), hl] at hm
  rw [Except.ok.injEq] at hm
  have haw : aw < 2 ^ 31 := by omega
  rw [← hiff, ← hm]
  simp only [int32_of_lt haw, true_and]

theorem layouts_agree_rgba8888 :
    SameRequest ⟨false, false, false, false⟩ ⟨0, 1920, 1080, RGBA_8888, 0, 0, 0, 0⟩
      ⟨1920, 1080, RGBA_8888, 0, 0, 0⟩ ∧
    ((1920 : ℤ) = (1920 : ℕ) ∧ (8355840 : ℤ) = (8355840 : ℕ) ↔
      Aligned ⟨false, false, false, false⟩ ⟨0, 1920, 1080, RGBA_8888, 0, 0, 0, 0⟩) :=
  ⟨⟨rfl, rfl, rfl, rfl, rfl, rfl⟩,
    @layouts_agree_iff ⟨false, false, false, false⟩ ⟨0, 1920, 1080, RGBA_8888, 0, 0, 0, 0⟩
      ⟨0, 1920, 1080, RGBA_8888, 1920, 4, 8355840, 0⟩ ⟨1920, 1080, RGBA_8888, 0, 0, 0⟩ 1920
      ⟨[7680], [8294400], [0], 8355840⟩ ⟨rfl, rfl, rfl, rfl, rfl, rfl⟩ (by decide) (by decide)
      (by decide) rfl rfl⟩

/-- A padded YUYV buffer of 16 by 1 pixels: 512 bytes for the driver, 128 for `checkFormat`. -/
theorem layouts_differ_yuyv :
    ∃ d' stride out, SameRequest ⟨false, false, false, false⟩
        ⟨0, 16, 1, YCBCR_422_I, 0, 0, 0, USAGE_PADDING_BUFFER⟩
        ⟨16, 1, YCBCR_422_I, USAGE_PADDING_BUFFER, 0, 0⟩ ∧
      MemoryDesc.checkFormat ⟨false, false, false, false⟩
        ⟨0, 16, 1, YCBCR_422_I, 0, 0, 0, USAGE_PADDING_BUFFER⟩ = .ok d' ∧
      dmabuf_layout ⟨false, false, false, false⟩
        ⟨16, 1, YCBCR_422_I, USAGE_PADDING_BUFFER, 0, 0⟩ = some (stride, out) ∧
      ¬(d'.mStride = stride ∧ d'.mSize = out.total_size) := by
  refine ⟨⟨0, 16, 1, YCBCR_422_I, 16, 0, 128, USAGE_PADDING_BUFFER⟩, 16, ⟨[32], [128], [0], 512⟩,
    ⟨rfl, rfl, rfl, rfl, rfl, rfl⟩, rfl, rfl, ?_⟩
  decide

end ImxHal.Gralloc
