import ImxHal.Gralloc.Allocator

/-! @src display/gralloc/driver_helpers.cpp (drv_pixel_width_height_alignment, drv_stride_from_format,
    drv_size_from_format, drv_buffer_info_calculation) | name:Exact layout | scheme:table |
    family:buffer layout

    The driver computes a layout in 32 bits, from a width and a height that the client chooses. The same
    layout without a bound on the numbers is what it should be:

        ALIGN, DIV_ROUND_UP   32 bits ──▶ strides, sizes, offsets, total_size
        roundUp, ceilDiv      ℕ       ──▶ strides, sizes, offsets, total_size

    Each of its numbers is at least the one of the driver, and where one of them is larger the sums no longer
    agree. -/

namespace ImxHal.Gralloc.Exact

/-! ### Without a bound -/

def roundUp (x n : ℕ) : ℕ := (x + (n - 1)) / n * n

def ceilDiv (x n : ℕ) : ℕ := (x + n - 1) / n

/-- What width and height are aligned to. -/
def units (info : FormatInfo) (desc : Descriptor) : ℕ × ℕ :=
  if info.is_rgb then (tile_alignment desc, tile_alignment desc)
  else if desc.pixel_format = YV12 ∨ desc.pixel_format = YCbCr_420_P then (32, 4)
  else if desc.pixel_format = NV12_TILED ∨ desc.pixel_format = P010_TILED then (256, 256)
  else if info.is_yuv then (16, if has desc.usage USAGE_PADDING_BUFFER then 16 else 4)
  else (1, 1)

/-- The formats whose width is their stride in bytes, at ten bits a pixel. -/
def tenBit (desc : Descriptor) : Bool :=
  desc.pixel_format = P010 ∨ desc.pixel_format = P010_TILED_COMPRESSED ∨ desc.pixel_format = P010_TILED

def width (info : FormatInfo) (desc : Descriptor) : ℕ :=
  roundUp (if tenBit desc then desc.width * 5 / 4 else desc.width) (units info desc).1

def height (info : FormatInfo) (desc : Descriptor) : ℕ := roundUp desc.height (units info desc).2

/-- The formats whose height is aligned once more. -/
def alignsHeight (fourcc : Fourcc) : Bool := fourcc ∈ [.NV12, .NV21, .YUV420, .YVU420, .YUYV]

def planeHeight (fourcc : Fourcc) (h : ℕ) (plane : Plane) : ℕ :=
  ceilDiv (if alignsHeight fourcc then roundUp h 4 else h) plane.vertical_subsampling

def rowBits (w : ℕ) (plane : Plane) : ℕ := ceilDiv w plane.horizontal_subsampling * plane.bits_per_pixel

/-- Whether the stride is computed from the bits of a row. -/
def byRow (fourcc : Fourcc) (modifier : Modifier) : Bool := modifier = .LINEAR ∧ fourcc ≠ .NV15

def stride (fourcc : Fourcc) (modifier : Modifier) (w p : ℕ) (plane : Plane) : ℕ :=
  if byRow fourcc modifier then
    let stride_in_bytes := roundUp (rowBits w plane) 8 / 8
    if fourcc = .YVU420 then roundUp stride_in_bytes (if p = 0 then 32 else 16) else stride_in_bytes
  else w

def size (fourcc : Fourcc) (modifier : Modifier) (w h p : ℕ) (plane : Plane) : ℕ :=
  stride fourcc modifier w p plane * planeHeight fourcc h plane

/-- The planes from number `p` and byte `offset` on. -/
def loop (fourcc : Fourcc) (modifier : Modifier) (w ah h : ℕ) : List Plane → ℕ → ℕ → BufferInfo
  | [], _, _ => ⟨[], [], [], 0⟩
  | plane :: planes, p, offset =>
    let rest := loop fourcc modifier w ah h planes (p + 1) (offset + size fourcc modifier w h p plane)
    ⟨stride fourcc modifier w p plane :: rest.strides, size fourcc modifier w h p plane :: rest.sizes,
      offset :: rest.offsets, size fourcc modifier w ah p plane + rest.total_size⟩

/-- The buffers with extra room for the decoder. -/
def padded (info : FormatInfo) (desc : Descriptor) : Bool :=
  info.is_yuv && has desc.usage USAGE_PADDING_BUFFER &&
    decide (desc.pixel_format ∈ [YCbCr_420_SP, YCRCB_420_SP, NV12_G1_TILED, NV12_G2_TILED,
      NV12_G2_TILED_COMPRESSED, P010, P010_TILED_COMPRESSED])

def padding (info : FormatInfo) (desc : Descriptor) (w h : ℕ) : ℕ :=
  if padded info desc then w * h / 4 + 32
  else if info.is_rgb && has desc.usage USAGE_GPU_TILED_VIV then 128
  else 0

def layout (info : FormatInfo) (desc : Descriptor) : ℕ × BufferInfo :=
  let planes := loop info.fourcc info.modifier (width info desc) (height info desc) desc.height
    (layout_from_format info.fourcc) 0 0
  (width info desc, { planes with
    total_size := planes.total_size + padding info desc (width info desc) (height info desc) })

/-! ### What is to hold of a layout -/

/-- The planes follow one another without overlap, inside of the buffer. -/
structure Placed (out : BufferInfo) : Prop where
  first : ∀ o, out.offsets[0]? = some o → o = 0
  contiguous : ∀ (p o s o' : ℕ), out.offsets[p]? = some o → out.sizes[p]? = some s →
    out.offsets[p + 1]? = some o' → o' = o + s
  disjoint : ∀ (p q o s o' : ℕ), p < q → out.offsets[p]? = some o → out.sizes[p]? = some s →
    out.offsets[q]? = some o' → o + s ≤ o'
  contained : ∀ (p o s : ℕ), out.offsets[p]? = some o → out.sizes[p]? = some s → o + s ≤ out.total_size

/-- The layout of the driver is the exact one, and its planes are in place. -/
def Right (build : Build) (desc : Descriptor) : Prop :=
  ∃ info out, getPixleFormatInfo build desc.pixel_format = some info ∧ dmabuf_layout build desc = some out ∧
    out = layout info desc ∧ Placed out.2

/-- The numbers that have to fit in 32 bits. -/
structure NoWrap (info : FormatInfo) (desc : Descriptor) : Prop where
  width : width info desc < 2 ^ 32 ∧ (tenBit desc = true → desc.width * 5 < 2 ^ 32)
  height : layout_from_format info.fourcc ≠ [] → height info desc < 2 ^ 32
  rows : byRow info.fourcc info.modifier = true → ∀ plane ∈ layout_from_format info.fourcc,
    rowBits (Exact.width info desc) plane < 2 ^ 32
  sizes : ∀ (p : ℕ) (plane : Plane), (layout_from_format info.fourcc)[p]? = some plane →
    size info.fourcc info.modifier (Exact.width info desc) (Exact.height info desc) p plane < 2 ^ 32
  offsets : ∀ o ∈ (layout info desc).2.offsets, o < 2 ^ 32
  padding : padded info desc = true → Exact.width info desc * Exact.height info desc < 2 ^ 32

/-! ### Rounding -/

theorem le_roundUp (x : ℕ) {n : ℕ} (hn : 0 < n) : x ≤ roundUp x n := by
  have hdiv := Nat.div_add_mod (x + (n - 1)) n
  have hmod := Nat.mod_lt (x + (n - 1)) hn
  rw [roundUp, Nat.mul_comm]
  omega

theorem roundUp_of_dvd {x n : ℕ} (hn : 0 < n) (h : n ∣ x) : roundUp x n = x := by
  obtain ⟨k, rfl⟩ := h
  rw [roundUp, Nat.mul_add_div hn, Nat.div_eq_of_lt (by omega), Nat.add_zero, Nat.mul_comm]

theorem roundUp_mono {x y : ℕ} (h : x ≤ y) (n : ℕ) : roundUp x n ≤ roundUp y n :=
  Nat.mul_le_mul_right n (Nat.div_le_div_right (by omega))

theorem dvd_roundUp (x n : ℕ) : n ∣ roundUp x n := Dvd.intro_left _ rfl

theorem ceilDiv_mono {x y : ℕ} (h : x ≤ y) (n : ℕ) : ceilDiv x n ≤ ceilDiv y n :=
  Nat.div_le_div_right (by omega)

theorem u32_le (x : ℕ) : u32 x ≤ x := Nat.mod_le x _

theorem u32_eq_iff {x : ℕ} : u32 x = x ↔ x < 2 ^ 32 := Nat.mod_eq_iff_lt (by decide)

theorem ALIGN_le (x n : ℕ) : ALIGN x n ≤ roundUp x n :=
  Nat.mul_le_mul_right n (Nat.div_le_div_right (u32_le _))

theorem DIV_ROUND_UP_le (x n : ℕ) : DIV_ROUND_UP x n ≤ ceilDiv x n := Nat.div_le_div_right (u32_le _)

/-- Up to a multiple of the alignment nothing is rounded beyond it. -/
theorem roundUp_lt_iff {x n m : ℕ} (hn : 0 < n) (hm : n ∣ m) : roundUp x n < m ↔ x + (n - 1) < m := by
  obtain ⟨k, rfl⟩ := hm
  rw [roundUp, Nat.mul_comm n k, Nat.mul_lt_mul_right hn, Nat.div_lt_iff_lt_mul hn]

theorem ALIGN_eq_iff {x n : ℕ} (hn : 0 < n) (h : n ∣ 2 ^ 32) : ALIGN x n = roundUp x n ↔ roundUp x n < 2 ^ 32 := by
  constructor
  · intro heq
    have hlt : ALIGN x n < 2 ^ 32 :=
      lt_of_le_of_lt (Nat.div_mul_le_self _ _) (Nat.mod_lt _ (by decide))
    omega
  · intro hlt
    rw [roundUp_lt_iff hn h] at hlt
    rw [ALIGN, u32, Nat.mod_eq_of_lt hlt, roundUp]

/-- An alignment that does not fit gives 0. -/
theorem ALIGN_zero {x n : ℕ} (hn : 0 < n) (h : n ∣ 2 ^ 32) (hx : x < 2 ^ 32) (hlt : ¬ roundUp x n < 2 ^ 32) :
    ALIGN x n = 0 := by
  have hle := Nat.le_of_dvd (by decide) h
  rw [roundUp_lt_iff hn h] at hlt
  have hmod : u32 (x + (n - 1)) < n := by
    rw [u32]
    omega
  rw [ALIGN, Nat.div_eq_of_lt hmod, Nat.zero_mul]

/-! ### The entries of the table -/

/-- What the stages rely on. -/
structure EntryFacts (info : FormatInfo) : Prop where
  plain : info.is_rgb = false → info.is_yuv = false → info.fourcc ∈ [Fourcc.R8, .R16] ∧ info.modifier = .LINEAR
  yv12 : info.fourcc = .YVU420 → info.id = YV12 ∧ info.is_rgb = false
  tenBit : info.id ∈ [P010, P010_TILED_COMPRESSED, P010_TILED] → info.is_rgb = false ∧ info.is_yuv = true
  p010 : info.id ≠ YCBCR_P010
  decoder : info.id ∈ [YCbCr_420_SP, YCRCB_420_SP, NV12_G1_TILED, NV12_G2_TILED, NV12_G2_TILED_COMPRESSED, P010,
    P010_TILED_COMPRESSED] → layout_from_format info.fourcc ≠ []

theorem entryFacts {build : Build} {info : FormatInfo} (h : info ∈ formats build) : EntryFacts info := by
  obtain ⟨l, v, f, u⟩ := build
  have hplain : ∀ l v f u, ∀ info ∈ formats ⟨l, v, f, u⟩, info.is_rgb = false → info.is_yuv = false →
      info.fourcc ∈ [Fourcc.R8, .R16] ∧ info.modifier = .LINEAR := by decide +kernel
  have hyv12 : ∀ l v f u, ∀ info ∈ formats ⟨l, v, f, u⟩, info.fourcc = .YVU420 →
      info.id = YV12 ∧ info.is_rgb = false := by decide +kernel
  have hten : ∀ l v f u, ∀ info ∈ formats ⟨l, v, f, u⟩, info.id ∈ [P010, P010_TILED_COMPRESSED, P010_TILED] →
      info.is_rgb = false ∧ info.is_yuv = true := by decide +kernel
  have hp010 : ∀ l v f u, ∀ info ∈ formats ⟨l, v, f, u⟩, info.id ≠ YCBCR_P010 := by decide +kernel
  have hdecoder : ∀ l v f u, ∀ info ∈ formats ⟨l, v, f, u⟩, info.id ∈ [YCbCr_420_SP, YCRCB_420_SP, NV12_G1_TILED,
      NV12_G2_TILED, NV12_G2_TILED_COMPRESSED, P010, P010_TILED_COMPRESSED] →
      layout_from_format info.fourcc ≠ [] := by decide +kernel
  exact ⟨hplain _ _ _ _ _ h, hyv12 _ _ _ _ _ h, hten _ _ _ _ _ h, hp010 _ _ _ _ _ h, hdecoder _ _ _ _ _ h⟩

/-- Every plane of a layout. -/
structure PlaneFacts (fourcc : Fourcc) (plane : Plane) : Prop where
  horizontal : plane.horizontal_subsampling = 1 ∨ plane.horizontal_subsampling = 2
  vertical : plane.vertical_subsampling = 1 ∨ plane.vertical_subsampling = 2
  bits : 0 < plane.bits_per_pixel ∧ (fourcc ≠ .NV15 → 8 ∣ plane.bits_per_pixel)
  plain : fourcc ∈ [Fourcc.R8, .R16] → plane.horizontal_subsampling = 1 ∧ plane.vertical_subsampling = 1

theorem planeFacts {fourcc : Fourcc} {plane : Plane} (h : plane ∈ layout_from_format fourcc) :
    PlaneFacts fourcc plane := by
  cases fourcc <;> simp [layout_from_format, packed_1bpp_layout, packed_2bpp_layout, packed_3bpp_layout,
    packed_4bpp_layout, packed_8bpp_layout, biplanar_yuv_420_layout, biplanar_yuv_422_layout,
    triplanar_yuv_420_layout, biplanar_yuv_nv15_layout] at h <;>
    (rcases h with rfl | rfl | rfl <;> constructor <;> decide)

section
variable {build : Build} {info : FormatInfo} {desc : Descriptor}

/-- The alignments are powers of two. -/
theorem units_cases (info : FormatInfo) (desc : Descriptor) : (units info desc).1 ∈ [1, 16, 32, 64, 256] ∧
    (units info desc).2 ∈ [1, 4, 16, 64, 256] := by
  rw [units, tile_alignment]
  split_ifs <;> decide

theorem units_fst (info : FormatInfo) (desc : Descriptor) :
    0 < (units info desc).1 ∧ (units info desc).1 ∣ 2 ^ 32 := by
  have hmem := (units_cases info desc).1
  simp only [List.mem_cons, List.not_mem_nil, or_false] at hmem
  rcases hmem with h | h | h | h | h <;> rw [h] <;> decide

theorem units_snd (info : FormatInfo) (desc : Descriptor) :
    0 < (units info desc).2 ∧ (units info desc).2 ∣ 2 ^ 32 := by
  have hmem := (units_cases info desc).2
  simp only [List.mem_cons, List.not_mem_nil, or_false] at hmem
  rcases hmem with h | h | h | h | h <;> rw [h] <;> decide

/-- Only the formats of one plain plane have a width and a height that are not aligned. -/
theorem units_dvd (hfacts : EntryFacts info) (desc : Descriptor) : info.fourcc ∈ [Fourcc.R8, .R16] ∨
    16 ∣ (units info desc).1 ∧ 4 ∣ (units info desc).2 := by
  rw [units, tile_alignment]
  split_ifs with hrgb _ _ _ _ hyuv
  all_goals first
    | exact .inr (by decide)
    | exact .inl (hfacts.plain (by simpa using hrgb) (by simpa using hyuv)).1

/-- The width that is aligned, as the driver computes it. -/
def baseWidth (desc : Descriptor) : ℕ := if tenBit desc then u32 (desc.width * 5) / 4 else desc.width

theorem ALIGN_one {x : ℕ} (hx : x < 2 ^ 32) : ALIGN x 1 = x := by
  rw [ALIGN, Nat.sub_self, Nat.add_zero, u32, Nat.mod_eq_of_lt hx, Nat.div_one, Nat.mul_one]

theorem alignment_eq (hi : getPixleFormatInfo build desc.pixel_format = some info) (hw : desc.width < 2 ^ 32)
    (hh : desc.height < 2 ^ 32) : drv_pixel_width_height_alignment build desc =
      some (ALIGN (baseWidth desc) (units info desc).1, ALIGN desc.height (units info desc).2) := by
  obtain ⟨hmem, hid⟩ := getPixleFormatInfo_mem hi
  have hfacts := entryFacts hmem
  have hkind : kind_alignment info desc =
      (ALIGN desc.width (units info desc).1, ALIGN desc.height (units info desc).2) := by
    rw [kind_alignment, units]
    split_ifs <;> first | rfl | rw [ALIGN_one hw, ALIGN_one hh]
  have hten (hf : desc.pixel_format ∈ [P010, P010_TILED_COMPRESSED, P010_TILED]) :=
    hfacts.tenBit (by rw [hid]; exact hf)
  simp only [drv_pixel_width_height_alignment, hi, hkind]
  by_cases h16 : desc.pixel_format = P010 ∨ desc.pixel_format = P010_TILED_COMPRESSED
  · have hf : desc.pixel_format ∈ [P010, P010_TILED_COMPRESSED, P010_TILED] := by
      rcases h16 with h | h <;> rw [h] <;> decide
    have hbase : tenBit desc = true := by rcases h16 with h | h <;> simp [tenBit, h]
    have hunit : (units info desc).1 = 16 := by
      rcases h16 with h | h <;> simp [units, hten hf, h, YV12, YCbCr_420_P, NV12_TILED, P010_TILED, P010,
        P010_TILED_COMPRESSED]
    rw [if_pos h16, baseWidth, if_pos hbase, hunit]
  · rw [if_neg h16]
    by_cases h256 : desc.pixel_format = P010_TILED
    · have hf : desc.pixel_format ∈ [P010, P010_TILED_COMPRESSED, P010_TILED] := by
        rw [h256]
        decide
      have hbase : tenBit desc = true := by simp [tenBit, h256]
      have hunit : (units info desc).1 = 256 := by
        simp [units, hten hf, h256, YV12, YCbCr_420_P, NV12_TILED, P010_TILED]
      rw [if_pos h256, baseWidth, if_pos hbase, hunit]
    · have hbase : tenBit desc = false := by
        simp only [tenBit, decide_eq_false_iff_not]
        tauto
      rw [if_neg h256, baseWidth, hbase, if_neg Bool.false_ne_true]

/-- A stride of ten bits a pixel is computed from five quarters of the width. -/
theorem base_eq_iff (hw : desc.width < 2 ^ 32) : ALIGN (baseWidth desc) (units info desc).1 = width info desc ↔
    width info desc < 2 ^ 32 ∧ (tenBit desc = true → desc.width * 5 < 2 ^ 32) := by
  obtain ⟨hpos, hdvd⟩ := units_fst info desc
  rw [baseWidth, width]
  cases hten : tenBit desc with
  | false => simpa using ALIGN_eq_iff hpos hdvd
  | true =>
    simp only [if_true, forall_const]
    by_cases hfive : desc.width * 5 < 2 ^ 32
    · rw [u32, Nat.mod_eq_of_lt hfive]
      rw [and_iff_left hfive]
      exact ALIGN_eq_iff hpos hdvd
    · simp only [hfive, and_false, iff_false]
      intro heq
      -- five times the width is beyond 32 bits, and a quarter of the rest is less than is missing
      have hcode : ALIGN (u32 (desc.width * 5) / 4) (units info desc).1 ≤
          roundUp (u32 (desc.width * 5) / 4) (units info desc).1 := ALIGN_le _ _
      have hsplit : desc.width * 5 / 4 = u32 (desc.width * 5) / 4 + 2 ^ 30 * (desc.width * 5 / 2 ^ 32) := by
        rw [u32]
        omega
      have hq : 0 < desc.width * 5 / 2 ^ 32 := Nat.div_pos (by omega) (by decide)
      have hshift : roundUp (desc.width * 5 / 4) (units info desc).1 =
          roundUp (u32 (desc.width * 5) / 4) (units info desc).1 + 2 ^ 30 * (desc.width * 5 / 2 ^ 32) := by
        obtain ⟨k, hk⟩ : (units info desc).1 ∣ 2 ^ 30 := by
          have hmem := (units_cases info desc).1
          simp only [List.mem_cons, List.not_mem_nil, or_false] at hmem
          rcases hmem with h | h | h | h | h <;> rw [h] <;> decide
        rw [hsplit, hk, Nat.mul_assoc, roundUp, roundUp, Nat.add_right_comm, Nat.add_mul_div_left _ _ hpos,
          Nat.add_mul, Nat.mul_comm (units info desc).1]
      omega

/-! ### A plane -/

section
variable {fourcc : Fourcc} {modifier : Modifier} {plane : Plane}

theorem DIV_ROUND_UP_eq {x n : ℕ} (hx : x + n - 1 < 2 ^ 32) : DIV_ROUND_UP x n = ceilDiv x n := by
  rw [DIV_ROUND_UP, ceilDiv, u32, Nat.mod_eq_of_lt hx]

theorem drv_height_eq (fourcc : Fourcc) (x : ℕ) (plane : Plane) : drv_height_from_format fourcc x plane =
    DIV_ROUND_UP (if alignsHeight fourcc then ALIGN x 4 else x) plane.vertical_subsampling := by
  cases fourcc <;> rfl

/-- The height of a plane is at most the exact one of any larger height. -/
theorem height_le {x y : ℕ} (h : x ≤ y) : drv_height_from_format fourcc x plane ≤ planeHeight fourcc y plane := by
  rw [drv_height_eq, planeHeight]
  refine (DIV_ROUND_UP_le _ _).trans (ceilDiv_mono ?_ _)
  split_ifs
  · exact (ALIGN_le x 4).trans (roundUp_mono h 4)
  · exact h

/-- A height that is rounded up to a multiple of four, or not at all, is the exact one. -/
theorem height_eq {x y : ℕ} (hfacts : PlaneFacts fourcc plane) (hxy : x ≤ y) (hy : y < 2 ^ 32)
    (hunit : fourcc ∈ [Fourcc.R8, .R16] ∨ 4 ∣ y) :
    drv_height_from_format fourcc x plane = planeHeight fourcc x plane := by
  rw [drv_height_eq, planeHeight]
  rcases hunit with hplain | hdvd
  · have hno : alignsHeight fourcc = false := by
      simp only [List.mem_cons, List.not_mem_nil, or_false] at hplain
      rcases hplain with rfl | rfl <;> rfl
    rw [hno, if_neg Bool.false_ne_true, if_neg Bool.false_ne_true, (hfacts.plain hplain).2,
      DIV_ROUND_UP_eq (by omega)]
  · have hround : ALIGN x 4 = roundUp x 4 := (ALIGN_eq_iff (by decide) (by decide)).mpr <|
      (roundUp_lt_iff (by decide) (by decide)).mpr (by omega)
    have hle : roundUp x 4 ≤ y := (roundUp_mono hxy 4).trans (roundUp_of_dvd (by decide) hdvd).le
    rw [hround]
    refine DIV_ROUND_UP_eq ?_
    rcases hfacts.vertical with hv | hv <;> rw [hv] <;> split_ifs <;> omega

theorem planeHeight_pos (hfacts : PlaneFacts fourcc plane) {y : ℕ} (hy : 0 < y) : 0 < planeHeight fourcc y plane := by
  rw [planeHeight, ceilDiv]
  have hle := le_roundUp y (n := 4) (by decide)
  rcases hfacts.vertical with hv | hv <;> rw [hv] <;> split_ifs <;> omega

theorem drv_height_zero (hfacts : PlaneFacts fourcc plane) : drv_height_from_format fourcc 0 plane = 0 := by
  have halign : (if alignsHeight fourcc then ALIGN 0 4 else 0) = 0 := by
    split_ifs <;> rfl
  rw [drv_height_eq, halign]
  rcases hfacts.vertical with hv | hv <;> rw [hv] <;> rfl

/-- The width of a plane fits where that of the buffer does. -/
theorem plane_width_eq (hfacts : PlaneFacts fourcc plane) {w : ℕ} (hw : w < 2 ^ 32)
    (hunit : fourcc ∈ [Fourcc.R8, .R16] ∨ 16 ∣ w) :
    DIV_ROUND_UP w plane.horizontal_subsampling = ceilDiv w plane.horizontal_subsampling := by
  refine DIV_ROUND_UP_eq ?_
  rcases hunit with hplain | hdvd
  · rw [(hfacts.plain hplain).1]
    omega
  · rcases hfacts.horizontal with h | h <;> rw [h] <;> omega

theorem rowBits_dvd (hfacts : PlaneFacts fourcc plane) (hne : fourcc ≠ .NV15) (w : ℕ) : 8 ∣ rowBits w plane :=
  Dvd.dvd.mul_left (hfacts.bits.2 hne) _

/-- The bytes of a row, counted in 32 bits. -/
theorem row_bytes {bits : ℕ} (h : 8 ∣ bits) : ALIGN (u32 bits) 8 / 8 = u32 bits / 8 ∧ roundUp bits 8 / 8 = bits / 8 := by
  obtain ⟨k, rfl⟩ := h
  rw [roundUp_of_dvd (by decide) (Dvd.intro k rfl), ALIGN, u32, u32]
  omega

/-- The bytes of a YV12 row are aligned already. -/
theorem yv12_aligned {w : ℕ} (h32 : 32 ∣ w) (hbits : plane.bits_per_pixel = 8) (hfacts : PlaneFacts fourcc plane)
    {p : ℕ} (hp : p = 0 → plane.horizontal_subsampling = 1) : (if p = 0 then 32 else 16) ∣ rowBits w plane / 8 := by
  rw [rowBits, hbits, Nat.mul_div_cancel _ (by decide), ceilDiv]
  split_ifs with hzero
  · rw [hp hzero, Nat.add_sub_cancel, Nat.div_one]
    exact h32
  · rcases hfacts.horizontal with h | h <;> rw [h] <;> omega

/-- The stride is the exact one if and only if the bits of a row can be counted. -/
theorem stride_eq_iff (hfacts : PlaneFacts fourcc plane) {w : ℕ} (hw : w < 2 ^ 32)
    (hunit : fourcc ∈ [Fourcc.R8, .R16] ∨ 16 ∣ w) {p : ℕ} (hyvu : fourcc = .YVU420 →
      32 ∣ w ∧ plane.bits_per_pixel = 8 ∧ (p = 0 → plane.horizontal_subsampling = 1)) :
    drv_stride_from_format fourcc modifier w p plane = stride fourcc modifier w p plane ↔
      (byRow fourcc modifier = true → rowBits w plane < 2 ^ 32) := by
  by_cases hrow : modifier = .LINEAR ∧ fourcc ≠ .NV15
  · have hbyRow : byRow fourcc modifier = true := by simpa [byRow] using hrow
    have h8 := rowBits_dvd hfacts hrow.2 w
    obtain ⟨hcode, hexact⟩ := row_bytes h8
    have hbits : DIV_ROUND_UP w plane.horizontal_subsampling * plane.bits_per_pixel = rowBits w plane := by
      rw [plane_width_eq hfacts hw hunit, rowBits]
    have hcount : u32 (rowBits w plane) / 8 = rowBits w plane / 8 ↔ rowBits w plane < 2 ^ 32 := by
      rw [← u32_eq_iff]
      simp only [u32]
      omega
    simp only [drv_stride_from_format, stride, if_pos hrow, hbyRow, if_true, forall_const, hbits, hcode, hexact]
    by_cases hfourcc : fourcc = .YVU420
    · obtain ⟨h32, hbpp, hp⟩ := hyvu hfourcc
      have hn := yv12_aligned h32 hbpp hfacts hp
      -- both are aligned already, the one in 32 bits too
      have hdvd : (if p = 0 then 32 else 16) ∣ u32 (rowBits w plane) / 8 := by
        rw [u32]
        split_ifs at hn ⊢ <;> omega
      have hlt : u32 (rowBits w plane) / 8 < 2 ^ 29 := by
        rw [u32]
        omega
      simp only [if_pos hfourcc]
      rw [← hcount]
      split_ifs at hn hdvd ⊢
      · rw [(ALIGN_eq_iff (by decide) (by decide)).mpr (by rw [roundUp_of_dvd (by decide) hdvd]; omega),
          roundUp_of_dvd (by decide) hdvd, roundUp_of_dvd (by decide) hn]
      · rw [(ALIGN_eq_iff (by decide) (by decide)).mpr (by rw [roundUp_of_dvd (by decide) hdvd]; omega),
          roundUp_of_dvd (by decide) hdvd, roundUp_of_dvd (by decide) hn]
    · simp only [if_neg hfourcc]
      exact hcount
  · have hbyRow : byRow fourcc modifier = false := by
      rw [Bool.eq_false_iff]
      simpa [byRow] using hrow
    simp only [drv_stride_from_format, stride, if_neg hrow, hbyRow, Bool.false_eq_true, if_false, false_implies]

theorem stride_pos (hfacts : PlaneFacts fourcc plane) {w : ℕ} (hw : 0 < w) (p : ℕ) :
    0 < stride fourcc modifier w p plane := by
  have hwidth : 0 < ceilDiv w plane.horizontal_subsampling := by
    rw [ceilDiv]
    rcases hfacts.horizontal with h | h <;> rw [h] <;> omega
  have hbits : 0 < rowBits w plane := Nat.mul_pos hwidth hfacts.bits.1
  have hbytes : 0 < roundUp (rowBits w plane) 8 / 8 := by
    have hle := le_roundUp (rowBits w plane) (n := 8) (by decide)
    obtain ⟨k, hk⟩ := dvd_roundUp (rowBits w plane) 8
    omega
  cases hrow : byRow fourcc modifier with
  | false => simpa only [stride, hrow, Bool.false_eq_true, if_false] using hw
  | true =>
    simp only [stride, hrow, if_true]
    split_ifs
    · exact hbytes.trans_le (le_roundUp _ (by decide))
    · exact hbytes.trans_le (le_roundUp _ (by decide))
    · exact hbytes

end

/-! ### All planes -/

section
variable {fourcc : Fourcc} {modifier : Modifier}

/-- What a loop over the planes lists for each of them, by the number of the plane. -/
theorem getElem?_of_planes {f : List Plane → ℕ → ℕ → List ℕ} {g : ℕ → Plane → ℕ} (hnil : ∀ p o, f [] p o = [])
    (hcons : ∀ plane planes p o, ∃ o', f (plane :: planes) p o = g p plane :: f planes (p + 1) o')
    (planes : List Plane) (p o k : ℕ) : (f planes p o)[k]? = planes[k]?.map (g (p + k)) := by
  induction planes generalizing p o k with
  | nil => simp [hnil]
  | cons plane planes ih =>
    obtain ⟨o', hnext⟩ := hcons plane planes p o
    rw [hnext]
    cases k with
    | zero => rfl
    | succ k => simpa [Nat.add_assoc, Nat.add_comm 1] using ih (p + 1) o' k

theorem plane_loop_strides (aw ah h : ℕ) (planes : List Plane) (p o k : ℕ) :
    (plane_loop fourcc modifier aw ah h planes p o).strides[k]? =
      planes[k]?.map (drv_stride_from_format fourcc modifier aw (p + k)) :=
  getElem?_of_planes (f := fun planes p o => (plane_loop fourcc modifier aw ah h planes p o).strides)
    (fun _ _ => rfl) (fun _ _ _ _ => ⟨_, rfl⟩) planes p o k

theorem loop_strides (w ah h : ℕ) (planes : List Plane) (p o k : ℕ) :
    (loop fourcc modifier w ah h planes p o).strides[k]? =
      planes[k]?.map (stride fourcc modifier w (p + k)) :=
  getElem?_of_planes (f := fun planes p o => (loop fourcc modifier w ah h planes p o).strides)
    (fun _ _ => rfl) (fun _ _ _ _ => ⟨_, rfl⟩) planes p o k

/-- The total of the driver is the exact one only where every plane of it is. -/
theorem loop_total (w ah ah' h h' : ℕ) (planes : List Plane) (p o o' : ℕ)
    (hstride : ∀ (k : ℕ) (plane : Plane), planes[k]? = some plane →
      drv_stride_from_format fourcc modifier w (p + k) plane = stride fourcc modifier w (p + k) plane)
    (hle : ah ≤ ah') :
    (plane_loop fourcc modifier w ah h planes p o).total_size ≤ (loop fourcc modifier w ah' h' planes p o').total_size ∧
      ((plane_loop fourcc modifier w ah h planes p o).total_size =
          (loop fourcc modifier w ah' h' planes p o').total_size →
        ∀ (k : ℕ) (plane : Plane), planes[k]? = some plane →
          u32 (stride fourcc modifier w (p + k) plane * drv_height_from_format fourcc ah plane) =
            size fourcc modifier w ah' (p + k) plane) := by
  induction planes generalizing p o o' with
  | nil => exact ⟨le_refl _, fun _ k plane h => by simp at h⟩
  | cons plane planes ih =>
    have hfirst := hstride 0 plane rfl
    rw [Nat.add_zero] at hfirst
    obtain ⟨hrest, hagree⟩ := ih (p + 1) (u32 (o + drv_size_from_format fourcc
      (stride fourcc modifier w p plane) h plane)) (o' + size fourcc modifier w h' p plane)
      fun k plane hk => by rw [Nat.add_right_comm, Nat.add_assoc]; exact hstride (k + 1) plane hk
    have hsize : drv_size_from_format fourcc (stride fourcc modifier w p plane) ah plane ≤
        size fourcc modifier w ah' p plane :=
      (u32_le _).trans (Nat.mul_le_mul_left _ (height_le hle))
    simp only [plane_loop, loop, hfirst]
    refine ⟨Nat.add_le_add hsize hrest, fun heq k plane' hk => ?_⟩
    have hboth := (add_eq_add_iff_eq_and_eq hsize hrest).mp heq
    cases k with
    | zero =>
      obtain rfl : plane = plane' := by simpa using hk
      exact hboth.1
    | succ k =>
      rw [Nat.add_comm k 1, ← Nat.add_assoc]
      exact hagree hboth.2 k plane' (by simpa using hk)

/-- The offsets of the driver are numbers of 32 bits. -/
theorem plane_loop_offsets (aw ah h : ℕ) (planes : List Plane) (p : ℕ) {o : ℕ} (ho : o < 2 ^ 32) :
    ∀ x ∈ (plane_loop fourcc modifier aw ah h planes p o).offsets, x < 2 ^ 32 := by
  induction planes generalizing p o with
  | nil => simp [plane_loop]
  | cons plane planes ih =>
    intro x hx
    rcases List.mem_cons.mp hx with rfl | hx
    · exact ho
    · exact ih (p + 1) (Nat.mod_lt _ (by decide)) x hx

/-- Where nothing wraps, the two loops run alike. -/
theorem loop_eq {w ah h : ℕ} (hle : h ≤ ah) {planes : List Plane} {p o o' : ℕ}
    (hplane : ∀ (k : ℕ) (plane : Plane), planes[k]? = some plane →
      drv_stride_from_format fourcc modifier w (p + k) plane = stride fourcc modifier w (p + k) plane ∧
        drv_height_from_format fourcc ah plane = planeHeight fourcc ah plane ∧
        drv_height_from_format fourcc h plane = planeHeight fourcc h plane ∧
        size fourcc modifier w ah (p + k) plane < 2 ^ 32)
    (hoffsets : ∀ x ∈ (loop fourcc modifier w ah h planes p o').offsets, x < 2 ^ 32) (ho : planes ≠ [] → o = o') :
    plane_loop fourcc modifier w ah h planes p o = loop fourcc modifier w ah h planes p o' := by
  induction planes generalizing p o o' with
  | nil => rfl
  | cons plane planes ih =>
    obtain rfl := ho (List.cons_ne_nil _ _)
    obtain ⟨hstride, hah, hh, hlt⟩ := hplane 0 plane rfl
    rw [Nat.add_zero] at hstride hlt
    have hsmaller : size fourcc modifier w h p plane ≤ size fourcc modifier w ah p plane := by
      refine Nat.mul_le_mul_left _ (ceilDiv_mono ?_ _)
      split_ifs
      · exact roundUp_mono hle 4
      · exact hle
    have hsize : drv_size_from_format fourcc (stride fourcc modifier w p plane) h plane =
        size fourcc modifier w h p plane := by
      rw [drv_size_from_format, hh]
      exact u32_eq_iff.mpr (hsmaller.trans_lt hlt)
    have haligned : drv_size_from_format fourcc (stride fourcc modifier w p plane) ah plane =
        size fourcc modifier w ah p plane := by
      rw [drv_size_from_format, hah]
      exact u32_eq_iff.mpr hlt
    have hrest : plane_loop fourcc modifier w ah h planes (p + 1) (u32 (o + size fourcc modifier w h p plane)) =
        loop fourcc modifier w ah h planes (p + 1) (o + size fourcc modifier w h p plane) := by
      refine ih ?_ (fun x hx => hoffsets x (List.mem_cons_of_mem _ hx)) fun hne => ?_
      · intro k plane' hk
        rw [Nat.add_right_comm, Nat.add_assoc]
        exact hplane (k + 1) plane' hk
      · -- the next plane has its offset in the list
        obtain ⟨next, planes, rfl⟩ := List.exists_cons_of_ne_nil hne
        exact u32_eq_iff.mpr (hoffsets _ (List.mem_cons_of_mem _ List.mem_cons_self))
    simp only [plane_loop, loop, hstride, hsize, haligned, hrest]

/-- An offset is what the sizes before it sum up to. -/
theorem loop_offset (w ah h : ℕ) (planes : List Plane) (p o : ℕ) {k x : ℕ}
    (hx : (loop fourcc modifier w ah h planes p o).offsets[k]? = some x) :
    x = o + ((loop fourcc modifier w ah h planes p o).sizes.take k).sum := by
  induction planes generalizing p o k with
  | nil => simp [loop] at hx
  | cons plane planes ih =>
    cases k with
    | zero => simpa [loop, eq_comm] using hx
    | succ k => simpa [loop, Nat.add_assoc] using ih (p + 1) (o + size fourcc modifier w h p plane) hx

/-- The planes are computed from the height, their room from the aligned one. -/
theorem loop_sum_le (w : ℕ) {ah h : ℕ} (hle : h ≤ ah) (planes : List Plane) (p o : ℕ) :
    (loop fourcc modifier w ah h planes p o).sizes.sum ≤ (loop fourcc modifier w ah h planes p o).total_size := by
  induction planes generalizing p o with
  | nil => exact le_refl _
  | cons plane planes ih =>
    have hsize : size fourcc modifier w h p plane ≤ size fourcc modifier w ah p plane := by
      refine Nat.mul_le_mul_left _ (ceilDiv_mono ?_ _)
      split_ifs
      · exact roundUp_mono hle 4
      · exact hle
    simpa [loop] using Nat.add_le_add hsize (ih (p + 1) _)

theorem take_sum_succ {sizes : List ℕ} {p s : ℕ} (hs : sizes[p]? = some s) :
    (sizes.take (p + 1)).sum = (sizes.take p).sum + s := by
  rw [List.take_add_one, hs, List.sum_append, Option.toList_some, List.sum_singleton]

theorem take_sum_mono (sizes : List ℕ) {p q : ℕ} (h : p ≤ q) : (sizes.take p).sum ≤ (sizes.take q).sum :=
  List.Sublist.sum_le_sum (List.take_sublist_take_left h) fun _ _ => Nat.zero_le _

/-- Planes that start where the sizes before them end are in place. -/
theorem placed_of {out : BufferInfo}
    (hoffset : ∀ k x, out.offsets[k]? = some x → x = (out.sizes.take k).sum)
    (hsum : out.sizes.sum ≤ out.total_size) : Placed out where
  first o ho := by simpa using hoffset 0 o ho
  contiguous p o s o' ho hs ho' := by
    rw [hoffset _ o' ho', hoffset _ o ho, take_sum_succ hs]
  disjoint p q o s o' hpq ho hs ho' := by
    have hmono := take_sum_mono out.sizes hpq
    rw [Nat.succ_eq_add_one, take_sum_succ hs] at hmono
    rw [hoffset _ o' ho', hoffset _ o ho]
    exact hmono
  contained p o s ho hs := by
    have hmono := take_sum_mono out.sizes (Nat.le_max_left (p + 1) out.sizes.length)
    rw [take_sum_succ hs, List.take_of_length_le (Nat.le_max_right _ _)] at hmono
    rw [hoffset _ o ho]
    exact hmono.trans hsum

theorem layout_placed (info : FormatInfo) (desc : Descriptor) : Placed (layout info desc).2 := by
  have hle : desc.height ≤ height info desc := le_roundUp _ (units_snd info desc).1
  refine placed_of (fun k x hx => ?_) ?_
  · simpa [layout] using loop_offset _ _ _ _ 0 0 hx
  · exact (loop_sum_le _ hle _ 0 0).trans (Nat.le_add_right _ _)

end

/-! ### The padding -/

theorem end_padding_eq (hfacts : EntryFacts info) (hid : info.id = desc.pixel_format) (aw ah : ℕ) :
    end_padding info desc aw ah = if padded info desc then u32 (u32 (aw * ah) / 4 + 32)
      else if info.is_rgb && has desc.usage USAGE_GPU_TILED_VIV then 128 else 0 := by
  have hno : decide (desc.pixel_format = YCBCR_P010) = false := by
    rw [decide_eq_false_iff_not, ← hid]
    exact hfacts.p010
  simp only [end_padding, padded, hno, Bool.and_false, Bool.false_eq_true, if_false]
  rfl

theorem padding_le (hfacts : EntryFacts info) (hid : info.id = desc.pixel_format) {aw ah w h : ℕ} (hw : aw ≤ w)
    (hh : ah ≤ h) : end_padding info desc aw ah ≤ padding info desc w h := by
  rw [end_padding_eq hfacts hid, padding]
  split_ifs
  · have hmul : u32 (aw * ah) ≤ w * h := (u32_le _).trans (Nat.mul_le_mul hw hh)
    exact (u32_le _).trans (Nat.add_le_add_right (Nat.div_le_div_right hmul) 32)
  · exact le_refl _
  · exact le_refl _

theorem padding_eq_iff (hfacts : EntryFacts info) (hid : info.id = desc.pixel_format) (w h : ℕ) :
    end_padding info desc w h = padding info desc w h ↔ (padded info desc = true → w * h < 2 ^ 32) := by
  rw [end_padding_eq hfacts hid, padding]
  cases padded info desc with
  | false => simp only [Bool.false_eq_true, if_false, false_implies]
  | true =>
    simp only [if_true, forall_const]
    generalize w * h = x
    simp only [u32]
    omega

/-! ### The layout -/

theorem height_eq_iff (info : FormatInfo) (desc : Descriptor) :
    ALIGN desc.height (units info desc).2 = height info desc ↔ height info desc < 2 ^ 32 :=
  ALIGN_eq_iff (units_snd info desc).1 (units_snd info desc).2

theorem layout_eq (hi : getPixleFormatInfo build desc.pixel_format = some info) (hw : desc.width < 2 ^ 32)
    (hh : desc.height < 2 ^ 32) {aw ah : ℕ} (haw : aw = ALIGN (baseWidth desc) (units info desc).1)
    (hah : ah = ALIGN desc.height (units info desc).2) : dmabuf_layout build desc = some (aw,
      { plane_loop info.fourcc info.modifier aw ah desc.height (layout_from_format info.fourcc) 0 0 with
        total_size := (plane_loop info.fourcc info.modifier aw ah desc.height
          (layout_from_format info.fourcc) 0 0).total_size + end_padding info desc aw ah }) := by
  simp only [dmabuf_layout, alignment_eq hi hw hh, drv_buffer_info_calculation, hi, Option.map_some, haw, hah]

/-- What the stride of a YV12 plane relies on. -/
theorem yvu_planes (hfacts : EntryFacts info) (hid : info.id = desc.pixel_format) {p : ℕ} {plane : Plane}
    (hp : (layout_from_format info.fourcc)[p]? = some plane) (hyvu : info.fourcc = .YVU420) :
    32 ∣ width info desc ∧ plane.bits_per_pixel = 8 ∧ (p = 0 → plane.horizontal_subsampling = 1) := by
  obtain ⟨hyv12, hrgb⟩ := hfacts.yv12 hyvu
  have hunit : (units info desc).1 = 32 := by simp [units, hrgb, ← hid, hyv12]
  refine ⟨hunit ▸ dvd_roundUp _ _, ?_⟩
  rw [hyvu] at hp
  match p, hp with
  | 0, hp | 1, hp | 2, hp =>
    obtain rfl := Option.some.inj hp
    exact ⟨rfl, by simp⟩

section
variable (hi : getPixleFormatInfo build desc.pixel_format = some info)
include hi

/-- The strides of the driver are the exact ones if and only if the bits of the rows can be counted. -/
theorem plane_stride_iff (hw : width info desc < 2 ^ 32) {p : ℕ} {plane : Plane}
    (hp : (layout_from_format info.fourcc)[p]? = some plane) :
    drv_stride_from_format info.fourcc info.modifier (width info desc) p plane =
        stride info.fourcc info.modifier (width info desc) p plane ↔
      (byRow info.fourcc info.modifier = true → rowBits (width info desc) plane < 2 ^ 32) := by
  obtain ⟨hmem, hid⟩ := getPixleFormatInfo_mem hi
  have hfacts := entryFacts hmem
  refine stride_eq_iff (planeFacts (List.mem_of_getElem? hp)) hw ?_ (yvu_planes hfacts hid hp)
  exact (units_dvd hfacts desc).imp_right fun h => h.1.trans (dvd_roundUp _ _)

/-- NECESSARY: a layout that is the exact one has no number beyond 32 bits. -/
theorem noWrap_of_eq (hwidth : 0 < desc.width) (hheight : 0 < desc.height) (hw : desc.width < 2 ^ 32)
    (hh : desc.height < 2 ^ 32) (heq : dmabuf_layout build desc = some (layout info desc)) : NoWrap info desc := by
  obtain ⟨hmem, hid⟩ := getPixleFormatInfo_mem hi
  have hfacts := entryFacts hmem
  rw [layout_eq hi hw hh rfl rfl, Option.some.injEq, layout, Prod.mk.injEq, BufferInfo.mk.injEq] at heq
  obtain ⟨haw, hstrides, _, hoffsets, htotal⟩ := heq
  have hW := (base_eq_iff hw).mp haw
  have hHle : ALIGN desc.height (units info desc).2 ≤ height info desc := ALIGN_le _ _
  rw [haw] at hstrides hoffsets htotal
  have hstride (p : ℕ) (plane : Plane) (hp : (layout_from_format info.fourcc)[p]? = some plane) :
      drv_stride_from_format info.fourcc info.modifier (width info desc) p plane =
        stride info.fourcc info.modifier (width info desc) p plane := by
    have hget := congrArg (·[p]?) hstrides
    simpa only [plane_loop_strides, loop_strides, hp, Option.map_some, Option.some.injEq, Nat.zero_add] using hget
  -- no summand of the total is larger than the exact one, so each of them agrees
  obtain ⟨hle, hagree⟩ := loop_total (width info desc) _ _ desc.height desc.height
    (layout_from_format info.fourcc) 0 0 0 (by simpa only [Nat.zero_add] using hstride) hHle
  obtain ⟨hplanes, hpadding⟩ := (add_eq_add_iff_eq_and_eq hle (padding_le hfacts hid (le_refl _) hHle)).mp htotal
  have hsize (p : ℕ) (plane : Plane) (hp : (layout_from_format info.fourcc)[p]? = some plane) :=
    Nat.zero_add p ▸ hagree hplanes p plane hp
  have hH (hne : layout_from_format info.fourcc ≠ []) : height info desc < 2 ^ 32 := by
    by_contra hwrap
    obtain ⟨plane, planes, hcons⟩ := List.exists_cons_of_ne_nil hne
    have hp : (layout_from_format info.fourcc)[0]? = some plane := by rw [hcons]; rfl
    have hplane := planeFacts (List.mem_of_getElem? hp)
    have hzero := hsize 0 plane hp
    rw [ALIGN_zero (units_snd info desc).1 (units_snd info desc).2 hh hwrap, drv_height_zero hplane, Nat.mul_zero]
      at hzero
    have hWpos : 0 < width info desc := by
      refine lt_of_lt_of_le ?_ (le_roundUp _ (units_fst info desc).1)
      split_ifs <;> omega
    have hHpos : 0 < height info desc := hheight.trans_le (le_roundUp _ (units_snd info desc).1)
    have hpos : 0 < size info.fourcc info.modifier (width info desc) (height info desc) 0 plane :=
      Nat.mul_pos (stride_pos hplane hWpos 0) (planeHeight_pos hplane hHpos)
    exact hpos.ne hzero
  refine ⟨hW, hH, fun hrow plane hplane => ?_, fun p plane hp => ?_, fun o ho => ?_, fun hpad => ?_⟩
  · obtain ⟨p, hp⟩ := List.getElem?_of_mem hplane
    exact (plane_stride_iff hi hW.1 hp).mp (hstride p plane hp) hrow
  · rw [← hsize p plane hp]
    exact Nat.mod_lt _ (by decide)
  · rw [layout, ← hoffsets] at ho
    exact plane_loop_offsets _ _ _ _ _ (by decide) o ho
  · have hne : layout_from_format info.fourcc ≠ [] := by
      refine hfacts.decoder ?_
      simp only [padded, Bool.and_eq_true, decide_eq_true_eq] at hpad
      rw [hid]
      exact hpad.2
    rw [(height_eq_iff info desc).mpr (hH hne)] at hpadding
    exact (padding_eq_iff hfacts hid _ _).mp hpadding hpad

/-- SUFFICIENT: where no number is beyond 32 bits, the layout is the exact one. -/
theorem eq_of_noWrap (hw : desc.width < 2 ^ 32) (hh : desc.height < 2 ^ 32) (hno : NoWrap info desc) :
    dmabuf_layout build desc = some (layout info desc) := by
  obtain ⟨hmem, hid⟩ := getPixleFormatInfo_mem hi
  have hfacts := entryFacts hmem
  have haw := (base_eq_iff hw).mpr hno.width
  have hHle : desc.height ≤ height info desc := le_roundUp _ (units_snd info desc).1
  by_cases hne : layout_from_format info.fourcc = []
  · have hpad : padded info desc = false := by
      rw [Bool.eq_false_iff]
      intro hpad
      simp only [padded, Bool.and_eq_true, decide_eq_true_eq] at hpad
      exact hfacts.decoder (hid ▸ hpad.2) hne
    have hsame (ah : ℕ) : end_padding info desc (width info desc) ah =
        padding info desc (width info desc) (height info desc) := by
      rw [end_padding_eq hfacts hid, padding, hpad, if_neg Bool.false_ne_true, if_neg Bool.false_ne_true]
    rw [layout_eq hi hw hh haw.symm rfl, layout, hne, hsame]
    rfl
  · have hah := (height_eq_iff info desc).mpr (hno.height hne)
    have hunit : info.fourcc ∈ [Fourcc.R8, .R16] ∨ 4 ∣ height info desc :=
      (units_dvd hfacts desc).imp_right fun h => h.2.trans (dvd_roundUp _ _)
    have hloop := loop_eq (o := 0) hHle (fun p plane hp => by
      have hplane := planeFacts (List.mem_of_getElem? hp)
      rw [Nat.zero_add]
      exact ⟨(plane_stride_iff hi hno.width.1 hp).mpr fun hrow => hno.rows hrow plane (List.mem_of_getElem? hp),
        height_eq hplane (le_refl _) (hno.height hne) hunit, height_eq hplane hHle (hno.height hne) hunit,
        hno.sizes p plane hp⟩) hno.offsets fun _ => rfl
    rw [layout_eq hi hw hh haw.symm hah.symm, layout, hloop, (padding_eq_iff hfacts hid _ _).mpr hno.padding]

end

end

/-- CORRECT: the layout of an accepted buffer is the exact one, with its planes in place, if and only if no number
    in it is beyond 32 bits. -/
theorem layout_right_iff {g : NxpAllocator} {d : DescriptorInfo} {desc : Descriptor}
    (hconvert : g.convertToHalDescriptor d = some desc) (_ : is_supported desc = true)
    (hwidth : 0 < d.width ∧ d.width < 2 ^ 32) (hheight : 0 < d.height ∧ d.height < 2 ^ 32) :
    Right g.build desc ↔ ∀ info, getPixleFormatInfo g.build desc.pixel_format = some info → NoWrap info desc := by
  obtain ⟨info, hi, hsize⟩ : ∃ info, getPixleFormatInfo g.build desc.pixel_format = some info ∧
      desc.width = d.width ∧ desc.height = d.height := by
    rw [NxpAllocator.convertToHalDescriptor] at hconvert
    split at hconvert
    · cases hconvert
    · split at hconvert
      · cases hconvert
      · rename_i info hinfo
        split at hconvert
        · cases hconvert
        · obtain rfl := Option.some.inj hconvert
          exact ⟨info, hinfo, rfl, rfl⟩
  rw [← hsize.1] at hwidth
  rw [← hsize.2] at hheight
  constructor
  · rintro ⟨info', out, hi', hout, rfl, -⟩ info'' hi''
    obtain rfl := Option.some.inj (hi'.symm.trans hi'')
    exact noWrap_of_eq hi' hwidth.1 hheight.1 hwidth.2 hheight.2 hout
  · intro hno
    exact ⟨info, _, hi, eq_of_noWrap hi hwidth.2 hheight.2 (hno info hi), rfl, layout_placed info desc⟩

/-- A picture of 1920×1080 in NV12, with the room for the decoder. -/
theorem layout_right_iff_nv12 : Right ⟨false, false, false, false⟩
    ⟨1920, 1080, YCbCr_420_SP, USAGE_PADDING_BUFFER, 0, 1024⟩ := by
  refine (layout_right_iff (g := ⟨⟨false, false, false, false⟩, true, false, 1024⟩)
    (d := ⟨1920, 1080, 1, YCbCr_420_SP, USAGE_PADDING_BUFFER, 0⟩) rfl (by decide) (by decide) (by decide)).mpr ?_
  intro info hi
  obtain rfl := Option.some.inj (hi.symm.trans (by rfl : _ = some (yuv YCbCr_420_SP .NV12 .LINEAR)))
  refine ⟨by decide +kernel, by decide +kernel, by decide +kernel, fun p plane hp => ?_, by decide +kernel,
    by decide +kernel⟩
  match p, hp with
  | 0, hp | 1, hp =>
    obtain rfl := Option.some.inj hp
    decide +kernel

/-- An image of 65536×65536 pixels of four bytes: its one plane has a size of 0. -/
theorem wrapped_to_nothing : NxpAllocator.convertToHalDescriptor ⟨⟨false, false, false, false⟩, true, false, 1024⟩
      ⟨65536, 65536, 1, RGBA_8888, 3, 0⟩ = some ⟨65536, 65536, RGBA_8888, 3, 0, 1024⟩ ∧
    is_supported ⟨65536, 65536, RGBA_8888, 3, 0, 1024⟩ = true ∧
    ¬ Right ⟨false, false, false, false⟩ ⟨65536, 65536, RGBA_8888, 3, 0, 1024⟩ := by
  refine ⟨rfl, by decide, ?_⟩
  rintro ⟨info, out, hi, hout, rfl, -⟩
  obtain rfl := Option.some.inj (hi.symm.trans (by rfl : _ = some (rgb RGBA_8888 .ABGR8888)))
  have hsizes := congrArg (Option.map fun layout => layout.2.sizes) hout
  exact absurd hsizes (by decide +kernel)

end ImxHal.Gralloc.Exact
