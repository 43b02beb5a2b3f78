import ImxHal.Gralloc.Exact

/-! @src display/gralloc/driver_helpers.cpp (planar_layout, drv_pixel_width_height_alignment, drv_stride_from_format,
    drv_size_from_format) | name:Rows | scheme:table | family:buffer layout

    A row of a plane has to have room for the samples of the image's width, and a plane for as many rows as the
    image has. The rows of the formats of ten bits a pixel are rounded down before they are rounded up:

        width 13   130 bits ──▶ 13 * 5 / 4 = 16 bytes ──▶ ALIGN 16 ──▶ 16 bytes = 128 bits

    and the planar 4:2:2 format has no planes at all. -/

namespace ImxHal.Gralloc.Rows

/-- The planes of an image, by the definition of its format. -/
def planesOf : Fourcc → List Plane
  | .R8 => [⟨1, 1, 8⟩]
  | .R16 | .RGB565 | .UYVY | .YUYV => [⟨1, 1, 16⟩]
  | .BGR888 => [⟨1, 1, 24⟩]
  | .ABGR2101010 | .ABGR8888 | .ARGB8888 | .XBGR8888 => [⟨1, 1, 32⟩]
  | .ABGR16161616F | .AXBXGXRX106106106106 => [⟨1, 1, 64⟩]
  | .NV12 | .NV21 => [⟨1, 1, 8⟩, ⟨2, 2, 16⟩]
  | .NV15 => [⟨1, 1, 10⟩, ⟨2, 2, 20⟩]
  | .NV16 => [⟨1, 1, 8⟩, ⟨2, 1, 16⟩]
  | .YVU420 | .YUV420 => [⟨1, 1, 8⟩, ⟨2, 2, 8⟩, ⟨2, 2, 8⟩]
  | .YUV422 => [⟨1, 1, 8⟩, ⟨2, 1, 8⟩, ⟨2, 1, 8⟩]

/-- Every plane of the image has a row and a size that are large enough. -/
def LargeEnough (info : FormatInfo) (desc : Descriptor) (out : BufferInfo) : Prop :=
  ∀ (p : ℕ) (plane : Plane), (planesOf info.fourcc)[p]? = some plane →
    ∃ stride size, out.strides[p]? = some stride ∧ out.sizes[p]? = some size ∧
      Exact.ceilDiv desc.width plane.horizontal_subsampling * plane.bits_per_pixel ≤ stride * 8 ∧
      stride * Exact.ceilDiv desc.height plane.vertical_subsampling ≤ size

/-- The widths of ten bits a pixel that lose nothing by the rounding down. -/
structure Roomy (desc : Descriptor) : Prop where
  planes : desc.pixel_format ≠ YCbCr_422_P
  linear : desc.pixel_format = P010 ∨ desc.pixel_format = P010_TILED_COMPRESSED →
    desc.width % 64 ∉ [13, 25, 26, 39, 51]
  tiled : desc.pixel_format = P010_TILED → desc.width % 1024 ∉ [205, 409, 410, 615, 819]

/-! ### Ten bits a pixel -/

/-- After four times the alignment the rounding starts anew. -/
theorem room_mod {n : ℕ} (hn : 0 < n) (w : ℕ) :
    Exact.ceilDiv w 2 * 20 ≤ Exact.roundUp (w * 5 / 4) n * 8 ↔
      Exact.ceilDiv (w % (4 * n)) 2 * 20 ≤ Exact.roundUp (w % (4 * n) * 5 / 4) n * 8 := by
  obtain ⟨q, r, hq, hr⟩ : ∃ q r, w = 4 * (n * q) + r ∧ w % (4 * n) = r :=
    ⟨w / (4 * n), _, by rw [← Nat.mul_assoc, Nat.div_add_mod], rfl⟩
  have hceil : Exact.ceilDiv w 2 = 2 * (n * q) + Exact.ceilDiv r 2 := by
    simp only [Exact.ceilDiv]
    omega
  have hbytes : w * 5 / 4 = n * (5 * q) + r * 5 / 4 := by
    rw [Nat.mul_left_comm]
    omega
  have hround : Exact.roundUp (w * 5 / 4) n = 5 * (n * q) + Exact.roundUp (r * 5 / 4) n := by
    rw [hbytes, Exact.roundUp, Exact.roundUp, Nat.add_assoc, Nat.mul_add_div hn, Nat.add_mul]
    ring
  rw [hr, hceil, hround]
  omega

theorem room_16 (w : ℕ) : Exact.ceilDiv w 2 * 20 ≤ Exact.roundUp (w * 5 / 4) 16 * 8 ↔
    w % 64 ∉ [13, 25, 26, 39, 51] := by
  have hall : ∀ r < 64, Exact.ceilDiv r 2 * 20 ≤ Exact.roundUp (r * 5 / 4) 16 * 8 ↔ r ∉ [13, 25, 26, 39, 51] := by
    decide +kernel
  exact (room_mod (by decide) w).trans (hall _ (Nat.mod_lt _ (by decide)))

theorem room_256 (w : ℕ) : Exact.ceilDiv w 2 * 20 ≤ Exact.roundUp (w * 5 / 4) 256 * 8 ↔
    w % 1024 ∉ [205, 409, 410, 615, 819] := by
  have hall : ∀ r < 1024, Exact.ceilDiv r 2 * 20 ≤ Exact.roundUp (r * 5 / 4) 256 * 8 ↔
      r ∉ [205, 409, 410, 615, 819] := by
    decide +kernel
  exact (room_mod (by decide) w).trans (hall _ (Nat.mod_lt _ (by decide)))

/-! ### The entries of the table -/

/-- But for the planar 4:2:2 format, the driver has the planes of the image. -/
theorem planes_eq {fourcc : Fourcc} (h : fourcc ≠ .YUV422) : layout_from_format fourcc = planesOf fourcc := by
  cases fourcc <;> first | rfl | exact absurd rfl h

theorem planesOf_bits {fourcc : Fourcc} {plane : Plane} (h : plane ∈ planesOf fourcc) : plane.bits_per_pixel ≤ 64 := by
  revert plane
  cases fourcc <;> decide

/-- What the rows rely on. -/
structure RowFacts (info : FormatInfo) : Prop where
  yuv422 : info.fourcc = .YUV422 ↔ info.id = YCbCr_422_P
  nv15 : info.fourcc = .NV15 ↔ info.id ∈ [P010, P010_TILED_COMPRESSED, P010_TILED]
  tiled : info.modifier ≠ .LINEAR → info.fourcc = .NV12 ∨ info.fourcc = .NV15
  yuv : info.fourcc = .NV15 → info.is_rgb = false ∧ info.is_yuv = true

theorem rowFacts {build : Build} {info : FormatInfo} (h : info ∈ formats build) : RowFacts info := by
  obtain ⟨l, v, f, u⟩ := build
  have hyuv422 : ∀ l v f u, ∀ info ∈ formats ⟨l, v, f, u⟩, info.fourcc = .YUV422 ↔ info.id = YCbCr_422_P := by
    decide +kernel
  have hnv15 : ∀ l v f u, ∀ info ∈ formats ⟨l, v, f, u⟩,
      info.fourcc = .NV15 ↔ info.id ∈ [P010, P010_TILED_COMPRESSED, P010_TILED] := by decide +kernel
  have htiled : ∀ l v f u, ∀ info ∈ formats ⟨l, v, f, u⟩, info.modifier ≠ .LINEAR →
      info.fourcc = .NV12 ∨ info.fourcc = .NV15 := by decide +kernel
  have hyuv : ∀ l v f u, ∀ info ∈ formats ⟨l, v, f, u⟩, info.fourcc = .NV15 →
      info.is_rgb = false ∧ info.is_yuv = true := by decide +kernel
  exact ⟨hyuv422 _ _ _ _ _ h, hnv15 _ _ _ _ _ h, htiled _ _ _ _ _ h, hyuv _ _ _ _ _ h⟩

/-! ### A plane -/

section
variable {build : Build} {info : FormatInfo} {desc : Descriptor}

theorem width_lt (info : FormatInfo) (hw : desc.width ≤ 16384) : Exact.width info desc < 20736 := by
  have hmem := (Exact.units_cases info desc).1
  have hdvd : (Exact.units info desc).1 ∣ 20736 ∧ (Exact.units info desc).1 ≤ 256 := by
    simp only [List.mem_cons, List.not_mem_nil, or_false] at hmem
    rcases hmem with h | h | h | h | h <;> rw [h] <;> decide
  have hpos := (Exact.units_fst info desc).1
  rw [Exact.width, Exact.roundUp_lt_iff hpos hdvd.1]
  split_ifs <;> omega

/-- A stride has at most eight bytes a pixel. -/
theorem stride_le {fourcc : Fourcc} {modifier : Modifier} {plane : Plane} (w p : ℕ)
    (hplane : Exact.PlaneFacts fourcc plane) (hbits : plane.bits_per_pixel ≤ 64) :
    Exact.stride fourcc modifier w p plane ≤ 8 * w + 31 := by
  have hwidth : Exact.ceilDiv w plane.horizontal_subsampling ≤ w := by
    rw [Exact.ceilDiv]
    rcases hplane.horizontal with h | h <;> rw [h] <;> omega
  have hrow : Exact.rowBits w plane ≤ w * 64 := Nat.mul_le_mul hwidth hbits
  have hbytes : Exact.roundUp (Exact.rowBits w plane) 8 / 8 ≤ 8 * w := by
    rw [Exact.roundUp]
    omega
  simp only [Exact.stride]
  split_ifs
  · rw [Exact.roundUp]
    omega
  · rw [Exact.roundUp]
    omega
  · omega
  · omega

theorem getElem?_pair {x y plane : Plane} {p : ℕ} (h : [x, y][p]? = some plane) :
    (p = 0 ∧ plane = x) ∨ (p = 1 ∧ plane = y) := by
  rcases p with _ | _ | p
  · exact .inl ⟨rfl, (Option.some.inj h).symm⟩
  · exact .inr ⟨rfl, (Option.some.inj h).symm⟩
  · cases h

/-- The bits of a row fit in the exact stride, the formats of ten bits a pixel apart. -/
theorem row_fits (hfacts : RowFacts info) {p w : ℕ} {plane : Plane}
    (hp : (planesOf info.fourcc)[p]? = some plane) (hne : info.fourcc ≠ .NV15)
    (hw : w ≤ Exact.width info desc) (h16 : info.modifier ≠ .LINEAR → 16 ∣ Exact.width info desc) :
    Exact.ceilDiv w plane.horizontal_subsampling * plane.bits_per_pixel ≤
      Exact.stride info.fourcc info.modifier (Exact.width info desc) p plane * 8 := by
  have hmono : Exact.ceilDiv w plane.horizontal_subsampling * plane.bits_per_pixel ≤
      Exact.rowBits (Exact.width info desc) plane := Nat.mul_le_mul_right _ (Exact.ceilDiv_mono hw _)
  by_cases hlinear : info.modifier = .LINEAR
  · have hrow : Exact.byRow info.fourcc info.modifier = true := by simp [Exact.byRow, hlinear, hne]
    have hround := Exact.le_roundUp (Exact.rowBits (Exact.width info desc) plane) (n := 8) (by decide)
    obtain ⟨k, hk⟩ := Exact.dvd_roundUp (Exact.rowBits (Exact.width info desc) plane) 8
    simp only [Exact.stride, hrow, if_true]
    split_ifs
    · have hle := Exact.le_roundUp (Exact.roundUp (Exact.rowBits (Exact.width info desc) plane) 8 / 8) (n := 32)
        (by decide)
      omega
    · have hle := Exact.le_roundUp (Exact.roundUp (Exact.rowBits (Exact.width info desc) plane) 8 / 8) (n := 16)
        (by decide)
      omega
    · omega
  · have hrow : Exact.byRow info.fourcc info.modifier = false := by simp [Exact.byRow, hlinear]
    have hnv12 := (hfacts.tiled hlinear).resolve_right hne
    simp only [Exact.stride, hrow, Bool.false_eq_true, if_false]
    refine hmono.trans ?_
    have hdvd := h16 hlinear
    rw [hnv12] at hp
    rcases getElem?_pair hp with ⟨rfl, rfl⟩ | ⟨rfl, rfl⟩
    · simp only [Exact.rowBits, Exact.ceilDiv]
      omega
    · simp only [Exact.rowBits, Exact.ceilDiv]
      omega

/-- The rows of ten bits a pixel. -/
theorem tenBit_fits_iff (hfacts : RowFacts info) (hid : info.id = desc.pixel_format) (hnv15 : info.fourcc = .NV15) :
    (∀ (p : ℕ) (plane : Plane), (planesOf info.fourcc)[p]? = some plane →
      Exact.ceilDiv desc.width plane.horizontal_subsampling * plane.bits_per_pixel ≤
        Exact.stride info.fourcc info.modifier (Exact.width info desc) p plane * 8) ↔ Roomy desc := by
  have hrow : Exact.byRow info.fourcc info.modifier = false := by simp [Exact.byRow, hnv15]
  have hformat : desc.pixel_format ∈ [P010, P010_TILED_COMPRESSED, P010_TILED] := hid ▸ hfacts.nv15.mp hnv15
  have hne : desc.pixel_format ≠ YCbCr_422_P := by
    intro h
    rw [h] at hformat
    exact absurd hformat (by decide)
  have hten : Exact.tenBit desc = true := by simpa [Exact.tenBit] using hformat
  -- the second plane has two samples for two pixels, so it decides
  have hplanes : (∀ (p : ℕ) (plane : Plane), (planesOf info.fourcc)[p]? = some plane →
      Exact.ceilDiv desc.width plane.horizontal_subsampling * plane.bits_per_pixel ≤
        Exact.stride info.fourcc info.modifier (Exact.width info desc) p plane * 8) ↔
      Exact.ceilDiv desc.width 2 * 20 ≤ Exact.width info desc * 8 := by
    simp only [Exact.stride, hrow, Bool.false_eq_true, if_false]
    constructor
    · intro hall
      exact hall 1 ⟨2, 2, 20⟩ (by rw [hnv15]; rfl)
    · intro hle p plane hp
      rw [hnv15] at hp
      rcases getElem?_pair hp with ⟨rfl, rfl⟩ | ⟨rfl, rfl⟩
      · simp only [Exact.ceilDiv] at hle ⊢
        omega
      · exact hle
  rw [hplanes, Exact.width, if_pos hten]
  simp only [List.mem_cons, List.not_mem_nil, or_false] at hformat
  have hyuv := hfacts.yuv hnv15
  rcases hformat with h | h | h
  · have hunit : (Exact.units info desc).1 = 16 := by
      simp [Exact.units, hyuv, h, YV12, YCbCr_420_P, NV12_TILED, P010_TILED, P010]
    rw [hunit, room_16]
    exact ⟨fun hroom => ⟨hne, fun _ => hroom, fun htiled => absurd (h.symm.trans htiled) (by decide)⟩,
      fun hroom => hroom.linear (.inl h)⟩
  · have hunit : (Exact.units info desc).1 = 16 := by
      simp [Exact.units, hyuv, h, YV12, YCbCr_420_P, NV12_TILED, P010_TILED, P010_TILED_COMPRESSED]
    rw [hunit, room_16]
    exact ⟨fun hroom => ⟨hne, fun _ => hroom, fun htiled => absurd (h.symm.trans htiled) (by decide)⟩,
      fun hroom => hroom.linear (.inr h)⟩
  · have hunit : (Exact.units info desc).1 = 256 := by
      simp [Exact.units, hyuv, h, YV12, YCbCr_420_P, NV12_TILED, P010_TILED]
    rw [hunit, room_256]
    refine ⟨fun hroom => ⟨hne, fun hlinear => ?_, fun _ => hroom⟩, fun hroom => hroom.tiled h⟩
    rw [h] at hlinear
    exact absurd hlinear (by decide)

/-! ### The layout -/

theorem plane_loop_sizes {fourcc : Fourcc} {modifier : Modifier} (aw ah h : ℕ) (planes : List Plane) (p o k : ℕ) :
    (plane_loop fourcc modifier aw ah h planes p o).sizes[k]? = planes[k]?.map fun plane =>
      drv_size_from_format fourcc (drv_stride_from_format fourcc modifier aw (p + k) plane) h plane :=
  Exact.getElem?_of_planes (f := fun planes p o => (plane_loop fourcc modifier aw ah h planes p o).sizes)
    (g := fun p plane => drv_size_from_format fourcc (drv_stride_from_format fourcc modifier aw p plane) h plane)
    (fun _ _ => rfl) (fun _ _ _ _ => ⟨_, rfl⟩) planes p o k

theorem planeHeight_bounds {fourcc : Fourcc} {plane : Plane} (hplane : Exact.PlaneFacts fourcc plane) {h : ℕ}
    (hh : h ≤ 16384) : Exact.ceilDiv h plane.vertical_subsampling ≤ Exact.planeHeight fourcc h plane ∧
      Exact.planeHeight fourcc h plane ≤ 16384 := by
  have hle := Exact.le_roundUp h (n := 4) (by decide)
  have hlt : Exact.roundUp h 4 < 16388 := (Exact.roundUp_lt_iff (by decide) (by decide)).mpr (by omega)
  obtain ⟨k, hk⟩ := Exact.dvd_roundUp h 4
  rw [Exact.planeHeight]
  refine ⟨Exact.ceilDiv_mono ?_ _, ?_⟩
  · split_ifs <;> omega
  · rw [Exact.ceilDiv]
    rcases hplane.vertical with hv | hv <;> rw [hv] <;> split_ifs <;> omega

/-- What the driver stores for a plane: the exact stride, and a size that has all its rows. -/
theorem plane_stored (hi : getPixleFormatInfo build desc.pixel_format = some info) (hw : desc.width ≤ 16384)
    (hh : desc.height ≤ 16384) {aw : ℕ} {out : BufferInfo} (hout : dmabuf_layout build desc = some (aw, out)) {p : ℕ}
    {plane : Plane} (hp : (layout_from_format info.fourcc)[p]? = some plane) (hbits : plane.bits_per_pixel ≤ 64) :
    ∃ size, out.strides[p]? = some (Exact.stride info.fourcc info.modifier (Exact.width info desc) p plane) ∧
      out.sizes[p]? = some size ∧ Exact.stride info.fourcc info.modifier (Exact.width info desc) p plane *
        Exact.ceilDiv desc.height plane.vertical_subsampling ≤ size := by
  obtain ⟨hmem, hid⟩ := getPixleFormatInfo_mem hi
  have hplane := Exact.planeFacts (List.mem_of_getElem? hp)
  have hW := width_lt info hw
  have haw : ALIGN (Exact.baseWidth desc) (Exact.units info desc).1 = Exact.width info desc :=
    (Exact.base_eq_iff (by omega)).mpr ⟨by omega, fun _ => by omega⟩
  rw [Exact.layout_eq hi (by omega) (by omega) haw.symm rfl, Option.some.injEq, Prod.mk.injEq] at hout
  obtain ⟨-, rfl⟩ := hout
  have hrow : Exact.rowBits (Exact.width info desc) plane < 2 ^ 32 := by
    have hle : Exact.ceilDiv (Exact.width info desc) plane.horizontal_subsampling ≤ Exact.width info desc := by
      rw [Exact.ceilDiv]
      rcases hplane.horizontal with h | h <;> rw [h] <;> omega
    have hmul : Exact.rowBits (Exact.width info desc) plane ≤ Exact.width info desc * 64 := Nat.mul_le_mul hle hbits
    omega
  have hstride := (Exact.plane_stride_iff hi (by omega) hp).mpr fun _ => hrow
  have hHeight : Exact.height info desc < 2 ^ 32 := by
    obtain ⟨hpos, hdvd⟩ := Exact.units_snd info desc
    have hmem := (Exact.units_cases info desc).2
    rw [Exact.height, Exact.roundUp_lt_iff hpos hdvd]
    simp only [List.mem_cons, List.not_mem_nil, or_false] at hmem
    omega
  have hheight := Exact.height_eq hplane (Exact.le_roundUp desc.height (Exact.units_snd info desc).1) hHeight
    ((Exact.units_dvd (Exact.entryFacts hmem) desc).imp_right fun h => h.2.trans (Exact.dvd_roundUp _ _))
  obtain ⟨hrows, hbound⟩ := planeHeight_bounds hplane hh
  have hstrideLe : Exact.stride info.fourcc info.modifier (Exact.width info desc) p plane ≤
      8 * Exact.width info desc + 31 := stride_le _ _ hplane hbits
  have hsize : drv_size_from_format info.fourcc (Exact.stride info.fourcc info.modifier (Exact.width info desc) p plane)
      desc.height plane = Exact.stride info.fourcc info.modifier (Exact.width info desc) p plane *
        Exact.planeHeight info.fourcc desc.height plane := by
    have hmul := Nat.mul_le_mul hstrideLe hbound
    rw [drv_size_from_format, hheight]
    exact Exact.u32_eq_iff.mpr (by omega)
  refine ⟨_, ?_, ?_, Nat.mul_le_mul_left _ hrows⟩
  · rw [Exact.plane_loop_strides, hp, Option.map_some, Nat.zero_add, hstride]
  · rw [plane_loop_sizes, hp, Option.map_some, Nat.zero_add, hstride, hsize]

end

/-- CORRECT: every plane of an image has room for its rows if and only if the format is not the planar 4:2:2 one and,
    with ten bits a pixel, the width is none of five remainders. -/
theorem rows_fit_iff {build : Build} {desc : Descriptor} {info : FormatInfo}
    (hi : getPixleFormatInfo build desc.pixel_format = some info) (hw : 1 ≤ desc.width ∧ desc.width ≤ 16384)
    (hh : 1 ≤ desc.height ∧ desc.height ≤ 16384) :
    (∃ aw out, dmabuf_layout build desc = some (aw, out) ∧ LargeEnough info desc out) ↔ Roomy desc := by
  obtain ⟨hmem, hid⟩ := getPixleFormatInfo_mem hi
  have hfacts := rowFacts hmem
  by_cases h422 : info.fourcc = .YUV422
  · -- there is no plane for the first of the image
    have hformat := hid ▸ hfacts.yuv422.mp h422
    refine iff_of_false ?_ fun hroom => hroom.planes hformat
    rintro ⟨aw, out, hout, hlarge⟩
    rw [Exact.layout_eq hi (by omega) (by omega) rfl rfl, Option.some.injEq, Prod.mk.injEq, h422] at hout
    obtain ⟨-, rfl⟩ := hout
    obtain ⟨stride, size, hstride, -⟩ := hlarge 0 ⟨1, 1, 8⟩ (by rw [h422]; rfl)
    cases hstride
  · have hplanes := planes_eq h422
    have hrows : (∃ aw out, dmabuf_layout build desc = some (aw, out) ∧ LargeEnough info desc out) ↔
        ∀ (p : ℕ) (plane : Plane), (planesOf info.fourcc)[p]? = some plane →
          Exact.ceilDiv desc.width plane.horizontal_subsampling * plane.bits_per_pixel ≤
            Exact.stride info.fourcc info.modifier (Exact.width info desc) p plane * 8 := by
      constructor
      · rintro ⟨aw, out, hout, hlarge⟩ p plane hp
        obtain ⟨stride, size, hstride, -, hroom, -⟩ := hlarge p plane hp
        obtain ⟨_, hstored, -, -⟩ := plane_stored hi hw.2 hh.2 hout (hplanes ▸ hp)
          (planesOf_bits (List.mem_of_getElem? hp))
        obtain rfl := Option.some.inj (hstored.symm.trans hstride)
        exact hroom
      · intro hall
        have hout := Exact.layout_eq hi (by omega) (by omega) rfl rfl
        refine ⟨_, _, hout, fun p plane hp => ?_⟩
        obtain ⟨size, hstored, hsize, hroom⟩ := plane_stored hi hw.2 hh.2 hout (hplanes ▸ hp)
          (planesOf_bits (List.mem_of_getElem? hp))
        exact ⟨_, size, hstored, hsize, hall p plane hp, hroom⟩
    rw [hrows]
    by_cases hnv15 : info.fourcc = .NV15
    · exact tenBit_fits_iff hfacts hid hnv15
    · have hformat : desc.pixel_format ∉ [P010, P010_TILED_COMPRESSED, P010_TILED] :=
        hid ▸ fun h => hnv15 (hfacts.nv15.mpr h)
      simp only [List.mem_cons, List.not_mem_nil, or_false, not_or] at hformat
      refine iff_of_true (fun p plane hp => ?_) ⟨fun h => h422 (hfacts.yuv422.mpr (hid.trans h)), ?_, ?_⟩
      · refine row_fits hfacts hp hnv15 ?_ fun hlinear => ?_
        · have hten : Exact.tenBit desc = false := by simp [Exact.tenBit, hformat]
          rw [Exact.width, hten, if_neg Bool.false_ne_true]
          exact Exact.le_roundUp _ (Exact.units_fst info desc).1
        · rcases Exact.units_dvd (Exact.entryFacts hmem) desc with hplain | h
          · rw [(hfacts.tiled hlinear).resolve_right hnv15] at hplain
            exact absurd hplain (by decide)
          · exact h.1.trans (Exact.dvd_roundUp _ _)
      · exact fun h => absurd h (by simp [hformat])
      · exact fun h => absurd h hformat.2.2

/-- A picture of 1920×1080 with ten bits a pixel. -/
theorem rows_fit_iff_p010 : ∃ aw out, dmabuf_layout ⟨false, false, false, false⟩ ⟨1920, 1080, P010, 3, 0, 1024⟩ =
    some (aw, out) ∧ LargeEnough (yuv P010 .NV15 .LINEAR) ⟨1920, 1080, P010, 3, 0, 1024⟩ out := by
  refine (rows_fit_iff rfl ?_ ?_).mpr ⟨by decide, fun _ => by decide, fun h => absurd h (by decide)⟩
  · decide
  · decide

/-- Thirteen pixels of ten bits are 130, and the row of the driver has 128. -/
theorem thirteen_lose_two : getPixleFormatInfo ⟨false, false, false, false⟩ P010 = some (yuv P010 .NV15 .LINEAR) ∧
    ¬ ∃ aw out, dmabuf_layout ⟨false, false, false, false⟩ ⟨13, 16, P010, 3, 0, 1024⟩ = some (aw, out) ∧
      LargeEnough (yuv P010 .NV15 .LINEAR) ⟨13, 16, P010, 3, 0, 1024⟩ out := by
  refine ⟨rfl, ?_⟩
  rintro ⟨aw, out, hout, hlarge⟩
  have hrow : dmabuf_layout ⟨false, false, false, false⟩ ⟨13, 16, P010, 3, 0, 1024⟩ =
      some (16, ⟨[16, 16], [256, 128], [0, 256], 384⟩) := rfl
  rw [hrow, Option.some.injEq, Prod.mk.injEq] at hout
  obtain ⟨-, rfl⟩ := hout
  obtain ⟨stride, size, hstride, -, hroom, -⟩ := hlarge 0 ⟨1, 1, 10⟩ rfl
  obtain rfl : 16 = stride := Option.some.inj hstride
  exact absurd hroom (by decide)

end ImxHal.Gralloc.Rows
