import ImxHal.Schemes.Blit

/-! @src image_process/ImageUtils.cpp (yuv420spResize) | name:4:2:0 resize | scheme:blit | family:pictures

    A picture is resized by an integer ratio about its middle, in a plane of luma and one of chroma pairs,
    each pair for a block of four pixels. It is made smaller when both ratios are at least one, larger, with
    a black margin, when at most one of them is, and refused otherwise:

        dstBuf    │ Y: dstStride × dstHeight │ UV: dstStride × dstHeight / 2 │

    A product that does not fit an `int` is undefined; the sizes of the two luma planes, which are both
    computed, bound all the others. -/

namespace ImxHal.Image
open ImxHal.Blit

inductive Resized
  | refused
  | undefined
  | done (moves : List (Move UInt8))
  deriving DecidableEq

def INT_MAX : ℕ := 2 ^ 31 - 1

/-! ### The luma planes -/

/-- The loops over Y of a reduction. -/
def reduceY (srcWidth srcHeight dstWidth dstHeight dstStride : ℕ) : List (Move UInt8) :=
  let srcStride := srcWidth
  let h_scale_ratio := srcWidth / dstWidth
  let v_scale_ratio := srcHeight / dstHeight
  let h_offset := (srcWidth - dstWidth * h_scale_ratio) / 2
  let v_offset := (srcHeight - dstHeight * v_scale_ratio) / 2
  loop 0 dstHeight 1 fun i => loop 0 dstWidth 1 fun j =>
    let srcRow := v_offset + i * v_scale_ratio
    let srcCol := h_offset + j * h_scale_ratio
    [.copy (i * dstStride + j) (srcRow * srcStride + srcCol)]

/-- The loops over Y of an enlargement. -/
def enlargeY (srcWidth srcHeight dstWidth dstHeight dstStride : ℕ) : List (Move UInt8) :=
  let srcStride := srcWidth
  let h_scale_ratio := dstWidth / srcWidth
  let v_scale_ratio := dstHeight / srcHeight
  let h_offset := (dstWidth - srcWidth * h_scale_ratio) / 2
  let v_offset := (dstHeight - srcHeight * v_scale_ratio) / 2
  let h_offset_end := h_offset + srcWidth * h_scale_ratio
  let v_offset_end := v_offset + srcHeight * v_scale_ratio
  loop 0 dstHeight 1 fun i =>
    if i < v_offset ∨ v_offset_end ≤ i then loop 0 dstWidth 1 fun j => [.fill (dstStride * i + j) 0]
    else loop 0 dstWidth 1 fun j =>
      if j < h_offset ∨ h_offset_end ≤ j then [.fill (dstStride * i + j) 0]
      else
        let srcRow := (i - v_offset) / v_scale_ratio
        let srcCol := (j - h_offset) / h_scale_ratio
        [.copy (dstStride * i + j) (srcStride * srcRow + srcCol)]

/-! ### The chroma plane -/

/-- The loops over UV of a reduction, two bytes at a time. -/
def reduceUV420 (srcWidth srcHeight dstWidth dstHeight : ℕ) : List (Move UInt8) :=
  let srcStride := srcWidth
  let dstStride := dstWidth
  let h_scale_ratio := srcWidth / dstWidth
  let v_scale_ratio := srcHeight / dstHeight
  let h_offset := (srcWidth - dstWidth * h_scale_ratio) / 2
  let v_offset := (srcHeight - dstHeight * v_scale_ratio) / 2
  let pUVSrcStart := srcStride * srcHeight
  let pUVDstStart := dstStride * dstHeight
  loop 0 dstHeight 2 fun i =>
    let srcRow := v_offset + i * v_scale_ratio
    loop 0 dstWidth 2 fun j =>
      let srcCol := h_offset + j * h_scale_ratio
      copies (pUVDstStart + 2 * (i / 2 * dstStride / 2 + j / 2))
        (pUVSrcStart + 2 * (srcRow * srcStride / 2 / 2 + srcCol / 2)) 2

/-- The loops over UV of an enlargement: a byte of the margin at a time, two bytes of the picture. -/
def enlargeUV420 (srcWidth srcHeight dstWidth dstHeight : ℕ) : List (Move UInt8) :=
  let srcStride := srcWidth
  let dstStride := dstWidth
  let h_scale_ratio := dstWidth / srcWidth
  let v_scale_ratio := dstHeight / srcHeight
  let h_offset := (dstWidth - srcWidth * h_scale_ratio) / 2
  let v_offset := (dstHeight - srcHeight * v_scale_ratio) / 2
  let h_offset_end := h_offset + srcWidth * h_scale_ratio
  let v_offset_end := v_offset + srcHeight * v_scale_ratio
  let pUVSrcStart := srcStride * srcHeight
  let pUVDstStart := dstStride * dstHeight
  loop 0 dstHeight 2 fun i =>
    if i < v_offset ∨ v_offset_end ≤ i then
      loop 0 dstWidth 1 fun j => [.fill (pUVDstStart + (dstStride * (i / 2) + j)) 128]
    else loop 0 dstWidth 1 fun j =>
      if j < h_offset ∨ h_offset_end ≤ j then [.fill (pUVDstStart + (dstStride * (i / 2) + j)) 128]
      else
        let srcRow := (i - v_offset) / v_scale_ratio
        let srcCol := (j - h_offset) / h_scale_ratio
        copies (pUVDstStart + 2 * (dstStride * (i / 2) / 2 + j / 2))
          (pUVSrcStart + 2 * (srcStride * (srcRow / 2) / 2 + srcCol / 2)) 2

def yuv420spResize (srcWidth srcHeight dstWidth dstHeight : ℕ) : Resized :=
  if srcWidth = 0 ∨ srcHeight = 0 ∨ dstWidth = 0 ∨ dstHeight = 0 then .refused
  else if 0 < srcWidth / dstWidth ∧ 0 < srcHeight / dstHeight then
    if INT_MAX < srcWidth * srcHeight ∨ INT_MAX < dstWidth * dstHeight then .undefined
    else .done (reduceY srcWidth srcHeight dstWidth dstHeight dstWidth ++
      reduceUV420 srcWidth srcHeight dstWidth dstHeight)
  else if srcWidth / dstWidth + srcHeight / dstHeight ≤ 1 then
    if INT_MAX < srcWidth * srcHeight ∨ INT_MAX < dstWidth * dstHeight then .undefined
    else .done (enlargeY srcWidth srcHeight dstWidth dstHeight dstWidth ++
      enlargeUV420 srcWidth srcHeight dstWidth dstHeight)
  else .refused

/-! ### What is wanted -/

/-- The source pixel `(r, c)` of a pixel, none in the margin. -/
def sourcePixel (srcWidth srcHeight dstWidth dstHeight i j : ℕ) : Option (ℕ × ℕ) :=
  if 0 < srcWidth / dstWidth ∧ 0 < srcHeight / dstHeight then
    some (shrink srcHeight dstHeight i, shrink srcWidth dstWidth j)
  else stretchBoth srcHeight dstHeight srcWidth dstWidth i j

/-- The luma of a source pixel, or black. -/
def lumaOf (srcWidth : ℕ) (src : ℕ → UInt8) : Option (ℕ × ℕ) → UInt8
  | some (r, c) => src (srcWidth * r + c)
  | none => 0

/-- A byte of the chroma pair of a source pixel, or black. -/
def chromaOf (srcWidth srcHeight : ℕ) (src : ℕ → UInt8) (b : ℕ) : Option (ℕ × ℕ) → UInt8
  | some (r, c) => src (srcWidth * srcHeight + (srcWidth * (r / 2) + 2 * (c / 2)) + b)
  | none => 128

/-- The picture that a resize should make, with the chroma of the pixels of `P`. -/
structure Scaled420 (srcWidth srcHeight dstWidth dstHeight : ℕ) (P : ℕ → ℕ → Prop)
    (moves : List (Move UInt8)) :
    Prop where
  bounds : InBounds (srcWidth * srcHeight + srcWidth * (srcHeight / 2))
    (dstWidth * dstHeight + dstWidth * (dstHeight / 2)) moves
  luma : ∀ src mem, ∀ i < dstHeight, ∀ j < dstWidth,
    run src mem moves (dstWidth * i + j) =
      lumaOf srcWidth src (sourcePixel srcWidth srcHeight dstWidth dstHeight i j)
  chroma : ∀ src mem, ∀ i < dstHeight, ∀ j < dstWidth, P i j → ∀ b < 2,
    run src mem moves (dstWidth * dstHeight + (dstWidth * (i / 2) + 2 * (j / 2)) + b) =
      chromaOf srcWidth srcHeight src b (sourcePixel srcWidth srcHeight dstWidth dstHeight i j)

/-! ### Luma -/

/-- What is done for a pixel. -/
def lumaMove (srcStride dstStride i j : ℕ) : Option (ℕ × ℕ) → Move UInt8
  | some (r, c) => .copy (dstStride * i + j) (srcStride * r + c)
  | none => .fill (dstStride * i + j) 0

section Luma
variable {srcWidth srcHeight dstWidth dstHeight dstStride : ℕ}

theorem lumaMove_dst (srcStride i j : ℕ) (p : Option (ℕ × ℕ)) :
    (lumaMove srcStride dstStride i j p).dst = dstStride * i + j := by
  cases p <;> rfl

theorem lumaMove_value (i j : ℕ) (p : Option (ℕ × ℕ)) (src : ℕ → UInt8) :
    (lumaMove srcWidth dstStride i j p).value src = lumaOf srcWidth src p := by
  cases p <;> rfl

theorem mem_reduceY {m : Move UInt8} (h : 0 < srcWidth / dstWidth ∧ 0 < srcHeight / dstHeight) :
    m ∈ reduceY srcWidth srcHeight dstWidth dstHeight dstStride ↔ ∃ i < dstHeight, ∃ j < dstWidth,
      m = lumaMove srcWidth dstStride i j (sourcePixel srcWidth srcHeight dstWidth dstHeight i j) := by
  simp only [reduceY, mem_loop_one, List.mem_singleton, sourcePixel, if_pos h, lumaMove, shrink,
    Nat.mul_comm dstStride, Nat.mul_comm srcWidth]

theorem mem_enlargeY {m : Move UInt8} (h : ¬ (0 < srcWidth / dstWidth ∧ 0 < srcHeight / dstHeight)) :
    m ∈ enlargeY srcWidth srcHeight dstWidth dstHeight dstStride ↔ ∃ i < dstHeight, ∃ j < dstWidth,
      m = lumaMove srcWidth dstStride i j (sourcePixel srcWidth srcHeight dstWidth dstHeight i j) := by
  rw [enlargeY, mem_loop_one]
  refine exists_congr fun i => and_congr_right fun _ => (mem_row srcHeight dstHeight srcWidth dstWidth i
    (fun j => [.fill (dstStride * i + j) 0]) fun j r c =>
      [.copy (dstStride * i + j) (srcWidth * r + c)]).trans ?_
  refine exists_congr fun j => and_congr_right fun _ => ?_
  rw [sourcePixel, if_neg h]
  cases stretchBoth srcHeight dstHeight srcWidth dstWidth i j <;> exact List.mem_singleton

/-- A luma plane in front of a chroma plane. -/
theorem luma_run {Y UV : List (Move UInt8)} {p : ℕ → ℕ → Option (ℕ × ℕ)} (hstride : dstWidth ≤ dstStride)
    (hY : ∀ m, m ∈ Y ↔ ∃ i < dstHeight, ∃ j < dstWidth, m = lumaMove srcWidth dstStride i j (p i j))
    (hUV : ∀ m ∈ UV, dstStride * dstHeight ≤ m.dst) (src mem : ℕ → UInt8) {i j : ℕ} (hi : i < dstHeight)
    (hj : j < dstWidth) : run src mem (Y ++ UV) (dstStride * i + j) = lumaOf srcWidth src (p i j) := by
  rw [run_front hUV (cell_lt hi (by omega)), ← Nat.zero_add (dstStride * i + j),
    cells_run hstride (fun i j => by rw [lumaMove_dst, Nat.zero_add]) hY src mem hi hj, lumaMove_value]

theorem luma_bounds {Y : List (Move UInt8)} {p : ℕ → ℕ → Option (ℕ × ℕ)} (hstride : dstWidth ≤ dstStride)
    (hY : ∀ m, m ∈ Y ↔ ∃ i < dstHeight, ∃ j < dstWidth, m = lumaMove srcWidth dstStride i j (p i j))
    (hp : ∀ i < dstHeight, ∀ j < dstWidth, ∀ q ∈ p i j, q.1 < srcHeight ∧ q.2 < srcWidth) :
    InBounds (srcWidth * srcHeight) (dstStride * dstHeight) Y := by
  intro m hm
  obtain ⟨i, hi, j, hj, rfl⟩ := (hY m).mp hm
  rw [lumaMove_dst]
  refine ⟨cell_lt hi (by omega), fun s hs => ?_⟩
  cases hpix : p i j with
  | none =>
    rw [hpix] at hs
    exact nomatch hs
  | some q =>
    rw [hpix] at hs
    obtain rfl := Option.some_inj.mp hs
    obtain ⟨hr, hc⟩ := hp i hi j hj q hpix
    exact cell_lt hr hc

theorem sourcePixel_lt {i j : ℕ} (hi : i < dstHeight) (hj : j < dstWidth) :
    ∀ q ∈ sourcePixel srcWidth srcHeight dstWidth dstHeight i j, q.1 < srcHeight ∧ q.2 < srcWidth := by
  intro q hq
  rw [sourcePixel] at hq
  split_ifs at hq with h
  · obtain rfl := Option.some_inj.mp hq
    exact ⟨shrink_lt h.2 hi, shrink_lt h.1 hj⟩
  · obtain ⟨r, hr, hq⟩ := Option.bind_eq_some_iff.mp hq
    obtain ⟨c, hc, rfl⟩ := Option.map_eq_some_iff.mp hq
    exact ⟨stretch_lt hr, stretch_lt hc⟩

end Luma

/-! ### Chroma -/

/-- What an enlargement does for the chroma of a pixel: `k` and `r` are rows of pairs. -/
def chromaMoves (pUVDstStart pUVSrcStart dstStride srcStride k j : ℕ) : Option (ℕ × ℕ) → List (Move UInt8)
  | none => [.fill (pUVDstStart + (dstStride * k + j)) 128]
  | some (r, c) => copies (pUVDstStart + 2 * (dstStride * k / 2 + j / 2))
    (pUVSrcStart + 2 * (srcStride * r / 2 + c / 2)) 2

/-- A byte of the pair of a row of pairs and a column of pixels, or black. -/
def pairOf (pUVSrcStart srcStride : ℕ) (src : ℕ → UInt8) (b : ℕ) : Option (ℕ × ℕ) → UInt8
  | some (r, c) => src (pUVSrcStart + (srcStride * r + 2 * (c / 2)) + b)
  | none => 128

theorem two_mul_half {stride : ℕ} (h : 2 ∣ stride) (k j : ℕ) :
    2 * (stride * k / 2 + j / 2) = stride * k + 2 * (j / 2) := by
  rw [Nat.mul_add, Nat.mul_div_cancel' (dvd_mul_of_dvd_left h k)]

theorem mem_chromaMoves {D S ds ss k j : ℕ} (hds : 2 ∣ ds) (hss : 2 ∣ ss) {p : Option (ℕ × ℕ)}
    {m : Move UInt8} :
    m ∈ chromaMoves D S ds ss k j p ↔
      p = none ∧ m = .fill (D + (ds * k + j)) 128 ∨
        ∃ q b, p = some q ∧ b < 2 ∧
          m = .copy (D + (ds * k + 2 * (j / 2)) + b) (S + (ss * q.1 + 2 * (q.2 / 2)) + b) := by
  cases p with
  | none => simp [chromaMoves]
  | some q =>
    rw [chromaMoves, mem_copies, two_mul_half hds, two_mul_half hss]
    simp only [reduceCtorEq, false_and, false_or, Option.some_inj]
    constructor
    · rintro ⟨b, hb, rfl⟩
      exact ⟨q, b, rfl, hb, rfl⟩
    · rintro ⟨q', b, rfl, hb, rfl⟩
      exact ⟨b, hb, rfl⟩

section Chroma
variable {D S ds ss dw n : ℕ} {UV : List (Move UInt8)}

/-- A plane of pairs that are each copied once. -/
theorem copied_run {f : ℕ → ℕ → ℕ} (hdw : 2 ∣ dw) (hle : dw ≤ ds)
    (hUV : ∀ m, m ∈ UV ↔ ∃ k < n, ∃ l, 2 * l < dw ∧ ∃ b < 2, m = .copy (D + (ds * k + 2 * l) + b) (f k l + b))
    (src mem : ℕ → UInt8) {k l b : ℕ} (hk : k < n) (hl : 2 * l < dw) (hb : b < 2) :
    run src mem UV (D + (ds * k + 2 * l) + b) = src (f k l + b) := by
  refine run_eq mem ⟨_, (hUV _).mpr ⟨k, hk, l, hl, b, hb, rfl⟩, rfl⟩ fun m hm hdst => ?_
  obtain ⟨k', hk', l', hl', b', hb', rfl⟩ := (hUV m).mp hm
  obtain ⟨rfl, hcol⟩ := cell_offset_inj (by omega) (by omega) hdst
  obtain ⟨rfl, rfl⟩ : l' = l ∧ b' = b := by omega
  rfl

/-- A plane of pairs with a margin, when the two pixels of a pair are in the margin together. -/
theorem chroma_run {q : ℕ → ℕ → Option (ℕ × ℕ)} (hds : 2 ∣ ds) (hss : 2 ∣ ss) (hdw : 2 ∣ dw) (hle : dw ≤ ds)
    (hUV : ∀ m, m ∈ UV ↔ ∃ k < n, ∃ j < dw, m ∈ chromaMoves D S ds ss k j (q k j))
    (hpair : ∀ k < n, ∀ l, (q k (2 * l + 1)).map (fun p => (p.1, p.2 / 2)) = (q k (2 * l)).map fun p =>
      (p.1, p.2 / 2))
    (src mem : ℕ → UInt8) {k l b : ℕ} (hk : k < n) (hl : 2 * l < dw) (hb : b < 2) :
    run src mem UV (D + (ds * k + 2 * l) + b) = pairOf S ss src b (q k (2 * l)) := by
  have hsame {j : ℕ} (hj : j / 2 = l) :
      (q k j).map (fun p => (p.1, p.2 / 2)) = (q k (2 * l)).map fun p => (p.1, p.2 / 2) := by
    obtain rfl | rfl : j = 2 * l ∨ j = 2 * l + 1 := by omega
    · rfl
    · exact hpair k hk l
  refine run_eq mem ?_ fun m hm hdst => ?_
  · -- Some move ends there: of the first pixel if it is in the picture, else of the byte's own.
    cases hq : q k (2 * l) with
    | none =>
      have hnone : q k (2 * l + b) = none := by
        have := hsame (show (2 * l + b) / 2 = l by omega)
        rw [hq, Option.map_none, Option.map_eq_none_iff] at this
        exact this
      refine ⟨_, (hUV _).mpr ⟨k, hk, 2 * l + b, by omega, (mem_chromaMoves hds hss).mpr (.inl ⟨hnone, rfl⟩)⟩, ?_⟩
      show D + (ds * k + (2 * l + b)) = _
      omega
    | some p =>
      refine ⟨_, (hUV _).mpr ⟨k, hk, 2 * l, hl, (mem_chromaMoves hds hss).mpr (.inr ⟨p, b, hq, hb, rfl⟩)⟩, ?_⟩
      show D + (ds * k + 2 * (2 * l / 2)) + b = _
      rw [Nat.mul_div_cancel_left l (by decide)]
  · obtain ⟨k', hk', j, hj, hm⟩ := (hUV m).mp hm
    rcases (mem_chromaMoves hds hss).mp hm with ⟨hq, rfl⟩ | ⟨p, b', hq, hb', rfl⟩
    · have hcell : ds * k' + j = ds * k + (2 * l + b) := by
        have : D + (ds * k' + j) = D + (ds * k + 2 * l) + b := hdst
        omega
      obtain ⟨rfl, hcol⟩ := cell_inj (by omega) (by omega) hcell
      have hnone := hsame (show j / 2 = l by omega)
      rw [hq, Option.map_none, eq_comm, Option.map_eq_none_iff] at hnone
      rw [hnone]
      rfl
    · obtain ⟨rfl, hcol⟩ := cell_offset_inj (by omega) (by omega) hdst
      obtain ⟨hjl, rfl⟩ : j / 2 = l ∧ b' = b := by omega
      have hsome := hsame hjl
      rw [hq, Option.map_some, eq_comm, Option.map_eq_some_iff] at hsome
      obtain ⟨p', hp', heq⟩ := hsome
      obtain ⟨h1, h2⟩ := Prod.mk.inj heq
      rw [hp']
      show src _ = src _
      rw [h1, h2]

/-- Where a margin divides a pair, its second byte is that of the pixel in the picture. -/
theorem edge_run {q : ℕ → ℕ → Option (ℕ × ℕ)} (hds : 2 ∣ ds) (hss : 2 ∣ ss) (hdw : 2 ∣ dw) (hle : dw ≤ ds)
    (hUV : ∀ m, m ∈ UV ↔ ∃ k < n, ∃ j < dw, m ∈ chromaMoves D S ds ss k j (q k j))
    {k l : ℕ} (hk : k < n) (hl : 2 * l < dw) (hout : q k (2 * l) = none) {p : ℕ × ℕ}
      (hin : q k (2 * l + 1) = some p)
    (src mem : ℕ → UInt8) :
    run src mem UV (D + (ds * k + 2 * l) + 1) = src (S + (ss * p.1 + 2 * (p.2 / 2)) + 1) := by
  refine run_eq mem ⟨_, (hUV _).mpr ⟨k, hk, 2 * l + 1, by omega,
    (mem_chromaMoves hds hss).mpr (.inr ⟨p, 1, hin, by decide, rfl⟩)⟩, ?_⟩ fun m hm hdst => ?_
  · show D + (ds * k + 2 * ((2 * l + 1) / 2)) + 1 = _
    omega
  · obtain ⟨k', hk', j, hj, hm⟩ := (hUV m).mp hm
    rcases (mem_chromaMoves hds hss).mp hm with ⟨hq, rfl⟩ | ⟨p', b, hq, hb, rfl⟩
    · have hcell : ds * k' + j = ds * k + (2 * l + 1) := by
        have : D + (ds * k' + j) = D + (ds * k + 2 * l) + 1 := hdst
        omega
      obtain ⟨rfl, rfl⟩ := cell_inj (by omega) (by omega) hcell
      rw [hin] at hq
      exact nomatch hq
    · obtain ⟨rfl, hcol⟩ := cell_offset_inj (by omega) (by omega) hdst
      obtain ⟨hjl, rfl⟩ : j / 2 = l ∧ b = 1 := by omega
      obtain rfl | rfl : j = 2 * l ∨ j = 2 * l + 1 := by omega
      · rw [hout] at hq
        exact nomatch hq
      · rw [hin] at hq
        obtain rfl := Option.some_inj.mp hq
        rfl

/-- The bytes of a plane of pairs with a margin. -/
theorem chroma_bounds {q : ℕ → ℕ → Option (ℕ × ℕ)} {sh : ℕ} (hds : 2 ∣ ds) (hss : 2 ∣ ss) (hdw : 2 ∣ dw)
    (hle : dw ≤ ds) (hUV : ∀ m, m ∈ UV ↔ ∃ k < n, ∃ j < dw, m ∈ chromaMoves D S ds ss k j (q k j))
    (hq : ∀ k < n, ∀ j < dw, ∀ p ∈ q k j, p.1 < sh ∧ p.2 < ss) :
    (∀ m ∈ UV, D ≤ m.dst) ∧ InBounds (S + ss * sh) (D + ds * n) UV := by
  have hmove : ∀ m ∈ UV, D ≤ m.dst ∧ m.dst < D + ds * n ∧ ∀ s ∈ m.read, s < S + ss * sh := by
    intro m hm
    obtain ⟨k, hk, j, hj, hm⟩ := (hUV m).mp hm
    rcases (mem_chromaMoves hds hss).mp hm with ⟨_, rfl⟩ | ⟨p, b, hp, hb, rfl⟩
    · have := cell_lt hk (show j < ds by omega)
      refine ⟨?_, ?_, fun s hs => nomatch hs⟩
      · show D ≤ D + (ds * k + j)
        omega
      · show D + (ds * k + j) < D + ds * n
        omega
    · obtain ⟨hr, hc⟩ := hq k hk j hj p hp
      have hdst := cell_lt hk (show 2 * (j / 2) + b < ds by omega)
      have hsrc := cell_lt hr (show 2 * (p.2 / 2) + b < ss by omega)
      refine ⟨?_, ?_, fun s hs => ?_⟩
      · show D ≤ D + (ds * k + 2 * (j / 2)) + b
        omega
      · show D + (ds * k + 2 * (j / 2)) + b < D + ds * n
        omega
      · obtain rfl := Option.some_inj.mp hs
        omega
  exact ⟨fun m hm => (hmove m hm).1, fun m hm => (hmove m hm).2⟩

end Chroma

/-! ### 4:2:0 -/

section Resize420
variable {srcWidth srcHeight dstWidth dstHeight : ℕ}

/-- The row of pairs and the column of pixels that an enlargement takes a pair from. -/
def pairSource420 (srcWidth srcHeight dstWidth dstHeight k j : ℕ) : Option (ℕ × ℕ) :=
  (stretchBoth srcHeight dstHeight srcWidth dstWidth (2 * k) j).map fun p => (p.1 / 2, p.2)

theorem mem_enlargeUV420 (hdh : 2 ∣ dstHeight) {m : Move UInt8} :
    m ∈ enlargeUV420 srcWidth srcHeight dstWidth dstHeight ↔ ∃ k < dstHeight / 2, ∃ j < dstWidth,
      m ∈ chromaMoves (dstWidth * dstHeight) (srcWidth * srcHeight) dstWidth srcWidth k j
        (pairSource420 srcWidth srcHeight dstWidth dstHeight k j) := by
  rw [enlargeUV420, mem_loop (by decide)]
  simp only [Nat.zero_add]
  refine exists_congr fun k => and_congr (by omega) ((mem_row srcHeight dstHeight srcWidth dstWidth (2 * k)
    (fun j => [.fill (dstWidth * dstHeight + (dstWidth * (2 * k / 2) + j)) 128]) fun j r c =>
      copies (dstWidth * dstHeight + 2 * (dstWidth * (2 * k / 2) / 2 + j / 2))
        (srcWidth * srcHeight + 2 * (srcWidth * (r / 2) / 2 + c / 2)) 2).trans ?_)
  refine exists_congr fun j => and_congr_right fun _ => ?_
  rw [pairSource420, Nat.mul_div_cancel_left k (by decide)]
  cases stretchBoth srcHeight dstHeight srcWidth dstWidth (2 * k) j <;> rfl

/-- The bytes in front of a pair in the plane of the source, as a reduction computes them. -/
def reducedPair (srcWidth srcHeight dstWidth dstHeight k l : ℕ) : ℕ :=
  2 * (shrink srcHeight dstHeight (2 * k) * srcWidth / 2 / 2 + shrink srcWidth dstWidth (2 * l) / 2)

theorem mem_reduceUV420 (hdw : 2 ∣ dstWidth) (hdh : 2 ∣ dstHeight) {m : Move UInt8} :
    m ∈ reduceUV420 srcWidth srcHeight dstWidth dstHeight ↔
      ∃ k < dstHeight / 2, ∃ l, 2 * l < dstWidth ∧ ∃ b < 2,
        m = .copy (dstWidth * dstHeight + (dstWidth * k + 2 * l) + b)
          (srcWidth * srcHeight + reducedPair srcWidth srcHeight dstWidth dstHeight k l + b) := by
  rw [reduceUV420, mem_loop (by decide)]
  simp only [Nat.zero_add, mem_loop (show 0 < 2 by decide), mem_copies]
  refine exists_congr fun k => and_congr (by omega) (exists_congr fun l => and_congr_right fun _ => ?_)
  have hdst : 2 * (2 * k / 2 * dstWidth / 2 + 2 * l / 2) = dstWidth * k + 2 * l := by
    rw [Nat.mul_div_cancel_left k (by decide), Nat.mul_div_cancel_left l (by decide), Nat.mul_comm k,
      Nat.mul_add, Nat.mul_div_cancel' (dvd_mul_of_dvd_left hdw k)]
  rw [hdst]
  rfl

/-- The rows above are halved before they are multiplied by the width, in the middle of a row of pairs when
    the row is odd. -/
theorem reducedPair_eq (hsw : 2 ∣ srcWidth) (k l : ℕ) :
    reducedPair srcWidth srcHeight dstWidth dstHeight k l =
      srcWidth * (shrink srcHeight dstHeight (2 * k) / 2) + 2 * (shrink srcWidth dstWidth (2 * l) / 2) +
        2 * (shrink srcHeight dstHeight (2 * k) % 2 * (srcWidth / 4)) := by
  obtain ⟨w, rfl⟩ := hsw
  rw [reducedPair]
  generalize shrink srcHeight dstHeight (2 * k) = r
  have hhalf : r * (2 * w) / 2 / 2 = w * (r / 2) + r % 2 * (w / 2) := by
    rw [show r * (2 * w) = 2 * (r * w) by ring, Nat.mul_div_cancel_left _ (by decide)]
    obtain ⟨t, ht | ht⟩ : ∃ t, r = 2 * t ∨ r = 2 * t + 1 := ⟨r / 2, by omega⟩
    · rw [ht, show 2 * t * w = 2 * (w * t) by ring, Nat.mul_div_cancel_left _ (by decide),
        Nat.mul_div_cancel_left _ (by decide), Nat.mul_mod_right, Nat.zero_mul, Nat.add_zero]
    · rw [ht, show (2 * t + 1) * w = w + 2 * (w * t) by ring, Nat.add_mul_div_left _ _ (by decide),
        show (2 * t + 1) / 2 = t by omega, show (2 * t + 1) % 2 = 1 by omega]
      ring
  rw [hhalf, show 2 * w / 4 = w / 2 by omega]
  ring

variable (hsw : 2 ∣ srcWidth) (hsh : 2 ∣ srcHeight) (hdw : 2 ∣ dstWidth) (hdh : 2 ∣ dstHeight)

section Reduce
variable (hred : 0 < srcWidth / dstWidth ∧ 0 < srcHeight / dstHeight)

include hsw hsh hdh hred in
theorem reducedPair_lt {k l b : ℕ} (hk : k < dstHeight / 2) (hl : 2 * l < dstWidth) (hb : b < 2) :
    reducedPair srcWidth srcHeight dstWidth dstHeight k l + b < srcWidth * (srcHeight / 2) := by
  have hr := shrink_lt hred.2 (show 2 * k < dstHeight by omega)
  have hc := shrink_lt hred.1 hl
  rw [reducedPair_eq hsw]
  obtain ⟨r, hrdef⟩ : ∃ r, r = shrink srcHeight dstHeight (2 * k) := ⟨_, rfl⟩
  obtain ⟨c, hcdef⟩ : ∃ c, c = shrink srcWidth dstWidth (2 * l) := ⟨_, rfl⟩
  rw [← hrdef] at hr ⊢
  rw [← hcdef] at hc ⊢
  rcases Nat.mod_two_eq_zero_or_one r with hmod | hmod
  · have := cell_lt (show r / 2 < srcHeight / 2 by omega) (show 2 * (c / 2) + b < srcWidth by omega)
    rw [hmod]
    omega
  · -- An odd row comes from an odd margin, and leaves as much behind the picture.
    have hmargin : shrink srcHeight dstHeight (2 * k) + 3 ≤ srcHeight := by
      have hle := margin_le dstHeight srcHeight
      have hmul : (2 * k + 2) * (srcHeight / dstHeight) ≤ dstHeight * (srcHeight / dstHeight) :=
        Nat.mul_le_mul_right _ (by omega)
      rw [Nat.add_mul] at hmul
      have hodd : shrink srcHeight dstHeight (2 * k) % 2 = 1 := hrdef ▸ hmod
      rw [shrink_eq, Nat.mul_assoc] at hodd ⊢
      rw [Nat.mul_assoc] at hmul
      omega
    have hrow : srcWidth * (r / 2 + 2) ≤ srcWidth * (srcHeight / 2) := Nat.mul_le_mul_left _ (by omega)
    rw [Nat.mul_add] at hrow
    rw [hmod]
    omega

include hsw hsh hdw hdh hred

theorem reduce_bounds : InBounds (srcWidth * srcHeight + srcWidth * (srcHeight / 2))
    (dstWidth * dstHeight + dstWidth * (dstHeight / 2))
    (reduceY srcWidth srcHeight dstWidth dstHeight dstWidth ++
      reduceUV420 srcWidth srcHeight dstWidth dstHeight) := by
  intro m hm
  rcases List.mem_append.mp hm with hm | hm
  · obtain ⟨hdst, hsrc⟩ := luma_bounds le_rfl (fun m => mem_reduceY hred)
      (fun i hi j hj => sourcePixel_lt hi hj) m hm
    exact ⟨by omega, fun s hs => by have := hsrc s hs; omega⟩
  · obtain ⟨k, hk, l, hl, b, hb, rfl⟩ := (mem_reduceUV420 hdw hdh).mp hm
    have hdst := cell_lt hk (show 2 * l + b < dstWidth by omega)
    have hsrc := reducedPair_lt hsw hsh hdh hred hk hl hb
    exact Move.copy_inBounds (by omega) (by omega)

/-- A reduction takes every pair from where it should when the bytes in front of it are those in front of
    the pair of the source pixel. -/
theorem reduce_scaled_iff (P : ℕ → ℕ → Prop) :
    Scaled420 srcWidth srcHeight dstWidth dstHeight P
      (reduceY srcWidth srcHeight dstWidth dstHeight dstWidth ++
        reduceUV420 srcWidth srcHeight dstWidth dstHeight) ↔
      ∀ i < dstHeight, ∀ j < dstWidth, P i j → reducedPair srcWidth srcHeight dstWidth dstHeight (i / 2)
        (j / 2) =
        srcWidth * (shrink srcHeight dstHeight i / 2) + 2 * (shrink srcWidth dstWidth j / 2) := by
  have hrun (src mem : ℕ → UInt8) {i j b : ℕ} (hi : i < dstHeight) (hj : j < dstWidth) (hb : b < 2) :
      run src mem (reduceY srcWidth srcHeight dstWidth dstHeight dstWidth ++
          reduceUV420 srcWidth srcHeight dstWidth dstHeight)
        (dstWidth * dstHeight + (dstWidth * (i / 2) + 2 * (j / 2)) + b) =
      src (srcWidth * srcHeight + reducedPair srcWidth srcHeight dstWidth dstHeight (i / 2) (j / 2) + b) := by
    rw [run_append]
    exact copied_run (f := fun k l => srcWidth * srcHeight + reducedPair srcWidth srcHeight dstWidth dstHeight k l)
      hdw le_rfl (fun m => mem_reduceUV420 hdw hdh) src _ (show i / 2 < dstHeight / 2 by omega)
      (show 2 * (j / 2) < dstWidth by omega) hb
  have hpixel (i j : ℕ) : sourcePixel srcWidth srcHeight dstWidth dstHeight i j =
      some (shrink srcHeight dstHeight i, shrink srcWidth dstWidth j) := by rw [sourcePixel, if_pos hred]
  constructor
  · intro h i hi j hj hP
    have hsrc : ∀ src : ℕ → UInt8,
        src (srcWidth * srcHeight + reducedPair srcWidth srcHeight dstWidth dstHeight (i / 2) (j / 2) + 0) =
          src (srcWidth * srcHeight +
            (srcWidth * (shrink srcHeight dstHeight i / 2) + 2 * (shrink srcWidth dstWidth j / 2)) + 0) := by
      intro src
      rw [← hrun src 0 hi hj (by decide), h.chroma src 0 i hi j hj hP 0 (by decide), hpixel, chromaOf]
    have := eq_of_forall_source (show (0 : UInt8) ≠ 1 by decide) hsrc
    omega
  · intro h
    refine ⟨reduce_bounds hsw hsh hdw hdh hred, fun src mem i hi j hj => ?_,
      fun src mem i hi j hj hP b hb => ?_⟩
    · refine luma_run le_rfl (fun m => mem_reduceY hred) (fun m hm => ?_) src mem hi hj
      obtain ⟨k, hk, l, hl, b, hb, rfl⟩ := (mem_reduceUV420 hdw hdh).mp hm
      show dstWidth * dstHeight ≤ dstWidth * dstHeight + (dstWidth * k + 2 * l) + b
      omega
    · rw [hrun src mem hi hj hb, h i hi j hj hP, hpixel, chromaOf]

theorem reduce_block_iff :
    (∀ i < dstHeight, ∀ j < dstWidth, 2 ∣ i ∧ 2 ∣ j → reducedPair srcWidth srcHeight dstWidth dstHeight
      (i / 2) (j / 2) =
        srcWidth * (shrink srcHeight dstHeight i / 2) + 2 * (shrink srcWidth dstWidth j / 2)) ↔
      srcHeight % dstHeight % 4 = 0 ∨ srcWidth = 2 := by
  have hpos : 0 < dstHeight ∧ 0 < dstWidth ∧ 0 < srcWidth := by
    refine ⟨Nat.pos_of_ne_zero ?_, Nat.pos_of_ne_zero ?_, Nat.pos_of_ne_zero ?_⟩ <;>
      rintro rfl <;> simp at hred
  have hodd (k : ℕ) : shrink srcHeight dstHeight (2 * k) % 2 = margin dstHeight srcHeight % 2 := by
    rw [shrink_eq, Nat.mul_assoc]
    omega
  rw [← margin_even_iff hdh hsh]
  constructor
  · intro h
    have h00 := h 0 hpos.1 0 hpos.2.1 (by decide)
    rw [reducedPair_eq hsw, hodd] at h00
    have hzero : margin dstHeight srcHeight % 2 * (srcWidth / 4) = 0 := by
      have : 2 * (margin dstHeight srcHeight % 2 * (srcWidth / 4)) = 0 := by
        rw [Nat.zero_div, Nat.mul_zero] at h00
        omega
      omega
    rcases Nat.mul_eq_zero.mp hzero with h0 | h0 <;> omega
  · rintro h i hi j hj ⟨⟨k, rfl⟩, l, rfl⟩
    have hzero : margin dstHeight srcHeight % 2 * (srcWidth / 4) = 0 := by
      rcases h with h | h
      · rw [Nat.mod_eq_zero_of_dvd h, Nat.zero_mul]
      · rw [h, show 2 / 4 = 0 from rfl, Nat.mul_zero]
    rw [Nat.mul_div_cancel_left k (by decide), Nat.mul_div_cancel_left l (by decide), reducedPair_eq hsw,
      hodd, hzero]
    rfl

theorem reduce_pixel_iff :
    (∀ i < dstHeight, ∀ j < dstWidth, True → reducedPair srcWidth srcHeight dstWidth dstHeight (i / 2)
      (j / 2) =
        srcWidth * (shrink srcHeight dstHeight i / 2) + 2 * (shrink srcWidth dstWidth j / 2)) ↔
      srcWidth / dstWidth = 1 ∧ srcHeight / dstHeight = 1 ∧ srcWidth % dstWidth % 4 = 0 ∧
        srcHeight % dstHeight % 4 = 0 := by
  have hpos : 0 < dstHeight ∧ 0 < dstWidth ∧ 0 < srcWidth := by
    refine ⟨Nat.pos_of_ne_zero ?_, Nat.pos_of_ne_zero ?_, Nat.pos_of_ne_zero ?_⟩ <;>
      rintro rfl <;> simp at hred
  rw [← margin_even_iff hdh hsh, ← margin_even_iff hdw hsw]
  constructor
  · intro h
    have hfirst : reducedPair srcWidth srcHeight dstWidth dstHeight 0 0 = _ := reducedPair_eq hsw 0 0
    have hdown := (h 1 (by omega) 0 hpos.2.1 trivial).symm.trans hfirst
    have hright := (h 0 hpos.1 1 (by omega) trivial).symm.trans hfirst
    simp only [Nat.mul_zero, shrink_eq, Nat.zero_mul, Nat.one_mul, Nat.add_zero] at hdown hright
    -- The second row is not from a later row of pairs, so the margin is even and the ratio one.
    have hrow : (margin dstHeight srcHeight + srcHeight / dstHeight) / 2 =
        margin dstHeight srcHeight / 2 := by
      by_contra hne
      have hle : margin dstHeight srcHeight / 2 + 1 ≤
          (margin dstHeight srcHeight + srcHeight / dstHeight) / 2 := by omega
      have hmul := Nat.mul_le_mul_left srcWidth hle
      rw [Nat.mul_add] at hmul
      rcases Nat.mod_two_eq_zero_or_one (margin dstHeight srcHeight) with hmod | hmod <;>
        rw [hmod] at hdown <;> omega
    have heven : margin dstHeight srcHeight % 2 = 0 := by omega
    rw [heven] at hright
    exact ⟨by omega, by omega, by omega, by omega⟩
  · rintro ⟨hh, hv, hcol, hrow⟩ i hi j hj -
    rw [reducedPair_eq hsw]
    simp only [shrink_eq, hh, hv, Nat.mul_one]
    have hmod : (margin dstHeight srcHeight + 2 * (i / 2)) % 2 = 0 := by omega
    have hr : (margin dstHeight srcHeight + 2 * (i / 2)) / 2 = (margin dstHeight srcHeight + i) / 2 := by
      omega
    have hc : (margin dstWidth srcWidth + 2 * (j / 2)) / 2 = (margin dstWidth srcWidth + j) / 2 := by omega
    rw [hmod, hr, hc, Nat.zero_mul]
    rfl

end Reduce

section Enlarge
variable (hsmall : ¬ (0 < srcWidth / dstWidth ∧ 0 < srcHeight / dstHeight))

theorem pairSource420_lt {k j : ℕ} (hsh : 2 ∣ srcHeight) :
    ∀ p ∈ pairSource420 srcWidth srcHeight dstWidth dstHeight k j, p.1 < srcHeight / 2 ∧ p.2 < srcWidth := by
  intro p hp
  obtain ⟨q, hq, rfl⟩ := Option.map_eq_some_iff.mp hp
  obtain ⟨r, hr, hq⟩ := Option.bind_eq_some_iff.mp hq
  obtain ⟨c, hc, rfl⟩ := Option.map_eq_some_iff.mp hq
  have := stretch_lt hr
  exact ⟨by omega, stretch_lt hc⟩

/-- The pair of the first pixel of a block, with the column halved. -/
theorem pairSource420_map (k j : ℕ) :
    (pairSource420 srcWidth srcHeight dstWidth dstHeight k j).map (fun p => (p.1, p.2 / 2)) =
      ((stretch srcHeight dstHeight (2 * k)).map (· / 2)).bind fun r =>
        ((stretch srcWidth dstWidth j).map (· / 2)).map fun c => (r, c) := by
  rw [pairSource420, stretchBoth]
  cases stretch srcHeight dstHeight (2 * k) <;> cases stretch srcWidth dstWidth j <;> rfl

/-- In an enlargement the chroma of a pixel is that of a row and a column of pairs. -/
theorem chromaOf_stretch (src : ℕ → UInt8) (b i j : ℕ) {q : Option (ℕ × ℕ)}
    (h : q.map (fun p => (p.1, p.2 / 2)) = ((stretch srcHeight dstHeight i).map (· / 2)).bind fun r =>
      ((stretch srcWidth dstWidth j).map (· / 2)).map fun c => (r, c)) :
    chromaOf srcWidth srcHeight src b (stretchBoth srcHeight dstHeight srcWidth dstWidth i j) =
      pairOf (srcWidth * srcHeight) srcWidth src b q := by
  rw [stretchBoth]
  cases hr : stretch srcHeight dstHeight i with
  | none =>
    rw [hr, Option.map_none, Option.bind_none, Option.map_eq_none_iff] at h
    rw [h]
    rfl
  | some r =>
    cases hc : stretch srcWidth dstWidth j with
    | none =>
      rw [hr, hc, Option.map_some, Option.bind_some, Option.map_none, Option.map_none,
        Option.map_eq_none_iff] at h
      rw [h]
      rfl
    | some c =>
      rw [hr, hc, Option.map_some, Option.bind_some, Option.map_some, Option.map_some,
        Option.map_eq_some_iff] at h
      obtain ⟨p, rfl, heq⟩ := h
      obtain ⟨h1, h2⟩ := Prod.mk.inj heq
      show src _ = src _
      rw [h1, h2]

include hsw hsh hdw hdh hsmall

theorem enlarge_bounds :
    (∀ m ∈ enlargeUV420 srcWidth srcHeight dstWidth dstHeight, dstWidth * dstHeight ≤ m.dst) ∧
    InBounds (srcWidth * srcHeight + srcWidth * (srcHeight / 2))
      (dstWidth * dstHeight + dstWidth * (dstHeight / 2))
      (enlargeY srcWidth srcHeight dstWidth dstHeight dstWidth ++
        enlargeUV420 srcWidth srcHeight dstWidth dstHeight) := by
  have hmem : ∀ m, m ∈ enlargeUV420 srcWidth srcHeight dstWidth dstHeight ↔ _ := fun m => mem_enlargeUV420 hdh
  have hUV := chroma_bounds hdw hsw hdw le_rfl hmem fun k _ j _ => pairSource420_lt hsh
  refine ⟨hUV.1, fun m hm => ?_⟩
  rcases List.mem_append.mp hm with hm | hm
  · obtain ⟨hdst, hsrc⟩ := luma_bounds le_rfl (fun m => mem_enlargeY hsmall)
      (fun i hi j hj => sourcePixel_lt hi hj) m hm
    exact ⟨by omega, fun s hs => by have := hsrc s hs; omega⟩
  · exact hUV.2 m hm

theorem enlarge_luma (src mem : ℕ → UInt8) {i j : ℕ} (hi : i < dstHeight) (hj : j < dstWidth) :
    run src mem (enlargeY srcWidth srcHeight dstWidth dstHeight dstWidth ++
        enlargeUV420 srcWidth srcHeight dstWidth dstHeight) (dstWidth * i + j) =
      lumaOf srcWidth src (sourcePixel srcWidth srcHeight dstWidth dstHeight i j) :=
  luma_run le_rfl (fun _ => mem_enlargeY hsmall) (enlarge_bounds hsw hsh hdw hdh hsmall).1 src mem hi hj

omit hsh hsmall in
/-- The picture has no pixel, or the margin does not divide a pair. -/
theorem enlarge_block_run (hcols : dstWidth < srcWidth ∨ dstHeight < srcHeight ∨ 2 ∣ margin srcWidth dstWidth)
    (src mem : ℕ → UInt8) {i j b : ℕ} (hi : i < dstHeight) (hj : j < dstWidth) (hb : b < 2) :
    run src mem (enlargeY srcWidth srcHeight dstWidth dstHeight dstWidth ++
        enlargeUV420 srcWidth srcHeight dstWidth dstHeight)
      (dstWidth * dstHeight + (dstWidth * (i / 2) + 2 * (j / 2)) + b) =
      pairOf (srcWidth * srcHeight) srcWidth src b
        (pairSource420 srcWidth srcHeight dstWidth dstHeight (i / 2) (2 * (j / 2))) := by
  rw [run_append]
  refine chroma_run hdw hsw hdw le_rfl (fun m => mem_enlargeUV420 hdh) (fun k _ l => ?_) src _
    (show i / 2 < dstHeight / 2 by omega) (show 2 * (j / 2) < dstWidth by omega) hb
  rw [pairSource420_map, pairSource420_map]
  rcases hcols with h | h | h
  · rw [stretch_of_shorter h, stretch_of_shorter h]
  · rw [stretch_of_shorter h]
    rfl
  · rw [stretch_pair hsw h]

theorem enlarge_scaled (hcols : dstWidth < srcWidth ∨ dstHeight < srcHeight ∨ 2 ∣ margin srcWidth dstWidth)
    {P : ℕ → ℕ → Prop} (hP : ∀ i < dstHeight, ∀ j < dstWidth, P i j →
      (pairSource420 srcWidth srcHeight dstWidth dstHeight (i / 2) (2 * (j / 2))).map
        (fun p => (p.1, p.2 / 2)) =
        ((stretch srcHeight dstHeight i).map (· / 2)).bind fun r =>
          ((stretch srcWidth dstWidth j).map (· / 2)).map fun c => (r, c)) :
    Scaled420 srcWidth srcHeight dstWidth dstHeight P
      (enlargeY srcWidth srcHeight dstWidth dstHeight dstWidth ++
      enlargeUV420 srcWidth srcHeight dstWidth dstHeight) := by
  refine ⟨(enlarge_bounds hsw hsh hdw hdh hsmall).2,
    fun src mem i hi j hj => enlarge_luma hsw hsh hdw hdh hsmall src mem hi hj,
      fun src mem i hi j hj hp b hb => ?_⟩
  rw [enlarge_block_run hsw hdw hdh hcols src mem hi hj hb, sourcePixel, if_neg hsmall,
    chromaOf_stretch src b i j (hP i hi j hj hp)]

theorem enlarge_block_iff (hpos : 0 < srcWidth ∧ 0 < srcHeight) :
    Scaled420 srcWidth srcHeight dstWidth dstHeight (fun i j => 2 ∣ i ∧ 2 ∣ j)
        (enlargeY srcWidth srcHeight dstWidth dstHeight dstWidth ++
          enlargeUV420 srcWidth srcHeight dstWidth dstHeight) ↔
      dstWidth < srcWidth ∨ dstHeight < srcHeight ∨ dstWidth % srcWidth % 4 = 0 := by
  rw [← margin_even_iff hsw hdw]
  constructor
  · intro h
    by_contra hnot
    obtain ⟨hw, hh, hodd⟩ : ¬ dstWidth < srcWidth ∧ ¬ dstHeight < srcHeight ∧
      ¬ 2 ∣ margin srcWidth dstWidth := by
      rw [not_or, not_or] at hnot
      exact hnot
    have hcratio : 0 < dstWidth / srcWidth := Nat.div_pos (not_lt.mp hw) hpos.1
    have hrratio : 0 < dstHeight / srcHeight := Nat.div_pos (not_lt.mp hh) hpos.2
    -- A row of pairs in the picture, and the pair that the left margin divides.
    have hrows := margin_le srcHeight dstHeight
    have hcols := margin_le srcWidth dstWidth
    have hmulr : srcHeight * 1 ≤ srcHeight * (dstHeight / srcHeight) := Nat.mul_le_mul_left _ hrratio
    have hmulc : srcWidth * 1 ≤ srcWidth * (dstWidth / srcWidth) := Nat.mul_le_mul_left _ hcratio
    obtain ⟨k, hk⟩ : ∃ k, k = (margin srcHeight dstHeight + 1) / 2 := ⟨_, rfl⟩
    obtain ⟨l, hl⟩ : ∃ l, margin srcWidth dstWidth = 2 * l + 1 := ⟨margin srcWidth dstWidth / 2, by omega⟩
    have hrow : stretch srcHeight dstHeight (2 * k) = some _ := stretch_some_of_mem (by omega) (by omega)
    have hout : stretch srcWidth dstWidth (2 * l) = none := stretch_none_of_lt (by omega)
    have hin : stretch srcWidth dstWidth (2 * l + 1) = some 0 := hl ▸ stretch_margin hpos.1 hcratio
    have hrun (mem : ℕ → UInt8) := edge_run (q := pairSource420 srcWidth srcHeight dstWidth dstHeight) hdw hsw hdw
      le_rfl (fun m => mem_enlargeUV420 hdh) (show k < dstHeight / 2 by omega) (show 2 * l < dstWidth by omega)
      (by rw [pairSource420, stretchBoth, hrow, hout]; rfl)
      (by rw [pairSource420, stretchBoth, hrow, hin]; rfl) 0 mem
    have hwant := h.chroma 0 0 (2 * k) (by omega) (2 * l) (by omega) ⟨⟨k, rfl⟩, l, rfl⟩ 1 (by decide)
    rw [Nat.mul_div_cancel_left k (by decide), Nat.mul_div_cancel_left l (by decide), run_append, hrun,
      sourcePixel, if_neg hsmall, stretchBoth, hrow, hout] at hwant
    exact absurd (show (0 : UInt8) = 128 from hwant) (by decide)
  · intro hcols
    refine enlarge_scaled hsw hsh hdw hdh hsmall hcols ?_
    rintro i hi j hj ⟨⟨k, rfl⟩, l, rfl⟩
    rw [Nat.mul_div_cancel_left k (by decide), Nat.mul_div_cancel_left l (by decide), pairSource420_map]

theorem enlarge_pixel_iff (hpos : 0 < srcWidth ∧ 0 < srcHeight) :
    Scaled420 srcWidth srcHeight dstWidth dstHeight (fun _ _ => True)
        (enlargeY srcWidth srcHeight dstWidth dstHeight dstWidth ++
          enlargeUV420 srcWidth srcHeight dstWidth dstHeight) ↔
      dstWidth < srcWidth ∨ dstHeight < srcHeight ∨ dstWidth % srcWidth % 4 = 0 ∧
        dstHeight % srcHeight % 4 = 0 := by
  constructor
  · intro h
    have hblock := (enlarge_block_iff hsw hsh hdw hdh hsmall hpos).mp
      ⟨h.bounds, h.luma, fun src mem i hi j hj _ => h.chroma src mem i hi j hj trivial⟩
    by_contra hnot
    obtain ⟨hw, hh, hodd⟩ : ¬ dstWidth < srcWidth ∧ ¬ dstHeight < srcHeight ∧
        ¬ (dstWidth % srcWidth % 4 = 0 ∧ dstHeight % srcHeight % 4 = 0) := by
      rw [not_or, not_or] at hnot
      exact hnot
    have hcol : dstWidth % srcWidth % 4 = 0 := (hblock.resolve_left hw).resolve_left hh
    have hrow : ¬ dstHeight % srcHeight % 4 = 0 := fun h0 => hodd ⟨hcol, h0⟩
    rw [← margin_even_iff hsw hdw] at hcol
    rw [← margin_even_iff hsh hdh] at hrow
    have hcratio : 0 < dstWidth / srcWidth := Nat.div_pos (not_lt.mp hw) hpos.1
    have hrratio : 0 < dstHeight / srcHeight := Nat.div_pos (not_lt.mp hh) hpos.2
    -- The first row behind the picture shares its pairs with the last row of it.
    have hrows := margin_le srcHeight dstHeight
    have hcols := margin_le srcWidth dstWidth
    have hmulr : srcHeight * 1 ≤ srcHeight * (dstHeight / srcHeight) := Nat.mul_le_mul_left _ hrratio
    have hmulc : srcWidth * 1 ≤ srcWidth * (dstWidth / srcWidth) := Nat.mul_le_mul_left _ hcratio
    have heven : 2 ∣ srcHeight * (dstHeight / srcHeight) := dvd_mul_of_dvd_left hsh _
    obtain ⟨e, he⟩ : ∃ e, e = margin srcHeight dstHeight + srcHeight * (dstHeight / srcHeight) := ⟨_, rfl⟩
    have hlast : stretch srcHeight dstHeight (2 * (e / 2)) = some _ := stretch_some_of_mem (by omega)
      (by omega)
    have hbehind : stretch srcHeight dstHeight e = none := stretch_none_of_le he.ge
    have hwant := h.chroma 0 0 e (by omega) (margin srcWidth dstWidth) (by omega) trivial 0 (by decide)
    rw [enlarge_block_run hsw hdw hdh (.inr (.inr hcol)) 0 0 (by omega) (by omega) (by decide),
      Nat.mul_div_cancel' hcol, pairSource420, stretchBoth, hlast, stretch_margin hpos.1 hcratio, sourcePixel,
      if_neg hsmall, stretchBoth, hbehind] at hwant
    exact absurd (show (0 : UInt8) = 128 from hwant) (by decide)
  · rw [← margin_even_iff hsw hdw, ← margin_even_iff hsh hdh]
    intro h
    refine enlarge_scaled hsw hsh hdw hdh hsmall (h.imp_right fun h => h.imp_right And.left)
      fun i hi j hj _ => ?_
    rw [pairSource420_map]
    rcases h with h | h | ⟨hcol, hrow⟩
    · rw [stretch_of_shorter h, stretch_of_shorter h]
      cases stretch srcHeight dstHeight (2 * (i / 2)) <;> cases stretch srcHeight dstHeight i <;> rfl
    · rw [stretch_of_shorter h, stretch_of_shorter h]
      rfl
    · rw [stretch_half hsh hrow, stretch_half hsw hcol]

end Enlarge

/-- When every block of pixels has the chroma of the source pixel of its first pixel. -/
def EveryBlock (srcWidth srcHeight dstWidth dstHeight : ℕ) : Prop :=
  if 0 < srcWidth / dstWidth ∧ 0 < srcHeight / dstHeight then srcHeight % dstHeight % 4 = 0 ∨ srcWidth = 2
  else dstWidth < srcWidth ∨ dstHeight < srcHeight ∨ dstWidth % srcWidth % 4 = 0

/-- When every pixel has the chroma of its own source pixel. -/
def EveryPixel (srcWidth srcHeight dstWidth dstHeight : ℕ) : Prop :=
  if 0 < srcWidth / dstWidth ∧ 0 < srcHeight / dstHeight then
    srcWidth / dstWidth = 1 ∧ srcHeight / dstHeight = 1 ∧ srcWidth % dstWidth % 4 = 0 ∧
      srcHeight % dstHeight % 4 = 0
  else
    dstWidth < srcWidth ∨ dstHeight < srcHeight ∨ dstWidth % srcWidth % 4 = 0 ∧ dstHeight % srcHeight % 4 = 0

include hsw hsh hdw hdh

/-- A resize that returns 0 stays inside of its buffers and scales the luma; for the chroma, by the pixel and
    by the block of four pixels, it depends on the sizes. -/
theorem yuv420sp_scaled_iff {moves : List (Move UInt8)}
    (h : yuv420spResize srcWidth srcHeight dstWidth dstHeight = .done moves) :
    (Scaled420 srcWidth srcHeight dstWidth dstHeight (fun _ _ => True) moves ↔
        EveryPixel srcWidth srcHeight dstWidth dstHeight) ∧
      (Scaled420 srcWidth srcHeight dstWidth dstHeight (fun i j => 2 ∣ i ∧ 2 ∣ j) moves ↔
        EveryBlock srcWidth srcHeight dstWidth dstHeight) ∧
      Scaled420 srcWidth srcHeight dstWidth dstHeight (fun _ _ => False) moves := by
  rw [yuv420spResize] at h
  rw [EveryPixel, EveryBlock]
  split_ifs at h with hzero hred hint hsum hint
  · obtain rfl := Resized.done.inj h
    rw [if_pos hred, if_pos hred, reduce_scaled_iff hsw hsh hdw hdh hred,
      reduce_scaled_iff hsw hsh hdw hdh hred, reduce_scaled_iff hsw hsh hdw hdh hred]
    exact ⟨reduce_pixel_iff hsw hsh hdw hdh hred, reduce_block_iff hsw hsh hdw hdh hred,
      fun _ _ _ _ h => h.elim⟩
  · obtain rfl := Resized.done.inj h
    have hpos : 0 < srcWidth ∧ 0 < srcHeight := by omega
    rw [if_neg hred, if_neg hred]
    exact ⟨enlarge_pixel_iff hsw hsh hdw hdh hred hpos, enlarge_block_iff hsw hsh hdw hdh hred hpos,
      (enlarge_bounds hsw hsh hdw hdh hred).2,
      fun src mem i hi j hj => enlarge_luma hsw hsh hdw hdh hred src mem hi hj,
      fun _ _ _ _ _ _ h => h.elim⟩

end Resize420

theorem halved_blocks :
    ∃ moves, yuv420spResize 8 8 4 4 = .done moves ∧ Scaled420 8 8 4 4 (fun i j => 2 ∣ i ∧ 2 ∣ j) moves := by
  have hdone : yuv420spResize 8 8 4 4 = .done (reduceY 8 8 4 4 4 ++ reduceUV420 8 8 4 4) := by decide
  refine ⟨_, hdone, (yuv420sp_scaled_iff (by decide) (by decide) (by decide) (by decide) hdone).2.1.mpr ?_⟩
  rw [EveryBlock]
  decide

/-- Four rows out of six: the middle of a row of pairs is taken for its beginning. -/
theorem chroma_shifted :
    ∃ moves, yuv420spResize 4 6 4 4 = .done moves ∧ ¬ Scaled420 4 6 4 4 (fun i j => 2 ∣ i ∧ 2 ∣ j) moves ∧
      ¬ Scaled420 4 6 4 4 (fun _ _ => True) moves := by
  have hshift : run UInt8.ofNat 0 (reduceY 4 6 4 4 4 ++ reduceUV420 4 6 4 4)
    (4 * 4 + (4 * (0 / 2) + 2 * (0 / 2)) + 0) ≠
      chromaOf 4 6 UInt8.ofNat 0 (sourcePixel 4 6 4 4 0 0) := by decide +kernel
  exact ⟨_, rfl, fun h => hshift (h.chroma _ 0 0 (by decide) 0 (by decide) (by decide) 0 (by decide)),
    fun h => hshift (h.chroma _ 0 0 (by decide) 0 (by decide) trivial 0 (by decide))⟩

end ImxHal.Image
