import ImxHal.Image.Resize

/-! @src image_process/ImageUtils.cpp (yuv422iResize, yuv422spResize) | name:4:2:2 resize | scheme:blit |
    family:pictures

    The two layouts of a picture with a chroma pair for every two pixels of a row, and a resize for each:

        packed    │ Y U Y V │ Y U Y V │ …                       four bytes for two pixels
        planar    │ Y: stride × height │ UV: stride × height │

    The packed one moves two pixels at a time and takes both from one pair of the source. -/

namespace ImxHal.Image
open ImxHal.Blit

/-! ### Packed -/

/-- The loops of a reduction, four bytes at a time. -/
def reduceYUYV (srcWidth srcHeight dstWidth dstHeight : ℕ) : List (Move UInt8) :=
  let srcStride := srcWidth * 2
  let dstStride := dstWidth * 2
  let h_scale_ratio := srcWidth / dstWidth
  let v_scale_ratio := srcHeight / dstHeight
  let h_offset := (srcWidth - dstWidth * h_scale_ratio) / 2
  let v_offset := (srcHeight - dstHeight * v_scale_ratio) / 2
  loop 0 dstHeight 1 fun i => loop 0 dstWidth 2 fun j =>
    let srcRow := v_offset + i * v_scale_ratio
    let srcCol := h_offset + j * h_scale_ratio
    copies (4 * (dstStride * i / 4 + j / 2)) (4 * (srcStride * srcRow / 4 + srcCol / 2)) 4

/-- The loops of an enlargement: a pixel of the margin at a time, two of the picture at its even columns. -/
def enlargeYUYV (srcWidth srcHeight dstWidth dstHeight : ℕ) : List (Move UInt8) :=
  let srcStride := srcWidth * 2
  let dstStride := dstWidth * 2
  let h_scale_ratio := dstWidth / srcWidth
  let v_scale_ratio := dstHeight / srcHeight
  let h_offset := (dstWidth - srcWidth * h_scale_ratio) / 2
  let v_offset := (dstHeight - srcHeight * v_scale_ratio) / 2
  let h_offset_end := h_offset + srcWidth * h_scale_ratio
  let v_offset_end := v_offset + srcHeight * v_scale_ratio
  loop 0 dstHeight 1 fun i =>
    if i < v_offset ∨ v_offset_end ≤ i then
      loop 0 dstWidth 1 fun j => [.fill (dstStride * i + j * 2) 0, .fill (dstStride * i + j * 2 + 1) 128]
    else loop 0 dstWidth 1 fun j =>
      if j < h_offset ∨ h_offset_end ≤ j then
        [.fill (dstStride * i + j * 2) 0, .fill (dstStride * i + j * 2 + 1) 128]
      else
        let srcRow := (i - v_offset) / v_scale_ratio
        let srcCol := (j - h_offset) / h_scale_ratio
        if j % 2 = 0 then
          copies (4 * (dstStride * i / 4 + j / 2)) (4 * (srcStride * srcRow / 4 + srcCol / 2)) 4
        else []

/-- The products of a reduction that are largest, in its last row. -/
def reduceYUYVFits (srcWidth srcHeight dstWidth dstHeight : ℕ) : Prop :=
  dstWidth * 2 * (dstHeight - 1) ≤ INT_MAX ∧
    srcWidth * 2 * shrink srcHeight dstHeight (dstHeight - 1) ≤ INT_MAX

/-- Those of an enlargement: a margin has the last pixel, and a picture the last row of the source. -/
def enlargeYUYVFits (srcWidth srcHeight dstWidth dstHeight : ℕ) : Prop :=
  dstWidth * 2 * (dstHeight - 1) ≤ INT_MAX ∧
    (stretchBoth srcHeight dstHeight srcWidth dstWidth (dstHeight - 1) (dstWidth - 1) = none →
      dstWidth * 2 * (dstHeight - 1) + (dstWidth - 1) * 2 + 1 ≤ INT_MAX) ∧
    (0 < dstWidth / srcWidth → 0 < dstHeight / srcHeight → srcWidth * 2 * (srcHeight - 1) ≤ INT_MAX)

instance (srcWidth srcHeight dstWidth dstHeight : ℕ) :
    Decidable (reduceYUYVFits srcWidth srcHeight dstWidth dstHeight) :=
  inferInstanceAs (Decidable (_ ∧ _))

instance (srcWidth srcHeight dstWidth dstHeight : ℕ) :
    Decidable (enlargeYUYVFits srcWidth srcHeight dstWidth dstHeight) :=
  inferInstanceAs (Decidable (_ ∧ _ ∧ _))

def yuv422iResize (srcWidth srcHeight dstWidth dstHeight : ℕ) : Resized :=
  if INT_MAX < srcWidth * 2 ∨ INT_MAX < dstWidth * 2 then .undefined
  else if srcWidth = 0 ∨ srcHeight = 0 ∨ dstWidth = 0 ∨ dstHeight = 0 then .refused
  else if 0 < srcWidth / dstWidth ∧ 0 < srcHeight / dstHeight then
    if reduceYUYVFits srcWidth srcHeight dstWidth dstHeight then
      .done (reduceYUYV srcWidth srcHeight dstWidth dstHeight)
    else .undefined
  else if srcWidth / dstWidth + srcHeight / dstHeight ≤ 1 then
    if enlargeYUYVFits srcWidth srcHeight dstWidth dstHeight then
      .done (enlargeYUYV srcWidth srcHeight dstWidth dstHeight)
    else .undefined
  else .refused

/-! ### Planar -/

/-- The loops over UV of a reduction, two bytes at a time. -/
def reduceUV422 (srcWidth srcHeightSpan dstWidth dstHeight dstStride : ℕ) : List (Move UInt8) :=
  let srcStride := srcWidth
  let h_scale_ratio := srcWidth / dstWidth
  let v_scale_ratio := srcHeightSpan / dstHeight
  let h_offset := (srcWidth - dstWidth * h_scale_ratio) / 2
  let v_offset := (srcHeightSpan - dstHeight * v_scale_ratio) / 2
  let pUVSrcStart := srcStride * srcHeightSpan
  let pUVDstStart := dstStride * dstHeight
  loop 0 dstHeight 1 fun i =>
    let srcRow := v_offset + i * v_scale_ratio
    loop 0 dstWidth 2 fun j =>
      let srcCol := h_offset + j * h_scale_ratio
      copies (pUVDstStart + 2 * (i * dstStride / 2 + j / 2))
        (pUVSrcStart + 2 * (srcRow * srcStride / 2 + srcCol / 2)) 2

/-- The loops over UV of an enlargement: a byte of the margin at a time, two bytes of the picture. -/
def enlargeUV422 (srcWidth srcHeightSpan dstWidth dstHeight dstStride : ℕ) : List (Move UInt8) :=
  let srcStride := srcWidth
  let h_scale_ratio := dstWidth / srcWidth
  let v_scale_ratio := dstHeight / srcHeightSpan
  let h_offset := (dstWidth - srcWidth * h_scale_ratio) / 2
  let v_offset := (dstHeight - srcHeightSpan * v_scale_ratio) / 2
  let h_offset_end := h_offset + srcWidth * h_scale_ratio
  let v_offset_end := v_offset + srcHeightSpan * v_scale_ratio
  let pUVSrcStart := srcStride * srcHeightSpan
  let pUVDstStart := dstStride * dstHeight
  loop 0 dstHeight 1 fun i =>
    if i < v_offset ∨ v_offset_end ≤ i then
      loop 0 dstWidth 1 fun j => [.fill (pUVDstStart + (dstStride * i + j)) 128]
    else loop 0 dstWidth 1 fun j =>
      if j < h_offset ∨ h_offset_end ≤ j then [.fill (pUVDstStart + (dstStride * i + j)) 128]
      else
        let srcRow := (i - v_offset) / v_scale_ratio
        let srcCol := (j - h_offset) / h_scale_ratio
        copies (pUVDstStart + 2 * (dstStride * i / 2 + j / 2))
          (pUVSrcStart + 2 * (srcStride * srcRow / 2 + srcCol / 2)) 2

/-- `srcHeightSpan` after its default. -/
def spanOr (srcHeightSpan srcHeight : ℕ) : ℕ := if srcHeightSpan = 0 then srcHeight else srcHeightSpan

theorem spanOr_eq {srcHeightSpan srcHeight : ℕ} (h : srcHeightSpan = 0 ∨ srcHeightSpan = srcHeight) :
    spanOr srcHeightSpan srcHeight = srcHeight := by
  rw [spanOr]
  split_ifs with h0
  · rfl
  · exact h.resolve_left h0

def yuv422spResize (srcWidth srcHeight dstWidth dstHeight dstStride srcHeightSpan : ℕ) : Resized :=
  let srcHeightSpan := spanOr srcHeightSpan srcHeight
  if srcWidth = 0 ∨ srcHeightSpan = 0 ∨ dstWidth = 0 ∨ dstHeight = 0 then .refused
  else if 0 < srcWidth / dstWidth ∧ 0 < srcHeightSpan / dstHeight then
    if INT_MAX < srcWidth * srcHeightSpan ∨ INT_MAX < dstStride * dstHeight then .undefined
    else .done (reduceY srcWidth srcHeightSpan dstWidth dstHeight dstStride ++
      reduceUV422 srcWidth srcHeightSpan dstWidth dstHeight dstStride)
  else if srcWidth / dstWidth + srcHeightSpan / dstHeight ≤ 1 then
    if INT_MAX < srcWidth * srcHeightSpan ∨ INT_MAX < dstStride * dstHeight then .undefined
    else .done (enlargeY srcWidth srcHeightSpan dstWidth dstHeight dstStride ++
      enlargeUV422 srcWidth srcHeightSpan dstWidth dstHeight dstStride)
  else .refused

/-! ### What is wanted -/

/-- A packed and a planar picture with the same Y, U and V at every pixel. -/
def SamePicture (width height : ℕ) (packed planar : ℕ → UInt8) : Prop :=
  ∀ i < height, ∀ j < width, packed (2 * width * i + 2 * j) = planar (width * i + j) ∧
    ∀ b < 2, packed (2 * width * i + 4 * (j / 2) + (2 * b + 1)) =
      planar (width * height + (width * i + 2 * (j / 2)) + b)

/-- Both are refused, or both make the same picture, inside of their buffers. -/
def Agree422 (srcWidth srcHeight dstWidth dstHeight : ℕ) : Resized → Resized → Prop
  | .refused, .refused => True
  | .done p, .done s =>
    InBounds (2 * srcWidth * srcHeight) (2 * dstWidth * dstHeight) p ∧
      InBounds (2 * srcWidth * srcHeight) (2 * dstWidth * dstHeight) s ∧
      ∀ packed planar mem mem', SamePicture srcWidth srcHeight packed planar →
        SamePicture dstWidth dstHeight (run packed mem p) (run planar mem' s)
  | _, _ => False

/-! ### What the packed loops make -/

section Packed
variable {srcWidth srcHeight dstWidth dstHeight : ℕ}

/-- A byte of the four of a source row and column, or of a black pair. -/
def packedOf (srcWidth : ℕ) (src : ℕ → UInt8) (b : ℕ) : Option (ℕ × ℕ) → UInt8
  | some (r, c) => src (2 * srcWidth * r + 4 * (c / 2) + b)
  | none => if b % 2 = 0 then 0 else 128

theorem four_mul_pair {width : ℕ} (h : 2 ∣ width) (i j : ℕ) :
    4 * (width * 2 * i / 4 + j / 2) = 2 * width * i + 4 * (j / 2) := by
  obtain ⟨w, rfl⟩ := h
  rw [show 2 * w * 2 * i = 4 * (w * i) by ring, Nat.mul_div_cancel_left _ (by decide)]
  ring

theorem mem_reduceYUYV (hsw : 2 ∣ srcWidth) (hdw : 2 ∣ dstWidth) {m : Move UInt8} :
    m ∈ reduceYUYV srcWidth srcHeight dstWidth dstHeight ↔
      ∃ i < dstHeight, ∃ l, 2 * l < dstWidth ∧ ∃ b < 4,
        m = .copy (2 * dstWidth * i + 4 * l + b)
          (2 * srcWidth * shrink srcHeight dstHeight i + 4 * (shrink srcWidth dstWidth (2 * l) / 2) + b) := by
  rw [reduceYUYV, mem_loop_one]
  simp only [mem_loop (show 0 < 2 by decide), Nat.zero_add, mem_copies, four_mul_pair hsw, four_mul_pair hdw,
    Nat.mul_div_cancel_left _ (show 0 < 2 by decide)]
  rfl

theorem mem_enlargeYUYV (hsw : 2 ∣ srcWidth) (hdw : 2 ∣ dstWidth) {m : Move UInt8} :
    m ∈ enlargeYUYV srcWidth srcHeight dstWidth dstHeight ↔
      ∃ i < dstHeight, ∃ j < dstWidth,
        stretchBoth srcHeight dstHeight srcWidth dstWidth i j = none ∧
            (∃ b < 2, m = .fill (2 * dstWidth * i + 2 * j + b) (if b % 2 = 0 then 0 else 128)) ∨
          ∃ q b l, stretchBoth srcHeight dstHeight srcWidth dstWidth i j = some q ∧ j = 2 * l ∧ b < 4 ∧
            m = .copy (2 * dstWidth * i + 4 * l + b) (2 * srcWidth * q.1 + 4 * (q.2 / 2) + b) := by
  rw [enlargeYUYV, mem_loop_one]
  refine exists_congr fun i => and_congr_right fun _ => (mem_row srcHeight dstHeight srcWidth dstWidth i
    (fun j => [.fill (dstWidth * 2 * i + j * 2) 0, .fill (dstWidth * 2 * i + j * 2 + 1) 128]) fun j r c =>
      if j % 2 = 0 then copies (4 * (dstWidth * 2 * i / 4 + j / 2)) (4 * (srcWidth * 2 * r / 4 + c / 2)) 4
      else []).trans ?_
  refine exists_congr fun j => and_congr_right fun _ => ?_
  cases stretchBoth srcHeight dstHeight srcWidth dstWidth i j with
  | none =>
    simp only [Option.elim_none, List.mem_cons, List.not_mem_nil, or_false, true_and, reduceCtorEq, false_and,
      exists_false]
    rw [Nat.mul_comm dstWidth, Nat.mul_comm j]
    constructor
    · rintro (rfl | rfl)
      · exact ⟨0, by decide, rfl⟩
      · exact ⟨1, by decide, rfl⟩
    · rintro ⟨b, hb, rfl⟩
      obtain rfl | rfl : b = 0 ∨ b = 1 := by omega
      · exact .inl rfl
      · exact .inr rfl
  | some q =>
    simp only [Option.elim_some, reduceCtorEq, false_and, false_or, Option.some_inj]
    rw [four_mul_pair hsw, four_mul_pair hdw]
    split_ifs with heven
    · rw [mem_copies]
      constructor
      · rintro ⟨b, hb, rfl⟩
        exact ⟨q, b, j / 2, rfl, by omega, hb, rfl⟩
      · rintro ⟨_, b, l, rfl, rfl, hb, rfl⟩
        rw [Nat.mul_div_cancel_left l (by decide)]
        exact ⟨b, hb, rfl⟩
    · refine iff_of_false List.not_mem_nil ?_
      rintro ⟨_, _, l, _, rfl, _⟩
      omega

theorem packed_reduce_run (hsw : 2 ∣ srcWidth) (hdw : 2 ∣ dstWidth) (src mem : ℕ → UInt8) {i l b : ℕ}
    (hi : i < dstHeight) (hl : 2 * l < dstWidth) (hb : b < 4) :
    run src mem (reduceYUYV srcWidth srcHeight dstWidth dstHeight) (2 * dstWidth * i + 4 * l + b) =
      src (2 * srcWidth * shrink srcHeight dstHeight i + 4 * (shrink srcWidth dstWidth (2 * l) / 2) + b) := by
  refine run_eq mem ⟨_, (mem_reduceYUYV hsw hdw).mpr ⟨i, hi, l, hl, b, hb, rfl⟩, rfl⟩ fun m hm hdst => ?_
  obtain ⟨i', hi', l', hl', b', hb', rfl⟩ := (mem_reduceYUYV hsw hdw).mp hm
  obtain ⟨rfl, hcol⟩ := cell_add_inj (by omega) (by omega) hdst
  obtain ⟨rfl, rfl⟩ : l' = l ∧ b' = b := by omega
  rfl

theorem packed_reduce_bounds (hsw : 2 ∣ srcWidth) (hdw : 2 ∣ dstWidth)
    (hred : 0 < srcWidth / dstWidth ∧ 0 < srcHeight / dstHeight) :
    InBounds (2 * srcWidth * srcHeight) (2 * dstWidth * dstHeight)
      (reduceYUYV srcWidth srcHeight dstWidth dstHeight) := by
  intro m hm
  obtain ⟨i, hi, l, hl, b, hb, rfl⟩ := (mem_reduceYUYV hsw hdw).mp hm
  have hr := shrink_lt hred.2 hi
  have hc := shrink_lt hred.1 hl
  have hdst := cell_lt hi (show 4 * l + b < 2 * dstWidth by omega)
  have hsrc := cell_lt hr (show 4 * (shrink srcWidth dstWidth (2 * l) / 2) + b < 2 * srcWidth by omega)
  exact Move.copy_inBounds (by omega) (by omega)

theorem stretchBoth_lt {i j : ℕ} {q : ℕ × ℕ}
    (h : stretchBoth srcHeight dstHeight srcWidth dstWidth i j = some q) :
    q.1 < srcHeight ∧ q.2 < srcWidth := by
  obtain ⟨r, hr, h⟩ := Option.bind_eq_some_iff.mp h
  obtain ⟨c, hc, rfl⟩ := Option.map_eq_some_iff.mp h
  exact ⟨stretch_lt hr, stretch_lt hc⟩

theorem packed_enlarge_bounds (hsw : 2 ∣ srcWidth) (hdw : 2 ∣ dstWidth) :
    InBounds (2 * srcWidth * srcHeight) (2 * dstWidth * dstHeight)
      (enlargeYUYV srcWidth srcHeight dstWidth dstHeight) := by
  intro m hm
  obtain ⟨i, hi, j, hj, ⟨_, b, hb, rfl⟩ | ⟨q, b, l, hq, rfl, hb, rfl⟩⟩ := (mem_enlargeYUYV hsw hdw).mp hm
  · have hdst := cell_lt hi (show 2 * j + b < 2 * dstWidth by omega)
    refine ⟨?_, fun s hs => nomatch hs⟩
    show 2 * dstWidth * i + 2 * j + b < _
    omega
  · obtain ⟨hr, hc⟩ := stretchBoth_lt hq
    have hdst := cell_lt hi (show 4 * l + b < 2 * dstWidth by omega)
    have hsrc := cell_lt hr (show 4 * (q.2 / 2) + b < 2 * srcWidth by omega)
    exact Move.copy_inBounds (by omega) (by omega)

/-- What an enlargement makes of a pair, when its two pixels are in the margin together. -/
theorem packed_enlarge_run (hsw : 2 ∣ srcWidth) (hdw : 2 ∣ dstWidth) (src mem : ℕ → UInt8) {i l b : ℕ}
    (hpair : stretchBoth srcHeight dstHeight srcWidth dstWidth i (2 * l + 1) = none ↔
      stretchBoth srcHeight dstHeight srcWidth dstWidth i (2 * l) = none)
    (hi : i < dstHeight) (hl : 2 * l < dstWidth) (hb : b < 4) :
    run src mem (enlargeYUYV srcWidth srcHeight dstWidth dstHeight) (2 * dstWidth * i + 4 * l + b) =
      packedOf srcWidth src b (stretchBoth srcHeight dstHeight srcWidth dstWidth i (2 * l)) := by
  have hsame {j : ℕ} (hj : j / 2 = l) : stretchBoth srcHeight dstHeight srcWidth dstWidth i j = none ↔
      stretchBoth srcHeight dstHeight srcWidth dstWidth i (2 * l) = none := by
    obtain rfl | rfl : j = 2 * l ∨ j = 2 * l + 1 := by omega
    · rfl
    · exact hpair
  refine run_eq mem ?_ fun m hm hdst => ?_
  · cases hq : stretchBoth srcHeight dstHeight srcWidth dstWidth i (2 * l) with
    | none =>
      refine ⟨_, (mem_enlargeYUYV hsw hdw).mpr ⟨i, hi, 2 * l + b / 2, by omega,
        .inl ⟨(hsame (by omega)).mpr hq, b % 2, Nat.mod_lt b (by decide), rfl⟩⟩, ?_⟩
      show 2 * dstWidth * i + 2 * (2 * l + b / 2) + b % 2 = _
      omega
    | some q => exact ⟨_, (mem_enlargeYUYV hsw hdw).mpr
      ⟨i, hi, 2 * l, hl, .inr ⟨q, b, l, hq, rfl, hb, rfl⟩⟩, rfl⟩
  · obtain ⟨i', hi', j, hj, ⟨hq, b', hb', rfl⟩ | ⟨q, b', l', hq, rfl, hb', rfl⟩⟩ :=
      (mem_enlargeYUYV hsw hdw).mp hm
    · obtain ⟨rfl, hcol⟩ := cell_add_inj (by omega) (by omega) hdst
      rw [(hsame (show j / 2 = l by omega)).mp hq, packedOf, show b % 2 = b' % 2 by omega]
      rfl
    · obtain ⟨rfl, hcol⟩ := cell_add_inj (by omega) (by omega) hdst
      obtain ⟨rfl, rfl⟩ : l' = l ∧ b' = b := by omega
      rw [hq]
      rfl

/-- Where a margin divides a pair, the pixel in the picture is left as it was. -/
theorem packed_edge_run (hsw : 2 ∣ srcWidth) (hdw : 2 ∣ dstWidth) (src mem : ℕ → UInt8) {i l b : ℕ}
    (hout : stretchBoth srcHeight dstHeight srcWidth dstWidth i (2 * l) = none) {q : ℕ × ℕ}
    (hin : stretchBoth srcHeight dstHeight srcWidth dstWidth i (2 * l + 1) = some q) (hl : 2 * l < dstWidth)
    (hb : b < 2) :
    run src mem (enlargeYUYV srcWidth srcHeight dstWidth dstHeight) (2 * dstWidth * i + 4 * l + (b + 2)) =
      mem (2 * dstWidth * i + 4 * l + (b + 2)) := by
  refine run_untouched mem fun m hm hdst => ?_
  obtain ⟨i', hi', j, hj, ⟨hq, b', hb', rfl⟩ | ⟨q', b', l', hq, rfl, hb', rfl⟩⟩ :=
    (mem_enlargeYUYV hsw hdw).mp hm
  · obtain ⟨rfl, hcol⟩ := cell_add_inj (by omega) (by omega) hdst
    obtain rfl : j = 2 * l + 1 := by omega
    rw [hin] at hq
    exact nomatch hq
  · obtain ⟨rfl, hcol⟩ := cell_add_inj (by omega) (by omega) hdst
    obtain rfl : l' = l := by omega
    rw [hout] at hq
    exact nomatch hq

end Packed

/-! ### What the planar loops make -/

section Planar
variable {srcWidth srcHeight dstWidth dstHeight dstStride : ℕ}

theorem mem_reduceUV422 (hsw : 2 ∣ srcWidth) (hds : 2 ∣ dstStride) {m : Move UInt8} :
    m ∈ reduceUV422 srcWidth srcHeight dstWidth dstHeight dstStride ↔
      ∃ k < dstHeight, ∃ l, 2 * l < dstWidth ∧ ∃ b < 2,
        m = .copy (dstStride * dstHeight + (dstStride * k + 2 * l) + b)
          (srcWidth * srcHeight +
            (srcWidth * shrink srcHeight dstHeight k + 2 * (shrink srcWidth dstWidth (2 * l) / 2)) + b) := by
  rw [reduceUV422, mem_loop_one]
  simp only [mem_loop (show 0 < 2 by decide), Nat.zero_add, mem_copies]
  refine exists_congr fun k => and_congr_right fun _ => exists_congr fun l => and_congr_right fun _ => ?_
  rw [Nat.mul_comm k, two_mul_half hds, Nat.mul_div_cancel_left l (by decide), Nat.mul_comm _ srcWidth,
    two_mul_half hsw]
  rfl

theorem mem_enlargeUV422 {m : Move UInt8} :
    m ∈ enlargeUV422 srcWidth srcHeight dstWidth dstHeight dstStride ↔ ∃ k < dstHeight, ∃ j < dstWidth,
      m ∈ chromaMoves (dstStride * dstHeight) (srcWidth * srcHeight) dstStride srcWidth k j
        (stretchBoth srcHeight dstHeight srcWidth dstWidth k j) := by
  rw [enlargeUV422, mem_loop_one]
  refine exists_congr fun k => and_congr_right fun _ => (mem_row srcHeight dstHeight srcWidth dstWidth k
    (fun j => [.fill (dstStride * dstHeight + (dstStride * k + j)) 128]) fun j r c =>
      copies (dstStride * dstHeight + 2 * (dstStride * k / 2 + j / 2))
        (srcWidth * srcHeight + 2 * (srcWidth * r / 2 + c / 2)) 2).trans ?_
  refine exists_congr fun j => and_congr_right fun _ => ?_
  cases stretchBoth srcHeight dstHeight srcWidth dstWidth k j <;> rfl

variable (hsw : 2 ∣ srcWidth) (hdw : 2 ∣ dstWidth)
include hsw hdw

theorem planar_reduce_bounds (hred : 0 < srcWidth / dstWidth ∧ 0 < srcHeight / dstHeight) :
    InBounds (2 * srcWidth * srcHeight) (2 * dstWidth * dstHeight)
      (reduceY srcWidth srcHeight dstWidth dstHeight dstWidth ++
        reduceUV422 srcWidth srcHeight dstWidth dstHeight dstWidth) := by
  rw [Nat.mul_assoc, Nat.mul_assoc]
  intro m hm
  rcases List.mem_append.mp hm with hm | hm
  · obtain ⟨hdst, hsrc⟩ := luma_bounds le_rfl (fun m => mem_reduceY hred)
      (fun i hi j hj => sourcePixel_lt hi hj) m hm
    exact ⟨by omega, fun s hs => by have := hsrc s hs; omega⟩
  · obtain ⟨k, hk, l, hl, b, hb, rfl⟩ := (mem_reduceUV422 hsw hdw).mp hm
    have hdst := cell_lt hk (show 2 * l + b < dstWidth by omega)
    have hc := shrink_lt hred.1 hl
    have hsrc := cell_lt (shrink_lt hred.2 hk)
      (show 2 * (shrink srcWidth dstWidth (2 * l) / 2) + b < srcWidth by omega)
    exact Move.copy_inBounds (by omega) (by omega)

theorem enlargeUV422_bounds :
    (∀ m ∈ enlargeUV422 srcWidth srcHeight dstWidth dstHeight dstWidth, dstWidth * dstHeight ≤ m.dst) ∧
      InBounds (srcWidth * srcHeight + srcWidth * srcHeight) (dstWidth * dstHeight + dstWidth * dstHeight)
        (enlargeUV422 srcWidth srcHeight dstWidth dstHeight dstWidth) :=
  chroma_bounds hdw hsw hdw le_rfl (fun _ => mem_enlargeUV422) fun _ _ _ _ _ hp => stretchBoth_lt hp

theorem planar_enlarge_bounds (hsmall : ¬ (0 < srcWidth / dstWidth ∧ 0 < srcHeight / dstHeight)) :
    InBounds (2 * srcWidth * srcHeight) (2 * dstWidth * dstHeight)
      (enlargeY srcWidth srcHeight dstWidth dstHeight dstWidth ++
        enlargeUV422 srcWidth srcHeight dstWidth dstHeight dstWidth) := by
  rw [Nat.mul_assoc, Nat.mul_assoc]
  intro m hm
  rcases List.mem_append.mp hm with hm | hm
  · obtain ⟨hdst, hsrc⟩ :=
      luma_bounds le_rfl (fun m => mem_enlargeY hsmall) (fun i hi j hj => sourcePixel_lt hi hj) m hm
    exact ⟨by omega, fun s hs => by have := hsrc s hs; omega⟩
  · obtain ⟨hdst, hsrc⟩ := (enlargeUV422_bounds hsw hdw).2 m hm
    exact ⟨by omega, fun s hs => by have := hsrc s hs; omega⟩

end Planar

/-! ### Agreement -/

section Agreement
variable {srcWidth srcHeight dstWidth dstHeight : ℕ}

/-- A picture with a single bright pixel. -/
theorem dot_same {width height a : ℕ} (ha : a < width * height) :
    SamePicture width height (fun x => if x = 2 * a then 1 else 0) fun x => if x = a then 1 else 0 := by
  intro i _ j _
  simp only [Nat.mul_assoc]
  refine ⟨?_, fun b _ => ?_⟩
  · by_cases h : width * i + j = a
    · rw [if_pos h, if_pos (by omega)]
    · rw [if_neg h, if_neg (by omega)]
  · rw [if_neg (by omega), if_neg (by omega)]

theorem packedOf_eq_pairOf {packed planar : ℕ → UInt8} (hsame : SamePicture srcWidth srcHeight packed planar)
    {q : Option (ℕ × ℕ)} (hq : ∀ p ∈ q, p.1 < srcHeight ∧ p.2 < srcWidth) {b : ℕ} (hb : b < 2) :
    packedOf srcWidth packed (2 * b + 1) q = pairOf (srcWidth * srcHeight) srcWidth planar b q := by
  cases q with
  | none => rw [packedOf, if_neg (by omega), pairOf]
  | some p => exact (hsame p.1 (hq p rfl).1 p.2 (hq p rfl).2).2 b hb

variable (hsw : 2 ∣ srcWidth) (hdw : 2 ∣ dstWidth)
include hsw hdw

section Reduce
variable (hred : 0 < srcWidth / dstWidth ∧ 0 < srcHeight / dstHeight)
include hred

theorem planar_reduce_luma (src mem : ℕ → UInt8) {i j : ℕ} (hi : i < dstHeight) (hj : j < dstWidth) :
    run src mem (reduceY srcWidth srcHeight dstWidth dstHeight dstWidth ++
        reduceUV422 srcWidth srcHeight dstWidth dstHeight dstWidth) (dstWidth * i + j) =
      src (srcWidth * shrink srcHeight dstHeight i + shrink srcWidth dstWidth j) := by
  rw [luma_run le_rfl (fun m => mem_reduceY hred) (fun m hm => ?_) src mem hi hj, sourcePixel, if_pos hred]
  · rfl
  · obtain ⟨k, hk, l, hl, b, hb, rfl⟩ := (mem_reduceUV422 hsw hdw).mp hm
    show _ ≤ dstWidth * dstHeight + (dstWidth * k + 2 * l) + b
    omega

omit hred in
theorem planar_reduce_chroma (src mem : ℕ → UInt8) {i l b : ℕ} (hi : i < dstHeight) (hl : 2 * l < dstWidth)
    (hb : b < 2) :
    run src mem (reduceY srcWidth srcHeight dstWidth dstHeight dstWidth ++
        reduceUV422 srcWidth srcHeight dstWidth dstHeight dstWidth)
        (dstWidth * dstHeight + (dstWidth * i + 2 * l) + b) =
      src (srcWidth * srcHeight +
        (srcWidth * shrink srcHeight dstHeight i + 2 * (shrink srcWidth dstWidth (2 * l) / 2)) + b) := by
  rw [run_append]
  exact copied_run hdw le_rfl (fun _ => mem_reduceUV422 hsw hdw) src _ hi hl hb

theorem reduce_agree_iff :
    (∀ packed planar mem mem', SamePicture srcWidth srcHeight packed planar →
      SamePicture dstWidth dstHeight (run packed mem (reduceYUYV srcWidth srcHeight dstWidth dstHeight))
        (run planar mem' (reduceY srcWidth srcHeight dstWidth dstHeight dstWidth ++
          reduceUV422 srcWidth srcHeight dstWidth dstHeight dstWidth))) ↔
      srcWidth / dstWidth = 1 ∧ srcWidth % dstWidth % 4 = 0 := by
  rw [← margin_even_iff hdw hsw]
  have hpos : 0 < dstWidth ∧ 0 < dstHeight := by
    refine ⟨Nat.pos_of_ne_zero fun h => ?_, Nat.pos_of_ne_zero fun h => ?_⟩
    · rw [h, Nat.div_zero] at hred
      exact absurd hred.1 (by decide)
    · rw [h, Nat.div_zero] at hred
      exact absurd hred.2 (by decide)
  constructor
  · intro h
    -- The second pixel of the first pair, with only its own source pixel bright.
    obtain ⟨R, hR⟩ : ∃ R, R = shrink srcHeight dstHeight 0 := ⟨_, rfl⟩
    have hlast := shrink_lt hred.1 (show 1 < dstWidth by omega)
    have hcell := cell_lt (hR ▸ shrink_lt hred.2 hpos.2) hlast
    have hluma := (h _ _ 0 0 (dot_same hcell) 0 hpos.2 1 (by omega)).1
    rw [planar_reduce_luma hsw hdw hred _ _ hpos.2 (by omega), ← hR, if_pos rfl,
      show 2 * dstWidth * 0 + 2 * 1 = 2 * dstWidth * 0 + 4 * 0 + 2 from rfl,
      packed_reduce_run hsw hdw _ _ hpos.2 (by omega) (by decide), ← hR] at hluma
    have haddr : 2 * srcWidth * R + 4 * (shrink srcWidth dstWidth (2 * 0) / 2) + 2 =
        2 * (srcWidth * R + shrink srcWidth dstWidth 1) := by
      by_contra hne
      rw [if_neg hne] at hluma
      exact absurd hluma (by decide)
    rw [shrink_eq, shrink_eq, Nat.mul_assoc] at haddr
    omega
  · rintro ⟨hratio, hmargin⟩ packed planar mem mem' hsame i hi j hj
    have hr := shrink_lt hred.2 hi
    have hc := shrink_lt hred.1 (show 2 * (j / 2) < dstWidth by omega)
    refine ⟨?_, fun b hb => ?_⟩
    · have hl : 2 * dstWidth * i + 2 * j = 2 * dstWidth * i + 4 * (j / 2) + 2 * (j % 2) := by omega
      rw [hl, packed_reduce_run hsw hdw _ _ hi (by omega) (by omega),
        planar_reduce_luma hsw hdw hred _ _ hi hj, ← (hsame _ hr _ (shrink_lt hred.1 hj)).1]
      congr 1
      rw [shrink_eq _ _ (2 * (j / 2)), shrink_eq _ _ j, hratio]
      omega
    · rw [packed_reduce_run hsw hdw _ _ hi (by omega) (by omega),
        planar_reduce_chroma hsw hdw _ _ hi (by omega) hb]
      exact (hsame _ hr _ hc).2 b hb

end Reduce

section Enlarge
variable (hsmall : ¬ (0 < srcWidth / dstWidth ∧ 0 < srcHeight / dstHeight))

omit hsw hdw in
/-- The two pixels of a pair are in the margin, or from the two of a pair of the source. -/
theorem stretchBoth_moved (srcHeight dstHeight : ℕ) (hsw : 2 ∣ srcWidth)
    (hcols : dstWidth < srcWidth ∨ dstHeight < srcHeight ∨
      dstWidth / srcWidth = 1 ∧ 2 ∣ margin srcWidth dstWidth) (i l : ℕ) :
    stretchBoth srcHeight dstHeight srcWidth dstWidth i (2 * l) = none ∧
        stretchBoth srcHeight dstHeight srcWidth dstWidth i (2 * l + 1) = none ∨
      ∃ r c, stretchBoth srcHeight dstHeight srcWidth dstWidth i (2 * l) = some (r, 2 * c) ∧
        stretchBoth srcHeight dstHeight srcWidth dstWidth i (2 * l + 1) = some (r, 2 * c + 1) := by
  rw [stretchBoth, stretchBoth]
  rcases hcols with h | h | ⟨hratio, hmargin⟩
  · rw [stretch_of_shorter h, stretch_of_shorter h]
    cases stretch srcHeight dstHeight i <;> exact .inl ⟨rfl, rfl⟩
  · rw [stretch_of_shorter h]
    exact .inl ⟨rfl, rfl⟩
  · obtain ⟨hnext, heven⟩ := stretch_moved hratio hsw hmargin l
    rw [hnext]
    cases stretch srcHeight dstHeight i with
    | none => exact .inl ⟨rfl, rfl⟩
    | some r =>
      cases hc : stretch srcWidth dstWidth (2 * l) with
      | none => exact .inl ⟨rfl, rfl⟩
      | some c =>
        obtain ⟨c, rfl⟩ := heven c hc
        exact .inr ⟨r, c, rfl, rfl⟩

include hsmall

theorem planar_enlarge_luma (src mem : ℕ → UInt8) {i j : ℕ} (hi : i < dstHeight) (hj : j < dstWidth) :
    run src mem (enlargeY srcWidth srcHeight dstWidth dstHeight dstWidth ++
        enlargeUV422 srcWidth srcHeight dstWidth dstHeight dstWidth) (dstWidth * i + j) =
      lumaOf srcWidth src (stretchBoth srcHeight dstHeight srcWidth dstWidth i j) := by
  rw [luma_run le_rfl (fun m => mem_enlargeY hsmall) (enlargeUV422_bounds hsw hdw).1 src mem hi hj,
    sourcePixel, if_neg hsmall]

theorem enlarge_agree_iff (hpos : 0 < srcWidth ∧ 0 < srcHeight) :
    (∀ packed planar mem mem', SamePicture srcWidth srcHeight packed planar →
      SamePicture dstWidth dstHeight (run packed mem (enlargeYUYV srcWidth srcHeight dstWidth dstHeight))
        (run planar mem' (enlargeY srcWidth srcHeight dstWidth dstHeight dstWidth ++
          enlargeUV422 srcWidth srcHeight dstWidth dstHeight dstWidth))) ↔
      dstWidth < srcWidth ∨ dstHeight < srcHeight ∨ dstWidth / srcWidth = 1 ∧
        dstWidth % srcWidth % 4 = 0 := by
  rw [← margin_even_iff hsw hdw]
  constructor
  · intro h
    by_contra hnot
    obtain ⟨hw, hh, hcol⟩ : ¬ dstWidth < srcWidth ∧ ¬ dstHeight < srcHeight ∧
        ¬ (dstWidth / srcWidth = 1 ∧ 2 ∣ margin srcWidth dstWidth) := by
      rw [not_or, not_or] at hnot
      exact hnot
    have hcratio : 0 < dstWidth / srcWidth := Nat.div_pos (not_lt.mp hw) hpos.1
    have hrratio : 0 < dstHeight / srcHeight := Nat.div_pos (not_lt.mp hh) hpos.2
    have hrows := margin_le srcHeight dstHeight
    have hcols := margin_le srcWidth dstWidth
    have hmulr : srcHeight * 1 ≤ srcHeight * (dstHeight / srcHeight) := Nat.mul_le_mul_left _ hrratio
    have hmulc : srcWidth * 1 ≤ srcWidth * (dstWidth / srcWidth) := Nat.mul_le_mul_left _ hcratio
    have hrow := stretch_margin hpos.2 hrratio
    by_cases heven : 2 ∣ margin srcWidth dstWidth
    · -- The first pair in the picture repeats one pixel, and the packed one has two of the source.
      obtain ⟨l, hl⟩ := heven
      have hfirst : stretchBoth srcHeight dstHeight srcWidth dstWidth (margin srcHeight dstHeight) (2 * l) =
          some (0, 0) := by
        rw [stretchBoth, hrow, ← hl, stretch_margin hpos.1 hcratio]
        rfl
      have hratio : 2 ≤ dstWidth / srcWidth := by
        have : dstWidth / srcWidth ≠ 1 := fun h1 => hcol ⟨h1, l, hl⟩
        omega
      have hmul : srcWidth * 2 ≤ srcWidth * (dstWidth / srcWidth) := Nat.mul_le_mul_left _ hratio
      have hsecond : stretchBoth srcHeight dstHeight srcWidth dstWidth (margin srcHeight dstHeight)
        (2 * l + 1) =
          some (0, 0) := by
        rw [stretchBoth, hrow, stretch_some_of_mem (by omega) (by omega), hl, Nat.add_sub_cancel_left,
          Nat.div_eq_of_lt (show 1 < dstWidth / srcWidth by omega)]
        rfl
      have hluma := (h _ _ 0 0 (dot_same (show 0 < srcWidth * srcHeight from Nat.mul_pos hpos.1 hpos.2))
        (margin srcHeight dstHeight) (by omega) (2 * l + 1) (by omega)).1
      rw [planar_enlarge_luma hsw hdw hsmall _ _ (by omega) (by omega), hsecond,
        show 2 * dstWidth * margin srcHeight dstHeight + 2 * (2 * l + 1) =
          2 * dstWidth * margin srcHeight dstHeight + 4 * l + 2 by omega,
        packed_enlarge_run hsw hdw _ _ (by rw [hfirst, hsecond]) (by omega) (by omega) (by decide),
          hfirst] at hluma
      exact absurd (show (0 : UInt8) = 1 from hluma) (by decide)
    · -- The pixel behind the margin is not written by the packed one.
      obtain ⟨l, hl⟩ : ∃ l, margin srcWidth dstWidth = 2 * l + 1 := ⟨margin srcWidth dstWidth / 2, by omega⟩
      have hout : stretchBoth srcHeight dstHeight srcWidth dstWidth (margin srcHeight dstHeight) (2 * l) =
        none := by
        rw [stretchBoth, hrow, stretch_none_of_lt (by omega)]
        rfl
      have hin : stretchBoth srcHeight dstHeight srcWidth dstWidth (margin srcHeight dstHeight) (2 * l + 1) =
          some (0, 0) := by
        rw [stretchBoth, hrow, ← hl, stretch_margin hpos.1 hcratio]
        rfl
      have hchroma := (h 0 0 1 0 (fun _ _ _ _ => ⟨rfl, fun _ _ => rfl⟩) (margin srcHeight dstHeight)
        (by omega)
        (2 * l) (by omega)).2 1 (by decide)
      rw [Nat.mul_div_cancel_left l (by decide), packed_edge_run hsw hdw _ _ hout hin (by omega) (by decide),
        run_append, edge_run hdw hsw hdw le_rfl (fun m => mem_enlargeUV422) (by omega)
          (by omega) hout
          hin] at hchroma
      exact absurd (show (1 : UInt8) = 0 from hchroma) (by decide)
  · intro hcols packed planar mem mem' hsame i hi j hj
    have hmoved := stretchBoth_moved srcHeight dstHeight hsw hcols
    have hnone : stretchBoth srcHeight dstHeight srcWidth dstWidth i (2 * (j / 2) + 1) = none ↔
        stretchBoth srcHeight dstHeight srcWidth dstWidth i (2 * (j / 2)) = none := by
      obtain ⟨h0, h1⟩ | ⟨r, c, h0, h1⟩ := hmoved i (j / 2)
      · rw [h0, h1]
      · rw [h0, h1]
        exact iff_of_false (Option.some_ne_none _) (Option.some_ne_none _)
    refine ⟨?_, fun b hb => ?_⟩
    · rw [show 2 * dstWidth * i + 2 * j = 2 * dstWidth * i + 4 * (j / 2) + 2 * (j % 2) by omega,
        packed_enlarge_run hsw hdw _ _ hnone hi (by omega) (by omega),
          planar_enlarge_luma hsw hdw hsmall _ _ hi hj]
      have hj2 : j = 2 * (j / 2) ∨ j = 2 * (j / 2) + 1 := by omega
      obtain ⟨h0, h1⟩ | ⟨r, c, h0, h1⟩ := hmoved i (j / 2)
      · have hpix : stretchBoth srcHeight dstHeight srcWidth dstWidth i j = none := by
          rcases hj2 with hj2 | hj2 <;> rw [hj2] <;> assumption
        rw [h0, hpix, packedOf, if_pos (Nat.mul_mod_right 2 _)]
        rfl
      · have hpix : stretchBoth srcHeight dstHeight srcWidth dstWidth i j = some (r, 2 * c + j % 2) := by
          rcases hj2 with hj2 | hj2
          · rw [show j % 2 = 0 by omega, Nat.add_zero, ← h0, ← hj2]
          · rw [show j % 2 = 1 by omega, ← h1, ← hj2]
        obtain ⟨hr, hc⟩ := stretchBoth_lt hpix
        rw [h0, hpix]
        show packed (2 * srcWidth * r + 4 * (2 * c / 2) + 2 * (j % 2)) =
          planar (srcWidth * r + (2 * c + j % 2))
        rw [← (hsame r hr _ hc).1]
        congr 1
        omega
    · rw [packed_enlarge_run hsw hdw _ _ hnone hi (by omega) (by omega),
        packedOf_eq_pairOf hsame (fun p hp => stretchBoth_lt hp) hb,
        run_append, chroma_run hdw hsw hdw le_rfl (fun m => mem_enlargeUV422) (fun k _ l => ?_) planar _
          hi (by omega) hb]
      obtain ⟨h0, h1⟩ | ⟨r, c, h0, h1⟩ := hmoved k l
      · rw [h0, h1]
      · rw [h0, h1, Option.map_some, Option.map_some, show (2 * c + 1) / 2 = 2 * c / 2 by omega]

end Enlarge

/-- No product of the two resizes exceeds an `int`. -/
def Fits422 (srcWidth srcHeight dstWidth dstHeight : ℕ) : Prop :=
  srcWidth * srcHeight ≤ INT_MAX ∧ dstWidth * dstHeight ≤ INT_MAX ∧
    if 0 < srcWidth / dstWidth ∧ 0 < srcHeight / dstHeight then
      reduceYUYVFits srcWidth srcHeight dstWidth dstHeight
    else enlargeYUYVFits srcWidth srcHeight dstWidth dstHeight

/-- The columns are only moved, by whole pairs, or none is kept. -/
def PairsMoved (srcWidth srcHeight dstWidth dstHeight : ℕ) : Prop :=
  if 0 < srcWidth / dstWidth ∧ 0 < srcHeight / dstHeight then
    srcWidth / dstWidth = 1 ∧ srcWidth % dstWidth % 4 = 0
  else dstWidth < srcWidth ∨ dstHeight < srcHeight ∨ dstWidth / srcWidth = 1 ∧ dstWidth % srcWidth % 4 = 0

/-- A pair of sizes for which the scaling is not supported. -/
def Unsupported (srcWidth srcHeight dstWidth dstHeight : ℕ) : Prop :=
  ¬ (0 < srcWidth / dstWidth ∧ 0 < srcHeight / dstHeight) ∧ 1 < srcWidth / dstWidth + srcHeight / dstHeight

omit hsw hdw in
theorem packed_in_bounds (hsw : 2 ∣ srcWidth) (hdw : 2 ∣ dstWidth) {moves : List (Move UInt8)}
    (h : yuv422iResize srcWidth srcHeight dstWidth dstHeight = .done moves) :
    InBounds (2 * srcWidth * srcHeight) (2 * dstWidth * dstHeight) moves := by
  rw [yuv422iResize] at h
  split_ifs at h with _ _ hred
  · obtain rfl := Resized.done.inj h
    exact packed_reduce_bounds hsw hdw hred
  · obtain rfl := Resized.done.inj h
    exact packed_enlarge_bounds hsw hdw

theorem planar_in_bounds {srcHeightSpan : ℕ} (hspan : srcHeightSpan = 0 ∨ srcHeightSpan = srcHeight)
    {moves : List (Move UInt8)}
    (h : yuv422spResize srcWidth srcHeight dstWidth dstHeight dstWidth srcHeightSpan = .done moves) :
    InBounds (2 * srcWidth * srcHeight) (2 * dstWidth * dstHeight) moves := by
  rw [yuv422spResize, spanOr_eq hspan] at h
  split_ifs at h with _ hred
  · obtain rfl := Resized.done.inj h
    exact planar_reduce_bounds hsw hdw hred
  · obtain rfl := Resized.done.inj h
    exact planar_enlarge_bounds hsw hdw hred

omit hsw hdw in
theorem agree_done_iff {F : Prop} [Decidable F] {p s : List (Move UInt8)}
    (hp : InBounds (2 * srcWidth * srcHeight) (2 * dstWidth * dstHeight) p)
    (hs : InBounds (2 * srcWidth * srcHeight) (2 * dstWidth * dstHeight) s) :
    Agree422 srcWidth srcHeight dstWidth dstHeight (if F then .done p else .undefined)
        (if INT_MAX < srcWidth * srcHeight ∨ INT_MAX < dstWidth * dstHeight then .undefined else .done s) ↔
      (srcWidth * srcHeight ≤ INT_MAX ∧ dstWidth * dstHeight ≤ INT_MAX ∧ F) ∧
        ∀ packed planar mem mem', SamePicture srcWidth srcHeight packed planar →
          SamePicture dstWidth dstHeight (run packed mem p) (run planar mem' s) := by
  split_ifs with hF hint hint
  · exact iff_of_false id fun h => by omega
  · exact ⟨fun h => ⟨⟨by omega, by omega, hF⟩, h.2.2⟩, fun h => ⟨hp, hs, h.2⟩⟩
  · exact iff_of_false id fun h => hF h.1.2.2
  · exact iff_of_false id fun h => hF h.1.2.2

/-- Both stay inside of their buffers. They agree where the columns are moved by whole pairs, when no product
    exceeds an `int`. -/
theorem yuv422_agree_iff (hpos : 0 < srcWidth ∧ 0 < srcHeight ∧ 0 < dstWidth ∧ 0 < dstHeight)
    {srcHeightSpan : ℕ}
    (hspan : srcHeightSpan = 0 ∨ srcHeightSpan = srcHeight) :
    (∀ moves, yuv422iResize srcWidth srcHeight dstWidth dstHeight = .done moves →
        InBounds (2 * srcWidth * srcHeight) (2 * dstWidth * dstHeight) moves) ∧
      (∀ moves, yuv422spResize srcWidth srcHeight dstWidth dstHeight dstWidth srcHeightSpan = .done moves →
        InBounds (2 * srcWidth * srcHeight) (2 * dstWidth * dstHeight) moves) ∧
      (Agree422 srcWidth srcHeight dstWidth dstHeight (yuv422iResize srcWidth srcHeight dstWidth dstHeight)
          (yuv422spResize srcWidth srcHeight dstWidth dstHeight dstWidth srcHeightSpan) ↔
        (srcWidth * 2 ≤ INT_MAX ∧ dstWidth * 2 ≤ INT_MAX) ∧
          (Unsupported srcWidth srcHeight dstWidth dstHeight ∨
            Fits422 srcWidth srcHeight dstWidth dstHeight ∧
              PairsMoved srcWidth srcHeight dstWidth dstHeight)) := by
  refine ⟨fun _ => packed_in_bounds hsw hdw, fun _ => planar_in_bounds hsw hdw hspan, ?_⟩
  have hzero : ¬ (srcWidth = 0 ∨ srcHeight = 0 ∨ dstWidth = 0 ∨ dstHeight = 0) := by omega
  rw [yuv422iResize, yuv422spResize, spanOr_eq hspan, Unsupported, Fits422, PairsMoved, if_neg hzero,
    if_neg hzero]
  by_cases hint : INT_MAX < srcWidth * 2 ∨ INT_MAX < dstWidth * 2
  · rw [if_pos hint]
    exact iff_of_false id fun h => by omega
  · have hwidths : srcWidth * 2 ≤ INT_MAX ∧ dstWidth * 2 ≤ INT_MAX := by omega
    rw [if_neg hint, and_iff_right hwidths]
    by_cases hred : 0 < srcWidth / dstWidth ∧ 0 < srcHeight / dstHeight
    · rw [if_pos hred, if_pos hred, if_pos hred, if_pos hred, ← reduce_agree_iff hsw hdw hred,
        agree_done_iff (packed_reduce_bounds hsw hdw hred) (planar_reduce_bounds hsw hdw hred),
        or_iff_right fun h => h.1 hred]
    · rw [if_neg hred, if_neg hred, if_neg hred, if_neg hred, ← enlarge_agree_iff hsw hdw hred
        ⟨hpos.1, hpos.2.1⟩]
      by_cases hsum : srcWidth / dstWidth + srcHeight / dstHeight ≤ 1
      · rw [if_pos hsum, if_pos hsum,
          agree_done_iff (packed_enlarge_bounds hsw hdw) (planar_enlarge_bounds hsw hdw hred),
          or_iff_right fun h => absurd h.2 (not_lt.mpr hsum)]
      · rw [if_neg hsum, if_neg hsum]
        exact iff_of_true trivial (.inl ⟨hred, not_le.mp hsum⟩)

end Agreement

theorem rows_halved : Agree422 4 4 4 2 (yuv422iResize 4 4 4 2) (yuv422spResize 4 4 4 2 4 0) :=
  ((yuv422_agree_iff (by decide) (by decide) (by decide) (.inl rfl)).2.2).mpr ⟨by decide, .inr ⟨by
    rw [Fits422]
    decide, by
    rw [PairsMoved]
    decide⟩⟩

/-- Half of the columns: the packed one takes the second pixel of a pair beside the first. -/
theorem columns_halved : ¬ Agree422 4 2 2 2 (yuv422iResize 4 2 2 2) (yuv422spResize 4 2 2 2 2 0) := by
  intro h
  have hluma := (h.2.2 _ _ 0 0 (dot_same (show 2 < 4 * 2 by decide)) 0 (by decide) 1 (by decide)).1
  exact absurd hluma (by decide +kernel)

end ImxHal.Image
