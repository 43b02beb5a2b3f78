import ImxHal.Image.Resize

/-! @src image_process/ImageUtils.cpp (enlargeNV12WithBlackMargin, decreaseNV12WithCut) | name:NV12 margins |
    scheme:blit | family:pictures

    A picture is put in the middle of a larger one, or its middle is cut out, a row at a time: the margins are
    half of the difference, and half of that again for the rows of chroma pairs, which have as many bytes as
    those of luma.

        dstBuf    │ Y: dstWidth × dstHeight │ UV: dstWidth × dstHeight / 2 │ -/

namespace ImxHal.Image
open ImxHal.Blit

/-- The part of `enlargeNV12WithBlackMargin` that processes Y. -/
def enlargeNV12Y (srcWidth srcHeight dstWidth dstHeight : ℕ) : List (Move UInt8) :=
  let YSrcStrideBytes := srcWidth
  let YDstStrideBytes := dstWidth
  let WidthMargin := (dstWidth - srcWidth) / 2
  let leftOffset := WidthMargin
  let rightOffset := dstWidth - WidthMargin
  let HeightMargin := (dstHeight - srcHeight) / 2
  let topOffset := HeightMargin
  let bottomOffset := dstHeight - HeightMargin
  fills 0 (HeightMargin * YDstStrideBytes) 0 ++
    fills (bottomOffset * YDstStrideBytes) (HeightMargin * YDstStrideBytes) 0 ++
    loop topOffset bottomOffset 1 fun row =>
      fills (row * YDstStrideBytes) WidthMargin 0 ++
        fills (row * YDstStrideBytes + rightOffset) WidthMargin 0 ++
        copies (row * YDstStrideBytes + leftOffset) ((row - topOffset) * YSrcStrideBytes) YSrcStrideBytes

/-- The part that processes UV, every other row. -/
def enlargeNV12UV (srcWidth srcHeight dstWidth dstHeight : ℕ) : List (Move UInt8) :=
  let UVSrcStrideBytes := srcWidth
  let UVDstStrideBytes := dstWidth
  let WidthMargin := (dstWidth - srcWidth) / 2
  let rightOffset := dstWidth - WidthMargin
  let HeightMargin := (dstHeight - srcHeight) / 2
  let topOffset := HeightMargin
  let bottomOffset := dstHeight - HeightMargin
  let dstUVBuf := dstWidth * dstHeight
  let srcUVBuf := srcWidth * srcHeight
  fills dstUVBuf (HeightMargin / 2 * UVDstStrideBytes) 128 ++
    fills (dstUVBuf + bottomOffset / 2 * UVDstStrideBytes) (HeightMargin / 2 * UVDstStrideBytes) 128 ++
    loop topOffset bottomOffset 2 fun row =>
      fills (dstUVBuf + row / 2 * UVDstStrideBytes) WidthMargin 128 ++
        fills (dstUVBuf + row / 2 * UVDstStrideBytes + rightOffset) WidthMargin 128 ++
        copies (dstUVBuf + row / 2 * UVDstStrideBytes + WidthMargin)
          (srcUVBuf + (row - topOffset) / 2 * UVSrcStrideBytes) UVSrcStrideBytes

def enlargeNV12WithBlackMargin (srcBuf srcWidth srcHeight dstBuf dstWidth dstHeight : ℕ) : Resized :=
  if srcBuf = 0 ∨ dstBuf = 0 then .done []
  else if ¬ (srcWidth < dstWidth ∧ srcHeight < dstHeight) then .done []
  else if INT_MAX < dstWidth * dstHeight then .undefined
  else .done (enlargeNV12Y srcWidth srcHeight dstWidth dstHeight ++
    enlargeNV12UV srcWidth srcHeight dstWidth dstHeight)

/-- `leftOffset` of a cut: an odd one would take V for U. -/
def cutLeftOffset (srcWidth dstWidth : ℕ) : ℕ :=
  let leftOffset := (srcWidth - dstWidth) / 2
  if leftOffset % 2 ≠ 0 then leftOffset - 1 else leftOffset

/-- The part of `decreaseNV12WithCut` that processes Y. -/
def decreaseNV12Y (srcWidth srcHeight dstWidth dstHeight : ℕ) : List (Move UInt8) :=
  let topOffset := (srcHeight - dstHeight) / 2
  let leftOffset := cutLeftOffset srcWidth dstWidth
  loop 0 dstHeight 1 fun dstRow =>
    let srcRow := dstRow + topOffset
    copies (dstRow * dstWidth) (srcRow * srcWidth + leftOffset) dstWidth

/-- The part that processes UV, every other row. -/
def decreaseNV12UV (srcWidth srcHeight dstWidth dstHeight : ℕ) : List (Move UInt8) :=
  let topOffset := (srcHeight - dstHeight) / 2
  let leftOffset := cutLeftOffset srcWidth dstWidth
  let dstUVBuf := dstWidth * dstHeight
  let srcUVBuf := srcWidth * srcHeight
  loop 0 dstHeight 2 fun dstRow =>
    let srcRow := (dstRow + topOffset) / 2
    copies (dstUVBuf + dstRow / 2 * dstWidth) (srcUVBuf + srcRow * srcWidth + leftOffset) dstWidth

def decreaseNV12WithCut (srcBuf srcWidth srcHeight dstBuf dstWidth dstHeight : ℕ) : Resized :=
  if srcBuf = 0 ∨ dstBuf = 0 then .done []
  else if ¬ (dstWidth < srcWidth ∧ dstHeight < srcHeight) then .done []
  else if INT_MAX < srcWidth * srcHeight then .undefined
  else .done (decreaseNV12Y srcWidth srcHeight dstWidth dstHeight ++
    decreaseNV12UV srcWidth srcHeight dstWidth dstHeight)

/-! ### What is wanted -/

/-- The source in the middle of a black picture, its chroma at a row and a column of pairs. -/
structure Padded (srcWidth srcHeight dstWidth dstHeight top left : ℕ) (moves : List (Move UInt8)) : Prop where
  bounds : InBounds (srcWidth * srcHeight + srcWidth * (srcHeight / 2))
    (dstWidth * dstHeight + dstWidth * (dstHeight / 2)) moves
  luma : ∀ src mem, ∀ i < dstHeight, ∀ j < dstWidth, run src mem moves (dstWidth * i + j) =
    window 0 srcWidth srcHeight ((dstHeight - srcHeight) / 2) ((dstWidth - srcWidth) / 2) 0 src i j
  chroma : ∀ src mem, ∀ k < dstHeight / 2, ∀ j < dstWidth,
    run src mem moves (dstWidth * dstHeight + (dstWidth * k + j)) =
      window (srcWidth * srcHeight) srcWidth (srcHeight / 2) top (2 * left) 128 src k j

/-- A rectangle of the source, with the chroma of the rows of `P`. -/
structure Rectangle (srcWidth srcHeight dstWidth dstHeight : ℕ) (P : ℕ → Prop) (top left : ℕ)
    (moves : List (Move UInt8)) : Prop where
  inside : top + dstHeight ≤ srcHeight ∧ left + dstWidth ≤ srcWidth
  bounds : InBounds (srcWidth * srcHeight + srcWidth * (srcHeight / 2))
    (dstWidth * dstHeight + dstWidth * (dstHeight / 2)) moves
  luma : ∀ src mem, ∀ i < dstHeight, ∀ j < dstWidth,
    run src mem moves (dstWidth * i + j) = src (srcWidth * (top + i) + (left + j))
  chroma : ∀ src mem, ∀ i < dstHeight, P i → ∀ j < dstWidth, ∀ b < 2,
    run src mem moves (dstWidth * dstHeight + (dstWidth * (i / 2) + 2 * (j / 2)) + b) =
      src (srcWidth * srcHeight + (srcWidth * ((top + i) / 2) + 2 * ((left + j) / 2)) + b)

/-- It is defined, and its moves are as wanted. -/
def Makes (P : List (Move UInt8) → Prop) : Resized → Prop
  | .done moves => P moves
  | _ => False

/-! ### Margins -/

section Enlarge
variable {srcWidth srcHeight n t l : ℕ}

theorem enlargeNV12Y_eq :
    enlargeNV12Y srcWidth srcHeight (l + srcWidth + l) (t + srcHeight + t) =
      pad 0 0 srcWidth srcHeight t l 0 := by
  have hl : (l + srcWidth + l - srcWidth) / 2 = l := by omega
  have ht : (t + srcHeight + t - srcHeight) / 2 = t := by omega
  simp only [enlargeNV12Y, pad, hl, ht, Nat.add_sub_cancel, Nat.zero_add]
  rw [loop_eq_count]
  simp only [Nat.add_sub_cancel_left, Nat.add_sub_cancel, Nat.div_one, Nat.one_mul,
    Nat.mul_comm _ (l + srcWidth + l), Nat.mul_comm _ srcWidth]

theorem enlargeNV12UV_eq :
    enlargeNV12UV srcWidth (2 * n) (l + srcWidth + l) (t + 2 * n + t) =
      pad ((l + srcWidth + l) * (t + 2 * n + t)) (srcWidth * (2 * n)) srcWidth n (t / 2) l 128 := by
  have hl : (l + srcWidth + l - srcWidth) / 2 = l := by omega
  have ht : (t + 2 * n + t - 2 * n) / 2 = t := by omega
  have hbottom : (t + 2 * n) / 2 = t / 2 + n := by omega
  have hcount : (2 * n + 2 - 1) / 2 = n := by omega
  simp only [enlargeNV12UV, pad, hl, ht, hbottom, Nat.add_sub_cancel]
  rw [loop_eq_count]
  have hrow (k : ℕ) : (t + 2 * k) / 2 = t / 2 + k := by omega
  simp only [Nat.add_sub_cancel_left, hcount, hrow, Nat.mul_div_cancel_left _ (show 0 < 2 by decide),
    Nat.mul_comm _ (l + srcWidth + l), Nat.mul_comm _ srcWidth]

theorem enlarge_margins_bounds : InBounds (srcWidth * (2 * n) + srcWidth * n)
    ((l + srcWidth + l) * (t + 2 * n + t) + (l + srcWidth + l) * (t + n))
    (pad 0 0 srcWidth (2 * n) t l 0 ++
      pad ((l + srcWidth + l) * (t + 2 * n + t)) (srcWidth * (2 * n)) srcWidth n (t / 2) l
        (128 : UInt8)) := by
  intro m hm
  rcases List.mem_append.mp hm with hm | hm
  · obtain ⟨_, hdst, hsrc⟩ := pad_bounds m hm
    exact ⟨by omega, fun s hs => by have := hsrc s hs; omega⟩
  · obtain ⟨_, hdst, hsrc⟩ := pad_bounds m hm
    have hrows : (l + srcWidth + l) * (t / 2 + n + t / 2) ≤ (l + srcWidth + l) * (t + n) :=
      Nat.mul_le_mul_left _ (by omega)
    exact ⟨by omega, hsrc⟩

theorem enlarge_luma_plane (src mem : ℕ → UInt8) {i j : ℕ} (hi : i < t + 2 * n + t)
    (hj : j < l + srcWidth + l) :
    run src mem (pad 0 0 srcWidth (2 * n) t l 0 ++
        pad ((l + srcWidth + l) * (t + 2 * n + t)) (srcWidth * (2 * n)) srcWidth n (t / 2) l 128)
        ((l + srcWidth + l) * i + j) = window 0 srcWidth (2 * n) t l 0 src i j := by
  rw [run_front (fun m hm => (pad_bounds m hm).1) (cell_lt hi hj),
    ← Nat.zero_add ((l + srcWidth + l) * i + j)]
  exact pad_run src mem hi hj

theorem enlarge_padded (ht : 2 ∣ t) (hcols : 2 ∣ l ∨ srcWidth = 0 ∨ n = 0) :
    Padded srcWidth (2 * n) (l + srcWidth + l) (t + 2 * n + t) (t / 2) (l / 2)
      (pad 0 0 srcWidth (2 * n) t l 0 ++
        pad ((l + srcWidth + l) * (t + 2 * n + t)) (srcWidth * (2 * n)) srcWidth n (t / 2) l 128) := by
  have hn : 2 * n / 2 = n := Nat.mul_div_cancel_left n (by decide)
  have hrows : (t + 2 * n + t) / 2 = t + n := by omega
  refine ⟨?_, fun src mem i hi j hj => ?_, fun src mem k hk j hj => ?_⟩
  · rw [hn, hrows]
    exact enlarge_margins_bounds
  · rw [enlarge_luma_plane src mem hi hj, show (t + 2 * n + t - 2 * n) / 2 = t by omega,
      show (l + srcWidth + l - srcWidth) / 2 = l by omega]
  · rw [run_append, pad_run _ _ (by omega) hj, hn]
    rcases hcols with hl | hempty
    · rw [Nat.mul_div_cancel' hl]
    · rw [window, window, if_neg (by omega), if_neg (by omega)]

/-- An odd margin above leaves the last row of pairs as it was; one on the left has U where V belongs. -/
theorem even_of_padded (hl : 0 < l) {top left : ℕ}
    (h : Padded srcWidth (2 * n) (l + srcWidth + l) (t + 2 * n + t) top left
      (pad 0 0 srcWidth (2 * n) t l 0 ++
        pad ((l + srcWidth + l) * (t + 2 * n + t)) (srcWidth * (2 * n)) srcWidth n (t / 2) l 128)) :
    2 ∣ t ∧ (2 ∣ l ∨ srcWidth = 0 ∨ n = 0) := by
  have hrows : (t + 2 * n + t) / 2 = t + n := by omega
  have ht : 2 ∣ t := by
    by_contra hodd
    have hstale (mem : ℕ → UInt8) := h.chroma 0 mem (t + n - 1) (by omega) 0 (by omega)
    have hkeep (mem : ℕ → UInt8) : run 0 mem (pad 0 0 srcWidth (2 * n) t l 0 ++
        pad ((l + srcWidth + l) * (t + 2 * n + t)) (srcWidth * (2 * n)) srcWidth n (t / 2) l 128)
        ((l + srcWidth + l) * (t + 2 * n + t) + ((l + srcWidth + l) * (t + n - 1) + 0)) =
        mem ((l + srcWidth + l) * (t + 2 * n + t) + ((l + srcWidth + l) * (t + n - 1) + 0)) := by
      refine run_untouched mem fun m hm hdst => ?_
      rcases List.mem_append.mp hm with hm | hm
      · have := (pad_bounds m hm).2.1
        omega
      · have := (pad_bounds m hm).2.1
        rw [show t / 2 + n + t / 2 = t + n - 1 by omega] at this
        omega
    have hzero := (hkeep 0).symm.trans (hstale 0)
    have hone := (hkeep 1).symm.trans (hstale 1)
    exact absurd (show (0 : UInt8) = 1 from hzero.trans hone.symm) (by decide)
  refine ⟨ht, ?_⟩
  by_contra hnot
  rw [not_or, not_or] at hnot
  obtain ⟨hodd, hw, hn⟩ := hnot
  -- The first byte of the source, a U, in the column of the margin.
  have hfirst (src : ℕ → UInt8) := h.chroma src 0 (t / 2) (by omega) l (by omega)
  simp only [run_append, pad_run _ _ (show t / 2 < t / 2 + n + t / 2 by omega)
    (show l < l + srcWidth + l by omega), window, Nat.sub_self, Nat.mul_zero, Nat.add_zero] at hfirst
  have hin : (t / 2 ≤ t / 2 ∧ t / 2 < t / 2 + n) ∧ l ≤ l ∧ l < l + srcWidth := by omega
  simp only [if_pos hin] at hfirst
  split_ifs at hfirst with hwin
  · have hcell := eq_of_forall_source (show (0 : UInt8) ≠ 1 by decide) hfirst
    omega
  · exact absurd (show (0 : UInt8) = 128 from hfirst 0) (by decide)

end Enlarge

/-! ### Cuts -/

theorem cutLeftOffset_eq (srcWidth dstWidth : ℕ) :
    cutLeftOffset srcWidth dstWidth = 2 * ((srcWidth - dstWidth) / 2 / 2) := by
  rw [cutLeftOffset]
  split_ifs <;> omega

section Decrease
variable {srcWidth srcHeight dstWidth dstHeight : ℕ}

theorem decreaseNV12Y_eq :
    decreaseNV12Y srcWidth srcHeight dstWidth dstHeight =
      cut 0 (srcWidth * ((srcHeight - dstHeight) / 2) + cutLeftOffset srcWidth dstWidth) dstWidth srcWidth
        dstHeight := by
  rw [decreaseNV12Y, cut]
  exact congrArg (loop 0 dstHeight 1) (funext fun r => congrArg₂ (copies · · dstWidth) (by ring) (by ring))

theorem decreaseNV12UV_eq (hdh : 2 ∣ dstHeight) :
    decreaseNV12UV srcWidth srcHeight dstWidth dstHeight =
      cut (dstWidth * dstHeight)
        (srcWidth * srcHeight +
          (srcWidth * ((srcHeight - dstHeight) / 2 / 2) + cutLeftOffset srcWidth dstWidth))
        dstWidth srcWidth (dstHeight / 2) := by
  rw [decreaseNV12UV, cut, loop_eq_count, show (dstHeight - 0 + 2 - 1) / 2 = dstHeight / 2 by omega]
  refine congrArg (loop 0 (dstHeight / 2) 1) (funext fun r => ?_)
  have hrow : (0 + 2 * r + (srcHeight - dstHeight) / 2) / 2 = r + (srcHeight - dstHeight) / 2 / 2 := by omega
  rw [hrow, show (0 + 2 * r) / 2 = r by omega]
  exact congrArg₂ (copies · · dstWidth) (by ring) (by ring)

variable {top left : ℕ}

theorem decrease_luma_plane (src mem : ℕ → UInt8) {i j : ℕ} (hi : i < dstHeight) (hj : j < dstWidth)
    {S n : ℕ} :
    run src mem (cut 0 (srcWidth * top + left) dstWidth srcWidth dstHeight ++
        cut (dstWidth * dstHeight) S dstWidth srcWidth n) (dstWidth * i + j) =
      src (srcWidth * (top + i) + (left + j)) := by
  rw [run_front (fun m hm => (cut_bounds m hm).1) (cell_lt hi hj), ← Nat.zero_add (dstWidth * i + j),
    cut_run src mem hi hj]
  congr 1
  ring

/-- The pair of rows that a row of the destination is taken from does not begin in the same row as the luma
    when the rows above are odd. -/
theorem decrease_rectangle (hsh : 2 ∣ srcHeight) (hdw : 2 ∣ dstWidth) (hdh : 2 ∣ dstHeight) (hleft : 2 ∣ left)
    (hinside : top + dstHeight ≤ srcHeight ∧ left + dstWidth ≤ srcWidth) {P : ℕ → Prop}
    (hP : ∀ i < dstHeight, 0 < dstWidth → P i → (top + i) / 2 = top / 2 + i / 2) :
    Rectangle srcWidth srcHeight dstWidth dstHeight P top left
      (cut 0 (srcWidth * top + left) dstWidth srcWidth dstHeight ++
        cut (dstWidth * dstHeight) (srcWidth * srcHeight + (srcWidth * (top / 2) + left)) dstWidth srcWidth
          (dstHeight / 2)) := by
  refine ⟨hinside, fun m hm => ?_, fun src mem i hi j hj => decrease_luma_plane src mem hi hj,
    fun src mem i hi hp j hj b hb => ?_⟩
  · rcases List.mem_append.mp hm with hm | hm
    · obtain ⟨_, hdst, hsrc⟩ := cut_bounds m hm
      refine ⟨by omega, fun s hs => ?_⟩
      obtain ⟨r, hr, j, hj, rfl⟩ := hsrc s hs
      have := cell_lt (show top + r < srcHeight by omega) (show left + j < srcWidth by omega)
      rw [Nat.mul_add] at this
      omega
    · obtain ⟨_, hdst, hsrc⟩ := cut_bounds m hm
      refine ⟨hdst, fun s hs => ?_⟩
      obtain ⟨r, hr, j, hj, rfl⟩ := hsrc s hs
      have := cell_lt (show top / 2 + r < srcHeight / 2 by omega) (show left + j < srcWidth by omega)
      rw [Nat.mul_add] at this
      omega
  · rw [run_append, Nat.add_assoc, Nat.add_assoc, cut_run _ _ (by omega) (by omega), hP i hi (by omega) hp,
      show 2 * ((left + j) / 2) = left + 2 * (j / 2) by omega]
    congr 1
    ring

/-- With an odd number of rows above, the second row of a rectangle has the chroma of the row before. -/
theorem even_of_rectangle (hleft : 2 ∣ left) (hpos : 0 < dstWidth ∧ 2 ≤ dstHeight)
    (hwidth : left + dstWidth ≤ srcWidth) {top' left' : ℕ}
    (h : Rectangle srcWidth srcHeight dstWidth dstHeight (fun _ => True) top' left'
      (cut 0 (srcWidth * top + left) dstWidth srcWidth dstHeight ++
        cut (dstWidth * dstHeight) (srcWidth * srcHeight + (srcWidth * (top / 2) + left)) dstWidth srcWidth
          (dstHeight / 2))) : 2 ∣ top := by
  have hne : (0 : UInt8) ≠ 1 := by decide
  have hluma := eq_of_forall_source hne fun src =>
    (decrease_luma_plane src 0 (show 0 < dstHeight by omega) hpos.1).symm.trans
      (h.luma src 0 0 (by omega) 0 hpos.1)
  obtain ⟨rfl, rfl⟩ := cell_inj (by omega) (by have := h.inside; omega) hluma
  have hchroma (src : ℕ → UInt8) := h.chroma src 0 1 (by omega) trivial 0 hpos.1 0 (by decide)
  simp only [run_append, Nat.add_assoc, cut_run _ _ (show 1 / 2 < dstHeight / 2 by omega)
    (show 2 * (0 / 2) + 0 < dstWidth by omega)] at hchroma
  have hcell := eq_of_forall_source hne hchroma
  by_contra hodd
  rw [show (top + 1) / 2 = top / 2 + 1 by omega, Nat.mul_add srcWidth (top / 2)] at hcell
  omega

end Decrease

/-! ### Exactness -/

/-- Both margins have whole pairs, and no product exceeds an `int`. -/
def MarginsPaired (srcWidth srcHeight dstWidth dstHeight : ℕ) : Prop :=
  dstWidth * dstHeight ≤ INT_MAX ∧ (dstHeight - srcHeight) % 4 = 0 ∧
    ((dstWidth - srcWidth) % 4 = 0 ∨ srcWidth = 0 ∨ srcHeight = 0)

section Exactness
variable {srcBuf dstBuf srcWidth srcHeight dstWidth dstHeight : ℕ} (hsw : 2 ∣ srcWidth) (hsh : 2 ∣ srcHeight)
  (hdw : 2 ∣ dstWidth) (hdh : 2 ∣ dstHeight) (hsrc : srcBuf ≠ 0) (hdst : dstBuf ≠ 0)
include hsw hsh hdw hdh hsrc hdst

theorem enlarge_exact_iff (hw : srcWidth < dstWidth) (hh : srcHeight < dstHeight) :
    (Makes (Padded srcWidth srcHeight dstWidth dstHeight ((dstHeight - srcHeight) / 2 / 2)
      ((dstWidth - srcWidth) / 2 / 2))
        (enlargeNV12WithBlackMargin srcBuf srcWidth srcHeight dstBuf dstWidth dstHeight) ↔
      MarginsPaired srcWidth srcHeight dstWidth dstHeight) ∧
    ∀ top left, Makes (Padded srcWidth srcHeight dstWidth dstHeight top left)
        (enlargeNV12WithBlackMargin srcBuf srcWidth srcHeight dstBuf dstWidth dstHeight) →
      MarginsPaired srcWidth srcHeight dstWidth dstHeight := by
  rw [enlargeNV12WithBlackMargin, if_neg (by omega), if_neg (by omega), MarginsPaired]
  by_cases hint : INT_MAX < dstWidth * dstHeight
  · rw [if_pos hint]
    exact ⟨iff_of_false id fun h => by omega, fun _ _ h => h.elim⟩
  · rw [if_neg hint, and_iff_right (not_lt.mp hint)]
    obtain ⟨n, rfl⟩ := hsh
    obtain ⟨l, rfl⟩ : ∃ l, dstWidth = l + srcWidth + l := ⟨(dstWidth - srcWidth) / 2, by omega⟩
    obtain ⟨t, rfl⟩ : ∃ t, dstHeight = t + 2 * n + t := ⟨(dstHeight - 2 * n) / 2, by omega⟩
    have hcond : 2 ∣ t ∧ (2 ∣ l ∨ srcWidth = 0 ∨ n = 0) ↔ (t + 2 * n + t - 2 * n) % 4 = 0 ∧
        ((l + srcWidth + l - srcWidth) % 4 = 0 ∨ srcWidth = 0 ∨ 2 * n = 0) := by omega
    rw [enlargeNV12Y_eq, enlargeNV12UV_eq, ← hcond, show (t + 2 * n + t - 2 * n) / 2 = t by omega,
      show (l + srcWidth + l - srcWidth) / 2 = l by omega]
    exact ⟨⟨even_of_padded (by omega), fun h => enlarge_padded h.1 h.2⟩, fun _ _ => even_of_padded (by omega)⟩

theorem decrease_exact_iff (hw : dstWidth < srcWidth) (hh : dstHeight < srcHeight) :
    (Makes (Rectangle srcWidth srcHeight dstWidth dstHeight (2 ∣ ·) ((srcHeight - dstHeight) / 2)
          (cutLeftOffset srcWidth dstWidth))
        (decreaseNV12WithCut srcBuf srcWidth srcHeight dstBuf dstWidth dstHeight) ↔
      srcWidth * srcHeight ≤ INT_MAX) ∧
    ((∃ top left, Makes (Rectangle srcWidth srcHeight dstWidth dstHeight (fun _ => True) top left)
        (decreaseNV12WithCut srcBuf srcWidth srcHeight dstBuf dstWidth dstHeight)) ↔
      srcWidth * srcHeight ≤ INT_MAX ∧ ((srcHeight - dstHeight) % 4 = 0 ∨ dstWidth = 0 ∨ dstHeight = 0)) := by
  rw [decreaseNV12WithCut, if_neg (by omega), if_neg (by omega)]
  by_cases hint : INT_MAX < srcWidth * srcHeight
  · rw [if_pos hint]
    exact ⟨iff_of_false id (by omega), iff_of_false (fun ⟨_, _, h⟩ => h) fun h => by omega⟩
  · rw [if_neg hint, and_iff_right (not_lt.mp hint), decreaseNV12Y_eq, decreaseNV12UV_eq hdh]
    have hleft : 2 ∣ cutLeftOffset srcWidth dstWidth := ⟨_, cutLeftOffset_eq srcWidth dstWidth⟩
    have hinside : (srcHeight - dstHeight) / 2 + dstHeight ≤ srcHeight ∧
        cutLeftOffset srcWidth dstWidth + dstWidth ≤ srcWidth := by
      rw [cutLeftOffset_eq]
      omega
    refine ⟨iff_of_true (decrease_rectangle hsh hdw hdh hleft hinside fun i _ _ hi => by omega)
      (not_lt.mp hint), ?_⟩
    constructor
    · rintro ⟨top, left, h⟩
      by_contra hnot
      have hodd : ¬ 2 ∣ (srcHeight - dstHeight) / 2 := by omega
      exact hodd (even_of_rectangle hleft (by omega) hinside.2 h)
    · intro heven
      exact ⟨_, _, decrease_rectangle hsh hdw hdh hleft hinside fun i hi hpos _ => by omega⟩

/-- An enlargement is exact when both margins have whole pairs of rows and columns. A reduction cuts out a
    rectangle, with the chroma of the first row of every two, and of both when it begins at an even row. -/
theorem nv12_exact_iff :
    (srcWidth < dstWidth → srcHeight < dstHeight →
      (Makes (Padded srcWidth srcHeight dstWidth dstHeight ((dstHeight - srcHeight) / 2 / 2)
            ((dstWidth - srcWidth) / 2 / 2))
          (enlargeNV12WithBlackMargin srcBuf srcWidth srcHeight dstBuf dstWidth dstHeight) ↔
        MarginsPaired srcWidth srcHeight dstWidth dstHeight) ∧
      ∀ top left, Makes (Padded srcWidth srcHeight dstWidth dstHeight top left)
          (enlargeNV12WithBlackMargin srcBuf srcWidth srcHeight dstBuf dstWidth dstHeight) →
        MarginsPaired srcWidth srcHeight dstWidth dstHeight) ∧
    (dstWidth < srcWidth → dstHeight < srcHeight →
      (Makes (Rectangle srcWidth srcHeight dstWidth dstHeight (2 ∣ ·) ((srcHeight - dstHeight) / 2)
            (cutLeftOffset srcWidth dstWidth))
          (decreaseNV12WithCut srcBuf srcWidth srcHeight dstBuf dstWidth dstHeight) ↔
        srcWidth * srcHeight ≤ INT_MAX) ∧
      ((∃ top left, Makes (Rectangle srcWidth srcHeight dstWidth dstHeight (fun _ => True) top left)
          (decreaseNV12WithCut srcBuf srcWidth srcHeight dstBuf dstWidth dstHeight)) ↔
        srcWidth * srcHeight ≤ INT_MAX ∧ ((srcHeight - dstHeight) % 4 = 0 ∨ dstWidth = 0 ∨ dstHeight = 0))) :=
  ⟨enlarge_exact_iff hsw hsh hdw hdh hsrc hdst, decrease_exact_iff hsw hsh hdw hdh hsrc hdst⟩

end Exactness

theorem margins_of_two : Makes (Padded 4 4 8 8 1 1) (enlargeNV12WithBlackMargin 1 4 4 1 8 8) :=
  (((nv12_exact_iff (by decide) (by decide) (by decide) (by decide) one_ne_zero one_ne_zero).1 (by decide)
    (by decide)).1).mpr (by
    rw [MarginsPaired]
    decide)

/-- A margin of one row: the second row of pairs is not written. -/
theorem last_row_stale : ¬ ∃ top left, Makes (Padded 2 2 6 4 top left)
    (enlargeNV12WithBlackMargin 1 2 2 1 6 4) := by
  rintro ⟨top, left, h⟩
  have hzero := h.chroma 0 0 1 (by decide) 0 (by decide)
  have hone := h.chroma 0 1 1 (by decide) 0 (by decide)
  exact absurd (hzero.trans hone.symm) (by decide +kernel)

end ImxHal.Image
