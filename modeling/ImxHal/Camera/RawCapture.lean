import ImxHal.Image.Bayer

/-! @src camera/camera/CameraDeviceSessionHWLImpl.cpp (processJpegBuffer, the RAW16 case) | name:raw capture |
    scheme:blit | family:pictures

    A RAW16 frame is to be encoded as the 4:2:2 picture that the two conversions make of it. The buffer that
    they start from is allocated and cleared, and the frame itself is not copied into it:

        srcBuf ──✗──▶ srcData (zeros) ──SbggrToRgb888──▶ rgb ──Rgb888ToYuv422i──▶ srcData ──▶ encoder -/

namespace ImxHal.RawCapture
open ImxHal.Blit ImxHal.Bayer

/-- What the call finds: its arguments and the metadata pass the checks, the allocations succeed, and with a
    zoom the resize buffer is allocated and holds some bytes. -/
structure Answers where
  accepted : Bool
  srcData : Bool
  rgb : Bool
  src_data : Bool
  garbage : ℕ → UInt16
  frames : Bool
  zoom : Option (Option (ℕ → UInt8))

inductive Outcome
  | failed
  | undefined
  | handed (srcVirtual : ℕ → UInt8)

/-- The source is named here only: none of the steps reads it. -/
def processJpegBuffer (a : Answers) (_source : ℕ → UInt16) (mWidth mHeight : ℕ) : Outcome :=
  if !a.accepted then .failed
  else if !a.srcData then .failed
  else if !a.rgb then .failed
  else
    match SbggrToRgb888 (fun _ => 0) (fun _ => 0) a.garbage a.src_data mWidth mHeight with
    | none => .undefined
    | some rgb =>
      match Rgb888ToYuv422i rgb (fun _ => 0) mWidth mHeight with
      | none => .undefined
      | some srcData =>
        if !a.frames then .failed
        else
          match a.zoom with
          | none => .handed srcData
          | some none => .failed
          | some (some resized) => .handed resized

/-! ### The picture of a frame -/

/-- Luma and chroma of a pixel, with R as red and B as blue. -/
def shown (source : ℕ → UInt16) (width height i j : ℕ) : ℤ × ℤ × ℤ :=
  RGB2YUV (average .R source width height i j) (average .G source width height i j)
    (average .B source width height i j)

/-- The packed picture has Y of every pixel, U of the even columns and V of the odd ones. -/
def Shows (source : ℕ → UInt16) (width height : ℕ) (picture : ℕ → UInt8) : Prop :=
  ∀ i < height, ∀ j < width,
    ((picture (2 * (width * i + j))).toNat : ℤ) = (shown source width height i j).1 ∧
    ((picture (2 * (width * i + j) + 1)).toNat : ℤ) =
      if j % 2 = 0 then (shown source width height i j).2.1 else (shown source width height i j).2.2

/-- Bytes of `mWidth * mHeight * n`, computed in 32 bits. -/
def mallocSize (n mWidth mHeight : ℕ) : ℕ := mWidth * mHeight * n % 2 ^ 32

/-- What is handed to the encoder shows the frame, and was made in bounds. -/
def ShownRight (a : Answers) (source : ℕ → UInt16) (mWidth mHeight : ℕ) : Prop :=
  match processJpegBuffer a source mWidth mHeight with
  | .failed => True
  | .undefined => False
  | .handed srcVirtual => Shows source mWidth mHeight srcVirtual ∧
      Contained (mallocSize 2 mWidth mHeight / 2) ((mWidth + 2) * (mHeight + 2)) (mallocSize 3 mWidth mHeight)
        (mallocSize 2 mWidth mHeight) mWidth mHeight

/-- A frame that is black: of every pixel the luma rounds to 0, and so does the chroma that is stored. -/
def Black (source : ℕ → UInt16) (width height : ℕ) : Prop :=
  ∀ i < height, ∀ j < width,
    let R := average .R source width height i j
    let G := average .G source width height i j
    let B := average .B source width height i j
    77 * R + 150 * G + 29 * B < 256 ∧
      if j % 2 = 0 then 43 * R + 85 * G ≤ 128 * B ∧ 128 * B < 43 * R + 85 * G + 256
      else 107 * G + 21 * B ≤ 128 * R ∧ 128 * R < 107 * G + 21 * B + 256

/-- The sizes that the conversions can count in their types. -/
def Counted (src_data : Bool) (width height : ℕ) : Prop :=
  (width + 2) * (height + 2) * 2 ≤ INT_MAX ∧ (src_data = true → 3 * (width * height) ≤ INT_MAX) ∧
    width ≤ 65535 ∧ height ≤ 65535

/-- The condition. -/
def Fits (a : Answers) (source : ℕ → UInt16) (mWidth mHeight : ℕ) : Prop :=
  a.accepted = false ∨ a.srcData = false ∨ a.rgb = false ∨
    Counted a.src_data mWidth mHeight ∧ (a.frames = false ∨ match a.zoom with
      | none => Black source mWidth mHeight
      | some none => True
      | some (some resized) => Shows source mWidth mHeight resized)

/-! ### What is handed over is black -/

theorem rgb2yuv_black (R G B : ℕ) :
    ((RGB2YUV R G B).1 = 0 ↔ 77 * R + 150 * G + 29 * B < 256) ∧
    ((RGB2YUV R G B).2.1 = 128 ↔ 43 * R + 85 * G ≤ 128 * B ∧ 128 * B < 43 * R + 85 * G + 256) ∧
    ((RGB2YUV R G B).2.2 = 128 ↔ 107 * G + 21 * B ≤ 128 * R ∧ 128 * R < 107 * G + 21 * B + 256) := by
  simp only [RGB2YUV, clamp, Int.shiftRight_eq_div_pow]
  norm_num
  omega

variable {width height : ℕ}

/-- A picture with luma 0 and chroma 128. -/
def IsBlack (width height : ℕ) (picture : ℕ → UInt8) : Prop :=
  ∀ i < height, ∀ j < width, ((picture (2 * (width * i + j))).toNat : ℤ) = 0 ∧
    ((picture (2 * (width * i + j) + 1)).toNat : ℤ) = 128

theorem shows_iff_black {source : ℕ → UInt16} {picture : ℕ → UInt8} (h : IsBlack width height picture) :
    Shows source width height picture ↔ Black source width height := by
  refine forall₄_congr fun i hi j hj => ?_
  obtain ⟨hluma, hchroma⟩ := h i hi j hj
  obtain ⟨hy, hu, hv⟩ := rgb2yuv_black (average .R source width height i j) (average .G source width height i j)
    (average .B source width height i j)
  rw [hluma, hchroma, shown]
  refine and_congr ?_ ?_
  · rw [eq_comm, hy]
  · split_ifs
    · rw [eq_comm, hu]
    · rw [eq_comm, hv]

/-- Zeros are converted to black. -/
theorem converted_black {rgb yuv422i : ℕ → UInt8} (h : ∀ i < height, ∀ j < width,
    rgb (3 * (width * i + j)) = 0 ∧ rgb (3 * (width * i + j) + 1) = 0 ∧ rgb (3 * (width * i + j) + 2) = 0) :
    IsBlack width height (run (fun _ => 0) yuv422i (yuvMoves rgb width height)) := by
  intro i hi j hj
  obtain ⟨hr, hg, hb⟩ := h i hi j hj
  obtain ⟨hluma, hchroma⟩ := yuv_bytes rgb yuv422i hi hj
  rw [hr, hg, hb] at hluma hchroma
  refine ⟨hluma, hchroma.trans ?_⟩
  split_ifs <;> rfl

theorem average_zero (c : Colour) (width height i j : ℕ) : average c (fun _ => 0) width height i j = 0 := by
  have hsample : sample (fun _ => 0) width height i j = fun _ => 0 := by
    funext d
    rw [sample, UInt16.toNat_zero, Nat.zero_shiftRight]
  rw [average, hsample, List.map_const', List.sum_replicate, smul_zero, Nat.zero_div]

/-- Whether or not the border could be allocated, the RGB picture of zeros is zeros. -/
theorem rgb_zero (garbage : ℕ → UInt16) (allocated : Bool) (hw : 2 ≤ width) (hh : 2 ≤ height)
    (hcounted : Counted allocated width height) :
    ∃ rgb, SbggrToRgb888 (fun _ => 0) (fun _ => 0) garbage allocated width height = some rgb ∧
      ∀ i < height, ∀ j < width,
        rgb (3 * (width * i + j)) = 0 ∧ rgb (3 * (width * i + j) + 1) = 0 ∧ rgb (3 * (width * i + j) + 2) = 0 := by
  obtain ⟨hborder, hindex, -, -⟩ := hcounted
  rw [SbggrToRgb888, if_neg (by omega)]
  cases allocated
  · exact ⟨_, rfl, fun i hi j hj => ⟨rfl, rfl, rfl⟩⟩
  · have hindex := hindex rfl
    refine ⟨_, by rw [if_neg (by decide), if_neg (by omega)], fun i hi j hj => ?_⟩
    obtain ⟨hr, hg, hb⟩ := rgb_right (fun _ => 0) garbage (fun _ => 0) hw hh (fun _ => by decide) hi hj
    rw [average_zero] at hr hg hb
    exact ⟨UInt8.toNat_inj.mp hr, UInt8.toNat_inj.mp hg, UInt8.toNat_inj.mp hb⟩

/-- A size that is not counted is an overflow of the conversions. -/
theorem processJpegBuffer_uncounted {a : Answers} (source : ℕ → UInt16) (haccepted : a.accepted = true)
    (hsrc : a.srcData = true) (hrgb : a.rgb = true) (hw : 2 ∣ width) (hh : 2 ∣ height)
    (h : ¬ Counted a.src_data width height) : processJpegBuffer a source width height = .undefined := by
  have hw0 := Nat.mod_eq_zero_of_dvd hw
  have hh0 := Nat.mod_eq_zero_of_dvd hh
  simp only [processJpegBuffer, haccepted, hsrc, hrgb, Bool.not_true, Bool.false_eq_true, if_false]
  cases hmid : SbggrToRgb888 (fun _ => 0) (fun _ => 0) a.garbage a.src_data width height with
  | none => rfl
  | some rgb =>
    have hout : Rgb888ToYuv422i rgb (fun _ => 0) width height = none := by
      rw [Rgb888ToYuv422i, if_neg (by omega), if_pos]
      by_contra hcon
      refine h ⟨?_, fun hdata => ?_, by omega, by omega⟩
      · by_contra hborder
        rw [SbggrToRgb888, if_pos (by omega)] at hmid
        exact Option.some_ne_none rgb hmid.symm
      · by_contra hindex
        have hover : INT_MAX < 3 * (width * height) := by omega
        simp [SbggrToRgb888, hdata, hover] at hmid
    simp only [hout]

/-- Sizes that are counted need no more than 32 bits. -/
theorem mallocSize_eq {n : ℕ} (hn : n ≤ 3) {src_data : Bool} (h : Counted src_data width height) :
    mallocSize n width height = n * (width * height) := by
  obtain ⟨hborder, -, -, -⟩ := h
  have hle : width * height * 2 ≤ INT_MAX := by nlinarith
  rw [mallocSize, Nat.mod_eq_of_lt, Nat.mul_comm]
  have hmul : width * height * n ≤ width * height * 3 := Nat.mul_le_mul_left _ hn
  simp only [INT_MAX] at hle
  omega

/-- What is handed over is black, unless the zoom replaces it. -/
theorem processJpegBuffer_counted {a : Answers} (source : ℕ → UInt16) (haccepted : a.accepted = true)
    (hsrc : a.srcData = true) (hrgb : a.rgb = true) (hw : 2 ≤ width) (hh : 2 ≤ height) (hw2 : 2 ∣ width)
    (hh2 : 2 ∣ height) (h : Counted a.src_data width height) :
    ∃ black, IsBlack width height black ∧ processJpegBuffer a source width height =
      if !a.frames then .failed
      else
        match a.zoom with
        | none => .handed black
        | some none => .failed
        | some (some resized) => .handed resized := by
  obtain ⟨rgb, hmid, hzero⟩ := rgb_zero a.garbage a.src_data hw hh h
  obtain ⟨-, -, hcols, hrows⟩ := h
  have hw0 := Nat.mod_eq_zero_of_dvd hw2
  have hh0 := Nat.mod_eq_zero_of_dvd hh2
  refine ⟨run (fun _ => 0) (fun _ => 0) (yuvMoves rgb width height), converted_black hzero, ?_⟩
  have hout : Rgb888ToYuv422i rgb (fun _ => 0) width height =
      some (run (fun _ => 0) (fun _ => 0) (yuvMoves rgb width height)) := by
    rw [Rgb888ToYuv422i, if_neg (by omega), if_neg (by omega)]
  simp only [processJpegBuffer, haccepted, hsrc, hrgb, hmid, hout, Bool.not_true, Bool.false_eq_true, if_false]

theorem contained_counted (hw : 2 ≤ width) (hh : 2 ≤ height) {src_data : Bool}
    (h : Counted src_data width height) :
    Contained (mallocSize 2 width height / 2) ((width + 2) * (height + 2)) (mallocSize 3 width height)
      (mallocSize 2 width height) width height := by
  rw [mallocSize_eq (by decide) h, mallocSize_eq (by decide) h, Nat.mul_div_cancel_left _ (by decide)]
  exact contained hw hh

/-- The frame is shown right if and only if the call fails before it hands anything over, or the sizes are
    counted and the frame is black. -/
theorem raw_picture_iff (a : Answers) (source : ℕ → UInt16) (hw : 2 ≤ width) (hh : 2 ≤ height)
    (hw2 : 2 ∣ width) (hh2 : 2 ∣ height) :
    ShownRight a source width height ↔ Fits a source width height := by
  rw [ShownRight, Fits]
  cases haccepted : a.accepted with
  | false => simp [processJpegBuffer, haccepted]
  | true =>
  cases hsrc : a.srcData with
  | false => simp [processJpegBuffer, haccepted, hsrc]
  | true =>
  cases hrgb : a.rgb with
  | false => simp [processJpegBuffer, haccepted, hsrc, hrgb]
  | true =>
  simp only [Bool.true_eq_false, false_or]
  by_cases hcounted : Counted a.src_data width height
  · obtain ⟨black, hblack, heq⟩ := processJpegBuffer_counted source haccepted hsrc hrgb hw hh hw2 hh2 hcounted
    have hcontained := contained_counted hw hh hcounted
    rw [heq]
    cases hframes : a.frames with
    | false => simp [hcounted]
    | true =>
      cases hzoom : a.zoom with
      | none => simp [hcounted, hcontained, shows_iff_black hblack]
      | some resized =>
        cases resized with
        | none => simp [hcounted]
        | some resized => simp [hcounted, hcontained]
  · rw [processJpegBuffer_uncounted source haccepted hsrc hrgb hw2 hh2 hcounted]
    simp only [hcounted, false_and]

/-- Every allocation succeeds, and there is no zoom. -/
def smooth : Answers := ⟨true, true, true, true, fun _ => 0, true, none⟩

theorem counted_two : Counted true 2 2 := by
  refine ⟨?_, fun _ => ?_, ?_, ?_⟩ <;> decide

theorem raw_picture_iff_black : ShownRight smooth (fun _ => 0) 2 2 := by
  refine (raw_picture_iff smooth _ (le_refl 2) (le_refl 2) (dvd_refl 2) (dvd_refl 2)).mpr ?_
  refine .inr <| .inr <| .inr ⟨counted_two, .inr fun i hi j hj => ?_⟩
  simp only [average_zero]
  split_ifs <;> decide

/-- A white frame is handed over black. -/
theorem white_shown_black : ¬ ShownRight smooth (fun _ => 1023) 2 2 := by
  obtain ⟨black, hblack, heq⟩ := processJpegBuffer_counted (a := smooth) (fun _ => 1023) rfl rfl rfl (le_refl 2)
    (le_refl 2) (dvd_refl 2) (dvd_refl 2) counted_two
  rw [ShownRight, heq]
  rintro ⟨hshows, -⟩
  have hluma := ((shows_iff_black hblack).mp hshows 0 (by decide) 0 (by decide)).1
  exact absurd hluma (by decide)

end ImxHal.RawCapture
