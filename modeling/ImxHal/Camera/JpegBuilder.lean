import ImxHal.Schemes.Buffer
import ImxHal.Schemes.Run

/-! @src camera/JpegBuilder.cpp (InsertEXIFAndJpeg, encodeImage, buildImage with the hardware encoder),
    camera/ExifUtils.cpp (GenerateApp1) | name:still images | scheme:run | family:data formats

    A still image is put together in the destination from this image's EXIF blob and the encoder's main
    stream. The offset of the main stream is a static local, computed in the first call of the process:

        0     2          6            g                                g + |main|       + 2
        SOI   APP1 len   EXIF blob …  main stream from its marker on …  EOI at the very end

    so that the parts only meet if `g` is the end of this image's blob and the marker comes first. -/

namespace ImxHal.Jpeg
open ImxHal.Run ImxHal.Buffer

/-- What one request finds: the blob libexif saves, the encoder's stream (empty when it failed; its size
    comes in an `int`), and the stream buffer. -/
structure Shot where
  app1 : List UInt8
  jpeg : List UInt8
  dst : List UInt8
  jpeg_int : jpeg.length < 2 ^ 31

/-- What a call of `InsertEXIFAndJpeg` leaves. -/
structure Outcome where
  ret : ℤ
  mRequestSize : ℕ
  dst : Buf UInt8
  overread : Bool

/-- The static offset, and the last image built. -/
structure Builder where
  g_mainJpgOffset : Option ℕ
  last : Option Outcome

def SOIMark : List UInt8 := [0xff, 0xd8]
def APP1Head : List UInt8 := [0xff, 0xe1, 0x00, 0x00]
def EOIMark : List UInt8 := [0xff, 0xd9]

/-- A DRI or a DQT marker. -/
def isMark (b₀ b₁ : UInt8) : Bool := (b₀ == 0xff && b₁ == 0xdd) || (b₀ == 0xff && b₁ == 0xdb)

/-- The `while` loop from position `i` on, and whether it reads a byte behind the stream: the bytes are
    compared before the position is. -/
def findMark (i : ℕ) : List UInt8 → Option ℕ × Bool
  | [] => (none, true)
  | [b₀] => (none, b₀ == 0xff)
  | b₀ :: b₁ :: rest => if isMark b₀ b₁ then (some i, false) else findMark (i + 1) (b₁ :: rest)

/-- `g` is the static offset, initialised by now; sizes are `uint32_t`. -/
def InsertEXIFAndJpeg (g : ℕ) (exifData pMain dst : List UInt8) : Outcome :=
  let mRequestSize := (g + pMain.length + EOIMark.length) % 2 ^ 32
  if dst.length % 2 ^ 32 < mRequestSize then ⟨-1, mRequestSize, ⟨dst, false⟩, false⟩
  else
    let mapp1Size := (g % 2 ^ 16 + 2 ^ 32 - 4) % 2 ^ 32
    let head := (((Buf.mk dst false).memcpy 0 SOIMark).memcpy SOIMark.length APP1Head).memcpy 4
      [UInt8.ofNat (mapp1Size / 2 ^ 8), UInt8.ofNat mapp1Size]
    let exif := head.memcpy (SOIMark.length + APP1Head.length) exifData
    match findMark 0 pMain with
    | (none, overread) => ⟨-1, mRequestSize, exif, overread⟩
    | (some DRIOffset, overread) =>
      ⟨0, mRequestSize, (exif.memcpy g (pMain.drop DRIOffset)).memcpy (mRequestSize - EOIMark.length) EOIMark,
        overread⟩

/-- The initializer of the static offset. -/
def mainJpgOffset (exifData : List UInt8) : ℕ :=
  (SOIMark.length + APP1Head.length + exifData.length) % 2 ^ 32

/-- The blob fits into a segment; an empty one counts as a failure. -/
def GenerateApp1 (app1 : List UInt8) : Bool := app1.length ≠ 0 && app1.length ≤ 65533

def encodeImage (s : Shot) : Bool := GenerateApp1 s.app1 && 0 < s.jpeg.length

def step (b : Builder) (s : Shot) : Builder :=
  if encodeImage s then
    let g := b.g_mainJpgOffset.getD (mainJpgOffset s.app1)
    ⟨some g, some (InsertEXIFAndJpeg g s.app1 s.jpeg s.dst)⟩
  else { b with last := none }

def start : Builder := ⟨none, none⟩

/-! ### What is meant to be built -/

/-- The stream from its first DRI or DQT marker on. -/
def fromMark : List UInt8 → List UInt8
  | b₀ :: b₁ :: rest => if isMark b₀ b₁ then b₀ :: b₁ :: rest else fromMark (b₁ :: rest)
  | _ => []

def be16 (n : ℕ) : List UInt8 := [UInt8.ofNat (n / 2 ^ 8), UInt8.ofNat n]

def image (s : Shot) : List UInt8 :=
  SOIMark ++ [0xff, 0xe1] ++ be16 (s.app1.length + 2) ++ s.app1 ++ fromMark s.jpeg ++ EOIMark

/-- No access outside of the buffers, and a success leaves this image, whatever was built before. -/
def Whole (s : Shot) (o : Outcome) : Prop :=
  o.dst.wild = false ∧ o.overread = false ∧ (o.ret = 0 →
    o.dst.bytes.take o.mRequestSize = image s ∧
      o = InsertEXIFAndJpeg (mainJpgOffset s.app1) s.app1 s.jpeg s.dst)

/-- An image the destination is large enough for starts with its marker and has a blob of the length of
    the first one; without a marker the blob fits, and the last byte starts no marker. -/
def Fits (b : Builder) (s : Shot) : Prop :=
  let g := b.g_mainJpgOffset.getD (6 + s.app1.length)
  encodeImage s = true → g + s.jpeg.length + 2 ≤ s.dst.length % 2 ^ 32 →
    if fromMark s.jpeg = [] then 6 + s.app1.length ≤ s.dst.length ∧ s.jpeg.getLast? ≠ some 0xff
    else fromMark s.jpeg = s.jpeg ∧ g = 6 + s.app1.length

instance (b : Builder) (s : Shot) : Decidable (Fits b s) := by
  unfold Fits
  infer_instance

/-! ### The scan -/

theorem findMark_spec (bs : List UInt8) (i : ℕ) :
    match findMark i bs with
    | (some j, overread) => i ≤ j ∧ bs.drop (j - i) = fromMark bs ∧ fromMark bs ≠ [] ∧ overread = false
    | (none, overread) => fromMark bs = [] ∧ (overread = true ↔ bs = [] ∨ bs.getLast? = some 0xff) := by
  induction bs generalizing i with
  | nil => simp [findMark, fromMark]
  | cons b₀ bs ih =>
    cases bs with
    | nil => simp [findMark, fromMark]
    | cons b₁ rest =>
      rw [findMark, fromMark]
      by_cases hmark : isMark b₀ b₁
      · simp [hmark]
      · rw [if_neg hmark, if_neg hmark]
        have hrest := ih (i + 1)
        rcases hfind : findMark (i + 1) (b₁ :: rest) with ⟨_ | j, overread⟩ <;>
          simp only [hfind] at hrest ⊢
        · simpa [List.getLast?_cons_cons] using hrest
        · obtain ⟨hle, hdrop, hne, hover⟩ := hrest
          refine ⟨by omega, ?_, hne, hover⟩
          rw [← hdrop, show j - i = j - (i + 1) + 1 by omega, List.drop_succ_cons]

/-! ### One image -/

theorem exists_split {l : List UInt8} {k : ℕ} (h : k ≤ l.length) :
    ∃ a b, l = a ++ b ∧ a.length = k :=
  ⟨l.take k, l.drop k, (List.take_append_drop k l).symm, List.length_take_of_le h⟩

/-- The length bytes written for the offset `6 + n`. -/
theorem length_field (n : ℕ) :
    let mapp1Size := ((6 + n) % 2 ^ 16 + 2 ^ 32 - 4) % 2 ^ 32
    [UInt8.ofNat (mapp1Size / 2 ^ 8), UInt8.ofNat mapp1Size] = be16 (n + 2) := by
  simp only [be16, List.cons.injEq, and_true, ← UInt8.toNat_inj, UInt8.toNat_ofNat']
  omega

theorem be16_inj {m n : ℕ} (hm : m ≤ 65533) (hn : n ≤ 65533) (h : be16 (m + 2) = be16 (n + 2)) :
    m = n := by
  simp only [be16, List.cons.injEq, and_true, ← UInt8.toNat_inj, UInt8.toNat_ofNat'] at h
  omega

/-- The destination once the head is written. -/
theorem head_eq {dst : List UInt8} (h : 6 ≤ dst.length) (field : List UInt8) (hf : field.length = 2) :
    (((Buf.mk dst false).memcpy 0 SOIMark).memcpy SOIMark.length APP1Head).memcpy 4 field =
      ⟨SOIMark ++ [0xff, 0xe1] ++ field ++ dst.drop 6, false⟩ := by
  obtain ⟨d₀, rest, rfl, h₀⟩ := exists_split (show 2 ≤ dst.length by omega)
  obtain ⟨d₁, rest, rfl, h₁⟩ := exists_split (show 4 ≤ rest.length by simp at h; omega)
  have hsoi := memcpy_mid [] d₀ (d₁ ++ rest) SOIMark false 0 rfl h₀
  have happ := memcpy_mid SOIMark d₁ rest APP1Head false SOIMark.length rfl h₁
  have hfield := memcpy_mid (SOIMark ++ [0xff, 0xe1]) [0x00, 0x00] rest field false 4 rfl hf.symm
  have hdrop : (d₀ ++ (d₁ ++ rest)).drop 6 = rest := by
    rw [← List.append_assoc, List.drop_left' (by simp [h₀, h₁])]
  rw [List.nil_append] at hsoi
  rw [hdrop, ← hfield, hsoi, List.nil_append, ← List.append_assoc, happ]
  rfl

/-- The destination once all is written, when the parts meet. -/
theorem parts_meet (s : Shot) (field : List UInt8) (hf : field.length = 2)
    (hlen : 6 + s.app1.length + s.jpeg.length + 2 ≤ s.dst.length) :
    let head : Buf UInt8 := ⟨SOIMark ++ [0xff, 0xe1] ++ field ++ s.dst.drop 6, false⟩
    ∃ rest, ((head.memcpy 6 s.app1).memcpy (6 + s.app1.length) s.jpeg).memcpy
        (6 + s.app1.length + s.jpeg.length) EOIMark =
      ⟨SOIMark ++ [0xff, 0xe1] ++ field ++ s.app1 ++ s.jpeg ++ EOIMark ++ rest, false⟩ := by
  have hdrop : s.app1.length + s.jpeg.length + 2 ≤ (s.dst.drop 6).length := by simp; omega
  obtain ⟨d₂, r₂, h₂, hl₂⟩ := exists_split (show s.app1.length ≤ (s.dst.drop 6).length by omega)
  rw [h₂, List.length_append] at hdrop
  obtain ⟨d₃, r₃, rfl, hl₃⟩ := exists_split (show s.jpeg.length ≤ r₂.length by omega)
  rw [List.length_append] at hdrop
  obtain ⟨d₄, rest, rfl, hl₄⟩ := exists_split (show 2 ≤ r₃.length by omega)
  have hpre : (SOIMark ++ [0xff, 0xe1] ++ field).length = 6 := by simp [SOIMark, hf]
  have hexif := memcpy_mid (SOIMark ++ [0xff, 0xe1] ++ field) d₂ (d₃ ++ (d₄ ++ rest)) s.app1 false 6
    hpre.symm hl₂
  have hmain := memcpy_mid (SOIMark ++ [0xff, 0xe1] ++ field ++ s.app1) d₃ (d₄ ++ rest) s.jpeg false
    (6 + s.app1.length) (by rw [List.length_append, hpre]) hl₃
  have heoi := memcpy_mid (SOIMark ++ [0xff, 0xe1] ++ field ++ s.app1 ++ s.jpeg) d₄ rest EOIMark false
    (6 + s.app1.length + s.jpeg.length) (by rw [List.length_append, List.length_append, hpre]) hl₄
  refine ⟨rest, ?_⟩
  rw [h₂, ← List.append_assoc, hexif, ← List.append_assoc, hmain, ← List.append_assoc, heoi]

/-- A successful image is whole exactly if its blob ends at the offset and its marker comes first. -/
theorem success_iff {s : Shot} (hs : encodeImage s = true) {n : ℕ} (hn : n ≤ 65533) {j : ℕ}
    (hj : s.jpeg.drop j = fromMark s.jpeg) {m : ℕ} (hm : m = 6 + n + s.jpeg.length + 2)
    (hdst : m ≤ s.dst.length) :
    let head : Buf UInt8 := ⟨SOIMark ++ [0xff, 0xe1] ++ be16 (n + 2) ++ s.dst.drop 6, false⟩
    let out := ((head.memcpy 6 s.app1).memcpy (6 + n) (s.jpeg.drop j)).memcpy (m - 2) EOIMark
    out.wild = false ∧ out.bytes.take m = image s ↔
      fromMark s.jpeg = s.jpeg ∧ n = s.app1.length := by
  intro head out
  have hbound : s.app1.length ≤ 65533 := by
    simp only [encodeImage, GenerateApp1, Bool.and_eq_true, decide_eq_true_eq] at hs
    exact hs.1.2
  have hpre : (SOIMark ++ [0xff, 0xe1] ++ be16 (n + 2)).length = 6 := rfl
  have hhead : head.bytes.length = s.dst.length := by
    rw [List.length_append, hpre, List.length_drop]
    omega
  constructor
  · rintro ⟨-, himage⟩
    have hsix : (image s).take 6 = SOIMark ++ [0xff, 0xe1] ++ be16 (n + 2) := by
      rw [← himage, List.take_take, Nat.min_eq_left (by omega), take_memcpy _ _ (by omega) (by simp; omega),
        take_memcpy _ _ (by omega) (by simp; omega), take_memcpy _ _ le_rfl (by omega), List.take_left' hpre]
    have hfield : be16 (s.app1.length + 2) = be16 (n + 2) := by
      have hpre' : (SOIMark ++ [0xff, 0xe1] ++ be16 (s.app1.length + 2)).length = 6 := rfl
      rw [image, List.append_assoc, List.append_assoc, List.take_left' hpre'] at hsix
      exact List.append_cancel_left hsix
    have hlength := congrArg List.length himage
    rw [List.length_take_of_le (by simp [out]; omega)] at hlength
    have hnapp := be16_inj hbound hn hfield
    refine ⟨?_, hnapp.symm⟩
    have hj0 : j = 0 ∨ s.jpeg.length = 0 := by
      simp [image, SOIMark, EOIMark, be16, ← hj] at hlength
      omega
    rcases hj0 with rfl | hzero
    · rw [← hj, List.drop_zero]
    · rw [← hj, List.length_eq_zero_iff.mp hzero, List.drop_nil]
  · rintro ⟨hfrom, rfl⟩
    obtain ⟨rest, hrest⟩ := parts_meet s (be16 (s.app1.length + 2)) rfl (by omega)
    have hout : out = ⟨SOIMark ++ [0xff, 0xe1] ++ be16 (s.app1.length + 2) ++ s.app1 ++ s.jpeg ++ EOIMark ++
        rest, false⟩ := by
      simp only [out, hj, hfrom, hm, Nat.add_sub_cancel]
      exact hrest
    rw [hout]
    refine ⟨rfl, ?_⟩
    rw [image, hfrom, List.take_left']
    simp [SOIMark, EOIMark, be16]
    omega

/-- The three ways a call ends, for an offset that fits a segment. -/
theorem insert_cases (s : Shot) {n : ℕ} (hn : n ≤ 65533) :
    let m := 6 + n + s.jpeg.length + 2
    let head : Buf UInt8 := ⟨SOIMark ++ [0xff, 0xe1] ++ be16 (n + 2) ++ s.dst.drop 6, false⟩
    InsertEXIFAndJpeg (6 + n) s.app1 s.jpeg s.dst =
      if s.dst.length % 2 ^ 32 < m then ⟨-1, m, ⟨s.dst, false⟩, false⟩
      else match findMark 0 s.jpeg with
        | (none, overread) => ⟨-1, m, head.memcpy 6 s.app1, overread⟩
        | (some j, overread) =>
          ⟨0, m, ((head.memcpy 6 s.app1).memcpy (6 + n) (s.jpeg.drop j)).memcpy (m - 2) EOIMark,
            overread⟩ := by
  intro m head
  have hjpeg := s.jpeg_int
  have hsize : (6 + n + s.jpeg.length + EOIMark.length) % 2 ^ 32 = m :=
    Nat.mod_eq_of_lt (show 6 + n + s.jpeg.length + 2 < 2 ^ 32 by omega)
  by_cases hfit : s.dst.length % 2 ^ 32 < m
  · rw [InsertEXIFAndJpeg, hsize, if_pos hfit, if_pos hfit]
  · have hdst : 6 ≤ s.dst.length := by
      have := Nat.mod_le s.dst.length (2 ^ 32)
      omega
    have hhead := head_eq hdst (be16 (n + 2)) rfl
    rw [InsertEXIFAndJpeg, hsize, if_neg hfit, if_neg hfit]
    simp only [length_field, hhead]
    rfl

/-- The offset fits a segment with a blob in it. -/
def Inv (b : Builder) : Prop := ∀ g ∈ b.g_mainJpgOffset, ∃ n ≤ 65533, g = 6 + n

theorem app1_le {s : Shot} (hs : encodeImage s = true) : s.app1.length ≤ 65533 := by
  simp only [encodeImage, GenerateApp1, Bool.and_eq_true, decide_eq_true_eq] at hs
  exact hs.1.2

theorem mainJpgOffset_eq {s : Shot} (hs : encodeImage s = true) :
    mainJpgOffset s.app1 = 6 + s.app1.length := by
  have := app1_le hs
  exact Nat.mod_eq_of_lt (show 6 + s.app1.length < 2 ^ 32 by omega)

/-- A call with the offset `6 + n`. -/
theorem whole_iff {s : Shot} (hs : encodeImage s = true) {n : ℕ} (hn : n ≤ 65533) :
    Whole s (InsertEXIFAndJpeg (6 + n) s.app1 s.jpeg s.dst) ↔
      (6 + n + s.jpeg.length + 2 ≤ s.dst.length % 2 ^ 32 →
        if fromMark s.jpeg = [] then 6 + s.app1.length ≤ s.dst.length ∧ s.jpeg.getLast? ≠ some 0xff
        else fromMark s.jpeg = s.jpeg ∧ 6 + n = 6 + s.app1.length) := by
  rw [Whole, mainJpgOffset_eq hs]
  generalize hfresh : InsertEXIFAndJpeg (6 + s.app1.length) s.app1 s.jpeg s.dst = fresh
  have hcases := insert_cases s hn
  dsimp only at hcases
  by_cases hfit : s.dst.length % 2 ^ 32 < 6 + n + s.jpeg.length + 2
  · rw [hcases, if_pos hfit]
    exact iff_of_true ⟨rfl, rfl, fun h => (by cases h)⟩ fun h => absurd h (Nat.not_le.mpr hfit)
  have hle : 6 + n + s.jpeg.length + 2 ≤ s.dst.length % 2 ^ 32 := Nat.le_of_not_lt hfit
  have hdst : 6 + n + s.jpeg.length + 2 ≤ s.dst.length := hle.trans (Nat.mod_le _ _)
  have hnonempty : s.jpeg ≠ [] := by
    rintro h
    simp [encodeImage, h] at hs
  have hlen : (SOIMark ++ [0xff, 0xe1] ++ be16 (n + 2) ++ s.dst.drop 6).length = s.dst.length := by
    simp [SOIMark, be16]
    omega
  have hmark := findMark_spec s.jpeg 0
  simp only [hle, forall_const]
  rw [if_neg hfit] at hcases
  rcases hfind : findMark 0 s.jpeg with ⟨_ | j, overread⟩ <;> simp only [hfind] at hmark hcases
  · have hwild := wild_memcpy ⟨SOIMark ++ [0xff, 0xe1] ++ be16 (n + 2) ++ s.dst.drop 6, false⟩ 6 s.app1
    obtain ⟨hnone, hover⟩ := hmark
    rw [hcases, if_pos hnone]
    rw [← Bool.not_eq_true, hwild, ← Bool.not_eq_true overread, hover, hlen]
    simp [hnonempty]
  · obtain ⟨-, hdrop, hne, hover⟩ := hmark
    rw [Nat.sub_zero] at hdrop
    have hsuccess := success_iff hs hn hdrop rfl hdst
    dsimp only at hsuccess
    rw [if_neg hne, Nat.add_left_cancel_iff, ← hsuccess, hcases]
    refine ⟨fun ⟨hwild, _, hout⟩ => ⟨hwild, (hout rfl).1⟩, fun h => ⟨h.1, hover, fun _ => ⟨h.2, ?_⟩⟩⟩
    have hsame : n = s.app1.length := (hsuccess.mp h).2
    rw [← hfresh, ← hsame, hcases]

/-- CORRECT: of every sequence of images all are whole exactly if each meets the first one's offset and
    starts with its marker. -/
theorem images_whole_iff (shots : List Shot) :
    Always step (fun _ s b => ∀ o ∈ b.last, Whole s o) start shots ↔ Meets step Fits start shots := by
  have hstep : ∀ b s, Inv b → Inv (step b s) ∧ ((∀ o ∈ (step b s).last, Whole s o) ↔ Fits b s) := by
    intro b s hb
    rw [step]
    by_cases hs : encodeImage s
    swap
    · simp only [hs, Bool.false_eq_true, if_false]
      exact ⟨hb, by simp [Fits, hs]⟩
    have hg : ∃ n ≤ 65533, b.g_mainJpgOffset.getD (6 + s.app1.length) = 6 + n := by
      rcases hopt : b.g_mainJpgOffset with _ | g
      · exact ⟨s.app1.length, app1_le hs, rfl⟩
      · exact hb g hopt
    obtain ⟨n, hn, hg⟩ := hg
    simp only [hs, if_true, mainJpgOffset_eq hs, hg, Option.mem_some_iff, forall_eq']
    refine ⟨?_, ?_⟩
    · rintro g ⟨⟩
      exact ⟨n, hn, rfl⟩
    · rw [whole_iff hs hn, Fits, hg]
      exact ⟨fun h _ => h, fun h => h hs⟩
  exact always_iff_meets (fun b s hb hf => ⟨(hstep b s hb).1, (hstep b s hb).2.mpr hf⟩)
    (fun b s hb hw => (hstep b s hb).2.mp hw) shots start (by rintro g ⟨⟩)

/-- An image of a one-byte blob and a main stream, in a destination of twenty bytes. -/
def shotOf (app1 jpeg : List UInt8) (h : jpeg.length < 2 ^ 31) : Shot := ⟨app1, jpeg, List.replicate 20 0, h⟩

/-- A second image with a longer blob: the first bytes of its main stream are written over the end of the
    blob, whose length is wrong too. -/
theorem second_image_broken :
    let mark : List UInt8 := [0xff, 0xdb, 1, 2]
    let s := shotOf [7, 8, 9] mark (by decide)
    let b := step start (shotOf [7] mark (by decide))
    ¬ (∀ o ∈ (step b s).last, Whole s o) ∧ (step b s).last.map (·.ret) = some 0 ∧
      (step b s).last.map (fun o => o.dst.bytes.take o.mRequestSize) =
        some [0xff, 0xd8, 0xff, 0xe1, 0, 3, 7, 0xff, 0xdb, 1, 2, 0xff, 0xd9] := by
  refine ⟨fun h => ?_, by decide +kernel, by decide +kernel⟩
  have hlast := ((h _ rfl).2.2 (by decide +kernel)).1
  revert hlast
  decide +kernel

end ImxHal.Jpeg
