import ImxHal.Alsa.CaptureRead

/-! @src alsa/tinyalsa_hal.cpp (convert_record_data, the flags of pcm_read_convert) | name:record conversion |
    scheme:iteration | family:streams

    The loops of `convert_record_data` shorten the samples and mix the channels in one go. Each turn moves two
    pointers, and the flags choose the loop:

        S24_LE / S32_LE      data >> 8, data >> 16            one int in, two shorts out     (mono2stereo)
                             (data << 8) >> 17, data >> 17    two ints in, one short out     (stereo2mono)
                             data >> 8, data >> 16            two ints in, two shorts out    (neither)
        S16_LE               data, data >> 1                  the same two mixes on shorts -/

namespace ImxHal.Alsa.Capture

/-- `void *src` by its bytes. -/
abbrev Src := ℕ → BitVec 8

/-- `((int *)src)[i]`. -/
def Src.int (src : Src) (i : ℕ) : BitVec 32 :=
  src (4 * i + 3) ++ src (4 * i + 2) ++ src (4 * i + 1) ++ src (4 * i)

/-- `((short *)src)[i]`. -/
def Src.short (src : Src) (i : ℕ) : BitVec 16 := src (2 * i + 1) ++ src (2 * i)

/-- `(short)data`. -/
def short (data : BitVec 32) : BitVec 16 := data.truncate 16

/-- The pointers of a loop: how many samples were read, and what was written. -/
structure Pointers where
  src_t : ℕ
  dst_t : List (BitVec 16)

/-- A turn that reads `n` samples and writes what it makes of them. -/
def Pointers.advance (n : ℕ) (f : ℕ → List (BitVec 16)) (p : Pointers) : Pointers :=
  ⟨p.src_t + n, p.dst_t ++ f p.src_t⟩

/-- `for (i = 0; i < frames; i++)`. -/
def eachFrame (frames : ℕ) (turn : Pointers → Pointers) : Pointers := turn^[frames] ⟨0, []⟩

def convert_record_data (src : Src) (frames : ℕ)
    (bit_24b_2_16b bit_32b_2_16b mono2stereo stereo2mono : Bool) : Pointers :=
  if bit_24b_2_16b && mono2stereo && !stereo2mono then
    eachFrame frames <| .advance 1 fun t =>
      [short ((src.int t).sshiftRight 8), short ((src.int t).sshiftRight 8)]
  else if bit_24b_2_16b && !mono2stereo && stereo2mono then
    eachFrame frames <| .advance 2 fun t =>
      [short ((src.int t <<< 8).sshiftRight 17 + (src.int (t + 1) <<< 8).sshiftRight 17)]
  else if bit_24b_2_16b && !mono2stereo && !stereo2mono then
    eachFrame frames <| .advance 2 fun t =>
      [short ((src.int t).sshiftRight 8), short ((src.int (t + 1)).sshiftRight 8)]
  else if bit_32b_2_16b && mono2stereo && !stereo2mono then
    eachFrame frames <| .advance 1 fun t =>
      [short ((src.int t).sshiftRight 16), short ((src.int t).sshiftRight 16)]
  else if bit_32b_2_16b && !mono2stereo && stereo2mono then
    eachFrame frames <| .advance 2 fun t =>
      [short ((src.int t).sshiftRight 17 + (src.int (t + 1)).sshiftRight 17)]
  else if bit_32b_2_16b && !mono2stereo && !stereo2mono then
    eachFrame frames <| .advance 2 fun t =>
      [short ((src.int t).sshiftRight 16), short ((src.int (t + 1)).sshiftRight 16)]
  else if mono2stereo && !stereo2mono then
    eachFrame frames <| .advance 1 fun t => [src.short t, src.short t]
  else if !mono2stereo && stereo2mono then
    -- The shorts are promoted to int before they are shifted and added.
    eachFrame frames <| .advance 2 fun t =>
      [short (((src.short t).signExtend 32).sshiftRight 1 +
        ((src.short (t + 1)).signExtend 32).sshiftRight 1)]
  else ⟨0, []⟩

/-- The flags that `pcm_read_convert` computes for a request of 16 bits. -/
def convertWith (format : PcmFormat) (channels requested_channel : Channels) (src : Src) (frames : ℕ) :
    Pointers :=
  convert_record_data src frames (format = .S24_LE) (format = .S32_LE)
    (channels = .mono && requested_channel = .stereo) (channels = .stereo && requested_channel = .mono)

/-- Whether `pcm_read_convert` converts at all. -/
def converting (format : PcmFormat) (channels requested_channel : Channels) : Bool :=
  format = .S24_LE || format = .S32_LE || (channels = .mono && requested_channel = .stereo) ||
    (channels = .stereo && requested_channel = .mono)

/-! ### In two steps -/

/-- The top 16 significant bits of a sample; of 24 bits the lower three bytes of a word count. -/
def truncated (format : PcmFormat) (src : Src) (i : ℕ) : BitVec 16 :=
  match format with
  | .S16_LE => src.short i
  | .S24_LE => (src.int i).extractLsb' 8 16
  | .S32_LE => (src.int i).extractLsb' 16 16

/-- The arithmetic half. -/
def half (s : BitVec 16) : BitVec 16 := s.sshiftRight 1

/-- A frame of 16-bit samples in the channels that were asked for. -/
def mixed (channels requested_channel : Channels) (sample : ℕ → BitVec 16) (frame : ℕ) : List (BitVec 16) :=
  match channels, requested_channel with
  | .mono, .mono => [sample frame]
  | .mono, .stereo => [sample frame, sample frame]
  | .stereo, .mono => [half (sample (2 * frame)) + half (sample (2 * frame + 1))]
  | .stereo, .stereo => [sample (2 * frame), sample (2 * frame + 1)]

/-- First the samples are truncated, then the channels are mixed. -/
def twoStep (format : PcmFormat) (channels requested_channel : Channels) (src : Src) (frames : ℕ) :
    List (BitVec 16) :=
  (List.range frames).flatMap (mixed channels requested_channel (truncated format src))

/-- What the fused conversion has to come to. -/
structure Refines (format : PcmFormat) (channels requested_channel : Channels) (src : Src) (frames : ℕ)
    (p : Pointers) : Prop where
  reads : p.src_t = frames * channels.count
  writes : p.dst_t.length = frames * requested_channel.count
  same : p.dst_t = twoStep format channels requested_channel src frames
  sums : ∀ l r : ℕ, (half (truncated format src l) + half (truncated format src r)).toInt =
    (half (truncated format src l)).toInt + (half (truncated format src r)).toInt

/-! ### Samples -/

/-- Sixteen bits out of the middle of a word. -/
theorem short_shift (w : BitVec 32) {n : ℕ} (hn : n + 16 ≤ 32) :
    short (w.sshiftRight n) = w.extractLsb' n 16 := by
  ext i hi
  have hin : n + i < 32 := by omega
  simp [short, BitVec.getLsbD_sshiftRight, hin]
  omega

/-- Bit `i` of a shifted word; beyond its width the sign. -/
theorem getLsbD_shift (w : BitVec 32) (n : ℕ) {i : ℕ} (hi : i < 32) :
    (w.sshiftRight n).getLsbD i = w.getLsbD (min (n + i) 31) := by
  rw [BitVec.getLsbD_sshiftRight]
  by_cases h : n + i < 32
  · simp [h, Nat.min_eq_left (Nat.le_of_lt_succ h)]
    omega
  · simp [h, Nat.min_eq_right (Nat.le_of_lt (Nat.not_lt.mp h)), BitVec.msb_eq_getLsbD_last]
    omega

theorem getElem_half (s : BitVec 16) {i : ℕ} (hi : i < 16) : (half s)[i] = s.getLsbD (min (i + 1) 15) := by
  rw [half, BitVec.getElem_sshiftRight]
  split_ifs with h
  · rw [Nat.min_eq_left (by omega), Nat.add_comm i]
    rfl
  · rw [BitVec.msb_eq_getLsbD_last, Nat.min_eq_right (by omega)]

/-- The shift to the left drops the arbitrary upper byte and puts the sign of the 24 bits on top. -/
theorem short_half24 (w : BitVec 32) : short ((w <<< 8).sshiftRight 17) = half (w.extractLsb' 8 16) := by
  ext i hi
  have hbit : min (17 + i) 31 - 8 = 8 + min (i + 1) 15 := by omega
  rw [getElem_half _ hi, short, BitVec.getElem_setWidth, getLsbD_shift _ _ (by omega), BitVec.getLsbD_shiftLeft,
    BitVec.getLsbD_extractLsb', hbit]
  simp
  omega

theorem short_half32 (w : BitVec 32) : short (w.sshiftRight 17) = half (w.extractLsb' 16 16) := by
  ext i hi
  have hbit : min (17 + i) 31 = 16 + min (i + 1) 15 := by omega
  rw [getElem_half _ hi, short, BitVec.getElem_setWidth, getLsbD_shift _ _ (by omega),
    BitVec.getLsbD_extractLsb', hbit]
  simp

theorem short_half16 (s : BitVec 16) : short ((s.signExtend 32).sshiftRight 1) = half s := by
  ext i hi
  rw [getElem_half _ hi, short, BitVec.getElem_setWidth, getLsbD_shift _ _ (by omega),
    BitVec.getLsbD_signExtend]
  by_cases h : i + 1 < 16
  · have hi15 : min (i + 1) 15 = i + 1 := by omega
    have hi31 : min (i + 1) 31 = i + 1 := by omega
    simp [hi15, hi31, Nat.add_comm 1, h]
    omega
  · obtain rfl : i = 15 := by omega
    simp [BitVec.msb_eq_getLsbD_last]

theorem short_add (a b : BitVec 32) : short (a + b) = short a + short b :=
  BitVec.setWidth_add a b (by decide)

/-- Two halves add up to at most a whole. -/
theorem toInt_half_add (l r : BitVec 16) : (half l + half r).toInt = (half l).toInt + (half r).toInt := by
  have hbound (s : BitVec 16) : -2 ^ 14 ≤ (half s).toInt ∧ (half s).toInt < 2 ^ 14 := by
    have hlt := BitVec.toInt_lt (x := s)
    have hle := BitVec.le_toInt s
    rw [half, BitVec.toInt_sshiftRight, Int.shiftRight_eq_div_pow]
    omega
  have hl := hbound l
  have hr := hbound r
  rw [BitVec.toInt_add]
  exact Int.bmod_eq_of_le (by omega) (by omega)

/-! ### Loops -/

theorem eachFrame_eq (frames n : ℕ) (f : ℕ → List (BitVec 16)) :
    eachFrame frames (.advance n f) = ⟨frames * n, (List.range frames).flatMap fun k => f (n * k)⟩ := by
  induction frames with
  | zero => simp [eachFrame]
  | succ frames ih =>
    rw [eachFrame] at ih ⊢
    rw [Function.iterate_succ_apply', ih, Pointers.advance, List.range_succ, Nat.succ_mul]
    simp [Nat.mul_comm n]

/-- A turn reads the samples of one frame and writes its two-step conversion. -/
theorem convertWith_turn {format : PcmFormat} {channels requested_channel : Channels} (src : Src)
    (hconv : converting format channels requested_channel = true)
    (hstereo : channels = .stereo ∨ requested_channel = .stereo) :
    ∃ f, (∀ frames, convertWith format channels requested_channel src frames =
        eachFrame frames (.advance channels.count f)) ∧
      ∀ k, f (channels.count * k) = mixed channels requested_channel (truncated format src) k := by
  have h8 (w : BitVec 32) := short_shift w (n := 8) (by decide)
  have h16 (w : BitVec 32) := short_shift w (n := 16) (by decide)
  have h17 (i : ℕ) := short_half32 (src.int i)
  cases format <;> cases channels <;> cases requested_channel <;> simp [converting] at hconv hstereo <;>
    exact ⟨_, fun frames => rfl, fun k => by
      simp [mixed, truncated, Channels.count, short_add, short_half16, short_half24, h8, h16, h17]⟩

/-- Between one and two channels either way, and for stereo kept stereo, the loop does what the two steps
    do. -/
theorem convertWith_eq {format : PcmFormat} {channels requested_channel : Channels} (src : Src) (frames : ℕ)
    (hconv : converting format channels requested_channel = true)
    (hstereo : channels = .stereo ∨ requested_channel = .stereo) :
    convertWith format channels requested_channel src frames =
      ⟨frames * channels.count, twoStep format channels requested_channel src frames⟩ := by
  obtain ⟨f, hloop, hturn⟩ := convertWith_turn src hconv hstereo
  rw [hloop, eachFrame_eq, twoStep]
  simp only [hturn]

/-- Mono kept mono is taken for stereo. -/
theorem convertWith_mono {format : PcmFormat} (src : Src) (frames : ℕ)
    (hconv : converting format .mono .mono = true) :
    (convertWith format .mono .mono src frames).src_t = frames * 2 := by
  cases format <;> simp [converting] at hconv <;>
    simp [convertWith, convert_record_data, eachFrame_eq]

theorem length_mixed (channels requested_channel : Channels) (sample : ℕ → BitVec 16) (frame : ℕ) :
    (mixed channels requested_channel sample frame).length = requested_channel.count := by
  cases channels <;> cases requested_channel <;> rfl

theorem length_twoStep (format : PcmFormat) (channels requested_channel : Channels) (src : Src) (frames : ℕ) :
    (twoStep format channels requested_channel src frames).length = frames * requested_channel.count := by
  simp [twoStep, List.length_flatMap, length_mixed]

/-- The fused conversion is the one in two steps unless frames of one channel stay frames of one channel. -/
theorem refines_two_step_iff {format : PcmFormat} {channels requested_channel : Channels} (src : Src)
    (frames : ℕ) (hconv : converting format channels requested_channel = true) :
    Refines format channels requested_channel src frames
        (convertWith format channels requested_channel src frames) ↔
      frames = 0 ∨ channels = .stereo ∨ requested_channel = .stereo := by
  constructor
  · intro h
    by_contra hnot
    have hmono : channels = .mono ∧ requested_channel = .mono := by
      cases channels <;> cases requested_channel <;> simp_all
    obtain ⟨rfl, rfl⟩ := hmono
    have hreads := h.reads
    rw [convertWith_mono src frames hconv, Channels.count] at hreads
    omega
  · rintro (rfl | hstereo)
    · have hnone : convertWith format channels requested_channel src 0 = ⟨0, []⟩ := by
        simp [convertWith, convert_record_data, eachFrame_eq]
      rw [hnone]
      exact ⟨by simp, by simp, by simp [twoStep], fun l r => toInt_half_add _ _⟩
    · rw [convertWith_eq src frames hconv hstereo]
      exact ⟨rfl, length_twoStep _ _ _ _ _, rfl, fun l r => toInt_half_add _ _⟩

/-- Two channels of 24 bits mixed into one. -/
theorem refines_two_step_mixed : Refines .S24_LE .stereo .mono (BitVec.ofNat 8) 3
    (convertWith .S24_LE .stereo .mono (BitVec.ofNat 8) 3) :=
  (refines_two_step_iff (BitVec.ofNat 8) 3 (by decide)).mpr (.inr (.inl rfl))

/-- A frame of one 24-bit sample that stays mono: two samples are read for it. -/
theorem mono_read_in_pairs : ¬ ∀ (format : PcmFormat) (channels requested_channel : Channels) (src : Src)
    (frames : ℕ), converting format channels requested_channel = true →
      Refines format channels requested_channel src frames
        (convertWith format channels requested_channel src frames) := by
  intro h
  have hreads := (h .S24_LE .mono .mono (fun _ => 0) 1 (by decide)).reads
  exact absurd hreads (by decide)

/-! ### Frames -/

/-- A sample as the driver delivers it; one of 16 bits is sign-extended. -/
def rawSample (format : PcmFormat) (src : Src) (i : ℕ) : RawSample :=
  match format with
  | .S16_LE => (src.short i).signExtend 32
  | .S24_LE | .S32_LE => src.int i

theorem short_signExtend (s : BitVec 16) : short (s.signExtend 32) = s := by
  ext i hi
  simp [short, BitVec.getLsbD_signExtend, hi]
  omega

/-- `n` frames of the driver from `first` on, as they stand in `read_tmp_buf`. -/
def Holds (c : Session) (src : Src) (first n : ℕ) : Prop :=
  ∀ k < n, ∀ j < c.channels.count, c.driver (first + k) j = rawSample c.format src (c.channels.count * k + j)

theorem convertFrame_eq {c : Session} {src : Src} {first n k : ℕ} (h : Holds c src first n) (hk : k < n)
    (hconv : converting c.format c.channels c.requested_channel = true)
    (hstereo : c.channels = .stereo ∨ c.requested_channel = .stereo) :
    c.convertFrame (c.rawFrame (first + k)) =
      mixed c.channels c.requested_channel (truncated c.format src) k := by
  have hshift (w : BitVec 32) (m : ℕ) (hm : m + 16 ≤ 32) :
      BitVec.setWidth 16 (w.sshiftRight m) = w.extractLsb' m 16 := short_shift w hm
  have hadd (a b : BitVec 32) : BitVec.setWidth 16 (a + b) = short a + short b := short_add a b
  have hwiden (s : BitVec 16) : BitVec.setWidth 16 (s.signExtend 32) = s := short_signExtend s
  have hraw : c.rawFrame (first + k) =
      (List.range c.channels.count).map fun j => rawSample c.format src (c.channels.count * k + j) :=
    List.map_congr_left fun j hj => h k hk j (List.mem_range.mp hj)
  have h17 (i : ℕ) := short_half32 (src.int i)
  rw [hraw]
  simp only [Session.convertFrame, Session.mono2stereo, Session.stereo2mono]
  generalize c.format = format at *
  generalize c.channels = channels at *
  generalize c.requested_channel = requested_channel at *
  cases format <;> cases channels <;> cases requested_channel <;> simp [converting] at hconv hstereo <;>
    simp [rawSample, mixed, truncated, Channels.count, List.range_succ, hshift, hadd, hwiden, short_half16, short_half24,
      h17]

/-- What `in_read` returns frame by frame is what the loop writes in one go. -/
theorem capturedFrames_flatten {c : Session} {src : Src} {first n : ℕ} (h : Holds c src first n)
    (hconv : converting c.format c.channels c.requested_channel = true)
    (hstereo : c.channels = .stereo ∨ c.requested_channel = .stereo) :
    (c.capturedFrames first n).flatten = (convertWith c.format c.channels c.requested_channel src n).dst_t := by
  have hframe (k : ℕ) (hk : k ∈ List.range n) := convertFrame_eq h (List.mem_range.mp hk) hconv hstereo
  rw [convertWith_eq src n hconv hstereo, Session.capturedFrames, List.range'_eq_map_range, List.map_map,
    ← List.flatMap_def]
  exact List.flatMap_congr hframe

end ImxHal.Alsa.Capture
