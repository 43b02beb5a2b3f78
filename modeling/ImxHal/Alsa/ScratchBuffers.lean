import ImxHal.Schemes.Run
import ImxHal.Alsa.AudioDevice
import ImxHal.Alsa.RecordConvert

/-! @src alsa/tinyalsa_hal.cpp (pcm_read_convert, in_read, get_next_buffer, start_input_stream,
    start_output_stream, out_write, convert_passthrough_data_for_s24, convert_record_data,
    adev_create_audio_patch) |
    name:scratch buffers | scheme:run | family:streams

    A stream converts through one scratch buffer. It is allocated once, for the request or the period at
    hand, and what is written into it later depends on the byte count of each call:

        in_read    read_tmp_buf   frames of the FIRST converted read, unless read_tmp_buf_size says it is there
        out_write  buffer         2 periods of the mixer, or the HDMI buffer where the flag is set by then

        SCO                       2 bytes for each frame of the call
        passthrough_for_s24       8 bytes for each frame of the call -/

namespace ImxHal.Alsa.Scratch
open ImxHal.Run
open Capture (Channels PcmFormat Src converting convertWith convert_record_data)

/-- An access to a buffer of `size` bytes, up to the byte in front of `upto`. A null buffer has no bytes. -/
structure Access where
  size : ℕ
  upto : ℕ
  deriving DecidableEq

def Access.Within (a : Access) : Prop := a.upto ≤ a.size

instance (a : Access) : Decidable a.Within := inferInstanceAs (Decidable (a.upto ≤ a.size))

/-- What the scan of the cards has set for good: `pcm_config_mm_in.period_size`,
    `pcm_config_mm_out.period_size`, the channels of the SCO card and the format each input device has. -/
structure Device where
  in_period_size : ℕ
  in_period_pos : 0 < in_period_size
  out_period_size : ℕ
  g_hsp_chns : Channels
  in_format : BitVec 32 → PcmFormat

/-! ### Input streams -/

def AUDIO_DEVICE_IN_BLUETOOTH_SCO_HEADSET : BitVec 32 := 0x80000008

/-- `in->config`; its period size is that of the device. -/
structure PcmConfig where
  channels : Channels
  format : PcmFormat

/-- Samples of 24 bits stand in words. -/
def sampleBytes : PcmFormat → ℕ
  | .S16_LE => 2
  | .S24_LE | .S32_LE => 4

def PcmConfig.pcm_frames_to_bytes (c : PcmConfig) (frames : ℕ) : ℕ :=
  frames * (c.channels.count * sampleBytes c.format)

/-- `struct imx_stream_in`, for a request of 16 bits; of `read_tmp_buf` the bytes it was allocated with. -/
structure StreamIn where
  requested_channel : Channels
  device : BitVec 32
  config : PcmConfig
  standby : Bool
  read_tmp_buf : Option ℕ
  read_tmp_buf_size : ℕ

/-- One read of the driver: whether it succeeds, and what then stands in the buffer. -/
structure Read where
  ok : Bool
  src : Src

/-- One call: its bytes, whether the stream starts if it has to, the effects and the resampler it has
    then, the read without them and the reads that fill a period with them. -/
structure InRead where
  bytes : ℕ
  started : Bool
  num_preprocessors : ℕ
  resampler : Bool
  read : Read
  refills : List Read

namespace StreamIn
variable (d : Device) (s : StreamIn)

def frame_size : ℕ := s.requested_channel.count * 2

def start_input_stream : StreamIn :=
  { s with
    config :=
      { channels :=
          if s.device = AUDIO_DEVICE_IN_BLUETOOTH_SCO_HEADSET &&& ~~~AUDIO_DEVICE_BIT_IN then d.g_hsp_chns
          else .stereo
        format := d.in_format s.device } }

/-- Out of standby: a stream that is in standby has started. -/
def awake : StreamIn := if s.standby then { s.start_input_stream d with standby := false } else s

/-- The reallocation; what was in the buffer is not needed any more. -/
def reallocate (size_in_bytes_tmp : ℕ) : StreamIn :=
  if s.read_tmp_buf_size < d.in_period_size then
    { s with read_tmp_buf_size := d.in_period_size, read_tmp_buf := some size_in_bytes_tmp }
  else s

/-- Without a conversion the driver's frames go to the caller's buffer. -/
def pcm_read_convert (count : ℕ) (r : Read) : StreamIn × List Access :=
  let frames_rq := count / s.frame_size
  if converting s.config.format s.config.channels s.requested_channel then
    let size_in_bytes_tmp := s.config.pcm_frames_to_bytes frames_rq
    let s := s.reallocate d size_in_bytes_tmp
    let size := s.read_tmp_buf.getD 0
    let converted := convertWith s.config.format s.config.channels s.requested_channel r.src frames_rq
    (s, ⟨size, size_in_bytes_tmp⟩ ::
      if r.ok then [⟨size, converted.src_t * sampleBytes s.config.format⟩] else [])
  else (s, [])

/-- The calls of `get_next_buffer` that find `read_buf` empty; an error ends the read. -/
def refill : StreamIn → List Read → StreamIn × List Access
  | s, [] => (s, [])
  | s, r :: reads =>
    let (s', accesses) := s.pcm_read_convert d (d.in_period_size * s.frame_size) r
    if r.ok then ((refill s' reads).1, accesses ++ (refill s' reads).2) else (s', accesses)

def in_read (e : InRead) : StreamIn × List Access :=
  if s.standby && !e.started then (s, [])
  else
    let s := s.awake d
    if e.num_preprocessors ≠ 0 || e.resampler then refill d s e.refills
    else s.pcm_read_convert d e.bytes e.read

def in_standby : StreamIn := { s with standby := true }

/-- A patch to another device. -/
def connect (type : BitVec 32) : StreamIn :=
  if s.device ≠ type then { s with device := type &&& ~~~AUDIO_DEVICE_BIT_IN, standby := true } else s

end StreamIn

/-! ### Output streams -/

/-- The formats with proportional frames by their names, DSD, and those that are encoded. -/
inductive OutFormat where
  | PCM_16_BIT | PCM_24_BIT_PACKED | PCM_32_BIT | PCM_8_24_BIT | PCM_FLOAT | IEC61937 | DSD | encoded
  deriving DecidableEq

/-- `audio_bytes_per_sample`, for proportional frames. -/
def OutFormat.bytesPerSample : OutFormat → Option ℕ
  | .PCM_16_BIT | .IEC61937 => some 2
  | .PCM_24_BIT_PACKED => some 3
  | .PCM_32_BIT | .PCM_8_24_BIT | .PCM_FLOAT => some 4
  | .DSD | .encoded => none

/-- `struct imx_stream_out`, with the bytes `buffer` was allocated with. -/
structure StreamOut where
  flags : BitVec 32
  format : OutFormat
  channels : ℕ
  period_size : ℕ
  period_count : ℕ
  device : BitVec 32
  standby : Bool
  buffer : Option ℕ

/-- One call: its data, and whether the stream starts if it has to. -/
structure OutWrite where
  bytes : ℕ
  data : Src
  started : Bool

/-- The samples of a compressed audio stream as two shorts a frame, each in a word of its own. -/
def convert_passthrough_data_for_s24 (src : Src) (frames : ℕ) : List (BitVec 32) :=
  (List.range frames).flatMap fun i =>
    [(src.short (2 * i)).signExtend 32 <<< 8, (src.short (2 * i + 1)).signExtend 32 <<< 8]

namespace StreamOut
variable (d : Device) (s : StreamOut)

/-- `audio_stream_out_frame_size`. -/
def frame_size : ℕ :=
  match s.format.bytesPerSample with
  | some n => s.channels * n
  | none => 1

def compressed : Bool := s.flags &&& AUDIO_OUTPUT_FLAG_COMPRESS_OFFLOAD ≠ 0 && s.format ≠ .DSD

/-- The streams that the mixer of the framework writes to. -/
def mixer : Bool := s.flags &&& AUDIO_OUTPUT_FLAG_PRIMARY ≠ 0 || s.flags = AUDIO_OUTPUT_FLAG_NONE

def allocate (buffer_frames : ℕ) : StreamOut :=
  if s.buffer = none then { s with buffer := some (buffer_frames * s.frame_size) } else s

/-- A start that opens the device. -/
def start_output_stream (passthrough_for_s24 : Bool) : StreamOut :=
  if s.compressed then s
  else
    let s := if s.mixer then s.allocate (d.out_period_size * 2) else s
    if passthrough_for_s24 then s.allocate (s.period_size * s.period_count) else s

def awake (passthrough_for_s24 : Bool) : StreamOut :=
  if s.standby then { s.start_output_stream d passthrough_for_s24 with standby := false } else s

def sco : Bool :=
  s.device = AUDIO_DEVICE_OUT_BLUETOOTH_SCO_HEADSET || s.device = AUDIO_DEVICE_OUT_BLUETOOTH_SCO_CARKIT ||
    s.device = AUDIO_DEVICE_OUT_BLUETOOTH_SCO

/-- The conversions in front of the write itself. -/
def conversions (passthrough_for_s24 : Bool) (e : OutWrite) : List Access :=
  let out_frames := e.bytes / s.frame_size
  let size := s.buffer.getD 0
  (if s.sco then [⟨size, (convert_record_data e.data out_frames false false false true).dst_t.length * 2⟩]
    else []) ++
  if passthrough_for_s24 then [⟨size, (convert_passthrough_data_for_s24 e.data out_frames).length * 4⟩] else []

def out_write (passthrough_for_s24 : Bool) (e : OutWrite) : StreamOut × List Access :=
  if s.standby && !e.started then (s, [])
  else
    let s := s.awake d passthrough_for_s24
    (s, s.conversions passthrough_for_s24 e)

/-- `do_output_standby`, which is refused in a call and while SCO runs. -/
def do_output_standby (refused : Bool) : StreamOut := if refused then s else { s with standby := true }

/-- A patch to other devices, of which the first counts. -/
def connect (type : BitVec 32) (refused : Bool) : StreamOut :=
  if s.device ≠ type then { s with device := type }.do_output_standby refused else s

end StreamOut

/-! ### Runs -/

structure Hal where
  passthrough_for_s24 : Bool
  ins : List StreamIn
  outs : List StreamOut

/-- The calls on the streams, by their place in the list. An output that is opened for HDMI on the boards
    that need it sets the flag of all, where pass-through is enabled. -/
inductive Call where
  | openInput (requested_channel : Channels) (device : BitVec 32)
  | openOutput (flags : BitVec 32) (format : OutFormat) (channels period_size period_count : ℕ)
      (device : BitVec 32) (passthrough : Bool)
  | in_read (i : ℕ) (e : InRead)
  | in_standby (i : ℕ)
  | in_connect (i : ℕ) (type : BitVec 32)
  | out_write (i : ℕ) (e : OutWrite)
  | out_standby (i : ℕ) (refused : Bool)
  | out_connect (i : ℕ) (type : BitVec 32) (refused : Bool)
  | closeInput (i : ℕ)
  | closeOutput (i : ℕ)

/-- A new input stream has the configuration of the mixer until it starts. -/
def newInput (requested_channel : Channels) (device : BitVec 32) : StreamIn :=
  { requested_channel, device := device &&& ~~~AUDIO_DEVICE_BIT_IN, config := ⟨.stereo, .S16_LE⟩
    standby := true, read_tmp_buf := none, read_tmp_buf_size := 0 }

def step (d : Device) (h : Hal) : Call → Hal
  | .openInput requested_channel device =>
    { h with ins := h.ins ++ [newInput requested_channel device] }
  | .openOutput flags format channels period_size period_count device passthrough =>
    { h with
      passthrough_for_s24 := h.passthrough_for_s24 || passthrough
      outs := h.outs ++ [⟨flags, format, channels, period_size, period_count, device, true, none⟩] }
  | .in_read i e => { h with ins := h.ins.modify i fun s => (s.in_read d e).1 }
  | .in_standby i => { h with ins := h.ins.modify i StreamIn.in_standby }
  | .in_connect i type => { h with ins := h.ins.modify i fun s => s.connect type }
  | .out_write i e => { h with outs := h.outs.modify i fun s => (s.out_write d h.passthrough_for_s24 e).1 }
  | .out_standby i refused => { h with outs := h.outs.modify i fun s => s.do_output_standby refused }
  | .out_connect i type refused => { h with outs := h.outs.modify i fun s => s.connect type refused }
  | .closeInput i => { h with ins := h.ins.eraseIdx i }
  | .closeOutput i => { h with outs := h.outs.eraseIdx i }

/-- What a call reads and writes of a scratch buffer. -/
def accesses (d : Device) (h : Hal) : Call → List Access
  | .in_read i e => ((h.ins[i]?).map fun s => (s.in_read d e).2).getD []
  | .out_write i e => ((h.outs[i]?).map fun s => (s.out_write d h.passthrough_for_s24 e).2).getD []
  | _ => []

/-- Every access of the call stays within its buffer. -/
def Contained (d : Device) (h : Hal) (e : Call) (_ : Hal) : Prop := ∀ a ∈ accesses d h e, a.Within

/-! ### What fits -/

namespace StreamIn
variable (d : Device) (s : StreamIn)

/-- Whether a converted read looks at twice what was read: frames of one sample are taken in pairs. -/
def inPairs (ok : Bool) : Bool :=
  ok && s.config.channels = .mono && s.requested_channel = .mono

/-- A read of `frames` frames. The first one that is converted finds no buffer and gets one of its own size;
    every other one has that buffer. -/
def Fits (frames : ℕ) (ok : Bool) : Prop :=
  converting s.config.format s.config.channels s.requested_channel = true →
    match s.read_tmp_buf with
    | none => frames = 0 ∨ s.inPairs ok = false
    | some size => s.config.pcm_frames_to_bytes frames * (if s.inPairs ok then 2 else 1) ≤ size

/-- A call that does not fail to start the stream reads its own frames, or periods when there are effects or
    a resampler; of those the first one counts. -/
def ReadFits (e : InRead) : Prop :=
  (s.standby = true → e.started = true) →
    let s := s.awake d
    if e.num_preprocessors ≠ 0 || e.resampler then
      ∀ r ∈ e.refills.head?, s.Fits d.in_period_size r.ok
    else s.Fits (e.bytes / s.frame_size) e.read.ok

end StreamIn

namespace StreamOut
variable (d : Device) (s : StreamOut)

/-- The buffer of a stream that the mixer writes to, and of one for HDMI. -/
def room : ℕ :=
  if s.mixer then d.out_period_size * 2 * s.frame_size else s.period_size * s.period_count * s.frame_size

/-- There is a buffer, or the call starts the stream and allocates one. -/
def hasBuffer (passthrough_for_s24 : Bool) : Bool :=
  s.buffer.isSome || (s.standby && !s.compressed && (s.mixer || passthrough_for_s24))

/-- What the frames of the call take when they are converted for SCO or for pass-through. -/
def WriteFits (passthrough_for_s24 : Bool) (e : OutWrite) : Prop :=
  (s.standby = true → e.started = true) →
    let room := if s.hasBuffer passthrough_for_s24 then s.room d else 0
    (s.sco = true → e.bytes / s.frame_size * 2 ≤ room) ∧
      (passthrough_for_s24 = true → e.bytes / s.frame_size * 8 ≤ room)

end StreamOut

/-- The condition of a call. -/
def Fits (d : Device) (h : Hal) : Call → Prop
  | .in_read i e => ∀ s, h.ins[i]? = some s → s.ReadFits d e
  | .out_write i e => ∀ s, h.outs[i]? = some s → s.WriteFits d h.passthrough_for_s24 e
  | _ => True

/-- A call that fails to start its stream accesses nothing. -/
theorem contained_of_start {α : Type} {standby started : Bool} (s : α) (call : α × List Access) :
    (∀ a ∈ (if standby && !started then (s, []) else call).2, a.Within) ↔
      (standby = true → started = true) → ∀ a ∈ call.2, a.Within := by
  cases standby <;> cases started <;> simp

/-! ### Reads -/

namespace StreamIn
variable {d : Device} {s : StreamIn}

/-- There is a buffer exactly when its recorded size says so. -/
def Inv (d : Device) (s : StreamIn) : Prop :=
  s.read_tmp_buf = none ∧ s.read_tmp_buf_size = 0 ∨
    s.read_tmp_buf.isSome = true ∧ s.read_tmp_buf_size = d.in_period_size

/-- The stream behind a converted read of `n` bytes. -/
def allocated (d : Device) (s : StreamIn) (n : ℕ) : StreamIn :=
  { s with read_tmp_buf := some (s.read_tmp_buf.getD n), read_tmp_buf_size := d.in_period_size }

theorem reallocate_eq (h : s.Inv d) (n : ℕ) : s.reallocate d n = s.allocated d n := by
  have hpos := d.in_period_pos
  unfold reallocate allocated
  rcases h with ⟨hnone, hsize⟩ | ⟨hsome, hsize⟩
  · rw [if_pos (by omega), hnone]
    rfl
  · obtain ⟨m, hm⟩ := Option.isSome_iff_exists.mp hsome
    rw [if_neg (by omega), hm, ← hsize, Option.getD_some, ← hm]

theorem allocated_inv (d : Device) (s : StreamIn) (n : ℕ) : (s.allocated d n).Inv d := Or.inr ⟨rfl, rfl⟩

/-- How far the conversion reads. -/
theorem converted_bytes (s : StreamIn) (src : Src) (frames : ℕ)
    (hconv : converting s.config.format s.config.channels s.requested_channel = true) :
    (convertWith s.config.format s.config.channels s.requested_channel src frames).src_t *
        sampleBytes s.config.format =
      s.config.pcm_frames_to_bytes frames * (if s.inPairs true then 2 else 1) := by
  unfold PcmConfig.pcm_frames_to_bytes inPairs
  generalize s.config.format = format at hconv ⊢
  generalize s.config.channels = channels at hconv ⊢
  generalize s.requested_channel = requested_channel at hconv ⊢
  by_cases hstereo : channels = .stereo ∨ requested_channel = .stereo
  · rw [Capture.convertWith_eq src frames hconv hstereo]
    have hpairs : (true && channels = .mono && requested_channel = .mono) = false := by
      rcases hstereo with rfl | rfl <;> simp
    rw [hpairs, if_neg Bool.false_ne_true, mul_one, mul_assoc]
  · obtain ⟨rfl, rfl⟩ : channels = .mono ∧ requested_channel = .mono := by
      cases channels <;> cases requested_channel <;> simp at hstereo ⊢
    rw [Capture.convertWith_mono src frames hconv]
    simp only [Channels.count, decide_true, Bool.and_self, if_true]
    ring

theorem pcm_frames_to_bytes_eq_zero (c : PcmConfig) (frames : ℕ) :
    c.pcm_frames_to_bytes frames = 0 ↔ frames = 0 := by
  have hframe : c.channels.count * sampleBytes c.format ≠ 0 := by
    cases c.channels <;> cases c.format <;> decide
  rw [PcmConfig.pcm_frames_to_bytes, Nat.mul_eq_zero, or_iff_left hframe]

theorem pcm_read_convert_idle (count : ℕ) (r : Read)
    (hconv : converting s.config.format s.config.channels s.requested_channel = false) :
    s.pcm_read_convert d count r = (s, []) := by
  rw [pcm_read_convert, hconv]
  rfl

theorem pcm_read_convert_stream (h : s.Inv d) (count : ℕ) (r : Read)
    (hconv : converting s.config.format s.config.channels s.requested_channel = true) :
    (s.pcm_read_convert d count r).1
      = s.allocated d (s.config.pcm_frames_to_bytes (count / s.frame_size)) := by
  rw [pcm_read_convert, if_pos hconv]
  exact reallocate_eq h _

/-- One read stays within the buffer exactly when it fits. -/
theorem pcm_read_convert_contained (h : s.Inv d) (count : ℕ) (r : Read) :
    (∀ a ∈ (s.pcm_read_convert d count r).2, a.Within) ↔ s.Fits (count / s.frame_size) r.ok := by
  cases hconv : converting s.config.format s.config.channels s.requested_channel with
  | false =>
    rw [pcm_read_convert_idle count r hconv, Fits, hconv]
    simp
  | true =>
    generalize hframes : count / s.frame_size = frames
    have hbytes := converted_bytes s r.src frames hconv
    have hzero := pcm_frames_to_bytes_eq_zero s.config frames
    have haccess : (s.pcm_read_convert d count r).2 =
        ⟨s.read_tmp_buf.getD (s.config.pcm_frames_to_bytes frames), s.config.pcm_frames_to_bytes frames⟩ ::
          if r.ok then [⟨s.read_tmp_buf.getD (s.config.pcm_frames_to_bytes frames),
            s.config.pcm_frames_to_bytes frames * (if s.inPairs true then 2 else 1)⟩] else [] := by
      rw [pcm_read_convert, if_pos hconv, hframes, ← hbytes]
      simp only [reallocate_eq h]
      rfl
    have hno : s.inPairs false = false := by simp [inPairs]
    rw [haccess, Fits, hconv]
    generalize s.config.pcm_frames_to_bytes frames = bytes at hzero ⊢
    cases s.read_tmp_buf <;> cases r.ok <;> cases s.inPairs true <;> simp [Access.Within, hno] <;> omega

theorem pcm_read_convert_inv (h : s.Inv d) (count : ℕ) (r : Read) :
    (s.pcm_read_convert d count r).1.Inv d := by
  cases hconv : converting s.config.format s.config.channels s.requested_channel with
  | false =>
    rw [pcm_read_convert_idle count r hconv]
    exact h
  | true =>
    rw [pcm_read_convert_stream h count r hconv]
    exact allocated_inv d s _

/-- Behind a period that was read and converted there is room for all the following ones. -/
theorem fits_next (h : s.Inv d) (r : Read) (ok : Bool) {count frames : ℕ}
    (hframes : count / s.frame_size = frames) (hfits : s.Fits frames true) :
    (s.pcm_read_convert d count r).1.Fits frames ok := by
  cases hconv : converting s.config.format s.config.channels s.requested_channel with
  | false =>
    rw [pcm_read_convert_idle count r hconv, Fits, hconv]
    exact fun hno => absurd hno Bool.false_ne_true
  | true =>
    have hroom := hfits hconv
    have hpairs : s.inPairs ok = true → s.inPairs true = true := by
      cases ok <;> simp [inPairs]
    have hzero := pcm_frames_to_bytes_eq_zero s.config frames
    rw [pcm_read_convert_stream h count r hconv, hframes]
    intro _
    change s.config.pcm_frames_to_bytes frames * (if s.inPairs ok then 2 else 1) ≤
      s.read_tmp_buf.getD (s.config.pcm_frames_to_bytes frames)
    cases hok : s.inPairs ok with
    | false =>
      cases hbuf : s.read_tmp_buf with
      | none => simp
      | some size =>
        rw [hbuf] at hroom
        simp only [Option.getD_some] at hroom ⊢
        split at hroom <;> simp <;> omega
    | true =>
      rw [hpairs hok] at hroom
      cases hbuf : s.read_tmp_buf with
      | none =>
        rw [hbuf] at hroom
        simp at hroom
        simp [hzero.mpr hroom]
      | some size =>
        rw [hbuf] at hroom
        exact hroom

theorem frame_size_pos (s : StreamIn) : 0 < s.frame_size := by
  unfold frame_size
  cases s.requested_channel <;> decide

theorem refill_inv (reads : List Read) (h : s.Inv d) : (refill d s reads).1.Inv d := by
  induction reads generalizing s with
  | nil => exact h
  | cons r reads ih =>
    have hnext := pcm_read_convert_inv h (d.in_period_size * s.frame_size) r
    rw [refill]
    simp only
    split
    · exact ih hnext
    · exact hnext

/-- The reads of periods by induction: the first one decides for all. -/
theorem refill_contained (reads : List Read) (h : s.Inv d) :
    (∀ a ∈ (refill d s reads).2, a.Within) ↔ ∀ r ∈ reads.head?, s.Fits d.in_period_size r.ok := by
  induction reads generalizing s with
  | nil => simp [refill]
  | cons r reads ih =>
    have hframes : d.in_period_size * s.frame_size / s.frame_size = d.in_period_size :=
      Nat.mul_div_cancel _ s.frame_size_pos
    have hfirst := pcm_read_convert_contained h (d.in_period_size * s.frame_size) r
    rw [hframes] at hfirst
    rw [refill]
    simp only [List.head?_cons, Option.mem_some_iff, forall_eq']
    split
    · rename_i hok
      rw [List.forall_mem_append, hfirst, ih (pcm_read_convert_inv h _ r)]
      refine ⟨And.left, fun hfits => ⟨hfits, fun r' _ => ?_⟩⟩
      rw [hok] at hfits
      exact fits_next h r r'.ok hframes hfits
    · exact hfirst

theorem awake_inv (h : s.Inv d) : (s.awake d).Inv d := by
  unfold awake
  split
  · exact h
  · exact h

theorem in_read_inv (e : InRead) (h : s.Inv d) : (s.in_read d e).1.Inv d := by
  rw [in_read]
  split
  · exact h
  · simp only
    split
    · exact refill_inv e.refills (awake_inv h)
    · exact pcm_read_convert_inv (awake_inv h) e.bytes e.read

theorem in_read_contained (e : InRead) (h : s.Inv d) :
    (∀ a ∈ (s.in_read d e).2, a.Within) ↔ s.ReadFits d e := by
  have hawake := awake_inv h
  have hsize : (s.awake d).frame_size = s.frame_size := by
    unfold awake
    split <;> rfl
  rw [in_read, ReadFits, contained_of_start]
  refine imp_congr_right fun _ => ?_
  simp only
  split
  · exact refill_contained e.refills hawake
  · rw [pcm_read_convert_contained hawake, hsize]

end StreamIn

/-! ### Writes -/

namespace StreamOut
variable {d : Device} {s : StreamOut}

/-- A buffer has the size that the first start gives it. -/
def Inv (d : Device) (s : StreamOut) : Prop := ∀ n, s.buffer = some n → n = s.room d

theorem dst_bytes (data : Src) (frames : ℕ) :
    (convert_record_data data frames false false false true).dst_t.length * 2 = frames * 2 := by
  simp [convert_record_data, Capture.eachFrame_eq]

theorem passthrough_bytes (data : Src) (frames : ℕ) :
    (convert_passthrough_data_for_s24 data frames).length * 4 = frames * 8 := by
  simp [convert_passthrough_data_for_s24, List.length_flatMap]
  omega

theorem conversions_contained (s : StreamOut) (passthrough_for_s24 : Bool) (e : OutWrite) :
    (∀ a ∈ s.conversions passthrough_for_s24 e, a.Within) ↔
      (s.sco = true → e.bytes / s.frame_size * 2 ≤ s.buffer.getD 0) ∧
        (passthrough_for_s24 = true → e.bytes / s.frame_size * 8 ≤ s.buffer.getD 0) := by
  simp only [conversions, dst_bytes, passthrough_bytes, List.forall_mem_append]
  cases s.sco <;> cases passthrough_for_s24 <;> simp [Access.Within]

theorem allocate_eq (s : StreamOut) (buffer_frames : ℕ) : s.allocate buffer_frames =
    { s with buffer := some (s.buffer.getD (buffer_frames * s.frame_size)) } := by
  unfold allocate
  cases hbuf : s.buffer with
  | none => rfl
  | some n => rw [if_neg (by simp), Option.getD_some, ← hbuf]

/-- A start leaves everything but the buffer, and that has the room of the stream. -/
theorem start_eq (passthrough_for_s24 : Bool) (h : s.Inv d) :
    s.start_output_stream d passthrough_for_s24 =
      { s with
        buffer :=
          if s.buffer.isSome || (!s.compressed && (s.mixer || passthrough_for_s24)) then some (s.room d)
          else none } := by
  have hkept : s = { s with buffer := if s.buffer.isSome then some (s.room d) else none } := by
    cases hbuf : s.buffer with
    | none => rw [Option.isSome_none, if_neg Bool.false_ne_true, ← hbuf]
    | some n => rw [Option.isSome_some, if_pos rfl, ← h n hbuf, ← hbuf]
  have hroom (n : ℕ) (hn : s.room d = n) : s.buffer.getD n = s.room d := by
    cases hbuf : s.buffer with
    | none => rw [Option.getD_none, hn]
    | some m => rw [Option.getD_some, h m hbuf]
  unfold start_output_stream
  cases hcompressed : s.compressed with
  | true => simpa using hkept
  | false =>
    cases hmixer : s.mixer with
    | true =>
      have hmixed := hroom (d.out_period_size * 2 * s.frame_size) (by rw [room, hmixer, if_pos rfl])
      cases passthrough_for_s24 <;> simp [allocate_eq, hmixed]
    | false =>
      have hdirect := hroom (s.period_size * s.period_count * s.frame_size) (by
        rw [room, hmixer, if_neg Bool.false_ne_true])
      cases passthrough_for_s24 with
      | true => simp [allocate_eq, hdirect]
      | false => simpa using hkept

theorem awake_inv (passthrough_for_s24 : Bool) (h : s.Inv d) : (s.awake d passthrough_for_s24).Inv d := by
  unfold awake
  split
  · rw [start_eq passthrough_for_s24 h]
    intro n hn
    simp only [Option.ite_none_right_eq_some, Option.some.injEq] at hn
    exact hn.2.symm
  · exact h

/-- The bytes there are for the conversions of a call. -/
theorem awake_size (passthrough_for_s24 : Bool) (h : s.Inv d) :
    (s.awake d passthrough_for_s24).buffer.getD 0 =
      if s.hasBuffer passthrough_for_s24 then s.room d else 0 := by
  unfold awake hasBuffer
  cases hstandby : s.standby with
  | true =>
    rw [if_pos rfl, start_eq passthrough_for_s24 h, Bool.true_and]
    split <;> simp_all
  | false =>
    rw [if_neg Bool.false_ne_true, Bool.false_and, Bool.false_and, Bool.or_false]
    cases hbuf : s.buffer with
    | none => rfl
    | some n => simp [h n hbuf]

theorem awake_frames (passthrough_for_s24 : Bool) (h : s.Inv d) :
    (s.awake d passthrough_for_s24).frame_size = s.frame_size ∧
      (s.awake d passthrough_for_s24).sco = s.sco := by
  unfold awake
  split
  · rw [start_eq passthrough_for_s24 h]
    exact ⟨rfl, rfl⟩
  · exact ⟨rfl, rfl⟩

theorem out_write_inv (passthrough_for_s24 : Bool) (e : OutWrite) (h : s.Inv d) :
    (s.out_write d passthrough_for_s24 e).1.Inv d := by
  rw [out_write]
  split
  · exact h
  · exact awake_inv passthrough_for_s24 h

theorem out_write_contained (passthrough_for_s24 : Bool) (e : OutWrite) (h : s.Inv d) :
    (∀ a ∈ (s.out_write d passthrough_for_s24 e).2, a.Within) ↔ s.WriteFits d passthrough_for_s24 e := by
  obtain ⟨hsize, hsco⟩ := awake_frames passthrough_for_s24 h
  rw [out_write, WriteFits, contained_of_start]
  refine imp_congr_right fun _ => ?_
  simp only
  rw [conversions_contained, hsize, hsco, awake_size passthrough_for_s24 h]

end StreamOut

/-! ### Runs -/

/-- Each stream has the buffer it recorded, of the size its first start or read gave it. -/
structure Inv (d : Device) (h : Hal) : Prop where
  ins : ∀ s ∈ h.ins, s.Inv d
  outs : ∀ s ∈ h.outs, s.Inv d

theorem mem_modify {α : Type} {P : α → Prop} {f : α → α} {l : List α} (i : ℕ) (hl : ∀ a ∈ l, P a)
    (hf : ∀ a, P a → P (f a)) : ∀ a ∈ l.modify i f, P a := by
  intro a ha
  obtain ⟨j, hj⟩ := List.mem_iff_getElem?.mp ha
  rw [List.getElem?_modify] at hj
  obtain ⟨b, hb, rfl⟩ := Option.map_eq_some_iff.mp hj
  have hpb := hl b (List.mem_iff_getElem?.mpr ⟨j, hb⟩)
  split
  · exact hf b hpb
  · exact hpb

theorem step_inv (d : Device) (h : Hal) (e : Call) (hi : Inv d h) : Inv d (step d h e) := by
  obtain ⟨hins, houts⟩ := hi
  cases e with
  | openInput requested_channel device =>
    refine ⟨fun s hs => ?_, houts⟩
    rcases List.mem_append.mp hs with hs | hs
    · exact hins s hs
    · rw [List.mem_singleton.mp hs]
      exact Or.inl ⟨rfl, rfl⟩
  | openOutput flags format channels period_size period_count device passthrough =>
    refine ⟨hins, fun s hs => ?_⟩
    rcases List.mem_append.mp hs with hs | hs
    · exact houts s hs
    · rw [List.mem_singleton.mp hs]
      intro n hn
      cases hn
  | in_read i e => exact ⟨mem_modify i hins fun s hs => s.in_read_inv e hs, houts⟩
  | in_standby i => exact ⟨mem_modify i hins fun s hs => hs, houts⟩
  | in_connect i type =>
    refine ⟨mem_modify i hins fun s hs => ?_, houts⟩
    unfold StreamIn.connect
    split <;> exact hs
  | out_write i e => exact ⟨hins, mem_modify i houts fun s hs => s.out_write_inv h.passthrough_for_s24 e hs⟩
  | out_standby i refused =>
    refine ⟨hins, mem_modify i houts fun s hs => ?_⟩
    unfold StreamOut.do_output_standby
    split <;> exact hs
  | out_connect i type refused =>
    refine ⟨hins, mem_modify i houts fun s hs => ?_⟩
    unfold StreamOut.connect StreamOut.do_output_standby
    split
    · split <;> exact hs
    · exact hs
  | closeInput i => exact ⟨fun s hs => hins s (List.mem_of_mem_eraseIdx hs), houts⟩
  | closeOutput i => exact ⟨hins, fun s hs => houts s (List.mem_of_mem_eraseIdx hs)⟩

theorem contained_iff (d : Device) (h : Hal) (e : Call) (hi : Inv d h) :
    Contained d h e (step d h e) ↔ Fits d h e := by
  cases e with
  | in_read i e =>
    simp only [Contained, accesses, Fits]
    cases hs : h.ins[i]? with
    | none => simp
    | some s =>
      have hcall := s.in_read_contained e (hi.ins s (List.mem_iff_getElem?.mpr ⟨i, hs⟩))
      simpa using hcall
  | out_write i e =>
    simp only [Contained, accesses, Fits]
    cases hs : h.outs[i]? with
    | none => simp
    | some s =>
      have hcall := s.out_write_contained h.passthrough_for_s24 e
        (hi.outs s (List.mem_iff_getElem?.mpr ⟨i, hs⟩))
      simpa using hcall
  | _ => simp [Contained, accesses, Fits]

end ImxHal.Alsa.Scratch
