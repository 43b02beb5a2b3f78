import ImxHal.Schemes.Run

/-! @src alsa/tinyalsa_hal.cpp (pcm_read_convert, convert_record_data, get_next_buffer, release_buffer,
    read_frames, process_frames, in_read, in_add_audio_effect, in_remove_audio_effect) |
    name:capture | scheme:run | family:streams

    With an effect the frames pass through two buffers, without one they go straight to the caller. What is
    left in the buffers when the last effect is removed waits for the next effect:

        driver ──period──▶ read_buf ──▶ proc_buf_in ──process()──▶ caller      (an effect)
        driver ────────────────────────────────────────────────▶ caller        (no effect) -/

namespace ImxHal.Alsa.Capture

/-- A sample of the driver; one of 16 bits is sign-extended. -/
abbrev RawSample := BitVec 32

abbrev Frame := List (BitVec 16)

inductive Channels where
  | mono | stereo
  deriving DecidableEq

def Channels.count : Channels → ℕ
  | .mono => 1
  | .stereo => 2

inductive PcmFormat where
  | S16_LE | S24_LE | S32_LE
  deriving DecidableEq

/-- What is fixed between `start_input_stream` and the next standby, for a stream of 16 bits without a
    resampler; `driver` has the samples of each frame the driver captures. -/
structure Session where
  period_size : ℕ
  format : PcmFormat
  channels : Channels
  requested_channel : Channels
  has_aux_channels : Bool
  driver : ℕ → ℕ → RawSample

/-- The buffers of `struct imx_stream_in`; of `read_tmp_buf` the frames it was allocated for. `captured`
    counts the frames read from the driver, `returned` has the frames that `in_read` returned. -/
structure StreamIn where
  read_buf : List Frame
  read_buf_frames : ℕ
  read_tmp_buf : Option ℕ
  proc_buf_in : List Frame
  proc_buf_frames : ℕ
  preprocessors : List ℕ
  captured : ℕ
  returned : List Frame

def MAX_PREPROCESSORS : ℕ := 3

/-- After `start_input_stream`. -/
def started (read_tmp_buf : Option ℕ) (preprocessors : List ℕ) : StreamIn :=
  ⟨[], 0, read_tmp_buf, [], 0, preprocessors, 0, []⟩

/-- A call returns, is still running, or has left the data it was given. -/
inductive Outcome (α : Type) where
  | done (a : α) | running | undefined

def Outcome.bind {α β : Type} : Outcome α → (α → Outcome β) → Outcome β
  | .done a, f => f a
  | .running, _ => .running
  | .undefined, _ => .undefined

/-- The call stays within its data, and what it returns satisfies `P`. -/
def Outcome.Returns {α : Type} (P : α → Prop) : Outcome α → Prop
  | .done a => P a
  | .running => True
  | .undefined => False

instance decReturns {α : Type} (P : α → Prop) [DecidablePred P] : (o : Outcome α) → Decidable (o.Returns P)
  | .done a => inferInstanceAs (Decidable (P a))
  | .running => inferInstanceAs (Decidable True)
  | .undefined => inferInstanceAs (Decidable False)

theorem Outcome.Returns.bind {α β : Type} {P : α → Prop} {Q : β → Prop} {o : Outcome α}
    {f : α → Outcome β} (h : o.Returns P) (hf : ∀ a, P a → (f a).Returns Q) : (o.bind f).Returns Q := by
  cases o with
  | done a => exact hf a h
  | running => trivial
  | undefined => exact h.elim

namespace Session
variable (c : Session)

def mono2stereo : Bool := c.channels = .mono && c.requested_channel = .stereo

def stereo2mono : Bool := c.channels = .stereo && c.requested_channel = .mono

/-- The data goes through `read_tmp_buf`. -/
def converts : Bool := c.format ≠ .S16_LE || c.mono2stereo || c.stereo2mono

/-- One frame of `convert_record_data`. -/
def convertFrame (raw : List RawSample) : Frame :=
  let short (data : RawSample) : BitVec 16 := data.truncate 16
  match c.format, c.mono2stereo, c.stereo2mono, raw with
  | .S24_LE, true, false, [data] => [short (data.sshiftRight 8), short (data.sshiftRight 8)]
  | .S24_LE, false, true, [data1, data2] =>
    [short ((data1 <<< 8).sshiftRight 17 + (data2 <<< 8).sshiftRight 17)]
  | .S24_LE, false, false, [data1, data2] => [short (data1.sshiftRight 8), short (data2.sshiftRight 8)]
  | .S32_LE, true, false, [data] => [short (data.sshiftRight 16), short (data.sshiftRight 16)]
  | .S32_LE, false, true, [data1, data2] => [short (data1.sshiftRight 17 + data2.sshiftRight 17)]
  | .S32_LE, false, false, [data1, data2] => [short (data1.sshiftRight 16), short (data2.sshiftRight 16)]
  | .S16_LE, true, false, [data] => [short data, short data]
  | .S16_LE, false, true, [data1, data2] => [short (data1.sshiftRight 1 + data2.sshiftRight 1)]
  | _, _, _, raw => raw.map short

/-- Where the channels stay, samples of 24 and 32 bits are taken in pairs, also from frames of one sample. -/
def overruns : Bool := c.format ≠ .S16_LE && c.channels = .mono && c.requested_channel = .mono

def rawFrame (k : ℕ) : List RawSample := (List.range c.channels.count).map (c.driver k)

/-- Frames of the driver after the conversion. -/
def capturedFrames (first count : ℕ) : List Frame :=
  (List.range' first count).map fun k => c.convertFrame (c.rawFrame k)

/-! ### Reading -/

/-- `read_tmp_buf` is allocated for the first read only. The frames, unless the driver fails. -/
def pcm_read_convert (s : StreamIn) (frames_rq : ℕ) (ok : Bool) : Outcome (StreamIn × Option (List Frame)) :=
  let tmp := s.read_tmp_buf.getD frames_rq
  if c.converts && tmp < frames_rq then .undefined
  else
    let s := if c.converts then { s with read_tmp_buf := some tmp } else s
    if !ok then .done (s, none)
    else if c.overruns && frames_rq ≠ 0 then .undefined
    else .done ({ s with captured := s.captured + frames_rq },
      some (c.capturedFrames s.captured frames_rq))

/-- Up to `frame_count` frames of what is left, which stands at the end of the buffer, and their release. -/
def release_buffer (s : StreamIn) (frame_count : ℕ) : StreamIn × List Frame :=
  let count := min frame_count s.read_buf_frames
  ({ s with read_buf_frames := s.read_buf_frames - count },
    (s.read_buf.drop (c.period_size - s.read_buf_frames)).take count)

/-- The buffer is filled when nothing is left in it. -/
def get_next_buffer (s : StreamIn) (reads : List Bool) (frame_count : ℕ) :
    Outcome (StreamIn × List Bool × Option (List Frame)) :=
  let serve (s : StreamIn) (reads : List Bool) :=
    .done ((c.release_buffer s frame_count).1, reads, some (c.release_buffer s frame_count).2)
  if s.read_buf_frames ≠ 0 then serve s reads
  else match reads with
    | [] => .running
    | ok :: reads => (c.pcm_read_convert s c.period_size ok).bind fun (s, data) =>
      match data with
      | none => .done (s, reads, none)
      | some data => serve { s with read_buf := data, read_buf_frames := c.period_size } reads

/-- The first argument bounds the turns of the loop. An error gives up what was copied. -/
def read_frames : ℕ → StreamIn → List Bool → ℕ → Outcome (StreamIn × List Bool × Option (List Frame))
  | _, s, reads, 0 => .done (s, reads, some [])
  | 0, _, _, _ + 1 => .running
  | fuel + 1, s, reads, frames + 1 => (c.get_next_buffer s reads (frames + 1)).bind fun (s, reads, buf) =>
    match buf with
    | none => .done (s, reads, none)
    | some got => (read_frames fuel s reads (frames + 1 - got.length)).bind fun (s, reads, rest) =>
      .done (s, reads, rest.map (got ++ ·))

/-! ### Processing -/

/-- What the driver and the effects do in one turn of the loop: the results of the reads, and how many
    frames each effect is willing to take. -/
structure Turn where
  reads : List Bool
  takes : ℕ → ℕ

/-- The effects, one after the other on the same buffers: the frames consumed and produced. -/
def process (takes : ℕ → ℕ) (num_preprocessors frames_in frames_out : ℕ) : ℕ × ℕ :=
  (List.range num_preprocessors).foldl
    (fun count i => (min (takes i) (min count.1 count.2), min (takes i) (min count.1 count.2)))
    (frames_in, frames_out)

/-- `proc_buf_in` is filled up to `frames`. -/
def reload (s : StreamIn) (frames : ℕ) (reads : List Bool) : Outcome (StreamIn × Bool) :=
  if s.proc_buf_frames < frames then
    (c.read_frames (frames - s.proc_buf_frames) s reads (frames - s.proc_buf_frames)).bind fun (s, _, got) =>
      match got with
      | none => .done (s, false)
      | some got => .done ({ s with
          proc_buf_in := s.proc_buf_in.take s.proc_buf_frames ++ got
          proc_buf_frames := s.proc_buf_frames + got.length }, true)
  else .done (s, true)

/-- The effects reproduce what they consume; the rest moves to the front of the buffer. -/
def applyEffects (s : StreamIn) (takes : ℕ → ℕ) (room : ℕ) : StreamIn × List Frame :=
  let count := process takes s.preprocessors.length s.proc_buf_frames room
  ({ s with
      proc_buf_in := s.proc_buf_in.drop count.1, proc_buf_frames := s.proc_buf_frames - count.1 },
    s.proc_buf_in.take count.2)

/-- The loop of `process_frames`, with the frames written so far. An error gives them up. -/
def processLoop (frames : ℕ) : List Turn → StreamIn → List Frame → Outcome (StreamIn × Option (List Frame))
  | turns, s, out =>
    if frames ≤ out.length then .done (s, some out)
    else match turns with
      | [] => .running
      | turn :: turns => (c.reload s frames turn.reads).bind fun (s, ok) =>
        if ok then
          let (s, produced) := applyEffects s turn.takes (frames - out.length)
          processLoop frames turns s (out ++ produced)
        else .done (s, none)

/-- The auxiliary channels are removed with the stride of the driver's channels. -/
def removeAux (out : List Frame) : List Frame :=
  (List.range out.length).map fun j =>
    (out.flatten.drop (j * c.channels.count)).take c.requested_channel.count

/-- The last frame lies behind the samples that were produced. -/
def auxOverruns (out : List Frame) : Bool :=
  out ≠ [] && out.flatten.length < (out.length - 1) * c.channels.count + c.requested_channel.count

def process_frames (s : StreamIn) (frames : ℕ) (turns : List Turn) :
    Outcome (StreamIn × Option (List Frame)) :=
  (c.processLoop frames turns s []).bind fun (s, out) =>
    match out with
    | none => .done (s, none)
    | some out =>
      if !c.has_aux_channels then .done (s, some out)
      else if c.auxOverruns out then .undefined
      else .done (s, some (c.removeAux out))

/-- A read that fails returns silence, no frame. -/
def in_read (s : StreamIn) (frames_rq : ℕ) (ok : Bool) (turns : List Turn) : Outcome StreamIn :=
  (if s.preprocessors.length ≠ 0 then c.process_frames s frames_rq turns
    else c.pcm_read_convert s frames_rq ok).bind fun (s, out) =>
      .done { s with returned := s.returned ++ out.getD [] }

end Session

/-- An effect that forces no standby; `status` is what its description and configuration come to. -/
def in_add_audio_effect (s : StreamIn) (effect : ℕ) (status : Bool) : StreamIn :=
  if s.preprocessors.length ≥ MAX_PREPROCESSORS then s
  else if !status then s
  else { s with preprocessors := s.preprocessors ++ [effect] }

def in_remove_audio_effect (s : StreamIn) (effect : ℕ) : StreamIn :=
  { s with preprocessors := s.preprocessors.erase effect }

inductive Call where
  | in_read (frames_rq : ℕ) (ok : Bool) (turns : List Session.Turn)
  | in_add_audio_effect (effect : ℕ) (status : Bool)
  | in_remove_audio_effect (effect : ℕ)

def exec (c : Session) : Call → StreamIn → Outcome StreamIn
  | .in_read frames_rq ok turns, s => c.in_read s frames_rq ok turns
  | .in_add_audio_effect effect status, s => .done (in_add_audio_effect s effect status)
  | .in_remove_audio_effect effect, s => .done (in_remove_audio_effect s effect)

/-- Behind a call that does not return the stream stays locked. -/
def step (c : Session) (s : Outcome StreamIn) (e : Call) : Outcome StreamIn := s.bind (exec c e)

/-! ### What is promised -/

namespace Session
variable (c : Session)

/-- What is left of `read_buf`. -/
def leftover (s : StreamIn) : List Frame :=
  (s.read_buf.drop (c.period_size - s.read_buf_frames)).take s.read_buf_frames

/-- The frames in the buffers, in the order of their delivery. -/
def pending (s : StreamIn) : List Frame := s.proc_buf_in.take s.proc_buf_frames ++ c.leftover s

end Session

/-- What was returned, and then what is in the buffers, is what was read from the driver. -/
def Delivered (c : Session) (_ : Outcome StreamIn) (_ : Call) (s' : Outcome StreamIn) : Prop :=
  s'.Returns fun t => t.returned ++ c.pending t = c.capturedFrames 0 t.captured

/-- No read of the driver fails, or the very first one, with nothing in hand. -/
def FailsEmptyHanded (s : StreamIn) (frames_rq : ℕ) (turns : List Session.Turn) : Prop :=
  (∀ turn ∈ turns, ∀ ok ∈ turn.reads, ok = true) ∨
    (s.proc_buf_frames < frames_rq ∧ s.read_buf_frames = 0 ∧
      ∃ turn rest reads, turns = turn :: rest ∧ turn.reads = false :: reads)

/-- `read_tmp_buf` is not allocated yet, not used, or large enough. -/
def TmpFits (c : Session) (s : StreamIn) (frames : ℕ) : Prop :=
  c.converts = true → ∀ size, s.read_tmp_buf = some size → frames ≤ size

/-- A read without an effect finds the buffers empty; with one it gives up nothing. -/
def Safe (c : Session) (s : Outcome StreamIn) (e : Call) : Prop :=
  ∀ v, s = .done v → match e with
    | .in_read frames_rq ok turns => frames_rq = 0 ∨
        if v.preprocessors = [] then
          TmpFits c v frames_rq ∧
            (ok = true → c.overruns = false ∧ v.proc_buf_frames = 0 ∧ v.read_buf_frames = 0)
        else
          TmpFits c v c.period_size ∧ c.overruns = false ∧ FailsEmptyHanded v frames_rq turns ∧
            (c.has_aux_channels = true → c.channels = c.requested_channel ∨ frames_rq = 1)
    | _ => True

/-! ### The buffers -/

section Buffers
variable {c : Session} {s s' t : StreamIn} {got got' : List Frame} {reads reads' : List Bool} {n : ℕ}

/-- `read_buf` holds the period that is being handed out, and `read_tmp_buf` has room for the next one. -/
structure ReadBuf (c : Session) (s : StreamIn) : Prop where
  le : s.read_buf_frames ≤ c.period_size
  full : s.read_buf_frames ≠ 0 → s.read_buf.length = c.period_size
  tmp : TmpFits c s c.period_size

/-- The frames `got` were taken from the front of `read_buf` and of what the driver captured meanwhile. -/
structure Flow (c : Session) (s s' : StreamIn) (got : List Frame) : Prop where
  buf : ReadBuf c s'
  proc : s'.proc_buf_in = s.proc_buf_in ∧ s'.proc_buf_frames = s.proc_buf_frames
  effects : s'.preprocessors = s.preprocessors
  returned : s'.returned = s.returned
  moved : ∃ count, s'.captured = s.captured + count ∧
    c.leftover s ++ c.capturedFrames s.captured count = got ++ c.leftover s'

theorem capturedFrames_add (first a b : ℕ) : c.capturedFrames first (a + b) =
    c.capturedFrames first a ++ c.capturedFrames (first + a) b := by
  rw [Session.capturedFrames, Session.capturedFrames, Session.capturedFrames, ← List.map_append]
  congr 1
  simp

theorem length_capturedFrames (first count : ℕ) : (c.capturedFrames first count).length = count := by
  simp [Session.capturedFrames]

theorem Flow.refl (h : ReadBuf c s) : Flow c s s [] :=
  ⟨h, ⟨rfl, rfl⟩, rfl, rfl, 0, rfl, by simp [Session.capturedFrames]⟩

theorem Flow.trans (h : Flow c s s' got) (h' : Flow c s' t got') : Flow c s t (got ++ got') := by
  obtain ⟨a, ha, hmove⟩ := h.moved
  obtain ⟨b, hb, hmove'⟩ := h'.moved
  refine ⟨h'.buf, ⟨h'.proc.1.trans h.proc.1, h'.proc.2.trans h.proc.2⟩, h'.effects.trans h.effects,
    h'.returned.trans h.returned, a + b, by omega, ?_⟩
  rw [capturedFrames_add, ← List.append_assoc, hmove, List.append_assoc, ← ha, hmove', List.append_assoc]

theorem leftover_empty (h : s.read_buf_frames = 0) : c.leftover s = [] := by
  rw [Session.leftover, h, List.take_zero]

/-- Frames that are handed out leave the front of what is left. -/
theorem flow_release (h : ReadBuf c s) (n : ℕ) :
    Flow c s (c.release_buffer s n).1 (c.release_buffer s n).2 := by
  have hle := h.le
  have hmin : min n s.read_buf_frames ≤ s.read_buf_frames := min_le_right _ _
  refine ⟨⟨(Nat.sub_le _ _).trans hle, fun hne => h.full ?_, h.tmp⟩, ⟨rfl, rfl⟩, rfl, rfl, 0, rfl, ?_⟩
  · exact fun h0 => hne (by rw [Session.release_buffer, h0, Nat.zero_sub])
  · have hdrop : c.period_size - (s.read_buf_frames - min n s.read_buf_frames) =
        c.period_size - s.read_buf_frames + min n s.read_buf_frames := by omega
    rw [Session.leftover, Session.leftover, Session.release_buffer]
    dsimp only
    rw [hdrop, ← List.drop_drop, ← List.take_add, Nat.add_sub_cancel' hmin]
    simp [Session.capturedFrames]

theorem length_release_le (s : StreamIn) (n : ℕ) : (c.release_buffer s n).2.length ≤ n :=
  (List.length_take_le _ _).trans (min_le_left _ _)

theorem tmpFits_some (h : TmpFits c s n) : ¬ (c.converts = true ∧ s.read_tmp_buf.getD n < n) := by
  rintro ⟨hconv, hlt⟩
  rcases hbuf : s.read_tmp_buf with _ | size <;> rw [hbuf] at hlt
  · simp at hlt
  · have := h hconv size hbuf
    simp at hlt
    omega

/-- `read_tmp_buf` after a read of `n` frames. -/
def tmpAfter (c : Session) (s : StreamIn) (n : ℕ) : Option ℕ :=
  if c.converts then some (s.read_tmp_buf.getD n) else s.read_tmp_buf

theorem pcm_read_convert_fits (h : TmpFits c s n) (ok : Bool) (hover : ok = true → c.overruns = false) :
    c.pcm_read_convert s n ok =
      if ok then .done ({ s with read_tmp_buf := tmpAfter c s n, captured := s.captured + n },
        some (c.capturedFrames s.captured n))
      else .done ({ s with read_tmp_buf := tmpAfter c s n }, none) := by
  rw [Session.pcm_read_convert]
  dsimp only
  rw [if_neg (by simpa using tmpFits_some h), tmpAfter]
  rcases ok with _ | _ <;> split_ifs <;> simp_all

theorem tmpFits_after (h : TmpFits c s n) :
    c.converts = true → ∀ size, tmpAfter c s n = some size → n ≤ size := by
  intro hconv size hsize
  rw [tmpAfter, if_pos hconv] at hsize
  have hbig := tmpFits_some h
  have := Option.some.inj hsize
  push Not at hbig
  have := hbig hconv
  omega

/-- The stream when a new period of the driver is in `read_buf`. -/
def filled (c : Session) (s : StreamIn) : StreamIn :=
  { s with
    read_tmp_buf := tmpAfter c s c.period_size, captured := s.captured + c.period_size
    read_buf := c.capturedFrames s.captured c.period_size, read_buf_frames := c.period_size }

theorem readBuf_filled (h : ReadBuf c s) : ReadBuf c (filled c s) :=
  ⟨le_rfl, fun _ => length_capturedFrames _ _, tmpFits_after h.tmp⟩

/-- A new period takes the place of an empty buffer. -/
theorem flow_filled (h : ReadBuf c s) (hempty : s.read_buf_frames = 0) : Flow c s (filled c s) [] := by
  refine ⟨readBuf_filled h, ⟨rfl, rfl⟩, rfl, rfl, c.period_size, rfl, ?_⟩
  rw [leftover_empty hempty, Session.leftover, filled]
  dsimp only
  rw [Nat.sub_self, List.drop_zero, List.take_of_length_le (length_capturedFrames _ _).le]

/-- Where no read fails, the next frames are served. -/
theorem get_next_buffer_returns (h : ReadBuf c s) (hover : c.overruns = false)
    (hok : ∀ ok ∈ reads, ok = true) : (c.get_next_buffer s reads n).Returns fun r =>
      ∃ got, r.2.2 = some got ∧ Flow c s r.1 got ∧ got.length ≤ n ∧ ∀ ok ∈ r.2.1, ok = true := by
  rw [Session.get_next_buffer.eq_def]
  split_ifs with hne
  · exact ⟨_, rfl, flow_release h n, length_release_le s n, hok⟩
  · rcases reads with _ | ⟨ok, reads⟩
    · trivial
    · obtain ⟨rfl, hreads⟩ := List.forall_mem_cons.mp hok
      dsimp only
      rw [pcm_read_convert_fits h.tmp true fun _ => hover, if_pos rfl]
      have hflow := (flow_filled h (not_not.mp hne)).trans (flow_release (readBuf_filled h) n)
      exact ⟨_, rfl, hflow, length_release_le _ n, hreads⟩

/-- Where no read fails, `read_frames` takes what it was asked for. -/
theorem read_frames_returns (hover : c.overruns = false) (fuel : ℕ) (s : StreamIn) (reads : List Bool) (n : ℕ)
    (h : ReadBuf c s) (hok : ∀ ok ∈ reads, ok = true) : (c.read_frames fuel s reads n).Returns fun r =>
      ∃ got, r.2.2 = some got ∧ Flow c s r.1 got ∧ got.length = n := by
  induction fuel generalizing s reads n with
  | zero =>
    cases n with
    | zero => exact ⟨[], rfl, Flow.refl h, rfl⟩
    | succ n => trivial
  | succ fuel ih =>
    cases n with
    | zero => exact ⟨[], rfl, Flow.refl h, rfl⟩
    | succ n =>
      refine (get_next_buffer_returns h hover hok).bind ?_
      rintro ⟨s', reads', buf⟩ ⟨got, rfl, hflow, hlen, hok'⟩
      refine (ih s' reads' (n + 1 - got.length) hflow.buf hok').bind ?_
      rintro ⟨t, reads'', rest⟩ ⟨got', rfl, hflow', hlen'⟩
      refine ⟨got ++ got', rfl, hflow.trans hflow', ?_⟩
      rw [List.length_append, hlen']
      omega

/-- With an empty buffer the first read decides. -/
theorem read_frames_fails (h : ReadBuf c s) (hempty : s.read_buf_frames = 0)
    (fuel : ℕ) : c.read_frames (fuel + 1) s (false :: reads) (n + 1) =
      .done ({ s with read_tmp_buf := tmpAfter c s c.period_size }, reads, none) := by
  rw [Session.read_frames, Session.get_next_buffer.eq_def, if_neg (not_not.mpr hempty)]
  dsimp only
  rw [pcm_read_convert_fits h.tmp false nofun]
  rfl

end Buffers

/-! ### The effects -/

section Effects
variable {c : Session} {s s' t : StreamIn} {out : List Frame} {frames : ℕ}

/-- One effect or more consume what they produce, of what there is. -/
theorem process_prefix (takes : ℕ → ℕ) (num frames_in frames_out : ℕ) :
    ∃ m, Session.process takes (num + 1) frames_in frames_out = (m, m) ∧ m ≤ frames_in ∧ m ≤ frames_out := by
  induction num with
  | zero => exact ⟨_, rfl, by simp, by simp⟩
  | succ num ih =>
    obtain ⟨m, hm, hin, hout⟩ := ih
    refine ⟨min (takes (num + 1)) (min m m), ?_, by omega, by omega⟩
    rw [Session.process, List.range_succ, List.foldl_append]
    rw [Session.process] at hm
    rw [hm]
    rfl

/-- The frames returned so far, those this call has in hand and those in the buffers are the captured ones. -/
structure Ordered (c : Session) (s : StreamIn) (out : List Frame) : Prop where
  buf : ReadBuf c s
  room : s.proc_buf_frames ≤ s.proc_buf_in.length
  order : s.returned ++ out ++ c.pending s = c.capturedFrames 0 s.captured

theorem reload_returns (h : Ordered c s out) (hover : c.overruns = false) {reads : List Bool}
    (hok : ∀ ok ∈ reads, ok = true) : (c.reload s frames reads).Returns fun r =>
      r.2 = true ∧ Ordered c r.1 out ∧ r.1.preprocessors = s.preprocessors := by
  rw [Session.reload]
  split_ifs with hlt
  · refine (read_frames_returns hover _ s reads _ h.buf hok).bind ?_
    rintro ⟨s', reads', buf⟩ ⟨got, rfl, hflow, -⟩
    obtain ⟨count, hcount, hmove⟩ := hflow.moved
    refine ⟨rfl, ⟨⟨hflow.buf.le, hflow.buf.full, hflow.buf.tmp⟩, ?_, ?_⟩, hflow.effects⟩
    · have := h.room
      dsimp only
      rw [hflow.proc.1, hflow.proc.2, List.length_append, List.length_take]
      omega
    · have hfull : (s.proc_buf_in.take s.proc_buf_frames ++ got).length ≤ s.proc_buf_frames + got.length := by
        simp
      have horder := h.order
      rw [Session.pending] at horder ⊢
      dsimp only
      rw [hflow.proc.1, hflow.proc.2, hflow.returned, List.take_of_length_le hfull, hcount,
        capturedFrames_add, Nat.zero_add, ← horder, List.append_assoc _ _ (c.capturedFrames _ _),
          List.append_assoc _ (c.leftover s),
        hmove]
      simp only [List.append_assoc]
      rfl
  · exact ⟨rfl, h, rfl⟩

/-- The effects take what they produce from the front of `proc_buf_in`. -/
theorem applyEffects_ordered (h : Ordered c s out) (heff : s.preprocessors ≠ []) (takes : ℕ → ℕ) (room : ℕ) :
    Ordered c (Session.applyEffects s takes room).1 (out ++ (Session.applyEffects s takes room).2) ∧
      (Session.applyEffects s takes room).2.length ≤ room := by
  obtain ⟨num, hnum⟩ := Nat.exists_eq_succ_of_ne_zero (mt List.length_eq_zero_iff.mp heff)
  obtain ⟨m, hm, hin, hout⟩ := process_prefix takes num s.proc_buf_frames room
  rw [Session.applyEffects, hnum, hm]
  refine ⟨⟨⟨h.buf.le, h.buf.full, h.buf.tmp⟩, ?_, ?_⟩, (List.length_take_le _ _).trans hout⟩
  · have := h.room
    rw [List.length_drop]
    dsimp only
    omega
  · have horder := h.order
    rw [Session.pending] at horder ⊢
    have hsplit : s.proc_buf_in.take s.proc_buf_frames =
        s.proc_buf_in.take m ++ (s.proc_buf_in.drop m).take (s.proc_buf_frames - m) := by
      rw [← List.take_add, Nat.add_sub_cancel' hin]
    rw [hsplit] at horder
    rw [← horder]
    simp only [List.append_assoc]
    rfl

/-- Where no read fails, the loop writes as many frames as it was asked for, in their order. -/
theorem processLoop_returns (hover : c.overruns = false) (turns : List Session.Turn) (s : StreamIn)
    (out : List Frame) (h : Ordered c s out) (heff : s.preprocessors ≠ []) (hle : out.length ≤ frames)
    (hok : ∀ turn ∈ turns, ∀ ok ∈ turn.reads, ok = true) :
    (c.processLoop frames turns s out).Returns fun r =>
      ∃ all, r.2 = some all ∧ all.length = frames ∧ Ordered c r.1 all ∧
        r.1.preprocessors = s.preprocessors := by
  induction turns generalizing s out with
  | nil =>
    rw [Session.processLoop]
    split_ifs with hdone
    · exact ⟨out, rfl, le_antisymm hle hdone, h, rfl⟩
    · trivial
  | cons turn turns ih =>
    rw [Session.processLoop]
    split_ifs with hdone
    · exact ⟨out, rfl, le_antisymm hle hdone, h, rfl⟩
    · obtain ⟨hturn, hturns⟩ := List.forall_mem_cons.mp hok
      refine (reload_returns h hover hturn).bind ?_
      rintro ⟨s', ok⟩ ⟨rfl, hs', heff'⟩
      dsimp only at hs' heff' ⊢
      rw [if_pos rfl]
      obtain ⟨hnext, hlen⟩ := applyEffects_ordered hs' (heff' ▸ heff) turn.takes (frames - out.length)
      have heffs : (Session.applyEffects s' turn.takes (frames - out.length)).1.preprocessors =
        s.preprocessors := heff'
      have hrest := ih _ _ hnext (heffs ▸ heff) (by rw [List.length_append]; omega) hturns
      rwa [heffs] at hrest

/-- A first read that fails, with nothing in hand, gives up nothing. -/
theorem processLoop_fails (h : ReadBuf c s) (hempty : s.read_buf_frames = 0)
    (hlt : s.proc_buf_frames < frames)
    {turn : Session.Turn} {reads : List Bool} (hread : turn.reads = false :: reads)
      (turns : List Session.Turn) :
    c.processLoop frames (turn :: turns) s [] =
      .done ({ s with read_tmp_buf := tmpAfter c s c.period_size }, none) := by
  obtain ⟨k, hk⟩ := Nat.exists_eq_succ_of_ne_zero (Nat.sub_ne_zero_of_lt hlt)
  rw [Session.processLoop, if_neg (by rw [List.length_nil]; omega), Session.reload, if_pos hlt, hread, hk,
    read_frames_fails h hempty]
  rfl

end Effects

/-! ### Auxiliary channels -/

section Channels
variable {c : Session} {s t : StreamIn} {out : List Frame}

theorem length_convertFrame (k : ℕ) :
    (c.convertFrame (c.rawFrame k)).length = c.requested_channel.count := by
  rcases hformat : c.format <;> rcases hch : c.channels <;> rcases hreq : c.requested_channel <;>
    simp [Session.convertFrame, Session.rawFrame, Session.mono2stereo, Session.stereo2mono, hformat,
      hch, hreq, Channels.count, List.range_succ]

theorem length_captured {f : Frame} {count : ℕ} (h : f ∈ c.capturedFrames 0 count) :
    f.length = c.requested_channel.count := by
  obtain ⟨k, -, rfl⟩ := List.mem_map.mp h
  exact length_convertFrame k

/-- The frames in hand are captured frames. -/
theorem Ordered.uniform (h : Ordered c s out) : ∀ f ∈ out, f.length = c.requested_channel.count := by
  intro f hf
  have hcaptured : f ∈ c.capturedFrames 0 s.captured := by
    rw [← h.order]
    exact List.mem_append_left _ (List.mem_append_right _ hf)
  exact length_captured hcaptured

theorem flatten_uniform {k : ℕ} (h : ∀ f ∈ out, f.length = k) : out.flatten.length = out.length * k := by
  rw [List.length_flatten, List.map_congr_left h, List.map_const', List.sum_replicate, smul_eq_mul]

/-- With the stride of the frames themselves each is found in its place. -/
theorem take_uniform {k : ℕ} (h : ∀ f ∈ out, f.length = k) :
    ((List.range out.length).map fun j => (out.flatten.drop (j * k)).take k) = out := by
  induction out with
  | nil => rfl
  | cons f out ih =>
    obtain ⟨hf, hout⟩ := List.forall_mem_cons.mp h
    rw [List.length_cons, List.range_succ_eq_map, List.map_cons, List.map_map, List.flatten_cons,
      Nat.zero_mul, List.drop_zero, ← hf, List.take_left, hf]
    congr 1
    refine Eq.trans (List.map_congr_left fun j _ => ?_) (ih hout)
    rw [Function.comp_apply, Nat.succ_mul, Nat.add_comm, ← List.drop_drop, ← hf, List.drop_left]

/-- Nothing is removed from frames of the driver's channels, nor from a single frame. -/
theorem removeAux_keeps (h : Ordered c s out) (hch : c.channels = c.requested_channel ∨ out.length ≤ 1) :
    c.auxOverruns out = false ∧ c.removeAux out = out := by
  have hall := h.uniform
  rcases hch with hch | hle
  · refine ⟨?_, ?_⟩
    · rw [Session.auxOverruns, flatten_uniform hall, hch]
      rcases out with _ | ⟨f, out⟩
      · rfl
      · rw [List.length_cons, Nat.succ_sub_one, Nat.succ_mul, decide_eq_false (lt_irrefl _), Bool.and_false]
    · rw [Session.removeAux, hch]
      exact take_uniform hall
  · match out, hle, hall with
    | [], _, _ => exact ⟨rfl, rfl⟩
    | [f], _, hall =>
      have hf := hall f List.mem_cons_self
      simp [Session.auxOverruns, Session.removeAux, List.range_succ, ← hf]

end Channels

/-! ### The calls -/

section Calls
variable {c : Session} {s t : StreamIn} {out : List Frame}

/-- Between two calls: what was returned and what is in the buffers is what was captured. -/
structure Inv (c : Session) (s : StreamIn) : Prop where
  le : s.read_buf_frames ≤ c.period_size
  full : s.read_buf_frames ≠ 0 → s.read_buf.length = c.period_size
  room : s.proc_buf_frames ≤ s.proc_buf_in.length
  order : s.returned ++ c.pending s = c.capturedFrames 0 s.captured

theorem inv_started (tmp : Option ℕ) (effects : List ℕ) : Inv c (started tmp effects) :=
  ⟨Nat.zero_le _, fun h => (h rfl).elim, le_rfl, by simp [started, Session.pending, Session.leftover,
    Session.capturedFrames]⟩

theorem Inv.ordered (h : Inv c s) (htmp : TmpFits c s c.period_size) : Ordered c s [] :=
  ⟨⟨h.le, h.full, htmp⟩, h.room, by rw [List.append_nil]; exact h.order⟩

/-- The frames in hand are returned. -/
theorem Ordered.inv (h : Ordered c s out) : Inv c { s with returned := s.returned ++ out } :=
  ⟨h.buf.le, h.buf.full, h.room, h.order⟩

theorem Inv.withTmp (h : Inv c s) (tmp : Option ℕ) : Inv c { s with read_tmp_buf := tmp } :=
  ⟨h.le, h.full, h.room, h.order⟩

/-- A read that fails returns no frame. -/
theorem Inv.nothing (h : Inv c s) : Inv c { s with returned := s.returned ++ [] } := by
  rw [List.append_nil]
  exact h

theorem pending_empty (hproc : s.proc_buf_frames = 0) (hread : s.read_buf_frames = 0) : c.pending s = [] := by
  rw [Session.pending, leftover_empty hread, hproc, List.take_zero, List.append_nil]

/-- What is read with the buffers empty follows what was returned. -/
theorem Inv.direct (h : Inv c s) (hproc : s.proc_buf_frames = 0) (hread : s.read_buf_frames = 0) (n : ℕ)
    (tmp : Option ℕ) : Inv c { s with
      read_tmp_buf := tmp, captured := s.captured + n
      returned := s.returned ++ c.capturedFrames s.captured n } := by
  refine ⟨h.le, h.full, h.room, (congrArg (_ ++ ·) (pending_empty hproc hread)).trans ?_⟩
  have horder := h.order
  rw [pending_empty hproc hread, List.append_nil] at horder
  rw [List.append_nil, capturedFrames_add, Nat.zero_add, ← horder]

theorem in_read_direct (h : Inv c s) (heff : s.preprocessors = []) {n : ℕ} {ok : Bool} (hfits : TmpFits c s n)
    (hempty : ok = true → c.overruns = false ∧ s.proc_buf_frames = 0 ∧ s.read_buf_frames = 0)
    (turns : List Session.Turn) : (c.in_read s n ok turns).Returns (Inv c) := by
  rw [Session.in_read, heff, if_neg (by decide), pcm_read_convert_fits hfits ok fun hok => (hempty hok).1]
  cases ok with
  | false => exact (h.withTmp _).nothing
  | true => exact h.direct (hempty rfl).2.1 (hempty rfl).2.2 n _

theorem in_read_effects (h : Inv c s) (heff : s.preprocessors ≠ []) {n : ℕ} {turns : List Session.Turn}
    (htmp : TmpFits c s c.period_size) (hover : c.overruns = false) (hfails : FailsEmptyHanded s n turns)
    (haux : c.has_aux_channels = true → c.channels = c.requested_channel ∨ n = 1) (ok : Bool) :
    (c.in_read s n ok turns).Returns (Inv c) := by
  have hord := h.ordered htmp
  rw [Session.in_read, if_pos (mt List.length_eq_zero_iff.mp heff), Session.process_frames]
  rcases hfails with hok | ⟨hlt, hempty, turn, rest, reads, rfl, hread⟩
  · have hloop := processLoop_returns hover turns s [] hord heff (Nat.zero_le n) hok
    refine Outcome.Returns.bind
      (hloop.bind (P := _) (Q := fun r => ∃ all, r.2 = some all ∧ Ordered c r.1 all) ?_) ?_
    · rintro ⟨t, result⟩ ⟨all, rfl, hlen, hall, -⟩
      dsimp only at hall ⊢
      by_cases hhas : c.has_aux_channels = true
      · have hkeeps := removeAux_keeps hall ((haux hhas).imp_right fun h1 => by omega)
        rw [hhas, hkeeps.1, hkeeps.2]
        exact ⟨all, rfl, hall⟩
      · rw [Bool.eq_false_of_not_eq_true hhas]
        exact ⟨all, rfl, hall⟩
    · rintro ⟨t, result⟩ ⟨all, rfl, hall⟩
      exact hall.inv
  · rw [processLoop_fails hord.buf hempty hlt hread]
    exact (h.withTmp _).nothing

theorem pcm_read_convert_none (s : StreamIn) (ok : Bool) : c.pcm_read_convert s 0 ok =
    .done ({ s with read_tmp_buf := tmpAfter c s 0 }, if ok then some [] else none) := by
  rw [Session.pcm_read_convert, tmpAfter]
  rcases ok with _ | _ <;> split_ifs <;> simp_all [Session.capturedFrames]

theorem process_frames_none (s : StreamIn) (turns : List Session.Turn) :
    c.process_frames s 0 turns = .done (s, some []) := by
  have hloop : c.processLoop 0 turns s [] = .done (s, some []) := by
    cases turns <;> rfl
  rw [Session.process_frames, hloop]
  by_cases hhas : c.has_aux_channels = true <;>
    simp [Outcome.bind, hhas, Session.auxOverruns, Session.removeAux]

/-- A read of no frames leaves everything in its place. -/
theorem in_read_none (h : Inv c s) (ok : Bool) (turns : List Session.Turn) :
    (c.in_read s 0 ok turns).Returns (Inv c) := by
  rw [Session.in_read]
  split_ifs with heff
  · rw [process_frames_none]
    exact h.nothing
  · rw [pcm_read_convert_none]
    cases ok <;> exact (h.withTmp _).nothing

/-- One safe call keeps the captured frames in order. -/
theorem step_inv {s : Outcome StreamIn} {e : Call} (h : s.Returns (Inv c)) (hsafe : Safe c s e) :
    (step c s e).Returns (Inv c) := by
  cases s with
  | undefined => exact h
  | running => trivial
  | done v =>
    have hsafe := hsafe v rfl
    cases e with
    | in_read n ok turns =>
      rcases hsafe with rfl | hsafe
      · exact in_read_none h ok turns
      · split_ifs at hsafe with heff
        · exact in_read_direct h heff hsafe.1 hsafe.2 turns
        · exact in_read_effects h heff hsafe.1 hsafe.2.1 hsafe.2.2.1 hsafe.2.2.2 ok
    | in_add_audio_effect effect status =>
      change Inv c (in_add_audio_effect v effect status)
      rw [in_add_audio_effect]
      split_ifs
      · exact h
      · exact h
      · exact ⟨h.le, h.full, h.room, h.order⟩
    | in_remove_audio_effect effect => exact ⟨h.le, h.full, h.room, h.order⟩

end Calls

/-- Stereo frames of 16 bits, in periods of four; each frame holds its number. -/
def numbered : Session := ⟨4, .S16_LE, .stereo, .stereo, false, fun k _ => BitVec.ofNat 32 k⟩

end ImxHal.Alsa.Capture
