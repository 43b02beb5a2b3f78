import ImxHal.Schemes.Buffer

/-! @src camera/YuvToJpegEncoder.cpp (jpegBuilder_destination_mgr, encode), camera/JpegBuilder.cpp
    (encodeJpeg, buildImage with the software encoder) | name:jpeg destination | scheme:buffer |
    family:data formats

    The compressor writes its stream byte by byte through the destination manager. A full buffer is "emptied"
    by starting over at its front, and only what came after the last time is counted at the end:

        stream   a b c d │ e f g h │ i j
        buffer                       i j g h      jpegsize = bufsize - free_in_buffer = 2 -/

namespace ImxHal.JpegDestination
open ImxHal.Buffer

def BAD_VALUE : ℤ := -22

/-- The output buffer with its size in an `int`. -/
structure OutBuf where
  bytes : List UInt8
  outSize : bytes.length < 2 ^ 31

/-- `buf` with `bufsize`; `next_output_byte` as an offset into it. -/
structure DestinationMgr where
  buf : List UInt8
  next_output_byte : ℕ
  free_in_buffer : ℕ
  jpegsize : ℕ

def DestinationMgr.bufsize (dest : DestinationMgr) : ℕ := dest.buf.length

def init_destination (dest : DestinationMgr) : DestinationMgr :=
  { dest with next_output_byte := 0, free_in_buffer := dest.bufsize, jpegsize := 0 }

def empty_output_buffer (dest : DestinationMgr) : DestinationMgr :=
  { dest with next_output_byte := 0, free_in_buffer := dest.bufsize }

def term_destination (dest : DestinationMgr) : DestinationMgr :=
  { dest with jpegsize := dest.bufsize - dest.free_in_buffer }

/-- The compressor writes a byte and has a full buffer emptied; without room for the byte this is
    undefined. -/
def emit (dest : DestinationMgr) (b : UInt8) : Option DestinationMgr :=
  if dest.free_in_buffer = 0 ∨ dest.bufsize ≤ dest.next_output_byte then none
  else
    let written : DestinationMgr :=
      { dest with
        buf := dest.buf.set dest.next_output_byte b
        next_output_byte := dest.next_output_byte + 1
        free_in_buffer := dest.free_in_buffer - 1 }
    some (if written.free_in_buffer = 0 then empty_output_buffer written else written)

/-- The input of `encode`, as far as the output depends on it: the sizes, whether the buffer for the resized
    image can be allocated, and the stream that the compressor makes of the image. -/
structure Image where
  inWidth : ℤ
  inHeight : ℤ
  outWidth : ℤ
  outHeight : ℤ
  allocated : Bool
  stream : List UInt8

def Image.bResize (image : Image) : Bool := image.inWidth ≠ image.outWidth || image.inHeight ≠ image.outHeight

/-- `YuvToJpegEncoder::encode` in software: its result and what it leaves in the output buffer. -/
def encode (image : Image) (outBuf : OutBuf) : Option (ℤ × List UInt8) :=
  if image.bResize && !image.allocated then some (BAD_VALUE, outBuf.bytes)
  else
    (image.stream.foldlM emit (init_destination ⟨outBuf.bytes, 0, 0, 0⟩)).map fun dest =>
      ((term_destination dest).jpegsize, dest.buf)

/-- The status, `jpeg_size` when it is set, and the output buffer. -/
def encodeJpeg (image : Image) (dst : OutBuf) : Option (ℤ × Option ℕ × List UInt8) :=
  (encode image dst).map fun r => if 0 < r.1 then (0, some r.1.toNat, r.2) else (BAD_VALUE, none, r.2)

/-- `buildImage` copies the image into the stream buffer. -/
def buildImage (dst : List UInt8) (jpeg_size : ℕ) (streamBuf : Buf UInt8) : Buf UInt8 :=
  streamBuf.memcpy 0 (dst.take jpeg_size)

/-- A positive result counts the whole stream, from the front of the output buffer on. -/
def WholeStream (image : Image) (outBuf : OutBuf) : Prop :=
  ∃ n out, encode image outBuf = some (n, out) ∧ (0 < n → out.take n.toNat = image.stream)

/-! ### Bytes -/

/-- Where the destination stands behind a stream of `q` full buffers and `r` more bytes. -/
structure Behind (stream : List UInt8) (q r : ℕ) (dest : DestinationMgr) : Prop where
  length_eq : stream.length = dest.bufsize * q + r
  lt : r < dest.bufsize
  next : dest.next_output_byte = r
  free : dest.free_in_buffer = dest.bufsize - r
  front : dest.buf.take r = stream.drop (dest.bufsize * q)

theorem take_set_next {α : Type} (l : List α) {i : ℕ} (hi : i < l.length) (x : α) :
    (l.set i x).take (i + 1) = l.take i ++ [x] := by
  rw [List.take_add_one, List.take_set_of_le le_rfl]
  simp [hi]

/-- The destination with one more byte in its buffer. -/
def DestinationMgr.put (dest : DestinationMgr) (b : UInt8) : DestinationMgr :=
  { dest with
    buf := dest.buf.set dest.next_output_byte b
    next_output_byte := dest.next_output_byte + 1
    free_in_buffer := dest.free_in_buffer - 1 }

theorem bufsize_put (dest : DestinationMgr) (b : UInt8) : (dest.put b).bufsize = dest.bufsize :=
  List.length_set

theorem emit_eq {dest : DestinationMgr} {b : UInt8}
    (h : ¬ (dest.free_in_buffer = 0 ∨ dest.bufsize ≤ dest.next_output_byte)) :
    emit dest b = some (if dest.free_in_buffer = 1 then empty_output_buffer (dest.put b) else dest.put b) := by
  have hfree : (dest.put b).free_in_buffer = dest.free_in_buffer - 1 := rfl
  have hone : (dest.put b).free_in_buffer = 0 ↔ dest.free_in_buffer = 1 := by
    rw [hfree]
    omega
  rw [emit, if_neg h, ← if_congr hone rfl rfl]
  rfl

/-- A byte goes behind the last one, or starts the buffer over. -/
theorem emit_behind {stream : List UInt8} {q r : ℕ} {dest : DestinationMgr} (h : Behind stream q r dest)
    (b : UInt8) : ∃ dest' q' r', emit dest b = some dest' ∧ dest'.bufsize = dest.bufsize ∧
      Behind (stream ++ [b]) q' r' dest' := by
  have hlt := h.lt
  have hsize := bufsize_put dest b
  have hroom : ¬ (dest.free_in_buffer = 0 ∨ dest.bufsize ≤ dest.next_output_byte) := by
    rw [h.free, h.next]
    omega
  have hlen : (stream ++ [b]).length = dest.bufsize * q + r + 1 := by
    rw [List.length_append, h.length_eq, List.length_singleton]
  rw [emit_eq hroom]
  by_cases hfull : r + 1 = dest.bufsize
  · have hend : (stream ++ [b]).length = dest.bufsize * (q + 1) := by
      rw [hlen, Nat.mul_succ, ← hfull]
      omega
    have hempty : (empty_output_buffer (dest.put b)).bufsize = dest.bufsize := hsize
    refine ⟨_, q + 1, 0, rfl, ?_, ?_⟩
    · rw [if_pos (by rw [h.free]; omega), hempty]
    · rw [if_pos (by rw [h.free]; omega)]
      refine ⟨?_, ?_, rfl, rfl, ?_⟩
      · rw [hempty, hend]
        rfl
      · rw [hempty]
        omega
      · rw [hempty, ← hend, List.drop_length, List.take_zero]
  · refine ⟨_, q, r + 1, rfl, ?_, ?_⟩
    · rw [if_neg (by rw [h.free]; omega), hsize]
    · rw [if_neg (by rw [h.free]; omega)]
      have hfront : (dest.put b).buf.take (r + 1) = dest.buf.take r ++ [b] := by
        rw [DestinationMgr.put, h.next]
        exact take_set_next dest.buf hlt b
      refine ⟨?_, ?_, ?_, ?_, ?_⟩
      · rw [hsize, hlen, Nat.add_assoc]
      · rw [hsize]
        omega
      · rw [DestinationMgr.put, h.next]
      · rw [hsize, DestinationMgr.put, h.free, Nat.sub_sub]
      · rw [hsize, hfront, h.front, List.drop_append_of_le_length (by rw [h.length_eq]; omega)]

/-- A whole stream. -/
theorem foldlM_emit (stream : List UInt8) {dest : DestinationMgr} (hpos : 0 < dest.bufsize) :
    ∃ dest' q r, stream.foldlM emit (init_destination dest) = some dest' ∧ dest'.bufsize = dest.bufsize ∧
      Behind stream q r dest' := by
  induction stream using List.reverseRecOn with
  | nil => exact ⟨_, 0, 0, rfl, rfl, rfl, hpos, rfl, rfl, rfl⟩
  | append_singleton stream b ih =>
    obtain ⟨mid, q, r, hrun, hsize, hmid⟩ := ih
    obtain ⟨dest', q', r', hemit, hsize', hdest'⟩ := emit_behind hmid b
    refine ⟨dest', q', r', ?_, hsize'.trans hsize, hdest'⟩
    rw [List.foldlM_append, hrun]
    simp [hemit]

/-! ### Sizes -/

/-- What is counted is what came after the last full buffer. -/
theorem jpegsize_of_behind {stream : List UInt8} {q r : ℕ} {dest : DestinationMgr}
    (h : Behind stream q r dest) : (term_destination dest).jpegsize = r := by
  have hlt := h.lt
  have hsize : (term_destination dest).jpegsize = dest.bufsize - dest.free_in_buffer := rfl
  rw [hsize, h.free]
  omega

/-- The rest is the whole stream when nothing or everything came before. -/
theorem front_iff {stream : List UInt8} {q r : ℕ} {dest : DestinationMgr} (h : Behind stream q r dest) :
    (0 < r → dest.buf.take r = stream) ↔ stream.length < dest.bufsize ∨ dest.bufsize ∣ stream.length := by
  have hlen := h.length_eq
  have hlt := h.lt
  rcases Nat.eq_zero_or_pos r with rfl | hr
  · refine iff_of_true (fun h0 => absurd h0 (lt_irrefl 0)) (.inr ⟨q, hlen⟩)
  · rw [h.front]
    constructor
    · intro hwhole
      have hdrop := congrArg List.length (hwhole hr)
      rw [List.length_drop] at hdrop
      refine .inl ?_
      have hq : dest.bufsize * q = 0 := by omega
      omega
    · rintro (hshort | hdvd) -
      · have hq : q = 0 := by
          by_contra hne
          have hone : dest.bufsize * 1 ≤ dest.bufsize * q := Nat.mul_le_mul_left _ (Nat.one_le_iff_ne_zero.mpr hne)
          omega
        rw [hq, Nat.mul_zero, List.drop_zero]
      · rw [hlen] at hdvd
        have hr' : dest.bufsize ∣ r := (Nat.dvd_add_right ⟨q, rfl⟩).mp hdvd
        exact absurd (Nat.le_of_dvd hr hr') (not_le.mpr hlt)

/-- An image that is compressed. -/
theorem encode_compressed {image : Image} (outBuf : OutBuf)
    (h : ¬ (image.bResize = true ∧ image.allocated = false)) :
    encode image outBuf = (image.stream.foldlM emit (init_destination ⟨outBuf.bytes, 0, 0, 0⟩)).map fun dest =>
      (((term_destination dest).jpegsize : ℤ), dest.buf) := by
  have hgo : (image.bResize && !image.allocated) = false := by
    cases hr : image.bResize <;> cases ha : image.allocated <;> simp_all
  rw [encode, hgo]
  rfl

/-- A buffer without room takes the empty stream alone. -/
theorem whole_stream_of_no_room {image : Image} {outBuf : OutBuf}
    (h : ¬ (image.bResize = true ∧ image.allocated = false)) (hzero : outBuf.bytes.length = 0) :
    WholeStream image outBuf ↔ image.stream = [] := by
  rw [WholeStream, encode_compressed outBuf h]
  cases image.stream with
  | nil =>
    refine iff_of_true ⟨_, _, rfl, fun hn => absurd hn ?_⟩ rfl
    simp [term_destination, init_destination, DestinationMgr.bufsize]
  | cons b stream =>
    have hnone : emit (init_destination ⟨outBuf.bytes, 0, 0, 0⟩) b = none := by
      simp [emit, init_destination, DestinationMgr.bufsize, hzero]
    refine iff_of_false ?_ (List.cons_ne_nil b stream)
    rintro ⟨n, out, hrun, -⟩
    rw [List.foldlM_cons, hnone] at hrun
    cases hrun

theorem whole_stream_of_room {image : Image} {outBuf : OutBuf}
    (h : ¬ (image.bResize = true ∧ image.allocated = false)) (hpos : 0 < outBuf.bytes.length) :
    WholeStream image outBuf ↔
      image.stream.length < outBuf.bytes.length ∨ outBuf.bytes.length ∣ image.stream.length := by
  obtain ⟨dest, q, r, hrun, hsize, hbehind⟩ :=
    @foldlM_emit image.stream ⟨outBuf.bytes, 0, 0, 0⟩ hpos
  have hlen : dest.bufsize = outBuf.bytes.length := hsize
  have hjpegsize := jpegsize_of_behind hbehind
  rw [WholeStream, encode_compressed outBuf h, hrun, ← hlen, ← front_iff hbehind]
  constructor
  · rintro ⟨n, out, hout, hwhole⟩ hr
    obtain ⟨rfl, rfl⟩ := Prod.mk.inj (Option.some.inj hout)
    rw [hjpegsize] at hwhole
    simpa using hwhole (by omega)
  · intro hfront
    refine ⟨_, _, rfl, fun hn => ?_⟩
    rw [hjpegsize] at hn ⊢
    simpa using hfront (by omega)

/-- CORRECT: a positive result counts the whole stream exactly when nothing is compressed, or the stream is
    shorter than the buffer, or it fills the buffer a whole number of times. -/
theorem whole_stream_iff (image : Image) (outBuf : OutBuf) :
    WholeStream image outBuf ↔ (image.bResize = true ∧ image.allocated = false) ∨
      image.stream.length < outBuf.bytes.length ∨ outBuf.bytes.length ∣ image.stream.length := by
  by_cases hfail : image.bResize = true ∧ image.allocated = false
  · refine iff_of_true ⟨BAD_VALUE, outBuf.bytes, ?_, fun h => absurd h (by decide)⟩ (.inl hfail)
    simp [encode, hfail.1, hfail.2]
  · rw [or_iff_right hfail]
    rcases Nat.eq_zero_or_pos outBuf.bytes.length with hzero | hpos
    · rw [whole_stream_of_no_room hfail hzero, hzero, zero_dvd_iff, List.length_eq_zero_iff,
        or_iff_right (Nat.not_lt_zero _)]
    · exact whole_stream_of_room hfail hpos

/-- Four bytes for a buffer of four: the buffer is full, and nothing is counted. -/
example : encode ⟨8, 8, 8, 8, true, [1, 2, 3, 4]⟩ ⟨[0, 0, 0, 0], by decide⟩ = some (0, [1, 2, 3, 4]) := by decide

/-- Six bytes for a buffer of four: two are counted, and they are the last ones. -/
theorem stream_overwritten : ¬ ∀ (image : Image) (outBuf : OutBuf), WholeStream image outBuf := by
  intro h
  obtain ⟨n, out, hrun, hwhole⟩ := h ⟨8, 8, 8, 8, true, [1, 2, 3, 4, 5, 6]⟩ ⟨[0, 0, 0, 0], by decide⟩
  have hout : some (n, out) = some (2, [5, 6, 3, 4]) := hrun.symm.trans (by decide)
  obtain ⟨rfl, rfl⟩ := Prod.mk.inj (Option.some.inj hout)
  exact absurd (hwhole (by decide)) (by decide)

/-! ### The image -/

/-- With `NO_ERROR` the stream buffer holds the whole stream. -/
def Built (image : Image) (dst : OutBuf) : Prop :=
  ∃ status jpeg_size out, encodeJpeg image dst = some (status, jpeg_size, out) ∧ (status = 0 →
    ∃ n, jpeg_size = some n ∧ ∀ streamBuf : Buf UInt8, n ≤ streamBuf.bytes.length →
      (buildImage out n streamBuf).bytes.take n = image.stream)

theorem buildImage_take {out : List UInt8} {n : ℕ} {streamBuf : Buf UInt8} (hn : n ≤ out.length)
    (hroom : n ≤ streamBuf.bytes.length) : (buildImage out n streamBuf).bytes.take n = out.take n := by
  have hlen : (out.take n).length = n := List.length_take_of_le hn
  rw [buildImage, Buf.memcpy, List.take_take, min_eq_left hroom, List.take_zero, List.nil_append]
  rw [List.take_append_of_le_length hlen.ge, List.take_take, min_self]

/-- No more is counted than the output buffer holds. -/
theorem encode_le {image : Image} {outBuf : OutBuf} {n : ℤ} {out : List UInt8}
    (h : encode image outBuf = some (n, out)) : n.toNat ≤ out.length := by
  rw [encode] at h
  split_ifs at h
  · obtain ⟨rfl, rfl⟩ := Prod.mk.inj (Option.some.inj h)
    exact Nat.zero_le _
  · obtain ⟨dest, -, hdest⟩ := Option.map_eq_some_iff.mp h
    obtain ⟨rfl, rfl⟩ := Prod.mk.inj hdest
    exact Nat.sub_le dest.bufsize dest.free_in_buffer

theorem built_iff (image : Image) (dst : OutBuf) : Built image dst ↔ WholeStream image dst := by
  constructor
  · rintro ⟨status, jpeg_size, out, hrun, hbuilt⟩
    obtain ⟨⟨n, out'⟩, hencode, hstatus⟩ := Option.map_eq_some_iff.mp hrun
    refine ⟨n, out', hencode, fun hn => ?_⟩
    rw [if_pos hn] at hstatus
    obtain ⟨rfl, rfl, rfl⟩ := hstatus
    obtain ⟨m, hm, htake⟩ := hbuilt rfl
    obtain rfl := Option.some.inj hm
    have hle := encode_le hencode
    rw [← htake ⟨out', false⟩ hle, buildImage_take hle hle]
  · rintro ⟨n, out, hencode, hwhole⟩
    by_cases hn : 0 < n
    · refine ⟨0, some n.toNat, out, ?_, fun _ => ⟨_, rfl, fun streamBuf hroom => ?_⟩⟩
      · rw [encodeJpeg, hencode, Option.map_some, if_pos hn]
      · rw [buildImage_take (encode_le hencode) hroom, hwhole hn]
    · refine ⟨BAD_VALUE, none, out, ?_, fun h => absurd h (by decide)⟩
      rw [encodeJpeg, hencode, Option.map_some, if_neg hn]

end ImxHal.JpegDestination
