import ImxHal.Camera.VideoStream
import ImxHal.Schemes.Brackets

/-! @src camera/camera/CameraDeviceSessionHWLImpl.cpp (ProcessCapbuf2Outbuf, ProcessCapbuf2MultiOutbuf,
    processJpegBuffer, conv_pixel_format), camera/CameraUtils.cpp (CreateImxStreamBufferFromBufferHandle,
    ReleaseImxStreamBuffer, SwitchStreamBuf), image_process/ImageUtils.cpp (AllocPhyBuffer, FreePhyBuffer,
    SwitchImxBuf) | name:output processing | scheme:brackets | family:resource ownership

    An output is made from the capture buffer, which trades places with a temporary one for a conversion of
    the format and for a zoom. Both exchanges are undone by a test on the local, which then holds the capture
    buffer; it is undone even where there was no exchange, when the local has never been set:

        srcBuf   driver's ──conv──▶ converted ─────▶ driver's     (undone if the driver's mPhyAddr > 0)
        convBuf  zeros             driver's          converted ──▶ freed
        convBuf  (other formats)   anything    ──────▶ driver's ──▶ freed, if anything's mPhyAddr > 0 -/

namespace ImxHal.OutputProcessing
open ImxHal.Brackets
open ImxHal.CameraStream (BAD_VALUE YCbCr_422_I CbYCrY_422_I RAW16 physFormat getSizeByForamtRes)

def BLOB : ℤ := 0x21
def GRALLOC_USAGE_SW_READ_OFTEN : ℕ := 0x3
def GRALLOC_USAGE_HW_CAMERA_WRITE : ℕ := 0x20000
def GRALLOC_USAGE_PRIVATE_3 : ℕ := 0x80000000

/-! ### Buffers and streams -/

/-- Pointers and handles are numbers, of which 0 is `NULL`. -/
structure ImxImageBuffer where
  mFormat : ℤ
  mWidth : ℕ
  mHeight : ℕ
  mStride : ℕ
  mHeightSpan : ℕ
  mVirtAddr : ℕ
  mPhyAddr : ℕ
  mFd : ℤ
  mSize : ℕ
  mFormatSize : ℤ
  buffer : ℕ
  mZoomRatio : ℚ
  mUsage : ℕ
  mPrivate : ℕ
  mDewarp : Bool

structure ImxStreamBuffer extends ImxImageBuffer where
  index : ℤ
  timestamp_ns : ℕ
  mStream : ℕ

/-- `memset` to 0. -/
def ImxStreamBuffer.cleared : ImxStreamBuffer where
  mFormat := 0
  mWidth := 0
  mHeight := 0
  mStride := 0
  mHeightSpan := 0
  mVirtAddr := 0
  mPhyAddr := 0
  mFd := 0
  mSize := 0
  mFormatSize := 0
  buffer := 0
  mZoomRatio := 0
  mUsage := 0
  mPrivate := 0
  mDewarp := false
  index := 0
  timestamp_ns := 0
  mStream := 0

structure ImxStream where
  mWidth : ℕ
  mHeight : ℕ
  mFormat : ℤ
  mUsage : ℕ
  mId : ℤ
  mbPreview : Bool
  mZoomRatio : ℚ

/-- `new ImxStream`. -/
def ImxStream.new (width height : ℕ) (format : ℤ) (usage : ℕ) (id : ℤ) (bPreview : Bool) : ImxStream :=
  ⟨width, height, format, usage, id, bPreview, 1⟩

def SwitchImxBuf (imxBufA imxBufB : ImxStreamBuffer) : ImxStreamBuffer × ImxStreamBuffer :=
  ({ imxBufA with toImxImageBuffer := imxBufB.toImxImageBuffer },
    { imxBufB with toImxImageBuffer := imxBufA.toImxImageBuffer })

def SwitchStreamBuf (imxBufA imxBufB : ImxStreamBuffer) : ImxStreamBuffer × ImxStreamBuffer := (imxBufB, imxBufA)

/-! ### Memory -/

/-- `memory` is that of `malloc` and of buffer objects. -/
inductive Resource
  | buffer (handle : ℕ)
  | stream (object : ℕ)
  | memory (address : ℕ)
  deriving DecidableEq

inductive Event
  | allocated (r : Resource)
  | freed (r : Resource)
  deriving DecidableEq

def Event.opens : Event → Option Resource
  | .allocated r => some r
  | .freed _ => none

def Event.closes : Event → Option Resource
  | .allocated _ => none
  | .freed r => some r

/-- A buffer of the allocator, locked. -/
structure Granted where
  bufferHandle : ℕ
  bufferStride : ℕ
  vaddr : ℕ
  allocatedSize : ℕ
  sharedFd : ℤ
  phyAddr : ℕ

/-- The allocator refuses; it allocates and then the lock or the size fails; or all is well. The physical
    address is 0 where it could not be found out. -/
inductive Allocation
  | refused
  | failed (bufferHandle : ℕ)
  | granted (g : Granted)

def AllocPhyBuffer (answer : Allocation) (width height : ℕ) (format : ℤ) (outBufInfo : ImxStreamBuffer) :
    ImxStreamBuffer × List Event × ℤ :=
  match answer with
  | .refused => (outBufInfo, [], BAD_VALUE)
  | .failed bufferHandle =>
    (outBufInfo, [.allocated (.buffer bufferHandle), .freed (.buffer bufferHandle)], BAD_VALUE)
  | .granted g =>
    let format := physFormat format
    let size := getSizeByForamtRes format width height false
    ({ outBufInfo with
        mFormat := format, mWidth := width, mHeight := height, mHeightSpan := height
        mVirtAddr := g.vaddr, mPhyAddr := g.phyAddr, mFd := g.sharedFd, buffer := g.bufferHandle
        mSize := g.allocatedSize, mFormatSize := if size = 0 then g.allocatedSize else size
        mStride := g.bufferStride
        mUsage := GRALLOC_USAGE_HW_CAMERA_WRITE ||| GRALLOC_USAGE_PRIVATE_3 ||| GRALLOC_USAGE_SW_READ_OFTEN },
      [.allocated (.buffer g.bufferHandle)], 0)

def FreePhyBuffer (unlock : ℕ → Bool) (buffer : ℕ) : List Event :=
  if buffer = 0 then [] else if unlock buffer then [.freed (.buffer buffer)] else []

/-- The handle's buffer: `none` where its description fails. -/
structure Output where
  buffer : ℕ
  object : ℕ
  mFormat : Option ℤ
  mStream : ℕ

/-- The object of an output and its stream. -/
structure DstBuf where
  object : ℕ
  mStream : ℕ
  format : ℤ

def CreateImxStreamBufferFromBufferHandle (o : Output) : List Event × Option DstBuf :=
  if o.buffer = 0 then ([], none)
  else
    match o.mFormat with
    | none => ([.allocated (.memory o.object), .freed (.memory o.object)], none)
    | some format =>
      ([.allocated (.memory o.object), .allocated (.stream o.mStream)], some ⟨o.object, o.mStream, format⟩)

def ReleaseImxStreamBuffer (dstBuf : DstBuf) : List Event :=
  [.freed (.stream dstBuf.mStream), .freed (.memory dstBuf.object)]

/-! ### One output -/

/-- What one call finds: the fence it waits for, whether the stream is configured, the output, what the stack
    holds where `convBuf` is, the allocations, the metadata, and the codes of the encoder. -/
structure Answers where
  acquire_fence_fd : ℤ
  configured : Bool
  output : Output
  uninit : ImxStreamBuffer
  conv : Allocation
  convStream : ℕ
  metadata : Bool
  srcData : Option ℕ
  rgb : Option ℕ
  frames : Bool
  resize : Allocation
  encodeImage : ℤ
  buildImage : ℤ
  unlock : ℕ → Bool

/-- The capture buffer, and what the stream objects hold. -/
structure World where
  srcBuf : ImxStreamBuffer
  streams : ℕ → ImxStream

def World.srcStream (w : World) : ImxStream := w.streams w.srcBuf.mStream

def conv_pixel_format (a : Answers) (w : World) (convBuf : ImxStreamBuffer) (nu_pixel_fmt : ℤ) :
    World × ImxStreamBuffer × List Event :=
  let src := w.srcStream
  if src.mFormat = nu_pixel_fmt then (w, convBuf, [])
  else
    let convBuf := { ImxStreamBuffer.cleared with mFormatSize := w.srcBuf.mFormatSize }
    let (convBuf, es, ret) := AllocPhyBuffer a.conv w.srcBuf.mWidth w.srcBuf.mHeight nu_pixel_fmt convBuf
    if ret ≠ 0 then (w, convBuf, es)
    else
      let convBuf := { convBuf with mStream := a.convStream }
      let stream := ImxStream.new src.mWidth src.mHeight nu_pixel_fmt src.mUsage src.mId src.mbPreview
      let (srcBuf, convBuf) := SwitchStreamBuf w.srcBuf convBuf
      (⟨srcBuf, Function.update w.streams a.convStream stream⟩, convBuf, es ++ [.allocated (.stream a.convStream)])

/-- The two allocations of a RAW16 picture, of which the second is given back at once. -/
def rawData (a : Answers) (format : ℤ) : List Event × Option (Option ℕ) :=
  if format = RAW16 then
    match a.srcData, a.rgb with
    | none, _ => ([], none)
    | some srcData, none => ([.allocated (.memory srcData), .freed (.memory srcData)], none)
    | some srcData, some rgb =>
      ([.allocated (.memory srcData), .allocated (.memory rgb), .freed (.memory rgb)], some (some srcData))
  else ([], some none)

def freeData (srcData : Option ℕ) : List Event := (srcData.map fun p => .freed (.memory p)).toList

/-- `err_out`, which is reached with and without an error. -/
def err_out (a : Answers) (w : World) (resizeBuf : ImxStreamBuffer) (srcData : Option ℕ) : World × List Event :=
  if 0 < resizeBuf.mPhyAddr then
    let (srcBuf, resizeBuf) := SwitchImxBuf w.srcBuf resizeBuf
    ({ w with srcBuf := srcBuf }, FreePhyBuffer a.unlock resizeBuf.buffer ++ freeData srcData)
  else (w, freeData srcData)

def processJpegBuffer (a : Answers) (w : World) : World × List Event × ℤ :=
  let srcStream := w.srcStream
  let coded := if a.encodeImage ≠ 0 then a.encodeImage else a.buildImage
  if !a.metadata then (w, [], BAD_VALUE)
  else
    match rawData a srcStream.mFormat with
    | (raw, none) => (w, raw, BAD_VALUE)
    | (raw, some srcData) =>
      if !a.frames then (w, raw ++ freeData srcData, BAD_VALUE)
      else if 1 < srcStream.mZoomRatio then
        let resizeBuf := { ImxStreamBuffer.cleared with mFormatSize := w.srcBuf.mFormatSize }
        let (resizeBuf, es, ret) :=
          AllocPhyBuffer a.resize w.srcBuf.mWidth w.srcBuf.mHeight w.srcBuf.mFormat resizeBuf
        if ret ≠ 0 then (w, raw ++ es ++ freeData srcData, BAD_VALUE)
        else
          let resizeBuf := { resizeBuf with mStream := w.srcBuf.mStream }
          let (srcBuf, resizeBuf) := SwitchImxBuf w.srcBuf resizeBuf
          let (w, freed) := err_out a { w with srcBuf := srcBuf } resizeBuf srcData
          (w, raw ++ es ++ freed, coded)
      else
        let (w, freed) := err_out a w .cleared srcData
        (w, raw ++ freed, coded)

/-- The end of `ProcessCapbuf2Outbuf`: restores the capture buffer from `convBuf`. -/
def restore (a : Answers) (w : World) (convBuf : ImxStreamBuffer) : World × List Event :=
  if 0 < convBuf.mPhyAddr then
    let (srcBuf, convBuf) := SwitchStreamBuf w.srcBuf convBuf
    ({ w with srcBuf := srcBuf },
      (if convBuf.mStream ≠ 0 ∧ convBuf.mStream ≠ srcBuf.mStream then [.freed (.stream convBuf.mStream)] else []) ++
        FreePhyBuffer a.unlock convBuf.buffer)
  else (w, [])

/-- For an output that is no BLOB, `processFrameBuffer` reads the source and writes the output. -/
def processBuffer (a : Answers) (w : World) (format : ℤ) : World × List Event :=
  if format = BLOB then
    let (w, es, _) := processJpegBuffer a w
    (w, es)
  else (w, [])

/-- What is done once the output is there. -/
def processOutput (a : Answers) (w : World) (format : ℤ) : World × List Event :=
  let (w, convBuf, conv) :=
    if w.srcStream.mFormat = CbYCrY_422_I then conv_pixel_format a w .cleared YCbCr_422_I
    else (w, a.uninit, [])
  let (w, made) := processBuffer a w format
  let (w, restored) := restore a w convBuf
  (w, conv ++ made ++ restored)

/-- A timeout of the fence is only logged. The second component is the fence that is left, -1 for none. -/
def ProcessCapbuf2Outbuf (a : Answers) (w : World) : World × ℤ × List Event × ℤ :=
  let acquire_fence_fd := if -1 < a.acquire_fence_fd then -1 else a.acquire_fence_fd
  if !a.configured then (w, acquire_fence_fd, [], BAD_VALUE)
  else
    match CreateImxStreamBufferFromBufferHandle a.output with
    | (created, none) => (w, acquire_fence_fd, created, BAD_VALUE)
    | (created, some dstBuf) =>
      let (w, es) := processOutput a w dstBuf.format
      (w, acquire_fence_fd, created ++ es ++ ReleaseImxStreamBuffer dstBuf, 0)

/-! ### The capture buffer is kept -/

/-- Address, descriptor, size, format, stream and handle. -/
def SameBuffer (b b' : ImxStreamBuffer) : Prop :=
  b.mVirtAddr = b'.mVirtAddr ∧ b.mPhyAddr = b'.mPhyAddr ∧ b.mFd = b'.mFd ∧ b.mSize = b'.mSize ∧
    b.mFormat = b'.mFormat ∧ b.mStream = b'.mStream ∧ b.buffer = b'.buffer

/-- The capture buffer is as it was, and what the call has allocated, and nothing else, is freed once. -/
def Kept (a : Answers) (w : World) : Prop :=
  SameBuffer (ProcessCapbuf2Outbuf a w).1.srcBuf w.srcBuf ∧
    Settled Event.opens Event.closes (ProcessCapbuf2Outbuf a w).2.2.1

/-- What is allocated is none of the capture buffer's, nor `NULL`. -/
structure Fresh (a : Answers) (w : World) : Prop where
  stream : a.convStream ≠ 0 ∧ a.convStream ≠ w.srcBuf.mStream
  conv : ∀ g, a.conv = .granted g → g.bufferHandle ≠ 0
  resize : ∀ g, a.resize = .granted g → g.bufferHandle ≠ 0

def Allocation.toOption : Allocation → Option Granted
  | .granted g => some g
  | _ => none

/-- The buffer of the conversion. -/
def converted (a : Answers) (w : World) : Option Granted :=
  if w.srcStream.mFormat = CbYCrY_422_I then a.conv.toOption else none

/-- The buffer of a zoom. -/
def resized (a : Answers) (w : World) : Option Granted :=
  if a.output.mFormat = some BLOB ∧ a.metadata = true ∧ (rawData a w.srcStream.mFormat).2.isSome ∧
      a.frames = true ∧ 1 < w.srcStream.mZoomRatio then a.resize.toOption
  else none

/-- The stack holds nothing that is taken for a buffer, or it holds the capture buffer itself, and that cannot be
    freed. -/
def Harmless (a : Answers) (w : World) : Prop :=
  a.uninit.mPhyAddr = 0 ∨
    SameBuffer a.uninit w.srcBuf ∧ (w.srcBuf.buffer = 0 ∨ a.unlock w.srcBuf.buffer = false)

/-- The condition. -/
def Fits (a : Answers) (w : World) : Prop :=
  a.configured = false ∨ a.output.buffer = 0 ∨ a.output.mFormat = none ∨
    (∀ g ∈ (converted a w).or (resized a w), w.srcBuf.mPhyAddr ≠ 0 ∧ a.unlock g.bufferHandle = true) ∧
    (w.srcStream.mFormat ≠ CbYCrY_422_I → Harmless a w)

/-! ### The stages -/

section
variable {a : Answers} {w : World}

/-- Every stack is left as it was. -/
abbrev Balanced (es : List Event) : Prop := Neutral Event.opens Event.closes es

/-- An event that closes opens nothing. -/
theorem opens_of_closes (e : Event) (h : e.closes.isSome = true) : e.opens = none := by
  cases e with
  | allocated r => cases h
  | freed r => rfl

theorem SameBuffer.refl (b : ImxStreamBuffer) : SameBuffer b b := ⟨rfl, rfl, rfl, rfl, rfl, rfl, rfl⟩

theorem Balanced.around {es : List Event} (h : Balanced es) (r : Resource) :
    Balanced (.allocated r :: (es ++ [.freed r])) := Neutral.around h rfl rfl rfl

theorem balanced_pair (r : Resource) : Balanced [.allocated r, .freed r] :=
  Balanced.around Neutral.nil r

theorem balanced_raw {f : ℤ} {raw : List Event} (h : rawData a f = (raw, none)) : Balanced raw := by
  rw [rawData] at h
  split_ifs at h
  · rcases hsrc : a.srcData with _ | p
    · rw [hsrc] at h
      cases h
      exact Neutral.nil
    · rcases hrgb : a.rgb with _ | q <;> rw [hsrc, hrgb] at h <;> cases h
      exact balanced_pair _
  · cases h

/-- What there is of a picture: nothing, or of RAW16 the first allocation. -/
theorem rawData_some {f : ℤ} {raw : List Event} {srcData : Option ℕ} (h : rawData a f = (raw, some srcData)) :
    (raw = [] ∧ srcData = none) ∨ ∃ p q, srcData = some p ∧
      raw = [.allocated (.memory p), .allocated (.memory q), .freed (.memory q)] := by
  rw [rawData] at h
  split_ifs at h
  · rcases hsrc : a.srcData with _ | p
    · rw [hsrc] at h
      cases h
    · rcases hrgb : a.rgb with _ | q <;> rw [hsrc, hrgb] at h <;> cases h
      exact .inr ⟨p, q, rfl, rfl⟩
  · cases h
    exact .inl ⟨rfl, rfl⟩

/-- Whatever is done while `srcData` is there. -/
theorem balanced_raw_around {f : ℤ} {raw es : List Event} {srcData : Option ℕ}
    (h : rawData a f = (raw, some srcData)) (hes : Balanced es) : Balanced (raw ++ es ++ freeData srcData) := by
  rcases rawData_some h with ⟨rfl, rfl⟩ | ⟨p, q, rfl, rfl⟩
  · simpa [freeData] using hes
  · exact Balanced.around ((balanced_pair (.memory q)).append hes) (.memory p)

/-- No buffers are among them. -/
theorem raw_buffers {f : ℤ} {raw : List Event} {srcData : Option ℕ} (h : rawData a f = (raw, some srcData))
    (n : ℕ) : (∀ e ∈ raw ++ freeData srcData, e ≠ .allocated (.buffer n) ∧ e ≠ .freed (.buffer n)) := by
  rcases rawData_some h with ⟨rfl, rfl⟩ | ⟨p, q, rfl, rfl⟩
  · simp [freeData]
  · simp [freeData]

theorem alloc_granted {g : Granted} {x : Allocation} (h : x.toOption = some g) : x = .granted g := by
  cases x with
  | refused => cases h
  | failed n => cases h
  | granted g' =>
    cases h
    rfl

/-- An allocation that is not granted leaves nothing behind. -/
theorem alloc_failed {x : Allocation} (h : x.toOption = none) (width height : ℕ) (format : ℤ)
    (b : ImxStreamBuffer) : ∃ es, Balanced es ∧ AllocPhyBuffer x width height format b = (b, es, BAD_VALUE) := by
  cases x with
  | refused => exact ⟨[], Neutral.nil, rfl⟩
  | failed n => exact ⟨_, balanced_pair (.buffer n), rfl⟩
  | granted g => cases h

/-- Where no zoom takes place, the JPEG is made without touching the capture buffer. -/
theorem jpeg_plain (hblob : a.output.mFormat = some BLOB) (hnone : resized a w = none) :
    (processJpegBuffer a w).1 = w ∧ Balanced (processJpegBuffer a w).2.1 := by
  rw [processJpegBuffer]
  cases hmeta : a.metadata with
  | false => exact ⟨rfl, Neutral.nil⟩
  | true =>
  rcases hraw : rawData a w.srcStream.mFormat with ⟨raw, _ | srcData⟩
  · exact ⟨rfl, balanced_raw hraw⟩
  cases hframes : a.frames with
  | false =>
    have hbal : Balanced (raw ++ [] ++ freeData srcData) := balanced_raw_around hraw Neutral.nil
    rw [List.append_nil] at hbal
    exact ⟨rfl, hbal⟩
  | true =>
  by_cases hzoom : 1 < w.srcStream.mZoomRatio
  · have hrefused : a.resize.toOption = none := by
      simpa [resized, hblob, hmeta, hraw, hframes, hzoom] using hnone
    obtain ⟨es, hes, heq⟩ := alloc_failed hrefused w.srcBuf.mWidth w.srcBuf.mHeight w.srcBuf.mFormat
      { ImxStreamBuffer.cleared with mFormatSize := w.srcBuf.mFormatSize }
    simp only [Bool.not_true, Bool.false_eq_true, if_false, hzoom, if_true, heq]
    exact ⟨rfl, balanced_raw_around hraw hes⟩
  · have hbal : Balanced (raw ++ [] ++ freeData srcData) := balanced_raw_around hraw Neutral.nil
    rw [List.append_nil] at hbal
    simp only [Bool.not_true, Bool.false_eq_true, if_false, hzoom]
    exact ⟨rfl, hbal⟩

theorem resized_some {g : Granted} (h : resized a w = some g) : a.output.mFormat = some BLOB ∧
    a.metadata = true ∧ (∃ raw srcData, rawData a w.srcStream.mFormat = (raw, some srcData)) ∧ a.frames = true ∧
    1 < w.srcStream.mZoomRatio ∧ a.resize = .granted g := by
  rw [resized] at h
  split_ifs at h with hall
  obtain ⟨hblob, hmeta, hraw, hframes, hzoom⟩ := hall
  obtain ⟨srcData, hdata⟩ := Option.isSome_iff_exists.mp hraw
  exact ⟨hblob, hmeta, ⟨_, srcData, Prod.ext rfl hdata⟩, hframes, hzoom, alloc_granted h⟩

/-- A zoom is undone if the address of the capture buffer is not 0. -/
theorem jpeg_resized {g : Granted} (h : resized a w = some g) :
    ∃ raw srcData, rawData a w.srcStream.mFormat = (raw, some srcData) ∧
      (w.srcBuf.mPhyAddr ≠ 0 → (processJpegBuffer a w).1 = w ∧ (processJpegBuffer a w).2.1 =
        raw ++ (.allocated (.buffer g.bufferHandle) :: FreePhyBuffer a.unlock g.bufferHandle) ++ freeData srcData) ∧
      (w.srcBuf.mPhyAddr = 0 → (processJpegBuffer a w).2.1 =
        raw ++ [.allocated (.buffer g.bufferHandle)] ++ freeData srcData) := by
  obtain ⟨-, hmeta, ⟨raw, srcData, hraw⟩, hframes, hzoom, hgranted⟩ := resized_some h
  refine ⟨raw, srcData, hraw, fun hphy => ?_, fun hphy => ?_⟩
  · have hpos : 0 < w.srcBuf.mPhyAddr := Nat.pos_of_ne_zero hphy
    simp [processJpegBuffer, hmeta, hraw, hframes, hzoom, hgranted, AllocPhyBuffer, SwitchImxBuf, err_out, hpos]
  · simp [processJpegBuffer, hmeta, hraw, hframes, hzoom, hgranted, AllocPhyBuffer, SwitchImxBuf, err_out, hphy]

/-- The capture buffer and the one it was converted to have traded places. -/
theorem conv_granted {g : Granted} (h : converted a w = some g) : w.srcStream.mFormat = CbYCrY_422_I ∧
    ∃ w' : World, w'.srcBuf.buffer = g.bufferHandle ∧ w'.srcBuf.mStream = a.convStream ∧
      w'.srcStream.mZoomRatio = 1 ∧ w'.srcStream.mFormat = YCbCr_422_I ∧
      conv_pixel_format a w .cleared YCbCr_422_I =
        (w', w.srcBuf, [.allocated (.buffer g.bufferHandle), .allocated (.stream a.convStream)]) := by
  rw [converted] at h
  split_ifs at h with hformat
  have hne : CbYCrY_422_I ≠ YCbCr_422_I := by decide
  refine ⟨hformat, ?_⟩
  simp only [conv_pixel_format, hformat, hne, if_false, alloc_granted h, AllocPhyBuffer, ne_eq, not_true,
    SwitchStreamBuf]
  exact ⟨_, rfl, rfl, by simp [World.srcStream, ImxStream.new], by simp [World.srcStream, ImxStream.new], rfl⟩

/-- A conversion that gets no buffer leaves the capture buffer where it is. -/
theorem conv_failed (hformat : w.srcStream.mFormat = CbYCrY_422_I) (h : converted a w = none) :
    ∃ es, Balanced es ∧ ∃ b : ImxStreamBuffer, b.mPhyAddr = 0 ∧
      conv_pixel_format a w .cleared YCbCr_422_I = (w, b, es) := by
  rw [converted, if_pos hformat] at h
  have hne : CbYCrY_422_I ≠ YCbCr_422_I := by decide
  have hbad : BAD_VALUE ≠ 0 := by decide
  obtain ⟨es, hes, heq⟩ := alloc_failed h w.srcBuf.mWidth w.srcBuf.mHeight YCbCr_422_I
    { ImxStreamBuffer.cleared with mFormatSize := w.srcBuf.mFormatSize }
  refine ⟨es, hes, { ImxStreamBuffer.cleared with mFormatSize := w.srcBuf.mFormatSize }, rfl, ?_⟩
  simp only [conv_pixel_format, hformat, hne, if_false, heq, hbad, ne_eq, not_false_eq_true, if_true]

/-- The converted picture has a ratio of 1 and is no RAW16 one. -/
theorem jpeg_converted {w : World} (hzoom : w.srcStream.mZoomRatio = 1) (hraw : w.srcStream.mFormat = YCbCr_422_I) :
    (processJpegBuffer a w).1 = w ∧ (processJpegBuffer a w).2.1 = [] := by
  have hne : YCbCr_422_I ≠ RAW16 := by decide
  rw [processJpegBuffer]
  cases a.metadata with
  | false => exact ⟨rfl, rfl⟩
  | true =>
    cases a.frames <;> simp [hzoom, hraw, rawData, hne, err_out, ImxStreamBuffer.cleared, freeData]

/-- Closes of a buffer that is opened. -/
def Unfreed (es : List Event) (n : ℕ) : Prop :=
  (es.filterMap Event.closes).count (.buffer n) < (es.filterMap Event.opens).count (.buffer n)

theorem count_closes {es : List Event} {r : Resource} (h : ∀ e ∈ es, e ≠ .freed r) :
    (es.filterMap Event.closes).count r = 0 := by
  refine List.count_eq_zero.mpr fun hmem => ?_
  obtain ⟨e, he, hcl⟩ := List.mem_filterMap.mp hmem
  cases e with
  | allocated r' => cases hcl
  | freed r' =>
    cases hcl
    exact h _ he rfl

theorem unfreed_append {es fs : List Event} {n : ℕ} (h : Unfreed es n)
    (hfs : ∀ e ∈ fs, e ≠ .freed (.buffer n)) : Unfreed (es ++ fs) n := by
  rw [Unfreed] at h ⊢
  rw [List.filterMap_append, List.filterMap_append, List.count_append, List.count_append, count_closes hfs]
  omega

theorem unfreed_snoc {es : List Event} {n : ℕ} (h : ∀ e ∈ es, e ≠ .freed (.buffer n)) :
    Unfreed (es ++ [.allocated (.buffer n)]) n := by
  rw [Unfreed, List.filterMap_append, List.filterMap_append, List.count_append, List.count_append, count_closes h]
  simp [List.filterMap_cons, Event.closes, Event.opens]

theorem FreePhyBuffer_freed {unlock : ℕ → Bool} {b : ℕ} {e : Event} (h : e ∈ FreePhyBuffer unlock b) :
    e = .freed (.buffer b) ∧ unlock b = true := by
  rw [FreePhyBuffer] at h
  split_ifs at h with _ hu
  · cases h
  · exact ⟨List.mem_singleton.mp h, hu⟩
  · cases h

theorem FreePhyBuffer_eq {unlock : ℕ → Bool} {b : ℕ} (hb : b ≠ 0) (hu : unlock b = true) :
    FreePhyBuffer unlock b = [.freed (.buffer b)] := by
  rw [FreePhyBuffer, if_neg hb, if_pos hu]

/-- The zoom is undone and its buffer freed. -/
theorem processBuffer_kept {format : ℤ} (hout : a.output.mFormat = some format)
    (hfresh : Fresh a w) (h : ∀ g ∈ resized a w, w.srcBuf.mPhyAddr ≠ 0 ∧ a.unlock g.bufferHandle = true) :
    (processBuffer a w format).1 = w ∧ Balanced (processBuffer a w format).2 := by
  rw [processBuffer]
  split_ifs with hblob
  · rw [hblob] at hout
    rcases hres : resized a w with _ | g
    · exact jpeg_plain hout hres
    · obtain ⟨hphy, hunlock⟩ := h g hres
      obtain ⟨raw, srcData, hraw, hkept, -⟩ := jpeg_resized hres
      obtain ⟨hw, hes⟩ := hkept hphy
      refine ⟨hw, ?_⟩
      have hne := hfresh.resize g (resized_some hres).2.2.2.2.2
      change Balanced (processJpegBuffer a w).2.1
      rw [hes, FreePhyBuffer_eq hne hunlock]
      exact balanced_raw_around hraw (balanced_pair _)
  · exact ⟨rfl, Neutral.nil⟩

/-- A zoom that cannot be undone, or whose buffer cannot be unlocked, leaves the buffer behind. -/
theorem processBuffer_unfreed {format : ℤ} (hout : a.output.mFormat = some format) {g : Granted}
    (hres : resized a w = some g) (h : ¬ (w.srcBuf.mPhyAddr ≠ 0 ∧ a.unlock g.bufferHandle = true)) :
    Unfreed (processBuffer a w format).2 g.bufferHandle ∧
      (w.srcBuf.mPhyAddr = 0 ∨ (processBuffer a w format).1 = w ∧ a.unlock g.bufferHandle = false) := by
  have hblob := (resized_some hres).1
  rw [hout, Option.some.injEq] at hblob
  obtain ⟨raw, srcData, hraw, hkept, hlost⟩ := jpeg_resized hres
  have hbuffers := raw_buffers hraw g.bufferHandle
  simp only [processBuffer, hblob, if_true]
  have hes : (processJpegBuffer a w).2.1 = raw ++ [.allocated (.buffer g.bufferHandle)] ++ freeData srcData := by
    by_cases hphy : w.srcBuf.mPhyAddr = 0
    · exact hlost hphy
    · have hunlock : a.unlock g.bufferHandle = false := by simpa [hphy] using h
      rw [(hkept hphy).2, FreePhyBuffer, hunlock]
      simp
  constructor
  · rw [hes]
    exact unfreed_append (unfreed_snoc fun e he => (hbuffers e (List.mem_append_left _ he)).2) fun e he =>
      (hbuffers e (List.mem_append_right _ he)).2
  · by_cases hphy : w.srcBuf.mPhyAddr = 0
    · exact .inl hphy
    · exact .inr ⟨(hkept hphy).1, by simpa [hphy] using h⟩

/-! ### A call -/

/-- What the conversion leaves behind, when the buffer is granted. -/
theorem processOutput_converted {g : Granted} (hfresh : Fresh a w) (h : converted a w = some g) (format : ℤ) :
    (w.srcBuf.mPhyAddr ≠ 0 → (processOutput a w format).1.srcBuf = w.srcBuf ∧ (processOutput a w format).2 =
      [.allocated (.buffer g.bufferHandle), .allocated (.stream a.convStream), .freed (.stream a.convStream)] ++
        FreePhyBuffer a.unlock g.bufferHandle) ∧
    (w.srcBuf.mPhyAddr = 0 → (processOutput a w format).2 =
      [.allocated (.buffer g.bufferHandle), .allocated (.stream a.convStream)]) := by
  obtain ⟨hformat, w', hbuffer, hstream, hzoom, hraw, hconv⟩ := conv_granted h
  obtain ⟨hjpeg, hes⟩ := jpeg_converted (a := a) hzoom hraw
  have hmade : processBuffer a w' format = (w', []) := by
    rw [processBuffer]
    split_ifs
    · exact Prod.ext hjpeg hes
    · rfl
  refine ⟨fun hphy => ?_, fun hphy => ?_⟩
  · have hpos : 0 < w.srcBuf.mPhyAddr := Nat.pos_of_ne_zero hphy
    simp [processOutput, hformat, hconv, hmade, restore, hpos, SwitchStreamBuf, hbuffer, hstream, hfresh.stream]
  · simp [processOutput, hformat, hconv, hmade, restore, hphy]

/-- Without a converted buffer, `convBuf` is cleared or was never set. -/
theorem processOutput_plain (h : converted a w = none) (format : ℤ) :
    ∃ es b, Balanced es ∧ (w.srcStream.mFormat = CbYCrY_422_I → b.mPhyAddr = 0) ∧
      (w.srcStream.mFormat ≠ CbYCrY_422_I → b = a.uninit) ∧
      processOutput a w format = ((restore a (processBuffer a w format).1 b).1,
        es ++ (processBuffer a w format).2 ++ (restore a (processBuffer a w format).1 b).2) := by
  by_cases hformat : w.srcStream.mFormat = CbYCrY_422_I
  · obtain ⟨es, hes, b, hb, hconv⟩ := conv_failed hformat h
    exact ⟨es, b, hes, fun _ => hb, fun hne => absurd hformat hne, by
      simp only [processOutput, hformat, if_true, hconv]⟩
  · exact ⟨[], a.uninit, Neutral.nil, fun heq => absurd heq hformat, fun _ => rfl, by
      simp only [processOutput, hformat, if_false]⟩

/-- What the call does, put between the allocation of the output and its release. -/
def around (dstBuf : DstBuf) (es : List Event) : List Event :=
  [.allocated (.memory dstBuf.object), .allocated (.stream dstBuf.mStream)] ++ es ++ ReleaseImxStreamBuffer dstBuf

theorem settled_around (dstBuf : DstBuf) {es : List Event} (h : Balanced es) :
    Settled Event.opens Event.closes (around dstBuf es) := by
  have hall := Balanced.around (Balanced.around h (.stream dstBuf.mStream)) (.memory dstBuf.object)
  have heq : around dstBuf es = .allocated (.memory dstBuf.object) ::
      ((.allocated (.stream dstBuf.mStream) :: (es ++ [.freed (.stream dstBuf.mStream)])) ++
        [.freed (.memory dstBuf.object)]) := by
    simp [around, ReleaseImxStreamBuffer]
  rw [heq]
  exact settled_of_nested opens_of_closes hall.nested

/-- In a trace that is settled, every buffer is freed as often as it is allocated. -/
theorem count_around {dstBuf : DstBuf} {es : List Event} (h : Settled Event.opens Event.closes (around dstBuf es))
    (n : ℕ) : (es.filterMap Event.closes).count (.buffer n) = (es.filterMap Event.opens).count (.buffer n) := by
  have hcount := h.1 (.buffer n)
  simpa [around, ReleaseImxStreamBuffer, List.filterMap_cons, Event.opens, Event.closes] using hcount

theorem count_balanced {es : List Event} (h : Balanced es) (r : Resource) :
    (es.filterMap Event.closes).count r = (es.filterMap Event.opens).count r :=
  closedOnce_of_nested opens_of_closes h.nested r

/-- Converted: both are right if and only if the exchange can be undone. -/
theorem converted_iff {g : Granted} (hfresh : Fresh a w) (h : converted a w = some g) (dstBuf : DstBuf) :
    SameBuffer (processOutput a w dstBuf.format).1.srcBuf w.srcBuf ∧
      Settled Event.opens Event.closes (around dstBuf (processOutput a w dstBuf.format).2) ↔
    w.srcBuf.mPhyAddr ≠ 0 ∧ a.unlock g.bufferHandle = true := by
  obtain ⟨hkept, hlost⟩ := processOutput_converted hfresh h dstBuf.format
  constructor
  · rintro ⟨-, hsettled⟩
    have hcount := count_around hsettled g.bufferHandle
    by_cases hphy : w.srcBuf.mPhyAddr = 0
    · rw [hlost hphy] at hcount
      simp [List.filterMap_cons, Event.opens, Event.closes] at hcount
    · refine ⟨hphy, ?_⟩
      rw [(hkept hphy).2, FreePhyBuffer] at hcount
      by_contra hlocked
      simp [List.filterMap_cons, Event.opens, Event.closes, hlocked] at hcount
  · rintro ⟨hphy, hunlock⟩
    have hne : g.bufferHandle ≠ 0 := by
      obtain ⟨hformat, -⟩ := conv_granted h
      rw [converted, if_pos hformat] at h
      exact hfresh.conv g (alloc_granted h)
    obtain ⟨hsrc, hes⟩ := hkept hphy
    rw [hsrc, hes, FreePhyBuffer_eq hne hunlock]
    exact ⟨.refl _,
      settled_around dstBuf (Balanced.around (balanced_pair (.stream a.convStream)) (.buffer g.bufferHandle))⟩

theorem restore_zero {b : ImxStreamBuffer} (hb : b.mPhyAddr = 0) (w : World) : restore a w b = (w, []) := by
  rw [restore, hb, if_neg (lt_irrefl 0)]

/-- What passes for a buffer takes the place of the capture buffer. -/
theorem restore_pos {b : ImxStreamBuffer} (hb : b.mPhyAddr ≠ 0) (w : World) :
    (restore a w b).1.srcBuf = b ∧ (restore a w b).2 =
      (if w.srcBuf.mStream ≠ 0 ∧ w.srcBuf.mStream ≠ b.mStream then [.freed (.stream w.srcBuf.mStream)] else []) ++
        FreePhyBuffer a.unlock w.srcBuf.buffer := by
  rw [restore, if_pos (Nat.pos_of_ne_zero hb)]
  exact ⟨rfl, rfl⟩

theorem not_settled {dstBuf : DstBuf} {es : List Event} {n : ℕ} (h : Unfreed es n) :
    ¬ Settled Event.opens Event.closes (around dstBuf es) := by
  intro hsettled
  have hcount := count_around hsettled n
  rw [Unfreed] at h
  omega

/-- A zoom that is not undone is seen, whatever the stack holds. -/
theorem plain_zoom (dstBuf : DstBuf) (hout : a.output.mFormat = some dstBuf.format) (h : converted a w = none)
    (hkept : SameBuffer (processOutput a w dstBuf.format).1.srcBuf w.srcBuf ∧
      Settled Event.opens Event.closes (around dstBuf (processOutput a w dstBuf.format).2)) :
    ∀ g ∈ resized a w, w.srcBuf.mPhyAddr ≠ 0 ∧ a.unlock g.bufferHandle = true := by
  intro g hres
  by_contra hbad
  obtain ⟨es, b, hes, -, -, heq⟩ := processOutput_plain h dstBuf.format
  obtain ⟨hunfreed, hcase⟩ := processBuffer_unfreed hout hres hbad
  have hmade : Unfreed (es ++ (processBuffer a w dstBuf.format).2) g.bufferHandle := by
    have hcount := count_balanced hes (.buffer g.bufferHandle)
    rw [Unfreed] at hunfreed ⊢
    rw [List.filterMap_append, List.filterMap_append, List.count_append, List.count_append]
    omega
  rw [heq] at hkept
  refine not_settled (unfreed_append hmade fun e he hfreed => ?_) hkept.2
  subst hfreed
  by_cases hb : b.mPhyAddr = 0
  · rw [restore_zero hb] at he
    cases he
  · obtain ⟨hsrc, hevents⟩ := restore_pos (a := a) hb (processBuffer a w dstBuf.format).1
    have hphy : b.mPhyAddr = w.srcBuf.mPhyAddr := by
      rw [← hsrc]
      exact hkept.1.2.1
    rcases hcase with hzero | ⟨-, hlocked⟩
    · exact hb (hphy.trans hzero)
    · rw [hevents] at he
      rcases List.mem_append.mp he with he | he
      · split_ifs at he <;> simp at he
      · obtain ⟨heq, hunlock⟩ := FreePhyBuffer_freed he
        simp only [Event.freed.injEq, Resource.buffer.injEq] at heq
        rw [← heq, hlocked] at hunlock
        cases hunlock

/-- Not converted: both are right if and only if the zoom can be undone and the stack is harmless. -/
theorem plain_iff (dstBuf : DstBuf) (hfresh : Fresh a w) (hout : a.output.mFormat = some dstBuf.format)
    (h : converted a w = none) :
    SameBuffer (processOutput a w dstBuf.format).1.srcBuf w.srcBuf ∧
      Settled Event.opens Event.closes (around dstBuf (processOutput a w dstBuf.format).2) ↔
    (∀ g ∈ resized a w, w.srcBuf.mPhyAddr ≠ 0 ∧ a.unlock g.bufferHandle = true) ∧
      (w.srcStream.mFormat ≠ CbYCrY_422_I → Harmless a w) := by
  obtain ⟨es, b, hes, hzero, huninit, heq⟩ := processOutput_plain h dstBuf.format
  constructor
  · intro hkept
    have hzoom := plain_zoom dstBuf hout h hkept
    refine ⟨hzoom, fun hformat => ?_⟩
    obtain ⟨hw, hmade⟩ := processBuffer_kept hout hfresh hzoom
    obtain rfl := huninit hformat
    by_cases hb : a.uninit.mPhyAddr = 0
    · exact .inl hb
    · obtain ⟨hsrc, hevents⟩ := restore_pos (a := a) hb w
      rw [heq, hw, hsrc, hevents] at hkept
      refine .inr ⟨hkept.1, ?_⟩
      by_contra hfree
      obtain ⟨hne, hlocked⟩ := not_or.mp hfree
      have hcount := count_around hkept.2 w.srcBuf.buffer
      have hall := count_balanced (hes.append hmade) (.buffer w.srcBuf.buffer)
      rw [FreePhyBuffer_eq hne (Bool.not_eq_false _ ▸ hlocked)] at hcount
      split_ifs at hcount <;>
        simp [List.filterMap_cons, Event.opens, Event.closes] at hcount hall <;> omega
  · rintro ⟨hzoom, hharmless⟩
    obtain ⟨hw, hmade⟩ := processBuffer_kept hout hfresh hzoom
    have hdone {b : ImxStreamBuffer} {fs : List Event} (hb : SameBuffer b w.srcBuf) (hfs : fs = []) :
        SameBuffer b w.srcBuf ∧ Settled Event.opens Event.closes
          (around dstBuf (es ++ (processBuffer a w dstBuf.format).2 ++ fs)) := by
      rw [hfs, List.append_nil]
      exact ⟨hb, settled_around dstBuf (hes.append hmade)⟩
    rw [heq, hw]
    by_cases hb : b.mPhyAddr = 0
    · rw [restore_zero hb]
      exact hdone (.refl _) rfl
    · have hformat : w.srcStream.mFormat ≠ CbYCrY_422_I := fun hformat => hb (hzero hformat)
      obtain rfl := huninit hformat
      obtain ⟨hsrc, hevents⟩ := restore_pos (a := a) hb w
      obtain hnone | ⟨hsame, hfree⟩ := hharmless hformat
      · exact absurd hnone hb
      · refine hdone (by rwa [hsrc]) ?_
        have hstream := hsame.2.2.2.2.2.1
        rw [hevents, hstream, if_neg fun hne => hne.2 rfl, FreePhyBuffer]
        rcases hfree with hnull | hlocked
        · simp [hnull]
        · simp [hlocked]

end

/-- The capture buffer is kept, and what is allocated is freed, if and only if the call ends before the output is
    there, or any exchange can be undone and the local that is never set is harmless. -/
theorem kept_iff {a : Answers} {w : World} (hfresh : Fresh a w) : Kept a w ↔ Fits a w := by
  have hsame : SameBuffer w.srcBuf w.srcBuf := .refl _
  have hnested {es : List Event} (h : Balanced es) : Settled Event.opens Event.closes es :=
    settled_of_nested opens_of_closes h.nested
  rw [Kept, Fits, ProcessCapbuf2Outbuf]
  cases hconfigured : a.configured with
  | false => simpa using ⟨hsame, hnested Neutral.nil⟩
  | true =>
  rw [CreateImxStreamBufferFromBufferHandle]
  by_cases hbuffer : a.output.buffer = 0
  · simpa [hbuffer] using ⟨hsame, hnested Neutral.nil⟩
  cases hout : a.output.mFormat with
  | none => simpa [hbuffer] using ⟨hsame, hnested (balanced_pair _)⟩
  | some format =>
    simp only [hbuffer, Bool.not_true, Bool.false_eq_true, if_false, false_or, reduceCtorEq]
    rcases hconv : converted a w with _ | g
    · exact plain_iff ⟨a.output.object, a.output.mStream, format⟩ hfresh hout hconv
    · refine (converted_iff hfresh hconv ⟨a.output.object, a.output.mStream, format⟩).trans ?_
      have hformat := (conv_granted hconv).1
      simp [hformat]

/-! ### All outputs of a frame -/

/-- The loop of `ProcessCapbuf2MultiOutbuf`: the world, the events, and whether a call has failed. -/
def ProcessCapbuf2MultiOutbuf : List Answers → World → World × List Event × ℤ
  | [], w => (w, [], 0)
  | a :: as, w =>
    let (w, _, es, status) := ProcessCapbuf2Outbuf a w
    let (w, rest, ret) := ProcessCapbuf2MultiOutbuf as w
    (w, es ++ rest, if status ≠ 0 then BAD_VALUE else ret)

/-- What holds of each call, in the world that the calls before it have left. -/
def Each (P : Answers → World → Prop) : List Answers → World → Prop
  | [], _ => True
  | a :: as, w => P a w ∧ Each P as (ProcessCapbuf2Outbuf a w).1

theorem SameBuffer.trans {b b' b'' : ImxStreamBuffer} (h : SameBuffer b b') (h' : SameBuffer b' b'') :
    SameBuffer b b'' := by
  obtain ⟨h1, h2, h3, h4, h5, h6, h7⟩ := h
  obtain ⟨h1', h2', h3', h4', h5', h6', h7'⟩ := h'
  exact ⟨h1.trans h1', h2.trans h2', h3.trans h3', h4.trans h4', h5.trans h5', h6.trans h6', h7.trans h7'⟩

/-- If each call keeps it, the frame is returned with the buffer it came with. -/
theorem multi_kept {as : List Answers} {w : World} (h : Each Kept as w) :
    SameBuffer (ProcessCapbuf2MultiOutbuf as w).1.srcBuf w.srcBuf ∧
      Settled Event.opens Event.closes (ProcessCapbuf2MultiOutbuf as w).2.1 := by
  induction as generalizing w with
  | nil => exact ⟨.refl _, fun _ => rfl, fun fs hfs _ => by
      rw [List.prefix_nil.mp hfs]
      rfl⟩
  | cons a as ih =>
    obtain ⟨⟨hsame, hsettled⟩, hrest⟩ := h
    obtain ⟨hsame', hsettled'⟩ := ih hrest
    exact ⟨hsame'.trans hsame, hsettled.append hsettled'⟩

theorem outputs_kept_iff (as : List Answers) (w : World) (hfresh : Each Fresh as w) :
    Each Kept as w ↔ Each Fits as w := by
  induction as generalizing w with
  | nil => rfl
  | cons a as ih =>
    obtain ⟨hfirst, hrest⟩ := hfresh
    exact and_congr (kept_iff hfirst) (ih _ hrest)

/-- A packed capture buffer, a preview output, and no zoom. -/
def preview (uninit : ImxStreamBuffer) : Answers where
  acquire_fence_fd := -1
  configured := true
  output := ⟨7, 70, some ImxHal.CameraStream.YCbCr_420_888, 71⟩
  uninit := uninit
  conv := .refused
  convStream := 72
  metadata := true
  srcData := none
  rgb := none
  frames := true
  resize := .refused
  encodeImage := 0
  buildImage := 0
  unlock := fun _ => true

def captured : World where
  srcBuf := { ImxStreamBuffer.cleared with mFormat := YCbCr_422_I, mPhyAddr := 4096, buffer := 5, mStream := 1 }
  streams := fun _ => ImxStream.new 640 480 YCbCr_422_I 0 0 false

theorem preview_fresh (uninit : ImxStreamBuffer) : Fresh (preview uninit) captured where
  stream := by simp [preview, captured]
  conv g h := by cases h
  resize g h := by cases h

theorem outputs_kept_iff_cleared : Each Kept [preview .cleared] captured := by
  refine (outputs_kept_iff [preview .cleared] captured ⟨preview_fresh _, trivial⟩).mpr
    ⟨.inr <| .inr <| .inr ⟨?_, fun _ => .inl rfl⟩, trivial⟩
  have hnone : (converted (preview .cleared) captured).or (resized (preview .cleared) captured) = none := rfl
  simp [hnone]

/-- What the stack holds takes the place of the capture buffer, whose handle and stream are freed. -/
theorem stack_taken_for_buffer :
    let a := preview { ImxStreamBuffer.cleared with mPhyAddr := 8192 }
    Each Fresh [a] captured ∧ ¬ Each Kept [a] captured := by
  refine ⟨⟨preview_fresh _, trivial⟩, fun hkept => ?_⟩
  have hfits := (kept_iff (preview_fresh _)).mp hkept.1
  simp [Fits, preview, captured, World.srcStream, ImxStream.new, Harmless, SameBuffer, ImxStreamBuffer.cleared,
    YCbCr_422_I, CbYCrY_422_I] at hfits

end ImxHal.OutputProcessing
