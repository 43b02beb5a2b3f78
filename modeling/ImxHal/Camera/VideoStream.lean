import ImxHal.Schemes.Run
import ImxHal.Schemes.EarlyReturn

/-! @src camera/camera/VideoStream.cpp, camera/camera/MMAPStream.cpp, camera/camera/DMAStream.cpp,
    camera/camera/UvcStream.cpp, camera/camera/ISPCameraDeviceHWLImpl.cpp |
    name:Video stream | scheme:early return, run | family:state machines

    A request for another configuration stops the stream, sets the device up again and starts it. Every
    stage may fail and leaves what it has done so far. The cache that a later request is compared with is
    written in the middle:

        STREAMOFF ─▶ REQBUFS 0 ─▶ mbStart := false ─▶ S_PARM ─▶ S_FMT ─▶ cache := request
                                                                             │
        mSceneMode := request ◀─ mbStart := true ◀─ STREAMON ◀─ QBUF ◀─ REQBUFS ◀─ buffers -/

namespace ImxHal.CameraStream
open ImxHal.EarlyReturn

def MAX_STREAM_BUFFERS : ℕ := 32
def BAD_VALUE : ℤ := -22
def ANDROID_CONTROL_SCENE_MODE_DISABLED : ℕ := 0
def ANDROID_CONTROL_SCENE_MODE_HDR : ℕ := 18

-- `HAL_PIXEL_FORMAT_…`
def RGBA_8888 : ℤ := 0x1
def RGB_888 : ℤ := 0x3
def YCbCr_422_SP : ℤ := 0x10
def YCrCb_420_SP : ℤ := 0x11
def YCbCr_422_I : ℤ := 0x14
def RAW16 : ℤ := 0x20
def YCbCr_420_888 : ℤ := 0x23
def YCbCr_444_888 : ℤ := 0x28
def YCbCr_420_P : ℤ := 0x101
def CbYCrY_422_I : ℤ := 0x102
def YCbCr_420_SP : ℤ := 0x103
def YV12 : ℤ := 0x32315659

def v4l2_fourcc (a b c d : Char) : ℕ :=
  a.toNat + b.toNat * 2 ^ 8 + c.toNat * 2 ^ 16 + d.toNat * 2 ^ 24

def convertPixelFormatToV4L2Format (format : ℤ) : ℕ :=
  if format = YCbCr_420_SP ∨ format = YCrCb_420_SP then v4l2_fourcc 'N' 'V' '1' '2'
  else if format = YCbCr_420_P then v4l2_fourcc 'Y' 'U' '1' '2'
  else if format = YCbCr_422_I then v4l2_fourcc 'Y' 'U' 'Y' 'V'
  else if format = CbYCrY_422_I then v4l2_fourcc 'U' 'Y' 'V' 'Y'
  else if format = YCbCr_422_SP then v4l2_fourcc 'N' 'V' '1' '6'
  else if format = YCbCr_444_888 then v4l2_fourcc 'Y' 'U' 'V' '4'
  else if format = YCbCr_420_888 then v4l2_fourcc 'N' 'V' '1' '2'
  else if format = YV12 then v4l2_fourcc 'Y' 'V' '1' '2'
  else if format = RGBA_8888 then v4l2_fourcc 'A' 'B' '2' '4'
  else if format = RGB_888 then v4l2_fourcc 'R' 'G' 'B' '3'
  else 0

/-- A value kept in an `int32_t`. -/
def int32 (n : ℤ) : ℤ := n.bmod (2 ^ 32)

/-- `ALIGN_PIXEL_4`, `_16` and `_32`, for the power of two `n`. -/
def ALIGN_PIXEL (n x : ℕ) : ℕ := (x + (n - 1)) / n * n

def getSizeByForamtRes (format : ℤ) (width height : ℕ) (align : Bool) : ℤ :=
  if align ∧ format = YCbCr_420_P then
    let alignedw := int32 (ALIGN_PIXEL 32 width)
    let alignedh := int32 (ALIGN_PIXEL 4 height)
    let c_stride := (alignedw.tdiv 2 + 15).tdiv 16 * 16
    int32 ((alignedw + c_stride) * alignedh)
  else
    let alignedw := int32 (if align then ALIGN_PIXEL 16 width else width)
    let alignedh := int32 (if align then ALIGN_PIXEL 16 height else height)
    if format = YCbCr_420_SP ∨ format = YCbCr_420_P ∨ format = YCbCr_420_888 ∨ format = YV12 then
      (int32 (alignedw * alignedh * 3)).tdiv 2
    else if format = CbYCrY_422_I ∨ format = YCbCr_422_I ∨ format = YCbCr_422_SP ∨ format = RAW16 then
      int32 (alignedw * alignedh * 2)
    else if format = RGB_888 then int32 (alignedw * alignedh * 3)
    else 0

/-! ### Data -/

/-- `MMAPStream`, `ISPCameraMMAPStream`, `DMAStream` and `UvcStream`. -/
inductive Kind where | mmap | isp | dma | uvc
  deriving DecidableEq

/-- Whether the buffers are the driver's, mapped, or allocated here. -/
def Kind.mapped : Kind → Bool
  | .mmap | .isp => true
  | .dma | .uvc => false

inductive VirtAddr where | NULL | MAP_FAILED | mapped
  deriving DecidableEq

/-- `serial` tells the allocations apart. -/
structure ImxStreamBuffer where
  index : ℕ
  mFormat : ℤ
  mWidth : ℕ
  mHeight : ℕ
  mSize : ℕ
  mFormatSize : ℤ
  mVirtAddr : VirtAddr
  mStream : ℕ
  serial : ℕ
  deriving DecidableEq

structure PixFormat where
  pixelformat : ℕ
  width : ℕ
  height : ℕ
  deriving DecidableEq

/-- What the driver holds: the last frame rate and format it has accepted, whether it streams, and the
    number of buffers it was given at the last start. -/
structure Driver where
  parm : Option ℕ
  fmt : Option PixFormat
  streaming : Bool
  count : ℕ
  deriving DecidableEq

/-- A stream with its driver and the memory it holds. `id` stands for `this`. -/
structure VideoStream where
  id : ℕ
  kind : Kind
  mPlane : Bool
  mDev : Bool
  mFormat : ℤ
  mWidth : ℕ
  mHeight : ℕ
  mFps : ℕ
  mSceneMode : ℕ
  mNumBuffers : ℕ
  mAllocatedBuffers : ℕ
  mRegistered : Bool
  mbStart : Bool
  mBuffers : ℕ → Option ImxStreamBuffer
  driver : Driver
  live : List ℕ
  next : ℕ

structure viv_caps_mode_info_s where
  index : ℕ
  bounds_width : ℕ
  bounds_height : ℕ
  hdr_mode : ℕ
  fps : ℕ

structure viv_caps_supports where
  count : ℕ
  mode : ℕ → viv_caps_mode_info_s

/-- `CameraDeviceSessionHwlImpl`, as far as a stream asks it. -/
structure Session where
  caps_supports : viv_caps_supports
  mMaxWidth : ℕ
  mMaxHeight : ℕ

/-- The arguments of `ConfigAndStart`. -/
structure Request where
  format : ℤ
  width : ℕ
  height : ℕ
  fps : ℕ
  sceneMode : ℕ
  recover : Bool
  fps_pos : 0 < fps

/-- What the device node, the driver and the allocator answer during one call: `frmival` is what the
    frame intervals are enumerated as, `querybuf` and `alloc` give the length of the memory. -/
structure Answers where
  openDev : Bool
  prepare : Option ℕ
  frmival : List (ℕ × ℕ)
  s_parm : Bool
  s_fmt : Bool
  reqbufs : Bool
  querybuf : ℕ → Option ℕ
  expbuf : ℕ → Bool
  mmap : ℕ → Bool
  querybuf2 : ℕ → Bool
  alloc : ℕ → Option ℕ
  qbuf : ℕ → Bool
  streamon : Bool
  streamoff : Bool
  reqbufs0 : Bool

/-! ### Setting up -/

def Session.getCapsMode (c : Session) (sceneMode : ℕ) : ℕ :=
  let bHdr : Bool := sceneMode = ANDROID_CONTROL_SCENE_MODE_HDR
  let fits (mode : viv_caps_mode_info_s) : Bool :=
    ((bHdr && 0 < mode.hdr_mode) || (!bHdr && mode.hdr_mode = 0)) &&
      c.mMaxWidth = mode.bounds_width && c.mMaxHeight = mode.bounds_height
  match (List.range c.caps_supports.count).find? fun i => fits (c.caps_supports.mode i) with
  | some i => (c.caps_supports.mode i).index
  | none => 0

/-- The frame rate, limited to that of the sensor mode. -/
def Session.limitFps (c : Session) (fps sceneMode : ℕ) : ℕ :=
  let modeMaxFps := (c.caps_supports.mode (c.getCapsMode sceneMode)).fps
  if 0 < modeMaxFps ∧ modeMaxFps < fps then modeMaxFps else fps

/-- The last valid interval decides. -/
def PickValidFps (requestFps : ℕ) (frmival : List (ℕ × ℕ)) : ℕ :=
  frmival.foldl (fun pickedFps interval =>
    if interval.1 = 0 ∨ interval.2 = 0 then pickedFps
    else
      let valid_fps := interval.2 / interval.1
      if requestFps ≤ valid_fps then requestFps else valid_fps) requestFps

/-- The raw format of an ISP sensor depends on the mode it is in. -/
def vformatOf (kind : Kind) (format : ℤ) (raw : ℕ) : ℕ :=
  if kind = .isp ∧ format = RAW16 then raw else convertPixelFormatToV4L2Format format

/-- What `S_FMT` is called with; the size loses its last three bits. -/
def pixFormat (kind : Kind) (format : ℤ) (width height raw : ℕ) : PixFormat :=
  ⟨vformatOf kind format raw, width / 8 * 8, height / 8 * 8⟩

/-- What `S_PARM` is called with. -/
def parmOf (kind : Kind) (fps : ℕ) (frmival : List (ℕ × ℕ)) : ℕ :=
  if kind = .isp then fps else PickValidFps fps frmival

/-- Any `VIDIOC` call: where the driver takes it, the state changes. -/
def ioctl (ok : Bool) (code : ℤ) (f : VideoStream → VideoStream) : Cmd VideoStream :=
  if ok then succeed f else check (fun _ => false) code

def closeDev (s : VideoStream) : VideoStream :=
  { s with mDev := false, driver := { s.driver with streaming := false } }

def openDev (a : Answers) : Cmd VideoStream :=
  ioctl a.openDev BAD_VALUE fun s => { s with mDev := true }

/-- Only an ISP sensor is prepared: its mode is set and its raw format read. -/
def onPrepareLocked (a : Answers) : Cmd VideoStream :=
  check (fun s => s.kind ≠ .isp || (s.mDev && a.prepare.isSome)) BAD_VALUE

/-- `VIDIOC_S_PARM`; for an ISP sensor a refusal is only logged. -/
def setParm (a : Answers) (fps : ℕ) : Cmd VideoStream := fun s =>
  if a.s_parm then some ({ s with driver := { s.driver with parm := some (parmOf s.kind fps a.frmival) } }, 0)
  else some (s, if s.kind = .isp then 0 else -1)

/-- `VIDIOC_S_FMT` and `postConfigureLocked`. -/
def setFormat (a : Answers) (format : ℤ) (width height fps : ℕ) : Cmd VideoStream :=
  ioctl a.s_fmt (-1) fun s =>
    { s with
      driver := { s.driver with fmt := some (pixFormat s.kind format width height (a.prepare.getD 0)) }
      mFormat := format, mWidth := width, mHeight := height, mFps := fps }

/-- A USB camera whose node was closed is opened again. -/
def onDeviceConfigureLocked (a : Answers) (format : ℤ) (width height fps : ℕ) : Cmd VideoStream :=
  andThen (onlyIf (fun s => s.kind = .uvc && !s.mDev) (openDev a)) <|
    andThen (check (fun s => s.mDev) BAD_VALUE) <|
      andThen (setParm a fps) (setFormat a format width height fps)

/-! ### Buffers -/

/-- A buffer leaves the array and its memory is given back. -/
def releaseBuffer (frees : ImxStreamBuffer → Bool) (s : VideoStream) (i : ℕ) : VideoStream :=
  match s.mBuffers i with
  | some b =>
    if frees b then
      { s with mBuffers := Function.update s.mBuffers i none, live := s.live.filter (· ≠ b.serial) }
    else s
  | none => s

/-- The loop of `MMAPStream`: what is mapped and not empty goes. -/
def releaseMapped (s : VideoStream) : VideoStream :=
  (List.range MAX_STREAM_BUFFERS).foldl
    (releaseBuffer fun b => b.mVirtAddr ≠ .NULL && 0 < b.mSize) s

/-- The loop of `DMAStream`. -/
def releaseAllocated (s : VideoStream) : VideoStream :=
  (List.range s.mAllocatedBuffers).foldl (releaseBuffer fun _ => true) s

def putBuffer (s : VideoStream) (i : ℕ) (b : ImxStreamBuffer) : VideoStream :=
  { s with mBuffers := Function.update s.mBuffers i (some b), live := b.serial :: s.live, next := s.next + 1 }

/-- `mFormatSize`, which falls back on `mSize`. -/
def formatSize (s : VideoStream) (mSize : ℕ) : ℤ :=
  let size := getSizeByForamtRes s.mFormat s.mWidth s.mHeight false
  if size = 0 then mSize else size

/-- One turn of the registration loop of `MMAPStream`. -/
def registerBuffer (a : Answers) (i : ℕ) : Cmd VideoStream := fun s =>
  match a.querybuf i with
  | none => some (s, BAD_VALUE)
  | some length =>
    if a.expbuf i then
      let buf : ImxStreamBuffer :=
        { index := i, mFormat := s.mFormat, mWidth := s.mWidth, mHeight := s.mHeight
          mSize := length, mFormatSize := formatSize s length
          mVirtAddr := if a.mmap i then .mapped else .MAP_FAILED, mStream := s.id, serial := s.next }
      some (putBuffer s i buf, if a.mmap i ∧ (s.mPlane ∨ a.querybuf2 i) then 0 else BAD_VALUE)
    else some (s, BAD_VALUE)

/-- `AllocPhyBuffer` replaces one order of a packed format by the other. -/
def physFormat (format : ℤ) : ℤ := if format = CbYCrY_422_I then YCbCr_422_I else format

/-- One turn of the allocation loop of `DMAStream`: twice the width is asked for. The buffer object is
    there before its memory; a write behind the array is undefined. -/
def allocateBuffer (a : Answers) (i : ℕ) : Cmd VideoStream := fun s =>
  if MAX_STREAM_BUFFERS ≤ i then none
  else
    let empty : ImxStreamBuffer :=
      { index := i, mFormat := 0, mWidth := 0, mHeight := 0, mSize := 0, mFormatSize := 0
        mVirtAddr := .NULL, mStream := s.id, serial := s.next }
    match a.alloc i with
    | none => some (putBuffer s i empty, BAD_VALUE)
    | some size =>
      some (putBuffer s i
        { empty with
          mFormat := physFormat s.mFormat, mWidth := s.mWidth, mHeight := s.mHeight, mSize := size
          mFormatSize := formatSize s size, mVirtAddr := .mapped }, 0)

/-- The error is kept in a variable of the loop; the one that is returned stays 0. -/
def allocateBuffersLocked (a : Answers) : Cmd VideoStream := fun s =>
  if s.kind.mapped || s.mRegistered then some (s, 0)
  else
    match forEach (allocateBuffer a) (List.range s.mNumBuffers) s with
    | none => none
    | some (s', ret) =>
      if ret = 0 then some ({ s' with mRegistered := true, mAllocatedBuffers := s'.mNumBuffers }, 0)
      else some (releaseAllocated s', 0)

def freeBuffersLocked : Cmd VideoStream := fun s =>
  if s.kind.mapped || !s.mRegistered then some (s, 0)
  else some ({ releaseAllocated s with mRegistered := false, mAllocatedBuffers := 0 }, 0)

/-! ### Start and stop -/

/-- `VIDIOC_QBUF`: the buffer is looked into, which is undefined for a null entry and behind the
    array. -/
def queueBuffer (a : Answers) (i : ℕ) : Cmd VideoStream := fun s =>
  if MAX_STREAM_BUFFERS ≤ i ∨ s.mBuffers i = none then none
  else some (s, if a.qbuf i then 0 else BAD_VALUE)

def queueBuffers (a : Answers) : Cmd VideoStream := fun s =>
  forEach (queueBuffer a) (List.range s.mNumBuffers) s

def registerBuffers (a : Answers) : Cmd VideoStream := fun s =>
  forEach (registerBuffer a) (List.range (min s.mNumBuffers MAX_STREAM_BUFFERS)) s

def reqbufs (a : Answers) : Cmd VideoStream :=
  ioctl a.reqbufs BAD_VALUE fun s => { s with driver := { s.driver with count := s.mNumBuffers } }

def streamOn (a : Answers) (code : ℤ) : Cmd VideoStream :=
  ioctl a.streamon code fun s =>
    { s with driver := { s.driver with streaming := true }, mbStart := true }

/-- `VIDIOC_REQBUFS` with count 0 on the way out; a refusal is only logged. -/
def giveBack (a : Answers) (s : VideoStream) : VideoStream :=
  if a.reqbufs0 then { s with driver := { s.driver with count := 0 } } else s

def onDeviceStartLocked (a : Answers) : Cmd VideoStream := fun s =>
  if s.kind.mapped then
    andThen (check (fun s => s.mDev) BAD_VALUE) (andThen (reqbufs a)
      (onError (andThen (registerBuffers a) (andThen (queueBuffers a) (streamOn a BAD_VALUE)))
        fun s => giveBack a (releaseMapped s))) s
  else
    andThen (check (fun s => s.mDev) BAD_VALUE) (andThen (reqbufs a)
      (onError (andThen (queueBuffers a) (streamOn a (-1))) (giveBack a))) s

/-- `STREAMOFF`, `REQBUFS` with count 0, and only then the flag. -/
def streamOff (a : Answers) : Cmd VideoStream :=
  andThen (ioctl a.streamoff (-1) fun s => { s with driver := { s.driver with streaming := false } }) <|
    andThen (ioctl a.reqbufs0 BAD_VALUE fun s => { s with driver := { s.driver with count := 0 } })
      (succeed fun s => { s with mbStart := false })

def onDeviceStopLocked (a : Answers) : Cmd VideoStream := fun s =>
  match s.kind with
  | .mmap | .isp => andThen (check (fun s => s.mDev) BAD_VALUE)
    (andThen (succeed releaseMapped) (streamOff a)) s
  | .dma => andThen (check (fun s => s.mDev) BAD_VALUE) (streamOff a) s
  | .uvc => afterwards (andThen (check (fun s => s.mDev) BAD_VALUE) (streamOff a)) closeDev s

/-! ### Calls -/

/-- The two formats that count as one. -/
def is420 (format : ℤ) : Bool := format = YCbCr_420_SP || format = YCbCr_420_888

def requestFormat (s : VideoStream) (r : Request) : ℤ :=
  if is420 s.mFormat && is420 r.format then s.mFormat else r.format

/-- The test of the shortcut. -/
def sameConfig (c : Session) (s : VideoStream) (r : Request) : Bool :=
  s.mFormat = requestFormat s r && s.mWidth = r.width && s.mHeight = r.height &&
    s.mFps = c.limitFps r.fps r.sceneMode && s.mSceneMode = r.sceneMode && !r.recover

/-- The part for a stream that is started. -/
def stopFirst (r : Request) (a : Answers) : Cmd VideoStream :=
  andThen (onDeviceStopLocked a) <| andThen freeBuffersLocked <|
    onlyIf (fun s => r.recover || s.kind = .isp) (andThen (succeed closeDev) (openDev a))

/-- Up to the buffers. -/
def prepareAndConfigure (c : Session) (format : ℤ) (r : Request) (a : Answers) : Cmd VideoStream :=
  andThen (onlyIf VideoStream.mbStart (stopFirst r a)) <| andThen (onPrepareLocked a)
    (onDeviceConfigureLocked a format r.width r.height (c.limitFps r.fps r.sceneMode))

def ConfigAndStart (c : Session) (r : Request) (a : Answers) : Cmd VideoStream := fun s =>
  if sameConfig c s r then some (s, 0)
  else
    andThen (prepareAndConfigure c (requestFormat s r) r a) (andThen (allocateBuffersLocked a)
      (andThen (onDeviceStartLocked a) (succeed fun s => { s with mSceneMode := r.sceneMode }))) s

def Stop (a : Answers) : Cmd VideoStream :=
  onlyIf VideoStream.mbStart <| andThen (onDeviceStopLocked a) <| andThen freeBuffersLocked <|
    succeed fun s => { s with mWidth := 0, mHeight := 0, mFps := 0 }

inductive Call where
  | ConfigAndStart (r : Request) (a : Answers)
  | SetBufferNumber (num : ℕ)
  | Stop (a : Answers)

def exec (c : Session) : Call → Cmd VideoStream
  | .ConfigAndStart r a => ConfigAndStart c r a
  | .SetBufferNumber num => succeed fun s => { s with mNumBuffers := num }
  | .Stop a => Stop a

/-- A run ends with undefined behaviour. -/
def step (c : Session) (s : Option VideoStream) (e : Call) : Option VideoStream :=
  s.bind fun v => (exec c e v).map Prod.fst

/-- A new stream, with its node opened or not. -/
def created (id : ℕ) (kind : Kind) (mPlane mDev : Bool) : VideoStream :=
  { id, kind, mPlane, mDev, mFormat := 0, mWidth := 0, mHeight := 0, mFps := 0
    mSceneMode := ANDROID_CONTROL_SCENE_MODE_DISABLED, mNumBuffers := 0, mAllocatedBuffers := 0
    mRegistered := false, mbStart := false, mBuffers := fun _ => none
    driver := ⟨none, none, false, 0⟩, live := [], next := 0 }

/-! ### What success means -/

/-- The driver was set up for what the cache holds. -/
def Configured (s : VideoStream) : Prop :=
  (∃ raw, s.driver.fmt = some (pixFormat s.kind s.mFormat s.mWidth s.mHeight raw)) ∧
    ∃ frmival, s.driver.parm = some (parmOf s.kind s.mFps frmival)

/-- The driver streams, as set up for the request; the cache holds the request. -/
def Streams (c : Session) (r : Request) (s : VideoStream) : Prop :=
  s.mbStart = true ∧ s.driver.streaming = true ∧
    (∃ raw, s.driver.fmt = some (pixFormat s.kind r.format r.width r.height raw)) ∧
    (∃ frmival, s.driver.parm = some (parmOf s.kind (c.limitFps r.fps r.sceneMode) frmival)) ∧
    s.mWidth = r.width ∧ s.mHeight = r.height ∧ s.mFps = c.limitFps r.fps r.sceneMode

/-- `ConfigAndStart` returns 0 only for a stream that runs with the configuration asked for. -/
def SuccessStreams (c : Session) (s : Option VideoStream) (e : Call) (_ : Option VideoStream) : Prop :=
  ∀ v v' r a, s = some v → e = .ConfigAndStart r a → exec c e v = some (v', 0) → Streams c r v'

/-- A request that the shortcut answers finds the driver streaming. -/
def ShortcutStreams (c : Session) (s : Option VideoStream) (e : Call) : Prop :=
  ∀ v r a, s = some v → e = .ConfigAndStart r a → sameConfig c v r = true → v.driver.streaming = true

/-- On an ISP sensor the frame rate is accepted. -/
def ParmAccepted (kind : Kind) (_ : Option VideoStream) (e : Call) : Prop :=
  ∀ r a, e = .ConfigAndStart r a → kind = .isp → a.s_parm = true

/-- A driver that streams does so for a started stream, set up for what the cache holds. -/
structure Inv (kind : Kind) (s : VideoStream) : Prop where
  kind_eq : s.kind = kind
  started : s.driver.streaming = true → s.mbStart = true ∧ Configured s

/-- What the buffers have no part in. -/
def core (s : VideoStream) : VideoStream :=
  { s with
    mBuffers := fun _ => none, live := [], next := 0, mRegistered := false, mAllocatedBuffers := 0
    driver := { s.driver with count := 0 } }

/-! ### Stages -/

theorem ioctl_triple {U : Prop} {P Q E : VideoStream → Prop} {ok : Bool} {code : ℤ}
    {f : VideoStream → VideoStream} (hcode : code ≠ 0) (hq : ok = true → ∀ s, P s → Q (f s))
    (he : ok = false → ∀ s, P s → E s) : Triple U P (ioctl ok code f) Q E := by
  rcases ok with _ | _
  · exact Triple.check hcode (fun _ _ h => by cases h) fun s hs _ => he rfl s hs
  · exact Triple.succeed (hq rfl)

theorem ioctl_keeps {β : Type} {view : VideoStream → β} {ok : Bool} {code : ℤ}
    {f : VideoStream → VideoStream} (h : ∀ s, view (f s) = view s) : Keeps view (ioctl ok code f) := by
  rcases ok with _ | _
  · exact Keeps.check _ code
  · exact Keeps.succeed h

theorem core_releaseBuffer (frees : ImxStreamBuffer → Bool) (s : VideoStream) (i : ℕ) :
    core (releaseBuffer frees s i) = core s := by
  rw [releaseBuffer]
  split
  · split_ifs <;> rfl
  · rfl

theorem core_release (frees : ImxStreamBuffer → Bool) (is : List ℕ) (s : VideoStream) :
    core (is.foldl (releaseBuffer frees) s) = core s := by
  induction is generalizing s with
  | nil => rfl
  | cons i is ih => rw [List.foldl_cons, ih, core_releaseBuffer]

theorem core_releaseMapped (s : VideoStream) : core (releaseMapped s) = core s := core_release _ _ s

theorem core_releaseAllocated (s : VideoStream) : core (releaseAllocated s) = core s := core_release _ _ s

theorem registerBuffer_keeps (a : Answers) (i : ℕ) : Keeps core (registerBuffer a i) := by
  intro s s' ret h
  rw [registerBuffer] at h
  split at h
  · rw [(Prod.mk.inj (Option.some.inj h)).1]
  · split_ifs at h
    all_goals
      obtain ⟨rfl, -⟩ := Prod.mk.inj (Option.some.inj h)
      rfl

theorem allocateBuffer_keeps (a : Answers) (i : ℕ) : Keeps core (allocateBuffer a i) := by
  intro s s' ret h
  rw [allocateBuffer] at h
  split_ifs at h
  split at h
  all_goals
    obtain ⟨rfl, -⟩ := Prod.mk.inj (Option.some.inj h)
    rfl

theorem queueBuffer_keeps {β : Type} (view : VideoStream → β) (a : Answers) (i : ℕ) :
    Keeps view (queueBuffer a i) := by
  intro s s' ret h
  rw [queueBuffer] at h
  split_ifs at h
  all_goals
    obtain ⟨rfl, -⟩ := Prod.mk.inj (Option.some.inj h)
    rfl

theorem allocateBuffersLocked_keeps (a : Answers) : Keeps core (allocateBuffersLocked a) := by
  intro s s' ret h
  rw [allocateBuffersLocked] at h
  split_ifs at h
  · rw [(Prod.mk.inj (Option.some.inj h)).1]
  split at h
  · cases h
  · next mid code hloop =>
    have hmid := Keeps.forEach (allocateBuffer_keeps a) (List.range s.mNumBuffers) s mid code hloop
    split_ifs at h
    · rw [← (Prod.mk.inj (Option.some.inj h)).1]; exact hmid
    · rw [← (Prod.mk.inj (Option.some.inj h)).1]
      exact (core_releaseAllocated mid).trans hmid

theorem freeBuffersLocked_keeps : Keeps core freeBuffersLocked := by
  intro s s' ret h
  rw [freeBuffersLocked] at h
  split_ifs at h
  · rw [(Prod.mk.inj (Option.some.inj h)).1]
  · rw [← (Prod.mk.inj (Option.some.inj h)).1]
    exact core_releaseAllocated s

/-- The driver has stopped. -/
def Off (kind : Kind) (s : VideoStream) : Prop := s.kind = kind ∧ s.driver.streaming = false

theorem Off.inv {kind : Kind} {s : VideoStream} (h : Off kind s) : Inv kind s :=
  ⟨h.1, fun hon => by rw [h.2] at hon; cases hon⟩

theorem closeDev_off {kind : Kind} {s : VideoStream} (h : s.kind = kind) : Off kind (closeDev s) :=
  ⟨h, rfl⟩

theorem streamOff_triple (kind : Kind) (a : Answers) :
    Triple True (Inv kind) (streamOff a) (Off kind) (Inv kind) := by
  refine Triple.andThen (R := Off kind) ?_ (Triple.andThen (R := Off kind) ?_ ?_)
  · exact ioctl_triple (by decide) (fun _ s hs => ⟨hs.kind_eq, rfl⟩) fun _ s hs => hs
  · exact ioctl_triple (by decide) (fun _ s hs => hs) fun _ s hs => hs.inv
  · exact Triple.succeed fun s hs => hs

theorem inv_core {kind : Kind} {s : VideoStream} : Inv kind (core s) ↔ Inv kind s :=
  ⟨fun h => ⟨h.kind_eq, h.started⟩, fun h => ⟨h.kind_eq, h.started⟩⟩

theorem onDeviceStopLocked_triple (kind : Kind) (a : Answers) :
    Triple True (Inv kind) (onDeviceStopLocked a) (Off kind) (Inv kind) := by
  have hdma : Triple True (Inv kind) (andThen (check (fun s => s.mDev) BAD_VALUE) (streamOff a)) (Off kind)
      (Inv kind) :=
    Triple.andThen (Triple.check (by decide) (fun s hs _ => hs) fun s hs _ => hs)
      (streamOff_triple kind a)
  have hmmap : Triple True (Inv kind) (andThen (check (fun s => s.mDev) BAD_VALUE)
      (andThen (succeed releaseMapped) (streamOff a))) (Off kind) (Inv kind) := by
    refine Triple.andThen (R := Inv kind) (Triple.check (by decide) (fun s hs _ => hs) fun s hs _ => hs)
      (Triple.andThen (R := Inv kind) (Triple.succeed fun s hs => ?_) (streamOff_triple kind a))
    rwa [← inv_core, core_releaseMapped, inv_core]
  have huvc : Triple True (Inv kind) (afterwards (andThen (check (fun s => s.mDev) BAD_VALUE) (streamOff a))
      closeDev) (Off kind) (Inv kind) :=
    hdma.afterwards (fun s hs => closeDev_off hs.1) fun s hs => (closeDev_off hs.kind_eq).inv
  refine Triple.of_runs fun s s' ret hs hrun => ?_
  rw [onDeviceStopLocked] at hrun
  rcases hk : s.kind with _ | _ | _ | _ <;> simp only [hk] at hrun
  · exact hmmap.at_run hs hrun
  · exact hmmap.at_run hs hrun
  · exact hdma.at_run hs hrun
  · exact huvc.at_run hs hrun

theorem stopFirst_triple (kind : Kind) (r : Request) (a : Answers) :
    Triple True (Inv kind) (stopFirst r a) (Off kind) (Inv kind) := by
  refine (onDeviceStopLocked_triple kind a).andThen (Triple.andThen (R := Off kind) ?_ ?_)
  · exact (freeBuffersLocked_keeps.triple (Off kind)).weaken (fun s hs => hs) (fun s hs => hs)
      fun s hs => Off.inv (s := s) hs
  · refine Triple.onlyIf (Triple.andThen (R := Off kind) ?_ ?_) fun s hs _ => hs
    · exact Triple.succeed fun s hs => closeDev_off hs.1.1
    · exact ioctl_triple (by decide) (fun _ s hs => hs) fun _ s hs => hs.inv

/-- The cache holds the values of the request. -/
def Cached (format : ℤ) (r : Request) (fps : ℕ) (s : VideoStream) : Prop :=
  s.mFormat = format ∧ s.mWidth = r.width ∧ s.mHeight = r.height ∧ s.mFps = fps

/-- Configuring is for a driver that is off, and leaves it off. -/
theorem onDeviceConfigureLocked_triple {kind : Kind} {a : Answers} (hparm : kind = .isp → a.s_parm = true)
    (format : ℤ) (r : Request) (fps : ℕ) :
    Triple True (Off kind) (onDeviceConfigureLocked a format r.width r.height fps)
      (fun s => Off kind s ∧ Configured s ∧ Cached format r fps s) (Inv kind) := by
  refine Triple.andThen (R := Off kind) (Triple.onlyIf ?_ fun s hs _ => hs) ?_
  · exact ioctl_triple (by decide) (fun _ s hs => hs.1) fun _ s hs => hs.1.inv
  refine Triple.andThen (R := Off kind) (Triple.check (by decide) (fun s hs _ => hs) fun s hs _ => hs.inv) ?_
  refine Triple.andThen (R := fun s => Off kind s ∧ s.driver.parm = some (parmOf s.kind fps a.frmival)) ?_ ?_
  · refine Triple.of_runs fun s s' ret hs hrun => ?_
    rw [setParm] at hrun
    rcases hok : a.s_parm with _ | _ <;> rw [hok] at hrun
    · have hne : s.kind ≠ .isp := fun hk => by rw [hparm (hs.1.symm.trans hk)] at hok; cases hok
      simp only [Bool.false_eq_true, if_false, if_neg hne, Option.some.injEq, Prod.mk.injEq] at hrun
      obtain ⟨rfl, rfl⟩ := hrun
      exact ⟨fun h0 => absurd h0 (by decide), fun _ => hs.inv⟩
    · simp only [if_true, Option.some.injEq, Prod.mk.injEq] at hrun
      obtain ⟨rfl, rfl⟩ := hrun
      exact ⟨fun _ => ⟨hs, rfl⟩, fun h0 => absurd rfl h0⟩
  · refine ioctl_triple (by decide) (fun _ s hs => ?_) fun _ s hs => hs.1.inv
    exact ⟨hs.1, ⟨⟨_, rfl⟩, a.frmival, hs.2⟩, rfl, rfl, rfl, rfl⟩

/-- What a start needs, and what it leaves. -/
def Ready (kind : Kind) (format : ℤ) (r : Request) (fps : ℕ) (s : VideoStream) : Prop :=
  Off kind s ∧ Configured s ∧ Cached format r fps s

def Running (kind : Kind) (format : ℤ) (r : Request) (fps : ℕ) (s : VideoStream) : Prop :=
  s.kind = kind ∧ s.mbStart = true ∧ s.driver.streaming = true ∧ Configured s ∧ Cached format r fps s

theorem Running.inv {kind : Kind} {format : ℤ} {r : Request} {fps : ℕ} {s : VideoStream}
    (h : Running kind format r fps s) : Inv kind s := ⟨h.1, fun _ => ⟨h.2.1, h.2.2.2.1⟩⟩

theorem queueBuffers_keeps {β : Type} (view : VideoStream → β) (a : Answers) :
    Keeps view (queueBuffers a) :=
  fun s => Keeps.forEach (queueBuffer_keeps view a) (List.range s.mNumBuffers) s

theorem registerBuffers_keeps (a : Answers) : Keeps core (registerBuffers a) :=
  fun s => Keeps.forEach (registerBuffer_keeps a) _ s

theorem core_giveBack (a : Answers) (s : VideoStream) : core (giveBack a s) = core s := by
  rw [giveBack]
  split_ifs <;> rfl

section Start
variable {kind : Kind} {format : ℤ} {r : Request} {fps : ℕ}

/-- Any command on the buffers leaves a ready stream ready. -/
theorem ready_keeps {c : Cmd VideoStream} (h : Keeps core c) :
    Triple True (Ready kind format r fps) c (Ready kind format r fps) (Off kind) :=
  (h.triple (Ready kind format r fps)).weaken (fun _ hs => hs) (fun _ hs => hs) fun _ hs => hs.1

theorem streamOn_triple (a : Answers) {code : ℤ} (hcode : code ≠ 0) :
    Triple True (Ready kind format r fps) (streamOn a code) (Running kind format r fps) (Off kind) :=
  ioctl_triple hcode (fun _ _ hs => ⟨hs.1.1, rfl, rfl, hs.2⟩) fun _ _ hs => hs.1

theorem off_cleanup {f : VideoStream → VideoStream} (hf : ∀ s, core (f s) = core s) {s : VideoStream}
    (hs : Off kind s) : Off kind (f s) := by
  have hcore : Off kind (core (f s)) := by rw [hf]; exact hs
  exact hcore

/-- Starting: what is configured streams, and an error leaves the driver off. -/
theorem onDeviceStartLocked_triple (a : Answers) :
    Triple True (Ready kind format r fps) (onDeviceStartLocked a) (Running kind format r fps) (Off kind) := by
  have hdev : Triple True (Ready kind format r fps) (check (fun s => s.mDev) BAD_VALUE)
      (Ready kind format r fps) (Off kind) := ready_keeps (Keeps.check _ _)
  have hreq : Triple True (Ready kind format r fps) (reqbufs a) (Ready kind format r fps) (Off kind) :=
    ready_keeps (ioctl_keeps fun _ => rfl)
  refine Triple.of_runs fun s s' ret hs hrun => ?_
  rw [onDeviceStartLocked] at hrun
  split_ifs at hrun
  · refine (hdev.andThen (hreq.andThen (Triple.onError (R := Off kind) ?_ ?_))).at_run hs hrun
    · exact (ready_keeps (registerBuffers_keeps a)).andThen
        ((ready_keeps (queueBuffers_keeps core a)).andThen (streamOn_triple a (by decide)))
    · exact fun s hs => off_cleanup (fun s => (core_giveBack a _).trans (core_releaseMapped s)) hs
  · refine (hdev.andThen (hreq.andThen (Triple.onError (R := Off kind) ?_ ?_))).at_run hs hrun
    · exact (ready_keeps (queueBuffers_keeps core a)).andThen (streamOn_triple a (by decide))
    · exact fun s hs => off_cleanup (core_giveBack a) hs

end Start

/-! ### Calls and runs -/

theorem limitFps_pos (c : Session) (r : Request) : 0 < c.limitFps r.fps r.sceneMode := by
  rw [Session.limitFps]
  have hfps := r.fps_pos
  split_ifs with h
  · exact h.1
  · exact hfps

/-- Past the shortcut a call ends with the requested stream running, or with the invariant. -/
theorem configure_triple {kind : Kind} (c : Session) (format : ℤ) (r : Request) {a : Answers}
    (hparm : kind = .isp → a.s_parm = true) :
    Triple True (Inv kind)
      (andThen (prepareAndConfigure c format r a) (andThen (allocateBuffersLocked a)
        (andThen (onDeviceStartLocked a) (succeed fun s => { s with mSceneMode := r.sceneMode }))))
      (Running kind format r (c.limitFps r.fps r.sceneMode)) (Inv kind) := by
  have hprep : Triple True (Inv kind) (onlyIf VideoStream.mbStart (stopFirst r a)) (Off kind) (Inv kind) := by
    refine Triple.onlyIf ((stopFirst_triple kind r a).weaken (fun s hs => hs.1) (fun s hs => hs)
      fun s hs => hs) fun s hs hstop => ⟨hs.kind_eq, ?_⟩
    rcases hon : s.driver.streaming with _ | _
    · rfl
    · rw [(hs.started hon).1] at hstop; cases hstop
  have hisp : Triple True (Off kind) (onPrepareLocked a) (Off kind) (Inv kind) :=
    Triple.check (by decide) (fun s hs _ => hs) fun s hs _ => hs.inv
  refine Triple.andThen (hprep.andThen (hisp.andThen
    (onDeviceConfigureLocked_triple hparm format r (c.limitFps r.fps r.sceneMode)))) ?_
  refine Triple.weaken ?_ (fun s hs => hs) (fun s hs => hs) fun s hs => Off.inv hs
  refine (ready_keeps (allocateBuffersLocked_keeps a)).andThen
    ((onDeviceStartLocked_triple a).andThen (Triple.succeed fun s hs => ?_))
  exact hs

theorem stop_triple (kind : Kind) (a : Answers) : Triple True (Inv kind) (Stop a) (Inv kind) (Inv kind) := by
  refine Triple.onlyIf ?_ fun s hs _ => hs
  refine Triple.andThen (R := Off kind) ((onDeviceStopLocked_triple kind a).weaken (fun s hs => hs.1)
    (fun s hs => hs) fun s hs => hs) (Triple.andThen (R := Off kind) ?_ ?_)
  · exact (freeBuffersLocked_keeps.triple (Off kind)).weaken (fun s hs => hs) (fun s hs => hs)
      fun s hs => Off.inv (s := s) hs
  · exact Triple.succeed fun s hs => Off.inv hs

/-- The two formats that count as one are the same for the driver. -/
theorem vformatOf_requestFormat (kind : Kind) (s : VideoStream) (r : Request) (raw : ℕ) :
    vformatOf kind (requestFormat s r) raw = vformatOf kind r.format raw := by
  rw [requestFormat]
  split_ifs with h
  · simp only [is420, Bool.and_eq_true, Bool.or_eq_true, decide_eq_true_eq] at h
    obtain ⟨hs | hs, hr | hr⟩ := h <;> rw [hs, hr] <;>
      simp [vformatOf, convertPixelFormatToV4L2Format, RAW16, YCbCr_420_SP, YCbCr_420_888, YCrCb_420_SP,
        YCbCr_420_P, YCbCr_422_I, CbYCrY_422_I, YCbCr_422_SP, YCbCr_444_888]
  · rfl

theorem streams_of_configured {c : Session} {r : Request} {s₀ s : VideoStream} (hstart : s.mbStart = true)
    (hon : s.driver.streaming = true) (hconf : Configured s)
    (hcache : Cached (requestFormat s₀ r) r (c.limitFps r.fps r.sceneMode) s) : Streams c r s := by
  obtain ⟨⟨raw, hfmt⟩, frmival, hparm⟩ := hconf
  obtain ⟨hformat, hwidth, hheight, hfps⟩ := hcache
  refine ⟨hstart, hon, ⟨raw, ?_⟩, ⟨frmival, by rw [hparm, hfps]⟩, hwidth, hheight, hfps⟩
  rw [hfmt, hformat, hwidth, hheight, pixFormat, pixFormat, vformatOf_requestFormat]

/-- What the shortcut compares. -/
theorem cached_of_sameConfig {c : Session} {s : VideoStream} {r : Request} (h : sameConfig c s r = true) :
    Cached (requestFormat s r) r (c.limitFps r.fps r.sceneMode) s := by
  simp only [sameConfig, Bool.and_eq_true, decide_eq_true_eq] at h
  obtain ⟨⟨⟨⟨⟨hformat, hwidth⟩, hheight⟩, hfps⟩, -⟩, -⟩ := h
  exact ⟨hformat, hwidth, hheight, hfps⟩

/-- One call keeps the invariant, and its success is a running stream unless the shortcut finds the driver
    off. -/
theorem exec_spec {c : Session} {kind : Kind} {v v' : VideoStream} {e : Call} {ret : ℤ}
    (hv : Inv kind v) (hparm : ParmAccepted kind (some v) e) (hrun : exec c e v = some (v', ret)) :
    Inv kind v' ∧ ∀ r a, e = .ConfigAndStart r a → ret = 0 →
      (sameConfig c v r = true ∧ v' = v) ∨ (sameConfig c v r = false ∧ Streams c r v') := by
  cases e with
  | ConfigAndStart r a =>
    rw [exec, ConfigAndStart] at hrun
    split_ifs at hrun with hsame
    · obtain ⟨rfl, rfl⟩ := Prod.mk.inj (Option.some.inj hrun)
      refine ⟨hv, ?_⟩
      rintro r' a' heq -
      obtain ⟨rfl, rfl⟩ := Call.ConfigAndStart.inj heq
      exact Or.inl ⟨hsame, rfl⟩
    · obtain ⟨hzero, hne⟩ := (configure_triple c _ r (hparm r a rfl)).at_run hv hrun
      rcases eq_or_ne ret 0 with h0 | h0
      · have hrunning := hzero h0
        refine ⟨hrunning.inv, ?_⟩
        rintro r' a' heq -
        obtain ⟨rfl, rfl⟩ := Call.ConfigAndStart.inj heq
        obtain ⟨-, hstart, hon, hconf, hcache⟩ := hrunning
        exact Or.inr ⟨Bool.eq_false_iff.mpr hsame, streams_of_configured hstart hon hconf hcache⟩
      · exact ⟨hne h0, fun _ _ _ h => absurd h h0⟩
  | SetBufferNumber num =>
    obtain ⟨rfl, rfl⟩ := Prod.mk.inj (Option.some.inj hrun)
    exact ⟨⟨hv.kind_eq, hv.started⟩, fun _ _ heq => by cases heq⟩
  | Stop a =>
    obtain ⟨hzero, hne⟩ := (stop_triple kind a).at_run hv hrun
    refine ⟨?_, fun _ _ heq => by cases heq⟩
    rcases eq_or_ne ret 0 with h0 | h0
    · exact hzero h0
    · exact hne h0

/-- The invariant of a run that has not ended. -/
def RunInv (kind : Kind) (s : Option VideoStream) : Prop := ∀ v, s = some v → Inv kind v

theorem step_inv {c : Session} {kind : Kind} {s : Option VideoStream} {e : Call} (hs : RunInv kind s)
    (hparm : ParmAccepted kind s e) : RunInv kind (step c s e) := by
  intro v' hv'
  obtain ⟨v, rfl, hmap⟩ := Option.bind_eq_some_iff.mp hv'
  obtain ⟨⟨w, ret⟩, hrun, rfl⟩ := Option.map_eq_some_iff.mp hmap
  exact (exec_spec (hs v rfl) hparm hrun).1

/-- A step keeps the promise exactly if its shortcut does. -/
theorem success_iff {c : Session} {kind : Kind} {s : Option VideoStream} {e : Call} (hs : RunInv kind s)
    (hparm : ParmAccepted kind s e) :
    SuccessStreams c s e (step c s e) ↔ ShortcutStreams c s e := by
  constructor
  · rintro h v r a rfl rfl hsame
    have hrun : exec c (.ConfigAndStart r a) v = some (v, 0) := by rw [exec, ConfigAndStart, if_pos hsame]
    exact (h v v r a rfl rfl hrun).2.1
  · rintro h v v' r a rfl rfl hrun
    rcases (exec_spec (hs v rfl) hparm hrun).2 r a rfl rfl with ⟨hsame, rfl⟩ | ⟨-, hstreams⟩
    · have hon := h v' r a rfl rfl hsame
      obtain ⟨hstart, hconf⟩ := (hs v' rfl).started hon
      exact streams_of_configured hstart hon hconf (cached_of_sameConfig hsame)
    · exact hstreams

open ImxHal.Run

theorem created_inv (id : ℕ) (kind : Kind) (mPlane mDev : Bool) :
    RunInv kind (some (created id kind mPlane mDev)) := by
  rintro v hv
  obtain rfl := Option.some.inj hv
  exact ⟨rfl, fun hon => by cases hon⟩

/-- Every call returns 0. -/
def NoFailure (c : Session) (s : Option VideoStream) (e : Call) : Prop :=
  ∀ v, s = some v → ∃ v', exec c e v = some (v', 0)

/-- Without failures the cache is cleared whenever the driver is off. -/
theorem cleared_or_streaming {c : Session} {kind : Kind} {v v' : VideoStream} {e : Call} (hv : Inv kind v)
    (hparm : ParmAccepted kind (some v) e) (hclear : v.mFps = 0 ∨ v.driver.streaming = true)
    (hrun : exec c e v = some (v', 0)) : v'.mFps = 0 ∨ v'.driver.streaming = true := by
  cases e with
  | ConfigAndStart r a =>
    rcases (exec_spec hv hparm hrun).2 r a rfl rfl with ⟨-, rfl⟩ | ⟨-, hstreams⟩
    · exact hclear
    · exact Or.inr hstreams.2.1
  | SetBufferNumber num =>
    obtain ⟨rfl, -⟩ := Prod.mk.inj (Option.some.inj hrun)
    exact hclear
  | Stop a =>
    rw [exec, Stop, onlyIf] at hrun
    split_ifs at hrun
    · obtain ⟨mid, -, hrest⟩ := andThen_zero hrun
      obtain ⟨mid', -, hlast⟩ := andThen_zero hrest
      obtain ⟨rfl, -⟩ := Prod.mk.inj (Option.some.inj hlast)
      exact Or.inl rfl
    · obtain ⟨rfl, -⟩ := Prod.mk.inj (Option.some.inj hrun)
      exact hclear

/-- So it is a failed call that lets the shortcut go wrong. -/
theorem shortcutStreams_of_noFailure (c : Session) (id : ℕ) (kind : Kind) (mPlane mDev : Bool)
    (calls : List Call)
    (h : Meets (step c) (fun s e => NoFailure c s e ∧ ParmAccepted kind s e)
      (some (created id kind mPlane mDev)) calls) :
    Always (step c) (fun s e _ => ShortcutStreams c s e) (some (created id kind mPlane mDev)) calls := by
  refine always_of_meets (fun s e (hs : ∀ v, s = some v → Inv kind v ∧
    (v.mFps = 0 ∨ v.driver.streaming = true)) hc => ⟨?_, ?_⟩) calls _ ?_ h
  · rintro v' hv'
    obtain ⟨v, rfl, hmap⟩ := Option.bind_eq_some_iff.mp hv'
    obtain ⟨w, hrun⟩ := hc.1 v rfl
    rw [hrun] at hmap
    obtain rfl := Option.some.inj hmap
    exact ⟨(exec_spec (hs v rfl).1 hc.2 hrun).1, cleared_or_streaming (hs v rfl).1 hc.2 (hs v rfl).2 hrun⟩
  · rintro v r a rfl rfl hsame
    rcases (hs v rfl).2 with hzero | hon
    · have hfps := (cached_of_sameConfig hsame).2.2.2
      have hpos := limitFps_pos c r
      omega
    · exact hon
  · rintro v hv
    exact ⟨created_inv id kind mPlane mDev v hv, Or.inl (by obtain rfl := Option.some.inj hv; rfl)⟩

end ImxHal.CameraStream
