import ImxHal.Schemes.Run
import ImxHal.Schemes.EarlyReturn
import ImxHal.Schemes.SlotTable

/-! @src evs/evs_hal/V4l2Capture.cpp, evs/evs_hal/EvsCamera.cpp (shutdown) |
    name:EVS capture buffers | scheme:early return, slot table, run | family:state machines

    Every camera of a capture has ten v4l2 buffers, which `mBufferMap` maps to the memory in `mCamBuffers`.
    Raising the number of frames allocates at once; lowering it leaves a number to drop, and the frames
    that come back next are dropped instead of queued:

        setMaxFramesInFlight n ── n > mFramesAllowed ──▶ onIncreaseMemoryBuffer
                               ── n < mFramesAllowed ──▶ mDecreasenum, wait
        onFrameReturn ── mDecreasenum > 0 ──▶ onDecreaseMemoryBuffer, signal at 0
                      ── otherwise ─────────▶ VIDIOC_QBUF -/

namespace ImxHal.Evs
open ImxHal.EarlyReturn ImxHal.SlotTable

def V4L2_BUFFER_NUM : ℕ := 10
def MAX_BUFFERS_IN_FLIGHT : ℕ := 10

/-- An `unsigned` that goes down by one. -/
def decremented (n : ℕ) : ℕ := (n + (2 ^ 32 - 1)) % 2 ^ 32

inductive EvsResult where
  | OK | INVALID_ARG | STREAM_ALREADY_RUNNING | BUFFER_NOT_AVAILABLE | OWNERSHIP_LOST
  | UNDERLYING_SERVICE_ERROR
  deriving DecidableEq

/-- A capture with the memory it was given and released and with the v4l2 buffers that are in the queue of
    each device. Memory is numbered in the order it is allocated. A key that `operator[]` has not seen
    reads as 0 or empty. -/
structure V4l2Capture where
  mPhysicalCamera : List String
  mDeviceFd : String → ℤ
  mCamBuffers : ℤ → List (Option ℕ)
  mBufferMap : String → List ℤ
  mFramesAllowed : ℕ
  mDecreasenum : ℕ
  allocated : ℕ
  released : List ℕ
  queued : ℤ → List ℕ

/-- Whether `VIDIOC_QBUF` takes a buffer of a camera. -/
abbrev Queues := String → ℕ → Bool

def isOpen (s : V4l2Capture) : Bool := s.mPhysicalCamera.all fun cam => decide (0 ≤ s.mDeviceFd cam)

/-! ### Raising the number -/

/-- The v4l2 buffer takes the slot, and the vector that was worked on is stored. -/
def mapAndQueue (qbuf : Queues) (cam : String) (v4l2_index : ℕ) (slot : Option ℕ)
    (fsl_mem : List (Option ℕ)) (s : V4l2Capture) : V4l2Capture :=
  let fd := s.mDeviceFd cam
  { s with
    allocated := s.allocated + 1
    mBufferMap := Function.update s.mBufferMap cam
      (match slot with
        | some i => (s.mBufferMap cam).set v4l2_index i
        | none => s.mBufferMap cam)
    mCamBuffers := Function.update s.mCamBuffers fd fsl_mem
    queued := Function.update s.queued fd
      (if qbuf cam v4l2_index then s.queued fd ++ [v4l2_index] else s.queued fd) }

/-- The turn of one camera in `onIncreaseMemoryBuffer`; code -1 is its `return`. -/
def increaseCamera (qbuf : Queues) (cam : String) : Cmd V4l2Capture := fun s =>
  if s.mDeviceFd cam < 0 then some (s, -1)
  else
    let buffer := s.allocated
    let fsl_mem := s.mCamBuffers (s.mDeviceFd cam)
    -- the loop variable is a copy of the null entry, which itself stays null
    let stored := fsl_mem.any (·.isNone)
    let fsl_mem := if stored then fsl_mem else fsl_mem ++ [some buffer]
    let map := s.mBufferMap cam
    let v4l2_index := map.findIdx (· = -1)
    let slot := if s.mFramesAllowed = 0 then some 0
      else (List.range ((s.mFramesAllowed + 1) % 2 ^ 32)).find? fun i : ℕ => (i : ℤ) ∉ map
    if v4l2_index < map.length then some (mapAndQueue qbuf cam v4l2_index slot fsl_mem s, 0) else none

/-- `mFramesAllowed++` after a buffer for every camera. -/
def increaseOnce (qbuf : Queues) : Cmd V4l2Capture :=
  andThen (fun s => forEach (increaseCamera qbuf) s.mPhysicalCamera s)
    (succeed fun s => { s with mFramesAllowed := (s.mFramesAllowed + 1) % 2 ^ 32 })

def onIncreaseMemoryBuffer (qbuf : Queues) (number : ℕ) : Cmd V4l2Capture :=
  forEach (fun _ => increaseOnce qbuf) (List.range number)

/-! ### Lowering the number -/

/-- The turn of one camera in `onDecreaseMemoryBuffer`. -/
def decreaseCamera (index : ℕ) (s : V4l2Capture) (cam : String) : Option V4l2Capture :=
  let fd := s.mDeviceFd cam
  if fd < 0 then some s
  else
    (s.mBufferMap cam)[index]?.bind fun slot =>
      (vectorAt (s.mCamBuffers fd) slot).map fun buffer =>
        { s with
          released := buffer.toList ++ s.released
          mCamBuffers := Function.update s.mCamBuffers fd ((s.mCamBuffers fd).set slot.toNat none)
          mBufferMap := Function.update s.mBufferMap cam ((s.mBufferMap cam).set index (-1))
          mFramesAllowed := decremented s.mFramesAllowed }

def onDecreaseMemoryBuffer (index : ℕ) (s : V4l2Capture) : Option V4l2Capture :=
  s.mPhysicalCamera.foldlM (decreaseCamera index) s

/-! ### The calls -/

/-- The call returns, or waits for `mFramesSignal` and then returns OK. -/
inductive Reply where | returns (r : EvsResult) | waits
  deriving DecidableEq

def setMaxFramesInFlight (qbuf : Queues) (bufferCount : ℕ) (s : V4l2Capture) :
    Option (V4l2Capture × Reply) :=
  if isOpen s = false then some (s, .returns .OWNERSHIP_LOST)
  else if bufferCount < 1 then some (s, .returns .INVALID_ARG)
  else if MAX_BUFFERS_IN_FLIGHT < bufferCount then some (s, .returns .BUFFER_NOT_AVAILABLE)
  else if s.mFramesAllowed < bufferCount then
    (onIncreaseMemoryBuffer qbuf (bufferCount - s.mFramesAllowed) s).map fun r => (r.1, .returns .OK)
  else if bufferCount < s.mFramesAllowed then
    some ({ s with mDecreasenum := s.mFramesAllowed - bufferCount }, .waits)
  else some (s, .returns .OK)

/-- The camera a returned frame belongs to. -/
def devicename (s : V4l2Capture) (deviceid : String) : String :=
  match s.mPhysicalCamera with
  | [cam] => if deviceid = "" then cam else deviceid
  | _ => deviceid

/-- The memory behind a v4l2 buffer; `none` where `at` throws. -/
def bufferAt (s : V4l2Capture) (cam : String) (index : ℕ) : Option (Option ℕ) :=
  (s.mBufferMap cam)[index]?.bind fun slot => vectorAt (s.mCamBuffers (s.mDeviceFd cam)) slot

/-- The frame goes back to the driver. -/
def requeue (s : V4l2Capture) (cam : String) (index : ℕ) (qbuf : Bool) : Option (V4l2Capture × Bool) :=
  (bufferAt s cam index).map fun buffer =>
    let fd := s.mDeviceFd cam
    if fd < 0 ∨ buffer = none then (s, false)
    else if qbuf then
      ({ s with queued := Function.update s.queued fd (s.queued fd ++ [index]) }, true)
    else (s, false)

def onFrameReturn (index : ℤ) (deviceid : String) (qbuf : Bool) (s : V4l2Capture) :
    Option (V4l2Capture × Bool) :=
  if index < 0 ∨ (V4L2_BUFFER_NUM : ℤ) ≤ index then some (s, false)
  else if 0 < s.mDecreasenum then
    (onDecreaseMemoryBuffer index.toNat s).map fun t =>
      ({ t with mDecreasenum := t.mDecreasenum - 1 }, true)
  else requeue s (devicename s deviceid) index.toNat qbuf

/-- Closing a device drops its queue. -/
def onClose (s : V4l2Capture) : V4l2Capture :=
  if isOpen s = false then s
  else
    { s with
      mDeviceFd := fun cam => if cam ∈ s.mPhysicalCamera then -1 else s.mDeviceFd cam
      queued := fun fd => if ∃ cam ∈ s.mPhysicalCamera, s.mDeviceFd cam = fd then [] else s.queued fd }

/-- The turn of one camera in `onMemoryDestroy`, which empties a copy of the vector. -/
def destroyCamera (s : V4l2Capture) (cam : String) : V4l2Capture :=
  if s.mDeviceFd cam < 0 then s
  else { s with released := (s.mCamBuffers (s.mDeviceFd cam)).reduceOption ++ s.released }

def onMemoryDestroy (s : V4l2Capture) : V4l2Capture := s.mPhysicalCamera.foldl destroyCamera s

/-- `EvsCamera::shutdown` once the stream has been stopped. -/
def shutdown (s : V4l2Capture) : V4l2Capture := onMemoryDestroy (onClose s)

/-! ### Runs -/

/-- A capture, whether a call still waits for `mFramesSignal`, and the count that was last accepted. -/
structure Session where
  camera : V4l2Capture
  waiting : Bool
  requested : Option ℕ

inductive Event where
  | setMaxFramesInFlight (bufferCount : ℕ) (qbuf : Queues)
  | onFrameReturn (index : ℤ) (deviceid : String) (qbuf : Bool)
  | shutdown

/-- A call that waits ends when the last frame has been dropped. -/
def exec : Event → Session → Option Session
  | .setMaxFramesInFlight bufferCount qbuf, s =>
    -- the caller is still in its last call
    if s.waiting then some s
    else (setMaxFramesInFlight qbuf bufferCount s.camera).map fun r =>
      ⟨r.1, r.2 = .waits, if r.2 = .waits ∨ r.2 = .returns .OK then some bufferCount else s.requested⟩
  | .onFrameReturn index deviceid qbuf, s =>
    (onFrameReturn index deviceid qbuf s.camera).map fun r =>
      { s with
        camera := r.1
        waiting := s.waiting && !(decide (0 < s.camera.mDecreasenum ∧ r.1.mDecreasenum = 0)) }
  | .shutdown, s => some { s with camera := shutdown s.camera }

/-- An uncaught exception ends the process. -/
def step (s : Option Session) (e : Event) : Option Session := s.bind (exec e)

/-- The cameras of a capture with the devices that were opened for them. -/
structure Cameras where
  names : List String
  fd : String → ℤ
  nonempty : names ≠ []
  nodup : names.Nodup
  valid : ∀ cam ∈ names, 0 ≤ fd cam
  distinct : ∀ cam ∈ names, ∀ cam' ∈ names, fd cam = fd cam' → cam = cam'

def opened (cams : Cameras) : Session where
  camera :=
    { mPhysicalCamera := cams.names
      mDeviceFd := fun cam => if cam ∈ cams.names then cams.fd cam else 0
      mCamBuffers := fun _ => []
      mBufferMap := fun cam => if cam ∈ cams.names then List.replicate V4L2_BUFFER_NUM (-1) else []
      mFramesAllowed := 0
      mDecreasenum := 0
      allocated := 0
      released := []
      queued := fun _ => [] }
  waiting := false
  requested := none

/-! ### What is promised -/

/-- The v4l2 buffer `i` of a camera is mapped to slot `k`. -/
def Maps (s : V4l2Capture) (cam : String) (i : ℕ) (k : ℤ) : Prop :=
  (s.mBufferMap cam)[i]? = some k ∧ k ≠ -1

/-- Distinct mapped buffers have distinct slots with memory in them, as many as there are frames allowed. -/
structure MapsKept (s : V4l2Capture) : Prop where
  injective : ∀ cam ∈ s.mPhysicalCamera, ∀ i j k, Maps s cam i k → Maps s cam j k → i = j
  filled : ∀ cam ∈ s.mPhysicalCamera, ∀ i k, Maps s cam i k → ∃ b, bufferAt s cam i = some (some b)
  number : ∀ cam ∈ s.mPhysicalCamera, entries (s.mBufferMap cam) = s.mFramesAllowed

/-- What a step short of the shutdown releases is the memory behind the frame that came back with it. -/
def DropsReturned (s : V4l2Capture) (e : Event) (t : V4l2Capture) : Prop :=
  ∃ dropped, t.released = dropped ++ s.released ∧ ∀ b ∈ dropped, ∃ index deviceid qbuf,
    e = .onFrameReturn index deviceid qbuf ∧
      bufferAt s (devicename s deviceid) index.toNat = some (some b)

def BuffersKept (s : Option Session) (e : Event) (s' : Option Session) : Prop :=
  ∀ v t, s = some v → s' = some t →
    MapsKept t.camera ∧
    (t.waiting = false → ∀ n, t.requested = some n → t.camera.mFramesAllowed = n) ∧
    (e ≠ .shutdown → DropsReturned v.camera e t.camera) ∧
    (e = .shutdown → ∀ b < t.camera.allocated, t.camera.released.count b = 1)

/-- No null entry waits to be used again. -/
def Full (s : V4l2Capture) : Prop :=
  ∀ cam ∈ s.mPhysicalCamera, none ∉ s.mCamBuffers (s.mDeviceFd cam)

/-- The number is raised only while no entry is null, a frame is dropped only by a capture of one camera,
    whose frame it is, and the shutdown comes before any memory was allocated. -/
def Undisturbed (s : Option Session) (e : Event) : Prop :=
  ∀ v, s = some v → match e with
    | .setMaxFramesInFlight bufferCount _ =>
        isOpen v.camera = true → v.waiting = false → bufferCount ≤ MAX_BUFFERS_IN_FLIGHT →
          v.camera.mFramesAllowed < bufferCount → Full v.camera
    | .onFrameReturn _ deviceid _ => 0 < v.camera.mDecreasenum →
        ∃ cam, v.camera.mPhysicalCamera = [cam] ∧ (deviceid = "" ∨ deviceid = cam)
    | .shutdown => v.camera.mFramesAllowed = 0

/-! ### One camera -/

/-- The cameras are open, and camera `cam` has `n cam` buffers. -/
structure Ready (n : String → ℕ) (s : V4l2Capture) : Prop where
  nodup : s.mPhysicalCamera.Nodup
  valid : ∀ cam ∈ s.mPhysicalCamera, 0 ≤ s.mDeviceFd cam
  distinct : ∀ cam ∈ s.mPhysicalCamera, ∀ cam' ∈ s.mPhysicalCamera,
    s.mDeviceFd cam = s.mDeviceFd cam' → cam = cam'
  size : ∀ cam ∈ s.mPhysicalCamera, (s.mBufferMap cam).length = V4L2_BUFFER_NUM
  inStep : ∀ cam ∈ s.mPhysicalCamera, InStep (s.mBufferMap cam) (s.mCamBuffers (s.mDeviceFd cam))
  count : ∀ cam ∈ s.mPhysicalCamera, entries (s.mBufferMap cam) = n cam

/-- The state after a camera was given a new slot. -/
def given (qbuf : Queues) (cam : String) (s : V4l2Capture) : V4l2Capture :=
  let fsl_mem := s.mCamBuffers (s.mDeviceFd cam)
  mapAndQueue qbuf cam ((s.mBufferMap cam).findIdx (· = -1)) (some fsl_mem.length)
    (fsl_mem ++ [some s.allocated]) s

section OneCamera
variable {n : String → ℕ} {s : V4l2Capture} {cam : String} {qbuf : Queues}

theorem Ready.free_entry (h : Ready n s) (hcam : cam ∈ s.mPhysicalCamera) (hn : n cam < V4L2_BUFFER_NUM) :
    (s.mBufferMap cam)[(s.mBufferMap cam).findIdx (· = -1)]? = some (-1) := by
  refine findIdx_free ?_
  rw [h.count cam hcam, h.size cam hcam]
  exact hn

/-- Without a null entry the camera gets its memory at the end of its vector. -/
theorem Ready.increaseCamera (h : Ready n s) (hfull : Full s) (hcam : cam ∈ s.mPhysicalCamera)
    (hn : n cam = s.mFramesAllowed) (hlt : s.mFramesAllowed < V4L2_BUFFER_NUM) :
    increaseCamera qbuf cam s = some (given qbuf cam s, 0) := by
  have hstored : (s.mCamBuffers (s.mDeviceFd cam)).any (·.isNone) = false := by
    rw [List.any_eq_false]
    intro x hx hnone
    rw [Option.isNone_iff_eq_none] at hnone
    exact hfull cam hcam (hnone ▸ hx)
  have hslot : (if s.mFramesAllowed = 0 then some 0
      else (List.range ((s.mFramesAllowed + 1) % 2 ^ 32)).find? fun i : ℕ => (i : ℤ) ∉ s.mBufferMap cam) =
      some (s.mCamBuffers (s.mDeviceFd cam)).length := by
    have hlen := (h.inStep cam hcam).length_eq (hfull cam hcam)
    have hfind := (h.inStep cam hcam).find_unused (hfull cam hcam)
    rw [h.count cam hcam, hn] at hlen hfind
    split_ifs with hzero
    · rw [hlen, hzero]
    · rw [Nat.mod_eq_of_lt (by rw [V4L2_BUFFER_NUM] at hlt; omega)]
      exact hfind
  have hfree := h.free_entry hcam (by omega)
  have hidx := (List.getElem?_eq_some_iff.mp hfree).1
  rw [Evs.increaseCamera, if_neg (not_lt.mpr (h.valid cam hcam))]
  simp only [hstored, hslot, hidx, if_true, Bool.false_eq_true, if_false]
  rfl

theorem given_mBufferMap_self : (given qbuf cam s).mBufferMap cam =
    (s.mBufferMap cam).set ((s.mBufferMap cam).findIdx (· = -1))
      (s.mCamBuffers (s.mDeviceFd cam)).length := Function.update_self ..

theorem given_mBufferMap_of_ne {cam' : String} (hne : cam' ≠ cam) :
    (given qbuf cam s).mBufferMap cam' = s.mBufferMap cam' := Function.update_of_ne hne ..

theorem given_mCamBuffers_self : (given qbuf cam s).mCamBuffers (s.mDeviceFd cam) =
    s.mCamBuffers (s.mDeviceFd cam) ++ [some s.allocated] := Function.update_self ..

theorem given_mCamBuffers_of_ne {fd : ℤ} (hne : fd ≠ s.mDeviceFd cam) :
    (given qbuf cam s).mCamBuffers fd = s.mCamBuffers fd := Function.update_of_ne hne ..

theorem Ready.given (h : Ready n s) (hcam : cam ∈ s.mPhysicalCamera) (hn : n cam < V4L2_BUFFER_NUM) :
    Ready (Function.update n cam (n cam + 1)) (given qbuf cam s) := by
  have hfree := h.free_entry hcam hn
  refine ⟨h.nodup, h.valid, h.distinct, fun cam' hcam' => ?_, fun cam' hcam' => ?_, fun cam' hcam' => ?_⟩
  · rcases eq_or_ne cam' cam with rfl | hne
    · rw [given_mBufferMap_self, List.length_set, h.size cam' hcam]
    · rw [given_mBufferMap_of_ne hne, h.size cam' hcam']
  · have hfd : (Evs.given qbuf cam s).mDeviceFd cam' = s.mDeviceFd cam' := rfl
    rw [hfd]
    rcases eq_or_ne cam' cam with rfl | hne
    · rw [given_mBufferMap_self, given_mCamBuffers_self]
      exact (h.inStep cam' hcam).push hfree s.allocated
    · have hfdne : s.mDeviceFd cam' ≠ s.mDeviceFd cam := fun heq => hne (h.distinct cam' hcam' cam hcam heq)
      rw [given_mBufferMap_of_ne hne, given_mCamBuffers_of_ne hfdne]
      exact h.inStep cam' hcam'
  · rcases eq_or_ne cam' cam with rfl | hne
    · have hset := entries_set hfree ((s.mCamBuffers (s.mDeviceFd cam')).length : ℤ)
      rw [if_neg (by simp), if_pos (by omega)] at hset
      rw [given_mBufferMap_self, Function.update_self, ← h.count cam' hcam]
      omega
    · rw [given_mBufferMap_of_ne hne, Function.update_of_ne hne]
      exact h.count cam' hcam'

theorem Full.given (hfull : Full s) (hdistinct : ∀ cam' ∈ s.mPhysicalCamera,
    s.mDeviceFd cam' = s.mDeviceFd cam → cam' = cam) : Full (given qbuf cam s) := by
  intro cam' hcam'
  have hfd : (Evs.given qbuf cam s).mDeviceFd cam' = s.mDeviceFd cam' := rfl
  rw [hfd]
  rcases eq_or_ne cam' cam with rfl | hne
  · rw [given_mCamBuffers_self]
    simpa using hfull cam' hcam'
  · rw [given_mCamBuffers_of_ne fun heq => hne (hdistinct cam' hcam' heq)]
    exact hfull cam' hcam'

end OneCamera

/-! ### Raising the number for all cameras -/

/-- What the number of buffers does not concern. -/
def frame (s : V4l2Capture) : List String × ℕ × List ℕ :=
  (s.mPhysicalCamera, s.mDecreasenum, s.released)

theorem increaseCamera_keeps (qbuf : Queues) (cam : String) : Keeps frame (increaseCamera qbuf cam) := by
  intro s s' ret hrun
  simp only [increaseCamera] at hrun
  split_ifs at hrun <;> · obtain ⟨rfl, rfl⟩ := Prod.mk.inj (Option.some.inj hrun); rfl

theorem increaseOnce_keeps (qbuf : Queues) : Keeps frame (increaseOnce qbuf) := by
  refine Keeps.andThen (fun s => ?_) (Keeps.succeed fun _ => rfl)
  exact Keeps.forEach (increaseCamera_keeps qbuf) s.mPhysicalCamera s

theorem onIncreaseMemoryBuffer_keeps (qbuf : Queues) (number : ℕ) :
    Keeps frame (onIncreaseMemoryBuffer qbuf number) :=
  Keeps.forEach (fun _ => increaseOnce_keeps qbuf) _

/-- What a new buffer for one camera and a new count leave true. -/
structure Grows (qbuf : Queues) (Q : V4l2Capture → Prop) : Prop where
  given : ∀ {n : String → ℕ} {s : V4l2Capture} {cam : String}, Ready n s → cam ∈ s.mPhysicalCamera →
    n cam < V4L2_BUFFER_NUM → Q s → Q (given qbuf cam s)
  counted : ∀ {s : V4l2Capture} (m : ℕ), Q s → Q { s with mFramesAllowed := m }

/-- Every camera has `n` buffers and no null entry. -/
structure Level (Q : V4l2Capture → Prop) (names : List String) (n : ℕ) (s : V4l2Capture) : Prop where
  cameras : s.mPhysicalCamera = names
  ready : Ready (fun _ => n) s
  full : Full s
  allowed : s.mFramesAllowed = n
  more : Q s

/-- The cameras that had their turn are one buffer ahead. -/
structure Ahead (Q : V4l2Capture → Prop) (names : List String) (n : ℕ) (done : List String)
    (s : V4l2Capture) : Prop where
  cameras : s.mPhysicalCamera = names
  ready : Ready (fun cam => if cam ∈ done then n + 1 else n) s
  full : Full s
  allowed : s.mFramesAllowed = n
  more : Q s

theorem Ready.congr {n n' : String → ℕ} {s : V4l2Capture} (h : Ready n s)
    (heq : ∀ cam ∈ s.mPhysicalCamera, n cam = n' cam) : Ready n' s :=
  { h with count := fun cam hcam => (h.count cam hcam).trans (heq cam hcam) }

section Raising
variable {qbuf : Queues} {Q : V4l2Capture → Prop} {names done rest : List String} {cam : String} {n k : ℕ}

theorem increaseCamera_ahead (hQ : Grows qbuf Q) (hnames : done ++ cam :: rest = names)
    (hn : n < V4L2_BUFFER_NUM) :
    Triple False (Ahead Q names n done) (increaseCamera qbuf cam) (Ahead Q names n (done ++ [cam]))
      fun _ => False := by
  have hrun : ∀ s, Ahead Q names n done s → cam ∈ s.mPhysicalCamera ∧ cam ∉ done := by
    intro s h
    have hnodup := h.ready.nodup
    rw [h.cameras, ← hnames] at hnodup ⊢
    have hsplit := List.nodup_append.mp hnodup
    exact ⟨by simp, fun hmem => hsplit.2.2 cam hmem cam List.mem_cons_self rfl⟩
  refine Triple.of_some (f := fun s => (given qbuf cam s, 0)) (fun s h => ?_) (fun s h _ => ?_)
    fun s _ hne => absurd rfl hne
  · obtain ⟨hcam, hdone⟩ := hrun s h
    exact h.ready.increaseCamera h.full hcam ((if_neg hdone).trans h.allowed.symm) (h.allowed ▸ hn)
  · obtain ⟨hcam, hdone⟩ := hrun s h
    have hless : (if cam ∈ done then n + 1 else n) < V4L2_BUFFER_NUM := by rw [if_neg hdone]; exact hn
    have hready : Ready _ (given qbuf cam s) := h.ready.given hcam hless
    refine ⟨h.cameras, hready.congr fun cam' _ => ?_, ?_, h.allowed, hQ.given h.ready hcam hless h.more⟩
    · rcases eq_or_ne cam' cam with rfl | hne
      · rw [Function.update_self, if_neg hdone, if_pos (by simp)]
      · rw [Function.update_of_ne hne]
        simp [hne]
    · exact h.full.given fun cam' hcam' heq => h.ready.distinct cam' hcam' cam hcam heq

theorem increaseOnce_level (hQ : Grows qbuf Q) (hn : n < V4L2_BUFFER_NUM) :
    Triple False (Level Q names n) (increaseOnce qbuf) (Level Q names (n + 1)) fun _ => False := by
  have hloop : Triple False (Ahead Q names n []) (forEach (increaseCamera qbuf) names)
      (Ahead Q names n names) fun _ => False :=
    Triple.forEach_list fun done cam rest hnames => increaseCamera_ahead hQ hnames hn
  have hstart : Triple False (Level Q names n) (fun s => forEach (increaseCamera qbuf) s.mPhysicalCamera s)
      (Ahead Q names n names) fun _ => False := by
    refine (hloop.weaken (fun s h => ?_) (fun _ h => h) fun _ h => h).of_eq fun s h => by rw [h.cameras]
    exact ⟨h.cameras, h.ready.congr fun _ _ => (if_neg List.not_mem_nil).symm, h.full, h.allowed, h.more⟩
  refine hstart.andThen (Triple.succeed fun s h => ?_)
  have hready : Ready (fun _ => n + 1) s :=
    h.ready.congr fun cam hcam => if_pos (h.cameras ▸ hcam)
  rw [V4L2_BUFFER_NUM] at hn
  refine ⟨h.cameras, ⟨hready.nodup, hready.valid, hready.distinct, hready.size, hready.inStep,
    hready.count⟩, h.full, ?_, hQ.counted _ h.more⟩
  change (s.mFramesAllowed + 1) % 2 ^ 32 = n + 1
  rw [h.allowed, Nat.mod_eq_of_lt (by omega)]

/-- Raising the number gives every camera that many buffers more. -/
theorem onIncreaseMemoryBuffer_level (hQ : Grows qbuf Q) (hk : n + k ≤ V4L2_BUFFER_NUM) :
    Triple False (Level Q names n) (onIncreaseMemoryBuffer qbuf k) (Level Q names (n + k))
      fun _ => False := by
  have hturn : ∀ i < k, Triple False (Level Q names (n + i)) (increaseOnce qbuf) (Level Q names (n + (i + 1)))
      fun _ => False := fun i hi => increaseOnce_level hQ (by omega)
  exact Triple.forRange hturn

/-- Raising the number from `n` to `m`. -/
theorem onIncreaseMemoryBuffer_some {s t : V4l2Capture} {code : ℤ} {m : ℕ} (hQ : Grows qbuf Q)
    (h : Level Q names n s) (hnm : n ≤ m) (hm : m ≤ V4L2_BUFFER_NUM)
    (hrun : onIncreaseMemoryBuffer qbuf (m - n) s = some (t, code)) :
    Level Q names m t ∧ frame t = frame s := by
  obtain ⟨t', hrun', hlevel⟩ :=
    (onIncreaseMemoryBuffer_level hQ (k := m - n) (by omega)).success h
  obtain ⟨rfl, rfl⟩ := Prod.mk.inj (Option.some.inj (hrun'.symm.trans hrun))
  rw [Nat.add_sub_cancel' hnm] at hlevel
  exact ⟨hlevel, onIncreaseMemoryBuffer_keeps qbuf _ _ _ _ hrun⟩

end Raising

/-! ### Dropping a frame -/

theorem decremented_of_pos {n : ℕ} (hpos : 0 < n) (hn : n ≤ V4L2_BUFFER_NUM) : decremented n = n - 1 := by
  rw [V4L2_BUFFER_NUM] at hn
  rw [decremented]
  omega

/-- The state after the memory `b` behind an index was dropped. -/
def dropped (s : V4l2Capture) (cam : String) (index k b : ℕ) : V4l2Capture :=
  { s with
    released := b :: s.released
    mCamBuffers := Function.update s.mCamBuffers (s.mDeviceFd cam)
      ((s.mCamBuffers (s.mDeviceFd cam)).set k none)
    mBufferMap := Function.update s.mBufferMap cam ((s.mBufferMap cam).set index (-1))
    mFramesAllowed := decremented s.mFramesAllowed }

section Dropping
variable {s t : V4l2Capture} {cam : String} {n index k b : ℕ}

/-- A capture of one camera drops the memory behind the index, or the lookup throws. -/
theorem onDecreaseMemoryBuffer_single (h : Ready (fun _ => n) s) (hcam : s.mPhysicalCamera = [cam])
    (hrun : onDecreaseMemoryBuffer index s = some t) :
    ∃ k b : ℕ, (s.mBufferMap cam)[index]? = some (k : ℤ) ∧ bufferAt s cam index = some (some b) ∧
      t = dropped s cam index k b := by
  have hmem : cam ∈ s.mPhysicalCamera := by rw [hcam]; exact List.mem_singleton_self cam
  rw [onDecreaseMemoryBuffer, hcam] at hrun
  simp only [List.foldlM_cons, List.foldlM_nil, bind_pure, decreaseCamera] at hrun
  rw [if_neg (not_lt.mpr (h.valid cam hmem))] at hrun
  obtain ⟨slot, hslot, hrun⟩ := Option.bind_eq_some_iff.mp hrun
  obtain ⟨buffer, hbuffer, rfl⟩ := Option.map_eq_some_iff.mp hrun
  obtain ⟨k, rfl, hk⟩ := exists_cast_of_vectorAt hbuffer
  obtain ⟨b, hb⟩ := (h.inStep cam hmem).held _ (List.mem_of_getElem? hslot) (by omega)
  obtain rfl : buffer = some b := Option.some.inj (hbuffer.symm.trans hb)
  refine ⟨k, b, hslot, ?_, rfl⟩
  rw [bufferAt, hslot]
  exact hbuffer

theorem Ready.dropped (h : Ready (fun _ => n) s) (hcam : s.mPhysicalCamera = [cam])
    (hslot : (s.mBufferMap cam)[index]? = some (k : ℤ)) :
    0 < n ∧ Ready (fun _ => n - 1) (dropped s cam index k b) := by
  have hmem : cam ∈ s.mPhysicalCamera := by rw [hcam]; exact List.mem_singleton_self cam
  have hset := entries_set hslot (-1)
  rw [if_pos (by omega), if_neg (by simp), h.count cam hmem] at hset
  have hone : ∀ cam' ∈ s.mPhysicalCamera, cam' = cam := fun cam' hcam' => by
    rw [hcam] at hcam'
    exact List.mem_singleton.mp hcam'
  refine ⟨by omega, h.nodup, h.valid, h.distinct, fun cam' hcam' => ?_, fun cam' hcam' => ?_,
    fun cam' hcam' => ?_⟩
  · obtain rfl := hone cam' hcam'
    simp only [Evs.dropped, Function.update_self, List.length_set]
    exact h.size cam' hmem
  · obtain rfl := hone cam' hcam'
    simp only [Evs.dropped, Function.update_self]
    exact (h.inStep cam' hmem).drop hslot
  · obtain rfl := hone cam' hcam'
    simp only [Evs.dropped, Function.update_self]
    omega

end Dropping

/-! ### Runs of calls -/

/-- After the shutdown no device is open and no buffer is mapped. -/
structure Idle (s : V4l2Capture) : Prop where
  nonempty : s.mPhysicalCamera ≠ []
  closed : ∀ cam ∈ s.mPhysicalCamera, s.mDeviceFd cam = -1
  free : ∀ cam ∈ s.mPhysicalCamera, ∀ k ∈ s.mBufferMap cam, k = -1
  allowed : s.mFramesAllowed = 0

/-- The count is what was requested, or is on the way there. -/
structure Inv (v : Session) : Prop where
  cameras : (v.camera.mPhysicalCamera ≠ [] ∧ Ready (fun _ => v.camera.mFramesAllowed) v.camera) ∨
    Idle v.camera
  allowed : v.camera.mFramesAllowed ≤ V4L2_BUFFER_NUM
  unused : v.camera.mFramesAllowed = 0 → v.camera.allocated = 0
  settled : v.waiting = false →
    v.camera.mDecreasenum = 0 ∧ ∀ n, v.requested = some n → v.camera.mFramesAllowed = n
  pending : v.waiting = true → 0 < v.camera.mDecreasenum ∧
    ∃ n, v.requested = some n ∧ 0 < n ∧ v.camera.mDecreasenum + n = v.camera.mFramesAllowed

theorem Ready.mapsKept {s : V4l2Capture} (h : Ready (fun _ => s.mFramesAllowed) s) : MapsKept s := by
  refine ⟨fun cam hcam i j k hi hj => ?_, fun cam hcam i k hi => ?_, h.count⟩
  · exact (h.inStep cam hcam).injective i j k hi.1 hj.1 hi.2
  · obtain ⟨b, hb⟩ := (h.inStep cam hcam).held k (List.mem_of_getElem? hi.1) hi.2
    exact ⟨b, by rw [bufferAt, hi.1]; exact hb⟩

theorem Idle.mapsKept {s : V4l2Capture} (h : Idle s) : MapsKept s := by
  have hnone : ∀ cam ∈ s.mPhysicalCamera, ∀ i k, ¬ Maps s cam i k := fun cam hcam i k hi =>
    hi.2 (h.free cam hcam k (List.mem_of_getElem? hi.1))
  refine ⟨fun cam hcam i j k hi => (hnone cam hcam i k hi).elim,
    fun cam hcam i k hi => (hnone cam hcam i k hi).elim, fun cam hcam => ?_⟩
  rw [h.allowed, entries, List.countP_eq_zero]
  intro k hk
  simp [h.free cam hcam k hk]

theorem Inv.mapsKept {v : Session} (h : Inv v) : MapsKept v.camera := by
  rcases h.cameras with ⟨-, hready⟩ | hidle
  · exact hready.mapsKept
  · exact hidle.mapsKept

theorem isOpen_iff (s : V4l2Capture) :
    isOpen s = true ↔ ∀ cam ∈ s.mPhysicalCamera, 0 ≤ s.mDeviceFd cam := by
  rw [isOpen, List.all_eq_true]
  exact forall₂_congr fun cam _ => decide_eq_true_iff

theorem Idle.isOpen {s : V4l2Capture} (h : Idle s) : isOpen s = false := by
  obtain ⟨cam, hcam⟩ := List.exists_mem_of_ne_nil _ h.nonempty
  by_contra hopen
  have := (isOpen_iff s).mp (by simpa using hopen) cam hcam
  rw [h.closed cam hcam] at this
  omega

/-- An accepted call leaves the count it was asked for, or waits for it. -/
theorem setMaxFramesInFlight_inv {v : Session} {bufferCount : ℕ} {qbuf : Queues} {r : V4l2Capture × Reply}
    (h : Inv v) (hwait : v.waiting = false)
    (hc : Undisturbed (some v) (.setMaxFramesInFlight bufferCount qbuf))
    (hrun : setMaxFramesInFlight qbuf bufferCount v.camera = some r) :
    Inv ⟨r.1, r.2 = .waits, if r.2 = .waits ∨ r.2 = .returns .OK then some bufferCount else v.requested⟩ ∧
      r.1.released = v.camera.released := by
  obtain ⟨hdrop, hcount⟩ := h.settled hwait
  have hsame : ∀ res, res ≠ EvsResult.OK → Inv ⟨v.camera, Reply.returns res = .waits,
      if Reply.returns res = .waits ∨ Reply.returns res = .returns .OK then some bufferCount
      else v.requested⟩ := by
    intro res hres
    refine ⟨h.cameras, h.allowed, h.unused, fun _ => ⟨hdrop, fun n hn => hcount n ?_⟩, by simp⟩
    simpa [hres] using hn
  rw [setMaxFramesInFlight] at hrun
  rcases hopen : isOpen v.camera with _ | _
  · rw [if_pos hopen] at hrun
    obtain rfl := Option.some.inj hrun
    exact ⟨hsame _ (by decide), rfl⟩
  have hcams : v.camera.mPhysicalCamera ≠ [] ∧ Ready (fun _ => v.camera.mFramesAllowed) v.camera := by
    rcases h.cameras with hready | hidle
    · exact hready
    · rw [hidle.isOpen] at hopen; cases hopen
  rw [if_neg (by rw [hopen]; decide)] at hrun
  split_ifs at hrun with hone hmax hraise hlower
  · obtain rfl := Option.some.inj hrun
    exact ⟨hsame _ (by decide), rfl⟩
  · obtain rfl := Option.some.inj hrun
    exact ⟨hsame _ (by decide), rfl⟩
  · obtain ⟨⟨t, code⟩, hinc, rfl⟩ := Option.map_eq_some_iff.mp hrun
    have hlevel : Level (fun _ => True) v.camera.mPhysicalCamera v.camera.mFramesAllowed v.camera :=
      ⟨rfl, hcams.2, hc v rfl hopen hwait (not_lt.mp hmax) hraise, rfl, trivial⟩
    have hgrows : Grows qbuf fun _ => True := ⟨fun _ _ _ _ => trivial, fun _ _ => trivial⟩
    have hle : bufferCount ≤ V4L2_BUFFER_NUM := not_lt.mp hmax
    obtain ⟨hlevel', hframe⟩ := onIncreaseMemoryBuffer_some hgrows hlevel hraise.le hle hinc
    simp only [frame, Prod.mk.injEq] at hframe
    have hallowed : t.mFramesAllowed = bufferCount := hlevel'.allowed
    refine ⟨⟨Or.inl ⟨by rw [hframe.1]; exact hcams.1, ?_⟩, hallowed.trans_le hle, ?_,
      fun _ => ⟨?_, ?_⟩, by simp⟩, hframe.2.2⟩
    · rw [hallowed]
      exact hlevel'.ready
    · intro hzero
      change t.mFramesAllowed = 0 at hzero
      omega
    · exact hframe.2.1.trans hdrop
    · intro n hn
      exact hallowed.trans (Option.some.inj (by simpa using hn))
  · obtain rfl := Option.some.inj hrun
    refine ⟨⟨Or.inl ⟨hcams.1, ⟨hcams.2.nodup, hcams.2.valid, hcams.2.distinct, hcams.2.size,
      hcams.2.inStep, hcams.2.count⟩⟩, h.allowed, h.unused, by simp, fun _ => ⟨?_, bufferCount, ?_, ?_, ?_⟩⟩,
      rfl⟩
    · change 0 < v.camera.mFramesAllowed - bufferCount
      omega
    · simp
    · omega
    · change v.camera.mFramesAllowed - bufferCount + bufferCount = v.camera.mFramesAllowed
      omega
  · obtain rfl := Option.some.inj hrun
    refine ⟨⟨h.cameras, h.allowed, h.unused, fun _ => ⟨hdrop, fun n hn => ?_⟩, by simp⟩, rfl⟩
    have : bufferCount = n := Option.some.inj (by simpa using hn)
    change v.camera.mFramesAllowed = n
    omega

theorem requeue_some {s : V4l2Capture} {cam : String} {index : ℕ} {qbuf : Bool} {r : V4l2Capture × Bool}
    (h : requeue s cam index qbuf = some r) : ∃ queued, r.1 = { s with queued := queued } := by
  obtain ⟨buffer, -, rfl⟩ := Option.map_eq_some_iff.mp h
  dsimp only
  split_ifs
  · exact ⟨s.queued, rfl⟩
  · exact ⟨_, rfl⟩
  · exact ⟨s.queued, rfl⟩

/-- The driver's queue is no part of the invariant. -/
theorem Inv.queued {v : Session} (h : Inv v) (queued : ℤ → List ℕ) :
    Inv { v with camera := { v.camera with queued := queued } } := by
  refine ⟨?_, h.allowed, h.unused, h.settled, h.pending⟩
  rcases h.cameras with ⟨hne, hready⟩ | hidle
  · exact Or.inl ⟨hne, hready.nodup, hready.valid, hready.distinct, hready.size, hready.inStep, hready.count⟩
  · exact Or.inr ⟨hidle.nonempty, hidle.closed, hidle.free, hidle.allowed⟩

theorem devicename_single {s : V4l2Capture} {cam deviceid : String} (hcam : s.mPhysicalCamera = [cam])
    (hid : deviceid = "" ∨ deviceid = cam) : devicename s deviceid = cam := by
  simp only [devicename, hcam]
  rcases hid with rfl | rfl
  · rw [if_pos rfl]
  · exact ite_self _

/-- A returned frame is dropped while frames are to be dropped, and goes back to the driver otherwise. -/
theorem onFrameReturn_inv {v t : Session} {index : ℤ} {deviceid : String} {qbuf : Bool} (h : Inv v)
    (hc : Undisturbed (some v) (.onFrameReturn index deviceid qbuf))
    (hexec : exec (.onFrameReturn index deviceid qbuf) v = some t) :
    Inv t ∧ DropsReturned v.camera (.onFrameReturn index deviceid qbuf) t.camera := by
  rw [exec] at hexec
  obtain ⟨r, hrun, rfl⟩ := Option.map_eq_some_iff.mp hexec
  have hstay : ∀ queued, r.1 = { v.camera with queued := queued } →
      Inv { v with camera := r.1, waiting := v.waiting && !(decide (0 < v.camera.mDecreasenum ∧
        r.1.mDecreasenum = 0)) } ∧ DropsReturned v.camera (.onFrameReturn index deviceid qbuf) r.1 := by
    intro queued hr
    rw [hr]
    have hnot : ¬ (0 < v.camera.mDecreasenum ∧ v.camera.mDecreasenum = 0) := by omega
    simp only [hnot, decide_false, Bool.not_false, Bool.and_true]
    exact ⟨h.queued queued, [], rfl, fun b hb => by simp at hb⟩
  rw [onFrameReturn] at hrun
  split_ifs at hrun with hindex hdrop
  · obtain rfl := Option.some.inj hrun
    exact hstay v.camera.queued rfl
  · obtain ⟨u, hdec, rfl⟩ := Option.map_eq_some_iff.mp hrun
    obtain ⟨cam, hcam, hid⟩ := hc v rfl hdrop
    have hwait : v.waiting = true := by
      by_contra hne
      have := (h.settled (by simpa using hne)).1
      omega
    obtain ⟨-, n, hn, hpos, hsum⟩ := h.pending hwait
    have hready : Ready (fun _ => v.camera.mFramesAllowed) v.camera := by
      rcases h.cameras with ⟨-, hready⟩ | hidle
      · exact hready
      · have := hidle.allowed
        omega
    obtain ⟨k, b, hslot, hb, rfl⟩ := onDecreaseMemoryBuffer_single hready hcam hdec
    obtain ⟨hsome, hready'⟩ := hready.dropped (b := b) hcam hslot
    have hallowed : (dropped v.camera cam index.toNat k b).mFramesAllowed = v.camera.mFramesAllowed - 1 :=
      decremented_of_pos hsome h.allowed
    have hnum : (dropped v.camera cam index.toNat k b).mDecreasenum = v.camera.mDecreasenum := rfl
    generalize hu : dropped v.camera cam index.toNat k b = u at *
    have hcam' : u.mPhysicalCamera = [cam] := by rw [← hu]; exact hcam
    refine ⟨⟨Or.inl ⟨by rw [hcam']; simp, ?_⟩, ?_, fun hzero => ?_, fun hwait' => ?_, fun hwait' => ?_⟩,
      [b], by rw [← hu]; rfl, fun b' hb' => ?_⟩
    · rw [hallowed]
      exact ⟨hready'.nodup, hready'.valid, hready'.distinct, hready'.size, hready'.inStep, hready'.count⟩
    · have := h.allowed
      change u.mFramesAllowed ≤ V4L2_BUFFER_NUM
      omega
    · change u.mFramesAllowed = 0 at hzero
      omega
    · change (v.waiting && !(decide (0 < v.camera.mDecreasenum ∧ u.mDecreasenum - 1 = 0))) = false at hwait'
      change u.mDecreasenum - 1 = 0 ∧ ∀ m, v.requested = some m → u.mFramesAllowed = m
      simp only [hwait, Bool.true_and, Bool.not_eq_false', decide_eq_true_eq] at hwait'
      refine ⟨hwait'.2, fun m hm => ?_⟩
      obtain rfl : n = m := Option.some.inj (hn.symm.trans hm)
      omega
    · change (v.waiting && !(decide (0 < v.camera.mDecreasenum ∧ u.mDecreasenum - 1 = 0))) = true at hwait'
      change 0 < u.mDecreasenum - 1 ∧ ∃ m, v.requested = some m ∧ 0 < m ∧
        u.mDecreasenum - 1 + m = u.mFramesAllowed
      simp only [hwait, Bool.true_and, Bool.not_eq_true', decide_eq_false_iff_not, not_and] at hwait'
      have := hwait' hdrop
      exact ⟨by omega, n, hn, hpos, by omega⟩
    · rw [List.mem_singleton.mp hb']
      exact ⟨index, deviceid, qbuf, rfl, by rw [devicename_single hcam hid]; exact hb⟩
  · obtain ⟨queued, hr⟩ := requeue_some hrun
    exact hstay queued hr

theorem destroyCamera_closed {s : V4l2Capture} {cams : List String}
    (h : ∀ cam ∈ cams, s.mDeviceFd cam < 0) : cams.foldl destroyCamera s = s := by
  induction cams with
  | nil => rfl
  | cons cam cams ih =>
    rw [List.foldl_cons, destroyCamera, if_pos (h cam List.mem_cons_self)]
    exact ih fun cam' hcam' => h cam' (List.mem_cons_of_mem cam hcam')

/-- Once the devices are closed nothing is released, whatever memory there is. -/
theorem shutdown_of_open {s : V4l2Capture} (hopen : isOpen s = true) : shutdown s = onClose s := by
  rw [shutdown, onMemoryDestroy]
  refine destroyCamera_closed fun cam hcam => ?_
  have hclose : onClose s = _ := if_neg (by rw [hopen]; decide)
  rw [hclose] at hcam ⊢
  change (if cam ∈ s.mPhysicalCamera then -1 else s.mDeviceFd cam) < 0
  rw [if_pos hcam]
  decide

theorem shutdown_inv {v : Session} (h : Inv v) (hc : Undisturbed (some v) .shutdown) :
    Inv { v with camera := shutdown v.camera } ∧ (shutdown v.camera).allocated = 0 := by
  have hzero : v.camera.mFramesAllowed = 0 := hc v rfl
  rcases h.cameras with ⟨hne, hready⟩ | hidle
  · have hopen : isOpen v.camera = true := (isOpen_iff _).mpr hready.valid
    have hclose : onClose v.camera = _ := if_neg (by rw [hopen]; decide)
    rw [shutdown_of_open hopen, hclose]
    refine ⟨⟨Or.inr ⟨hne, fun cam hcam => if_pos hcam, fun cam hcam k hk => ?_, hzero⟩, h.allowed,
      h.unused, h.settled, h.pending⟩, h.unused hzero⟩
    have hnone := hready.count cam hcam
    rw [hzero, entries, List.countP_eq_zero] at hnone
    simpa using hnone k hk
  · have hsame : shutdown v.camera = v.camera := by
      have hclose : onClose v.camera = v.camera := if_pos hidle.isOpen
      rw [shutdown, hclose, onMemoryDestroy]
      exact destroyCamera_closed fun cam hcam => by rw [hidle.closed cam hcam]; decide
    rw [hsame]
    exact ⟨h, h.unused hzero⟩

theorem opened_inv (cams : Cameras) : Inv (opened cams) := by
  have hfd : ∀ cam ∈ cams.names, (opened cams).camera.mDeviceFd cam = cams.fd cam := fun _ h => if_pos h
  have hmap : ∀ cam ∈ cams.names, (opened cams).camera.mBufferMap cam = List.replicate V4L2_BUFFER_NUM (-1) :=
    fun _ h => if_pos h
  refine ⟨Or.inl ⟨cams.nonempty, cams.nodup, fun cam hcam => ?_, fun cam hcam cam' hcam' heq => ?_,
    fun cam hcam => ?_, fun cam hcam => ?_, fun cam hcam => ?_⟩, Nat.zero_le _, fun _ => rfl,
    fun _ => ⟨rfl, fun n hn => by cases hn⟩, fun hwait => by cases hwait⟩
  · rw [hfd cam hcam]
    exact cams.valid cam hcam
  · rw [hfd cam hcam, hfd cam' hcam'] at heq
    exact cams.distinct cam hcam cam' hcam' heq
  · rw [hmap cam hcam, List.length_replicate]
  · rw [hmap cam hcam]
    exact inStep_free _
  · rw [hmap cam hcam]
    rfl

theorem exec_kept {v t : Session} {e : Event} (h : Inv v) (hc : Undisturbed (some v) e)
    (hrun : exec e v = some t) : Inv t ∧ (e ≠ .shutdown → DropsReturned v.camera e t.camera) ∧
      (e = .shutdown → t.camera.allocated = 0) := by
  cases e with
  | setMaxFramesInFlight bufferCount qbuf =>
    rw [exec] at hrun
    split_ifs at hrun with hwait
    · obtain rfl := Option.some.inj hrun
      exact ⟨h, fun _ => ⟨[], rfl, fun b hb => by simp at hb⟩, fun he => by cases he⟩
    · obtain ⟨r, hset, rfl⟩ := Option.map_eq_some_iff.mp hrun
      obtain ⟨hinv, hreleased⟩ := setMaxFramesInFlight_inv h (by simpa using hwait) hc hset
      exact ⟨hinv, fun _ => ⟨[], hreleased, fun b hb => by simp at hb⟩, fun he => by cases he⟩
  | onFrameReturn index deviceid qbuf =>
    obtain ⟨hinv, hdrop⟩ := onFrameReturn_inv h hc hrun
    exact ⟨hinv, fun _ => hdrop, fun he => by cases he⟩
  | shutdown =>
    obtain rfl := Option.some.inj hrun
    obtain ⟨hinv, hnone⟩ := shutdown_inv h hc
    exact ⟨hinv, fun he => absurd rfl he, fun _ => hnone⟩

/-- Along every run of undisturbed steps the maps, the counts and the memory stay in step. -/
theorem buffers_kept (cams : Cameras) (es : List Event)
    (hc : Run.Meets step Undisturbed (some (opened cams)) es) :
    Run.Always step BuffersKept (some (opened cams)) es := by
  refine Run.always_of_meets (fun s e (hinv : ∀ v, s = some v → Inv v) hok => ?_) es
    (some (opened cams)) (fun v hv => Option.some.inj hv ▸ opened_inv cams) hc
  have hstep : ∀ v t, s = some v → step s e = some t → Inv t ∧
      (e ≠ .shutdown → DropsReturned v.camera e t.camera) ∧ (e = .shutdown → t.camera.allocated = 0) := by
    rintro v t rfl hrun
    exact exec_kept (hinv v rfl) hok hrun
  refine ⟨fun t ht => ?_, fun v t hv ht => ?_⟩
  · obtain ⟨v, hv, hrun⟩ := Option.bind_eq_some_iff.mp ht
    exact (hstep v t hv ht).1
  · obtain ⟨hnext, hdrop, hnone⟩ := hstep v t hv ht
    refine ⟨hnext.mapsKept, fun hwait => (hnext.settled hwait).2, hdrop, fun he b hb => ?_⟩
    rw [hnone he] at hb
    omega

def frontCamera : Cameras where
  names := ["/dev/video0"]
  fd _ := 5
  nonempty := by decide
  nodup := by decide
  valid := by decide
  distinct := by decide

def twoCameras : Cameras where
  names := ["/dev/video0", "/dev/video1"]
  fd cam := if cam = "/dev/video0" then 5 else 6
  nonempty := by decide
  nodup := by decide
  valid := by decide
  distinct := by decide

def setCount (n : ℕ) : Event := .setMaxFramesInFlight n fun _ _ => true

/-- The count goes up to two and down to one, which a returned frame completes. -/
def raiseAndLower : List Event := [setCount 2, setCount 1, .onFrameReturn 0 "" true]

theorem buffers_kept_front_camera :
    Run.Always step BuffersKept (some (opened frontCamera)) raiseAndLower := by
  have hraised : ((Run.run step (some (opened frontCamera)) [setCount 2]).map
      fun v => v.camera.mFramesAllowed) = some 2 := by decide +kernel
  have hlowered : ((Run.run step (some (opened frontCamera)) [setCount 2, setCount 1]).map
      fun v => v.camera.mPhysicalCamera) = some ["/dev/video0"] := by decide +kernel
  refine buffers_kept frontCamera raiseAndLower ⟨?_, ?_, ?_, trivial⟩
  · rintro v hv - - - -
    obtain rfl := Option.some.inj hv
    intro cam _ hnone
    simp [opened] at hnone
  · rintro v hv - - - hlt
    have : v.camera.mFramesAllowed = 2 :=
      Option.some.inj ((congrArg (Option.map _) hv).symm.trans hraised)
    omega
  · rintro v hv -
    have : v.camera.mPhysicalCamera = ["/dev/video0"] :=
      Option.some.inj ((congrArg (Option.map _) hv).symm.trans hlowered)
    exact ⟨"/dev/video0", this, Or.inl rfl⟩

/-- A count that goes up again maps a null entry; with two cameras a dropped frame lowers the count by two;
    the shutdown releases nothing. -/
theorem buffers_lost :
    ¬ Run.Always step BuffersKept (some (opened frontCamera)) (raiseAndLower ++ [setCount 2]) ∧
      ¬ Run.Always step BuffersKept (some (opened twoCameras)) ([setCount 2, setCount 1] ++
        [.onFrameReturn 0 "/dev/video0" true]) ∧
      ¬ Run.Always step BuffersKept (some (opened frontCamera)) ([setCount 2] ++ [.shutdown]) := by
  refine ⟨fun h => ?_, fun h => ?_, fun h => ?_⟩
  · have hfinal : (Run.run step (some (opened frontCamera)) (raiseAndLower ++ [setCount 2])).map
        (fun v => (v.camera.mPhysicalCamera, (v.camera.mBufferMap "/dev/video0")[0]?,
          bufferAt v.camera "/dev/video0" 0)) = some (["/dev/video0"], some 0, some none) := by
      decide +kernel
    have hbefore : (Run.run step (some (opened frontCamera)) raiseAndLower).isSome = true := by
      decide +kernel
    obtain ⟨u, hu⟩ := Option.isSome_iff_exists.mp hbefore
    obtain ⟨v, hrun, hv⟩ := Option.map_eq_some_iff.mp hfinal
    simp only [Prod.mk.injEq] at hv
    obtain ⟨b, hb⟩ := (Run.always_last h u v hu hrun).1.filled "/dev/video0"
      (by rw [hv.1]; exact List.mem_singleton_self _) 0 0 ⟨hv.2.1, by decide⟩
    rw [hv.2.2] at hb
    cases hb
  · have hfinal : (Run.run step (some (opened twoCameras)) ([setCount 2, setCount 1] ++
        [.onFrameReturn 0 "/dev/video0" true])).map (fun v => (v.camera.mPhysicalCamera,
          entries (v.camera.mBufferMap "/dev/video0"), v.camera.mFramesAllowed)) =
        some (["/dev/video0", "/dev/video1"], 1, 0) := by decide +kernel
    have hbefore : (Run.run step (some (opened twoCameras)) [setCount 2, setCount 1]).isSome = true := by
      decide +kernel
    obtain ⟨u, hu⟩ := Option.isSome_iff_exists.mp hbefore
    obtain ⟨v, hrun, hv⟩ := Option.map_eq_some_iff.mp hfinal
    simp only [Prod.mk.injEq] at hv
    have hnumber := (Run.always_last h u v hu hrun).1.number "/dev/video0"
      (by rw [hv.1]; exact List.mem_cons_self)
    omega
  · have hfinal : (Run.run step (some (opened frontCamera)) ([setCount 2] ++ [.shutdown])).map
        (fun v => (v.camera.allocated, v.camera.released)) = some (2, []) := by decide +kernel
    have hbefore : (Run.run step (some (opened frontCamera)) [setCount 2]).isSome = true := by decide +kernel
    obtain ⟨u, hu⟩ := Option.isSome_iff_exists.mp hbefore
    obtain ⟨v, hrun, hv⟩ := Option.map_eq_some_iff.mp hfinal
    simp only [Prod.mk.injEq] at hv
    have hcount := (Run.always_last h u v hu hrun).2.2.2 rfl 0 (by omega)
    rw [hv.2] at hcount
    cases hcount

end ImxHal.Evs
