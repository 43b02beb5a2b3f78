import ImxHal.Evs.CaptureBuffers

/-! @src evs/evs_hal/EvsCamera.cpp (doneWithFrame, forwardFrame, collectFrames, doneWithFrame_impl),
    evs/evs_hal/V4l2Capture.cpp (onFrameReturn, onFrameCollect) |
    name:EVS frames | scheme:slot table, run | family:concurrency

    The capture thread takes a frame from every camera and hands the set to the client; the client returns
    it on another thread. A buffer goes round:

        queued ──DQBUF──▶ collected ──forwardFrame──▶ with the client
           ▲                                               │
           └──────────────── onFrameReturn ◀───────────────┘ -/

namespace ImxHal.Evs
open ImxHal.SlotTable

/-- `struct forwardframe`. -/
structure Forwardframe where
  buf : Option ℕ
  index : ℕ
  deviceid : String
  deriving DecidableEq

/-- Where the capture thread is: in `onFrameCollect` with the cameras still to come, or before
    `forwardFrame`. -/
inductive CaptureThread where
  | collecting (rest : List String) (frames : List Forwardframe)
  | forwarding (frames : List Forwardframe)

def CaptureThread.frames : CaptureThread → List Forwardframe
  | .collecting _ frames => frames
  | .forwarding frames => frames

/-- The capture, the counter, the capture thread and the sets of frames the client has. -/
structure Flow where
  session : Session
  mFramesInUse : ℕ
  thread : CaptureThread
  held : List (List Forwardframe)

inductive FlowEvent where
  | dequeue (outcome : Option ℕ)
  | forwardFrame (delivered : Bool) (qbuf : Queues)
  | doneWithFrame (k : ℕ) (qbuf : Queues)
  | setMaxFramesInFlight (bufferCount : ℕ) (qbuf : Queues)

def names (f : Flow) : List String := f.session.camera.mPhysicalCamera

/-- The next turn of the loop in `collectFrames`. -/
def restart (f : Flow) : Flow := { f with thread := .collecting (names f) [] }

/-- `onFrameCollect` returns; without a frame there is nothing to forward. -/
def collected (f : Flow) (frames : List Forwardframe) : Flow :=
  if frames = [] then restart f else { f with thread := .forwarding frames }

/-- The turn of one camera in `onFrameCollect`, with the buffer the driver returns, if it returns one. -/
def dequeue (outcome : Option ℕ) (f : Flow) : Option Flow :=
  match f.thread with
  | .forwarding _ => some f
  | .collecting [] frames => some (collected f frames)
  | .collecting (cam :: rest) frames =>
    let s := f.session.camera
    let fd := s.mDeviceFd cam
    match outcome with
    | none => some (collected f frames)
    | some index =>
      if fd < 0 then some (collected f frames)
      else if index ∉ s.queued fd then some f
      else (bufferAt s cam index).map fun buf =>
        let frames := frames ++ [⟨buf, index, cam⟩]
        let camera := { s with queued := Function.update s.queued fd ((s.queued fd).erase index) }
        { f with
          session := { f.session with camera := camera }
          thread := if rest = [] then .forwarding frames else .collecting rest frames }

/-- `onFrameReturn` for each frame, under the device id the caller passes. -/
def returnFrames (deviceid : Forwardframe → String) (qbuf : Queues) (frames : List Forwardframe)
    (v : Session) : Option Session :=
  frames.foldlM (fun v fr => exec (.onFrameReturn fr.index (deviceid fr) (qbuf fr.deviceid fr.index)) v) v

/-- A client of interface 1.1 gets all frames, one of 1.0 the first. -/
def forwardFrame (mStream_1_1 delivered : Bool) (qbuf : Queues) (f : Flow) : Option Flow :=
  match f.thread with
  | .collecting _ _ => some f
  | .forwarding frames =>
    if f.session.camera.mFramesAllowed < f.mFramesInUse then some (restart f)
    else
      let sent := if mStream_1_1 then frames else frames.take 1
      -- `fr.buf->width`
      if sent.any (·.buf.isNone) then none
      else
        let mFramesInUse := (f.mFramesInUse + 1) % 2 ^ 32
        if delivered then
          some (restart { f with mFramesInUse := mFramesInUse, held := f.held ++ [sent] })
        else (returnFrames Forwardframe.deviceid qbuf frames f.session).map fun v =>
          restart { f with mFramesInUse := mFramesInUse, session := v }

/-- `doneWithFrame` and `doneWithFrame_1_1` for the `k`-th set the client has. -/
def doneWithFrame (mStream_1_1 : Bool) (k : ℕ) (qbuf : Queues) (f : Flow) : Option Flow :=
  match f.held[k]? with
  | none => some f
  | some frames =>
    let deviceid := fun fr : Forwardframe => if mStream_1_1 then fr.deviceid else ""
    (returnFrames deviceid qbuf frames f.session).map fun v =>
      { f with session := v, mFramesInUse := decremented f.mFramesInUse, held := f.held.eraseIdx k }

def execFlow (mStream_1_1 : Bool) : FlowEvent → Flow → Option Flow
  | .dequeue outcome, f => dequeue outcome f
  | .forwardFrame delivered qbuf, f => forwardFrame mStream_1_1 delivered qbuf f
  | .doneWithFrame k qbuf, f => doneWithFrame mStream_1_1 k qbuf f
  | .setMaxFramesInFlight bufferCount qbuf, f =>
    (exec (.setMaxFramesInFlight bufferCount qbuf) f.session).map fun v => { f with session := v }

def stepFlow (mStream_1_1 : Bool) (s : Option Flow) (e : FlowEvent) : Option Flow :=
  s.bind (execFlow mStream_1_1 e)

def started (cams : Cameras) : Flow where
  session := opened cams
  mFramesInUse := 0
  thread := .collecting cams.names []
  held := []

/-! ### What is promised -/

/-- The v4l2 buffers of a camera among the frames. -/
def indicesOf (cam : String) (frames : List Forwardframe) : List ℕ :=
  (frames.filter (·.deviceid = cam)).map (·.index)

/-- Each mapped buffer is once in the driver's queue or among the frames that are out. -/
def Placed (s : V4l2Capture) (out : List Forwardframe) : Prop :=
  ∀ cam ∈ s.mPhysicalCamera,
    (s.queued (s.mDeviceFd cam) ++ indicesOf cam out).Perm (taken (s.mBufferMap cam))

/-- Every buffer is in one place, and the counter counts the sets the client has, no more than allowed. -/
structure FramesKept (f : Flow) : Prop where
  placed : Placed f.session.camera (f.thread.frames ++ f.held.flatten)
  counted : f.mFramesInUse = f.held.length
  bounded : f.held.length ≤ f.session.camera.mFramesAllowed

def FramesKeptBy (_ : Option Flow) (_ : FlowEvent) (s' : Option Flow) : Prop :=
  ∀ f, s' = some f → FramesKept f

def OneCamera (f : Flow) : Prop := ∃ cam, names f = [cam]

/-- The driver takes every buffer it is given. -/
def Accepts (qbuf : Queues) : Prop := ∀ cam index, qbuf cam index = true

/-- Every delivery arrives, a client of interface 1.0 has one camera, a frame is dropped only by a capture of
    one camera, and the number is raised only while no entry is null. -/
def Smooth (mStream_1_1 : Bool) (s : Option Flow) (e : FlowEvent) : Prop :=
  ∀ f, s = some f → match e with
    | .dequeue _ => True
    | .forwardFrame delivered _ => (∃ frames, f.thread = .forwarding frames) →
        delivered = true ∧ (mStream_1_1 = true ∨ OneCamera f)
    | .doneWithFrame _ qbuf => Accepts qbuf ∧ (0 < f.session.camera.mDecreasenum → OneCamera f)
    | .setMaxFramesInFlight bufferCount qbuf =>
        Accepts qbuf ∧ Undisturbed (some f.session) (.setMaxFramesInFlight bufferCount qbuf)

/-! ### Frames that are out -/

/-- The state with another queue for one camera. -/
def withQueue (s : V4l2Capture) (cam : String) (queue : List ℕ) : V4l2Capture :=
  { s with queued := Function.update s.queued (s.mDeviceFd cam) queue }

section Out
variable {cam : String} {fr : Forwardframe} {out out' : List Forwardframe} {s : V4l2Capture}

theorem indicesOf_append (cam : String) (out out' : List Forwardframe) :
    indicesOf cam (out ++ out') = indicesOf cam out ++ indicesOf cam out' := by
  rw [indicesOf, List.filter_append, List.map_append, ← indicesOf, ← indicesOf]

theorem indicesOf_cons_self (h : fr.deviceid = cam) :
    indicesOf cam (fr :: out) = fr.index :: indicesOf cam out := by
  rw [indicesOf, List.filter_cons_of_pos (by simpa using h), List.map_cons, ← indicesOf]

theorem indicesOf_cons_of_ne (h : fr.deviceid ≠ cam) : indicesOf cam (fr :: out) = indicesOf cam out := by
  rw [indicesOf, List.filter_cons_of_neg (by simpa using h), ← indicesOf]

theorem Placed.perm (h : Placed s out) (hperm : out'.Perm out) : Placed s out' := fun cam hcam =>
  (((hperm.filter _).map _).append_left _).trans (h cam hcam)

/-- A frame that is out is in no other place, so its buffer is mapped. -/
theorem Placed.mapped (h : Placed s (fr :: out)) (hcam : fr.deviceid ∈ s.mPhysicalCamera) :
    fr.index ∈ taken (s.mBufferMap fr.deviceid) := by
  refine (h _ hcam).mem_iff.mp (List.mem_append_right _ ?_)
  rw [indicesOf_cons_self rfl]
  exact List.mem_cons_self

/-- The queue of one camera changes, and with it what is out of that camera: together they hold the same
    frames as before. -/
theorem Placed.moved {queue : List ℕ} (h : Placed s out)
    (hdistinct : ∀ cam ∈ s.mPhysicalCamera, s.mDeviceFd cam = s.mDeviceFd fr.deviceid → cam = fr.deviceid)
    (hothers : ∀ cam, fr.deviceid ≠ cam → indicesOf cam out' = indicesOf cam out)
    (hsame : (queue ++ indicesOf fr.deviceid out').Perm
      (s.queued (s.mDeviceFd fr.deviceid) ++ indicesOf fr.deviceid out)) :
    Placed (withQueue s fr.deviceid queue) out' := by
  intro cam hcam
  have hold := h cam hcam
  change (Function.update s.queued (s.mDeviceFd fr.deviceid) queue (s.mDeviceFd cam) ++
    indicesOf cam out').Perm (taken (s.mBufferMap cam))
  rcases eq_or_ne fr.deviceid cam with rfl | hne
  · rw [Function.update_self]
    exact hsame.trans hold
  · rw [Function.update_of_ne fun heq => hne (hdistinct cam hcam heq).symm, hothers cam hne]
    exact hold

/-- A frame comes back to the queue. -/
theorem Placed.requeued (h : Placed s (fr :: out))
    (hdistinct : ∀ cam ∈ s.mPhysicalCamera, s.mDeviceFd cam = s.mDeviceFd fr.deviceid → cam = fr.deviceid) :
    Placed (withQueue s fr.deviceid (s.queued (s.mDeviceFd fr.deviceid) ++ [fr.index])) out := by
  refine h.moved hdistinct (fun cam hne => (indicesOf_cons_of_ne hne).symm) ?_
  rw [indicesOf_cons_self rfl, List.append_assoc]
  rfl

/-- A frame leaves the queue. -/
theorem Placed.dequeued (h : Placed s out) (hmem : fr.index ∈ s.queued (s.mDeviceFd fr.deviceid))
    (hdistinct : ∀ cam ∈ s.mPhysicalCamera, s.mDeviceFd cam = s.mDeviceFd fr.deviceid → cam = fr.deviceid) :
    Placed (withQueue s fr.deviceid ((s.queued (s.mDeviceFd fr.deviceid)).erase fr.index)) (fr :: out) := by
  refine h.moved hdistinct (fun cam hne => indicesOf_cons_of_ne hne) ?_
  rw [indicesOf_cons_self rfl]
  refine List.perm_middle.trans ?_
  exact (List.perm_cons_erase hmem).symm.append_right _

/-- A frame is dropped with its memory. -/
theorem Placed.dropped {k b : ℕ} (h : Placed s (fr :: out)) (hcam : s.mPhysicalCamera = [fr.deviceid])
    (hslot : (s.mBufferMap fr.deviceid)[fr.index]? = some (k : ℤ)) :
    Placed (dropped s fr.deviceid fr.index k b) out := by
  intro cam hmem
  obtain rfl : cam = fr.deviceid := by
    change cam ∈ s.mPhysicalCamera at hmem
    rw [hcam] at hmem
    exact List.mem_singleton.mp hmem
  have hold := h fr.deviceid hmem
  rw [indicesOf_cons_self rfl] at hold
  have hmap : (Evs.dropped s fr.deviceid fr.index k b).mBufferMap fr.deviceid =
      (s.mBufferMap fr.deviceid).set fr.index (-1) := Function.update_self ..
  rw [hmap]
  refine List.Perm.cons_inv (a := fr.index) ?_
  exact List.perm_middle.symm.trans (hold.trans (taken_set_free hslot (by omega)))

/-- A new buffer is queued with the entry it takes. -/
theorem Placed.given {qbuf : Queues} {n : String → ℕ} (h : Placed s out) (hready : Ready n s)
    (hcam : cam ∈ s.mPhysicalCamera) (hn : n cam < V4L2_BUFFER_NUM) (hq : Accepts qbuf) :
    Placed (given qbuf cam s) out := by
  intro cam' hcam'
  have hold := h cam' hcam'
  have hqueued : (Evs.given qbuf cam s).queued = Function.update s.queued (s.mDeviceFd cam)
      (s.queued (s.mDeviceFd cam) ++ [(s.mBufferMap cam).findIdx (· = -1)]) :=
    congrArg (Function.update s.queued (s.mDeviceFd cam)) (if_pos (hq cam _))
  have hfd : (Evs.given qbuf cam s).mDeviceFd cam' = s.mDeviceFd cam' := rfl
  rw [hqueued, hfd]
  rcases eq_or_ne cam' cam with rfl | hne
  · rw [Function.update_self, given_mBufferMap_self, List.append_assoc]
    refine List.perm_middle.trans (List.Perm.trans (hold.cons _) ?_)
    exact (taken_set (hready.free_entry hcam hn) (by omega)).symm
  · rw [given_mBufferMap_of_ne hne,
      Function.update_of_ne fun heq => hne (hready.distinct cam' hcam' cam hcam heq)]
    exact hold

end Out

/-! ### Calls on an open capture -/

/-- An open session whose buffers are in the queues or out. -/
structure Sound (names : List String) (out : List Forwardframe) (v : Session) : Prop where
  inv : Inv v
  opened : isOpen v.camera = true
  cameras : v.camera.mPhysicalCamera = names
  placed : Placed v.camera out

section Calls
variable {names : List String} {out : List Forwardframe} {v v' : Session} {qbuf : Queues}

theorem Sound.ready (h : Sound names out v) :
    names ≠ [] ∧ Ready (fun _ => v.camera.mFramesAllowed) v.camera := by
  rcases h.inv.cameras with ⟨hne, hready⟩ | hidle
  · exact ⟨h.cameras ▸ hne, hready⟩
  · have hopen := h.opened
    rw [hidle.isOpen] at hopen
    cases hopen

theorem Sound.perm {out' : List Forwardframe} (h : Sound names out v) (hperm : out'.Perm out) :
    Sound names out' v := { h with placed := h.placed.perm hperm }

theorem Sound.mapped {fr : Forwardframe} (h : Sound names (fr :: out) v) (hcam : fr.deviceid ∈ names) :
    fr.index < V4L2_BUFFER_NUM ∧ ∃ b, bufferAt v.camera fr.deviceid fr.index = some (some b) := by
  rw [← h.cameras] at hcam
  have hready := h.ready.2
  obtain ⟨k, hk, hne⟩ := mem_taken.mp (h.placed.mapped hcam)
  have hsize := hready.size _ hcam
  obtain ⟨b, hb⟩ := (hready.inStep _ hcam).held k (List.mem_of_getElem? hk) hne
  refine ⟨hsize ▸ (List.getElem?_eq_some_iff.mp hk).1, b, ?_⟩
  rw [bufferAt, hk]
  exact hb

/-- The device id the client passes leads to the camera of the frame. -/
def Names (names : List String) (deviceid : String) (fr : Forwardframe) : Prop :=
  fr.deviceid ∈ names ∧ (deviceid = fr.deviceid ∨ (deviceid = "" ∧ names = [fr.deviceid]))

theorem Names.devicename {fr : Forwardframe} {deviceid : String} {s : V4l2Capture}
    (h : Names names deviceid fr) (hcams : s.mPhysicalCamera = names) :
    devicename s deviceid = fr.deviceid := by
  rcases h with ⟨hmem, rfl | ⟨rfl, hone⟩⟩
  · match hs : s.mPhysicalCamera with
    | [cam] =>
      rw [← hcams, hs] at hmem
      rw [devicename_single hs (Or.inr (List.mem_singleton.mp hmem))]
      exact (List.mem_singleton.mp hmem).symm
    | [] => simp only [Evs.devicename, hs]
    | _ :: _ :: _ => simp only [Evs.devicename, hs]
  · exact devicename_single (hcams.trans hone) (Or.inl rfl)

/-- A returned frame goes back to the driver or is dropped. -/
theorem Sound.frameReturn {fr : Forwardframe} {deviceid : String} (h : Sound names (fr :: out) v)
    (hnames : Names names deviceid fr)
    (hdrop : 0 < v.camera.mDecreasenum → names = [fr.deviceid])
    (hrun : exec (.onFrameReturn fr.index deviceid true) v = some v') :
    Sound names out v' ∧ v'.camera.mDecreasenum ≤ v.camera.mDecreasenum := by
  have hc : Undisturbed (some v) (.onFrameReturn fr.index deviceid true) := by
    rintro w hw hpos
    obtain rfl := Option.some.inj hw
    refine ⟨fr.deviceid, h.cameras.trans (hdrop hpos), ?_⟩
    rcases hnames.2 with rfl | ⟨rfl, -⟩
    · exact Or.inr rfl
    · exact Or.inl rfl
  have hinv := (onFrameReturn_inv h.inv hc hrun).1
  have hready := h.ready.2
  have hdevice := hnames.devicename h.cameras
  obtain ⟨hlt, b, hb⟩ := h.mapped hnames.1
  have hcam : fr.deviceid ∈ v.camera.mPhysicalCamera := by rw [h.cameras]; exact hnames.1
  rw [exec] at hrun
  obtain ⟨r, hreturn, rfl⟩ := Option.map_eq_some_iff.mp hrun
  rw [onFrameReturn, if_neg (by omega), Int.toNat_natCast] at hreturn
  split_ifs at hreturn with hpos
  · obtain ⟨u, hdec, rfl⟩ := Option.map_eq_some_iff.mp hreturn
    have hone : v.camera.mPhysicalCamera = [fr.deviceid] := h.cameras.trans (hdrop hpos)
    obtain ⟨k, b', hslot, -, rfl⟩ := onDecreaseMemoryBuffer_single hready hone hdec
    exact ⟨⟨hinv, h.opened, h.cameras, h.placed.dropped (b := b') hone hslot⟩, Nat.sub_le _ _⟩
  · rw [hdevice, requeue, hb, Option.map_some] at hreturn
    have hfd : ¬ (v.camera.mDeviceFd fr.deviceid < 0 ∨ some b = none) := by
      simpa using hready.valid _ hcam
    simp only [hfd, if_false, if_true] at hreturn
    obtain rfl := Option.some.inj hreturn
    refine ⟨⟨hinv, h.opened, h.cameras, ?_⟩, le_rfl⟩
    exact h.placed.requeued fun cam' hcam' heq => hready.distinct cam' hcam' _ hcam heq

/-- All frames of a set come back. -/
theorem Sound.returnFrames {deviceid : Forwardframe → String} {frames : List Forwardframe}
    (hq : Accepts qbuf) (h : Sound names (frames ++ out) v)
    (hnames : ∀ fr ∈ frames, Names names (deviceid fr) fr)
    (hdrop : 0 < v.camera.mDecreasenum → ∃ cam, names = [cam])
    (hrun : returnFrames deviceid qbuf frames v = some v') : Sound names out v' := by
  induction frames generalizing v with
  | nil =>
    obtain rfl := Option.some.inj hrun
    exact h
  | cons fr frames ih =>
    rw [Evs.returnFrames, List.foldlM_cons] at hrun
    obtain ⟨w, hfirst, hrest⟩ := Option.bind_eq_some_iff.mp hrun
    have hfr := hnames fr List.mem_cons_self
    have hone : 0 < v.camera.mDecreasenum → names = [fr.deviceid] := fun hpos => by
      obtain ⟨cam, hcam⟩ := hdrop hpos
      have hmem := hfr.1
      rw [hcam] at hmem ⊢
      rw [List.mem_singleton.mp hmem]
    rw [hq] at hfirst
    obtain ⟨hw, hle⟩ := h.frameReturn hfr hone hfirst
    exact ih hw (fun fr' hfr' => hnames fr' (List.mem_cons_of_mem fr hfr'))
      (fun hpos => hdrop (by omega)) hrest

/-- A call for another number leaves every frame that is out where it is. -/
theorem Sound.setMaxFramesInFlight {bufferCount : ℕ} (h : Sound names out v) (hq : Accepts qbuf)
    (hc : Undisturbed (some v) (.setMaxFramesInFlight bufferCount qbuf))
    (hrun : exec (.setMaxFramesInFlight bufferCount qbuf) v = some v') : Sound names out v' := by
  have hinv := (exec_kept h.inv hc hrun).1
  rw [exec] at hrun
  rcases hwait : v.waiting with _ | _
  swap
  · rw [if_pos hwait] at hrun
    exact Option.some.inj hrun ▸ h
  rw [if_neg (by rw [hwait]; decide)] at hrun
  obtain ⟨r, hset, rfl⟩ := Option.map_eq_some_iff.mp hrun
  rw [Evs.setMaxFramesInFlight, if_neg (by rw [h.opened]; decide)] at hset
  split_ifs at hset with hone hmax hraise hlower
  · obtain rfl := Option.some.inj hset
    exact ⟨hinv, h.opened, h.cameras, h.placed⟩
  · obtain rfl := Option.some.inj hset
    exact ⟨hinv, h.opened, h.cameras, h.placed⟩
  · obtain ⟨⟨t, code⟩, hinc, rfl⟩ := Option.map_eq_some_iff.mp hset
    have hgrows : Grows qbuf fun s => Placed s out ∧ s.mDeviceFd = v.camera.mDeviceFd :=
      ⟨fun hready hcam hn hs => ⟨hs.1.given hready hcam hn hq, hs.2⟩, fun _ hs => hs⟩
    have hlevel : Level (fun s => Placed s out ∧ s.mDeviceFd = v.camera.mDeviceFd)
        v.camera.mPhysicalCamera v.camera.mFramesAllowed v.camera :=
      ⟨rfl, h.ready.2, hc v rfl h.opened hwait (not_lt.mp hmax) hraise, rfl, h.placed, rfl⟩
    obtain ⟨hlevel', -⟩ := onIncreaseMemoryBuffer_some hgrows hlevel hraise.le (not_lt.mp hmax) hinc
    obtain ⟨hplaced, hfd⟩ := hlevel'.more
    refine ⟨hinv, ?_, hlevel'.cameras.trans h.cameras, hplaced⟩
    rw [isOpen_iff]
    intro cam hcam
    rw [hlevel'.cameras] at hcam
    rw [hfd]
    exact (isOpen_iff _).mp h.opened cam hcam
  · obtain rfl := Option.some.inj hset
    exact ⟨hinv, h.opened, h.cameras, h.placed⟩
  · obtain rfl := Option.some.inj hset
    exact ⟨hinv, h.opened, h.cameras, h.placed⟩

end Calls

/-! ### Runs -/

/-- The frames come from the first cameras, each from another one. -/
def FromCameras (names : List String) (frames : List Forwardframe) : Prop :=
  frames.map (·.deviceid) <+: names

/-- The frames the thread has are those of the cameras before the ones still to come. -/
def InTurn (names : List String) : CaptureThread → Prop
  | .collecting rest frames => frames.map (·.deviceid) ++ rest = names
  | .forwarding frames => frames ≠ [] ∧ FromCameras names frames

/-- A client of interface 1.0 has frames of one camera only. -/
structure FlowInv (mStream_1_1 : Bool) (f : Flow) : Prop where
  sound : Sound (names f) (f.thread.frames ++ f.held.flatten) f.session
  thread : InTurn (names f) f.thread
  sets : ∀ set ∈ f.held, set ≠ [] ∧ FromCameras (names f) set
  stream : f.held ≠ [] → mStream_1_1 = true ∨ OneCamera f
  counted : f.mFramesInUse = f.held.length

theorem InTurn.fromCameras {names : List String} {thread : CaptureThread} (h : InTurn names thread) :
    FromCameras names thread.frames := by
  cases thread with
  | collecting rest frames => exact ⟨rest, h⟩
  | forwarding frames => exact h.2

theorem FromCameras.mem {names : List String} {frames : List Forwardframe} {fr : Forwardframe}
    (h : FromCameras names frames) (hfr : fr ∈ frames) : fr.deviceid ∈ names :=
  h.subset (List.mem_map_of_mem hfr)

/-- With one camera there is one frame. -/
theorem FromCameras.single {cam : String} {frames : List Forwardframe} (h : FromCameras [cam] frames)
    (hne : frames ≠ []) : ∃ fr, frames = [fr] ∧ fr.deviceid = cam := by
  match frames, hne with
  | [fr], _ =>
    have hmem := h.mem (List.mem_singleton_self fr)
    exact ⟨fr, rfl, List.mem_singleton.mp hmem⟩
  | fr :: fr' :: frames, _ =>
    have hlen := h.length_le
    simp at hlen

/-- Each set has a frame of the first camera. -/
theorem length_le_indicesOf {cam : String} {rest : List String} {held : List (List Forwardframe)}
    (h : ∀ set ∈ held, set ≠ [] ∧ FromCameras (cam :: rest) set) :
    held.length ≤ (indicesOf cam held.flatten).length := by
  induction held with
  | nil => exact Nat.zero_le _
  | cons set held ih =>
    have hrest := ih fun set' hset' => h set' (List.mem_cons_of_mem set hset')
    obtain ⟨hne, hfrom⟩ := h set List.mem_cons_self
    obtain ⟨fr, frames, rfl⟩ := List.exists_cons_of_ne_nil hne
    have hcam : fr.deviceid = cam := (List.cons_prefix_cons.mp hfrom).1
    rw [List.flatten_cons, indicesOf_append, indicesOf_cons_self hcam, List.length_append,
      List.length_cons, List.length_cons]
    omega

section Steps
variable {mStream_1_1 delivered : Bool} {qbuf : Queues} {f f' : Flow}

/-- There are no more sets with the client than the first camera has buffers. -/
theorem FlowInv.bounded (h : FlowInv mStream_1_1 f) :
    f.held.length ≤ f.session.camera.mFramesAllowed := by
  obtain ⟨hne, hready⟩ := h.sound.ready
  obtain ⟨cam, rest, hnames⟩ := List.exists_cons_of_ne_nil hne
  have hcam : cam ∈ f.session.camera.mPhysicalCamera := by
    rw [h.sound.cameras, hnames]
    exact List.mem_cons_self
  have hlen := (h.sound.placed cam hcam).length_eq
  rw [length_taken, hready.count cam hcam, indicesOf_append, List.length_append, List.length_append] at hlen
  have hsets := h.sets
  rw [hnames] at hsets
  have := length_le_indicesOf hsets
  omega

theorem FlowInv.kept (h : FlowInv mStream_1_1 f) : FramesKept f := ⟨h.sound.placed, h.counted, h.bounded⟩

theorem collected_inv (h : FlowInv mStream_1_1 f) : FlowInv mStream_1_1 (collected f f.thread.frames) := by
  rw [collected]
  split_ifs with hnil
  · have hsound := h.sound
    rw [hnil] at hsound
    exact ⟨hsound, List.nil_append _, h.sets, h.stream, h.counted⟩
  · exact ⟨h.sound, ⟨hnil, h.thread.fromCameras⟩, h.sets, h.stream, h.counted⟩

theorem dequeue_inv {outcome : Option ℕ} (h : FlowInv mStream_1_1 f)
    (hrun : dequeue outcome f = some f') : FlowInv mStream_1_1 f' := by
  have hstop := collected_inv h
  rw [dequeue] at hrun
  rcases hthread : f.thread with ⟨_ | ⟨cam, rest⟩, frames⟩ | frames
  · rw [hthread] at hrun hstop
    exact Option.some.inj hrun ▸ hstop
  · rw [hthread] at hrun hstop
    rcases outcome with _ | index
    · exact Option.some.inj hrun ▸ hstop
    have hsound := h.sound
    have hturn := h.thread
    rw [hthread] at hsound hturn
    have hcam : cam ∈ f.session.camera.mPhysicalCamera := by
      rw [h.sound.cameras, ← hturn]
      exact List.mem_append_right _ List.mem_cons_self
    have hready := hsound.ready.2
    dsimp only at hrun
    rw [if_neg (not_lt.mpr (hready.valid cam hcam))] at hrun
    set queue := f.session.camera.queued (f.session.camera.mDeviceFd cam) with hset
    rcases Classical.em (index ∈ queue) with hqueue | hqueue
    swap
    · rw [if_pos hqueue] at hrun
      exact Option.some.inj hrun ▸ h
    rw [if_neg (not_not.mpr hqueue)] at hrun
    obtain ⟨buf, -, rfl⟩ := Option.map_eq_some_iff.mp hrun
    have hplaced : Placed _ (⟨buf, index, cam⟩ :: (frames ++ f.held.flatten)) :=
      hsound.placed.dequeued hqueue fun cam' hcam' heq => hready.distinct cam' hcam' cam hcam heq
    have hout : Placed (withQueue f.session.camera cam (queue.erase index))
        ((frames ++ [⟨buf, index, cam⟩]) ++ f.held.flatten) := by
      refine hplaced.perm ?_
      rw [List.append_assoc]
      exact List.perm_middle
    have hfrom : (frames ++ [Forwardframe.mk buf index cam]).map (·.deviceid) ++ rest = names f := by
      rw [List.map_append, List.append_assoc]
      exact hturn
    rcases rest with _ | ⟨cam', rest⟩
    · exact ⟨⟨hsound.inv.queued _, hsound.opened, hsound.cameras, hout⟩, ⟨by simp, ⟨[], hfrom⟩⟩, h.sets,
        h.stream, h.counted⟩
    · exact ⟨⟨hsound.inv.queued _, hsound.opened, hsound.cameras, hout⟩, hfrom, h.sets, h.stream,
        h.counted⟩
  · rw [hthread] at hrun
    exact Option.some.inj hrun ▸ h

/-- Every frame of the set goes out, and the thread never skips. -/
theorem forwardFrame_inv (h : FlowInv mStream_1_1 f)
    (hc : Smooth mStream_1_1 (some f) (.forwardFrame delivered qbuf))
    (hrun : forwardFrame mStream_1_1 delivered qbuf f = some f') : FlowInv mStream_1_1 f' := by
  rw [forwardFrame] at hrun
  rcases hthread : f.thread with ⟨rest, frames⟩ | frames
  · rw [hthread] at hrun
    exact Option.some.inj hrun ▸ h
  · have hturn := h.thread
    have hsound := h.sound
    rw [hthread] at hrun hturn hsound
    obtain ⟨rfl, hstream⟩ := hc f rfl ⟨frames, hthread⟩
    have hbounded := h.bounded
    have hallowed := h.sound.inv.allowed
    have hcounted := h.counted
    have hsent : (if mStream_1_1 then frames else frames.take 1) = frames := by
      rcases hstream with rfl | ⟨cam, hcam⟩
      · rfl
      · rw [hcam] at hturn
        obtain ⟨fr, rfl, -⟩ := hturn.2.single hturn.1
        exact ite_self _
    simp only [hsent, if_true] at hrun
    split_ifs at hrun with hskip hnull
    · omega
    · rw [V4L2_BUFFER_NUM] at hallowed
      obtain rfl := Option.some.inj hrun
      refine ⟨hsound.perm ?_, List.nil_append _, fun set hset => ?_, fun _ => hstream, ?_⟩
      · change ([] ++ (f.held ++ [frames]).flatten).Perm _
        rw [List.nil_append, List.flatten_append, List.flatten_singleton]
        exact List.perm_append_comm
      · rcases List.mem_append.mp hset with hset | hset
        · exact h.sets set hset
        · rw [List.mem_singleton.mp hset]
          exact hturn
      · change (f.mFramesInUse + 1) % 2 ^ 32 = (f.held ++ [frames]).length
        rw [List.length_append, List.length_singleton, ← hcounted]
        exact Nat.mod_eq_of_lt (by omega)

/-- A set the client returns is one less to count, and its frames are in the queues again or dropped. -/
theorem doneWithFrame_inv {k : ℕ} (h : FlowInv mStream_1_1 f)
    (hc : Smooth mStream_1_1 (some f) (.doneWithFrame k qbuf))
    (hrun : doneWithFrame mStream_1_1 k qbuf f = some f') : FlowInv mStream_1_1 f' := by
  obtain ⟨hq, hdrop⟩ := hc f rfl
  rw [doneWithFrame] at hrun
  rcases hset : f.held[k]? with _ | frames
  · rw [hset] at hrun
    exact Option.some.inj hrun ▸ h
  rw [hset] at hrun
  obtain ⟨v, hreturn, rfl⟩ := Option.map_eq_some_iff.mp hrun
  have hmem : frames ∈ f.held := List.mem_of_getElem? hset
  obtain ⟨hlt, hget⟩ := List.getElem?_eq_some_iff.mp hset
  have hfrom := (h.sets frames hmem).2
  have hperm : (frames ++ (f.thread.frames ++ (f.held.eraseIdx k).flatten)).Perm
      (f.thread.frames ++ f.held.flatten) := by
    have hsplit : (frames :: f.held.eraseIdx k).Perm f.held := by
      rw [← hget]
      exact List.getElem_cons_eraseIdx_perm hlt
    have hflat := hsplit.flatten
    rw [List.flatten_cons] at hflat
    rw [← List.append_assoc]
    refine (List.perm_append_comm.append_right _).trans ?_
    rw [List.append_assoc]
    exact hflat.append_left _
  have hnames : ∀ fr ∈ frames, Names (names f) (if mStream_1_1 then fr.deviceid else "") fr := by
    intro fr hfr
    refine ⟨hfrom.mem hfr, ?_⟩
    rcases h.stream (List.ne_nil_of_mem hmem) with rfl | ⟨cam, hcam⟩
    · exact Or.inl rfl
    · rcases mStream_1_1 with _ | _
      · have hdev := hfrom.mem hfr
        rw [hcam] at hdev ⊢
        exact Or.inr ⟨rfl, by rw [List.mem_singleton.mp hdev]⟩
      · exact Or.inl rfl
  have hsound := (h.sound.perm hperm).returnFrames hq hnames hdrop hreturn
  have hsame : v.camera.mPhysicalCamera = names f := hsound.cameras
  refine ⟨?_, ?_, fun set hmem' => ?_, fun hne => ?_, ?_⟩
  · rw [← hsame] at hsound
    exact hsound
  · change InTurn v.camera.mPhysicalCamera f.thread
    rw [hsame]
    exact h.thread
  · change set ≠ [] ∧ FromCameras v.camera.mPhysicalCamera set
    rw [hsame]
    exact h.sets set (List.mem_of_mem_eraseIdx hmem')
  · change mStream_1_1 = true ∨ ∃ cam, v.camera.mPhysicalCamera = [cam]
    rw [hsame]
    exact h.stream (List.ne_nil_of_mem hmem)
  · change decremented f.mFramesInUse = (f.held.eraseIdx k).length
    have hbounded := h.bounded
    have hallowed := h.sound.inv.allowed
    rw [List.length_eraseIdx_of_lt hlt, h.counted, decremented_of_pos (by omega) (by omega)]

theorem execFlow_inv {e : FlowEvent} (h : FlowInv mStream_1_1 f) (hc : Smooth mStream_1_1 (some f) e)
    (hrun : execFlow mStream_1_1 e f = some f') : FlowInv mStream_1_1 f' := by
  cases e with
  | dequeue outcome => exact dequeue_inv h hrun
  | forwardFrame delivered qbuf => exact forwardFrame_inv h hc hrun
  | doneWithFrame k qbuf => exact doneWithFrame_inv h hc hrun
  | setMaxFramesInFlight bufferCount qbuf =>
    obtain ⟨hq, hundisturbed⟩ := hc f rfl
    obtain ⟨v, hset, rfl⟩ := Option.map_eq_some_iff.mp hrun
    have hsound := h.sound.setMaxFramesInFlight hq hundisturbed hset
    have hsame : v.camera.mPhysicalCamera = names f := hsound.cameras
    rw [← hsame] at hsound
    refine ⟨hsound, ?_, ?_, ?_, h.counted⟩
    · change InTurn v.camera.mPhysicalCamera f.thread
      rw [hsame]
      exact h.thread
    · change ∀ set ∈ f.held, set ≠ [] ∧ FromCameras v.camera.mPhysicalCamera set
      rw [hsame]
      exact h.sets
    · change f.held ≠ [] → mStream_1_1 = true ∨ ∃ cam, v.camera.mPhysicalCamera = [cam]
      rw [hsame]
      exact h.stream

end Steps

theorem started_inv (mStream_1_1 : Bool) (cams : Cameras) : FlowInv mStream_1_1 (started cams) := by
  have hopen : isOpen (opened cams).camera = true := by
    rw [isOpen_iff]
    intro cam hcam
    have hfd : (opened cams).camera.mDeviceFd cam = cams.fd cam := if_pos hcam
    rw [hfd]
    exact cams.valid cam hcam
  have hplaced : Placed (opened cams).camera [] := by
    intro cam hcam
    have hmap : (opened cams).camera.mBufferMap cam = List.replicate V4L2_BUFFER_NUM (-1) := if_pos hcam
    rw [hmap]
    exact List.Perm.refl _
  refine ⟨⟨opened_inv cams, hopen, rfl, hplaced⟩, rfl, fun set hset => ?_, fun hne => absurd rfl hne, rfl⟩
  exact absurd hset List.not_mem_nil

/-- One buffer, whose frame is delivered, returned and delivered again. -/
def roundTrip : List FlowEvent :=
  [.setMaxFramesInFlight 1 fun _ _ => true, .dequeue (some 0), .forwardFrame true fun _ _ => true,
    .doneWithFrame 0 fun _ _ => true, .dequeue (some 0), .forwardFrame true fun _ _ => true]

end ImxHal.Evs
