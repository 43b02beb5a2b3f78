import Mathlib.Data.List.Sort
import Mathlib.Data.BitVec
import ImxHal.Schemes.Run

/-! @src camera/camera/CameraDeviceSessionHWLImpl.cpp, camera/camera/CameraDeviceSessionHWLImpl.h |
    name:CameraDeviceSessionHwlImpl | scheme:run | family:producer-consumer

    A camera session answers capture requests with two threads. `SubmitRequests` copies the requests of
    a frame to a vector and puts it in `map_frame_request`; the work thread takes the lowest frame,
    starts the stream, captures a v4l2 buffer for each request and feeds it to the image thread, which
    draws the output buffers, answers the request and releases it:

        SubmitRequests ──▶ map_frame_request ──▶ HandleRequest ──feed──▶ mImageList ──▶ HandleImage
          mInQueRequestIdx++                     mDeQueRequestIdx++                     mProcdImageIdx++
                                                                 mLatestImageIdx++

    The threads meet at the map and the list, each under its lock, and at the counters. What a thread
    does between two locks concerns only the request it holds. -/

namespace ImxHal.CameraSession
open ImxHal.Run

/-- A request of a call: the frame number, and the vector and place it was copied to. -/
structure ReqId where
  frame : ℕ
  vector : ℕ
  idx : ℕ
  deriving DecidableEq

/-- A fence descriptor made by `importFence`, by the output buffer it came with. -/
structure Fence where
  vector : ℕ
  idx : ℕ
  buffer : ℕ
  deriving DecidableEq

/-- What a session does that its surroundings see. -/
inductive Event where
  | allocated (vector : ℕ)
  | submitted (r : ReqId)
  | imported (fence : Fence)
  | acquired (buffer : ℕ)
  | shutter (r : ReqId)
  | result (r : ReqId)
  | physicalResult (r : ReqId)
  | error (r : ReqId)
  | closed (fence : Fence)
  | returned (buffer : ℕ)
  | deleted (vector : ℕ)
  deriving DecidableEq

/-- The callbacks of a pipeline that are set. -/
structure Callbacks where
  notify : Bool
  process_pipeline_result : Bool

/-- The configured session: its pipelines, the physical camera of a configured stream, and which
    physical cameras have a video stream. `first` is the one of `pVideoStreams[0]`. -/
structure Camera where
  is_logical_request : Bool
  pipelines : ℕ → Option Callbacks
  streams : ℕ → Option ℕ
  videoStreams : ℕ → Bool
  first : ℕ
  camera_id : ℕ
  camera_ids : List ℕ

/-- An output buffer of a request as the caller hands it over. -/
structure StreamBuffer where
  stream_id : ℕ
  has_fence : Bool

/-- `HwlPipelineRequest`. -/
structure PipelineRequest where
  pipeline_id : ℕ
  output_buffers : List StreamBuffer

/-- An output buffer of the copy, with the fence that is still open. -/
structure OutBuffer where
  stream_id : ℕ
  acquire_fence : Option Fence

structure FrameRequest where
  id : ReqId
  num : ℕ
  pipeline_id : ℕ
  output_buffers : List OutBuffer

/-- A v4l2 buffer and the physical camera it was captured with. -/
structure Shot where
  physical : ℕ
  buffer : ℕ

/-- The member of `ImageFeed` that `is_logical_request_` selects. -/
inductive Captured where
  | v4l2Buffer (buffer : Option ℕ)
  | v4l2BufferList (shots : List Shot)

structure ImageFeed where
  request : FrameRequest
  captured : Captured

/-- Where the image thread is: it waits, holds a feed, or has counted one and will release it. With
    `errorDue` it notifies an error first. -/
inductive ImagePhase where
  | idle
  | holding (f : ImageFeed)
  | counted (f : ImageFeed) (errorDue : Bool)

/-- `work` is what is left of the vector the work thread took. `vectors` and `buffers` number the
    vectors allocated and the v4l2 buffers acquired so far. -/
structure Session where
  map_frame_request : List (ℕ × List FrameRequest)
  mInQueRequestIdx : BitVec 64
  mDeQueRequestIdx : BitVec 64
  work : Option (List FrameRequest)
  exited : Bool
  mImageList : List ImageFeed
  mLatestImageIdx : BitVec 64
  mProcdImageIdx : BitVec 64
  image : ImagePhase
  vectors : ℕ
  buffers : ℕ
  log : List Event

def Session.new : Session := ⟨[], 0, 0, none, false, [], 0, 0, .idle, 0, 0, []⟩

/-! ### SubmitRequests -/

/-- The copy of an output buffer, its fence imported. -/
def StreamBuffer.copy (id : ReqId) (b : StreamBuffer) (j : ℕ) : OutBuffer :=
  ⟨b.stream_id, if b.has_fence then some ⟨id.vector, id.idx, j⟩ else none⟩

def PipelineRequest.copy (frame vector num : ℕ) (r : PipelineRequest) (i : ℕ) : FrameRequest where
  id := ⟨frame, vector, i⟩
  num := num
  pipeline_id := r.pipeline_id
  output_buffers := r.output_buffers.zipIdx.map fun p => p.1.copy ⟨frame, vector, i⟩ p.2

/-- The vector a call copies its requests to. -/
def copies (frame vector : ℕ) (requests : List PipelineRequest) : List FrameRequest :=
  requests.zipIdx.map fun p => p.1.copy frame vector requests.length p.2

/-- The descriptors of a request that are open. -/
def FrameRequest.fences (r : FrameRequest) : List Fence := r.output_buffers.filterMap OutBuffer.acquire_fence

/-- `map_frame_request[frame] = request`: the map is in the order of its keys, and a key has one
    entry. -/
def insertFrame (frame : ℕ) (request : List FrameRequest) (entries : List (ℕ × List FrameRequest)) :
    List (ℕ × List FrameRequest) :=
  (entries.filter fun e => e.1 ≠ frame).orderedInsert (fun e e' => e.1 ≤ e'.1) (frame, request)

def Session.submitRequests (s : Session) (frame : ℕ) (requests : List PipelineRequest) : Session :=
  let request := copies frame s.vectors requests
  { s with
    map_frame_request := insertFrame frame request s.map_frame_request
    mInQueRequestIdx := s.mInQueRequestIdx + 1
    vectors := s.vectors + 1
    log := s.log ++ (.allocated s.vectors :: request.flatMap fun r =>
      .submitted r.id :: r.fences.map .imported) }

/-! ### HandleRequest -/

/-- The start of `HandleRequest`: the lowest frame leaves the map. -/
def Session.takeRequest (s : Session) : Session :=
  if s.exited || s.work.isSome then s
  else
    match s.map_frame_request with
    | [] => s
    | e :: rest => { s with map_frame_request := rest, work := some e.2 }

/-- How the steps of the work thread turn out that depend on the device: the start of the stream, what
    `onFrameAcquire` returns for each physical camera, and the allocation of the feed. -/
structure Outcome where
  started : Bool
  grabs : ℕ → Bool
  allocated : Bool

/-- The loop of `CapAndFeed` over the output buffers of a logical request: one buffer for each physical
    camera, and whether it ended well. -/
def Camera.capture (cam : Camera) (o : Outcome) (next : ℕ) : List OutBuffer → List Shot → List Shot × Bool
  | [], shots => (shots, true)
  | b :: bs, shots =>
    match cam.streams b.stream_id with
    | none => (shots, false)
    | some physical =>
      if shots.any fun shot => shot.physical = physical then cam.capture o next bs shots
      else if !cam.videoStreams physical then (shots, false)
      else if !o.grabs physical then (shots, false)
      else cam.capture o next bs (shots ++ [⟨physical, next + shots.length⟩])

/-- What `CapAndFeed` captures. Outside a logical request a missing buffer is fed as it is. -/
def Camera.acquire (cam : Camera) (o : Outcome) (next : ℕ) (r : FrameRequest) : Captured × Bool :=
  if cam.is_logical_request then
    let (shots, ok) := cam.capture o next r.output_buffers []
    (.v4l2BufferList shots, ok)
  else (.v4l2Buffer (if o.grabs cam.first then some next else none), true)

/-- The v4l2 buffers captured. -/
def Captured.buffers : Captured → List ℕ
  | .v4l2Buffer buffer => buffer.toList
  | .v4l2BufferList shots => shots.map Shot.buffer

def Session.feed (s : Session) (f : ImageFeed) : Session :=
  { s with mImageList := s.mImageList ++ [f], mLatestImageIdx := s.mLatestImageIdx + 1 }

/-- `CapAndFeed`, and whether it returned 0. -/
def Session.capAndFeed (s : Session) (cam : Camera) (o : Outcome) (r : FrameRequest) : Session × Bool :=
  let (captured, ok) := cam.acquire o s.buffers r
  let s := { s with
    buffers := s.buffers + captured.buffers.length
    log := s.log ++ captured.buffers.map .acquired }
  if ok && o.allocated then (s.feed ⟨r, captured⟩, true) else (s, false)

/-- `ReleaseFrameRequest`: the descriptors still open are closed. -/
def Session.releaseFrameRequest (s : Session) (r : FrameRequest) : Session :=
  { s with log := s.log ++ r.fences.map .closed }

/-- One turn of the loop of `HandleRequest`. An unknown pipeline is passed over; a stream that does not
    start ends `HandleRequest` with an error, and with it the thread. -/
def Session.serve (s : Session) (cam : Camera) (o : Outcome) : Session :=
  match s.work with
  | some (r :: rest) =>
    match cam.pipelines r.pipeline_id with
    | none => { s with work := some rest }
    | some _ =>
      if !o.started then { s with work := none, exited := true }
      else
        match { s with work := some rest }.capAndFeed cam o r with
        | (s, true) => s
        | (s, false) => s.releaseFrameRequest r
  | _ => s

/-- The end of `HandleRequest`. -/
def Session.finish (s : Session) : Session :=
  match s.work with
  | some [] => { s with work := none, mDeQueRequestIdx := s.mDeQueRequestIdx + 1 }
  | _ => s

/-! ### HandleImage -/

def Session.takeImage (s : Session) : Session :=
  match s.image, s.mImageList with
  | .idle, f :: rest => { s with mImageList := rest, image := .holding f }
  | _, _ => s

/-- The output buffer is drawn from a captured one, once its fence is waited for and closed. -/
def Camera.draws (cam : Camera) (captured : Captured) (b : OutBuffer) : Bool :=
  match captured with
  | .v4l2Buffer _ => true
  | .v4l2BufferList shots =>
    (cam.streams b.stream_id).any fun physical => shots.any fun shot => shot.physical = physical

/-- The descriptors closed while the image is processed, and the request after it. -/
def Camera.drawn (cam : Camera) (f : ImageFeed) : List Fence :=
  (f.request.output_buffers.filter (cam.draws f.captured)).filterMap OutBuffer.acquire_fence

def Camera.afterDraw (cam : Camera) (f : ImageFeed) : FrameRequest :=
  { f.request with
    output_buffers := f.request.output_buffers.map fun b =>
      if (cam.draws f.captured b) then { b with acquire_fence := none } else b }

/-- With an output for another camera than the logical one, each output buffer has a result of its
    own. -/
def Camera.physicalResults (cam : Camera) (r : FrameRequest) : List Event :=
  if cam.is_logical_request &&
      (List.range r.output_buffers.length).any fun j => cam.camera_ids.getD j cam.camera_id ≠ cam.camera_id
  then List.replicate r.output_buffers.length (.physicalResult r.id)
  else []

/-- The events of a callback, where it is set. -/
def Event.when (isSet : Bool) (es : List Event) : List Event := if isSet then es else []

/-- `HandleImage` from the lookup of the pipeline to the counting of the image. -/
def Session.processImage (s : Session) (cam : Camera) : Session :=
  match s.image with
  | .holding f =>
    match cam.pipelines f.request.pipeline_id with
    | none => { s with image := .idle }
    | some callback =>
      match f.captured with
      | .v4l2Buffer none =>
        { s with mProcdImageIdx := s.mProcdImageIdx + 1, image := .counted f callback.notify }
      | captured =>
        { s with
          mProcdImageIdx := s.mProcdImageIdx + 1
          image := .counted { f with request := cam.afterDraw f } false
          log := s.log ++ (Event.when callback.notify [.shutter f.request.id]
            ++ (cam.drawn f).map .closed ++ captured.buffers.map .returned
            ++ Event.when callback.process_pipeline_result
              (cam.physicalResults f.request ++ [.result f.request.id])) }
  | _ => s

/-- The last request of the vector reached the image thread. -/
def FrameRequest.last (r : FrameRequest) : Bool := r.id.idx + 1 = r.num

/-- The end of `HandleImage`: the error of a missing buffer, then `releaseImgFeed`. -/
def Session.releaseImgFeed (s : Session) : Session :=
  match s.image with
  | .counted f errorDue =>
    { s with
      image := .idle
      log := s.log ++ (Event.when errorDue [.error f.request.id] ++ f.request.fences.map .closed
        ++ Event.when f.request.last [.deleted f.request.id.vector]) }
  | _ => s

/-! ### Runs -/

inductive Act where
  | submitRequests (frame : ℕ) (requests : List PipelineRequest)
  | takeRequest
  | serve (o : Outcome)
  | finish
  | takeImage
  | processImage
  | releaseImgFeed

def step (cam : Camera) (s : Session) : Act → Session
  | .submitRequests frame requests => s.submitRequests frame requests
  | .takeRequest => s.takeRequest
  | .serve o => s.serve cam o
  | .finish => s.finish
  | .takeImage => s.takeImage
  | .processImage => s.processImage cam
  | .releaseImgFeed => s.releaseImgFeed

/-- Both threads wait, and there is nothing for them in the map and the list. -/
def Session.Drained (s : Session) : Prop :=
  s.map_frame_request = [] ∧ s.work = none ∧ s.mImageList = [] ∧ s.image = .idle

/-- A camera with one pipeline, its callbacks set, and one stream. -/
def oneStream : Camera where
  is_logical_request := false
  pipelines := fun id => if id = 0 then some ⟨true, true⟩ else none
  streams := fun id => if id = 0 then some 0 else none
  videoStreams := fun physical => physical = 0
  first := 0
  camera_id := 0
  camera_ids := [0]

/-- A request for one buffer of the stream, with a fence. -/
def preview : PipelineRequest := ⟨0, [⟨0, true⟩]⟩

end ImxHal.CameraSession
