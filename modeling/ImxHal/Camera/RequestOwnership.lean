import ImxHal.Schemes.Duties
import ImxHal.Camera.Session

/-! @src camera/camera/CameraDeviceSessionHWLImpl.cpp (HandleRequest, CapAndFeed, HandleImage,
    releaseImgFeed) | name:request ownership | scheme:duties | family:resource ownership

    A request handed to `SubmitRequests` is owed an answer, its fences a close and its vector a delete,
    and so is every v4l2 buffer captured for it a return. The duties travel with the request through
    the map, the hands of the work thread, the list and the hands of the image thread:

        map_frame_request ──▶ work ──▶ mImageList ──▶ image
                               │                       ├──▶ shutter + result, or error
                               ▼                       ├──▶ fences closed, buffers returned
                             lost                      └──▶ vector deleted, with its last request

    Only the image thread answers and deletes, so a request that does not reach it keeps its duties. -/

namespace ImxHal.CameraSession
open ImxHal.Run ImxHal.Duties

/-- What the session owes: both halves of an answer, a close, a delete, a return. -/
inductive Item where
  | shutter (r : ReqId)
  | result (r : ReqId)
  | fence (x : Fence)
  | vector (v : ℕ)
  | buffer (b : ℕ)
  deriving DecidableEq

def Event.incurs : Event → List Item
  | .allocated v => [.vector v]
  | .submitted r => [.shutter r, .result r]
  | .imported x => [.fence x]
  | .acquired b => [.buffer b]
  | _ => []

/-- An error answers both for the shutter and for the result. -/
def Event.pays : Event → List Item
  | .shutter r => [.shutter r]
  | .result r => [.result r]
  | .error r => [.shutter r, .result r]
  | .closed x => [.fence x]
  | .returned b => [.buffer b]
  | .deleted v => [.vector v]
  | _ => []

/-- One answer: a shutter and a result, or an error. -/
def AnsweredOnce (log : List Event) (r : ReqId) : Prop :=
  (log.count (.shutter r) = 1 ∧ log.count (.result r) = 1 ∧ log.count (.error r) = 0) ∨
    (log.count (.shutter r) = 0 ∧ log.count (.result r) = 0 ∧ log.count (.error r) = 1)

/-- Every request is answered once, every fence closed once, every vector deleted once and every v4l2
    buffer returned once. -/
def Settled (s : Session) : Prop :=
  (∀ r, .submitted r ∈ s.log → AnsweredOnce s.log r) ∧
    (∀ x, .imported x ∈ s.log → s.log.count (.closed x) = 1) ∧
    (∀ v, .allocated v ∈ s.log → s.log.count (.deleted v) = 1) ∧
    ∀ b, .acquired b ∈ s.log → s.log.count (.returned b) = 1

/-- The requests that a call with this frame number would replace in the map. -/
def Session.replaced (s : Session) (frame : ℕ) : List FrameRequest :=
  (s.map_frame_request.filter fun e => e.1 = frame).flatMap Prod.snd

/-- In a logical request every output buffer finds its stream, its video stream and a frame. -/
def Camera.Captures (cam : Camera) (o : Outcome) (r : FrameRequest) : Prop :=
  cam.is_logical_request = true → ∀ b ∈ r.output_buffers, ∃ physical,
    cam.streams b.stream_id = some physical ∧ cam.videoStreams physical = true ∧ o.grabs physical = true

/-- No step fails: calls hand over requests and replace none, requests name a pipeline, the stream
    starts, a logical request captures all its buffers, and the callbacks for the answer are set. -/
def Succeeds (cam : Camera) (s : Session) : Act → Prop
  | .submitRequests frame requests => requests ≠ [] ∧ s.replaced frame = []
  | .serve o => ∀ r rest, s.work = some (r :: rest) →
      (cam.pipelines r.pipeline_id).isSome ∧ o.started = true ∧ cam.Captures o r ∧ o.allocated = true
  | .processImage => ∀ f, s.image = .holding f → ∃ callback,
      cam.pipelines f.request.pipeline_id = some callback ∧ callback.notify = true ∧
        (f.captured = .v4l2Buffer none ∨ callback.process_pipeline_result = true)
  | _ => True

/-! ### The duties of a request -/

def FrameRequest.answer (r : FrameRequest) : List Item := [.shutter r.id, .result r.id]

/-- The last request of a vector answers for it. -/
def FrameRequest.vectorDuty (r : FrameRequest) : List Item :=
  if r.last then [.vector r.id.vector] else []

def FrameRequest.leftover (r : FrameRequest) : List Item := r.fences.map .fence ++ r.vectorDuty

def FrameRequest.items (r : FrameRequest) : List Item := r.answer ++ r.leftover

def ImageFeed.items (f : ImageFeed) : List Item := f.request.items ++ f.captured.buffers.map .buffer

def ImagePhase.items : ImagePhase → List Item
  | .idle => []
  | .holding f => f.items
  | .counted f errorDue => if errorDue then f.request.items else f.request.leftover

def Session.held (s : Session) : List Item :=
  s.map_frame_request.flatMap (fun e => e.2.flatMap FrameRequest.items)
    ++ (s.work.getD []).flatMap FrameRequest.items ++ s.mImageList.flatMap ImageFeed.items
    ++ s.image.items

/-- What a step drops. -/
def Session.lost (cam : Camera) (s : Session) : Act → List Item
  | .submitRequests frame requests =>
    (s.replaced frame).flatMap FrameRequest.items ++ (if requests = [] then [.vector s.vectors] else [])
  | .serve o =>
    match s.work with
    | some (r :: rest) =>
      match cam.pipelines r.pipeline_id with
      | none => r.items
      | some _ =>
        if !o.started then (r :: rest).flatMap FrameRequest.items
        else if (cam.acquire o s.buffers r).2 && o.allocated then []
        else r.answer ++ r.vectorDuty ++ (cam.acquire o s.buffers r).1.buffers.map .buffer
    | _ => []
  | .processImage =>
    match s.image with
    | .holding f =>
      match cam.pipelines f.request.pipeline_id with
      | none => f.items
      | some callback =>
        match f.captured with
        | .v4l2Buffer none => if callback.notify then [] else f.request.answer
        | _ => (if callback.notify then [] else [.shutter f.request.id])
          ++ (if callback.process_pipeline_result then [] else [.result f.request.id])
    | _ => []
  | _ => []

/-! ### Booking the steps -/

@[simp] theorem closed_pays (xs : List Fence) :
    (xs.map Event.closed).flatMap Event.pays = xs.map Item.fence := by
  induction xs with
  | nil => rfl
  | cons x xs ih => simp [Event.pays, ih]

@[simp] theorem closed_incurs (xs : List Fence) : (xs.map Event.closed).flatMap Event.incurs = [] := by
  simp [Event.incurs]

@[simp] theorem returned_pays (bs : List ℕ) :
    (bs.map Event.returned).flatMap Event.pays = bs.map Item.buffer := by
  induction bs with
  | nil => rfl
  | cons b bs ih => simp [Event.pays, ih]

@[simp] theorem returned_incurs (bs : List ℕ) : (bs.map Event.returned).flatMap Event.incurs = [] := by
  simp [Event.incurs]

@[simp] theorem acquired_incurs (bs : List ℕ) :
    (bs.map Event.acquired).flatMap Event.incurs = bs.map Item.buffer := by
  induction bs with
  | nil => rfl
  | cons b bs ih => simp [Event.incurs, ih]

@[simp] theorem acquired_pays (bs : List ℕ) : (bs.map Event.acquired).flatMap Event.pays = [] := by
  simp [Event.pays]

@[simp] theorem imported_incurs (xs : List Fence) :
    (xs.map Event.imported).flatMap Event.incurs = xs.map Item.fence := by
  induction xs with
  | nil => rfl
  | cons x xs ih => simp [Event.incurs, ih]

@[simp] theorem imported_pays (xs : List Fence) : (xs.map Event.imported).flatMap Event.pays = [] := by
  simp [Event.pays]

@[simp] theorem physicalResults_free (cam : Camera) (r : FrameRequest) :
    (cam.physicalResults r).flatMap Event.pays = [] ∧ (cam.physicalResults r).flatMap Event.incurs = [] := by
  unfold Camera.physicalResults
  split <;> simp [Event.pays, Event.incurs]

/-- A fence is closed while the image is processed, or stays open in the request. -/
theorem drawn_fences (cam : Camera) (f : ImageFeed) (x : Item) :
    ((cam.drawn f).map Item.fence).count x + ((cam.afterDraw f).fences.map Item.fence).count x
      = (f.request.fences.map Item.fence).count x := by
  simp only [Camera.drawn, Camera.afterDraw, FrameRequest.fences]
  induction f.request.output_buffers with
  | nil => rfl
  | cons b bs ih =>
    cases hd : cam.draws f.captured b <;> cases hf : b.acquire_fence <;>
      simp [hd, hf, List.count_cons] at ih ⊢ <;> omega

/-- The new entry and the entries of other keys. -/
theorem insertFrame_items (frame : ℕ) (request : List FrameRequest)
    (entries : List (ℕ × List FrameRequest)) (x : Item) :
    ((insertFrame frame request entries).flatMap fun e => e.2.flatMap FrameRequest.items).count x
        + (((entries.filter fun e => e.1 = frame).flatMap Prod.snd).flatMap FrameRequest.items).count x
      = (request.flatMap FrameRequest.items).count x
        + (entries.flatMap fun e => e.2.flatMap FrameRequest.items).count x := by
  have hperm := (List.perm_orderedInsert (fun e e' => e.1 ≤ e'.1) (frame, request)
    (entries.filter fun e => e.1 ≠ frame)).flatMap_right (fun e => e.2.flatMap FrameRequest.items)
  rw [insertFrame, hperm.count_eq, List.flatMap_cons, List.count_append, Nat.add_assoc]
  congr 1
  clear hperm
  induction entries with
  | nil => rfl
  | cons e entries ih =>
    rcases eq_or_ne e.1 frame with hk | hk
    · simp [hk, List.count_append] at ih ⊢
      omega
    · simp [hk, List.count_append] at ih ⊢
      omega

/-- The vector of a call is the duty of its last request. -/
theorem copies_vectorDuty (frame vector num : ℕ) (requests : List PipelineRequest) (k : ℕ)
    (hnum : k + requests.length = num) (hne : requests ≠ []) :
    ((requests.zipIdx k).map fun p => p.1.copy frame vector num p.2).flatMap FrameRequest.vectorDuty
      = [.vector vector] := by
  induction requests generalizing k with
  | nil => exact absurd rfl hne
  | cons r rs ih =>
    simp only [List.zipIdx_cons, List.map_cons, List.flatMap_cons]
    rcases eq_or_ne rs [] with rfl | hrs
    · have hlast : k + 1 = num := hnum
      simp [FrameRequest.vectorDuty, FrameRequest.last, PipelineRequest.copy, hlast]
    · have hpos := List.length_pos_of_ne_nil hrs
      rw [List.length_cons] at hnum
      have hnot : ¬ k + 1 = num := by omega
      rw [ih (k + 1) (by omega) hrs]
      simp [FrameRequest.vectorDuty, FrameRequest.last, PipelineRequest.copy, hnot]

/-- What a list of requests owes, by kind. -/
theorem items_count (rs : List FrameRequest) (x : Item) : (rs.flatMap FrameRequest.items).count x
    = (rs.flatMap fun r => r.answer ++ r.fences.map Item.fence).count x
      + (rs.flatMap FrameRequest.vectorDuty).count x := by
  induction rs with
  | nil => rfl
  | cons r rs ih =>
    simp only [List.flatMap_cons, List.count_append, FrameRequest.items, FrameRequest.leftover] at ih ⊢
    omega

theorem submitted_incurs (rs : List FrameRequest) :
    (rs.flatMap fun r => Event.submitted r.id :: r.fences.map .imported).flatMap Event.incurs
      = rs.flatMap fun r => r.answer ++ r.fences.map Item.fence := by
  induction rs with
  | nil => rfl
  | cons r rs ih =>
    rw [List.flatMap_cons, List.flatMap_append, ih, List.flatMap_cons, imported_incurs]
    rfl

theorem submitted_pays (rs : List FrameRequest) :
    (rs.flatMap fun r => Event.submitted r.id :: r.fences.map .imported).flatMap Event.pays = [] := by
  induction rs with
  | nil => rfl
  | cons r rs ih =>
    rw [List.flatMap_cons, List.flatMap_append, ih, List.flatMap_cons, imported_pays]
    rfl

/-- The books of one step. -/
def BookedStep (cam : Camera) (s : Session) (a : Act) : Prop :=
  ∃ evs, (step cam s a).log = s.log ++ evs ∧ ∀ x,
    (evs.flatMap Event.incurs).count x + s.held.count x
      = (evs.flatMap Event.pays).count x + (step cam s a).held.count x + (s.lost cam a).count x

theorem submitRequests_booked (cam : Camera) (s : Session) (frame : ℕ) (requests : List PipelineRequest) :
    BookedStep cam s (.submitRequests frame requests) := by
  refine ⟨_, rfl, fun x => ?_⟩
  have hentries := insertFrame_items frame (copies frame s.vectors requests) s.map_frame_request x
  have hitems := items_count (copies frame s.vectors requests) x
  rw [List.flatMap_cons, List.flatMap_cons, submitted_incurs, submitted_pays]
  have hvector : ((copies frame s.vectors requests).flatMap FrameRequest.vectorDuty).count x
      + (if requests = [] then [Item.vector s.vectors] else []).count x
        = [Item.vector s.vectors].count x := by
    rcases eq_or_ne requests [] with rfl | hne
    · simp [copies]
    · rw [copies, copies_vectorDuty frame s.vectors _ requests 0 (by simp) hne, if_neg hne]
      rfl
  simp only [Session.held, Session.lost, Session.replaced, step, Session.submitRequests,
    List.count_append, Event.incurs, Event.pays, List.count_nil] at hentries ⊢
  omega

/-- A step without events that keeps what is held. -/
theorem booked_of_silent {cam : Camera} {s : Session} {a : Act} (hlog : (step cam s a).log = s.log)
    (hheld : ∀ x, s.held.count x = (step cam s a).held.count x + (s.lost cam a).count x) :
    BookedStep cam s a :=
  ⟨[], by rw [hlog, List.append_nil], fun x => by simpa using hheld x⟩

theorem takeRequest_booked (cam : Camera) (s : Session) : BookedStep cam s .takeRequest := by
  have hheld : ∀ x, s.held.count x = s.takeRequest.held.count x ∧ s.takeRequest.log = s.log := by
    intro x
    unfold Session.takeRequest
    split
    · exact ⟨rfl, rfl⟩
    · next hfree =>
      split
      · exact ⟨rfl, rfl⟩
      · next e rest hmap =>
        have hwork : s.work = none := by
          cases hw : s.work with
          | none => rfl
          | some w => simp [hw] at hfree
        refine ⟨?_, rfl⟩
        simp only [Session.held, hmap, hwork, List.flatMap_cons, Option.getD_none, Option.getD_some,
          List.flatMap_nil, List.append_nil, List.count_append]
        omega
  exact booked_of_silent (hheld (.vector 0)).2 fun x => (hheld x).1

theorem finish_booked (cam : Camera) (s : Session) : BookedStep cam s .finish := by
  have hheld : s.finish.held = s.held ∧ s.finish.log = s.log := by
    unfold Session.finish
    split
    · next hwork => exact ⟨by simp [Session.held, hwork], rfl⟩
    · exact ⟨rfl, rfl⟩
  exact booked_of_silent hheld.2 fun x => by rw [step, hheld.1]; rfl

theorem takeImage_booked (cam : Camera) (s : Session) : BookedStep cam s .takeImage := by
  have hheld : ∀ x, s.held.count x = s.takeImage.held.count x ∧ s.takeImage.log = s.log := by
    intro x
    unfold Session.takeImage
    split
    · next f rest himage hlist =>
      refine ⟨?_, rfl⟩
      simp only [Session.held, himage, hlist, ImagePhase.items, List.flatMap_cons, List.count_append,
        List.count_nil]
      omega
    · exact ⟨rfl, rfl⟩
  exact booked_of_silent (hheld (.vector 0)).2 fun x => (hheld x).1

theorem releaseImgFeed_booked (cam : Camera) (s : Session) : BookedStep cam s .releaseImgFeed := by
  cases himage : s.image with
  | idle =>
    have hsame : s.releaseImgFeed = s := by simp [Session.releaseImgFeed, himage]
    exact booked_of_silent (congrArg Session.log hsame) fun x => by rw [step, hsame]; rfl
  | holding f =>
    have hsame : s.releaseImgFeed = s := by simp [Session.releaseImgFeed, himage]
    exact booked_of_silent (congrArg Session.log hsame) fun x => by rw [step, hsame]; rfl
  | counted f errorDue =>
    refine ⟨Event.when errorDue [.error f.request.id] ++ f.request.fences.map .closed
      ++ Event.when f.request.last [.deleted f.request.id.vector],
      by simp only [step, Session.releaseImgFeed, himage], fun x => ?_⟩
    simp only [step, Session.releaseImgFeed, himage, Session.held, ImagePhase.items, Session.lost,
      List.flatMap_append, closed_pays, closed_incurs, List.count_append, List.count_nil]
    cases errorDue <;> cases hlast : f.request.last <;>
      simp [Event.when, Event.pays, Event.incurs, FrameRequest.items, FrameRequest.leftover,
        FrameRequest.answer, FrameRequest.vectorDuty, hlast, List.count_cons, List.count_append] <;>
      omega

/-- The events of a processed image. -/
def Camera.answers (cam : Camera) (f : ImageFeed) (callback : Callbacks) : List Event :=
  Event.when callback.notify [.shutter f.request.id]
    ++ (cam.drawn f).map .closed ++ f.captured.buffers.map .returned
    ++ Event.when callback.process_pipeline_result
      (cam.physicalResults f.request ++ [.result f.request.id])

theorem processImage_drawn {cam : Camera} {s : Session} {f : ImageFeed} {callback : Callbacks}
    (himage : s.image = .holding f) (hp : cam.pipelines f.request.pipeline_id = some callback)
    (hcap : f.captured ≠ .v4l2Buffer none) : s.processImage cam =
      { s with
        mProcdImageIdx := s.mProcdImageIdx + 1
        image := .counted { f with request := cam.afterDraw f } false
        log := s.log ++ cam.answers f callback } := by
  simp only [Session.processImage, himage, hp]
  rfl

/-- A processed image: the callbacks that are set are called, the buffers go back. -/
theorem drawn_booked {cam : Camera} {s : Session} {f : ImageFeed} {callback : Callbacks}
    (himage : s.image = .holding f) (hp : cam.pipelines f.request.pipeline_id = some callback)
    (hcap : f.captured ≠ .v4l2Buffer none) : BookedStep cam s .processImage := by
  have hstep := processImage_drawn himage hp hcap
  refine ⟨cam.answers f callback, by rw [step, hstep], fun x => ?_⟩
  have hlost : s.lost cam .processImage = (if callback.notify then [] else [.shutter f.request.id])
      ++ (if callback.process_pipeline_result then [] else [.result f.request.id]) := by
    simp only [Session.lost, himage, hp]
  have hfences := drawn_fences cam f x
  have hduty : (cam.afterDraw f).vectorDuty = f.request.vectorDuty := rfl
  rw [hlost, step, hstep]
  simp only [Camera.answers, Session.held, himage, ImagePhase.items, ImageFeed.items, FrameRequest.items,
    FrameRequest.leftover, hduty, List.flatMap_append, List.count_append, closed_pays, closed_incurs,
    returned_pays, returned_incurs, Bool.false_eq_true, if_false]
  cases callback.notify <;> cases callback.process_pipeline_result <;>
    simp [Event.when, Event.pays, Event.incurs, FrameRequest.answer, List.count_cons] <;> omega

/-- The image thread answers, closes and returns while it holds the image, and keeps the rest. -/
theorem processImage_booked (cam : Camera) (s : Session) : BookedStep cam s .processImage := by
  cases himage : s.image with
  | idle =>
    have hsame : s.processImage cam = s := by simp [Session.processImage, himage]
    refine booked_of_silent (congrArg Session.log hsame) fun x => ?_
    rw [step, hsame, Session.lost, himage]
    rfl
  | counted f errorDue =>
    have hsame : s.processImage cam = s := by simp [Session.processImage, himage]
    refine booked_of_silent (congrArg Session.log hsame) fun x => ?_
    rw [step, hsame, Session.lost, himage]
    rfl
  | holding f =>
    cases hp : cam.pipelines f.request.pipeline_id with
    | none =>
      refine booked_of_silent (by simp only [step, Session.processImage, himage, hp]) fun x => ?_
      simp [step, Session.processImage, himage, hp, Session.held, ImagePhase.items, Session.lost]
      omega
    | some callback =>
      cases hcap : f.captured with
      | v4l2Buffer buffer =>
        cases buffer with
        | none =>
          refine booked_of_silent (by simp only [step, Session.processImage, himage, hp, hcap]) fun x => ?_
          simp only [step, Session.processImage, himage, hp, hcap, Session.held, ImagePhase.items,
            Session.lost, ImageFeed.items, Captured.buffers, FrameRequest.items, List.count_append]
          cases callback.notify
          · simp
            omega
          · simp
        | some b => exact drawn_booked himage hp (by simp [hcap])
      | v4l2BufferList shots => exact drawn_booked himage hp (by simp [hcap])

/-- A captured request is fed with its buffers, or they are dropped. -/
theorem serve_booked (cam : Camera) (s : Session) (o : Outcome) : BookedStep cam s (.serve o) := by
  match hwork : s.work with
  | none =>
    have hsame : s.serve cam o = s := by simp [Session.serve, hwork]
    refine booked_of_silent (congrArg Session.log hsame) fun x => ?_
    rw [step, hsame, Session.lost, hwork]
    rfl
  | some [] =>
    have hsame : s.serve cam o = s := by simp [Session.serve, hwork]
    refine booked_of_silent (congrArg Session.log hsame) fun x => ?_
    rw [step, hsame, Session.lost, hwork]
    rfl
  | some (r :: rest) =>
    cases hp : cam.pipelines r.pipeline_id with
    | none =>
      refine booked_of_silent (by simp only [step, Session.serve, hwork, hp]) fun x => ?_
      simp [step, Session.serve, hwork, hp, Session.held, Session.lost]
      omega
    | some callback =>
      cases hstart : o.started with
      | false =>
        refine booked_of_silent (by simp [step, Session.serve, hwork, hp, hstart]) fun x => ?_
        simp [step, Session.serve, hwork, hp, hstart, Session.held, Session.lost]
        omega
      | true =>
        cases hok : ((cam.acquire o s.buffers r).2 && o.allocated) with
        | true =>
          refine ⟨(cam.acquire o s.buffers r).1.buffers.map .acquired, ?_, fun x => ?_⟩
          · simp [step, Session.serve, hwork, hp, hstart, Session.capAndFeed, hok, Session.feed]
          · simp [step, Session.serve, hwork, hp, hstart, Session.capAndFeed, hok, Session.feed,
              Session.held, Session.lost, ImageFeed.items]
            omega
        | false =>
          refine ⟨(cam.acquire o s.buffers r).1.buffers.map .acquired ++ r.fences.map .closed, ?_,
            fun x => ?_⟩
          · simp [step, Session.serve, hwork, hp, hstart, Session.capAndFeed, hok,
              Session.releaseFrameRequest]
          · simp [step, Session.serve, hwork, hp, hstart, Session.capAndFeed, hok,
              Session.releaseFrameRequest, Session.held, Session.lost, FrameRequest.items,
              FrameRequest.leftover]
            omega

theorem step_booked (cam : Camera) :
    Booked (step cam) Session.log Event.incurs Event.pays Session.held (Session.lost cam) := by
  intro s a
  cases a with
  | submitRequests frame requests => exact submitRequests_booked cam s frame requests
  | takeRequest => exact takeRequest_booked cam s
  | serve o => exact serve_booked cam s o
  | finish => exact finish_booked cam s
  | takeImage => exact takeImage_booked cam s
  | processImage => exact processImage_booked cam s
  | releaseImgFeed => exact releaseImgFeed_booked cam s

/-! ### Steps that drop nothing -/

/-- The loop over the output buffers ends well when each finds its stream and a frame, captured before
    or now. -/
theorem capture_ok (cam : Camera) (o : Outcome) (next : ℕ) (bs : List OutBuffer) (shots : List Shot)
    (hshots : ∀ shot ∈ shots, cam.videoStreams shot.physical = true ∧ o.grabs shot.physical = true) :
    (cam.capture o next bs shots).2 = true ↔ ∀ b ∈ bs, ∃ physical,
      cam.streams b.stream_id = some physical ∧ cam.videoStreams physical = true ∧
        o.grabs physical = true := by
  induction bs generalizing shots with
  | nil => simp [Camera.capture]
  | cons b bs ih =>
    rw [List.forall_mem_cons, Camera.capture]
    cases hs : cam.streams b.stream_id with
    | none => simp
    | some physical =>
      simp only [Option.some.injEq, exists_eq_left']
      cases hany : shots.any fun shot => shot.physical = physical with
      | true =>
        obtain ⟨shot, hmem, heq⟩ := List.any_eq_true.mp hany
        have hgot := hshots shot hmem
        rw [of_decide_eq_true heq] at hgot
        simp only [if_true, ih shots hshots, hgot, and_self, true_and]
      | false =>
        cases hv : cam.videoStreams physical with
        | false => simp
        | true =>
          cases hg : o.grabs physical with
          | false => simp
          | true =>
            simp only [Bool.false_eq_true, if_false, Bool.not_true, and_self, true_and]
            refine ih _ fun shot hmem => ?_
            rcases List.mem_append.mp hmem with hmem | hmem
            · exact hshots shot hmem
            · obtain rfl := List.mem_singleton.mp hmem
              exact ⟨hv, hg⟩

theorem acquire_ok (cam : Camera) (o : Outcome) (next : ℕ) (r : FrameRequest) :
    (cam.acquire o next r).2 = true ↔ cam.Captures o r := by
  unfold Camera.acquire Camera.Captures
  cases cam.is_logical_request with
  | false => simp
  | true => simpa using capture_ok cam o next r.output_buffers [] (by simp)

theorem items_ne_nil (r : FrameRequest) : r.items ≠ [] := List.cons_ne_nil _ _

/-- A step drops nothing exactly when it does not fail. -/
theorem lost_iff (cam : Camera) (s : Session) (a : Act) : s.lost cam a = [] ↔ Succeeds cam s a := by
  cases a with
  | submitRequests frame requests =>
    have hreplaced : (s.replaced frame).flatMap FrameRequest.items = [] ↔ s.replaced frame = [] := by
      cases s.replaced frame with
      | nil => simp
      | cons r rs => simp [items_ne_nil]
    simp only [Session.lost, Succeeds, List.append_eq_nil_iff, hreplaced]
    rcases eq_or_ne requests [] with rfl | hne
    · simp
    · simp [hne]
  | serve o =>
    match hwork : s.work with
    | none => simp [Session.lost, Succeeds, hwork]
    | some [] => simp [Session.lost, Succeeds, hwork]
    | some (r :: rest) =>
      have hok := acquire_ok cam o s.buffers r
      have hsucceeds : Succeeds cam s (.serve o) ↔ (cam.pipelines r.pipeline_id).isSome ∧
          o.started = true ∧ cam.Captures o r ∧ o.allocated = true := by
        constructor
        · exact fun h => h r rest hwork
        · rintro h r' rest' hwork'
          rw [hwork] at hwork'
          cases hwork'
          exact h
      rw [hsucceeds, ← hok]
      simp only [Session.lost, hwork]
      cases hp : cam.pipelines r.pipeline_id with
      | none => simp [items_ne_nil]
      | some callback =>
        cases o.started <;> cases (cam.acquire o s.buffers r).2 <;> cases o.allocated <;>
          simp [items_ne_nil, FrameRequest.answer]
  | processImage =>
    cases himage : s.image with
    | idle => simp [Session.lost, Succeeds, himage]
    | counted f errorDue => simp [Session.lost, Succeeds, himage]
    | holding f =>
      cases hp : cam.pipelines f.request.pipeline_id with
      | none => simp [Session.lost, Succeeds, himage, hp, ImageFeed.items, items_ne_nil]
      | some callback =>
        simp only [Session.lost, Succeeds, himage, hp, ImagePhase.holding.injEq]
        cases hcap : f.captured with
        | v4l2Buffer buffer =>
          cases buffer <;> cases hn : callback.notify <;> cases hr : callback.process_pipeline_result <;>
            simp [FrameRequest.answer, hp, hcap, hn, hr]
        | v4l2BufferList shots =>
          cases hn : callback.notify <;> cases hr : callback.process_pipeline_result <;>
            simp [hp, hcap, hn, hr]
  | _ => simp [Session.lost, Succeeds]

/-! ### Duties are incurred once -/

/-- What a step incurs. -/
def Session.issues (cam : Camera) (s : Session) : Act → List Item
  | .submitRequests frame requests => .vector s.vectors ::
    (copies frame s.vectors requests).flatMap fun r => r.answer ++ r.fences.map Item.fence
  | .serve o =>
    match s.work with
    | some (r :: _) =>
      match cam.pipelines r.pipeline_id with
      | none => []
      | some _ => if o.started then (cam.acquire o s.buffers r).1.buffers.map .buffer else []
    | _ => []
  | _ => []

/-- The duty is not known yet to a session with these numbers of vectors and buffers. -/
def Item.New (vectors buffers : ℕ) : Item → Prop
  | .shutter r => vectors ≤ r.vector
  | .result r => vectors ≤ r.vector
  | .fence x => vectors ≤ x.vector
  | .vector v => vectors ≤ v
  | .buffer b => buffers ≤ b

theorem serve_issues (cam : Camera) (s : Session) (o : Outcome) :
    (s.serve cam o).log.flatMap Event.incurs
        = s.log.flatMap Event.incurs ++ s.issues cam (.serve o) ∧
      (s.serve cam o).vectors = s.vectors ∧
      (s.serve cam o).buffers = s.buffers + (s.issues cam (.serve o)).length := by
  match hwork : s.work with
  | none => simp [Session.serve, Session.issues, hwork]
  | some [] => simp [Session.serve, Session.issues, hwork]
  | some (r :: rest) =>
    cases hp : cam.pipelines r.pipeline_id with
    | none => simp [Session.serve, Session.issues, hwork, hp]
    | some callback =>
      cases hstart : o.started with
      | false => simp [Session.serve, Session.issues, hwork, hp, hstart]
      | true =>
        cases hok : ((cam.acquire o s.buffers r).2 && o.allocated) <;>
          simp [Session.serve, Session.issues, hwork, hp, hstart, Session.capAndFeed, hok, Session.feed,
            Session.releaseFrameRequest]

theorem processImage_issues (cam : Camera) (s : Session) :
    (s.processImage cam).log.flatMap Event.incurs = s.log.flatMap Event.incurs ∧
      (s.processImage cam).vectors = s.vectors ∧ (s.processImage cam).buffers = s.buffers := by
  unfold Session.processImage
  split
  · split
    · exact ⟨rfl, rfl, rfl⟩
    · next callback _ =>
      split
      · exact ⟨rfl, rfl, rfl⟩
      · refine ⟨?_, rfl, rfl⟩
        cases callback.notify <;> cases callback.process_pipeline_result <;>
          simp [Event.when, Event.incurs]
  · exact ⟨rfl, rfl, rfl⟩

theorem releaseImgFeed_issues (s : Session) :
    s.releaseImgFeed.log.flatMap Event.incurs = s.log.flatMap Event.incurs ∧
      s.releaseImgFeed.vectors = s.vectors ∧ s.releaseImgFeed.buffers = s.buffers := by
  unfold Session.releaseImgFeed
  split
  · next f errorDue _ =>
    refine ⟨?_, rfl, rfl⟩
    cases errorDue <;> cases f.request.last <;> simp [Event.when, Event.incurs]
  · exact ⟨rfl, rfl, rfl⟩

theorem takeRequest_issues (s : Session) : s.takeRequest.log = s.log ∧
    s.takeRequest.vectors = s.vectors ∧ s.takeRequest.buffers = s.buffers := by
  unfold Session.takeRequest
  repeat' split
  all_goals exact ⟨rfl, rfl, rfl⟩

theorem finish_issues (s : Session) : s.finish.log = s.log ∧ s.finish.vectors = s.vectors ∧
    s.finish.buffers = s.buffers := by
  unfold Session.finish
  split <;> exact ⟨rfl, rfl, rfl⟩

theorem takeImage_issues (s : Session) : s.takeImage.log = s.log ∧ s.takeImage.vectors = s.vectors ∧
    s.takeImage.buffers = s.buffers := by
  unfold Session.takeImage
  split <;> exact ⟨rfl, rfl, rfl⟩

/-- The buffers of a capture are numbered on. -/
theorem capture_buffers (cam : Camera) (o : Outcome) (next : ℕ) (bs : List OutBuffer)
    (shots : List Shot) (hshots : shots.map Shot.buffer = List.range' next shots.length) :
    (cam.capture o next bs shots).1.map Shot.buffer
      = List.range' next (cam.capture o next bs shots).1.length := by
  induction bs generalizing shots with
  | nil => exact hshots
  | cons b bs ih =>
    unfold Camera.capture
    split
    · exact hshots
    · split
      · exact ih shots hshots
      · split
        · exact hshots
        · split
          · exact hshots
          · refine ih _ ?_
            rw [List.map_append, hshots, List.length_append, List.length_singleton, List.range'_concat,
              Nat.one_mul]
            rfl

theorem acquire_buffers (cam : Camera) (o : Outcome) (next : ℕ) (r : FrameRequest) :
    (cam.acquire o next r).1.buffers = List.range' next (cam.acquire o next r).1.buffers.length := by
  unfold Camera.acquire
  cases cam.is_logical_request with
  | true =>
    simp only [if_true, Captured.buffers, List.length_map]
    exact capture_buffers cam o next r.output_buffers [] rfl
  | false => cases o.grabs cam.first <;> simp [Captured.buffers]

theorem fences_nodup (frame vector num i : ℕ) (r : PipelineRequest) :
    (r.copy frame vector num i).fences.Nodup := by
  have hfences : (r.copy frame vector num i).fences
      = ((r.output_buffers.zipIdx.filter fun p => p.1.has_fence).map Prod.snd).map (Fence.mk vector i) := by
    simp only [FrameRequest.fences, PipelineRequest.copy]
    generalize r.output_buffers.zipIdx = ps
    induction ps with
    | nil => rfl
    | cons p ps ih => cases hp : p.1.has_fence <;> simpa [StreamBuffer.copy, hp] using ih
  have hsub : ((r.output_buffers.zipIdx.filter fun p => p.1.has_fence).map Prod.snd).Sublist
      (r.output_buffers.zipIdx.map Prod.snd) := List.filter_sublist.map _
  have hsnd : (r.output_buffers.zipIdx.map Prod.snd).Nodup := by
    rw [List.zipIdx_map_snd]
    exact List.nodup_range'
  rw [hfences]
  exact (hsnd.sublist hsub).map fun j j' h => (Fence.mk.inj h).2.2

/-- The place in its vector of the request a duty is for. -/
def Item.place : Item → Option (ℕ × ℕ)
  | .shutter r => some (r.vector, r.idx)
  | .result r => some (r.vector, r.idx)
  | .fence x => some (x.vector, x.idx)
  | .vector _ => none
  | .buffer _ => none

theorem copy_places {frame vector num i : ℕ} {r : PipelineRequest} {x : Item}
    (hx : x ∈ (r.copy frame vector num i).answer ++ (r.copy frame vector num i).fences.map Item.fence) :
    x.place = some (vector, i) := by
  rcases List.mem_append.mp hx with hx | hx
  · rcases List.mem_pair.mp hx with rfl | rfl <;> rfl
  · obtain ⟨y, hy, rfl⟩ := List.mem_map.mp hx
    obtain ⟨b, hb, hby⟩ := List.mem_filterMap.mp hy
    obtain ⟨p, -, rfl⟩ := List.mem_map.mp hb
    simp only [StreamBuffer.copy] at hby
    split at hby
    · cases hby
      rfl
    · cases hby

theorem copies_nodup (frame vector : ℕ) (requests : List PipelineRequest) :
    ((copies frame vector requests).flatMap fun r => r.answer ++ r.fences.map Item.fence).Nodup := by
  have hidx : (requests.zipIdx.map Prod.snd).Nodup := by
    rw [List.zipIdx_map_snd]
    exact List.nodup_range'
  rw [copies, List.flatMap_map, List.nodup_flatMap]
  refine ⟨fun p _ => ?_, ?_⟩
  · refine List.nodup_append.mpr ⟨?_, ?_, ?_⟩
    · simp [FrameRequest.answer]
    · exact (fences_nodup frame vector requests.length p.2 p.1).map fun x y h => Item.fence.inj h
    · rintro x hx y hy rfl
      obtain ⟨z, -, rfl⟩ := List.mem_map.mp hy
      simp [FrameRequest.answer] at hx
  · refine (List.pairwise_map.mp hidx).imp fun hne x hx hx' => hne ?_
    have h := (copy_places hx).symm.trans (copy_places hx')
    exact (Prod.mk.inj (Option.some.inj h)).2

theorem new_iff_of_place {x : Item} {v i : ℕ} (h : x.place = some (v, i)) (vectors buffers : ℕ) :
    x.New vectors buffers ↔ vectors ≤ v := by
  cases x <;> simp only [Item.place, Option.some.injEq, Prod.mk.injEq, reduceCtorEq] at h <;>
    rw [Item.New, h.1]

theorem new_of_later {x : Item} {vectors vectors' buffers buffers' : ℕ} (hv : vectors ≤ vectors')
    (hb : buffers ≤ buffers') (h : x.New vectors' buffers') : x.New vectors buffers := by
  cases x <;> exact le_trans (by assumption) h

/-- Every duty was incurred once, and what comes is new. -/
structure Fresh (s : Session) : Prop where
  once : (s.log.flatMap Event.incurs).Nodup
  known : ∀ x ∈ s.log.flatMap Event.incurs, ¬ x.New s.vectors s.buffers

theorem fresh_of_issues {s t : Session} (items : List Item) (h : Fresh s)
    (hlog : t.log.flatMap Event.incurs = s.log.flatMap Event.incurs ++ items) (hnd : items.Nodup)
    (hnew : ∀ x ∈ items, x.New s.vectors s.buffers ∧ ¬ x.New t.vectors t.buffers)
    (hv : s.vectors ≤ t.vectors) (hb : s.buffers ≤ t.buffers) : Fresh t := by
  refine ⟨?_, ?_⟩ <;> rw [hlog]
  · refine List.nodup_append.mpr ⟨h.once, hnd, ?_⟩
    rintro x hx y hy rfl
    exact h.known x hx (hnew x hy).1
  · intro x hx
    rcases List.mem_append.mp hx with hx | hx
    · exact fun hn => h.known x hx (new_of_later hv hb hn)
    · exact (hnew x hx).2

/-- A step that incurs nothing. -/
theorem fresh_of_same {s t : Session} (h : Fresh s)
    (hlog : t.log.flatMap Event.incurs = s.log.flatMap Event.incurs) (hv : t.vectors = s.vectors)
    (hb : t.buffers = s.buffers) : Fresh t :=
  ⟨hlog ▸ h.once, by rw [hlog, hv, hb]; exact h.known⟩

theorem submitRequests_fresh {s : Session} (h : Fresh s) (frame : ℕ) (requests : List PipelineRequest) :
    Fresh (s.submitRequests frame requests) := by
  have hplace : ∀ x ∈ (copies frame s.vectors requests).flatMap
      (fun r => r.answer ++ r.fences.map Item.fence), ∃ i, x.place = some (s.vectors, i) := by
    intro x hx
    obtain ⟨r, hr, hx⟩ := List.mem_flatMap.mp hx
    obtain ⟨p, -, rfl⟩ := List.mem_map.mp hr
    exact ⟨p.2, copy_places hx⟩
  have hnd := copies_nodup frame s.vectors requests
  refine fresh_of_issues (.vector s.vectors :: (copies frame s.vectors requests).flatMap
    fun r => r.answer ++ r.fences.map Item.fence) h ?_ (List.nodup_cons.mpr ⟨?_, hnd⟩) ?_
    (Nat.le_succ _) (le_refl _)
  · simp only [Session.submitRequests, List.flatMap_append, List.flatMap_cons, submitted_incurs]
    rfl
  · intro hmem
    obtain ⟨i, hi⟩ := hplace _ hmem
    cases hi
  · intro x hx
    rcases List.mem_cons.mp hx with rfl | hx
    · exact ⟨le_refl s.vectors, Nat.not_succ_le_self s.vectors⟩
    · obtain ⟨i, hi⟩ := hplace x hx
      exact ⟨(new_iff_of_place hi _ _).mpr (le_refl _),
        fun hn => Nat.not_succ_le_self _ ((new_iff_of_place hi _ _).mp hn)⟩

/-- A turn of the work thread incurs the return of what it captures. -/
theorem serve_buffers (cam : Camera) (s : Session) (o : Outcome) :
    ∃ n, s.issues cam (.serve o) = (List.range' s.buffers n).map .buffer := by
  match hwork : s.work with
  | none => exact ⟨0, by simp [Session.issues, hwork]⟩
  | some [] => exact ⟨0, by simp [Session.issues, hwork]⟩
  | some (r :: rest) =>
    cases hp : cam.pipelines r.pipeline_id with
    | none => exact ⟨0, by simp [Session.issues, hwork, hp]⟩
    | some callback =>
      cases hstart : o.started with
      | false => exact ⟨0, by simp [Session.issues, hwork, hp, hstart]⟩
      | true =>
        refine ⟨(cam.acquire o s.buffers r).1.buffers.length, ?_⟩
        rw [← acquire_buffers]
        simp [Session.issues, hwork, hp, hstart]

theorem serve_fresh {cam : Camera} {s : Session} (h : Fresh s) (o : Outcome) :
    Fresh (s.serve cam o) := by
  obtain ⟨hlog, hv, hb⟩ := serve_issues cam s o
  obtain ⟨n, hn⟩ := serve_buffers cam s o
  rw [hn] at hlog hb
  rw [List.length_map, List.length_range'] at hb
  have hnd : (List.range' s.buffers n).Nodup := List.nodup_range'
  refine fresh_of_issues _ h hlog (hnd.map fun b b' heq => Item.buffer.inj heq) ?_ hv.ge (by omega)
  intro x hx
  obtain ⟨b, hmem, rfl⟩ := List.mem_map.mp hx
  obtain ⟨hge, hlt⟩ := List.mem_range'_1.mp hmem
  refine ⟨hge, fun hle => ?_⟩
  have hle : (s.serve cam o).buffers ≤ b := hle
  omega

theorem step_fresh {cam : Camera} {s : Session} (h : Fresh s) (a : Act) : Fresh (step cam s a) := by
  cases a with
  | submitRequests frame requests => exact submitRequests_fresh h frame requests
  | serve o => exact serve_fresh h o
  | takeRequest =>
    obtain ⟨hlog, hv, hb⟩ := takeRequest_issues s
    exact fresh_of_same h (by rw [step, hlog]) hv hb
  | finish =>
    obtain ⟨hlog, hv, hb⟩ := finish_issues s
    exact fresh_of_same h (by rw [step, hlog]) hv hb
  | takeImage =>
    obtain ⟨hlog, hv, hb⟩ := takeImage_issues s
    exact fresh_of_same h (by rw [step, hlog]) hv hb
  | processImage =>
    obtain ⟨hlog, hv, hb⟩ := processImage_issues cam s
    exact fresh_of_same h hlog hv hb
  | releaseImgFeed =>
    obtain ⟨hlog, hv, hb⟩ := releaseImgFeed_issues s
    exact fresh_of_same h hlog hv hb

theorem run_fresh (cam : Camera) (as : List Act) : Fresh (run (step cam) Session.new as) := by
  have hstep : ∀ s a, Fresh s → True → Fresh (step cam s a) := fun s a h _ => step_fresh h a
  exact run_inv Fresh hstep as Session.new ⟨List.nodup_nil, by simp [Session.new]⟩ fun _ _ => trivial

/-! ### Settled -/

/-- The event a duty is incurred with. -/
def Item.issue : Item → Event
  | .shutter r => .submitted r
  | .result r => .submitted r
  | .fence x => .imported x
  | .vector v => .allocated v
  | .buffer b => .acquired b

/-- The events that discharge a duty. -/
def Item.settles : Item → List Event
  | .shutter r => [.shutter r, .error r]
  | .result r => [.result r, .error r]
  | .fence x => [.closed x]
  | .vector v => [.deleted v]
  | .buffer b => [.returned b]

theorem count_incurs (log : List Event) (x : Item) :
    (log.flatMap Event.incurs).count x = log.count x.issue := by
  induction log with
  | nil => rfl
  | cons e log ih =>
    rw [List.flatMap_cons, List.count_append, ih, List.count_cons, Nat.add_comm]
    congr 1
    cases x <;> cases e <;> simp [Event.incurs, Item.issue, List.count_cons]

theorem count_pays (log : List Event) (x : Item) :
    (log.flatMap Event.pays).count x = (x.settles.map fun e => log.count e).sum := by
  induction log with
  | nil => cases x <;> rfl
  | cons e log ih =>
    rw [List.flatMap_cons, List.count_append, ih]
    cases x <;> cases e <;> simp [Event.pays, Item.settles, List.count_cons] <;> omega

/-- A duty is paid by the events that settle it. -/
theorem paid_shutter (log : List Event) (r : ReqId) : (log.flatMap Event.pays).count (.shutter r)
    = log.count (.shutter r) + log.count (.error r) := by
  simp [count_pays, Item.settles]

theorem paid_result (log : List Event) (r : ReqId) : (log.flatMap Event.pays).count (.result r)
    = log.count (.result r) + log.count (.error r) := by
  simp [count_pays, Item.settles]

/-- What was incurred was incurred once. -/
theorem incurred_once {s : Session} (hf : Fresh s) {x : Item} (h : x.issue ∈ s.log) :
    (s.log.flatMap Event.incurs).count x = 1 := by
  have hle := List.nodup_iff_count_le_one.mp hf.once x
  have hpos := List.count_pos_iff.mpr h
  rw [← count_incurs] at hpos
  omega

/-- With nothing paid that was not incurred, to have settled each duty once is to have paid all. -/
theorem settled_iff {s : Session} (hf : Fresh s)
    (hle : ∀ x, (s.log.flatMap Event.pays).count x ≤ (s.log.flatMap Event.incurs).count x) :
    Settled s ↔ ∀ x, (s.log.flatMap Event.incurs).count x = (s.log.flatMap Event.pays).count x := by
  constructor
  · rintro ⟨hanswer, hfence, hvector, hbuffer⟩ x
    by_cases hx : x.issue ∈ s.log
    · rw [incurred_once hf hx]
      cases x with
      | shutter r =>
        rw [paid_shutter]
        rcases hanswer r hx with ⟨h₁, -, h₃⟩ | ⟨h₁, -, h₃⟩ <;> omega
      | result r =>
        rw [paid_result]
        rcases hanswer r hx with ⟨-, h₂, h₃⟩ | ⟨-, h₂, h₃⟩ <;> omega
      | fence y => simpa [count_pays, Item.settles] using (hfence y hx).symm
      | vector v => simpa [count_pays, Item.settles] using (hvector v hx).symm
      | buffer b => simpa [count_pays, Item.settles] using (hbuffer b hx).symm
    · have hzero : (s.log.flatMap Event.incurs).count x = 0 := by
        rw [count_incurs, List.count_eq_zero_of_not_mem hx]
      have hpaid := hle x
      omega
  · intro h
    have hone : ∀ x : Item, x.issue ∈ s.log → (s.log.flatMap Event.pays).count x = 1 := fun x hx =>
      (h x).symm.trans (incurred_once hf hx)
    refine ⟨fun r hr => ?_, fun y hy => ?_, fun v hv => ?_, fun b hb => ?_⟩
    · have h₁ := hone (.shutter r) hr
      have h₂ := hone (.result r) hr
      rw [paid_shutter] at h₁
      rw [paid_result] at h₂
      unfold AnsweredOnce
      omega
    · simpa [count_pays, Item.settles] using hone (.fence y) hy
    · simpa [count_pays, Item.settles] using hone (.vector v) hv
    · simpa [count_pays, Item.settles] using hone (.buffer b) hb

theorem held_of_drained {s : Session} (h : s.Drained) : s.held = [] := by
  obtain ⟨hmap, hwork, hlist, himage⟩ := h
  simp [Session.held, hmap, hwork, hlist, himage, ImagePhase.items]

/-- Camera requests: in a run that ends with both threads idle and their queues drained, every request
    has been answered once, its fences closed once, its vector deleted once and every v4l2 buffer
    returned once, exactly when no step of the run failed. -/
theorem every_request_settled_iff (cam : Camera) (as : List Act)
    (hdrained : (run (step cam) Session.new as).Drained) :
    Settled (run (step cam) Session.new as) ↔ Meets (step cam) (Succeeds cam) Session.new as := by
  have hle := paid_le_incurred (step_booked cam) as (s := Session.new) rfl
  rw [settled_iff (run_fresh cam as) hle,
    discharged_iff (step_booked cam) as rfl rfl (held_of_drained hdrained)]
  simp only [lost_iff]

/-- One request from the call to its release. -/
def onePreview : List Act :=
  [.submitRequests 1 [preview], .takeRequest, .serve ⟨true, fun _ => true, true⟩, .finish, .takeImage,
    .processImage, .releaseImgFeed]

theorem every_request_settled_preview : (run (step oneStream) Session.new onePreview).Drained ∧
    Settled (run (step oneStream) Session.new onePreview) := by
  have hdrained : (run (step oneStream) Session.new onePreview).Drained := ⟨rfl, rfl, rfl, rfl⟩
  refine ⟨hdrained, (every_request_settled_iff oneStream onePreview hdrained).mpr ?_⟩
  refine ⟨⟨by decide, rfl⟩, trivial, ?_, trivial, trivial, ?_, trivial, trivial⟩
  · rintro r rest ⟨⟩
    exact ⟨rfl, rfl, by simp [Camera.Captures, oneStream], rfl⟩
  · rintro f ⟨⟩
    exact ⟨⟨true, true⟩, rfl, rfl, Or.inr rfl⟩

/-- One request that names a pipeline nobody has configured. -/
def oneUnknown : List Act :=
  [.submitRequests 1 [⟨7, [⟨0, true⟩]⟩], .takeRequest, .serve ⟨true, fun _ => true, true⟩, .finish]

/-- It is passed over: nobody answers it. -/
theorem unknown_pipeline_unanswered :
    ¬ ((run (step oneStream) Session.new oneUnknown).Drained →
      Settled (run (step oneStream) Session.new oneUnknown)) := by
  intro h
  obtain ⟨hanswer, -⟩ := h ⟨rfl, rfl, rfl, rfl⟩
  have honce := hanswer ⟨1, 0, 0⟩ (by decide)
  unfold AnsweredOnce at honce
  revert honce
  decide

end ImxHal.CameraSession
