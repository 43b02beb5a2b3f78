import ImxHal.Camera.Session

/-! @src camera/camera/CameraDeviceSessionHWLImpl.cpp (DestroyPipelines, drainImages),
    camera/camera/VideoStream.cpp (ConfigAndStart) | name:drain counters | scheme:run |
    family:producer-consumer

    A session is closed, or a stream restarted, once two pairs of counters agree:

        mInQueRequestIdx - mDeQueRequestIdx   what is in the map, and what the work thread holds
        mLatestImageIdx  - mProcdImageIdx     what is in the list, and what the image thread holds

    A request that leaves without its increment is not seen before the next close, which then waits for
    it. -/

namespace ImxHal.CameraSession
open ImxHal.Run

/-- Requests the work thread is working on. -/
def Session.working (s : Session) : ℕ := if s.work.isSome then 1 else 0

/-- Images the image thread is working on: taken from the list and not yet counted. -/
def Session.handling (s : Session) : ℕ :=
  match s.image with
  | .holding _ => 1
  | _ => 0

def Session.RequestsBalance (s : Session) : Prop :=
  s.mInQueRequestIdx - s.mDeQueRequestIdx = BitVec.ofNat 64 (s.map_frame_request.length + s.working)

def Session.ImagesBalance (s : Session) : Prop :=
  s.mLatestImageIdx - s.mProcdImageIdx = BitVec.ofNat 64 (s.mImageList.length + s.handling)

/-- The guard of the wait loop in `DestroyPipelines`. -/
def Session.destroyPipelinesWaits (s : Session) : Bool := s.mDeQueRequestIdx ≠ s.mInQueRequestIdx

/-- The guard of the wait loop in `drainImages`. -/
def Session.drainImagesWaits (s : Session) : Bool := s.mLatestImageIdx ≠ s.mProcdImageIdx

/-- The counters differ by what is under way, so that nobody waits for an idle session. -/
def CountersBalance (t : Session) : Prop :=
  t.RequestsBalance ∧ t.ImagesBalance ∧
    (t.Drained → t.destroyPipelinesWaits = false ∧ t.drainImagesWaits = false)

/-- No call reuses the number of a frame that still waits, and every stream starts. -/
def Counted (cam : Camera) (s : Session) : Act → Prop
  | .submitRequests frame _ => ∀ e ∈ s.map_frame_request, e.1 ≠ frame
  | .serve o => ∀ r rest, s.work = some (r :: rest) → (cam.pipelines r.pipeline_id).isSome →
      o.started = true
  | _ => True

/-! ### Counting -/

theorem count_up {a b : BitVec 64} {n : ℕ} (h : a - b = BitVec.ofNat 64 n) :
    a + 1 - b = BitVec.ofNat 64 (n + 1) := by
  bv_omega

theorem count_down {a b : BitVec 64} {n : ℕ} (h : a - b = BitVec.ofNat 64 (n + 1)) :
    a - (b + 1) = BitVec.ofNat 64 n := by
  bv_omega

/-- A count that misses one. -/
theorem miscount {a : BitVec 64} {n : ℕ} (h : a = BitVec.ofNat 64 (n + 1)) : a ≠ BitVec.ofNat 64 n := by
  bv_omega

theorem length_insertFrame (frame : ℕ) (request : List FrameRequest)
    (entries : List (ℕ × List FrameRequest)) : (insertFrame frame request entries).length
      = (entries.filter fun e => e.1 ≠ frame).length + 1 :=
  List.orderedInsert_length _ _ _

/-- The entry of a key is the only one that leaves. -/
theorem length_filter_key {frame : ℕ} {entries : List (ℕ × List FrameRequest)}
    (hnd : (entries.map Prod.fst).Nodup) (h : frame ∈ entries.map Prod.fst) :
    (entries.filter fun e => e.1 ≠ frame).length + 1 = entries.length := by
  have hkeys : (entries.filter fun e => e.1 ≠ frame).map Prod.fst = (entries.map Prod.fst).erase frame := by
    rw [hnd.erase_eq_filter, List.filter_map]
    congr 1
    exact List.filter_congr fun e _ => by simp [bne, BEq.beq]
  have hlen := congrArg List.length hkeys
  rw [List.length_map, List.length_erase_of_mem h, List.length_map] at hlen
  have hpos := List.length_pos_of_mem h
  rw [List.length_map] at hpos
  omega

/-! ### Reachable sessions -/

/-- The pipeline of a fed image was looked up before. -/
def Camera.Knows (cam : Camera) (f : ImageFeed) : Prop := (cam.pipelines f.request.pipeline_id).isSome

structure CountInv (cam : Camera) (s : Session) : Prop where
  keys : (s.map_frame_request.map Prod.fst).Nodup
  listed : ∀ f ∈ s.mImageList, cam.Knows f
  held : ∀ f, s.image = .holding f → cam.Knows f
  requests : s.RequestsBalance
  images : s.ImagesBalance

theorem countersBalance_of_inv {cam : Camera} {s : Session} (h : CountInv cam s) :
    CountersBalance s := by
  refine ⟨h.requests, h.images, ?_⟩
  rintro ⟨hmap, hwork, hlist, himage⟩
  have hreq := h.requests
  have himg := h.images
  simp only [Session.RequestsBalance, Session.working, hmap, hwork] at hreq
  simp only [Session.ImagesBalance, Session.handling, hlist, himage] at himg
  have hin : s.mDeQueRequestIdx = s.mInQueRequestIdx := (sub_eq_zero.mp hreq).symm
  have hlatest : s.mLatestImageIdx = s.mProcdImageIdx := sub_eq_zero.mp himg
  simp [Session.destroyPipelinesWaits, Session.drainImagesWaits, hin, hlatest]

theorem countInv_new (cam : Camera) : CountInv cam Session.new :=
  ⟨List.nodup_nil, by simp [Session.new], by simp [Session.new], rfl, rfl⟩

/-- The keys of the map stay distinct. -/
theorem insertFrame_keys {frame : ℕ} {request : List FrameRequest}
    {entries : List (ℕ × List FrameRequest)} (h : (entries.map Prod.fst).Nodup) :
    ((insertFrame frame request entries).map Prod.fst).Nodup := by
  have hperm := (List.perm_orderedInsert (fun e e' => e.1 ≤ e'.1) (frame, request)
    (entries.filter fun e => e.1 ≠ frame)).map Prod.fst
  rw [insertFrame, hperm.nodup_iff, List.map_cons, List.nodup_cons]
  refine ⟨?_, h.sublist (List.filter_sublist.map _)⟩
  simp

theorem submitRequests_inv {cam : Camera} {s : Session} (h : CountInv cam s) (frame : ℕ)
    (requests : List PipelineRequest) (hnew : ∀ e ∈ s.map_frame_request, e.1 ≠ frame) :
    CountInv cam (s.submitRequests frame requests) := by
  refine ⟨insertFrame_keys h.keys, h.listed, h.held, ?_, h.images⟩
  have hall : (s.map_frame_request.filter fun e => e.1 ≠ frame) = s.map_frame_request :=
    List.filter_eq_self.mpr fun e he => by simpa using hnew e he
  have hcount := count_up h.requests
  simp only [Session.RequestsBalance, Session.submitRequests, length_insertFrame, hall]
  rw [hcount]
  simp only [Session.working]
  congr 1
  omega

/-- A call that reuses a number replaces a vector and is counted as another one. -/
theorem submitRequests_miscounts {cam : Camera} {s : Session} (h : CountInv cam s) {frame : ℕ}
    {requests : List PipelineRequest} {e : ℕ × List FrameRequest} (he : e ∈ s.map_frame_request)
    (hk : e.1 = frame) : ¬ (s.submitRequests frame requests).RequestsBalance := by
  have hmem : frame ∈ s.map_frame_request.map Prod.fst := hk ▸ List.mem_map_of_mem he
  have hlen := length_filter_key h.keys hmem
  have hcount := count_up h.requests
  simp only [Session.RequestsBalance, Session.submitRequests, length_insertFrame, hlen]
  exact miscount hcount

theorem takeRequest_inv {cam : Camera} {s : Session} (h : CountInv cam s) :
    CountInv cam s.takeRequest := by
  unfold Session.takeRequest
  split
  · exact h
  · next hfree =>
    have hwork : s.work = none := by
      cases hw : s.work with
      | none => rfl
      | some w => simp [hw] at hfree
    split
    · exact h
    · next e rest hmap =>
      have hkeys := h.keys
      have hreq := h.requests
      simp only [hmap, List.map_cons] at hkeys
      refine ⟨(List.nodup_cons.mp hkeys).2, h.listed, h.held, ?_, h.images⟩
      simpa [Session.RequestsBalance, Session.working, hmap, hwork] using hreq

/-- An image more in the list is counted. -/
theorem feed_inv {cam : Camera} {s : Session} (h : CountInv cam s) {f : ImageFeed} (hf : cam.Knows f) :
    CountInv cam (s.feed f) := by
  refine ⟨h.keys, ?_, h.held, h.requests, ?_⟩
  · intro g hg
    rcases List.mem_append.mp hg with hg | hg
    · exact h.listed g hg
    · obtain rfl := List.mem_singleton.mp hg
      exact hf
  · have hcount := count_up h.images
    simp only [Session.ImagesBalance, Session.feed, List.length_append, List.length_singleton]
    rw [hcount, Nat.add_right_comm]
    rfl

/-- The counters, the map and the list are all the invariant reads. -/
theorem CountInv.congr {cam : Camera} {s t : Session} (h : CountInv cam s)
    (hmap : t.map_frame_request = s.map_frame_request) (hwork : t.working = s.working)
    (hlist : t.mImageList = s.mImageList) (himage : t.image = s.image)
    (hin : t.mInQueRequestIdx = s.mInQueRequestIdx) (hde : t.mDeQueRequestIdx = s.mDeQueRequestIdx)
    (hlat : t.mLatestImageIdx = s.mLatestImageIdx) (hproc : t.mProcdImageIdx = s.mProcdImageIdx) :
    CountInv cam t := by
  refine ⟨hmap ▸ h.keys, hlist ▸ h.listed, himage ▸ h.held, ?_, ?_⟩
  · have hreq := h.requests
    rwa [Session.RequestsBalance, hmap, hwork, hin, hde]
  · have himg := h.images
    have hhand : t.handling = s.handling := by rw [Session.handling, Session.handling, himage]
    rwa [Session.ImagesBalance, hlist, hhand, hlat, hproc]

theorem capAndFeed_inv {cam : Camera} {s : Session} (h : CountInv cam s) (o : Outcome)
    {r : FrameRequest} (hr : (cam.pipelines r.pipeline_id).isSome) :
    CountInv cam (s.capAndFeed cam o r).1 := by
  have hcap : CountInv cam { s with
      buffers := s.buffers + (cam.acquire o s.buffers r).1.buffers.length
      log := s.log ++ (cam.acquire o s.buffers r).1.buffers.map .acquired } :=
    h.congr rfl rfl rfl rfl rfl rfl rfl rfl
  simp only [Session.capAndFeed]
  split
  · exact feed_inv hcap hr
  · exact hcap

theorem serve_inv {cam : Camera} {s : Session} (h : CountInv cam s) (o : Outcome)
    (hstart : ∀ r rest, s.work = some (r :: rest) → (cam.pipelines r.pipeline_id).isSome →
      o.started = true) : CountInv cam (s.serve cam o) := by
  unfold Session.serve
  split
  · next r rest hwork =>
    have hrest : CountInv cam { s with work := some rest } :=
      h.congr rfl (by simp [Session.working, hwork]) rfl rfl rfl rfl rfl rfl
    split
    · exact hrest
    · next cb hcb =>
      have hknown : (cam.pipelines r.pipeline_id).isSome := by simp [hcb]
      have hcap := capAndFeed_inv hrest o hknown
      simp only [hstart r rest hwork hknown, Bool.not_true, Bool.false_eq_true, if_false]
      split
      · next t heq =>
        rw [heq] at hcap
        exact hcap
      · next t heq =>
        rw [heq] at hcap
        exact hcap.congr rfl rfl rfl rfl rfl rfl rfl rfl
  · exact h

/-- A stream that does not start takes the frame out of the hands of the work thread uncounted. -/
theorem serve_miscounts {cam : Camera} {s : Session} (h : CountInv cam s) {o : Outcome}
    {r : FrameRequest} {rest : List FrameRequest} (hwork : s.work = some (r :: rest))
    (hknown : (cam.pipelines r.pipeline_id).isSome) (hstart : o.started = false) :
    ¬ (s.serve cam o).RequestsBalance := by
  obtain ⟨cb, hcb⟩ := Option.isSome_iff_exists.mp hknown
  have hreq := h.requests
  simp only [Session.RequestsBalance, Session.working, hwork, Option.isSome_some, if_true] at hreq
  simp only [Session.RequestsBalance, Session.serve, hwork, hcb, hstart, Session.working]
  exact miscount hreq

theorem finish_inv {cam : Camera} {s : Session} (h : CountInv cam s) : CountInv cam s.finish := by
  unfold Session.finish
  split
  · next hwork =>
    have hreq := h.requests
    simp only [Session.RequestsBalance, Session.working, hwork, Option.isSome_some, if_true] at hreq
    exact ⟨h.keys, h.listed, h.held, count_down hreq, h.images⟩
  · exact h

theorem takeImage_inv {cam : Camera} {s : Session} (h : CountInv cam s) : CountInv cam s.takeImage := by
  unfold Session.takeImage
  split
  · next f rest himage hlist =>
    have himg := h.images
    refine ⟨h.keys, fun g hg => h.listed g (hlist ▸ List.mem_cons_of_mem f hg), ?_, h.requests, ?_⟩
    · rintro g ⟨⟩
      exact h.listed f (hlist ▸ List.mem_cons_self)
    · simpa [Session.ImagesBalance, Session.handling, himage, hlist] using himg
  · exact h

/-- The pipeline is known, so the image is counted, with a buffer or without. -/
theorem processImage_inv {cam : Camera} {s : Session} (h : CountInv cam s) :
    CountInv cam (s.processImage cam) := by
  unfold Session.processImage
  split
  · next f himage =>
    have himg := h.images
    simp only [Session.ImagesBalance, Session.handling, himage] at himg
    have hcount := count_down himg
    obtain ⟨cb, hcb⟩ := Option.isSome_iff_exists.mp (h.held f himage)
    simp only [hcb]
    split <;> exact ⟨h.keys, h.listed, by simp, h.requests, hcount⟩
  · exact h

theorem releaseImgFeed_inv {cam : Camera} {s : Session} (h : CountInv cam s) :
    CountInv cam s.releaseImgFeed := by
  unfold Session.releaseImgFeed
  split
  · next f errorDue himage =>
    have himg := h.images
    refine ⟨h.keys, h.listed, by simp, h.requests, ?_⟩
    simpa [Session.ImagesBalance, Session.handling, himage] using himg
  · exact h

theorem step_inv {cam : Camera} {s : Session} {a : Act} (h : CountInv cam s) (hc : Counted cam s a) :
    CountInv cam (step cam s a) := by
  cases a with
  | submitRequests frame requests => exact submitRequests_inv h frame requests hc
  | takeRequest => exact takeRequest_inv h
  | serve o => exact serve_inv h o hc
  | finish => exact finish_inv h
  | takeImage => exact takeImage_inv h
  | processImage => exact processImage_inv h
  | releaseImgFeed => exact releaseImgFeed_inv h

/-- Camera drain counters: they balance in every state of a run, and an idle session keeps nobody
    waiting, exactly when no call reuses the number of a frame that still waits and every stream
    starts. -/
theorem counters_balance_iff (cam : Camera) (as : List Act) :
    Always (step cam) (fun _ _ t => CountersBalance t) Session.new as
      ↔ Meets (step cam) (Counted cam) Session.new as := by
  have hstep : ∀ s a, CountInv cam s → Counted cam s a →
      CountInv cam (step cam s a) ∧ CountersBalance (step cam s a) := fun s a h hc =>
    ⟨step_inv h hc, countersBalance_of_inv (step_inv h hc)⟩
  have hfail : ∀ s a, CountInv cam s → CountersBalance (step cam s a) → Counted cam s a := by
    rintro s a h ⟨hreq, -, -⟩
    cases a with
    | submitRequests frame requests =>
      intro e he hk
      exact submitRequests_miscounts h he hk hreq
    | serve o =>
      intro r rest hwork hknown
      by_contra hstart
      exact serve_miscounts h hwork hknown (Bool.eq_false_iff.mpr hstart) hreq
    | _ => trivial
  exact always_iff_meets hstep hfail as Session.new (countInv_new cam)

/-- The stream of the only request does not start: the session is idle, and its close waits for ever. -/
theorem failed_start_never_drains : ¬ Always (step oneStream) (fun _ _ t => CountersBalance t)
    Session.new [.submitRequests 1 [preview], .takeRequest, .serve ⟨false, fun _ => true, true⟩] := by
  rintro ⟨-, -, ⟨-, -, hidle⟩, -⟩
  obtain ⟨hwaits, -⟩ := hidle ⟨rfl, rfl, rfl, rfl⟩
  exact absurd hwaits (by decide)

end ImxHal.CameraSession
