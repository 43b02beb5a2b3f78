import Mathlib.Data.Finset.Image
import Mathlib.Data.List.Sort
import ImxHal.Schemes.Run

/-! @src camera/camera/CameraDeviceSessionHWLImpl.cpp (ConfigurePipeline, BuildPipelines, DestroyPipelines,
    SubmitRequests, CapAndFeed, HandleImage) |
    name:Results of a logical camera | scheme:run | family:producer-consumer

    Every stream that is configured appends the id of its camera to `camera_ids`. The results of a request
    name the cameras of its output buffers by position in that vector:

        streams configured so far     s₀  s₁  s₂ | s₃ …
        camera_ids                    c₀  c₁  c₂ | c₃ …        only ever grows
        output buffers of a request   b₀  b₁                   b₀ is said to be of c₀, b₁ of c₁ -/

namespace ImxHal.LogicalResults
open ImxHal.Run

structure Stream where
  id : ℕ
  is_physical_camera_stream : Bool
  physical_camera_id : ℕ
  deriving DecidableEq

/-- `PipelineInfo`. -/
structure PipelineInfo where
  streams : List Stream
  process_pipeline_result : Bool
  deriving DecidableEq

/-- A request as it was copied; a buffer is the id of its stream. -/
structure FrameRequest where
  pipeline_id : ℕ
  output_buffers : List ℕ
  camera_ids : List ℕ
  deriving DecidableEq

/-- What the results of a logical request say: a result for each output buffer, and the metadata results of
    the physical cameras. -/
structure Results where
  buffers : List (ℕ × ℕ)
  physical_camera_results : Finset ℕ
  deriving DecidableEq

/-- The camera of the session, and its physical cameras where it knows them. -/
structure Camera where
  camera_id_ : ℕ
  physical_meta_map_ : Option (List ℕ)

/-- `images` is `mImageList`; `delivered` is what the callbacks were given. -/
structure Session where
  map_pipeline_info : List (ℕ × PipelineInfo)
  pipeline_id_ : ℕ
  pipelines_built_ : Bool
  is_logical_request_ : Bool
  camera_ids : List ℕ
  map_frame_request : List (ℕ × List FrameRequest)
  images : List (ℕ × FrameRequest)
  delivered : List (ℕ × Results)

def Session.new : Session := ⟨[], 0, false, false, [], [], [], []⟩

/-- The arguments of `ConfigurePipeline`, with the verdict of `StreamCombJudge` on the streams. -/
structure Config where
  physical_camera_id : ℕ
  streams : List Stream
  supported : Bool
  process_pipeline_result : Bool

structure PipelineRequest where
  pipeline_id : ℕ
  output_buffers : List ℕ

/-- The calls and the two threads; `captured` tells which requests of the frame are captured. -/
inductive Event where
  | ConfigurePipeline (config : Config)
  | BuildPipelines
  | DestroyPipelines
  | SubmitRequests (frame_number : ℕ) (requests : List PipelineRequest)
  | HandleRequest (captured : ℕ → Bool)
  | HandleImage

/-! ### The session -/

def Camera.cameraOf (cam : Camera) (stream : Stream) : ℕ :=
  if stream.is_physical_camera_stream then stream.physical_camera_id else cam.camera_id_

/-- The checks at the start of `ConfigurePipeline`. -/
def Camera.accepts (cam : Camera) (s : Session) (config : Config) : Bool :=
  !s.pipelines_built_ && config.supported &&
    (match cam.physical_meta_map_ with
      | some physical =>
        config.physical_camera_id = cam.camera_id_ || physical.contains config.physical_camera_id
      | none => true) &&
    config.streams ≠ []

def Session.configurePipeline (cam : Camera) (s : Session) (config : Config) : Session :=
  if cam.accepts s config then
    { s with
      is_logical_request_ := config.streams.any fun stream => stream.is_physical_camera_stream
      camera_ids := s.camera_ids ++ config.streams.map cam.cameraOf
      map_pipeline_info :=
        s.map_pipeline_info ++ [(s.pipeline_id_, ⟨config.streams, config.process_pipeline_result⟩)]
      pipeline_id_ := s.pipeline_id_ + 1 }
  else s

def Session.buildPipelines (s : Session) : Session :=
  if s.pipelines_built_ || s.map_pipeline_info.isEmpty then s else { s with pipelines_built_ := true }

/-- The call waits until no request and no image is on its way; until then nothing is destroyed. -/
def Session.destroyPipelines (s : Session) : Session :=
  if s.pipelines_built_ && s.map_frame_request.isEmpty && s.images.isEmpty then
    { s with map_pipeline_info := [], pipelines_built_ := false }
  else s

/-- `map_frame_request[frame_number] = frame_request`. -/
def Session.submitRequests (s : Session) (frame_number : ℕ) (requests : List PipelineRequest) : Session :=
  let request := requests.map fun r => ⟨r.pipeline_id, r.output_buffers, s.camera_ids⟩
  let others := s.map_frame_request.filter fun e => e.1 ≠ frame_number
  { s with map_frame_request := others.orderedInsert (fun e e' => e.1 ≤ e'.1) (frame_number, request) }

def Session.GetPipelineInfo (s : Session) (pipeline_id : ℕ) : Option PipelineInfo :=
  (s.map_pipeline_info.find? fun e => e.1 = pipeline_id).map Prod.snd

/-- The first stream with that id, over all pipelines. -/
def Session.GetStreamFromStreamBuffer (s : Session) (stream_id : ℕ) : Option Stream :=
  (s.map_pipeline_info.flatMap fun e => e.2.streams).find? fun stream => stream.id = stream_id

/-- Whether `CapAndFeed` feeds a request: outside the device it takes a known pipeline and, for a logical
    request, configured streams. -/
def Session.feeds (s : Session) (captured : ℕ → Bool) (r : FrameRequest) (i : ℕ) : Bool :=
  (s.GetPipelineInfo r.pipeline_id).isSome && captured i &&
    (!s.is_logical_request_ || r.output_buffers.all fun b => (s.GetStreamFromStreamBuffer b).isSome)

def Session.handleRequest (s : Session) (captured : ℕ → Bool) : Session :=
  match s.map_frame_request with
  | [] => s
  | (frame, request) :: rest =>
    { s with
      map_frame_request := rest
      images := s.images ++
        ((request.zipIdx.filter fun p => s.feeds captured p.1 p.2).map fun p => (frame, p.1)) }

/-- The results of a logical request. Both vectors are read without a check; behind their end there is
    no result. -/
def Session.results (cam : Camera) (s : Session) (r : FrameRequest) : Option Results :=
  let n := r.output_buffers.length
  if r.camera_ids.length < n then none
  else
    let physical_camera_output_ids := ((r.camera_ids.take n).filter fun id => id ≠ cam.camera_id_).toFinset
    if physical_camera_output_ids = ∅ then some ⟨[], ∅⟩
    else if s.camera_ids.length < n then none
    else some ⟨(s.camera_ids.take n).zip r.output_buffers, physical_camera_output_ids⟩

/-- An image; a request of an unknown pipeline is passed over. -/
def Session.handleImage (cam : Camera) (s : Session) : Session :=
  match s.images with
  | [] => s
  | (frame, r) :: rest =>
    let s' := { s with images := rest }
    match s.GetPipelineInfo r.pipeline_id, s.results cam r with
    | some info, some results =>
      if s.is_logical_request_ && info.process_pipeline_result then
        { s' with delivered := s.delivered ++ [(frame, results)] }
      else s'
    | _, _ => s'

def step (cam : Camera) (s : Session) : Event → Session
  | .ConfigurePipeline config => s.configurePipeline cam config
  | .BuildPipelines => s.buildPipelines
  | .DestroyPipelines => s.destroyPipelines
  | .SubmitRequests frame_number requests => s.submitRequests frame_number requests
  | .HandleRequest captured => s.handleRequest captured
  | .HandleImage => s.handleImage cam

/-! ### What the results should say -/

/-- The next image is of a logical request whose buffers belong to configured streams. -/
def Due (s : Session) (r : FrameRequest) : Prop :=
  s.images.head?.map Prod.snd = some r ∧ s.is_logical_request_ = true ∧
    (s.GetPipelineInfo r.pipeline_id).isSome ∧ ∀ b ∈ r.output_buffers, (s.GetStreamFromStreamBuffer b).isSome

/-- The camera of the stream a buffer belongs to. -/
def Session.cameraOfBuffer (cam : Camera) (s : Session) (b : ℕ) : ℕ :=
  ((s.GetStreamFromStreamBuffer b).map cam.cameraOf).getD cam.camera_id_

/-- The physical cameras among the output buffers. -/
def Session.physicalCameras (s : Session) (r : FrameRequest) : Finset ℕ :=
  (((r.output_buffers.filterMap s.GetStreamFromStreamBuffer).filter
    fun stream => stream.is_physical_camera_stream).map Stream.physical_camera_id).toFinset

/-- The results name the camera of every buffer, and each physical camera has one metadata result. -/
def NamesCameras (cam : Camera) (s : Session) : Prop :=
  ∀ r, Due s r → ∃ results, s.results cam r = some results ∧
    (∀ p ∈ results.buffers, p.1 = s.cameraOfBuffer cam p.2) ∧
    results.physical_camera_results = s.physicalCameras r

/-- The streams configured in a run, in their order. -/
def everConfigured (cam : Camera) : Session → List Event → List Stream
  | _, [] => []
  | s, e :: es =>
    (match e with
      | .ConfigurePipeline config => if cam.accepts s config then config.streams else []
      | _ => []) ++ everConfigured cam (step cam s e) es

/-- The buffers of the next logical request come in the order in which the streams of the session were
    configured, up to the cameras of the streams; the request was made after that, and no physical camera
    has the id of the logical one. -/
def InOrder (cam : Camera) (configured : List Stream) (s : Session) : Prop :=
  ∀ r, Due s r → r.output_buffers.length ≤ r.camera_ids.length ∧
    ∀ (j b : ℕ) (stream : Stream), r.output_buffers[j]? = some b →
      s.GetStreamFromStreamBuffer b = some stream →
      (∃ first, configured[j]? = some first ∧ cam.cameraOf first = cam.cameraOf stream) ∧
      (stream.is_physical_camera_stream = true → stream.physical_camera_id ≠ cam.camera_id_)

/-! ### The vector of camera ids -/

/-- All copies of the vector, in requests that wait. -/
def Session.copied (s : Session) : List FrameRequest :=
  (s.map_frame_request.flatMap Prod.snd) ++ s.images.map Prod.snd

/-- Every copy is what the vector was at some time: a part of it from the start. -/
def Prefixes (s : Session) : Prop := ∀ r ∈ s.copied, r.camera_ids <+: s.camera_ids

/-- The vector grows by the cameras of what is configured, and by nothing else. -/
theorem step_camera_ids (cam : Camera) (s : Session) (e : Event) :
    (step cam s e).camera_ids = s.camera_ids ++ (everConfigured cam s [e]).map cam.cameraOf := by
  cases e with
  | ConfigurePipeline config =>
    rw [step, Session.configurePipeline, everConfigured]
    split_ifs <;> simp [everConfigured]
  | BuildPipelines =>
    rw [step, Session.buildPipelines]
    split_ifs <;> simp [everConfigured]
  | DestroyPipelines =>
    rw [step, Session.destroyPipelines]
    split_ifs <;> simp [everConfigured]
  | SubmitRequests frame_number requests => simp [step, Session.submitRequests, everConfigured]
  | HandleRequest captured =>
    rw [step, Session.handleRequest]
    split <;> simp [everConfigured]
  | HandleImage =>
    rw [step, Session.handleImage]
    split
    · simp [everConfigured]
    · split
      · split_ifs <;> simp [everConfigured]
      · simp [everConfigured]

theorem run_camera_ids (cam : Camera) (es : List Event) (s : Session) :
    (run (step cam) s es).camera_ids = s.camera_ids ++ (everConfigured cam s es).map cam.cameraOf := by
  induction es generalizing s with
  | nil => simp [run, everConfigured]
  | cons e es ih =>
    rw [run_cons, ih, step_camera_ids]
    simp [everConfigured]

/-- A step drops copies or adds one of the vector as it is. -/
theorem step_copied (cam : Camera) (s : Session) (e : Event) :
    ∀ r ∈ (step cam s e).copied, r ∈ s.copied ∨ r.camera_ids = s.camera_ids := by
  intro r hr
  cases e with
  | ConfigurePipeline config =>
    rw [step, Session.configurePipeline] at hr
    split_ifs at hr <;> exact Or.inl hr
  | BuildPipelines =>
    rw [step, Session.buildPipelines] at hr
    split_ifs at hr <;> exact Or.inl hr
  | DestroyPipelines =>
    rw [step, Session.destroyPipelines] at hr
    split_ifs at hr <;> exact Or.inl hr
  | SubmitRequests frame_number requests =>
    simp only [step, Session.submitRequests, Session.copied, List.mem_append, List.mem_flatMap,
      List.mem_orderedInsert, List.mem_filter] at hr ⊢
    rcases hr with ⟨entry, rfl | ⟨hentry, -⟩, hr⟩ | hr
    · obtain ⟨request, -, rfl⟩ := List.mem_map.mp hr
      exact Or.inr rfl
    · exact Or.inl (Or.inl ⟨entry, hentry, hr⟩)
    · exact Or.inl (Or.inr hr)
  | HandleRequest captured =>
    rw [step, Session.handleRequest] at hr
    split at hr
    · exact Or.inl hr
    · next frame request rest hmap =>
      simp only [Session.copied, hmap, List.mem_append, List.flatMap_cons, List.map_append,
        List.map_map] at hr ⊢
      rcases hr with hr | hr | hr
      · exact Or.inl (Or.inl (Or.inr hr))
      · exact Or.inl (Or.inr hr)
      · obtain ⟨p, hp, rfl⟩ := List.mem_map.mp hr
        have hmem := (List.mem_filter.mp hp).1
        exact Or.inl (Or.inl (Or.inl (List.fst_mem_of_mem_zipIdx hmem)))
  | HandleImage =>
    have hsub : ∀ f rest, s.images = f :: rest → r ∈ { s with images := rest }.copied → r ∈ s.copied := by
      intro f rest himages hmem
      simp only [Session.copied, himages, List.map_cons, List.mem_append, List.mem_cons] at hmem ⊢
      tauto
    rw [step, Session.handleImage] at hr
    split at hr
    · exact Or.inl hr
    · next frame q rest himages =>
      split at hr
      · split_ifs at hr <;> exact Or.inl (hsub _ rest himages hr)
      · exact Or.inl (hsub _ rest himages hr)

theorem step_prefixes {cam : Camera} {s : Session} (hs : Prefixes s) (e : Event) :
    Prefixes (step cam s e) := by
  intro r hr
  have hgrow : s.camera_ids <+: (step cam s e).camera_ids := by
    rw [step_camera_ids]
    exact List.prefix_append _ _
  rcases step_copied cam s e r hr with hold | heq
  · exact (hs r hold).trans hgrow
  · rw [heq]; exact hgrow

theorem run_prefixes (cam : Camera) (es : List Event) : Prefixes (run (step cam) Session.new es) :=
  run_inv Prefixes (C := fun _ => True) (fun _ e hs _ => step_prefixes hs e) es Session.new
    (fun _ hr => by cases hr) fun _ _ => trivial

/-! ### Results -/

section Results
variable {cam : Camera} {s : Session} {r : FrameRequest}

/-- The cameras that the buffers of a request belong to. -/
def Session.cameras (cam : Camera) (s : Session) (r : FrameRequest) : List ℕ :=
  r.output_buffers.map (s.cameraOfBuffer cam)

/-- No physical camera among the buffers has the logical id. -/
def Session.Distinct (cam : Camera) (s : Session) (r : FrameRequest) : Prop :=
  cam.camera_id_ ∉ s.physicalCameras r

theorem mem_physicalCameras {id : ℕ} : id ∈ s.physicalCameras r ↔
    ∃ b ∈ r.output_buffers, ∃ stream, s.GetStreamFromStreamBuffer b = some stream ∧
      stream.is_physical_camera_stream = true ∧ stream.physical_camera_id = id := by
  simp only [Session.physicalCameras, List.mem_toFinset, List.mem_map, List.mem_filter, List.mem_filterMap]
  constructor
  · rintro ⟨stream, ⟨⟨b, hb, hstream⟩, hphys⟩, rfl⟩
    exact ⟨b, hb, stream, hstream, hphys, rfl⟩
  · rintro ⟨b, hb, stream, hstream, hphys, rfl⟩
    exact ⟨stream, ⟨⟨b, hb, hstream⟩, hphys⟩, rfl⟩

/-- The ids other than the logical one are those of the physical cameras. -/
theorem filter_cameras (hdue : ∀ b ∈ r.output_buffers, (s.GetStreamFromStreamBuffer b).isSome)
    (hdistinct : s.Distinct cam r) :
    ((s.cameras cam r).filter fun id => id ≠ cam.camera_id_).toFinset = s.physicalCameras r := by
  ext id
  rw [mem_physicalCameras]
  simp only [Session.cameras, List.mem_toFinset, List.mem_filter, List.mem_map, decide_eq_true_eq]
  constructor
  · rintro ⟨⟨b, hb, rfl⟩, hne⟩
    obtain ⟨stream, hstream⟩ := Option.isSome_iff_exists.mp (hdue b hb)
    refine ⟨b, hb, stream, hstream, ?_⟩
    simp only [Session.cameraOfBuffer, hstream, Option.map_some, Option.getD_some, Camera.cameraOf] at hne ⊢
    split_ifs at hne ⊢ with hphys
    · exact ⟨hphys, rfl⟩
    · exact absurd rfl hne
  · rintro ⟨b, hb, stream, hstream, hphys, rfl⟩
    refine ⟨⟨b, hb, by simp [Session.cameraOfBuffer, hstream, Camera.cameraOf, hphys]⟩,
      fun heq => hdistinct ?_⟩
    exact mem_physicalCameras.mpr ⟨b, hb, stream, hstream, hphys, heq⟩

/-- The pairs of two lists of one length agree along `f` exactly if the first is the image of the second. -/
theorem forall_zip_iff {f : ℕ → ℕ} : ∀ {ids bs : List ℕ}, ids.length = bs.length →
    ((∀ p ∈ ids.zip bs, p.1 = f p.2) ↔ ids = bs.map f)
  | [], [], _ => by simp
  | id :: ids, b :: bs, h => by
    rw [List.zip_cons_cons, List.forall_mem_cons, List.map_cons, List.cons.injEq,
      forall_zip_iff (Nat.succ_injective h)]

/-- The ids of the vector that the results are made of. -/
def Session.namedIds (s : Session) (r : FrameRequest) : List ℕ := s.camera_ids.take r.output_buffers.length

/-- The ids other than the logical one. -/
def Camera.physicalIds (cam : Camera) (ids : List ℕ) : Finset ℕ :=
  (ids.filter fun id => id ≠ cam.camera_id_).toFinset

/-- A copy that is long enough is read like the vector itself. -/
theorem results_eq (hfront : r.camera_ids <+: s.camera_ids)
    (hlong : r.output_buffers.length ≤ r.camera_ids.length) :
    s.results cam r = some (if cam.physicalIds (s.namedIds r) = ∅ then ⟨[], ∅⟩
      else ⟨(s.namedIds r).zip r.output_buffers, cam.physicalIds (s.namedIds r)⟩) := by
  have htake : r.camera_ids.take r.output_buffers.length = s.camera_ids.take r.output_buffers.length := by
    obtain ⟨rest, hrest⟩ := hfront
    rw [← hrest, List.take_append_of_le_length hlong]
  have hlen : ¬ s.camera_ids.length < r.output_buffers.length := by
    have := hfront.length_le
    omega
  rw [Session.results, if_neg (by omega), htake]
  simp only [hlen, if_false, Session.namedIds, Camera.physicalIds]
  exact (apply_ite some _ _ _).symm

/-- Where no physical id is among the ids, all of them are the logical one. -/
theorem eq_replicate_of_physicalIds {ids : List ℕ} (h : cam.physicalIds ids = ∅) :
    ids = List.replicate ids.length cam.camera_id_ := by
  refine List.eq_replicate_iff.mpr ⟨rfl, fun id hid => by_contra fun hne => ?_⟩
  have hmem : id ∈ cam.physicalIds ids :=
    List.mem_toFinset.mpr (List.mem_filter.mpr ⟨hid, by simpa using hne⟩)
  rw [h] at hmem
  exact absurd hmem (Finset.notMem_empty id)

theorem logical_notMem (ids : List ℕ) : cam.camera_id_ ∉ cam.physicalIds ids := by
  simp [Camera.physicalIds]

/-- What the results say is right exactly if the vector names the cameras of the buffers. -/
theorem results_right_iff (hfront : r.camera_ids <+: s.camera_ids)
    (hdue : ∀ b ∈ r.output_buffers, (s.GetStreamFromStreamBuffer b).isSome) :
    (∃ results, s.results cam r = some results ∧ (∀ p ∈ results.buffers, p.1 = s.cameraOfBuffer cam p.2) ∧
      results.physical_camera_results = s.physicalCameras r) ↔
    r.output_buffers.length ≤ r.camera_ids.length ∧ s.namedIds r = s.cameras cam r ∧ s.Distinct cam r := by
  rcases Nat.lt_or_ge r.camera_ids.length r.output_buffers.length with hshort | hlong
  · rw [Session.results, if_pos hshort]
    constructor
    · rintro ⟨results, h, -⟩
      cases h
    · rintro ⟨h, -⟩
      omega
  have hids : (s.namedIds r).length = r.output_buffers.length := by
    have := hfront.length_le
    rw [Session.namedIds, List.length_take]
    omega
  rw [results_eq hfront hlong]
  constructor
  · rintro ⟨results, hres, hnames, hmeta⟩
    obtain rfl := Option.some.inj hres
    refine ⟨hlong, ?_⟩
    split_ifs at hnames hmeta with hempty
    · have hdistinct : s.Distinct cam r := by rw [Session.Distinct, ← hmeta]; exact Finset.notMem_empty _
      have hcameras : cam.physicalIds (s.cameras cam r) = ∅ :=
        (filter_cameras hdue hdistinct).trans hmeta.symm
      refine ⟨?_, hdistinct⟩
      rw [eq_replicate_of_physicalIds hempty, eq_replicate_of_physicalIds hcameras, hids, Session.cameras,
        List.length_map]
    · refine ⟨(forall_zip_iff hids).mp hnames, ?_⟩
      rw [Session.Distinct, ← hmeta]
      exact logical_notMem (s.namedIds r)
  · rintro ⟨-, hcameras, hdistinct⟩
    have hmeta : cam.physicalIds (s.namedIds r) = s.physicalCameras r := by
      rw [hcameras]
      exact filter_cameras hdue hdistinct
    refine ⟨_, rfl, ?_⟩
    split_ifs with hempty
    · exact ⟨fun p hp => (by cases hp), hempty.symm.trans hmeta⟩
    · exact ⟨(forall_zip_iff hids).mpr hcameras, hmeta⟩

end Results

/-- CORRECT: after any sequence of calls, the results of the next logical request name the right cameras
    exactly if its buffers come in the order in which the streams were ever configured. -/
theorem names_cameras_iff (cam : Camera) (es : List Event) :
    NamesCameras cam (run (step cam) Session.new es) ↔
      InOrder cam (everConfigured cam Session.new es) (run (step cam) Session.new es) := by
  have hids := run_camera_ids cam es Session.new
  have hprefixes := run_prefixes cam es
  generalize run (step cam) Session.new es = s at hids hprefixes ⊢
  generalize everConfigured cam Session.new es = configured at hids ⊢
  refine forall₂_congr fun r hdue => ?_
  have hmem : r ∈ s.copied := by
    obtain ⟨f, hf, rfl⟩ := Option.map_eq_some_iff.mp hdue.1
    exact List.mem_append_right _ (List.mem_map_of_mem (List.mem_of_mem_head? hf))
  rw [results_right_iff (hprefixes r hmem) hdue.2.2.2]
  refine and_congr_right fun hlong => ?_
  have hlen : r.output_buffers.length ≤ configured.length := by
    have hle := (hprefixes r hmem).length_le
    rw [hids] at hle
    simp only [Session.new, List.nil_append, List.length_map] at hle
    omega
  have hnamed : ∀ j < r.output_buffers.length, (s.namedIds r)[j]? = (configured[j]?).map cam.cameraOf := by
    intro j hj
    rw [Session.namedIds, hids, Session.new, List.nil_append, List.getElem?_take_of_lt hj, List.getElem?_map]
  have hcamera : ∀ b stream, s.GetStreamFromStreamBuffer b = some stream →
      s.cameraOfBuffer cam b = cam.cameraOf stream := by
    intro b stream hstream
    rw [Session.cameraOfBuffer, hstream]
    rfl
  constructor
  · rintro ⟨hnames, hdistinct⟩ j b stream hb hstream
    obtain ⟨hj, -⟩ := List.getElem?_eq_some_iff.mp hb
    refine ⟨?_, fun hphys heq => hdistinct (mem_physicalCameras.mpr
      ⟨b, List.mem_of_getElem? hb, stream, hstream, hphys, heq⟩)⟩
    have hat := hnamed j hj
    rw [hnames, Session.cameras, List.getElem?_map, hb, Option.map_some, hcamera b stream hstream] at hat
    obtain ⟨first, hfirst, hcam⟩ := Option.map_eq_some_iff.mp hat.symm
    exact ⟨first, hfirst, hcam⟩
  · intro horder
    refine ⟨List.ext_getElem? fun j => ?_, fun hclash => ?_⟩
    · rcases Nat.lt_or_ge j r.output_buffers.length with hj | hj
      · obtain ⟨stream, hstream⟩ := Option.isSome_iff_exists.mp (hdue.2.2.2 _ (List.getElem_mem hj))
        obtain ⟨⟨first, hfirst, hcam⟩, -⟩ := horder j _ stream (List.getElem?_eq_getElem hj) hstream
        rw [hnamed j hj, hfirst, Session.cameras, List.getElem?_map, List.getElem?_eq_getElem hj,
          Option.map_some, Option.map_some, hcam, hcamera _ stream hstream]
      · rw [List.getElem?_eq_none, List.getElem?_eq_none]
        · rw [Session.cameras, List.length_map]; exact hj
        · rw [Session.namedIds, List.length_take]; omega
    · obtain ⟨b, hb, stream, hstream, hphys, heq⟩ := mem_physicalCameras.mp hclash
      obtain ⟨j, hj, rfl⟩ := List.getElem_of_mem hb
      exact (horder j _ stream (List.getElem?_eq_getElem hj) hstream).2 hphys heq

/-- A session whose second configuration has another physical camera than the first: its buffer is said to
    be of the first one. -/
theorem second_configuration_misnamed :
    let cam : Camera := ⟨0, some [1, 2]⟩
    let config (id physical : ℕ) : Config := ⟨0, [⟨id, true, physical⟩], true, true⟩
    let s := run (step cam) Session.new [.ConfigurePipeline (config 10 1), .BuildPipelines, .DestroyPipelines,
      .ConfigurePipeline (config 20 2), .BuildPipelines, .SubmitRequests 5 [⟨1, [20]⟩],
      .HandleRequest fun _ => true]
    (step cam s .HandleImage).delivered = [(5, ⟨[(1, 20)], {1}⟩)] ∧ ¬ NamesCameras cam s := by
  intro cam config s
  refine ⟨by decide +kernel, fun h => ?_⟩
  obtain ⟨results, hres, -, hmeta⟩ := h ⟨1, [20], [1, 2]⟩ ⟨by decide +kernel, rfl, rfl, by decide +kernel⟩
  have hids : results.physical_camera_results = {1} :=
    congrArg Results.physical_camera_results (Option.some.inj (hres.symm.trans (by decide +kernel)) :
      results = ⟨[(1, 20)], {1}⟩)
  rw [hids] at hmeta
  revert hmeta
  decide +kernel

end ImxHal.LogicalResults
