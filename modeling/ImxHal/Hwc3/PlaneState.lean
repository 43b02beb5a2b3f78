import ImxHal.Hwc3.DrmDisplay

/-! @src display/hwcomposer3/DrmClient.cpp (flushToDisplay), display/hwcomposer3/DrmDisplay.cpp |
    name:Kernel plane state under commit failures | scheme:run | family:shadow-state

    Runs of frames, each with any flush calls and a commit that may fail. After a successful commit
    the kernel should have exactly the planes of this frame enabled. The user-space state of a plane
    that the kernel still shows is `DISABLED` right after the commit that showed it; a frame that
    fails afterwards overwrites that record (`lost`), and the next successful frame then no longer
    knows that the plane has to be disabled. The law holds exactly for the runs in which such a plane
    is flushed again. -/

namespace ImxHal.Hwc3.Commit
open ImxHal.Run

/-- One frame as `flushToDisplay` gets it: the overlay buffers by plane, the client target, and the
    outcomes of the calls that are made for it. -/
structure Frame where
  connected : Bool
  overlays : List (ℕ × DrmBuffer × SetEnv)
  primary : Option (DrmBuffer × SetEnv)
  inSyncFd : ℤ
  commit : CommitEnv

/-- How far a frame came. -/
inductive Stage where | skipped | flushFailed | noRequest | commitFailed | committed
  deriving DecidableEq

/-- The display and the kernel, with the record the law is about: the planes of the last frame that
    was committed, and the planes whose state a failed frame has overwritten since. -/
structure Sys where
  disp : DrmDisplay
  kernel : Kernel
  shown : List ℕ
  lost : ℕ → Bool

/-- The flush calls of a frame: whether all succeeded, the planes flushed before the first error. -/
structure Flushes where
  ok : Bool
  flushed : List ℕ
  request : Option Request
  disp : DrmDisplay

/-- The loop of `flushOverlay` calls. -/
def flushOverlays (d : DrmDisplay) (request : Option Request) :
    List (ℕ × DrmBuffer × SetEnv) → Flushes
  | [] => ⟨true, [], request, d⟩
  | (planeId, buffer, env) :: rest =>
    let out := d.flushOverlay planeId request buffer env
    if out.error = .None then
      let more := flushOverlays out.disp out.request rest
      { more with flushed := planeId :: more.flushed }
    else ⟨false, [], out.request, out.disp⟩

/-- The flush calls of a frame, the primary plane last. -/
def flushPlanes (d : DrmDisplay) (f : Frame) : Flushes :=
  let fl := flushOverlays d none f.overlays
  match fl.ok, f.primary with
  | true, some (buffer, env) =>
    let primaryPlane := fl.disp.getPrimaryPlaneId
    let out := fl.disp.flushPrimary primaryPlane fl.request f.inSyncFd buffer env
    if out.error = .None then ⟨true, fl.flushed ++ [primaryPlane], out.request, out.disp⟩
    else ⟨false, fl.flushed, out.request, out.disp⟩
  | _, _ => fl

/-- What `flushToDisplay` did. -/
structure Shown where
  stage : Stage
  flushed : List ℕ
  disp : DrmDisplay
  kernel : Kernel

def flushToDisplay (d : DrmDisplay) (k : Kernel) (f : Frame) : Shown :=
  if f.connected = false then ⟨.skipped, [], d, k⟩
  else
    let fl := flushPlanes d f
    if fl.ok = false then ⟨.flushFailed, fl.flushed, fl.disp, k⟩
    else
      let out := fl.disp.commit k fl.request f.commit
      match out.result with
      | .noRequest => ⟨.noRequest, fl.flushed, out.disp, out.kernel⟩
      | .failed => ⟨.commitFailed, fl.flushed, out.disp, out.kernel⟩
      | .done => ⟨.committed, fl.flushed, out.disp, out.kernel⟩

def step (s : Sys) (f : Frame) : Sys :=
  let out := flushToDisplay s.disp s.kernel f
  match out.stage with
  | .committed => ⟨out.disp, out.kernel, out.flushed, fun _ => false⟩
  | .commitFailed => ⟨out.disp, out.kernel, s.shown, fun _ => true⟩
  | .flushFailed => ⟨out.disp, out.kernel, s.shown, fun p => s.lost p || out.flushed.contains p⟩
  | .skipped | .noRequest => ⟨out.disp, out.kernel, s.shown, s.lost⟩

/-- The law: after a successful commit the planes the kernel has enabled on the CRTC are exactly the
    planes flushed in this frame. -/
def Exact (s : Sys) (f : Frame) (t : Sys) : Prop :=
  (flushToDisplay s.disp s.kernel f).stage = .committed →
    ∀ p, t.kernel.Enabled t.disp.mCrtc p ↔ p ∈ (flushToDisplay s.disp s.kernel f).flushed

/-- The planes a frame is for. -/
def Frame.planes (f : Frame) (d : DrmDisplay) : List ℕ :=
  f.overlays.map Prod.fst ++ (if f.primary.isSome then [d.getPrimaryPlaneId] else [])

/-- The outcomes its flush calls meet. -/
def Frame.sets (f : Frame) : List SetEnv :=
  f.overlays.map (fun o => o.2.2) ++ (f.primary.map Prod.snd).toList

/-- Nothing stands in the way of a frame: the display is connected and has the planes, the first
    call that needs the request can allocate it, and every property can be set and the last commit
    of the retry loop succeeds. -/
structure Accepted (d : DrmDisplay) (f : Frame) : Prop where
  connected : f.connected = true
  known : ∀ p ∈ f.planes d, p ∈ d.mPlanes.keys
  alloc : (f.sets.map SetEnv.alloc).headD f.commit.alloc = true
  sets : ∀ e ∈ f.sets, e.okay = true
  okay : f.commit.okay = true
  ret : commitLoop f.commit.rets d.mCommitRetryCnt 0 = 0

/-- A frame that nothing stands in the way of is for every plane of the last committed frame whose
    state a failed frame in between has overwritten. -/
def Reflushes (s : Sys) (f : Frame) : Prop :=
  Accepted s.disp f → ∀ p ∈ s.shown, s.lost p = true → p ∈ f.planes s.disp

/-! ### What a request does to the planes -/

theorem apply_append (k : Kernel) (r r' : Request) : k.apply (r ++ r') = (k.apply r).apply r' :=
  List.foldl_append

/-- A request without `CRTC_ID` items leaves every plane where it is. -/
theorem apply_of_no_crtcId (r : Request) (k : Kernel) (p : ℕ) (h : ∀ i ∈ r, i.prop ≠ .crtcId) :
    k.apply r p .crtcId = k p .crtcId := by
  refine run_inv (fun k' => k' p .crtcId = k p .crtcId) ?_ r k rfl h
  intro k' i hsame hi
  simp only [Kernel.set, hi.symm, and_false, if_false]
  exact hsame

/-- The request `r` puts the planes `F` on `crtc` and leaves the others. -/
def Enables (crtc : ℕ) (F : List ℕ) (r : Request) : Prop :=
  ∀ (k : Kernel) p, k.apply r p .crtcId = if p ∈ F then crtc else k p .crtcId

theorem enables_nil (crtc : ℕ) : Enables crtc [] [] := fun _ _ => by simp [Kernel.apply]

/-- Adding the items of one plane, its `CRTC_ID` first, enables that plane too. -/
theorem enables_append {crtc planeId : ℕ} {F : List ℕ} {r items : Request}
    (h : Enables crtc F r) (hitems : ∀ i ∈ items, i.prop ≠ .crtcId) :
    Enables crtc (F ++ [planeId]) (r ++ ⟨planeId, .crtcId, crtc⟩ :: items) := by
  intro k p
  rw [apply_append, Kernel.apply, List.foldl_cons, ← Kernel.apply,
    apply_of_no_crtcId items _ p hitems]
  simp only [Kernel.set, and_true, List.mem_append, List.mem_singleton]
  rw [h k p]
  by_cases hp : p = planeId <;> simp [hp]

theorem no_crtcId_of_props {r : Request} (ps : List DrmProp) (hr : r.map ReqItem.prop = ps)
    (hps : DrmProp.crtcId ∉ ps) : ∀ i ∈ r, i.prop ≠ .crtcId := by
  intro i hi hc
  exact hps (hr ▸ hc ▸ List.mem_map_of_mem hi)

theorem zposItem_no_crtcId (plane : DrmPlane) (planeId value : ℕ) :
    ∀ i ∈ zposItem plane planeId value, i.prop ≠ .crtcId := by
  intro i hi
  rw [zposItem] at hi
  split at hi
  · split at hi
    · simp at hi
    · rw [List.mem_singleton] at hi; simp [hi]
  · simp at hi

/-- The items of an overlay plane start with its `CRTC_ID` and set it only once. -/
theorem overlayItems_eq (d : DrmDisplay) (plane : DrmPlane) (planeId : ℕ) (buffer : DrmBuffer) :
    ∃ items, overlayItems d plane planeId buffer = ⟨planeId, .crtcId, d.mCrtc⟩ :: items ∧
      ∀ i ∈ items, i.prop ≠ .crtcId := by
  refine ⟨_, rfl, fun i hi => ?_⟩
  rcases List.mem_append.mp hi with h | h
  · exact no_crtcId_of_props
      [.fbId, .crtcX, .crtcY, .crtcW, .crtcH, .srcX, .srcY, .srcW, .srcH] rfl (by decide) i h
  · exact zposItem_no_crtcId _ _ _ i h

/-- So do the items of the primary plane. -/
theorem primaryItems_eq (d : DrmDisplay) (plane : DrmPlane) (planeId : ℕ) (fd : ℤ)
    (buffer : DrmBuffer) :
    ∃ items, primaryItems d plane planeId fd buffer = ⟨planeId, .crtcId, d.mCrtc⟩ :: items ∧
      ∀ i ∈ items, i.prop ≠ .crtcId := by
  refine ⟨_, rfl, fun i hi => ?_⟩
  rcases List.mem_append.mp hi with h | h
  · exact no_crtcId_of_props
      [.inFenceFd, .fbId, .crtcX, .crtcY, .crtcW, .crtcH, .srcX, .srcY, .srcW, .srcH]
      rfl (by decide) i h
  · exact zposItem_no_crtcId _ _ _ i h

/-! ### The flush calls -/

/-- What a sequence of successful flush calls has done to display `d`: the planes `F` are active and
    the request enables exactly them. -/
structure Flushed (d : DrmDisplay) (F : List ℕ) (r : Option Request) (d' : DrmDisplay) : Prop where
  planes : d'.mPlanes = d.mPlanes
  crtc : d'.mCrtc = d.mCrtc
  known : ∀ p ∈ F, p ∈ d.mPlanes.keys
  state : ∀ p, d'.mState p = if p ∈ F then .active else d.mState p
  enables : Enables d.mCrtc F (r.getD [])

theorem flushed_refl (d : DrmDisplay) : Flushed d [] none d :=
  ⟨rfl, rfl, by simp, by simp, enables_nil _⟩

theorem ensureRequest_getD {r : Option Request} {alloc : Bool} {r' : Request}
    (h : ensureRequest r alloc = some r') : r.getD [] = r' := by
  cases r with
  | some r => simpa [ensureRequest] using h
  | none =>
    cases alloc with
    | true => simpa [ensureRequest] using h
    | false => simp [ensureRequest] at h

theorem ensureRequest_none {r : Option Request} {alloc : Bool} :
    ensureRequest r alloc = none ↔ ¬ (r = none → alloc = true) := by
  cases r <;> cases alloc <;> simp [ensureRequest]

theorem ensureRequest_some {r : Option Request} {alloc : Bool} {r' : Request}
    (h : ensureRequest r alloc = some r') : r = none → alloc = true := by
  by_contra hne
  rw [ensureRequest_none.mpr hne] at h
  cases h

/-- One more plane made active with the items of its own `CRTC_ID`. -/
theorem flushed_snoc {d d' d'' : DrmDisplay} {F : List ℕ} {r : Option Request} {r' items : Request}
    {planeId : ℕ} (hf : Flushed d F r d') (hr : r.getD [] = r')
    (hlook : planeId ∈ d'.mPlanes.keys) (hitems : ∀ i ∈ items, i.prop ≠ .crtcId)
    (hp : d''.mPlanes = d'.mPlanes) (hc : d''.mCrtc = d'.mCrtc)
    (hs : d''.mState = Function.update d'.mState planeId .active) :
    Flushed d (F ++ [planeId]) (some (r' ++ ⟨planeId, .crtcId, d'.mCrtc⟩ :: items)) d'' where
  planes := hp.trans hf.planes
  crtc := hc.trans hf.crtc
  known := by
    intro p hmem
    rcases List.mem_append.mp hmem with h | h
    · exact hf.known p h
    · rw [List.mem_singleton] at h; rw [h, ← hf.planes]; exact hlook
  state := by
    intro p
    rw [hs, Function.update_apply]
    by_cases h : p = planeId
    · simp [h]
    · simp [h, hf.state p]
  enables := by
    rw [← hr, hf.crtc]
    exact enables_append hf.enables hitems

theorem mem_keys_of_lookup {m : PlaneMap} {p : ℕ} {plane : DrmPlane} (h : m.lookup p = some plane) :
    p ∈ m.keys :=
  AList.mem_keys.mp (AList.lookup_isSome.mp (by rw [h]; rfl))

/-- A flush call either succeeds and adds its plane, or changes nothing in the display. -/
def AddsPlane (d d' : DrmDisplay) (F : List ℕ) (planeId : ℕ) (out : FlushOut) : Prop :=
  (out.error = .None ∧ Flushed d (F ++ [planeId]) out.request out.disp) ∨
    (out.error ≠ .None ∧ out.disp = d')

theorem flushPlane_spec {d d' : DrmDisplay} {F : List ℕ} {r : Option Request}
    (hf : Flushed d F r d') (planeId : ℕ) (env : SetEnv) (items : DrmPlane → Request) (maxZpos : ℤ)
    (hitems : ∀ plane, ∃ rest, items plane = ⟨planeId, .crtcId, d'.mCrtc⟩ :: rest ∧
      ∀ i ∈ rest, i.prop ≠ .crtcId) :
    AddsPlane d d' F planeId (d'.flushPlane planeId r env items maxZpos) := by
  unfold DrmDisplay.flushPlane
  cases hl : d'.mPlanes.lookup planeId with
  | none => exact Or.inr ⟨by simp, rfl⟩
  | some plane =>
    cases hr : ensureRequest r env.alloc with
    | none => exact Or.inr ⟨by simp, rfl⟩
    | some r' =>
      cases hok : env.okay with
      | false => exact Or.inr ⟨by simp, rfl⟩
      | true =>
        obtain ⟨rest, heq, hrest⟩ := hitems plane
        refine Or.inl ⟨rfl, ?_⟩
        simp only [heq, if_true]
        exact flushed_snoc hf (ensureRequest_getD hr) (mem_keys_of_lookup hl) hrest rfl rfl rfl

/-- After some flush calls the reported planes are active; the request is the one that enables them
    as long as no call has failed. -/
def Reports (d : DrmDisplay) (F : List ℕ) (fl : Flushes) : Prop :=
  ∃ r, Flushed d (F ++ fl.flushed) r fl.disp ∧ (fl.ok = true → r = fl.request)

theorem flushOverlays_spec {d : DrmDisplay} (overlays : List (ℕ × DrmBuffer × SetEnv))
    (F : List ℕ) (r : Option Request) (d' : DrmDisplay) (hf : Flushed d F r d') :
    Reports d F (flushOverlays d' r overlays) := by
  induction overlays generalizing F r d' with
  | nil => exact ⟨r, by simpa [flushOverlays] using hf, fun _ => rfl⟩
  | cons overlay rest ih =>
    obtain ⟨planeId, buffer, env⟩ := overlay
    rw [flushOverlays]
    have hone : AddsPlane d d' F planeId (d'.flushOverlay planeId r buffer env) :=
      flushPlane_spec hf planeId env _ _ fun plane => overlayItems_eq d' plane planeId buffer
    rcases hone with ⟨he, hf'⟩ | ⟨he, hd⟩
    · obtain ⟨r', hr', heq⟩ := ih (F ++ [planeId]) _ _ hf'
      simp only [he, if_true]
      exact ⟨r', by simpa using hr', heq⟩
    · simp only [he, if_false, hd]
      exact ⟨r, by simpa using hf, fun h => Bool.noConfusion h⟩

theorem flushPlanes_spec (d : DrmDisplay) (f : Frame) : Reports d [] (flushPlanes d f) := by
  obtain ⟨r, hr, heq⟩ := flushOverlays_spec f.overlays [] none d (flushed_refl d)
  rw [flushPlanes]
  split
  · next buffer env hok _ =>
    rw [List.nil_append] at hr
    rw [heq hok] at hr
    have hone : AddsPlane d _ _ _ ((flushOverlays d none f.overlays).disp.flushPrimary _ _
        f.inSyncFd buffer env) :=
      flushPlane_spec hr (flushOverlays d none f.overlays).disp.getPrimaryPlaneId env _ _
        fun plane => primaryItems_eq _ plane _ f.inSyncFd buffer
    rcases hone with ⟨he, hf'⟩ | ⟨he, hd⟩
    · simp only [he, if_true]
      exact ⟨_, hf', fun _ => rfl⟩
    · simp only [he, if_false, hd]
      exact ⟨_, hr, fun h => Bool.noConfusion h⟩
  · exact ⟨r, hr, heq⟩

/-! ### The commit -/

/-- Disabling the planes `ps` in state `DISABLED` takes exactly them off their CRTC. -/
theorem apply_disable (state : ℕ → PlaneState) (ps : List ℕ) (k : Kernel) (p : ℕ) :
    k.apply (ps.flatMap fun p => if state p = .disabled then [⟨p, .crtcId, 0⟩, ⟨p, .fbId, 0⟩] else [])
      p .crtcId = if p ∈ ps ∧ state p = .disabled then 0 else k p .crtcId := by
  induction ps generalizing k with
  | nil => simp [Kernel.apply]
  | cons q ps ih =>
    rw [List.flatMap_cons, apply_append, ih]
    by_cases hq : state q = .disabled
    · by_cases hp : p = q
      · simp [hp, hq, Kernel.apply, Kernel.set]
      · simp [hp, hq, Kernel.apply, Kernel.set]
    · by_cases hp : p = q
      · simp [hp, hq, Kernel.apply]
      · simp [hp, hq, Kernel.apply]

theorem modesetItems_no_crtcId (d : DrmDisplay) : ∀ i ∈ modesetItems d, i.prop ≠ .crtcId := by
  intro i hi
  rw [modesetItems] at hi
  cases hm : d.mModeSet <;> cases hh : d.hdrMetadataValid <;> simp [hm, hh] at hi
  · simp [hi]
  · simp [hi]
  · rcases hi with rfl | rfl | rfl | rfl <;> simp
  · rcases hi with rfl | rfl | rfl | rfl | rfl <;> simp

/-- A request of only the flushed planes enables them, so an empty one flushes none. -/
theorem enables_empty {crtc : ℕ} {F : List ℕ} (hpos : 0 < crtc) (h : Enables crtc F []) : F = [] := by
  rw [List.eq_nil_iff_forall_not_mem]
  intro p hp
  have := h (fun _ _ => 0) p
  rw [if_pos hp] at this
  simp [Kernel.apply] at this
  omega

/-- What `commit` can do, result by result. -/
inductive Commits (d : DrmDisplay) (k : Kernel) (r : Option Request) : CommitOut → Prop where
  | noRequest : r = none → Commits d k r ⟨.noRequest, d, k⟩
  | failed : Commits d k r ⟨.failed, { d with mState := disableStates d }, k⟩
  | done (d') : d'.mPlanes = d.mPlanes → d'.mCrtc = d.mCrtc →
      d'.mState = committedStates { d with mState := disableStates d } →
      Commits d k r ⟨.done, d', k.apply (r.getD [] ++ disableItems d ++ modesetItems d)⟩

theorem commit_spec (d : DrmDisplay) (k : Kernel) (r : Option Request) (env : CommitEnv) :
    Commits d k r (d.commit k r env) := by
  rw [DrmDisplay.commit]
  cases hreq : ensureRequest r env.alloc with
  | none => exact .noRequest (Classical.not_imp.mp (ensureRequest_none.mp hreq)).1
  | some r' =>
    simp only [← ensureRequest_getD hreq]
    split
    · exact .failed
    · split
      · exact .failed
      · exact .done _ rfl rfl rfl

/-- What `flushToDisplay` can do, stage by stage. -/
inductive Reached (d : DrmDisplay) (k : Kernel) : Shown → Prop where
  | skipped : Reached d k ⟨.skipped, [], d, k⟩
  | flushFailed (F r d') : Flushed d F r d' → Reached d k ⟨.flushFailed, F, d', k⟩
  | noRequest (d') : Flushed d [] none d' → Reached d k ⟨.noRequest, [], d', k⟩
  | commitFailed (F r d') : Flushed d F r d' →
      Reached d k ⟨.commitFailed, F, { d' with mState := disableStates d' }, k⟩
  | committed (F r d' d'') : Flushed d F r d' → d''.mPlanes = d'.mPlanes →
      d''.mCrtc = d'.mCrtc →
      d''.mState = committedStates { d' with mState := disableStates d' } →
      Reached d k
        ⟨.committed, F, d'', k.apply (r.getD [] ++ disableItems d' ++ modesetItems d')⟩

theorem flushToDisplay_reached (d : DrmDisplay) (k : Kernel) (f : Frame) :
    Reached d k (flushToDisplay d k f) := by
  simp only [flushToDisplay]
  obtain ⟨r, hr, heq⟩ := flushPlanes_spec d f
  rw [List.nil_append] at hr
  split
  · exact .skipped
  · split
    · exact .flushFailed _ r _ hr
    · next hok =>
      rw [Bool.not_eq_false] at hok
      rw [heq hok] at hr
      have hcommit := commit_spec (flushPlanes d f).disp k (flushPlanes d f).request f.commit
      generalize (flushPlanes d f).disp.commit k (flushPlanes d f).request f.commit = out at hcommit ⊢
      cases hcommit with
      | noRequest hnone =>
        rw [hnone] at hr
        have hF := enables_empty d.crtc_pos hr.enables
        rw [hF] at hr ⊢
        exact .noRequest _ hr
      | failed => exact .commitFailed _ _ _ hr
      | done d' hp hc hs => exact .committed _ _ _ _ hr hp hc hs

/-- Where the planes are after a committed frame. -/
theorem committed_crtc {d d' : DrmDisplay} {F : List ℕ} {r : Option Request} (k : Kernel)
    (hf : Flushed d F r d') (p : ℕ) :
    k.apply (r.getD [] ++ disableItems d' ++ modesetItems d') p .crtcId =
      if p ∈ F then d.mCrtc
      else if p ∈ d.mPlanes.keys ∧ d.mState p = .disabled then 0 else k p .crtcId := by
  rw [apply_append, apply_of_no_crtcId _ _ _ (modesetItems_no_crtcId d'), apply_append,
    disableItems, apply_disable, hf.enables, hf.planes, hf.state]
  by_cases hp : p ∈ F <;> simp [hp]

/-! ### When a frame is committed -/

/-- A flush call succeeds for a known plane, if the request is there or allocated and the properties
    can be set; it leaves the planes and the retry count as they are. -/
structure FlushesWhen (d : DrmDisplay) (planeId : ℕ) (r : Option Request) (env : SetEnv)
    (out : FlushOut) : Prop where
  error : out.error = .None ↔
    planeId ∈ d.mPlanes.keys ∧ (r = none → env.alloc = true) ∧ env.okay = true
  request : out.error = .None → out.request ≠ none
  planes : out.disp.mPlanes = d.mPlanes
  retries : out.disp.mCommitRetryCnt = d.mCommitRetryCnt

theorem flushPlane_when (d : DrmDisplay) (planeId : ℕ) (r : Option Request) (env : SetEnv)
    (items : DrmPlane → Request) (maxZpos : ℤ) :
    FlushesWhen d planeId r env (d.flushPlane planeId r env items maxZpos) := by
  unfold DrmDisplay.flushPlane
  cases hl : d.mPlanes.lookup planeId with
  | none =>
    have hno : planeId ∉ d.mPlanes.keys := AList.lookup_eq_none.mp hl
    exact ⟨by simp [hno], by simp, rfl, rfl⟩
  | some plane =>
    have hk := mem_keys_of_lookup hl
    cases hr : ensureRequest r env.alloc with
    | none => exact ⟨by simp [ensureRequest_none.mp hr], by simp, rfl, rfl⟩
    | some r' =>
      have ha := ensureRequest_some hr
      cases hok : env.okay with
      | false => exact ⟨by simp [hok], by simp, rfl, rfl⟩
      | true => exact ⟨⟨fun _ => ⟨hk, ha, hok⟩, fun _ => rfl⟩, by simp, rfl, rfl⟩

/-- A sequence of flush calls for `planes` that meet `sets`. -/
structure RunsWhen (d : DrmDisplay) (r : Option Request) (planes : List ℕ) (sets : List SetEnv)
    (fl : Flushes) : Prop where
  ok : fl.ok = true ↔ (∀ p ∈ planes, p ∈ d.mPlanes.keys) ∧
    (r = none → (sets.map SetEnv.alloc).headD true = true) ∧ ∀ e ∈ sets, e.okay = true
  flushed : fl.ok = true → fl.flushed = planes
  request : fl.ok = true → (fl.request = none ↔ r = none ∧ sets = [])
  planes : fl.disp.mPlanes = d.mPlanes
  retries : fl.disp.mCommitRetryCnt = d.mCommitRetryCnt

theorem flushOverlays_when (overlays : List (ℕ × DrmBuffer × SetEnv)) (d : DrmDisplay)
    (r : Option Request) : RunsWhen d r (overlays.map Prod.fst) (overlays.map fun o => o.2.2)
      (flushOverlays d r overlays) := by
  induction overlays generalizing d r with
  | nil => exact ⟨by simp [flushOverlays], fun _ => rfl, by simp [flushOverlays], rfl, rfl⟩
  | cons overlay rest ih =>
    obtain ⟨planeId, buffer, env⟩ := overlay
    have hone : FlushesWhen d planeId r env (d.flushOverlay planeId r buffer env) :=
      flushPlane_when d planeId r env _ _
    rw [flushOverlays]
    by_cases he : (d.flushOverlay planeId r buffer env).error = .None
    · have hrest := ih (d.flushOverlay planeId r buffer env).disp
        (d.flushOverlay planeId r buffer env).request
      obtain ⟨hk, ha, hok⟩ := hone.error.mp he
      have hreq := hone.request he
      simp only [he, if_true]
      refine ⟨?_, fun h => ?_, fun h => ?_, hrest.planes.trans hone.planes,
        hrest.retries.trans hone.retries⟩
      · simp only [hrest.ok, hone.planes, List.map_cons, List.mem_cons, forall_eq_or_imp, hk, hok,
          true_and, hreq, false_imp_iff, List.headD_cons]
        constructor
        · rintro ⟨h₁, h₂⟩; exact ⟨h₁, ha, h₂⟩
        · rintro ⟨h₁, -, h₂⟩; exact ⟨h₁, h₂⟩
      · rw [hrest.flushed h]; rfl
      · simp [hrest.request h, hreq]
    · simp only [he, if_false]
      refine ⟨?_, fun h => Bool.noConfusion h, fun h => Bool.noConfusion h, hone.planes,
        hone.retries⟩
      simp only [Bool.false_eq_true, false_iff]
      rintro ⟨hk, ha, hok⟩
      exact he (hone.error.mpr ⟨hk planeId (by simp), ha, hok env (by simp)⟩)

theorem headD_append (l m : List Bool) :
    (l ++ m).headD true = true ↔ l.headD true = true ∧ (l = [] → m.headD true = true) := by
  cases l <;> simp

section Snoc

variable {d : DrmDisplay} {ps : List ℕ} {sets : List SetEnv} {fl : Flushes} {planeId : ℕ}
  {env : SetEnv}

/-- After a call that failed there is none. -/
theorem RunsWhen.failed (h : RunsWhen d none ps sets fl) (hok : fl.ok = false) :
    RunsWhen d none (ps ++ [planeId]) (sets ++ [env]) fl := by
  refine ⟨?_, fun ht => ?_, fun ht => ?_, h.planes, h.retries⟩
  · rw [hok, Bool.false_eq_true, false_iff]
    rintro ⟨hk, ha, hs⟩
    rw [List.map_append, headD_append] at ha
    have htrue := h.ok.mpr ⟨fun p hm => hk p (List.mem_append_left _ hm), fun _ => (ha rfl).1,
      fun e hm => hs e (List.mem_append_left _ hm)⟩
    rw [hok] at htrue
    cases htrue
  · rw [hok] at ht; cases ht
  · rw [hok] at ht; cases ht

/-- What one more call needs. -/
theorem RunsWhen.all_iff (h : RunsWhen d none ps sets fl) (hok : fl.ok = true) :
    ((∀ p ∈ ps ++ [planeId], p ∈ d.mPlanes.keys) ∧
      ((none : Option Request) = none →
        ((sets ++ [env]).map SetEnv.alloc).headD true = true) ∧
      ∀ e ∈ sets ++ [env], e.okay = true) ↔
    planeId ∈ d.mPlanes.keys ∧ (sets = [] → env.alloc = true) ∧ env.okay = true := by
  obtain ⟨hk, ha, hs⟩ := h.ok.mp hok
  rw [List.map_append, headD_append, List.map_eq_nil_iff]
  constructor
  · rintro ⟨h₁, h₂, h₃⟩
    exact ⟨h₁ _ (by simp), (h₂ rfl).2, h₃ env (by simp)⟩
  · rintro ⟨h₁, h₂, h₃⟩
    refine ⟨fun p hm => ?_, fun h => ⟨ha h, h₂⟩, fun e hm => ?_⟩
    · rcases List.mem_append.mp hm with hm | hm
      · exact hk p hm
      · rw [List.mem_singleton.mp hm]; exact h₁
    · rcases List.mem_append.mp hm with hm | hm
      · exact hs e hm
      · rw [List.mem_singleton.mp hm]; exact h₃

/-- One more flush call after calls that succeeded. -/
theorem RunsWhen.snoc {out : FlushOut} (h : RunsWhen d none ps sets fl) (hok : fl.ok = true)
    (hone : FlushesWhen fl.disp planeId fl.request env out) :
    RunsWhen d none (ps ++ [planeId]) (sets ++ [env])
      (if out.error = .None then ⟨true, fl.flushed ++ [planeId], out.request, out.disp⟩
        else ⟨false, fl.flushed, out.request, out.disp⟩) := by
  have hall := @RunsWhen.all_iff d ps sets fl planeId env h hok
  have herr := hone.error
  rw [h.planes, h.request hok] at herr
  simp only [true_and] at herr
  split
  · next he =>
    refine ⟨?_, fun _ => ?_, fun _ => ?_, hone.planes.trans h.planes,
      hone.retries.trans h.retries⟩
    · rw [hall]
      exact ⟨fun _ => herr.mp he, fun _ => rfl⟩
    · rw [h.flushed hok]
    · simp [hone.request he]
  · next he =>
    refine ⟨?_, fun ht => Bool.noConfusion ht, fun ht => Bool.noConfusion ht,
      hone.planes.trans h.planes, hone.retries.trans h.retries⟩
    rw [hall, Bool.false_eq_true, false_iff]
    exact fun hn => he (herr.mpr hn)

end Snoc

theorem flushPlanes_when (d : DrmDisplay) (f : Frame) :
    RunsWhen d none (f.planes d) f.sets (flushPlanes d f) := by
  have hov := flushOverlays_when f.overlays d none
  rw [flushPlanes]
  cases hp : f.primary with
  | none => simpa [Frame.planes, Frame.sets, hp] using hov
  | some primary =>
    obtain ⟨buffer, env⟩ := primary
    have hid : (flushOverlays d none f.overlays).disp.getPrimaryPlaneId = d.getPrimaryPlaneId := by
      rw [DrmDisplay.getPrimaryPlaneId, hov.planes, DrmDisplay.getPrimaryPlaneId]
    have hplanes : f.planes d = f.overlays.map Prod.fst ++ [d.getPrimaryPlaneId] := by
      simp [Frame.planes, hp]
    have hsets : f.sets = f.overlays.map (fun o => o.2.2) ++ [env] := by simp [Frame.sets, hp]
    simp only [hid]
    rw [hplanes, hsets]
    cases hok : (flushOverlays d none f.overlays).ok with
    | false => exact hov.failed hok
    | true => exact hov.snoc hok (flushPlane_when _ _ _ _ _ _)

theorem commit_done (d : DrmDisplay) (k : Kernel) (r : Option Request) (env : CommitEnv) :
    (d.commit k r env).result = .done ↔
      (r = none → env.alloc = true) ∧ env.okay = true ∧
        commitLoop env.rets d.mCommitRetryCnt 0 = 0 := by
  rw [DrmDisplay.commit]
  cases hreq : ensureRequest r env.alloc with
  | none => simp [ensureRequest_none.mp hreq]
  | some r' =>
    have ha := ensureRequest_some hreq
    simp only
    split
    · next hf => simp [hf]
    · next hok =>
      rw [Bool.not_eq_false] at hok
      split
      · next hret => simp [hret]
      · next hret => exact ⟨fun _ => ⟨ha, hok, not_not.mp hret⟩, fun _ => rfl⟩

/-- A frame is committed exactly when nothing stands in its way. -/
theorem committed_iff (d : DrmDisplay) (k : Kernel) (f : Frame) :
    (flushToDisplay d k f).stage = .committed ↔ Accepted d f := by
  have hfl := flushPlanes_when d f
  have hcommit := commit_done (flushPlanes d f).disp k (flushPlanes d f).request f.commit
  rw [hfl.retries] at hcommit
  simp only [flushToDisplay]
  split
  · next hcon => exact ⟨fun h => Stage.noConfusion h, fun h => by simp [h.connected] at hcon⟩
  · next hcon =>
    rw [Bool.not_eq_false] at hcon
    split
    · next hok =>
      refine ⟨fun h => Stage.noConfusion h, fun h => ?_⟩
      have htrue := hfl.ok.mpr ⟨h.known, fun _ => ?_, h.sets⟩
      · rw [hok] at htrue; cases htrue
      · have ha := h.alloc
        cases hs : f.sets with
        | nil => rfl
        | cons e rest => rw [hs] at ha; exact ha
    · next hok =>
      rw [Bool.not_eq_false] at hok
      obtain ⟨hk, ha, hset⟩ := hfl.ok.mp hok
      rw [hfl.request hok] at hcommit
      have hiff : (((flushPlanes d f).disp.commit k (flushPlanes d f).request f.commit).result
          = .done) ↔ Accepted d f := by
        rw [hcommit]
        constructor
        · rintro ⟨halloc, hokay, hret⟩
          refine ⟨hcon, hk, ?_, hset, hokay, hret⟩
          cases hs : f.sets with
          | nil => exact halloc ⟨rfl, hs⟩
          | cons e rest => rw [hs] at ha; exact ha rfl
        · intro h
          refine ⟨fun hs => ?_, h.okay, h.ret⟩
          have halloc := h.alloc
          rw [hs.2] at halloc
          exact halloc
      rw [← hiff]
      cases ((flushPlanes d f).disp.commit k (flushPlanes d f).request f.commit).result <;> simp

/-- The planes of a committed frame are all flushed. -/
theorem flushed_of_committed {d : DrmDisplay} {k : Kernel} {f : Frame}
    (h : (flushToDisplay d k f).stage = .committed) :
    (flushToDisplay d k f).flushed = f.planes d := by
  have hfl := flushPlanes_when d f
  simp only [flushToDisplay] at h ⊢
  split at h
  · cases h
  · next hcon =>
    rw [if_neg hcon]
    split at h
    · cases h
    · next hok =>
      rw [Bool.not_eq_false] at hok
      rw [if_neg (by rw [hok]; decide), ← hfl.flushed hok]
      split <;> rfl

/-- The condition, in terms of what the frame does. -/
theorem reflushes_iff (s : Sys) (f : Frame) :
    Reflushes s f ↔ ((flushToDisplay s.disp s.kernel f).stage = .committed →
      ∀ p ∈ s.shown, s.lost p = true → p ∈ (flushToDisplay s.disp s.kernel f).flushed) := by
  rw [Reflushes, ← committed_iff s.disp s.kernel f]
  refine forall_congr' fun h => ?_
  rw [flushed_of_committed h]

/-! ### The invariant -/

/-- The kernel shows the planes of the last committed frame; the user-space state of such a plane is
    `DISABLED` exactly while no failed frame has overwritten it. -/
structure Inv (s : Sys) : Prop where
  enabled : ∀ p, s.kernel.Enabled s.disp.mCrtc p ↔ p ∈ s.shown
  known : ∀ p ∈ s.shown, p ∈ s.disp.mPlanes.keys
  state : ∀ p ∈ s.shown, s.disp.mState p = .disabled ↔ s.lost p = false

/-- The states of the flushed planes are `DISABLED` right after their commit. -/
theorem committedStates_flushed {d d' : DrmDisplay} {F : List ℕ} {r : Option Request}
    (hf : Flushed d F r d') {p : ℕ} (hp : p ∈ F) :
    committedStates { d' with mState := disableStates d' } p = .disabled := by
  have hk : p ∈ d'.mPlanes.keys := by rw [hf.planes]; exact hf.known p hp
  have ha : d'.mState p = .active := by rw [hf.state, if_pos hp]
  simp [committedStates, disableStates, hk, ha]

/-- A committed frame shows exactly its planes if and only if it flushes the lost ones again. -/
theorem exact_iff_reflushes {s : Sys} {F : List ℕ} {r : Option Request} {d' : DrmDisplay}
    (hs : Inv s) (hf : Flushed s.disp F r d') :
    (∀ p, (s.kernel.apply (r.getD [] ++ disableItems d' ++ modesetItems d')).Enabled s.disp.mCrtc p
      ↔ p ∈ F) ↔ ∀ p ∈ s.shown, s.lost p = true → p ∈ F := by
  have hpos := s.disp.crtc_pos
  constructor
  · intro h p hp hlost
    by_contra hF
    have hdis : s.disp.mState p ≠ .disabled := by
      rw [ne_eq, hs.state p hp, hlost]; simp
    apply hF
    rw [← h p, Kernel.Enabled, committed_crtc s.kernel hf p, if_neg hF, if_neg (by simp [hdis])]
    exact (hs.enabled p).mpr hp
  · intro h p
    rw [Kernel.Enabled, committed_crtc s.kernel hf p]
    by_cases hF : p ∈ F
    · simp [hF]
    · simp only [hF, if_false, iff_false]
      split
      · omega
      · next hnd =>
        intro hen
        have hp := (hs.enabled p).mp hen
        refine hF (h p hp ?_)
        rw [← Bool.not_eq_false]
        intro hl
        exact hnd ⟨hs.known p hp, (hs.state p hp).mpr hl⟩

/-- A frame that is not committed leaves the kernel and the planes of the display as they are; only
    the records of the planes are to be looked at. -/
theorem Inv.uncommitted {s : Sys} {d' : DrmDisplay} {lost : ℕ → Bool} (hs : Inv s)
    (hp : d'.mPlanes = s.disp.mPlanes) (hc : d'.mCrtc = s.disp.mCrtc)
    (hst : ∀ p ∈ s.shown, d'.mState p = .disabled ↔ lost p = false) :
    Inv ⟨d', s.kernel, s.shown, lost⟩ where
  enabled := by intro p; rw [hc]; exact hs.enabled p
  known := by intro p hmem; rw [hp]; exact hs.known p hmem
  state := hst

/-- One frame: under the invariant the law and the condition agree, and the invariant is kept when
    they hold. -/
theorem step_inv (s : Sys) (f : Frame) (hs : Inv s) (hc : Reflushes s f) :
    Inv (step s f) ∧ Exact s f (step s f) := by
  have hreached := flushToDisplay_reached s.disp s.kernel f
  rw [reflushes_iff] at hc
  simp only [Exact, step] at hc ⊢
  generalize flushToDisplay s.disp s.kernel f = out at hreached hc ⊢
  cases hreached with
  | skipped => exact ⟨hs.uncommitted rfl rfl hs.state, fun h => Stage.noConfusion h⟩
  | flushFailed F r d' hf =>
    refine ⟨hs.uncommitted hf.planes hf.crtc fun p hp => ?_, fun h => Stage.noConfusion h⟩
    rw [hf.state p]
    by_cases hF : p ∈ F
    · simp [hF]
    · simpa [hF] using hs.state p hp
  | noRequest d' hf =>
    refine ⟨hs.uncommitted hf.planes hf.crtc fun p hp => ?_, fun h => Stage.noConfusion h⟩
    rw [hf.state p]
    simpa using hs.state p hp
  | commitFailed F r d' hf =>
    refine ⟨hs.uncommitted hf.planes hf.crtc fun p hp => ?_, fun h => Stage.noConfusion h⟩
    -- the loop over the planes has turned every `DISABLED` record into `NONE`
    have hk : p ∈ d'.mPlanes.keys := by rw [hf.planes]; exact hs.known p hp
    simp only [disableStates, hk, true_and]
    split <;> simp_all
  | committed F r d' d'' hf hp hcr hst =>
    have hex := (exact_iff_reflushes hs hf).mpr (hc rfl)
    refine ⟨⟨?_, ?_, ?_⟩, fun _ => ?_⟩
    · simp only [hcr, hf.crtc]; exact hex
    · intro p hF; simp only [hp, hf.planes]; exact hf.known p hF
    · intro p hF; simp only [hst, committedStates_flushed hf hF]
    · simp only [hcr, hf.crtc]; exact hex

theorem reflushes_of_exact (s : Sys) (f : Frame) (hs : Inv s) (he : Exact s f (step s f)) :
    Reflushes s f := by
  have hreached := flushToDisplay_reached s.disp s.kernel f
  rw [reflushes_iff]
  simp only [Exact, step] at he ⊢
  generalize flushToDisplay s.disp s.kernel f = out at hreached he ⊢
  cases hreached with
  | committed F r d' d'' hf hp hcr hst =>
    intro _
    have hex := he rfl
    simp only [hcr, hf.crtc] at hex
    exact (exact_iff_reflushes hs hf).mp hex
  | _ => intro h; exact Stage.noConfusion h

/-- Before the first frame no plane of the CRTC is enabled and none has been flushed. -/
def init (d : DrmDisplay) (k : Kernel) : Sys := ⟨d, k, [], fun _ => false⟩

/-- CORRECT: for every sequence of frames on a display whose planes start disabled, every successful
    commit leaves exactly the flushed planes enabled in the kernel if and only if every committed
    frame flushes again the planes of the frame committed before it whose state a failed frame in
    between has overwritten (all of them once a commit failed). -/
theorem planes_exact_iff (d : DrmDisplay) (frames : List Frame) :
    Always step Exact (init d fun _ _ => 0) frames
      ↔ Meets step Reflushes (init d fun _ _ => 0) frames := by
  refine always_iff_meets step_inv reflushes_of_exact frames _ ⟨?_, by simp [init], by simp [init]⟩
  intro p
  have := d.crtc_pos
  simp only [init, Kernel.Enabled, List.not_mem_nil, iff_false]
  omega

/-- A display with primary plane 1 and overlay plane 2 on CRTC 9. -/
def twoPlanes : DrmDisplay where
  mPlanes := ⟨[⟨1, .primary, [], none⟩, ⟨2, .overlay, [], none⟩], by simp [List.NodupKeys]⟩
  mCrtc := 9
  crtc_pos := by decide
  mConnector := 8
  hdrMetadataValid := false
  defaultModeBlobId := 0
  mConfigs := fun _ => ⟨1920, 1080, 60, 0, 1920, 1080⟩
  mActiveConfigId := 0
  mActiveConfig := ⟨1920, 1080, 60, 0, 1920, 1080⟩
  mUiScaleType := .none
  mHdrMetadataBlobId := 0
  mState := fun _ => .none
  mOverlayMaxZpos := 0
  mModeSet := true
  mCommitRetryCnt := MAX_COMMIT_RETRY_COUNT

/-- A frame on the primary plane, with or without overlay plane 2, and its commit result. -/
def frameOn (overlay : Bool) (ret : ℤ) : Frame where
  connected := true
  overlays := if overlay then [(2, ⟨⟨0, 0, 64, 64⟩, ⟨0, 0, 64, 64⟩, 0, 5⟩, ⟨true, true⟩)] else []
  primary := some (⟨⟨0, 0, 1920, 1080⟩, ⟨0, 0, 1920, 1080⟩, 0, 6⟩, ⟨true, true⟩)
  inSyncFd := -1
  commit := ⟨true, true, fun _ => ret⟩

/-- An overlay is shown, the commit that drops it fails, and the next successful commit leaves it
    enabled. -/
theorem stale_plane_after_failed_commit :
    ¬ ∀ (d : DrmDisplay) (frames : List Frame),
      Always step Exact (init d fun _ _ => 0) frames := by
  intro h
  obtain ⟨-, -, hexact, -⟩ := h twoPlanes [frameOn true 0, frameOn false (-22), frameOn false 0]
  have hplane := hexact (by decide) 2
  revert hplane
  decide

end ImxHal.Hwc3.Commit
