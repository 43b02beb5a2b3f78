import ImxHal.Schemes.Run
import ImxHal.Hwc3.Common
import Mathlib.Data.List.AList

/-! @src display/hwcomposer3/DrmDisplay.cpp, display/hwcomposer3/DrmClient.cpp (flushToDisplay),
    display/hwcomposer3/DrmPlane.h, display/hwcomposer3/DrmAtomicRequest.cpp | name:DrmDisplay |
    scheme:run | family:shadow-state

    A frame is shown by one atomic request: `flushOverlay` and `flushPrimary` add the properties of
    the planes in use, `commit` adds the disabling of the planes used before and hands the request
    to the kernel. Which planes to disable is read off a per-plane state kept in user space:

        NONE ──flush──▶ ACTIVE ──commit succeeds──▶ DISABLED ──commit (building)──▶ NONE
                          ▲                            │
                          └───────────flush────────────┘

    The last arrow is taken while the request is being built, before its outcome is known. -/

namespace ImxHal.Hwc3
open ImxHal.Run

/-- `PLANE_STATE_NONE`, `PLANE_STATE_ACTIVE`, `PLANE_STATE_DISABLED`. -/
inductive PlaneState where | none | active | disabled
  deriving DecidableEq

inductive PlaneType where | overlay | primary | cursor
  deriving DecidableEq

/-- The `zpos` property of a plane, when the driver has one. -/
structure Zpos where
  value : ℕ
  immutable : Bool
  deriving DecidableEq

structure DrmPlane where
  mType : PlaneType
  mFormatModifiers : List (ℕ × List ℕ)
  mZpos : Option Zpos

/-- `mPlanes`: the planes of one CRTC by plane id. -/
abbrev PlaneMap := AList fun _ : ℕ => DrmPlane

/-- The parts of a `DrmBuffer` that a flush reads. -/
structure DrmBuffer where
  mDisplayFrame : Rect
  mSourceCrop : Rect
  mZpos : ℤ
  mDrmFramebuffer : ℕ

/-- The kernel properties a request sets; those of the connector and the CRTC are kept apart from
    the plane properties of the same name. -/
inductive DrmProp where
  | crtcId | inFenceFd | fbId | crtcX | crtcY | crtcW | crtcH | srcX | srcY | srcW | srcH | zpos
  | connectorCrtcId | hdrMetadata | crtcActive | crtcModeId | outFencePtr
  deriving DecidableEq

structure ReqItem where
  objectId : ℕ
  prop : DrmProp
  value : ℕ

/-- A `DrmAtomicRequest`: the properties set so far, in order. -/
abbrev Request := List ReqItem

inductive UiScale where | none | software | hardware
  deriving DecidableEq

/-- A display: its DRM objects, its configs, and the state that frames change. `mState p` is the
    `mState` of the plane with id `p`. -/
structure DrmDisplay where
  mPlanes : PlaneMap
  mCrtc : ℕ
  crtc_pos : 0 < mCrtc
  mConnector : ℕ
  hdrMetadataValid : Bool
  defaultModeBlobId : ℕ
  mConfigs : ℕ → HalDisplayConfig
  mActiveConfigId : ℤ
  mActiveConfig : HalDisplayConfig
  mUiScaleType : UiScale
  mHdrMetadataBlobId : ℕ
  mState : ℕ → PlaneState
  mOverlayMaxZpos : ℤ
  mModeSet : Bool
  mCommitRetryCnt : ℕ

def MAX_COMMIT_RETRY_COUNT : ℕ := 32

/-- Outcomes of the allocation of a request, when it is needed, and of all its `Set` calls. -/
structure SetEnv where
  alloc : Bool
  okay : Bool

/-- `request`, allocated first when it is null. -/
def ensureRequest (request : Option Request) (alloc : Bool) : Option Request :=
  match request with
  | some r => some r
  | none => if alloc then some [] else none

/-- The `zpos` item, when the property exists and can be set. -/
def zposItem (plane : DrmPlane) (planeId value : ℕ) : Request :=
  match plane.mZpos with
  | some z => if z.immutable then [] else [⟨planeId, .zpos, value⟩]
  | none => []

/-- The properties `flushOverlay` sets. -/
def overlayItems (d : DrmDisplay) (plane : DrmPlane) (planeId : ℕ) (buffer : DrmBuffer) : Request :=
  let config := d.mConfigs (u32 d.mActiveConfigId)
  let rectF := buffer.mDisplayFrame
  let rectS := buffer.mSourceCrop
  let x0 : ℕ := u32 rectF.left * config.modeWidth % 2 ^ 32 / config.width
  let y0 : ℕ := u32 rectF.top * config.modeHeight % 2 ^ 32 / config.height
  let wF : ℕ := u32 (rectF.right - rectF.left) * config.modeWidth % 2 ^ 32 / config.width
  let hF : ℕ := u32 (rectF.bottom - rectF.top) * config.modeHeight % 2 ^ 32 / config.height
  let wS : ℕ := u32 (rectS.right - rectS.left)
  let hS : ℕ := u32 (rectS.bottom - rectS.top)
  let wF : ℕ := alignPixel2 (u32 (wF - 1))
  let hF : ℕ := alignPixel2 (u32 (hF - 1))
  let wS : ℕ := alignPixel2 (u32 (wS - 1))
  let hS : ℕ := alignPixel2 (u32 (hS - 1))
  [⟨planeId, .crtcId, d.mCrtc⟩, ⟨planeId, .fbId, buffer.mDrmFramebuffer⟩,
    ⟨planeId, .crtcX, x0⟩, ⟨planeId, .crtcY, y0⟩, ⟨planeId, .crtcW, wF⟩, ⟨planeId, .crtcH, hF⟩,
    ⟨planeId, .srcX, u64 (shl16 rectS.left)⟩, ⟨planeId, .srcY, u64 (shl16 rectS.top)⟩,
    ⟨planeId, .srcW, wS * 2 ^ 16 % 2 ^ 32⟩, ⟨planeId, .srcH, hS * 2 ^ 16 % 2 ^ 32⟩]
    ++ zposItem plane planeId (u64 buffer.mZpos)

/-- What a flush returns, and the display after it. -/
structure FlushOut where
  error : Error
  request : Option Request
  disp : DrmDisplay

/-- The body of both flush functions: look the plane up, allocate the request when there is none,
    add the properties, and mark the plane. -/
def DrmDisplay.flushPlane (d : DrmDisplay) (planeId : ℕ) (request : Option Request) (env : SetEnv)
    (items : DrmPlane → Request) (maxZpos : ℤ) : FlushOut :=
  match d.mPlanes.lookup planeId with
  | none => ⟨.BadParameter, request, d⟩
  | some plane =>
    match ensureRequest request env.alloc with
    | none => ⟨.NoResources, none, d⟩
    | some r =>
      let r := r ++ items plane
      if env.okay then
        ⟨.None, some r, { d with
          mState := Function.update d.mState planeId .active
          mOverlayMaxZpos := maxZpos }⟩
      else ⟨.NoResources, some r, d⟩

def DrmDisplay.flushOverlay (d : DrmDisplay) (planeId : ℕ) (request : Option Request)
    (buffer : DrmBuffer) (env : SetEnv) : FlushOut :=
  d.flushPlane planeId request env (fun plane => overlayItems d plane planeId buffer)
    (max d.mOverlayMaxZpos buffer.mZpos)

/-- The properties `flushPrimary` sets. -/
def primaryItems (d : DrmDisplay) (plane : DrmPlane) (planeId : ℕ) (inSyncFd : ℤ)
    (buffer : DrmBuffer) : Request :=
  let config := d.mConfigs (u32 d.mActiveConfigId)
  let rectF := buffer.mDisplayFrame
  let rectS := buffer.mSourceCrop
  let frameX : ℕ := u32 rectF.left * config.modeWidth % 2 ^ 32 / config.width
  let frameY : ℕ := u32 rectF.top * config.modeHeight % 2 ^ 32 / config.height
  let frameWidth : ℕ := u32 (rectF.right - rectF.left) * config.modeWidth % 2 ^ 32 / config.width
  let frameHeight : ℕ := u32 (rectF.bottom - rectF.top) * config.modeHeight % 2 ^ 32 / config.height
  let sourceWidth : ℕ := u32 (rectS.right - rectS.left)
  let sourceHeight : ℕ := u32 (rectS.bottom - rectS.top)
  -- (sourceX, sourceY, sw, sh) and (frameX, frameY, dw, dh) by the kind of UI scaling
  let (src, dst) : (ℕ × ℕ × ℕ × ℕ) × (ℕ × ℕ × ℕ × ℕ) :=
    match d.mUiScaleType with
    | .software =>
      ((0, 0, config.modeWidth, config.modeHeight), (0, 0, config.modeWidth, config.modeHeight))
    | .hardware =>
      ((u32 rectS.left, u32 rectS.top, sourceWidth, sourceHeight),
        (0, 0, config.width, config.height))
    | .none =>
      ((u32 rectS.left, u32 rectS.top, sourceWidth, sourceHeight),
        (frameX, frameY, frameWidth, frameHeight))
  [⟨planeId, .crtcId, d.mCrtc⟩, ⟨planeId, .inFenceFd, u64 inSyncFd⟩,
    ⟨planeId, .fbId, buffer.mDrmFramebuffer⟩,
    ⟨planeId, .crtcX, dst.1⟩, ⟨planeId, .crtcY, dst.2.1⟩,
    ⟨planeId, .crtcW, dst.2.2.1⟩, ⟨planeId, .crtcH, dst.2.2.2⟩,
    ⟨planeId, .srcX, src.1 * 2 ^ 16 % 2 ^ 32⟩, ⟨planeId, .srcY, src.2.1 * 2 ^ 16 % 2 ^ 32⟩,
    ⟨planeId, .srcW, src.2.2.1 * 2 ^ 16 % 2 ^ 32⟩, ⟨planeId, .srcH, src.2.2.2 * 2 ^ 16 % 2 ^ 32⟩]
    ++ zposItem plane planeId (u64 (d.mOverlayMaxZpos + 1))

def DrmDisplay.flushPrimary (d : DrmDisplay) (planeId : ℕ) (request : Option Request)
    (inSyncFd : ℤ) (buffer : DrmBuffer) (env : SetEnv) : FlushOut :=
  d.flushPlane planeId request env (fun plane => primaryItems d plane planeId inSyncFd buffer)
    d.mOverlayMaxZpos

/-- `getPrimaryPlaneId`: the last primary plane of the map, `0` if there is none. -/
def DrmDisplay.getPrimaryPlaneId (d : DrmDisplay) : ℕ :=
  d.mPlanes.entries.foldl (fun planeId e => if e.2.mType = .primary then e.1 else planeId) 0

/-! ### The kernel -/

/-- The property values of the kernel's objects. -/
abbrev Kernel := ℕ → DrmProp → ℕ

def Kernel.set (k : Kernel) (i : ReqItem) : Kernel :=
  fun o p => if o = i.objectId ∧ p = i.prop then i.value else k o p

/-- A commit that succeeds applies the whole request. -/
def Kernel.apply (k : Kernel) (r : Request) : Kernel := r.foldl Kernel.set k

/-- A plane is enabled on a CRTC when its `CRTC_ID` names it. -/
def Kernel.Enabled (k : Kernel) (crtc planeId : ℕ) : Prop := k planeId .crtcId = crtc

instance (k : Kernel) (crtc planeId : ℕ) : Decidable (k.Enabled crtc planeId) :=
  inferInstanceAs (Decidable (_ = _))

/-! ### commit -/

/-- Outcomes of the calls `commit` makes: `rets i` is the result of the `i`-th atomic commit. -/
structure CommitEnv where
  alloc : Bool
  okay : Bool
  rets : ℕ → ℤ

def EBUSY : ℤ := 16

/-- The retry loop: commit again while the result is `-EBUSY` and tries are left. -/
def commitLoop (rets : ℕ → ℤ) : (left i : ℕ) → ℤ
  | 0, i => rets i
  | left + 1, i => if rets i = -EBUSY then commitLoop rets left (i + 1) else rets i

/-- The disabling items of the loop over `mPlanes`. -/
def disableItems (d : DrmDisplay) : Request :=
  d.mPlanes.keys.flatMap fun p =>
    if d.mState p = .disabled then [⟨p, .crtcId, 0⟩, ⟨p, .fbId, 0⟩] else []

/-- The states after that loop: a disabled plane becomes `NONE`. -/
def disableStates (d : DrmDisplay) : ℕ → PlaneState :=
  fun p => if p ∈ d.mPlanes.keys ∧ d.mState p = .disabled then .none else d.mState p

/-- The modeset items and the out-fence. -/
def modesetItems (d : DrmDisplay) : Request :=
  (if d.mModeSet then
    [⟨d.mConnector, .connectorCrtcId, d.mCrtc⟩]
      ++ (if d.hdrMetadataValid then [⟨d.mConnector, .hdrMetadata, d.mHdrMetadataBlobId⟩] else [])
      ++ [⟨d.mCrtc, .crtcActive, 1⟩, ⟨d.mCrtc, .crtcModeId,
        if d.mActiveConfigId ≥ 0 then d.mActiveConfig.blobId else d.defaultModeBlobId⟩]
  else []) ++ [⟨d.mCrtc, .outFencePtr, 1⟩]

/-- The states after a successful commit: an active plane is to be disabled next time. -/
def committedStates (d : DrmDisplay) : ℕ → PlaneState :=
  fun p => if p ∈ d.mPlanes.keys ∧ d.mState p = .active then .disabled else d.mState p

/-- How far `commit` came. -/
inductive CommitResult where
  | noRequest | failed | done
  deriving DecidableEq

structure CommitOut where
  result : CommitResult
  disp : DrmDisplay
  kernel : Kernel

def DrmDisplay.commit (d : DrmDisplay) (k : Kernel) (request : Option Request) (env : CommitEnv) :
    CommitOut :=
  match ensureRequest request env.alloc with
  | none => ⟨.noRequest, d, k⟩
  | some r =>
    let r := r ++ disableItems d ++ modesetItems d
    let d := { d with mState := disableStates d }
    if env.okay = false then ⟨.failed, d, k⟩
    else if commitLoop env.rets d.mCommitRetryCnt 0 ≠ 0 then ⟨.failed, d, k⟩
    else ⟨.done, { d with
      mState := committedStates d
      mModeSet := false
      mCommitRetryCnt :=
        if d.mModeSet then MAX_COMMIT_RETRY_COUNT * 4 else MAX_COMMIT_RETRY_COUNT
      mOverlayMaxZpos := 0 }, k.apply r⟩

end ImxHal.Hwc3
