import ImxHal.Hwc3.DrmDisplay

/-! @src display/hwcomposer3/Layer.h, display/hwcomposer3/Layer.cpp, display/hwcomposer3/DrmPlane.cpp
    (checkFormat), display/hwcomposer3/DrmDisplay.cpp (buildPlaneIdPool, reservePlaneId,
    findDrmPlane), display/hwcomposer3/DrmClient.cpp (isOverlaySupport, checkOverlayLimitation,
    prepareDrmPlanesForValidate, getPlaneForLayerBuffer), display/hwcomposer3/DeviceComposer.cpp
    (checkDeviceComposition, checkMustDeviceComposition) | name:Layers and where they can go

    A layer can be shown on an overlay plane of its own, be drawn into the composer target by the
    2D device, or be left to the client. The checks of the first two ways are here: the plane pool
    hands out each overlay plane at most once per validate. -/

namespace ImxHal.Hwc3.Frame

/-- `Composition`, with `Composition_NXP_PRIVATE`. -/
inductive Composition where
  | INVALID | CLIENT | DEVICE | SOLID_COLOR | CURSOR | SIDEBAND | DISPLAY_DECORATION
  | REFRESH_RATE_INDICATOR | NXP_PRIVATE
  deriving DecidableEq

/-- `HandleInfo`: what `getInfoFromHandle` finds out about a buffer. -/
structure HandleInfo where
  width : ℕ
  height : ℕ
  format : ℕ
  drm_format : ℕ
  modifier : ℕ
  usage : ℕ
  deriving DecidableEq

/-- A buffer handle, with the answer of `getInfoFromHandle` for it (`none`: it fails). -/
structure Buffer where
  info : Option HandleInfo
  deriving DecidableEq

/-- A `Layer` without its id, which is its key in `mLayers`. `serial` counts the allocations, so
    that a layer made anew under an old id is another object. -/
structure Layer where
  serial : ℕ
  mBuffer : Option Buffer
  mCompositionType : Composition
  mDataspace : ℕ
  mDisplayFrame : Rect
  mSourceCrop : Rect
  mTransform : ℕ
  mZOrder : ℤ
  mColorTransform : Bool
  mHasLuts : Bool
  deriving DecidableEq

/-- A `Layer*`: the layer of one display under one id, as allocated at one time. -/
structure LayerPtr where
  hwcId : ℤ
  layerId : ℤ
  serial : ℕ
  deriving DecidableEq

/-- A pointer together with what stands there. -/
structure LayerRef where
  ptr : LayerPtr
  layer : Layer
  deriving DecidableEq

/-- The initial values of a new layer. -/
def Layer.new (serial : ℕ) : Layer where
  serial := serial
  mBuffer := none
  mCompositionType := .INVALID
  mDataspace := 0
  mDisplayFrame := ⟨0, 0, -1, -1⟩
  mSourceCrop := ⟨0, 0, -1, -1⟩
  mTransform := 0
  mZOrder := 0
  mColorTransform := false
  mHasLuts := false

/-- The setters whose values a validate or a present reads. -/
inductive LayerCommand where
  | setBuffer (buffer : Option Buffer)
  | setCompositionType (type : Composition)
  | setDataspace (dataspace : ℕ)
  | setDisplayFrame (frame : Rect)
  | setSourceCrop (crop : Rect)
  | setTransform (transform : ℕ)
  | setZOrder (z : ℤ)
  | setColorTransform (size : ℕ)
  | setLuts (hasLuts : Bool)

/-- `setBuffer` refuses a null handle and `setColorTransform` a short matrix; the other setters only
    store. -/
def Layer.set (l : Layer) : LayerCommand → Layer
  | .setBuffer none => l
  | .setBuffer (some buffer) => { l with mBuffer := some buffer }
  | .setCompositionType type => { l with mCompositionType := type }
  | .setDataspace dataspace => { l with mDataspace := dataspace }
  | .setDisplayFrame frame => { l with mDisplayFrame := frame }
  | .setSourceCrop crop => { l with mSourceCrop := crop }
  | .setTransform transform => { l with mTransform := transform }
  | .setZOrder z => { l with mZOrder := z }
  | .setColorTransform size => if size < 16 then l else { l with mColorTransform := true }
  | .setLuts hasLuts => { l with mHasLuts := hasLuts }

@[simp] theorem set_serial (l : Layer) (c : LayerCommand) : (l.set c).serial = l.serial := by
  cases c with
  | setBuffer buffer => cases buffer <;> rfl
  | setColorTransform size => simp only [Layer.set]; split <;> rfl
  | _ => rfl

/-! ### The platform -/

/-- The build options of a board, and the constants that system headers define. -/
structure Platform where
  OVERLAY_LIMITATION_DCSS : Bool
  OVERLAY_LIMITATION_DPU : Bool
  G2D_LIMITATION_PXP : Bool
  G2D_LIMITATION_VIV : Bool
  DRM_FORMAT_MOD_AMPHION_TILED : ℕ
  GRALLOC_USAGE_PROTECTED : ℕ
  GRALLOC_USAGE_PRIVATE_3 : ℕ
  GRALLOC_USAGE_HW_COMPOSER : ℕ
  GRALLOC_USAGE_HW_FB : ℕ
  RANGE_MASK : ℕ
  RANGE_FULL : ℕ

/-- `mG2dComposer`: whether the library is loaded, preferred by the user, and able to rotate. -/
structure DeviceComposer where
  isValid : Bool
  mG2dPrefered : Bool
  rotationCap : Bool

/-- `fourcc_code`. -/
def fourcc (a b c d : Char) : ℕ := a.toNat + b.toNat * 2 ^ 8 + c.toNat * 2 ^ 16 + d.toNat * 2 ^ 24

def DRM_FORMAT_R8 : ℕ := fourcc 'R' '8' ' ' ' '
def DRM_FORMAT_ABGR2101010 : ℕ := fourcc 'A' 'B' '3' '0'
def DRM_FORMAT_NV12 : ℕ := fourcc 'N' 'V' '1' '2'
def DRM_FORMAT_NV21 : ℕ := fourcc 'N' 'V' '2' '1'
def DRM_FORMAT_P010 : ℕ := fourcc 'P' '0' '1' '0'
def DRM_FORMAT_UYVY : ℕ := fourcc 'U' 'Y' 'V' 'Y'
def DRM_FORMAT_VYUY : ℕ := fourcc 'V' 'Y' 'U' 'Y'
def DRM_FORMAT_YUYV : ℕ := fourcc 'Y' 'U' 'Y' 'V'
def DRM_FORMAT_YVYU : ℕ := fourcc 'Y' 'V' 'Y' 'U'

/-- An `int` result, kept to 32 bits. -/
def i32 (x : ℤ) : ℤ := Int.bmod x (2 ^ 32)

/-! ### Overlay planes -/

/-- What the device client knows of the display. A client without overlays, or one that does not
    have the display, shows no planes. -/
structure ClientDisplay where
  mPlanes : PlaneMap
  overlayUserDisabled : Bool
  mActiveConfig : HalDisplayConfig

def isOverlaySupport (c : ClientDisplay) : Bool :=
  !c.overlayUserDisabled && c.mPlanes.entries.length > 1

/-- The `OVERLAY_LIMITATION_DCSS` part: scaling, and the smallest source of each format. -/
def limitedByDcss (info : HandleInfo) (w h srcW srcH : ℤ) : Bool :=
  if w > i32 (srcW * 7) ∨ h > i32 (srcH * 7) then true
  else if srcW < 64 ∧ (info.drm_format = DRM_FORMAT_NV12 ∨ info.drm_format = DRM_FORMAT_NV21 ∨
      info.drm_format = DRM_FORMAT_P010) then true
  else if srcW < 32 ∧ (info.drm_format = DRM_FORMAT_UYVY ∨ info.drm_format = DRM_FORMAT_VYUY ∨
      info.drm_format = DRM_FORMAT_YUYV ∨ info.drm_format = DRM_FORMAT_YVYU) then true
  else srcW < 16 || srcH < 8

/-- The `OVERLAY_LIMITATION_DPU` part: no down-scaling, and a bounded buffer. -/
def limitedByDpu (info : HandleInfo) (w h srcW srcH : ℤ) : Bool :=
  srcW > w || srcH > h ||
    (info.width > 8192 || info.height > 8192 || info.width < 60 || info.height < 60)

def checkOverlayLimitation (pf : Platform) (c : ClientDisplay) (layer : Layer) : Error :=
  if layer.mTransform ≠ 0 then .Unsupported
  else
    match layer.mBuffer.bind Buffer.info with
    | none => .BadParameter
    | some info =>
      -- `RGBA_8888` is 1 and `BGRA_8888` is 5
      if 1 ≤ info.format ∧ info.format ≤ 5 then .Unsupported
      else
        let rect := layer.mDisplayFrame
        let config := c.mActiveConfig
        let w := (i32 (i32 (rect.right - rect.left) * i32 config.modeWidth)).tdiv (i32 config.width)
        let h := (i32 (i32 (rect.bottom - rect.top) * i32 config.modeHeight)).tdiv
          (i32 config.height)
        let srect := layer.mSourceCrop
        let srcW := i32 (srect.right - srect.left)
        let srcH := i32 (srect.bottom - srect.top)
        if pf.OVERLAY_LIMITATION_DCSS ∧ limitedByDcss info w h srcW srcH then .Unsupported
        else if pf.OVERLAY_LIMITATION_DPU ∧ limitedByDpu info w h srcW srcH then .Unsupported
        else .None

def checkFormat (plane : DrmPlane) (format modifier : ℕ) : Bool :=
  plane.mFormatModifiers.any fun pair => pair.1 = format && pair.2.contains modifier

/-- `mPlaneIdPool` and `mOverlayPlaneNum`: the overlay planes not yet given away in this validate,
    and how many there were. -/
structure PlanePool where
  mPlaneIdPool : List ℕ
  mOverlayPlaneNum : ℕ

/-- The overlay plane of the highest `zpos`, the last of these; `none` stands for `uint32_t(-1)`. -/
def topOverlay : List (Σ _ : ℕ, DrmPlane) → (maxZpos : ℕ) → Option ℕ → Option ℕ
  | [], _, top => top
  | ⟨planeId, plane⟩ :: rest, maxZpos, top =>
    match plane.mType, plane.mZpos with
    | .overlay, some prop =>
      if prop.value ≥ maxZpos then topOverlay rest (prop.value % 2 ^ 32) (some planeId)
      else topOverlay rest maxZpos top
    | _, _ => topOverlay rest maxZpos top

def buildPlaneIdPool (planes : PlaneMap) : PlanePool :=
  let ids := (planes.entries.filter fun e => e.2.mType = .overlay).map Sigma.fst
  ⟨ids, ids.length⟩

def reservePlaneId (pool : PlanePool) (planeId : ℕ) : PlanePool :=
  { pool with mPlaneIdPool := pool.mPlaneIdPool.erase planeId }

structure Prepared where
  pool : PlanePool
  uiPlane : Option ℕ

/-- `backup` tells whether a plane for the UI is asked for; none is found when no overlay plane has
    a `zpos`. -/
def prepareDrmPlanesForValidate (c : ClientDisplay) (backup : Bool) : Prepared :=
  let pool := buildPlaneIdPool c.mPlanes
  match backup, topOverlay c.mPlanes.entries 0 none with
  | true, some top => ⟨reservePlaneId pool top, some top⟩
  | _, _ => ⟨pool, none⟩

/-- The plane found, 0 if there is none, and the pool left. -/
structure Found where
  planeId : ℕ
  pool : PlanePool

def findDrmPlane (pf : Platform) (c : ClientDisplay) (pool : PlanePool) (handle : Option Buffer) :
    Found :=
  if pool.mPlaneIdPool.length = 0 then ⟨0, pool⟩
  else if pf.OVERLAY_LIMITATION_DPU ∧ pool.mOverlayPlaneNum - pool.mPlaneIdPool.length ≥ 3 then
    ⟨0, pool⟩
  else
    match handle.bind Buffer.info with
    | none => ⟨0, pool⟩
    | some info =>
      match pool.mPlaneIdPool.find? fun id => (c.mPlanes.lookup id).any fun plane =>
          checkFormat plane info.drm_format info.modifier with
      | some planeId => ⟨planeId, reservePlaneId pool planeId⟩
      | none => ⟨0, pool⟩

/-- `none` for the two errors: no buffer, and no plane. -/
def getPlaneForLayerBuffer (pf : Platform) (c : ClientDisplay) (pool : PlanePool)
    (handle : Option Buffer) : Option ℕ × PlanePool :=
  match handle with
  | none => (none, pool)
  | some buffer =>
    let found := findDrmPlane pf c pool (some buffer)
    if found.planeId > 0 then (some found.planeId, found.pool) else (none, found.pool)

theorem buildPlaneIdPool_nodup (planes : PlaneMap) :
    (buildPlaneIdPool planes).mPlaneIdPool.Nodup := by
  have hkeys : planes.keys.Nodup := planes.nodupKeys
  exact hkeys.sublist (List.filter_sublist.map _)

/-- Whether or not a plane is set aside, the pool is a list of distinct planes. -/
theorem prepareDrmPlanesForValidate_nodup (c : ClientDisplay) (backup : Bool) :
    (prepareDrmPlanesForValidate c backup).pool.mPlaneIdPool.Nodup := by
  have hpool := buildPlaneIdPool_nodup c.mPlanes
  simp only [prepareDrmPlanesForValidate]
  split
  · exact hpool.erase _
  · exact hpool

/-- A plane is taken from the pool, or the pool has at most lost planes. -/
theorem findDrmPlane_spec (pf : Platform) (c : ClientDisplay) (pool : PlanePool)
    (handle : Option Buffer) :
    let found := findDrmPlane pf c pool handle
    (found.planeId = 0 ∧ found.pool = pool) ∨
      (found.planeId ∈ pool.mPlaneIdPool ∧
        found.pool.mPlaneIdPool = pool.mPlaneIdPool.erase found.planeId) := by
  simp only [findDrmPlane]
  split
  · exact .inl ⟨rfl, rfl⟩
  · split
    · exact .inl ⟨rfl, rfl⟩
    · split
      · exact .inl ⟨rfl, rfl⟩
      · split
        · rename_i planeId hfind
          exact .inr ⟨List.mem_of_find?_eq_some hfind, rfl⟩
        · exact .inl ⟨rfl, rfl⟩

/-- What the overlay scan relies on: a plane given out was in the pool and is in it no more. -/
theorem getPlaneForLayerBuffer_some {pf : Platform} {c : ClientDisplay} {pool pool' : PlanePool}
    {handle : Option Buffer} {planeId : ℕ}
    (h : getPlaneForLayerBuffer pf c pool handle = (some planeId, pool')) :
    planeId ∈ pool.mPlaneIdPool ∧ pool'.mPlaneIdPool = pool.mPlaneIdPool.erase planeId := by
  cases handle with
  | none => simp [getPlaneForLayerBuffer] at h
  | some buffer =>
    simp only [getPlaneForLayerBuffer] at h
    have hspec := findDrmPlane_spec pf c pool (some buffer)
    split at h
    · rename_i hpos
      obtain ⟨hid, hpool⟩ := Prod.mk.injEq .. ▸ h
      obtain ⟨hz, -⟩ | ⟨hmem, herase⟩ := hspec
      · omega
      · rw [← Option.some.inj hid, ← hpool]
        exact ⟨hmem, herase⟩
    · simp at h

theorem getPlaneForLayerBuffer_none {pf : Platform} {c : ClientDisplay} {pool pool' : PlanePool}
    {handle : Option Buffer} (h : getPlaneForLayerBuffer pf c pool handle = (none, pool')) :
    pool'.mPlaneIdPool.Sublist pool.mPlaneIdPool := by
  cases handle with
  | none =>
    simp only [getPlaneForLayerBuffer, Prod.mk.injEq, true_and] at h
    rw [h]
  | some buffer =>
    simp only [getPlaneForLayerBuffer] at h
    have hspec := findDrmPlane_spec pf c pool (some buffer)
    split at h
    · simp at h
    · obtain ⟨-, hpool⟩ := Prod.mk.injEq .. ▸ h
      rw [← hpool]
      obtain ⟨-, hsame⟩ | ⟨-, herase⟩ := hspec
      · rw [hsame]
      · rw [herase]
        exact List.erase_sublist

/-! ### Device composition -/

def checkMustDeviceComposition (pf : Platform) (layer : Layer) : Bool :=
  match layer.mBuffer.bind Buffer.info with
  | none => false
  | some info =>
    info.modifier = pf.DRM_FORMAT_MOD_AMPHION_TILED || info.usage &&& pf.GRALLOC_USAGE_PROTECTED ≠ 0
      || info.drm_format = DRM_FORMAT_R8

def checkDeviceComposition (pf : Platform) (g : DeviceComposer) (layer : Layer) : Bool :=
  if g.mG2dPrefered = false then false
  else
    match layer.mBuffer with
    | none => true -- support device composition for SOLID_COLOR layer
    | some buffer =>
      match buffer.info with
      | none => false
      | some info =>
        if pf.G2D_LIMITATION_PXP = false ∧ (layer.mCompositionType = .CLIENT ∨
            layer.mColorTransform ∨ (layer.mTransform ≠ 0 ∧ g.rotationCap = false)) then false
        else if pf.G2D_LIMITATION_VIV ∧ (info.drm_format = DRM_FORMAT_ABGR2101010 ∨
            (info.drm_format = DRM_FORMAT_NV12 ∧
              layer.mDataspace &&& pf.RANGE_MASK = pf.RANGE_FULL)) then false
        else
          info.usage &&& (pf.GRALLOC_USAGE_PROTECTED ||| pf.GRALLOC_USAGE_PRIVATE_3 |||
            pf.GRALLOC_USAGE_HW_COMPOSER ||| pf.GRALLOC_USAGE_HW_FB) ≠ 0

end ImxHal.Hwc3.Frame
