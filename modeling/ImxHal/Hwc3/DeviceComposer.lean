import ImxHal.Schemes.Run
import ImxHal.Hwc3.Common
import ImxHal.Hwc3.Layer

/-! @src display/hwcomposer3/DeviceComposer.cpp (preComposition, clearWormHole, prepareSolidColorBuffer,
    composeLayerLocked, composeLayers, onLayerDestroy), display/hwcomposer3/Layer.cpp |
    name:Device composition | scheme:model | family:graphics

    The 2D device draws the layers of a frame into one target, back to front:

        clearWormHole        screen − visible regions of the layers taken for opaque ──▶ cleared
        preComposition       layer ──▶ its buffer, or a scaled / converted copy cached for the layer
        composeLayerLocked   visible rectangle ∩ display frame ──▶ clip of one blit

    A `Region` of the platform is the set of its pixels, and a blit or a clear writes the pixels of its
    rectangle. How a blit mixes colours (blending, rotation, dithering) is not modelled. -/

namespace ImxHal.Hwc3.G2d
open ImxHal.Hwc3.Frame (Composition)

inductive BlendMode where
  | INVALID | NONE | PREMULTIPLIED | COVERAGE
  deriving DecidableEq

/-- The fields of `HandleInfo` that the composition reads. -/
structure HandleInfo where
  width : ℕ
  height : ℕ
  format : ℕ
  usage : ℕ
  buffer_id : ℕ
  deriving DecidableEq

/-- A buffer handle: the answer of `getInfoFromHandle` for it (`none`: it fails), and the picture that
    the buffer holds while the handle is composed. -/
structure Handle where
  info : Option HandleInfo
  content : ℕ
  deriving DecidableEq

/-- The layer as the composition reads it. `alpha` is `(uint8_t)(getPlaneAlpha() * 255)` and
    `opaqueColor` says that the alpha of `getColor()` is 1 within `1e-9`. -/
structure Layer where
  mId : ℕ
  mBuffer : Option Handle
  mCompositionType : Composition
  mBlendMode : BlendMode
  opaqueColor : Bool
  alpha : ℕ
  mSourceCrop : Rect
  mDisplayFrame : Rect
  mVisibleRegion : List Rect
  deriving DecidableEq

/-- `setVisibleRegion`: rectangles that are not there are left out. -/
def Layer.setVisibleRegion (l : Layer) (visible : List (Option Rect)) : Layer :=
  { l with mVisibleRegion := visible.filterMap id }

def Layer.setDisplayFrame (l : Layer) (frame : Rect) : Layer := { l with mDisplayFrame := frame }

/-! ### The build and the environment -/

inductive Limitation where
  | none | PXP_LIMITATION_DOWN_SCALE | G2D_FORMAT_CONVERSION
  deriving DecidableEq

/-- The build option of the board, and whether the OpenCL converter is there. -/
structure Board where
  build : Limitation
  oclValid : Bool

/-- What happens outside while a layer is composed: the buffer that the allocator hands out, as
    `getInfoFromHandle` sees it (`none`: one of the two fails), and whether libyuv and OpenCL
    succeed. -/
structure Env where
  alloc : Option HandleInfo
  ok : Bool

def RGBA_8888 : ℕ := 1
def RGBX_8888 : ℕ := 2
def BGRA_8888 : ℕ := 5
def YV12 : ℕ := 0x32315659
def YCbCr_420_SP : ℕ := 0x103
def P010_TILED : ℕ := 0x109

/-! ### Precomposition -/

inductive CacheType where
  | SCALING | CSC
  deriving DecidableEq

structure G2dInterBuffer where
  layerId : ℕ
  type : CacheType
  hnd : ℕ
  info : HandleInfo
  originBufferId : ℕ
  deriving DecidableEq

/-- Where a pixel of a cached buffer comes from. -/
inductive Origin where
  | scaled (content : ℕ) (crop : Rect) (width height : ℕ)
  | converted (content : ℕ)
  deriving DecidableEq

/-- A write to a cached buffer. -/
structure Write where
  region : Rect
  origin : Origin
  deriving DecidableEq

/-- `mSolidColorBuffer` by its info while it has a handle, the cache, and the pixels of the buffers that
    were allocated for it. -/
structure Composer where
  mSolidColorBuffer : Option HandleInfo
  mG2dCachedBuffers : ℕ → Option G2dInterBuffer
  memory : ℕ → ℤ → ℤ → Option Origin
  nextHandle : ℕ

def Composer.new : Composer := ⟨none, fun _ => none, fun _ _ _ => none, 0⟩

/-- The buffer that a layer needs in place of its own. -/
structure Request where
  dstW : ℕ
  dstH : ℕ
  dstFormat : ℕ
  dstUsage : ℕ
  cachedBufferType : CacheType

def dispW (l : Layer) : ℕ := u32 (l.mDisplayFrame.right - l.mDisplayFrame.left)
def dispH (l : Layer) : ℕ := u32 (l.mDisplayFrame.bottom - l.mDisplayFrame.top)
def cropW (l : Layer) : ℕ := u32 (l.mSourceCrop.right - l.mSourceCrop.left)
def cropH (l : Layer) : ℕ := u32 (l.mSourceCrop.bottom - l.mSourceCrop.top)

/-- The first half of `preComposition`, up to its `return nullptr`. -/
def request (b : Board) (l : Layer) (inBufInfo : HandleInfo) : Option Request :=
  match b.build with
  | .none => none
  | .PXP_LIMITATION_DOWN_SCALE =>
    if cropW l > dispW l ∨ cropH l > dispH l then
      some ⟨dispW l, dispH l, inBufInfo.format, inBufInfo.usage, .SCALING⟩
    else none
  | .G2D_FORMAT_CONVERSION =>
    if inBufInfo.format = P010_TILED then
      some ⟨inBufInfo.width, inBufInfo.height, YCbCr_420_SP, inBufInfo.usage, .CSC⟩
    else none

/-- The pixels of a buffer. -/
def whole (width height : ℕ) : Rect := ⟨0, 0, width, height⟩

/-- What the scaling or the conversion writes. libyuv scales the crop of a 32 bit format, but the whole
    picture of a YV12 buffer, and no other format; the 2D device converts the crop only. -/
def written (b : Board) (ok : Bool) (l : Layer) (content : ℕ) (r : Request)
    (inBufInfo outBufInfo : HandleInfo) : Option Write :=
  match r.cachedBufferType with
  | .SCALING =>
    if !ok then none
    else if inBufInfo.format = RGBA_8888 ∨ inBufInfo.format = RGBX_8888 ∨ inBufInfo.format = BGRA_8888
    then some ⟨whole r.dstW r.dstH, .scaled content l.mSourceCrop r.dstW r.dstH⟩
    else if inBufInfo.format = YV12 then
      some ⟨whole outBufInfo.width outBufInfo.height, .scaled content
        (whole inBufInfo.width inBufInfo.height) outBufInfo.width outBufInfo.height⟩
    else none
  | .CSC =>
    if b.oclValid then
      if ok then some ⟨whole inBufInfo.width inBufInfo.height, .converted content⟩ else none
    else some ⟨l.mSourceCrop, .converted content⟩

def Composer.write (c : Composer) (hnd : ℕ) : Option Write → Composer
  | none => c
  | some w => { c with memory := Function.update c.memory hnd fun x y =>
      if w.region.Covers x y then some w.origin else c.memory hnd x y }

/-- The size, format and usage of a cached buffer serve a request. -/
def Request.fits (r : Request) (info : HandleInfo) : Prop :=
  r.dstW = info.width ∧ r.dstH = info.height ∧ r.dstFormat = info.format ∧ r.dstUsage = info.usage

instance (r : Request) (info : HandleInfo) : Decidable (r.fits info) :=
  inferInstanceAs (Decidable (_ ∧ _))

def Composer.erase (c : Composer) (id : ℕ) : Composer :=
  { c with mG2dCachedBuffers := Function.update c.mG2dCachedBuffers id none }

/-- A new buffer with handle `c.nextHandle` is written and put into the cache. -/
def Composer.emplace (c : Composer) (newBuff : G2dInterBuffer) (w : Option Write) : Composer :=
  { c.write newBuff.hnd w with
    mG2dCachedBuffers := Function.update c.mG2dCachedBuffers newBuff.layerId (some newBuff)
    nextHandle := c.nextHandle + 1 }

/-- The end of `preComposition` with a new buffer. -/
def Composer.allocate (c : Composer) (b : Board) (env : Env) (l : Layer) (content : ℕ) (r : Request)
    (inBufInfo : HandleInfo) : Option G2dInterBuffer × Composer :=
  match env.alloc with
  | none => (none, c)
  | some outBufInfo =>
    let newBuff : G2dInterBuffer :=
      ⟨l.mId, r.cachedBufferType, c.nextHandle, outBufInfo, inBufInfo.buffer_id⟩
    (some newBuff, c.emplace newBuff (written b env.ok l content r inBufInfo outBufInfo))

/-- `preComposition` for a layer that needs another buffer. A cached one is taken as it is when its
    `originBufferId` is the id of the layer's buffer, is written again when it fits, and else is
    replaced. -/
def Composer.convert (c : Composer) (b : Board) (env : Env) (l : Layer) (content : ℕ) (r : Request)
    (inBufInfo : HandleInfo) : Option G2dInterBuffer × Composer :=
  match c.mG2dCachedBuffers l.mId with
  | some interBuf =>
    if interBuf.originBufferId = inBufInfo.buffer_id then (some interBuf, c)
    else if r.fits interBuf.info then
      (some interBuf, c.write interBuf.hnd (written b env.ok l content r inBufInfo interBuf.info))
    else (c.erase l.mId).allocate b env l content r inBufInfo
  | none => c.allocate b env l content r inBufInfo

def Composer.preComposition (c : Composer) (b : Board) (env : Env) (l : Layer)
    (handle : Option Handle) : Option G2dInterBuffer × Composer :=
  if l.mCompositionType ≠ .DEVICE then (none, c)
  else
    match handle with
    | none => (none, c)
    | some handle =>
      match handle.info with
      | none => (none, c)
      | some inBufInfo =>
        match request b l inBufInfo with
        | none => (none, c)
        | some r => c.convert b env l handle.content r inBufInfo

def Composer.onLayerDestroy (c : Composer) (id : ℕ) : Composer := c.erase id

/-! ### Clearing and drawing -/

/-- `::android::Region`. -/
abbrev Region := ℤ → ℤ → Bool

def Region.orSelf (r : Region) (rect : Rect) : Region := fun x y => r x y || decide (rect.Covers x y)

def Region.subtractSelf (r s : Region) : Region := fun x y => r x y && !s x y

/-- The layer at place `i` counts as opaque. -/
def countsOpaque (i : ℕ) (l : Layer) : Bool :=
  l.mBlendMode = .NONE || (i = 0 && l.mBlendMode = .PREMULTIPLIED)
    || (i ≠ 0 && l.mCompositionType = .SOLID_COLOR && l.opaqueColor)

/-- The loop over the layers that collects `opaque`. -/
def opaqueRegion : ℕ → List Layer → Region → Region
  | _, [], region => region
  | i, l :: layers, region =>
    opaqueRegion (i + 1) layers
      (if countsOpaque i l then l.mVisibleRegion.foldl Region.orSelf region else region)

/-- The worm holes: the pixels that `clearWormHole` clears. -/
def clearWormHole (layers : List Layer) (target : HandleInfo) : Region :=
  Region.subtractSelf (fun x y => decide ((whole target.width target.height).Covers x y))
    (opaqueRegion 0 layers fun _ _ => false)

/-- `prepareG2dTempBuffer` for the solid color buffer; a buffer that does not match is freed. -/
def prepareSolidColorBuffer (solid : Option HandleInfo) (target : HandleInfo)
    (alloc : Option HandleInfo) : Option HandleInfo :=
  match solid with
  | some info =>
    if target.width = info.width ∧ target.height = info.height ∧ target.format = info.format then
      some info
    else alloc
  | none => alloc

def EINVAL : ℤ := 22

/-- The loop of `composeLayerLocked` over the visible rectangles: its result, the clips of its blits,
    and the rectangles as it leaves them. `source` says whether there is a buffer to draw from. -/
def clipLoop (drect : Rect) (source : Bool) : List Rect → ℤ × List Rect × List Rect
  | [] => (0, [], [])
  | clip :: visible =>
    if isRectEmpty clip then
      let (ret, clips, rest) := clipLoop drect source visible
      (ret, clips, clip :: rest)
    else
      let clip := rectIntersect drect clip
      if isRectEmpty clip then
        let (ret, clips, rest) := clipLoop drect source visible
        (ret, clips, clip :: rest)
      else if source then
        let (ret, clips, rest) := clipLoop drect source visible
        (ret, clip :: clips, clip :: rest)
      else (-EINVAL, [], clip :: visible)

/-- The checks before the loop let the layer through. -/
def Layer.passes (l : Layer) : Bool :=
  !((isRectEmpty l.mSourceCrop && l.mCompositionType ≠ .SOLID_COLOR) || isRectEmpty l.mDisplayFrame)
    && l.alpha ≠ 0

/-- The solid color buffer once the layer is prepared. -/
def Layer.solidBuffer (l : Layer) (target : HandleInfo) (alloc solid : Option HandleInfo) :
    Option HandleInfo :=
  if l.mCompositionType = .SOLID_COLOR then prepareSolidColorBuffer solid target alloc else solid

/-- There is a buffer to draw from: that of the layer (`hnd`), or the solid color buffer. -/
def Layer.hasSource (l : Layer) (hnd : Bool) (solid : Option HandleInfo) : Bool :=
  (l.mCompositionType ≠ .SOLID_COLOR && hnd) || solid.isSome

/-- What drawing a layer gives: its result, the clips of the blits, the layer with its visible region
    as the loop leaves it, and the solid color buffer. -/
structure Drawing where
  ret : ℤ
  clips : List Rect
  layer : Layer
  solid : Option HandleInfo

/-- `hnd` says whether the layer has a buffer, its own or a cached one. -/
def composeLayerLocked (l : Layer) (hnd : Bool) (target : HandleInfo)
    (alloc solid : Option HandleInfo) : Drawing :=
  if l.passes then
    let solid := l.solidBuffer target alloc solid
    let (ret, clips, visible) := clipLoop l.mDisplayFrame (l.hasSource hnd solid) l.mVisibleRegion
    ⟨ret, clips, { l with mVisibleRegion := visible }, solid⟩
  else ⟨0, [], l, solid⟩

/-- What the loop of `composeLayers` gives: the clips of all blits, the layers and the composer. -/
structure Composed where
  drawn : List Rect
  layers : List Layer
  composer : Composer

/-- The loop of `composeLayers`; it ends at the first layer that fails. -/
def composeLoop (b : Board) (target : HandleInfo) : Composer → List (Layer × Env) → Composed
  | c, [] => ⟨[], [], c⟩
  | c, (l, env) :: rest =>
    if l.mCompositionType = .SIDEBAND then
      let r := composeLoop b target c rest
      { r with layers := l :: r.layers }
    else
      let (interData, c) := c.preComposition b env l l.mBuffer
      let hnd := interData.isSome || l.mBuffer.isSome
      let d := composeLayerLocked l hnd target env.alloc c.mSolidColorBuffer
      let c := { c with mSolidColorBuffer := d.solid }
      if d.ret ≠ 0 then ⟨d.clips, d.layer :: rest.map Prod.fst, c⟩
      else
        let r := composeLoop b target c rest
        ⟨d.clips ++ r.drawn, d.layer :: r.layers, r.composer⟩

/-- The result of `composeLayers` with what it cleared and drew. -/
structure Result where
  success : Bool
  cleared : Region
  drawn : List Rect
  layers : List Layer
  composer : Composer

/-- `composeLayers`; only a target without a handle or an info makes it fail. -/
def composeLayers (b : Board) (c : Composer) (layers : List (Layer × Env))
    (target : Option HandleInfo) : Result :=
  match target with
  | none => ⟨false, fun _ _ => false, [], layers.map Prod.fst, c⟩
  | some target =>
    let r := composeLoop b target c layers
    ⟨true, clearWormHole (layers.map Prod.fst) target, r.drawn, r.layers, r.composer⟩

/-! ### The clips of one layer -/

/-- The clip of a visible rectangle in a display frame, unless it is empty. -/
def clipOf (drect r : Rect) : Option Rect :=
  if isRectEmpty (rectIntersect drect r) then none else some (rectIntersect drect r)

theorem clipOf_none_iff (f r : Rect) : clipOf f r = none ↔ ∀ x y, r.Covers x y → ¬ f.Covers x y := by
  have h := isRectEmpty_iff (rectIntersect f r)
  simp only [covers_rectIntersect, not_and] at h
  rw [← h, clipOf]
  split <;> simp_all

theorem clipOf_some {f r c : Rect} (h : clipOf f r = some c) :
    c = rectIntersect f r ∧ isRectEmpty (rectIntersect f r) = false := by
  rw [clipOf] at h
  split at h
  · cases h
  · next hne => exact ⟨(Option.some.inj h).symm, by simpa using hne⟩

theorem isRectEmpty_rectIntersect {r : Rect} (f : Rect) (h : isRectEmpty r = true) :
    isRectEmpty (rectIntersect f r) = true := by
  rw [isRectEmpty_iff] at h ⊢
  exact fun x y hc => h x y ((covers_rectIntersect f r x y).mp hc).1

/-- With a source every clip that is left of the frame is drawn. -/
theorem clipLoop_drawn (drect : Rect) (visible : List Rect) :
    (clipLoop drect true visible).1 = 0 ∧
      (clipLoop drect true visible).2.1 = visible.filterMap (clipOf drect) := by
  induction visible with
  | nil => exact ⟨rfl, rfl⟩
  | cons clip visible ih =>
    rw [List.filterMap_cons, clipLoop, clipOf]
    by_cases he : isRectEmpty clip = true
    · rw [if_pos he, if_pos (isRectEmpty_rectIntersect drect he)]
      exact ih
    · rw [if_neg he]
      by_cases hi : isRectEmpty (rectIntersect drect clip) = true
      · rw [if_pos hi, if_pos hi]
        exact ih
      · rw [if_neg hi, if_neg hi]
        exact ⟨ih.1, congrArg _ ih.2⟩

/-- Without a source nothing is drawn, and the first rectangle to draw is an error. -/
theorem clipLoop_noSource (drect : Rect) (visible : List Rect) :
    (clipLoop drect false visible).2.1 = [] ∧
      ((clipLoop drect false visible).1 = 0 ↔ ∀ r ∈ visible, clipOf drect r = none) := by
  induction visible with
  | nil => exact ⟨rfl, by simp [clipLoop]⟩
  | cons clip visible ih =>
    rw [clipLoop, List.forall_mem_cons]
    by_cases he : isRectEmpty clip = true
    · have hnone : clipOf drect clip = none := by
        simp [clipOf, isRectEmpty_rectIntersect drect he]
      simpa [he, hnone] using ih
    · rw [if_neg he]
      by_cases hi : isRectEmpty (rectIntersect drect clip) = true
      · have hnone : clipOf drect clip = none := by simp [clipOf, hi]
        simpa [hi, hnone] using ih
      · simp [hi, clipOf, EINVAL]

theorem composeLayerLocked_passes {l : Layer} (h : l.passes = true) (hnd : Bool) (target : HandleInfo)
    (alloc solid : Option HandleInfo) :
    let r := clipLoop l.mDisplayFrame (l.hasSource hnd (l.solidBuffer target alloc solid))
      l.mVisibleRegion
    composeLayerLocked l hnd target alloc solid
      = ⟨r.1, r.2.1, { l with mVisibleRegion := r.2.2 }, l.solidBuffer target alloc solid⟩ := by
  simp only [composeLayerLocked, if_pos h]

end ImxHal.Hwc3.G2d
