import ImxHal.Hwc3.Validate

/-! @src display/hwcomposer3/ClientFrameComposer.cpp (onDisplayCreate, onDisplayDestroy,
    onDisplayLayerDestroy, onDisplayClientTargetSet, validateDisplay, presentDisplay),
    display/hwcomposer3/Display.cpp (createLayer, destroyLayer, validate, acceptChanges, present),
    display/hwcomposer3/ComposerClient.cpp (createDisplayLocked, destroyDisplayLocked) |
    name:Displays and the frame composer | scheme:run | family:layer ownership

    The displays own their layers. The composer keeps, per display id, the layer pointers that the
    last validate wrote down and the next present reads:

        mDisplays ──▶ Display ──▶ mLayers ──▶ Layer
                                               ▲
        mDisplayLayers ──▶ ValidatedLayers ────┘    (written by validate, emptied by present)

    Only a present that gets as far as the flush empties the lists; no other entry point does. -/

namespace ImxHal.Hwc3.Frame
open ImxHal.Run ImxHal.Ledger

inductive PresentFlowState where
  | WAITING_FOR_VALIDATE | WAITING_FOR_ACCEPT | WAITING_FOR_PRESENT
  deriving DecidableEq

/-- A `Display`: the width and height of its active config, when there is one, stand for the
    configs. -/
structure Display where
  displayId : ℕ
  mLayers : AList fun _ : ℤ => Layer
  mActiveConfig : Option (ℤ × ℤ)
  mColorTransformIdentity : Bool
  mPendingChanges : DisplayChanges
  mPresentFlowState : PresentFlowState

/-- `DisplayBuffer`: whether there is a client target and a dummy buffer, and which planes have an
    entry. -/
structure DisplayBuffer where
  clientTargetDrmBuffer : Bool
  planeDrmBuffer : List ℕ
  dummyDrmBuffer : Bool
  deriving DecidableEq

/-- The displays of the client by hwc id, and the maps of the composer by display id. `sNextId` is
    the counter of layer ids and `serial` the number of layers allocated so far. -/
structure Sys where
  mDisplays : AList fun _ : ℤ => Display
  sNextId : ℤ
  serial : ℕ
  mDisplayBuffers : AList fun _ : ℕ => DisplayBuffer
  mDisplayLayers : AList fun _ : ℕ => ValidatedLayers

def Sys.init : Sys := ⟨∅, 1, 0, ∅, ∅⟩

def INT_MAX : ℤ := 2 ^ 31 - 1

/-- `mDisplayLayers[displayId]`. -/
def Sys.layersOf (s : Sys) (displayId : ℕ) : ValidatedLayers :=
  (s.mDisplayLayers.lookup displayId).getD .empty

/-- The layer a pointer points to, unless it is destroyed. -/
def Sys.find (s : Sys) (p : LayerPtr) : Option Layer :=
  match s.mDisplays.lookup p.hwcId with
  | none => none
  | some d =>
    match d.mLayers.lookup p.layerId with
    | none => none
    | some l => if l.serial = p.serial then some l else none

/-- The layer has been created and not yet destroyed. -/
def Sys.Live (s : Sys) (p : LayerPtr) : Prop := (s.find p).isSome

/-- A read through a pointer. -/
def Sys.deref (s : Sys) (stale : LayerPtr → Layer) (p : LayerPtr) : Layer :=
  (s.find p).getD (stale p)

structure Out where
  error : Error
  sys : Sys

/-! ### Displays -/

/-- A display as `createDisplayLocked` makes it. -/
def Display.new (displayId : ℕ) : Display :=
  ⟨displayId, ∅, none, true, [], .WAITING_FOR_VALIDATE⟩

/-- `connectionType` is the answer to HDCP, when it is enabled. -/
def onDisplayCreate (s : Sys) (d : Display) (client : Bool) (connectionType : Error) : Out :=
  if client = false then ⟨.BadDisplay, s⟩
  else
    ⟨connectionType, { s with
      mDisplayBuffers := emplace s.mDisplayBuffers d.displayId ⟨false, [], false⟩
      mDisplayLayers := emplace s.mDisplayLayers d.displayId .empty }⟩

/-- `config` is the active config found by `Display::init`, which fails without one. A display that
    exists is initialised again and keeps its layers. -/
def createDisplayLocked (s : Sys) (hwcId : ℤ) (displayId : ℕ) (config : Option (ℤ × ℤ))
    (client : Bool) (connectionType : Error) : Out :=
  match s.mDisplays.lookup hwcId with
  | none =>
    if config = none then ⟨.NoResources, s⟩
    else
      let d := { Display.new displayId with mActiveConfig := config }
      let out := onDisplayCreate s d client connectionType
      if out.error ≠ .None then out
      else ⟨.None, { out.sys with mDisplays := out.sys.mDisplays.insert hwcId d }⟩
  | some d =>
    let d := { d with mActiveConfig := config }
    let s := { s with mDisplays := s.mDisplays.insert hwcId d }
    if config = none then ⟨.NoResources, s⟩ else onDisplayCreate s d client connectionType

/-- Only the buffers are dropped. -/
def onDisplayDestroy (s : Sys) (d : Display) (client : Bool) : Out :=
  if d.displayId ∉ s.mDisplayBuffers then ⟨.BadDisplay, s⟩
  else if client = false then ⟨.BadDisplay, s⟩
  else ⟨.None, { s with mDisplayBuffers := s.mDisplayBuffers.erase d.displayId }⟩

/-- The display goes with its layers, whatever the composer answers. -/
def destroyDisplayLocked (s : Sys) (hwcId : ℤ) (client : Bool) : Out :=
  match s.mDisplays.lookup hwcId with
  | none => ⟨.BadDisplay, s⟩
  | some d =>
    let s := (onDisplayDestroy s d client).sys
    ⟨.None, { s with mDisplays := s.mDisplays.erase hwcId }⟩

/-- The caller's update of one display. -/
def Sys.setDisplay (s : Sys) (hwcId : ℤ) (d : Display) : Sys :=
  { s with mDisplays := s.mDisplays.insert hwcId d }

/-- An entry point of `Display`, for a display that the client has. -/
def onDisplay (s : Sys) (hwcId : ℤ) (f : Display → Out) : Out :=
  match s.mDisplays.lookup hwcId with
  | none => ⟨.BadDisplay, s⟩
  | some d => f d

/-! ### Layers -/

/-- The id asked for when it is positive, else the next of the counter. `mLayers.emplace` refuses an
    id in use, and the new layer is dropped. -/
def createLayer (s : Sys) (hwcId : ℤ) (outLayerId : ℤ) : Out :=
  onDisplay s hwcId fun d =>
    if outLayerId > 0 ∧ outLayerId ∈ d.mLayers then ⟨.BadLayer, s⟩
    else
      let layer := Layer.new s.serial
      let layerId := if outLayerId > 0 then outLayerId else s.sNextId
      let s := { s with
        sNextId := if outLayerId > 0 then s.sNextId else s.sNextId + 1
        serial := s.serial + 1 }
      ⟨.None, s.setDisplay hwcId { d with mLayers := emplace d.mLayers layerId layer }⟩

/-- `onDisplayLayerDestroy` resets HDR metadata and tells the 2D device; the lists of the composer
    stay as they are. -/
def destroyLayer (s : Sys) (hwcId layerId : ℤ) : Out :=
  onDisplay s hwcId fun d =>
    if layerId ∉ d.mLayers then ⟨.BadLayer, s⟩
    else ⟨.None, s.setDisplay hwcId { d with mLayers := d.mLayers.erase layerId }⟩

def setLayer (s : Sys) (hwcId layerId : ℤ) (c : LayerCommand) : Out :=
  onDisplay s hwcId fun d =>
    match d.mLayers.lookup layerId with
    | none => ⟨.BadLayer, s⟩
    | some l => ⟨.None, s.setDisplay hwcId { d with mLayers := d.mLayers.insert layerId (l.set c) }⟩

/-- `created` is the outcome of `client->create` for the client target. -/
def setClientTarget (s : Sys) (hwcId : ℤ) (client created : Bool) : Out :=
  onDisplay s hwcId fun d =>
    match s.mDisplayBuffers.lookup d.displayId with
    | none => ⟨.None, s⟩
    | some b =>
      if client ∧ created then
        ⟨.None, { s with
          mDisplayBuffers := s.mDisplayBuffers.insert d.displayId
            { b with clientTargetDrmBuffer := true } }⟩
      else ⟨.None, s⟩

/-! ### validate -/

/-- The order of `std::sort` in `Display::validate`. -/
def NotAbove (a b : LayerRef) : Prop :=
  a.layer.mZOrder < b.layer.mZOrder ∨
    (a.layer.mZOrder = b.layer.mZOrder ∧ a.ptr.layerId ≤ b.ptr.layerId)

instance (a b : LayerRef) : Decidable (NotAbove a b) :=
  inferInstanceAs (Decidable (_ ∨ _))

/-- The layers of the display behind their pointers. -/
def Display.refs (d : Display) (hwcId : ℤ) : List LayerRef :=
  d.mLayers.entries.map fun e => ⟨⟨hwcId, e.1, e.2.serial⟩, e.2⟩

def Display.getOrderedLayers (d : Display) (hwcId : ℤ) : List LayerRef :=
  (d.refs hwcId).insertionSort NotAbove

/-- Width and height default to `INT_MAX` when there is no active config. -/
def validateEnv (d : Display) (dev : Device) : ValidateEnv where
  toDevice := dev
  width := (d.mActiveConfig.map Prod.fst).getD INT_MAX
  height := (d.mActiveConfig.map Prod.snd).getD INT_MAX
  colorTransformIdentity := d.mColorTransformIdentity

/-- `dev` is `none` when there is no device client for the display. -/
def validateDisplay (s : Sys) (hwcId : ℤ) (d : Display) (dev : Option Device) : ValidateOut :=
  let v := s.layersOf d.displayId
  if d.displayId ∉ s.mDisplayBuffers then ⟨.BadDisplay, [], v⟩
  else
    match dev with
    | none => ⟨.BadDisplay, [], v⟩
    | some dev =>
      validateLayers (validateEnv d dev) (s.deref dev.stale) v (d.getOrderedLayers hwcId)

def validate (s : Sys) (hwcId : ℤ) (dev : Option Device) : Out :=
  onDisplay s hwcId fun d =>
    let out := validateDisplay s hwcId d dev
    let s := { s with mDisplayLayers := s.mDisplayLayers.insert d.displayId out.layers }
    let flow :=
      if out.error ≠ .None then d.mPresentFlowState
      else if out.changes = [] then .WAITING_FOR_PRESENT
      else .WAITING_FOR_ACCEPT
    ⟨out.error, s.setDisplay hwcId
      { d with mPendingChanges := out.changes, mPresentFlowState := flow }⟩

/-- The loop over the pending changes; the layers dropped since are passed over. -/
def applyChanges : (mLayers : AList fun _ : ℤ => Layer) → DisplayChanges → AList fun _ : ℤ => Layer
  | mLayers, [] => mLayers
  | mLayers, (layerId, type) :: rest =>
    match mLayers.lookup layerId with
    | none => applyChanges mLayers rest
    | some l => applyChanges (mLayers.insert layerId (l.set (.setCompositionType type))) rest

def acceptChanges (s : Sys) (hwcId : ℤ) : Out :=
  onDisplay s hwcId fun d =>
    if d.mPresentFlowState = .WAITING_FOR_VALIDATE then ⟨.NotValidated, s⟩
    else
      ⟨.None, s.setDisplay hwcId { d with
        mLayers := applyChanges d.mLayers d.mPendingChanges
        mPendingChanges := []
        mPresentFlowState := .WAITING_FOR_PRESENT }⟩

/-! ### present -/

/-- Outcomes of the calls a present makes: `createOverlay` per plane id, then in the order of the
    function. -/
structure PresentEnv where
  client : Bool
  createOverlay : ℕ → Bool
  getComposerTarget : Error
  createTarget : Bool
  createLucky : Bool
  createDummy : Bool
  flushError : Error

/-- `reads` lists the pointers read out of `layersForOverlayPlane` and `layersForComposition`. -/
structure PresentOut where
  error : Error
  reads : List LayerPtr
  buffer : DisplayBuffer
  layers : ValidatedLayers

structure OverlayOut where
  okay : Bool
  reads : List LayerPtr
  planes : List ℕ

/-- The loop over `layersForOverlay`, left at the first buffer that cannot be created. -/
def presentOverlays (createOverlay : ℕ → Bool) :
    List (Σ _ : ℕ, LayerPtr) → (planes : List ℕ) → OverlayOut
  | [], planes => ⟨true, [], planes⟩
  | ⟨planeId, p⟩ :: rest, planes =>
    if createOverlay planeId then
      let out := presentOverlays createOverlay rest (planes.insert planeId)
      { out with reads := p :: out.reads }
    else ⟨false, [p], planes⟩

structure Stage where
  error : Error
  buffer : DisplayBuffer

/-- The buffer for the primary plane: composed, set by the client, or the lucky layer's. -/
def presentTarget (env : PresentEnv) (v : ValidatedLayers) (b : DisplayBuffer) : Stage :=
  if v.layersForComposition ≠ [] then
    if env.getComposerTarget ≠ .None then ⟨env.getComposerTarget, b⟩
    else if env.createTarget = false then ⟨.NoResources, b⟩
    else ⟨.None, { b with clientTargetDrmBuffer := true }⟩
  else if b.clientTargetDrmBuffer then ⟨.None, b⟩
  else
    match v.luckyLayer with
    | some _ =>
      if env.createLucky then ⟨.None, { b with clientTargetDrmBuffer := true }⟩
      else ⟨.NoResources, b⟩
    | none => ⟨.None, b⟩

/-- With a private layer the UI moves to its overlay plane and a dummy takes the primary one. -/
def presentPrivate (env : PresentEnv) (v : ValidatedLayers) (b : DisplayBuffer) : Stage :=
  if v.layersForNxpPrivate.length = 1 then
    let b :=
      match v.compositionPlaneId with
      | some planeId => { b with
          planeDrmBuffer := b.planeDrmBuffer.insert planeId, clientTargetDrmBuffer := false }
      | none => b
    if b.dummyDrmBuffer then ⟨.None, { b with clientTargetDrmBuffer := true }⟩
    else if env.createDummy then
      ⟨.None, { b with clientTargetDrmBuffer := true, dummyDrmBuffer := true }⟩
    else ⟨.NoResources, b⟩
  else ⟨.None, { b with dummyDrmBuffer := false }⟩

/-- `presentDisplay` once the buffers and the client are found. Every return before the flush leaves
    the lists as they are; an error of the flush does not. -/
def presentLayers (env : PresentEnv) (v : ValidatedLayers) (b : DisplayBuffer) : PresentOut :=
  let out := presentOverlays env.createOverlay v.layersForOverlayPlane.entries b.planeDrmBuffer
  let b := { b with planeDrmBuffer := out.planes }
  if out.okay = false then ⟨.NoResources, out.reads, b, v⟩
  else
    let reads := out.reads ++ v.layersForComposition
    let target := presentTarget env v b
    if target.error ≠ .None then ⟨target.error, reads, target.buffer, v⟩
    else
      let priv := presentPrivate env v target.buffer
      if priv.error ≠ .None then ⟨priv.error, reads, priv.buffer, v⟩
      else if priv.buffer = ⟨false, [], false⟩ then ⟨.None, reads, priv.buffer, v⟩
      else
        ⟨env.flushError, reads ++ v.overlayPtrs,
          { priv.buffer with clientTargetDrmBuffer := false, planeDrmBuffer := [] }, .empty⟩

def presentDisplay (s : Sys) (d : Display) (env : PresentEnv) : Option PresentOut :=
  match s.mDisplayBuffers.lookup d.displayId with
  | none => none
  | some b => if env.client then some (presentLayers env (s.layersOf d.displayId) b) else none

def present (s : Sys) (hwcId : ℤ) (env : PresentEnv) : Out :=
  onDisplay s hwcId fun d =>
    let s' := s.setDisplay hwcId { d with mPresentFlowState := .WAITING_FOR_VALIDATE }
    match presentDisplay s d env with
    | none => ⟨.BadDisplay, s'⟩
    | some out => ⟨out.error, { s' with
        mDisplayBuffers := s'.mDisplayBuffers.insert d.displayId out.buffer
        mDisplayLayers := s'.mDisplayLayers.insert d.displayId out.layers }⟩

/-- The pointers a present reads out of the two lists. -/
def presentReads (s : Sys) (hwcId : ℤ) (env : PresentEnv) : List LayerPtr :=
  match s.mDisplays.lookup hwcId with
  | none => []
  | some d =>
    match presentDisplay s d env with
    | none => []
    | some out => out.reads

/-! ### Runs -/

inductive Action where
  | createDisplay (hwcId : ℤ) (displayId : ℕ) (config : Option (ℤ × ℤ)) (client : Bool)
      (connectionType : Error)
  | destroyDisplay (hwcId : ℤ) (client : Bool)
  | createLayer (hwcId outLayerId : ℤ)
  | destroyLayer (hwcId layerId : ℤ)
  | setLayer (hwcId layerId : ℤ) (c : LayerCommand)
  | setActiveConfig (hwcId : ℤ) (config : Option (ℤ × ℤ))
  | setColorTransform (hwcId : ℤ) (identity : Bool)
  | setClientTarget (hwcId : ℤ) (client created : Bool)
  | validate (hwcId : ℤ) (dev : Option Device)
  | acceptChanges (hwcId : ℤ)
  | present (hwcId : ℤ) (env : PresentEnv)

def exec (s : Sys) : Action → Out
  | .createDisplay hwcId displayId config client connectionType =>
    createDisplayLocked s hwcId displayId config client connectionType
  | .destroyDisplay hwcId client => destroyDisplayLocked s hwcId client
  | .createLayer hwcId outLayerId => createLayer s hwcId outLayerId
  | .destroyLayer hwcId layerId => destroyLayer s hwcId layerId
  | .setLayer hwcId layerId c => setLayer s hwcId layerId c
  | .setActiveConfig hwcId config =>
    onDisplay s hwcId fun d => ⟨.None, s.setDisplay hwcId { d with mActiveConfig := config }⟩
  | .setColorTransform hwcId identity =>
    onDisplay s hwcId fun d =>
      ⟨.None, s.setDisplay hwcId { d with mColorTransformIdentity := identity }⟩
  | .setClientTarget hwcId client created => setClientTarget s hwcId client created
  | .validate hwcId dev => validate s hwcId dev
  | .acceptChanges hwcId => acceptChanges s hwcId
  | .present hwcId env => present s hwcId env

def step (s : Sys) (a : Action) : Sys := (exec s a).sys

/-! ### The ordered layers of a display -/

instance : Std.Total NotAbove := ⟨fun a b => by simp only [NotAbove]; omega⟩

instance : IsTrans LayerRef NotAbove := ⟨fun a b c h₁ h₂ => by simp only [NotAbove] at *; omega⟩

theorem mem_getOrderedLayers {d : Display} {hwcId : ℤ} {r : LayerRef} :
    r ∈ d.getOrderedLayers hwcId ↔
      d.mLayers.lookup r.ptr.layerId = some r.layer ∧
        r.ptr = ⟨hwcId, r.ptr.layerId, r.layer.serial⟩ := by
  rw [Display.getOrderedLayers, List.mem_insertionSort, Display.refs, List.mem_map]
  constructor
  · rintro ⟨⟨layerId, l⟩, he, rfl⟩
    exact ⟨AList.mem_lookup_iff.mpr he, rfl⟩
  · rintro ⟨hl, hp⟩
    exact ⟨⟨r.ptr.layerId, r.layer⟩, AList.mem_lookup_iff.mp hl,
      congrArg (fun p => LayerRef.mk p r.layer) hp.symm⟩

theorem getOrderedLayers_ids_nodup (d : Display) (hwcId : ℤ) :
    ((d.getOrderedLayers hwcId).map fun r => r.ptr.layerId).Nodup := by
  have hperm := (List.perm_insertionSort NotAbove (d.refs hwcId)).map fun r => r.ptr.layerId
  refine hperm.nodup_iff.mpr ?_
  rw [Display.refs, List.map_map]
  exact d.mLayers.nodupKeys

/-- The sort puts every layer below the ones after it. -/
theorem getOrderedLayers_below (d : Display) (hwcId : ℤ) :
    (d.getOrderedLayers hwcId).Pairwise Below := by
  have hsort : (d.getOrderedLayers hwcId).Pairwise NotAbove := List.pairwise_insertionSort _ _
  have hids := List.pairwise_map.mp (getOrderedLayers_ids_nodup d hwcId)
  refine (hsort.and hids).imp ?_
  rintro a b ⟨hle, hne⟩
  simp only [NotAbove, Below] at *
  omega

theorem find_of_ordered {s : Sys} {hwcId : ℤ} {d : Display} {r : LayerRef}
    (hd : s.mDisplays.lookup hwcId = some d) (hr : r ∈ d.getOrderedLayers hwcId) :
    s.find r.ptr = some r.layer := by
  obtain ⟨hl, hp⟩ := mem_getOrderedLayers.mp hr
  rw [hp, Sys.find]
  simp only [hd, hl, if_true]

/-- A successful validate that starts from empty lists shares the layers out. -/
theorem validateDisplay_outcome {s : Sys} {hwcId : ℤ} {d : Display} {dev : Option Device}
    (hd : s.mDisplays.lookup hwcId = some d)
    (hov : (s.layersOf d.displayId).layersForOverlayPlane = ∅)
    (hco : (s.layersOf d.displayId).layersForComposition = [])
    (hok : (validateDisplay s hwcId d dev).error = .None) :
    ∃ ov co client,
      Outcome (d.getOrderedLayers hwcId) (validateDisplay s hwcId d dev) ov co client := by
  simp only [validateDisplay] at hok ⊢
  split at hok
  · cases hok
  · rename_i hbuf
    rw [if_neg hbuf]
    cases dev with
    | none => cases hok
    | some dev =>
      refine validateLayers_outcome hov hco (getOrderedLayers_below d hwcId) ?_ hok
      intro r hr
      rw [Sys.deref, find_of_ordered hd hr, Option.getD_some]

/-! ### A plain board -/

/-- A board without overlay planes, whose 2D device takes every layer. -/
def plainDevice : Device where
  platform :=
    ⟨false, false, false, false, 0xf000000000000001, 0x4000, 0x80000000, 0x800, 0x1000, 0x38000000,
      0x8000000⟩
  g2d := ⟨true, true, true⟩
  client := ⟨∅, false, ⟨1920, 1080, 60, 0, 1920, 1080⟩⟩
  planeIdForUI := 0
  stale := fun p => .new p.serial

def plainPresent : PresentEnv := ⟨true, fun _ => true, .None, true, true, true, .None⟩

/-- A display with one solid colour layer. -/
def oneLayer : List Action :=
  [.createDisplay 0 1 (some (1920, 1080)) true .None, .createLayer 0 0,
    .setLayer 0 1 (.setCompositionType .SOLID_COLOR)]

end ImxHal.Hwc3.Frame
