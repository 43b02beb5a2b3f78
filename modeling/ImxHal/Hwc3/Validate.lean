import ImxHal.Schemes.Run
import ImxHal.Schemes.Ledger
import ImxHal.Hwc3.Layer

/-! @src display/hwcomposer3/ClientFrameComposer.cpp (validateDisplay),
    display/hwcomposer3/ClientFrameComposer.h (ValidatedLayers), display/hwcomposer3/DisplayChanges.h
    | name:validateDisplay | scheme:run | family:layer placement

    The layers are visited from the lowest to the highest. Each one is skipped, put on an overlay
    plane, or sent to composition; the bounding rectangle of what was sent there so far is the mask
    that an overlay must stay clear of:

        NXP_PRIVATE, INVALID                         ──▶ skipped
        clear of uiMaskedRect, fits, plane found     ──▶ layersForOverlayPlane
        anything else                                ──▶ layersForComposition, uiMaskedRect grows

    At the end layersForComposition is kept for the 2D device, or all of it is left to the client. -/

namespace ImxHal.Hwc3.Frame
open ImxHal.Run ImxHal.Ledger

/-- `ValidatedLayers`: what a validate hands to the present of one display. -/
structure ValidatedLayers where
  layersForOverlayPlane : AList fun _ : ℕ => LayerPtr
  layersForComposition : List LayerPtr
  compositionPlaneId : Option ℕ
  layersForNxpPrivate : List LayerPtr
  luckyLayer : Option LayerPtr

/-- `ValidatedLayers{}`. -/
def ValidatedLayers.empty : ValidatedLayers := ⟨∅, [], none, [], none⟩

/-- The layers on overlay planes. -/
def ValidatedLayers.overlayPtrs (v : ValidatedLayers) : List LayerPtr :=
  v.layersForOverlayPlane.entries.map Sigma.snd

/-- The changes of composition type asked of the client, in the order they are added. -/
abbrev DisplayChanges := List (ℤ × Composition)

/-- What a validate asks of the device client and the 2D device. `planeIdForUI` is the value of that
    variable when no plane is reserved for it, and `stale` what is read through a pointer to a
    destroyed layer. -/
structure Device where
  platform : Platform
  g2d : DeviceComposer
  client : ClientDisplay
  planeIdForUI : ℕ
  stale : LayerPtr → Layer

/-- The device together with what is read off the display. -/
structure ValidateEnv extends Device where
  width : ℤ
  height : ℤ
  colorTransformIdentity : Bool

/-- The variables of the main loop. -/
structure Scan where
  pool : PlanePool
  uiMaskedRect : Rect
  layerSkiped : Bool
  layersForOverlay : AList fun _ : ℕ => LayerPtr
  layersForComposition : List LayerPtr
  outChanges : DisplayChanges
  deviceComposition : Bool
  mustDeviceComposition : Bool
  fallBackToClient : Bool

/-- The layers the main loop does not pass over. -/
def eligible (r : LayerRef) : Bool :=
  r.layer.mCompositionType ≠ .NXP_PRIVATE && r.layer.mCompositionType ≠ .INVALID

/-- The layer must not go to an overlay plane, whatever planes are left. -/
def excluded (e : ValidateEnv) (masked : Rect) (layer : Layer) : Bool :=
  checkRectOverlap masked layer.mDisplayFrame
    || checkOverlayLimitation e.platform e.client layer ≠ .None
    || (layer.mCompositionType ≠ .DEVICE && layer.mCompositionType ≠ .CLIENT)

/-- The end of the loop body, for a layer that is not on an overlay plane. -/
def compose (e : ValidateEnv) (s : Scan) (r : LayerRef) : Scan :=
  { s with
    layersForComposition := s.layersForComposition ++ [r.ptr]
    fallBackToClient := s.fallBackToClient || r.layer.mHasLuts
    deviceComposition :=
      if e.g2d.isValid then
        s.deviceComposition && checkDeviceComposition e.platform e.g2d r.layer
      else s.deviceComposition
    mustDeviceComposition :=
      if e.g2d.isValid then
        s.mustDeviceComposition || checkMustDeviceComposition e.platform r.layer
      else s.mustDeviceComposition }

/-- The mask reaches over the whole screen. -/
def coversScreen (e : ValidateEnv) (masked : Rect) : Bool :=
  i32 (masked.right - masked.left) ≥ e.width && i32 (masked.bottom - masked.top) ≥ e.height

/-- One turn of the main loop. -/
def scanLayer (e : ValidateEnv) (s : Scan) (r : LayerRef) : Scan :=
  if eligible r = false then s
  else if isOverlaySupport e.client ∧ s.layerSkiped = false then
    if excluded e s.uiMaskedRect r.layer then
      compose e { s with uiMaskedRect := mergeRect s.uiMaskedRect r.layer.mDisplayFrame } r
    else
      match getPlaneForLayerBuffer e.platform e.client s.pool r.layer.mBuffer with
      | (some planeId, pool) => { s with
          pool := pool
          layersForOverlay := emplace s.layersForOverlay planeId r.ptr
          outChanges :=
            if r.layer.mCompositionType ≠ .DEVICE then
              s.outChanges ++ [(r.ptr.layerId, .DEVICE)]
            else s.outChanges }
      | (none, pool) =>
        let masked := mergeRect s.uiMaskedRect r.layer.mDisplayFrame
        compose e { s with
          pool := pool
          uiMaskedRect := masked
          layerSkiped := coversScreen e masked } r
  else compose e s r

/-- The loop over the private layers; `none` when it meets a `DISPLAY_DECORATION` layer. -/
def collectPrivate : List LayerRef → List LayerPtr → Option (List LayerPtr)
  | [], layersForPrivate => some layersForPrivate
  | r :: rs, layersForPrivate =>
    if r.layer.mCompositionType = .DISPLAY_DECORATION then none
    else if r.layer.mCompositionType = .NXP_PRIVATE then
      collectPrivate rs (layersForPrivate ++ [r.ptr])
    else collectPrivate rs layersForPrivate

/-- A single private layer that leaves part of the screen free: the UI moves to an overlay plane. -/
def needsUiPlane (e : ValidateEnv) (deref : LayerPtr → Layer) : List LayerPtr → Bool
  | [p] =>
    let rectFrame := (deref p).mDisplayFrame
    isOverlaySupport e.client && (i32 (rectFrame.right - rectFrame.left) < e.width
      || i32 (rectFrame.bottom - rectFrame.top) < e.height)
  | _ => false

/-- The 2D device is not used for this frame. -/
def leftToClient (e : ValidateEnv) (s : Scan) : Bool :=
  !e.g2d.isValid || (!s.mustDeviceComposition &&
    (!s.deviceComposition || s.fallBackToClient || !e.colorTransformIdentity))

structure ValidateOut where
  error : Error
  changes : DisplayChanges
  layers : ValidatedLayers

/-- A layer left to the client that can be shown as it is when no client target is set. -/
def findLucky (deref : LayerPtr → Layer) (lucky : Option LayerPtr) : List LayerPtr → Option LayerPtr
  | [p] =>
    if (deref p).mCompositionType = .DEVICE ∧ (deref p).mBuffer ≠ none then some p else lucky
  | _ => lucky

/-- The part after the main loop. -/
def assign (e : ValidateEnv) (deref : LayerPtr → Layer) (v : ValidatedLayers) (s : Scan) :
    ValidateOut :=
  let v := { v with layersForOverlayPlane := s.layersForOverlay }
  if leftToClient e s then
    ⟨.None,
      s.outChanges ++ (s.layersForComposition.filter fun p =>
        (deref p).mCompositionType ≠ .CLIENT).map fun p => (p.layerId, .CLIENT),
      { v with
        luckyLayer := findLucky deref v.luckyLayer s.layersForComposition
        layersForComposition := [] }⟩
  else
    ⟨.None,
      s.outChanges ++ (s.layersForComposition.filter fun p =>
        (deref p).mCompositionType = .CLIENT).map fun p => (p.layerId, .DEVICE),
      { v with layersForComposition := s.layersForComposition }⟩

/-- The state in which the main loop starts: the lists are as the last frames left them. -/
def startScan (e : ValidateEnv) (v : ValidatedLayers) (pool : PlanePool) : Scan where
  pool := pool
  uiMaskedRect := ⟨e.width, e.height, 0, 0⟩
  layerSkiped := false
  layersForOverlay := v.layersForOverlayPlane
  layersForComposition := v.layersForComposition
  outChanges := []
  deviceComposition := true
  mustDeviceComposition := false
  fallBackToClient := false

/-- `validateDisplay` once the display and its client are found. -/
def validateLayers (e : ValidateEnv) (deref : LayerPtr → Layer) (v : ValidatedLayers)
    (layers : List LayerRef) : ValidateOut :=
  match collectPrivate layers v.layersForNxpPrivate with
  | none => ⟨.Unsupported, [], { v with layersForNxpPrivate := [] }⟩
  | some layersForPrivate =>
    let backup := needsUiPlane e deref layersForPrivate
    let prepared := prepareDrmPlanesForValidate e.client backup
    let compositionPlaneId :=
      if backup then some (prepared.uiPlane.getD e.planeIdForUI) else v.compositionPlaneId
    let v := { v with
      layersForNxpPrivate := layersForPrivate
      compositionPlaneId := compositionPlaneId }
    assign e deref v (run (scanLayer e) (startScan e v prepared.pool) layers)

/-! ### What one turn of the loop does -/

/-- The comparison of `Display::validate`. -/
def Below (a b : LayerRef) : Prop :=
  a.layer.mZOrder < b.layer.mZOrder ∨
    (a.layer.mZOrder = b.layer.mZOrder ∧ a.ptr.layerId < b.ptr.layerId)

theorem Below.asymm {a b : LayerRef} (h : Below a b) : ¬ Below b a := by
  simp only [Below] at h ⊢
  omega

/-- The layer goes to an overlay plane of the pool. -/
structure GoesOverlay (e : ValidateEnv) (s : Scan) (r : LayerRef) (s' : Scan) (planeId : ℕ) :
    Prop where
  clear : checkRectOverlap s.uiMaskedRect r.layer.mDisplayFrame = false
  type : r.layer.mCompositionType = .DEVICE ∨ r.layer.mCompositionType = .CLIENT
  plane : planeId ∈ s.pool.mPlaneIdPool
  supported : isOverlaySupport e.client = true
  open_ : s.layerSkiped = false
  pool : s'.pool.mPlaneIdPool = s.pool.mPlaneIdPool.erase planeId
  masked : s'.uiMaskedRect = s.uiMaskedRect
  skiped : s'.layerSkiped = s.layerSkiped
  overlay : s'.layersForOverlay = emplace s.layersForOverlay planeId r.ptr
  composition : s'.layersForComposition = s.layersForComposition
  changes : s'.outChanges =
    if r.layer.mCompositionType ≠ .DEVICE then s.outChanges ++ [(r.ptr.layerId, .DEVICE)]
    else s.outChanges

/-- The layer goes to composition; while overlays are still tried the mask grows over it. -/
structure GoesComposition (e : ValidateEnv) (s : Scan) (r : LayerRef) (s' : Scan) : Prop where
  pool : s'.pool.mPlaneIdPool.Sublist s.pool.mPlaneIdPool
  masked : isOverlaySupport e.client = true → s.layerSkiped = false →
    s'.uiMaskedRect = mergeRect s.uiMaskedRect r.layer.mDisplayFrame
  skiped : s.layerSkiped = true → s'.layerSkiped = true
  overlay : s'.layersForOverlay = s.layersForOverlay
  composition : s'.layersForComposition = s.layersForComposition ++ [r.ptr]
  changes : s'.outChanges = s.outChanges

/-- Everything a turn can do. -/
theorem scanLayer_cases (e : ValidateEnv) (s : Scan) (r : LayerRef) :
    (eligible r = false ∧ scanLayer e s r = s) ∨
    (eligible r = true ∧ ∃ planeId, GoesOverlay e s r (scanLayer e s r) planeId) ∨
    (eligible r = true ∧ GoesComposition e s r (scanLayer e s r)) := by
  cases he : eligible r with
  | false => exact .inl ⟨rfl, by rw [scanLayer, if_pos he]⟩
  | true =>
    refine .inr ?_
    rw [scanLayer, if_neg (by rw [he]; decide)]
    by_cases hopen : isOverlaySupport e.client = true ∧ s.layerSkiped = false
    · rw [if_pos hopen]
      cases hx : excluded e s.uiMaskedRect r.layer with
      | true =>
        rw [if_pos rfl]
        exact .inr ⟨rfl, .refl _, fun _ _ => rfl, id, rfl, rfl, rfl⟩
      | false =>
        rw [if_neg (by decide)]
        simp only [excluded, Bool.or_eq_false_iff] at hx
        obtain ⟨⟨hclear, -⟩, htype⟩ := hx
        cases hp : getPlaneForLayerBuffer e.platform e.client s.pool r.layer.mBuffer with
        | mk plane pool =>
          cases plane with
          | some planeId =>
            obtain ⟨hmem, herase⟩ := getPlaneForLayerBuffer_some hp
            refine .inl ⟨rfl, planeId, hclear, ?_, hmem, hopen.1, hopen.2, herase, rfl, rfl, rfl,
              rfl, rfl⟩
            by_contra hne
            push Not at hne
            simp [hne.1, hne.2] at htype
          | none =>
            refine .inr ⟨rfl, getPlaneForLayerBuffer_none hp, fun _ _ => rfl, ?_, rfl, rfl, rfl⟩
            intro hs
            rw [hopen.2] at hs
            cases hs
    · rw [if_neg hopen]
      exact .inr ⟨rfl, .refl _, fun h₁ h₂ => absurd ⟨h₁, h₂⟩ hopen, id, rfl, rfl, rfl⟩

/-! ### What the loop has done after some layers -/

/-- The changes asked for the layers on overlay planes: the latest layer stands first in `ov`, its
    change last. -/
def overlayChanges (ov : List LayerRef) : DisplayChanges :=
  ((ov.filter fun r => r.layer.mCompositionType ≠ .DEVICE).map fun r =>
    (r.ptr.layerId, Composition.DEVICE)).reverse

/-- The visited layers `done` are shared out between the overlay planes (`ov`) and composition
    (`co`), each once; what is in composition lies inside the mask. -/
structure Placed (e : ValidateEnv) (done : List LayerRef) (s : Scan) (ov co : List LayerRef) :
    Prop where
  overlay : s.layersForOverlay.entries.map Sigma.snd = ov.map LayerRef.ptr
  composition : s.layersForComposition = co.map LayerRef.ptr
  changes : s.outChanges = overlayChanges ov
  shared : (ov ++ co).Perm (done.filter eligible)
  types : ∀ r ∈ ov, r.layer.mCompositionType = .DEVICE ∨ r.layer.mCompositionType = .CLIENT
  pool_nodup : s.pool.mPlaneIdPool.Nodup
  pool_free : ∀ p ∈ s.pool.mPlaneIdPool, p ∉ s.layersForOverlay
  masked : isOverlaySupport e.client = true → s.layerSkiped = false →
    ∀ r ∈ co, r.layer.mDisplayFrame.Inside s.uiMaskedRect
  below : ∀ hi ∈ ov, ∀ lo ∈ co, Below lo hi →
    checkRectOverlap lo.layer.mDisplayFrame hi.layer.mDisplayFrame = false

section Turn

variable {e : ValidateEnv} {done : List LayerRef} {s s' : Scan} {ov co : List LayerRef}
  {r : LayerRef}

theorem filter_concat_eligible (he : eligible r = true) :
    (done ++ [r]).filter eligible = done.filter eligible ++ [r] := by
  rw [List.filter_append, List.filter_singleton, he]; rfl

theorem Placed.mem_of_overlay (h : Placed e done s ov co) {hi : LayerRef} (hm : hi ∈ ov) :
    hi ∈ done :=
  (List.mem_filter.mp (h.shared.subset (List.mem_append_left co hm))).1

theorem placed_overlay {planeId : ℕ} (h : Placed e done s ov co) (he : eligible r = true)
    (ht : GoesOverlay e s r s' planeId) : Placed e (done ++ [r]) s' (r :: ov) co where
  overlay := by
    have hfree := h.pool_free planeId ht.plane
    rw [ht.overlay, emplace, if_neg hfree, AList.entries_insert_of_notMem hfree, List.map_cons,
      h.overlay, List.map_cons]
  composition := by rw [ht.composition, h.composition]
  changes := by
    rw [ht.changes, h.changes, overlayChanges, overlayChanges, List.filter_cons]
    by_cases hd : r.layer.mCompositionType ≠ .DEVICE
    · rw [if_pos hd, if_pos (decide_eq_true hd), List.map_cons, List.reverse_cons]
    · rw [if_neg hd, if_neg (by simpa using hd)]
  shared := by
    rw [filter_concat_eligible he, List.cons_append]
    exact (h.shared.cons r).trans (List.perm_append_singleton r _).symm
  types := by
    intro x hx
    rcases List.mem_cons.mp hx with rfl | hx
    · exact ht.type
    · exact h.types x hx
  pool_nodup := by rw [ht.pool]; exact h.pool_nodup.erase _
  pool_free := by
    intro p hp hk
    rw [ht.pool, h.pool_nodup.mem_erase_iff] at hp
    rw [ht.overlay, emplace, if_neg (h.pool_free planeId ht.plane), AList.mem_insert] at hk
    rcases hk with hk | hk
    · exact hp.1 hk
    · exact h.pool_free p hp.2 hk
  masked := by
    intro hsup hsk
    rw [ht.masked]
    exact h.masked hsup (by rw [← ht.skiped]; exact hsk)
  below := by
    intro hi hhi lo hlo hb
    rcases List.mem_cons.mp hhi with rfl | hhi
    · -- everything composed so far lies inside the mask, which this layer is clear of
      by_contra hov
      have hmask := overlap_mono (h.masked ht.supported ht.open_ lo hlo)
        (Bool.not_eq_false _ ▸ hov)
      rw [ht.clear] at hmask
      cases hmask
    · exact h.below hi hhi lo hlo hb

theorem placed_composition (h : Placed e done s ov co) (he : eligible r = true)
    (hr : ∀ d ∈ done, Below d r) (ht : GoesComposition e s r s') :
    Placed e (done ++ [r]) s' ov (co ++ [r]) where
  overlay := by rw [ht.overlay, h.overlay]
  composition := by rw [ht.composition, h.composition, List.map_append]; rfl
  changes := by rw [ht.changes, h.changes]
  shared := by
    rw [filter_concat_eligible he, ← List.append_assoc]
    exact h.shared.append_right [r]
  types := h.types
  pool_nodup := h.pool_nodup.sublist ht.pool
  pool_free := by
    intro p hp
    rw [ht.overlay]
    exact h.pool_free p (ht.pool.subset hp)
  masked := by
    intro hsup hsk x hx
    have hs : s.layerSkiped = false := by
      by_contra hne
      rw [ht.skiped (Bool.not_eq_false _ ▸ hne)] at hsk
      cases hsk
    rw [ht.masked hsup hs]
    rcases List.mem_append.mp hx with hx | hx
    · exact (h.masked hsup hs x hx).trans (inside_mergeRect_left _ _)
    · rw [List.mem_singleton.mp hx]
      exact inside_mergeRect_right _ _
  below := by
    intro hi hhi lo hlo hb
    rcases List.mem_append.mp hlo with hlo | hlo
    · exact h.below hi hhi lo hlo hb
    · -- a layer visited later is never below one visited before
      rw [List.mem_singleton.mp hlo] at hb
      exact absurd hb (hr hi (h.mem_of_overlay hhi)).asymm

/-- The visited layers are shared out. -/
def Shared (e : ValidateEnv) (done : List LayerRef) (s : Scan) : Prop :=
  ∃ ov co, Placed e done s ov co

theorem shared_turn (hr : ∀ d ∈ done, Below d r) (h : Shared e done s) :
    Shared e (done ++ [r]) (scanLayer e s r) := by
  obtain ⟨ov, co, h⟩ := h
  rcases scanLayer_cases e s r with ⟨he, hs⟩ | ⟨he, planeId, ht⟩ | ⟨he, ht⟩
  · rw [hs]
    refine ⟨ov, co, { h with shared := ?_ }⟩
    rw [List.filter_append, List.filter_singleton, he, cond_false, List.append_nil]
    exact h.shared
  · exact ⟨r :: ov, co, placed_overlay h he ht⟩
  · exact ⟨ov, co ++ [r], placed_composition h he hr ht⟩

end Turn

/-- From empty lists, the loop over layers in their order shares all of them out. -/
theorem shared_scan {e : ValidateEnv} {v : ValidatedLayers} {pool : PlanePool}
    {layers : List LayerRef} (hov : v.layersForOverlayPlane = ∅) (hco : v.layersForComposition = [])
    (hpool : pool.mPlaneIdPool.Nodup) (hord : layers.Pairwise Below) :
    Shared e layers (run (scanLayer e) (startScan e v pool) layers) := by
  have hstart : Shared e [] (startScan e v pool) := by
    refine ⟨[], [], ?_, hco, rfl, .refl _, by simp, hpool, ?_, by simp, by simp⟩
    · simp [startScan, hov]
    · intro p _
      simp [startScan, hov]
  have hstep : ∀ done x s, (∀ d ∈ done, Below d x) → Shared e done s →
      Shared e (done ++ [x]) (scanLayer e s x) := fun _ _ _ hd hs => shared_turn hd hs
  exact scan_inv hstep layers [] _ hord (by simp) hstart

/-! ### What a successful validate returns -/

/-- A layer is left to the client: changed to `CLIENT`, or `CLIENT` before and not changed. -/
def InClient (changes : DisplayChanges) (r : LayerRef) : Prop :=
  (r.ptr.layerId, .CLIENT) ∈ changes ∨
    (r.layer.mCompositionType = .CLIENT ∧ ∀ c ∈ changes, c.1 ≠ r.ptr.layerId)

/-- The changes asked for the composed layers, when they are left to the client (`client`) and when
    the 2D device takes them. -/
def composedChanges (client : Bool) (co : List LayerRef) : DisplayChanges :=
  if client then
    (co.filter fun r => r.layer.mCompositionType ≠ .CLIENT).map fun r => (r.ptr.layerId, .CLIENT)
  else
    (co.filter fun r => r.layer.mCompositionType = .CLIENT).map fun r => (r.ptr.layerId, .DEVICE)

/-- The eligible layers are shared out between `ov`, on overlay planes, and `co`, which stays in
    `layersForComposition` or is left to the client as a whole. -/
structure Outcome (layers : List LayerRef) (out : ValidateOut) (ov co : List LayerRef)
    (client : Bool) : Prop where
  overlay : out.layers.overlayPtrs = ov.map LayerRef.ptr
  composition : out.layers.layersForComposition = if client then [] else co.map LayerRef.ptr
  changes : out.changes = overlayChanges ov ++ composedChanges client co
  shared : (ov ++ co).Perm (layers.filter eligible)
  types : ∀ r ∈ ov, r.layer.mCompositionType = .DEVICE ∨ r.layer.mCompositionType = .CLIENT
  below : ∀ hi ∈ ov, ∀ lo ∈ co, Below lo hi →
    checkRectOverlap lo.layer.mDisplayFrame hi.layer.mDisplayFrame = false

/-- A loop that reads each composed layer back through its pointer reads that layer. -/
theorem filter_deref {deref : LayerPtr → Layer} {co : List LayerRef}
    (hderef : ∀ r ∈ co, deref r.ptr = r.layer) (f : Layer → Bool) (c : Composition) :
    (((co.map LayerRef.ptr).filter fun p => f (deref p)).map fun p => (p.layerId, c))
      = (co.filter fun r => f r.layer).map fun r => (r.ptr.layerId, c) := by
  rw [List.filter_map, List.map_map]
  congr 1
  refine List.filter_congr fun r hr => ?_
  rw [Function.comp_apply, hderef r hr]

theorem assign_outcome {e : ValidateEnv} {deref : LayerPtr → Layer} {v : ValidatedLayers}
    {layers : List LayerRef} {s : Scan} (hderef : ∀ r ∈ layers, deref r.ptr = r.layer)
    (h : Shared e layers s) : ∃ ov co client, Outcome layers (assign e deref v s) ov co client := by
  obtain ⟨ov, co, h⟩ := h
  have hco : ∀ r ∈ co, deref r.ptr = r.layer := fun r hr =>
    hderef r (List.mem_filter.mp (h.shared.subset (List.mem_append_right ov hr))).1
  simp only [assign]
  split
  · refine ⟨ov, co, true, h.overlay, rfl, ?_, h.shared, h.types, h.below⟩
    rw [h.changes, h.composition,
      filter_deref hco (fun l => l.mCompositionType ≠ .CLIENT)]
    rfl
  · refine ⟨ov, co, false, h.overlay, h.composition, ?_, h.shared, h.types, h.below⟩
    rw [h.changes, h.composition,
      filter_deref hco (fun l => l.mCompositionType = .CLIENT)]
    rfl

theorem validateLayers_outcome {e : ValidateEnv} {deref : LayerPtr → Layer} {v : ValidatedLayers}
    {layers : List LayerRef} (hov : v.layersForOverlayPlane = ∅) (hco : v.layersForComposition = [])
    (hord : layers.Pairwise Below) (hderef : ∀ r ∈ layers, deref r.ptr = r.layer)
    (hok : (validateLayers e deref v layers).error = .None) :
    ∃ ov co client, Outcome layers (validateLayers e deref v layers) ov co client := by
  simp only [validateLayers] at hok ⊢
  cases hp : collectPrivate layers v.layersForNxpPrivate with
  | none => rw [hp] at hok; cases hok
  | some layersForPrivate =>
    refine assign_outcome hderef (shared_scan ?_ ?_ ?_ hord)
    · exact hov
    · exact hco
    · exact prepareDrmPlanesForValidate_nodup _ _

end ImxHal.Hwc3.Frame
