import ImxHal.Schemes.SortedAdd
import ImxHal.Display.HwLayers
import ImxHal.Hwc3.Common

/-! @src display/display/Layer.cpp (LayerVector), display/display/Display.cpp (verifyLayers,
    composeLayersLocked) | name:LayerVector | scheme:sorted vector | family:composition

    `verifyLayers` sorts out surfaceflinger's layers and puts those for the composer in `mLayerVector`;
    `composeLayersLocked` adds the hardware layers that have a buffer to show, and draws the vector from
    its front:

        busy ──┬─ checkOverlay (one) ──▶ overlay plane
               └─ others ──▶ add ──▶ mLayerVector ◀── add ── hardware layers with a buffer

    The vector tells its elements apart by `do_compare` alone, the difference of two z-orders: layers of
    one z-order are one element, and a difference past the middle of an `int` has the wrong sign. -/

namespace ImxHal.LayerVector
open ImxHal.SortedAdd ImxHal.Hwc3
open ImxHal.SlotQueue (HwLayer BufferSlot MAX_LAYERS)

inductive LayerType where
  | invalid | client | device | solidColor | cursor | sideband
  deriving DecidableEq

inductive Format where
  | nv12Tiled | nv12 | rgba8888 | bgra8888 | rgba1010102 | rgbaFp16 | other
  deriving DecidableEq

/-- Formats with an alpha channel, as `check2DComposition` lists them. -/
def Format.alpha (f : Format) : Bool :=
  f = .rgba8888 || f = .bgra8888 || f = .rgba1010102 || f = .rgbaFp16

inductive Blending where
  | none | premult | coverage | dim
  deriving DecidableEq

/-- A buffer handle: its identity, its format and the `USAGE_PROTECTED` bit. -/
structure Memory where
  id : ℕ
  fslFormat : Format
  usageProtected : Bool
  deriving DecidableEq

/-- A layer of surfaceflinger; `skip` is the `SKIP_LAYER` bit of `flags`, `fullRange` the range of the
    dataspace. -/
structure Layer where
  busy : Bool
  zorder : BitVec 32
  origType : LayerType
  type : LayerType
  handle : Option Memory
  lastHandle : Option Memory
  transform : ℤ
  blendMode : Blending
  planeAlpha : ℤ
  skip : Bool
  fullRange : Bool
  sourceCrop : Rect
  displayFrame : Rect
  lastSourceCrop : Rect
  lastDisplayFrame : Rect
  isOverlay : Bool

/-- A hardware layer and its z-order. -/
structure HwEntry where
  zorder : BitVec 32
  layer : HwLayer

/-- The bits of `mComposeFlag`. -/
structure ComposeFlag where
  overlay : Bool
  lastOverlay : Bool
  client : Bool
  onlyOverlay : Bool
  deriving DecidableEq

/-- A pointer in `mLayerVector`. -/
inductive Ref where
  | layer (i : ℕ)
  | hwLayer (i : ℕ)
  deriving DecidableEq

/-- `only_overlay_cnt` is a static variable of `verifyLayers`. -/
structure Display where
  mLayers : ℕ → Layer
  mHwLayers : ℕ → Option HwEntry
  mLayerVector : List Ref
  mOverlay : Option ℕ
  mComposeFlag : ComposeFlag
  mTotalLayerNum : ℕ
  mUiUpdate : Bool
  only_overlay_cnt : ℕ

/-- What the functions find around them: the composer, the overlay check of the kind of display,
    whether the display is plugged (or the primary one), and the build options. -/
structure Panel where
  valid : Bool
  disabled : Bool
  use2D : Bool
  rotationCap : Bool
  checkOverlay : Layer → Bool
  plugged : Bool
  unmappedHeap : Bool
  widevine : Bool
  alphaWorkaround : Bool

/-- `SortedVector::add`. -/
abbrev Add := List Ref → Ref → List Ref

def Display.zorder (d : Display) : Ref → BitVec 32
  | .layer i => (d.mLayers i).zorder
  | .hwLayer i => ((d.mHwLayers i).map HwEntry.zorder).getD 0

/-- `LayerVector::do_compare`: the difference of two `uint32_t`, returned as an `int`. -/
def Display.do_compare (d : Display) (lhs rhs : Ref) : ℤ := (d.zorder lhs - d.zorder rhs).toInt

def Display.setLayer (d : Display) (i : ℕ) (l : Layer) : Display :=
  { d with mLayers := Function.update d.mLayers i l }

def Display.setHwLayer (d : Display) (i : ℕ) (e : HwEntry) : Display :=
  { d with mHwLayers := Function.update d.mHwLayers i (some e) }

/-! ### verifyLayers -/

/-- `forceVync`: some hardware layer has a queue. -/
def Display.forceVync (d : Display) : Bool :=
  (List.range MAX_LAYERS).any fun i => ((d.mHwLayers i).bind fun e => e.layer.queue).isSome

/-- The buffer must be composed by the device. -/
def Panel.tiled (p : Panel) (handle : Option Memory) : Bool :=
  handle.any fun m => m.fslFormat = .nv12Tiled || (p.widevine && m.usageProtected)

/-- The layer keeps the composer from being used. -/
def Panel.skips2D (p : Panel) (l : Layer) : Bool :=
  (l.transform ≠ 0 && !p.rotationCap)
    || (l.handle.any fun m => m.fslFormat = .nv12 && l.fullRange)
    || (p.alphaWorkaround &&
      l.handle.any fun m => l.planeAlpha ≠ 0xff && l.blendMode = .premult && m.fslFormat.alpha)

/-- The loop of `check2DComposition` over the layers left. -/
def Display.scan2D (d : Display) (p : Panel) : Bool → List ℕ → Bool
  | use2DComposition, [] => use2DComposition
  | use2DComposition, i :: is =>
    if (d.mHwLayers i).isSome then true
    else if !(d.mLayers i).busy then d.scan2D p use2DComposition is
    else if p.tiled (d.mLayers i).handle then true
    else d.scan2D p (use2DComposition && !p.skips2D (d.mLayers i)) is

def Display.check2DComposition (d : Display) (p : Panel) : Bool :=
  if !p.valid || p.disabled then false
  else if d.forceVync then true
  else d.scan2D p p.use2D (List.range MAX_LAYERS)

/-- A busy layer that leaves the composer unused. -/
def Layer.refuses (l : Layer) : Bool :=
  l.busy && (l.skip || l.origType = .client || l.origType = .invalid)

/-- The first loop's body: the type a layer starts with. -/
def Layer.retype (l : Layer) : Layer :=
  if !l.busy then l
  else
    let l := if l.skip then { l with type := .client } else l
    match l.origType with
    | .client => l
    | .solidColor => { l with blendMode := .dim, type := .solidColor }
    | .sideband => { l with type := .sideband }
    | .device => { l with type := .device }
    | .cursor => { l with type := .device }
    | .invalid => l

def Display.retype (d : Display) : Display :=
  { d with mLayers := fun i => if i < MAX_LAYERS then (d.mLayers i).retype else d.mLayers i }

/-- The local `deviceCompose` once it is settled. -/
def Display.deviceCompose (d : Display) (p : Panel) : Bool :=
  d.check2DComposition p && !(List.range MAX_LAYERS).any (fun i => (d.mLayers i).refuses)
    && p.valid && !p.disabled

/-- A protected layer takes the overlay plane from one that is not. -/
def Panel.takesOver (p : Panel) (hnd ov_hnd : Option Memory) : Bool :=
  p.unmappedHeap && hnd.any Memory.usageProtected && ov_hnd.any fun m => !m.usageProtected

/-- The locals of the second loop. -/
structure Sorting where
  disp : Display
  ovIdx : Option ℕ
  layerZVector : List (BitVec 32 × Rect)

/-- The layer differs from what the last frame showed of it. -/
def Layer.changed (l : Layer) : Bool :=
  l.handle ≠ l.lastHandle || l.lastSourceCrop ≠ l.sourceCrop || l.lastDisplayFrame ≠ l.displayFrame

/-- The end of the loop body, for the layer that is not for the overlay plane. -/
def Sorting.place (s : Sorting) (deviceCompose : Bool) (add : Add) (idx : ℕ) : Sorting :=
  let l := s.disp.mLayers idx
  if !deviceCompose then
    let seen := { l with
      type := .client
      lastHandle := l.handle
      lastSourceCrop := l.sourceCrop
      lastDisplayFrame := l.displayFrame }
    { s with
      disp := { s.disp.setLayer idx seen with
        mComposeFlag := { s.disp.mComposeFlag with client := true }
        mTotalLayerNum := s.disp.mTotalLayerNum + 1
        mUiUpdate := s.disp.mUiUpdate || l.changed }
      -- `emplace` keeps the first frame of a z-order
      layerZVector := if s.layerZVector.any fun v => v.1 = l.zorder then s.layerZVector
        else s.layerZVector ++ [(l.zorder, l.displayFrame)] }
  else
    { s with disp := { s.disp with
        mLayerVector := add s.disp.mLayerVector (.layer idx)
        mTotalLayerNum := s.disp.mTotalLayerNum + 1 } }

/-- The second loop's body. -/
def Sorting.step (p : Panel) (deviceCompose : Bool) (add : Add) (s : Sorting) (i : ℕ) : Sorting :=
  if !(s.disp.mLayers i).busy then s
  else if p.checkOverlay (s.disp.mLayers i) then
    match s.ovIdx with
    | none => { s with ovIdx := some i }
    | some j =>
      if p.takesOver (s.disp.mLayers i).handle (s.disp.mLayers j).handle then
        let restored := s.disp.setLayer j { s.disp.mLayers j with isOverlay := false }
        ({ s with disp := restored, ovIdx := some i } : Sorting).place deviceCompose add j
      else s.place deviceCompose add i
  else s.place deviceCompose add i

def contains (outer inner : Rect) : Bool :=
  outer.left ≤ inner.left && outer.right ≥ inner.right && outer.top ≤ inner.top
    && outer.bottom ≥ inner.bottom

/-- The layer for the overlay plane goes there unless a layer of the client covers it from below. -/
def Sorting.settleOverlay (s : Sorting) : Display :=
  match s.ovIdx with
  | none => s.disp
  | some j =>
    let l := s.disp.mLayers j
    if s.layerZVector.any fun v => v.1.toInt < l.zorder.toInt && contains v.2 l.displayFrame then
      { s.disp.setLayer j { l with type := .client } with
        mComposeFlag := { s.disp.mComposeFlag with client := true }
        mTotalLayerNum := s.disp.mTotalLayerNum + 1 }
    else
      { s.disp.setLayer j { l with isOverlay := true, type := .device } with
        mOverlay := some j
        mComposeFlag := { s.disp.mComposeFlag with overlay := true } }

/-- The layer behind a surface view has an empty crop, and is skipped next to an overlay. -/
def Display.skipBackground (d : Display) : Display :=
  { d with mLayers := fun i =>
      let l := d.mLayers i
      if i < MAX_LAYERS && l.busy && l.sourceCrop = ⟨0, 0, 0, 0⟩ && d.mComposeFlag.overlay
      then { l with type := .device } else l }

/-- With every layer in the overlay, `ONLY_OVERLAY_BIT` is set until the targets are cleared. -/
def Display.markOnlyOverlay (d : Display) (lastComposeFlag : ComposeFlag) : Display :=
  let last := { lastComposeFlag with onlyOverlay := false }
  if !d.mComposeFlag.client && d.mComposeFlag.overlay then
    let cnt := if last.client then 1 else d.only_overlay_cnt
    if last = d.mComposeFlag then
      if cnt ≠ 0 then
        { d with
          only_overlay_cnt := cnt - 1
          mComposeFlag := { d.mComposeFlag with onlyOverlay := true } }
      else
        { d with
          only_overlay_cnt := cnt
          mComposeFlag := { d.mComposeFlag with onlyOverlay := false } }
    else
      { d with
        only_overlay_cnt := cnt
        mComposeFlag := { d.mComposeFlag with onlyOverlay := true } }
  else d

/-- Without an update of the UI, the layers of the client need no new composition. -/
def Display.keepUi (d : Display) : Display :=
  if d.mComposeFlag.overlay && d.mComposeFlag.lastOverlay && !d.mUiUpdate then
    { d with mLayers := fun i =>
        let l := d.mLayers i
        if i < MAX_LAYERS && l.busy && !l.isOverlay && l.type = .client
        then { l with type := .device } else l }
  else d

/-- The display as the second loop finds it. -/
def Display.verifyStart (d : Display) : Display :=
  { d.retype with
    mUiUpdate := false
    mLayerVector := []
    mTotalLayerNum := 0
    mComposeFlag := ⟨false, d.mComposeFlag.overlay, false, false⟩ }

/-- The second loop. -/
def Display.sorting (d : Display) (p : Panel) (deviceCompose : Bool) (add : Add) : Sorting :=
  (List.range MAX_LAYERS).foldl (Sorting.step p deviceCompose add) ⟨d.verifyStart, none, []⟩

/-- Another number of layers is an update of the UI. -/
def Display.noteTotal (d : Display) (lastTotalLayerNum : ℕ) : Display :=
  { d with mUiUpdate := d.mUiUpdate || d.mTotalLayerNum ≠ lastTotalLayerNum }

/-- `verifyLayers`, which returns whether the composer is used. -/
def Display.verifyLayers (d : Display) (p : Panel) (add : Add) : Bool × Display :=
  let deviceCompose := d.deviceCompose p
  let t := (d.sorting p deviceCompose add).settleOverlay.noteTotal d.mTotalLayerNum
  (deviceCompose, (t.skipBackground.markOnlyOverlay d.mComposeFlag).keepUi)

/-! ### composeLayersLocked -/

def Display.directCompositionLocked (d : Display) : Bool :=
  !((List.range MAX_LAYERS).any fun i => (d.mLayers i).busy)
    && (List.range MAX_LAYERS).any fun i => (d.mHwLayers i).isSome

/-- The body of the hardware layer loop. -/
def Display.addHwLayer (add : Add) (d : Display) (i : ℕ) : Display :=
  match d.mHwLayers i with
  | none => d
  | some e =>
    match e.layer.queue with
    | none => d
    | some queue =>
      let (slot, queue) := queue.getPresentSlot
      if slot < 0 then d.setHwLayer i { e with layer := { e.layer with priv := some queue } }
      else
        let handle := queue.getPresentBuffer slot
        let d := d.setHwLayer i
          { e with layer := { e.layer with priv := some queue, handle := handle } }
        if handle.isNone then d
        else { d with mLayerVector := add d.mLayerVector (.hwLayer i) }

/-- `composeLayersLocked` up to the drawing of the vector; `none` is the refusal of an unplugged
    display. -/
def Display.composeLayersLocked (d : Display) (p : Panel) (add : Add) : Option Display :=
  if !p.plugged then none
  else if d.mLayerVector.isEmpty && !d.directCompositionLocked then some d
  else some ((List.range MAX_LAYERS).foldl (Display.addHwLayer add) d)

/-! ### What is to be drawn -/

/-- The second loop over the layers left, read off the layers alone: the ones for the composer in the
    order they are met, and the one for the overlay plane. -/
def Panel.sortOut (p : Panel) (layers : ℕ → Layer) : Option ℕ → List ℕ → List ℕ × Option ℕ
  | ov, [] => ([], ov)
  | ov, i :: is =>
    if !(layers i).busy then p.sortOut layers ov is
    else if p.checkOverlay (layers i) then
      match ov with
      | none => p.sortOut layers (some i) is
      | some j =>
        if p.takesOver (layers i).handle (layers j).handle then
          (j :: (p.sortOut layers (some i) is).1, (p.sortOut layers (some i) is).2)
        else (i :: (p.sortOut layers (some j) is).1, (p.sortOut layers (some j) is).2)
    else (i :: (p.sortOut layers ov is).1, (p.sortOut layers ov is).2)

/-- The layers of surfaceflinger for the composer. -/
def Display.placed (d : Display) (p : Panel) : List ℕ :=
  (p.sortOut d.retype.mLayers none (List.range MAX_LAYERS)).1

/-- The layer sent to the overlay plane. -/
def Display.overlayIdx (d : Display) (p : Panel) : Option ℕ :=
  (p.sortOut d.retype.mLayers none (List.range MAX_LAYERS)).2

/-- The layer has a queue and a buffer to show. -/
def ready (l : HwLayer) : Bool :=
  l.queue.any fun queue => 0 ≤ queue.getPresentSlot.1 &&
    (queue.getPresentSlot.2.getPresentBuffer queue.getPresentSlot.1).isSome

def Display.hwReady (d : Display) (i : ℕ) : Bool := (d.mHwLayers i).any fun e => ready e.layer

/-- Everything put in the vector, in the order it is put there. -/
def Display.queued (d : Display) (p : Panel) : List Ref :=
  (d.placed p).map Ref.layer ++ ((List.range MAX_LAYERS).filter d.hwReady).map Ref.hwLayer

/-- The layers a composition draws: the busy ones not sent to the overlay plane, and the hardware
    layers with a buffer. -/
def Display.ToDraw (d : Display) (p : Panel) : Ref → Prop
  | .layer i => i < MAX_LAYERS ∧ (d.mLayers i).busy = true ∧ d.overlayIdx p ≠ some i
  | .hwLayer i => i < MAX_LAYERS ∧ d.hwReady i = true

def Display.order (d : Display) (r : Ref) : ℤ := (d.zorder r).toInt

/-- After `verifyLayers` and a composition by the device, the vector holds what is to be drawn, once,
    in the order of the z-orders. -/
def DrawsEachOnce (d : Display) (p : Panel) (add : Add) : Prop :=
  (d.verifyLayers p add).1 = true →
    ∀ t, (d.verifyLayers p add).2.composeLayersLocked p add = some t →
      t.mLayerVector.Nodup ∧ (∀ r, r ∈ t.mLayerVector ↔ d.ToDraw p r) ∧
        Sorted d.order t.mLayerVector

/-- `rhs` is put in the vector after `lhs`, and their z-orders differ by no more than an `int` holds. -/
def Display.Apart (d : Display) (lhs rhs : Ref) : Prop :=
  (d.order lhs < d.order rhs ∧ d.order rhs - d.order lhs ≤ 2 ^ 31) ∨
    (d.order rhs < d.order lhs ∧ d.order lhs - d.order rhs < 2 ^ 31)

/-- Hardware layers wait for nothing: where one is ready and some layer is busy, a layer is left for
    the composer. -/
def Display.NoneWaits (d : Display) (p : Panel) : Prop :=
  (∃ i < MAX_LAYERS, d.hwReady i = true) → (∃ i < MAX_LAYERS, (d.mLayers i).busy = true) →
    ∃ i < MAX_LAYERS, (d.mLayers i).busy = true ∧ d.overlayIdx p ≠ some i

/-- The z-orders tell the drawn layers apart, and no hardware layer waits behind an overlay that is the
    only busy layer. -/
def Distinguishes (d : Display) (p : Panel) : Prop :=
  d.deviceCompose p = true → p.plugged = true → (d.queued p).Pairwise d.Apart ∧ d.NoneWaits p

/-! ### The second loop -/

theorem sortOut_perm (p : Panel) (layers : ℕ → Layer) (ov : Option ℕ) (is : List ℕ) :
    ((p.sortOut layers ov is).2.toList ++ (p.sortOut layers ov is).1).Perm
      (ov.toList ++ is.filter fun i => (layers i).busy) := by
  induction is generalizing ov with
  | nil => simp [Panel.sortOut]
  | cons i is ih =>
    unfold Panel.sortOut
    cases hb : (layers i).busy with
    | false => simpa [hb] using ih ov
    | true =>
      rw [List.filter_cons_of_pos (by simpa using hb)]
      simp only [Bool.not_true, Bool.false_eq_true, if_false]
      split
      · cases ov with
        | none => simpa using ih (some i)
        | some j =>
          dsimp only
          split
          · refine List.perm_middle.trans ?_
            simpa using ih (some i)
          · refine List.perm_middle.trans (((ih (some j)).cons i).trans ?_)
            simpa using List.Perm.swap j i _
      · refine List.perm_middle.trans (((ih ov).cons i).trans ?_)
        exact List.perm_middle.symm

@[simp] theorem retype_busy (l : Layer) : l.retype.busy = l.busy := by
  unfold Layer.retype
  split
  · rfl
  · cases l.skip <;> cases h : l.origType <;> simp [h]

@[simp] theorem retype_zorder (l : Layer) : l.retype.zorder = l.zorder := by
  unfold Layer.retype
  split
  · rfl
  · cases l.skip <;> cases h : l.origType <;> simp [h]

theorem busyLayers_nodup (d : Display) (p : Panel) :
    ((d.overlayIdx p).toList ++ d.placed p).Nodup :=
  (sortOut_perm p d.retype.mLayers none _).nodup_iff.mpr (List.nodup_range.filter _)

/-- The composer gets the busy layers except the one sent to the overlay plane. -/
theorem mem_placed {d : Display} {p : Panel} {i : ℕ} : i ∈ d.placed p ↔
    i < MAX_LAYERS ∧ (d.mLayers i).busy = true ∧ d.overlayIdx p ≠ some i := by
  have hperm := (sortOut_perm p d.retype.mLayers none (List.range MAX_LAYERS)).mem_iff (a := i)
  have hbusy : (d.retype.mLayers i).busy = (d.mLayers i).busy := by
    by_cases h : i < MAX_LAYERS <;> simp [Display.retype, h]
  simp only [Option.toList_none, List.nil_append, List.mem_append, List.mem_filter, List.mem_range,
    hbusy, Option.mem_toList] at hperm
  have hdisj := (List.nodup_append.mp (busyLayers_nodup d p)).2.2
  constructor
  · intro h
    obtain ⟨hi, hb⟩ := hperm.mp (Or.inr h)
    exact ⟨hi, hb, fun ho => hdisj i (by simp [ho]) i h rfl⟩
  · rintro ⟨hi, hb, ho⟩
    exact (hperm.mpr ⟨hi, hb⟩).resolve_left ho

theorem queued_nodup (d : Display) (p : Panel) : (d.queued p).Nodup := by
  refine List.nodup_append.mpr ⟨?_, ?_, ?_⟩
  · exact (List.nodup_append.mp (busyLayers_nodup d p)).2.1.map fun _ _ h => Ref.layer.inj h
  · exact (List.nodup_range.filter _).map fun _ _ h => Ref.hwLayer.inj h
  · rintro r hr r' hr' rfl
    obtain ⟨i, -, rfl⟩ := List.mem_map.mp hr
    obtain ⟨j, -, hj⟩ := List.mem_map.mp hr'
    cases hj

/-- What is put in the vector is what is to be drawn. -/
theorem mem_queued {d : Display} {p : Panel} (r : Ref) : r ∈ d.queued p ↔ d.ToDraw p r := by
  cases r with
  | layer i => simp [Display.queued, Display.ToDraw, mem_placed]
  | hwLayer i => simp [Display.queued, Display.ToDraw]

/-- The layers are as the loop found them, but for an overlay bit cleared behind the loop. -/
def Sorting.Follows (s : Sorting) (layers : ℕ → Layer) (is : List ℕ) : Prop :=
  ∀ k, s.disp.mLayers k = layers k ∨ (k ∉ is ∧ s.disp.mLayers k = { layers k with isOverlay := false })

theorem Sorting.Follows.head {s : Sorting} {layers : ℕ → Layer} {i : ℕ} {is : List ℕ}
    (h : s.Follows layers (i :: is)) : s.disp.mLayers i = layers i := by
  rcases h i with h | ⟨h, -⟩
  · exact h
  · exact absurd List.mem_cons_self h

theorem Sorting.Follows.handle {s : Sorting} {layers : ℕ → Layer} {is : List ℕ}
    (h : s.Follows layers is) (k : ℕ) : (s.disp.mLayers k).handle = (layers k).handle := by
  rcases h k with h | ⟨-, h⟩ <;> rw [h]

theorem Sorting.Follows.tail {s t : Sorting} {layers : ℕ → Layer} {i : ℕ} {is : List ℕ}
    (h : s.Follows layers (i :: is)) (heq : t.disp.mLayers = s.disp.mLayers) : t.Follows layers is := by
  intro k
  rw [heq]
  exact (h k).imp_right fun ⟨hk, hl⟩ => ⟨fun hm => hk (List.mem_cons_of_mem i hm), hl⟩

/-- The second loop with the composer in use: the vector gets what `sortOut` lists. -/
theorem foldl_step_device (p : Panel) (add : Add) {layers : ℕ → Layer} (is : List ℕ) (s : Sorting)
    (ov : Option ℕ) (hs : s.Follows layers is) (hnd : is.Nodup) (ho : s.ovIdx = ov)
    (hov : ∀ j, ov = some j → j ∉ is) (hz : s.layerZVector = []) :
    let t := is.foldl (Sorting.step p true add) s
    t.disp.mLayerVector = ((p.sortOut layers ov is).1.map Ref.layer).foldl add s.disp.mLayerVector
      ∧ t.ovIdx = (p.sortOut layers ov is).2 ∧ t.layerZVector = [] := by
  induction is generalizing s ov with
  | nil => exact ⟨rfl, ho, hz⟩
  | cons i is ih =>
    obtain ⟨hi, hnd⟩ := List.nodup_cons.mp hnd
    have hov' : ∀ j, ov = some j → j ∉ is := fun j hj h => hov j hj (List.mem_cons_of_mem i h)
    have hi' : ∀ j, some i = some j → j ∉ is := by
      rintro j ⟨⟩
      exact hi
    simp only [List.foldl_cons, Sorting.step, Panel.sortOut, hs.head, ho]
    cases (layers i).busy with
    | false => exact ih s ov (hs.tail rfl) hnd ho hov' hz
    | true =>
      simp only [Bool.not_true, Bool.false_eq_true, if_false]
      split
      · cases ov with
        | none => exact ih { s with ovIdx := some i } (some i) (hs.tail rfl) hnd rfl hi' hz
        | some j =>
          dsimp only
          rw [hs.handle j]
          split
          · refine ih (Sorting.place _ true add j) (some i) (fun k => ?_) hnd rfl hi' hz
            by_cases hk : k = j
            · subst hk
              refine Or.inr ⟨hov' k rfl, ?_⟩
              simp only [Sorting.place, Display.setLayer, Bool.not_true, Bool.false_eq_true, if_false,
                Function.update_self]
              rcases hs k with h | ⟨-, h⟩ <;> rw [h]
            · simp only [Sorting.place, Display.setLayer, Bool.not_true, Bool.false_eq_true, if_false,
                Function.update_of_ne hk]
              exact hs.tail rfl k
          · exact ih (s.place true add i) (some j) (hs.tail rfl) hnd ho hov' hz
      · exact ih (s.place true add i) ov (hs.tail rfl) hnd ho hov' hz

/-! ### The vector after verifyLayers -/

/-- `t` has the layers of `d` where the composition looks at them. -/
structure Keeps (d t : Display) : Prop where
  busy : ∀ i, (t.mLayers i).busy = (d.mLayers i).busy
  zorder : ∀ i, (t.mLayers i).zorder = (d.mLayers i).zorder
  hwLayers : t.mHwLayers = d.mHwLayers

theorem Keeps.refl (d : Display) : Keeps d d := ⟨fun _ => rfl, fun _ => rfl, rfl⟩

theorem Keeps.trans {d t u : Display} (h : Keeps d t) (h' : Keeps t u) : Keeps d u :=
  ⟨fun i => (h'.busy i).trans (h.busy i), fun i => (h'.zorder i).trans (h.zorder i),
    h'.hwLayers.trans h.hwLayers⟩

/-- A layer rewritten in place keeps being busy and its z-order. -/
theorem keeps_of_update {d t : Display} {i : ℕ} {l : Layer}
    (hl : t.mLayers = Function.update d.mLayers i l) (hh : t.mHwLayers = d.mHwLayers)
    (hb : l.busy = (d.mLayers i).busy) (hz : l.zorder = (d.mLayers i).zorder) : Keeps d t := by
  refine ⟨fun k => ?_, fun k => ?_, hh⟩ <;> rw [hl] <;> rcases eq_or_ne k i with rfl | hk
  · simpa using hb
  · simp [hk]
  · simpa using hz
  · simp [hk]

/-- Only the layers count. -/
theorem Keeps.congr {d t u : Display} (h : Keeps d t) (hl : u.mLayers = t.mLayers)
    (hh : u.mHwLayers = t.mHwLayers) : Keeps d u :=
  ⟨by rw [hl]; exact h.busy, by rw [hl]; exact h.zorder, hh.trans h.hwLayers⟩

theorem place_keeps (s : Sorting) (deviceCompose : Bool) (add : Add) (idx : ℕ) :
    Keeps s.disp (s.place deviceCompose add idx).disp := by
  cases deviceCompose with
  | false => exact keeps_of_update (i := idx) rfl rfl rfl rfl
  | true => exact (Keeps.refl s.disp).congr rfl rfl

theorem step_keeps (p : Panel) (deviceCompose : Bool) (add : Add) (s : Sorting) (i : ℕ) :
    Keeps s.disp (s.step p deviceCompose add i).disp := by
  unfold Sorting.step
  split
  · exact Keeps.refl _
  · split
    · split
      · exact Keeps.refl _
      · split
        · refine Keeps.trans ?_ (place_keeps _ deviceCompose add _)
          exact keeps_of_update rfl rfl rfl rfl
        · exact place_keeps s deviceCompose add i
    · exact place_keeps s deviceCompose add i

theorem foldl_step_keeps (p : Panel) (deviceCompose : Bool) (add : Add) (is : List ℕ) (s : Sorting) :
    Keeps s.disp (is.foldl (Sorting.step p deviceCompose add) s).disp := by
  induction is generalizing s with
  | nil => exact Keeps.refl _
  | cons i is ih => exact (step_keeps p deviceCompose add s i).trans (ih _)

theorem settleOverlay_keeps (s : Sorting) : Keeps s.disp s.settleOverlay := by
  unfold Sorting.settleOverlay
  split
  · exact Keeps.refl _
  · dsimp only
    split <;> exact keeps_of_update rfl rfl rfl rfl

theorem settleOverlay_vector (s : Sorting) : s.settleOverlay.mLayerVector = s.disp.mLayerVector := by
  unfold Sorting.settleOverlay
  split
  · rfl
  · dsimp only
    split <;> rfl

theorem noteTotal_keeps (d : Display) (last : ℕ) : Keeps d (d.noteTotal last) :=
  (Keeps.refl d).congr rfl rfl

theorem skipBackground_keeps (d : Display) : Keeps d d.skipBackground := by
  refine ⟨fun i => ?_, fun i => ?_, rfl⟩ <;> simp only [Display.skipBackground] <;> split <;> rfl

theorem markOnlyOverlay_keeps (d : Display) (last : ComposeFlag) : Keeps d (d.markOnlyOverlay last) := by
  simp only [Display.markOnlyOverlay]
  repeat' split
  all_goals exact (Keeps.refl d).congr rfl rfl

theorem markOnlyOverlay_vector (d : Display) (last : ComposeFlag) :
    (d.markOnlyOverlay last).mLayerVector = d.mLayerVector ∧
      (d.markOnlyOverlay last).mOverlay = d.mOverlay := by
  simp only [Display.markOnlyOverlay]
  repeat' split
  all_goals exact ⟨rfl, rfl⟩

theorem keepUi_keeps (d : Display) : Keeps d d.keepUi := by
  unfold Display.keepUi
  split
  · refine ⟨fun i => ?_, fun i => ?_, rfl⟩ <;> dsimp only <;> split <;> rfl
  · exact Keeps.refl _

theorem keepUi_vector (d : Display) :
    d.keepUi.mLayerVector = d.mLayerVector ∧ d.keepUi.mOverlay = d.mOverlay := by
  unfold Display.keepUi
  split <;> exact ⟨rfl, rfl⟩

theorem verifyStart_keeps (d : Display) : Keeps d d.verifyStart := by
  refine ⟨fun i => ?_, fun i => ?_, rfl⟩ <;> simp only [Display.verifyStart, Display.retype] <;>
    split <;> simp

/-- `verifyLayers` changes neither which layers are busy nor a z-order. -/
theorem verifyLayers_keeps (d : Display) (p : Panel) (add : Add) :
    Keeps d (d.verifyLayers p add).2 := by
  have hsorting : Keeps d.verifyStart (d.sorting p (d.deviceCompose p) add).disp :=
    foldl_step_keeps p (d.deviceCompose p) add (List.range MAX_LAYERS) ⟨d.verifyStart, none, []⟩
  have hrest : ∀ t : Display, Keeps t
      ((t.noteTotal d.mTotalLayerNum).skipBackground.markOnlyOverlay d.mComposeFlag).keepUi := fun t =>
    (noteTotal_keeps t _).trans ((skipBackground_keeps _).trans
      ((markOnlyOverlay_keeps _ _).trans (keepUi_keeps _)))
  have hloop := (verifyStart_keeps d).trans (hsorting.trans (settleOverlay_keeps _))
  simp only [Display.verifyLayers]
  exact hloop.trans (hrest _)

/-- With the composer in use, `verifyLayers` puts the layers for it in the vector, and sends the chosen
    one to the overlay plane. -/
theorem verifyLayers_vector {d : Display} {p : Panel} (add : Add) (hd : d.deviceCompose p = true) :
    (d.verifyLayers p add).2.mLayerVector = ((d.placed p).map Ref.layer).foldl add [] ∧
      ∀ i, d.overlayIdx p = some i → (d.verifyLayers p add).2.mOverlay = some i := by
  obtain ⟨hv, ho, hz⟩ := foldl_step_device p add (List.range MAX_LAYERS)
    ⟨d.verifyStart, none, []⟩ none (fun k => Or.inl rfl) List.nodup_range rfl (by simp) rfl
  have hsorting : d.sorting p (d.deviceCompose p) add
      = (List.range MAX_LAYERS).foldl (Sorting.step p true add) ⟨d.verifyStart, none, []⟩ := by
    rw [hd, Display.sorting]
  rw [← hsorting] at hv ho hz
  simp only [Display.verifyLayers, keepUi_vector, markOnlyOverlay_vector, Display.skipBackground,
    Display.noteTotal]
  refine ⟨(settleOverlay_vector _).trans hv, fun i hi => ?_⟩
  have hidx : (d.sorting p (d.deviceCompose p) add).ovIdx = some i := ho.trans hi
  simp [Sorting.settleOverlay, hidx, hz]

/-! ### The vector after composeLayersLocked -/

theorem addHwLayer_vector (add : Add) (d : Display) (i : ℕ) : (d.addHwLayer add i).mLayerVector
    = if d.hwReady i then add d.mLayerVector (.hwLayer i) else d.mLayerVector := by
  unfold Display.addHwLayer Display.hwReady ready
  cases d.mHwLayers i with
  | none => rfl
  | some e =>
    cases hq : e.layer.queue with
    | none => simp [hq]
    | some queue =>
      rcases lt_or_ge queue.getPresentSlot.1 0 with hslot | hslot
      · simp [hq, hslot, Display.setHwLayer]
      · cases hb : queue.getPresentSlot.2.getPresentBuffer queue.getPresentSlot.1 <;>
          simp [hq, hslot, not_lt.mpr hslot, hb, Display.setHwLayer]

/-- The other hardware layers wait for their turn. -/
theorem addHwLayer_of_ne (add : Add) (d : Display) {i k : ℕ} (hk : k ≠ i) :
    (d.addHwLayer add i).mHwLayers k = d.mHwLayers k := by
  unfold Display.addHwLayer
  split
  · rfl
  · split
    · rfl
    · dsimp only
      split
      · simp [Display.setHwLayer, hk]
      · split <;> simp [Display.setHwLayer, hk]

/-- The hardware layer loop adds every layer that is ready. -/
theorem foldl_addHwLayer (add : Add) (is : List ℕ) (d : Display) (hnd : is.Nodup) :
    (is.foldl (Display.addHwLayer add) d).mLayerVector
      = ((is.filter d.hwReady).map Ref.hwLayer).foldl add d.mLayerVector := by
  induction is generalizing d with
  | nil => rfl
  | cons i is ih =>
    obtain ⟨hi, hnd⟩ := List.nodup_cons.mp hnd
    have hsame : is.filter (d.addHwLayer add i).hwReady = is.filter d.hwReady := by
      refine List.filter_congr fun k hk => ?_
      have hne : k ≠ i := fun h => hi (h ▸ hk)
      rw [Display.hwReady, Display.hwReady, addHwLayer_of_ne add d hne]
    rw [List.foldl_cons, ih _ hnd, hsame, addHwLayer_vector]
    cases hr : d.hwReady i <;> simp [hr]

theorem Keeps.direct {d t : Display} (h : Keeps d t) :
    t.directCompositionLocked = d.directCompositionLocked := by
  simp only [Display.directCompositionLocked, h.busy, h.hwLayers]

/-- The composition finds nothing to do. -/
def Display.Idle (d : Display) (p : Panel) : Prop :=
  d.placed p = [] ∧ d.directCompositionLocked = false

instance (d : Display) (p : Panel) : Decidable (d.Idle p) := inferInstanceAs (Decidable (_ ∧ _))

/-- The composition draws everything queued for it, unless it stops before the hardware layers. -/
theorem composed_vector {d : Display} {p : Panel} {add : Add} (ha : AddsSorted d.do_compare add)
    (hd : d.deviceCompose p = true) (hp : p.plugged = true) :
    ∃ t, (d.verifyLayers p add).2.composeLayersLocked p add = some t ∧
      t.mLayerVector = if d.Idle p then [] else (d.queued p).foldl add [] := by
  obtain ⟨hv, -⟩ := verifyLayers_vector add hd
  have hkeeps := verifyLayers_keeps d p add
  have hidle : ((d.verifyLayers p add).2.mLayerVector.isEmpty
      && !(d.verifyLayers p add).2.directCompositionLocked) = true ↔ d.Idle p := by
    rw [hv, hkeeps.direct, Bool.and_eq_true, List.isEmpty_iff, foldl_eq_nil ha, List.map_eq_nil_iff,
      Bool.not_eq_true', Display.Idle]
  simp only [Display.composeLayersLocked, hp, Bool.not_true, Bool.false_eq_true, if_false]
  by_cases h : d.Idle p
  · refine ⟨_, if_pos (hidle.mpr h), ?_⟩
    rw [if_pos h, hv, h.1]
    rfl
  · refine ⟨_, if_neg fun hi => h (hidle.mp hi), ?_⟩
    have hready : (d.verifyLayers p add).2.hwReady = d.hwReady := by
      funext i
      rw [Display.hwReady, Display.hwReady, hkeeps.hwLayers]
    rw [if_neg h, foldl_addHwLayer add _ _ List.nodup_range, hv, hready, Display.queued,
      List.foldl_append]

/-! ### The comparator -/

theorem order_zero (d : Display) (lhs rhs : Ref) (h : d.order lhs = d.order rhs) :
    d.do_compare lhs rhs = 0 := by
  have hz : d.zorder lhs = d.zorder rhs := BitVec.eq_of_toInt_eq h
  simp [Display.do_compare, hz]

/-- The comparator reads the order of the z-orders where they are less than half the range apart. -/
theorem agrees_iff_apart (d : Display) (lhs rhs : Ref) :
    Agrees d.do_compare d.order lhs rhs ↔ d.Apart lhs rhs := by
  have hcmp : d.do_compare lhs rhs = (d.order lhs - d.order rhs).bmod (2 ^ 32) := BitVec.toInt_sub
  have hl := (d.zorder lhs).isLt
  have hl₁ : -2 ^ 31 ≤ d.order lhs := BitVec.le_toInt (d.zorder lhs)
  have hl₂ : d.order lhs < 2 ^ 31 := BitVec.toInt_lt
  have hr₁ : -2 ^ 31 ≤ d.order rhs := BitVec.le_toInt (d.zorder rhs)
  have hr₂ : d.order rhs < 2 ^ 31 := BitVec.toInt_lt
  unfold Agrees Display.Apart
  rw [hcmp, Int.bmod_def]
  omega

/-- The vector is what is to be drawn, once, in order: it is the queued layers sorted. -/
theorem holds_iff_perm {d : Display} {p : Panel} {v : List Ref} :
    (v.Nodup ∧ (∀ r, r ∈ v ↔ d.ToDraw p r) ∧ Sorted d.order v)
      ↔ v.Perm (d.queued p) ∧ Sorted d.order v := by
  simp only [← mem_queued]
  constructor
  · rintro ⟨hnd, hmem, hs⟩
    exact ⟨(List.perm_ext_iff_of_nodup hnd (queued_nodup d p)).mpr hmem, hs⟩
  · rintro ⟨hperm, hs⟩
    exact ⟨hperm.nodup_iff.mpr (queued_nodup d p), fun r => hperm.mem_iff, hs⟩

/-- Something is left for the composer where a layer is busy and not sent to the overlay plane. -/
theorem placed_ne_nil {d : Display} {p : Panel} :
    (∃ i < MAX_LAYERS, (d.mLayers i).busy = true ∧ d.overlayIdx p ≠ some i) ↔ d.placed p ≠ [] := by
  constructor
  · rintro ⟨i, hi⟩ hnil
    have hmem := mem_placed.mpr hi
    rw [hnil] at hmem
    cases hmem
  · intro h
    obtain ⟨i, hi⟩ := List.exists_mem_of_ne_nil _ h
    exact ⟨i, mem_placed.mp hi⟩

/-- A ready hardware layer is composed directly unless a layer is busy. -/
theorem busy_of_indirect {d : Display} (hdirect : d.directCompositionLocked = false)
    (hready : ∃ i < MAX_LAYERS, d.hwReady i = true) : ∃ i < MAX_LAYERS, (d.mLayers i).busy = true := by
  obtain ⟨i, hi, hready⟩ := hready
  have hhw : (List.range MAX_LAYERS).any (fun i => (d.mHwLayers i).isSome) = true := by
    refine List.any_eq_true.mpr ⟨i, List.mem_range.mpr hi, ?_⟩
    cases h : d.mHwLayers i with
    | none => simp [Display.hwReady, h] at hready
    | some e => rfl
  rw [Display.directCompositionLocked, hhw, Bool.and_true, Bool.not_eq_false'] at hdirect
  obtain ⟨j, hj, hb⟩ := List.any_eq_true.mp hdirect
  exact ⟨j, List.mem_range.mp hj, hb⟩

theorem indirect_of_busy {d : Display} (hbusy : ∃ i < MAX_LAYERS, (d.mLayers i).busy = true) :
    d.directCompositionLocked = false := by
  obtain ⟨i, hi, hb⟩ := hbusy
  have hany : (List.range MAX_LAYERS).any (fun i => (d.mLayers i).busy) = true :=
    List.any_eq_true.mpr ⟨i, List.mem_range.mpr hi, hb⟩
  rw [Display.directCompositionLocked, hany]
  rfl

/-- A composition that stops leaves nothing out exactly when no hardware layer waits. -/
theorem noneWaits_iff {d : Display} {p : Panel} : d.NoneWaits p ↔ (d.Idle p → d.queued p = []) := by
  have hqueued : d.placed p = [] → (d.queued p = [] ↔ ¬ ∃ i < MAX_LAYERS, d.hwReady i = true) := by
    intro hplaced
    simp [Display.queued, hplaced]
  rw [Display.NoneWaits, placed_ne_nil]
  constructor
  · rintro h ⟨hplaced, hdirect⟩
    rw [hqueued hplaced]
    exact fun hready => h hready (busy_of_indirect hdirect hready) hplaced
  · intro h hready hbusy hplaced
    exact (hqueued hplaced).mp (h ⟨hplaced, indirect_of_busy hbusy⟩) hready

/-- With the composer in use on a plugged display, each layer is drawn once where the add neither loses
    nor misplaces what is queued, and the composition does not stop before it. -/
theorem draws_iff {d : Display} {p : Panel} (add : Add) (ha : AddsSorted d.do_compare add)
    (hd : d.deviceCompose p = true) (hp : p.plugged = true) :
    DrawsEachOnce d p add ↔ (d.Idle p → d.queued p = []) ∧
      ((d.queued p).foldl add []).Perm (d.queued p) ∧ Sorted d.order ((d.queued p).foldl add []) := by
  obtain ⟨t, ht, hv⟩ := composed_vector ha hd hp
  have hiff : DrawsEachOnce d p add ↔ t.mLayerVector.Perm (d.queued p) ∧ Sorted d.order t.mLayerVector := by
    rw [← holds_iff_perm]
    constructor
    · exact fun h => h hd t ht
    · rintro h - u hu
      obtain rfl := Option.some.inj (ht.symm.trans hu)
      exact h
  rw [hiff, hv]
  by_cases hidle : d.Idle p
  · rw [if_pos hidle, List.nil_perm]
    constructor
    · rintro ⟨h, -⟩
      exact ⟨fun _ => h, by simp [h], by simp [h, Sorted]⟩
    · rintro ⟨h, -⟩
      exact ⟨h hidle, List.Pairwise.nil⟩
  · rw [if_neg hidle]
    exact ⟨fun h => ⟨fun hi => absurd hi hidle, h⟩, fun h => h.2⟩

/-- LayerVector: whatever else `add` does, a composition by the device draws every busy layer not sent
    to the overlay plane and every hardware layer with a buffer once, in the order of the z-orders —
    exactly when the z-orders differ by what an `int` holds and no hardware layer waits behind an
    overlay that is the only busy layer. -/
theorem each_layer_drawn_once_iff (d : Display) (p : Panel) :
    (∀ add, AddsSorted d.do_compare add → DrawsEachOnce d p add) ↔ Distinguishes d p := by
  have hpair : (∀ add, AddsSorted d.do_compare add →
      ((d.queued p).foldl add []).Perm (d.queued p) ∧ Sorted d.order ((d.queued p).foldl add []))
        ↔ (d.queued p).Pairwise d.Apart := by
    rw [sorted_iff_agrees (order_zero d)]
    exact ⟨List.Pairwise.imp (agrees_iff_apart d _ _).mp, List.Pairwise.imp (agrees_iff_apart d _ _).mpr⟩
  constructor
  · intro h hd hp
    have hall := fun add ha => (draws_iff add ha hd hp).mp (h add ha)
    exact ⟨hpair.mp fun add ha => (hall add ha).2, noneWaits_iff.mpr (hall _ (misplace_adds _ d.order)).1⟩
  · intro h add ha hd t ht
    cases hp : p.plugged with
    | false => simp [Display.composeLayersLocked, hp] at ht
    | true =>
      obtain ⟨hapart, hwaits⟩ := h hd hp
      exact (draws_iff add ha hd hp).mpr ⟨noneWaits_iff.mp hwaits, hpair.mpr hapart add ha⟩ hd t ht

/-! ### Two hardware layers -/

/-- A composer in use, on the primary display without an overlay plane. -/
def evsPanel : Panel where
  valid := true
  disabled := false
  use2D := false
  rotationCap := false
  checkOverlay := fun _ => false
  plugged := true
  unmappedHeap := false
  widevine := false
  alphaWorkaround := false

def idleLayer : Layer where
  busy := false
  zorder := 0
  origType := .invalid
  type := .invalid
  handle := none
  lastHandle := none
  transform := 0
  blendMode := .none
  planeAlpha := 0
  skip := false
  fullRange := false
  sourceCrop := ⟨0, 0, 0, 0⟩
  displayFrame := ⟨0, 0, 0, 0⟩
  lastSourceCrop := ⟨0, 0, 0, 0⟩
  lastDisplayFrame := ⟨0, 0, 0, 0⟩
  isOverlay := false

/-- Two clients presented a buffer each: `presentLayer` gives both layers the z-order `0x7fffffff`. -/
def twoHwLayers : Display where
  mLayers := fun _ => idleLayer
  mHwLayers := fun i =>
    if i < 2 then some ⟨0x7fffffff, ⟨true, some ((BufferSlot.new 2).addPresentSlot 0 (some i)), true, none⟩⟩
    else none
  mLayerVector := []
  mOverlay := none
  mComposeFlag := ⟨false, false, false, false⟩
  mTotalLayerNum := 0
  mUiUpdate := false
  only_overlay_cnt := 0

theorem twoHwLayers_queued : twoHwLayers.queued evsPanel = [.hwLayer 0, .hwLayer 1] := by decide

/-- The second hardware layer takes the place of the first. -/
theorem second_hw_layer_replaces :
    ¬ ∃ add, AddsSorted twoHwLayers.do_compare add ∧ DrawsEachOnce twoHwLayers evsPanel add := by
  rintro ⟨add, ha, h⟩
  obtain ⟨-, hperm, -⟩ := (draws_iff _ ha (by decide) rfl).mp h
  rw [twoHwLayers_queued] at hperm
  obtain ⟨l, r, hv, hadd, -⟩ := ha.inserts [] (.hwLayer 0) (by simp)
  obtain ⟨rfl, rfl⟩ := List.append_eq_nil_iff.mp hv.symm
  have hlen : (add [.hwLayer 0] (.hwLayer 1)).length = [Ref.hwLayer 0].length + 1 := by
    simpa [hadd] using hperm.length_eq
  exact ne_zero_of_longer ha hlen _ (List.mem_singleton_self _) (by decide)

end ImxHal.LayerVector
