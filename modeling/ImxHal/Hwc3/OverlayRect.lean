import ImxHal.Hwc3.DrmDisplay
import Mathlib.Algebra.Ring.Parity

/-! @src display/hwcomposer3/DrmDisplay.cpp (flushOverlay), display/hwcomposer3/Common.h
    (ALIGN_PIXEL_2) | name:Overlay rectangle | scheme:scaling | family:geometry

    A display frame is given on the UI size of the active config and shown on a mode of another size.
    `flushOverlay` scales the position and the size apart, each rounded down, and then rounds the size
    down to even:

        x = ⌊left · mode / width⌋        w = 2 · ⌊⌊(right - left) · mode / width⌋ / 2⌋

    Every rounding is downwards, so the plane ends where the frame ends on the mode, or before. -/

namespace ImxHal.Hwc3

/-- The rectangles `flushOverlay` computes: the plane on the mode, and the size of the source. -/
structure PlaneRect where
  x : ℕ
  y : ℕ
  w : ℕ
  h : ℕ
  srcW : ℕ
  srcH : ℕ
  deriving DecidableEq

/-- `ALIGN_PIXEL_2(v - 1)` of a `uint32_t`. -/
def evenSize (v : ℕ) : ℕ := alignPixel2 (u32 (v - 1))

/-- A position or a size on the UI, on the mode: `v * mode / size` on `uint32_t`. -/
def onMode (v : ℤ) (mode size : ℕ) : ℕ := u32 v * mode % 2 ^ 32 / size

def planeRect (config : HalDisplayConfig) (rectF rectS : Rect) : PlaneRect where
  x := onMode rectF.left config.modeWidth config.width
  y := onMode rectF.top config.modeHeight config.height
  w := evenSize (onMode (rectF.right - rectF.left) config.modeWidth config.width)
  h := evenSize (onMode (rectF.bottom - rectF.top) config.modeHeight config.height)
  srcW := evenSize (u32 (rectS.right - rectS.left))
  srcH := evenSize (u32 (rectS.bottom - rectS.top))

/-- The items that put a plane at the rectangle, reading the source from `rectS`. -/
def PlaneRect.items (r : PlaneRect) (planeId : ℕ) (rectS : Rect) : Request :=
  [⟨planeId, .crtcX, r.x⟩, ⟨planeId, .crtcY, r.y⟩, ⟨planeId, .crtcW, r.w⟩, ⟨planeId, .crtcH, r.h⟩,
    ⟨planeId, .srcX, u64 (shl16 rectS.left)⟩, ⟨planeId, .srcY, u64 (shl16 rectS.top)⟩,
    ⟨planeId, .srcW, r.srcW * 2 ^ 16 % 2 ^ 32⟩, ⟨planeId, .srcH, r.srcH * 2 ^ 16 % 2 ^ 32⟩]

/-- The plane lies inside the mode, and the sizes are even. -/
structure PlaneRect.Fits (r : PlaneRect) (config : HalDisplayConfig) : Prop where
  right : r.x + r.w ≤ config.modeWidth
  bottom : r.y + r.h ≤ config.modeHeight
  even_w : Even r.w
  even_h : Even r.h
  even_srcW : Even r.srcW
  even_srcH : Even r.srcH

/-- A UI size and a mode size of less than `2^15` pixels. -/
structure SideSize (size mode : ℕ) : Prop where
  size_pos : 0 < size
  size_lt : size < 2 ^ 15
  mode_pos : 0 < mode
  mode_lt : mode < 2 ^ 15

/-- A config with positive sizes. -/
structure HalDisplayConfig.Sized (c : HalDisplayConfig) : Prop where
  horizontal : SideSize c.width c.modeWidth
  vertical : SideSize c.height c.modeHeight

/-- A frame of the UI: a rectangle inside `[0, width] × [0, height]`. -/
structure Rect.OnUi (r : Rect) (c : HalDisplayConfig) : Prop where
  left : 0 ≤ r.left
  top : 0 ≤ r.top
  width : r.left ≤ r.right
  height : r.top ≤ r.bottom
  right : r.right ≤ c.width
  bottom : r.bottom ≤ c.height

/-! ### One side -/

theorem even_evenSize (v : ℕ) : Even (evenSize v) := by
  rw [evenSize, alignPixel2]
  exact Even.mul_left even_two _

/-- The rounding to even is downwards; it takes 0 to 0, as `0 - 1 + 1` wraps around twice. -/
theorem evenSize_le {v : ℕ} (hv : v < 2 ^ 32) : evenSize v ≤ v := by
  simp only [evenSize, alignPixel2, u32]
  omega

/-- Below `2^15` the product fits 32 bits, and the scaling is that of the integers. -/
theorem onMode_eq {v mode size : ℕ} (hv : v ≤ size) (hs : SideSize size mode) :
    onMode v mode size = v * mode / size := by
  have hprod : v * mode < 2 ^ 15 * 2 ^ 15 :=
    Nat.mul_lt_mul'' (lt_of_le_of_lt hv hs.size_lt) hs.mode_lt
  have hcast : u32 v = v := by
    have := hs.size_lt
    simp only [u32]
    omega
  rw [onMode, hcast, Nat.mod_eq_of_lt (by omega)]

theorem onMode_le {v mode size : ℕ} (hv : v ≤ size) (hs : SideSize size mode) :
    onMode v mode size ≤ mode := by
  rw [onMode_eq hv hs]
  calc v * mode / size ≤ size * mode / size := Nat.div_le_div_right (Nat.mul_le_mul_right _ hv)
    _ = mode := Nat.mul_div_cancel_left _ hs.size_pos

/-- A position and a size that end inside the UI end inside the mode. -/
theorem onMode_add_le {a b mode size : ℕ} (hab : a ≤ b) (hb : b ≤ size) (hs : SideSize size mode) :
    onMode a mode size + evenSize (onMode (b - a : ℕ) mode size) ≤ mode := by
  have hsub : b - a ≤ size := (Nat.sub_le b a).trans hb
  have heven : evenSize (onMode (b - a : ℕ) mode size) ≤ onMode (b - a : ℕ) mode size :=
    evenSize_le (lt_of_le_of_lt (onMode_le hsub hs) (hs.mode_lt.trans (by norm_num)))
  calc onMode a mode size + evenSize (onMode (b - a : ℕ) mode size)
      ≤ onMode a mode size + onMode (b - a : ℕ) mode size := Nat.add_le_add_left heven _
    _ = a * mode / size + (b - a) * mode / size := by
        rw [onMode_eq (hab.trans hb) hs, onMode_eq hsub hs]
    _ ≤ (a * mode + (b - a) * mode) / size := Nat.div_add_div_le_add_div
    _ = onMode b mode size := by
        rw [onMode_eq hb hs, ← Nat.add_mul, Nat.add_sub_cancel' hab]
    _ ≤ mode := onMode_le hb hs

/-- The same for the coordinates of a frame. -/
theorem side_le {a b : ℤ} {mode size : ℕ} (ha : 0 ≤ a) (hab : a ≤ b) (hb : b ≤ size)
    (hs : SideSize size mode) : onMode a mode size + evenSize (onMode (b - a) mode size) ≤ mode := by
  lift a to ℕ using ha
  lift b to ℕ using (Int.natCast_nonneg a).trans hab
  have hab : a ≤ b := by omega
  rw [← Int.natCast_sub hab]
  exact onMode_add_le hab (by omega) hs

/-! ### The rectangle of a flush -/

theorem planeRect_fits {c : HalDisplayConfig} {rectF : Rect} (rectS : Rect) (hc : c.Sized)
    (hf : rectF.OnUi c) : (planeRect c rectF rectS).Fits c where
  right := side_le hf.left hf.width hf.right hc.horizontal
  bottom := side_le hf.top hf.height hf.bottom hc.vertical
  even_w := even_evenSize _
  even_h := even_evenSize _
  even_srcW := even_evenSize _
  even_srcH := even_evenSize _

/-- The items of `flushOverlay` are those of its rectangle, between the framebuffer and the `zpos`. -/
theorem overlayItems_eq (d : DrmDisplay) (plane : DrmPlane) (planeId : ℕ) (buffer : DrmBuffer) :
    overlayItems d plane planeId buffer =
      [⟨planeId, .crtcId, d.mCrtc⟩, ⟨planeId, .fbId, buffer.mDrmFramebuffer⟩]
        ++ (planeRect (d.mConfigs (u32 d.mActiveConfigId)) buffer.mDisplayFrame
          buffer.mSourceCrop).items planeId buffer.mSourceCrop
        ++ zposItem plane planeId (u64 buffer.mZpos) := rfl

/-- A flush that succeeds has appended its items to the request. -/
theorem flushPlane_items {d : DrmDisplay} {planeId : ℕ} {request : Option Request} {env : SetEnv}
    {items : DrmPlane → Request} {maxZpos : ℤ}
    (h : (d.flushPlane planeId request env items maxZpos).error = .None) :
    ∃ before plane, (d.flushPlane planeId request env items maxZpos).request =
      some (before ++ items plane) := by
  unfold DrmDisplay.flushPlane at h ⊢
  split at h
  · cases h
  next plane hplane =>
    split at h
    · cases h
    next r hr =>
      exact ⟨r, plane, by split <;> rfl⟩

/-- The rectangle of an overlay lies inside the mode, with even sizes, and a flush that succeeds shows the
    overlay there. -/
theorem flushOverlay_fits (d : DrmDisplay) (planeId : ℕ) (request : Option Request)
    (buffer : DrmBuffer) (env : SetEnv) (hc : (d.mConfigs (u32 d.mActiveConfigId)).Sized)
    (hf : buffer.mDisplayFrame.OnUi (d.mConfigs (u32 d.mActiveConfigId))) :
    let r := planeRect (d.mConfigs (u32 d.mActiveConfigId)) buffer.mDisplayFrame buffer.mSourceCrop
    r.Fits (d.mConfigs (u32 d.mActiveConfigId)) ∧
      ((d.flushOverlay planeId request buffer env).error = .None →
        ∃ before after, (d.flushOverlay planeId request buffer env).request =
          some (before ++ r.items planeId buffer.mSourceCrop ++ after)) := by
  refine ⟨planeRect_fits _ hc hf, fun hok => ?_⟩
  obtain ⟨before, plane, hreq⟩ := flushPlane_items hok
  refine ⟨before ++ [⟨planeId, .crtcId, d.mCrtc⟩, ⟨planeId, .fbId, buffer.mDrmFramebuffer⟩],
    zposItem plane planeId (u64 buffer.mZpos), ?_⟩
  rw [DrmDisplay.flushOverlay, hreq, overlayItems_eq]
  simp only [List.append_assoc]

/-- A display of one plane, whose UI of 1280 × 720 is shown on a mode of 1920 × 1080. -/
def scaledDisplay : DrmDisplay where
  mPlanes := AList.singleton 7 ⟨.overlay, [], none⟩
  mCrtc := 1
  crtc_pos := by decide
  mConnector := 2
  hdrMetadataValid := false
  defaultModeBlobId := 0
  mConfigs := fun _ => ⟨1280, 720, 60, 0, 1920, 1080⟩
  mActiveConfigId := 0
  mActiveConfig := ⟨1280, 720, 60, 0, 1920, 1080⟩
  mUiScaleType := .hardware
  mHdrMetadataBlobId := 0
  mState := fun _ => .none
  mOverlayMaxZpos := 0
  mModeSet := false
  mCommitRetryCnt := 0

def oddBuffer : DrmBuffer := ⟨⟨3, 1, 1280, 720⟩, ⟨0, 0, 1277, 719⟩, 1, 5⟩

/-- A frame with odd coordinates on it. -/
theorem flushOverlay_fits_scaled :
    let r := planeRect ⟨1280, 720, 60, 0, 1920, 1080⟩ oddBuffer.mDisplayFrame oddBuffer.mSourceCrop
    r.Fits ⟨1280, 720, 60, 0, 1920, 1080⟩ ∧
      ∃ before after, (scaledDisplay.flushOverlay 7 none oddBuffer ⟨true, true⟩).request =
        some (before ++ r.items 7 oddBuffer.mSourceCrop ++ after) :=
  have h := flushOverlay_fits scaledDisplay 7 none oddBuffer ⟨true, true⟩
    ⟨⟨by decide, by decide, by decide, by decide⟩, ⟨by decide, by decide, by decide, by decide⟩⟩
    ⟨by decide, by decide, by decide, by decide, by decide, by decide⟩
  ⟨h.1, h.2 rfl⟩

end ImxHal.Hwc3
