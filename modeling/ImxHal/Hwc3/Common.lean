import Mathlib.Data.List.Basic
import Mathlib.Tactic

/-! @src display/hwcomposer3/Common.h, display/hwcomposer3/Common.cpp | name:Common types

    Rectangles, display configs and error codes shared by the hardware composer modules, the two
    rectangle helpers of the overlay assignment, `checkRectOverlap` and `mergeRect`, and the two of
    the device composition, `isRectEmpty` and `rectIntersect`. A frame covers the pixels
    `left ≤ x < right`, `top ≤ y < bottom`; an inverted frame covers none. -/

namespace ImxHal.Hwc3

/-- The codes of `HWC3::Error` that the modelled functions return. -/
inductive Error where
  | None | BadConfig | BadDisplay | BadLayer | BadParameter | NoResources | NotValidated
  | Unsupported
  deriving DecidableEq

/-- `common::Rect`, coordinates of type `int`. -/
structure Rect where
  left : ℤ
  top : ℤ
  right : ℤ
  bottom : ℤ
  deriving DecidableEq

structure HalDisplayConfig where
  width : ℕ
  height : ℕ
  refreshRateHz : ℕ
  blobId : ℕ
  modeWidth : ℕ
  modeHeight : ℕ
  deriving DecidableEq

/-- Conversion of an `int` to `uint32_t`. -/
def u32 (x : ℤ) : ℕ := (x % 2 ^ 32).toNat

/-- Conversion of an `int` to `uint64_t`. -/
def u64 (x : ℤ) : ℕ := (x % 2 ^ 64).toNat

/-- `x << 16` of an `int`, kept to 32 bits. -/
def shl16 (x : ℤ) : ℤ := Int.bmod (x * 2 ^ 16) (2 ^ 32)

/-- `ALIGN_PIXEL_2` on a `uint32_t`. -/
def alignPixel2 (x : ℕ) : ℕ := (x + 1) % 2 ^ 32 / 2 * 2

def checkRectOverlap (masked src : Rect) : Bool :=
  !(masked.left ≥ src.right || masked.right ≤ src.left || masked.top ≥ src.bottom
    || masked.bottom ≤ src.top)

def mergeRect (masked src : Rect) : Rect where
  left := if masked.left ≤ src.left then masked.left else src.left
  top := if masked.top ≤ src.top then masked.top else src.top
  right := if masked.right ≥ src.right then masked.right else src.right
  bottom := if masked.bottom ≥ src.bottom then masked.bottom else src.bottom

/-- The pixel `(x, y)` lies in the frame. -/
def Rect.Covers (r : Rect) (x y : ℤ) : Prop := r.left ≤ x ∧ x < r.right ∧ r.top ≤ y ∧ y < r.bottom

instance (r : Rect) (x y : ℤ) : Decidable (r.Covers x y) := inferInstanceAs (Decidable (_ ∧ _))

/-- `r` reaches no further than `s` on any side. -/
def Rect.Inside (r s : Rect) : Prop :=
  s.left ≤ r.left ∧ s.top ≤ r.top ∧ r.right ≤ s.right ∧ r.bottom ≤ s.bottom

theorem checkRectOverlap_iff (m s : Rect) :
    checkRectOverlap m s = true ↔
      m.left < s.right ∧ s.left < m.right ∧ m.top < s.bottom ∧ s.top < m.bottom := by
  simp only [checkRectOverlap, Bool.not_eq_true', Bool.or_eq_false_iff, decide_eq_false_iff_not,
    ge_iff_le, not_le]
  constructor
  · rintro ⟨⟨⟨h₁, h₂⟩, h₃⟩, h₄⟩; exact ⟨h₁, h₂, h₃, h₄⟩
  · rintro ⟨h₁, h₂, h₃, h₄⟩; exact ⟨⟨⟨h₁, h₂⟩, h₃⟩, h₄⟩

/-- Two frames with a common pixel overlap. -/
theorem overlap_of_covers {r s : Rect} {x y : ℤ} (hr : r.Covers x y) (hs : s.Covers x y) :
    checkRectOverlap r s = true := by
  obtain ⟨h₁, h₂, h₃, h₄⟩ := hr
  obtain ⟨h₅, h₆, h₇, h₈⟩ := hs
  rw [checkRectOverlap_iff]
  refine ⟨?_, ?_, ?_, ?_⟩ <;> omega

/-- A larger mask overlaps whatever a smaller one does. -/
theorem overlap_mono {r m s : Rect} (hin : r.Inside m) (h : checkRectOverlap r s = true) :
    checkRectOverlap m s = true := by
  obtain ⟨h₁, h₂, h₃, h₄⟩ := hin
  rw [checkRectOverlap_iff] at h ⊢
  obtain ⟨h₅, h₆, h₇, h₈⟩ := h
  refine ⟨?_, ?_, ?_, ?_⟩ <;> omega

theorem inside_mergeRect_left (m s : Rect) : m.Inside (mergeRect m s) := by
  simp only [Rect.Inside, mergeRect]
  refine ⟨?_, ?_, ?_, ?_⟩ <;> split <;> omega

theorem inside_mergeRect_right (m s : Rect) : s.Inside (mergeRect m s) := by
  simp only [Rect.Inside, mergeRect]
  refine ⟨?_, ?_, ?_, ?_⟩ <;> split <;> omega

theorem Rect.Inside.trans {r s t : Rect} (h₁ : r.Inside s) (h₂ : s.Inside t) : r.Inside t := by
  obtain ⟨a, b, c, d⟩ := h₁
  obtain ⟨e, f, g, h⟩ := h₂
  refine ⟨?_, ?_, ?_, ?_⟩ <;> omega

def isRectEmpty (rect : Rect) : Bool := rect.right ≤ rect.left || rect.bottom ≤ rect.top

/-- What `rectIntersect` leaves in `result`; it returns whether that is a rectangle with pixels. -/
def rectIntersect (with' result : Rect) : Rect where
  left := max result.left with'.left
  top := max result.top with'.top
  right := min result.right with'.right
  bottom := min result.bottom with'.bottom

theorem covers_rectIntersect (f r : Rect) (x y : ℤ) :
    (rectIntersect f r).Covers x y ↔ r.Covers x y ∧ f.Covers x y := by
  simp only [Rect.Covers, rectIntersect, max_le_iff, lt_min_iff]
  constructor
  · rintro ⟨⟨h₁, h₂⟩, ⟨h₃, h₄⟩, ⟨h₅, h₆⟩, h₇, h₈⟩
    exact ⟨⟨h₁, h₃, h₅, h₇⟩, h₂, h₄, h₆, h₈⟩
  · rintro ⟨⟨h₁, h₃, h₅, h₇⟩, h₂, h₄, h₆, h₈⟩
    exact ⟨⟨h₁, h₂⟩, ⟨h₃, h₄⟩, ⟨h₅, h₆⟩, h₇, h₈⟩

theorem isRectEmpty_iff (r : Rect) : isRectEmpty r = true ↔ ∀ x y, ¬ r.Covers x y := by
  simp only [isRectEmpty, Bool.or_eq_true, decide_eq_true_eq]
  constructor
  · rintro (h | h) x y ⟨h₁, h₂, h₃, h₄⟩ <;> omega
  · intro h
    by_contra hne
    obtain ⟨h₁, h₂⟩ := not_or.mp hne
    exact h r.left r.top ⟨le_refl _, not_le.mp h₁, le_refl _, not_le.mp h₂⟩

theorem not_isRectEmpty_iff (r : Rect) : isRectEmpty r = false ↔ ∃ x y, r.Covers x y := by
  rw [← Bool.not_eq_true, isRectEmpty_iff]
  simp only [not_forall, not_not]

/-- A rectangle with pixels is given by them. -/
theorem rect_ext_of_covers {r s : Rect} (hr : isRectEmpty r = false) (hs : isRectEmpty s = false)
    (h : ∀ x y, r.Covers x y ↔ s.Covers x y) : r = s := by
  simp only [isRectEmpty, Bool.or_eq_false_iff, decide_eq_false_iff_not, not_le] at hr hs
  obtain ⟨h₁, h₂, h₃, h₄⟩ := (h r.left r.top).mp ⟨le_refl _, hr.1, le_refl _, hr.2⟩
  obtain ⟨h₅, h₆, h₇, h₈⟩ := (h s.left s.top).mpr ⟨le_refl _, hs.1, le_refl _, hs.2⟩
  obtain ⟨-, h₉, -, h₁₀⟩ := (h (r.right - 1) (r.bottom - 1)).mp ⟨by omega, by omega, by omega, by omega⟩
  obtain ⟨-, h₁₁, -, h₁₂⟩ := (h (s.right - 1) (s.bottom - 1)).mpr ⟨by omega, by omega, by omega, by omega⟩
  obtain ⟨l, t, r', b⟩ := r
  obtain ⟨l', t', r'', b'⟩ := s
  simp only at h₁ h₃ h₅ h₇ h₉ h₁₀ h₁₁ h₁₂
  rw [Rect.mk.injEq]
  exact ⟨by omega, by omega, by omega, by omega⟩

end ImxHal.Hwc3
