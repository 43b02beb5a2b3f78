import ImxHal.Schemes.Run
import ImxHal.Hwc3.DeviceComposer

/-! @src display/hwcomposer3/DeviceComposer.cpp (composeLayerLocked), display/hwcomposer3/Layer.h,
    display/hwcomposer3/Layer.cpp | name:Visible region of a layer | scheme:run | family:aliasing

    The loop of `composeLayerLocked` holds the stored rectangles by reference and intersects them in
    place, so a frame of the past stays in the region:

        setVisibleRegion        r
        compose in frame F      clip r ∩ F         stored: r ∩ F
        compose in frame G      clip r ∩ F ∩ G     stored: r ∩ F ∩ G      (expected clip: r ∩ G) -/

namespace ImxHal.Hwc3.G2d
open ImxHal.Run

/-- A rectangle as `setVisibleRegion` gave it, with the display frames of the compositions that have
    come to it since. -/
structure Given where
  rect : Rect
  frames : List Rect
  deriving DecidableEq

/-- A layer, what its visible region was set to, and the clips of the last call. -/
structure Shown where
  layer : Layer
  given : List Given
  clips : List Rect

inductive Setting where
  | setVisibleRegion (visible : List (Option Rect))
  | setDisplayFrame (frame : Rect)
  | setOthers (l : Layer)
  | compose (hnd : Bool) (target : HandleInfo) (alloc solid : Option HandleInfo)

/-- The frame is noted with the rectangles that the loop comes to; without a source it ends at the first
    one to draw. -/
def note (drect : Rect) (source : Bool) : List Rect → List Given → List Given
  | clip :: visible, g :: given =>
    { g with frames := drect :: g.frames } ::
      (if source || isRectEmpty (rectIntersect drect clip) then note drect source visible given
      else given)
  | _, given => given

def setting (s : Shown) : Setting → Shown
  | .setVisibleRegion visible =>
    ⟨s.layer.setVisibleRegion visible, (visible.filterMap id).map fun r => ⟨r, []⟩, []⟩
  | .setDisplayFrame frame => { s with layer := s.layer.setDisplayFrame frame, clips := [] }
  | .setOthers l => { s with
      layer := { l with
        mDisplayFrame := s.layer.mDisplayFrame
        mVisibleRegion := s.layer.mVisibleRegion }
      clips := [] }
  | .compose hnd target alloc solid =>
    let d := composeLayerLocked s.layer hnd target alloc solid
    let source := s.layer.hasSource hnd (s.layer.solidBuffer target alloc solid)
    { layer := d.layer
      clips := d.clips
      given := if s.layer.passes then
          note s.layer.mDisplayFrame source s.layer.mVisibleRegion s.given
        else s.given }

/-- The layer is drawn in this call. -/
def Shown.draws (s : Shown) : Setting → Bool
  | .compose hnd target alloc solid =>
    s.layer.passes && s.layer.hasSource hnd (s.layer.solidBuffer target alloc solid)
  | _ => false

/-- The clips of a drawn layer are the rectangles of the last `setVisibleRegion`, each in the display
    frame of this call. -/
def ClipsOwnFrame (s : Shown) (a : Setting) (t : Shown) : Prop :=
  s.draws a = true →
    t.clips = s.given.filterMap fun g => clipOf s.layer.mDisplayFrame g.rect

/-- What the layer shows of a rectangle in this frame lies in every display frame that has come to the
    rectangle since the region was set. -/
def ShowsNoMore (s : Shown) (a : Setting) : Prop :=
  s.draws a = true → ∀ g ∈ s.given, ∀ f ∈ g.frames, ∀ x y,
    g.rect.Covers x y → s.layer.mDisplayFrame.Covers x y → f.Covers x y

/-! ### Rectangles cut by frames -/

/-- A stored rectangle has the pixels that all frames so far have left of the given one. -/
def Cut (r : Rect) (g : Given) : Prop :=
  ∀ x y, r.Covers x y ↔ g.rect.Covers x y ∧ ∀ f ∈ g.frames, f.Covers x y

theorem cut_rectIntersect {r : Rect} {g : Given} (f : Rect) (h : Cut r g) :
    Cut (rectIntersect f r) { g with frames := f :: g.frames } := by
  intro x y
  rw [covers_rectIntersect, h x y, List.forall_mem_cons]
  constructor
  · rintro ⟨⟨hg, hfs⟩, hf⟩
    exact ⟨hg, hf, hfs⟩
  · rintro ⟨hg, hf, hfs⟩
    exact ⟨⟨hg, hfs⟩, hf⟩

/-- An empty rectangle is not touched, and no frame can bring its pixels back. -/
theorem cut_empty {r : Rect} {g : Given} (f : Rect) (h : Cut r g) (he : isRectEmpty r = true) :
    Cut r { g with frames := f :: g.frames } := by
  have hno := (isRectEmpty_iff r).mp he
  intro x y
  refine iff_of_false (hno x y) fun hc => hno x y ((h x y).mpr ⟨hc.1, fun f' hf' => ?_⟩)
  exact hc.2 f' (List.mem_cons_of_mem f hf')

/-- Where the frame shows no more than before, a cut rectangle gives the clip of the given one. -/
theorem clipOf_cut {r : Rect} {g : Given} {f : Rect} (h : Cut r g)
    (hno : ∀ f' ∈ g.frames, ∀ x y, g.rect.Covers x y → f.Covers x y → f'.Covers x y) :
    clipOf f r = clipOf f g.rect := by
  have hsame : ∀ x y, (rectIntersect f r).Covers x y ↔ (rectIntersect f g.rect).Covers x y := by
    intro x y
    rw [covers_rectIntersect, covers_rectIntersect, h x y]
    constructor
    · rintro ⟨⟨hg, -⟩, hf⟩
      exact ⟨hg, hf⟩
    · rintro ⟨hg, hf⟩
      exact ⟨⟨hg, fun f' hf' => hno f' hf' x y hg hf⟩, hf⟩
  by_cases he : isRectEmpty (rectIntersect f r) = true
  · have he' : isRectEmpty (rectIntersect f g.rect) = true := by
      rw [isRectEmpty_iff] at he ⊢
      exact fun x y hc => he x y ((hsame x y).mpr hc)
    simp [clipOf, he, he']
  · have hne : isRectEmpty (rectIntersect f r) = false := by simpa using he
    have hne' : isRectEmpty (rectIntersect f g.rect) = false := by
      rw [not_isRectEmpty_iff] at hne ⊢
      obtain ⟨x, y, hc⟩ := hne
      exact ⟨x, y, (hsame x y).mp hc⟩
    rw [clipOf, clipOf, hne, hne', rect_ext_of_covers hne hne' hsame]

/-- A cut rectangle that gives the clip of the given one has lost nothing that the frame shows. -/
theorem shows_of_clipOf {r : Rect} {g : Given} {f : Rect} (h : Cut r g)
    (heq : clipOf f r = clipOf f g.rect) (f' : Rect) (hf' : f' ∈ g.frames) (x y : ℤ)
    (hg : g.rect.Covers x y) (hf : f.Covers x y) : f'.Covers x y := by
  have hc : (rectIntersect f r).Covers x y := by
    rcases hclip : clipOf f g.rect with _ | c
    · exact absurd hf ((clipOf_none_iff f g.rect).mp hclip x y hg)
    · obtain ⟨rfl, -⟩ := clipOf_some hclip
      obtain ⟨hsame, -⟩ := clipOf_some (heq.trans hclip)
      rw [← hsame, covers_rectIntersect]
      exact ⟨hg, hf⟩
  exact ((h x y).mp ((covers_rectIntersect f r x y).mp hc).1).2 f' hf'

/-- A cut rectangle has no clip where the given one has none. -/
theorem clipOf_cut_some {r : Rect} {g : Given} {f c : Rect} (h : Cut r g) (hc : clipOf f r = some c) :
    ∃ c', clipOf f g.rect = some c' := by
  rcases hg : clipOf f g.rect with _ | c'
  · have hno := (clipOf_none_iff f g.rect).mp hg
    have hr : clipOf f r = none := (clipOf_none_iff f r).mpr fun x y hrc => hno x y ((h x y).mp hrc).1
    rw [hr] at hc
    cases hc
  · exact ⟨c', rfl⟩

/-! ### The loop over the visible rectangles -/

/-- One pass of the loop cuts every rectangle it comes to by the display frame. -/
theorem clipLoop_cut (drect : Rect) (source : Bool) {visible : List Rect} {given : List Given}
    (h : List.Forall₂ Cut visible given) :
    List.Forall₂ Cut (clipLoop drect source visible).2.2 (note drect source visible given) := by
  induction h with
  | nil => exact .nil
  | @cons clip g visible given hcut _ ih =>
    rw [clipLoop, note]
    by_cases he : isRectEmpty clip = true
    · rw [if_pos he, isRectEmpty_rectIntersect drect he, Bool.or_true, if_pos rfl]
      exact .cons (cut_empty drect hcut he) ih
    · rw [if_neg he]
      by_cases hi : isRectEmpty (rectIntersect drect clip) = true
      · rw [if_pos hi, hi, Bool.or_true, if_pos rfl]
        exact .cons (cut_rectIntersect drect hcut) ih
      · rw [if_neg hi]
        cases source with
        | true => exact .cons (cut_rectIntersect drect hcut) ih
        | false =>
          rw [Bool.false_or, if_neg hi]
          exact .cons (cut_rectIntersect drect hcut) ‹_›

/-- Frames that show no more than before give the clips of the given rectangles. -/
theorem clips_of_cut {visible : List Rect} {given : List Given} (h : List.Forall₂ Cut visible given)
    (drect : Rect) (hno : ∀ g ∈ given, ∀ f ∈ g.frames, ∀ x y,
      g.rect.Covers x y → drect.Covers x y → f.Covers x y) :
    visible.filterMap (clipOf drect) = given.filterMap fun g => clipOf drect g.rect := by
  induction h with
  | nil => rfl
  | @cons r g visible given hcut _ ih =>
    have hhead := clipOf_cut hcut (hno g List.mem_cons_self)
    have htail := ih fun g' hg' => hno g' (List.mem_cons_of_mem g hg')
    rw [List.filterMap_cons, List.filterMap_cons, hhead, htail]

theorem clips_length_le {visible : List Rect} {given : List Given} (h : List.Forall₂ Cut visible given)
    (drect : Rect) : (visible.filterMap (clipOf drect)).length
      ≤ (given.filterMap fun g => clipOf drect g.rect).length := by
  induction h with
  | nil => exact le_refl _
  | @cons r g visible given hcut _ ih =>
    rw [List.filterMap_cons, List.filterMap_cons]
    rcases hr : clipOf drect r with _ | c
    · rcases clipOf drect g.rect with _ | c'
      · exact ih
      · exact Nat.le_succ_of_le ih
    · obtain ⟨c', hg⟩ := clipOf_cut_some hcut hr
      rw [hg]
      exact Nat.succ_le_succ ih

/-- The same clips: no rectangle has lost anything that the frame shows. -/
theorem shows_of_clips {visible : List Rect} {given : List Given} (h : List.Forall₂ Cut visible given)
    (drect : Rect)
    (heq : visible.filterMap (clipOf drect) = given.filterMap fun g => clipOf drect g.rect) :
    ∀ g ∈ given, ∀ f ∈ g.frames, ∀ x y, g.rect.Covers x y → drect.Covers x y → f.Covers x y := by
  induction h with
  | nil => exact fun g hg => by cases hg
  | @cons r g visible given hcut hrest ih =>
    have hlen := clips_length_le hrest drect
    rw [List.filterMap_cons, List.filterMap_cons] at heq
    have hboth : clipOf drect r = clipOf drect g.rect ∧ visible.filterMap (clipOf drect)
        = given.filterMap fun g => clipOf drect g.rect := by
      rcases hr : clipOf drect r with _ | c <;> rcases hg : clipOf drect g.rect with _ | c'
      · rw [hr, hg] at heq
        exact ⟨rfl, heq⟩
      · rw [hr, hg] at heq
        have := congrArg List.length heq
        simp only [List.length_cons] at this
        omega
      · obtain ⟨c', hsome⟩ := clipOf_cut_some hcut hr
        rw [hg] at hsome
        cases hsome
      · rw [hr, hg] at heq
        obtain ⟨hc, htail⟩ := List.cons.inj heq
        exact ⟨congrArg some hc, htail⟩
    intro g' hg'
    rcases List.mem_cons.mp hg' with rfl | hg'
    · exact fun f hf x y => shows_of_clipOf hcut hboth.1 f hf x y
    · exact ih hboth.2 g' hg'

/-! ### Runs -/

/-- The stored rectangles are the given ones, cut by the frames that came to them. -/
def AllCut (s : Shown) : Prop := List.Forall₂ Cut s.layer.mVisibleRegion s.given

theorem allCut_fresh (visible : List Rect) :
    List.Forall₂ Cut visible (visible.map fun r => ⟨r, []⟩) := by
  induction visible with
  | nil => exact .nil
  | cons r visible ih => exact .cons (fun x y => by simp) ih

theorem setting_allCut (s : Shown) (a : Setting) (h : AllCut s) : AllCut (setting s a) := by
  cases a with
  | setVisibleRegion visible => exact allCut_fresh _
  | setDisplayFrame frame => exact h
  | setOthers l => exact h
  | compose hnd target alloc solid =>
    simp only [AllCut, setting]
    by_cases hp : s.layer.passes = true
    · rw [composeLayerLocked_passes hp, if_pos hp]
      exact clipLoop_cut _ _ h
    · rw [composeLayerLocked, if_neg hp, if_neg hp]
      exact h

/-- The clips of a drawn layer. -/
theorem setting_clips {s : Shown} {a : Setting} (hd : s.draws a = true) :
    (setting s a).clips = s.layer.mVisibleRegion.filterMap (clipOf s.layer.mDisplayFrame) := by
  cases a with
  | compose hnd target alloc solid =>
    simp only [Shown.draws, Bool.and_eq_true] at hd
    simp only [setting]
    rw [composeLayerLocked_passes hd.1, hd.2]
    exact (clipLoop_drawn _ _).2
  | _ => cases hd

theorem setting_ownFrame (s : Shown) (a : Setting) (h : AllCut s) (hno : ShowsNoMore s a) :
    AllCut (setting s a) ∧ ClipsOwnFrame s a (setting s a) := by
  refine ⟨setting_allCut s a h, fun hd => ?_⟩
  rw [setting_clips hd]
  exact clips_of_cut h _ (hno hd)

theorem noMore_of_ownFrame (s : Shown) (a : Setting) (h : AllCut s)
    (hown : ClipsOwnFrame s a (setting s a)) : ShowsNoMore s a := by
  intro hd
  have heq := hown hd
  rw [setting_clips hd] at heq
  exact shows_of_clips h _ heq

/-- A layer before its visible region is set. -/
def Shown.new (l : Layer) : Shown := ⟨{ l with mVisibleRegion := [] }, [], []⟩

/-- CORRECT: over every sequence of calls the clips of a drawn layer depend on the last visible region
    and the display frame of the call only, exactly if no drawn frame shows more of a rectangle than
    every display frame that has come to it since the region was set. -/
theorem clips_own_frame_iff (l : Layer) (as : List Setting) :
    Always setting ClipsOwnFrame (Shown.new l) as ↔ Meets setting ShowsNoMore (Shown.new l) as :=
  always_iff_meets (fun s a (hs : AllCut s) hno => setting_ownFrame s a hs hno)
    (fun s a hs hown => noMore_of_ownFrame s a hs hown) as _ .nil

/-- A layer grows from 50 to 100 pixels, as its visible region always was, and is drawn with 50. -/
theorem grown_layer_stays_clipped :
    let l : Layer := ⟨1, none, .DEVICE, .NONE, false, 255, ⟨0, 0, 100, 100⟩, ⟨0, 0, 50, 50⟩, []⟩
    let target : HandleInfo := ⟨100, 100, RGBA_8888, 0, 7⟩
    let s := run setting (Shown.new l) [.setVisibleRegion [some ⟨0, 0, 100, 100⟩],
      .compose true target none none, .setDisplayFrame ⟨0, 0, 100, 100⟩,
      .compose true target none none]
    s.clips = [⟨0, 0, 50, 50⟩] ∧ s.given.map Given.rect = [⟨0, 0, 100, 100⟩] ∧
      s.layer.mDisplayFrame = ⟨0, 0, 100, 100⟩ := by
  decide

end ImxHal.Hwc3.G2d
