import ImxHal.Hwc3.DeviceComposer
import ImxHal.Hwc3.PreComposition

/-! @src display/hwcomposer3/DeviceComposer.cpp (clearWormHole, composeLayerLocked, composeLayers) |
    name:Worm holes | scheme:coverage | family:graphics

    `clearWormHole` leaves out the visible regions of the layers it takes for opaque, `composeLayers`
    then draws the layers, each for its own reasons or not at all:

        target     ┌──────────────────────────┐
        left out   │   ┌── opaque layers ──┐  │      blend NONE, PREMULTIPLIED at the bottom, …
        drawn      │   │   ┌───────┐       │  │      not SIDEBAND, crop, frame, alpha, buffer, …
        stale      │   │░░░│       │░░░░░░░│  │
                   └──────────────────────────┘

    No pixel is stale exactly if the drawn layers cover what was left out. -/

namespace ImxHal.Hwc3.G2d

/-- After a success every pixel of the target was cleared or overwritten in this call. -/
def NoStale (target : Option HandleInfo) (r : Result) : Prop :=
  r.success = true → ∀ info, target = some info → ∀ x y, (whole info.width info.height).Covers x y →
    r.cleared x y = true ∨ ∃ clip ∈ r.drawn, clip.Covers x y

/-- A visible rectangle of the layer covers the pixel. -/
def Layer.Sees (l : Layer) (x y : ℤ) : Prop := ∃ r ∈ l.mVisibleRegion, r.Covers x y

/-- The layer gets to the loop over its visible rectangles. -/
def Layer.draws (l : Layer) : Bool := l.mCompositionType ≠ .SIDEBAND && l.passes

/-- The layer has something to draw but no buffer to draw it from. -/
def Layer.fails (l : Layer) (target : HandleInfo) (alloc solid : Option HandleInfo) : Bool :=
  l.draws && !l.hasSource l.mBuffer.isSome (l.solidBuffer target alloc solid)
    && l.mVisibleRegion.any fun r => (clipOf l.mDisplayFrame r).isSome

/-- The layers before the first one that fails. -/
def reached (target : HandleInfo) : Option HandleInfo → List (Layer × Env) → List Layer
  | _, [] => []
  | solid, (l, env) :: rest =>
    if l.fails target env.alloc solid then []
    else l :: reached target (if l.draws then l.solidBuffer target env.alloc solid else solid) rest

/-- A layer taken for opaque sees the pixel. -/
def TakenOpaque (layers : List Layer) (x y : ℤ) : Prop :=
  ∃ i l, layers[i]? = some l ∧ countsOpaque i l = true ∧ l.Sees x y

/-- Every pixel of the target that a layer taken for opaque sees is seen, and lies in the display frame,
    of a layer that is drawn. -/
def OpaqueDrawn (c : Composer) (layers : List (Layer × Env)) (target : Option HandleInfo) : Prop :=
  ∀ info, target = some info → ∀ x y, (whole info.width info.height).Covers x y →
    TakenOpaque (layers.map Prod.fst) x y →
      ∃ l ∈ reached info c.mSolidColorBuffer layers, l.draws = true ∧ l.mDisplayFrame.Covers x y ∧
        l.Sees x y

/-! ### What is cleared -/

theorem foldl_orSelf (rects : List Rect) (region : Region) (x y : ℤ) :
    rects.foldl Region.orSelf region x y = true ↔ region x y = true ∨ ∃ r ∈ rects, r.Covers x y := by
  induction rects generalizing region with
  | nil => simp
  | cons r rects ih =>
    rw [List.foldl_cons, ih]
    simp only [Region.orSelf, Bool.or_eq_true, decide_eq_true_eq, List.mem_cons, exists_eq_or_imp,
      or_assoc]

theorem opaqueRegion_iff (layers : List Layer) (i : ℕ) (region : Region) (x y : ℤ) :
    opaqueRegion i layers region x y = true ↔ region x y = true ∨
      ∃ j l, layers[j]? = some l ∧ countsOpaque (i + j) l = true ∧ l.Sees x y := by
  induction layers generalizing i region with
  | nil => simp [opaqueRegion]
  | cons l layers ih =>
    rw [opaqueRegion, ih]
    have hhead : (if countsOpaque i l then l.mVisibleRegion.foldl Region.orSelf region else region) x y
        = true ↔ region x y = true ∨ (countsOpaque i l = true ∧ l.Sees x y) := by
      by_cases h : countsOpaque i l = true
      · rw [if_pos h, foldl_orSelf]
        simp [h, Layer.Sees]
      · rw [if_neg h]
        simp [h]
    rw [hhead, or_assoc]
    refine or_congr_right ⟨?_, ?_⟩
    · rintro (⟨hc, hs⟩ | ⟨j, l', hl', hc, hs⟩)
      · exact ⟨0, l, rfl, hc, hs⟩
      · exact ⟨j + 1, l', hl', by rwa [← Nat.add_assoc, Nat.add_right_comm], hs⟩
    · rintro ⟨j, l', hl', hc, hs⟩
      cases j with
      | zero =>
        obtain rfl := Option.some.inj hl'
        exact Or.inl ⟨hc, hs⟩
      | succ j => exact Or.inr ⟨j, l', hl', by rwa [Nat.add_right_comm, Nat.add_assoc], hs⟩

theorem clearWormHole_iff (layers : List Layer) (target : HandleInfo) (x y : ℤ) :
    clearWormHole layers target x y = true ↔
      (whole target.width target.height).Covers x y ∧ ¬ TakenOpaque layers x y := by
  have h := opaqueRegion_iff layers 0 (fun _ _ => false) x y
  simp only [Bool.false_eq_true, false_or, Nat.zero_add] at h
  rw [clearWormHole, Region.subtractSelf, Bool.and_eq_true, decide_eq_true_eq, Bool.not_eq_true',
    ← Bool.not_eq_true, h]
  rfl

/-! ### What is drawn -/

theorem covers_clips (drect : Rect) (visible : List Rect) (x y : ℤ) :
    (∃ clip ∈ visible.filterMap (clipOf drect), clip.Covers x y) ↔
      drect.Covers x y ∧ ∃ r ∈ visible, r.Covers x y := by
  simp only [List.mem_filterMap]
  constructor
  · rintro ⟨clip, ⟨r, hr, hclip⟩, hc⟩
    obtain ⟨rfl, -⟩ := clipOf_some hclip
    rw [covers_rectIntersect] at hc
    exact ⟨hc.2, r, hr, hc.1⟩
  · rintro ⟨hd, r, hr, hc⟩
    rcases hclip : clipOf drect r with _ | clip
    · exact absurd hd ((clipOf_none_iff drect r).mp hclip x y hc)
    · obtain ⟨rfl, -⟩ := clipOf_some hclip
      exact ⟨_, ⟨r, hr, hclip⟩, (covers_rectIntersect drect r x y).mpr ⟨hc, hd⟩⟩

/-- What drawing a layer that passes its checks does: it fails and draws nothing, or draws what it sees
    of its display frame. -/
theorem composeLayerLocked_draws {l : Layer} (hs : l.mCompositionType ≠ .SIDEBAND) (target : HandleInfo)
    (alloc solid : Option HandleInfo) (x y : ℤ) :
    let d := composeLayerLocked l l.mBuffer.isSome target alloc solid
    (d.ret ≠ 0 ↔ l.fails target alloc solid = true) ∧
      ((∃ clip ∈ d.clips, clip.Covers x y) ↔ l.fails target alloc solid = false ∧ l.draws = true ∧
        l.mDisplayFrame.Covers x y ∧ l.Sees x y) ∧
      d.solid = if l.draws then l.solidBuffer target alloc solid else solid := by
  have hdraws : l.draws = l.passes := by simp [Layer.draws, hs]
  by_cases hp : l.passes = true
  swap
  · simp [composeLayerLocked, Layer.fails, hdraws, hp]
  simp only [composeLayerLocked_passes hp, Layer.fails, hdraws, hp, Bool.true_and, true_and, if_true]
  cases l.hasSource l.mBuffer.isSome (l.solidBuffer target alloc solid) with
  | true =>
    obtain ⟨hret, hclips⟩ := clipLoop_drawn l.mDisplayFrame l.mVisibleRegion
    refine ⟨by simp [hret], ?_, trivial⟩
    rw [hclips, covers_clips]
    simp [Layer.Sees]
  | false =>
    obtain ⟨hnone, hret⟩ := clipLoop_noSource l.mDisplayFrame l.mVisibleRegion
    refine ⟨?_, ?_, trivial⟩
    · rw [ne_eq, hret]
      simp [Option.isSome_iff_ne_none]
    · rw [hnone]
      refine iff_of_false (by simp) ?_
      rintro ⟨hall, hd, r, hr, hc⟩
      have hno : clipOf l.mDisplayFrame r = none := by
        have := hall
        simp only [Bool.not_false, Bool.true_and, List.any_eq_false] at this
        simpa using this r hr
      exact (clipOf_none_iff _ _).mp hno x y hc hd

/-- The precomposition leaves the solid color buffer alone, and has nothing for a layer without one. -/
theorem preComposition_solid (c : Composer) (b : Board) (env : Env) (l : Layer)
    (handle : Option Handle) :
    (c.preComposition b env l handle).2.mSolidColorBuffer = c.mSolidColorBuffer ∧
      (handle = none → (c.preComposition b env l handle).1 = none) := by
  rw [preComposition_asks]
  rcases ha : asks b l handle with _ | q
  · exact ⟨rfl, fun _ => rfl⟩
  · refine ⟨?_, fun hnone => ?_⟩
    · have hc := convert_converted b env c l q
      simp only
      generalize c.cachedFor l q = k at hc
      generalize c.convert b env l q.content q.r q.inBufInfo = r at hc
      rcases hc with ⟨e, he⟩ | ⟨e, he⟩ | hn | ⟨out, ho⟩
      · rfl
      · exact write_solid c e.hnd _
      · rfl
      · simp only [Composer.allocate, ho]
        exact write_solid (c.erase l.mId) _ _
    · subst hnone
      simp [asks] at ha

/-- The loop of `composeLayers` draws exactly what the layers it reaches see of their display frames. -/
theorem composeLoop_drawn (b : Board) (target : HandleInfo) (layers : List (Layer × Env)) (c : Composer)
    (x y : ℤ) : (∃ clip ∈ (composeLoop b target c layers).drawn, clip.Covers x y) ↔
      ∃ l ∈ reached target c.mSolidColorBuffer layers, l.draws = true ∧ l.mDisplayFrame.Covers x y ∧
        l.Sees x y := by
  induction layers generalizing c with
  | nil => simp [composeLoop, reached]
  | cons t rest ih =>
    obtain ⟨l, env⟩ := t
    by_cases hs : l.mCompositionType = .SIDEBAND
    · have hno : l.draws = false := by simp [Layer.draws, hs]
      have hfails : l.fails target env.alloc c.mSolidColorBuffer = false := by simp [Layer.fails, hno]
      simp only [composeLoop, if_pos hs, reached, hfails, hno, Bool.false_eq_true, if_false,
        List.mem_cons, exists_eq_or_imp, false_and, false_or]
      exact ih c
    · obtain ⟨hsolid, hnone⟩ := preComposition_solid c b env l l.mBuffer
      have hhnd : ((c.preComposition b env l l.mBuffer).1.isSome || l.mBuffer.isSome)
          = l.mBuffer.isSome := by
        rcases hb : l.mBuffer with _ | h
        · rw [← hb, hnone hb, hb]
          rfl
        · simp
      obtain ⟨hret, hclips, hafter⟩ :=
        composeLayerLocked_draws hs target env.alloc c.mSolidColorBuffer x y
      simp only [composeLoop, if_neg hs, hhnd, hsolid]
      by_cases hf : l.fails target env.alloc c.mSolidColorBuffer = true
      · rw [if_pos (hret.mpr hf), reached, if_pos hf]
        refine iff_of_false (fun h => ?_) (by simp)
        exact absurd (hf.symm.trans (hclips.mp h).1) (by decide)
      · rw [if_neg fun h => hf (hret.mp h), reached, if_neg hf, List.exists_mem_cons_iff]
        simp only [List.mem_append, or_and_right, exists_or]
        rw [hclips, ih, hafter]
        simp [hf]

/-- CORRECT: for every list of layers no pixel of the target is stale after a success, exactly if every
    pixel that a layer taken for opaque sees is drawn by some layer. -/
theorem no_stale_iff (b : Board) (c : Composer) (layers : List (Layer × Env))
    (target : Option HandleInfo) :
    NoStale target (composeLayers b c layers target) ↔ OpaqueDrawn c layers target := by
  rcases target with _ | target
  · exact iff_of_true (fun h => by cases h) fun info h => by cases h
  · constructor
    · rintro h info heq x y hs hopaque
      obtain rfl := Option.some.inj heq
      rcases h rfl _ rfl x y hs with hcl | hdr
      · exact absurd hopaque ((clearWormHole_iff _ _ x y).mp hcl).2
      · exact (composeLoop_drawn b target layers c x y).mp hdr
    · rintro h - info heq x y hs
      obtain rfl := Option.some.inj heq
      by_cases hopaque : TakenOpaque (layers.map Prod.fst) x y
      · exact Or.inr ((composeLoop_drawn b target layers c x y).mpr (h _ rfl x y hs hopaque))
      · exact Or.inl ((clearWormHole_iff _ _ x y).mpr ⟨hs, hopaque⟩)

/-- One layer over the whole target, without blending and with plane alpha 0: it is taken for opaque and
    skipped. -/
theorem transparent_layer_stale :
    ¬ ∀ (b : Board) (c : Composer) (layers : List (Layer × Env)) (target : Option HandleInfo),
      NoStale target (composeLayers b c layers target) := by
  intro h
  let l : Layer := ⟨1, some ⟨none, 7⟩, .DEVICE, .NONE, false, 0, ⟨0, 0, 8, 8⟩, ⟨0, 0, 8, 8⟩,
    [⟨0, 0, 8, 8⟩]⟩
  have hstale := h ⟨.none, false⟩ Composer.new [(l, ⟨none, true⟩)] (some ⟨8, 8, RGBA_8888, 0, 1⟩) rfl _
    rfl 0 0 (by decide)
  revert hstale
  decide

end ImxHal.Hwc3.G2d
