import ImxHal.Hwc3.LayerPartition

/-! @src display/hwcomposer3/ClientFrameComposer.cpp (validateDisplay), display/hwcomposer3/Common.cpp
    (mergeRect, checkRectOverlap) | name:Overlay order | scheme:run | family:layer placement

    Overlay planes lie below the primary plane, which shows the composed layers. A layer on an
    overlay plane that covers a composed layer of lower z would then be hidden by it:

        z      layers            screen
        2      hi (overlay)      lo ◀── composed, on the primary plane
        1      lo (composed)     hi ◀── overlay plane

    The mask of the main loop keeps the two apart, so the screen shows every pixel in z-order. -/

namespace ImxHal.Hwc3.Frame
open ImxHal.Run ImxHal.Ledger

/-- The layers that reach the pixel, in z-order. -/
def stackAt (layers : List LayerRef) (x y : ℤ) : List LayerRef :=
  layers.filter fun r => eligible r && decide (r.layer.mDisplayFrame.Covers x y)

/-- The same layers as the screen stacks them: the overlay planes, and over them what is composed
    onto the primary plane. -/
def screenAt (layers : List LayerRef) (v : ValidatedLayers) (x y : ℤ) : List LayerRef :=
  (stackAt layers x y).filter (fun r => decide (r.ptr ∈ v.overlayPtrs))
    ++ (stackAt layers x y).filter (fun r => !decide (r.ptr ∈ v.overlayPtrs))

/-- The layer is sent to composition, by the 2D device or by the client. -/
def InComposition (out : ValidateOut) (r : LayerRef) : Prop :=
  r.ptr ∈ out.layers.layersForComposition ∨ InClient out.changes r

/-- A list in which nothing after a `¬ p` element satisfies `p` is its `p` part and then the rest. -/
theorem parts_of_pairwise {α : Type} (p : α → Bool) {l : List α}
    (h : l.Pairwise fun a b => p b = true → p a = true) :
    l.filter p ++ l.filter (fun a => !p a) = l := by
  induction l with
  | nil => rfl
  | cons a l ih =>
    obtain ⟨ha, hl⟩ := List.pairwise_cons.mp h
    have ih := ih hl
    cases hp : p a with
    | true => simp [hp, ih]
    | false =>
      have hnone : l.filter p = [] := by
        rw [List.filter_eq_nil_iff]
        intro b hb hpb
        have := ha b hb hpb
        rw [hp] at this
        cases this
      rw [hnone, List.nil_append] at ih
      simp [hp, hnone, ih]

namespace Outcome

variable {layers : List LayerRef} {out : ValidateOut} {ov co : List LayerRef} {client : Bool}
  {r : LayerRef}

theorem mem_overlay (h : Outcome layers out ov co client)
    (hids : (layers.map fun r => r.ptr.layerId).Nodup) (hr : r ∈ layers)
    (hp : r.ptr ∈ out.layers.overlayPtrs) : r ∈ ov := by
  rw [h.overlay] at hp
  obtain ⟨r', hr', he⟩ := List.mem_map.mp hp
  have hsame := eq_of_id hids (h.mem_layers (List.mem_append_left co hr')) hr
    (congrArg LayerPtr.layerId he)
  rwa [← hsame]

theorem eligible_of_inComposition (h : Outcome layers out ov co client)
    (hids : (layers.map fun r => r.ptr.layerId).Nodup) (hr : r ∈ layers)
    (hc : InComposition out r) : r ∈ ov ++ co := by
  rcases hc with hp | hm | ⟨ht, -⟩
  · rw [h.composition] at hp
    cases client with
    | true => cases hp
    | false =>
      obtain ⟨r', hr', he⟩ := List.mem_map.mp hp
      have hmem := List.mem_append_right ov hr'
      rwa [← eq_of_id hids (h.mem_layers hmem) hr (congrArg LayerPtr.layerId he)]
  · obtain ⟨r', hr', he⟩ := h.changed_mem hm
    rwa [← eq_of_id hids (h.mem_layers hr') hr he]
  · refine h.mem_shared hr ?_
    rw [eligible, ht]
    decide

/-- What is sent to composition is not on an overlay plane. -/
theorem mem_composed (h : Outcome layers out ov co client)
    (hids : (layers.map fun r => r.ptr.layerId).Nodup) (hr : r ∈ layers)
    (hc : InComposition out r) : r ∈ co := by
  rcases List.mem_append.mp (h.eligible_of_inComposition hids hr hc) with hov | hco
  · rcases hc with hp | hm
    · exact absurd hp (h.not_composed hids hov)
    · exact absurd hm (h.overlay_not_client hids hov)
  · exact hco

/-- Once a composed layer covers the pixel, no layer above it that does is on an overlay plane. -/
theorem screen_eq_stack (h : Outcome layers out ov co client)
    (hids : (layers.map fun r => r.ptr.layerId).Nodup) (hord : layers.Pairwise Below) (x y : ℤ) :
    screenAt layers out.layers x y = stackAt layers x y := by
  refine parts_of_pairwise (fun r : LayerRef => decide (r.ptr ∈ out.layers.overlayPtrs)) ?_
  have hstack : (stackAt layers x y).Pairwise Below := hord.sublist List.filter_sublist
  refine List.Pairwise.imp_of_mem ?_ hstack
  intro lo hi hlo hhi hb hov
  rw [decide_eq_true_eq] at hov ⊢
  obtain ⟨hmlo, hclo⟩ := List.mem_filter.mp hlo
  obtain ⟨hmhi, hchi⟩ := List.mem_filter.mp hhi
  obtain ⟨helo, hclo⟩ := Bool.and_eq_true_iff.mp hclo
  obtain ⟨-, hchi⟩ := Bool.and_eq_true_iff.mp hchi
  rcases List.mem_append.mp (h.mem_shared hmlo helo) with hlo' | hlo'
  · rw [h.overlay]
    exact List.mem_map_of_mem hlo'
  · -- a shared pixel is an overlap, which the mask has ruled out
    have hclear := h.below hi (h.mem_overlay hids hmhi hov) lo hlo' hb
    rw [overlap_of_covers (of_decide_eq_true hclo) (of_decide_eq_true hchi)] at hclear
    cases hclear

end Outcome

section Validate

variable {s : Sys} {hwcId : ℤ} {d : Display} {dev : Option Device}

/-- CORRECT: when a validate starts from empty lists, a layer on an overlay plane overlaps no layer
    below it that is sent to composition, and every pixel of the screen stacks its layers in
    z-order. -/
theorem overlay_follows_z_order (hd : s.mDisplays.lookup hwcId = some d)
    (hov : (s.layersOf d.displayId).overlayPtrs = [])
    (hco : (s.layersOf d.displayId).layersForComposition = [])
    (hok : (validateDisplay s hwcId d dev).error = .None) :
    (∀ hi ∈ d.getOrderedLayers hwcId, ∀ lo ∈ d.getOrderedLayers hwcId, Below lo hi →
      hi.ptr ∈ (validateDisplay s hwcId d dev).layers.overlayPtrs →
      InComposition (validateDisplay s hwcId d dev) lo →
      checkRectOverlap lo.layer.mDisplayFrame hi.layer.mDisplayFrame = false) ∧
    ∀ x y, screenAt (d.getOrderedLayers hwcId) (validateDisplay s hwcId d dev).layers x y
      = stackAt (d.getOrderedLayers hwcId) x y := by
  obtain ⟨ov, co, client, h⟩ := validateDisplay_outcome hd (overlay_empty hov) hco hok
  have hids := getOrderedLayers_ids_nodup d hwcId
  constructor
  · intro hi hhi lo hlo hb hp hc
    exact h.below hi (h.mem_overlay hids hhi hp) lo (h.mem_composed hids hlo hc) hb
  · intro x y
    exact h.screen_eq_stack hids (getOrderedLayers_below d hwcId) x y

end Validate

/-! ### A video layer over a solid colour -/

/-- One overlay plane for linear `NV12` buffers. -/
def videoPlanes : PlaneMap :=
  ⟨[⟨31, ⟨.primary, [], none⟩⟩, ⟨32, ⟨.overlay, [(DRM_FORMAT_NV12, [0])], none⟩⟩],
    by simp [List.NodupKeys]⟩

def videoDevice : Device :=
  { plainDevice with client := ⟨videoPlanes, false, ⟨1920, 1080, 60, 0, 1920, 1080⟩⟩ }

/-- A solid colour layer, and next to it and above it a video layer. -/
def videoFrame : Sys :=
  run step Sys.init
    [.createDisplay 0 1 (some (1920, 1080)) true .None, .createLayer 0 0, .createLayer 0 0,
      .setLayer 0 1 (.setCompositionType .SOLID_COLOR),
      .setLayer 0 1 (.setDisplayFrame ⟨0, 0, 640, 1080⟩),
      .setLayer 0 2 (.setCompositionType .DEVICE), .setLayer 0 2 (.setZOrder 1),
      .setLayer 0 2 (.setBuffer (some ⟨some ⟨640, 480, 35, DRM_FORMAT_NV12, 0, 0⟩⟩)),
      .setLayer 0 2 (.setDisplayFrame ⟨640, 0, 1920, 1080⟩),
      .setLayer 0 2 (.setSourceCrop ⟨0, 0, 640, 480⟩)]

theorem video_follows_z_order :
    ∃ d, videoFrame.mDisplays.lookup 0 = some d ∧
      (validateDisplay videoFrame 0 d (some videoDevice)).layers.overlayPtrs = [⟨0, 2, 1⟩] ∧
      (validateDisplay videoFrame 0 d (some videoDevice)).layers.layersForComposition
        = [⟨0, 1, 0⟩] ∧
      ∀ x y, screenAt (d.getOrderedLayers 0)
          (validateDisplay videoFrame 0 d (some videoDevice)).layers x y
        = stackAt (d.getOrderedLayers 0) x y := by
  refine ⟨_, rfl, by decide +kernel, by decide +kernel, ?_⟩
  exact (overlay_follows_z_order rfl (by decide +kernel) (by decide +kernel) (by decide +kernel)).2

end ImxHal.Hwc3.Frame
