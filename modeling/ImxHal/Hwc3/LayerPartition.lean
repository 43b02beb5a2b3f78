import ImxHal.Hwc3.Composer

/-! @src display/hwcomposer3/ClientFrameComposer.cpp (validateDisplay, presentDisplay),
    display/hwcomposer3/Display.cpp (validate) | name:Layer partition | scheme:run |
    family:layer placement

    After a validate every layer of the frame should be in one place: on an overlay plane, in
    `layersForComposition`, or with the client. The main loop adds to the lists that are there, so
    this holds when they are empty at the start. They are not after a validate without a present, or
    after a present that returned early:

        validate ──▶ [a]      ──validate──▶ [a, a]
        validate ──▶ [a, b]   ──present fails, b destroyed, validate──▶ [a, b, a] -/

namespace ImxHal.Hwc3.Frame
open ImxHal.Run ImxHal.Ledger

def ExactlyOne (a b c : Prop) : Prop := (a ∧ ¬ b ∧ ¬ c) ∨ (¬ a ∧ b ∧ ¬ c) ∨ (¬ a ∧ ¬ b ∧ c)

/-- The law: `layers` is the ordered list of the frame, `v` and `changes` are what the validate
    wrote down. -/
structure Partitioned (layers : List LayerRef) (v : ValidatedLayers) (changes : DisplayChanges) :
    Prop where
  one : ∀ r ∈ layers, eligible r = true →
    ExactlyOne (r.ptr ∈ v.overlayPtrs) (r.ptr ∈ v.layersForComposition) (InClient changes r)
  once : (v.overlayPtrs ++ v.layersForComposition).Nodup
  changed_once : (changes.map Prod.fst).Nodup
  framed : ∀ p ∈ v.overlayPtrs ++ v.layersForComposition, ∃ r ∈ layers, r.ptr = p
  changed_framed : ∀ c ∈ changes, ∃ r ∈ layers, r.ptr.layerId = c.1

/-- The lists of the display that the call is about. -/
def Sys.validated (s : Sys) (hwcId : ℤ) : ValidatedLayers :=
  match s.mDisplays.lookup hwcId with
  | none => .empty
  | some d => s.layersOf d.displayId

/-- Every successful validate leaves its display's layers partitioned. -/
def KeepsPartition (s : Sys) (a : Action) (s' : Sys) : Prop :=
  match a with
  | .validate hwcId _ => ∀ d d', s.mDisplays.lookup hwcId = some d →
      s'.mDisplays.lookup hwcId = some d' → (exec s a).error = .None →
      Partitioned (d.getOrderedLayers hwcId) (s'.validated hwcId) d'.mPendingChanges
  | _ => True

/-- The checks of a validate before its main loop: the display has buffers and a device client, and
    no layer is a `DISPLAY_DECORATION`. -/
def Passes (s : Sys) (hwcId : ℤ) (dev : Option Device) : Prop :=
  match s.mDisplays.lookup hwcId with
  | none => False
  | some d => d.displayId ∈ s.mDisplayBuffers ∧ dev.isSome = true ∧
      ∀ r ∈ d.getOrderedLayers hwcId, r.layer.mCompositionType ≠ .DISPLAY_DECORATION

instance (s : Sys) (hwcId : ℤ) (dev : Option Device) : Decidable (Passes s hwcId dev) :=
  match hd : s.mDisplays.lookup hwcId with
  | none => isFalse (by simp [Passes, hd])
  | some d => decidable_of_iff (d.displayId ∈ s.mDisplayBuffers ∧ dev.isSome = true ∧
      ∀ r ∈ d.getOrderedLayers hwcId, r.layer.mCompositionType ≠ .DISPLAY_DECORATION)
      (by simp [Passes, hd])

/-- A validate that comes to its main loop finds both lists of its display empty. -/
def StartsEmpty (s : Sys) : Action → Prop
  | .validate hwcId dev => Passes s hwcId dev →
    (s.validated hwcId).overlayPtrs = [] ∧ (s.validated hwcId).layersForComposition = []
  | _ => True

instance (s : Sys) : (a : Action) → Decidable (StartsEmpty s a)
  | .validate _ _ => inferInstanceAs (Decidable (_ → _))
  | .createDisplay .. | .destroyDisplay .. | .createLayer .. | .destroyLayer .. | .setLayer ..
  | .setActiveConfig .. | .setColorTransform .. | .setClientTarget .. | .acceptChanges ..
  | .present .. => isTrue trivial

/-! ### What was asked of the client -/

theorem mem_overlayChanges {ov : List LayerRef} {c : ℤ × Composition} :
    c ∈ overlayChanges ov ↔
      ∃ r ∈ ov, r.layer.mCompositionType ≠ .DEVICE ∧ c = (r.ptr.layerId, .DEVICE) := by
  simp only [overlayChanges, List.mem_reverse, List.mem_map, List.mem_filter, decide_eq_true_eq]
  constructor
  · rintro ⟨r, ⟨hr, ht⟩, rfl⟩; exact ⟨r, hr, ht, rfl⟩
  · rintro ⟨r, hr, ht, rfl⟩; exact ⟨r, ⟨hr, ht⟩, rfl⟩

theorem mem_composedChanges {client : Bool} {co : List LayerRef} {c : ℤ × Composition} :
    c ∈ composedChanges client co ↔
      ∃ r ∈ co, (client = true ∧ r.layer.mCompositionType ≠ .CLIENT ∧ c = (r.ptr.layerId, .CLIENT)) ∨
        (client = false ∧ r.layer.mCompositionType = .CLIENT ∧ c = (r.ptr.layerId, .DEVICE)) := by
  cases client with
  | true =>
    simp only [composedChanges, if_true, List.mem_map, List.mem_filter, decide_eq_true_eq, true_and,
      Bool.true_eq_false, false_and, or_false]
    constructor
    · rintro ⟨r, ⟨hr, ht⟩, rfl⟩; exact ⟨r, hr, ht, rfl⟩
    · rintro ⟨r, hr, ht, rfl⟩; exact ⟨r, ⟨hr, ht⟩, rfl⟩
  | false =>
    simp only [composedChanges, Bool.false_eq_true, if_false, List.mem_map, List.mem_filter,
      decide_eq_true_eq, true_and, false_and, false_or]
    constructor
    · rintro ⟨r, ⟨hr, ht⟩, rfl⟩; exact ⟨r, hr, ht, rfl⟩
    · rintro ⟨r, hr, ht, rfl⟩; exact ⟨r, ⟨hr, ht⟩, rfl⟩

namespace Outcome

variable {layers : List LayerRef} {out : ValidateOut} {ov co : List LayerRef} {client : Bool}
  {r r' : LayerRef}

theorem mem_layers (h : Outcome layers out ov co client) (hr : r ∈ ov ++ co) : r ∈ layers :=
  (List.mem_filter.mp (h.shared.subset hr)).1

theorem mem_shared (h : Outcome layers out ov co client) (hr : r ∈ layers)
    (he : eligible r = true) : r ∈ ov ++ co :=
  h.shared.mem_iff.mpr (List.mem_filter.mpr ⟨hr, he⟩)

theorem ids_nodup (h : Outcome layers out ov co client)
    (hids : (layers.map fun r => r.ptr.layerId).Nodup) :
    ((ov ++ co).map fun r => r.ptr.layerId).Nodup :=
  (h.shared.map _).nodup_iff.mpr (hids.sublist (List.filter_sublist.map _))

/-- In one frame a layer is known by its id. -/
theorem eq_of_id (hids : (layers.map fun r => r.ptr.layerId).Nodup) (hr : r ∈ layers)
    (hr' : r' ∈ layers) (he : r.ptr.layerId = r'.ptr.layerId) : r = r' :=
  List.inj_on_of_nodup_map hids hr hr' he

/-- No layer is both on an overlay plane and composed. -/
theorem apart (h : Outcome layers out ov co client)
    (hids : (layers.map fun r => r.ptr.layerId).Nodup) (hov : r ∈ ov) (hco : r' ∈ co) :
    r.ptr.layerId ≠ r'.ptr.layerId := by
  have hn := h.ids_nodup hids
  rw [List.map_append] at hn
  exact (List.nodup_append.mp hn).2.2 _ (List.mem_map_of_mem hov) _ (List.mem_map_of_mem hco)

theorem not_composed (h : Outcome layers out ov co client)
    (hids : (layers.map fun r => r.ptr.layerId).Nodup) (hov : r ∈ ov) :
    r.ptr ∉ out.layers.layersForComposition := by
  rw [h.composition]
  cases client with
  | true => exact List.not_mem_nil
  | false =>
    intro hm
    obtain ⟨r', hr', he⟩ := List.mem_map.mp hm
    exact h.apart hids hov hr' (congrArg LayerPtr.layerId he.symm)

theorem not_overlay (h : Outcome layers out ov co client)
    (hids : (layers.map fun r => r.ptr.layerId).Nodup) (hco : r ∈ co) :
    r.ptr ∉ out.layers.overlayPtrs := by
  rw [h.overlay]
  intro hm
  obtain ⟨r', hr', he⟩ := List.mem_map.mp hm
  exact h.apart hids hr' hco (congrArg LayerPtr.layerId he)

/-- A layer on an overlay plane is `DEVICE`, or asked to become it. -/
theorem overlay_not_client (h : Outcome layers out ov co client)
    (hids : (layers.map fun r => r.ptr.layerId).Nodup) (hov : r ∈ ov) :
    ¬ InClient out.changes r := by
  rw [h.changes]
  rintro (hm | ⟨ht, hno⟩)
  · rcases List.mem_append.mp hm with hm | hm
    · obtain ⟨r', -, -, he⟩ := mem_overlayChanges.mp hm
      simp at he
    · obtain ⟨r', hr', hc⟩ := mem_composedChanges.mp hm
      rcases hc with ⟨-, -, he⟩ | ⟨-, -, he⟩ <;>
        exact h.apart hids hov hr' (congrArg Prod.fst he)
  · have hd : r.layer.mCompositionType ≠ .DEVICE := by rw [ht]; decide
    exact hno _ (List.mem_append_left _ (mem_overlayChanges.mpr ⟨r, hov, hd, rfl⟩)) rfl

/-- A composed layer is left to the client exactly when all of them are. -/
theorem composed_client (h : Outcome layers out ov co client)
    (hids : (layers.map fun r => r.ptr.layerId).Nodup) (hco : r ∈ co) :
    InClient out.changes r ↔ client = true := by
  rw [h.changes]
  cases client with
  | true =>
    refine ⟨fun _ => rfl, fun _ => ?_⟩
    by_cases ht : r.layer.mCompositionType = .CLIENT
    · refine .inr ⟨ht, fun c hc => ?_⟩
      rcases List.mem_append.mp hc with hc | hc
      · obtain ⟨r', hr', -, rfl⟩ := mem_overlayChanges.mp hc
        exact h.apart hids hr' hco
      · obtain ⟨r', hr', ⟨-, ht', rfl⟩ | ⟨hf, -⟩⟩ := mem_composedChanges.mp hc
        · intro he
          have hsame := eq_of_id hids (h.mem_layers (List.mem_append_right ov hr'))
            (h.mem_layers (List.mem_append_right ov hco)) he
          exact ht' (hsame ▸ ht)
        · cases hf
    · exact .inl (List.mem_append_right _
        (mem_composedChanges.mpr ⟨r, hco, .inl ⟨rfl, ht, rfl⟩⟩))
  | false =>
    refine ⟨?_, fun hf => by cases hf⟩
    rintro (hm | ⟨ht, hno⟩)
    · rcases List.mem_append.mp hm with hm | hm
      · obtain ⟨r', -, -, he⟩ := mem_overlayChanges.mp hm
        simp at he
      · obtain ⟨r', -, ⟨hf, -⟩ | ⟨-, -, he⟩⟩ := mem_composedChanges.mp hm
        · cases hf
        · simp at he
    · exact absurd rfl (hno _ (List.mem_append_right _
        (mem_composedChanges.mpr ⟨r, hco, .inr ⟨rfl, ht, rfl⟩⟩)))

theorem changed_mem (h : Outcome layers out ov co client) {c : ℤ × Composition}
    (hc : c ∈ out.changes) : ∃ r ∈ ov ++ co, r.ptr.layerId = c.1 := by
  rw [h.changes] at hc
  rcases List.mem_append.mp hc with hc | hc
  · obtain ⟨r, hr, -, rfl⟩ := mem_overlayChanges.mp hc
    exact ⟨r, List.mem_append_left co hr, rfl⟩
  · obtain ⟨r, hr, ⟨-, -, rfl⟩ | ⟨-, -, rfl⟩⟩ := mem_composedChanges.mp hc <;>
      exact ⟨r, List.mem_append_right ov hr, rfl⟩

end Outcome

/-! ### One validate -/

theorem overlayChanges_ids (ov : List LayerRef) :
    ((overlayChanges ov).map Prod.fst).reverse.Sublist (ov.map fun r => r.ptr.layerId) := by
  rw [overlayChanges, List.map_reverse, List.reverse_reverse, List.map_map]
  exact List.filter_sublist.map _

theorem composedChanges_ids (client : Bool) (co : List LayerRef) :
    ((composedChanges client co).map Prod.fst).Sublist (co.map fun r => r.ptr.layerId) := by
  cases client <;>
  · simp only [composedChanges, if_true, Bool.false_eq_true, if_false, List.map_map]
    exact List.filter_sublist.map _

/-- From empty lists a validate shares the layers out between the three places. -/
theorem partitioned_of_outcome {layers : List LayerRef} {out : ValidateOut} {ov co : List LayerRef}
    {client : Bool} (h : Outcome layers out ov co client)
    (hids : (layers.map fun r => r.ptr.layerId).Nodup) :
    Partitioned layers out.layers out.changes where
  one := by
    intro r hr he
    rcases List.mem_append.mp (h.mem_shared hr he) with hov | hco
    · refine .inl ⟨?_, h.not_composed hids hov, h.overlay_not_client hids hov⟩
      rw [h.overlay]
      exact List.mem_map_of_mem hov
    · have hno := h.not_overlay hids hco
      have hcl := h.composed_client hids hco
      cases client with
      | true =>
        refine .inr (.inr ⟨hno, ?_, hcl.mpr rfl⟩)
        rw [h.composition]
        exact List.not_mem_nil
      | false =>
        refine .inr (.inl ⟨hno, ?_, fun hc => Bool.false_ne_true (hcl.mp hc)⟩)
        rw [h.composition]
        exact List.mem_map_of_mem hco
  once := by
    have hptrs : ((ov ++ co).map LayerRef.ptr).Nodup := by
      refine List.Nodup.of_map LayerPtr.layerId ?_
      rw [List.map_map]
      exact h.ids_nodup hids
    rw [List.map_append] at hptrs
    rw [h.overlay, h.composition]
    refine hptrs.sublist (List.Sublist.append_left ?_ _)
    cases client with
    | true => exact List.nil_sublist _
    | false => exact .refl _
  changed_once := by
    have hn := h.ids_nodup hids
    rw [List.map_append] at hn
    rw [h.changes, List.map_append]
    refine List.Perm.nodup ?_ (hn.sublist ((overlayChanges_ids ov).append
      (composedChanges_ids client co)))
    exact (List.reverse_perm _).append_right _
  framed := by
    intro p hp
    rw [h.overlay, h.composition] at hp
    have hsub : p ∈ (ov ++ co).map LayerRef.ptr := by
      rw [List.map_append]
      rcases List.mem_append.mp hp with hp | hp
      · exact List.mem_append_left _ hp
      · cases client with
        | true => cases hp
        | false => exact List.mem_append_right _ hp
    obtain ⟨r, hr, rfl⟩ := List.mem_map.mp hsub
    exact ⟨r, h.mem_layers hr, rfl⟩
  changed_framed := by
    intro c hc
    obtain ⟨r, hr, he⟩ := h.changed_mem hc
    exact ⟨r, h.mem_layers hr, he⟩

/-- What a validate leaves behind for its display. -/
theorem validate_sys {s : Sys} {hwcId : ℤ} {d : Display} (dev : Option Device)
    (hd : s.mDisplays.lookup hwcId = some d) :
    let out := validateDisplay s hwcId d dev
    (validate s hwcId dev).error = out.error ∧
    (validate s hwcId dev).sys.validated hwcId = out.layers ∧
    ∀ d', (validate s hwcId dev).sys.mDisplays.lookup hwcId = some d' →
      d'.mPendingChanges = out.changes := by
  simp only [validate, onDisplay, hd]
  refine ⟨trivial, ?_, ?_⟩
  · simp [Sys.validated, Sys.setDisplay, Sys.layersOf]
  · intro d' hd'
    rw [Sys.setDisplay, AList.lookup_insert] at hd'
    rw [← Option.some.inj hd']

theorem no_decoration {layers : List LayerRef} {ps qs : List LayerPtr}
    (h : collectPrivate layers ps = some qs) :
    ∀ r ∈ layers, r.layer.mCompositionType ≠ .DISPLAY_DECORATION := by
  induction layers generalizing ps with
  | nil => simp
  | cons r layers ih =>
    intro r' hr'
    rw [collectPrivate] at h
    split at h
    · cases h
    · rename_i hdec
      rcases List.mem_cons.mp hr' with rfl | hr'
      · exact hdec
      · split at h <;> exact ih h r' hr'

/-- A validate succeeds only after its checks. -/
theorem passes_of_none {s : Sys} {hwcId : ℤ} {d : Display} {dev : Option Device}
    (hd : s.mDisplays.lookup hwcId = some d)
    (hok : (validateDisplay s hwcId d dev).error = .None) : Passes s hwcId dev := by
  simp only [validateDisplay] at hok
  split at hok
  · cases hok
  · rename_i hbuf
    cases dev with
    | none => cases hok
    | some dev =>
      simp only [Passes, hd]
      refine ⟨not_not.mp hbuf, rfl, ?_⟩
      simp only [validateLayers] at hok
      split at hok
      · cases hok
      · rename_i qs hps
        exact no_decoration hps

theorem overlay_empty {v : ValidatedLayers} (h : v.overlayPtrs = []) :
    v.layersForOverlayPlane = ∅ :=
  AList.ext (List.map_eq_nil_iff.mp h)

theorem partition_step (s : Sys) (a : Action) (ha : StartsEmpty s a) :
    KeepsPartition s a (step s a) := by
  cases a with
  | validate hwcId dev =>
    intro d d' hd hd' hok
    obtain ⟨herr, hval, hpend⟩ := validate_sys dev hd
    have hnone := herr.symm.trans hok
    obtain ⟨hov, hco⟩ := ha (passes_of_none hd hnone)
    rw [Sys.validated, hd] at hov hco
    obtain ⟨ov, co, client, hout⟩ := validateDisplay_outcome hd (overlay_empty hov) hco hnone
    have hpart := partitioned_of_outcome hout (getOrderedLayers_ids_nodup d hwcId)
    rw [← hval, ← hpend d' hd'] at hpart
    exact hpart
  | _ => trivial

/-! ### Runs -/

/-- CORRECT: in every run in which each validate that comes to its main loop finds the lists of its
    display empty, every successful validate leaves the layers of its frame partitioned. -/
theorem partition_of_starts_empty (s : Sys) (as : List Action) (h : Meets step StartsEmpty s as) :
    Always step KeepsPartition s as := by
  have hstep : ∀ s a, True → StartsEmpty s a → True ∧ KeepsPartition s a (step s a) :=
    fun s a _ ha => ⟨trivial, partition_step s a ha⟩
  exact always_of_meets hstep as s trivial h

/-! ### Two validates in a row -/

/-- With a present in between, the second validate starts from empty lists. -/
theorem partition_two_frames :
    let as := oneLayer ++ [.validate 0 (some plainDevice), .present 0 plainPresent,
      .validate 0 (some plainDevice)]
    Meets step StartsEmpty Sys.init as ∧ Always step KeepsPartition Sys.init as := by
  have h : Meets step StartsEmpty Sys.init (oneLayer ++ [.validate 0 (some plainDevice),
      .present 0 plainPresent, .validate 0 (some plainDevice)]) := by decide +kernel
  exact ⟨h, partition_of_starts_empty _ _ h⟩

/-- Without it the layer is in `layersForComposition` twice. -/
theorem validated_twice :
    ¬ ∀ as, Always step KeepsPartition Sys.init as := by
  intro h
  obtain ⟨-, -, -, -, hlast, -⟩ :=
    h (oneLayer ++ [.validate 0 (some plainDevice), .validate 0 (some plainDevice)])
  have hpart := hlast _ _ rfl rfl rfl
  exact absurd hpart.once (by decide +kernel)

end ImxHal.Hwc3.Frame
