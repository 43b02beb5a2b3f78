import ImxHal.Hwc3.Composer

/-! @src display/hwcomposer3/ClientFrameComposer.cpp (onDisplayLayerDestroy, onDisplayDestroy,
    presentDisplay), display/hwcomposer3/Display.cpp (createLayer, destroyLayer),
    display/hwcomposer3/ComposerClient.cpp (destroyDisplayLocked) | name:Layer lifetime |
    scheme:run | family:layer ownership

    A present reads its layers through the pointers of the last validate. Neither way a layer ends,
    alone or with its display, takes it out of these lists:

        validate ──▶ [p]   destroyLayer p   present ──▶ reads p
        validate ──▶ [p]   destroyDisplay   createDisplay   present ──▶ reads p

    Everything else is harmless: in a run that destroys no layer the composer holds, every pointer a
    present reads is that of a living layer. -/

namespace ImxHal.Hwc3.Frame
open ImxHal.Run ImxHal.Ledger

/-- The pointers in the two lists a present goes through. -/
def ValidatedLayers.ptrs (v : ValidatedLayers) : List LayerPtr :=
  v.overlayPtrs ++ v.layersForComposition

/-- All layer pointers the composer holds in these lists, for any display. -/
def Sys.heldPtrs (s : Sys) : List LayerPtr :=
  s.mDisplayLayers.entries.flatMap fun e => e.2.ptrs

/-- The layer is not one that the action destroys. -/
def Spares (p : LayerPtr) : Action → Prop
  | .destroyLayer hwcId layerId => ¬ (p.hwcId = hwcId ∧ p.layerId = layerId)
  | .destroyDisplay hwcId _ => p.hwcId ≠ hwcId
  | _ => True

instance (p : LayerPtr) : (a : Action) → Decidable (Spares p a)
  | .destroyLayer _ _ => inferInstanceAs (Decidable (¬ (_ ∧ _)))
  | .destroyDisplay _ _ => inferInstanceAs (Decidable (_ ≠ _))
  | .createDisplay .. | .createLayer .. | .setLayer .. | .setActiveConfig ..
  | .setColorTransform .. | .setClientTarget .. | .validate .. | .acceptChanges ..
  | .present .. => isTrue trivial

/-- The action destroys no layer that the composer holds. -/
def SparesHeld (s : Sys) (a : Action) : Prop := ∀ p ∈ s.heldPtrs, Spares p a

instance (s : Sys) (a : Action) : Decidable (SparesHeld s a) :=
  inferInstanceAs (Decidable (∀ p ∈ s.heldPtrs, Spares p a))

/-- The law: a present reads living layers only. -/
def ReadsLive (s : Sys) (a : Action) (_ : Sys) : Prop :=
  match a with
  | .present hwcId env => ∀ p ∈ presentReads s hwcId env, s.Live p
  | _ => True

/-- The invariant: every pointer held is that of a living layer. -/
def HeldLive (s : Sys) : Prop := ∀ p ∈ s.heldPtrs, s.Live p

/-! ### Held pointers -/

theorem mem_heldPtrs {s : Sys} {p : LayerPtr} :
    p ∈ s.heldPtrs ↔ ∃ displayId v, s.mDisplayLayers.lookup displayId = some v ∧ p ∈ v.ptrs := by
  simp only [Sys.heldPtrs, List.mem_flatMap]
  constructor
  · rintro ⟨⟨displayId, v⟩, he, hp⟩
    exact ⟨displayId, v, AList.mem_lookup_iff.mpr he, hp⟩
  · rintro ⟨displayId, v, hl, hp⟩
    exact ⟨⟨displayId, v⟩, AList.mem_lookup_iff.mp hl, hp⟩

theorem held_of_layersOf {s : Sys} {displayId : ℕ} {p : LayerPtr}
    (hp : p ∈ (s.layersOf displayId).ptrs) : p ∈ s.heldPtrs := by
  rw [Sys.layersOf] at hp
  cases hv : s.mDisplayLayers.lookup displayId with
  | none => rw [hv] at hp; cases hp
  | some v => rw [hv] at hp; exact mem_heldPtrs.mpr ⟨displayId, v, hv, hp⟩

/-- Writing the lists of one display adds what stands in them. -/
theorem held_insert {s s' : Sys} {displayId : ℕ} {v : ValidatedLayers} {p : LayerPtr}
    (hs : s'.mDisplayLayers = s.mDisplayLayers.insert displayId v) (hp : p ∈ s'.heldPtrs) :
    p ∈ v.ptrs ∨ p ∈ s.heldPtrs := by
  obtain ⟨k, w, hl, hp⟩ := mem_heldPtrs.mp hp
  rw [hs] at hl
  by_cases hk : k = displayId
  · rw [hk, AList.lookup_insert] at hl
    rw [Option.some.inj hl]
    exact .inl hp
  · rw [AList.lookup_insert_ne hk] at hl
    exact .inr (mem_heldPtrs.mpr ⟨k, w, hl, hp⟩)

theorem held_emplace_empty {s s' : Sys} {displayId : ℕ} {p : LayerPtr}
    (hs : s'.mDisplayLayers = emplace s.mDisplayLayers displayId .empty) (hp : p ∈ s'.heldPtrs) :
    p ∈ s.heldPtrs := by
  rw [emplace] at hs
  split at hs
  · rwa [Sys.heldPtrs, hs] at hp
  · rcases held_insert hs hp with hp | hp
    · cases hp
    · exact hp

/-! ### Living layers -/

theorem live_iff {s : Sys} {p : LayerPtr} :
    s.Live p ↔ ∃ d l, s.mDisplays.lookup p.hwcId = some d ∧
      d.mLayers.lookup p.layerId = some l ∧ l.serial = p.serial := by
  rw [Sys.Live, Sys.find]
  cases hd : s.mDisplays.lookup p.hwcId with
  | none => simp
  | some d =>
    cases hl : d.mLayers.lookup p.layerId with
    | none => simp [hl]
    | some l => simp [hl]

/-- The display has all layers that it had, except the one under `gone`. -/
def KeepsLayers (gone : Option ℤ) (d d' : Display) : Prop :=
  ∀ layerId l, d.mLayers.lookup layerId = some l → gone ≠ some layerId →
    ∃ l', d'.mLayers.lookup layerId = some l' ∧ l'.serial = l.serial

theorem keepsLayers_of_eq {d d' : Display} (h : d'.mLayers = d.mLayers) : KeepsLayers none d d' :=
  fun _ l hl _ => ⟨l, by rw [h]; exact hl, rfl⟩

/-- Overwriting a layer by one of the same allocation. -/
theorem keepsLayers_insert {d d' : Display} {layerId : ℤ} {l l' : Layer}
    (hl : d.mLayers.lookup layerId = some l) (hs : l'.serial = l.serial)
    (h : d'.mLayers = d.mLayers.insert layerId l') : KeepsLayers none d d' := by
  intro k m hm _
  rw [h]
  by_cases hk : k = layerId
  · rw [hk] at hm ⊢
    rw [hl] at hm
    exact ⟨l', AList.lookup_insert _, by rw [hs, Option.some.inj hm]⟩
  · exact ⟨m, by rw [AList.lookup_insert_ne hk]; exact hm, rfl⟩

theorem keepsLayers_emplace {d d' : Display} {layerId : ℤ} {l : Layer}
    (h : d'.mLayers = emplace d.mLayers layerId l) : KeepsLayers none d d' := by
  intro k m hm _
  refine ⟨m, ?_, rfl⟩
  rw [h, emplace]
  split
  · exact hm
  · rename_i hno
    rw [AList.lookup_insert_ne]
    · exact hm
    · rintro rfl
      exact hno (AList.lookup_isSome.mp (by rw [hm]; rfl))

theorem keepsLayers_erase {d d' : Display} {layerId : ℤ}
    (h : d'.mLayers = d.mLayers.erase layerId) : KeepsLayers (some layerId) d d' := by
  intro k m hm hk
  refine ⟨m, ?_, rfl⟩
  rw [h, AList.lookup_erase_ne (fun he => hk (by rw [he]))]
  exact hm

/-- `acceptChanges` writes composition types and nothing else. -/
theorem applyChanges_lookup {changes : DisplayChanges} {mLayers : AList fun _ : ℤ => Layer}
    {layerId : ℤ} {l : Layer} (hl : mLayers.lookup layerId = some l) :
    ∃ l', (applyChanges mLayers changes).lookup layerId = some l' ∧ l'.serial = l.serial := by
  induction changes generalizing mLayers l with
  | nil => exact ⟨l, hl, rfl⟩
  | cons change rest ih =>
    obtain ⟨k, type⟩ := change
    rw [applyChanges]
    cases hk : mLayers.lookup k with
    | none => exact ih hl
    | some m =>
      by_cases he : layerId = k
      · subst he
        rw [hk] at hl
        obtain ⟨l', hl', hs⟩ := ih (AList.lookup_insert mLayers)
        exact ⟨l', hl', by rw [hs, set_serial, Option.some.inj hl]⟩
      · exact ih (by rw [AList.lookup_insert_ne he]; exact hl)

/-- Updating one display keeps the layers alive that the display keeps. -/
theorem live_setDisplay {s s' : Sys} {hwcId : ℤ} {d d' : Display} {gone : Option ℤ} {p : LayerPtr}
    (hd : s.mDisplays.lookup hwcId = some d) (hs : s'.mDisplays = s.mDisplays.insert hwcId d')
    (hk : KeepsLayers gone d d') (hp : s.Live p)
    (hg : p.hwcId = hwcId → gone ≠ some p.layerId) : s'.Live p := by
  obtain ⟨d₀, l, hd₀, hl, hser⟩ := live_iff.mp hp
  by_cases hh : p.hwcId = hwcId
  · rw [hh, hd] at hd₀
    rw [← Option.some.inj hd₀] at hl
    obtain ⟨l', hl', hs'⟩ := hk _ l hl (hg hh)
    refine live_iff.mpr ⟨d', l', ?_, hl', hs'.trans hser⟩
    rw [hs, hh, AList.lookup_insert]
  · refine live_iff.mpr ⟨d₀, l, ?_, hl, hser⟩
    rw [hs, AList.lookup_insert_ne hh]
    exact hd₀

/-- The same for an update that drops no layer. -/
theorem live_update {s s' : Sys} {hwcId : ℤ} {d d' : Display} {p : LayerPtr}
    (hd : s.mDisplays.lookup hwcId = some d) (hs : s'.mDisplays = s.mDisplays.insert hwcId d')
    (hk : KeepsLayers none d d') (hp : s.Live p) : s'.Live p :=
  live_setDisplay hd hs hk hp fun _ => by simp

theorem live_congr {s s' : Sys} {p : LayerPtr} (hs : s'.mDisplays = s.mDisplays) (hp : s.Live p) :
    s'.Live p := by
  rwa [live_iff, hs, ← live_iff]

/-! ### What a step does to living layers -/

section Live

variable {s : Sys} {p : LayerPtr}

theorem live_createDisplay (hwcId : ℤ) (displayId : ℕ) (config : Option (ℤ × ℤ)) (client : Bool)
    (connectionType : Error) (hp : s.Live p) :
    (createDisplayLocked s hwcId displayId config client connectionType).sys.Live p := by
  have hcreate : ∀ (s : Sys) (d : Display),
      (onDisplayCreate s d client connectionType).sys.mDisplays = s.mDisplays := by
    intro s d
    rw [onDisplayCreate]
    split <;> rfl
  rw [createDisplayLocked]
  cases hd : s.mDisplays.lookup hwcId with
  | none =>
    simp only
    split
    · exact hp
    · split
      · exact live_congr (hcreate _ _) hp
      · obtain ⟨d₀, l, hd₀, hl, hser⟩ := live_iff.mp hp
        have hne : p.hwcId ≠ hwcId := by
          rintro he
          rw [he, hd] at hd₀
          cases hd₀
        refine live_iff.mpr ⟨d₀, l, ?_, hl, hser⟩
        rw [hcreate, AList.lookup_insert_ne hne]
        exact hd₀
  | some d =>
    have hset : ∀ s' : Sys, s'.mDisplays
        = s.mDisplays.insert hwcId { d with mActiveConfig := config } → s'.Live p := fun s' hs' =>
      live_update hd hs' (keepsLayers_of_eq rfl) hp
    simp only
    split
    · exact hset _ rfl
    · exact hset _ (hcreate _ _)

theorem live_destroyDisplay (hwcId : ℤ) (client : Bool) (hne : p.hwcId ≠ hwcId) (hp : s.Live p) :
    (destroyDisplayLocked s hwcId client).sys.Live p := by
  rw [destroyDisplayLocked]
  cases hd : s.mDisplays.lookup hwcId with
  | none => exact hp
  | some d =>
    have hdestroy : (onDisplayDestroy s d client).sys.mDisplays = s.mDisplays := by
      rw [onDisplayDestroy]
      split
      · rfl
      · split <;> rfl
    obtain ⟨d₀, l, hd₀, hl, hser⟩ := live_iff.mp hp
    refine live_iff.mpr ⟨d₀, l, ?_, hl, hser⟩
    simp only
    rw [hdestroy, AList.lookup_erase_ne hne]
    exact hd₀

/-- An entry point of a display keeps a layer alive when its body does. -/
theorem live_onDisplay {hwcId : ℤ} {f : Display → Out} (hp : s.Live p)
    (hf : ∀ d, s.mDisplays.lookup hwcId = some d → (f d).sys.Live p) :
    (onDisplay s hwcId f).sys.Live p := by
  rw [onDisplay]
  cases hd : s.mDisplays.lookup hwcId with
  | none => exact hp
  | some d => exact hf d hd

/-- A layer that a step does not destroy is alive after it. -/
theorem live_step (a : Action) (ha : Spares p a) (hp : s.Live p) : (step s a).Live p := by
  cases a with
  | createDisplay hwcId displayId config client connectionType =>
    exact live_createDisplay hwcId displayId config client connectionType hp
  | destroyDisplay hwcId client => exact live_destroyDisplay hwcId client ha hp
  | createLayer hwcId outLayerId =>
    refine live_onDisplay hp fun d hd => ?_
    split
    · exact hp
    · exact live_update hd rfl (keepsLayers_emplace rfl) hp
  | destroyLayer hwcId layerId =>
    refine live_onDisplay hp fun d hd => ?_
    split
    · exact hp
    · refine live_setDisplay hd rfl (keepsLayers_erase rfl) hp fun hh he => ?_
      exact ha ⟨hh, (Option.some.inj he).symm⟩
  | setLayer hwcId layerId c =>
    refine live_onDisplay hp fun d hd => ?_
    cases hl : d.mLayers.lookup layerId with
    | none => exact hp
    | some l =>
      exact live_update hd rfl (keepsLayers_insert hl (set_serial l c) rfl) hp
  | setActiveConfig hwcId config =>
    exact live_onDisplay hp fun d hd => live_update hd rfl (keepsLayers_of_eq rfl) hp
  | setColorTransform hwcId identity =>
    exact live_onDisplay hp fun d hd => live_update hd rfl (keepsLayers_of_eq rfl) hp
  | setClientTarget hwcId client created =>
    refine live_onDisplay hp fun d hd => ?_
    split
    · exact hp
    · split
      · exact live_congr rfl hp
      · exact hp
  | validate hwcId dev =>
    exact live_onDisplay hp fun d hd => live_update hd rfl (keepsLayers_of_eq rfl) hp
  | acceptChanges hwcId =>
    refine live_onDisplay hp fun d hd => ?_
    split
    · exact hp
    · refine live_update hd rfl (fun layerId l hl _ => ?_) hp
      exact applyChanges_lookup hl
  | present hwcId env =>
    refine live_onDisplay hp fun d hd => ?_
    simp only
    split <;> exact live_update hd rfl (keepsLayers_of_eq rfl) hp

end Live

/-! ### What a step does to held pointers -/

/-- The pointers in the lists of the main loop. -/
def Scan.ptrs (s : Scan) : List LayerPtr :=
  s.layersForOverlay.entries.map Sigma.snd ++ s.layersForComposition

theorem mem_scanLayer {e : ValidateEnv} {s : Scan} {r : LayerRef} {p : LayerPtr}
    (hp : p ∈ (scanLayer e s r).ptrs) : p ∈ s.ptrs ∨ p = r.ptr := by
  rcases scanLayer_cases e s r with ⟨-, hs⟩ | ⟨-, planeId, ht⟩ | ⟨-, ht⟩
  · rw [hs] at hp
    exact .inl hp
  · rw [Scan.ptrs, ht.overlay, ht.composition, emplace] at hp
    split at hp
    · exact .inl hp
    · rename_i hno
      rw [AList.entries_insert_of_notMem hno, List.map_cons, List.cons_append] at hp
      exact (List.mem_cons.mp hp).symm
  · rw [Scan.ptrs, ht.overlay, ht.composition, ← List.append_assoc] at hp
    rcases List.mem_append.mp hp with hp | hp
    · exact .inl hp
    · exact .inr (List.mem_singleton.mp hp)

/-- The loop writes down the layers it visits and no others. -/
theorem mem_scan {e : ValidateEnv} {p : LayerPtr} {layers : List LayerRef} {s : Scan}
    (hp : p ∈ (run (scanLayer e) s layers).ptrs) : p ∈ s.ptrs ∨ ∃ r ∈ layers, r.ptr = p := by
  induction layers generalizing s with
  | nil => exact .inl hp
  | cons r layers ih =>
    rcases ih hp with hp | ⟨r', hr', he⟩
    · rcases mem_scanLayer hp with hp | he
      · exact .inl hp
      · exact .inr ⟨r, List.mem_cons_self, he.symm⟩
    · exact .inr ⟨r', List.mem_cons_of_mem r hr', he⟩

theorem mem_assign {e : ValidateEnv} {deref : LayerPtr → Layer} {v : ValidatedLayers} {s : Scan}
    {p : LayerPtr} (hp : p ∈ (assign e deref v s).layers.ptrs) : p ∈ s.ptrs := by
  simp only [assign] at hp
  split at hp
  · rw [ValidatedLayers.ptrs, List.append_nil] at hp
    exact List.mem_append_left _ hp
  · exact hp

theorem mem_validateDisplay {s : Sys} {hwcId : ℤ} {d : Display} {dev : Option Device} {p : LayerPtr}
    (hp : p ∈ (validateDisplay s hwcId d dev).layers.ptrs) :
    p ∈ (s.layersOf d.displayId).ptrs ∨ ∃ r ∈ d.getOrderedLayers hwcId, r.ptr = p := by
  simp only [validateDisplay] at hp
  split at hp
  · exact .inl hp
  · cases dev with
    | none => exact .inl hp
    | some dev =>
      simp only [validateLayers] at hp
      split at hp
      · exact .inl hp
      · exact mem_scan (mem_assign hp)

theorem mem_presentOverlays {createOverlay : ℕ → Bool} {p : LayerPtr}
    {entries : List (Σ _ : ℕ, LayerPtr)} {planes : List ℕ}
    (hp : p ∈ (presentOverlays createOverlay entries planes).reads) :
    p ∈ entries.map Sigma.snd := by
  induction entries generalizing planes with
  | nil => exact hp
  | cons entry rest ih =>
    obtain ⟨planeId, q⟩ := entry
    rw [presentOverlays] at hp
    split at hp
    · rcases List.mem_cons.mp hp with rfl | hp
      · exact List.mem_cons_self
      · exact List.mem_cons_of_mem q (ih hp)
    · rw [List.mem_singleton.mp hp]
      exact List.mem_cons_self

/-- A present reads pointers of its two lists, and afterwards these are as before or empty. -/
theorem presentLayers_spec (env : PresentEnv) (v : ValidatedLayers) (b : DisplayBuffer) :
    (∀ p ∈ (presentLayers env v b).reads, p ∈ v.ptrs) ∧
      ((presentLayers env v b).layers = v ∨ (presentLayers env v b).layers = .empty) := by
  have hov : ∀ p ∈ (presentOverlays env.createOverlay v.layersForOverlayPlane.entries
      b.planeDrmBuffer).reads, p ∈ v.ptrs := fun p hp =>
    List.mem_append_left _ (mem_presentOverlays hp)
  have hreads : ∀ p ∈ (presentOverlays env.createOverlay v.layersForOverlayPlane.entries
      b.planeDrmBuffer).reads ++ v.layersForComposition, p ∈ v.ptrs := by
    intro p hp
    rcases List.mem_append.mp hp with hp | hp
    · exact hov p hp
    · exact List.mem_append_right _ hp
  simp only [presentLayers]
  split
  · exact ⟨hov, .inl rfl⟩
  · split
    · exact ⟨hreads, .inl rfl⟩
    · split
      · exact ⟨hreads, .inl rfl⟩
      · split
        · exact ⟨hreads, .inl rfl⟩
        · refine ⟨fun p hp => ?_, .inr rfl⟩
          rcases List.mem_append.mp hp with hp | hp
          · exact hreads p hp
          · exact List.mem_append_left _ hp

theorem mem_presentReads {s : Sys} {hwcId : ℤ} {env : PresentEnv} {p : LayerPtr}
    (hp : p ∈ presentReads s hwcId env) : p ∈ s.heldPtrs := by
  rw [presentReads] at hp
  split at hp
  · cases hp
  · rename_i d hd
    simp only [presentDisplay] at hp
    cases hb : s.mDisplayBuffers.lookup d.displayId with
    | none => rw [hb] at hp; cases hp
    | some b =>
      rw [hb] at hp
      cases hc : env.client with
      | false => simp [hc] at hp
      | true =>
        simp only [hc, if_true] at hp
        exact held_of_layersOf ((presentLayers_spec env _ b).1 p hp)

theorem held_onDisplay {s : Sys} {hwcId : ℤ} {f : Display → Out} {p : LayerPtr}
    (hp : p ∈ (onDisplay s hwcId f).sys.heldPtrs) :
    p ∈ s.heldPtrs ∨ ∃ d, s.mDisplays.lookup hwcId = some d ∧ p ∈ (f d).sys.heldPtrs := by
  rw [onDisplay] at hp
  cases hd : s.mDisplays.lookup hwcId with
  | none => rw [hd] at hp; exact .inl hp
  | some d => rw [hd] at hp; exact .inr ⟨d, rfl, hp⟩

/-- An entry point of a display that does not touch the composer's lists. -/
theorem held_unchanged {s : Sys} {hwcId : ℤ} {f : Display → Out} {p : LayerPtr}
    (hf : ∀ d, (f d).sys.mDisplayLayers = s.mDisplayLayers)
    (hp : p ∈ (onDisplay s hwcId f).sys.heldPtrs) : p ∈ s.heldPtrs := by
  rcases held_onDisplay hp with hp | ⟨d, -, hp⟩
  · exact hp
  · rwa [Sys.heldPtrs, hf d] at hp

theorem held_createDisplay {s : Sys} {hwcId : ℤ} {displayId : ℕ} {config : Option (ℤ × ℤ)}
    {client : Bool} {connectionType : Error} {p : LayerPtr}
    (hp : p ∈ (createDisplayLocked s hwcId displayId config client connectionType).sys.heldPtrs) :
    p ∈ s.heldPtrs := by
  have hcreate : ∀ (s : Sys) (d : Display),
      p ∈ (onDisplayCreate s d client connectionType).sys.heldPtrs → p ∈ s.heldPtrs := by
    intro s d h
    rw [onDisplayCreate] at h
    split at h
    · exact h
    · exact held_emplace_empty rfl h
  rw [createDisplayLocked] at hp
  split at hp
  · simp only at hp
    split at hp
    · exact hp
    · split at hp <;> exact hcreate s _ hp
  · simp only at hp
    split at hp
    · exact hp
    · have h := hcreate _ _ hp
      exact h

theorem held_destroyDisplay {s : Sys} {hwcId : ℤ} {client : Bool} {p : LayerPtr}
    (hp : p ∈ (destroyDisplayLocked s hwcId client).sys.heldPtrs) : p ∈ s.heldPtrs := by
  rw [destroyDisplayLocked] at hp
  split at hp
  · exact hp
  · rename_i d hd
    simp only [onDisplayDestroy] at hp
    split at hp
    · exact hp
    · split at hp <;> exact hp

theorem held_present {s : Sys} {hwcId : ℤ} {env : PresentEnv} {p : LayerPtr}
    (hp : p ∈ (present s hwcId env).sys.heldPtrs) : p ∈ s.heldPtrs := by
  rcases held_onDisplay hp with hp | ⟨d, -, hp⟩
  · exact hp
  · cases ho : presentDisplay s d env with
    | none => simp only [ho] at hp; exact hp
    | some out =>
      simp only [ho] at hp
      rcases held_insert rfl hp with hp | hp
      · simp only [presentDisplay] at ho
        split at ho
        · cases ho
        · rename_i b hb
          split at ho
          · rw [← Option.some.inj ho] at hp
            rcases (presentLayers_spec env (s.layersOf d.displayId) b).2 with he | he
            · rw [he] at hp
              exact held_of_layersOf hp
            · rw [he] at hp
              cases hp
          · cases ho
      · exact hp

/-- Only a validate adds pointers, and these are of living layers. -/
theorem held_step {s : Sys} {a : Action} {p : LayerPtr} (hp : p ∈ (step s a).heldPtrs) :
    p ∈ s.heldPtrs ∨ (s.Live p ∧ Spares p a) := by
  cases a with
  | createDisplay hwcId displayId config client connectionType => exact .inl (held_createDisplay hp)
  | destroyDisplay hwcId client => exact .inl (held_destroyDisplay hp)
  | present hwcId env => exact .inl (held_present hp)
  | validate hwcId dev =>
    rcases held_onDisplay hp with hp | ⟨d, hd, hp⟩
    · exact .inl hp
    · rcases held_insert rfl hp with hp | hp
      · rcases mem_validateDisplay hp with hp | ⟨r, hr, rfl⟩
        · exact .inl (held_of_layersOf hp)
        · refine .inr ⟨?_, trivial⟩
          rw [Sys.Live, find_of_ordered hd hr]
          rfl
      · exact .inl hp
  | createLayer hwcId outLayerId =>
    exact .inl (held_unchanged (fun d => by split <;> rfl) hp)
  | destroyLayer hwcId layerId => exact .inl (held_unchanged (fun d => by split <;> rfl) hp)
  | setLayer hwcId layerId c => exact .inl (held_unchanged (fun d => by split <;> rfl) hp)
  | setActiveConfig hwcId config => exact .inl (held_unchanged (fun d => rfl) hp)
  | setColorTransform hwcId identity => exact .inl (held_unchanged (fun d => rfl) hp)
  | setClientTarget hwcId client created =>
    refine .inl (held_unchanged (fun d => ?_) hp)
    split
    · rfl
    · split <;> rfl
  | acceptChanges hwcId => exact .inl (held_unchanged (fun d => by split <;> rfl) hp)

/-! ### Runs -/

theorem heldLive_init : HeldLive Sys.init := fun p hp => by cases hp

theorem heldLive_step (s : Sys) (a : Action) (hs : HeldLive s) (ha : SparesHeld s a) :
    HeldLive (step s a) := by
  intro p hp
  rcases held_step hp with hp | ⟨hl, hsp⟩
  · exact live_step a (ha p hp) (hs p hp)
  · exact live_step a hsp hl

theorem readsLive_of_heldLive (s : Sys) (a : Action) (hs : HeldLive s) :
    ReadsLive s a (step s a) := by
  cases a with
  | present hwcId env => exact fun p hp => hs p (mem_presentReads hp)
  | _ => trivial

/-- CORRECT: in every run that destroys no layer while the composer holds it, alone or with its
    display, every pointer that a present reads is that of a living layer. -/
theorem reads_live_of_spared (as : List Action) (h : Meets step SparesHeld Sys.init as) :
    Always step ReadsLive Sys.init as := by
  have hstep : ∀ s a, HeldLive s → SparesHeld s a →
      HeldLive (step s a) ∧ ReadsLive s a (step s a) := fun s a hs ha =>
    ⟨heldLive_step s a hs ha, readsLive_of_heldLive s a hs⟩
  exact always_of_meets hstep as Sys.init heldLive_init h

/-! ### A layer destroyed between validate and present -/

/-- A display whose solid colour layer has been validated for device composition. -/
def validatedLayer : List Action := oneLayer ++ [.validate 0 (some plainDevice)]

/-- Destroyed after the present, the layer is no longer held. -/
theorem reads_live_destroyed_later :
    let as := validatedLayer ++ [.present 0 plainPresent, .destroyLayer 0 1,
      .validate 0 (some plainDevice), .present 0 plainPresent]
    Meets step SparesHeld Sys.init as ∧ Always step ReadsLive Sys.init as := by
  have h : Meets step SparesHeld Sys.init (validatedLayer ++ [.present 0 plainPresent,
      .destroyLayer 0 1, .validate 0 (some plainDevice), .present 0 plainPresent]) := by
    decide +kernel
  exact ⟨h, reads_live_of_spared _ h⟩

/-- Destroyed before it, the layer is read when it is gone. -/
theorem present_reads_destroyed : ¬ ∀ as, Always step ReadsLive Sys.init as := by
  intro h
  obtain ⟨-, -, -, -, -, hread, -⟩ :=
    h (validatedLayer ++ [.destroyLayer 0 1, .present 0 plainPresent])
  have hlive : Sys.Live _ ⟨0, 1, 0⟩ := hread ⟨0, 1, 0⟩ (by decide +kernel)
  exact absurd hlive (by simp only [Sys.Live]; decide +kernel)

end ImxHal.Hwc3.Frame
