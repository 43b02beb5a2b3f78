import ImxHal.Hwc3.ConfigValid

/-! @src display/hwcomposer3/DrmDisplay.cpp (updateDisplayConfigs, updateActiveConfig,
    placeholderDisplayConfigs), display/hwcomposer3/DrmClient.cpp (handleHotplug) |
    name:Config ids over hotplugs | scheme:run | family:id allocation

    The framework tells old modes from new ones by their ids, so a hotplug of the primary display must
    not give out an id that was in use just before it. The two paths move the base by different rules:

        connect      start + id_max + 1    above every old id, but twice as far each time
        placeholder  start + size          above the old ids only if these have no gap

    A filtered refresh rate or a custom UI size leaves a gap, and the placeholder can then take the id
    of a config that has just gone. The rule of the connect path adds an ABSOLUTE id to the base:

        start   1 ──▶ 2n+5 ──▶ 6n+13 ──▶ ⋯        S ──▶ 2 (S + n + 1) + 1 -/

namespace ImxHal.Hwc3.Configs
open ImxHal.Run ImxHal.Ledger ImxHal.Hwc3.Frame

/-! ### Ids that do not wrap -/

theorem i32_of_lt {x : ℤ} (h₀ : 0 ≤ x) (h : x < 2 ^ 31) : i32 x = x := by
  have hr := i32_isInt32 x
  have hu := u32_i32 x
  obtain ⟨h₁, h₂⟩ := hr
  simp only [u32] at hu
  omega

/-- A value below `2 ^ 32` that is still not negative as an `int` is below `2 ^ 31`. -/
theorem i32_nonneg {x : ℤ} (h₀ : 0 ≤ x) (h : x < 2 ^ 32) (hn : 0 ≤ i32 x) : x < 2 ^ 31 := by
  have hr := i32_isInt32 x
  have hu := u32_i32 x
  obtain ⟨h₁, h₂⟩ := hr
  simp only [u32] at hu
  omega

theorem u32_of_nat {n : ℕ} (h : n < 2 ^ 32) : u32 n = n := by
  simp only [u32]
  omega

theorem i32_of_nat {n : ℕ} (h : n < 2 ^ 31) : i32 n = n := i32_of_lt (by omega) (by omega)

theorem foldl_max_le (l : List ℕ) (a b : ℕ) : l.foldl max a ≤ b ↔ a ≤ b ∧ ∀ k ∈ l, k ≤ b := by
  induction l generalizing a with
  | nil => simp
  | cons x l ih =>
    rw [List.foldl_cons, ih, max_le_iff, List.forall_mem_cons]
    exact and_assoc

theorem idMax_le {m : HalConfig} {b : ℕ} : idMax m ≤ b ↔ ∀ k ∈ m, k ≤ b := by
  rw [idMax, foldl_max_le]
  exact ⟨fun h => h.2, fun h => ⟨Nat.zero_le b, h⟩⟩

theorem le_idMax {m : HalConfig} {k : ℕ} (h : k ∈ m) : k ≤ idMax m := idMax_le.mp (le_refl _) k h

/-- The id after the largest one, without overflow. -/
theorem afterMax_eq {start : ℕ} {m : HalConfig} (h : start + idMax m + 1 < 2 ^ 31) :
    afterMax start m = (start + idMax m + 1 : ℕ) := by
  have h₁ : i32 (idMax m : ℤ) = idMax m := i32_of_nat (by omega)
  have h₂ : i32 ((start : ℤ) + idMax m) = start + idMax m := i32_of_lt (by omega) (by omega)
  have h₃ : i32 ((start : ℤ) + idMax m + 1) = start + idMax m + 1 :=
    i32_of_lt (by omega) (by omega)
  rw [afterMax, h₁, h₂, h₃]
  push_cast
  ring

/-! ### What a connect assigns -/

theorem keepRate_size (m : HalConfig) (rate : ℕ) :
    (keepRate m rate).entries.length ≤ m.entries.length := List.length_filter_le _ _

theorem mem_of_mem_keepRate {m : HalConfig} {rate k : ℕ} (h : k ∈ keepRate m rate) : k ∈ m := by
  obtain ⟨e, he, rfl⟩ := List.mem_map.mp (AList.mem_keys.mp h)
  exact AList.mem_keys.mpr (List.mem_map.mpr ⟨e, (mem_keepRate.mp he).1, rfl⟩)

theorem emplace_size (m : HalConfig) (k : ℕ) (v : Config) :
    (emplace m k v).entries.length ≤ m.entries.length + 1 := by
  rw [emplace]
  split
  · exact Nat.le_succ _
  · next h => rw [AList.insert_of_notMem h, List.length_cons]

/-- The ids from `start` to `start + count`, and one more for a custom UI size. -/
structure Assigned (start count : ℕ) (d : DrmDisplay) : Prop where
  keys : ∀ k ∈ d.mConfigs, start ≤ k ∧ k ≤ 2 * start + count ∧ k < 2 ^ 31
  size : d.mConfigs.entries.length ≤ count + 1
  active : d.mActiveConfigId ≤ 2 * start + count ∧ 0 ≤ d.mActiveConfigId

/-- Room for the ids of `count` modes from `start` on with a placeholder behind them, and for a custom
    UI size. -/
def Room (pf : Platform) (start count : ℕ) : Prop :=
  start + count + 1 < 2 ^ 31 ∧ (pf.gui = .unset ∨ 2 * start + count < 2 ^ 31)

instance (pf : Platform) (start count : ℕ) : Decidable (Room pf start count) :=
  inferInstanceAs (Decidable (_ ∧ _))

theorem Room.custom {pf : Platform} {start count width height : ℕ} {size : ℕ × ℕ}
    (h : Room pf start count) (hc : customizeGUIResolution pf.gui width height = some size) :
    2 * start + count < 2 ^ 31 := by
  rcases h.2 with hg | h
  · rw [hg, customizeGUIResolution] at hc
    cases hc
  · exact h

theorem updateActiveConfig_assigned {pf : Platform} {d : DrmDisplay} {start count : ℕ}
    (hstart : d.mStartConfigId = start) (hb : Built start count d.mConfigs)
    (hroom : Room pf start count) : Assigned start count (d.updateActiveConfig pf) := by
  have hlt := hroom.1
  have hcount := hb.size_le
  have hkeys : ∀ k ∈ d.mConfigs, start ≤ k ∧ k < start + count := by
    intro k hk
    obtain ⟨i, hi, rfl⟩ := (hb.spans k).mp hk
    rw [u32_of_nat (by omega), Nat.mod_eq_of_lt (by omega)]
    omega
  obtain ⟨index, hindex, active, -, h⟩ := updateActiveConfig_cases pf (hstart ▸ hb)
  have hkept : ∀ k ∈ keepRate d.mConfigs active.refreshRateHz, start ≤ k ∧ k < start + count :=
    fun k hk => hkeys k (mem_of_mem_keepRate hk)
  have hsize := keepRate_size d.mConfigs active.refreshRateHz
  rcases h with ⟨-, h⟩ | ⟨size, hc, h⟩
  · have hid : (d.updateActiveConfig pf).mActiveConfigId = start + index := by
      rw [h.id, hstart]
      exact i32_of_lt (by omega) (by omega)
    refine ⟨fun k hk => ?_, ?_, by omega, by omega⟩
    · have hk := hkept k (h.configs ▸ hk)
      omega
    · rw [h.configs]; omega
  · have hroom' := hroom.custom hc
    have hmax : idMax (keepRate d.mConfigs active.refreshRateHz) ≤ start + count - 1 :=
      idMax_le.mpr fun k hk => by have := hkept k hk; omega
    have hpos := hb.nonempty
    have hid : (d.updateActiveConfig pf).mActiveConfigId =
        (start + idMax (keepRate d.mConfigs active.refreshRateHz) + 1 : ℕ) := by
      rw [h.id, hstart]
      exact afterMax_eq (by omega)
    refine ⟨fun k hk => ?_, ?_, by omega, by omega⟩
    · rw [h.configs, hid, u32_of_nat (by omega)] at hk
      rcases mem_emplace.mp hk with rfl | hk
      · omega
      · have := hkept k hk; omega
    · have hle := emplace_size (keepRate d.mConfigs active.refreshRateHz)
        (u32 (d.updateActiveConfig pf).mActiveConfigId) (customConfig active size)
      rw [← h.configs] at hle
      omega

theorem connect_start {pf : Platform} {d : DrmDisplay} {start : ℕ} (hstart : d.mStartConfigId = start)
    (h : start + idMax d.mConfigs + 1 < 2 ^ 31) :
    (d.updateDisplayConfigs pf).mStartConfigId = (start + idMax d.mConfigs + 1 : ℕ) := by
  rw [(updateDisplayConfigs_frame pf d).2.2, hstart]
  exact afterMax_eq h

/-- A connect that fits assigns ids from its new base on. -/
theorem connect_assigned {pf : Platform} {d : DrmDisplay} {start : ℕ}
    (hstart : d.mStartConfigId = start)
    (hroom : Room pf (start + idMax d.mConfigs + 1) d.mConnector.mModes.length)
    (h : d.mConnector.mModes ≠ []) :
    Assigned (start + idMax d.mConfigs + 1) d.mConnector.mModes.length
      (d.updateDisplayConfigs pf) := by
  have hnext : afterMax d.mStartConfigId d.mConfigs = (start + idMax d.mConfigs + 1 : ℕ) := by
    rw [hstart]
    exact afterMax_eq (by have := hroom.1; omega)
  simp only [DrmDisplay.updateDisplayConfigs, if_neg h]
  have hb := buildConfigs_built d.mConnector (afterMax d.mStartConfigId d.mConfigs) h
  exact updateActiveConfig_assigned hnext (hnext ▸ hb) hroom

theorem connect_keys {pf : Platform} {d : DrmDisplay} {start : ℕ} (hstart : d.mStartConfigId = start)
    (hroom : Room pf (start + idMax d.mConfigs + 1) d.mConnector.mModes.length) {k : ℕ}
    (hk : k ∈ (d.updateDisplayConfigs pf).mConfigs) : idMax d.mConfigs < k ∧ k < 2 ^ 31 := by
  by_cases h : d.mConnector.mModes = []
  · rw [updateDisplayConfigs_blank pf h] at hk
    exact absurd hk (AList.notMem_empty k)
  · obtain ⟨hle, -, hlt⟩ := (connect_assigned hstart hroom h).keys k hk
    exact ⟨by omega, hlt⟩

/-! ### Fresh ids -/

/-- A hotplug that changes the connection gives out no id that was in use before it. -/
def Fresh (d : DrmDisplay) (_ : Option Report) (d' : DrmDisplay) : Prop :=
  d'.mConnector.isConnected ≠ d.mConnector.isConnected → ∀ k ∈ d'.mConfigs, k ∉ d.mConfigs

/-- The ids of the hotplug fit into an `int`. -/
def Fits (pf : Platform) (d : DrmDisplay) (r : Option Report) : Prop :=
  Room pf (d.mStartConfigId.toNat + idMax d.mConfigs + 1) (d.mConnector.update r).2.mModes.length ∧
    d.mStartConfigId + d.mConfigs.entries.length < 2 ^ 31

instance (pf : Platform) (d : DrmDisplay) (r : Option Report) : Decidable (Fits pf d r) :=
  inferInstanceAs (Decidable (_ ∧ _))

/-- A disconnect finds no config that lies as many ids above the base as there are configs. -/
def GapFree (d : DrmDisplay) (r : Option Report) : Prop :=
  d.mConnector.isConnected = true → (d.mConnector.update r).2.isConnected = false →
    (d.mStartConfigId + d.mConfigs.entries.length).toNat ∉ d.mConfigs

instance (d : DrmDisplay) (r : Option Report) : Decidable (GapFree d r) :=
  inferInstanceAs (Decidable (_ → _ → _))

/-- The primary display with a base and ids that have not overflowed. -/
structure Numbered (d : DrmDisplay) : Prop where
  primary : d.mIsPrimary = true
  start : 0 ≤ d.mStartConfigId
  keys : ∀ k ∈ d.mConfigs, k < 2 ^ 31

theorem placeholder_keys (pf : Platform) (d : DrmDisplay) (k : ℕ) :
    k ∈ (d.placeholderDisplayConfigs pf).mConfigs ↔
      k = u32 (i32 (d.mStartConfigId + d.mConfigs.entries.length)) := by
  rw [DrmDisplay.placeholderDisplayConfigs, AList.mem_keys, AList.keys_singleton, List.mem_singleton]

theorem placeholder_start {pf : Platform} {d : DrmDisplay} (h₀ : 0 ≤ d.mStartConfigId)
    (h : d.mStartConfigId + d.mConfigs.entries.length < 2 ^ 31) :
    (d.placeholderDisplayConfigs pf).mStartConfigId =
      d.mStartConfigId + d.mConfigs.entries.length := i32_of_lt (by omega) h

/-- The id of a placeholder that fits is the number of configs above the base. -/
theorem placeholder_key {d : DrmDisplay} (h₀ : 0 ≤ d.mStartConfigId)
    (h : d.mStartConfigId + d.mConfigs.entries.length < 2 ^ 31) :
    u32 (i32 (d.mStartConfigId + d.mConfigs.entries.length)) =
      (d.mStartConfigId + d.mConfigs.entries.length).toNat := by
  rw [i32_of_lt (by omega) h, u32]
  omega

theorem Plugged.numbered {pf : Platform} {d d' : DrmDisplay} {r : Option Report}
    (h : Plugged pf d r d') (hd : Numbered d) (hf : Fits pf d r) :
    Numbered d' ∧ (Fresh d r d' ↔ GapFree d r) := by
  have h₀ := hd.start
  rcases h with h | ⟨hoff, hon⟩ | ⟨hon, hoff, hp⟩ | ⟨hon, hoff, hp⟩
  · refine ⟨⟨hd.primary, hd.start, hd.keys⟩, fun _ hon hoff => ?_, fun _ hne => absurd h hne⟩
    exact absurd (h.trans hon) (by simp [hoff])
  · have hframe := updateDisplayConfigs_frame pf { d with mConnector := (d.mConnector.update r).2 }
    have hstart := (Int.toNat_of_nonneg h₀).symm
    have hkeys := fun k => @connect_keys pf { d with mConnector := (d.mConnector.update r).2 } _
      hstart hf.1 k
    refine ⟨⟨hframe.2.1.trans hd.primary, ?_, fun k hk => (hkeys k hk).2⟩, fun _ hon' => ?_,
      fun _ _ k hk hold => ?_⟩
    · have hnext := @connect_start pf { d with mConnector := (d.mConnector.update r).2 } _ hstart
        (by have := hf.1.1; dsimp only; omega)
      rw [hnext]
      exact Int.natCast_nonneg _
    · exact absurd hon' (by simp [hoff])
    · exact absurd (le_idMax hold) (not_le.mpr (hkeys k hk).1)
  · have hkey := placeholder_key h₀ hf.2
    refine ⟨⟨hp, ?_, fun k hk => ?_⟩, fun hfresh _ _ => ?_, fun hgap _ k hk => ?_⟩
    · have hstart := @placeholder_start pf { d with mConnector := (d.mConnector.update r).2 } h₀ hf.2
      rw [hstart]
      exact add_nonneg h₀ (Int.natCast_nonneg _)
    · have hlt := hf.2
      rw [placeholder_keys] at hk
      rw [hk, hkey]
      omega
    · refine hfresh (by simp [DrmDisplay.placeholderDisplayConfigs, hon, hoff]) _ ?_
      rw [placeholder_keys]
      exact hkey.symm
    · rw [placeholder_keys] at hk
      rw [hk]
      exact hkey ▸ hgap hon hoff
  · exact absurd hd.primary (by simp [hp])

/-! ### From the load on -/

/-- The primary display as it is loaded. -/
def loadPrimary (pf : Platform) (r : Option Report) : Option DrmDisplay :=
  (load pf r).map fun d => setHwcPrimaryDisplay pf d true

def modeCount : Option Report → ℕ
  | none => 0
  | some r => r.modes.length

/-- A display is loaded with base 1: without configs, or with those of the report. -/
theorem load_cases {pf : Platform} {r : Option Report} {d : DrmDisplay} (h : load pf r = some d)
    (hroom : Room pf 1 (modeCount r)) :
    d.mStartConfigId = 1 ∧
      ((d.mConfigs = ∅ ∧ d.mConnector.isConnected = false) ∨ Assigned 1 (modeCount r) d) := by
  rw [load] at h
  split at h
  · next c hc =>
    obtain rfl := Option.some.inj h
    have hstart := @connect_start pf (DrmDisplay.new c) 0 rfl (by decide : 0 + 0 + 1 < 2 ^ 31)
    rcases update_loaded hc with ⟨hnone, hoff⟩ | ⟨hsome, rep, rfl, hmodes⟩
    · rw [updateDisplayConfigs_blank pf hnone] at hstart ⊢
      exact ⟨hstart, Or.inl ⟨rfl, hoff⟩⟩
    · have hcount : c.mModes.length = modeCount (some rep) := congrArg List.length hmodes
      have hassigned := @connect_assigned pf (DrmDisplay.new c) 0 rfl (hcount ▸ hroom) hsome
      exact ⟨hstart, Or.inr (hcount ▸ hassigned)⟩
  · cases h

/-- The primary display starts connected from base 1, or with a placeholder. -/
theorem loadPrimary_cases {pf : Platform} {r : Option Report} {d : DrmDisplay}
    (h : loadPrimary pf r = some d) (hroom : Room pf 1 (modeCount r)) :
    d.mIsPrimary = true ∧
      ((d.mConnector.isConnected = true ∧ d.mStartConfigId = 1 ∧ Assigned 1 (modeCount r) d) ∨
        d.mConnector.isConnected = false ∧ ∃ id : ℕ, 1 ≤ id ∧ id ≤ modeCount r + 2 ∧
          id < 2 ^ 31 ∧ d.mStartConfigId = id ∧ d.mActiveConfigId = id ∧ ∀ k, k ∈ d.mConfigs ↔ k = id) := by
  obtain ⟨d₀, hload, rfl⟩ := Option.map_eq_some_iff.mp h
  obtain ⟨hstart, hcases⟩ := load_cases hload hroom
  rcases hc : d₀.mConnector.isConnected with _ | _
  · have hset : setHwcPrimaryDisplay pf d₀ true =
        { d₀ with mIsPrimary := true }.placeholderDisplayConfigs pf := by
      simp [setHwcPrimaryDisplay, hc]
    have hsize : d₀.mConfigs.entries.length ≤ modeCount r + 1 := by
      rcases hcases with ⟨hnone, -⟩ | hassigned
      · rw [hnone]; exact Nat.zero_le _
      · exact hassigned.size
    have hlt := hroom.1
    have hfit : d₀.mStartConfigId + d₀.mConfigs.entries.length < 2 ^ 31 := by omega
    have hid : i32 (d₀.mStartConfigId + d₀.mConfigs.entries.length) =
        (1 + d₀.mConfigs.entries.length : ℕ) := by
      rw [i32_of_lt (by omega) hfit, hstart]
      push_cast
      rfl
    rw [hset]
    refine ⟨rfl, Or.inr ⟨hc, 1 + d₀.mConfigs.entries.length, by omega, by omega, by omega, hid, hid,
      fun k => ?_⟩⟩
    rw [placeholder_keys, hid, u32_of_nat (by omega)]
  · have hset : setHwcPrimaryDisplay pf d₀ true = { d₀ with mIsPrimary := true } := by
      simp [setHwcPrimaryDisplay, hc]
    rw [hset]
    rcases hcases with ⟨-, hoff⟩ | hassigned
    · exact absurd (hc.symm.trans hoff) (by decide)
    · exact ⟨rfl, Or.inl ⟨hc, hstart, ⟨hassigned.keys, hassigned.size, hassigned.active⟩⟩⟩

theorem loadPrimary_numbered {pf : Platform} {r : Option Report} {d : DrmDisplay}
    (h : loadPrimary pf r = some d) (hroom : Room pf 1 (modeCount r)) : Numbered d := by
  obtain ⟨hp, ⟨-, hstart, hassigned⟩ | ⟨-, id, -, -, hlt, hstart, -, hkeys⟩⟩ :=
    loadPrimary_cases h hroom
  · exact ⟨hp, by omega, fun k hk => (hassigned.keys k hk).2.2⟩
  · exact ⟨hp, by omega, fun k hk => (hkeys k).mp hk ▸ hlt⟩

/-- Three modes with ids 1, 2, 3; the first has another refresh rate than the preferred second. -/
def threeModes : Report :=
  ⟨.DRM_MODE_CONNECTED, [⟨1920, 1080, 30, 0, 1⟩, ⟨1920, 1080, 60, 8, 2⟩, ⟨1280, 720, 60, 0, 3⟩], 3,
    by decide⟩

end ImxHal.Hwc3.Configs
