import ImxHal.Hwc3.DisplayConfig

/-! @src display/hwcomposer3/DrmConnector.cpp (update, buildConfigs), display/hwcomposer3/DrmDisplay.cpp
    (updateActiveConfig, checkAndHandleHotplug, flushOverlay, flushPrimary) |
    name:The active config | scheme:run | family:state machine

    Frames divide by the size of the active config, so a connected display needs one that is an entry of
    the map, cached as it is, with a size:

        connect, modes made         active := the best entry           valid
        connect, first mode fails   map empty, active −1, cached 0×0   divides by 0
        disconnect, primary         active := the placeholder          valid

    The ids of a map are counted up from the base in 32 bits, which is how the best entry is found. -/

namespace ImxHal.Hwc3.Configs
open ImxHal.Run ImxHal.Ledger ImxHal.Hwc3.Frame

/-! ### Runs -/

inductive Action where
  | hotplug (r : Option Report)
  | setActiveConfigId (configId : Int32)
  | resetDisplayConfig
  | setHwcPrimaryDisplay (primary : Bool)
  | flush

def step (pf : Platform) (d : DrmDisplay) : Action → DrmDisplay
  | .hotplug r => handleHotplug pf d r
  | .setActiveConfigId configId => d.setActiveConfigId configId.toInt
  | .resetDisplayConfig => d.resetDisplayConfig
  | .setHwcPrimaryDisplay primary => setHwcPrimaryDisplay pf d primary
  | .flush => (flushRead d).2

/-- The active config is an entry of the map, cached as it is, with a size to divide by. -/
def Valid (d : DrmDisplay) : Prop :=
  d.mConfigs.lookup (u32 d.mActiveConfigId) = some d.mActiveConfig ∧
    0 < d.mActiveConfig.width ∧ 0 < d.mActiveConfig.height

instance (d : DrmDisplay) : Decidable (Valid d) := inferInstanceAs (Decidable (_ ∧ _))

/-- A connected display has a valid active config, and a frame divides by a positive size. -/
def Divides (d : DrmDisplay) : Prop :=
  d.mConnector.isConnected = true →
    Valid d ∧ 0 < (flushRead d).1.width ∧ 0 < (flushRead d).1.height

instance (d : DrmDisplay) : Decidable (Divides d) := inferInstanceAs (Decidable (_ → _))

def ValidWhenConnected (_ : DrmDisplay) (_ : Action) (d : DrmDisplay) : Prop := Divides d

/-- The hotplug turns the connector to connected, and the first of its modes cannot be created. -/
def TurnsBlank (d : DrmDisplay) : Option Report → Prop
  | none => False
  | some r => d.mConnector.isConnected = false ∧ r.connection = .DRM_MODE_CONNECTED ∧
      r.modes ≠ [] ∧ r.created = 0

instance (d : DrmDisplay) (r : Option Report) : Decidable (TurnsBlank d r) :=
  match r with
  | none => inferInstanceAs (Decidable False)
  | some _ => inferInstanceAs (Decidable (_ ∧ _))

/-- Every hotplug that connects the display has made at least one mode. -/
def MakesMode (d : DrmDisplay) : Action → Prop
  | .hotplug r => ¬ TurnsBlank d r
  | _ => True

instance (d : DrmDisplay) (a : Action) : Decidable (MakesMode d a) :=
  match a with
  | .hotplug _ => inferInstanceAs (Decidable (¬ _))
  | .setActiveConfigId _ => inferInstanceAs (Decidable True)
  | .resetDisplayConfig => inferInstanceAs (Decidable True)
  | .setHwcPrimaryDisplay _ => inferInstanceAs (Decidable True)
  | .flush => inferInstanceAs (Decidable True)

/-- The kernel offers no mode with an empty picture (`drm_mode_validate_basic`). -/
def Report.KernelModes (r : Report) : Prop := ∀ m ∈ r.modes, 0 < m.hdisplay ∧ 0 < m.vdisplay

def Action.KernelModes : Action → Prop
  | .hotplug (some r) => r.KernelModes
  | _ => True

/-! ### Ids in 32 bits -/

theorem u32_i32 (x : ℤ) : u32 (i32 x) = u32 x := by
  simp only [u32, i32]
  rw [show (2 : ℤ) ^ 32 = ((2 ^ 32 : ℕ) : ℤ) by norm_num, Int.bmod_emod]

theorem u32_lt (x : ℤ) : u32 x < 2 ^ 32 := by
  simp only [u32]
  omega

theorem u32_add (x : ℤ) (n : ℕ) : u32 (x + n) = (u32 x + n) % 2 ^ 32 := by
  simp only [u32]
  omega

/-- A value of type `int32_t`. -/
def IsInt32 (x : ℤ) : Prop := -2 ^ 31 ≤ x ∧ x < 2 ^ 31

theorem isInt32_neg_one : IsInt32 (-1) := ⟨by decide, by decide⟩

theorem i32_isInt32 (x : ℤ) : IsInt32 (i32 x) := by
  have hlt := @Int.bmod_lt x (2 ^ 32) (by decide)
  have hle := @Int.le_bmod x (2 ^ 32) (by decide)
  simp only [IsInt32, i32]
  omega

/-- As `uint32_t`, the `int` values from 0 on are those below `2 ^ 31`. -/
theorem u32_lt_iff {x : ℤ} (h : IsInt32 x) : u32 x < 2 ^ 31 ↔ 0 ≤ x := by
  obtain ⟨h₁, h₂⟩ := h
  simp only [u32]
  omega

/-! ### Maps of configs -/

theorem mem_emplace {m : HalConfig} {k k' : ℕ} {v : Config} :
    k' ∈ emplace m k v ↔ k' = k ∨ k' ∈ m := by
  rw [emplace]
  split
  · next h => exact ⟨Or.inr, by rintro (rfl | h'); exacts [h, h']⟩
  · exact AList.mem_insert m

theorem emplace_entries {m : HalConfig} {k : ℕ} (v : Config) (h : k ∉ m) :
    (emplace m k v).entries = ⟨k, v⟩ :: m.entries := by
  rw [emplace, if_neg h, AList.insert_of_notMem h]

theorem mem_entries_emplace {m : HalConfig} {k : ℕ} {v : Config} {e : Σ _ : ℕ, Config}
    (he : e ∈ (emplace m k v).entries) : e = ⟨k, v⟩ ∨ e ∈ m.entries := by
  rw [emplace] at he
  split at he
  · exact Or.inr he
  · next h => rw [AList.insert_of_notMem h] at he; exact List.mem_cons.mp he

theorem mem_keepRate {m : HalConfig} {rate : ℕ} {e : Σ _ : ℕ, Config} :
    e ∈ (keepRate m rate).entries ↔ e ∈ m.entries ∧ e.2.refreshRateHz = rate := by
  simp [keepRate]

/-- Every config has a size. -/
def Positive (m : HalConfig) : Prop := ∀ e ∈ m.entries, 0 < e.2.width ∧ 0 < e.2.height

/-- The ids are the `size` numbers from `id` on, wrapping at 32 bits. -/
def Spans (id : ℕ) (m : HalConfig) : Prop := ∀ k, k ∈ m ↔ ∃ i < m.entries.length, k = (id + i) % 2 ^ 32

theorem spans_empty (id : ℕ) : Spans id ∅ := by
  intro k
  constructor
  · intro h; exact absurd h (AList.notMem_empty k)
  · rintro ⟨i, hi, -⟩; exact absurd hi (Nat.not_lt_zero i)

theorem Positive.emplace {m : HalConfig} {k : ℕ} {v : Config} (hm : Positive m)
    (hv : 0 < v.width ∧ 0 < v.height) : Positive (emplace m k v) := by
  intro e he
  rcases mem_entries_emplace he with rfl | he
  · exact hv
  · exact hm e he

theorem Positive.keepRate {m : HalConfig} (rate : ℕ) (hm : Positive m) :
    Positive (keepRate m rate) := fun e he => hm e (mem_keepRate.mp he).1

/-- The next id is new, and taking it extends the span by one. -/
theorem Spans.emplace {id : ℕ} {m : HalConfig} (v : Config) (hm : Spans id m)
    (hlen : m.entries.length + 1 < 2 ^ 32) :
    (id + m.entries.length) % 2 ^ 32 ∉ m ∧
      Spans id (emplace m ((id + m.entries.length) % 2 ^ 32) v) := by
  have hnew : (id + m.entries.length) % 2 ^ 32 ∉ m := by
    intro h
    obtain ⟨i, hi, heq⟩ := (hm _).mp h
    omega
  refine ⟨hnew, fun k => ?_⟩
  rw [mem_emplace, emplace_entries v hnew, List.length_cons, hm k]
  constructor
  · rintro (rfl | ⟨i, hi, rfl⟩)
    · exact ⟨_, Nat.lt_succ_self _, rfl⟩
    · exact ⟨i, Nat.lt_succ_of_lt hi, rfl⟩
  · rintro ⟨i, hi, rfl⟩
    rcases Nat.lt_succ_iff_lt_or_eq.mp hi with hi | rfl
    · exact Or.inr ⟨i, hi, rfl⟩
    · exact Or.inl rfl

/-! ### Building the configs of a connector -/

/-- The loop only adds, at most one config for each mode, and keeps the ids without gaps. -/
theorem buildConfigs_spans {id : ℕ} (modes : List DrmMode) (m : HalConfig) (hm : Spans id m)
    (hlen : m.entries.length + modes.length < 2 ^ 32) :
    Spans id (buildConfigs modes ((id + m.entries.length) % 2 ^ 32) m) ∧
      m.entries.length ≤
        (buildConfigs modes ((id + m.entries.length) % 2 ^ 32) m).entries.length ∧
      (buildConfigs modes ((id + m.entries.length) % 2 ^ 32) m).entries.length ≤
        m.entries.length + modes.length := by
  induction modes generalizing m with
  | nil => exact ⟨hm, le_refl _, le_refl _⟩
  | cons mode modes ih =>
    rw [List.length_cons] at hlen ⊢
    rw [buildConfigs]
    split
    · obtain ⟨h₁, h₂, h₃⟩ := ih m hm (by omega)
      exact ⟨h₁, h₂, by omega⟩
    · obtain ⟨hnew, hspan⟩ := hm.emplace (configOf mode) (by omega)
      have hsize := congrArg List.length (emplace_entries (configOf mode) hnew)
      rw [List.length_cons] at hsize
      obtain ⟨h₁, h₂, h₃⟩ := ih _ hspan (by omega)
      rw [hsize, ← Nat.add_assoc, ← Nat.mod_add_mod] at h₁ h₂ h₃
      exact ⟨h₁, by omega, by omega⟩

/-- Every config built comes from a mode. -/
theorem mem_buildConfigs (modes : List DrmMode) (id : ℕ) (m : HalConfig) {e : Σ _ : ℕ, Config}
    (he : e ∈ (buildConfigs modes id m).entries) :
    e ∈ m.entries ∨ ∃ mode ∈ modes, e.2 = configOf mode := by
  induction modes generalizing id m with
  | nil => exact Or.inl he
  | cons mode modes ih =>
    have hrest : ∀ id m, e ∈ (buildConfigs modes id m).entries →
        e ∈ m.entries ∨ ∃ mode' ∈ mode :: modes, e.2 = configOf mode' := by
      intro id m he
      exact (ih id m he).imp_right fun ⟨mode', hm, h⟩ => ⟨mode', List.mem_cons_of_mem mode hm, h⟩
    rw [buildConfigs] at he
    split at he
    · exact hrest _ _ he
    · rcases hrest _ _ he with h | h
      · rcases mem_entries_emplace h with rfl | h
        · exact Or.inr ⟨mode, List.mem_cons_self, rfl⟩
        · exact Or.inl h
      · exact Or.inr h

theorem buildConfigs_positive (modes : List DrmMode) (id : ℕ)
    (hmodes : ∀ mode ∈ modes, 0 < mode.hdisplay ∧ 0 < mode.vdisplay) :
    Positive (buildConfigs modes id ∅) := by
  intro e he
  rcases mem_buildConfigs modes id ∅ he with h | ⟨mode, hm, h⟩
  · exact absurd h List.not_mem_nil
  · obtain ⟨hw, hh⟩ := hmodes mode hm
    rw [h]
    exact ⟨UInt16.lt_iff_toNat_lt.mp hw, UInt16.lt_iff_toNat_lt.mp hh⟩

/-- What a connect builds from at least one of `count` modes. -/
structure Built (start : ℤ) (count : ℕ) (m : HalConfig) : Prop where
  spans : Spans (u32 start) m
  nonempty : 0 < m.entries.length
  size_le : m.entries.length ≤ count

theorem buildConfigs_built (c : DrmConnector) (start : ℤ) (h : c.mModes ≠ []) :
    Built start c.mModes.length (buildConfigs c.mModes (u32 start) ∅) := by
  have hc := c.count_lt
  obtain ⟨mode, modes, hmodes⟩ := List.exists_cons_of_ne_nil h
  have hstart : (u32 start + (∅ : HalConfig).entries.length) % 2 ^ 32 = u32 start :=
    Nat.mod_eq_of_lt (u32_lt start)
  have hall := buildConfigs_spans c.mModes ∅ (spans_empty (u32 start)) (by simp; omega)
  rw [hstart] at hall
  obtain ⟨hspan, -, hle⟩ := hall
  refine ⟨hspan, ?_, ?_⟩
  · -- the first mode meets an empty map
    obtain ⟨hnew, hone⟩ := (spans_empty (u32 start)).emplace (configOf mode) (by decide)
    rw [hstart] at hnew hone
    have hrest := buildConfigs_spans modes _ hone (by
      rw [emplace_entries (configOf mode) hnew, List.length_cons]
      rw [hmodes, List.length_cons] at hc
      simp; omega)
    rw [emplace_entries (configOf mode) hnew] at hrest
    rw [hmodes, buildConfigs, if_neg (by simp)]
    exact lt_of_lt_of_le (Nat.succ_pos _) hrest.2.1
  · simpa using hle

/-! ### Choosing the active config -/

theorem findBest_lt {n : ℕ} (boot : BootMode) (at' : ℕ → Config) (is : List ℕ) (index delta : ℕ)
    (his : ∀ i ∈ is, i < n) (hindex : index < n) : findBest boot at' is index delta < n := by
  induction is generalizing index delta with
  | nil => exact hindex
  | cons i is ih =>
    have hi := his i List.mem_cons_self
    have hrest : ∀ j ∈ is, j < n := fun j h => his j (List.mem_cons_of_mem i h)
    rw [findBest]
    simp only
    split
    · exact hi
    split
    · exact ih i _ hrest hi
    split
    · exact ih i _ hrest hi
    · exact ih index _ hrest hindex

theorem customize_pos {g : GuiResolution} {width height : ℕ} {size : ℕ × ℕ} (hw : 0 < width)
    (hh : 0 < height) (h : customizeGUIResolution g width height = some size) :
    0 < size.1 ∧ 0 < size.2 := by
  rw [customizeGUIResolution.eq_def] at h
  split at h
  · cases h
  · simp only at h
    split at h
    · next hsize =>
      split at h
      · cases h
      · obtain rfl := Option.some.inj h
        constructor
        · simp only; split
          · exact hsize.1
          · exact hw
        · simp only; split
          · exact hsize.2
          · exact hh
    · obtain rfl := Option.some.inj h
      exact ⟨hw, hh⟩

theorem configAt_of_mem {m : HalConfig} {k : ℕ} (h : k ∈ m) : m.lookup k = some (configAt m k) := by
  obtain ⟨c, hc⟩ := Option.isSome_iff_exists.mp (AList.lookup_isSome.mpr h)
  rw [configAt, hc]; rfl

theorem mem_entries_of_lookup {m : HalConfig} {k : ℕ} {c : Config} (h : m.lookup k = some c) :
    ⟨k, c⟩ ∈ m.entries := AList.mem_lookup_iff.mp h

theorem configAt_of_lookup {m : HalConfig} {k : ℕ} {c : Config} (h : m.lookup k = some c) :
    configAt m k = c := by rw [configAt, h]; rfl

/-- Without a custom UI size the active config is one of those built. -/
structure Picked (d d' : DrmDisplay) (index : ℕ) (active : Config) : Prop where
  configs : d'.mConfigs = keepRate d.mConfigs active.refreshRateHz
  id : d'.mActiveConfigId = i32 (d.mStartConfigId + index)
  config : d'.mActiveConfig = active

/-- With a custom UI size it is a config of its own. -/
structure Customized (d d' : DrmDisplay) (active : Config) (size : ℕ × ℕ) : Prop where
  id : d'.mActiveConfigId =
    afterMax d.mStartConfigId (keepRate d.mConfigs active.refreshRateHz)
  configs : d'.mConfigs =
    emplace (keepRate d.mConfigs active.refreshRateHz) (u32 d'.mActiveConfigId)
      (customConfig active size)
  config : d'.mConfigs.lookup (u32 d'.mActiveConfigId) = some d'.mActiveConfig

theorem updateActiveConfig_frame (pf : Platform) (d : DrmDisplay) :
    (d.updateActiveConfig pf).mConnector = d.mConnector ∧
      (d.updateActiveConfig pf).mIsPrimary = d.mIsPrimary ∧
      (d.updateActiveConfig pf).mStartConfigId = d.mStartConfigId := by
  simp only [DrmDisplay.updateActiveConfig]
  split <;> exact ⟨rfl, rfl, rfl⟩

/-- The local `index` of `updateActiveConfig`. -/
def bestIndex (pf : Platform) (d : DrmDisplay) : ℕ :=
  findBest pf.displaymode (fun i : ℕ => configAt d.mConfigs ((u32 d.mStartConfigId + i) % 2 ^ 32))
    (List.range d.mConfigs.entries.length) 0 (2 ^ 32 - 1)

/-- What `updateActiveConfig` does with the config at `index`. -/
def Taken (pf : Platform) (d : DrmDisplay) (index : ℕ) (active : Config) : Prop :=
  (customizeGUIResolution pf.gui active.width active.height = none ∧
      Picked d (d.updateActiveConfig pf) index active) ∨
    ∃ size, customizeGUIResolution pf.gui active.width active.height = some size ∧
      Customized d (d.updateActiveConfig pf) active size

/-- Everything `updateActiveConfig` does to the configs that a connect has built. -/
theorem updateActiveConfig_taken (pf : Platform) {d : DrmDisplay} {count : ℕ}
    (hb : Built d.mStartConfigId count d.mConfigs) :
    bestIndex pf d < d.mConfigs.entries.length ∧ ∃ active,
      d.mConfigs.lookup ((u32 d.mStartConfigId + bestIndex pf d) % 2 ^ 32) = some active ∧
        Taken pf d (bestIndex pf d) active := by
  have hlt := findBest_lt pf.displaymode
    (fun i : ℕ => configAt d.mConfigs ((u32 d.mStartConfigId + i) % 2 ^ 32))
    (List.range d.mConfigs.entries.length) 0 (2 ^ 32 - 1) (fun i hi => List.mem_range.mp hi)
    hb.nonempty
  change bestIndex pf d < _ at hlt
  generalize hindex : bestIndex pf d = index at hlt ⊢
  rw [bestIndex] at hindex
  have hmem : (u32 d.mStartConfigId + index) % 2 ^ 32 ∈ d.mConfigs :=
    (hb.spans _).mpr ⟨index, hlt, rfl⟩
  have hkey : u32 (i32 (d.mStartConfigId + index)) = (u32 d.mStartConfigId + index) % 2 ^ 32 := by
    rw [u32_i32, u32_add]
  obtain ⟨active, hactive⟩ := Option.isSome_iff_exists.mp (AList.lookup_isSome.mpr hmem)
  have hat := configAt_of_lookup hactive
  refine ⟨hlt, active, hactive, ?_⟩
  rcases hc : customizeGUIResolution pf.gui active.width active.height with _ | size
  · refine Or.inl ⟨hc, ?_⟩
    have hkept : (keepRate d.mConfigs active.refreshRateHz).lookup
        ((u32 d.mStartConfigId + index) % 2 ^ 32) = some active :=
      AList.mem_lookup_iff.mpr (mem_keepRate.mpr ⟨mem_entries_of_lookup hactive, rfl⟩)
    constructor <;> simp only [DrmDisplay.updateActiveConfig, hindex, hkey, hat, hc]
    exact configAt_of_lookup hkept
  · refine Or.inr ⟨size, hc, ?_⟩
    have hid : (d.updateActiveConfig pf).mActiveConfigId =
        afterMax d.mStartConfigId (keepRate d.mConfigs active.refreshRateHz) := by
      simp only [DrmDisplay.updateActiveConfig, hindex, hkey, hat, hc, addCustom]
    have hconfigs : (d.updateActiveConfig pf).mConfigs =
        emplace (keepRate d.mConfigs active.refreshRateHz)
          (u32 (d.updateActiveConfig pf).mActiveConfigId) (customConfig active size) := by
      rw [hid]
      simp only [DrmDisplay.updateActiveConfig, hindex, hkey, hat, hc, addCustom]
    have hin : u32 (d.updateActiveConfig pf).mActiveConfigId ∈ (d.updateActiveConfig pf).mConfigs := by
      rw [hconfigs]
      exact mem_emplace.mpr (Or.inl rfl)
    exact ⟨hid, hconfigs, configAt_of_mem hin⟩

theorem updateActiveConfig_cases (pf : Platform) {d : DrmDisplay} {count : ℕ}
    (hb : Built d.mStartConfigId count d.mConfigs) :
    ∃ index < d.mConfigs.entries.length, ∃ active,
      d.mConfigs.lookup ((u32 d.mStartConfigId + index) % 2 ^ 32) = some active ∧ Taken pf d index active :=
  ⟨_, (updateActiveConfig_taken pf hb).1, (updateActiveConfig_taken pf hb).2⟩

/-- After a connect with at least one mode the active config is valid, and all configs have a size. -/
theorem updateActiveConfig_valid (pf : Platform) {d : DrmDisplay} {count : ℕ}
    (hb : Built d.mStartConfigId count d.mConfigs) (hpos : Positive d.mConfigs) :
    Valid (d.updateActiveConfig pf) ∧ Positive (d.updateActiveConfig pf).mConfigs := by
  obtain ⟨index, -, active, hactive, h⟩ := updateActiveConfig_cases pf hb
  have hsize := hpos _ (mem_entries_of_lookup hactive)
  have hkept := hpos.keepRate active.refreshRateHz
  rcases h with ⟨-, h⟩ | ⟨size, hc, h⟩
  · refine ⟨⟨?_, ?_⟩, h.configs ▸ hkept⟩
    · have hkey : u32 (d.updateActiveConfig pf).mActiveConfigId =
          (u32 d.mStartConfigId + index) % 2 ^ 32 := by rw [h.id, u32_i32, u32_add]
      rw [h.configs, h.config, hkey]
      exact AList.mem_lookup_iff.mpr (mem_keepRate.mpr ⟨mem_entries_of_lookup hactive, rfl⟩)
    · rw [h.config]; exact hsize
  · have hall : Positive (d.updateActiveConfig pf).mConfigs :=
      h.configs ▸ hkept.emplace (customize_pos hsize.1 hsize.2 hc)
    exact ⟨⟨h.config, hall _ (mem_entries_of_lookup h.config)⟩, hall⟩

/-! ### Connecting and disconnecting -/

theorem updateDisplayConfigs_frame (pf : Platform) (d : DrmDisplay) :
    (d.updateDisplayConfigs pf).mConnector = d.mConnector ∧
      (d.updateDisplayConfigs pf).mIsPrimary = d.mIsPrimary ∧
      (d.updateDisplayConfigs pf).mStartConfigId = afterMax d.mStartConfigId d.mConfigs := by
  simp only [DrmDisplay.updateDisplayConfigs]
  split
  · exact ⟨rfl, rfl, rfl⟩
  · exact updateActiveConfig_frame pf _

theorem updateDisplayConfigs_valid (pf : Platform) {d : DrmDisplay} (h : d.mConnector.mModes ≠ [])
    (hmodes : ∀ mode ∈ d.mConnector.mModes, 0 < mode.hdisplay ∧ 0 < mode.vdisplay) :
    Valid (d.updateDisplayConfigs pf) ∧ Positive (d.updateDisplayConfigs pf).mConfigs := by
  simp only [DrmDisplay.updateDisplayConfigs, if_neg h]
  exact updateActiveConfig_valid pf (buildConfigs_built _ _ h)
    (buildConfigs_positive _ _ hmodes)

/-- A connector without modes leaves the display without configs. -/
theorem updateDisplayConfigs_blank (pf : Platform) {d : DrmDisplay} (h : d.mConnector.mModes = []) :
    d.updateDisplayConfigs pf =
      { d with mStartConfigId := afterMax d.mStartConfigId d.mConfigs, mConfigs := ∅ } := by
  rw [DrmDisplay.updateDisplayConfigs]
  exact if_pos h

theorem placeholderConfig_pos (pf : Platform) {d : DrmDisplay}
    (h : 0 ≤ d.mActiveConfigId → 0 < d.mActiveConfig.width ∧ 0 < d.mActiveConfig.height) :
    0 < (placeholderConfig pf d).width ∧ 0 < (placeholderConfig pf d).height := by
  rw [placeholderConfig]
  split
  · next hid => exact h hid
  · rcases hc : customizeGUIResolution pf.gui pf.maxWidth pf.maxHeight with _ | size
    · exact ⟨pf.maxWidth_pos, pf.maxHeight_pos⟩
    · exact customize_pos pf.maxWidth_pos pf.maxHeight_pos hc

theorem placeholder_valid (pf : Platform) {d : DrmDisplay}
    (h : 0 ≤ d.mActiveConfigId → 0 < d.mActiveConfig.width ∧ 0 < d.mActiveConfig.height) :
    Valid (d.placeholderDisplayConfigs pf) ∧ Positive (d.placeholderDisplayConfigs pf).mConfigs := by
  have hpos := placeholderConfig_pos pf h
  refine ⟨⟨?_, hpos⟩, ?_⟩
  · exact AList.mem_lookup_iff.mpr (List.mem_singleton_self _)
  · intro e he
    obtain rfl := List.mem_singleton.mp he
    exact hpos

/-- A connector that becomes connected has the modes of the report up to the first failure. -/
theorem update_turns_on {c : DrmConnector} {r : Option Report} (hoff : c.isConnected = false)
    (hon : (c.update r).2.isConnected = true) :
    ∃ rep, r = some rep ∧ rep.connection = .DRM_MODE_CONNECTED ∧ rep.modes ≠ [] ∧
      (c.update r).2.mModes = rep.modes.take rep.created := by
  rcases r with _ | rep
  · exact absurd hon (by simp [DrmConnector.update, hoff])
  rw [DrmConnector.update] at hon ⊢
  split at hon
  · exact absurd hon (by simp [hoff])
  next hne =>
  rw [if_neg hne]
  split at hon
  · next hlt =>
    rw [if_pos hlt]
    have hcon : rep.connection = .DRM_MODE_CONNECTED := by
      simpa [DrmConnector.isConnected] using hon
    exact ⟨rep, rfl, hcon, fun h => by simp [h] at hlt, rfl⟩
  · next hge =>
    rw [if_neg hge]
    split at hon
    · exact absurd hon (by simp [DrmConnector.isConnected])
    · next hmodes =>
      rw [if_neg hmodes]
      have hcon : rep.connection = .DRM_MODE_CONNECTED := by
        simpa [DrmConnector.isConnected] using hon
      exact ⟨rep, rfl, hcon, hmodes, (List.take_of_length_le (not_lt.mp hge)).symm⟩

theorem update_blank {c : DrmConnector} {rep : Report} (hoff : c.isConnected = false)
    (hcon : rep.connection = .DRM_MODE_CONNECTED) (hmodes : rep.modes ≠ []) (hzero : rep.created = 0) :
    (c.update (some rep)).2.isConnected = true ∧ (c.update (some rep)).2.mModes = [] := by
  have hne : rep.connection ≠ c.mStatus := by
    rw [hcon]
    intro h
    simp [DrmConnector.isConnected, ← h] at hoff
  have hlt : rep.created < rep.modes.length := by
    rw [hzero]
    exact List.length_pos_of_ne_nil hmodes
  rw [DrmConnector.update, if_neg hne, if_pos hlt]
  exact ⟨by simp [DrmConnector.isConnected, hcon], by simp [hzero]⟩

/-- What a hotplug can do to a display. -/
inductive Plugged (pf : Platform) (d : DrmDisplay) (r : Option Report) : DrmDisplay → Prop
  | same (h : (d.mConnector.update r).2.isConnected = d.mConnector.isConnected) :
      Plugged pf d r { d with mConnector := (d.mConnector.update r).2 }
  | on (hoff : d.mConnector.isConnected = false)
      (hon : (d.mConnector.update r).2.isConnected = true) :
      Plugged pf d r ({ d with mConnector := (d.mConnector.update r).2 }.updateDisplayConfigs pf)
  | offPrimary (hon : d.mConnector.isConnected = true)
      (hoff : (d.mConnector.update r).2.isConnected = false) (hp : d.mIsPrimary = true) :
      Plugged pf d r ({ d with mConnector := (d.mConnector.update r).2 }.placeholderDisplayConfigs pf)
  | offOther (hon : d.mConnector.isConnected = true)
      (hoff : (d.mConnector.update r).2.isConnected = false) (hp : d.mIsPrimary = false) :
      Plugged pf d r { d with
        mConnector := (d.mConnector.update r).2
        mActiveConfigId := -1
        mConfigs := ∅ }

theorem handleHotplug_plugged (pf : Platform) (d : DrmDisplay) (r : Option Report) :
    Plugged pf d r (handleHotplug pf d r) := by
  simp only [handleHotplug, DrmDisplay.checkAndHandleHotplug, DrmDisplay.onDisconnect]
  rcases hold : d.mConnector.isConnected with _ | _ <;>
    rcases hnew : (d.mConnector.update r).2.isConnected with _ | _
  · simpa using Plugged.same (hnew.trans hold.symm)
  · simpa using Plugged.on hold hnew
  · rcases hp : d.mIsPrimary with _ | _
    · simpa [hp] using Plugged.offOther hold hnew hp
    · simpa [hp] using Plugged.offPrimary hold hnew hp
  · simpa using Plugged.same (hnew.trans hold.symm)

/-! ### The invariant -/

/-- While connected the active config is valid and every config has a size. A disconnected display
    keeps this for the ids from 0 on; a frame may have made an empty entry for id -1. -/
structure Inv (d : DrmDisplay) : Prop where
  connected : d.mConnector.isConnected = true → Valid d ∧ Positive d.mConfigs
  active : 0 ≤ d.mActiveConfigId → Valid d
  positive : ∀ e ∈ d.mConfigs.entries, e.1 < 2 ^ 31 → 0 < e.2.width ∧ 0 < e.2.height
  id : IsInt32 d.mActiveConfigId
  initId : IsInt32 d.mInitActiveConfigId

/-- A display that is valid with sizes everywhere meets the invariant in either state. -/
theorem Inv.of_valid {d : DrmDisplay} (h : Valid d ∧ Positive d.mConfigs)
    (hid : IsInt32 d.mActiveConfigId) (hinit : IsInt32 d.mInitActiveConfigId) : Inv d where
  connected := fun _ => h
  active := fun _ => h.1
  positive := fun e he _ => h.2 e he
  id := hid
  initId := hinit

/-- A disconnected display without configs and with id -1 meets the invariant. -/
theorem Inv.of_empty {d : DrmDisplay} (hoff : d.mConnector.isConnected = false)
    (hconfigs : d.mConfigs = ∅) (hid : d.mActiveConfigId = -1) (hinit : IsInt32 d.mInitActiveConfigId) :
    Inv d where
  connected := fun hon => absurd hon (by simp [hoff])
  active := fun h => absurd (hid ▸ h) (by decide)
  positive := fun e he => absurd (hconfigs ▸ he) List.not_mem_nil
  id := hid ▸ isInt32_neg_one
  initId := hinit

theorem Inv.divides {d : DrmDisplay} (hd : Inv d) : Divides d := by
  intro hc
  obtain ⟨hv, -⟩ := hd.connected hc
  have hread : (flushRead d).1 = d.mActiveConfig := configAt_of_lookup hv.1
  rw [hread]
  exact ⟨hv, hv.2⟩

theorem updateActiveConfig_ids (pf : Platform) (d : DrmDisplay) :
    IsInt32 (d.updateActiveConfig pf).mActiveConfigId ∧
      IsInt32 (d.updateActiveConfig pf).mInitActiveConfigId := by
  simp only [DrmDisplay.updateActiveConfig]
  split <;> exact ⟨i32_isInt32 _, i32_isInt32 _⟩

theorem updateDisplayConfigs_inv (pf : Platform) {d : DrmDisplay} (h : d.mConnector.mModes ≠ [])
    (hmodes : ∀ mode ∈ d.mConnector.mModes, 0 < mode.hdisplay ∧ 0 < mode.vdisplay) :
    Inv (d.updateDisplayConfigs pf) := by
  have hids : IsInt32 (d.updateDisplayConfigs pf).mActiveConfigId ∧
      IsInt32 (d.updateDisplayConfigs pf).mInitActiveConfigId := by
    simp only [DrmDisplay.updateDisplayConfigs, if_neg h]
    exact updateActiveConfig_ids pf _
  exact Inv.of_valid (updateDisplayConfigs_valid pf h hmodes) hids.1 hids.2

theorem placeholder_inv (pf : Platform) {d : DrmDisplay} (h : 0 ≤ d.mActiveConfigId → Valid d) :
    Inv (d.placeholderDisplayConfigs pf) :=
  Inv.of_valid (placeholder_valid pf fun hid => (h hid).2) (i32_isInt32 _) (i32_isInt32 _)

theorem setActiveConfigId_inv {d : DrmDisplay} {configId : ℤ} (hd : Inv d) (hid : IsInt32 configId) :
    Inv (d.setActiveConfigId configId) := by
  rw [DrmDisplay.setActiveConfigId]
  split
  · exact hd
  · next config hlookup =>
    have hmem := mem_entries_of_lookup hlookup
    constructor
    · intro hc
      obtain ⟨-, hpos⟩ := hd.connected hc
      exact ⟨⟨hlookup, hpos _ hmem⟩, hpos⟩
    · intro hnonneg
      exact ⟨hlookup, hd.positive _ hmem ((u32_lt_iff hid).mpr hnonneg)⟩
    · exact hd.positive
    · exact hid
    · exact hd.initId

/-- A frame reads the entry of a valid active config, or makes one for a negative id. -/
theorem flushRead_inv {d : DrmDisplay} (hd : Inv d) : Inv (flushRead d).2 := by
  have hsame : Valid d → (flushRead d).2 = d := by
    intro hv
    simp only [flushRead]
    rw [emplace_of_some zeroConfig hv.1]
  by_cases hv : Valid d
  · rw [hsame hv]; exact hd
  · have hneg : ¬ 0 ≤ d.mActiveConfigId := fun h => hv (hd.active h)
    constructor
    · intro hc; exact absurd (hd.connected hc).1 hv
    · intro h; exact absurd h hneg
    · intro e he hlt
      rcases mem_entries_emplace he with rfl | he
      · exact absurd ((u32_lt_iff hd.id).mp hlt) hneg
      · exact hd.positive e he hlt
    · exact hd.id
    · exact hd.initId

theorem Plugged.inv {pf : Platform} {d d' : DrmDisplay} {r : Option Report}
    (h : Plugged pf d r d') (hd : Inv d) (hk : Action.KernelModes (.hotplug r))
    (hb : ¬ TurnsBlank d r) : Inv d' := by
  rcases h with h | ⟨hoff, hon⟩ | ⟨hon, hoff, hp⟩ | ⟨hon, hoff, hp⟩
  · exact ⟨fun hc => hd.connected (h ▸ hc), hd.active, hd.positive, hd.id, hd.initId⟩
  · obtain ⟨rep, rfl, hcon, hmodes, htake⟩ := update_turns_on hoff hon
    have hne : rep.modes.take rep.created ≠ [] := by
      intro h
      rcases List.take_eq_nil_iff.mp h with h | h
      · exact hb ⟨hoff, hcon, hmodes, h⟩
      · exact hmodes h
    refine updateDisplayConfigs_inv pf ?_ ?_
    · simpa only [htake] using hne
    · intro mode hm
      simp only [htake] at hm
      exact hk mode (List.mem_of_mem_take hm)
  · exact placeholder_inv pf hd.active
  · exact Inv.of_empty hoff rfl rfl hd.initId

theorem step_inv (pf : Platform) (d : DrmDisplay) (a : Action) (hd : Inv d) (hk : a.KernelModes)
    (hm : MakesMode d a) : Inv (step pf d a) := by
  cases a with
  | hotplug r => exact (handleHotplug_plugged pf d r).inv hd hk hm
  | setActiveConfigId configId =>
    exact setActiveConfigId_inv hd ⟨Int32.le_toInt configId, Int32.toInt_lt configId⟩
  | resetDisplayConfig => exact setActiveConfigId_inv hd hd.initId
  | setHwcPrimaryDisplay primary =>
    simp only [step, setHwcPrimaryDisplay]
    split
    · exact ⟨hd.connected, hd.active, hd.positive, hd.id, hd.initId⟩
    · exact placeholder_inv pf hd.active
  | flush => exact flushRead_inv hd

/-- A display without configs has no valid active config. -/
theorem makesMode_of_valid (pf : Platform) (d : DrmDisplay) (a : Action)
    (h : ValidWhenConnected d a (step pf d a)) : MakesMode d a := by
  cases a with
  | hotplug r =>
    intro hb
    rcases r with _ | rep
    · exact hb
    obtain ⟨hoff, hcon, hmodes, hzero⟩ := hb
    obtain ⟨hon, hnone⟩ := update_blank hoff hcon hmodes hzero
    have hstep : step pf d (.hotplug (some rep)) =
        { d with mConnector := (d.mConnector.update (some rep)).2 }.updateDisplayConfigs pf := by
      simp [step, handleHotplug, DrmDisplay.checkAndHandleHotplug, hoff, hon]
    rw [hstep, updateDisplayConfigs_blank pf hnone] at h
    obtain ⟨hv, -⟩ := h hon
    exact absurd (mem_entries_of_lookup hv.1) List.not_mem_nil
  | _ => trivial

/-- A display is loaded with modes, or disconnected without. -/
theorem update_loaded {r : Option Report} {c : DrmConnector} (h : DrmConnector.new.update r = (true, c)) :
    (c.mModes = [] ∧ c.isConnected = false) ∨
      c.mModes ≠ [] ∧ ∃ rep, r = some rep ∧ c.mModes = rep.modes := by
  rcases r with _ | rep
  · simp [DrmConnector.update] at h
  rw [DrmConnector.update] at h
  split at h
  · obtain rfl := (Prod.mk.inj h).2
    exact Or.inl ⟨rfl, rfl⟩
  split at h
  · exact absurd (Prod.mk.inj h).1 (by decide)
  split at h
  · obtain rfl := (Prod.mk.inj h).2
    exact Or.inl ⟨rfl, rfl⟩
  · next hmodes =>
    obtain rfl := (Prod.mk.inj h).2
    exact Or.inr ⟨hmodes, rep, rfl, rfl⟩

theorem load_inv {pf : Platform} {r : Option Report} {d : DrmDisplay} (h : load pf r = some d)
    (hk : Action.KernelModes (.hotplug r)) : Inv d := by
  rw [load] at h
  split at h
  · next c hc =>
    obtain rfl := Option.some.inj h
    rcases update_loaded hc with ⟨hnone, hoff⟩ | ⟨hsome, rep, rfl, hmodes⟩
    · rw [updateDisplayConfigs_blank pf hnone]
      exact Inv.of_empty hoff rfl rfl isInt32_neg_one
    · exact updateDisplayConfigs_inv pf hsome fun mode hm => hk mode (hmodes ▸ hm)
  · cases h

/-- CORRECT: on modes with a size, the active config of a connected display is valid when the display
    is loaded, and after every step of a run exactly if no hotplug connects the display without
    making a single mode. -/
theorem active_valid_iff (pf : Platform) (r : Option Report) (d : DrmDisplay)
    (hload : load pf r = some d) (hr : Action.KernelModes (.hotplug r)) (as : List Action)
    (has : ∀ a ∈ as, a.KernelModes) :
    Divides d ∧ (Always (step pf) ValidWhenConnected d as ↔ Meets (step pf) MakesMode d as) := by
  have hd := load_inv hload hr
  refine ⟨hd.divides, always_iff_meets_given (fun d a (hd : Inv d) hk hm => ?_)
    (fun d a hd hk hp => makesMode_of_valid pf d a hp) as d hd (meets_of_forall as d has)⟩
  have hnext := step_inv pf d a hd hk hm
  exact ⟨hnext, hnext.divides⟩

/-- A platform without custom sizes. -/
def plain : Platform := ⟨1920, 1080, by decide, by decide, ⟨1920, 1080, 60, true⟩, .unset⟩

def fullHd : DrmMode := ⟨1920, 1080, 60, 8, 1⟩

def plugIn (created : ℕ) : Report := ⟨.DRM_MODE_CONNECTED, [fullHd], created, by decide⟩

def plugOut : Report := ⟨.DRM_MODE_DISCONNECTED, [], 0, DrmConnector.new.count_lt⟩

/-- A display that is loaded connected, with one mode. -/
def loaded : DrmDisplay :=
  (DrmDisplay.new ⟨.DRM_MODE_CONNECTED, [fullHd], by decide⟩).updateDisplayConfigs plain

/-- The primary display is unplugged and plugged in again, and its config set. -/
theorem active_valid_replugged :
    Always (step plain) ValidWhenConnected loaded
      [.setHwcPrimaryDisplay true, .hotplug (some plugOut), .hotplug (some (plugIn 1)),
        .setActiveConfigId 5, .flush] := by
  refine (active_valid_iff plain (some (plugIn 1)) loaded rfl ?_ _ ?_).2.mpr (by decide +kernel)
  · simp [Action.KernelModes, Report.KernelModes, plugIn, fullHd]
  · simp [Action.KernelModes, Report.KernelModes, plugIn, plugOut, fullHd]

/-- When the blob of the only mode cannot be created, the display is connected, has no config, and a
    frame divides by the width 0. -/
theorem divides_by_zero :
    let d := run (step plain) loaded
      [.setHwcPrimaryDisplay true, .hotplug (some plugOut), .hotplug (some (plugIn 0))]
    d.mConnector.isConnected = true ∧ u32 d.mActiveConfigId ∉ d.mConfigs ∧
      (flushRead d).1.width = 0 := by
  decide +kernel

end ImxHal.Hwc3.Configs
