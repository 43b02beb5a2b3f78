import ImxHal.Hwc3.ConfigIds

/-! @src display/hwcomposer3/DrmDisplay.cpp (updateDisplayConfigs, updateActiveConfig,
    placeholderDisplayConfigs), display/hwcomposer3/DrmClient.cpp (handleHotplug) |
    name:How fast config ids grow | scheme:run | family:id allocation

    With `n` modes in each list, a cycle of unplugging and plugging in takes the base at most from `S`
    to `2 (S + n + 1) + 1`, and a custom UI size adds the id `2 S + n`. After `k` cycles the largest id
    is therefore `(2 ^ (k + 2) - 3) * (n + 2)`, and a display with `n` modes of one refresh rate does
    reach it:

        ids   1 … n | n+2 | 2n+5 … 3n+4 | 5n+10 | ⋯        doubling, not adding, with each cycle -/

namespace ImxHal.Hwc3.Configs
open ImxHal.Run ImxHal.Ledger ImxHal.Hwc3.Frame

/-! ### Runs by their number of cycles -/

/-- The hotplugs of a run that turn the display to connected. -/
def cycles (pf : Platform) : DrmDisplay → List (Option Report) → ℕ
  | _, [] => 0
  | d, r :: rs =>
    (if d.mConnector.isConnected = false ∧
        (handleHotplug pf d r).mConnector.isConnected = true then 1 else 0)
      + cycles pf (handleHotplug pf d r) rs

/-- No id is above `bound`. -/
def Within (bound : ℕ) (d : DrmDisplay) : Prop :=
  (∀ id ∈ d.mConfigs, id ≤ bound) ∧ (0 ≤ d.mStartConfigId ∧ d.mStartConfigId ≤ bound) ∧
    (0 ≤ d.mActiveConfigId ∧ d.mActiveConfigId ≤ bound)

/-- In every run of a primary display with at most `k` cycles and at most `n` modes in each list, no
    id is above `bound`. -/
def IdsWithin (k n bound : ℕ) : Prop :=
  ∀ pf r d rs, loadPrimary pf r = some d → modeCount r ≤ n → (∀ r ∈ rs, modeCount r ≤ n) →
    cycles pf d rs ≤ k → Within bound (run (handleHotplug pf) d rs)

/-- The largest base after `k` cycles. -/
def base (n : ℕ) : ℕ → ℕ
  | 0 => 1
  | k + 1 => 2 * (base n k + n + 1) + 1

theorem base_pos (n k : ℕ) : 1 ≤ base n k := by
  cases k with
  | zero => exact le_refl 1
  | succ k => rw [base]; omega

theorem base_mono (n : ℕ) {j k : ℕ} (h : j ≤ k) : base n j ≤ base n k := by
  induction k, h using Nat.le_induction with
  | base => exact le_refl _
  | succ k _ ih => rw [base]; omega

theorem base_closed (n k : ℕ) : base n k + (2 * n + 3) = 2 ^ k * (2 * n + 4) := by
  induction k with
  | zero => rw [base]; omega
  | succ k ih => rw [base, pow_succ]; linarith

/-- The largest id after `k` cycles. -/
theorem largest_eq (n k : ℕ) : 2 * base n k + n = (2 ^ (k + 2) - 3) * (n + 2) := by
  have h := base_closed n k
  have hpow : 2 ^ (k + 2) * (n + 2) = 2 * (2 ^ k * (2 * n + 4)) := by rw [pow_add]; ring
  rw [Nat.sub_mul]
  omega

/-! ### No run is faster -/

/-- Where a display can be after `k` cycles. -/
structure Grown (n k : ℕ) (d : DrmDisplay) : Prop where
  primary : d.mIsPrimary = true
  start : 0 ≤ d.mStartConfigId
  active : 0 ≤ d.mActiveConfigId ∧ d.mActiveConfigId ≤ (2 * base n k + n : ℕ)
  connected : d.mConnector.isConnected = true → d.mStartConfigId ≤ base n k ∧
    d.mConfigs.entries.length ≤ n + 1 ∧ ∀ id ∈ d.mConfigs, id ≤ 2 * base n k + n
  idle : d.mConnector.isConnected = false → d.mStartConfigId ≤ (base n k + n + 1 : ℕ) ∧
    ∀ id ∈ d.mConfigs, (id : ℤ) ≤ d.mStartConfigId

theorem Grown.within {n k bound : ℕ} {d : DrmDisplay} (h : Grown n k d)
    (hb : 2 * base n k + n ≤ bound) : Within bound d := by
  have hpos := base_pos n k
  have hstart := h.start
  have hactive := h.active
  rcases hc : d.mConnector.isConnected with _ | _
  · obtain ⟨hbase, hkeys⟩ := h.idle hc
    refine ⟨fun id hid => ?_, ⟨hstart, by omega⟩, by omega, by omega⟩
    have := hkeys id hid
    omega
  · obtain ⟨hbase, -, hkeys⟩ := h.connected hc
    refine ⟨fun id hid => ?_, ⟨hstart, by omega⟩, by omega, by omega⟩
    have := hkeys id hid
    omega

theorem modes_le {c : DrmConnector} {r : Option Report} {n : ℕ} (hoff : c.isConnected = false)
    (hon : (c.update r).2.isConnected = true) (hr : modeCount r ≤ n) :
    (c.update r).2.mModes.length ≤ n := by
  obtain ⟨rep, rfl, -, -, htake⟩ := update_turns_on hoff hon
  rw [htake]
  exact le_trans (List.length_take_le' _ _) hr

/-- A connect from a placeholder. -/
theorem connect_grown {pf : Platform} {n k : ℕ} {d : DrmDisplay} (hd : Grown n k d)
    (hoff : d.mConnector.isConnected = false) (hlt : 2 * base n (k + 1) + n < 2 ^ 31)
    {c : DrmConnector} (hon : c.isConnected = true) (hcount : c.mModes.length ≤ n) :
    Grown n (k + 1) ({ d with mConnector := c }.updateDisplayConfigs pf) := by
  obtain ⟨hbase, hkeys⟩ := hd.idle hoff
  have hactive := hd.active
  have hpos := base_pos n (k + 1)
  obtain ⟨start, hstart⟩ := Int.eq_ofNat_of_zero_le hd.start
  have hmax : idMax d.mConfigs ≤ start := idMax_le.mpr fun id hid => by
    have := hkeys id hid
    omega
  have hnext : start + idMax d.mConfigs + 1 ≤ base n (k + 1) := by rw [base]; omega
  have hframe := updateDisplayConfigs_frame pf { d with mConnector := c }
  have hnew := @connect_start pf { d with mConnector := c } start hstart (by dsimp only; omega)
  dsimp only at hnew
  have hold : 2 * base n k + n ≤ 2 * base n (k + 1) + n := by rw [base]; omega
  -- without a mode the display keeps its active id and has no configs
  have hids : (0 ≤ ({ d with mConnector := c }.updateDisplayConfigs pf).mActiveConfigId ∧
      ({ d with mConnector := c }.updateDisplayConfigs pf).mActiveConfigId ≤
        ((2 * base n (k + 1) + n : ℕ) : ℤ)) ∧
      ({ d with mConnector := c }.updateDisplayConfigs pf).mConfigs.entries.length ≤ n + 1 ∧
      ∀ id ∈ ({ d with mConnector := c }.updateDisplayConfigs pf).mConfigs,
        id ≤ 2 * base n (k + 1) + n := by
    by_cases h : c.mModes = []
    · rw [updateDisplayConfigs_blank pf h]
      refine ⟨⟨hactive.1, hactive.2.trans (Int.ofNat_le.mpr hold)⟩, Nat.zero_le _, fun id hid => ?_⟩
      exact absurd hid (AList.notMem_empty id)
    · have hroom : Room pf (start + idMax d.mConfigs + 1) c.mModes.length :=
        ⟨by omega, Or.inr (by omega)⟩
      obtain ⟨hkeys', hsize, hact⟩ := @connect_assigned pf { d with mConnector := c } start hstart hroom h
      dsimp only at hkeys' hsize hact
      refine ⟨⟨hact.2, by omega⟩, by omega, fun id hid => ?_⟩
      have := hkeys' id hid
      omega
  refine ⟨hframe.2.1.trans hd.primary, by omega, hids.1, fun _ => ⟨by omega, hids.2⟩, fun h => ?_⟩
  exact absurd (hframe.1 ▸ h) (by simp [hon])

/-- A disconnect to a placeholder. -/
theorem disconnect_grown {pf : Platform} {n k : ℕ} {d : DrmDisplay} (hd : Grown n k d)
    (hon : d.mConnector.isConnected = true) (hlt : 2 * base n k + n < 2 ^ 31) {c : DrmConnector}
    (hoff : c.isConnected = false) :
    Grown n k ({ d with mConnector := c }.placeholderDisplayConfigs pf) := by
  obtain ⟨hbase, hsize, -⟩ := hd.connected hon
  have hpos := base_pos n k
  have h₀ := hd.start
  have hfit : d.mStartConfigId + d.mConfigs.entries.length < 2 ^ 31 := by omega
  have hstart := @placeholder_start pf { d with mConnector := c } h₀ hfit
  have hactive : ({ d with mConnector := c }.placeholderDisplayConfigs pf).mActiveConfigId =
      d.mStartConfigId + d.mConfigs.entries.length := hstart
  dsimp only at hstart
  refine ⟨hd.primary, by omega, by omega, fun h => ?_, fun _ => ⟨by omega, fun id hid => ?_⟩⟩
  · exact absurd h (by simp [DrmDisplay.placeholderDisplayConfigs, hoff])
  · have hkey := placeholder_key h₀ hfit
    rw [placeholder_keys] at hid
    rw [hstart, hid, hkey]
    omega

theorem Plugged.grown {pf : Platform} {n k : ℕ} {d d' : DrmDisplay} {r : Option Report}
    (h : Plugged pf d r d') (hd : Grown n k d) (hr : modeCount r ≤ n) {j : ℕ}
    (hj : j = k + if d.mConnector.isConnected = false ∧ d'.mConnector.isConnected = true
      then 1 else 0) (hlt : 2 * base n j + n < 2 ^ 31) : Grown n j d' := by
  rcases h with h | ⟨hoff, hon⟩ | ⟨hon, hoff, hp⟩ | ⟨hon, hoff, hp⟩
  · have hk : j = k := by
      rw [hj, if_neg]
      · rfl
      · rintro ⟨h₁, h₂⟩
        exact absurd (h.symm.trans h₂) (by simp [h₁])
    subst hk
    exact ⟨hd.primary, hd.start, hd.active, fun hc => hd.connected (h ▸ hc), fun hc => hd.idle (h ▸ hc)⟩
  · have hk : j = k + 1 := by
      rw [hj, if_pos ⟨hoff, by rw [(updateDisplayConfigs_frame pf _).1]; exact hon⟩]
    subst hk
    exact connect_grown hd hoff hlt hon (modes_le hoff hon hr)
  · have hk : j = k := by
      rw [hj, if_neg]
      · rfl
      · rintro ⟨h₁, -⟩
        exact absurd hon (by simp [h₁])
    subst hk
    exact disconnect_grown hd hon hlt hoff
  · exact absurd hd.primary (by simp [hp])

theorem loadPrimary_grown {pf : Platform} {r : Option Report} {d : DrmDisplay} {n : ℕ}
    (h : loadPrimary pf r = some d) (hr : modeCount r ≤ n) (hlt : 2 * base n 0 + n < 2 ^ 31) :
    Grown n 0 d := by
  rw [base] at hlt
  obtain ⟨hp, ⟨hon, hstart, hkeys, hsize, hactive⟩ | ⟨hoff, id, hpos, hle, -, hstart, hactive, hkeys⟩⟩ :=
    loadPrimary_cases h ⟨by omega, Or.inr (by omega)⟩
  · refine ⟨hp, by omega, by rw [base]; omega, fun _ => ⟨by rw [base]; omega, by omega, fun id hid => ?_⟩,
      fun hoff => absurd hon (by simp [hoff])⟩
    have := hkeys id hid
    rw [base]
    omega
  · refine ⟨hp, by omega, by rw [base]; omega, fun hon => absurd hon (by simp [hoff]),
      fun _ => ⟨by rw [base]; omega, fun k hk => ?_⟩⟩
    rw [(hkeys k).mp hk, hstart]

theorem run_grown {pf : Platform} {n k : ℕ} (rs : List (Option Report)) (d : DrmDisplay) (j : ℕ)
    (hd : Grown n j d) (hrs : ∀ r ∈ rs, modeCount r ≤ n) (hk : j + cycles pf d rs ≤ k)
    (hlt : 2 * base n k + n < 2 ^ 31) :
    Grown n (j + cycles pf d rs) (run (handleHotplug pf) d rs) := by
  induction rs generalizing d j with
  | nil => exact hd
  | cons r rs ih =>
    rw [cycles] at hk ⊢
    rw [run_cons, ← Nat.add_assoc]
    rw [← Nat.add_assoc] at hk
    refine ih _ _ ?_ (fun r' h => hrs r' (List.mem_cons_of_mem r h)) hk
    refine (handleHotplug_plugged pf d r).grown hd (hrs r List.mem_cons_self) rfl ?_
    have := base_mono n (le_trans (Nat.le_add_right _ _) hk)
    omega

/-! ### A run that is as fast -/

/-- `n` modes of one refresh rate, all of different size. -/
def crowd (n : ℕ) : List DrmMode := (List.range n).map fun i =>
  ⟨UInt16.ofNat (i % 65534 + 2), UInt16.ofNat (i / 65534 + 2), 60, 0, i⟩

def crowdIn (n : ℕ) (h : n < 2 ^ 31) : Report :=
  ⟨.DRM_MODE_CONNECTED, crowd n, n, by simpa [crowd] using h⟩

/-- A platform with a custom UI size below every mode. -/
def scaled : Platform := { plain with gui := .hardware 1 1 }

/-- Modes that differ from each other and from the configs so far all get a config. -/
theorem buildConfigs_size (modes : List DrmMode) {id : ℕ} (m : HalConfig) (hm : Spans id m)
    (hlen : m.entries.length + modes.length < 2 ^ 32)
    (hnew : ∀ e ∈ m.entries, ∀ mode ∈ modes, sameConfig e.2 (configOf mode) = false)
    (hdiff : modes.Pairwise fun a b => sameConfig (configOf a) (configOf b) = false) :
    (buildConfigs modes ((id + m.entries.length) % 2 ^ 32) m).entries.length =
      m.entries.length + modes.length := by
  induction modes generalizing m with
  | nil => rfl
  | cons mode modes ih =>
    obtain ⟨hmode, hrest⟩ := List.pairwise_cons.mp hdiff
    rw [List.length_cons] at hlen ⊢
    have hany : ¬ (m.entries.any fun e => sameConfig e.2 (configOf mode)) = true := by
      simp only [List.any_eq_true, not_exists, not_and, Bool.not_eq_true]
      exact fun e he => hnew e he mode List.mem_cons_self
    obtain ⟨hid, hspan⟩ := hm.emplace (configOf mode) (by omega)
    have hsize := congrArg List.length (emplace_entries (configOf mode) hid)
    rw [List.length_cons] at hsize
    have hnext := ih _ hspan (by omega) ?_ hrest
    · rw [hsize, ← Nat.add_assoc, ← Nat.mod_add_mod] at hnext
      rw [buildConfigs, if_neg hany, hnext]
      omega
    · intro e he mode' hm'
      rcases mem_entries_emplace he with rfl | he
      · exact hmode mode' hm'
      · exact hnew e he mode' (List.mem_cons_of_mem mode hm')

theorem crowd_size {n : ℕ} {mode : DrmMode} (h : mode ∈ crowd n) :
    2 ≤ (configOf mode).width ∧ (configOf mode).refreshRateHz = 60 := by
  obtain ⟨i, -, rfl⟩ := List.mem_map.mp h
  refine ⟨?_, rfl⟩
  simp only [configOf, UInt16.toNat_ofNat']
  omega

theorem crowd_different {n : ℕ} (hn : n < 2 ^ 31) :
    (crowd n).Pairwise fun a b => sameConfig (configOf a) (configOf b) = false := by
  rw [crowd, List.pairwise_map]
  refine List.Pairwise.imp_of_mem ?_ List.nodup_range
  intro i j hi hj hne
  have hi := List.mem_range.mp hi
  have hj := List.mem_range.mp hj
  simp only [sameConfig, configOf, UInt16.toNat_ofNat', Bool.and_eq_false_iff, decide_eq_false_iff_not]
  omega

/-- The configs of the crowd: `n` consecutive ids, all of one rate. -/
theorem buildConfigs_crowd (c : DrmConnector) {n : ℕ} (hmodes : c.mModes = crowd n) (hn : n < 2 ^ 31)
    (start : ℤ) :
    (buildConfigs c.mModes (u32 start) ∅).entries.length = n ∧
      ∀ e ∈ (buildConfigs c.mModes (u32 start) ∅).entries, 2 ≤ e.2.width ∧ e.2.refreshRateHz = 60 := by
  constructor
  · have h := buildConfigs_size c.mModes ∅ (spans_empty (u32 start))
      (by rw [hmodes]; simp [crowd]; omega) (fun e he => absurd he List.not_mem_nil)
      (hmodes ▸ crowd_different hn)
    rw [show (u32 start + (∅ : HalConfig).entries.length) % 2 ^ 32 = u32 start from
      Nat.mod_eq_of_lt (u32_lt start)] at h
    rw [h, hmodes]
    simp [crowd]
  · intro e he
    rcases mem_buildConfigs c.mModes (u32 start) ∅ he with h | ⟨mode, hm, h⟩
    · exact absurd h List.not_mem_nil
    · rw [h]
      exact crowd_size (hmodes ▸ hm)

theorem i32_i32_add (x y : ℤ) : i32 (i32 x + y) = i32 (x + y) := Int.bmod_add_bmod

theorem keepRate_self {m : HalConfig} {rate : ℕ} (h : ∀ e ∈ m.entries, e.2.refreshRateHz = rate) :
    keepRate m rate = m := by
  apply AList.ext
  exact List.filter_eq_self.mpr fun e he => by simpa using h e he

/-- A size of 1 × 1 is below every mode that is at least 2 wide. -/
theorem customize_scaled {width : ℕ} (height : ℕ) (h : 2 ≤ width) :
    ∃ size, customizeGUIResolution scaled.gui width height = some size := by
  have hw : ¬ (1 ≥ width ∧ 1 ≥ height) := by omega
  have hcustom : customizeGUIResolution scaled.gui width height =
      if 1 ≥ width ∧ 1 ≥ height then none
      else some (if 1 < width then 1 else width, if 1 < height then 1 else height) := rfl
  rw [hcustom, if_neg hw]
  exact ⟨_, rfl⟩

/-- The largest id of `n` consecutive ones that stay below `2 ^ 32`. -/
theorem idMax_spans {start n : ℕ} {m : HalConfig} (hm : Spans start m) (hn : 1 ≤ n)
    (hsize : m.entries.length = n) (hlt : start + n ≤ 2 ^ 32) :
    start + n - 1 ∈ m ∧ idMax m = start + n - 1 := by
  have hmem : start + n - 1 ∈ m :=
    (hm _).mpr ⟨n - 1, by omega, by rw [Nat.mod_eq_of_lt (by omega)]; omega⟩
  refine ⟨hmem, le_antisymm (idMax_le.mpr fun k hk => ?_) (le_idMax hmem)⟩
  obtain ⟨i, hi, rfl⟩ := (hm k).mp hk
  rw [Nat.mod_eq_of_lt (by omega)]
  omega

/-- The custom id behind `n` consecutive ones, before it is known to fit. -/
theorem afterMax_spans {S n : ℕ} {m : HalConfig} (hn : 1 ≤ n) (hmax : idMax m = S + n - 1)
    (hlt : S + n - 1 < 2 ^ 31) : afterMax S m = i32 ((2 * S + n : ℕ) : ℤ) := by
  have hi : i32 (idMax m : ℤ) = idMax m := i32_of_nat (hmax ▸ hlt)
  have hsum : (S : ℤ) + (S + n - 1 : ℕ) + 1 = ((2 * S + n : ℕ) : ℤ) := by omega
  rw [afterMax, i32_i32_add, hi, hmax, hsum]

/-- A connect to the crowd whose ids are within the bound: base `S`, `n` ids from it on and the
    custom id `2 S + n`. -/
theorem crowd_connect {n bound S : ℕ} {d : DrmDisplay} (hpos : 1 ≤ n) (hn : n < 2 ^ 31)
    (hb : bound < 2 ^ 31) (hmodes : d.mConnector.mModes = crowd n)
    (hS : afterMax d.mStartConfigId d.mConfigs = i32 S) (hlt : S < 2 ^ 32)
    (hw : Within bound (d.updateDisplayConfigs scaled)) :
    (d.updateDisplayConfigs scaled).mStartConfigId = S ∧
      (d.updateDisplayConfigs scaled).mConfigs.entries.length = n + 1 ∧ 2 * S + n ≤ bound := by
  have hne : d.mConnector.mModes ≠ [] := by
    rw [hmodes]
    intro h
    have := congrArg List.length h
    simp [crowd] at this
    omega
  -- the base has not wrapped
  have hbase := (updateDisplayConfigs_frame scaled d).2.2
  obtain ⟨hkeys, ⟨hstart₀, -⟩, hactive₀, hactive₁⟩ := hw
  rw [hbase, hS] at hstart₀
  have hS31 := i32_nonneg (by omega) (by omega) hstart₀
  have hSi : i32 S = S := i32_of_lt (by omega) hS31
  refine ⟨by rw [hbase, hS, hSi], ?_⟩
  simp only [DrmDisplay.updateDisplayConfigs, if_neg hne, hS, hSi] at hkeys hactive₀ hactive₁ ⊢
  obtain ⟨hsize, hcrowd⟩ := buildConfigs_crowd d.mConnector hmodes hn S
  have hbuilt := buildConfigs_built d.mConnector S hne
  generalize buildConfigs d.mConnector.mModes (u32 S) ∅ = m at *
  have hspan := u32_of_nat hlt ▸ hbuilt.spans
  obtain ⟨index, -, active, hactive, h⟩ := updateActiveConfig_cases scaled
    (d := { d with mStartConfigId := S, mConfigs := m }) hbuilt
  obtain ⟨hwidth, hrate⟩ := hcrowd _ (mem_entries_of_lookup hactive)
  have hkept : keepRate m active.refreshRateHz = m :=
    keepRate_self fun e he => (hcrowd e he).2.trans hrate.symm
  obtain ⟨size, hcustom⟩ := customize_scaled active.height hwidth
  rcases h with ⟨hnone, -⟩ | ⟨size', -, h⟩
  · exact absurd (hcustom.symm.trans hnone) (by simp)
  obtain ⟨hid, hconfigs, -⟩ := h
  dsimp only at hid hconfigs
  rw [hkept] at hid hconfigs
  -- nor has the largest of the consecutive ids
  obtain ⟨hlast, hmax⟩ := idMax_spans hspan hpos hsize (by omega)
  have hlast31 := hkeys _ (hconfigs ▸ mem_emplace.mpr (Or.inr hlast))
  have hid' := afterMax_spans (S := S) hpos hmax (lt_of_le_of_lt hlast31 hb)
  -- nor the custom one
  rw [hid, hid'] at hactive₀ hactive₁
  have hid31 := i32_nonneg (by omega) (by omega) hactive₀
  rw [i32_of_lt (by omega) hid31] at hactive₁
  refine ⟨?_, by omega⟩
  have hnew : u32 (i32 ((2 * S + n : ℕ) : ℤ)) ∉ m := by
    rw [u32_i32, u32_of_nat (by omega)]
    intro hin
    have := le_idMax hin
    omega
  rw [hconfigs, hid, hid', emplace_entries _ hnew, List.length_cons, hsize]

/-- `k` times unplugging and plugging in the crowd. -/
def replug (n : ℕ) (hn : n < 2 ^ 31) : ℕ → List (Option Report)
  | 0 => []
  | k + 1 => replug n hn k ++ [some plugOut, some (crowdIn n hn)]

theorem cycles_append (pf : Platform) (as bs : List (Option Report)) (d : DrmDisplay) :
    cycles pf d (as ++ bs) = cycles pf d as + cycles pf (run (handleHotplug pf) d as) bs := by
  induction as generalizing d with
  | nil => simp [cycles, run]
  | cons r as ih => rw [List.cons_append, cycles, cycles, ih, run_cons, Nat.add_assoc]

/-- The display of the fastest run after `k` cycles. -/
structure Fastest (n k : ℕ) (d : DrmDisplay) : Prop where
  status : d.mConnector.mStatus = .DRM_MODE_CONNECTED
  primary : d.mIsPrimary = true
  start : d.mStartConfigId = base n k
  size : d.mConfigs.entries.length = n + 1

/-- After a placeholder with id `id` the base of the next connect is `2 id + 1`. -/
theorem placeholder_next (pf : Platform) {d : DrmDisplay} {id : ℕ}
    (hid : d.mStartConfigId + d.mConfigs.entries.length = id) (hlt : id < 2 ^ 31) :
    afterMax (d.placeholderDisplayConfigs pf).mStartConfigId
      (d.placeholderDisplayConfigs pf).mConfigs = i32 ((2 * id + 1 : ℕ) : ℤ) := by
  have hkeys := placeholder_keys pf d
  rw [hid, i32_of_nat hlt, u32_of_nat (by omega)] at hkeys
  have hmax : idMax (d.placeholderDisplayConfigs pf).mConfigs = id :=
    le_antisymm (idMax_le.mpr fun k hk => le_of_eq ((hkeys k).mp hk)) (le_idMax ((hkeys id).mpr rfl))
  have hstart : (d.placeholderDisplayConfigs pf).mStartConfigId = id :=
    (congrArg i32 hid).trans (i32_of_nat hlt)
  have hsum : (id : ℤ) + id + 1 = ((2 * id + 1 : ℕ) : ℤ) := by omega
  rw [afterMax, hmax, hstart, i32_of_nat hlt, i32_i32_add, hsum]

/-- The connector of a display that is plugged out. -/
def unplugged : DrmConnector := ⟨.DRM_MODE_DISCONNECTED, [], plugOut.count_lt⟩

theorem Fastest.unplug {n k : ℕ} {d : DrmDisplay} (h : Fastest n k d) :
    handleHotplug scaled d (some plugOut) =
      { d with mConnector := unplugged }.placeholderDisplayConfigs scaled := by
  have hupdate : (d.mConnector.update (some plugOut)).2 = unplugged := by
    simp [DrmConnector.update, plugOut, h.status, unplugged]
  have hon : d.mConnector.isConnected = true := by simp [DrmConnector.isConnected, h.status]
  have hoff : unplugged.isConnected = false := rfl
  simp [handleHotplug, DrmDisplay.checkAndHandleHotplug, DrmDisplay.onDisconnect, hupdate, hon, hoff,
    h.primary]

/-- The connector with the crowd. -/
def plugged (n : ℕ) (hn : n < 2 ^ 31) : DrmConnector :=
  ⟨.DRM_MODE_CONNECTED, crowd n, by simpa [crowd] using hn⟩

theorem crowd_ne_nil {n : ℕ} (hpos : 1 ≤ n) : crowd n ≠ [] := by
  intro h
  have hlen := congrArg List.length h
  simp only [crowd, List.length_map, List.length_range, List.length_nil] at hlen
  omega

theorem update_crowd {c : DrmConnector} {n : ℕ} (hpos : 1 ≤ n) (hn : n < 2 ^ 31)
    (hoff : c.mStatus ≠ .DRM_MODE_CONNECTED) :
    c.update (some (crowdIn n hn)) = (true, plugged n hn) := by
  have hnew : (crowdIn n hn).connection ≠ c.mStatus := hoff.symm
  have hall : ¬ (crowdIn n hn).created < (crowdIn n hn).modes.length := by simp [crowdIn, crowd]
  have hmodes : (crowdIn n hn).modes ≠ [] := crowd_ne_nil hpos
  rw [DrmConnector.update, if_neg hnew, if_neg hall, if_neg hmodes]
  rfl

theorem plug_crowd {d : DrmDisplay} {n : ℕ} (hpos : 1 ≤ n) (hn : n < 2 ^ 31)
    (hoff : d.mConnector = unplugged) :
    handleHotplug scaled d (some (crowdIn n hn)) =
      { d with mConnector := plugged n hn }.updateDisplayConfigs scaled := by
  have hupdate := @update_crowd d.mConnector n hpos hn (by rw [hoff, unplugged]; decide)
  have hold : d.mConnector.isConnected = false := by rw [hoff]; rfl
  have hon : (plugged n hn).isConnected = true := rfl
  simp [handleHotplug, DrmDisplay.checkAndHandleHotplug, hupdate, hold, hon]

/-- One cycle of the fastest run, while the ids stay within a bound. -/
theorem Fastest.cycle {n k bound : ℕ} {d : DrmDisplay} (h : Fastest n k d) (hpos : 1 ≤ n)
    (hn : n < 2 ^ 31) (hb : bound < 2 ^ 31) (hlt : base n k + n + 1 < 2 ^ 31)
    (hw : Within bound (run (handleHotplug scaled) d [some plugOut, some (crowdIn n hn)])) :
    Fastest n (k + 1) (run (handleHotplug scaled) d [some plugOut, some (crowdIn n hn)]) ∧
      2 * base n (k + 1) + n ≤ bound := by
  set e := { d with mConnector := unplugged }.placeholderDisplayConfigs scaled with he
  have hrun : run (handleHotplug scaled) d [some plugOut, some (crowdIn n hn)] =
      { e with mConnector := plugged n hn }.updateDisplayConfigs scaled := by
    rw [run_cons, run_cons, h.unplug, ← he, plug_crowd hpos hn rfl]
    rfl
  have hid : d.mStartConfigId + d.mConfigs.entries.length = (base n k + n + 1 : ℕ) := by
    rw [h.start, h.size]
    push_cast
    ring
  have hnext : afterMax e.mStartConfigId e.mConfigs = i32 (base n (k + 1)) :=
    @placeholder_next scaled { d with mConnector := unplugged } _ hid hlt
  rw [hrun] at hw ⊢
  obtain ⟨hstart, hsize, hle⟩ := crowd_connect (d := { e with mConnector := plugged n hn }) hpos hn hb
    rfl hnext (by rw [base]; omega) hw
  have hframe := updateDisplayConfigs_frame scaled { e with mConnector := plugged n hn }
  exact ⟨⟨by rw [hframe.1]; rfl, hframe.2.1.trans h.primary, hstart, hsize⟩, hle⟩

theorem Fastest.cycles_eq {n k : ℕ} {d : DrmDisplay} (h : Fastest n k d) (hpos : 1 ≤ n)
    (hn : n < 2 ^ 31) : cycles scaled d [some plugOut, some (crowdIn n hn)] = 1 := by
  have hon : d.mConnector.isConnected = true := by simp [DrmConnector.isConnected, h.status]
  have hoff : ({ d with mConnector := unplugged }.placeholderDisplayConfigs
      scaled).mConnector.isConnected = false := rfl
  have hagain : (handleHotplug scaled ({ d with mConnector := unplugged }.placeholderDisplayConfigs
      scaled) (some (crowdIn n hn))).mConnector.isConnected = true := by
    rw [plug_crowd hpos hn rfl, (updateDisplayConfigs_frame scaled _).1]
    rfl
  simp [cycles, h.unplug, hon, hoff, hagain]

/-- The display that is loaded with the crowd. -/
def crowded (n : ℕ) (hn : n < 2 ^ 31) : DrmDisplay :=
  { (DrmDisplay.new (plugged n hn)).updateDisplayConfigs scaled with mIsPrimary := true }

theorem loadPrimary_crowd {n : ℕ} (hpos : 1 ≤ n) (hn : n < 2 ^ 31) :
    loadPrimary scaled (some (crowdIn n hn)) = some (crowded n hn) := by
  have hupdate := @update_crowd DrmConnector.new n hpos hn (by decide)
  have hon : ((DrmDisplay.new (plugged n hn)).updateDisplayConfigs scaled).mConnector.isConnected =
      true := by
    rw [(updateDisplayConfigs_frame scaled _).1]
    rfl
  simp [loadPrimary, load, hupdate, setHwcPrimaryDisplay, hon, crowded]

/-- The fastest run reaches the largest id, as long as all its ids stay within the bound. -/
theorem replug_fastest {n bound K : ℕ} (hpos : 1 ≤ n) (hn : n < 2 ^ 31) (hb : bound < 2 ^ 31)
    (hids : IdsWithin K n bound) (k : ℕ) (hk : k ≤ K) :
    cycles scaled (crowded n hn) (replug n hn k) = k ∧
      Fastest n k (run (handleHotplug scaled) (crowded n hn) (replug n hn k)) ∧
      2 * base n k + n ≤ bound := by
  have hcount : ∀ k, ∀ r ∈ replug n hn k, modeCount r ≤ n := by
    intro k r hr
    induction k with
    | zero => exact absurd hr List.not_mem_nil
    | succ k ih =>
      rcases List.mem_append.mp hr with hr | hr
      · exact ih hr
      · rcases List.mem_pair.mp hr with rfl | rfl
        · exact Nat.zero_le n
        · simp [modeCount, crowdIn, crowd]
  have hcrowd : modeCount (some (crowdIn n hn)) ≤ n := by simp [modeCount, crowdIn, crowd]
  have hload := loadPrimary_crowd hpos hn
  induction k with
  | zero =>
    have hw := hids scaled _ _ [] hload hcrowd (fun r hr => absurd hr List.not_mem_nil) (Nat.zero_le K)
    have hfirst : afterMax 0 ∅ = i32 (1 : ℕ) := by decide
    obtain ⟨hstart, hsize, hle⟩ := @crowd_connect n bound 1 (DrmDisplay.new (plugged n hn)) hpos hn hb
      rfl hfirst (by decide) ⟨hw.1, hw.2⟩
    have hframe := updateDisplayConfigs_frame scaled (DrmDisplay.new (plugged n hn))
    exact ⟨rfl, ⟨by exact congrArg DrmConnector.mStatus hframe.1, rfl, hstart, hsize⟩, hle⟩
  | succ k ih =>
    obtain ⟨hcycles, hfast, hle⟩ := ih (by omega)
    have hbase := base_pos n k
    have hone := hfast.cycles_eq hpos hn
    have hall : cycles scaled (crowded n hn) (replug n hn (k + 1)) = k + 1 := by
      rw [replug, cycles_append, hcycles, hone]
    have hw := hids scaled _ _ (replug n hn (k + 1)) hload hcrowd (hcount (k + 1)) (by omega)
    have hrun : run (handleHotplug scaled) (crowded n hn) (replug n hn (k + 1)) =
        run (handleHotplug scaled) (run (handleHotplug scaled) (crowded n hn) (replug n hn k))
          [some plugOut, some (crowdIn n hn)] := by rw [replug, run_append]
    obtain ⟨hnext, hle'⟩ := hfast.cycle hpos hn hb (by omega) (hrun ▸ hw)
    exact ⟨hall, hrun ▸ hnext, hle'⟩

theorem IdsWithin.mono {k n n' bound : ℕ} (h : IdsWithin k n bound) (hn : n' ≤ n) :
    IdsWithin k n' bound := by
  intro pf r d rs hload hr hrs hk
  exact h pf r d rs hload (hr.trans hn) (fun r' hr' => (hrs r' hr').trans hn) hk

/-- CORRECT: the ids of all runs of at most `k` cycles with at most `n` modes in each list stay within
    a bound below `2 ^ 31` exactly if `(2 ^ (k + 2) - 3) * (n + 2)` does. -/
theorem ids_within_iff (k n bound : ℕ) (hn : 1 ≤ n) (hb : bound < 2 ^ 31) :
    IdsWithin k n bound ↔ (2 ^ (k + 2) - 3) * (n + 2) ≤ bound := by
  rw [← largest_eq]
  constructor
  · intro hids
    -- no report has more than `2 ^ 31 - 1` modes, and already those would not fit
    have hmin : min n (2 ^ 31 - 1) < 2 ^ 31 := by omega
    obtain ⟨-, -, hle⟩ := replug_fastest (by omega) hmin hb (hids.mono (min_le_left _ _)) k (le_refl k)
    have hbase := base_pos (min n (2 ^ 31 - 1)) k
    have heq : min n (2 ^ 31 - 1) = n := by omega
    rwa [heq] at hle
  · intro hle pf r d rs hload hr hrs hk
    have hbase := base_mono n (Nat.zero_le k)
    have hd := loadPrimary_grown hload hr (by omega)
    have hrun := @run_grown pf n k rs d 0 hd hrs (by omega) (lt_of_le_of_lt hle hb)
    refine hrun.within ?_
    have := base_mono n (show 0 + cycles pf d rs ≤ k by omega)
    omega

/-- With one mode, 27 cycles stay below `2 ^ 31`. -/
theorem ids_within_one_mode : IdsWithin 27 1 (2 ^ 31 - 1) :=
  (ids_within_iff 27 1 (2 ^ 31 - 1) (by decide) (by decide)).mpr (by decide)

/-- The display of one mode, unplugged and plugged in `k` times. -/
def replugOne (k : ℕ) : List (Option Report) :=
  (List.replicate k [some plugOut, some (plugIn 1)]).flatten

/-- Thirty cycles with one mode, without a custom UI size, take the base out of the range of an
    `int`; the ids would have been far below `2 ^ 31` with two new ones for each cycle. -/
theorem overflow_after_thirty :
    30 < 2 ^ 31 / (1 + 1) ∧
      loadPrimary plain (some (plugIn 1)) = some (setHwcPrimaryDisplay plain loaded true) ∧
      (∀ r ∈ replugOne 30, modeCount r ≤ 1) ∧
      cycles plain (setHwcPrimaryDisplay plain loaded true) (replugOne 30) = 30 ∧
      (run (handleHotplug plain) (setHwcPrimaryDisplay plain loaded true)
        (replugOne 30)).mStartConfigId = -3 :=
  ⟨by decide, rfl, by decide +kernel, by decide +kernel, by decide +kernel⟩

end ImxHal.Hwc3.Configs
