import Mathlib.Data.Nat.Dist
import Mathlib.Data.Prod.Lex
import ImxHal.Schemes.Champion
import ImxHal.Hwc3.ConfigValid

/-! @src display/hwcomposer3/DrmDisplay.cpp (updateActiveConfig), display/hwcomposer3/DrmConnector.cpp (buildConfigs),
    display/hwcomposer3/Common.cpp (parseDisplayMode) | name:The choice of a mode | scheme:champion |
    family:state machine

    `updateActiveConfig` takes the first config that is nearest to the mode of the boot arguments. What is nearest is
    found with `abs` of an `int`, so the distance of two numbers goes round at 32 bits:

        requested   3000000000                         1294967296 = 2^32 - 3000000000
        config      1920        ── 2999998080 apart     ── 1294969216 round the other way
        config      3840        ── 2999996160 apart     ── 1294971136 round the other way

    A requested number above 2^31 is nearest to the smallest config and not to the largest. -/

namespace ImxHal.Hwc3.Configs
open ImxHal.Run ImxHal.Ledger ImxHal.Hwc3.Frame ImxHal.Champion

/-! ### What is to hold -/

/-- The config with number `i` of a display. -/
def configOfIndex (d : DrmDisplay) (i : ℕ) : Config := configAt d.mConfigs ((u32 d.mStartConfigId + i) % 2 ^ 32)

/-- `DRM_MODE_TYPE_PREFERRED`. -/
def Preferred (cfg : Config) : Prop := cfg.modeType &&& 8 ≠ 0

instance (cfg : Config) : Decidable (Preferred cfg) := inferInstanceAs (Decidable (_ ≠ _))

/-- How far a config is from the requested mode: by its size, then by its refresh rate. -/
def distance (boot : BootMode) (cfg : Config) : ℕ ×ₗ ℕ :=
  toLex (Nat.dist boot.width cfg.width + Nat.dist boot.height cfg.height, Nat.dist boot.vrefresh cfg.refreshRateHz)

/-- The first preferred config where one is asked for, and else the first of the nearest. -/
def Chosen (boot : BootMode) (at' : ℕ → Config) (n i : ℕ) : Prop :=
  if boot.prefered ∧ ∃ j < n, Preferred (at' j) then i < n ∧ Preferred (at' i) ∧ ∀ j < i, ¬ Preferred (at' j)
  else First (fun j => distance boot (at' j)) n i

/-- The choice, and the configs after it. -/
structure RightChoice (pf : Platform) (d : DrmDisplay) : Prop where
  chosen : Chosen pf.displaymode (configOfIndex d) d.mConfigs.entries.length (bestIndex pf d)
  taken : Taken pf d (bestIndex pf d) (configOfIndex d (bestIndex pf d))
  key : u32 (d.updateActiveConfig pf).mActiveConfigId ∈ (d.updateActiveConfig pf).mConfigs
  rates : ∀ e ∈ (d.updateActiveConfig pf).mConfigs.entries,
    e.2.refreshRateHz = (d.updateActiveConfig pf).mActiveConfig.refreshRateHz

/-- A list of configs as a connect builds it, with sizes of 16 bits and refresh rates up to `n`. -/
structure Listed (n : ℕ) (d : DrmDisplay) : Prop where
  built : Built d.mStartConfigId d.mConfigs.entries.length d.mConfigs
  sizes : ∀ e ∈ d.mConfigs.entries, e.2.width < 2 ^ 16 ∧ e.2.height < 2 ^ 16
  rates : ∀ e ∈ d.mConfigs.entries, e.2.refreshRateHz ≤ n

/-- The three numbers are those of `uint32_t`. -/
structure BootMode.IsUInt32 (boot : BootMode) : Prop where
  width : boot.width < 2 ^ 32
  height : boot.height < 2 ^ 32
  vrefresh : boot.vrefresh < 2 ^ 32

/-- No config is further away than half of the 32 bits. -/
structure InRange (n : ℕ) (boot : BootMode) : Prop where
  width : boot.width ≤ 2 ^ 31
  height : boot.height ≤ 2 ^ 31
  size : boot.width + boot.height < 2 ^ 32
  vrefresh : boot.vrefresh ≤ 2 ^ 31
  rates : n ≤ boot.vrefresh + 2 ^ 31

/-! ### Distances in 32 bits -/

/-- The distance that the search compares. -/
def foundDistance (boot : BootMode) (cfg : Config) : ℕ ×ₗ ℕ :=
  toLex ((absDiff boot.width cfg.width + absDiff boot.height cfg.height) % 2 ^ 32,
    absDiff boot.vrefresh cfg.refreshRateHz)

theorem foundDistance_snd (boot : BootMode) (cfg : Config) :
    (ofLex (foundDistance boot cfg)).2 = absDiff boot.vrefresh cfg.refreshRateHz := by
  rw [foundDistance, ofLex_toLex]

/-- `abs` of an `int` is the shorter way round. -/
theorem absDiff_eq {a b : ℕ} (ha : a < 2 ^ 32) (hb : b < 2 ^ 32) :
    absDiff a b = if Nat.dist a b ≤ 2 ^ 31 then Nat.dist a b else 2 ^ 32 - Nat.dist a b := by
  have hdiff : i32 (i32 a - i32 b) = i32 (a - b) := by
    simp only [i32, Int.bmod_sub_bmod, Int.sub_bmod_bmod]
  rw [absDiff, hdiff, i32, Int.bmod_def, Nat.dist]
  split_ifs <;> omega

/-- Within half of the 32 bits it is the distance. -/
theorem absDiff_near {a b : ℕ} (ha : a ≤ 2 ^ 31) (hb : b < 2 ^ 32) (hab : b ≤ a + 2 ^ 31) :
    absDiff a b = Nat.dist a b := by
  have hdist : Nat.dist a b ≤ 2 ^ 31 := by
    rw [Nat.dist]
    omega
  rw [absDiff_eq (by omega) hb, if_pos hdist]

theorem foundDistance_eq {n : ℕ} (hn32 : n < 2 ^ 32) {boot : BootMode} (h : InRange n boot) {cfg : Config}
    (hsize : cfg.width < 2 ^ 16 ∧ cfg.height < 2 ^ 16) (hrate : cfg.refreshRateHz ≤ n) :
    foundDistance boot cfg = distance boot cfg := by
  obtain ⟨hw, hh, hsum, hr, hn⟩ := h
  have hfits : Nat.dist boot.width cfg.width + Nat.dist boot.height cfg.height < 2 ^ 32 := by
    simp only [Nat.dist]
    omega
  rw [foundDistance, distance, absDiff_near hw (by omega) (by omega), absDiff_near hh (by omega) (by omega),
    absDiff_near hr (by omega) (by omega), Nat.mod_eq_of_lt hfits]

/-! ### The search -/

section
variable (boot : BootMode) (at' : ℕ → Config)

/-- The place kept of two, the later one where it is nearer. -/
def nearer (c i : ℕ) : ℕ := if foundDistance boot (at' i) < foundDistance boot (at' c) then i else c

/-- One round of the search, from a place with its own distance. -/
theorem findBest_cons (i : ℕ) (is : List ℕ) (c : ℕ) (hpref : ¬ (boot.prefered ∧ Preferred (at' i))) :
    findBest boot at' (i :: is) c (ofLex (foundDistance boot (at' c))).1 =
      findBest boot at' is (nearer boot at' c i) (ofLex (foundDistance boot (at' (nearer boot at' c i)))).1 := by
  have hlt : foundDistance boot (at' i) < foundDistance boot (at' c) ↔
      (ofLex (foundDistance boot (at' i))).1 < (ofLex (foundDistance boot (at' c))).1 ∨
        (ofLex (foundDistance boot (at' i))).1 = (ofLex (foundDistance boot (at' c))).1 ∧
          absDiff boot.vrefresh (at' i).refreshRateHz < absDiff boot.vrefresh (at' c).refreshRateHz := by
    rw [Prod.Lex.lt_iff, foundDistance_snd, foundDistance_snd]
  have hround : findBest boot at' (i :: is) c (ofLex (foundDistance boot (at' c))).1 =
      if (ofLex (foundDistance boot (at' i))).1 < (ofLex (foundDistance boot (at' c))).1 then
        findBest boot at' is i (ofLex (foundDistance boot (at' i))).1
      else if (ofLex (foundDistance boot (at' i))).1 = (ofLex (foundDistance boot (at' c))).1 ∧
          absDiff boot.vrefresh (at' i).refreshRateHz < absDiff boot.vrefresh (at' c).refreshRateHz then
        findBest boot at' is i (ofLex (foundDistance boot (at' c))).1
      else findBest boot at' is c (ofLex (foundDistance boot (at' c))).1 := if_neg hpref
  rw [hround, nearer]
  by_cases hsize : (ofLex (foundDistance boot (at' i))).1 < (ofLex (foundDistance boot (at' c))).1
  · rw [if_pos hsize, if_pos (hlt.mpr (.inl hsize))]
  · rw [if_neg hsize]
    by_cases hrate : (ofLex (foundDistance boot (at' i))).1 = (ofLex (foundDistance boot (at' c))).1 ∧
        absDiff boot.vrefresh (at' i).refreshRateHz < absDiff boot.vrefresh (at' c).refreshRateHz
    · rw [if_pos hrate, if_pos (hlt.mpr (.inr hrate)), hrate.1]
    · rw [if_neg hrate, if_neg fun h => (hlt.mp h).elim hsize hrate]

/-- The first preferred config ends the search. -/
theorem findBest_eq (is : List ℕ) (c : ℕ) :
    findBest boot at' is c (ofLex (foundDistance boot (at' c))).1 =
      (is.find? fun i => boot.prefered ∧ Preferred (at' i)).getD (is.foldl (nearer boot at') c) := by
  induction is generalizing c with
  | nil => rfl
  | cons i is ih =>
    rw [List.foldl_cons, List.find?_cons]
    by_cases hpref : boot.prefered ∧ Preferred (at' i)
    · rw [decide_eq_true hpref]
      exact if_pos hpref
    · rw [decide_eq_false hpref, findBest_cons boot at' i is c hpref]
      exact ih _

/-- The search from the start: the first config is kept whatever its distance. -/
theorem findBest_range {n : ℕ} (hn : 0 < n) : findBest boot at' (List.range n) 0 (2 ^ 32 - 1) =
    ((List.range n).find? fun i => boot.prefered ∧ Preferred (at' i)).getD
      ((List.range n).foldl (nearer boot at') 0) := by
  obtain ⟨m, rfl⟩ := Nat.exists_eq_succ_of_ne_zero hn.ne'
  have hfirst : nearer boot at' 0 0 = 0 := if_neg (lt_irrefl _)
  rw [← findBest_eq, List.range_succ_eq_map]
  by_cases hpref : boot.prefered ∧ Preferred (at' 0)
  · exact (if_pos hpref).trans (if_pos hpref).symm
  · rw [findBest_cons boot at' 0 _ 0 hpref, hfirst]
    have hfits : (ofLex (foundDistance boot (at' 0))).1 < 2 ^ 32 := Nat.mod_lt _ (by decide)
    have hround : findBest boot at' (0 :: (List.range m).map Nat.succ) 0 (2 ^ 32 - 1) =
        if (ofLex (foundDistance boot (at' 0))).1 < 2 ^ 32 - 1 then
          findBest boot at' ((List.range m).map Nat.succ) 0 (ofLex (foundDistance boot (at' 0))).1
        else if (ofLex (foundDistance boot (at' 0))).1 = 2 ^ 32 - 1 ∧
            absDiff boot.vrefresh (at' 0).refreshRateHz < absDiff boot.vrefresh (at' 0).refreshRateHz then
          findBest boot at' ((List.range m).map Nat.succ) 0 (2 ^ 32 - 1)
        else findBest boot at' ((List.range m).map Nat.succ) 0 (2 ^ 32 - 1) := if_neg hpref
    rw [hround, ite_self]
    split_ifs with hlt
    · rfl
    · -- the largest distance is the one the search starts with
      have hmax : (ofLex (foundDistance boot (at' 0))).1 = 2 ^ 32 - 1 := by omega
      rw [hmax]

/-- The search chooses as it should, by the distances that it finds. -/
theorem findBest_chosen {n : ℕ} (hn : 0 < n) {i : ℕ} (hi : i = findBest boot at' (List.range n) 0 (2 ^ 32 - 1)) :
    if boot.prefered ∧ ∃ j < n, Preferred (at' j) then i < n ∧ Preferred (at' i) ∧ ∀ j < i, ¬ Preferred (at' j)
    else First (fun j => foundDistance boot (at' j)) n i := by
  rw [findBest_range boot at' hn] at hi
  split_ifs with hpref
  · obtain ⟨hasked, j, hj, hfound⟩ := hpref
    cases hfind : (List.range n).find? fun i => boot.prefered ∧ Preferred (at' i) with
    | none =>
      rw [List.find?_eq_none] at hfind
      exact absurd (decide_eq_true ⟨hasked, hfound⟩) (hfind j (List.mem_range.mpr hj))
    | some k =>
      rw [hfind, Option.getD_some] at hi
      obtain ⟨hk, hmem, hbefore⟩ := List.find?_range_eq_some.mp hfind
      rw [hi]
      refine ⟨List.mem_range.mp hmem, (of_decide_eq_true hk).2, fun j hj hpref => ?_⟩
      have hno := hbefore j hj
      simp [hasked, hpref] at hno
  · have hnone : ((List.range n).find? fun i => boot.prefered ∧ Preferred (at' i)) = none := by
      rw [List.find?_eq_none]
      intro j hj hfound
      exact hpref ⟨(of_decide_eq_true hfound).1, j, List.mem_range.mp hj, (of_decide_eq_true hfound).2⟩
    rw [hnone, Option.getD_none] at hi
    rw [hi]
    exact first_scan _ hn

end

/-! ### The display after the choice -/

section
variable {pf : Platform} {d : DrmDisplay} {n : ℕ}

theorem configOfIndex_mem {count i : ℕ} (hb : Built d.mStartConfigId count d.mConfigs)
    (hi : i < d.mConfigs.entries.length) : ∃ k, ⟨k, configOfIndex d i⟩ ∈ d.mConfigs.entries :=
  ⟨_, mem_entries_of_lookup (configAt_of_mem ((hb.spans _).mpr ⟨i, hi, rfl⟩))⟩

/-- All that is to hold beside the choice does so for every list of configs. -/
theorem rightChoice_iff {count : ℕ} (hb : Built d.mStartConfigId count d.mConfigs) : RightChoice pf d ↔
    Chosen pf.displaymode (configOfIndex d) d.mConfigs.entries.length (bestIndex pf d) := by
  refine ⟨RightChoice.chosen, fun hchosen => ?_⟩
  obtain ⟨-, active, hactive, htaken⟩ := updateActiveConfig_taken pf hb
  have hat : configOfIndex d (bestIndex pf d) = active := configAt_of_lookup hactive
  refine ⟨hchosen, hat ▸ htaken, ?_, ?_⟩
  · rcases htaken with ⟨-, h⟩ | ⟨size, -, h⟩
    · have hkept := mem_keepRate.mpr ⟨mem_entries_of_lookup hactive, rfl⟩
      rw [h.configs, h.id, u32_i32, u32_add]
      exact AList.lookup_isSome.mp (Option.isSome_iff_exists.mpr ⟨active, AList.mem_lookup_iff.mpr hkept⟩)
    · rw [h.configs]
      exact mem_emplace.mpr (.inl rfl)
  · rcases htaken with ⟨-, h⟩ | ⟨size, -, h⟩
    · intro e he
      rw [h.configs] at he
      rw [h.config]
      exact (mem_keepRate.mp he).2
    · have hrate : ∀ e ∈ (d.updateActiveConfig pf).mConfigs.entries, e.2.refreshRateHz = active.refreshRateHz := by
        intro e he
        rw [h.configs] at he
        rcases mem_entries_emplace he with rfl | he
        · rfl
        · exact (mem_keepRate.mp he).2
      intro e he
      exact (hrate e he).trans (hrate _ (mem_entries_of_lookup h.config)).symm

/-- SUFFICIENT: with numbers in range the distances that are found are those of the configs. -/
theorem rightChoice_of_inRange (hn : n < 2 ^ 32) (hrange : InRange n pf.displaymode) (hd : Listed n d) :
    RightChoice pf d := by
  have hchosen := findBest_chosen pf.displaymode (configOfIndex d) hd.built.nonempty (i := bestIndex pf d) rfl
  rw [rightChoice_iff hd.built, Chosen]
  split_ifs at hchosen ⊢ with hpref
  · exact hchosen
  · refine (first_congr fun j hj => ?_).mp hchosen
    obtain ⟨k, hk⟩ := configOfIndex_mem hd.built hj
    exact foundDistance_eq hn hrange (hd.sizes _ hk) (hd.rates _ hk)

/-! ### Two configs -/

/-- A display with two modes. -/
def ofModes (mode mode' : DrmMode) : DrmDisplay :=
  { DrmDisplay.new DrmConnector.new with mStartConfigId := 1, mConfigs := buildConfigs [mode, mode'] 1 ∅ }

theorem ofModes_listed {mode mode' : DrmMode} (h : mode.refreshRateHz ≤ n) (h' : mode'.refreshRateHz ≤ n) :
    Listed n (ofModes mode mode') := by
  have hbuilt := buildConfigs_built ⟨.DRM_MODE_CONNECTED, [mode, mode'], by simp⟩ 1 (List.cons_ne_nil _ _)
  have hmode (e : Σ _ : ℕ, Config) (he : e ∈ (ofModes mode mode').mConfigs.entries) :
      e.2 = configOf mode ∨ e.2 = configOf mode' := by
    rcases mem_buildConfigs [mode, mode'] 1 ∅ he with hmem | ⟨m, hm, heq⟩
    · exact absurd hmem List.not_mem_nil
    · simp only [List.mem_cons, List.not_mem_nil, or_false] at hm
      rcases hm with rfl | rfl
      · exact .inl heq
      · exact .inr heq
  refine ⟨⟨hbuilt.spans, hbuilt.nonempty, le_refl _⟩, fun e he => ?_, fun e he => ?_⟩
  · rcases hmode e he with heq | heq <;> rw [heq] <;> exact ⟨UInt16.toNat_lt _, UInt16.toNat_lt _⟩
  · rcases hmode e he with heq | heq <;> rw [heq]
    · exact h
    · exact h'

theorem ofModes_configs {mode mode' : DrmMode} (h : sameConfig (configOf mode) (configOf mode') = false) :
    (ofModes mode mode').mConfigs.entries.length = 2 ∧ configOfIndex (ofModes mode mode') 0 = configOf mode ∧
      configOfIndex (ofModes mode mode') 1 = configOf mode' := by
  have hfirst : (1 : ℕ) ∉ (∅ : HalConfig) := AList.notMem_empty 1
  have hone : (emplace (∅ : HalConfig) 1 (configOf mode)).entries = [⟨1, configOf mode⟩] :=
    emplace_entries _ hfirst
  have hsecond : (2 : ℕ) ∉ emplace (∅ : HalConfig) 1 (configOf mode) := by
    rw [mem_emplace]
    rintro (h | h)
    · exact absurd h (by decide)
    · exact absurd h (AList.notMem_empty 2)
  have hconfigs : (ofModes mode mode').mConfigs = emplace (emplace ∅ 1 (configOf mode)) 2 (configOf mode') := by
    have hany : ((emplace (∅ : HalConfig) 1 (configOf mode)).entries.any fun e => sameConfig e.2 (configOf mode')) =
        false := by
      rw [hone, List.any_cons, List.any_nil, Bool.or_false]
      exact h
    simp only [ofModes, buildConfigs]
    rw [if_neg (by simp), if_neg (by rw [hany]; decide)]
    rfl
  have htwo : (ofModes mode mode').mConfigs.entries = [⟨2, configOf mode'⟩, ⟨1, configOf mode⟩] := by
    rw [hconfigs, emplace_entries _ hsecond, hone]
  have hat (k : ℕ) (cfg : Config) (hmem : ⟨k, cfg⟩ ∈ (ofModes mode mode').mConfigs.entries) :
      configAt (ofModes mode mode').mConfigs k = cfg := configAt_of_lookup (AList.mem_lookup_iff.mpr hmem)
  refine ⟨by rw [htwo]; rfl, hat 1 _ ?_, hat 2 _ ?_⟩
  · rw [htwo]
    simp
  · rw [htwo]
    simp

theorem first_two {K : Type} [LinearOrder K] {key : ℕ → K} {i : ℕ} (h : First key 2 i) : i = 1 ↔ key 1 < key 0 := by
  obtain ⟨hi, hall⟩ := h
  constructor
  · rintro rfl
    exact (hall 0 (by decide)).2 (by decide)
  · intro hlt
    by_contra hne
    obtain rfl : i = 0 := by omega
    exact absurd (hall 1 (by decide)).1 (not_le.mpr hlt)

/-- Where the choice is right for every list, any two modes are ordered as their distances are. -/
theorem ordered (h : ∀ d, Listed n d → RightChoice pf d) (mode mode' : DrmMode) (hrate : mode.refreshRateHz ≤ n)
    (hrate' : mode'.refreshRateHz ≤ n) (htype : mode.type = 0) (htype' : mode'.type = 0)
    (hdiff : sameConfig (configOf mode) (configOf mode') = false) :
    foundDistance pf.displaymode (configOf mode') < foundDistance pf.displaymode (configOf mode) ↔
      distance pf.displaymode (configOf mode') < distance pf.displaymode (configOf mode) := by
  obtain ⟨hlen, hzero, hone⟩ := ofModes_configs hdiff
  have hd := ofModes_listed hrate hrate'
  have hright := (h _ hd).chosen
  have hfound := findBest_chosen pf.displaymode (configOfIndex (ofModes mode mode')) hd.built.nonempty
    (i := bestIndex pf (ofModes mode mode')) rfl
  have hnone : ¬ (pf.displaymode.prefered ∧ ∃ j < 2, Preferred (configOfIndex (ofModes mode mode') j)) := by
    rintro ⟨-, j, hj, hpref⟩
    have hcases : j = 0 ∨ j = 1 := by omega
    rcases hcases with rfl | rfl
    · rw [hzero, Preferred, configOf, htype] at hpref
      exact hpref (Nat.zero_and 8)
    · rw [hone, Preferred, configOf, htype'] at hpref
      exact hpref (Nat.zero_and 8)
  rw [Chosen, hlen, if_neg hnone] at hright
  rw [hlen, if_neg hnone] at hfound
  have hiff := (first_two hfound).symm.trans (first_two hright)
  simpa only [hzero, hone] using hiff

/-! ### Numbers out of range -/

/-- The same of the numbers themselves. -/
theorem ordered_iff (h : ∀ d, Listed n d → RightChoice pf d) (w w' v v' : UInt16) (r r' : ℕ) (hr : r ≤ n)
    (hr' : r' ≤ n) (hdiff : w ≠ w' ∨ v ≠ v' ∨ r ≠ r') :
    (absDiff pf.displaymode.width w'.toNat + absDiff pf.displaymode.height v'.toNat) % 2 ^ 32 <
          (absDiff pf.displaymode.width w.toNat + absDiff pf.displaymode.height v.toNat) % 2 ^ 32 ∨
        (absDiff pf.displaymode.width w'.toNat + absDiff pf.displaymode.height v'.toNat) % 2 ^ 32 =
          (absDiff pf.displaymode.width w.toNat + absDiff pf.displaymode.height v.toNat) % 2 ^ 32 ∧
        absDiff pf.displaymode.vrefresh r' < absDiff pf.displaymode.vrefresh r ↔
      Nat.dist pf.displaymode.width w'.toNat + Nat.dist pf.displaymode.height v'.toNat <
          Nat.dist pf.displaymode.width w.toNat + Nat.dist pf.displaymode.height v.toNat ∨
        Nat.dist pf.displaymode.width w'.toNat + Nat.dist pf.displaymode.height v'.toNat =
          Nat.dist pf.displaymode.width w.toNat + Nat.dist pf.displaymode.height v.toNat ∧
        Nat.dist pf.displaymode.vrefresh r' < Nat.dist pf.displaymode.vrefresh r := by
  have hsame : sameConfig (configOf ⟨w, v, r, 0, 1⟩) (configOf ⟨w', v', r', 0, 1⟩) = false := by
    rw [Bool.eq_false_iff]
    intro hsame
    simp only [sameConfig, configOf, Bool.and_eq_true, decide_eq_true_eq, UInt16.toNat_inj] at hsame
    rcases hdiff with hne | hne | hne
    · exact hne hsame.1.1
    · exact hne hsame.1.2
    · exact hne (of_decide_eq_true hsame.2)
  have hiff := ordered h ⟨w, v, r, 0, 1⟩ ⟨w', v', r', 0, 1⟩ hr hr' rfl rfl hsame
  simpa only [foundDistance, distance, configOf, Prod.Lex.toLex_lt_toLex] using hiff

theorem absDiff_cases {a b : ℕ} (ha : a < 2 ^ 32) (hb : b < 2 ^ 32) :
    (Nat.dist a b ≤ 2 ^ 31 ∧ absDiff a b = Nat.dist a b) ∨
      (2 ^ 31 < Nat.dist a b ∧ absDiff a b = 2 ^ 32 - Nat.dist a b) := by
  rw [absDiff_eq ha hb]
  split_ifs with h
  · exact .inl ⟨h, rfl⟩
  · exact .inr ⟨not_le.mp h, rfl⟩

/-- Beyond half of the 32 bits the number 1 is further round than 0. -/
theorem absDiff_far {a : ℕ} (ha : 2 ^ 31 < a) (ha' : a < 2 ^ 32) :
    absDiff a 0 < absDiff a 1 ∧ absDiff a 1 ≤ 2 ^ 31 ∧ Nat.dist a 1 < Nat.dist a 0 := by
  have hzero := absDiff_cases ha' (b := 0) (by decide)
  have hone := absDiff_cases ha' (b := 1) (by decide)
  simp only [Nat.dist] at *
  omega

/-- One of the two smallest sizes is less than half of the 32 bits away. -/
theorem exists_near {a : ℕ} (ha : a < 2 ^ 32) : ∃ size : UInt16, absDiff a size.toNat < 2 ^ 31 := by
  by_cases hnear : absDiff a 0 < 2 ^ 31
  · exact ⟨0, hnear⟩
  · refine ⟨1, ?_⟩
    change absDiff a 1 < 2 ^ 31
    have hzero := absDiff_cases ha (b := 0) (by decide)
    have hone := absDiff_cases ha (b := 1) (by decide)
    simp only [Nat.dist] at *
    omega

/-- NECESSARY: a number out of range puts two configs in the wrong order. -/
theorem inRange_of_rightChoice (hn : 1 ≤ n ∧ n < 2 ^ 32) (hboot : pf.displaymode.IsUInt32)
    (h : ∀ d, Listed n d → RightChoice pf d) : InRange n pf.displaymode := by
  obtain ⟨hw, hh, hr⟩ := hboot
  have hone : (1 : UInt16).toNat = 1 := rfl
  have hzero : (0 : UInt16).toNat = 0 := rfl
  have hwidth : pf.displaymode.width ≤ 2 ^ 31 := by
    by_contra hfar
    obtain ⟨size, hnear⟩ := exists_near hh
    obtain ⟨hlt, hle, hdist⟩ := absDiff_far (not_le.mp hfar) hw
    have hiff := ordered_iff h 0 1 size size 0 0 (Nat.zero_le n) (Nat.zero_le n) (.inl (by decide))
    rw [hone, hzero] at hiff
    omega
  have hheight : pf.displaymode.height ≤ 2 ^ 31 := by
    by_contra hfar
    obtain ⟨size, hnear⟩ := exists_near hw
    obtain ⟨hlt, hle, hdist⟩ := absDiff_far (not_le.mp hfar) hh
    have hiff := ordered_iff h size size 0 1 0 0 (Nat.zero_le n) (Nat.zero_le n) (.inr (.inl (by decide)))
    rw [hone, hzero] at hiff
    omega
  have hrefresh : pf.displaymode.vrefresh ≤ 2 ^ 31 := by
    by_contra hfar
    obtain ⟨hlt, hle, hdist⟩ := absDiff_far (not_le.mp hfar) hr
    have hiff := ordered_iff h 0 0 0 0 0 1 (Nat.zero_le n) hn.1 (.inr (.inr (by decide)))
    omega
  refine ⟨hwidth, hheight, ?_, hrefresh, ?_⟩
  · by_contra hsum
    -- both are half of the 32 bits, and the sum for an empty config goes round to 0
    have hwhalf : pf.displaymode.width = 2 ^ 31 := by omega
    have hhhalf : pf.displaymode.height = 2 ^ 31 := by omega
    have hiff := ordered_iff h 0 1 0 0 0 0 (Nat.zero_le n) (Nat.zero_le n) (.inl (by decide))
    rw [hwhalf, hhhalf, hone, hzero] at hiff
    have hzeros := absDiff_cases (a := 2 ^ 31) (b := 0) (by decide) (by decide)
    have hones := absDiff_cases (a := 2 ^ 31) (b := 1) (by decide) (by decide)
    simp only [Nat.dist] at *
    omega
  · by_contra hrate
    have hiff := ordered_iff h 0 0 0 0 (pf.displaymode.vrefresh + 2 ^ 31)
      (pf.displaymode.vrefresh + 2 ^ 31 + 1) (by omega) (by omega) (.inr (.inr (by omega)))
    have hnear := absDiff_cases hr (b := pf.displaymode.vrefresh + 2 ^ 31) (by omega)
    have hfar := absDiff_cases hr (b := pf.displaymode.vrefresh + 2 ^ 31 + 1) (by omega)
    simp only [lt_irrefl, false_or, true_and] at hiff
    simp only [Nat.dist] at hiff hnear hfar
    omega

end

/-- CORRECT: the mode is chosen right from every list of configs, and what is left has its refresh rate, if and only
    if no config is further from the requested mode than half of the 32 bits. -/
theorem mode_choice_iff {pf : Platform} {n : ℕ} (hn : 1 ≤ n ∧ n < 2 ^ 32) (hboot : pf.displaymode.IsUInt32) :
    (∀ d, Listed n d → RightChoice pf d) ↔ InRange n pf.displaymode :=
  ⟨inRange_of_rightChoice hn hboot, fun hrange _ hd => rightChoice_of_inRange hn.2 hrange hd⟩

/-- A boot mode of 1920×1080 at 60 Hz, on a display with that mode and a larger one. -/
theorem mode_choice_iff_plain : RightChoice plain (ofModes ⟨3840, 2160, 30, 0, 2⟩ fullHd) := by
  have hiff : (∀ d, Listed 1000 d → RightChoice plain d) ↔ InRange 1000 plain.displaymode :=
    mode_choice_iff (by decide) ⟨by decide, by decide, by decide⟩
  exact hiff.mpr ⟨by decide, by decide, by decide, by decide, by decide⟩ _ (ofModes_listed (by decide) (by decide))

/-- A platform that boots with a width beyond the `int`. -/
def wide : Platform := { plain with displaymode := ⟨3000000000, 1080, 60, false⟩ }

/-- Of 1920×1080 and 3840×2160 the first is taken, although the second is nearer. -/
theorem smaller_taken : Listed 60 (ofModes ⟨1920, 1080, 60, 0, 1⟩ ⟨3840, 2160, 60, 0, 2⟩) ∧
    ¬ RightChoice wide (ofModes ⟨1920, 1080, 60, 0, 1⟩ ⟨3840, 2160, 60, 0, 2⟩) := by
  refine ⟨ofModes_listed (by decide) (by decide), fun h => ?_⟩
  have hfound : bestIndex wide (ofModes ⟨1920, 1080, 60, 0, 1⟩ ⟨3840, 2160, 60, 0, 2⟩) = 0 := by decide +kernel
  have hchosen := h.chosen
  rw [Chosen, if_neg (by rintro ⟨hno, -⟩; exact absurd hno (by decide)), hfound] at hchosen
  exact absurd (hchosen.2 1 (by decide +kernel)).1 (by decide +kernel)

end ImxHal.Hwc3.Configs
