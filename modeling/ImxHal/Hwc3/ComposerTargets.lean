import ImxHal.Schemes.Run
import ImxHal.Schemes.Ledger
import ImxHal.Hwc3.DrmDisplay

/-! @src display/hwcomposer3/DrmClient.cpp (getComposerTarget, setActiveConfigId, resetDisplayConfig,
    setHwcPrimaryDisplay, flushToDisplay, handleHotplug), display/hwcomposer3/DrmDisplay.cpp,
    display/hwcomposer3/DeviceComposer.cpp (prepareDeviceFrameBuffer) |
    name:Composer target buffers | scheme:run, ledger | family:resource ownership

    The targets of the device composer are full-screen buffers kept per display:

        allocate ──▶ mComposerTargets ──secure flip, size change──▶ mExpiredTargets ──▶ freed
                            └────────────────hotplug─────────────────────────────────────▲

    Two exits miss the ledger: `mExpiredTargets.emplace` refuses a display that already has expired
    buffers, and a `prepareDeviceFrameBuffer` that fails midway drops the buffers it has made. -/

namespace ImxHal.Hwc3.Targets
open ImxHal.Run ImxHal.Ledger

/-- The parts of a `DrmDisplay` that decide over its targets: the connection, the configs. -/
structure ConfigDisplay where
  mIsPrimary : Bool
  connected : Bool
  mConfigs : AList fun _ : ℕ => HalDisplayConfig
  mActiveConfigId : ℤ
  mInitActiveConfigId : ℤ
  mStartConfigId : ℤ
  mActiveConfig : HalDisplayConfig
  mUiScaleType : UiScale

/-- Width and height of the framebuffer. -/
def ConfigDisplay.getFramebufferInfo (d : ConfigDisplay) : ℕ × ℕ :=
  if d.mUiScaleType = .software then (d.mActiveConfig.modeWidth, d.mActiveConfig.modeHeight)
  else (d.mActiveConfig.width, d.mActiveConfig.height)

/-- `none` when the config id is not one of the display. -/
def ConfigDisplay.setActiveConfigId (d : ConfigDisplay) (configId : ℤ) : Option ConfigDisplay :=
  match d.mConfigs.lookup (u32 configId) with
  | none => none
  | some config => some { d with mActiveConfigId := configId, mActiveConfig := config }

def ConfigDisplay.resetDisplayConfig (d : ConfigDisplay) : Option ConfigDisplay :=
  d.setActiveConfigId d.mInitActiveConfigId

/-- `defaultConfig` is the config of the build and its custom resolution, for a display that never
    had one. -/
def ConfigDisplay.placeholderDisplayConfigs (d : ConfigDisplay) (defaultConfig : HalDisplayConfig) :
    ConfigDisplay :=
  let start := d.mStartConfigId + d.mConfigs.entries.length
  let config :=
    if d.mActiveConfigId ≥ 0 then
      { d.mActiveConfig with blobId := 0, modeWidth := 0, modeHeight := 0 }
    else defaultConfig
  { d with
    mStartConfigId := start
    mConfigs := AList.singleton (u32 start) config
    mActiveConfigId := start
    mInitActiveConfigId := start
    mActiveConfig := config }

structure G2dComposerTargets where
  handles : List ℕ
  index : ℕ
  security : Bool
  valid : Bool

/-- The client. Buffer handles are numbered in the order they are allocated: `next` of them so far,
    and `freed` lists the calls of `GraphicBufferAllocator::free`. -/
structure DrmClient where
  mDisplays : AList fun _ : ℕ => ConfigDisplay
  mMaxComposerTargetsPerDisplay : ℕ
  targets_pos : 0 < mMaxComposerTargetsPerDisplay
  defaultConfig : HalDisplayConfig
  mComposerTargets : AList fun _ : ℕ => G2dComposerTargets
  mExpiredTargets : AList fun _ : ℕ => List ℕ
  next : ℕ
  freed : List ℕ

/-! ### getComposerTarget -/

structure Prepared where
  buffers : List ℕ
  okay : Bool

/-- The allocation loop from the `i`-th buffer on, with `count` left; `alloc i` tells whether the
    `i`-th allocation succeeds. -/
def prepareDeviceFrameBuffer (alloc : ℕ → Bool) (next : ℕ) :
    (count i : ℕ) → (buffers : List ℕ) → Prepared
  | 0, _, buffers => ⟨buffers, true⟩
  | count + 1, i, buffers =>
    if alloc i then prepareDeviceFrameBuffer alloc next count (i + 1) (buffers ++ [next + i])
    else ⟨buffers, false⟩

/-- The pre-allocated targets of the display can be used again. -/
def reusable (c : DrmClient) (displayId : ℕ) (secure : Bool) : Option G2dComposerTargets :=
  match c.mComposerTargets.lookup displayId with
  | some t => if t.valid ∧ t.security = secure then some t else none
  | none => none

/-- Security or display config change: the previous buffers move to `mExpiredTargets`. -/
def expireTargets (c : DrmClient) (displayId : ℕ) : DrmClient :=
  match c.mComposerTargets.lookup displayId with
  | some origin => { c with
      mExpiredTargets := emplace c.mExpiredTargets displayId origin.handles
      mComposerTargets := c.mComposerTargets.erase displayId }
  | none => c

structure TargetOut where
  error : Error
  handle : Option ℕ
  client : DrmClient

def DrmClient.getComposerTarget (c : DrmClient) (displayId : ℕ) (secure : Bool)
    (alloc : ℕ → Bool) : TargetOut :=
  match c.mDisplays.lookup displayId with
  | none => ⟨.BadDisplay, none, c⟩
  | some _ =>
    match reusable c displayId secure with
    | some t =>
      let index := if t.index + 1 ≥ c.mMaxComposerTargetsPerDisplay then 0 else t.index + 1
      ⟨.None, t.handles[index]?, { c with
        mComposerTargets := c.mComposerTargets.insert displayId { t with index := index } }⟩
    | none =>
      let c := expireTargets c displayId
      let out := prepareDeviceFrameBuffer alloc c.next c.mMaxComposerTargetsPerDisplay 0 []
      let c := { c with next := c.next + out.buffers.length }
      if out.okay = false then ⟨.NoResources, none, c⟩
      else
        ⟨.None, out.buffers[0]?, { c with
          mComposerTargets := emplace c.mComposerTargets displayId ⟨out.buffers, 0, secure, true⟩ }⟩

/-! ### The other entry points -/

/-- The targets of a display whose framebuffer size has changed are marked. -/
def invalidateTargets (c : DrmClient) (displayId : ℕ) (before after : ConfigDisplay) : DrmClient :=
  if before.getFramebufferInfo ≠ after.getFramebufferInfo then
    match c.mComposerTargets.lookup displayId with
    | some t => { c with
        mComposerTargets := c.mComposerTargets.insert displayId { t with valid := false } }
    | none => c
  else c

def DrmClient.setActiveConfigId (c : DrmClient) (displayId : ℕ) (configId : ℤ) :
    Error × DrmClient :=
  match c.mDisplays.lookup displayId with
  | none => (.BadDisplay, c)
  | some d =>
    match d.setActiveConfigId configId with
    | none => (.BadParameter, c)
    | some d' =>
      (.None, invalidateTargets { c with mDisplays := c.mDisplays.replace displayId d' } displayId d d')

/-- The result of the display's own reset is not looked at. -/
def DrmClient.resetDisplayConfig (c : DrmClient) (displayId : ℕ) : Error × DrmClient :=
  match c.mDisplays.lookup displayId with
  | none => (.BadDisplay, c)
  | some d =>
    let d' := d.resetDisplayConfig.getD d
    (.None, invalidateTargets { c with mDisplays := c.mDisplays.replace displayId d' } displayId d d')

def DrmClient.setHwcPrimaryDisplay (c : DrmClient) (displayId : ℕ) (primary : Bool) :
    Error × DrmClient :=
  match c.mDisplays.lookup displayId with
  | none => (.BadDisplay, c)
  | some d =>
    let d := { d with mIsPrimary := primary }
    let d := if d.connected = false then d.placeholderDisplayConfigs c.defaultConfig else d
    (.None, { c with mDisplays := c.mDisplays.replace displayId d })

/-- The end of `flushToDisplay`, after the commit and whatever its result: the expired buffers of
    the display are freed. -/
def freeExpired (c : DrmClient) (displayId : ℕ) : DrmClient :=
  match c.mExpiredTargets.lookup displayId with
  | some handles => { c with
      freed := handles ++ c.freed
      mExpiredTargets := c.mExpiredTargets.erase displayId }
  | none => c

/-- `flushed` tells whether all flush calls of the frame succeed; `commit` is the error of the
    commit. -/
def DrmClient.flushToDisplay (c : DrmClient) (displayId : ℕ) (flushed : Bool) (commit : Error) :
    Error × DrmClient :=
  match c.mDisplays.lookup displayId with
  | none => (.BadDisplay, c)
  | some d =>
    if d.connected = false then (.None, c)
    else if flushed = false then (.NoResources, c)
    else (commit, freeExpired c displayId)

inductive DrmHotplugChange where | kNoChange | kConnected | kDisconnected
  deriving DecidableEq

/-- What `mConnector->update` finds for a display, with the configs read on a connect. -/
structure Plug where
  connected : Bool
  onConnect : ConfigDisplay → ConfigDisplay

def ConfigDisplay.onDisconnect (d : ConfigDisplay) : ConfigDisplay :=
  if d.mIsPrimary then d else { d with mActiveConfigId := -1, mConfigs := ∅ }

def ConfigDisplay.checkAndHandleHotplug (d : ConfigDisplay) (plug : Plug) :
    DrmHotplugChange × ConfigDisplay :=
  if d.connected = plug.connected then (.kNoChange, d)
  else if plug.connected then
    (.kConnected, { plug.onConnect d with mIsPrimary := d.mIsPrimary, connected := true })
  else (.kDisconnected, { d with connected := false }.onDisconnect)

/-- Free the targets of a display and forget them. -/
def freeTargets (c : DrmClient) (displayId : ℕ) : DrmClient :=
  match c.mComposerTargets.lookup displayId with
  | some t => { c with
      freed := t.handles ++ c.freed
      mComposerTargets := c.mComposerTargets.erase displayId }
  | none => c

/-- The body of the loop over `mDisplays` for one display. -/
def handleDisplay (c : DrmClient) (displayId : ℕ) (plug : Plug) : DrmClient :=
  match c.mDisplays.lookup displayId with
  | none => c
  | some d =>
    let (change, d) := d.checkAndHandleHotplug plug
    if change = .kNoChange then c
    else
      let c := if d.mIsPrimary ∨ change = .kDisconnected then freeTargets c displayId else c
      let d :=
        if change = .kDisconnected ∧ d.mIsPrimary then d.placeholderDisplayConfigs c.defaultConfig
        else d
      { c with mDisplays := c.mDisplays.replace displayId d }

def DrmClient.handleHotplug (c : DrmClient) (plugs : ℕ → Plug) : DrmClient :=
  c.mDisplays.keys.foldl (fun c displayId => handleDisplay c displayId (plugs displayId)) c

/-! ### Runs -/

inductive Action where
  | getComposerTarget (displayId : ℕ) (secure : Bool) (alloc : ℕ → Bool)
  | setActiveConfigId (displayId : ℕ) (configId : ℤ)
  | resetDisplayConfig (displayId : ℕ)
  | setHwcPrimaryDisplay (displayId : ℕ) (primary : Bool)
  | flushToDisplay (displayId : ℕ) (flushed : Bool) (commit : Error)
  | handleHotplug (plugs : ℕ → Plug)

def step (c : DrmClient) : Action → DrmClient
  | .getComposerTarget displayId secure alloc => (c.getComposerTarget displayId secure alloc).client
  | .setActiveConfigId displayId configId => (c.setActiveConfigId displayId configId).2
  | .resetDisplayConfig displayId => (c.resetDisplayConfig displayId).2
  | .setHwcPrimaryDisplay displayId primary => (c.setHwcPrimaryDisplay displayId primary).2
  | .flushToDisplay displayId flushed commit => (c.flushToDisplay displayId flushed commit).2
  | .handleHotplug plugs => c.handleHotplug plugs

/-- All places a target buffer can be in. -/
def places (c : DrmClient) : List ℕ :=
  flat G2dComposerTargets.handles c.mComposerTargets ++ (flat id c.mExpiredTargets ++ c.freed)

/-- The law: every handle allocated is in exactly one place. -/
def Kept (_ : DrmClient) (_ : Action) (c : DrmClient) : Prop := Balanced (places c) c.next

/-- A call that has to replace targets finds no expired ones still waiting, and its allocations
    fail, if at all, at the first buffer. -/
def Replaces (c : DrmClient) : Action → Prop
  | .getComposerTarget displayId secure alloc =>
    displayId ∈ c.mDisplays → reusable c displayId secure = none →
      (displayId ∈ c.mComposerTargets → displayId ∉ c.mExpiredTargets) ∧
      (alloc 0 = true → ∀ i < c.mMaxComposerTargetsPerDisplay, alloc i = true)
  | _ => True

/-! ### Where the buffers are after each operation -/

theorem places_count (c : DrmClient) (h : ℕ) :
    (places c).count h = (flat G2dComposerTargets.handles c.mComposerTargets).count h
      + ((flat id c.mExpiredTargets).count h + c.freed.count h) := by
  rw [places, List.count_append, List.count_append]

/-- The buffers that `mExpiredTargets.emplace` refuses. -/
def refused (c : DrmClient) (displayId : ℕ) : List ℕ :=
  match c.mComposerTargets.lookup displayId, c.mExpiredTargets.lookup displayId with
  | some origin, some _ => origin.handles
  | _, _ => []

theorem expireTargets_count (c : DrmClient) (displayId h : ℕ) :
    (places (expireTargets c displayId)).count h + (refused c displayId).count h
      = (places c).count h := by
  rw [places_count, places_count, expireTargets, refused]
  cases ht : c.mComposerTargets.lookup displayId with
  | none => simp
  | some origin =>
    have herase := flat_erase G2dComposerTargets.handles ht h
    cases he : c.mExpiredTargets.lookup displayId with
    | none =>
      simp only [lookup_emplace_of_none _ he, flat_insert id _ he, List.count_append, id,
        List.count_nil]
      omega
    | some w =>
      simp only [emplace_of_some _ he]
      omega

theorem expireTargets_lookup (c : DrmClient) (displayId : ℕ) :
    (expireTargets c displayId).mComposerTargets.lookup displayId = none := by
  rw [expireTargets]
  cases ht : c.mComposerTargets.lookup displayId with
  | none => exact ht
  | some origin => exact AList.lookup_erase _ _

theorem freeExpired_count (c : DrmClient) (displayId h : ℕ) :
    (places (freeExpired c displayId)).count h = (places c).count h := by
  rw [places_count, places_count, freeExpired]
  cases he : c.mExpiredTargets.lookup displayId with
  | none => rfl
  | some handles =>
    have herase := flat_erase id he h
    simp only [id, List.count_append] at herase ⊢
    omega

theorem freeTargets_count (c : DrmClient) (displayId h : ℕ) :
    (places (freeTargets c displayId)).count h = (places c).count h := by
  rw [places_count, places_count, freeTargets]
  cases ht : c.mComposerTargets.lookup displayId with
  | none => rfl
  | some t =>
    have herase := flat_erase G2dComposerTargets.handles ht h
    simp only [List.count_append]
    omega

/-- Rewriting an entry without changing its handles moves nothing. -/
theorem update_count {c : DrmClient} {displayId : ℕ} {t t' : G2dComposerTargets}
    (ht : c.mComposerTargets.lookup displayId = some t) (hh : t'.handles = t.handles) (h : ℕ) :
    (places { c with mComposerTargets := c.mComposerTargets.insert displayId t' }).count h
      = (places c).count h := by
  have herase := flat_erase G2dComposerTargets.handles ht h
  rw [places_count, places_count]
  simp only [count_flat_insert, hh]
  omega

/-- The loop returns the numbers `next .. next + k - 1`, where `k` is the first allocation that
    fails. -/
theorem prepare_spec (alloc : ℕ → Bool) (next count i : ℕ) :
    ∃ k, i ≤ k ∧
      (prepareDeviceFrameBuffer alloc next count i (List.range' next i)).buffers
        = List.range' next k ∧
      (∀ j, i ≤ j → j < k → alloc j = true) ∧
      if (prepareDeviceFrameBuffer alloc next count i (List.range' next i)).okay then k = i + count
      else k < i + count ∧ alloc k = false := by
  induction count generalizing i with
  | zero =>
    refine ⟨i, le_refl i, rfl, fun j h₁ h₂ => absurd h₂ (by omega), ?_⟩
    simp [prepareDeviceFrameBuffer]
  | succ count ih =>
    rw [prepareDeviceFrameBuffer]
    cases ha : alloc i with
    | false =>
      refine ⟨i, le_refl i, by simp, fun j h₁ h₂ => absurd h₂ (by omega), ?_⟩
      simp [ha]
    | true =>
      obtain ⟨k, hik, hb, hall, hk⟩ := ih (i + 1)
      rw [List.range'_1_concat] at hb hk
      simp only [if_true]
      refine ⟨k, by omega, hb, ?_, ?_⟩
      · intro j h₁ h₂
        by_cases hj : j = i
        · rw [hj]; exact ha
        · exact hall j (by omega) h₂
      · have hadd : i + 1 + count = i + (count + 1) := by omega
        rwa [hadd] at hk

/-! ### One step -/

/-- Balanced, and no display holds an empty set of targets. -/
structure Inv (c : DrmClient) : Prop where
  kept : Balanced (places c) c.next
  full : ∀ displayId t, c.mComposerTargets.lookup displayId = some t → t.handles ≠ []

/-- An operation that allocates nothing, loses nothing and only erases or marks targets. -/
theorem Inv.congr {c c' : DrmClient} (hc : Inv c) (hnext : c'.next = c.next)
    (hcount : ∀ h, (places c').count h = (places c).count h)
    (hfull : ∀ displayId t, c'.mComposerTargets.lookup displayId = some t → t.handles ≠ []) :
    Inv c' :=
  ⟨hnext ▸ balanced_congr hc.kept hcount, hfull⟩

/-- The displays themselves hold no buffers. -/
theorem Inv.displays {c : DrmClient} (m : AList fun _ : ℕ => ConfigDisplay) (hc : Inv c) :
    Inv { c with mDisplays := m } := ⟨hc.kept, hc.full⟩

theorem lookup_insert_handles {c : DrmClient} {displayId : ℕ} {t' : G2dComposerTargets}
    (hfull : ∀ displayId t, c.mComposerTargets.lookup displayId = some t → t.handles ≠ [])
    (ht' : t'.handles ≠ []) (k : ℕ) (t : G2dComposerTargets)
    (hk : (c.mComposerTargets.insert displayId t').lookup k = some t) : t.handles ≠ [] := by
  by_cases hd : k = displayId
  · subst hd
    rw [AList.lookup_insert, Option.some.injEq] at hk
    rwa [← hk]
  · rw [AList.lookup_insert_ne hd] at hk
    exact hfull k t hk

theorem lookup_erase_handles {m : AList fun _ : ℕ => G2dComposerTargets} {displayId : ℕ}
    (hfull : ∀ displayId t, m.lookup displayId = some t → t.handles ≠ []) (k : ℕ)
    (t : G2dComposerTargets) (hk : (m.erase displayId).lookup k = some t) : t.handles ≠ [] := by
  by_cases hd : k = displayId
  · subst hd
    rw [AList.lookup_erase] at hk
    exact absurd hk (by simp)
  · rw [AList.lookup_erase_ne hd] at hk
    exact hfull k t hk

theorem freeTargets_inv {c : DrmClient} (displayId : ℕ) (hc : Inv c) :
    Inv (freeTargets c displayId) := by
  refine hc.congr ?_ (freeTargets_count c displayId) ?_
  · rw [freeTargets]; split <;> rfl
  · rw [freeTargets]
    split
    · exact lookup_erase_handles hc.full
    · exact hc.full

theorem handleDisplay_inv {c : DrmClient} (displayId : ℕ) (plug : Plug) (hc : Inv c) :
    Inv (handleDisplay c displayId plug) := by
  rw [handleDisplay]
  split
  · exact hc
  · next d _ =>
    rcases d.checkAndHandleHotplug plug with ⟨change, d'⟩
    simp only
    split
    · exact hc
    · refine Inv.displays _ ?_
      split
      · exact freeTargets_inv displayId hc
      · exact hc

/-- The loop over the displays keeps the invariant. -/
theorem handleHotplug_inv (plugs : ℕ → Plug) (ids : List ℕ) (c : DrmClient) (hc : Inv c) :
    Inv (ids.foldl (fun c displayId => handleDisplay c displayId (plugs displayId)) c) := by
  refine run_inv Inv ?_ ids c hc fun _ _ => trivial
  intro c displayId hc _
  exact handleDisplay_inv displayId (plugs displayId) hc

theorem invalidateTargets_inv {c : DrmClient} (displayId : ℕ) (before after : ConfigDisplay)
    (hc : Inv c) : Inv (invalidateTargets c displayId before after) := by
  rw [invalidateTargets]
  split
  · cases ht : c.mComposerTargets.lookup displayId with
    | none => exact hc
    | some t =>
      exact hc.congr rfl (update_count ht rfl) (lookup_insert_handles hc.full (hc.full _ t ht))
  · exact hc

/-- The buffers a call loses: those `emplace` refuses, and those of an allocation that failed. -/
def lost (c : DrmClient) (displayId : ℕ) (alloc : ℕ → Bool) : List ℕ :=
  let out := prepareDeviceFrameBuffer alloc c.next c.mMaxComposerTargetsPerDisplay 0 []
  refused c displayId ++ if out.okay then [] else out.buffers

@[simp] theorem expireTargets_next (c : DrmClient) (displayId : ℕ) :
    (expireTargets c displayId).next = c.next := by
  rw [expireTargets]; split <;> rfl

@[simp] theorem expireTargets_max (c : DrmClient) (displayId : ℕ) :
    (expireTargets c displayId).mMaxComposerTargetsPerDisplay = c.mMaxComposerTargetsPerDisplay := by
  rw [expireTargets]; split <;> rfl

/-- A call that replaces the targets of a display accounts for all buffers but the lost ones. -/
theorem replace_count {c : DrmClient} {displayId : ℕ} {secure : Bool} (alloc : ℕ → Bool)
    (hd : displayId ∈ c.mDisplays) (hr : reusable c displayId secure = none) :
    ∃ k, (c.getComposerTarget displayId secure alloc).client.next = c.next + k ∧
      ∀ h, (places (c.getComposerTarget displayId secure alloc).client).count h
        + (lost c displayId alloc).count h = (List.range' c.next k ++ places c).count h := by
  obtain ⟨d, hd⟩ := Option.isSome_iff_exists.mp (AList.lookup_isSome.mpr hd)
  obtain ⟨k, -, hb, -, -⟩ := prepare_spec alloc c.next c.mMaxComposerTargetsPerDisplay 0
  refine ⟨k, ?_, ?_⟩
  · simp only [DrmClient.getComposerTarget, hd, hr, expireTargets_next, expireTargets_max]
    rw [List.range'_zero] at hb
    split <;> simp [hb]
  · intro h
    have hexp := expireTargets_count c displayId h
    have hnone := expireTargets_lookup c displayId
    simp only [DrmClient.getComposerTarget, hd, hr, lost, expireTargets_next, expireTargets_max]
    rw [List.range'_zero] at hb
    rw [places_count] at hexp
    split
    · next hok =>
      simp only [hok, hb, places_count, List.count_append]
      simp only [places_count] at hexp
      simp
      omega
    · next hok =>
      simp only [hok, hb, places_count, List.count_append,
        lookup_emplace_of_none _ hnone, flat_insert _ _ hnone]
      simp only [places_count] at hexp
      simp
      omega

theorem refused_eq_nil {c : DrmClient} (hc : Inv c) (displayId : ℕ) :
    refused c displayId = [] ↔ (displayId ∈ c.mComposerTargets → displayId ∉ c.mExpiredTargets) := by
  rw [← AList.lookup_isSome, ← AList.lookup_isSome, refused]
  cases ht : c.mComposerTargets.lookup displayId with
  | none => simp
  | some t =>
    cases he : c.mExpiredTargets.lookup displayId with
    | none => simp
    | some w => simpa using hc.full displayId t ht

/-- An allocation loses buffers exactly when it fails after its first buffer. -/
theorem partial_eq_nil (c : DrmClient) (alloc : ℕ → Bool) :
    (if (prepareDeviceFrameBuffer alloc c.next c.mMaxComposerTargetsPerDisplay 0 []).okay then []
      else (prepareDeviceFrameBuffer alloc c.next c.mMaxComposerTargetsPerDisplay 0 []).buffers) = []
      ↔ (alloc 0 = true → ∀ i < c.mMaxComposerTargetsPerDisplay, alloc i = true) := by
  obtain ⟨k, -, hb, hall, hk⟩ := prepare_spec alloc c.next c.mMaxComposerTargetsPerDisplay 0
  rw [List.range'_zero] at hb hk
  split at hk
  · next hok =>
    rw [if_pos hok]
    exact ⟨fun _ _ i hi => hall i (Nat.zero_le i) (by omega), fun _ => rfl⟩
  · next hok =>
    rw [if_neg hok, hb, List.range'_eq_nil_iff]
    constructor
    · rintro rfl h0
      rw [h0] at hk
      exact absurd hk.2 (by simp)
    · intro h
      by_contra hpos
      have h0 := hall 0 (le_refl 0) (Nat.pos_of_ne_zero hpos)
      have := h h0 k (by omega)
      rw [this] at hk
      exact absurd hk.2 (by simp)

theorem lost_eq_nil_iff {c : DrmClient} (hc : Inv c) (displayId : ℕ) (alloc : ℕ → Bool) :
    lost c displayId alloc = [] ↔
      (displayId ∈ c.mComposerTargets → displayId ∉ c.mExpiredTargets) ∧
      (alloc 0 = true → ∀ i < c.mMaxComposerTargetsPerDisplay, alloc i = true) := by
  simp only [lost, List.append_eq_nil_iff]
  rw [refused_eq_nil hc, partial_eq_nil]

/-- After a call that replaces targets no display holds an empty set of them. -/
theorem replace_full {c : DrmClient} {displayId : ℕ} {secure : Bool} (alloc : ℕ → Bool)
    (hc : Inv c) (hd : displayId ∈ c.mDisplays) (hr : reusable c displayId secure = none) :
    ∀ k t, (c.getComposerTarget displayId secure alloc).client.mComposerTargets.lookup k = some t →
      t.handles ≠ [] := by
  obtain ⟨d, hd⟩ := Option.isSome_iff_exists.mp (AList.lookup_isSome.mpr hd)
  have hexp : ∀ k t, (expireTargets c displayId).mComposerTargets.lookup k = some t →
      t.handles ≠ [] := by
    rw [expireTargets]
    split
    · exact lookup_erase_handles hc.full
    · exact hc.full
  simp only [DrmClient.getComposerTarget, hd, hr, expireTargets_next, expireTargets_max]
  split
  · exact hexp
  · next hok =>
    have hnone := expireTargets_lookup c displayId
    simp only [lookup_emplace_of_none _ hnone]
    refine lookup_insert_handles hexp ?_
    obtain ⟨k, -, hb, -, hk⟩ := prepare_spec alloc c.next c.mMaxComposerTargetsPerDisplay 0
    rw [List.range'_zero] at hb hk
    rw [Bool.not_eq_false] at hok
    rw [if_pos hok] at hk
    have := c.targets_pos
    simp only [hb, ne_eq, List.range'_eq_nil_iff]
    omega

/-- A call that finds its targets ready only moves their index. -/
theorem reuse_inv {c : DrmClient} {displayId : ℕ} {secure : Bool} {t : G2dComposerTargets}
    (alloc : ℕ → Bool) (hc : Inv c) (hr : reusable c displayId secure = some t) :
    Inv (c.getComposerTarget displayId secure alloc).client := by
  rw [DrmClient.getComposerTarget]
  split
  · exact hc
  · have ht : c.mComposerTargets.lookup displayId = some t := by
      rw [reusable] at hr
      split at hr
      · split at hr
        · next hl _ => rw [hl, hr]
        · exact absurd hr (by simp)
      · exact absurd hr (by simp)
    simp only [hr]
    exact hc.congr rfl (update_count ht rfl) (lookup_insert_handles hc.full (hc.full _ t ht))

theorem getComposerTarget_inv {c : DrmClient} (displayId : ℕ) (secure : Bool) (alloc : ℕ → Bool)
    (hc : Inv c) (hrep : Replaces c (.getComposerTarget displayId secure alloc)) :
    Inv (c.getComposerTarget displayId secure alloc).client := by
  by_cases hd : displayId ∈ c.mDisplays
  · cases hr : reusable c displayId secure with
    | some t => exact reuse_inv alloc hc hr
    | none =>
      obtain ⟨k, hnext, hcount⟩ := replace_count alloc hd hr
      rw [(lost_eq_nil_iff hc displayId alloc).mpr (hrep hd hr)] at hcount
      exact ⟨hnext ▸ balanced_congr (balanced_alloc k hc.kept) hcount, replace_full alloc hc hd hr⟩
  · rw [DrmClient.getComposerTarget, AList.lookup_eq_none.mpr hd]
    exact hc

theorem step_inv (c : DrmClient) (a : Action) (hc : Inv c) (hrep : Replaces c a) :
    Inv (step c a) ∧ Kept c a (step c a) := by
  suffices h : Inv (step c a) from ⟨h, h.kept⟩
  cases a with
  | getComposerTarget displayId secure alloc =>
    exact getComposerTarget_inv displayId secure alloc hc hrep
  | setActiveConfigId displayId configId =>
    rw [step, DrmClient.setActiveConfigId]
    split
    · exact hc
    · split
      · exact hc
      · exact invalidateTargets_inv _ _ _ (hc.displays _)
  | resetDisplayConfig displayId =>
    rw [step, DrmClient.resetDisplayConfig]
    split
    · exact hc
    · exact invalidateTargets_inv _ _ _ (hc.displays _)
  | setHwcPrimaryDisplay displayId primary =>
    rw [step, DrmClient.setHwcPrimaryDisplay]
    split
    · exact hc
    · exact hc.displays _
  | flushToDisplay displayId flushed commit =>
    rw [step, DrmClient.flushToDisplay]
    split
    · exact hc
    · split
      · exact hc
      · split
        · exact hc
        · refine hc.congr ?_ (freeExpired_count c displayId) ?_
          · simp only [freeExpired]; split <;> rfl
          · simp only [freeExpired]; split <;> exact hc.full
  | handleHotplug plugs => exact handleHotplug_inv plugs _ c hc

/-- A call that breaks the condition loses a buffer. -/
theorem replaces_of_kept (c : DrmClient) (a : Action) (hc : Inv c) (hkept : Kept c a (step c a)) :
    Replaces c a := by
  cases a with
  | getComposerTarget displayId secure alloc =>
    intro hd hr
    obtain ⟨k, hnext, hcount⟩ := replace_count alloc hd hr
    rw [← lost_eq_nil_iff hc displayId alloc]
    rw [Kept, step, hnext] at hkept
    exact lost_eq_nil (balanced_alloc k hc.kept) hcount hkept
  | _ => trivial

/-- The client before its first target is allocated. -/
def fresh (c : DrmClient) : DrmClient :=
  { c with mComposerTargets := ∅, mExpiredTargets := ∅, next := 0, freed := [] }

/-- CORRECT: for every sequence of calls, every target buffer ever allocated is after each call in
    exactly one of `mComposerTargets`, `mExpiredTargets` and the freed ones, once, if and only if
    each `getComposerTarget` that replaces targets finds no expired ones of the display waiting and
    its allocations do not fail after the first buffer. -/
theorem targets_kept_iff (c : DrmClient) (as : List Action) :
    Always step Kept (fresh c) as ↔ Meets step Replaces (fresh c) as :=
  always_iff_meets step_inv replaces_of_kept as _
    ⟨balanced_nil, fun _ _ h => absurd h (by simp [fresh])⟩

/-- One connected display with three targets. -/
def oneDisplay : DrmClient where
  mDisplays := AList.singleton 0
    ⟨true, true, AList.singleton 0 ⟨1920, 1080, 60, 0, 1920, 1080⟩, 0, 0, 0,
      ⟨1920, 1080, 60, 0, 1920, 1080⟩, .none⟩
  mMaxComposerTargetsPerDisplay := 3
  targets_pos := by decide
  defaultConfig := ⟨1920, 1080, 60, 0, 1920, 1080⟩
  mComposerTargets := ∅
  mExpiredTargets := ∅
  next := 0
  freed := []

/-- Two flips of the secure flag without a flush between them: the buffers of the first flip are
    still expired when those of the second are to follow, and handle 3 is in no place any more. -/
theorem flipped_twice :
    ¬ ∀ (c : DrmClient) (as : List Action), Always step Kept (fresh c) as := by
  intro h
  have hall := h oneDisplay [.getComposerTarget 0 false fun _ => true,
    .getComposerTarget 0 true fun _ => true, .getComposerTarget 0 false fun _ => true]
  have hlost := hall.2.2.1 3
  revert hlost
  decide

end ImxHal.Hwc3.Targets
