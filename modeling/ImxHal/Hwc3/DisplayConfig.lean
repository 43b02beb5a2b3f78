import ImxHal.Schemes.Run
import ImxHal.Schemes.Ledger
import ImxHal.Hwc3.Layer
import ImxHal.Hwc3.ComposerTargets

/-! @src display/hwcomposer3/DrmConnector.cpp (update, buildConfigs), display/hwcomposer3/DrmDisplay.cpp
    (updateActiveConfig, updateDisplayConfigs, placeholderDisplayConfigs, setActiveConfigId,
    onConnect, onDisconnect, checkAndHandleHotplug), display/hwcomposer3/DrmClient.cpp (handleHotplug,
    setHwcPrimaryDisplay), display/hwcomposer3/Common.cpp (customizeGUIResolution) |
    name:Display configs | scheme:run | family:state machine

    A display numbers the modes of its connector from `mStartConfigId` on, picks the one closest to the
    boot mode and drops those with another refresh rate:

        connect     start := start + id_max + 1     start, start+1, …   (+ a custom resolution)
        disconnect  start := start + size           start               (primary: a placeholder)
        disconnect                                  no config, id -1    (any other display)

    A connector whose FIRST mode cannot be created is left connected without modes, and the display then
    has no config at all. -/

namespace ImxHal.Hwc3.Configs
open ImxHal.Run ImxHal.Ledger ImxHal.Hwc3.Frame

/-! ### Modes and the connector -/

/-- `HalDisplayConfig` with the mode type that the choice of the active config reads. -/
structure Config extends HalDisplayConfig where
  modeType : ℕ
  deriving DecidableEq

abbrev HalConfig := AList fun _ : ℕ => Config

/-- A mode with its property blob. `refreshRateHz` is the rate rounded from its timings. -/
structure DrmMode where
  hdisplay : UInt16
  vdisplay : UInt16
  refreshRateHz : ℕ
  type : ℕ
  blobId : ℕ
  deriving DecidableEq

inductive Connection where | DRM_MODE_CONNECTED | DRM_MODE_DISCONNECTED | DRM_MODE_UNKNOWNCONNECTION
  deriving DecidableEq

/-- What `drmModeGetConnector` finds, and how many `DrmMode::create` calls in a row succeed on it. -/
structure Report where
  connection : Connection
  modes : List DrmMode
  created : ℕ
  count_lt : modes.length < 2 ^ 31

structure DrmConnector where
  mStatus : Connection
  mModes : List DrmMode
  count_lt : mModes.length < 2 ^ 31

def DrmConnector.isConnected (c : DrmConnector) : Bool := c.mStatus = .DRM_MODE_CONNECTED

/-- `none`: the connector cannot be read. The early return on a mode that cannot be created leaves
    the new status with the modes made so far. -/
def DrmConnector.update (c : DrmConnector) : Option Report → Bool × DrmConnector
  | none => (false, c)
  | some r =>
    if r.connection = c.mStatus then (true, c)
    else if r.created < r.modes.length then
      (false, ⟨r.connection, r.modes.take r.created,
        lt_of_le_of_lt (List.length_take_le' _ _) r.count_lt⟩)
    else if r.modes = [] then (true, ⟨.DRM_MODE_DISCONNECTED, [], by decide⟩)
    else (true, ⟨r.connection, r.modes, r.count_lt⟩)

def configOf (mode : DrmMode) : Config where
  width := mode.hdisplay.toNat
  height := mode.vdisplay.toNat
  refreshRateHz := mode.refreshRateHz
  blobId := mode.blobId
  modeWidth := mode.hdisplay.toNat
  modeHeight := mode.vdisplay.toNat
  modeType := mode.type

/-- The test of `buildConfigs` for a config that is there already. -/
def sameConfig (cfg config : Config) : Bool :=
  cfg.width = config.width && cfg.height = config.height && cfg.refreshRateHz = config.refreshRateHz

/-- The loop of `DrmConnector::buildConfigs`. -/
def buildConfigs : List DrmMode → ℕ → HalConfig → HalConfig
  | [], _, configs => configs
  | mode :: modes, configId, configs =>
    if configs.entries.any fun e => sameConfig e.2 (configOf mode) then
      buildConfigs modes configId configs
    else buildConfigs modes ((configId + 1) % 2 ^ 32) (emplace configs configId (configOf mode))

/-! ### The boot properties -/

/-- `ro.boot.displaymode`, as `parseDisplayMode` reads it. -/
structure BootMode where
  width : ℕ
  height : ℕ
  vrefresh : ℕ
  prefered : Bool

/-- `ro.boot.gui_resolution`: `shwWxH`, `sswWxH`, one of the named sizes, or none of these. -/
inductive GuiResolution where
  | hardware (w h : ℕ)
  | software (w h : ℕ)
  | named (w h : ℕ)
  | unset
  deriving DecidableEq

/-- The width and height asked for; the named ones are turned for a portrait display. -/
def GuiResolution.size (g : GuiResolution) (width height : ℕ) : ℕ × ℕ :=
  match g with
  | .hardware w h => (w, h)
  | .software w h => (w, h)
  | .named w h => if width < height then (h, w) else (w, h)
  | .unset => (0, 0)

/-- The size for the UI when one is configured: never larger than the display. -/
def customizeGUIResolution (g : GuiResolution) (width height : ℕ) : Option (ℕ × ℕ) :=
  match g with
  | .unset => none
  | g =>
    let (w, h) := g.size width height
    if 0 < w ∧ 0 < h then
      if w ≥ width ∧ h ≥ height then none
      else some (if w < width then w else width, if h < height then h else height)
    else some (width, height)

def GuiResolution.scale (g : GuiResolution) (old : UiScale) : UiScale :=
  match g with
  | .hardware _ _ => .hardware
  | .software _ _ => .software
  | _ => old

/-- The build and boot settings: the largest config of the platform, for displays that never had
    one, and the two properties. -/
structure Platform where
  maxWidth : ℕ
  maxHeight : ℕ
  maxWidth_pos : 0 < maxWidth
  maxHeight_pos : 0 < maxHeight
  displaymode : BootMode
  gui : GuiResolution

/-! ### The display -/

structure DrmDisplay where
  mConnector : DrmConnector
  mIsPrimary : Bool
  mConfigs : HalConfig
  mActiveConfigId : ℤ
  mInitActiveConfigId : ℤ
  mStartConfigId : ℤ
  mActiveConfig : Config
  mUiScaleType : UiScale

/-- `memset` to zero, and the value that `operator[]` makes for a missing key. -/
def zeroConfig : Config := ⟨⟨0, 0, 0, 0, 0, 0⟩, 0⟩

/-- The largest id of the map, 0 when it is empty. -/
def idMax (configs : HalConfig) : ℕ := configs.keys.foldl max 0

/-- `abs(a - b)` on `int`. -/
def absDiff (a b : ℕ) : ℕ := (i32 (i32 a - i32 b)).natAbs

/-- The search of `updateActiveConfig`: the candidate so far is at `index` with distance `delta`.
    Every id of the walk is present (`buildConfigs_spans`), so no read makes an entry. -/
def findBest (boot : BootMode) (at' : ℕ → Config) : List ℕ → (index delta : ℕ) → ℕ
  | [], index, _ => index
  | i :: is, index, delta =>
    let cfg := at' i
    if boot.prefered ∧ cfg.modeType &&& 8 ≠ 0 then i
    else
      let rdelta := (absDiff boot.width cfg.width + absDiff boot.height cfg.height) % 2 ^ 32
      if rdelta < delta then findBest boot at' is i rdelta
      else if rdelta = delta ∧
          absDiff boot.vrefresh cfg.refreshRateHz <
            absDiff boot.vrefresh (at' index).refreshRateHz then
        findBest boot at' is i delta
      else findBest boot at' is index delta

/-- Erase the configs with another refresh rate. -/
def keepRate (configs : HalConfig) (rate : ℕ) : HalConfig :=
  ⟨configs.entries.filter fun e => e.2.refreshRateHz = rate,
    configs.nodupKeys.sublist List.filter_sublist⟩

/-- `(*configs)[key]` of a key that is present. -/
def configAt (configs : HalConfig) (key : ℕ) : Config := (configs.lookup key).getD zeroConfig

/-- `mStartConfigId + id_max + 1` on `int32_t`. -/
def afterMax (start : ℤ) (configs : HalConfig) : ℤ := i32 (i32 (start + i32 (idMax configs)) + 1)

/-- The config of a custom UI size on the active mode. -/
def customConfig (active : Config) (size : ℕ × ℕ) : Config := { zeroConfig with
  width := size.1
  height := size.2
  refreshRateHz := active.refreshRateHz
  blobId := active.blobId
  modeWidth := active.width
  modeHeight := active.height }

def addCustom (d : DrmDisplay) (active : Config) (size : ℕ × ℕ) : DrmDisplay :=
  let id := afterMax d.mStartConfigId d.mConfigs
  { d with
    mConfigs := emplace d.mConfigs (u32 id) (customConfig active size)
    mActiveConfigId := id
    mInitActiveConfigId := id }

def DrmDisplay.updateActiveConfig (pf : Platform) (d : DrmDisplay) : DrmDisplay :=
  let at' := fun i : ℕ => configAt d.mConfigs ((u32 d.mStartConfigId + i) % 2 ^ 32)
  let index := findBest pf.displaymode at' (List.range d.mConfigs.entries.length) 0 (2 ^ 32 - 1)
  let id := i32 (d.mStartConfigId + index)
  let active := configAt d.mConfigs (u32 id)
  let d := { d with
    mActiveConfigId := id
    mInitActiveConfigId := id
    mConfigs := keepRate d.mConfigs active.refreshRateHz
    mUiScaleType := pf.gui.scale d.mUiScaleType }
  let d := match customizeGUIResolution pf.gui active.width active.height with
    | none => d
    | some size => addCustom d active size
  { d with mActiveConfig := configAt d.mConfigs (u32 d.mActiveConfigId) }

def DrmDisplay.updateDisplayConfigs (pf : Platform) (d : DrmDisplay) : DrmDisplay :=
  let start := afterMax d.mStartConfigId d.mConfigs
  let d := { d with mStartConfigId := start, mConfigs := ∅ }
  if d.mConnector.mModes = [] then d
  else
    { d with mConfigs := buildConfigs d.mConnector.mModes (u32 start) ∅ }.updateActiveConfig pf

def placeholderConfig (pf : Platform) (d : DrmDisplay) : Config :=
  if d.mActiveConfigId ≥ 0 then
    { d.mActiveConfig with blobId := 0, modeWidth := 0, modeHeight := 0 }
  else
    let size := (customizeGUIResolution pf.gui pf.maxWidth pf.maxHeight).getD
      (pf.maxWidth, pf.maxHeight)
    { zeroConfig with width := size.1, height := size.2, refreshRateHz := 60 }

def DrmDisplay.placeholderDisplayConfigs (pf : Platform) (d : DrmDisplay) : DrmDisplay :=
  let start := i32 (d.mStartConfigId + d.mConfigs.entries.length)
  { d with
    mStartConfigId := start
    mConfigs := AList.singleton (u32 start) (placeholderConfig pf d)
    mActiveConfigId := start
    mInitActiveConfigId := start
    mActiveConfig := placeholderConfig pf d }

/-- An id that is not one of the display changes nothing. -/
def DrmDisplay.setActiveConfigId (d : DrmDisplay) (configId : ℤ) : DrmDisplay :=
  match d.mConfigs.lookup (u32 configId) with
  | none => d
  | some config => { d with mActiveConfigId := configId, mActiveConfig := config }

def DrmDisplay.resetDisplayConfig (d : DrmDisplay) : DrmDisplay :=
  d.setActiveConfigId d.mInitActiveConfigId

def DrmDisplay.onDisconnect (d : DrmDisplay) : DrmDisplay :=
  if d.mIsPrimary then d else { d with mActiveConfigId := -1, mConfigs := ∅ }

def DrmDisplay.checkAndHandleHotplug (pf : Platform) (d : DrmDisplay) (r : Option Report) :
    Targets.DrmHotplugChange × DrmDisplay :=
  let c := (d.mConnector.update r).2
  let d' := { d with mConnector := c }
  if d.mConnector.isConnected = c.isConnected then (.kNoChange, d')
  else if c.isConnected then (.kConnected, d'.updateDisplayConfigs pf)
  else (.kDisconnected, d'.onDisconnect)

/-- `DrmClient::handleHotplug` for one display: a primary display that loses its connection gets a
    placeholder config. -/
def handleHotplug (pf : Platform) (d : DrmDisplay) (r : Option Report) : DrmDisplay :=
  let (change, d') := d.checkAndHandleHotplug pf r
  if change = .kDisconnected ∧ d'.mIsPrimary then d'.placeholderDisplayConfigs pf else d'

def setHwcPrimaryDisplay (pf : Platform) (d : DrmDisplay) (primary : Bool) : DrmDisplay :=
  let d' := { d with mIsPrimary := primary }
  if d'.mConnector.isConnected then d' else d'.placeholderDisplayConfigs pf

/-- The read `(*mConfigs)[mActiveConfigId]` at the start of `flushOverlay` and `flushPrimary`, which
    makes an empty entry for a missing id. -/
def flushRead (d : DrmDisplay) : Config × DrmDisplay :=
  (configAt d.mConfigs (u32 d.mActiveConfigId),
    { d with mConfigs := emplace d.mConfigs (u32 d.mActiveConfigId) zeroConfig })

/-- A display of `loadDrmDisplays` before its configs are read. -/
def DrmDisplay.new (connector : DrmConnector) : DrmDisplay where
  mConnector := connector
  mIsPrimary := false
  mConfigs := ∅
  mActiveConfigId := -1
  mInitActiveConfigId := -1
  mStartConfigId := 0
  mActiveConfig := zeroConfig
  mUiScaleType := .none

def DrmConnector.new : DrmConnector := ⟨.DRM_MODE_UNKNOWNCONNECTION, [], by decide⟩

/-- `loadDrmDisplays`: a connector whose first `update` fails gives no display. -/
def load (pf : Platform) (r : Option Report) : Option DrmDisplay :=
  match DrmConnector.new.update r with
  | (true, c) => some ((DrmDisplay.new c).updateDisplayConfigs pf)
  | (false, _) => none

end ImxHal.Hwc3.Configs
