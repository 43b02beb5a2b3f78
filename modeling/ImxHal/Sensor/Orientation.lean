import ImxHal.Sensor.SharedIio
import ImxHal.Sensor.ScanData

/-! @src sensor/Sensor.cpp (HWSensorBase: buildSensor, constructor, processScanData), sensor/Sensor.h,
    sensor/config | name:sensor orientation | scheme:bit field | family:memory safety

    A sensor is built from what the kernel tells of the device and from an XML file that gives, for each
    axis, the channel it is read from and whether its sign is turned. Both are checked while the sensor is
    built, but a failed check is only logged. The samples of a scan go through an array with an entry for
    each data channel:

        scan, 16 bytes  ──decode──▶  channelData, 3 entries  ──map, scale──▶  event

    An access outside of the scan or of the array is not an event: the checked functions return `none`. -/

namespace ImxHal.Sensor.Scan
open iio_info_channel

def NUM_OF_CHANNEL_SUPPORTED : ℕ := 4

/-- The channels without the timestamp. -/
abbrev NUM_OF_DATA_CHANNELS : ℕ := NUM_OF_CHANNEL_SUPPORTED - 1

/-- The value that the constructor gives to `mScanSize`. -/
abbrev scanSize : ℕ := 16

structure iio_device_data where
  name : String
  scale : ℚ
  type : SensorType
  channelInfo : List iio_info_channel

structure AxisType where
  map : ℤ
  negate : Bool
  deriving DecidableEq

def iio_device_data.scale_mag (d : iio_device_data) : ℚ :=
  if d.name = "fxas21002c" then 1 / d.scale else d.scale

/-- `x`, `y` and `z` are what `getFirstX()` and so on return, `none` for a null pointer. -/
structure Orientation where
  rotate : Bool
  x : Option AxisType
  y : Option AxisType
  z : Option AxisType
  deriving DecidableEq

structure Location where
  x : ℚ
  y : ℚ
  z : ℚ

structure Configuration where
  orientation : List Orientation
  location : List Location

inductive status_t
  | OK | BAD_VALUE
  deriving DecidableEq

def getOrientation (config : Option (List Configuration)) : Option (List Orientation) :=
  config.bind fun cs => cs.head?.map (·.orientation)

def getLocation (config : Option (List Configuration)) : Option (List Location) :=
  config.bind fun cs => cs.head?.map (·.location)

def checkAxis (map : ℤ) : status_t := if map < 0 ∨ NUM_OF_DATA_CHANNELS ≤ map then .BAD_VALUE else .OK

def checkOrientation (config : Option (List Configuration)) : status_t :=
  match getOrientation config with
  | none => .OK
  | some [] => .OK
  | some (o :: _) =>
    match o.x, o.y, o.z with
    | some x, some y, some z =>
      if checkAxis x.map ≠ .OK then checkAxis x.map
      else if checkAxis y.map ≠ .OK then checkAxis y.map
      else if checkAxis z.map ≠ .OK then checkAxis z.map
      else if x.map = y.map ∨ y.map = z.map ∨ z.map = x.map then .BAD_VALUE
      else .OK
    | _, _, _ => .BAD_VALUE

/-- The bound is that of the array, not the last of its entries. -/
def checkIIOData (iio_data : iio_device_data) : status_t :=
  if iio_data.channelInfo.any fun c => NUM_OF_DATA_CHANNELS < c.index then .BAD_VALUE else .OK

/-- `mXMap`, `mXNegate` and so on. -/
structure Axes where
  x : AxisType
  y : AxisType
  z : AxisType
  deriving DecidableEq

def setAxisDefaultValues : Axes := ⟨⟨0, false⟩, ⟨1, false⟩, ⟨2, false⟩⟩

/-- `none` when a null pointer is followed. -/
def setOrientation (config : Option (List Configuration)) : Option Axes :=
  match getOrientation config with
  | some (o :: _) =>
    if o.rotate then do
      let x ← o.x
      let y ← o.y
      let z ← o.z
      some ⟨x, y, z⟩
    else some setAxisDefaultValues
  | _ => some setAxisDefaultValues

/-- The entries of `data_float` of the placement; `none` is `BAD_VALUE`. -/
def setSensorPlacementData (data_float : ℕ → ℚ) (index : ℤ) (value : ℚ) : Option (ℕ → ℚ) :=
  if index < 0 ∨ 14 ≤ index then none else some (Function.update data_float index.toNat value)

/-- One entry of the rotation matrix. The outer `none` is a null pointer followed; the index is narrowed
    to an `int`. -/
def setRotationEntry (data_float : ℕ → ℚ) (ROTATION_IDX : ℤ) (axis : Option AxisType) :
    OptionT Option (ℕ → ℚ) :=
  axis.map fun a =>
    setSensorPlacementData data_float ((ROTATION_IDX + 4 * a.map).bmod (2 ^ 32)) (if a.negate then -1 else 1)

/-- `some none` is `BAD_VALUE`: the placement is not reported. -/
def getSensorPlacement (config : Option (List Configuration)) : OptionT Option (ℕ → ℚ) :=
  match getLocation config, getOrientation config with
  | some (l :: _), some (o :: _) => do
    let data_float ← OptionT.mk (some (setSensorPlacementData (fun _ => 0) 3 l.x))
    let data_float ← OptionT.mk (some (setSensorPlacementData data_float 7 l.y))
    let data_float ← OptionT.mk (some (setSensorPlacementData data_float 11 l.z))
    if o.rotate then
      let data_float ← OptionT.mk (some (setSensorPlacementData data_float (0 + 0) 1))
      let data_float ← OptionT.mk (some (setSensorPlacementData data_float (1 + 4) 1))
      OptionT.mk (some (setSensorPlacementData data_float (2 + 8) 1))
    else
      let data_float ← setRotationEntry data_float 0 o.x
      let data_float ← setRotationEntry data_float 1 o.y
      setRotationEntry data_float 2 o.z
  | _, _ => OptionT.mk (some none)

/-- The sensor with the orientation that it was given and the placement that it reports. -/
structure HWSensorBase where
  mIioData : iio_device_data
  axes : Axes
  placement : Option (ℕ → ℚ)

inductive Logged
  | orientationInvalid | channelIndexInvalid
  deriving DecidableEq

/-- The sensor and what has been logged, `none` when a null pointer was followed. -/
def buildSensor (iio_data : iio_device_data) (config : Option (List Configuration)) :
    Option (HWSensorBase × List Logged) := do
  let logged :=
    (if checkOrientation config ≠ .OK then [Logged.orientationInvalid] else []) ++
      if checkIIOData iio_data ≠ .OK then [Logged.channelIndexInvalid] else []
  let axes ← setOrientation config
  let placement ← (getSensorPlacement config).run
  some (⟨iio_data, axes, placement⟩, logged)

/-! ### Processing a scan -/

/-- One pass of the outer loop over a scan of `scanSize` bytes. -/
def decodeChannelIn (channelInfo : List iio_info_channel) (data : Fin scanSize → BitVec 8)
    (c : iio_info_channel) :
    Option ℤ := do
  let bytes ← c.ks.mapM fun k =>
    if h : offset channelInfo c.index + k < scanSize then some (data ⟨_, h⟩) else none
  let val := bytes.foldl (fun (val : BitVec 64) b => (val <<< 8) ||| b.setWidth 64) 0
  if 64 ≤ c.shift then none
  else c.assigned ((val.sshiftRight c.shift) &&& (BitVec.allOnes 64 >>> c.shift))

def decodeIn (channelInfo : List iio_info_channel) (data : Fin scanSize → BitVec 8) :
    List iio_info_channel → (Fin NUM_OF_DATA_CHANNELS → ℤ) → Option (Fin NUM_OF_DATA_CHANNELS → ℤ)
  | [], channelData => some channelData
  | c :: rest, channelData => do
    let val ← decodeChannelIn channelInfo data c
    if h : c.index < NUM_OF_DATA_CHANNELS then
      decodeIn channelInfo data rest (Function.update channelData ⟨c.index, h⟩ val)
    else none

def getChannelData (channelData : Fin NUM_OF_DATA_CHANNELS → ℤ) (map : ℤ) (negate : Bool) : Option ℚ :=
  if h : 0 ≤ map ∧ map < NUM_OF_DATA_CHANNELS then
    let v : ℚ := channelData ⟨map.toNat, by omega⟩
    some (if negate then -v else v)
  else none

/-- The payload of an event; `unset` for a type that is not supported. -/
inductive Payload
  | vec3 (x y z : ℚ)
  | scalar (v : ℚ)
  | unset
  deriving DecidableEq

structure Event where
  sensorType : SensorType
  u : Payload
  timestamp : ℤ
  deriving DecidableEq

/-- The switch over the type. -/
def HWSensorBase.payload (s : HWSensorBase) (channelData : Fin NUM_OF_DATA_CHANNELS → ℤ) : Option Payload :=
  match s.mIioData.type with
  | .ACCELEROMETER | .MAGNETIC_FIELD | .GYROSCOPE => do
    let x ← getChannelData channelData s.axes.x.map false
    let y ← getChannelData channelData s.axes.y.map false
    let z ← getChannelData channelData s.axes.z.map false
    some (.vec3 (x * s.mIioData.scale_mag) (y * s.mIioData.scale_mag) (z * s.mIioData.scale_mag))
  | .PRESSURE => do
    let v ← getChannelData channelData 0 false
    some (.scalar (v * s.mIioData.scale * 10))
  | .AMBIENT_TEMPERATURE => do
    let v ← getChannelData channelData 1 false
    some (.scalar (v * s.mIioData.scale))
  | _ => some .unset

/-- `stack` is what the array holds before it is written, `now` the time. -/
def HWSensorBase.processScanData (s : HWSensorBase) (data : Fin scanSize → BitVec 8)
    (stack : Fin NUM_OF_DATA_CHANNELS → ℤ) (now : ℤ) : Option Event := do
  let channelData ← decodeIn s.mIioData.channelInfo data s.mIioData.channelInfo stack
  let u ← s.payload channelData
  some ⟨s.mIioData.type, u, now⟩

/-! ### The accesses -/

/-- The bytes of the scan that a pass reads. -/
def bytesRead (channelInfo : List iio_info_channel) (c : iio_info_channel) : List ℕ :=
  c.ks.map (offset channelInfo c.index + ·)

/-- The types whose events have an axis in each of three components. -/
abbrev ThreeAxis (type : SensorType) : Prop :=
  type ∈ [SensorType.ACCELEROMETER, .MAGNETIC_FIELD, .GYROSCOPE]

/-- The entries of the array that the event is made of. -/
def HWSensorBase.entriesRead (s : HWSensorBase) : List ℤ :=
  match s.mIioData.type with
  | .ACCELEROMETER | .MAGNETIC_FIELD | .GYROSCOPE => [s.axes.x.map, s.axes.y.map, s.axes.z.map]
  | .PRESSURE => [0]
  | .AMBIENT_TEMPERATURE => [1]
  | _ => []

structure HWSensorBase.InBounds (s : HWSensorBase) : Prop where
  bytes : ∀ c ∈ s.mIioData.channelInfo, ∀ i ∈ bytesRead s.mIioData.channelInfo c, i < scanSize
  written : ∀ c ∈ s.mIioData.channelInfo, c.index < NUM_OF_DATA_CHANNELS
  read : ∀ e ∈ s.entriesRead, 0 ≤ e ∧ e < NUM_OF_DATA_CHANNELS

/-- The scan as memory that is zero behind its end. -/
def scan (data : Fin scanSize → BitVec 8) (i : ℕ) : BitVec 8 := if h : i < scanSize then data ⟨i, h⟩ else 0

theorem mapM_guard {α β : Type} (p : α → Prop) [DecidablePred p] (f : (a : α) → p a → β) (g : α → β)
    (hfg : ∀ a h, f a h = g a) (l : List α) :
    (l.mapM fun a => if h : p a then some (f a h) else none) =
      if ∀ a ∈ l, p a then some (l.map g) else none := by
  induction l with
  | nil => simp
  | cons a l ih =>
    rw [List.mapM_cons, ih]
    by_cases ha : p a
    · rw [dif_pos ha, hfg]
      by_cases hl : ∀ a ∈ l, p a
      · rw [if_pos hl, if_pos (List.forall_mem_cons.mpr ⟨ha, hl⟩)]
        rfl
      · rw [if_neg hl, if_neg fun h => hl (List.forall_mem_cons.mp h).2]
        rfl
    · rw [dif_neg ha, if_neg fun h => ha (List.forall_mem_cons.mp h).1]
      rfl

theorem decodeChannelIn_eq (channelInfo : List iio_info_channel) (data : Fin scanSize → BitVec 8)
    (c : iio_info_channel) :
    decodeChannelIn channelInfo data c =
      if ∀ i ∈ bytesRead channelInfo c, i < scanSize then decodeChannel channelInfo (scan data) c
      else none := by
  have hin : (∀ k ∈ c.ks, offset channelInfo c.index + k < scanSize) ↔
      ∀ i ∈ bytesRead channelInfo c, i < scanSize := by
    simp only [bytesRead, List.forall_mem_map]
  rw [decodeChannelIn, mapM_guard (fun k => offset channelInfo c.index + k < scanSize)
    (fun k h => data ⟨_, h⟩)
    (fun k => scan data (offset channelInfo c.index + k)) (fun k h => by rw [scan, dif_pos h])]
  by_cases h : ∀ i ∈ bytesRead channelInfo c, i < scanSize
  · rw [if_pos (hin.mpr h), if_pos h]
    rfl
  · rw [if_neg (hin.not.mpr h), if_neg h]
    rfl

theorem decodeChannelIn_isSome_iff (channelInfo : List iio_info_channel) (data : Fin scanSize → BitVec 8)
    (c : iio_info_channel) :
    (decodeChannelIn channelInfo data c).isSome ↔
      (∀ i ∈ bytesRead channelInfo c, i < scanSize) ∧ (decodeChannel channelInfo (scan data) c).isSome := by
  rw [decodeChannelIn_eq]
  by_cases h : ∀ i ∈ bytesRead channelInfo c, i < scanSize
  · rw [if_pos h]
    exact (and_iff_right h).symm
  · rw [if_neg h]
    exact iff_of_false Bool.false_ne_true fun hall => h hall.1

theorem decodeIn_isSome_iff (channelInfo : List iio_info_channel) (data : Fin scanSize → BitVec 8)
    (rest : List iio_info_channel) (stack : Fin NUM_OF_DATA_CHANNELS → ℤ) :
    (decodeIn channelInfo data rest stack).isSome ↔
      ∀ c ∈ rest, ((∀ i ∈ bytesRead channelInfo c, i < scanSize) ∧ c.index < NUM_OF_DATA_CHANNELS) ∧
        (decodeChannel channelInfo (scan data) c).isSome := by
  induction rest generalizing stack with
  | nil => simp [decodeIn]
  | cons c rest ih =>
    have hc := decodeChannelIn_isSome_iff channelInfo data c
    rw [decodeIn, List.forall_mem_cons]
    cases hval : decodeChannelIn channelInfo data c with
    | none =>
      rw [hval] at hc
      refine iff_of_false (by simp) fun hall => ?_
      exact Bool.false_ne_true (hc.mpr ⟨hall.1.1.1, hall.1.2⟩)
    | some val =>
      rw [hval] at hc
      obtain ⟨hbytes, hsome⟩ := hc.mp rfl
      by_cases hindex : c.index < NUM_OF_DATA_CHANNELS
      · simp only [Option.bind_eq_bind, Option.bind_some, dif_pos hindex, ih]
        exact (and_iff_right ⟨⟨hbytes, hindex⟩, hsome⟩).symm
      · simp [hindex]

/-- Inside of its bounds the loop is the one over the memory behind the scan. -/
theorem decode_of_decodeIn {channelInfo : List iio_info_channel} {data : Fin scanSize → BitVec 8}
    {rest : List iio_info_channel} {stack channelData : Fin NUM_OF_DATA_CHANNELS → ℤ}
    (h : decodeIn channelInfo data rest stack = some channelData) {stack' : ℕ → ℤ}
    (hstack : ∀ i, stack' i.val = stack i) :
    ∃ channelData', decode channelInfo (scan data) rest stack' = some channelData' ∧
      ∀ i, channelData' i.val = channelData i := by
  induction rest generalizing stack stack' with
  | nil =>
    rw [decodeIn, Option.some_inj] at h
    exact ⟨stack', rfl, fun i => by rw [hstack, h]⟩
  | cons c rest ih =>
    rw [decodeIn] at h
    obtain ⟨val, hval, h⟩ := Option.bind_eq_some_iff.mp h
    rw [decodeChannelIn_eq] at hval
    obtain ⟨_, hval⟩ := Option.ite_none_right_eq_some.mp hval
    by_cases hindex : c.index < NUM_OF_DATA_CHANNELS
    · rw [dif_pos hindex] at h
      have hnext (i : Fin NUM_OF_DATA_CHANNELS) :
          Function.update stack' c.index val i.val = Function.update stack ⟨c.index, hindex⟩ val i := by
        by_cases hi : i = ⟨c.index, hindex⟩
        · rw [hi, Function.update_self, Function.update_self]
        · rw [Function.update_of_ne hi, Function.update_of_ne fun heq => hi (Fin.ext heq), hstack]
      obtain ⟨channelData', hrun, heq⟩ := ih h hnext
      refine ⟨channelData', ?_, heq⟩
      rw [decode, hval]
      exact hrun
    · rw [dif_neg hindex] at h
      cases h

theorem getChannelData_isSome_iff (channelData : Fin NUM_OF_DATA_CHANNELS → ℤ) (map : ℤ) (negate : Bool) :
    (getChannelData channelData map negate).isSome ↔ 0 ≤ map ∧ map < NUM_OF_DATA_CHANNELS := by
  rw [getChannelData]
  split_ifs with h <;> simp [h]

theorem payload_isSome_iff (s : HWSensorBase) (channelData : Fin NUM_OF_DATA_CHANNELS → ℤ) :
    (s.payload channelData).isSome ↔ ∀ e ∈ s.entriesRead, 0 ≤ e ∧ e < NUM_OF_DATA_CHANNELS := by
  have hget (map : ℤ) := getChannelData_isSome_iff channelData map false
  rw [HWSensorBase.payload, HWSensorBase.entriesRead]
  have hscalar (map : ℤ) (f : ℚ → Payload) :
      ((getChannelData channelData map false).bind fun v => some (f v)).isSome ↔
        ∀ e ∈ [map], 0 ≤ e ∧ e < NUM_OF_DATA_CHANNELS := by
    rw [List.forall_mem_singleton, ← hget]
    cases getChannelData channelData map false <;> simp
  have hvec :
      ((getChannelData channelData s.axes.x.map false).bind fun x =>
          (getChannelData channelData s.axes.y.map false).bind fun y =>
            (getChannelData channelData s.axes.z.map false).bind fun z =>
              some (Payload.vec3 (x * s.mIioData.scale_mag) (y * s.mIioData.scale_mag)
                (z * s.mIioData.scale_mag))).isSome ↔
        ∀ e ∈ [s.axes.x.map, s.axes.y.map, s.axes.z.map], 0 ≤ e ∧ e < NUM_OF_DATA_CHANNELS := by
    rw [List.forall_mem_cons, List.forall_mem_cons, List.forall_mem_singleton, ← hget, ← hget, ← hget]
    cases getChannelData channelData s.axes.x.map false <;>
      cases getChannelData channelData s.axes.y.map false <;>
        cases getChannelData channelData s.axes.z.map false <;> simp
  cases s.mIioData.type with
  | ACCELEROMETER | MAGNETIC_FIELD | GYROSCOPE => exact hvec
  | PRESSURE | AMBIENT_TEMPERATURE => exact hscalar _ _
  | LIGHT | STEP_COUNTER => exact iff_of_true rfl fun e he => absurd he List.not_mem_nil

/-- A scan becomes an event when every access is inside of its bounds and no word is shifted too far. -/
theorem processScanData_isSome_iff (s : HWSensorBase) (data : Fin scanSize → BitVec 8)
    (stack : Fin NUM_OF_DATA_CHANNELS → ℤ) (now : ℤ) :
    (s.processScanData data stack now).isSome ↔
      s.InBounds ∧ ∀ c ∈ s.mIioData.channelInfo,
        (decodeChannel s.mIioData.channelInfo (scan data) c).isSome := by
  have hrun : (s.processScanData data stack now).isSome ↔
      (decodeIn s.mIioData.channelInfo data s.mIioData.channelInfo stack).isSome ∧
        ∀ e ∈ s.entriesRead, 0 ≤ e ∧ e < NUM_OF_DATA_CHANNELS := by
    rw [HWSensorBase.processScanData]
    cases decodeIn s.mIioData.channelInfo data s.mIioData.channelInfo stack with
    | none => simp
    | some channelData =>
      rw [← payload_isSome_iff s channelData]
      cases hpayload : s.payload channelData <;> simp [hpayload]
  rw [hrun, decodeIn_isSome_iff]
  constructor
  · rintro ⟨hall, hread⟩
    exact ⟨⟨fun c hc => (hall c hc).1.1, fun c hc => (hall c hc).1.2, hread⟩, fun c hc => (hall c hc).2⟩
  · rintro ⟨⟨hbytes, hwritten, hread⟩, hsome⟩
    exact ⟨fun c hc => ⟨⟨hbytes c hc, hwritten c hc⟩, hsome c hc⟩, hread⟩

/-! ### Staying inside -/

/-- The channel's bytes, with the two skipped in front of a timestamp, are among those of a scan. -/
def iio_info_channel.FitsScan (channelInfo : List iio_info_channel) (c : iio_info_channel) : Prop :=
  if c.big_endian then
    c.storage_bytes ≤ c.shift_timestamp ∨ storageBelow channelInfo c.index + c.storage_bytes ≤ scanSize
  else
    c.storage_bytes = 0 ∨ storageBelow channelInfo c.index + c.shift_timestamp + c.storage_bytes ≤ scanSize

instance (channelInfo : List iio_info_channel) (c : iio_info_channel) : Decidable (c.FitsScan channelInfo) :=
  inferInstanceAs (Decidable (if c.big_endian = true then
    c.storage_bytes ≤ c.shift_timestamp ∨ storageBelow channelInfo c.index + c.storage_bytes ≤ scanSize
  else c.storage_bytes = 0 ∨
    storageBelow channelInfo c.index + c.shift_timestamp + c.storage_bytes ≤ scanSize))

theorem bytesRead_lt_iff (channelInfo : List iio_info_channel) (c : iio_info_channel) :
    (∀ i ∈ bytesRead channelInfo c, i < scanSize) ↔ c.FitsScan channelInfo := by
  simp only [bytesRead, List.forall_mem_map, offset_eq, ks, iio_info_channel.FitsScan]
  cases c.big_endian with
  | true =>
    simp only [if_true, List.mem_range'_1]
    constructor
    · intro h
      by_contra hnot
      have := h (c.storage_bytes - 1) (by omega)
      omega
    · rintro h k hk
      omega
  | false =>
    simp only [Bool.false_eq_true, if_false, List.mem_reverse, List.mem_range'_1]
    constructor
    · intro h
      by_contra hnot
      have := h (c.shift_timestamp + c.storage_bytes - 1) (by omega)
      omega
    · rintro h k hk
      omega

/-- A sensor has the device data and the orientation that it was built from. -/
theorem buildSensor_eq {iio_data : iio_device_data} {config : Option (List Configuration)} {s : HWSensorBase}
    {logged : List Logged} (h : buildSensor iio_data config = some (s, logged)) :
    s.mIioData = iio_data ∧ setOrientation config = some s.axes := by
  rw [buildSensor] at h
  obtain ⟨axes, haxes, h⟩ := Option.bind_eq_some_iff.mp h
  obtain ⟨placement, _, h⟩ := Option.bind_eq_some_iff.mp h
  obtain ⟨rfl, _⟩ := Prod.mk.injEq .. ▸ Option.some_inj.mp h
  exact ⟨rfl, haxes⟩

/-- The configuration asks for a rotation by the axes `x`, `y` and `z`. -/
def Rotated (config : Option (List Configuration)) (x y z : AxisType) : Prop :=
  (getOrientation config).bind List.head? = some ⟨true, some x, some y, some z⟩

/-- The orientation is the rotation that is asked for, or the default one. -/
theorem setOrientation_cases {config : Option (List Configuration)} {axes : Axes}
    (h : setOrientation config = some axes) :
    Rotated config axes.x axes.y axes.z ∨ axes = setAxisDefaultValues ∧ ∀ x y z, ¬ Rotated config x y z := by
  rw [setOrientation] at h
  simp only [Rotated]
  cases horient : getOrientation config with
  | none =>
    rw [horient, Option.some_inj] at h
    exact .inr ⟨h.symm, fun x y z hrot => nomatch hrot⟩
  | some l =>
    rw [horient] at h
    cases l with
    | nil => exact .inr ⟨(Option.some_inj.mp h).symm, fun x y z hrot => nomatch hrot⟩
    | cons o rest =>
      obtain ⟨rotate, ox, oy, oz⟩ := o
      cases rotate with
      | true =>
        obtain ⟨x, rfl, h⟩ := Option.bind_eq_some_iff.mp h
        obtain ⟨y, rfl, h⟩ := Option.bind_eq_some_iff.mp h
        obtain ⟨z, rfl, h⟩ := Option.bind_eq_some_iff.mp h
        obtain rfl := Option.some_inj.mp h
        exact .inl rfl
      | false =>
        refine .inr ⟨(Option.some_inj.mp h).symm, fun x y z hrot => ?_⟩
        exact Bool.false_ne_true (congrArg Orientation.rotate (Option.some_inj.mp hrot))

theorem setOrientation_of_rotated {config : Option (List Configuration)} {x y z : AxisType}
    (h : Rotated config x y z) : setOrientation config = some ⟨x, y, z⟩ := by
  obtain ⟨l, hl, hhead⟩ := Option.bind_eq_some_iff.mp h
  obtain ⟨rest, rfl⟩ := List.head?_eq_some_iff.mp hhead
  rw [setOrientation, hl]
  rfl

theorem entriesRead_iff (s : HWSensorBase) :
    (∀ e ∈ s.entriesRead, 0 ≤ e ∧ e < NUM_OF_DATA_CHANNELS) ↔
      (ThreeAxis s.mIioData.type → ∀ a ∈ [s.axes.x, s.axes.y, s.axes.z], 0 ≤ a.map ∧ a.map ≤ 2) := by
  have hvec : (∀ e ∈ [s.axes.x.map, s.axes.y.map, s.axes.z.map], 0 ≤ e ∧ e < NUM_OF_DATA_CHANNELS) ↔
      ∀ a ∈ [s.axes.x, s.axes.y, s.axes.z], 0 ≤ a.map ∧ a.map ≤ 2 := by
    simp only [List.forall_mem_cons, List.not_mem_nil, false_implies, implies_true, and_true,
      NUM_OF_DATA_CHANNELS, NUM_OF_CHANNEL_SUPPORTED]
    omega
  rw [HWSensorBase.entriesRead]
  cases htype : s.mIioData.type with
  | ACCELEROMETER | MAGNETIC_FIELD | GYROSCOPE =>
    exact ⟨fun h _ => hvec.mp h, fun h => hvec.mpr (h (by decide))⟩
  | PRESSURE =>
    exact iff_of_true (show ∀ e ∈ [(0 : ℤ)], 0 ≤ e ∧ e < NUM_OF_DATA_CHANNELS by decide) fun hthree =>
      absurd hthree (by decide)
  | AMBIENT_TEMPERATURE =>
    exact iff_of_true (show ∀ e ∈ [(1 : ℤ)], 0 ≤ e ∧ e < NUM_OF_DATA_CHANNELS by decide) fun hthree =>
      absurd hthree (by decide)
  | LIGHT | STEP_COUNTER =>
    exact iff_of_true (fun e he => absurd he List.not_mem_nil) fun hthree => absurd hthree (by decide)

/-- Every access is inside of its bounds when no channel, the timestamp included, has an index above two,
    every channel fits the scan, and a rotation maps the axes to data channels. -/
theorem scan_in_bounds_iff {iio_data : iio_device_data} {config : Option (List Configuration)}
    {s : HWSensorBase}
    {logged : List Logged} (h : buildSensor iio_data config = some (s, logged)) :
    s.InBounds ↔
      (∀ c ∈ iio_data.channelInfo, c.index ≤ 2 ∧ c.FitsScan iio_data.channelInfo) ∧
        (ThreeAxis iio_data.type → ∀ x y z, Rotated config x y z →
          ∀ a ∈ [x, y, z], 0 ≤ a.map ∧ a.map ≤ 2) := by
  obtain ⟨hdata, haxes⟩ := buildSensor_eq h
  have hmaps : (∀ a ∈ [s.axes.x, s.axes.y, s.axes.z], 0 ≤ a.map ∧ a.map ≤ 2) ↔
      ∀ x y z, Rotated config x y z → ∀ a ∈ [x, y, z], 0 ≤ a.map ∧ a.map ≤ 2 := by
    rcases setOrientation_cases haxes with hrot | ⟨hdef, hnone⟩
    · refine ⟨fun hall x y z hrot' => ?_, fun hall => hall _ _ _ hrot⟩
      have heq := haxes.symm.trans (setOrientation_of_rotated hrot')
      rw [Option.some_inj] at heq
      rw [heq] at hall
      exact hall
    · refine iff_of_true ?_ fun x y z hrot => absurd hrot (hnone x y z)
      rw [hdef]
      decide
  rw [← hmaps, ← hdata, ← entriesRead_iff]
  constructor
  · rintro ⟨hbytes, hwritten, hread⟩
    exact ⟨fun c hc => ⟨Nat.lt_succ_iff.mp (hwritten c hc), (bytesRead_lt_iff _ c).mp (hbytes c hc)⟩, hread⟩
  · rintro ⟨hall, hread⟩
    exact ⟨fun c hc => (bytesRead_lt_iff _ c).mpr (hall c hc).2,
      fun c hc => Nat.lt_succ_iff.mpr (hall c hc).1, hread⟩

/-- An accelerometer whose timestamp comes behind its three axes. -/
def fxos8700 : iio_device_data :=
  ⟨"fxos8700", 1, .ACCELEROMETER,
    [⟨"in_accel_x", 0, 2, 16, 0, true, true⟩, ⟨"in_accel_y", 1, 2, 16, 0, true, true⟩,
      ⟨"in_accel_z", 2, 2, 16, 0, true, true⟩, ⟨"in_timestamp", 3, 8, 64, 0, false, true⟩]⟩

/-- Its configuration. -/
def fxos8700Config : Option (List Configuration) :=
  some [⟨[⟨true, some ⟨0, false⟩, some ⟨1, true⟩, some ⟨2, true⟩⟩], [⟨0, 0, 0⟩]⟩]

/-- The same device without the timestamp. -/
def withoutTimestamp : iio_device_data := { fxos8700 with channelInfo := fxos8700.channelInfo.take 3 }

theorem withoutTimestamp_in_bounds :
    ∃ s logged, buildSensor withoutTimestamp fxos8700Config = some (s, logged) ∧
    s.InBounds := by
  have hbuild : buildSensor withoutTimestamp fxos8700Config = some (⟨withoutTimestamp, _, _⟩, []) := rfl
  refine ⟨_, _, hbuild, (scan_in_bounds_iff hbuild).mpr ⟨by decide +kernel, fun _ x y z hrot => ?_⟩⟩
  obtain ⟨rfl, rfl, rfl⟩ : (⟨0, false⟩ : AxisType) = x ∧ (⟨1, true⟩ : AxisType) = y ∧
    (⟨2, true⟩ : AxisType) = z := by
    simpa [Rotated, getOrientation, fxos8700Config] using hrot
  decide

/-- Both checks pass, and the timestamp is written behind the last entry of the array. -/
theorem timestamp_out_of_bounds : ∃ s, buildSensor fxos8700 fxos8700Config = some (s, []) ∧ ¬ s.InBounds :=
  ⟨_, rfl, fun hin => absurd (hin.written ⟨"in_timestamp", 3, 8, 64, 0, false, true⟩ (by decide)) (by decide)⟩

/-! ### Turning the axes -/

/-- The sample of the channel that an axis is mapped to. -/
def mapped (sample : Fin NUM_OF_DATA_CHANNELS → ℤ) (map : ℤ) : ℚ :=
  if h : 0 ≤ map ∧ map < NUM_OF_DATA_CHANNELS then (sample ⟨map.toNat, by omega⟩ : ℚ) else 0

/-- What the configuration says of a component of the event. -/
def oriented (sample : Fin NUM_OF_DATA_CHANNELS → ℤ) (a : AxisType) : ℚ :=
  if a.negate then -mapped sample a.map else mapped sample a.map

theorem getChannelData_of_valid {a : AxisType} (h : 0 ≤ a.map ∧ a.map < NUM_OF_DATA_CHANNELS)
    (sample : Fin NUM_OF_DATA_CHANNELS → ℤ) :
    getChannelData sample a.map false = some (mapped sample a.map) := by
  rw [getChannelData, mapped, dif_pos h, dif_pos h]
  rfl

theorem mapped_eq_oriented_iff (sample : Fin NUM_OF_DATA_CHANNELS → ℤ) (a : AxisType) (scale : ℚ) :
    mapped sample a.map * scale = oriented sample a * scale ↔
      (a.negate = true → mapped sample a.map * scale = 0) := by
  rw [oriented]
  cases a.negate with
  | false => simp
  | true =>
    simp only [if_true, forall_const]
    constructor <;> intro h <;> linarith

/-- A configuration that passes the check maps its axes to data channels. -/
theorem checkOrientation_ok {config : Option (List Configuration)} {x y z : AxisType}
    (hrot : Rotated config x y z)
    (h : checkOrientation config = .OK) : ∀ a ∈ [x, y, z], 0 ≤ a.map ∧ a.map < NUM_OF_DATA_CHANNELS := by
  have haxis {map : ℤ} (hmap : checkAxis map = .OK) : 0 ≤ map ∧ map < NUM_OF_DATA_CHANNELS := by
    rw [checkAxis] at hmap
    split_ifs at hmap with hout
    omega
  obtain ⟨l, hl, hhead⟩ := Option.bind_eq_some_iff.mp hrot
  obtain ⟨rest, rfl⟩ := List.head?_eq_some_iff.mp hhead
  rw [checkOrientation, hl] at h
  simp only at h
  split_ifs at h with hx hy hz
  · exact absurd h hx
  · exact absurd h hy
  · exact absurd h hz
  · simp only [List.forall_mem_cons, List.not_mem_nil, false_implies, implies_true, and_true]
    exact ⟨haxis (not_not.mp hx), haxis (not_not.mp hy), haxis (not_not.mp hz)⟩

/-- With a rotation no axis is looked up for the placement. -/
theorem getSensorPlacement_of_rotated {config : Option (List Configuration)} {x y z : AxisType}
    (h : Rotated config x y z) : ∃ placement, (getSensorPlacement config).run = some placement := by
  obtain ⟨l, hl, hhead⟩ := Option.bind_eq_some_iff.mp h
  obtain ⟨rest, rfl⟩ := List.head?_eq_some_iff.mp hhead
  rw [getSensorPlacement, hl]
  cases hloc : getLocation config with
  | none => exact ⟨_, rfl⟩
  | some ls =>
    cases ls with
    | nil => exact ⟨_, rfl⟩
    | cons l ls => exact ⟨_, rfl⟩

theorem buildSensor_of_rotated (iio_data : iio_device_data) {config : Option (List Configuration)}
    {x y z : AxisType}
    (h : Rotated config x y z) :
    ∃ placement logged, buildSensor iio_data config = some (⟨iio_data, ⟨x, y, z⟩, placement⟩, logged) := by
  obtain ⟨placement, hplacement⟩ := getSensorPlacement_of_rotated h
  rw [buildSensor, setOrientation_of_rotated h]
  simp only [hplacement]
  exact ⟨placement, _, rfl⟩

/-- The payload never has a sign turned. -/
theorem payload_of_valid {s : HWSensorBase} (htype : ThreeAxis s.mIioData.type)
    (hmaps : ∀ a ∈ [s.axes.x, s.axes.y, s.axes.z], 0 ≤ a.map ∧ a.map < NUM_OF_DATA_CHANNELS)
    (sample : Fin NUM_OF_DATA_CHANNELS → ℤ) :
    s.payload sample = some (.vec3 (mapped sample s.axes.x.map * s.mIioData.scale_mag)
      (mapped sample s.axes.y.map * s.mIioData.scale_mag)
        (mapped sample s.axes.z.map * s.mIioData.scale_mag)) := by
  have hx := getChannelData_of_valid (hmaps s.axes.x (by simp)) sample
  have hy := getChannelData_of_valid (hmaps s.axes.y (by simp)) sample
  have hz := getChannelData_of_valid (hmaps s.axes.z (by simp)) sample
  rw [HWSensorBase.payload, hx, hy, hz]
  simp only [ThreeAxis, List.mem_cons, List.not_mem_nil, or_false] at htype
  obtain h | h | h := htype <;> rw [h] <;> rfl

/-- A sensor is built from a rotation, and its events have the axes turned when those whose sign is to be
    turned read zero. -/
theorem orientation_iff {iio_data : iio_device_data} {config : Option (List Configuration)} {x y z : AxisType}
    (htype : ThreeAxis iio_data.type) (hrot : Rotated config x y z) (hvalid : checkOrientation config = .OK) :
    ∃ s logged, buildSensor iio_data config = some (s, logged) ∧
      ∀ data stack now sample, decodeIn iio_data.channelInfo data iio_data.channelInfo stack = some sample →
        (s.processScanData data stack now = some ⟨iio_data.type,
            .vec3 (oriented sample x * iio_data.scale_mag) (oriented sample y * iio_data.scale_mag)
              (oriented sample z * iio_data.scale_mag), now⟩ ↔
          ∀ a ∈ [x, y, z], a.negate = true → mapped sample a.map * iio_data.scale_mag = 0) := by
  obtain ⟨placement, logged, hbuild⟩ := buildSensor_of_rotated iio_data hrot
  refine ⟨_, logged, hbuild, fun data stack now sample hsample => ?_⟩
  have hpayload := payload_of_valid (s := ⟨iio_data, ⟨x, y, z⟩, placement⟩) htype
    (checkOrientation_ok hrot hvalid)
    sample
  have hevent : HWSensorBase.processScanData ⟨iio_data, ⟨x, y, z⟩, placement⟩ data stack now =
      some ⟨iio_data.type, .vec3 (mapped sample x.map * iio_data.scale_mag)
        (mapped sample y.map * iio_data.scale_mag) (mapped sample z.map * iio_data.scale_mag), now⟩ := by
    rw [HWSensorBase.processScanData, hsample]
    simp only [Option.bind_eq_bind, Option.bind_some, hpayload]
  rw [hevent, Option.some_inj, Event.mk.injEq, Payload.vec3.injEq]
  simp only [true_and, and_true, mapped_eq_oriented_iff, List.forall_mem_cons, List.not_mem_nil,
    false_implies, implies_true]

/-- The device turned by a quarter, with no sign to be turned. -/
def swapped : Option (List Configuration) :=
  some [⟨[⟨true, some ⟨1, false⟩, some ⟨0, false⟩, some ⟨2, false⟩⟩], []⟩]

theorem swapped_honoured :
    ∃ s logged, buildSensor withoutTimestamp swapped = some (s, logged) ∧
      ∀ data stack now sample,
        decodeIn withoutTimestamp.channelInfo data withoutTimestamp.channelInfo stack = some sample →
          s.processScanData data stack now = some ⟨.ACCELEROMETER,
            .vec3 (oriented sample ⟨1, false⟩ * withoutTimestamp.scale_mag)
              (oriented sample ⟨0, false⟩ * withoutTimestamp.scale_mag)
              (oriented sample ⟨2, false⟩ * withoutTimestamp.scale_mag), now⟩ := by
  have hrot : Rotated swapped ⟨1, false⟩ ⟨0, false⟩ ⟨2, false⟩ := rfl
  obtain ⟨s, logged, hbuild, hevent⟩ := orientation_iff (show ThreeAxis withoutTimestamp.type by decide)
    hrot (by decide)
  refine ⟨s, logged, hbuild, fun data stack now sample hsample =>
    (hevent data stack now sample hsample).mpr ?_⟩
  simp

/-- Lying on its back: the third axis is to be turned, and is not. -/
theorem orientation_unused :
    Rotated fxos8700Config ⟨0, false⟩ ⟨1, true⟩ ⟨2, true⟩ ∧ checkOrientation fxos8700Config = .OK ∧
      ∃ s logged, buildSensor withoutTimestamp fxos8700Config = some (s, logged) ∧
        s.processScanData (fun i => if i = 4 then 0x40 else 0) 0 0 =
          some ⟨.ACCELEROMETER, .vec3 0 0 16384, 0⟩ :=
  ⟨rfl, by decide, _, _, rfl, by decide +kernel⟩

end ImxHal.Sensor.Scan
