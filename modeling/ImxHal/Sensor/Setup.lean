import ImxHal.Schemes.Run
import ImxHal.Sensor.SharedIio

/-! @src sensor/SensorsSubHal.cpp (constructor, getSensorConfiguration, AddSensor, setOperationMode),
    sensor/Sensor.cpp (SensorBase: constructor, setOperationMode, supportsDataInjection) | name:sensor setup |
    scheme:run | family:error handling

    The sub-HAL adds a sensor for every IIO device, with the configuration that the XML file has for its
    name and type. A device whose channels cannot be scanned, or that cannot be switched off, is added all
    the same, with what the loop's variable holds. Later the mode of all sensors is set in one pass over
    them, which stops at the first that refuses.

        device     d₁ ready   d₂ fails   d₃ ready   d₄ fails
        variable     c₁          c₁         c₃         c₃ -/

namespace ImxHal.Sensor.Setup

/-- The values of the type in the HIDL interface. -/
def value : SensorType → ℤ
  | .ACCELEROMETER => 1
  | .MAGNETIC_FIELD => 2
  | .GYROSCOPE => 4
  | .LIGHT => 5
  | .PRESSURE => 6
  | .AMBIENT_TEMPERATURE => 13
  | .STEP_COUNTER => 19

inductive OperationMode
  | NORMAL | DATA_INJECTION
  deriving DecidableEq

inductive Result
  | OK | INVALID_OPERATION
  deriving DecidableEq

/-- A device with what `scan_elements` and `enable_sensor` return for it. -/
structure iio_device_data where
  name : String
  type : SensorType
  scan_elements : ℤ
  enable_sensor : ℤ
  deriving DecidableEq

variable {Configuration : Type}

/-- A sensor of the XML file. -/
structure XmlSensor (Configuration : Type) where
  name : String
  type : ℤ
  configuration : List Configuration

structure SensorBase (Configuration : Type) where
  sensorHandle : ℤ
  mIioData : iio_device_data
  config : Option (List Configuration)
  mMode : OperationMode
  deriving DecidableEq

structure SensorsSubHal (Configuration : Type) where
  mSensors : List (SensorBase Configuration)
  mNextHandle : ℤ
  mCurrentOperationMode : OperationMode
  deriving DecidableEq

/-- The type in the file has 64 bits, the enumeration 32. -/
def getSensorConfiguration (sensor_list : List (XmlSensor Configuration)) (name : String)
    (type : SensorType) :
    Option (List Configuration) :=
  (sensor_list.find? fun sensor => name = sensor.name && value type = sensor.type.bmod (2 ^ 32)).map
    (·.configuration)

def SensorsSubHal.AddSensor (σ : SensorsSubHal Configuration) (iio_data : iio_device_data)
    (config : Option (List Configuration)) : SensorsSubHal Configuration :=
  { σ with
    mSensors := σ.mSensors ++ [⟨σ.mNextHandle, iio_data, config, .NORMAL⟩]
    mNextHandle := σ.mNextHandle + 1 }

/-- `sensor_configuration` after the steps for one device. -/
def nextConfiguration (sensors_config_list : Option (List (XmlSensor Configuration)))
    (iio_device : iio_device_data)
    (sensor_configuration : Option (List Configuration)) : Option (List Configuration) :=
  if iio_device.scan_elements = 0 then
    if iio_device.enable_sensor = 0 then
      match sensors_config_list with
      | some l => getSensorConfiguration l iio_device.name iio_device.type
      | none => sensor_configuration
    else sensor_configuration
  else sensor_configuration

/-- The loop over the devices. -/
def addSensors (sensors_config_list : Option (List (XmlSensor Configuration))) :
    List iio_device_data → Option (List Configuration) → SensorsSubHal Configuration →
      SensorsSubHal Configuration
  | [], _, σ => σ
  | iio_device :: rest, sensor_configuration, σ =>
    let next := nextConfiguration sensors_config_list iio_device sensor_configuration
    addSensors sensors_config_list rest next (σ.AddSensor iio_device next)

/-- The constructor; `err` is what `load_iio_devices` returns. -/
def construct (sensors_config_list : Option (List (XmlSensor Configuration))) (err : ℤ)
    (iio_devices : List iio_device_data) : SensorsSubHal Configuration :=
  if err = 0 then addSensors sensors_config_list iio_devices none ⟨[], 1, .NORMAL⟩ else ⟨[], 1, .NORMAL⟩

/-- The flag is given to the sensors with three axes. -/
def supportsDataInjection (type : SensorType) : Bool :=
  type == .ACCELEROMETER || type == .MAGNETIC_FIELD || type == .GYROSCOPE

def SensorBase.refuses (s : SensorBase Configuration) (mode : OperationMode) : Bool :=
  s.mIioData.type == .STEP_COUNTER && mode == .DATA_INJECTION && !supportsDataInjection s.mIioData.type

def SensorBase.setOperationMode (s : SensorBase Configuration) (mode : OperationMode) :
    SensorBase Configuration :=
  if s.mMode ≠ mode then { s with mMode := mode } else s

/-- The loop over the sensors, and whether it returns from within. -/
def setModes (mode : OperationMode) : List (SensorBase Configuration) → List (SensorBase Configuration) × Bool
  | [] => ([], false)
  | s :: rest =>
    if s.refuses mode then (s :: rest, true)
    else (s.setOperationMode mode :: (setModes mode rest).1, (setModes mode rest).2)

def SensorsSubHal.setOperationMode (σ : SensorsSubHal Configuration) (mode : OperationMode) :
    SensorsSubHal Configuration × Result :=
  let (mSensors, refused) := setModes mode σ.mSensors
  if refused then ({ σ with mSensors := mSensors }, .INVALID_OPERATION)
  else ({ σ with mSensors := mSensors, mCurrentOperationMode := mode }, .OK)

/-! ### Configurations -/

def iio_device_data.ready (d : iio_device_data) : Bool := d.scan_elements == 0 && d.enable_sensor == 0

/-- The configuration of the device's own name and type. -/
def ownConfiguration (sensors_config_list : Option (List (XmlSensor Configuration))) (d : iio_device_data) :
    Option (List Configuration) :=
  sensors_config_list.bind fun l => getSensorConfiguration l d.name d.type

/-- What the devices before leave in the loop's variable: the configuration of the last that was ready. -/
def carried (sensors_config_list : Option (List (XmlSensor Configuration))) (before : List iio_device_data) :
    Option (List Configuration) :=
  (before.filter (·.ready)).getLast?.bind (ownConfiguration sensors_config_list)

variable {sensors_config_list : Option (List (XmlSensor Configuration))}

/-- The sensor has its own configuration or none. -/
def OwnOrNone (sensors_config_list : Option (List (XmlSensor Configuration)))
    (s : SensorBase Configuration) : Prop :=
  s.config = none ∨ s.config = ownConfiguration sensors_config_list s.mIioData

theorem nextConfiguration_eq (d : iio_device_data) (sensor_configuration : Option (List Configuration))
    (h : sensors_config_list = none → sensor_configuration = none) :
    nextConfiguration sensors_config_list d sensor_configuration =
      if d.ready then ownConfiguration sensors_config_list d else sensor_configuration := by
  rw [nextConfiguration.eq_def, iio_device_data.ready, ownConfiguration]
  by_cases hscan : d.scan_elements = 0 <;> by_cases henable : d.enable_sensor = 0
  · cases sensors_config_list with
    | none => simp [hscan, henable, h]
    | some l => simp [hscan, henable]
  all_goals simp [hscan, henable]

theorem carried_of_none (before : List iio_device_data) :
    carried (none : Option (List (XmlSensor Configuration))) before = none := by
  rw [carried]
  cases (before.filter (·.ready)).getLast? <;> rfl

theorem carried_append (before : List iio_device_data) (d : iio_device_data) :
    nextConfiguration sensors_config_list d (carried sensors_config_list before) =
      carried sensors_config_list (before ++ [d]) := by
  rw [nextConfiguration_eq d _ fun hnone => by rw [hnone, carried_of_none], carried, carried,
    List.filter_append]
  cases hready : d.ready with
  | true => rw [if_pos rfl, List.filter_cons_of_pos hready, List.filter_nil, List.getLast?_concat,
    Option.bind_some]
  | false =>
    rw [if_neg Bool.false_ne_true, List.filter_cons_of_neg (by rw [hready]; exact Bool.false_ne_true),
      List.filter_nil, List.append_nil]

theorem nextConfiguration_of_ready {d : iio_device_data}
    (h : d.ready = true) (before : List iio_device_data) :
    nextConfiguration sensors_config_list d (carried sensors_config_list before) =
      ownConfiguration sensors_config_list d := by
  rw [nextConfiguration_eq d _ fun hnone => by rw [hnone, carried_of_none], if_pos h]

/-- What is carried over to a device that is not ready does it no harm. -/
def CarriedHarmless (sensors_config_list : Option (List (XmlSensor Configuration)))
    (before : List iio_device_data)
    (d : iio_device_data) : Prop :=
  d.ready = false → ∀ e, (before.filter (·.ready)).getLast? = some e →
    ownConfiguration sensors_config_list e = none ∨
      ownConfiguration sensors_config_list e = ownConfiguration sensors_config_list d

theorem ownOrNone_next_iff (before : List iio_device_data) (d : iio_device_data)
    (handle : ℤ) (mode : OperationMode) :
    OwnOrNone sensors_config_list
        ⟨handle, d, nextConfiguration sensors_config_list d (carried sensors_config_list before), mode⟩ ↔
      CarriedHarmless sensors_config_list before d := by
  rw [OwnOrNone, CarriedHarmless]
  cases hready : d.ready with
  | true => exact iff_of_true (.inr (nextConfiguration_of_ready hready before)) fun h => nomatch h
  | false =>
    rw [nextConfiguration_eq d _ fun hnone => by rw [hnone, carried_of_none], hready,
      if_neg Bool.false_ne_true, carried]
    cases (before.filter (·.ready)).getLast? with
    | none => simp
    | some e => simp

/-- One sensor is added for each device of the loop. -/
theorem addSensors_iff (before rest : List iio_device_data) (σ : SensorsSubHal Configuration) :
    (∀ s ∈ (addSensors sensors_config_list rest (carried sensors_config_list before) σ).mSensors,
        OwnOrNone sensors_config_list s) ↔
      (∀ s ∈ σ.mSensors, OwnOrNone sensors_config_list s) ∧
        ∀ mid d after, rest = mid ++ d :: after → CarriedHarmless sensors_config_list (before ++ mid) d := by
  induction rest generalizing before σ with
  | nil =>
    rw [addSensors]
    refine (and_iff_left fun mid d after h => ?_).symm
    exact absurd h.symm (List.append_ne_nil_of_right_ne_nil mid (List.cons_ne_nil d after))
  | cons d rest ih =>
    have hadd : (∀ s ∈ (σ.AddSensor d (nextConfiguration sensors_config_list d
          (carried sensors_config_list before))).mSensors, OwnOrNone sensors_config_list s) ↔
        (∀ s ∈ σ.mSensors, OwnOrNone sensors_config_list s) ∧
          CarriedHarmless sensors_config_list before d := by
      rw [← ownOrNone_next_iff before d σ.mNextHandle .NORMAL]
      simp only [SensorsSubHal.AddSensor, List.mem_append, List.mem_singleton, or_imp, forall_and, forall_eq]
    rw [addSensors]
    simp only [carried_append] at hadd ⊢
    rw [ih, hadd, and_assoc]
    refine and_congr_right fun _ => ⟨?_, ?_⟩
    · rintro ⟨hd, hrest⟩ mid d' after h
      cases mid with
      | nil =>
        obtain ⟨rfl, _⟩ := List.cons.inj h
        rwa [List.append_nil]
      | cons m mid =>
        obtain ⟨rfl, htail⟩ := List.cons.inj h
        rw [List.append_cons]
        exact hrest mid d' after htail
    · intro h
      refine ⟨?_, fun mid d' after hrest => ?_⟩
      · have := h [] d rest rfl
        rwa [List.append_nil] at this
      · rw [List.append_assoc]
        exact h (d :: mid) d' after (by rw [hrest]; rfl)

/-! ### Modes -/

theorem refuses_iff (s : SensorBase Configuration) (mode : OperationMode) :
    s.refuses mode = true ↔ mode = .DATA_INJECTION ∧ s.mIioData.type = .STEP_COUNTER := by
  rw [SensorBase.refuses]
  cases s.mIioData.type <;> cases mode <;> decide

theorem setOperationMode_mode (s : SensorBase Configuration) (mode : OperationMode) :
    (s.setOperationMode mode).mMode = mode := by
  rw [SensorBase.setOperationMode]
  split_ifs with h
  · rfl
  · exact not_not.mp h

/-- The modes are set up to the first sensor that refuses. -/
theorem setModes_eq (mode : OperationMode) (l : List (SensorBase Configuration)) :
    setModes mode l =
      ((l.takeWhile fun s => !s.refuses mode).map (·.setOperationMode mode) ++
        l.dropWhile (fun s => !s.refuses mode), l.any (·.refuses mode)) := by
  induction l with
  | nil => rfl
  | cons s rest ih =>
    rw [setModes]
    cases hs : s.refuses mode with
    | true => simp [hs]
    | false => simp [hs, ih]

theorem modes_kept_iff (mode : OperationMode) (l : List (SensorBase Configuration)) :
    (setModes mode l).1.map (·.mMode) = l.map (·.mMode) ↔
      ∀ s ∈ l.takeWhile fun s => !s.refuses mode, s.mMode = mode := by
  have hsplit : l.map (·.mMode) = (l.takeWhile fun s => !s.refuses mode).map (·.mMode) ++
      (l.dropWhile fun s => !s.refuses mode).map (·.mMode) := by
    rw [← List.map_append, List.takeWhile_append_dropWhile]
  rw [setModes_eq, List.map_append, List.map_map, hsplit, List.append_left_inj, List.map_inj_left]
  refine forall₂_congr fun s _ => ?_
  rw [Function.comp_apply, setOperationMode_mode]
  exact eq_comm

/-- Every sensor is added with its own configuration or none when no device that is not ready follows one
    whose configuration is another's; a refused mode leaves all modes as they were when the sensors in
    front of the first step counter have that mode already. -/
theorem setup_independent_iff (sensors_config_list : Option (List (XmlSensor Configuration))) (err : ℤ)
    (iio_devices : List iio_device_data) (σ : SensorsSubHal Configuration) (mode : OperationMode) :
    ((∀ s ∈ (construct sensors_config_list err iio_devices).mSensors, OwnOrNone sensors_config_list s) ↔
      (err = 0 → ∀ before d after, iio_devices = before ++ d :: after →
        CarriedHarmless sensors_config_list before d)) ∧
    (((σ.setOperationMode mode).2 = .INVALID_OPERATION →
        (σ.setOperationMode mode).1.mSensors.map (·.mMode) = σ.mSensors.map (·.mMode) ∧
          (σ.setOperationMode mode).1.mCurrentOperationMode = σ.mCurrentOperationMode) ↔
      (mode = .DATA_INJECTION → (∃ s ∈ σ.mSensors, s.mIioData.type = .STEP_COUNTER) →
        ∀ s ∈ σ.mSensors.takeWhile fun s => s.mIioData.type ≠ .STEP_COUNTER, s.mMode = .DATA_INJECTION)) := by
  refine ⟨?_, ?_⟩
  · rw [construct]
    split_ifs with herr
    · refine (addSensors_iff [] iio_devices ⟨[], 1, .NORMAL⟩).trans ?_
      simp [herr]
    · exact iff_of_true (fun s hs => absurd hs List.not_mem_nil) fun h => absurd h herr
  · have hany : (setModes mode σ.mSensors).2 = true ↔
        mode = .DATA_INJECTION ∧ ∃ s ∈ σ.mSensors, s.mIioData.type = .STEP_COUNTER := by
      rw [setModes_eq, List.any_eq_true]
      simp only [refuses_iff]
      exact ⟨fun ⟨s, hs, hmode, htype⟩ => ⟨hmode, s, hs, htype⟩, fun ⟨hmode, s, hs, htype⟩ =>
        ⟨s, hs, hmode, htype⟩⟩
    have heq : σ.setOperationMode mode =
        if (setModes mode σ.mSensors).2 = true then
          ({ σ with mSensors := (setModes mode σ.mSensors).1 }, .INVALID_OPERATION)
        else ({ σ with mSensors := (setModes mode σ.mSensors).1, mCurrentOperationMode := mode }, .OK) := rfl
    by_cases hrefused : (setModes mode σ.mSensors).2 = true
    · rw [if_pos hrefused] at heq
      rw [heq]
      obtain ⟨rfl, hstep⟩ := hany.mp hrefused
      have hfront : (fun s : SensorBase Configuration => !s.refuses .DATA_INJECTION) =
          fun s => decide (s.mIioData.type ≠ .STEP_COUNTER) := by
        funext s
        rw [Bool.eq_iff_iff, Bool.not_eq_true', Bool.eq_false_iff, Ne, refuses_iff, decide_eq_true_iff]
        simp
      simp only [forall_const, and_true, hstep, modes_kept_iff, hfront]
    · rw [if_neg hrefused] at heq
      rw [heq]
      exact iff_of_true (fun h => nomatch h) fun hmode hstep => absurd (hany.mpr ⟨hmode, hstep⟩) hrefused

/-- The sensor of the file that the accelerometer has its configuration from. -/
def accelerometerConfig : List (XmlSensor String) := [⟨"fxos8700", 1, ["rotate"]⟩]

/-- The light sensor, whose channels cannot be scanned, is added with the configuration of the
    accelerometer; the accelerometer is left in the mode that the step counter refused. -/
theorem setup_dependent :
    (∃ s ∈ (construct (some accelerometerConfig) 0
        [⟨"fxos8700", .ACCELEROMETER, 0, 0⟩, ⟨"isl29023", .LIGHT, -2, 0⟩]).mSensors,
      s.mIioData.name = "isl29023" ∧ s.config = some ["rotate"] ∧
        ¬ OwnOrNone (some accelerometerConfig) s) ∧
    ∃ σ : SensorsSubHal String, (σ.setOperationMode .DATA_INJECTION).2 = .INVALID_OPERATION ∧
      σ.mSensors.map (·.mMode) = [.NORMAL, .NORMAL] ∧
      (σ.setOperationMode .DATA_INJECTION).1.mSensors.map (·.mMode) = [.DATA_INJECTION, .NORMAL] := by
  refine ⟨⟨⟨2, ⟨"isl29023", .LIGHT, -2, 0⟩, some ["rotate"], .NORMAL⟩, by decide +kernel, rfl, rfl,
    fun h => ?_⟩, ⟨[⟨1, ⟨"fxos8700", .ACCELEROMETER, 0, 0⟩, none, .NORMAL⟩,
      ⟨2, ⟨"rpmsg-iio-pedometer", .STEP_COUNTER, 0, 0⟩, none, .NORMAL⟩], 3, .NORMAL⟩,
    by decide, by decide, by decide⟩
  rcases h with h | h
  · exact nomatch h
  · exact absurd h (by decide +kernel)

end ImxHal.Sensor.Setup
