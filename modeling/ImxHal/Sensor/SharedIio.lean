import ImxHal.Schemes.Run
import ImxHal.Schemes.Ledger

/-! @src sensor/Sensor.cpp (HWSensorBase: constructor, activate, destructor), sensor/iio_utils.cpp,
    sensor/SensorsSubHal.cpp (AddSensor, activate) | name:shared IIO devices | scheme:run |
    family:reference counts

    Several sensors can sit on one IIO device: the device's buffer and trigger are switched on with the
    first of them and off with the last, by a static table of use counts. The two sensors of an mpl3115
    moreover share one descriptor of the device file. Sensors that are read through sysfs (no device file,
    or a step counter) are enabled without the buffer.

        enable   0 ──▶ 1   trigger on, buffer on        destroy   entry of the device erased,
        disable  1 ──▶ 0   trigger off, buffer off                descriptor closed -/

namespace ImxHal.Sensor
open ImxHal.Run ImxHal.Ledger

inductive SensorType
  | ACCELEROMETER | MAGNETIC_FIELD | GYROSCOPE | PRESSURE | AMBIENT_TEMPERATURE | LIGHT | STEP_COUNTER
  deriving DecidableEq

structure iio_device_data where
  name : String
  type : SensorType
  iio_dev_num : ℕ
  deriving DecidableEq

/-- A sensor; `fd_raw` are those of its three sysfs files (`fd_acc_x` or `fd_mag_x` and so on) that are
    open. A descriptor is known by its opening, `none` is -1. -/
structure HWSensorBase where
  sensorHandle : ℕ
  mIioData : iio_device_data
  fd : Option ℕ
  fd_raw : List ℕ
  mIsEnabled : Bool
  deriving DecidableEq

def HWSensorBase.fds (s : HWSensorBase) : List ℕ := s.fd.toList ++ s.fd_raw

/-- The guard of `activate`: whether the sensor is read through the device's buffer. -/
def HWSensorBase.streams (s : HWSensorBase) : Bool :=
  s.fd.isSome && s.mIioData.type != .STEP_COUNTER

/-- What sysfs holds for each device number. -/
structure Kernel where
  buffer : ℕ → Bool
  trigger : ℕ → Bool
  in_steps_en : ℕ → Bool

/-- The sub-HAL with the static members of the class, and the descriptors opened and closed. -/
structure SubHal where
  mSensors : List HWSensorBase
  mNextHandle : ℕ
  iioDevNumCountMap : ℕ → Option ℤ
  sharedFd : Option ℕ
  kernel : Kernel
  opened : ℕ
  closed : List ℕ

/-- Which of the files of a new sensor can be opened. -/
structure Files where
  device : Bool
  raw : List Bool

/-- Which of the writes of an activation get through to the kernel. -/
structure Writes where
  trigger : Bool
  buffer : Bool
  in_steps_en : Bool

/-- `iioDevNumCountMap[n]`: a missing entry reads as 0. -/
def SubHal.useCount (σ : SubHal) (n : ℕ) : ℤ := (σ.iioDevNumCountMap n).getD 0

def SubHal.find (σ : SubHal) (handle : ℕ) : Option HWSensorBase :=
  σ.mSensors.find? fun s => s.sensorHandle = handle

def SubHal.openDeviceFile (σ : SubHal) (ok : Bool) : SubHal × Option ℕ :=
  if ok then ({ σ with opened := σ.opened + 1 }, some σ.opened) else (σ, none)

/-- The descriptor of a new sensor, shared between all sensors named mpl3115. -/
def SubHal.pollFd (σ : SubHal) (name : String) (ok : Bool) : SubHal × Option ℕ :=
  if name = "mpl3115" then
    match σ.sharedFd with
    | none =>
      let (σ', fd) := σ.openDeviceFile ok
      ({ σ' with sharedFd := fd.or σ'.sharedFd }, fd)
    | some fd => (σ, some fd)
  else σ.openDeviceFile ok

/-- Whether the constructor opens the three sysfs files. -/
def readsRaw (fd : Option ℕ) (data : iio_device_data) : Bool :=
  (fd.isNone || data.name == "mpl3115" || data.type == .STEP_COUNTER) &&
    (data.type == .ACCELEROMETER || data.type == .MAGNETIC_FIELD)

def SubHal.buildSensor (σ : SubHal) (data : iio_device_data) (files : Files) : SubHal :=
  let σ := match σ.iioDevNumCountMap data.iio_dev_num with
    | none => { σ with
        iioDevNumCountMap := Function.update σ.iioDevNumCountMap data.iio_dev_num (some 0) }
    | some _ => σ
  let (σ, fd) := σ.pollFd data.name files.device
  let raws := if readsRaw fd data then (files.raw.take 3).count true else 0
  { σ with
    mSensors := σ.mSensors ++ [⟨σ.mNextHandle, data, fd, List.range' σ.opened raws, false⟩]
    mNextHandle := σ.mNextHandle + 1
    opened := σ.opened + raws }

def Kernel.add_trigger (k : Kernel) (dev_num : ℕ) (enable ok : Bool) : Kernel :=
  if ok then { k with trigger := Function.update k.trigger dev_num enable } else k

def Kernel.enable_sensor (k : Kernel) (dev_num : ℕ) (enable ok : Bool) : Kernel :=
  if ok then { k with buffer := Function.update k.buffer dev_num enable } else k

def Kernel.enable_step_sensor (k : Kernel) (dev_num : ℕ) (enable ok : Bool) : Kernel :=
  if ok then { k with in_steps_en := Function.update k.in_steps_en dev_num enable } else k

/-- The counting part of `activate`. -/
def SubHal.use (σ : SubHal) (n : ℕ) (enable : Bool) (w : Writes) : SubHal :=
  let count := if enable then σ.useCount n + 1 else σ.useCount n - 1
  let σ := { σ with iioDevNumCountMap := Function.update σ.iioDevNumCountMap n (some count) }
  if count = if enable then 1 else 0 then
    { σ with kernel := (σ.kernel.add_trigger n enable w.trigger).enable_sensor n enable w.buffer }
  else σ

def SubHal.activate (σ : SubHal) (handle : ℕ) (enable : Bool) (w : Writes) : SubHal :=
  match σ.find handle with
  | none => σ
  | some s =>
    if s.mIsEnabled = enable then σ
    else
      let n := s.mIioData.iio_dev_num
      let σ := if s.streams then σ.use n enable w else σ
      let σ := if s.mIioData.type = .STEP_COUNTER then
          { σ with kernel := σ.kernel.enable_step_sensor n enable w.in_steps_en }
        else σ
      { σ with mSensors := σ.mSensors.map fun t =>
          if t.sensorHandle = handle then { t with mIsEnabled := enable } else t }

/-- `~HWSensorBase`; the sysfs files are closed by their owners. -/
def SubHal.destroy (σ : SubHal) (handle : ℕ) : SubHal :=
  match σ.find handle with
  | none => σ
  | some s =>
    { σ with
      iioDevNumCountMap := Function.update σ.iioDevNumCountMap s.mIioData.iio_dev_num none
      closed := s.fds ++ σ.closed
      mSensors := σ.mSensors.filter fun t => t.sensorHandle ≠ handle }

inductive Op
  | create (data : iio_device_data) (files : Files)
  | activate (handle : ℕ) (enable : Bool) (w : Writes)
  | destroy (handle : ℕ)

def step (σ : SubHal) : Op → SubHal
  | .create data files => σ.buildSensor data files
  | .activate handle enable w => σ.activate handle enable w
  | .destroy handle => σ.destroy handle

/-- Before the first sensor; the sub-HAL has written 0 to every buffer. -/
def start : SubHal :=
  ⟨[], 1, fun _ => none, none, ⟨fun _ => false, fun _ => false, fun _ => false⟩, 0, []⟩

/-! ### What is meant to be kept -/

/-- The live sensors of a device that count as its users. -/
def SubHal.users (σ : SubHal) (counted : HWSensorBase → Bool) (n : ℕ) : ℕ :=
  σ.mSensors.countP fun s => s.mIioData.iio_dev_num = n && counted s

/-- The descriptors live sensors hold, each once. -/
def SubHal.held (σ : SubHal) : List ℕ := (σ.mSensors.flatMap HWSensorBase.fds).dedup

/-- Buffer and trigger of each device are on exactly with a user, and the count is the number of users. -/
structure Switched (σ : SubHal) (users : ℕ → ℕ) : Prop where
  buffer : ∀ n, σ.kernel.buffer n = true ↔ 0 < users n
  trigger : ∀ n, σ.kernel.trigger n = true ↔ 0 < users n
  count : ∀ n, σ.useCount n = users n

/-- The devices are switched for their users, and every descriptor opened is held by a live sensor or has
    been closed, once. -/
structure Kept (counted : HWSensorBase → Bool) (σ : SubHal) : Prop where
  switched : Switched σ (σ.users counted)
  fds : Balanced (σ.held ++ σ.closed) σ.opened

/-- The sensors whose activation is counted: enabled ones that are read through the buffer. -/
def HWSensorBase.streaming (s : HWSensorBase) : Bool := s.streams && s.mIsEnabled

/-- A step that finds the static state in order: a shared descriptor that is reused is still open, the
    writes that switch a device get through, and a sensor is destroyed when no sensor of its device is
    streaming and no other sensor holds its descriptor. -/
def Orderly (σ : SubHal) : Op → Prop
  | .create data _ => data.name = "mpl3115" →
      ∀ fd ∈ σ.sharedFd, ∃ s ∈ σ.mSensors, s.fd = some fd
  | .activate handle enable w => ∀ s ∈ σ.find handle, s.mIsEnabled ≠ enable → s.streams = true →
      σ.users HWSensorBase.streaming s.mIioData.iio_dev_num = (if enable then 0 else 1) →
      w.trigger = true ∧ w.buffer = true
  | .destroy handle => ∀ s ∈ σ.find handle,
      σ.users HWSensorBase.streaming s.mIioData.iio_dev_num = 0 ∧
      ∀ t ∈ σ.mSensors, t.sensorHandle ≠ handle → ∀ fd ∈ s.fd, t.fd ≠ some fd

instance (σ : SubHal) : ∀ op, Decidable (Orderly σ op)
  | .create data _ => inferInstanceAs (Decidable (data.name = "mpl3115" →
      ∀ fd ∈ σ.sharedFd, ∃ s ∈ σ.mSensors, s.fd = some fd))
  | .activate handle enable w => inferInstanceAs (Decidable (∀ s ∈ σ.find handle, s.mIsEnabled ≠ enable →
      s.streams = true →
      σ.users HWSensorBase.streaming s.mIioData.iio_dev_num = (if enable then 0 else 1) →
      w.trigger = true ∧ w.buffer = true))
  | .destroy handle => inferInstanceAs (Decidable (∀ s ∈ σ.find handle,
      σ.users HWSensorBase.streaming s.mIioData.iio_dev_num = 0 ∧
      ∀ t ∈ σ.mSensors, t.sensorHandle ≠ handle → ∀ fd ∈ s.fd, t.fd ≠ some fd))

/-! ### Descriptors -/

def SubHal.Held (σ : SubHal) (d : ℕ) : Prop := ∃ s ∈ σ.mSensors, d ∈ s.fds

instance (σ : SubHal) (d : ℕ) : Decidable (σ.Held d) :=
  inferInstanceAs (Decidable (∃ s ∈ σ.mSensors, _))

theorem balanced_iff (σ : SubHal) : Balanced (σ.held ++ σ.closed) σ.opened ↔
    ∀ d, (if σ.Held d then 1 else 0) + σ.closed.count d = if d < σ.opened then 1 else 0 := by
  refine forall_congr' fun d => ?_
  have hmem : d ∈ σ.mSensors.flatMap HWSensorBase.fds ↔ σ.Held d := List.mem_flatMap
  rw [List.count_append, SubHal.held, List.count_dedup, if_congr hmem rfl rfl]

/-- A descriptor a live sensor holds is open. -/
theorem open_of_held {σ : SubHal} (hb : Balanced (σ.held ++ σ.closed) σ.opened) {d : ℕ}
    (h : σ.Held d) : d < σ.opened ∧ σ.closed.count d = 0 := by
  have hd := (balanced_iff σ).mp hb d
  rw [if_pos h] at hd
  split at hd <;> omega

/-- A sensor that joins with `m` new descriptors and some older ones keeps the balance exactly if the
    older ones are held already. -/
theorem balanced_join {σ σ' : SubHal} (hb : Balanced (σ.held ++ σ.closed) σ.opened) (m : ℕ)
    (hopened : σ'.opened = σ.opened + m) (hclosed : σ'.closed = σ.closed) {old : List ℕ}
    (hold : ∀ d ∈ old, d < σ.opened)
    (hheld : ∀ d, σ'.Held d ↔ σ.Held d ∨ d ∈ old ∨ d ∈ List.range' σ.opened m) :
    Balanced (σ'.held ++ σ'.closed) σ'.opened ↔ ∀ d ∈ old, σ.Held d := by
  rw [balanced_iff] at hb ⊢
  simp only [hclosed, hopened, hheld, List.mem_range'_1]
  constructor
  · intro h d hd
    have h₁ := hb d
    have h₂ := h d
    have hlt := hold d hd
    rw [if_pos (.inr (.inl hd)), if_pos (by omega)] at h₂
    rw [if_pos hlt] at h₁
    by_contra hn
    rw [if_neg hn] at h₁
    omega
  · intro h d
    have h₁ := hb d
    by_cases hlt : d < σ.opened
    · have hiff : (σ.Held d ∨ d ∈ old ∨ σ.opened ≤ d ∧ d < σ.opened + m) ↔ σ.Held d := by
        constructor
        · rintro (hd | hd | hd)
          · exact hd
          · exact h d hd
          · omega
        · exact Or.inl
      rw [if_congr hiff rfl rfl, h₁, if_pos hlt, if_pos (by omega)]
    · have hnot : ¬ σ.Held d := fun hd => by
        rw [if_pos hd, if_neg hlt] at h₁
        omega
      have hold' : d ∉ old := fun hd => hlt (hold d hd)
      rw [if_neg hnot, if_neg hlt] at h₁
      simp only [hnot, hold', false_or]
      split <;> split <;> omega

/-- A sensor that leaves and closes its descriptors keeps the balance exactly if nobody else holds one
    of them. -/
theorem balanced_leave {σ : SubHal} (σ' : SubHal) (hb : Balanced (σ.held ++ σ.closed) σ.opened)
    {s : HWSensorBase} (hs : s ∈ σ.mSensors) (hnodup : s.fds.Nodup) (hopened : σ'.opened = σ.opened)
    (hclosed : σ'.closed = s.fds ++ σ.closed)
    (hheld : ∀ d, σ.Held d ↔ d ∈ s.fds ∨ σ'.Held d) :
    Balanced (σ'.held ++ σ'.closed) σ'.opened ↔ ∀ d ∈ s.fds, ¬ σ'.Held d := by
  rw [balanced_iff] at hb ⊢
  simp only [hclosed, hopened, List.count_append]
  have hmine : ∀ d ∈ s.fds, σ.closed.count d = 0 ∧ d < σ.opened ∧ s.fds.count d = 1 := by
    intro d hd
    obtain ⟨hlt, hzero⟩ := open_of_held ((balanced_iff σ).mpr hb) ⟨s, hs, hd⟩
    exact ⟨hzero, hlt, List.count_eq_one_of_mem hnodup hd⟩
  constructor
  · intro h d hd hn
    obtain ⟨hzero, hlt, hone⟩ := hmine d hd
    have hd' := h d
    rw [if_pos hn, if_pos hlt, hzero, hone] at hd'
    omega
  · intro h d
    by_cases hd : d ∈ s.fds
    · obtain ⟨hzero, hlt, hone⟩ := hmine d hd
      rw [if_neg (h d hd), if_pos hlt, hzero, hone]
    · have hiff : σ'.Held d ↔ σ.Held d := by simp [hheld, hd]
      rw [List.count_eq_zero_of_not_mem hd, zero_add, if_congr hiff rfl rfl]
      exact hb d

/-! ### One step -/

/-- What holds before every step of an orderly run. -/
structure Inv (σ : SubHal) : Prop where
  kept : Kept HWSensorBase.streaming σ
  handles : (σ.mSensors.map HWSensorBase.sensorHandle).Nodup
  below : ∀ s ∈ σ.mSensors, s.sensorHandle < σ.mNextHandle
  nodup : ∀ s ∈ σ.mSensors, s.fds.Nodup
  raw : ∀ s ∈ σ.mSensors, ∀ t ∈ σ.mSensors, s.sensorHandle ≠ t.sensorHandle →
    ∀ d ∈ s.fd_raw, d ∉ t.fds
  shared : ∀ fd ∈ σ.sharedFd, fd < σ.opened ∧ ∀ s ∈ σ.mSensors, fd ∉ s.fd_raw

theorem Inv.lt {σ : SubHal} (h : Inv σ) {s : HWSensorBase} (hs : s ∈ σ.mSensors) {d : ℕ}
    (hd : d ∈ s.fds) : d < σ.opened := (open_of_held h.kept.fds ⟨s, hs, hd⟩).1

/-- The sensor with a handle, in its place among the others. -/
theorem split_of_find {σ : SubHal} (hn : (σ.mSensors.map HWSensorBase.sensorHandle).Nodup)
    {handle : ℕ} {s : HWSensorBase} (h : σ.find handle = some s) : s.sensorHandle = handle ∧
      ∃ as bs, σ.mSensors = as ++ s :: bs ∧ ∀ t ∈ as ++ bs, t.sensorHandle ≠ handle := by
  obtain ⟨hp, as, bs, hl, has⟩ := List.find?_eq_some_iff_append.mp h
  have hs : s.sensorHandle = handle := of_decide_eq_true hp
  refine ⟨hs, as, bs, hl, ?_⟩
  rw [hl, List.map_append, List.map_cons, List.nodup_middle, List.nodup_cons, ← List.map_append] at hn
  rintro t ht rfl
  exact hn.1 (by rw [hs]; exact List.mem_map_of_mem ht)

/-- What the opening of the device file gives: the shared descriptor, none, or a new one. -/
theorem pollFd_cases (σ : SubHal) (name : String) (ok : Bool) :
    (∃ k, name = "mpl3115" ∧ σ.sharedFd = some k ∧ σ.pollFd name ok = (σ, some k)) ∨
      ((name = "mpl3115" → σ.sharedFd = none) ∧ (σ.pollFd name ok = (σ, none) ∨
        σ.pollFd name ok = ({ σ with opened := σ.opened + 1 }, some σ.opened) ∨
        σ.pollFd name ok =
          ({ σ with opened := σ.opened + 1, sharedFd := some σ.opened }, some σ.opened))) := by
  rw [SubHal.pollFd]
  by_cases hname : name = "mpl3115"
  swap
  · cases ok <;> simp [hname, SubHal.openDeviceFile]
  · rcases hshared : σ.sharedFd with _ | k
    · have hσ : { σ with sharedFd := none } = σ := by rw [← hshared]
      cases ok <;> simp [hname, hshared, hσ, SubHal.openDeviceFile]
    · simp [hname]

/-- What a new sensor brings: `m` new descriptors after the `old` one it shares. -/
structure Joined (σ σ' : SubHal) (new : HWSensorBase) (m : ℕ) (old : List ℕ) : Prop where
  sensors : σ'.mSensors = σ.mSensors ++ [new]
  handle : new.sensorHandle = σ.mNextHandle
  next : σ'.mNextHandle = σ.mNextHandle + 1
  disabled : new.mIsEnabled = false
  kernel : σ'.kernel = σ.kernel
  closed : σ'.closed = σ.closed
  count : ∀ n, σ'.useCount n = σ.useCount n
  opened : σ'.opened = σ.opened + m
  fds : new.fds = old ++ List.range' σ.opened m
  raw : ∀ d ∈ new.fd_raw, σ.opened ≤ d
  shared : ∀ fd ∈ σ'.sharedFd, fd ∈ σ.sharedFd ∨ σ.opened ≤ fd ∧ fd < σ'.opened ∧ fd ∉ new.fd_raw

theorem buildSensor_joined (σ : SubHal) (data : iio_device_data) (files : Files) :
    ∃ new m old, Joined σ (σ.buildSensor data files) new m old ∧
      (old = [] ∧ (data.name = "mpl3115" → σ.sharedFd = none) ∨
        ∃ k, old = [k] ∧ data.name = "mpl3115" ∧ σ.sharedFd = some k) := by
  have hcount : ∃ map, (∀ n, (map n).getD 0 = σ.useCount n) ∧
      (match σ.iioDevNumCountMap data.iio_dev_num with
        | none => { σ with
            iioDevNumCountMap := Function.update σ.iioDevNumCountMap data.iio_dev_num (some 0) }
        | some _ => σ) = { σ with iioDevNumCountMap := map } := by
    rcases hn : σ.iioDevNumCountMap data.iio_dev_num with _ | c
    · refine ⟨_, fun n => ?_, rfl⟩
      by_cases h : n = data.iio_dev_num
      · simp [h, hn, SubHal.useCount]
      · simp [h, SubHal.useCount]
    · exact ⟨σ.iioDevNumCountMap, fun n => rfl, rfl⟩
  obtain ⟨map, hmap, heq⟩ := hcount
  rw [SubHal.buildSensor, heq]
  rcases pollFd_cases { σ with iioDevNumCountMap := map } data.name files.device with
    ⟨k, hname, hshared, hfd⟩ | ⟨hshared, hfd | hfd | hfd⟩ <;> simp only [hfd]
  · refine ⟨_, _, [k], ⟨rfl, rfl, rfl, rfl, rfl, rfl, hmap, rfl, rfl, ?_, ?_⟩, .inr ⟨k, rfl, hname, hshared⟩⟩
    · exact fun d hd => (List.mem_range'_1.mp hd).1
    · exact fun fd h => .inl h
  · refine ⟨_, _, [], ⟨rfl, rfl, rfl, rfl, rfl, rfl, hmap, rfl, rfl, ?_, ?_⟩, .inl ⟨rfl, hshared⟩⟩
    · exact fun d hd => (List.mem_range'_1.mp hd).1
    · exact fun fd h => .inl h
  · refine ⟨_, 1 + _, [], ⟨rfl, rfl, rfl, rfl, rfl, rfl, hmap, (Nat.add_assoc _ _ _), ?_, ?_, ?_⟩,
      .inl ⟨rfl, hshared⟩⟩
    · rw [List.nil_append, Nat.add_comm 1, List.range'_succ]
      rfl
    · exact fun d hd => Nat.le_of_succ_le (List.mem_range'_1.mp hd).1
    · exact fun fd h => .inl h
  · refine ⟨_, 1 + _, [], ⟨rfl, rfl, rfl, rfl, rfl, rfl, hmap, (Nat.add_assoc _ _ _), ?_, ?_, ?_⟩,
      .inl ⟨rfl, hshared⟩⟩
    · rw [List.nil_append, Nat.add_comm 1, List.range'_succ]
      rfl
    · exact fun d hd => Nat.le_of_succ_le (List.mem_range'_1.mp hd).1
    · rintro fd ⟨⟩
      refine .inr ⟨le_rfl, by simp only; omega, fun hd => ?_⟩
      have := (List.mem_range'_1.mp hd).1
      omega

theorem held_join {σ σ' : SubHal} {new : HWSensorBase} (h : σ'.mSensors = σ.mSensors ++ [new]) (d : ℕ) :
    σ'.Held d ↔ σ.Held d ∨ d ∈ new.fds := by
  simp [SubHal.Held, h, or_and_right, exists_or]

/-- Creation: the static state stays in order exactly if a reused descriptor is still open. -/
theorem create_spec {σ : SubHal} (hσ : Inv σ) (data : iio_device_data) (files : Files) :
    (Kept HWSensorBase.streaming (σ.buildSensor data files) ↔ Orderly σ (.create data files)) ∧
      (Orderly σ (.create data files) → Inv (σ.buildSensor data files)) := by
  obtain ⟨new, m, old, hj, hold⟩ := buildSensor_joined σ data files
  generalize σ.buildSensor data files = σ' at hj ⊢
  have hlt : ∀ d ∈ old, d < σ.opened := by
    rcases hold with ⟨rfl, -⟩ | ⟨k, rfl, -, hk⟩
    · simp
    · simpa using (hσ.shared k hk).1
  have husers : ∀ n, σ'.users HWSensorBase.streaming n = σ.users HWSensorBase.streaming n := by
    intro n
    simp [SubHal.users, hj.sensors, HWSensorBase.streaming, hj.disabled]
  have hfds : Balanced (σ'.held ++ σ'.closed) σ'.opened ↔ ∀ d ∈ old, σ.Held d := by
    refine balanced_join hσ.kept.fds m hj.opened hj.closed hlt fun d => ?_
    rw [held_join hj.sensors, hj.fds, List.mem_append]
  have horderly : (∀ d ∈ old, σ.Held d) ↔ Orderly σ (.create data files) := by
    rcases hold with ⟨rfl, hnone⟩ | ⟨k, rfl, hname, hk⟩
    · simp +contextual [Orderly, hnone]
    · have hheld : σ.Held k ↔ ∃ s ∈ σ.mSensors, s.fd = some k := by
        refine exists_congr fun s => and_congr_right fun hs => ?_
        have := (hσ.shared k hk).2 s hs
        simp [HWSensorBase.fds, this]
      simp [Orderly, hname, hk, hheld]
  have hkept : Kept HWSensorBase.streaming σ' ↔ Orderly σ (.create data files) := by
    rw [← horderly, ← hfds]
    refine ⟨fun h => h.fds, fun h => ⟨?_, h⟩⟩
    rw [funext husers]
    obtain ⟨hbuffer, htrigger, hcount⟩ := hσ.kept.switched
    exact ⟨hj.kernel ▸ hbuffer, hj.kernel ▸ htrigger, fun n => (hj.count n).trans (hcount n)⟩
  refine ⟨hkept, fun h => ⟨hkept.mpr h, ?_, ?_, ?_, ?_, ?_⟩⟩
  · rw [hj.sensors, List.map_append, List.map_singleton, List.nodup_append]
    refine ⟨hσ.handles, List.nodup_singleton _, ?_⟩
    intro a ha b hb
    obtain ⟨s, hs, rfl⟩ := List.mem_map.mp ha
    rw [List.mem_singleton.mp hb, hj.handle]
    exact (hσ.below s hs).ne
  all_goals rw [hj.sensors]
  · intro s hs
    rw [hj.next]
    rcases List.mem_append.mp hs with hs | hs
    · exact (hσ.below s hs).trans (Nat.lt_succ_self _)
    · rw [List.mem_singleton.mp hs, hj.handle]
      exact Nat.lt_succ_self _
  · intro s hs
    rcases List.mem_append.mp hs with hs | hs
    · exact hσ.nodup s hs
    · rw [List.mem_singleton.mp hs, hj.fds, List.nodup_append]
      refine ⟨?_, List.nodup_range', fun a ha b hb => ?_⟩
      · rcases hold with ⟨rfl, -⟩ | ⟨k, rfl, -⟩ <;> simp
      · have := hlt a ha
        have := (List.mem_range'_1.mp hb).1
        omega
  · intro s hs t ht hne d hd
    rcases List.mem_append.mp hs with hs | hs <;> rcases List.mem_append.mp ht with ht | ht
    · exact hσ.raw s hs t ht hne d hd
    · rw [List.mem_singleton.mp ht, hj.fds]
      have := hσ.lt hs (List.mem_append_right _ hd)
      rcases hold with ⟨rfl, -⟩ | ⟨k, rfl, -, hk⟩
      · simp [List.mem_range'_1, this]
      · have hk' := (hσ.shared k hk).2 s hs
        have hdk : d ≠ k := fun h => hk' (h ▸ hd)
        simp [List.mem_range'_1, this, hdk]
    · rw [List.mem_singleton.mp hs] at hd
      intro hdt
      have := hj.raw d hd
      have := hσ.lt ht hdt
      omega
    · rw [List.mem_singleton.mp hs, List.mem_singleton.mp ht] at hne
      exact absurd rfl hne
  · intro fd hfd
    rcases hj.shared fd hfd with hfd | ⟨hge, hlt', hraw⟩
    · refine ⟨by have := (hσ.shared fd hfd).1; rw [hj.opened]; omega, fun s hs => ?_⟩
      rcases List.mem_append.mp hs with hs | hs
      · exact (hσ.shared fd hfd).2 s hs
      · rw [List.mem_singleton.mp hs]
        intro hd
        have := hj.raw fd hd
        have := (hσ.shared fd hfd).1
        omega
    · refine ⟨hlt', fun s hs => ?_⟩
      rcases List.mem_append.mp hs with hs | hs
      · intro hd
        have := hσ.lt hs (List.mem_append_right _ hd)
        omega
      · rw [List.mem_singleton.mp hs]
        exact hraw

theorem use_spec {σ : SubHal} {users : ℕ → ℕ} (h : Switched σ users) {n : ℕ} {enable : Bool}
    (w : Writes) (hpos : enable = false → 0 < users n) :
    Switched (σ.use n enable w)
        (Function.update users n (if enable then users n + 1 else users n - 1)) ↔
      (users n = (if enable then 0 else 1) → w.trigger = true ∧ w.buffer = true) := by
  obtain ⟨hbuffer, htrigger, hcount⟩ := h
  have hb := hbuffer n
  have ht := htrigger n
  have hcount' : ∀ m, (((Function.update σ.iioDevNumCountMap n (some (if enable then σ.useCount n + 1
      else σ.useCount n - 1))) m).getD 0 : ℤ) =
        (Function.update users n (if enable then users n + 1 else users n - 1) m : ℕ) := by
    intro m
    by_cases hm : m = n
    · subst hm
      cases enable
      · have := hpos rfl
        simp only [Function.update_self, Option.getD_some, hcount, Bool.false_eq_true, if_false]
        omega
      · simp [hcount]
    · simp only [Function.update_of_ne hm]
      exact hcount m
  have hswitch : (if enable then σ.useCount n + 1 else σ.useCount n - 1) = (if enable then 1 else 0) ↔
      users n = if enable then 0 else 1 := by
    rw [hcount]
    cases enable
    · have := hpos rfl
      simp
      omega
    · simp
  rw [SubHal.use]
  by_cases hlast : users n = if enable then 0 else 1
  · rw [if_pos (hswitch.mpr hlast)]
    constructor
    · rintro ⟨hbuffer', htrigger', -⟩ -
      have hb' := hbuffer' n
      have ht' := htrigger' n
      rcases w with ⟨_ | _, _ | _, _⟩ <;> cases enable <;>
        simp_all [Kernel.add_trigger, Kernel.enable_sensor]
    · intro hw
      obtain ⟨hwt, hwb⟩ := hw hlast
      refine ⟨fun m => ?_, fun m => ?_, hcount'⟩
      all_goals
        by_cases hm : m = n
        · cases enable <;> simp_all [Kernel.add_trigger, Kernel.enable_sensor]
        · simp_all [Kernel.add_trigger, Kernel.enable_sensor]
  · rw [if_neg (hswitch.not.mpr hlast)]
    refine iff_of_true ⟨fun m => ?_, fun m => ?_, hcount'⟩ (fun h => absurd h hlast)
    all_goals
      by_cases hm : m = n
      · subst hm
        cases enable
        · have := hpos rfl
          simp at hlast ⊢
          simp [hb, ht]
          omega
        · simp at hlast ⊢
          simp [hb, ht]
          omega
      · simp only [Function.update_of_ne hm]
        first | exact hbuffer m | exact htrigger m

/-- Only the flag of the one sensor changes. -/
theorem map_flag {σ : SubHal} {handle : ℕ} {s : HWSensorBase} {as bs : List HWSensorBase}
    (hl : σ.mSensors = as ++ s :: bs) (hs : s.sensorHandle = handle)
    (hothers : ∀ t ∈ as ++ bs, t.sensorHandle ≠ handle) (enable : Bool) :
    (σ.mSensors.map fun t => if t.sensorHandle = handle then { t with mIsEnabled := enable } else t) =
      as ++ { s with mIsEnabled := enable } :: bs := by
  have hid : ∀ l : List HWSensorBase, (∀ t ∈ l, t.sensorHandle ≠ handle) →
      (l.map fun t => if t.sensorHandle = handle then { t with mIsEnabled := enable } else t) = l := by
    intro l hl
    rw [List.map_congr_left fun t ht => if_neg (hl t ht), List.map_id']
  rw [hl, List.map_append, List.map_cons, if_pos hs,
    hid as fun t ht => hothers t (List.mem_append_left _ ht),
    hid bs fun t ht => hothers t (List.mem_append_right _ ht)]

theorem filter_eq {σ : SubHal} {handle : ℕ} {s : HWSensorBase} {as bs : List HWSensorBase}
    (hl : σ.mSensors = as ++ s :: bs) (hs : s.sensorHandle = handle)
    (hothers : ∀ t ∈ as ++ bs, t.sensorHandle ≠ handle) :
    (σ.mSensors.filter fun t => t.sensorHandle ≠ handle) = as ++ bs := by
  have hid : ∀ l : List HWSensorBase, (∀ t ∈ l, t.sensorHandle ≠ handle) →
      (l.filter fun t => t.sensorHandle ≠ handle) = l := by
    intro l hl
    exact List.filter_eq_self.mpr fun t ht => decide_eq_true (hl t ht)
  rw [hl, List.filter_append, List.filter_cons_of_neg (by simp [hs]), ← List.filter_append, hid _ hothers]

/-- What an activation leaves alone. -/
structure SameSensors (σ σ' : SubHal) : Prop where
  handles : σ'.mSensors.map HWSensorBase.sensorHandle = σ.mSensors.map HWSensorBase.sensorHandle
  files : ∀ t' ∈ σ'.mSensors, ∃ t ∈ σ.mSensors,
    t'.sensorHandle = t.sensorHandle ∧ t'.fds = t.fds ∧ t'.fd_raw = t.fd_raw
  held : σ'.held = σ.held
  next : σ'.mNextHandle = σ.mNextHandle
  shared : σ'.sharedFd = σ.sharedFd
  opened : σ'.opened = σ.opened
  closed : σ'.closed = σ.closed

theorem inv_of_same {σ σ' : SubHal} (hσ : Inv σ) (hsame : SameSensors σ σ')
    (hk : Kept HWSensorBase.streaming σ') : Inv σ' := by
  refine ⟨hk, hsame.handles ▸ hσ.handles, ?_, ?_, ?_, ?_⟩
  · intro t' ht'
    obtain ⟨t, ht, heq, -, -⟩ := hsame.files t' ht'
    rw [heq, hsame.next]
    exact hσ.below t ht
  · intro t' ht'
    obtain ⟨t, ht, -, heq, -⟩ := hsame.files t' ht'
    rw [heq]
    exact hσ.nodup t ht
  · intro s' hs' t' ht'
    obtain ⟨s, hs, hsh, -, hsr⟩ := hsame.files s' hs'
    obtain ⟨t, ht, hth, htf, -⟩ := hsame.files t' ht'
    rw [hsh, hth, hsr, htf]
    exact hσ.raw s hs t ht
  · rw [hsame.shared, hsame.opened]
    intro fd hfd
    refine ⟨(hσ.shared fd hfd).1, fun s' hs' => ?_⟩
    obtain ⟨s, hs, -, -, hsr⟩ := hsame.files s' hs'
    rw [hsr]
    exact (hσ.shared fd hfd).2 s hs

/-- The users of a device once a sensor has been switched: one more or one less on its own device. -/
theorem users_activate {σ σ' : SubHal} {s : HWSensorBase} {as bs : List HWSensorBase} {enable : Bool}
    (hl : σ.mSensors = as ++ s :: bs) (hl' : σ'.mSensors = as ++ { s with mIsEnabled := enable } :: bs)
    (hne : s.mIsEnabled ≠ enable) :
    let users := σ.users HWSensorBase.streaming
    let n := s.mIioData.iio_dev_num
    (enable = false → s.streams = true → 0 < users n) ∧ σ'.users HWSensorBase.streaming =
      if s.streams then Function.update users n (if enable then users n + 1 else users n - 1)
      else users := by
  have hcount : ∀ m, σ.users HWSensorBase.streaming m =
      (as ++ bs).countP (fun t => t.mIioData.iio_dev_num = m && t.streaming) +
        if s.mIioData.iio_dev_num = m ∧ s.streams = true ∧ enable = false then 1 else 0 := by
    intro m
    rw [SubHal.users, hl, List.countP_append, List.countP_cons, List.countP_append, ← Nat.add_assoc]
    cases enable <;> simp_all [HWSensorBase.streaming]
  have hcount' : ∀ m, σ'.users HWSensorBase.streaming m =
      (as ++ bs).countP (fun t => t.mIioData.iio_dev_num = m && t.streaming) +
        if s.mIioData.iio_dev_num = m ∧ s.streams = true ∧ enable = true then 1 else 0 := by
    intro m
    rw [SubHal.users, hl', List.countP_append, List.countP_cons, List.countP_append, ← Nat.add_assoc]
    cases enable <;> simp [HWSensorBase.streaming, HWSensorBase.streams]
  refine ⟨fun hoff hstreams => ?_, funext fun m => ?_⟩
  · simp [hcount, hoff, hstreams]
  · rw [hcount']
    by_cases hstreams : s.streams
    · rw [if_pos hstreams]
      by_cases hm : m = s.mIioData.iio_dev_num
      · subst hm
        cases enable <;> simp [hcount, hstreams]
      · cases enable <;> simp [hcount, hm, Ne.symm hm]
    · simp [hcount, hstreams]

theorem use_frame (σ : SubHal) (n : ℕ) (enable : Bool) (w : Writes) :
    (σ.use n enable w).mSensors = σ.mSensors ∧ (σ.use n enable w).mNextHandle = σ.mNextHandle ∧
      (σ.use n enable w).sharedFd = σ.sharedFd ∧ (σ.use n enable w).opened = σ.opened ∧
      (σ.use n enable w).closed = σ.closed := by
  rw [SubHal.use]
  generalize (if enable = true then σ.useCount n + 1 else σ.useCount n - 1) = count
  by_cases hlast : count = if enable = true then 1 else 0 <;> simp [hlast]

theorem switched_step_sensor (τ : SubHal) (n : ℕ) (enable ok : Bool) (users : ℕ → ℕ) :
    Switched { τ with kernel := τ.kernel.enable_step_sensor n enable ok } users ↔
      Switched τ users := by
  cases ok <;> exact ⟨fun h => ⟨h.1, h.2, h.3⟩, fun h => ⟨h.1, h.2, h.3⟩⟩

/-- An activation that switches the sensor: its flag, and the device if it streams. -/
theorem activate_eq {σ : SubHal} (hn : (σ.mSensors.map HWSensorBase.sensorHandle).Nodup) {handle : ℕ}
    {s : HWSensorBase} (hfind : σ.find handle = some s) {enable : Bool} (hne : s.mIsEnabled ≠ enable)
    (w : Writes) : ∃ as bs, σ.mSensors = as ++ s :: bs ∧
      (σ.activate handle enable w).mSensors = as ++ { s with mIsEnabled := enable } :: bs ∧
      (σ.activate handle enable w).mNextHandle = σ.mNextHandle ∧
      (σ.activate handle enable w).sharedFd = σ.sharedFd ∧
      (σ.activate handle enable w).opened = σ.opened ∧
      (σ.activate handle enable w).closed = σ.closed ∧
      ∀ users, Switched (σ.activate handle enable w) users ↔
        Switched (if s.streams then σ.use s.mIioData.iio_dev_num enable w else σ) users := by
  obtain ⟨hs, as, bs, hl, hothers⟩ := split_of_find hn hfind
  have hmap := map_flag hl hs hothers enable
  have hframe : let τ := if s.streams then σ.use s.mIioData.iio_dev_num enable w else σ
      τ.mSensors = σ.mSensors ∧ τ.mNextHandle = σ.mNextHandle ∧ τ.sharedFd = σ.sharedFd ∧
        τ.opened = σ.opened ∧ τ.closed = σ.closed := by
    by_cases hstreams : s.streams
    · simp only [if_pos hstreams]
      exact use_frame σ _ enable w
    · simp [hstreams]
  simp only [SubHal.activate, hfind, if_neg hne]
  generalize (if s.streams then σ.use s.mIioData.iio_dev_num enable w else σ) = τ at hframe ⊢
  obtain ⟨hsensors, hnext, hshared, hopened, hclosed⟩ := hframe
  refine ⟨as, bs, hl, ?_⟩
  by_cases hstep : s.mIioData.type = .STEP_COUNTER
  · simp only [if_pos hstep]
    refine ⟨by rw [hsensors, hmap], hnext, hshared, hopened, hclosed, fun users => ?_⟩
    rw [← switched_step_sensor τ s.mIioData.iio_dev_num enable w.in_steps_en users]
    exact ⟨fun h => ⟨h.1, h.2, h.3⟩, fun h => ⟨h.1, h.2, h.3⟩⟩
  · simp only [if_neg hstep]
    refine ⟨by rw [hsensors, hmap], hnext, hshared, hopened, hclosed, fun users => ?_⟩
    exact ⟨fun h => ⟨h.1, h.2, h.3⟩, fun h => ⟨h.1, h.2, h.3⟩⟩

/-- Activation: the static state stays in order exactly if the writes that switch the device succeed. -/
theorem activate_spec {σ : SubHal} (hσ : Inv σ) (handle : ℕ) (enable : Bool) (w : Writes) :
    (Kept HWSensorBase.streaming (σ.activate handle enable w) ↔
        Orderly σ (.activate handle enable w)) ∧
      (Orderly σ (.activate handle enable w) → Inv (σ.activate handle enable w)) := by
  rcases hfind : σ.find handle with _ | s
  · have hnone : σ.activate handle enable w = σ := by rw [SubHal.activate, hfind]
    simp [Orderly, hnone, hfind, hσ, hσ.kept]
  by_cases hsame : s.mIsEnabled = enable
  · have hnone : σ.activate handle enable w = σ := by simp [SubHal.activate, hfind, hsame]
    simp [Orderly, hnone, hfind, hsame, hσ, hσ.kept]
  obtain ⟨as, bs, hl, hl', hnext, hshared, hopened, hclosed, hswitched⟩ :=
    activate_eq hσ.handles hfind hsame w
  have horderly : Orderly σ (.activate handle enable w) ↔ (s.streams = true →
      σ.users HWSensorBase.streaming s.mIioData.iio_dev_num = (if enable then 0 else 1) →
      w.trigger = true ∧ w.buffer = true) := by
    simp [Orderly, hfind, hsame]
  rw [horderly]
  generalize σ.activate handle enable w = σ' at hl' hnext hshared hopened hclosed hswitched ⊢
  obtain ⟨hpos, husers⟩ := users_activate hl hl' hsame
  have hheld : σ'.held = σ.held := by
    rw [SubHal.held, SubHal.held, hl', hl, List.flatMap_append, List.flatMap_append]
    rfl
  have hkept : Kept HWSensorBase.streaming σ' ↔ (s.streams = true →
      σ.users HWSensorBase.streaming s.mIioData.iio_dev_num = (if enable then 0 else 1) →
      w.trigger = true ∧ w.buffer = true) := by
    have hfds : Balanced (σ'.held ++ σ'.closed) σ'.opened := by
      rw [hheld, hclosed, hopened]
      exact hσ.kept.fds
    have honly : Kept HWSensorBase.streaming σ' ↔ Switched σ' (σ'.users HWSensorBase.streaming) :=
      ⟨fun h => h.switched, fun h => ⟨h, hfds⟩⟩
    rw [honly, hswitched, husers]
    by_cases hstreams : s.streams
    · rw [if_pos hstreams, if_pos hstreams, use_spec hσ.kept.switched w fun h => hpos h hstreams]
      exact ⟨fun h _ => h, fun h => h hstreams⟩
    · rw [if_neg hstreams, if_neg hstreams]
      exact iff_of_true hσ.kept.switched fun h => absurd h hstreams
  refine ⟨hkept, fun h => inv_of_same hσ ⟨?_, ?_, hheld, hnext, hshared, hopened, hclosed⟩ (hkept.mpr h)⟩
  · rw [hl', hl, List.map_append, List.map_append]
    rfl
  · rw [hl', hl]
    intro t ht
    rcases List.mem_append.mp ht with ht | ht
    · exact ⟨t, List.mem_append_left _ ht, rfl, rfl, rfl⟩
    · rcases List.mem_cons.mp ht with rfl | ht
      · exact ⟨s, by simp, rfl, rfl, rfl⟩
      · exact ⟨t, by simp [ht], rfl, rfl, rfl⟩

theorem destroy_eq {σ : SubHal} (hn : (σ.mSensors.map HWSensorBase.sensorHandle).Nodup) {handle : ℕ}
    {s : HWSensorBase} (hfind : σ.find handle = some s) : ∃ as bs, σ.mSensors = as ++ s :: bs ∧
      (∀ t ∈ as ++ bs, t.sensorHandle ≠ s.sensorHandle) ∧ s.sensorHandle = handle ∧
      σ.destroy handle = { σ with
        iioDevNumCountMap := Function.update σ.iioDevNumCountMap s.mIioData.iio_dev_num none
        closed := s.fds ++ σ.closed
        mSensors := as ++ bs } := by
  obtain ⟨hs, as, bs, hl, hothers⟩ := split_of_find hn hfind
  refine ⟨as, bs, hl, hs ▸ hothers, hs, ?_⟩
  simp only [SubHal.destroy, hfind, filter_eq hl hs hothers]

/-- The devices stay switched for their users exactly if the device of the sensor that leaves had none. -/
theorem switched_destroy {σ : SubHal} (σ' : SubHal) {s : HWSensorBase} {as bs : List HWSensorBase}
    (hσ : Switched σ (σ.users HWSensorBase.streaming)) (hl : σ.mSensors = as ++ s :: bs)
    (hl' : σ'.mSensors = as ++ bs) (hkernel : σ'.kernel = σ.kernel)
    (hmap : σ'.iioDevNumCountMap = Function.update σ.iioDevNumCountMap s.mIioData.iio_dev_num none) :
    Switched σ' (σ'.users HWSensorBase.streaming) ↔
      σ.users HWSensorBase.streaming s.mIioData.iio_dev_num = 0 := by
  have husers : ∀ m, σ.users HWSensorBase.streaming m = σ'.users HWSensorBase.streaming m +
      if s.mIioData.iio_dev_num = m ∧ s.streaming = true then 1 else 0 := by
    intro m
    rw [SubHal.users, SubHal.users, hl, hl', List.countP_append, List.countP_cons, List.countP_append,
      ← Nat.add_assoc]
    simp
  have hzero : σ'.useCount s.mIioData.iio_dev_num = 0 := by simp [SubHal.useCount, hmap]
  constructor
  · intro h
    have hcount := h.count s.mIioData.iio_dev_num
    have hbuffer := h.buffer s.mIioData.iio_dev_num
    rw [hkernel, hσ.buffer s.mIioData.iio_dev_num] at hbuffer
    rw [hzero] at hcount
    omega
  · intro hnone
    have hsame : σ'.users HWSensorBase.streaming = σ.users HWSensorBase.streaming := by
      funext m
      by_cases hm : s.mIioData.iio_dev_num = m ∧ s.streaming = true
      · have := husers m
        rw [if_pos hm, ← hm.1, hnone] at this
        omega
      · rw [husers, if_neg hm, Nat.add_zero]
    rw [hsame]
    refine ⟨hkernel ▸ hσ.buffer, hkernel ▸ hσ.trigger, fun m => ?_⟩
    by_cases hm : m = s.mIioData.iio_dev_num
    · rw [hm, hzero, hnone]
      rfl
    · rw [SubHal.useCount, hmap, Function.update_of_ne hm]
      exact hσ.count m

/-- Destruction: the static state stays in order exactly if the device has no user and nobody else holds
    the descriptor. -/
theorem destroy_spec {σ : SubHal} (hσ : Inv σ) (handle : ℕ) :
    (Kept HWSensorBase.streaming (σ.destroy handle) ↔ Orderly σ (.destroy handle)) ∧
      (Orderly σ (.destroy handle) → Inv (σ.destroy handle)) := by
  rcases hfind : σ.find handle with _ | s
  · have hnone : σ.destroy handle = σ := by rw [SubHal.destroy, hfind]
    simp [Orderly, hnone, hfind, hσ, hσ.kept]
  obtain ⟨as, bs, hl, hothers, hs, heq⟩ := destroy_eq hσ.handles hfind
  rw [heq]
  set σ' : SubHal := { σ with
    iioDevNumCountMap := Function.update σ.iioDevNumCountMap s.mIioData.iio_dev_num none
    closed := s.fds ++ σ.closed
    mSensors := as ++ bs } with hσ'
  have hmem : s ∈ σ.mSensors := by simp [hl]
  have hsub : ∀ t ∈ as ++ bs, t ∈ σ.mSensors := by
    intro t ht
    rw [hl, List.mem_append, List.mem_cons]
    exact (List.mem_append.mp ht).imp_right Or.inr
  have hheld : ∀ d, σ.Held d ↔ d ∈ s.fds ∨ σ'.Held d := by
    intro d
    simp only [SubHal.Held, hl, hσ', List.mem_append, List.mem_cons]
    grind
  have hfree : (∀ d ∈ s.fds, ¬ σ'.Held d) ↔
      ∀ t ∈ σ.mSensors, t.sensorHandle ≠ handle → ∀ fd ∈ s.fd, t.fd ≠ some fd := by
    constructor
    · intro h t ht hne fd hfd hshare
      refine h fd (List.mem_append_left _ (by simp [Option.mem_def.mp hfd])) ⟨t, ?_, ?_⟩
      · rw [hl] at ht
        have hts : t ≠ s := fun h => hne (h ▸ hs)
        change t ∈ as ++ bs
        simpa [hts] using ht
      · exact List.mem_append_left _ (by simp [hshare])
    · rintro h d hd ⟨t, ht, hdt⟩
      have hne := hothers t ht
      rcases List.mem_append.mp hd with hfd | hraw
      · rcases List.mem_append.mp hdt with hfd' | hraw'
        · rw [Option.mem_toList] at hfd hfd'
          exact h t (hsub t ht) (hs ▸ hne) d hfd hfd'
        · exact hσ.raw t (hsub t ht) s hmem hne d hraw' hd
      · exact hσ.raw s hmem t (hsub t ht) hne.symm d hraw hdt
  have hkept : Kept HWSensorBase.streaming σ' ↔ Orderly σ (.destroy handle) := by
    have hswitched := switched_destroy σ' hσ.kept.switched hl rfl rfl rfl
    have hfds := balanced_leave σ' hσ.kept.fds hmem (hσ.nodup s hmem) rfl rfl hheld
    have horderly : Orderly σ (.destroy handle) ↔
        σ.users HWSensorBase.streaming s.mIioData.iio_dev_num = 0 ∧
          ∀ t ∈ σ.mSensors, t.sensorHandle ≠ handle → ∀ fd ∈ s.fd, t.fd ≠ some fd := by
      simp [Orderly, hfind]
    rw [horderly, ← hfree, ← hswitched, ← hfds]
    exact ⟨fun h => ⟨h.switched, h.fds⟩, fun h => ⟨h.1, h.2⟩⟩
  refine ⟨hkept, fun h => ⟨hkept.mpr h, ?_, ?_, ?_, ?_, ?_⟩⟩
  · have hn := hσ.handles
    rw [hl, List.map_append, List.map_cons, List.nodup_middle, List.nodup_cons, ← List.map_append] at hn
    exact hn.2
  · exact fun t ht => hσ.below t (hsub t ht)
  · exact fun t ht => hσ.nodup t (hsub t ht)
  · exact fun t ht u hu => hσ.raw t (hsub t ht) u (hsub u hu)
  · exact fun fd hfd => ⟨(hσ.shared fd hfd).1, fun t ht => (hσ.shared fd hfd).2 t (hsub t ht)⟩

theorem step_spec {σ : SubHal} (hσ : Inv σ) (op : Op) :
    (Kept HWSensorBase.streaming (step σ op) ↔ Orderly σ op) ∧ (Orderly σ op → Inv (step σ op)) := by
  cases op with
  | create data files => exact create_spec hσ data files
  | activate handle enable w => exact activate_spec hσ handle enable w
  | destroy handle => exact destroy_spec hσ handle

theorem start_inv : Inv start := by
  refine ⟨⟨⟨?_, ?_, ?_⟩, balanced_nil⟩, ?_, ?_, ?_, ?_, ?_⟩ <;>
    simp [start, SubHal.users, SubHal.useCount]

/-- The static state is in order after every step exactly if every step finds it so. -/
theorem kept_iff_orderly (ops : List Op) :
    Always step (fun _ _ σ => Kept HWSensorBase.streaming σ) start ops ↔ Meets step Orderly start ops :=
  always_iff_meets (fun _ op (hσ : Inv _) h => ⟨(step_spec hσ op).2 h, (step_spec hσ op).1.mpr h⟩)
    (fun _ op hσ h => (step_spec hσ op).1.mp h) ops start start_inv

/-- CORRECT: in every sequence of orderly steps every device is on exactly with a streaming sensor, its
    count is their number, and every descriptor is closed once. -/
theorem shared_devices_kept (ops : List Op) (h : Meets step Orderly start ops) :
    Always step (fun _ _ σ => Kept HWSensorBase.streaming σ) start ops :=
  (kept_iff_orderly ops).mpr h

/-- The two sensors of one mpl3115 and a gyroscope; both are switched on and off, the gyroscope leaves. -/
def twoOnOneDevice : List Op :=
  [.create ⟨"mpl3115", .PRESSURE, 0⟩ ⟨true, []⟩, .create ⟨"mpl3115", .AMBIENT_TEMPERATURE, 0⟩ ⟨true, []⟩,
    .create ⟨"fxas21002c", .GYROSCOPE, 1⟩ ⟨true, []⟩, .activate 1 true ⟨true, true, true⟩,
    .activate 2 true ⟨false, false, false⟩, .activate 1 false ⟨false, false, false⟩,
    .activate 2 false ⟨true, true, true⟩, .destroy 3]

theorem shared_devices_kept_two : (run step start twoOnOneDevice).closed = [1] ∧
    Always step (fun _ _ σ => Kept HWSensorBase.streaming σ) start twoOnOneDevice :=
  ⟨by decide +kernel, shared_devices_kept twoOnOneDevice (by decide +kernel)⟩

/-- An enabled step counter is not counted, and the buffer of its device stays off. -/
theorem step_counter_not_counted :
    let σ := run step start [.create ⟨"rpmsg-iio-pedometer", .STEP_COUNTER, 0⟩ ⟨true, []⟩,
      .activate 1 true ⟨true, true, true⟩]
    ¬ Kept HWSensorBase.mIsEnabled σ ∧ σ.users HWSensorBase.mIsEnabled 0 = 1 ∧ σ.useCount 0 = 0 ∧
      σ.kernel.buffer 0 = false := by
  refine ⟨fun h => ?_, by decide +kernel, by decide +kernel, by decide +kernel⟩
  have hcount := h.switched.count 0
  revert hcount
  decide +kernel

end ImxHal.Sensor
