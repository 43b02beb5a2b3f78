import ImxHal.Schemes.Run
import ImxHal.Thermal.SensorConfig

/-! @src thermal/thermal-helper.cpp (getSeverityFromThresholds, readTemperature, readTemperatureThreshold,
    thermalWatcherCallbackFunc) | name:Throttling severity | scheme:hysteresis | family:run invariants

    The watcher reads its sensors and keeps a hot and a cold severity for each of them. With `t i` and `h i`
    for threshold and hysteresis of level `i`, the hot side of a reading is

        reached   t i ≤ value          held   t i - h i < value

    and the cold side is its mirror image. The parser orders the thresholds but says nothing about how
    large a hysteresis is, so that bands can overlap or be empty. -/

namespace ImxHal.Thermal
open ImxHal.Run ImxHal.Hysteresis

section Scan

variable (info : SensorInfo) (value : ℚ) (i : ThrottlingSeverity)

def SensorInfo.hotReached : Bool := !(info.hot_thresholds i).isnan && (info.hot_thresholds i).le (.fin value)

def SensorInfo.hotHeld : Bool :=
  !(info.hot_thresholds i).isnan && ((info.hot_thresholds i).sub (info.hot_hysteresis i)).lt (.fin value)

def SensorInfo.coldReached : Bool :=
  !(info.cold_thresholds i).isnan && (Num.fin value).le (info.cold_thresholds i)

def SensorInfo.coldHeld : Bool :=
  !(info.cold_thresholds i).isnan &&
    (Num.fin value).lt ((info.cold_thresholds i).add (info.cold_hysteresis i))

end Scan

/-- The four results of the severity scan. -/
structure Scan where
  ret_hot : ThrottlingSeverity
  ret_hot_hysteresis : ThrottlingSeverity
  ret_cold : ThrottlingSeverity
  ret_cold_hysteresis : ThrottlingSeverity

/-- One round of the loop: each result takes the first level that satisfies its test. -/
def scanLevel (info : SensorInfo) (value : ℚ) (s : Scan) (i : ThrottlingSeverity) : Scan where
  ret_hot := if info.hotReached value i = true ∧ s.ret_hot = .NONE then i else s.ret_hot
  ret_hot_hysteresis :=
    if info.hotHeld value i = true ∧ s.ret_hot_hysteresis = .NONE then i else s.ret_hot_hysteresis
  ret_cold := if info.coldReached value i = true ∧ s.ret_cold = .NONE then i else s.ret_cold
  ret_cold_hysteresis :=
    if info.coldHeld value i = true ∧ s.ret_cold_hysteresis = .NONE then i else s.ret_cold_hysteresis

def getSeverityFromThresholds (info : SensorInfo)
    (prev_hot_severity prev_cold_severity : ThrottlingSeverity) (value : ℚ) :
    ThrottlingSeverity × ThrottlingSeverity :=
  let s := fromShutdown.foldl (scanLevel info value) ⟨.NONE, .NONE, .NONE, .NONE⟩
  (if s.ret_hot < prev_hot_severity then s.ret_hot_hysteresis else s.ret_hot,
    if s.ret_cold < prev_cold_severity then s.ret_cold_hysteresis else s.ret_cold)

/-! ### The watcher -/

structure SensorStatus where
  severity : ThrottlingSeverity
  prev_hot_severity : ThrottlingSeverity
  prev_cold_severity : ThrottlingSeverity
  deriving DecidableEq

structure Temperature where
  type : String
  name : String
  value : ℚ
  throttlingStatus : ThrottlingSeverity

structure TemperatureThreshold where
  type : String
  name : String
  hotThrottlingThresholds : ThrottlingArray
  coldThrottlingThresholds : ThrottlingArray

structure ThermalHelper where
  sensor_info_map_ : SensorMap
  sensor_status_map_ : String → SensorStatus

/-- One call of the watcher: the sensors that sent an event, and what reading a sensor's file gives. -/
structure Poll where
  uevent_sensors : List String
  file : String → Option ℚ

/-- A call that names sensors leaves the others out. -/
def Poll.skips (poll : Poll) (sensor_name : String) : Bool :=
  poll.uevent_sensors.length ≠ 0 && !poll.uevent_sensors.contains sensor_name

/-- The reading and its severities; only a monitored sensor has a status. -/
def ThermalHelper.readTemperature (h : ThermalHelper) (sensor_name : String) (info : SensorInfo)
    (file : Option ℚ) : Option (Temperature × ThrottlingSeverity × ThrottlingSeverity) :=
  file.map fun temp =>
    let value := temp * info.multiplier
    let prev := h.sensor_status_map_ sensor_name
    let status := if info.is_monitor then
      getSeverityFromThresholds info prev.prev_hot_severity prev.prev_cold_severity value
    else (.NONE, .NONE)
    (⟨info.type, sensor_name, value, if status.2 < status.1 then status.1 else status.2⟩, status)

def ThermalHelper.readTemperatureThreshold (h : ThermalHelper) (sensor_name : String) :
    Option TemperatureThreshold :=
  (h.sensor_info_map_.lookup sensor_name).map fun info =>
    ⟨info.type, sensor_name, info.hot_thresholds, info.cold_thresholds⟩

/-- One round of the watcher's loop: the status afterwards, the temperature to send and whether the sensor
    counts as triggered. -/
def ThermalHelper.checkSensor (h : ThermalHelper) (poll : Poll) (sensor_name : String)
    (info : SensorInfo) : SensorStatus × Option Temperature × Bool :=
  let status := h.sensor_status_map_ sensor_name
  if !info.is_monitor then (status, none, false)
  else if poll.skips sensor_name then
    (status, none, decide (status.severity ≠ .NONE))
  else
    match h.readTemperature sensor_name info (poll.file sensor_name),
      h.readTemperatureThreshold sensor_name with
    | some (temp, throttling_status), some _ =>
      (⟨temp.throttlingStatus, throttling_status.1, throttling_status.2⟩, some temp, true)
    | _, _ => (status, none, false)

/-- The state afterwards, the batch for the callback and the result. -/
def ThermalHelper.thermalWatcherCallbackFunc (h : ThermalHelper) (poll : Poll) :
    ThermalHelper × List Temperature × Bool :=
  let checked := h.sensor_info_map_.map fun e => h.checkSensor poll e.1 e.2
  ({ h with
      sensor_status_map_ := fun name =>
        match h.sensor_info_map_.lookup name with
        | some info => (h.checkSensor poll name info).1
        | none => h.sensor_status_map_ name },
    checked.filterMap fun c => c.2.1, checked.any fun c => c.2.2)

def step (h : ThermalHelper) (poll : Poll) : ThermalHelper := (h.thermalWatcherCallbackFunc poll).1

/-- The helper after its constructor. -/
def start (temperatureTypes : List String) (sensors : List SensorValue) : ThermalHelper where
  sensor_info_map_ := ParseSensorInfo temperatureTypes sensors
  sensor_status_map_ := fun _ => ⟨.NONE, .NONE, .NONE⟩

/-- The value that a call of the watcher takes from a sensor. -/
def Poll.reading (poll : Poll) (sensor_name : String) (info : SensorInfo) : Option ℚ :=
  if !info.is_monitor || poll.skips sensor_name then none
  else (poll.file sensor_name).map (· * info.multiplier)

/-! ### What is meant to be kept -/

/-- Hot hysteresis between one severity and the next. -/
structure HotKept (info : SensorInfo) (prev cur : ThrottlingSeverity) (value : ℚ) : Prop where
  rises : prev < cur → (info.hot_thresholds cur).le (.fin value) = true
  covers : ∀ i ≠ .NONE, (info.hot_thresholds i).le (.fin value) = true → i ≤ cur
  drops : ∀ i, cur < i → i ≤ prev → (info.hot_thresholds i).isnan = false →
    (Num.fin value).le ((info.hot_thresholds i).sub (info.hot_hysteresis i)) = true

/-- Cold hysteresis, with the order of the readings turned round. -/
structure ColdKept (info : SensorInfo) (prev cur : ThrottlingSeverity) (value : ℚ) : Prop where
  rises : prev < cur → (Num.fin value).le (info.cold_thresholds cur) = true
  covers : ∀ i ≠ .NONE, (Num.fin value).le (info.cold_thresholds i) = true → i ≤ cur
  drops : ∀ i, cur < i → i ≤ prev → (info.cold_thresholds i).isnan = false →
    ((info.cold_thresholds i).add (info.cold_hysteresis i)).le (.fin value) = true

instance (info : SensorInfo) (prev cur : ThrottlingSeverity) (value : ℚ) :
    Decidable (HotKept info prev cur value) :=
  decidable_of_iff (_ ∧ _ ∧ _) ⟨fun h => ⟨h.1, h.2.1, h.2.2⟩, fun h => ⟨h.rises, h.covers, h.drops⟩⟩

instance (info : SensorInfo) (prev cur : ThrottlingSeverity) (value : ℚ) :
    Decidable (ColdKept info prev cur value) :=
  decidable_of_iff (_ ∧ _ ∧ _) ⟨fun h => ⟨h.1, h.2.1, h.2.2⟩, fun h => ⟨h.rises, h.covers, h.drops⟩⟩

/-- A sensor that was read keeps both, and one that was not keeps its status. -/
def SensorKept (info : SensorInfo) (prev cur : SensorStatus) : Option ℚ → Prop
  | none => cur = prev
  | some value => HotKept info prev.prev_hot_severity cur.prev_hot_severity value ∧
      ColdKept info prev.prev_cold_severity cur.prev_cold_severity value

instance (info : SensorInfo) (prev cur : SensorStatus) : (reading : Option ℚ) →
    Decidable (SensorKept info prev cur reading)
  | none => inferInstanceAs (Decidable (cur = prev))
  | some _ => inferInstanceAs (Decidable (_ ∧ _))

/-- Every sensor is kept by a call of the watcher. -/
def HysteresisKept (h : ThermalHelper) (poll : Poll) (h' : ThermalHelper) : Prop :=
  ∀ e ∈ h.sensor_info_map_, SensorKept e.2 (h.sensor_status_map_ e.1) (h'.sensor_status_map_ e.1)
    (poll.reading e.1 e.2)

instance (h : ThermalHelper) (poll : Poll) (h' : ThermalHelper) :
    Decidable (HysteresisKept h poll h') :=
  inferInstanceAs (Decidable (∀ e ∈ h.sensor_info_map_, _))

/-- Every reading settles, on the hot and on the cold side. -/
def AllSettle (h : ThermalHelper) (poll : Poll) : Prop :=
  ∀ e ∈ h.sensor_info_map_, ∀ value, poll.reading e.1 e.2 = some value →
    Settles (h.sensor_status_map_ e.1).prev_hot_severity (e.2.hotReached value) (e.2.hotHeld value) ∧
    Settles (h.sensor_status_map_ e.1).prev_cold_severity (e.2.coldReached value) (e.2.coldHeld value)

/-! ### One reading -/

/-- The scan finds the highest level of each kind. -/
theorem scan_eq (info : SensorInfo) (value : ℚ) :
    fromShutdown.foldl (scanLevel info value) ⟨.NONE, .NONE, .NONE, .NONE⟩ =
      ⟨top fromShutdown (info.hotReached value), top fromShutdown (info.hotHeld value),
        top fromShutdown (info.coldReached value), top fromShutdown (info.coldHeld value)⟩ := by
  have hne : ∀ l ∈ fromShutdown, l ≠ ⊥ := fun l hl => (levels_fromShutdown.all l).mp hl
  simp only [← foldl_top hne]
  generalize fromShutdown = ls
  have hparts : ∀ s : Scan, ls.foldl (scanLevel info value) s =
      ⟨ls.foldl (fun r l => if info.hotReached value l = true ∧ r = ⊥ then l else r) s.ret_hot,
        ls.foldl (fun r l => if info.hotHeld value l = true ∧ r = ⊥ then l else r) s.ret_hot_hysteresis,
        ls.foldl (fun r l => if info.coldReached value l = true ∧ r = ⊥ then l else r) s.ret_cold,
        ls.foldl (fun r l => if info.coldHeld value l = true ∧ r = ⊥ then l else r)
          s.ret_cold_hysteresis⟩ := by
    induction ls with
    | nil => exact fun s => rfl
    | cons l ls ih => exact fun s => ih (scanLevel info value s l)
  exact hparts _

theorem getSeverityFromThresholds_eq (info : SensorInfo) (hot cold : ThrottlingSeverity) (value : ℚ) :
    getSeverityFromThresholds info hot cold value =
      (next fromShutdown hot (info.hotReached value) (info.hotHeld value),
        next fromShutdown cold (info.coldReached value) (info.coldHeld value)) := by
  rw [getSeverityFromThresholds, scan_eq]
  rfl

/-- A finite threshold moved by a hysteresis is a number. -/
theorem isnan_shift {t h : Num} (ht : ∃ q, t = .fin q) (hh : h.isnan = false) :
    (t.sub h).isnan = false ∧ (t.add h).isnan = false := by
  obtain ⟨q, rfl⟩ := ht
  cases h <;> simp_all [Num.sub, Num.add, Num.neg, Num.isnan]

theorem isnan_of_le {a b : Num} (h : a.le b = true) : a.isnan = false ∧ b.isnan = false := by
  cases a <;> cases b <;> simp_all [Num.le, Num.isnan]

/-- The severity a sensor stands at has a finite threshold. -/
def Finite (a : ThrottlingArray) (s : ThrottlingSeverity) : Prop := s ≠ .NONE → ∃ q, a s = .fin q

/-- Between the bound and a finite entry a set one is finite. -/
theorem Ordered.fin {le : Num → Num → Prop} {bound : Num} {a : ThrottlingArray} (ha : Ordered le bound a)
    (hbetween : ∀ v q, le bound v → le v (.fin q) → ∃ r, v = .fin r) {i prev : ThrottlingSeverity}
    (hfin : ∃ q, a prev = .fin q) (hle : i ≤ prev) (hset : (a i).isnan = false) : ∃ q, a i = .fin q := by
  obtain ⟨q, hq⟩ := hfin
  rcases hle.eq_or_lt with rfl | hlt
  · exact ⟨q, hq⟩
  · obtain ⟨hbound, hup⟩ := ha i hset
    have hle' := hup prev hlt (by rw [hq]; rfl)
    rw [hq] at hle'
    exact hbetween _ q hbound hle'

/-- Below a finite hot threshold all set ones are finite. -/
theorem hot_fin {info : SensorInfo} (ha : info.Accepted) {i prev : ThrottlingSeverity}
    (hfin : ∃ q, info.hot_thresholds prev = .fin q) (hle : i ≤ prev)
    (hset : (info.hot_thresholds i).isnan = false) : ∃ q, info.hot_thresholds i = .fin q :=
  ha.hot.fin (fun _ _ hlow hhigh => Num.fin_of_between hlow hhigh ⟨_, rfl⟩) hfin hle hset

/-- Below a finite cold threshold all set ones are finite. -/
theorem cold_fin {info : SensorInfo} (ha : info.Accepted) {i prev : ThrottlingSeverity}
    (hfin : ∃ q, info.cold_thresholds prev = .fin q) (hle : i ≤ prev)
    (hset : (info.cold_thresholds i).isnan = false) : ∃ q, info.cold_thresholds i = .fin q :=
  ha.cold.fin (fun _ _ hhigh hlow => Num.fin_of_between hlow hhigh ⟨_, rfl⟩) hfin hle hset

theorem hotReached_iff {info : SensorInfo} {value : ℚ} {i : ThrottlingSeverity} :
    info.hotReached value i = true ↔ (info.hot_thresholds i).le (.fin value) = true := by
  rw [SensorInfo.hotReached, Bool.and_eq_true, Bool.not_eq_true', and_iff_right_iff_imp]
  exact fun h => (isnan_of_le h).1

theorem coldReached_iff {info : SensorInfo} {value : ℚ} {i : ThrottlingSeverity} :
    info.coldReached value i = true ↔ (Num.fin value).le (info.cold_thresholds i) = true := by
  rw [SensorInfo.coldReached, Bool.and_eq_true, Bool.not_eq_true', and_iff_right_iff_imp]
  exact fun h => (isnan_of_le h).2

/-- A hot level is left at or below its threshold minus its hysteresis. -/
theorem hot_released {info : SensorInfo} (ha : info.Accepted) {value : ℚ} {i prev : ThrottlingSeverity}
    (hfin : ∃ q, info.hot_thresholds prev = .fin q) (hle : i ≤ prev)
    (hset : (info.hot_thresholds i).isnan = false) (h : info.hotHeld value i = false) :
    (Num.fin value).le ((info.hot_thresholds i).sub (info.hot_hysteresis i)) = true := by
  rw [SensorInfo.hotHeld, hset, Bool.not_false, Bool.true_and] at h
  have hnum := (isnan_shift (hot_fin ha hfin hle hset) (ha.hot_hysteresis i)).1
  exact Num.le_of_not_lt rfl hnum h

/-- A cold level is left at or above its threshold plus its hysteresis. -/
theorem cold_released {info : SensorInfo} (ha : info.Accepted) {value : ℚ} {i prev : ThrottlingSeverity}
    (hfin : ∃ q, info.cold_thresholds prev = .fin q) (hle : i ≤ prev)
    (hset : (info.cold_thresholds i).isnan = false) (h : info.coldHeld value i = false) :
    ((info.cold_thresholds i).add (info.cold_hysteresis i)).le (.fin value) = true := by
  rw [SensorInfo.coldHeld, hset, Bool.not_false, Bool.true_and] at h
  have hnum := (isnan_shift (cold_fin ha hfin hle hset) (ha.cold_hysteresis i)).2
  exact Num.le_of_not_lt hnum rfl h

/-- The hot side of a reading is kept exactly if it settles. -/
theorem hotKept_iff {info : SensorInfo} (ha : info.Accepted) {prev : ThrottlingSeverity} {value : ℚ}
    (hfin : Finite info.hot_thresholds prev) :
    HotKept info prev (next fromShutdown prev (info.hotReached value) (info.hotHeld value)) value ↔
      Settles prev (info.hotReached value) (info.hotHeld value) := by
  have hmeans := next_means_iff levels_fromShutdown prev (info.hotReached value)
    (info.hotHeld value) (fun _ => hotReached_iff)
    fun i hne hle hheld (hset : (info.hot_thresholds i).isnan = false) =>
      hot_released ha (hfin (hne.bot_lt.trans_le hle).ne') hle hset hheld
  rw [← hmeans]
  exact ⟨fun h => ⟨h.rises, h.covers, h.drops⟩, fun h => ⟨h.1, h.2.1, h.2.2⟩⟩

/-- The cold side of a reading is kept exactly if it settles. -/
theorem coldKept_iff {info : SensorInfo} (ha : info.Accepted) {prev : ThrottlingSeverity} {value : ℚ}
    (hfin : Finite info.cold_thresholds prev) :
    ColdKept info prev (next fromShutdown prev (info.coldReached value) (info.coldHeld value)) value ↔
      Settles prev (info.coldReached value) (info.coldHeld value) := by
  have hmeans := next_means_iff levels_fromShutdown prev (info.coldReached value)
    (info.coldHeld value) (fun _ => coldReached_iff)
    fun i hne hle hheld (hset : (info.cold_thresholds i).isnan = false) =>
      cold_released ha (hfin (hne.bot_lt.trans_le hle).ne') hle hset hheld
  rw [← hmeans]
  exact ⟨fun h => ⟨h.rises, h.covers, h.drops⟩, fun h => ⟨h.1, h.2.1, h.2.2⟩⟩

/-- A hot level that is reached or held has a finite threshold. -/
theorem hot_entered {info : SensorInfo} (ha : info.Accepted) {value : ℚ} {i : ThrottlingSeverity}
    (h : info.hotReached value i = true ∨ info.hotHeld value i = true) :
    ∃ q, info.hot_thresholds i = .fin q := by
  have hbound := fun hset => (ha.hot i hset).1
  rcases h with h | h
  · rcases ht : info.hot_thresholds i <;> simp_all [SensorInfo.hotReached, Num.isnan, Num.le]
  · rcases ht : info.hot_thresholds i <;> rcases hh : info.hot_hysteresis i <;>
      simp_all [SensorInfo.hotHeld, Num.isnan, Num.le, Num.lt, Num.sub, Num.add, Num.neg]

/-- A cold level that is reached or held has a finite threshold. -/
theorem cold_entered {info : SensorInfo} (ha : info.Accepted) {value : ℚ} {i : ThrottlingSeverity}
    (h : info.coldReached value i = true ∨ info.coldHeld value i = true) :
    ∃ q, info.cold_thresholds i = .fin q := by
  have hbound := fun hset => (ha.cold i hset).1
  rcases h with h | h
  · rcases ht : info.cold_thresholds i <;> simp_all [SensorInfo.coldReached, Num.isnan, Num.le]
  · rcases ht : info.cold_thresholds i <;> rcases hh : info.cold_hysteresis i <;>
      simp_all [SensorInfo.coldHeld, Num.isnan, Num.le, Num.lt, Num.add]

/-! ### Runs of the watcher -/

/-- The sensors are accepted and the severities they stand at have finite thresholds. -/
structure Inv (h : ThermalHelper) : Prop where
  accepted : ∀ e ∈ h.sensor_info_map_, e.2.Accepted
  nodup : (h.sensor_info_map_.map Prod.fst).Nodup
  hot : ∀ e ∈ h.sensor_info_map_,
    Finite e.2.hot_thresholds (h.sensor_status_map_ e.1).prev_hot_severity
  cold : ∀ e ∈ h.sensor_info_map_,
    Finite e.2.cold_thresholds (h.sensor_status_map_ e.1).prev_cold_severity

theorem lookup_of_mem {m : SensorMap} (hm : (m.map Prod.fst).Nodup) {e : String × SensorInfo}
    (he : e ∈ m) : m.lookup e.1 = some e.2 := by
  induction m with
  | nil => cases he
  | cons d m ih =>
    obtain ⟨hnew, hm⟩ := List.nodup_cons.mp hm
    rcases List.mem_cons.mp he with rfl | he
    · simp [List.lookup]
    · have hne : e.1 ≠ d.1 := fun heq => hnew (heq ▸ List.mem_map_of_mem he)
      simpa [List.lookup, beq_eq_false_iff_ne.mpr hne] using ih hm he

/-- A sensor that is not read keeps its status, and one that is read takes the next level of both sides. -/
theorem status_step {h : ThermalHelper} (hi : Inv h) (poll : Poll) {e : String × SensorInfo}
    (he : e ∈ h.sensor_info_map_) :
    match poll.reading e.1 e.2 with
    | none => (step h poll).sensor_status_map_ e.1 = h.sensor_status_map_ e.1
    | some value =>
      ((step h poll).sensor_status_map_ e.1).prev_hot_severity =
        next fromShutdown (h.sensor_status_map_ e.1).prev_hot_severity (e.2.hotReached value)
          (e.2.hotHeld value) ∧
      ((step h poll).sensor_status_map_ e.1).prev_cold_severity =
        next fromShutdown (h.sensor_status_map_ e.1).prev_cold_severity (e.2.coldReached value)
          (e.2.coldHeld value) := by
  have hlook := lookup_of_mem hi.nodup he
  have hstep : (step h poll).sensor_status_map_ e.1 = (h.checkSensor poll e.1 e.2).1 := by
    simp [step, ThermalHelper.thermalWatcherCallbackFunc, hlook]
  rw [hstep, Poll.reading]
  by_cases hm : e.2.is_monitor
  swap
  · simp [ThermalHelper.checkSensor, hm]
  by_cases hu : poll.skips e.1
  · simp [ThermalHelper.checkSensor, hm, hu]
  rcases hf : poll.file e.1 with _ | temp
  · simp [ThermalHelper.checkSensor, ThermalHelper.readTemperature, hm, hu, hf]
  · simp [ThermalHelper.checkSensor, ThermalHelper.readTemperature,
      ThermalHelper.readTemperatureThreshold, hm, hu, hf, hlook, getSeverityFromThresholds_eq]

theorem step_inv {h : ThermalHelper} (hi : Inv h) (poll : Poll) : Inv (step h poll) where
  accepted := hi.accepted
  nodup := hi.nodup
  hot := by
    intro e he hne
    have hs := status_step hi poll he
    rcases hr : poll.reading e.1 e.2 with _ | value <;> simp only [hr] at hs
    · rw [hs] at hne ⊢
      exact hi.hot e he hne
    · rw [hs.1] at hne ⊢
      exact hot_entered (hi.accepted e he) (next_reached_or_held hne)
  cold := by
    intro e he hne
    have hs := status_step hi poll he
    rcases hr : poll.reading e.1 e.2 with _ | value <;> simp only [hr] at hs
    · rw [hs] at hne ⊢
      exact hi.cold e he hne
    · rw [hs.2] at hne ⊢
      exact cold_entered (hi.accepted e he) (next_reached_or_held hne)

/-- A call of the watcher keeps hysteresis exactly if all its readings settle. -/
theorem kept_iff_settle {h : ThermalHelper} (hi : Inv h) (poll : Poll) :
    HysteresisKept h poll (step h poll) ↔ AllSettle h poll := by
  refine forall₂_congr fun e he => ?_
  have hs := status_step hi poll he
  rcases hr : poll.reading e.1 e.2 with _ | value <;> simp only [hr] at hs ⊢
  · simp [SensorKept, hs]
  · rw [SensorKept, hs.1, hs.2, hotKept_iff (hi.accepted e he) (hi.hot e he),
      coldKept_iff (hi.accepted e he) (hi.cold e he)]
    exact ⟨fun hk v hv => by obtain rfl := Option.some.inj hv; exact hk, fun hk => hk value rfl⟩

theorem start_inv (temperatureTypes : List String) (sensors : List SensorValue) :
    Inv (start temperatureTypes sensors) where
  accepted := (parseSensorInfo_accepted temperatureTypes sensors).1
  nodup := (parseSensorInfo_accepted temperatureTypes sensors).2
  hot := fun _ _ hne => absurd rfl hne
  cold := fun _ _ hne => absurd rfl hne

/-- Bands that lie apart: every hysteresis is positive, and no level is held at or before the threshold of
    a lower one. -/
structure SensorInfo.Apart (info : SensorInfo) : Prop where
  hot_pos : ∀ i, (Num.fin 0).lt (info.hot_hysteresis i) = true
  cold_pos : ∀ i, (Num.fin 0).lt (info.cold_hysteresis i) = true
  hot_apart : ∀ i j, i < j → (info.hot_thresholds i).isnan = false →
    (info.hot_thresholds j).isnan = false →
    (info.hot_thresholds i).le ((info.hot_thresholds j).sub (info.hot_hysteresis j)) = true
  cold_apart : ∀ i j, i < j → (info.cold_thresholds i).isnan = false →
    (info.cold_thresholds j).isnan = false →
    ((info.cold_thresholds j).add (info.cold_hysteresis j)).le (info.cold_thresholds i) = true

theorem hot_settles {info : SensorInfo} (ha : info.Accepted) (hap : info.Apart)
    {prev : ThrottlingSeverity} (hfin : Finite info.hot_thresholds prev) (value : ℚ) :
    Settles prev (info.hotReached value) (info.hotHeld value) := by
  rcases eq_or_ne prev .NONE with rfl | hne
  · exact Or.inl rfl
  refine settles_of_apart (fun i hr => ?_) (fun i hlt hh => ?_)
  · obtain ⟨q, hq⟩ := hot_entered ha (Or.inl hr)
    have hle := hotReached_iff.mp hr
    have hpos := hap.hot_pos i
    rcases hh : info.hot_hysteresis i <;>
      simp_all [SensorInfo.hotHeld, Num.isnan, Num.sub, Num.add, Num.neg, Num.lt, Num.le]
    constructor <;> linarith
  · obtain ⟨q, hq⟩ := hfin hne
    obtain ⟨r, hr⟩ := hot_entered ha (Or.inr hh)
    have hle := hap.hot_apart prev i hlt (by rw [hq]; rfl) (by rw [hr]; rfl)
    rw [hotReached_iff]
    rw [SensorInfo.hotHeld, Bool.and_eq_true, Num.lt, Bool.and_eq_true] at hh
    exact Num.le_trans hle hh.2.1

theorem cold_settles {info : SensorInfo} (ha : info.Accepted) (hap : info.Apart)
    {prev : ThrottlingSeverity} (hfin : Finite info.cold_thresholds prev) (value : ℚ) :
    Settles prev (info.coldReached value) (info.coldHeld value) := by
  rcases eq_or_ne prev .NONE with rfl | hne
  · exact Or.inl rfl
  refine settles_of_apart (fun i hr => ?_) (fun i hlt hh => ?_)
  · obtain ⟨q, hq⟩ := cold_entered ha (Or.inl hr)
    have hle := coldReached_iff.mp hr
    have hpos := hap.cold_pos i
    rcases hh : info.cold_hysteresis i <;>
      simp_all [SensorInfo.coldHeld, Num.isnan, Num.add, Num.lt, Num.le]
    constructor <;> linarith
  · obtain ⟨q, hq⟩ := hfin hne
    obtain ⟨r, hr⟩ := cold_entered ha (Or.inr hh)
    have hle := hap.cold_apart prev i hlt (by rw [hq]; rfl) (by rw [hr]; rfl)
    rw [coldReached_iff]
    rw [SensorInfo.coldHeld, Bool.and_eq_true, Num.lt, Bool.and_eq_true] at hh
    exact Num.le_trans hh.2.1 hle

/-- With bands apart every sequence of readings keeps hysteresis. -/
theorem kept_of_apart (temperatureTypes : List String) (sensors : List SensorValue)
    (hap : ∀ e ∈ ParseSensorInfo temperatureTypes sensors, e.2.Apart) (polls : List Poll) :
    Always step HysteresisKept (start temperatureTypes sensors) polls := by
  refine always_of_inv (fun h poll (hi : Inv h ∧ ∀ e ∈ h.sensor_info_map_, e.2.Apart) => ?_) polls _
    ⟨start_inv temperatureTypes sensors, hap⟩
  refine ⟨⟨step_inv hi.1 poll, hi.2⟩, (kept_iff_settle hi.1 poll).mpr fun e he value _ => ⟨?_, ?_⟩⟩
  · exact hot_settles (hi.1.accepted e he) (hi.2 e he) (hi.1.hot e he) value
  · exact cold_settles (hi.1.accepted e he) (hi.2 e he) (hi.1.cold e he) value

/-- Two monitored sensors with thresholds 60 and 70: `cpu` without hysteresis, `gpu` with 20 on its upper
    level. -/
def twoSensors : List SensorValue :=
  let thresholds := [.nan, .fin 60, .fin 70, .nan, .nan, .nan, .nan]
  [⟨"cpu", "CPU", thresholds, [], [], [], 1, some true⟩,
    ⟨"gpu", "GPU", thresholds, [0, 0, 20, 0, 0, 0, 0].map .fin, [], [], 1, some true⟩]

end ImxHal.Thermal
