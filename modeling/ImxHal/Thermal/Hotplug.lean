import ImxHal.Schemes.Run
import ImxHal.Thermal.Severity

/-! @src thermal/Thermal.cpp (sendThermalChangedCallback), thermal/thermal-helper.cpp
    (fillTemperatureThresholds, enableCPU), thermal/utils/config_parser.cpp (ParseHotplugCPUInfo) |
    name:CPU hotplug | scheme:run | family:state machines

    When a CPU sensor is too hot the configured CPUs are taken offline, and brought back when it has cooled
    down. One flag serves all sensors, and so do the thresholds of the FIRST CPU sensor of the
    configuration, so that a batch is a sequence of verdicts of which the last one stands:

        value ≥ level 3 of the first     off
        value < level 2 of the first     on
        in between, or NaN               as before -/

namespace ImxHal.CpuHotplug
open ImxHal.Run ImxHal.Thermal

structure CallbackSetting where
  callback : ℕ
  is_filter_type : Bool
  type : String
  deriving DecidableEq

/-- The service with its static variables, and the online files of the CPUs. -/
structure Thermal where
  thermal_helper_ : ThermalHelper
  callbacks_ : List CallbackSetting
  CPUInfo : List String
  tempThrottling : Bool
  online : String → Bool

/-- What the service finds: `root["HotplugCPUs"]` of the configuration file, and the CPUs whose online file
    can be opened. -/
structure Platform where
  HotplugCPUs : List String
  opens : String → Bool

/-- One call: the batch, and which callbacks answer. -/
structure Batch where
  temps : List Temperature
  isOk : ℕ → Bool

/-- The CPUs to switch; one empty name rejects the whole list. -/
def ParseHotplugCPUInfo (Hotplug_CPUs : List String) : List String :=
  if "" ∈ Hotplug_CPUs then [] else Hotplug_CPUs

def enableCPU (p : Platform) (enable : Bool) (online : String → Bool) (cpu : String) : String → Bool :=
  if p.opens cpu then Function.update online cpu enable else online

/-- The thresholds of the sensors of a type; none at all counts as a failure. -/
def fillTemperatureThresholds (h : ThermalHelper) (type : String) :
    Option (List TemperatureThreshold) :=
  match (h.sensor_info_map_.filter fun e => e.2.type = type).mapM fun e =>
    h.readTemperatureThreshold e.1 with
  | none => none
  | some ret => if ret.length > 0 then some ret else none

/-- The switch for one CPU reading. -/
def Thermal.throttle (p : Platform) (t : Thermal) (tempThreshold : TemperatureThreshold) (value : ℚ) :
    Thermal :=
  if (tempThreshold.hotThrottlingThresholds .SEVERE).le (.fin value) && !t.tempThrottling then
    let CPUInfo := ParseHotplugCPUInfo p.HotplugCPUs
    { t with CPUInfo := CPUInfo, online := CPUInfo.foldl (enableCPU p false) t.online
             tempThrottling := true }
  else if (Num.fin value).lt (tempThreshold.hotThrottlingThresholds .MODERATE) && t.tempThrottling then
    { t with online := t.CPUInfo.foldl (enableCPU p true) t.online, tempThrottling := false }
  else t

/-- Callbacks that should hear of a temperature and do not answer are dropped. -/
def Thermal.notify (t : Thermal) (isOk : ℕ → Bool) (temp : Temperature) : Thermal :=
  { t with callbacks_ := t.callbacks_.filter fun c =>
      !((!c.is_filter_type || temp.type == c.type) && !isOk c.callback) }

/-- The loop over the batch; a failure to get thresholds leaves it. -/
def Thermal.sendThermalChangedCallback (p : Platform) (isOk : ℕ → Bool) (t : Thermal) :
    List Temperature → Thermal
  | [] => t
  | temp :: temps =>
    if temp.type = "CPU" then
      match fillTemperatureThresholds t.thermal_helper_ "CPU" with
      | some (tempThreshold :: _) =>
        ((t.throttle p tempThreshold temp.value).notify isOk temp).sendThermalChangedCallback p isOk temps
      | _ => t
    else (t.notify isOk temp).sendThermalChangedCallback p isOk temps

def step (p : Platform) (t : Thermal) (b : Batch) : Thermal :=
  t.sendThermalChangedCallback p b.isOk b.temps

/-! ### What is meant to be kept -/

def Platform.cpus (p : Platform) : List String := ParseHotplugCPUInfo p.HotplugCPUs

/-- A CPU reading at or above level 3 of its own sensor. -/
def OwnHot (h : ThermalHelper) (temp : Temperature) : Prop :=
  temp.type = "CPU" ∧ ∃ e ∈ h.sensor_info_map_, e.1 = temp.name ∧
    (e.2.hot_thresholds .SEVERE).le (.fin temp.value) = true

/-- A reading that is no CPU reading, or below level 2 of its own sensor. -/
def OwnCool (h : ThermalHelper) (temp : Temperature) : Prop :=
  temp.type = "CPU" → ∀ e ∈ h.sensor_info_map_, e.1 = temp.name →
    (Num.fin temp.value).lt (e.2.hot_thresholds .MODERATE) = true

/-- After a batch with a hot CPU the configured CPUs are offline, and one that was offline is online again
    only if all CPUs of the batch are cool. -/
def Protected (p : Platform) (t : Thermal) (b : Batch) (t' : Thermal) : Prop :=
  ((∃ temp ∈ b.temps, OwnHot t.thermal_helper_ temp) → ∀ cpu ∈ p.cpus, t'.online cpu = false) ∧
    ∀ cpu ∈ p.cpus, t.online cpu = false → t'.online cpu = true →
      ∀ temp ∈ b.temps, OwnCool t.thermal_helper_ temp

instance (h : ThermalHelper) (temp : Temperature) : Decidable (OwnHot h temp) :=
  inferInstanceAs (Decidable (_ ∧ ∃ e ∈ h.sensor_info_map_, _))

instance (h : ThermalHelper) (temp : Temperature) : Decidable (OwnCool h temp) :=
  inferInstanceAs (Decidable (_ → ∀ e ∈ h.sensor_info_map_, _ → _))

instance (p : Platform) (t : Thermal) (b : Batch) (t' : Thermal) : Decidable (Protected p t b t') :=
  inferInstanceAs (Decidable (((∃ temp ∈ b.temps, _) → ∀ cpu ∈ p.cpus, _) ∧
    ∀ cpu ∈ p.cpus, _ → _ → ∀ temp ∈ b.temps, _))

/-! ### Verdicts -/

/-- The thresholds that all CPU readings are compared with. -/
def firstCPU (h : ThermalHelper) : Option SensorInfo :=
  ((h.sensor_info_map_.filter fun e => e.2.type = "CPU").head?).map Prod.snd

/-- Off, on, or no verdict. -/
def verdict (info : SensorInfo) (value : ℚ) : Option Bool :=
  if (info.hot_thresholds .SEVERE).le (.fin value) then some true
  else if (Num.fin value).lt (info.hot_thresholds .MODERATE) then some false
  else none

/-- The last verdict of a batch by the first CPU sensor. -/
def lastVerdict (h : ThermalHelper) (temps : List Temperature) : Option Bool :=
  match firstCPU h with
  | none => none
  | some info =>
    ((temps.filter fun temp => temp.type = "CPU").filterMap fun temp => verdict info temp.value).getLast?

/-- With a hot CPU in the batch every configured CPU can be switched and the last verdict is off; the
    CPUs come back only when all CPU readings are cool for their own sensors. -/
def Agrees (p : Platform) (t : Thermal) (b : Batch) : Prop :=
  let off := (lastVerdict t.thermal_helper_ b.temps).getD t.tempThrottling
  ((∃ temp ∈ b.temps, OwnHot t.thermal_helper_ temp) → ∀ cpu ∈ p.cpus, p.opens cpu ∧ off = true) ∧
    ((∃ cpu ∈ p.cpus, p.opens cpu) → t.tempThrottling = true → off = false →
      ∀ temp ∈ b.temps, OwnCool t.thermal_helper_ temp)

/-! ### One batch -/

theorem foldl_enableCPU (p : Platform) (enable : Bool) (cpus : List String) (online : String → Bool)
    (cpu : String) : cpus.foldl (enableCPU p enable) online cpu =
      if cpu ∈ cpus ∧ p.opens cpu then enable else online cpu := by
  induction cpus generalizing online with
  | nil => simp
  | cons c cpus ih =>
    rw [List.foldl_cons, ih]
    by_cases hc : cpu = c
    · subst hc
      by_cases ho : p.opens cpu <;> simp [enableCPU, ho]
    · by_cases ho : p.opens c <;> simp [enableCPU, ho, hc]

/-- Every sensor of the type has thresholds, so the first of them decides. -/
theorem fillTemperatureThresholds_cpu {h : ThermalHelper} (hn : (h.sensor_info_map_.map Prod.fst).Nodup) :
    match firstCPU h with
    | none => fillTemperatureThresholds h "CPU" = none
    | some info => ∃ threshold rest, fillTemperatureThresholds h "CPU" = some (threshold :: rest) ∧
        threshold.hotThrottlingThresholds = info.hot_thresholds := by
  have hall : ∀ es : SensorMap, (∀ e ∈ es, e ∈ h.sensor_info_map_) →
      es.mapM (fun e => h.readTemperatureThreshold e.1) =
        some (es.map fun e => ⟨e.2.type, e.1, e.2.hot_thresholds, e.2.cold_thresholds⟩) := by
    intro es hes
    induction es with
    | nil => rfl
    | cons e es ih =>
      have hlook := lookup_of_mem hn (hes e List.mem_cons_self)
      rw [List.mapM_cons, ih fun d hd => hes d (List.mem_cons_of_mem e hd)]
      simp [ThermalHelper.readTemperatureThreshold, hlook]
  have hcpu := hall (h.sensor_info_map_.filter fun e => e.2.type = "CPU")
    fun e he => (List.mem_filter.mp he).1
  rw [firstCPU, fillTemperatureThresholds, hcpu]
  generalize h.sensor_info_map_.filter (fun e => e.2.type = "CPU") = es
  cases es <;> simp

/-- A flag that is on has switched off the CPUs of the configuration. -/
structure Inv (p : Platform) (t : Thermal) : Prop where
  helper : ImxHal.Thermal.Inv t.thermal_helper_
  info : t.tempThrottling = true → t.CPUInfo = p.cpus
  online : ∀ cpu ∈ p.cpus, t.online cpu = (!t.tempThrottling || !p.opens cpu)

/-- Level 3 lies above level 2 where both are set. -/
theorem not_cool_of_severe {info : SensorInfo} (ha : info.Accepted) {value : ℚ}
    (h : (info.hot_thresholds .SEVERE).le (.fin value) = true) :
    (Num.fin value).lt (info.hot_thresholds .MODERATE) = false := by
  by_contra hlt
  rw [Bool.not_eq_false, Num.lt, Bool.and_eq_true, Bool.not_eq_true'] at hlt
  have hset := (isnan_of_le hlt.1).2
  have hle := (ha.hot .MODERATE hset).2 .SEVERE (by decide) (isnan_of_le h).1
  exact absurd (Num.le_trans hle h) (by simp [hlt.2])

theorem throttle_spec {p : Platform} {t : Thermal} (ht : Inv p t) {info : SensorInfo}
    (ha : info.Accepted) {threshold : TemperatureThreshold}
    (hth : threshold.hotThrottlingThresholds = info.hot_thresholds) (value : ℚ) :
    Inv p (t.throttle p threshold value) ∧
      (t.throttle p threshold value).thermal_helper_ = t.thermal_helper_ ∧
      (t.throttle p threshold value).tempThrottling = (verdict info value).getD t.tempThrottling := by
  rw [Thermal.throttle, verdict, hth]
  by_cases hsev : (info.hot_thresholds .SEVERE).le (.fin value)
  · have hcool := not_cool_of_severe ha hsev
    rcases hflag : t.tempThrottling with _ | _
    · simp only [hsev, Bool.not_false, Bool.and_self, if_true, Option.getD_some, and_true]
      refine ⟨ht.helper, fun _ => rfl, fun cpu hcpu => ?_⟩
      have honline := ht.online cpu hcpu
      by_cases ho : p.opens cpu <;> simp_all [foldl_enableCPU, Platform.cpus]
    · simp [hsev, hcool, hflag, ht]
  · by_cases hmod : (Num.fin value).lt (info.hot_thresholds .MODERATE)
    · rcases hflag : t.tempThrottling with _ | _
      · simp [hsev, hmod, hflag, ht]
      · simp only [hsev, hmod, Bool.false_and, Bool.and_self, if_true, Bool.false_eq_true, if_false,
          Option.getD_some, and_true]
        refine ⟨ht.helper, fun h => (by cases h), fun cpu hcpu => ?_⟩
        have honline := ht.online cpu hcpu
        have hinfo := ht.info hflag
        by_cases ho : p.opens cpu <;> simp_all [foldl_enableCPU]
    · simp [hsev, hmod, ht]

theorem notify_inv {p : Platform} {t : Thermal} (ht : Inv p t) (isOk : ℕ → Bool) (temp : Temperature) :
    Inv p (t.notify isOk temp) := ⟨ht.helper, ht.info, ht.online⟩

/-- The verdict of a reading counts until the next one. -/
theorem lastVerdict_cons (h : ThermalHelper) (temp : Temperature) (temps : List Temperature)
    (flag : Bool) : (lastVerdict h (temp :: temps)).getD flag =
      (lastVerdict h temps).getD (if temp.type = "CPU" then
        ((firstCPU h).bind fun info => verdict info temp.value).getD flag else flag) := by
  rw [lastVerdict, lastVerdict]
  rcases firstCPU h with _ | info
  · simp
  by_cases hcpu : temp.type = "CPU"
  swap
  · simp [hcpu]
  rcases hv : verdict info temp.value with _ | b
  · simp [hcpu, hv]
  · simp [hcpu, hv, List.getLast?_cons]

/-- A batch leaves the CPUs as the last verdict says. -/
theorem send_spec {p : Platform} (isOk : ℕ → Bool) (temps : List Temperature) {t : Thermal}
    (ht : Inv p t) : Inv p (t.sendThermalChangedCallback p isOk temps) ∧
      (t.sendThermalChangedCallback p isOk temps).thermal_helper_ = t.thermal_helper_ ∧
      (t.sendThermalChangedCallback p isOk temps).tempThrottling =
        (lastVerdict t.thermal_helper_ temps).getD t.tempThrottling := by
  induction temps generalizing t with
  | nil =>
    refine ⟨ht, rfl, ?_⟩
    rw [lastVerdict]
    rcases firstCPU t.thermal_helper_ with _ | info <;> rfl
  | cons temp temps ih =>
    rw [Thermal.sendThermalChangedCallback, lastVerdict_cons]
    by_cases hcpu : temp.type = "CPU"
    swap
    · rw [if_neg hcpu, if_neg hcpu]
      exact ih (notify_inv ht isOk temp)
    rw [if_pos hcpu, if_pos hcpu]
    have hfill := fillTemperatureThresholds_cpu ht.helper.nodup
    rcases hfirst : firstCPU t.thermal_helper_ with _ | info <;> simp only [hfirst] at hfill
    · simp only [hfill, true_and]
      refine ⟨ht, ?_⟩
      rw [lastVerdict, hfirst]
      rfl
    · obtain ⟨threshold, rest, hsome, hth⟩ := hfill
      simp only [hsome]
      have ha : info.Accepted := by
        obtain ⟨e, he, rfl⟩ := Option.map_eq_some_iff.mp hfirst
        exact ht.helper.accepted e (List.mem_filter.mp (List.mem_of_mem_head? he)).1
      obtain ⟨hinv, hhelper, hflag⟩ := throttle_spec ht ha hth temp.value
      obtain ⟨hrest, hhelper', hflag'⟩ := ih (notify_inv hinv isOk temp)
      refine ⟨hrest, hhelper'.trans hhelper, hflag'.trans ?_⟩
      rw [Option.bind_some, ← hflag]
      exact congrArg (fun h => (lastVerdict h temps).getD _) hhelper

/-- A batch protects the CPUs exactly if the last verdict agrees with every sensor's own levels. -/
theorem protected_iff {p : Platform} {t : Thermal} (ht : Inv p t) (b : Batch) :
    Protected p t b (step p t b) ↔ Agrees p t b := by
  obtain ⟨ht', -, hflag⟩ := send_spec b.isOk b.temps ht
  have hoff : ∀ cpu ∈ p.cpus, (step p t b).online cpu =
      (!(lastVerdict t.thermal_helper_ b.temps).getD t.tempThrottling || !p.opens cpu) := by
    intro cpu hcpu
    rw [← hflag]
    exact ht'.online cpu hcpu
  rw [Protected, Agrees]
  refine and_congr (imp_congr_right fun _ => forall₂_congr fun cpu hcpu => ?_) ?_
  · rw [hoff cpu hcpu]
    simp [and_comm]
  · constructor
    · rintro h ⟨cpu, hcpu, hopens⟩ hon hback
      refine h cpu hcpu ?_ ?_
      · simp [ht.online cpu hcpu, hon, hopens]
      · simp [hoff cpu hcpu, hback]
    · intro h cpu hcpu hwas hnow
      rw [ht.online cpu hcpu] at hwas
      rw [hoff cpu hcpu] at hnow
      simp only [Bool.or_eq_false_iff, Bool.not_eq_false'] at hwas
      refine h ⟨cpu, hcpu, hwas.2⟩ hwas.1 ?_
      simpa [hwas.2] using hnow

/-- The service before the first batch, with all CPUs online. -/
def boot (h : ThermalHelper) (callbacks : List CallbackSetting) : Thermal :=
  ⟨h, callbacks, [], false, fun _ => true⟩

/-- Two CPU sensors, the first one with higher levels than the second. -/
def twoCPUs : List SensorValue :=
  [⟨"cpu0", "CPU", [.nan, .nan, .fin 85, .fin 95, .nan, .nan, .nan], [], [], [], 1, some true⟩,
    ⟨"cpu1", "CPU", [.nan, .nan, .fin 60, .fin 70, .nan, .nan, .nan], [], [], [], 1, some true⟩]

end ImxHal.CpuHotplug
