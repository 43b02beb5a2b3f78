import Mathlib
import ImxHal.Schemes.ExactFloat
import ImxHal.Schemes.Hysteresis

/-! @src thermal/utils/config_parser.cpp (ParseSensorInfo) | name:Sensor configuration | scheme:exact-float |
    family:parsers

    The thermal configuration as the JSON reader hands it over: a list of sensors, each with arrays of
    numbers. A sensor is accepted when its name is new and its type known, when the seven hot thresholds
    rise and the cold ones fall (NaN leaves a level out), and when no hysteresis is NaN. One sensor that is
    not accepted rejects the whole file. -/

namespace ImxHal.Thermal
open ImxHal.Hysteresis

inductive ThrottlingSeverity where
  | NONE | LIGHT | MODERATE | SEVERE | CRITICAL | EMERGENCY | SHUTDOWN
  deriving Inhabited

/-- `static_cast<size_t>` of a severity. -/
def ThrottlingSeverity.index : ThrottlingSeverity → ℕ
  | .NONE => 0
  | .LIGHT => 1
  | .MODERATE => 2
  | .SEVERE => 3
  | .CRITICAL => 4
  | .EMERGENCY => 5
  | .SHUTDOWN => 6

def kThrottlingSeverityCount : ℕ := 7

theorem index_injective : Function.Injective ThrottlingSeverity.index := by
  intro a b h
  cases a <;> cases b <;> first | rfl | exact absurd h (by decide)

instance : LinearOrder ThrottlingSeverity := LinearOrder.lift' ThrottlingSeverity.index index_injective

instance : OrderBot ThrottlingSeverity where
  bot := .NONE
  bot_le := fun _ => Nat.zero_le _

instance : Fintype ThrottlingSeverity where
  elems := {.NONE, .LIGHT, .MODERATE, .SEVERE, .CRITICAL, .EMERGENCY, .SHUTDOWN}
  complete := fun s => by cases s <;> decide

/-- The loop of the severity scan: from `SHUTDOWN` down to the last level above `NONE`. -/
def fromShutdown : List ThrottlingSeverity :=
  [.SHUTDOWN, .EMERGENCY, .CRITICAL, .SEVERE, .MODERATE, .LIGHT]

theorem levels_fromShutdown : Levels fromShutdown where
  descending := by decide
  all := fun l => by cases l <;> decide

abbrev ThrottlingArray := ThrottlingSeverity → Num

structure SensorInfo where
  type : String
  hot_thresholds : ThrottlingArray
  cold_thresholds : ThrottlingArray
  hot_hysteresis : ThrottlingArray
  cold_hysteresis : ThrottlingArray
  multiplier : ℚ
  is_monitor : Bool

/-- One entry of `root["Sensors"]`; a missing array has size 0, and every number has gone through
    `getFloatFromValue`. -/
structure SensorValue where
  Name : String
  type : String
  HotThreshold : List Num
  HotHysteresis : List Num
  ColdThreshold : List Num
  ColdHysteresis : List Num
  Multiplier : ℚ
  Monitor : Option Bool

/-- `std::numeric_limits<float>::min()` and `max()`. -/
def FLT_MIN : ℚ := 1 / 2 ^ 126
def FLT_MAX : ℚ := (2 ^ 24 - 1) * 2 ^ 104

/-- The check of a threshold array: no entry may be `out` of order with the last one set. -/
def inOrder (out : Num → Num → Bool) : Num → List Num → Bool
  | _, [] => true
  | bound, v :: vs =>
    if v.isnan then inOrder out bound vs
    else if out v bound then false
    else inOrder out v vs

def arrayOf (values : List Num) : ThrottlingArray := fun s => values.getD s.index .nan

/-- The hot thresholds: exactly seven, rising from the least positive float. -/
def parseHotThreshold (values : List Num) : Option ThrottlingArray :=
  if values.length ≠ kThrottlingSeverityCount then none
  else if inOrder (fun v min => v.lt min) (.fin FLT_MIN) values then some (arrayOf values)
  else none

/-- The cold thresholds: falling from the greatest float; any other count means none at all. -/
def parseColdThreshold (values : List Num) : Option ThrottlingArray :=
  if values.length ≠ kThrottlingSeverityCount then some fun _ => .nan
  else if inOrder (fun v max => max.lt v) (.fin FLT_MAX) values then some (arrayOf values)
  else none

/-- A hysteresis: seven numbers, none of them NaN; any other count means 0 everywhere. -/
def parseHysteresis (values : List Num) : Option ThrottlingArray :=
  if values.length ≠ kThrottlingSeverityCount then some fun _ => .fin 0
  else if values.any Num.isnan then none
  else some (arrayOf values)

variable (temperatureTypes : List String)

/-- One round of the loop over the sensors; `names` is `sensors_name_parsed`. -/
def parseSensor (names : List String) (v : SensorValue) : Option SensorInfo :=
  if v.Name = "" ∨ v.Name ∈ names ∨ v.type ∉ temperatureTypes then none
  else do
    let hot_thresholds ← parseHotThreshold v.HotThreshold
    let hot_hysteresis ← parseHysteresis v.HotHysteresis
    let cold_thresholds ← parseColdThreshold v.ColdThreshold
    let cold_hysteresis ← parseHysteresis v.ColdHysteresis
    return ⟨v.type, hot_thresholds, cold_thresholds, hot_hysteresis, cold_hysteresis, v.Multiplier,
      v.Monitor.getD false⟩

/-- A `std::map`: entries in the order of their names. -/
abbrev SensorMap := List (String × SensorInfo)

def parseSensors : List SensorValue → SensorMap → Option SensorMap
  | [], parsed => some parsed
  | v :: vs, parsed => do
    let info ← parseSensor temperatureTypes (parsed.map Prod.fst) v
    parseSensors vs (parsed.orderedInsert (fun a b => a.1 ≤ b.1) (v.Name, info))

/-- The sensors of a configuration; empty if one of them is not accepted. -/
def ParseSensorInfo (sensors : List SensorValue) : SensorMap :=
  (parseSensors temperatureTypes sensors []).getD []

/-! ### What is accepted -/

/-- A threshold array whose set entries stand in the order `le`, behind the bound. -/
def Ordered (le : Num → Num → Prop) (bound : Num) (a : ThrottlingArray) : Prop :=
  ∀ i, (a i).isnan = false → le bound (a i) ∧ ∀ j, i < j → (a j).isnan = false → le (a i) (a j)

/-- A sensor that `ParseSensorInfo` accepts. -/
structure SensorInfo.Accepted (info : SensorInfo) : Prop where
  hot : Ordered (fun a b => a.le b = true) (.fin FLT_MIN) info.hot_thresholds
  cold : Ordered (fun a b => b.le a = true) (.fin FLT_MAX) info.cold_thresholds
  hot_hysteresis : ∀ i, (info.hot_hysteresis i).isnan = false
  cold_hysteresis : ∀ i, (info.cold_hysteresis i).isnan = false

section InOrder

variable {out : Num → Num → Bool} {le : Num → Num → Prop} (htrans : ∀ a b c, le a b → le b c → le a c)
  (hle : ∀ a b, a.isnan = false → b.isnan = false → out b a = false → le a b)

include htrans hle in
/-- Entries in order are ordered pairwise, and each of them behind the bound. -/
theorem inOrder_pairwise {bound : Num} {vs : List Num} (hb : bound.isnan = false)
    (h : inOrder out bound vs = true) :
    (∀ v ∈ vs, v.isnan = false → le bound v) ∧
      vs.Pairwise fun v w => v.isnan = false → w.isnan = false → le v w := by
  induction vs generalizing bound with
  | nil => simp
  | cons v vs ih =>
    rw [inOrder] at h
    split at h
    · next hnan =>
      obtain ⟨hbound, hpair⟩ := ih hb h
      refine ⟨fun w hw hset => ?_, List.pairwise_cons.mpr ⟨fun w _ hset => ?_, hpair⟩⟩
      · rcases List.mem_cons.mp hw with rfl | hw
        · exact absurd hnan (by simp [hset])
        · exact hbound w hw hset
      · exact absurd hnan (by simp [hset])
    · next hset =>
      have hv : v.isnan = false := by simpa using hset
      split at h
      · cases h
      · next hout =>
        have hfirst := hle bound v hb hv (by simpa using hout)
        obtain ⟨hbound, hpair⟩ := ih hv h
        refine ⟨fun w hw hw' => ?_, List.pairwise_cons.mpr ⟨fun w hw _ hw' => hbound w hw hw', hpair⟩⟩
        rcases List.mem_cons.mp hw with rfl | hw
        · exact hfirst
        · exact htrans _ _ _ hfirst (hbound w hw hw')

include htrans hle in
theorem ordered_arrayOf {bound : Num} {values : List Num} (hb : bound.isnan = false)
    (hlen : values.length = kThrottlingSeverityCount) (h : inOrder out bound values = true) :
    Ordered le bound (arrayOf values) := by
  obtain ⟨hbound, hpair⟩ := inOrder_pairwise htrans hle hb h
  have hget : ∀ s : ThrottlingSeverity,
      ∃ hs : s.index < values.length, arrayOf values s = values[s.index] := by
    intro s
    have hs : s.index < values.length := by
      rw [hlen]
      cases s <;> decide
    exact ⟨hs, List.getD_eq_getElem _ _ hs⟩
  intro i hi
  obtain ⟨hi', heq⟩ := hget i
  rw [heq] at hi ⊢
  refine ⟨hbound _ (List.getElem_mem hi') hi, fun j hij hj => ?_⟩
  obtain ⟨hj', heq'⟩ := hget j
  rw [heq'] at hj ⊢
  exact List.pairwise_iff_getElem.mp hpair _ _ hi' hj' hij hi hj

end InOrder

theorem ordered_parseHotThreshold {values : List Num} {a : ThrottlingArray}
    (h : parseHotThreshold values = some a) :
    Ordered (fun a b => a.le b = true) (.fin FLT_MIN) a := by
  rw [parseHotThreshold] at h
  split at h
  · cases h
  · next hlen =>
    split at h
    · next hin =>
      obtain rfl := Option.some.inj h
      refine @ordered_arrayOf (fun v min => v.lt min) (fun a b => a.le b = true) ?_ ?_ _ _ rfl
        (not_not.mp hlen) hin
      · exact fun a b c => Num.le_trans
      · exact fun a b ha hb => Num.le_of_not_lt ha hb
    · cases h

theorem ordered_parseColdThreshold {values : List Num} {a : ThrottlingArray}
    (h : parseColdThreshold values = some a) :
    Ordered (fun a b => b.le a = true) (.fin FLT_MAX) a := by
  rw [parseColdThreshold] at h
  split at h
  · obtain rfl := Option.some.inj h
    exact fun i hi => absurd hi (by simp [Num.isnan])
  · next hlen =>
    split at h
    · next hin =>
      obtain rfl := Option.some.inj h
      refine @ordered_arrayOf (fun v max => max.lt v) (fun a b => b.le a = true) ?_ ?_ _ _ rfl
        (not_not.mp hlen) hin
      · exact fun a b c hab hbc => Num.le_trans hbc hab
      · exact fun a b ha hb => Num.le_of_not_lt hb ha
    · cases h

theorem set_parseHysteresis {values : List Num} {a : ThrottlingArray}
    (h : parseHysteresis values = some a) (i : ThrottlingSeverity) : (a i).isnan = false := by
  rw [parseHysteresis] at h
  split at h
  · obtain rfl := Option.some.inj h
    rfl
  · next hlen =>
    split at h
    · cases h
    · next hany =>
      obtain rfl := Option.some.inj h
      have hi : i.index < values.length := by
        rw [not_not.mp hlen]
        cases i <;> decide
      rw [arrayOf, List.getD_eq_getElem _ _ hi]
      by_contra hnan
      exact hany (List.any_eq_true.mpr ⟨_, List.getElem_mem hi, by simpa using hnan⟩)

/-- Every sensor that is parsed is accepted, under its own name, which was not parsed before. -/
theorem parseSensor_accepted {names : List String} {v : SensorValue} {info : SensorInfo}
    (h : parseSensor temperatureTypes names v = some info) : info.Accepted ∧ v.Name ∉ names := by
  rw [parseSensor] at h
  split at h
  · cases h
  · next hnot =>
    simp only [Option.bind_eq_bind, Option.bind_eq_some_iff, Option.pure_def, Option.some.injEq] at h
    obtain ⟨hot, hhot, hotH, hhotH, cold, hcold, coldH, hcoldH, rfl⟩ := h
    refine ⟨⟨?_, ?_, ?_, ?_⟩, fun hin => hnot (Or.inr (Or.inl hin))⟩
    · exact ordered_parseHotThreshold hhot
    · exact ordered_parseColdThreshold hcold
    · exact set_parseHysteresis hhotH
    · exact set_parseHysteresis hcoldH

theorem parseSensors_accepted {vs : List SensorValue} {parsed m : SensorMap}
    (h : parseSensors temperatureTypes vs parsed = some m)
    (hp : (∀ e ∈ parsed, e.2.Accepted) ∧ (parsed.map Prod.fst).Nodup) :
    (∀ e ∈ m, e.2.Accepted) ∧ (m.map Prod.fst).Nodup := by
  induction vs generalizing parsed with
  | nil =>
    obtain rfl := Option.some.inj h
    exact hp
  | cons v vs ih =>
    simp only [parseSensors, Option.bind_eq_bind, Option.bind_eq_some_iff] at h
    obtain ⟨info, hinfo, h⟩ := h
    obtain ⟨hacc, hnew⟩ := parseSensor_accepted temperatureTypes hinfo
    have hperm := List.perm_orderedInsert (fun a b : String × SensorInfo => a.1 ≤ b.1) (v.Name, info) parsed
    refine ih h ⟨fun e he => ?_, ?_⟩
    · rcases List.mem_cons.mp (hperm.subset he) with rfl | he
      · exact hacc
      · exact hp.1 e he
    · rw [(hperm.map Prod.fst).nodup_iff]
      exact List.nodup_cons.mpr ⟨hnew, hp.2⟩

/-- The sensors of a configuration are accepted, and their names are different. -/
theorem parseSensorInfo_accepted (sensors : List SensorValue) :
    (∀ e ∈ ParseSensorInfo temperatureTypes sensors, e.2.Accepted) ∧
      ((ParseSensorInfo temperatureTypes sensors).map Prod.fst).Nodup := by
  rw [ParseSensorInfo]
  rcases h : parseSensors temperatureTypes sensors [] with _ | m
  · simp
  · exact parseSensors_accepted temperatureTypes h (by simp)

end ImxHal.Thermal
