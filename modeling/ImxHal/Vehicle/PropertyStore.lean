import ImxHal.Schemes.Run
import ImxHal.Schemes.SortedMap
import ImxHal.Vehicle.SubscriptionManager
import Mathlib.Data.Prod.Lex

/-! @src vehicle/common/src/VehiclePropertyStore.cpp | name:property store | scheme:run, sorted-map | family:stores

    One map says which properties there are, the other what was last written to each of their records:

        mConfigs           property ──▶ its token function
        mPropertyValues    (property, area, token) ──▶ value, in the order of the records

    A write that is older than the record is dropped; removing a property erases the range of its records. -/

namespace ImxHal.Vehicle

/-! ### Values -/

inductive VehiclePropertyStatus where
  | available
  | unavailable
  | error
  deriving DecidableEq

/-- A float is its word. -/
structure RawValue where
  int32Values : List Int32
  floatValues : List (BitVec 32)
  int64Values : List Int64
  bytes : List UInt8
  stringValue : String
  deriving DecidableEq

structure VehiclePropValue where
  timestamp : Int64
  areaId : Int32
  prop : PropId
  status : VehiclePropertyStatus
  value : RawValue
  deriving DecidableEq

abbrev TokenFunction := VehiclePropValue → Int64

def VehicleArea.MASK : Int32 := 0x0f000000
def VehicleArea.GLOBAL : Int32 := 0x01000000

def isGlobalProp (prop : PropId) : Bool := prop &&& VehicleArea.MASK = VehicleArea.GLOBAL

/-! ### Records -/

structure RecordId where
  prop : PropId
  area : Int32
  token : Int64
  deriving DecidableEq

namespace RecordId

def key (r : RecordId) : ℤ ×ₗ ℤ ×ₗ ℤ := toLex (r.prop.toInt, toLex (r.area.toInt, r.token.toInt))

theorem key_injective : Function.Injective key := by
  rintro ⟨prop, area, token⟩ ⟨prop', area', token'⟩ h
  have hfst : prop.toInt = prop'.toInt := congrArg (fun k => (ofLex k).1) h
  have hsnd : area.toInt = area'.toInt := congrArg (fun k => (ofLex (ofLex k).2).1) h
  have htrd : token.toInt = token'.toInt := congrArg (fun k => (ofLex (ofLex k).2).2) h
  rw [Int32.toInt_inj.mp hfst, Int32.toInt_inj.mp hsnd, Int64.toInt_inj.mp htrd]

instance : LinearOrder RecordId := LinearOrder.lift' key key_injective

/-- The source's `operator<`. -/
theorem lt_iff {r q : RecordId} : r < q ↔ r.prop < q.prop ∨ (r.prop = q.prop ∧ r.area < q.area) ∨
    (r.prop = q.prop ∧ r.area = q.area ∧ r.token < q.token) := by
  change r.key < q.key ↔ _
  simp only [key, Prod.Lex.toLex_lt_toLex, Int32.toInt_inj, Int32.lt_iff_toInt_lt, Int64.lt_iff_toInt_lt]
  rw [and_or_left]

end RecordId

/-! ### The store -/

/-- Of a config the store reads the property it is for. -/
structure VehiclePropertyStore where
  mConfigs : AList fun _ : PropId => Option TokenFunction := ∅
  mPropertyValues : SortedMap RecordId VehiclePropValue := .empty

namespace VehiclePropertyStore

/-- An insertion into the configs: the first one stays. -/
def registerProperty (s : VehiclePropertyStore) (prop : PropId) (tokenFunc : Option TokenFunction) :
    VehiclePropertyStore :=
  if (s.mConfigs.lookup prop).isSome then s else { s with mConfigs := s.mConfigs.insert prop tokenFunc }

def getRecordIdLocked (s : VehiclePropertyStore) (valuePrototype : VehiclePropValue) : RecordId :=
  match s.mConfigs.lookup valuePrototype.prop with
  | none => ⟨0, 0, 0⟩
  | some tokenFunction =>
    { prop := valuePrototype.prop
      area := if isGlobalProp valuePrototype.prop then 0 else valuePrototype.areaId
      token := match tokenFunction with
        | none => 0
        | some tokenFunc => tokenFunc valuePrototype }

def getValueOrNullLocked (s : VehiclePropertyStore) (recId : RecordId) : Option VehiclePropValue :=
  s.mPropertyValues.find? recId

/-- What an update leaves of the stored value. -/
def updated (valueToUpdate propValue : VehiclePropValue) (updateStatus : Bool) : VehiclePropValue :=
  { valueToUpdate with
    timestamp := propValue.timestamp
    value := propValue.value
    status := if updateStatus then propValue.status else valueToUpdate.status }

def writeValue (s : VehiclePropertyStore) (propValue : VehiclePropValue) (updateStatus : Bool) :
    VehiclePropertyStore × Bool :=
  if (s.mConfigs.lookup propValue.prop).isNone then (s, false)
  else
    let recId := s.getRecordIdLocked propValue
    match s.getValueOrNullLocked recId with
    | none => ({ s with mPropertyValues := s.mPropertyValues.put recId propValue }, true)
    | some valueToUpdate =>
      if propValue.timestamp < valueToUpdate.timestamp then (s, false)
      else
        ({ s with mPropertyValues := s.mPropertyValues.put recId (updated valueToUpdate propValue updateStatus) },
          true)

def removeValue (s : VehiclePropertyStore) (propValue : VehiclePropValue) : VehiclePropertyStore :=
  { s with mPropertyValues := s.mPropertyValues.erase (s.getRecordIdLocked propValue) }

/-- The two bounds of a property; the sum wraps. -/
def findRangeLocked (propId : PropId) : RecordId × RecordId :=
  (⟨propId, Int32.minValue, 0⟩, ⟨propId + 1, Int32.minValue, 0⟩)

def removeValuesForProperty (s : VehiclePropertyStore) (propId : PropId) : VehiclePropertyStore :=
  let range := findRangeLocked propId
  { s with mPropertyValues := s.mPropertyValues.eraseRange range.1 range.2 }

def readAllValues (s : VehiclePropertyStore) : List VehiclePropValue :=
  s.mPropertyValues.entries.map (·.2)

def readValuesForProperty (s : VehiclePropertyStore) (propId : PropId) : List VehiclePropValue :=
  let range := findRangeLocked propId
  (s.mPropertyValues.range range.1 range.2).map (·.2)

def readValueOrNull (s : VehiclePropertyStore) (request : VehiclePropValue) : Option VehiclePropValue :=
  s.getValueOrNullLocked (s.getRecordIdLocked request)

/-- The overload that takes the parts of a record. -/
def readRecordOrNull (s : VehiclePropertyStore) (prop : PropId) (area : Int32) (token : Int64) :
    Option VehiclePropValue :=
  s.getValueOrNullLocked ⟨prop, if isGlobalProp prop then 0 else area, token⟩

inductive Event where
  | registerProperty (prop : PropId) (tokenFunc : Option TokenFunction)
  | writeValue (propValue : VehiclePropValue) (updateStatus : Bool)
  | removeValue (propValue : VehiclePropValue)
  | removeValuesForProperty (propId : PropId)

def step (s : VehiclePropertyStore) : Event → VehiclePropertyStore
  | .registerProperty prop tokenFunc => s.registerProperty prop tokenFunc
  | .writeValue propValue updateStatus => (s.writeValue propValue updateStatus).1
  | .removeValue propValue => s.removeValue propValue
  | .removeValuesForProperty propId => s.removeValuesForProperty propId

/-! ### What was asked of the store -/

structure Write where
  propValue : VehiclePropValue
  updateStatus : Bool
  deriving DecidableEq

/-- The token functions the properties were first registered with, and every write to a record since it was
    last removed, in order. -/
structure History where
  registered : PropId → Option (Option TokenFunction)
  writes : RecordId → List Write

/-- A later write is older than one before it. -/
def Outdated (before : List Write) (v : VehiclePropValue) : Prop :=
  ∃ w ∈ before, v.timestamp < w.propValue.timestamp

namespace History

def recordOf (h : History) (v : VehiclePropValue) : Option RecordId :=
  (h.registered v.prop).map fun tokenFunction =>
    { prop := v.prop
      area := if isGlobalProp v.prop then 0 else v.areaId
      token := (tokenFunction.map (· v)).getD 0 }

def record (h : History) : Event → History
  | .registerProperty prop tokenFunc =>
    { h with registered := fun p => if p = prop then (h.registered prop).or (some tokenFunc) else h.registered p }
  | .writeValue v updateStatus =>
    { h with writes := fun r => if h.recordOf v = some r then h.writes r ++ [⟨v, updateStatus⟩] else h.writes r }
  | .removeValue v => { h with writes := fun r => if h.recordOf v = some r then [] else h.writes r }
  | .removeValuesForProperty p => { h with writes := fun r => if r.prop = p then [] else h.writes r }

def empty : History := ⟨fun _ => none, fun _ => []⟩

end History

/-- What the writes to a record leave in it: the value of the newest one, of several the last, and the status
    of the last one in time that was to update it, or of the first. -/
structure Current (writes : List Write) (v : VehiclePropValue) : Prop where
  newest : ∃ before w after, writes = before ++ w :: after ∧ v.timestamp = w.propValue.timestamp ∧
    v.value = w.propValue.value ∧ (∀ u ∈ before, u.propValue.timestamp ≤ w.propValue.timestamp) ∧
    ∀ u ∈ after, u.propValue.timestamp < w.propValue.timestamp
  status : ∃ before w after, writes = before ++ w :: after ∧ v.status = w.propValue.status ∧
    (before = [] ∨ w.updateStatus = true ∧ ¬ Outdated before w.propValue) ∧
    ∀ mid u rest, after = mid ++ u :: rest → u.updateStatus = true →
      Outdated (before ++ w :: mid) u.propValue
  identity : ∃ w ∈ writes.head?, v.prop = w.propValue.prop ∧ v.areaId = w.propValue.areaId

def Kept (writes : List Write) (o : Option VehiclePropValue) : Prop :=
  match o with
  | none => writes = []
  | some v => Current writes v

/-- The store answers as its history says. -/
structure Follows (h : History) (s : VehiclePropertyStore) : Prop where
  configs : ∀ p, s.mConfigs.lookup p = h.registered p
  kept : ∀ r, Kept (h.writes r) (s.mPropertyValues.find? r)
  read : ∀ request r, h.recordOf request = some r → Kept (h.writes r) (s.readValueOrNull request)
  written : ∀ v updateStatus, (s.writeValue v updateStatus).2 = true ↔
    ∃ r, h.recordOf v = some r ∧ ¬ Outdated (h.writes r) v

/-- The removal takes the records it is for: an unregistered value stands for the record of zeros, and the
    bounds of a property do not fit the records at the lowest area with a token below zero. -/
def Clean (s : VehiclePropertyStore) : Event → Prop
  | .removeValue v => (s.mConfigs.lookup v.prop).isSome ∨ s.mPropertyValues.find? ⟨0, 0, 0⟩ = none
  | .removeValuesForProperty p => ∀ e ∈ s.mPropertyValues.entries, (e.1.prop = p ∨ e.1.prop = p + 1) →
      e.1.area = Int32.minValue → 0 ≤ e.1.token
  | _ => True

instance decClean (s : VehiclePropertyStore) : ∀ e, Decidable (Clean s e)
  | .registerProperty _ _ => inferInstanceAs (Decidable True)
  | .writeValue _ _ => inferInstanceAs (Decidable True)
  | .removeValue v => inferInstanceAs
      (Decidable ((s.mConfigs.lookup v.prop).isSome ∨ s.mPropertyValues.find? ⟨0, 0, 0⟩ = none))
  | .removeValuesForProperty p =>
    List.decidableBAll (fun e : RecordId × VehiclePropValue => (e.1.prop = p ∨ e.1.prop = p + 1) →
      e.1.area = Int32.minValue → 0 ≤ e.1.token) s.mPropertyValues.entries

/-! ### Records of a property -/

section Range
variable {p : PropId} {r : RecordId}

/-- A record in front of the lower bound of its own property. -/
def Misfit (r : RecordId) : Prop := r.area = Int32.minValue ∧ r.token < 0

instance : DecidablePred Misfit := fun r => inferInstanceAs (Decidable (r.area = Int32.minValue ∧ r.token < 0))

theorem toInt_succ (hp : p ≠ Int32.maxValue) : (p + 1).toInt = p.toInt + 1 := by
  have hle := Int32.toInt_le p
  have hge := Int32.le_toInt p
  have hmax : p.toInt ≠ 2147483647 := fun h => hp (Int32.toInt_inj.mp h)
  have hone : (1 : Int32).toInt = 1 := rfl
  have htop : Int32.maxValue.toInt = 2147483647 := rfl
  rw [Int32.toInt_add, hone, Int.bmod_eq_of_le] <;> omega

theorem findRange_le (hp : p ≠ Int32.maxValue) : (findRangeLocked p).1 ≤ (findRangeLocked p).2 := by
  refine le_of_lt (RecordId.lt_iff.mpr (Or.inl ?_))
  change p < p + 1
  rw [Int32.lt_iff_toInt_lt, toInt_succ hp]
  omega

theorem not_lt_minValue (area : Int32) : ¬ area < Int32.minValue := by
  rw [Int32.lt_iff_toInt_lt, not_lt]
  exact Int32.le_toInt area

/-- The range of a property holds its records, except the misfits, and the misfits of the next one. -/
theorem in_range (hp : p ≠ Int32.maxValue) : ((findRangeLocked p).1 ≤ r ∧ r < (findRangeLocked p).2) ↔
    (r.prop = p ∧ ¬ Misfit r) ∨ (r.prop = p + 1 ∧ Misfit r) := by
  have hsucc := toInt_succ hp
  have harea := not_lt_minValue r.area
  rw [← not_lt, RecordId.lt_iff, RecordId.lt_iff, Misfit]
  simp only [findRangeLocked, ← Int32.toInt_inj, Int32.lt_iff_toInt_lt, Int64.lt_iff_toInt_lt] at harea ⊢
  rw [hsucc]
  omega

end Range

/-! ### Writes to a record -/

section Record
variable {writes : List Write} {v q : VehiclePropValue} {updateStatus : Bool}

theorem Current.le (h : Current writes v) : ∀ w ∈ writes, w.propValue.timestamp ≤ v.timestamp := by
  obtain ⟨before, w, after, rfl, hts, -, hbefore, hafter⟩ := h.newest
  intro u hu
  rw [hts]
  rcases List.mem_append.mp hu with hu | hu
  · exact hbefore u hu
  · rcases List.mem_cons.mp hu with rfl | hu
    · exact Int64.le_refl _
    · exact Int64.le_of_lt (hafter u hu)

theorem Current.outdated_iff (h : Current writes v) : Outdated writes q ↔ q.timestamp < v.timestamp := by
  constructor
  · rintro ⟨w, hw, hlt⟩
    exact Int64.lt_of_lt_of_le hlt (h.le w hw)
  · intro hlt
    obtain ⟨before, w, after, rfl, hts, -⟩ := h.newest
    exact ⟨w, by simp, hts ▸ hlt⟩

theorem Current.ne_nil (h : Current writes v) : writes ≠ [] := by
  obtain ⟨before, w, after, rfl, -⟩ := h.newest
  simp

theorem current_first (q : VehiclePropValue) (updateStatus : Bool) : Current [⟨q, updateStatus⟩] q where
  newest := ⟨[], ⟨q, updateStatus⟩, [], rfl, rfl, rfl, by simp, by simp⟩
  status := ⟨[], ⟨q, updateStatus⟩, [], rfl, rfl, Or.inl rfl, by simp⟩
  identity := ⟨_, rfl, rfl, rfl⟩

/-- The status is still that of the same write after one that does not update it. -/
theorem Current.status_concat (h : Current writes v) {x : Write}
    (hx : x.updateStatus = true → Outdated writes x.propValue) :
    ∃ before w after, writes ++ [x] = before ++ w :: after ∧ v.status = w.propValue.status ∧
      (before = [] ∨ w.updateStatus = true ∧ ¬ Outdated before w.propValue) ∧
      ∀ mid u rest, after = mid ++ u :: rest → u.updateStatus = true →
        Outdated (before ++ w :: mid) u.propValue := by
  obtain ⟨before, w, after, rfl, hstatus, hw, hlater⟩ := h.status
  refine ⟨before, w, after ++ [x], by simp, hstatus, hw, fun mid u rest hsplit hu => ?_⟩
  rcases List.eq_nil_or_concat rest with rfl | ⟨rest, y, rfl⟩
  · obtain ⟨rfl, rfl⟩ : after = mid ∧ x = u := by simpa using hsplit
    exact hx hu
  · rw [List.concat_eq_append, ← List.cons_append, ← List.append_assoc] at hsplit
    exact hlater mid u rest (List.append_inj_left' hsplit rfl) hu

theorem Current.identity_concat (h : Current writes v) (x : Write) :
    ∃ w ∈ (writes ++ [x]).head?, v.prop = w.propValue.prop ∧ v.areaId = w.propValue.areaId := by
  obtain ⟨w, hw, hid⟩ := h.identity
  exact ⟨w, List.mem_head?_append_of_mem_head? hw, hid⟩

/-- A write that is older than the record leaves it as it was. -/
theorem Current.drop (h : Current writes v) (hold : q.timestamp < v.timestamp) (updateStatus : Bool) :
    Current (writes ++ [⟨q, updateStatus⟩]) v where
  newest := by
    obtain ⟨before, w, after, rfl, hts, hvalue, hbefore, hafter⟩ := h.newest
    refine ⟨before, w, after ++ [⟨q, updateStatus⟩], by simp, hts, hvalue, hbefore, fun u hu => ?_⟩
    rcases List.mem_append.mp hu with hu | hu
    · exact hafter u hu
    · rw [List.mem_singleton.mp hu, ← hts]
      exact hold
  status := h.status_concat fun _ => h.outdated_iff.mpr hold
  identity := h.identity_concat _

theorem Current.update (h : Current writes v) (hnew : ¬ q.timestamp < v.timestamp) (updateStatus : Bool) :
    Current (writes ++ [⟨q, updateStatus⟩]) (updated v q updateStatus) where
  newest := ⟨writes, ⟨q, updateStatus⟩, [], rfl, rfl, rfl,
    fun u hu => Int64.le_trans (h.le u hu) (Int64.not_lt.mp hnew), by simp⟩
  status := by
    cases updateStatus with
    | true => exact ⟨writes, ⟨q, true⟩, [], rfl, rfl, Or.inr ⟨rfl, h.outdated_iff.not.mpr hnew⟩, by simp⟩
    | false => exact h.status_concat (by simp)
  identity := h.identity_concat _

/-- What a write leaves in its record. -/
def written (o : Option VehiclePropValue) (q : VehiclePropValue) (updateStatus : Bool) : VehiclePropValue :=
  match o with
  | none => q
  | some v => if q.timestamp < v.timestamp then v else updated v q updateStatus

theorem Kept.write {o : Option VehiclePropValue} (h : Kept writes o) (q : VehiclePropValue)
    (updateStatus : Bool) : Current (writes ++ [⟨q, updateStatus⟩]) (written o q updateStatus) := by
  cases o with
  | none =>
    obtain rfl : writes = [] := h
    exact current_first q updateStatus
  | some v =>
    have h : Current writes v := h
    simp only [written]
    split_ifs with hold
    · exact h.drop hold updateStatus
    · exact h.update hold updateStatus

end Record

/-! ### Operations -/

section Operations
variable {s : VehiclePropertyStore} {h : History}

/-- What the proofs about runs need of `Follows`. -/
structure Mirrors (h : History) (s : VehiclePropertyStore) : Prop where
  configs : ∀ p, s.mConfigs.lookup p = h.registered p
  kept : ∀ r, Kept (h.writes r) (s.mPropertyValues.find? r)

theorem writeValue_unregistered {q : VehiclePropValue} (hreg : s.mConfigs.lookup q.prop = none)
    (updateStatus : Bool) : s.writeValue q updateStatus = (s, false) := by
  simp [writeValue, hreg]

theorem writeValue_first {q : VehiclePropValue} (hreg : s.mConfigs.lookup q.prop ≠ none)
    (hfind : s.mPropertyValues.find? (s.getRecordIdLocked q) = none) (updateStatus : Bool) :
    s.writeValue q updateStatus =
      ({ s with mPropertyValues := s.mPropertyValues.put (s.getRecordIdLocked q) q }, true) := by
  simp [writeValue, getValueOrNullLocked, hreg, hfind]

theorem writeValue_again {q v : VehiclePropValue} (hreg : s.mConfigs.lookup q.prop ≠ none)
    (hfind : s.mPropertyValues.find? (s.getRecordIdLocked q) = some v) (updateStatus : Bool) :
    s.writeValue q updateStatus = if q.timestamp < v.timestamp then (s, false) else
      ({ s with mPropertyValues := s.mPropertyValues.put (s.getRecordIdLocked q) (updated v q updateStatus) },
        true) := by
  simp [writeValue, getValueOrNullLocked, hreg, hfind]

theorem find?_writeValue {q : VehiclePropValue} (hreg : s.mConfigs.lookup q.prop ≠ none) (updateStatus : Bool)
    (r : RecordId) : (s.writeValue q updateStatus).1.mPropertyValues.find? r =
      if r = s.getRecordIdLocked q then some (written (s.mPropertyValues.find? r) q updateStatus)
      else s.mPropertyValues.find? r := by
  cases hfind : s.mPropertyValues.find? (s.getRecordIdLocked q) with
  | none =>
    rw [writeValue_first hreg hfind, SortedMap.find?_put]
    split_ifs with hr
    · rw [hr, hfind]
      rfl
    · rfl
  | some v =>
    rw [writeValue_again hreg hfind]
    split_ifs with hold hr hr
    · rw [hr, hfind, written, if_pos hold]
    · rfl
    · rw [SortedMap.find?_put, if_pos hr, hr, hfind, written, if_neg hold]
    · rw [SortedMap.find?_put, if_neg hr]

theorem mConfigs_writeValue (q : VehiclePropValue) (updateStatus : Bool) :
    (s.writeValue q updateStatus).1.mConfigs = s.mConfigs := by
  by_cases hreg : s.mConfigs.lookup q.prop = none
  · rw [writeValue_unregistered hreg]
  · cases hfind : s.mPropertyValues.find? (s.getRecordIdLocked q) with
    | none => rw [writeValue_first hreg hfind]
    | some v =>
      rw [writeValue_again hreg hfind]
      split_ifs <;> rfl

theorem Mirrors.getRecordId (hm : Mirrors h s) {v : VehiclePropValue} {r : RecordId}
    (hr : h.recordOf v = some r) : s.getRecordIdLocked v = r := by
  obtain ⟨tokenFunction, hreg, rfl⟩ := Option.map_eq_some_iff.mp hr
  unfold getRecordIdLocked
  rw [hm.configs, hreg]
  cases tokenFunction <;> rfl

theorem Mirrors.recordOf_eq_none (hm : Mirrors h s) {v : VehiclePropValue} :
    h.recordOf v = none ↔ s.mConfigs.lookup v.prop = none := by
  rw [hm.configs, History.recordOf, Option.map_eq_none_iff]

theorem Mirrors.registered (hm : Mirrors h s) {v : VehiclePropValue} {r : RecordId}
    (hr : h.recordOf v = some r) : s.mConfigs.lookup v.prop ≠ none := by
  intro hnone
  rw [hm.recordOf_eq_none.mpr hnone] at hr
  cases hr

theorem Mirrors.follows (hm : Mirrors h s) : Follows h s where
  configs := hm.configs
  kept := hm.kept
  read request r hr := by
    rw [readValueOrNull, hm.getRecordId hr]
    exact hm.kept r
  written v updateStatus := by
    cases hr : h.recordOf v with
    | none => simp [writeValue_unregistered (hm.recordOf_eq_none.mp hr)]
    | some r =>
      have hreg := hm.registered hr
      have hkept := hm.kept r
      rw [← hm.getRecordId hr] at hkept ⊢
      simp only [Option.some.injEq, exists_eq_left']
      cases hfind : s.mPropertyValues.find? (s.getRecordIdLocked v) with
      | none =>
        rw [hfind] at hkept
        have hkept : h.writes (s.getRecordIdLocked v) = [] := hkept
        simp [writeValue_first hreg hfind, hkept, Outdated]
      | some w =>
        rw [hfind] at hkept
        have hkept : Current (h.writes (s.getRecordIdLocked v)) w := hkept
        rw [writeValue_again hreg hfind, hkept.outdated_iff]
        split_ifs with hold <;> simp [hold]

theorem Mirrors.writeValue (hm : Mirrors h s) (q : VehiclePropValue) (updateStatus : Bool) :
    Mirrors (h.record (.writeValue q updateStatus)) (s.writeValue q updateStatus).1 := by
  refine ⟨fun p => ?_, fun r => ?_⟩
  · rw [mConfigs_writeValue]
    exact hm.configs p
  · have hkept := hm.kept r
    cases hq : h.recordOf q with
    | none =>
      rw [writeValue_unregistered (hm.recordOf_eq_none.mp hq)]
      simpa [History.record, hq] using hkept
    | some r' =>
      rw [find?_writeValue (hm.registered hq), hm.getRecordId hq]
      simp only [History.record, hq, Option.some.injEq, eq_comm (a := r')]
      split_ifs with hr
      · exact hkept.write q updateStatus
      · exact hkept

theorem lookup_registerProperty (s : VehiclePropertyStore) (prop : PropId) (tokenFunc : Option TokenFunction)
    (p : PropId) : (s.registerProperty prop tokenFunc).mConfigs.lookup p =
      if p = prop then (s.mConfigs.lookup prop).or (some tokenFunc) else s.mConfigs.lookup p := by
  unfold registerProperty
  split_ifs with hreg hp hp
  · obtain ⟨f, hf⟩ := Option.isSome_iff_exists.mp hreg
    rw [hp, hf]
    rfl
  · rfl
  · rw [lookup_put, if_pos hp, Option.not_isSome_iff_eq_none.mp hreg]
    rfl
  · rw [lookup_put, if_neg hp]

theorem find?_registerProperty (s : VehiclePropertyStore) (prop : PropId) (tokenFunc : Option TokenFunction) :
    (s.registerProperty prop tokenFunc).mPropertyValues = s.mPropertyValues := by
  unfold registerProperty
  split_ifs <;> rfl

theorem Mirrors.registerProperty (hm : Mirrors h s) (prop : PropId) (tokenFunc : Option TokenFunction) :
    Mirrors (h.record (.registerProperty prop tokenFunc)) (s.registerProperty prop tokenFunc) := by
  refine ⟨fun p => ?_, fun r => ?_⟩
  · rw [lookup_registerProperty, hm.configs, hm.configs]
    rfl
  · rw [find?_registerProperty]
    exact hm.kept r

theorem kept_none {writes : List Write} : Kept writes none ↔ writes = [] := Iff.rfl

theorem Kept.ne_nil {writes : List Write} {v : VehiclePropValue} (h : Kept writes (some v)) : writes ≠ [] :=
  Current.ne_nil h

/-- A removed value leaves nothing of its record, and nothing else goes, exactly if the removal is clean. -/
theorem Mirrors.removeValue_iff (hm : Mirrors h s) (v : VehiclePropValue) :
    Mirrors (h.record (.removeValue v)) (s.removeValue v) ↔ Clean s (.removeValue v) := by
  cases hv : h.recordOf v with
  | none =>
    have hreg := hm.recordOf_eq_none.mp hv
    have hid : s.getRecordIdLocked v = ⟨0, 0, 0⟩ := by simp [getRecordIdLocked, hreg]
    have hzero := hm.kept ⟨0, 0, 0⟩
    simp only [Clean, hreg, Option.isSome_none, Bool.false_eq_true, false_or]
    constructor
    · intro hm'
      have hgone := hm'.kept ⟨0, 0, 0⟩
      rw [VehiclePropertyStore.removeValue, hid, SortedMap.find?_erase, if_pos rfl, kept_none] at hgone
      simp only [History.record, hv, reduceCtorEq, if_false] at hgone
      by_contra hsome
      obtain ⟨w, hw⟩ := Option.ne_none_iff_exists'.mp hsome
      rw [hw] at hzero
      exact hzero.ne_nil hgone
    · refine fun hnone => ⟨hm.configs, fun r => ?_⟩
      simp only [VehiclePropertyStore.removeValue, hid, SortedMap.find?_erase, History.record, hv, reduceCtorEq,
        if_false]
      split_ifs with hr
      · rw [hr, ← hnone]
        exact hzero
      · exact hm.kept r
  | some r' =>
    refine iff_of_true ⟨hm.configs, fun r => ?_⟩ (Or.inl (Option.isSome_iff_ne_none.mpr (hm.registered hv)))
    simp only [VehiclePropertyStore.removeValue, hm.getRecordId hv, SortedMap.find?_erase, History.record, hv,
      Option.some.injEq, eq_comm (a := r')]
    split_ifs with hr
    · rfl
    · exact hm.kept r

theorem clean_iff {p : PropId} : Clean s (.removeValuesForProperty p) ↔
    ∀ r v, s.mPropertyValues.find? r = some v → (r.prop = p ∨ r.prop = p + 1) → ¬ Misfit r := by
  simp only [Clean, Misfit, SortedMap.find?_eq_some, not_and, Int64.not_lt, Prod.forall]

theorem ne_succ (p : PropId) : p ≠ p + 1 := by
  intro heq
  have hzero : (1 : Int32) = 0 := by
    calc (1 : Int32)
      _ = p + 1 - p := by rw [Int32.add_comm, Int32.add_sub_cancel]
      _ = 0 := by rw [← heq, Int32.sub_self]
  exact absurd hzero (by decide)

theorem Mirrors.removeValuesForProperty_iff (hm : Mirrors h s) {p : PropId} (hp : p ≠ Int32.maxValue) :
    Mirrors (h.record (.removeValuesForProperty p)) (s.removeValuesForProperty p) ↔
      Clean s (.removeValuesForProperty p) := by
  have hfind : ∀ r, (s.removeValuesForProperty p).mPropertyValues.find? r =
      if (r.prop = p ∧ ¬ Misfit r) ∨ (r.prop = p + 1 ∧ Misfit r) then none else s.mPropertyValues.find? r := by
    intro r
    rw [VehiclePropertyStore.removeValuesForProperty, SortedMap.find?_eraseRange _ (findRange_le hp)]
    exact if_congr (in_range hp) rfl rfl
  rw [clean_iff]
  constructor
  · intro hm' r v hv hprop hmisfit
    have hbefore := hm.kept r
    have hafter := hm'.kept r
    rw [hv] at hbefore
    rw [hfind] at hafter
    simp only [History.record] at hafter
    rcases hprop with hprop | hprop
    · have hin : ¬ ((r.prop = p ∧ ¬ Misfit r) ∨ (r.prop = p + 1 ∧ Misfit r)) := by
        rw [hprop]
        simp [hmisfit, ne_succ p]
      rw [if_neg hin, if_pos hprop, hv] at hafter
      exact hafter.ne_nil rfl
    · have hne : r.prop ≠ p := by
        rw [hprop]
        exact (ne_succ p).symm
      rw [if_pos (Or.inr ⟨hprop, hmisfit⟩), if_neg hne] at hafter
      exact hbefore.ne_nil hafter
  · refine fun hclean => ⟨hm.configs, fun r => ?_⟩
    have hkept := hm.kept r
    rw [hfind]
    simp only [History.record]
    by_cases hprop : r.prop = p
    · rw [if_pos hprop]
      split_ifs with hin
      · rfl
      · cases hv : s.mPropertyValues.find? r with
        | none => rfl
        | some v => exact absurd (Or.inl ⟨hprop, hclean r v hv (Or.inl hprop)⟩) hin
    · rw [if_neg hprop]
      split_ifs with hin
      · have hnext := hin.resolve_left fun h => hprop h.1
        cases hv : s.mPropertyValues.find? r with
        | none => rwa [hv] at hkept
        | some v => exact absurd hnext.2 (hclean r v hv (Or.inr hnext.1))
      · exact hkept

end Operations

/-! ### Runs -/

/-- The bound behind the last property does not overflow. -/
def Bounded (e : Event) : Prop := e ≠ .removeValuesForProperty Int32.maxValue

theorem step_mirrors_iff {h : History} {s : VehiclePropertyStore} (hm : Mirrors h s) {e : Event}
    (hbounded : Bounded e) : Mirrors (h.record e) (step s e) ↔ Clean s e := by
  cases e with
  | registerProperty prop tokenFunc => exact iff_of_true (hm.registerProperty prop tokenFunc) trivial
  | writeValue v updateStatus => exact iff_of_true (hm.writeValue v updateStatus) trivial
  | removeValue v => exact hm.removeValue_iff v
  | removeValuesForProperty p =>
    have hp : p ≠ Int32.maxValue := by
      rintro rfl
      exact hbounded rfl
    exact hm.removeValuesForProperty_iff hp

theorem mirrors_empty : Mirrors .empty {} := ⟨fun _ => rfl, fun _ => rfl⟩

theorem follows_iff_mirrors {h : History} {s : VehiclePropertyStore} : Follows h s ↔ Mirrors h s :=
  ⟨fun hf => ⟨hf.configs, hf.kept⟩, Mirrors.follows⟩

/-- What was asked of the store so far. -/
def asked (es : List Event) : History := es.foldl History.record .empty

/-- The store answers as it was asked to exactly as long as every removal is clean. -/
theorem store_follows_iff (es : List Event) (hbounded : ∀ e ∈ es, Bounded e) :
    (∀ seen, seen <+: es → Follows (asked seen) (Run.run step {} seen)) ↔ Run.Meets step Clean {} es := by
  have hstep : ∀ done (s : VehiclePropertyStore) e, Mirrors (asked done) s → Bounded e →
      (Mirrors (asked (done ++ [e])) (step s e) ↔ Clean s e) := by
    intro done s e hm he
    rw [asked, List.foldl_append]
    exact step_mirrors_iff hm he
  simp only [follows_iff_mirrors]
  exact Run.prefixes_iff_meets_given hstep es [] {} mirrors_empty hbounded

/-- A global property with two writes, of which the second is older. -/
def lateWrite : List Event :=
  let value : RawValue := ⟨[1], [], [], [], ""⟩
  [.registerProperty 0x11400400 none,
    .writeValue ⟨7, 0, 0x11400400, .unavailable, value⟩ true,
    .writeValue ⟨5, 0, 0x11400400, .available, { value with int32Values := [2] }⟩ true,
    .removeValuesForProperty 0x11400401]

theorem store_follows_late : Follows (asked lateWrite) (Run.run step {} lateWrite) := by
  refine (store_follows_iff lateWrite ?_).mpr ?_ lateWrite (List.prefix_refl _)
  · simp [lateWrite, Bounded]
    decide
  · refine ⟨trivial, trivial, trivial, ?_, trivial⟩
    decide

end VehiclePropertyStore

end ImxHal.Vehicle
