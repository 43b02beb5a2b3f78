import Mathlib
import ImxHal.Schemes.Run
import ImxHal.Schemes.Links
import ImxHal.Hwc3.Common

/-! @src display/hwcomposer3/Device.cpp (getPersistentKeyValue, setPersistentKeyValue),
    display/hwcomposer3/Display.cpp (getBootConfigId, setBootConfig, clearBootConfig, init) |
    name:Boot config | scheme:run | family:round trip

    The boot config of a display is kept over reboots in a key-value store:

        setBootConfig c   ──▶ store[to_string(mId)] := to_string(c)
        getBootConfigId   ◀── ParseInt(store[to_string(mId)]), if it is a config of the display

    The writer does its part. The reader finds the key in the store and then hands out the DEFAULT in
    both branches, so what was written is never read. -/

namespace ImxHal.Hwc3.Boot
open ImxHal.Run ImxHal.Links

/-- The device: whether a store is configured (`ro.vendor.hwcomposer.pmem`), and its dictionary. -/
structure Device where
  pmem : Bool
  dictionary : String → Option String

def Device.persistentKeyValueEnabled (dev : Device) : Bool := dev.pmem

/-- Whether the file of the store can be read and parsed, and written. -/
structure File where
  readable : Bool
  writable : Bool

/-- On an error the value stays as the caller has it, empty. -/
def Device.getPersistentKeyValue (dev : Device) (file : File) (key defaultValue : String) :
    Error × String :=
  if !dev.pmem || !file.readable then (.NoResources, "")
  else
    match dev.dictionary key with
    | none => (.None, defaultValue)
    | some _ => (.None, defaultValue)

def Device.setPersistentKeyValue (dev : Device) (file : File) (key value : String) : Error × Device :=
  if !dev.pmem || !file.readable then (.NoResources, dev)
  else if !file.writable then (.NoResources, dev)
  else (.None, { dev with dictionary := Function.update dev.dictionary key (some value) })

/-- A display with the ids of its configs. -/
structure Display where
  mId : ℤ
  mConfigs : List ℤ
  mActiveConfigId : Option ℤ

def Display.hasConfig (d : Display) (configId : ℤ) : Bool := configId ∈ d.mConfigs

section Calls

-- `ParseInt` of `android-base` for an `int32_t`
variable (ParseInt : String → Option ℤ)

def Display.getBootConfigId (dev : Device) (file : File) (d : Display) : Option ℤ :=
  if !dev.persistentKeyValueEnabled then none
  else
    let (error, val) := dev.getPersistentKeyValue file (toString d.mId) ""
    if error ≠ .None then none
    else if val = "" then none
    else
      match ParseInt val with
      | none => none
      | some configId => if d.hasConfig configId then some configId else none

/-- `NoResources` when the active config is not among the configs. -/
def Display.init (dev : Device) (file : File) (d : Display) (configs : List ℤ) (activeConfigId : ℤ) :
    Error × Display :=
  let d := { d with mConfigs := configs, mActiveConfigId := some activeConfigId }
  let id := (d.getBootConfigId ParseInt dev file).getD activeConfigId
  (if d.hasConfig id then .None else .NoResources, { d with mActiveConfigId := some id })

end Calls

def Display.setBootConfig (dev : Device) (file : File) (d : Display) (configId : ℤ) : Error × Device :=
  if d.hasConfig configId then
    dev.setPersistentKeyValue file (toString d.mId) (toString configId)
  else (.BadConfig, dev)

def Display.clearBootConfig (dev : Device) (file : File) (d : Display) : Error × Device :=
  dev.setPersistentKeyValue file (toString d.mId) ""

/-! ### Runs -/

/-- The device with its displays. `inForce id` is the boot config of the last call for the display, if
    that call was a successful `setBootConfig`. -/
structure Sys where
  device : Device
  configs : ℤ → List ℤ
  active : ℤ → Option ℤ
  inForce : ℤ → Option ℤ

def Sys.display (s : Sys) (id : ℤ) : Display := ⟨id, s.configs id, s.active id⟩

inductive Action where
  | init (id : ℤ) (configs : List ℤ) (activeConfigId : ℤ) (file : File)
  | setBootConfig (id configId : ℤ) (file : File)
  | clearBootConfig (id : ℤ) (file : File)

def Action.id : Action → ℤ
  | .init id _ _ _ => id
  | .setBootConfig id _ _ => id
  | .clearBootConfig id _ => id

def step (ParseInt : String → Option ℤ) (s : Sys) : Action → Sys
  | .init id configs activeConfigId file =>
    let d := ((s.display id).init ParseInt s.device file configs activeConfigId).2
    { s with
      configs := Function.update s.configs id d.mConfigs
      active := Function.update s.active id d.mActiveConfigId }
  | .setBootConfig id configId file =>
    let (error, device) := (s.display id).setBootConfig s.device file configId
    { s with
      device := device
      inForce := Function.update s.inForce id (if error = .None then some configId else none) }
  | .clearBootConfig id file =>
    { s with
      device := ((s.display id).clearBootConfig s.device file).2
      inForce := Function.update s.inForce id none }

/-- The boot config in force is found and chosen by the next `init`, on a store that can be read. -/
def Chosen (ParseInt : String → Option ℤ) (s : Sys) : Prop :=
  ∀ id c, s.inForce id = some c →
    (c ∈ s.configs id → (s.display id).getBootConfigId ParseInt s.device ⟨true, true⟩ = some c) ∧
      ∀ configs activeConfigId, c ∈ configs →
        ((s.display id).init ParseInt s.device ⟨true, true⟩ configs activeConfigId).2.mActiveConfigId =
          some c

/-- The boot configs in force are chosen, and the stored values of other displays are unaffected. -/
def RoundTrip (ParseInt : String → Option ℤ) (s : Sys) (a : Action) (s' : Sys) : Prop :=
  Chosen ParseInt s' ∧
    ∀ id ≠ a.id, s'.device.dictionary (toString id) = s.device.dictionary (toString id)

/-- No `setBootConfig` succeeds: its config is not one of the display, or the store is not there. -/
def NeverSet (s : Sys) : Action → Prop
  | .setBootConfig id configId file =>
    configId ∉ s.configs id ∨ s.device.pmem = false ∨ file.readable = false ∨ file.writable = false
  | _ => True

/-! ### The writer -/

/-- A write is refused, or changes the value of its key alone. -/
theorem setPersistent_cases (dev : Device) (file : File) (key value : String) :
    ((dev.pmem = false ∨ file.readable = false ∨ file.writable = false) ∧
        dev.setPersistentKeyValue file key value = (.NoResources, dev)) ∨
      dev.setPersistentKeyValue file key value =
        (.None, { dev with dictionary := Function.update dev.dictionary key (some value) }) := by
  rcases hp : dev.pmem <;> rcases hr : file.readable <;> rcases hw : file.writable <;>
    simp [Device.setPersistentKeyValue, hp, hr, hw]

theorem key_injective {id id' : ℤ} (h : toString id = toString id') : id = id' :=
  Int.repr_injective h

/-- What is in force is stored under the key of its display. -/
def Stored (s : Sys) : Prop :=
  ∀ id c, s.inForce id = some c → s.device.dictionary (toString id) = some (toString c)

/-- The value of a display survives a write for another one. -/
theorem setPersistent_other (dev : Device) (file : File) (value : String) {id id' : ℤ}
    (h : id' ≠ id) :
    (dev.setPersistentKeyValue file (toString id) value).2.dictionary (toString id') =
      dev.dictionary (toString id') := by
  rcases setPersistent_cases dev file (toString id) value with ⟨-, heq⟩ | heq
  · rw [heq]
  · rw [heq]
    exact Function.update_of_ne (fun hk => h (key_injective hk)) _ _

theorem setBootConfig_other (s : Sys) (id configId : ℤ) (file : File) {id' : ℤ} (h : id' ≠ id) :
    ((s.display id).setBootConfig s.device file configId).2.dictionary (toString id') =
      s.device.dictionary (toString id') := by
  rw [Display.setBootConfig]
  split
  · exact setPersistent_other s.device file _ h
  · rfl

/-- A `setBootConfig` that succeeds has stored its config. -/
theorem setBootConfig_stores {s : Sys} {id configId : ℤ} {file : File}
    (h : ((s.display id).setBootConfig s.device file configId).1 = .None) :
    ((s.display id).setBootConfig s.device file configId).2.dictionary (toString id) =
      some (toString configId) := by
  rw [Display.setBootConfig] at h ⊢
  split at h
  · next hc =>
    rw [if_pos hc]
    rcases setPersistent_cases s.device file (toString (s.display id).mId) (toString configId) with
      ⟨-, heq⟩ | heq
    · rw [heq] at h; cases h
    · rw [heq]; exact Function.update_self _ _ _
  · cases h

theorem stored_update {s : Sys} (hs : Stored s) {id : ℤ} {device : Device} {v : Option ℤ}
    (hother : ∀ id' ≠ id, device.dictionary (toString id') = s.device.dictionary (toString id'))
    (hv : ∀ c, v = some c → device.dictionary (toString id) = some (toString c)) :
    Stored { s with device := device, inForce := Function.update s.inForce id v } := by
  intro id' c hc
  rcases update_some_cases hc with ⟨rfl, h⟩ | ⟨hne, h⟩
  · exact hv c h
  · exact (hother id' hne).trans (hs id' c h)

/-- One call: the stored value of every other display stays, and what is in force is stored. -/
theorem step_stored (ParseInt : String → Option ℤ) (s : Sys) (a : Action) (hs : Stored s) :
    Stored (step ParseInt s a) ∧
      ∀ id ≠ a.id, (step ParseInt s a).device.dictionary (toString id) =
        s.device.dictionary (toString id) := by
  cases a with
  | init id configs activeConfigId file => exact ⟨hs, fun _ _ => rfl⟩
  | setBootConfig id configId file =>
    have hother := fun id' => @setBootConfig_other s id configId file id'
    refine ⟨stored_update hs hother fun c hc => ?_, hother⟩
    split at hc
    · next hok =>
      obtain rfl := Option.some.inj hc
      exact setBootConfig_stores hok
    · cases hc
  | clearBootConfig id file =>
    have hother := fun id' => @setPersistent_other s.device file "" id id'
    exact ⟨stored_update hs hother (fun c hc => absurd hc (by simp)), hother⟩

/-- Over every run what is in force is stored: the writer keeps its half of the round trip. -/
theorem run_stored (ParseInt : String → Option ℤ) (as : List Action) (s : Sys) (hs : Stored s) :
    Stored (run (step ParseInt) s as) :=
  run_inv Stored (C := fun _ => True) (fun s a hs _ => (step_stored ParseInt s a hs).1) as s hs
    fun _ _ => trivial

/-! ### The reader -/

/-- Both branches of the reader hand out the default. -/
theorem getPersistent_default (dev : Device) (file : File) (key : String) :
    (dev.getPersistentKeyValue file key "").2 = "" := by
  rw [Device.getPersistentKeyValue]
  split
  · rfl
  · split <;> rfl

/-- The default is empty, so no boot config is ever found. -/
theorem getBootConfigId_none (ParseInt : String → Option ℤ) (dev : Device) (file : File)
    (d : Display) : d.getBootConfigId ParseInt dev file = none := by
  simp only [Display.getBootConfigId, getPersistent_default, if_true, ite_self]

/-- A device after boot: nothing has been set since. -/
def booted (device : Device) (configs : ℤ → List ℤ) (active : ℤ → Option ℤ) : Sys :=
  ⟨device, configs, active, fun _ => none⟩

/-- Nothing is in force. -/
def Unset (s : Sys) : Prop := ∀ id, s.inForce id = none

/-- A `setBootConfig` succeeds exactly if nothing stands against it. -/
theorem setBootConfig_ok_iff (s : Sys) (id configId : ℤ) (file : File) :
    ((s.display id).setBootConfig s.device file configId).1 = .None ↔
      ¬ NeverSet s (.setBootConfig id configId file) := by
  simp only [NeverSet, Display.setBootConfig, Display.hasConfig, Sys.display]
  by_cases hc : configId ∈ s.configs id
  · simp only [hc, decide_true, if_true, not_true, false_or, Device.setPersistentKeyValue]
    rcases s.device.pmem <;> rcases file.readable <;> rcases file.writable <;> simp
  · simp [hc]

theorem step_unset (ParseInt : String → Option ℤ) (s : Sys) (a : Action) (hs : Unset s)
    (hn : NeverSet s a) : Unset (step ParseInt s a) := by
  intro id
  cases a with
  | init id' configs activeConfigId file => exact hs id
  | setBootConfig id' configId file =>
    have hfail : ((s.display id').setBootConfig s.device file configId).1 ≠ .None :=
      fun hok => (setBootConfig_ok_iff s id' configId file).mp hok hn
    simp only [step, if_neg hfail]
    rcases eq_or_ne id id' with rfl | hne
    · exact Function.update_self _ _ _
    · exact (Function.update_of_ne hne _ _).trans (hs id)
  | clearBootConfig id' file =>
    simp only [step]
    rcases eq_or_ne id id' with rfl | hne
    · exact Function.update_self _ _ _
    · exact (Function.update_of_ne hne _ _).trans (hs id)

/-- After a success the config is in force and among the configs, but not found. -/
theorem neverSet_of_chosen (ParseInt : String → Option ℤ) (s : Sys) (a : Action)
    (h : Chosen ParseInt (step ParseInt s a)) : NeverSet s a := by
  cases a with
  | setBootConfig id configId file =>
    by_contra hn
    have hok := (setBootConfig_ok_iff s id configId file).mpr hn
    have hin : configId ∈ s.configs id := by
      by_contra hout
      exact hn (Or.inl hout)
    have hforce : (step ParseInt s (.setBootConfig id configId file)).inForce id = some configId := by
      simp only [step, if_pos hok]
      exact Function.update_self _ _ _
    have hfound := (h id configId hforce).1 hin
    exact absurd ((getBootConfigId_none ParseInt _ _ _).symm.trans hfound) (by simp)
  | _ => trivial

/-- CORRECT: over every sequence of calls the boot config in force is found and chosen, with the
    values of other displays unaffected, exactly if no `setBootConfig` of the run succeeds. -/
theorem boot_config_chosen_iff (ParseInt : String → Option ℤ) (device : Device)
    (configs : ℤ → List ℤ) (active : ℤ → Option ℤ) (as : List Action) :
    Always (step ParseInt) (RoundTrip ParseInt) (booted device configs active) as ↔
      Meets (step ParseInt) NeverSet (booted device configs active) as := by
  refine always_iff_meets (fun s a (hs : Unset s) hn => ?_) (fun s a hs hp => ?_) as _
    (fun _ => rfl)
  · have hnext := step_unset ParseInt s a hs hn
    have hstored : Stored s := fun id c h => absurd ((hs id).symm.trans h) (by simp)
    exact ⟨hnext, fun id c h => absurd ((hnext id).symm.trans h) (by simp),
      (step_stored ParseInt s a hstored).2⟩
  · exact neverSet_of_chosen ParseInt s a hp.1

/-- Config 2 is set on display 0 and stored, but the next `init` chooses the config it is given. -/
theorem boot_config_forgotten :
    let s := run (step String.toInt?)
      (booted ⟨true, fun _ => none⟩ (fun _ => [1, 2]) (fun _ => some 1))
      [.setBootConfig 0 2 ⟨true, true⟩, .init 0 [1, 2] 1 ⟨true, true⟩]
    s.inForce 0 = some 2 ∧ s.device.dictionary "0" = some "2" ∧ s.active 0 = some 1 ∧
      (s.display 0).getBootConfigId String.toInt? s.device ⟨true, true⟩ = none := by
  decide +kernel

end ImxHal.Hwc3.Boot
