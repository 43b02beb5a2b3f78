import ImxHal.Vehicle.PropertyStore

/-! @src vehicle/impl/vhal_v2_0/EmulatedVehicleHal.cpp | name:emulated vehicle | scheme:run | family:stores

    Android's calls and the emulated car meet in the property store:

        Android ──set──▶ EmulatedVehicleHal ──setProperty──▶ VehicleHalServer ──▶ EmulatedUserHal
           ▲                mPropStore       ◀──onPropertyValue──┘    ▲
           └──get, events───────┘                                     fake values, the emulator

    A set goes to the car; what the car sends back is written to the store and, once accepted, announced. The
    OBD2 freeze frames are records of one property, told apart by their timestamps. -/

namespace ImxHal.Vehicle

inductive StatusCode where
  | ok
  | invalidArg
  | notAvailable
  | internalError
  deriving DecidableEq

/-! ### Properties -/

namespace VehicleProperty

def INITIAL_USER_INFO : PropId := 0x11e00f07
def SWITCH_USER : PropId := 0x11e00f08
def CREATE_USER : PropId := 0x11e00f09
def REMOVE_USER : PropId := 0x11e00f0a
def USER_IDENTIFICATION_ASSOCIATION : PropId := 0x11e00f0b
def OBD2_FREEZE_FRAME : PropId := 0x11e00d01
def OBD2_FREEZE_FRAME_INFO : PropId := 0x11e00d02
def OBD2_FREEZE_FRAME_CLEAR : PropId := 0x11e00d03
def VEHICLE_MAP_SERVICE : PropId := 0x11e00c00
def HVAC_POWER_ON : PropId := 0x15200510
def HVAC_FAN_SPEED : PropId := 0x15400500
def HVAC_FAN_DIRECTION : PropId := 0x15400501
def DISPLAY_BRIGHTNESS : PropId := 0x11400a03
def AP_POWER_STATE_REQ : PropId := 0x11410a00
def AP_POWER_STATE_REPORT : PropId := 0x11410a01
def HW_KEY_INPUT : PropId := 0x11410a10
def kGenerateFakeDataControllingProperty : PropId := 0x21e00666
def kSetIntPropertyFromVehicleForTest : PropId := 0x21e01112
def kSetFloatPropertyFromVehicleForTest : PropId := 0x21e01113
def kSetBooleanPropertyFromVehicleForTest : PropId := 0x21e01114

end VehicleProperty

open VehicleProperty

/-- The seats whose `HVAC_POWER_ON` is looked up. -/
def HVAC_ALL : Int32 := 0x75

def kHvacPowerProperties : List PropId := [HVAC_FAN_SPEED, HVAC_FAN_DIRECTION]

/-- A value fresh from `createVehiclePropValue`. -/
def VehiclePropValue.blank : VehiclePropValue := ⟨0, 0, 0, .available, ⟨[], [], [], [], ""⟩⟩

def VehiclePropValue.withInt32 (v : VehiclePropValue) (int32Values : List Int32) : VehiclePropValue :=
  { v with value := { v.value with int32Values } }

/-- What an index past the end of a vector reads. -/
structure Stray where
  int32 : Int32 := 0
  int64 : Int64 := 0
  float : BitVec 32 := 0

/-! ### The user HAL

`vehicle/impl/vhal_v2_0/EmulatedUserHal.cpp` -/

/-- The responses stored by lshal. -/
structure EmulatedUserHal where
  mInitialUserResponseFromCmd : Option VehiclePropValue := none
  mSwitchUserResponseFromCmd : Option VehiclePropValue := none
  mCreateUserResponseFromCmd : Option VehiclePropValue := none
  mSetUserIdentificationAssociationResponseFromCmd : Option VehiclePropValue := none

/-- A value, nothing, or an error. -/
abbrev UserResult := Except StatusCode (Option VehiclePropValue)

namespace EmulatedUserHal

def isSupported (prop : PropId) : Bool :=
  prop ∈ [INITIAL_USER_INFO, SWITCH_USER, CREATE_USER, REMOVE_USER, USER_IDENTIFICATION_ASSOCIATION]

/-- The area of a stored response says what is to be done with it. -/
def sendUserHalResponse (response : VehiclePropValue) (requestId : Int32) : UserResult :=
  let int32Values := response.value.int32Values
  if response.areaId = 1 then .ok (some (response.withInt32 (int32Values.set 0 requestId)))
  else if response.areaId = 2 then .ok (some (response.withInt32 (int32Values.set 0 (-requestId))))
  else if response.areaId = 3 then .error .notAvailable
  else .error .internalError

/-- The shape of the setters: without a request id an error, with an area a response to be stored, and
    otherwise a request, answered by the stored response or by default. -/
def onSetResponse (stored : Option VehiclePropValue) (keep : Bool)
    (reply : Int32 → List Int32 → UserResult) (value : VehiclePropValue) :
    Option VehiclePropValue × UserResult :=
  match value.value.int32Values with
  | [] => (stored, .error .invalidArg)
  | requestId :: rest =>
    if value.areaId ≠ 0 then (some value, .ok none)
    else
      match stored with
      | some response => (if keep then some response else none, sendUserHalResponse response requestId)
      | none => (none, reply requestId rest)

def defaultReply (prop : PropId) (now : Int64) (int32Values : List Int32) : UserResult :=
  .ok (some ({ VehiclePropValue.blank with prop, timestamp := now }.withInt32 int32Values))

def onSetInitialUserInfoResponse (hal : EmulatedUserHal) (now : Int64) (value : VehiclePropValue) :
    EmulatedUserHal × UserResult :=
  let DEFAULT := 0
  let (stored, result) := onSetResponse hal.mInitialUserResponseFromCmd false
    (fun requestId _ => defaultReply INITIAL_USER_INFO now [requestId, DEFAULT]) value
  ({ hal with mInitialUserResponseFromCmd := stored }, result)

/-- Two messages of Android get no response. -/
def onSetSwitchUserResponse (hal : EmulatedUserHal) (now : Int64) (value : VehiclePropValue) :
    EmulatedUserHal × UserResult :=
  let LEGACY_ANDROID_SWITCH := 1
  let ANDROID_POST_SWITCH := 5
  let VEHICLE_RESPONSE := 3
  let SUCCESS := 1
  let (stored, result) := onSetResponse hal.mSwitchUserResponseFromCmd false
    (fun requestId rest =>
      if rest.head? = some LEGACY_ANDROID_SWITCH ∨ rest.head? = some ANDROID_POST_SWITCH then .ok none
      else defaultReply SWITCH_USER now [requestId, VEHICLE_RESPONSE, SUCCESS]) value
  ({ hal with mSwitchUserResponseFromCmd := stored }, result)

def onSetCreateUserResponse (hal : EmulatedUserHal) (now : Int64) (value : VehiclePropValue) :
    EmulatedUserHal × UserResult :=
  let SUCCESS := 1
  let (stored, result) := onSetResponse hal.mCreateUserResponseFromCmd false
    (fun requestId _ => defaultReply CREATE_USER now [requestId, SUCCESS]) value
  ({ hal with mCreateUserResponseFromCmd := stored }, result)

/-- The stored response stays, for later requests and for the getter. -/
def onSetUserIdentificationAssociation (hal : EmulatedUserHal) (value : VehiclePropValue) :
    EmulatedUserHal × UserResult :=
  let (stored, result) := onSetResponse hal.mSetUserIdentificationAssociationResponseFromCmd true
    (fun _ _ => .error .notAvailable) value
  ({ hal with mSetUserIdentificationAssociationResponseFromCmd := stored }, result)

def onSetProperty (hal : EmulatedUserHal) (now : Int64) (value : VehiclePropValue) :
    EmulatedUserHal × UserResult :=
  if value.prop = INITIAL_USER_INFO then hal.onSetInitialUserInfoResponse now value
  else if value.prop = SWITCH_USER then hal.onSetSwitchUserResponse now value
  else if value.prop = CREATE_USER then hal.onSetCreateUserResponse now value
  else if value.prop = REMOVE_USER then (hal, .ok none)
  else if value.prop = USER_IDENTIFICATION_ASSOCIATION then hal.onSetUserIdentificationAssociation value
  else (hal, .error .invalidArg)

def onGetUserIdentificationAssociation (hal : EmulatedUserHal) (value : VehiclePropValue) : UserResult :=
  match hal.mSetUserIdentificationAssociationResponseFromCmd with
  | some response =>
    match value.value.int32Values.head? with
    | some requestId => .ok (some (response.withInt32 (response.value.int32Values.set 0 requestId)))
    | none => .ok (some response)
  | none => .error .notAvailable

def onGetProperty (hal : EmulatedUserHal) (value : VehiclePropValue) : UserResult :=
  if value.prop = USER_IDENTIFICATION_ASSOCIATION then hal.onGetUserIdentificationAssociation value
  else .error .invalidArg

end EmulatedUserHal

/-! ### The server

`vehicle/impl/vhal_v2_0/VehicleHalServer.cpp`. It reads nothing of the store: a request yields the values it
sends back, each with its flag, and a status. -/

structure ServerReply where
  user : EmulatedUserHal
  sent : List (VehiclePropValue × Bool) := []
  status : StatusCode := .ok

namespace VehicleHalServer

def createApPowerStateReq (now : Int64) (state param : Int32) : VehiclePropValue :=
  { VehiclePropValue.blank with prop := AP_POWER_STATE_REQ, timestamp := now }.withInt32 [state, param]

def createHwInputKeyProp (now : Int64) (action keyCode targetDisplay : Int32) : VehiclePropValue :=
  { VehiclePropValue.blank with prop := HW_KEY_INPUT, timestamp := now }.withInt32
    [action, keyCode, targetDisplay]

/-- A generator started or stopped here speaks through `onFakeValueGenerated`. -/
def handleGenerateFakeDataRequest (user : EmulatedUserHal) (now : Int64) (request : VehiclePropValue)
    (stray : Stray) : ServerReply :=
  let v := request.value
  let refused : ServerReply := { user, status := .invalidArg }
  match v.int32Values with
  | [] => refused
  | command :: rest =>
    if command = 0 then
      if rest = [] ∨ v.int64Values = [] ∨ v.floatValues.length < 3 then refused else { user }
    else if command = 1 then if rest = [] then refused else { user }
    else if command = 2 ∨ command = 3 then if v.stringValue = "" then refused else { user }
    else if command = 100 then
      let keyCode := rest.getD 1 stray.int32
      let display := rest.getD 2 stray.int32
      { user, sent := [(createHwInputKeyProp now 0 keyCode display, true),
          (createHwInputKeyProp now 1 keyCode display, true)] }
    else refused

/-- The value a test sets from the vehicle's side. -/
def setForTest (value : VehiclePropValue) (prop : PropId) (int32Values : List Int32)
    (floatValues : List (BitVec 32)) (stray : Stray) : VehiclePropValue :=
  { VehiclePropValue.blank with
    prop
    areaId := value.areaId
    timestamp := value.value.int64Values.getD 0 stray.int64
    value := { VehiclePropValue.blank.value with int32Values, floatValues } }

/-- What the car answers to a report of its power state. -/
def powerStateReq (now : Int64) (report : Int32) : List (VehiclePropValue × Bool) :=
  let ON := 0
  let FINISHED := 3
  if report = 3 ∨ report = 8 ∨ report = 1 then [(createApPowerStateReq now ON 0, true)]
  else if report = 2 ∨ report = 5 then [(createApPowerStateReq now FINISHED 0, true)]
  else []

def onSetProperty (user : EmulatedUserHal) (now : Int64) (value : VehiclePropValue) (updateStatus : Bool)
    (stray : Stray) : ServerReply :=
  let int32Values := value.value.int32Values
  if EmulatedUserHal.isSupported value.prop then
    match user.onSetProperty now value with
    | (user, .error status) => { user, status }
    | (user, .ok none) => { user }
    | (user, .ok (some updatedValue)) => { user, sent := [(updatedValue, updateStatus)] }
  else if value.prop = kGenerateFakeDataControllingProperty then
    handleGenerateFakeDataRequest user now value stray
  else if value.prop = kSetIntPropertyFromVehicleForTest then
    { user, sent := [(setForTest value (int32Values.getD 0 stray.int32) [int32Values.getD 1 stray.int32] []
        stray, updateStatus)] }
  else if value.prop = kSetFloatPropertyFromVehicleForTest then
    { user, sent := [(setForTest value (int32Values.getD 0 stray.int32) []
        [value.value.floatValues.getD 0 stray.float] stray, updateStatus)] }
  else if value.prop = kSetBooleanPropertyFromVehicleForTest then
    { user, sent := [(setForTest value (int32Values.getD 1 stray.int32) [int32Values.getD 0 stray.int32] []
        stray, updateStatus)] }
  else
    let reqs := if value.prop = AP_POWER_STATE_REPORT then
      powerStateReq now (int32Values.getD 0 stray.int32) else []
    { user, sent := reqs ++ [({ value with timestamp := now }, updateStatus)] }

end VehicleHalServer

/-! ### The HAL -/

/-- With the time on its clock and the events it has sent, to the emulator's clients and the subscribers. -/
structure EmulatedVehicleHal where
  mPropStore : VehiclePropertyStore
  mEmulatedUserHal : EmulatedUserHal := {}
  mInEmulator : Bool := false
  halEvents : List VehiclePropValue := []
  clock : Int64 := 0

namespace EmulatedVehicleHal

def onPropertyValue (hal : EmulatedVehicleHal) (value : VehiclePropValue) (updateStatus : Bool) :
    EmulatedVehicleHal :=
  match hal.mPropStore.writeValue value updateStatus with
  | (store, true) => { hal with mPropStore := store, halEvents := hal.halEvents ++ [value] }
  | (store, false) => { hal with mPropStore := store }

def receive (hal : EmulatedVehicleHal) (sent : List (VehiclePropValue × Bool)) : EmulatedVehicleHal :=
  sent.foldl (fun hal x => hal.onPropertyValue x.1 x.2) hal

/-- Client and server are one object. -/
def setProperty (hal : EmulatedVehicleHal) (value : VehiclePropValue) (updateStatus : Bool) (stray : Stray) :
    EmulatedVehicleHal × StatusCode :=
  let reply := VehicleHalServer.onSetProperty hal.mEmulatedUserHal hal.clock value updateStatus stray
  ({ hal with mEmulatedUserHal := reply.user }.receive reply.sent, reply.status)

def fillObd2FreezeFrame (hal : EmulatedVehicleHal) (requestedPropValue : VehiclePropValue) :
    VehiclePropValue × StatusCode :=
  match requestedPropValue.value.int64Values with
  | [timestamp] =>
    match hal.mPropStore.readRecordOrNull OBD2_FREEZE_FRAME 0 timestamp with
    | none => (.blank, .invalidArg)
    | some freezeFrame =>
      ({ VehiclePropValue.blank with
          prop := OBD2_FREEZE_FRAME
          value := { freezeFrame.value with int64Values := [] }
          timestamp := freezeFrame.timestamp }, .ok)
  | _ => (.blank, .invalidArg)

def fillObd2DtcInfo (hal : EmulatedVehicleHal) : VehiclePropValue :=
  let timestamps := (hal.mPropStore.readValuesForProperty OBD2_FREEZE_FRAME).map (·.timestamp)
  { VehiclePropValue.blank with
    prop := OBD2_FREEZE_FRAME_INFO
    value := { VehiclePropValue.blank.value with int64Values := timestamps } }

def get (hal : EmulatedVehicleHal) (requestedPropValue : VehiclePropValue) :
    Option VehiclePropValue × StatusCode :=
  let propId := requestedPropValue.prop
  let stamped (v : VehiclePropValue) : VehiclePropValue := { v with timestamp := hal.clock }
  if propId = OBD2_FREEZE_FRAME then
    let (v, status) := hal.fillObd2FreezeFrame requestedPropValue
    (some (stamped v), status)
  else if propId = OBD2_FREEZE_FRAME_INFO then (some (stamped hal.fillObd2DtcInfo), .ok)
  else if EmulatedUserHal.isSupported propId then
    match hal.mEmulatedUserHal.onGetProperty requestedPropValue with
    | .error status => (none, status)
    | .ok none => (none, .internalError)
    | .ok (some value) => (some (stamped value), .ok)
  else
    match hal.mPropStore.readValueOrNull requestedPropValue with
    | none => (none, .invalidArg)
    | some internalPropValue => (some (stamped internalPropValue), .ok)

/-- Stops at the first timestamp without a frame; the frames before it are gone by then. -/
def clearFrames (store : VehiclePropertyStore) : List Int64 → VehiclePropertyStore × StatusCode
  | [] => (store, .ok)
  | timestamp :: timestamps =>
    match store.readRecordOrNull OBD2_FREEZE_FRAME 0 timestamp with
    | none => (store, .invalidArg)
    | some freezeFrame => clearFrames (store.removeValue freezeFrame) timestamps

def clearObd2FreezeFrames (hal : EmulatedVehicleHal) (propValue : VehiclePropValue) :
    EmulatedVehicleHal × StatusCode :=
  if propValue.value.int64Values = [] then
    ({ hal with mPropStore := hal.mPropStore.removeValuesForProperty OBD2_FREEZE_FRAME }, .ok)
  else
    let (store, status) := clearFrames hal.mPropStore propValue.value.int64Values
    ({ hal with mPropStore := store }, status)

/-- The fans cannot be set while the climate system is off. -/
def hvacOff (hal : EmulatedVehicleHal) : Bool :=
  (hal.mPropStore.readRecordOrNull HVAC_POWER_ON HVAC_ALL 0).any fun v => v.value.int32Values = [0]

def set (hal : EmulatedVehicleHal) (propValue : VehiclePropValue) (stray : Stray) :
    EmulatedVehicleHal × StatusCode :=
  if propValue.prop = kGenerateFakeDataControllingProperty then hal.setProperty propValue false stray
  else if propValue.prop ∈ kHvacPowerProperties ∧ hal.hvacOff then (hal, .notAvailable)
  else if propValue.prop = OBD2_FREEZE_FRAME_CLEAR then hal.clearObd2FreezeFrames propValue
  else if propValue.prop = VEHICLE_MAP_SERVICE then (hal, .ok)
  else if propValue.status ≠ .available then (hal, .invalidArg)
  else
    match hal.mPropStore.readValueOrNull propValue with
    | none => (hal, .invalidArg)
    | some currentPropValue =>
      if currentPropValue.status ≠ .available then (hal, .notAvailable)
      else if hal.mInEmulator ∧ propValue.prop = DISPLAY_BRIGHTNESS then (hal, .ok)
      else hal.setProperty propValue false stray

/-! ### Start and events -/

/-- The token of a freeze frame is its timestamp, and no other property has tokens. -/
def tokenFunctionOf (prop : PropId) : Option TokenFunction :=
  if prop = OBD2_FREEZE_FRAME then some fun propValue => propValue.timestamp else none

def initStaticConfig (kVehicleProperties : List PropId) : VehiclePropertyStore :=
  kVehicleProperties.foldl (fun store prop => store.registerProperty prop (tokenFunctionOf prop)) {}

/-- The constructor registers every property once more, without a token function. -/
def registered (kVehicleProperties : List PropId) : VehiclePropertyStore :=
  kVehicleProperties.foldl (fun store prop => store.registerProperty prop none)
    (initStaticConfig kVehicleProperties)

/-- `onCreate` writes the initial values of the properties, and the frames of the emulated car. -/
def onCreate (kVehicleProperties : List PropId) (initial : List VehiclePropValue) (mInEmulator : Bool)
    (clock : Int64) : EmulatedVehicleHal :=
  { mPropStore := initial.foldl (fun store prop => (store.writeValue prop true).1)
      (registered kVehicleProperties)
    mInEmulator
    clock }

inductive Event where
  /-- The clock does not go back. -/
  | elapse (now : Int64)
  | set (propValue : VehiclePropValue) (stray : Stray)
  /-- The emulator's message has the time of its arrival. -/
  | setPropertyFromVehicle (propValue : VehiclePropValue) (stray : Stray)
  | onFakeValueGenerated (value : VehiclePropValue)

def step (hal : EmulatedVehicleHal) : Event → EmulatedVehicleHal
  | .elapse now => { hal with clock := if hal.clock ≤ now then now else hal.clock }
  | .set propValue stray => (hal.set propValue stray).1
  | .setPropertyFromVehicle propValue stray =>
    (hal.setProperty { propValue with timestamp := hal.clock } true stray).1
  | .onFakeValueGenerated value => hal.onPropertyValue { value with status := .available } true

/-! ### What a step does -/

section Steps
variable {hal : EmulatedVehicleHal} {v : VehiclePropValue} {stray : Stray}

@[simp] theorem mPropStore_onPropertyValue (hal : EmulatedVehicleHal) (v : VehiclePropValue)
    (updateStatus : Bool) :
    (hal.onPropertyValue v updateStatus).mPropStore = (hal.mPropStore.writeValue v updateStatus).1 := by
  unfold onPropertyValue
  split <;> simp_all

@[simp] theorem clock_onPropertyValue (hal : EmulatedVehicleHal) (v : VehiclePropValue) (updateStatus : Bool) :
    (hal.onPropertyValue v updateStatus).clock = hal.clock := by
  unfold onPropertyValue
  split <;> rfl

@[simp] theorem user_onPropertyValue (hal : EmulatedVehicleHal) (v : VehiclePropValue) (updateStatus : Bool) :
    (hal.onPropertyValue v updateStatus).mEmulatedUserHal = hal.mEmulatedUserHal := by
  unfold onPropertyValue
  split <;> rfl

/-- What each value sent keeps, all of them keep. -/
theorem receive_inv {Inv : EmulatedVehicleHal → Prop} {sent : List (VehiclePropValue × Bool)}
    (hkeep : ∀ hal, Inv hal → ∀ x ∈ sent, Inv (hal.onPropertyValue x.1 x.2)) (hinv : Inv hal) :
    Inv (hal.receive sent) := by
  unfold receive
  induction sent generalizing hal with
  | nil => exact hinv
  | cons x sent ih =>
    have hnext := hkeep hal hinv x List.mem_cons_self
    exact ih (fun hal hhal y hy => hkeep hal hhal y (List.mem_cons_of_mem x hy)) hnext

/-- Android's calls leave the HAL as it was, clear freeze frames, or go to the car. Of those that leave it,
    two are answered `OK`; those that go to the car are for available values. -/
theorem set_cases (hal : EmulatedVehicleHal) (v : VehiclePropValue) (stray : Stray) :
    ((hal.set v stray).1 = hal ∧ ((hal.set v stray).2 = .ok →
        v.prop = VEHICLE_MAP_SERVICE ∨ hal.mInEmulator ∧ v.prop = DISPLAY_BRIGHTNESS)) ∨
      (v.prop = OBD2_FREEZE_FRAME_CLEAR ∧ hal.set v stray = hal.clearObd2FreezeFrames v) ∨
      (hal.set v stray = hal.setProperty v false stray ∧
        (v.prop = kGenerateFakeDataControllingProperty ∨ v.status = .available ∧
          ∃ w, hal.mPropStore.readValueOrNull v = some w ∧ w.status = .available)) := by
  unfold set
  by_cases hgenerate : v.prop = kGenerateFakeDataControllingProperty
  · exact Or.inr (Or.inr ⟨if_pos hgenerate, Or.inl hgenerate⟩)
  rw [if_neg hgenerate]
  by_cases hhvac : v.prop ∈ kHvacPowerProperties ∧ hal.hvacOff
  · rw [if_pos hhvac]
    exact Or.inl ⟨rfl, by simp⟩
  rw [if_neg hhvac]
  by_cases hclear : v.prop = OBD2_FREEZE_FRAME_CLEAR
  · exact Or.inr (Or.inl ⟨hclear, if_pos hclear⟩)
  rw [if_neg hclear]
  by_cases hvms : v.prop = VEHICLE_MAP_SERVICE
  · rw [if_pos hvms]
    exact Or.inl ⟨rfl, fun _ => Or.inl hvms⟩
  rw [if_neg hvms]
  by_cases hstatus : v.status = .available
  swap
  · rw [if_pos hstatus]
    exact Or.inl ⟨rfl, by simp⟩
  rw [if_neg (not_not.mpr hstatus)]
  cases hal.mPropStore.readValueOrNull v with
  | none => exact Or.inl ⟨rfl, by simp⟩
  | some w =>
    simp only
    by_cases hw : w.status = .available
    swap
    · rw [if_pos hw]
      exact Or.inl ⟨rfl, by simp⟩
    rw [if_neg (not_not.mpr hw)]
    by_cases hdisplay : hal.mInEmulator ∧ v.prop = DISPLAY_BRIGHTNESS
    · rw [if_pos hdisplay]
      exact Or.inl ⟨rfl, fun _ => Or.inr hdisplay⟩
    · exact Or.inr (Or.inr ⟨if_neg hdisplay, Or.inr ⟨hstatus, w, rfl, hw⟩⟩)

theorem receive_store_inv {Inv : VehiclePropertyStore → Prop}
    (hwrite : ∀ s v updateStatus, Inv s → Inv (s.writeValue v updateStatus).1)
    (sent : List (VehiclePropValue × Bool)) (h : Inv hal.mPropStore) : Inv (hal.receive sent).mPropStore := by
  refine receive_inv (fun hal (h : Inv hal.mPropStore) x _ => ?_) h
  rw [mPropStore_onPropertyValue]
  exact hwrite _ _ _ h

/-- What writes keep of the store, every event keeps that does not clear freeze frames. -/
theorem step_store_inv {Inv : VehiclePropertyStore → Prop}
    (hwrite : ∀ s v updateStatus, Inv s → Inv (s.writeValue v updateStatus).1) (e : Event)
    (hclear : ∀ v stray, e = .set v stray → v.prop = OBD2_FREEZE_FRAME_CLEAR →
      Inv (hal.clearObd2FreezeFrames v).1.mPropStore)
    (h : Inv hal.mPropStore) : Inv (step hal e).mPropStore := by
  cases e with
  | elapse now => exact h
  | set v stray =>
    change Inv (hal.set v stray).1.mPropStore
    rcases set_cases hal v stray with ⟨hsame, -⟩ | ⟨hprop, hclears⟩ | ⟨hsends, -⟩
    · rwa [hsame]
    · rw [hclears]
      exact hclear v stray rfl hprop
    · rw [hsends]
      exact receive_store_inv hwrite _ h
  | setPropertyFromVehicle v stray => exact receive_store_inv hwrite _ h
  | onFakeValueGenerated v =>
    change Inv (hal.onPropertyValue _ _).mPropStore
    rw [mPropStore_onPropertyValue]
    exact hwrite _ _ _ h

theorem clearFrames_inv {Inv : VehiclePropertyStore → Prop} (hremove : ∀ s v, Inv s → Inv (s.removeValue v))
    (timestamps : List Int64) {s : VehiclePropertyStore} (h : Inv s) : Inv (clearFrames s timestamps).1 := by
  induction timestamps generalizing s with
  | nil => exact h
  | cons t timestamps ih =>
    rw [clearFrames]
    split
    · exact h
    · exact ih (hremove _ _ h)

theorem clear_store_inv {Inv : VehiclePropertyStore → Prop} (hremove : ∀ s v, Inv s → Inv (s.removeValue v))
    (hall : ∀ s, Inv s → Inv (s.removeValuesForProperty OBD2_FREEZE_FRAME)) (v : VehiclePropValue)
    (h : Inv hal.mPropStore) : Inv (hal.clearObd2FreezeFrames v).1.mPropStore := by
  unfold clearObd2FreezeFrames
  split_ifs
  · exact hall _ h
  · exact clearFrames_inv hremove _ h

end Steps

/-! ### The records of the HAL -/

structure Recorded (s : VehiclePropertyStore) : Prop where
  configs : ∀ p f, s.mConfigs.lookup p = some f → f = tokenFunctionOf p
  registered : ∀ r v, s.mPropertyValues.find? r = some v → s.mConfigs.lookup r.prop ≠ none
  prop : ∀ r v, s.mPropertyValues.find? r = some v → v.prop = r.prop
  area : ∀ r v, s.mPropertyValues.find? r = some v → isGlobalProp r.prop = true → r.area = 0
  token : ∀ r v, s.mPropertyValues.find? r = some v →
    r.token = if r.prop = OBD2_FREEZE_FRAME then v.timestamp else 0

section Recorded
variable {s : VehiclePropertyStore} {v : VehiclePropValue}

theorem Recorded.getRecordId (h : Recorded s) (hreg : s.mConfigs.lookup v.prop ≠ none) :
    s.getRecordIdLocked v =
      ⟨v.prop, if isGlobalProp v.prop then 0 else v.areaId,
        if v.prop = OBD2_FREEZE_FRAME then v.timestamp else 0⟩ := by
  obtain ⟨f, hf⟩ := Option.ne_none_iff_exists'.mp hreg
  rw [VehiclePropertyStore.getRecordIdLocked, hf, h.configs _ _ hf, tokenFunctionOf]
  split_ifs <;> rfl

/-- A store with fewer values and the same configs. -/
theorem Recorded.mono (h : Recorded s) {s' : VehiclePropertyStore} (hconfigs : s'.mConfigs = s.mConfigs)
    (hfind : ∀ r v, s'.mPropertyValues.find? r = some v → s.mPropertyValues.find? r = some v) :
    Recorded s' where
  configs := hconfigs ▸ h.configs
  registered r v hv := hconfigs ▸ h.registered r v (hfind r v hv)
  prop r v hv := h.prop r v (hfind r v hv)
  area r v hv := h.area r v (hfind r v hv)
  token r v hv := h.token r v (hfind r v hv)

theorem Recorded.removeValue (h : Recorded s) (v : VehiclePropValue) : Recorded (s.removeValue v) := by
  refine h.mono rfl fun r w hw => ?_
  rw [VehiclePropertyStore.removeValue, SortedMap.find?_erase] at hw
  split_ifs at hw
  exact hw

theorem freezeFrame_ne_max : OBD2_FREEZE_FRAME ≠ Int32.maxValue := by decide

/-- The freeze frames fit their range, and no other record lies in it. -/
theorem Recorded.find?_clear (h : Recorded s) (r : RecordId) :
    (s.removeValuesForProperty OBD2_FREEZE_FRAME).mPropertyValues.find? r =
      if r.prop = OBD2_FREEZE_FRAME then none else s.mPropertyValues.find? r := by
  have hfits : ∀ p, isGlobalProp p = true → ∀ v, s.mPropertyValues.find? r = some v → r.prop = p →
      ¬ VehiclePropertyStore.Misfit r := by
    rintro p hglobal v hv hprop ⟨harea, -⟩
    rw [h.area r v hv (hprop ▸ hglobal)] at harea
    exact absurd harea (by decide)
  rw [VehiclePropertyStore.removeValuesForProperty,
    SortedMap.find?_eraseRange _ (VehiclePropertyStore.findRange_le freezeFrame_ne_max),
    if_congr (VehiclePropertyStore.in_range freezeFrame_ne_max) rfl rfl]
  cases hv : s.mPropertyValues.find? r with
  | none => simp
  | some v =>
    by_cases hprop : r.prop = OBD2_FREEZE_FRAME
    · rw [if_pos hprop, if_pos (Or.inl ⟨hprop, hfits _ (by decide) v hv hprop⟩)]
    · have hnext : r.prop = OBD2_FREEZE_FRAME + 1 → ¬ VehiclePropertyStore.Misfit r :=
        hfits _ (by decide) v hv
      rw [if_neg hprop, if_neg]
      rintro (⟨heq, -⟩ | ⟨heq, hmisfit⟩)
      · exact hprop heq
      · exact hnext heq hmisfit

theorem Recorded.clear (h : Recorded s) : Recorded (s.removeValuesForProperty OBD2_FREEZE_FRAME) := by
  refine h.mono rfl fun r w hw => ?_
  rw [h.find?_clear] at hw
  split_ifs at hw
  exact hw

theorem written_prop {o : Option VehiclePropValue} {q : VehiclePropValue} (updateStatus : Bool)
    (h : ∀ w ∈ o, w.prop = q.prop) : (VehiclePropertyStore.written o q updateStatus).prop = q.prop := by
  cases o with
  | none => rfl
  | some w =>
    have hw : w.prop = q.prop := h w rfl
    simp only [VehiclePropertyStore.written]
    split_ifs <;> exact hw

theorem written_timestamp {o : Option VehiclePropValue} {q : VehiclePropValue} (updateStatus : Bool) :
    (VehiclePropertyStore.written o q updateStatus).timestamp = q.timestamp ∨
      ∃ w ∈ o, VehiclePropertyStore.written o q updateStatus = w := by
  cases o with
  | none => exact Or.inl rfl
  | some w =>
    simp only [VehiclePropertyStore.written]
    split_ifs
    · exact Or.inr ⟨w, rfl, rfl⟩
    · exact Or.inl rfl

theorem Recorded.writeValue (h : Recorded s) (q : VehiclePropValue) (updateStatus : Bool) :
    Recorded (s.writeValue q updateStatus).1 := by
  by_cases hreg : s.mConfigs.lookup q.prop = none
  · rwa [VehiclePropertyStore.writeValue_unregistered hreg]
  · have hid := h.getRecordId hreg
    have hconfigs := VehiclePropertyStore.mConfigs_writeValue (s := s) q updateStatus
    -- A value found afterwards is the written one, in its own record, or was there before.
    have hcases : ∀ r w, (s.writeValue q updateStatus).1.mPropertyValues.find? r = some w →
        (r = s.getRecordIdLocked q ∧
          w = VehiclePropertyStore.written (s.mPropertyValues.find? r) q updateStatus) ∨
        s.mPropertyValues.find? r = some w := by
      intro r w hw
      rw [VehiclePropertyStore.find?_writeValue hreg] at hw
      split_ifs at hw with hr
      · exact Or.inl ⟨hr, (Option.some.inj hw).symm⟩
      · exact Or.inr hw
    refine ⟨hconfigs ▸ h.configs, fun r w hw => ?_, fun r w hw => ?_, fun r w hw hglobal => ?_, fun r w hw => ?_⟩
    · rw [hconfigs]
      rcases hcases r w hw with ⟨rfl, -⟩ | hold
      · rwa [hid]
      · exact h.registered r w hold
    · rcases hcases r w hw with ⟨rfl, rfl⟩ | hold
      · have hprop : (s.getRecordIdLocked q).prop = q.prop := by rw [hid]
        rw [hprop]
        exact written_prop updateStatus fun w hw => (h.prop _ w hw).trans hprop
      · exact h.prop r w hold
    · rcases hcases r w hw with ⟨rfl, -⟩ | hold
      · rw [hid] at hglobal ⊢
        exact if_pos hglobal
      · exact h.area r w hold hglobal
    · rcases hcases r w hw with ⟨hr, rfl⟩ | hold
      · rcases written_timestamp (o := s.mPropertyValues.find? r) (q := q) updateStatus with hts | ⟨w, hw, heq⟩
        · rw [hts, hr, hid]
        · rw [heq]
          exact h.token r w hw
      · exact h.token r w hold

/-! ### Registration -/

theorem registerProperty_registered {p : PropId} (h : s.mConfigs.lookup p ≠ none) (f : Option TokenFunction) :
    s.registerProperty p f = s := if_pos (Option.isSome_iff_ne_none.mpr h)

theorem lookup_initStaticConfig (props : List PropId) (p : PropId) :
    (initStaticConfig props).mConfigs.lookup p = if p ∈ props then some (tokenFunctionOf p) else none := by
  unfold initStaticConfig
  induction props using List.reverseRecOn with
  | nil => rfl
  | append_singleton props q ih =>
    rw [List.foldl_append, List.foldl_cons, List.foldl_nil, VehiclePropertyStore.lookup_registerProperty]
    by_cases hp : p = q
    · subst hp
      rw [ih]
      by_cases hmem : p ∈ props <;> simp [hmem]
    · rw [if_neg hp, ih]
      simp [hp]

/-- The second registration changes nothing. -/
theorem registered_eq (props : List PropId) : registered props = initStaticConfig props := by
  refine List.foldlRecOn (motive := fun store => store = initStaticConfig props) props _ rfl ?_
  rintro store rfl p hp
  refine registerProperty_registered ?_ none
  rw [lookup_initStaticConfig, if_pos hp]
  exact Option.some_ne_none _

theorem values_initStaticConfig (props : List PropId) :
    (initStaticConfig props).mPropertyValues = .empty := by
  refine List.foldlRecOn (motive := fun store : VehiclePropertyStore => store.mPropertyValues = .empty) props _ rfl ?_
  intro store hstore p _
  rw [VehiclePropertyStore.find?_registerProperty, hstore]

theorem recorded_registered (props : List PropId) : Recorded (registered props) := by
  have hnone : ∀ r v, (registered props).mPropertyValues.find? r ≠ some v := by
    intro r v
    simp [registered_eq, values_initStaticConfig]
  refine ⟨fun p f hf => ?_, fun r v hv => ?_, fun r v hv => ?_, fun r v hv => ?_, fun r v hv => ?_⟩
  · rw [registered_eq, lookup_initStaticConfig] at hf
    split_ifs at hf
    exact (Option.some.inj hf).symm
  all_goals exact absurd hv (hnone r v)

theorem recorded_run (kVehicleProperties : List PropId) (initial : List VehiclePropValue) (mInEmulator : Bool)
    (clock : Int64) (es : List Event) :
    Recorded (Run.run step (onCreate kVehicleProperties initial mInEmulator clock) es).mPropStore := by
  refine Run.run_inv (fun hal : EmulatedVehicleHal => Recorded hal.mPropStore) (C := fun _ => True) (fun hal e h _ => ?_) es _ ?_
    fun _ _ => trivial
  · refine step_store_inv (fun s v updateStatus hs => hs.writeValue v updateStatus) e (fun v _ _ _ => ?_) h
    exact clear_store_inv (fun s v hs => hs.removeValue v) (fun s hs => hs.clear) v h
  · exact List.foldlRecOn initial _ (recorded_registered kVehicleProperties)
      fun s hs v _ => hs.writeValue v true

end Recorded

end EmulatedVehicleHal

end ImxHal.Vehicle
