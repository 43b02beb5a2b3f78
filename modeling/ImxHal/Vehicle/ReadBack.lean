import ImxHal.Vehicle.EmulatedHal

/-! @src vehicle/impl/vhal_v2_0/EmulatedVehicleHal.cpp | name:sets and events | scheme:run | family:stores

    A client reads back what it has set, and what the subscribers were last told:

        set v ──▶ server, stamped with the clock ──▶ store ──▶ event ──▶ subscribers
                                                       └──▶ get

    The store drops what is older than its record: as long as no record is dated after the clock, a set that
    was answered `OK` has been stored. -/

namespace ImxHal.Vehicle.EmulatedVehicleHal

open VehicleProperty VehiclePropertyStore

/-! ### Accepted writes -/

section Writes
variable {s : VehiclePropertyStore} {q : VehiclePropValue} {updateStatus : Bool}

theorem writeValue_refused (h : (s.writeValue q updateStatus).2 = false) :
    (s.writeValue q updateStatus).1 = s := by
  by_cases hreg : s.mConfigs.lookup q.prop = none
  · rw [writeValue_unregistered hreg]
  · cases hfind : s.mPropertyValues.find? (s.getRecordIdLocked q) with
    | none =>
      rw [writeValue_first hreg hfind] at h
      cases h
    | some v =>
      rw [writeValue_again hreg hfind] at h ⊢
      split_ifs at h ⊢
      rfl

/-- An accepted write is in its record, and in no other. -/
theorem writeValue_accepted (h : (s.writeValue q updateStatus).2 = true) :
    (∃ v, (s.writeValue q updateStatus).1.mPropertyValues.find? (s.getRecordIdLocked q) = some v ∧
        v.value = q.value ∧ v.timestamp = q.timestamp) ∧
      ∀ r, r ≠ s.getRecordIdLocked q →
        (s.writeValue q updateStatus).1.mPropertyValues.find? r = s.mPropertyValues.find? r := by
  have hreg : s.mConfigs.lookup q.prop ≠ none := by
    intro hnone
    rw [writeValue_unregistered hnone] at h
    cases h
  refine ⟨?_, fun r hr => ?_⟩
  · cases hfind : s.mPropertyValues.find? (s.getRecordIdLocked q) with
    | none =>
      rw [writeValue_first hreg hfind, SortedMap.find?_put, if_pos rfl]
      exact ⟨q, rfl, rfl, rfl⟩
    | some v =>
      rw [writeValue_again hreg hfind] at h ⊢
      split_ifs at h ⊢
      rw [SortedMap.find?_put, if_pos rfl]
      exact ⟨_, rfl, rfl, rfl⟩
  · rw [find?_writeValue hreg, if_neg hr]

theorem getRecordId_congr {s' : VehiclePropertyStore} (h : s'.mConfigs = s.mConfigs) (v : VehiclePropValue) :
    s'.getRecordIdLocked v = s.getRecordIdLocked v := by
  unfold getRecordIdLocked
  rw [h]

/-- Clearing frames leaves every other record as it was. -/
theorem clearFrames_frame (h : Recorded s) (timestamps : List Int64) :
    (clearFrames s timestamps).1.mConfigs = s.mConfigs ∧ ∀ r, r.prop ≠ OBD2_FREEZE_FRAME →
      (clearFrames s timestamps).1.mPropertyValues.find? r = s.mPropertyValues.find? r := by
  induction timestamps generalizing s with
  | nil => exact ⟨rfl, fun r _ => rfl⟩
  | cons t timestamps ih =>
    rw [clearFrames]
    cases hframe : s.readRecordOrNull OBD2_FREEZE_FRAME 0 t with
    | none => exact ⟨rfl, fun r _ => rfl⟩
    | some frame =>
      obtain ⟨hconfigs, hfind⟩ := ih (h.removeValue frame)
      refine ⟨hconfigs, fun r hr => (hfind r hr).trans ?_⟩
      have hprop : frame.prop = OBD2_FREEZE_FRAME := h.prop _ _ hframe
      have hreg : s.mConfigs.lookup frame.prop ≠ none := by
        rw [hprop]
        exact h.registered _ _ hframe
      rw [removeValue, SortedMap.find?_erase, if_neg]
      rintro rfl
      rw [h.getRecordId hreg] at hr
      exact hr hprop

end Writes

/-! ### What the subscribers were told -/

/-- The last event about the record that a request is for. -/
def lastEvent (hal : EmulatedVehicleHal) (request : VehiclePropValue) : Option VehiclePropValue :=
  (hal.halEvents.filter fun e =>
    hal.mPropStore.getRecordIdLocked e = hal.mPropStore.getRecordIdLocked request).getLast?

/-- Of every record about which there was an event, the store has what the last one said. -/
def Informed (hal : EmulatedVehicleHal) : Prop :=
  ∀ r e, r.prop ≠ OBD2_FREEZE_FRAME →
    (hal.halEvents.filter fun e => hal.mPropStore.getRecordIdLocked e = r).getLast? = some e →
    ∃ v, hal.mPropStore.mPropertyValues.find? r = some v ∧ v.value = e.value ∧ v.timestamp = e.timestamp

section Events
variable {hal : EmulatedVehicleHal}

theorem Informed.onPropertyValue (h : Informed hal) (q : VehiclePropValue) (updateStatus : Bool) :
    Informed (hal.onPropertyValue q updateStatus) := by
  have hid := getRecordId_congr (mConfigs_writeValue (s := hal.mPropStore) q updateStatus)
  cases haccepted : (hal.mPropStore.writeValue q updateStatus).2 with
  | false =>
    have hsame : hal.onPropertyValue q updateStatus = hal := by
      unfold EmulatedVehicleHal.onPropertyValue
      have hstore := writeValue_refused haccepted
      split <;> simp_all
    rwa [hsame]
  | true =>
    have hevents : hal.onPropertyValue q updateStatus =
        { hal with mPropStore := (hal.mPropStore.writeValue q updateStatus).1,
                   halEvents := hal.halEvents ++ [q] } := by
      unfold EmulatedVehicleHal.onPropertyValue
      split <;> simp_all
    obtain ⟨⟨v, hv, hvalue, hts⟩, hothers⟩ := writeValue_accepted haccepted
    rw [hevents]
    intro r e hr he
    simp only [hid, List.filter_append] at he
    by_cases hq : hal.mPropStore.getRecordIdLocked q = r
    · obtain rfl : q = e := by simpa [hq] using he
      exact ⟨v, hq ▸ hv, hvalue, hts⟩
    · rw [List.filter_cons_of_neg (by simpa using hq), List.filter_nil, List.append_nil] at he
      rw [hothers r (Ne.symm hq)]
      exact h r e hr he

theorem Informed.clear (h : Informed hal) (hrec : Recorded hal.mPropStore) (v : VehiclePropValue) :
    Informed (hal.clearObd2FreezeFrames v).1 := by
  have hframe : (hal.clearObd2FreezeFrames v).1.mPropStore.mConfigs = hal.mPropStore.mConfigs ∧
      ∀ r, r.prop ≠ OBD2_FREEZE_FRAME →
        (hal.clearObd2FreezeFrames v).1.mPropStore.mPropertyValues.find? r =
          hal.mPropStore.mPropertyValues.find? r := by
    unfold clearObd2FreezeFrames
    split_ifs
    · refine ⟨rfl, fun r hr => ?_⟩
      rw [hrec.find?_clear, if_neg hr]
    · exact clearFrames_frame hrec _
  have hevents : (hal.clearObd2FreezeFrames v).1.halEvents = hal.halEvents := by
    unfold clearObd2FreezeFrames
    split_ifs <;> rfl
  intro r e hr he
  simp only [hevents, getRecordId_congr hframe.1] at he
  rw [hframe.2 r hr]
  exact h r e hr he

theorem Informed.step (h : Informed hal) (hrec : Recorded hal.mPropStore) (e : Event) :
    Informed (step hal e) := by
  have hreceive : ∀ (hal : EmulatedVehicleHal) sent, Informed hal → Informed (hal.receive sent) :=
    fun hal sent h => receive_inv (fun hal h x _ => h.onPropertyValue x.1 x.2) h
  cases e with
  | elapse now => exact h
  | set v stray =>
    change Informed (hal.set v stray).1
    rcases set_cases hal v stray with ⟨hsame, -⟩ | ⟨-, hclears⟩ | ⟨hsends, -⟩
    · rwa [hsame]
    · rw [hclears]
      exact h.clear hrec v
    · rw [hsends]
      exact hreceive _ _ h
  | setPropertyFromVehicle v stray => exact hreceive _ _ h
  | onFakeValueGenerated v => exact h.onPropertyValue _ _

end Events

/-- The property is read from the store, by its area alone. -/
def Ordinary (prop : PropId) : Prop :=
  prop ≠ OBD2_FREEZE_FRAME ∧ prop ≠ OBD2_FREEZE_FRAME_INFO ∧ EmulatedUserHal.isSupported prop = false

instance : DecidablePred Ordinary := fun prop => inferInstanceAs (Decidable
  (prop ≠ OBD2_FREEZE_FRAME ∧ prop ≠ OBD2_FREEZE_FRAME_INFO ∧ EmulatedUserHal.isSupported prop = false))

theorem get_stored (hal : EmulatedVehicleHal) {request v : VehiclePropValue} (h : Ordinary request.prop)
    (hv : hal.mPropStore.readValueOrNull request = some v) :
    hal.get request = (some { v with timestamp := hal.clock }, .ok) := by
  unfold get
  rw [if_neg h.1, if_neg h.2.1, h.2.2, if_neg Bool.false_ne_true, hv]

/-- After every sequence of events a client that gets an ordinary property is given the value the
    subscribers were last told. -/
theorem subscribers_informed (kVehicleProperties : List PropId) (initial : List VehiclePropValue)
    (mInEmulator : Bool) (clock : Int64) (es : List Event) (request e : VehiclePropValue)
    (hprop : Ordinary request.prop)
    (hlast : (Run.run step (onCreate kVehicleProperties initial mInEmulator clock) es).lastEvent request =
      some e) :
    ∃ v, (Run.run step (onCreate kVehicleProperties initial mInEmulator clock) es).get request =
      (some v, .ok) ∧ v.value = e.value := by
  have hrec := recorded_run kVehicleProperties initial mInEmulator clock es
  have hinformed : ∀ as, Informed (Run.run step (onCreate kVehicleProperties initial mInEmulator clock) as) := by
    intro as
    induction as using List.reverseRecOn with
    | nil => exact fun r e _ he => by simp [Run.run, onCreate] at he
    | append_singleton as a ih =>
      rw [Run.run_append]
      exact ih.step (recorded_run kVehicleProperties initial mInEmulator clock as) a
  have hr : ∀ s : VehiclePropertyStore, (s.getRecordIdLocked request).prop ≠ OBD2_FREEZE_FRAME := by
    intro s
    unfold getRecordIdLocked
    split
    · decide
    · exact hprop.1
  obtain ⟨v, hv, hvalue, -⟩ := hinformed es _ e (hr _) hlast
  exact ⟨_, get_stored _ hprop hv, hvalue⟩

/-- The fan of the front left seat. -/
def fan (timestamp : Int64) (speed : Int32) : VehiclePropValue :=
  ⟨timestamp, 1, HVAC_FAN_SPEED, .available, ⟨[speed], [], [], [], ""⟩⟩

/-- The fan is set after start. -/
def fanSet : List Event := [.elapse 5, .set (fan 0 3) {}]

theorem subscribers_informed_fan :
    ∃ v, (Run.run step (onCreate [HVAC_FAN_SPEED] [fan 0 1] false 0) fanSet).get (fan 0 0) = (some v, .ok) ∧
      v.value = (fan 5 3).value :=
  subscribers_informed _ _ _ _ _ (fan 0 0) (fan 5 3) (by decide) (by decide)

/-! ### Dates

Nothing in the HAL is dated after its clock, as long as what comes with a timestamp of its own is not. -/

/-- One of the responses stored by lshal. -/
def Response (user : EmulatedUserHal) (w : VehiclePropValue) : Prop :=
  w ∈ user.mInitialUserResponseFromCmd ∨ w ∈ user.mSwitchUserResponseFromCmd ∨
    w ∈ user.mCreateUserResponseFromCmd ∨ w ∈ user.mSetUserIdentificationAssociationResponseFromCmd

structure InTime (hal : EmulatedVehicleHal) : Prop where
  records : ∀ r v, hal.mPropStore.mPropertyValues.find? r = some v → v.timestamp ≤ hal.clock
  responses : ∀ v, Response hal.mEmulatedUserHal v → v.timestamp ≤ hal.clock

def forTest : List PropId :=
  [kSetIntPropertyFromVehicleForTest, kSetFloatPropertyFromVehicleForTest,
    kSetBooleanPropertyFromVehicleForTest]

/-- The timestamps that are not the HAL's own: of a response stored by lshal, of a value set for a test, and of
    a generated value. -/
def Dated (hal : EmulatedVehicleHal) : Event → Prop
  | .elapse _ => True
  | .set v stray => (EmulatedUserHal.isSupported v.prop = true → v.timestamp ≤ hal.clock) ∧
      (v.prop ∈ forTest → v.value.int64Values.getD 0 stray.int64 ≤ hal.clock)
  | .setPropertyFromVehicle v stray =>
    v.prop ∈ forTest → v.value.int64Values.getD 0 stray.int64 ≤ hal.clock
  | .onFakeValueGenerated v => v.timestamp ≤ hal.clock

section Dates
variable {now : Int64} {user : EmulatedUserHal} {v : VehiclePropValue}

theorem sendUserHalResponse_timestamp {response w : VehiclePropValue} {requestId : Int32}
    (h : EmulatedUserHal.sendUserHalResponse response requestId = .ok (some w)) :
    w.timestamp = response.timestamp := by
  unfold EmulatedUserHal.sendUserHalResponse at h
  simp only at h
  split_ifs at h
  all_goals
    obtain rfl := Option.some.inj (Except.ok.inj h)
    rfl

/-- A setter stores and sends nothing that is dated later than what it is given. -/
theorem onSetResponse_dated {stored : Option VehiclePropValue} (keep : Bool)
    {reply : Int32 → List Int32 → UserResult} (hstored : ∀ w ∈ stored, w.timestamp ≤ now)
    (hv : v.timestamp ≤ now)
    (hreply : ∀ requestId rest w, reply requestId rest = .ok (some w) → w.timestamp ≤ now) :
    (∀ w ∈ (EmulatedUserHal.onSetResponse stored keep reply v).1, w.timestamp ≤ now) ∧
      ∀ w, (EmulatedUserHal.onSetResponse stored keep reply v).2 = .ok (some w) → w.timestamp ≤ now := by
  unfold EmulatedUserHal.onSetResponse
  split
  · exact ⟨hstored, by simp⟩
  next requestId rest _ =>
    by_cases harea : v.areaId ≠ 0
    · rw [if_pos harea]
      refine ⟨fun w hw => ?_, by simp⟩
      obtain rfl : v = w := Option.some.inj hw
      exact hv
    · rw [if_neg harea]
      cases stored with
      | none => exact ⟨by simp, hreply requestId rest⟩
      | some response =>
        have hresponse := hstored response rfl
        refine ⟨fun w hw => ?_, fun w hw => ?_⟩
        · cases keep with
          | false => simp at hw
          | true => exact hstored w hw
        · rw [sendUserHalResponse_timestamp hw]
          exact hresponse

theorem defaultReply_dated (prop : PropId) (int32Values : List Int32) (w : VehiclePropValue)
    (h : EmulatedUserHal.defaultReply prop now int32Values = .ok (some w)) : w.timestamp ≤ now := by
  obtain rfl := Option.some.inj (Except.ok.inj h)
  exact Int64.le_refl now

theorem userHal_dated (huser : ∀ w, Response user w → w.timestamp ≤ now) (hv : v.timestamp ≤ now) :
    (∀ w, Response (user.onSetProperty now v).1 w → w.timestamp ≤ now) ∧
      ∀ w, (user.onSetProperty now v).2 = .ok (some w) → w.timestamp ≤ now := by
  simp only [Response, or_imp, forall_and] at huser ⊢
  obtain ⟨hinitial, hswitch, hcreate, hassociation⟩ := huser
  unfold EmulatedUserHal.onSetProperty
  split_ifs
  · obtain ⟨hkept, hsent⟩ := onSetResponse_dated false hinitial hv
      fun requestId _ w => defaultReply_dated INITIAL_USER_INFO [requestId, 0] w
    exact ⟨⟨hkept, hswitch, hcreate, hassociation⟩, hsent⟩
  · have hreply : ∀ requestId (rest : List Int32) w, (if rest.head? = some 1 ∨ rest.head? = some 5 then .ok none
        else EmulatedUserHal.defaultReply SWITCH_USER now [requestId, 3, 1] : UserResult) = .ok (some w) →
        w.timestamp ≤ now := by
      intro requestId rest w hw
      split_ifs at hw
      · cases hw
      · exact defaultReply_dated SWITCH_USER [requestId, 3, 1] w hw
    obtain ⟨hkept, hsent⟩ := onSetResponse_dated false hswitch hv hreply
    exact ⟨⟨hinitial, hkept, hcreate, hassociation⟩, hsent⟩
  · obtain ⟨hkept, hsent⟩ := onSetResponse_dated false hcreate hv
      fun requestId _ w => defaultReply_dated CREATE_USER [requestId, 1] w
    exact ⟨⟨hinitial, hswitch, hkept, hassociation⟩, hsent⟩
  · exact ⟨⟨hinitial, hswitch, hcreate, hassociation⟩, by simp⟩
  · have hreply : ∀ (_ : Int32) (_ : List Int32) w, (.error .notAvailable : UserResult) = .ok (some w) →
        w.timestamp ≤ now := by simp
    obtain ⟨hkept, hsent⟩ := onSetResponse_dated true hassociation hv hreply
    exact ⟨⟨hinitial, hswitch, hcreate, hkept⟩, hsent⟩
  · exact ⟨⟨hinitial, hswitch, hcreate, hassociation⟩, by simp⟩

theorem fakeData_dated {stray : Stray} (huser : ∀ w, Response user w → w.timestamp ≤ now) :
    (∀ w, Response (VehicleHalServer.handleGenerateFakeDataRequest user now v stray).user w →
        w.timestamp ≤ now) ∧
      ∀ x ∈ (VehicleHalServer.handleGenerateFakeDataRequest user now v stray).sent, x.1.timestamp ≤ now := by
  unfold VehicleHalServer.handleGenerateFakeDataRequest
  dsimp only
  split
  · exact ⟨huser, by simp⟩
  · split_ifs
    all_goals
      refine ⟨huser, fun x hx => ?_⟩
      simp only [List.not_mem_nil, List.mem_cons, or_false] at hx
    rcases hx with rfl | rfl
    · exact Int64.le_refl now
    · exact Int64.le_refl now

/-- Requests of the power state are about one property. -/
theorem powerStateReq_sent {report : Int32} {x : VehiclePropValue × Bool}
    (hx : x ∈ VehicleHalServer.powerStateReq now report) :
    x.1.prop = AP_POWER_STATE_REQ ∧ x.1.timestamp = now := by
  unfold VehicleHalServer.powerStateReq at hx
  dsimp only at hx
  split_ifs at hx
  · obtain rfl := List.mem_singleton.mp hx
    exact ⟨rfl, rfl⟩
  · obtain rfl := List.mem_singleton.mp hx
    exact ⟨rfl, rfl⟩
  · cases hx

/-- The server sends nothing that is dated after the clock. -/
theorem onSetProperty_dated (updateStatus : Bool) {stray : Stray}
    (huser : ∀ w, Response user w → w.timestamp ≤ now)
    (hv : EmulatedUserHal.isSupported v.prop = true → v.timestamp ≤ now)
    (htest : v.prop ∈ forTest → v.value.int64Values.getD 0 stray.int64 ≤ now) :
    (∀ w, Response (VehicleHalServer.onSetProperty user now v updateStatus stray).user w → w.timestamp ≤ now) ∧
      ∀ x ∈ (VehicleHalServer.onSetProperty user now v updateStatus stray).sent, x.1.timestamp ≤ now := by
  unfold VehicleHalServer.onSetProperty
  by_cases hsupported : EmulatedUserHal.isSupported v.prop = true
  · rw [if_pos hsupported]
    obtain ⟨hkept, hsent⟩ := userHal_dated huser (hv hsupported)
    split
    next heq => exact ⟨fun w hw => hkept w (by rwa [heq]), by simp⟩
    next heq => exact ⟨fun w hw => hkept w (by rwa [heq]), by simp⟩
    next updatedValue heq =>
      refine ⟨fun w hw => hkept w (by rwa [heq]), fun x hx => ?_⟩
      obtain rfl := List.mem_singleton.mp hx
      exact hsent updatedValue (by rw [heq])
  rw [if_neg hsupported]
  by_cases hgenerate : v.prop = kGenerateFakeDataControllingProperty
  · rw [if_pos hgenerate]
    exact fakeData_dated huser
  rw [if_neg hgenerate]
  split_ifs with hint hfloat hboolean hreport
  · refine ⟨huser, fun x hx => ?_⟩
    obtain rfl := List.mem_singleton.mp hx
    exact htest (by rw [hint]; decide)
  · refine ⟨huser, fun x hx => ?_⟩
    obtain rfl := List.mem_singleton.mp hx
    exact htest (by rw [hfloat]; decide)
  · refine ⟨huser, fun x hx => ?_⟩
    obtain rfl := List.mem_singleton.mp hx
    exact htest (by rw [hboolean]; decide)
  · refine ⟨huser, fun x hx => ?_⟩
    rcases List.mem_append.mp hx with hx | hx
    · rw [(powerStateReq_sent hx).2]
      exact Int64.le_refl now
    · obtain rfl := List.mem_singleton.mp hx
      exact Int64.le_refl now
  · refine ⟨huser, fun x hx => ?_⟩
    obtain rfl := List.mem_singleton.mp hx
    exact Int64.le_refl now

end Dates

/-! ### Reading back -/

section Steps
variable {hal : EmulatedVehicleHal}

theorem writeValue_dated {s : VehiclePropertyStore} {now : Int64}
    (h : ∀ r v, s.mPropertyValues.find? r = some v → v.timestamp ≤ now) {q : VehiclePropValue}
    (hq : q.timestamp ≤ now) (updateStatus : Bool) :
    ∀ r v, (s.writeValue q updateStatus).1.mPropertyValues.find? r = some v → v.timestamp ≤ now := by
  intro r v hv
  by_cases hreg : s.mConfigs.lookup q.prop = none
  · rw [writeValue_unregistered hreg] at hv
    exact h r v hv
  · rw [find?_writeValue hreg] at hv
    split_ifs at hv
    · obtain rfl := Option.some.inj hv
      rcases written_timestamp (o := s.mPropertyValues.find? r) (q := q) updateStatus with hts | ⟨w, hw, heq⟩
      · rwa [hts]
      · rw [heq]
        exact h r w hw
    · exact h r v hv

theorem InTime.onPropertyValue (h : InTime hal) {q : VehiclePropValue} (hq : q.timestamp ≤ hal.clock)
    (updateStatus : Bool) : InTime (hal.onPropertyValue q updateStatus) := by
  refine ⟨fun r v hv => ?_, fun v hv => ?_⟩
  · rw [clock_onPropertyValue]
    rw [mPropStore_onPropertyValue] at hv
    exact writeValue_dated h.records hq updateStatus r v hv
  · rw [clock_onPropertyValue]
    rw [user_onPropertyValue] at hv
    exact h.responses v hv

theorem receive_inTime (h : InTime hal) {sent : List (VehiclePropValue × Bool)}
    (hsent : ∀ x ∈ sent, x.1.timestamp ≤ hal.clock) : InTime (hal.receive sent) := by
  have hboth : InTime (hal.receive sent) ∧ (hal.receive sent).clock = hal.clock := by
    refine receive_inv (fun hal' (h' : InTime hal' ∧ hal'.clock = hal.clock) x hx => ?_) ⟨h, rfl⟩
    obtain ⟨h', hclock⟩ := h'
    refine ⟨h'.onPropertyValue ?_ x.2, (clock_onPropertyValue _ _ _).trans hclock⟩
    rw [hclock]
    exact hsent x hx
  exact hboth.1

theorem InTime.setProperty (h : InTime hal) {v : VehiclePropValue} {updateStatus : Bool} {stray : Stray}
    (hv : EmulatedUserHal.isSupported v.prop = true → v.timestamp ≤ hal.clock)
    (htest : v.prop ∈ forTest → v.value.int64Values.getD 0 stray.int64 ≤ hal.clock) :
    InTime (hal.setProperty v updateStatus stray).1 := by
  obtain ⟨hkept, hsent⟩ := onSetProperty_dated updateStatus h.responses hv htest
  have hstart : InTime { hal with mEmulatedUserHal :=
      (VehicleHalServer.onSetProperty hal.mEmulatedUserHal hal.clock v updateStatus stray).user } :=
    ⟨h.records, hkept⟩
  exact receive_inTime hstart hsent

theorem InTime.clear (h : InTime hal) (v : VehiclePropValue) : InTime (hal.clearObd2FreezeFrames v).1 := by
  have hrecords : ∀ r w, (hal.clearObd2FreezeFrames v).1.mPropStore.mPropertyValues.find? r = some w →
      w.timestamp ≤ hal.clock := by
    refine clear_store_inv (fun s w (hs : ∀ r v, s.mPropertyValues.find? r = some v → v.timestamp ≤ hal.clock) =>
      ?_) (fun s hs => ?_) v h.records
    · intro r u hu
      rw [removeValue, SortedMap.find?_erase] at hu
      split_ifs at hu
      exact hs r u hu
    · intro r u hu
      rw [removeValuesForProperty, SortedMap.find?_eraseRange _ (findRange_le freezeFrame_ne_max)] at hu
      split_ifs at hu
      exact hs r u hu
  have hrest : (hal.clearObd2FreezeFrames v).1.clock = hal.clock ∧
      (hal.clearObd2FreezeFrames v).1.mEmulatedUserHal = hal.mEmulatedUserHal := by
    unfold clearObd2FreezeFrames
    split_ifs <;> exact ⟨rfl, rfl⟩
  refine ⟨fun r w hw => ?_, fun w hw => ?_⟩
  · rw [hrest.1]
    exact hrecords r w hw
  · rw [hrest.1]
    rw [hrest.2] at hw
    exact h.responses w hw

theorem InTime.step (h : InTime hal) {e : Event} (hdated : Dated hal e) : InTime (step hal e) := by
  cases e with
  | elapse now =>
    have hle : hal.clock ≤ if hal.clock ≤ now then now else hal.clock := by
      split_ifs with hnow
      · exact hnow
      · exact Int64.le_refl _
    exact ⟨fun r v hv => Int64.le_trans (h.records r v hv) hle,
      fun v hv => Int64.le_trans (h.responses v hv) hle⟩
  | set v stray =>
    change InTime (hal.set v stray).1
    rcases set_cases hal v stray with ⟨hsame, -⟩ | ⟨-, hclears⟩ | ⟨hsends, -⟩
    · rwa [hsame]
    · rw [hclears]
      exact h.clear v
    · rw [hsends]
      exact h.setProperty hdated.1 hdated.2
  | setPropertyFromVehicle v stray =>
    exact h.setProperty (fun _ => Int64.le_refl _) hdated
  | onFakeValueGenerated v =>
    exact h.onPropertyValue (q := { v with status := .available }) hdated true

/-! ### Reading back -/

/-- A set that goes to the car and comes back as it was. `VehicleHalManager::set` lets only properties of the
    HAL pass. -/
def Plain (hal : EmulatedVehicleHal) (v : VehiclePropValue) : Prop :=
  hal.mPropStore.mConfigs.lookup v.prop ≠ none ∧ Ordinary v.prop ∧
    v.prop ∉ [OBD2_FREEZE_FRAME_CLEAR, VEHICLE_MAP_SERVICE, kGenerateFakeDataControllingProperty] ∧
    v.prop ∉ forTest ∧ ¬ (hal.mInEmulator = true ∧ v.prop = DISPLAY_BRIGHTNESS)

/-- A plain set that is answered `OK` is read back, as an available value. -/
def ReadsBack (hal : EmulatedVehicleHal) (e : Event) (hal' : EmulatedVehicleHal) : Prop :=
  ∀ v stray, e = .set v stray → Plain hal v → (hal.set v stray).2 = .ok →
    ∀ request, request.prop = v.prop → request.areaId = v.areaId →
      ∃ w, hal'.get request = (some w, .ok) ∧ w.value = v.value ∧ w.status = .available

/-- The car sends a plain value back, after its request of the power state. -/
theorem onSetProperty_plain {v : VehiclePropValue} (h : Plain hal v) (stray : Stray) :
    ∃ reqs, VehicleHalServer.onSetProperty hal.mEmulatedUserHal hal.clock v false stray =
        { user := hal.mEmulatedUserHal
          sent := reqs ++ [({ v with timestamp := hal.clock }, false)] } ∧
      ∀ x ∈ reqs, x.1.prop = AP_POWER_STATE_REQ ∧ v.prop = AP_POWER_STATE_REPORT := by
  obtain ⟨-, ⟨-, -, huser⟩, hspecial, htest, -⟩ := h
  simp only [forTest, List.mem_cons, List.not_mem_nil, or_false, not_or] at hspecial htest
  unfold VehicleHalServer.onSetProperty
  rw [huser, if_neg Bool.false_ne_true, if_neg hspecial.2.2, if_neg htest.1, if_neg htest.2.1,
    if_neg htest.2.2]
  refine ⟨_, rfl, fun x hx => ?_⟩
  split_ifs at hx with hreport
  · exact ⟨(powerStateReq_sent hx).1, hreport⟩
  · cases hx

/-- A record does not depend on the time of a value that is no freeze frame. -/
theorem getRecordId_eq {s : VehiclePropertyStore} (h : Recorded s) {v : VehiclePropValue}
    (request : VehiclePropValue) (hreg : s.mConfigs.lookup v.prop ≠ none) (hprop : request.prop = v.prop) (harea : request.areaId = v.areaId)
    (hframe : v.prop ≠ OBD2_FREEZE_FRAME) : s.getRecordIdLocked request = s.getRecordIdLocked v := by
  rw [h.getRecordId hreg, h.getRecordId (by rwa [hprop]), hprop, harea, if_neg hframe, if_neg hframe]

/-- Values about other properties leave a record as it was. -/
theorem receive_other {sent : List (VehiclePropValue × Bool)} {r : RecordId} (hrec : Recorded hal.mPropStore)
    (hother : ∀ x ∈ sent, x.1.prop ≠ r.prop) :
    Recorded (hal.receive sent).mPropStore ∧
      (hal.receive sent).mPropStore.mConfigs = hal.mPropStore.mConfigs ∧
      (hal.receive sent).mPropStore.mPropertyValues.find? r = hal.mPropStore.mPropertyValues.find? r ∧
      (hal.receive sent).clock = hal.clock := by
  refine receive_inv (fun hal' (h : Recorded hal'.mPropStore ∧
    hal'.mPropStore.mConfigs = hal.mPropStore.mConfigs ∧
    hal'.mPropStore.mPropertyValues.find? r = hal.mPropStore.mPropertyValues.find? r ∧
    hal'.clock = hal.clock) x hx => ?_) ⟨hrec, rfl, rfl, rfl⟩
  obtain ⟨hrec', hconfigs, hfind, hclock⟩ := h
  rw [mPropStore_onPropertyValue, clock_onPropertyValue]
  refine ⟨hrec'.writeValue _ _, (mConfigs_writeValue _ _).trans hconfigs, ?_, hclock⟩
  by_cases hreg : hal'.mPropStore.mConfigs.lookup x.1.prop = none
  · rwa [writeValue_unregistered hreg]
  · rw [find?_writeValue hreg, if_neg, hfind]
    rintro rfl
    refine hother x hx ?_
    rw [hrec'.getRecordId hreg]

theorem set_readsBack {v : VehiclePropValue} {stray : Stray} (hrec : Recorded hal.mPropStore)
    (htime : InTime hal) (hplain : Plain hal v) (hok : (hal.set v stray).2 = .ok) {request : VehiclePropValue}
    (hprop : request.prop = v.prop) (harea : request.areaId = v.areaId) :
    ∃ w, (hal.set v stray).1.get request = (some w, .ok) ∧ w.value = v.value ∧ w.status = .available := by
  obtain ⟨reqs, hserver, hreqs⟩ := onSetProperty_plain hplain stray
  obtain ⟨hreg, hordinary, hspecial, -, hdisplay⟩ := hplain
  simp only [List.mem_cons, List.not_mem_nil, or_false, not_or] at hspecial
  rcases set_cases hal v stray with ⟨-, hkept⟩ | ⟨hclear, -⟩ | ⟨hsends, hgenerate | ⟨-, w, hw, hstatus⟩⟩
  · rcases hkept hok with hvms | hbright
    · exact absurd hvms hspecial.2.1
    · exact absurd hbright hdisplay
  · exact absurd hclear hspecial.1
  · exact absurd hgenerate hspecial.2.2
  · -- The request of the power state is about another property, and the value is not older than its record.
    have hid := hrec.getRecordId hreg
    have hother : ∀ x ∈ reqs, x.1.prop ≠ (hal.mPropStore.getRecordIdLocked v).prop := by
      intro x hx heq
      obtain ⟨hreq, hreport⟩ := hreqs x hx
      have hne : AP_POWER_STATE_REQ ≠ AP_POWER_STATE_REPORT := by decide
      rw [hid, hreq, hreport] at heq
      exact hne heq
    obtain ⟨hrec', hconfigs, hfind, hclock⟩ := receive_other hrec hother
    have hreg' : (hal.receive reqs).mPropStore.mConfigs.lookup v.prop ≠ none := by rwa [hconfigs]
    have hset : (hal.set v stray).1 = (hal.receive reqs).onPropertyValue { v with timestamp := hal.clock } false := by
      rw [hsends, EmulatedVehicleHal.setProperty, hserver, receive, List.foldl_append]
      rfl
    have hnew : (hal.receive reqs).mPropStore.getRecordIdLocked { v with timestamp := hal.clock } =
        hal.mPropStore.getRecordIdLocked v := by
      have hsame := getRecordId_eq hrec' { v with timestamp := hal.clock } hreg' rfl rfl hordinary.1
      exact hsame.trans (getRecordId_congr hconfigs v)
    have hold : ¬ hal.clock < w.timestamp := Int64.not_lt.mpr (htime.records _ w hw)
    have hwrite := writeValue_again (q := { v with timestamp := hal.clock }) (v := w) hreg'
      (by rw [hnew, hfind]; exact hw) false
    have hstored : (hal.set v stray).1.mPropStore.readValueOrNull request =
        some (updated w { v with timestamp := hal.clock } false) := by
      rw [hset, mPropStore_onPropertyValue, readValueOrNull, getValueOrNullLocked,
        getRecordId_congr (mConfigs_writeValue _ _), getRecordId_eq hrec' request hreg' hprop harea hordinary.1,
        getRecordId_congr hconfigs, hwrite, if_neg hold, hnew, SortedMap.find?_put, if_pos rfl]
    exact ⟨_, get_stored _ (hprop ▸ hordinary) hstored, rfl, hstatus⟩

end Steps

/-- As long as nothing comes with a timestamp after the clock, every plain set that is answered `OK` is read
    back. -/
theorem sets_read_back (kVehicleProperties : List PropId) (initial : List VehiclePropValue)
    (mInEmulator : Bool) (clock : Int64) (hinitial : ∀ v ∈ initial, v.timestamp ≤ clock) (es : List Event)
    (hdated : Run.Meets step Dated (onCreate kVehicleProperties initial mInEmulator clock) es) :
    Run.Always step ReadsBack (onCreate kVehicleProperties initial mInEmulator clock) es := by
  refine Run.always_of_meets (fun hal e (h : Recorded hal.mPropStore ∧ InTime hal) he => ?_) es _ ?_ hdated
  · obtain ⟨hrec, htime⟩ := h
    refine ⟨⟨?_, htime.step he⟩, ?_⟩
    · refine step_store_inv (fun s v updateStatus hs => hs.writeValue v updateStatus) e (fun v _ _ _ => ?_) hrec
      exact clear_store_inv (fun s v hs => hs.removeValue v) (fun s hs => hs.clear) v hrec
    · rintro v stray rfl hplain hok request hprop harea
      exact set_readsBack hrec htime hplain hok hprop harea
  · refine ⟨recorded_run kVehicleProperties initial mInEmulator clock [], ?_, by simp [Response, onCreate]⟩
    have hstored : ∀ r w, (onCreate kVehicleProperties initial mInEmulator clock).mPropStore.mPropertyValues.find? r =
        some w → w.timestamp ≤ clock := by
      refine List.foldlRecOn (motive := fun s : VehiclePropertyStore =>
        ∀ r w, s.mPropertyValues.find? r = some w → w.timestamp ≤ clock) initial _ ?_ fun s hs v hv => ?_
      · intro r w hw
        rw [registered_eq, values_initStaticConfig] at hw
        cases hw
      · exact writeValue_dated hs (hinitial v hv) true
    exact hstored

theorem sets_read_back_fan :
    Run.Always step ReadsBack (onCreate [HVAC_FAN_SPEED] [fan 0 1] false 0) fanSet :=
  sets_read_back _ _ _ _ (by decide) fanSet ⟨trivial, ⟨by decide, by decide⟩, trivial⟩

end ImxHal.Vehicle.EmulatedVehicleHal
