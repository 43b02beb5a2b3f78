import ImxHal.Vehicle.PropertyStore

/-! @src vehicle/common/src/VehicleHalManager.cpp | name:vehicle manager | scheme:run, sorted-map | family:pub-sub

    Events of the HAL wait in a queue for the consumer's thread, which takes them in batches and hands each
    client its share. Clients come and go between the two:

        onHalEvent ──push──▶ mEventQueue ──flush──▶ items ──distributeValuesToClients──▶ client ─▶ values
                             (a batching window)            ▲
        subscribe, unsubscribe, onCallbackDead ─────────────┘ mSubscriptionManager ──▶ the HAL

    A subscription is checked against the property's config first, and its rate is kept within the bounds. -/

namespace ImxHal.Vehicle

/-! ### The queue

`vehicle/common/include/vhal_v2_0/ConcurrentQueue.h` -/

structure ConcurrentQueue (α : Type) where
  mIsActive : Bool := true
  mQueue : List α := []

namespace ConcurrentQueue
variable {α : Type}

def push (q : ConcurrentQueue α) (item : α) : ConcurrentQueue α :=
  if q.mIsActive then { q with mQueue := q.mQueue ++ [item] } else q

def flush (q : ConcurrentQueue α) : ConcurrentQueue α × List α :=
  if q.mQueue = [] ∨ !q.mIsActive then (q, []) else ({ q with mQueue := [] }, q.mQueue)

def deactivate (q : ConcurrentQueue α) : ConcurrentQueue α := { q with mIsActive := false }

end ConcurrentQueue

/-- `BatchingConsumer::State` -/
inductive ConsumerState where | init | running | stopRequested | stopped
  deriving DecidableEq

/-- How far the consumer's thread is in `runInternal`. -/
inductive Stage where | starts | checks | flushes | handsOut | ended
  deriving DecidableEq

/-! ### Configs -/

/-- Access and change mode are tested for their bits. -/
structure VehiclePropConfig (Rate : Type) where
  prop : PropId
  access : BitVec 32
  changeMode : BitVec 32
  minSampleRate : Rate
  maxSampleRate : Rate
  deriving DecidableEq

section Model
variable {Rate : Type} [LinearOrder Rate] [Zero Rate]

namespace VehiclePropConfig

def READ : BitVec 32 := 1
def WRITE : BitVec 32 := 2
def STATIC : BitVec 32 := 0
def ON_CHANGE : BitVec 32 := 1

variable (config : VehiclePropConfig Rate)

def isSampleRateFixed : Bool := config.changeMode &&& ON_CHANGE ≠ 0

def checkSampleRate (sampleRate : Rate) : Rate :=
  if config.isSampleRateFixed then 0
  else if config.maxSampleRate < sampleRate then config.maxSampleRate
  else if sampleRate < config.minSampleRate then config.minSampleRate
  else sampleRate

def isSubscribable (flags : SubscribeFlags) : Bool :=
  if config.access &&& READ = 0 ∧ EVENTS_FROM_CAR &&& flags ≠ 0 then false
  else if config.changeMode = STATIC then false
  else true

def checkWritePermission : Bool := config.access &&& WRITE ≠ 0

end VehiclePropConfig

/-- `VehiclePropConfigIndex`: of two configs for a property the last one counts. -/
def getPropConfigOrNull (configs : List (VehiclePropConfig Rate)) (prop : PropId) :
    Option (VehiclePropConfig Rate) := configs.reverse.find? fun config => config.prop = prop

/-- A call of a client's callback. -/
inductive Notice where
  | onPropertyEvent (values : List VehiclePropValue)
  | onPropertySet (value : VehiclePropValue)
  | onPropertySetError (errorCode : Int32) (property : PropId) (areaId : Int32)
  deriving DecidableEq

namespace SubscriptionManager

/-- `clientValuesMap[client].push_back(v)` -/
def pushValue (v : VehiclePropValue) (m : SortedMap ℕ (List VehiclePropValue)) (client : ℕ) :
    SortedMap ℕ (List VehiclePropValue) := m.put client ((m.find? client).getD [] ++ [v])

def distributeValuesToClients (s : SubscriptionManager Rate) (propValues : List VehiclePropValue)
    (flags : SubscribeFlags) : SortedMap ℕ (List VehiclePropValue) :=
  propValues.foldl (fun m v => (s.getSubscribedClients v.prop flags).foldl (pushValue v) m) .empty

/-- What is called at the callback of a client. -/
def callback (s : SubscriptionManager Rate) (notice : Notice) (client : ℕ) : Option (ClientId × Notice) :=
  (s.halClients[client]?).map fun halClient => (halClient.mCallback, notice)

end SubscriptionManager

/-! ### The manager -/

/-- `items` are flushed and not handed out yet; `calls` are made to the HAL, `sent` to the clients. -/
structure VehicleHalManager (Rate : Type) where
  mSubscriptionManager : SubscriptionManager Rate := ⟨[], ∅, ∅, ∅⟩
  mEventQueue : ConcurrentQueue VehiclePropValue := {}
  mState : ConsumerState := .init
  stage : Stage := .starts
  items : List VehiclePropValue := []
  calls : List (HalCall Rate) := []
  sent : List (ClientId × Notice) := []

namespace VehicleHalManager

/-- A subscription with its rate corrected, if it is one that may be made. -/
def verify (configs : List (VehiclePropConfig Rate)) (ops : SubscribeOptions Rate) :
    Option (SubscribeOptions Rate) :=
  match getPropConfigOrNull configs ops.propId with
  | none => none
  | some config =>
    if ops.flags = 0 then none
    else if config.isSubscribable ops.flags then
      some { ops with sampleRate := config.checkSampleRate ops.sampleRate }
    else none

inductive Event (Rate : Type) where
  | subscribe (clientId : ClientId) (options : List (SubscribeOptions Rate))
  | unsubscribe (clientId : ClientId) (propId : PropId)
  | clientDied (clientId : ClientId)
  | set (value : VehiclePropValue)
  | halEvent (value : VehiclePropValue)
  | halPropertySetError (errorCode : Int32) (property : PropId) (areaId : Int32)
  /-- The next turn of the consumer's thread. -/
  | consumer
  /-- The calls of the destructor. -/
  | requestStop
  | deactivate

variable (configs : List (VehiclePropConfig Rate))

/-- One bad option refuses them all. -/
def request : Event Rate → Option (Vehicle.Event Rate)
  | .subscribe clientId options => (options.mapM (verify configs)).map (.subscribe clientId)
  | .unsubscribe clientId propId => some (.unsubscribe clientId propId)
  | .clientDied clientId => some (.clientDied clientId)
  | _ => none

/-- A request as it reaches the subscription manager, and what that asks of the HAL. -/
def carryOut (m : VehicleHalManager Rate) (e : Option (Vehicle.Event Rate)) : VehicleHalManager Rate :=
  match e with
  | none => m
  | some e =>
    let r := exec m.mSubscriptionManager e
    { m with mSubscriptionManager := r.1, calls := m.calls ++ r.2 }

/-- The same call at every subscribed client. -/
def notify (m : VehicleHalManager Rate) (prop : PropId) (flags : SubscribeFlags) (notice : Notice) :
    VehicleHalManager Rate :=
  let clients := m.mSubscriptionManager.getSubscribedClients prop flags
  { m with sent := m.sent ++ clients.filterMap (m.mSubscriptionManager.callback notice) }

def onBatchHalEvent (m : VehicleHalManager Rate) (values : List VehiclePropValue) : VehicleHalManager Rate :=
  let clientValues := m.mSubscriptionManager.distributeValuesToClients values EVENTS_FROM_CAR
  let notices := clientValues.entries.filterMap fun cv =>
    m.mSubscriptionManager.callback (.onPropertyEvent cv.2) cv.1
  { m with sent := m.sent ++ notices }

/-- A wait without items is a turn that changes nothing. -/
def runInternal (m : VehicleHalManager Rate) : VehicleHalManager Rate :=
  match m.stage with
  | .starts =>
    if m.mState = .init then { m with mState := .running, stage := .checks }
    else { m with mState := .stopped, stage := .ended }
  | .checks =>
    if m.mState ≠ .running then { m with mState := .stopped, stage := .ended }
    else if m.mEventQueue.mQueue = [] ∧ m.mEventQueue.mIsActive then m
    else { m with stage := .flushes }
  | .flushes =>
    let (mEventQueue, items) := m.mEventQueue.flush
    { m with mEventQueue, items, stage := if items = [] then .checks else .handsOut }
  | .handsOut => { m.onBatchHalEvent m.items with items := [], stage := .checks }
  | .ended => m

def step (m : VehicleHalManager Rate) : Event Rate → VehicleHalManager Rate
  | .set value =>
    match getPropConfigOrNull configs value.prop with
    | none => m
    | some config =>
      if config.checkWritePermission then m.notify value.prop EVENTS_FROM_ANDROID (.onPropertySet value)
      else m
  | .halEvent value => { m with mEventQueue := m.mEventQueue.push value }
  | .halPropertySetError errorCode property areaId =>
    m.notify property EVENTS_FROM_CAR (.onPropertySetError errorCode property areaId)
  | .consumer => m.runInternal
  | .requestStop => { m with mState := .stopRequested }
  | .deactivate => { m with mEventQueue := m.mEventQueue.deactivate }
  | e => m.carryOut (request configs e)

end VehicleHalManager

/-! ### The shares of a batch -/

section Shares
omit [LinearOrder Rate] [Zero Rate]
variable {h : History Rate} {s : SubscriptionManager Rate} {calls : List (HalCall Rate)}
  {flags : SubscribeFlags}

namespace SubscriptionManager

theorem find?_pushAll (v : VehiclePropValue) {clients : List ℕ} (hnodup : clients.Nodup)
    (m : SortedMap ℕ (List VehiclePropValue)) (k : ℕ) : (clients.foldl (pushValue v) m).find? k =
      if k ∈ clients then some ((m.find? k).getD [] ++ [v]) else m.find? k := by
  induction clients generalizing m with
  | nil => rfl
  | cons client clients ih =>
    obtain ⟨hnot, hrest⟩ := List.nodup_cons.mp hnodup
    rw [List.foldl_cons, ih hrest, pushValue, SortedMap.find?_put]
    by_cases hk : k = client
    · subst hk
      simp [hnot]
    · simp [hk]

/-- A client gets the values of the properties it is subscribed to, in their order. -/
theorem find?_distribute (hnodup : ∀ p, (s.getSubscribedClients p flags).Nodup)
    (values : List VehiclePropValue) (k : ℕ) :
    ((s.distributeValuesToClients values flags).find? k).getD [] =
      values.filter fun v => k ∈ s.getSubscribedClients v.prop flags := by
  have hfold : ∀ m : SortedMap ℕ (List VehiclePropValue),
      ((values.foldl (fun m v => (s.getSubscribedClients v.prop flags).foldl (pushValue v) m)
        m).find? k).getD [] =
        (m.find? k).getD [] ++ values.filter fun v => k ∈ s.getSubscribedClients v.prop flags := by
    induction values with
    | nil => intro m; simp
    | cons v values ih =>
      intro m
      rw [List.foldl_cons, ih, find?_pushAll v (hnodup v.prop)]
      by_cases hk : k ∈ s.getSubscribedClients v.prop flags
      · simp [hk]
      · simp [hk]
  have hall := hfold .empty
  rw [SortedMap.find?_empty] at hall
  exact hall

end SubscriptionManager

theorem Linked.getSubscribedClients_nodup (hl : Linked h s) (p : PropId) :
    (s.getSubscribedClients p flags).Nodup :=
  (hl.nodup p).filter _

/-- The clients by the ids they are known by. -/
theorem Linked.mem_clientIds (hl : Linked h s) {c : ClientId} {p : PropId} : c ∈ s.clientIds p flags ↔
    ∃ k, s.mClients.lookup c = some k ∧ k ∈ s.getSubscribedClients p flags := by
  rw [SubscriptionManager.clientIds, List.mem_filterMap]
  constructor
  · rintro ⟨k, hk, hcallback⟩
    obtain ⟨c', hc'⟩ := hl.known p k (List.mem_of_mem_filter hk)
    obtain rfl := Option.some.inj ((hl.object c' k hc').symm.trans hcallback)
    exact ⟨k, hc', hk⟩
  · rintro ⟨k, hc, hk⟩
    exact ⟨k, hk, hl.object c k hc⟩

end Shares

/-! ### What a client receives -/

/-- The manager with the subscriptions that count. -/
abbrev Served (Rate : Type) := VehicleHalManager Rate × History Rate

variable (configs : List (VehiclePropConfig Rate))

def serve (x : Served Rate) (e : VehicleHalManager.Event Rate) : Served Rate :=
  (x.1.step configs e, (VehicleHalManager.request configs e).elim x.2 x.2.record)

def served : Served Rate := ({}, .empty)

section Served
omit [LinearOrder Rate] [Zero Rate]

/-- The values the HAL passes on. -/
def arrived (x : Served Rate) : VehicleHalManager.Event Rate → List VehiclePropValue
  | .halEvent value => if x.1.mEventQueue.mIsActive then [value] else []
  | _ => []

/-- The values of a batch as it is handed out. -/
def handedOut (x : Served Rate) : VehicleHalManager.Event Rate → List VehiclePropValue
  | .consumer => if x.1.stage = .handsOut then x.1.items else []
  | _ => []

/-- Those a client is subscribed to, as they are handed out. -/
def due (c : ClientId) (x : Served Rate) (e : VehicleHalManager.Event Rate) : List VehiclePropValue :=
  (handedOut x e).filter fun v => x.2.SubscribedWith c v.prop EVENTS_FROM_CAR

instance (h : History Rate) (c : ClientId) (p : PropId) : Decidable (h.Subscribed c p) :=
  inferInstanceAs (Decidable (∃ x ∈ h.active, x.1 = c ∧ x.2.propId = p))

/-- With those of properties it has lapsed on and subscribed to again, whatever for. -/
def allowed (c : ClientId) (x : Served Rate) (e : VehicleHalManager.Event Rate) : List VehiclePropValue :=
  (handedOut x e).filter fun v =>
    x.2.SubscribedWith c v.prop EVENTS_FROM_CAR ∨ x.2.lapsed c v.prop ∧ x.2.Subscribed c v.prop

/-- Those the manager takes it to be subscribed to. -/
def share (c : ClientId) (x : Served Rate) (e : VehicleHalManager.Event Rate) : List VehiclePropValue :=
  (handedOut x e).filter fun v => c ∈ x.1.mSubscriptionManager.clientIds v.prop EVENTS_FROM_CAR

end Served

/-- The values of the events sent to a client. -/
def received (c : ClientId) (sent : List (ClientId × Notice)) : List VehiclePropValue :=
  sent.flatMap fun
    | (client, .onPropertyEvent values) => if client = c then values else []
    | _ => []

section Receiving
variable {configs} {c : ClientId} {x : Served Rate} {e : VehicleHalManager.Event Rate} {h : History Rate}
  {s : SubscriptionManager Rate}

omit [LinearOrder Rate] [Zero Rate] in
theorem received_append (c : ClientId) (sent sent' : List (ClientId × Notice)) :
    received c (sent ++ sent') = received c sent ++ received c sent' := List.flatMap_append

omit [LinearOrder Rate] [Zero Rate] in
theorem received_callback (s : SubscriptionManager Rate) (notice : Notice) (k : ℕ) :
    received c (s.callback notice k).toList =
      if (s.halClients[k]?).map (·.mCallback) = some c then received c [(c, notice)] else [] := by
  rw [SubscriptionManager.callback]
  rcases s.halClients[k]? with _ | client
  · rfl
  · by_cases hc : client.mCallback = c
    · simp [hc]
    · cases notice <;> simp [received, hc]

omit [LinearOrder Rate] [Zero Rate] in
/-- Only events count. -/
theorem received_notify (m : VehicleHalManager Rate) (prop : PropId) (flags : SubscribeFlags)
    {notice : Notice} (h : ∀ values, notice ≠ .onPropertyEvent values) :
    received c (m.notify prop flags notice).sent = received c m.sent := by
  have hnil : received c ((m.mSubscriptionManager.getSubscribedClients prop flags).filterMap
      (m.mSubscriptionManager.callback notice)) = [] := by
    refine List.flatMap_eq_nil_iff.mpr fun n hn => ?_
    obtain ⟨k, -, hk⟩ := List.mem_filterMap.mp hn
    obtain ⟨client, -, rfl⟩ := Option.map_eq_some_iff.mp hk
    cases notice with
    | onPropertyEvent values => exact (h values rfl).elim
    | onPropertySet value => rfl
    | onPropertySetError errorCode property areaId => rfl
  rw [VehicleHalManager.notify, received_append, hnil, List.append_nil]

omit [LinearOrder Rate] [Zero Rate] in
/-- A client's share of a batch is what it is told, in one call. -/
theorem received_batch (hl : Linked h s) (values : List VehiclePropValue) :
    received c ((s.distributeValuesToClients values EVENTS_FROM_CAR).entries.filterMap fun cv =>
      s.callback (.onPropertyEvent cv.2) cv.1) =
        values.filter fun v => c ∈ s.clientIds v.prop EVENTS_FROM_CAR := by
  have hfind (k : ℕ) : ((s.distributeValuesToClients values EVENTS_FROM_CAR).find? k).getD [] =
      values.filter fun v => k ∈ s.getSubscribedClients v.prop EVENTS_FROM_CAR :=
    SubscriptionManager.find?_distribute (fun p => hl.getSubscribedClients_nodup p) values k
  generalize s.distributeValuesToClients values EVENTS_FROM_CAR = shares at hfind ⊢
  have hcall : received c (shares.entries.filterMap fun cv => s.callback (.onPropertyEvent cv.2) cv.1) =
      shares.entries.flatMap fun cv =>
        if (s.halClients[cv.1]?).map (·.mCallback) = some c then cv.2 else [] := by
    rw [List.filterMap_eq_flatMap_toList, received, List.flatMap_assoc]
    refine List.flatMap_congr fun cv _ => ?_
    have := received_callback (c := c) s (.onPropertyEvent cv.2) cv.1
    simpa [received] using this
  -- whoever has a value in the shares is linked, so that only one client answers to `c`
  have hnone : ∀ cv ∈ shares.entries, (s.halClients[cv.1]?).map (·.mCallback) = some c → cv.2 ≠ [] →
      s.mClients.lookup c = some cv.1 := by
    intro cv hcv hcallback hne
    have hvalue := hfind cv.1
    rw [SortedMap.find?_eq_some.mpr hcv, Option.getD_some] at hvalue
    obtain ⟨v, hv⟩ := List.exists_mem_of_ne_nil cv.2 hne
    rw [hvalue, List.mem_filter, decide_eq_true_eq] at hv
    obtain ⟨c', hc'⟩ := hl.known v.prop cv.1 (List.mem_of_mem_filter hv.2)
    obtain rfl := Option.some.inj ((hl.object c' cv.1 hc').symm.trans hcallback)
    exact hc'
  rw [hcall]
  simp only [hl.mem_clientIds]
  rcases hc : s.mClients.lookup c with _ | k
  · have hall : values.filter (fun v => decide (∃ k, none = some k ∧
        k ∈ s.getSubscribedClients v.prop EVENTS_FROM_CAR)) = [] := by simp
    rw [hall]
    refine List.flatMap_eq_nil_iff.mpr fun cv hcv => ?_
    split_ifs with hcallback
    · by_contra hne
      have hlooked := hnone cv hcv hcallback hne
      rw [hc] at hlooked
      simp at hlooked
    · rfl
  · rw [SortedMap.flatMap_entries _ k fun cv hcv hne => ?_]
    · have hk := hfind k
      simp only [hl.object c k hc, if_true, Option.map_id', Option.some.injEq, exists_eq_left']
      exact hk
    · split_ifs with hcallback
      · by_contra hvalues
        have hk := hnone cv hcv hcallback hvalues
        rw [hc] at hk
        exact hne (Option.some.inj hk).symm
      · rfl

/-- The subscription manager is linked up with the clients, and nothing is in hand but while it is handed out. -/
structure Served.Sound (x : Served Rate) : Prop where
  subscriptions : Inv x.2 x.1.mSubscriptionManager x.1.calls
  items : x.1.stage = .handsOut ∨ x.1.items = []

omit [Zero Rate] in
theorem sound_served : (served : Served Rate).Sound := ⟨inv_constructed, .inr rfl⟩

/-- What is left of the events: those in hand and those in the queue. -/
def Served.held (x : Served Rate) : List VehiclePropValue := x.1.items ++ x.1.mEventQueue.mQueue

/-- What a step does with the events, and with what `c` is told of them. -/
structure Serves (configs : List (VehiclePropConfig Rate)) (c : ClientId) (x : Served Rate)
    (e : VehicleHalManager.Event Rate) : Prop where
  sound : (serve configs x e).Sound
  held : x.held ++ arrived x e = handedOut x e ++ (serve configs x e).held
  received : received c (serve configs x e).1.sent = received c x.1.sent ++ share c x e

theorem ConcurrentQueue.flush_spec {α : Type} (q : ConcurrentQueue α) :
    q.flush.2 ++ q.flush.1.mQueue = q.mQueue := by
  rw [ConcurrentQueue.flush]
  split_ifs
  · rfl
  · exact List.append_nil _

theorem ConcurrentQueue.push_spec {α : Type} (q : ConcurrentQueue α) (item : α) :
    (q.push item).mQueue = q.mQueue ++ if q.mIsActive then [item] else [] := by
  rw [ConcurrentQueue.push]
  split_ifs
  · rfl
  · exact (List.append_nil _).symm

/-- Most steps neither bring nor hand out anything. -/
theorem serves_quiet (hsound : (serve configs x e).Sound) (hheld : (serve configs x e).held = x.held)
    (hreceived : received c (serve configs x e).1.sent = received c x.1.sent) (hnone : arrived x e = [])
    (hout : handedOut x e = []) : Serves configs c x e := by
  refine ⟨hsound, ?_, ?_⟩
  · rw [hnone, hout, hheld]
    exact List.append_nil _
  · rw [hreceived, share, hout]
    exact (List.append_nil _).symm

/-- A turn of the consumer's thread takes the front of the queue in hand, or hands out what it has. -/
theorem serves_consumer (hx : x.Sound) : Serves configs c x .consumer := by
  have hsubs := hx.subscriptions
  rcases hstage : x.1.stage with _ | _ | _ | _ | _
  case handsOut =>
    have hnext : (serve configs x .consumer).1 =
        { x.1.onBatchHalEvent x.1.items with items := [], stage := .checks } := by
      simp only [serve, VehicleHalManager.step, VehicleHalManager.runInternal, hstage]
    have hout : handedOut x .consumer = x.1.items := by simp only [handedOut, hstage, if_true]
    refine ⟨⟨?_, .inr ?_⟩, ?_, ?_⟩
    · rw [hnext]
      exact hsubs
    · rw [hnext]
    · rw [hout, Served.held, Served.held, hnext]
      exact List.append_nil _
    · rw [hnext, share, hout]
      exact (received_append ..).trans (congrArg _ (received_batch hsubs.links x.1.items))
  all_goals
    have hitems : x.1.items = [] := hx.items.resolve_left (by rw [hstage]; exact Stage.noConfusion)
    have hout : handedOut x .consumer = [] := by simp only [handedOut, hstage, reduceCtorEq, if_false]
  case flushes =>
    have hnext : (serve configs x .consumer).1 =
        { x.1 with
          mEventQueue := x.1.mEventQueue.flush.1
          items := x.1.mEventQueue.flush.2
          stage := if x.1.mEventQueue.flush.2 = [] then .checks else .handsOut } := by
      simp only [serve, VehicleHalManager.step, VehicleHalManager.runInternal, hstage]
    refine serves_quiet ⟨?_, ?_⟩ ?_ ?_ rfl hout
    · rw [hnext]
      exact hsubs
    · rw [hnext]
      by_cases hnone : x.1.mEventQueue.flush.2 = []
      · exact .inr hnone
      · exact .inl (if_neg hnone)
    · rw [Served.held, Served.held, hnext, hitems]
      exact x.1.mEventQueue.flush_spec
    · rw [hnext]
  all_goals
    have hkept : (serve configs x .consumer).1.items = [] ∧
        (serve configs x .consumer).1.mEventQueue = x.1.mEventQueue ∧
        (serve configs x .consumer).1.sent = x.1.sent ∧
        (serve configs x .consumer).1.mSubscriptionManager = x.1.mSubscriptionManager ∧
        (serve configs x .consumer).1.calls = x.1.calls := by
      rw [serve, VehicleHalManager.step, VehicleHalManager.runInternal, hstage]
      dsimp only
      repeat' split
      all_goals exact ⟨hitems, rfl, rfl, rfl, rfl⟩
    obtain ⟨hnone, hqueue, hsent, hmanager, hcalls⟩ := hkept
    refine serves_quiet ⟨?_, .inr hnone⟩ ?_ (by rw [hsent]) rfl hout
    · rw [hmanager, hcalls]
      exact hsubs
    · rw [Served.held, Served.held, hnone, hqueue, hitems]

/-- A request changes the subscriptions only. -/
theorem serves_request (hx : x.Sound)
    (hstep : x.1.step configs e = x.1.carryOut (VehicleHalManager.request configs e))
    (hnone : arrived x e = []) (hout : handedOut x e = []) : Serves configs c x e := by
  have hnext : (serve configs x e).1 = x.1.carryOut (VehicleHalManager.request configs e) := hstep
  have hhistory : (serve configs x e).2 = (VehicleHalManager.request configs e).elim x.2 x.2.record := rfl
  rcases hrequest : VehicleHalManager.request configs e with _ | r
  all_goals rw [hrequest] at hnext hhistory
  case none =>
    have hsame : serve configs x e = x := Prod.ext hnext hhistory
    refine serves_quiet ?_ ?_ ?_ hnone hout
    · rw [hsame]
      exact hx
    · rw [hsame]
    · rw [hsame]
  case some =>
    refine serves_quiet ⟨?_, ?_⟩ ?_ ?_ hnone hout
    · rw [hnext, hhistory]
      exact (hx.subscriptions.exec r).1
    · rw [hnext]
      exact hx.items
    · rw [Served.held, hnext]
      rfl
    · rw [hnext]
      rfl

/-- Notices of other kinds leave the events as they are. -/
theorem serves_notify (hx : x.Sound) {prop : PropId} {flags : SubscribeFlags} {notice : Notice}
    (hnotice : ∀ values, notice ≠ .onPropertyEvent values)
    (hserve : serve configs x e = (x.1.notify prop flags notice, x.2) ∨ serve configs x e = x)
    (hnone : arrived x e = []) (hout : handedOut x e = []) : Serves configs c x e := by
  rcases hserve with hserve | hserve
  · refine serves_quiet ?_ ?_ ?_ hnone hout
    · rw [hserve]
      exact ⟨hx.subscriptions, hx.items⟩
    · rw [hserve]
      rfl
    · rw [hserve]
      exact received_notify x.1 prop flags hnotice
  · refine serves_quiet ?_ ?_ ?_ hnone hout
    · rw [hserve]
      exact hx
    · rw [hserve]
    · rw [hserve]

theorem serves (hx : x.Sound) (e : VehicleHalManager.Event Rate) : Serves configs c x e := by
  cases e with
  | subscribe clientId options => exact serves_request hx rfl rfl rfl
  | unsubscribe clientId propId => exact serves_request hx rfl rfl rfl
  | clientDied clientId => exact serves_request hx rfl rfl rfl
  | set value =>
    have hserve : serve configs x (.set value) =
        (x.1.notify value.prop EVENTS_FROM_ANDROID (.onPropertySet value), x.2) ∨
        serve configs x (.set value) = x := by
      simp only [serve, VehicleHalManager.step, VehicleHalManager.request, Option.elim]
      split
      · exact .inr rfl
      · split_ifs
        · exact .inl rfl
        · exact .inr rfl
    exact serves_notify hx (fun _ => Notice.noConfusion) hserve rfl rfl
  | halPropertySetError errorCode property areaId =>
    exact serves_notify hx (fun _ => Notice.noConfusion) (.inl rfl) rfl rfl
  | halEvent value =>
    refine ⟨⟨hx.subscriptions, hx.items⟩, ?_, (List.append_nil _).symm⟩
    rw [Served.held, List.append_assoc, arrived, ← ConcurrentQueue.push_spec]
    rfl
  | consumer => exact serves_consumer hx
  | requestStop => exact serves_quiet ⟨hx.subscriptions, hx.items⟩ rfl rfl rfl rfl
  | deactivate => exact serves_quiet ⟨hx.subscriptions, hx.items⟩ rfl rfl rfl rfl

end Receiving

/-- Whatever the clients, the HAL and the threads do: the events are handed out in their order, each once, and
    each client receives those it is subscribed to at that time, and at most those it may be taken to be
    subscribed to. -/
theorem events_reach_subscribers (events : List (VehicleHalManager.Event Rate)) (c : ClientId) :
    Run.gather (serve configs) arrived served events =
        Run.gather (serve configs) handedOut served events ++ (Run.run (serve configs) served events).held ∧
      (Run.gather (serve configs) (due c) served events).Sublist
        (received c (Run.run (serve configs) served events).1.sent) ∧
      (received c (Run.run (serve configs) served events).1.sent).Sublist
        (Run.gather (serve configs) (allowed c) served events) := by
  have hsound (x : Served Rate) (e : VehicleHalManager.Event Rate) (hx : x.Sound) : (serve configs x e).Sound :=
    (serves (c := c) hx e).sound
  have hreceived : received c (Run.run (serve configs) served events).1.sent =
      Run.gather (serve configs) (share c) served events :=
    Run.log_eq_gather (l := fun x => received c x.1.sent)
      (fun x e hx => ⟨hsound x e hx, (serves hx e).received⟩) events served sound_served
  refine ⟨?_, ?_, ?_⟩
  · exact Run.gather_held (q := Served.held)
      (fun x e hx => ⟨hsound x e hx, (serves (c := c) hx e).held⟩) events served sound_served
  · rw [hreceived]
    refine Run.gather_sublist hsound (fun x e hx => List.monotone_filter_right _ fun v hv => ?_) events served
      sound_served
    rw [decide_eq_true_eq] at hv ⊢
    exact hx.subscriptions.follows.present v.prop EVENTS_FROM_CAR c hv
  · rw [hreceived]
    refine Run.gather_sublist hsound (fun x e hx => List.monotone_filter_right _ fun v hv => ?_) events served
      sound_served
    rw [decide_eq_true_eq] at hv ⊢
    have hfollows := hx.subscriptions.follows
    rcases hlapsed : x.2.lapsed c v.prop with _ | _
    · exact .inl ((hfollows.exact v.prop EVENTS_FROM_CAR c hlapsed).mp hv)
    · exact .inr ⟨rfl, hfollows.subscribed v.prop EVENTS_FROM_CAR c hv⟩

/-! ### What the HAL is asked for -/

section Asked
variable {configs} {s : SubscriptionManager Rate} {e : VehicleHalManager.Event Rate}

/-- What the HAL may be asked to send: a property it has, that can be read and changes, at a rate the
    property has. -/
def Admitted (configs : List (VehiclePropConfig Rate)) (opts : SubscribeOptions Rate) : Prop :=
  ∃ config, getPropConfigOrNull configs opts.propId = some config ∧
    config.access &&& VehiclePropConfig.READ ≠ 0 ∧ config.changeMode ≠ VehiclePropConfig.STATIC ∧
    if config.isSampleRateFixed then opts.sampleRate = 0
    else config.minSampleRate ≤ opts.sampleRate ∧ opts.sampleRate ≤ config.maxSampleRate

/-- The merged options are admitted ones. -/
def Checked (configs : List (VehiclePropConfig Rate)) (s : SubscriptionManager Rate) : Prop :=
  ∀ p opts, s.mHalEventSubscribeOptions.lookup p = some opts → opts.propId = p ∧ Admitted configs opts

/-- A call that asks for nothing else. -/
def HalCall.Admitted (configs : List (VehiclePropConfig Rate)) : HalCall Rate → Prop
  | .subscribe opts => Vehicle.Admitted configs opts
  | .mOnPropertyUnsubscribed _ => True

theorem checkSampleRate_mem (config : VehiclePropConfig Rate)
    (hrates : config.minSampleRate ≤ config.maxSampleRate) (sampleRate : Rate) :
    if config.isSampleRateFixed then config.checkSampleRate sampleRate = 0
    else config.minSampleRate ≤ config.checkSampleRate sampleRate ∧
      config.checkSampleRate sampleRate ≤ config.maxSampleRate := by
  rw [VehiclePropConfig.checkSampleRate]
  split_ifs with hfixed hmax hmin
  · rfl
  · exact ⟨hrates, le_rfl⟩
  · exact ⟨le_rfl, hrates⟩
  · exact ⟨not_lt.mp hmin, not_lt.mp hmax⟩

/-- What is checked as a whole is checked one by one. -/
theorem exists_of_mapM {α β : Type} {f : α → Option β} {xs : List α} {ys : List β}
    (h : xs.mapM f = some ys) : ∀ y ∈ ys, ∃ x, f x = some y := by
  induction xs generalizing ys with
  | nil =>
    obtain rfl := Option.some.inj h
    exact fun _ hy => absurd hy List.not_mem_nil
  | cons x xs ih =>
    rw [List.mapM_cons] at h
    obtain ⟨y, hy, h⟩ := Option.bind_eq_some_iff.mp h
    obtain ⟨rest, hrest, h⟩ := Option.bind_eq_some_iff.mp h
    obtain rfl := Option.some.inj h
    intro z hz
    rcases List.mem_cons.mp hz with rfl | hz
    · exact ⟨x, hy⟩
    · exact ih hrest z hz

theorem verify_admitted (hrates : ∀ config ∈ configs, config.minSampleRate ≤ config.maxSampleRate)
    {ops opts : SubscribeOptions Rate} (h : VehicleHalManager.verify configs ops = some opts)
    (hcar : EVENTS_FROM_CAR &&& opts.flags ≠ 0) : Admitted configs opts := by
  rw [VehicleHalManager.verify] at h
  rcases hconfig : getPropConfigOrNull configs ops.propId with _ | config
  · rw [hconfig] at h
    simp at h
  · rw [hconfig] at h
    dsimp only at h
    split_ifs at h with hflags hsub
    obtain rfl := Option.some.inj h
    rw [VehiclePropConfig.isSubscribable] at hsub
    split_ifs at hsub with hread hstatic
    have hmem : config ∈ configs := List.mem_reverse.mp (List.mem_of_find?_eq_some hconfig)
    exact ⟨config, hconfig, fun hzero => hread ⟨hzero, hcar⟩, hstatic,
      checkSampleRate_mem config (hrates config hmem) ops.sampleRate⟩

/-- The higher of two rates is one of them. -/
theorem Admitted.joined {oldOpts opts : SubscribeOptions Rate} (hold : Admitted configs oldOpts)
    (hprop : oldOpts.propId = opts.propId) (hopts : Admitted configs opts) :
    Admitted configs (joined (some oldOpts) opts) := by
  rcases max_choice oldOpts.sampleRate opts.sampleRate with hmax | hmax
  · obtain ⟨config, hconfig, hread, hchange, hrate⟩ := hold
    refine ⟨config, hconfig, hread, hchange, ?_⟩
    simp only [Vehicle.joined, hmax]
    exact hrate
  · obtain ⟨config, hconfig, hread, hchange, hrate⟩ := hopts
    refine ⟨config, ?_, hread, hchange, ?_⟩
    · simp only [Vehicle.joined, hprop]
      exact hconfig
    · simp only [Vehicle.joined, hmax]
      exact hrate

omit [LinearOrder Rate] [Zero Rate] in
/-- A loop keeps what each turn keeps, and makes the calls its turns make. -/
theorem forEach_keeps {α : Type}
    {turn : SubscriptionManager Rate → α → SubscriptionManager Rate × List (HalCall Rate)}
    {P : SubscriptionManager Rate → Prop} {Q : HalCall Rate → Prop} (xs : List α)
    (hturn : ∀ s, ∀ x ∈ xs, P s → P (turn s x).1 ∧ ∀ call ∈ (turn s x).2, Q call) (hs : P s) :
    P (SubscriptionManager.forEach turn s xs).1 ∧
      ∀ call ∈ (SubscriptionManager.forEach turn s xs).2, Q call := by
  induction xs generalizing s with
  | nil => exact ⟨hs, fun _ hcall => absurd hcall List.not_mem_nil⟩
  | cons x xs ih =>
    obtain ⟨hnext, hcalls⟩ := hturn s x List.mem_cons_self hs
    obtain ⟨hlast, hrest⟩ := ih (fun s y hy => hturn s y (List.mem_cons_of_mem x hy)) hnext
    refine ⟨hlast, fun call hcall => ?_⟩
    rcases List.mem_append.mp hcall with hcall | hcall
    · exact hcalls call hcall
    · exact hrest call hcall

theorem Checked.addOption (hs : Checked configs s) (client : ℕ) {opts : SubscribeOptions Rate}
    (hopts : EVENTS_FROM_CAR &&& opts.flags ≠ 0 → Admitted configs opts) :
    Checked configs (SubscriptionManager.addOption client s opts).1 ∧
      ∀ call ∈ (SubscriptionManager.addOption client s opts).2, call.Admitted configs := by
  rw [SubscriptionManager.addOption]
  split_ifs with hcar
  · have hnew := hopts hcar
    set t : SubscriptionManager Rate := SubscriptionManager.addClientToPropMapLocked
      { s with halClients := s.halClients.modify client (·.addOrUpdateSubscription opts) } opts.propId client
    have ht : t.mHalEventSubscribeOptions = s.mHalEventSubscribeOptions := rfl
    have hjoined : (joined (s.mHalEventSubscribeOptions.lookup opts.propId) opts).propId = opts.propId ∧
        Admitted configs (joined (s.mHalEventSubscribeOptions.lookup opts.propId) opts) := by
      rcases hold : s.mHalEventSubscribeOptions.lookup opts.propId with _ | oldOpts
      · exact ⟨rfl, hnew⟩
      · obtain ⟨hprop, hadmitted⟩ := hs opts.propId oldOpts hold
        exact ⟨hprop, hadmitted.joined hprop hnew⟩
    refine ⟨fun p merged hmerged => ?_, fun call hcall => ?_⟩
    · rw [(updateHal_spec t opts p).1, ht] at hmerged
      split_ifs at hmerged with hp
      · rw [hp] at hmerged ⊢
        rw [← Option.some.inj hmerged]
        exact hjoined
      · exact hs p merged hmerged
    · obtain ⟨updated, hupdated, rfl⟩ := List.mem_map.mp hcall
      rcases (updateHal_spec t opts opts.propId).2 with hsome | ⟨hnone, -⟩
      · rw [hsome, ht] at hupdated
        obtain rfl := List.mem_singleton.mp hupdated
        exact hjoined.2
      · rw [hnone] at hupdated
        exact absurd hupdated List.not_mem_nil
  · exact ⟨hs, fun _ hcall => absurd hcall List.not_mem_nil⟩

theorem Checked.unsubscribe (hs : Checked configs s) (c : ClientId) (p : PropId) :
    Checked configs (s.unsubscribe c p).1 ∧ ∀ call ∈ (s.unsubscribe c p).2, call.Admitted configs := by
  have hremoved (client : ℕ) :
      (s.removeClient c client p).mHalEventSubscribeOptions = s.mHalEventSubscribeOptions := by
    rw [SubscriptionManager.removeClient]
    split <;> split_ifs <;> rfl
  have hforgotten {t : SubscriptionManager Rate} (ht : Checked configs t) :
      Checked configs { t with mHalEventSubscribeOptions := t.mHalEventSubscribeOptions.erase p } := by
    intro q opts hopts
    dsimp only at hopts
    rw [lookup_drop] at hopts
    split_ifs at hopts
    exact ht q opts hopts
  have hasked : ∀ call ∈ [(HalCall.mOnPropertyUnsubscribed p : HalCall Rate)], call.Admitted configs := by
    intro call hcall
    rw [List.mem_singleton.mp hcall]
    trivial
  rw [SubscriptionManager.unsubscribe]
  rcases s.mClients.lookup c with _ | client
  · dsimp only
    split_ifs
    · exact ⟨hforgotten hs, hasked⟩
    · exact ⟨hs, fun _ hcall => absurd hcall List.not_mem_nil⟩
  · have hkept : Checked configs (s.removeClient c client p) := by
      intro q opts hopts
      rw [hremoved] at hopts
      exact hs q opts hopts
    dsimp only
    split_ifs
    · exact ⟨hforgotten hkept, hasked⟩
    · exact ⟨hkept, fun _ hcall => absurd hcall List.not_mem_nil⟩

/-- A request that has passed the checks. -/
theorem Checked.exec (hrates : ∀ config ∈ configs, config.minSampleRate ≤ config.maxSampleRate)
    (hs : Checked configs s) {r : Vehicle.Event Rate} (hr : VehicleHalManager.request configs e = some r) :
    Checked configs (exec s r).1 ∧ ∀ call ∈ (exec s r).2, call.Admitted configs := by
  cases e with
  | subscribe clientId options =>
    obtain ⟨verified, hverified, rfl⟩ := Option.map_eq_some_iff.mp hr
    have hcreated : Checked configs (s.getOrCreateHalClientLocked clientId).1 := by
      rw [SubscriptionManager.getOrCreateHalClientLocked]
      split <;> exact hs
    refine forEach_keeps verified (fun t opts hopts ht => ht.addOption _ fun hcar => ?_) hcreated
    obtain ⟨ops, hops⟩ := exists_of_mapM hverified opts hopts
    exact verify_admitted hrates hops hcar
  | unsubscribe clientId propId =>
    obtain rfl := Option.some.inj hr
    exact hs.unsubscribe clientId propId
  | clientDied clientId =>
    obtain rfl := Option.some.inj hr
    change Checked configs (s.onCallbackDead clientId).1 ∧ ∀ call ∈ (s.onCallbackDead clientId).2, _
    rw [SubscriptionManager.onCallbackDead]
    split
    · exact ⟨hs, fun _ hcall => absurd hcall List.not_mem_nil⟩
    · exact forEach_keeps _ (fun t p _ ht => ht.unsubscribe clientId p) hs
  | _ => simp [VehicleHalManager.request] at hr

/-- Every step asks for admitted properties only. -/
theorem asks_step (hrates : ∀ config ∈ configs, config.minSampleRate ≤ config.maxSampleRate)
    {m : VehicleHalManager Rate} (hm : Checked configs m.mSubscriptionManager ∧
      ∀ call ∈ m.calls, call.Admitted configs) (e : VehicleHalManager.Event Rate) :
    Checked configs (m.step configs e).mSubscriptionManager ∧
      ∀ call ∈ (m.step configs e).calls, call.Admitted configs := by
  have hcarry (e : VehicleHalManager.Event Rate) :
      Checked configs (m.carryOut (VehicleHalManager.request configs e)).mSubscriptionManager ∧
        ∀ call ∈ (m.carryOut (VehicleHalManager.request configs e)).calls, call.Admitted configs := by
    rcases hr : VehicleHalManager.request configs e with _ | r
    · exact hm
    · obtain ⟨hchecked, hcalls⟩ := hm.1.exec hrates hr
      refine ⟨hchecked, fun call hcall => ?_⟩
      rcases List.mem_append.mp hcall with hcall | hcall
      · exact hm.2 call hcall
      · exact hcalls call hcall
  cases e with
  | subscribe clientId options => exact hcarry _
  | unsubscribe clientId propId => exact hcarry _
  | clientDied clientId => exact hcarry _
  | set value =>
    rw [VehicleHalManager.step]
    split
    · exact hm
    · split_ifs <;> exact hm
  | consumer =>
    rw [VehicleHalManager.step, VehicleHalManager.runInternal]
    repeat' split
    all_goals exact hm
  | _ => exact hm

end Asked

end Model

end ImxHal.Vehicle
