import ImxHal.Schemes.Run
import Mathlib.Data.List.AList
import Mathlib.Data.List.Sort

/-! @src vehicle/common/src/SubscriptionManager.cpp | name:subscriptions | scheme:run | family:pub-sub

    Three maps say who is subscribed to what, and a fourth what the HAL was asked for:

        mClients          client ──▶ HalClient ──▶ mSubscriptions: property ──▶ options
        mPropToClients    property ──▶ the HalClients subscribed to it
        mHalEventSubscribeOptions    property ──▶ the options merged over all subscriptions to car events -/

namespace ImxHal.Vehicle

/-- Read off a callback by `VehicleHalManager::getClientId`. -/
abbrev ClientId := UInt64

abbrev PropId := Int32

abbrev SubscribeFlags := BitVec 32

def EVENTS_FROM_CAR : SubscribeFlags := 1
def EVENTS_FROM_ANDROID : SubscribeFlags := 2

section Model
variable {Rate : Type} [LinearOrder Rate]

/-- A rate is a number that compares with every other. -/
structure SubscribeOptions (Rate : Type) where
  propId : PropId
  sampleRate : Rate
  flags : SubscribeFlags
  deriving DecidableEq

/-- The merged options, where they differ from the old ones. -/
def mergeSubscribeOptions (oldOpts newOpts : SubscribeOptions Rate) : Option (SubscribeOptions Rate) :=
  let updatedRate := max oldOpts.sampleRate newOpts.sampleRate
  let updatedFlags := oldOpts.flags ||| newOpts.flags
  if oldOpts.sampleRate < updatedRate ∨ updatedFlags ≠ oldOpts.flags then
    some { oldOpts with sampleRate := updatedRate, flags := updatedFlags }
  else none

/-- A callback is known by its `ClientId`. -/
structure HalClient (Rate : Type) where
  mCallback : ClientId
  mSubscriptions : AList fun _ : PropId => SubscribeOptions Rate

namespace HalClient

def addOrUpdateSubscription (client : HalClient Rate) (opts : SubscribeOptions Rate) : HalClient Rate :=
  match client.mSubscriptions.lookup opts.propId with
  | none => { client with mSubscriptions := client.mSubscriptions.insert opts.propId opts }
  | some oldOpts =>
    match mergeSubscribeOptions oldOpts opts with
    | none => client
    | some updatedOptions =>
      { client with mSubscriptions := client.mSubscriptions.insert opts.propId updatedOptions }

def isSubscribed (client : HalClient Rate) (propId : PropId) (flags : SubscribeFlags) : Bool :=
  match client.mSubscriptions.lookup propId with
  | none => false
  | some opts => opts.flags &&& flags ≠ 0

/-- In the order of the map. -/
def getSubscribedProperties (client : HalClient Rate) : List PropId :=
  client.mSubscriptions.keys.mergeSort fun a b => decide (a ≤ b)

end HalClient

/-- What the manager asks of the HAL. -/
inductive HalCall (Rate : Type) where
  | subscribe (opts : SubscribeOptions Rate)
  | mOnPropertyUnsubscribed (propId : PropId)
  deriving DecidableEq

/-- An `sp<HalClient>` is a place in `halClients`, which has every object in the order of its creation. -/
structure SubscriptionManager (Rate : Type) where
  halClients : List (HalClient Rate)
  mClients : AList fun _ : ClientId => ℕ
  mPropToClients : AList fun _ : PropId => List ℕ
  mHalEventSubscribeOptions : AList fun _ : PropId => SubscribeOptions Rate

/-- `HalClientVector::addOrUpdate`, of a vector sorted by the pointers. -/
def addOrUpdate (clients : List ℕ) (client : ℕ) : List ℕ :=
  if client ∈ clients then clients else clients.orderedInsert (· ≤ ·) client

namespace SubscriptionManager

def getOrCreateHalClientLocked (s : SubscriptionManager Rate) (clientId : ClientId) :
    SubscriptionManager Rate × ℕ :=
  match s.mClients.lookup clientId with
  | some client => (s, client)
  | none => ({ s with
      halClients := s.halClients ++ [⟨clientId, ∅⟩]
      mClients := s.mClients.insert clientId s.halClients.length }, s.halClients.length)

/-- No list where the property has no vector. -/
def getClientsForPropertyLocked (s : SubscriptionManager Rate) (propId : PropId) : Option (List ℕ) :=
  s.mPropToClients.lookup propId

def addClientToPropMapLocked (s : SubscriptionManager Rate) (propId : PropId) (client : ℕ) :
    SubscriptionManager Rate :=
  { s with mPropToClients :=
      s.mPropToClients.insert propId (addOrUpdate ((s.mPropToClients.lookup propId).getD []) client) }

def updateHalEventSubscriptionLocked (s : SubscriptionManager Rate) (opts : SubscribeOptions Rate) :
    SubscriptionManager Rate × Option (SubscribeOptions Rate) :=
  let put (outUpdated : SubscribeOptions Rate) : SubscriptionManager Rate :=
    { s with mHalEventSubscribeOptions := s.mHalEventSubscribeOptions.insert opts.propId outUpdated }
  match s.mHalEventSubscribeOptions.lookup opts.propId with
  | none => (put opts, some opts)
  | some oldOpts =>
    match mergeSubscribeOptions oldOpts opts with
    | none => (s, none)
    | some outUpdated => (put outUpdated, some outUpdated)

/-- A loop, with the calls made in all its turns. -/
def forEach {α : Type} (turn : SubscriptionManager Rate → α → SubscriptionManager Rate × List (HalCall Rate))
    (s : SubscriptionManager Rate) : List α → SubscriptionManager Rate × List (HalCall Rate)
  | [] => (s, [])
  | x :: xs =>
    let next := turn s x
    let rest := forEach turn next.1 xs
    (rest.1, next.2 ++ rest.2)

/-- One turn of the loop of `addOrUpdateSubscription`. -/
def addOption (client : ℕ) (s : SubscriptionManager Rate) (opts : SubscribeOptions Rate) :
    SubscriptionManager Rate × List (HalCall Rate) :=
  let s := { s with halClients := s.halClients.modify client (·.addOrUpdateSubscription opts) }
  let s := s.addClientToPropMapLocked opts.propId client
  if EVENTS_FROM_CAR &&& opts.flags ≠ 0 then
    let r := s.updateHalEventSubscriptionLocked opts
    (r.1, r.2.toList.map .subscribe)
  else (s, [])

/-- The HAL is asked for every updated subscription by `VehicleHalManager::subscribe`. -/
def addOrUpdateSubscription (s : SubscriptionManager Rate) (clientId : ClientId)
    (optionList : List (SubscribeOptions Rate)) : SubscriptionManager Rate × List (HalCall Rate) :=
  let client := s.getOrCreateHalClientLocked clientId
  forEach (addOption client.2) client.1 optionList

def getSubscribedClients (s : SubscriptionManager Rate) (propId : PropId) (flags : SubscribeFlags) : List ℕ :=
  ((s.getClientsForPropertyLocked propId).getD []).filter fun client =>
    (s.halClients[client]?).any (·.isSubscribed propId flags)

/-- Unlinks a client from a property; without any property left the client is forgotten. -/
def removeClient (s : SubscriptionManager Rate) (clientId : ClientId) (client : ℕ) (propId : PropId) :
    SubscriptionManager Rate :=
  let s := match s.getClientsForPropertyLocked propId with
    | none => s
    | some clients =>
      if clients.erase client = [] then { s with mPropToClients := s.mPropToClients.erase propId }
      else { s with mPropToClients := s.mPropToClients.insert propId (clients.erase client) }
  let isClientSubscribedToOtherProps := s.mPropToClients.entries.any fun e => client ∈ e.2
  if isClientSubscribedToOtherProps then s else { s with mClients := s.mClients.erase clientId }

/-- `left` are the clients of the property behind the removal. -/
def unsubscribe (s : SubscriptionManager Rate) (clientId : ClientId) (propId : PropId) :
    SubscriptionManager Rate × List (HalCall Rate) :=
  let propertyClients := s.getClientsForPropertyLocked propId
  let found := s.mClients.lookup clientId
  let left := match found with
    | none => propertyClients.getD []
    | some client => (propertyClients.getD []).erase client
  let s := match found with
    | none => s
    | some client => s.removeClient clientId client propId
  if left = [] then
    ({ s with mHalEventSubscribeOptions := s.mHalEventSubscribeOptions.erase propId },
      [.mOnPropertyUnsubscribed propId])
  else (s, [])

def onCallbackDead (s : SubscriptionManager Rate) (cookie : ClientId) :
    SubscriptionManager Rate × List (HalCall Rate) :=
  match s.mClients.lookup cookie with
  | none => (s, [])
  | some client =>
    let props := ((s.halClients[client]?).map (·.getSubscribedProperties)).getD []
    forEach (·.unsubscribe cookie) s props

end SubscriptionManager

inductive Event (Rate : Type) where
  | subscribe (clientId : ClientId) (optionList : List (SubscribeOptions Rate))
  | unsubscribe (clientId : ClientId) (propId : PropId)
  | clientDied (clientId : ClientId)

def exec (s : SubscriptionManager Rate) : Event Rate → SubscriptionManager Rate × List (HalCall Rate)
  | .subscribe clientId optionList => s.addOrUpdateSubscription clientId optionList
  | .unsubscribe clientId propId => s.unsubscribe clientId propId
  | .clientDied clientId => s.onCallbackDead clientId

/-- The manager and the calls it made. -/
def step (s : SubscriptionManager Rate × List (HalCall Rate)) (e : Event Rate) :
    SubscriptionManager Rate × List (HalCall Rate) :=
  ((exec s.1 e).1, s.2 ++ (exec s.1 e).2)

/-- At construction. -/
def constructed : SubscriptionManager Rate × List (HalCall Rate) := (⟨[], ∅, ∅, ∅⟩, [])

/-! ### What the clients asked for -/

/-- The subscriptions that count: `active` has what each client subscribed to since it last unsubscribed the
    property or died, `car` the subscriptions to car events since the property was last left without a client.
    A client has `lapsed` on a property when it unsubscribed it and has kept others ever since. -/
structure History (Rate : Type) where
  active : List (ClientId × SubscribeOptions Rate)
  car : List (SubscribeOptions Rate)
  lapsed : ClientId → PropId → Bool

namespace History

def subscribe (h : History Rate) (clientId : ClientId) (opts : SubscribeOptions Rate) : History Rate :=
  { h with
    active := h.active ++ [(clientId, opts)]
    car := if EVENTS_FROM_CAR &&& opts.flags ≠ 0 then h.car ++ [opts] else h.car }

/-- Clients give up properties. -/
def drop (h : History Rate) (gone : ClientId → PropId → Bool) : History Rate :=
  let active := h.active.filter fun x => !gone x.1 x.2.propId
  { active
    car := h.car.filter fun opts => active.any fun x => x.2.propId = opts.propId
    lapsed := fun c p => (h.lapsed c p || gone c p && h.active.any fun x => x.1 = c && x.2.propId = p) &&
      active.any fun x => x.1 = c }

def record (h : History Rate) : Event Rate → History Rate
  | .subscribe clientId optionList => optionList.foldl (·.subscribe clientId) h
  | .unsubscribe clientId propId => h.drop fun c p => c = clientId && p = propId
  | .clientDied clientId => h.drop fun c _ => c = clientId

def empty : History Rate := ⟨[], [], fun _ _ => false⟩

/-- The client is subscribed to the property. -/
def Subscribed (h : History Rate) (c : ClientId) (p : PropId) : Prop :=
  ∃ x ∈ h.active, x.1 = c ∧ x.2.propId = p

/-- The client has subscribed to the property with the flag. -/
def SubscribedWith (h : History Rate) (c : ClientId) (p : PropId) (flag : SubscribeFlags) : Prop :=
  ∃ x ∈ h.active, x.1 = c ∧ x.2.propId = p ∧ x.2.flags &&& flag ≠ 0

/-- No client is subscribed to the property. -/
def Deserted (h : History Rate) (p : PropId) : Prop := ∀ x ∈ h.active, x.2.propId ≠ p

def carOf (h : History Rate) (p : PropId) : List (SubscribeOptions Rate) := h.car.filter (·.propId = p)

instance (h : History Rate) (p : PropId) : Decidable (h.Deserted p) :=
  inferInstanceAs (Decidable (∀ x ∈ h.active, x.2.propId ≠ p))

instance (h : History Rate) (c : ClientId) (p : PropId) (flag : SubscribeFlags) :
    Decidable (h.SubscribedWith c p flag) :=
  inferInstanceAs (Decidable (∃ x ∈ h.active, x.1 = c ∧ x.2.propId = p ∧ x.2.flags &&& flag ≠ 0))

end History

/-- The highest rate and all flags of some subscriptions. -/
structure IsMerge (subs : List (SubscribeOptions Rate)) (merged : SubscribeOptions Rate) : Prop where
  le : ∀ opts ∈ subs, opts.sampleRate ≤ merged.sampleRate
  reached : ∃ opts ∈ subs, opts.sampleRate = merged.sampleRate
  flags : merged.flags = subs.foldl (fun flags opts => flags ||| opts.flags) 0

/-- The options last passed to the HAL for a property. -/
def lastPassed (calls : List (HalCall Rate)) (p : PropId) : Option (SubscribeOptions Rate) :=
  (calls.filterMap fun call => match call with
    | .subscribe opts => if opts.propId = p then some opts else none
    | .mOnPropertyUnsubscribed _ => none).getLast?

/-- The clients that get the events of a property. -/
def SubscriptionManager.clientIds (s : SubscriptionManager Rate) (p : PropId) (flag : SubscribeFlags) :
    List ClientId :=
  (s.getSubscribedClients p flag).filterMap fun client => (s.halClients[client]?).map (·.mCallback)

/-- The manager knows the subscribed clients, each once; it may take a client that has lapsed on the property
    to be subscribed with more flags. The HAL has the merge of all subscriptions to car events. -/
structure Follows (h : History Rate) (s : SubscriptionManager Rate × List (HalCall Rate)) : Prop where
  once : ∀ p flag c, (s.1.clientIds p flag).count c ≤ 1
  present : ∀ p flag c, h.SubscribedWith c p flag → c ∈ s.1.clientIds p flag
  subscribed : ∀ p flag c, c ∈ s.1.clientIds p flag → h.Subscribed c p
  exact : ∀ p flag c, h.lapsed c p = false → (c ∈ s.1.clientIds p flag ↔ h.SubscribedWith c p flag)
  passed : ∀ p, h.carOf p ≠ [] → ∃ merged, lastPassed s.2 p = some merged ∧ IsMerge (h.carOf p) merged

/-- The calls of `mOnPropertyUnsubscribed` in a step, with the history before and behind it: for a property
    that an unsubscribe, or the death of a subscriber, leaves without a client. -/
def Unsubscribes (h : History Rate) (e : Event Rate) (h' : History Rate) (calls : List (HalCall Rate)) :
    Prop :=
  match e with
  | .subscribe _ _ => ∀ p, .mOnPropertyUnsubscribed p ∉ calls
  | .unsubscribe _ q => ∀ p, calls.count (.mOnPropertyUnsubscribed p) = if p = q ∧ h'.Deserted p then 1 else 0
  | .clientDied c => ∀ p, (.mOnPropertyUnsubscribed p ∈ calls → h'.Deserted p) ∧
      (h.Subscribed c p → calls.count (.mOnPropertyUnsubscribed p) = if h'.Deserted p then 1 else 0)

/-! ### Merging -/

section Merging
variable {oldOpts opts merged : SubscribeOptions Rate} {subs : List (SubscribeOptions Rate)}

/-- The options behind a subscription, also where merging changes nothing. -/
def joined (old : Option (SubscribeOptions Rate)) (opts : SubscribeOptions Rate) : SubscribeOptions Rate :=
  match old with
  | none => opts
  | some oldOpts =>
    { oldOpts with
      sampleRate := max oldOpts.sampleRate opts.sampleRate, flags := oldOpts.flags ||| opts.flags }

theorem merge_cases (oldOpts opts : SubscribeOptions Rate) :
    mergeSubscribeOptions oldOpts opts = some (joined (some oldOpts) opts) ∨
      mergeSubscribeOptions oldOpts opts = none ∧ joined (some oldOpts) opts = oldOpts := by
  rw [mergeSubscribeOptions]
  split_ifs with hupd
  · exact .inl rfl
  · push Not at hupd
    refine .inr ⟨rfl, ?_⟩
    have hrate : max oldOpts.sampleRate opts.sampleRate = oldOpts.sampleRate :=
      le_antisymm hupd.1 (le_max_left _ _)
    simp only [joined, hrate, hupd.2]

theorem and_or_ne_zero (a b flag : SubscribeFlags) :
    (a ||| b) &&& flag ≠ 0 ↔ a &&& flag ≠ 0 ∨ b &&& flag ≠ 0 := by
  rw [BitVec.and_or_distrib_right]
  exact (not_congr BitVec.or_eq_zero_iff).trans not_and_or

theorem joined_flags (old : Option (SubscribeOptions Rate)) (flag : SubscribeFlags) :
    (joined old opts).flags &&& flag ≠ 0 ↔
      (∃ oldOpts, old = some oldOpts ∧ oldOpts.flags &&& flag ≠ 0) ∨ opts.flags &&& flag ≠ 0 := by
  cases old with
  | none => simp [joined]
  | some oldOpts => simpa [joined] using and_or_ne_zero oldOpts.flags opts.flags flag

theorem isMerge_single (opts : SubscribeOptions Rate) : IsMerge [opts] opts :=
  ⟨by simp, ⟨opts, by simp⟩, by simp⟩

/-- A further subscription is merged in. -/
theorem IsMerge.join (h : IsMerge subs merged) (opts : SubscribeOptions Rate) :
    IsMerge (subs ++ [opts]) (joined (some merged) opts) := by
  refine ⟨fun x hx => ?_, ?_, ?_⟩
  · rcases List.mem_append.mp hx with hx | hx
    · exact (h.le x hx).trans (le_max_left _ _)
    · rw [List.mem_singleton.mp hx]
      exact le_max_right _ _
  · obtain ⟨x, hx, hrate⟩ := h.reached
    rcases le_total opts.sampleRate merged.sampleRate with hle | hle
    · exact ⟨x, List.mem_append_left _ hx, hrate.trans (max_eq_left hle).symm⟩
    · exact ⟨opts, List.mem_append_right _ (List.mem_singleton_self _), (max_eq_right hle).symm⟩
  · rw [List.foldl_append, ← h.flags]
    rfl

end Merging

/-! ### One subscription -/

section Lookups
variable {s : SubscriptionManager Rate} {calls : List (HalCall Rate)}

namespace SubscriptionManager

/-- The clients linked to a property. -/
def clientsOf (s : SubscriptionManager Rate) (p : PropId) : List ℕ := (s.mPropToClients.lookup p).getD []

/-- The options a client has for a property. -/
def optionsOf (s : SubscriptionManager Rate) (client : ℕ) (p : PropId) : Option (SubscribeOptions Rate) :=
  (s.halClients[client]?).bind (·.mSubscriptions.lookup p)

end SubscriptionManager

theorem mem_addOrUpdate {clients : List ℕ} {client k : ℕ} :
    k ∈ addOrUpdate clients client ↔ k = client ∨ k ∈ clients := by
  rw [addOrUpdate]
  split_ifs with hmem
  · exact ⟨.inr, fun h => h.elim (fun h => h ▸ hmem) id⟩
  · exact List.mem_orderedInsert _

theorem nodup_addOrUpdate {clients : List ℕ} (h : clients.Nodup) (client : ℕ) :
    (addOrUpdate clients client).Nodup := by
  rw [addOrUpdate]
  split_ifs with hmem
  · exact h
  · exact (List.perm_orderedInsert _ client clients).nodup_iff.mpr (List.nodup_cons.mpr ⟨hmem, h⟩)

theorem lookup_put {κ ν : Type} [DecidableEq κ] (m : AList fun _ : κ => ν) (k q : κ) (v : ν) :
    (m.insert k v).lookup q = if q = k then some v else m.lookup q := by
  split_ifs with hq
  · rw [hq, AList.lookup_insert]
  · exact AList.lookup_insert_ne hq

theorem lookup_drop {κ ν : Type} [DecidableEq κ] (m : AList fun _ : κ => ν) (k q : κ) :
    (m.erase k).lookup q = if q = k then none else m.lookup q := by
  split_ifs with hq
  · rw [hq, AList.lookup_erase]
  · exact AList.lookup_erase_ne hq

/-- Storing the joined options under the property, or leaving those that are joined already. -/
theorem lookup_joined {m m' : AList fun _ : PropId => SubscribeOptions Rate}
    {opts : SubscribeOptions Rate}
    (h : m' = m.insert opts.propId (joined (m.lookup opts.propId) opts) ∨
      m' = m ∧ m.lookup opts.propId = some (joined (m.lookup opts.propId) opts)) (q : PropId) :
    m'.lookup q = if q = opts.propId then some (joined (m.lookup q) opts) else m.lookup q := by
  rcases h with hput | ⟨hkept, hsame⟩
  · rw [hput, lookup_put]
    split_ifs with hq
    · rw [hq]
    · rfl
  · rw [hkept]
    split_ifs with hq
    · rw [hq]
      exact hsame
    · rfl

theorem lookup_addOrUpdateSubscription (client : HalClient Rate) (opts : SubscribeOptions Rate) (q : PropId) :
    (client.addOrUpdateSubscription opts).mSubscriptions.lookup q =
      if q = opts.propId then some (joined (client.mSubscriptions.lookup q) opts)
      else client.mSubscriptions.lookup q := by
  rw [HalClient.addOrUpdateSubscription]
  refine lookup_joined ?_ q
  rcases hold : client.mSubscriptions.lookup opts.propId with _ | oldOpts
  · exact .inl rfl
  · dsimp only
    rcases merge_cases oldOpts opts with hm | ⟨hm, hsame⟩
    · rw [hm]
      exact .inl rfl
    · rw [hm, hsame]
      exact .inr ⟨rfl, rfl⟩

theorem mCallback_addOrUpdateSubscription (client : HalClient Rate) (opts : SubscribeOptions Rate) :
    (client.addOrUpdateSubscription opts).mCallback = client.mCallback := by
  rw [HalClient.addOrUpdateSubscription]
  split
  · rfl
  · split <;> rfl

/-- What the HAL has is what it was last asked for. -/
theorem updateHal_spec (s : SubscriptionManager Rate) (opts : SubscribeOptions Rate) (q : PropId) :
    (s.updateHalEventSubscriptionLocked opts).1.mHalEventSubscribeOptions.lookup q =
        (if q = opts.propId then some (joined (s.mHalEventSubscribeOptions.lookup q) opts)
          else s.mHalEventSubscribeOptions.lookup q) ∧
      ((s.updateHalEventSubscriptionLocked opts).2 =
          some (joined (s.mHalEventSubscribeOptions.lookup opts.propId) opts) ∨
        (s.updateHalEventSubscriptionLocked opts).2 = none ∧ s.mHalEventSubscribeOptions.lookup opts.propId =
          some (joined (s.mHalEventSubscribeOptions.lookup opts.propId) opts)) := by
  rw [SubscriptionManager.updateHalEventSubscriptionLocked]
  rcases hold : s.mHalEventSubscribeOptions.lookup opts.propId with _ | oldOpts
  · refine ⟨lookup_joined (.inl ?_) q, .inl rfl⟩
    rw [hold]
    rfl
  · dsimp only
    rcases merge_cases oldOpts opts with hm | ⟨hm, hsame⟩
    · rw [hm]
      refine ⟨lookup_joined (.inl ?_) q, .inl rfl⟩
      rw [hold]
    · rw [hm]
      refine ⟨lookup_joined (.inr ⟨rfl, ?_⟩) q, .inr ⟨rfl, by rw [hsame]⟩⟩
      rw [hold, hsame]

end Lookups

/-! ### The invariant -/

section Invariant
variable {h : History Rate} {s : SubscriptionManager Rate} {calls : List (HalCall Rate)}

/-- Subscriptions to car events are active ones or of a property with other clients, and only an active
    client has lapsed on anything. -/
structure History.Sound (h : History Rate) : Prop where
  car : ∀ opts ∈ h.car, ¬ h.Deserted opts.propId
  lapsed : ∀ c p, h.lapsed c p = true → ∃ x ∈ h.active, x.1 = c

/-- The client objects and the clients of each property. -/
structure Linked (h : History Rate) (s : SubscriptionManager Rate) : Prop where
  object : ∀ c k, s.mClients.lookup c = some k → (s.halClients[k]?).map (·.mCallback) = some c
  nodup : ∀ p, (s.clientsOf p).Nodup
  known : ∀ p, ∀ k ∈ s.clientsOf p, ∃ c, s.mClients.lookup c = some k
  linked : ∀ c k p, s.mClients.lookup c = some k → (k ∈ s.clientsOf p ↔ h.Subscribed c p)
  gone : ∀ c, s.mClients.lookup c = none → ∀ p, ¬ h.Subscribed c p

/-- The options of each client: at least those of its subscriptions, and no others unless it has lapsed. -/
structure Optioned (h : History Rate) (s : SubscriptionManager Rate) : Prop where
  covers : ∀ c k p, s.mClients.lookup c = some k → h.Subscribed c p → ∃ opts, s.optionsOf k p = some opts ∧
    ∀ flag, h.SubscribedWith c p flag → opts.flags &&& flag ≠ 0
  exact : ∀ c k p opts, s.mClients.lookup c = some k → h.lapsed c p = false → s.optionsOf k p = some opts →
    h.Subscribed c p ∧ ∀ flag, opts.flags &&& flag ≠ 0 → h.SubscribedWith c p flag

/-- The merged options are those last passed, and no property without subscriptions to car events has any. -/
def Passed (h : History Rate) (s : SubscriptionManager Rate) (calls : List (HalCall Rate)) : Prop :=
  ∀ p, (h.carOf p = [] ∧ s.mHalEventSubscribeOptions.lookup p = none) ∨
    ∃ merged, s.mHalEventSubscribeOptions.lookup p = some merged ∧ IsMerge (h.carOf p) merged ∧
      merged.propId = p ∧ lastPassed calls p = some merged

structure Inv (h : History Rate) (s : SubscriptionManager Rate) (calls : List (HalCall Rate)) : Prop where
  sound : h.Sound
  links : Linked h s
  options : Optioned h s
  passed : Passed h s calls

theorem inv_constructed : Inv (History.empty : History Rate) ⟨[], ∅, ∅, ∅⟩ [] :=
  ⟨⟨nofun, nofun⟩,
    ⟨nofun, fun _ => List.nodup_nil, nofun, nofun, fun _ _ _ => by rintro ⟨x, hx, -⟩; exact nomatch hx⟩,
    ⟨nofun, nofun⟩, fun _ => .inl ⟨rfl, rfl⟩⟩

omit [LinearOrder Rate] in
/-- Distinct clients have distinct objects. -/
theorem Linked.inj (hl : Linked h s) {c c' : ClientId} {k : ℕ} (hc : s.mClients.lookup c = some k)
    (hc' : s.mClients.lookup c' = some k) : c = c' :=
  Option.some.inj ((hl.object c k hc).symm.trans (hl.object c' k hc'))

omit [LinearOrder Rate] in
theorem Linked.lt (hl : Linked h s) {c : ClientId} {k : ℕ} (hc : s.mClients.lookup c = some k) :
    k < s.halClients.length := by
  have hobj := hl.object c k hc
  by_contra hge
  rw [List.getElem?_eq_none (not_lt.mp hge)] at hobj
  exact nomatch hobj

/-- A new client has no subscription yet. -/
theorem Inv.getOrCreate (hi : Inv h s calls) (c : ClientId) :
    Inv h (s.getOrCreateHalClientLocked c).1 calls ∧
      (s.getOrCreateHalClientLocked c).1.mClients.lookup c = some (s.getOrCreateHalClientLocked c).2 := by
  rw [SubscriptionManager.getOrCreateHalClientLocked]
  rcases hc : s.mClients.lookup c with _ | k
  · have hl := hi.links
    have hput (c' : ClientId) : (s.mClients.insert c s.halClients.length).lookup c' =
        if c' = c then some s.halClients.length else s.mClients.lookup c' := lookup_put ..
    refine ⟨⟨hi.sound, ⟨?_, hl.nodup, ?_, ?_, ?_⟩, ⟨?_, ?_⟩, hi.passed⟩, by rw [hput, if_pos rfl]⟩
    · intro c' k hk
      rw [hput] at hk
      split_ifs at hk with hcc
      · rw [← Option.some.inj hk, hcc]
        simp
      · dsimp only
        rw [List.getElem?_append_left (hl.lt hk)]
        exact hl.object c' k hk
    · intro p k hk
      obtain ⟨c', hc'⟩ := hl.known p k hk
      refine ⟨c', ?_⟩
      rw [hput, if_neg fun hcc => ?_]
      · exact hc'
      · rw [hcc, hc] at hc'
        exact nomatch hc'
    · intro c' k p hk
      rw [hput] at hk
      split_ifs at hk with hcc
      · rw [hcc]
        refine iff_of_false (fun hmem => ?_) (hl.gone c hc p)
        obtain ⟨c₀, hc₀⟩ := hl.known p k hmem
        have := hl.lt hc₀
        have := Option.some.inj hk
        omega
      · exact hl.linked c' k p hk
    · intro c' hc' p
      rw [hput] at hc'
      split_ifs at hc' with hcc
      exact hl.gone c' hc' p
    · intro c' k p hk hsub
      rw [hput] at hk
      split_ifs at hk with hcc
      · rw [hcc] at hsub
        exact (hl.gone c hc p hsub).elim
      · rw [SubscriptionManager.optionsOf, List.getElem?_append_left (hl.lt hk)]
        exact hi.options.covers c' k p hk hsub
    · intro c' k p opts hk hlapsed hopts
      rw [hput] at hk
      split_ifs at hk with hcc
      · rw [SubscriptionManager.optionsOf, ← Option.some.inj hk] at hopts
        simp at hopts
      · rw [SubscriptionManager.optionsOf, List.getElem?_append_left (hl.lt hk)] at hopts
        exact hi.options.exact c' k p opts hk hlapsed hopts
  · exact ⟨hi, hc⟩

/-! ### Subscribing -/

omit [LinearOrder Rate] in
/-- What holds of a request after a subscription held of one before, or holds of the new one. -/
theorem exists_active_subscribe {c : ClientId} {opts : SubscribeOptions Rate}
    {P : ClientId × SubscribeOptions Rate → Prop} :
    (∃ x ∈ (h.subscribe c opts).active, P x) ↔ (∃ x ∈ h.active, P x) ∨ P (c, opts) := by
  constructor
  · rintro ⟨x, hx, hP⟩
    rcases List.mem_append.mp hx with hx | hx
    · exact .inl ⟨x, hx, hP⟩
    · rw [List.mem_singleton.mp hx] at hP
      exact .inr hP
  · rintro (⟨x, hx, hP⟩ | hP)
    · exact ⟨x, List.mem_append_left _ hx, hP⟩
    · exact ⟨_, List.mem_append_right _ (List.mem_singleton_self _), hP⟩

omit [LinearOrder Rate] in
theorem subscribed_subscribe {c c' : ClientId} {opts : SubscribeOptions Rate} {p : PropId} :
    (h.subscribe c opts).Subscribed c' p ↔ h.Subscribed c' p ∨ c' = c ∧ p = opts.propId := by
  rw [@eq_comm _ c', @eq_comm _ p]
  exact exists_active_subscribe

omit [LinearOrder Rate] in
theorem subscribedWith_subscribe {c c' : ClientId} {opts : SubscribeOptions Rate} {p : PropId}
    {flag : SubscribeFlags} : (h.subscribe c opts).SubscribedWith c' p flag ↔
      h.SubscribedWith c' p flag ∨ c' = c ∧ p = opts.propId ∧ opts.flags &&& flag ≠ 0 := by
  rw [@eq_comm _ c', @eq_comm _ p]
  exact exists_active_subscribe

omit [LinearOrder Rate] in
theorem History.Sound.subscribe (hs : h.Sound) (c : ClientId) (opts : SubscribeOptions Rate) :
    (h.subscribe c opts).Sound := by
  have hkeep {p : PropId} (hp : ¬ h.Deserted p) : ¬ (h.subscribe c opts).Deserted p := fun hd =>
    hp fun x hx => hd x (List.mem_append_left _ hx)
  refine ⟨fun x hx => ?_, fun c' p hl => ?_⟩
  · rw [History.subscribe] at hx
    dsimp only at hx
    split_ifs at hx
    · rcases List.mem_append.mp hx with hx | hx
      · exact hkeep (hs.car x hx)
      · intro hd
        exact hd (c, opts) (List.mem_append_right _ (List.mem_singleton_self _))
          (congrArg SubscribeOptions.propId (List.mem_singleton.mp hx).symm)
    · exact hkeep (hs.car x hx)
  · obtain ⟨x, hx, hc⟩ := hs.lapsed c' p hl
    exact ⟨x, List.mem_append_left _ hx, hc⟩

omit [LinearOrder Rate] in
theorem carOf_subscribe (h : History Rate) (c : ClientId) (opts : SubscribeOptions Rate) (p : PropId) :
    (h.subscribe c opts).carOf p =
      if EVENTS_FROM_CAR &&& opts.flags ≠ 0 ∧ p = opts.propId then h.carOf p ++ [opts] else h.carOf p := by
  rw [History.carOf, History.subscribe, History.carOf]
  dsimp only
  by_cases hcar : EVENTS_FROM_CAR &&& opts.flags ≠ 0
  · rw [if_pos hcar, List.filter_append]
    by_cases hp : p = opts.propId
    · rw [if_pos ⟨hcar, hp⟩, List.filter_cons_of_pos (by simpa using hp.symm), List.filter_nil]
    · rw [if_neg fun hh => hp hh.2, List.filter_cons_of_neg (by simpa using Ne.symm hp), List.filter_nil,
        List.append_nil]
  · rw [if_neg hcar, if_neg fun hh => hcar hh.1]

omit [LinearOrder Rate] in
theorem lastPassed_append (calls : List (HalCall Rate)) (o : Option (SubscribeOptions Rate)) (p : PropId) :
    lastPassed (calls ++ o.toList.map .subscribe) p =
      match o with
      | some opts => if opts.propId = p then some opts else lastPassed calls p
      | none => lastPassed calls p := by
  cases o with
  | none => simp [lastPassed]
  | some opts =>
    rw [lastPassed, List.filterMap_append]
    dsimp only [Option.toList, List.map]
    split_ifs with hp <;> simp [lastPassed, hp]

/-- What one option changes outside the HAL's view. -/
structure AddsOption (client : ℕ) (opts : SubscribeOptions Rate) (s s' : SubscriptionManager Rate) :
    Prop where
  clients : s'.mClients = s.mClients
  objects : s'.halClients = s.halClients.modify client (·.addOrUpdateSubscription opts)
  props : s'.mPropToClients =
    s.mPropToClients.insert opts.propId (addOrUpdate (s.clientsOf opts.propId) client)

theorem addOption_adds (client : ℕ) (s : SubscriptionManager Rate) (opts : SubscribeOptions Rate) :
    AddsOption client opts s (SubscriptionManager.addOption client s opts).1 := by
  have hkeeps (t : SubscriptionManager Rate) :
      (t.updateHalEventSubscriptionLocked opts).1.mClients = t.mClients ∧
        (t.updateHalEventSubscriptionLocked opts).1.halClients = t.halClients ∧
        (t.updateHalEventSubscriptionLocked opts).1.mPropToClients = t.mPropToClients := by
    rw [SubscriptionManager.updateHalEventSubscriptionLocked]
    split
    · exact ⟨rfl, rfl, rfl⟩
    · split <;> exact ⟨rfl, rfl, rfl⟩
  rw [SubscriptionManager.addOption]
  split_ifs
  · exact ⟨(hkeeps _).1, (hkeeps _).2.1, (hkeeps _).2.2⟩
  · exact ⟨rfl, rfl, rfl⟩

variable {s' : SubscriptionManager Rate} {c : ClientId} {client : ℕ} {opts : SubscribeOptions Rate}

theorem AddsOption.clientsOf (ha : AddsOption client opts s s') (p : PropId) : s'.clientsOf p =
    if p = opts.propId then addOrUpdate (s.clientsOf p) client else s.clientsOf p := by
  rw [SubscriptionManager.clientsOf, ha.props, lookup_put]
  split_ifs with hp
  · rw [hp]
    rfl
  · rfl

theorem AddsOption.optionsOf (ha : AddsOption client opts s s') (hlt : client < s.halClients.length)
    (k : ℕ) (p : PropId) : s'.optionsOf k p =
      if k = client ∧ p = opts.propId then some (joined (s.optionsOf k p) opts) else s.optionsOf k p := by
  rw [SubscriptionManager.optionsOf, SubscriptionManager.optionsOf, ha.objects, List.getElem?_modify]
  by_cases hk : client = k
  · rw [← hk, List.getElem?_eq_getElem hlt]
    simp only [if_true, Option.map_eq_map, Option.map_some, Option.bind_some, lookup_addOrUpdateSubscription,
      true_and]
  · rw [if_neg fun hh => hk hh.1.symm]
    simp [hk]

theorem Linked.subscribe (hl : Linked h s) (ha : AddsOption client opts s s')
    (hc : s.mClients.lookup c = some client) : Linked (h.subscribe c opts) s' := by
  refine ⟨fun c' k hk => ?_, fun p => ?_, fun p k hk => ?_, fun c' k p hk => ?_, fun c' hc' p hsub => ?_⟩
  · rw [ha.clients] at hk
    rw [ha.objects, List.getElem?_modify, ← hl.object c' k hk]
    rcases s.halClients[k]? with _ | object
    · rfl
    · by_cases hkk : client = k <;> simp [hkk, mCallback_addOrUpdateSubscription]
  · rw [ha.clientsOf]
    split_ifs
    · exact nodup_addOrUpdate (hl.nodup p) client
    · exact hl.nodup p
  · rw [ha.clientsOf] at hk
    rw [ha.clients]
    split_ifs at hk
    · rcases mem_addOrUpdate.mp hk with rfl | hk
      · exact ⟨c, hc⟩
      · exact hl.known p k hk
    · exact hl.known p k hk
  · rw [ha.clients] at hk
    have hsame : k = client ↔ c' = c :=
      ⟨fun hkk => hl.inj hk (hkk ▸ hc), fun hcc => Option.some.inj (hk.symm.trans (hcc ▸ hc))⟩
    rw [ha.clientsOf, subscribed_subscribe]
    split_ifs with hp
    · rw [mem_addOrUpdate, hl.linked c' k p hk, hsame, and_iff_left hp, or_comm]
    · rw [hl.linked c' k p hk, or_iff_left fun hh => hp hh.2]
  · rw [ha.clients] at hc'
    rcases subscribed_subscribe.mp hsub with hsub | ⟨rfl, -⟩
    · exact hl.gone c' hc' p hsub
    · rw [hc] at hc'
      exact nomatch hc'

theorem Optioned.subscribe (ho : Optioned h s) (hl : Linked h s) (ha : AddsOption client opts s s')
    (hc : s.mClients.lookup c = some client) : Optioned (h.subscribe c opts) s' := by
  refine ⟨fun c' k p hk hsub => ?_, fun c' k p o hk hlapsed hopts => ?_⟩
  · rw [ha.clients] at hk
    rw [ha.optionsOf (hl.lt hc)]
    split_ifs with hkp
    · obtain ⟨rfl, rfl⟩ := hkp
      refine ⟨_, rfl, fun flag hwith => (joined_flags _ _).mpr ?_⟩
      rcases subscribedWith_subscribe.mp hwith with hwith | ⟨-, -, hflag⟩
      · obtain ⟨x, hx, hxc, hxp, hflag⟩ := hwith
        obtain ⟨old, hold, hcov⟩ := ho.covers c' k opts.propId hk ⟨x, hx, hxc, hxp⟩
        exact .inl ⟨old, hold, hcov flag ⟨x, hx, hxc, hxp, hflag⟩⟩
      · exact .inr hflag
    · have hother : ¬ (c' = c ∧ p = opts.propId) := by
        rintro ⟨rfl, rfl⟩
        exact hkp ⟨Option.some.inj (hk.symm.trans hc), rfl⟩
      obtain ⟨old, hold, hcov⟩ := ho.covers c' k p hk ((subscribed_subscribe.mp hsub).resolve_right hother)
      refine ⟨old, hold, fun flag hwith => hcov flag ?_⟩
      exact (subscribedWith_subscribe.mp hwith).resolve_right fun hh => hother ⟨hh.1, hh.2.1⟩
  · rw [ha.clients] at hk
    rw [ha.optionsOf (hl.lt hc)] at hopts
    split_ifs at hopts with hkp
    · obtain ⟨rfl, rfl⟩ := hkp
      obtain rfl := hl.inj hk hc
      refine ⟨subscribed_subscribe.mpr (.inr ⟨rfl, rfl⟩), fun flag hflag => subscribedWith_subscribe.mpr ?_⟩
      rw [← Option.some.inj hopts, joined_flags] at hflag
      rcases hflag with ⟨old, hold, hflag⟩ | hflag
      · exact .inl ((ho.exact c' k opts.propId old hk hlapsed hold).2 flag hflag)
      · exact .inr ⟨rfl, rfl, hflag⟩
    · obtain ⟨hsub, hcov⟩ := ho.exact c' k p o hk hlapsed hopts
      exact ⟨subscribed_subscribe.mpr (.inl hsub),
        fun flag hflag => subscribedWith_subscribe.mpr (.inl (hcov flag hflag))⟩

theorem Passed.subscribe (hp : Passed h s calls) (client : ℕ) (c : ClientId) (opts : SubscribeOptions Rate) :
    Passed (h.subscribe c opts) (SubscriptionManager.addOption client s opts).1
      (calls ++ (SubscriptionManager.addOption client s opts).2) := by
  intro p
  rw [carOf_subscribe, SubscriptionManager.addOption]
  by_cases hcar : EVENTS_FROM_CAR &&& opts.flags ≠ 0
  · simp only [if_pos hcar]
    -- the call sees the same merged options as before
    set t := ({ s with halClients := s.halClients.modify client (·.addOrUpdateSubscription opts) }
      : SubscriptionManager Rate).addClientToPropMapLocked opts.propId client with ht
    have hold : t.mHalEventSubscribeOptions = s.mHalEventSubscribeOptions := rfl
    obtain ⟨hlookup, hout⟩ := updateHal_spec t opts p
    rw [hold] at hlookup hout
    rw [hlookup, lastPassed_append]
    by_cases hpo : p = opts.propId
    · rw [if_pos ⟨hcar, hpo⟩, if_pos hpo]
      have hmerge : IsMerge (h.carOf p ++ [opts]) (joined (s.mHalEventSubscribeOptions.lookup p) opts) ∧
          (joined (s.mHalEventSubscribeOptions.lookup p) opts).propId = p := by
        rcases hp p with ⟨hnone, hl⟩ | ⟨old, hl, hm, hid, -⟩
        · rw [hnone, hl]
          exact ⟨isMerge_single opts, hpo.symm⟩
        · rw [hl]
          exact ⟨hm.join opts, hid⟩
      refine .inr ⟨_, rfl, hmerge.1, hmerge.2, ?_⟩
      rw [← hpo] at hout
      rcases hout with hout | ⟨hout, hsame⟩
      · rw [hout]
        exact if_pos hmerge.2
      · rw [hout]
        rcases hp p with ⟨-, hl⟩ | ⟨old, hl, -, -, hlast⟩
        · rw [hl] at hsame
          exact nomatch hsame
        · exact hlast.trans (hl.symm.trans hsame)
    · rw [if_neg fun hh => hpo hh.2, if_neg hpo]
      have hlast : (match (t.updateHalEventSubscriptionLocked opts).2 with
          | some o => if o.propId = p then some o else lastPassed calls p
          | none => lastPassed calls p) = lastPassed calls p := by
        have hid : (joined (s.mHalEventSubscribeOptions.lookup opts.propId) opts).propId = opts.propId := by
          rcases hp opts.propId with ⟨-, hl⟩ | ⟨old, hl, -, hid, -⟩
          · rw [hl]
            rfl
          · rw [hl]
            exact hid
        rcases hout with hout | ⟨hout, -⟩
        · rw [hout]
          exact if_neg fun hh => hpo (hh.symm.trans hid)
        · rw [hout]
      rw [hlast]
      exact hp p
  · simp only [if_neg hcar, List.append_nil]
    rw [if_neg fun hh => hcar hh.1]
    exact hp p

/-- One option of a subscription. -/
theorem Inv.subscribe (hi : Inv h s calls) (hc : s.mClients.lookup c = some client)
    (opts : SubscribeOptions Rate) : Inv (h.subscribe c opts) (SubscriptionManager.addOption client s opts).1
      (calls ++ (SubscriptionManager.addOption client s opts).2) :=
  have hadds := addOption_adds client s opts
  ⟨hi.sound.subscribe c opts, hi.links.subscribe hadds hc, hi.options.subscribe hi.links hadds hc,
    hi.passed.subscribe client c opts⟩

theorem Inv.addOrUpdateSubscription (hi : Inv h s calls) (c : ClientId)
    (optionList : List (SubscribeOptions Rate)) : Inv (h.record (.subscribe c optionList))
      (s.addOrUpdateSubscription c optionList).1 (calls ++ (s.addOrUpdateSubscription c optionList).2) := by
  obtain ⟨hcreated, hc⟩ := hi.getOrCreate c
  rw [SubscriptionManager.addOrUpdateSubscription, History.record]
  clear hi
  generalize (s.getOrCreateHalClientLocked c).1 = t at hcreated hc
  generalize (s.getOrCreateHalClientLocked c).2 = client at hc
  induction optionList generalizing h t calls with
  | nil => exact (List.append_nil calls).symm ▸ hcreated
  | cons o os ih =>
    rw [SubscriptionManager.forEach, List.foldl_cons]
    dsimp only
    rw [← List.append_assoc]
    have hkept := (addOption_adds client t o).clients
    exact ih _ (hcreated.subscribe hc o) (hkept ▸ hc)

/-! ### Unsubscribing -/

omit [LinearOrder Rate] in
/-- A request of a client for a property is there afterwards if it was, and the two are not parted. -/
theorem exists_active_drop {gone : ClientId → PropId → Bool} {c : ClientId} {p : PropId}
    {P : ClientId × SubscribeOptions Rate → Prop} (hP : ∀ x, P x → x.1 = c ∧ x.2.propId = p) :
    (∃ x ∈ (h.drop gone).active, P x) ↔ (∃ x ∈ h.active, P x) ∧ gone c p = false := by
  constructor
  · rintro ⟨x, hx, hof⟩
    obtain ⟨rfl, rfl⟩ := hP x hof
    obtain ⟨hx, hgone⟩ := List.mem_filter.mp hx
    exact ⟨⟨x, hx, hof⟩, by simpa using hgone⟩
  · rintro ⟨⟨x, hx, hof⟩, hgone⟩
    obtain ⟨rfl, rfl⟩ := hP x hof
    exact ⟨x, List.mem_filter.mpr ⟨hx, by simpa using hgone⟩, hof⟩

omit [LinearOrder Rate] in
theorem subscribed_drop {gone : ClientId → PropId → Bool} {c : ClientId} {p : PropId} :
    (h.drop gone).Subscribed c p ↔ h.Subscribed c p ∧ gone c p = false :=
  exists_active_drop fun _ hof => hof

omit [LinearOrder Rate] in
theorem subscribedWith_drop {gone : ClientId → PropId → Bool} {c : ClientId} {p : PropId}
    {flag : SubscribeFlags} :
    (h.drop gone).SubscribedWith c p flag ↔ h.SubscribedWith c p flag ∧ gone c p = false :=
  exists_active_drop fun _ hof => ⟨hof.1, hof.2.1⟩

omit [LinearOrder Rate] in
theorem deserted_iff {p : PropId} : h.Deserted p ↔ ∀ c, ¬ h.Subscribed c p :=
  ⟨fun hd _ ⟨x, hx, _, hp⟩ => hd x hx hp, fun hd x hx hp => hd x.1 ⟨x, hx, rfl, hp⟩⟩

omit [LinearOrder Rate] in
theorem any_active_iff {c : ClientId} : (h.active.any fun x => x.1 = c) = true ↔ ∃ p, h.Subscribed c p := by
  rw [List.any_eq_true]
  constructor
  · rintro ⟨x, hx, hc⟩
    exact ⟨_, x, hx, of_decide_eq_true hc, rfl⟩
  · rintro ⟨p, x, hx, hc, -⟩
    exact ⟨x, hx, decide_eq_true hc⟩

omit [LinearOrder Rate] in
theorem any_prop_iff {p : PropId} : (h.active.any fun x => x.2.propId = p) = true ↔ ¬ h.Deserted p := by
  rw [List.any_eq_true, History.Deserted]
  push Not
  simp only [decide_eq_true_eq]

omit [LinearOrder Rate] in
theorem lapsed_drop {gone : ClientId → PropId → Bool} {c : ClientId} {p : PropId} :
    (h.drop gone).lapsed c p = true ↔ (h.lapsed c p = true ∨ gone c p = true ∧ h.Subscribed c p) ∧
      ∃ q, (h.drop gone).Subscribed c q := by
  rw [← any_active_iff]
  simp only [History.drop, History.Subscribed, Bool.and_eq_true, Bool.or_eq_true, List.any_eq_true,
    decide_eq_true_eq]

omit [LinearOrder Rate] in
theorem sound_drop (h : History Rate) (gone : ClientId → PropId → Bool) : (h.drop gone).Sound := by
  refine ⟨fun opts hopts => ?_, fun c p hl => ?_⟩
  · exact any_prop_iff.mp (List.mem_filter.mp hopts).2
  · rw [History.drop] at hl
    obtain ⟨x, hx, hc⟩ := List.any_eq_true.mp (Bool.and_eq_true _ _ ▸ hl).2
    exact ⟨x, hx, of_decide_eq_true hc⟩

omit [LinearOrder Rate] in
theorem carOf_drop (h : History Rate) (gone : ClientId → PropId → Bool) (p : PropId) :
    (h.drop gone).carOf p = if (h.drop gone).Deserted p then [] else h.carOf p := by
  rw [History.carOf]
  split_ifs with hd
  · rw [List.filter_eq_nil_iff]
    intro opts hopts hp
    refine (sound_drop h gone).car opts hopts ?_
    rwa [of_decide_eq_true hp]
  · rw [History.carOf]
    change List.filter _ (List.filter _ h.car) = _
    rw [List.filter_filter]
    refine List.filter_congr fun opts _ => ?_
    by_cases hp : opts.propId = p
    · rw [decide_eq_true hp, Bool.true_and, hp]
      exact any_prop_iff.mpr hd
    · rw [decide_eq_false hp, Bool.false_and]

/-- What an unsubscribe of a known client changes outside the HAL's view. -/
structure RemovesClient (c : ClientId) (client : ℕ) (p : PropId) (s s' : SubscriptionManager Rate) :
    Prop where
  objects : s'.halClients = s.halClients
  props : ∀ q, s'.clientsOf q = if q = p then (s.clientsOf q).erase client else s.clientsOf q
  clients : (∃ q, client ∈ s'.clientsOf q) ∧ s'.mClients = s.mClients ∨
    (∀ q, client ∉ s'.clientsOf q) ∧ s'.mClients = s.mClients.erase c

omit [LinearOrder Rate] in
/-- The loop over `mPropToClients` finds a client that is linked to any property. -/
theorem any_entries_iff (s : SubscriptionManager Rate) (client : ℕ) :
    (s.mPropToClients.entries.any fun e => client ∈ e.2) = true ↔ ∃ q, client ∈ s.clientsOf q := by
  rw [List.any_eq_true]
  constructor
  · rintro ⟨⟨q, clients⟩, he, hmem⟩
    refine ⟨q, ?_⟩
    have hq : clients ∈ s.mPropToClients.lookup q := AList.mem_lookup_iff.mpr he
    rw [SubscriptionManager.clientsOf, hq]
    exact of_decide_eq_true hmem
  · rintro ⟨q, hmem⟩
    rw [SubscriptionManager.clientsOf] at hmem
    rcases hq : s.mPropToClients.lookup q with _ | clients <;> rw [hq] at hmem
    · exact nomatch hmem
    · exact ⟨⟨q, clients⟩, AList.mem_lookup_iff.mp hq, decide_eq_true hmem⟩

omit [LinearOrder Rate] in
theorem removeClient_removes (s : SubscriptionManager Rate) (c : ClientId) (client : ℕ) (p : PropId) :
    RemovesClient c client p s (s.removeClient c client p) ∧
      (s.removeClient c client p).mHalEventSubscribeOptions = s.mHalEventSubscribeOptions := by
  -- the map without the link, before the client itself is looked at
  obtain ⟨t, ht, hobj, hcl, hhal, hprops⟩ : ∃ t : SubscriptionManager Rate,
      s.removeClient c client p = (if t.mPropToClients.entries.any fun e => client ∈ e.2 then t
        else { t with mClients := t.mClients.erase c }) ∧ t.halClients = s.halClients ∧
      t.mClients = s.mClients ∧ t.mHalEventSubscribeOptions = s.mHalEventSubscribeOptions ∧
      ∀ q, t.clientsOf q = if q = p then (s.clientsOf q).erase client else s.clientsOf q := by
    refine ⟨_, rfl, ?_⟩
    rw [SubscriptionManager.getClientsForPropertyLocked]
    rcases hp : s.mPropToClients.lookup p with _ | clients
    · refine ⟨rfl, rfl, rfl, fun q => ?_⟩
      split_ifs with hq
      · rw [SubscriptionManager.clientsOf, hq, hp]
        rfl
      · rfl
    · dsimp only
      split_ifs with hempty
      · refine ⟨rfl, rfl, rfl, fun q => ?_⟩
        rw [SubscriptionManager.clientsOf, lookup_drop, SubscriptionManager.clientsOf]
        split_ifs with hq
        · rw [hq, hp]
          exact hempty.symm
        · rfl
      · refine ⟨rfl, rfl, rfl, fun q => ?_⟩
        rw [SubscriptionManager.clientsOf, lookup_put, SubscriptionManager.clientsOf]
        split_ifs with hq
        · rw [hq, hp]
          rfl
        · rfl
  rw [ht]
  split_ifs with hany
  · exact ⟨⟨hobj, hprops, .inl ⟨(any_entries_iff t client).mp hany, hcl⟩⟩, hhal⟩
  · refine ⟨⟨hobj, hprops, .inr ⟨fun q hmem => hany ((any_entries_iff t client).mpr ⟨q, hmem⟩), ?_⟩⟩, hhal⟩
    rw [← hcl]

section Removes
variable {p : PropId}

omit [LinearOrder Rate] in
theorem RemovesClient.mem_iff (hr : RemovesClient c client p s s') (hl : Linked h s) {k : ℕ} {q : PropId} :
    k ∈ s'.clientsOf q ↔ k ∈ s.clientsOf q ∧ ¬ (k = client ∧ q = p) := by
  rw [hr.props]
  split_ifs with hq
  · rw [(hl.nodup q).mem_erase_iff, and_comm, and_iff_left hq]
  · exact (and_iff_left fun hh => hq hh.2).symm

omit [LinearOrder Rate] in
/-- No client is added, and only one without any property left is forgotten. -/
theorem RemovesClient.lookup (hr : RemovesClient c client p s s') {c' : ClientId} {k : ℕ} :
    s'.mClients.lookup c' = some k → s.mClients.lookup c' = some k ∧
      (c' = c → ∃ q, client ∈ s'.clientsOf q) := by
  intro hk
  rcases hr.clients with ⟨hsome, heq⟩ | ⟨-, heq⟩
  · exact ⟨heq ▸ hk, fun _ => hsome⟩
  · rw [heq, lookup_drop] at hk
    split_ifs at hk with hcc
    exact ⟨hk, fun hh => (hcc hh).elim⟩

omit [LinearOrder Rate] in
theorem RemovesClient.lookup_none (hr : RemovesClient c client p s s') {c' : ClientId}
    (hc' : s'.mClients.lookup c' = none) :
    s.mClients.lookup c' = none ∨ c' = c ∧ ∀ q, client ∉ s'.clientsOf q := by
  rcases hr.clients with ⟨-, heq⟩ | ⟨hnone, heq⟩
  · exact .inl (heq ▸ hc')
  · rw [heq, lookup_drop] at hc'
    split_ifs at hc' with hcc
    · exact .inr ⟨hcc, hnone⟩
    · exact .inl hc'

omit [LinearOrder Rate] in
theorem Linked.unsubscribe (hl : Linked h s) (hr : RemovesClient c client p s s')
    (hc : s.mClients.lookup c = some client) : Linked (h.drop fun c' q => c' = c && q = p) s' := by
  refine ⟨fun c' k hk => ?_, fun q => ?_, fun q k hk => ?_, fun c' k q hk => ?_, fun c' hc' q hsub => ?_⟩
  · rw [hr.objects]
    exact hl.object c' k (hr.lookup hk).1
  · rw [hr.props]
    split_ifs
    · exact (hl.nodup q).erase client
    · exact hl.nodup q
  · obtain ⟨c', hc'⟩ := hl.known q k ((hr.mem_iff hl).mp hk).1
    refine ⟨c', ?_⟩
    rcases hr.clients with ⟨-, heq⟩ | ⟨hnone, heq⟩
    · exact heq ▸ hc'
    · rw [heq, lookup_drop, if_neg]
      · exact hc'
      · rintro rfl
        exact hnone q (Option.some.inj (hc.symm.trans hc') ▸ hk)
  · have hk := (hr.lookup hk).1
    have hsame : k = client ↔ c' = c :=
      ⟨fun hkk => hl.inj hk (hkk ▸ hc), fun hcc => Option.some.inj (hk.symm.trans (hcc ▸ hc))⟩
    rw [hr.mem_iff hl, hl.linked c' k q hk, hsame, subscribed_drop]
    simp
  · obtain ⟨hsub', hkeep⟩ := subscribed_drop.mp hsub
    rcases hr.lookup_none hc' with hnone | ⟨rfl, hnone⟩
    · exact hl.gone c' hnone q hsub'
    · refine hnone q ((hr.mem_iff hl).mpr ⟨(hl.linked c' client q hc).mpr hsub', fun hh => ?_⟩)
      simp [hh.2] at hkeep

omit [LinearOrder Rate] in
theorem Optioned.unsubscribe (ho : Optioned h s) (hs : h.Sound) (hl : Linked h s)
    (hr : RemovesClient c client p s s') (hc : s.mClients.lookup c = some client) :
    Optioned (h.drop fun c' q => c' = c && q = p) s' := by
  have hopt (k : ℕ) (q : PropId) : s'.optionsOf k q = s.optionsOf k q := by
    rw [SubscriptionManager.optionsOf, hr.objects]
    rfl
  refine ⟨fun c' k q hk hsub => ?_, fun c' k q opts hk hlapsed hopts => ?_⟩
  · obtain ⟨old, hold, hcov⟩ := ho.covers c' k q (hr.lookup hk).1 (subscribed_drop.mp hsub).1
    rw [hopt]
    exact ⟨old, hold, fun flag hwith => hcov flag (subscribedWith_drop.mp hwith).1⟩
  · obtain ⟨hk, hkept⟩ := hr.lookup hk
    rw [hopt] at hopts
    -- a client that is still known has some subscription left
    have hleft (hh : h.lapsed c' q = true ∨ (decide (c' = c) && decide (q = p)) = true ∧ h.Subscribed c' q) :
        ∃ q', (h.drop fun c' q => c' = c && q = p).Subscribed c' q' := by
      by_cases hcc : c' = c
      · obtain ⟨q', hq'⟩ := hkept hcc
        obtain rfl := Option.some.inj (hk.symm.trans (hcc ▸ hc))
        refine ⟨q', ((hl.unsubscribe hr hc).linked c' k q' ?_).mp hq'⟩
        rcases hr.clients with ⟨-, heq⟩ | ⟨hnone, -⟩
        · exact heq ▸ hk
        · exact (hnone q' hq').elim
      · obtain ⟨x, hx, hxc⟩ := hs.lapsed c' q (hh.resolve_right fun h' => by simp [hcc] at h')
        exact ⟨x.2.propId, subscribed_drop.mpr ⟨⟨x, hx, hxc, rfl⟩, by simp [hcc]⟩⟩
    have hnot (hh : h.lapsed c' q = true ∨ (decide (c' = c) && decide (q = p)) = true ∧ h.Subscribed c' q) :
        False := by
      have hl := lapsed_drop.mpr ⟨hh, hleft hh⟩
      rw [hlapsed] at hl
      exact nomatch hl
    obtain ⟨hsub, hexact⟩ :=
      ho.exact c' k q opts hk (Bool.eq_false_of_not_eq_true fun hh => hnot (.inl hh)) hopts
    have hstays := Bool.eq_false_of_not_eq_true fun hh => hnot (.inr ⟨hh, hsub⟩)
    exact ⟨subscribed_drop.mpr ⟨hsub, hstays⟩,
      fun flag hflag => subscribedWith_drop.mpr ⟨hexact flag hflag, hstays⟩⟩

omit [LinearOrder Rate] in
theorem drop_nothing (hs : h.Sound) (gone : ClientId → PropId → Bool)
    (hgone : ∀ c p, h.Subscribed c p → gone c p = false) : h.drop gone = h := by
  have hactive : (h.active.filter fun x => !gone x.1 x.2.propId) = h.active :=
    List.filter_eq_self.mpr fun x hx => by rw [hgone _ _ ⟨x, hx, rfl, rfl⟩]; rfl
  have hcar : (h.car.filter fun opts => h.active.any fun x => x.2.propId = opts.propId) = h.car :=
    List.filter_eq_self.mpr fun opts hopts => any_prop_iff.mpr (hs.car opts hopts)
  have hlapsed : (h.drop gone).lapsed = h.lapsed := by
    funext c p
    rw [Bool.eq_iff_iff, lapsed_drop]
    constructor
    · rintro ⟨hl | ⟨hg, hsub⟩, -⟩
      · exact hl
      · rw [hgone c p hsub] at hg
        exact nomatch hg
    · intro hl
      obtain ⟨x, hx, hc⟩ := hs.lapsed c p hl
      exact ⟨.inl hl, x.2.propId, subscribed_drop.mpr ⟨⟨x, hx, hc, rfl⟩, hgone _ _ ⟨x, hx, hc, rfl⟩⟩⟩
  rw [show h.drop gone = ⟨_, _, (h.drop gone).lapsed⟩ from rfl, hlapsed, hactive, hcar]

omit [LinearOrder Rate] in
/-- A property is deserted exactly when its vector is empty. -/
theorem Linked.deserted_iff (hl : Linked h s) (p : PropId) : h.Deserted p ↔ s.clientsOf p = [] := by
  rw [ImxHal.Vehicle.deserted_iff]
  constructor
  · intro hd
    refine List.eq_nil_iff_forall_not_mem.mpr fun k hk => ?_
    obtain ⟨c, hc⟩ := hl.known p k hk
    exact hd c ((hl.linked c k p hc).mp hk)
  · intro hnil c hsub
    rcases hc : s.mClients.lookup c with _ | k
    · exact hl.gone c hc p hsub
    · have hmem := (hl.linked c k p hc).mpr hsub
      rw [hnil] at hmem
      exact nomatch hmem

omit [LinearOrder Rate] in
/-- The maps behind an unsubscribe, with the merged options of the HAL still in place. -/
theorem unsubscribe_links (hs : h.Sound) (hl : Linked h s) (ho : Optioned h s) (c : ClientId) (p : PropId) :
    ∃ t : SubscriptionManager Rate, t.mHalEventSubscribeOptions = s.mHalEventSubscribeOptions ∧
      Linked (h.record (.unsubscribe c p)) t ∧ Optioned (h.record (.unsubscribe c p)) t ∧
      s.unsubscribe c p = if t.clientsOf p = [] then
        ({ t with mHalEventSubscribeOptions := t.mHalEventSubscribeOptions.erase p },
          [.mOnPropertyUnsubscribed p])
        else (t, []) := by
  rw [SubscriptionManager.unsubscribe, History.record]
  rcases hc : s.mClients.lookup c with _ | client
  · have hsame : (h.drop fun c' q => c' = c && q = p) = h := by
      refine drop_nothing hs _ fun c' q hsub => ?_
      rw [Bool.and_eq_false_imp]
      intro hcc
      exact (hl.gone c hc q (of_decide_eq_true hcc ▸ hsub)).elim
    rw [hsame]
    exact ⟨s, rfl, hl, ho, rfl⟩
  · obtain ⟨hr, hhal⟩ := removeClient_removes s c client p
    refine ⟨s.removeClient c client p, hhal, hl.unsubscribe hr hc, ho.unsubscribe hs hl hr hc, ?_⟩
    rw [hr.props, if_pos rfl]
    rfl

omit [LinearOrder Rate] in
theorem carOf_kept (hs : h.Sound) {gone : ClientId → PropId → Bool} {q : PropId}
    (hd : (h.drop gone).Deserted q → h.Deserted q) : (h.drop gone).carOf q = h.carOf q := by
  rw [carOf_drop]
  split_ifs with hq
  · symm
    rw [History.carOf, List.filter_eq_nil_iff]
    intro opts hopts hp
    exact hs.car opts hopts (of_decide_eq_true hp ▸ hd hq)
  · rfl

theorem Inv.unsubscribe (hi : Inv h s calls) (c : ClientId) (p : PropId) :
    Inv (h.record (.unsubscribe c p)) (s.unsubscribe c p).1 (calls ++ (s.unsubscribe c p).2) ∧
      (s.unsubscribe c p).2 =
        if (h.record (.unsubscribe c p)).Deserted p then [.mOnPropertyUnsubscribed p] else [] := by
  obtain ⟨t, hhal, hl, ho, heq⟩ := unsubscribe_links hi.sound hi.links hi.options c p
  have hother {q : PropId} (hq : q ≠ p) : (h.record (.unsubscribe c p)).carOf q = h.carOf q := by
    refine carOf_kept hi.sound fun hd => deserted_iff.mpr fun c' hsub => ?_
    exact deserted_iff.mp hd c' (subscribed_drop.mpr ⟨hsub, by simp [hq]⟩)
  have hsound : (h.record (.unsubscribe c p)).Sound := sound_drop h fun c' q => c' = c && q = p
  have hcar : (h.record (.unsubscribe c p)).carOf p = if (h.record (.unsubscribe c p)).Deserted p then []
    else h.carOf p := carOf_drop h (fun c' q => c' = c && q = p) p
  rw [heq]
  simp only [hl.deserted_iff] at hcar ⊢
  split_ifs at hcar ⊢ with hnil
  · refine ⟨⟨hsound, ⟨hl.object, hl.nodup, hl.known, hl.linked, hl.gone⟩, ⟨ho.covers, ho.exact⟩, ?_⟩, rfl⟩
    intro q
    have hlast : lastPassed (calls ++ [.mOnPropertyUnsubscribed p]) q = lastPassed calls q := by
      simp [lastPassed]
    dsimp only
    rw [lookup_drop, hhal, hlast]
    split_ifs with hq
    · exact .inl ⟨hq ▸ hcar, rfl⟩
    · rw [hother hq]
      exact hi.passed q
  · refine ⟨⟨hsound, hl, ho, fun q => ?_⟩, rfl⟩
    have hkept : (h.record (.unsubscribe c p)).carOf q = h.carOf q := by
      by_cases hq : q = p
      · rw [hq, hcar]
      · exact hother hq
    dsimp only
    rw [hkept, hhal, List.append_nil]
    exact hi.passed q

/-! ### The death of a client -/

omit [LinearOrder Rate] in
theorem drop_congr (h : History Rate) (gone gone' : ClientId → PropId → Bool)
    (hsame : ∀ c p, h.Subscribed c p → gone c p = gone' c p) : h.drop gone = h.drop gone' := by
  have hactive : (h.drop gone).active = (h.drop gone').active :=
    List.filter_congr fun x hx => by rw [hsame _ _ ⟨x, hx, rfl, rfl⟩]
  have hlapsed : (h.drop gone).lapsed = (h.drop gone').lapsed := by
    funext c p
    rw [Bool.eq_iff_iff, lapsed_drop, lapsed_drop]
    have hsub (q : PropId) : (h.drop gone).Subscribed c q ↔ (h.drop gone').Subscribed c q := by
      rw [History.Subscribed, hactive, History.Subscribed]
    have hgone : gone c p = true ∧ h.Subscribed c p ↔ gone' c p = true ∧ h.Subscribed c p :=
      and_congr_left fun hs => by rw [hsame c p hs]
    simp only [hsub, hgone]
  have hcar : (h.drop gone).car = (h.drop gone').car := by
    change (h.car.filter fun opts => (h.drop gone).active.any fun x => x.2.propId = opts.propId) = _
    rw [hactive]
    rfl
  rw [show h.drop gone = ⟨(h.drop gone).active, (h.drop gone).car, (h.drop gone).lapsed⟩ from rfl,
    hactive, hcar, hlapsed]

omit [LinearOrder Rate] in
theorem drop_drop (h : History Rate) (gone gone' : ClientId → PropId → Bool) :
    (h.drop gone).drop gone' = h.drop fun c p => gone c p || gone' c p := by
  have hactive : ((h.drop gone).drop gone').active = (h.drop fun c p => gone c p || gone' c p).active := by
    change List.filter _ (List.filter _ h.active) = List.filter _ h.active
    rw [List.filter_filter]
    exact List.filter_congr fun x _ => by rw [Bool.not_or, Bool.and_comm]
  have hcar : ((h.drop gone).drop gone').car = (h.drop fun c p => gone c p || gone' c p).car := by
    change List.filter (fun opts => ((h.drop gone).drop gone').active.any fun x => x.2.propId = opts.propId)
      (List.filter _ h.car) = List.filter _ h.car
    rw [hactive, List.filter_filter]
    refine List.filter_congr fun opts _ => ?_
    rw [Bool.eq_iff_iff, Bool.and_eq_true]
    refine and_iff_left_of_imp fun hany => ?_
    obtain ⟨x, hx, hp⟩ := List.any_eq_true.mp hany
    obtain ⟨hx, hnot⟩ := List.mem_filter.mp hx
    rw [Bool.not_or, Bool.and_eq_true] at hnot
    exact List.any_eq_true.mpr ⟨x, List.mem_filter.mpr ⟨hx, hnot.1⟩, hp⟩
  have hlapsed : ((h.drop gone).drop gone').lapsed = (h.drop fun c p => gone c p || gone' c p).lapsed := by
    funext c p
    rw [Bool.eq_iff_iff, lapsed_drop, lapsed_drop, lapsed_drop]
    simp only [subscribed_drop, Bool.or_eq_true, Bool.or_eq_false_iff]
    constructor
    · rintro ⟨⟨hl | ⟨hg, hs⟩, -⟩ | ⟨hg, hs, -⟩, q, ⟨hq, hq₁⟩, hq₂⟩
      · exact ⟨.inl hl, q, hq, hq₁, hq₂⟩
      · exact ⟨.inr ⟨.inl hg, hs⟩, q, hq, hq₁, hq₂⟩
      · exact ⟨.inr ⟨.inr hg, hs⟩, q, hq, hq₁, hq₂⟩
    · rintro ⟨hl | ⟨hg, hs⟩, q, hq, hq₁, hq₂⟩
      · exact ⟨.inl ⟨.inl hl, q, hq, hq₁⟩, q, ⟨hq, hq₁⟩, hq₂⟩
      · by_cases hg₁ : gone c p = true
        · exact ⟨.inl ⟨.inr ⟨hg₁, hs⟩, q, hq, hq₁⟩, q, ⟨hq, hq₁⟩, hq₂⟩
        · exact ⟨.inr ⟨hg.resolve_left hg₁, hs, Bool.eq_false_of_not_eq_true hg₁⟩, q, ⟨hq, hq₁⟩, hq₂⟩
  rw [show (h.drop gone).drop gone' = ⟨((h.drop gone).drop gone').active, ((h.drop gone).drop gone').car,
    ((h.drop gone).drop gone').lapsed⟩ from rfl, hactive, hcar, hlapsed]

theorem count_unsubscribed (d : Prop) [Decidable d] (p q : PropId) :
    (if d then [HalCall.mOnPropertyUnsubscribed q] else ([] : List (HalCall Rate))).count
      (.mOnPropertyUnsubscribed p) = if p = q ∧ d then 1 else 0 := by
  by_cases hpq : p = q
  · subst hpq
    split_ifs <;> simp_all
  · have hne : (HalCall.mOnPropertyUnsubscribed q : HalCall Rate) ≠ .mOnPropertyUnsubscribed p :=
      fun hh => hpq (HalCall.mOnPropertyUnsubscribed.inj hh).symm
    rw [if_neg (c := p = q ∧ d) fun hh => hpq hh.1]
    split_ifs <;> simp [hne]

/-- A client is unlinked from one property after the other. -/
theorem Inv.unsubscribe_all (c : ClientId) (props : List PropId) (hnodup : props.Nodup) {h : History Rate}
    {s : SubscriptionManager Rate} {calls : List (HalCall Rate)} (hi : Inv h s calls) :
    Inv (h.drop fun c' q => c' = c && q ∈ props)
        (SubscriptionManager.forEach (·.unsubscribe c) s props).1
        (calls ++ (SubscriptionManager.forEach (·.unsubscribe c) s props).2) ∧
      ∀ p, (SubscriptionManager.forEach (·.unsubscribe c) s props).2.count (.mOnPropertyUnsubscribed p) =
        if p ∈ props ∧ (h.drop fun c' q => c' = c && q ∈ props).Deserted p then 1 else 0 := by
  induction props generalizing h s calls with
  | nil =>
    have hsame : (h.drop fun c' q => c' = c && q ∈ ([] : List PropId)) = h :=
      drop_nothing hi.sound _ fun _ _ _ => by simp
    rw [hsame, SubscriptionManager.forEach, List.append_nil]
    exact ⟨hi, fun p => by simp⟩
  | cons q qs ih =>
    obtain ⟨hq, hqs⟩ := List.nodup_cons.mp hnodup
    obtain ⟨hstep, hmade⟩ := hi.unsubscribe c q
    obtain ⟨hrest, hcount⟩ := ih hqs hstep
    have hsame : (h.record (.unsubscribe c q)).drop (fun c' q => c' = c && q ∈ qs) =
        h.drop fun c' p => c' = c && p ∈ q :: qs := by
      rw [History.record, drop_drop]
      congr 1
      funext c' p
      simp [Bool.and_or_distrib_left]
    rw [hsame] at hrest hcount
    rw [SubscriptionManager.forEach]
    refine ⟨by rw [← List.append_assoc]; exact hrest, fun p => ?_⟩
    dsimp only
    rw [List.count_append, hcount, hmade]
    rw [count_unsubscribed]
    by_cases hpq : p = q
    · have hdes : (h.record (.unsubscribe c q)).Deserted q ↔
          (h.drop fun c' p => c' = c && p ∈ q :: qs).Deserted q := by
        rw [← hsame, deserted_iff, deserted_iff]
        simp [subscribed_drop, hq]
      rw [hpq, if_neg (c := q ∈ qs ∧ _) fun hh => hq hh.1]
      simp only [hdes, true_and, List.mem_cons_self, Nat.add_zero]
    · have hmem : p ∈ q :: qs ↔ p ∈ qs := by simp [hpq]
      rw [if_neg fun hh => hpq hh.1, Nat.zero_add]
      simp only [hmem]

omit [LinearOrder Rate] in
theorem mem_getSubscribedProperties {client : HalClient Rate} {p : PropId} :
    p ∈ client.getSubscribedProperties ↔ ∃ opts, client.mSubscriptions.lookup p = some opts := by
  rw [HalClient.getSubscribedProperties, (List.mergeSort_perm _ _).mem_iff, ← AList.mem_keys,
    ← AList.lookup_isSome, Option.isSome_iff_exists]

theorem Inv.onCallbackDead (hi : Inv h s calls) (c : ClientId) :
    Inv (h.record (.clientDied c)) (s.onCallbackDead c).1 (calls ++ (s.onCallbackDead c).2) ∧
      Unsubscribes h (.clientDied c) (h.record (.clientDied c)) (s.onCallbackDead c).2 := by
  rw [SubscriptionManager.onCallbackDead]
  rcases hc : s.mClients.lookup c with _ | client
  · have hnot := hi.links.gone c hc
    have hsame : h.record (.clientDied c) = h := by
      refine drop_nothing hi.sound (fun c' _ => c' = c) fun c' p hsub => decide_eq_false ?_
      rintro rfl
      exact hnot p hsub
    rw [hsame]
    dsimp only
    rw [List.append_nil]
    exact ⟨hi, fun p => ⟨nofun, fun hsub => (hnot p hsub).elim⟩⟩
  · obtain ⟨object, hobj, -⟩ := Option.map_eq_some_iff.mp (hi.links.object c client hc)
    simp only [hobj, Option.map_some, Option.getD_some]
    have hprops (p : PropId) (hsub : h.Subscribed c p) : p ∈ object.getSubscribedProperties := by
      obtain ⟨opts, hopts, -⟩ := hi.options.covers c client p hc hsub
      rw [SubscriptionManager.optionsOf, hobj] at hopts
      exact mem_getSubscribedProperties.mpr ⟨opts, hopts⟩
    have hall : (h.drop fun c' q => c' = c && q ∈ object.getSubscribedProperties) =
        h.record (.clientDied c) := by
      refine drop_congr h _ (fun c' _ => c' = c) fun c' p hsub => ?_
      by_cases hcc : c' = c
      · rw [decide_eq_true hcc, Bool.true_and]
        exact decide_eq_true (hprops p (hcc ▸ hsub))
      · rw [decide_eq_false hcc, Bool.false_and]
    have hnodup : object.getSubscribedProperties.Nodup :=
      (List.mergeSort_perm _ _).nodup_iff.mpr (AList.keys_nodup _)
    obtain ⟨hinv, hcount⟩ := hi.unsubscribe_all c _ hnodup
    rw [hall] at hinv hcount
    refine ⟨hinv, fun p => ⟨fun hmem => ?_, fun hsub => ?_⟩⟩
    · have hpos := List.count_pos_iff.mpr hmem
      rw [hcount p] at hpos
      by_contra hd
      rw [if_neg fun hh => hd hh.2] at hpos
      exact lt_irrefl 0 hpos
    · rw [hcount p]
      simp only [hprops p hsub, true_and]

theorem addOrUpdateSubscription_calls (s : SubscriptionManager Rate) (c : ClientId)
    (optionList : List (SubscribeOptions Rate)) (p : PropId) :
    .mOnPropertyUnsubscribed p ∉ (s.addOrUpdateSubscription c optionList).2 := by
  rw [SubscriptionManager.addOrUpdateSubscription]
  generalize (s.getOrCreateHalClientLocked c).1 = t
  induction optionList generalizing t with
  | nil => exact List.not_mem_nil
  | cons o os ih =>
    rw [SubscriptionManager.forEach, List.mem_append, not_or]
    refine ⟨?_, ih _⟩
    rw [SubscriptionManager.addOption]
    split_ifs
    · rw [List.mem_map]
      exact fun ⟨_, _, hh⟩ => nomatch hh
    · exact List.not_mem_nil

/-- Every event keeps the invariant and makes the calls it has to. -/
theorem Inv.exec (hi : Inv h s calls) (e : Event Rate) :
    Inv (h.record e) (exec s e).1 (calls ++ (exec s e).2) ∧ Unsubscribes h e (h.record e) (exec s e).2 := by
  cases e with
  | subscribe c optionList =>
    exact ⟨hi.addOrUpdateSubscription c optionList, addOrUpdateSubscription_calls s c optionList⟩
  | unsubscribe c q =>
    obtain ⟨hinv, hcalls⟩ := hi.unsubscribe c q
    refine ⟨hinv, fun p => ?_⟩
    change (s.unsubscribe c q).2.count _ = _
    rw [hcalls, count_unsubscribed]
    by_cases hpq : p = q
    · rw [hpq]
    · rw [if_neg fun hh => hpq hh.1, if_neg fun hh => hpq hh.1]
  | clientDied c => exact hi.onCallbackDead c

end Removes

/-! ### What the manager answers -/

theorem mem_clientIds (hi : Inv h s calls) {p : PropId} {flag : SubscribeFlags} {c : ClientId} :
    c ∈ s.clientIds p flag ↔ ∃ k opts, s.mClients.lookup c = some k ∧ h.Subscribed c p ∧
      s.optionsOf k p = some opts ∧ opts.flags &&& flag ≠ 0 := by
  have hl := hi.links
  have hsubs (k : ℕ) : (s.halClients[k]?).any (·.isSubscribed p flag) = true ↔
      ∃ opts, s.optionsOf k p = some opts ∧ opts.flags &&& flag ≠ 0 := by
    rw [SubscriptionManager.optionsOf]
    rcases s.halClients[k]? with _ | object
    · simp
    · rcases ho : object.mSubscriptions.lookup p with _ | opts <;> simp [HalClient.isSubscribed, ho]
  rw [SubscriptionManager.clientIds, List.mem_filterMap]
  constructor
  · rintro ⟨k, hk, hcb⟩
    obtain ⟨hk, hany⟩ := List.mem_filter.mp hk
    obtain ⟨c', hc'⟩ := hl.known p k hk
    obtain rfl := Option.some.inj ((hl.object c' k hc').symm.trans hcb)
    obtain ⟨opts, hopts, hflag⟩ := (hsubs k).mp hany
    exact ⟨k, opts, hc', (hl.linked c' k p hc').mp hk, hopts, hflag⟩
  · rintro ⟨k, opts, hc, hsub, hopts, hflag⟩
    refine ⟨k, List.mem_filter.mpr ⟨(hl.linked c k p hc).mpr hsub, (hsubs k).mpr ⟨opts, hopts, hflag⟩⟩, ?_⟩
    exact hl.object c k hc

omit [LinearOrder Rate] in
theorem nodup_clientIds (hl : Linked h s) (p : PropId) (flag : SubscribeFlags) :
    (s.clientIds p flag).Nodup := by
  rw [SubscriptionManager.clientIds, List.Nodup, List.pairwise_filterMap]
  refine ((hl.nodup p).filter _).imp_of_mem ?_
  rintro k k' hk hk' hne c hc c' hc' rfl
  obtain ⟨c₁, hc₁⟩ := hl.known p k (List.mem_of_mem_filter hk)
  obtain ⟨c₂, hc₂⟩ := hl.known p k' (List.mem_of_mem_filter hk')
  obtain rfl := Option.some.inj ((hl.object c₁ k hc₁).symm.trans hc)
  obtain rfl := Option.some.inj ((hl.object c₂ k' hc₂).symm.trans hc')
  exact hne (Option.some.inj (hc₁.symm.trans hc₂))

theorem Inv.follows (hi : Inv h s calls) : Follows h (s, calls) := by
  have hpresent {p : PropId} {flag : SubscribeFlags} {c : ClientId} (hwith : h.SubscribedWith c p flag) :
      c ∈ s.clientIds p flag := by
    have hsub : h.Subscribed c p := let ⟨x, hx, hc, hp, _⟩ := hwith; ⟨x, hx, hc, hp⟩
    rcases hk : s.mClients.lookup c with _ | k
    · exact (hi.links.gone c hk p hsub).elim
    · obtain ⟨opts, hopts, hcov⟩ := hi.options.covers c k p hk hsub
      exact (mem_clientIds hi).mpr ⟨k, opts, hk, hsub, hopts, hcov flag hwith⟩
  refine ⟨fun p flag c => ?_, fun p flag c => hpresent, fun p flag c hmem => ?_, fun p flag c hlapsed => ?_,
    fun p hne => ?_⟩
  · exact List.nodup_iff_count_le_one.mp (nodup_clientIds hi.links p flag) c
  · obtain ⟨k, opts, -, hsub, -⟩ := (mem_clientIds hi).mp hmem
    exact hsub
  · refine ⟨fun hmem => ?_, hpresent⟩
    obtain ⟨k, opts, hk, -, hopts, hflag⟩ := (mem_clientIds hi).mp hmem
    exact (hi.options.exact c k p opts hk hlapsed hopts).2 flag hflag
  · rcases hi.passed p with ⟨hnil, -⟩ | ⟨merged, -, hmerge, -, hlast⟩
    · exact (hne hnil).elim
    · exact ⟨merged, hlast, hmerge⟩

end Invariant

/-- The invariant behind every sequence of events. -/
theorem inv_run (events : List (Event Rate)) {h : History Rate}
    {s : SubscriptionManager Rate × List (HalCall Rate)} (hi : Inv h s.1 s.2) :
    Inv (Run.run History.record h events) (Run.run step s events).1 (Run.run step s events).2 := by
  induction events generalizing h s with
  | nil => exact hi
  | cons e events ih => exact ih (s := step s e) (hi.exec e).1

/-- Whatever the clients do: the manager follows their calls, and whatever comes next it tells the HAL
    which properties are without a client. -/
theorem subscriptions_follow (events : List (Event Rate)) (e : Event Rate) :
    Follows (Run.run History.record History.empty events) (Run.run step constructed events) ∧
      Unsubscribes (Run.run History.record History.empty events) e
        (Run.run History.record History.empty (events ++ [e]))
          (exec (Run.run step constructed events).1 e).2 := by
  have hi := inv_run events (s := (constructed : SubscriptionManager Rate × List (HalCall Rate)))
    inv_constructed
  refine ⟨hi.follows, ?_⟩
  rw [Run.run_append]
  exact (hi.exec e).2

/-- The subscriptions to car events that are active now. -/
def History.carNow (h : History Rate) (p : PropId) : List (SubscribeOptions Rate) :=
  (h.active.filter fun x => x.2.propId = p && EVENTS_FROM_CAR &&& x.2.flags ≠ 0).map (·.2)

/-- A client that comes back for other events still gets the old ones; a property keeps the rate of a client
    that has left; and a property nobody was subscribed to is unsubscribed. -/
theorem subscriptions_differ :
    (¬ ∀ (events : List (Event ℕ)) (p : PropId) (flag : SubscribeFlags) (c : ClientId),
      c ∈ (Run.run step constructed events).1.clientIds p flag ↔
        (Run.run History.record History.empty events).SubscribedWith c p flag) ∧
    (¬ ∀ (events : List (Event ℕ)) (p : PropId) (merged : SubscribeOptions ℕ),
      (Run.run History.record History.empty events).carNow p ≠ [] →
      lastPassed (Run.run step constructed events).2 p = some merged →
      IsMerge ((Run.run History.record History.empty events).carNow p) merged) ∧
    ¬ ∀ (events : List (Event ℕ)) (c : ClientId) (p : PropId),
      .mOnPropertyUnsubscribed p ∈ (exec (Run.run step constructed events).1 (.unsubscribe c p)).2 ↔
        (Run.run History.record History.empty events).carNow p ≠ [] ∧
          (Run.run History.record History.empty (events ++ [.unsubscribe c p])).carNow p = [] := by
  refine ⟨fun h => ?_, fun h => ?_, fun h => ?_⟩
  · have hback := h [.subscribe 1 [⟨10, 5, EVENTS_FROM_CAR⟩, ⟨11, 5, EVENTS_FROM_CAR⟩], .unsubscribe 1 10,
      .subscribe 1 [⟨10, 5, EVENTS_FROM_ANDROID⟩]] 10 EVENTS_FROM_CAR 1
    revert hback
    decide +kernel
  · have hrate := h [.subscribe 1 [⟨10, 5, EVENTS_FROM_CAR⟩], .subscribe 2 [⟨10, 1, EVENTS_FROM_CAR⟩],
      .unsubscribe 1 10] 10 ⟨10, 5, EVENTS_FROM_CAR⟩ (by decide +kernel) (by decide +kernel)
    have hreached := hrate.reached
    revert hreached
    decide +kernel
  · have hnobody := h [] 1 10
    revert hnobody
    decide +kernel

end Model

end ImxHal.Vehicle
