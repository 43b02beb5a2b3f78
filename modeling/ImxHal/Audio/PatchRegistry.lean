import ImxHal.Schemes.Run
import Mathlib.Data.Finset.Sort

/-! @src audio/default/Module.cpp | name:patches | scheme:run | family:audio

    A patch connects source port configs with sink port configs. The patches are kept twice, as a list and as
    a multimap from port and port config ids to patch ids, and the streams opened on their mix port configs
    are told of the devices at the other side:

        patches     {id: 7, sources: [10], sinks: [12]}
        mPatches    10 ─▶ 7   (its port) 1 ─▶ 7   12 ─▶ 7   (its port) 3 ─▶ 7
        mStreams    10 ─▶ stream ─▶ connected to {12}

    A stream may refuse its devices; the call is then rolled back. -/

namespace ImxHal.Audio.Registry

/-- `mix` is the tag of `ext`; a device is known by the id of its port config. -/
structure AudioPortConfig where
  id : ℤ
  portId : ℤ
  mix : Bool
  deriving DecidableEq

structure AudioPort where
  id : ℤ
  mix : Bool
  maxOpenStreamCount : ℕ
  deriving DecidableEq

structure AudioPatch where
  id : ℤ := 0
  sourcePortConfigIds : List ℤ := []
  sinkPortConfigIds : List ℤ := []
  deriving DecidableEq

structure AudioRoute where
  sourcePortIds : List ℤ
  sinkPortId : ℤ
  isExclusive : Bool
  deriving DecidableEq

structure Configuration where
  ports : List AudioPort
  portConfigs : List AudioPortConfig
  initialConfigs : List AudioPortConfig
  routes : List AudioRoute
  patches : List AudioPatch := []
  nextPortId : ℤ := 1
  nextPatchId : ℤ := 1
  deriving DecidableEq

/-- Connected devices are kept by the ids of their port configs. -/
structure Stream where
  closed : Bool := false
  mConnectedDevices : Finset ℤ := ∅
  deriving DecidableEq

/-- A stream is a place in `streams`, which has every stream in the order of its opening. -/
structure Module where
  config : Configuration
  mPatches : List (ℤ × ℤ) := []
  streams : List Stream := []
  mStreams : List (ℤ × ℕ) := []
  deriving DecidableEq

inductive Status where | ok | illegalArgument | illegalState | refused
  deriving DecidableEq, Repr

/-- A stream is told of its devices to disconnect it, to connect it, or to roll a failed call back. -/
inductive Phase where | disconnect | connect | rollback
  deriving DecidableEq, Repr

/-- Which devices the streams accept. -/
abbrev Accepts := Phase → ℕ → Finset ℤ → Bool

/-! ### Streams -/

/-- Streams do not remove themselves from the collection; every `count` does it for them. -/
def Module.eraseClosed (m : Module) : Module :=
  { m with mStreams := m.mStreams.filter fun e => !(m.streams[e.2]?.all Stream.closed) }

def Module.count (m : Module) (id : ℤ) : ℕ := m.mStreams.countP fun e => e.1 = id

/-- An id with no stream accepts everything. -/
def Module.setStreamConnectedDevices (accepts : Accepts) (phase : Phase) (devices : Finset ℤ)
    (m : Module) (portConfigId : ℤ) : Module × Bool :=
  match m.mStreams.find? fun e => e.1 = portConfigId with
  | some (_, stream) =>
    if accepts phase stream devices then
      ({ m with streams := m.streams.modify stream fun s => { s with mConnectedDevices := devices } }, true)
    else (m, false)
  | none => (m, true)

/-- One step of a connection update: the first refusal ends it. The ids tried are returned too. -/
def Module.setAll (accepts : Accepts) (phase : Phase) (devices : Finset ℤ) :
    Module → List ℤ → Module × List ℤ × Bool
  | m, [] => (m, [], true)
  | m, id :: ids =>
    let (m, isOk) := m.setStreamConnectedDevices accepts phase devices id
    if isOk then
      let (m, tried, isOk) := setAll accepts phase devices m ids
      (m, id :: tried, isOk)
    else (m, [id], false)

/-- What a patch connects: every id of one side with all ids of the other, in the order of the ids. -/
structure Connections where
  mixPortConfigIds : List ℤ := []
  devicePortConfigIds : Finset ℤ := ∅
  deriving DecidableEq

/-- The side with open streams is the side of the mix ports; sources come first. -/
def Module.fillConnections (m : Module) (patch : AudioPatch) : Connections :=
  if patch.sourcePortConfigIds.any fun id => 0 < m.count id then
    ⟨patch.sourcePortConfigIds.toFinset.sort (· ≤ ·), patch.sinkPortConfigIds.toFinset⟩
  else if patch.sinkPortConfigIds.any fun id => 0 < m.count id then
    ⟨patch.sinkPortConfigIds.toFinset.sort (· ≤ ·), patch.sourcePortConfigIds.toFinset⟩
  else {}

/-- Failures of a rollback are not handled. -/
def Module.restoreOldConnections (accepts : Accepts) (old : Connections) (continueWithEmptyDevices : Bool) :
    Module → List ℤ → Module
  | m, [] => m
  | m, id :: ids =>
    if continueWithEmptyDevices ∨ id ∈ old.mixPortConfigIds then
      restoreOldConnections accepts old continueWithEmptyDevices
        (m.setStreamConnectedDevices accepts .rollback
          (if id ∈ old.mixPortConfigIds then old.devicePortConfigIds else ∅) id).1 ids
    else restoreOldConnections accepts old continueWithEmptyDevices m ids

/-- Ids of the old connections alone are disconnected; then ids whose devices change are connected. -/
def Module.updateStreamsConnectedState (accepts : Accepts) (m : Module) (oldPatch newPatch : AudioPatch) :
    Module × Bool :=
  let m := m.eraseClosed
  let old := m.fillConnections oldPatch
  let new := m.fillConnections newPatch
  let (m, disconnected, isOk) := m.setAll accepts .disconnect ∅
    (old.mixPortConfigIds.filter fun id => id ∉ new.mixPortConfigIds)
  if isOk then
    let (m, connected, isOk) := m.setAll accepts .connect new.devicePortConfigIds
      (new.mixPortConfigIds.filter fun id =>
        id ∉ old.mixPortConfigIds ∨ old.devicePortConfigIds ≠ new.devicePortConfigIds)
    if isOk then (m, true)
    else
      let m := m.restoreOldConnections accepts old false disconnected
      (m.restoreOldConnections accepts old true connected, false)
  else (m.restoreOldConnections accepts old false disconnected, false)

/-! ### Patches -/

def findById {α : Type} (id : α → ℤ) (l : List α) (i : ℤ) : Option α := l.find? fun a => id a = i

/-- `erase_all_values`. -/
def Module.cleanUpPatch (m : Module) (patchId : ℤ) : Module :=
  { m with mPatches := m.mPatches.filter fun e => e.2 ≠ patchId }

/-- The entries of one port config id in the multimap. -/
def Module.entries (m : Module) (patchId portConfigId : ℤ) : List (ℤ × ℤ) :=
  match findById AudioPortConfig.id m.config.portConfigs portConfigId with
  | some config =>
    if config.portId ≠ portConfigId then [(portConfigId, patchId), (config.portId, patchId)]
    else [(portConfigId, patchId)]
  | none => []

def AudioPatch.portConfigIds (patch : AudioPatch) : List ℤ :=
  patch.sourcePortConfigIds ++ patch.sinkPortConfigIds

def Module.registerPatch (m : Module) (patch : AudioPatch) : Module :=
  { m with mPatches := m.mPatches ++ patch.portConfigIds.flatMap (m.entries patch.id) }

def Module.findConnectedPortConfigIds (m : Module) (portConfigId : ℤ) : Finset ℤ :=
  (m.mPatches.filter fun e => e.1 = portConfigId).foldl (fun result e =>
    match findById AudioPatch.id m.config.patches e.2 with
    | some patch =>
      if portConfigId ∈ patch.sourcePortConfigIds then result ∪ patch.sinkPortConfigIds.toFinset
      else result ∪ patch.sourcePortConfigIds.toFinset
    | none => result) ∅

/-- The sink ports with a route from one of the sources; `true` where one of the routes is not exclusive. -/
def Configuration.allowedSinkPorts (config : Configuration) (sources : List AudioPortConfig) :
    List (ℤ × Bool) :=
  let routes := config.routes.filter fun r => sources.any fun src => src.portId ∈ r.sourcePortIds
  (routes.map AudioRoute.sinkPortId).dedup.map fun sink =>
    (sink, routes.any fun r => r.sinkPortId = sink ∧ !r.isExclusive)

def Configuration.selectByIds (config : Configuration) (ids : List ℤ) : List AudioPortConfig :=
  config.portConfigs.filter fun c => c.id ∈ ids

/-- The checks of a requested patch that need no look at the other patches. -/
def Module.validPatch (m : Module) (requested : AudioPatch) : Prop :=
  requested.sourcePortConfigIds ≠ [] ∧ requested.sourcePortConfigIds.Nodup ∧
    requested.sinkPortConfigIds ≠ [] ∧ requested.sinkPortConfigIds.Nodup ∧
    (∀ id ∈ requested.portConfigIds, ∃ c ∈ m.config.portConfigs, c.id = id) ∧
    ∀ sink ∈ m.config.selectByIds requested.sinkPortConfigIds,
      sink.portId ∈ (m.config.allowedSinkPorts
        (m.config.selectByIds requested.sourcePortConfigIds)).map Prod.fst

instance (m : Module) (requested : AudioPatch) : Decidable (m.validPatch requested) :=
  @instDecidableAnd _ _ _ <| @instDecidableAnd _ _ _ <| @instDecidableAnd _ _ _ <|
    @instDecidableAnd _ _ _ <| @instDecidableAnd _ _ (List.decidableBAll _ _) (List.decidableBAll _ _)

/-- A sink port that only exclusive routes reach is free. -/
def Module.sinksFree (m : Module) (requested : AudioPatch) : Prop :=
  ∀ e ∈ m.config.allowedSinkPorts (m.config.selectByIds requested.sourcePortConfigIds),
    e.2 = true ∨ ∀ p ∈ m.mPatches, p.1 ≠ e.1

instance (m : Module) (requested : AudioPatch) : Decidable (m.sinksFree requested) :=
  List.decidableBAll _ _

/-- The entry of an updated patch is overwritten; patch ids are unique. -/
def replacePatch (patches : List AudioPatch) (patch : AudioPatch) : List AudioPatch :=
  patches.map fun p => if p.id = patch.id then patch else p

/-- What `setAudioPatch` asks outside of the registry: the checks of the endpoints and of the buffer size,
    the streams, and whether the vector of patches moves when it grows. -/
structure PatchAnswers where
  endpointsMatch : Bool := true
  bufferSizeOk : Bool := true
  accepts : Accepts := fun _ _ _ => true
  moves : Bool := false

/-- A new patch. When a stream refuses it, `existing` is compared with the new end of the vector and so is
    taken for an entry: the empty patch is written to it, or to freed memory if the vector has moved. -/
def Module.createPatch (a : PatchAnswers) (m : Module) (requested : AudioPatch) : Module × Status :=
  let patch := { requested with id := m.config.nextPatchId }
  let config := { m.config with
    nextPatchId := m.config.nextPatchId + 1, patches := m.config.patches ++ [patch] }
  let registered := { m with config }.registerPatch patch
  match registered.updateStreamsConnectedState a.accepts {} patch with
  | (done, true) => (done, .ok)
  | (failed, false) =>
    let patches := if a.moves then config.patches else m.config.patches ++ [⟨0, [], []⟩]
    ({ failed with mPatches := m.mPatches, config := { config with patches } }, .refused)

/-- An updated patch. The backup that a refusal goes back to is the one without the old patch. -/
def Module.updatePatch (a : PatchAnswers) (m : Module) (oldPatch requested : AudioPatch) :
    Module × Status :=
  let config := { m.config with patches := replacePatch m.config.patches requested }
  let registered := { m with config }.registerPatch requested
  match registered.updateStreamsConnectedState a.accepts oldPatch requested with
  | (done, true) => (done, .ok)
  | (failed, false) => ({ failed with mPatches := m.mPatches, config := m.config }, .refused)

def Module.setAudioPatch (a : PatchAnswers) (m : Module) (requested : AudioPatch) : Module × Status :=
  if m.validPatch requested ∧ a.endpointsMatch then
    if requested.id = 0 then
      if m.sinksFree requested ∧ a.bufferSizeOk then m.createPatch a requested else (m, .illegalState)
    else
      match findById AudioPatch.id m.config.patches requested.id with
      | none => (m, .illegalArgument)
      | some oldPatch =>
        let cleaned := m.cleanUpPatch oldPatch.id
        if cleaned.sinksFree requested ∧ a.bufferSizeOk then cleaned.updatePatch a oldPatch requested
        else (m, .illegalState)
  else (m, .illegalArgument)

def Module.resetAudioPatch (accepts : Accepts) (m : Module) (patchId : ℤ) : Module × Status :=
  match findById AudioPatch.id m.config.patches patchId with
  | none => (m, .illegalArgument)
  | some patch =>
    match (m.cleanUpPatch patch.id).updateStreamsConnectedState accepts patch {} with
    | (done, true) =>
      ({ done with config := { done.config with
        patches := done.config.patches.eraseP fun p => p.id = patchId } }, .ok)
    | (failed, false) => ({ failed with mPatches := m.mPatches }, .refused)

/-! ### Port configs and streams -/

/-- What the checks of a port config's fields say: a default config could be generated, its format is still
    supported, the gain was set, the requested fields are valid, and all of them are given. -/
structure ConfigAnswers where
  generated : Bool := true
  formatSupported : Bool := true
  gainSet : Bool := true
  requestedIsValid : Bool := true
  requestedIsFullySpecified : Bool := true

/-- Updating a config leaves its id, its port and its tag as they are. -/
def Module.setAudioPortConfig (a : ConfigAnswers) (m : Module) (id portId : ℤ) : Module × Status :=
  if id ≠ 0 then
    match findById AudioPortConfig.id m.config.portConfigs id with
    | none => (m, .illegalArgument)
    | some existing =>
      if existing.portId ≠ 0 ∧ (findById AudioPort.id m.config.ports existing.portId).isSome ∧
          a.formatSupported ∧ a.gainSet then (m, .ok)
      else (m, .illegalArgument)
  else if portId = 0 then (m, .illegalArgument)
  else
    match findById AudioPort.id m.config.ports portId with
    | none => (m, .illegalArgument)
    | some port =>
      if a.generated ∧ a.formatSupported ∧ a.gainSet then
        if a.requestedIsValid ∧ a.requestedIsFullySpecified then
          ({ m with config := { m.config with
            nextPortId := m.config.nextPortId + 1
            portConfigs := m.config.portConfigs ++ [⟨m.config.nextPortId, port.id, port.mix⟩] } }, .ok)
        else (m, .ok)
      else (m, .illegalArgument)

/-- A config that the client has made is erased, an initial one is reset; neither while it is in use. -/
def Module.resetAudioPortConfig (m : Module) (portConfigId : ℤ) : Module × Status :=
  match findById AudioPortConfig.id m.config.portConfigs portConfigId with
  | none => (m, .illegalArgument)
  | some _ =>
    let m := m.eraseClosed
    if m.count portConfigId ≠ 0 then (m, .illegalState)
    else if m.mPatches.any fun e => e.1 = portConfigId then (m, .illegalState)
    else
      match findById AudioPortConfig.id m.config.initialConfigs portConfigId with
      | none =>
        ({ m with config := { m.config with
          portConfigs := m.config.portConfigs.eraseP fun c => c.id = portConfigId } }, .ok)
      | some initial =>
        ({ m with config := { m.config with portConfigs := m.config.portConfigs.map fun c =>
          if c.id = portConfigId then initial else c } }, .ok)

/-- The port of a new stream; the `CHECK` is for a config with the id of its port. -/
def Module.findPortIdForNewStream (m : Module) (portConfigId : ℤ) : Except Status AudioPort :=
  match findById AudioPortConfig.id m.config.portConfigs portConfigId with
  | none => .error .illegalArgument
  | some config =>
    match findById AudioPort.id m.config.ports config.portId with
    | none => .error .illegalArgument
    | some port =>
      if config.portId = portConfigId then .error .illegalState
      else if m.count portConfigId ≠ 0 then .error .illegalState
      else if !port.mix then .error .illegalArgument
      else if port.maxOpenStreamCount ≠ 0 ∧ port.maxOpenStreamCount ≤ m.count port.id then
        .error .illegalState
      else .ok port

/-- `openInputStream` and `openOutputStream`; `created` says that the flags fit and the stream could be made. -/
def Module.openStream (accepts : Accepts) (created : Bool) (m : Module) (portConfigId : ℤ) :
    Module × Status :=
  let m := m.eraseClosed
  match m.findPortIdForNewStream portConfigId with
  | .error status => (m, status)
  | .ok port =>
    if created then
      let stream := m.streams.length
      let devices :=
        if m.mPatches.any fun e => e.1 = portConfigId then m.findConnectedPortConfigIds portConfigId
        else ∅
      if (m.mPatches.any fun e => e.1 = portConfigId) ∧ !accepts .connect stream devices then
        (m, .refused)
      else
        ({ m with
            streams := m.streams ++ [⟨false, devices⟩]
            mStreams := m.mStreams ++ [(portConfigId, stream), (port.id, stream)] }, .ok)
    else (m, .illegalArgument)

/-- The client closes its stream. -/
def Module.closeStream (m : Module) (stream : ℕ) : Module :=
  { m with streams := m.streams.modify stream fun s => { s with closed := true } }

inductive Event where
  | setAudioPatch (a : PatchAnswers) (requested : AudioPatch)
  | resetAudioPatch (accepts : Accepts) (patchId : ℤ)
  | setAudioPortConfig (a : ConfigAnswers) (id portId : ℤ)
  | resetAudioPortConfig (portConfigId : ℤ)
  | openStream (accepts : Accepts) (created : Bool) (portConfigId : ℤ)
  | closeStream (stream : ℕ)

def Module.step (m : Module) : Event → Module
  | .setAudioPatch a requested => (m.setAudioPatch a requested).1
  | .resetAudioPatch accepts patchId => (m.resetAudioPatch accepts patchId).1
  | .setAudioPortConfig a id portId => (m.setAudioPortConfig a id portId).1
  | .resetAudioPortConfig portConfigId => (m.resetAudioPortConfig portConfigId).1
  | .openStream accepts created portConfigId => (m.openStream accepts created portConfigId).1
  | .closeStream stream => m.closeStream stream

/-! ### The two copies of the patches -/

/-- A patch uses an id when it is that of one of its port configs or of such a config's port. -/
def Uses (config : Configuration) (patch : AudioPatch) (id : ℤ) : Prop :=
  ∃ c ∈ config.portConfigs, c.id ∈ patch.portConfigIds ∧ (id = c.id ∨ id = c.portId)

/-- The multimap says exactly which patches use which ids, patches are told apart by ids that were given
    out, and they only refer to port configs that exist. -/
structure Consistent (config : Configuration) (mPatches : List (ℤ × ℤ)) : Prop where
  mirror : ∀ e, e ∈ mPatches ↔ ∃ patch ∈ config.patches, patch.id = e.2 ∧ Uses config patch e.1
  unique : (config.patches.map AudioPatch.id).Nodup
  given : ∀ patch ∈ config.patches, 0 < patch.id ∧ patch.id < config.nextPatchId
  nonempty : ∀ patch ∈ config.patches, patch.sourcePortConfigIds ≠ []
  exist : ∀ patch ∈ config.patches, ∀ id ∈ patch.portConfigIds, ∃ c ∈ config.portConfigs, c.id = id
  counter : 0 < config.nextPatchId

/-- Port configs have ids that were given out, and an initial config stays on its port. -/
structure ConfigsOk (config : Configuration) : Prop where
  unique : (config.portConfigs.map AudioPortConfig.id).Nodup
  given : ∀ c ∈ config.portConfigs, c.id < config.nextPortId
  initial : ∀ i ∈ config.initialConfigs, i.id < config.nextPortId ∧
    ∀ c ∈ config.portConfigs, c.id = i.id → c.portId = i.portId

section Lookup
variable {α : Type} {id : α → ℤ} {l : List α} {i : ℤ} {a : α}

theorem mem_of_findById (h : findById id l i = some a) : a ∈ l ∧ id a = i :=
  ⟨List.mem_of_find?_eq_some h, by simpa using List.find?_some h⟩

theorem findById_none (h : findById id l i = none) : ∀ a ∈ l, id a ≠ i := by
  intro a ha
  simpa using List.find?_eq_none.mp h a ha

/-- With unique ids, erasing the first element with an id erases all of them. -/
theorem mem_eraseP_id (hu : (l.map id).Nodup) : a ∈ (l.eraseP fun b => id b = i) ↔ a ∈ l ∧ id a ≠ i := by
  induction l with
  | nil => simp
  | cons b l ih =>
    rw [List.map_cons, List.nodup_cons] at hu
    obtain ⟨hb, hu⟩ := hu
    by_cases hi : id b = i
    · rw [List.eraseP_cons_of_pos (by simpa using hi)]
      constructor
      · intro ha
        refine ⟨List.mem_cons_of_mem b ha, fun hai => hb ?_⟩
        rw [hi, ← hai]
        exact List.mem_map_of_mem ha
      · rintro ⟨ha, hai⟩
        rcases List.mem_cons.mp ha with rfl | ha
        · exact absurd hi hai
        · exact ha
    · rw [List.eraseP_cons_of_neg (by simpa using hi), List.mem_cons, ih hu, List.mem_cons]
      constructor
      · rintro (rfl | ⟨ha, hai⟩)
        · exact ⟨Or.inl rfl, hi⟩
        · exact ⟨Or.inr ha, hai⟩
      · rintro ⟨rfl | ha, hai⟩
        · exact Or.inl rfl
        · exact Or.inr ⟨ha, hai⟩

end Lookup

/-! ### The streams leave the registry alone -/

/-- Only streams may differ. -/
def SameRegistry (m m' : Module) : Prop := m'.config = m.config ∧ m'.mPatches = m.mPatches

theorem SameRegistry.rfl {m : Module} : SameRegistry m m := ⟨by trivial, by trivial⟩

theorem SameRegistry.trans {m m' m'' : Module} (h : SameRegistry m m') (h' : SameRegistry m' m'') :
    SameRegistry m m'' := ⟨h'.1.trans h.1, h'.2.trans h.2⟩

theorem setStreamConnectedDevices_registry (accepts : Accepts) (phase : Phase) (devices : Finset ℤ)
    (m : Module) (id : ℤ) :
    SameRegistry m (m.setStreamConnectedDevices accepts phase devices id).1 := by
  unfold Module.setStreamConnectedDevices
  split
  · split <;> exact ⟨by trivial, by trivial⟩
  · exact .rfl

theorem setAll_registry (accepts : Accepts) (phase : Phase) (devices : Finset ℤ) (ids : List ℤ)
    (m : Module) : SameRegistry m (m.setAll accepts phase devices ids).1 := by
  induction ids generalizing m with
  | nil => exact .rfl
  | cons id ids ih =>
    have hstep := setStreamConnectedDevices_registry accepts phase devices m id
    simp only [Module.setAll]
    split
    · exact hstep.trans (ih _)
    · exact hstep

theorem restoreOldConnections_registry (accepts : Accepts) (old : Connections) (empty : Bool)
    (ids : List ℤ) (m : Module) : SameRegistry m (m.restoreOldConnections accepts old empty ids) := by
  induction ids generalizing m with
  | nil => exact .rfl
  | cons id ids ih =>
    simp only [Module.restoreOldConnections]
    split
    · exact (setStreamConnectedDevices_registry accepts .rollback _ m id).trans (ih _)
    · exact ih m

theorem updateStreams_registry (accepts : Accepts) (m : Module) (oldPatch newPatch : AudioPatch) :
    SameRegistry m (m.updateStreamsConnectedState accepts oldPatch newPatch).1 := by
  have herase : SameRegistry m m.eraseClosed := ⟨rfl, rfl⟩
  unfold Module.updateStreamsConnectedState
  dsimp only
  have hdisconnect := herase.trans (setAll_registry accepts .disconnect ∅
    ((m.eraseClosed.fillConnections oldPatch).mixPortConfigIds.filter fun id =>
      id ∉ (m.eraseClosed.fillConnections newPatch).mixPortConfigIds) m.eraseClosed)
  split
  · have hconnect := hdisconnect.trans (setAll_registry accepts .connect
      (m.eraseClosed.fillConnections newPatch).devicePortConfigIds
      ((m.eraseClosed.fillConnections newPatch).mixPortConfigIds.filter fun id =>
        id ∉ (m.eraseClosed.fillConnections oldPatch).mixPortConfigIds ∨
          (m.eraseClosed.fillConnections oldPatch).devicePortConfigIds ≠
            (m.eraseClosed.fillConnections newPatch).devicePortConfigIds) _)
    split
    · exact hconnect
    · exact (hconnect.trans (restoreOldConnections_registry ..)).trans (restoreOldConnections_registry ..)
  · exact hdisconnect.trans (restoreOldConnections_registry ..)

/-! ### Entries of the multimap -/

theorem mem_entries {m : Module} (hu : (m.config.portConfigs.map AudioPortConfig.id).Nodup)
    {patchId portConfigId : ℤ} {e : ℤ × ℤ} :
    e ∈ m.entries patchId portConfigId ↔
      e.2 = patchId ∧ ∃ c ∈ m.config.portConfigs, c.id = portConfigId ∧ (e.1 = c.id ∨ e.1 = c.portId) := by
  unfold Module.entries
  cases hf : findById AudioPortConfig.id m.config.portConfigs portConfigId with
  | none =>
    refine iff_of_false List.not_mem_nil ?_
    rintro ⟨-, c, hc, hid, -⟩
    exact findById_none hf c hc hid
  | some config =>
    obtain ⟨hmem, hid⟩ := mem_of_findById hf
    have honly : ∀ c ∈ m.config.portConfigs, c.id = portConfigId → c = config := fun c hc hcid =>
      List.inj_on_of_nodup_map hu hc hmem (hcid.trans hid.symm)
    constructor
    · intro he
      dsimp only at he
      split at he <;> simp only [List.mem_cons, List.not_mem_nil, or_false] at he
      · rcases he with rfl | rfl
        · exact ⟨rfl, config, hmem, hid, Or.inl hid.symm⟩
        · exact ⟨rfl, config, hmem, hid, Or.inr rfl⟩
      · subst he
        exact ⟨rfl, config, hmem, hid, Or.inl hid.symm⟩
    · rintro ⟨hpatch, c, hc, hcid, hk⟩
      obtain rfl := honly c hc hcid
      obtain ⟨k, p⟩ := e
      dsimp only at hpatch hk ⊢
      subst hpatch
      split
      · rcases hk with rfl | rfl
        · simp [hcid]
        · simp
      next hsame =>
        have hsame : c.portId = portConfigId := not_not.mp hsame
        rcases hk with rfl | rfl
        · simp [hcid]
        · simp [hsame]

theorem mem_registerPatch {m : Module} (hu : (m.config.portConfigs.map AudioPortConfig.id).Nodup)
    {patch : AudioPatch} {e : ℤ × ℤ} :
    e ∈ (m.registerPatch patch).mPatches ↔
      e ∈ m.mPatches ∨ e.2 = patch.id ∧ Uses m.config patch e.1 := by
  simp only [Module.registerPatch, List.mem_append, List.mem_flatMap, mem_entries hu, Uses]
  refine or_congr_right ?_
  constructor
  · rintro ⟨id, hid, hpatch, c, hc, rfl, hk⟩
    exact ⟨hpatch, c, hc, hid, hk⟩
  · rintro ⟨hpatch, c, hc, hid, hk⟩
    exact ⟨c.id, hid, hpatch, c, hc, rfl, hk⟩

theorem mem_cleanUpPatch {m : Module} {patchId : ℤ} {e : ℤ × ℤ} :
    e ∈ (m.cleanUpPatch patchId).mPatches ↔ e ∈ m.mPatches ∧ e.2 ≠ patchId := by
  simp [Module.cleanUpPatch]

/-! ### Patches come, change and go -/

section Patches
variable {config : Configuration} {mPatches mPatches' : List (ℤ × ℤ)} {patch : AudioPatch}

/-- A patch of a consistent registry is in the multimap. -/
theorem Consistent.exists_mem (h : Consistent config mPatches) (hp : patch ∈ config.patches) :
    ∃ id, (id, patch.id) ∈ mPatches := by
  obtain ⟨id, hid⟩ := List.exists_mem_of_ne_nil _ (h.nonempty patch hp)
  have hid : id ∈ patch.portConfigIds := List.mem_append_left _ hid
  obtain ⟨c, hc, rfl⟩ := h.exist patch hp id hid
  exact ⟨c.id, (h.mirror _).mpr ⟨patch, hp, rfl, c, hc, hid, Or.inl rfl⟩⟩

theorem Consistent.not_mem_next (h : Consistent config mPatches) (id : ℤ) :
    (id, config.nextPatchId) ∉ mPatches := by
  intro hmem
  obtain ⟨old, ho, hid, -⟩ := (h.mirror _).mp hmem
  have := (h.given old ho).2
  dsimp only at hid
  omega

theorem Consistent.add (h : Consistent config mPatches) (patch : AudioPatch)
    (hid : patch.id = config.nextPatchId) (hnonempty : patch.sourcePortConfigIds ≠ [])
    (hexist : ∀ id ∈ patch.portConfigIds, ∃ c ∈ config.portConfigs, c.id = id)
    (hmem : ∀ e, e ∈ mPatches' ↔ e ∈ mPatches ∨ e.2 = patch.id ∧ Uses config patch e.1) :
    Consistent { config with nextPatchId := config.nextPatchId + 1, patches := config.patches ++ [patch] }
      mPatches' := by
  have hnew : ∀ {p : AudioPatch}, p ∈ config.patches ++ [patch] → p ∈ config.patches ∨ p = patch := by
    intro p hp
    simpa using hp
  refine ⟨fun e => ?_, ?_, fun p hp => ?_, fun p hp => ?_, fun p hp => ?_, ?_⟩
  · rw [hmem, h.mirror]
    constructor
    · rintro (⟨old, ho, hold, huses⟩ | ⟨he, huses⟩)
      · exact ⟨old, List.mem_append_left _ ho, hold, huses⟩
      · exact ⟨patch, List.mem_append_right _ (List.mem_singleton.mpr rfl), he.symm, huses⟩
    · rintro ⟨p, hp, hpid, huses⟩
      rcases hnew hp with hp | rfl
      · exact Or.inl ⟨p, hp, hpid, huses⟩
      · exact Or.inr ⟨hpid.symm, huses⟩
  · rw [List.map_append, List.nodup_append]
    refine ⟨h.unique, List.nodup_singleton _, fun i hi j hj hij => ?_⟩
    obtain ⟨old, ho, rfl⟩ := List.mem_map.mp hi
    rw [List.map_cons, List.map_nil, List.mem_singleton] at hj
    have := (h.given old ho).2
    omega
  · have hcounter := h.counter
    rcases hnew hp with hp | rfl
    · have := h.given p hp
      dsimp only
      omega
    · dsimp only
      omega
  · rcases hnew hp with hp | rfl
    · exact h.nonempty p hp
    · exact hnonempty
  · rcases hnew hp with hp | rfl
    · exact h.exist p hp
    · exact hexist
  · have := h.counter
    dsimp only
    omega

theorem Consistent.erase (h : Consistent config mPatches) (patchId : ℤ)
    (hmem : ∀ e, e ∈ mPatches' ↔ e ∈ mPatches ∧ e.2 ≠ patchId) :
    Consistent { config with patches := config.patches.eraseP fun p => p.id = patchId } mPatches' := by
  have hleft : ∀ {p : AudioPatch}, p ∈ (config.patches.eraseP fun p => p.id = patchId) ↔
      p ∈ config.patches ∧ p.id ≠ patchId := mem_eraseP_id h.unique
  refine ⟨fun e => ?_, ?_, fun p hp => h.given p (hleft.mp hp).1, fun p hp => h.nonempty p (hleft.mp hp).1,
    fun p hp => h.exist p (hleft.mp hp).1, h.counter⟩
  · rw [hmem, h.mirror]
    constructor
    · rintro ⟨⟨p, hp, hpid, huses⟩, hne⟩
      exact ⟨p, hleft.mpr ⟨hp, by rwa [hpid]⟩, hpid, huses⟩
    · rintro ⟨p, hp, hpid, huses⟩
      obtain ⟨hp, hne⟩ := hleft.mp hp
      exact ⟨⟨p, hp, hpid, huses⟩, by rwa [← hpid]⟩
  · exact h.unique.sublist (List.eraseP_sublist.map _)

theorem mem_replacePatch {patches : List AudioPatch} {p : AudioPatch} :
    p ∈ replacePatch patches patch ↔
      p ∈ patches ∧ p.id ≠ patch.id ∨ p = patch ∧ ∃ old ∈ patches, old.id = patch.id := by
  unfold replacePatch
  rw [List.mem_map]
  constructor
  · rintro ⟨old, ho, hp⟩
    split at hp
    next hid => exact Or.inr ⟨hp.symm, old, ho, hid⟩
    next hid => exact Or.inl (hp ▸ ⟨ho, hid⟩)
  · rintro (⟨hp, hid⟩ | ⟨rfl, old, ho, hid⟩)
    · exact ⟨p, hp, if_neg hid⟩
    · exact ⟨old, ho, if_pos hid⟩

theorem replacePatch_ids (patches : List AudioPatch) (patch : AudioPatch) :
    (replacePatch patches patch).map AudioPatch.id = patches.map AudioPatch.id := by
  unfold replacePatch
  rw [List.map_map]
  refine List.map_congr_left fun p _ => ?_
  dsimp only [Function.comp_apply]
  split
  next hid => exact hid.symm
  next => rfl

theorem Consistent.replace (h : Consistent config mPatches) (patch : AudioPatch)
    (hold : ∃ old ∈ config.patches, old.id = patch.id) (hnonempty : patch.sourcePortConfigIds ≠ [])
    (hexist : ∀ id ∈ patch.portConfigIds, ∃ c ∈ config.portConfigs, c.id = id)
    (hmem : ∀ e, e ∈ mPatches' ↔
      (e ∈ mPatches ∧ e.2 ≠ patch.id) ∨ e.2 = patch.id ∧ Uses config patch e.1) :
    Consistent { config with patches := replacePatch config.patches patch } mPatches' := by
  refine ⟨fun e => ?_, ?_, fun p hp => ?_, fun p hp => ?_, fun p hp => ?_, h.counter⟩
  · rw [hmem, h.mirror]
    constructor
    · rintro (⟨⟨p, hp, hpid, huses⟩, hne⟩ | ⟨he, huses⟩)
      · exact ⟨p, mem_replacePatch.mpr (Or.inl ⟨hp, by rwa [hpid]⟩), hpid, huses⟩
      · exact ⟨patch, mem_replacePatch.mpr (Or.inr ⟨rfl, hold⟩), he.symm, huses⟩
    · rintro ⟨p, hp, hpid, huses⟩
      rcases mem_replacePatch.mp hp with ⟨hp, hne⟩ | ⟨rfl, -⟩
      · exact Or.inl ⟨⟨p, hp, hpid, huses⟩, by rwa [← hpid]⟩
      · exact Or.inr ⟨hpid.symm, huses⟩
  · rw [replacePatch_ids]
    exact h.unique
  · rcases mem_replacePatch.mp hp with ⟨hp, -⟩ | ⟨rfl, old, ho, hid⟩
    · exact h.given p hp
    · exact hid ▸ h.given old ho
  · rcases mem_replacePatch.mp hp with ⟨hp, -⟩ | ⟨rfl, -⟩
    · exact h.nonempty p hp
    · exact hnonempty
  · rcases mem_replacePatch.mp hp with ⟨hp, -⟩ | ⟨rfl, -⟩
    · exact h.exist p hp
    · exact hexist

end Patches

/-! ### Each call on the registry -/

/-- The registry of a module is consistent. -/
abbrev Module.Consistent (m : Module) : Prop := Registry.Consistent m.config m.mPatches

theorem SameRegistry.consistent {m m' : Module} (hs : SameRegistry m m') (h : m.Consistent) :
    m'.Consistent := by
  unfold Module.Consistent
  rw [hs.1, hs.2]
  exact h

theorem validPatch_exist {m : Module} {requested : AudioPatch} (h : m.validPatch requested) :
    requested.sourcePortConfigIds ≠ [] ∧
      ∀ id ∈ requested.portConfigIds, ∃ c ∈ m.config.portConfigs, c.id = id :=
  ⟨h.1, h.2.2.2.2.1⟩

section Calls
variable {m : Module} {a : PatchAnswers} {requested : AudioPatch}

/-- The module that a new patch is registered in. -/
def Module.withPatch (m : Module) (requested : AudioPatch) : Module :=
  { m with config := { m.config with
    nextPatchId := m.config.nextPatchId + 1
    patches := m.config.patches ++ [{ requested with id := m.config.nextPatchId }] } }

/-- A new patch is registered, or the multimap is put back and an entry stays. -/
theorem createPatch_cases (requested : AudioPatch) :
    (m.createPatch a requested).2 = .ok ∧
        SameRegistry ((m.withPatch requested).registerPatch { requested with id := m.config.nextPatchId })
          (m.createPatch a requested).1 ∨
      (m.createPatch a requested).2 = .refused ∧ (m.createPatch a requested).1.mPatches = m.mPatches ∧
        ((⟨0, [], []⟩ : AudioPatch) ∈ (m.createPatch a requested).1.config.patches ∨
          { requested with id := m.config.nextPatchId } ∈
            (m.createPatch a requested).1.config.patches) := by
  have hsame := updateStreams_registry a.accepts
    ((m.withPatch requested).registerPatch { requested with id := m.config.nextPatchId }) {}
    { requested with id := m.config.nextPatchId }
  unfold Module.createPatch
  dsimp only
  split
  next done heq =>
    rw [Module.withPatch, heq] at hsame
    exact Or.inl ⟨rfl, hsame⟩
  next failed heq =>
    refine Or.inr ⟨rfl, rfl, ?_⟩
    cases a.moves <;> simp

theorem createPatch_consistent (h : m.Consistent) (hc : ConfigsOk m.config)
    (hv : m.validPatch requested) (hok : (m.createPatch a requested).2 ≠ .refused) :
    (m.createPatch a requested).1.Consistent ∧ ConfigsOk (m.createPatch a requested).1.config := by
  obtain ⟨hnonempty, hexist⟩ := validPatch_exist hv
  rcases createPatch_cases (m := m) (a := a) requested with ⟨-, hsame⟩ | ⟨hr, -⟩
  · refine ⟨hsame.consistent ?_, ?_⟩
    · refine Consistent.add h { requested with id := m.config.nextPatchId } rfl hnonempty
        hexist fun e => ?_
      exact mem_registerPatch (m := m.withPatch requested) hc.unique
    · rw [hsame.1]
      exact ⟨hc.unique, hc.given, hc.initial⟩
  · exact absurd hr hok

/-- A refused new patch leaves an entry that the multimap does not know. -/
theorem createPatch_refused (h : m.Consistent) (hr : (m.createPatch a requested).2 = .refused) :
    ¬ (m.createPatch a requested).1.Consistent := by
  rcases createPatch_cases (m := m) (a := a) requested with
    ⟨hok, -⟩ | ⟨-, hmap, hempty | hentry⟩
  · rw [hok] at hr
    exact absurd hr (by decide)
  · exact fun hcons => absurd (hcons.given _ hempty).1 (lt_irrefl 0)
  · intro hcons
    obtain ⟨id, hmem⟩ := hcons.exists_mem hentry
    rw [hmap] at hmem
    exact h.not_mem_next id hmem

/-- The module that an updated patch is registered in. -/
def Module.withUpdate (m : Module) (requested : AudioPatch) : Module :=
  { m with config := { m.config with patches := replacePatch m.config.patches requested } }

/-- An updated patch is registered, or the old one is back and its entries are not. -/
theorem updatePatch_cases (requested oldPatch : AudioPatch) :
    (m.updatePatch a oldPatch requested).2 = .ok ∧
        SameRegistry ((m.withUpdate requested).registerPatch requested)
          (m.updatePatch a oldPatch requested).1 ∨
      (m.updatePatch a oldPatch requested).2 = .refused ∧
        SameRegistry m (m.updatePatch a oldPatch requested).1 := by
  have hsame := updateStreams_registry a.accepts
    ((m.withUpdate requested).registerPatch requested) oldPatch requested
  unfold Module.updatePatch
  dsimp only
  split
  next done heq =>
    rw [Module.withUpdate, heq] at hsame
    exact Or.inl ⟨rfl, hsame⟩
  next failed heq => exact Or.inr ⟨rfl, rfl, rfl⟩

/-- Every outcome of `setAudioPatch`: nothing is done, a patch is made, or the one with the requested id is
    changed. -/
theorem setAudioPatch_cases (requested : AudioPatch) :
    ((m.setAudioPatch a requested).1 = m ∧ (m.setAudioPatch a requested).2 ≠ .refused) ∨
      (m.validPatch requested ∧ m.setAudioPatch a requested = m.createPatch a requested) ∨
      ∃ oldPatch ∈ m.config.patches, oldPatch.id = requested.id ∧ m.validPatch requested ∧
        m.setAudioPatch a requested = (m.cleanUpPatch requested.id).updatePatch a oldPatch requested := by
  unfold Module.setAudioPatch
  split
  next hv =>
    split
    · split
      · exact Or.inr (Or.inl ⟨hv.1, rfl⟩)
      · exact Or.inl ⟨rfl, by simp⟩
    · split
      next => exact Or.inl ⟨rfl, by simp⟩
      next oldPatch hfind =>
        obtain ⟨hmem, hid⟩ := mem_of_findById hfind
        dsimp only
        split
        · exact Or.inr (Or.inr ⟨oldPatch, hmem, hid, hv.1, by rw [hid]⟩)
        · exact Or.inl ⟨rfl, by simp⟩
  next => exact Or.inl ⟨rfl, by simp⟩

theorem setAudioPatch_consistent (h : m.Consistent) (hc : ConfigsOk m.config)
    (hok : (m.setAudioPatch a requested).2 ≠ .refused) :
    (m.setAudioPatch a requested).1.Consistent ∧ ConfigsOk (m.setAudioPatch a requested).1.config := by
  rcases setAudioPatch_cases (m := m) (a := a) requested with
    ⟨hsame, -⟩ | ⟨hv, hcreate⟩ | ⟨oldPatch, hmem, hid, hv, hupdate⟩
  · rw [hsame]
    exact ⟨h, hc⟩
  · rw [hcreate] at hok ⊢
    exact createPatch_consistent h hc hv hok
  · rw [hupdate] at hok ⊢
    obtain ⟨hnonempty, hexist⟩ := validPatch_exist hv
    rcases updatePatch_cases (m := m.cleanUpPatch requested.id) (a := a) requested
      oldPatch with ⟨-, hsame⟩ | ⟨hr, -⟩
    · refine ⟨hsame.consistent ?_, ?_⟩
      · refine Consistent.replace h requested ⟨oldPatch, hmem, hid⟩ hnonempty hexist fun e => ?_
        refine (mem_registerPatch (m := (m.cleanUpPatch requested.id).withUpdate requested)
          hc.unique).trans (or_congr_left ?_)
        exact mem_cleanUpPatch
      · rw [hsame.1]
        exact ⟨hc.unique, hc.given, hc.initial⟩
    · exact absurd hr hok

/-- After a refusal of `setAudioPatch` the two copies of the patches differ. -/
theorem setAudioPatch_refused (h : m.Consistent) (hr : (m.setAudioPatch a requested).2 = .refused) :
    ¬ (m.setAudioPatch a requested).1.Consistent := by
  rcases setAudioPatch_cases (m := m) (a := a) requested with
    ⟨-, hok⟩ | ⟨-, hcreate⟩ | ⟨oldPatch, hmem, hid, -, hupdate⟩
  · exact absurd hr hok
  · rw [hcreate] at hr ⊢
    exact createPatch_refused h hr
  · rw [hupdate] at hr ⊢
    rcases updatePatch_cases (m := m.cleanUpPatch requested.id) (a := a) requested
      oldPatch with ⟨hok, -⟩ | ⟨-, hsame⟩
    · rw [hok] at hr
      exact absurd hr (by decide)
    · intro hcons
      unfold Module.Consistent at hcons
      rw [hsame.1, hsame.2] at hcons
      obtain ⟨id, hentry⟩ := hcons.exists_mem hmem
      exact absurd hid (mem_cleanUpPatch.mp hentry).2

theorem resetAudioPatch_consistent (h : m.Consistent) (hc : ConfigsOk m.config) (accepts : Accepts)
    (patchId : ℤ) : (m.resetAudioPatch accepts patchId).1.Consistent ∧
      ConfigsOk (m.resetAudioPatch accepts patchId).1.config := by
  unfold Module.resetAudioPatch
  split
  next => exact ⟨h, hc⟩
  next patch hfind =>
    obtain ⟨-, hid⟩ := mem_of_findById hfind
    have hsame := updateStreams_registry accepts (m.cleanUpPatch patch.id) patch {}
    split
    next done heq =>
      rw [heq] at hsame
      obtain ⟨hconfig, hmap⟩ := hsame
      dsimp only at hconfig hmap
      refine ⟨?_, ?_⟩
      · unfold Module.Consistent
        dsimp only
        rw [hconfig, hmap]
        refine Consistent.erase h patchId fun e => ?_
        rw [← hid]
        exact mem_cleanUpPatch
      · dsimp only
        rw [hconfig]
        exact ⟨hc.unique, hc.given, hc.initial⟩
    next failed heq =>
      rw [heq] at hsame
      obtain ⟨hconfig, -⟩ := hsame
      dsimp only at hconfig
      refine ⟨?_, by dsimp only; rw [hconfig]; exact hc⟩
      unfold Module.Consistent
      dsimp only
      rw [hconfig]
      exact h

end Calls

/-! ### Port configs -/

section Configs
variable {config : Configuration} {mPatches : List (ℤ × ℤ)}

/-- Port configs may come and go as long as those of the patches keep their ports. -/
theorem Consistent.of_configs (h : Consistent config mPatches) {portConfigs : List AudioPortConfig}
    (nextPortId : ℤ)
    (hsame : ∀ patch ∈ config.patches, ∀ id ∈ patch.portConfigIds, ∀ portId,
      (∃ c ∈ portConfigs, c.id = id ∧ c.portId = portId) ↔
        ∃ c ∈ config.portConfigs, c.id = id ∧ c.portId = portId) :
    Consistent { config with portConfigs, nextPortId } mPatches := by
  refine ⟨fun e => (h.mirror e).trans ?_, h.unique, h.given, h.nonempty, ?_, h.counter⟩
  · refine exists_congr fun patch => and_congr_right fun hp => and_congr_right fun _ => ?_
    constructor
    · rintro ⟨c, hc, hid, hk⟩
      obtain ⟨c', hc', hid', hport⟩ := (hsame patch hp c.id hid c.portId).mpr ⟨c, hc, rfl, rfl⟩
      exact ⟨c', hc', hid'.symm ▸ hid, by rwa [hid', hport]⟩
    · rintro ⟨c, hc, hid, hk⟩
      obtain ⟨c', hc', hid', hport⟩ := (hsame patch hp c.id hid c.portId).mp ⟨c, hc, rfl, rfl⟩
      exact ⟨c', hc', hid'.symm ▸ hid, by rwa [hid', hport]⟩
  · intro patch hp id hid
    obtain ⟨c, hc, hcid⟩ := h.exist patch hp id hid
    obtain ⟨c', hc', hid', -⟩ := (hsame patch hp id hid c.portId).mpr ⟨c, hc, hcid, rfl⟩
    exact ⟨c', hc', hid'⟩

end Configs

section ConfigCalls
variable {m : Module}

theorem setAudioPortConfig_consistent (h : m.Consistent) (hc : ConfigsOk m.config) (a : ConfigAnswers)
    (id portId : ℤ) : (m.setAudioPortConfig a id portId).1.Consistent ∧
      ConfigsOk (m.setAudioPortConfig a id portId).1.config := by
  unfold Module.setAudioPortConfig
  split
  · split
    · exact ⟨h, hc⟩
    · split <;> exact ⟨h, hc⟩
  · split
    · exact ⟨h, hc⟩
    · split
      · exact ⟨h, hc⟩
      next port _ =>
        split
        · split
          · refine ⟨Consistent.of_configs h _ fun patch hp id hid portId => ?_, ?_, ?_, ?_⟩
            · constructor
              · rintro ⟨c, hmem, hcid, hport⟩
                rcases List.mem_append.mp hmem with hmem | hmem
                · exact ⟨c, hmem, hcid, hport⟩
                · rw [List.mem_singleton.mp hmem] at hcid
                  obtain ⟨c', hc', hid'⟩ := h.exist patch hp id hid
                  have := hc.given c' hc'
                  dsimp only at hcid
                  omega
              · rintro ⟨c, hmem, hcid, hport⟩
                exact ⟨c, List.mem_append_left _ hmem, hcid, hport⟩
            · dsimp only
              rw [List.map_append, List.nodup_append]
              refine ⟨hc.unique, List.nodup_singleton _, fun i hi j hj hij => ?_⟩
              obtain ⟨c, hmem, rfl⟩ := List.mem_map.mp hi
              rw [List.map_cons, List.map_nil, List.mem_singleton] at hj
              have := hc.given c hmem
              dsimp only at hj
              omega
            · intro c hmem
              dsimp only at hmem ⊢
              rcases List.mem_append.mp hmem with hmem | hmem
              · have := hc.given c hmem
                omega
              · rw [List.mem_singleton.mp hmem]
                dsimp only
                omega
            · intro i hi
              obtain ⟨hlt, hport⟩ := hc.initial i hi
              dsimp only
              refine ⟨by omega, fun c hmem hcid => ?_⟩
              rcases List.mem_append.mp hmem with hmem | hmem
              · exact hport c hmem hcid
              · rw [List.mem_singleton.mp hmem] at hcid
                dsimp only at hcid
                omega
          · exact ⟨h, hc⟩
        · exact ⟨h, hc⟩

/-- A port config that the multimap does not know is in no patch. -/
theorem not_mem_of_unused (h : m.Consistent) {portConfigId : ℤ}
    (hunused : ∀ e ∈ m.mPatches, e.1 ≠ portConfigId) {patch : AudioPatch}
    (hp : patch ∈ m.config.patches) : portConfigId ∉ patch.portConfigIds := by
  intro hid
  obtain ⟨c, hc, rfl⟩ := h.exist patch hp portConfigId hid
  exact hunused _ ((h.mirror (c.id, patch.id)).mpr ⟨patch, hp, rfl, c, hc, hid, Or.inl rfl⟩) rfl

/-- An unused config is put back to its initial one, which is on the same port. -/
theorem replaceConfig_consistent (h : m.Consistent) (hc : ConfigsOk m.config) {portConfigId : ℤ}
    {initial : AudioPortConfig} (hinitial : initial ∈ m.config.initialConfigs)
    (hid : initial.id = portConfigId)
    (hnot : ∀ {patch}, patch ∈ m.config.patches → portConfigId ∉ patch.portConfigIds) :
    Module.Consistent { m with config := { m.config with portConfigs :=
        (m.config.portConfigs.map fun c => if c.id = portConfigId then initial else c) } } ∧
      ConfigsOk { m.config with portConfigs :=
        (m.config.portConfigs.map fun c => if c.id = portConfigId then initial else c) } := by
  have hports : ∀ c ∈ m.config.portConfigs, c.id = portConfigId → c.portId = initial.portId :=
    fun c hmem hcid => (hc.initial initial hinitial).2 c hmem (hcid.trans hid.symm)
  -- every config of the new list stands for one of the old list with its id and its port
  have hold : ∀ c ∈ m.config.portConfigs.map fun c => if c.id = portConfigId then initial else c,
      ∃ c₀ ∈ m.config.portConfigs, c₀.id = c.id ∧ c₀.portId = c.portId := by
    intro c hmem
    obtain ⟨c₀, hmem₀, rfl⟩ := List.mem_map.mp hmem
    refine ⟨c₀, hmem₀, ?_⟩
    split
    next hcid => exact ⟨hcid.trans hid.symm, hports c₀ hmem₀ hcid⟩
    next => exact ⟨rfl, rfl⟩
  refine ⟨Consistent.of_configs h _ fun patch hp id hidp portId => ?_, ?_, ?_, ?_⟩
  · have hne : id ≠ portConfigId := by
      rintro rfl
      exact hnot hp hidp
    constructor
    · rintro ⟨c, hmem, hcid, hport⟩
      obtain ⟨c₀, hmem₀, hid₀, hport₀⟩ := hold c hmem
      exact ⟨c₀, hmem₀, hid₀.trans hcid, hport₀.trans hport⟩
    · rintro ⟨c, hmem, rfl, hport⟩
      exact ⟨c, List.mem_map.mpr ⟨c, hmem, if_neg hne⟩, rfl, hport⟩
  · have hids : (m.config.portConfigs.map fun c => if c.id = portConfigId then initial else c).map
        AudioPortConfig.id = m.config.portConfigs.map AudioPortConfig.id := by
      rw [List.map_map]
      refine List.map_congr_left fun c _ => ?_
      dsimp only [Function.comp_apply]
      split
      next hcid => exact hid.trans hcid.symm
      next => rfl
    dsimp only
    rw [hids]
    exact hc.unique
  · intro c hmem
    obtain ⟨c₀, hmem₀, hid₀, -⟩ := hold c hmem
    exact hid₀ ▸ hc.given c₀ hmem₀
  · intro i hi
    obtain ⟨hlt, hport⟩ := hc.initial i hi
    refine ⟨hlt, fun c hmem hcid => ?_⟩
    obtain ⟨c₀, hmem₀, hid₀, hport₀⟩ := hold c hmem
    exact hport₀.symm.trans (hport c₀ hmem₀ (hid₀.trans hcid))

theorem resetAudioPortConfig_consistent (h : m.Consistent) (hc : ConfigsOk m.config)
    (portConfigId : ℤ) : (m.resetAudioPortConfig portConfigId).1.Consistent ∧
      ConfigsOk (m.resetAudioPortConfig portConfigId).1.config := by
  unfold Module.resetAudioPortConfig
  split
  next => exact ⟨h, hc⟩
  next =>
    dsimp only
    split
    · exact ⟨h, hc⟩
    · split
      · exact ⟨h, hc⟩
      next hunused =>
        have hunused : ∀ e ∈ m.mPatches, e.1 ≠ portConfigId := by
          intro e he heq
          exact hunused (List.any_eq_true.mpr ⟨e, he, by simpa using heq⟩)
        have hnot := fun {patch : AudioPatch} (hp : patch ∈ m.config.patches) => not_mem_of_unused h hunused hp
        split
        next =>
          have hleft : ∀ {c : AudioPortConfig}, c ∈ (m.config.portConfigs.eraseP fun c => c.id = portConfigId) ↔
              c ∈ m.config.portConfigs ∧ c.id ≠ portConfigId := mem_eraseP_id hc.unique
          refine ⟨Consistent.of_configs h _ fun patch hp id hid portId => ?_, ?_, ?_, ?_⟩
          · have hne : id ≠ portConfigId := by rintro rfl; exact hnot hp hid
            constructor
            · rintro ⟨c, hmem, hrest⟩
              exact ⟨c, (hleft.mp hmem).1, hrest⟩
            · rintro ⟨c, hmem, hcid, hport⟩
              exact ⟨c, hleft.mpr ⟨hmem, by rwa [hcid]⟩, hcid, hport⟩
          · exact hc.unique.sublist (List.eraseP_sublist.map _)
          · exact fun c hmem => hc.given c (hleft.mp hmem).1
          · intro i hi
            obtain ⟨hlt, hport⟩ := hc.initial i hi
            exact ⟨hlt, fun c hmem hcid => hport c (hleft.mp hmem).1 hcid⟩
        next initial hfind =>
          obtain ⟨hinitial, hid⟩ := mem_of_findById hfind
          exact replaceConfig_consistent h hc hinitial hid fun {patch} hp => hnot hp

/-! ### Streams come and go -/

theorem openStream_registry (accepts : Accepts) (created : Bool) (portConfigId : ℤ) :
    SameRegistry m (m.openStream accepts created portConfigId).1 := by
  unfold Module.openStream
  dsimp only
  split
  · exact ⟨rfl, rfl⟩
  · split_ifs <;> exact ⟨rfl, rfl⟩

end ConfigCalls

/-! ### Runs -/

/-- No stream refuses its devices in a `setAudioPatch`. -/
def Accepted (m : Module) : Event → Prop
  | .setAudioPatch a requested => (m.setAudioPatch a requested).2 ≠ .refused
  | _ => True

theorem step_consistent {m : Module} {e : Event} (h : m.Consistent ∧ ConfigsOk m.config)
    (hok : Accepted m e) : (m.step e).Consistent ∧ ConfigsOk (m.step e).config := by
  obtain ⟨hcons, hc⟩ := h
  cases e with
  | setAudioPatch a requested => exact setAudioPatch_consistent hcons hc hok
  | resetAudioPatch accepts patchId => exact resetAudioPatch_consistent hcons hc accepts patchId
  | setAudioPortConfig a id portId => exact setAudioPortConfig_consistent hcons hc a id portId
  | resetAudioPortConfig portConfigId => exact resetAudioPortConfig_consistent hcons hc portConfigId
  | openStream accepts created portConfigId =>
    have hsame := openStream_registry (m := m) accepts created portConfigId
    exact ⟨hsame.consistent hcons, by simp only [Module.step]; rw [hsame.1]; exact hc⟩
  | closeStream stream => exact ⟨hcons, hc⟩

/-- One mix port and one device port, and a route between them. -/
def speakerConfiguration : Configuration where
  ports := [⟨1, true, 0⟩, ⟨2, false, 0⟩]
  portConfigs := [⟨3, 1, true⟩, ⟨4, 2, false⟩]
  initialConfigs := [⟨4, 2, false⟩]
  routes := [⟨[1], 2, false⟩]
  nextPortId := 5

end ImxHal.Audio.Registry
