import Mathlib.Data.Finset.Max
import Mathlib.Data.Fintype.Card
import Mathlib.Data.Set.Finite.Basic
import ImxHal.Schemes.Run

/-! @src power/ChannelManager.cpp, power/ChannelGroup.cpp, power/SessionChannel.cpp |
    name:ChannelManager | scheme:run | family:slot allocation

    A client, named by its tgid and uid, has at most one channel; channels live in the slots of
    groups, sixteen to a group, and each group keeps the number of its live channels:

        mChannelMap[(tgid, uid)] ──▶ (groupId, offset)
                                         │
        mChannelGroups[groupId].mChannels[offset] ──▶ channel of (tgid, uid)

    A group is made when all are full, with the id after the highest one, and goes with its last
    channel. Ids are 32-bit numbers: after the highest of them comes the LOWEST, and if a group with
    that id is there, it is full. -/

namespace ImxHal.Power
open ImxHal.Run

def kMaxChannels : ℕ := 16

/-- The id of a channel: its group, and its slot in the group. -/
structure ChannelMapValue where
  groupId : ℤ
  offset : Fin kMaxChannels
  deriving DecidableEq

/-- A client: tgid and uid. -/
abbrev ChannelMapKey := ℤ × ℤ

structure SessionChannel where
  mTgid : ℤ
  mUid : ℤ
  mId : ChannelMapValue
  mReadMask : ℕ
  mWriteMask : ℕ
  deriving DecidableEq

def SessionChannel.key (channel : SessionChannel) : ChannelMapKey := (channel.mTgid, channel.mUid)

structure ChannelGroup where
  mLiveChannels : ℤ
  mGroupId : ℤ
  mChannels : Fin kMaxChannels → Option SessionChannel

/-- What ends the process: the two fatal checks of a group, and `at` on an id that is not there. -/
inductive Fault where
  | failedToCreateChannel
  | requestingADeadChannel
  | outOfRange
  deriving DecidableEq

namespace ChannelGroup

def new (id : ℤ) : ChannelGroup := ⟨0, id, fun _ => none⟩

def removeChannel (g : ChannelGroup) (slot : Fin kMaxChannels) : Option ChannelGroup :=
  match g.mChannels slot with
  | none => none
  | some _ => some { g with
      mChannels := Function.update g.mChannels slot none
      mLiveChannels := g.mLiveChannels - 1 }

def freeSlot (g : ChannelGroup) : Option (Fin kMaxChannels) :=
  (List.finRange kMaxChannels).find? fun slot => (g.mChannels slot).isNone

def createChannel (g : ChannelGroup) (tgid uid : ℤ) : Except Fault (SessionChannel × ChannelGroup) :=
  match g.freeSlot with
  | none => .error .failedToCreateChannel
  | some slot =>
    let channel : SessionChannel :=
      ⟨tgid, uid, ⟨g.mGroupId, slot⟩, 1 <<< (slot.val + 16), 1 <<< slot.val⟩
    .ok (channel, { g with
      mChannels := Function.update g.mChannels slot (some channel)
      mLiveChannels := g.mLiveChannels + 1 })

def getChannel (g : ChannelGroup) (slot : Fin kMaxChannels) : Except Fault SessionChannel :=
  match g.mChannels slot with
  | none => .error .requestingADeadChannel
  | some channel => .ok channel

/-- `getChannelCount() < kMaxChannels`, compared as `size_t`. -/
def hasRoom (g : ChannelGroup) : Bool := decide (0 ≤ g.mLiveChannels ∧ g.mLiveChannels < kMaxChannels)

end ChannelGroup

structure ChannelManager where
  /-- The keys of `mChannelGroups`; the groups of other ids do not count. -/
  groupIds : Finset ℤ
  mChannelGroups : ℤ → ChannelGroup
  mChannelMap : ChannelMapKey → Option ChannelMapValue

/-- What `getChannelConfig` returns: whose event flag, which channel, and its two bits. -/
structure ChannelConfig where
  eventFlagDescriptor : ℤ
  channelDescriptor : ChannelMapValue
  readFlagBitmask : ℕ
  writeFlagBitmask : ℕ

/-- Arithmetic of `int32_t`. -/
def int32 (x : ℤ) : ℤ := x.bmod (2 ^ 32)

namespace ChannelManager

def init : ChannelManager := ⟨∅, ChannelGroup.new, fun _ => none⟩

def getGroup (m : ChannelManager) (id : ℤ) : Except Fault ChannelGroup :=
  if id ∈ m.groupIds then .ok (m.mChannelGroups id) else .error .outOfRange

def setGroup (m : ChannelManager) (id : ℤ) (g : ChannelGroup) : ChannelManager :=
  { m with mChannelGroups := Function.update m.mChannelGroups id g }

/-- The loop over the groups: the lowest id with room, or -1. -/
def findGroup (m : ChannelManager) : ℤ :=
  (m.groupIds.filter fun id => (m.mChannelGroups id).hasRoom).min.untopD (-1)

/-- `mChannelGroups.empty() ? 0 : mChannelGroups.rbegin()->first + 1`. -/
def nextGroup (m : ChannelManager) : ℤ :=
  match m.groupIds.max with
  | ⊥ => 0
  | (id : ℤ) => int32 (id + 1)

def emplace (m : ChannelManager) (id : ℤ) : ChannelManager :=
  if id ∈ m.groupIds then m
  else { m.setGroup id (.new id) with groupIds := insert id m.groupIds }

/-- The group for a new channel, made if none was found. -/
def groupForNew (m : ChannelManager) : ℤ × ChannelManager :=
  if m.findGroup = -1 then (m.nextGroup, m.emplace m.nextGroup) else (m.findGroup, m)

def getOrCreateChannel (m : ChannelManager) (tgid uid : ℤ) :
    Except Fault (SessionChannel × ChannelManager) :=
  match m.mChannelMap (tgid, uid) with
  | some value => do
    let group ← m.getGroup value.groupId
    let channel ← group.getChannel value.offset
    return (channel, m)
  | none => do
    let (groupId, m) := m.groupForNew
    let group ← m.getGroup groupId
    let (channel, group) ← group.createChannel tgid uid
    let m := m.setGroup groupId group
    return (channel, { m with
      mChannelMap := Function.update m.mChannelMap (tgid, uid) (some channel.mId) })

/-- `getChannelConfig`; a channel whose queue is not valid stays where it is. -/
def getChannelConfig (m : ChannelManager) (tgid uid : ℤ) (isValid : Bool) :
    Except Fault (Option ChannelConfig × ChannelManager) := do
  let (channel, m) ← m.getOrCreateChannel tgid uid
  if !isValid then return (none, m)
  let group ← m.getGroup channel.mId.groupId
  return (some ⟨group.mGroupId, channel.mId, channel.mReadMask, channel.mWriteMask⟩, m)

def closeChannel (m : ChannelManager) (tgid uid : ℤ) : Bool × ChannelManager :=
  match m.mChannelMap (tgid, uid) with
  | none => (false, m)
  | some value =>
    if value.groupId ∈ m.groupIds then
      match (m.mChannelGroups value.groupId).removeChannel value.offset with
      | none => (false, m)
      | some group =>
        let m := m.setGroup value.groupId group
        let m := if group.mLiveChannels = 0
          then { m with groupIds := m.groupIds.erase value.groupId } else m
        (true, { m with mChannelMap := Function.update m.mChannelMap (tgid, uid) none })
    else (false, m)

end ChannelManager

inductive ChannelAct where
  | getChannelConfig (tgid uid : ℤ) (isValid : Bool)
  | closeChannel (tgid uid : ℤ)

/-- A fault ends the process. -/
def channelStep : Except Fault ChannelManager → ChannelAct → Except Fault ChannelManager
  | .error fault, _ => .error fault
  | .ok m, .getChannelConfig tgid uid isValid => (m.getChannelConfig tgid uid isValid).map Prod.snd
  | .ok m, .closeChannel tgid uid => .ok (m.closeChannel tgid uid).2

/-! ### The law -/

def ChannelGroup.occupied (g : ChannelGroup) : Finset (Fin kMaxChannels) :=
  Finset.univ.filter fun slot => (g.mChannels slot).isSome

/-- The clients that have a channel, and the occupied slots of all groups. -/
def ChannelManager.clients (m : ChannelManager) : Set ChannelMapKey :=
  {key | (m.mChannelMap key).isSome}

def ChannelManager.occupied (m : ChannelManager) : Set ChannelMapValue :=
  {value | value.groupId ∈ m.groupIds ∧ value.offset ∈ (m.mChannelGroups value.groupId).occupied}

/-- Clients and occupied slots correspond one to one, each group counts its occupied slots, which are
    between one and sixteen, and is known by its own id. -/
structure Bookkeeping (m : ChannelManager) : Prop where
  bijection : Set.BijOn (fun key => m.mChannelMap key) m.clients (some '' m.occupied)
  live : ∀ id ∈ m.groupIds, (m.mChannelGroups id).mLiveChannels =
    (m.mChannelGroups id).occupied.card
  count : ∀ id ∈ m.groupIds, 1 ≤ (m.mChannelGroups id).occupied.card ∧
    (m.mChannelGroups id).occupied.card ≤ kMaxChannels
  named : ∀ id ∈ m.groupIds, (m.mChannelGroups id).mGroupId = id

/-- The process goes on with its books in order, and a client with a channel can close it: its group
    and its slot are found. -/
def InOrder (before : Except Fault ChannelManager) (a : ChannelAct)
    (after : Except Fault ChannelManager) : Prop :=
  (∃ m, after = .ok m ∧ Bookkeeping m) ∧
    ∀ m tgid uid, before = .ok m → a = .closeChannel tgid uid →
      (m.closeChannel tgid uid).1 = (m.mChannelMap (tgid, uid)).isSome

/-- A client gets its first channel while a group with room is found, or the id after the highest one
    is not in use. -/
def HasId (x : Except Fault ChannelManager) : ChannelAct → Prop
  | .getChannelConfig tgid uid _ => ∀ m, x = .ok m → m.mChannelMap (tgid, uid) = none →
      m.findGroup = -1 → m.nextGroup ∉ m.groupIds
  | .closeChannel _ _ => True

/-- Map and slots hold the same channels. -/
structure Slots (m : ChannelManager) : Prop where
  filled : ∀ key value, m.mChannelMap key = some value → value.groupId ∈ m.groupIds ∧
    ∃ channel, (m.mChannelGroups value.groupId).mChannels value.offset = some channel ∧
      channel.key = key
  mapped : ∀ id ∈ m.groupIds, ∀ slot channel,
    (m.mChannelGroups id).mChannels slot = some channel →
      m.mChannelMap channel.key = some ⟨id, slot⟩ ∧ channel.mId = ⟨id, slot⟩
  live : ∀ id ∈ m.groupIds, (m.mChannelGroups id).mLiveChannels =
    (m.mChannelGroups id).occupied.card
  named : ∀ id ∈ m.groupIds, (m.mChannelGroups id).mGroupId = id
  range : ∀ id ∈ m.groupIds, -2 ^ 31 ≤ id ∧ id < 2 ^ 31

/-- Between the calls, moreover, every group is in use. -/
structure Booked (m : ChannelManager) : Prop extends Slots m where
  used : ∀ id ∈ m.groupIds, 0 < (m.mChannelGroups id).occupied.card

/-! ### One group -/

section Group

variable {g : ChannelGroup} {slot : Fin kMaxChannels}

theorem mem_occupied : slot ∈ g.occupied ↔ (g.mChannels slot).isSome := by
  simp [ChannelGroup.occupied]

theorem card_occupied_le (g : ChannelGroup) : g.occupied.card ≤ kMaxChannels := by
  simpa using Finset.card_le_univ g.occupied

theorem freeSlot_some (h : g.freeSlot = some slot) : g.mChannels slot = none := by
  simpa using List.find?_some h

/-- A group has a free slot exactly if not all are occupied. -/
theorem freeSlot_none_iff : g.freeSlot = none ↔ g.occupied.card = kMaxChannels := by
  unfold ChannelGroup.freeSlot
  rw [List.find?_eq_none]
  constructor
  · intro hall
    have huniv : g.occupied = Finset.univ := by
      refine Finset.eq_univ_iff_forall.mpr fun slot => mem_occupied.mpr ?_
      simpa [Option.isSome_iff_ne_none] using hall slot (List.mem_finRange slot)
    rw [huniv, Finset.card_univ, Fintype.card_fin]
  · intro hcard slot _
    have huniv : g.occupied = Finset.univ :=
      Finset.eq_univ_of_card _ (by rw [hcard, Fintype.card_fin])
    have hmem := mem_occupied.mp (huniv ▸ Finset.mem_univ slot)
    simpa [Option.isSome_iff_ne_none] using hmem

theorem hasRoom_iff (h : g.mLiveChannels = g.occupied.card) :
    g.hasRoom ↔ g.occupied.card < kMaxChannels := by
  simp [ChannelGroup.hasRoom, h]

/-- A slot that is given or taken back. -/
theorem occupied_update (slot : Fin kMaxChannels) (channel : Option SessionChannel) (live id : ℤ) :
    ChannelGroup.occupied ⟨live, id, Function.update g.mChannels slot channel⟩ =
      if channel.isSome then insert slot g.occupied else g.occupied.erase slot := by
  ext slot'
  by_cases hsame : slot' = slot
  · cases channel <;> simp [mem_occupied, hsame]
  · cases channel <;> simp [mem_occupied, hsame]

theorem card_update_some (h : g.mChannels slot = none) (channel : SessionChannel) (live id : ℤ) :
    (ChannelGroup.occupied ⟨live, id, Function.update g.mChannels slot (some channel)⟩).card =
      g.occupied.card + 1 := by
  have hnew : slot ∉ g.occupied := by simp [mem_occupied, h]
  rw [occupied_update]
  exact Finset.card_insert_of_notMem hnew

theorem card_update_none {channel : SessionChannel} (h : g.mChannels slot = some channel)
    (live id : ℤ) :
    (ChannelGroup.occupied ⟨live, id, Function.update g.mChannels slot none⟩).card + 1 =
      g.occupied.card := by
  have hold : slot ∈ g.occupied := by simp [mem_occupied, h]
  rw [occupied_update]
  exact Finset.card_erase_add_one hold

end Group

/-! ### The group for a new channel -/

section NewGroup

variable {m : ChannelManager}

/-- The one number of 32 bits that differs from `x` by a multiple of `2 ^ 32`. -/
theorem int32_spec (x : ℤ) :
    -2 ^ 31 ≤ int32 x ∧ int32 x < 2 ^ 31 ∧ ∃ k, int32 x = x + k * 2 ^ 32 := by
  have hdiv := Int.emod_add_mul_ediv x (2 ^ 32)
  unfold int32 Int.bmod
  simp only [Nat.cast_pow, Nat.cast_ofNat]
  split
  · exact ⟨by omega, by omega, -(x / 2 ^ 32), by omega⟩
  · exact ⟨by omega, by omega, -(x / 2 ^ 32) - 1, by omega⟩

theorem findGroup_mem (h : m.findGroup ≠ -1) :
    m.findGroup ∈ m.groupIds ∧ (m.mChannelGroups m.findGroup).hasRoom := by
  unfold ChannelManager.findGroup at h ⊢
  cases hmin : (m.groupIds.filter fun id => (m.mChannelGroups id).hasRoom).min with
  | top => rw [hmin] at h; exact absurd rfl h
  | coe id =>
    have hmem := Finset.mem_filter.mp (Finset.mem_of_min hmin)
    exact hmem

/-- No group below the one found has room; without one found, none but perhaps -1 has. -/
theorem full_below {id : ℤ} (hid : id ∈ m.groupIds) (hfind : m.findGroup = -1)
    (hroom : (m.mChannelGroups id).hasRoom) : -1 ≤ id := by
  have hmem : id ∈ m.groupIds.filter fun id => (m.mChannelGroups id).hasRoom :=
    Finset.mem_filter.mpr ⟨hid, hroom⟩
  have hle := Finset.min_le hmem
  unfold ChannelManager.findGroup at hfind
  cases hmin : (m.groupIds.filter fun id => (m.mChannelGroups id).hasRoom).min with
  | top =>
    rw [hmin] at hle
    exact absurd hle (by simp)
  | coe low =>
    rw [hmin] at hfind hle
    have hlow : low = -1 := hfind
    rw [← hlow]
    exact WithTop.coe_le_coe.mp hle

/-- If the next id is in use, its group is full. -/
theorem full_of_next (h : Slots m) (hfind : m.findGroup = -1) (hnext : m.nextGroup ∈ m.groupIds) :
    ¬(m.mChannelGroups m.nextGroup).hasRoom := by
  intro hroom
  have hlow := full_below hnext hfind hroom
  unfold ChannelManager.nextGroup at hlow hnext
  cases hmax : m.groupIds.max with
  | bot =>
    rw [Finset.max_eq_bot.mp hmax] at hnext
    simp at hnext
  | coe high =>
    rw [hmax] at hlow hnext
    have hle : int32 (high + 1) ≤ high := Finset.le_max_of_eq hnext hmax
    have hhigh := h.range high (Finset.mem_of_max hmax)
    have hlow : -1 ≤ int32 (high + 1) := hlow
    obtain ⟨-, -, k, hk⟩ := int32_spec (high + 1)
    omega

theorem nextGroup_range (m : ChannelManager) : -2 ^ 31 ≤ m.nextGroup ∧ m.nextGroup < 2 ^ 31 := by
  unfold ChannelManager.nextGroup
  split
  · norm_num
  · exact ⟨(int32_spec _).1, (int32_spec _).2.1⟩

theorem occupied_new (id : ℤ) : (ChannelGroup.new id).occupied = ∅ := by
  ext slot
  simp [mem_occupied, ChannelGroup.new]

theorem emplace_new {next : ℤ} (hnew : next ∉ m.groupIds) :
    m.emplace next = { m.setGroup next (.new next) with groupIds := insert next m.groupIds } :=
  if_neg hnew

theorem emplace_self {next : ℤ} (hnew : next ∉ m.groupIds) :
    (m.emplace next).mChannelGroups next = .new next := by
  simp [emplace_new hnew, ChannelManager.setGroup]

theorem emplace_other {next id : ℤ} (hnew : next ∉ m.groupIds) (hne : id ≠ next) :
    (m.emplace next).mChannelGroups id = m.mChannelGroups id := by
  simp [emplace_new hnew, ChannelManager.setGroup, hne]

theorem mem_emplace {next id : ℤ} (hnew : next ∉ m.groupIds) :
    id ∈ (m.emplace next).groupIds ↔ id = next ∨ id ∈ m.groupIds := by
  simp [emplace_new hnew]

/-- An empty group changes nothing about the channels. -/
theorem slots_emplace (h : Slots m) {next : ℤ} (hnew : next ∉ m.groupIds)
    (hrange : -2 ^ 31 ≤ next ∧ next < 2 ^ 31) : Slots (m.emplace next) := by
  have hmap : (m.emplace next).mChannelMap = m.mChannelMap := by
    rw [emplace_new hnew]
    rfl
  have hold : ∀ {id}, id ∈ m.groupIds → (m.emplace next).mChannelGroups id = m.mChannelGroups id :=
    fun hin => emplace_other hnew (ne_of_mem_of_not_mem hin hnew)
  refine ⟨?_, ?_, ?_, ?_, ?_⟩
  · intro key value hvalue
    rw [hmap] at hvalue
    obtain ⟨hin, hslot⟩ := h.filled key value hvalue
    rw [hold hin]
    exact ⟨(mem_emplace hnew).mpr (.inr hin), hslot⟩
  · intro id hid slot channel hslot
    rw [hmap]
    rcases (mem_emplace hnew).mp hid with rfl | hin
    · rw [emplace_self hnew] at hslot
      cases hslot
    · rw [hold hin] at hslot
      exact h.mapped id hin slot channel hslot
  · intro id hid
    rcases (mem_emplace hnew).mp hid with rfl | hin
    · rw [emplace_self hnew, occupied_new]
      rfl
    · rw [hold hin]
      exact h.live id hin
  · intro id hid
    rcases (mem_emplace hnew).mp hid with rfl | hin
    · rw [emplace_self hnew]
      rfl
    · rw [hold hin]
      exact h.named id hin
  · intro id hid
    rcases (mem_emplace hnew).mp hid with rfl | hin
    · exact hrange
    · exact h.range id hin

/-- A group found has room; one that is made is empty. -/
theorem groupForNew_spec (h : Slots m) (hid : m.findGroup = -1 → m.nextGroup ∉ m.groupIds) :
    Slots m.groupForNew.2 ∧ m.groupForNew.1 ∈ m.groupForNew.2.groupIds ∧
      (m.groupForNew.2.mChannelGroups m.groupForNew.1).occupied.card < kMaxChannels ∧
        m.groupForNew.2.mChannelMap = m.mChannelMap ∧ ∀ id, id ≠ m.groupForNew.1 →
          (id ∈ m.groupForNew.2.groupIds ↔ id ∈ m.groupIds) ∧
            m.groupForNew.2.mChannelGroups id = m.mChannelGroups id := by
  unfold ChannelManager.groupForNew
  split
  · rename_i hfind
    have hnew := hid hfind
    refine ⟨slots_emplace h hnew (nextGroup_range m), (mem_emplace hnew).mpr (.inl rfl), ?_, ?_, ?_⟩
    · rw [emplace_self hnew, occupied_new]
      decide
    · rw [emplace_new hnew]
      rfl
    · intro id hne
      exact ⟨(mem_emplace hnew).trans (or_iff_right hne), emplace_other hnew hne⟩
  · rename_i hfind
    obtain ⟨hmem, hroom⟩ := findGroup_mem hfind
    exact ⟨h, hmem, (hasRoom_iff (h.live _ hmem)).mp hroom, rfl, fun id _ => ⟨Iff.rfl, rfl⟩⟩

end NewGroup

/-- The channel at a place. -/
def ChannelManager.channelAt (m : ChannelManager) (value : ChannelMapValue) : Option SessionChannel :=
  (m.mChannelGroups value.groupId).mChannels value.offset

/-- Writing one slot of one group changes what is at its place, and nothing else. -/
theorem channelAt_setGroup (m m' : ChannelManager) (id : ℤ) (slot : Fin kMaxChannels)
    (live name : ℤ) (new : Option SessionChannel)
    (h : m'.mChannelGroups = Function.update m.mChannelGroups id
      ⟨live, name, Function.update (m.mChannelGroups id).mChannels slot new⟩)
    (value : ChannelMapValue) :
    m'.channelAt value = if value = ⟨id, slot⟩ then new else m.channelAt value := by
  obtain ⟨id', slot'⟩ := value
  simp only [ChannelManager.channelAt, h, ChannelMapValue.mk.injEq]
  by_cases hid : id' = id
  · subst hid
    by_cases hslot : slot' = slot
    · simp [hslot]
    · simp [hslot]
  · simp [hid]

/-! ### Opening a channel -/

section Open

variable {m : ChannelManager} {id : ℤ} {slot : Fin kMaxChannels}

/-- A channel put into a free slot, and its client into the map. -/
def ChannelManager.put (m : ChannelManager) (id : ℤ) (slot : Fin kMaxChannels)
    (channel : SessionChannel) : ChannelManager :=
  let g := m.mChannelGroups id
  let g := { g with
    mChannels := Function.update g.mChannels slot (some channel)
    mLiveChannels := g.mLiveChannels + 1 }
  { m.setGroup id g with
    mChannelMap := Function.update m.mChannelMap channel.key (some ⟨id, slot⟩) }

theorem put_other (m : ChannelManager) (slot : Fin kMaxChannels) (channel : SessionChannel) {id' : ℤ}
    (hne : id' ≠ id) : (m.put id slot channel).mChannelGroups id' = m.mChannelGroups id' := by
  simp [ChannelManager.put, ChannelManager.setGroup, hne]

theorem put_card (hfree : (m.mChannelGroups id).mChannels slot = none) (channel : SessionChannel) :
    ((m.put id slot channel).mChannelGroups id).occupied.card =
      (m.mChannelGroups id).occupied.card + 1 := by
  simp only [ChannelManager.put, ChannelManager.setGroup, Function.update_self]
  exact card_update_some hfree channel _ _

theorem channelAt_put (m : ChannelManager) (id : ℤ) (slot : Fin kMaxChannels)
    (channel : SessionChannel) (value : ChannelMapValue) :
    (m.put id slot channel).channelAt value =
      if value = ⟨id, slot⟩ then some channel else m.channelAt value :=
  channelAt_setGroup m _ id slot _ _ _ rfl value

theorem slots_put (h : Slots m) (hid : id ∈ m.groupIds)
    (hfree : (m.mChannelGroups id).mChannels slot = none) {channel : SessionChannel}
    (hnone : m.mChannelMap channel.key = none) (hplace : channel.mId = ⟨id, slot⟩) :
    Slots (m.put id slot channel) := by
  have hempty : m.channelAt ⟨id, slot⟩ = none := hfree
  refine ⟨?_, ?_, ?_, ?_, h.range⟩
  · intro key value hvalue
    by_cases hkey : key = channel.key
    · have hplaced : value = ⟨id, slot⟩ := by
        simpa [ChannelManager.put, hkey] using hvalue.symm
      rw [hplaced, hkey]
      exact ⟨hid, channel, (channelAt_put m id slot channel _).trans (if_pos rfl), rfl⟩
    · have hold : m.mChannelMap key = some value := by
        simpa [ChannelManager.put, hkey] using hvalue
      obtain ⟨hin, other, hother, hok⟩ := h.filled key value hold
      have hne : value ≠ ⟨id, slot⟩ := by
        rintro rfl
        rw [hfree] at hother
        cases hother
      exact ⟨hin, other, (channelAt_put m id slot channel value).trans ((if_neg hne).trans hother), hok⟩
  · intro id' hid' slot' other hother
    have hafter : (m.put id slot channel).channelAt ⟨id', slot'⟩ = some other := hother
    rw [channelAt_put] at hafter
    by_cases hsame : (⟨id', slot'⟩ : ChannelMapValue) = ⟨id, slot⟩
    · rw [if_pos hsame] at hafter
      cases hafter
      rw [hsame]
      exact ⟨by simp [ChannelManager.put], hplace⟩
    · rw [if_neg hsame] at hafter
      obtain ⟨hmap, hmid⟩ := h.mapped id' hid' slot' other hafter
      have hne : other.key ≠ channel.key := by
        intro hkey
        rw [hkey, hnone] at hmap
        cases hmap
      exact ⟨by simpa [ChannelManager.put, hne] using hmap, hmid⟩
  · intro id' hid'
    by_cases hsame : id' = id
    · subst hsame
      rw [put_card hfree, Nat.cast_add, ← h.live id' hid]
      simp [ChannelManager.put, ChannelManager.setGroup]
    · rw [put_other m slot channel hsame]
      exact h.live id' hid'
  · intro id' hid'
    by_cases hsame : id' = id
    · subst hsame
      simpa [ChannelManager.put, ChannelManager.setGroup] using h.named id' hid
    · rw [put_other m slot channel hsame]
      exact h.named id' hid'

/-- The first channel of a client goes into the group found or made for it. -/
theorem create_spec (h : Booked m) {tgid uid : ℤ} (hnone : m.mChannelMap (tgid, uid) = none)
    (hnext : m.findGroup = -1 → m.nextGroup ∉ m.groupIds) :
    ∃ slot channel, m.getOrCreateChannel tgid uid =
        .ok (channel, m.groupForNew.2.put m.groupForNew.1 slot channel) ∧
      (m.groupForNew.2.mChannelGroups m.groupForNew.1).mChannels slot = none ∧
      channel.key = (tgid, uid) ∧ channel.mId = ⟨m.groupForNew.1, slot⟩ := by
  obtain ⟨hslots, hin, hroom, hmap, -⟩ := groupForNew_spec h.toSlots hnext
  obtain ⟨slot, hslot⟩ : ∃ slot, (m.groupForNew.2.mChannelGroups m.groupForNew.1).freeSlot =
      some slot := by
    cases hfree : (m.groupForNew.2.mChannelGroups m.groupForNew.1).freeSlot with
    | none => exact absurd (freeSlot_none_iff.mp hfree) hroom.ne
    | some slot => exact ⟨slot, rfl⟩
  have hget : m.groupForNew.2.getGroup m.groupForNew.1 =
      .ok (m.groupForNew.2.mChannelGroups m.groupForNew.1) := if_pos hin
  have hnamed := hslots.named _ hin
  refine ⟨slot, ⟨tgid, uid, ⟨m.groupForNew.1, slot⟩, 1 <<< (slot.val + 16), 1 <<< slot.val⟩, ?_,
    freeSlot_some hslot, rfl, rfl⟩
  simp only [ChannelManager.getOrCreateChannel, hnone, hget, bind, Except.bind,
    ChannelGroup.createChannel, hslot, hnamed, ChannelManager.put]
  rfl

theorem booked_put (h : Booked m) {channel : SessionChannel} {slot : Fin kMaxChannels}
    (hnext : m.findGroup = -1 → m.nextGroup ∉ m.groupIds)
    (hfree : (m.groupForNew.2.mChannelGroups m.groupForNew.1).mChannels slot = none)
    (hnone : m.mChannelMap channel.key = none) (hplace : channel.mId = ⟨m.groupForNew.1, slot⟩) :
    Booked (m.groupForNew.2.put m.groupForNew.1 slot channel) := by
  obtain ⟨hslots, hin, -, hmap, hother⟩ := groupForNew_spec h.toSlots hnext
  refine ⟨slots_put hslots hin hfree (by rw [hmap]; exact hnone) hplace, fun id hid => ?_⟩
  by_cases hsame : id = m.groupForNew.1
  · rw [hsame, put_card hfree]
    exact Nat.succ_pos _
  · rw [put_other _ slot channel hsame, (hother id hsame).2]
    exact h.used id ((hother id hsame).1.mp hid)

/-- Without an id for a new group the process ends. -/
theorem create_fails (h : Booked m) {tgid uid : ℤ} (hnone : m.mChannelMap (tgid, uid) = none)
    (hfind : m.findGroup = -1) (hnext : m.nextGroup ∈ m.groupIds) :
    m.getOrCreateChannel tgid uid = .error .failedToCreateChannel := by
  have hnew : m.groupForNew = (m.nextGroup, m) := by
    simp [ChannelManager.groupForNew, hfind, ChannelManager.emplace, hnext]
  have hfull : (m.mChannelGroups m.nextGroup).freeSlot = none := by
    have hroom := full_of_next h.toSlots hfind hnext
    rw [hasRoom_iff (h.live _ hnext)] at hroom
    exact freeSlot_none_iff.mpr (le_antisymm (card_occupied_le _) (not_lt.mp hroom))
  simp only [ChannelManager.getOrCreateChannel, hnone, hnew, ChannelManager.getGroup, hnext, if_true,
    bind, Except.bind, ChannelGroup.createChannel, hfull]

/-- A client that has a channel gets it again. -/
theorem get_existing (h : Slots m) {tgid uid : ℤ} {value : ChannelMapValue}
    (hsome : m.mChannelMap (tgid, uid) = some value) :
    ∃ channel, m.getOrCreateChannel tgid uid = .ok (channel, m) ∧
      channel.mId.groupId ∈ m.groupIds := by
  obtain ⟨hin, channel, hslot, -⟩ := h.filled _ _ hsome
  obtain ⟨-, hmid⟩ := h.mapped _ hin _ _ hslot
  refine ⟨channel, ?_, by rw [hmid]; exact hin⟩
  simp only [ChannelManager.getOrCreateChannel, hsome, ChannelManager.getGroup, hin, if_true, bind,
    Except.bind, ChannelGroup.getChannel, hslot]
  rfl

/-- `getChannelConfig` goes wherever `getOrCreateChannel` goes. -/
theorem getChannelConfig_ok {m' : ChannelManager} {tgid uid : ℤ} {channel : SessionChannel}
    (h : m.getOrCreateChannel tgid uid = .ok (channel, m')) (hin : channel.mId.groupId ∈ m'.groupIds)
    (isValid : Bool) : (m.getChannelConfig tgid uid isValid).map Prod.snd = .ok m' := by
  unfold ChannelManager.getChannelConfig
  rw [h]
  cases isValid with
  | false => rfl
  | true =>
    simp only [bind, Except.bind, ChannelManager.getGroup, hin, if_true]
    rfl

end Open

/-! ### Closing a channel -/

section Close

variable {m : ChannelManager} {id : ℤ} {slot : Fin kMaxChannels} {key : ChannelMapKey}

/-- A slot emptied, its client taken out of the map, and the group gone with its last channel. -/
def ChannelManager.take (m : ChannelManager) (id : ℤ) (slot : Fin kMaxChannels)
    (key : ChannelMapKey) : ChannelManager :=
  let g := m.mChannelGroups id
  let g := { g with
    mChannels := Function.update g.mChannels slot none
    mLiveChannels := g.mLiveChannels - 1 }
  { m.setGroup id g with
    groupIds := if g.mLiveChannels = 0 then m.groupIds.erase id else m.groupIds
    mChannelMap := Function.update m.mChannelMap key none }

theorem take_other (m : ChannelManager) (slot : Fin kMaxChannels) (key : ChannelMapKey) {id' : ℤ}
    (hne : id' ≠ id) : (m.take id slot key).mChannelGroups id' = m.mChannelGroups id' := by
  simp [ChannelManager.take, ChannelManager.setGroup, hne]

theorem channelAt_take (m : ChannelManager) (id : ℤ) (slot : Fin kMaxChannels) (key : ChannelMapKey)
    (value : ChannelMapValue) :
    (m.take id slot key).channelAt value =
      if value = ⟨id, slot⟩ then none else m.channelAt value :=
  channelAt_setGroup m _ id slot _ _ _ rfl value

theorem take_card {channel : SessionChannel}
    (hslot : (m.mChannelGroups id).mChannels slot = some channel) (key : ChannelMapKey) :
    ((m.take id slot key).mChannelGroups id).occupied.card + 1 =
      (m.mChannelGroups id).occupied.card := by
  simp only [ChannelManager.take, ChannelManager.setGroup, Function.update_self]
  exact card_update_none hslot _ _

/-- The groups that stay are those with a channel left. -/
theorem mem_take (h : Slots m) (hid : id ∈ m.groupIds) {channel : SessionChannel}
    (hslot : (m.mChannelGroups id).mChannels slot = some channel) {id' : ℤ} :
    id' ∈ (m.take id slot key).groupIds ↔
      id' ∈ m.groupIds ∧ (id' = id → 1 < (m.mChannelGroups id).occupied.card) := by
  have hlive := h.live id hid
  have hcard := take_card hslot key
  have hids : (m.take id slot key).groupIds =
      if (m.mChannelGroups id).mLiveChannels - 1 = 0 then m.groupIds.erase id else m.groupIds := rfl
  rw [hids]
  split
  · rename_i hlast
    rw [Finset.mem_erase]
    constructor
    · rintro ⟨hne, hmem⟩
      exact ⟨hmem, fun heq => absurd heq hne⟩
    · rintro ⟨hmem, hmore⟩
      refine ⟨fun heq => ?_, hmem⟩
      have := hmore heq
      omega
  · rename_i hmore
    exact ⟨fun hmem => ⟨hmem, fun _ => by omega⟩, fun hmem => hmem.1⟩

/-- A channel that is not closed stays, and its group with it. -/
theorem take_kept (h : Slots m) (hid : id ∈ m.groupIds) {channel other : SessionChannel}
    (hslot : (m.mChannelGroups id).mChannels slot = some channel) {value : ChannelMapValue}
    (hin : value.groupId ∈ m.groupIds) (hother : m.channelAt value = some other)
    (hne : value ≠ ⟨id, slot⟩) :
    value.groupId ∈ (m.take id slot key).groupIds ∧
      (m.take id slot key).channelAt value = some other := by
  have hkept : (m.take id slot key).channelAt value = some other := by
    rw [channelAt_take, if_neg hne, hother]
  refine ⟨(mem_take h hid hslot).mpr ⟨hin, fun hsame => ?_⟩, hkept⟩
  have hused : 0 < ((m.take id slot key).mChannelGroups id).occupied.card := by
    refine Finset.card_pos.mpr ⟨value.offset, mem_occupied.mpr ?_⟩
    rw [ChannelManager.channelAt, hsame] at hkept
    exact Option.isSome_iff_exists.mpr ⟨other, hkept⟩
  have hcard := take_card hslot key
  omega

theorem booked_take (h : Booked m) (hmap : m.mChannelMap key = some ⟨id, slot⟩) :
    Booked (m.take id slot key) := by
  obtain ⟨hid, channel, hslot, hkey⟩ : id ∈ m.groupIds ∧
      ∃ channel, (m.mChannelGroups id).mChannels slot = some channel ∧ channel.key = key :=
    h.filled _ _ hmap
  have hmem : ∀ {id'}, id' ∈ (m.take id slot key).groupIds ↔
      id' ∈ m.groupIds ∧ (id' = id → 1 < (m.mChannelGroups id).occupied.card) :=
    mem_take h.toSlots hid hslot
  have hcard := take_card hslot key
  refine ⟨⟨?_, ?_, ?_, ?_, fun id' hid' => h.range id' (hmem.mp hid').1⟩, ?_⟩
  · intro key' value hvalue
    have hne : key' ≠ key := by
      rintro rfl
      simp [ChannelManager.take] at hvalue
    have hold : m.mChannelMap key' = some value := by
      simpa [ChannelManager.take, hne] using hvalue
    obtain ⟨hin, other, hother, hok⟩ := h.filled key' value hold
    have hplace : value ≠ ⟨id, slot⟩ := by
      rintro rfl
      rw [hslot] at hother
      cases hother
      exact hne (hok.symm.trans hkey)
    obtain ⟨hgroup, hkept⟩ := take_kept h.toSlots hid hslot hin hother hplace
    exact ⟨hgroup, other, hkept, hok⟩
  · intro id' hid' slot' other hother
    have hafter : (m.take id slot key).channelAt ⟨id', slot'⟩ = some other := hother
    rw [channelAt_take] at hafter
    by_cases hsame : (⟨id', slot'⟩ : ChannelMapValue) = ⟨id, slot⟩
    · rw [if_pos hsame] at hafter
      cases hafter
    · rw [if_neg hsame] at hafter
      obtain ⟨hmapped, hmid⟩ := h.mapped id' (hmem.mp hid').1 slot' other hafter
      have hne : other.key ≠ key := by
        intro heq
        rw [heq, hmap] at hmapped
        exact hsame (Option.some.inj hmapped).symm
      exact ⟨by simpa [ChannelManager.take, hne] using hmapped, hmid⟩
  · intro id' hid'
    by_cases hsame : id' = id
    · subst hsame
      have hlive := h.live id' hid
      have hcount : ((m.take id' slot key).mChannelGroups id').mLiveChannels =
          (m.mChannelGroups id').mLiveChannels - 1 := by
        simp [ChannelManager.take, ChannelManager.setGroup]
      omega
    · rw [take_other m slot key hsame]
      exact h.live id' (hmem.mp hid').1
  · intro id' hid'
    by_cases hsame : id' = id
    · subst hsame
      simpa [ChannelManager.take, ChannelManager.setGroup] using h.named id' hid
    · rw [take_other m slot key hsame]
      exact h.named id' (hmem.mp hid').1
  · intro id' hid'
    by_cases hsame : id' = id
    · have hmore := (hmem.mp hid').2 hsame
      rw [hsame]
      omega
    · rw [take_other m slot key hsame]
      exact h.used id' (hmem.mp hid').1

/-- A client with a channel can close it. -/
theorem closeChannel_eq (h : Slots m) {tgid uid : ℤ}
    (hmap : m.mChannelMap (tgid, uid) = some ⟨id, slot⟩) :
    m.closeChannel tgid uid = (true, m.take id slot (tgid, uid)) := by
  obtain ⟨hid, channel, hslot, -⟩ := h.filled _ _ hmap
  simp only [ChannelManager.closeChannel, hmap, ChannelGroup.removeChannel, hslot,
    ChannelManager.take, ChannelManager.setGroup]
  rw [if_pos hid]
  split
  · rfl
  · rfl

end Close

/-! ### Every step -/

section Step

variable {m : ChannelManager} {tgid uid : ℤ}

/-- The group a client has its channel in. -/
def ChannelManager.groupOf (m : ChannelManager) (key : ChannelMapKey) : Option ℤ :=
  (m.mChannelMap key).map ChannelMapValue.groupId

theorem groupOf_eq_none {key : ChannelMapKey} : m.groupOf key = none ↔ m.mChannelMap key = none := by
  simp [ChannelManager.groupOf]

/-- A client without a channel gets one in the group found or made. -/
theorem open_step (h : Booked m) (hnone : m.mChannelMap (tgid, uid) = none)
    (hnext : m.findGroup = -1 → m.nextGroup ∉ m.groupIds) (isValid : Bool) :
    ∃ m', channelStep (.ok m) (.getChannelConfig tgid uid isValid) = .ok m' ∧ Booked m' ∧
      m'.groupOf = Function.update m.groupOf (tgid, uid) (some m.groupForNew.1) := by
  obtain ⟨slot, channel, hcreate, hfree, hkey, hplace⟩ := create_spec h hnone hnext
  obtain ⟨-, hin, -, hmap, -⟩ := groupForNew_spec h.toSlots hnext
  refine ⟨_, getChannelConfig_ok hcreate (by rw [hplace]; exact hin) isValid,
    booked_put h hnext hfree (by rw [hkey]; exact hnone) hplace, ?_⟩
  funext key
  by_cases hsame : key = (tgid, uid)
  · simp [ChannelManager.groupOf, ChannelManager.put, hkey, hsame]
  · simp [ChannelManager.groupOf, ChannelManager.put, hkey, hsame, hmap]

/-- A client that has a channel changes nothing by asking for it again. -/
theorem again_step (h : Booked m) {value : ChannelMapValue}
    (hsome : m.mChannelMap (tgid, uid) = some value) (isValid : Bool) :
    channelStep (.ok m) (.getChannelConfig tgid uid isValid) = .ok m := by
  obtain ⟨channel, hget, hin⟩ := get_existing h.toSlots hsome
  exact getChannelConfig_ok hget hin isValid

theorem fail_step (h : Booked m) (hnone : m.mChannelMap (tgid, uid) = none)
    (hfind : m.findGroup = -1) (hnext : m.nextGroup ∈ m.groupIds) (isValid : Bool) :
    channelStep (.ok m) (.getChannelConfig tgid uid isValid) = .error .failedToCreateChannel := by
  simp only [channelStep, ChannelManager.getChannelConfig, create_fails h hnone hfind hnext, bind,
    Except.bind]
  rfl

/-- After a close the client has no channel, and the books are in order. -/
theorem close_step (h : Booked m) (tgid uid : ℤ) :
    (m.closeChannel tgid uid).1 = (m.mChannelMap (tgid, uid)).isSome ∧
      ∃ m', channelStep (.ok m) (.closeChannel tgid uid) = .ok m' ∧ Booked m' ∧
        m'.groupOf = Function.update m.groupOf (tgid, uid) none := by
  cases hmap : m.mChannelMap (tgid, uid) with
  | none =>
    have hclose : m.closeChannel tgid uid = (false, m) := by
      simp only [ChannelManager.closeChannel, hmap]
    have hgroup : m.groupOf (tgid, uid) = none := groupOf_eq_none.mpr hmap
    refine ⟨by rw [hclose]; rfl, m, by simp only [channelStep, hclose], h, ?_⟩
    rw [← hgroup, Function.update_eq_self]
  | some value =>
    have hclose := closeChannel_eq h.toSlots hmap
    refine ⟨by rw [hclose]; rfl, _, by simp only [channelStep, hclose], booked_take h hmap, ?_⟩
    funext key
    by_cases hsame : key = (tgid, uid)
    · simp [ChannelManager.groupOf, ChannelManager.take, hsame]
    · simp [ChannelManager.groupOf, ChannelManager.take, hsame]

theorem bookkeeping_of_booked (h : Booked m) : Bookkeeping m := by
  refine ⟨⟨?_, ?_, ?_⟩, h.live, fun id hid => ⟨h.used id hid, card_occupied_le _⟩, h.named⟩
  · intro key hkey
    obtain ⟨value, hvalue⟩ := Option.isSome_iff_exists.mp hkey
    obtain ⟨hin, channel, hslot, -⟩ := h.filled key value hvalue
    exact ⟨value, ⟨hin, by simp [mem_occupied, hslot]⟩, hvalue.symm⟩
  · intro key hkey key' _ hsame
    obtain ⟨value, hvalue⟩ := Option.isSome_iff_exists.mp hkey
    obtain ⟨-, channel, hslot, hok⟩ := h.filled key value hvalue
    obtain ⟨-, channel', hslot', hok'⟩ := h.filled key' value (hsame.symm.trans hvalue)
    rw [hslot] at hslot'
    cases hslot'
    exact hok.symm.trans hok'
  · rintro _ ⟨⟨id, slot⟩, ⟨hin, hslot⟩, rfl⟩
    obtain ⟨channel, hchannel⟩ := Option.isSome_iff_exists.mp (mem_occupied.mp hslot)
    obtain ⟨hmap, -⟩ := h.mapped id hin slot channel hchannel
    exact ⟨channel.key, by simp [ChannelManager.clients, hmap], hmap⟩

theorem booked_init : Booked .init := by
  refine ⟨⟨?_, ?_, ?_, ?_, ?_⟩, ?_⟩ <;> simp [ChannelManager.init]

end Step

/-- CORRECT: whatever clients ask for and close, the channel map and the slots stay in order and the
    process goes on, exactly as long as every new group has an id of its own. -/
theorem channels_in_order_iff (as : List ChannelAct) :
    Always channelStep InOrder (.ok .init) as ↔ Meets channelStep HasId (.ok .init) as := by
  have hinit : ∃ m, (.ok .init : Except Fault ChannelManager) = .ok m ∧ Booked m :=
    ⟨_, rfl, booked_init⟩
  refine always_iff_meets (fun s a (h : ∃ m, s = .ok m ∧ Booked m) hid => ?_)
    (fun s a h hp => ?_) as _ hinit
  · obtain ⟨m, rfl, hm⟩ := h
    cases a with
    | getChannelConfig tgid uid isValid =>
      cases hmap : m.mChannelMap (tgid, uid) with
      | none =>
        obtain ⟨m', hstep, hm', -⟩ := open_step hm hmap (hid m rfl hmap) isValid
        exact ⟨⟨m', hstep, hm'⟩, ⟨m', hstep, bookkeeping_of_booked hm'⟩, by simp⟩
      | some value =>
        have hstep := again_step hm hmap isValid
        exact ⟨⟨m, hstep, hm⟩, ⟨m, hstep, bookkeeping_of_booked hm⟩, by simp⟩
    | closeChannel tgid uid =>
      obtain ⟨hfound, m', hstep, hm', -⟩ := close_step hm tgid uid
      refine ⟨⟨m', hstep, hm'⟩, ⟨m', hstep, bookkeeping_of_booked hm'⟩, ?_⟩
      rintro m₁ tgid₁ uid₁ hsame hact
      cases hsame
      cases hact
      exact hfound
  · obtain ⟨m, rfl, hm⟩ := h
    cases a with
    | getChannelConfig tgid uid isValid =>
      rintro m₁ hsame hmap hfind hnext
      cases hsame
      obtain ⟨⟨m', hstep, -⟩, -⟩ := hp
      rw [fail_step hm hmap hfind hnext isValid] at hstep
      cases hstep
    | closeChannel tgid uid => trivial

/-! ### Running out of ids

    The clients of uid `k` fill group `k`. Once the next group is full the lower one is closed:

        {k} ──open 16──▶ {k, k + 1} ──close 16──▶ {k + 1} ──▶ ⋯ ──▶ {2³¹ - 1, -2³¹} ──▶ abort -/

section Overflow

variable {m : ChannelManager} {S B : Finset ChannelMapKey} {k n : ℤ} {j : ℕ}

/-- The clients are `S`, each in the group of its uid. -/
structure Held (m : ChannelManager) (S : Finset ChannelMapKey) : Prop where
  booked : Booked m
  group : ∀ key, m.groupOf key = if key ∈ S then some key.2 else none

theorem Held.placed (h : Held m S) {key : ChannelMapKey} {id : ℤ} :
    (∃ slot, m.mChannelMap key = some ⟨id, slot⟩) ↔ key ∈ S ∧ key.2 = id := by
  have hgroup : (m.mChannelMap key).map ChannelMapValue.groupId =
      if key ∈ S then some key.2 else none := h.group key
  constructor
  · rintro ⟨slot, hmap⟩
    rw [hmap] at hgroup
    by_cases hmem : key ∈ S
    · rw [if_pos hmem] at hgroup
      exact ⟨hmem, (Option.some.inj hgroup).symm⟩
    · rw [if_neg hmem] at hgroup
      cases hgroup
  · rintro ⟨hmem, rfl⟩
    rw [if_pos hmem, Option.map_eq_some_iff] at hgroup
    obtain ⟨⟨id, slot⟩, hmap, hid⟩ := hgroup
    exact ⟨slot, by rw [hmap, ← hid]⟩

theorem Held.mem_groupIds (h : Held m S) {id : ℤ} : id ∈ m.groupIds ↔ ∃ key ∈ S, key.2 = id := by
  constructor
  · intro hid
    obtain ⟨slot, hslot⟩ := Finset.card_pos.mp (h.booked.used id hid)
    obtain ⟨channel, hchannel⟩ := Option.isSome_iff_exists.mp (mem_occupied.mp hslot)
    obtain ⟨hmap, -⟩ := h.booked.mapped id hid slot channel hchannel
    exact ⟨channel.key, h.placed.mp ⟨slot, hmap⟩⟩
  · rintro ⟨key, hmem, huid⟩
    obtain ⟨slot, hmap⟩ := h.placed.mpr ⟨hmem, huid⟩
    exact (h.booked.filled _ _ hmap).1

/-- A group has as many channels as clients. -/
theorem Held.card (h : Held m S) {id : ℤ} (hid : id ∈ m.groupIds) :
    (m.mChannelGroups id).occupied.card = (S.filter fun key => key.2 = id).card := by
  have hplace : ∀ key ∈ S.filter (fun key => key.2 = id), ∃ slot,
      m.mChannelMap key = some ⟨id, slot⟩ := fun key hkey => h.placed.mpr (Finset.mem_filter.mp hkey)
  refine (Finset.card_bij (fun key hkey => (hplace key hkey).choose) ?_ ?_ ?_).symm
  · intro key hkey
    obtain ⟨-, channel, hslot, -⟩ := h.booked.filled _ _ (hplace key hkey).choose_spec
    exact mem_occupied.mpr (Option.isSome_iff_exists.mpr ⟨channel, hslot⟩)
  · intro key hkey key' hkey' hsame
    have hmap := (hplace key hkey).choose_spec
    have hmap' := (hplace key' hkey').choose_spec
    rw [← hsame] at hmap'
    have hinj := (bookkeeping_of_booked h.booked).bijection.injOn
    exact hinj (Option.isSome_iff_exists.mpr ⟨_, hmap⟩) (Option.isSome_iff_exists.mpr ⟨_, hmap'⟩)
      (hmap.trans hmap'.symm)
  · intro slot hslot
    obtain ⟨channel, hchannel⟩ := Option.isSome_iff_exists.mp (mem_occupied.mp hslot)
    obtain ⟨hmap, -⟩ := h.booked.mapped id hid slot channel hchannel
    have hkey : channel.key ∈ S.filter fun key => key.2 = id :=
      Finset.mem_filter.mpr (h.placed.mp ⟨slot, hmap⟩)
    have hsame := Option.some.inj (hmap.symm.trans (hplace channel.key hkey).choose_spec)
    exact ⟨channel.key, hkey, (congrArg ChannelMapValue.offset hsame).symm⟩

/-- The first `j` clients of uid `k`. -/
def clientsOf (k : ℤ) (j : ℕ) : Finset ChannelMapKey :=
  (Finset.range j).image fun tgid : ℕ => ((tgid : ℤ), k)

theorem mem_clientsOf {key : ChannelMapKey} :
    key ∈ clientsOf k j ↔ key.2 = k ∧ 0 ≤ key.1 ∧ key.1 < j := by
  obtain ⟨tgid, uid⟩ := key
  simp only [clientsOf, Finset.mem_image, Finset.mem_range, Prod.mk.injEq]
  constructor
  · rintro ⟨t, ht, rfl, rfl⟩
    exact ⟨rfl, by omega, by omega⟩
  · rintro ⟨rfl, hlow, hhigh⟩
    exact ⟨tgid.toNat, by omega, by omega, rfl⟩

theorem card_clientsOf (k : ℤ) (j : ℕ) : (clientsOf k j).card = j := by
  rw [clientsOf, Finset.card_image_of_injective, Finset.card_range]
  intro t t' hsame
  simpa using hsame

/-- Every group with clients in `B` is full. -/
def Full (B : Finset ChannelMapKey) : Prop :=
  ∀ key ∈ B, (B.filter fun other => other.2 = key.2).card = kMaxChannels

theorem full_clientsOf (k : ℤ) : Full (clientsOf k kMaxChannels) := by
  intro key hkey
  rw [Finset.filter_true_of_mem, card_clientsOf]
  intro other hother
  rw [(mem_clientsOf.mp hother).1, (mem_clientsOf.mp hkey).1]

theorem findGroup_of_full (h : ∀ id ∈ m.groupIds, ¬(m.mChannelGroups id).hasRoom) :
    m.findGroup = -1 := by
  unfold ChannelManager.findGroup
  rw [Finset.filter_false_of_mem h, Finset.min_empty]
  rfl

theorem findGroup_of_only (hid : n ∈ m.groupIds)
    (h : ∀ id ∈ m.groupIds, (m.mChannelGroups id).hasRoom ↔ id = n) : m.findGroup = n := by
  have hfilter : (m.groupIds.filter fun id => (m.mChannelGroups id).hasRoom) = {n} := by
    ext id
    rw [Finset.mem_filter, Finset.mem_singleton]
    exact ⟨fun hroom => (h id hroom.1).mp hroom.2, fun hn => by rw [hn]; exact ⟨hid, (h n hid).mpr rfl⟩⟩
  unfold ChannelManager.findGroup
  rw [hfilter, Finset.min_singleton]
  rfl

theorem nextGroup_of_max (h : m.groupIds.max = (k : ℤ)) : m.nextGroup = int32 (k + 1) := by
  simp only [ChannelManager.nextGroup, h]

/-- While the groups of `B` are full, room is in group `n` until all its slots are taken. -/
theorem Held.hasRoom (h : Held m (B ∪ clientsOf n j)) (hfull : Full B) (hnew : ∀ key ∈ B, key.2 ≠ n)
    {id : ℤ} (hid : id ∈ m.groupIds) :
    (m.mChannelGroups id).hasRoom ↔ id = n ∧ j < kMaxChannels := by
  rw [hasRoom_iff (h.booked.live id hid), h.card hid, Finset.filter_union]
  obtain ⟨key, hkey, rfl⟩ := h.mem_groupIds.mp hid
  rcases Finset.mem_union.mp hkey with hB | hn
  · have hnone : (clientsOf n j).filter (fun other => other.2 = key.2) = ∅ := by
      refine Finset.filter_false_of_mem fun other hother => ?_
      rw [(mem_clientsOf.mp hother).1]
      exact (hnew key hB).symm
    rw [hnone, Finset.union_empty, hfull key hB]
    simp [hnew key hB]
  · have huid := (mem_clientsOf.mp hn).1
    have hall : (clientsOf n j).filter (fun other => other.2 = key.2) = clientsOf n j := by
      refine Finset.filter_true_of_mem fun other hother => ?_
      rw [(mem_clientsOf.mp hother).1, huid]
    have hnone : B.filter (fun other => other.2 = key.2) = ∅ := by
      refine Finset.filter_false_of_mem fun other hother => ?_
      rw [huid]
      exact hnew other hother
    rw [hall, hnone, Finset.empty_union, card_clientsOf]
    simp [huid]

/-- While the groups of `B` are full and group `n` after them is not, new clients go to group `n`. -/
theorem groupForNew_held (h : Held m (B ∪ clientsOf n j)) (hfull : Full B)
    (hnew : ∀ key ∈ B, key.2 ≠ n) (hnext : ∀ m, Held m B → m.nextGroup = n) (hneg : n ≠ -1)
    (hj : j < kMaxChannels) :
    m.groupForNew.1 = n ∧ (m.findGroup = -1 → m.nextGroup ∉ m.groupIds) := by
  have hroom : ∀ id ∈ m.groupIds, (m.mChannelGroups id).hasRoom ↔ id = n := by
    intro id hid
    rw [h.hasRoom hfull hnew hid, and_iff_left hj]
  by_cases hmem : n ∈ m.groupIds
  · have hfind : m.findGroup = n := findGroup_of_only hmem hroom
    rw [ChannelManager.groupForNew, hfind, if_neg hneg]
    exact ⟨rfl, fun hnone => absurd hnone hneg⟩
  · have hfind : m.findGroup = -1 := by
      refine findGroup_of_full fun id hid => ?_
      rw [hroom id hid]
      rintro rfl
      exact hmem hid
    have hempty : clientsOf n j = ∅ := by
      refine Finset.eq_empty_of_forall_notMem fun key hkey => hmem ?_
      exact h.mem_groupIds.mpr ⟨key, Finset.mem_union_right B hkey, (mem_clientsOf.mp hkey).1⟩
    rw [hempty, Finset.union_empty] at h
    rw [ChannelManager.groupForNew, hfind, if_pos rfl, hnext m h]
    exact ⟨rfl, fun _ => hmem⟩

def opens (n : ℤ) : ℕ → List ChannelAct
  | 0 => []
  | j + 1 => opens n j ++ [.getChannelConfig j n true]

def closes (k : ℤ) : ℕ → List ChannelAct
  | 0 => []
  | j + 1 => closes k j ++ [.closeChannel j k]

theorem clientsOf_succ (n : ℤ) (j : ℕ) : clientsOf n (j + 1) = insert ((j : ℤ), n) (clientsOf n j) := by
  rw [clientsOf, Finset.range_add_one, Finset.image_insert]
  rfl

/-- Sixteen new clients fill the next group. -/
theorem run_opens (h : Held m B) (hfull : Full B) (hnew : ∀ key ∈ B, key.2 ≠ n)
    (hnext : ∀ m, Held m B → m.nextGroup = n) (hneg : n ≠ -1) (hj : j ≤ kMaxChannels) :
    ∃ m', run channelStep (.ok m) (opens n j) = .ok m' ∧ Held m' (B ∪ clientsOf n j) := by
  induction j with
  | zero => exact ⟨m, rfl, by simpa [clientsOf] using h⟩
  | succ j ih =>
    obtain ⟨m₁, hrun, hheld⟩ := ih (by omega)
    obtain ⟨hgroup, hid⟩ := groupForNew_held hheld hfull hnew hnext hneg (by omega)
    have hfresh : ((j : ℤ), n) ∉ B ∪ clientsOf n j := by
      intro hmem
      rcases Finset.mem_union.mp hmem with hB | hn
      · exact hnew _ hB rfl
      · exact absurd (mem_clientsOf.mp hn).2.2 (lt_irrefl _)
    have hnone : m₁.groupOf ((j : ℤ), n) = none := by rw [hheld.group, if_neg hfresh]
    obtain ⟨m', hstep, hbooked, hafter⟩ := open_step hheld.booked (groupOf_eq_none.mp hnone) hid true
    refine ⟨m', ?_, hbooked, fun key => ?_⟩
    · rw [opens, run_append, hrun]
      exact hstep
    · rw [clientsOf_succ, Finset.union_insert, hafter, hgroup]
      by_cases hsame : key = ((j : ℤ), n)
      · simp [hsame]
      · rw [Function.update_of_ne hsame, hheld.group]
        simp [hsame]

/-- Closing the lower group's clients leaves the others. -/
theorem run_closes (h : Held m (clientsOf k kMaxChannels ∪ B)) (hB : ∀ key ∈ B, key.2 ≠ k) (j : ℕ) :
    ∃ m', run channelStep (.ok m) (closes k j) = .ok m' ∧
      Held m' (clientsOf k kMaxChannels \ clientsOf k j ∪ B) := by
  induction j with
  | zero => exact ⟨m, rfl, by simpa [clientsOf] using h⟩
  | succ j ih =>
    obtain ⟨m₁, hrun, hheld⟩ := ih
    obtain ⟨-, m', hstep, hbooked, hafter⟩ := close_step hheld.booked j k
    refine ⟨m', ?_, hbooked, fun key => ?_⟩
    · rw [closes, run_append, hrun]
      exact hstep
    · have hout : ((j : ℤ), k) ∉ B := fun hmem => hB _ hmem rfl
      rw [clientsOf_succ, hafter]
      by_cases hsame : key = ((j : ℤ), k)
      · simp [hsame, hout]
      · rw [Function.update_of_ne hsame, hheld.group]
        simp [hsame]

theorem nextGroup_empty (m : ChannelManager) (h : Held m ∅) : m.nextGroup = 0 := by
  have hids : m.groupIds = ∅ := by
    refine Finset.eq_empty_of_forall_notMem fun id hid => ?_
    obtain ⟨key, hkey, -⟩ := h.mem_groupIds.mp hid
    exact absurd hkey (Finset.notMem_empty key)
  simp only [ChannelManager.nextGroup, hids, Finset.max_empty]

theorem nextGroup_single (m : ChannelManager) (h : Held m (clientsOf k kMaxChannels)) :
    m.nextGroup = int32 (k + 1) := by
  have hids : m.groupIds = {k} := by
    ext id
    rw [h.mem_groupIds, Finset.mem_singleton]
    constructor
    · rintro ⟨key, hkey, rfl⟩
      exact (mem_clientsOf.mp hkey).1
    · rintro rfl
      exact ⟨(0, id), mem_clientsOf.mpr ⟨rfl, le_refl 0, by simp [kMaxChannels]⟩, rfl⟩
  exact nextGroup_of_max (by rw [hids, Finset.max_singleton])

/-- The climb: group 0 is filled, and then each next group in the place of the one before. -/
def climb : ℕ → List ChannelAct
  | 0 => opens 0 kMaxChannels
  | j + 1 => climb j ++ (opens ((j : ℤ) + 1) kMaxChannels ++ closes j kMaxChannels)

theorem run_climb (j : ℕ) (hj : (j : ℤ) < 2 ^ 31) :
    ∃ m, run channelStep (.ok .init) (climb j) = .ok m ∧ Held m (clientsOf j kMaxChannels) := by
  induction j with
  | zero =>
    have hinit : Held .init ∅ := ⟨booked_init, fun key => rfl⟩
    obtain ⟨m, hrun, hheld⟩ := run_opens hinit (by simp [Full]) (by simp) nextGroup_empty (by decide)
      (le_refl kMaxChannels)
    exact ⟨m, hrun, by simpa using hheld⟩
  | succ j ih =>
    have hrange : (j : ℤ) + 1 < 2 ^ 31 := by exact_mod_cast hj
    obtain ⟨m₀, hrun₀, hheld₀⟩ := ih (by omega)
    have hnext : int32 ((j : ℤ) + 1) = (j : ℤ) + 1 := by
      obtain ⟨hlow, hhigh, c, hc⟩ := int32_spec ((j : ℤ) + 1)
      omega
    obtain ⟨m₁, hrun₁, hheld₁⟩ := run_opens hheld₀ (full_clientsOf _)
      (fun key hkey => by have := (mem_clientsOf.mp hkey).1; omega)
      (fun m h => (nextGroup_single m h).trans hnext) (by omega) (le_refl kMaxChannels)
    obtain ⟨m₂, hrun₂, hheld₂⟩ := run_closes hheld₁
      (fun key hkey => by have := (mem_clientsOf.mp hkey).1; omega) kMaxChannels
    refine ⟨m₂, ?_, by simpa using hheld₂⟩
    rw [climb, run_append, hrun₀, run_append, hrun₁, hrun₂]

/-- The climb up to group `j`, then to the group of the lowest id, and one client more. -/
def climbOver (j : ℕ) : List ChannelAct :=
  climb j ++ (opens (-2 ^ 31) kMaxChannels ++ [.getChannelConfig 0 0 true])

/-- After the highest id the next group takes the lowest; when it is full too, no id is left. -/
theorem run_climbOver (j : ℕ) (hj : (j : ℤ) = 2 ^ 31 - 1) :
    run channelStep (.ok .init) (climbOver j) = .error .failedToCreateChannel := by
  obtain ⟨m, hrun, hheld⟩ := run_climb j (by omega)
  have hnext : int32 ((j : ℤ) + 1) = -2 ^ 31 := by
    rw [hj]
    decide
  have hne : ∀ key ∈ clientsOf j kMaxChannels, key.2 ≠ -2 ^ 31 := by
    intro key hkey
    rw [(mem_clientsOf.mp hkey).1]
    omega
  obtain ⟨m', hrun', hheld'⟩ := run_opens hheld (full_clientsOf _) hne
    (fun m h => (nextGroup_single m h).trans hnext) (by decide) (le_refl kMaxChannels)
  have hids : ∀ id, id ∈ m'.groupIds ↔ id = j ∨ id = -2 ^ 31 := by
    intro id
    rw [hheld'.mem_groupIds]
    simp only [Finset.mem_union, mem_clientsOf]
    constructor
    · rintro ⟨key, ⟨huid, -⟩ | ⟨huid, -⟩, rfl⟩
      · exact .inl huid
      · exact .inr huid
    · rintro (rfl | rfl)
      · exact ⟨(0, j), .inl ⟨rfl, le_refl 0, by simp [kMaxChannels]⟩, rfl⟩
      · exact ⟨(0, -2 ^ 31), .inr ⟨rfl, le_refl 0, by simp [kMaxChannels]⟩, rfl⟩
  have hfind : m'.findGroup = -1 := by
    refine findGroup_of_full fun id hid => ?_
    rw [hheld'.hasRoom (full_clientsOf _) hne hid]
    exact fun hroom => absurd hroom.2 (lt_irrefl _)
  have hmax : m'.groupIds.max = (j : ℤ) := by
    have hpair : m'.groupIds = {(j : ℤ), -2 ^ 31} := by
      ext id
      rw [hids, Finset.mem_insert, Finset.mem_singleton]
    rw [hpair, Finset.max_insert, Finset.max_singleton]
    exact max_eq_left (WithBot.coe_le_coe.mpr (by omega))
  have hused : m'.nextGroup ∈ m'.groupIds := by
    rw [nextGroup_of_max hmax, hnext]
    exact (hids _).mpr (.inr rfl)
  have hnone : m'.groupOf (0, 0) = none := by
    rw [hheld'.group, if_neg]
    simp only [Finset.mem_union, mem_clientsOf]
    omega
  rw [climbOver, run_append, hrun, run_append, hrun']
  exact fail_step hheld'.booked (groupOf_eq_none.mp hnone) hfind hused true

theorem always_ok (as : List ChannelAct) (m : ChannelManager)
    (h : Always channelStep InOrder (.ok m) as) : ∃ m', run channelStep (.ok m) as = .ok m' := by
  induction as generalizing m with
  | nil => exact ⟨m, rfl⟩
  | cons a as ih =>
    obtain ⟨⟨⟨m', hstep, -⟩, -⟩, hrest⟩ := h
    rw [run_cons]
    rw [hstep] at hrest ⊢
    exact ih m' hrest

theorem climbOver_aborts (j : ℕ) (hj : (j : ℤ) = 2 ^ 31 - 1) :
    run channelStep (.ok .init) (climbOver j) = .error .failedToCreateChannel ∧
      ¬Always channelStep InOrder (.ok .init) (climbOver j) := by
  refine ⟨run_climbOver j hj, fun hall => ?_⟩
  obtain ⟨m, hok⟩ := always_ok _ _ hall
  rw [run_climbOver j hj] at hok
  cases hok

/-- Group after group, never more than two at a time, up to the last id and once around. -/
theorem group_ids_run_out :
    run channelStep (.ok .init) (climbOver (2 ^ 31 - 1)) = .error .failedToCreateChannel ∧
      ¬Always channelStep InOrder (.ok .init) (climbOver (2 ^ 31 - 1)) :=
  climbOver_aborts (2 ^ 31 - 1) (by norm_num)

end Overflow

end ImxHal.Power
