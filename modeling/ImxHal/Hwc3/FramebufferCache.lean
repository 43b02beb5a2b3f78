import ImxHal.Schemes.Run
import ImxHal.Hwc3.Common
import Mathlib.Data.List.AList

/-! @src display/hwcomposer3/LruCache.h, display/hwcomposer3/DrmClient.cpp (create,
    destroyDrmFramebuffer, flushToDisplay, partialCleanCacheBuffer), display/hwcomposer3/DrmBuffer.cpp |
    name:DRM framebuffer cache | scheme:run | family:handle identity

    A `DrmBuffer` is found again by the GEM handle of its dma-buf. The kernel gives one handle number
    for all imports of one dma-buf on a file, and does not count them:

        D imported ──▶ handle 1 ──▶ DrmBuffer a (cached under 1)
        D imported ──▶ handle 1 ──▶ DrmBuffer b (not cached)  ──destroy b──▶ GEM_CLOSE 1
        E imported ──▶ handle 1 ──▶ cache hit: a, made from D

    A second object for a dma-buf that already has one is the defect: whichever goes first closes the
    handle under the other. -/

namespace ImxHal.Hwc3.BufferCache
open ImxHal.Run

/-! ### LruCache -/

/-- The elements, most recently used first; `m_table` is the index of this list by key. -/
structure LruCache (κ ν : Type) where
  m_maxSize : ℕ
  m_elements : List (κ × ν)
  maxSize_pos : 0 < m_maxSize
  keys_nodup : (m_elements.map Prod.fst).Nodup
  size_le : m_elements.length ≤ m_maxSize

namespace LruCache
variable {κ ν : Type}

/-- Keep a part of the elements. -/
def keep (c : LruCache κ ν) (l : List (κ × ν)) (h : l.Sublist c.m_elements) : LruCache κ ν where
  m_maxSize := c.m_maxSize
  m_elements := l
  maxSize_pos := c.maxSize_pos
  keys_nodup := c.keys_nodup.sublist (h.map _)
  size_le := le_trans h.length_le c.size_le

def add (c : LruCache κ ν) (key : κ) (value : ν) (h : key ∉ c.m_elements.map Prod.fst)
    (hs : c.m_elements.length < c.m_maxSize) : LruCache κ ν where
  m_maxSize := c.m_maxSize
  m_elements := (key, value) :: c.m_elements
  maxSize_pos := c.maxSize_pos
  keys_nodup := List.nodup_cons.mpr ⟨h, c.keys_nodup⟩
  size_le := hs

/-- A full cache drops its last element, the least recently used one. -/
def evict (c : LruCache κ ν) : LruCache κ ν :=
  if c.m_maxSize ≤ c.m_elements.length then c.keep _ (List.dropLast_sublist _) else c

theorem evict_length_lt (c : LruCache κ ν) : c.evict.m_elements.length < c.evict.m_maxSize := by
  have := c.maxSize_pos
  have := c.size_le
  rw [evict]
  split
  · simp only [keep, List.length_dropLast]; omega
  · omega

theorem evict_sublist (c : LruCache κ ν) : c.evict.m_elements.Sublist c.m_elements := by
  rw [evict]
  split
  · exact List.dropLast_sublist _
  · exact List.Sublist.refl _

def clear (c : LruCache κ ν) : LruCache κ ν := c.keep [] (List.nil_sublist _)

/-- The elements from `m_elements.begin() + reserved` to the end go. The list is circular: stepping
    over its end leads to the front again. -/
def partialClearCache (c : LruCache κ ν) (reserved : ℕ) : LruCache κ ν :=
  c.keep (c.m_elements.take (reserved % (c.m_elements.length + 1))) (List.take_sublist _ _)

theorem mem_partialClearCache {c : LruCache κ ν} {reserved : ℕ} {e : κ × ν}
    (h : e ∈ (c.partialClearCache reserved).m_elements) : e ∈ c.m_elements :=
  List.mem_of_mem_take h

variable [DecidableEq κ]

def others (c : LruCache κ ν) (key : κ) : List (κ × ν) := c.m_elements.filter fun e => e.1 ≠ key

theorem others_nodup (c : LruCache κ ν) (key : κ) (value : ν) :
    (((key, value) :: c.others key).map Prod.fst).Nodup := by
  rw [List.map_cons, List.nodup_cons]
  refine ⟨?_, c.keys_nodup.sublist (List.Sublist.map _ List.filter_sublist)⟩
  intro hm
  obtain ⟨e, he, hk⟩ := List.mem_map.mp hm
  rw [others, List.mem_filter] at he
  exact absurd hk (by simpa using he.2)

/-- An element with this key is left out, so the list gets shorter. -/
theorem others_length_lt {c : LruCache κ ν} {key : κ} (h : key ∈ c.m_elements.map Prod.fst) :
    (c.others key).length < c.m_elements.length := by
  obtain ⟨e, he, hk⟩ := List.mem_map.mp h
  rw [others, List.length_filter_lt_length_iff_exists]
  exact ⟨e, he, by simp [hk]⟩

/-- Put an element at the front in place of the one with the same key. -/
def toFront (c : LruCache κ ν) (key : κ) (value : ν) (h : key ∈ c.m_elements.map Prod.fst) :
    LruCache κ ν where
  m_maxSize := c.m_maxSize
  m_elements := (key, value) :: c.others key
  maxSize_pos := c.maxSize_pos
  keys_nodup := c.others_nodup key value
  size_le := le_trans (others_length_lt h) c.size_le

theorem find_key {c : LruCache κ ν} {key : κ} {e : κ × ν}
    (h : c.m_elements.find? (fun e => e.1 = key) = some e) : key ∈ c.m_elements.map Prod.fst := by
  have hk := List.find?_some h
  exact List.mem_map.mpr ⟨e, List.mem_of_find?_eq_some h, by simpa using hk⟩

def get (c : LruCache κ ν) (key : κ) : Option (ν × LruCache κ ν) :=
  match h : c.m_elements.find? (fun e => e.1 = key) with
  | none => none
  | some e => some (e.2, c.toFront key e.2 (find_key h))

def set (c : LruCache κ ν) (key : κ) (value : ν) : LruCache κ ν :=
  if h : key ∈ c.m_elements.map Prod.fst then c.toFront key value h
  else c.evict.add key value (fun hm => h ((c.evict_sublist.map _).subset hm)) c.evict_length_lt

theorem get_some {c c' : LruCache κ ν} {key : κ} {value : ν} (h : c.get key = some (value, c')) :
    (key, value) ∈ c.m_elements ∧ ∀ e ∈ c'.m_elements, e ∈ c.m_elements := by
  rw [get] at h
  split at h
  · exact absurd h (by simp)
  · next e he =>
    obtain ⟨rfl, rfl⟩ := Prod.mk.inj (Option.some.inj h)
    have hk : e.1 = key := by simpa using List.find?_some he
    have hm : (key, e.2) ∈ c.m_elements := hk ▸ List.mem_of_find?_eq_some he
    refine ⟨hm, fun e' he' => ?_⟩
    rcases List.mem_cons.mp he' with rfl | he'
    · exact hm
    · exact List.mem_of_mem_filter he'

theorem mem_set {c : LruCache κ ν} {key : κ} {value : ν} {e : κ × ν}
    (h : e ∈ (c.set key value).m_elements) : e = (key, value) ∨ e ∈ c.m_elements := by
  rw [set] at h
  split at h
  · exact (List.mem_cons.mp h).imp_right List.mem_of_mem_filter
  · exact (List.mem_cons.mp h).imp_right fun he => c.evict_sublist.subset he

end LruCache

/-! ### The kernel's handle table and the buffers -/

/-- An open GEM handle: its dma-buf, and a serial number that tells two openings apart. -/
structure Gem where
  dma : ℕ
  serial : ℕ
  deriving DecidableEq

/-- A `DrmBuffer` object: the handle it was made with, what that handle was then, and
    `mPlaneHandles[0]`, which stays `0` for a buffer without planes. -/
structure Buffer where
  id : ℕ
  primeHandle : ℕ
  gem : Gem
  mPlaneHandle : ℕ
  handle_eq : mPlaneHandle = 0 ∨ mPlaneHandle = primeHandle
  deriving DecidableEq

inductive BufferType where | DRM_BUFFER_NONE | DRM_BUFFER_FB | DRM_BUFFER_PLANE
  deriving DecidableEq

/-- The client with the handle table of its file and all `DrmBuffer` objects in existence. `held` are
    the references outside the caches: those of the displays and of the frame in work. -/
structure Client where
  gem : AList fun _ : ℕ => Gem
  serial : ℕ
  live : List Buffer
  nextId : ℕ
  mFramebufferCache : LruCache ℕ ℕ
  mPlaneBufferCache : Option (LruCache ℕ ℕ)
  held : List ℕ
  mLastPlaneBufferPresentTime : ℕ
  mLastOverlayCount : ℕ
  mCheckOverlayTime : ℕ

def planeElements (c : Client) : List (ℕ × ℕ) :=
  match c.mPlaneBufferCache with
  | some cache => cache.m_elements
  | none => []

/-- All references to buffer objects. -/
def refs (c : Client) : List ℕ :=
  (c.mFramebufferCache.m_elements ++ planeElements c).map Prod.snd ++ c.held

/-- The handle, what it stands for, and the client with the handle open. -/
structure Imported where
  handle : ℕ
  gem : Gem
  client : Client

/-- `drmPrimeFDToHandle`: the open handle of this dma-buf, or a number that is not in use. -/
def drmPrimeFDToHandle (c : Client) (dma pick : ℕ) : Option Imported :=
  match c.gem.entries.find? (fun e => e.2.dma = dma) with
  | some e => some ⟨e.1, e.2, c⟩
  | none =>
    if pick = 0 ∨ pick ∈ c.gem then none
    else some ⟨pick, ⟨dma, c.serial⟩, { c with
      gem := c.gem.insert pick ⟨dma, c.serial⟩
      serial := c.serial + 1 }⟩

/-- Outcomes of `drmModeRmFB` and `DRM_IOCTL_GEM_CLOSE` for each buffer object. -/
structure DestroyEnv where
  rmFb : ℕ → Bool
  gemClose : ℕ → Bool

/-- `framebuffer` tells whether the object has one to remove. -/
def destroyDrmFramebuffer (env : DestroyEnv) (framebuffer : Bool)
    (gem : AList fun _ : ℕ => Gem) (b : Buffer) : AList fun _ : ℕ => Gem :=
  if framebuffer = true ∧ env.rmFb b.id = false then gem
  else if b.mPlaneHandle ≠ 0 ∧ env.gemClose b.id = true then gem.erase b.mPlaneHandle
  else gem

/-- The objects without a reference are destroyed. -/
def sweep (env : DestroyEnv) (c : Client) : Client :=
  { c with
    live := c.live.filter fun b => b.id ∈ refs c
    gem := (c.live.filter fun b => b.id ∉ refs c).foldl (destroyDrmFramebuffer env true) c.gem }

/-! ### create -/

/-- A call of `create` with the outcomes of what it calls. -/
structure CreateIn where
  handleValid : Bool
  dma : ℕ
  type : BufferType
  num_planes : ℕ
  importOk : Bool
  pick : ℕ
  addFb : Bool
  env : DestroyEnv

/-- The cache a buffer type is looked up in: the object found and the client after the lookup. -/
def cached (c : Client) (type : BufferType) (handle : ℕ) : Option (ℕ × Client) :=
  match type with
  | .DRM_BUFFER_FB =>
    (c.mFramebufferCache.get handle).map fun r => (r.1, { c with mFramebufferCache := r.2 })
  | .DRM_BUFFER_PLANE =>
    match c.mPlaneBufferCache with
    | some cache => (cache.get handle).map fun r => (r.1, { c with mPlaneBufferCache := some r.2 })
    | none => none
  | .DRM_BUFFER_NONE => none

/-- Put a new object into the cache of its type, if there is one. -/
def store (c : Client) (type : BufferType) (handle id : ℕ) : Client :=
  match type with
  | .DRM_BUFFER_FB => { c with mFramebufferCache := c.mFramebufferCache.set handle id }
  | .DRM_BUFFER_PLANE =>
    match c.mPlaneBufferCache with
    | some cache => { c with mPlaneBufferCache := some (cache.set handle id) }
    | none => c
  | .DRM_BUFFER_NONE => c

structure CreateOut where
  error : Error
  buffer : Option ℕ
  client : Client

def newBuffer (id handle : ℕ) (gem : Gem) (num_planes : ℕ) : Buffer where
  id := id
  primeHandle := handle
  gem := gem
  mPlaneHandle := if 0 < num_planes then handle else 0
  handle_eq := by split <;> simp

/-- The end of `create` for a handle that is in no cache it looks into. -/
def createNew (c : Client) (i : CreateIn) (handle : ℕ) (gem : Gem) : CreateOut :=
  let buffer := newBuffer c.nextId handle gem i.num_planes
  if i.addFb = false then
    ⟨.NoResources, none, { c with
      gem := destroyDrmFramebuffer i.env false c.gem buffer
      nextId := c.nextId + 1 }⟩
  else
    ⟨.None, some buffer.id, sweep i.env (store { c with
      live := buffer :: c.live
      nextId := c.nextId + 1
      held := buffer.id :: c.held } i.type handle buffer.id)⟩

def Client.create (c : Client) (i : CreateIn) : CreateOut :=
  if i.handleValid = false then ⟨.BadParameter, none, c⟩
  else if i.importOk = false then ⟨.NoResources, none, c⟩
  else
    match drmPrimeFDToHandle c i.dma i.pick with
    | none => ⟨.NoResources, none, c⟩
    | some imp =>
      match cached imp.client i.type imp.handle with
      | some (id, c) => ⟨.None, some id, { c with held := id :: c.held }⟩
      | none => createNew imp.client i imp.handle imp.gem

/-! ### The cleanups -/

/-- The start of `flushToDisplay`: without overlays for two seconds the plane cache is cleared. -/
def flushClean (c : Client) (overlays now : ℕ) (env : DestroyEnv) : Client :=
  match c.mPlaneBufferCache with
  | none => c
  | some cache =>
    if cache.m_elements.length = 0 then c
    else if 0 < overlays then { c with mLastPlaneBufferPresentTime := now }
    else if c.mLastPlaneBufferPresentTime + 2000000000 < now then
      sweep env { c with mPlaneBufferCache := some cache.clear }
    else c

def Client.partialCleanCacheBuffer (c : Client) (overlayNum now : ℕ) (env : DestroyEnv) : Client :=
  match c.mPlaneBufferCache with
  | none => c
  | some cache =>
    if cache.m_elements.length = 0 then c
    else if overlayNum < c.mLastOverlayCount then
      if c.mCheckOverlayTime + 500000000 < now then
        sweep env { c with
          mPlaneBufferCache := some (cache.partialClearCache (overlayNum * 6 % 2 ^ 32))
          mLastOverlayCount := overlayNum }
      else c
    else { c with mCheckOverlayTime := now, mLastOverlayCount := overlayNum }

/-- The last outside user of one returned reference lets it go. -/
def release (c : Client) (id : ℕ) (env : DestroyEnv) : Client :=
  sweep env { c with held := c.held.erase id }

/-! ### Runs -/

inductive Action where
  | create (i : CreateIn)
  | release (id : ℕ) (env : DestroyEnv)
  | flushClean (overlays now : ℕ) (env : DestroyEnv)
  | partialCleanCacheBuffer (overlayNum now : ℕ) (env : DestroyEnv)

def step (c : Client) : Action → Client
  | .create i => (c.create i).client
  | .release id env => release c id env
  | .flushClean overlays now env => flushClean c overlays now env
  | .partialCleanCacheBuffer overlayNum now env => c.partialCleanCacheBuffer overlayNum now env

/-- No live buffer refers to a handle that has been closed: its handle is still the one it was made
    with. -/
def HandlesOpen (c : Client) : Prop :=
  ∀ b ∈ c.live, b.mPlaneHandle ≠ 0 → c.gem.lookup b.mPlaneHandle = some b.gem

/-- The buffer that `create` returns, found or new, was made from the dma-buf asked for. -/
def SameDma (c : Client) : Action → Client → Prop
  | .create i, c' => ∀ id, (c.create i).buffer = some id →
      (∃ b ∈ c'.live, b.id = id) ∧ ∀ b ∈ c'.live, b.id = id → b.gem.dma = i.dma
  | _, _ => True

def Sound (c : Client) (a : Action) (c' : Client) : Prop := SameDma c a c' ∧ HandlesOpen c'

/-- The call gets as far as the cache and finds nothing there. -/
def misses (c : Client) (i : CreateIn) : Bool :=
  i.handleValid && i.importOk &&
    match drmPrimeFDToHandle c i.dma i.pick with
    | some imp => (cached imp.client i.type imp.handle).isNone
    | none => false

/-- A `create` that finds nothing in the cache it looks into is for a dma-buf of which no buffer
    object is alive. -/
def Exclusive (c : Client) : Action → Prop
  | .create i => misses c i = true → ∀ b ∈ c.live, b.gem.dma ≠ i.dma
  | _ => True

instance (c : Client) (a : Action) : Decidable (Exclusive c a) :=
  match a with
  | .create i => inferInstanceAs (Decidable (misses c i = true → ∀ b ∈ c.live, b.gem.dma ≠ i.dma))
  | .release .. | .flushClean .. | .partialCleanCacheBuffer .. => isTrue trivial

/-! ### The invariant -/

/-- Every cached reference names a live buffer made with that handle. -/
def Indexed (live : List Buffer) (elements : List (ℕ × ℕ)) : Prop :=
  ∀ e ∈ elements, ∃ b ∈ live, b.id = e.2 ∧ b.primeHandle = e.1

/-- One buffer object for each dma-buf, its handle open and unchanged since it was made. -/
structure Inv (c : Client) : Prop where
  ids : ∀ b ∈ c.live, ∀ b' ∈ c.live, b.id = b'.id → b = b'
  fresh : ∀ b ∈ c.live, b.id < c.nextId
  dmas : ∀ b ∈ c.live, ∀ b' ∈ c.live, b.gem.dma = b'.gem.dma → b = b'
  opened : ∀ b ∈ c.live, c.gem.lookup b.primeHandle = some b.gem
  table : ∀ h h' g g', c.gem.lookup h = some g → c.gem.lookup h' = some g' → g.dma = g'.dma → h = h'
  framebuffers : Indexed c.live c.mFramebufferCache.m_elements
  planes : Indexed c.live (planeElements c)

theorem Inv.handlesOpen {c : Client} (hc : Inv c) : HandlesOpen c := by
  intro b hb hne
  rcases b.handle_eq with h | h
  · exact absurd h hne
  · rw [h]; exact hc.opened b hb

/-- Two live buffers made with the same handle are one. -/
theorem Inv.handles {c : Client} (hc : Inv c) {b b' : Buffer} (hb : b ∈ c.live) (hb' : b' ∈ c.live)
    (h : b.primeHandle = b'.primeHandle) : b = b' := by
  have h₁ := hc.opened b hb
  rw [h, hc.opened b' hb', Option.some.injEq] at h₁
  exact hc.dmas b hb b' hb' (by rw [h₁])

theorem destroy_lookup_some {env : DestroyEnv} {fb : Bool} {gem : AList fun _ : ℕ => Gem}
    {b : Buffer} {h : ℕ} {g : Gem} (hl : (destroyDrmFramebuffer env fb gem b).lookup h = some g) :
    gem.lookup h = some g := by
  rw [destroyDrmFramebuffer] at hl
  split at hl
  · exact hl
  · split at hl
    · by_cases hh : h = b.mPlaneHandle
      · rw [hh, AList.lookup_erase] at hl
        exact absurd hl (by simp)
      · rwa [AList.lookup_erase_ne hh] at hl
    · exact hl

/-- Destroying a buffer touches no handle but its own. -/
theorem destroy_lookup {env : DestroyEnv} {fb : Bool} {gem : AList fun _ : ℕ => Gem} {b : Buffer}
    {h : ℕ} (hne : h ≠ b.primeHandle) :
    (destroyDrmFramebuffer env fb gem b).lookup h = gem.lookup h := by
  rw [destroyDrmFramebuffer]
  split
  · rfl
  · split
    · next hc =>
      refine AList.lookup_erase_ne ?_
      rcases b.handle_eq with h₀ | h₀
      · exact absurd h₀ hc.1
      · rwa [h₀]
    · rfl

theorem destroyAll_lookup_some {env : DestroyEnv} {h : ℕ} {g : Gem} (dead : List Buffer)
    (gem : AList fun _ : ℕ => Gem)
    (hl : (dead.foldl (destroyDrmFramebuffer env true) gem).lookup h = some g) :
    gem.lookup h = some g := by
  refine run_inv (fun gem' => gem'.lookup h = some g → gem.lookup h = some g) ?_ dead gem id
    (fun _ _ => trivial) hl
  intro gem' b hback _ hl
  exact hback (destroy_lookup_some hl)

theorem destroyAll_lookup {env : DestroyEnv} {h : ℕ} (dead : List Buffer)
    (gem : AList fun _ : ℕ => Gem) (hne : ∀ b ∈ dead, h ≠ b.primeHandle) :
    (dead.foldl (destroyDrmFramebuffer env true) gem).lookup h = gem.lookup h := by
  refine run_inv (fun gem' => gem'.lookup h = gem.lookup h) ?_ dead gem rfl hne
  intro gem' b hsame hb
  exact (destroy_lookup hb).trans hsame

/-- A referenced buffer survives the sweep. -/
theorem indexed_sweep {c : Client} {elements : List (ℕ × ℕ)} (h : Indexed c.live elements)
    (hsub : ∀ e ∈ elements, e.2 ∈ refs c) :
    Indexed (c.live.filter fun b => b.id ∈ refs c) elements := by
  intro e he
  obtain ⟨b, hb, hid, hk⟩ := h e he
  exact ⟨b, List.mem_filter.mpr ⟨hb, by simpa [hid] using hsub e he⟩, hid, hk⟩

theorem mem_refs_framebuffer {c : Client} {e : ℕ × ℕ} (he : e ∈ c.mFramebufferCache.m_elements) :
    e.2 ∈ refs c :=
  List.mem_append_left _ (List.mem_map_of_mem (List.mem_append_left _ he))

theorem mem_refs_plane {c : Client} {e : ℕ × ℕ} (he : e ∈ planeElements c) : e.2 ∈ refs c :=
  List.mem_append_left _ (List.mem_map_of_mem (List.mem_append_right _ he))

/-- Destroying the unreferenced objects keeps the invariant: no survivor has their handle. -/
theorem sweep_inv (env : DestroyEnv) {c : Client} (hc : Inv c) : Inv (sweep env c) where
  ids b hb b' hb' := hc.ids b (List.mem_of_mem_filter hb) b' (List.mem_of_mem_filter hb')
  fresh b hb := hc.fresh b (List.mem_of_mem_filter hb)
  dmas b hb b' hb' := hc.dmas b (List.mem_of_mem_filter hb) b' (List.mem_of_mem_filter hb')
  opened b hb := by
    have hb₁ := List.mem_filter.mp hb
    refine (destroyAll_lookup _ _ ?_).trans (hc.opened b hb₁.1)
    intro b' hb' heq
    have hb'₁ := List.mem_filter.mp hb'
    obtain rfl := hc.handles hb₁.1 hb'₁.1 heq
    simp_all
  table h h' g g' hg hg' :=
    hc.table h h' g g' (destroyAll_lookup_some _ _ hg) (destroyAll_lookup_some _ _ hg')
  framebuffers := indexed_sweep hc.framebuffers fun _ he => mem_refs_framebuffer he
  planes := indexed_sweep hc.planes fun _ he => mem_refs_plane he

/-- Dropping references and cache entries keeps the invariant. -/
theorem Inv.drop {c c' : Client} (hc : Inv c) (hlive : c'.live = c.live) (hgem : c'.gem = c.gem)
    (hid : c'.nextId = c.nextId)
    (hfb : ∀ e ∈ c'.mFramebufferCache.m_elements, e ∈ c.mFramebufferCache.m_elements)
    (hpl : ∀ e ∈ planeElements c', e ∈ planeElements c) : Inv c' where
  ids := hlive ▸ hc.ids
  fresh := by rw [hlive, hid]; exact hc.fresh
  dmas := hlive ▸ hc.dmas
  opened := by rw [hlive, hgem]; exact hc.opened
  table := hgem ▸ hc.table
  framebuffers e he := by rw [hlive]; exact hc.framebuffers e (hfb e he)
  planes e he := by rw [hlive]; exact hc.planes e (hpl e he)

/-! ### create keeps it -/

/-- What an import gives: the handle stands for the dma-buf, and nothing else has changed. -/
theorem import_inv {c : Client} {dma pick : ℕ} {imp : Imported} (hc : Inv c)
    (h : drmPrimeFDToHandle c dma pick = some imp) :
    Inv imp.client ∧ imp.client.live = c.live ∧ imp.gem.dma = dma ∧
      imp.client.gem.lookup imp.handle = some imp.gem := by
  rw [drmPrimeFDToHandle] at h
  split at h
  · next e he =>
    obtain rfl := Option.some.inj h
    have hdma : e.2.dma = dma := by simpa using List.find?_some he
    refine ⟨hc, rfl, hdma, ?_⟩
    exact AList.mem_lookup_iff.mpr (List.mem_of_find?_eq_some he)
  · next hnone =>
    have hno : ∀ k g, c.gem.lookup k = some g → g.dma ≠ dma := by
      intro k g hg hd
      have hmem : (⟨k, g⟩ : Sigma fun _ : ℕ => Gem) ∈ c.gem.entries := AList.mem_lookup_iff.mp hg
      exact absurd hd (by simpa using List.find?_eq_none.mp hnone _ hmem)
    split at h
    · exact absurd h (by simp)
    · next hp =>
      obtain rfl := Option.some.inj h
      rw [not_or] at hp
      refine ⟨⟨hc.ids, hc.fresh, hc.dmas, ?_, ?_, hc.framebuffers, hc.planes⟩, rfl, rfl,
        AList.lookup_insert _⟩
      · intro b hb
        have hne : b.primeHandle ≠ pick := by
          intro heq
          have := hc.opened b hb
          rw [heq, AList.lookup_eq_none.mpr hp.2] at this
          exact absurd this (by simp)
        rw [AList.lookup_insert_ne hne]
        exact hc.opened b hb
      · intro k k' g g' hg hg' hd
        by_cases hk : k = pick <;> by_cases hk' : k' = pick
        · rw [hk, hk']
        · rw [hk, AList.lookup_insert, Option.some.injEq] at hg
          rw [AList.lookup_insert_ne hk'] at hg'
          exact absurd (hd.symm.trans (by rw [← hg])) (hno k' g' hg')
        · rw [hk', AList.lookup_insert, Option.some.injEq] at hg'
          rw [AList.lookup_insert_ne hk] at hg
          exact absurd (hd.trans (by rw [← hg'])) (hno k g hg)
        · rw [AList.lookup_insert_ne hk] at hg
          rw [AList.lookup_insert_ne hk'] at hg'
          exact hc.table k k' g g' hg hg' hd

/-- A cache hit names a live buffer made with the handle. -/
theorem cached_inv {c c' : Client} {type : BufferType} {handle id : ℕ} (hc : Inv c)
    (h : cached c type handle = some (id, c')) :
    Inv { c' with held := id :: c'.held } ∧ c'.live = c.live ∧
      ∃ b ∈ c.live, b.id = id ∧ b.primeHandle = handle := by
  cases type with
  | DRM_BUFFER_FB =>
    obtain ⟨⟨v, cache⟩, hget, hr⟩ := Option.map_eq_some_iff.mp h
    obtain ⟨rfl, rfl⟩ := Prod.mk.inj hr
    obtain ⟨hm, hsub⟩ := LruCache.get_some hget
    exact ⟨hc.drop rfl rfl rfl hsub fun _ he => he, rfl, hc.framebuffers _ hm⟩
  | DRM_BUFFER_PLANE =>
    simp only [cached] at h
    split at h
    · next cache hp =>
      obtain ⟨⟨v, cache'⟩, hget, hr⟩ := Option.map_eq_some_iff.mp h
      obtain ⟨rfl, rfl⟩ := Prod.mk.inj hr
      obtain ⟨hm, hsub⟩ := LruCache.get_some hget
      have hpl : planeElements c = cache.m_elements := by rw [planeElements, hp]
      refine ⟨hc.drop rfl rfl rfl (fun _ he => he) ?_, rfl, hc.planes (handle, v) (hpl ▸ hm)⟩
      intro e he
      rw [hpl]
      exact hsub e he
    · exact absurd h (by simp)
  | DRM_BUFFER_NONE => exact absurd h (by simp [cached])

/-- Adding the only buffer of a dma-buf keeps the invariant. -/
theorem add_inv {c : Client} {b : Buffer} (hc : Inv c) (hid : b.id = c.nextId)
    (hopen : c.gem.lookup b.primeHandle = some b.gem) (hnew : ∀ b' ∈ c.live, b'.gem.dma ≠ b.gem.dma) :
    Inv { c with live := b :: c.live, nextId := c.nextId + 1, held := b.id :: c.held } where
  ids x hx y hy h := by
    rcases List.mem_cons.mp hx with rfl | hx' <;> rcases List.mem_cons.mp hy with rfl | hy'
    · rfl
    · have := hc.fresh y hy'; omega
    · have := hc.fresh x hx'; omega
    · exact hc.ids x hx' y hy' h
  fresh x hx := by
    simp only
    rcases List.mem_cons.mp hx with rfl | hx
    · omega
    · have := hc.fresh x hx; omega
  dmas x hx y hy h := by
    rcases List.mem_cons.mp hx with rfl | hx' <;> rcases List.mem_cons.mp hy with rfl | hy'
    · rfl
    · exact absurd h.symm (hnew y hy')
    · exact absurd h (hnew x hx')
    · exact hc.dmas x hx' y hy' h
  opened x hx := by
    rcases List.mem_cons.mp hx with rfl | hx
    · exact hopen
    · exact hc.opened x hx
  table := hc.table
  framebuffers e he := by
    obtain ⟨x, hx, h⟩ := hc.framebuffers e he
    exact ⟨x, List.mem_cons_of_mem _ hx, h⟩
  planes e he := by
    obtain ⟨x, hx, h⟩ := hc.planes e he
    exact ⟨x, List.mem_cons_of_mem _ hx, h⟩

/-- Caching a live buffer under its handle keeps the invariant. -/
theorem store_inv {c : Client} {b : Buffer} (type : BufferType) (hc : Inv c) (hb : b ∈ c.live) :
    Inv (store c type b.primeHandle b.id) ∧ (store c type b.primeHandle b.id).live = c.live ∧
      (store c type b.primeHandle b.id).held = c.held := by
  have hset : ∀ (cache : LruCache ℕ ℕ), Indexed c.live cache.m_elements →
      Indexed c.live (cache.set b.primeHandle b.id).m_elements := by
    intro cache hcache e he
    rcases LruCache.mem_set he with rfl | he
    · exact ⟨b, hb, rfl, rfl⟩
    · exact hcache e he
  cases type with
  | DRM_BUFFER_FB =>
    exact ⟨⟨hc.ids, hc.fresh, hc.dmas, hc.opened, hc.table, hset _ hc.framebuffers, hc.planes⟩,
      rfl, rfl⟩
  | DRM_BUFFER_PLANE =>
    simp only [store]
    split
    · next cache hp =>
      have hpl : planeElements c = cache.m_elements := by rw [planeElements, hp]
      exact ⟨⟨hc.ids, hc.fresh, hc.dmas, hc.opened, hc.table, hc.framebuffers,
        hset _ (hpl ▸ hc.planes)⟩, rfl, rfl⟩
    · exact ⟨hc, rfl, rfl⟩
  | DRM_BUFFER_NONE => exact ⟨hc, rfl, rfl⟩

/-- A new buffer is the only one of its dma-buf, so a failed `AddFB` closes no handle in use. -/
theorem createNew_inv {c : Client} {i : CreateIn} {handle : ℕ} {gem : Gem} (hc : Inv c)
    (hopen : c.gem.lookup handle = some gem) (hnew : ∀ b ∈ c.live, b.gem.dma ≠ gem.dma) :
    Inv (createNew c i handle gem).client ∧
      ∀ id, (createNew c i handle gem).buffer = some id →
        ∃ b ∈ (createNew c i handle gem).client.live, b.id = id ∧ b.gem = gem := by
  simp only [createNew]
  split
  · refine ⟨⟨hc.ids, fun b hb => ?_, hc.dmas, fun b hb => ?_, ?_, hc.framebuffers, hc.planes⟩,
      fun id h => absurd h (by simp)⟩
    · exact Nat.lt_succ_of_lt (hc.fresh b hb)
    · rw [destroy_lookup]
      · exact hc.opened b hb
      · intro (heq : b.primeHandle = handle)
        have h := hc.opened b hb
        rw [heq, hopen, Option.some.injEq] at h
        exact hnew b hb (by rw [h])
    · exact fun h h' g g' hg hg' =>
        hc.table h h' g g' (destroy_lookup_some hg) (destroy_lookup_some hg')
  · let b := newBuffer c.nextId handle gem i.num_planes
    have hadd := add_inv (b := b) hc rfl hopen hnew
    obtain ⟨hst, hlive, hheld⟩ := store_inv i.type hadd (List.mem_cons_self (a := b))
    refine ⟨sweep_inv i.env hst, fun id h => ⟨b, List.mem_filter.mpr ⟨?_, ?_⟩, ?_, rfl⟩⟩
    · exact hlive ▸ List.mem_cons_self ..
    · rw [decide_eq_true_iff]
      exact List.mem_append_right _ (hheld ▸ List.mem_cons_self ..)
    · exact Option.some.inj h

theorem create_inv {c : Client} {i : CreateIn} (hc : Inv c) (hx : Exclusive c (.create i)) :
    Inv (c.create i).client ∧ SameDma c (.create i) (c.create i).client := by
  suffices h : Inv (c.create i).client ∧ ∀ id, (c.create i).buffer = some id →
      ∃ b ∈ (c.create i).client.live, b.id = id ∧ b.gem.dma = i.dma by
    refine ⟨h.1, fun id hid => ?_⟩
    obtain ⟨b, hb, hbid, hdma⟩ := h.2 id hid
    refine ⟨⟨b, hb, hbid⟩, fun b' hb' hb'id => ?_⟩
    rw [h.1.ids b' hb' b hb (hb'id.trans hbid.symm)]
    exact hdma
  rw [Exclusive] at hx
  rw [Client.create]
  split
  · exact ⟨hc, fun id h => absurd h (by simp)⟩
  · next hv =>
    split
    · exact ⟨hc, fun id h => absurd h (by simp)⟩
    · next hok =>
      split
      · exact ⟨hc, fun id h => absurd h (by simp)⟩
      · next imp himp =>
        obtain ⟨hinv, hlive, hdma, hopen⟩ := import_inv hc himp
        split
        · next id c' hhit =>
          obtain ⟨hinv', hlive', b, hb, hid, hk⟩ := cached_inv hinv hhit
          refine ⟨hinv', fun id' h => ⟨b, hlive' ▸ hb, ?_, ?_⟩⟩
          · exact hid.trans (Option.some.inj h)
          · have h₁ := hinv.opened b hb
            rw [hk, hopen, Option.some.injEq] at h₁
            rw [← h₁, hdma]
        · next hmiss =>
          have hnew : ∀ b ∈ imp.client.live, b.gem.dma ≠ imp.gem.dma := by
            rw [hlive, hdma]
            exact hx (by simp_all [misses])
          obtain ⟨hinv', hbuf⟩ := createNew_inv (i := i) hinv hopen hnew
          refine ⟨hinv', fun id h => ?_⟩
          obtain ⟨b, hb, hid, hg⟩ := hbuf id h
          exact ⟨b, hb, hid, by rw [hg, hdma]⟩

/-! ### One step, and all runs -/

theorem step_inv (c : Client) (a : Action) (hc : Inv c) (hx : Exclusive c a) :
    Inv (step c a) ∧ Sound c a (step c a) := by
  suffices h : Inv (step c a) ∧ SameDma c a (step c a) from ⟨h.1, h.2, h.1.handlesOpen⟩
  cases a with
  | create i => exact create_inv hc hx
  | release id env =>
    exact ⟨sweep_inv env (hc.drop rfl rfl rfl (fun _ he => he) fun _ he => he), trivial⟩
  | flushClean overlays now env =>
    refine ⟨?_, trivial⟩
    simp only [step, flushClean]
    split
    · exact hc
    · split
      · exact hc
      · split
        · exact hc.drop rfl rfl rfl (fun _ he => he) fun _ he => he
        · split
          · refine sweep_inv env (hc.drop rfl rfl rfl (fun _ he => he) ?_)
            exact fun e he => absurd he (List.not_mem_nil)
          · exact hc
  | partialCleanCacheBuffer overlayNum now env =>
    refine ⟨?_, trivial⟩
    simp only [step, Client.partialCleanCacheBuffer]
    split
    · exact hc
    · next cache hp =>
      split
      · exact hc
      · split
        · split
          · refine sweep_inv env (hc.drop rfl rfl rfl (fun _ he => he) ?_)
            intro e he
            rw [planeElements, hp]
            exact LruCache.mem_partialClearCache he
          · exact hc
        · exact hc.drop rfl rfl rfl (fun _ he => he) fun _ he => he

/-- The client after `init`: no handle open, no buffer made. -/
def fresh (framebuffers : LruCache ℕ ℕ) (planes : Option (LruCache ℕ ℕ)) : Client where
  gem := ∅
  serial := 0
  live := []
  nextId := 0
  mFramebufferCache := framebuffers.clear
  mPlaneBufferCache := planes.map LruCache.clear
  held := []
  mLastPlaneBufferPresentTime := 0
  mLastOverlayCount := 0
  mCheckOverlayTime := 0

theorem fresh_inv (framebuffers : LruCache ℕ ℕ) (planes : Option (LruCache ℕ ℕ)) :
    Inv (fresh framebuffers planes) where
  ids _ hb := absurd hb List.not_mem_nil
  fresh _ hb := absurd hb List.not_mem_nil
  dmas _ hb := absurd hb List.not_mem_nil
  opened _ hb := absurd hb List.not_mem_nil
  table _ _ _ _ hg := absurd hg (by simp [fresh])
  framebuffers _ he := absurd he List.not_mem_nil
  planes e he := by cases planes <;> exact absurd he List.not_mem_nil

/-- CORRECT: for caches of any size and every sequence of creates, releases and cleanups in which a
    `create` that finds nothing in its cache is for a dma-buf without a live buffer object, every
    buffer returned was made from the dma-buf asked for, and no live buffer ever refers to a closed
    handle. -/
theorem cache_sound_of_exclusive (framebuffers : LruCache ℕ ℕ) (planes : Option (LruCache ℕ ℕ))
    (as : List Action) (hx : Meets step Exclusive (fresh framebuffers planes) as) :
    Always step Sound (fresh framebuffers planes) as :=
  always_of_meets step_inv as _ (fresh_inv framebuffers planes) hx

/-- A frame buffer cache of three and a plane cache of 18, as for one display with one overlay. -/
def cacheOf (size : ℕ) (h : 0 < size) : LruCache ℕ ℕ := ⟨size, [], h, by simp, by simp⟩

/-- Every call on this one succeeds. -/
def okEnv : DestroyEnv := ⟨fun _ => true, fun _ => true⟩

def createOf (dma : ℕ) (type : BufferType) (pick : ℕ) : Action :=
  .create ⟨true, dma, type, 1, true, pick, true, okEnv⟩

/-- A client target that is shown twice, and an overlay that goes away. -/
theorem cache_sound_two_frames :
    Always step Sound (fresh (cacheOf 3 (by decide)) (some (cacheOf 18 (by decide))))
      [createOf 7 .DRM_BUFFER_FB 1, createOf 8 .DRM_BUFFER_PLANE 2, .release 0 okEnv,
        createOf 7 .DRM_BUFFER_FB 3, .release 1 okEnv, .flushClean 0 3000000000 okEnv] :=
  cache_sound_of_exclusive _ _ _ (by decide)

/-- The example above: the uncached buffer of dma-buf 7 closes handle 1 under the cached one, and
    the handle, given to dma-buf 8, finds the buffer of dma-buf 7. -/
theorem closed_under_cached :
    ¬ ∀ (framebuffers : LruCache ℕ ℕ) (planes : Option (LruCache ℕ ℕ)) (as : List Action),
      Always step Sound (fresh framebuffers planes) as := by
  intro h
  have hall := h (cacheOf 3 (by decide)) none [createOf 7 .DRM_BUFFER_FB 1,
    createOf 7 .DRM_BUFFER_NONE 2, .release 1 okEnv, createOf 8 .DRM_BUFFER_FB 1]
  have hhit := hall.2.2.2.1.1 0 (by decide)
  revert hhit
  decide

end ImxHal.Hwc3.BufferCache
