import ImxHal.Schemes.Run
import ImxHal.Schemes.Links
import ImxHal.Display.BufferSlot

/-! @src display/display/DisplayHal.cpp, display/display/Display.cpp (composeLayersLocked, BufferSlot) |
    name:hardware layers | scheme:run | family:producer-consumer

    A client of the display service gets a hardware layer with its own `BufferSlot`, and presents a
    buffer in one of its slots; each composition shows the next queued slot of every layer:

        presentLayer(slot, A) ──▶ mPresentSlot: slot    mBuffers[slot] = clone of A
        presentLayer(slot, B) ──▶ mPresentSlot: slot    mBuffers[slot] stays the clone of A
        composeLayersLocked   ──▶ draws mBuffers[slot]

    `addPresentSlot` clones a handle only into an empty place, and nothing empties the place before the
    layer is put back. -/

namespace ImxHal.SlotQueue
open ImxHal.Run ImxHal.Links

def MAX_LAYERS : ℕ := 64

/-- `addPresentSlot` when `native_handle_clone` may fail: a failed clone is the null handle. -/
def BufferSlot.addPresentSlotWith (q : BufferSlot) (slot : ℤ) (buffer : Option Memory)
    (cloned : Bool) : BufferSlot :=
  if cloned then q.addPresentSlot slot buffer
  else { q.addPresentSlot slot buffer with mBuffers := q.mBuffers }

def BufferSlot.getPresentBuffer (q : BufferSlot) (slot : ℤ) : Option Memory :=
  if slot < 0 ∨ slot ≥ MAX_COUNT then none else q.mBuffers slot

/-- The fields of a `Layer` that hardware layers use; `slotFlag` is the `BUFFER_SLOT` bit of `flags`. -/
structure HwLayer where
  slotFlag : Bool
  priv : Option BufferSlot
  busy : Bool
  handle : Option Memory

/-- The queue of a layer, where its flag and its pointer pass the checks. -/
def HwLayer.queue (l : HwLayer) : Option BufferSlot := if l.slotFlag then l.priv else none

/-- A layer that a composition draws: the slot it took from the queue and the handle it composes. -/
structure Drawn where
  layer : ℕ
  slot : ℤ
  buffer : Memory
  deriving DecidableEq

/-- The layers of `DisplayHal`, and which of them `Display::mHwLayers` points to. `drawn` is what the
    last call composed and `latest` the buffer of the last accepted present of a slot. -/
structure Hal where
  mLayers : ℕ → Option HwLayer
  mHwLayers : ℕ → Bool
  drawn : List Drawn
  latest : ℕ → ℤ → Option Memory

def Hal.new : Hal := ⟨fun _ => none, fun _ => false, [], fun _ _ => none⟩

def Hal.setLayer (s : Hal) (layer : ℕ) (l : HwLayer) : Hal :=
  { s with mLayers := Function.update s.mLayers layer (some l) }

/-- The queue of a layer that exists. -/
def Hal.queue (s : Hal) (layer : ℕ) : Option BufferSlot := (s.mLayers layer).bind HwLayer.queue

/-- The buffer a composition would read for a slot. -/
def Hal.buffer (s : Hal) (layer : ℕ) (slot : ℤ) : Option Memory :=
  (s.queue layer).bind fun q => q.getPresentBuffer slot

/-- `getLayer`: the first free index gets a new layer; with none free the call fails. -/
def Hal.getLayer (s : Hal) (count : ℕ) : Hal :=
  match (List.range MAX_LAYERS).find? fun i => (s.mLayers i).isNone with
  | none => s
  | some i =>
    { s.setLayer i ⟨true, some (BufferSlot.new count), false, none⟩ with
      latest := Function.update s.latest i fun _ => none }

def Hal.putLayer (s : Hal) (layer : ℕ) : Hal :=
  if layer ≥ MAX_LAYERS then s
  else { s with
    mHwLayers := Function.update s.mHwLayers layer false
    mLayers := Function.update s.mLayers layer none }

/-- `getSlot`; a caller that finds no free slot sleeps and takes nothing. -/
def Hal.getSlot (s : Hal) (layer : ℕ) : Hal :=
  if layer ≥ MAX_LAYERS then s
  else
    match s.mLayers layer with
    | none => s
    | some l =>
      match l.queue.bind BufferSlot.takeFront with
      | none => s
      | some (_, q) => s.setLayer layer { l with priv := some q }

/-- What a composition finds around the hardware layers: whether the display is plugged, whether
    surfaceflinger's layers are in use, and whether its vector holds one for the composer. -/
structure Frame where
  plugged : Bool
  busy : Bool
  layers : Bool

def Hal.directCompositionLocked (s : Hal) (f : Frame) : Bool :=
  !f.busy && (List.range MAX_LAYERS).any s.mHwLayers

/-- The body of the hardware layer loop for a layer with a queue. -/
def Hal.composeQueue (s : Hal) (i : ℕ) (l : HwLayer) (q : BufferSlot) : Hal :=
  let (slot, q) := q.getPresentSlot
  let s := s.setLayer i { l with priv := some q }
  if slot < 0 then s
  else
    let handle := q.getPresentBuffer slot
    let s := s.setLayer i { l with priv := some q, handle := handle }
    match handle with
    | none => s
    | some buffer => { s with drawn := s.drawn ++ [⟨i, slot, buffer⟩] }

def Hal.composeHwLayer (s : Hal) (i : ℕ) : Hal :=
  if s.mHwLayers i = false then s
  else
    match s.mLayers i with
    | none => s
    | some l =>
      match l.queue with
      | none => s
      | some q => s.composeQueue i l q

def Hal.composeLayersLocked (s : Hal) (f : Frame) : Hal :=
  if !f.plugged then s
  else if !f.layers && !s.directCompositionLocked f then s
  else (List.range MAX_LAYERS).foldl Hal.composeHwLayer s

/-- The first present of a layer adds it to the display; then the slot is queued. -/
def Hal.queued (s : Hal) (layer : ℕ) (l : HwLayer) (q : BufferSlot) (slot : ℤ)
    (buffer : Option Memory) (cloned : Bool) : Hal :=
  { s.setLayer layer
      { l with busy := true, priv := some (q.addPresentSlotWith slot buffer cloned) } with
    mHwLayers := if l.busy then s.mHwLayers else Function.update s.mHwLayers layer true
    latest := if accepts slot buffer
      then Function.update s.latest layer (Function.update (s.latest layer) slot buffer)
      else s.latest }

/-- `presentLayer` after its checks. The first present of a layer reads the size of the handle, which
    kills the service when the handle is null (`none`). -/
def Hal.presentQueue (s : Hal) (layer : ℕ) (l : HwLayer) (q : BufferSlot) (slot : ℤ)
    (buffer : Option Memory) (cloned : Bool) (f : Frame) : Option Hal :=
  if !l.busy && buffer.isNone then none
  else
    let s := s.queued layer l q slot buffer cloned
    if s.directCompositionLocked f then some (s.composeLayersLocked f) else some s

/-- `presentLayer`; `active` says whether the main display has an active config. -/
def Hal.presentLayer (s : Hal) (layer : ℕ) (slot : ℤ) (buffer : Option Memory) (active cloned : Bool)
    (f : Frame) : Option Hal :=
  if layer ≥ MAX_LAYERS then some s
  else
    match s.mLayers layer with
    | none => some s
    | some l =>
      match l.queue with
      | none => some s
      | some q => if !active then some s else s.presentQueue layer l q slot buffer cloned f

/-! ### Runs -/

inductive Call where
  | getLayer (count : ℕ)
  | putLayer (layer : ℕ)
  | getSlot (layer : ℕ)
  | presentLayer (layer : ℕ) (slot : ℤ) (buffer : Option Memory) (active cloned : Bool) (f : Frame)
  | getPresentSlot (layer : ℕ)
  | composeLayers (f : Frame)

/-- `getPresentSlot` alone, as the first critical section of the loop body. -/
def Hal.getPresentSlot (s : Hal) (layer : ℕ) : Hal :=
  match s.mLayers layer with
  | none => s
  | some l =>
    match l.queue with
    | none => s
    | some q => s.setLayer layer { l with priv := some q.getPresentSlot.2 }

/-- One call. A service that dies starts again without layers. -/
def call (s : Hal) : Call → Hal
  | .getLayer count => { s with drawn := [] }.getLayer count
  | .putLayer layer => { s with drawn := [] }.putLayer layer
  | .getSlot layer => { s with drawn := [] }.getSlot layer
  | .presentLayer layer slot buffer active cloned f =>
    ({ s with drawn := [] }.presentLayer layer slot buffer active cloned f).getD Hal.new
  | .getPresentSlot layer => { s with drawn := [] }.getPresentSlot layer
  | .composeLayers f => { s with drawn := [] }.composeLayersLocked f

/-- What the call composed, and what a composition would read next, is the buffer presented last. -/
def ShowsLatest (_ : Hal) (_ : Call) (t : Hal) : Prop :=
  (∀ d ∈ t.drawn, t.latest d.layer d.slot = some d.buffer) ∧
    ∀ layer slot b, t.buffer layer slot = some b → t.latest layer slot = some b

/-- A present reaches the queue. -/
def Hal.reaches (s : Hal) (layer : ℕ) (slot : ℤ) (buffer : Option Memory) (active : Bool) : Prop :=
  layer < MAX_LAYERS ∧ (s.queue layer).isSome ∧ active = true ∧ accepts slot buffer = true

/-- A slot is presented with the buffer it was first presented with. -/
def KeepsBuffer (s : Hal) : Call → Prop
  | .presentLayer layer slot buffer active _ _ =>
    s.reaches layer slot buffer active → ∀ b, s.buffer layer slot = some b → buffer = some b
  | _ => True

/-! ### Buffers of a layer -/

/-- Every stored buffer is the one presented last in its slot. -/
def Stored (s : Hal) : Prop := ∀ layer slot b, s.buffer layer slot = some b → s.latest layer slot = some b

theorem queue_of_layer {s : Hal} {i : ℕ} {l : HwLayer} {q : BufferSlot} (hl : s.mLayers i = some l)
    (hq : l.queue = some q) : s.queue i = some q := by
  simp [Hal.queue, hl, hq]

/-- A layer with a queue keeps its flag when the queue is replaced. -/
theorem HwLayer.queue_set {l : HwLayer} {q : BufferSlot} (hq : l.queue = some q) (q' : BufferSlot)
    (busy : Bool) (handle : Option Memory) :
    HwLayer.queue ⟨l.slotFlag, some q', busy, handle⟩ = some q' := by
  cases hf : l.slotFlag with
  | false => simp [HwLayer.queue, hf] at hq
  | true => simp [HwLayer.queue]

@[simp] theorem setLayer_setLayer (s : Hal) (i : ℕ) (l l' : HwLayer) :
    (s.setLayer i l).setLayer i l' = s.setLayer i l' := by
  simp [Hal.setLayer]

/-- The buffers after a layer got another queue. -/
theorem buffer_setLayer (s : Hal) {i : ℕ} {l : HwLayer} {q : BufferSlot} (hq : l.queue = some q)
    (layer : ℕ) (slot : ℤ) : (s.setLayer i l).buffer layer slot
      = if layer = i then q.getPresentBuffer slot else s.buffer layer slot := by
  by_cases h : layer = i
  · subst h
    simp [Hal.buffer, Hal.queue, Hal.setLayer, hq]
  · simp [Hal.buffer, Hal.queue, Hal.setLayer, h]

/-- Replacing a queue by one with the same buffers changes no buffer. -/
theorem buffer_setLayer_same {s : Hal} {i : ℕ} {l l' : HwLayer} {q q' : BufferSlot}
    (hl : s.mLayers i = some l) (hq : l.queue = some q) (hq' : l'.queue = some q')
    (hb : q'.mBuffers = q.mBuffers) : (s.setLayer i l').buffer = s.buffer := by
  funext layer slot
  rw [buffer_setLayer s hq']
  split
  · next h =>
    subst h
    simp [Hal.buffer, queue_of_layer hl hq, BufferSlot.getPresentBuffer, hb]
  · rfl

theorem getPresentSlot_buffers (q : BufferSlot) : q.getPresentSlot.2.mBuffers = q.mBuffers := by
  unfold BufferSlot.getPresentSlot
  split <;> rfl

theorem takeFront_buffers {q q' : BufferSlot} {slot : ℤ} (h : q.takeFront = some (slot, q')) :
    q'.mBuffers = q.mBuffers := by
  unfold BufferSlot.takeFront at h
  split at h
  · cases h
  · cases h
    rfl

/-- A present stores its buffer in an empty place, and nowhere else. -/
theorem addPresentSlotWith_cases {q : BufferSlot} {slot slot' : ℤ} {buffer : Option Memory}
    {cloned : Bool} {b : Memory}
    (h : (q.addPresentSlotWith slot buffer cloned).getPresentBuffer slot' = some b) :
    q.getPresentBuffer slot' = some b ∨
      (slot' = slot ∧ accepts slot buffer = true ∧ buffer = some b ∧ q.getPresentBuffer slot = none) := by
  by_cases hr : slot' < 0 ∨ slot' ≥ MAX_COUNT
  · simp [BufferSlot.getPresentBuffer, hr] at h
  cases hacc : accepts slot buffer with
  | false =>
    left
    simpa [BufferSlot.getPresentBuffer, BufferSlot.addPresentSlotWith, BufferSlot.addPresentSlot, hacc]
      using h
  | true =>
    cases cloned with
    | false => exact Or.inl (by
        simpa [BufferSlot.getPresentBuffer, BufferSlot.addPresentSlotWith] using h)
    | true =>
      by_cases hempty : q.mBuffers slot = none
      · simp only [BufferSlot.getPresentBuffer, hr, if_false, BufferSlot.addPresentSlotWith, if_true,
          BufferSlot.addPresentSlot, hacc, hempty] at h ⊢
        rcases update_some_cases h with ⟨rfl, hb⟩ | ⟨-, hold⟩
        · exact Or.inr ⟨rfl, trivial, hb, by simp⟩
        · exact Or.inl hold
      · left
        simpa [BufferSlot.getPresentBuffer, BufferSlot.addPresentSlotWith, BufferSlot.addPresentSlot,
          hacc, hempty] using h

/-! ### Compositions read, they do not store -/

/-- `t` is `s` after some compositions: the same buffers, and everything drawn since is stored. -/
def Composed (s t : Hal) : Prop :=
  t.buffer = s.buffer ∧ t.latest = s.latest ∧
    ∀ d ∈ t.drawn, d ∈ s.drawn ∨ s.buffer d.layer d.slot = some d.buffer

theorem Composed.refl (s : Hal) : Composed s s := ⟨rfl, rfl, fun _ hd => Or.inl hd⟩

/-- Compositions after compositions. -/
theorem Composed.trans {s t u : Hal} (h : Composed s t) (h' : Composed t u) : Composed s u := by
  obtain ⟨hbuf, hlat, hdrawn⟩ := h
  obtain ⟨hbuf', hlat', hdrawn'⟩ := h'
  refine ⟨hbuf'.trans hbuf, hlat'.trans hlat, fun d hd => ?_⟩
  rcases hdrawn' d hd with hd | hd
  · exact hdrawn d hd
  · exact Or.inr (hbuf ▸ hd)

theorem composeQueue_composed {s : Hal} {i : ℕ} {l : HwLayer} {q : BufferSlot}
    (hl : s.mLayers i = some l) (hq : l.queue = some q) : Composed s (s.composeQueue i l q) := by
  have hsame : ∀ handle, (s.setLayer i { l with priv := some q.getPresentSlot.2, handle := handle }).buffer
      = s.buffer := fun handle =>
    buffer_setLayer_same hl hq (HwLayer.queue_set hq _ _ _) (getPresentSlot_buffers q)
  have hread : ∀ slot, q.getPresentSlot.2.getPresentBuffer slot = s.buffer i slot := by
    intro slot
    simp [Hal.buffer, queue_of_layer hl hq, BufferSlot.getPresentBuffer, getPresentSlot_buffers]
  simp only [Hal.composeQueue, setLayer_setLayer]
  split
  · exact ⟨hsame l.handle, rfl, fun d hd => Or.inl hd⟩
  · split
    · exact ⟨hsame _, rfl, fun d hd => Or.inl hd⟩
    · next hb =>
      refine ⟨hsame _, rfl, fun d hd => ?_⟩
      rcases List.mem_append.mp hd with hd | hd
      · exact Or.inl hd
      · obtain rfl := List.mem_singleton.mp hd
        exact Or.inr ((hread _).symm.trans hb)

theorem composeHwLayer_composed (s : Hal) (i : ℕ) : Composed s (s.composeHwLayer i) := by
  unfold Hal.composeHwLayer
  split
  · exact Composed.refl s
  · split
    · exact Composed.refl s
    · next l hl =>
      split
      · exact Composed.refl s
      · next q hq => exact composeQueue_composed hl hq

/-- The loop over all hardware layers, by the invariant rule on its steps. -/
theorem composeLayersLocked_composed (s : Hal) (f : Frame) :
    Composed s (s.composeLayersLocked f) := by
  unfold Hal.composeLayersLocked
  split
  · exact Composed.refl s
  · split
    · exact Composed.refl s
    · exact run_inv (Composed s) (C := fun _ => True)
        (fun t i ht _ => ht.trans (composeHwLayer_composed t i)) _ s (Composed.refl s)
        fun _ _ => trivial

/-- What compositions after a good state draw is the latest. -/
theorem Composed.shows {s t s' : Hal} {a : Call} (h : Composed s t) (hs : Stored s)
    (hd : s.drawn = []) : Stored t ∧ ShowsLatest s' a t := by
  obtain ⟨hbuf, hlat, hdrawn⟩ := h
  have ht : Stored t := fun layer slot b hb => hlat ▸ hs layer slot b (hbuf ▸ hb)
  refine ⟨ht, fun d hmem => ?_, ht⟩
  rcases hdrawn d hmem with hd' | hd'
  · rw [hd] at hd'
    cases hd'
  · exact hlat ▸ hs _ _ _ hd'

/-! ### One call -/

theorem setLayer_composed {s : Hal} {i : ℕ} {l : HwLayer} {q q' : BufferSlot}
    (hl : s.mLayers i = some l) (hq : l.queue = some q) (hb : q'.mBuffers = q.mBuffers) :
    Composed s (s.setLayer i { l with priv := some q' }) :=
  ⟨buffer_setLayer_same hl hq (HwLayer.queue_set hq _ _ _) hb, rfl, fun _ hd => Or.inl hd⟩

theorem getSlot_composed (s : Hal) (layer : ℕ) : Composed s (s.getSlot layer) := by
  unfold Hal.getSlot
  split
  · exact Composed.refl s
  · split
    · exact Composed.refl s
    · next l hl =>
      split
      · exact Composed.refl s
      · next slot q' htake =>
        obtain ⟨q, hq, hfront⟩ := Option.bind_eq_some_iff.mp htake
        exact setLayer_composed hl hq (takeFront_buffers hfront)

theorem getPresentSlot_composed (s : Hal) (layer : ℕ) : Composed s (s.getPresentSlot layer) := by
  unfold Hal.getPresentSlot
  split
  · exact Composed.refl s
  · next l hl =>
    split
    · exact Composed.refl s
    · next q hq => exact setLayer_composed hl hq (getPresentSlot_buffers q)

/-- A new layer starts with empty places. -/
theorem getLayer_stored {s : Hal} (count : ℕ) (hs : Stored s) : Stored (s.getLayer count) := by
  unfold Hal.getLayer
  split
  · exact hs
  · next i _ =>
    intro layer slot b hb
    change (s.setLayer i _).buffer layer slot = some b at hb
    rw [buffer_setLayer s (q := BufferSlot.new count) rfl] at hb
    by_cases h : layer = i
    · simp [h, BufferSlot.getPresentBuffer, BufferSlot.new] at hb
    · rw [if_neg h] at hb
      simpa [Hal.setLayer, h] using hs layer slot b hb

theorem putLayer_stored {s : Hal} (layer : ℕ) (hs : Stored s) : Stored (s.putLayer layer) := by
  unfold Hal.putLayer
  split
  · exact hs
  · intro layer' slot b hb
    by_cases h : layer' = layer
    · simp [Hal.buffer, Hal.queue, h] at hb
    · exact hs layer' slot b (by simpa [Hal.buffer, Hal.queue, h] using hb)

/-- What `presentLayer` can do: nothing, end the service, or queue the slot and compose. -/
inductive Presented (s : Hal) (layer : ℕ) (slot : ℤ) (buffer : Option Memory) (active : Bool) :
    Option Hal → Prop
  | refused (h : ¬ s.reaches layer slot buffer active) : Presented s layer slot buffer active (some s)
  | killed (h : accepts slot buffer = false) : Presented s layer slot buffer active none
  | queued (l : HwLayer) (q : BufferSlot) (cloned : Bool) (t : Hal) (hlt : layer < MAX_LAYERS)
      (hact : active = true) (hl : s.mLayers layer = some l) (hq : l.queue = some q)
      (ht : Composed (s.queued layer l q slot buffer cloned) t) :
      Presented s layer slot buffer active (some t)

theorem presentQueue_presented {s : Hal} {layer : ℕ} {l : HwLayer} {q : BufferSlot} (slot : ℤ)
    (buffer : Option Memory) (cloned : Bool) (f : Frame) (hlt : layer < MAX_LAYERS)
    (hl : s.mLayers layer = some l) (hq : l.queue = some q) :
    Presented s layer slot buffer true (s.presentQueue layer l q slot buffer cloned f) := by
  unfold Hal.presentQueue
  split
  · next hnull =>
    have hnone : buffer.isNone = true := by simp_all
    exact .killed (by simp [accepts, hnone])
  · simp only
    split
    · exact .queued l q cloned _ hlt rfl hl hq (composeLayersLocked_composed _ _)
    · exact .queued l q cloned _ hlt rfl hl hq (Composed.refl _)

theorem presentLayer_presented (s : Hal) (layer : ℕ) (slot : ℤ) (buffer : Option Memory)
    (active cloned : Bool) (f : Frame) :
    Presented s layer slot buffer active (s.presentLayer layer slot buffer active cloned f) := by
  unfold Hal.presentLayer
  split
  · next h => exact .refused fun hr => absurd hr.1 (not_lt.mpr h)
  · next hlt =>
    split
    · next hl => exact .refused fun hr => by simp [Hal.reaches, Hal.queue, hl] at hr
    · next l hl =>
      split
      · next hq => exact .refused fun hr => by simp [Hal.reaches, Hal.queue, hl, hq] at hr
      · next q hq =>
        cases active with
        | false => exact .refused fun hr => by simp [Hal.reaches] at hr
        | true => exact presentQueue_presented slot buffer cloned f (not_le.mp hlt) hl hq

/-! ### Presents -/

/-- The buffers after a slot was queued. -/
theorem buffer_queued {s : Hal} {layer : ℕ} {l : HwLayer} {q : BufferSlot} (slot : ℤ)
    (buffer : Option Memory) (cloned : Bool) (hq : l.queue = some q) (layer' : ℕ) (slot' : ℤ) :
    (s.queued layer l q slot buffer cloned).buffer layer' slot'
      = if layer' = layer then (q.addPresentSlotWith slot buffer cloned).getPresentBuffer slot'
        else s.buffer layer' slot' :=
  buffer_setLayer s (HwLayer.queue_set hq _ _ _) layer' slot'

theorem latest_queued (s : Hal) (layer : ℕ) (l : HwLayer) (q : BufferSlot) (slot : ℤ)
    (buffer : Option Memory) (cloned : Bool) (layer' : ℕ) (slot' : ℤ) :
    (s.queued layer l q slot buffer cloned).latest layer' slot'
      = if layer' = layer ∧ slot' = slot ∧ accepts slot buffer = true then buffer
        else s.latest layer' slot' := by
  by_cases hacc : accepts slot buffer = true
  · by_cases hl : layer' = layer
    · subst hl
      by_cases hslot : slot' = slot <;> simp [Hal.queued, hacc, hslot]
    · simp [Hal.queued, hacc, hl]
  · simp [Hal.queued, hacc, Hal.setLayer]

/-- A slot queued with the buffer it holds keeps every place up to date. -/
theorem queued_stored {s : Hal} {layer : ℕ} {l : HwLayer} {q : BufferSlot} {slot : ℤ}
    {buffer : Option Memory} (cloned : Bool) (hl : s.mLayers layer = some l) (hq : l.queue = some q)
    (hs : Stored s)
    (hk : accepts slot buffer = true → ∀ b, s.buffer layer slot = some b → buffer = some b) :
    Stored (s.queued layer l q slot buffer cloned) := by
  have hread : ∀ slot', q.getPresentBuffer slot' = s.buffer layer slot' := by
    intro slot'
    simp [Hal.buffer, queue_of_layer hl hq]
  intro layer' slot' b hb
  rw [buffer_queued slot buffer cloned hq] at hb
  rw [latest_queued]
  by_cases h : layer' = layer
  · subst h
    rw [if_pos rfl] at hb
    rcases addPresentSlotWith_cases hb with hold | ⟨rfl, hacc, hbuf, -⟩
    · rw [hread] at hold
      split
      · next hc => exact hk hc.2.2 b (hc.2.1 ▸ hold)
      · exact hs layer' slot' b hold
    · rw [if_pos ⟨rfl, rfl, hacc⟩, hbuf]
  · rw [if_neg h] at hb
    rw [if_neg fun hc => h hc.1]
    exact hs layer' slot' b hb

/-- A slot queued with another buffer than it holds is out of date. -/
theorem keeps_of_queued {s : Hal} {layer : ℕ} {l : HwLayer} {q : BufferSlot} {slot : ℤ}
    {buffer : Option Memory} {cloned : Bool} (hl : s.mLayers layer = some l) (hq : l.queue = some q)
    (hacc : accepts slot buffer = true) (ht : Stored (s.queued layer l q slot buffer cloned)) (b : Memory)
    (hb : s.buffer layer slot = some b) : buffer = some b := by
  have hread : q.getPresentBuffer slot = some b := by
    simpa [Hal.buffer, queue_of_layer hl hq] using hb
  have hkept : (q.addPresentSlotWith slot buffer cloned).getPresentBuffer slot = some b := by
    by_cases hr : slot < 0 ∨ slot ≥ MAX_COUNT
    · simp [BufferSlot.getPresentBuffer, hr] at hread
    · have hfull : q.mBuffers slot = some b := by simpa [BufferSlot.getPresentBuffer, hr] using hread
      cases cloned <;> simp [BufferSlot.getPresentBuffer, hr, BufferSlot.addPresentSlotWith,
        BufferSlot.addPresentSlot, hacc, hfull]
  have hlatest := ht layer slot b ((buffer_queued slot buffer cloned hq layer slot).trans
    ((if_pos rfl).trans hkept))
  rw [latest_queued, if_pos ⟨rfl, rfl, hacc⟩] at hlatest
  exact hlatest

/-- A present that keeps the buffer of its slot shows the latest. -/
theorem Presented.shows {s s' : Hal} {a : Call} {layer : ℕ} {slot : ℤ} {buffer : Option Memory}
    {active : Bool} {t : Option Hal} (h : Presented s layer slot buffer active t) (hs : Stored s)
    (hd : s.drawn = [])
    (hk : s.reaches layer slot buffer active → ∀ b, s.buffer layer slot = some b → buffer = some b) :
    Stored (t.getD Hal.new) ∧ ShowsLatest s' a (t.getD Hal.new) := by
  rcases h with hno | hno | ⟨l, q, cloned, t, hlt, hact, hl, hq, ht⟩
  · exact (Composed.refl s).shows hs hd
  · exact (Composed.refl Hal.new).shows (fun layer slot b hb => by cases hb) rfl
  · refine ht.shows (queued_stored cloned hl hq hs fun hacc => hk ⟨hlt, ?_, hact, hacc⟩) hd
    simp [queue_of_layer hl hq]

theorem Presented.keeps {s : Hal} {layer : ℕ} {slot : ℤ} {buffer : Option Memory} {active : Bool}
    {t : Option Hal} (h : Presented s layer slot buffer active t) (ht : Stored (t.getD Hal.new))
    (hr : s.reaches layer slot buffer active) (b : Memory) (hb : s.buffer layer slot = some b) :
    buffer = some b := by
  rcases h with hno | hno | ⟨l, q, cloned, t, hlt, hact, hl, hq, hcomp⟩
  · exact absurd hr hno
  · exact absurd (hno.symm.trans hr.2.2.2) (by decide)
  · have hq' : Stored (s.queued layer l q slot buffer cloned) := by
      intro layer' slot' b' hb'
      rw [← hcomp.2.1]
      exact ht layer' slot' b' (hcomp.1 ▸ hb')
    exact keeps_of_queued hl hq hr.2.2.2 hq' b hb

/-! ### Runs show what was presented -/

theorem call_shows (s : Hal) (a : Call) (hs : Stored s) (hk : KeepsBuffer s a) :
    Stored (call s a) ∧ ShowsLatest s a (call s a) := by
  have hs' : Stored { s with drawn := [] } := hs
  cases a with
  | getLayer count =>
    have ht := getLayer_stored count hs'
    refine ⟨ht, fun d hd => ?_, ht⟩
    simp only [call, Hal.getLayer] at hd
    split at hd <;> cases hd
  | putLayer layer =>
    have ht := putLayer_stored layer hs'
    refine ⟨ht, fun d hd => ?_, ht⟩
    simp only [call, Hal.putLayer] at hd
    split at hd <;> cases hd
  | getSlot layer => exact (getSlot_composed _ layer).shows hs' rfl
  | presentLayer layer slot buffer active cloned f =>
    exact (presentLayer_presented _ layer slot buffer active cloned f).shows hs' rfl hk
  | getPresentSlot layer => exact (getPresentSlot_composed _ layer).shows hs' rfl
  | composeLayers f => exact (composeLayersLocked_composed _ f).shows hs' rfl

theorem keeps_of_shows (s : Hal) (a : Call) (ht : ShowsLatest s a (call s a)) : KeepsBuffer s a := by
  cases a with
  | presentLayer layer slot buffer active cloned f =>
    exact (presentLayer_presented { s with drawn := [] } layer slot buffer active cloned f).keeps ht.2
  | _ => trivial

/-- CORRECT: over every sequence of calls, every buffer that is composed for a slot, and every buffer
    that a composition would read next, is the one given in the latest present of that slot, exactly
    if no present that reaches the queue gives a slot another buffer than the one it holds. -/
theorem shows_latest_iff (as : List Call) :
    Always call ShowsLatest Hal.new as ↔ Meets call KeepsBuffer Hal.new as := by
  refine always_iff_meets (fun s a (hs : Stored s) hk => call_shows s a hs hk)
    (fun s a _ ht => keeps_of_shows s a ht) as _ ?_
  intro layer slot b hb
  cases hb

/-- A client with two slots presents buffers 1 and 2, gets the first slot back and presents buffer 3
    in it: the composition shows buffer 1 again. -/
theorem reused_slot_shows_old :
    let f : Frame := ⟨true, true, true⟩
    let s := run call Hal.new [.getLayer 2, .getSlot 0, .presentLayer 0 0 (some 1) true true f,
      .composeLayers f, .getSlot 0, .presentLayer 0 1 (some 2) true true f, .composeLayers f,
      .getSlot 0, .presentLayer 0 0 (some 3) true true f, .composeLayers f]
    s.drawn = [⟨0, 0, 1⟩] ∧ s.latest 0 0 = some 3 := by
  decide +kernel

end ImxHal.SlotQueue
