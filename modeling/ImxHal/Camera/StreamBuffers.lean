import ImxHal.Camera.VideoStream

/-! @src camera/camera/DMAStream.cpp (allocateBuffersLocked, freeBuffersLocked),
    camera/camera/MMAPStream.cpp (onDeviceStartLocked, onDeviceStopLocked),
    camera/camera/VideoStream.cpp (ConfigAndStart) |
    name:Capture buffers | scheme:early return, run | family:state machines

    The buffers come at the start of a mapped stream and go at its stop; those of an allocated stream are
    registered before the start and freed after the stop. A started stream has a buffer for every index the
    driver was given, an idle one has none:

        idle ──allocate──▶ registered ──start──▶ loaded
          ◀──────free──────   parked  ◀──stop───── -/

namespace ImxHal.CameraStream
open ImxHal.EarlyReturn

/-- Buffer `i` is there, its memory is held, it belongs to the stream, and it was made for the configured
    format and size. -/
def Fits (s : VideoStream) (i : ℕ) : Prop :=
  ∃ b, s.mBuffers i = some b ∧ b.serial ∈ s.live ∧ b.mStream = s.id ∧
    (b.mFormat = s.mFormat ∨ b.mFormat = physFormat s.mFormat) ∧ b.mWidth = s.mWidth ∧
    b.mHeight = s.mHeight ∧ getSizeByForamtRes s.mFormat s.mWidth s.mHeight false ≤ b.mSize

/-- Every index the driver may return leads to a fitting buffer. -/
def BuffersFit (s : VideoStream) : Prop := s.mbStart = true → ∀ i < s.driver.count, Fits s i

/-- Buffers are to be allocated, and the allocator refuses one. -/
def AllocationFails (a : Answers) (s : VideoStream) : Prop :=
  s.kind.mapped = false ∧ s.mRegistered = false ∧ ∃ i < s.mNumBuffers, a.alloc i = none

/-- The call gets as far as the buffers, and then allocation or start fails. -/
def AttemptFails (c : Session) (r : Request) (a : Answers) (v : VideoStream) : Prop :=
  sameConfig c v r = false ∧ ∃ v₁, prepareAndConfigure c (requestFormat v r) r a v = some (v₁, 0) ∧
    (AllocationFails a v₁ ∨
      ∃ v₂, allocateBuffersLocked a v₁ = some (v₂, 0) ∧ ∀ v₃, onDeviceStartLocked a v₂ ≠ some (v₃, 0))

/-- The buffers fit the stream, and a failed attempt is reported and leaves no memory of its own. -/
def BuffersKept (c : Session) (s : Option VideoStream) (e : Call) (s' : Option VideoStream) : Prop :=
  (∀ v', s' = some v' → BuffersFit v') ∧
    ∀ v r a, s = some v → e = .ConfigAndStart r a → AttemptFails c r a v →
      ∃ v' ret, exec c e v = some (v', ret) ∧ ret ≠ 0 ∧ ∀ n ∈ v'.live, n < v.next

/-- Memory that is mapped or allocated holds an image of the configured format and size. -/
def Suffices (e : Call) : Prop :=
  ∀ r a, e = .ConfigAndStart r a → ∀ i size, a.querybuf i = some size ∨ a.alloc i = some size →
    0 < size ∧ getSizeByForamtRes r.format r.width r.height false ≤ size

/-- No more buffers than the array has room for. -/
def NumberFits (e : Call) : Prop := ∀ num, e = .SetBufferNumber num → num ≤ MAX_STREAM_BUFFERS

/-- A started stream of mapped buffers stops when it is told to; a stream of allocated buffers gets its
    buffers and starts when it is told to. -/
def Cooperative (c : Session) (s : Option VideoStream) (e : Call) : Prop :=
  ∀ v, s = some v → match e with
    | .ConfigAndStart r a => sameConfig c v r = false →
        (v.kind.mapped = true → v.mbStart = true → a.streamoff = true ∧ a.reqbufs0 = true) ∧
        (v.kind.mapped = false → a.reqbufs = true ∧ a.streamon = true ∧
          ∀ i < v.mNumBuffers, a.alloc i ≠ none ∧ a.qbuf i = true)
    | .SetBufferNumber _ => True
    | .Stop a => v.kind.mapped = true → v.mbStart = true → a.streamoff = true ∧ a.reqbufs0 = true

/-! ### The buffer array -/

/-- Every buffer meets `ok`, and all memory held is in the array. -/
structure Held (ok : ℕ → ImxStreamBuffer → Prop) (s : VideoStream) : Prop where
  ok : ∀ i b, s.mBuffers i = some b → ok i b
  live : ∀ n ∈ s.live, ∃ i b, s.mBuffers i = some b ∧ b.serial = n

/-- The first `m` entries fit, the others are null. -/
structure Filled (ok : ℕ → ImxStreamBuffer → Prop) (m : ℕ) (s : VideoStream) : Prop where
  held : Held ok s
  null : ∀ i, m ≤ i → s.mBuffers i = none
  fits : ∀ i < m, Fits s i

def Empty (s : VideoStream) : Prop := (∀ i, s.mBuffers i = none) ∧ s.live = []

/-- What `releaseMapped` frees. -/
def okMapped (i : ℕ) (b : ImxStreamBuffer) : Prop :=
  i < MAX_STREAM_BUFFERS ∧ b.mVirtAddr ≠ .NULL ∧ 0 < b.mSize

theorem putBuffer_self (s : VideoStream) (i : ℕ) (b : ImxStreamBuffer) :
    (putBuffer s i b).mBuffers i = some b := by simp [putBuffer]

theorem putBuffer_of_ne {s : VideoStream} {i j : ℕ} {b : ImxStreamBuffer} (h : j ≠ i) :
    (putBuffer s i b).mBuffers j = s.mBuffers j := by simp [putBuffer, h]

theorem Held.put {ok : ℕ → ImxStreamBuffer → Prop} {s : VideoStream} {i : ℕ} {b : ImxStreamBuffer}
    (h : Held ok s) (hnull : s.mBuffers i = none) (hb : ok i b) : Held ok (putBuffer s i b) := by
  refine ⟨fun j b' hj => ?_, fun n hn => ?_⟩
  · rcases eq_or_ne j i with rfl | hne
    · rw [putBuffer_self] at hj
      rwa [← Option.some.inj hj]
    · rw [putBuffer_of_ne hne] at hj
      exact h.ok j b' hj
  · rcases List.mem_cons.mp hn with rfl | hn
    · exact ⟨i, b, putBuffer_self s i b, rfl⟩
    · obtain ⟨j, b', hj, hserial⟩ := h.live n hn
      have hne : j ≠ i := by rintro rfl; rw [hnull] at hj; cases hj
      exact ⟨j, b', (putBuffer_of_ne hne).trans hj, hserial⟩

theorem Filled.put {ok : ℕ → ImxStreamBuffer → Prop} {s : VideoStream} {m : ℕ} {b : ImxStreamBuffer}
    (h : Filled ok m s) (hb : ok m b) (hstream : b.mStream = s.id)
    (hformat : b.mFormat = s.mFormat ∨ b.mFormat = physFormat s.mFormat) (hwidth : b.mWidth = s.mWidth)
    (hheight : b.mHeight = s.mHeight)
    (hsize : getSizeByForamtRes s.mFormat s.mWidth s.mHeight false ≤ b.mSize) :
    Filled ok (m + 1) (putBuffer s m b) := by
  refine ⟨h.held.put (h.null m le_rfl) hb, fun i hi => ?_, fun i hi => ?_⟩
  · exact (putBuffer_of_ne (by omega)).trans (h.null i (by omega))
  · rcases Nat.lt_succ_iff_lt_or_eq.mp hi with hlt | rfl
    · obtain ⟨b', hget, hlive, hrest⟩ := h.fits i hlt
      exact ⟨b', (putBuffer_of_ne (by omega)).trans hget, List.mem_cons_of_mem _ hlive, hrest⟩
    · exact ⟨b, putBuffer_self s i b, List.mem_cons_self, hstream, hformat, hwidth, hheight, hsize⟩

/-- One release: the entry and its memory go together. -/
theorem Held.release {ok : ℕ → ImxStreamBuffer → Prop} {frees : ImxStreamBuffer → Bool} {s : VideoStream}
    (h : Held ok s) (i : ℕ) (hfrees : ∀ b, s.mBuffers i = some b → frees b = true) :
    Held ok (releaseBuffer frees s i) ∧ ∀ j, (releaseBuffer frees s i).mBuffers j =
      if j = i then none else s.mBuffers j := by
  rw [releaseBuffer]
  rcases hget : s.mBuffers i with _ | b
  · refine ⟨h, fun j => ?_⟩
    split_ifs with hj
    · rw [hj]; exact hget
    · rfl
  · simp only [hfrees b hget, if_true]
    refine ⟨⟨fun j b' hj => ?_, fun n hn => ?_⟩, fun j => ?_⟩
    · rcases eq_or_ne j i with rfl | hne
      · simp at hj
      · exact h.ok j b' ((Function.update_of_ne hne ..).symm.trans hj)
    · obtain ⟨hn, hne⟩ := List.mem_filter.mp hn
      obtain ⟨j, b', hj, rfl⟩ := h.live n hn
      have hji : j ≠ i := by
        rintro rfl
        rw [hget] at hj
        rw [Option.some.inj hj] at hne
        simp at hne
      exact ⟨j, b', (Function.update_of_ne hji ..).trans hj, rfl⟩
    · split_ifs with hj
      · rw [hj]; exact Function.update_self ..
      · exact Function.update_of_ne hj ..

/-- Releasing over a range that covers all buffers leaves nothing. -/
theorem Held.release_all {ok : ℕ → ImxStreamBuffer → Prop} {frees : ImxStreamBuffer → Bool}
    (hfrees : ∀ i b, ok i b → frees b = true) (is : List ℕ) {s : VideoStream} (h : Held ok s)
    (hcover : ∀ i, s.mBuffers i ≠ none → i ∈ is) : Empty (is.foldl (releaseBuffer frees) s) := by
  induction is generalizing s with
  | nil =>
    have hnull : ∀ i, s.mBuffers i = none := fun i => by
      by_contra hne
      exact absurd (hcover i hne) (by simp)
    refine ⟨hnull, List.eq_nil_iff_forall_not_mem.mpr fun n hn => ?_⟩
    obtain ⟨i, b, hget, -⟩ := h.live n hn
    rw [hnull i] at hget
    cases hget
  | cons i is ih =>
    obtain ⟨hheld, hget⟩ := h.release i fun b hb => hfrees i b (h.ok i b hb)
    refine ih hheld fun j hj => ?_
    rw [hget] at hj
    split_ifs at hj with heq
    · exact absurd rfl hj
    · exact (List.mem_cons.mp (hcover j hj)).resolve_left heq

/-! ### States between calls -/

/-- What the buffers of a stream are like. -/
def okFor (s : VideoStream) (i : ℕ) (b : ImxStreamBuffer) : Prop :=
  if s.kind.mapped then okMapped i b else i < s.mAllocatedBuffers

section States
variable (kind : Kind) (num : ℕ)

/-- No buffers and no memory. -/
structure Idle (s : VideoStream) : Prop where
  kind_eq : s.kind = kind
  num_eq : s.mNumBuffers = num
  stopped : s.mbStart = false
  unregistered : s.mRegistered = false
  empty : Empty s

/-- A started stream with its buffers. -/
structure Loaded (s : VideoStream) : Prop where
  kind_eq : s.kind = kind
  num_eq : s.mNumBuffers = num
  started : s.mbStart = true
  registered : s.mRegistered = !kind.mapped
  held : Held (okFor s) s
  fits : ∀ i < s.driver.count, Fits s i

/-- A stream that has stopped, with the allocated buffers not freed yet. -/
structure Parked (s : VideoStream) : Prop where
  kind_eq : s.kind = kind
  num_eq : s.mNumBuffers = num
  stopped : s.mbStart = false
  registered : s.mRegistered = !kind.mapped
  held : Held (okFor s) s

def Good (s : VideoStream) : Prop := Idle kind num s ∨ Loaded kind num s

/-- A stream on its way to the start: the configuration is set, and the first `m` buffers are there. -/
structure Filling (format : ℤ) (width height : ℕ) (registered : Bool)
    (ok : ℕ → ImxStreamBuffer → Prop) (m : ℕ) (s : VideoStream) : Prop where
  kind_eq : s.kind = kind
  num_eq : s.mNumBuffers = num
  stopped : s.mbStart = false
  registered_eq : s.mRegistered = registered
  dev : s.mDev = true
  format_eq : s.mFormat = format
  width_eq : s.mWidth = width
  height_eq : s.mHeight = height
  filled : Filled ok m s

/-- A start that has failed, before the way out. -/
structure Failed (s : VideoStream) : Prop where
  kind_eq : s.kind = kind
  num_eq : s.mNumBuffers = num
  stopped : s.mbStart = false
  unregistered : s.mRegistered = false
  held : Held okMapped s

end States

theorem Empty.filled {ok : ℕ → ImxStreamBuffer → Prop} {s : VideoStream} (h : Empty s) : Filled ok 0 s := by
  refine ⟨⟨fun i b hi => ?_, fun n hn => ?_⟩, fun i _ => h.1 i, fun i hi => absurd hi (Nat.not_lt_zero i)⟩
  · rw [h.1 i] at hi; cases hi
  · rw [h.2] at hn; cases hn

theorem Filled.empty {ok : ℕ → ImxStreamBuffer → Prop} {s : VideoStream} (h : Filled ok 0 s) : Empty s := by
  refine ⟨fun i => h.null i (Nat.zero_le i), List.eq_nil_iff_forall_not_mem.mpr fun n hn => ?_⟩
  obtain ⟨i, b, hget, -⟩ := h.held.live n hn
  rw [h.null i (Nat.zero_le i)] at hget
  cases hget

/-- Releasing changes the array and the memory only. -/
theorem release_eq (frees : ImxStreamBuffer → Bool) (is : List ℕ) (s : VideoStream) :
    ∃ bufs live, is.foldl (releaseBuffer frees) s = { s with mBuffers := bufs, live := live } := by
  induction is generalizing s with
  | nil => exact ⟨s.mBuffers, s.live, rfl⟩
  | cons i is ih =>
    have hstep : ∃ bufs live, releaseBuffer frees s i = { s with mBuffers := bufs, live := live } := by
      rw [releaseBuffer]
      split
      · split_ifs
        · exact ⟨_, _, rfl⟩
        · exact ⟨s.mBuffers, s.live, rfl⟩
      · exact ⟨s.mBuffers, s.live, rfl⟩
    obtain ⟨bufs, live, hs⟩ := hstep
    obtain ⟨bufs', live', hrest⟩ := ih { s with mBuffers := bufs, live := live }
    exact ⟨bufs', live', by rw [List.foldl_cons, hs, hrest]⟩

theorem releaseMapped_spec {s : VideoStream} (h : Held okMapped s) :
    (∃ bufs live, releaseMapped s = { s with mBuffers := bufs, live := live }) ∧ Empty (releaseMapped s) := by
  refine ⟨release_eq _ _ s, h.release_all (fun i b hb => ?_) _ fun i hi => ?_⟩
  · simp [hb.2.1, hb.2.2]
  · obtain ⟨b, hb⟩ := Option.ne_none_iff_exists'.mp hi
    exact List.mem_range.mpr (h.ok i b hb).1

theorem releaseAllocated_spec {s : VideoStream} (h : Held (fun i _ => i < s.mAllocatedBuffers) s) :
    (∃ bufs live, releaseAllocated s = { s with mBuffers := bufs, live := live }) ∧
      Empty (releaseAllocated s) := by
  refine ⟨release_eq _ _ s, h.release_all (fun i b _ => rfl) _ fun i hi => ?_⟩
  obtain ⟨b, hb⟩ := Option.ne_none_iff_exists'.mp hi
  exact List.mem_range.mpr (h.ok i b hb)

/-! ### Stopping -/

section Stop
variable {kind : Kind} {num : ℕ} {a : Answers}

theorem Loaded.held_mapped {s : VideoStream} (h : Loaded kind num s) (hk : kind.mapped = true) :
    Held okMapped s := by
  have hheld := h.held
  have hok : okFor s = okMapped := by
    funext i b
    rw [okFor, h.kind_eq, hk, if_pos rfl]
  rwa [hok] at hheld

/-- A mapped stream drops its buffers before the driver is told to stop, so that the driver has to obey. -/
theorem stop_mapped (hk : kind.mapped = true) (hoff : a.streamoff = true) (hreq : a.reqbufs0 = true) :
    Triple False (Loaded kind num) (onDeviceStopLocked a) (Idle kind num) (Good kind num) := by
  have hstop : Triple False (Loaded kind num) (andThen (check (fun s => s.mDev) BAD_VALUE)
      (andThen (succeed releaseMapped) (streamOff a))) (Idle kind num) (Good kind num) := by
    refine Triple.andThen (R := Loaded kind num)
      (Triple.check (by decide) (fun s hs _ => hs) fun s hs _ => Or.inr hs) ?_
    have hoff' : streamOff a = succeed fun s => { s with
        mbStart := false, driver := { s.driver with streaming := false, count := 0 } } := by
      rw [streamOff, hoff, hreq]
      rfl
    rw [hoff']
    refine Triple.andThen (R := fun s => s.kind = kind ∧ s.mNumBuffers = num ∧ s.mRegistered = false ∧
      Empty s)
      (Triple.succeed fun s hs => ?_) (Triple.succeed fun s hs => ?_)
    · obtain ⟨⟨bufs, live, heq⟩, hempty⟩ := releaseMapped_spec (hs.held_mapped hk)
      refine ⟨?_, ?_, ?_, hempty⟩ <;> rw [heq]
      · exact hs.kind_eq
      · exact hs.num_eq
      · exact hs.registered.trans (by rw [hk]; rfl)
    · obtain ⟨hkind, hnum, hreg, hempty⟩ := hs
      exact ⟨hkind, hnum, rfl, hreg, hempty⟩
  refine hstop.of_eq fun s hs => ?_
  rw [onDeviceStopLocked, hs.kind_eq]
  cases kind <;> first | rfl | cases hk

/-- An allocated stream keeps its buffers over a stop that fails. -/
theorem stop_unmapped (hk : kind.mapped = false) :
    Triple False (Loaded kind num) (onDeviceStopLocked a) (Parked kind num) (Good kind num) := by
  have hcore : Triple False (Loaded kind num) (andThen (check (fun s => s.mDev) BAD_VALUE) (streamOff a))
      (Parked kind num) (Loaded kind num) := by
    refine Triple.andThen (R := Loaded kind num)
      (Triple.check (by decide) (fun s hs _ => hs) fun s hs _ => hs) ?_
    refine Triple.andThen (R := Loaded kind num) ?_ (Triple.andThen (R := Loaded kind num) ?_ ?_)
    · exact ioctl_triple (by decide)
        (fun _ s hs => ⟨hs.kind_eq, hs.num_eq, hs.started, hs.registered, ⟨hs.held.ok, hs.held.live⟩,
          hs.fits⟩) fun _ s hs => hs
    · exact ioctl_triple (by decide)
        (fun _ s hs => ⟨hs.kind_eq, hs.num_eq, hs.started, hs.registered, ⟨hs.held.ok, hs.held.live⟩,
          fun i hi => absurd hi (Nat.not_lt_zero i)⟩) fun _ s hs => hs
    · exact Triple.succeed fun s hs => ⟨hs.kind_eq, hs.num_eq, rfl, hs.registered, ⟨hs.held.ok, hs.held.live⟩⟩
  rcases kind with _ | _ | _ | _
  · cases hk
  · cases hk
  · refine (hcore.weaken (fun s hs => hs) (fun s hs => hs) fun s hs => Or.inr hs).of_eq fun s hs => ?_
    rw [onDeviceStopLocked, hs.kind_eq]
  · refine Triple.of_eq (c := afterwards _ closeDev) (hcore.afterwards (fun s hs => ?_) fun s hs => ?_)
      fun s hs => ?_
    · exact ⟨hs.kind_eq, hs.num_eq, hs.stopped, hs.registered, ⟨hs.held.ok, hs.held.live⟩⟩
    · exact Or.inr ⟨hs.kind_eq, hs.num_eq, hs.started, hs.registered, ⟨hs.held.ok, hs.held.live⟩, hs.fits⟩
    · rw [onDeviceStopLocked, hs.kind_eq]

/-- Freeing what is parked leaves nothing. -/
theorem free_triple {E : VideoStream → Prop} (hk : kind.mapped = false) :
    Triple False (Parked kind num) freeBuffersLocked (Idle kind num) E := by
  refine Triple.of_some
    (f := fun s => ({ releaseAllocated s with mRegistered := false, mAllocatedBuffers := 0 }, 0))
    (fun s hs => ?_) (fun s hs _ => ?_) fun s hs h0 => absurd rfl h0
  · rw [freeBuffersLocked, hs.kind_eq, hk, hs.registered, hk]
    rfl
  · have hheld : Held (fun i _ => i < s.mAllocatedBuffers) s := by
      have hok : okFor s = fun i _ => i < s.mAllocatedBuffers := by
        funext i b
        rw [okFor, hs.kind_eq, hk, if_neg Bool.false_ne_true]
      rw [← hok]
      exact hs.held
    obtain ⟨⟨bufs, live, heq⟩, hempty⟩ := releaseAllocated_spec hheld
    rw [heq] at hempty
    simp only [heq]
    exact ⟨hs.kind_eq, hs.num_eq, hs.stopped, rfl, hempty⟩

/-- Stop and free, as both callers do it, leave an idle stream. -/
theorem stop_free_triple {d : Cmd VideoStream} {Q : VideoStream → Prop}
    (hstop : kind.mapped = true → a.streamoff = true ∧ a.reqbufs0 = true)
    (hd : Triple False (Idle kind num) d Q (Good kind num)) :
    Triple False (Loaded kind num) (andThen (onDeviceStopLocked a) (andThen freeBuffersLocked d)) Q
      (Good kind num) := by
  rcases hk : kind.mapped with _ | _
  · exact (stop_unmapped hk).andThen ((free_triple hk).andThen hd)
  · obtain ⟨hoff, hreq⟩ := hstop hk
    refine (stop_mapped hk hoff hreq).andThen (Triple.andThen (R := Idle kind num) ?_ hd)
    refine Triple.of_some (f := fun s => (s, 0)) (fun s hs => ?_) (fun s hs _ => hs) fun s hs h0 =>
      absurd rfl h0
    rw [freeBuffersLocked, hs.kind_eq, hk]
    rfl

end Stop

/-! ### Starting -/

section Start
variable {kind : Kind} {num : ℕ} {format : ℤ} {r : Request} {a : Answers}

/-- The flags and buffers that setting up the device does not touch. -/
theorem Idle.of_setup {s s' : VideoStream} (h : Idle kind num s) (hkind : s'.kind = s.kind)
    (hnum : s'.mNumBuffers = s.mNumBuffers) (hstart : s'.mbStart = s.mbStart)
    (hreg : s'.mRegistered = s.mRegistered) (hbufs : s'.mBuffers = s.mBuffers) (hlive : s'.live = s.live) :
    Idle kind num s' :=
  ⟨hkind.trans h.kind_eq, hnum.trans h.num_eq, hstart.trans h.stopped, hreg.trans h.unregistered,
    fun i => (congrFun hbufs i).trans (h.empty.1 i), hlive.trans h.empty.2⟩

/-- From any state between calls the device is set up, with no buffers yet. -/
theorem prepareAndConfigure_triple (c : Session) {ok : ℕ → ImxStreamBuffer → Prop} :
    Triple False
      (fun s => Good kind num s ∧ (kind.mapped = true → s.mbStart = true →
        a.streamoff = true ∧ a.reqbufs0 = true))
      (prepareAndConfigure c format r a) (Filling kind num format r.width r.height false ok 0)
      (Good kind num) := by
  have hfirst : Triple False (fun s => Good kind num s ∧ (kind.mapped = true → s.mbStart = true →
      a.streamoff = true ∧ a.reqbufs0 = true)) (onlyIf VideoStream.mbStart (stopFirst r a)) (Idle kind num)
      (Good kind num) := by
    refine Triple.onlyIf ?_ fun s hs hstart => ?_
    · intro s hs
      obtain ⟨⟨hgood, hstop⟩, hstart⟩ := hs
      have hloaded : Loaded kind num s := by
        rcases hgood with hidle | hloaded
        · rw [hidle.stopped] at hstart; cases hstart
        · exact hloaded
      have hreopen : Triple False (Idle kind num) (onlyIf (fun s => r.recover || s.kind = .isp)
          (andThen (succeed closeDev) (openDev a))) (Idle kind num) (Good kind num) := by
        refine Triple.onlyIf (Triple.andThen (R := Idle kind num) (Triple.succeed fun s hs => ?_) ?_)
          fun s hs _ => hs
        · exact hs.1.of_setup rfl rfl rfl rfl rfl rfl
        · exact ioctl_triple (by decide) (fun _ s hs => hs.of_setup rfl rfl rfl rfl rfl rfl)
            fun _ s hs => Or.inl hs
      exact stop_free_triple (fun hk => hstop hk hstart) hreopen s hloaded
    · rcases hs.1 with hidle | hloaded
      · exact hidle
      · rw [hloaded.started] at hstart; cases hstart
  have hprepare : Triple False (Idle kind num) (onPrepareLocked a) (Idle kind num) (Good kind num) :=
    Triple.check (by decide) (fun s hs _ => hs) fun s hs _ => Or.inl hs
  refine hfirst.andThen (hprepare.andThen ?_)
  refine Triple.andThen (R := Idle kind num) (Triple.onlyIf ?_ fun s hs _ => hs) ?_
  · exact ioctl_triple (by decide) (fun _ s hs => hs.1.of_setup rfl rfl rfl rfl rfl rfl)
      fun _ s hs => Or.inl hs.1
  refine Triple.andThen (R := fun s => Idle kind num s ∧ s.mDev = true)
    (Triple.check (by decide) (fun s hs hdev => ⟨hs, hdev⟩) fun s hs _ => Or.inl hs) ?_
  refine Triple.andThen (R := fun s => Idle kind num s ∧ s.mDev = true) ?_ ?_
  · refine Triple.of_some (f := fun s => if a.s_parm then
        ({ s with
          driver := { s.driver with parm := some (parmOf s.kind (c.limitFps r.fps r.sceneMode) a.frmival) } }, 0)
      else (s, if s.kind = .isp then 0 else -1)) (fun s _ => ?_) (fun s hs _ => ?_) fun s hs _ => ?_
    · rw [setParm]
      split_ifs <;> rfl
    · split_ifs
      · exact ⟨hs.1.of_setup rfl rfl rfl rfl rfl rfl, hs.2⟩
      all_goals exact hs
    · split_ifs
      · exact Or.inl (hs.1.of_setup rfl rfl rfl rfl rfl rfl)
      all_goals exact Or.inl hs.1
  · refine ioctl_triple (by decide) (fun _ s hs => ?_) fun _ s hs => Or.inl hs.1
    obtain ⟨hidle, hdev⟩ := hs
    exact ⟨hidle.kind_eq, hidle.num_eq, hidle.stopped, hidle.unregistered, hdev, rfl, rfl, rfl,
      Empty.filled hidle.empty⟩

/-- The images have the size the request asks for. -/
def Roomy (format : ℤ) (r : Request) (a : Answers) : Prop :=
  ∀ i size, a.querybuf i = some size ∨ a.alloc i = some size →
    0 < size ∧ getSizeByForamtRes format r.width r.height false ≤ size

theorem Filling.put {registered : Bool} {ok : ℕ → ImxStreamBuffer → Prop} {m : ℕ} {s : VideoStream}
    {b : ImxStreamBuffer} (h : Filling kind num format r.width r.height registered ok m s) (hb : ok m b)
    (hstream : b.mStream = s.id) (hformat : b.mFormat = s.mFormat ∨ b.mFormat = physFormat s.mFormat)
    (hwidth : b.mWidth = s.mWidth) (hheight : b.mHeight = s.mHeight)
    (hsize : getSizeByForamtRes format r.width r.height false ≤ b.mSize) :
    Filling kind num format r.width r.height registered ok (m + 1) (putBuffer s m b) := by
  refine ⟨h.kind_eq, h.num_eq, h.stopped, h.registered_eq, h.dev, h.format_eq, h.width_eq, h.height_eq, ?_⟩
  refine h.filled.put hb hstream hformat hwidth hheight ?_
  rw [h.format_eq, h.width_eq, h.height_eq]
  exact hsize

/-- With an allocator that does not refuse, every buffer is there and registered. -/
theorem allocate_unmapped (hk : kind.mapped = false) (hnum : num ≤ MAX_STREAM_BUFFERS)
    (halloc : ∀ i < num, a.alloc i ≠ none) (hroom : Roomy format r a) :
    Triple False (Filling kind num format r.width r.height false (fun i _ => i < num) 0)
      (allocateBuffersLocked a)
      (fun s => Filling kind num format r.width r.height true (fun i _ => i < num) num s ∧
        s.mAllocatedBuffers = num) fun _ => False := by
  have hloop : Triple False (Filling kind num format r.width r.height false (fun i _ => i < num) 0)
      (forEach (allocateBuffer a) (List.range num))
      (Filling kind num format r.width r.height false (fun i _ => i < num) num) fun _ => False := by
    refine Triple.forRange fun i hi => ?_
    obtain ⟨size, hsize⟩ := Option.ne_none_iff_exists'.mp (halloc i hi)
    refine Triple.of_some (f := fun s => (putBuffer s i
      { index := i, mFormat := physFormat s.mFormat, mWidth := s.mWidth, mHeight := s.mHeight, mSize := size
        mFormatSize := formatSize s size, mVirtAddr := .mapped, mStream := s.id, serial := s.next }, 0))
      (fun s _ => ?_) (fun s hs _ => ?_) fun _ _ h0 => absurd rfl h0
    · rw [allocateBuffer, if_neg (by omega), hsize]
    · exact hs.put hi rfl (Or.inr rfl) rfl rfl (hroom i size (Or.inr hsize)).2
  intro s hs
  obtain ⟨s', hrun, hfilled⟩ := hloop.success hs
  have heq : allocateBuffersLocked a s =
      some ({ s' with mRegistered := true, mAllocatedBuffers := s'.mNumBuffers }, 0) := by
    rw [allocateBuffersLocked, hs.kind_eq, hk, hs.registered_eq, hs.num_eq, hrun]
    rfl
  refine ⟨fun hnone => ?_, fun t ret hrun' => ?_⟩
  · rw [heq] at hnone; cases hnone
  obtain ⟨rfl, rfl⟩ := Prod.mk.inj (Option.some.inj (heq.symm.trans hrun'))
  refine ⟨fun _ => ⟨⟨hfilled.kind_eq, hfilled.num_eq, hfilled.stopped, rfl, hfilled.dev, hfilled.format_eq,
    hfilled.width_eq, hfilled.height_eq, ?_⟩, hfilled.num_eq⟩, fun h0 => absurd rfl h0⟩
  exact ⟨⟨hfilled.filled.held.ok, hfilled.filled.held.live⟩, hfilled.filled.null, hfilled.filled.fits⟩

/-- A turn of the queue loop finds its buffer. -/
theorem queueBuffer_eq {registered : Bool} {ok : ℕ → ImxStreamBuffer → Prop} (hnum : num ≤ MAX_STREAM_BUFFERS)
    {i : ℕ} (hi : i < num) {s : VideoStream}
    (hs : Filling kind num format r.width r.height registered ok num s) :
    queueBuffer a i s = some (s, if a.qbuf i then 0 else BAD_VALUE) := by
  obtain ⟨b, hget, -⟩ := hs.filled.fits i hi
  rw [queueBuffer, if_neg]
  rintro (hle | hnone)
  · omega
  · rw [hget] at hnone; cases hnone

/-- The queue loop looks into no null entry and changes nothing. -/
theorem queueBuffers_triple {registered : Bool} {ok : ℕ → ImxStreamBuffer → Prop} {P E : VideoStream → Prop}
    (hnum : num ≤ MAX_STREAM_BUFFERS)
    (hP : ∀ s, P s → Filling kind num format r.width r.height registered ok num s)
    (hE : (∃ i < num, a.qbuf i = false) → ∀ s, P s → E s) : Triple False P (queueBuffers a) P E := by
  have hturn : ∀ i < num, Triple False ((fun _ => P) i) (queueBuffer a i) ((fun _ => P) (i + 1)) E := by
    intro i hi
    refine Triple.of_some (fun s hs => queueBuffer_eq hnum hi (hP s hs)) (fun s hs _ => hs) fun s hs h0 => ?_
    rcases hq : a.qbuf i with _ | _
    · exact hE ⟨i, hi, hq⟩ s hs
    · exact absurd (by simp [hq]) h0
  exact (Triple.forRange hturn).of_eq fun s hs => by rw [queueBuffers, (hP s hs).num_eq]

/-- An allocated stream that the driver starts. -/
theorem start_unmapped (hk : kind.mapped = false) (hnum : num ≤ MAX_STREAM_BUFFERS) (hreq : a.reqbufs = true)
    (hqbuf : ∀ i < num, a.qbuf i = true) (hon : a.streamon = true) :
    Triple False (fun s => Filling kind num format r.width r.height true (fun i _ => i < num) num s ∧
        s.mAllocatedBuffers = num) (onDeviceStartLocked a) (Loaded kind num) fun _ => False := by
  let P : VideoStream → Prop := fun s =>
    Filling kind num format r.width r.height true (fun i _ => i < num) num s ∧ s.mAllocatedBuffers = num
  let P' : VideoStream → Prop := fun s => P s ∧ s.driver.count = num
  have hstart : Triple False P (andThen (check (fun s => s.mDev) BAD_VALUE) (andThen (reqbufs a)
      (onError (andThen (queueBuffers a) (streamOn a (-1))) (giveBack a)))) (Loaded kind num)
      fun _ => False := by
    refine Triple.andThen (R := P) (Triple.check (by decide) (fun s hs _ => hs) fun s hs hdev => ?_)
      (Triple.andThen (R := P') ?_ (Triple.onError (R := fun _ => False) (Triple.andThen (R := P') ?_ ?_)
        fun _ h => h))
    · rw [hs.1.dev] at hdev; cases hdev
    · refine ioctl_triple (by decide) (fun _ s hs => ?_) fun hno => by rw [hreq] at hno; cases hno
      obtain ⟨h, halloc⟩ := hs
      exact ⟨⟨⟨h.kind_eq, h.num_eq, h.stopped, h.registered_eq, h.dev, h.format_eq, h.width_eq, h.height_eq,
        ⟨⟨h.filled.held.ok, h.filled.held.live⟩, h.filled.null, h.filled.fits⟩⟩, halloc⟩, h.num_eq⟩
    · refine queueBuffers_triple hnum (fun s hs => hs.1.1) ?_
      rintro ⟨i, hi, hq⟩
      rw [hqbuf i hi] at hq
      cases hq
    · refine ioctl_triple (by decide) (fun _ s hs => ?_) fun hno => by rw [hon] at hno; cases hno
      obtain ⟨⟨h, halloc⟩, hcount⟩ := hs
      refine ⟨h.kind_eq, h.num_eq, rfl, by rw [hk]; exact h.registered_eq,
        ⟨fun i b hb => ?_, h.filled.held.live⟩, ?_⟩
      · rw [okFor, h.kind_eq, hk, if_neg Bool.false_ne_true]
        exact (h.filled.held.ok i b hb).trans_eq halloc.symm
      · intro i hi
        exact h.filled.fits i (hcount ▸ hi)
  refine hstart.of_eq fun s hs => ?_
  rw [onDeviceStartLocked, hs.1.kind_eq, hk, if_neg Bool.false_ne_true]

/-- A turn of the registration loop; where it fails, all memory is still in the array. -/
theorem registerBuffer_triple (hroom : Roomy format r a) {i : ℕ} (hi : i < MAX_STREAM_BUFFERS) {n : ℕ} :
    Triple False
      (fun s => Filling kind num format r.width r.height false okMapped i s ∧ s.driver.count = n)
      (registerBuffer a i)
      (fun s => Filling kind num format r.width r.height false okMapped (i + 1) s ∧ s.driver.count = n)
      (Failed kind num) := by
  have hfailed : ∀ s, Filling kind num format r.width r.height false okMapped i s → Failed kind num s :=
    fun s h => ⟨h.kind_eq, h.num_eq, h.stopped, h.registered_eq, h.filled.held⟩
  rcases hquery : a.querybuf i with _ | length
  · refine Triple.stops (by decide : BAD_VALUE ≠ 0) (fun s _ => ?_) fun s hs => hfailed s hs.1
    rw [registerBuffer, hquery]
  rcases hexp : a.expbuf i with _ | _
  · refine Triple.stops (by decide : BAD_VALUE ≠ 0) (fun s _ => ?_) fun s hs => hfailed s hs.1
    rw [registerBuffer, hquery, hexp]
    rfl
  obtain ⟨hpos, hlength⟩ := hroom i length (Or.inl hquery)
  refine Triple.of_some (f := fun s => (putBuffer s i
    { index := i, mFormat := s.mFormat, mWidth := s.mWidth, mHeight := s.mHeight, mSize := length
      mFormatSize := formatSize s length, mVirtAddr := if a.mmap i then .mapped else .MAP_FAILED
      mStream := s.id, serial := s.next }, if a.mmap i ∧ (s.mPlane ∨ a.querybuf2 i) then 0 else BAD_VALUE))
    (fun s _ => ?_) (fun s hs _ => ⟨hs.1.put ?_ rfl (Or.inl rfl) rfl rfl hlength, hs.2⟩) fun s hs _ => ?_
  · rw [registerBuffer, hquery, hexp]
    rfl
  · refine ⟨hi, ?_, hpos⟩
    split_ifs <;> simp
  · have h := hs.1
    refine ⟨h.kind_eq, h.num_eq, h.stopped, h.registered_eq, h.filled.held.put (h.filled.null i le_rfl)
      ⟨hi, ?_, hpos⟩⟩
    split_ifs <;> simp

/-- The way out of a failed start. -/
theorem Failed.cleanup {s : VideoStream} (h : Failed kind num s) :
    Idle kind num (giveBack a (releaseMapped s)) := by
  obtain ⟨⟨bufs, live, heq⟩, hempty⟩ := releaseMapped_spec h.held
  have hidle : Idle kind num (releaseMapped s) := by
    refine ⟨?_, ?_, ?_, ?_, hempty⟩ <;> rw [heq]
    · exact h.kind_eq
    · exact h.num_eq
    · exact h.stopped
    · exact h.unregistered
  rw [giveBack]
  split_ifs
  · exact hidle.of_setup rfl rfl rfl rfl rfl rfl
  · exact hidle

/-- A mapped stream either starts with its buffers or is idle again. -/
theorem start_mapped (hk : kind.mapped = true) (hnum : num ≤ MAX_STREAM_BUFFERS) (hroom : Roomy format r a) :
    Triple False (Filling kind num format r.width r.height false okMapped 0) (onDeviceStartLocked a)
      (Loaded kind num) (Idle kind num) := by
  let P : ℕ → VideoStream → Prop := fun i s =>
    Filling kind num format r.width r.height false okMapped i s ∧ s.driver.count = num
  have hidle : ∀ s, Filling kind num format r.width r.height false okMapped 0 s → Idle kind num s :=
    fun s h => ⟨h.kind_eq, h.num_eq, h.stopped, h.registered_eq, h.filled.empty⟩
  have hfailed : ∀ s, P num s → Failed kind num s := fun s hs =>
    ⟨hs.1.kind_eq, hs.1.num_eq, hs.1.stopped, hs.1.registered_eq, hs.1.filled.held⟩
  have hregister : Triple False (P 0) (registerBuffers a) (P num) (Failed kind num) := by
    have hturn : ∀ i < num, Triple False (P i) (registerBuffer a i) (P (i + 1)) (Failed kind num) :=
      fun i hi => registerBuffer_triple hroom (by omega)
    refine (Triple.forRange hturn).of_eq fun s hs => ?_
    rw [registerBuffers, hs.1.num_eq, Nat.min_eq_left hnum]
  have hqueue : Triple False (P num) (queueBuffers a) (P num) (Failed kind num) :=
    queueBuffers_triple hnum (fun s hs => hs.1) fun _ => hfailed
  have hstream : Triple False (P num) (streamOn a BAD_VALUE) (Loaded kind num) (Failed kind num) := by
    refine ioctl_triple (by decide) (fun _ s hs => ?_) fun _ => hfailed
    obtain ⟨h, hcount⟩ := hs
    refine ⟨h.kind_eq, h.num_eq, rfl, by rw [hk]; exact h.registered_eq,
      ⟨fun i b hb => ?_, h.filled.held.live⟩, ?_⟩
    · rw [okFor, h.kind_eq, hk, if_pos rfl]
      exact h.filled.held.ok i b hb
    · intro i hi
      exact h.filled.fits i (hcount ▸ hi)
  have hstart : Triple False (Filling kind num format r.width r.height false okMapped 0)
      (andThen (check (fun s => s.mDev) BAD_VALUE) (andThen (reqbufs a)
        (onError (andThen (registerBuffers a) (andThen (queueBuffers a) (streamOn a BAD_VALUE)))
          fun s => giveBack a (releaseMapped s)))) (Loaded kind num) (Idle kind num) := by
    refine Triple.andThen (R := Filling kind num format r.width r.height false okMapped 0)
      (Triple.check (by decide) (fun s hs _ => hs) fun s hs _ => hidle s hs)
      (Triple.andThen (R := P 0) ?_ ((hregister.andThen (hqueue.andThen hstream)).onError
        fun s hs => hs.cleanup))
    refine ioctl_triple (by decide) (fun _ s h => ⟨?_, h.num_eq⟩) fun _ => hidle
    exact ⟨h.kind_eq, h.num_eq, h.stopped, h.registered_eq, h.dev, h.format_eq, h.width_eq, h.height_eq,
      ⟨⟨h.filled.held.ok, h.filled.held.live⟩, h.filled.null, h.filled.fits⟩⟩
  refine hstart.of_eq fun s hs => ?_
  rw [onDeviceStartLocked, hs.kind_eq, hk, if_pos rfl]

end Start

/-! ### Calls and runs -/

section Calls
variable {c : Session} {kind : Kind} {num : ℕ} {v : VideoStream} {r : Request} {a : Answers}

theorem Good.fits {s : VideoStream} (h : Good kind num s) : BuffersFit s := by
  rcases h with hidle | hloaded
  · intro hstart; rw [hidle.stopped] at hstart; cases hstart
  · exact fun _ => hloaded.fits

theorem Good.kind_eq {s : VideoStream} (h : Good kind num s) : s.kind = kind := by
  rcases h with hidle | hloaded
  · exact hidle.kind_eq
  · exact hloaded.kind_eq

theorem Good.num_eq {s : VideoStream} (h : Good kind num s) : s.mNumBuffers = num := by
  rcases h with hidle | hloaded
  · exact hidle.num_eq
  · exact hloaded.num_eq

/-- The two formats that count as one have images of the same size. -/
theorem roomy_requestFormat (h : Suffices (.ConfigAndStart r a)) : Roomy (requestFormat v r) r a := by
  intro i size hsize
  have hroom := h r a rfl i size hsize
  rw [requestFormat]
  split_ifs with h420
  · simp only [is420, Bool.and_eq_true, Bool.or_eq_true, decide_eq_true_eq] at h420
    obtain ⟨hv | hv, hr | hr⟩ := h420 <;> rw [hr] at hroom <;> rw [hv] <;>
      simpa [getSizeByForamtRes, YCbCr_420_SP, YCbCr_420_888, YCbCr_420_P, YV12] using hroom
  · exact hroom

/-- The buffers a stream of either kind is given. -/
def okStart (kind : Kind) (num i : ℕ) (b : ImxStreamBuffer) : Prop :=
  if kind.mapped then okMapped i b else i < num

theorem okStart_mapped (hk : kind.mapped = true) : okStart kind num = okMapped := by
  funext i b
  rw [okStart, hk, if_pos rfl]

theorem okStart_unmapped (hk : kind.mapped = false) : okStart kind num = fun i _ => i < num := by
  funext i b
  rw [okStart, hk, if_neg Bool.false_ne_true]

theorem allocate_mapped {s : VideoStream} (hk : s.kind.mapped = true) :
    allocateBuffersLocked a s = some (s, 0) := by
  rw [allocateBuffersLocked, hk]
  rfl

/-- From the buffers on, a stream that starts is loaded and one that does not is idle. -/
theorem attempt_triple (hnum : num ≤ MAX_STREAM_BUFFERS) {format : ℤ} (hroom : Roomy format r a)
    (hgoes : kind.mapped = false → a.reqbufs = true ∧ a.streamon = true ∧
      ∀ i < num, a.alloc i ≠ none ∧ a.qbuf i = true) :
    Triple False (Filling kind num format r.width r.height false (okStart kind num) 0)
      (andThen (allocateBuffersLocked a)
        (andThen (onDeviceStartLocked a) (succeed fun s => { s with mSceneMode := r.sceneMode })))
      (Loaded kind num) (Idle kind num) := by
  have hsave : Triple False (Loaded kind num) (succeed fun s => { s with mSceneMode := r.sceneMode })
      (Loaded kind num) (Idle kind num) := Triple.succeed fun s hs =>
    ⟨hs.kind_eq, hs.num_eq, hs.started, hs.registered, ⟨hs.held.ok, hs.held.live⟩, hs.fits⟩
  rcases hk : kind.mapped with _ | _
  · obtain ⟨hreq, hon, hall⟩ := hgoes hk
    rw [okStart_unmapped hk]
    have hstart : Triple False _ (onDeviceStartLocked a) (Loaded kind num) _ :=
      @start_unmapped kind num format r a hk hnum hreq (fun i hi => (hall i hi).2) hon
    refine ((allocate_unmapped hk hnum (fun i hi => (hall i hi).1) hroom).weaken (fun _ hs => hs)
      (fun _ hs => hs) fun _ h => h.elim).andThen ?_
    exact (hstart.weaken (fun _ hs => hs) (fun _ hs => hs) fun _ h => h.elim).andThen hsave
  · rw [okStart_mapped hk]
    refine Triple.andThen (R := Filling kind num format r.width r.height false okMapped 0) ?_
      ((start_mapped hk hnum hroom).andThen hsave)
    exact Triple.of_some (f := fun s => (s, 0)) (fun s hs => allocate_mapped (by rw [hs.kind_eq, hk]))
      (fun s hs _ => hs) fun s hs h0 => absurd rfl h0

/-- The condition of a call, for a stream of this kind. -/
theorem coop_configAndStart (hgood : Good kind num v) (hcoop : Cooperative c (some v) (.ConfigAndStart r a))
    (hsame : sameConfig c v r = false) :
    (kind.mapped = true → v.mbStart = true → a.streamoff = true ∧ a.reqbufs0 = true) ∧
      (kind.mapped = false → a.reqbufs = true ∧ a.streamon = true ∧
        ∀ i < num, a.alloc i ≠ none ∧ a.qbuf i = true) := by
  have h := hcoop v rfl hsame
  rwa [hgood.kind_eq, hgood.num_eq] at h

/-- A call returns, and leaves a state between calls. -/
theorem exec_good {e : Call} (hnum : num ≤ MAX_STREAM_BUFFERS) (hgood : Good kind num v) (hroom : Suffices e)
    (hfits : NumberFits e) (hcoop : Cooperative c (some v) e) :
    ∃ v' ret, exec c e v = some (v', ret) ∧ ∃ num' ≤ MAX_STREAM_BUFFERS, Good kind num' v' := by
  have hreturn : ∀ {P Q : VideoStream → Prop} {d : Cmd VideoStream}, P v →
    Triple False P d Q (Good kind num) →
      (∀ s, Q s → Good kind num s) → ∃ v' ret, d v = some (v', ret) ∧
        ∃ num' ≤ MAX_STREAM_BUFFERS, Good kind num' v' := by
    intro P Q d hP hd hQ
    obtain ⟨hub, hpost⟩ := hd v hP
    rcases hrun : d v with _ | ⟨v', ret⟩
    · exact (hub hrun).elim
    · refine ⟨v', ret, rfl, num, hnum, ?_⟩
      obtain ⟨hzero, hne⟩ := hpost v' ret hrun
      rcases eq_or_ne ret 0 with h0 | h0
      · exact hQ v' (hzero h0)
      · exact hne h0
  cases e with
  | ConfigAndStart r a =>
    rw [exec, ConfigAndStart]
    split_ifs with hsame
    · exact ⟨v, 0, rfl, num, hnum, hgood⟩
    · obtain ⟨hstop, hgoes⟩ := coop_configAndStart hgood hcoop (Bool.eq_false_iff.mpr hsame)
      have hattempt := attempt_triple hnum (roomy_requestFormat (v := v) hroom) hgoes
      exact hreturn ⟨hgood, fun hk hstart => hstop hk hstart⟩ ((prepareAndConfigure_triple c).andThen
        (hattempt.weaken (fun _ hs => hs) (fun _ hs => hs) fun _ hs => Or.inl hs)) fun s hs => Or.inr hs
  | SetBufferNumber n =>
    refine ⟨_, 0, rfl, n, hfits n rfl, ?_⟩
    rcases hgood with h | h
    · exact Or.inl ⟨h.kind_eq, rfl, h.stopped, h.unregistered, h.empty⟩
    · exact Or.inr ⟨h.kind_eq, rfl, h.started, h.registered, ⟨h.held.ok, h.held.live⟩, h.fits⟩
  | Stop a =>
    have hstop := hcoop v rfl
    rw [exec, Stop, onlyIf]
    split_ifs with hstart
    · have hloaded : Loaded kind num v := by
        rcases hgood with hidle | hloaded
        · rw [hidle.stopped] at hstart; cases hstart
        · exact hloaded
      rw [hgood.kind_eq] at hstop
      have hd : Triple False (Idle kind num)
        (succeed fun s => { s with mWidth := 0, mHeight := 0, mFps := 0 })
          (Idle kind num) (Good kind num) :=
        Triple.succeed fun s hs => hs.of_setup rfl rfl rfl rfl rfl rfl
      exact hreturn hloaded (stop_free_triple (fun hk => hstop hk hstart) hd) fun s hs => Or.inl hs
    · exact ⟨v, 0, rfl, num, hnum, hgood⟩

/-- A failed attempt is one of a mapped stream, which is idle again and has reported the failure. -/
theorem attempt_cleared (hnum : num ≤ MAX_STREAM_BUFFERS) (hgood : Good kind num v)
    (hroom : Suffices (.ConfigAndStart r a)) (hcoop : Cooperative c (some v) (.ConfigAndStart r a))
    (hfail : AttemptFails c r a v) :
    ∃ v' ret, exec c (.ConfigAndStart r a) v = some (v', ret) ∧ ret ≠ 0 ∧ ∀ n ∈ v'.live, n < v.next := by
  obtain ⟨hsame, v₁, hprep, hfail⟩ := hfail
  obtain ⟨hstop, hgoes⟩ := coop_configAndStart hgood hcoop hsame
  have hroom' := roomy_requestFormat (v := v) hroom
  have hfilling : Filling kind num _ r.width r.height false (okStart kind num) 0 v₁ :=
    ((prepareAndConfigure_triple c).at_run ⟨hgood, hstop⟩ hprep).1 rfl
  rcases hk : kind.mapped with _ | _
  · exfalso
    obtain ⟨hreq, hon, hall⟩ := hgoes hk
    rw [okStart_unmapped hk] at hfilling
    rcases hfail with ⟨-, -, i, hi, hnone⟩ | ⟨v₂, halloc, hstart⟩
    · exact (hall i (hfilling.num_eq ▸ hi)).1 hnone
    · obtain ⟨s, hs, hfull⟩ :=
        (allocate_unmapped hk hnum (fun i hi => (hall i hi).1) hroom').success hfilling
      obtain ⟨rfl, -⟩ := Prod.mk.inj (Option.some.inj (hs.symm.trans halloc))
      obtain ⟨v₃, hv₃, -⟩ := (start_unmapped hk hnum hreq (fun i hi => (hall i hi).2) hon).success hfull
      exact hstart v₃ hv₃
  · rw [okStart_mapped hk] at hfilling
    have halloc : allocateBuffersLocked a v₁ = some (v₁, 0) := allocate_mapped (by rw [hfilling.kind_eq, hk])
    rcases hfail with ⟨hunmapped, -⟩ | ⟨v₂, halloc', hstart⟩
    · rw [hfilling.kind_eq, hk] at hunmapped; cases hunmapped
    obtain ⟨rfl, -⟩ := Prod.mk.inj (Option.some.inj (halloc.symm.trans halloc'))
    obtain ⟨hub, hpost⟩ := start_mapped hk hnum hroom' v₁ hfilling
    rcases hrun : onDeviceStartLocked a v₁ with _ | ⟨v₃, ret⟩
    · exact (hub hrun).elim
    have hne : ret ≠ 0 := by
      rintro rfl
      exact hstart v₃ hrun
    have hidle := (hpost v₃ ret hrun).2 hne
    refine ⟨v₃, ret, ?_, hne, fun n hn => ?_⟩
    · rw [exec, ConfigAndStart, if_neg (by rw [hsame]; exact Bool.false_ne_true), andThen_of_zero hprep,
        andThen_of_zero halloc, andThen, hrun]
      exact if_neg hne
    · rw [hidle.empty.2] at hn; cases hn

end Calls

open ImxHal.Run

/-- CORRECT: with memory of the size asked for and at most as many buffers as the array holds, the buffers of
    a stream match it throughout every run in which a mapped stream always stops and an allocated stream
    always gets its buffers and starts; failed attempts are reported and leave nothing behind. -/
theorem buffers_match_stream (c : Session) (id : ℕ) (kind : Kind) (mPlane mDev : Bool) (calls : List Call)
    (hmemory : ∀ e ∈ calls, Suffices e) (hnumber : ∀ e ∈ calls, NumberFits e)
    (hcoop : Meets (step c) (Cooperative c) (some (created id kind mPlane mDev)) calls) :
    Always (step c) (BuffersKept c) (some (created id kind mPlane mDev)) calls := by
  refine always_of_meets (fun s e (hs : ∀ v, s = some v → ∃ num ≤ MAX_STREAM_BUFFERS, Good kind num v)
    hc => ?_) calls _ ?_ (meets_and (meets_of_forall calls _ fun e he =>
      And.intro (hmemory e he) (hnumber e he)) hcoop)
  · obtain ⟨⟨hroom, hfits⟩, hcoop⟩ := hc
    have hnext : ∀ v', step c s e = some v' → ∃ num ≤ MAX_STREAM_BUFFERS, Good kind num v' := by
      intro v' hv'
      obtain ⟨v, rfl, hmap⟩ := Option.bind_eq_some_iff.mp hv'
      obtain ⟨num, hnum, hgood⟩ := hs v rfl
      obtain ⟨w, ret, hrun, hw⟩ := exec_good hnum hgood hroom hfits hcoop
      rw [hrun] at hmap
      rwa [← Option.some.inj hmap]
    refine ⟨hnext, fun v' hv' => ?_, ?_⟩
    · obtain ⟨num, -, hgood⟩ := hnext v' hv'
      exact hgood.fits
    · rintro v r a rfl rfl hfail
      obtain ⟨num, hnum, hgood⟩ := hs v rfl
      exact attempt_cleared hnum hgood hroom hcoop hfail
  · rintro v hv
    obtain rfl := Option.some.inj hv
    exact ⟨0, Nat.zero_le _, Or.inl ⟨rfl, rfl, rfl, rfl, fun _ => rfl, rfl⟩⟩

/-- The answers to a call on a stream whose buffers get `size` bytes. -/
def answers (size : ℕ) (streamon : Bool) : Answers :=
  ⟨true, none, [], true, true, true, fun _ => some size, fun _ => true, fun _ => true, fun _ => true,
    fun _ => some size, fun _ => true, streamon, true, true⟩

/-- A small stream of one buffer, whose start the driver refuses. -/
def smallRefused : List Call :=
  [.SetBufferNumber 1, .ConfigAndStart ⟨YCbCr_422_I, 640, 480, 30, 0, false, by decide⟩
    (answers 1228800 false)]

def large : Call := .ConfigAndStart ⟨YCbCr_422_I, 1920, 1080, 30, 0, false, by decide⟩ (answers 8294400 true)

/-- The large stream runs with the buffer of the small one. -/
theorem stale_buffers_started :
    let c : Session := ⟨⟨0, fun _ => ⟨0, 0, 0, 0, 0⟩⟩, 1920, 1080⟩
    let final := run (step c) (some (created 0 .dma false true)) (smallRefused ++ [large])
    (final.map fun v => (v.mbStart, v.driver.count, v.mWidth, (v.mBuffers 0).map fun b =>
      (b.mWidth, b.mSize))) =
        some (true, 1, 1920, some (640, 1228800)) ∧
      ¬ Always (step c) (BuffersKept c) (some (created 0 .dma false true)) (smallRefused ++ [large]) := by
  intro c final
  have hfinal : (final.map fun v => (v.mbStart, v.driver.count, v.mWidth,
      (v.mBuffers 0).map fun b => (b.mWidth, b.mSize))) = some (true, 1, 1920, some (640, 1228800)) := by
    decide +kernel
  refine ⟨hfinal, fun h => ?_⟩
  obtain ⟨v, hrun, hv⟩ := Option.map_eq_some_iff.mp hfinal
  obtain ⟨hstart, hcount, hwidth, hbuf⟩ : v.mbStart = true ∧ v.driver.count = 1 ∧ v.mWidth = 1920 ∧
      (v.mBuffers 0).map (fun b => (b.mWidth, b.mSize)) = some (640, 1228800) := by simpa using hv
  obtain ⟨b, hget, -, -, -, hfit, -⟩ := (always_last h).1 v hrun hstart 0 (by rw [hcount]; decide)
  rw [hget] at hbuf
  obtain ⟨hb, -⟩ := Prod.mk.inj (Option.some.inj hbuf)
  omega

/-- A run of a mapped stream that is started, asked for another size and stopped. -/
theorem mapped_buffers_match :
    let c : Session := ⟨⟨0, fun _ => ⟨0, 0, 0, 0, 0⟩⟩, 1920, 1080⟩
    let a : Answers := answers 614400 true
    let r : Request := ⟨YCbCr_422_I, 640, 480, 30, 0, false, by decide⟩
    let calls : List Call := [.SetBufferNumber 4, .ConfigAndStart r a, .Stop a]
    Always (step c) (BuffersKept c) (some (created 0 .mmap false true)) calls := by
  intro c a r calls
  refine buffers_match_stream c 0 .mmap false true calls ?_ ?_ ?_
  · rintro e he r' a' rfl i size hsize
    obtain ⟨rfl, rfl⟩ : r' = r ∧ a' = a := by simpa [calls] using he
    obtain rfl : 614400 = size := by simpa [a, answers] using hsize
    decide
  · rintro e he num rfl
    obtain rfl : num = 4 := by simpa [calls] using he
    decide
  · refine ⟨fun v _ => trivial, fun v hv _ => ⟨fun _ _ => ⟨rfl, rfl⟩, fun hk => ?_⟩,
      fun v _ _ _ => ⟨rfl, rfl⟩, trivial⟩
    obtain rfl := Option.some.inj hv
    cases hk

end ImxHal.CameraStream
