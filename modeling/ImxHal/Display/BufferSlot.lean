import ImxHal.Schemes.Run

/-! @src display/display/Display.cpp, display/display/DisplayHal.cpp | name:BufferSlot | scheme:run |
    family:producer-consumer

    A hardware layer owns a `BufferSlot`: producers take a slot with `getFreeSlot` (`DisplayHal::
    getSlot`), fill its buffer and queue it with `addPresentSlot` (`DisplayHal::presentLayer`); the
    vsync thread takes the oldest queued slot with `getPresentSlot` and returns the slot shown
    before it to the free list.

        mFreeSlot ──getFreeSlot──▶ held by a producer ──addPresentSlot──▶ mPresentSlot
            ▲                                                                 │
            └──────── (signal) ──── mLastPresent ◀──────getPresentSlot────────┘

    Every method runs under `mLock`, so an interleaving is a list of whole critical sections. The
    one method with two of them is `getFreeSlot`: on an empty list it releases the lock inside
    `mCondition.wait` and goes on when it is woken, WITHOUT testing the list again. -/

namespace ImxHal.SlotQueue
open ImxHal.Run

/-- `BufferSlot::MAX_COUNT`. -/
def MAX_COUNT : ℕ := 32

/-- A `native_handle` of a graphic buffer, by identity. -/
abbrev Memory := ℕ

structure BufferSlot where
  mFreeSlot : List ℤ
  mPresentSlot : List ℤ
  mLastPresent : ℤ
  mPresentTotal : ℤ
  mBuffers : ℤ → Option Memory

/-- The constructor: `min count MAX_COUNT` free slots, nothing presented yet. -/
def BufferSlot.new (count : ℕ) : BufferSlot where
  mFreeSlot := (List.range (min count MAX_COUNT)).map Int.ofNat
  mPresentSlot := []
  mLastPresent := -1
  mPresentTotal := 0
  mBuffers := fun _ => none

/-- The end of `getFreeSlot`, after its `if`: read and erase `mFreeSlot.begin()`. `none` is the
    undefined read past the end of an empty list. -/
def BufferSlot.takeFront (q : BufferSlot) : Option (ℤ × BufferSlot) :=
  match q.mFreeSlot with
  | [] => none
  | slot :: rest => some (slot, { q with mFreeSlot := rest })

/-- The checks of `addPresentSlot` before it takes the lock. -/
def accepts (slot : ℤ) (buffer : Option Memory) : Bool :=
  !(slot < 0 || slot ≥ MAX_COUNT || buffer.isNone)

def BufferSlot.addPresentSlot (q : BufferSlot) (slot : ℤ) (buffer : Option Memory) : BufferSlot :=
  if accepts slot buffer then
    { q with
      mPresentSlot := q.mPresentSlot ++ [slot]
      mPresentTotal := q.mPresentTotal + 1
      mBuffers := if q.mBuffers slot = none then Function.update q.mBuffers slot buffer
        else q.mBuffers }
  else q

/-- `getPresentSlot`: the slot to show, and the queue after it. -/
def BufferSlot.getPresentSlot (q : BufferSlot) : ℤ × BufferSlot :=
  match q.mPresentSlot with
  | [] => (q.mLastPresent, q)
  | slot :: rest =>
    (slot, { q with
      mPresentSlot := rest
      mFreeSlot := if q.mLastPresent ≠ -1 then q.mFreeSlot ++ [q.mLastPresent] else q.mFreeSlot
      mLastPresent := slot })

/-- The queue together with its producers: who holds which slot, who sleeps in `mCondition.wait`,
    and whether some producer has read past the end of the free list. -/
structure Sys where
  queue : BufferSlot
  held : List (ℕ × ℤ)
  waiting : List ℕ
  fault : Bool

inductive Act where
  | getFreeSlot (p : ℕ)
  | wakeUp (p : ℕ)
  | addPresentSlot (p : ℕ) (slot : ℤ) (buffer : Option Memory)
  | getPresentSlot

/-- Producer `p` takes the front of the free list and leaves `getFreeSlot`. -/
def Sys.take (s : Sys) (p : ℕ) : Sys :=
  match s.queue.takeFront with
  | none => { s with fault := true }
  | some (slot, q) => { s with queue := q, held := (p, slot) :: s.held }

/-- One critical section. A sleeping producer makes no calls, a wake-up (signalled or spurious)
    reaches a sleeping one, and a producer presents only a slot it holds; any other action is not
    taken. A present that `addPresentSlot` refuses leaves the slot with its producer. -/
def step (s : Sys) : Act → Sys
  | .getFreeSlot p =>
    if p ∈ s.waiting then s
    else if s.queue.mFreeSlot.isEmpty then { s with waiting := p :: s.waiting }
    else s.take p
  | .wakeUp p =>
    if p ∈ s.waiting then { s with waiting := s.waiting.erase p }.take p else s
  | .addPresentSlot p slot buffer =>
    if (p, slot) ∈ s.held ∧ p ∉ s.waiting ∧ accepts slot buffer then
      { s with
        queue := s.queue.addPresentSlot slot buffer
        held := s.held.erase (p, slot) }
    else s
  | .getPresentSlot => { s with queue := s.queue.getPresentSlot.2 }

def init (count : ℕ) : Sys := ⟨BufferSlot.new count, [], [], false⟩

/-- The last presented slot, as a list of at most one slot. -/
def BufferSlot.last (q : BufferSlot) : List ℤ := if q.mLastPresent = -1 then [] else [q.mLastPresent]

/-- All slots, place by place. -/
def Sys.places (s : Sys) : List ℤ :=
  s.queue.mFreeSlot ++ (s.queue.mPresentSlot ++ (s.queue.last ++ s.held.map Prod.snd))

/-- The four places hold each of the slots `0 .. min count MAX_COUNT - 1` exactly once, and no
    producer has read past the end of the free list. -/
def Safe (count : ℕ) (s : Sys) : Prop :=
  s.places.Perm ((List.range (min count MAX_COUNT)).map Int.ofNat) ∧ s.fault = false

instance (count : ℕ) (s : Sys) : Decidable (Safe count s) :=
  inferInstanceAs (Decidable (_ ∧ _))

/-- A producer that slept in `mCondition.wait` goes on only while a slot is free. -/
def WakesToFree (s : Sys) : Act → Prop
  | .wakeUp p => p ∈ s.waiting → s.queue.mFreeSlot ≠ []
  | _ => True

/-! ### One critical section moves at most one slot -/

theorem take_none {s : Sys} {p : ℕ} (h : s.queue.mFreeSlot = []) : (s.take p).fault = true := by
  simp [Sys.take, BufferSlot.takeFront, h]

/-- Taking the front of a nonempty free list moves that slot to the producer. -/
theorem take_safe {count : ℕ} {s : Sys} (p : ℕ) (h : s.queue.mFreeSlot ≠ []) (hs : Safe count s) :
    Safe count (s.take p) := by
  obtain ⟨hp, hf⟩ := hs
  obtain ⟨slot, rest, hq⟩ := List.exists_cons_of_ne_nil h
  have htake : s.take p = { s with
      queue := { s.queue with mFreeSlot := rest }, held := (p, slot) :: s.held } := by
    simp [Sys.take, BufferSlot.takeFront, hq]
  rw [htake]
  refine ⟨List.Perm.trans ?_ hp, hf⟩
  simp only [Sys.places, BufferSlot.last, hq, List.map_cons, List.cons_append]
  rw [← List.append_assoc, ← List.append_assoc, ← List.append_assoc, ← List.append_assoc]
  exact List.perm_middle

/-- Presenting a held slot moves it from the producer to the end of the present queue. -/
theorem addPresentSlot_safe {count : ℕ} {s : Sys} {p : ℕ} {slot : ℤ} {buffer : Option Memory}
    (hheld : (p, slot) ∈ s.held) (hacc : accepts slot buffer = true) (hs : Safe count s) :
    Safe count { s with
      queue := s.queue.addPresentSlot slot buffer, held := s.held.erase (p, slot) } := by
  obtain ⟨hp, hf⟩ := hs
  refine ⟨List.Perm.trans ?_ hp, hf⟩
  have hh : (s.held.map Prod.snd).Perm (slot :: (s.held.erase (p, slot)).map Prod.snd) := by
    simpa using (List.perm_cons_erase hheld).map Prod.snd
  simp only [Sys.places, BufferSlot.addPresentSlot, hacc, if_true, BufferSlot.last,
    List.append_assoc, List.singleton_append]
  refine List.Perm.append_left _ (List.Perm.append_left _ ?_)
  exact List.perm_middle.symm.trans (List.Perm.append_left _ hh.symm)

/-- Showing the next slot frees the one shown before it. -/
theorem getPresentSlot_safe {count : ℕ} {s : Sys} (hs : Safe count s) :
    Safe count { s with queue := s.queue.getPresentSlot.2 } := by
  obtain ⟨hp, hf⟩ := hs
  refine ⟨List.Perm.trans ?_ hp, hf⟩
  cases hq : s.queue.mPresentSlot with
  | nil => simp only [Sys.places, BufferSlot.getPresentSlot, hq]; exact List.Perm.refl _
  | cons slot rest =>
    have hslot : slot ≠ -1 := by
      have hmem : slot ∈ s.places := by simp [Sys.places, hq]
      have := hp.mem_iff.mp hmem
      rw [List.mem_map] at this
      obtain ⟨n, -, rfl⟩ := this
      simp
    by_cases hl : s.queue.mLastPresent = -1
    · simp only [Sys.places, BufferSlot.getPresentSlot, BufferSlot.last, hq, hl, hslot, if_true,
        if_false, ne_eq, not_true_eq_false, List.nil_append, List.cons_append]
      exact List.Perm.append_left _ List.perm_middle
    · simp only [Sys.places, BufferSlot.getPresentSlot, BufferSlot.last, hq, hl, hslot, if_false,
        ne_eq, not_false_eq_true, if_true, List.append_assoc,
        List.cons_append]
      refine List.Perm.append_left _ ?_
      refine (List.Perm.cons _ List.perm_middle).trans ?_
      exact (List.Perm.swap _ _ _).trans (List.Perm.cons _ List.perm_middle.symm)

/-- Changing who sleeps moves no slot. -/
theorem waiting_safe {count : ℕ} {s : Sys} (w : List ℕ) (hs : Safe count s) :
    Safe count { s with waiting := w } := hs

/-- Every critical section keeps the slots safe, but for a wake-up to an empty free list. -/
theorem step_safe {count : ℕ} (s : Sys) (a : Act) (hs : Safe count s) (hc : WakesToFree s a) :
    Safe count (step s a) := by
  cases a with
  | getFreeSlot p =>
    simp only [step]
    split
    · exact hs
    · split
      · exact waiting_safe _ hs
      · next hne => exact take_safe p (by simpa using hne) hs
  | wakeUp p =>
    simp only [step]
    split
    · next hw =>
      exact take_safe (s := { s with waiting := s.waiting.erase p }) p (hc hw) (waiting_safe _ hs)
    · exact hs
  | addPresentSlot p slot buffer =>
    simp only [step]
    split
    · next h => exact addPresentSlot_safe h.1 h.2.2 hs
    · exact hs
  | getPresentSlot => exact getPresentSlot_safe hs

/-- A wake-up to an empty free list reads past its end. -/
theorem wakes_of_safe {count : ℕ} (s : Sys) (a : Act) (h : Safe count (step s a)) :
    WakesToFree s a := by
  cases a with
  | wakeUp p =>
    intro hw hfree
    have hfault : (step s (.wakeUp p)).fault = true := by
      simp only [step, if_pos hw]
      exact take_none hfree
    rw [h.2] at hfault
    exact Bool.noConfusion hfault
  | _ => trivial

theorem init_safe (count : ℕ) : Safe count (init count) := by
  refine ⟨?_, rfl⟩
  simp [Sys.places, init, BufferSlot.new, BufferSlot.last]

/-- CORRECT: for any number of producers and any interleaving, the slots stay partitioned and no
    producer reads past the end of the free list, exactly when every producer that slept in
    `mCondition.wait` goes on while a slot is free. -/
theorem slots_partitioned_iff (count : ℕ) (as : List Act) :
    Always step (fun _ _ t => Safe count t) (init count) as
      ↔ Meets step WakesToFree (init count) as :=
  always_iff_meets (fun s a hs hc => ⟨step_safe s a hs hc, step_safe s a hs hc⟩)
    (fun s a _ hp => wakes_of_safe s a hp) as _ (init_safe count)

/-- Producer 0 sleeps, a slot is freed and signalled, producer 1 takes it, and producer 0 wakes up
    to an empty free list. -/
theorem stolen_wakeup :
    ¬ ∀ (count : ℕ) (as : List Act),
      Always step (fun _ _ t => Safe count t) (init count) as := by
  intro h
  have hrun := h 2 [.getFreeSlot 0, .getFreeSlot 1, .addPresentSlot 1 1 (some 7),
    .addPresentSlot 0 0 (some 8), .getPresentSlot, .getFreeSlot 0, .getPresentSlot,
    .getFreeSlot 1, .wakeUp 0]
  revert hrun
  decide

end ImxHal.SlotQueue
