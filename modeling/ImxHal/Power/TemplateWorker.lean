import ImxHal.Schemes.Ledger
import ImxHal.Power.WorkerPool

/-! @src power/BackgroundWorker.h | name:TemplatePriorityQueueWorker | scheme:run, ledger |
    family:two-step call

    `schedule` stores the package under a new id, and then hands the id to the pool:

        lock: ++mPackageIdCounter, mPackages[mPackageIdCounter] = package      (insert)
        unlocked: pool.schedule(mPackageIdCounter, deadline)                   (hand-over)
        pool thread: process(packageId): take mPackages[packageId], callback   (process)

    The hand-over reads the counter AGAIN. Between the two steps of one caller another caller may have
    inserted, and the id handed over is then that of the other package. -/

namespace ImxHal.Power
open ImxHal.Run ImxHal.Ledger

variable {α : Type}

/-- A call of `schedule` between its two steps: which call it is, and the time it was given. -/
structure Pending where
  call : ℕ
  deadline : Time

structure TemplateWorker (α : Type) where
  mCallbackId : ℤ
  pool : Pool
  mPackageIdCounter : ℕ
  mPackages : ℕ → Option α
  pending : List Pending
  /-- The calls of `schedule` so far, with their packages and times. -/
  calls : List (α × Time)
  /-- What the callback was given, under which id and when; newest first. -/
  given : List (ℕ × α × Time)

namespace TemplateWorker

def start (mCallbackId : ℤ) (now : Time) (threadCount : ℕ) : TemplateWorker α :=
  ⟨mCallbackId, .start now threadCount, 0, fun _ => none, [], [], []⟩

/-- The locked part of `schedule`. -/
def insert (s : TemplateWorker α) (package : α) (t : Time) : TemplateWorker α :=
  let id := s.mPackageIdCounter + 1
  { s with
    mPackageIdCounter := id
    mPackages := if (s.mPackages id).isSome then s.mPackages
      else Function.update s.mPackages id (some package)
    pending := s.pending ++ [⟨s.calls.length, t⟩]
    calls := s.calls ++ [(package, t)] }

/-- The rest of `schedule`, for the call at place `i`. -/
def handOver (s : TemplateWorker α) (i : ℕ) : TemplateWorker α :=
  match s.pending[i]? with
  | none => s
  | some c => { s with
      pool := s.pool.schedule ⟨c.deadline, s.mCallbackId, s.mPackageIdCounter⟩
      pending := s.pending.eraseIdx i }

/-- Thread `w` of the pool calls back with the package it has popped. -/
def process (s : TemplateWorker α) (w : ℕ) : TemplateWorker α :=
  match s.pool.mThreadPool[w]? with
  | some (.busy p) =>
    let s' := { s with pool := s.pool.finish w }
    if p.templateQueueWorkerId = s.mCallbackId then
      match s.mPackages p.packageId with
      | none => s'
      | some package => { s' with
          mPackages := Function.update s.mPackages p.packageId none
          given := (p.packageId, package, s.pool.now) :: s.given }
    else s'
  | _ => s

end TemplateWorker

inductive WorkerAct (α : Type) where
  | insert (package : α) (t : Time)
  | handOver (i : ℕ)
  | loop (a : LoopAct)
  | process (w : ℕ)

def TemplateWorker.step (s : TemplateWorker α) : WorkerAct α → TemplateWorker α
  | .insert package t => s.insert package t
  | .handOver i => s.handOver i
  | .loop a => { s with pool := s.pool.loopStep a }
  | .process w => s.process w

/-! ### The law -/

/-- The call a package of the pool stands for: the first call has the id 1. -/
def Package.call (p : Package) : ℕ := p.packageId - 1

/-- All places a call can be in: between its steps, in the queue, in the hands of a thread, done. -/
def TemplateWorker.places (s : TemplateWorker α) : List ℕ :=
  s.pending.map Pending.call ++ (s.pool.mPackageQueue.map Package.call ++
    (s.pool.held.map Package.call ++ s.given.map fun g => g.1 - 1))

/-- Every call is in exactly one place; what the callback was given is the package of its call, not
    before its time, and nothing is in the hands of a thread before its time. -/
structure Once (s : TemplateWorker α) : Prop where
  placed : Balanced s.places s.calls.length
  right : ∀ g ∈ s.given, ∃ call d, g.1 = call + 1 ∧ s.calls[call]? = some (g.2.1, d) ∧ d ≤ g.2.2
  due : ∀ p ∈ s.pool.held, p.deadline ≤ s.pool.now

/-- A hand-over comes before the next insert, and the pool is timely. -/
def HandsOver (s : TemplateWorker α) : WorkerAct α → Prop
  | .handOver i => ∀ c, s.pending[i]? = some c → s.mPackageIdCounter = c.call + 1
  | .loop a => Timely s.pool a
  | _ => True

/-- The invariant of the runs: besides, each package on its way is stored under its id, and goes
    with the time of its call. -/
structure Tracked (s : TemplateWorker α) : Prop extends Once s where
  counter : s.mPackageIdCounter = s.calls.length
  unused : ∀ id, s.mPackageIdCounter < id → s.mPackages id = none
  waiting : ∀ c ∈ s.pending, ∃ a, s.calls[c.call]? = some (a, c.deadline) ∧
    s.mPackages (c.call + 1) = some a
  moving : ∀ p ∈ s.pool.mPackageQueue ++ s.pool.held, p.templateQueueWorkerId = s.mCallbackId ∧
    p.packageId = p.call + 1 ∧ ∃ a, s.calls[p.call]? = some (a, p.deadline) ∧
      s.mPackages p.packageId = some a

/-! ### What each step does to the ledger -/

section Steps

variable {s : TemplateWorker α}

theorem count_places (s : TemplateWorker α) (n : ℕ) : s.places.count n =
    (s.pending.map Pending.call).count n + (s.pool.mPackageQueue.map Package.call).count n +
      (s.pool.held.map Package.call).count n + (s.given.map fun g => g.1 - 1).count n := by
  simp only [TemplateWorker.places, List.count_append]
  omega

/-- The calls that were there keep their numbers. -/
theorem calls_append {calls : List (α × Time)} {k : ℕ} {x y : α × Time} (h : calls[k]? = some x) :
    (calls ++ [y])[k]? = some x := by
  rw [List.getElem?_append_left (List.getElem?_eq_some_iff.mp h).1, h]

theorem tracked_insert (h : Tracked s) (package : α) (t : Time) : Tracked (s.insert package t) := by
  have hfresh := h.unused (s.mPackageIdCounter + 1) (Nat.lt_succ_self _)
  have hstore : (s.insert package t).mPackages =
      Function.update s.mPackages (s.mPackageIdCounter + 1) (some package) := by
    simp [TemplateWorker.insert, hfresh]
  have hcalls : (s.insert package t).calls = s.calls ++ [(package, t)] := rfl
  -- an id of an earlier call is not the new one
  have hold : ∀ {k : ℕ} {x : α × Time}, s.calls[k]? = some x → k + 1 ≠ s.mPackageIdCounter + 1 := by
    intro k x hk
    have hlt := (List.getElem?_eq_some_iff.mp hk).1
    have hcounter := h.counter
    omega
  refine ⟨⟨?_, ?_, h.due⟩, ?_, ?_, ?_, ?_⟩
  · have halloc := balanced_alloc 1 h.placed
    rw [hcalls, List.length_append]
    refine balanced_congr halloc fun n => ?_
    have hpending : (s.insert package t).pending.map Pending.call =
        s.pending.map Pending.call ++ [s.calls.length] := by
      simp [TemplateWorker.insert]
    rw [List.count_append, count_places, count_places, hpending, List.count_append]
    change _ + (s.pool.mPackageQueue.map Package.call).count n +
      (s.pool.held.map Package.call).count n + (s.given.map fun g => g.1 - 1).count n =
        [s.calls.length].count n + _
    omega
  · intro g hg
    obtain ⟨call, d, hid, hcall, hle⟩ := h.right g hg
    exact ⟨call, d, hid, calls_append hcall, hle⟩
  · rw [hcalls, List.length_append, ← h.counter]
    rfl
  · intro id hid
    have hlt : s.mPackageIdCounter + 1 < id := hid
    rw [hstore, Function.update_of_ne hlt.ne']
    exact h.unused id (by omega)
  · intro c hc
    rcases List.mem_append.mp hc with hc | hc
    · obtain ⟨a, hcall, hpack⟩ := h.waiting c hc
      refine ⟨a, calls_append hcall, ?_⟩
      rw [hstore, Function.update_of_ne (hold hcall), hpack]
    · rw [List.mem_singleton.mp hc]
      refine ⟨package, by simp [hcalls], ?_⟩
      rw [hstore, h.counter, Function.update_self]
  · intro p hp
    obtain ⟨hworker, hid, a, hcall, hpack⟩ := h.moving p hp
    refine ⟨hworker, hid, a, calls_append hcall, ?_⟩
    rw [hstore, Function.update_of_ne (by rw [hid]; exact hold hcall), hpack]

/-- A hand-over at the right time moves its call into the queue. -/
theorem tracked_handOver (h : Tracked s) (i : ℕ)
    (hright : ∀ c, s.pending[i]? = some c → s.mPackageIdCounter = c.call + 1) :
    Tracked (s.handOver i) := by
  unfold TemplateWorker.handOver
  cases hc : s.pending[i]? with
  | none => exact h
  | some c =>
    have hid := hright c hc
    obtain ⟨a, hcall, hpack⟩ := h.waiting c (List.mem_of_getElem? hc)
    refine ⟨⟨?_, h.right, h.due⟩, h.counter, h.unused, ?_, ?_⟩
    · refine balanced_congr h.placed fun n => ?_
      have hperm := (List.getElem_cons_eraseIdx_perm (List.getElem?_eq_some_iff.mp hc).1).map
        Pending.call
      rw [(List.getElem?_eq_some_iff.mp hc).2] at hperm
      have hcount := hperm.count_eq n
      have hqueue : Package.call ⟨c.deadline, s.mCallbackId, s.mPackageIdCounter⟩ = c.call := by
        simp [Package.call, hid]
      rw [count_places, count_places]
      simp only [Pool.schedule, List.map_cons, List.count_cons, hqueue] at hcount ⊢
      change _ + _ + (s.pool.held.map Package.call).count n + _ = _
      omega
    · intro c' hc'
      exact h.waiting c' (List.mem_of_mem_eraseIdx hc')
    · intro p hp
      rcases List.mem_append.mp hp with hp | hp
      · rcases List.mem_cons.mp hp with rfl | hp
        · exact ⟨rfl, by simp [Package.call, hid], a, by simpa [Package.call, hid] using hcall,
            by rw [hid]; exact hpack⟩
        · exact h.moving p (List.mem_append_left _ hp)
      · exact h.moving p (List.mem_append_right _ hp)

/-- A timely step of the pool moves a package that is due from the queue to a thread, if any. -/
theorem tracked_loop (h : Tracked s) (a : LoopAct) (ha : Timely s.pool a) :
    Tracked { s with pool := s.pool.loopStep a } := by
  rcases loopStep_cases s.pool a with hquiet | ⟨p, hpops, hdue⟩
  · refine ⟨⟨?_, h.right, ?_⟩, h.counter, h.unused, h.waiting, ?_⟩
    · refine balanced_congr h.placed fun n => ?_
      rw [count_places, count_places, hquiet.queue, (hquiet.held.map Package.call).count_eq n]
    · intro p hp
      exact (h.due p (hquiet.held.mem_iff.mp hp)).trans hquiet.now
    · intro p hp
      refine h.moving p ?_
      rw [hquiet.queue] at hp
      exact (List.Perm.append_left _ hquiet.held).mem_iff.mp hp
  · have hp := hpops.head
    refine ⟨⟨?_, h.right, ?_⟩, h.counter, h.unused, h.waiting, ?_⟩
    · refine balanced_congr h.placed fun n => ?_
      have hqueue := ((List.perm_cons_erase hp).map Package.call).count_eq n
      rw [count_places, count_places, hpops.queue, (hpops.held.map Package.call).count_eq n]
      simp only [List.map_cons, List.count_cons] at hqueue ⊢
      omega
    · intro q hq
      dsimp only
      rw [hpops.now]
      rcases List.mem_cons.mp (hpops.held.mem_iff.mp hq) with rfl | hq
      · exact hdue ha
      · exact h.due q hq
    · intro q hq
      refine h.moving q ?_
      rcases List.mem_append.mp hq with hq | hq
      · rw [hpops.queue] at hq
        exact List.mem_append_left _ (List.mem_of_mem_erase hq)
      · rcases List.mem_cons.mp (hpops.held.mem_iff.mp hq) with rfl | hq
        · exact List.mem_append_left _ hp
        · exact List.mem_append_right _ hq

/-- What is left when a thread lets go of `p`: the call of `p` is in no second place. -/
theorem apart_of_held (h : Tracked s) {p : Package} {held : List Package}
    (hheld : (p :: held).Perm s.pool.held) :
    p.call ∉ s.pending.map Pending.call ∧ p.call ∉ s.pool.mPackageQueue.map Package.call ∧
      p.call ∉ held.map Package.call := by
  have hp : p ∈ s.pool.held := hheld.mem_iff.mp List.mem_cons_self
  obtain ⟨-, -, a, hcall, -⟩ := h.moving p (List.mem_append_right _ hp)
  have htotal := h.placed p.call
  rw [count_places, ← (hheld.map Package.call).count_eq, List.map_cons, List.count_cons_self,
    if_pos (List.getElem?_eq_some_iff.mp hcall).1] at htotal
  simp only [← List.count_eq_zero]
  omega

/-- A package in the hands of a thread is given to the callback. -/
theorem process_busy (h : Tracked s) {w : ℕ} {p : Package}
    (hw : s.pool.mThreadPool[w]? = some (.busy p)) :
    ∃ a, s.calls[p.call]? = some (a, p.deadline) ∧ p.packageId = p.call + 1 ∧
      p.deadline ≤ s.pool.now ∧ s.process w = { s with
        pool := s.pool.finish w
        mPackages := Function.update s.mPackages p.packageId none
        given := (p.packageId, a, s.pool.now) :: s.given } := by
  have hp : p ∈ s.pool.held := (held_finish hw).mem_iff.mp List.mem_cons_self
  obtain ⟨hworker, hid, a, hcall, hpack⟩ := h.moving p (List.mem_append_right _ hp)
  refine ⟨a, hcall, hid, h.due p hp, ?_⟩
  simp only [TemplateWorker.process, hw, hworker, hpack, if_true]

theorem tracked_given (h : Tracked s) {w : ℕ} {p : Package} {a : α}
    (hw : s.pool.mThreadPool[w]? = some (.busy p)) (hcall : s.calls[p.call]? = some (a, p.deadline))
    (hid : p.packageId = p.call + 1) (hdue : p.deadline ≤ s.pool.now) :
    Tracked { s with
      pool := s.pool.finish w
      mPackages := Function.update s.mPackages p.packageId none
      given := (p.packageId, a, s.pool.now) :: s.given } := by
  have hheld := held_finish hw
  obtain ⟨hpending, hqueue, hrest⟩ := apart_of_held h hheld
  have hkeep : ∀ {call : ℕ} {x : Option α}, call ≠ p.call → s.mPackages (call + 1) = x →
      Function.update s.mPackages p.packageId none (call + 1) = x := by
    intro call x hne hx
    rw [Function.update_of_ne (by omega), hx]
  refine ⟨⟨?_, ?_, ?_⟩, h.counter, ?_, ?_, ?_⟩
  · refine balanced_congr h.placed fun n => ?_
    have hcount := (hheld.map Package.call).count_eq n
    rw [count_places, count_places]
    simp only [Pool.finish_queue, List.map_cons, List.count_cons, hid, Nat.add_sub_cancel] at hcount ⊢
    omega
  · intro g hg
    rcases List.mem_cons.mp hg with rfl | hg
    · exact ⟨p.call, p.deadline, hid, hcall, hdue⟩
    · exact h.right g hg
  · intro q hq
    simp only [Pool.finish_now]
    exact h.due q (hheld.mem_iff.mp (List.mem_cons_of_mem p hq))
  · intro id hlt
    by_cases hsame : id = p.packageId
    · simp [hsame]
    · simpa [hsame] using h.unused id hlt
  · intro c hc
    obtain ⟨b, hcalled, hstored⟩ := h.waiting c hc
    refine ⟨b, hcalled, hkeep ?_ hstored⟩
    intro hsame
    exact hpending (hsame ▸ List.mem_map_of_mem hc)
  · intro q hq
    simp only [Pool.finish_queue] at hq
    have hne : q.call ≠ p.call := by
      intro hsame
      rcases List.mem_append.mp hq with hq | hq
      · exact hqueue (hsame ▸ List.mem_map_of_mem hq)
      · exact hrest (hsame ▸ List.mem_map_of_mem hq)
    have hbefore : q ∈ s.pool.mPackageQueue ++ s.pool.held := by
      rcases List.mem_append.mp hq with hq | hq
      · exact List.mem_append_left _ hq
      · exact List.mem_append_right _ (hheld.mem_iff.mp (List.mem_cons_of_mem p hq))
    obtain ⟨hworker, hid', b, hcalled, hstored⟩ := h.moving q hbefore
    rw [hid'] at hstored
    refine ⟨hworker, hid', b, hcalled, ?_⟩
    rw [hid']
    exact hkeep hne hstored

theorem tracked_process (h : Tracked s) (w : ℕ) : Tracked (s.process w) := by
  cases hw : s.pool.mThreadPool[w]? with
  | none => simpa only [TemplateWorker.process, hw] using h
  | some worker =>
    cases worker with
    | loop => simpa only [TemplateWorker.process, hw] using h
    | waiting _ => simpa only [TemplateWorker.process, hw] using h
    | stopped => simpa only [TemplateWorker.process, hw] using h
    | busy p =>
      obtain ⟨a, hcall, hid, hdue, hstep⟩ := process_busy h hw
      rw [hstep]
      exact tracked_given h hw hcall hid hdue

theorem tracked_step (h : Tracked s) (a : WorkerAct α) (ha : HandsOver s a) :
    Tracked (s.step a) := by
  cases a with
  | insert package t => exact tracked_insert h package t
  | handOver i => exact tracked_handOver h i ha
  | loop a => exact tracked_loop h a ha
  | process w => exact tracked_process h w

/-- A hand-over after another insert loses its call, and an untimely step of the pool hands out a
    package too early. -/
theorem handsOver_of_once (h : Tracked s) (a : WorkerAct α) (hnext : Once (s.step a)) :
    HandsOver s a := by
  cases a with
  | handOver i =>
    intro c hc
    by_contra hother
    have hstep : s.step (.handOver i) = { s with
        pool := s.pool.schedule ⟨c.deadline, s.mCallbackId, s.mPackageIdCounter⟩
        pending := s.pending.eraseIdx i } := by
      simp only [TemplateWorker.step, TemplateWorker.handOver, hc]
    obtain ⟨hlt, hget⟩ := List.getElem?_eq_some_iff.mp hc
    obtain ⟨a, hcall, -⟩ := h.waiting c (List.mem_of_getElem? hc)
    have hnumber := (List.getElem?_eq_some_iff.mp hcall).1
    have hcounter := h.counter
    have hbefore := h.placed c.call
    have hafter := hnext.placed c.call
    have hperm := ((List.getElem_cons_eraseIdx_perm hlt).map Pending.call).count_eq c.call
    rw [hget, List.map_cons, List.count_cons_self] at hperm
    have hheld : ∀ q, (s.pool.schedule q).held = s.pool.held := fun _ => rfl
    have hqueue : Package.call ⟨c.deadline, s.mCallbackId, s.mPackageIdCounter⟩ ≠ c.call := by
      simp only [Package.call]
      omega
    rw [hstep] at hafter
    rw [count_places, if_pos hnumber] at hbefore hafter
    dsimp only at hafter
    rw [hheld, Pool.schedule, List.map_cons, List.count_cons_of_ne hqueue] at hafter
    omega
  | loop a =>
    refine timely_of_due a fun p hpops => ?_
    have hdue := hnext.due p (hpops.held.mem_iff.mpr List.mem_cons_self)
    exact hdue.trans hpops.now.le
  | _ => trivial

end Steps

/-! ### Nothing is kept back -/

/-- The steps of the pool's threads and of the clock. -/
def WorkerAct.work : WorkerAct α → Prop
  | .loop _ | .process _ => True
  | _ => False

section Drain

variable {s : TemplateWorker α} {n : ℕ}

theorem alive_worker_step (h : Alive n s.pool) (a : WorkerAct α) : Alive n (s.step a).pool := by
  cases a with
  | insert package t => exact h
  | handOver i =>
    unfold TemplateWorker.step TemplateWorker.handOver
    dsimp only
    split
    · exact h
    · exact ⟨h.threads, h.running⟩
  | loop a => exact alive_loopStep h a
  | process w =>
    unfold TemplateWorker.step TemplateWorker.process
    dsimp only
    split
    · split
      · split
        · exact alive_finish h w
        · exact alive_finish h w
      · exact alive_finish h w
    · exact h

/-- Work does not make calls. -/
theorem work_calls {a : WorkerAct α} (ha : a.work) (s : TemplateWorker α) :
    (s.step a).calls = s.calls ∧ (s.step a).pending = s.pending := by
  cases a with
  | insert package t => cases ha
  | handOver i => cases ha
  | loop a => exact ⟨rfl, rfl⟩
  | process w =>
    unfold TemplateWorker.step TemplateWorker.process
    dsimp only
    split
    · split
      · split <;> exact ⟨rfl, rfl⟩
      · exact ⟨rfl, rfl⟩
    · exact ⟨rfl, rfl⟩

/-- What is still to be popped or given; a pop is half the way. -/
def TemplateWorker.left (s : TemplateWorker α) : ℕ :=
  2 * s.pool.mPackageQueue.length + s.pool.held.length

/-- With everything due and a thread there, some step does a part of what is left. -/
theorem exists_work (h : Tracked s) (halive : Alive n s.pool) (hn : 0 < n)
    (hrun : s.pool.mRunning = true) (hdue : ∀ p ∈ s.pool.mPackageQueue, p.deadline ≤ s.pool.now)
    (hleft : s.left ≠ 0) : ∃ a : WorkerAct α, a.work ∧ HandsOver s a ∧ (s.step a).left < s.left ∧
      (s.step a).pool.mRunning = true ∧
        ∀ p ∈ (s.step a).pool.mPackageQueue, p.deadline ≤ (s.step a).pool.now := by
  cases hheld : s.pool.held with
  | nil =>
    have hqueue : s.pool.mPackageQueue ≠ [] := by
      intro hempty
      simp [TemplateWorker.left, hempty, hheld] at hleft
    obtain ⟨a, p, htimely, hpops, hrun'⟩ := exists_pop halive hn hrun hheld hqueue hdue
    refine ⟨.loop a, trivial, htimely, ?_, hrun', ?_⟩
    · have hlen := hpops.held.length_eq
      have herase := List.length_erase_of_mem hpops.head
      have hpos := List.length_pos_of_mem hpops.head
      simp only [TemplateWorker.left, TemplateWorker.step, hpops.queue, hlen, herase,
        List.length_cons]
      omega
    · intro q hq
      dsimp only [TemplateWorker.step] at hq ⊢
      rw [hpops.queue] at hq
      rw [hpops.now]
      exact hdue q (List.mem_of_mem_erase hq)
  | cons p rest =>
    have hp : p ∈ s.pool.held := by rw [hheld]; exact List.mem_cons_self
    obtain ⟨worker, hworker, hbusy⟩ := List.mem_filterMap.mp hp
    obtain ⟨w, hw⟩ := List.mem_iff_getElem?.mp hworker
    have hworker : worker = .busy p := by
      cases worker with
      | busy q => exact congrArg Worker.busy (Option.some.inj hbusy)
      | _ => cases hbusy
    subst hworker
    obtain ⟨a, -, -, -, hstep⟩ := process_busy h hw
    have hpool : (s.step (.process w)).pool = s.pool.finish w := by
      rw [TemplateWorker.step, hstep]
    refine ⟨.process w, trivial, trivial, ?_, ?_, ?_⟩
    · have hlen := (held_finish hw).length_eq
      rw [List.length_cons] at hlen
      rw [TemplateWorker.left, TemplateWorker.left, hpool, Pool.finish_queue]
      omega
    · rw [hpool, Pool.finish_running, hrun]
    · rw [hpool, Pool.finish_queue, Pool.finish_now]
      exact hdue

/-- The work can be brought to an end. The induction is on what is left. -/
theorem exists_drain (h : Tracked s) (halive : Alive n s.pool) (hn : 0 < n)
    (hrun : s.pool.mRunning = true) (hdue : ∀ p ∈ s.pool.mPackageQueue, p.deadline ≤ s.pool.now) :
    ∃ more : List (WorkerAct α), (∀ a ∈ more, a.work) ∧
      Tracked (run TemplateWorker.step s more) ∧ (run TemplateWorker.step s more).left = 0 ∧
        (run TemplateWorker.step s more).calls = s.calls ∧
          (run TemplateWorker.step s more).pending = s.pending := by
  induction hk : s.left using Nat.strong_induction_on generalizing s with
  | _ k ih =>
    by_cases hzero : s.left = 0
    · exact ⟨[], by simp, h, hzero, rfl, rfl⟩
    · obtain ⟨a, hwork, hright, hless, hrun', hdue'⟩ := exists_work h halive hn hrun hdue hzero
      obtain ⟨more, hmore, htracked, hleft, hcalls, hpending⟩ :=
        ih _ (hk ▸ hless) (tracked_step h a hright) (alive_worker_step halive a) hrun' hdue' rfl
      obtain ⟨hc, hp⟩ := work_calls hwork s
      refine ⟨a :: more, ?_, htracked, hleft, hcalls.trans hc, hpending.trans hp⟩
      intro b hb
      rcases List.mem_cons.mp hb with rfl | hb
      · exact hwork
      · exact hmore b hb

/-- With nothing left every call has been given to the callback, once. -/
theorem given_of_left (h : Tracked s) (hleft : s.left = 0) (hpending : s.pending = []) {k : ℕ}
    (hk : k < s.calls.length) : (s.given.map fun g => g.1 - 1).count k = 1 := by
  have hqueue : s.pool.mPackageQueue = [] := by
    rw [← List.length_eq_zero_iff]
    simp only [TemplateWorker.left] at hleft
    omega
  have hheld : s.pool.held = [] := by
    rw [← List.length_eq_zero_iff]
    simp only [TemplateWorker.left] at hleft
    omega
  have hplaced := h.placed k
  rw [count_places, hpending, hqueue, hheld, if_pos hk] at hplaced
  simpa using hplaced

end Drain

theorem tracked_start (mCallbackId : ℤ) (now : Time) (threadCount : ℕ) :
    Tracked (TemplateWorker.start mCallbackId now threadCount : TemplateWorker α) := by
  have hheld : (Pool.start now threadCount).held = [] := by
    refine List.filterMap_eq_nil_iff.mpr fun worker hmem => ?_
    rw [List.eq_of_mem_replicate hmem]
    rfl
  refine ⟨⟨?_, ?_, ?_⟩, rfl, fun _ _ => rfl, ?_, ?_⟩
  · refine balanced_congr balanced_nil fun n => ?_
    rw [count_places]
    simp [TemplateWorker.start, hheld]
    rfl
  · intro g hg
    cases hg
  · intro p hp
    have hp : p ∈ (Pool.start now threadCount).held := hp
    rw [hheld] at hp
    cases hp
  · intro c hc
    cases hc
  · intro p hp
    have hp : p ∈ [] ++ (Pool.start now threadCount).held := hp
    rw [hheld] at hp
    cases hp

theorem alive_start (now : Time) (threadCount : ℕ) : Alive threadCount (.start now threadCount) := by
  refine ⟨List.length_replicate, fun _ hmem => ?_⟩
  cases List.eq_of_mem_replicate hmem

/-- CORRECT: for any number of threads, in every run every package passed to `schedule` is in exactly
    one place and is given to the callback at most once and not before its time, exactly as long as
    each hand-over comes before the next insert and no wait of the pool times out on a head that is
    not due. After such a run, the threads of a running pool can always give every package of the
    calls that have returned to the callback, each exactly once. -/
theorem given_once_iff (mCallbackId : ℤ) (now : Time) (threadCount : ℕ) (as : List (WorkerAct α)) :
    (Always TemplateWorker.step (fun _ _ s => Once s) (.start mCallbackId now threadCount) as ↔
      Meets TemplateWorker.step HandsOver (.start mCallbackId now threadCount) as) ∧
    (Meets TemplateWorker.step HandsOver (.start mCallbackId now threadCount) as → 0 < threadCount →
      (run TemplateWorker.step (.start mCallbackId now threadCount) as).pool.mRunning = true →
      (run TemplateWorker.step (.start mCallbackId now threadCount) as).pending = [] →
      ∃ more, (∀ a ∈ more, a.work) ∧
        Once (run TemplateWorker.step (.start mCallbackId now threadCount) (as ++ more)) ∧
        ∀ k < (run TemplateWorker.step (.start mCallbackId now threadCount) as).calls.length,
          ((run TemplateWorker.step (.start mCallbackId now threadCount) (as ++ more)).given.map
            fun g => g.1 - 1).count k = 1) := by
  have hstart : Tracked (TemplateWorker.start mCallbackId now threadCount : TemplateWorker α) :=
    tracked_start mCallbackId now threadCount
  refine ⟨always_iff_meets (fun s a (h : Tracked s) ha => ?_)
    (fun s a h hnext => handsOver_of_once h a hnext) as _ hstart, ?_⟩
  · have hnext := tracked_step h a ha
    exact ⟨hnext, hnext.toOnce⟩
  · intro hmeets hn hrun hpending
    have htracked := inv_of_meets (fun s a (h : Tracked s) ha => tracked_step h a ha) as _ hstart hmeets
    have halive := run_inv (fun s : TemplateWorker α => Alive threadCount s.pool)
      (C := fun _ => True) (fun s a h _ => alive_worker_step h a) as
      (.start mCallbackId now threadCount) (alive_start now threadCount) fun _ _ => trivial
    obtain ⟨s, hs⟩ : ∃ s, s = run TemplateWorker.step (.start mCallbackId now threadCount) as :=
      ⟨_, rfl⟩
    rw [← hs] at htracked halive hrun hpending ⊢
    -- let the clock run until all that is queued is due
    obtain ⟨time, htime⟩ := ((s.pool.mPackageQueue.map (·.deadline)).toFinset).exists_le
    have hlate : Tracked (s.step (.loop (.tick time))) := tracked_step htracked _ trivial
    have hdue : ∀ p ∈ s.pool.mPackageQueue, p.deadline ≤ max s.pool.now time := by
      intro p hp
      exact (htime p.deadline (List.mem_toFinset.mpr (List.mem_map_of_mem hp))).trans
        (le_max_right _ _)
    obtain ⟨more, hwork, hdone, hleft, hcalls, hpend⟩ :=
      exists_drain hlate (alive_worker_step halive _) hn hrun hdue
    refine ⟨.loop (.tick time) :: more, ?_, ?_, ?_⟩
    · intro a ha
      rcases List.mem_cons.mp ha with rfl | ha
      · trivial
      · exact hwork a ha
    · rw [run_append, ← hs, run_cons]
      exact hdone.toOnce
    · intro k hk
      rw [run_append, ← hs, run_cons]
      exact given_of_left hdone hleft (hpend.trans hpending) (hcalls ▸ hk)

/-- One caller inserts a package due at 10 and hands it over: a single thread can give it. -/
theorem one_call_given : ∃ more : List (WorkerAct String), (∀ a ∈ more, a.work) ∧
    ((run TemplateWorker.step (.start 7 0 1) ([.insert "first" 10, .handOver 0] ++ more)).given.map
      fun g => g.1 - 1).count 0 = 1 := by
  have hmeets : Meets TemplateWorker.step HandsOver (.start 7 0 1)
      [.insert "first" 10, .handOver 0] := by
    refine ⟨trivial, fun c hc => ?_, trivial⟩
    cases hc
    rfl
  obtain ⟨more, hwork, -, hgiven⟩ :=
    (given_once_iff 7 0 1 [.insert "first" 10, .handOver 0]).2 hmeets (by decide) rfl rfl
  exact ⟨more, hwork, hgiven 0 (by decide)⟩

/-- Two callers insert before the first hands over: both hand over the second id, and the package of
    the first caller, due at 10, is never given to the callback. -/
theorem hand_over_swapped :
    ¬ Always TemplateWorker.step (fun _ _ s => Once s) (.start 7 0 1)
      [.insert "first" 10, .insert "second" 100, .handOver 0, .handOver 0] := by
  rintro ⟨-, -, hnext, -⟩
  have hplaced := hnext.placed 0
  revert hplaced
  decide +kernel

end ImxHal.Power
