import Mathlib.Data.Finset.Max
import ImxHal.Power.SessionTaskMap

/-! @src power/BackgroundWorker.cpp, power/BackgroundWorker.h | name:PriorityQueueWorkerPool |
    scheme:run | family:condition variable

    The threads of the pool share one queue, ordered by deadline. Each runs the same loop:

        loop ──lock──▶ wait_until(deadline, ready?) ──▶ pop the head ──unlock──▶ busy ──▶ loop
                          │        ▲
                          └ waiting┘   notified: `ready?` again, with the deadline of the head

    A wait that is notified goes on only if the head is due. A wait that TIMES OUT returns what
    `ready?` says then, and the loop does not look at it: it pops the head there is. Everything
    between two waits runs under `mMutex`, so it is one action here. -/

namespace ImxHal.Power
open ImxHal.Run

structure Package where
  deadline : Time
  templateQueueWorkerId : ℤ
  packageId : ℕ
  deriving DecidableEq

/-- Where a thread of the pool is. A deadline of `none` is `time_point::max()`. -/
inductive Worker where
  | loop
  | waiting (deadline : Option Time)
  | busy (package : Package)
  | stopped
  deriving DecidableEq

structure Pool where
  now : Time
  mRunning : Bool
  mPackageQueue : List Package
  mThreadPool : List Worker
  /-- What has been scheduled, and what has been popped at what time; newest first. -/
  scheduled : List Package
  popped : List (Package × Time)

/-- The packages of a queue with the earliest deadline. -/
def earliest (queue : List Package) : List Package :=
  queue.filter fun p => queue.all fun p' => p.deadline ≤ p'.deadline

/-- `top`: one of the earliest packages. Which one is up to the heap, which `k` stands for. -/
def top (queue : List Package) (k : ℕ) : Option Package :=
  (earliest queue)[k]?.or (earliest queue).head?

/-- The deadline the predicate leaves behind: that of the head. -/
def headDeadline (queue : List Package) : Option Time := (top queue 0).map (·.deadline)

namespace Pool

/-- The constructor. -/
def start (now : Time) (threadCount : ℕ) : Pool :=
  ⟨now, true, [], List.replicate threadCount .loop, [], []⟩

def schedule (s : Pool) (p : Package) : Pool :=
  { s with mPackageQueue := p :: s.mPackageQueue, scheduled := p :: s.scheduled }

/-- The predicate of the wait. -/
def ready (s : Pool) : Bool :=
  !s.mRunning || match headDeadline s.mPackageQueue with
    | none => false
    | some deadline => decide (deadline ≤ s.now)

def setWorker (s : Pool) (w : ℕ) (worker : Worker) : Pool :=
  { s with mThreadPool := s.mThreadPool.set w worker }

/-- The loop after the wait, whatever the wait has returned. -/
def afterWait (s : Pool) (w k : ℕ) : Pool :=
  if !s.mRunning then s.setWorker w .stopped
  else match top s.mPackageQueue k with
    | none => s.setWorker w .loop
    | some p => { s.setWorker w (.busy p) with
        mPackageQueue := s.mPackageQueue.erase p
        popped := (p, s.now) :: s.popped }

/-- One turn of `wait_until`'s own loop: go on if the predicate holds, else wait for the head. -/
def turn (s : Pool) (w k : ℕ) : Pool :=
  if s.ready then s.afterWait w k
  else s.setWorker w (.waiting (headDeadline s.mPackageQueue))

def enter (s : Pool) (w k : ℕ) : Pool :=
  match s.mThreadPool[w]? with
  | some .loop => if s.mRunning then s.turn w k else s.setWorker w .stopped
  | _ => s

def wake (s : Pool) (w k : ℕ) : Pool :=
  match s.mThreadPool[w]? with
  | some (.waiting _) => s.turn w k
  | _ => s

def timeout (s : Pool) (w k : ℕ) : Pool :=
  match s.mThreadPool[w]? with
  | some (.waiting (some deadline)) => if deadline ≤ s.now then s.afterWait w k else s
  | _ => s

/-- The callback of a popped package returns. -/
def finish (s : Pool) (w : ℕ) : Pool :=
  match s.mThreadPool[w]? with
  | some (.busy _) => s.setWorker w .loop
  | _ => s

@[simp] theorem finish_queue (s : Pool) (w : ℕ) : (s.finish w).mPackageQueue = s.mPackageQueue := by
  unfold finish
  split <;> rfl

@[simp] theorem finish_running (s : Pool) (w : ℕ) : (s.finish w).mRunning = s.mRunning := by
  unfold finish
  split <;> rfl

@[simp] theorem finish_now (s : Pool) (w : ℕ) : (s.finish w).now = s.now := by
  unfold finish
  split <;> rfl

end Pool

/-- What can happen to the pool between two calls of `schedule`. -/
inductive LoopAct where
  | tick (time : Time)
  | stop
  | enter (w k : ℕ)
  | wake (w k : ℕ)
  | timeout (w k : ℕ)

def Pool.loopStep (s : Pool) : LoopAct → Pool
  | .tick time => { s with now := max s.now time }
  | .stop => { s with mRunning := false }
  | .enter w k => s.enter w k
  | .wake w k => s.wake w k
  | .timeout w k => s.timeout w k

inductive PoolAct where
  | schedule (p : Package)
  | finish (w : ℕ)
  | loop (a : LoopAct)

def Pool.step (s : Pool) : PoolAct → Pool
  | .schedule p => s.schedule p
  | .finish w => s.finish w
  | .loop a => s.loopStep a

/-- Every scheduled package is in the queue or has been popped, as often as it was scheduled, and
    none was popped before its deadline. -/
structure NoneEarly (s : Pool) : Prop where
  conserved : (s.popped.map Prod.fst ++ s.mPackageQueue).Perm s.scheduled
  due : ∀ entry ∈ s.popped, entry.1.deadline ≤ entry.2

/-- A wait of a running pool that times out finds no package, or one that is due. -/
def Timely (s : Pool) : LoopAct → Prop
  | .timeout w _ => ∀ deadline, s.mThreadPool[w]? = some (.waiting (some deadline)) →
      deadline ≤ s.now → s.mRunning = true → ∀ d ∈ headDeadline s.mPackageQueue, d ≤ s.now
  | _ => True

def TimelyAct (s : Pool) : PoolAct → Prop
  | .loop a => Timely s a
  | _ => True

/-! ### The head of the queue -/

theorem mem_earliest {queue : List Package} {p : Package} :
    p ∈ earliest queue ↔ p ∈ queue ∧ ∀ p' ∈ queue, p.deadline ≤ p'.deadline := by
  simp [earliest]

theorem top_spec {queue : List Package} {k : ℕ} {p : Package} (h : top queue k = some p) :
    p ∈ queue ∧ ∀ p' ∈ queue, p.deadline ≤ p'.deadline := by
  refine mem_earliest.mp ?_
  rcases Option.or_eq_some_iff.mp h with h | ⟨-, h⟩
  · exact List.mem_of_getElem? h
  · exact List.mem_of_head? h

theorem top_eq_none {queue : List Package} {k : ℕ} (h : top queue k = none) : queue = [] := by
  by_contra hne
  obtain ⟨p, hp, hmin⟩ := queue.toFinset.exists_min_image (·.deadline)
    (List.toFinset_nonempty_iff queue |>.mpr hne)
  have hmem : p ∈ earliest queue :=
    mem_earliest.mpr ⟨List.mem_toFinset.mp hp, fun p' hp' => hmin p' (List.mem_toFinset.mpr hp')⟩
  have hnil : earliest queue = [] := List.head?_eq_none_iff.mp (Option.or_eq_none_iff.mp h).2
  rw [hnil] at hmem
  cases hmem

/-- All heads have the same deadline. -/
theorem headDeadline_of_top {queue : List Package} {k : ℕ} {p : Package} (h : top queue k = some p) :
    headDeadline queue = some p.deadline := by
  obtain ⟨hp, hmin⟩ := top_spec h
  unfold headDeadline
  cases h₀ : top queue 0 with
  | none =>
    rw [top_eq_none h₀] at hp
    cases hp
  | some p₀ =>
    obtain ⟨hp₀, hmin₀⟩ := top_spec h₀
    exact congrArg some (le_antisymm (hmin₀ p hp) (hmin p₀ hp₀))

/-- The packages in the hands of the threads. -/
def Worker.package : Worker → Option Package
  | .busy p => some p
  | _ => none

def Pool.held (s : Pool) : List Package := s.mThreadPool.filterMap Worker.package

/-! ### What one step of a thread does -/

/-- Nothing moves: threads change between loop, wait and end, and time may pass. -/
structure Quiet (s s' : Pool) : Prop where
  queue : s'.mPackageQueue = s.mPackageQueue
  scheduled : s'.scheduled = s.scheduled
  popped : s'.popped = s.popped
  now : s.now ≤ s'.now
  held : s'.held.Perm s.held

/-- A head of the queue moves into the hands of a thread. -/
structure Pops (s s' : Pool) (p : Package) : Prop where
  head : p ∈ s.mPackageQueue
  deadline : headDeadline s.mPackageQueue = some p.deadline
  queue : s'.mPackageQueue = s.mPackageQueue.erase p
  scheduled : s'.scheduled = s.scheduled
  popped : s'.popped = (p, s.now) :: s.popped
  now : s'.now = s.now
  held : s'.held.Perm (p :: s.held)

section Steps

variable {s : Pool} {w k : ℕ} {old : Worker}

/-- A thread that changes its state takes its package along. -/
theorem held_setWorker (hw : s.mThreadPool[w]? = some old) (worker : Worker) :
    (old.package.toList ++ (s.setWorker w worker).held).Perm (worker.package.toList ++ s.held) := by
  obtain ⟨hlt, hold⟩ := List.getElem?_eq_some_iff.mp hw
  have hsplit : s.mThreadPool = s.mThreadPool.take w ++ old :: s.mThreadPool.drop (w + 1) := by
    rw [← hold, List.cons_getElem_drop_succ, List.take_append_drop]
  have hset : (s.setWorker w worker).mThreadPool =
      s.mThreadPool.take w ++ worker :: s.mThreadPool.drop (w + 1) :=
    List.set_eq_take_append_cons_drop.trans (if_pos hlt)
  have hcons : ∀ (x : Worker) (xs : List Worker),
      (x :: xs).filterMap Worker.package = x.package.toList ++ xs.filterMap Worker.package := by
    intro x xs
    cases hx : x.package with
    | none => rw [List.filterMap_cons_none hx]; rfl
    | some p => rw [List.filterMap_cons_some hx]; rfl
  have hheld : s.held = (s.mThreadPool.take w).filterMap Worker.package ++
      (old.package.toList ++ (s.mThreadPool.drop (w + 1)).filterMap Worker.package) := by
    rw [Pool.held, ← hcons, ← List.filterMap_append, ← hsplit]
  rw [hheld, Pool.held, hset, List.filterMap_append, hcons]
  rw [List.perm_iff_count]
  intro p
  simp only [List.count_append]
  omega

theorem quiet_setWorker (hw : s.mThreadPool[w]? = some old) (hold : old.package = none)
    {worker : Worker} (hnew : worker.package = none) : Quiet s (s.setWorker w worker) := by
  have hheld := held_setWorker hw worker
  rw [hold, hnew] at hheld
  exact ⟨rfl, rfl, rfl, le_refl _, hheld⟩

/-- A callback that returns lets go of its package, and of nothing else. -/
theorem held_finish {p : Package} (hw : s.mThreadPool[w]? = some (.busy p)) :
    (p :: (s.finish w).held).Perm s.held := by
  have hstep : s.finish w = s.setWorker w .loop := by simp only [Pool.finish, hw]
  rw [hstep]
  exact held_setWorker hw .loop

/-- After a wait the thread of a running pool pops a head, if there is one. -/
theorem afterWait_cases (hw : s.mThreadPool[w]? = some old) (hold : old.package = none) (k : ℕ) :
    (Quiet s (s.afterWait w k) ∧ (s.mRunning = true → s.mPackageQueue = [])) ∨
      (s.mRunning = true ∧ ∃ p, Pops s (s.afterWait w k) p) := by
  unfold Pool.afterWait
  cases hrun : s.mRunning with
  | false => exact Or.inl ⟨quiet_setWorker hw hold rfl, fun h => by cases h⟩
  | true =>
    cases htop : top s.mPackageQueue k with
    | none => exact Or.inl ⟨quiet_setWorker hw hold rfl, fun _ => top_eq_none htop⟩
    | some p =>
      have hheld := held_setWorker hw (.busy p)
      rw [hold] at hheld
      exact Or.inr ⟨rfl, p, (top_spec htop).1, headDeadline_of_top htop, rfl, rfl, rfl, rfl, hheld⟩

/-- A turn of the wait pops only what is due. -/
theorem turn_cases (hw : s.mThreadPool[w]? = some old) (hold : old.package = none) (k : ℕ) :
    Quiet s (s.turn w k) ∨ ∃ p, Pops s (s.turn w k) p ∧ p.deadline ≤ s.now := by
  unfold Pool.turn
  split
  · rename_i hready
    rcases afterWait_cases hw hold k with ⟨hquiet, -⟩ | ⟨hrun, p, hpops⟩
    · exact Or.inl hquiet
    · refine Or.inr ⟨p, hpops, ?_⟩
      simpa [Pool.ready, hrun, hpops.deadline] using hready
  · exact Or.inl (quiet_setWorker hw hold rfl)

/-- A step of the loops pops what is due, if it is timely. -/
theorem loopStep_cases (s : Pool) (a : LoopAct) :
    Quiet s (s.loopStep a) ∨
      ∃ p, Pops s (s.loopStep a) p ∧ (Timely s a → p.deadline ≤ s.now) := by
  have hrefl : Quiet s s := ⟨rfl, rfl, rfl, le_refl _, List.Perm.refl _⟩
  have hturn : ∀ {w k : ℕ} {old : Worker}, s.mThreadPool[w]? = some old → old.package = none →
      ∀ C : Prop, Quiet s (s.turn w k) ∨ ∃ p, Pops s (s.turn w k) p ∧ (C → p.deadline ≤ s.now) := by
    intro w k old hw hold C
    rcases turn_cases hw hold k with hquiet | ⟨p, hpops, hdue⟩
    · exact Or.inl hquiet
    · exact Or.inr ⟨p, hpops, fun _ => hdue⟩
  cases a with
  | tick time => exact Or.inl ⟨rfl, rfl, rfl, le_max_left _ _, List.Perm.refl _⟩
  | stop => exact Or.inl ⟨rfl, rfl, rfl, le_refl _, List.Perm.refl _⟩
  | enter w k =>
    unfold Pool.loopStep Pool.enter
    dsimp only
    split
    · rename_i hw
      split
      · exact hturn hw rfl _
      · exact Or.inl (quiet_setWorker hw rfl rfl)
    · exact Or.inl hrefl
  | wake w k =>
    unfold Pool.loopStep Pool.wake
    dsimp only
    split
    · rename_i hw
      exact hturn hw rfl _
    · exact Or.inl hrefl
  | timeout w k =>
    unfold Pool.loopStep Pool.timeout
    dsimp only
    split
    · rename_i deadline hw
      split
      · rename_i hpassed
        rcases afterWait_cases hw rfl k with ⟨hquiet, -⟩ | ⟨hrun, p, hpops⟩
        · exact Or.inl hquiet
        · refine Or.inr ⟨p, hpops, fun htimely => ?_⟩
          exact htimely deadline hw hpassed hrun p.deadline hpops.deadline
      · exact Or.inl hrefl
    · exact Or.inl hrefl

/-- A wait that times out with a head that is not due pops it all the same. -/
theorem timely_of_due (a : LoopAct)
    (hdue : ∀ p, Pops s (s.loopStep a) p → p.deadline ≤ s.now) : Timely s a := by
  cases a with
  | timeout w k =>
    intro deadline hw hpassed hrun d hd
    have hstep : s.loopStep (.timeout w k) = s.afterWait w k := by
      simp only [Pool.loopStep, Pool.timeout, hw, if_pos hpassed]
    rw [hstep] at hdue
    rcases afterWait_cases hw rfl k with ⟨-, hempty⟩ | ⟨-, p, hpops⟩
    · rw [hempty hrun] at hd
      cases hd
    · have hle := hdue p hpops
      rw [hpops.deadline] at hd
      rwa [Option.some.inj hd] at hle
  | _ => trivial

end Steps

/-! ### Threads that run -/

/-- The pool keeps its threads, and while it runs none of them has ended. -/
structure Alive (threadCount : ℕ) (s : Pool) : Prop where
  threads : s.mThreadPool.length = threadCount
  running : s.mRunning = true → .stopped ∉ s.mThreadPool

section Alive

variable {s : Pool} {n : ℕ}

theorem alive_setWorker (h : Alive n s) (w : ℕ) {worker : Worker}
    (hnew : s.mRunning = true → worker ≠ .stopped) : Alive n (s.setWorker w worker) := by
  refine ⟨by rw [Pool.setWorker, List.length_set, h.threads], fun hrun hmem => ?_⟩
  rcases List.mem_or_eq_of_mem_set hmem with hmem | hsame
  · exact h.running hrun hmem
  · exact hnew hrun hsame.symm

theorem alive_afterWait (h : Alive n s) (w k : ℕ) : Alive n (s.afterWait w k) := by
  unfold Pool.afterWait
  cases hrun : s.mRunning with
  | false => exact alive_setWorker h w fun hyes => by rw [hrun] at hyes; cases hyes
  | true =>
    cases htop : top s.mPackageQueue k with
    | none => exact alive_setWorker h w fun _ hstate => by cases hstate
    | some p =>
      have hset : Alive n (s.setWorker w (.busy p)) :=
        alive_setWorker h w fun _ hstate => by cases hstate
      exact ⟨hset.threads, hset.running⟩

theorem alive_turn (h : Alive n s) (w k : ℕ) : Alive n (s.turn w k) := by
  unfold Pool.turn
  split
  · exact alive_afterWait h w k
  · exact alive_setWorker h w fun _ hstate => by cases hstate

theorem alive_finish (h : Alive n s) (w : ℕ) : Alive n (s.finish w) := by
  unfold Pool.finish
  split
  · exact alive_setWorker h w fun _ hstate => by cases hstate
  · exact h

theorem alive_loopStep (h : Alive n s) (a : LoopAct) : Alive n (s.loopStep a) := by
  cases a with
  | tick time => exact ⟨h.threads, h.running⟩
  | stop => exact ⟨h.threads, fun hrun => by cases hrun⟩
  | enter w k =>
    unfold Pool.loopStep Pool.enter
    dsimp only
    split
    · split
      · exact alive_turn h w k
      · rename_i hstop
        exact alive_setWorker h w fun hrun => absurd hrun hstop
    · exact h
  | wake w k =>
    unfold Pool.loopStep Pool.wake
    dsimp only
    split
    · exact alive_turn h w k
    · exact h
  | timeout w k =>
    unfold Pool.loopStep Pool.timeout
    dsimp only
    split
    · split
      · exact alive_afterWait h w k
      · exact h
    · exact h

/-- A free thread of a running pool can take a head that is due. -/
theorem exists_pop (h : Alive n s) (hn : 0 < n) (hrun : s.mRunning = true) (hfree : s.held = [])
    (hqueue : s.mPackageQueue ≠ []) (hdue : ∀ p ∈ s.mPackageQueue, p.deadline ≤ s.now) :
    ∃ a p, Timely s a ∧ Pops s (s.loopStep a) p ∧ (s.loopStep a).mRunning = true := by
  have hlt : 0 < s.mThreadPool.length := by rw [h.threads]; exact hn
  obtain ⟨old, hw⟩ : ∃ old, s.mThreadPool[0]? = some old :=
    ⟨_, List.getElem?_eq_some_iff.mpr ⟨hlt, rfl⟩⟩
  have hmem := List.mem_of_getElem? hw
  have hidle : old.package = none := by
    have hnone := List.filterMap_eq_nil_iff.mp hfree old hmem
    exact hnone
  obtain ⟨p₀, hp₀⟩ : ∃ p, top s.mPackageQueue 0 = some p := by
    cases htop : top s.mPackageQueue 0 with
    | none => exact absurd (top_eq_none htop) hqueue
    | some p => exact ⟨p, rfl⟩
  have hready : s.ready = true := by
    simp [Pool.ready, hrun, headDeadline_of_top hp₀, hdue p₀ (top_spec hp₀).1]
  have hturn : s.turn 0 0 = s.afterWait 0 0 := if_pos hready
  have hafter : (s.afterWait 0 0).mRunning = true := by
    simp [Pool.afterWait, hrun, hp₀, Pool.setWorker]
  rcases afterWait_cases hw hidle 0 with ⟨-, hempty⟩ | ⟨-, p, hpops⟩
  · exact absurd (hempty hrun) hqueue
  · rw [← hturn] at hpops hafter
    cases old with
    | loop =>
      have hstep : s.loopStep (.enter 0 0) = s.turn 0 0 := by
        simp only [Pool.loopStep, Pool.enter, hw, hrun, if_true]
      exact ⟨.enter 0 0, p, trivial, hstep ▸ hpops, hstep ▸ hafter⟩
    | waiting deadline =>
      have hstep : s.loopStep (.wake 0 0) = s.turn 0 0 := by
        simp only [Pool.loopStep, Pool.wake, hw]
      exact ⟨.wake 0 0, p, trivial, hstep ▸ hpops, hstep ▸ hafter⟩
    | busy q => cases hidle
    | stopped => exact absurd hmem (h.running hrun)

end Alive

/-! ### Whole runs -/

theorem noneEarly_loopStep {s : Pool} (h : NoneEarly s) {a : LoopAct} (ha : Timely s a) :
    NoneEarly (s.loopStep a) := by
  rcases loopStep_cases s a with hquiet | ⟨p, hpops, hdue⟩
  · refine ⟨?_, ?_⟩
    · rw [hquiet.popped, hquiet.queue, hquiet.scheduled]
      exact h.conserved
    · rw [hquiet.popped]
      exact h.due
  · refine ⟨?_, ?_⟩
    · rw [hpops.popped, hpops.queue, hpops.scheduled, List.map_cons]
      refine List.Perm.trans ?_ h.conserved
      exact List.perm_middle.symm.trans
        (List.Perm.append_left _ (List.perm_cons_erase hpops.head).symm)
    · intro entry hmem
      rw [hpops.popped] at hmem
      rcases List.mem_cons.mp hmem with rfl | hmem
      · exact hdue ha
      · exact h.due entry hmem

theorem noneEarly_step {s : Pool} (h : NoneEarly s) {a : PoolAct} (ha : TimelyAct s a) :
    NoneEarly (s.step a) := by
  cases a with
  | schedule p =>
    refine ⟨?_, h.due⟩
    exact List.perm_middle.trans (List.Perm.cons p h.conserved)
  | finish w =>
    unfold Pool.step Pool.finish
    dsimp only
    split
    · exact ⟨h.conserved, h.due⟩
    · exact h
  | loop a => exact noneEarly_loopStep h ha

theorem noneEarly_start (now : Time) (threadCount : ℕ) : NoneEarly (.start now threadCount) :=
  ⟨List.Perm.refl _, fun _ hmem => by cases hmem⟩

/-- CORRECT: for any number of threads, in every run every package is popped at most once and never
    before its deadline exactly as long as no wait times out on a head that is not due yet. -/
theorem none_early_iff (now : Time) (threadCount : ℕ) (as : List PoolAct) :
    Always Pool.step (fun _ _ s => NoneEarly s) (.start now threadCount) as ↔
      Meets Pool.step TimelyAct (.start now threadCount) as := by
  refine always_iff_meets (fun s a (h : NoneEarly s) ha => ?_) (fun s a _ hnext => ?_) as _
    (noneEarly_start now threadCount)
  · have hnext := noneEarly_step h ha
    exact ⟨hnext, hnext⟩
  · cases a with
    | loop a =>
      refine timely_of_due a fun p hpops => ?_
      refine hnext.due (p, s.now) ?_
      rw [Pool.step, hpops.popped]
      exact List.mem_cons_self
    | _ => trivial

/-- Two threads, packages due at 10 and at 100. Both threads wait for 10; the first takes the first
    package then, and the second takes the other one 90 early. -/
theorem second_thread_early :
    ¬ Always Pool.step (fun _ _ s => NoneEarly s) (.start 0 2)
      [.schedule ⟨10, 7, 1⟩, .schedule ⟨100, 7, 2⟩, .loop (.enter 0 0), .loop (.enter 1 0),
       .loop (.tick 10), .loop (.timeout 0 0), .loop (.timeout 1 0)] := by
  rintro ⟨-, -, -, -, -, -, hnext, -⟩
  have hdue := hnext.due (⟨100, 7, 2⟩, 10) (by decide +kernel)
  revert hdue
  decide

/-! ### A pool of one thread -/

/-- A thread alone waits for no longer than the head: packages that come only move the head to an
    earlier time, and nobody else takes the head away. -/
structure Alone (s : Pool) : Prop where
  one : s.mThreadPool.length ≤ 1
  awaited : ∀ (w : ℕ) (deadline : Time), s.mThreadPool[w]? = some (.waiting (some deadline)) →
    ∃ p ∈ s.mPackageQueue, p.deadline ≤ deadline

theorem timely_of_alone {s : Pool} (h : Alone s) (a : LoopAct) : Timely s a := by
  cases a with
  | timeout w k =>
    intro deadline hw hpassed _ d hd
    obtain ⟨p, hp, hle⟩ := h.awaited w deadline hw
    obtain ⟨p₀, h₀, rfl⟩ := Option.map_eq_some_iff.mp hd
    exact ((top_spec h₀).2 p hp).trans (hle.trans hpassed)
  | _ => trivial

/-- The one thread changes its state. -/
theorem alone_set {s s' : Pool} (h : Alone s) {w : ℕ} {old worker : Worker}
    (hw : s.mThreadPool[w]? = some old) (hpool : s'.mThreadPool = s.mThreadPool.set w worker)
    (hwait : ∀ deadline, worker = .waiting (some deadline) →
      ∃ p ∈ s'.mPackageQueue, p.deadline ≤ deadline) : Alone s' := by
  obtain ⟨hlt, -⟩ := List.getElem?_eq_some_iff.mp hw
  refine ⟨by rw [hpool, List.length_set]; exact h.one, fun w' deadline hw' => ?_⟩
  obtain ⟨hlt', hworker⟩ := List.getElem?_eq_some_iff.mp hw'
  rw [hpool, List.length_set] at hlt'
  have hone := h.one
  have hsame : w' = w := by omega
  subst hsame
  refine hwait deadline ?_
  rw [hpool, List.getElem?_set_self hlt] at hw'
  exact Option.some.inj hw'

theorem alone_afterWait {s : Pool} (h : Alone s) {w : ℕ} {old : Worker}
    (hw : s.mThreadPool[w]? = some old) (k : ℕ) : Alone (s.afterWait w k) := by
  unfold Pool.afterWait
  split
  · exact alone_set h hw rfl fun deadline hstate => by cases hstate
  · split
    · exact alone_set h hw rfl fun deadline hstate => by cases hstate
    · exact alone_set h hw rfl fun deadline hstate => by cases hstate

theorem alone_turn {s : Pool} (h : Alone s) {w : ℕ} {old : Worker}
    (hw : s.mThreadPool[w]? = some old) (k : ℕ) : Alone (s.turn w k) := by
  unfold Pool.turn
  split
  · exact alone_afterWait h hw k
  · refine alone_set h hw rfl fun deadline hstate => ?_
    obtain ⟨p, hp, rfl⟩ := Option.map_eq_some_iff.mp (Worker.waiting.inj hstate)
    exact ⟨p, (top_spec hp).1, le_refl _⟩

theorem alone_step {s : Pool} (h : Alone s) (a : PoolAct) : Alone (s.step a) := by
  cases a with
  | schedule p =>
    refine ⟨h.one, fun w deadline hw => ?_⟩
    obtain ⟨p', hp', hle⟩ := h.awaited w deadline hw
    exact ⟨p', List.mem_cons_of_mem p hp', hle⟩
  | finish w =>
    unfold Pool.step Pool.finish
    dsimp only
    split
    · exact alone_set h ‹_› rfl fun deadline hstate => by cases hstate
    · exact h
  | loop a =>
    cases a with
    | tick time => exact ⟨h.one, h.awaited⟩
    | stop => exact ⟨h.one, h.awaited⟩
    | enter w k =>
      unfold Pool.step Pool.loopStep Pool.enter
      dsimp only
      split
      · split
        · exact alone_turn h ‹_› k
        · exact alone_set h ‹_› rfl fun deadline hstate => by cases hstate
      · exact h
    | wake w k =>
      unfold Pool.step Pool.loopStep Pool.wake
      dsimp only
      split
      · exact alone_turn h ‹_› k
      · exact h
    | timeout w k =>
      unfold Pool.step Pool.loopStep Pool.timeout
      dsimp only
      split
      · split
        · exact alone_afterWait h ‹_› k
        · exact h
      · exact h

/-- A pool of one thread, as the session manager has it, never pops early. -/
theorem single_thread_timely (now : Time) (as : List PoolAct) :
    Always Pool.step (fun _ _ s => NoneEarly s) (.start now 1) as := by
  refine always_of_inv (fun s a (h : NoneEarly s ∧ Alone s) => ?_) as _
    ⟨noneEarly_start now 1, ⟨le_refl _, ?_⟩⟩
  · obtain ⟨hsafe, halone⟩ := h
    have htimely : TimelyAct s a := by
      cases a with
      | loop a => exact timely_of_alone halone a
      | _ => trivial
    have hnext := noneEarly_step hsafe htimely
    exact ⟨⟨hnext, alone_step halone a⟩, hnext⟩
  · intro w deadline hw
    have hmem := List.mem_of_getElem? hw
    cases List.eq_of_mem_replicate hmem

end ImxHal.Power
