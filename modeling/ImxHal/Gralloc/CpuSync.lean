import ImxHal.Schemes.Run

/-! @src display/gralloc/gralloc_driver.cpp, display/gralloc/dma_buf_heaps.cpp | name:CpuSync |
    scheme:run | family:bracketing

    `gralloc_driver::lock` opens a period of CPU access with `CpuSyncStart` and `unlock` closes it
    with `CpuSyncEnd`. One counter and one flag of the handle stand for all the nested locks:

        lock(usage)     lock_count++, cpu_write := usage writes, CpuSyncStart(read, write)
        unlock          CpuSyncEnd(write) if cpu_write; lock_count--; at 0 cpu_write := 0

    Both run under `mutex_`, so a history of a buffer is a list of whole calls. The start carries
    the flags of the usage, the end ALWAYS carries the write flag alone, and the flag of a nested
    lock overwrites the one before it. -/

namespace ImxHal.CpuSync
open ImxHal.Run

/-- `SyncType`, as `make_sync_type` builds it. -/
inductive SyncType where | kSyncRead | kSyncWrite | kSyncReadWrite | none
  deriving DecidableEq

def make_sync_type (read write : Bool) : SyncType :=
  if read && write then .kSyncReadWrite
  else if read then .kSyncRead
  else if write then .kSyncWrite
  else .none

/-- Does the flag set of a sync call include writing? -/
def SyncType.writes : SyncType → Bool
  | .kSyncWrite | .kSyncReadWrite => true
  | .kSyncRead | .none => false

/-- What the outside sees of a buffer: the CPU is let in to write, a sync starts, a sync ends. -/
inductive Event where
  | write
  | syncStart (type : SyncType)
  | syncEnd (type : SyncType)
  deriving DecidableEq

/-- The fields of `gralloc_handle` that `lock` and `unlock` use (`flags` by its FROM_GPU bit), and
    the events of the buffer so far, newest first. -/
structure Buffer where
  fd : ℤ
  fromGpu : Bool
  lock_count : ℕ
  cpu_write : Bool
  base : ℕ
  log : List Event

/-- What the calls outside the driver return: the fence wait, the GPU module, `mmap`, `CpuSyncEnd`. -/
structure Env where
  sync_wait : ℤ
  gpuLock : ℤ
  gpuUnlock : ℤ
  mmap : Option ℕ
  cpuSyncEnd : ℤ

def GRALLOC_USAGE_SW_READ_MASK : ℕ := 0xF
def GRALLOC_USAGE_SW_WRITE_MASK : ℕ := 0xF0

def swRead (usage : ℕ) : Bool := usage &&& GRALLOC_USAGE_SW_READ_MASK != 0
def swWrite (usage : ℕ) : Bool := usage &&& GRALLOC_USAGE_SW_WRITE_MASK != 0

/-- `lock_count++` on a `uint32_t`. -/
def Buffer.count (b : Buffer) : ℕ := (b.lock_count + 1) % 2 ^ 32

/-- The middle of `lock`: the GPU module's lock, or the mapping of the dma-buf. -/
def Buffer.map (b : Buffer) (env : Env) : Except ℤ Buffer :=
  if b.fromGpu then
    if env.gpuLock ≠ 0 then .error env.gpuLock else .ok b
  else if 0 ≤ b.fd ∧ b.base = 0 then
    match env.mmap with
    | none => .error (-22)
    | some addr => .ok { b with base := addr }
  else .ok b

/-- The end of `lock`, after every check: count, flag, and `allocator_sync_start`. -/
def Buffer.grant (b : Buffer) (usage : ℕ) : Buffer :=
  { b with
    lock_count := b.count
    cpu_write := swWrite usage
    log := (if swRead usage || swWrite usage
        then [.syncStart (make_sync_type (swRead usage) (swWrite usage))] else [])
      ++ (if swWrite usage then [.write] else []) ++ b.log }

def Buffer.lock (b : Buffer) (usage : ℕ) (env : Env) : Except ℤ Buffer :=
  if b.cpu_write ∧ swWrite usage then
    -- "regard as lock successfully": counted, nothing synchronised
    .ok { b with lock_count := b.count, log := .write :: b.log }
  else if env.sync_wait ≠ 0 then .error env.sync_wait
  else (b.map env).map fun b => b.grant usage

/-- The end of `unlock`: the count goes down, and with the last lock the flag. -/
def Buffer.drop (b : Buffer) : Buffer :=
  { b with
    lock_count := b.lock_count - 1
    cpu_write := if b.lock_count - 1 = 0 then false else b.cpu_write }

def Buffer.unlock (b : Buffer) (env : Env) : Except ℤ Buffer :=
  if b.lock_count = 0 then .error (-22)
  else if b.fromGpu then
    if env.gpuUnlock ≠ 0 then .error env.gpuUnlock else .ok b.drop
  else if b.cpu_write then
    if env.cpuSyncEnd ≠ 0 then .error env.cpuSyncEnd
    else .ok { b with log := .syncEnd (make_sync_type false true) :: b.log }.drop
  else .ok b.drop

inductive Act where
  | lock (usage : ℕ) (env : Env)
  | unlock (env : Env)

def Buffer.call (b : Buffer) : Act → Except ℤ Buffer
  | .lock usage env => b.lock usage env
  | .unlock env => b.unlock env

/-- A call that fails leaves the buffer as it was. -/
def step (b : Buffer) (a : Act) : Buffer :=
  match b.call a with
  | .ok b' => b'
  | .error _ => b

/-- A buffer as `retain` leaves it. -/
def imported (fd : ℤ) (fromGpu : Bool) : Buffer := ⟨fd, fromGpu, 0, false, 0, []⟩

/-! ### The promise -/

def Buffer.starts (b : Buffer) (type : SyncType) : ℕ := b.log.count (.syncStart type)

def Buffer.ends (b : Buffer) (type : SyncType) : ℕ := b.log.count (.syncEnd type)

/-- Is the newest period of write access still without a `CpuSyncEnd` that carries the write flag? -/
def dirty : List Event → Bool
  | [] => false
  | .write :: _ => true
  | .syncEnd type :: log => !type.writes && dirty log
  | .syncStart _ :: log => dirty log

/-- No sync ends that did not start; and with the lock count back at zero every start has its end,
    with the same flags, and no write access is left without an end that carries the write flag. -/
structure Synced (b : Buffer) : Prop where
  noSpare : ∀ type, b.ends type ≤ b.starts type
  matched : b.lock_count = 0 → ∀ type, b.starts type = b.ends type
  flushed : b.lock_count = 0 → dirty b.log = false

/-- Every outside call succeeds. -/
def Env.fine : Env := ⟨0, 0, 0, some 4096, 0⟩

/-- The buffer is synced now, and stays so when its holders unlock it, one after the other. -/
def Closes (b : Buffer) : Prop :=
  ∀ n, Synced (run step b (List.replicate n (.unlock .fine)))

/-- A successful lock reads nothing through the CPU; it writes only on an unlocked buffer that is
    not the GPU allocator's; and without writing it does not come while a write lock is held. -/
def Plain (b : Buffer) : Act → Prop
  | .lock usage env => (b.lock usage env).isOk →
      swRead usage = false ∧ (swWrite usage → b.lock_count = 0 ∧ b.fromGpu = false) ∧
      (swWrite usage = false → b.cpu_write = false)
  | .unlock _ => True

/-! ### What one call can do -/

theorem map_ok {b b' : Buffer} {env : Env} (h : b.map env = .ok b') :
    ∃ base, b' = { b with base := base } := by
  unfold Buffer.map at h
  split at h
  · split at h
    · cases h
    · cases h; exact ⟨b.base, rfl⟩
  · split at h
    · split at h
      · cases h
      · rename_i addr _
        cases h; exact ⟨addr, rfl⟩
    · cases h; exact ⟨b.base, rfl⟩

theorem lock_ok {b b' : Buffer} {usage : ℕ} {env : Env} (h : b.lock usage env = .ok b') :
    (b.cpu_write ∧ swWrite usage ∧ b' = { b with lock_count := b.count, log := .write :: b.log }) ∨
    (¬(b.cpu_write ∧ swWrite usage) ∧ ∃ base, b' = Buffer.grant { b with base := base } usage) := by
  unfold Buffer.lock at h
  split at h
  · rename_i hw
    cases h; exact Or.inl ⟨hw.1, hw.2, rfl⟩
  · rename_i hw
    split at h
    · cases h
    · refine Or.inr ⟨hw, ?_⟩
      cases hm : b.map env with
      | error r => rw [hm] at h; cases h
      | ok c =>
        rw [hm] at h
        obtain ⟨base, rfl⟩ := map_ok hm
        cases h; exact ⟨base, rfl⟩

theorem unlock_ok {b b' : Buffer} {env : Env} (h : b.unlock env = .ok b') :
    (b.fromGpu = false ∧ b.cpu_write ∧
      b' = { b with log := .syncEnd .kSyncWrite :: b.log }.drop) ∨
    ((b.fromGpu ∨ b.cpu_write = false) ∧ b' = b.drop) := by
  unfold Buffer.unlock at h
  split at h
  · cases h
  · split at h
    · rename_i hg
      split at h
      · cases h
      · cases h; exact Or.inr ⟨Or.inl hg, rfl⟩
    · rename_i hg
      split at h
      · rename_i hw
        split at h
        · cases h
        · cases h; exact Or.inl ⟨by simpa using hg, hw, rfl⟩
      · rename_i hw
        cases h; exact Or.inr ⟨Or.inr (by simpa using hw), rfl⟩

/-- A grant starts one sync for an access of the CPU and ends none. -/
theorem grant_starts (b : Buffer) (usage : ℕ) (type : SyncType) :
    (b.grant usage).starts type = b.starts type +
      if (swRead usage || swWrite usage) ∧ make_sync_type (swRead usage) (swWrite usage) = type
      then 1 else 0 := by
  by_cases htype : make_sync_type (swRead usage) (swWrite usage) = type
  · cases hr : swRead usage <;> cases hw : swWrite usage <;> rw [hr, hw] at htype <;>
      simp [Buffer.grant, Buffer.starts, hr, hw, htype]
  · cases hr : swRead usage <;> cases hw : swWrite usage <;> rw [hr, hw] at htype <;>
      simp [Buffer.grant, Buffer.starts, hr, hw, htype]

theorem grant_ends (b : Buffer) (usage : ℕ) (type : SyncType) :
    (b.grant usage).ends type = b.ends type := by
  cases hr : swRead usage <;> cases hw : swWrite usage <;>
    simp [Buffer.grant, Buffer.ends, hr, hw]

theorem unlock_fine {b : Buffer} (h : b.lock_count ≠ 0) : ∃ b', b.unlock .fine = .ok b' := by
  unfold Buffer.unlock
  rw [if_neg h]
  split
  · exact ⟨_, rfl⟩
  · split <;> exact ⟨_, rfl⟩

/-! ### Plain histories keep one open write sync at most -/

/-- The flag stands for the one open sync: a write sync of the only lock, and nothing else. -/
structure Inv (b : Buffer) : Prop where
  single : b.cpu_write → b.lock_count = 1 ∧ b.fromGpu = false
  bound : b.lock_count < 2 ^ 32
  opened : ∀ type, b.starts type =
    b.ends type + if b.cpu_write ∧ type = .kSyncWrite then 1 else 0
  dirty_eq : dirty b.log = b.cpu_write

theorem inv_imported (fd : ℤ) (fromGpu : Bool) : Inv (imported fd fromGpu) where
  single := by intro h; cases h
  bound := by simp [imported]
  opened := by intro type; simp [imported, Buffer.starts, Buffer.ends]
  dirty_eq := rfl

theorem synced_of_inv {b : Buffer} (h : Inv b) : Synced b := by
  have hflag : b.lock_count = 0 → b.cpu_write = false := by
    intro h0
    by_contra hw
    have := (h.single (by simpa using hw)).1
    omega
  refine ⟨?_, ?_, ?_⟩
  · intro type
    have := h.opened type
    omega
  · intro h0 type
    have := h.opened type
    simpa [hflag h0] using this
  · intro h0
    rw [h.dirty_eq, hflag h0]

/-- A grant opens one write sync, or nothing. -/
theorem inv_grant {b : Buffer} {usage base : ℕ} (h : Inv b) (hr : swRead usage = false)
    (hw : swWrite usage → b.lock_count = 0 ∧ b.fromGpu = false)
    (hn : swWrite usage = false → b.cpu_write = false) :
    Inv (Buffer.grant { b with base := base } usage) := by
  have hbound : (b.lock_count + 1) % 2 ^ 32 < 2 ^ 32 := Nat.mod_lt _ (by norm_num)
  cases hu : swWrite usage with
  | false =>
    have hflag := hn hu
    refine ⟨?_, hbound, ?_, ?_⟩
    · simp [Buffer.grant, hu]
    · intro type
      simpa [Buffer.grant, Buffer.starts, Buffer.ends, hr, hu, hflag] using h.opened type
    · simp [Buffer.grant, hr, hu, h.dirty_eq, hflag]
  | true =>
    obtain ⟨h0, hg⟩ := hw hu
    have hflag : b.cpu_write = false := by
      by_contra hc
      have := (h.single (by simpa using hc)).1
      omega
    refine ⟨?_, hbound, ?_, ?_⟩
    · intro _
      exact ⟨by simp [Buffer.grant, Buffer.count, h0], hg⟩
    · intro type
      have hopen := h.opened type
      rw [grant_starts, grant_ends]
      simpa [Buffer.grant, Buffer.starts, Buffer.ends, hr, hu, hflag, make_sync_type, eq_comm]
        using hopen
    · simp [Buffer.grant, hr, hu, dirty]

theorem inv_lock {b b' : Buffer} {usage : ℕ} {env : Env} (h : Inv b)
    (hok : b.lock usage env = .ok b') (hp : Plain b (.lock usage env)) : Inv b' := by
  obtain ⟨hr, hw, hn⟩ := hp (by rw [hok]; rfl)
  rcases lock_ok hok with ⟨hc, hu, -⟩ | ⟨-, base, rfl⟩
  · have h1 := (h.single hc).1
    have h0 := (hw hu).1
    omega
  · exact inv_grant h hr hw hn

theorem inv_unlock {b b' : Buffer} {env : Env} (h : Inv b) (hok : b.unlock env = .ok b') :
    Inv b' := by
  have hb := h.bound
  rcases unlock_ok hok with ⟨-, hw, rfl⟩ | ⟨hno, rfl⟩
  · -- the only lock goes, and its sync ends
    have h1 := (h.single hw).1
    refine ⟨?_, ?_, ?_, ?_⟩
    · simp [Buffer.drop, h1]
    · simp [Buffer.drop, h1]
    · intro type
      have hopen := h.opened type
      by_cases htype : type = .kSyncWrite
      · subst htype
        simpa [Buffer.drop, Buffer.starts, Buffer.ends, h1, hw] using hopen
      · have hne : SyncType.kSyncWrite ≠ type := Ne.symm htype
        simpa [Buffer.drop, Buffer.starts, Buffer.ends, h1, htype, hne] using hopen
    · simp [Buffer.drop, h1, dirty, SyncType.writes]
  · have hflag : b.cpu_write = false := by
      rcases hno with hg | hw
      · by_contra hc
        have := (h.single (by simpa using hc)).2
        simp [hg] at this
      · exact hw
    refine ⟨?_, ?_, ?_, ?_⟩
    · simp [Buffer.drop, hflag]
    · simp only [Buffer.drop]; omega
    · intro type
      simpa [Buffer.drop, Buffer.starts, Buffer.ends, hflag] using h.opened type
    · simp [Buffer.drop, h.dirty_eq, hflag]

theorem inv_step {b : Buffer} (a : Act) (h : Inv b) (hp : Plain b a) : Inv (step b a) := by
  unfold step
  cases hcall : b.call a with
  | error r => exact h
  | ok b' =>
    cases a with
    | lock usage env => exact inv_lock h hcall hp
    | unlock env => exact inv_unlock h hcall

theorem closes_of_inv {b : Buffer} (h : Inv b) : Closes b := by
  intro n
  refine synced_of_inv (run_inv Inv (C := fun a => ∃ env, a = .unlock env) ?_ _ _ h ?_)
  · rintro c a hc ⟨env, rfl⟩
    exact inv_step _ hc trivial
  · intro a ha
    exact ⟨_, List.eq_of_mem_replicate ha⟩

/-! ### What is open when a lock is granted stays open but for write syncs -/

/-- Unlocking to zero starts nothing and ends write syncs only, one for each lock if the flag is
    set. -/
theorem unlock_all (n : ℕ) (b : Buffer) (hn : b.lock_count = n) (type : SyncType) :
    (run step b (List.replicate n (.unlock .fine))).lock_count = 0 ∧
    (run step b (List.replicate n (.unlock .fine))).starts type = b.starts type ∧
    (run step b (List.replicate n (.unlock .fine))).ends type = b.ends type +
      if type = .kSyncWrite ∧ b.cpu_write ∧ b.fromGpu = false then n else 0 := by
  induction n generalizing b with
  | zero => refine ⟨hn, rfl, ?_⟩; simp [run]
  | succ n ih =>
    obtain ⟨b', hok⟩ := unlock_fine (b := b) (by omega)
    have hstep : step b (.unlock .fine) = b' := by simp only [step, Buffer.call, hok]
    rw [List.replicate_succ, run_cons, hstep]
    have hcount : b'.lock_count = n := by
      rcases unlock_ok hok with ⟨-, -, rfl⟩ | ⟨-, rfl⟩ <;> simp only [Buffer.drop] <;> omega
    obtain ⟨h0, hs, he⟩ := ih b' hcount
    rcases unlock_ok hok with ⟨hg, hw, rfl⟩ | ⟨hno, rfl⟩
    · refine ⟨h0, hs.trans (by simp [Buffer.drop, Buffer.starts]), he.trans ?_⟩
      by_cases htype : type = .kSyncWrite
      · subst htype
        cases n with
        | zero => simp [Buffer.drop, Buffer.ends, hw, hg]
        | succ n =>
          simp [Buffer.drop, Buffer.ends, hn, hw, hg]
          omega
      · have hne : SyncType.kSyncWrite ≠ type := Ne.symm htype
        simp [Buffer.drop, Buffer.ends, htype, hne]
    · refine ⟨h0, hs, he.trans ?_⟩
      rcases hno with hg | hw
      · simp [Buffer.drop, Buffer.ends, hg]
      · simp [Buffer.drop, Buffer.ends, hw]

/-- A buffer that closes owes write syncs alone, and one for each of its locks. -/
theorem owed_of_closes {b : Buffer} (h : Closes b) (type : SyncType) :
    b.starts type = b.ends type +
      if type = .kSyncWrite ∧ b.cpu_write ∧ b.fromGpu = false then b.lock_count else 0 := by
  obtain ⟨h0, hs, he⟩ := unlock_all b.lock_count b rfl type
  rw [← hs, ← he]
  exact (h b.lock_count).matched h0 type

/-- The ends owed after a grant: the sync that was open before it, and the one it starts. -/
theorem owed_grant {b : Buffer} {usage base : ℕ} (h : Inv b)
    (hc : Closes (Buffer.grant { b with base := base } usage)) (type : SyncType) :
    (if b.cpu_write ∧ type = .kSyncWrite then 1 else 0) +
      (if (swRead usage || swWrite usage) ∧ make_sync_type (swRead usage) (swWrite usage) = type
        then 1 else 0) =
      if type = .kSyncWrite ∧ swWrite usage ∧ b.fromGpu = false then b.count else 0 := by
  have hopen := h.opened type
  have howe := owed_of_closes hc type
  rw [grant_starts, grant_ends] at howe
  change b.starts type + _ = b.ends type +
    (if type = .kSyncWrite ∧ swWrite usage ∧ b.fromGpu = false then b.count else 0) at howe
  omega

/-- A read sync is never ended. -/
theorem no_read_of_closes {b : Buffer} {usage base : ℕ} (h : Inv b)
    (hc : Closes (Buffer.grant { b with base := base } usage)) : swRead usage = false := by
  by_contra hr
  have hr : swRead usage = true := by simpa using hr
  have htype : make_sync_type true (swWrite usage) ≠ .kSyncWrite := by
    cases swWrite usage <;> decide
  have howe := owed_grant h hc (make_sync_type true (swWrite usage))
  simp [hr, htype] at howe

theorem plain_of_closes {b : Buffer} (a : Act) (h : Inv b) (hc : Closes (step b a)) :
    Plain b a := by
  cases a with
  | unlock env => trivial
  | lock usage env =>
    intro hok
    cases hlock : b.lock usage env with
    | error r => rw [hlock] at hok; cases hok
    | ok b' =>
      have hstep : step b (.lock usage env) = b' := by simp only [step, Buffer.call, hlock]
      rw [hstep] at hc
      have hb := h.bound
      rcases lock_ok hlock with ⟨hw, hu, rfl⟩ | ⟨hnot, base, rfl⟩
      · -- the second write lock: two ends will come for one start
        obtain ⟨h1, hg⟩ := h.single hw
        have hopen := h.opened .kSyncWrite
        have howe := owed_of_closes hc .kSyncWrite
        simp [Buffer.starts, Buffer.ends, Buffer.count, hw, hg, h1] at hopen howe
        omega
      · have hread := no_read_of_closes h hc
        have howe := owed_grant h hc .kSyncWrite
        refine ⟨hread, ?_, ?_⟩
        · -- the ends to come are as many as the locks: this one must be the only lock
          intro hu
          have hflag : b.cpu_write = false := by
            by_contra hw
            exact hnot ⟨by simpa using hw, hu⟩
          cases hg : b.fromGpu with
          | true => simp [hread, hu, hflag, hg, make_sync_type] at howe
          | false =>
            simp [hread, hu, hflag, hg, make_sync_type, Buffer.count] at howe
            exact ⟨by omega, rfl⟩
        · -- without the flag no end is to come, so none may be owed
          intro hu
          by_contra hw
          have hw : b.cpu_write = true := by simpa using hw
          simp [hread, hu, hw] at howe

/-- CORRECT: along every history of calls on an imported buffer, each period of CPU access is
    closed with the flags it was opened with by the time the lock count is back at zero, exactly if
    every successful lock is `Plain`. -/
theorem synced_iff_plain (fd : ℤ) (fromGpu : Bool) (as : List Act) :
    Always step (fun _ _ b => Closes b) (imported fd fromGpu) as ↔
      Meets step Plain (imported fd fromGpu) as := by
  refine always_iff_meets (fun b a (h : Inv b) hp => ?_) (fun b a h hc => ?_) as _
    (inv_imported fd fromGpu)
  · have hinv := inv_step a h hp
    exact ⟨hinv, closes_of_inv hinv⟩
  · exact plain_of_closes a h hc

/-- A read lock and its unlock leave a `CpuSyncStart` without its end. -/
theorem read_lock_unsynced :
    ¬ Synced (run step (imported 5 false) [.lock 0x3 .fine, .unlock .fine]) := by
  intro h
  have := h.matched (by decide) .kSyncRead
  revert this
  decide

end ImxHal.CpuSync
