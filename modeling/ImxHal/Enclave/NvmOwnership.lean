import ImxHal.Enclave.NvmProtocol
import ImxHal.Schemes.Ledger

/-! @src secure-enclave/lib/EleOperation.cpp (eleHandleChunkGetReq, eleHandleNVMRequest) |
    name:NVM data buffers | scheme:run, ledger | family:resource ownership

    A data buffer is allocated by an export or a chunk request and held as `last_data` until the
    call that ends the transfer frees it. The ledger of a daemon has only these two places:

        malloc ──▶ last_data ──next_command = NVM_LAST_CMD──▶ freed

    A chunk request that cannot load the whole file, or finds a wrong checksum, leaves between the
    two: its buffer is in neither place. -/

namespace ImxHal.Enclave
open ImxHal.Run ImxHal.Ledger

/-- The buffers the daemon still has, and those it has freed. -/
def places (s : Nvm) : List ℕ := s.last_data.toList.map DataBuf.alloc ++ s.freed

/-- Every buffer allocated is held or freed, once; the buffer whose address is sent is not freed by
    the end of the call, and the buffer a finish writes out has not been freed before. -/
def Owned (s : Nvm) (c : Call) (t : Nvm) : Prop :=
  Balanced (places t) t.next ∧
  (∀ r b, (eleHandleNVMRequest s c.recv c.env).reply = some r → r.buffer = some b → b ∉ t.freed) ∧
  (∀ m buf, c.recv = some m → derefs s m → s.last_data = some buf → buf.alloc ∉ s.freed)

/-- A chunk request that gets as far as its data buffer finds the whole file with the right
    checksum. -/
def LoadsIntact (s : Nvm) (c : Call) : Prop :=
  s.crashed = false → ∀ m, c.recv = some m → isRequest m = true → loads s m c.env →
    intact s m c.env

theorem places_freeLastData (s : Nvm) : places (freeLastData s) = places s := by
  rw [freeLastData]
  split
  · split
    · next buf hl => simp [places, hl]
    · rfl
  · rfl

theorem places_of_idle {s : Nvm} (hl : s.last_data = none) : places s = s.freed := by
  simp [places, hl]

/-- Phases and a balanced ledger. -/
structure Inv (s : Nvm) : Prop where
  phase : Phase s
  owned : Balanced (places s) s.next

/-- The buffer allocated in a call joins the ledger. -/
theorem balanced_new {s : Nvm} (hb : Balanced (places s) s.next) (hl : s.last_data = none) :
    Balanced (s.next :: s.freed) (s.next + 1) := by
  rw [places_of_idle hl] at hb
  exact balanced_alloc 1 hb

/-- An allocation that ends up nowhere breaks the ledger. -/
theorem not_balanced_lost {s : Nvm} {p : List ℕ} (hb : Balanced p s.next) :
    ¬ Balanced p (s.next + 1) := by
  intro h
  have h₁ := hb s.next
  have h₂ := h s.next
  rw [h₁] at h₂
  simp at h₂

/-- What a request that allocates finds: no buffer. -/
theorem Phase.no_buffer_exports {s : Nvm} {m : MuMsg} (hp : Phase s) (hx : exports s m) :
    s.last_data = none := by
  rcases hx with ⟨hcmd, hacc⟩ | ⟨hcmd, hacc⟩
  · exact (hp.idle_of_accepted hacc (by rw [hcmd]; decide) (by rw [hcmd]; decide)).2
  · exact (hp.idle_of_accepted hacc (by rw [hcmd]; decide) (by rw [hcmd]; decide)).2

theorem Phase.no_buffer_loads {s : Nvm} {m : MuMsg} {env : Env} (hp : Phase s)
    (hl : loads s m env) : s.last_data = none :=
  (hp.idle_of_accepted hl.2.1 (by rw [hl.1]; decide) (by rw [hl.1]; decide)).2

/-- The ledger after a call whose loads are intact, and the buffer whose address it sends. -/
theorem call_balanced {s : Nvm} {c : Call} (hs : Inv s) (hc : LoadsIntact s c) :
    Balanced (places (step s c)) (step s c).next ∧
      ∀ r b, (eleHandleNVMRequest s c.recv c.env).reply = some r → r.buffer = some b →
        b ∉ (step s c).freed := by
  have hnone : ∀ {r : Reply} {t : Nvm}, r.buffer = none → ∀ r' b, some r = some r' →
      r'.buffer = some b → b ∉ t.freed := by
    intro r t hr r' b h hb
    rw [← Option.some.inj h, hr] at hb
    exact absurd hb (by simp)
  cases callEffect c hs.phase with
  | nothing h ht hr =>
    rw [ht, hr]
    exact ⟨hs.owned, fun r b h => absurd h (by simp)⟩
  | crashed m out hm hreq hcr he hx ht hr =>
    rw [ht, hr]
    refine ⟨?_, fun r b h => absurd h (by simp)⟩
    cases he with
    | crashed e r hd hl => exact hs.owned
    | _ => exact absurd (hx.symm.trans hcr) (by simp)
  | handled m out hm hreq hcr he hx ht hr =>
    rw [ht, hr, places_freeLastData]
    cases he with
    | closed e r prev files hrb hf hl hd =>
      refine ⟨?_, hnone hrb⟩
      rw [freeLastData_next]
      exact hs.owned
    | crashed e r hd hl => exact absurd hx (by simp)
    | exported e r size blob_id hxp hrb hid =>
      rw [freeLastData_of_ne (show STORAGE_EXPORT_FINISH_REQ ≠ _ by decide)]
      have hb := balanced_new hs.owned (hs.phase.no_buffer_exports hxp)
      refine ⟨hb, fun r' b h hbuf => ?_⟩
      rw [← Option.some.inj h, hrb, Option.some.injEq] at hbuf
      rw [← hbuf]
      exact balanced_disjoint (p := [s.next]) hb (List.mem_singleton_self _)
    | got e r hl hi hrb =>
      rw [freeLastData_of_ne (show STORAGE_CHUNK_GET_DONE_REQ ≠ _ by decide)]
      have hb := balanced_new hs.owned (hs.phase.no_buffer_loads hl)
      refine ⟨hb, fun r' b h hbuf => ?_⟩
      rw [← Option.some.inj h, hrb, Option.some.injEq] at hbuf
      rw [← hbuf]
      exact balanced_disjoint (p := [s.next]) hb (List.mem_singleton_self _)
    | leaked e r hl hi hrb => exact absurd (hc hcr m hm hreq hl) hi
    | unsupported e r hrb hf hg _ =>
      refine ⟨?_, hnone hrb⟩
      rw [freeLastData_next]
      exact hs.owned

theorem owned_of_loadsIntact (s : Nvm) (c : Call) (hs : Inv s) (hc : LoadsIntact s c) :
    Inv (step s c) ∧ Owned s c (step s c) := by
  obtain ⟨hb, hsent⟩ := call_balanced hs hc
  refine ⟨⟨step_phase s c hs.phase, hb⟩, hb, hsent, fun m buf hm hd hl => ?_⟩
  refine balanced_disjoint (p := s.last_data.toList.map DataBuf.alloc) hs.owned ?_
  simp [hl]

theorem loadsIntact_of_owned (s : Nvm) (c : Call) (hs : Inv s) (ho : Owned s c (step s c)) :
    LoadsIntact s c := by
  intro hcr m hm hreq hl
  by_contra hi
  have hidle := hs.phase.no_buffer_loads hl
  cases callEffect c hs.phase with
  | nothing h ht hr =>
    rcases h with h | h
    · exact absurd (h.symm.trans hcr) (by simp)
    · exact absurd (hreq.symm.trans (h m hm)) (by simp)
  | crashed m' out hm' hreq' hcr' he hx ht hr =>
    obtain rfl := Option.some.inj (hm.symm.trans hm')
    cases he with
    | crashed e r hd _ => exact absurd (hl.1.symm.trans hd.2.1) (by decide)
    | _ => exact absurd (hx.symm.trans hcr) (by simp)
  | handled m' out hm' hreq' hcr' he hx ht hr =>
    obtain rfl := Option.some.inj (hm.symm.trans hm')
    have hb := ho.1
    rw [ht, places_freeLastData] at hb
    cases he with
    | closed e r prev files hrb hf hnl hd => exact hnl hl
    | crashed e r hd _ => exact absurd hx (by simp)
    | exported e r size blob_id hxp hrb hid =>
      rcases hxp with ⟨hcmd, -⟩ | ⟨hcmd, -⟩
      · exact absurd (hl.1.symm.trans hcmd) (by decide)
      · exact absurd (hl.1.symm.trans hcmd) (by decide)
    | got e r _ hint hrb => exact hi hint
    | leaked e r _ _ hrb =>
      rw [freeLastData_next] at hb
      exact not_balanced_lost hs.owned hb
    | unsupported e r hrb hf hg hget => exact hget hl.1

/-- CORRECT: for every sequence of messages, file contents and failures, every data buffer is after
    each call held as `last_data` or freed exactly once, and no freed buffer is sent or written, if
    and only if no chunk request that has allocated its buffer meets a file that is shorter than its
    header says or has the wrong checksum. -/
theorem buffers_owned_iff (nvm_handle : UInt32) (files : Files) (calls : List Call) :
    Always step Owned (init nvm_handle files) calls
      ↔ Meets step LoadsIntact (init nvm_handle files) calls :=
  always_iff_meets owned_of_loadsIntact loadsIntact_of_owned calls _
    ⟨init_phase nvm_handle files, balanced_nil⟩

/-- A request for chunk 0 on storage handle 1, with its checksum. -/
def getMsg : MuMsg := ⟨7, 6, 0xE6, 0x17, [1, 0, 0, 0, 0x17E60606], by decide⟩

/-- A file that ends behind the header while the header claims four bytes more. -/
def cutFile : List UInt8 := nvmHeader 4 0 ⟨0, 0, 0⟩

/-- The buffer for it is allocated and lost. -/
theorem cut_file_leaks :
    ¬ ∀ (nvm_handle : UInt32) (files : Files) (calls : List Call),
      Always step Owned (init nvm_handle files) calls := by
  intro h
  have hall := (h 1 (fun _ => some cutFile) [⟨some getMsg, okEnv⟩]).1.1 0
  revert hall
  decide

end ImxHal.Enclave
