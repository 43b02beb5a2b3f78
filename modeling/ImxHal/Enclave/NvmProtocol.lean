import ImxHal.Enclave.Nvm

/-! @src secure-enclave/lib/EleOperation.cpp (eleHandleNVMRequest, eleHandleExportFinish) |
    name:NVM request state machine | scheme:run | family:request protocol

    Three phases, read off `next_command`: idle, an export that waits for its finish, a loaded chunk
    that waits for its acknowledgement. The buffer is there in the last two and only then. Every call
    keeps this, so `eleHandleExportFinish` finds a buffer when the export phase expects it. In the
    idle phase, however, every command is taken, and a finish that no export precedes reads the size
    of a blob through a null pointer. -/

namespace ImxHal.Enclave
open ImxHal.Run

/-! ### What one request can do -/

/-- The request passes the checks of its handler. -/
def accepted (s : Nvm) (m : MuMsg) (words : ℕ) : Prop :=
  refused (rspMsgInfo s m) (m.cmdLen = sizeMsg words) (m.u32 0 = s.nvm_handle) = none

instance (s : Nvm) (m : MuMsg) (words : ℕ) : Decidable (accepted s m words) :=
  inferInstanceAs (Decidable (_ = _))

/-- `eleHandleExportFinish` gets to the blob header behind `last_data`. -/
def derefs (s : Nvm) (m : MuMsg) : Prop :=
  isRequest m = true ∧ m.cmd.toNat = STORAGE_EXPORT_FINISH_REQ ∧ accepted s m 2
    ∧ m.u32 1 = NVM_EXPORT_STATUS_SUCCESS

/-- The files after a request that ends a transfer. -/
inductive FilesAfter (s : Nvm) (m : MuMsg) (env : Env) : Files → Prop
  | same : FilesAfter s m env s.files
  | removed (hcmd : m.cmd.toNat = STORAGE_CHUNK_DELETE_REQ) :
    FilesAfter s m env (Function.update s.files (chunkName s (m.blobId 1)) none)
  | written (buf : DataBuf) (name : Name) (hd : derefs s m) (hl : s.last_data = some buf)
    (hn : exportName s buf = some name) :
    FilesAfter s m env (writeStorageFile s.files name (exportBytes buf env.payload) env.write).1

/-- A chunk request gets as far as its data buffer. -/
def loads (s : Nvm) (m : MuMsg) (env : Env) : Prop :=
  m.cmd.toNat = STORAGE_CHUNK_GET_REQ ∧ accepted s m 5 ∧ env.name = .ok ∧
    (readStorageFile s.files (chunkName s (m.blobId 1)) NVM_HEADER_SIZE.toNat
      env.readHeader).length = NVM_HEADER_SIZE.toNat ∧ env.mallocData = true

/-- The header of the chunk a request asks for. -/
def headerOf (s : Nvm) (m : MuMsg) (env : Env) : List UInt8 :=
  readStorageFile s.files (chunkName s (m.blobId 1)) NVM_HEADER_SIZE.toNat env.readHeader

/-- The size that header claims. -/
def sizeOf (s : Nvm) (m : MuMsg) (env : Env) : UInt32 :=
  Bytes.wordAt (bytesOf (headerOf s m env)) 0

/-- The whole file, as far as the header claims it to reach. -/
def bodyOf (s : Nvm) (m : MuMsg) (env : Env) : List UInt8 :=
  readStorageFile s.files (chunkName s (m.blobId 1)) (sizeOf s m env + NVM_HEADER_SIZE).toNat
    env.readBody

def payloadOf (s : Nvm) (m : MuMsg) (env : Env) : List UInt8 :=
  (bodyOf s m env).drop NVM_HEADER_SIZE.toNat

/-- The chunk is complete and its checksum is right. -/
def intact (s : Nvm) (m : MuMsg) (env : Env) : Prop :=
  (bodyOf s m env).length = (sizeOf s m env + NVM_HEADER_SIZE).toNat ∧
    calCRC (Bytes.wordAt (loaded (payloadOf s m env) env.stray)) (sizeOf s m env >>> 2).toNat
      = Bytes.wordAt (bytesOf (headerOf s m env)) 1

instance (s : Nvm) (m : MuMsg) (env : Env) : Decidable (intact s m env) :=
  inferInstanceAs (Decidable (_ ∧ _))

/-- An export request passes its checks. -/
def exports (s : Nvm) (m : MuMsg) : Prop :=
  (m.cmd.toNat = STORAGE_MASTER_EXPORT_REQ ∧ accepted s m 2) ∨
    (m.cmd.toNat = STORAGE_CHUNK_EXPORT_REQ ∧ accepted s m 6)

/-- Everything a request can do to the daemon. -/
inductive Effect (s : Nvm) (m : MuMsg) (env : Env) : Handled → Prop
  | closed (e : ErrorType) (r : Reply) (prev : ℕ) (files : Files) (hr : r.buffer = none)
    (hf : FilesAfter s m env files) (hl : loads s m env → False)
    (hd : derefs s m → s.last_data ≠ none) :
    Effect s m env ⟨e, r, { s with
      prev_command := prev
      next_command := STORAGE_NVM_LAST_CMD
      files := files
      exported := none }⟩
  | crashed (e : ErrorType) (r : Reply) (hd : derefs s m) (hl : s.last_data = none) :
    Effect s m env ⟨e, r, { s with
      next_command := STORAGE_NVM_LAST_CMD
      exported := none
      crashed := true }⟩
  | exported (e : ErrorType) (r : Reply) (size : UInt32) (blob_id : BlobId) (hx : exports s m)
    (hr : r.buffer = some s.next) (hid : m.cmd.toNat = STORAGE_CHUNK_EXPORT_REQ →
      size = m.u32 1 ∧ blob_id = m.blobId 2) :
    Effect s m env ⟨e, r, { s with
      prev_command := m.cmd.toNat
      next_command := STORAGE_EXPORT_FINISH_REQ
      last_data := some ⟨s.next, size, blob_id, []⟩
      next := s.next + 1
      exported := some s.next }⟩
  | got (e : ErrorType) (r : Reply) (hl : loads s m env) (hi : intact s m env)
    (hr : r.buffer = some s.next) :
    Effect s m env ⟨e, r, { s with
      prev_command := m.cmd.toNat
      next_command := STORAGE_CHUNK_GET_DONE_REQ
      last_data := some ⟨s.next, sizeOf s m env, m.blobId 1, payloadOf s m env⟩
      next := s.next + 1
      exported := none }⟩
  | leaked (e : ErrorType) (r : Reply) (hl : loads s m env) (hi : ¬ intact s m env)
    (hr : r.buffer = none) :
    Effect s m env ⟨e, r, { s with
      prev_command := m.cmd.toNat
      next_command := STORAGE_NVM_LAST_CMD
      next := s.next + 1
      exported := none }⟩
  | unsupported (e : ErrorType) (r : Reply) (hr : r.buffer = none)
    (hf : m.cmd.toNat ≠ STORAGE_EXPORT_FINISH_REQ) (hg : m.cmd.toNat ≠ STORAGE_CHUNK_GET_DONE_REQ)
    (hc : m.cmd.toNat ≠ STORAGE_CHUNK_GET_REQ) :
    Effect s m env ⟨e, r, { s with
      next_command := if unexpected s m then STORAGE_NVM_LAST_CMD else s.next_command
      exported := none }⟩

section Handlers
variable {s : Nvm} {m : MuMsg} {env : Env} {n : ℕ}

/-- A request that is not a chunk request loads nothing, one that is not a finish reads nothing. -/
theorem not_loads {c : ℕ} (hcmd : m.cmd.toNat = c) (hc : c ≠ STORAGE_CHUNK_GET_REQ) :
    loads s m env → False := fun h => hc (hcmd ▸ h.1)

theorem not_derefs {c : ℕ} (hcmd : m.cmd.toNat = c) (hc : c ≠ STORAGE_EXPORT_FINISH_REQ) :
    derefs s m → s.last_data ≠ none := fun h => absurd (hcmd ▸ h.2.1) hc

/-- Both export requests: they end in an allocation or change nothing. -/
theorem handleExportReq_effect {words rspWords : ℕ} {size handle : UInt32} {blob_id : BlobId}
    (hx : accepted s m words → exports s m) (hg : m.cmd.toNat ≠ STORAGE_CHUNK_GET_REQ)
    (hf : m.cmd.toNat ≠ STORAGE_EXPORT_FINISH_REQ)
    (hid : m.cmd.toNat = STORAGE_CHUNK_EXPORT_REQ → size = m.u32 1 ∧ blob_id = m.blobId 2) :
    Effect s m env (handleExportReq { s with next_command := n, exported := none } m
      (rspMsgInfo s m) env words size blob_id rspWords handle) := by
  have hclosed : ∀ e (r : Reply), r.buffer = none → Effect s m env ⟨e, r, { s with
      prev_command := m.cmd.toNat
      next_command := STORAGE_NVM_LAST_CMD
      exported := none }⟩ := fun e r hr =>
    .closed e r _ s.files hr .same (not_loads rfl hg) (not_derefs rfl hf)
  simp only [handleExportReq]
  split
  · exact hclosed _ _ rfl
  · next hacc =>
    split
    · exact hclosed _ _ rfl
    · split
      · exact hclosed _ _ rfl
      · exact .exported _ _ size blob_id (hx hacc) rfl hid

theorem exportFinish_effect (hreq : isRequest m = true)
    (hcmd : m.cmd.toNat = STORAGE_EXPORT_FINISH_REQ) :
    Effect s m env (eleHandleExportFinish { s with next_command := n, exported := none } m
      (rspMsgInfo s m) env) := by
  have hl : loads s m env → False := not_loads hcmd (by decide)
  simp only [eleHandleExportFinish]
  split
  · next hcode =>
    refine .closed _ _ s.prev_command s.files rfl .same hl fun hd => ?_
    exact absurd hd.2.2.1 (by rw [accepted, hcode]; simp)
  · next hacc =>
    split
    · next hst =>
      exact .closed _ _ s.prev_command s.files rfl .same hl fun hd => absurd hd.2.2.2 hst
    · next hst =>
      have hd : derefs s m := ⟨hreq, hcmd, hacc, by simpa using hst⟩
      split
      · next hnone => exact .crashed _ _ hd hnone
      · next buf hbuf =>
        have hne : derefs s m → s.last_data ≠ none := fun _ => by rw [hbuf]; simp
        split
        · exact .closed _ _ s.prev_command s.files rfl .same hl hne
        · split
          · exact .closed _ _ s.prev_command s.files rfl .same hl hne
          · next name hname =>
            split
            · exact .closed _ _ s.prev_command s.files rfl .same hl hne
            · have hfiles : FilesAfter s m env _ := .written buf name hd hbuf hname
              split
              · exact .closed _ _ s.prev_command _ rfl hfiles hl hne
              · exact .closed _ _ s.prev_command _ rfl hfiles hl hne

theorem chunkGetReq_effect (hcmd : m.cmd.toNat = STORAGE_CHUNK_GET_REQ) :
    Effect s m env (eleHandleChunkGetReq { s with next_command := n, exported := none } m
      (rspMsgInfo s m) env) := by
  have hclosed : (loads s m env → False) → ∀ e (r : Reply), r.buffer = none →
      Effect s m env ⟨e, r, { s with
        prev_command := m.cmd.toNat
        next_command := STORAGE_NVM_LAST_CMD
        exported := none }⟩ := fun hl e r hr =>
    .closed e r _ s.files hr .same hl (not_derefs hcmd (by decide))
  simp only [eleHandleChunkGetReq]
  split
  · next hcode =>
    refine hclosed (fun h => ?_) _ _ rfl
    exact absurd h.2.1 (by rw [accepted, hcode]; simp)
  · next hacc =>
    split
    · next hname => exact hclosed (fun h => absurd h.2.2.1 (by rw [hname]; simp)) _ _ rfl
    · next hname => exact hclosed (fun h => absurd h.2.2.1 (by rw [hname]; simp)) _ _ rfl
    · next hname =>
      split
      · next hhdr => exact hclosed (fun h => hhdr h.2.2.2.1) _ _ rfl
      · next hhdr =>
        split
        · next hmal => exact hclosed (fun h => absurd h.2.2.2.2 (by rw [hmal]; simp)) _ _ rfl
        · next hmal =>
          have hl : loads s m env :=
            ⟨hcmd, hacc, hname, not_not.mp hhdr, by simpa using hmal⟩
          split
          · next hlen => exact .leaked _ _ hl (fun hi => hlen hi.1) rfl
          · next hlen =>
            split
            · next hcrc => exact .leaked _ _ hl (fun hi => hcrc hi.2) rfl
            · next hcrc =>
              exact .got _ _ hl ⟨not_not.mp hlen, not_not.mp hcrc⟩ rfl

theorem chunkGetDone_effect (hcmd : m.cmd.toNat = STORAGE_CHUNK_GET_DONE_REQ) :
    Effect s m env (eleHandleChunkGetDone { s with next_command := n, exported := none } m
      (rspMsgInfo s m)) := by
  have hclosed : ∀ e (r : Reply), r.buffer = none → Effect s m env ⟨e, r, { s with
      next_command := STORAGE_NVM_LAST_CMD
      exported := none }⟩ := fun e r hr =>
    .closed e r s.prev_command s.files hr .same (not_loads hcmd (by decide))
      (not_derefs hcmd (by decide))
  simp only [eleHandleChunkGetDone]
  split
  · exact hclosed _ _ rfl
  · split
    · exact hclosed _ _ rfl
    · exact hclosed _ _ rfl

theorem chunkDelete_effect (hcmd : m.cmd.toNat = STORAGE_CHUNK_DELETE_REQ) :
    Effect s m env (eleHandleChunkDelete { s with next_command := n, exported := none } m
      (rspMsgInfo s m) env) := by
  have hclosed : ∀ e (r : Reply) files, r.buffer = none → FilesAfter s m env files →
      Effect s m env ⟨e, r, { s with
        next_command := STORAGE_NVM_LAST_CMD
        files := files
        exported := none }⟩ := fun e r files hr hf =>
    .closed e r s.prev_command files hr hf (not_loads hcmd (by decide))
      (not_derefs hcmd (by decide))
  simp only [eleHandleChunkDelete]
  split
  · exact hclosed _ _ _ rfl .same
  · split
    · exact hclosed _ _ _ rfl .same
    · exact hclosed _ _ _ rfl .same
    · split
      · exact hclosed _ _ _ rfl .same
      · split
        · exact hclosed _ _ _ rfl .same
        · exact hclosed _ _ _ rfl (.removed hcmd)

/-- Every request has one of these effects. -/
theorem handleRequest_effect (hreq : isRequest m = true) :
    Effect s m env (handleRequest s m env) := by
  simp only [handleRequest, dispatch]
  split
  · next hcmd =>
    refine handleExportReq_effect (fun hacc => .inl ⟨hcmd, hacc⟩) (by rw [hcmd]; decide)
      (by rw [hcmd]; decide) fun h => ?_
    exact absurd (hcmd.symm.trans h) (by decide)
  · split
    · next hcmd => exact exportFinish_effect hreq hcmd
    · split
      · next hcmd =>
        exact handleExportReq_effect (fun hacc => .inr ⟨hcmd, hacc⟩) (by rw [hcmd]; decide)
          (by rw [hcmd]; decide) fun _ => ⟨rfl, rfl⟩
      · split
        · next hcmd => exact chunkGetReq_effect hcmd
        · split
          · next hcmd => exact chunkGetDone_effect hcmd
          · split
            · next hcmd => exact chunkDelete_effect hcmd
            · next hf _ hc hg _ => exact .unsupported _ _ rfl hf hg hc

end Handlers

/-! ### The phases -/

/-- Idle, an export under way, or a chunk handed over: the buffer is there in the last two. -/
inductive Phase (s : Nvm) : Prop
  | idle (hn : s.next_command = STORAGE_NVM_LAST_CMD) (hl : s.last_data = none)
    (hx : s.exported = none)
  | exporting (hn : s.next_command = STORAGE_EXPORT_FINISH_REQ) (buf : DataBuf)
    (hl : s.last_data = some buf) (hx : s.exported = some buf.alloc)
  | getting (hn : s.next_command = STORAGE_CHUNK_GET_DONE_REQ) (buf : DataBuf)
    (hl : s.last_data = some buf) (hx : s.exported = none)

theorem freeLastData_of_ne {s : Nvm} (h : s.next_command ≠ STORAGE_NVM_LAST_CMD) :
    freeLastData s = s := if_neg h

@[simp] theorem freeLastData_next (s : Nvm) : (freeLastData s).next = s.next := by
  rw [freeLastData]; split <;> [split <;> rfl; rfl]

@[simp] theorem freeLastData_next_command (s : Nvm) :
    (freeLastData s).next_command = s.next_command := by
  rw [freeLastData]; split <;> [split <;> rfl; rfl]

@[simp] theorem freeLastData_files (s : Nvm) : (freeLastData s).files = s.files := by
  rw [freeLastData]; split <;> [split <;> rfl; rfl]

/-- A call without a request changes nothing. -/
theorem Phase.freeLastData {s : Nvm} (h : Phase s) : freeLastData s = s := by
  cases h with
  | idle hn hl hx => rw [Enclave.freeLastData, if_pos hn, hl]
  | exporting hn buf hl hx => exact freeLastData_of_ne (by rw [hn]; decide)
  | getting hn buf hl hx => exact freeLastData_of_ne (by rw [hn]; decide)

/-- A call that ends the transfer is idle after the buffer is freed. -/
theorem phase_of_closed {s : Nvm} (hn : s.next_command = STORAGE_NVM_LAST_CMD)
    (hx : s.exported = none) : Phase (freeLastData s) := by
  rw [freeLastData, if_pos hn]
  split
  · exact .idle hn rfl hx
  · next hl => exact .idle hn hl hx

/-- An accepted request is the expected one, so in the idle phase it finds no buffer. -/
theorem accepted_expected {s : Nvm} {m : MuMsg} {words : ℕ} (h : accepted s m words) :
    unexpected s m = false := by
  by_contra hu
  rw [Bool.not_eq_false] at hu
  rw [accepted, refused, rspMsgInfo, if_pos hu, if_pos (by decide)] at h
  exact absurd h (by simp)

theorem expected_idle {s : Nvm} {m : MuMsg} (h : unexpected s m = false)
    (hm : m.cmd.toNat ≠ s.next_command) : s.next_command = STORAGE_NVM_LAST_CMD := by
  rw [unexpected, decide_eq_false_iff_not] at h
  by_contra hn
  exact h ⟨hn, hm⟩

/-- What an accepted request that is neither of the closing ones finds: the idle phase. -/
theorem Phase.idle_of_accepted {s : Nvm} {m : MuMsg} {words : ℕ} (h : Phase s)
    (hacc : accepted s m words) (hf : m.cmd.toNat ≠ STORAGE_EXPORT_FINISH_REQ)
    (hg : m.cmd.toNat ≠ STORAGE_CHUNK_GET_DONE_REQ) :
    s.next_command = STORAGE_NVM_LAST_CMD ∧ s.last_data = none := by
  have hu := accepted_expected hacc
  cases h with
  | idle hn hl hx => exact ⟨hn, hl⟩
  | exporting hn buf hl hx =>
    exact absurd (expected_idle hu (by rwa [hn])) (by rw [hn]; decide)
  | getting hn buf hl hx =>
    exact absurd (expected_idle hu (by rwa [hn])) (by rw [hn]; decide)

/-- A command that no phase expects ends the transfer. -/
theorem Phase.unsupported {s : Nvm} {m : MuMsg} (h : Phase s)
    (hf : m.cmd.toNat ≠ STORAGE_EXPORT_FINISH_REQ) (hg : m.cmd.toNat ≠ STORAGE_CHUNK_GET_DONE_REQ) :
    (if unexpected s m then STORAGE_NVM_LAST_CMD else s.next_command) = STORAGE_NVM_LAST_CMD := by
  split
  · rfl
  · next hu =>
    rw [Bool.not_eq_true] at hu
    cases h with
    | idle hn hl hx => exact hn
    | exporting hn buf hl hx => exact expected_idle hu (by rwa [hn])
    | getting hn buf hl hx => exact expected_idle hu (by rwa [hn])

/-- A call that handles no request changes nothing and sends nothing. -/
theorem call_no_request {s : Nvm} {c : Call} (hp : Phase s)
    (h : s.crashed = true ∨ ∀ m, c.recv = some m → isRequest m = false) :
    step s c = s ∧ (eleHandleNVMRequest s c.recv c.env).reply = none := by
  obtain ⟨recv, env⟩ := c
  simp only [step, eleHandleNVMRequest]
  split
  · exact ⟨rfl, rfl⟩
  · next hc =>
    cases recv with
    | none => exact ⟨hp.freeLastData, rfl⟩
    | some m =>
      rcases h with h | h
      · exact absurd h hc
      · simp only [h m rfl, if_true]
        exact ⟨hp.freeLastData, trivial⟩

/-- One call: what its request does, then the end of the transfer and the response. -/
inductive CallEffect (s : Nvm) (c : Call) : Prop
  | nothing (h : s.crashed = true ∨ ∀ m, c.recv = some m → isRequest m = false)
    (ht : step s c = s) (hr : (eleHandleNVMRequest s c.recv c.env).reply = none)
  | crashed (m : MuMsg) (out : Handled) (hm : c.recv = some m) (hreq : isRequest m = true)
    (hc : s.crashed = false) (he : Effect s m c.env out) (hx : out.nvm.crashed = true)
    (ht : step s c = out.nvm) (hr : (eleHandleNVMRequest s c.recv c.env).reply = none)
  | handled (m : MuMsg) (out : Handled) (hm : c.recv = some m) (hreq : isRequest m = true)
    (hc : s.crashed = false) (he : Effect s m c.env out) (hx : out.nvm.crashed = false)
    (ht : step s c = freeLastData out.nvm)
    (hr : (eleHandleNVMRequest s c.recv c.env).reply = some out.reply)

theorem callEffect {s : Nvm} (c : Call) (hp : Phase s) : CallEffect s c := by
  obtain ⟨recv, env⟩ := c
  by_cases h : s.crashed = true ∨ ∀ m, recv = some m → isRequest m = false
  · exact .nothing h (call_no_request hp h).1 (call_no_request hp h).2
  · push Not at h
    obtain ⟨hc, m, rfl, hreq⟩ := h
    rw [ne_eq, Bool.not_eq_true] at hc
    rw [ne_eq, Bool.not_eq_false] at hreq
    have he : Effect s m env (handleRequest s m env) := handleRequest_effect hreq
    cases hx : (handleRequest s m env).nvm.crashed with
    | true =>
      refine CallEffect.crashed (c := ⟨some m, env⟩) m _ rfl hreq hc he hx ?_ ?_
      · simp [step, eleHandleNVMRequest, hc, hreq, hx]
      · simp [eleHandleNVMRequest, hc, hreq, hx]
    | false =>
      refine CallEffect.handled (c := ⟨some m, env⟩) m _ rfl hreq hc he hx ?_ ?_
      · simp [step, eleHandleNVMRequest, hc, hreq, hx]
      · simp [eleHandleNVMRequest, hc, hreq, hx]

/-- Every call keeps the phases, whatever it meets. -/
theorem step_phase (s : Nvm) (c : Call) (hp : Phase s) : Phase (step s c) := by
  cases callEffect c hp with
  | nothing h ht hr => rw [ht]; exact hp
  | crashed m out hm hreq hc he hx ht hr =>
    rw [ht]
    cases he with
    | crashed e r hd hl => exact .idle rfl hl rfl
    | _ => exact absurd (hx.symm.trans hc) (by simp)
  | handled m out hm hreq hc he hx ht hr =>
    rw [ht]
    cases he with
    | closed e r prev files hr hf hl hd => exact phase_of_closed rfl rfl
    | crashed e r hd hl => exact absurd hx (by simp)
    | exported e r size blob_id hx hr hid =>
      rw [freeLastData_of_ne (show STORAGE_EXPORT_FINISH_REQ ≠ _ by decide)]
      exact .exporting rfl _ rfl rfl
    | got e r hl hi hr =>
      rw [freeLastData_of_ne (show STORAGE_CHUNK_GET_DONE_REQ ≠ _ by decide)]
      exact .getting rfl _ rfl rfl
    | leaked e r hl hi hr => exact phase_of_closed rfl rfl
    | unsupported e r hr hf hg _ => exact phase_of_closed (hp.unsupported hf hg) rfl

/-! ### The law of the protocol -/

/-- The header behind `last_data` is read only if the request just before, a successful export, has
    set it; and after the call the buffer is there exactly if a command that consumes it is next. -/
def Guarded (s : Nvm) (c : Call) (t : Nvm) : Prop :=
  (∀ m, c.recv = some m → derefs s m →
    ∃ buf, s.last_data = some buf ∧ s.exported = some buf.alloc) ∧
  (t.last_data.isSome = true ↔ t.next_command = STORAGE_EXPORT_FINISH_REQ
    ∨ t.next_command = STORAGE_CHUNK_GET_DONE_REQ)

/-- A well-formed finish of a successful export. -/
def finishes (s : Nvm) (m : MuMsg) : Bool :=
  isRequest m ∧ m.cmd.toNat = STORAGE_EXPORT_FINISH_REQ ∧ m.cmdLen = sizeMsg 2
    ∧ m.u32 0 = s.nvm_handle ∧ m.u32 1 = NVM_EXPORT_STATUS_SUCCESS

/-- No such finish arrives while no command is expected. -/
def NoLoneFinish (s : Nvm) (c : Call) : Prop :=
  ∀ m, c.recv = some m → finishes s m = true → s.next_command ≠ STORAGE_NVM_LAST_CMD

theorem derefs_of_finishes {s : Nvm} {m : MuMsg} (h : finishes s m = true)
    (hn : s.next_command = STORAGE_NVM_LAST_CMD) : derefs s m := by
  rw [finishes, decide_eq_true_iff] at h
  obtain ⟨hreq, hcmd, hlen, hhandle, hst⟩ := h
  refine ⟨hreq, hcmd, ?_, hst⟩
  have hshort : crcOk m = true := by
    rw [crcOk, decide_eq_true_iff]
    rw [MuMsg.cmdLen, sizeMsg] at hlen
    left
    rw [STORAGE_NB_WORDS_MAX_NO_CRC]
    omega
  have hinfo : rspMsgInfo s m = ELE_COMMAND_SUCCEED := by
    rw [rspMsgInfo, if_neg (by simp [unexpected, hn]), if_neg (by simp [hshort])]
  simp [accepted, refused, hinfo, hlen, hhandle]

theorem finishes_of_derefs {s : Nvm} {m : MuMsg} (h : derefs s m) : finishes s m = true := by
  obtain ⟨hreq, hcmd, hacc, hst⟩ := h
  rw [finishes, decide_eq_true_iff]
  rw [accepted, refused] at hacc
  split at hacc
  · exact absurd hacc (by simp)
  · split at hacc
    · exact absurd hacc (by simp)
    · split at hacc
      · exact absurd hacc (by simp)
      · next hlen hhandle => exact ⟨hreq, hcmd, by simpa using hlen, by simpa using hhandle, hst⟩

/-- In a phase, a finish that is read finds the buffer of the export before it, or none at all. -/
theorem Phase.derefs {s : Nvm} {m : MuMsg} (hp : Phase s) (hd : Enclave.derefs s m) :
    s.next_command = STORAGE_NVM_LAST_CMD ∨
      ∃ buf, s.last_data = some buf ∧ s.exported = some buf.alloc := by
  cases hp with
  | idle hn hl hx => exact .inl hn
  | exporting hn buf hl hx => exact .inr ⟨buf, hl, hx⟩
  | getting hn buf hl hx =>
    have hu := accepted_expected hd.2.2.1
    exact absurd (expected_idle hu (by rw [hn, hd.2.1]; decide)) (by rw [hn]; decide)

theorem Phase.last_data_iff {s : Nvm} (hp : Phase s) : s.last_data.isSome = true ↔
    s.next_command = STORAGE_EXPORT_FINISH_REQ ∨ s.next_command = STORAGE_CHUNK_GET_DONE_REQ := by
  cases hp with
  | idle hn hl hx => simp only [hl, hn]; decide
  | exporting hn buf hl hx => simp [hl, hn]
  | getting hn buf hl hx => simp [hl, hn]

theorem guarded_of_noLoneFinish (s : Nvm) (c : Call) (hp : Phase s) (hc : NoLoneFinish s c) :
    Phase (step s c) ∧ Guarded s c (step s c) := by
  have ht := step_phase s c hp
  refine ⟨ht, fun m hm hd => ?_, ht.last_data_iff⟩
  rcases hp.derefs hd with hn | h
  · exact absurd hn (hc m hm (finishes_of_derefs hd))
  · exact h

theorem noLoneFinish_of_guarded (s : Nvm) (c : Call) (hp : Phase s) (hg : Guarded s c (step s c)) :
    NoLoneFinish s c := by
  intro m hm hfin hn
  obtain ⟨buf, hl, -⟩ := hg.1 m hm (derefs_of_finishes hfin hn)
  cases hp with
  | idle _ hl' _ => rw [hl] at hl'; exact absurd hl' (by simp)
  | exporting hn' _ _ _ => exact absurd (hn.symm.trans hn') (by decide)
  | getting hn' _ _ _ => exact absurd (hn.symm.trans hn') (by decide)

theorem init_phase (nvm_handle : UInt32) (files : Files) : Phase (init nvm_handle files) :=
  .idle rfl rfl rfl

/-- CORRECT: for every sequence of messages and outcomes, the finish handler reads the buffer only
    after the export that has set it, and `last_data` is set exactly while a command that consumes it
    is next, if and only if no well-formed finish arrives while no command is expected. -/
theorem protocol_guarded_iff (nvm_handle : UInt32) (files : Files) (calls : List Call) :
    Always step Guarded (init nvm_handle files) calls
      ↔ Meets step NoLoneFinish (init nvm_handle files) calls :=
  always_iff_meets guarded_of_noLoneFinish noLoneFinish_of_guarded calls _
    (init_phase nvm_handle files)

/-- Everything outside works, and no memory holds anything but zeros. -/
def okEnv : Env := ⟨.ok, true, 0x1000, fun _ => 0, fun _ => 0, some 0x8000, some 0x8000, some 0x8000,
  true, true⟩

/-- The finish of a successful export on storage handle 1. -/
def finishMsg : MuMsg :=
  ⟨7, 3, 0xE4, 0x17, [1, NVM_EXPORT_STATUS_SUCCESS], by decide⟩

/-- As the very first message it reads through the null pointer. -/
theorem lone_finish_reads_null :
    ¬ ∀ (nvm_handle : UInt32) (files : Files) (calls : List Call),
      Always step Guarded (init nvm_handle files) calls := by
  intro h
  have hall := (h 1 (fun _ => none) [⟨some finishMsg, okEnv⟩]).1.1 finishMsg rfl
  obtain ⟨buf, hl, -⟩ := hall (derefs_of_finishes (by decide) (by decide))
  exact absurd hl (by simp [init])

end ImxHal.Enclave
