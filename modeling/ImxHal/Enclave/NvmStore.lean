import ImxHal.Enclave.NvmProtocol

/-! @src secure-enclave/lib/EleOperation.cpp (readStorageFile, writeStorageFile,
    eleHandleExportFinish, eleHandleChunkExportReq, eleHandleChunkGetReq) |
    name:NVM store round trip | scheme:run | family:data format

    A chunk is stored as header, payload and whatever a longer blob has left behind them, under a
    name made of its blob id:

        ┌ size ┬ crc ┬ metadata ┬ id ┬ ext ┬ payload (size bytes) ┬ rest of an older blob ┐

    The reader takes the size from the header, so the rest does no harm, and names of different
    blob ids differ, so a chunk keeps its contents until it is exported again or deleted. -/

namespace ImxHal.Enclave
open ImxHal.Run ImxHal.Bytes

/-! ### File names -/

def chunkPath : Name := "/data/vendor/ele/".toList

def masterName : Name := "/data/vendor/ele/master".toList

/-- The file of a chunk. -/
def fileOf (blob_id : BlobId) : Name :=
  chunkPath ++ hex8 blob_id.ext ++ hex8 blob_id.id ++ hex8 blob_id.metadata

/-- The paths the daemon was started with. -/
structure Paths (s : Nvm) : Prop where
  chunk : s.nvm_chunk_path = chunkPath
  master : s.nvm_master_name = masterName

theorem fileOf_length (blob_id : BlobId) : (fileOf blob_id).length = 41 := by
  have hp : chunkPath.length = 17 := by decide
  simp [fileOf, hp]

theorem fileOf_inj {a b : BlobId} (h : fileOf a = fileOf b) : a = b := by
  obtain ⟨am, ai, ae⟩ := a
  obtain ⟨bm, bi, be⟩ := b
  rw [fileOf, fileOf] at h
  obtain ⟨h₁, hm⟩ := List.append_inj h (by simp)
  obtain ⟨h₂, hi⟩ := List.append_inj h₁ (by simp)
  obtain ⟨-, he⟩ := List.append_inj h₂ (by simp)
  exact BlobId.mk.injEq .. ▸ ⟨hex8_inj hm, hex8_inj hi, hex8_inj he⟩

theorem Paths.chunkName {s : Nvm} (hp : Paths s) (blob_id : BlobId) :
    chunkName s blob_id = fileOf blob_id := by
  rw [Enclave.chunkName, hp.chunk]
  exact List.take_of_length_le (by rw [← fileOf, fileOf_length]; decide)

theorem fileOf_ne_master (blob_id : BlobId) :
    masterName.take NVM_MAX_FILE_NAME_LEN ≠ fileOf blob_id := by
  intro h
  have hlen := congrArg List.length h
  rw [fileOf_length] at hlen
  exact absurd hlen (by decide)

/-- A finished export writes the file of its own blob, or the master file. -/
theorem Paths.exportName_ne {s : Nvm} {buf : DataBuf} {name : Name} {blob_id : BlobId}
    (hp : Paths s) (hn : exportName s buf = some name)
    (hb : s.prev_command = STORAGE_CHUNK_EXPORT_REQ → buf.blob_id ≠ blob_id) :
    name ≠ fileOf blob_id := by
  rw [exportName] at hn
  split at hn
  · rw [← Option.some.inj hn, hp.master]
    exact fileOf_ne_master blob_id
  · split at hn
    · next hprev =>
      rw [← Option.some.inj hn, hp.chunkName]
      exact fun h => hb hprev (fileOf_inj h)
    · exact absurd hn (by simp)

/-! ### Requests that leave a chunk alone -/

/-- The message neither exports nor deletes this chunk. -/
def spares (blob_id : BlobId) (c : Call) : Bool :=
  match c.recv with
  | none => true
  | some m =>
    (m.cmd.toNat = STORAGE_CHUNK_EXPORT_REQ → m.blobId 2 ≠ blob_id) ∧
      (m.cmd.toNat = STORAGE_CHUNK_DELETE_REQ → m.blobId 1 ≠ blob_id)

/-- No export of this chunk is under way. -/
def Quiet (s : Nvm) (blob_id : BlobId) : Prop :=
  s.next_command = STORAGE_EXPORT_FINISH_REQ → s.prev_command = STORAGE_CHUNK_EXPORT_REQ →
    ∀ buf, s.last_data = some buf → buf.blob_id ≠ blob_id

theorem write_other {files : Files} {name other : Name} {src : List UInt8} {io : Option ℕ}
    (h : other ≠ name) : (writeStorageFile files name src io).1 other = files other := by
  cases io with
  | none => rfl
  | some n =>
    simp only [writeStorageFile]
    split
    · rfl
    · exact Function.update_of_ne h _ _

/-- The files a request leaves behind agree on a chunk it spares. -/
theorem filesAfter_spares {s : Nvm} {m : MuMsg} {env : Env} {files : Files} {blob_id : BlobId}
    (hphase : Phase s) (hp : Paths s) (hq : Quiet s blob_id) (hf : FilesAfter s m env files)
    (hs : spares blob_id ⟨some m, env⟩ = true) : files (fileOf blob_id) = s.files (fileOf blob_id) := by
  rw [spares, decide_eq_true_iff] at hs
  cases hf with
  | same => rfl
  | removed hcmd =>
    refine Function.update_of_ne ?_ _ _
    rw [hp.chunkName]
    exact fun h => hs.2 hcmd (fileOf_inj h).symm
  | written buf name hd hl hn =>
    refine write_other (hp.exportName_ne hn fun hprev => ?_).symm
    refine hq ?_ hprev buf hl
    cases hphase with
    | idle _ hl' _ => exact absurd (hl.symm.trans hl') (by simp)
    | exporting hn' _ _ _ => exact hn'
    | getting hn' _ _ _ =>
      have hu := accepted_expected hd.2.2.1
      exact absurd (expected_idle hu (by rw [hn', hd.2.1]; decide)) (by rw [hn']; decide)

theorem freeLastData_paths {s : Nvm} (hp : Paths s) : Paths (freeLastData s) := by
  rw [freeLastData]
  split
  · split
    · exact ⟨hp.chunk, hp.master⟩
    · exact hp
  · exact hp

/-- After a call that ends the transfer nothing is under way. -/
theorem quiet_of_closed {s : Nvm} (blob_id : BlobId)
    (hn : s.next_command = STORAGE_NVM_LAST_CMD) : Quiet (freeLastData s) blob_id := by
  intro h
  rw [freeLastData_next_command, hn] at h
  exact absurd h (by decide)

/-- What the run of other requests keeps. -/
structure Calm (blob_id : BlobId) (s : Nvm) : Prop where
  phase : Phase s
  paths : Paths s
  quiet : Quiet s blob_id

/-- Every effect keeps the paths. -/
theorem effect_paths {s : Nvm} {m : MuMsg} {env : Env} {out : Handled} (hp : Paths s)
    (he : Effect s m env out) : Paths out.nvm := by
  cases he <;> exact ⟨hp.chunk, hp.master⟩

theorem step_paths {s : Nvm} {c : Call} (hphase : Phase s) (hp : Paths s) : Paths (step s c) := by
  cases callEffect c hphase with
  | nothing h ht hr => rw [ht]; exact hp
  | crashed m out hm hreq hc he hx ht hr => rw [ht]; exact effect_paths hp he
  | handled m out hm hreq hc he hx ht hr =>
    rw [ht]
    exact freeLastData_paths (effect_paths hp he)

/-- One call that spares a chunk leaves its file as it is. -/
theorem step_spares {s : Nvm} {c : Call} {blob_id : BlobId} (hc : Calm blob_id s)
    (hs : spares blob_id c = true) :
    Calm blob_id (step s c) ∧ (step s c).files (fileOf blob_id) = s.files (fileOf blob_id) := by
  have hphase := step_phase s c hc.phase
  have hpaths := step_paths (c := c) hc.phase hc.paths
  suffices h : Quiet (step s c) blob_id
      ∧ (step s c).files (fileOf blob_id) = s.files (fileOf blob_id) from
    ⟨⟨hphase, hpaths, h.1⟩, h.2⟩
  cases callEffect c hc.phase with
  | nothing h ht hr => rw [ht]; exact ⟨hc.quiet, rfl⟩
  | crashed m out hm hreq hcr he hx ht hr =>
    rw [ht]
    cases he with
    | crashed e r hd hl =>
      exact ⟨fun h => absurd h (show STORAGE_NVM_LAST_CMD ≠ _ by decide), rfl⟩
    | _ => exact absurd (hx.symm.trans hcr) (by simp)
  | handled m out hm hreq hcr he hx ht hr =>
    obtain ⟨recv, env⟩ := c
    obtain rfl : recv = some m := hm
    rw [ht, freeLastData_files]
    cases he with
    | closed e r prev files hrb hf hl hd =>
      exact ⟨quiet_of_closed blob_id rfl, filesAfter_spares hc.phase hc.paths hc.quiet hf hs⟩
    | crashed e r hd hl => exact absurd hx (by simp)
    | exported e r size id hxp hrb hid =>
      refine ⟨?_, rfl⟩
      rw [freeLastData_of_ne (show STORAGE_EXPORT_FINISH_REQ ≠ _ by decide)]
      intro _ hprev buf hl
      obtain rfl := Option.some.inj hl
      rw [(hid hprev).2]
      rw [spares, decide_eq_true_iff] at hs
      exact hs.1 hprev
    | got e r hl hi hrb =>
      refine ⟨?_, rfl⟩
      rw [freeLastData_of_ne (show STORAGE_CHUNK_GET_DONE_REQ ≠ _ by decide)]
      exact fun h => absurd h (show STORAGE_CHUNK_GET_DONE_REQ ≠ _ by decide)
    | leaked e r hl hi hrb => exact ⟨quiet_of_closed blob_id rfl, rfl⟩
    | unsupported e r hrb hf hg _ =>
      exact ⟨quiet_of_closed blob_id (hc.phase.unsupported hf hg), rfl⟩

/-- Neither does a whole run of them. -/
theorem run_spares {blob_id : BlobId} (calls : List Call) (s : Nvm) (hs : Calm blob_id s)
    (h : ∀ c ∈ calls, spares blob_id c = true) :
    Calm blob_id (run step s calls)
      ∧ (run step s calls).files (fileOf blob_id) = s.files (fileOf blob_id) := by
  refine run_inv (fun t => Calm blob_id t ∧ t.files (fileOf blob_id) = s.files (fileOf blob_id))
    ?_ calls s ⟨hs, rfl⟩ h
  rintro t c ⟨hcalm, hfile⟩ hc
  obtain ⟨hcalm', hfile'⟩ := step_spares hcalm hc
  exact ⟨hcalm', hfile'.trans hfile⟩

/-! ### Successful requests -/

/-- The call sends a response with a success code. -/
def succeeds (s : Nvm) (c : Call) : Bool :=
  match (eleHandleNVMRequest s c.recv c.env).reply with
  | some r => r.rsp_code = ELE_COMMAND_SUCCEED
  | none => false

/-- Then it has handled a request, and its state is that of the handler. -/
theorem handled_of_succeeds {s : Nvm} {m : MuMsg} {env : Env}
    (h : succeeds s ⟨some m, env⟩ = true) :
    (handleRequest s m env).reply.rsp_code = ELE_COMMAND_SUCCEED ∧
      step s ⟨some m, env⟩ = freeLastData (handleRequest s m env).nvm ∧
      (eleHandleNVMRequest s (some m) env).reply = some (handleRequest s m env).reply := by
  cases hc : s.crashed with
  | true => simp [succeeds, eleHandleNVMRequest, hc] at h
  | false =>
    cases hreq : isRequest m with
    | false => simp [succeeds, eleHandleNVMRequest, hc, hreq] at h
    | true =>
      cases hx : (handleRequest s m env).nvm.crashed with
      | true => simp [succeeds, eleHandleNVMRequest, hc, hreq, hx] at h
      | false =>
        refine ⟨?_, ?_, ?_⟩
        · simpa [succeeds, eleHandleNVMRequest, hc, hreq, hx] using h
        · simp [step, eleHandleNVMRequest, hc, hreq, hx]
        · simp [eleHandleNVMRequest, hc, hreq, hx]

/-- A refused request is answered with an error code. -/
theorem refused_ne_succeed {info code : UInt32} {lenOk handleOk : Bool}
    (h : refused info lenOk handleOk = some code) : code ≠ ELE_COMMAND_SUCCEED := by
  rw [refused] at h
  split at h
  · next hinfo => rwa [← Option.some.inj h]
  · split at h
    · rw [← Option.some.inj h]; decide
    · split at h
      · rw [← Option.some.inj h]; decide
      · exact absurd h (by simp)

/-- The state a successful chunk export leaves: its buffer waits for the finish. -/
structure Exporting (blob_id : BlobId) (size : UInt32) (s : Nvm) : Prop where
  next : s.next_command = STORAGE_EXPORT_FINISH_REQ
  prev : s.prev_command = STORAGE_CHUNK_EXPORT_REQ
  data : ∃ n, s.last_data = some ⟨n, size, blob_id, []⟩

theorem chunkExport_success {s : Nvm} {m : MuMsg} {env : Env}
    (hcmd : m.cmd.toNat = STORAGE_CHUNK_EXPORT_REQ)
    (h : (handleRequest s m env).reply.rsp_code = ELE_COMMAND_SUCCEED) :
    Exporting (m.blobId 2) (m.u32 1) (handleRequest s m env).nvm := by
  have hne : ELE_COMMAND_GENERAL_ERROR ≠ ELE_COMMAND_SUCCEED := by decide
  have hdisp : ∀ s info, dispatch s m info env = eleHandleChunkExportReq s m info env := by
    intro s info
    simp only [dispatch, hcmd]
    rfl
  simp only [handleRequest, hdisp, eleHandleChunkExportReq, handleExportReq] at h ⊢
  split at h
  · next hcode => exact absurd h (refused_ne_succeed hcode)
  · split at h
    · exact absurd h hne
    · split at h
      · exact absurd h hne
      · next hsize hmal =>
        simp only [hsize, hmal, if_false]
        exact ⟨rfl, hcmd, _, rfl⟩

theorem exportName_chunk {s : Nvm} {buf : DataBuf}
    (h : s.prev_command = STORAGE_CHUNK_EXPORT_REQ) :
    exportName s buf = some (chunkName s buf.blob_id) := by
  rw [exportName, h, if_neg (by decide), if_pos rfl]

/-- A successful finish has written the whole buffer. -/
theorem exportFinish_success {s : Nvm} {m : MuMsg} {env : Env} {blob_id : BlobId} {size : UInt32}
    (hcmd : m.cmd.toNat = STORAGE_EXPORT_FINISH_REQ) (hst : m.u32 1 = NVM_EXPORT_STATUS_SUCCESS)
    (hx : Exporting blob_id size s)
    (h : (handleRequest s m env).reply.rsp_code = ELE_COMMAND_SUCCEED) :
    ∃ n, (handleRequest s m env).nvm.next_command = STORAGE_NVM_LAST_CMD ∧
      (handleRequest s m env).nvm.files = (writeStorageFile s.files (chunkName s blob_id)
        (exportBytes ⟨n, size, blob_id, []⟩ env.payload) env.write).1 ∧
      (writeStorageFile s.files (chunkName s blob_id)
        (exportBytes ⟨n, size, blob_id, []⟩ env.payload) env.write).2
          = (size + NVM_HEADER_SIZE).toNat := by
  obtain ⟨n, hdata⟩ := hx.data
  have hne : ELE_COMMAND_GENERAL_ERROR ≠ ELE_COMMAND_SUCCEED := by decide
  have hdisp : ∀ s info, dispatch s m info env = eleHandleExportFinish s m info env := by
    intro s info
    simp only [dispatch, hcmd]
    rfl
  refine ⟨n, ?_⟩
  simp only [handleRequest, hdisp, eleHandleExportFinish, hst, hdata] at h ⊢
  split at h
  · next hcode => exact absurd h (refused_ne_succeed hcode)
  · simp only [ne_eq, not_true, if_false] at h ⊢
    split at h
    · exact absurd h hne
    · next hmem =>
      simp only [hmem, if_false]
      have hprev := hx.prev
      split at h
      · exact absurd h hne
      · next name hname =>
        obtain rfl : chunkName s blob_id = name := by
          rw [exportName_chunk] at hname
          · exact Option.some.inj hname
          · exact hprev
        split at h
        · exact absurd h hne
        · next hfmt =>
          simp only [hfmt, if_false]
          split at h
          · next hlen => exact ⟨by simp only [hlen, if_true], by simp only [hlen, if_true], hlen⟩
          · exact absurd h hne

/-- A chunk request succeeds exactly if it loads an intact chunk, and hands over what it loaded. -/
theorem chunkGet_success {s : Nvm} {m : MuMsg} {env : Env}
    (hcmd : m.cmd.toNat = STORAGE_CHUNK_GET_REQ) :
    ((handleRequest s m env).reply.rsp_code = ELE_COMMAND_SUCCEED ↔
      loads s m env ∧ intact s m env) ∧
    ((handleRequest s m env).reply.rsp_code = ELE_COMMAND_SUCCEED →
      (handleRequest s m env).reply.chunk_size = sizeOf s m env ∧
      (handleRequest s m env).reply.buffer = some s.next ∧
      (handleRequest s m env).nvm.next_command = STORAGE_CHUNK_GET_DONE_REQ ∧
      (handleRequest s m env).nvm.last_data
        = some ⟨s.next, sizeOf s m env, m.blobId 1, payloadOf s m env⟩) := by
  have hne : ELE_COMMAND_GENERAL_ERROR ≠ ELE_COMMAND_SUCCEED := by decide
  have hdisp : ∀ s info, dispatch s m info env = eleHandleChunkGetReq s m info env := by
    intro s info
    simp only [dispatch, hcmd]
    rfl
  -- a failed branch has an error code and misses one of the two conditions
  have hfail : ∀ (code : UInt32) {P : Prop}, code ≠ ELE_COMMAND_SUCCEED →
      ¬ (loads s m env ∧ intact s m env) →
      (code = ELE_COMMAND_SUCCEED ↔ loads s m env ∧ intact s m env) ∧
        (code = ELE_COMMAND_SUCCEED → P) := fun code P hc hn =>
    ⟨⟨fun h => absurd h hc, fun h => absurd h hn⟩, fun h => absurd h hc⟩
  simp only [handleRequest, hdisp, eleHandleChunkGetReq]
  split
  · next hcode =>
    refine hfail _ (refused_ne_succeed hcode) fun h => ?_
    exact absurd h.1.2.1 (by rw [accepted, hcode]; simp)
  · next hacc =>
    split
    · next hname => exact hfail _ hne fun h => absurd h.1.2.2.1 (by rw [hname]; simp)
    · next hname => exact hfail _ hne fun h => absurd h.1.2.2.1 (by rw [hname]; simp)
    · next hname =>
      split
      · next hhdr => exact hfail _ hne fun h => hhdr h.1.2.2.2.1
      · next hhdr =>
        split
        · next hmal => exact hfail _ hne fun h => absurd h.1.2.2.2.2 (by rw [hmal]; simp)
        · next hmal =>
          split
          · next hlen => exact hfail _ hne fun h => hlen h.2.1
          · next hlen =>
            split
            · next hcrc => exact hfail _ hne fun h => hcrc h.2.2
            · next hcrc =>
              refine ⟨⟨fun _ => ⟨⟨hcmd, hacc, hname, not_not.mp hhdr, by simpa using hmal⟩,
                not_not.mp hlen, not_not.mp hcrc⟩, fun _ => rfl⟩, fun _ => ⟨rfl, rfl, rfl, rfl⟩⟩

/-! ### Header and payload -/

theorem nvmHeader_length (size crc : UInt32) (blob_id : BlobId) :
    (nvmHeader size crc blob_id).length = 20 := rfl

theorem nvmHeader_size (size crc : UInt32) (blob_id : BlobId) :
    wordAt (bytesOf (nvmHeader size crc blob_id)) 0 = size := ofBytes_le32 size

theorem nvmHeader_crc (size crc : UInt32) (blob_id : BlobId) :
    wordAt (bytesOf (nvmHeader size crc blob_id)) 1 = crc := ofBytes_le32 crc

/-- The bytes of a payload. -/
def payloadBytes (size : UInt32) (payload : ℕ → UInt8) : List UInt8 :=
  (List.range size.toNat).map payload

/-- A size within the limit does not wrap around. -/
theorem dataLen_eq {size : UInt32} (h : size.toNat + 20 ≤ 16384) :
    (size + NVM_HEADER_SIZE).toNat = size.toNat + 20 := by
  rw [UInt32.toNat_add]
  have : NVM_HEADER_SIZE.toNat = 20 := rfl
  omega

/-- The number of words of the checksum. -/
theorem shift_toNat (size : UInt32) : (size >>> 2).toNat = size.toNat / 4 := by
  rw [UInt32.toNat_shiftRight, Nat.shiftRight_eq_div_pow]
  rfl

/-- The checksum over the loaded payload is the one over the memory it was written from. -/
theorem loaded_crc {size : UInt32} (payload stray : ℕ → UInt8) :
    calCRC (wordAt (loaded (payloadBytes size payload) stray)) (size >>> 2).toNat
      = calCRC (wordAt payload) (size >>> 2).toNat := by
  refine calCRC_congr fun i hi => ?_
  rw [shift_toNat] at hi
  refine wordAt_congr (n := size.toNat) (fun j hj => ?_) (by omega)
  rw [loaded, if_pos (by simpa [payloadBytes] using hj), bytesOf, payloadBytes,
    List.getD_eq_getElem?_getD]
  simp [hj]

/-- The chunk is in its file: header, payload, and anything behind them. -/
def Stored (s : Nvm) (blob_id : BlobId) (size : UInt32) (payload : ℕ → UInt8) : Prop :=
  ∃ rest, s.files (fileOf blob_id) = some (nvmHeader size
    (calCRC (wordAt payload) (size >>> 2).toNat) blob_id ++ (payloadBytes size payload ++ rest))

/-- Writing all of an export stores its chunk, over whatever was there. -/
theorem stored_of_write {files : Files} {blob_id : BlobId} {size : UInt32} {payload : ℕ → UInt8}
    {n : ℕ} {io : Option ℕ} (hsize : size.toNat + 20 ≤ 16384)
    (hw : (writeStorageFile files (fileOf blob_id)
      (exportBytes ⟨n, size, blob_id, []⟩ payload) io).2 = (size + NVM_HEADER_SIZE).toNat) :
    ∃ rest, (writeStorageFile files (fileOf blob_id)
      (exportBytes ⟨n, size, blob_id, []⟩ payload) io).1 (fileOf blob_id)
        = some (nvmHeader size (calCRC (wordAt payload) (size >>> 2).toNat) blob_id
          ++ (payloadBytes size payload ++ rest)) := by
  have hlen : (nvmHeader size (calCRC (wordAt payload) (size >>> 2).toNat) blob_id
      ++ payloadBytes size payload).length = size.toNat + 20 := by
    rw [List.length_append, nvmHeader_length, payloadBytes, List.length_map, List.length_range]
    omega
  have hbytes : exportBytes ⟨n, size, blob_id, []⟩ payload
      = nvmHeader size (calCRC (wordAt payload) (size >>> 2).toNat) blob_id
        ++ payloadBytes size payload := by
    simp only [exportBytes]
    rw [dataLen_eq hsize]
    exact List.take_of_length_le (le_of_eq hlen)
  rw [hbytes] at hw ⊢
  rw [dataLen_eq hsize] at hw
  cases io with
  | none => simp only [writeStorageFile] at hw; omega
  | some k =>
    simp only [writeStorageFile, hlen] at hw ⊢
    rw [if_neg (by omega)] at hw ⊢
    simp only at hw ⊢
    rw [hw, Function.update_self, List.take_of_length_le (le_of_eq hlen), List.append_assoc]
    exact ⟨_, rfl⟩

/-- Whatever a read gives is the start of the file. -/
theorem read_start {files : Files} {name : Name} {content : List UInt8} {size : ℕ} {io : Option ℕ}
    {n : ℕ} (hf : files name = some content) (hn : (readStorageFile files name size io).length = n) :
    readStorageFile files name size io = content.take n := by
  cases io with
  | none =>
    simp only [readStorageFile, hf] at hn ⊢
    rw [← hn, List.length_nil, List.take_zero]
  | some k =>
    simp only [readStorageFile, hf] at hn ⊢
    rw [List.length_take] at hn
    rw [← hn, List.take_eq_take_iff]
    omega

/-- A read that nothing disturbs gives as much as was asked for, if the file is long enough. -/
theorem read_length {files : Files} {name : Name} {content : List UInt8} {size k : ℕ}
    (hf : files name = some content) (hk : size ≤ k) (hc : size ≤ content.length) :
    (readStorageFile files name size (some k)).length = size := by
  simp only [readStorageFile, hf]
  rw [List.length_take]
  omega

section Reading
variable {s : Nvm} {m : MuMsg} {env : Env} {blob_id : BlobId} {size : UInt32} {payload : ℕ → UInt8}

/-- A header read in full is the header that was written. -/
theorem headerOf_stored (hp : Paths s) (hs : Stored s blob_id size payload)
    (hid : m.blobId 1 = blob_id) (hl : (headerOf s m env).length = 20) :
    headerOf s m env = nvmHeader size (calCRC (wordAt payload) (size >>> 2).toNat) blob_id := by
  obtain ⟨rest, hfile⟩ := hs
  rw [headerOf, hid, hp.chunkName] at hl ⊢
  rw [read_start hfile hl]
  exact List.take_left' (nvmHeader_length _ _ _)

theorem sizeOf_stored (hp : Paths s) (hs : Stored s blob_id size payload)
    (hid : m.blobId 1 = blob_id) (hl : (headerOf s m env).length = 20) : sizeOf s m env = size := by
  rw [sizeOf, headerOf_stored hp hs hid hl]
  exact nvmHeader_size _ _ _

/-- A body read in full holds the payload that was written. -/
theorem payloadOf_stored (hp : Paths s) (hs : Stored s blob_id size payload)
    (hid : m.blobId 1 = blob_id) (hl : (bodyOf s m env).length = size.toNat + 20) :
    payloadOf s m env = payloadBytes size payload := by
  obtain ⟨rest, hfile⟩ := hs
  have hplen : (payloadBytes size payload).length = size.toNat := by simp [payloadBytes]
  rw [payloadOf]
  rw [bodyOf, hid, hp.chunkName] at hl ⊢
  rw [read_start hfile hl, ← List.append_assoc, List.take_left', List.drop_left']
  · exact nvmHeader_length _ _ _
  · rw [List.length_append, nvmHeader_length, hplen]
    omega

/-- A chunk that is stored and loaded is the one that was written. -/
theorem get_stored (hp : Paths s) (hs : Stored s blob_id size payload)
    (hsize : size.toNat + 20 ≤ 16384) (hid : m.blobId 1 = blob_id) (hl : loads s m env)
    (hi : intact s m env) :
    sizeOf s m env = size ∧ payloadOf s m env = payloadBytes size payload := by
  have hsz := sizeOf_stored hp hs hid hl.2.2.2.1
  refine ⟨hsz, payloadOf_stored hp hs hid ?_⟩
  rw [hi.1, hsz, dataLen_eq hsize]

/-- Undisturbed reads load it, and find it intact. -/
theorem intact_stored {a b : ℕ} (hp : Paths s) (hs : Stored s blob_id size payload)
    (hsize : size.toNat + 20 ≤ 16384) (hid : m.blobId 1 = blob_id)
    (ha : env.readHeader = some a) (ha' : 20 ≤ a) (hb : env.readBody = some b)
    (hb' : size.toNat + 20 ≤ b) :
    (headerOf s m env).length = 20 ∧ intact s m env := by
  obtain ⟨rest, hfile⟩ := id hs
  have hclen : size.toNat + 20 ≤ (nvmHeader size (calCRC (wordAt payload) (size >>> 2).toNat) blob_id
      ++ (payloadBytes size payload ++ rest)).length := by
    simp only [List.length_append, nvmHeader_length, payloadBytes, List.length_map,
      List.length_range]
    omega
  have hhdr : (headerOf s m env).length = 20 := by
    rw [headerOf, hid, hp.chunkName, ha]
    exact read_length hfile ha' (le_trans (Nat.le_add_left 20 _) hclen)
  have hsz := sizeOf_stored hp hs hid hhdr
  have hbody : (bodyOf s m env).length = size.toNat + 20 := by
    rw [bodyOf, hid, hp.chunkName, hb, hsz, dataLen_eq hsize]
    exact read_length hfile hb' hclen
  refine ⟨hhdr, ?_, ?_⟩
  · rw [hbody, hsz, dataLen_eq hsize]
  · rw [payloadOf_stored hp hs hid hbody, hsz, headerOf_stored hp hs hid hhdr, nvmHeader_crc]
    exact loaded_crc payload env.stray

end Reading

/-! ### The round trip -/

/-- The call is a successful export of this chunk with this size. -/
def exportsChunk (s : Nvm) (c : Call) (blob_id : BlobId) (size : UInt32) : Bool :=
  match c.recv with
  | some m => m.cmd.toNat = STORAGE_CHUNK_EXPORT_REQ ∧ m.blobId 2 = blob_id ∧ m.u32 1 = size
      ∧ succeeds s c
  | none => false

/-- The call is a successful finish of a successful export. -/
def finishesExport (s : Nvm) (c : Call) : Bool :=
  match c.recv with
  | some m => m.cmd.toNat = STORAGE_EXPORT_FINISH_REQ ∧ m.u32 1 = NVM_EXPORT_STATUS_SUCCESS
      ∧ succeeds s c
  | none => false

/-- The call receives no request. -/
def noRequest (c : Call) : Bool :=
  match c.recv with
  | some m => !isRequest m
  | none => true

/-- The response to a chunk request has this size and the address of a buffer with these bytes. -/
def Returns (s : Nvm) (c : Call) (size : UInt32) (bytes : List UInt8) : Prop :=
  ∃ r buf, (eleHandleNVMRequest s c.recv c.env).reply = some r ∧ r.chunk_size = size ∧
    r.buffer = some buf.alloc ∧ (step s c).last_data = some buf ∧ buf.payload = bytes

/-- A chunk request that is taken, and that memory and files serve. -/
structure Served (s : Nvm) (m : MuMsg) (env : Env) (size : UInt32) : Prop where
  alive : s.crashed = false
  request : isRequest m = true
  taken : accepted s m 5
  name : env.name = .ok
  memory : env.mallocData = true
  header : ∃ a, env.readHeader = some a ∧ 20 ≤ a
  body : ∃ b, env.readBody = some b ∧ size.toNat + 20 ≤ b

theorem run_phase_paths (calls : List Call) (s : Nvm) (hphase : Phase s) (hp : Paths s) :
    Phase (run step s calls) ∧ Paths (run step s calls) := by
  refine run_inv (fun t => Phase t ∧ Paths t) ?_ calls s ⟨hphase, hp⟩ fun _ _ => trivial
  rintro t c ⟨hphase, hp⟩ -
  exact ⟨step_phase t c hphase, step_paths hphase hp⟩

theorem run_noRequest (calls : List Call) (s : Nvm) (hphase : Phase s)
    (h : ∀ c ∈ calls, noRequest c = true) : run step s calls = s := by
  refine run_inv (fun t => t = s) ?_ calls s rfl h
  rintro t c rfl hc
  refine (call_no_request hphase (.inr fun m hm => ?_)).1
  simpa [noRequest, hm] using hc

/-- A successful export waits for its finish. -/
theorem step_exportsChunk {s : Nvm} {c : Call} {blob_id : BlobId} {size : UInt32}
    (h : exportsChunk s c blob_id size = true) : Exporting blob_id size (step s c) := by
  obtain ⟨recv, env⟩ := c
  cases recv with
  | none => exact absurd h (by simp [exportsChunk])
  | some m =>
    rw [exportsChunk, decide_eq_true_iff] at h
    obtain ⟨hcmd, rfl, rfl, hs⟩ := h
    obtain ⟨hcode, ht, -⟩ := handled_of_succeeds hs
    have hx := chunkExport_success hcmd hcode
    rw [ht, freeLastData_of_ne (by rw [hx.next]; decide)]
    exact hx

/-- A successful finish stores the chunk, and nothing is under way any more. -/
theorem step_finishesExport {s : Nvm} {c : Call} {blob_id : BlobId} {size : UInt32} (hp : Paths s)
    (hsize : size.toNat + 20 ≤ 16384) (hx : Exporting blob_id size s)
    (h : finishesExport s c = true) :
    Quiet (step s c) blob_id ∧ Stored (step s c) blob_id size c.env.payload := by
  obtain ⟨recv, env⟩ := c
  cases recv with
  | none => exact absurd h (by simp [finishesExport])
  | some m =>
    rw [finishesExport, decide_eq_true_iff] at h
    obtain ⟨hcmd, hst, hs⟩ := h
    obtain ⟨hcode, ht, -⟩ := handled_of_succeeds hs
    obtain ⟨n, hn, hfiles, hw⟩ := exportFinish_success hcmd hst hx hcode
    rw [hp.chunkName] at hfiles hw
    rw [ht]
    refine ⟨quiet_of_closed blob_id hn, ?_⟩
    rw [Stored, freeLastData_files, hfiles]
    exact stored_of_write hsize hw

/-- A chunk request on a stored chunk returns it whenever it succeeds, and succeeds when served. -/
theorem get_returns {s : Nvm} {m : MuMsg} {env : Env} {blob_id : BlobId} {size : UInt32}
    {payload : ℕ → UInt8} (hp : Paths s) (hs : Stored s blob_id size payload)
    (hsize : size.toNat + 20 ≤ 16384) (hcmd : m.cmd.toNat = STORAGE_CHUNK_GET_REQ)
    (hid : m.blobId 1 = blob_id) :
    (succeeds s ⟨some m, env⟩ = true → Returns s ⟨some m, env⟩ size (payloadBytes size payload)) ∧
      (Served s m env size → succeeds s ⟨some m, env⟩ = true) := by
  obtain ⟨hiff, hout⟩ := @chunkGet_success s m env hcmd
  constructor
  · intro hsucc
    obtain ⟨hcode, ht, hr⟩ := handled_of_succeeds hsucc
    obtain ⟨hl, hi⟩ := hiff.mp hcode
    obtain ⟨hsz, hbuf, hn, hdata⟩ := hout hcode
    obtain ⟨hsize', hpay⟩ := get_stored hp hs hsize hid hl hi
    refine ⟨_, ⟨s.next, sizeOf s m env, m.blobId 1, payloadOf s m env⟩, hr, ?_, hbuf, ?_, hpay⟩
    · rw [hsz, hsize']
    · rw [ht, freeLastData_of_ne (by rw [hn]; decide)]
      exact hdata
  · intro hserved
    obtain ⟨a, ha, ha'⟩ := hserved.header
    obtain ⟨b, hb, hb'⟩ := hserved.body
    obtain ⟨hhdr, hi⟩ := intact_stored hp hs hsize hid ha ha' hb hb'
    have hcode := hiff.mpr ⟨⟨hcmd, hserved.taken, hserved.name, hhdr, hserved.memory⟩, hi⟩
    have heff : Effect s m env (handleRequest s m env) := handleRequest_effect hserved.request
    have hx : (handleRequest s m env).nvm.crashed = false := by
      generalize handleRequest s m env = out at heff
      cases heff with
      | crashed e r hd _ => exact absurd (hcmd.symm.trans hd.2.1) (by decide)
      | _ => exact hserved.alive
    simp [succeeds, eleHandleNVMRequest, hserved.alive, hserved.request, hx, hcode]

/-- CORRECT: after any history, a chunk of any size within the limit that is exported and finished
    successfully stays in its file through every run of requests that neither export nor delete this
    chunk; each later request for it that succeeds returns its size and its bytes, and every one that
    memory and files serve does succeed. -/
theorem chunk_round_trip (nvm_handle : UInt32) (files : Files) (before gap after : List Call)
    (exportCall finishCall : Call) (blob_id : BlobId) (size : UInt32)
    (hexport : exportsChunk (run step (init nvm_handle files) before) exportCall blob_id size = true)
    (hsize : size.toNat + NVM_HEADER_SIZE.toNat ≤ STORAGE_MAX_DATA_SIZE.toNat)
    (hgap : ∀ c ∈ gap, noRequest c = true)
    (hfinish : finishesExport (run step (init nvm_handle files) (before ++ exportCall :: gap))
      finishCall = true)
    (hafter : ∀ c ∈ after, spares blob_id c = true) :
    let stored := run step (init nvm_handle files) (before ++ exportCall :: gap ++ [finishCall])
    let s := run step stored after
    s.files (fileOf blob_id) = stored.files (fileOf blob_id) ∧
      ∀ (m : MuMsg) (env : Env), m.cmd.toNat = STORAGE_CHUNK_GET_REQ → m.blobId 1 = blob_id →
        (succeeds s ⟨some m, env⟩ = true →
          Returns s ⟨some m, env⟩ size (payloadBytes size finishCall.env.payload)) ∧
        (Served s m env size → succeeds s ⟨some m, env⟩ = true) := by
  intro stored s
  obtain ⟨hphase₀, hp₀⟩ := run_phase_paths before _ (init_phase nvm_handle files) ⟨rfl, rfl⟩
  have hx := step_exportsChunk hexport
  have hphase₁ := step_phase _ exportCall hphase₀
  have hp₁ := step_paths (c := exportCall) hphase₀ hp₀
  have hgapRun : run step (init nvm_handle files) (before ++ exportCall :: gap)
      = step (run step (init nvm_handle files) before) exportCall := by
    rw [run_append, run_cons, run_noRequest gap _ hphase₁ hgap]
  rw [hgapRun] at hfinish
  obtain ⟨hq, hst⟩ := step_finishesExport hp₁ hsize hx hfinish
  have hstored : stored
      = step (step (run step (init nvm_handle files) before) exportCall) finishCall := by
    simp only [stored]
    rw [run_append, hgapRun]
    rfl
  rw [← hstored] at hq hst
  have hcalm : Calm blob_id stored :=
    ⟨hstored ▸ step_phase _ _ hphase₁, hstored ▸ step_paths hphase₁ hp₁, hq⟩
  obtain ⟨hcalm', hfile⟩ := run_spares after stored hcalm hafter
  refine ⟨hfile, fun m env hcmd hid => get_returns hcalm'.paths ?_ hsize hcmd hid⟩
  rw [Stored, hfile]
  exact hst

/-- Export of chunk `id` on storage handle 1. -/
def exportMsg (size id : UInt32) : MuMsg :=
  ⟨7, 7, 0xE5, 0x17, [1, size, 0, id, 0, 0x17E50707 ^^^ 1 ^^^ size ^^^ id], by simp [ELE_MU_MSG_SIZE]⟩

/-- Request for chunk `id`. -/
def getChunkMsg (id : UInt32) : MuMsg :=
  ⟨7, 6, 0xE6, 0x17, [1, 0, id, 0, 0x17E60607 ^^^ 1 ^^^ id], by simp [ELE_MU_MSG_SIZE]⟩

/-- The enclave has written `b` everywhere. -/
def envOf (b : UInt8) : Env := { okEnv with payload := fun _ => b }

/-- Chunk 1 is exported with eight bytes, then with four; chunk 2 is exported in between and after;
    the request for chunk 1 returns the last four bytes. -/
theorem short_over_long :
    Returns (run step (init 1 fun _ => none)
      ([⟨some (exportMsg 8 1), okEnv⟩, ⟨some finishMsg, envOf 3⟩,
        ⟨some (exportMsg 4 1), okEnv⟩, ⟨none, okEnv⟩] ++ [⟨some finishMsg, envOf 5⟩] ++
        [⟨some (exportMsg 4 2), okEnv⟩, ⟨some finishMsg, envOf 7⟩]))
      ⟨some (getChunkMsg 1), okEnv⟩ 4 [5, 5, 5, 5] := by
  rw [run_append]
  exact ((chunk_round_trip 1 (fun _ => none) [⟨some (exportMsg 8 1), okEnv⟩,
    ⟨some finishMsg, envOf 3⟩] [⟨none, okEnv⟩] [⟨some (exportMsg 4 2), okEnv⟩,
    ⟨some finishMsg, envOf 7⟩] ⟨some (exportMsg 4 1), okEnv⟩ ⟨some finishMsg, envOf 5⟩ ⟨0, 1, 0⟩ 4
    (by decide +kernel) (by decide) (by decide) (by decide +kernel) (by decide)).2
    (getChunkMsg 1) okEnv (by decide) (by decide)).1 (by decide +kernel)

end ImxHal.Enclave
