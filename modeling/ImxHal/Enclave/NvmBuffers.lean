import ImxHal.Enclave.NvmStore
import ImxHal.Enclave.ResponseCode

/-! @src secure-enclave/lib/EleOperation.cpp (eleHandleMasterExportReq, eleHandleChunkExportReq,
    eleNvmMasterImport, eleHandleChunkGetReq, calCRC), secure-enclave/lib/include/EleMessage.h |
    name:NVM buffer sizes | scheme:footprint | family:memory safety

    One 32-bit field gives the size of a data buffer, `size + 20`, the number of bytes that the
    enclave moves, `size`, and the number of words that the checksum is made of, `size >> 2`:

        ┌ header (20 bytes) ┬ word 0 ┬ … ┬ word (size >> 2) - 1 ┬ size % 4 bytes ┐
        └───────────────────┴──────────── checksum ─────────────┴───── none ─────┘

    The sum wraps around for the twenty largest sizes. Such an export passes the limit of 16K and is
    given a buffer of less than twenty bytes, and such a file is read from far behind its buffer. The
    bytes behind the last word are loaded unchecked. -/

namespace ImxHal.Enclave
open ImxHal.Footprint ImxHal.Footprint.Reader ImxHal.Bytes
open ImxHal.SecureEnclave.Mu (Memory Reading run_calCRC within_calCRC)

/-! ### Sizes -/

/-- `data_len`, which `malloc` is called with. -/
def dataLen (size : UInt32) : ℕ := (size + NVM_HEADER_SIZE).toNat

/-- The room behind a data buffer. -/
def DataBuf.capacity (buf : DataBuf) : ℕ := dataLen buf.size

/-- The sum of header and payload is a 32-bit number. -/
def Fits (size : UInt32) : Prop := NVM_HEADER_SIZE.toNat + size.toNat < 2 ^ 32

instance (size : UInt32) : Decidable (Fits size) := inferInstanceAs (Decidable (_ < _))

variable {size : UInt32}

theorem dataLen_of_fits (h : Fits size) : dataLen size = NVM_HEADER_SIZE.toNat + size.toNat := by
  rw [Fits] at h
  rw [dataLen, UInt32.toNat_add, Nat.add_comm, Nat.mod_eq_of_lt h]

/-- A sum that wraps around does not even leave room for the header. -/
theorem dataLen_of_not_fits (h : ¬ Fits size) : dataLen size < NVM_HEADER_SIZE.toNat := by
  have hlt := size.toNat_lt
  have hheader : NVM_HEADER_SIZE.toNat = 20 := rfl
  rw [Fits, hheader] at h
  rw [dataLen, UInt32.toNat_add, hheader]
  omega

theorem le_dataLen_iff : NVM_HEADER_SIZE.toNat + size.toNat ≤ dataLen size ↔ Fits size := by
  constructor
  · intro hle
    by_contra hwrap
    have hlt := dataLen_of_not_fits hwrap
    omega
  · intro hfits
    exact (dataLen_of_fits hfits).ge

/-! ### Exports -/

/-- The two requests that export a blob. -/
inductive ExportReq where | master | chunk

namespace ExportReq

def handle : ExportReq → Nvm → MuMsg → UInt32 → Env → Handled
  | master => eleHandleMasterExportReq
  | chunk => eleHandleChunkExportReq

/-- The words of the request struct. -/
def words : ExportReq → ℕ
  | master => 2
  | chunk => 6

end ExportReq

/-- `master_data_size` and `chunk_size`: both stand behind the storage handle. -/
def exportSize (m : MuMsg) : UInt32 := m.u32 1

/-- The buffer of an export that is granted holds header and data, and no export is granted that
    is over the limit. -/
structure ExportSized (m : MuMsg) (out : Handled) : Prop where
  room : out.reply.rsp_code = ELE_COMMAND_SUCCEED → ∃ buf, out.nvm.last_data = some buf ∧
    out.reply.buffer = some buf.alloc ∧
    NVM_HEADER_SIZE.toNat + (exportSize m).toNat ≤ buf.capacity
  limit : STORAGE_MAX_DATA_SIZE.toNat < NVM_HEADER_SIZE.toNat + (exportSize m).toNat →
    out.reply.rsp_code ≠ ELE_COMMAND_SUCCEED

/-- The request passes the checks of its handler, and `malloc` gives a buffer. -/
def ExportReq.getsBuffer (req : ExportReq) (s : Nvm) (m : MuMsg) (info : UInt32) (env : Env) : Prop :=
  refused info (m.cmdLen = sizeMsg req.words) (m.u32 0 = s.nvm_handle) = none ∧
    env.mallocData = true

variable {s : Nvm} {m : MuMsg} {info : UInt32} {env : Env}

/-- The size is not zero, and what is to be allocated is not over the limit. -/
def SizeOk (size : UInt32) : Prop := size ≠ 0 ∧ dataLen size ≤ STORAGE_MAX_DATA_SIZE.toNat

/-- The two ends of the common body of the handlers. -/
theorem handleExportReq_cases (s : Nvm) (m : MuMsg) (info : UInt32) (env : Env) (words : ℕ)
    (size : UInt32) (blob_id : BlobId) (rspWords : ℕ) (handle : UInt32) :
    let out := handleExportReq s m info env words size blob_id rspWords handle
    let granted := (refused info (m.cmdLen = sizeMsg words) (m.u32 0 = s.nvm_handle) = none ∧
      env.mallocData = true) ∧ SizeOk size
    (granted ∧ out.reply.rsp_code = ELE_COMMAND_SUCCEED ∧ out.reply.buffer = some s.next ∧
        out.nvm.last_data = some ⟨s.next, size, blob_id, []⟩) ∨
      (¬ granted ∧ out.reply.rsp_code ≠ ELE_COMMAND_SUCCEED) := by
  intro out granted
  have hgeneral : ELE_COMMAND_GENERAL_ERROR ≠ ELE_COMMAND_SUCCEED := by decide
  cases hr : refused info (m.cmdLen = sizeMsg words) (m.u32 0 = s.nvm_handle) with
  | some code =>
    right
    refine ⟨fun h => absurd (hr.symm.trans h.1.1) (Option.some_ne_none code), ?_⟩
    simp only [out, handleExportReq, hr]
    exact refused_ne_succeed hr
  | none =>
    simp only [out, granted, handleExportReq, hr]
    split
    · next hsize =>
      right
      refine ⟨?_, hgeneral⟩
      rintro ⟨-, hne, hle⟩
      rcases hsize with hzero | hover
      · exact hne hzero
      · exact absurd hle (not_le.mpr (UInt32.lt_iff_toNat_lt.mp hover))
    · next hsize =>
      obtain ⟨hne, hover⟩ := not_or.mp hsize
      have hok : SizeOk size := ⟨hne, not_lt.mp fun h => hover (UInt32.lt_iff_toNat_lt.mpr h)⟩
      split
      · next hmalloc => exact .inr ⟨fun h => by simp [hmalloc] at h, hgeneral⟩
      · next hmalloc => exact .inl ⟨⟨⟨trivial, Bool.not_eq_false _ ▸ hmalloc⟩, hok⟩, rfl, rfl, rfl⟩

/-- Both requests end in one of these two ways. -/
theorem ExportReq.handle_cases (req : ExportReq) (s : Nvm) (m : MuMsg) (info : UInt32) (env : Env) :
    (req.getsBuffer s m info env ∧ SizeOk (exportSize m) ∧
        (req.handle s m info env).reply.rsp_code = ELE_COMMAND_SUCCEED ∧
        ∃ buf, (req.handle s m info env).nvm.last_data = some buf ∧
          (req.handle s m info env).reply.buffer = some buf.alloc ∧ buf.size = exportSize m) ∨
      (¬ (req.getsBuffer s m info env ∧ SizeOk (exportSize m)) ∧
        (req.handle s m info env).reply.rsp_code ≠ ELE_COMMAND_SUCCEED) := by
  cases req with
  | master =>
    rcases handleExportReq_cases s m info env 2 (m.u32 1) ⟨0, 0, 0⟩ 3 s.nvm_handle with
      ⟨⟨hg, hs⟩, hc, hb, hl⟩ | h
    · exact .inl ⟨hg, hs, hc, _, hl, hb, rfl⟩
    · exact .inr h
  | chunk =>
    rcases handleExportReq_cases s m info env 6 (m.u32 1) (m.blobId 2) 2 0 with
      ⟨⟨hg, hs⟩, hc, hb, hl⟩ | h
    · exact .inl ⟨hg, hs, hc, _, hl, hb, rfl⟩
    · exact .inr h

theorem sizeOk_of_not_fits (h : ¬ Fits size) : SizeOk size := by
  have hlt := dataLen_of_not_fits h
  have hheader : NVM_HEADER_SIZE.toNat = 20 := rfl
  have hmax : STORAGE_MAX_DATA_SIZE.toNat = 16384 := rfl
  refine ⟨?_, by omega⟩
  rintro rfl
  exact h (by decide)

/-- Exports are sized as their requests say, except where a granted size wraps around. -/
theorem exportSized_iff (req : ExportReq) (s : Nvm) (m : MuMsg) (info : UInt32) (env : Env) :
    ExportSized m (req.handle s m info env)
      ↔ (req.getsBuffer s m info env → Fits (exportSize m)) := by
  rcases req.handle_cases s m info env with
    ⟨hbuf, hok, hcode, buf, hlast, haddr, hsize⟩ | ⟨hnot, hcode⟩
  · constructor
    · rintro ⟨hroom, -⟩ -
      obtain ⟨buf', hlast', -, hle⟩ := hroom hcode
      rw [Option.some.inj (hlast'.symm.trans hlast), DataBuf.capacity, hsize] at hle
      exact le_dataLen_iff.mp hle
    · intro hfits
      have hlen := dataLen_of_fits (hfits hbuf)
      refine ⟨fun _ => ⟨buf, hlast, haddr, ?_⟩, fun hover => ?_⟩
      · rw [DataBuf.capacity, hsize, hlen]
      · exact absurd hok.2 (not_le.mpr (hlen ▸ hover))
  · constructor
    · intro _ hbuf
      by_contra hwrap
      exact hnot ⟨hbuf, sizeOk_of_not_fits hwrap⟩
    · intro _
      exact ⟨fun h => absurd h hcode, fun _ => hcode⟩

/-- Nothing outside fails. -/
def calm : Env where
  name := .ok
  mallocData := true
  phys := 0x80000000
  payload _ := 0
  stray _ := 0
  readHeader := some (2 ^ 32)
  readBody := some (2 ^ 32)
  write := some (2 ^ 32)
  removeOk := true
  sendOk := true

/-- An export of 4294967280 bytes, for which four are allocated. -/
def hugeExport : MuMsg := ⟨7, 3, 0xE3, 0x17, [1, 0xFFFFFFF0], by decide⟩

theorem huge_export_granted : ¬ ExportSized hugeExport
    (ExportReq.master.handle (init 1 fun _ => none) hugeExport ELE_COMMAND_SUCCEED calm) := by
  intro h
  obtain ⟨buf, hlast, -, hle⟩ := h.room (by decide)
  obtain rfl := Option.some.inj hlast
  exact absurd hle (by decide)

/-! ### Loads -/

section Load
variable (files : Files) (name : Name) (env : Env)

/-- `blob_hdr`, from the first read of the file. -/
def blobHdr : List UInt8 := readStorageFile files name NVM_HEADER_SIZE.toNat env.readHeader

def blobSize : UInt32 := wordAt (bytesOf (blobHdr files name env)) 0

def blobCrc : UInt32 := wordAt (bytesOf (blobHdr files name env)) 1

/-- The second read; it starts at the header again. -/
def blobBody : List UInt8 :=
  readStorageFile files name (dataLen (blobSize files name env)) env.readBody

def blobPayload : List UInt8 := (blobBody files name env).drop NVM_HEADER_SIZE.toNat

/-- The memory from `data + NVM_HEADER_SIZE` on. -/
def behindHeader : Memory := loaded (blobPayload files name env) env.stray

/-- The step at which a load may give up. -/
inductive LoadError where | header | memory | body | crc

structure Blob where
  size : UInt32
  payload : List UInt8

/-- What both loads have in common, from the first read of the file to the comparison of the
    checksums. The cells that are read are bytes of the data buffer, counted behind the header. -/
def loadBlob : Reading (Except LoadError Blob) :=
  let size := blobSize files name env
  if (blobHdr files name env).length ≠ NVM_HEADER_SIZE.toNat then pure (.error .header)
  else if env.mallocData = false then pure (.error .memory)
  else if (blobBody files name env).length ≠ dataLen size then pure (.error .body)
  else do
    let crc ← SecureEnclave.Mu.calCRC (size >>> 2).toNat
    if crc ≠ blobCrc files name env then pure (.error .crc)
    else pure (.ok ⟨size, blobPayload files name env⟩)

end Load

/-- `struct storage_master_import_msg_cmd` -/
structure MasterImport where
  nvm_storage_handle : UInt32
  master_data_lsb_addr : UInt32
  master_data_size : UInt32

/-- The error of the call, and the message if one is sent. -/
structure Imported where
  error : ErrorType
  sent : Option MasterImport

/-- A daemon without a master file has nothing to import. -/
def eleNvmMasterImport (s : Nvm) (env : Env) : Reading Imported := do
  match ← loadBlob s.files s.nvm_master_name env with
  | .error .header => pure ⟨.ELE_NO_ERROR, none⟩
  | .error .memory => pure ⟨.ELE_MEMORY_FAILURE, none⟩
  | .error _ => pure ⟨.ELE_GENERAL_ERROR, none⟩
  | .ok blob =>
    if s.nvm_handle = 0 then pure ⟨.ELE_GENERAL_ERROR, none⟩
    else if env.phys = 0 then pure ⟨.ELE_GENERAL_ERROR, none⟩
    else pure ⟨if env.sendOk then .ELE_NO_ERROR else .ELE_GENERAL_ERROR,
      some ⟨s.nvm_handle, env.phys, blob.size⟩⟩

/-- `eleHandleChunkGetReq` with its reads of the data buffer. -/
def chunkGetReading (s : Nvm) (m : MuMsg) (rspMsgInfo : UInt32) (env : Env) : Reading Handled :=
  let s := { s with prev_command := m.cmd.toNat, next_command := STORAGE_NVM_LAST_CMD }
  let failed : UInt32 → Reply := fun code => ⟨code, 0, 0, none, 0, sizeMsg 3⟩
  match refused rspMsgInfo (m.cmdLen = sizeMsg 5) (m.u32 0 = s.nvm_handle) with
  | some code => pure ⟨.ELE_INVALID_MESSAGE, failed code, s⟩
  | none =>
    match env.name with
    | .noMemory => pure ⟨.ELE_MEMORY_FAILURE, failed ELE_COMMAND_GENERAL_ERROR, s⟩
    | .badFormat => pure ⟨.ELE_GENERAL_ERROR, failed ELE_COMMAND_GENERAL_ERROR, s⟩
    | .ok => do
      match ← loadBlob s.files (chunkName s (m.blobId 1)) env with
      | .error .header => pure ⟨.ELE_GENERAL_ERROR, failed ELE_COMMAND_GENERAL_ERROR, s⟩
      | .error .memory => pure ⟨.ELE_MEMORY_FAILURE, failed ELE_COMMAND_GENERAL_ERROR, s⟩
      | .error _ =>
        pure ⟨.ELE_GENERAL_ERROR, failed ELE_COMMAND_GENERAL_ERROR, { s with next := s.next + 1 }⟩
      | .ok blob => pure ⟨.ELE_NO_ERROR,
        ⟨ELE_COMMAND_SUCCEED, 0, env.phys, some s.next, blob.size, sizeMsg 3⟩, { s with
        next_command := STORAGE_CHUNK_GET_DONE_REQ
        last_data := some ⟨s.next, blob.size, m.blobId 1, blob.payload⟩
        next := s.next + 1 }⟩

section Load
variable {files : Files} {name : Name} {env : Env} {memory : Memory}

/-- What a load comes to, in the memory it finds behind the header. -/
theorem run_loadBlob : run memory (loadBlob files name env)
    = if (blobHdr files name env).length ≠ NVM_HEADER_SIZE.toNat then .error .header
      else if env.mallocData = false then .error .memory
      else if (blobBody files name env).length ≠ dataLen (blobSize files name env) then .error .body
      else if calCRC (wordAt memory) (blobSize files name env >>> 2).toNat ≠ blobCrc files name env then
        .error .crc
      else .ok ⟨blobSize files name env, blobPayload files name env⟩ := by
  simp only [loadBlob, run_ite, run_bind, run_calCRC, run_pure]

end Load

/-- The reads aside, it is the handler. -/
theorem run_chunkGetReading (s : Nvm) (m : MuMsg) (info : UInt32) (env : Env) :
    run (behindHeader s.files (chunkName s (m.blobId 1)) env) (chunkGetReading s m info env)
      = eleHandleChunkGetReq s m info env := by
  simp only [chunkGetReading, eleHandleChunkGetReq]
  cases refused info (m.cmdLen = sizeMsg 5) (m.u32 0 = s.nvm_handle) with
  | some code => rfl
  | none =>
    cases env.name with
    | noMemory => rfl
    | badFormat => rfl
    | ok =>
      have hname : chunkName { s with
          prev_command := m.cmd.toNat
          next_command := STORAGE_NVM_LAST_CMD } (m.blobId 1) = chunkName s (m.blobId 1) := rfl
      dsimp only
      rw [run_bind, run_loadBlob, hname]
      by_cases hheader :
          (blobHdr s.files (chunkName s (m.blobId 1)) env).length ≠ NVM_HEADER_SIZE.toNat
      · rw [if_pos hheader]
        exact (if_pos hheader).symm
      rw [if_neg hheader]
      refine Eq.trans ?_ (if_neg hheader).symm
      by_cases hmalloc : env.mallocData = false
      · rw [if_pos hmalloc, if_pos hmalloc]
        rfl
      rw [if_neg hmalloc, if_neg hmalloc]
      by_cases hbody : (blobBody s.files (chunkName s (m.blobId 1)) env).length
          ≠ dataLen (blobSize s.files (chunkName s (m.blobId 1)) env)
      · rw [if_pos hbody]
        exact (if_pos hbody).symm
      rw [if_neg hbody]
      refine Eq.trans ?_ (if_neg hbody).symm
      by_cases hcrc : calCRC (wordAt (behindHeader s.files (chunkName s (m.blobId 1)) env))
          (blobSize s.files (chunkName s (m.blobId 1)) env >>> 2).toNat
          ≠ blobCrc s.files (chunkName s (m.blobId 1)) env
      · rw [if_pos hcrc]
        exact (if_pos hcrc).symm
      · rw [if_neg hcrc]
        exact (if_neg hcrc).symm

/-! ### What a load reads -/

section Load
variable {files : Files} {name : Name} {env : Env} {memory : Memory}

/-- The load gets to the checksum. -/
def Complete (files : Files) (name : Name) (env : Env) : Prop :=
  (blobHdr files name env).length = NVM_HEADER_SIZE.toNat ∧ env.mallocData = true ∧
    (blobBody files name env).length = dataLen (blobSize files name env)

/-- The checksum is the one of the header. -/
def CrcRight (files : Files) (name : Name) (env : Env) : Prop :=
  calCRC (wordAt (behindHeader files name env)) (blobSize files name env >>> 2).toNat
    = blobCrc files name env

instance : Decidable (Complete files name env) := inferInstanceAs (Decidable (_ ∧ _))

instance : Decidable (CrcRight files name env) := inferInstanceAs (Decidable (_ = _))

theorem loadBlob_ok_iff : (∃ blob, run (behindHeader files name env) (loadBlob files name env) = .ok blob)
    ↔ Complete files name env ∧ CrcRight files name env := by
  rw [run_loadBlob, Complete, CrcRight]
  by_cases hheader : (blobHdr files name env).length = NVM_HEADER_SIZE.toNat
  · by_cases hmalloc : env.mallocData = true
    · by_cases hbody : (blobBody files name env).length = dataLen (blobSize files name env)
      · have hmalloc' : ¬ env.mallocData = false := by simp [hmalloc]
        rw [if_neg (not_not.mpr hheader), if_neg hmalloc', if_neg (not_not.mpr hbody)]
        by_cases hcrc : calCRC (wordAt (behindHeader files name env))
            (blobSize files name env >>> 2).toNat = blobCrc files name env
        · rw [if_neg (not_not.mpr hcrc)]
          exact ⟨fun _ => ⟨⟨hheader, hmalloc, hbody⟩, hcrc⟩, fun _ => ⟨_, rfl⟩⟩
        · rw [if_pos hcrc]
          exact ⟨fun ⟨_, h⟩ => absurd h (by simp), fun h => absurd h.2 hcrc⟩
      · simp [hheader, hmalloc, hbody]
    · simp [hheader, hmalloc]
  · simp [hheader]

/-- A load that gets to the checksum reads what the checksum is made of. -/
theorem footprint_loadBlob (h : Complete files name env) : footprint memory (loadBlob files name env)
    = footprint memory (SecureEnclave.Mu.calCRC (blobSize files name env >>> 2).toNat) := by
  obtain ⟨hheader, hmalloc, hbody⟩ := h
  have hrest : ∀ crc, footprint memory (if crc ≠ blobCrc files name env then pure (.error .crc)
      else pure (.ok ⟨blobSize files name env, blobPayload files name env⟩) :
        Reading (Except LoadError Blob)) = [] := by
    intro crc
    split
    · rfl
    · rfl
  simp only [loadBlob]
  rw [if_neg (not_not.mpr hheader), if_neg (by simp [hmalloc]), if_neg (not_not.mpr hbody),
    footprint_bind, hrest, List.append_nil]

theorem footprint_loadBlob_of_not (h : ¬ Complete files name env) :
    footprint memory (loadBlob files name env) = [] := by
  simp only [loadBlob]
  split
  · rfl
  · next hheader =>
    split
    · rfl
    · next hmalloc =>
      split
      · rfl
      · next hbody =>
        exact absurd ⟨not_not.mp hheader, by simpa using hmalloc, not_not.mp hbody⟩ h

theorem mem_footprint_calCRC {len i : ℕ} :
    i ∈ footprint memory (SecureEnclave.Mu.calCRC len) ↔ i < 4 * len := by
  have hnot : i ∉ footprint memory (SecureEnclave.Mu.calCRC len) ↔ ¬ i < 4 * len := by
    calc i ∉ footprint memory (SecureEnclave.Mu.calCRC len)
        ↔ Within (· ≠ i) memory (SecureEnclave.Mu.calCRC len) := by
          rw [Within]
          exact ⟨fun h j hj hji => h (hji ▸ hj), fun h hi => h i hi rfl⟩
      _ ↔ ∀ k < len, 4 * k ≠ i ∧ 4 * k + 1 ≠ i ∧ 4 * k + 2 ≠ i ∧ 4 * k + 3 ≠ i := within_calCRC len
      _ ↔ ¬ i < 4 * len := by
          constructor
          · intro h hi
            have hk := h (i / 4) (by omega)
            omega
          · intro h k hk
            omega
  exact not_iff_not.mp hnot

/-- The bytes of the checksum: those of the whole words. -/
theorem mem_footprint_loadBlob {i : ℕ} : i ∈ footprint memory (loadBlob files name env)
    ↔ Complete files name env ∧ i < 4 * ((blobSize files name env).toNat / 4) := by
  by_cases h : Complete files name env
  · rw [footprint_loadBlob h, mem_footprint_calCRC, shift_toNat]
    exact (and_iff_right h).symm
  · rw [footprint_loadBlob_of_not h]
    simp [h]

/-! ### A byte of the file is changed -/

variable {content : List UInt8}

/-- The file with another byte in the `i`-th place behind the header. -/
def withByte (files : Files) (name : Name) (content : List UInt8) (i : ℕ) (b : UInt8) : Files :=
  Function.update files name (some (content.set (NVM_HEADER_SIZE.toNat + i) b))

/-- A read stays within the size it is given. -/
theorem readStorageFile_length_le (files : Files) (name : Name) (size : ℕ) (io : Option ℕ) :
    (readStorageFile files name size io).length ≤ size := by
  unfold readStorageFile
  split
  · rw [List.length_take]
    omega
  · exact Nat.zero_le size

theorem read_withByte {size i : ℕ} {b : UInt8} {io : Option ℕ} (hfile : files name = some content) :
    readStorageFile (withByte files name content i b) name size io
      = (readStorageFile files name size io).set (NVM_HEADER_SIZE.toNat + i) b := by
  have hnew : withByte files name content i b name
      = some (content.set (NVM_HEADER_SIZE.toNat + i) b) := Function.update_self ..
  unfold readStorageFile
  rw [hnew, hfile]
  cases io with
  | none => rfl
  | some n => exact List.take_set

variable {i : ℕ} {b : UInt8}

/-- The header is not changed. -/
theorem blobHdr_withByte (hfile : files name = some content) :
    blobHdr (withByte files name content i b) name env = blobHdr files name env := by
  rw [blobHdr, read_withByte hfile, ← blobHdr]
  refine List.set_eq_of_length_le ?_
  exact (readStorageFile_length_le files name _ _).trans (Nat.le_add_right ..)

theorem blobSize_withByte (hfile : files name = some content) :
    blobSize (withByte files name content i b) name env = blobSize files name env := by
  rw [blobSize, blobHdr_withByte hfile, ← blobSize]

theorem blobPayload_withByte (hfile : files name = some content) :
    blobPayload (withByte files name content i b) name env
      = (blobPayload files name env).set i b := by
  rw [blobPayload, blobBody, blobSize_withByte hfile, read_withByte hfile, ← blobBody, blobPayload,
    List.drop_set, if_neg (by omega), Nat.add_sub_cancel_left]

/-- The payload of a complete load stands in the file behind the header. -/
theorem blobPayload_getElem? (hfile : files name = some content)
    (hi : i < (blobPayload files name env).length) :
    (blobPayload files name env)[i]? = content[NVM_HEADER_SIZE.toNat + i]? := by
  rw [blobPayload, List.length_drop] at hi
  rw [blobPayload, List.getElem?_drop, blobBody, read_start hfile rfl, ← blobBody,
    List.getElem?_take_of_lt (by omega)]

theorem length_blobPayload (h : Complete files name env) (hfits : Fits (blobSize files name env)) :
    (blobPayload files name env).length = (blobSize files name env).toNat := by
  rw [blobPayload, List.length_drop, h.2.2, dataLen_of_fits hfits, Nat.add_sub_cancel_left]

/-- Another byte in a whole word of the payload gives another checksum. -/
theorem not_crcRight_withByte (hfile : files name = some content) (h : Complete files name env)
    (hfits : Fits (blobSize files name env)) (hright : CrcRight files name env)
    (hi : i < 4 * ((blobSize files name env).toNat / 4))
    (hb : content[NVM_HEADER_SIZE.toNat + i]? ≠ some b) :
    ¬ CrcRight (withByte files name content i b) name env := by
  have hlen := length_blobPayload h hfits
  have hin : i < (blobPayload files name env).length := by omega
  have hother : ∀ j, j ≠ i → behindHeader files name env j
      = behindHeader (withByte files name content i b) name env j := by
    intro j hj
    rw [behindHeader, behindHeader, blobPayload_withByte hfile, loaded, loaded, List.length_set,
      bytesOf, bytesOf, List.getD_eq_getElem?_getD, List.getD_eq_getElem?_getD,
      List.getElem?_set_ne hj.symm]
  have hchanged : behindHeader files name env i
      ≠ behindHeader (withByte files name content i b) name env i := by
    have hold := blobPayload_getElem? hfile hin
    rw [List.getElem?_eq_getElem hin] at hold
    rw [behindHeader, behindHeader, blobPayload_withByte hfile, loaded, loaded, List.length_set,
      if_pos hin, if_pos hin, bytesOf, bytesOf, List.getD_eq_getElem?_getD,
      List.getD_eq_getElem?_getD, List.getElem?_set_self hin, List.getElem?_eq_getElem hin]
    exact fun heq => hb (hold ▸ congrArg some heq)
  intro hnew
  rw [CrcRight, blobCrc, blobHdr_withByte hfile, ← blobCrc, blobSize_withByte hfile, shift_toNat,
    ← hright, shift_toNat] at hnew
  refine calCRC_ne (j := i / 4) (fun k hk => ?_) (wordAt_ne hchanged) (by omega) hnew.symm
  rw [wordAt, wordAt, hother _ (by omega), hother _ (by omega), hother _ (by omega),
    hother _ (by omega)]

end Load

/-! ### Both loads -/

section Loads
variable {ρ : Type} (files : Files) (name : Name) (env : Env) (load : Files → Reading ρ)
  (hands : ρ → Prop)

/-- What a load gives with these files. -/
def outcome : ρ := run (behindHeader files name env) (load files)

/-- Both reads of the file fit what they are read into, the checksum is made of bytes in the buffer,
    and a load that hands its data to the enclave is protected by the checksum in every byte. -/
structure LoadChecked : Prop where
  file : (blobHdr files name env).length ≤ NVM_HEADER_SIZE.toNat ∧
    (blobBody files name env).length ≤ dataLen (blobSize files name env)
  crc : Within (fun i => NVM_HEADER_SIZE.toNat + i < dataLen (blobSize files name env))
    (behindHeader files name env) (load files)
  covered : hands (outcome files name env load) → ∀ i < (blobSize files name env).toNat,
    i ∈ footprint (behindHeader files name env) (load files)
  sensitive : hands (outcome files name env load) → ∀ content, files name = some content →
    ∀ i < (blobSize files name env).toNat, ∀ b, content[NVM_HEADER_SIZE.toNat + i]? ≠ some b →
      ¬ hands (outcome (withByte files name content i b) name env load)

/-- The function loads a blob of this name once it is past `before`, reads the buffer for nothing
    else, and hands the data over if `after` holds. -/
structure IsLoad (before after : Prop) : Prop where
  reads : ∀ files memory i, i ∈ footprint memory (load files)
    ↔ before ∧ i ∈ footprint memory (loadBlob files name env)
  hands_iff : ∀ files memory, hands (run memory (load files))
    ↔ before ∧ after ∧ ∃ blob, run memory (loadBlob files name env) = .ok blob

variable {files name env load hands} {before after : Prop}

/-- A load is checked unless it gets to the checksum with a size that wraps around, or hands over
    a size that is no multiple of four. -/
theorem loadChecked_iff (h : IsLoad name env load hands before after) :
    LoadChecked files name env load hands ↔ (before → Complete files name env →
      Fits (blobSize files name env) ∧
        (after → CrcRight files name env → 4 ∣ (blobSize files name env).toNat)) := by
  have hreads : ∀ i, i ∈ footprint (behindHeader files name env) (load files)
      ↔ before ∧ Complete files name env ∧ i < 4 * ((blobSize files name env).toNat / 4) := by
    intro i
    rw [h.reads, mem_footprint_loadBlob]
  have hhands : ∀ files, hands (outcome files name env load)
      ↔ before ∧ after ∧ Complete files name env ∧ CrcRight files name env := by
    intro files
    rw [outcome, h.hands_iff, loadBlob_ok_iff]
  have hheader : NVM_HEADER_SIZE.toNat = 20 := rfl
  constructor
  · intro hchecked hbefore hcomplete
    have hfits : Fits (blobSize files name env) := by
      by_contra hwrap
      have hlt := dataLen_of_not_fits hwrap
      rw [Fits, hheader] at hwrap
      -- the first byte of the checksum
      have hin := hchecked.crc 0 ((hreads 0).mpr ⟨hbefore, hcomplete, by omega⟩)
      omega
    refine ⟨hfits, fun hafter hright => ?_⟩
    have hcovered := hchecked.covered ((hhands files).mpr ⟨hbefore, hafter, hcomplete, hright⟩)
    by_contra hdvd
    -- the last byte of the payload
    have hlast := ((hreads _).mp (hcovered ((blobSize files name env).toNat - 1) (by omega))).2.2
    omega
  · intro hcond
    refine ⟨⟨readStorageFile_length_le .., readStorageFile_length_le ..⟩, ?_, ?_, ?_⟩
    · intro i hi
      obtain ⟨hbefore, hcomplete, hlt⟩ := (hreads i).mp hi
      rw [dataLen_of_fits (hcond hbefore hcomplete).1]
      omega
    · intro hgiven i hi
      obtain ⟨hbefore, hafter, hcomplete, hright⟩ := (hhands files).mp hgiven
      have hdvd := (hcond hbefore hcomplete).2 hafter hright
      exact (hreads i).mpr ⟨hbefore, hcomplete, by omega⟩
    · intro hgiven content hfile i hi b hb hagain
      obtain ⟨hbefore, hafter, hcomplete, hright⟩ := (hhands files).mp hgiven
      obtain ⟨hfits, hdvd⟩ := hcond hbefore hcomplete
      have hdvd := hdvd hafter hright
      exact not_crcRight_withByte hfile hcomplete hfits hright (by omega) hb
        ((hhands _).mp hagain).2.2.2

end Loads

/-- The import of the master blob, with the files it finds. -/
def importOf (s : Nvm) (env : Env) (files : Files) : Reading Imported :=
  eleNvmMasterImport { s with files := files } env

/-- The load of a chunk, with the files it finds. -/
def chunkOf (s : Nvm) (m : MuMsg) (info : UInt32) (env : Env) (files : Files) : Reading Handled :=
  chunkGetReading { s with files := files } m info env

/-- What the load of a chunk gives is what the handler gives. -/
theorem outcome_chunkOf (files : Files) :
    outcome files (chunkName s (m.blobId 1)) env (chunkOf s m info env)
      = eleHandleChunkGetReq { s with files := files } m info env :=
  run_chunkGetReading { s with files := files } m info env

/-- The message with the data is sent to the enclave. -/
def Imported.Hands (out : Imported) : Prop := out.sent ≠ none

/-- The request is answered with the data. -/
def Handled.Hands (out : Handled) : Prop := out.reply.rsp_code = ELE_COMMAND_SUCCEED

theorem isLoad_import : IsLoad s.nvm_master_name env (importOf s env) Imported.Hands True
    (s.nvm_handle ≠ 0 ∧ env.phys ≠ 0) where
  reads files memory i := by
    rw [importOf, eleNvmMasterImport, footprint_bind_of_pure, and_iff_right trivial]
    intro result
    split
    · exact ⟨_, rfl⟩
    · exact ⟨_, rfl⟩
    · exact ⟨_, rfl⟩
    · split
      · exact ⟨_, rfl⟩
      · split
        · exact ⟨_, rfl⟩
        · exact ⟨_, rfl⟩
  hands_iff files memory := by
    rw [importOf, eleNvmMasterImport, run_bind, and_iff_right trivial, Imported.Hands]
    cases run memory (loadBlob files s.nvm_master_name env) with
    | error e => cases e <;> simp
    | ok blob =>
      by_cases hhandle : s.nvm_handle = 0
      · simp [hhandle]
      · by_cases hphys : env.phys = 0
        · simp [hphys]
        · simp [hhandle, hphys]

/-- A chunk request that gets as far as the file. -/
def getsFile (s : Nvm) (m : MuMsg) (info : UInt32) (env : Env) : Prop :=
  refused info (m.cmdLen = sizeMsg 5) (m.u32 0 = s.nvm_handle) = none ∧ env.name = .ok

theorem isLoad_chunk : IsLoad (chunkName s (m.blobId 1)) env (chunkOf s m info env) Handled.Hands
    (getsFile s m info env) True where
  reads files memory i := by
    rw [chunkOf, chunkGetReading, getsFile]
    cases refused info (m.cmdLen = sizeMsg 5) (m.u32 0 = s.nvm_handle) with
    | some code => simp
    | none =>
      cases env.name with
      | noMemory => simp
      | badFormat => simp
      | ok =>
        rw [and_iff_right ⟨rfl, rfl⟩]
        refine iff_of_eq (congrArg (i ∈ ·) (footprint_bind_of_pure fun result => ?_))
        split
        · exact ⟨_, rfl⟩
        · exact ⟨_, rfl⟩
        · exact ⟨_, rfl⟩
        · exact ⟨_, rfl⟩
  hands_iff files memory := by
    have hfailed : ELE_COMMAND_GENERAL_ERROR ≠ ELE_COMMAND_SUCCEED := by decide
    rw [chunkOf, chunkGetReading, getsFile, Handled.Hands]
    cases hrefused : refused info (m.cmdLen = sizeMsg 5) (m.u32 0 = s.nvm_handle) with
    | some code => simp [refused_ne_succeed hrefused]
    | none =>
      cases env.name with
      | noMemory => simp [hfailed]
      | badFormat => simp [hfailed]
      | ok =>
        have hname : chunkName { s with
            files := files
            prev_command := m.cmd.toNat
            next_command := STORAGE_NVM_LAST_CMD } (m.blobId 1) = chunkName s (m.blobId 1) := rfl
        dsimp only
        rw [run_bind, hname]
        cases run memory (loadBlob files (chunkName s (m.blobId 1)) env) with
        | error e => cases e <;> simp [hfailed]
        | ok blob => simp

/-- Both loads of the daemon are checked as `loadChecked_iff` says: the import, and the chunk
    requests that get as far as their file. -/
theorem nvm_loads_checked_iff (s : Nvm) (m : MuMsg) (info : UInt32) (env : Env) :
    (LoadChecked s.files s.nvm_master_name env (importOf s env) Imported.Hands
      ↔ (Complete s.files s.nvm_master_name env → Fits (blobSize s.files s.nvm_master_name env) ∧
          (s.nvm_handle ≠ 0 → env.phys ≠ 0 → CrcRight s.files s.nvm_master_name env →
            4 ∣ (blobSize s.files s.nvm_master_name env).toNat))) ∧
    (LoadChecked s.files (chunkName s (m.blobId 1)) env (chunkOf s m info env) Handled.Hands
      ↔ (getsFile s m info env → Complete s.files (chunkName s (m.blobId 1)) env →
          Fits (blobSize s.files (chunkName s (m.blobId 1)) env) ∧
          (CrcRight s.files (chunkName s (m.blobId 1)) env →
            4 ∣ (blobSize s.files (chunkName s (m.blobId 1)) env).toNat))) := by
  constructor
  · rw [loadChecked_iff isLoad_import]
    simp only [forall_const, and_imp]
  · rw [loadChecked_iff isLoad_chunk]
    simp only [forall_const]

/-- A master file with five bytes of data, the last of which no checksum covers. -/
def fiveBytes : Files := fun _ => some (nvmHeader 5 0x04030201 ⟨0, 0, 0⟩ ++ [1, 2, 3, 4, 5])

theorem last_byte_unchecked : ¬ LoadChecked fiveBytes (init 1 fiveBytes).nvm_master_name calm
    (importOf (init 1 fiveBytes) calm) Imported.Hands := by
  intro h
  have hcomplete : Complete fiveBytes (init 1 fiveBytes).nvm_master_name calm := by decide
  have hright : CrcRight fiveBytes (init 1 fiveBytes).nvm_master_name calm := by decide
  have hdvd := ((loadChecked_iff isLoad_import).mp h trivial hcomplete).2 (by decide) hright
  exact absurd hdvd (by decide)

end ImxHal.Enclave
