import ImxHal.Schemes.Run
import ImxHal.Schemes.Ledger
import ImxHal.Schemes.Bytes

/-! @src secure-enclave/lib/EleOperation.cpp (readStorageFile, writeStorageFile, the eleHandle*
    functions), secure-enclave/lib/include/EleCommand.h, secure-enclave/lib/include/EleMessage.h,
    secure-enclave/nvmd/nvmd.cpp | name:NVM daemon | scheme:run | family:request protocol

    The enclave has no storage of its own: it asks the daemon to store and load its blobs, one
    message after the other, and a transfer takes two of them. The command that has to come next is
    kept in `next_command`, the buffer of the transfer in `last_data`:

                       ┌─MASTER_EXPORT, CHUNK_EXPORT─▶ EXPORT_FINISH ──EXPORT_FINISH──┐
        NVM_LAST_CMD ──┤                                                              ├─▶ NVM_LAST_CMD
                       └─CHUNK_GET──────────────────▶ CHUNK_GET_DONE ─CHUNK_GET_DONE──┘

    Any other message in the two middle states ends the transfer; in `NVM_LAST_CMD` every command is
    taken. A call that leaves `NVM_LAST_CMD` behind frees the buffer. -/

namespace ImxHal.Enclave
open ImxHal.Bytes

/-! ### Commands, codes and messages -/

def STORAGE_OPEN_REQ : ℕ := 0xE0
def STORAGE_MASTER_EXPORT_REQ : ℕ := 0xE3
def STORAGE_EXPORT_FINISH_REQ : ℕ := 0xE4
def STORAGE_CHUNK_EXPORT_REQ : ℕ := 0xE5
def STORAGE_CHUNK_GET_REQ : ℕ := 0xE6
def STORAGE_CHUNK_GET_DONE_REQ : ℕ := 0xE7
def STORAGE_CHUNK_DELETE_REQ : ℕ := 0xE9
def STORAGE_NVM_LAST_CMD : ℕ := STORAGE_CHUNK_DELETE_REQ + 1

def ELE_COMMAND_SUCCEED : UInt32 := 0xd6
def ELE_COMMAND_GENERAL_ERROR : UInt32 := 0x29
def ELE_COMMAND_INVALID_ID : UInt32 := 0x329
def ELE_COMMAND_WRONG_CRC : UInt32 := 0xb929
def ELE_COMMAND_SERVICE_DISABLED : UInt32 := 0xf429

def NVM_EXPORT_STATUS_SUCCESS : UInt32 := 0xBA2CC2AB
def NVM_CHUNK_GET_CHUNK_SUCCESS : UInt32 := 0xCA3BB3AC

def STORAGE_NB_WORDS_MAX_NO_CRC : ℕ := 4
def STORAGE_MAX_DATA_SIZE : UInt32 := 16 * 1024
def NVM_HEADER_SIZE : UInt32 := 20
def NVM_MAX_FILE_NAME_LEN : ℕ := 128
def ELE_MU_MSG_SIZE : ℕ := 32

/-- The codes of `ErrorType` that the handlers return. -/
inductive ErrorType where
  | ELE_NO_ERROR | ELE_COMMUNICATION_ERROR | ELE_GENERAL_ERROR | ELE_INVALID_MESSAGE
  | ELE_INVALID_ARGS | ELE_MEMORY_FAILURE | ELE_ERROR_RETRY
  deriving DecidableEq

/-- `SIZE_MSG` of a struct of `words` words: the header comes on top. -/
def sizeMsg (words : ℕ) : ℕ := 4 * words + 4

/-- A message as it is read: the four header bytes and the data words behind them. -/
structure MuMsg where
  ver : UInt8
  size : UInt8
  cmd : UInt8
  tag : UInt8
  data : List UInt32
  data_le : data.length ≤ ELE_MU_MSG_SIZE

/-- `data.u32[i]`; what was not read is zero. -/
def MuMsg.u32 (m : MuMsg) (i : ℕ) : UInt32 := m.data.getD i 0

/-- Word `i` of the message, the header first. -/
def MuMsg.word (m : MuMsg) : ℕ → UInt32
  | 0 => ofBytes m.ver m.size m.cmd m.tag
  | i + 1 => m.u32 i

/-- The length in bytes that the header claims. -/
def MuMsg.cmdLen (m : MuMsg) : ℕ := 4 * m.size.toNat

structure BlobId where
  metadata : UInt32
  id : UInt32
  ext : UInt32
  deriving DecidableEq

/-- The blob id that starts at data word `i`. -/
def MuMsg.blobId (m : MuMsg) (i : ℕ) : BlobId := ⟨m.u32 i, m.u32 (i + 1), m.u32 (i + 2)⟩

def calCRC (buf : ℕ → UInt32) (len : ℕ) : UInt32 :=
  (List.range len).foldl (fun crc i => crc ^^^ buf i) 0

theorem calCRC_congr {f g : ℕ → UInt32} : ∀ {len : ℕ}, (∀ i < len, f i = g i) →
    calCRC f len = calCRC g len := by
  intro len h
  rw [calCRC, calCRC]
  refine List.foldl_ext _ _ _ fun crc i hi => ?_
  rw [h i (List.mem_range.mp hi)]

theorem calCRC_succ (buf : ℕ → UInt32) (len : ℕ) :
    calCRC buf (len + 1) = calCRC buf len ^^^ buf len := by
  rw [calCRC, List.range_succ, List.foldl_append]
  rfl

/-- A checksum tells words apart that differ in one place. -/
theorem calCRC_ne {f g : ℕ → UInt32} {j len : ℕ} (hsame : ∀ i, i ≠ j → f i = g i) (hj : f j ≠ g j)
    (hlt : j < len) : calCRC f len ≠ calCRC g len := by
  induction len with
  | zero => exact absurd hlt (Nat.not_lt_zero j)
  | succ len ih =>
    rw [calCRC_succ, calCRC_succ]
    rcases Nat.lt_succ_iff_lt_or_eq.mp hlt with hlt | rfl
    · rw [hsame len hlt.ne']
      exact fun h => ih hlt ((UInt32.xor_left_inj _).mp h)
    · have hfront : calCRC f j = calCRC g j := calCRC_congr fun i hi => hsame i hi.ne
      rw [hfront]
      exact fun h => hj ((UInt32.xor_right_inj _).mp h)

/-! ### Files -/

abbrev Name := List Char

abbrev Files := Name → Option (List UInt8)

/-- `read` gives what the file holds, up to `size` bytes; `none` when the open or the read fails,
    `some n` when at most `n` bytes come. -/
def readStorageFile (files : Files) (fileName : Name) (size : ℕ) (io : Option ℕ) : List UInt8 :=
  match files fileName, io with
  | some content, some n => content.take (min size n)
  | _, _ => []

/-- The file after the write and the number of bytes written. The open creates a missing file and
    does not truncate; `none` when it fails, `some n` when at most `n` bytes are written. -/
def writeStorageFile (files : Files) (fileName : Name) (src : List UInt8) (io : Option ℕ) :
    Files × ℕ :=
  match io with
  | none => (files, 0)
  | some n =>
    if src.length = 0 then (files, 0)
    else
      let len := min src.length n
      (Function.update files fileName
        (some (src.take len ++ ((files fileName).getD []).drop len)), len)

/-- `struct nvm_header` as it stands in the file. -/
def nvmHeader (size crc : UInt32) (blob_id : BlobId) : List UInt8 :=
  le32 size ++ le32 crc ++ le32 blob_id.metadata ++ le32 blob_id.id ++ le32 blob_id.ext

/-- Bytes of a list, for `wordAt`. -/
def bytesOf (l : List UInt8) (i : ℕ) : UInt8 := l.getD i 0

/-! ### The context -/

/-- A data buffer: its number in allocation order, the header fields that are set in it, and the
    payload loaded behind the header (that of an export is written by the enclave later). -/
structure DataBuf where
  alloc : ℕ
  size : UInt32
  blob_id : BlobId
  payload : List UInt8

/-- `struct nvm_context`, the files, and the heap: `next` data buffers have been allocated, `freed`
    are the calls of `free` on them. `exported` is the buffer that the last request has set, if it was a
    successful export; `crashed` records that a null pointer was dereferenced. -/
structure Nvm where
  nvm_handle : UInt32
  prev_command : ℕ
  next_command : ℕ
  last_data : Option DataBuf
  nvm_master_name : Name
  nvm_chunk_path : Name
  files : Files
  next : ℕ
  freed : List ℕ
  exported : Option ℕ
  crashed : Bool

/-- `snprintf` of the chunk file name; it cuts what does not fit. -/
def chunkName (s : Nvm) (blob_id : BlobId) : Name :=
  (s.nvm_chunk_path ++ hex8 blob_id.ext ++ hex8 blob_id.id ++ hex8 blob_id.metadata).take
    (NVM_MAX_FILE_NAME_LEN - 1)

/-- Outcome of making a file name: the allocation or the formatting may fail. -/
inductive NameResult where | ok | noMemory | badFormat
  deriving DecidableEq

/-- What a call meets outside. `payload` is the memory behind the header of the export buffer when
    the export is finished, `stray` the memory behind a loaded buffer; both are read beyond the
    buffer when its size wraps around. -/
structure Env where
  name : NameResult
  mallocData : Bool
  phys : UInt32
  payload : ℕ → UInt8
  stray : ℕ → UInt8
  readHeader : Option ℕ
  readBody : Option ℕ
  write : Option ℕ
  removeOk : Bool
  sendOk : Bool

/-- The fields of the response message that the handlers set; `buffer` is the one `addr` belongs
    to. -/
structure Reply where
  rsp_code : UInt32
  nvm_storage_handle : UInt32
  addr : UInt32
  buffer : Option ℕ
  chunk_size : UInt32
  respLen : ℕ

structure Handled where
  error : ErrorType
  reply : Reply
  nvm : Nvm

/-! ### The handlers -/

/-- The checks all handlers start with; `some` is the response code of a refused request. -/
def refused (rspMsgInfo : UInt32) (lenOk handleOk : Bool) : Option UInt32 :=
  if rspMsgInfo ≠ ELE_COMMAND_SUCCEED then some rspMsgInfo
  else if lenOk = false then some ELE_COMMAND_GENERAL_ERROR
  else if handleOk = false then some ELE_COMMAND_GENERAL_ERROR
  else none

/-- The body of both export requests; `words` is the size of the request struct, `rspWords` that of
    the response, and `handle` what the response has as storage handle. -/
def handleExportReq (s : Nvm) (m : MuMsg) (rspMsgInfo : UInt32) (env : Env) (words : ℕ)
    (size : UInt32) (blob_id : BlobId) (rspWords : ℕ) (handle : UInt32) : Handled :=
  let s := { s with prev_command := m.cmd.toNat, next_command := STORAGE_NVM_LAST_CMD }
  let failed : UInt32 → Reply := fun code => ⟨code, handle, 0, none, 0, sizeMsg rspWords⟩
  match refused rspMsgInfo (m.cmdLen = sizeMsg words) (m.u32 0 = s.nvm_handle) with
  | some code => ⟨.ELE_INVALID_MESSAGE, failed code, s⟩
  | none =>
    let data_len := size + NVM_HEADER_SIZE
    if size = 0 ∨ data_len > STORAGE_MAX_DATA_SIZE then
      ⟨.ELE_INVALID_MESSAGE, failed ELE_COMMAND_GENERAL_ERROR, s⟩
    else if env.mallocData = false then ⟨.ELE_NO_ERROR, failed ELE_COMMAND_GENERAL_ERROR, s⟩
    else ⟨.ELE_NO_ERROR, ⟨ELE_COMMAND_SUCCEED, handle, env.phys, some s.next, 0, sizeMsg rspWords⟩,
      { s with
      next_command := STORAGE_EXPORT_FINISH_REQ
      last_data := some ⟨s.next, size, blob_id, []⟩
      next := s.next + 1
      exported := some s.next }⟩

def eleHandleMasterExportReq (s : Nvm) (m : MuMsg) (rspMsgInfo : UInt32) (env : Env) : Handled :=
  handleExportReq s m rspMsgInfo env 2 (m.u32 1) ⟨0, 0, 0⟩ 3 s.nvm_handle

def eleHandleChunkExportReq (s : Nvm) (m : MuMsg) (rspMsgInfo : UInt32) (env : Env) : Handled :=
  handleExportReq s m rspMsgInfo env 6 (m.u32 1) (m.blobId 2) 2 0

/-- The file an export goes to. -/
def exportName (s : Nvm) (buf : DataBuf) : Option Name :=
  if s.prev_command = STORAGE_MASTER_EXPORT_REQ then
    some (s.nvm_master_name.take NVM_MAX_FILE_NAME_LEN)
  else if s.prev_command = STORAGE_CHUNK_EXPORT_REQ then some (chunkName s buf.blob_id)
  else none

/-- The contents of the export buffer with its header completed: `data_len` bytes. -/
def exportBytes (buf : DataBuf) (payload : ℕ → UInt8) : List UInt8 :=
  let crc := calCRC (wordAt payload) (buf.size >>> 2).toNat
  (nvmHeader buf.size crc buf.blob_id ++ (List.range buf.size.toNat).map payload).take
    (buf.size + NVM_HEADER_SIZE).toNat

def eleHandleExportFinish (s : Nvm) (m : MuMsg) (rspMsgInfo : UInt32) (env : Env) : Handled :=
  let s := { s with next_command := STORAGE_NVM_LAST_CMD }
  let reply : UInt32 → Reply := fun code => ⟨code, s.nvm_handle, 0, none, 0, sizeMsg 2⟩
  match refused rspMsgInfo (m.cmdLen = sizeMsg 2) (m.u32 0 = s.nvm_handle) with
  | some code => ⟨.ELE_INVALID_MESSAGE, reply code, s⟩
  | none =>
    if m.u32 1 ≠ NVM_EXPORT_STATUS_SUCCESS then
      ⟨.ELE_INVALID_MESSAGE, reply ELE_COMMAND_SUCCEED, s⟩
    else
      match s.last_data with
      | none => ⟨.ELE_GENERAL_ERROR, reply ELE_COMMAND_GENERAL_ERROR, { s with crashed := true }⟩
      | some buf =>
        if env.name = .noMemory then
          ⟨.ELE_MEMORY_FAILURE, reply ELE_COMMAND_GENERAL_ERROR, s⟩
        else
          match exportName s buf with
          | none => ⟨.ELE_INVALID_MESSAGE, reply ELE_COMMAND_GENERAL_ERROR, s⟩
          | some file_name =>
            if env.name = .badFormat ∧ s.prev_command = STORAGE_CHUNK_EXPORT_REQ then
              ⟨.ELE_GENERAL_ERROR, reply ELE_COMMAND_GENERAL_ERROR, s⟩
            else
              let out := writeStorageFile s.files file_name (exportBytes buf env.payload) env.write
              let s := { s with files := out.1 }
              if out.2 = (buf.size + NVM_HEADER_SIZE).toNat then
                ⟨.ELE_NO_ERROR, reply ELE_COMMAND_SUCCEED, s⟩
              else ⟨.ELE_GENERAL_ERROR, reply ELE_COMMAND_GENERAL_ERROR, s⟩

/-- The memory behind the header of a loaded buffer. -/
def loaded (payload : List UInt8) (stray : ℕ → UInt8) (i : ℕ) : UInt8 :=
  if i < payload.length then bytesOf payload i else stray i

def eleHandleChunkGetReq (s : Nvm) (m : MuMsg) (rspMsgInfo : UInt32) (env : Env) : Handled :=
  let s := { s with prev_command := m.cmd.toNat, next_command := STORAGE_NVM_LAST_CMD }
  let failed : UInt32 → Reply := fun code => ⟨code, 0, 0, none, 0, sizeMsg 3⟩
  match refused rspMsgInfo (m.cmdLen = sizeMsg 5) (m.u32 0 = s.nvm_handle) with
  | some code => ⟨.ELE_INVALID_MESSAGE, failed code, s⟩
  | none =>
    match env.name with
    | .noMemory => ⟨.ELE_MEMORY_FAILURE, failed ELE_COMMAND_GENERAL_ERROR, s⟩
    | .badFormat => ⟨.ELE_GENERAL_ERROR, failed ELE_COMMAND_GENERAL_ERROR, s⟩
    | .ok =>
      let file_name := chunkName s (m.blobId 1)
      let blob_hdr := readStorageFile s.files file_name NVM_HEADER_SIZE.toNat env.readHeader
      if blob_hdr.length ≠ NVM_HEADER_SIZE.toNat then
        ⟨.ELE_GENERAL_ERROR, failed ELE_COMMAND_GENERAL_ERROR, s⟩
      else
        let size := wordAt (bytesOf blob_hdr) 0
        let data_len := (size + NVM_HEADER_SIZE).toNat
        if env.mallocData = false then
          ⟨.ELE_MEMORY_FAILURE, failed ELE_COMMAND_GENERAL_ERROR, s⟩
        else
          let data_buf := s.next
          let s := { s with next := s.next + 1 }
          let bytes := readStorageFile s.files file_name data_len env.readBody
          -- the two exits below leave `data_buf` behind
          if bytes.length ≠ data_len then
            ⟨.ELE_GENERAL_ERROR, failed ELE_COMMAND_GENERAL_ERROR, s⟩
          else
            let payload := bytes.drop NVM_HEADER_SIZE.toNat
            let crc := calCRC (wordAt (loaded payload env.stray)) (size >>> 2).toNat
            if crc ≠ wordAt (bytesOf blob_hdr) 1 then
              ⟨.ELE_GENERAL_ERROR, failed ELE_COMMAND_GENERAL_ERROR, s⟩
            else
              ⟨.ELE_NO_ERROR,
                ⟨ELE_COMMAND_SUCCEED, 0, env.phys, some data_buf, size, sizeMsg 3⟩, { s with
                next_command := STORAGE_CHUNK_GET_DONE_REQ
                last_data := some ⟨data_buf, size, m.blobId 1, payload⟩ }⟩

def eleHandleChunkGetDone (s : Nvm) (m : MuMsg) (rspMsgInfo : UInt32) : Handled :=
  let s := { s with next_command := STORAGE_NVM_LAST_CMD }
  let reply : UInt32 → Reply := fun code => ⟨code, 0, 0, none, 0, sizeMsg 1⟩
  match refused rspMsgInfo (m.cmdLen = sizeMsg 2) (m.u32 0 = s.nvm_handle) with
  | some code => ⟨.ELE_INVALID_MESSAGE, reply code, s⟩
  | none =>
    if m.u32 1 ≠ NVM_CHUNK_GET_CHUNK_SUCCESS then
      ⟨.ELE_INVALID_MESSAGE, reply ELE_COMMAND_GENERAL_ERROR, s⟩
    else ⟨.ELE_NO_ERROR, reply ELE_COMMAND_SUCCEED, s⟩

/-- The storage handle is not checked here: the enclave does not send the right one. -/
def eleHandleChunkDelete (s : Nvm) (m : MuMsg) (rspMsgInfo : UInt32) (env : Env) : Handled :=
  let s := { s with next_command := STORAGE_NVM_LAST_CMD }
  let reply : UInt32 → Reply := fun code => ⟨code, 0, 0, none, 0, sizeMsg 1⟩
  match refused rspMsgInfo (m.cmdLen = sizeMsg 5) true with
  | some code => ⟨.ELE_INVALID_MESSAGE, reply code, s⟩
  | none =>
    match env.name with
    | .noMemory => ⟨.ELE_MEMORY_FAILURE, reply ELE_COMMAND_GENERAL_ERROR, s⟩
    | .badFormat => ⟨.ELE_GENERAL_ERROR, reply ELE_COMMAND_GENERAL_ERROR, s⟩
    | .ok =>
      let file_name := chunkName s (m.blobId 1)
      match s.files file_name with
      | none => ⟨.ELE_GENERAL_ERROR, reply ELE_COMMAND_INVALID_ID, s⟩
      | some _ =>
        if env.removeOk = false then ⟨.ELE_GENERAL_ERROR, reply ELE_COMMAND_GENERAL_ERROR, s⟩
        else ⟨.ELE_NO_ERROR, reply ELE_COMMAND_SUCCEED, { s with
          files := Function.update s.files file_name none }⟩

/-! ### eleHandleNVMRequest -/

/-- The command is not the one that has to come next. -/
def unexpected (s : Nvm) (m : MuMsg) : Bool :=
  s.next_command ≠ STORAGE_NVM_LAST_CMD ∧ m.cmd.toNat ≠ s.next_command

/-- The last word of a long message is the checksum of the words before it. -/
def crcOk (m : MuMsg) : Bool :=
  m.size.toNat ≤ STORAGE_NB_WORDS_MAX_NO_CRC
    ∨ m.word (m.size.toNat - 1) = calCRC m.word (m.size.toNat - 1)

def rspMsgInfo (s : Nvm) (m : MuMsg) : UInt32 :=
  if unexpected s m then ELE_COMMAND_SERVICE_DISABLED
  else if crcOk m = false then ELE_COMMAND_WRONG_CRC
  else ELE_COMMAND_SUCCEED

/-- The `switch` over the commands; a command in range without a handler gets an empty response. -/
def dispatch (s : Nvm) (m : MuMsg) (info : UInt32) (env : Env) : Handled :=
  let cmd := m.cmd.toNat
  if cmd = STORAGE_MASTER_EXPORT_REQ then eleHandleMasterExportReq s m info env
  else if cmd = STORAGE_EXPORT_FINISH_REQ then eleHandleExportFinish s m info env
  else if cmd = STORAGE_CHUNK_EXPORT_REQ then eleHandleChunkExportReq s m info env
  else if cmd = STORAGE_CHUNK_GET_REQ then eleHandleChunkGetReq s m info env
  else if cmd = STORAGE_CHUNK_GET_DONE_REQ then eleHandleChunkGetDone s m info
  else if cmd = STORAGE_CHUNK_DELETE_REQ then eleHandleChunkDelete s m info env
  else ⟨.ELE_INVALID_ARGS, ⟨0, 0, 0, none, 0, 0⟩, s⟩

/-- A message that `receiveNVMRequest` accepts: as long as its header says, and a storage command. -/
def isRequest (m : MuMsg) : Bool :=
  m.size.toNat = m.data.length + 1 ∧ STORAGE_OPEN_REQ ≤ m.cmd.toNat
    ∧ m.cmd.toNat < STORAGE_NVM_LAST_CMD

/-- The end of a call: the buffer goes with the transfer. -/
def freeLastData (s : Nvm) : Nvm :=
  if s.next_command = STORAGE_NVM_LAST_CMD then
    match s.last_data with
    | some buf => { s with freed := buf.alloc :: s.freed, last_data := none }
    | none => s
  else s

/-- The handling of one request, up to the response. -/
def handleRequest (s : Nvm) (m : MuMsg) (env : Env) : Handled :=
  let info := rspMsgInfo s m
  let s := { s with
    next_command := if unexpected s m then STORAGE_NVM_LAST_CMD else s.next_command
    exported := none }
  dispatch s m info env

/-- What one call of `eleHandleNVMRequest` gives: its error, and the response if one is sent. -/
structure NvmOut where
  error : ErrorType
  reply : Option Reply
  nvm : Nvm

/-- One call: `recv` is the message, or `none` when the read fails or has an odd length. A daemon
    that has crashed does nothing any more. -/
def eleHandleNVMRequest (s : Nvm) (recv : Option MuMsg) (env : Env) : NvmOut :=
  if s.crashed = true then ⟨.ELE_GENERAL_ERROR, none, s⟩
  else
    match recv with
    | none => ⟨.ELE_ERROR_RETRY, none, freeLastData s⟩
    | some m =>
      if isRequest m = false then
        ⟨if m.size.toNat = m.data.length + 1 then .ELE_NO_ERROR else .ELE_ERROR_RETRY, none,
          freeLastData s⟩
      else
        let out := handleRequest s m env
        if out.nvm.crashed = true then ⟨.ELE_GENERAL_ERROR, none, out.nvm⟩
        else
          ⟨if env.sendOk then .ELE_NO_ERROR else .ELE_COMMUNICATION_ERROR, some out.reply,
            freeLastData out.nvm⟩

/-- The context as `nvm_manager` sets it up, with the files found at start. -/
def init (nvm_handle : UInt32) (files : Files) : Nvm where
  nvm_handle := nvm_handle
  prev_command := STORAGE_NVM_LAST_CMD
  next_command := STORAGE_NVM_LAST_CMD
  last_data := none
  nvm_master_name := "/data/vendor/ele/master".toList
  nvm_chunk_path := "/data/vendor/ele/".toList
  files := files
  next := 0
  freed := []
  exported := none
  crashed := false

/-- One call of the main loop: the message that comes and what the call meets. -/
structure Call where
  recv : Option MuMsg
  env : Env

def step (s : Nvm) (c : Call) : Nvm := (eleHandleNVMRequest s c.recv c.env).nvm

end ImxHal.Enclave
