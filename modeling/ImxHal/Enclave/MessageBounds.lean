import ImxHal.Enclave.ResponseCode

/-! @src secure-enclave/lib/EleOperation.cpp (receiveMuMsg, receiveNVMRequest, eleHandleNVMRequest,
    eleSendAndReciveMsg), secure-enclave/lib/include/EleMessage.h | name:message bounds |
    scheme:footprint | family:memory safety

    Both ends take the length of a message from its header, a byte that counts words, while the buffer
    has 33 words and the driver may have filled fewer:

        request of the enclave     read() ─▶ ret, compared with 4 * size before anything else is read
        response to the service    ioctl() ─▶ 0, and the words up to size are read as they stand -/

namespace ImxHal.SecureEnclave.Mu
open ImxHal.Footprint ImxHal.Footprint.Reader ImxHal.Bytes
open ImxHal.Enclave (ELE_MU_MSG_SIZE STORAGE_OPEN_REQ STORAGE_NVM_LAST_CMD ELE_COMMAND_WRONG_CRC
  ELE_COMMAND_SERVICE_DISABLED)

/-! ### The requests of the enclave -/

/-- What `read` stores of its answer; nothing if it fails. -/
def receiveMuMsg (respLen : ℕ) (answer : Option (List UInt8)) : List UInt8 :=
  stored respLen (answer.getD [])

/-- The length and the command of a message of which `ret` bytes have been read. -/
def receiveNVMRequest (ret : ℕ) : Reading (Option (ℕ × ℕ)) :=
  if ret = 0 then pure none
  else do
    let size ← Header.size
    if ret ≠ 4 * size.toNat then pure none
    else do
      let cmd ← Header.cmd
      pure (some (4 * size.toNat, cmd.toNat))

/-- Where the checks of `eleHandleNVMRequest` lead. -/
inductive Checked
  | retry
  | outOfRange
  | handle (cmd_id : ℕ) (rsp_msg_info : UInt32)
  deriving DecidableEq

/-- "Check the command and the CRC" -/
def checkCommand (next_command cmd_len cmd_id : ℕ) : Reading Checked := do
  let cmd ← Header.cmd
  if cmd.toNat < STORAGE_OPEN_REQ ∨ STORAGE_NVM_LAST_CMD ≤ cmd.toNat then pure .outOfRange
  else if next_command ≠ STORAGE_NVM_LAST_CMD ∧ cmd.toNat ≠ next_command then
    pure (.handle cmd_id ELE_COMMAND_SERVICE_DISABLED)
  else if STORAGE_NB_WORDS_MAX_NO_CRC < cmd_len / 4 then do
    let sent ← word (cmd_len / 4 - 1)
    let crc ← calCRC (cmd_len / 4 - 1)
    if sent ≠ crc then pure (.handle cmd_id ELE_COMMAND_WRONG_CRC)
    else pure (.handle cmd_id Enclave.ELE_COMMAND_SUCCEED)
  else pure (.handle cmd_id Enclave.ELE_COMMAND_SUCCEED)

/-- `eleHandleNVMRequest` up to the handlers. -/
def checkRequest (next_command ret : ℕ) : Reading Checked := do
  let received ← receiveNVMRequest ret
  match received with
  | none => pure .retry
  | some (cmd_len, cmd_id) => checkCommand next_command cmd_len cmd_id

/-- The buffer is cleared before it is filled; the stack behind it is not. -/
def cleared (stack : Memory) : Memory := fun i => if i < sizeof_mu_msg then 0 else stack i

/-! ### Bounds -/

/-- A byte of the buffer, and of the `n` bytes that were delivered. -/
def InMessage (n i : ℕ) : Prop := i < sizeof_mu_msg ∧ i < n

/-- The response that is checked, where the call gets as far. -/
def received (fd : ℤ) (memory : Memory) (respLen : ℕ) (answer : Option (List UInt8)) :
    Option (List UInt8) :=
  if fd < 0 ∨ memory 3 ≠ ELE_REQUEST_TAG then none else answer.map (stored respLen)

/-- The checks of a response read nothing but the part of its buffer that was delivered. -/
def ResponseInBounds (fd : ℤ) (memory : Memory) (respLen : ℕ) (answer : Option (List UInt8)) : Prop :=
  ∀ bytes, received fd memory respLen answer = some bytes →
    Within (InMessage bytes.length) (deliver memory bytes) checkResponse

/-- And so do those of a request. -/
def RequestInBounds (next_command : ℕ) (stack : Memory) (answer : Option (List UInt8)) : Prop :=
  let bytes := receiveMuMsg sizeof_mu_msg answer
  Within (InMessage bytes.length) (deliver (cleared stack) bytes) (checkRequest next_command bytes.length)

/-- `n` bytes of a response in memory `m` that go as far as its checks: to the last word the header
    counts, where there is a checksum, and else to the tag, with the response code behind the right
    one. -/
def Covered (m : Memory) (n : ℕ) : Prop :=
  if STORAGE_NB_WORDS_MAX_NO_CRC < (m 1).toNat then
    4 * (m 1).toNat ≤ sizeof_mu_msg ∧ 4 * (m 1).toNat ≤ n
  else
    4 ≤ n ∧ (m 3 = ELE_RESPONSE_TAG → (if m 4 = ELE_COMMAND_SUCCEED then 6 else 8) ≤ n)

variable {memory m : Memory} {fd : ℤ} {respLen n : ℕ} {answer : Option (List UInt8)} {P : ℕ → Prop}

/-- What is received is what `eleSendAndReciveMsg` checks. -/
theorem eleSendAndReciveMsg_received {bytes : List UInt8}
    (h : received fd memory respLen answer = some bytes) :
    eleSendAndReciveMsg fd memory respLen answer = run (deliver memory bytes) checkResponse := by
  rw [received] at h
  split_ifs at h with hsent
  push Not at hsent
  obtain ⟨response, rfl, rfl⟩ := Option.map_eq_some_iff.mp h
  exact eleSendAndReciveMsg_some hsent.1 hsent.2 response

theorem within_dumpResponseCode : Within P m dumpResponseCode ↔ P 4 ∧ P 5 ∧ P 6 ∧ P 7 := by
  simp [dumpResponseCode, status, rating, rating_extension, u8, u16]

/-- The tag is looked at, behind the right tag the status, and then the rating or the code. -/
theorem within_checkResult : Within P m checkResult ↔ P 3 ∧ (m 3 = ELE_RESPONSE_TAG →
    P 4 ∧ P 5 ∧ (m 4 ≠ ELE_COMMAND_SUCCEED → P 6 ∧ P 7)) := by
  have hcode : Within P m (u16 0) ↔ P 4 ∧ P 5 := by simp [u16]
  have hstatus : run m status = m 4 := rfl
  have htag : run m Header.tag = m 3 := rfl
  have hrating : Within P m rating ↔ P 5 := within_cell _
  rw [checkResult, within_bind, within_ite, htag, within_bind, within_ite, within_bind, within_bind,
    within_dumpResponseCode, hcode, hrating, hstatus]
  simp only [Header.tag, status, u8, within_cell, within_pure]
  by_cases h : m 4 = ELE_COMMAND_SUCCEED
  · simp [h]
  · simp [h]
    tauto

/-- The checks of a response that goes far enough, and of no other, are in bounds. -/
theorem within_checkResponse : Within (InMessage n) m checkResponse ↔ Covered m n := by
  have hsize : run m Header.size = m 1 := rfl
  have hread : Within (InMessage n) m Header.size ↔ InMessage n 1 := within_cell 1
  have hbuffer : sizeof_mu_msg = 132 := rfl
  rw [checkResponse, within_bind, within_ite, hsize, hread, Covered]
  by_cases hcrc : STORAGE_NB_WORDS_MAX_NO_CRC < (m 1).toNat
  · rw [if_pos hcrc]
    constructor
    · rintro ⟨-, hchecks, -⟩
      obtain ⟨-, hlast, -⟩ := by simpa only [within_bind] using hchecks hcrc
      obtain ⟨-, -, -, hroom, hcame⟩ := (within_word _).mp hlast
      rw [STORAGE_NB_WORDS_MAX_NO_CRC] at hcrc
      omega
    · rintro ⟨hroom, hcame⟩
      have hfour : 4 < (m 1).toNat := hcrc
      have hin : ∀ i < 4 * (m 1).toNat, InMessage n i := fun i hi =>
        ⟨lt_of_lt_of_le hi hroom, lt_of_lt_of_le hi hcame⟩
      refine ⟨hin 1 (by omega), fun _ => ?_, fun hnot => absurd hcrc hnot⟩
      rw [within_bind, within_bind, within_ite, u32, within_word, within_calCRC, within_checkResult]
      refine ⟨fun i hi => ⟨hin _ ?_, hin _ ?_, hin _ ?_, hin _ ?_⟩,
        ⟨hin _ ?_, hin _ ?_, hin _ ?_, hin _ ?_⟩, fun _ => within_pure _, fun _ => ⟨hin 3 ?_, fun _ =>
        ⟨hin 4 ?_, hin 5 ?_, fun _ => ⟨hin 6 ?_, hin 7 ?_⟩⟩⟩⟩
      all_goals omega
  · rw [if_neg hcrc, within_checkResult]
    simp only [hcrc, false_implies, not_false_eq_true, true_implies, true_and, InMessage, hbuffer]
    by_cases htag : m 3 = ELE_RESPONSE_TAG
    · by_cases hstatus : m 4 = ELE_COMMAND_SUCCEED
      · simp only [htag, hstatus, ne_eq, not_true_eq_false, false_implies, true_implies, and_true, if_true]
        omega
      · simp only [htag, hstatus, ne_eq, not_false_eq_true, true_implies, if_false]
        omega
    · simp only [htag, false_implies, and_true]
      omega

/-- The request's checks. -/
theorem within_checkCommand {next_command words cmd_id : ℕ} (hwords : 0 < words)
    (hin : ∀ i < 4 * words, P i) : Within P m (checkCommand next_command (4 * words) cmd_id) := by
  have hdiv : 4 * words / 4 = words := Nat.mul_div_cancel_left words (by decide)
  rw [checkCommand, hdiv, within_bind, within_ite, within_ite, within_ite, within_bind, within_bind,
    within_ite, within_word, within_calCRC]
  refine ⟨(within_cell 2).mpr (hin 2 (by omega)), fun _ => within_pure _, fun _ => ⟨fun _ =>
    within_pure _, fun _ => ⟨fun _ => ⟨⟨hin _ ?_, hin _ ?_, hin _ ?_, hin _ ?_⟩,
    fun i hi => ⟨hin _ ?_, hin _ ?_, hin _ ?_, hin _ ?_⟩, fun _ => within_pure _, fun _ => within_pure _⟩,
    fun _ => within_pure _⟩⟩⟩
  all_goals omega

/-- What was in memory before has no say in the error of a response that goes far enough. -/
theorem checkResponse_covered {bytes : List UInt8} (h : Covered (deliver memory bytes) bytes.length)
    (other : Memory) :
    run (deliver memory bytes) checkResponse = run (deliver other bytes) checkResponse := by
  refine Within.run_eq (within_checkResponse.mpr h) fun i hi => ?_
  rw [deliver_of_lt hi.2, deliver_of_lt hi.2]

theorem run_receiveNVMRequest : run m (receiveNVMRequest n)
    = if n ≠ 0 ∧ n = 4 * (m 1).toNat then some (n, (m 2).toNat) else none := by
  have hrun : run m (receiveNVMRequest n) = if n = 0 then none else
      if n ≠ 4 * (m 1).toNat then none else some (4 * (m 1).toNat, (m 2).toNat) := by
    simp only [receiveNVMRequest, run_ite, run_bind]
    rfl
  rw [hrun]
  by_cases hzero : n = 0
  · simp [hzero]
  · by_cases hsize : n = 4 * (m 1).toNat
    · rw [if_neg hzero, if_neg (not_not.mpr hsize), if_pos ⟨hzero, hsize⟩, ← hsize]
    · rw [if_neg hzero, if_pos hsize, if_neg fun h => hsize h.2]

theorem within_receiveNVMRequest : Within P m (receiveNVMRequest n)
    ↔ (n ≠ 0 → P 1 ∧ (n = 4 * (m 1).toNat → P 2)) := by
  have hsize : run m Header.size = m 1 := rfl
  rw [receiveNVMRequest, within_ite, within_bind, within_ite, within_bind, hsize]
  simp [Header.size, Header.cmd]

/-- The checks of a request are in bounds, but for a read that stops in the header before its size. -/
theorem within_checkRequest {next_command : ℕ} (hn : n ≤ sizeof_mu_msg) :
    Within (InMessage n) m (checkRequest next_command n) ↔ n ≠ 1 := by
  have hbuffer : sizeof_mu_msg = 132 := rfl
  rw [checkRequest, within_bind, run_receiveNVMRequest, within_receiveNVMRequest]
  by_cases hmessage : n ≠ 0 ∧ n = 4 * (m 1).toNat
  · have hin : ∀ i < 4 * (m 1).toNat, InMessage n i := by
      intro i hi
      rw [InMessage]
      omega
    rw [if_pos hmessage]
    refine iff_of_true ⟨fun _ => ⟨hin 1 ?_, fun _ => hin 2 ?_⟩, ?_⟩ ?_
    · omega
    · omega
    · rw [hmessage.2]
      exact within_checkCommand (by omega) (fun i hi => hmessage.2 ▸ hin i hi)
    · omega
  · rw [if_neg hmessage]
    simp only [within_pure, and_true, InMessage, hbuffer]
    omega

/-! ### The daemon's view of a request -/

/-- The bytes of a message. -/
def encode (msg : Enclave.MuMsg) : List UInt8 :=
  [msg.ver, msg.size, msg.cmd, msg.tag] ++ msg.data.flatMap le32

theorem encode_length (msg : Enclave.MuMsg) : (encode msg).length = 4 * (msg.data.length + 1) := by
  have hdata : (msg.data.flatMap le32).length = 4 * msg.data.length := by
    rw [List.length_flatMap]
    simp [le32, mul_comm]
  rw [encode, List.length_append, hdata, List.length_cons, List.length_cons, List.length_cons,
    List.length_singleton]
  ring

/-- The words in memory are those of the message. -/
theorem wordAt_encode {msg : Enclave.MuMsg} {i : ℕ} (hi : i < msg.data.length + 1) :
    wordAt (deliver memory (encode msg)) i = msg.word i := by
  cases i with
  | zero => rfl
  | succ i =>
    have hlength := encode_length msg
    calc wordAt (deliver memory (encode msg)) (i + 1)
      _ = wordAt (Enclave.bytesOf (encode msg)) (i + 1) :=
        wordAt_congr (fun j hj => deliver_of_lt hj) (by omega)
      _ = msg.data.getD i 0 := wordAt_flatMap_le32 (Nat.lt_of_succ_lt_succ hi)

/-- The response code of a command in range, of a message of `words` words. -/
theorem run_checkCommand (next_command words cmd_id : ℕ) :
    run m (checkCommand next_command (4 * words) cmd_id)
      = if (m 2).toNat < STORAGE_OPEN_REQ ∨ STORAGE_NVM_LAST_CMD ≤ (m 2).toNat then .outOfRange
        else .handle cmd_id (if next_command ≠ STORAGE_NVM_LAST_CMD ∧ (m 2).toNat ≠ next_command then
            ELE_COMMAND_SERVICE_DISABLED
          else if STORAGE_NB_WORDS_MAX_NO_CRC < words
              ∧ wordAt m (words - 1) ≠ Enclave.calCRC (wordAt m) (words - 1) then ELE_COMMAND_WRONG_CRC
          else Enclave.ELE_COMMAND_SUCCEED) := by
  have hdiv : 4 * words / 4 = words := Nat.mul_div_cancel_left words (by decide)
  have hcmd : run m Header.cmd = m 2 := rfl
  simp only [checkCommand, hdiv, run_bind, run_ite, run_pure, run_word, run_calCRC]
  rw [hcmd]
  by_cases hlong : STORAGE_NB_WORDS_MAX_NO_CRC < words
  · simp only [hlong, true_and, if_true]
    split_ifs <;> rfl
  · simp only [hlong, false_and, if_false]
    split_ifs <;> rfl

/-- On a message, the checks go where the daemon's do, with its response code. -/
theorem checkRequest_encode (s : Enclave.Nvm) (msg : Enclave.MuMsg) (stack : Memory) :
    run (deliver (cleared stack) (encode msg)) (checkRequest s.next_command (encode msg).length)
      = if msg.size.toNat ≠ msg.data.length + 1 then .retry
        else if Enclave.isRequest msg = false then .outOfRange
        else .handle msg.cmd.toNat (Enclave.rspMsgInfo s msg) := by
  have hsize : deliver (cleared stack) (encode msg) 1 = msg.size := rfl
  have hcmd : deliver (cleared stack) (encode msg) 2 = msg.cmd := rfl
  rw [checkRequest, run_bind, run_receiveNVMRequest, encode_length, hsize, hcmd]
  by_cases hlength : msg.size.toNat = msg.data.length + 1
  · have hmessage : 4 * (msg.data.length + 1) ≠ 0 ∧ 4 * (msg.data.length + 1) = 4 * msg.size.toNat := by
      omega
    have hlast : wordAt (deliver (cleared stack) (encode msg)) msg.data.length = msg.word msg.data.length :=
      wordAt_encode (Nat.lt_succ_self _)
    have hcrc : Enclave.calCRC (wordAt (deliver (cleared stack) (encode msg))) msg.data.length
        = Enclave.calCRC msg.word msg.data.length :=
      Enclave.calCRC_congr fun i hi => wordAt_encode (Nat.lt_succ_of_lt hi)
    have hok : Enclave.crcOk msg = false ↔ STORAGE_NB_WORDS_MAX_NO_CRC < msg.data.length + 1
        ∧ msg.word msg.data.length ≠ Enclave.calCRC msg.word msg.data.length := by
      rw [Enclave.crcOk, hlength, Nat.add_sub_cancel, decide_eq_false_iff_not, not_or, not_le]
      rfl
    have hrange : Enclave.isRequest msg = false
        ↔ msg.cmd.toNat < STORAGE_OPEN_REQ ∨ STORAGE_NVM_LAST_CMD ≤ msg.cmd.toNat := by
      rw [Enclave.isRequest, decide_eq_false_iff_not, hlength]
      omega
    rw [if_pos hmessage, if_neg (not_not.mpr hlength)]
    simp only [run_checkCommand, hcmd, Nat.add_sub_cancel, hlast, hcrc, hrange, Enclave.rspMsgInfo, hok,
      Enclave.unexpected, decide_eq_true_eq]
  · rw [if_neg (by omega), if_pos hlength, run_pure]

/-! ### The bounds of the messages -/

/-- Requests are checked in bounds unless one byte is all that is read; responses as far as they go, and
    no further than the buffer. -/
theorem messages_in_bounds_iff (fd : ℤ) (memory : Memory) (respLen : ℕ) (answer : Option (List UInt8))
    (next_command : ℕ) (stack : Memory) (request : Option (List UInt8)) :
    ResponseInBounds fd memory respLen answer ∧ RequestInBounds next_command stack request
      ↔ (∀ bytes, received fd memory respLen answer = some bytes →
          Covered (deliver memory bytes) bytes.length)
        ∧ (receiveMuMsg sizeof_mu_msg request).length ≠ 1 := by
  have hlength : (receiveMuMsg sizeof_mu_msg request).length ≤ sizeof_mu_msg := List.length_take_le _ _
  rw [ResponseInBounds, RequestInBounds, within_checkRequest hlength]
  simp only [within_checkResponse]

/-- A response of two words to the request to close a session, whose header counts 255 words. -/
theorem size_not_compared : ¬ (ResponseInBounds 3 (deliver (fun _ => 0) [7, 2, 0x11, 0x17, 1, 0, 0, 0]) 8
    (some [7, 255, 0x11, 0xe1, 0xd6, 0, 0, 0])
      ∧ RequestInBounds STORAGE_NVM_LAST_CMD (fun _ => 0) none) := by
  rintro ⟨hin, -⟩
  have hcovered := within_checkResponse.mp (hin [7, 255, 0x11, 0xe1, 0xd6, 0, 0, 0] (by decide))
  rw [Covered, if_pos (by decide)] at hcovered
  exact absurd hcovered.1 (by decide)

end ImxHal.SecureEnclave.Mu
