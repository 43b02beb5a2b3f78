import ImxHal.Enclave.MessageBounds

/-! @src secure-enclave/lib/EleOperation.cpp (calCRC, addCRC, eleSendAndReciveMsg, receiveNVMRequest,
    eleHandleNVMRequest), secure-enclave/lib/include/EleMessage.h | name:message checksum |
    scheme:footprint | family:error detection

    The last word of a message is the exclusive or of the words before it, and which word that is stands
    in the first one, in the size byte of the header:

        word      0        1    …    size - 2      size - 1
                  header   data      data          crc = word 0 ^ … ^ word (size - 2)

    One word that changes, changes the sum. When it is the header, it may also move the end of the
    message: the requests of the enclave are held against the number of bytes read, the responses to the
    service are not. -/

namespace ImxHal.SecureEnclave.Mu
open ImxHal.Footprint ImxHal.Footprint.Reader ImxHal.Bytes
open ImxHal.Enclave (STORAGE_OPEN_REQ STORAGE_NVM_LAST_CMD ELE_COMMAND_WRONG_CRC
  ELE_COMMAND_SERVICE_DISABLED calCRC_succ calCRC_ne calCRC_congr)

/-! ### The sender -/

/-- Word `i` of the message is set. -/
def setWord (m : Memory) (i : ℕ) (w : UInt32) : Memory :=
  fun j => if j / 4 = i then (le32 w).getD (j % 4) 0 else m j

/-- The checksum leaves itself out; it goes to `data.u32[size - 2]`. -/
def addCRC (m : Memory) : Memory :=
  let size := (m 1).toNat
  let crc := run m (calCRC (size - 1))
  setWord m (size - 2 + 1) crc

/-! ### The receivers -/

/-- "Check response crc" -/
def responseCrc : Reading Bool := do
  let size ← Header.size
  if STORAGE_NB_WORDS_MAX_NO_CRC < size.toNat then do
    let crc ← calCRC (size.toNat - 1)
    let sent ← u32 (size.toNat - 2)
    pure (decide (crc = sent))
  else pure true

/-- The length and the checksum of a request of which `ret` bytes have been read. -/
def requestCrc (ret : ℕ) : Reading Bool := do
  let received ← receiveNVMRequest ret
  match received with
  | none => pure false
  | some (cmd_len, _) =>
    if STORAGE_NB_WORDS_MAX_NO_CRC < cmd_len / 4 then do
      let sent ← word (cmd_len / 4 - 1)
      let crc ← calCRC (cmd_len / 4 - 1)
      pure (decide (sent = crc))
    else pure true

variable {m : Memory} {i : ℕ} {w : UInt32}

/-- A verdict that is asked for under a condition only. -/
theorem ite_decide (c p : Prop) [Decidable c] [Decidable p] :
    (if c then decide p else true) = decide (c → p) := by
  by_cases hc : c
  · simp only [hc, if_true, forall_const]
  · simp only [hc, if_false, false_implies, decide_true]

/-- `data.u32[size - 2]` is the last word of a message that has a checksum. -/
theorem last_word {size : ℕ} (hsize : STORAGE_NB_WORDS_MAX_NO_CRC < size) : size - 2 + 1 = size - 1 := by
  rw [STORAGE_NB_WORDS_MAX_NO_CRC] at hsize
  omega

theorem run_responseCrc : run m responseCrc = decide (CrcMatches m) := by
  have hrun : run m responseCrc = if STORAGE_NB_WORDS_MAX_NO_CRC < (m 1).toNat then
      decide (Enclave.calCRC (wordAt m) ((m 1).toNat - 1) = wordAt m ((m 1).toNat - 2 + 1))
      else true := by
    simp only [responseCrc, run_bind, run_ite, run_calCRC]
    rfl
  rw [hrun, ite_decide, decide_eq_decide, CrcMatches]
  refine forall_congr' fun hsize => ?_
  rw [last_word hsize]

/-- A response with the wrong checksum is an error, and any other is judged by its result. -/
theorem run_checkResponse_crc :
    run m checkResponse = if run m responseCrc then run m checkResult else ELE_INVALID_ARGS := by
  rw [run_checkResponse, run_responseCrc]
  simp only [decide_eq_true_eq]

/-- A request is as long as its header says, and has the right checksum. -/
theorem run_requestCrc (ret : ℕ) :
    run m (requestCrc ret) = decide ((ret ≠ 0 ∧ ret = 4 * (m 1).toNat) ∧ CrcMatches m) := by
  rw [requestCrc, run_bind, run_receiveNVMRequest]
  by_cases hlength : ret ≠ 0 ∧ ret = 4 * (m 1).toNat
  · have hwords : ret / 4 = (m 1).toNat := by omega
    have hrun : run m (requestCrc ret) = if STORAGE_NB_WORDS_MAX_NO_CRC < (m 1).toNat then
        decide (wordAt m ((m 1).toNat - 1) = Enclave.calCRC (wordAt m) ((m 1).toNat - 1))
        else true := by
      rw [requestCrc, run_bind, run_receiveNVMRequest, if_pos hlength]
      simp only [run_bind, run_ite, run_calCRC, hwords]
      rfl
    rw [requestCrc, run_bind, run_receiveNVMRequest] at hrun
    rw [hrun, ite_decide, decide_eq_decide, CrcMatches, and_iff_right hlength]
    exact forall_congr' fun _ => eq_comm
  · rw [if_neg hlength, decide_eq_false fun h => hlength h.1]
    rfl

/-- The handlers get the code of success only with a request that passes. -/
theorem requestCrc_of_succeed {next_command ret cmd_id : ℕ}
    (h : run m (checkRequest next_command ret) = .handle cmd_id Enclave.ELE_COMMAND_SUCCEED) :
    run m (requestCrc ret) = true := by
  rw [checkRequest, run_bind, run_receiveNVMRequest] at h
  by_cases hlength : ret ≠ 0 ∧ ret = 4 * (m 1).toNat
  · rw [if_pos hlength, hlength.2, run_checkCommand] at h
    rw [run_requestCrc, decide_eq_true_eq]
    refine ⟨hlength, fun hsize => ?_⟩
    by_contra hcrc
    have hwrong : STORAGE_NB_WORDS_MAX_NO_CRC < (m 1).toNat ∧
        wordAt m ((m 1).toNat - 1) ≠ Enclave.calCRC (wordAt m) ((m 1).toNat - 1) :=
      ⟨hsize, Ne.symm hcrc⟩
    simp only [if_pos hwrong] at h
    split_ifs at h
    · exact absurd (Checked.handle.inj h).2 (by decide)
    · exact absurd (Checked.handle.inj h).2 (by decide)
  · rw [if_neg hlength] at h
    cases h

/-- A request that passes is neither dropped nor answered with the code of a wrong checksum. -/
theorem checkRequest_of_requestCrc {ret : ℕ} (h : run m (requestCrc ret) = true) (next_command : ℕ) :
    run m (checkRequest next_command ret) ≠ .retry ∧
      ∀ cmd_id, run m (checkRequest next_command ret) ≠ .handle cmd_id ELE_COMMAND_WRONG_CRC := by
  rw [run_requestCrc, decide_eq_true_eq] at h
  obtain ⟨hlength, hcrc⟩ := h
  have hright : ¬ (STORAGE_NB_WORDS_MAX_NO_CRC < (m 1).toNat ∧
      wordAt m ((m 1).toNat - 1) ≠ Enclave.calCRC (wordAt m) ((m 1).toNat - 1)) :=
    fun hwrong => hwrong.2 (hcrc hwrong.1).symm
  rw [checkRequest, run_bind, run_receiveNVMRequest, if_pos hlength, hlength.2]
  simp only [run_checkCommand, if_neg hright]
  constructor
  · split_ifs <;> exact Checked.noConfusion
  · intro cmd_id
    split_ifs
    · exact Checked.noConfusion
    · exact fun h => absurd (Checked.handle.inj h).2 (by decide)
    · exact fun h => absurd (Checked.handle.inj h).2 (by decide)

/-! ### One word is changed -/

theorem wordAt_setWord : wordAt (setWord m i w) i = w := by
  have hbyte : ∀ k < 4, setWord m i w (4 * i + k) = (le32 w).getD k 0 := by
    intro k hk
    have hdiv : (4 * i + k) / 4 = i := by omega
    have hmod : (4 * i + k) % 4 = k := by omega
    rw [setWord, if_pos hdiv, hmod]
  have hfirst := hbyte 0 (by decide)
  rw [Nat.add_zero] at hfirst
  rw [wordAt, hfirst, hbyte 1 (by decide), hbyte 2 (by decide), hbyte 3 (by decide)]
  exact ofBytes_le32 w

theorem setWord_of_ne {j : ℕ} (h : j / 4 ≠ i) : setWord m i w j = m j := if_neg h

theorem wordAt_setWord_of_ne {k : ℕ} (h : k ≠ i) : wordAt (setWord m i w) k = wordAt m k := by
  rw [wordAt, wordAt, setWord_of_ne (by omega), setWord_of_ne (by omega), setWord_of_ne (by omega),
    setWord_of_ne (by omega)]

variable (hsize : STORAGE_NB_WORDS_MAX_NO_CRC < (m 1).toNat)

/-- The header stays as it is. -/
theorem addCRC_size : addCRC m 1 = m 1 := setWord_of_ne (Nat.succ_ne_zero _).symm

include hsize

/-- What `addCRC` completes has the right checksum. -/
theorem crcMatches_addCRC : CrcMatches (addCRC m) := by
  have hlast := last_word hsize
  have hfront : ∀ k < (m 1).toNat - 1, wordAt (addCRC m) k = wordAt m k := fun k hk =>
    wordAt_setWord_of_ne (hlast ▸ hk.ne)
  have hend : wordAt (addCRC m) ((m 1).toNat - 1) = Enclave.calCRC (wordAt m) ((m 1).toNat - 1) := by
    rw [← hlast]
    exact wordAt_setWord.trans (by rw [run_calCRC, hlast])
  intro _
  rw [addCRC_size, hend]
  exact calCRC_congr hfront

/-- A changed word in front of the checksum that leaves the size makes it wrong. -/
theorem not_crcMatches_setWord (hm : CrcMatches m) (hi : i < (m 1).toNat - 1) (hw : w ≠ wordAt m i)
    (hsame : setWord m i w 1 = m 1) : ¬ CrcMatches (setWord m i w) := by
  intro h
  have hnew := h (hsame ▸ hsize)
  rw [hsame, wordAt_setWord_of_ne hi.ne', ← hm hsize] at hnew
  exact calCRC_ne (fun k hk => wordAt_setWord_of_ne hk) (by rwa [wordAt_setWord]) hi hnew

omit hsize

/-- The checksum is right when the words sum to zero, it among them. -/
theorem crcMatches_iff_sum (h : STORAGE_NB_WORDS_MAX_NO_CRC < (m 1).toNat) :
    CrcMatches m ↔ Enclave.calCRC (wordAt m) (m 1).toNat = 0 := by
  obtain ⟨n, hn⟩ := Nat.exists_eq_add_one_of_ne_zero (Nat.ne_zero_of_lt h)
  rw [CrcMatches, hn, Nat.add_sub_cancel, calCRC_succ, UInt32.xor_eq_zero_iff]
  exact forall_prop_of_true (hn ▸ h)

/-- Both checks take the message, and neither takes it with another word. -/
def Guarded (m : Memory) (i : ℕ) (w : UInt32) : Prop :=
  let ret := 4 * (m 1).toNat
  (run m responseCrc = true ∧ run m (requestCrc ret) = true) ∧
    run (setWord m i w) responseCrc = false ∧ run (setWord m i w) (requestCrc ret) = false

/-- The size byte is the same, or it makes a message whose words do not sum to zero. -/
def EndKept (m : Memory) (i : ℕ) (w : UInt32) : Prop :=
  let changed := setWord m i w
  changed 1 = m 1 ∨
    STORAGE_NB_WORDS_MAX_NO_CRC < (changed 1).toNat ∧
      Enclave.calCRC (wordAt changed) (changed 1).toNat ≠ 0

instance (m : Memory) (i : ℕ) (w : UInt32) : Decidable (Guarded m i w) :=
  inferInstanceAs (Decidable (_ ∧ _))

/-- The request side finds every change: it has the number of bytes to go by. -/
theorem requestCrc_setWord (hsize : STORAGE_NB_WORDS_MAX_NO_CRC < (m 1).toNat) (hm : CrcMatches m)
    (hi : i < (m 1).toNat - 1) (hw : w ≠ wordAt m i) :
    run (setWord m i w) (requestCrc (4 * (m 1).toNat)) = false := by
  rw [run_requestCrc, decide_eq_false_iff_not]
  rintro ⟨⟨-, hlength⟩, hcrc⟩
  have hsame : setWord m i w 1 = m 1 := UInt8.toNat_inj.mp (by omega)
  exact not_crcMatches_setWord hsize hm hi hw hsame hcrc

/-- The response side finds those that keep the end of the message, or move it to a wrong sum. -/
theorem responseCrc_setWord_iff (hsize : STORAGE_NB_WORDS_MAX_NO_CRC < (m 1).toNat) (hm : CrcMatches m)
    (hi : i < (m 1).toNat - 1) (hw : w ≠ wordAt m i) :
    run (setWord m i w) responseCrc = false ↔ EndKept m i w := by
  rw [run_responseCrc, decide_eq_false_iff_not, EndKept]
  by_cases hsame : setWord m i w 1 = m 1
  · exact iff_of_true (not_crcMatches_setWord hsize hm hi hw hsame) (Or.inl hsame)
  · rw [or_iff_right hsame]
    by_cases hlong : STORAGE_NB_WORDS_MAX_NO_CRC < (setWord m i w 1).toNat
    · rw [crcMatches_iff_sum hlong, and_iff_right hlong]
    · exact iff_of_false (fun h => h fun hlt => absurd hlt hlong) fun h => hlong h.1

/-- A completed message is taken on both sides, and one changed word in front of the checksum is found
    on both sides exactly when it keeps the size byte or gives one with a wrong sum. -/
theorem addCRC_guards_iff (m : Memory) (i : ℕ) (w : UInt32)
    (hsize : STORAGE_NB_WORDS_MAX_NO_CRC < (m 1).toNat) (hi : i < (m 1).toNat - 1)
    (hw : w ≠ wordAt m i) : Guarded (addCRC m) i w ↔ EndKept (addCRC m) i w := by
  have hm := crcMatches_addCRC hsize
  have hlast : i ≠ (m 1).toNat - 2 + 1 := last_word hsize ▸ hi.ne
  have hw' : w ≠ wordAt (addCRC m) i := by rwa [addCRC, wordAt_setWord_of_ne hlast]
  rw [← addCRC_size (m := m)] at hsize hi
  have htaken : run (addCRC m) responseCrc = true ∧
      run (addCRC m) (requestCrc (4 * (addCRC m 1).toNat)) = true := by
    rw [run_responseCrc, run_requestCrc, decide_eq_true_eq, decide_eq_true_eq]
    exact ⟨hm, ⟨⟨by omega, rfl⟩, hm⟩⟩
  rw [Guarded, and_iff_right htaken, ← responseCrc_setWord_iff hsize hm hi hw']
  exact and_iff_left (requestCrc_setWord hsize hm hi hw')

/-- A successful response of five words, before its checksum. -/
def successMsg : Memory :=
  Enclave.bytesOf [7, 5, 0x10, 0xe1, 0xd6, 0, 0, 0, 1, 0, 0, 0, 2, 0, 0, 0]

/-- Another data word. -/
theorem addCRC_guards_success : Guarded (addCRC successMsg) 2 9 :=
  (addCRC_guards_iff successMsg 2 9 (by decide) (by decide) (by decide)).mpr (Or.inl (by decide))

/-- With the size 3 in its header the response has no checksum any more, and is taken. -/
theorem changed_size_taken :
    ¬ ∀ (m : Memory) (i : ℕ) (w : UInt32), STORAGE_NB_WORDS_MAX_NO_CRC < (m 1).toNat →
      i < (m 1).toNat - 1 → w ≠ wordAt m i → Guarded (addCRC m) i w := by
  intro h
  have hguard := h successMsg 0 (ofBytes 7 3 0x10 0xe1) (by decide) (by decide) (by decide)
  have htaken : run (setWord (addCRC successMsg) 0 (ofBytes 7 3 0x10 0xe1)) responseCrc = true := by
    decide +kernel
  exact Bool.noConfusion (htaken.symm.trans hguard.2.1)

end ImxHal.SecureEnclave.Mu
