import ImxHal.Enclave.Nvm
import ImxHal.Enclave.Sessions
import ImxHal.Schemes.Footprint
import Mathlib.Data.List.GetD

/-! @src secure-enclave/lib/EleOperation.cpp (calCRC, sendAndReceiveMuMsg, eleSendAndReciveMsg),
    secure-enclave/lib/include/EleMessage.h, secure-enclave/lib/include/EleCommand.h |
    name:response code | scheme:footprint | family:error codes

    The response comes into the buffer of the request, and is looked at there as bytes, half-words and
    words:

        byte   0    1     2    3      4       5      6 7                8 …
              ver  size  cmd  tag   status  rating  rating_extension   …   crc (word size - 1)
                                    └─ u16[0] ───┘

    A response with a status other than `ELE_COMMAND_SUCCEED` is answered with `u16[0]` as the error,
    and the error 0 is `ELE_NO_ERROR`. How much the driver has stored is not asked, so that what the
    check looks at may still be the request, or what stands behind the buffer. -/

namespace ImxHal.SecureEnclave.Mu
open ImxHal.Footprint ImxHal.Footprint.Reader ImxHal.Bytes
open ImxHal.Enclave (ELE_MU_MSG_SIZE)

/-- Memory from a message on, byte by byte: the message and what stands behind it. -/
abbrev Memory := ℕ → UInt8

abbrev Reading (α : Type) := Reader ℕ UInt8 α

/-! ### struct mu_msg -/

def sizeof_mu_msg : ℕ := 4 + 4 * ELE_MU_MSG_SIZE

namespace Header

def size : Reading UInt8 := cell 1
def cmd : Reading UInt8 := cell 2
def tag : Reading UInt8 := cell 3

end Header

/-- Word `i` of the message, the header first. -/
def word (i : ℕ) : Reading UInt32 := do
  let b₀ ← cell (4 * i)
  let b₁ ← cell (4 * i + 1)
  let b₂ ← cell (4 * i + 2)
  let b₃ ← cell (4 * i + 3)
  pure (ofBytes b₀ b₁ b₂ b₃)

/-- `data.u32[i]` -/
def u32 (i : ℕ) : Reading UInt32 := word (i + 1)

/-- `data.u16[i]` -/
def u16 (i : ℕ) : Reading ℕ := do
  let lo ← cell (4 + 2 * i)
  let hi ← cell (4 + 2 * i + 1)
  pure (lo.toNat + 2 ^ 8 * hi.toNat)

/-- `data.u8[i]` -/
def u8 (i : ℕ) : Reading UInt8 := cell (4 + i)

/-- `struct mu_rsp` at the start of the data. -/
def status : Reading UInt8 := u8 0
def rating : Reading UInt8 := u8 1
def rating_extension : Reading ℕ := u16 1

/-! ### eleSendAndReciveMsg -/

/-- The buffer is the message from its header on. -/
def calCRC (len : ℕ) : Reading UInt32 :=
  (List.range len).foldlM (fun crc i => do
    let buf_i ← word i
    pure (crc ^^^ buf_i)) 0

/-- The log of the response code; it reads all of `struct mu_rsp`. -/
def dumpResponseCode : Reading Unit := do
  let _ ← status
  let _ ← rating
  let _ ← rating_extension
  pure ()

/-- "Check the result" -/
def checkResult : Reading ℕ := do
  let tag ← Header.tag
  if tag ≠ ELE_RESPONSE_TAG then pure ELE_INVALID_MESSAGE
  else do
    let rsp_status ← status
    if rsp_status ≠ ELE_COMMAND_SUCCEED then do
      dumpResponseCode
      u16 0
    else do
      -- a rating is only logged
      let _ ← rating
      pure ELE_NO_ERROR

/-- "Check response crc", and then the result. -/
def checkResponse : Reading ℕ := do
  let size ← Header.size
  if STORAGE_NB_WORDS_MAX_NO_CRC < size.toNat then do
    let crc ← calCRC (size.toNat - 1)
    let sent ← u32 (size.toNat - 2)
    if crc ≠ sent then pure ELE_INVALID_ARGS else checkResult
  else checkResult

/-- The bytes the driver stores of its answer: no more than it is given room for. -/
def stored (respLen : ℕ) (answer : List UInt8) : List UInt8 := answer.take respLen

/-- Memory with bytes stored at its start. -/
def deliver (memory : Memory) (bytes : List UInt8) : Memory := fun i => bytes.getD i (memory i)

/-- The exchange by `ioctl`: the memory it leaves, or an error. The driver answers into the buffer of
    the request; `none` is a call that fails. -/
def sendAndReceiveMuMsg (memory : Memory) (respLen : ℕ) (answer : Option (List UInt8)) :
    Except ℕ Memory :=
  match answer with
  | none => .error ELE_COMMUNICATION_ERROR
  | some answer => .ok (deliver memory (stored respLen answer))

/-- On the request at the start of `memory`, with room for `respLen` bytes. -/
def eleSendAndReciveMsg (fd : ℤ) (memory : Memory) (respLen : ℕ) (answer : Option (List UInt8)) : ℕ :=
  if fd < 0 then ELE_NOT_INITED
  else if run memory Header.tag ≠ ELE_REQUEST_TAG then ELE_INVALID_MESSAGE
  else match sendAndReceiveMuMsg memory respLen answer with
    | .error error => error
    | .ok memory => run memory checkResponse

/-! ### What the checks give -/

variable {memory m : Memory} {fd : ℤ} {respLen : ℕ} {answer : Option (List UInt8)}

@[simp] theorem run_word (i : ℕ) : run m (word i) = wordAt m i := rfl

theorem run_calCRC (len : ℕ) : run m (calCRC len) = Enclave.calCRC (wordAt m) len := by
  rw [calCRC, run_foldlM, Enclave.calCRC]
  rfl

/-- The last word is the checksum of the words before it, in a message that has one. -/
def CrcMatches (m : Memory) : Prop :=
  STORAGE_NB_WORDS_MAX_NO_CRC < (m 1).toNat →
    Enclave.calCRC (wordAt m) ((m 1).toNat - 1) = wordAt m ((m 1).toNat - 1)

instance : Decidable (CrcMatches m) := inferInstanceAs (Decidable (_ → _))

/-- `u16[0]`: the status below the rating. -/
def responseCode (m : Memory) : ℕ := (m 4).toNat + 2 ^ 8 * (m 5).toNat

theorem run_checkResult :
    run m checkResult = if m 3 ≠ ELE_RESPONSE_TAG then ELE_INVALID_MESSAGE
      else if m 4 ≠ ELE_COMMAND_SUCCEED then responseCode m else ELE_NO_ERROR := by
  simp only [checkResult, run_bind, run_ite]
  rfl

theorem run_checkResponse :
    run m checkResponse = if CrcMatches m then run m checkResult else ELE_INVALID_ARGS := by
  have hrun : run m checkResponse = if STORAGE_NB_WORDS_MAX_NO_CRC < (m 1).toNat then
      (if Enclave.calCRC (wordAt m) ((m 1).toNat - 1) ≠ wordAt m ((m 1).toNat - 2 + 1) then
        ELE_INVALID_ARGS else run m checkResult)
      else run m checkResult := by
    simp only [checkResponse, run_bind, run_ite, run_calCRC]
    rfl
  rw [hrun]
  by_cases hsize : STORAGE_NB_WORDS_MAX_NO_CRC < (m 1).toNat
  · have hlast : (m 1).toNat - 2 + 1 = (m 1).toNat - 1 := by
      rw [STORAGE_NB_WORDS_MAX_NO_CRC] at hsize
      omega
    have hmatch : CrcMatches m
        ↔ Enclave.calCRC (wordAt m) ((m 1).toNat - 1) = wordAt m ((m 1).toNat - 1) :=
      ⟨fun h => h hsize, fun h _ => h⟩
    rw [if_pos hsize, hlast, ite_not]
    simp only [hmatch]
  · have hnone : CrcMatches m := fun h => absurd h hsize
    rw [if_neg hsize, if_pos hnone]

/-- The response as the service sees it, its data behind `struct mu_rsp`. -/
def replyOf (m : Memory) : Reply where
  exchanged := true
  size := (m 1).toNat
  crc := decide (CrcMatches m)
  tag := m 3
  status := m 4
  rating := m 5
  data := (List.range (ELE_MU_MSG_SIZE - 1)).map fun i => wordAt m (i + 2)

/-- The check computes the verdict that the service goes by. -/
theorem checkResponse_eq_error : run m checkResponse = (replyOf m).error := by
  have hcrc : (STORAGE_NB_WORDS_MAX_NO_CRC < (replyOf m).size ∧ (replyOf m).crc = false)
      ↔ ¬ CrcMatches m := by
    constructor
    · rintro ⟨-, hfalse⟩
      exact of_decide_eq_false hfalse
    · intro hnot
      exact ⟨not_le.mp fun hle => hnot fun hlt => absurd hlt (not_lt.mpr hle), decide_eq_false hnot⟩
  have hexchanged : ¬ (replyOf m).exchanged = false := Bool.noConfusion
  rw [run_checkResponse, run_checkResult, Reply.error, if_neg hexchanged]
  simp only [hcrc, ne_eq, ite_not]
  rfl

/-- A response that gets through both checks, up to its status. -/
def Accepted (m : Memory) : Prop := CrcMatches m ∧ m 3 = ELE_RESPONSE_TAG

/-- No error is what an accepted response gives with the status of success, and with a code of 0. -/
theorem checkResponse_eq_no_error :
    run m checkResponse = ELE_NO_ERROR
      ↔ Accepted m ∧ (m 4 = ELE_COMMAND_SUCCEED ∨ (m 4 = 0 ∧ m 5 = 0)) := by
  have hzero : responseCode m = ELE_NO_ERROR ↔ m 4 = 0 ∧ m 5 = 0 := by
    rw [responseCode, ELE_NO_ERROR, ← UInt8.toNat_inj, ← UInt8.toNat_inj]
    simp only [UInt8.toNat_zero]
    omega
  rw [run_checkResponse, run_checkResult, Accepted]
  by_cases hcrc : CrcMatches m
  · rw [if_pos hcrc]
    by_cases htag : m 3 = ELE_RESPONSE_TAG
    · rw [if_neg (not_not.mpr htag)]
      by_cases hstatus : m 4 = ELE_COMMAND_SUCCEED
      · simp [hcrc, htag, hstatus]
      · simp [hcrc, htag, hstatus, hzero]
    · simp [htag, ELE_INVALID_MESSAGE, ELE_NO_ERROR]
  · simp [hcrc, ELE_INVALID_ARGS, ELE_NO_ERROR]

/-! ### What is delivered -/

variable {bytes : List UInt8} {P : ℕ → Prop}

theorem deliver_of_lt {i : ℕ} (h : i < bytes.length) : deliver memory bytes i = Enclave.bytesOf bytes i := by
  rw [deliver, Enclave.bytesOf, List.getD_eq_getElem _ _ h, List.getD_eq_getElem _ _ h]

theorem deliver_of_le {i : ℕ} (h : bytes.length ≤ i) : deliver memory bytes i = memory i :=
  List.getD_eq_default _ _ h

theorem getElem?_eq_some {i : ℕ} {x : UInt8} :
    bytes[i]? = some x ↔ i < bytes.length ∧ Enclave.bytesOf bytes i = x := by
  rw [Enclave.bytesOf, List.getD_eq_getElem?_getD]
  rcases lt_or_ge i bytes.length with hi | hi
  · simp [hi]
  · simp [hi]

theorem within_word (i : ℕ) : Within P m (word i)
    ↔ P (4 * i) ∧ P (4 * i + 1) ∧ P (4 * i + 2) ∧ P (4 * i + 3) := by
  simp [word]

theorem within_calCRC (len : ℕ) : Within P m (calCRC len)
    ↔ ∀ i < len, P (4 * i) ∧ P (4 * i + 1) ∧ P (4 * i + 2) ∧ P (4 * i + 3) := by
  have hstep : ∀ (crc : UInt32) (i : ℕ), Within P m (do
      let buf_i ← word i
      pure (crc ^^^ buf_i)) ↔ P (4 * i) ∧ P (4 * i + 1) ∧ P (4 * i + 2) ∧ P (4 * i + 3) := by
    intro crc i
    rw [within_bind, within_word]
    exact and_iff_left (within_pure _)
  rw [calCRC, within_foldlM hstep]
  simp only [List.mem_range]

/-- The checksum hangs on the words that it is made of, and on no others. -/
theorem crcMatches_congr {m' : Memory} (h1 : m 1 = m' 1)
    (h : STORAGE_NB_WORDS_MAX_NO_CRC < (m 1).toNat → ∀ i < 4 * (m 1).toNat, m i = m' i) :
    CrcMatches m ↔ CrcMatches m' := by
  rw [CrcMatches, CrcMatches, ← h1]
  refine forall_congr' fun hsize => ?_
  have hagree := h hsize
  rw [STORAGE_NB_WORDS_MAX_NO_CRC] at hsize
  have hcrc : run m (calCRC ((m 1).toNat - 1)) = run m' (calCRC ((m 1).toNat - 1)) := by
    refine Within.run_eq ((within_calCRC _).mpr fun i hi => ?_) hagree
    omega
  have hlast : run m (word ((m 1).toNat - 1)) = run m' (word ((m 1).toNat - 1)) := by
    refine Within.run_eq ((within_word _).mpr ?_) hagree
    omega
  rw [run_calCRC, run_calCRC] at hcrc
  rw [hcrc, ← run_word, ← run_word, hlast]

/-! ### Success -/

/-- A response that says that the command has succeeded: its tag, its status, and its checksum if it
    has one, which takes all the words its header counts. -/
structure Success (response : List UInt8) : Prop where
  tag : response[3]? = some ELE_RESPONSE_TAG
  status : response[4]? = some ELE_COMMAND_SUCCEED
  complete : STORAGE_NB_WORDS_MAX_NO_CRC < (Enclave.bytesOf response 1).toNat →
    4 * (Enclave.bytesOf response 1).toNat ≤ response.length
  crc : CrcMatches (Enclave.bytesOf response)

/-- No error only if the driver has answered, with a response of success. -/
def SuccessMeansSuccess (fd : ℤ) (memory : Memory) (respLen : ℕ) (answer : Option (List UInt8)) : Prop :=
  eleSendAndReciveMsg fd memory respLen answer = ELE_NO_ERROR →
    ∃ response, answer = some response ∧ Success (stored respLen response)

/-- How far a response has to go for its checks: past the status, and past the checksum if there is
    one. -/
def needed (m : Memory) : ℕ :=
  max 5 (if STORAGE_NB_WORDS_MAX_NO_CRC < (m 1).toNat then 4 * (m 1).toNat else 0)

/-- Memory in which `n` bytes of a response pass the checks, with the code 0, or with a status of success
    for which they do not go far enough. -/
def Misread (m : Memory) (n : ℕ) : Prop :=
  Accepted m ∧ ((m 4 = 0 ∧ m 5 = 0) ∨ (m 4 = ELE_COMMAND_SUCCEED ∧ n < needed m))

/-- An accepted response goes past its tag, since the request has another one. -/
theorem length_of_accepted (hrequest : memory 3 = ELE_REQUEST_TAG)
    (h : Accepted (deliver memory bytes)) : 4 ≤ bytes.length := by
  by_contra hshort
  have htag := h.2
  rw [deliver_of_le (by omega), hrequest] at htag
  exact absurd htag (by decide)

/-- An accepted response is one of success if its status says so, and if it goes far enough. -/
theorem success_iff_of_accepted (hrequest : memory 3 = ELE_REQUEST_TAG)
    (h : Accepted (deliver memory bytes)) :
    Success bytes ↔ deliver memory bytes 4 = ELE_COMMAND_SUCCEED
      ∧ needed (deliver memory bytes) ≤ bytes.length := by
  have hlength := length_of_accepted hrequest h
  have hsize : deliver memory bytes 1 = Enclave.bytesOf bytes 1 := deliver_of_lt (by omega)
  have hneeded : needed (deliver memory bytes) ≤ bytes.length
      ↔ 5 ≤ bytes.length ∧ (STORAGE_NB_WORDS_MAX_NO_CRC < (Enclave.bytesOf bytes 1).toNat →
        4 * (Enclave.bytesOf bytes 1).toNat ≤ bytes.length) := by
    rw [needed, max_le_iff, hsize]
    split_ifs with hcrc
    · simp [hcrc]
    · simp [hcrc]
  rw [hneeded]
  constructor
  · intro hsuccess
    obtain ⟨hfive, hstatus⟩ := getElem?_eq_some.mp hsuccess.status
    exact ⟨(deliver_of_lt hfive).trans hstatus, hfive, hsuccess.complete⟩
  · rintro ⟨hstatus, hfive, hcomplete⟩
    have htag : Enclave.bytesOf bytes 3 = ELE_RESPONSE_TAG := (deliver_of_lt hlength).symm.trans h.2
    rw [deliver_of_lt hfive] at hstatus
    refine ⟨getElem?_eq_some.mpr ⟨hlength, htag⟩, getElem?_eq_some.mpr ⟨hfive, hstatus⟩, hcomplete, ?_⟩
    refine (crcMatches_congr hsize fun hcrc i hi => deliver_of_lt ?_).mp h.1
    rw [hsize] at hcrc hi
    exact lt_of_lt_of_le hi (hcomplete hcrc)

/-- The exchange takes place, and the response is what is in memory then. -/
theorem eleSendAndReciveMsg_some (hfd : 0 ≤ fd) (hrequest : memory 3 = ELE_REQUEST_TAG)
    (response : List UInt8) : eleSendAndReciveMsg fd memory respLen (some response)
      = run (deliver memory (stored respLen response)) checkResponse := by
  have htag : ¬ run memory Header.tag ≠ ELE_REQUEST_TAG := not_not.mpr hrequest
  rw [eleSendAndReciveMsg, if_neg (not_lt.mpr hfd), if_neg htag, sendAndReceiveMuMsg]

/-- Without an exchange, there is an error. -/
theorem eleSendAndReciveMsg_unsent (h : fd < 0 ∨ memory 3 ≠ ELE_REQUEST_TAG ∨ answer = none) :
    eleSendAndReciveMsg fd memory respLen answer ≠ ELE_NO_ERROR := by
  rw [eleSendAndReciveMsg]
  by_cases hfd : fd < 0
  · rw [if_pos hfd]
    decide
  · rw [if_neg hfd]
    by_cases htag : run memory Header.tag ≠ ELE_REQUEST_TAG
    · rw [if_pos htag]
      decide
    · rw [if_neg htag]
      have hnone : answer = none := (h.resolve_left hfd).resolve_left htag
      rw [hnone, sendAndReceiveMuMsg]
      decide

/-- No error means success, but for the responses that are misread. -/
theorem no_error_means_success_iff (fd : ℤ) (memory : Memory) (respLen : ℕ) (answer : Option (List UInt8)) :
    SuccessMeansSuccess fd memory respLen answer ↔ ∀ response, answer = some response → 0 ≤ fd →
      memory 3 = ELE_REQUEST_TAG →
        ¬ Misread (deliver memory (stored respLen response)) (stored respLen response).length := by
  constructor
  · rintro hmeans response rfl hfd hrequest ⟨haccepted, hstatus⟩
    have herror : eleSendAndReciveMsg fd memory respLen (some response) = ELE_NO_ERROR := by
      rw [eleSendAndReciveMsg_some hfd hrequest, checkResponse_eq_no_error]
      exact ⟨haccepted, hstatus.symm.imp_left And.left⟩
    obtain ⟨response', hsame, hsuccess⟩ := hmeans herror
    obtain rfl := Option.some.inj hsame
    obtain ⟨hsucceed, hlength⟩ := (success_iff_of_accepted hrequest haccepted).mp hsuccess
    rcases hstatus with ⟨hzero, -⟩ | ⟨-, hshort⟩
    · rw [hzero] at hsucceed
      exact absurd hsucceed (by decide)
    · exact absurd hlength (not_le.mpr hshort)
  · intro hnot herror
    by_cases hsent : fd < 0 ∨ memory 3 ≠ ELE_REQUEST_TAG ∨ answer = none
    · exact absurd herror (eleSendAndReciveMsg_unsent hsent)
    · push Not at hsent
      obtain ⟨hfd, hrequest, hanswer⟩ := hsent
      obtain ⟨response, rfl⟩ := Option.ne_none_iff_exists'.mp hanswer
      rw [eleSendAndReciveMsg_some hfd hrequest, checkResponse_eq_no_error] at herror
      obtain ⟨haccepted, hstatus⟩ := herror
      have hright := hnot response rfl hfd hrequest
      have hsucceed : deliver memory (stored respLen response) 4 = ELE_COMMAND_SUCCEED :=
        hstatus.resolve_right fun hzero => hright ⟨haccepted, Or.inl hzero⟩
      have hlength : needed (deliver memory (stored respLen response))
          ≤ (stored respLen response).length :=
        not_lt.mp fun hshort => hright ⟨haccepted, Or.inr ⟨hsucceed, hshort⟩⟩
      exact ⟨response, rfl, (success_iff_of_accepted hrequest haccepted).mpr ⟨hsucceed, hlength⟩⟩

/-- The request closes session 1; the answer has the tag of a response, and status and rating are 0. -/
theorem zero_status_succeeds : ¬ SuccessMeansSuccess 3
    (deliver (fun _ => 0) [7, 2, 0x11, 0x17, 1, 0, 0, 0]) 8
    (some [7, 2, 0x11, 0xe1, 0, 0, 0, 0]) := by
  intro hmeans
  obtain ⟨response, hsame, hsuccess⟩ := hmeans (by decide)
  obtain rfl := Option.some.inj hsame
  exact absurd hsuccess.status (by decide)

end ImxHal.SecureEnclave.Mu
