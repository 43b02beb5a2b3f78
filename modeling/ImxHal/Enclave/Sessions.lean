import ImxHal.Schemes.Brackets
import ImxHal.Schemes.Run

/-! @src secure-enclave/aidl/default/SecureEnclave.cpp, secure-enclave/lib/EleOperation.cpp (open, close and
    key operations), secure-enclave/lib/include/EleMessage.h, secure-enclave/lib/include/EleCommand.h |
    name:secure enclave | scheme:brackets | family:error paths

    A call of the service opens a session, the key store in it and one service on that, runs one operation
    and closes what it has opened. Each step may fail, and a failure leads past the steps behind it:

        session ─▶ key store (created, or loaded if it exists) ─▶ service ─▶ operation
           │              │ fails: closes the session itself         │            │
           ▼ fails        ▼                                          ▼ fails      ▼
        close the service if there is one, the key store if there is one, the session if there is one -/

namespace ImxHal.SecureEnclave
open ImxHal.Run ImxHal.Brackets

/-! ### Codes -/

def ELE_NO_ERROR : ℕ := 0
def ELE_NOT_INITED : ℕ := 1
def ELE_COMMUNICATION_ERROR : ℕ := 2
def ELE_GENERAL_ERROR : ℕ := 3
def ELE_INVALID_MESSAGE : ℕ := 5
def ELE_INVALID_ARGS : ℕ := 6
def ELE_VERIFICATION_FAILURE : ℕ := 9
def ELE_COMMAND_KEYSTORE_CONFLICT : ℕ := 0x0f29

def ELE_COMMAND_SUCCEED : UInt8 := 0xd6
def ELE_REQUEST_TAG : UInt8 := 0x17
def ELE_RESPONSE_TAG : UInt8 := 0xe1
def STORAGE_NB_WORDS_MAX_NO_CRC : ℕ := 4
def ELE_SIGNATURE_VERIFY_SUCCESS : UInt32 := 0x5A3CC3A5
def ELE_SIGNATURE_VERIFY_FAILURE : UInt32 := 0x2B4DD4B2
def ELE_MAC_VERIFY_SUCCESS : UInt32 := 0x6C1AA1C6
def KEY_STORE_NONCE : ℕ := 1000

inductive Command
  | SESSION_OPEN_REQ | SESSION_CLOSE_REQ | KEY_STORE_OPEN_REQ | KEY_STORE_CLOSE_REQ
  | KEY_MANAGEMENT_OPEN_REQ | KEY_MANAGEMENT_CLOSE_REQ | KEY_GENERATE_KEY_REQ | KEY_GET_ATTRIBUTE_REQ
  | KEY_DELETE_KEY_REQ | KEY_MAC_OPEN_REQ | KEY_MAC_CLOSE_REQ | KEY_MAC_OPERATION_REQ
  | KEY_CIPHER_OPEN_REQ | KEY_CIPHER_CLOSE_REQ | KEY_CIPHER_OPERATION_REQ | KEY_CIPHER_AEAD_OPERATION_REQ
  | KEY_SIGN_GENERATE_OPEN_REQ | KEY_SIGN_GENERATE_CLOSE_REQ | KEY_SIGN_GENERATE_REQ
  | KEY_SIGN_VERIFY_OPEN_REQ | KEY_SIGN_VERIFY_CLOSE_REQ | KEY_SIGN_VERIFY_REQ
  deriving DecidableEq

/-- What a handle stands for. -/
inductive Kind | session | keyStore | keyManagement | mac | cipher | signGenerate | signVerify
  deriving DecidableEq

def Command.opened : Command → Option Kind
  | .SESSION_OPEN_REQ => some .session
  | .KEY_STORE_OPEN_REQ => some .keyStore
  | .KEY_MANAGEMENT_OPEN_REQ => some .keyManagement
  | .KEY_MAC_OPEN_REQ => some .mac
  | .KEY_CIPHER_OPEN_REQ => some .cipher
  | .KEY_SIGN_GENERATE_OPEN_REQ => some .signGenerate
  | .KEY_SIGN_VERIFY_OPEN_REQ => some .signVerify
  | _ => none

def Command.closed : Command → Option Kind
  | .SESSION_CLOSE_REQ => some .session
  | .KEY_STORE_CLOSE_REQ => some .keyStore
  | .KEY_MANAGEMENT_CLOSE_REQ => some .keyManagement
  | .KEY_MAC_CLOSE_REQ => some .mac
  | .KEY_CIPHER_CLOSE_REQ => some .cipher
  | .KEY_SIGN_GENERATE_CLOSE_REQ => some .signGenerate
  | .KEY_SIGN_VERIFY_CLOSE_REQ => some .signVerify
  | _ => none

/-! ### Messages -/

/-- A request: its command, the handle it carries (0 where it has none), and the flags of a key store. -/
structure Request where
  cmd : Command
  handle : UInt32
  load : Bool

/-- What comes back: whether the exchange worked, the header, the response code, and the words behind. -/
structure Reply where
  exchanged : Bool
  size : ℕ
  crc : Bool
  tag : UInt8
  status : UInt8
  rating : UInt8
  data : List UInt32

/-- The verdict of `eleSendAndReciveMsg` on a reply. -/
def Reply.error (r : Reply) : ℕ :=
  if r.exchanged = false then ELE_COMMUNICATION_ERROR
  else if STORAGE_NB_WORDS_MAX_NO_CRC < r.size ∧ r.crc = false then ELE_INVALID_ARGS
  else if r.tag ≠ ELE_RESPONSE_TAG then ELE_INVALID_MESSAGE
  else if r.status ≠ ELE_COMMAND_SUCCEED then r.status.toNat + 2 ^ 8 * r.rating.toNat
  else ELE_NO_ERROR

def Reply.word (r : Reply) (i : ℕ) : UInt32 := r.data.getD i 0

/-- What the enclave answers, after everything asked so far. -/
abbrev Enclave := List (Request × Reply) → Request → Reply

/-- The service with its `EleOperation`, and what has been exchanged. -/
structure Ele where
  eleDeviceReady : Bool
  fd : ℤ
  cmd_tag : UInt8
  session_handle : UInt32
  trace : List (Request × Reply)

/-- The result of a function: an error code or a value. -/
abbrev Result (α : Type) := Except ℕ α × Ele

variable (ele : Enclave)

/-- A request that can be sent; `none` is a reply that was never read. -/
def eleSendAndReciveMsg (e : Ele) (req : Request) : Result Reply :=
  if e.fd < 0 then (.error ELE_NOT_INITED, e)
  else if e.cmd_tag ≠ ELE_REQUEST_TAG then (.error ELE_INVALID_MESSAGE, e)
  else
    let r := ele e.trace req
    let e := { e with trace := e.trace ++ [(req, r)] }
    if r.error ≠ ELE_NO_ERROR then (.error r.error, e) else (.ok r, e)

/-! ### Opening and closing -/

/-- An open request on a parent, which must be there; so must the handle that comes back. -/
def eleOpen (cmd : Command) (parent : UInt32) (load : Bool) (e : Ele) : Result UInt32 :=
  if parent = 0 then (.error ELE_GENERAL_ERROR, e)
  else match eleSendAndReciveMsg ele e ⟨cmd, parent, load⟩ with
    | (.error error, e) => (.error error, e)
    | (.ok r, e) => if r.word 0 = 0 then (.error ELE_INVALID_MESSAGE, e) else (.ok (r.word 0), e)

/-- A close request for a handle, which must be there. -/
def eleClose (cmd : Command) (handle : UInt32) (e : Ele) : Result Unit :=
  if handle = 0 then (.error ELE_GENERAL_ERROR, e)
  else match eleSendAndReciveMsg ele e ⟨cmd, handle, false⟩ with
    | (.error error, e) => (.error error, e)
    | (.ok _, e) => (.ok (), e)

def eleOpenSession (e : Ele) : Result Unit :=
  if e.session_handle ≠ 0 then (.error ELE_GENERAL_ERROR, e)
  else match eleSendAndReciveMsg ele e ⟨.SESSION_OPEN_REQ, 0, false⟩ with
    | (.error error, e) => (.error error, e)
    | (.ok r, e) =>
      if r.word 0 = 0 then (.error ELE_INVALID_MESSAGE, e)
      else (.ok (), { e with session_handle := r.word 0 })

def eleCloseSession (e : Ele) : Result Unit :=
  match eleClose ele .SESSION_CLOSE_REQ e.session_handle e with
  | (.error error, e) => (.error error, e)
  | (.ok (), e) => (.ok (), { e with session_handle := 0 })

def eleOpenKeyStore (load : Bool) (e : Ele) : Result UInt32 :=
  eleOpen ele .KEY_STORE_OPEN_REQ e.session_handle load e

def eleCloseKeyStore (keyStoreHandler : UInt32) (e : Ele) : Result Unit :=
  eleClose ele .KEY_STORE_CLOSE_REQ keyStoreHandler e

def eleOpenKeyManagement (keyStoreHandler : UInt32) (e : Ele) : Result UInt32 :=
  eleOpen ele .KEY_MANAGEMENT_OPEN_REQ keyStoreHandler false e

def eleCloseKeyManagement (keyMgtHandle : UInt32) (e : Ele) : Result Unit :=
  eleClose ele .KEY_MANAGEMENT_CLOSE_REQ keyMgtHandle e

def eleOpenCipher (keyStoreHandler : UInt32) (e : Ele) : Result UInt32 :=
  eleOpen ele .KEY_CIPHER_OPEN_REQ keyStoreHandler false e

def eleCloseCipher (cipherHandle : UInt32) (e : Ele) : Result Unit :=
  eleClose ele .KEY_CIPHER_CLOSE_REQ cipherHandle e

def eleSignGenerateOpen (keyStoreHandler : UInt32) (e : Ele) : Result UInt32 :=
  eleOpen ele .KEY_SIGN_GENERATE_OPEN_REQ keyStoreHandler false e

def eleSignGenerateClose (signGenHandle : UInt32) (e : Ele) : Result Unit :=
  eleClose ele .KEY_SIGN_GENERATE_CLOSE_REQ signGenHandle e

/-- Signatures are verified in the session, not in the key store. -/
def eleSignVerifyOpen (e : Ele) : Result UInt32 :=
  eleOpen ele .KEY_SIGN_VERIFY_OPEN_REQ e.session_handle false e

def eleSignVerifyClose (signVerifyHandle : UInt32) (e : Ele) : Result Unit :=
  eleClose ele .KEY_SIGN_VERIFY_CLOSE_REQ signVerifyHandle e

def eleMacOpen (keyStoreHandler : UInt32) (e : Ele) : Result UInt32 :=
  eleOpen ele .KEY_MAC_OPEN_REQ keyStoreHandler false e

def eleMacClose (macHandle : UInt32) (e : Ele) : Result Unit :=
  eleClose ele .KEY_MAC_CLOSE_REQ macHandle e

/-- The key store is created, or loaded if it exists; a failure closes the session again. -/
def eleOpenSessionKeystore (e : Ele) : Result UInt32 :=
  if e.eleDeviceReady = false then (.error ELE_NOT_INITED, e)
  else match eleOpenSession ele e with
    | (.error _, e) => (.error ELE_GENERAL_ERROR, e)
    | (.ok (), e) =>
      match eleOpenKeyStore ele false e with
      | (.ok handle, e) => (.ok handle, e)
      | (.error error, e) =>
        if error = ELE_COMMAND_KEYSTORE_CONFLICT then
          match eleOpenKeyStore ele true e with
          | (.ok handle, e) => (.ok handle, e)
          | (.error _, e) => (.error ELE_GENERAL_ERROR, (eleCloseSession ele e).2)
        else (.error ELE_GENERAL_ERROR, (eleCloseSession ele e).2)

/-- Failures to close are not looked at. -/
def eleCloseSessionKeystore (keyStoreHandler : UInt32) (e : Ele) : Ele :=
  let e := if keyStoreHandler ≠ 0 then (eleCloseKeyStore ele keyStoreHandler e).2 else e
  (eleCloseSession ele e).2

/-! ### The operations -/

/-- A vector of the caller: its size, and whether `data()` is null. -/
structure Vec where
  size : ℕ
  null : Bool

/-- An argument as it is stored into a field of `bits` bits. -/
def toUInt (bits : ℕ) (x : ℤ) : ℕ := (x % 2 ^ bits).toNat

def CIPHER_FLAGS_PLAINTEXT_KEY : ℕ := 1 <<< 3
def CIPHER_FLAGS_MULTI : ℕ := 1 <<< 8 ||| 1 <<< 10 ||| 1 <<< 11 ||| 1 <<< 13 ||| 1 <<< 15
def AEAD_FLAGS_FULL_IV : ℕ := 1 <<< 1
def AEAD_FLAGS_COUNTER_IV : ℕ := 1 <<< 2
def AEAD_FLAGS_PLAINTEXT_KEY : ℕ := 1 <<< 3
def AEAD_FLAGS_ONE_SHOT : ℕ := 1 <<< 4
def AEAD_FLAGS_MULTI_INIT : ℕ := 1 <<< 8
def AEAD_FLAGS_MULTI_UPDATE_AAD : ℕ := 1 <<< 9
def AEAD_FLAGS_MULTI_FINAL : ℕ := 1 <<< 11
def AEAD_FLAGS_MULTI_FINAL_VERIFY : ℕ := 1 <<< 12
def AEAD_FLAGS_MULTI : ℕ :=
  1 <<< 8 ||| 1 <<< 9 ||| 1 <<< 10 ||| 1 <<< 11 ||| 1 <<< 12 ||| 1 <<< 13 ||| 1 <<< 15
def MAC_ONE_GO_GENERATION : ℕ := 1 <<< 0

def hasFlag (flags mask : ℕ) : Bool := flags &&& mask != 0

/-- An operation: `invalid` arguments are refused, and the reply is checked. -/
def operate (cmd : Command) (handle : UInt32) (invalid : Option ℕ) (check : Reply → Option ℕ) (e : Ele) :
    Result Unit :=
  match invalid with
  | some error => (.error error, e)
  | none => match eleSendAndReciveMsg ele e ⟨cmd, handle, false⟩ with
    | (.error error, e) => (.error error, e)
    | (.ok r, e) => match check r with
      | some error => (.error error, e)
      | none => (.ok (), e)

def eleGenerateKey (keyId pubKeySize : ℤ) (keyMgtHandle : UInt32) (e : Ele) : Result Unit :=
  operate ele .KEY_GENERATE_KEY_REQ keyMgtHandle (if keyMgtHandle = 0 then some ELE_GENERAL_ERROR else none)
    (fun r =>
      let key_id := (r.word 0).toNat
      if (r.word 1).toNat % 2 ^ 16 ≠ toUInt 16 pubKeySize then some ELE_GENERAL_ERROR
      else if toUInt 32 keyId ≠ 0 ∧ toUInt 32 keyId ≠ key_id then some ELE_GENERAL_ERROR
      else if key_id = 0 ∨ 0x7fffffff < key_id then some ELE_GENERAL_ERROR
      else none) e

/-- The key id of a key that is to be there already. -/
def invalidKey (keyId : ℤ) (keyMgtHandle : UInt32) : Option ℕ :=
  if keyMgtHandle = 0 ∨ toUInt 32 keyId = 0 ∨ 0x7fffffff < toUInt 32 keyId then some ELE_INVALID_MESSAGE
  else none

def eleDeleteKey (keyId : ℤ) (keyMgtHandle : UInt32) (e : Ele) : Result Unit :=
  operate ele .KEY_DELETE_KEY_REQ keyMgtHandle (invalidKey keyId keyMgtHandle) (fun _ => none) e

def eleGetKeyAttr (keyId : ℤ) (keyMgtHandle : UInt32) (e : Ele) : Result Unit :=
  operate ele .KEY_GET_ATTRIBUTE_REQ keyMgtHandle (invalidKey keyId keyMgtHandle) (fun _ => none) e

/-- A buffer that is missing, its size in a field of `bits` bits. -/
def Vec.missing (v : Vec) (bits : ℕ) : Bool := v.null || v.size % 2 ^ bits == 0

def eleCipherOperation (keyId : ℤ) (iv : Vec) (flags : ℤ) (input output : Vec) (cipherHandle : UInt32)
    (e : Ele) : Result Unit :=
  operate ele .KEY_CIPHER_OPERATION_REQ cipherHandle
    (if cipherHandle = 0 ∨ toUInt 32 keyId = 0 then some ELE_INVALID_MESSAGE
      else if (iv.null ∧ iv.size % 2 ^ 16 ≠ 0) ∨ (iv.null = false ∧ iv.size % 2 ^ 16 = 0) then
        some ELE_INVALID_MESSAGE
      else if input.missing 32 ∨ output.missing 32 then some ELE_INVALID_MESSAGE
      else if hasFlag (toUInt 16 flags) CIPHER_FLAGS_PLAINTEXT_KEY then some ELE_INVALID_MESSAGE
      else none) (fun _ => none) e

def eleCipherAeadOperation (keyId : ℤ) (iv iv_out : Vec) (flags : ℕ) (tag aad input output : Vec)
    (cipherHandle : UInt32) (e : Ele) : Result Unit :=
  operate ele .KEY_CIPHER_AEAD_OPERATION_REQ cipherHandle
    (if cipherHandle = 0 ∨ toUInt 32 keyId = 0 then some ELE_INVALID_MESSAGE
      else if hasFlag flags AEAD_FLAGS_PLAINTEXT_KEY then some ELE_INVALID_MESSAGE
      else if hasFlag flags (AEAD_FLAGS_ONE_SHOT ||| AEAD_FLAGS_MULTI_INIT) ∧
          (if hasFlag flags AEAD_FLAGS_FULL_IV ∧ iv.size % 2 ^ 16 ≠ 0 then True
            else if hasFlag flags AEAD_FLAGS_COUNTER_IV ∧ (iv.size % 2 ^ 16 ≠ 4 ∨ iv.null) then True
            else if iv.size % 2 ^ 16 ≠ 12 ∨ iv.null then True
            else hasFlag flags (AEAD_FLAGS_FULL_IV ||| AEAD_FLAGS_COUNTER_IV) ∧ iv_out.null) then
        some ELE_INVALID_MESSAGE
      else if hasFlag flags (AEAD_FLAGS_MULTI_FINAL ||| AEAD_FLAGS_MULTI_FINAL_VERIFY |||
          AEAD_FLAGS_ONE_SHOT) ∧ (tag.null ∨ tag.size % 2 ^ 16 < 16) then some ELE_INVALID_MESSAGE
      else if hasFlag flags (AEAD_FLAGS_ONE_SHOT ||| AEAD_FLAGS_MULTI_UPDATE_AAD) ∧ aad.missing 32 then
        some ELE_INVALID_MESSAGE
      else if input.missing 32 ∨ output.missing 32 then some ELE_INVALID_MESSAGE
      else none)
    (fun r => if r.word 1 = ELE_SIGNATURE_VERIFY_FAILURE then some ELE_VERIFICATION_FAILURE else none) e

def eleSignGenerate (keyId : ℤ) (message signature : Vec) (signGenHandle : UInt32) (e : Ele) :
    Result Unit :=
  operate ele .KEY_SIGN_GENERATE_REQ signGenHandle
    (if signGenHandle = 0 ∨ toUInt 32 keyId = 0 then some ELE_INVALID_MESSAGE
      else if message.missing 32 ∨ signature.missing 16 then some ELE_INVALID_MESSAGE
      else none) (fun _ => none) e

def eleSignVerify (key message signature : Vec) (signVerifyHandle : UInt32) (e : Ele) : Result Unit :=
  operate ele .KEY_SIGN_VERIFY_REQ signVerifyHandle
    (if signVerifyHandle = 0 then some ELE_INVALID_MESSAGE
      else if key.missing 16 ∨ message.missing 32 ∨ signature.missing 16 then some ELE_INVALID_MESSAGE
      else none)
    (fun r => if r.word 0 ≠ ELE_SIGNATURE_VERIFY_SUCCESS then some ELE_VERIFICATION_FAILURE else none) e

def eleMacOperation (payload mac : Vec) (macSize flag : ℤ) (macHandle : UInt32) (e : Ele) : Result Unit :=
  operate ele .KEY_MAC_OPERATION_REQ macHandle
    (if macHandle = 0 then some ELE_INVALID_MESSAGE
      else if payload.missing 32 ∨ mac.null ∨ toUInt 16 macSize = 0 then some ELE_INVALID_MESSAGE
      else none)
    (fun r =>
      if hasFlag (toUInt 8 flag) MAC_ONE_GO_GENERATION then none
      else if r.word 0 ≠ ELE_MAC_VERIFY_SUCCESS then some ELE_VERIFICATION_FAILURE
      else none) e

/-! ### The calls of the service -/

/-- `std::length_error`, which leaves the method: no error code. -/
def LENGTH_ERROR : ℕ := 2 ^ 32

def checkDevice (uid : ℕ) (e : Ele) : Option ℕ :=
  if e.eleDeviceReady = false then some ELE_NOT_INITED
  else if uid ≠ KEY_STORE_NONCE then some ELE_GENERAL_ERROR
  else none

/-- The shape all calls share: the variables of the method are the key store's handle, the service's handle
    and the error, and what has a handle is closed at the end. -/
def serviceCall (uid : ℕ) (refused : Option ℕ) (openService : UInt32 → Ele → Result UInt32)
    (closeService : UInt32 → Ele → Result Unit) (operation : UInt32 → Ele → Result Unit) (e : Ele) :
    Result Unit :=
  match checkDevice uid e with
  | some error => (.error error, e)
  | none =>
    let (keyStoreHandler, serviceHandle, r, e) : UInt32 × UInt32 × Except ℕ Unit × Ele :=
      match refused with
      | some error => (0, 0, .error error, e)
      | none => match eleOpenSessionKeystore ele e with
        | (.error error, e) => (0, 0, .error error, e)
        | (.ok keyStoreHandler, e) => match openService keyStoreHandler e with
          | (.error error, e) => (keyStoreHandler, 0, .error error, e)
          | (.ok serviceHandle, e) => (keyStoreHandler, serviceHandle, operation serviceHandle e)
    let e := if serviceHandle ≠ 0 then (closeService serviceHandle e).2 else e
    (r, eleCloseSessionKeystore ele keyStoreHandler e)

/-- A call by the user `uid`; arguments that are only passed on are left out. -/
inductive Call
  | eleGenerateKey (keyId pubKeySize : ℤ)
  | eleDeleteKey (keyId : ℤ)
  | eleGetKeyAttr (keyId : ℤ)
  | eleCipherOperation (keyId : ℤ) (iv : Vec) (flags : ℤ) (input output : Vec)
  | eleCipherAeadOperation (keyId : ℤ) (iv iv_out : Vec) (flags : ℤ) (tag aad input output : Vec)
  | eleSignGenerate (keyId : ℤ) (message signature : Vec)
  | eleSignVerify (key message signature : Vec)
  | eleMacOperation (payload mac : Vec) (macSize flag : ℤ)

def call (uid : ℕ) (e : Ele) : Call → Result Unit
  | .eleGenerateKey keyId pubKeySize =>
    if pubKeySize < 0 then (.error LENGTH_ERROR, e)
    else serviceCall ele uid none (eleOpenKeyManagement ele) (eleCloseKeyManagement ele)
      (eleGenerateKey ele keyId pubKeySize) e
  | .eleDeleteKey keyId =>
    serviceCall ele uid none (eleOpenKeyManagement ele) (eleCloseKeyManagement ele)
      (eleDeleteKey ele keyId) e
  | .eleGetKeyAttr keyId =>
    serviceCall ele uid none (eleOpenKeyManagement ele) (eleCloseKeyManagement ele)
      (eleGetKeyAttr ele keyId) e
  | .eleCipherOperation keyId iv flags input output =>
    serviceCall ele uid
      (if hasFlag (toUInt 32 flags) CIPHER_FLAGS_MULTI then some ELE_INVALID_ARGS else none)
      (eleOpenCipher ele) (eleCloseCipher ele) (eleCipherOperation ele keyId iv flags input output) e
  | .eleCipherAeadOperation keyId iv iv_out flags tag aad input output =>
    serviceCall ele uid
      (if hasFlag (toUInt 32 flags) AEAD_FLAGS_MULTI then some ELE_INVALID_ARGS else none)
      (eleOpenCipher ele) (eleCloseCipher ele)
      (eleCipherAeadOperation ele keyId iv iv_out (toUInt 16 flags ||| AEAD_FLAGS_ONE_SHOT) tag aad input
        output) e
  | .eleSignGenerate keyId message signature =>
    serviceCall ele uid none (eleSignGenerateOpen ele) (eleSignGenerateClose ele)
      (eleSignGenerate ele keyId message signature) e
  | .eleSignVerify key message signature =>
    serviceCall ele uid none (fun _ => eleSignVerifyOpen ele) (eleSignVerifyClose ele)
      (eleSignVerify ele key message signature) e
  | .eleMacOperation payload mac macSize flag =>
    -- the size is compared as a `size_t`, so that a negative one is too large
    serviceCall ele uid (if mac.size < toUInt 64 macSize then some ELE_INVALID_ARGS else none)
      (eleMacOpen ele) (eleMacClose ele) (eleMacOperation ele payload mac macSize flag) e

def step (e : Ele) (c : ℕ × Call) : Ele := (call ele c.1 e c.2).2

/-! ### What is meant to be kept -/

/-- A handle the enclave has given out. -/
def opens (x : Request × Reply) : Option (Kind × UInt32) :=
  if x.2.error = ELE_NO_ERROR ∧ x.2.word 0 ≠ 0 then x.1.cmd.opened.map (·, x.2.word 0) else none

/-- A handle that is sent in a close request. -/
def closes (x : Request × Reply) : Option (Kind × UInt32) := x.1.cmd.closed.map (·, x.1.handle)

/-- What the call has exchanged: each handle it was given is closed once, in reverse order, no other handle
    is closed, and the next call can open a session. -/
structure Returned (e e' : Ele) : Prop where
  prefix_ : e.trace <+: e'.trace
  nested : Nested opens closes (e'.trace.drop e.trace.length)
  once : ClosedOnce opens closes (e'.trace.drop e.trace.length)
  session : e'.session_handle = 0

/-- Close requests themselves succeed. -/
def ClosesSucceed : Prop :=
  ∀ trace req, req.cmd.closed.isSome = true → (ele trace req).error = ELE_NO_ERROR

/-! ### What one function exchanges -/

abbrev Stack := List (Kind × UInt32)

/-- The exchange from `e` to `e'` leads from one stack of open handles to another; the device stays. -/
structure Leads (st : Stack) (e : Ele) (st' : Stack) (e' : Ele) : Prop where
  fd : e'.fd = e.fd
  tag : e'.cmd_tag = e.cmd_tag
  trace : ∃ tr, e'.trace = e.trace ++ tr ∧ track opens closes st tr = some st'

theorem Leads.refl (st : Stack) (e : Ele) : Leads st e st e :=
  ⟨rfl, rfl, [], (List.append_nil _).symm, rfl⟩

theorem Leads.trans {st st' st'' : Stack} {e e' e'' : Ele} (h : Leads st e st' e')
    (h' : Leads st' e' st'' e'') : Leads st e st'' e'' := by
  obtain ⟨tr, htr, htrack⟩ := h.trace
  obtain ⟨tr', htr', htrack'⟩ := h'.trace
  refine ⟨h'.fd.trans h.fd, h'.tag.trans h.tag, tr ++ tr', ?_, track_trans htrack htrack'⟩
  rw [htr', htr, List.append_assoc]

/-- The session handle is no part of the exchange. -/
theorem Leads.session {st st' : Stack} {e e' : Ele} (h : Leads st e st' e') (handle : UInt32) :
    Leads st e st' { e' with session_handle := handle } := ⟨h.fd, h.tag, h.trace⟩

/-- The device can be asked. -/
def Sendable (e : Ele) : Prop := ¬ e.fd < 0 ∧ e.cmd_tag = ELE_REQUEST_TAG

theorem Leads.sendable {st st' : Stack} {e e' : Ele} (h : Leads st e st' e') (he : Sendable e) :
    Sendable e' := by
  rw [Sendable, h.fd, h.tag]
  exact he

/-- A request that closes nothing: the handle it opens, if the reply is a success with a handle. -/
theorem send_spec (req : Request) (hc : req.cmd.closed = none) (st : Stack) (e : Ele) :
    match eleSendAndReciveMsg ele e req with
    | (.error _, e') => Leads st e st e' ∧ e'.session_handle = e.session_handle
    | (.ok r, e') => Leads st e
        ((if r.word 0 ≠ 0 then (req.cmd.opened.map (·, r.word 0)).toList else []) ++ st) e' ∧
        e'.session_handle = e.session_handle ∧ Sendable e' := by
  rw [eleSendAndReciveMsg]
  by_cases hfd : e.fd < 0
  · simp [hfd, Leads.refl]
  by_cases htag : e.cmd_tag ≠ ELE_REQUEST_TAG
  · simp [hfd, htag, Leads.refl]
  rw [if_neg hfd, if_neg htag]
  have hpush : ∀ r, push opens closes st (req, r) = some ((opens (req, r)).toList ++ st) := by
    intro r
    simp [push, closes, hc]
  by_cases herr : (ele e.trace req).error ≠ ELE_NO_ERROR
  · simp only [herr, ne_eq, not_false_eq_true, if_true]
    refine ⟨⟨rfl, rfl, [_], rfl, ?_⟩, trivial⟩
    rw [track_singleton, hpush, opens, if_neg fun h => herr h.1]
    rfl
  · simp only [herr, if_false]
    refine ⟨⟨rfl, rfl, [_], rfl, ?_⟩, trivial, hfd, not_not.mp htag⟩
    rw [track_singleton, hpush, opens]
    by_cases hword : (ele e.trace req).word 0 = 0
    · simp [hword]
    · simp [hword, not_not.mp herr]

theorem eleOpen_spec (cmd : Command) {k : Kind} (ho : cmd.opened = some k) (hc : cmd.closed = none)
    (parent : UInt32) (load : Bool) (st : Stack) (e : Ele) :
    match eleOpen ele cmd parent load e with
    | (.error _, e') => Leads st e st e' ∧ e'.session_handle = e.session_handle
    | (.ok h, e') => h ≠ 0 ∧ Leads st e ((k, h) :: st) e' ∧ e'.session_handle = e.session_handle ∧
        Sendable e' := by
  rw [eleOpen]
  by_cases hp : parent = 0
  · simp [hp, Leads.refl]
  rw [if_neg hp]
  have hsend := send_spec ele ⟨cmd, parent, load⟩ hc st e
  rcases hres : eleSendAndReciveMsg ele e ⟨cmd, parent, load⟩ with ⟨error | r, e'⟩ <;>
    simp only [hres] at hsend ⊢
  · exact hsend
  · by_cases hword : r.word 0 = 0
    · simp only [hword, ne_eq, not_true_eq_false, if_false, if_true, List.nil_append] at hsend ⊢
      exact ⟨hsend.1, hsend.2.1⟩
    · simp only [hword, ne_eq, not_false_eq_true, if_true, if_false, ho] at hsend ⊢
      exact ⟨trivial, hsend⟩

theorem eleClose_spec (hcs : ClosesSucceed ele) (cmd : Command) {k : Kind} (hc : cmd.closed = some k)
    {h : UInt32} (hh : h ≠ 0) {e : Ele} (he : Sendable e) (st : Stack) :
    ∃ e', eleClose ele cmd h e = (.ok (), e') ∧ Leads ((k, h) :: st) e st e' ∧
      e'.session_handle = e.session_handle := by
  have herr := hcs e.trace ⟨cmd, h, false⟩ (by rw [hc]; rfl)
  refine ⟨{ e with trace := e.trace ++ [(⟨cmd, h, false⟩, ele e.trace ⟨cmd, h, false⟩)] }, ?_, ?_, rfl⟩
  · simp [eleClose, eleSendAndReciveMsg, hh, he.1, he.2, herr]
  · refine ⟨rfl, rfl, [_], rfl, ?_⟩
    simp [track_singleton, push, closes, hc]

theorem operate_spec (cmd : Command) (ho : cmd.opened = none) (hc : cmd.closed = none) (handle : UInt32)
    (invalid : Option ℕ) (check : Reply → Option ℕ) (st : Stack) (e : Ele) :
    Leads st e st (operate ele cmd handle invalid check e).2 ∧
      (operate ele cmd handle invalid check e).2.session_handle = e.session_handle := by
  rcases invalid with _ | error
  swap
  · exact ⟨Leads.refl st e, rfl⟩
  simp only [operate]
  have hsend := send_spec ele ⟨cmd, handle, false⟩ hc st e
  rcases hres : eleSendAndReciveMsg ele e ⟨cmd, handle, false⟩ with ⟨error | r, e'⟩ <;>
    simp only [hres, ho, Option.map_none, Option.toList_none, ite_self, List.nil_append] at hsend ⊢
  · exact hsend
  · rcases check r with _ | error <;> exact ⟨hsend.1, hsend.2.1⟩

/-! ### Sessions and calls -/

theorem eleOpenSession_spec {e : Ele} (he : e.session_handle = 0) :
    match eleOpenSession ele e with
    | (.error _, e') => Leads [] e [] e' ∧ e'.session_handle = 0
    | (.ok (), e') => Leads [] e [(.session, e'.session_handle)] e' ∧ e'.session_handle ≠ 0 ∧
        Sendable e' := by
  rw [eleOpenSession]
  have hsend := send_spec ele ⟨.SESSION_OPEN_REQ, 0, false⟩ rfl [] e
  simp only [he, ne_eq, not_true_eq_false, if_false]
  rcases hres : eleSendAndReciveMsg ele e ⟨.SESSION_OPEN_REQ, 0, false⟩ with ⟨error | r, e'⟩ <;>
    simp only [hres, he] at hsend ⊢
  · exact hsend
  · by_cases hword : r.word 0 = 0
    · simp only [hword, ne_eq, not_true_eq_false, if_false, if_true, List.nil_append] at hsend ⊢
      exact ⟨hsend.1, hsend.2.1⟩
    · simp only [hword, ne_eq, not_false_eq_true, if_true, if_false] at hsend ⊢
      exact ⟨hsend.1.session _, trivial, hsend.2.2⟩

variable {ele}

theorem eleCloseSession_spec (hcs : ClosesSucceed ele) {e : Ele} (hh : e.session_handle ≠ 0)
    (he : Sendable e) : Leads [(.session, e.session_handle)] e [] (eleCloseSession ele e).2 ∧
      (eleCloseSession ele e).2.session_handle = 0 := by
  obtain ⟨e', heq, hleads, -⟩ := eleClose_spec ele hcs .SESSION_CLOSE_REQ rfl hh he []
  rw [eleCloseSession, heq]
  exact ⟨hleads.session 0, rfl⟩

/-- Nothing is asked without a session. -/
theorem eleCloseSession_none {e : Ele} (he : e.session_handle = 0) : (eleCloseSession ele e).2 = e := by
  rw [eleCloseSession, eleClose, if_pos he]

/-- What a call holds between opening and closing: nothing, or the session and the key store. -/
def Holds (e₀ : Ele) (keyStoreHandler : UInt32) (e : Ele) : Prop :=
  keyStoreHandler ≠ 0 ∧ e.session_handle ≠ 0 ∧ Sendable e ∧
    Leads [] e₀ [(.keyStore, keyStoreHandler), (.session, e.session_handle)] e

theorem eleOpenSessionKeystore_spec (hcs : ClosesSucceed ele) {e : Ele} (he : e.session_handle = 0) :
    match eleOpenSessionKeystore ele e with
    | (.error _, e') => Leads [] e [] e' ∧ e'.session_handle = 0
    | (.ok h, e') => Holds e h e' := by
  rw [eleOpenSessionKeystore]
  by_cases hready : e.eleDeviceReady = false
  · rw [if_pos hready]
    exact ⟨Leads.refl [] e, he⟩
  rw [if_neg hready]
  have hopen := eleOpenSession_spec ele he
  rcases hres : eleOpenSession ele e with ⟨error | ⟨⟩, e₁⟩ <;> simp only [hres] at hopen ⊢
  · exact hopen
  obtain ⟨hleads, hsession, hsend⟩ := hopen
  have hclose : ∀ e₂, Leads [(.session, e₁.session_handle)] e₁ [(.session, e₁.session_handle)] e₂ →
      e₂.session_handle = e₁.session_handle →
      Leads [] e [] (eleCloseSession ele e₂).2 ∧ (eleCloseSession ele e₂).2.session_handle = 0 := by
    intro e₂ h₂ hs₂
    have hc := eleCloseSession_spec hcs (hs₂ ▸ hsession) (h₂.sendable hsend)
    rw [hs₂] at hc
    exact ⟨(hleads.trans h₂).trans hc.1, hc.2⟩
  have hcreate := eleOpen_spec ele .KEY_STORE_OPEN_REQ rfl rfl e₁.session_handle false
    [(.session, e₁.session_handle)] e₁
  rw [← eleOpenKeyStore] at hcreate
  rcases hres : eleOpenKeyStore ele false e₁ with ⟨error | h, e₂⟩ <;> simp only [hres] at hcreate ⊢
  swap
  · obtain ⟨hh, hl, hs, hsend₂⟩ := hcreate
    exact ⟨hh, hs ▸ hsession, hsend₂, hs.symm ▸ hleads.trans hl⟩
  obtain ⟨hl, hs⟩ := hcreate
  by_cases hconflict : error = ELE_COMMAND_KEYSTORE_CONFLICT
  swap
  · rw [if_neg hconflict]
    exact hclose e₂ hl hs
  rw [if_pos hconflict]
  have hload := eleOpen_spec ele .KEY_STORE_OPEN_REQ rfl rfl e₂.session_handle true
    [(.session, e₁.session_handle)] e₂
  rw [← eleOpenKeyStore] at hload
  rcases hres : eleOpenKeyStore ele true e₂ with ⟨error | h, e₃⟩ <;> simp only [hres] at hload ⊢
  · exact hclose e₃ (hl.trans hload.1) (hload.2.trans hs)
  · obtain ⟨hh, hl', hs', hsend₃⟩ := hload
    rw [hs] at hs'
    exact ⟨hh, hs' ▸ hsession, hsend₃, hs'.symm ▸ (hleads.trans hl).trans hl'⟩

theorem eleCloseSessionKeystore_spec (hcs : ClosesSucceed ele) {e₀ e : Ele} {keyStoreHandler : UInt32}
    (h : Holds e₀ keyStoreHandler e) : Leads [] e₀ [] (eleCloseSessionKeystore ele keyStoreHandler e) ∧
      (eleCloseSessionKeystore ele keyStoreHandler e).session_handle = 0 := by
  obtain ⟨hh, hsession, hsend, hleads⟩ := h
  obtain ⟨e', heq, hl, hs⟩ := eleClose_spec ele hcs .KEY_STORE_CLOSE_REQ rfl hh hsend
    [(.session, e.session_handle)]
  have hc := eleCloseSession_spec hcs (hs ▸ hsession) (hl.sendable hsend)
  rw [hs] at hc
  simp only [eleCloseSessionKeystore, if_pos hh, eleCloseKeyStore, heq]
  exact ⟨(hleads.trans hl).trans hc.1, hc.2⟩

theorem eleCloseSessionKeystore_none {e : Ele} (he : e.session_handle = 0) :
    eleCloseSessionKeystore ele 0 e = e := eleCloseSession_none he

/-- Every call leads from no open handle to no open handle. -/
theorem serviceCall_spec (hcs : ClosesSucceed ele) (openCmd closeCmd cmd : Command) {k : Kind}
    (ho : openCmd.opened = some k ∧ openCmd.closed = none) (hc : closeCmd.closed = some k)
    (hcmd : cmd.opened = none ∧ cmd.closed = none)
    {openService : UInt32 → Ele → Result UInt32} {operation : UInt32 → Ele → Result Unit}
    (hopen : ∀ h e, ∃ parent, openService h e = eleOpen ele openCmd parent false e)
    (hoper : ∀ h e, ∃ invalid check, operation h e = operate ele cmd h invalid check e)
    (uid : ℕ) (refused : Option ℕ) {e : Ele} (he : e.session_handle = 0) :
    Leads [] e [] (serviceCall ele uid refused openService (eleClose ele closeCmd) operation e).2 ∧
      (serviceCall ele uid refused openService (eleClose ele closeCmd) operation e).2.session_handle =
        0 := by
  rcases hdev : checkDevice uid e with _ | error
  swap
  · simp only [serviceCall, hdev]
    exact ⟨Leads.refl [] e, he⟩
  rcases refused with _ | error
  swap
  · simp only [serviceCall, hdev, ne_eq, not_true_eq_false, if_false, eleCloseSessionKeystore_none he]
    exact ⟨Leads.refl [] e, he⟩
  simp only [serviceCall, hdev]
  have hks := eleOpenSessionKeystore_spec hcs he
  rcases hres : eleOpenSessionKeystore ele e with ⟨error | ks, e₁⟩ <;> simp only [hres] at hks ⊢
  · simp only [ne_eq, not_true_eq_false, if_false, eleCloseSessionKeystore_none hks.2]
    exact hks
  obtain ⟨hksne, hsession, hsend, hleads⟩ := hks
  obtain ⟨parent, hparent⟩ := hopen ks e₁
  have hsvc := eleOpen_spec ele openCmd ho.1 ho.2 parent false
    [(.keyStore, ks), (.session, e₁.session_handle)] e₁
  rw [← hparent] at hsvc
  rcases hres : openService ks e₁ with ⟨error | h, e₂⟩ <;> simp only [hres] at hsvc ⊢
  · simp only [ne_eq, not_true_eq_false, if_false]
    refine eleCloseSessionKeystore_spec hcs ⟨hksne, hsvc.2 ▸ hsession, hsvc.1.sendable hsend, ?_⟩
    rw [hsvc.2]
    exact hleads.trans hsvc.1
  · obtain ⟨hh, hl, hs, hsend₂⟩ := hsvc
    obtain ⟨invalid, check, hop⟩ := hoper h e₂
    obtain ⟨hlop, hsop⟩ := operate_spec ele cmd hcmd.1 hcmd.2 h invalid check
      ((k, h) :: [(.keyStore, ks), (.session, e₁.session_handle)]) e₂
    rw [← hop] at hlop hsop
    obtain ⟨e₄, heq, hlc, hsc⟩ := eleClose_spec ele hcs closeCmd hc hh (hlop.sendable hsend₂)
      [(.keyStore, ks), (.session, e₁.session_handle)]
    have hs₄ : e₄.session_handle = e₁.session_handle := hsc.trans (hsop.trans hs)
    simp only [ne_eq, hh, not_false_eq_true, if_true, heq]
    refine eleCloseSessionKeystore_spec hcs ⟨hksne, hs₄ ▸ hsession, hlc.sendable (hlop.sendable hsend₂), ?_⟩
    rw [hs₄]
    exact ((hleads.trans hl).trans hlop).trans hlc

theorem call_spec (hcs : ClosesSucceed ele) (uid : ℕ) {e : Ele} (he : e.session_handle = 0) (c : Call) :
    Leads [] e [] (call ele uid e c).2 ∧ (call ele uid e c).2.session_handle = 0 := by
  cases c with
  | eleGenerateKey keyId pubKeySize =>
    rw [call]
    by_cases hsize : pubKeySize < 0
    · rw [if_pos hsize]
      exact ⟨Leads.refl [] e, he⟩
    · rw [if_neg hsize]
      refine serviceCall_spec hcs .KEY_MANAGEMENT_OPEN_REQ .KEY_MANAGEMENT_CLOSE_REQ .KEY_GENERATE_KEY_REQ
        ⟨rfl, rfl⟩ rfl ⟨rfl, rfl⟩ (fun h _ => ⟨h, rfl⟩) ?_ uid _ he
      exact fun _ _ => ⟨_, _, rfl⟩
  | eleDeleteKey keyId =>
    refine serviceCall_spec hcs .KEY_MANAGEMENT_OPEN_REQ .KEY_MANAGEMENT_CLOSE_REQ .KEY_DELETE_KEY_REQ
      ⟨rfl, rfl⟩ rfl ⟨rfl, rfl⟩ (fun h _ => ⟨h, rfl⟩) ?_ uid _ he
    exact fun _ _ => ⟨_, _, rfl⟩
  | eleGetKeyAttr keyId =>
    refine serviceCall_spec hcs .KEY_MANAGEMENT_OPEN_REQ .KEY_MANAGEMENT_CLOSE_REQ .KEY_GET_ATTRIBUTE_REQ
      ⟨rfl, rfl⟩ rfl ⟨rfl, rfl⟩ (fun h _ => ⟨h, rfl⟩) ?_ uid _ he
    exact fun _ _ => ⟨_, _, rfl⟩
  | eleCipherOperation keyId iv flags input output =>
    refine serviceCall_spec hcs .KEY_CIPHER_OPEN_REQ .KEY_CIPHER_CLOSE_REQ .KEY_CIPHER_OPERATION_REQ
      ⟨rfl, rfl⟩ rfl ⟨rfl, rfl⟩ (fun h _ => ⟨h, rfl⟩) ?_ uid _ he
    exact fun _ _ => ⟨_, _, rfl⟩
  | eleCipherAeadOperation keyId iv iv_out flags tag aad input output =>
    refine serviceCall_spec hcs .KEY_CIPHER_OPEN_REQ .KEY_CIPHER_CLOSE_REQ .KEY_CIPHER_AEAD_OPERATION_REQ
      ⟨rfl, rfl⟩ rfl ⟨rfl, rfl⟩ (fun h _ => ⟨h, rfl⟩) ?_ uid _ he
    exact fun _ _ => ⟨_, _, rfl⟩
  | eleSignGenerate keyId message signature =>
    refine serviceCall_spec hcs .KEY_SIGN_GENERATE_OPEN_REQ .KEY_SIGN_GENERATE_CLOSE_REQ
      .KEY_SIGN_GENERATE_REQ ⟨rfl, rfl⟩ rfl ⟨rfl, rfl⟩ (fun h _ => ⟨h, rfl⟩) ?_ uid _ he
    exact fun _ _ => ⟨_, _, rfl⟩
  | eleSignVerify key message signature =>
    refine serviceCall_spec hcs .KEY_SIGN_VERIFY_OPEN_REQ .KEY_SIGN_VERIFY_CLOSE_REQ .KEY_SIGN_VERIFY_REQ
      ⟨rfl, rfl⟩ rfl ⟨rfl, rfl⟩ (fun _ e => ⟨e.session_handle, rfl⟩) ?_ uid _ he
    exact fun _ _ => ⟨_, _, rfl⟩
  | eleMacOperation payload mac macSize flag =>
    refine serviceCall_spec hcs .KEY_MAC_OPEN_REQ .KEY_MAC_CLOSE_REQ .KEY_MAC_OPERATION_REQ
      ⟨rfl, rfl⟩ rfl ⟨rfl, rfl⟩ (fun h _ => ⟨h, rfl⟩) ?_ uid _ he
    exact fun _ _ => ⟨_, _, rfl⟩

/-- No request both opens and closes. -/
theorem opens_of_closes {x : Request × Reply} (h : (closes x).isSome = true) : opens x = none := by
  obtain ⟨⟨cmd, handle, load⟩, r⟩ := x
  cases cmd <;> simp_all [opens, closes, Command.opened, Command.closed]

theorem returned_of_leads {e e' : Ele} (h : Leads [] e [] e') (he : e'.session_handle = 0) :
    Returned e e' := by
  obtain ⟨tr, htr, htrack⟩ := h.trace
  have hdrop : e'.trace.drop e.trace.length = tr := by rw [htr, List.drop_left]
  refine ⟨⟨tr, htr.symm⟩, ?_, ?_, he⟩ <;> rw [hdrop]
  · exact htrack
  · exact closedOnce_of_nested (fun _ => opens_of_closes) htrack

/-- The service with its device node, before the first call. -/
def boot (ready : Bool) (fd : ℤ) (cmd_tag : UInt8) : Ele := ⟨ready, fd, cmd_tag, 0, []⟩

/-- CORRECT: as long as close requests succeed, every call of every sequence returns all the handles it was
    given, whatever fails. -/
theorem handles_returned (hcs : ClosesSucceed ele) (ready : Bool) (fd : ℤ) (cmd_tag : UInt8)
    (calls : List (ℕ × Call)) :
    Always (step ele) (fun e _ e' => Returned e e') (boot ready fd cmd_tag) calls := by
  refine always_of_inv (fun e c (he : e.session_handle = 0) => ?_) calls _ ?_
  · obtain ⟨hleads, hsession⟩ := call_spec hcs c.1 he c.2
    exact ⟨hsession, returned_of_leads hleads hsession⟩
  · rfl

/-- An enclave that has the key store already, numbers its handles and fails every operation. -/
def busyEnclave : Enclave := fun trace req =>
  if req.cmd = .KEY_STORE_OPEN_REQ ∧ req.load = false then ⟨true, 3, true, 0xe1, 0x29, 0x0f, []⟩
  else if req.cmd.opened = none ∧ req.cmd.closed = none then ⟨true, 3, true, 0xe1, 0x29, 0, []⟩
  else ⟨true, 3, true, 0xe1, 0xd6, 0, [UInt32.ofNat (trace.length + 1)]⟩

theorem handles_returned_busy :
    let calls := [(1000, Call.eleDeleteKey 7), (1000, Call.eleSignVerify ⟨1, false⟩ ⟨1, false⟩ ⟨1, false⟩)]
    (run (step busyEnclave) (boot true 3 ELE_REQUEST_TAG) calls).trace.filterMap closes =
        [(.keyManagement, 4), (.keyStore, 3), (.session, 1),
          (.signVerify, 12), (.keyStore, 11), (.session, 9)] ∧
      Always (step busyEnclave) (fun e _ e' => Returned e e') (boot true 3 ELE_REQUEST_TAG) calls := by
  refine ⟨by decide +kernel, handles_returned (fun trace req hreq => ?_) true 3 ELE_REQUEST_TAG _⟩
  obtain ⟨cmd, handle, load⟩ := req
  cases cmd <;> simp_all [busyEnclave, Command.opened, Command.closed, Reply.error, ELE_RESPONSE_TAG,
    ELE_COMMAND_SUCCEED, STORAGE_NB_WORDS_MAX_NO_CRC]

end ImxHal.SecureEnclave
