import ImxHal.Enclave.Sessions

/-! @src secure-enclave/lib/EleOperation.cpp (eleCipherAeadOperation), secure-enclave/lib/include/EleMessage.h
    | name:AEAD initialisation vectors | scheme:case analysis | family:request validation

    A request that starts an operation says where its initialisation vector comes from:

        flag                      iv_size   iv_in_addr   iv_out_addr
        AEAD_FLAGS_FULL_IV           0          -          given       all of it from the enclave
        AEAD_FLAGS_COUNTER_IV        4        given        given       four bytes from the user
        neither                     12        given          -         all of it from the user

    The checks stand in one chain of `else if`, and the last of them is that of the third row. A
    request of the first two rows that passes its own check therefore falls through to a check that
    asks for twelve bytes, and is refused. -/

namespace ImxHal.SecureEnclave

/-- The attributes of an operation as the checks look at them, and its handle. -/
structure AeadRequest where
  cipherHandle : UInt32
  key_id : ℤ
  flags : UInt16
  iv : Vec
  iv_out : Vec
  tag : Vec
  aad : Vec
  input : Vec
  output : Vec

namespace AeadRequest
variable (r : AeadRequest)

def operation (ele : Enclave) (e : Ele) : Result Unit :=
  eleCipherAeadOperation ele r.key_id r.iv r.iv_out r.flags.toNat r.tag r.aad r.input r.output
    r.cipherHandle e

def has (flag : ℕ) : Bool := hasFlag r.flags.toNat flag

/-- `iv_size`, a field of 16 bits. -/
def iv_size : ℕ := r.iv.size % 2 ^ 16

/-- The request starts an operation. -/
def starts : Prop := r.has (AEAD_FLAGS_ONE_SHOT ||| AEAD_FLAGS_MULTI_INIT)

/-- Everything but the vectors is as it has to be. -/
structure Valid : Prop where
  handle : r.cipherHandle ≠ 0
  key : toUInt 32 r.key_id ≠ 0
  opaqueKey : r.has AEAD_FLAGS_PLAINTEXT_KEY = false
  tag : r.has (AEAD_FLAGS_MULTI_FINAL ||| AEAD_FLAGS_MULTI_FINAL_VERIFY ||| AEAD_FLAGS_ONE_SHOT) →
    r.tag.null = false ∧ 16 ≤ r.tag.size % 2 ^ 16
  aad : r.has (AEAD_FLAGS_ONE_SHOT ||| AEAD_FLAGS_MULTI_UPDATE_AAD) → r.aad.missing 32 = false
  data : r.input.missing 32 = false ∧ r.output.missing 32 = false

/-- The vectors are those of the mode that the flags select. -/
structure IvFits : Prop where
  full : r.has AEAD_FLAGS_FULL_IV → r.iv_size = 0
  counter : r.has AEAD_FLAGS_COUNTER_IV → r.iv_size = 4 ∧ r.iv.null = false
  user : ¬ r.has AEAD_FLAGS_FULL_IV → ¬ r.has AEAD_FLAGS_COUNTER_IV →
    r.iv_size = 12 ∧ r.iv.null = false
  out : r.has AEAD_FLAGS_FULL_IV ∨ r.has AEAD_FLAGS_COUNTER_IV → r.iv_out.null = false

/-- The enclave makes the vector, or a part of it. -/
def Generated : Prop := r.has AEAD_FLAGS_FULL_IV ∨ r.has AEAD_FLAGS_COUNTER_IV

/-- The operation asks the enclave. -/
def Forwarded (ele : Enclave) (e : Ele) : Prop :=
  ∃ reply, (r.operation ele e).2.trace
    = e.trace ++ [(⟨.KEY_CIPHER_AEAD_OPERATION_REQ, r.cipherHandle, false⟩, reply)]

end AeadRequest

/-! ### The chain of checks -/

variable {ele : Enclave} {e : Ele} {r : AeadRequest}

theorem hasFlag_or (flags a b : ℕ) : hasFlag flags (a ||| b) = (hasFlag flags a || hasFlag flags b) := by
  rw [hasFlag, hasFlag, hasFlag, Nat.and_or_distrib_left, Bool.eq_iff_iff]
  simp [Nat.or_eq_zero_iff]
  tauto

theorem AeadRequest.has_or (a b : ℕ) : r.has (a ||| b) = (r.has a || r.has b) := hasFlag_or _ a b

/-- An operation asks the enclave if nothing is found invalid, and only then. -/
theorem operate_asks_iff {cmd : Command} {handle : UInt32} {invalid : Option ℕ}
    {check : Reply → Option ℕ} (he : Sendable e) :
    (∃ reply, (operate ele cmd handle invalid check e).2.trace
      = e.trace ++ [(⟨cmd, handle, false⟩, reply)]) ↔ invalid = none := by
  cases invalid with
  | some error => simp [operate]
  | none =>
    have hsend : eleSendAndReciveMsg ele e ⟨cmd, handle, false⟩
        = let reply := ele e.trace ⟨cmd, handle, false⟩
          let e' := { e with trace := e.trace ++ [(⟨cmd, handle, false⟩, reply)] }
          if reply.error ≠ ELE_NO_ERROR then (.error reply.error, e') else (.ok reply, e') := by
      rw [eleSendAndReciveMsg, if_neg he.1, if_neg (not_not.mpr he.2)]
    simp only [operate, hsend]
    by_cases herror : (ele e.trace ⟨cmd, handle, false⟩).error ≠ ELE_NO_ERROR
    · simp [herror]
    · rw [if_neg herror]
      cases hcheck : check (ele e.trace ⟨cmd, handle, false⟩) with
      | some error => simp [hcheck]
      | none => simp [hcheck]

/-- The chain of `else if`, as the operation has it. -/
def AeadRequest.ivRefused (r : AeadRequest) : Prop :=
  r.has (AEAD_FLAGS_ONE_SHOT ||| AEAD_FLAGS_MULTI_INIT) ∧
    (if r.has AEAD_FLAGS_FULL_IV ∧ r.iv_size ≠ 0 then True
      else if r.has AEAD_FLAGS_COUNTER_IV ∧ (r.iv_size ≠ 4 ∨ r.iv.null) then True
      else if r.iv_size ≠ 12 ∨ r.iv.null then True
      else r.has (AEAD_FLAGS_FULL_IV ||| AEAD_FLAGS_COUNTER_IV) ∧ r.iv_out.null)

/-- It lets no generated vector pass: none is twelve bytes long. -/
theorem ivRefused_iff (hstarts : r.starts) :
    r.ivRefused ↔ r.Generated ∨ r.iv_size ≠ 12 ∨ r.iv.null = true := by
  rw [AeadRequest.ivRefused, AeadRequest.Generated, r.has_or AEAD_FLAGS_FULL_IV]
  by_cases hfull : r.has AEAD_FLAGS_FULL_IV = true
  · by_cases hsize : r.iv_size = 0
    · simp [hfull, hsize, show r.has (AEAD_FLAGS_ONE_SHOT ||| AEAD_FLAGS_MULTI_INIT) from hstarts]
    · simp [hfull, hsize, show r.has (AEAD_FLAGS_ONE_SHOT ||| AEAD_FLAGS_MULTI_INIT) from hstarts]
  · by_cases hcounter : r.has AEAD_FLAGS_COUNTER_IV = true
    · by_cases hsize : r.iv_size = 4
      · simp [hcounter, hsize, show r.has (AEAD_FLAGS_ONE_SHOT ||| AEAD_FLAGS_MULTI_INIT) from hstarts]
      · simp [hcounter, hsize, show r.has (AEAD_FLAGS_ONE_SHOT ||| AEAD_FLAGS_MULTI_INIT) from hstarts]
    · simp [hfull, hcounter, show r.has (AEAD_FLAGS_ONE_SHOT ||| AEAD_FLAGS_MULTI_INIT) from hstarts]

/-- A request is forwarded if the chain lets it pass. -/
theorem forwarded_iff_not_refused (hvalid : r.Valid) (he : Sendable e) :
    r.Forwarded ele e ↔ ¬ r.ivRefused := by
  have hhandle : ¬ (r.cipherHandle = 0 ∨ toUInt 32 r.key_id = 0) := not_or.mpr ⟨hvalid.handle, hvalid.key⟩
  have htag : ¬ (hasFlag r.flags.toNat (AEAD_FLAGS_MULTI_FINAL ||| AEAD_FLAGS_MULTI_FINAL_VERIFY |||
      AEAD_FLAGS_ONE_SHOT) = true ∧ (r.tag.null = true ∨ r.tag.size % 2 ^ 16 < 16)) := by
    rintro ⟨hflag, hnull | hsize⟩
    · exact Bool.false_ne_true ((hvalid.tag hflag).1.symm.trans hnull)
    · exact absurd hsize (not_lt.mpr (hvalid.tag hflag).2)
  have haad : ¬ (hasFlag r.flags.toNat (AEAD_FLAGS_ONE_SHOT ||| AEAD_FLAGS_MULTI_UPDATE_AAD) = true ∧
      r.aad.missing 32 = true) := by
    rintro ⟨hflag, hmissing⟩
    exact Bool.false_ne_true ((hvalid.aad hflag).symm.trans hmissing)
  have hdata : ¬ (r.input.missing 32 = true ∨ r.output.missing 32 = true) := by
    rintro (hmissing | hmissing)
    · exact Bool.false_ne_true (hvalid.data.1.symm.trans hmissing)
    · exact Bool.false_ne_true (hvalid.data.2.symm.trans hmissing)
  have hkey : ¬ hasFlag r.flags.toNat AEAD_FLAGS_PLAINTEXT_KEY = true :=
    (Bool.not_eq_true _).mpr hvalid.opaqueKey
  refine (operate_asks_iff he).trans ?_
  rw [if_neg hhandle, if_neg hkey, if_neg htag, if_neg haad, if_neg hdata]
  refine ite_eq_right_iff.trans ⟨fun h hrefused => ?_, fun h hrefused => absurd hrefused h⟩
  exact Option.some_ne_none _ (h hrefused)

/-- What is forwarded of the requests that start an operation: vectors of the user, and no others. -/
theorem forwarded_iff (hvalid : r.Valid) (he : Sendable e) (hstarts : r.starts) :
    r.Forwarded ele e ↔ ¬ r.Generated ∧ r.iv_size = 12 ∧ r.iv.null = false := by
  rw [forwarded_iff_not_refused hvalid he, ivRefused_iff hstarts, not_or, not_or, not_not,
    Bool.not_eq_true]

/-! ### The modes -/

inductive IvMode where | full | counter | user

/-- The mode is selected. -/
def AeadRequest.Selects (r : AeadRequest) : IvMode → Prop
  | .full => r.has AEAD_FLAGS_FULL_IV
  | .counter => r.has AEAD_FLAGS_COUNTER_IV
  | .user => ¬ r.Generated

theorem fits_user_iff (huser : ¬ r.Generated) :
    r.IvFits ↔ r.iv_size = 12 ∧ r.iv.null = false := by
  obtain ⟨hfull, hcounter⟩ := not_or.mp huser
  constructor
  · intro hfits
    exact hfits.user hfull hcounter
  · intro h
    exact ⟨fun hf => absurd hf hfull, fun hc => absurd hc hcounter, fun _ _ => h,
      fun hg => absurd hg huser⟩

/-- A device that can be asked. -/
def openDevice : Ele := ⟨true, 3, ELE_REQUEST_TAG, 1, []⟩

theorem openDevice_sendable : Sendable openDevice := ⟨by decide, rfl⟩

/-- An enclave that answers every request with success. -/
def willing : Enclave := fun _ _ => ⟨true, 4, true, ELE_RESPONSE_TAG, ELE_COMMAND_SUCCEED, 0, []⟩

def given (size : ℕ) : Vec := ⟨size, false⟩

/-- A request for one operation, with these flags and this vector. -/
def oneShot (flags : UInt16) (iv : Vec) : AeadRequest :=
  ⟨1, 1, flags, iv, given 12, given 16, given 8, given 32, given 32⟩

theorem oneShot_valid (flags : UInt16) (iv : Vec)
    (h : hasFlag flags.toNat AEAD_FLAGS_PLAINTEXT_KEY = false) : (oneShot flags iv).Valid where
  handle := (by decide : (1 : UInt32) ≠ 0)
  key := (by decide : toUInt 32 1 ≠ 0)
  opaqueKey := h
  tag _ := ⟨rfl, le_refl 16⟩
  aad _ := rfl
  data := ⟨rfl, rfl⟩

/-- A request is treated as its mode asks for unless it fits a mode in which the enclave makes the
    vector; of the three modes, requests of one are accepted. -/
theorem aead_iv_checked_iff (r : AeadRequest) (mode : IvMode) :
    ((∀ ele e, Sendable e → r.Valid → r.starts → (r.Forwarded ele e ↔ r.IvFits))
      ↔ (r.Valid → r.starts → r.IvFits → ¬ r.Generated)) ∧
    ((∃ r : AeadRequest, ∃ ele e, Sendable e ∧ r.Valid ∧ r.starts ∧ r.Selects mode ∧
      r.Forwarded ele e) ↔ mode = .user) := by
  constructor
  · constructor
    · intro h hvalid hstarts hfits
      have hforwarded := (h willing openDevice openDevice_sendable hvalid hstarts).mpr hfits
      exact ((forwarded_iff hvalid openDevice_sendable hstarts).mp hforwarded).1
    · intro h ele e he hvalid hstarts
      rw [forwarded_iff hvalid he hstarts]
      by_cases hgenerated : r.Generated
      · exact ⟨fun h' => absurd hgenerated h'.1,
          fun hfits => absurd hgenerated (h hvalid hstarts hfits)⟩
      · rw [fits_user_iff hgenerated, and_iff_right hgenerated]
  · constructor
    · rintro ⟨r, ele, e, he, hvalid, hstarts, hmode, hforwarded⟩
      have hnot := ((forwarded_iff hvalid he hstarts).mp hforwarded).1
      cases mode with
      | full => exact absurd (Or.inl hmode) hnot
      | counter => exact absurd (Or.inr hmode) hnot
      | user => rfl
    · rintro rfl
      have hvalid := oneShot_valid 0x11 (given 12) (by decide)
      have huser : ¬ (oneShot 0x11 (given 12)).Generated := by
        rintro (hfull | hcounter)
        · exact absurd hfull (by decide)
        · exact absurd hcounter (by decide)
      have hstarts : (oneShot 0x11 (given 12)).starts := by
        rw [AeadRequest.starts]
        decide
      refine ⟨_, willing, openDevice, openDevice_sendable, hvalid, hstarts, huser, ?_⟩
      exact (forwarded_iff hvalid openDevice_sendable hstarts).mpr ⟨huser, rfl, rfl⟩

/-- An encryption that asks the enclave for the whole vector. -/
theorem full_iv_refused : (oneShot 0x13 (given 0)).Valid ∧ (oneShot 0x13 (given 0)).starts ∧
    ¬ ((oneShot 0x13 (given 0)).Forwarded willing openDevice ↔ (oneShot 0x13 (given 0)).IvFits) := by
  have hvalid := oneShot_valid 0x13 (given 0) (by decide)
  have hstarts : (oneShot 0x13 (given 0)).starts := by
    rw [AeadRequest.starts]
    decide
  have hfits : (oneShot 0x13 (given 0)).IvFits := by
    refine ⟨fun _ => rfl, fun hcounter => absurd hcounter (by decide), fun hfull => ?_, fun _ => rfl⟩
    exact absurd (by decide) hfull
  refine ⟨hvalid, hstarts, ?_⟩
  rw [forwarded_iff hvalid openDevice_sendable hstarts]
  exact fun h => absurd (h.mpr hfits).2.1 (by decide)

end ImxHal.SecureEnclave
