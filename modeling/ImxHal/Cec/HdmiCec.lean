import ImxHal.Schemes.Buffer

/-! @src hdmicec/hdmi_cec.c (hdmicec_send_message, get_opcode, get_first_param, is_power_ui_command,
    is_transferable_in_sleep, event_thread) | name:hdmi cec | scheme:buffer | family:protocols

    A frame of CEC is a header and up to 15 bytes. The framework has the two addresses of the header apart
    and the other bytes as the body:

        initiator, destination, body   ──hdmicec_send_message──▶   frame   ──▶  bus
        initiator, destination, body   ◀──────event_thread──────   frame   ◀──  bus

    The thread polls the one descriptor of the driver through two entries and compares what is reported for
    each of them with a single flag. -/

namespace ImxHal.Cec
open ImxHal.Buffer

def CEC_MAX_MSG_SIZE : ℕ := 16

/-! ### Sending -/

/-- `cec_message_t`; there are sixteen logical addresses. -/
structure cec_message_t where
  initiator : Fin 16
  destination : Fin 16
  body : List UInt8

inductive Result where | SUCCESS | NACK | BUSY | FAIL
  deriving DecidableEq

def CEC_TX_STATUS_OK : BitVec 8 := 1
def CEC_TX_STATUS_ARB_LOST : BitVec 8 := 2
def CEC_TX_STATUS_NACK : BitVec 8 := 4

/-- What `CEC_TRANSMIT` is called with. -/
structure Transmit where
  msg : Buf UInt8
  len : BitVec 32

def txResult (tx_status : BitVec 8) : Result :=
  if tx_status = CEC_TX_STATUS_OK then .SUCCESS
  else if tx_status = CEC_TX_STATUS_ARB_LOST then .BUSY
  else if tx_status = CEC_TX_STATUS_NACK then .NACK
  else if tx_status &&& CEC_TX_STATUS_NACK ≠ 0 then .NACK
  else .FAIL

def fillMsg (msg : cec_message_t) : Transmit where
  msg := ((⟨List.replicate CEC_MAX_MSG_SIZE 0, false⟩ : Buf UInt8).memcpy 0
    [UInt8.ofNat (msg.initiator.val <<< 4 ||| msg.destination.val)]).memcpy 1 msg.body
  len := BitVec.ofNat 32 (msg.body.length + 1)

/-- `ioctl` answers the transmission with its status, or fails. -/
def hdmicec_send_message (cec_enabled : Bool) (ioctl : Transmit → Option (BitVec 8)) (msg : cec_message_t) :
    Option Transmit × Result :=
  if !cec_enabled then (none, .FAIL)
  else
    (some (fillMsg msg), match ioctl (fillMsg msg) with
      | none => .FAIL
      | some tx_status => txResult tx_status)

/-! ### The standby filter -/

/-- `struct cec_msg` as `CEC_RECEIVE` fills it: a frame of `len` bytes, and whatever is behind them. -/
structure cec_msg where
  msg : Fin 16 → UInt8
  len : ℕ
  rx_status : BitVec 8
  len_pos : 1 ≤ len
  len_le : len ≤ CEC_MAX_MSG_SIZE

def get_opcode (message : cec_msg) : UInt8 := message.msg 1

def get_first_param (message : cec_msg) : UInt8 := message.msg 2

/-- `CEC_OP_UI_CMD_POWER`, `_DEVICE_ROOT_MENU` and `_POWER_ON_FUNCTION`. -/
def is_power_ui_command (message : cec_msg) : Bool := get_first_param message ∈ [0x40, 0x09, 0x6D]

def CEC_MESSAGE_USER_CONTROL_PRESSED : UInt8 := 0x44

/-- The opcodes of the `switch` that are passed in standby: `ABORT`, `DEVICE_VENDOR_ID`, `GET_CEC_VERSION`,
    `GET_MENU_LANGUAGE`, `GIVE_DEVICE_POWER_STATUS`, `GIVE_DEVICE_VENDOR_ID`, `GIVE_OSD_NAME`,
    `GIVE_PHYSICAL_ADDRESS`, `REPORT_PHYSICAL_ADDRESS`, `REPORT_POWER_STATUS`, `SET_OSD_NAME`, `DECK_CONTROL`,
    `PLAY`. -/
def transferable : List UInt8 :=
  [0xFF, 0x87, 0x9F, 0x91, 0x8F, 0x8C, 0x46, 0x83, 0x84, 0x90, 0x47, 0x42, 0x41]

def is_transferable_in_sleep (message : cec_msg) : Bool :=
  if get_opcode message ∈ transferable then true
  else if get_opcode message = CEC_MESSAGE_USER_CONTROL_PRESSED then is_power_ui_command message
  else false

/-! ### The thread -/

def POLLIN : BitVec 16 := 0x01
def POLLERR : BitVec 16 := 0x08
def POLLHUP : BitVec 16 := 0x10
def POLLNVAL : BitVec 16 := 0x20
def CEC_RX_STATUS_OK : BitVec 8 := 1

/-- `revents` of an entry for `events`: three flags are always reported. -/
def revents (events pending : BitVec 16) : BitVec 16 :=
  pending &&& (events ||| POLLERR ||| POLLHUP ||| POLLNVAL)

inductive hdmi_event_t where
  | hotplug (connected : Bool)
  | cec (initiator destination : ℕ) (body : List UInt8)

/-- What the thread reads of `hdmicec_context` in one place. -/
structure Options where
  cec_enabled : Bool
  cec_control_enabled : Bool
  p_event_cb : Bool

/-- One turn of the loop. Other threads set the options at any time. -/
structure Round where
  /-- What is pending for the three entries, or `poll` fails. -/
  poll : Option (BitVec 16 × BitVec 16 × BitVec 16)
  /-- The event of `CEC_DQEVENT`: of another kind, or a state change with the address valid or not. -/
  dqevent : Option (Option Bool)
  receive : Option cec_msg
  atEvent : Options
  atMessage : Options

/-- The part for `ufds[1]`; nothing where it goes on with the next turn. -/
def Round.handleEvent (r : Round) (pending : BitVec 16) : Option (List hdmi_event_t) :=
  if revents POLLERR pending = POLLERR then
    match r.dqevent with
    | none => none
    | some ev =>
      if !r.atEvent.cec_enabled then none
      else match ev with
        | none => some []
        | some connected => some (if r.atEvent.p_event_cb then [.hotplug connected] else [])
  else some []

def cecEvent (m : cec_msg) : hdmi_event_t :=
  .cec (m.msg 0 >>> 4).toNat (m.msg 0 &&& 0xf).toNat (((List.ofFn m.msg).drop 1).take (m.len - 1))

/-- The part for `ufds[0]`. -/
def Round.handleMessage (r : Round) (pending : BitVec 16) : List hdmi_event_t :=
  if revents POLLIN pending = POLLIN then
    match r.receive with
    | none => []
    | some m =>
      if m.rx_status ≠ CEC_RX_STATUS_OK then []
      else if !r.atMessage.cec_enabled then []
      else if !r.atMessage.cec_control_enabled && !is_transferable_in_sleep m then []
      else if r.atMessage.p_event_cb then [cecEvent m] else []
  else []

def Round.exits (r : Round) : Bool :=
  match r.poll with
  | none => false
  | some (_, _, pending) => revents POLLIN pending = POLLIN

def Round.handle (r : Round) : List hdmi_event_t :=
  match r.poll with
  | none => []
  | some (pending0, pending1, _) =>
    match r.handleEvent pending1 with
    | none => []
    | some events => events ++ r.handleMessage pending0

/-- What the callback is called with. -/
def event_thread : List Round → List hdmi_event_t
  | [] => []
  | r :: rounds => if r.exits then [] else r.handle ++ event_thread rounds

/-! ### What crosses -/

/-- A message is refused, or transmitted in bounds as its header and its body. -/
def SentRight (cec_enabled : Bool) (ioctl : Transmit → Option (BitVec 8)) (msg : cec_message_t) : Prop :=
  match (hdmicec_send_message cec_enabled ioctl msg).1 with
  | none => (hdmicec_send_message cec_enabled ioctl msg).2 = .FAIL
  | some t => t.msg.wild = false ∧ t.len.toNat = msg.body.length + 1 ∧
      ∃ header : UInt8, header.toNat = 16 * msg.initiator.val + msg.destination.val ∧
        t.msg.bytes.take t.len.toNat = header :: msg.body

/-- The bytes of the frame. -/
def cec_msg.frame (m : cec_msg) : List UInt8 := (List.ofFn m.msg).take m.len

/-- The frame as the framework has it. -/
def received : List UInt8 → hdmi_event_t
  | [] => .cec 0 0 []
  | header :: body => .cec (header.toNat / 16) (header.toNat % 16) body

/-- What is to be passed of a turn: the frame that the driver reports as pending and delivers with status OK,
    unless it is filtered. -/
def Round.offered (r : Round) : List hdmi_event_t :=
  match r.poll, r.receive with
  | some (pending, _, _), some m =>
    if pending &&& POLLIN ≠ 0 ∧ m.rx_status = CEC_RX_STATUS_OK ∧ r.atMessage.cec_enabled = true ∧
        r.atMessage.p_event_cb = true ∧
        (r.atMessage.cec_control_enabled = true ∨ is_transferable_in_sleep m = true) then
      [received m.frame]
    else []
  | _, _ => []

def hdmi_event_t.isMessage : hdmi_event_t → Bool
  | .hotplug _ => false
  | .cec _ _ _ => true

/-- The turns up to the one that ends the thread. -/
def reached (rounds : List Round) : List Round := rounds.takeWhile fun r => !r.exits

/-- Exactly one event for every frame, in their order. -/
def PassedRight (rounds : List Round) : Prop :=
  (event_thread rounds).filter hdmi_event_t.isMessage = (reached rounds).flatMap Round.offered

/-- The verdict is the same whatever stands behind the frame. -/
def VerdictOfFrame (m : cec_msg) : Prop :=
  ∀ m' : cec_msg, m'.frame = m.frame → is_transferable_in_sleep m' = is_transferable_in_sleep m

/-! ### Frames to send -/

theorem header_toNat : ∀ initiator destination : Fin 16,
    (UInt8.ofNat (initiator.val <<< 4 ||| destination.val)).toNat = 16 * initiator.val + destination.val := by
  decide

theorem fillMsg_eq {msg : cec_message_t} (h : msg.body.length ≤ 15) : (fillMsg msg).msg =
    ⟨[UInt8.ofNat (msg.initiator.val <<< 4 ||| msg.destination.val)] ++ msg.body ++
      List.replicate (15 - msg.body.length) 0, false⟩ := by
  have hempty : List.replicate CEC_MAX_MSG_SIZE (0 : UInt8) = [] ++ [0] ++ List.replicate 15 0 := rfl
  have hsplit : List.replicate 15 (0 : UInt8) =
      List.replicate msg.body.length 0 ++ List.replicate (15 - msg.body.length) 0 := by
    rw [List.replicate_append_replicate, Nat.add_sub_cancel' h]
  rw [fillMsg]
  generalize UInt8.ofNat (msg.initiator.val <<< 4 ||| msg.destination.val) = header
  rw [hempty, memcpy_mid [] [0] _ [header] false 0 rfl rfl, List.nil_append, hsplit,
    ← List.append_assoc]
  exact memcpy_mid _ _ _ _ false 1 rfl List.length_replicate

theorem fillMsg_wild (msg : cec_message_t) : (fillMsg msg).msg.wild = false ↔ msg.body.length ≤ 15 := by
  rw [← Bool.not_eq_true, fillMsg, wild_memcpy, memcpy_length, wild_memcpy, List.length_replicate,
    CEC_MAX_MSG_SIZE]
  simp
  omega

/-- A message is sent as it is exactly when the body leaves room for the header. -/
theorem sent_right_iff (cec_enabled : Bool) (ioctl : Transmit → Option (BitVec 8)) (msg : cec_message_t) :
    SentRight cec_enabled ioctl msg ↔ cec_enabled = false ∨ msg.body.length ≤ 15 := by
  cases cec_enabled with
  | false => exact iff_of_true rfl (.inl rfl)
  | true =>
    have hsent : (hdmicec_send_message true ioctl msg).1 = some (fillMsg msg) := rfl
    rw [SentRight, hsent, or_iff_right (by decide)]
    simp only
    rw [fillMsg_wild]
    refine ⟨And.left, fun hlen => ⟨hlen, ?_⟩⟩
    have hcount : (fillMsg msg).len.toNat = msg.body.length + 1 := by
      rw [fillMsg, BitVec.toNat_ofNat]
      exact Nat.mod_eq_of_lt (by omega)
    refine ⟨hcount, _, header_toNat msg.initiator msg.destination, ?_⟩
    rw [hcount, fillMsg_eq hlen]
    exact List.take_left' rfl

/-! ### Received frames -/

theorem length_frame (m : cec_msg) : m.frame.length = m.len := by
  rw [cec_msg.frame, List.length_take, List.length_ofFn]
  exact Nat.min_eq_left m.len_le

theorem getElem?_frame (m : cec_msg) {i : Fin 16} (hi : i.val < m.len) : m.frame[i.val]? = some (m.msg i) := by
  rw [cec_msg.frame, List.getElem?_take_of_lt hi, List.getElem?_ofFn]
  exact dif_pos i.isLt

theorem frame_cons (m : cec_msg) : m.frame = m.msg 0 :: ((List.ofFn m.msg).drop 1).take (m.len - 1) := by
  have hlen : m.len = m.len - 1 + 1 := (Nat.sub_add_cancel m.len_pos).symm
  rw [cec_msg.frame, hlen, List.ofFn_succ]
  rfl

/-- The thread passes the frame itself. -/
theorem cecEvent_eq (m : cec_msg) : cecEvent m = received m.frame := by
  have hhigh : (m.msg 0 >>> 4).toNat = (m.msg 0).toNat / 16 := by
    rw [UInt8.toNat_shiftRight]
    exact Nat.shiftRight_eq_div_pow _ 4
  have hlow : (m.msg 0 &&& 0xf).toNat = (m.msg 0).toNat % 16 := by
    rw [UInt8.toNat_and]
    exact Nat.and_two_pow_sub_one_eq_mod _ 4
  rw [cecEvent, frame_cons, received, hhigh, hlow]

/-- Messages that are sent come in as they were. -/
theorem received_sent {msg : cec_message_t} (h : msg.body.length ≤ 15) :
    received ((fillMsg msg).msg.bytes.take (msg.body.length + 1)) =
      .cec msg.initiator.val msg.destination.val msg.body := by
  have hframe : ((fillMsg msg).msg.bytes.take (msg.body.length + 1)) =
      UInt8.ofNat (msg.initiator.val <<< 4 ||| msg.destination.val) :: msg.body := by
    rw [fillMsg_eq h]
    exact List.take_left' rfl
  have hheader := header_toNat msg.initiator msg.destination
  have hlt := msg.destination.isLt
  have hhigh : (16 * msg.initiator.val + msg.destination.val) / 16 = msg.initiator.val := by omega
  have hlow : (16 * msg.initiator.val + msg.destination.val) % 16 = msg.destination.val := by omega
  rw [hframe, received, hheader, hhigh, hlow]

/-! ### The filter -/

/-- Another byte behind the frame. -/
def cec_msg.withByte (m : cec_msg) (i : Fin 16) (b : UInt8) : cec_msg :=
  { m with msg := Function.update m.msg i b }

@[simp] theorem msg_withByte (m : cec_msg) (i : Fin 16) (b : UInt8) :
    (m.withByte i b).msg = Function.update m.msg i b := rfl

theorem frame_withByte (m : cec_msg) {i : Fin 16} (b : UInt8) (hi : m.len ≤ i.val) :
    (m.withByte i b).frame = m.frame := by
  refine List.ext_getElem? fun k => ?_
  rcases Nat.lt_or_ge k m.len with hk | hk
  · have hk16 : k < 16 := Nat.lt_of_lt_of_le hk m.len_le
    have hne : (⟨k, hk16⟩ : Fin 16) ≠ i := by
      rintro rfl
      exact absurd hk (not_lt.mpr hi)
    rw [getElem?_frame m (i := ⟨k, hk16⟩) hk, getElem?_frame (m.withByte i b) (i := ⟨k, hk16⟩) hk]
    rw [msg_withByte, Function.update_of_ne hne]
  · rw [List.getElem?_eq_none ((length_frame m).trans_le hk),
      List.getElem?_eq_none ((length_frame (m.withByte i b)).trans_le hk)]

theorem msg_eq_of_frame {m m' : cec_msg} (h : m'.frame = m.frame) {i : Fin 16} (hi : i.val < m.len) :
    m'.msg i = m.msg i := by
  have hlen : m'.len = m.len := by rw [← length_frame m', h, length_frame]
  have hget := getElem?_frame m' (i := i) (hlen ▸ hi)
  rw [h, getElem?_frame m hi] at hget
  exact (Option.some.inj hget).symm

/-- The filter looks at the opcode, and at the parameter of a user control. -/
theorem verdict_of_frame_iff (m : cec_msg) : VerdictOfFrame m ↔
    3 ≤ m.len ∨ m.len = 2 ∧ get_opcode m ≠ CEC_MESSAGE_USER_CONTROL_PRESSED := by
  have hpos := m.len_pos
  constructor
  · intro h
    by_contra hno
    rcases Nat.lt_or_ge m.len 2 with hone | htwo
    · -- A polling message: the verdict is that of the byte behind it.
      have habort := h (m.withByte 1 0xFF) (frame_withByte m 0xFF (by omega))
      have hstandby := h (m.withByte 1 0) (frame_withByte m 0 (by omega))
      rw [← habort] at hstandby
      exact absurd hstandby (by simp [is_transferable_in_sleep, get_opcode, cec_msg.withByte, transferable,
        CEC_MESSAGE_USER_CONTROL_PRESSED])
    · have hopcode : get_opcode m = CEC_MESSAGE_USER_CONTROL_PRESSED := by
        by_contra hne
        exact hno (.inr ⟨by omega, hne⟩)
      have hbyte (b : UInt8) : is_transferable_in_sleep (m.withByte 2 b) = decide (b ∈ [0x40, 0x09, 0x6D]) := by
        have hsame : get_opcode (m.withByte 2 b) = CEC_MESSAGE_USER_CONTROL_PRESSED := hopcode
        have hparam : get_first_param (m.withByte 2 b) = b := by
          rw [get_first_param, msg_withByte, Function.update_self]
        rw [is_transferable_in_sleep, hsame, if_neg (by decide), if_pos rfl, is_power_ui_command, hparam]
      have hpower := h (m.withByte 2 0x40) (frame_withByte m 0x40 (by omega))
      have hother := h (m.withByte 2 0) (frame_withByte m 0 (by omega))
      rw [hbyte] at hpower hother
      rw [← hpower] at hother
      exact absurd hother (by decide)
  · intro hlen m' hframe
    have hopcode : get_opcode m' = get_opcode m := msg_eq_of_frame hframe (i := 1) (by omega)
    rw [is_transferable_in_sleep, is_transferable_in_sleep, hopcode]
    by_cases hpressed : get_opcode m = CEC_MESSAGE_USER_CONTROL_PRESSED
    · have hthree : 3 ≤ m.len := by
        rcases hlen with h | ⟨-, h⟩
        · exact h
        · exact absurd hpressed h
      have hparam : get_first_param m' = get_first_param m := msg_eq_of_frame hframe (i := 2) hthree
      rw [is_power_ui_command, is_power_ui_command, hparam]
    · rw [if_neg hpressed, if_neg hpressed]

/-! ### Turns -/

/-- A frame to be passed finds no other flag reported with it, and no event in front of it that ends the
    turn. -/
def Round.Fits (r : Round) : Prop :=
  r.offered ≠ [] → ∀ p, r.poll = some p → revents POLLIN p.1 = POLLIN ∧
    (revents POLLERR p.2.1 = POLLERR → r.dqevent.isSome = true ∧ r.atEvent.cec_enabled = true)

theorem pending_of_revents {pending : BitVec 16} (h : revents POLLIN pending = POLLIN) :
    pending &&& POLLIN ≠ 0 := by
  intro hnone
  rw [revents] at h
  have hbit := congrArg (· &&& POLLIN) h
  simp only [BitVec.and_assoc] at hbit
  have hmask : (POLLIN ||| POLLERR ||| POLLHUP ||| POLLNVAL) &&& POLLIN = POLLIN := by decide
  rw [hmask, hnone] at hbit
  exact absurd hbit (by decide)

/-- The part for `ufds[1]` passes no message. -/
theorem handleEvent_spec (r : Round) (pending : BitVec 16) :
    ((r.handleEvent pending).isSome = true ↔ (revents POLLERR pending = POLLERR →
      r.dqevent.isSome = true ∧ r.atEvent.cec_enabled = true)) ∧
    ∀ events ∈ r.handleEvent pending, events.filter hdmi_event_t.isMessage = [] := by
  rw [Round.handleEvent]
  by_cases hflag : revents POLLERR pending = POLLERR
  · rw [if_pos hflag]
    cases hev : r.dqevent with
    | none => simp [hflag]
    | some ev =>
      cases henabled : r.atEvent.cec_enabled with
      | false => simp [hflag]
      | true =>
        cases ev with
        | none => simp [hflag]
        | some connected => cases r.atEvent.p_event_cb <;> simp [hflag, hdmi_event_t.isMessage]
  · simp [hflag]

/-- The part for `ufds[0]` passes what is offered, or nothing. -/
theorem handleMessage_eq (r : Round) {pending0 pending1 pending2 : BitVec 16}
    (hpoll : r.poll = some (pending0, pending1, pending2)) :
    r.handleMessage pending0 = if revents POLLIN pending0 = POLLIN then r.offered else [] := by
  rw [Round.handleMessage, Round.offered, hpoll]
  by_cases hflag : revents POLLIN pending0 = POLLIN
  · rw [if_pos hflag, if_pos hflag]
    have hpending := pending_of_revents hflag
    cases r.receive with
    | none => rfl
    | some m =>
      simp only [hpending, ne_eq, not_false_eq_true, true_and, cecEvent_eq]
      by_cases hstatus : m.rx_status = CEC_RX_STATUS_OK <;> cases r.atMessage.cec_enabled <;>
        cases r.atMessage.cec_control_enabled <;> cases is_transferable_in_sleep m <;>
          cases r.atMessage.p_event_cb <;> simp [hstatus]
  · rw [if_neg hflag, if_neg hflag]

theorem offered_isMessage (r : Round) : r.offered.filter hdmi_event_t.isMessage = r.offered := by
  rw [List.filter_eq_self]
  intro event h
  rw [Round.offered] at h
  split at h
  · split_ifs at h
    · obtain rfl := List.mem_singleton.mp h
      rw [frame_cons]
      rfl
    · cases h
  · cases h

/-- A turn passes what is offered when it fits, and no message otherwise. -/
theorem handle_eq (r : Round) : r.handle.filter hdmi_event_t.isMessage = r.offered ∧ r.Fits ∨
    r.handle.filter hdmi_event_t.isMessage = [] ∧ r.offered ≠ [] ∧ ¬ r.Fits := by
  by_cases hnone : r.offered = []
  · refine .inl ⟨?_, fun h => absurd hnone h⟩
    rw [Round.handle, hnone]
    split
    · rfl
    · rename_i pending0 pending1 pending2 hpoll
      split
      · rfl
      · rename_i events hevents
        rw [List.filter_append, (handleEvent_spec r pending1).2 events hevents, handleMessage_eq r hpoll, hnone,
          ite_self]
        rfl
  · obtain ⟨⟨pending0, pending1, pending2⟩, hpoll⟩ : ∃ p, r.poll = some p := by
      cases hpoll : r.poll with
      | none => exact absurd (by rw [Round.offered, hpoll]) hnone
      | some p => exact ⟨p, rfl⟩
    obtain ⟨hgoes, hhot⟩ := handleEvent_spec r pending1
    have hfits : r.Fits ↔ revents POLLIN pending0 = POLLIN ∧ (r.handleEvent pending1).isSome = true := by
      rw [hgoes, Round.Fits, hpoll]
      simp [hnone]
    rw [hfits, Round.handle, hpoll]
    simp only
    cases hevents : r.handleEvent pending1 with
    | none => exact .inr ⟨rfl, hnone, by simp⟩
    | some events =>
      rw [List.filter_append, hhot events hevents, handleMessage_eq r hpoll, List.nil_append]
      by_cases hflag : revents POLLIN pending0 = POLLIN
      · rw [if_pos hflag, offered_isMessage]
        exact .inl ⟨rfl, hflag, rfl⟩
      · rw [if_neg hflag]
        exact .inr ⟨rfl, hnone, fun h => hflag h.1⟩

/-! ### The thread -/

theorem passed_cons {r : Round} (h : r.exits = false) (rounds : List Round) :
    (event_thread (r :: rounds)).filter hdmi_event_t.isMessage =
        r.handle.filter hdmi_event_t.isMessage ++ (event_thread rounds).filter hdmi_event_t.isMessage ∧
      reached (r :: rounds) = r :: reached rounds := by
  constructor
  · rw [event_thread, h, if_neg Bool.false_ne_true, List.filter_append]
  · rw [reached, List.takeWhile_cons, h, Bool.not_false, if_pos rfl]
    rfl

/-- No frame is passed twice or out of order. -/
theorem passed_sublist (rounds : List Round) :
    ((event_thread rounds).filter hdmi_event_t.isMessage).Sublist ((reached rounds).flatMap Round.offered) := by
  induction rounds with
  | nil => exact List.nil_sublist _
  | cons r rounds ih =>
    cases hexit : r.exits with
    | true =>
      rw [event_thread, hexit]
      exact List.nil_sublist _
    | false =>
      obtain ⟨hpassed, hreached⟩ := passed_cons hexit rounds
      rw [hpassed, hreached, List.flatMap_cons]
      rcases handle_eq r with ⟨h, -⟩ | ⟨h, -⟩
      · rw [h]
        exact ih.append_left r.offered
      · rw [h, List.nil_append]
        exact ih.trans (List.sublist_append_right _ _)

theorem passed_right_iff (rounds : List Round) : PassedRight rounds ↔ ∀ r ∈ reached rounds, r.Fits := by
  rw [PassedRight]
  induction rounds with
  | nil => exact iff_of_true rfl fun r hr => absurd hr List.not_mem_nil
  | cons r rounds ih =>
    cases hexit : r.exits with
    | true =>
      have hreached : reached (r :: rounds) = [] := by
        rw [reached, List.takeWhile_cons, hexit, Bool.not_true, if_neg Bool.false_ne_true]
      rw [event_thread, hexit, hreached]
      exact iff_of_true rfl fun r hr => absurd hr List.not_mem_nil
    | false =>
      obtain ⟨hpassed, hreached⟩ := passed_cons hexit rounds
      rw [hpassed, hreached, List.flatMap_cons, List.forall_mem_cons]
      rcases handle_eq r with ⟨h, hfits⟩ | ⟨h, hoffered, hno⟩
      · rw [h, List.append_right_inj, ih, and_iff_right hfits]
      · -- What this turn leaves out, the later ones cannot make up for.
        rw [h, List.nil_append]
        refine iff_of_false (fun heq => ?_) fun hall => hno hall.1
        have hle := (passed_sublist rounds).length_le
        rw [heq, List.length_append] at hle
        have hpos := List.length_pos_iff.mpr hoffered
        omega

/-! ### Both directions -/

/-- CORRECT: a message is sent as it is exactly when CEC is disabled or its body leaves room for the header,
    each pending frame is passed once exactly when its turn fits, and the verdict of the filter is one on the
    frame exactly when that has the bytes it looks at. -/
theorem frames_cross_iff (cec_enabled : Bool) (ioctl : Transmit → Option (BitVec 8)) (msg : cec_message_t)
    (rounds : List Round) (m : cec_msg) :
    (SentRight cec_enabled ioctl msg ↔ cec_enabled = false ∨ msg.body.length ≤ 15) ∧
    (PassedRight rounds ↔ ∀ r ∈ reached rounds, r.Fits) ∧
    (VerdictOfFrame m ↔ 3 ≤ m.len ∨ m.len = 2 ∧ get_opcode m ≠ CEC_MESSAGE_USER_CONTROL_PRESSED) :=
  ⟨sent_right_iff cec_enabled ioctl msg, passed_right_iff rounds, verdict_of_frame_iff m⟩

/-- The body that `cec_message_t` has room for. -/
def CEC_MESSAGE_BODY_MAX_LENGTH : ℕ := 16

/-- A body of 16 bytes: the last one is written behind the frame. -/
theorem longest_body_overflows :
    ¬ ∀ (cec_enabled : Bool) (ioctl : Transmit → Option (BitVec 8)) (msg : cec_message_t) (rounds : List Round)
        (m : cec_msg), msg.body.length ≤ CEC_MESSAGE_BODY_MAX_LENGTH →
      SentRight cec_enabled ioctl msg ∧ PassedRight rounds ∧ VerdictOfFrame m := by
  intro h
  have hsent := (h true (fun _ => some CEC_TX_STATUS_OK) ⟨4, 0, List.replicate 16 0⟩ []
    ⟨fun _ => 0, 16, CEC_RX_STATUS_OK, by decide, by decide⟩ (by decide)).1
  exact absurd ((sent_right_iff _ _ _).mp hsent) (by decide)

end ImxHal.Cec
