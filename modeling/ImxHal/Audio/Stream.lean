import ImxHal.Schemes.Run

/-! @src audio/default/Stream.cpp | name:stream worker | scheme:run | family:audio

    A stream is served by a worker thread that takes one command at a time from a queue, asks the driver,
    and answers. Output streams of an asynchronous kind are also moved by two callbacks of the driver:

        STANDBY ─start─▶ IDLE ─burst─▶ ACTIVE ─pause─▶ PAUSED
           ▲               │ ▲            │ ▲  ◀─start──  │
           └──standby──────┘ │          drain │burst       │ flush ─▶ IDLE (output), STANDBY (input)
                             │            ▼ │             │
                             └─ clip end ─ DRAINING ─pause─▶ DRAIN_PAUSED

    What a driver, the queues and the clocks say in one cycle is handed to the cycle as `Answers`. -/

namespace ImxHal.Audio.Streaming

/-- `StreamDescriptor::State`, and the `STATE_CLOSED` of the context. -/
inductive State where
  | standby | idle | active | paused | draining | drainPaused | transferring | transferPaused
  | error | closed
  deriving DecidableEq, Repr

inductive DrainMode where | unspecified | all | earlyNotify
  deriving DecidableEq, Repr

/-- What an output stream still has to tell about a drain: early notices are `en` until the first of
    their two is sent. -/
inductive DrainState where | none | all | en | enSent
  deriving DecidableEq, Repr

inductive Command where
  | halReservedExit (cookie : BitVec 32)
  | getStatus | start
  | burst (fmqByteCount : ℤ)
  | drain (mode : DrainMode)
  | standby | pause | flush
  deriving DecidableEq

abbrev Byte := BitVec 8

structure Position where
  frames : ℤ
  timeNs : ℤ
  deriving DecidableEq

inductive ReplyStatus where | ok | badValue | invalidOperation | notEnoughData
  deriving DecidableEq, Repr

/-- An unknown position or latency is `none`. -/
structure Reply where
  status : ReplyStatus := .badValue
  fmqByteCount : ℕ := 0
  observable : Option Position := none
  hardware : Option Position := none
  latencyMs : Option ℤ := none
  state : State := .standby
  deriving DecidableEq

structure StreamContext where
  frameSize : ℕ
  nominalLatencyMs : ℤ
  isMmap : Bool
  asyncCallback : Bool
  transientStateDelayMs : ℕ
  forceTransientBurst : Bool
  forceSynchronousDrain : Bool
  internalCommandCookie : BitVec 32
  tid : BitVec 32
  /-- The size of the worker's own buffer, that of the data queue. -/
  dataBufferSize : ℕ
  deriving DecidableEq

inductive Direction where | input | output
  deriving DecidableEq, Repr

/-- The driver's functions that a cycle calls. -/
inductive Call where
  | start
  | drain (mode : DrainMode)
  | flush | pause | standby
  | transfer (frameCount : ℕ)
  | shutdown | refinePosition | getMmapPositionAndLatency
  deriving DecidableEq

/-- What a cycle is told from outside: by the driver, by the data queue and by the clocks. -/
structure Answers where
  start : Bool := true
  drain : Bool := true
  flush : Bool := true
  pause : Bool := true
  standby : Bool := true
  transfer : Bool := true
  actualFrameCount : ℕ := 0
  latencyMs : ℤ := 0
  /-- What an input driver puts into the buffer. -/
  buffer : List Byte := []
  refinePosition : Position → Option Position := some
  mmapPosition : Option (Position × ℤ) := none
  uptimeNanos : ℤ := 0
  now : ℕ := 0
  /-- `availableToWrite` of an input's data queue. -/
  availableToWrite : ℕ := 0
  /-- The data queue carries out the read or write. -/
  mqOk : Bool := true

/-- The fields of the worker's logic that change; the frame count is the context's. -/
structure Worker where
  mState : State := .standby
  mStatePriorToClosing : State := .standby
  mIsConnected : Bool := false
  mDrainState : DrainState := .none
  mTransientStateStart : ℕ := 0
  mFrameCount : ℕ := 0
  deriving DecidableEq

/-- A carried out command: the driver calls in their order with what they returned, the bytes that went
    through (to the driver for an output, into the data queue for an input), and how many bytes were read
    out of the data queue. -/
structure Outcome where
  worker : Worker
  reply : Reply
  calls : List (Call × Bool) := []
  bytes : List Byte := []
  readByteCount : ℕ := 0

/-! ### The common logic -/

namespace Worker

def setClosed (w : Worker) : Worker :=
  { w with
    mState := .closed
    mStatePriorToClosing := if w.mState ≠ .closed then w.mState else w.mStatePriorToClosing }

def switchToTransientState (w : Worker) (state : State) (now : ℕ) : Worker :=
  { w with mState := state, mTransientStateStart := now }

end Worker

section Logic
variable (c : StreamContext) (a : Answers)

def StreamContext.exitCookie : BitVec 32 := c.internalCommandCookie ^^^ c.tid

def populateReply (w : Worker) (isConnected : Bool) (reply : Reply) : Reply :=
  let position : Position := ⟨w.mFrameCount, a.uptimeNanos⟩
  let reply :=
    if isConnected then { reply with status := .ok, observable := a.refinePosition position }
    else { reply with status := .ok, observable := none, hardware := none }
  if c.isMmap then
    match a.mmapPosition with
    | some (hardware, latency) => { reply with hardware := some hardware, latencyMs := some latency }
    | none => { reply with hardware := none, latencyMs := none }
  else reply

/-- The driver calls of `populateReply`. -/
def positionCalls (w : Worker) (isConnected : Bool) : List (Call × Bool) :=
  (if isConnected then
    [(.refinePosition, (a.refinePosition ⟨w.mFrameCount, a.uptimeNanos⟩).isSome)] else []) ++
  (if c.isMmap then [(.getMmapPositionAndLatency, a.mmapPosition.isSome)] else [])

def populateReplyWrongState (w : Worker) : Outcome :=
  { worker := w, reply := { status := .invalidOperation } }

/-- A command of one driver call: the reply is filled and the state moved on if the call succeeds. -/
def attempt (w : Worker) (call : Call) (status : Bool) (next : Worker) : Outcome :=
  if status then
    { worker := next
      reply := populateReply c a w w.mIsConnected {}
      calls := (call, true) :: positionCalls c a w w.mIsConnected }
  else { worker := { w with mState := .error }, reply := {}, calls := [(call, false)] }

/-- The reply is filled before the driver is asked. -/
def execStandby (w : Worker) : Outcome :=
  if w.mState = .idle then
    { worker := { w with mState := if a.standby then .standby else .error }
      reply := populateReply c a w w.mIsConnected {}
      calls := positionCalls c a w w.mIsConnected ++ [(.standby, a.standby)] }
  else populateReplyWrongState w

def execGetStatus (w : Worker) : Outcome :=
  { worker := w
    reply := populateReply c a w w.mIsConnected {}
    calls := positionCalls c a w w.mIsConnected }

/-- A command whose argument is not valid: the reply is left as it was made. -/
def badValue (w : Worker) : Outcome := { worker := w, reply := {} }

/-- The caller goes on with the reply only for a cookie of 0. -/
def execExit (w : Worker) (cookie : BitVec 32) : Outcome :=
  if cookie = c.exitCookie then { worker := w.setClosed, reply := {}, calls := [(.shutdown, true)] }
  else badValue w

/-- What a transfer leaves: the worker with its frames counted, the reply, and whether it went well. -/
structure Transferred extends Outcome where
  success : Bool := true

/-- `readMmap` and `writeMmap`. -/
def transferMmap (w : Worker) : Transferred :=
  if a.transfer then
    { worker := w
      reply := { populateReply c a w w.mIsConnected {} with latencyMs := some a.latencyMs }
      calls := (.transfer 0, true) :: positionCalls c a w w.mIsConnected }
  else { worker := w, reply := {}, calls := [(.transfer 0, false)], success := false }

/-! A transfer asks the driver only on a connected stream; else all frames count as transferred. -/

def transferCalls (w : Worker) (frameCount : ℕ) : List (Call × Bool) :=
  if w.mIsConnected then [(.transfer frameCount, a.transfer)] else []

def actualFrameCount (w : Worker) (frameCount : ℕ) : ℕ :=
  if w.mIsConnected then a.actualFrameCount else frameCount

def transferLatency (w : Worker) : ℤ := if w.mIsConnected then a.latencyMs else c.nominalLatencyMs

def transferFatal (w : Worker) : Bool := w.mIsConnected && !a.transfer

/-- The worker with its frames counted, the reply with their bytes. -/
def transferred (w : Worker) (frameCount : ℕ) : Transferred :=
  let actual := actualFrameCount a w frameCount
  let counted := { w with mFrameCount := w.mFrameCount + actual }
  { worker := counted
    reply := { populateReply c a counted w.mIsConnected { fmqByteCount := actual * c.frameSize } with
      latencyMs := some (transferLatency c a w) }
    calls := transferCalls a w frameCount ++ positionCalls c a counted w.mIsConnected
    success := !transferFatal a w }

/-! ### Input streams -/

/-- The bytes of `actualFrameCount` frames, as the driver left them in the worker's buffer. -/
def StreamIn.data (w : Worker) (byteCount : ℕ) : List Byte :=
  if w.mIsConnected then a.buffer.take byteCount else List.replicate byteCount 0

def StreamIn.byteCount (clientSize : ℕ) : ℕ := min clientSize (min a.availableToWrite c.dataBufferSize)

def StreamIn.read (w : Worker) (clientSize : ℕ) : Transferred :=
  let frameCount := StreamIn.byteCount c a clientSize / c.frameSize
  let actualByteCount := actualFrameCount a w frameCount * c.frameSize
  if actualByteCount = 0 ∨ a.mqOk then
    { transferred c a w frameCount with bytes := StreamIn.data a w actualByteCount }
  else
    { worker := w
      reply := { status := .notEnoughData, latencyMs := some (transferLatency c a w) }
      calls := transferCalls a w frameCount
      success := !transferFatal a w }

/-- The state after a burst of an input; the driver is not told of the `standby`. -/
def StreamIn.afterBurst : State → State
  | .idle | .paused => .active
  | .draining => .standby
  | s => s

def StreamIn.transferData (w : Worker) (fmqByteCount : ℕ) : Transferred :=
  if c.isMmap then transferMmap c a w else StreamIn.read c a w fmqByteCount

def StreamIn.burst (w : Worker) (fmqByteCount : ℕ) : Outcome :=
  let t := StreamIn.transferData c a w fmqByteCount
  let state := if t.success then t.worker.mState else .error
  { t.toOutcome with worker := { t.worker with mState := StreamIn.afterBurst state } }

def StreamIn.flush (w : Worker) : Outcome :=
  if a.flush then
    if a.standby then
      { worker := { w with mState := .standby }
        reply := populateReply c a w w.mIsConnected {}
        calls := (.flush, true) :: (.standby, true) :: positionCalls c a w w.mIsConnected }
    else
      { worker := { w with mState := .error }, reply := {}, calls := [(.flush, true), (.standby, false)] }
  else { worker := { w with mState := .error }, reply := {}, calls := [(.flush, false)] }

/-- The `switch` of `StreamInWorkerLogic::cycle`. -/
def StreamIn.exec (w : Worker) : Command → Outcome
  | .halReservedExit cookie => execExit c w cookie
  | .getStatus => execGetStatus c a w
  | .start =>
    if w.mState = .standby ∨ w.mState = .draining then
      attempt c a w .start a.start
        { w with mState := if w.mState = .standby then .idle else .active }
    else populateReplyWrongState w
  | .burst fmqByteCount =>
    if 0 ≤ fmqByteCount then
      if w.mState ∈ [State.idle, .active, .paused, .draining] then
        StreamIn.burst c a w fmqByteCount.toNat
      else populateReplyWrongState w
    else badValue w
  | .drain mode =>
    if mode = .unspecified then
      if w.mState = .active then
        attempt c a w (.drain mode) a.drain { w with mState := .draining }
      else populateReplyWrongState w
    else badValue w
  | .standby => execStandby c a w
  | .pause =>
    if w.mState = .active then attempt c a w .pause a.pause { w with mState := .paused }
    else populateReplyWrongState w
  | .flush => if w.mState = .paused then StreamIn.flush c a w else populateReplyWrongState w

/-! ### Output streams -/

/-- All that is in the data queue is read, but no more than `byteCount` of it used. -/
def StreamOut.byteCount (clientSize readByteCount : ℕ) : ℕ :=
  let byteCount := min clientSize (min readByteCount c.dataBufferSize)
  if c.frameSize ≤ byteCount ∧ c.forceTransientBurst then byteCount - c.frameSize else byteCount

/-- The driver is given nothing of what an unconnected output takes. -/
def StreamOut.data (w : Worker) (queue : List Byte) (byteCount : ℕ) : List Byte :=
  if w.mIsConnected then queue.take byteCount else []

def StreamOut.write (w : Worker) (queue : List Byte) (clientSize : ℕ) : Transferred :=
  if queue.length = 0 ∨ a.mqOk then
    let frameCount := StreamOut.byteCount c clientSize queue.length / c.frameSize
    { transferred c a w frameCount with
      bytes := StreamOut.data w queue (actualFrameCount a w frameCount * c.frameSize)
      readByteCount := queue.length }
  else
    { worker := w
      reply := { status := .notEnoughData, latencyMs := some c.nominalLatencyMs } }

/-- An asynchronous output is `TRANSFERRING` until the driver has room for the rest of a burst. -/
def StreamOut.burstTaken (w : Worker) (whole : Bool) (now : ℕ) : Worker :=
  if !c.asyncCallback || whole then { w with mState := .active }
  else w.switchToTransientState .transferring now

/-- Where a burst of an output ends; `whole` tells that all bytes were taken. -/
def StreamOut.afterBurst (w : Worker) (whole : Bool) (now : ℕ) : Worker :=
  match w.mState with
  | .standby | .paused => { w with mState := .paused }
  | .drainPaused => { w with mState := if c.asyncCallback then .transferPaused else .paused }
  | .idle | .active => StreamOut.burstTaken c w whole now
  | .draining => if w.mDrainState ≠ .enSent then StreamOut.burstTaken c w whole now else w
  | _ => w

def StreamOut.transferData (w : Worker) (queue : List Byte) (fmqByteCount : ℕ) : Transferred :=
  if c.isMmap then transferMmap c a w else StreamOut.write c a w queue fmqByteCount

def StreamOut.burst (w : Worker) (queue : List Byte) (fmqByteCount : ℕ) : Outcome :=
  let t := StreamOut.transferData c a w queue fmqByteCount
  let w := if t.success then t.worker else { t.worker with mState := .error }
  { t.toOutcome with
    worker := StreamOut.afterBurst c w (t.reply.fmqByteCount = fmqByteCount) a.now }

def StreamOut.startNext : State → Option State
  | .standby => some .idle
  | .paused => some .active
  | .drainPaused => some .draining
  | .transferPaused => some .transferring
  | _ => none

def StreamOut.pauseNext : State → Option State
  | .active => some .paused
  | .draining => some .drainPaused
  | .transferring => some .transferPaused
  | _ => none

/-- The worker after an accepted start. -/
def StreamOut.startedAs (w : Worker) (nextState : State) : Worker :=
  if nextState = .idle ∨ nextState = .active then { w with mState := nextState }
  else w.switchToTransientState nextState a.now

/-- The worker after an accepted drain. -/
def StreamOut.drained (w : Worker) (mode : DrainMode) : Worker :=
  if w.mState = .active ∧ c.forceSynchronousDrain then { w with mState := .idle }
  else { w.switchToTransientState .draining a.now with
    mDrainState := if mode = .earlyNotify then .en else .all }

/-- The `switch` of `StreamOutWorkerLogic::cycle`. -/
def StreamOut.exec (w : Worker) (queue : List Byte) : Command → Outcome
  | .halReservedExit cookie => execExit c w cookie
  | .getStatus => execGetStatus c a w
  | .start =>
    match StreamOut.startNext w.mState with
    | some nextState => attempt c a w .start a.start (StreamOut.startedAs a w nextState)
    | none => populateReplyWrongState w
  | .burst fmqByteCount =>
    if 0 ≤ fmqByteCount then
      if w.mState ≠ .error ∧ w.mState ≠ .transferring ∧ w.mState ≠ .transferPaused then
        StreamOut.burst c a w queue fmqByteCount.toNat
      else populateReplyWrongState w
    else badValue w
  | .drain mode =>
    if mode ≠ .unspecified then
      if w.mState = .active ∨ w.mState = .transferring then
        attempt c a w (.drain mode) a.drain (StreamOut.drained c a w mode)
      else if w.mState = .transferPaused then
        { execGetStatus c a w with worker := { w with mState := .drainPaused } }
      else populateReplyWrongState w
    else badValue w
  | .standby => execStandby c a w
  | .pause =>
    match StreamOut.pauseNext w.mState with
    | some nextState => attempt c a w .pause a.pause { w with mState := nextState }
    | none => populateReplyWrongState w
  | .flush =>
    if w.mState = .paused ∨ w.mState = .drainPaused ∨ w.mState = .transferPaused then
      attempt c a w .flush a.flush { w with mState := .idle }
    else populateReplyWrongState w

/-- The head of an output's cycle, before the wait for a command. -/
def StreamOut.timeout (w : Worker) (now : ℕ) : Worker :=
  if w.mState = .draining ∧ !c.asyncCallback ∧
      c.transientStateDelayMs ≤ now - w.mTransientStateStart then { w with mState := .idle }
  else w

/-- The notices an output's client is sent. -/
inductive Notice where | transferReady | drainReady
  deriving DecidableEq, Repr

def StreamOut.onBufferStateChange (w : Worker) : Worker × List Notice :=
  if w.mState = .transferring ∨ w.mDrainState = .enSent then
    (if w.mState = .transferring then { w with mState := .active } else w,
      if c.asyncCallback then [.transferReady] else [])
  else (w, [])

def StreamOut.onClipStateChange (w : Worker) (clipFramesLeft : ℕ) (hasNextClip : Bool) :
    Worker × List Notice :=
  if w.mDrainState ≠ .none ∧ clipFramesLeft = 0 then
    ({ w with mState := if hasNextClip then .transferring else .idle, mDrainState := .none },
      if (w.mDrainState = .all ∨ w.mDrainState = .enSent) ∧ c.asyncCallback then [.drainReady] else [])
  else if w.mDrainState = .en ∧ 0 < clipFramesLeft then
    ({ w with mDrainState := .enSent }, if c.asyncCallback then [.drainReady] else [])
  else (w, [])

/-! ### A stream and its run -/

/-- The `switch` of the worker's direction. -/
def exec (d : Direction) (w : Worker) (queue : List Byte) (command : Command) : Outcome :=
  match d with
  | .input => StreamIn.exec c a w command
  | .output => StreamOut.exec c a w queue command

inductive Status where | abort | continue | exit
  deriving DecidableEq, Repr

/-- Where a cycle returns before its reply: an exit command with a cookie is internal. -/
def earlyReturn : Command → Option Status
  | .halReservedExit cookie =>
    if cookie ≠ 0 then some (if cookie = c.exitCookie then .exit else .continue) else none
  | _ => none

end Logic

/-- The worker with its data queue, whether its loop goes on, and what has left it: the calls of the
    driver, the notices and replies to the client, and the bytes that reached the far end of the queue,
    the client of an input and the driver of an output. -/
structure Stream where
  worker : Worker := {}
  running : Bool := true
  queue : List Byte := []
  calls : List (Call × Bool) := []
  notices : List Notice := []
  replies : List Reply := []
  delivered : List Byte := []
  deriving DecidableEq

/-- A cycle waits for its command between `timeout` and `command`; no command is a failed read of the
    queue. Callbacks of the driver and calls of the main thread come in between. -/
inductive Event where
  | timeout (now : ℕ)
  | command (command : Option Command) (a : Answers) (replied : Bool)
  | onBufferStateChange
  | onClipStateChange (clipFramesLeft : ℕ) (hasNextClip : Bool)
  | setIsConnected (connected : Bool)
  | setClosed
  | clientWrite (bytes : List Byte)
  | clientRead (count : ℕ)

namespace Stream

/-- The loop ends in the `ERROR` state when a queue of commands or replies fails. -/
def abort (s : Stream) : Stream :=
  { s with worker := { s.worker with mState := .error }, running := false }

/-- What a carried out command leaves in the stream. -/
def carryOut (d : Direction) (s : Stream) (o : Outcome) : Stream :=
  { s with
    worker := o.worker
    calls := s.calls ++ o.calls
    queue := if d = .input then s.queue ++ o.bytes else s.queue.drop o.readByteCount
    delivered := if d = .input then s.delivered else s.delivered ++ o.bytes }

/-- `cycle` from the command on. -/
def cycle (d : Direction) (c : StreamContext) (s : Stream) (command : Option Command) (a : Answers)
    (replied : Bool) : Stream :=
  match command with
  | none => s.abort
  | some command =>
    let o := exec c a d s.worker s.queue command
    let t := carryOut d s o
    match earlyReturn c command with
    | some status => { t with running := status = .continue }
    | none =>
      if replied then { t with replies := t.replies ++ [{ o.reply with state := o.worker.mState }] }
      else t.abort

/-- The callbacks and the timeout of the common logic do nothing. -/
def step (d : Direction) (c : StreamContext) (s : Stream) : Event → Stream
  | .timeout now =>
    if d = .output ∧ s.running then { s with worker := StreamOut.timeout c s.worker now } else s
  | .command command a replied => if s.running then cycle d c s command a replied else s
  | .onBufferStateChange =>
    if d = .output then
      { s with
        worker := (StreamOut.onBufferStateChange c s.worker).1
        notices := s.notices ++ (StreamOut.onBufferStateChange c s.worker).2 }
    else s
  | .onClipStateChange clipFramesLeft hasNextClip =>
    if d = .output then
      { s with
        worker := (StreamOut.onClipStateChange c s.worker clipFramesLeft hasNextClip).1
        notices := s.notices ++ (StreamOut.onClipStateChange c s.worker clipFramesLeft hasNextClip).2 }
    else s
  | .setIsConnected connected => { s with worker := { s.worker with mIsConnected := connected } }
  -- the main thread joins the worker before it closes the stream
  | .setClosed => if s.running then s else { s with worker := s.worker.setClosed }
  | .clientWrite bytes => if d = .output then { s with queue := s.queue ++ bytes } else s
  | .clientRead count =>
    if d = .input then
      { s with delivered := s.delivered ++ s.queue.take count, queue := s.queue.drop count }
    else s

end Stream

end ImxHal.Audio.Streaming
