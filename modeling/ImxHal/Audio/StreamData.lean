import ImxHal.Audio.Stream

/-! @src audio/default/Stream.cpp | name:stream data | scheme:run | family:audio

    The bytes of a stream go through a data queue. An output's worker empties the queue at every burst but
    may use less than it read; the client goes on from what the reply counts, so the rest comes again:

        source   ████████████████░░░░░░░░░░          pos = what the replies have counted
                 └─ delivered ──┘└ chunk ─┘ ─▶ queue ─▶ worker ─▶ driver takes a part of it

    An input's worker asks for no more frames than fit, so what the driver hands over is never refused. -/

namespace ImxHal.Audio.Streaming

variable {c : StreamContext}

/-! ### Commands that move no data -/

/-- An outcome that leaves the frame count and the data queue as they are, and reports no bytes. -/
structure Still (w : Worker) (o : Outcome) : Prop where
  frames : o.worker.mFrameCount = w.mFrameCount
  bytes : o.bytes = []
  read : o.readByteCount = 0
  count : o.reply.fmqByteCount = 0

@[simp] theorem populateReply_fmqByteCount (a : Answers) (w : Worker) (isConnected : Bool) (reply : Reply) :
    (populateReply c a w isConnected reply).fmqByteCount = reply.fmqByteCount := by
  unfold populateReply
  cases isConnected <;> cases c.isMmap <;> cases a.mmapPosition <;> rfl

theorem attempt_still {a : Answers} {w next : Worker} (call : Call) (status : Bool)
    (h : next.mFrameCount = w.mFrameCount) : Still w (attempt c a w call status next) := by
  cases status
  · exact ⟨rfl, rfl, rfl, rfl⟩
  · exact ⟨h, rfl, rfl, populateReply_fmqByteCount a w _ _⟩

theorem execStandby_still (a : Answers) (w : Worker) : Still w (execStandby c a w) := by
  unfold execStandby
  split
  · exact ⟨rfl, rfl, rfl, populateReply_fmqByteCount a w _ _⟩
  · exact ⟨rfl, rfl, rfl, rfl⟩

theorem execExit_still (w : Worker) (cookie : BitVec 32) : Still w (execExit c w cookie) := by
  unfold execExit
  split <;> exact ⟨rfl, rfl, rfl, rfl⟩

theorem StreamOut.exec_still {a : Answers} {w : Worker} (queue : List Byte) {command : Command}
    (h : ∀ fmqByteCount, command ≠ .burst fmqByteCount) : Still w (StreamOut.exec c a w queue command) := by
  have hrefused : Still w (populateReplyWrongState w) := ⟨rfl, rfl, rfl, rfl⟩
  cases command with
  | halReservedExit cookie => exact execExit_still w cookie
  | getStatus => exact ⟨rfl, rfl, rfl, populateReply_fmqByteCount a w _ _⟩
  | start =>
    simp only [StreamOut.exec]
    split
    · refine attempt_still _ _ ?_
      unfold StreamOut.startedAs
      split <;> rfl
    · exact hrefused
  | burst fmqByteCount => exact absurd rfl (h fmqByteCount)
  | drain mode =>
    simp only [StreamOut.exec]
    split
    · split
      · refine attempt_still _ _ ?_
        unfold StreamOut.drained
        split <;> rfl
      · split
        · exact ⟨rfl, rfl, rfl, populateReply_fmqByteCount a w _ _⟩
        · exact hrefused
    · exact ⟨rfl, rfl, rfl, rfl⟩
  | standby => exact execStandby_still a w
  | pause =>
    simp only [StreamOut.exec]
    split
    · exact attempt_still _ _ rfl
    · exact hrefused
  | flush =>
    simp only [StreamOut.exec]
    split
    · exact attempt_still _ _ rfl
    · exact hrefused

theorem StreamIn.exec_still {a : Answers} {w : Worker} {command : Command}
    (h : ∀ fmqByteCount, command ≠ .burst fmqByteCount) : Still w (StreamIn.exec c a w command) := by
  have hrefused : Still w (populateReplyWrongState w) := ⟨rfl, rfl, rfl, rfl⟩
  cases command with
  | halReservedExit cookie => exact execExit_still w cookie
  | getStatus => exact ⟨rfl, rfl, rfl, populateReply_fmqByteCount a w _ _⟩
  | start =>
    simp only [StreamIn.exec]
    split
    · exact attempt_still _ _ rfl
    · exact hrefused
  | burst fmqByteCount => exact absurd rfl (h fmqByteCount)
  | drain mode =>
    simp only [StreamIn.exec]
    split
    · split
      · exact attempt_still _ _ rfl
      · exact hrefused
    · exact ⟨rfl, rfl, rfl, rfl⟩
  | standby => exact execStandby_still a w
  | pause =>
    simp only [StreamIn.exec]
    split
    · exact attempt_still _ _ rfl
    · exact hrefused
  | flush =>
    simp only [StreamIn.exec]
    split
    · unfold StreamIn.flush
      split
      · split
        · exact ⟨rfl, rfl, rfl, populateReply_fmqByteCount a w _ _⟩
        · exact ⟨rfl, rfl, rfl, rfl⟩
      · exact ⟨rfl, rfl, rfl, rfl⟩
    · exact hrefused

/-- What a cycle does to the data: it carries out its command, whether the worker goes on or stops. -/
theorem cycle_data (d : Direction) (s : Stream) (command : Command) (a : Answers) (replied : Bool) :
    (Stream.cycle d c s (some command) a replied).queue =
        (Stream.carryOut d s (exec c a d s.worker s.queue command)).queue ∧
      (Stream.cycle d c s (some command) a replied).delivered =
        (Stream.carryOut d s (exec c a d s.worker s.queue command)).delivered ∧
      (Stream.cycle d c s (some command) a replied).worker.mFrameCount =
        (exec c a d s.worker s.queue command).worker.mFrameCount := by
  unfold Stream.cycle
  dsimp only
  split
  · exact ⟨rfl, rfl, rfl⟩
  · split <;> exact ⟨rfl, rfl, rfl⟩

/-! ### Output streams -/

/-- A client that plays `source`: it writes its next bytes, sends a burst of them, and counts the reply. -/
structure Player where
  stream : Stream := {}
  pos : ℕ := 0

/-- The client's bursts, and everything else that happens to the stream. -/
inductive PlayerEvent where
  | play (count : ℕ) (a : Answers)
  | other (e : Event)

namespace Player

def chunk (source : List Byte) (p : Player) (count : ℕ) : List Byte := (source.drop p.pos).take count

/-- The stream with the chunk in its queue. -/
def written (source : List Byte) (p : Player) (count : ℕ) : Stream :=
  { p.stream with queue := p.stream.queue ++ chunk source p count }

def step (c : StreamContext) (source : List Byte) (p : Player) : PlayerEvent → Player
  | .play count a =>
    let s := written source p count
    let burst : Command := .burst (chunk source p count).length
    { stream := Stream.step .output c s (.command (some burst) a true)
      pos := p.pos + (StreamOut.exec c a s.worker s.queue burst).reply.fmqByteCount }
  | .other e => { p with stream := Stream.step .output c p.stream e }

/-- A burst is played by a running output that takes bursts, its driver uses no more frames than it is
    given, and the queue is read; nothing else puts bytes into the queue or takes them out. -/
def Plays (c : StreamContext) (source : List Byte) (p : Player) : PlayerEvent → Prop
  | .play count a =>
    p.stream.running = true ∧
      (p.stream.worker.mState ≠ .error ∧ p.stream.worker.mState ≠ .transferring ∧
        p.stream.worker.mState ≠ .transferPaused) ∧
      a.actualFrameCount ≤
        StreamOut.byteCount c (chunk source p count).length (written source p count).queue.length /
          c.frameSize ∧
      a.mqOk = true
  | .other (.clientWrite _) => False
  | .other (.command (some (.burst _)) _ _) => False
  | .other _ => True

/-- The queue is empty between bursts, the frames counted are those of the client, and the driver has got
    a part of what the client has counted, in its order. -/
structure Playing (c : StreamContext) (source : List Byte) (p : Player) : Prop where
  queue : p.stream.queue = []
  pos : p.pos = p.stream.worker.mFrameCount * c.frameSize
  inside : p.pos ≤ source.length
  delivered : p.stream.delivered.Sublist (source.take p.pos)

end Player

theorem StreamOut.byteCount_le (clientSize readByteCount : ℕ) :
    StreamOut.byteCount c clientSize readByteCount ≤ clientSize := by
  unfold StreamOut.byteCount
  dsimp only
  split <;> omega

theorem afterBurst_mFrameCount (w : Worker) (whole : Bool) (now : ℕ) :
    (StreamOut.afterBurst c w whole now).mFrameCount = w.mFrameCount := by
  have htaken : (StreamOut.burstTaken c w whole now).mFrameCount = w.mFrameCount := by
    unfold StreamOut.burstTaken
    split <;> rfl
  unfold StreamOut.afterBurst
  split
  next => rfl
  next => rfl
  next => rfl
  next => exact htaken
  next => exact htaken
  next =>
    split
    · exact htaken
    · rfl
  next => rfl

/-- The frames that a burst of an output counts. -/
def StreamOut.frames (c : StreamContext) (a : Answers) (w : Worker) (queue : List Byte)
    (clientSize : ℕ) : ℕ :=
  actualFrameCount a w (StreamOut.byteCount c clientSize queue.length / c.frameSize)

/-- A burst that is taken counts its frames, reports their bytes and reads all of the queue. -/
theorem StreamOut.exec_burst {a : Answers} {w : Worker} (queue : List Byte) (clientSize : ℕ)
    (hmmap : c.isMmap = false) (hmq : a.mqOk = true)
    (hs : w.mState ≠ .error ∧ w.mState ≠ .transferring ∧ w.mState ≠ .transferPaused) :
    (StreamOut.exec c a w queue (.burst clientSize)).reply.fmqByteCount =
        StreamOut.frames c a w queue clientSize * c.frameSize ∧
      (StreamOut.exec c a w queue (.burst clientSize)).worker.mFrameCount =
        w.mFrameCount + StreamOut.frames c a w queue clientSize ∧
      (StreamOut.exec c a w queue (.burst clientSize)).bytes =
        StreamOut.data w queue (StreamOut.frames c a w queue clientSize * c.frameSize) ∧
      (StreamOut.exec c a w queue (.burst clientSize)).readByteCount = queue.length := by
  have hdata : StreamOut.transferData c a w queue clientSize =
      { transferred c a w (StreamOut.byteCount c clientSize queue.length / c.frameSize) with
        bytes := StreamOut.data w queue (StreamOut.frames c a w queue clientSize * c.frameSize)
        readByteCount := queue.length } := by
    simp [StreamOut.transferData, hmmap, StreamOut.write, hmq, StreamOut.frames]
  have hexec : StreamOut.exec c a w queue (.burst clientSize) = StreamOut.burst c a w queue clientSize := by
    simp [StreamOut.exec, hs]
  rw [hexec]
  unfold StreamOut.burst
  rw [hdata]
  refine ⟨by simp [transferred, StreamOut.frames], ?_, rfl, rfl⟩
  dsimp only
  rw [afterBurst_mFrameCount]
  split <;> rfl

theorem Player.written_queue (source : List Byte) {p : Player} (h : p.stream.queue = []) (count : ℕ) :
    (written source p count).queue = chunk source p count := by
  simp [written, h]

/-- A burst counts no more than the chunk, whatever part of it the driver takes. -/
theorem Player.frames_le {source : List Byte} {p : Player} {count : ℕ} {a : Answers}
    (hq : p.stream.queue = []) (hplays : Plays c source p (.play count a)) :
    StreamOut.frames c a p.stream.worker (chunk source p count) (chunk source p count).length * c.frameSize
      ≤ (chunk source p count).length := by
  obtain ⟨-, -, hactual, -⟩ := hplays
  rw [written_queue source hq] at hactual
  have hfits : StreamOut.frames c a p.stream.worker (chunk source p count) (chunk source p count).length ≤
      StreamOut.byteCount c (chunk source p count).length (chunk source p count).length / c.frameSize := by
    unfold StreamOut.frames actualFrameCount
    split
    · exact hactual
    · exact le_rfl
  calc StreamOut.frames c a p.stream.worker (chunk source p count) (chunk source p count).length * c.frameSize
      ≤ StreamOut.byteCount c (chunk source p count).length (chunk source p count).length / c.frameSize
          * c.frameSize := Nat.mul_le_mul_right _ hfits
    _ ≤ StreamOut.byteCount c (chunk source p count).length (chunk source p count).length :=
        Nat.div_mul_le_self _ _
    _ ≤ (chunk source p count).length := StreamOut.byteCount_le _ _

/-- The part of the chunk that a burst counts is what comes next in the source. -/
theorem Player.take_chunk {source : List Byte} {p : Player} {count n : ℕ}
    (h : n ≤ (chunk source p count).length) :
    (chunk source p count).take n = (source.drop p.pos).take n := by
  have hcount : n ≤ count := h.trans (by simp [chunk])
  rw [chunk, List.take_take, min_eq_left hcount]

/-- A played burst moves the client and the worker on by the same bytes. -/
theorem Player.step_play {source : List Byte} {p : Player} {count : ℕ} {a : Answers}
    (hmmap : c.isMmap = false) (hq : p.stream.queue = []) (hplays : Plays c source p (.play count a)) :
    ∃ n, n * c.frameSize ≤ (chunk source p count).length ∧
      (step c source p (.play count a)).pos = p.pos + n * c.frameSize ∧
      (step c source p (.play count a)).stream.worker.mFrameCount = p.stream.worker.mFrameCount + n ∧
      (step c source p (.play count a)).stream.queue = [] ∧
      (step c source p (.play count a)).stream.delivered = p.stream.delivered ++
        if p.stream.worker.mIsConnected then (source.drop p.pos).take (n * c.frameSize) else [] := by
  have hle := frames_le hq hplays
  obtain ⟨hrun, hs, -, hmq⟩ := hplays
  have hwq := written_queue source hq count
  obtain ⟨hreply, hframes, hbytes, hread⟩ := StreamOut.exec_burst (c := c) (a := a)
    (w := p.stream.worker) (written source p count).queue (chunk source p count).length
    hmmap hmq hs
  obtain ⟨hcq, hcd, hcf⟩ := cycle_data (c := c) .output (written source p count)
    (.burst (chunk source p count).length) a true
  have hcycle : (step c source p (.play count a)).stream =
      Stream.cycle .output c (written source p count)
        (some (.burst (chunk source p count).length)) a true := by
    simp only [step, Stream.step]
    exact if_pos hrun
  refine ⟨_, hle, ?_, ?_, ?_, ?_⟩
  · rw [hwq] at hreply
    change p.pos + _ = _
    rw [hwq]
    exact congrArg (p.pos + ·) hreply
  · rw [hcycle, hcf]
    rw [hwq] at hframes ⊢
    exact hframes
  · rw [hcycle, hcq, Stream.carryOut, if_neg (by decide)]
    have hread' : (exec c a .output (written source p count).worker (written source p count).queue
        (.burst (chunk source p count).length)).readByteCount = (written source p count).queue.length := hread
    rw [hread', List.drop_length]
  · rw [hcycle, hcd, Stream.carryOut, if_neg (by decide)]
    rw [hwq] at hbytes ⊢
    refine congrArg (p.stream.delivered ++ ·) (hbytes.trans ?_)
    unfold StreamOut.data
    rw [take_chunk hle]

theorem onBufferStateChange_mFrameCount (w : Worker) :
    (StreamOut.onBufferStateChange c w).1.mFrameCount = w.mFrameCount := by
  unfold StreamOut.onBufferStateChange
  split
  · dsimp only
    split <;> rfl
  · rfl

theorem onClipStateChange_mFrameCount (w : Worker) (clipFramesLeft : ℕ) (hasNextClip : Bool) :
    (StreamOut.onClipStateChange c w clipFramesLeft hasNextClip).1.mFrameCount = w.mFrameCount := by
  unfold StreamOut.onClipStateChange
  split
  · rfl
  · split <;> rfl

/-- Nothing but a burst moves data. -/
theorem Player.step_other {source : List Byte} {p : Player} {e : Event}
    (hq : p.stream.queue = []) (hplays : Plays c source p (.other e)) :
    (step c source p (.other e)).stream.worker.mFrameCount = p.stream.worker.mFrameCount ∧
      (step c source p (.other e)).stream.queue = [] ∧
      (step c source p (.other e)).stream.delivered = p.stream.delivered := by
  simp only [step]
  cases e with
  | timeout now =>
    simp only [Stream.step]
    split
    · refine ⟨?_, hq, rfl⟩
      simp only [StreamOut.timeout]
      split <;> rfl
    · exact ⟨rfl, hq, rfl⟩
  | command command a replied =>
    simp only [Stream.step]
    split
    · cases command with
      | none => exact ⟨rfl, hq, rfl⟩
      | some command =>
        have hburst : ∀ fmqByteCount, command ≠ .burst fmqByteCount := by
          rintro fmqByteCount rfl
          exact hplays
        have hstill := StreamOut.exec_still (c := c) (a := a) (w := p.stream.worker)
          p.stream.queue hburst
        obtain ⟨hcq, hcd, hcf⟩ := cycle_data (c := c) .output p.stream command a replied
        rw [hcf, hcq, hcd, Stream.carryOut, if_neg (by decide), if_neg (by decide)]
        refine ⟨hstill.frames, by rw [hq, List.drop_nil], ?_⟩
        exact (congrArg (p.stream.delivered ++ ·) hstill.bytes).trans (List.append_nil _)
    · exact ⟨rfl, hq, rfl⟩
  | onBufferStateChange => exact ⟨onBufferStateChange_mFrameCount _, hq, rfl⟩
  | onClipStateChange clipFramesLeft hasNextClip =>
    exact ⟨onClipStateChange_mFrameCount _ _ _, hq, rfl⟩
  | setIsConnected connected => exact ⟨rfl, hq, rfl⟩
  | setClosed =>
    simp only [Stream.step]
    split <;> exact ⟨rfl, hq, rfl⟩
  | clientWrite bytes => exact hplays.elim
  | clientRead count => exact ⟨rfl, hq, rfl⟩

theorem Player.chunk_length_le (source : List Byte) (p : Player) (count : ℕ) :
    (chunk source p count).length ≤ source.length - p.pos := by
  simp [chunk]

theorem Player.step_playing {source : List Byte} (hmmap : c.isMmap = false) {p : Player}
    {e : PlayerEvent} (h : Playing c source p) (hplays : Plays c source p e) :
    Playing c source (step c source p e) := by
  cases e with
  | play count a =>
    obtain ⟨n, hn, hpos, hframes, hqueue, hdelivered⟩ := step_play hmmap h.queue hplays
    have hlen := chunk_length_le source p count
    have hinside := h.inside
    refine ⟨hqueue, ?_, by omega, ?_⟩
    · rw [hpos, hframes, h.pos, Nat.add_mul]
    · rw [hdelivered, hpos, List.take_add]
      refine h.delivered.append ?_
      split
      · exact List.Sublist.refl _
      · exact List.nil_sublist _
  | other e =>
    obtain ⟨hframes, hqueue, hdelivered⟩ := step_other h.queue hplays
    have hpos : (step c source p (.other e)).pos = p.pos := rfl
    exact ⟨hqueue, by rw [hpos, hframes, h.pos], hpos ▸ h.inside, by rw [hdelivered, hpos]; exact h.delivered⟩

/-- Every burst is played on a connected stream. -/
def Player.Connected (p : Player) : PlayerEvent → Prop
  | .play _ _ => p.stream.worker.mIsConnected = true
  | .other _ => True

/-- A stream of one-byte frames. -/
def byteStream : StreamContext where
  frameSize := 1
  nominalLatencyMs := 10
  isMmap := false
  asyncCallback := false
  transientStateDelayMs := 0
  forceTransientBurst := false
  forceSynchronousDrain := false
  internalCommandCookie := 5
  tid := 2
  dataBufferSize := 4

/-- A stream with all that the driver has handed over, silence where it was not connected. -/
structure Recorder where
  stream : Stream := {}
  captured : List Byte := []

/-- The frames that a burst of an input counts. -/
def StreamIn.frames (c : StreamContext) (a : Answers) (w : Worker) (clientSize : ℕ) : ℕ :=
  actualFrameCount a w (StreamIn.byteCount c a clientSize / c.frameSize)

/-- A burst of `clientSize` bytes is carried out. -/
def BurstTaken (s : Stream) (clientSize : ℤ) : Prop :=
  s.running = true ∧ 0 ≤ clientSize ∧ s.worker.mState ∈ [State.idle, .active, .paused, .draining]

instance (s : Stream) (clientSize : ℤ) : Decidable (BurstTaken s clientSize) :=
  inferInstanceAs (Decidable (_ ∧ _ ∧ _))

namespace Recorder

/-- What the driver hands over in a step. -/
def handed (c : StreamContext) (s : Stream) : Event → List Byte
  | .command (some (.burst clientSize)) a _ =>
    if BurstTaken s clientSize then
      StreamIn.data a s.worker (StreamIn.frames c a s.worker clientSize.toNat * c.frameSize)
    else []
  | _ => []

def step (c : StreamContext) (r : Recorder) (e : Event) : Recorder where
  stream := Stream.step .input c r.stream e
  captured := r.captured ++ handed c r.stream e

/-- The driver hands over no more frames than it is asked for and has written them to the buffer; the data
    queue takes what fits into it, and the reply queue takes the reply. -/
def Honest (c : StreamContext) (r : Recorder) : Event → Prop
  | .command (some (.burst clientSize)) a replied =>
    a.actualFrameCount ≤ StreamIn.byteCount c a clientSize.toNat / c.frameSize ∧
      a.actualFrameCount * c.frameSize ≤ a.buffer.length ∧
      (StreamIn.frames c a r.stream.worker clientSize.toNat * c.frameSize ≤ a.availableToWrite →
        a.mqOk = true) ∧
      replied = true
  | _ => True

/-- What was handed over is with the client or in the queue, and was counted and reported. -/
structure Recording (c : StreamContext) (r : Recorder) : Prop where
  kept : r.stream.delivered ++ r.stream.queue = r.captured
  counted : r.captured.length = r.stream.worker.mFrameCount * c.frameSize
  reported : (r.stream.replies.map Reply.fmqByteCount).sum = r.captured.length

end Recorder

theorem StreamIn.frames_fit {a : Answers} {w : Worker} {clientSize : ℕ}
    (h : a.actualFrameCount ≤ StreamIn.byteCount c a clientSize / c.frameSize) :
    StreamIn.frames c a w clientSize * c.frameSize ≤ a.availableToWrite := by
  have hfits : StreamIn.frames c a w clientSize ≤ StreamIn.byteCount c a clientSize / c.frameSize := by
    unfold StreamIn.frames actualFrameCount
    split
    · exact h
    · exact le_rfl
  calc StreamIn.frames c a w clientSize * c.frameSize
      ≤ StreamIn.byteCount c a clientSize / c.frameSize * c.frameSize := Nat.mul_le_mul_right _ hfits
    _ ≤ StreamIn.byteCount c a clientSize := Nat.div_mul_le_self _ _
    _ ≤ a.availableToWrite := by unfold StreamIn.byteCount; omega

theorem StreamIn.data_length {a : Answers} {w : Worker} {byteCount : ℕ}
    (h : w.mIsConnected = true → byteCount ≤ a.buffer.length) :
    (StreamIn.data a w byteCount).length = byteCount := by
  unfold StreamIn.data
  split
  next hcon => rw [List.length_take, min_eq_left (h hcon)]
  next => exact List.length_replicate

/-- A burst that is taken counts and reports the frames handed over, and queues all of their bytes. -/
theorem StreamIn.exec_burst {a : Answers} {w : Worker} (clientSize : ℕ) (hmmap : c.isMmap = false)
    (hmq : a.mqOk = true) (hs : w.mState ∈ [State.idle, .active, .paused, .draining]) :
    (StreamIn.exec c a w (.burst clientSize)).reply.fmqByteCount =
        StreamIn.frames c a w clientSize * c.frameSize ∧
      (StreamIn.exec c a w (.burst clientSize)).worker.mFrameCount =
        w.mFrameCount + StreamIn.frames c a w clientSize ∧
      (StreamIn.exec c a w (.burst clientSize)).bytes =
        StreamIn.data a w (StreamIn.frames c a w clientSize * c.frameSize) := by
  have hdata : StreamIn.transferData c a w clientSize =
      { transferred c a w (StreamIn.byteCount c a clientSize / c.frameSize) with
        bytes := StreamIn.data a w (StreamIn.frames c a w clientSize * c.frameSize) } := by
    simp [StreamIn.transferData, hmmap, StreamIn.read, hmq, StreamIn.frames]
  have hexec : StreamIn.exec c a w (.burst clientSize) = StreamIn.burst c a w clientSize := by
    simp only [StreamIn.exec, hs, if_true, Int.toNat_natCast]
    exact if_pos (Int.natCast_nonneg _)
  rw [hexec]
  unfold StreamIn.burst
  rw [hdata]
  exact ⟨by simp [transferred, StreamIn.frames], rfl, rfl⟩

namespace Recorder

/-- A step that hands nothing over and only moves bytes from the queue to the client. -/
theorem Recording.of_still {r : Recorder} {s : Stream} (h : Recording c r)
    (hkept : s.delivered ++ s.queue = r.stream.delivered ++ r.stream.queue)
    (hframes : s.worker.mFrameCount = r.stream.worker.mFrameCount)
    (hreplies : (s.replies.map Reply.fmqByteCount).sum = (r.stream.replies.map Reply.fmqByteCount).sum) :
    Recording c ⟨s, r.captured ++ []⟩ := by
  rw [List.append_nil]
  exact ⟨hkept.trans h.kept, by rw [hframes]; exact h.counted, hreplies.trans h.reported⟩

/-- The replies after a cycle: that of the command, if it gets one. -/
theorem cycle_replies (s : Stream) (command : Command) (a : Answers) (replied : Bool) :
    (Stream.cycle .input c s (some command) a replied).replies = s.replies ∨
      ∃ state, (Stream.cycle .input c s (some command) a replied).replies =
        s.replies ++ [{ (exec c a .input s.worker s.queue command).reply with state }] := by
  unfold Stream.cycle
  dsimp only
  split
  · exact Or.inl rfl
  · split
    · exact Or.inr ⟨_, rfl⟩
    · exact Or.inl rfl

/-- A command that moves no data. -/
theorem Recording.of_exec {r : Recorder} {command : Command} {a : Answers} {replied : Bool}
    (h : Recording c r) (hstill : Still r.stream.worker (StreamIn.exec c a r.stream.worker command)) :
    Recording c ⟨Stream.cycle .input c r.stream (some command) a replied, r.captured ++ []⟩ := by
  obtain ⟨hq, hd, hf⟩ := cycle_data (c := c) .input r.stream command a replied
  refine h.of_still ?_ (hf.trans hstill.frames) ?_
  · rw [hd, hq, Stream.carryOut, if_pos rfl, if_pos rfl]
    exact congrArg (r.stream.delivered ++ ·)
      ((congrArg (r.stream.queue ++ ·) hstill.bytes).trans (List.append_nil _))
  · rcases cycle_replies (c := c) r.stream command a replied with hr | ⟨state, hr⟩
    · rw [hr]
    · have hcount : (exec c a .input r.stream.worker r.stream.queue command).reply.fmqByteCount = 0 :=
        hstill.count
      rw [hr, List.map_append, List.sum_append]
      simp [hcount]

theorem Recording.of_burst {r : Recorder} {clientSize : ℕ} {a : Answers} (hmmap : c.isMmap = false)
    (h : Recording c r) (hs : r.stream.worker.mState ∈ [State.idle, .active, .paused, .draining])
    (hhonest : Honest c r (.command (some (.burst clientSize)) a true)) :
    Recording c ⟨Stream.cycle .input c r.stream (some (.burst clientSize)) a true,
      r.captured ++ StreamIn.data a r.stream.worker
        (StreamIn.frames c a r.stream.worker clientSize * c.frameSize)⟩ := by
  obtain ⟨hactual, hbuffer, hmq, -⟩ := hhonest
  rw [Int.toNat_natCast] at hactual hmq
  have hmq := hmq (StreamIn.frames_fit hactual)
  have hlength : (StreamIn.data a r.stream.worker
      (StreamIn.frames c a r.stream.worker clientSize * c.frameSize)).length =
        StreamIn.frames c a r.stream.worker clientSize * c.frameSize := by
    refine StreamIn.data_length fun hcon => ?_
    simpa [StreamIn.frames, actualFrameCount, hcon] using hbuffer
  obtain ⟨hreply, hframes, hbytes⟩ := StreamIn.exec_burst (c := c) (a := a) clientSize hmmap hmq hs
  obtain ⟨hq, hd, hf⟩ := cycle_data (c := c) .input r.stream (.burst clientSize) a true
  refine ⟨?_, ?_, ?_⟩
  · rw [hd, hq, Stream.carryOut, if_pos rfl, if_pos rfl]
    have hqueue := congrArg (r.stream.queue ++ ·) hbytes
    calc r.stream.delivered ++ (r.stream.queue ++ _)
        = r.stream.delivered ++ (r.stream.queue ++ StreamIn.data a r.stream.worker
            (StreamIn.frames c a r.stream.worker clientSize * c.frameSize)) :=
          congrArg (r.stream.delivered ++ ·) hqueue
      _ = _ := by rw [← List.append_assoc, h.kept]
  · rw [List.length_append, hlength, h.counted, hf]
    exact (Nat.add_mul _ _ _).symm.trans (congrArg (· * c.frameSize) hframes.symm)
  · have hreplies : (Stream.cycle .input c r.stream (some (.burst clientSize)) a true).replies =
        r.stream.replies ++ [{ (StreamIn.exec c a r.stream.worker (.burst clientSize)).reply with
          state := (StreamIn.exec c a r.stream.worker (.burst clientSize)).worker.mState }] := rfl
    rw [hreplies, List.map_append, List.sum_append, List.length_append, hlength, h.reported]
    simp [hreply]

theorem burst_refused {a : Answers} {w : Worker} {clientSize : ℤ}
    (h : 0 ≤ clientSize → w.mState ∉ [State.idle, .active, .paused, .draining]) :
    Still w (StreamIn.exec c a w (.burst clientSize)) := by
  simp only [StreamIn.exec]
  split
  next hn =>
    rw [if_neg (h hn)]
    exact ⟨rfl, rfl, rfl, rfl⟩
  next => exact ⟨rfl, rfl, rfl, rfl⟩

theorem step_recording (hmmap : c.isMmap = false) {r : Recorder} {e : Event} (h : Recording c r)
    (hhonest : Honest c r e) : Recording c (step c r e) := by
  have hsame : Recording c ⟨r.stream, r.captured ++ []⟩ := h.of_still rfl rfl rfl
  unfold step
  cases e with
  | command command a replied =>
    cases command with
    | none =>
      simp only [Stream.step, handed]
      split
      · exact h.of_still rfl rfl rfl
      · exact hsame
    | some command =>
      cases command with
      | burst clientSize =>
        by_cases htaken : BurstTaken r.stream clientSize
        · obtain ⟨hrun, hn, hs⟩ := htaken
          obtain ⟨count, rfl⟩ := Int.eq_ofNat_of_zero_le hn
          obtain rfl : replied = true := hhonest.2.2.2
          have htaken : BurstTaken r.stream count := ⟨hrun, hn, hs⟩
          simp only [Stream.step, handed, hrun, htaken, if_true, Int.toNat_natCast]
          exact Recording.of_burst hmmap h hs hhonest
        · simp only [Stream.step, handed, htaken, if_false]
          split
          next hrun => exact h.of_exec (burst_refused fun hn hs => htaken ⟨hrun, hn, hs⟩)
          next => exact hsame
      | _ =>
        simp only [Stream.step, handed]
        split
        · exact h.of_exec (StreamIn.exec_still (by simp))
        · exact hsame
  | clientRead count =>
    refine h.of_still ?_ rfl rfl
    simp [Stream.step, List.append_assoc]
  | setClosed =>
    simp only [Stream.step, handed]
    split
    · exact hsame
    · exact h.of_still rfl rfl rfl
  | _ => exact h.of_still rfl rfl rfl

end Recorder

/-- Nothing that the driver of an input hands over is lost, repeated or reordered: it is with the client or
    still in the data queue, silence standing for the bursts of an unconnected stream, and the frames
    counted and the bytes reported are those handed over. -/
theorem input_records_all (c : StreamContext) (hmmap : c.isMmap = false) (es : List Event)
    (hhonest : Run.Meets (Recorder.step c) (Recorder.Honest c) {} es) :
    Recorder.Recording c (Run.run (Recorder.step c) {} es) :=
  Run.inv_of_meets (fun _ _ h he => Recorder.step_recording hmmap h he) es {}
    ⟨rfl, by simp, rfl⟩ hhonest

theorem input_records_all_partly : Recorder.Recording byteStream
    (Run.run (Recorder.step byteStream) {} [.setIsConnected true, .command (some .start) {} true,
      .command (some (.burst 4)) { actualFrameCount := 2, buffer := [7, 8, 0], availableToWrite := 3 } true,
      .clientRead 1]) :=
  input_records_all byteStream rfl _
    ⟨trivial, trivial, ⟨by decide, by decide, fun _ => rfl, rfl⟩, trivial, trivial⟩

end ImxHal.Audio.Streaming
