import ImxHal.Power.HintSession
import Mathlib.Data.List.SplitBy
import Mathlib.Data.List.TakeWhile

/-! @src power/ChannelGroup.cpp | name:Dispatch | family:batches

    The thread of a channel group reads a batch of messages and hands each to its session. A run of
    work durations of one session goes in ONE report: an inner loop collects it and leaves the index
    behind the run, where the outer loop steps on once more:

        message   W₁  W₁  W₁  H₁  T₁             W work duration, H hint, T target
                  └── report ─┘ └ skipped        the next message that is looked at is T₁ -/

namespace ImxHal.Power.Dispatch

/-- The payload of a work duration in a channel. -/
structure WorkDurationFixed where
  durationNanos : ℤ
  cpuDurationNanos : ℤ
  workPeriodStartTimestampNanos : ℤ
  deriving DecidableEq

structure WorkDuration where
  timeStampNanos : ℤ
  durationNanos : ℤ
  cpuDurationNanos : ℤ
  workPeriodStartTimestampNanos : ℤ
  deriving DecidableEq

/-- `ChannelMessageContents`; `other` is any tag that the switch does not know. -/
inductive Contents where
  | hint (hint : SessionHint)
  | targetDuration (targetDurationNanos : ℤ)
  | workDuration (duration : WorkDurationFixed)
  | mode (modeInt : SessionMode) (enabled : Bool)
  | other
  deriving DecidableEq

structure ChannelMessage where
  sessionID : SessionId
  timeStampNanos : ℤ
  data : Contents
  deriving DecidableEq

/-- A call of a session. -/
inductive SessionCall where
  | sendHint (hint : SessionHint)
  | updateTargetWorkDuration (targetDurationNanos : ℤ)
  | reportActualWorkDuration (durations : List WorkDuration)
  | setMode (mode : SessionMode) (enabled : Bool)
  deriving DecidableEq

/-- What the inner loop makes of a message. -/
def ChannelMessage.duration (m : ChannelMessage) : Option WorkDuration :=
  match m.data with
  | .workDuration durationData => some ⟨m.timeStampNanos, durationData.durationNanos,
      durationData.cpuDurationNanos, durationData.workPeriodStartTimestampNanos⟩
  | _ => none

/-- The condition of the inner loop: a work duration of the session of `message`. -/
def inRun (message current : ChannelMessage) : Bool :=
  current.duration.isSome && current.sessionID == message.sessionID

/-- The loop over a batch from `messageIndex` on; `live` tells the sessions that `getSession` finds. -/
def dispatch (live : SessionId → Bool) : List ChannelMessage → List (SessionId × SessionCall)
  | [] => []
  | message :: rest =>
    if live message.sessionID then
      match message.data with
      | .hint hint => (message.sessionID, .sendHint hint) :: dispatch live rest
      | .targetDuration targetDurationNanos =>
        (message.sessionID, .updateTargetWorkDuration targetDurationNanos) :: dispatch live rest
      | .workDuration _ =>
        let run := (message :: rest).takeWhile (inRun message)
        let behind := (message :: rest).dropWhile (inRun message)
        -- `++messageIndex` of the outer loop
        (message.sessionID, .reportActualWorkDuration (run.filterMap (·.duration))) ::
          dispatch live behind.tail
      | .mode modeInt enabled => (message.sessionID, .setMode modeInt enabled) :: dispatch live rest
      | .other => dispatch live rest
    else dispatch live rest
termination_by messages => messages.length
decreasing_by
  all_goals simp_wf
  have hle := (List.dropWhile_sublist (inRun message) (l := message :: rest)).length_le
  simp only [List.length_cons] at hle
  omega

/-! ### What the batch asks for -/

/-- Two messages that belong in one report. -/
def sameRun (m m' : ChannelMessage) : Bool := m.duration.isSome && inRun m m'

/-- The call for a run of messages, or for one message. -/
def deliver (live : SessionId → Bool) : List ChannelMessage → Option (SessionId × SessionCall)
  | [] => none
  | message :: run =>
    if live message.sessionID then
      match message.data with
      | .hint hint => some (message.sessionID, .sendHint hint)
      | .targetDuration targetDurationNanos =>
        some (message.sessionID, .updateTargetWorkDuration targetDurationNanos)
      | .workDuration _ => some (message.sessionID,
          .reportActualWorkDuration ((message :: run).filterMap (·.duration)))
      | .mode modeInt enabled => some (message.sessionID, .setMode modeInt enabled)
      | .other => none
    else none

/-- Every message of a live session in order, each maximal run of work durations of one session in one
    call. -/
def expected (live : SessionId → Bool) (messages : List ChannelMessage) :
    List (SessionId × SessionCall) :=
  (messages.splitBy sameRun).filterMap (deliver live)

/-- A message that calls its session. -/
def delivers (live : SessionId → Bool) (m : ChannelMessage) : Bool := (deliver live [m]).isSome

/-- Behind a work duration of a live session comes another one of it, or a message that calls no
    session. -/
def Harmless (live : SessionId → Bool) (m next : ChannelMessage) : Prop :=
  m.duration.isSome → live m.sessionID → inRun m next ∨ delivers live next = false

instance (live : SessionId → Bool) : DecidableRel (Harmless live) := fun _ _ =>
  inferInstanceAs (Decidable (_ → _ → _))

/-! ### Runs of a list -/

theorem not_head_dropWhile {α : Type} {p : α → Bool} {l : List α} {x : α}
    (hx : x ∈ (l.dropWhile p).head?) : p x = false := by
  have h := List.head?_dropWhile_not p l
  rw [Option.mem_def.mp hx] at h
  exact h

theorem isChain_of_related {α : Type} {R : α → α → Prop} {l : List α}
    (h : ∀ x ∈ l, ∀ y ∈ l, R x y) : l.IsChain R := by
  refine (List.pairwise_iff_forall_sublist.mpr fun {x y} hsub => ?_).isChain
  exact h x (hsub.subset (by simp)) y (hsub.subset (by simp))

/-- The first run of a list, for a relation that only looks at the class of what it relates. -/
theorem splitBy_cons_eq {α : Type} {r : α → α → Bool} (hr : ∀ a b c, r a b → r b c = r a c) (a : α)
    (l : List α) :
    (a :: l).splitBy r = (a :: l.takeWhile (r a)) :: (l.dropWhile (r a)).splitBy r := by
  have hclass : ∀ x ∈ l.takeWhile (r a), r a x := fun x hx => List.mem_takeWhile_imp hx
  have hchain : (a :: l.takeWhile (r a)).IsChain fun x y => r x y := by
    refine List.isChain_cons.mpr ⟨fun x hx => hclass x (List.mem_of_mem_head? hx), ?_⟩
    refine isChain_of_related fun x hx y hy => ?_
    rw [hr a x y (hclass x hx)]
    exact hclass y hy
  have hlast : ∀ x ∈ (a :: l.takeWhile (r a)).getLast?, ∀ y ∈ (l.dropWhile (r a)).head?,
      r x y = false := by
    intro x hx y hy
    rcases List.mem_cons.mp (List.mem_of_mem_getLast? hx) with rfl | hx
    · exact not_head_dropWhile hy
    · rw [hr a x y (hclass x hx)]
      exact not_head_dropWhile hy
  calc (a :: l).splitBy r
      = (a :: l.takeWhile (r a) ++ l.dropWhile (r a)).splitBy r := by
        rw [List.cons_append, List.takeWhile_append_dropWhile]
    _ = _ := by
        rw [List.splitBy_append hlast, List.splitBy_of_isChain (List.cons_ne_nil _ _) hchain]
        rfl

/-! ### One message, or one run -/

section Steps

variable {live : SessionId → Bool} {m : ChannelMessage} {rest : List ChannelMessage}

theorem sameRun_class (a b c : ChannelMessage) (h : sameRun a b) : sameRun b c = sameRun a c := by
  simp only [sameRun, inRun, Bool.and_eq_true, beq_iff_eq] at h
  obtain ⟨ha, hb, hid⟩ := h
  simp [sameRun, inRun, ha, hb, hid]

theorem sameRun_of_work (hm : m.duration.isSome) : sameRun m = inRun m := by
  funext next
  simp [sameRun, hm]

theorem inRun_self (hm : m.duration.isSome) : inRun m m = true := by
  simp [inRun, hm]

/-- A run holds work durations of one session. -/
theorem mem_run (hm : m.duration.isSome) {x : ChannelMessage}
    (hx : x ∈ m :: rest.takeWhile (inRun m)) :
    inRun m x ∧ x.duration.isSome ∧ x.sessionID = m.sessionID := by
  have hin : inRun m x := by
    rcases List.mem_cons.mp hx with rfl | hx
    · exact inRun_self hm
    · exact List.mem_takeWhile_imp hx
  have hboth := hin
  simp only [inRun, Bool.and_eq_true, beq_iff_eq] at hboth
  exact ⟨hin, hboth⟩

theorem duration_isSome_iff : m.duration.isSome ↔ ∃ d, m.data = .workDuration d := by
  unfold ChannelMessage.duration
  cases m.data <;> simp

/-- A message that begins no run of a live session. -/
def Alone (live : SessionId → Bool) (m : ChannelMessage) : Prop :=
  m.duration = none ∨ live m.sessionID = false

theorem deliver_dead (hdead : live m.sessionID = false) (run : List ChannelMessage) :
    deliver live (m :: run) = none := by
  simp [deliver, hdead]

theorem deliver_run (hm : m.duration.isSome) (hlive : live m.sessionID)
    (run : List ChannelMessage) :
    deliver live (m :: run) =
      some (m.sessionID, .reportActualWorkDuration ((m :: run).filterMap (·.duration))) := by
  obtain ⟨d, hd⟩ := duration_isSome_iff.mp hm
  simp only [deliver, hlive, hd, if_true]

theorem alone_of_not_delivers (h : delivers live m = false) : Alone live m := by
  cases hlive : live m.sessionID with
  | false => exact .inr hlive
  | true =>
    refine .inl (Option.not_isSome_iff_eq_none.mp fun hm => ?_)
    simp [delivers, deliver_run hm hlive] at h

theorem dispatch_alone (h : Alone live m) :
    dispatch live (m :: rest) = (deliver live [m]).toList ++ dispatch live rest := by
  rw [dispatch]
  cases hlive : live m.sessionID with
  | false => simp [deliver_dead hlive]
  | true =>
    have hnone : m.duration = none := h.resolve_right (by simp [hlive])
    cases hdata : m.data with
    | workDuration d => simp [ChannelMessage.duration, hdata] at hnone
    | _ => simp [deliver, hlive, hdata]

theorem dispatch_run (hm : m.duration.isSome) (hlive : live m.sessionID) :
    dispatch live (m :: rest) =
      (m.sessionID, .reportActualWorkDuration
        ((m :: rest.takeWhile (inRun m)).filterMap (·.duration))) ::
      dispatch live (rest.dropWhile (inRun m)).tail := by
  obtain ⟨d, hd⟩ := duration_isSome_iff.mp hm
  rw [dispatch, if_pos hlive, hd]
  simp only [List.takeWhile_cons_of_pos (inRun_self hm), List.dropWhile_cons_of_pos (inRun_self hm)]

/-- The rest of a run of a dead session asks for nothing. -/
theorem expected_dropWhile (hdead : live m.sessionID = false) (messages : List ChannelMessage) :
    expected live (messages.dropWhile (sameRun m)) = expected live messages := by
  cases messages with
  | nil => rfl
  | cons x messages =>
    cases hx : sameRun m x with
    | false => rw [List.dropWhile_cons_of_neg (by simp [hx])]
    | true =>
      have hid : x.sessionID = m.sessionID := by
        simp only [sameRun, inRun, Bool.and_eq_true, beq_iff_eq] at hx
        exact hx.2.2
      have hclass : sameRun x = sameRun m := funext fun c => sameRun_class m x c hx
      have hxdead : live x.sessionID = false := by rw [hid, hdead]
      have hnone := deliver_dead hxdead (messages.takeWhile (sameRun x))
      unfold expected
      rw [splitBy_cons_eq sameRun_class, List.filterMap_cons, hnone, hclass,
        List.dropWhile_cons_of_pos hx]

theorem expected_alone (h : Alone live m) :
    expected live (m :: rest) = (deliver live [m]).toList ++ expected live rest := by
  cases hm : m.duration with
  | none =>
    have hnever : sameRun m = fun _ => false := funext fun next => by simp [sameRun, hm]
    unfold expected
    rw [splitBy_cons_eq sameRun_class, hnever, List.filterMap_cons]
    have hstop : rest.dropWhile (fun _ => false) = rest ∧ rest.takeWhile (fun _ => false) = [] := by
      cases rest with
      | nil => exact ⟨rfl, rfl⟩
      | cons x rest => exact ⟨rfl, rfl⟩
    rw [hstop.1, hstop.2]
    cases deliver live [m] <;> rfl
  | some d =>
    have hdead : live m.sessionID = false := h.resolve_left (by simp [hm])
    rw [← expected_dropWhile hdead rest, deliver_dead hdead]
    unfold expected
    rw [splitBy_cons_eq sameRun_class, List.filterMap_cons, deliver_dead hdead]
    rfl

theorem expected_run (hm : m.duration.isSome) (hlive : live m.sessionID) :
    expected live (m :: rest) =
      (m.sessionID, .reportActualWorkDuration
        ((m :: rest.takeWhile (inRun m)).filterMap (·.duration))) ::
      expected live (rest.dropWhile (inRun m)) := by
  rw [expected, splitBy_cons_eq sameRun_class, sameRun_of_work hm, List.filterMap_cons,
    deliver_run hm hlive]
  rfl

/-- Behind the run comes nothing that calls a session, and the rest is harmless. -/
theorem harmless_run (hm : m.duration.isSome) (hlive : live m.sessionID) :
    (m :: rest).IsChain (Harmless live) ↔
      (∀ next ∈ (rest.dropWhile (inRun m)).head?, delivers live next = false) ∧
        (rest.dropWhile (inRun m)).IsChain (Harmless live) := by
  have hclass : ∀ x ∈ m :: rest.takeWhile (inRun m),
      x.duration.isSome ∧ live x.sessionID ∧ inRun x = inRun m := by
    intro x hx
    obtain ⟨-, hwork, hid⟩ := mem_run hm hx
    exact ⟨hwork, by rw [hid, hlive], funext fun next => by simp [inRun, hid]⟩
  have hrun : (m :: rest.takeWhile (inRun m)).IsChain (Harmless live) := by
    refine isChain_of_related fun x hx y hy _ _ => ?_
    rw [(hclass x hx).2.2]
    exact .inl (mem_run hm hy).1
  have hsplit : m :: rest = (m :: rest.takeWhile (inRun m)) ++ rest.dropWhile (inRun m) := by
    rw [List.cons_append, List.takeWhile_append_dropWhile]
  rw [hsplit, List.isChain_append, and_iff_right hrun, and_comm]
  refine and_congr_left fun _ => ⟨fun h next hnext => ?_, fun h x hx next hnext _ _ => ?_⟩
  · have hlast := List.getLast?_eq_some_getLast (List.cons_ne_nil m (rest.takeWhile (inRun m)))
    obtain ⟨hwork, hlast_live, hsame⟩ := hclass _ (List.mem_of_mem_getLast? hlast)
    have hnot : ¬inRun m next := by simp [not_head_dropWhile hnext]
    exact (h _ hlast next hnext hwork hlast_live).resolve_left (by rwa [hsame])
  · exact .inr (h next hnext)

theorem harmless_alone (h : Alone live m) :
    (m :: rest).IsChain (Harmless live) ↔ rest.IsChain (Harmless live) := by
  rw [List.isChain_cons, and_iff_right]
  intro next _ hm hlive
  rcases h with hnone | hdead
  · simp [hnone] at hm
  · simp [hdead] at hlive

end Steps

/-- Induction along the batch: a message by itself, or a run of a live session, behind which the next
    message may or may not be looked at. -/
theorem batch_induction (live : SessionId → Bool) {P : List ChannelMessage → Prop} (nil : P [])
    (alone : ∀ m rest, Alone live m → P rest → P (m :: rest))
    (run : ∀ m rest, m.duration.isSome → live m.sessionID → P (rest.dropWhile (inRun m)) →
      P (rest.dropWhile (inRun m)).tail → P (m :: rest)) (messages : List ChannelMessage) :
    P messages := by
  induction hlen : messages.length using Nat.strong_induction_on generalizing messages with
  | _ n ih =>
    cases messages with
    | nil => exact nil
    | cons m rest =>
      rw [List.length_cons] at hlen
      by_cases h : Alone live m
      · exact alone m rest h (ih rest.length (by omega) rest rfl)
      · obtain ⟨hm, hlive⟩ := not_or.mp h
        have hle := (List.dropWhile_sublist (inRun m) (l := rest)).length_le
        have hbehind := ih _ (by omega) (rest.dropWhile (inRun m)) rfl
        have htail := ih _ (by rw [List.length_tail]; omega) (rest.dropWhile (inRun m)).tail rfl
        exact run m rest (Option.ne_none_iff_isSome.mp hm) (by simpa using hlive) hbehind htail

/-! ### How many messages are delivered -/

/-- The messages a call delivers. -/
def SessionCall.weight : SessionCall → ℕ
  | .reportActualWorkDuration durations => durations.length
  | _ => 1

def delivered (calls : List (SessionId × SessionCall)) : ℕ := (calls.map (·.2.weight)).sum

section Count

variable {live : SessionId → Bool} {m : ChannelMessage} {rest : List ChannelMessage}

theorem delivered_append (calls calls' : List (SessionId × SessionCall)) :
    delivered (calls ++ calls') = delivered calls + delivered calls' := by
  simp [delivered]

theorem delivered_alone (live : SessionId → Bool) (m : ChannelMessage) :
    delivered (deliver live [m]).toList = if delivers live m then 1 else 0 := by
  unfold delivers deliver
  cases hlive : live m.sessionID with
  | false => simp [delivered, hlive]
  | true =>
    cases hdata : m.data <;>
      simp [delivered, SessionCall.weight, ChannelMessage.duration, hdata, hlive]

/-- The report of a run delivers the run. -/
theorem weight_run (hm : m.duration.isSome) (hlive : live m.sessionID) :
    ((m :: rest.takeWhile (inRun m)).filterMap (·.duration)).length =
      (m :: rest.takeWhile (inRun m)).countP (delivers live) := by
  rw [List.length_filterMap_eq_countP]
  refine List.countP_congr fun x hx => ?_
  obtain ⟨-, hwork, hid⟩ := mem_run hm hx
  have hlive' : live x.sessionID := by rw [hid, hlive]
  simp [delivers, deliver_run hwork hlive', hwork]

theorem countP_run (live : SessionId → Bool) (m : ChannelMessage) (rest : List ChannelMessage) :
    (m :: rest).countP (delivers live) =
      (m :: rest.takeWhile (inRun m)).countP (delivers live) +
        (rest.dropWhile (inRun m)).countP (delivers live) := by
  rw [← List.countP_append, List.cons_append, List.takeWhile_append_dropWhile]

theorem delivered_expected (live : SessionId → Bool) (messages : List ChannelMessage) :
    delivered (expected live messages) = messages.countP (delivers live) := by
  induction messages using batch_induction live with
  | nil => rfl
  | alone m rest h ih =>
    rw [expected_alone h, delivered_append, delivered_alone, ih, List.countP_cons, Nat.add_comm]
  | run m rest hm hlive ih _ =>
    rw [expected_run hm hlive, countP_run, ← weight_run hm hlive, ← ih]
    rfl

theorem delivered_le (live : SessionId → Bool) (messages : List ChannelMessage) :
    delivered (dispatch live messages) ≤ messages.countP (delivers live) := by
  induction messages using batch_induction live with
  | nil => simp [dispatch, delivered]
  | alone m rest h ih =>
    rw [dispatch_alone h, delivered_append, delivered_alone, List.countP_cons, Nat.add_comm]
    exact Nat.add_le_add_right ih _
  | run m rest hm hlive _ ih =>
    rw [dispatch_run hm hlive, countP_run, ← weight_run hm hlive]
    have hskip := (List.tail_sublist (rest.dropWhile (inRun m))).countP_le (p := delivers live)
    exact Nat.add_le_add_left (ih.trans hskip) _

/-- Only a message that calls no session may be stepped over. -/
theorem harmless_of_delivered (live : SessionId → Bool) (messages : List ChannelMessage)
    (h : delivered (dispatch live messages) = messages.countP (delivers live)) :
    messages.IsChain (Harmless live) := by
  induction messages using batch_induction live with
  | nil => exact .nil
  | alone m rest halone ih =>
    rw [dispatch_alone halone, delivered_append, delivered_alone, List.countP_cons] at h
    exact (harmless_alone halone).mpr (ih (by omega))
  | run m rest hm hlive _ ih =>
    have hweight : delivered (dispatch live (m :: rest)) =
        (m :: rest.takeWhile (inRun m)).countP (delivers live) +
          delivered (dispatch live (rest.dropWhile (inRun m)).tail) := by
      rw [dispatch_run hm hlive, ← weight_run hm hlive]
      rfl
    rw [hweight, countP_run live m rest, Nat.add_left_cancel_iff] at h
    have hle := delivered_le live (rest.dropWhile (inRun m)).tail
    rw [harmless_run hm hlive]
    cases hbehind : rest.dropWhile (inRun m) with
    | nil => simp
    | cons next after =>
      rw [hbehind, List.countP_cons, List.tail_cons] at h
      rw [hbehind, List.tail_cons] at hle ih
      have hnone : delivers live next = false := by
        by_contra hsome
        simp only [Bool.not_eq_false] at hsome
        rw [if_pos hsome] at h
        omega
      rw [if_neg (by simp [hnone])] at h
      refine ⟨fun x hx => ?_, (harmless_alone (alone_of_not_delivers hnone)).mpr (ih h)⟩
      rw [List.head?_cons, Option.mem_some_iff] at hx
      rw [← hx, hnone]

end Count

theorem dispatch_of_harmless (live : SessionId → Bool) (messages : List ChannelMessage)
    (h : messages.IsChain (Harmless live)) : dispatch live messages = expected live messages := by
  induction messages using batch_induction live with
  | nil => simp [dispatch, expected]
  | alone m rest halone ih =>
    rw [dispatch_alone halone, expected_alone halone, ih ((harmless_alone halone).mp h)]
  | run m rest hm hlive _ ih =>
    obtain ⟨hnext, hbehind⟩ := (harmless_run hm hlive).mp h
    rw [dispatch_run hm hlive, expected_run hm hlive]
    cases hafter : rest.dropWhile (inRun m) with
    | nil => simp [dispatch, expected]
    | cons next after =>
      rw [hafter] at hnext hbehind ih
      have hnone := hnext next rfl
      have halone := alone_of_not_delivers hnone
      have hgone : deliver live [next] = none := by simpa [delivers] using hnone
      have hrest : dispatch live after = expected live after := ih ((harmless_alone halone).mp hbehind)
      rw [List.tail_cons, hrest, expected_alone halone, hgone]
      rfl

/-- BUG: the message behind a run of work durations is stepped over. Every message of a live session is
    delivered, in order and each run in one call, if and only if behind a work duration of a live
    session comes another one of it or a message that calls no session. -/
theorem dispatch_complete_iff (live : SessionId → Bool) (messages : List ChannelMessage) :
    dispatch live messages = expected live messages ↔ messages.IsChain (Harmless live) :=
  ⟨fun h => harmless_of_delivered live messages (by rw [h, delivered_expected]),
    dispatch_of_harmless live messages⟩

/-- One work duration, and behind it a hint to the same session, which gets lost. -/
theorem hint_behind_work_lost :
    ¬∀ (live : SessionId → Bool) (messages : List ChannelMessage),
      (∀ m ∈ messages, m.data ≠ .other) → dispatch live messages = expected live messages := by
  intro h
  have hlost := harmless_of_delivered (fun _ => true)
    [⟨1, 10, .workDuration ⟨5, 5, 5⟩⟩, ⟨1, 20, .hint .CPU_LOAD_UP⟩]
    (by rw [h _ _ (by decide), delivered_expected])
  exact absurd hlost (by decide)

end ImxHal.Power.Dispatch
