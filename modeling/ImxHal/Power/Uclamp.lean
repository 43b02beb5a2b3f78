import ImxHal.Power.SessionManager

/-! @src power/PowerSessionManager.cpp, power/SessionTaskMap.cpp | name:Uclamp | scheme:run |
    family:derived state

    The range the kernel holds for a thread is derived from the values of the sessions it is linked
    to, in the order of its task side:

        voters t = [sv₁, sv₂, …] ──getTaskVoteRange──▶ range ──set_uclamp──▶ lastUclamp t

    A call that changes a session changes the voters of its threads. `voteSet` and
    `setPreferPowerEfficiency` end in `applyUclampLocked`, which pushes the new ranges; the other
    calls end in `updateUniversalBoostMode` or in nothing, and push NO range. -/

namespace ImxHal.Power
open ImxHal.Run ImxHal.Links

/-- The values of the sessions of a thread, in the order of its references. -/
def SessionTaskMap.voters (m : SessionTaskMap) (t : Pid) : List SessionValueEntry :=
  (refs m.mTasks t).map m.heap

/-- The range a list of session values comes to. -/
def voteRange (eff : Efficiency) (time : Time) (values : List SessionValueEntry) : UclampRange :=
  values.foldl (fun range sv => sv.confine eff time range) {}

theorem getTaskVoteRange_eq (m : SessionTaskMap) (eff : Efficiency) (t : Pid) (time : Time) :
    m.getTaskVoteRange eff t time = voteRange eff time (m.voters t) := by
  rw [SessionTaskMap.getTaskVoteRange, voteRange, SessionTaskMap.voters, List.foldl_map]

/-- The voters of a thread without one session, and with the value of one session changed. -/
def SessionTaskMap.others (m : SessionTaskMap) (s : SessionId) (t : Pid) : List SessionValueEntry :=
  (m.voters t).filter (·.sessionId ≠ s)

def SessionTaskMap.votersWith (m : SessionTaskMap) (s : SessionId)
    (f : SessionValueEntry → SessionValueEntry) (t : Pid) : List SessionValueEntry :=
  (m.voters t).map fun sv => if sv.sessionId = s then f sv else sv

/-! ### The law -/

/-- What of a session the ranges depend on. -/
def watched (value : Option (SessionValueEntry × List Pid)) :
    Option (Bool × Bool × Votes × List Pid) :=
  value.map fun value => (value.1.isActive, value.1.isPowerEfficient, value.1.votes, value.2)

/-- The call has changed the flags, the votes or the threads of the session. -/
def Changed (m m' : Manager) (s : SessionId) : Prop :=
  watched (m'.map.session s) ≠ watched (m.map.session s)

/-- The moment of a call: `voteSet` is given it, the others read the clock. -/
def Call.moment (env : Env) : Call → Time
  | .voteSet _ _ _ _ startTime _ => startTime
  | _ => env.now

/-- The one call that by its own comment leaves the ranges as they are. -/
def Call.exempt : Call → Prop
  | .updateTargetWorkDuration _ _ _ => True
  | _ => False

/-- After a call, every live thread that is or was linked to a session it changed was last given the
    range that the sessions of the thread vote for. -/
def Follows (profile : AdpfProfile) (m : Manager) (a : Env × Call) (m' : Manager) : Prop :=
  ¬a.2.exempt → ∀ s, Changed m m' s → ∀ t, a.1.dead t = false →
    t ∈ m.map.getTaskIds s ∨ t ∈ m'.map.getTaskIds s →
      m'.lastUclamp t =
        set_uclamp (m'.map.getTaskVoteRange profile.efficiency t (a.2.moment a.1))

/-- Each live thread of the list has the range of the given values already. -/
def Has (profile : AdpfProfile) (m : Manager) (env : Env) (tids : List Pid)
    (values : Pid → List SessionValueEntry) : Prop :=
  ∀ t ∈ tids, env.dead t = false →
    m.lastUclamp t = set_uclamp (voteRange profile.efficiency env.now (values t))

/-- The threads of a session are replaced: its old and its new threads have the range of their other
    sessions and, for the new ones, of this one. -/
def HarmlessThreads (profile : AdpfProfile) (m : Manager) (env : Env) (s : SessionId)
    (new : List Pid) : Prop :=
  ∀ sv old, m.map.session s = some (sv, old) → ¬(sv.isActive ∧ old = new) →
    Has profile m env (old ++ new) fun t =>
      m.map.others s t ++ List.replicate (new.count t) { sv with isActive := true }

/-- A call that pushes nothing finds nothing to change, or the live threads of the session with the
    range that the change leaves them: that of the other sessions (pause and removal), that with
    the session (resume and replaced threads), that without the votes turned off, or, for a session
    that is new, that of the sessions they have. -/
def Harmless (profile : AdpfProfile) (m : Manager) : Env × Call → Prop
  | (env, .addPowerSession desc new _) =>
    (m.map.session desc.sessionId = none → Has profile m env new m.map.voters) ∧
      HarmlessThreads profile m env desc.sessionId new
  | (env, .setThreadsFromPowerSession s new _) => HarmlessThreads profile m env s new
  | (env, .removePowerSession s _) => ∀ sv tids, m.map.session s = some (sv, tids) →
      Has profile m env tids (m.map.others s)
  | (env, .pause s) => ∀ sv tids, m.map.session s = some (sv, tids) → sv.isActive →
      Has profile m env tids (m.map.others s)
  | (env, .resume s) => ∀ sv tids, m.map.session s = some (sv, tids) → ¬sv.isActive →
      Has profile m env tids (m.map.votersWith s fun sv => { sv with isActive := true })
  | (env, .disableBoosts s) => ∀ sv tids, m.map.session s = some (sv, tids) →
      (∃ v ∈ boostVotes, sv.votes.voteIsActive v) →
        Has profile m env tids (m.map.votersWith s fun sv => { sv with
          votes := boostVotes.foldl (fun votes vid => votes.setUseVote vid false) sv.votes })
  | (env, .handleEvent e) => ∀ sv tids, m.map.session e.sessionId = some (sv, tids) →
      sv.votes.voteIsActive e.voteId ∧ sv.votes.voteTimeout e.voteId ≤ env.now →
        Has profile m env tids (m.map.votersWith e.sessionId fun sv => { sv with
          votes := sv.votes.setUseVote e.voteId false })
  | (_, .voteSet _ _ _ _ _ _) | (_, .setPreferPowerEfficiency _ _)
  | (_, .updateTargetWorkDuration _ _ _) => True

/-! ### The voters of a thread after each operation of the map -/

section Voters

variable {m : SessionTaskMap} {s : SessionId} {t : Pid} {ptr : Ptr}

/-- The entry a thread refers to names the session it is the entry of. -/
theorem voter_iff (h : Inv m) {entry : ValEntry} (hs : m.mSessions s = some entry)
    (hmem : ptr ∈ refs m.mTasks t) : (m.heap ptr).sessionId = s ↔ ptr = entry.val := by
  obtain ⟨s', entry', hs', rfl⟩ := h.current t ptr hmem
  rw [h.named s' entry' hs']
  constructor
  · rintro rfl
    rw [hs] at hs'
    cases hs'
    rfl
  · exact h.distinct s' s entry' entry hs' hs

theorem not_voter (h : Inv m) (hs : m.mSessions s = none) (hmem : ptr ∈ refs m.mTasks t) :
    (m.heap ptr).sessionId ≠ s := by
  obtain ⟨s', entry', hs', rfl⟩ := h.current t ptr hmem
  rw [h.named s' entry' hs']
  rintro rfl
  rw [hs] at hs'
  cases hs'

theorem voters_modify (h : Inv m) (s : SessionId) (t : Pid)
    (f : SessionValueEntry → SessionValueEntry) :
    (m.modify s f).voters t = m.votersWith s f t := by
  unfold SessionTaskMap.modify SessionTaskMap.votersWith SessionTaskMap.voters
  rw [List.map_map]
  cases hs : m.mSessions s with
  | none =>
    refine List.map_congr_left fun ptr hmem => ?_
    simp [not_voter h hs hmem]
  | some entry =>
    refine List.map_congr_left fun ptr hmem => ?_
    by_cases hptr : ptr = entry.val
    · subst hptr
      simp [(voter_iff h hs hmem).mpr rfl]
    · have hid := mt (voter_iff h hs hmem).mp hptr
      simp [hid, hptr]

/-- The session leaves the voters of every thread. -/
theorem voters_remove (h : Inv m) (s : SessionId) (t : Pid) :
    (m.remove s).voters t = m.others s t := by
  unfold SessionTaskMap.remove SessionTaskMap.others SessionTaskMap.voters
  rw [List.filter_map]
  cases hs : m.mSessions s with
  | none =>
    rw [List.filter_eq_self.mpr]
    intro ptr hmem
    simpa using not_voter h hs hmem
  | some entry =>
    dsimp only
    rw [refs_unlink_all _ _ _ _ (h.counted s entry hs t).le]
    refine congrArg _ (List.filter_congr fun ptr hmem => ?_)
    simp [voter_iff h hs hmem]

/-- A new session is the last voter of its threads, once for each link. -/
theorem voters_add (h : Inv m) (hs : m.mSessions s = none) (sv : SessionValueEntry)
    (tids : List Pid) (t : Pid) : (m.add s sv tids).voters t =
      m.voters t ++ List.replicate (tids.count t) { sv with sessionId := s } := by
  unfold SessionTaskMap.voters
  simp only [SessionTaskMap.add, hs]
  rw [refs_link_all, List.map_append, List.map_replicate, Function.update_self]
  refine congrArg (· ++ _) (List.map_congr_left fun ptr hmem => ?_)
  refine Function.update_of_ne ?_ _ _
  rintro rfl
  exact List.count_eq_zero.mp (count_next h t) hmem

theorem voters_replace (h : Inv m) {sv : SessionValueEntry} {old : List Pid}
    (hs : m.session s = some (sv, old)) (tids : List Pid) (t : Pid) :
    (m.replace s tids).voters t = m.others s t ++ List.replicate (tids.count t) sv := by
  have hid := session_sessionId h hs
  obtain ⟨entry, he, hvalue⟩ := Option.map_eq_some_iff.mp hs
  cases hvalue
  have hgone : (m.remove s).mSessions s = none := by simp [SessionTaskMap.remove, he]
  simp only [SessionTaskMap.replace, he]
  rw [voters_add (inv_remove h s) hgone, voters_remove h]
  rw [show { m.heap entry.val with sessionId := s } = m.heap entry.val by rw [← hid]]

/-- Pruning a thread concerns that thread only. -/
theorem voters_prune {sv : SessionValueEntry} {tids : List Pid} {pos : ℕ} {tid : Pid}
    (hs : m.session s = some (sv, tids)) (hpos : tids[pos]? = some tid) (ht : t ≠ tid) :
    (m.prune s pos).voters t = m.voters t := by
  obtain ⟨entry, he, hvalue⟩ := Option.map_eq_some_iff.mp hs
  cases hvalue
  rw [prune_eq he hpos]
  simp [SessionTaskMap.voters, refs_unlink, ht]

end Voters

/-! ### What is pushed -/

section Push

variable (profile : AdpfProfile) (dead : Pid → Bool) {m : Manager} {s : SessionId} {t : Pid}

/-- The loop leaves the voters of a live thread alone, and gives it their range if it meets it. -/
theorem applyLoop_live (time : Time) (ht : dead t = false) (tids seen : List Pid) (m : Manager)
    {sv : SessionValueEntry} (hs : m.map.session s = some (sv, seen ++ tids)) :
    (m.applyLoop profile dead s time tids seen.length).map.voters t = m.map.voters t ∧
    (m.applyLoop profile dead s time tids seen.length).lastUclamp t =
      if t ∈ tids then set_uclamp (voteRange profile.efficiency time (m.map.voters t))
      else m.lastUclamp t := by
  induction tids generalizing seen m with
  | nil => exact ⟨rfl, rfl⟩
  | cons tid tids ih =>
    rw [Manager.applyLoop]
    cases hd : dead tid with
    | true =>
      have hne : t ≠ tid := by
        rintro rfl
        rw [ht] at hd
        cases hd
      have hpruned : (m.map.prune s seen.length).session s = some (sv, seen ++ tids) := by
        rw [session_prune, if_pos rfl, hs]
        simp [List.eraseIdx_append_of_length_le]
      obtain ⟨hvoters, hlast⟩ := ih seen { m with map := m.map.prune s seen.length } hpruned
      have hkeep : (m.map.prune s seen.length).voters t = m.map.voters t :=
        voters_prune hs (by simp) hne
      rw [if_pos rfl, hvoters, hlast, hkeep]
      exact ⟨rfl, by simp [hne]⟩
    | false =>
      have hseen : seen ++ tid :: tids = (seen ++ [tid]) ++ tids := by simp
      have hlen : seen.length + 1 = (seen ++ [tid]).length := by simp
      rw [hseen] at hs
      obtain ⟨hvoters, hlast⟩ := ih (seen ++ [tid]) (m.push profile time tid) hs
      rw [if_neg (by simp), hlen, hvoters, hlast]
      refine ⟨rfl, ?_⟩
      by_cases hmem : t ∈ tids
      · rw [if_pos hmem, if_pos (List.mem_cons_of_mem tid hmem)]
        rfl
      · rw [if_neg hmem]
        by_cases hsame : t = tid
        · subst hsame
          rw [if_pos List.mem_cons_self]
          simp [Manager.push, getTaskVoteRange_eq]
        · rw [if_neg (by simp [hsame, hmem])]
          simp [Manager.push, hsame]

/-- The time of the last update is not part of a vote. -/
theorem voteRange_votersWith (m : SessionTaskMap) (eff : Efficiency) (time : Time)
    {f : SessionValueEntry → SessionValueEntry}
    (hf : ∀ sv range, (f sv).confine eff time range = sv.confine eff time range) :
    voteRange eff time (m.votersWith s f t) = voteRange eff time (m.voters t) := by
  unfold voteRange SessionTaskMap.votersWith
  rw [List.foldl_map]
  refine List.foldl_ext _ _ _ fun range sv _ => ?_
  split
  · exact hf sv range
  · rfl

/-- `applyUclampLocked` pushes to every live thread of the session the range it votes for then. -/
theorem pushed_applyUclampLocked (hon : profile.mUclampMinOn = true) (h : Inv m.map)
    {sv : SessionValueEntry} {tids : List Pid} (hs : m.map.session s = some (sv, tids)) (time : Time)
    (ht : dead t = false) (hmem : t ∈ tids) :
    (m.applyUclampLocked profile dead s time).lastUclamp t = set_uclamp
      ((m.applyUclampLocked profile dead s time).map.getTaskVoteRange profile.efficiency t time) := by
  have hids : m.map.getTaskIds s = tids := by rw [getTaskIds_eq, hs]; rfl
  obtain ⟨hvoters, hlast⟩ := applyLoop_live profile dead time ht tids [] m hs
  have hinv := inv_applyLoop profile dead s time tids 0 m h
  unfold Manager.applyUclampLocked Manager.applyThreads
  rw [if_pos hon, hids, getTaskVoteRange_eq]
  dsimp only
  rw [voters_modify hinv, voteRange_votersWith _ _ _
    (f := fun sv => { sv with lastUpdatedTime := time }) fun _ _ => rfl]
  rw [List.length_nil] at hvoters hlast
  rw [hvoters, hlast, if_pos hmem]

end Push

/-! ### Calls that push nothing -/

section Quiet

variable {profile : AdpfProfile} {m m' : Manager} {env : Env} {c : Call} {s : SessionId}

/-- A quiet call on one session: the ranges pushed before are to be those of the voters after. -/
theorem follows_iff (hc : ¬c.exempt) (hmoment : c.moment env = env.now)
    (hlast : m'.lastUclamp = m.lastUclamp)
    (hother : ∀ s', s' ≠ s → m'.map.session s' = m.map.session s') :
    Follows profile m (env, c) m' ↔ (Changed m m' s →
      Has profile m env (m.map.getTaskIds s ++ m'.map.getTaskIds s) m'.map.voters) := by
  constructor
  · intro hfollows hchanged t hmem ht
    have hpushed := hfollows hc s hchanged t ht (List.mem_append.mp hmem)
    rwa [hlast, getTaskVoteRange_eq, hmoment] at hpushed
  · intro hhas _ s' hchanged t ht hmem
    by_cases hsame : s' = s
    · subst hsame
      rw [hlast, getTaskVoteRange_eq, hmoment]
      exact hhas hchanged t (List.mem_append.mpr hmem) ht
    · exact absurd (congrArg watched (hother s' hsame)) hchanged

/-- A quiet call that changes the value of a session and not its threads. -/
theorem follows_modify_iff {f : SessionValueEntry → SessionValueEntry}
    (found : SessionValueEntry → Prop) {values : Pid → List SessionValueEntry} (hc : ¬c.exempt)
    (hmoment : c.moment env = env.now) (hlast : m'.lastUclamp = m.lastUclamp)
    (hmap : ∀ s', m'.map.session s' =
      if s' = s then (m.map.session s).map (Prod.map f id) else m.map.session s')
    (hfound : ∀ sv, found sv ↔ ¬((f sv).isActive = sv.isActive ∧
      (f sv).isPowerEfficient = sv.isPowerEfficient ∧ (f sv).votes = sv.votes))
    (hrange : ∀ sv tids, m.map.session s = some (sv, tids) → found sv → ∀ t,
      voteRange profile.efficiency env.now (m'.map.voters t) =
        voteRange profile.efficiency env.now (values t)) :
    Follows profile m (env, c) m' ↔ ∀ sv tids, m.map.session s = some (sv, tids) → found sv →
      Has profile m env tids values := by
  rw [follows_iff hc hmoment hlast fun s' hne => by rw [hmap, if_neg hne]]
  have hself := hmap s
  rw [if_pos rfl] at hself
  cases hs : m.map.session s with
  | none =>
    rw [hs] at hself
    refine iff_of_true (fun hchanged => ?_) fun sv tids hno => by cases hno
    rw [Changed, hself, hs] at hchanged
    exact absurd rfl hchanged
  | some value =>
    obtain ⟨sv, tids⟩ := value
    rw [hs] at hself
    have hchanged : Changed m m' s ↔ found sv := by
      rw [Changed, hself, hs, hfound]
      simp [watched]
    have hids : m.map.getTaskIds s ++ m'.map.getTaskIds s = tids ++ tids := by
      rw [getTaskIds_eq, getTaskIds_eq, hself, hs]
      rfl
    rw [hchanged, hids]
    constructor
    · intro hhas sv' tids' hvalue hf t hmem ht
      cases hvalue
      rw [← hrange sv tids hs hf t]
      exact hhas hf t (List.mem_append_left _ hmem) ht
    · intro hhas hf t hmem ht
      rw [hrange sv tids hs hf t]
      exact hhas sv tids rfl hf t ((List.mem_append.mp hmem).elim id id) ht

/-- An inactive session votes for nothing. -/
theorem voteRange_inactive (m : SessionTaskMap) (eff : Efficiency) (time : Time) (s : SessionId)
    (t : Pid) : voteRange eff time (m.votersWith s (fun sv => { sv with isActive := false }) t) =
      voteRange eff time (m.others s t) := by
  unfold voteRange SessionTaskMap.votersWith SessionTaskMap.others
  rw [List.foldl_map, List.foldl_filter]
  refine List.foldl_ext _ _ _ fun range sv _ => ?_
  by_cases hid : sv.sessionId = s
  · simp [hid, SessionValueEntry.confine]
  · simp [hid]

theorem follows_pause (hi : Inv m.map) :
    Follows profile m (env, .pause s) (m.pause s) ↔ Harmless profile m (env, .pause s) := by
  refine follows_modify_iff (fun sv => sv.isActive) id rfl ?_ (session_pause hi) ?_ ?_
  · rcases pause_cases m s with ⟨hstep, -⟩ | ⟨hstep, -⟩ <;> rw [hstep]
    rfl
  · intro sv
    cases sv.isActive <;> simp
  · intro sv tids hs hact t
    rcases pause_cases m s with ⟨-, hoff⟩ | ⟨hstep, -⟩
    · rw [hoff _ hs] at hact
      cases hact
    · rw [hstep, Manager.forceSessionActive, voters_modify hi]
      exact voteRange_inactive m.map _ _ s t

theorem follows_resume (hi : Inv m.map) :
    Follows profile m (env, .resume s) (m.resume s) ↔ Harmless profile m (env, .resume s) := by
  refine follows_modify_iff (fun sv => ¬sv.isActive) id rfl ?_ (session_resume hi) ?_ ?_
  · rcases resume_cases m s with ⟨hstep, -⟩ | ⟨hstep, -⟩ <;> rw [hstep]
    rfl
  · intro sv
    cases sv.isActive <;> simp
  · intro sv tids hs hact t
    rcases resume_cases m s with ⟨-, hon⟩ | ⟨hstep, -⟩
    · exact absurd (hon _ hs) hact
    · rw [hstep, Manager.forceSessionActive, voters_modify hi]

theorem follows_disableBoosts (hi : Inv m.map) :
    Follows profile m (env, .disableBoosts s) (m.disableBoosts s) ↔
      Harmless profile m (env, .disableBoosts s) := by
  refine follows_modify_iff (fun sv => ∃ v ∈ boostVotes, sv.votes.voteIsActive v) id rfl rfl
    (fun s' => session_modify hi s s' _) ?_ ?_
  · intro sv
    constructor
    · rintro ⟨v, hv, hact⟩ ⟨-, -, hvotes⟩
      have hoff := disable_inactive sv.votes hv
      dsimp only at hvotes
      rw [hvotes, hact] at hoff
      cases hoff
    · intro hdiff
      by_contra hnone
      refine hdiff ⟨rfl, rfl, disable_self boostVotes fun v hv => ?_⟩
      exact Bool.eq_false_of_not_eq_true fun hact => hnone ⟨v, hv, hact⟩
  · intro sv tids _ _ t
    rw [Manager.disableBoosts, voters_modify hi]

theorem follows_handleEvent (hi : Inv m.map) (e : EventSessionTimeout) :
    Follows profile m (env, .handleEvent e) (m.handleEvent e env.now) ↔
      Harmless profile m (env, .handleEvent e) := by
  refine follows_modify_iff
    (f := fun sv => if sv.votes.voteIsActive e.voteId ∧ sv.votes.voteTimeout e.voteId ≤ env.now
      then { sv with votes := sv.votes.setUseVote e.voteId false } else sv)
    (fun sv => sv.votes.voteIsActive e.voteId ∧ sv.votes.voteTimeout e.voteId ≤ env.now)
    id rfl ?_ ?_ ?_ ?_
  · rcases handleEvent_cases m e env.now with ⟨hstep, -⟩ | ⟨value, -, -, ⟨-, hstep⟩ | ⟨-, hstep⟩⟩ <;>
      rw [hstep]
  · intro s'
    rw [session_handleEvent hi]
    refine congrArg (fun g => if s' = e.sessionId then Option.map g _ else _) (funext fun value => ?_)
    simp only [Prod.map]
    split <;> rfl
  · intro sv
    by_cases hout : sv.votes.voteIsActive e.voteId ∧ sv.votes.voteTimeout e.voteId ≤ env.now
    · rw [if_pos hout]
      refine iff_of_true hout ?_
      rintro ⟨-, -, hvotes⟩
      have hoff := voteIsActive_setUseVote sv.votes e.voteId
      dsimp only at hvotes
      rw [hvotes, hout.1] at hoff
      cases hoff
    · rw [if_neg hout]
      exact iff_of_false hout fun hdiff => hdiff ⟨rfl, rfl, rfl⟩
  · intro sv tids hs hout t
    rcases handleEvent_cases m e env.now with ⟨-, hoff⟩ | ⟨value, hs', -, ⟨-, hstep⟩ | ⟨hlt, -⟩⟩
    · rw [hoff _ hs] at hout
      cases hout.1
    · rw [hstep, voters_modify hi]
    · rw [hs] at hs'
      cases hs'
      exact absurd hout.2 (not_le.mpr hlt)

/-- A change of the session's own value does not show among the others. -/
theorem others_modify {m : SessionTaskMap} (hi : Inv m) {f : SessionValueEntry → SessionValueEntry}
    (hf : ∀ sv, (f sv).sessionId = sv.sessionId) (t : Pid) :
    (m.modify s f).others s t = m.others s t := by
  unfold SessionTaskMap.others
  rw [voters_modify hi, SessionTaskMap.votersWith, List.filter_map]
  induction m.voters t with
  | nil => rfl
  | cons sv values ih =>
    by_cases hid : sv.sessionId = s
    · simpa [hid, hf] using ih
    · simpa [hid] using ih

theorem others_forceSessionActive (hi : Inv m.map) (b : Bool) (t : Pid) :
    (m.forceSessionActive s b).map.others s t = m.map.others s t :=
  others_modify hi (f := fun sv => { sv with isActive := b }) (fun _ => rfl) t

/-- The new threads have the session, active, as their last voter. -/
theorem voters_setThreads (hi : Inv m.map) {sv : SessionValueEntry} {old : List Pid}
    (hs : m.map.session s = some (sv, old)) (new : List Pid) (tag : ProcessTag) (t : Pid) :
    (m.setThreadsFromPowerSession s new tag).map.voters t =
      m.map.others s t ++ List.replicate (new.count t) { sv with isActive := true } := by
  have hid := session_sessionId hi hs
  have hoff := inv_forceSessionActive (s := s) hi false
  have hforced : (m.forceSessionActive s false).map.session s =
      some ({ sv with isActive := false }, old) := by
    rw [session_forceSessionActive hi, if_pos rfl, hs]
    rfl
  unfold Manager.setThreadsFromPowerSession
  rw [Manager.forceSessionActive, voters_modify (inv_replace hoff s new), SessionTaskMap.votersWith,
    voters_replace hoff hforced, others_forceSessionActive hi, List.map_append, List.map_replicate]
  refine congrArg₂ _ ?_ (by simp [hid])
  refine (List.map_congr_left fun sv' hmem => ?_).trans (List.map_id _)
  have hne : sv'.sessionId ≠ s := by simpa using (List.mem_filter.mp hmem).2
  rw [if_neg hne, id]

theorem follows_setThreads (hi : Inv m.map) (new : List Pid) (tag : ProcessTag) :
    Follows profile m (env, .setThreadsFromPowerSession s new tag)
        (m.setThreadsFromPowerSession s new tag) ↔ HarmlessThreads profile m env s new := by
  refine Iff.trans (follows_iff (s := s) id rfl rfl fun s' hne => ?_) ?_
  · rw [session_setThreads hi, if_neg hne]
  have hself := session_setThreads (s := s) hi new tag s
  rw [if_pos rfl] at hself
  cases hs : m.map.session s with
  | none =>
    rw [hs] at hself
    refine iff_of_true (fun hchanged => ?_) fun sv tids hno => by rw [hs] at hno; cases hno
    rw [Changed, hself, hs] at hchanged
    exact absurd rfl hchanged
  | some value =>
    obtain ⟨sv, old⟩ := value
    rw [hs] at hself
    have hchanged : Changed m (m.setThreadsFromPowerSession s new tag) s ↔
        ¬(sv.isActive ∧ old = new) := by
      rw [Changed, hself, hs]
      simp [watched, eq_comm (a := true), eq_comm (a := new)]
    have hids : m.map.getTaskIds s ++ (m.setThreadsFromPowerSession s new tag).map.getTaskIds s =
        old ++ new := by
      rw [getTaskIds_eq, getTaskIds_eq, hself, hs]
      rfl
    rw [hchanged, hids, HarmlessThreads, hs]
    have hvoters : (m.setThreadsFromPowerSession s new tag).map.voters = fun t =>
        m.map.others s t ++ List.replicate (new.count t) { sv with isActive := true } :=
      funext fun t => voters_setThreads hi hs new tag t
    rw [hvoters]
    constructor
    · intro hhas sv' old' hvalue hdiff
      cases hvalue
      exact hhas hdiff
    · intro hhas hdiff
      exact hhas sv old rfl hdiff

theorem follows_removePowerSession (hi : Inv m.map) (tag : ProcessTag) :
    Follows profile m (env, .removePowerSession s tag) (m.removePowerSession s tag) ↔
      Harmless profile m (env, .removePowerSession s tag) := by
  refine Iff.trans (follows_iff (s := s) id rfl rfl fun s' hne => ?_) ?_
  · rw [session_removePowerSession hi, if_neg hne]
  have hself := session_removePowerSession (s := s) hi tag s
  rw [if_pos rfl] at hself
  have hoff := inv_forceSessionActive (s := s) hi false
  cases hs : m.map.session s with
  | none =>
    refine iff_of_true (fun hchanged => ?_) fun sv tids hno => by rw [hs] at hno; cases hno
    rw [Changed, hself, hs] at hchanged
    exact absurd rfl hchanged
  | some value =>
    obtain ⟨sv, tids⟩ := value
    have hchanged : Changed m (m.removePowerSession s tag) s := by
      rw [Changed, hself, hs]
      simp [watched]
    have hids : m.map.getTaskIds s ++ (m.removePowerSession s tag).map.getTaskIds s = tids := by
      rw [getTaskIds_eq, getTaskIds_eq, hself, hs]
      exact List.append_nil tids
    have hforced : (m.forceSessionActive s false).map.session s =
        some ({ sv with isActive := false }, tids) := by
      rw [session_forceSessionActive hi, if_pos rfl, hs]
      rfl
    have hvoters : (m.removePowerSession s tag).map.voters = m.map.others s := by
      funext t
      unfold Manager.removePowerSession
      rw [voters_remove (inv_replace hoff s []), SessionTaskMap.others, voters_replace hoff hforced,
        others_forceSessionActive hi]
      simp [SessionTaskMap.others]
    rw [hids, hvoters, imp_iff_right hchanged]
    constructor
    · intro hhas sv' tids' hvalue
      rw [hs] at hvalue
      cases hvalue
      exact hhas
    · intro hhas
      exact hhas sv tids hs

/-- A session just added has one vote, which is off, and votes for nothing. -/
theorem confine_new (eff : Efficiency) (time : Time) (desc : AppHintDesc) (t : Time)
    (range : UclampRange) :
    ({ desc.value t with isActive := true } : SessionValueEntry).confine eff time range = range := by
  simp [SessionValueEntry.confine, AppHintDesc.value, Votes.getUclampRange, AdpfVoteType.all, Votes.add,
    confine, CpuVote.isTimeInRange]

theorem voteRange_new (eff : Efficiency) (time : Time) (desc : AppHintDesc) (t : Time) (n : ℕ)
    (values : List SessionValueEntry) : voteRange eff time
      (values ++ List.replicate n { desc.value t with isActive := true }) =
        voteRange eff time values := by
  unfold voteRange
  rw [List.foldl_append]
  induction n with
  | zero => rfl
  | succ n ih => rw [List.replicate_succ, List.foldl_cons, confine_new, ih]

theorem follows_addPowerSession (hi : Inv m.map) (desc : AppHintDesc) (new : List Pid)
    (tag : ProcessTag) : Follows profile m (env, .addPowerSession desc new tag)
        (m.addPowerSession desc new tag env.now) ↔
      Harmless profile m (env, .addPowerSession desc new tag) := by
  cases hs : m.map.mSessions desc.sessionId with
  | some entry =>
    -- the session is there: only its threads are replaced
    have hadd : m.map.add desc.sessionId (desc.value env.now) [] = m.map := by
      simp only [SessionTaskMap.add, hs]
    have hsome : m.map.session desc.sessionId ≠ none := by simp [SessionTaskMap.session, hs]
    have hstep : m.addPowerSession desc new tag env.now =
        m.setThreadsFromPowerSession desc.sessionId new tag := by
      rw [Manager.addPowerSession, hadd]
    rw [hstep]
    refine (follows_setThreads hi new tag).trans ?_
    exact ⟨fun hharm => ⟨fun hno => absurd hno hsome, hharm⟩, fun hharm => hharm.2⟩
  | none =>
    have hnone : m.map.session desc.sessionId = none := by simp [SessionTaskMap.session, hs]
    refine Iff.trans (follows_iff (s := desc.sessionId) id rfl rfl fun s' hne => ?_) ?_
    · rw [session_addPowerSession hi, if_neg hne]
    have hself := session_addPowerSession (t := env.now) hi desc new tag desc.sessionId
    rw [if_pos rfl, hnone] at hself
    have hchanged : Changed m (m.addPowerSession desc new tag env.now) desc.sessionId := by
      rw [Changed, hself, hnone]
      simp [watched]
    have hids : m.map.getTaskIds desc.sessionId ++
        (m.addPowerSession desc new tag env.now).map.getTaskIds desc.sessionId = new := by
      rw [getTaskIds_eq, getTaskIds_eq, hself, hnone]
      rfl
    have hadded : (m.map.add desc.sessionId (desc.value env.now) []).session desc.sessionId =
        some (desc.value env.now, []) := by
      rw [session_add hi hs, if_pos rfl]
      rfl
    have hvoters : ∀ t, (m.addPowerSession desc new tag env.now).map.voters t = m.map.voters t ++
        List.replicate (new.count t) { desc.value env.now with isActive := true } := by
      intro t
      rw [Manager.addPowerSession, voters_setThreads (inv_add hi _ _ []) hadded,
        SessionTaskMap.others, voters_add hi hs]
      refine congrArg (· ++ _) ?_
      rw [List.count_nil, List.replicate_zero, List.append_nil, List.filter_eq_self]
      intro sv hmem
      obtain ⟨ptr, hptr, rfl⟩ := List.mem_map.mp hmem
      simpa using not_voter hi hs hptr
    rw [hids, imp_iff_right hchanged]
    unfold Harmless HarmlessThreads Has
    simp only [hvoters, voteRange_new, hnone, true_imp_iff, reduceCtorEq, false_imp_iff, imp_true_iff,
      and_true]

end Quiet

/-! ### Calls that push -/

section Pushing

variable {profile : AdpfProfile} {m m' : Manager} {env : Env} {c : Call} {s : SessionId}

theorem mem_of_mem_kept {dead : Pid → Bool} {tids : List Pid} {t : Pid}
    (h : t ∈ profile.kept dead tids) : t ∈ tids := by
  unfold AdpfProfile.kept at h
  split at h
  · exact List.mem_of_mem_filter h
  · exact h

/-- A call that changes one session and ends in `applyUclampLocked` for it follows the votes. -/
theorem follows_of_pushed (hon : profile.mUclampMinOn = true) {m₁ : Manager} (hi : Inv m₁.map)
    (hother : ∀ s', s' ≠ s → m'.map.session s' = m.map.session s')
    (hthreads : m.map.getTaskIds s = m₁.map.getTaskIds s)
    (hmap : m'.map = (m₁.applyUclampLocked profile env.dead s (c.moment env)).map)
    (hlast : m'.lastUclamp = (m₁.applyUclampLocked profile env.dead s (c.moment env)).lastUclamp) :
    Follows profile m (env, c) m' := by
  intro _ s' hchanged t ht hmem
  by_cases hsame : s' = s
  · subst hsame
    rw [hmap, hthreads] at hmem
    cases hs : m₁.map.session s' with
    | none =>
      rw [getTaskIds_eq, getTaskIds_eq, session_applyUclampLocked hi, hs] at hmem
      simp at hmem
    | some value =>
      obtain ⟨sv, tids⟩ := value
      -- a live thread that is left was in the list before
      have hold : t ∈ tids := by
        rw [getTaskIds_eq, getTaskIds_eq, session_applyUclampLocked hi, hs] at hmem
        rcases hmem with hmem | hmem
        · exact hmem
        · exact mem_of_mem_kept (by simpa using hmem)
      rw [hlast, hmap]
      exact pushed_applyUclampLocked profile env.dead hon hi hs _ ht hold
  · exact absurd (congrArg watched (hother s' hsame)) hchanged

theorem follows_voteSet (hon : profile.mUclampMinOn = true) (hi : Inv m.map) (v : AdpfVoteType)
    (lo up : ℤ) (start d : Time) : Follows profile m (env, .voteSet s v lo up start d)
      (m.voteSet profile env.dead s v lo up start d) := by
  rcases voteSet_cases profile env.dead m s v lo up start d with ⟨-, hstep⟩ | ⟨value, hs, hstep⟩
  · rw [hstep]
    intro _ s' hchanged
    exact absurd rfl hchanged
  · refine follows_of_pushed (s := s) hon (inv_storeVote (s := s) (t := start) hi v lo up d) ?_ ?_
      (by rw [hstep]; rfl) (by rw [hstep]; rfl)
    · intro s' hne
      rw [session_voteSet hi, if_neg hne]
    · rw [getTaskIds_eq, getTaskIds_eq, session_storeVote hi, if_pos rfl, hs]
      rfl

theorem follows_setPreferPowerEfficiency (hon : profile.mUclampMinOn = true) (hi : Inv m.map)
    (b : Bool) : Follows profile m (env, .setPreferPowerEfficiency s b)
      (m.setPreferPowerEfficiency profile env.dead s b env.now) := by
  rcases setPreferPowerEfficiency_cases profile env.dead m s b env.now with
    ⟨hstep, -⟩ | ⟨hstep, value, hs, -⟩
  · rw [hstep]
    intro _ s' hchanged
    exact absurd rfl hchanged
  · have hmod : Inv (m.map.modify s fun sv => { sv with isPowerEfficient := b }) :=
      inv_modify hi s fun _ => rfl
    refine follows_of_pushed (s := s) hon hmod ?_ ?_ (by rw [hstep]; rfl) (by rw [hstep]; rfl)
    · intro s' hne
      rw [session_setPreferPowerEfficiency hi, if_neg hne]
    · rw [getTaskIds_eq, getTaskIds_eq, session_modify hi, if_pos rfl, hs]
      rfl

end Pushing

/-- One call follows the votes exactly if it pushes or does no harm. -/
theorem follows_call_iff {profile : AdpfProfile} (hon : profile.mUclampMinOn = true) {m : Manager}
    (hi : Inv m.map) (a : Env × Call) :
    Follows profile m a (m.envStep profile a) ↔ Harmless profile m a := by
  obtain ⟨env, c⟩ := a
  cases c with
  | addPowerSession desc new tag => exact follows_addPowerSession hi desc new tag
  | removePowerSession s tag => exact follows_removePowerSession hi tag
  | setThreadsFromPowerSession s new tag => exact follows_setThreads hi new tag
  | pause s => exact follows_pause hi
  | resume s => exact follows_resume hi
  | updateTargetWorkDuration s v d =>
    exact iff_of_true (fun hlisted => absurd trivial hlisted) trivial
  | voteSet s v lo up start d => exact iff_of_true (follows_voteSet hon hi v lo up start d) trivial
  | disableBoosts s => exact follows_disableBoosts hi
  | setPreferPowerEfficiency s b =>
    exact iff_of_true (follows_setPreferPowerEfficiency hon hi b) trivial
  | handleEvent e => exact follows_handleEvent hi e

/-- CORRECT: with uclamp on, in every run of calls the ranges follow the votes exactly as long as
    every call that pushes nothing is harmless. -/
theorem uclamp_follows_iff {profile : AdpfProfile} (hon : profile.mUclampMinOn = true)
    (heap : Ptr → SessionValueEntry) (as : List (Env × Call)) :
    Always (Manager.envStep profile) (Follows profile) (.init heap) as ↔
      Meets (Manager.envStep profile) (Harmless profile) (.init heap) as := by
  refine always_iff_meets (fun m a (hi : Inv m.map) hharmless => ?_) (fun m a hi hfollows => ?_) as _
    (inv_empty heap)
  · exact ⟨inv_call a.1 a.2 hi, (follows_call_iff hon hi a).mpr hharmless⟩
  · exact (follows_call_iff hon hi a).mp hfollows

/-- The manager of a process with uclamp on, before its first session. -/
def started : Manager := .init fun _ => AppHintDesc.value ⟨0, 0, false, 0⟩ 0

/-- A session is added for a thread of no session, and votes. -/
theorem uclamp_follows_vote :
    Always (Manager.envStep ⟨true, ⟨none, none⟩⟩) (Follows ⟨true, ⟨none, none⟩⟩) started
      [(⟨0, fun _ => false⟩, .addPowerSession ⟨7, 0, true, 100⟩ [1] .DEFAULT),
       (⟨1, fun _ => false⟩, .voteSet 7 .CPU_VOTE_DEFAULT 300 1024 1 100)] := by
  refine (uclamp_follows_iff rfl _ _).mpr ⟨⟨?_, ?_⟩, trivial, trivial⟩
  · intro _ t hmem _
    rw [List.mem_singleton.mp hmem]
    decide +kernel
  · intro sv old hs
    cases hs

/-- The session is then paused: its thread keeps the range it voted for. -/
theorem paused_range_stays :
    ¬ Always (Manager.envStep ⟨true, ⟨none, none⟩⟩) (Follows ⟨true, ⟨none, none⟩⟩) started
      [(⟨0, fun _ => false⟩, .addPowerSession ⟨7, 0, true, 100⟩ [1] .DEFAULT),
       (⟨1, fun _ => false⟩, .voteSet 7 .CPU_VOTE_DEFAULT 300 1024 1 100),
       (⟨2, fun _ => false⟩, .pause 7)] := by
  rintro ⟨-, -, hfollows, -⟩
  have hrange := hfollows id 7 (fun hsame => ?_) 1 rfl (Or.inl (by decide +kernel))
  · revert hrange
    decide +kernel
  · have hactive := congrArg (Option.map Prod.fst) hsame
    revert hactive
    decide +kernel

end ImxHal.Power
