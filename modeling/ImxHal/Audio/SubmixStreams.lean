import ImxHal.Audio.SubmixRoute

/-! @src audio/default/r_submix/StreamRemoteSubmix.cpp | name:submix streams | scheme:run | family:audio

    The driver calls of the streams interleave in any order. A route is well used as long as what it
    believes to be open on it is open on it:

        outputs   init ─── open ─── prepareToClose ─── (goes on writing) ─── shutdown
                                    │ the route is free for another output      │ frees the route AGAIN
        inputs    init ─── open ───────────────────────────────────────────── shutdown -/

namespace ImxHal.Audio.Submix

/-! ### Open streams -/

namespace StreamRemoteSubmix
variable {Address : Type} (x : StreamRemoteSubmix Address)

/-- Neither ended nor, for an output, considered closed by its client. -/
def isOpen : Bool := x.worker = .running && (x.mIsInput || !x.prepared)

def opens (isInput : Bool) (r : ℕ) : Bool := x.isOpen && x.mIsInput = isInput && x.mCurrentRoute = some r

theorem opens_iff {isInput : Bool} {r : ℕ} :
    x.opens isInput r = true ↔ x.isOpen = true ∧ x.mIsInput = isInput ∧ x.mCurrentRoute = some r := by
  simp [opens, and_assoc]

theorem running_of_isOpen {x : StreamRemoteSubmix Address} (h : x.isOpen = true) : x.worker = .running := by
  simp only [isOpen, Bool.and_eq_true, decide_eq_true_eq] at h
  exact h.1

theorem not_opens {x : StreamRemoteSubmix Address} (h : x.isOpen = false) (isInput : Bool) (r : ℕ) :
    x.opens isInput r = false := by simp [opens, h]

end StreamRemoteSubmix

namespace RemoteSubmix
variable {Address : Type} {s : RemoteSubmix Address}

/-- How many inputs, or outputs, are open on a route. -/
def opened (s : RemoteSubmix Address) (isInput : Bool) (r : ℕ) : ℕ :=
  s.streams.countP (·.opens isInput r)

theorem opened_pos {isInput : Bool} {r : ℕ} :
    0 < s.opened isInput r ↔ ∃ x ∈ s.streams, x.opens isInput r = true := List.countP_pos_iff

theorem opened_eq_zero {isInput : Bool} {r : ℕ} :
    s.opened isInput r = 0 ↔ ∀ x ∈ s.streams, x.opens isInput r = false := by
  rw [opened, List.countP_eq_zero]
  simp

/-- One more stream. -/
theorem opened_concat {t : RemoteSubmix Address} {x : StreamRemoteSubmix Address}
    (h : t.streams = s.streams ++ [x]) (isInput : Bool) (r : ℕ) :
    t.opened isInput r = s.opened isInput r + if x.opens isInput r then 1 else 0 := by
  rw [opened, h, List.countP_append, List.countP_singleton]
  rfl

/-- One stream changes. -/
theorem opened_set {t : RemoteSubmix Address} {i : ℕ} {x x' : StreamRemoteSubmix Address}
    (hi : s.streams[i]? = some x) (h : t.streams = s.streams.set i x') (isInput : Bool) (r : ℕ) :
    t.opened isInput r + (if x.opens isInput r then 1 else 0) =
      s.opened isInput r + if x'.opens isInput r then 1 else 0 := by
  obtain ⟨hlt, hx⟩ := List.getElem?_eq_some_iff.mp hi
  have hle : (if x.opens isInput r then 1 else 0) ≤ s.opened isInput r := by
    split
    · rename_i hopens
      exact opened_pos.mpr ⟨x, List.mem_of_getElem? hi, hopens⟩
    · exact Nat.zero_le _
  rw [opened, h, List.countP_set hlt, hx]
  unfold opened at hle ⊢
  omega

/-! ### What is promised -/

/-- A route agrees with what is open on it. -/
structure Settled (s : RemoteSubmix Address) (r : ℕ) : Prop where
  /-- It has a pipe exactly while it is registered. -/
  pipes : (s.objects r).mSink ≠ none ↔ ∃ address, s.routes address = some r
  inputs : (s.objects r).mInputRefCount = s.opened true r ∧
    ((s.objects r).mStreamInOpen = true ↔ 0 < s.opened true r)
  /-- One output at most. -/
  outputs : s.opened false r = if (s.objects r).mStreamOutOpen then 1 else 0
  /-- What is written while an input is open goes into the pipe. -/
  heard : (s.objects r).mStreamInOpen = true → (s.objects r).mStreamOutOpen = true →
    ∃ blocking, outWrite (s.objects r) = .piped blocking

structure Linked (s : RemoteSubmix Address) : Prop where
  /-- An open stream is on the route of its address, in the format of the pipe. -/
  connected : ∀ x ∈ s.streams, x.isOpen = true → ∃ r, x.mCurrentRoute = some r ∧
    s.routes x.mDeviceAddress = some r ∧ (s.objects r).isStreamConfigCompatible x.mStreamConfig = true
  settled : ∀ r, Settled s r
  alive : s.aborted = false

structure Joined (s : RemoteSubmix Address) : Prop extends Linked s where
  /-- A route does not outlive its streams. -/
  used : ∀ address r, s.routes address = some r →
    ∃ x ∈ s.streams, x.worker = .running ∧ x.mCurrentRoute = some r

/-- No other output is open under the address. -/
def OnlyOutput (s : RemoteSubmix Address) (i : ℕ) (x : StreamRemoteSubmix Address) : Prop :=
  ∀ j y, s.streams[j]? = some y → j ≠ i → y.isOpen = true → y.mIsInput = false →
    y.mDeviceAddress ≠ x.mDeviceAddress

/-- An output that is prepared for closing keeps off what has changed hands since. -/
def Orderly (s : RemoteSubmix Address) : Event Address → Prop
  /- A route that is kept with nothing open on it is not checked for its format. -/
  | .init address _ config => ∀ r, s.routes address = some r →
      (s.objects r).hasAtleastOneStreamOpen = false → (s.objects r).isStreamConfigCompatible config = true
  | .transfer i _ => ∀ x, s.streams[i]? = some x → x.worker = .running → x.mIsInput = false →
      s.routes x.mDeviceAddress = x.mCurrentRoute
  /- A refused output is prepared for closing, too. -/
  | .prepareToClose i => ∀ x, s.streams[i]? = some x → x.worker ≠ .exited → x.mIsInput = false →
      OnlyOutput s i x
  | .shutdown i => ∀ x, s.streams[i]? = some x → x.worker = .running → x.mIsInput = false →
      s.routes x.mDeviceAddress ≠ none →
        s.routes x.mDeviceAddress = x.mCurrentRoute ∧ OnlyOutput s i x
  | _ => True

/-! ### The invariant -/

variable (legacy : AudioFormatDescription → Bool)

/-- The invariant without the use of the routes, which a route just made does not have yet. -/
structure Placed (s : RemoteSubmix Address) : Prop extends Linked s where
  unmade : ∀ r, s.made ≤ r → s.objects r = {}
  /-- A running stream's route is registered under its address or nowhere. -/
  home : ∀ x ∈ s.streams, x.worker = .running → ∃ r, x.mCurrentRoute = some r ∧ r < s.made ∧
    ∀ address, s.routes address = some r → address = x.mDeviceAddress
  known : ∀ r, (s.objects r).mSink ≠ none → legacy (s.objects r).mPipeConfig.format = true

structure Inv (s : RemoteSubmix Address) : Prop extends Placed legacy s where
  used : ∀ address r, s.routes address = some r →
    ∃ x ∈ s.streams, x.worker = .running ∧ x.mCurrentRoute = some r

variable {legacy}

theorem Inv.joined (h : Inv legacy s) : Joined s := { h.toLinked with used := h.used }

theorem Placed.of_running (h : Placed legacy s) {x : StreamRemoteSubmix Address} {r : ℕ}
    (hx : x ∈ s.streams) (hw : x.worker = .running) (hr : x.mCurrentRoute = some r) :
    r < s.made ∧ ∀ address, s.routes address = some r → address = x.mDeviceAddress := by
  obtain ⟨r', hr', hlt, hhome⟩ := h.home x hx hw
  rw [hr, Option.some.injEq] at hr'
  subst hr'
  exact ⟨hlt, hhome⟩

/-- What is open on a route is open at its address. -/
theorem Linked.of_opens (h : Linked s) {x : StreamRemoteSubmix Address} {isInput : Bool} {r : ℕ}
    (hx : x ∈ s.streams) (ho : x.opens isInput r = true) : s.routes x.mDeviceAddress = some r := by
  obtain ⟨hopen, -, hcur⟩ := x.opens_iff.mp ho
  obtain ⟨r', hr', hreg, -⟩ := h.connected x hx hopen
  rw [hcur, Option.some.injEq] at hr'
  rw [hr', hreg]

theorem Linked.sink_of_opened (h : Linked s) {b : Bool} {r : ℕ} (hpos : 0 < s.opened b r) :
    (s.objects r).mSink ≠ none := by
  obtain ⟨x, hx, hopens⟩ := opened_pos.mp hpos
  exact (h.settled r).pipes.mpr ⟨_, h.of_opens hx hopens⟩

/-- Nothing is open at an address that has no route. -/
theorem Linked.not_open (h : Linked s) {x : StreamRemoteSubmix Address} (hx : x ∈ s.streams)
    (hnone : s.routes x.mDeviceAddress = none) : x.isOpen = false := by
  by_contra ho
  obtain ⟨r, -, hreg, -⟩ := h.connected x hx (Bool.eq_true_of_not_eq_false ho)
  rw [hnone] at hreg
  exact absurd hreg (by simp)

/-- A route on which nothing has changed. -/
theorem Settled.congr {t : RemoteSubmix Address} {r : ℕ} (h : Settled s r) (hobj : t.objects r = s.objects r)
    (hopened : ∀ b, t.opened b r = s.opened b r)
    (hroutes : (∃ a, t.routes a = some r) ↔ ∃ a, s.routes a = some r) : Settled t r := by
  refine { pipes := ?_, inputs := ?_, outputs := ?_, heard := ?_ }
  · rw [hobj, hroutes]
    exact h.pipes
  · rw [hobj, hopened]
    exact h.inputs
  · rw [hobj, hopened]
    exact h.outputs
  · rw [hobj]
    exact h.heard

theorem piped_iff {route : SubmixRoute} :
    (∃ blocking, outWrite route = .piped blocking) ↔ route.mSink = some ⟨false⟩ := by
  unfold outWrite
  rcases route.mSink with _ | ⟨_ | _⟩ <;> simp

/-! ### Standby -/

/-- All but the standby state and the frames read. -/
structure Still (route route' : SubmixRoute) : Prop where
  config : route'.mPipeConfig = route.mPipeConfig
  inOpen : route'.mStreamInOpen = route.mStreamInOpen
  refCount : route'.mInputRefCount = route.mInputRefCount
  outOpen : route'.mStreamOutOpen = route.mStreamOutOpen
  sink : route'.mSink = route.mSink

theorem Still.refl (route : SubmixRoute) : Still route route := ⟨rfl, rfl, rfl, rfl, rfl⟩

theorem still_exitStandby (route : SubmixRoute) (isInput : Bool) : Still route (route.exitStandby isInput) := by
  unfold SubmixRoute.exitStandby
  split_ifs <;> exact ⟨rfl, rfl, rfl, rfl, rfl⟩

theorem still_standby (route : SubmixRoute) (isInput : Bool) : Still route (route.standby isInput) := by
  unfold SubmixRoute.standby
  split_ifs <;> exact ⟨rfl, rfl, rfl, rfl, rfl⟩

theorem still_inRead (route : SubmixRoute) (frameCount : ℕ) : Still route (inRead route frameCount) := by
  unfold inRead
  split <;> exact ⟨rfl, rfl, rfl, rfl, rfl⟩

theorem compatible_congr {route route' : SubmixRoute} (h : route'.mPipeConfig = route.mPipeConfig)
    (config : AudioConfig) :
    route'.isStreamConfigCompatible config = route.isStreamConfigCompatible config := by
  rw [SubmixRoute.isStreamConfigCompatible, SubmixRoute.isStreamConfigCompatible, h]

theorem onRoute_objects_self (r : ℕ) (f : SubmixRoute → SubmixRoute) :
    (s.onRoute r f).objects r = f (s.objects r) := Function.update_self ..

theorem Inv.onRoute (h : Inv legacy s) {r : ℕ} {f : SubmixRoute → SubmixRoute}
    (hf : Still (s.objects r) (f (s.objects r))) (hr : r < s.made) : Inv legacy (s.onRoute r f) := by
  have hstill : ∀ r', Still (s.objects r') ((s.onRoute r f).objects r') := by
    intro r'
    rw [RemoteSubmix.onRoute]
    by_cases heq : r' = r
    · subst heq
      simpa using hf
    · simpa [heq] using Still.refl (s.objects r')
  refine { connected := ?_, settled := ?_, alive := h.alive, unmade := ?_, home := h.home, known := ?_,
           used := h.used }
  · intro x hx ho
    obtain ⟨r', hr', hreg, hcompat⟩ := h.connected x hx ho
    exact ⟨r', hr', hreg, (compatible_congr (hstill r').config _).trans hcompat⟩
  · intro r'
    have hs := h.settled r'
    refine { pipes := ?_, inputs := ?_, outputs := ?_, heard := ?_ }
    · rw [(hstill r').sink]
      exact hs.pipes
    · rw [(hstill r').refCount, (hstill r').inOpen]
      exact hs.inputs
    · rw [(hstill r').outOpen]
      exact hs.outputs
    · rw [(hstill r').inOpen, (hstill r').outOpen, piped_iff, (hstill r').sink, ← piped_iff]
      exact hs.heard
  · intro r' hle
    rw [← h.unmade r' hle]
    exact Function.update_of_ne (by have : s.made ≤ r' := hle; omega) _ _
  · intro r'
    rw [(hstill r').sink, (hstill r').config]
    exact h.known r'

/-! ### Opening -/

variable {isInput : Bool} {config : AudioConfig}

theorem initOn_valid {route : SubmixRoute} (hv : route.isStreamConfigValid isInput config = true)
    (hsink : route.mSink ≠ none) (hl : legacy route.mPipeConfig.format = true) : ∃ sink : MonoPipe,
      initOn legacy route isInput config =
        (({ route with mSink := some sink } : SubmixRoute).openStream isInput, true) ∧
      (isInput = false → sink.isShutdown = false) := by
  obtain ⟨sink, hsome⟩ := Option.ne_none_iff_exists'.mp hsink
  have hreset : route.resetPipe legacy = ({ route with mSink := some {} }, true) := by
    simp [SubmixRoute.resetPipe, SubmixRoute.releasePipe, SubmixRoute.createPipe, hl]
  simp only [initOn, hv, hsome, hreset, if_true]
  by_cases hs : ((!isInput || route.mStreamInOpen) && sink.isShutdown) = true
  · rw [if_pos hs]
    exact ⟨{}, rfl, fun _ => rfl⟩
  · have hsame : ({ route with mSink := some sink } : SubmixRoute) = route := by rw [← hsome]
    rw [if_neg hs]
    refine ⟨sink, by rw [hsame], fun hout => ?_⟩
    simpa [hout] using hs

theorem initOn_invalid {route : SubmixRoute} (hv : route.isStreamConfigValid isInput config = false) :
    initOn legacy route isInput config = (route, false) := by
  rw [initOn, hv]
  rfl

theorem openStream_config {route : SubmixRoute} :
    (route.openStream isInput).mPipeConfig = route.mPipeConfig := by cases isInput <;> rfl

theorem openStream_sink {route : SubmixRoute} :
    (route.openStream isInput).mSink = if isInput then route.mSink.map (·.shutdown false) else route.mSink := by
  cases isInput <;> rfl

/-- A check that passes leaves an open output alone. -/
theorem outOpen_of_valid {route : SubmixRoute} (hv : route.isStreamConfigValid false config = true) :
    route.mStreamOutOpen = false := by
  by_contra hopen
  simp [SubmixRoute.isStreamConfigValid, hopen] at hv

theorem compatible_of_valid {route : SubmixRoute} (hv : route.isStreamConfigValid isInput config = true)
    (ho : route.hasAtleastOneStreamOpen = true) : route.isStreamConfigCompatible config = true := by
  unfold SubmixRoute.isStreamConfigValid at hv
  split_ifs at hv with h₁ h₂
  simpa [ho] using h₂

theorem valid_of_idle {route : SubmixRoute} (h : route.hasAtleastOneStreamOpen = false) :
    route.isStreamConfigValid isInput config = true := by
  have hout : route.mStreamOutOpen = false := by
    simp only [SubmixRoute.hasAtleastOneStreamOpen, Bool.or_eq_false_iff] at h
    exact h.2
  simp [SubmixRoute.isStreamConfigValid, hout, h]

variable {address : Address} {r : ℕ} {sink : MonoPipe}

/-- The stream that is opened. -/
def running (address : Address) (isInput : Bool) (config : AudioConfig) (r : ℕ) : StreamRemoteSubmix Address :=
  { mDeviceAddress := address, mIsInput := isInput, mStreamConfig := config, mCurrentRoute := some r,
    worker := .running }

def join (s : RemoteSubmix Address) (address : Address) (isInput : Bool) (config : AudioConfig) (r : ℕ)
    (sink : MonoPipe) : RemoteSubmix Address :=
  { s with
    objects := Function.update s.objects r
      (({ s.objects r with mSink := some sink } : SubmixRoute).openStream isInput)
    streams := s.streams ++ [running address isInput config r] }

theorem running_isOpen : (running address isInput config r).isOpen = true := by
  simp [running, StreamRemoteSubmix.isOpen]

theorem running_opens (b : Bool) (r' : ℕ) :
    (running address isInput config r).opens b r' = true ↔ isInput = b ∧ r = r' := by
  rw [StreamRemoteSubmix.opens_iff, running_isOpen]
  simp [running]

theorem opened_join (b : Bool) (r' : ℕ) :
    (s.join address isInput config r sink).opened b r' =
      s.opened b r' + if isInput = b ∧ r = r' then 1 else 0 := by
  rw [opened_concat (s := s) rfl]
  simp only [running_opens]

theorem join_objects (r' : ℕ) :
    (s.join address isInput config r sink).objects r' =
      if r' = r then ({ s.objects r with mSink := some sink } : SubmixRoute).openStream isInput
      else s.objects r' :=
  Function.update_apply s.objects r _ r'

/-- The route a stream comes in on. -/
theorem settled_join (hs : Settled s r) (hreg : s.routes address = some r)
    (hv : (s.objects r).isStreamConfigValid isInput config = true)
    (hlive : isInput = false → sink.isShutdown = false) :
    Settled (s.join address isInput config r sink) r := by
  obtain ⟨hcount, hopen⟩ := hs.inputs
  have hout := hs.outputs
  refine { pipes := ?_, inputs := ?_, outputs := ?_, heard := ?_ }
  · rw [join_objects, if_pos rfl, openStream_sink]
    refine iff_of_true ?_ ⟨address, hreg⟩
    cases isInput <;> simp
  · rw [opened_join, join_objects, if_pos rfl]
    cases isInput with
    | false => simpa [SubmixRoute.openStream] using hs.inputs
    | true =>
      by_cases hin : (s.objects r).mStreamInOpen = true
      · simp [SubmixRoute.openStream, hin, hcount]
      · have hzero : s.opened true r = 0 := by
          by_contra hne
          exact hin (hopen.mpr (Nat.pos_of_ne_zero hne))
        simp [SubmixRoute.openStream, hin, hzero]
  · rw [opened_join, join_objects, if_pos rfl, hout]
    cases isInput with
    | true => simp [SubmixRoute.openStream]
    | false => simp [SubmixRoute.openStream, outOpen_of_valid hv]
  · intro _ _
    rw [join_objects, if_pos rfl, piped_iff, openStream_sink]
    cases isInput with
    | true => rfl
    | false =>
      obtain ⟨isShutdown⟩ := sink
      have hfalse : isShutdown = false := hlive rfl
      rw [hfalse]
      rfl

/-- A stream comes in on a route its address has. -/
theorem Placed.join (h : Placed legacy s) (hreg : s.routes address = some r)
    (hhome : ∀ a, s.routes a = some r → a = address)
    (hv : (s.objects r).isStreamConfigValid isInput config = true)
    (hc : (s.objects r).isStreamConfigCompatible config = true)
    (hlive : isInput = false → sink.isShutdown = false) :
    Placed legacy (s.join address isInput config r sink) := by
  have hsink : (s.objects r).mSink ≠ none := (h.settled r).pipes.mpr ⟨address, hreg⟩
  have hmade : r < s.made := by
    by_contra hle
    rw [h.unmade r (by omega)] at hsink
    exact hsink rfl
  have hcfg : ∀ r', ((s.join address isInput config r sink).objects r').mPipeConfig =
      (s.objects r').mPipeConfig := by
    intro r'
    rw [join_objects]
    by_cases heq : r' = r
    · rw [if_pos heq, openStream_config, heq]
    · rw [if_neg heq]
  have hother : ∀ r', r' ≠ r → (s.join address isInput config r sink).objects r' = s.objects r' := by
    intro r' hne
    rw [join_objects, if_neg hne]
  refine { connected := ?_, settled := ?_, alive := h.alive, unmade := ?_, home := ?_, known := ?_ }
  · intro x hx ho
    rcases List.mem_append.mp hx with hx | hx
    · obtain ⟨r', hr', hreg', hcompat⟩ := h.connected x hx ho
      exact ⟨r', hr', hreg', (compatible_congr (hcfg r') _).trans hcompat⟩
    · obtain rfl := List.mem_singleton.mp hx
      exact ⟨r, rfl, hreg, (compatible_congr (hcfg r) _).trans hc⟩
  · intro r'
    by_cases heq : r' = r
    · subst heq
      exact settled_join (h.settled r') hreg hv hlive
    · refine (h.settled r').congr (hother r' heq) (fun b => ?_) Iff.rfl
      have hoff : ¬(isInput = b ∧ r = r') := fun hr => heq hr.2.symm
      rw [opened_join, if_neg hoff, Nat.add_zero]
  · intro r' hle
    have hne : r' ≠ r := by
      have : s.made ≤ r' := hle
      omega
    rw [hother r' hne]
    exact h.unmade r' hle
  · intro x hx hw
    rcases List.mem_append.mp hx with hx | hx
    · exact h.home x hx hw
    · obtain rfl := List.mem_singleton.mp hx
      exact ⟨r, rfl, hmade, hhome⟩
  · intro r' hs
    rw [hcfg]
    by_cases heq : r' = r
    · rw [heq]
      exact h.known r hsink
    · rw [hother r' heq] at hs
      exact h.known r' hs

/-- A stream whose `init` fails changes nothing else. -/
theorem Inv.refused (h : Inv legacy s) {x : StreamRemoteSubmix Address} (hx : x.worker = .failed) :
    Inv legacy { s with streams := s.streams ++ [x] } := by
  have hclosed : x.isOpen = false := by simp [StreamRemoteSubmix.isOpen, hx]
  have hopened : ∀ b r, ({ s with streams := s.streams ++ [x] } : RemoteSubmix Address).opened b r =
      s.opened b r := by
    intro b r
    rw [opened_concat (s := s) rfl, StreamRemoteSubmix.not_opens hclosed]
    simp
  refine { connected := ?_, settled := fun r => (h.settled r).congr rfl (hopened · r) Iff.rfl,
           alive := h.alive, unmade := h.unmade, home := ?_, known := h.known, used := ?_ }
  · intro y hy ho
    rcases List.mem_append.mp hy with hy | hy
    · exact h.connected y hy ho
    · rw [List.mem_singleton.mp hy, hclosed] at ho
      exact absurd ho (by simp)
  · intro y hy hw
    rcases List.mem_append.mp hy with hy | hy
    · exact h.home y hy hw
    · rw [List.mem_singleton.mp hy, hx] at hw
      exact absurd hw (by simp)
  · intro a r hr
    obtain ⟨y, hy, hrest⟩ := h.used a r hr
    exact ⟨y, List.mem_append_left _ hy, hrest⟩

theorem Inv.registered_lt (h : Inv legacy s) {r : ℕ} (hr : s.routes address = some r) : r < s.made := by
  obtain ⟨x, hx, hw, hcur⟩ := h.used address r hr
  exact (h.of_running hx hw hcur).1

/-- The routes in use are in use still, and the one joined is in use now. -/
theorem Placed.inv_join {t : RemoteSubmix Address} {r : ℕ} {sink : MonoPipe}
    (h : Placed legacy (t.join address isInput config r sink))
    (hused : ∀ a r', t.routes a = some r' → r' ≠ r →
      ∃ x ∈ t.streams, x.worker = .running ∧ x.mCurrentRoute = some r') :
    Inv legacy (t.join address isInput config r sink) where
  toPlaced := h
  used := by
    intro a r' hr'
    by_cases heq : r' = r
    · exact ⟨_, List.mem_append_right _ (List.mem_singleton_self _), rfl, by rw [heq]; rfl⟩
    · obtain ⟨x, hx, hrest⟩ := hused a r' hr' heq
      exact ⟨x, List.mem_append_left _ hx, hrest⟩

/-- The address whose route it is. -/
theorem Inv.registered_home (h : Inv legacy s) {r : ℕ} (hr : s.routes address = some r) (a : Address)
    (ha : s.routes a = some r) : a = address := by
  obtain ⟨x, hx, hw, hcur⟩ := h.used address r hr
  have hhome := (h.of_running hx hw hcur).2
  exact (hhome a ha).trans (hhome address hr).symm

section Made
variable [DecidableEq Address]

/-- A route just made, with nothing open on it. -/
def withRoute (s : RemoteSubmix Address) (address : Address) (config : AudioConfig) : RemoteSubmix Address :=
  { s with
    objects := Function.update s.objects s.made { mPipeConfig := config, mSink := some {} }
    made := s.made + 1
    routes := Function.update s.routes address (some s.made) }

theorem withRoute_objects (r : ℕ) : (s.withRoute address config).objects r =
    if r = s.made then { mPipeConfig := config, mSink := some {} } else s.objects r :=
  Function.update_apply s.objects s.made _ r

theorem withRoute_routes (a : Address) : (s.withRoute address config).routes a =
    if a = address then some s.made else s.routes a :=
  Function.update_apply s.routes address _ a

theorem settled_made (hs : Settled s s.made) (hblank : s.objects s.made = {}) :
    Settled (s.withRoute address config) s.made := by
  have hin := hs.inputs
  have hout := hs.outputs
  rw [hblank] at hin hout
  refine { pipes := ?_, inputs := ?_, outputs := ?_, heard := ?_ }
  · rw [withRoute_objects, if_pos rfl]
    exact iff_of_true (by simp) ⟨address, by rw [withRoute_routes, if_pos rfl]⟩
  · rw [withRoute_objects, if_pos rfl]
    exact hin
  · rw [withRoute_objects, if_pos rfl]
    exact hout
  · intro hopen
    rw [withRoute_objects, if_pos rfl] at hopen
    exact absurd hopen (by simp)

theorem Inv.withRoute (h : Inv legacy s) (hnone : s.routes address = none)
    (hl : legacy config.format = true) : Placed legacy (s.withRoute address config) := by
  have hobj : ∀ r, r ≠ s.made → (s.withRoute address config).objects r = s.objects r := by
    intro r hne
    rw [withRoute_objects, if_neg hne]
  have hroutes : ∀ a r, r ≠ s.made →
      ((s.withRoute address config).routes a = some r ↔ s.routes a = some r) := by
    intro a r hne
    rw [withRoute_routes]
    split_ifs with hadr
    · rw [hadr, hnone]
      simp [Ne.symm hne]
    · exact Iff.rfl
  refine { connected := ?_, settled := ?_, alive := h.alive, unmade := ?_, home := ?_, known := ?_ }
  · intro x hx ho
    obtain ⟨r, hr, hreg, hcompat⟩ := h.connected x hx ho
    have hne := (h.registered_lt hreg).ne
    exact ⟨r, hr, (hroutes _ r hne).mpr hreg, by rw [hobj r hne]; exact hcompat⟩
  · intro r
    by_cases heq : r = s.made
    · rw [heq]
      exact settled_made (h.settled s.made) (h.unmade s.made le_rfl)
    · exact (h.settled r).congr (hobj r heq) (fun _ => rfl) (exists_congr fun a => hroutes a r heq)
  · intro r hle
    have hlt : s.made < r := hle
    rw [hobj r hlt.ne']
    exact h.unmade r hlt.le
  · intro x hx hw
    obtain ⟨r, hr, hlt, hhome⟩ := h.home x hx hw
    exact ⟨r, hr, Nat.lt_succ_of_lt hlt, fun a ha => hhome a ((hroutes a r hlt.ne).mp ha)⟩
  · intro r
    rw [withRoute_objects]
    split_ifs
    · exact fun _ => hl
    · exact h.known r

theorem findOrCreateRoute_known {r : ℕ} (hr : s.routes address = some r) :
    s.findOrCreateRoute legacy address config = (s, some r) := by
  rw [findOrCreateRoute, hr]

theorem findOrCreateRoute_new (hnone : s.routes address = none) (hl : legacy config.format = true) :
    s.findOrCreateRoute legacy address config = (s.withRoute address config, some s.made) := by
  rw [findOrCreateRoute, hnone]
  simp [SubmixRoute.createPipe, hl, RemoteSubmix.withRoute]

theorem findOrCreateRoute_refused (hnone : s.routes address = none) (hl : legacy config.format = false) :
    s.findOrCreateRoute legacy address config = (s, none) := by
  rw [findOrCreateRoute, hnone]
  simp [SubmixRoute.createPipe, hl]

theorem init_joins {t : RemoteSubmix Address} {r : ℕ}
    (hfound : s.findOrCreateRoute legacy address config = (t, some r)) (h : Placed legacy t)
    (hreg : t.routes address = some r) (hv : (t.objects r).isStreamConfigValid isInput config = true) :
    ∃ sink : MonoPipe, s.init legacy address isInput config = t.join address isInput config r sink ∧
      (isInput = false → sink.isShutdown = false) := by
  have hsink := (h.settled r).pipes.mpr ⟨address, hreg⟩
  obtain ⟨sink, hinit, hlive⟩ := initOn_valid hv hsink (h.known r hsink)
  refine ⟨sink, ?_, hlive⟩
  rw [init, hfound]
  simp only [hinit, if_true]
  rfl

theorem Inv.init_new (h : Inv legacy s) (hnone : s.routes address = none) (hl : legacy config.format = true) :
    Inv legacy (s.init legacy address isInput config) := by
  have hplaced := h.withRoute hnone hl
  have hreg : (s.withRoute address config).routes address = some s.made := by
    rw [withRoute_routes, if_pos rfl]
  have hobj : (s.withRoute address config).objects s.made = { mPipeConfig := config, mSink := some {} } := by
    rw [withRoute_objects, if_pos rfl]
  have hother : ∀ a r, (s.withRoute address config).routes a = some r →
      a = address ∧ r = s.made ∨ s.routes a = some r := by
    intro a r ha
    rw [withRoute_routes] at ha
    split_ifs at ha with hadr
    · exact .inl ⟨hadr, (Option.some.inj ha).symm⟩
    · exact .inr ha
  have hhome : ∀ a, (s.withRoute address config).routes a = some s.made → a = address := by
    intro a ha
    rcases hother a s.made ha with ⟨hadr, -⟩ | hold
    · exact hadr
    · exact absurd (h.registered_lt hold) (lt_irrefl _)
  have hv : ((s.withRoute address config).objects s.made).isStreamConfigValid isInput config = true := by
    rw [hobj]
    exact valid_of_idle rfl
  have hcompat : ((s.withRoute address config).objects s.made).isStreamConfigCompatible config = true := by
    rw [hobj]
    simp [SubmixRoute.isStreamConfigCompatible]
  obtain ⟨sink, hinit, hlive⟩ := init_joins (findOrCreateRoute_new hnone hl) hplaced hreg hv
  rw [hinit]
  refine (hplaced.join hreg hhome hv hcompat hlive).inv_join fun a r ha hne => ?_
  rcases hother a r ha with ⟨-, hmade⟩ | hold
  · exact absurd hmade hne
  · exact h.used a r hold

theorem init_inv (h : Inv legacy s) (hc : Orderly s (.init address isInput config)) :
    Inv legacy (s.init legacy address isInput config) := by
  rcases hroute : s.routes address with _ | r
  · by_cases hl : legacy config.format = true
    · exact h.init_new hroute hl
    · have hfound := findOrCreateRoute_refused hroute (Bool.eq_false_iff.mpr hl)
      rw [init, hfound]
      exact h.refused rfl
  · have hfound : s.findOrCreateRoute legacy address config = (s, some r) := findOrCreateRoute_known hroute
    by_cases hv : (s.objects r).isStreamConfigValid isInput config = true
    · obtain ⟨sink, hinit, hlive⟩ := init_joins hfound h.toPlaced hroute hv
      have hcompat : (s.objects r).isStreamConfigCompatible config = true := by
        by_cases ho : (s.objects r).hasAtleastOneStreamOpen = true
        · exact compatible_of_valid hv ho
        · exact hc r hroute (Bool.eq_false_iff.mpr ho)
      rw [hinit]
      exact (h.toPlaced.join hroute (h.registered_home hroute) hv hcompat hlive).inv_join
        fun a r' ha _ => h.used a r' ha
    · rw [init, hfound]
      simp only [initOn_invalid (Bool.eq_false_iff.mpr hv), Function.update_eq_self]
      exact h.refused rfl

theorem init_orderly (h : Inv legacy s) (hj : Joined (s.init legacy address isInput config)) :
    Orderly s (.init address isInput config) := by
  intro r hroute hidle
  obtain ⟨sink, hinit, -⟩ := init_joins (findOrCreateRoute_known hroute) h.toPlaced hroute (valid_of_idle hidle)
  rw [hinit] at hj
  obtain ⟨r', hr', -, hcompat⟩ := hj.connected (running address isInput config r)
    (List.mem_append_right _ (List.mem_singleton_self _)) running_isOpen
  obtain rfl : r = r' := Option.some.inj hr'
  rw [join_objects, if_pos rfl, compatible_congr openStream_config] at hcompat
  exact hcompat

end Made

end RemoteSubmix

end ImxHal.Audio.Submix
