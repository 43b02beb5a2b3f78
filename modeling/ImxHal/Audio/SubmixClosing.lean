import ImxHal.Audio.SubmixStreams

/-! @src audio/default/r_submix/StreamRemoteSubmix.cpp | name:submix closing | scheme:run | family:audio

    Streams leave a route one by one; with the last one the pipe is released and the route forgotten.
    The address, not the route, is what a closing stream looks for:

        prepareToClose   findRoute(mDeviceAddress)     frees the output end of WHAT IS THERE NOW
        shutdown         mCurrentRoute                 removeRoute(mDeviceAddress) of WHAT IS THERE NOW -/

namespace ImxHal.Audio.Submix.RemoteSubmix

variable {Address : Type} {s : RemoteSubmix Address} {legacy : AudioFormatDescription → Bool}
  {isInput : Bool} {address : Address} {config : AudioConfig}

/-! ### Closing -/

section Leaving
variable {t : RemoteSubmix Address} {i r : ℕ} {x x' : StreamRemoteSubmix Address}

/-- One stream is open no longer, and at most the route `r` has changed for it. -/
structure Leaving (s t : RemoteSubmix Address) (i r : ℕ) (x x' : StreamRemoteSubmix Address) : Prop where
  place : s.streams[i]? = some x
  streams : t.streams = s.streams.set i x'
  closed : x'.isOpen = false
  elsewhere : ∀ b r', r' ≠ r → x.opens b r' = false
  objects : ∀ r', r' ≠ r → t.objects r' = s.objects r'
  config : (t.objects r).mPipeConfig = (s.objects r).mPipeConfig
  routes : ∀ a, t.routes a = s.routes a ∨ s.routes a = some r ∧ t.routes a = none
  made : t.made = s.made
  old : r < s.made ∨ t.objects r = s.objects r
  alive : t.aborted = false
  stays : x'.worker = .running → x.worker = .running ∧ x'.mCurrentRoute = x.mCurrentRoute ∧
    x'.mDeviceAddress = x.mDeviceAddress
  goes : ∀ r', r' ≠ r → x.worker = .running → x.mCurrentRoute = some r' →
    x'.worker = .running ∧ x'.mCurrentRoute = some r'

/-- The route `r` agrees with what is open on it afterwards, and who is open on it finds it. -/
structure Settles (t : RemoteSubmix Address) (r : ℕ) : Prop extends Settled t r where
  sink : ∀ b, 0 < t.opened b r → (t.objects r).mSink ≠ none
  used : ∀ address, t.routes address = some r →
    ∃ x ∈ t.streams, x.worker = .running ∧ x.mCurrentRoute = some r

theorem Leaving.mem (hl : Leaving s t i r x x') {y : StreamRemoteSubmix Address} :
    y ∈ t.streams ↔ y = x' ∨ ∃ j, j ≠ i ∧ s.streams[j]? = some y := by
  obtain ⟨hlt, -⟩ := List.getElem?_eq_some_iff.mp hl.place
  rw [hl.streams, List.mem_iff_getElem?]
  constructor
  · rintro ⟨j, hj⟩
    by_cases heq : i = j
    · rw [← heq, List.getElem?_set_self hlt] at hj
      exact .inl (Option.some.inj hj).symm
    · rw [List.getElem?_set_ne heq] at hj
      exact .inr ⟨j, Ne.symm heq, hj⟩
  · rintro (rfl | ⟨j, hne, hj⟩)
    · exact ⟨i, List.getElem?_set_self hlt⟩
    · exact ⟨j, by rw [List.getElem?_set_ne hne.symm, hj]⟩

theorem Leaving.opened (hl : Leaving s t i r x x') (b : Bool) (r' : ℕ) :
    t.opened b r' + (if x.opens b r' then 1 else 0) = s.opened b r' := by
  rw [opened_set hl.place hl.streams, StreamRemoteSubmix.not_opens hl.closed]
  simp

theorem Leaving.opened_other (hl : Leaving s t i r x x') (b : Bool) {r' : ℕ} (hne : r' ≠ r) :
    t.opened b r' = s.opened b r' := by
  rw [← hl.opened b r', hl.elsewhere b r' hne]
  simp

theorem Leaving.opened_eq_zero (hl : Leaving s t i r x x') {b : Bool} {r' : ℕ} : t.opened b r' = 0 ↔
    ∀ j y, s.streams[j]? = some y → j ≠ i → y.opens b r' = false := by
  rw [RemoteSubmix.opened_eq_zero]
  constructor
  · intro h j y hj hne
    exact h y (hl.mem.mpr (.inr ⟨j, hne, hj⟩))
  · intro h y hy
    rcases hl.mem.mp hy with rfl | ⟨j, hne, hj⟩
    · exact StreamRemoteSubmix.not_opens hl.closed b r'
    · exact h j y hj hne

theorem Leaving.routes_of (hl : Leaving s t i r x x') {a : Address} {r' : ℕ} (ha : t.routes a = some r') :
    s.routes a = some r' := by
  rcases hl.routes a with hsame | ⟨-, hnone⟩
  · rw [← hsame]
    exact ha
  · rw [hnone] at ha
    exact absurd ha (by simp)

/-- A stream still open after the step was open before, on a route that is registered still. -/
theorem Leaving.connected (hl : Leaving s t i r x x') (h : Inv legacy s) (hs : Settles t r)
    {y : StreamRemoteSubmix Address} (hy : y ∈ t.streams) (ho : y.isOpen = true) :
    ∃ r', y.mCurrentRoute = some r' ∧ t.routes y.mDeviceAddress = some r' ∧
      (s.objects r').isStreamConfigCompatible y.mStreamConfig = true := by
  rcases hl.mem.mp hy with rfl | ⟨j, hne, hj⟩
  · rw [hl.closed] at ho
    exact absurd ho (by simp)
  · obtain ⟨r', hr', hreg, hcompat⟩ := h.connected y (List.mem_of_getElem? hj) ho
    refine ⟨r', hr', ?_, hcompat⟩
    rcases hl.routes y.mDeviceAddress with hsame | ⟨hlost, -⟩
    · rw [hsame]
      exact hreg
    · rw [hreg, Option.some.injEq] at hlost
      subst hlost
      -- The route is counted as open, so that it still has its pipe.
      have hopens : y.opens y.mIsInput r' = true := y.opens_iff.mpr ⟨ho, rfl, hr'⟩
      have hpos : 0 < t.opened y.mIsInput r' := RemoteSubmix.opened_pos.mpr ⟨y, hy, hopens⟩
      obtain ⟨a, ha⟩ := hs.pipes.mp (hs.sink _ hpos)
      rwa [← h.registered_home hreg a (hl.routes_of ha)]

theorem Leaving.inv (hl : Leaving s t i r x x') (h : Inv legacy s) (hs : Settles t r) : Inv legacy t := by
  have hconfig : ∀ r', (t.objects r').mPipeConfig = (s.objects r').mPipeConfig := by
    intro r'
    by_cases heq : r' = r
    · rw [heq]
      exact hl.config
    · rw [hl.objects r' heq]
  have hroutes : ∀ r', r' ≠ r → ((∃ a, t.routes a = some r') ↔ ∃ a, s.routes a = some r') := by
    intro r' hne
    refine exists_congr fun a => ?_
    rcases hl.routes a with hsame | ⟨hlost, hnone⟩
    · rw [hsame]
    · rw [hlost, hnone]
      simp [Ne.symm hne]
  have hsettled : ∀ r', Settled t r' := by
    intro r'
    by_cases heq : r' = r
    · rw [heq]
      exact hs.toSettled
    · exact (h.settled r').congr (hl.objects r' heq) (fun b => hl.opened_other b heq) (hroutes r' heq)
  refine { connected := ?_, settled := hsettled, alive := hl.alive, unmade := ?_, home := ?_, known := ?_,
           used := ?_ }
  · intro y hy ho
    obtain ⟨r', hr', hreg, hcompat⟩ := hl.connected h hs hy ho
    exact ⟨r', hr', hreg, (compatible_congr (hconfig r') _).trans hcompat⟩
  · intro r' hle
    rw [hl.made] at hle
    have hblank := h.unmade r' hle
    by_cases heq : r' = r
    · rcases hl.old with hlt | hsame
      · omega
      · rw [heq] at hblank ⊢
        rw [hsame, hblank]
    · rw [hl.objects r' heq]
      exact hblank
  · intro y hy hw
    rcases hl.mem.mp hy with rfl | ⟨j, -, hj⟩
    · obtain ⟨hxw, hcur, hadr⟩ := hl.stays hw
      obtain ⟨r', hr', hlt, hhome⟩ := h.home x (List.mem_of_getElem? hl.place) hxw
      refine ⟨r', hcur.trans hr', by rw [hl.made]; exact hlt, fun a ha => ?_⟩
      rw [hadr]
      exact hhome a (hl.routes_of ha)
    · obtain ⟨r', hr', hlt, hhome⟩ := h.home y (List.mem_of_getElem? hj) hw
      exact ⟨r', hr', by rw [hl.made]; exact hlt, fun a ha => hhome a (hl.routes_of ha)⟩
  · intro r' hsink
    obtain ⟨a, ha⟩ := (hsettled r').pipes.mp hsink
    rw [hconfig]
    exact h.known r' ((h.settled r').pipes.mpr ⟨a, hl.routes_of ha⟩)
  · intro a r' ha
    by_cases heq : r' = r
    · rw [heq] at ha ⊢
      exact hs.used a ha
    · obtain ⟨y, hy, hw, hcur⟩ := h.used a r' (hl.routes_of ha)
      obtain ⟨j, hj⟩ := List.mem_iff_getElem?.mp hy
      by_cases hji : j = i
      · rw [hji, hl.place, Option.some.injEq] at hj
        subst hj
        exact ⟨x', hl.mem.mpr (.inl rfl), hl.goes r' heq hw hcur⟩
      · exact ⟨y, hl.mem.mpr (.inr ⟨j, hji, hj⟩), hw, hcur⟩

end Leaving

/-! ### An output is prepared for closing -/

section Closing
variable {i r : ℕ} {x : StreamRemoteSubmix Address}

/-- An open stream of the address is on the route of the address. -/
theorem Inv.home_open (h : Inv legacy s) {y : StreamRemoteSubmix Address} {j : ℕ}
    (hj : s.streams[j]? = some y) (ho : y.isOpen = true) (hr : s.routes x.mDeviceAddress = some r) :
    y.mDeviceAddress = x.mDeviceAddress ↔ y.mCurrentRoute = some r := by
  obtain ⟨r', hr', hreg, -⟩ := h.connected y (List.mem_of_getElem? hj) ho
  constructor
  · intro heq
    rw [hr', ← hreg, heq, hr]
  · intro hcur
    rw [hr', Option.some.injEq] at hcur
    subst hcur
    exact h.registered_home hr y.mDeviceAddress hreg

theorem prepareToClose_some (hout : x.mIsInput = false) (hr : s.routes x.mDeviceAddress = some r)
    (hsink : (s.objects r).mSink ≠ none) : s.prepareToClose i x =
      { s with
        objects := Function.update s.objects r
          { s.objects r with mSink := some ⟨true⟩, mStreamOutOpen := false }
        streams := s.streams.set i { x with prepared := true } } := by
  obtain ⟨sink, hsome⟩ := Option.ne_none_iff_exists'.mp hsink
  simp [prepareToClose, hout, hr, hsome, onRoute, MonoPipe.shutdown, SubmixRoute.closeStream]

theorem prepareToClose_none (hout : x.mIsInput = false) (hr : s.routes x.mDeviceAddress = none) :
    s.prepareToClose i x = { s with streams := s.streams.set i { x with prepared := true } } := by
  simp [prepareToClose, hout, hr]

theorem prepared_closed (hout : x.mIsInput = false) :
    ({ x with prepared := true } : StreamRemoteSubmix Address).isOpen = false := by
  simp [StreamRemoteSubmix.isOpen, hout]

/-- Who was on the route is on it still. -/
theorem Leaving.used (h : Inv legacy s) {t : RemoteSubmix Address} {x' : StreamRemoteSubmix Address}
    (hl : Leaving s t i r x x')
    (hx' : x.worker = .running → x.mCurrentRoute = some r → x'.worker = .running ∧ x'.mCurrentRoute = some r)
    (a : Address) (ha : t.routes a = some r) : ∃ y ∈ t.streams, y.worker = .running ∧ y.mCurrentRoute = some r := by
  obtain ⟨y, hy, hw, hcur⟩ := h.used a r (hl.routes_of ha)
  obtain ⟨j, hj⟩ := List.mem_iff_getElem?.mp hy
  by_cases hji : j = i
  · rw [hji, hl.place, Option.some.injEq] at hj
    subst hj
    exact ⟨x', hl.mem.mpr (.inl rfl), hx' hw hcur⟩
  · exact ⟨y, hl.mem.mpr (.inr ⟨j, hji, hj⟩), hw, hcur⟩

theorem prepareToClose_leaving (h : Inv legacy s) (hi : s.streams[i]? = some x) (hout : x.mIsInput = false)
    (hr : s.routes x.mDeviceAddress = some r) :
    Leaving s (s.prepareToClose i x) i r x { x with prepared := true } := by
  have hsink := (h.settled r).pipes.mpr ⟨_, hr⟩
  rw [prepareToClose_some hout hr hsink]
  exact {
    place := hi
    streams := rfl
    closed := prepared_closed hout
    elsewhere := by
      intro b r' hne
      by_contra hopens
      obtain ⟨ho, -, hcur⟩ := x.opens_iff.mp (Bool.eq_true_of_not_eq_false hopens)
      rw [(h.home_open hi ho hr).mp rfl, Option.some.injEq] at hcur
      exact hne hcur.symm
    objects := fun r' hne => Function.update_of_ne hne _ _
    config := by simp
    routes := fun _ => .inl rfl
    made := rfl
    old := .inl (h.registered_lt hr)
    alive := h.alive
    stays := fun hw => ⟨hw, rfl, rfl⟩
    goes := fun r' _ hw hcur => ⟨hw, hcur⟩ }

/-- The route is free of outputs exactly if no other output was open. -/
theorem onlyOutput_iff (h : Inv legacy s) {t : RemoteSubmix Address} {x' : StreamRemoteSubmix Address}
    (hl : Leaving s t i r x x') (hr : s.routes x.mDeviceAddress = some r) :
    t.opened false r = 0 ↔ OnlyOutput s i x := by
  rw [hl.opened_eq_zero]
  constructor
  · intro hzero j y hj hne ho hout hadr
    have hopens : y.opens false r = true :=
      y.opens_iff.mpr ⟨ho, hout, (h.home_open hj ho hr).mp hadr⟩
    rw [hzero j y hj hne] at hopens
    exact absurd hopens (by simp)
  · intro honly j y hj hne
    by_contra hopens
    obtain ⟨ho, hout, hcur⟩ := y.opens_iff.mp (Bool.eq_true_of_not_eq_false hopens)
    exact honly j y hj hne ho hout ((h.home_open hj ho hr).mpr hcur)

theorem prepareToClose_settles (h : Inv legacy s) (hi : s.streams[i]? = some x) (hout : x.mIsInput = false)
    (hr : s.routes x.mDeviceAddress = some r) (honly : OnlyOutput s i x) :
    Settles (s.prepareToClose i x) r := by
  have hl := prepareToClose_leaving h hi hout hr
  have hzero := (onlyOutput_iff h hl hr).mpr honly
  have hcount : (s.prepareToClose i x).opened true r = s.opened true r := by
    have hx : x.opens true r = false := by simp [StreamRemoteSubmix.opens, hout]
    have hopened := hl.opened true r
    rw [hx] at hopened
    simpa using hopened
  have hobj : (s.prepareToClose i x).objects r =
      { s.objects r with mSink := some ⟨true⟩, mStreamOutOpen := false } := by
    rw [prepareToClose_some hout hr ((h.settled r).pipes.mpr ⟨_, hr⟩)]
    exact Function.update_self ..
  have hroutes : (s.prepareToClose i x).routes = s.routes := by
    rw [prepareToClose_some hout hr ((h.settled r).pipes.mpr ⟨_, hr⟩)]
  refine { pipes := ?_, inputs := ?_, outputs := ?_, heard := ?_, sink := ?_, used := ?_ }
  · rw [hobj, hroutes]
    exact iff_of_true (by simp) ⟨_, hr⟩
  · rw [hobj, hcount]
    exact (h.settled r).inputs
  · rw [hobj, hzero]
    simp
  · intro _ hopen
    rw [hobj] at hopen
    exact absurd hopen (by simp)
  · intro b _
    rw [hobj]
    simp
  · exact hl.used h fun hw hcur => ⟨hw, hcur⟩

/-- The output of an unregistered route is not open any more. -/
theorem prepareToClose_unregistered (h : Inv legacy s) (hi : s.streams[i]? = some x)
    (hout : x.mIsInput = false) (hr : s.routes x.mDeviceAddress = none) :
    Inv legacy (s.prepareToClose i x) := by
  rw [prepareToClose_none hout hr]
  have hclosed := h.not_open (List.mem_of_getElem? hi) hr
  have hl : Leaving s { s with streams := s.streams.set i { x with prepared := true } } i s.made x
      { x with prepared := true } :=
    { place := hi, streams := rfl, closed := prepared_closed hout
      elsewhere := fun b r' _ => StreamRemoteSubmix.not_opens hclosed b r'
      objects := fun _ _ => rfl, config := rfl, routes := fun _ => .inl rfl, made := rfl, old := .inr rfl
      alive := h.alive, stays := fun hw => ⟨hw, rfl, rfl⟩, goes := fun _ _ hw hcur => ⟨hw, hcur⟩ }
  have hopened : ∀ b, ({ s with streams := s.streams.set i { x with prepared := true } } :
      RemoteSubmix Address).opened b s.made = s.opened b s.made := by
    intro b
    have hcount := hl.opened b s.made
    rw [StreamRemoteSubmix.not_opens hclosed] at hcount
    simpa using hcount
  refine hl.inv h { toSettled := (h.settled s.made).congr rfl hopened Iff.rfl, sink := fun b hpos => ?_,
                    used := hl.used h fun hw hcur => ⟨hw, hcur⟩ }
  rw [hopened] at hpos
  exact h.sink_of_opened hpos

theorem prepareToClose_inv (h : Inv legacy s) (hi : s.streams[i]? = some x) (hout : x.mIsInput = false)
    (honly : OnlyOutput s i x) : Inv legacy (s.prepareToClose i x) := by
  rcases hr : s.routes x.mDeviceAddress with _ | r
  · exact prepareToClose_unregistered h hi hout hr
  · exact (prepareToClose_leaving h hi hout hr).inv h (prepareToClose_settles h hi hout hr honly)

theorem prepareToClose_onlyOutput (h : Inv legacy s) (hi : s.streams[i]? = some x) (hout : x.mIsInput = false)
    (hj : Joined (s.prepareToClose i x)) : OnlyOutput s i x := by
  rcases hr : s.routes x.mDeviceAddress with _ | r
  · intro j y hjy _ ho _ hadr
    rw [h.not_open (List.mem_of_getElem? hjy) (by rw [hadr, hr])] at ho
    exact absurd ho (by simp)
  · refine (onlyOutput_iff h (prepareToClose_leaving h hi hout hr) hr).mp ?_
    rw [(hj.settled _).outputs, prepareToClose_some hout hr ((h.settled r).pipes.mpr ⟨_, hr⟩)]
    simp

/-! ### A stream is shut down -/

/-- The stream when its worker has gone. -/
def exited (x : StreamRemoteSubmix Address) : StreamRemoteSubmix Address :=
  { x with mCurrentRoute := none, worker := .exited }

theorem Leaving.opened_registered (h : Inv legacy s) {t : RemoteSubmix Address}
    {x' : StreamRemoteSubmix Address} (hl : Leaving s t i r x x') {b : Bool} (hpos : 0 < t.opened b r) :
    (∃ a, s.routes a = some r) ∧ ∃ y ∈ t.streams, y.worker = .running ∧ y.mCurrentRoute = some r := by
  obtain ⟨y, hy, hopens⟩ := opened_pos.mp hpos
  obtain ⟨ho, -, hcur⟩ := y.opens_iff.mp hopens
  rcases hl.mem.mp hy with rfl | ⟨j, -, hj⟩
  · rw [hl.closed] at ho
    exact absurd ho (by simp)
  · exact ⟨⟨_, h.of_opens (List.mem_of_getElem? hj) hopens⟩, y, hy,
      StreamRemoteSubmix.running_of_isOpen ho, hcur⟩

theorem closeStream_sink {route : SubmixRoute} :
    (route.closeStream isInput).mSink ≠ none ↔ route.mSink ≠ none := by
  cases isInput with
  | false => exact Iff.rfl
  | true =>
    simp only [SubmixRoute.closeStream, if_true]
    split_ifs <;> simp

/-- Both ends stay open only when an input leaves that is not the last. -/
theorem closeStream_both {route : SubmixRoute} (hin : (route.closeStream isInput).mStreamInOpen = true)
    (hout : (route.closeStream isInput).mStreamOutOpen = true) : route.mStreamInOpen = true ∧
      route.mStreamOutOpen = true ∧ (route.closeStream isInput).mSink = route.mSink := by
  cases isInput with
  | false => exact absurd hout (by simp [SubmixRoute.closeStream])
  | true =>
    simp only [SubmixRoute.closeStream, if_true] at hin hout ⊢
    split_ifs at hin hout ⊢
    exact ⟨hin, hout, rfl⟩

theorem exited_closed : (exited x).isOpen = false := by simp [exited, StreamRemoteSubmix.isOpen]

variable [DecidableEq Address]

theorem shutdown_kept (ho : ((s.objects r).closeStream x.mIsInput).hasAtleastOneStreamOpen = true) :
    s.shutdown i x r =
      { s with
        objects := Function.update s.objects r ((s.objects r).closeStream x.mIsInput)
        streams := s.streams.set i (exited x) } := by
  simp [shutdown, onRoute, ho, exited]

theorem shutdown_removed (ho : ((s.objects r).closeStream x.mIsInput).hasAtleastOneStreamOpen = false) :
    s.shutdown i x r =
      { s with
        objects := Function.update s.objects r { (s.objects r).closeStream x.mIsInput with mSink := none }
        routes := Function.update s.routes x.mDeviceAddress none
        streams := s.streams.set i (exited x) } := by
  simp [shutdown, onRoute, ho, exited, SubmixRoute.releasePipe]

/-- The route object afterwards, but for its pipe. -/
theorem shutdown_object : ∃ sink, (s.shutdown i x r).objects r =
    { (s.objects r).closeStream x.mIsInput with mSink := sink } := by
  rcases ho : ((s.objects r).closeStream x.mIsInput).hasAtleastOneStreamOpen with _ | _
  · rw [shutdown_removed ho]
    exact ⟨none, Function.update_self ..⟩
  · rw [shutdown_kept ho]
    exact ⟨((s.objects r).closeStream x.mIsInput).mSink, Function.update_self ..⟩

theorem shutdown_other {r' : ℕ} (hne : r' ≠ r) : (s.shutdown i x r).objects r' = s.objects r' := by
  rcases ho : ((s.objects r).closeStream x.mIsInput).hasAtleastOneStreamOpen with _ | _
  · rw [shutdown_removed ho]
    exact Function.update_of_ne hne _ _
  · rw [shutdown_kept ho]
    exact Function.update_of_ne hne _ _

theorem shutdown_frame : (s.shutdown i x r).streams = s.streams.set i (exited x) ∧
    (s.shutdown i x r).made = s.made ∧ (s.shutdown i x r).aborted = s.aborted := by
  rcases ho : ((s.objects r).closeStream x.mIsInput).hasAtleastOneStreamOpen with _ | _
  · rw [shutdown_removed ho]
    exact ⟨rfl, rfl, rfl⟩
  · rw [shutdown_kept ho]
    exact ⟨rfl, rfl, rfl⟩

theorem shutdown_routes (a : Address) : (s.shutdown i x r).routes a =
    if ((s.objects r).closeStream x.mIsInput).hasAtleastOneStreamOpen = false ∧ a = x.mDeviceAddress then none
    else s.routes a := by
  rcases ho : ((s.objects r).closeStream x.mIsInput).hasAtleastOneStreamOpen with _ | _
  · simp [shutdown_removed ho, Function.update_apply]
  · simp [shutdown_kept ho]

theorem closeStream_config {route : SubmixRoute} :
    (route.closeStream isInput).mPipeConfig = route.mPipeConfig := by
  cases isInput with
  | false => rfl
  | true =>
    simp only [SubmixRoute.closeStream, if_true]
    split_ifs <;> rfl

theorem shutdown_leaving (h : Inv legacy s) (hi : s.streams[i]? = some x) (hw : x.worker = .running)
    (hcur : x.mCurrentRoute = some r)
    (hreg : s.routes x.mDeviceAddress = none ∨ s.routes x.mDeviceAddress = some r) :
    Leaving s (s.shutdown i x r) i r x (exited x) where
  place := hi
  streams := shutdown_frame.1
  closed := exited_closed
  elsewhere := by
    intro b r' hne
    by_contra hopens
    obtain ⟨-, -, hr'⟩ := x.opens_iff.mp (Bool.eq_true_of_not_eq_false hopens)
    rw [hcur, Option.some.injEq] at hr'
    exact hne hr'.symm
  objects := fun r' hne => shutdown_other hne
  config := by
    obtain ⟨sink, hobj⟩ := shutdown_object (s := s) (x := x) (i := i) (r := r)
    rw [hobj]
    exact closeStream_config
  routes := by
    intro a
    rw [shutdown_routes]
    split_ifs with hlost
    · rw [hlost.2]
      rcases hreg with hnone | hsome
      · exact .inl hnone.symm
      · exact .inr ⟨hsome, rfl⟩
    · exact .inl rfl
  made := shutdown_frame.2.1
  old := .inl (h.of_running (List.mem_of_getElem? hi) hw hcur).1
  alive := shutdown_frame.2.2.trans h.alive
  stays := fun hw' => absurd hw' (by simp [exited])
  goes := by
    intro r' hne _ hr'
    rw [hcur, Option.some.injEq] at hr'
    exact absurd hr'.symm hne

/-- What is open on the route is counted again without the stream. -/
theorem shutdown_counts (h : Inv legacy s) (hw : x.worker = .running)
    (hcur : x.mCurrentRoute = some r) (hl : Leaving s (s.shutdown i x r) i r x (exited x))
    (hzero : x.mIsInput = false → (s.shutdown i x r).opened false r = 0) :
    (((s.objects r).closeStream x.mIsInput).mInputRefCount = (s.shutdown i x r).opened true r ∧
      (((s.objects r).closeStream x.mIsInput).mStreamInOpen = true ↔ 0 < (s.shutdown i x r).opened true r)) ∧
    (s.shutdown i x r).opened false r =
      if ((s.objects r).closeStream x.mIsInput).mStreamOutOpen then 1 else 0 := by
  obtain ⟨hcount, hopen⟩ := (h.settled r).inputs
  have hin := hl.opened true r
  have hout := hl.opened false r
  cases hx : x.mIsInput with
  | true =>
    have hon : x.opens true r = true := by
      simp [StreamRemoteSubmix.opens, StreamRemoteSubmix.isOpen, hw, hcur, hx]
    have hoff : x.opens false r = false := by simp [StreamRemoteSubmix.opens, hx]
    rw [hon, if_pos rfl] at hin
    rw [hoff] at hout
    have hopened : (s.objects r).mStreamInOpen = true := hopen.mpr (by omega)
    have houtOpen : ((s.objects r).closeStream true).mStreamOutOpen = (s.objects r).mStreamOutOpen := by
      simp only [SubmixRoute.closeStream, if_true]
      split_ifs <;> rfl
    refine ⟨?_, ?_⟩
    · by_cases hlast : (s.objects r).mInputRefCount - 1 = 0
      · simp only [SubmixRoute.closeStream, if_true, if_pos hlast]
        exact ⟨by omega, iff_of_false (by simp) (by omega)⟩
      · simp only [SubmixRoute.closeStream, if_true, if_neg hlast]
        exact ⟨by omega, iff_of_true hopened (by omega)⟩
    · rw [houtOpen, ← (h.settled r).outputs]
      simpa using hout
  | false =>
    have hoff : x.opens true r = false := by simp [StreamRemoteSubmix.opens, hx]
    rw [hoff] at hin
    have hsame : (s.shutdown i x r).opened true r = s.opened true r := by simpa using hin
    refine ⟨?_, ?_⟩
    · rw [hsame]
      exact (h.settled r).inputs
    · rw [hzero hx]
      simp [SubmixRoute.closeStream]

theorem shutdown_settles (h : Inv legacy s) (hi : s.streams[i]? = some x) (hw : x.worker = .running)
    (hcur : x.mCurrentRoute = some r) (hl : Leaving s (s.shutdown i x r) i r x (exited x))
    (hzero : x.mIsInput = false → (s.shutdown i x r).opened false r = 0) :
    Settles (s.shutdown i x r) r := by
  obtain ⟨hinputs, houtputs⟩ := shutdown_counts h hw hcur hl hzero
  have hhome := (h.of_running (List.mem_of_getElem? hi) hw hcur).2
  -- Something is open on the route exactly if a flag says so.
  have hflags : ((s.objects r).closeStream x.mIsInput).hasAtleastOneStreamOpen = true ↔
      ∃ b, 0 < (s.shutdown i x r).opened b r := by
    simp only [SubmixRoute.hasAtleastOneStreamOpen, Bool.or_eq_true, hinputs.2, Bool.exists_bool, houtputs]
    by_cases hout : ((s.objects r).closeStream x.mIsInput).mStreamOutOpen = true
    · simp [hout]
    · simp [hout]
  rcases ho : ((s.objects r).closeStream x.mIsInput).hasAtleastOneStreamOpen with _ | _
  · have hobj : (s.shutdown i x r).objects r = { (s.objects r).closeStream x.mIsInput with mSink := none } := by
      rw [shutdown_removed ho]
      exact Function.update_self ..
    have hgone : ∀ a, (s.shutdown i x r).routes a ≠ some r := by
      intro a ha
      rw [shutdown_routes, ho] at ha
      split_ifs at ha with hadr
      exact hadr ⟨rfl, hhome a ha⟩
    refine { pipes := ?_, inputs := ?_, outputs := ?_, heard := ?_, sink := ?_,
             used := fun a ha => absurd ha (hgone a) }
    · rw [hobj]
      exact iff_of_false (by simp) (not_exists.mpr hgone)
    · rw [hobj]
      exact hinputs
    · rw [hobj]
      exact houtputs
    · intro hin
      rw [hobj] at hin
      have hin' : ((s.objects r).closeStream x.mIsInput).mStreamInOpen = true := hin
      rw [SubmixRoute.hasAtleastOneStreamOpen, hin'] at ho
      exact absurd ho (by simp)
    · intro b hpos
      rw [hflags.mpr ⟨b, hpos⟩] at ho
      exact absurd ho (by simp)
  · have hobj : (s.shutdown i x r).objects r = (s.objects r).closeStream x.mIsInput := by
      rw [shutdown_kept ho]
      exact Function.update_self ..
    have hroutes : ∀ a, (s.shutdown i x r).routes a = s.routes a := by
      intro a
      rw [shutdown_routes, ho]
      simp
    obtain ⟨b, hpos⟩ := hflags.mp ho
    obtain ⟨hreg, huser⟩ := hl.opened_registered h hpos
    refine { pipes := ?_, inputs := ?_, outputs := ?_, heard := ?_, sink := ?_, used := fun _ _ => huser }
    · rw [hobj, closeStream_sink, (h.settled r).pipes]
      simp only [hroutes]
    · rw [hobj]
      exact hinputs
    · rw [hobj]
      exact houtputs
    · intro hin hout
      rw [hobj] at hin hout ⊢
      obtain ⟨hin', hout', hsame⟩ := closeStream_both hin hout
      rw [piped_iff, hsame, ← piped_iff]
      exact (h.settled r).heard hin' hout'
    · intro _ _
      rw [hobj, closeStream_sink]
      exact (h.settled r).pipes.mpr hreg

theorem shutdown_inv (h : Inv legacy s) (hi : s.streams[i]? = some x) (hw : x.worker = .running)
    (hcur : x.mCurrentRoute = some r) (hc : x.mIsInput = false → s.routes x.mDeviceAddress ≠ none →
      s.routes x.mDeviceAddress = x.mCurrentRoute ∧ OnlyOutput s i x) : Inv legacy (s.shutdown i x r) := by
  have hx := List.mem_of_getElem? hi
  have hreg : s.routes x.mDeviceAddress = none ∨ s.routes x.mDeviceAddress = some r := by
    by_cases hnone : s.routes x.mDeviceAddress = none
    · exact .inl hnone
    · cases hin : x.mIsInput with
      | false => exact .inr ((hc hin hnone).1.trans hcur)
      | true =>
        have ho : x.isOpen = true := by simp [StreamRemoteSubmix.isOpen, hw, hin]
        obtain ⟨r', hr', hreg, -⟩ := h.connected x hx ho
        exact .inr (hreg.trans (hr'.symm.trans hcur))
  have hl := shutdown_leaving h hi hw hcur hreg
  refine hl.inv h (shutdown_settles h hi hw hcur hl fun hout => ?_)
  by_cases hnone : s.routes x.mDeviceAddress = none
  · by_contra hne
    obtain ⟨⟨a, ha⟩, -⟩ := hl.opened_registered h (Nat.pos_of_ne_zero hne)
    rw [(h.of_running hx hw hcur).2 a ha, hnone] at ha
    exact absurd ha (by simp)
  · have hsome : s.routes x.mDeviceAddress = some r := (hc hout hnone).1.trans hcur
    exact (onlyOutput_iff h hl hsome).mpr (hc hout hnone).2

/-- A stream whose route has been given away does not end without taking the new one away. -/
theorem shutdown_orderly (h : Inv legacy s) (hi : s.streams[i]? = some x) (hw : x.worker = .running)
    (hcur : x.mCurrentRoute = some r) (hout : x.mIsInput = false) (hne : s.routes x.mDeviceAddress ≠ none)
    (hj : Joined (s.shutdown i x r)) :
    s.routes x.mDeviceAddress = x.mCurrentRoute ∧ OnlyOutput s i x := by
  have hx := List.mem_of_getElem? hi
  have hhome := (h.of_running hx hw hcur).2
  obtain ⟨r', hr'⟩ := Option.ne_none_iff_exists'.mp hne
  have hsame : r' = r := by
    by_contra hother
    have hidle : ∀ b, s.opened b r = 0 := by
      intro b
      by_contra hpos
      obtain ⟨y, hy, hopens⟩ := opened_pos.mp (Nat.pos_of_ne_zero hpos)
      have hreg := h.of_opens hy hopens
      rw [hhome _ hreg, hr', Option.some.injEq] at hreg
      exact hother hreg
    have ho : ((s.objects r).closeStream x.mIsInput).hasAtleastOneStreamOpen = false := by
      have hin : (s.objects r).mStreamInOpen = false := by
        by_contra hopen
        have hpos := (h.settled r).inputs.2.mp (Bool.eq_true_of_not_eq_false hopen)
        rw [hidle] at hpos
        exact absurd hpos (lt_irrefl _)
      simp [hout, SubmixRoute.closeStream, SubmixRoute.hasAtleastOneStreamOpen, hin]
    have hsink : ((s.shutdown i x r).objects r').mSink ≠ none := by
      rw [shutdown_other hother]
      exact (h.settled r').pipes.mpr ⟨_, hr'⟩
    obtain ⟨a, ha⟩ := (hj.settled r').pipes.mp hsink
    rw [shutdown_routes, ho] at ha
    split_ifs at ha with hadr
    exact hadr ⟨rfl, h.registered_home hr' a ha⟩
  subst hsame
  refine ⟨hr'.trans hcur.symm, (onlyOutput_iff h (shutdown_leaving h hi hw hcur (.inr hr')) hr').mp ?_⟩
  obtain ⟨sink, hobj⟩ := shutdown_object (s := s) (x := x) (i := i) (r := r')
  rw [(hj.settled _).outputs, hobj]
  simp [hout, SubmixRoute.closeStream]

/-! ### Any order of calls -/

omit [DecidableEq Address] in
theorem transfer_inv (h : Inv legacy s) (hi : s.streams[i]? = some x) (hw : x.worker = .running)
    (hcur : x.mCurrentRoute = some r) (frameCount : ℕ)
    (hc : x.mIsInput = false → s.routes x.mDeviceAddress = x.mCurrentRoute) :
    Inv legacy (s.transfer x r frameCount) := by
  have hr := (h.of_running (List.mem_of_getElem? hi) hw hcur).1
  have hexit : Inv legacy (s.onRoute r (·.exitStandby x.mIsInput)) := h.onRoute (still_exitStandby _ _) hr
  unfold transfer
  cases hin : x.mIsInput with
  | true =>
    rw [hin] at hexit
    exact hexit.onRoute (f := (inRead · frameCount)) (still_inRead _ frameCount) hr
  | false =>
    rw [hin] at hexit
    have hsink := (hexit.settled r).pipes.mpr ⟨x.mDeviceAddress, (hc hin).trans hcur⟩
    simp only [Bool.false_eq_true, if_false]
    split
    · rename_i hfatal
      unfold outWrite at hfatal
      split at hfatal
      · rename_i hnone
        exact absurd hnone hsink
      · split_ifs at hfatal
    · exact hexit

omit [DecidableEq Address] in
/-- Without its pipe a write is fatal. -/
theorem transfer_registered (h : Inv legacy s) (hi : s.streams[i]? = some x) (hw : x.worker = .running)
    (hcur : x.mCurrentRoute = some r) (frameCount : ℕ) (hout : x.mIsInput = false)
    (hj : Joined (s.transfer x r frameCount)) : s.routes x.mDeviceAddress = x.mCurrentRoute := by
  obtain ⟨hr, hhome⟩ := h.of_running (List.mem_of_getElem? hi) hw hcur
  have hstill := still_exitStandby (s.objects r) false
  by_contra hne
  have hnone : (s.objects r).mSink = none := by
    by_contra hsink
    obtain ⟨a, ha⟩ := (h.settled r).pipes.mp hsink
    rw [hhome a ha, ← hcur] at ha
    exact hne ha
  have hfatal : outWrite ((s.onRoute r (·.exitStandby false)).objects r) = .fatal := by
    rw [onRoute_objects_self, outWrite, hstill.sink, hnone]
  have halive := hj.alive
  simp only [transfer, hout, Bool.false_eq_true, if_false, hfatal] at halive
  exact absurd halive (by simp)

omit [DecidableEq Address] in
/-- A call of a running stream, or none. -/
theorem onRunning_inv (h : Inv legacy s) {call : StreamRemoteSubmix Address → ℕ → RemoteSubmix Address}
    (hcall : ∀ x r, s.streams[i]? = some x → x.worker = .running → x.mCurrentRoute = some r →
      Inv legacy (call x r)) : Inv legacy (s.onRunning i call) := by
  unfold onRunning
  split
  · exact h
  · rename_i x hi
    split
    · rename_i r hw hcur
      exact hcall x r hi hw hcur
    · exact h

omit [DecidableEq Address] in
theorem onRunning_eq {call : StreamRemoteSubmix Address → ℕ → RemoteSubmix Address}
    (hi : s.streams[i]? = some x) (hw : x.worker = .running) (hcur : x.mCurrentRoute = some r) :
    s.onRunning i call = call x r := by
  simp only [onRunning, hi, hw, hcur]

theorem step_inv {e : Event Address} (h : Inv legacy s) (hc : Orderly s e) : Inv legacy (s.step legacy e) := by
  unfold step
  rw [if_neg (by rw [h.alive]; simp)]
  cases e with
  | init address isInput config => exact init_inv h hc
  | start i =>
    exact onRunning_inv h fun x r hi hw hcur =>
      h.onRoute (still_exitStandby _ _) (h.of_running (List.mem_of_getElem? hi) hw hcur).1
  | standby i =>
    exact onRunning_inv h fun x r hi hw hcur =>
      h.onRoute (still_standby _ _) (h.of_running (List.mem_of_getElem? hi) hw hcur).1
  | transfer i frameCount =>
    exact onRunning_inv h fun x r hi hw hcur => transfer_inv h hi hw hcur frameCount (hc x hi hw)
  | prepareToClose i =>
    dsimp only
    split
    · exact h
    · rename_i x hi
      split_ifs with hw
      · exact h
      · cases hin : x.mIsInput with
        | true =>
          rw [prepareToClose, if_pos hin]
          exact h
        | false => exact prepareToClose_inv h hi hin (hc x hi hw hin)
  | shutdown i =>
    exact onRunning_inv h fun x r hi hw hcur => shutdown_inv h hi hw hcur (hc x hi hw)

theorem step_orderly {e : Event Address} (h : Inv legacy s) (hj : Joined (s.step legacy e)) : Orderly s e := by
  unfold step at hj
  rw [if_neg (by rw [h.alive]; simp)] at hj
  cases e with
  | init address isInput config => exact init_orderly h hj
  | start i => trivial
  | standby i => trivial
  | transfer i frameCount =>
    intro x hi hw hout
    obtain ⟨r, hcur, -⟩ := h.home x (List.mem_of_getElem? hi) hw
    dsimp only at hj
    rw [onRunning_eq hi hw hcur] at hj
    exact transfer_registered h hi hw hcur frameCount hout hj
  | prepareToClose i =>
    intro x hi hw hout
    simp only [hi, if_neg hw] at hj
    exact prepareToClose_onlyOutput h hi hout hj
  | shutdown i =>
    intro x hi hw hout hne
    obtain ⟨r, hcur, -⟩ := h.home x (List.mem_of_getElem? hi) hw
    dsimp only at hj
    rw [onRunning_eq hi hw hcur] at hj
    exact shutdown_orderly h hi hw hcur hout hne hj

omit [DecidableEq Address] in
theorem inv_start : Inv legacy ({} : RemoteSubmix Address) where
  connected := fun x hx => absurd hx (by simp)
  settled := fun r =>
    { pipes := iff_of_false (by simp) (by simp)
      inputs := ⟨rfl, iff_of_false (by simp) (by simp [opened])⟩
      outputs := rfl
      heard := fun hin => absurd hin (by simp) }
  alive := rfl
  unmade := fun r _ => rfl
  home := fun x hx => absurd hx (by simp)
  known := fun r hs => absurd rfl hs
  used := fun a r hr => absurd hr (by simp)

/-- A second output is refused, and on being closed frees the end of the first. -/
example : ((Run.run (step (fun _ => true)) ({} : RemoteSubmix String)
    [.init "0" false { format := ⟨1, 1, ""⟩, channelLayout := ⟨3, 3⟩ },
     .init "0" false { format := ⟨1, 1, ""⟩, channelLayout := ⟨3, 3⟩ },
     .prepareToClose 1]).objects 0).mStreamOutOpen = false := by decide

end Closing

end ImxHal.Audio.Submix.RemoteSubmix
