import ImxHal.Alsa.AudioDevice
import ImxHal.Schemes.Run

/-! @src alsa/tinyalsa_hal.cpp (start_output_stream, do_output_standby, out_flush,
    adev_create_audio_patch, adev_release_audio_patch) | name:output routing | scheme:run, exclusive holders |
    family:state machines

    A stream that starts makes room on its device or is refused, but only the others that are not direct make
    room, and nobody does in a call or while SCO runs. A patch moves the stream before it asks for standby:

        direct     ──start──▶ evict the streams that are not direct ──▶ open
        not direct ──start──▶ refused if somebody is there          ──▶ open
        patch      ──▶ device := d ──▶ do_output_standby            (refused in a call: still open) -/

namespace ImxHal.Alsa
open ImxHal.Holders

namespace AudioDevice

inductive Event where
  | open (r : OutRequest)
  | write (i : ℕ) (passthrough ready written : Bool)
  | standby (i : ℕ)
  | flush (i : ℕ) (ready : Bool)
  | createPatch (sources sinks : List PortConfig) (handle : ℤ)
  | releasePatch (patch_handle : ℤ)
  | setMode (mode : ℤ)

def exec : Event → AudioDevice → Option AudioDevice
  | .open r, adev => some (adev.adev_open_output_stream r)
  | .write i passthrough ready written, adev => some (adev.out_write i passthrough ready written)
  | .standby i, adev => some (adev.out_standby i)
  | .flush i ready, adev => adev.out_flush i ready
  | .createPatch sources sinks handle, adev => (adev.adev_create_audio_patch sources sinks handle).map (·.1)
  | .releasePatch patch_handle, adev => some (adev.adev_release_audio_patch patch_handle).1
  | .setMode mode, adev => some (adev.adev_set_mode mode)

def step (s : Option AudioDevice) (e : Event) : Option AudioDevice := s.bind (exec e)

/-- A device before the first output stream is opened. -/
def start (card_list : List AudioCard) (support_multichannel support_lpa lpa_enable b_sco_rx_running : Bool)
    (in_streams : List StreamIn) : AudioDevice :=
  ⟨card_list, support_multichannel, support_lpa, lpa_enable, AUDIO_MODE_NORMAL, b_sco_rx_running, false, [],
    in_streams, AUDIO_PATCH_HANDLE_NONE⟩

/-! ### What is promised -/

/-- The device that a stream out of standby keeps for itself. -/
def heldDevice (stream : StreamOut) : Option (BitVec 32) :=
  if stream.standby ∨ stream.device = AUDIO_DEVICE_OUT_BUS then none else some stream.device

/-- In standby a stream has no handle, out of standby a PCM stream is open on the card of its device. -/
def Fits (adev : AudioDevice) (out : StreamOut) : Prop :=
  if out.standby then out.pcm = none ∧ out.compr = none
  else out.compressed = false → ∃ device, out.pcm = some ⟨(adev.selectCard out).1, device, true⟩

structure Routed (adev : AudioDevice) : Prop where
  exclusive : Exclusive (heldAt heldDevice adev.out_streams)
  fits : ∀ out ∈ adev.out_streams, adev.Fits out

def StaysRouted (_ : Option AudioDevice) (_ : Event) (s' : Option AudioDevice) : Prop :=
  ∃ adev, s' = some adev ∧ adev.Routed

/-! ### The condition -/

/-- Another stream is out of standby on the device. -/
def Taken (adev : AudioDevice) (i : ℕ) (device : BitVec 32) : Prop :=
  device ≠ AUDIO_DEVICE_OUT_BUS ∧
    ∃ (j : ℕ) (stream : StreamOut), j ≠ i ∧ adev.out_streams[j]? = some stream ∧ occupies device stream = true

/-- No other direct stream is on the device of a direct stream that opens, and the others can be evicted. -/
def Startable (adev : AudioDevice) (i : ℕ) (out : StreamOut) (ready : Bool) : Prop :=
  out.direct = true → 0 ≤ (adev.selectCard out).1 → ready = true → out.device ≠ AUDIO_DEVICE_OUT_BUS →
    ∀ (j : ℕ) (stream : StreamOut), j ≠ i → adev.out_streams[j]? = some stream →
      occupies out.device stream = true → stream.direct = false ∧ adev.refusesStandby = false

/-- A stream that cannot be sent to standby moves to a free device of the same card. -/
def Movable (adev : AudioDevice) (i : ℕ) (out : StreamOut) (device : BitVec 32) : Prop :=
  adev.refusesStandby = true → out.standby = false →
    ¬ adev.Taken i device ∧
      (out.compressed = true ∨ (adev.selectCard { out with device := device }).1 = (adev.selectCard out).1)

/-- An open PCM that is flushed opens again, and `card_index` is the card of its device. -/
def Reopenable (adev : AudioDevice) (out : StreamOut) (ready : Bool) : Prop :=
  out.flush = true → out.compressed = false → out.standby = false →
    ready = true ∧ ∃ c, adev.cardAt out.card_index = some c ∧ c.card = (adev.selectCard out).1

def Settled (s : Option AudioDevice) (e : Event) : Prop :=
  ∀ adev, s = some adev → match e with
    | .write i _ ready _ => ∀ out,
        adev.out_streams[i]? = some out → out.standby = true → adev.Startable i out ready
    | .flush i ready => ∀ out, adev.out_streams[i]? = some out → adev.Reopenable out ready
    | .createPatch sources sinks handle => ∀ c, connection sources sinks = some c →
        (handle = AUDIO_PATCH_HANDLE_NONE → adev.next_patch_handle ≠ INT_MAX) ∧
        ∀ mix types i out, c = .toDevices mix types → adev.get_stream_out_by_io_handle_l mix = some (i, out) →
          handle = AUDIO_PATCH_HANDLE_NONE ∨ out.patch_handle = handle → adev.Movable i out (types.headD 0)
    | .releasePatch patch_handle => ∀ i out,
        adev.get_stream_out_by_patch_handle_l patch_handle = some (i, out) →
          adev.Movable i out AUDIO_DEVICE_NONE
    | _ => True

/-! ### The invariant -/

/-- A stream has a PCM or a compressed output, and its writes fail in a row only while it is open. -/
structure Sound (adev : AudioDevice) (out : StreamOut) : Prop where
  fits : adev.Fits out
  kind : if out.compressed then out.pcm = none else out.compr = none
  count : out.standby = true ∨ out.compressed = true → out.writeContiFailCount = 0

structure Inv (adev : AudioDevice) : Prop where
  exclusive : Exclusive (heldAt heldDevice adev.out_streams)
  sound : ∀ out ∈ adev.out_streams, adev.Sound out

section Streams
variable {adev : AudioDevice} {i : ℕ} {out out' : StreamOut} {f : StreamOut → StreamOut} {d : BitVec 32}
variable {force passthrough ready written : Bool}

theorem Inv.routed (h : adev.Inv) : adev.Routed := ⟨h.exclusive, fun out hout => (h.sound out hout).fits⟩

theorem heldDevice_eq_some :
    heldDevice out = some d ↔ occupies d out = true ∧ d ≠ AUDIO_DEVICE_OUT_BUS := by
  rw [heldDevice, occupies, Bool.and_eq_true, decide_eq_true_eq, Bool.not_eq_true']
  split_ifs with h
  · refine iff_of_false (by simp) ?_
    rintro ⟨⟨rfl, hs⟩, hbus⟩
    rcases h with h | h
    · rw [hs] at h
      cases h
    · exact hbus h
  · push Not at h
    rw [Option.some_inj]
    constructor
    · rintro rfl
      exact ⟨⟨rfl, by simpa using h.1⟩, h.2⟩
    · exact fun h => h.1.1

theorem heldDevice_standby (h : out.standby = true) : heldDevice out = none := if_pos (Or.inl h)

theorem taken_iff : adev.Taken i d ↔
    ∃ j, j ≠ i ∧ heldAt heldDevice adev.out_streams j = some d := by
  constructor
  · rintro ⟨hbus, j, stream, hne, hget, hocc⟩
    exact ⟨j, hne, heldAt_eq_some.mpr ⟨stream, hget, heldDevice_eq_some.mpr ⟨hocc, hbus⟩⟩⟩
  · rintro ⟨j, hne, hheld⟩
    obtain ⟨stream, hget, hkey⟩ := heldAt_eq_some.mp hheld
    obtain ⟨hocc, hbus⟩ := heldDevice_eq_some.mp hkey
    exact ⟨hbus, j, stream, hne, hget, hocc⟩

/-! ### One stream -/

theorem selectCard_congr {adev' : AudioDevice} (h : adev'.card_list = adev.card_list) (out : StreamOut) :
    adev'.selectCard out = adev.selectCard out := by
  simp only [selectCard, get_card_for_bus, get_card_for_dsd, get_card_for_compress, get_card_for_device,
    firstCard, h]

theorem Sound.congr {adev' : AudioDevice} (h : adev.Sound out) (hcards : adev'.card_list = adev.card_list) :
    adev'.Sound out := by
  refine ⟨?_, h.kind, h.count⟩
  have hfits := h.fits
  rwa [Fits, ← selectCard_congr hcards] at hfits

theorem fits_standby (hs : out.standby = true) : adev.Fits out ↔ out.pcm = none ∧ out.compr = none := by
  rw [Fits, if_pos hs]

theorem fits_open (hs : out.standby = false) : adev.Fits out ↔
    (out.compressed = false → ∃ device, out.pcm = some ⟨(adev.selectCard out).1, device, true⟩) := by
  rw [Fits, if_neg (by simp [hs])]

theorem Fits.open_pcm (h : adev.Fits out) (hs : out.standby = false) (hc : out.compressed = false) :
    ∃ device, out.pcm = some ⟨(adev.selectCard out).1, device, true⟩ := (fits_open hs).mp h hc

theorem sound_standby (hs : out.standby = true) (hpcm : out.pcm = none) (hcompr : out.compr = none)
    (hcount : out.writeContiFailCount = 0) : adev.Sound out := by
  refine ⟨(fits_standby hs).mpr ⟨hpcm, hcompr⟩, ?_, fun _ => hcount⟩
  · split_ifs
    · exact hpcm
    · exact hcompr

theorem Sound.closed (h : adev.Sound out) (hs : out.standby = true) :
    out.pcm = none ∧ out.compr = none ∧ out.writeContiFailCount = 0 := by
  obtain ⟨hpcm, hcompr⟩ := (fits_standby hs).mp h.fits
  exact ⟨hpcm, hcompr, h.count (Or.inl hs)⟩

/-- Only the device of an open stream ties it to a card. -/
theorem Sound.standby (hkind : if out.compressed then out.pcm = none else out.compr = none)
    (hcount : out.standby = true ∨ out.compressed = true → out.writeContiFailCount = 0)
    (hfits : adev.do_output_standby out force = out → adev.Fits out) :
    adev.Sound (adev.do_output_standby out force) := by
  rcases do_output_standby_cases adev out force with heq | ⟨-, heq⟩
  · rw [heq]
    exact ⟨hfits heq, hkind, hcount⟩
  · rw [heq]
    split_ifs with hc
    · rw [if_pos hc] at hkind
      exact sound_standby rfl hkind rfl (hcount (Or.inr hc))
    · rw [if_neg hc] at hkind
      exact sound_standby rfl rfl hkind rfl

theorem Sound.do_output_standby (h : adev.Sound out) : adev.Sound (adev.do_output_standby out force) :=
  .standby h.kind h.count fun _ => h.fits

theorem heldDevice_do_output_standby (h : heldDevice (adev.do_output_standby out force) = some d) :
    heldDevice out = some d := by
  rcases do_output_standby_cases adev out force with heq | ⟨-, heq⟩
  · rwa [heq] at h
  · rw [heldDevice_standby (by rw [heq]; split_ifs <;> rfl)] at h
    cases h

/-- What a patch does to the stream: it moves, and is sent to standby. -/
theorem Sound.moved (h : adev.Sound out) (types : List (BitVec 32))
    (hcard : adev.refusesStandby = true → out.standby = false →
      out.compressed = true ∨ (adev.selectCard { out with device := d }).1 = (adev.selectCard out).1) :
    adev.Sound (adev.do_output_standby { out with devices := types, device := d } true) := by
  refine .standby h.kind h.count fun heq => ?_
  by_cases hs : out.standby = true
  · have hclosed := h.closed hs
    refine (fits_standby ?_).mpr ⟨hclosed.1, hclosed.2.1⟩
    exact hs
  · rw [Bool.not_eq_true] at hs
    refine (fits_open ?_).mpr fun hc => ?_
    · exact hs
    rcases hrefuse : adev.refusesStandby with _ | _
    · have hforced :
          (adev.do_output_standby { out with devices := types, device := d } true).standby = true :=
        do_output_standby_forced hrefuse
      rw [heq] at hforced
      exact absurd (hs.symm.trans hforced) (by simp)
    · obtain ⟨device, hopen⟩ := h.fits.open_pcm hs hc
      rcases hcard hrefuse hs with hcomp | hsame
      · exact absurd (hc.symm.trans hcomp) (by simp)
      · refine ⟨device, hopen.trans ?_⟩
        rw [← hsame]
        rfl

theorem openStream_eq (hcard : 0 ≤ (adev.selectCard out).1) : adev.openStream out ready =
    (if out.compressed then
      { out with
        card_index := adev.foundIndex out, pcm := none
        compr := opened (adev.selectCard out).1 (adev.selectCard out).2.1 ready }
    else
      { out with
        card_index := adev.foundIndex out
        pcm := opened (adev.selectCard out).1 (adev.selectCard out).2.1 ready },
      if ready then 0 else - EIO) := by
  have hopen : ¬ (adev.selectCard out).1 < 0 := by omega
  refine (if_neg hopen).trans ?_
  rcases out.compressed with _ | _ <;> rfl

theorem openStream_ret :
    (adev.openStream out ready).2 = 0 ↔ 0 ≤ (adev.selectCard out).1 ∧ ready = true := by
  rcases lt_or_ge (adev.selectCard out).1 0 with hcard | hcard
  · rw [openStream, if_pos hcard]
    exact iff_of_false (show -EINVAL ≠ 0 by decide) fun h => absurd h.1 (by omega)
  · rw [openStream_eq hcard]
    rcases ready with _ | _
    · exact iff_of_false (show - EIO ≠ 0 by decide) fun h => absurd h.2 (by simp)
    · exact iff_of_true rfl ⟨hcard, rfl⟩

/-- A failed open leaves the stream closed. -/
theorem openStream_failed (h : adev.Sound out) (hs : out.standby = true)
    (hret : (adev.openStream out ready).2 ≠ 0) :
    adev.Sound (adev.openStream out ready).1 ∧ (adev.openStream out ready).1.standby = true := by
  obtain ⟨hpcm, hcompr, hcount⟩ := h.closed hs
  rcases lt_or_ge (adev.selectCard out).1 0 with hcard | hcard
  · rw [openStream, if_pos hcard]
    exact ⟨sound_standby hs hpcm hcompr hcount, hs⟩
  · obtain rfl : ready = false := by
      by_contra hready
      exact hret (openStream_ret.mpr ⟨hcard, by simpa using hready⟩)
    rw [openStream_eq hcard]
    dsimp only
    split_ifs
    · exact ⟨sound_standby hs rfl rfl hcount, hs⟩
    · exact ⟨sound_standby hs rfl hcompr hcount, hs⟩

/-- An open that succeeds leaves a stream that fits, once it is out of standby. -/
theorem openStream_opened (h : adev.Sound out) (hs : out.standby = true)
    (hret : (adev.openStream out ready).2 = 0) :
    adev.Sound { (adev.openStream out ready).1 with standby := false } ∧
      (adev.openStream out ready).1.device = out.device ∧
      (adev.openStream out ready).1.writeContiFailCount = 0 := by
  obtain ⟨hpcm, hcompr, hcount⟩ := h.closed hs
  obtain ⟨hcard, rfl⟩ := openStream_ret.mp hret
  rw [openStream_eq hcard]
  dsimp only
  split_ifs with hc
  · refine ⟨⟨fun hnot => absurd (hc.symm.trans hnot) (by simp), ?_, fun _ => hcount⟩, rfl, hcount⟩
    refine (if_pos ?_).mpr rfl
    exact hc
  · refine ⟨⟨fun _ => ⟨_, rfl⟩, ?_, fun _ => hcount⟩, rfl, hcount⟩
    refine (if_neg ?_).mpr hcompr
    exact hc

theorem Sound.writeFrames (h : adev.Sound out) (hs : out.standby = false) (written : Bool) :
    adev.Sound (adev.writeFrames out written) := by
  rw [AudioDevice.writeFrames]
  by_cases hc : out.compressed = true
  · rwa [if_pos hc]
  · have hopen : ¬ (out.standby = true ∨ out.compressed = true) := by simp [hs, hc]
    rw [if_neg hc]
    split_ifs
    · exact .standby h.kind (fun hor => absurd hor hopen) fun _ => h.fits
    · exact ⟨h.fits, h.kind, fun hor => absurd hor hopen⟩

theorem heldDevice_writeFrames (h : heldDevice (adev.writeFrames out written) = some d) :
    heldDevice out = some d := by
  rw [AudioDevice.writeFrames] at h
  split_ifs at h
  · exact h
  · have hheld := heldDevice_do_output_standby h
    exact hheld
  · exact h

/-- The first write after a start does not end in standby. -/
theorem writeFrames_first (hcount : out.writeContiFailCount = 0) :
    heldDevice (adev.writeFrames out written) = heldDevice out := by
  have hfirst : failCount out written ≤ 1 := by
    rw [failCount]
    split_ifs <;> omega
  rw [AudioDevice.writeFrames]
  split_ifs with hc hfail
  · rfl
  · rw [Bool.and_eq_true, decide_eq_true_eq] at hfail
    omega
  · rfl

/-! ### All streams -/

theorem modifyOut_getElem? (hget : adev.out_streams[i]? = some out) :
    (adev.modifyOut i f).out_streams[i]? = some (f out) := by
  rw [modifyOut, List.getElem?_modify_eq, hget]
  rfl

/-- One stream changes: the others keep what they have. -/
theorem Inv.modifyOut (h : adev.Inv) (hget : adev.out_streams[i]? = some out)
    (hsound : adev.Sound (f out)) (hfree : ∀ d, heldDevice (f out) = some d → ¬ adev.Taken i d) :
    (adev.modifyOut i f).Inv := by
  constructor
  · refine (exclusive_iff (i := i) h.exclusive fun j hne k hk => ?_).mpr fun j hne k hi hj => ?_
    · rwa [AudioDevice.modifyOut, heldAt_modify_ne hne] at hk
    · rw [AudioDevice.modifyOut, heldAt_modify_ne hne] at hj
      rw [AudioDevice.modifyOut, heldAt_modify_self, hget] at hi
      exact hfree k hi (taken_iff.mpr ⟨j, hne, hj⟩)
  · intro stream hmem
    obtain ⟨j, hj⟩ := List.mem_iff_getElem?.mp hmem
    rcases eq_or_ne j i with rfl | hne
    · obtain rfl := Option.some.inj (hj.symm.trans (modifyOut_getElem? hget))
      exact hsound.congr rfl
    · rw [AudioDevice.modifyOut, List.getElem?_modify_ne f _ hne.symm] at hj
      exact (h.sound stream (List.mem_of_getElem? hj)).congr rfl

/-- Conversely, what is promised of the changed stream is promised of the change. -/
theorem Routed.of_modifyOut (h : (adev.modifyOut i f).Routed) (hget : adev.out_streams[i]? = some out) :
    adev.Fits (f out) ∧ ∀ d, heldDevice (f out) = some d → ¬ adev.Taken i d := by
  refine ⟨h.fits _ (List.mem_of_getElem? (modifyOut_getElem? hget)), fun d hheld htaken => ?_⟩
  obtain ⟨j, hne, hj⟩ := taken_iff.mp htaken
  refine hne (h.exclusive j i d ?_ ?_)
  · rw [AudioDevice.modifyOut, heldAt_modify_ne hne]
    exact hj
  · rw [AudioDevice.modifyOut, heldAt_modify_self, hget]
    exact hheld

theorem Inv.evict (h : adev.Inv) (out : StreamOut) : (adev.evict out).Inv := by
  constructor
  · refine h.exclusive.mono fun j k hk => heldAt_map (fun stream d hd => ?_) hk
    split_ifs at hd
    · exact heldDevice_do_output_standby hd
    · exact hd
  · intro stream hmem
    obtain ⟨old, hold, rfl⟩ := List.mem_map.mp hmem
    split_ifs
    · exact (h.sound old hold).do_output_standby.congr rfl
    · exact (h.sound old hold).congr rfl

/-- Who is left on the device after the eviction was there before, and is direct or cannot leave. -/
theorem taken_evict (hd : d = out.device) : (adev.evict out).Taken i d ↔ d ≠ AUDIO_DEVICE_OUT_BUS ∧
    ∃ (j : ℕ) (stream : StreamOut), j ≠ i ∧ adev.out_streams[j]? = some stream ∧
      occupies d stream = true ∧ (stream.direct = true ∨ adev.refusesStandby = true) := by
  subst hd
  refine and_congr_right fun _ => exists_congr fun j => ?_
  constructor
  · rintro ⟨stream, hne, hget, hocc⟩
    rw [AudioDevice.evict, List.getElem?_map, Option.map_eq_some_iff] at hget
    obtain ⟨old, hold, rfl⟩ := hget
    split_ifs at hocc with hevict
    · rw [Bool.and_eq_true] at hevict
      rcases hrefuse : adev.refusesStandby with _ | _
      · rw [occupies, do_output_standby_forced hrefuse] at hocc
        simp at hocc
      · exact ⟨old, hne, hold, hevict.1, Or.inr rfl⟩
    · refine ⟨old, hne, hold, hocc, Or.inl ?_⟩
      rw [hocc] at hevict
      simpa using hevict
  · rintro ⟨stream, hne, hget, hocc, hstay⟩
    refine ⟨stream, hne, ?_, hocc⟩
    rw [AudioDevice.evict, List.getElem?_map, hget, Option.map_some, Option.some_inj]
    split_ifs with hevict
    · rcases hstay with hdirect | hrefuse
      · rw [hdirect] at hevict
        simp at hevict
      · exact do_output_standby_refused hrefuse
    · rfl

theorem taken_makeRoom_direct (hdirect : out.direct = true) (hd : d = out.device) :
    (adev.makeRoom out).Taken i d ↔ d ≠ AUDIO_DEVICE_OUT_BUS ∧
      ∃ (j : ℕ) (stream : StreamOut), j ≠ i ∧ adev.out_streams[j]? = some stream ∧
        occupies d stream = true ∧ (stream.direct = true ∨ adev.refusesStandby = true) := by
  rw [makeRoom, if_pos hdirect, taken_evict hd]

theorem Inv.makeRoom (h : adev.Inv) (out : StreamOut) : (adev.makeRoom out).Inv := by
  rw [AudioDevice.makeRoom]
  split_ifs
  · exact h.evict out
  · exact h

theorem makeRoom_card_list (out : StreamOut) : (adev.makeRoom out).card_list = adev.card_list := by
  rw [makeRoom]
  split_ifs <;> rfl

theorem makeRoom_getElem? (hget : adev.out_streams[i]? = some out) (out' : StreamOut) :
    ∃ stream, (adev.makeRoom out').out_streams[i]? = some stream := by
  rw [makeRoom]
  split_ifs
  · exact ⟨_, by rw [evict, List.getElem?_map, hget]; rfl⟩
  · exact ⟨out, hget⟩

end Streams

/-! ### The calls -/

section Calls
variable {adev : AudioDevice} {i : ℕ} {out : StreamOut} {passthrough ready written : Bool}

/-- A stream that is not direct is refused, or opened where nobody else is. -/
theorem start_cases (adev : AudioDevice) (i : ℕ) (out : StreamOut) (passthrough ready : Bool) :
    (out.direct = false ∧ adev.start_output_stream i out passthrough ready = (adev, -EBUSY)) ∨
    ((out.direct = false → out.device ≠ AUDIO_DEVICE_OUT_BUS →
        ∀ stream ∈ adev.out_streams, occupies out.device stream = false) ∧
      adev.start_output_stream i out passthrough ready =
        ((adev.makeRoom out).modifyOut i fun _ => ((adev.makeRoom out).openStream out ready).1,
          ((adev.makeRoom out).openStream out ready).2)) := by
  rw [start_output_stream]
  dsimp only
  split_ifs with hbusy hpass
  · simp only [Bool.and_eq_true, Bool.not_eq_true'] at hbusy
    refine Or.inl ⟨hbusy.1.1, ?_⟩
    rw [makeRoom, hbusy.1.1]
    rfl
  · simp only [Bool.and_eq_true, Bool.not_eq_true'] at hpass
    refine Or.inl ⟨hpass.2, ?_⟩
    rw [makeRoom, hpass.2]
    rfl
  · refine Or.inr ⟨fun hdirect hbus stream hmem => ?_, rfl⟩
    rw [makeRoom, hdirect] at hbusy
    by_contra hocc
    refine hbusy ?_
    simp only [Bool.and_eq_true, decide_eq_true_eq]
    exact ⟨⟨rfl, hbus⟩, List.any_eq_true.mpr ⟨stream, hmem, by simpa using hocc⟩⟩

/-- A write to a stream in standby changes nothing, leaves it in standby, or starts it. -/
theorem write_cases (h : adev.Inv) (hget : adev.out_streams[i]? = some out) (hs : out.standby = true)
    (passthrough ready written : Bool) :
    (out.direct = false ∧ adev.out_write i passthrough ready written = adev) ∨
    (¬ (0 ≤ (adev.selectCard out).1 ∧ ready = true) ∧
      (adev.out_write i passthrough ready written).Inv) ∨
    ((0 ≤ (adev.selectCard out).1 ∧ ready = true) ∧
      (out.direct = false → out.device ≠ AUDIO_DEVICE_OUT_BUS →
        ∀ stream ∈ adev.out_streams, occupies out.device stream = false) ∧
      ∃ out' : StreamOut, (adev.makeRoom out).Sound out' ∧
        heldDevice out' = heldDevice { out with standby := false } ∧
        adev.out_write i passthrough ready written = (adev.makeRoom out).modifyOut i fun _ => out') := by
  have hroom := h.makeRoom out
  have hout : (adev.makeRoom out).Sound out :=
    (h.sound out (List.mem_of_getElem? hget)).congr (makeRoom_card_list out)
  have hselect : (adev.makeRoom out).selectCard out = adev.selectCard out :=
    selectCard_congr (makeRoom_card_list out) out
  have hret : ((adev.makeRoom out).openStream out ready).2 = 0 ↔
      0 ≤ (adev.selectCard out).1 ∧ ready = true := by
    rw [openStream_ret, hselect]
  obtain ⟨stream, hstream⟩ := makeRoom_getElem? hget out
  rw [out_write, hget]
  dsimp only
  rw [if_pos hs]
  rcases start_cases adev i out passthrough ready with ⟨hdirect, hstart⟩ | ⟨hfree, hstart⟩
  · refine Or.inl ⟨hdirect, ?_⟩
    rw [hstart]
    rfl
  · rw [hstart]
    dsimp only
    refine Or.inr ?_
    by_cases hzero : ((adev.makeRoom out).openStream out ready).2 = 0
    · obtain ⟨hsound, hdevice, hcount⟩ := openStream_opened hout hs hzero
      refine Or.inr ⟨hret.mp hzero, hfree, _, hsound.writeFrames rfl written, ?_, ?_⟩
      · refine (writeFrames_first ?_).trans ?_
        · exact hcount
        · rw [heldDevice, heldDevice]
          dsimp only
          rw [hdevice]
      · rw [if_neg (not_not.mpr hzero)]
        simp only [modifyOut, List.modify_modify_eq]
        rfl
    · obtain ⟨hsound, hstandby⟩ := openStream_failed hout hs hzero
      refine Or.inl ⟨fun hok => hzero (hret.mpr hok), ?_⟩
      rw [if_pos hzero]
      refine hroom.modifyOut hstream hsound fun d hd => ?_
      rw [heldDevice_standby hstandby] at hd
      cases hd

theorem Inv.not_taken {d : BitVec 32} (h : adev.Inv) (hget : adev.out_streams[i]? = some out)
    (hd : heldDevice out = some d) : ¬ adev.Taken i d := by
  intro htaken
  obtain ⟨j, hne, hj⟩ := taken_iff.mp htaken
  exact hne (h.exclusive j i d hj (heldAt_eq_some.mpr ⟨out, hget, hd⟩))

theorem heldDevice_started {d : BitVec 32} (h : heldDevice { out with standby := false } = some d) :
    d = out.device ∧ d ≠ AUDIO_DEVICE_OUT_BUS := by
  obtain ⟨hocc, hbus⟩ := heldDevice_eq_some.mp h
  rw [occupies, Bool.and_eq_true, decide_eq_true_eq] at hocc
  exact ⟨hocc.1.symm, hbus⟩

theorem Inv.write (h : adev.Inv)
    (hc : ∀ out, adev.out_streams[i]? = some out → out.standby = true → adev.Startable i out ready) :
    (adev.out_write i passthrough ready written).Inv := by
  rcases hget : adev.out_streams[i]? with _ | out
  · rw [out_write, hget]
    exact h
  · rcases hs : out.standby with _ | _
    · have hsound := h.sound out (List.mem_of_getElem? hget)
      rw [out_write, hget]
      dsimp only
      rw [if_neg (by simp [hs])]
      exact h.modifyOut hget (hsound.writeFrames hs written) fun d hd =>
        h.not_taken hget (heldDevice_writeFrames hd)
    · rcases write_cases h hget hs passthrough ready written with
        ⟨-, heq⟩ | ⟨-, hinv⟩ | ⟨⟨hcard, hready⟩, hfree, out', hsound, hheld, heq⟩
      · rw [heq]
        exact h
      · exact hinv
      · obtain ⟨stream, hstream⟩ := makeRoom_getElem? hget out
        rw [heq]
        refine (h.makeRoom out).modifyOut hstream hsound fun d hd htaken => ?_
        rw [hheld] at hd
        obtain ⟨rfl, hbus⟩ := heldDevice_started hd
        rcases hdirect : out.direct with _ | _
        · rw [AudioDevice.makeRoom, hdirect] at htaken
          obtain ⟨-, j, other, -, hj, hocc⟩ := htaken
          rw [hfree hdirect hbus other (List.mem_of_getElem? hj)] at hocc
          cases hocc
        · obtain ⟨-, j, other, hne, hj, hocc, hstay⟩ := (taken_makeRoom_direct hdirect rfl).mp htaken
          obtain ⟨hother, hrefuse⟩ := hc out hget hs hdirect hcard hready hbus j other hne hj hocc
          rcases hstay with hstay | hstay
          · exact absurd (hother.symm.trans hstay) (by simp)
          · exact absurd (hrefuse.symm.trans hstay) (by simp)

theorem startable_of_write (h : adev.Inv) (hr : (adev.out_write i passthrough ready written).Routed)
    (hget : adev.out_streams[i]? = some out) (hs : out.standby = true) : adev.Startable i out ready := by
  intro hdirect hcard hready hbus j other hne hj hocc
  rcases write_cases h hget hs passthrough ready written with
    ⟨hnot, -⟩ | ⟨hnot, -⟩ | ⟨-, -, out', -, hheld, heq⟩
  · exact absurd (hnot.symm.trans hdirect) (by simp)
  · exact absurd ⟨hcard, hready⟩ hnot
  · obtain ⟨stream, hstream⟩ := makeRoom_getElem? hget out
    rw [heq] at hr
    have hd : heldDevice out' = some out.device := by
      rw [hheld]
      exact heldDevice_eq_some.mpr ⟨by rw [occupies]; simp, hbus⟩
    have hfree := (hr.of_modifyOut hstream).2 _ hd
    rw [taken_makeRoom_direct hdirect rfl] at hfree
    constructor
    · by_contra hstay
      exact hfree ⟨hbus, j, other, hne, hj, hocc, Or.inl (by simpa using hstay)⟩
    · by_contra hstay
      exact hfree ⟨hbus, j, other, hne, hj, hocc, Or.inr (by simpa using hstay)⟩

/-- Only an open PCM is flushed, and only if its card is known. -/
theorem out_flush_cases (h : adev.Inv) (hget : adev.out_streams[i]? = some out) (ready : Bool) :
    ((out.flush = false ∨ out.compressed = true ∨ out.standby = true) ∧
      adev.out_flush i ready = some adev) ∨
    (out.flush = true ∧ out.compressed = false ∧ out.standby = false ∧
      adev.out_flush i ready = (adev.cardAt out.card_index).map fun c =>
        adev.modifyOut i fun out => { out with pcm := some ⟨c.card, 0, ready⟩, standby := false }) := by
  have hsound := h.sound out (List.mem_of_getElem? hget)
  rw [out_flush, hget]
  dsimp only
  rcases hflush : out.flush with _ | _
  · exact Or.inl ⟨Or.inl rfl, rfl⟩
  · rcases hc : out.compressed with _ | _
    · rcases hs : out.standby with _ | _
      · obtain ⟨device, hpcm⟩ := hsound.fits.open_pcm hs hc
        refine Or.inr ⟨rfl, rfl, rfl, ?_⟩
        rw [if_neg (by simp [hpcm])]
      · refine Or.inl ⟨Or.inr (Or.inr rfl), ?_⟩
        rw [if_pos (by simp [(hsound.closed hs).1])]
    · exact Or.inl ⟨Or.inr (Or.inl rfl), rfl⟩

theorem Inv.flush (h : adev.Inv) (hc : ∀ out, adev.out_streams[i]? = some out → adev.Reopenable out ready) :
    ∃ adev', adev.out_flush i ready = some adev' ∧ adev'.Inv := by
  rcases hget : adev.out_streams[i]? with _ | out
  · exact ⟨adev, by rw [out_flush, hget], h⟩
  · rcases out_flush_cases h hget ready with ⟨-, heq⟩ | ⟨hflush, hcomp, hs, heq⟩
    · exact ⟨adev, heq, h⟩
    · obtain ⟨rfl, c, hcard, hsame⟩ := hc out hget hflush hcomp hs
      have hsound := h.sound out (List.mem_of_getElem? hget)
      have hnot : ¬ out.compressed = true := by simp [hcomp]
      rw [heq, hcard]
      refine ⟨_, rfl, h.modifyOut hget ⟨fun _ => ⟨0, by rw [hsame]; rfl⟩, ?_, ?_⟩ fun d hd => ?_⟩
      · have hkind := hsound.kind
        rw [if_neg hnot] at hkind
        refine (if_neg ?_).mpr hkind
        exact hnot
      · exact fun hor => (hor.elim (by simp) hnot).elim
      · refine h.not_taken hget ?_
        rw [← hd, heldDevice, heldDevice, hs]

theorem reopenable_of_flush {adev' : AudioDevice} (h : adev.Inv) (hrun : adev.out_flush i ready = some adev')
    (hr : adev'.Routed) (hget : adev.out_streams[i]? = some out) : adev.Reopenable out ready := by
  intro hflush hcomp hs
  rcases out_flush_cases h hget ready with ⟨hnot, -⟩ | ⟨-, -, -, heq⟩
  · simp [hflush, hcomp, hs] at hnot
  · rw [heq, Option.map_eq_some_iff] at hrun
    obtain ⟨c, hcard, rfl⟩ := hrun
    obtain ⟨device, hpcm⟩ := (hr.of_modifyOut hget).1.open_pcm rfl hcomp
    obtain ⟨hsame, -, hready⟩ := Pcm.mk.inj (Option.some.inj hpcm)
    exact ⟨hready, c, hcard, hsame⟩

end Calls

/-! ### The patches -/

section Patches
variable {adev : AudioDevice} {i : ℕ} {out : StreamOut} {f : StreamOut → StreamOut} {d : BitVec 32}
variable {types : List (BitVec 32)} {patch_handle : ℤ}

theorem Inv.congr {adev' : AudioDevice} (h : adev.Inv) (hstreams : adev'.out_streams = adev.out_streams)
    (hcards : adev'.card_list = adev.card_list) : adev'.Inv := by
  constructor
  · rw [hstreams]
    exact h.exclusive
  · rw [hstreams]
    exact fun out hout => (h.sound out hout).congr hcards

/-- The stream after a patch call moved it. -/
def moved (adev : AudioDevice) (out : StreamOut) (types : List (BitVec 32)) (d : BitVec 32)
    (patch_handle : ℤ) : StreamOut :=
  { adev.do_output_standby { out with devices := types, device := d } true with patch_handle := patch_handle }

theorem connectOut_eq (adev : AudioDevice) (out : StreamOut) (types : List (BitVec 32)) (patch_handle : ℤ) :
    (out.device ≠ types.headD 0 ∧
      adev.connectOut types patch_handle out = adev.moved out types (types.headD 0) patch_handle) ∨
    (out.device = types.headD 0 ∧
      adev.connectOut types patch_handle out =
        { out with devices := types, patch_handle := patch_handle }) := by
  rw [connectOut]
  dsimp only
  by_cases heq : out.device = types.headD 0
  · rw [if_neg (not_not.mpr heq)]
    exact Or.inr ⟨heq, rfl⟩
  · rw [if_pos heq]
    exact Or.inl ⟨heq, rfl⟩

theorem moved_refused (h : adev.refusesStandby = true) : adev.moved out types d patch_handle =
    { out with devices := types, device := d, patch_handle := patch_handle } := by
  rw [moved, do_output_standby_refused h]

theorem connectOut_refused (h : adev.refusesStandby = true) : adev.connectOut types patch_handle out =
    { out with devices := types, device := types.headD 0, patch_handle := patch_handle } := by
  rcases connectOut_eq adev out types patch_handle with
    ⟨-, heq⟩ | ⟨hdevice, heq⟩
  · rw [heq, moved_refused h]
  · rw [heq, ← hdevice]

theorem Inv.moved (h : adev.Inv) (hget : adev.out_streams[i]? = some out) (hmove : adev.Movable i out d)
    (types : List (BitVec 32)) (patch_handle : ℤ) :
    adev.Sound (adev.moved out types d patch_handle) ∧
      ∀ d', heldDevice (adev.moved out types d patch_handle) = some d' → ¬ adev.Taken i d' := by
  have hsound := (h.sound out (List.mem_of_getElem? hget)).moved (d := d) types fun hrefuse hs =>
    (hmove hrefuse hs).2
  refine ⟨⟨hsound.fits, hsound.kind, hsound.count⟩, fun d' hd' => ?_⟩
  rcases hrefuse : adev.refusesStandby with _ | _
  · have hnone : heldDevice (adev.moved out types d patch_handle) = none :=
      heldDevice_standby (do_output_standby_forced hrefuse)
    exact absurd (hnone.symm.trans hd') (by simp)
  · rw [moved_refused hrefuse] at hd'
    obtain ⟨hocc, -⟩ := heldDevice_eq_some.mp hd'
    rw [occupies, Bool.and_eq_true, decide_eq_true_eq, Bool.not_eq_true'] at hocc
    obtain ⟨rfl, hs⟩ := hocc
    exact (hmove hrefuse hs).1

theorem Inv.connectOut (h : adev.Inv) (hget : adev.out_streams[i]? = some out)
    (hmove : adev.Movable i out (types.headD 0)) :
    (adev.modifyOut i (adev.connectOut types patch_handle)).Inv := by
  have hsound := h.sound out (List.mem_of_getElem? hget)
  rcases connectOut_eq adev out types patch_handle with
    ⟨-, heq⟩ | ⟨-, heq⟩
  · obtain ⟨hmoved, hfree⟩ := h.moved hget hmove types patch_handle
    rw [← heq] at hmoved hfree
    exact h.modifyOut hget hmoved hfree
  · have hkeep : adev.Sound (adev.connectOut types patch_handle out) := by
      rw [heq]
      exact ⟨hsound.fits, hsound.kind, hsound.count⟩
    refine h.modifyOut hget hkeep fun d hd => ?_
    rw [heq] at hd
    exact h.not_taken hget hd

/-- A stream that moved without standby was allowed to. -/
theorem movable_of_routed (h : adev.Inv) (hget : adev.out_streams[i]? = some out)
    (hf : adev.refusesStandby = true →
      f out = { out with devices := types, device := d, patch_handle := patch_handle })
    (hr : (adev.modifyOut i f).Routed) : adev.Movable i out d := by
  intro hrefuse hs
  obtain ⟨hfits, hfree⟩ := hr.of_modifyOut hget
  rw [hf hrefuse] at hfits hfree
  constructor
  · intro htaken
    exact hfree d (heldDevice_eq_some.mpr ⟨by simp [occupies, hs], htaken.1⟩) htaken
  · rcases hc : out.compressed with _ | _
    · refine Or.inr ?_
      obtain ⟨device, hnew⟩ := hfits.open_pcm hs hc
      obtain ⟨device', hold⟩ := (h.sound out (List.mem_of_getElem? hget)).fits.open_pcm hs hc
      exact (Pcm.mk.inj (Option.some.inj (hnew.symm.trans hold))).1
    · exact Or.inl rfl

variable {c : Connection} {generated : Bool} {handle : ℤ}

theorem Inv.connect (h : adev.Inv) (hc : ∀ mix types i out, c = .toDevices mix types →
      adev.get_stream_out_by_io_handle_l mix = some (i, out) →
        generated = true ∨ out.patch_handle = handle → adev.Movable i out (types.headD 0)) :
    ((adev.connect c generated handle).getD adev).Inv := by
  rcases c with ⟨type, mix⟩ | ⟨mix, types⟩ <;> rw [AudioDevice.connect]
  · rcases adev.get_stream_in_by_io_handle_l mix with _ | ⟨i, in_⟩ <;> dsimp only
    · exact h
    · split_ifs
      · exact h
      · exact h.congr rfl rfl
  · rcases hfind : adev.get_stream_out_by_io_handle_l mix with _ | ⟨i, out⟩ <;> dsimp only
    · exact h
    · split_ifs with hmismatch
      · exact h
      · refine h.connectOut (locate_eq_some hfind).1 (hc mix types i out rfl hfind ?_)
        rcases generated with _ | _
        · exact Or.inr (by simpa using hmismatch)
        · exact Or.inl rfl

theorem movable_of_connect {mix : ℤ} (h : adev.Inv)
    (hr : ((adev.connect (.toDevices mix types) generated handle).getD adev).Routed)
    (hfind : adev.get_stream_out_by_io_handle_l mix = some (i, out))
    (hmatch : generated = true ∨ out.patch_handle = handle) : adev.Movable i out (types.headD 0) := by
  rw [connect_toDevices hfind hmatch] at hr
  exact movable_of_routed h (locate_eq_some hfind).1 (fun hrefuse => connectOut_refused hrefuse) hr

theorem create_device (adev : AudioDevice) (sources sinks : List PortConfig) (handle : ℤ) :
    (adev.adev_create_audio_patch sources sinks handle).map (·.1) =
      match connection sources sinks with
      | none => some adev
      | some c =>
        if handle = AUDIO_PATCH_HANDLE_NONE then
          if adev.next_patch_handle = INT_MAX then none
          else some ((adev.numbered.connect c true adev.numbered.next_patch_handle).getD adev.numbered)
        else some ((adev.connect c false handle).getD adev) := by
  rw [adev_create_audio_patch]
  rcases connection sources sinks with _ | c
  · rfl
  · dsimp only
    split_ifs
    · rfl
    · rcases adev.numbered.connect c true adev.numbered.next_patch_handle with _ | adev' <;> rfl
    · rfl

theorem Inv.release (h : adev.Inv) (hc : ∀ i out,
      adev.get_stream_out_by_patch_handle_l patch_handle = some (i, out) →
        adev.Movable i out AUDIO_DEVICE_NONE) :
    (adev.adev_release_audio_patch patch_handle).1.Inv := by
  rw [adev_release_audio_patch]
  rcases hfind : adev.get_stream_out_by_patch_handle_l patch_handle with _ | ⟨i, out⟩ <;> dsimp only
  · rcases adev.get_stream_in_by_patch_handle_l patch_handle with _ | ⟨i, in_⟩
    · exact h
    · exact h.congr rfl rfl
  · obtain ⟨hsound, hfree⟩ := h.moved (locate_eq_some hfind).1 (hc i out hfind) []
      AUDIO_PATCH_HANDLE_NONE
    exact h.modifyOut (locate_eq_some hfind).1 hsound hfree

theorem movable_of_release (h : adev.Inv) (hr : (adev.adev_release_audio_patch patch_handle).1.Routed)
    (hfind : adev.get_stream_out_by_patch_handle_l patch_handle = some (i, out)) :
    adev.Movable i out AUDIO_DEVICE_NONE := by
  rw [adev_release_audio_patch, hfind] at hr
  exact movable_of_routed h (locate_eq_some hfind).1 (fun hrefuse => moved_refused hrefuse) hr

end Patches

/-! ### The open -/

theorem configure_standby {adev : AudioDevice} {r : OutRequest} {out : StreamOut}
    (h : adev.configure r = some out) : ∃ format flush, out = newStream r format flush := by
  rw [configure] at h
  cases hkind : adev.outKind r <;> rw [hkind] at h <;> dsimp only at h
  case offload | hdmi | primary =>
    split_ifs at h
    all_goals exact ⟨_, _, (Option.some.inj h).symm⟩
  case dsd | esai | mixer => exact ⟨_, _, (Option.some.inj h).symm⟩

/-- A new stream is in standby. -/
theorem Inv.open {adev : AudioDevice} (h : adev.Inv) (r : OutRequest) :
    (adev.adev_open_output_stream r).Inv := by
  rw [adev_open_output_stream]
  rcases hstream : adev.configure r with _ | out <;> dsimp only
  · exact h.congr rfl rfl
  · obtain ⟨format, flush, rfl⟩ := configure_standby hstream
    split_ifs
    · constructor
      · have hnone : heldDevice (newStream r format flush) = none := heldDevice_standby rfl
        have hheld := heldAt_concat (l := adev.out_streams) hnone
        dsimp only
        rw [hheld]
        exact h.exclusive
      · intro stream hmem
        rcases List.mem_append.mp hmem with hold | hnew
        · exact (h.sound stream hold).congr rfl
        · obtain rfl := List.mem_singleton.mp hnew
          exact sound_standby rfl rfl rfl rfl
    · exact h.congr rfl rfl

/-! ### Every run -/

theorem inv_start (card_list : List AudioCard) (support_multichannel support_lpa lpa_enable sco : Bool)
    (in_streams : List StreamIn) :
    (start card_list support_multichannel support_lpa lpa_enable sco in_streams).Inv := by
  constructor
  · rintro i j k hi -
    cases hi
  · intro out hout
    cases hout

theorem step_kept {adev : AudioDevice} {e : Event} (h : adev.Inv) (hc : Settled (some adev) e) :
    ∃ adev', step (some adev) e = some adev' ∧ adev'.Inv := by
  have hc := hc adev rfl
  cases e with
  | «open» r => exact ⟨_, rfl, h.open r⟩
  | write i passthrough ready written => exact ⟨_, rfl, h.write hc⟩
  | standby i =>
    refine ⟨_, rfl, ?_⟩
    rcases hget : adev.out_streams[i]? with _ | out
    · refine h.congr ?_ rfl
      exact List.modify_eq_self (List.getElem?_eq_none_iff.mp hget)
    · exact h.modifyOut hget (h.sound out (List.mem_of_getElem? hget)).do_output_standby fun d hd =>
        h.not_taken hget (heldDevice_do_output_standby hd)
  | flush i ready => exact h.flush hc
  | createPatch sources sinks handle =>
    dsimp only at hc
    have hrun := create_device adev sources sinks handle
    rcases hports : connection sources sinks with _ | c <;> rw [hports] at hrun <;> dsimp only at hrun
    · exact ⟨adev, hrun, h⟩
    · obtain ⟨hmax, hmove⟩ := hc c hports
      split_ifs at hrun with hnone hfull
      · exact absurd hfull (hmax hnone)
      · have hinv : adev.numbered.Inv := h.congr rfl rfl
        refine ⟨_, hrun, hinv.connect fun mix types i out heq hfind _ => ?_⟩
        exact hmove mix types i out heq hfind (Or.inl hnone)
      · refine ⟨_, hrun, h.connect fun mix types i out heq hfind hmatch => ?_⟩
        refine hmove mix types i out heq hfind (Or.inr ?_)
        simpa using hmatch
  | releasePatch patch_handle => exact ⟨_, rfl, h.release hc⟩
  | setMode mode => exact ⟨_, rfl, h.congr rfl rfl⟩

theorem settled_of_routed {adev : AudioDevice} {e : Event} (h : adev.Inv)
    (hk : StaysRouted (some adev) e (step (some adev) e)) : Settled (some adev) e := by
  rintro adev' hsome
  obtain rfl := Option.some.inj hsome
  obtain ⟨adev', hrun, hr⟩ := hk
  cases e with
  | write i passthrough ready written =>
    obtain rfl := Option.some.inj hrun
    exact fun out hget hs => startable_of_write h hr hget hs
  | flush i ready => exact fun out hget => reopenable_of_flush h hrun hr hget
  | createPatch sources sinks handle =>
    intro c hports
    have hdevice := create_device adev sources sinks handle
    rw [hports] at hdevice
    dsimp only at hdevice
    have hdevice := hdevice.symm.trans hrun
    split_ifs at hdevice with hnone hfull
    · obtain rfl := Option.some.inj hdevice
      refine ⟨fun _ => hfull, ?_⟩
      rintro mix types i out rfl hfind -
      have hinv : adev.numbered.Inv := h.congr rfl rfl
      have hmove := movable_of_connect hinv hr hfind (Or.inl rfl)
      exact hmove
    · obtain rfl := Option.some.inj hdevice
      refine ⟨fun heq => absurd heq hnone, ?_⟩
      rintro mix types i out rfl hfind hmatch
      exact movable_of_connect h hr hfind (Or.inr (hmatch.resolve_left hnone))
  | releasePatch patch_handle =>
    obtain rfl := Option.some.inj hrun
    exact fun i out hfind => movable_of_release h hr hfind
  | «open» r => trivial
  | standby i => trivial
  | setMode mode => trivial

/-- CORRECT: the open streams keep their devices to themselves and their PCMs on the cards of the devices
    exactly as long as every start and every patch finds room, and every flush finds the card. -/
theorem stays_routed_iff (card_list : List AudioCard)
    (support_multichannel support_lpa lpa_enable b_sco_rx_running : Bool) (in_streams : List StreamIn)
    (es : List Event) :
    Run.Always step StaysRouted
        (some (start card_list support_multichannel support_lpa lpa_enable b_sco_rx_running in_streams)) es ↔
      Run.Meets step Settled
        (some (start card_list support_multichannel support_lpa lpa_enable b_sco_rx_running in_streams))
        es := by
  refine Run.always_iff_meets (fun s e (hs : ∃ adev : AudioDevice, s = some adev ∧ adev.Inv) hc => ?_)
    (fun s e hs hk => ?_) es _ ⟨_, rfl, inv_start ..⟩
  · obtain ⟨adev, rfl, h⟩ := hs
    obtain ⟨adev', hrun, hinv⟩ := step_kept h hc
    exact ⟨⟨adev', hrun, hinv⟩, adev', hrun, hinv.routed⟩
  · obtain ⟨adev, rfl, h⟩ := hs
    exact settled_of_routed h hk

/-- A card for the speaker, and one for the headphone. -/
def twoCards : List AudioCard :=
  [⟨0, "wm8960-audio", AUDIO_DEVICE_OUT_SPEAKER, false, false, none, none⟩,
    ⟨1, "ak4458-audio", AUDIO_DEVICE_OUT_WIRED_HEADPHONE, false, false, none, none⟩]

def directRequest : OutRequest :=
  ⟨7, AUDIO_DEVICE_OUT_SPEAKER, AUDIO_OUTPUT_FLAG_DIRECT, .DEFAULT, .DEFAULT, "", false, false, true⟩

/-- Two direct streams play on the speaker at once; a stream that a call keeps open stays on its card. -/
theorem streams_misrouted :
    ¬ Run.Always step StaysRouted (some (start twoCards false false false false []))
        ([.open directRequest, .open directRequest, .write 0 false true true] ++ [.write 1 false true true]) ∧
      ¬ Run.Always step StaysRouted (some (start twoCards false false false false []))
        ([.open directRequest, .write 0 false true true, .setMode AUDIO_MODE_IN_CALL] ++
          [.createPatch [.MIX 7] [.DEVICE AUDIO_DEVICE_OUT_WIRED_HEADPHONE] 0]) := by
  refine ⟨fun h => ?_, fun h => ?_⟩
  · have hfinal : (Run.run step (some (start twoCards false false false false []))
        ([.open directRequest, .open directRequest, .write 0 false true true] ++
          [.write 1 false true true])).map (fun v =>
            (heldAt heldDevice v.out_streams 0, heldAt heldDevice v.out_streams 1)) =
        some (some AUDIO_DEVICE_OUT_SPEAKER, some AUDIO_DEVICE_OUT_SPEAKER) := by decide +kernel
    obtain ⟨adev, hrun, hr⟩ := Run.always_last h
    rw [hrun, Option.map_some, Option.some_inj, Prod.mk.injEq] at hfinal
    exact absurd (hr.exclusive 0 1 _ hfinal.1 hfinal.2) (by decide)
  · have hfinal : (Run.run step (some (start twoCards false false false false []))
        ([.open directRequest, .write 0 false true true, .setMode AUDIO_MODE_IN_CALL] ++
          [.createPatch [.MIX 7] [.DEVICE AUDIO_DEVICE_OUT_WIRED_HEADPHONE] 0])).map (fun v =>
            v.out_streams.map fun out => (out.standby, out.compressed, out.pcm, (v.selectCard out).1)) =
        some [(false, false, some ⟨0, 0, true⟩, 1)] := by decide +kernel
    obtain ⟨adev, hrun, hr⟩ := Run.always_last h
    rw [hrun, Option.map_some, Option.some_inj] at hfinal
    obtain ⟨out, hlist, hout⟩ := List.map_eq_singleton_iff.mp hfinal
    simp only [Prod.mk.injEq] at hout
    obtain ⟨hs, hc, hpcm, hcard⟩ := hout
    obtain ⟨device, hopen⟩ := (hr.fits out (by rw [hlist]; exact List.mem_singleton_self out)).open_pcm hs hc
    rw [hpcm, hcard] at hopen
    exact absurd (Pcm.mk.inj (Option.some.inj hopen)).1 (by decide)

end AudioDevice

end ImxHal.Alsa
