import ImxHal.Alsa.AudioDevice
import ImxHal.Schemes.Run

/-! @src alsa/tinyalsa_hal.cpp (get_stream_*_by_*_handle_l, adev_create_audio_patch,
    adev_release_audio_patch) | name:audio patches | scheme:run, exclusive holders | family:state machines

    A stream is named by its io handle and carries the handle of its patch, 0 without one. A new patch
    takes the next number; the code of every error travels to a shared exit, which returns 0:

        ret = -EINVAL; goto error; ──▶ error: if (ret != 0 && generated) *handle = NONE; … return 0; -/

namespace ImxHal.Alsa
open ImxHal.Holders

namespace AudioDevice

inductive PatchCall where
  | create (sources sinks : List PortConfig) (handle : ℤ)
  | release (patch_handle : ℤ)

def execPatch : PatchCall → AudioDevice → Option AudioDevice
  | .create sources sinks handle, adev => (adev.adev_create_audio_patch sources sinks handle).map (·.1)
  | .release patch_handle, adev => some (adev.adev_release_audio_patch patch_handle).1

def stepPatch (s : Option AudioDevice) (e : PatchCall) : Option AudioDevice := s.bind (execPatch e)

/-- Streams as they are opened: none has a patch, and the devices of the inputs lack the input bit. -/
structure Unpatched (adev : AudioDevice) : Prop where
  out : ∀ out ∈ adev.out_streams, out.patch_handle = AUDIO_PATCH_HANDLE_NONE
  in_ : ∀ in_ ∈ adev.in_streams, in_.patch_handle = AUDIO_PATCH_HANDLE_NONE
  masked : ∀ in_ ∈ adev.in_streams, in_.device &&& AUDIO_DEVICE_BIT_IN = 0
  next : adev.next_patch_handle = AUDIO_PATCH_HANDLE_NONE

/-! ### What is promised -/

/-- The handle that a stream carries, if it carries one. -/
def carriedHandle (patch_handle : ℤ) : Option ℤ :=
  if patch_handle = AUDIO_PATCH_HANDLE_NONE then none else some patch_handle

/-- The handles of the outputs and of the inputs. -/
def carried (adev : AudioDevice) : ℕ ⊕ ℕ → Option ℤ
  | .inl i => heldAt (fun out : StreamOut => carriedHandle out.patch_handle) adev.out_streams i
  | .inr i => heldAt (fun in_ : StreamIn => carriedHandle in_.patch_handle) adev.in_streams i

/-- The named stream is connected to the devices, and carries the handle. -/
def ConnectedTo (adev : AudioDevice) (c : Connection) (handle : ℤ) : Prop :=
  match c with
  | .toMix type mix => ∃ i in_, adev.get_stream_in_by_io_handle_l mix = some (i, in_) ∧
      in_.device = type &&& ~~~AUDIO_DEVICE_BIT_IN ∧ in_.patch_handle = handle
  | .toDevices mix types => ∃ i out, adev.get_stream_out_by_io_handle_l mix = some (i, out) ∧
      out.devices = types ∧ out.device = types.headD 0 ∧ out.patch_handle = handle

/-- The stream is found, and the call comes without a handle or with the stream's. -/
def Named (adev : AudioDevice) (c : Connection) (handle : ℤ) : Prop :=
  match c with
  | .toMix _ mix => ∃ i in_, adev.get_stream_in_by_io_handle_l mix = some (i, in_) ∧
      (handle = AUDIO_PATCH_HANDLE_NONE ∨ in_.patch_handle = handle)
  | .toDevices mix _ => ∃ i out, adev.get_stream_out_by_io_handle_l mix = some (i, out) ∧
      (handle = AUDIO_PATCH_HANDLE_NONE ∨ out.patch_handle = handle)

def SameStreams (adev adev' : AudioDevice) : Prop :=
  adev'.out_streams = adev.out_streams ∧ adev'.in_streams = adev.in_streams

/-- What is promised of a call that ends in `adev'` with `*handle` and `ret`. -/
structure Created (adev : AudioDevice) (sources sinks : List PortConfig) (handle : ℤ)
    (adev' : AudioDevice) (handle' ret : ℤ) : Prop where
  connected : ret = 0 ↔ ∃ c, connection sources sinks = some c ∧ adev'.ConnectedTo c handle'
  refused : ∀ c, connection sources sinks = some c → ¬ adev.Named c handle →
    ret ≠ 0 ∧ adev.SameStreams adev'
  failed : ret ≠ 0 → adev.SameStreams adev'
  repeated : ret = 0 → adev'.adev_create_audio_patch sources sinks handle' = some (adev', handle', 0)

/-- The stream that carries the handle has no device any more, and every other stream is as it was. -/
structure Released (adev : AudioDevice) (patch_handle : ℤ) (adev' : AudioDevice) : Prop where
  out : ∀ (i : ℕ) (out : StreamOut), adev.out_streams[i]? = some out →
    ∃ out' : StreamOut, adev'.out_streams[i]? = some out' ∧
      if carriedHandle out.patch_handle = some patch_handle then out'.device = AUDIO_DEVICE_NONE
      else out' = out
  in_ : ∀ (i : ℕ) (in_ : StreamIn), adev.in_streams[i]? = some in_ →
    ∃ in_' : StreamIn, adev'.in_streams[i]? = some in_' ∧
      if carriedHandle in_.patch_handle = some patch_handle then in_'.device = AUDIO_DEVICE_NONE
      else in_' = in_

def PatchKept (s : Option AudioDevice) (e : PatchCall) (s' : Option AudioDevice) : Prop :=
  ∃ adev adev', s = some adev ∧ s' = some adev' ∧ Exclusive adev'.carried ∧
    match e with
    | .create sources sinks handle => ∃ handle' ret,
        adev.adev_create_audio_patch sources sinks handle = some (adev', handle', ret) ∧
          adev.Created sources sinks handle adev' handle' ret
    | .release patch_handle => adev.Released patch_handle adev'

/-! ### The condition -/

/-- The stream of the patch is there and the handle matches; a release names a handle, or the first stream
    without a patch is disconnected already. -/
def PatchSettled (s : Option AudioDevice) (e : PatchCall) : Prop :=
  ∀ adev, s = some adev → match e with
    | .create sources sinks handle => ∀ c, connection sources sinks = some c →
        adev.Named c handle ∧ (handle = AUDIO_PATCH_HANDLE_NONE → adev.next_patch_handle ≠ INT_MAX)
    | .release patch_handle => patch_handle = AUDIO_PATCH_HANDLE_NONE →
        match adev.get_stream_out_by_patch_handle_l patch_handle with
        | some (_, out) => out.devices = [] ∧ out.device = AUDIO_DEVICE_NONE ∧
            (out.standby = true ∨ adev.refusesStandby = true)
        | none => ∀ i in_, adev.get_stream_in_by_patch_handle_l patch_handle = some (i, in_) →
            in_.device = AUDIO_DEVICE_NONE ∧ in_.standby = true

/-! ### The invariant -/

/-- Handles are taken from the counter, and the devices of the inputs lack the input bit. -/
structure PatchInv (adev : AudioDevice) : Prop where
  carried : Exclusive adev.carried
  out_le : ∀ out ∈ adev.out_streams, out.patch_handle ≤ adev.next_patch_handle
  in_le : ∀ in_ ∈ adev.in_streams, in_.patch_handle ≤ adev.next_patch_handle
  masked : ∀ in_ ∈ adev.in_streams, in_.device &&& AUDIO_DEVICE_BIT_IN = 0
  nonneg : 0 ≤ adev.next_patch_handle

theorem Unpatched.inv {adev : AudioDevice} (h : adev.Unpatched) : adev.PatchInv := by
  refine ⟨?_, fun out hout => ?_, fun in_ hin => ?_, h.masked, ?_⟩
  · have hnone : ∀ i, adev.carried i = none := by
      rintro (i | i) <;> refine Option.eq_none_iff_forall_ne_some.mpr fun k hk => ?_
      · obtain ⟨out, hget, hkey⟩ := heldAt_eq_some.mp hk
        rw [h.out out (List.mem_of_getElem? hget)] at hkey
        cases hkey
      · obtain ⟨in_, hget, hkey⟩ := heldAt_eq_some.mp hk
        rw [h.in_ in_ (List.mem_of_getElem? hget)] at hkey
        cases hkey
    intro i j k hi
    rw [hnone i] at hi
    cases hi
  · rw [h.out out hout, h.next]
  · rw [h.in_ in_ hin, h.next]
  · rw [h.next]
    rfl

theorem carriedHandle_eq_some {p k : ℤ} :
    carriedHandle p = some k ↔ p = k ∧ k ≠ AUDIO_PATCH_HANDLE_NONE := by
  rw [carriedHandle]
  split_ifs with h
  · refine iff_of_false (by simp) ?_
    rintro ⟨rfl, hne⟩
    exact hne h
  · rw [Option.some_inj]
    constructor
    · rintro rfl
      exact ⟨rfl, h⟩
    · exact fun hk => hk.1

section Connect
variable {adev : AudioDevice} {i : ℕ} {out : StreamOut} {in_ : StreamIn} {type : BitVec 32}
variable {types : List (BitVec 32)} {handle k : ℤ}

theorem carried_le (h : adev.PatchInv) {j : ℕ ⊕ ℕ} (hk : adev.carried j = some k) :
    k ≤ adev.next_patch_handle := by
  rcases j with j | j
  · obtain ⟨out, hget, hkey⟩ := heldAt_eq_some.mp hk
    rw [← (carriedHandle_eq_some.mp hkey).1]
    exact h.out_le out (List.mem_of_getElem? hget)
  · obtain ⟨in_, hget, hkey⟩ := heldAt_eq_some.mp hk
    rw [← (carriedHandle_eq_some.mp hkey).1]
    exact h.in_le in_ (List.mem_of_getElem? hget)

/-! ### One stream -/

theorem and_not_eq_self {x m : BitVec 32} (h : x &&& m = 0) : x &&& ~~~m = x := by
  refine BitVec.eq_of_getLsbD_eq fun i hi => ?_
  have hbit := congrArg (fun v : BitVec 32 => v.getLsbD i) h
  simp only [BitVec.getLsbD_and, BitVec.getLsbD_not, hi, decide_true, Bool.true_and] at hbit ⊢
  rcases hx : x.getLsbD i with _ | _
  · rfl
  · rw [hx, Bool.true_and] at hbit
    simp [hbit]

theorem do_input_standby_device : (do_input_standby in_).device = in_.device := by
  rw [do_input_standby]
  split_ifs <;> rfl

theorem do_input_standby_handle : (do_input_standby in_).handle = in_.handle := by
  rw [do_input_standby]
  split_ifs <;> rfl

theorem do_input_standby_standby : (do_input_standby in_).standby = true := by
  rw [do_input_standby]
  split_ifs with h
  · exact h
  · rfl

theorem connectIn_handle : (connectIn type handle in_).handle = in_.handle := by
  rw [connectIn]
  dsimp only
  split_ifs
  · exact do_input_standby_handle
  · rfl

theorem connectIn_device (h : in_.device &&& AUDIO_DEVICE_BIT_IN = 0) :
    (connectIn type handle in_).device = type &&& ~~~AUDIO_DEVICE_BIT_IN := by
  rw [connectIn]
  dsimp only
  split_ifs with hne
  · exact do_input_standby_device
  · rw [not_not] at hne
    rw [← hne, and_not_eq_self h]

/-- An input that was connected has the very device, or is in standby. -/
theorem connectIn_settled :
    (connectIn type handle in_).device = type ∨ (connectIn type handle in_).standby = true := by
  rw [connectIn]
  dsimp only
  split_ifs with hne
  · exact Or.inr do_input_standby_standby
  · exact Or.inl (not_not.mp hne)

theorem connectIn_eq_self (hdevice : in_.device = type &&& ~~~AUDIO_DEVICE_BIT_IN)
    (hpatch : in_.patch_handle = handle) (hs : in_.device = type ∨ in_.standby = true) :
    connectIn type handle in_ = in_ := by
  have hkeep : { in_ with device := type &&& ~~~AUDIO_DEVICE_BIT_IN } = in_ := by rw [← hdevice]
  rw [connectIn, hkeep]
  split_ifs with hne
  · rw [do_input_standby, if_pos (hs.resolve_left hne), ← hpatch]
  · rw [← hpatch]

theorem do_output_standby_keeps (adev : AudioDevice) (out : StreamOut) (force : Bool) :
    (adev.do_output_standby out force).device = out.device ∧
      (adev.do_output_standby out force).devices = out.devices ∧
      (adev.do_output_standby out force).handle = out.handle := by
  rw [do_output_standby]
  split_ifs <;> exact ⟨rfl, rfl, rfl⟩

theorem connectOut_keeps (adev : AudioDevice) (out : StreamOut) (types : List (BitVec 32)) (handle : ℤ) :
    (adev.connectOut types handle out).device = types.headD 0 ∧
    (adev.connectOut types handle out).devices = types ∧
    (adev.connectOut types handle out).handle = out.handle := by
  rw [connectOut]
  dsimp only
  split_ifs with hne
  · exact do_output_standby_keeps adev _ true
  · exact ⟨not_not.mp hne, rfl, rfl⟩

theorem connectOut_eq_self (hdevice : out.device = types.headD 0) (hdevices : out.devices = types)
    (hpatch : out.patch_handle = handle) : adev.connectOut types handle out = out := by
  rw [connectOut]
  dsimp only
  rw [if_neg (not_not.mpr hdevice), ← hdevices, ← hpatch]

/-! ### All streams -/

theorem PatchInv.modifyOut {f : StreamOut → StreamOut} (h : adev.PatchInv)
    (hget : adev.out_streams[i]? = some out) (hle : (f out).patch_handle ≤ adev.next_patch_handle)
    (hfree : ∀ j, j ≠ .inl i → ∀ k, carriedHandle (f out).patch_handle = some k → adev.carried j ≠ some k) :
    (adev.modifyOut i f).PatchInv := by
  have hothers : ∀ j, j ≠ .inl i → (adev.modifyOut i f).carried j = adev.carried j := by
    rintro (j | j) hne
    · exact heldAt_modify_ne fun heq => hne (congrArg Sum.inl heq)
    · rfl
  refine ⟨?_, fun out' hout' => ?_, h.in_le, h.masked, h.nonneg⟩
  · refine (exclusive_iff h.carried fun j hne k hk => (hothers j hne).symm.trans hk).mpr
      fun j hne k hk hj => ?_
    have hself : (adev.modifyOut i f).carried (.inl i) = carriedHandle (f out).patch_handle := by
      refine heldAt_modify_self.trans ?_
      rw [hget, Option.bind_some]
    exact hfree j hne k (hself.symm.trans hk) ((hothers j hne).symm.trans hj)
  · obtain ⟨j, hj⟩ := List.mem_iff_getElem?.mp hout'
    rcases eq_or_ne j i with rfl | hne
    · rw [AudioDevice.modifyOut, List.getElem?_modify_eq, hget] at hj
      obtain rfl := Option.some.inj hj
      exact hle
    · rw [AudioDevice.modifyOut, List.getElem?_modify_ne f _ hne.symm] at hj
      exact h.out_le out' (List.mem_of_getElem? hj)

theorem PatchInv.modifyIn {f : StreamIn → StreamIn} (h : adev.PatchInv)
    (hget : adev.in_streams[i]? = some in_) (hle : (f in_).patch_handle ≤ adev.next_patch_handle)
    (hmask : (f in_).device &&& AUDIO_DEVICE_BIT_IN = 0)
    (hfree : ∀ j, j ≠ .inr i → ∀ k, carriedHandle (f in_).patch_handle = some k → adev.carried j ≠ some k) :
    (adev.modifyIn i f).PatchInv := by
  have hothers : ∀ j, j ≠ .inr i → (adev.modifyIn i f).carried j = adev.carried j := by
    rintro (j | j) hne
    · rfl
    · exact heldAt_modify_ne fun heq => hne (congrArg Sum.inr heq)
  have hall : ∀ in_' ∈ (adev.modifyIn i f).in_streams, in_' = f in_ ∨ in_' ∈ adev.in_streams := by
    intro in_' hin'
    obtain ⟨j, hj⟩ := List.mem_iff_getElem?.mp hin'
    rcases eq_or_ne j i with rfl | hne
    · rw [AudioDevice.modifyIn, List.getElem?_modify_eq, hget] at hj
      exact Or.inl (Option.some.inj hj).symm
    · rw [AudioDevice.modifyIn, List.getElem?_modify_ne f _ hne.symm] at hj
      exact Or.inr (List.mem_of_getElem? hj)
  refine ⟨?_, h.out_le, fun in_' hin' => ?_, fun in_' hin' => ?_, h.nonneg⟩
  · refine (exclusive_iff h.carried fun j hne k hk => (hothers j hne).symm.trans hk).mpr
      fun j hne k hk hj => ?_
    have hself : (adev.modifyIn i f).carried (.inr i) = carriedHandle (f in_).patch_handle := by
      refine heldAt_modify_self.trans ?_
      rw [hget, Option.bind_some]
    exact hfree j hne k (hself.symm.trans hk) ((hothers j hne).symm.trans hj)
  · rcases hall in_' hin' with rfl | hold
    · exact hle
    · exact h.in_le in_' hold
  · rcases hall in_' hin' with rfl | hold
    · exact hmask
    · exact h.masked in_' hold

theorem modifyOut_fixed {f : StreamOut → StreamOut} (hget : adev.out_streams[i]? = some out)
    (hf : f out = out) : adev.modifyOut i f = adev := by
  rw [AudioDevice.modifyOut, modify_fixed hget hf]

theorem modifyIn_fixed {f : StreamIn → StreamIn} (hget : adev.in_streams[i]? = some in_)
    (hf : f in_ = in_) : adev.modifyIn i f = adev := by
  rw [AudioDevice.modifyIn, modify_fixed hget hf]

/-! ### One call -/

variable {c : Connection} {generated : Bool} {sources sinks : List PortConfig} {mix : ℤ}

theorem connect_toMix (hfind : adev.get_stream_in_by_io_handle_l mix = some (i, in_))
    (hmatch : generated = true ∨ in_.patch_handle = handle) :
    adev.connect (.toMix type mix) generated handle = some (adev.modifyIn i (connectIn type handle)) := by
  rw [connect, hfind]
  refine if_neg ?_
  rcases hmatch with rfl | hmatch
  · simp
  · simp [hmatch]

/-- A handle that nobody or the stream at `place` itself has is free for it. -/
theorem carried_free (h : adev.PatchInv) (place : ℕ ⊕ ℕ) {own : ℤ}
    (hown : ∀ k, carriedHandle own = some k → adev.carried place = some k)
    (huse : (∀ j, adev.carried j ≠ some handle) ∨ own = handle) :
    ∀ j, j ≠ place → ∀ k, carriedHandle handle = some k → adev.carried j ≠ some k := by
  rintro j hne k hk hj
  obtain ⟨rfl, hk⟩ := carriedHandle_eq_some.mp hk
  rcases huse with hfresh | rfl
  · exact hfresh j hj
  · exact hne (h.carried j place _ hj (hown _ (carriedHandle_eq_some.mpr ⟨rfl, hk⟩)))

/-- An input that is connected with a handle that nobody or itself has. -/
theorem connectIn_spec (h : adev.PatchInv) (hfind : adev.get_stream_in_by_io_handle_l mix = some (i, in_))
    (hle : handle ≤ adev.next_patch_handle)
    (huse : (∀ j, adev.carried j ≠ some handle) ∨ in_.patch_handle = handle) :
    (adev.modifyIn i (connectIn type handle)).PatchInv ∧
      (adev.modifyIn i (connectIn type handle)).ConnectedTo (.toMix type mix) handle ∧
      (adev.modifyIn i (connectIn type handle)).connect (.toMix type mix) false handle =
        some (adev.modifyIn i (connectIn type handle)) := by
  obtain ⟨hget, hio⟩ := locate_eq_some hfind
  have hdevice : (connectIn type handle in_).device = type &&& ~~~AUDIO_DEVICE_BIT_IN :=
    connectIn_device (h.masked in_ (List.mem_of_getElem? hget))
  have hmasked : (connectIn type handle in_).device &&& AUDIO_DEVICE_BIT_IN = 0 := by
    rw [hdevice, BitVec.and_assoc]
    simp [AUDIO_DEVICE_BIT_IN]
  have hfree := carried_free h (.inr i)
    (fun k hk => heldAt_eq_some.mpr ⟨in_, hget, hk⟩) huse
  have hfind' : (adev.modifyIn i (connectIn type handle)).get_stream_in_by_io_handle_l mix =
      some (i, connectIn type handle in_) := by
    refine locate_modify hfind ?_
    rw [connectIn_handle]
    exact hio
  have hpatch : (connectIn type handle in_).patch_handle = handle := rfl
  refine ⟨h.modifyIn hget hle hmasked hfree, ⟨i, _, hfind', hdevice, hpatch⟩, ?_⟩
  rw [connect_toMix hfind' (Or.inr hpatch),
    modifyIn_fixed (locate_eq_some hfind').1 (connectIn_eq_self hdevice hpatch connectIn_settled)]

theorem connectOut_spec (h : adev.PatchInv)
    (hfind : adev.get_stream_out_by_io_handle_l mix = some (i, out)) (hle : handle ≤ adev.next_patch_handle)
    (huse : (∀ j, adev.carried j ≠ some handle) ∨ out.patch_handle = handle) :
    (adev.modifyOut i (adev.connectOut types handle)).PatchInv ∧
      (adev.modifyOut i (adev.connectOut types handle)).ConnectedTo (.toDevices mix types) handle ∧
      (adev.modifyOut i (adev.connectOut types handle)).connect (.toDevices mix types) false handle =
        some (adev.modifyOut i (adev.connectOut types handle)) := by
  obtain ⟨hget, hio⟩ := locate_eq_some hfind
  obtain ⟨hdevice, hdevices, hkeep⟩ := connectOut_keeps adev out types handle
  have hfree := carried_free h (.inl i)
    (fun k hk => heldAt_eq_some.mpr ⟨out, hget, hk⟩) huse
  have hfind' : (adev.modifyOut i (adev.connectOut types handle)).get_stream_out_by_io_handle_l mix =
      some (i, adev.connectOut types handle out) := by
    refine locate_modify hfind ?_
    rw [hkeep]
    exact hio
  have hpatch : (adev.connectOut types handle out).patch_handle = handle := rfl
  refine ⟨h.modifyOut hget hle hfree, ⟨i, _, hfind', hdevices, hdevice, hpatch⟩, ?_⟩
  rw [connect_toDevices hfind' (Or.inr hpatch),
    modifyOut_fixed (locate_eq_some hfind').1 (connectOut_eq_self hdevice hdevices hpatch)]

/-- A connection that is made keeps the invariant, and making it again changes nothing. -/
theorem connect_spec (h : adev.PatchInv) (hle : handle ≤ adev.next_patch_handle)
    (hnamed : (generated = true ∧ (∀ j, adev.carried j ≠ some handle) ∧
        adev.Named c AUDIO_PATCH_HANDLE_NONE) ∨
      (generated = false ∧ handle ≠ AUDIO_PATCH_HANDLE_NONE ∧ adev.Named c handle)) :
    ∃ adev', adev.connect c generated handle = some adev' ∧ adev'.PatchInv ∧
      adev'.ConnectedTo c handle ∧ adev'.connect c false handle = some adev' := by
  rcases c with ⟨type, mix⟩ | ⟨mix, types⟩
  · rcases hnamed with ⟨hg, hfresh, i, in_, hfind, -⟩ | ⟨hg, hne, i, in_, hfind, hmatch⟩
    · exact ⟨_, connect_toMix hfind (Or.inl hg), connectIn_spec h hfind hle (Or.inl hfresh)⟩
    · have hown := hmatch.resolve_left hne
      exact ⟨_, connect_toMix hfind (Or.inr hown), connectIn_spec h hfind hle (Or.inr hown)⟩
  · rcases hnamed with ⟨hg, hfresh, i, out, hfind, -⟩ | ⟨hg, hne, i, out, hfind, hmatch⟩
    · exact ⟨_, connect_toDevices hfind (Or.inl hg), connectOut_spec h hfind hle (Or.inl hfresh)⟩
    · have hown := hmatch.resolve_left hne
      exact ⟨_, connect_toDevices hfind (Or.inr hown), connectOut_spec h hfind hle (Or.inr hown)⟩

theorem create_ret {adev' : AudioDevice} {handle' ret : ℤ} (hports : connection sources sinks = some c)
    (hrun : adev.adev_create_audio_patch sources sinks handle = some (adev', handle', ret)) :
    ret = 0 ∧ (handle = AUDIO_PATCH_HANDLE_NONE → adev.next_patch_handle ≠ INT_MAX) := by
  rw [adev_create_audio_patch, hports] at hrun
  dsimp only at hrun
  split_ifs at hrun with hnone hfull
  · rcases hconnect : adev.numbered.connect c true adev.numbered.next_patch_handle with _ | a <;>
      rw [hconnect] at hrun <;>
      exact ⟨(Prod.mk.inj (Prod.mk.inj (Option.some.inj hrun)).2).2.symm, fun _ => hfull⟩
  · exact ⟨(Prod.mk.inj (Prod.mk.inj (Option.some.inj hrun)).2).2.symm, fun heq => absurd heq hnone⟩

theorem named_le (h : adev.PatchInv) (hnamed : adev.Named c handle)
    (hne : handle ≠ AUDIO_PATCH_HANDLE_NONE) : handle ≤ adev.next_patch_handle := by
  rcases c with ⟨type, mix⟩ | ⟨mix, types⟩
  · obtain ⟨i, in_, hfind, hmatch⟩ := hnamed
    rw [← hmatch.resolve_left hne]
    exact h.in_le in_ (List.mem_of_getElem? (locate_eq_some hfind).1)
  · obtain ⟨i, out, hfind, hmatch⟩ := hnamed
    rw [← hmatch.resolve_left hne]
    exact h.out_le out (List.mem_of_getElem? (locate_eq_some hfind).1)

theorem PatchInv.numbered (h : adev.PatchInv) : adev.numbered.PatchInv := by
  have hnext : adev.next_patch_handle ≤ adev.numbered.next_patch_handle := by
    rw [AudioDevice.numbered]
    dsimp only
    omega
  exact ⟨h.carried, fun out hout => (h.out_le out hout).trans hnext,
    fun in_ hin => (h.in_le in_ hin).trans hnext, h.masked, h.nonneg.trans hnext⟩

/-- A call that names its stream connects it. -/
theorem create_named (h : adev.PatchInv) (hports : connection sources sinks = some c)
    (hnamed : adev.Named c handle)
    (hmax : handle = AUDIO_PATCH_HANDLE_NONE → adev.next_patch_handle ≠ INT_MAX) :
    ∃ adev' handle', adev.adev_create_audio_patch sources sinks handle = some (adev', handle', 0) ∧
      adev'.PatchInv ∧ adev'.ConnectedTo c handle' ∧
      adev'.adev_create_audio_patch sources sinks handle' = some (adev', handle', 0) := by
  have hagain : ∀ (adev' : AudioDevice) (handle' : ℤ), handle' ≠ AUDIO_PATCH_HANDLE_NONE →
      adev'.connect c false handle' = some adev' →
        adev'.adev_create_audio_patch sources sinks handle' = some (adev', handle', 0) := by
    intro adev' handle' hne hconnect
    rw [adev_create_audio_patch, hports]
    dsimp only
    rw [if_neg hne, hconnect]
    rfl
  by_cases hnone : handle = AUDIO_PATCH_HANDLE_NONE
  · have hnumber : adev.numbered.next_patch_handle = adev.next_patch_handle + 1 := rfl
    have hnonneg := h.nonneg
    have hfresh : ∀ j, adev.numbered.carried j ≠ some adev.numbered.next_patch_handle := by
      intro j hj
      have hle : adev.numbered.next_patch_handle ≤ adev.next_patch_handle := carried_le h hj
      omega
    rw [hnone] at hnamed
    obtain ⟨adev', hconnect, hinv, hto, hsame⟩ :=
      connect_spec h.numbered le_rfl (Or.inl ⟨rfl, hfresh, hnamed⟩)
    refine ⟨adev', _, ?_, hinv, hto, hagain _ _ ?_ hsame⟩
    · rw [adev_create_audio_patch, hports]
      dsimp only
      rw [if_pos hnone, if_neg (hmax hnone), hconnect]
    · rw [hnumber, AUDIO_PATCH_HANDLE_NONE]
      omega
  · obtain ⟨adev', hconnect, hinv, hto, hsame⟩ :=
      connect_spec h (named_le h hnamed hnone) (Or.inr ⟨rfl, hnone, hnamed⟩)
    refine ⟨adev', handle, ?_, hinv, hto, hagain _ _ hnone hsame⟩
    rw [adev_create_audio_patch, hports]
    dsimp only
    rw [if_neg hnone, hconnect]
    rfl

theorem created_of_named (h : adev.PatchInv) (hc : ∀ c, connection sources sinks = some c →
      adev.Named c handle ∧ (handle = AUDIO_PATCH_HANDLE_NONE → adev.next_patch_handle ≠ INT_MAX)) :
    ∃ adev' handle' ret, adev.adev_create_audio_patch sources sinks handle = some (adev', handle', ret) ∧
      adev'.PatchInv ∧ adev.Created sources sinks handle adev' handle' ret := by
  rcases hports : connection sources sinks with _ | c
  · refine ⟨adev, handle, -EINVAL, ?_, h, ⟨?_, ?_, fun _ => ⟨rfl, rfl⟩, fun hret => ?_⟩⟩
    · rw [adev_create_audio_patch, hports]
    · rw [hports]
      exact iff_of_false (show -EINVAL ≠ 0 by decide) fun hex => by simp at hex
    · rw [hports]
      exact fun c heq => by cases heq
    · exact absurd hret (show -EINVAL ≠ 0 by decide)
  · obtain ⟨hnamed, hmax⟩ := hc c hports
    obtain ⟨adev', handle', hrun, hinv, hto, hagain⟩ := create_named h hports hnamed hmax
    refine ⟨adev', handle', 0, hrun, hinv, ⟨?_, ?_, fun hne => absurd rfl hne, fun _ => hagain⟩⟩
    · exact iff_of_true rfl ⟨c, hports, hto⟩
    · rw [hports]
      rintro c' heq hnot
      obtain rfl := Option.some.inj heq
      exact absurd hnamed hnot

/-! ### A release -/

theorem releaseOut_keeps (adev : AudioDevice) (out : StreamOut) :
    (adev.releaseOut out).device = AUDIO_DEVICE_NONE ∧ (adev.releaseOut out).devices = [] := by
  obtain ⟨hdevice, hdevices, -⟩ :=
    do_output_standby_keeps adev { out with devices := [], device := AUDIO_DEVICE_NONE } true
  exact ⟨hdevice, hdevices⟩

theorem releaseOut_fixed_iff (hpatch : out.patch_handle = AUDIO_PATCH_HANDLE_NONE) :
    adev.releaseOut out = out ↔ out.devices = [] ∧ out.device = AUDIO_DEVICE_NONE ∧
      (out.standby = true ∨ adev.refusesStandby = true) := by
  obtain ⟨hdevice, hdevices⟩ := releaseOut_keeps adev out
  constructor
  · intro heq
    rw [heq] at hdevice hdevices
    refine ⟨hdevices, hdevice, ?_⟩
    rcases hrefuse : adev.refusesStandby with _ | _
    · refine Or.inl ?_
      have hforced : (adev.releaseOut out).standby = true := do_output_standby_forced hrefuse
      rwa [heq] at hforced
    · exact Or.inr rfl
  · rintro ⟨hdevs, hdev, hs⟩
    have hkeep : { out with devices := [], device := AUDIO_DEVICE_NONE } = out := by rw [← hdevs, ← hdev]
    have hstay : adev.do_output_standby out true = out := by
      rcases hs with hs | hrefuse
      · rw [do_output_standby, if_pos hs, ite_self]
      · exact do_output_standby_refused hrefuse
    rw [releaseOut, hkeep, hstay, ← hpatch]

theorem releaseIn_fixed_iff (hpatch : in_.patch_handle = AUDIO_PATCH_HANDLE_NONE) :
    releaseIn in_ = in_ ↔ in_.device = AUDIO_DEVICE_NONE ∧ in_.standby = true := by
  have hdevice : (releaseIn in_).device = AUDIO_DEVICE_NONE := do_input_standby_device
  have hs : (releaseIn in_).standby = true := do_input_standby_standby
  constructor
  · intro heq
    rw [heq] at hdevice hs
    exact ⟨hdevice, hs⟩
  · rintro ⟨hdev, hs⟩
    have hkeep : { in_ with device := AUDIO_DEVICE_NONE } = in_ := by rw [← hdev]
    rw [releaseIn, hkeep, do_input_standby, if_pos hs, ← hpatch]

theorem release_out (hfind : adev.get_stream_out_by_patch_handle_l handle = some (i, out)) :
    (adev.adev_release_audio_patch handle).1 = adev.modifyOut i adev.releaseOut := by
  rw [adev_release_audio_patch, hfind]

theorem release_in (hout : adev.get_stream_out_by_patch_handle_l handle = none)
    (hfind : adev.get_stream_in_by_patch_handle_l handle = some (i, in_)) :
    (adev.adev_release_audio_patch handle).1 = adev.modifyIn i releaseIn := by
  rw [adev_release_audio_patch, hout]
  dsimp only
  rw [hfind]

theorem release_none (hout : adev.get_stream_out_by_patch_handle_l handle = none)
    (hin : adev.get_stream_in_by_patch_handle_l handle = none) :
    (adev.adev_release_audio_patch handle).1 = adev := by
  rw [adev_release_audio_patch, hout]
  dsimp only
  rw [hin]

theorem not_carried_out (hout : adev.get_stream_out_by_patch_handle_l handle = none)
    (hmem : out ∈ adev.out_streams) : carriedHandle out.patch_handle ≠ some handle := by
  intro hkey
  have hne := locate_eq_none.mp hout out hmem
  simp [(carriedHandle_eq_some.mp hkey).1] at hne

theorem not_carried_in (hin : adev.get_stream_in_by_patch_handle_l handle = none)
    (hmem : in_ ∈ adev.in_streams) : carriedHandle in_.patch_handle ≠ some handle := by
  intro hkey
  have hne := locate_eq_none.mp hin in_ hmem
  simp [(carriedHandle_eq_some.mp hkey).1] at hne

/-- An output that carries the handle is released, and nobody else carries it. -/
theorem released_out (h : adev.PatchInv)
    (hfind : adev.get_stream_out_by_patch_handle_l handle = some (i, out))
    (hfixed : handle = AUDIO_PATCH_HANDLE_NONE → adev.releaseOut out = out) :
    (adev.modifyOut i adev.releaseOut).PatchInv ∧
      adev.Released handle (adev.modifyOut i adev.releaseOut) := by
  obtain ⟨hget, hpatch⟩ := locate_eq_some hfind
  rw [decide_eq_true_eq] at hpatch
  have hown : handle ≠ AUDIO_PATCH_HANDLE_NONE → adev.carried (.inl i) = some handle := fun hne =>
    heldAt_eq_some.mpr ⟨out, hget, carriedHandle_eq_some.mpr ⟨hpatch, hne⟩⟩
  refine ⟨h.modifyOut hget h.nonneg ?_, ⟨fun j out' hj => ?_, fun j in_ hj => ?_⟩⟩
  · rintro j - k hk
    cases hk
  · rcases eq_or_ne j i with rfl | hne
    · obtain rfl := Option.some.inj (hj.symm.trans hget)
      refine ⟨adev.releaseOut out', by rw [modifyOut, List.getElem?_modify_eq, hj]; rfl, ?_⟩
      split_ifs with hkey
      · exact (releaseOut_keeps adev out').1
      · refine hfixed ?_
        by_contra hhandle
        exact hkey (carriedHandle_eq_some.mpr ⟨hpatch, hhandle⟩)
    · refine ⟨out', by rw [modifyOut, List.getElem?_modify_ne _ _ hne.symm, hj], ?_⟩
      rw [if_neg]
      intro hkey
      have hsame := h.carried (.inl j) (.inl i) handle (heldAt_eq_some.mpr ⟨out', hj, hkey⟩)
        (hown (carriedHandle_eq_some.mp hkey).2)
      exact hne (Sum.inl.inj hsame)
  · refine ⟨in_, hj, ?_⟩
    rw [if_neg]
    intro hkey
    have hsame := h.carried (.inr j) (.inl i) handle (heldAt_eq_some.mpr ⟨in_, hj, hkey⟩)
      (hown (carriedHandle_eq_some.mp hkey).2)
    cases hsame

theorem released_in (h : adev.PatchInv) (hout : adev.get_stream_out_by_patch_handle_l handle = none)
    (hfind : adev.get_stream_in_by_patch_handle_l handle = some (i, in_))
    (hfixed : handle = AUDIO_PATCH_HANDLE_NONE → releaseIn in_ = in_) :
    (adev.modifyIn i releaseIn).PatchInv ∧ adev.Released handle (adev.modifyIn i releaseIn) := by
  obtain ⟨hget, hpatch⟩ := locate_eq_some hfind
  rw [decide_eq_true_eq] at hpatch
  have hdevice : (releaseIn in_).device = AUDIO_DEVICE_NONE := do_input_standby_device
  have hmasked : (releaseIn in_).device &&& AUDIO_DEVICE_BIT_IN = 0 := by
    rw [hdevice]
    rfl
  refine ⟨h.modifyIn hget h.nonneg hmasked ?_, ⟨fun j out hj => ?_, fun j in_' hj => ?_⟩⟩
  · rintro j - k hk
    cases hk
  · exact ⟨out, hj, by rw [if_neg (not_carried_out hout (List.mem_of_getElem? hj))]⟩
  · rcases eq_or_ne j i with rfl | hne
    · obtain rfl := Option.some.inj (hj.symm.trans hget)
      refine ⟨releaseIn in_', by rw [modifyIn, List.getElem?_modify_eq, hj]; rfl, ?_⟩
      split_ifs with hkey
      · exact hdevice
      · refine hfixed ?_
        by_contra hhandle
        exact hkey (carriedHandle_eq_some.mpr ⟨hpatch, hhandle⟩)
    · refine ⟨in_', by rw [modifyIn, List.getElem?_modify_ne _ _ hne.symm, hj], ?_⟩
      rw [if_neg]
      intro hkey
      have hown : adev.carried (.inr i) = some handle :=
        heldAt_eq_some.mpr ⟨in_, hget, carriedHandle_eq_some.mpr ⟨hpatch, (carriedHandle_eq_some.mp hkey).2⟩⟩
      have hsame := h.carried (.inr j) (.inr i) handle (heldAt_eq_some.mpr ⟨in_', hj, hkey⟩) hown
      exact hne (Sum.inr.inj hsame)

theorem released_none (h : adev.PatchInv) (hout : adev.get_stream_out_by_patch_handle_l handle = none)
    (hin : adev.get_stream_in_by_patch_handle_l handle = none) :
    adev.PatchInv ∧ adev.Released handle adev := by
  refine ⟨h, ⟨fun j out hj => ⟨out, hj, ?_⟩, fun j in_ hj => ⟨in_, hj, ?_⟩⟩⟩
  · rw [if_neg (not_carried_out hout (List.mem_of_getElem? hj))]
  · rw [if_neg (not_carried_in hin (List.mem_of_getElem? hj))]

theorem release_kept (h : adev.PatchInv) (hc : PatchSettled (some adev) (.release handle)) :
    (adev.adev_release_audio_patch handle).1.PatchInv ∧
      adev.Released handle (adev.adev_release_audio_patch handle).1 := by
  have hc := hc adev rfl
  dsimp only at hc
  rcases hout : adev.get_stream_out_by_patch_handle_l handle with _ | ⟨i, out⟩ <;> rw [hout] at hc
  · rcases hin : adev.get_stream_in_by_patch_handle_l handle with _ | ⟨i, in_⟩
    · rw [release_none hout hin]
      exact released_none h hout hin
    · rw [release_in hout hin]
      refine released_in h hout hin fun hnone => ?_
      have hpatch := (locate_eq_some hin).2
      rw [decide_eq_true_eq, hnone] at hpatch
      exact (releaseIn_fixed_iff hpatch).mpr (hc hnone i in_ hin)
  · rw [release_out hout]
    refine released_out h hout fun hnone => ?_
    have hpatch := (locate_eq_some hout).2
    rw [decide_eq_true_eq, hnone] at hpatch
    exact (releaseOut_fixed_iff hpatch).mpr (hc hnone)

/-- A release of no handle that changes no stream found a disconnected one. -/
theorem settled_of_released (hr : adev.Released handle (adev.adev_release_audio_patch handle).1) :
    PatchSettled (some adev) (.release handle) := by
  rintro adev' hsome hnone
  obtain rfl := Option.some.inj hsome
  have hnot : ∀ p : ℤ, carriedHandle p ≠ some handle := fun p hp => (carriedHandle_eq_some.mp hp).2 hnone
  rcases hout : adev.get_stream_out_by_patch_handle_l handle with _ | ⟨i, out⟩
  · rintro i in_ hin
    obtain ⟨hget, hpatch⟩ := locate_eq_some hin
    rw [decide_eq_true_eq, hnone] at hpatch
    obtain ⟨in_', hget', hsame⟩ := hr.in_ i in_ hget
    rw [release_in hout hin, modifyIn, List.getElem?_modify_eq, hget] at hget'
    rw [if_neg (hnot _), ← Option.some.inj hget'] at hsame
    exact (releaseIn_fixed_iff hpatch).mp hsame
  · obtain ⟨hget, hpatch⟩ := locate_eq_some hout
    rw [decide_eq_true_eq, hnone] at hpatch
    obtain ⟨out', hget', hsame⟩ := hr.out i out hget
    rw [release_out hout, modifyOut, List.getElem?_modify_eq, hget] at hget'
    rw [if_neg (hnot _), ← Option.some.inj hget'] at hsame
    exact (releaseOut_fixed_iff hpatch).mp hsame

end Connect

/-! ### Every run -/

theorem patchStep_kept {adev : AudioDevice} {e : PatchCall} (h : adev.PatchInv)
    (hc : PatchSettled (some adev) e) :
    (∃ adev', stepPatch (some adev) e = some adev' ∧ adev'.PatchInv) ∧
      PatchKept (some adev) e (stepPatch (some adev) e) := by
  cases e with
  | create sources sinks handle =>
    obtain ⟨adev', handle', ret, hrun, hinv, hcreated⟩ := created_of_named h (hc adev rfl)
    have hstep : stepPatch (some adev) (.create sources sinks handle) = some adev' := by
      rw [stepPatch, Option.bind_some, execPatch, hrun]
      rfl
    exact ⟨⟨adev', hstep, hinv⟩, adev, adev', rfl, hstep, hinv.carried, handle', ret, hrun, hcreated⟩
  | release patch_handle =>
    obtain ⟨hinv, hreleased⟩ := release_kept h hc
    exact ⟨⟨_, rfl, hinv⟩, adev, _, rfl, rfl, hinv.carried, hreleased⟩

theorem patchSettled_of_kept {adev : AudioDevice} {e : PatchCall}
    (hk : PatchKept (some adev) e (stepPatch (some adev) e)) : PatchSettled (some adev) e := by
  obtain ⟨v, adev', hv, hrun, -, hpromise⟩ := hk
  obtain rfl := Option.some.inj hv
  cases e with
  | create sources sinks handle =>
    rintro v' hv' c hports
    obtain rfl := Option.some.inj hv'
    obtain ⟨handle', ret, hcreate, hcreated⟩ := hpromise
    obtain ⟨hret, hmax⟩ := create_ret hports hcreate
    refine ⟨?_, hmax⟩
    by_contra hnot
    exact (hcreated.refused c hports hnot).1 hret
  | release patch_handle =>
    obtain rfl := Option.some.inj hrun
    exact settled_of_released hpromise

/-- CORRECT: on a device with any streams, the calls connect and release as they report exactly as long as
    every call names its stream, and no call releases the handle of a stream that has none. -/
theorem patches_kept_iff (adev : AudioDevice) (h : adev.Unpatched) (es : List PatchCall) :
    Run.Always stepPatch PatchKept (some adev) es ↔ Run.Meets stepPatch PatchSettled (some adev) es := by
  refine Run.always_iff_meets (fun s e (hs : ∃ adev : AudioDevice, s = some adev ∧ adev.PatchInv) hc => ?_)
    (fun s e hs hk => ?_) es _ ⟨adev, rfl, h.inv⟩
  · obtain ⟨adev, rfl, hinv⟩ := hs
    exact patchStep_kept hinv hc
  · obtain ⟨adev, rfl, -⟩ := hs
    exact patchSettled_of_kept hk

/-- An output on the speaker and an input from the microphone, both open. -/
def twoStreams : AudioDevice :=
  ⟨[], false, false, false, AUDIO_MODE_NORMAL, false, false,
    [⟨7, 0, AUDIO_OUTPUT_FLAG_NONE, .PCM_16_BIT, "", AUDIO_DEVICE_OUT_SPEAKER, [], true, -1, none, none, 0,
      false⟩],
    [⟨9, 0, 0x4, true, none⟩], AUDIO_PATCH_HANDLE_NONE⟩

theorem patches_kept_two_streams : twoStreams.Unpatched ∧
    (Run.Always stepPatch PatchKept (some twoStreams) [.create [.MIX 7] [.DEVICE 0x8] 0, .release 1] ↔
      Run.Meets stepPatch PatchSettled (some twoStreams) [.create [.MIX 7] [.DEVICE 0x8] 0, .release 1]) := by
  have h : twoStreams.Unpatched := by
    refine ⟨fun out hout => ?_, fun in_ hin => ?_, fun in_ hin => ?_, rfl⟩
    · obtain rfl := List.mem_singleton.mp hout
      rfl
    · obtain rfl := List.mem_singleton.mp hin
      rfl
    · obtain rfl := List.mem_singleton.mp hin
      rfl
  exact ⟨h, patches_kept_iff twoStreams h _⟩

/-- A patch for a stream that does not exist returns 0; the release of no handle disconnects the output. -/
theorem patches_misreported :
    ¬ Run.Always stepPatch PatchKept (some twoStreams) [.create [.MIX 8] [.DEVICE 0x8] 0] ∧
      ¬ Run.Always stepPatch PatchKept (some twoStreams) [.release 0] := by
  refine ⟨fun h => ?_, fun h => ?_⟩
  · obtain ⟨⟨v, adev', hv, -, -, handle', ret, hrun, hcreated⟩, -⟩ := h
    obtain rfl := Option.some.inj hv
    have hports : connection [.MIX 8] [.DEVICE 0x8] = some (.toDevices 8 [0x8]) := rfl
    refine (hcreated.refused _ hports ?_).1 (create_ret hports hrun).1
    rintro ⟨i, out, hfind, -⟩
    cases hfind
  · obtain ⟨⟨v, adev', hv, hrun, -, hreleased⟩, -⟩ := h
    obtain rfl := Option.some.inj hv
    obtain ⟨out', hget, hsame⟩ := hreleased.out 0 _ rfl
    obtain rfl := Option.some.inj hrun
    have hdevice := congrArg (Option.map StreamOut.device) hget
    rw [hsame] at hdevice
    revert hdevice
    decide +kernel

end AudioDevice

end ImxHal.Alsa
