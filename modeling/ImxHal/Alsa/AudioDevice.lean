import ImxHal.Schemes.Holders

/-! @src alsa/tinyalsa_hal.cpp, alsa/audio_hardware.h | name:audio device | family:state machines

    The open streams of the audio HAL. An output stream opens its PCM, or its compressed output, when it is
    written to in standby; the card is looked up from the bus address, the format, the flags or the device,
    in that order. A patch connects a stream to devices and sends an output to standby if its first device
    changes:

        write ──▶ start_output_stream ──▶ get_card_for_bus | _dsd | _compress | _device ──▶ pcm_open
        patch ──▶ out->device := …    ──▶ do_output_standby(force) -/

namespace ImxHal.Alsa
open ImxHal.Holders

def EINVAL : ℤ := 22
def EBUSY : ℤ := 16
def EIO : ℤ := 5
def INT_MAX : ℤ := 2147483647

def AUDIO_DEVICE_NONE : BitVec 32 := 0x0
def AUDIO_DEVICE_BIT_IN : BitVec 32 := 0x80000000
def AUDIO_DEVICE_OUT_SPEAKER : BitVec 32 := 0x2
def AUDIO_DEVICE_OUT_WIRED_HEADPHONE : BitVec 32 := 0x8
def AUDIO_DEVICE_OUT_BLUETOOTH_SCO : BitVec 32 := 0x10
def AUDIO_DEVICE_OUT_BLUETOOTH_SCO_HEADSET : BitVec 32 := 0x20
def AUDIO_DEVICE_OUT_BLUETOOTH_SCO_CARKIT : BitVec 32 := 0x40
def AUDIO_DEVICE_OUT_AUX_DIGITAL : BitVec 32 := 0x400
def AUDIO_DEVICE_OUT_LINE : BitVec 32 := 0x20000
def AUDIO_DEVICE_OUT_BUS : BitVec 32 := 0x1000000

def AUDIO_OUTPUT_FLAG_NONE : BitVec 32 := 0x0
def AUDIO_OUTPUT_FLAG_DIRECT : BitVec 32 := 0x1
def AUDIO_OUTPUT_FLAG_PRIMARY : BitVec 32 := 0x2
def AUDIO_OUTPUT_FLAG_COMPRESS_OFFLOAD : BitVec 32 := 0x10

def AUDIO_MODE_NORMAL : ℤ := 0
def AUDIO_MODE_IN_CALL : ℤ := 2
def AUDIO_PATCH_HANDLE_NONE : ℤ := 0
def AUDIO_PATCH_PORTS_MAX : ℕ := 16

inductive AudioFormat where
  | DEFAULT | PCM_16_BIT | MP3 | AAC_LC | AAC_HE_V1 | AAC_HE_V2 | DSD
  | other (code : ℕ)
  deriving DecidableEq

/-- The fields of `struct audio_card` that routing reads. -/
structure AudioCard where
  card : ℤ
  driver_name : String
  supported_out_devices : BitVec 32
  support_dsd : Bool
  support_compress : Bool
  bus_name : Option String
  secondary_bus_name : Option String

/-- An open handle of tinyalsa or tinycompress: where it was opened, and whether it is ready. -/
structure Pcm where
  card : ℤ
  device : ℕ
  ready : Bool
  deriving DecidableEq

/-- `struct imx_stream_out`; `flush` says that the stream has a `flush` call. -/
structure StreamOut where
  handle : ℤ
  patch_handle : ℤ
  flags : BitVec 32
  format : AudioFormat
  address : String
  device : BitVec 32
  devices : List (BitVec 32)
  standby : Bool
  card_index : ℤ
  pcm : Option Pcm
  compr : Option Pcm
  writeContiFailCount : ℕ
  flush : Bool
  deriving DecidableEq

/-- `struct imx_stream_in`. -/
structure StreamIn where
  handle : ℤ
  patch_handle : ℤ
  device : BitVec 32
  standby : Bool
  pcm : Option Pcm
  deriving DecidableEq

/-- `struct imx_audio_device`; of the primary output only whether it is set. -/
structure AudioDevice where
  card_list : List AudioCard
  support_multichannel : Bool
  support_lpa : Bool
  lpa_enable : Bool
  mode : ℤ
  b_sco_rx_running : Bool
  primary_output : Bool
  out_streams : List StreamOut
  in_streams : List StreamIn
  next_patch_handle : ℤ

namespace StreamOut

def direct (out : StreamOut) : Bool := out.flags &&& AUDIO_OUTPUT_FLAG_DIRECT ≠ 0

def primary (out : StreamOut) : Bool := out.flags &&& AUDIO_OUTPUT_FLAG_PRIMARY ≠ 0

def offload (out : StreamOut) : Bool := out.flags &&& AUDIO_OUTPUT_FLAG_COMPRESS_OFFLOAD ≠ 0

/-- The stream writes to a compressed output instead of a PCM. -/
def compressed (out : StreamOut) : Bool := out.offload && decide (out.format ≠ .DSD)

end StreamOut

namespace AudioDevice
variable (adev : AudioDevice)

/-! ### The card of a stream -/

/-- The loop of the lookups: the first card that matches, and its index unless there is none. -/
def firstCard (p : AudioCard → Bool) : ℤ × Option ℕ :=
  match locate p adev.card_list with
  | some (i, c) => (c.card, some i)
  | none => (-1, none)

def get_card_for_dsd : ℤ × Option ℕ := adev.firstCard (·.support_dsd)

def get_card_for_compress : ℤ × Option ℕ := adev.firstCard (·.support_compress)

/-- The card, and the PCM device on it: 1 on the secondary bus. -/
def get_card_for_bus (bus : String) : ℤ × ℕ :=
  match locate (fun c => c.bus_name = some bus || c.secondary_bus_name = some bus) adev.card_list with
  | some (_, c) => (c.card, if c.bus_name = some bus then 0 else 1)
  | none => (-1, 0)

def get_card_for_device (device : BitVec 32) : ℤ × Option ℕ :=
  let device := if device = AUDIO_DEVICE_NONE then AUDIO_DEVICE_OUT_SPEAKER else device
  adev.firstCard fun c => c.supported_out_devices &&& device ≠ 0

/-- The card that a start of the stream opens, the PCM device on it, and the new index if there is one. -/
def selectCard (out : StreamOut) : ℤ × ℕ × Option ℕ :=
  if out.device = AUDIO_DEVICE_OUT_BUS then
    ((adev.get_card_for_bus out.address).1, (adev.get_card_for_bus out.address).2, none)
  else if out.format = .DSD then (adev.get_card_for_dsd.1, 0, adev.get_card_for_dsd.2)
  else if out.offload then (adev.get_card_for_compress.1, 0, adev.get_card_for_compress.2)
  else ((adev.get_card_for_device out.device).1, 0, (adev.get_card_for_device out.device).2)

/-- `card_list[out->card_index]`, where that is an entry. -/
def cardAt (card_index : ℤ) : Option AudioCard :=
  if card_index < 0 then none else adev.card_list[card_index.toNat]?

/-! ### Standby -/

/-- In a call, and while SCO runs, no output goes to standby. -/
def refusesStandby : Bool := adev.mode = AUDIO_MODE_IN_CALL || adev.b_sco_rx_running

def do_output_standby (out : StreamOut) (force_standby : Bool) : StreamOut :=
  if adev.refusesStandby || (!force_standby && out.card_index ≠ -1 &&
      (adev.cardAt out.card_index).any fun c => c.driver_name = "wm8962-audio") then out
  else if out.standby then out
  else if out.compressed then { out with standby := true, compr := none }
  else { out with standby := true, pcm := none, writeContiFailCount := 0 }

theorem do_output_standby_cases (adev : AudioDevice) (out : StreamOut) (force : Bool) :
    adev.do_output_standby out force = out ∨ out.standby = false ∧ adev.do_output_standby out force =
      if out.compressed then { out with standby := true, compr := none }
      else { out with standby := true, pcm := none, writeContiFailCount := 0 } := by
  rw [do_output_standby]
  by_cases hrefuse : (adev.refusesStandby || (!force && out.card_index ≠ -1 &&
      (adev.cardAt out.card_index).any fun c => c.driver_name = "wm8962-audio")) = true
  · exact Or.inl (if_pos hrefuse)
  · rw [if_neg hrefuse]
    rcases hs : out.standby with _ | _
    · exact Or.inr ⟨rfl, if_neg (by simp)⟩
    · exact Or.inl (if_pos rfl)

theorem do_output_standby_refused {adev : AudioDevice} {out : StreamOut} {force : Bool}
    (h : adev.refusesStandby = true) : adev.do_output_standby out force = out :=
  if_pos (by rw [h, Bool.true_or])

theorem do_output_standby_forced {adev : AudioDevice} {out : StreamOut} (h : adev.refusesStandby = false) :
    (adev.do_output_standby out true).standby = true := by
  rw [do_output_standby, h, if_neg (by simp)]
  split_ifs with hs <;> first | exact hs | rfl

def modifyOut (i : ℕ) (f : StreamOut → StreamOut) : AudioDevice :=
  { adev with out_streams := adev.out_streams.modify i f }

def modifyIn (i : ℕ) (f : StreamIn → StreamIn) : AudioDevice :=
  { adev with in_streams := adev.in_streams.modify i f }

def out_standby (i : ℕ) : AudioDevice := adev.modifyOut i fun out => adev.do_output_standby out false

def do_input_standby (in_ : StreamIn) : StreamIn :=
  if in_.standby then in_ else { in_ with standby := true, pcm := none }

/-! ### Writing -/

/-- The stream is out of standby on the device. -/
def occupies (device : BitVec 32) (stream : StreamOut) : Bool :=
  stream.device = device && !stream.standby

/-- A direct stream sends the streams on its device that are not direct to standby. -/
def evict (out : StreamOut) : AudioDevice :=
  { adev with
    out_streams := adev.out_streams.map fun stream =>
      if occupies out.device stream && !stream.direct then adev.do_output_standby stream true else stream }

def makeRoom (out : StreamOut) : AudioDevice := if out.direct then adev.evict out else adev

/-- The handle that an open leaves: one that is not ready is closed again. -/
def opened (card : ℤ) (device : ℕ) (ready : Bool) : Option Pcm :=
  if ready then some ⟨card, device, true⟩ else none

/-- `card_index` after the lookup of the card. -/
def foundIndex (out : StreamOut) : ℤ :=
  match (adev.selectCard out).2.2 with
  | some i => i
  | none => out.card_index

/-- The second half of `start_output_stream`, from the lookup of the card; `ready` is what the open comes
    to. -/
def openStream (out : StreamOut) (ready : Bool) : StreamOut × ℤ :=
  let card := (adev.selectCard out).1
  let pcm_device_id := (adev.selectCard out).2.1
  let ret := if ready then 0 else - EIO
  if card < 0 then ({ out with card_index := adev.foundIndex out }, -EINVAL)
  else if out.compressed then
    ({ out with
      card_index := adev.foundIndex out, pcm := none, compr := opened card pcm_device_id ready }, ret)
  else ({ out with card_index := adev.foundIndex out, pcm := opened card pcm_device_id ready }, ret)

def start_output_stream (i : ℕ) (out : StreamOut) (passthrough ready : Bool) : AudioDevice × ℤ :=
  let adev := adev.makeRoom out
  if !out.direct && out.device ≠ AUDIO_DEVICE_OUT_BUS && adev.out_streams.any (occupies out.device) then
    (adev, -EBUSY)
  else if passthrough && !out.direct then (adev, -EBUSY)
  else
    let (opened, ret) := adev.openStream out ready
    (adev.modifyOut i fun _ => opened, ret)

/-- How many writes have failed in a row. -/
def failCount (out : StreamOut) (written : Bool) : ℕ :=
  if out.pcm = none then out.writeContiFailCount
  else if written then 0
  else out.writeContiFailCount + 1

/-- The write itself, after a start; a primary output whose writes keep failing goes to standby. -/
def writeFrames (out : StreamOut) (written : Bool) : StreamOut :=
  if out.compressed then out
  else if out.primary && failCount out written > 100 then
    adev.do_output_standby { out with writeContiFailCount := failCount out written } true
  else { out with writeContiFailCount := failCount out written }

/-- `passthrough`, `ready` and `written` are what the property, the open and the driver's write come to. -/
def out_write (i : ℕ) (passthrough ready written : Bool) : AudioDevice :=
  match adev.out_streams[i]? with
  | none => adev
  | some out =>
    if out.standby then
      let (adev, ret) := adev.start_output_stream i out passthrough ready
      if ret ≠ 0 then adev
      else adev.modifyOut i fun out => adev.writeFrames { out with standby := false } written
    else adev.modifyOut i fun out => adev.writeFrames out written

/-- The PCM is opened again on the card at `card_index`. -/
def out_flush (i : ℕ) (ready : Bool) : Option AudioDevice :=
  match adev.out_streams[i]? with
  | none => some adev
  | some out =>
    if !out.flush || out.compressed || out.pcm = none then some adev
    else (adev.cardAt out.card_index).map fun c =>
      adev.modifyOut i fun out => { out with pcm := some ⟨c.card, 0, ready⟩, standby := false }

/-! ### Opening -/

/-- What an open asks for. `codec` tells whether the codec and the offload information are supported, `hdmi`
    whether the HDMI sink could be read, `params` whether the channel mask and the rate are the stream's. -/
structure OutRequest where
  handle : ℤ
  devices : BitVec 32
  flags : BitVec 32
  format : AudioFormat
  offload_format : AudioFormat
  address : String
  codec : Bool
  hdmi : Bool
  params : Bool

def is_supported_compress_format : AudioFormat → Bool
  | .MP3 | .AAC_LC | .AAC_HE_V1 | .AAC_HE_V2 => true
  | _ => false

def is_compress_offload_supported (r : OutRequest) : Bool :=
  adev.get_card_for_compress.1 ≠ -1 && r.codec && is_supported_compress_format r.offload_format

def newStream (r : OutRequest) (format : AudioFormat) (flush : Bool) : StreamOut :=
  ⟨r.handle, 0, r.flags, format, r.address, r.devices, [], true, -1, none, none, 0, flush⟩

/-- The branches of `adev_open_output_stream`. -/
inductive OutKind where
  | offload | dsd | hdmi | esai | mixer | primary
  deriving DecidableEq

def outKind (r : OutRequest) : OutKind :=
  let offload := r.flags &&& AUDIO_OUTPUT_FLAG_COMPRESS_OFFLOAD ≠ 0
  let direct := r.flags &&& AUDIO_OUTPUT_FLAG_DIRECT ≠ 0
  if offload ∧ r.format ≠ .DSD then .offload
  else if offload then .dsd
  else if direct ∧ r.devices = AUDIO_DEVICE_OUT_AUX_DIGITAL then .hdmi
  else if direct ∧ (r.devices = AUDIO_DEVICE_OUT_SPEAKER ∨ r.devices = AUDIO_DEVICE_OUT_LINE ∨
      r.devices = AUDIO_DEVICE_OUT_WIRED_HEADPHONE) ∧
      (adev.support_multichannel ∨ adev.support_lpa ∧ adev.lpa_enable) then .esai
  else if r.flags = AUDIO_OUTPUT_FLAG_NONE ∧
      (r.devices = AUDIO_DEVICE_OUT_AUX_DIGITAL ∨ r.devices = AUDIO_DEVICE_OUT_BLUETOOTH_SCO_HEADSET ∨
        r.devices = AUDIO_DEVICE_OUT_BLUETOOTH_SCO_CARKIT ∨
        r.devices = AUDIO_DEVICE_OUT_BLUETOOTH_SCO) then .mixer
  else .primary

/-- The primary flag of a request that takes the last branch. -/
def wantsPrimary (r : OutRequest) : Bool :=
  adev.outKind r = .primary && r.flags &&& AUDIO_OUTPUT_FLAG_PRIMARY ≠ 0

/-- The stream of each branch, unless the branch refuses it. -/
def configure (r : OutRequest) : Option StreamOut :=
  match adev.outKind r with
  | .offload =>
    if adev.is_compress_offload_supported r then some (newStream r r.offload_format true) else none
  | .dsd => some (newStream r r.format true)
  | .hdmi =>
    if r.hdmi then some (newStream r (if r.format = .DEFAULT then .PCM_16_BIT else r.format) false)
    else none
  | .esai => some (newStream r r.format true)
  | .mixer => some (newStream r r.format false)
  | .primary =>
    if adev.wantsPrimary r && adev.primary_output && r.devices ≠ AUDIO_DEVICE_OUT_BUS then none
    else some (newStream r .PCM_16_BIT false)

/-- The primary output stays recorded when the open fails in the end. -/
def adev_open_output_stream (r : OutRequest) : AudioDevice :=
  let stream := adev.configure r
  let adev := { adev with primary_output := adev.primary_output || adev.wantsPrimary r }
  match stream with
  | none => adev
  | some out =>
    if (r.format = .DEFAULT ∨ r.format = out.format) ∧ r.params then
      { adev with out_streams := adev.out_streams ++ [out] }
    else adev

def adev_set_mode (mode : ℤ) : AudioDevice := { adev with mode := mode }

/-! ### Patches -/

def get_stream_out_by_io_handle_l (handle : ℤ) : Option (ℕ × StreamOut) :=
  locate (fun out => out.handle = handle) adev.out_streams

def get_stream_in_by_io_handle_l (handle : ℤ) : Option (ℕ × StreamIn) :=
  locate (fun in_ => in_.handle = handle) adev.in_streams

def get_stream_out_by_patch_handle_l (patch_handle : ℤ) : Option (ℕ × StreamOut) :=
  locate (fun out => out.patch_handle = patch_handle) adev.out_streams

def get_stream_in_by_patch_handle_l (patch_handle : ℤ) : Option (ℕ × StreamIn) :=
  locate (fun in_ => in_.patch_handle = patch_handle) adev.in_streams

/-- `struct audio_port_config`: a device with its type, a mix with its handle, or a session. -/
inductive PortConfig where
  | DEVICE (type : BitVec 32)
  | MIX (handle : ℤ)
  | SESSION

def PortConfig.deviceType : PortConfig → Option (BitVec 32)
  | .DEVICE type => some type
  | _ => none

/-- What a patch asks for: a device as the source of an input, or devices as the sinks of an output. -/
inductive Connection where
  | toMix (type : BitVec 32) (mix : ℤ)
  | toDevices (mix : ℤ) (types : List (BitVec 32))

/-- The checks of the ports. -/
def connection (sources sinks : List PortConfig) : Option Connection :=
  match sources with
  | [source] =>
    if sinks.length = 0 ∨ sinks.length > AUDIO_PATCH_PORTS_MAX then none
    else match source with
      | .DEVICE type => match sinks with
        | [.MIX mix] => some (.toMix type mix)
        | _ => none
      | .MIX mix => (sinks.mapM PortConfig.deviceType).map (.toDevices mix)
      | .SESSION => none
  | _ => none

/-- An input that is connected to a device of another type goes to standby. -/
def connectIn (type : BitVec 32) (patch_handle : ℤ) (in_ : StreamIn) : StreamIn :=
  let in_ :=
    if in_.device ≠ type then do_input_standby { in_ with device := type &&& ~~~AUDIO_DEVICE_BIT_IN }
    else in_
  { in_ with patch_handle := patch_handle }

def connectOut (types : List (BitVec 32)) (patch_handle : ℤ) (out : StreamOut) : StreamOut :=
  let out := { out with devices := types }
  let out :=
    if out.device ≠ types.headD 0 then adev.do_output_standby { out with device := types.headD 0 } true
    else out
  { out with patch_handle := patch_handle }

/-- The body of `adev_create_audio_patch`, where it does not go to `error`. -/
def connect (c : Connection) (generatedPatchHandle : Bool) (handle : ℤ) : Option AudioDevice :=
  match c with
  | .toMix type mix => match adev.get_stream_in_by_io_handle_l mix with
    | none => none
    | some (i, in_) =>
      if !generatedPatchHandle && in_.patch_handle ≠ handle then none
      else some (adev.modifyIn i (connectIn type handle))
  | .toDevices mix types => match adev.get_stream_out_by_io_handle_l mix with
    | none => none
    | some (i, out) =>
      if !generatedPatchHandle && out.patch_handle ≠ handle then none
      else some (adev.modifyOut i (adev.connectOut types handle))

/-- An output is connected with a new handle, or with the one that it has. -/
theorem connect_toDevices {adev : AudioDevice} {mix handle : ℤ} {types : List (BitVec 32)} {generated : Bool} {i : ℕ}
    {out : StreamOut} (hfind : adev.get_stream_out_by_io_handle_l mix = some (i, out))
    (hmatch : generated = true ∨ out.patch_handle = handle) :
    adev.connect (.toDevices mix types) generated handle =
      some (adev.modifyOut i (adev.connectOut types handle)) := by
  rw [connect, hfind]
  refine if_neg ?_
  rcases hmatch with rfl | hmatch
  · simp
  · simp [hmatch]

/-- `++adev->next_patch_handle`. -/
def numbered : AudioDevice := { adev with next_patch_handle := adev.next_patch_handle + 1 }

/-- The device, `*handle` and what is returned; past `INT_MAX` no handle can be generated. -/
def adev_create_audio_patch (sources sinks : List PortConfig) (handle : ℤ) : Option (AudioDevice × ℤ × ℤ) :=
  match connection sources sinks with
  | none => some (adev, handle, -EINVAL)
  | some c =>
    if handle = AUDIO_PATCH_HANDLE_NONE then
      if adev.next_patch_handle = INT_MAX then none
      else match adev.numbered.connect c true adev.numbered.next_patch_handle with
        | some adev' => some (adev', adev.numbered.next_patch_handle, 0)
        | none => some (adev.numbered, AUDIO_PATCH_HANDLE_NONE, 0)
    else some ((adev.connect c false handle).getD adev, handle, 0)

/-- A released output has no device and is sent to standby. -/
def releaseOut (out : StreamOut) : StreamOut :=
  { adev.do_output_standby { out with devices := [], device := AUDIO_DEVICE_NONE } true with
    patch_handle := AUDIO_PATCH_HANDLE_NONE }

def releaseIn (in_ : StreamIn) : StreamIn :=
  { do_input_standby { in_ with device := AUDIO_DEVICE_NONE } with patch_handle := AUDIO_PATCH_HANDLE_NONE }

def adev_release_audio_patch (patch_handle : ℤ) : AudioDevice × ℤ :=
  match adev.get_stream_out_by_patch_handle_l patch_handle with
  | some (i, _) => (adev.modifyOut i adev.releaseOut, 0)
  | none => match adev.get_stream_in_by_patch_handle_l patch_handle with
    | some (i, _) => (adev.modifyIn i releaseIn, 0)
    | none => (adev, -EINVAL)

end AudioDevice

end ImxHal.Alsa
