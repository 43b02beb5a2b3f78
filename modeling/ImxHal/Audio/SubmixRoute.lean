import ImxHal.Schemes.Run
import Mathlib.Logic.Function.Basic

/-! @src audio/default/r_submix/SubmixRoute.cpp, StreamRemoteSubmix.cpp | name:submix routes | scheme:run | family:audio

    What is played on the submix output of an address can be recorded on its submix input. Both ends
    meet in a route, which is registered under the address while a stream is open on it and holds the pipe:

        output "0" ──write──▶ mSink ═══pipe═══ mSource ──read──▶ inputs "0"
                                   route 0
        getRoutes()   "0" ─▶ route 0                (streams keep their route in mCurrentRoute)

    An output is given up by `prepareToClose` already, while its worker goes on until `shutdown`. -/

namespace ImxHal.Audio.Submix

structure AudioFormatDescription where
  type : ℤ
  pcm : ℤ
  encoding : String := ""
  deriving DecidableEq

/-- A union: its tag and its value. -/
structure AudioChannelLayout where
  tag : ℕ
  value : ℤ
  deriving DecidableEq

structure AudioConfig where
  sampleRate : ℤ := 48000
  format : AudioFormatDescription
  channelLayout : AudioChannelLayout
  deriving DecidableEq

/-- The two ends of a pipe are made and released together. -/
structure MonoPipe where
  isShutdown : Bool := false
  deriving DecidableEq

def MonoPipe.shutdown (_ : MonoPipe) (newState : Bool) : MonoPipe := ⟨newState⟩

/-- `mSink` is there exactly if `mSource` is. -/
structure SubmixRoute where
  mPipeConfig : AudioConfig := { format := ⟨1, 1, ""⟩, channelLayout := ⟨3, 3⟩ }
  mStreamInOpen : Bool := false
  mInputRefCount : ℤ := 0
  mStreamInStandby : Bool := true
  mStreamOutStandbyTransition : Bool := false
  mStreamOutOpen : Bool := false
  mStreamOutStandby : Bool := true
  mReadCounterFrames : ℤ := 0
  mSink : Option MonoPipe := none
  deriving DecidableEq

namespace SubmixRoute
variable (route : SubmixRoute)

def hasAtleastOneStreamOpen : Bool := route.mStreamInOpen || route.mStreamOutOpen

def isStreamConfigCompatible (streamConfig : AudioConfig) : Bool :=
  streamConfig.channelLayout = route.mPipeConfig.channelLayout &&
    streamConfig.sampleRate = route.mPipeConfig.sampleRate && streamConfig.format = route.mPipeConfig.format

def isStreamConfigValid (isInput : Bool) (streamConfig : AudioConfig) : Bool :=
  if !isInput && route.mStreamOutOpen then false
  else if route.hasAtleastOneStreamOpen && !route.isStreamConfigCompatible streamConfig then false
  else true

def shouldBlockWrite : Bool :=
  route.mStreamInOpen && (!route.mStreamInStandby || route.mReadCounterFrames = 0)

def updateReadCounterFrames (frameCount : ℕ) : SubmixRoute :=
  { route with mReadCounterFrames := route.mReadCounterFrames + frameCount }

def openStream (isInput : Bool) : SubmixRoute :=
  if isInput then
    { route with
      mInputRefCount := if route.mStreamInOpen then route.mInputRefCount + 1 else 1
      mStreamInOpen := true
      mStreamInStandby := true
      mReadCounterFrames := 0
      mSink := route.mSink.map (·.shutdown false) }
  else { route with mStreamOutOpen := true }

def closeStream (isInput : Bool) : SubmixRoute :=
  if isInput then
    let route := { route with mInputRefCount := route.mInputRefCount - 1 }
    if route.mInputRefCount = 0 then
      { route with mStreamInOpen := false, mSink := route.mSink.map (·.shutdown true) }
    else route
  else { route with mStreamOutOpen := false }

/-- `legacy` has the formats the legacy format conversion knows. -/
def createPipe (legacy : AudioFormatDescription → Bool) (streamConfig : AudioConfig) : SubmixRoute × Bool :=
  if legacy streamConfig.format then ({ route with mPipeConfig := streamConfig, mSink := some {} }, true)
  else (route, false)

def releasePipe : SubmixRoute × AudioConfig := ({ route with mSink := none }, route.mPipeConfig)

def resetPipe (legacy : AudioFormatDescription → Bool) : SubmixRoute × Bool :=
  route.releasePipe.1.createPipe legacy route.releasePipe.2

def standby (isInput : Bool) : SubmixRoute :=
  if isInput then { route with mStreamInStandby := true }
  else if route.mStreamOutStandby then route
  else { route with mStreamOutStandby := true, mStreamOutStandbyTransition := true }

def exitStandby (isInput : Bool) : SubmixRoute :=
  if isInput then
    if route.mStreamInStandby || route.mStreamOutStandbyTransition then
      { route with mStreamInStandby := false, mStreamOutStandbyTransition := false, mReadCounterFrames := 0 }
    else route
  else if route.mStreamOutStandby then
    { route with mStreamOutStandby := false, mStreamOutStandbyTransition := true }
  else route

end SubmixRoute

/-! ### Streams -/

/-- The worker of a stream runs until `shutdown`, and does not start when `init` fails. -/
inductive Worker where | failed | running | exited
  deriving DecidableEq, Repr

/-- `prepared` remembers that an output's client has considered it closed. -/
structure StreamRemoteSubmix (Address : Type) where
  mDeviceAddress : Address
  mIsInput : Bool
  mStreamConfig : AudioConfig
  mCurrentRoute : Option ℕ := none
  worker : Worker := .failed
  prepared : Bool := false
  deriving DecidableEq

/-- Route objects are numbered in the order they are made, streams in the order they are opened. -/
structure RemoteSubmix (Address : Type) where
  objects : ℕ → SubmixRoute := fun _ => {}
  made : ℕ := 0
  routes : Address → Option ℕ := fun _ => none
  streams : List (StreamRemoteSubmix Address) := []
  aborted : Bool := false

/-- What becomes of a write. -/
inductive Written where
  | fatal
  /-- The pipe is shut down: the frames are ignored. -/
  | ignored
  | piped (blocking : Bool)
  deriving DecidableEq, Repr

def outWrite (route : SubmixRoute) : Written :=
  match route.mSink with
  | none => .fatal
  | some sink => if sink.isShutdown then .ignored else .piped route.shouldBlockWrite

/-- Without a pipe silence is read, and not counted. -/
def inRead (route : SubmixRoute) (frameCount : ℕ) : SubmixRoute :=
  match route.mSink with
  | none => route
  | some _ => route.updateReadCounterFrames frameCount

/-- `init` on the route it has found, and whether it succeeds. -/
def initOn (legacy : AudioFormatDescription → Bool) (route : SubmixRoute) (isInput : Bool)
    (streamConfig : AudioConfig) : SubmixRoute × Bool :=
  if route.isStreamConfigValid isInput streamConfig then
    match route.mSink with
    | none => (route, false)
    | some sink =>
      if (!isInput || route.mStreamInOpen) && sink.isShutdown then
        let (route, reset) := route.resetPipe legacy
        if reset then (route.openStream isInput, true) else (route, false)
      else (route.openStream isInput, true)
  else (route, false)

inductive Event (Address : Type) where
  /-- A stream is made and its worker started. -/
  | init (address : Address) (isInput : Bool) (config : AudioConfig)
  | start (i : ℕ)
  | standby (i : ℕ)
  | transfer (i frameCount : ℕ)
  | prepareToClose (i : ℕ)
  | shutdown (i : ℕ)
  deriving DecidableEq

namespace RemoteSubmix
variable {Address : Type} [DecidableEq Address] (legacy : AudioFormatDescription → Bool)

def findOrCreateRoute (s : RemoteSubmix Address) (deviceAddress : Address) (pipeConfig : AudioConfig) :
    RemoteSubmix Address × Option ℕ :=
  match s.routes deviceAddress with
  | some r => (s, some r)
  | none =>
    let (route, created) := ({} : SubmixRoute).createPipe legacy pipeConfig
    if created then
      ({ s with
          objects := Function.update s.objects s.made route
          made := s.made + 1
          routes := Function.update s.routes deviceAddress (some s.made) }, some s.made)
    else (s, none)

def init (s : RemoteSubmix Address) (address : Address) (isInput : Bool) (config : AudioConfig) : RemoteSubmix Address :=
  let x : StreamRemoteSubmix Address :=
    { mDeviceAddress := address, mIsInput := isInput, mStreamConfig := config }
  let (s, found) := s.findOrCreateRoute legacy address config
  match found with
  | none => { s with streams := s.streams ++ [x] }
  | some r =>
    let (route, isOk) := initOn legacy (s.objects r) isInput config
    { s with
      objects := Function.update s.objects r route
      streams := s.streams ++ [{ x with mCurrentRoute := some r, worker := if isOk then .running else .failed }] }

/-- A change of a route object alone. -/
def onRoute (s : RemoteSubmix Address) (r : ℕ) (f : SubmixRoute → SubmixRoute) : RemoteSubmix Address :=
  { s with objects := Function.update s.objects r (f (s.objects r)) }

def transfer (s : RemoteSubmix Address) (x : StreamRemoteSubmix Address) (r frameCount : ℕ) : RemoteSubmix Address :=
  let s := s.onRoute r (·.exitStandby x.mIsInput)
  if x.mIsInput then s.onRoute r (inRead · frameCount)
  else match outWrite (s.objects r) with
    | .fatal => { s with aborted := true }
    | _ => s

/-- The check of the sink does not return, so that a missing one is dereferenced. -/
def prepareToClose (s : RemoteSubmix Address) (i : ℕ) (x : StreamRemoteSubmix Address) : RemoteSubmix Address :=
  if x.mIsInput then s
  else
    let s := { s with streams := s.streams.set i { x with prepared := true } }
    match s.routes x.mDeviceAddress with
    | none => s
    | some r =>
      match (s.objects r).mSink with
      | none => { s with aborted := true }
      | some sink =>
        s.onRoute r fun route => { route with mSink := some (sink.shutdown true) }.closeStream x.mIsInput

def shutdown (s : RemoteSubmix Address) (i : ℕ) (x : StreamRemoteSubmix Address) (r : ℕ) : RemoteSubmix Address :=
  let s := s.onRoute r (·.closeStream x.mIsInput)
  let s :=
    if (s.objects r).hasAtleastOneStreamOpen then s
    else { s.onRoute r (·.releasePipe.1) with routes := Function.update s.routes x.mDeviceAddress none }
  { s with streams := s.streams.set i { x with mCurrentRoute := none, worker := .exited } }

/-- A driver call by the worker of a stream. -/
def onRunning (s : RemoteSubmix Address) (i : ℕ)
    (call : StreamRemoteSubmix Address → ℕ → RemoteSubmix Address) : RemoteSubmix Address :=
  match s.streams[i]? with
  | none => s
  | some x =>
    match x.worker, x.mCurrentRoute with
    | .running, some r => call x r
    | _, _ => s

def step (s : RemoteSubmix Address) (e : Event Address) : RemoteSubmix Address :=
  if s.aborted then s
  else match e with
    | .init address isInput config => s.init legacy address isInput config
    | .start i => s.onRunning i fun x r => s.onRoute r (·.exitStandby x.mIsInput)
    | .standby i => s.onRunning i fun x r => s.onRoute r (·.standby x.mIsInput)
    | .transfer i frameCount => s.onRunning i fun x r => s.transfer x r frameCount
    | .prepareToClose i =>
      match s.streams[i]? with
      | none => s
      | some x => if x.worker = .exited then s else s.prepareToClose i x
    | .shutdown i => s.onRunning i fun x r => s.shutdown i x r

end RemoteSubmix

end ImxHal.Audio.Submix
