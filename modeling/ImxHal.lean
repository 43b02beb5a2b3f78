import ImxHal.Schemes.Run
import ImxHal.Schemes.Ledger
import ImxHal.Schemes.Bytes
import ImxHal.Schemes.Links
import ImxHal.Schemes.Recency
import ImxHal.Schemes.SortedAdd
import ImxHal.Schemes.Hysteresis
import ImxHal.Schemes.ExactFloat
import ImxHal.Schemes.Buffer
import ImxHal.Schemes.Brackets
import ImxHal.Schemes.Duties
import ImxHal.Schemes.Cbor
import ImxHal.Display.BufferSlot
import ImxHal.Display.HwLayers
import ImxHal.Display.LayerVector
import ImxHal.Hwc3.Common
import ImxHal.Hwc3.DrmDisplay
import ImxHal.Hwc3.PlaneState
import ImxHal.Hwc3.ComposerTargets
import ImxHal.Hwc3.FramebufferCache
import ImxHal.Hwc3.LruCache
import ImxHal.Hwc3.DisplayConfig
import ImxHal.Hwc3.ConfigValid
import ImxHal.Hwc3.ConfigIds
import ImxHal.Hwc3.ConfigGrowth
import ImxHal.Hwc3.BootConfig
import ImxHal.Hwc3.HdrMetadata
import ImxHal.Hwc3.Layer
import ImxHal.Hwc3.Validate
import ImxHal.Hwc3.Composer
import ImxHal.Hwc3.LayerPartition
import ImxHal.Hwc3.OverlayOrder
import ImxHal.Hwc3.LayerLifetime
import ImxHal.Hwc3.DeviceComposer
import ImxHal.Hwc3.VisibleRegion
import ImxHal.Hwc3.PreComposition
import ImxHal.Hwc3.WormHoles
import ImxHal.Gralloc.CpuSync
import ImxHal.Gralloc.Format
import ImxHal.Gralloc.Layout
import ImxHal.Gralloc.Allocator
import ImxHal.Enclave.Nvm
import ImxHal.Enclave.NvmProtocol
import ImxHal.Enclave.NvmOwnership
import ImxHal.Enclave.NvmStore
import ImxHal.Enclave.Sessions
import ImxHal.Power.SessionTaskMap
import ImxHal.Power.SessionManager
import ImxHal.Power.Timeouts
import ImxHal.Power.Uclamp
import ImxHal.Power.HintSession
import ImxHal.Power.WorkerPool
import ImxHal.Power.TemplateWorker
import ImxHal.Power.Channels
import ImxHal.Thermal.SensorConfig
import ImxHal.Thermal.Severity
import ImxHal.Thermal.Hotplug
import ImxHal.Sensor.SharedIio
import ImxHal.Firmware.Cppbor
import ImxHal.Firmware.Signature
import ImxHal.Firmware.Encryption
import ImxHal.Firmware.Package
import ImxHal.Camera.JpegBuilder
import ImxHal.Camera.Session
import ImxHal.Camera.DrainCounters
import ImxHal.Camera.RequestOwnership
import ImxHal.Schemes.EarlyReturn
import ImxHal.Schemes.SlotTable
import ImxHal.Schemes.Holders
import ImxHal.Camera.VideoStream
import ImxHal.Camera.StreamBuffers
import ImxHal.Camera.LogicalResults
import ImxHal.Evs.CaptureBuffers
import ImxHal.Evs.FrameFlow
import ImxHal.Evs.StreamControl
import ImxHal.Alsa.AudioDevice
import ImxHal.Alsa.OutputRouting
import ImxHal.Alsa.AudioPatch
import ImxHal.Alsa.CaptureRead
import ImxHal.Vehicle.SubscriptionManager
import ImxHal.Schemes.Storage
import ImxHal.Dek.Container
import ImxHal.Schemes.BitField
import ImxHal.Sensor.ScanData
import ImxHal.Sensor.Orientation
import ImxHal.Sensor.SamplingRate
import ImxHal.Sensor.Setup
import ImxHal.Schemes.Blit
import ImxHal.Image.Resize
import ImxHal.Image.Resize422
import ImxHal.Image.Nv12
import ImxHal.Alsa.RecordConvert
import ImxHal.Camera.FrameRate
import ImxHal.Schemes.Champion
import ImxHal.Schemes.Exchange
import ImxHal.Camera.Resolutions
import ImxHal.Camera.LargestSize
import ImxHal.Camera.JpegDestination
import ImxHal.Camera.JpegRows
import ImxHal.Schemes.Text
import ImxHal.Thermal.CpuUsages
import ImxHal.Thermal.Uevent
import ImxHal.Camera.FrameAcquire
import ImxHal.Alsa.ScratchBuffers
import ImxHal.Cec.HdmiCec
import ImxHal.Image.Bayer
import ImxHal.Camera.RawCapture
import ImxHal.Camera.OutputProcessing
import ImxHal.Camera.Configuration
import ImxHal.Gralloc.Exact
import ImxHal.Gralloc.Rows
import ImxHal.Gralloc.Chroma
import ImxHal.Hwc3.ModeChoice
import ImxHal.Enclave.ResponseCode
import ImxHal.Enclave.MessageBounds
import ImxHal.Enclave.NvmBuffers
import ImxHal.Enclave.AeadIv
import ImxHal.Power.SessionRecords
import ImxHal.Power.FpsRecords
import ImxHal.Schemes.RunningCap
import ImxHal.Power.VoteOrder
import ImxHal.Power.Dispatch
import ImxHal.Power.InteractionBoost
import ImxHal.Power.PidControl
import ImxHal.Power.TaskDeltas
import ImxHal.Hwc3.ConfigGroups
import ImxHal.Hwc3.OverlayRect
import ImxHal.Enclave.MessageCrc
import ImxHal.Hwc3.Edid
import ImxHal.Hwc3.VsyncThread
import ImxHal.Hwc3.DisplayPort
import ImxHal.Hwc3.BootMode
import ImxHal.Audio.DrainNotices
import ImxHal.Audio.DriverStub
import ImxHal.Audio.PatchRegistry
import ImxHal.Audio.StreamData
import ImxHal.Schemes.SortedMap
import ImxHal.Vehicle.EmulatedHal
import ImxHal.Vehicle.FreezeFrames
import ImxHal.Vehicle.ReadBack
import ImxHal.Audio.SubmixClosing
import ImxHal.Vehicle.HalManager
