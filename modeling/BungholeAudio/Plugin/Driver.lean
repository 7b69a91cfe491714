import BungholeAudio.Ring.Refinement
import BungholeAudio.Plugin.Float

/-!
# The plug-in's objects, selectors and state

The driver publishes seven audio objects under fixed ids: the plug-in, an
output and an input device, a stream and a volume control for each. The host
addresses a property by an object id and a four-character selector, and every
entry point answers with an `OSStatus`.

`Selector` has one constructor per selector the driver names, and `other` for
every selector it does not; `kAudioStreamPropertyLatency` and
`kAudioDevicePropertyLatency` are both `'ltnc'` in the SDK, so they are one
constructor. `DriverState` holds the fields of `DriverState` that the modelled
entry points read or write.
-/

namespace BungholeAudio

/-! ## Status codes and object ids -/

/-- The `OSStatus` values the driver returns. -/
inductive Status
  | audioHardwareNoError
  | audioHardwareUnknownPropertyError
  | audioHardwareBadPropertySizeError
  | audioHardwareUnsupportedOperationError
  | audioHardwareUnspecifiedError
  deriving DecidableEq, Repr

/-- `kObjectID_Plugin`. -/
def objectIDPlugin : UInt32 := 1

/-- `kObjectID_OutputDevice`. -/
def objectIDOutputDevice : UInt32 := 2

/-- `kObjectID_InputDevice`. -/
def objectIDInputDevice : UInt32 := 3

/-- `kObjectID_OutputStream`. -/
def objectIDOutputStream : UInt32 := 4

/-- `kObjectID_InputStream`. -/
def objectIDInputStream : UInt32 := 5

/-- `kObjectID_OutputVolume`. -/
def objectIDOutputVolume : UInt32 := 6

/-- `kObjectID_InputVolume`. -/
def objectIDInputVolume : UInt32 := 7

/-- `kAudioObjectUnknown`. -/
def audioObjectUnknown : UInt32 := 0

def isOutputDevice (id : UInt32) : Bool := id == objectIDOutputDevice

def isInputDevice (id : UInt32) : Bool := id == objectIDInputDevice

def isDevice (id : UInt32) : Bool := isOutputDevice id || isInputDevice id

theorem device_cases {id : UInt32} (device : isDevice id = true) :
    id = objectIDOutputDevice ∨ id = objectIDInputDevice := by
  simpa [isDevice, isOutputDevice, isInputDevice] using device

def isStream (id : UInt32) : Bool := id == objectIDOutputStream || id == objectIDInputStream

def isVolume (id : UInt32) : Bool := id == objectIDOutputVolume || id == objectIDInputVolume

/-! ## Selectors -/

/-- The property selectors the driver names; `other` is every other one. -/
inductive Selector
  | audioObjectPropertyBaseClass
  | audioObjectPropertyClass
  | audioObjectPropertyOwner
  | audioObjectPropertyOwnedObjects
  | audioObjectPropertyName
  | audioObjectPropertyManufacturer
  | audioObjectPropertyControlList
  | audioPlugInPropertyDeviceList
  | audioPlugInPropertyTranslateUIDToDevice
  | audioPlugInPropertyResourceBundle
  | audioDevicePropertyDeviceUID
  | audioDevicePropertyModelUID
  | audioDevicePropertyTransportType
  | audioDevicePropertyRelatedDevices
  | audioDevicePropertyClockDomain
  | audioDevicePropertyDeviceIsAlive
  | audioDevicePropertyDeviceIsRunning
  | audioDevicePropertyDeviceCanBeDefaultDevice
  | audioDevicePropertyDeviceCanBeDefaultSystemDevice
  /-- `'ltnc'`, also `kAudioStreamPropertyLatency`. -/
  | audioDevicePropertyLatency
  | audioDevicePropertyStreams
  | audioDevicePropertyNominalSampleRate
  | audioDevicePropertyAvailableNominalSampleRates
  | audioDevicePropertyZeroTimeStampPeriod
  | audioDevicePropertySafetyOffset
  | audioDevicePropertyPreferredChannelsForStereo
  | audioDevicePropertyPreferredChannelLayout
  | audioDevicePropertyIsHidden
  | audioStreamPropertyIsActive
  | audioStreamPropertyDirection
  | audioStreamPropertyTerminalType
  | audioStreamPropertyStartingChannel
  | audioStreamPropertyVirtualFormat
  | audioStreamPropertyPhysicalFormat
  | audioStreamPropertyAvailableVirtualFormats
  | audioStreamPropertyAvailablePhysicalFormats
  | audioControlPropertyScope
  | audioControlPropertyElement
  | audioLevelControlPropertyScalarValue
  | audioLevelControlPropertyDecibelValue
  | audioLevelControlPropertyDecibelRange
  | audioLevelControlPropertyConvertScalarToDecibels
  | audioLevelControlPropertyConvertDecibelsToScalar
  | other
  deriving DecidableEq, Repr

/-- `kAudioStreamPropertyLatency`, the same selector as
`kAudioDevicePropertyLatency`. -/
@[match_pattern]
def Selector.audioStreamPropertyLatency : Selector := .audioDevicePropertyLatency

/-! ## The driver's state -/

/-- `mach_timebase_info_data_t`: host ticks are `numer / denom` nanoseconds. -/
structure Timebase where
  numer : UInt32
  denom : UInt32

/-- The fields of `DriverState` the modelled entry points use. The two
`IORunning` flags are `int`s and are kept as their bit patterns. -/
structure DriverState where
  outputRing : RingBuffer Float32
  inputRing : RingBuffer Float32
  outputVolume : Float32
  inputVolume : Float32
  outputIORunning : UInt32
  inputIORunning : UInt32
  outputHostTicksAtZero : UInt64
  inputHostTicksAtZero : UInt64
  timebase : Timebase

/-- `driver_Initialize` up to the start of the transport threads: both rings
are cleared, both gains set to `1.0f`, IO stopped, and the timebase read.
`encoderOk` and `decoderOk` are whether `opus_encoder_create` and
`opus_decoder_create` succeed; the fields are set before either is called. -/
def driverInitialize (prior : DriverState) (timebase : Timebase) (encoderOk decoderOk : Bool) :
    Status × DriverState :=
  let st : DriverState :=
    { outputRing := ringInit prior.outputRing, inputRing := ringInit prior.inputRing,
      outputVolume := Float32.one, inputVolume := Float32.one,
      outputIORunning := 0, inputIORunning := 0,
      outputHostTicksAtZero := 0, inputHostTicksAtZero := 0, timebase := timebase }
  if !encoderOk then (.audioHardwareUnspecifiedError, st)
  else if !decoderOk then (.audioHardwareUnspecifiedError, st)
  else (.audioHardwareNoError, st)

@[simp]
theorem driverInitialize_outputVolume (prior : DriverState) (timebase : Timebase)
    (encoderOk decoderOk : Bool) :
    (driverInitialize prior timebase encoderOk decoderOk).2.outputVolume = Float32.one := by
  unfold driverInitialize
  split_ifs <;> rfl

@[simp]
theorem driverInitialize_inputVolume (prior : DriverState) (timebase : Timebase)
    (encoderOk decoderOk : Bool) :
    (driverInitialize prior timebase encoderOk decoderOk).2.inputVolume = Float32.one := by
  unfold driverInitialize
  split_ifs <;> rfl

end BungholeAudio
