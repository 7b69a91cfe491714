import BungholeAudio.Plugin.Volume

/-!
# Property dispatch

The host learns about the driver's objects through four entry points:
`driver_HasProperty`, `driver_GetPropertyDataSize`, `driver_GetPropertyData`
and `driver_IsPropertySettable` (with `driver_SetPropertyData`, modelled in
`Volume`). Each is a hand-written table over the object kinds and the
selectors, kept in step with the others by hand.

`driver_GetPropertyData` is modelled as a table of handlers, one per object
kind and selector, and one interpreter for the four shapes a case of its body
takes: `WRITE_PROPERTY(type, value)`, `*outSize = 0` alone, the lookup of
`kAudioPlugInPropertyTranslateUIDToDevice`, and the in-place conversions of a
`Float32`. The cases that write a pair, a range, a format or a channel layout
spell out the macro's three steps (check `inSize`, set `*outSize`, store), and
so do the conversions; they are `WRITE_PROPERTY` of the whole value here. A stored value is the bytes of its C type; a `CFStringRef` is the
pointer `make_cfstr` returns, which the allocator chooses: `makeCfstr` is that
choice.

`kAudioPlugInPropertyTranslateUIDToDevice` is the inverse of the devices'
`kAudioDevicePropertyDeviceUID`, on the bytes both calls write
(`translateUID_deviceUID`). A level control's scalar value read back after
`driver_SetPropertyData` is the payload clamped to `[0.0, 1.0]`, byte for byte
(`scalarValue_round_trip`).
-/

namespace BungholeAudio

/-! ## Constants of the SDK -/

/-- `kAudioObjectClassID`, `'aobj'`. -/
def audioObjectClassID : UInt32 := 0x616F626A

/-- `kAudioPlugInClassID`, `'aplg'`. -/
def audioPlugInClassID : UInt32 := 0x61706C67

/-- `kAudioDeviceClassID`, `'adev'`. -/
def audioDeviceClassID : UInt32 := 0x61646576

/-- `kAudioStreamClassID`, `'astr'`. -/
def audioStreamClassID : UInt32 := 0x61737472

/-- `kAudioLevelControlClassID`, `'levl'`. -/
def audioLevelControlClassID : UInt32 := 0x6C65766C

/-- `kAudioDeviceTransportTypeVirtual`, `'virt'`. -/
def audioDeviceTransportTypeVirtual : UInt32 := 0x76697274

/-- `kAudioStreamTerminalTypeLine`, `'line'`. -/
def audioStreamTerminalTypeLine : UInt32 := 0x6C696E65

/-- `kAudioStreamTerminalTypeMicrophone`, `'micr'`. -/
def audioStreamTerminalTypeMicrophone : UInt32 := 0x6D696372

/-- `kAudioObjectPropertyScopeOutput`, `'outp'`. -/
def audioObjectPropertyScopeOutput : UInt32 := 0x6F757470

/-- `kAudioObjectPropertyScopeInput`, `'inpt'`. -/
def audioObjectPropertyScopeInput : UInt32 := 0x696E7074

/-- `kAudioObjectPropertyElementMain`. -/
def audioObjectPropertyElementMain : UInt32 := 0

/-- `kAudioFormatLinearPCM`, `'lpcm'`. -/
def audioFormatLinearPCM : UInt32 := 0x6C70636D

/-- `kAudioFormatFlagIsFloat | kAudioFormatFlagIsPacked`. -/
def audioFormatFlagsFloatPacked : UInt32 := 1 ||| 8

/-- `kAudioChannelLayoutTag_UseChannelDescriptions`. -/
def audioChannelLayoutTagUseChannelDescriptions : UInt32 := 0

/-- `kAudioChannelLabel_Left`. -/
def audioChannelLabelLeft : UInt32 := 1

/-- `kAudioChannelLabel_Right`. -/
def audioChannelLabelRight : UInt32 := 2

/-- `BITS_PER_CHANNEL`. -/
def bitsPerChannel : Nat := 32

/-- `BYTES_PER_FRAME`. -/
def bytesPerFrame : Nat := numChannels * (bitsPerChannel / 8)

/-- `(Float64)SAMPLE_RATE`, `48000.0`. -/
def sampleRateDouble : Float64 := ⟨0x40E7700000000000⟩

/-- `VOLUME_MIN_DB` widened to `Float64`, `-96.0`. -/
def volumeMinDbDouble : Float64 := ⟨0xC058000000000000⟩

/-- `VOLUME_MAX_DB` widened to `Float64`, `0.0`. -/
def volumeMaxDbDouble : Float64 := ⟨0⟩

/-! ## Property values and their sizes -/

/-- `sizeof(AudioClassID)`, `sizeof(AudioObjectID)` and `sizeof(UInt32)`. -/
def sizeofUInt32 : Nat := 4

/-- `sizeof(Float32)`. -/
def sizeofFloat32 : Nat := 4

/-- `sizeof(CFStringRef)`, a pointer. -/
def sizeofCFStringRef : Nat := 8

/-- `offsetof(AudioChannelLayout, mChannelDescriptions) + NUM_CHANNELS *
sizeof(AudioChannelDescription)`. -/
def channelLayoutSize : Nat := 12 + numChannels * 20

/-- The values the driver stores into `outData`, each of one C type. -/
inductive PropertyValue
  /-- A `UInt32`, `AudioClassID` or `AudioObjectID`. -/
  | u32 (x : UInt32)
  /-- Two `AudioObjectID`s or two `UInt32`s. -/
  | u32Pair (a b : UInt32)
  | f32 (x : Float32)
  | f64 (x : Float64)
  /-- The `CFStringRef` `make_cfstr` returns for the text. -/
  | cfString (text : String)
  /-- An `AudioValueRange`. -/
  | valueRange (lo hi : Float64)
  /-- The `AudioStreamBasicDescription` of `make_asbd()`. -/
  | streamFormat
  /-- An `AudioStreamRangedDescription`: `make_asbd()` at `SAMPLE_RATE` only. -/
  | rangedFormat
  /-- The two-channel `AudioChannelLayout` of `kAudioDevicePropertyPreferredChannelLayout`. -/
  | stereoLayout

/-- `sizeof` the value's C type. -/
def PropertyValue.size : PropertyValue → Nat
  | .u32 _ => sizeofUInt32
  | .u32Pair _ _ => 2 * sizeofUInt32
  | .f32 _ => sizeofFloat32
  | .f64 _ => 8
  | .cfString _ => sizeofCFStringRef
  | .valueRange _ _ => 16
  | .streamFormat => 40
  | .rangedFormat => 56
  | .stereoLayout => channelLayoutSize

/-- The `AudioStreamBasicDescription` fields of `make_asbd()`, in order, the
sample rate first. -/
def makeAsbdFields : List UInt32 :=
  [audioFormatLinearPCM, audioFormatFlagsFloatPacked, UInt32.ofNat bytesPerFrame, 1,
    UInt32.ofNat bytesPerFrame, UInt32.ofNat numChannels, UInt32.ofNat bitsPerChannel, 0]

/-- The bytes of `make_asbd()`. -/
def makeAsbdBytes : List UInt8 :=
  sampleRateDouble.bytes ++ (makeAsbdFields.map fun field => leBytes field.toNat 4).flatten

/-- The bytes of one `AudioChannelDescription` with all flags and coordinates zero. -/
def channelDescriptionBytes (label : UInt32) : List UInt8 :=
  leBytes label.toNat 4 ++ leBytes 0 4 ++ leBytes 0 12

/-- The bytes a store of the value leaves. -/
def PropertyValue.bytes (makeCfstr : String → UInt64) : PropertyValue → List UInt8
  | .u32 x => leBytes x.toNat 4
  | .u32Pair a b => leBytes a.toNat 4 ++ leBytes b.toNat 4
  | .f32 x => x.bytes
  | .f64 x => x.bytes
  | .cfString text => leBytes (makeCfstr text).toNat 8
  | .valueRange lo hi => lo.bytes ++ hi.bytes
  | .streamFormat => makeAsbdBytes
  | .rangedFormat => makeAsbdBytes ++ sampleRateDouble.bytes ++ sampleRateDouble.bytes
  | .stereoLayout =>
    leBytes audioChannelLayoutTagUseChannelDescriptions.toNat 4 ++ leBytes 0 4 ++
      leBytes numChannels 4 ++ channelDescriptionBytes audioChannelLabelLeft ++
      channelDescriptionBytes audioChannelLabelRight

/-- Every store writes exactly `sizeof` its type. -/
@[simp]
theorem length_bytes (makeCfstr : String → UInt64) (value : PropertyValue) :
    (value.bytes makeCfstr).length = value.size := by
  cases value <;> rfl

/-! ## The tables -/

/-- The four shapes of a case of `driver_GetPropertyData`. -/
inductive Handler
  /-- Check `inSize`, set `*outSize` and store the value. -/
  | write (value : PropertyValue)
  /-- `*outSize = 0;` alone. -/
  | empty
  /-- `kAudioPlugInPropertyTranslateUIDToDevice`. -/
  | translateUID
  /-- Replace the `Float32` at `outData` by its image, checking `inSize` and
  setting `*outSize` as `WRITE_PROPERTY` does. -/
  | convert (f : Float32 → Float32)

/-- The `*outSize` a handler reports on success. -/
def Handler.size : Handler → Nat
  | .write value => value.size
  | .empty => 0
  | .translateUID => sizeofUInt32
  | .convert _ => sizeofFloat32

/-- The plug-in's cases of `driver_GetPropertyData`. -/
def pluginHandler : Selector → Option Handler
  | .audioObjectPropertyBaseClass => some (.write (.u32 audioObjectClassID))
  | .audioObjectPropertyClass => some (.write (.u32 audioPlugInClassID))
  | .audioObjectPropertyOwner => some (.write (.u32 audioObjectUnknown))
  | .audioObjectPropertyManufacturer => some (.write (.cfString "Bunghole"))
  | .audioPlugInPropertyResourceBundle => some (.write (.cfString ""))
  | .audioObjectPropertyOwnedObjects | .audioPlugInPropertyDeviceList =>
    some (.write (.u32Pair objectIDOutputDevice objectIDInputDevice))
  | .audioPlugInPropertyTranslateUIDToDevice => some .translateUID
  | _ => none

/-- The devices' cases of `driver_GetPropertyData`. -/
def deviceHandler (st : DriverState) (id : UInt32) : Selector → Option Handler
  | .audioObjectPropertyBaseClass => some (.write (.u32 audioObjectClassID))
  | .audioObjectPropertyClass => some (.write (.u32 audioDeviceClassID))
  | .audioObjectPropertyOwner => some (.write (.u32 objectIDPlugin))
  | .audioObjectPropertyName =>
    some (.write (.cfString (if isOutputDevice id then "Bunghole Output" else "Bunghole Input")))
  | .audioDevicePropertyDeviceUID =>
    some (.write (.cfString
      (if isOutputDevice id then "BungholeOutput_UID" else "BungholeInput_UID")))
  | .audioDevicePropertyModelUID => some (.write (.cfString "BungholeAudio_ModelUID"))
  | .audioDevicePropertyTransportType => some (.write (.u32 audioDeviceTransportTypeVirtual))
  | .audioDevicePropertyRelatedDevices => some (.write (.u32 id))
  | .audioDevicePropertyClockDomain => some (.write (.u32 0))
  | .audioDevicePropertyDeviceIsAlive => some (.write (.u32 1))
  | .audioDevicePropertyDeviceIsRunning =>
    some (.write (.u32 (if isOutputDevice id then st.outputIORunning else st.inputIORunning)))
  | .audioDevicePropertyDeviceCanBeDefaultDevice => some (.write (.u32 1))
  | .audioDevicePropertyDeviceCanBeDefaultSystemDevice => some (.write (.u32 1))
  | .audioDevicePropertyLatency => some (.write (.u32 0))
  | .audioDevicePropertySafetyOffset => some (.write (.u32 0))
  | .audioDevicePropertyStreams =>
    some (.write (.u32 (if isOutputDevice id then objectIDOutputStream else objectIDInputStream)))
  | .audioObjectPropertyControlList =>
    some (.write (.u32 (if isOutputDevice id then objectIDOutputVolume else objectIDInputVolume)))
  | .audioObjectPropertyOwnedObjects =>
    some (.write (.u32Pair (if isOutputDevice id then objectIDOutputStream else objectIDInputStream)
      (if isOutputDevice id then objectIDOutputVolume else objectIDInputVolume)))
  | .audioDevicePropertyNominalSampleRate => some (.write (.f64 sampleRateDouble))
  | .audioDevicePropertyAvailableNominalSampleRates =>
    some (.write (.valueRange sampleRateDouble sampleRateDouble))
  | .audioDevicePropertyZeroTimeStampPeriod =>
    some (.write (.u32 (UInt32.ofNat clockPeriodFrames)))
  | .audioDevicePropertyPreferredChannelsForStereo => some (.write (.u32Pair 1 2))
  | .audioDevicePropertyPreferredChannelLayout => some (.write .stereoLayout)
  | .audioDevicePropertyIsHidden => some (.write (.u32 0))
  | _ => none

/-- The streams' cases of `driver_GetPropertyData`. -/
def streamHandler (id : UInt32) : Selector → Option Handler
  | .audioObjectPropertyBaseClass => some (.write (.u32 audioObjectClassID))
  | .audioObjectPropertyClass => some (.write (.u32 audioStreamClassID))
  | .audioObjectPropertyOwner =>
    some (.write (.u32 (if id == objectIDOutputStream then objectIDOutputDevice
      else objectIDInputDevice)))
  | .audioObjectPropertyOwnedObjects => some .empty
  | .audioStreamPropertyIsActive => some (.write (.u32 1))
  | .audioStreamPropertyDirection => some (.write (.u32 (if id == objectIDOutputStream then 0 else 1)))
  | .audioStreamPropertyTerminalType =>
    some (.write (.u32 (if id == objectIDOutputStream then audioStreamTerminalTypeLine
      else audioStreamTerminalTypeMicrophone)))
  | .audioStreamPropertyStartingChannel => some (.write (.u32 1))
  | .audioStreamPropertyLatency => some (.write (.u32 0))
  | .audioStreamPropertyVirtualFormat | .audioStreamPropertyPhysicalFormat =>
    some (.write .streamFormat)
  | .audioStreamPropertyAvailableVirtualFormats | .audioStreamPropertyAvailablePhysicalFormats =>
    some (.write .rangedFormat)
  | _ => none

/-- The volume controls' cases of `driver_GetPropertyData`. -/
def volumeHandler (ops : FloatOps) (st : DriverState) (id : UInt32) : Selector → Option Handler
  | .audioObjectPropertyBaseClass => some (.write (.u32 audioObjectClassID))
  | .audioObjectPropertyClass => some (.write (.u32 audioLevelControlClassID))
  | .audioObjectPropertyOwner =>
    some (.write (.u32 (if id == objectIDOutputVolume then objectIDOutputDevice
      else objectIDInputDevice)))
  | .audioObjectPropertyOwnedObjects => some .empty
  | .audioObjectPropertyName =>
    some (.write (.cfString (if id == objectIDOutputVolume then "Output Volume" else "Input Volume")))
  | .audioControlPropertyScope =>
    some (.write (.u32 (if id == objectIDOutputVolume then audioObjectPropertyScopeOutput
      else audioObjectPropertyScopeInput)))
  | .audioControlPropertyElement => some (.write (.u32 audioObjectPropertyElementMain))
  | .audioLevelControlPropertyScalarValue =>
    some (.write (.f32 (if id == objectIDOutputVolume then st.outputVolume else st.inputVolume)))
  | .audioLevelControlPropertyDecibelValue =>
    some (.write (.f32 (scalarToDb ops
      (if id == objectIDOutputVolume then st.outputVolume else st.inputVolume))))
  | .audioLevelControlPropertyDecibelRange =>
    some (.write (.valueRange volumeMinDbDouble volumeMaxDbDouble))
  | .audioLevelControlPropertyConvertScalarToDecibels => some (.convert (scalarToDb ops))
  | .audioLevelControlPropertyConvertDecibelsToScalar => some (.convert (dbToScalar ops))
  | _ => none

/-- The handler `driver_GetPropertyData` runs, by object kind; `none` falls
through to `kAudioHardwareUnknownPropertyError`. -/
def propertyHandler (ops : FloatOps) (st : DriverState) (id : UInt32) (sel : Selector) :
    Option Handler :=
  if id == objectIDPlugin then pluginHandler sel
  else if isDevice id then deviceHandler st id sel
  else if isStream id then streamHandler id sel
  else if isVolume id then volumeHandler ops st id sel
  else none

/-! ## The entry points -/

/-- What `driver_GetPropertyData` returns, and leaves in `*outSize` and `outData`. -/
structure GetResult where
  status : Status
  outSize : UInt32
  outData : Nat → UInt8

/-- `WRITE_PROPERTY(type, value)`. -/
def writeProperty (makeCfstr : String → UInt64) (inSize : UInt32) (value : PropertyValue)
    (outSize : UInt32) (outData : Nat → UInt8) : GetResult :=
  if inSize.toNat < value.size then ⟨.audioHardwareBadPropertySizeError, outSize, outData⟩
  else ⟨.audioHardwareNoError, UInt32.ofNat value.size, storeBytes outData (value.bytes makeCfstr)⟩

/-- The device `kAudioPlugInPropertyTranslateUIDToDevice` finds for the
qualifier, `none` when `qualSize` is too small to hold a `CFStringRef`; `qual`
is the string the qualifier points to, `none` for `NULL`. -/
def translateUIDToDevice (qualSize : UInt32) (qual : Option String) : Option UInt32 :=
  if qualSize.toNat < sizeofCFStringRef then none
  else
    match qual with
    | none => some audioObjectUnknown
    | some uid =>
      if uid = "BungholeOutput_UID" then some objectIDOutputDevice
      else if uid = "BungholeInput_UID" then some objectIDInputDevice
      else some audioObjectUnknown

/-- One case of `driver_GetPropertyData`. -/
def runHandler (makeCfstr : String → UInt64) (qualSize : UInt32) (qual : Option String)
    (inSize outSize : UInt32) (outData : Nat → UInt8) : Handler → GetResult
  | .write value => writeProperty makeCfstr inSize value outSize outData
  | .empty => ⟨.audioHardwareNoError, 0, outData⟩
  | .translateUID =>
    match translateUIDToDevice qualSize qual with
    | none => ⟨.audioHardwareBadPropertySizeError, outSize, outData⟩
    | some devId => writeProperty makeCfstr inSize (.u32 devId) outSize outData
  | .convert f => writeProperty makeCfstr inSize (.f32 (f (readFloat32 outData))) outSize outData

/-- `driver_GetPropertyData`. -/
def driverGetPropertyData (ops : FloatOps) (makeCfstr : String → UInt64) (st : DriverState)
    (id : UInt32) (sel : Selector) (qualSize : UInt32) (qual : Option String)
    (inSize outSize : UInt32) (outData : Nat → UInt8) : GetResult :=
  match propertyHandler ops st id sel with
  | some handler => runHandler makeCfstr qualSize qual inSize outSize outData handler
  | none => ⟨.audioHardwareUnknownPropertyError, outSize, outData⟩

/-- The plug-in's cases of `driver_GetPropertyDataSize`. -/
def pluginDataSize : Selector → Option Nat
  | .audioObjectPropertyBaseClass | .audioObjectPropertyClass => some sizeofUInt32
  | .audioObjectPropertyOwner => some sizeofUInt32
  | .audioObjectPropertyManufacturer | .audioPlugInPropertyResourceBundle => some sizeofCFStringRef
  | .audioPlugInPropertyDeviceList | .audioObjectPropertyOwnedObjects => some (2 * sizeofUInt32)
  | .audioPlugInPropertyTranslateUIDToDevice => some sizeofUInt32
  | _ => none

/-- The devices' cases of `driver_GetPropertyDataSize`. -/
def deviceDataSize : Selector → Option Nat
  | .audioObjectPropertyBaseClass | .audioObjectPropertyClass => some sizeofUInt32
  | .audioObjectPropertyOwner => some sizeofUInt32
  | .audioObjectPropertyName | .audioDevicePropertyDeviceUID | .audioDevicePropertyModelUID =>
    some sizeofCFStringRef
  | .audioDevicePropertyTransportType => some sizeofUInt32
  | .audioDevicePropertyRelatedDevices => some sizeofUInt32
  | .audioDevicePropertyClockDomain | .audioDevicePropertyDeviceIsAlive
  | .audioDevicePropertyDeviceIsRunning | .audioDevicePropertyDeviceCanBeDefaultDevice
  | .audioDevicePropertyDeviceCanBeDefaultSystemDevice | .audioDevicePropertyLatency
  | .audioDevicePropertySafetyOffset => some sizeofUInt32
  | .audioDevicePropertyStreams => some sizeofUInt32
  | .audioObjectPropertyControlList => some sizeofUInt32
  | .audioObjectPropertyOwnedObjects => some (2 * sizeofUInt32)
  | .audioDevicePropertyNominalSampleRate => some 8
  | .audioDevicePropertyAvailableNominalSampleRates => some 16
  | .audioDevicePropertyZeroTimeStampPeriod => some sizeofUInt32
  | .audioDevicePropertyPreferredChannelsForStereo => some (2 * sizeofUInt32)
  | .audioDevicePropertyPreferredChannelLayout => some channelLayoutSize
  | .audioDevicePropertyIsHidden => some sizeofUInt32
  | _ => none

/-- The streams' cases of `driver_GetPropertyDataSize`. -/
def streamDataSize : Selector → Option Nat
  | .audioObjectPropertyBaseClass | .audioObjectPropertyClass => some sizeofUInt32
  | .audioObjectPropertyOwner => some sizeofUInt32
  | .audioObjectPropertyOwnedObjects => some 0
  | .audioStreamPropertyIsActive | .audioStreamPropertyDirection
  | .audioStreamPropertyTerminalType | .audioStreamPropertyStartingChannel
  | .audioStreamPropertyLatency => some sizeofUInt32
  | .audioStreamPropertyVirtualFormat | .audioStreamPropertyPhysicalFormat => some 40
  | .audioStreamPropertyAvailableVirtualFormats | .audioStreamPropertyAvailablePhysicalFormats =>
    some 56
  | _ => none

/-- The volume controls' cases of `driver_GetPropertyDataSize`. -/
def volumeDataSize : Selector → Option Nat
  | .audioObjectPropertyBaseClass | .audioObjectPropertyClass => some sizeofUInt32
  | .audioObjectPropertyOwner => some sizeofUInt32
  | .audioObjectPropertyOwnedObjects => some 0
  | .audioObjectPropertyName => some sizeofCFStringRef
  | .audioControlPropertyScope | .audioControlPropertyElement => some sizeofUInt32
  | .audioLevelControlPropertyScalarValue | .audioLevelControlPropertyDecibelValue =>
    some sizeofFloat32
  | .audioLevelControlPropertyDecibelRange => some 16
  | .audioLevelControlPropertyConvertScalarToDecibels
  | .audioLevelControlPropertyConvertDecibelsToScalar => some sizeofFloat32
  | _ => none

/-- The size `driver_GetPropertyDataSize` reports, by object kind. -/
def propertyDataSize (id : UInt32) (sel : Selector) : Option Nat :=
  if id == objectIDPlugin then pluginDataSize sel
  else if isDevice id then deviceDataSize sel
  else if isStream id then streamDataSize sel
  else if isVolume id then volumeDataSize sel
  else none

/-- `driver_GetPropertyDataSize`: the status and `*outSize` after. -/
def driverGetPropertyDataSize (id : UInt32) (sel : Selector) (outSize : UInt32) : Status × UInt32 :=
  match propertyDataSize id sel with
  | some size => (.audioHardwareNoError, UInt32.ofNat size)
  | none => (.audioHardwareUnknownPropertyError, outSize)

/-- The plug-in's cases of `driver_HasProperty`. -/
def pluginHasProperty : Selector → Bool
  | .audioPlugInPropertyDeviceList | .audioPlugInPropertyTranslateUIDToDevice
  | .audioPlugInPropertyResourceBundle | .audioObjectPropertyManufacturer => true
  | _ => false

/-- The devices' cases of `driver_HasProperty`. -/
def deviceHasProperty : Selector → Bool
  | .audioObjectPropertyName | .audioDevicePropertyDeviceUID | .audioDevicePropertyModelUID
  | .audioDevicePropertyTransportType | .audioDevicePropertyRelatedDevices
  | .audioDevicePropertyClockDomain | .audioDevicePropertyDeviceIsAlive
  | .audioDevicePropertyDeviceIsRunning | .audioDevicePropertyDeviceCanBeDefaultDevice
  | .audioDevicePropertyDeviceCanBeDefaultSystemDevice | .audioDevicePropertyLatency
  | .audioDevicePropertyStreams | .audioObjectPropertyControlList
  | .audioDevicePropertyNominalSampleRate | .audioDevicePropertyAvailableNominalSampleRates
  | .audioDevicePropertyZeroTimeStampPeriod | .audioDevicePropertySafetyOffset
  | .audioDevicePropertyPreferredChannelsForStereo | .audioDevicePropertyPreferredChannelLayout
  | .audioDevicePropertyIsHidden => true
  | _ => false

/-- The streams' cases of `driver_HasProperty`. -/
def streamHasProperty : Selector → Bool
  | .audioStreamPropertyIsActive | .audioStreamPropertyDirection
  | .audioStreamPropertyTerminalType | .audioStreamPropertyStartingChannel
  | .audioStreamPropertyLatency | .audioStreamPropertyVirtualFormat
  | .audioStreamPropertyPhysicalFormat | .audioStreamPropertyAvailableVirtualFormats
  | .audioStreamPropertyAvailablePhysicalFormats => true
  | _ => false

/-- The volume controls' cases of `driver_HasProperty`. -/
def volumeHasProperty : Selector → Bool
  | .audioObjectPropertyName | .audioControlPropertyScope | .audioControlPropertyElement
  | .audioLevelControlPropertyScalarValue | .audioLevelControlPropertyDecibelValue
  | .audioLevelControlPropertyDecibelRange | .audioLevelControlPropertyConvertScalarToDecibels
  | .audioLevelControlPropertyConvertDecibelsToScalar => true
  | _ => false

/-- `driver_HasProperty`: the four selectors every object has, then the
object's own table. -/
def driverHasProperty (id : UInt32) (sel : Selector) : Bool :=
  match sel with
  | .audioObjectPropertyBaseClass | .audioObjectPropertyClass | .audioObjectPropertyOwner
  | .audioObjectPropertyOwnedObjects => true
  | _ =>
    if id == objectIDPlugin then pluginHasProperty sel
    else if isDevice id then deviceHasProperty sel
    else if isStream id then streamHasProperty sel
    else if isVolume id then volumeHasProperty sel
    else false

/-- `driver_IsPropertySettable`: the status and `*out`. -/
def driverIsPropertySettable (id : UInt32) (sel : Selector) : Status × Bool :=
  (.audioHardwareNoError,
    isVolume id && (sel == .audioLevelControlPropertyScalarValue ||
      sel == .audioLevelControlPropertyDecibelValue))

/-- The ids of the objects the driver publishes, the enum of object ids. -/
def publishedObjectIDs : List UInt32 :=
  [objectIDPlugin, objectIDOutputDevice, objectIDInputDevice, objectIDOutputStream,
    objectIDInputStream, objectIDOutputVolume, objectIDInputVolume]

/-! ## The tables against each other -/

/-- The handlers of `driver_GetPropertyData` and the cases of
`driver_GetPropertyDataSize` cover the same properties of every object, and
each handler writes the size the other table reports. -/
theorem propertyHandler_size (ops : FloatOps) (st : DriverState) (id : UInt32) (sel : Selector) :
    (propertyHandler ops st id sel).map Handler.size = propertyDataSize id sel := by
  unfold propertyHandler propertyDataSize
  split_ifs <;> cases sel <;> rfl

/-- Only `kAudioPlugInPropertyTranslateUIDToDevice` reads the qualifier. -/
theorem sel_eq_of_propertyHandler_translateUID {ops : FloatOps} {st : DriverState} {id : UInt32}
    {sel : Selector} (translating : propertyHandler ops st id sel = some .translateUID) :
    sel = .audioPlugInPropertyTranslateUIDToDevice := by
  unfold propertyHandler at translating
  split_ifs at translating <;> cases sel <;> first | rfl | cases translating

/-- On the published objects, `driver_HasProperty` lists exactly the
properties `driver_GetPropertyDataSize` sizes. -/
theorem hasProperty_eq_isSome {id : UInt32} (published : id ∈ publishedObjectIDs)
    (sel : Selector) : driverHasProperty id sel = (propertyDataSize id sel).isSome := by
  simp only [publishedObjectIDs, List.mem_cons, List.mem_singleton, List.not_mem_nil,
    or_false] at published
  rcases published with rfl | rfl | rfl | rfl | rfl | rfl | rfl <;> cases sel <;> rfl

/-- `driver_SetPropertyData` succeeds on exactly the properties
`driver_IsPropertySettable` reports settable, given a four-byte payload. -/
theorem driverSetPropertyData_ok_iff (ops : FloatOps) (st : DriverState) (id : UInt32)
    (sel : Selector) (inSize : UInt32) (inData : Nat → UInt8) :
    (driverSetPropertyData ops st id sel inSize inData).1 = .audioHardwareNoError ↔
      (driverIsPropertySettable id sel).2 = true ∧ 4 ≤ inSize.toNat := by
  unfold driverSetPropertyData driverIsPropertySettable
  split
  · rename_i volume
    cases sel <;> simp [volume, apply_ite Prod.fst]
  · simp [*]

/-! ## What one case writes -/

theorem toNat_ofNat_size (value : PropertyValue) : (UInt32.ofNat value.size).toNat = value.size :=
  UInt32.toNat_ofNat_of_lt (by cases value <;> simp only [PropertyValue.size] <;> decide)

theorem toNat_ofNat_handlerSize (handler : Handler) :
    (UInt32.ofNat handler.size).toNat = handler.size := by
  cases handler with
  | write value => exact toNat_ofNat_size value
  | _ => rfl

theorem writeProperty_of_lt {makeCfstr : String → UInt64} {inSize : UInt32}
    (value : PropertyValue) (short : inSize.toNat < value.size) (outSize : UInt32)
    (outData : Nat → UInt8) :
    writeProperty makeCfstr inSize value outSize outData =
      ⟨.audioHardwareBadPropertySizeError, outSize, outData⟩ :=
  if_pos short

theorem writeProperty_of_le {makeCfstr : String → UInt64} {inSize : UInt32}
    (value : PropertyValue) (fits : value.size ≤ inSize.toNat) (outSize : UInt32)
    (outData : Nat → UInt8) :
    writeProperty makeCfstr inSize value outSize outData =
      ⟨.audioHardwareNoError, UInt32.ofNat value.size,
        storeBytes outData (value.bytes makeCfstr)⟩ :=
  if_neg (Nat.not_lt.mpr fits)

theorem translateUIDToDevice_of_lt {qualSize : UInt32} (short : qualSize.toNat < sizeofCFStringRef)
    (qual : Option String) : translateUIDToDevice qualSize qual = none :=
  if_pos short

theorem translateUIDToDevice_isSome {qualSize : UInt32} (qualified : sizeofCFStringRef ≤ qualSize.toNat)
    (qual : Option String) : (translateUIDToDevice qualSize qual).isSome := by
  unfold translateUIDToDevice
  rw [if_neg (Nat.not_lt.mpr qualified)]
  split
  · rfl
  · split_ifs <;> rfl

/-- The contract of `WRITE_PROPERTY`: a failed call leaves `*outSize` and
`outData` as they were, and a successful one writes `*outSize ≤ inSize` bytes
and nothing past them. -/
def WritesWithin (inSize outSize : UInt32) (outData : Nat → UInt8) (r : GetResult) : Prop :=
  (r.status ≠ .audioHardwareNoError → r.outSize = outSize ∧ r.outData = outData) ∧
    (r.status = .audioHardwareNoError →
      r.outSize.toNat ≤ inSize.toNat ∧ ∀ i, r.outSize.toNat ≤ i → r.outData i = outData i)

theorem writesWithin_of_error {status : Status} (failed : status ≠ .audioHardwareNoError)
    (inSize outSize : UInt32) (outData : Nat → UInt8) :
    WritesWithin inSize outSize outData ⟨status, outSize, outData⟩ :=
  ⟨fun _ => ⟨rfl, rfl⟩, fun ok => absurd ok failed⟩

theorem writeProperty_writesWithin (makeCfstr : String → UInt64) (inSize : UInt32)
    (value : PropertyValue) (outSize : UInt32) (outData : Nat → UInt8) :
    WritesWithin inSize outSize outData (writeProperty makeCfstr inSize value outSize outData) := by
  by_cases short : inSize.toNat < value.size
  · rw [writeProperty_of_lt value short]
    exact writesWithin_of_error (by decide) _ _ _
  · rw [writeProperty_of_le value (Nat.le_of_not_lt short)]
    refine ⟨fun failed => absurd rfl failed, fun _ => ?_⟩
    rw [toNat_ofNat_size]
    exact ⟨Nat.le_of_not_lt short,
      fun i past => storeBytes_apply_of_ge ((length_bytes makeCfstr value).trans_le past)⟩

theorem runHandler_writesWithin (makeCfstr : String → UInt64) (qualSize : UInt32)
    (qual : Option String) (inSize outSize : UInt32) (outData : Nat → UInt8) (handler : Handler) :
    WritesWithin inSize outSize outData
      (runHandler makeCfstr qualSize qual inSize outSize outData handler) := by
  cases handler with
  | write value => exact writeProperty_writesWithin _ _ _ _ _
  | empty => exact ⟨fun failed => absurd rfl failed, fun _ => ⟨Nat.zero_le _, fun _ _ => rfl⟩⟩
  | translateUID =>
    dsimp only [runHandler]
    split
    · exact writesWithin_of_error (by decide) _ _ _
    · exact writeProperty_writesWithin _ _ _ _ _
  | convert f => exact writeProperty_writesWithin _ _ _ _ _

/-- A handler fails with `kAudioHardwareBadPropertySizeError`, writing
nothing, when `inSize` is below its size. -/
theorem runHandler_of_lt (makeCfstr : String → UInt64) (qualSize : UInt32) (qual : Option String)
    {inSize : UInt32} (outSize : UInt32) (outData : Nat → UInt8) {handler : Handler}
    (short : inSize.toNat < handler.size) :
    runHandler makeCfstr qualSize qual inSize outSize outData handler =
      ⟨.audioHardwareBadPropertySizeError, outSize, outData⟩ := by
  cases handler with
  | write value => exact writeProperty_of_lt value short _ _
  | empty => exact absurd short (Nat.not_lt_zero _)
  | translateUID =>
    dsimp only [runHandler]
    split
    · rfl
    · next devId _ => exact writeProperty_of_lt (.u32 devId) short _ _
  | convert f => exact writeProperty_of_lt (.f32 (f (readFloat32 outData))) short _ _

/-- A handler succeeds and reports its size when `inSize` holds it and, for
the lookup, `qualSize` holds a `CFStringRef`. -/
theorem runHandler_of_le (makeCfstr : String → UInt64) {qualSize : UInt32} (qual : Option String)
    {inSize : UInt32} (outSize : UInt32) (outData : Nat → UInt8) {handler : Handler}
    (fits : handler.size ≤ inSize.toNat)
    (qualified : handler = .translateUID → sizeofCFStringRef ≤ qualSize.toNat) :
    ∃ written, runHandler makeCfstr qualSize qual inSize outSize outData handler =
      ⟨.audioHardwareNoError, UInt32.ofNat handler.size, written⟩ := by
  cases handler with
  | write value => exact ⟨_, writeProperty_of_le value fits _ _⟩
  | empty => exact ⟨_, rfl⟩
  | translateUID =>
    obtain ⟨devId, found⟩ := Option.isSome_iff_exists.mp
      (translateUIDToDevice_isSome (qualified rfl) qual)
    simp only [runHandler, found]
    exact ⟨_, writeProperty_of_le (.u32 devId) fits _ _⟩
  | convert f => exact ⟨_, writeProperty_of_le (.f32 (f (readFloat32 outData))) fits _ _⟩

/-! ## The entry points against each other -/

/-- `driver_GetPropertyData` on any object and selector either fails having
written neither `*outSize` nor `outData`, or succeeds having written
`*outSize ≤ inSize` bytes of `outData` and nothing past them. It fails with
`kAudioHardwareBadPropertySizeError` whenever `inSize` is below the size
`driver_GetPropertyDataSize` reports, with `kAudioHardwareUnknownPropertyError`
on a property that table does not list, and it does not depend on the
qualifier when `qualSize` cannot hold a `CFStringRef`. -/
theorem getPropertyData_writes_within (ops : FloatOps) (makeCfstr : String → UInt64)
    (st : DriverState) (id : UInt32) (sel : Selector) (qualSize : UInt32) (qual : Option String)
    (inSize outSize : UInt32) (outData : Nat → UInt8) :
    let r := driverGetPropertyData ops makeCfstr st id sel qualSize qual inSize outSize outData
    (r.status ≠ .audioHardwareNoError → r.outSize = outSize ∧ r.outData = outData) ∧
      (r.status = .audioHardwareNoError →
        r.outSize.toNat ≤ inSize.toNat ∧ ∀ i, r.outSize.toNat ≤ i → r.outData i = outData i) ∧
      (∀ size, propertyDataSize id sel = some size → inSize.toNat < size →
        r.status = .audioHardwareBadPropertySizeError) ∧
      (propertyDataSize id sel = none → r.status = .audioHardwareUnknownPropertyError) ∧
      (qualSize.toNat < sizeofCFStringRef → ∀ other : Option String,
        driverGetPropertyData ops makeCfstr st id sel qualSize other inSize outSize outData = r) := by
  intro r
  have within : WritesWithin inSize outSize outData r := by
    unfold r driverGetPropertyData
    split
    · exact runHandler_writesWithin _ _ _ _ _ _ _
    · exact writesWithin_of_error (by decide) _ _ _
  refine ⟨within.1, within.2, fun size sized short => ?_, fun unsized => ?_, fun unqualified other => ?_⟩
  · rw [← propertyHandler_size ops st] at sized
    obtain ⟨handler, found, rfl⟩ := Option.map_eq_some'.mp sized
    simp only [r, driverGetPropertyData, found, runHandler_of_lt _ _ _ _ _ short]
  · rw [← propertyHandler_size ops st, Option.map_eq_none'] at unsized
    simp only [r, driverGetPropertyData, unsized]
  · unfold r driverGetPropertyData
    split
    · rename_i handler _
      cases handler <;> simp only [runHandler, translateUIDToDevice_of_lt unqualified]
    · rfl

/-- On each published object, for every selector: `driver_HasProperty` answers
true exactly when `driver_GetPropertyDataSize` succeeds; then
`driver_GetPropertyData` succeeds given `inSize` of that size (and a
`CFStringRef` qualifier for `kAudioPlugInPropertyTranslateUIDToDevice`) and
reports the same size, and otherwise fails for every `inSize`; and
`driver_IsPropertySettable` answers true exactly when `driver_SetPropertyData`
with a four-byte payload succeeds. -/
theorem property_tables_agree (ops : FloatOps) (makeCfstr : String → UInt64) (st : DriverState)
    {id : UInt32} (published : id ∈ publishedObjectIDs) (sel : Selector) (outSize : UInt32) :
    let size := driverGetPropertyDataSize id sel outSize
    (driverHasProperty id sel = true ↔ size.1 = .audioHardwareNoError) ∧
      (size.1 = .audioHardwareNoError →
        ∀ (qualSize : UInt32) (qual : Option String) (inSize : UInt32) (outData : Nat → UInt8),
          size.2.toNat ≤ inSize.toNat →
          (sel = .audioPlugInPropertyTranslateUIDToDevice → sizeofCFStringRef ≤ qualSize.toNat) →
          let r := driverGetPropertyData ops makeCfstr st id sel qualSize qual inSize outSize outData
          r.status = .audioHardwareNoError ∧ r.outSize = size.2) ∧
      (size.1 ≠ .audioHardwareNoError →
        ∀ (qualSize : UInt32) (qual : Option String) (inSize : UInt32) (outData : Nat → UInt8),
          (driverGetPropertyData ops makeCfstr st id sel qualSize qual inSize outSize
            outData).status ≠ .audioHardwareNoError) ∧
      ∀ (inSize : UInt32) (inData : Nat → UInt8), 4 ≤ inSize.toNat →
        ((driverIsPropertySettable id sel).2 = true ↔
          (driverSetPropertyData ops st id sel inSize inData).1 = .audioHardwareNoError) := by
  intro size
  have settable : ∀ (inSize : UInt32) (inData : Nat → UInt8), 4 ≤ inSize.toNat →
      ((driverIsPropertySettable id sel).2 = true ↔
        (driverSetPropertyData ops st id sel inSize inData).1 = .audioHardwareNoError) :=
    fun inSize inData sized => by rw [driverSetPropertyData_ok_iff]; simp [sized]
  have table := propertyHandler_size ops st id sel
  unfold size driverGetPropertyDataSize driverGetPropertyData
  rw [hasProperty_eq_isSome published, ← table]
  cases found : propertyHandler ops st id sel with
  | none => exact ⟨by simp, by simp, fun _ _ _ _ _ => by simp, settable⟩
  | some handler =>
    refine ⟨by simp, fun _ qualSize qual inSize outData fits qualified => ?_, by simp, settable⟩
    simp only [Option.map_some', toNat_ofNat_handlerSize] at fits ⊢
    obtain ⟨written, ran⟩ := runHandler_of_le makeCfstr qual outSize outData fits
      fun translating => qualified (sel_eq_of_propertyHandler_translateUID (translating ▸ found))
    rw [ran]
    exact ⟨rfl, rfl⟩

/-- The output device's nominal sample rate, with float operations that return
their first argument, `make_cfstr` returning `NULL` and a cleared state. -/
theorem property_tables_agree_nominalSampleRate :
    objectIDOutputDevice ∈ publishedObjectIDs ∧
      let ops : FloatOps := ⟨fun a _ => a, fun a _ => a, fun a => a, fun a _ => a⟩
      let st : DriverState :=
        ⟨⟨fun _ => 0, 0, 0⟩, ⟨fun _ => 0, 0, 0⟩, 0, 0, 0, 0, 0, 0, ⟨1, 1⟩⟩
      let id := objectIDOutputDevice
      let sel := Selector.audioDevicePropertyNominalSampleRate
      let size := driverGetPropertyDataSize id sel 0
      (driverHasProperty id sel = true ↔ size.1 = .audioHardwareNoError) ∧
        (size.1 = .audioHardwareNoError →
          ∀ (qualSize : UInt32) (qual : Option String) (inSize : UInt32) (outData : Nat → UInt8),
            size.2.toNat ≤ inSize.toNat →
            (sel = .audioPlugInPropertyTranslateUIDToDevice → sizeofCFStringRef ≤ qualSize.toNat) →
            let r := driverGetPropertyData ops (fun _ => 0) st id sel qualSize qual inSize 0 outData
            r.status = .audioHardwareNoError ∧ r.outSize = size.2) ∧
        (size.1 ≠ .audioHardwareNoError →
          ∀ (qualSize : UInt32) (qual : Option String) (inSize : UInt32) (outData : Nat → UInt8),
            (driverGetPropertyData ops (fun _ => 0) st id sel qualSize qual inSize 0
              outData).status ≠ .audioHardwareNoError) ∧
        ∀ (inSize : UInt32) (inData : Nat → UInt8), 4 ≤ inSize.toNat →
          ((driverIsPropertySettable id sel).2 = true ↔
            (driverSetPropertyData ops st id sel inSize inData).1 = .audioHardwareNoError) :=
  ⟨by decide, property_tables_agree _ (fun _ => 0) _ (by decide) _ 0⟩

/-! ## Device UIDs -/

/-- `driver_GetPropertyData` reports `uid` as the `kAudioDevicePropertyDeviceUID`
of `id`: it succeeds and writes the `CFStringRef` that `make_cfstr` returns for
`uid`, whatever pointers `make_cfstr` returns. -/
def ReportsUID (ops : FloatOps) (st : DriverState) (id inSize outSize : UInt32)
    (outData : Nat → UInt8) (uid : String) : Prop :=
  ∀ makeCfstr : String → UInt64,
    let r := driverGetPropertyData ops makeCfstr st id .audioDevicePropertyDeviceUID 0 none inSize
      outSize outData
    r.status = .audioHardwareNoError ∧
      (List.range sizeofCFStringRef).map r.outData = leBytes (makeCfstr uid).toNat sizeofCFStringRef

/-- Only the devices have a UID; each has its own string. -/
theorem propertyHandler_deviceUID (ops : FloatOps) (st : DriverState) (id : UInt32) :
    propertyHandler ops st id .audioDevicePropertyDeviceUID =
      if isDevice id then
        some (.write (.cfString
          (if isOutputDevice id then "BungholeOutput_UID" else "BungholeInput_UID")))
      else none := by
  by_cases device : isDevice id = true
  · rcases device_cases device with rfl | rfl <;> rfl
  · rw [if_neg device]
    unfold propertyHandler
    split_ifs <;> rfl

/-- The lookup of a string, given a qualifier that holds a `CFStringRef`. -/
theorem translateUIDToDevice_some {qualSize : UInt32} (qualified : sizeofCFStringRef ≤ qualSize.toNat)
    (uid : String) :
    translateUIDToDevice qualSize (some uid) =
      some (if uid = "BungholeOutput_UID" then objectIDOutputDevice
        else if uid = "BungholeInput_UID" then objectIDInputDevice else audioObjectUnknown) := by
  rw [translateUIDToDevice, if_neg (Nat.not_lt.mpr qualified)]
  split_ifs <;> rfl

/-- A device reports exactly its own UID string. -/
theorem reportsUID_iff (ops : FloatOps) (st : DriverState) (id : UInt32) {inSize : UInt32}
    (room : sizeofCFStringRef ≤ inSize.toNat) (outSize : UInt32) (outData : Nat → UInt8)
    (uid : String) :
    ReportsUID ops st id inSize outSize outData uid ↔
      isDevice id = true ∧
        uid = if isOutputDevice id then "BungholeOutput_UID" else "BungholeInput_UID" := by
  unfold ReportsUID driverGetPropertyData
  rw [propertyHandler_deviceUID]
  by_cases device : isDevice id = true
  · rw [if_pos device]
    generalize (if isOutputDevice id then "BungholeOutput_UID" else "BungholeInput_UID") = text
    simp only [device, true_and, runHandler, writeProperty_of_le (.cfString _) room,
      PropertyValue.bytes, sizeofCFStringRef, map_range_storeBytes_leBytes]
    constructor
    · intro reported
      by_contra other
      have differ := reported fun s => if s = uid then 1 else 0
      simp only [if_neg (Ne.symm other), if_true] at differ
      exact absurd differ (by decide)
    · rintro rfl _
      rfl
  · rw [if_neg device]
    simp only [device, Bool.false_eq_true, false_and, iff_false]
    intro reported
    exact absurd (reported fun _ => 0).1 (by simp)

/-- `kAudioPlugInPropertyTranslateUIDToDevice` inverts
`kAudioDevicePropertyDeviceUID`: for every object and every string, the
plug-in, asked with that string as the qualifier, writes the four bytes of the
object's id exactly when the object is not `kAudioObjectUnknown` and
`driver_GetPropertyData` reports the string as its UID. -/
theorem translateUID_deviceUID (ops : FloatOps) (makeCfstr : String → UInt64) (st : DriverState)
    (id : UInt32) (uid : String) {qualSize : UInt32} (qualified : sizeofCFStringRef ≤ qualSize.toNat)
    {inSize : UInt32} (room : sizeofCFStringRef ≤ inSize.toNat) (outSize : UInt32)
    (outData : Nat → UInt8) :
    ReportsUID ops st id inSize outSize outData uid ↔
      id ≠ audioObjectUnknown ∧
        let r := driverGetPropertyData ops makeCfstr st objectIDPlugin
          .audioPlugInPropertyTranslateUIDToDevice qualSize (some uid) inSize outSize outData
        r.status = .audioHardwareNoError ∧
          (List.range sizeofUInt32).map r.outData = leBytes id.toNat sizeofUInt32 := by
  have fits : sizeofUInt32 ≤ inSize.toNat := le_trans (by decide) room
  have translated : driverGetPropertyData ops makeCfstr st objectIDPlugin
      .audioPlugInPropertyTranslateUIDToDevice qualSize (some uid) inSize outSize outData =
        writeProperty makeCfstr inSize (.u32 (if uid = "BungholeOutput_UID" then objectIDOutputDevice
          else if uid = "BungholeInput_UID" then objectIDInputDevice else audioObjectUnknown))
          outSize outData := by
    simp only [driverGetPropertyData, propertyHandler, runHandler, translateUIDToDevice_some qualified]
    rfl
  rw [reportsUID_iff ops st id room, translated, writeProperty_of_le (.u32 _) fits]
  simp only [PropertyValue.bytes, true_and, sizeofUInt32, map_range_storeBytes_leBytes]
  have sameId : ∀ a b : UInt32, leBytes a.toNat 4 = leBytes b.toNat 4 ↔ a = b :=
    fun a b => ⟨fun same => UInt32.toNat.inj (leBytes_inj_of_lt a.toBitVec.isLt b.toBitVec.isLt same),
      fun same => same ▸ rfl⟩
  simp only [sameId]
  by_cases device : isDevice id = true
  · rcases device_cases device with rfl | rfl <;>
      by_cases toOutput : uid = "BungholeOutput_UID" <;> by_cases toInput : uid = "BungholeInput_UID" <;>
      simp_all [isDevice, isOutputDevice, isInputDevice, objectIDOutputDevice, objectIDInputDevice,
        audioObjectUnknown]
  · simp only [device, Bool.false_eq_true, false_and, false_iff, not_and]
    intro known named
    split_ifs at named <;> subst named <;> simp_all [isDevice, isOutputDevice, isInputDevice]

/-- The input device's UID, asked with a qualifier and a buffer of one
`CFStringRef`. -/
theorem translateUID_deviceUID_input :
    let ops : FloatOps := ⟨fun a _ => a, fun a _ => a, fun a => a, fun _ _ => 0⟩
    let st : DriverState := ⟨⟨fun _ => 0, 0, 0⟩, ⟨fun _ => 0, 0, 0⟩, 0, 0, 0, 0, 0, 0, ⟨1, 1⟩⟩
    (sizeofCFStringRef ≤ (8 : UInt32).toNat ∧ sizeofCFStringRef ≤ (8 : UInt32).toNat) ∧
      (ReportsUID ops st objectIDInputDevice 8 0 (fun _ => 0) "BungholeInput_UID" ↔
        objectIDInputDevice ≠ audioObjectUnknown ∧
          let r := driverGetPropertyData ops (fun _ => 0) st objectIDPlugin
            .audioPlugInPropertyTranslateUIDToDevice 8 (some "BungholeInput_UID") 8 0 (fun _ => 0)
          r.status = .audioHardwareNoError ∧
            (List.range sizeofUInt32).map r.outData = leBytes objectIDInputDevice.toNat sizeofUInt32) := by
  intro ops st
  have sized : sizeofCFStringRef ≤ (8 : UInt32).toNat := by decide
  exact ⟨⟨sized, sized⟩, translateUID_deviceUID ops (fun _ => 0) st objectIDInputDevice
    "BungholeInput_UID" sized sized 0 (fun _ => 0)⟩

/-! ## Setting a level and reading it back -/

/-- `driver_SetPropertyData` of a level control's scalar value, then
`driver_GetPropertyData` of it with room for a `Float32`, succeeds and writes
four bytes: those of the payload as the setter clamped it to `[0.0, 1.0]`, which
are the payload's own bytes when it already lies there or is a NaN. -/
theorem scalarValue_round_trip (ops : FloatOps) (makeCfstr : String → UInt64) (st : DriverState)
    {id : UInt32} (volume : isVolume id = true) {inSize : UInt32} (payload : 4 ≤ inSize.toNat)
    (inData : Nat → UInt8) (qualSize : UInt32) (qual : Option String) {bufSize : UInt32}
    (room : 4 ≤ bufSize.toNat) (outSize : UInt32) (outData : Nat → UInt8) :
    let v := readFloat32 inData
    let r := driverGetPropertyData ops makeCfstr
      (driverSetPropertyData ops st id .audioLevelControlPropertyScalarValue inSize inData).2 id
      .audioLevelControlPropertyScalarValue qualSize qual bufSize outSize outData
    r.status = .audioHardwareNoError ∧ r.outSize = 4 ∧
      (List.range 4).map r.outData =
        (if Float32.one.lt (if v.lt 0 then 0 else v) then Float32.one else if v.lt 0 then 0 else v).bytes ∧
      (v.InUnit ∨ v.isNaN = true → (List.range 4).map r.outData = (List.range 4).map inData) := by
  intro v r
  have stored : propertyHandler ops
      (driverSetPropertyData ops st id .audioLevelControlPropertyScalarValue inSize inData).2 id
      .audioLevelControlPropertyScalarValue =
        some (.write (.f32
          (if Float32.one.lt (if v.lt 0 then 0 else v) then Float32.one else if v.lt 0 then 0 else v))) := by
    have volumeCases : id = objectIDOutputVolume ∨ id = objectIDInputVolume := by
      simpa [isVolume] using volume
    rcases volumeCases with rfl | rfl <;>
      simp [driverSetPropertyData, propertyHandler, volumeHandler, Nat.not_lt.mpr payload, v] <;> rfl
  have written : r = ⟨.audioHardwareNoError, 4,
      storeBytes outData (Float32.bytes
        (if Float32.one.lt (if v.lt 0 then 0 else v) then Float32.one else if v.lt 0 then 0 else v))⟩ := by
    simp only [r, driverGetPropertyData, stored, runHandler]
    exact writeProperty_of_le (.f32 _) room outSize outData
  rw [written]
  refine ⟨rfl, rfl, map_range_storeBytes outData _, fun kept => ?_⟩
  rw [Float32.clampUnit_of_inUnit_or_isNaN kept]
  exact (map_range_storeBytes outData v.bytes).trans (bytes_readFloat32 inData)

/-- `0.5f`, stored as `00 00 00 3F`, set on the output volume and read back. -/
theorem scalarValue_round_trip_half :
    let ops : FloatOps := ⟨fun a _ => a, fun a _ => a, fun a => a, fun _ _ => 0⟩
    let st : DriverState := ⟨⟨fun _ => 0, 0, 0⟩, ⟨fun _ => 0, 0, 0⟩, 0, 0, 0, 0, 0, 0, ⟨1, 1⟩⟩
    let inData : Nat → UInt8 := fun i => if i = 3 then 0x3F else 0
    let v := readFloat32 inData
    let r := driverGetPropertyData ops (fun _ => 0)
      (driverSetPropertyData ops st objectIDOutputVolume .audioLevelControlPropertyScalarValue 4
        inData).2 objectIDOutputVolume .audioLevelControlPropertyScalarValue 0 none 4 0 (fun _ => 0)
    (isVolume objectIDOutputVolume = true ∧ 4 ≤ (4 : UInt32).toNat ∧ 4 ≤ (4 : UInt32).toNat) ∧
      r.status = .audioHardwareNoError ∧ r.outSize = 4 ∧
      (List.range 4).map r.outData =
        (if Float32.one.lt (if v.lt 0 then 0 else v) then Float32.one else if v.lt 0 then 0 else v).bytes ∧
      (v.InUnit ∨ v.isNaN = true → (List.range 4).map r.outData = (List.range 4).map inData) := by
  intro ops st inData v r
  have volume : isVolume objectIDOutputVolume = true := by decide
  have sized : 4 ≤ (4 : UInt32).toNat := by decide
  exact ⟨⟨volume, sized, sized⟩,
    @scalarValue_round_trip ops (fun _ => 0) st _ volume 4 sized inData 0 none 4 sized 0 (fun _ => 0)⟩

end BungholeAudio
