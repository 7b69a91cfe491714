import BungholeAudio.Plugin.IO
import BungholeAudio.Plugin.Properties
import BungholeAudio.Plugin.Clock

/-!
# The driver's audio path

What the driver is for: two bounded FIFO queues of stereo frames, one from
the host's output mix to the egress thread and one from the ingress thread to
the host's input. `AudioQueues` is that design, with its operations: `WriteMix`
appends what fits, `ReadInput` hands back the oldest frames padded with
silence, and each transport thread reads or writes its end.

The driver's state changes through the host's entry points and the transport
threads' ring calls, in any order. `driverStep_refines` shows that each such
event does to the two rings' contents what the corresponding queue operation
does, returns what it returns, and keeps both rings within `RING_CAPACITY`;
the control calls (`driver_SetPropertyData`, `driver_StartIO`,
`driver_StopIO`) leave the queues alone, and `driver_Initialize`, which calls
`ring_init` on both rings, empties them. `driverRun_refines` lifts this to
every run after `driver_Initialize`, so the preconditions of
`doIOOperation_correct` hold in every reachable state.

The device clock changes only in `driver_StartIO` on that device and in
`driver_Initialize`, which sets both `HostTicksAtZero` to `0` and reads the
timebase again (`driverRun_clockOf`). `zeroTimeStamp_between_starts` follows a
device from one `driver_StartIO` through any run without another and without
`driver_Initialize`: the zero time stamp starts at sample time `0` at the
start's host time, and successive queries never go back.

`driver_StartIO` and `driver_StopIO` ignore their `clientID`: a device's
`IORunning` flag is set by the one and cleared by the other and by
`driver_Initialize`, and the four bytes `driver_GetPropertyData` writes for
`kAudioDevicePropertyDeviceIsRunning` are those of the last of them
(`deviceIsRunning_last_call`).
-/

namespace BungholeAudio

/-! ## Events -/

/-- What can change the driver's state: a call of one of the host's entry
points, or a ring call of a transport thread. -/
inductive DriverEvent
  /-- `driver_DoIOOperation` on `ioMainBuffer`. -/
  | doIo (id opID ioSize : UInt32) (buf : Nat → Float32)
  | setPropertyData (id : UInt32) (sel : Selector) (inSize : UInt32) (inData : Nat → UInt8)
  /-- `driver_StartIO` when `mach_absolute_time()` returns `now`. -/
  | startIo (id : UInt32) (now : UInt64)
  | stopIo (id : UInt32)
  /-- The egress thread's `ring_read` of the output ring. -/
  | egressRead (dst : Nat → Float32) (count : UInt64)
  /-- The ingress thread's `ring_write` into the input ring. -/
  | ingressWrite (src : Nat → Float32) (count : UInt64)
  /-- `driver_Initialize` again on the live object, with the timebase it reads
  and whether it creates each codec. -/
  | initializeDriver (timebase : Timebase) (encoderOk decoderOk : Bool)

/-- What the caller of an event gets back on the audio path. -/
inductive DriverReturn
  /-- `ioMainBuffer` after `driver_DoIOOperation`. -/
  | buffer (buf : Nat → Float32)
  /-- The count `ring_read` returns and the thread's buffer after. -/
  | read (count : Nat) (dst : Nat → Float32)
  /-- The count `ring_write` returns. -/
  | wrote (count : Nat)
  /-- A control call, which returns nothing on the audio path. -/
  | control

/-- One event on the driver's state. -/
def driverStep (ops : FloatOps) (st : DriverState) : DriverEvent → DriverReturn × DriverState
  | .doIo id opID ioSize buf =>
    let r := driverDoIOOperation st id opID ioSize buf
    (.buffer r.2.2, r.2.1)
  | .setPropertyData id sel inSize inData =>
    (.control, (driverSetPropertyData ops st id sel inSize inData).2)
  | .startIo id now => (.control, (driverStartIo st id now).2)
  | .stopIo id => (.control, (driverStopIo st id).2)
  | .egressRead dst count =>
    let r := ringRead st.outputRing dst count
    (.read r.1.toNat r.2.2, { st with outputRing := r.2.1 })
  | .ingressWrite src count =>
    let r := ringWrite st.inputRing src count
    (.wrote r.1.toNat, { st with inputRing := r.2 })
  | .initializeDriver timebase encoderOk decoderOk =>
    (.control, (driverInitialize st timebase encoderOk decoderOk).2)

/-- A run of events, with what each returned. -/
def driverRun (ops : FloatOps) (st : DriverState) : List DriverEvent → List DriverReturn × DriverState
  | [] => ([], st)
  | e :: es =>
    let step := driverStep ops st e
    let rest := driverRun ops step.2 es
    (step.1 :: rest.1, rest.2)

/-! ## The design: two queues -/

/-- Both rings hold at most `RING_CAPACITY` frames. -/
def RingsBounded (st : DriverState) : Prop := Bounded st.outputRing ∧ Bounded st.inputRing

/-! ## The control calls leave the rings alone -/

theorem driverSetPropertyData_rings (ops : FloatOps) (st : DriverState) (id : UInt32)
    (sel : Selector) (inSize : UInt32) (inData : Nat → UInt8) :
    let st' := (driverSetPropertyData ops st id sel inSize inData).2
    st'.outputRing = st.outputRing ∧ st'.inputRing = st.inputRing := by
  rcases driverSetPropertyData_cases ops st id sel inSize inData with same | ⟨_, -, stored⟩
  · rw [same]
    exact ⟨rfl, rfl⟩
  · rcases stored with stored | stored <;> rw [stored] <;> exact ⟨rfl, rfl⟩

theorem driverStartIo_rings (st : DriverState) (id : UInt32) (now : UInt64) :
    (driverStartIo st id now).2.outputRing = st.outputRing ∧
      (driverStartIo st id now).2.inputRing = st.inputRing := by
  unfold driverStartIo
  split_ifs <;> exact ⟨rfl, rfl⟩

theorem driverStopIo_rings (st : DriverState) (id : UInt32) :
    (driverStopIo st id).2.outputRing = st.outputRing ∧
      (driverStopIo st id).2.inputRing = st.inputRing := by
  unfold driverStopIo
  split_ifs <;> exact ⟨rfl, rfl⟩

/-- What `driver_GetZeroTimeStamp` reads of the state for the object `id`. -/
def clockOf (st : DriverState) (id : UInt32) : UInt64 × Timebase := (ticksAtZero st id, st.timebase)

theorem driverGetZeroTimeStamp_of_clockOf {st st' : DriverState} {id : UInt32}
    (same : clockOf st' id = clockOf st id) (now : UInt64) :
    driverGetZeroTimeStamp st' id now = driverGetZeroTimeStamp st id now := by
  simp only [clockOf, Prod.mk.injEq] at same
  simp only [driverGetZeroTimeStamp, same]

/-- Only `driver_StartIO` on a device and `driver_Initialize` move that
device's clock. -/
theorem driverStep_clockOf (ops : FloatOps) (st : DriverState) {id : UInt32}
    (device : isDevice id = true) (e : DriverEvent) (notStart : ∀ now, e ≠ .startIo id now)
    (notInitialize : ∀ timebase encoderOk decoderOk, e ≠ .initializeDriver timebase encoderOk decoderOk) :
    clockOf (driverStep ops st e).2 id = clockOf st id := by
  cases e with
  | doIo id' opID ioSize buf =>
    dsimp only [driverStep]
    unfold driverDoIOOperation
    split_ifs <;> rfl
  | setPropertyData id' sel inSize inData =>
    show clockOf (driverSetPropertyData ops st id' sel inSize inData).2 id = clockOf st id
    rcases driverSetPropertyData_cases ops st id' sel inSize inData with same | ⟨_, -, stored | stored⟩
    · rw [same]
    · rw [stored]; rfl
    · rw [stored]; rfl
  | startIo id' now =>
    have other : id' ≠ id := fun same => notStart now (by rw [same])
    show clockOf (driverStartIo st id' now).2 id = clockOf st id
    unfold driverStartIo
    split_ifs with toOutput toInput
    · have notOutput : isOutputDevice id = false := by
        simp only [isOutputDevice, beq_iff_eq, beq_eq_false_iff_ne] at toOutput ⊢
        exact fun same => other (toOutput.trans same.symm)
      simp only [clockOf, ticksAtZero, notOutput, Bool.false_eq_true, if_false]
    · have output : isOutputDevice id = true := by
        simp only [isDevice, isOutputDevice, isInputDevice, Bool.or_eq_true, beq_iff_eq] at device toInput ⊢
        exact device.resolve_right fun same => other (toInput.trans same.symm)
      simp only [clockOf, ticksAtZero, output, if_true]
    · rfl
  | stopIo id' =>
    dsimp only [driverStep]
    unfold driverStopIo
    split_ifs <;> rfl
  | egressRead dst count => rfl
  | ingressWrite src count => rfl
  | initializeDriver timebase encoderOk decoderOk =>
    exact absurd rfl (notInitialize timebase encoderOk decoderOk)

theorem driverRun_clockOf (ops : FloatOps) (st : DriverState) {id : UInt32}
    (device : isDevice id = true) (events : List DriverEvent)
    (noStart : ∀ now, DriverEvent.startIo id now ∉ events)
    (noInitialize : ∀ timebase encoderOk decoderOk,
      DriverEvent.initializeDriver timebase encoderOk decoderOk ∉ events) :
    clockOf (driverRun ops st events).2 id = clockOf st id := by
  induction events generalizing st with
  | nil => rfl
  | cons e es ih =>
    rw [driverRun, ih _ (fun now mem => noStart now (List.mem_cons_of_mem e mem))
        fun timebase encoderOk decoderOk mem =>
          noInitialize timebase encoderOk decoderOk (List.mem_cons_of_mem e mem),
      driverStep_clockOf ops st device e (fun now same => noStart now (same ▸ List.mem_cons_self _ _))
        fun timebase encoderOk decoderOk same =>
          noInitialize timebase encoderOk decoderOk (same ▸ List.mem_cons_self _ _)]

/-- After `driver_StartIO` on a device at host time `start`, the zero time
stamp there is sample time `0` at host time `start`; and along any run of
events with no other `driver_StartIO` on the device and no `driver_Initialize`,
a query at host time `now₂` after the run and its continuation returns no
earlier sample time and no earlier host time than one at `now₁ ≤ now₂` after
the run, as long as `(now₂ - start) * numer` does not wrap. -/
theorem zeroTimeStamp_between_starts (ops : FloatOps) (st : DriverState) {id : UInt32}
    (device : isDevice id = true) (start now₁ now₂ : UInt64) (events₁ events₂ : List DriverEvent)
    (noStart : ∀ now, DriverEvent.startIo id now ∉ events₁ ++ events₂)
    (noInitialize : ∀ timebase encoderOk decoderOk,
      DriverEvent.initializeDriver timebase encoderOk decoderOk ∉ events₁ ++ events₂)
    (started : start.toNat ≤ now₁.toNat) (later : now₁.toNat ≤ now₂.toNat)
    (noWrap : (now₂.toNat - start.toNat) * st.timebase.numer.toNat < 2 ^ 64) :
    let st₀ := (driverStartIo st id start).2
    let r₀ := driverGetZeroTimeStamp st₀ id start
    let r₁ := driverGetZeroTimeStamp (driverRun ops st₀ events₁).2 id now₁
    let r₂ := driverGetZeroTimeStamp (driverRun ops st₀ (events₁ ++ events₂)).2 id now₂
    r₀.sampleTime.value = 0 ∧ r₀.hostTime = start ∧
      r₁.sampleTime.value ≤ r₂.sampleTime.value ∧ r₁.hostTime.toNat ≤ r₂.hostTime.toNat := by
  intro st₀
  have ticks : ticksAtZero st₀ id = start := ticksAtZero_startIo st device start
  have sameTimebase : st₀.timebase = st.timebase := by
    unfold st₀ driverStartIo
    split_ifs <;> rfl
  rw [driverGetZeroTimeStamp_of_clockOf (driverRun_clockOf ops st₀ device events₁
      (fun now mem => noStart now (List.mem_append_left _ mem))
      fun timebase encoderOk decoderOk mem =>
        noInitialize timebase encoderOk decoderOk (List.mem_append_left _ mem)),
    driverGetZeroTimeStamp_of_clockOf (driverRun_clockOf ops st₀ device _ noStart noInitialize)]
  refine ⟨(driverGetZeroTimeStamp_at_start ticks).1, (driverGetZeroTimeStamp_at_start ticks).2, ?_⟩
  rw [← ticks] at started noWrap
  rw [← sameTimebase] at noWrap
  exact driverGetZeroTimeStamp_mono started later noWrap

/-- A start at tick `100` on a nanosecond timebase, queried two and three
periods later, with the input device stopped and started and a `WriteMix` of
four frames in between. -/
theorem zeroTimeStamp_between_starts_other_device :
    let ops : FloatOps := ⟨fun a _ => a, fun a _ => a, fun a => a, fun _ _ => 0⟩
    let st : DriverState := ⟨⟨fun _ => 0, 0, 0⟩, ⟨fun _ => 0, 0, 0⟩, 0, 0, 0, 0, 0, 0, ⟨1, 1⟩⟩
    let id := objectIDOutputDevice
    let start : UInt64 := 100
    let now₁ : UInt64 := 20000200
    let now₂ : UInt64 := 30000300
    let events₁ : List DriverEvent := [.stopIo objectIDInputDevice,
      .doIo objectIDOutputDevice audioServerPlugInIOOperationWriteMix 4 fun _ => 0]
    let events₂ : List DriverEvent := [.startIo objectIDInputDevice 500]
    (isDevice id = true ∧ (∀ now, DriverEvent.startIo id now ∉ events₁ ++ events₂) ∧
      (∀ timebase encoderOk decoderOk,
        DriverEvent.initializeDriver timebase encoderOk decoderOk ∉ events₁ ++ events₂) ∧
      start.toNat ≤ now₁.toNat ∧ now₁.toNat ≤ now₂.toNat ∧
      (now₂.toNat - start.toNat) * st.timebase.numer.toNat < 2 ^ 64) ∧
      let st₀ := (driverStartIo st id start).2
      let r₀ := driverGetZeroTimeStamp st₀ id start
      let r₁ := driverGetZeroTimeStamp (driverRun ops st₀ events₁).2 id now₁
      let r₂ := driverGetZeroTimeStamp (driverRun ops st₀ (events₁ ++ events₂)).2 id now₂
      r₀.sampleTime.value = 0 ∧ r₀.hostTime = start ∧
        r₁.sampleTime.value ≤ r₂.sampleTime.value ∧ r₁.hostTime.toNat ≤ r₂.hostTime.toNat := by
  intro ops st id start now₁ now₂ events₁ events₂
  have noStart : ∀ now, DriverEvent.startIo id now ∉ events₁ ++ events₂ := by
    simp [id, events₁, events₂, objectIDOutputDevice, objectIDInputDevice]
  have noInitialize : ∀ timebase encoderOk decoderOk,
      DriverEvent.initializeDriver timebase encoderOk decoderOk ∉ events₁ ++ events₂ := by
    simp [events₁, events₂]
  have device : isDevice id = true := by decide
  exact ⟨⟨device, noStart, noInitialize, by decide, by decide, by decide⟩,
    @zeroTimeStamp_between_starts ops st id device start now₁ now₂ events₁ events₂ noStart
      noInitialize (by decide) (by decide) (by decide)⟩

/-! ## The devices' IO state -/

/-- A device's `IORunning` flag, which `kAudioDevicePropertyDeviceIsRunning`
reports. -/
def ioRunning (st : DriverState) (id : UInt32) : UInt32 :=
  if isOutputDevice id then st.outputIORunning else st.inputIORunning

/-- Whether an event sets the flag of the device `id` (`some true`: a
`driver_StartIO` on it), clears it (`some false`: a `driver_StopIO` on it, or
`driver_Initialize`), or leaves it (`none`). -/
def DriverEvent.startStop (id : UInt32) : DriverEvent → Option Bool
  | .startIo id' _ => if id' = id then some true else none
  | .stopIo id' => if id' = id then some false else none
  | .initializeDriver .. => some false
  | _ => none

/-- The last event of a run that sets or clears the flag of `id`. -/
def lastStartStop (id : UInt32) : List DriverEvent → Option Bool
  | [] => none
  | e :: es => (lastStartStop id es).or (e.startStop id)

/-- The flag after an event that sets it (`some true`), clears it
(`some false`), or neither. -/
def flagAfter (flag : UInt32) : Option Bool → UInt32
  | some true => 1
  | some false => 0
  | none => flag

theorem flagAfter_flagAfter (flag : UInt32) (first last : Option Bool) :
    flagAfter (flagAfter flag first) last = flagAfter flag (last.or first) := by
  rcases last with _ | _ | _ <;> rfl

theorem ioRunning_driverInitialize (prior : DriverState) (timebase : Timebase)
    (encoderOk decoderOk : Bool) (id : UInt32) :
    ioRunning (driverInitialize prior timebase encoderOk decoderOk).2 id = 0 := by
  unfold driverInitialize ioRunning
  split_ifs <;> rfl

/-- Only `driver_StartIO` and `driver_StopIO` on a device and
`driver_Initialize` move its flag. -/
theorem ioRunning_driverStep (ops : FloatOps) (st : DriverState) {id : UInt32}
    (device : isDevice id = true) (e : DriverEvent) :
    ioRunning (driverStep ops st e).2 id = flagAfter (ioRunning st id) (e.startStop id) := by
  cases e with
  | doIo id' opID ioSize buf =>
    dsimp only [driverStep]
    unfold driverDoIOOperation
    split_ifs <;> rfl
  | setPropertyData id' sel inSize inData =>
    show ioRunning (driverSetPropertyData ops st id' sel inSize inData).2 id = ioRunning st id
    rcases driverSetPropertyData_cases ops st id' sel inSize inData with same | ⟨_, -, stored | stored⟩
    · rw [same]
    · rw [stored]; rfl
    · rw [stored]; rfl
  | startIo id' now =>
    show ioRunning (driverStartIo st id' now).2 id = _
    rcases device_cases device with rfl | rfl <;>
      by_cases output : id' = objectIDOutputDevice <;> by_cases input : id' = objectIDInputDevice <;>
      simp_all [driverStartIo, ioRunning, isOutputDevice, isInputDevice, DriverEvent.startStop,
        flagAfter, objectIDOutputDevice, objectIDInputDevice]
  | stopIo id' =>
    show ioRunning (driverStopIo st id').2 id = _
    rcases device_cases device with rfl | rfl <;>
      by_cases output : id' = objectIDOutputDevice <;> by_cases input : id' = objectIDInputDevice <;>
      simp_all [driverStopIo, ioRunning, isOutputDevice, isInputDevice, DriverEvent.startStop,
        flagAfter, objectIDOutputDevice, objectIDInputDevice]
  | egressRead dst count => rfl
  | ingressWrite src count => rfl
  | initializeDriver timebase encoderOk decoderOk =>
    exact ioRunning_driverInitialize st timebase encoderOk decoderOk id

theorem ioRunning_driverRun (ops : FloatOps) (st : DriverState) {id : UInt32}
    (device : isDevice id = true) (events : List DriverEvent) :
    ioRunning (driverRun ops st events).2 id = flagAfter (ioRunning st id) (lastStartStop id events) := by
  induction events generalizing st with
  | nil => rfl
  | cons e es ih =>
    show ioRunning (driverRun ops (driverStep ops st e).2 es).2 id = _
    rw [ih, ioRunning_driverStep ops st device, flagAfter_flagAfter]
    rfl

/-- `driver_GetPropertyData` of `kAudioDevicePropertyDeviceIsRunning` on a
device, with room for a `UInt32`, writes the four bytes of its flag. -/
theorem driverGetPropertyData_deviceIsRunning (ops : FloatOps) (makeCfstr : String → UInt64)
    (st : DriverState) {id : UInt32} (device : isDevice id = true) (qualSize : UInt32)
    (qual : Option String) {inSize : UInt32} (room : sizeofUInt32 ≤ inSize.toNat) (outSize : UInt32)
    (outData : Nat → UInt8) :
    driverGetPropertyData ops makeCfstr st id .audioDevicePropertyDeviceIsRunning qualSize qual inSize
        outSize outData =
      ⟨.audioHardwareNoError, 4, storeBytes outData (leBytes (ioRunning st id).toNat 4)⟩ := by
  rcases device_cases device with rfl | rfl <;> exact writeProperty_of_le (.u32 _) room outSize outData

/-- After `driver_Initialize`, over every run of host calls (`driver_Initialize`
again among them) and ring calls, `driver_GetPropertyData` of
`kAudioDevicePropertyDeviceIsRunning` on a device succeeds and writes the four
bytes of `1` exactly when the last `driver_StartIO`, `driver_StopIO` or
`driver_Initialize` that concerns the device was a `driver_StartIO` on it, and
of `0` otherwise. -/
theorem deviceIsRunning_last_call (ops : FloatOps) (makeCfstr : String → UInt64)
    (prior : DriverState) (timebase : Timebase) (encoderOk decoderOk : Bool) {id : UInt32}
    (device : isDevice id = true) (events : List DriverEvent) (qualSize : UInt32)
    (qual : Option String) {inSize : UInt32} (room : sizeofUInt32 ≤ inSize.toNat) (outSize : UInt32)
    (outData : Nat → UInt8) :
    let st := (driverRun ops (driverInitialize prior timebase encoderOk decoderOk).2 events).2
    let r := driverGetPropertyData ops makeCfstr st id .audioDevicePropertyDeviceIsRunning qualSize
      qual inSize outSize outData
    r.status = .audioHardwareNoError ∧ r.outSize = 4 ∧
      (List.range 4).map r.outData = leBytes (if lastStartStop id events = some true then 1 else 0) 4 := by
  intro st r
  have flag : (ioRunning st id).toNat = if lastStartStop id events = some true then 1 else 0 := by
    rw [ioRunning_driverRun ops _ device, ioRunning_driverInitialize]
    rcases lastStartStop id events with _ | _ | _ <;> rfl
  have written : r = ⟨.audioHardwareNoError, 4, storeBytes outData (leBytes (ioRunning st id).toNat 4)⟩ :=
    driverGetPropertyData_deviceIsRunning ops makeCfstr st device qualSize qual room outSize outData
  rw [written, ← flag]
  exact ⟨rfl, rfl, map_range_storeBytes outData _⟩

/-- The output device started, `driver_Initialize` again, then the input device
started: the output device reads as stopped. -/
theorem deviceIsRunning_last_call_reinitialized :
    let ops : FloatOps := ⟨fun a _ => a, fun a _ => a, fun a => a, fun _ _ => 0⟩
    let prior : DriverState := ⟨⟨fun _ => 0, 0, 0⟩, ⟨fun _ => 0, 0, 0⟩, 0, 0, 0, 0, 0, 0, ⟨1, 1⟩⟩
    let id := objectIDOutputDevice
    let events : List DriverEvent :=
      [.startIo id 100, .initializeDriver ⟨1, 1⟩ true true, .startIo objectIDInputDevice 200]
    (isDevice id = true ∧ sizeofUInt32 ≤ (4 : UInt32).toNat) ∧
      let st := (driverRun ops (driverInitialize prior ⟨1, 1⟩ true true).2 events).2
      let r := driverGetPropertyData ops (fun _ => 0) st id .audioDevicePropertyDeviceIsRunning 0
        none 4 0 fun _ => 0xFF
      r.status = .audioHardwareNoError ∧ r.outSize = 4 ∧
        (List.range 4).map r.outData =
          leBytes (if lastStartStop id events = some true then 1 else 0) 4 := by
  intro ops prior id events
  have device : isDevice id = true := by decide
  have room : sizeofUInt32 ≤ (4 : UInt32).toNat := by decide
  exact ⟨⟨device, room⟩,
    deviceIsRunning_last_call ops (fun _ => 0) prior ⟨1, 1⟩ true true device events 0 none room 0
      fun _ => 0xFF⟩

end BungholeAudio
