import BungholeAudio.System
import BungholeAudio.Transport.Ingress

/-!
# The plug-in's process

Three threads share one `DriverState`: the host's threads, which call the
entry points (`driver_DoIOOperation` on the IO thread), and the two transport
threads `output_transport_thread` and `input_transport_thread`. They meet at
the two rings: the IO thread writes the output ring in `WriteMix` and reads the
input ring in `ReadInput`, the egress thread reads the output ring, and the
ingress thread writes the input ring.

`Process` runs the driver model and the two thread models side by side. A host
call steps the driver model; `WriteMix` and `ReadInput` are also, in the thread
models, the IO thread's ring call on that thread's ring (the `produce` and
`consume` moves). A transport thread's move steps its own model, and the ring it
leaves is the driver's. `processStep_shared` shows that the two accounts of
each ring never part: the ring `driver_DoIOOperation` leaves is the ring the
thread model computes for the IO thread's call, whatever the interleaving.

So every result about one thread holds in the whole process, and
`process_audio_path` puts them together: both rings stay bounded, the frames
the host's `WriteMix` calls got into the output ring leave it in order, and
reach the socket in whole 960-frame blocks, in order; the frames the host's
`ReadInput` calls took are, in order, those the ingress thread's `ring_write`s
accepted.
-/

namespace BungholeAudio

/-! ## Events -/

/-- A call of one of the host's entry points that changes the driver's state. -/
inductive HostCall
  | doIo (id opID ioSize : UInt32) (buf : Nat → Float32)
  | setPropertyData (id : UInt32) (sel : Selector) (inSize : UInt32) (inData : Nat → UInt8)
  | startIo (id : UInt32) (now : UInt64)
  | stopIo (id : UInt32)

/-- The host call as an event of the driver model. -/
def HostCall.event : HostCall → DriverEvent
  | .doIo id opID ioSize buf => .doIo id opID ioSize buf
  | .setPropertyData id sel inSize inData => .setPropertyData id sel inSize inData
  | .startIo id now => .startIo id now
  | .stopIo id => .stopIo id

/-- What can happen next in the process: a host call, or a move of the
environment of a transport thread. -/
inductive ProcessEvent
  | host (call : HostCall)
  | egressStop
  | egressConnect (writes : List (Option Nat))
  | egressIterate (nbytes : Int) (packet : Nat → UInt8)
  | ingressStop
  | ingressConnect (conn : Inbound)
  | ingressIterate (nsamples : Int) (pcm : Nat → Float32)

/-- The move the event is in the egress thread's model: its own moves, and the
IO thread's `ring_write(&drv->outputRing, buf, ioSize)` in `WriteMix`. -/
def ProcessEvent.egressMove : ProcessEvent → Option (EgressMove Float32)
  | .host (.doIo id opID ioSize buf) =>
    if id = objectIDOutputDevice ∧ opID = audioServerPlugInIOOperationWriteMix then
      some (.produce buf ioSize.toUInt64)
    else none
  | .egressStop => some .stop
  | .egressConnect writes => some (.connect writes)
  | .egressIterate nbytes packet => some (.iterate nbytes packet)
  | _ => none

/-- The move the event is in the ingress thread's model: its own moves, and the
IO thread's `ring_read(&drv->inputRing, buf, ioSize)` in `ReadInput`. -/
def ProcessEvent.ingressMove : ProcessEvent → Option (IngressMove Float32)
  | .host (.doIo id opID ioSize buf) =>
    if id = objectIDInputDevice ∧ opID = audioServerPlugInIOOperationReadInput then
      some (.consume buf ioSize.toUInt64)
    else none
  | .ingressStop => some .stop
  | .ingressConnect conn => some (.connect conn)
  | .ingressIterate nsamples pcm => some (.iterate nsamples pcm)
  | _ => none

/-! ## The process -/

/-- The driver's state and the two transport threads' states. -/
structure Process where
  driver : DriverState
  egress : Egress Float32
  ingress : Ingress Float32

/-- `driver_Initialize`, which clears both rings and then starts both threads;
`pcm` and `opusBuf` are the threads' uninitialised buffers. -/
def processInit (prior : DriverState) (timebase : Timebase) (encoderOk decoderOk : Bool)
    (pcm : Nat → Float32) (opusBuf : Nat → UInt8) : Process :=
  ⟨(driverInitialize prior timebase encoderOk decoderOk).2, egressInit prior.outputRing pcm,
    ingressInit prior.inputRing opusBuf⟩

/-- A thread model's step on the move an event is, if it is one. -/
def stepIf {σ μ : Type} (step : σ → μ → σ) (s : σ) : Option μ → σ
  | some move => step s move
  | none => s

/-- One event. A host call steps the driver; a thread's move leaves its rings in
the driver's state. -/
def processStep (ops : FloatOps) (p : Process) (e : ProcessEvent) : Process :=
  let egress := stepIf egressStep p.egress e.egressMove
  let ingress := stepIf ingressStep p.ingress e.ingressMove
  match e with
  | .host call => ⟨(driverStep ops p.driver call.event).2, egress, ingress⟩
  | _ => ⟨{ p.driver with outputRing := egress.ring, inputRing := ingress.ring }, egress, ingress⟩

/-- A run of events. -/
def processRun (ops : FloatOps) (p : Process) : List ProcessEvent → Process
  | [] => p
  | e :: es => processRun ops (processStep ops p e) es

/-! ## One ring each -/

/-- The driver's rings are the threads' rings. -/
def SharedRings (p : Process) : Prop :=
  p.driver.outputRing = p.egress.ring ∧ p.driver.inputRing = p.ingress.ring

theorem processInit_shared (prior : DriverState) (timebase : Timebase) (encoderOk decoderOk : Bool)
    (pcm : Nat → Float32) (opusBuf : Nat → UInt8) :
    SharedRings (processInit prior timebase encoderOk decoderOk pcm opusBuf) := by
  unfold processInit driverInitialize
  split_ifs <;> exact ⟨rfl, rfl⟩

/-- Every event keeps the driver's rings the threads' rings: `WriteMix` and
`ReadInput` compute in `driver_DoIOOperation` the rings the thread models
compute for the IO thread's ring calls, and no other host call touches a ring. -/
theorem processStep_shared (ops : FloatOps) {p : Process} (shared : SharedRings p) (e : ProcessEvent) :
    SharedRings (processStep ops p e) := by
  obtain ⟨outShared, inShared⟩ := shared
  have unchanged : ∀ call : HostCall, (ProcessEvent.host call).egressMove = none →
      (ProcessEvent.host call).ingressMove = none →
      (driverStep ops p.driver call.event).2.outputRing = p.driver.outputRing ∧
        (driverStep ops p.driver call.event).2.inputRing = p.driver.inputRing →
      SharedRings (processStep ops p (.host call)) := by
    intro call noWrite noRead ⟨outSame, inSame⟩
    simp only [processStep, noWrite, noRead, stepIf]
    exact ⟨outSame.trans outShared, inSame.trans inShared⟩
  cases e with
  | host call =>
    cases call with
    | doIo id opID ioSize buf =>
      by_cases writeMix : id = objectIDOutputDevice ∧ opID = audioServerPlugInIOOperationWriteMix
      · obtain ⟨rfl, rfl⟩ := writeMix
        simp only [processStep, ProcessEvent.egressMove, ProcessEvent.ingressMove, stepIf,
          HostCall.event, driverStep, driverDoIOOperation_writeMix, egressStep, and_self, if_true,
          show ¬(objectIDOutputDevice = objectIDInputDevice ∧
            audioServerPlugInIOOperationWriteMix = audioServerPlugInIOOperationReadInput) by decide,
          if_false, outShared, inShared]
        exact ⟨rfl, rfl⟩
      · by_cases readInput : id = objectIDInputDevice ∧ opID = audioServerPlugInIOOperationReadInput
        · obtain ⟨rfl, rfl⟩ := readInput
          simp only [processStep, ProcessEvent.egressMove, ProcessEvent.ingressMove, stepIf,
            HostCall.event, driverStep, driverDoIOOperation_readInput, ingressStep, and_self,
            if_true, if_neg writeMix, outShared, inShared]
          exact ⟨rfl, rfl⟩
        · have declined : (driverWillDoIOOperation id opID).2.1 = false := by
            rw [Bool.eq_false_iff, ne_eq, willDoIOOperation_iff]
            exact fun either => either.elim writeMix readInput
          refine unchanged _ (if_neg writeMix) (if_neg readInput) ?_
          simp only [HostCall.event, driverStep, driverDoIOOperation_of_declined _ ioSize buf declined,
            and_self]
    | setPropertyData id sel inSize inData =>
      exact unchanged _ rfl rfl (driverSetPropertyData_rings ops p.driver id sel inSize inData)
    | startIo id now => exact unchanged _ rfl rfl (driverStartIo_rings p.driver id now)
    | stopIo id => exact unchanged _ rfl rfl (driverStopIo_rings p.driver id)
  | _ => exact ⟨rfl, rfl⟩

theorem processRun_shared (ops : FloatOps) {p : Process} (shared : SharedRings p)
    (events : List ProcessEvent) : SharedRings (processRun ops p events) := by
  induction events generalizing p with
  | nil => exact shared
  | cons e es ih => exact ih (processStep_shared ops shared e)

/-! ## Each thread runs its own model -/

theorem processRun_egress (ops : FloatOps) (p : Process) (events : List ProcessEvent) :
    (processRun ops p events).egress = egressRun p.egress (events.filterMap ProcessEvent.egressMove) := by
  induction events generalizing p with
  | nil => rfl
  | cons e es ih =>
    rw [processRun, ih, List.filterMap_cons]
    cases moved : e.egressMove <;> cases e <;> simp only [processStep, stepIf, moved] <;> rfl

theorem processRun_ingress (ops : FloatOps) (p : Process) (events : List ProcessEvent) :
    (processRun ops p events).ingress =
      ingressRun p.ingress (events.filterMap ProcessEvent.ingressMove) := by
  induction events generalizing p with
  | nil => rfl
  | cons e es ih =>
    rw [processRun, ih, List.filterMap_cons]
    cases moved : e.ingressMove <;> cases e <;> simp only [processStep, stepIf, moved] <;> rfl

/-! ## The audio path through the process -/

/-- After `driver_Initialize`, over every interleaving of host calls and moves
of both transport threads: the driver's rings are the threads' rings, both
stay within `RING_CAPACITY`; the frames the egress thread has read, followed
by the output ring, are the frames the host's `WriteMix` calls got into it, and
the blocks it delivered whole are, in order, among the consecutive 960-frame
blocks of what it read; the frames the host's `ReadInput` calls took, followed
by the input ring, are the frames the ingress thread's `ring_write`s accepted. -/
theorem process_audio_path (ops : FloatOps) (prior : DriverState) (timebase : Timebase)
    (encoderOk decoderOk : Bool) (pcm : Nat → Float32) (opusBuf : Nat → UInt8)
    (events : List ProcessEvent) :
    let p := processRun ops (processInit prior timebase encoderOk decoderOk pcm opusBuf) events
    SharedRings p ∧ RingsBounded p.driver ∧
      p.egress.received ++ contents p.driver.outputRing = p.egress.produced ∧
      ((p.egress.encodes.filter EncodeCall.isDelivered).map EncodeCall.block).Sublist
        (blocksOf p.egress.received) ∧
      p.ingress.consumed ++ contents p.driver.inputRing = p.ingress.accepted := by
  intro p
  have shared : SharedRings p := processRun_shared ops (processInit_shared ..) events
  have egressInv : EgressInv pcm p.egress := by
    rw [processRun_egress]
    exact egressRun_inv (egressInit_inv prior.outputRing pcm) _
  have ingressInv : IngressInv p.ingress := by
    rw [processRun_ingress]
    exact ingressRun_inv (ingressInit_inv prior.inputRing opusBuf) _
  exact ⟨shared, ⟨shared.1 ▸ egressInv.bounded, shared.2 ▸ ingressInv.bounded⟩,
    shared.1 ▸ egressInv.fifo, egressInv.delivered_sublist, shared.2 ▸ ingressInv.fifo⟩

end BungholeAudio
