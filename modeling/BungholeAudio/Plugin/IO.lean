import BungholeAudio.Plugin.Driver

/-!
# The IO operations

The host moves audio through `driver_DoIOOperation`. On the output device it
hands over the mixed buffer (`WriteMix`), which goes into the output ring for
the egress thread; on the input device it asks for a buffer (`ReadInput`),
which comes out of the input ring and is padded with silence when the ring
holds too little. `driver_WillDoIOOperation` tells the host which operations
the driver takes part in.

`doIOOperation_correct` says what one call does to the two rings, at the level
of the FIFO queue of `Ring.Refinement`, and to the buffer. The rings it starts
from hold at most `RING_CAPACITY` frames, as every ring reachable from
`ring_init` does.
-/

namespace BungholeAudio

/-- `kAudioServerPlugInIOOperationWriteMix`, `'rite'`. -/
def audioServerPlugInIOOperationWriteMix : UInt32 := 0x72697465

/-- `kAudioServerPlugInIOOperationReadInput`, `'read'`. -/
def audioServerPlugInIOOperationReadInput : UInt32 := 0x72656164

/-- `driver_WillDoIOOperation`: the status, `*outWill` and `*outIsInput`. -/
def driverWillDoIOOperation (id opID : UInt32) : Status × Bool × Bool :=
  if isOutputDevice id then
    if opID == audioServerPlugInIOOperationWriteMix then (.audioHardwareNoError, true, false)
    else (.audioHardwareNoError, false, false)
  else if isInputDevice id then
    if opID == audioServerPlugInIOOperationReadInput then (.audioHardwareNoError, true, true)
    else (.audioHardwareNoError, false, false)
  else (.audioHardwareNoError, false, false)

/-- `driver_DoIOOperation`, with `ioMainBuffer` as the floats `buf`: the status,
the state and the buffer after. The silence after an underrun is a `memset`
of `(ioSize - got) * BYTES_PER_FRAME` bytes, `(ioSize - got) * NUM_CHANNELS`
floats from float `got * NUM_CHANNELS` on. -/
def driverDoIOOperation (st : DriverState) (id opID ioSize : UInt32) (buf : Nat → Float32) :
    Status × DriverState × (Nat → Float32) :=
  if isOutputDevice id && opID == audioServerPlugInIOOperationWriteMix then
    (.audioHardwareNoError,
      { st with outputRing := (ringWrite st.outputRing buf ioSize.toUInt64).2 }, buf)
  else if isInputDevice id && opID == audioServerPlugInIOOperationReadInput then
    let read := ringRead st.inputRing buf ioSize.toUInt64
    let got := read.1
    let buf :=
      if got < ioSize.toUInt64 then
        memset read.2.2 (got.toNat * numChannels) ((ioSize.toUInt64 - got).toNat * numChannels) 0
      else read.2.2
    (.audioHardwareNoError, { st with inputRing := read.2.1 }, buf)
  else (.audioHardwareNoError, st, buf)

/-! ## One lemma per operation -/

section Operations

variable (st : DriverState) (ioSize : UInt32) (buf : Nat → Float32)

theorem driverDoIOOperation_writeMix :
    driverDoIOOperation st objectIDOutputDevice audioServerPlugInIOOperationWriteMix ioSize buf =
      (.audioHardwareNoError,
        { st with outputRing := (ringWrite st.outputRing buf ioSize.toUInt64).2 }, buf) :=
  rfl

theorem driverDoIOOperation_readInput :
    let read := ringRead st.inputRing buf ioSize.toUInt64
    driverDoIOOperation st objectIDInputDevice audioServerPlugInIOOperationReadInput ioSize buf =
      (.audioHardwareNoError, { st with inputRing := read.2.1 },
        if read.1 < ioSize.toUInt64 then
          memset read.2.2 (read.1.toNat * numChannels)
            ((ioSize.toUInt64 - read.1).toNat * numChannels) 0
        else read.2.2) :=
  rfl

/-- `driver_WillDoIOOperation` takes part in exactly the two operations
`driver_DoIOOperation` performs. -/
theorem willDoIOOperation_iff (id opID : UInt32) :
    (driverWillDoIOOperation id opID).2.1 = true ↔
      (id = objectIDOutputDevice ∧ opID = audioServerPlugInIOOperationWriteMix) ∨
        (id = objectIDInputDevice ∧ opID = audioServerPlugInIOOperationReadInput) := by
  have distinct : objectIDOutputDevice ≠ objectIDInputDevice := by decide
  unfold driverWillDoIOOperation isOutputDevice isInputDevice
  split_ifs <;> simp_all [distinct, distinct.symm]

theorem driverDoIOOperation_of_declined {id opID : UInt32}
    (declined : (driverWillDoIOOperation id opID).2.1 = false) :
    driverDoIOOperation st id opID ioSize buf = (.audioHardwareNoError, st, buf) := by
  have neither := (willDoIOOperation_iff id opID).not.mp (by simp [declined])
  unfold driverDoIOOperation isOutputDevice isInputDevice
  rw [if_neg (by simpa using fun a b => neither (.inl ⟨a, b⟩)),
    if_neg (by simpa using fun a b => neither (.inr ⟨a, b⟩))]

end Operations

/-! ## The operations on the queues -/

/-- `ReadInput` on the input queue: the oldest `min(ioSize, |q|)` frames are
removed and stored at the start of the buffer, and silence fills it up to
`ioSize` frames. -/
def queueReadInput (q : List (Frame Float32)) (buf : Nat → Float32) (ioSize : Nat) :
    List (Frame Float32) × (Nat → Float32) :=
  let got := min ioSize q.length
  (q.drop got,
    memset (storeFrames buf 0 (q.take got)) (got * numChannels) ((ioSize - got) * numChannels) 0)

/-- The buffer `ReadInput` hands back: the frames taken, then silence up to
`ioSize` frames, and the caller's floats past that. -/
theorem queueReadInput_buffer (q : List (Frame Float32)) (buf : Nat → Float32) (ioSize : Nat) :
    let got := min ioSize q.length
    let out := (queueReadInput q buf ioSize).2
    framesOf out got = q.take got ∧
      (∀ i, got * numChannels ≤ i → i < ioSize * numChannels → out i = 0) ∧
      (∀ i, ioSize * numChannels ≤ i → out i = buf i) := by
  intro got out
  have stored := framesOf_storeFrames buf (q.take got)
  rw [List.length_take, min_eq_left (Nat.min_le_right _ _)] at stored
  refine ⟨?_, fun i low high => ?_, fun i high => ?_⟩
  · rw [← stored]
    refine framesOf_congr fun j inside => ?_
    simp only [out, queueReadInput, frameAt, memset, numChannels] at inside ⊢
    rw [if_neg (by omega), if_neg (by omega)]
  · simp only [out, queueReadInput, memset]
    rw [if_pos ⟨low, by simp only [numChannels] at high ⊢; omega⟩]
  · simp only [out, queueReadInput, memset]
    rw [if_neg (by simp only [numChannels] at high ⊢; omega), storeFrames_apply_of_ge]
    simp only [List.length_take, numChannels] at high ⊢
    omega

/-- The buffer after the underrun padding: zero between float `got * 2` and
float `ioSize * 2`, as the ring read left it elsewhere. -/
theorem underrunFill_apply (dst : Nat → Float32) {got size : UInt64} (gotLe : got ≤ size)
    (i : Nat) :
    (if got < size then memset dst (got.toNat * numChannels) ((size - got).toNat * numChannels) 0
      else dst) i =
      if got.toNat * numChannels ≤ i ∧ i < size.toNat * numChannels then 0 else dst i := by
  rw [u64_le_iff] at gotLe
  split
  · rename_i under
    rw [u64_lt_iff] at under
    simp only [memset, toNat_sub_of_toNat_le gotLe, numChannels]
    congr 2
    apply propext
    omega
  · rename_i notUnder
    rw [u64_lt_iff] at notUnder
    rw [if_neg (by simp only [numChannels]; omega)]

section Refinement

variable (st : DriverState) (ioSize : UInt32) (buf : Nat → Float32)

/-- `WriteMix` is the queue's write on the output ring. -/
theorem driverDoIOOperation_writeMix_refines (bounded : Bounded st.outputRing) :
    let r :=
      driverDoIOOperation st objectIDOutputDevice audioServerPlugInIOOperationWriteMix ioSize buf
    contents r.2.1.outputRing = (queueWrite (contents st.outputRing) buf ioSize.toNat).2 ∧
      Bounded r.2.1.outputRing ∧ r.2.1.inputRing = st.inputRing ∧ r.2.2 = buf := by
  obtain ⟨-, refined, stillBounded⟩ := ringWrite_refines st.outputRing bounded buf ioSize.toUInt64
  rw [UInt32.toUInt64_toNat] at refined
  exact ⟨refined, stillBounded, rfl, rfl⟩

/-- `ReadInput` is `queueReadInput` on the input ring, buffer included. -/
theorem driverDoIOOperation_readInput_refines (bounded : Bounded st.inputRing) :
    let r :=
      driverDoIOOperation st objectIDInputDevice audioServerPlugInIOOperationReadInput ioSize buf
    let spec := queueReadInput (contents st.inputRing) buf ioSize.toNat
    contents r.2.1.inputRing = spec.1 ∧ r.2.2 = spec.2 ∧ Bounded r.2.1.inputRing ∧
      r.2.1.outputRing = st.outputRing := by
  obtain ⟨gotEq, refined, stored, stillBounded⟩ :=
    ringRead_refines st.inputRing bounded buf ioSize.toUInt64
  simp only [queueRead, UInt32.toUInt64_toNat] at gotEq refined stored
  have gotLe : (ringRead st.inputRing buf ioSize.toUInt64).1 ≤ ioSize.toUInt64 := by
    rw [u64_le_iff, gotEq, UInt32.toUInt64_toNat]
    exact Nat.min_le_left _ _
  refine ⟨refined, funext fun i => ?_, stillBounded, rfl⟩
  rw [driverDoIOOperation_readInput]
  dsimp only
  rw [underrunFill_apply _ gotLe, stored, gotEq, UInt32.toUInt64_toNat]
  simp only [queueReadInput, memset, numChannels]
  congr 1
  apply propext
  omega

end Refinement

/-- What `driver_DoIOOperation` does to rings holding at most `RING_CAPACITY`
frames. `WriteMix` on the output device appends the first
`min(ioSize, RING_CAPACITY - available)` frames of the buffer to the output
queue. `ReadInput` on the input device moves the first
`got = min(ioSize, available)` frames of the input queue to the start of the
buffer and zeroes the next `ioSize - got` frames. Every other pair, exactly the
ones `driver_WillDoIOOperation` declines, changes neither ring nor buffer. -/
theorem doIOOperation_correct (st : DriverState) (outputBounded : Bounded st.outputRing)
    (inputBounded : Bounded st.inputRing) (id opID ioSize : UInt32) (buf : Nat → Float32) :
    let r := driverDoIOOperation st id opID ioSize buf
    let willDo := (driverWillDoIOOperation id opID).2.1
    r.1 = .audioHardwareNoError ∧
      (willDo = true ↔ (id = objectIDOutputDevice ∧ opID = audioServerPlugInIOOperationWriteMix) ∨
        (id = objectIDInputDevice ∧ opID = audioServerPlugInIOOperationReadInput)) ∧
      (id = objectIDOutputDevice → opID = audioServerPlugInIOOperationWriteMix →
        let w := min ioSize.toNat (ringCapacity - (contents st.outputRing).length)
        contents r.2.1.outputRing = contents st.outputRing ++ framesOf buf w ∧
          Bounded r.2.1.outputRing ∧ r.2.1.inputRing = st.inputRing ∧ r.2.2 = buf) ∧
      (id = objectIDInputDevice → opID = audioServerPlugInIOOperationReadInput →
        let got := min ioSize.toNat (contents st.inputRing).length
        framesOf r.2.2 got = (contents st.inputRing).take got ∧
          (∀ i, got * numChannels ≤ i → i < ioSize.toNat * numChannels → r.2.2 i = 0) ∧
          (∀ i, ioSize.toNat * numChannels ≤ i → r.2.2 i = buf i) ∧
          contents r.2.1.inputRing = (contents st.inputRing).drop got ∧
          Bounded r.2.1.inputRing ∧ r.2.1.outputRing = st.outputRing) ∧
      (willDo = false → r.2.1 = st ∧ r.2.2 = buf) := by
  intro r willDo
  refine ⟨?_, willDoIOOperation_iff id opID, ?_, ?_, fun declined => ?_⟩
  · unfold r driverDoIOOperation
    split_ifs <;> rfl
  · rintro rfl rfl
    exact driverDoIOOperation_writeMix_refines st ioSize buf outputBounded
  · rintro rfl rfl got
    obtain ⟨refined, buffer, bounded, same⟩ :=
      driverDoIOOperation_readInput_refines st ioSize buf inputBounded
    obtain ⟨taken, silence, beyond⟩ := queueReadInput_buffer (contents st.inputRing) buf ioSize.toNat
    rw [buffer]
    exact ⟨taken, silence, beyond, refined, bounded, same⟩
  · exact Prod.mk.inj (congrArg Prod.snd (driverDoIOOperation_of_declined st ioSize buf declined))

/-- Rings holding `8190` output frames and `2` input frames: a `ReadInput` of
four frames gets the two and pads two with silence, and a `WriteMix` of four
frames fits two. -/
theorem doIOOperation_correct_partial :
    let st : DriverState := ⟨⟨fun _ => 0, 8190, 0⟩,
      ⟨fun i => if i < 4 then Float32.one else 0, 2, 0⟩, 0, 0, 0, 0, 0, 0, ⟨1, 1⟩⟩
    let ioSize : UInt32 := 4
    let buf : Nat → Float32 := fun _ => Float32.one
    (Bounded st.outputRing ∧ Bounded st.inputRing) ∧
      (let id := objectIDInputDevice
       let opID := audioServerPlugInIOOperationReadInput
       let r := driverDoIOOperation st id opID ioSize buf
       let willDo := (driverWillDoIOOperation id opID).2.1
       r.1 = .audioHardwareNoError ∧
         (willDo = true ↔ (id = objectIDOutputDevice ∧ opID = audioServerPlugInIOOperationWriteMix) ∨
           (id = objectIDInputDevice ∧ opID = audioServerPlugInIOOperationReadInput)) ∧
         (id = objectIDOutputDevice → opID = audioServerPlugInIOOperationWriteMix →
           let w := min ioSize.toNat (ringCapacity - (contents st.outputRing).length)
           contents r.2.1.outputRing = contents st.outputRing ++ framesOf buf w ∧
             Bounded r.2.1.outputRing ∧ r.2.1.inputRing = st.inputRing ∧ r.2.2 = buf) ∧
         (id = objectIDInputDevice → opID = audioServerPlugInIOOperationReadInput →
           let got := min ioSize.toNat (contents st.inputRing).length
           framesOf r.2.2 got = (contents st.inputRing).take got ∧
             (∀ i, got * numChannels ≤ i → i < ioSize.toNat * numChannels → r.2.2 i = 0) ∧
             (∀ i, ioSize.toNat * numChannels ≤ i → r.2.2 i = buf i) ∧
             contents r.2.1.inputRing = (contents st.inputRing).drop got ∧
             Bounded r.2.1.inputRing ∧ r.2.1.outputRing = st.outputRing) ∧
         (willDo = false → r.2.1 = st ∧ r.2.2 = buf)) ∧
      (let id := objectIDOutputDevice
       let opID := audioServerPlugInIOOperationWriteMix
       let r := driverDoIOOperation st id opID ioSize buf
       let willDo := (driverWillDoIOOperation id opID).2.1
       r.1 = .audioHardwareNoError ∧
         (willDo = true ↔ (id = objectIDOutputDevice ∧ opID = audioServerPlugInIOOperationWriteMix) ∨
           (id = objectIDInputDevice ∧ opID = audioServerPlugInIOOperationReadInput)) ∧
         (id = objectIDOutputDevice → opID = audioServerPlugInIOOperationWriteMix →
           let w := min ioSize.toNat (ringCapacity - (contents st.outputRing).length)
           contents r.2.1.outputRing = contents st.outputRing ++ framesOf buf w ∧
             Bounded r.2.1.outputRing ∧ r.2.1.inputRing = st.inputRing ∧ r.2.2 = buf) ∧
         (id = objectIDInputDevice → opID = audioServerPlugInIOOperationReadInput →
           let got := min ioSize.toNat (contents st.inputRing).length
           framesOf r.2.2 got = (contents st.inputRing).take got ∧
             (∀ i, got * numChannels ≤ i → i < ioSize.toNat * numChannels → r.2.2 i = 0) ∧
             (∀ i, ioSize.toNat * numChannels ≤ i → r.2.2 i = buf i) ∧
             contents r.2.1.inputRing = (contents st.inputRing).drop got ∧
             Bounded r.2.1.inputRing ∧ r.2.1.outputRing = st.outputRing) ∧
         (willDo = false → r.2.1 = st ∧ r.2.2 = buf)) := by
  intro st ioSize buf
  have outputBounded : Bounded st.outputRing := by decide
  have inputBounded : Bounded st.inputRing := by decide
  exact ⟨⟨outputBounded, inputBounded⟩,
    doIOOperation_correct st outputBounded inputBounded _ _ ioSize buf,
    doIOOperation_correct st outputBounded inputBounded _ _ ioSize buf⟩

end BungholeAudio
