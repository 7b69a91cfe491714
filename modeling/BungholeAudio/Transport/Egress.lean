import BungholeAudio.Ring.Refinement
import BungholeAudio.Transport.Framing

/-!
# The egress thread

`output_transport_thread` drains the output ring into a buffer of
`OPUS_FRAME_SIZE` frames, encodes each full buffer with Opus and sends the
packet to the host as one wire frame; when a write fails it closes the
connection and connects again. The count `acc` of frames in the buffer lives
outside both loops, so a block whose write failed is encoded again on the next
connection.

The thread is modelled as a state machine driven by its environment: the value
of `running` at each loop test, the connections `vsock_connect` opens (each
given by how its `write()`s behave), what `opus_encode` returns, and the IO
thread's `ring_write`s on the output ring, which may come between any two
iterations. A failed `vsock_connect` leaves the state as it is. The float to
`int16_t` conversion with the gain is not modelled: the encoder's input is
recorded as the frames of `pcm` it is computed from.

Three logs record what can be observed: the frames the IO thread's
`ring_write`s accepted, the frames `ring_read` handed to this thread, and for
every call of `opus_encode` the count `acc`, the frames it encoded and what
became of them.
-/

namespace BungholeAudio

variable {α : Type}

/-! ## States and moves -/

/-- Where a transport thread is: at the outer loop's test of `running`, at the inner
loop's test with a connection open, or returned. -/
inductive ThreadPhase
  | disconnected
  | connected
  | exited
  deriving DecidableEq, Repr

/-- How the life of one encoded block ended. -/
inductive BlockResult
  | encodeFailed
  | writeFailed
  | delivered
  deriving DecidableEq, Repr

/-- One call of `opus_encode`: `acc` at the call, the frames of `pcm` it
encoded, and what became of the packet. -/
structure EncodeCall (α : Type) where
  acc : UInt64
  block : List (Frame α)
  result : BlockResult

/-- Whether the block's life is over: it was delivered, or `opus_encode`
failed on it and `acc` was reset. A failed write keeps the block for the next
connection. -/
def EncodeCall.isFinal (call : EncodeCall α) : Bool :=
  match call.result with
  | .writeFailed => false
  | _ => true

/-- Whether the block reached the host whole. -/
def EncodeCall.isDelivered (call : EncodeCall α) : Bool :=
  match call.result with
  | .delivered => true
  | _ => false

theorem EncodeCall.isFinal_of_isDelivered (call : EncodeCall α) (delivered : call.isDelivered = true) :
    call.isFinal = true := by
  unfold isDelivered at delivered
  unfold isFinal
  split <;> simp_all

/-- The thread's locals, the output ring, the open connection and the logs:
`frames` holds the wire frames `framed_write` completed on the open
connection. -/
structure Egress (α : Type) where
  phase : ThreadPhase
  ring : RingBuffer α
  acc : UInt64
  pcm : Nat → α
  conn : Outbound
  produced : List (Frame α)
  received : List (Frame α)
  encodes : List (EncodeCall α)
  frames : List (List UInt8)

/-- The environment's choices. -/
inductive EgressMove (α : Type)
  /-- `running` reads false. -/
  | stop
  /-- `vsock_connect` succeeds; `writes` is how the connection's `write()`s go. -/
  | connect (writes : List (Option Nat))
  /-- One pass of the inner loop with `running` true; if the buffer is full,
  `opus_encode` returns `nbytes` and leaves `packet` in `opus_buf`. -/
  | iterate (nbytes : Int) (packet : Nat → UInt8)
  /-- The IO thread's `ring_write(&drv->outputRing, src, count)`. -/
  | produce (src : Nat → α) (count : UInt64)

/-- The thread as it starts, after `ring_init` of the output ring; `pcm` is the
uninitialised stack buffer. -/
def egressInit [Zero α] (rb : RingBuffer α) (pcm : Nat → α) : Egress α :=
  { phase := .disconnected, ring := ringInit rb, acc := 0, pcm := pcm, conn := ⟨[], []⟩,
    produced := [], received := [], encodes := [], frames := [] }

/-! ## One pass of the inner loop -/

/-- `ring_read(&drv->outputRing, pcm + acc * NUM_CHANNELS, need)`: the ring
sees the buffer from sample `acc * NUM_CHANNELS` on. -/
def readInto (ring : RingBuffer α) (pcm : Nat → α) (acc need : UInt64) :
    UInt64 × RingBuffer α × (Nat → α) :=
  let off := acc.toNat * numChannels
  let (got, ring, dst) := ringRead ring (fun e => pcm (off + e)) need
  (got, ring, fun i => if off ≤ i then dst (i - off) else pcm i)

theorem toNat_ofNat_opusFrameSize : (UInt64.ofNat opusFrameSize).toNat = opusFrameSize := rfl

/-- The top of the inner loop: `need = OPUS_FRAME_SIZE - acc;
got = ring_read(&drv->outputRing, pcm + acc * NUM_CHANNELS, need); acc += got;`. -/
def egressDrain (s : Egress α) : Egress α :=
  let need := UInt64.ofNat opusFrameSize - s.acc
  let (got, ring, pcm) := readInto s.ring s.pcm s.acc need
  { s with ring := ring, pcm := pcm, acc := s.acc + got,
           received := s.received ++ framesOf (fun e => pcm (s.acc.toNat * numChannels + e)) got.toNat }

theorem egressDrain_encodes (s : Egress α) : (egressDrain s).encodes = s.encodes := by
  unfold egressDrain
  dsimp only

theorem egressDrain_frames (s : Egress α) : (egressDrain s).frames = s.frames := by
  unfold egressDrain
  dsimp only

theorem egressDrain_phase (s : Egress α) : (egressDrain s).phase = s.phase := by
  unfold egressDrain
  dsimp only

theorem egressDrain_conn (s : Egress α) : (egressDrain s).conn = s.conn := by
  unfold egressDrain
  dsimp only

/-- The record of `opus_encode` on the buffer of `s`. -/
def encodeCall (s : Egress α) (result : BlockResult) : EncodeCall α :=
  { acc := s.acc, block := framesOf s.pcm opusFrameSize, result := result }

@[simp]
theorem encodeCall_acc (s : Egress α) (result : BlockResult) : (encodeCall s result).acc = s.acc := by
  simp only [encodeCall]

@[simp]
theorem encodeCall_block (s : Egress α) (result : BlockResult) :
    (encodeCall s result).block = framesOf s.pcm opusFrameSize := by
  simp only [encodeCall]

@[simp]
theorem encodeCall_result (s : Egress α) (result : BlockResult) :
    (encodeCall s result).result = result := by
  simp only [encodeCall]

/-- A full buffer: `opus_encode` returns `nbytes` and leaves `packet` in
`opus_buf`; on an error the buffer is dropped, otherwise the packet goes out by
`framed_write`, and a failed write breaks to the outer loop. -/
def egressSend (s : Egress α) (nbytes : Int) (packet : Nat → UInt8) : Egress α :=
  if nbytes < 0 then { s with acc := 0, encodes := s.encodes ++ [encodeCall s .encodeFailed] }
  else
    let (ret, conn) := framedWrite s.conn packet (UInt16.ofNat nbytes.toNat)
    if ret < 0 then
      { s with conn := conn, phase := .disconnected,
               encodes := s.encodes ++ [encodeCall s .writeFailed] }
    else
      { s with conn := conn, acc := 0, encodes := s.encodes ++ [encodeCall s .delivered],
               frames := s.frames ++ [wireFrame packet (UInt16.ofNat nbytes.toNat)] }

/-- One pass of the inner loop: drain, and encode and send once the buffer is
full. -/
def egressIterate (s : Egress α) (nbytes : Int) (packet : Nat → UInt8) : Egress α :=
  let s := egressDrain s
  if s.acc < UInt64.ofNat opusFrameSize then s else egressSend s nbytes packet

/-- One move of the environment. -/
def egressStep (s : Egress α) : EgressMove α → Egress α
  | .stop =>
    match s.phase with
    | .disconnected => { s with phase := .exited }
    | .connected => { s with phase := .disconnected }
    | .exited => s
  | .connect writes =>
    match s.phase with
    | .disconnected => { s with phase := .connected, conn := ⟨[], writes⟩, frames := [] }
    | _ => s
  | .iterate nbytes packet =>
    match s.phase with
    | .connected => egressIterate s nbytes packet
    | _ => s
  | .produce src count =>
    let (w, ring) := ringWrite s.ring src count
    { s with ring := ring, produced := s.produced ++ framesOf src w.toNat }

/-- Run a sequence of moves. -/
def egressRun (s : Egress α) : List (EgressMove α) → Egress α
  | [] => s
  | move :: moves => egressRun (egressStep s move) moves

/-- A pass of a connected thread whose drain fills the buffer, with a packet
from `opus_encode` and a transport whose `write()`s never fail, delivers the
block: its whole frame goes on the wire and `acc` is reset. -/
theorem egressStep_delivers {s : Egress α} (connected : s.phase = .connected)
    (full : ¬(egressDrain s).acc < UInt64.ofNat opusFrameSize) {sent : List UInt8}
    {chunks : List Nat} (reliable : s.conn = ⟨sent, chunks.map some⟩) {nbytes : Int}
    (encoded : 0 ≤ nbytes) (packet : Nat → UInt8) :
    ∃ rest : List Nat, egressStep s (.iterate nbytes packet) =
      { egressDrain s with
        conn := ⟨sent ++ wireFrame packet (UInt16.ofNat nbytes.toNat), rest.map some⟩, acc := 0,
        encodes := s.encodes ++ [encodeCall (egressDrain s) .delivered],
        frames := s.frames ++ [wireFrame packet (UInt16.ofNat nbytes.toNat)] } := by
  obtain ⟨rest, written⟩ := framedWrite_of_reliable sent chunks packet (UInt16.ofNat nbytes.toNat)
  refine ⟨rest, ?_⟩
  rw [egressStep, connected]
  dsimp only
  rw [egressIterate, if_neg full, egressSend, if_neg (not_lt.mpr encoded), egressDrain_conn, reliable,
    written, egressDrain_encodes, egressDrain_frames]
  rfl

/-! ## The read into the middle of the buffer -/

/-- Storing frames through `mem + base * NUM_CHANNELS` is storing them from
frame index `base` on. -/
theorem storeFrames_offset (mem : Nat → α) (base : Nat) (frames : List (Frame α)) :
    (fun i => if base * numChannels ≤ i then
        storeFrames (fun e => mem (base * numChannels + e)) 0 frames (i - base * numChannels)
      else mem i) = storeFrames mem base frames := by
  funext i
  by_cases above : base * numChannels ≤ i
  · simp only [if_pos above, storeFrames, Nat.zero_mul, Nat.zero_le, if_true, Nat.sub_zero,
      Nat.add_sub_cancel' above]
  · simp only [if_neg above, storeFrames]

theorem readInto_eq (ring : RingBuffer α) (pcm : Nat → α) (acc need : UInt64) :
    readInto ring pcm acc need =
      ((ringRead ring (fun e => pcm (acc.toNat * numChannels + e)) need).1,
        (ringRead ring (fun e => pcm (acc.toNat * numChannels + e)) need).2.1,
        fun i => if acc.toNat * numChannels ≤ i then
          (ringRead ring (fun e => pcm (acc.toNat * numChannels + e)) need).2.2
            (i - acc.toNat * numChannels)
        else pcm i) :=
  rfl

/-- `ring_read` into `pcm + acc * NUM_CHANNELS` is the queue's read, stored
from frame `acc` on. -/
theorem readInto_spec {ring : RingBuffer α} (bounded : Bounded ring) (pcm : Nat → α)
    (acc need : UInt64) :
    (readInto ring pcm acc need).1.toNat = min need.toNat (contents ring).length ∧
      contents (readInto ring pcm acc need).2.1 =
        (contents ring).drop (readInto ring pcm acc need).1.toNat ∧
      Bounded (readInto ring pcm acc need).2.1 ∧
      (readInto ring pcm acc need).2.2 =
        storeFrames pcm acc.toNat ((contents ring).take (readInto ring pcm acc need).1.toNat) := by
  obtain ⟨got, remaining, filled, stillBounded⟩ :=
    ringRead_refines ring bounded (fun e => pcm (acc.toNat * numChannels + e)) need
  simp only [queueRead] at got remaining filled
  rw [readInto_eq]
  exact ⟨got, by rw [remaining, got], stillBounded, by rw [filled, got, storeFrames_offset]⟩

/-! ## Blocks of frames -/

/-- Frames cut into consecutive blocks of `OPUS_FRAME_SIZE`; a last, partial
block is left out. -/
def blocksOf (frames : List (Frame α)) : List (List (Frame α)) :=
  if full : opusFrameSize ≤ frames.length then
    frames.take opusFrameSize :: blocksOf (frames.drop opusFrameSize)
  else []
termination_by frames.length
decreasing_by simp only [List.length_drop, opusFrameSize] at *; omega

theorem blocksOf_append {block : List (Frame α)} (full : block.length = opusFrameSize)
    (rest : List (Frame α)) : blocksOf (block ++ rest) = block :: blocksOf rest := by
  rw [blocksOf, dif_pos (by simp [full]), List.take_left' full, List.drop_left' full]

/-- Full blocks laid end to end are the first blocks of what they start. -/
theorem take_blocksOf_flatten (blocks : List (List (Frame α)))
    (full : ∀ block ∈ blocks, block.length = opusFrameSize) (rest : List (Frame α)) :
    (blocksOf (blocks.flatten ++ rest)).take blocks.length = blocks := by
  induction blocks with
  | nil => rfl
  | cons block blocks ih =>
    rw [List.flatten_cons, List.append_assoc, blocksOf_append (full block (List.mem_cons_self _ _)),
      List.length_cons, List.take_succ_cons,
      ih fun other mem => full other (List.mem_cons_of_mem _ mem)]

/-! ## The invariant -/

/-- What holds at every step of the thread whose buffer started as `pcm₀`. -/
structure EgressInv (pcm₀ : Nat → α) (s : Egress α) : Prop where
  bounded : Bounded s.ring
  fifo : s.received ++ contents s.ring = s.produced
  acc_le : s.acc.toNat ≤ opusFrameSize
  encodes_full : ∀ call ∈ s.encodes,
    call.acc.toNat = opusFrameSize ∧ call.block.length = opusFrameSize
  received_eq : ((s.encodes.filter EncodeCall.isFinal).map EncodeCall.block).flatten ++
    framesOf s.pcm s.acc.toNat = s.received
  untouched : ∀ i, opusFrameSize * numChannels ≤ i → s.pcm i = pcm₀ i

theorem egressInit_inv [Zero α] (rb : RingBuffer α) (pcm : Nat → α) :
    EgressInv pcm (egressInit rb pcm) where
  bounded := ringInit_bounded rb
  fifo := by simp only [egressInit, ringInit_contents, List.append_nil]
  acc_le := by simp only [egressInit]; decide
  encodes_full := by simp only [egressInit, List.not_mem_nil, false_implies, implies_true]
  received_eq := by simp only [egressInit]; rfl
  untouched := fun _ _ => rfl

section Step

variable {pcm₀ : Nat → α} {s : Egress α}

/-- The IO thread's `ring_write` appends the frames it accepts to the ring. -/
theorem produce_inv (inv : EgressInv pcm₀ s) (src : Nat → α) (count : UInt64) :
    EgressInv pcm₀ (egressStep s (.produce src count)) := by
  obtain ⟨written, stored, stillBounded⟩ := ringWrite_refines s.ring inv.bounded src count
  refine { inv with bounded := stillBounded, fifo := ?_ }
  show s.received ++ contents (ringWrite s.ring src count).2 =
    s.produced ++ framesOf src (ringWrite s.ring src count).1.toNat
  rw [stored, written, queueWrite, ← List.append_assoc, inv.fifo]

/-- Connecting and closing touch nothing the invariant speaks of. -/
theorem EgressInv.reconnect (inv : EgressInv pcm₀ s) (phase : ThreadPhase) (conn : Outbound)
    (frames : List (List UInt8)) :
    EgressInv pcm₀ { s with phase := phase, conn := conn, frames := frames } :=
  ⟨inv.bounded, inv.fifo, inv.acc_le, inv.encodes_full, inv.received_eq, inv.untouched⟩

theorem frameAt_offset (mem : Nat → α) (base j : Nat) :
    frameAt (fun e => mem (base * numChannels + e)) j = frameAt mem (base + j) := by
  simp only [frameAt, numChannels, Nat.add_mul, Nat.add_assoc]

/-- The drain moves the next `got ≤ OPUS_FRAME_SIZE - acc` frames of the ring
into the buffer behind the `acc` already there. -/
theorem drain_inv (inv : EgressInv pcm₀ s) : EgressInv pcm₀ (egressDrain s) := by
  have accLe := inv.acc_le
  have needNat : (UInt64.ofNat opusFrameSize - s.acc).toNat = opusFrameSize - s.acc.toNat :=
    toNat_sub_of_toNat_le accLe
  obtain ⟨gotNat, remaining, stillBounded, pcmEq⟩ :=
    readInto_spec inv.bounded s.pcm s.acc (UInt64.ofNat opusFrameSize - s.acc)
  unfold egressDrain
  dsimp only
  generalize readInto s.ring s.pcm s.acc (UInt64.ofNat opusFrameSize - s.acc) = r
    at gotNat remaining stillBounded pcmEq ⊢
  obtain ⟨got, ring, pcm⟩ := r
  dsimp only at gotNat remaining stillBounded pcmEq ⊢
  rw [needNat] at gotNat
  subst pcmEq
  have framesLength : ((contents s.ring).take got.toNat).length = got.toNat := by
    simp only [List.length_take]
    omega
  have accNat : (s.acc + got).toNat = s.acc.toNat + got.toNat := by
    rw [u64_toNat_add]
    exact Nat.mod_eq_of_lt (by simp only [opusFrameSize] at *; omega)
  have moved : framesOf (fun e => storeFrames s.pcm s.acc.toNat ((contents s.ring).take got.toNat)
      (s.acc.toNat * numChannels + e)) got.toNat = (contents s.ring).take got.toNat :=
    List.ext_getElem (by simp [framesLength]) fun j inside _ => by
      simp only [length_framesOf] at inside
      simp [frameAt_offset, frameAt_storeFrames, framesLength, inside]
  have kept : framesOf (storeFrames s.pcm s.acc.toNat ((contents s.ring).take got.toNat))
      s.acc.toNat = framesOf s.pcm s.acc.toNat :=
    framesOf_congr fun j below => by rw [frameAt_storeFrames, dif_neg (by omega)]
  refine ⟨stillBounded, ?_, ?_, inv.encodes_full, ?_, fun i above => ?_⟩
  · show _ ++ _ ++ _ = _
    rw [moved, remaining, List.append_assoc, List.take_append_drop, inv.fifo]
  · show (s.acc + got).toNat ≤ _
    simp only [opusFrameSize] at *
    omega
  · show _ ++ framesOf _ (s.acc + got).toNat = _ ++ _
    rw [accNat, framesOf_add, kept, moved, ← List.append_assoc, inv.received_eq]
  · show storeFrames _ _ _ i = _
    rw [storeFrames_apply_of_ge (by simp only [opusFrameSize, numChannels] at *; omega)]
    exact inv.untouched i above

/-- Encoding and sending a full buffer either ends the block's life, which
appends it to the finished blocks and empties the buffer, or fails the write
and keeps it for the next connection. -/
theorem send_inv (inv : EgressInv pcm₀ s) (full : s.acc.toNat = opusFrameSize) (nbytes : Int)
    (packet : Nat → UInt8) : EgressInv pcm₀ (egressSend s nbytes packet) := by
  have recorded : ∀ result, ∀ call ∈ s.encodes ++ [encodeCall s result],
      call.acc.toNat = opusFrameSize ∧ call.block.length = opusFrameSize := fun result call mem => by
    rcases List.mem_append.mp mem with old | new
    · exact inv.encodes_full call old
    · rw [List.mem_singleton.mp new, encodeCall_acc, encodeCall_block, length_framesOf]
      exact ⟨full, rfl⟩
  have finish : ∀ result : BlockResult, result ≠ .writeFailed →
      EgressInv pcm₀ { s with acc := 0, encodes := s.encodes ++ [encodeCall s result] } := by
    intro result final
    have isFinal : (encodeCall s result).isFinal = true := by
      cases result <;> simp_all [EncodeCall.isFinal]
    refine ⟨inv.bounded, inv.fifo, Nat.zero_le _, recorded result, ?_, inv.untouched⟩
    show _ ++ framesOf s.pcm (0 : UInt64).toNat = _
    rw [List.filter_append, List.filter_singleton, isFinal, ← inv.received_eq, full,
      UInt64.toNat_zero]
    simp [framesOf]
  unfold egressSend
  split
  · exact finish .encodeFailed (by decide)
  · generalize framedWrite s.conn packet (UInt16.ofNat nbytes.toNat) = written
    obtain ⟨ret, conn⟩ := written
    dsimp only
    split
    · refine ⟨inv.bounded, inv.fifo, inv.acc_le, recorded .writeFailed, ?_, inv.untouched⟩
      show ((List.filter _ (s.encodes ++ [_])).map _).flatten ++ _ = _
      rw [List.filter_append, List.filter_singleton]
      simpa [EncodeCall.isFinal, encodeCall] using inv.received_eq
    · exact (finish .delivered (by decide)).reconnect s.phase conn
        (s.frames ++ [wireFrame packet (UInt16.ofNat nbytes.toNat)])

theorem iterate_inv (inv : EgressInv pcm₀ s) (nbytes : Int) (packet : Nat → UInt8) :
    EgressInv pcm₀ (egressIterate s nbytes packet) := by
  have drained := drain_inv inv
  unfold egressIterate
  dsimp only
  split
  · exact drained
  · rename_i notBelow
    have accLe := drained.acc_le
    rw [u64_lt_iff, toNat_ofNat_opusFrameSize] at notBelow
    exact send_inv drained (by omega) nbytes packet

theorem egressStep_inv (inv : EgressInv pcm₀ s) (move : EgressMove α) :
    EgressInv pcm₀ (egressStep s move) := by
  cases move with
  | stop =>
    dsimp only [egressStep]
    split
    · exact inv.reconnect .exited s.conn s.frames
    · exact inv.reconnect .disconnected s.conn s.frames
    · exact inv
  | connect writes =>
    dsimp only [egressStep]
    split
    · exact inv.reconnect .connected ⟨[], writes⟩ []
    · exact inv
  | iterate nbytes packet =>
    dsimp only [egressStep]
    split
    · exact iterate_inv inv nbytes packet
    · exact inv
  | produce src count => exact produce_inv inv src count

theorem egressRun_inv (inv : EgressInv pcm₀ s) (moves : List (EgressMove α)) :
    EgressInv pcm₀ (egressRun s moves) := by
  induction moves generalizing s with
  | nil => exact inv
  | cons move moves ih => exact ih (egressStep_inv inv move)

end Step

/-! ## Every run -/

section Blocks

variable {pcm₀ : Nat → α} {s : Egress α}

/-- The blocks whose life ended are the first consecutive blocks of the frames
read. -/
theorem EgressInv.final_blocks (inv : EgressInv pcm₀ s) :
    (s.encodes.filter EncodeCall.isFinal).map EncodeCall.block =
      (blocksOf s.received).take (s.encodes.filter EncodeCall.isFinal).length := by
  have blocksLength : ∀ block ∈ (s.encodes.filter EncodeCall.isFinal).map EncodeCall.block,
      block.length = opusFrameSize := by
    simp only [List.mem_map, List.mem_filter]
    rintro _ ⟨call, ⟨mem, _⟩, rfl⟩
    exact (inv.encodes_full call mem).2
  have finished := take_blocksOf_flatten _ blocksLength (framesOf s.pcm s.acc.toNat)
  rw [inv.received_eq, List.length_map] at finished
  exact finished.symm

/-- The blocks delivered whole are, in order, among the blocks of the frames read. -/
theorem EgressInv.delivered_sublist (inv : EgressInv pcm₀ s) :
    ((s.encodes.filter EncodeCall.isDelivered).map EncodeCall.block).Sublist (blocksOf s.received) := by
  have delivered := (List.monotone_filter_right s.encodes EncodeCall.isFinal_of_isDelivered).map
    EncodeCall.block
  rw [inv.final_blocks] at delivered
  exact delivered.trans (List.take_sublist _ _)

end Blocks

/-- Over every run of the egress thread: `acc` stays within `OPUS_FRAME_SIZE`,
so `ring_read` never writes `pcm` at or past sample `OPUS_FRAME_SIZE *
NUM_CHANNELS`; `opus_encode` is only called on a full buffer; the blocks whose
life ended (delivered, or dropped because `opus_encode` failed) are the
consecutive blocks of the frames read, in order, so the blocks delivered whole
form a subsequence of them and every block skipped failed in `opus_encode`;
and the frames read are a prefix of the frames the IO thread's writes
accepted. -/
theorem egress_blocks_in_order [Zero α] (rb : RingBuffer α) (pcm : Nat → α)
    (moves : List (EgressMove α)) :
    let s := egressRun (egressInit rb pcm) moves
    s.acc.toNat ≤ opusFrameSize ∧
      (∀ i, opusFrameSize * numChannels ≤ i → s.pcm i = pcm i) ∧
      (∀ call ∈ s.encodes, call.acc.toNat = opusFrameSize) ∧
      (s.encodes.filter EncodeCall.isFinal).map EncodeCall.block =
        (blocksOf s.received).take (s.encodes.filter EncodeCall.isFinal).length ∧
      ((s.encodes.filter EncodeCall.isDelivered).map EncodeCall.block).Sublist (blocksOf s.received) ∧
      s.received <+: s.produced := by
  have inv := egressRun_inv (egressInit_inv rb pcm) moves
  exact ⟨inv.acc_le, inv.untouched, fun call mem => (inv.encodes_full call mem).1, inv.final_blocks,
    inv.delivered_sublist, inv.fifo ▸ List.prefix_append _ _⟩

/-! ## The bytes on the wire -/

/-- On an open connection, the bytes written so far are the wire frames
`framed_write` completed on it, back to back. -/
def WireWhole (s : Egress α) : Prop := s.phase = .connected → s.conn.sent = s.frames.flatten

section Wire

variable {s : Egress α}

theorem wireWhole_of_closed (closed : s.phase ≠ .connected) : WireWhole s :=
  fun connected => absurd connected closed

theorem drain_wireWhole (whole : WireWhole s) : WireWhole (egressDrain s) := by
  unfold WireWhole egressDrain
  dsimp only
  generalize readInto s.ring s.pcm s.acc (UInt64.ofNat opusFrameSize - s.acc) = r
  obtain ⟨got, ring, pcm⟩ := r
  exact whole

/-- A write that fails closes the connection; one that completes adds its
whole frame. -/
theorem send_wireWhole (whole : WireWhole s) (nbytes : Int) (packet : Nat → UInt8) :
    WireWhole (egressSend s nbytes packet) := by
  unfold egressSend
  split
  · exact whole
  · obtain ⟨k, chunks, -, written⟩ := framedWrite_eq s.conn packet (UInt16.ofNat nbytes.toNat)
    rw [written]
    dsimp only
    by_cases complete : (wireFrame packet (UInt16.ofNat nbytes.toNat)).length ≤ k
    · rw [if_pos complete, if_neg (by decide)]
      intro connected
      show s.conn.sent ++ (wireFrame packet (UInt16.ofNat nbytes.toNat)).take k =
        (s.frames ++ [wireFrame packet (UInt16.ofNat nbytes.toNat)]).flatten
      rw [List.take_of_length_le complete, whole connected, List.flatten_append,
        List.flatten_singleton]
    · rw [if_neg complete, if_pos (by decide)]
      exact wireWhole_of_closed (by simp)

theorem egressStep_wireWhole (whole : WireWhole s) (move : EgressMove α) :
    WireWhole (egressStep s move) := by
  cases move with
  | stop =>
    dsimp only [egressStep]
    split
    · exact wireWhole_of_closed (by simp)
    · exact wireWhole_of_closed (by simp)
    · exact whole
  | connect writes =>
    dsimp only [egressStep]
    split
    · exact fun _ => rfl
    · exact whole
  | iterate nbytes packet =>
    dsimp only [egressStep]
    split
    · unfold egressIterate
      dsimp only
      split
      · exact drain_wireWhole whole
      · exact send_wireWhole (drain_wireWhole whole) nbytes packet
    · exact whole
  | produce src count => exact whole

theorem egressRun_wireWhole (whole : WireWhole s) (moves : List (EgressMove α)) :
    WireWhole (egressRun s moves) := by
  induction moves generalizing s with
  | nil => exact whole
  | cons move moves ih => exact ih (egressStep_wireWhole whole move)

end Wire

/-- Over every run of the egress thread, while a connection is open the bytes
written on it are exactly the wire frames `framed_write` completed on it, back
to back: a write that fails part-way closes the connection, so the host never
reads a partial frame followed by another. -/
theorem egress_wire_frames [Zero α] (rb : RingBuffer α) (pcm : Nat → α)
    (moves : List (EgressMove α)) (connected : (egressRun (egressInit rb pcm) moves).phase = .connected) :
    (egressRun (egressInit rb pcm) moves).conn.sent =
      (egressRun (egressInit rb pcm) moves).frames.flatten := by
  exact egressRun_wireWhole (wireWhole_of_closed (by simp [egressInit])) moves connected

/-- A connection, a `WriteMix` of one block, and one pass that encodes it into
a three-byte packet and delivers it. -/
theorem egress_wire_frames_one_block :
    let s := egressRun (egressInit (⟨fun _ => 0, 0, 0⟩ : RingBuffer Float32) (fun _ => 0))
      [.connect [], .produce (fun _ => 0) 960, .iterate 3 fun _ => 7]
    s.phase = .connected ∧ s.frames = [[0, 3, 7, 7, 7]] ∧ s.conn.sent = s.frames.flatten := by
  intro s
  obtain ⟨rest, delivered⟩ := @egressStep_delivers Float32
    (egressRun (egressInit (⟨fun _ => 0, 0, 0⟩ : RingBuffer Float32) (fun _ => 0))
      [.connect [], .produce (fun _ => 0) 960]) rfl (by decide) [] [] rfl 3 (by decide) fun _ => 7
  simp only [egressRun] at delivered
  have connected : s.phase = .connected := by
    simp only [s, egressRun, delivered, egressDrain_phase]
    rfl
  have oneFrame : s.frames = [[0, 3, 7, 7, 7]] := by
    simp only [s, egressRun, delivered]
    decide
  exact ⟨connected, oneFrame, egress_wire_frames _ _ _ connected⟩

/-! ## A block whose write failed -/

/-- Two consecutive calls of `opus_encode`: when the first one's write failed,
the second encoded the same block. -/
def RetriedBy (first next : EncodeCall α) : Prop := first.result = .writeFailed → next.block = first.block

/-- What a failed write leaves behind: the calls so far retried every block
whose write failed, and after a failed write the buffer is still full and
holds that block. -/
structure RetryInv (s : Egress α) : Prop where
  retried : s.encodes.Chain' RetriedBy
  pending : ∀ last ∈ s.encodes.getLast?, last.result = .writeFailed →
    s.acc.toNat = opusFrameSize ∧ framesOf s.pcm opusFrameSize = last.block

section Retry

variable {pcm₀ : Nat → α} {s : Egress α}

/-- A drain of a full buffer reads nothing and leaves its frames in place. -/
theorem drain_full (inv : EgressInv pcm₀ s) (full : s.acc.toNat = opusFrameSize) :
    (egressDrain s).acc = s.acc ∧ framesOf (egressDrain s).pcm opusFrameSize = framesOf s.pcm opusFrameSize := by
  have needNat : (UInt64.ofNat opusFrameSize - s.acc).toNat = opusFrameSize - s.acc.toNat :=
    toNat_sub_of_toNat_le inv.acc_le
  have needZero : (UInt64.ofNat opusFrameSize - s.acc).toNat = 0 := by
    rw [needNat, full, Nat.sub_self]
  obtain ⟨gotNat, -, -, pcmEq⟩ := readInto_spec inv.bounded s.pcm s.acc (UInt64.ofNat opusFrameSize - s.acc)
  rw [needZero, Nat.zero_min] at gotNat
  unfold egressDrain
  dsimp only
  generalize readInto s.ring s.pcm s.acc (UInt64.ofNat opusFrameSize - s.acc) = r at gotNat pcmEq ⊢
  obtain ⟨got, ring, pcm⟩ := r
  dsimp only at gotNat pcmEq ⊢
  rw [gotNat, List.take_zero] at pcmEq
  subst pcmEq
  refine ⟨u64_ext (by rw [u64_toNat_add, gotNat, Nat.add_zero]; exact Nat.mod_eq_of_lt (u64_toNat_lt _)), ?_⟩
  exact framesOf_congr fun j _ => by rw [frameAt_storeFrames, dif_neg (by simp)]

theorem retryInv_reconnect (retry : RetryInv s) (phase : ThreadPhase) (conn : Outbound)
    (frames : List (List UInt8)) : RetryInv { s with phase := phase, conn := conn, frames := frames } :=
  ⟨retry.retried, retry.pending⟩

/-- A call on the buffer after a failed write encodes that write's block. -/
theorem retriedBy_encodeCall (retry : RetryInv s) (result : BlockResult) :
    ∀ last ∈ s.encodes.getLast?, ∀ next ∈ [encodeCall s result].head?, RetriedBy last next := by
  intro last mem next isNext failed
  rw [List.head?_cons, Option.mem_some_iff] at isNext
  rw [← isNext, encodeCall_block]
  exact (retry.pending last mem failed).2

theorem send_retry (retry : RetryInv s) (full : s.acc.toNat = opusFrameSize) (nbytes : Int)
    (packet : Nat → UInt8) : RetryInv (egressSend s nbytes packet) := by
  have appended : ∀ result, (s.encodes ++ [encodeCall s result]).Chain' RetriedBy := fun result =>
    retry.retried.append (List.chain'_singleton _) (retriedBy_encodeCall retry result)
  have ended : ∀ result, result ≠ .writeFailed → ∀ acc : UInt64,
      RetryInv { s with acc := acc, encodes := s.encodes ++ [encodeCall s result] } := by
    intro result final acc
    refine ⟨appended result, fun last mem failed => absurd failed ?_⟩
    simp only [List.getLast?_append, List.getLast?_singleton, Option.or, Option.mem_some_iff] at mem
    rw [← mem, encodeCall_result]
    exact final
  unfold egressSend
  split
  · exact ended .encodeFailed (by decide) 0
  · generalize framedWrite s.conn packet (UInt16.ofNat nbytes.toNat) = written
    obtain ⟨ret, conn⟩ := written
    dsimp only
    split
    · refine ⟨appended .writeFailed, fun last mem _ => ?_⟩
      simp only [List.getLast?_append, List.getLast?_singleton, Option.or, Option.mem_some_iff] at mem
      rw [← mem, encodeCall_block]
      exact ⟨full, rfl⟩
    · exact retryInv_reconnect (ended .delivered (by decide) 0) s.phase conn _

theorem iterate_retry (inv : EgressInv pcm₀ s) (retry : RetryInv s) (nbytes : Int) (packet : Nat → UInt8) :
    RetryInv (egressIterate s nbytes packet) := by
  have drained : RetryInv (egressDrain s) := by
    constructor
    · rw [egressDrain_encodes]
      exact retry.retried
    · intro last mem failed
      rw [egressDrain_encodes] at mem
      obtain ⟨full, holds⟩ := retry.pending last mem failed
      obtain ⟨sameAcc, sameFrames⟩ := drain_full inv full
      rw [sameAcc, sameFrames]
      exact ⟨full, holds⟩
  unfold egressIterate
  dsimp only
  split
  · exact drained
  · rename_i notBelow
    have accLe := (drain_inv inv).acc_le
    rw [u64_lt_iff, toNat_ofNat_opusFrameSize] at notBelow
    exact send_retry drained (by omega) nbytes packet

theorem egressStep_retry (inv : EgressInv pcm₀ s) (retry : RetryInv s) (move : EgressMove α) :
    RetryInv (egressStep s move) := by
  cases move with
  | stop =>
    dsimp only [egressStep]
    split
    · exact retryInv_reconnect retry .exited s.conn s.frames
    · exact retryInv_reconnect retry .disconnected s.conn s.frames
    · exact retry
  | connect writes =>
    dsimp only [egressStep]
    split
    · exact retryInv_reconnect retry .connected ⟨[], writes⟩ []
    · exact retry
  | iterate nbytes packet =>
    dsimp only [egressStep]
    split
    · exact iterate_retry inv retry nbytes packet
    · exact retry
  | produce src count => exact ⟨retry.retried, retry.pending⟩

theorem egressRun_retry (inv : EgressInv pcm₀ s) (retry : RetryInv s) (moves : List (EgressMove α)) :
    RetryInv (egressRun s moves) := by
  induction moves generalizing s with
  | nil => exact retry
  | cons move moves ih => exact ih (egressStep_inv inv move) (egressStep_retry inv retry move)

end Retry

/-- Over every run of the egress thread, a block whose `framed_write` failed is
the next block `opus_encode` is given, on the next connection, and until then
the buffer stays full and holds it: the thread neither skips nor refills a
block whose write failed. -/
theorem failed_write_retried [Zero α] (rb : RingBuffer α) (pcm : Nat → α) (moves : List (EgressMove α)) :
    let s := egressRun (egressInit rb pcm) moves
    s.encodes.Chain' RetriedBy ∧
      ∀ last ∈ s.encodes.getLast?, last.result = .writeFailed →
        s.acc.toNat = opusFrameSize ∧ framesOf s.pcm opusFrameSize = last.block := by
  have retry := egressRun_retry (egressInit_inv rb pcm) ⟨List.chain'_nil, nofun⟩ moves
  exact ⟨retry.retried, retry.pending⟩

/-! ## Keeping up with the ring -/

section Progress

variable {pcm₀ : Nat → α} {s : Egress α}

end Progress

end BungholeAudio
