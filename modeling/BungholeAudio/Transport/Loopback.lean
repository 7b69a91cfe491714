import BungholeAudio.Transport.Ingress

/-!
# The framed protocol between the two transport threads

`output_transport_thread` writes each Opus packet as one wire frame,
`[len >> 8, len & 0xFF]` and then `len` bytes, and `input_transport_thread`
reads packets back with `framed_read`, which rejects a length of `0` or of
more than `OPUS_MAX_PACKET`. The two ends meet only through the byte stream,
so what matters is that every stream the egress thread produces is one the
ingress thread accepts, packet for packet.

That holds as long as `opus_encode` keeps its contract, a negative error code
or a packet of `1` to `max_data_bytes = OPUS_MAX_PACKET` bytes
(`EncoderContract`): then every frame `framed_write` completed on the open
connection is the frame of its payload (`egressRun_framesWellFormed`). A
return of `0` would put the header `00 00` on the wire, which `framed_read` on
the other side treats as a broken connection. `egress_ingress_loopback` feeds
the egress thread's connection to an ingress thread: it stays connected,
decodes exactly the packets the egress thread delivered, in order, and reads
the stream to its end.
-/

namespace BungholeAudio

variable {α β : Type}

/-! ## What the egress thread writes -/

/-- `opus_encode`'s contract for one move: a negative error code, or a packet of
`1` to `OPUS_MAX_PACKET` bytes. -/
def EncoderContract : EgressMove α → Prop
  | .iterate nbytes _ => nbytes < 0 ∨ (1 ≤ nbytes ∧ nbytes ≤ opusMaxPacket)
  | _ => True

/-- Every wire frame completed on the open connection is the frame of its
payload, a payload of `1` to `OPUS_MAX_PACKET` bytes. -/
def FramesWellFormed (s : Egress α) : Prop :=
  ∀ frame ∈ s.frames, frame = payloadFrame (frame.drop 2) ∧ 1 ≤ (frame.drop 2).length ∧
    (frame.drop 2).length ≤ opusMaxPacket

/-- The frame `framed_write(fd, opus_buf, (uint16_t)n)` writes for a packet of
`1` to `OPUS_MAX_PACKET` bytes is the frame of its payload. -/
theorem wireFrame_wellFormed (packet : Nat → UInt8) {n : Nat} (sized : 1 ≤ n ∧ n ≤ opusMaxPacket) :
    let frame := wireFrame packet (UInt16.ofNat n)
    frame = payloadFrame (frame.drop 2) ∧ 1 ≤ (frame.drop 2).length ∧
      (frame.drop 2).length ≤ opusMaxPacket := by
  have lenNat : (UInt16.ofNat n).toNat = n :=
    UInt16.toNat_ofNat_of_lt (by simp only [opusMaxPacket, UInt16.size] at sized ⊢; omega)
  have payload : (wireFrame packet (UInt16.ofNat n)).drop 2 = (List.range n).map packet := by
    rw [wireFrame, List.drop_left' (length_encodeHeader _), lenNat]
  have payloadLength : ((List.range n).map packet).length = n := by simp
  dsimp only
  rw [payload, payloadLength, payloadFrame_eq_of_lt (by
    rw [payloadLength]; simp only [opusMaxPacket, UInt16.size] at sized ⊢; omega), payloadLength,
    wireFrame, lenNat]
  exact ⟨rfl, sized⟩

section Step

variable {s : Egress α}

/-- A send leaves the frames as they were, or adds the frame of a packet
`opus_encode` returned without an error. -/
theorem egressSend_frames (s : Egress α) (nbytes : Int) (packet : Nat → UInt8) :
    (egressSend s nbytes packet).frames = s.frames ∨
      0 ≤ nbytes ∧ (egressSend s nbytes packet).frames =
        s.frames ++ [wireFrame packet (UInt16.ofNat nbytes.toNat)] := by
  unfold egressSend
  split
  · exact .inl rfl
  · generalize framedWrite s.conn packet (UInt16.ofNat nbytes.toNat) = written
    obtain ⟨ret, conn⟩ := written
    dsimp only
    split
    · exact .inl rfl
    · exact .inr ⟨by omega, rfl⟩

theorem egressStep_framesWellFormed (wellFormed : FramesWellFormed s) (move : EgressMove α)
    (contract : EncoderContract move) : FramesWellFormed (egressStep s move) := by
  cases move with
  | stop =>
    dsimp only [egressStep]
    split <;> exact wellFormed
  | connect writes =>
    dsimp only [egressStep]
    split
    · exact fun _ => nofun
    · exact wellFormed
  | iterate nbytes packet =>
    dsimp only [egressStep]
    split
    · unfold egressIterate
      dsimp only
      have drained : FramesWellFormed (egressDrain s) := fun frame mem =>
        wellFormed frame (egressDrain_frames s ▸ mem)
      split
      · exact drained
      · rcases egressSend_frames (egressDrain s) nbytes packet with same | ⟨delivered, added⟩
        · exact fun frame mem => drained frame (same ▸ mem)
        · have sized : 1 ≤ nbytes.toNat ∧ nbytes.toNat ≤ opusMaxPacket := by
            simp only [EncoderContract, opusMaxPacket] at contract ⊢
            omega
          intro frame mem
          rw [added] at mem
          rcases List.mem_append.mp mem with old | new
          · exact drained frame old
          · rw [List.mem_singleton.mp new]
            exact wireFrame_wellFormed packet sized
    · exact wellFormed
  | produce src count => exact wellFormed

theorem egressRun_framesWellFormed (wellFormed : FramesWellFormed s) (moves : List (EgressMove α))
    (contract : ∀ move ∈ moves, EncoderContract move) : FramesWellFormed (egressRun s moves) := by
  induction moves generalizing s with
  | nil => exact wellFormed
  | cons move moves ih =>
    exact ih (egressStep_framesWellFormed wellFormed move (contract move (List.mem_cons_self _ _)))
      fun later mem => contract later (List.mem_cons_of_mem _ mem)

end Step

/-! ## What the ingress thread reads -/

/-- On an open connection carrying the frames of `ps` and then `rest`, one pass
of the inner loop per packet, whatever `opus_decode` returns, decodes exactly
`ps`, in order, stays connected, and leaves `rest`. -/
theorem ingressRun_payloadFrames (s : Ingress β) (connected : s.phase = .connected)
    (ps : List (List UInt8)) (sized : ∀ p ∈ ps, 1 ≤ p.length ∧ p.length ≤ opusMaxPacket)
    (rest : List UInt8) (framed : s.conn.bytes = (ps.map payloadFrame).flatten ++ rest)
    (passes : List (Int × (Nat → β))) (onePerPacket : passes.length = ps.length) :
    let r := ingressRun s (passes.map fun pass => .iterate pass.1 pass.2)
    r.phase = .connected ∧ r.packets = s.packets ++ ps ∧ r.conn.bytes = rest := by
  induction ps generalizing s passes with
  | nil =>
    obtain rfl : passes = [] := List.length_eq_zero.mp onePerPacket
    exact ⟨connected, (List.append_nil _).symm, framed⟩
  | cons p ps ih =>
    obtain ⟨⟨nsamples, pcm⟩, passes, rfl⟩ : ∃ pass later, passes = pass :: later :=
      List.exists_cons_of_length_eq_add_one onePerPacket
    have next := ingressIterate_reads (sized p (List.mem_cons_self p ps))
      (by rw [framed, List.map_cons, List.flatten_cons, List.append_assoc]) nsamples pcm
    rw [connected] at next
    obtain ⟨phase, packets, bytes⟩ := ih (ingressIterate s nsamples pcm) next.1
      (fun q mem => sized q (List.mem_cons_of_mem p mem)) next.2.2 passes
      (Nat.succ_injective onePerPacket)
    simp only [List.map_cons, ingressRun, ingressStep, connected] at phase packets bytes ⊢
    rw [packets, next.2.1, List.append_assoc, List.singleton_append]
    exact ⟨phase, rfl, bytes⟩

/-! ## The two ends -/

/-- While the egress thread is connected, an ingress thread connected to what
it has written, with one pass of its inner loop per frame, stays connected,
decodes exactly the payloads of the frames `framed_write` completed, in order,
none skipped, split or merged, and reads the stream to its end; provided
`opus_encode` returned a negative error code or `1` to `OPUS_MAX_PACKET`
bytes. -/
theorem egress_ingress_loopback [Zero α] [Zero β] (rb : RingBuffer α) (pcm : Nat → α)
    (moves : List (EgressMove α)) (contract : ∀ move ∈ moves, EncoderContract move)
    (connected : (egressRun (egressInit rb pcm) moves).phase = .connected)
    (rbIn : RingBuffer β) (opusBuf : Nat → UInt8) (readChunks : List Nat)
    (passes : List (Int × (Nat → β)))
    (onePerFrame : passes.length = (egressRun (egressInit rb pcm) moves).frames.length) :
    let s := egressRun (egressInit rb pcm) moves
    let r := ingressRun (ingressInit rbIn opusBuf)
      (.connect ⟨s.conn.sent, readChunks⟩ :: passes.map fun pass => .iterate pass.1 pass.2)
    r.phase = .connected ∧ r.packets.map payloadFrame = s.frames ∧ r.conn.bytes = [] := by
  intro s
  have wellFormed : FramesWellFormed s :=
    egressRun_framesWellFormed (by simp [FramesWellFormed, egressInit]) moves contract
  have frames : (s.frames.map (List.drop 2)).map payloadFrame = s.frames := by
    rw [List.map_map]
    exact (List.map_congr_left fun frame mem => (wellFormed frame mem).1.symm).trans (List.map_id _)
  have sent : s.conn.sent = ((s.frames.map (List.drop 2)).map payloadFrame).flatten ++ [] := by
    rw [frames, List.append_nil]
    exact egressRun_wireWhole (wireWhole_of_closed (by simp [egressInit])) moves connected
  obtain ⟨phase, packets, bytes⟩ := ingressRun_payloadFrames
    (ingressStep (ingressInit rbIn opusBuf) (.connect ⟨s.conn.sent, readChunks⟩)) rfl
    (s.frames.map (List.drop 2)) (by simpa using fun frame mem => (wellFormed frame mem).2) [] sent
    passes (by rw [onePerFrame, List.length_map])
  refine ⟨phase, ?_, bytes⟩
  rw [ingressRun, packets]
  exact frames

/-- The egress thread connects, gets one block from `WriteMix`, encodes it into
a three-byte packet and delivers it; an ingress thread on those bytes, read one
byte and then two at a time, decodes that packet in one pass. -/
theorem egress_ingress_loopback_one_block :
    let moves : List (EgressMove Float32) :=
      [.connect [], .produce (fun _ => 0) 960, .iterate 3 fun _ => 7]
    let s := egressRun (egressInit (⟨fun _ => 0, 0, 0⟩ : RingBuffer Float32) (fun _ => 0)) moves
    let passes : List (Int × (Nat → Float32)) := [(960, fun _ => 0)]
    let r := ingressRun (ingressInit (⟨fun _ => 0, 0, 0⟩ : RingBuffer Float32) (fun _ => 0))
      (.connect ⟨s.conn.sent, [1, 2]⟩ :: passes.map fun pass => .iterate pass.1 pass.2)
    ((∀ move ∈ moves, EncoderContract move) ∧ s.phase = .connected ∧
      passes.length = s.frames.length) ∧ s.frames = [[0, 3, 7, 7, 7]] ∧
      r.phase = .connected ∧ r.packets.map payloadFrame = s.frames ∧ r.conn.bytes = [] := by
  intro moves s passes r
  have contract : ∀ move ∈ moves, EncoderContract move := by
    simp [moves, EncoderContract, opusMaxPacket]
  obtain ⟨rest, delivered⟩ := @egressStep_delivers Float32
    (egressRun (egressInit (⟨fun _ => 0, 0, 0⟩ : RingBuffer Float32) (fun _ => 0))
      [.connect [], .produce (fun _ => 0) 960]) rfl (by decide) [] [] rfl 3 (by decide) fun _ => 7
  simp only [egressRun] at delivered
  have connected : s.phase = .connected := by
    simp only [s, moves, egressRun, delivered, egressDrain_phase]
    rfl
  have oneFrame : s.frames = [[0, 3, 7, 7, 7]] := by
    simp only [s, moves, egressRun, delivered]
    decide
  have onePerFrame : passes.length = s.frames.length := by rw [oneFrame]; rfl
  exact ⟨⟨contract, connected, onePerFrame⟩, oneFrame,
    egress_ingress_loopback _ _ moves contract connected _ _ [1, 2] passes onePerFrame⟩

end BungholeAudio
