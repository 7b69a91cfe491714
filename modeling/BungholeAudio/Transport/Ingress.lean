import BungholeAudio.Transport.Egress

/-!
# The ingress thread

`input_transport_thread` reads wire frames from the host, hands each packet
to `opus_decode`, and writes the decoded frames into the input ring, which
the IO thread drains for `ReadInput`. A failed `framed_read` closes the
connection and the thread connects again; a failed decode drops the packet.

As for the egress thread, the environment drives the model: the value of
`running`, the bytes each connection will deliver and how `read()` splits
them, what `opus_decode` returns, and the IO thread's `ring_read`s of the
input ring. The decoder and the int16 to float conversion with the gain are
not modelled: the floats written are the environment's.

`ingress_run` shows that over every run the ring stays within
`RING_CAPACITY` and hands the IO thread exactly the frames it accepted, in
order, and that what the thread has taken off a connection is exactly the
wire frames of the packets it decoded, each of `1` to `OPUS_MAX_PACKET`
bytes. `packets_prefix` draws the consequence for a host that sends well
formed frames: the thread decodes the host's packets in order, none skipped,
split or merged.
-/

namespace BungholeAudio

variable {α : Type}

/-! ## States and moves -/

/-- The thread's locals, the input ring, the open connection and the logs:
the bytes the connection held when it opened, the packets decoded from it,
the frames `ring_write` accepted and the frames the IO thread read. -/
structure Ingress (α : Type) where
  phase : ThreadPhase
  ring : RingBuffer α
  conn : Inbound
  opusBuf : Nat → UInt8
  opened : List UInt8
  packets : List (List UInt8)
  accepted : List (Frame α)
  consumed : List (Frame α)

/-- The environment's choices. -/
inductive IngressMove (α : Type)
  /-- `running` reads false. -/
  | stop
  /-- `vsock_connect` succeeds; `conn` is what the connection will deliver. -/
  | connect (conn : Inbound)
  /-- One pass of the inner loop with `running` true; if a packet arrives,
  `opus_decode` returns `nsamples` and the conversion leaves `pcm`. -/
  | iterate (nsamples : Int) (pcm : Nat → α)
  /-- The IO thread's `ring_read(&drv->inputRing, dst, count)`. -/
  | consume (dst : Nat → α) (count : UInt64)

/-- The thread as it starts, after `ring_init` of the input ring. -/
def ingressInit [Zero α] (rb : RingBuffer α) (opusBuf : Nat → UInt8) : Ingress α :=
  { phase := .disconnected, ring := ringInit rb, conn := ⟨[], []⟩, opusBuf := opusBuf,
    opened := [], packets := [], accepted := [], consumed := [] }

/-- One pass of the inner loop: `framed_read(fd, opus_buf, OPUS_MAX_PACKET,
&pkt_len)` with `pkt_len = 0`, a break on failure, and otherwise the decode
and `ring_write(&drv->inputRing, pcm, (uint64_t)nsamples)` unless the decode
failed. -/
def ingressIterate (s : Ingress α) (nsamples : Int) (pcm : Nat → α) : Ingress α :=
  let r := framedRead s.conn s.opusBuf opusMaxPacket 0
  if r.ret < 0 then { s with phase := .disconnected, conn := r.stream, opusBuf := r.buf }
  else
    let s := { s with conn := r.stream, opusBuf := r.buf,
                      packets := s.packets ++ [(List.range r.outLen.toNat).map r.buf] }
    if nsamples < 0 then s
    else
      let w := ringWrite s.ring pcm (UInt64.ofNat nsamples.toNat)
      { s with ring := w.2, accepted := s.accepted ++ framesOf pcm w.1.toNat }

/-- One move of the environment. -/
def ingressStep (s : Ingress α) : IngressMove α → Ingress α
  | .stop =>
    match s.phase with
    | .disconnected => { s with phase := .exited }
    | .connected => { s with phase := .disconnected }
    | .exited => s
  | .connect conn =>
    match s.phase with
    | .disconnected => { s with phase := .connected, conn := conn, opened := conn.bytes, packets := [] }
    | _ => s
  | .iterate nsamples pcm =>
    match s.phase with
    | .connected => ingressIterate s nsamples pcm
    | _ => s
  | .consume dst count =>
    let r := ringRead s.ring dst count
    { s with ring := r.2.1, consumed := s.consumed ++ framesOf r.2.2 r.1.toNat }

/-- Run a sequence of moves. -/
def ingressRun (s : Ingress α) : List (IngressMove α) → Ingress α
  | [] => s
  | move :: moves => ingressRun (ingressStep s move) moves

theorem ingressStep_iterate {s : Ingress α} (connected : s.phase = .connected) (nsamples : Int)
    (pcm : Nat → α) : ingressStep s (.iterate nsamples pcm) = ingressIterate s nsamples pcm := by
  rw [ingressStep, connected]

theorem ingressIterate_opened (s : Ingress α) (nsamples : Int) (pcm : Nat → α) :
    (ingressIterate s nsamples pcm).opened = s.opened := by
  unfold ingressIterate
  dsimp only
  split_ifs <;> rfl

/-- A pass of the inner loop on a connection that starts with the frame of a
packet of `1` to `OPUS_MAX_PACKET` bytes reads that packet, whatever
`opus_decode` returns, and keeps the connection. -/
theorem ingressIterate_reads {s : Ingress α} {p : List UInt8}
    (sized : 1 ≤ p.length ∧ p.length ≤ opusMaxPacket) {rest : List UInt8}
    (arriving : s.conn.bytes = payloadFrame p ++ rest) (nsamples : Int) (pcm : Nat → α) :
    (ingressIterate s nsamples pcm).phase = s.phase ∧
      (ingressIterate s nsamples pcm).packets = s.packets ++ [p] ∧
      (ingressIterate s nsamples pcm).conn.bytes = rest := by
  obtain ⟨after, read⟩ := framedRead_payloadFrame sized rest s.conn.chunks s.opusBuf 0
  have conn : s.conn = ⟨payloadFrame p ++ rest, s.conn.chunks⟩ := by rw [← arriving]
  have decoded : (List.range (UInt16.ofNat p.length).toNat).map (storeBytes s.opusBuf p) = p := by
    rw [UInt16.toNat_ofNat_of_lt (by simp only [opusMaxPacket, UInt16.size] at sized ⊢; omega),
      map_range_storeBytes]
  unfold ingressIterate
  rw [conn, read]
  dsimp only
  rw [if_neg (by decide), decoded]
  split <;> exact ⟨rfl, rfl, rfl⟩

/-! ## The invariant -/

/-- What holds between any two moves. -/
structure IngressInv (s : Ingress α) : Prop where
  bounded : Bounded s.ring
  fifo : s.consumed ++ contents s.ring = s.accepted
  parsed : s.phase = .connected → s.opened = (s.packets.map payloadFrame).flatten ++ s.conn.bytes
  sized : ∀ p ∈ s.packets, 1 ≤ p.length ∧ p.length ≤ opusMaxPacket

theorem ingressInit_inv [Zero α] (rb : RingBuffer α) (opusBuf : Nat → UInt8) :
    IngressInv (ingressInit rb opusBuf) where
  bounded := ringInit_bounded rb
  fifo := by simp only [ingressInit, ringInit_contents, List.append_nil]
  parsed := nofun
  sized := by simp only [ingressInit, List.not_mem_nil, false_implies, implies_true]

section Step

variable {s : Ingress α}

/-- Closing the connection or the thread touches nothing the invariant
speaks of. -/
theorem IngressInv.close (inv : IngressInv s) {phase : ThreadPhase}
    (closed : phase ≠ .connected) : IngressInv { s with phase := phase } :=
  ⟨inv.bounded, inv.fifo, fun opened => absurd opened closed, inv.sized⟩

theorem IngressInv.connect (inv : IngressInv s) (conn : Inbound) :
    IngressInv { s with phase := .connected, conn := conn, opened := conn.bytes, packets := [] } :=
  ⟨inv.bounded, inv.fifo, fun _ => rfl, by simp only [List.not_mem_nil, false_implies, implies_true]⟩

theorem ingressConsume_inv (inv : IngressInv s) (dst : Nat → α) (count : UInt64) :
    IngressInv (ingressStep s (.consume dst count)) := by
  obtain ⟨got, refined, stored, stillBounded⟩ := ringRead_refines s.ring inv.bounded dst count
  refine { inv with bounded := stillBounded, fifo := ?_ }
  show s.consumed ++ framesOf (ringRead s.ring dst count).2.2 (ringRead s.ring dst count).1.toNat ++
    contents (ringRead s.ring dst count).2.1 = s.accepted
  have taken : framesOf (ringRead s.ring dst count).2.2 (ringRead s.ring dst count).1.toNat =
      (contents s.ring).take (ringRead s.ring dst count).1.toNat := by
    have storedFrames := framesOf_storeFrames dst ((contents s.ring).take (queueRead (contents s.ring) dst count.toNat).1)
    rw [List.length_take, min_eq_left (by simp only [queueRead]; exact Nat.min_le_right _ _)]
      at storedFrames
    rw [stored, got]
    exact storedFrames
  rw [taken, refined, got, List.append_assoc, queueRead, List.take_append_drop, inv.fifo]

/-- `framed_read` returns `0` or `-1`. -/
theorem framedRead_ret (conn : Inbound) (buf : Nat → UInt8) (bufsize : Int) (outLen : UInt16) :
    (framedRead conn buf bufsize outLen).ret = 0 ∨ (framedRead conn buf bufsize outLen).ret = -1 := by
  obtain ⟨chunks, eq⟩ := framedRead_eq conn buf bufsize outLen
  rw [eq]
  dsimp only
  split_ifs <;> simp

theorem ingressIterate_inv (inv : IngressInv s) (connected : s.phase = .connected) (nsamples : Int)
    (pcm : Nat → α) : IngressInv (ingressIterate s nsamples pcm) := by
  unfold ingressIterate
  dsimp only
  split
  · exact ⟨inv.bounded, inv.fifo, nofun, inv.sized⟩
  · rename_i notFailed
    have accepted : (framedRead s.conn s.opusBuf opusMaxPacket 0).ret = 0 :=
      (framedRead_ret _ _ _ _).resolve_right fun failed => notFailed (by omega)
    obtain ⟨frame, nonempty, fits⟩ := framedRead_consumes_frame _ _ _ _ accepted
    have parsed : s.opened = ((s.packets ++ [(List.range (framedRead s.conn s.opusBuf
        opusMaxPacket 0).outLen.toNat).map (framedRead s.conn s.opusBuf opusMaxPacket 0).buf]).map
        payloadFrame).flatten ++ (framedRead s.conn s.opusBuf opusMaxPacket 0).stream.bytes := by
      rw [inv.parsed connected, frame]
      simp only [List.map_append, List.map_singleton, List.flatten_append, List.flatten_singleton,
        List.append_assoc]
    have sized : ∀ p ∈ s.packets ++ [(List.range (framedRead s.conn s.opusBuf
        opusMaxPacket 0).outLen.toNat).map (framedRead s.conn s.opusBuf opusMaxPacket 0).buf],
        1 ≤ p.length ∧ p.length ≤ opusMaxPacket := by
      intro p mem
      rcases List.mem_append.mp mem with old | new
      · exact inv.sized p old
      · rw [List.mem_singleton.mp new]
        simp only [opusMaxPacket] at fits ⊢
        exact ⟨nonempty, by omega⟩
    split
    · exact ⟨inv.bounded, inv.fifo, fun _ => parsed, sized⟩
    · obtain ⟨wrote, refined, stillBounded⟩ :=
        ringWrite_refines s.ring inv.bounded pcm (UInt64.ofNat nsamples.toNat)
      refine ⟨stillBounded, ?_, fun _ => parsed, sized⟩
      show s.consumed ++ contents (ringWrite s.ring pcm (UInt64.ofNat nsamples.toNat)).2 =
        s.accepted ++ framesOf pcm (ringWrite s.ring pcm (UInt64.ofNat nsamples.toNat)).1.toNat
      rw [refined, wrote, queueWrite, ← List.append_assoc, inv.fifo]

theorem ingressStep_inv (inv : IngressInv s) (move : IngressMove α) :
    IngressInv (ingressStep s move) := by
  cases move with
  | stop =>
    dsimp only [ingressStep]
    split
    · exact inv.close nofun
    · exact inv.close nofun
    · exact inv
  | connect conn =>
    dsimp only [ingressStep]
    split
    · exact inv.connect conn
    · exact inv
  | iterate nsamples pcm =>
    dsimp only [ingressStep]
    split
    · rename_i connected
      exact ingressIterate_inv inv connected nsamples pcm
    · exact inv
  | consume dst count => exact ingressConsume_inv inv dst count

theorem ingressRun_inv (inv : IngressInv s) (moves : List (IngressMove α)) :
    IngressInv (ingressRun s moves) := by
  induction moves generalizing s with
  | nil => exact inv
  | cons move moves ih => exact ih (ingressStep_inv inv move)

end Step

/-! ## Every run -/

/-- Over every run of the ingress thread: the input ring stays within
`RING_CAPACITY`; the frames the IO thread has read, followed by what the ring
holds, are the frames `ring_write` accepted, so the IO thread gets them in
order, none lost or repeated; and while a connection is open, what the thread
has taken off it is exactly the wire frames of the packets it decoded, each
of `1` to `OPUS_MAX_PACKET` bytes. -/
theorem ingress_run [Zero α] (rb : RingBuffer α) (opusBuf : Nat → UInt8)
    (moves : List (IngressMove α)) :
    let s := ingressRun (ingressInit rb opusBuf) moves
    Bounded s.ring ∧ s.consumed ++ contents s.ring = s.accepted ∧
      (s.phase = .connected → s.opened = (s.packets.map payloadFrame).flatten ++ s.conn.bytes) ∧
      ∀ p ∈ s.packets, 1 ≤ p.length ∧ p.length ≤ opusMaxPacket := by
  have inv := ingressRun_inv (ingressInit_inv rb opusBuf) moves
  exact ⟨inv.bounded, inv.fifo, inv.parsed, inv.sized⟩

/-! ## Well-formed streams -/

/-- Wire frames are prefix-free: a frame and what follows it determine the
payload. -/
theorem payloadFrame_append_inj {p q : List UInt8} {rest rest' : List UInt8}
    (pShort : p.length < UInt16.size) (qShort : q.length < UInt16.size)
    (same : payloadFrame p ++ rest = payloadFrame q ++ rest') : p = q ∧ rest = rest' := by
  rw [payloadFrame_eq_of_lt pShort, payloadFrame_eq_of_lt qShort, List.append_assoc,
    List.append_assoc] at same
  obtain ⟨headers, payloads⟩ := List.append_inj same (by simp)
  have lengths : p.length = q.length := by
    have decoded := congrArg (fun h => decodeHeader (h.getD 0 0) (h.getD 1 0)) headers
    simp only [decodeHeader_encodeHeader] at decoded
    rw [← UInt16.toNat_ofNat_of_lt pShort, ← UInt16.toNat_ofNat_of_lt qShort, decoded]
  exact List.append_inj payloads lengths

theorem prefix_of_frames {qs ps : List (List UInt8)} {rest : List UInt8}
    (qsShort : ∀ q ∈ qs, q.length < UInt16.size) (psShort : ∀ p ∈ ps, p.length < UInt16.size)
    (same : (qs.map payloadFrame).flatten ++ rest = (ps.map payloadFrame).flatten) : qs <+: ps := by
  induction qs generalizing ps with
  | nil => exact List.nil_prefix
  | cons q qs ih =>
    cases ps with
    | nil =>
      have empty := congrArg List.length same
      simp only [List.map_cons, List.flatten_cons, List.length_append, List.map_nil,
        List.flatten_nil, List.length_nil, payloadFrame, wireFrame, length_encodeHeader] at empty
      omega
    | cons p ps =>
      simp only [List.map_cons, List.flatten_cons, List.append_assoc] at same
      obtain ⟨rfl, later⟩ := payloadFrame_append_inj (qsShort q (List.mem_cons_self _ _))
        (psShort p (List.mem_cons_self _ _)) same
      exact List.prefix_cons_inj _ |>.mpr (ih (fun q mem => qsShort q (List.mem_cons_of_mem _ mem))
        (fun p mem => psShort p (List.mem_cons_of_mem _ mem)) later)

/-- On a connection that delivers the wire frames of the payloads `ps`, each
of `1` to `OPUS_MAX_PACKET` bytes, the packets the thread decodes are the
first of `ps`, in order: none is skipped, split, merged or altered. -/
theorem packets_prefix [Zero α] (rb : RingBuffer α) (opusBuf : Nat → UInt8)
    (moves : List (IngressMove α)) (ps : List (List UInt8))
    (sized : ∀ p ∈ ps, 1 ≤ p.length ∧ p.length ≤ opusMaxPacket)
    (connected : (ingressRun (ingressInit rb opusBuf) moves).phase = .connected)
    (framed : (ingressRun (ingressInit rb opusBuf) moves).opened = (ps.map payloadFrame).flatten) :
    (ingressRun (ingressInit rb opusBuf) moves).packets <+: ps := by
  have inv := ingressRun_inv (ingressInit_inv rb opusBuf) moves
  have short : ∀ {qs : List (List UInt8)}, (∀ q ∈ qs, 1 ≤ q.length ∧ q.length ≤ opusMaxPacket) →
      ∀ q ∈ qs, q.length < UInt16.size := fun bounded q mem => by
    have := (bounded q mem).2
    simp only [opusMaxPacket, UInt16.size] at this ⊢
    omega
  exact prefix_of_frames (short inv.sized) (short sized) ((inv.parsed connected).symm.trans framed)

/-- A connection that will deliver the frames of a one-byte and a two-byte
packet, and one pass of the inner loop: the first packet has been read. -/
theorem packets_prefix_one_of_two :
    let moves : List (IngressMove Float32) :=
      [.connect ⟨payloadFrame [7] ++ payloadFrame [8, 9], [1]⟩, .iterate 960 fun _ => 0]
    let ps : List (List UInt8) := [[7], [8, 9]]
    let s := ingressRun (ingressInit ⟨fun _ => 0, 0, 0⟩ (fun _ => 0)) moves
    ((∀ p ∈ ps, 1 ≤ p.length ∧ p.length ≤ opusMaxPacket) ∧ s.phase = .connected ∧
      s.opened = (ps.map payloadFrame).flatten) ∧ s.packets = [[7]] ∧ s.packets <+: ps := by
  intro moves ps s
  have sized : ∀ p ∈ ps, 1 ≤ p.length ∧ p.length ≤ opusMaxPacket := by decide
  obtain ⟨phase, packets, -⟩ := @ingressIterate_reads Float32
    (ingressStep (ingressInit ⟨fun _ => 0, 0, 0⟩ (fun _ => 0))
      (.connect ⟨payloadFrame [7] ++ payloadFrame [8, 9], [1]⟩)) [7] (by decide) (payloadFrame [8, 9])
    rfl 960 fun _ => 0
  have run : s = ingressIterate (ingressStep (ingressInit ⟨fun _ => 0, 0, 0⟩ (fun _ => 0))
      (.connect ⟨payloadFrame [7] ++ payloadFrame [8, 9], [1]⟩)) 960 fun _ => 0 := by
    simp only [s, moves, ingressRun]
    exact ingressStep_iterate rfl 960 _
  have connected : s.phase = .connected := by rw [run, phase]; rfl
  have opened : s.opened = (ps.map payloadFrame).flatten := by
    rw [run, ingressIterate_opened]
    rfl
  have onePacket : s.packets = [[7]] := by rw [run, packets]; rfl
  exact ⟨⟨sized, connected, opened⟩, onePacket,
    packets_prefix _ _ moves ps sized connected opened⟩

end BungholeAudio
