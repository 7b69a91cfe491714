import BungholeAudio.Ring.Refinement

/-!
# The ring under one producer and one consumer

The realtime IO thread and a transport thread run `ring_write` and `ring_read`
on one ring at the same time. This module models that as an interleaving of
atomic steps, under sequential consistency. The producer loads `head`, loads
`tail`, copies the accepted frames one at a time into their slots and stores
`head`; the consumer loads `head`, loads `tail`, copies frames out one at a
time and stores `tail`. Each side keeps its own snapshot of the positions, so
a step of one side may act on a snapshot the other side has already moved
past.

Two logs record what the callers observe: `accepted` is every frame a
completed `ring_write` reported as written, `delivered` every frame a
completed `ring_read` handed back, each in call order.
-/

namespace BungholeAudio

variable {α : Type}

/-! ## Program counters -/

/-- Where the producer is inside `ring_write`, with its locals. -/
inductive ProducerPc (α : Type)
  | idle
  | loadHead (src : Nat → α) (count : UInt64)
  | loadTail (src : Nat → α) (count : UInt64) (h : UInt64)
  /-- Frames `0 .. copied` of the accepted `count` are in the storage. -/
  | copy (src : Nat → α) (h count : UInt64) (copied : Nat)

/-- Where the consumer is inside `ring_read`, with its locals; `dst` is the
caller's buffer as filled so far. -/
inductive ConsumerPc (α : Type)
  | idle
  | loadHead (dst : Nat → α) (count : UInt64)
  | loadTail (dst : Nat → α) (count : UInt64) (h : UInt64)
  | copy (dst : Nat → α) (t count : UInt64) (copied : Nat)

/-- The shared ring, both threads' program counters, and the two logs. -/
structure Spsc (α : Type) where
  samples : Nat → α
  head : UInt64
  tail : UInt64
  producer : ProducerPc α
  consumer : ConsumerPc α
  accepted : List (Frame α)
  delivered : List (Frame α)

/-- The scheduler's choices: a thread starts a call, or takes its next step. -/
inductive SpscAction (α : Type)
  | write (src : Nat → α) (count : UInt64)
  | produce
  | read (dst : Nat → α) (count : UInt64)
  | consume

/-- The system right after `ring_init`, with both threads outside the ring. -/
def spscInit [Zero α] (rb : RingBuffer α) : Spsc α :=
  { samples := (ringInit rb).samples, head := (ringInit rb).head, tail := (ringInit rb).tail,
    producer := .idle, consumer := .idle, accepted := [], delivered := [] }

/-! ## The copy loops, one frame at a time

The two `memcpy`s of a call move frame `i` of the call to slot `idx + i`
while `i < first`, and to slot `i - first` after the end of the storage. -/

/-- The slot `ring_write` (or `ring_read`) starting at position `pos` copies
frame `i` of a `count`-frame call to. -/
def copySlot (pos count : UInt64) (i : Nat) : Nat :=
  let idx := (pos % UInt64.ofNat ringCapacity).toNat
  let first := min (ringCapacity - idx) count.toNat
  if i < first then idx + i else i - first

theorem copySlot_eq {pos count : UInt64} {i : Nat} (countLe : count.toNat ≤ ringCapacity)
    (inCall : i < count.toNat) : copySlot pos count i = (pos.toNat + i) % 8192 := by
  simp only [copySlot, UInt64.toNat_mod, toNat_ofNat_ringCapacity]
  simp only [ringCapacity] at *
  split <;> omega

/-- One atomic step of the producer. -/
def producerStep (s : Spsc α) : Spsc α :=
  match s.producer with
  | .idle => s
  | .loadHead src count => { s with producer := .loadTail src count s.head }
  | .loadTail src count h =>
    let free := UInt64.ofNat ringCapacity - (h - s.tail)
    let count := if count > free then free else count
    if count = 0 then { s with producer := .idle }
    else { s with producer := .copy src h count 0 }
  | .copy src h count copied =>
    if copied < count.toNat then
      { s with samples := storeFrames s.samples (copySlot h count copied) [frameAt src copied],
               producer := .copy src h count (copied + 1) }
    else
      { s with head := h + count, producer := .idle,
               accepted := s.accepted ++ framesOf src count.toNat }

/-- One atomic step of the consumer. -/
def consumerStep (s : Spsc α) : Spsc α :=
  match s.consumer with
  | .idle => s
  | .loadHead dst count => { s with consumer := .loadTail dst count s.head }
  | .loadTail dst count h =>
    let t := s.tail
    let avail := h - t
    let count := if count > avail then avail else count
    if count = 0 then { s with consumer := .idle }
    else { s with consumer := .copy dst t count 0 }
  | .copy dst t count copied =>
    if copied < count.toNat then
      let dst := storeFrames dst copied [frameAt s.samples (copySlot t count copied)]
      { s with consumer := .copy dst t count (copied + 1) }
    else
      { s with tail := t + count, consumer := .idle,
               delivered := s.delivered ++ framesOf dst count.toNat }

/-- One scheduler choice. A call starts only on an idle thread. -/
def spscStep (s : Spsc α) : SpscAction α → Spsc α
  | .write src count =>
    match s.producer with
    | .idle => { s with producer := .loadHead src count }
    | _ => s
  | .produce => producerStep s
  | .read dst count =>
    match s.consumer with
    | .idle => { s with consumer := .loadHead dst count }
    | _ => s
  | .consume => consumerStep s

/-- Run a schedule. -/
def spscRun (s : Spsc α) : List (SpscAction α) → Spsc α
  | [] => s
  | action :: actions => spscRun (spscStep s action) actions

theorem spscRun_append (s : Spsc α) (first rest : List (SpscAction α)) :
    spscRun s (first ++ rest) = spscRun (spscRun s first) rest := by
  induction first generalizing s with
  | nil => rfl
  | cons action actions ih => exact ih _

/-! ## What each thread leaves alone -/

section Frame

variable (s : Spsc α)

@[simp]
theorem producerStep_consumer : (producerStep s).consumer = s.consumer := by
  unfold producerStep
  split <;> simp only [apply_ite Spsc.consumer, ite_self]

@[simp]
theorem producerStep_tail : (producerStep s).tail = s.tail := by
  unfold producerStep
  split <;> simp only [apply_ite Spsc.tail, ite_self]

@[simp]
theorem producerStep_delivered : (producerStep s).delivered = s.delivered := by
  unfold producerStep
  split <;> simp only [apply_ite Spsc.delivered, ite_self]

@[simp]
theorem consumerStep_producer : (consumerStep s).producer = s.producer := by
  unfold consumerStep
  split <;> simp only [apply_ite Spsc.producer, ite_self]

@[simp]
theorem consumerStep_head : (consumerStep s).head = s.head := by
  unfold consumerStep
  split <;> simp only [apply_ite Spsc.head, ite_self]

@[simp]
theorem consumerStep_samples : (consumerStep s).samples = s.samples := by
  unfold consumerStep
  split <;> simp only [apply_ite Spsc.samples, ite_self]

@[simp]
theorem consumerStep_accepted : (consumerStep s).accepted = s.accepted := by
  unfold consumerStep
  split <;> simp only [apply_ite Spsc.accepted, ite_self]

end Frame

end BungholeAudio
