import BungholeAudio.Ring.Basic

/-!
# The ring refines a bounded FIFO queue

The abstract model of the ring is a list of stereo frames, oldest first, of
length at most `RING_CAPACITY`: writing appends as many frames as fit, reading
removes as many as are asked for and present. `contents` reads that list off
a concrete ring, walking `head - tail` slots from `tail`.

`ringWrite_refines` and `ringRead_refines` are the step lemmas: from a ring
holding at most `RING_CAPACITY` frames, each call returns what the queue
returns and leaves a ring whose contents are the queue's. `runRing_refines`
lifts them to every finite sequence of calls after `ring_init`, including
sequences long enough for `head` and `tail` to wrap modulo `2^64`.
-/

namespace BungholeAudio

variable {α : Type}

/-! ## The abstraction -/

/-- The frames written and not yet read, oldest first. -/
def contents (rb : RingBuffer α) : List (Frame α) :=
  (List.range (rb.head - rb.tail).toNat).map fun j =>
    frameAt rb.samples ((rb.tail.toNat + j) % 8192)

/-- The ring holds at most `RING_CAPACITY` frames. -/
def Bounded (rb : RingBuffer α) : Prop :=
  (rb.head - rb.tail).toNat ≤ ringCapacity

instance (rb : RingBuffer α) : Decidable (Bounded rb) := inferInstanceAs (Decidable (_ ≤ _))

@[simp]
theorem length_contents (rb : RingBuffer α) : (contents rb).length = (rb.head - rb.tail).toNat := by
  simp [contents]

@[simp]
theorem getElem_contents (rb : RingBuffer α) (j : Nat) (h : j < (contents rb).length) :
    (contents rb)[j] = frameAt rb.samples ((rb.tail.toNat + j) % 8192) := by
  simp [contents]

/-- Because `RING_CAPACITY` divides `2^64`, the slot of `head` is the slot
`available` frames after the slot of `tail`, whatever the wraps. -/
theorem head_mod_eq (rb : RingBuffer α) :
    rb.head.toNat % 8192 = (rb.tail.toNat + (rb.head - rb.tail).toNat) % 8192 := by
  have headLt := u64_toNat_lt rb.head
  have tailLt := u64_toNat_lt rb.tail
  rw [u64_toNat_sub]
  omega

/-! ## The abstract queue -/

/-- Writing to the abstract FIFO: as many of the `count` frames of `src` as fit. -/
def queueWrite (q : List (Frame α)) (src : Nat → α) (count : Nat) : Nat × List (Frame α) :=
  let w := min count (ringCapacity - q.length)
  (w, q ++ framesOf src w)

/-- Reading from the abstract FIFO: the oldest `min(count, |q|)` frames are
stored at the start of `dst` and removed. -/
def queueRead (q : List (Frame α)) (dst : Nat → α) (count : Nat) :
    Nat × List (Frame α) × (Nat → α) :=
  let r := min count q.length
  (r, q.drop r, storeFrames dst 0 (q.take r))

/-! ## One call -/

section Step

variable (rb : RingBuffer α)

theorem ringInit_available [Zero α] : ((ringInit rb).head - (ringInit rb).tail).toNat = 0 := by
  show (0 - 0 : UInt64).toNat = 0
  decide

theorem ringInit_contents [Zero α] : contents (ringInit rb) = [] := by
  simp only [contents, ringInit_available, List.range_zero, List.map_nil]

theorem ringInit_bounded [Zero α] : Bounded (ringInit rb) := by
  simp only [Bounded, ringInit_available, Nat.zero_le]

/-- `ring_write` is the queue's write. -/
theorem ringWrite_refines (bounded : Bounded rb) (src : Nat → α) (count : UInt64) :
    (ringWrite rb src count).1.toNat = (queueWrite (contents rb) src count.toNat).1 ∧
      contents (ringWrite rb src count).2 = (queueWrite (contents rb) src count.toNat).2 ∧
      Bounded (ringWrite rb src count).2 := by
  have written := ringWrite_fst_toNat rb src count bounded
  have headMod := head_mod_eq rb
  have headEq := ringWrite_head rb src count
  have headLt := u64_toNat_lt rb.head
  have tailLt := u64_toNat_lt rb.tail
  have availEq : ((ringWrite rb src count).2.head - rb.tail).toNat =
      (rb.head - rb.tail).toNat + (ringWrite rb src count).1.toNat := by
    rw [headEq, u64_toNat_sub, u64_toNat_add]
    rw [u64_toNat_sub] at written headMod ⊢
    simp only [Bounded, ringCapacity] at bounded written headMod ⊢
    omega
  simp only [Bounded, ringCapacity, queueWrite, length_contents] at bounded written ⊢
  refine ⟨written, ?_, by rw [ringWrite_tail, availEq]; omega⟩
  refine List.ext_getElem (by simp [availEq, written]) fun j inNew _ => ?_
  simp only [length_contents, ringWrite_tail, availEq] at inNew
  have slot : (rb.tail.toNat + j) % 8192 < ringCapacity := Nat.mod_lt _ (by decide)
  rw [getElem_contents, ringWrite_tail, frameAt_ringWrite rb src count bounded slot]
  by_cases old : j < (rb.head - rb.tail).toNat
  · rw [List.getElem_append_left (by simpa using old), getElem_contents, if_neg (by omega)]
  · rw [List.getElem_append_right (by simp; omega), getElem_framesOf, if_pos (by omega)]
    simp only [length_contents]
    congr 1
    omega

/-- `ring_read` is the queue's read, `dst` included. -/
theorem ringRead_refines (bounded : Bounded rb) (dst : Nat → α) (count : UInt64) :
    (ringRead rb dst count).1.toNat = (queueRead (contents rb) dst count.toNat).1 ∧
      contents (ringRead rb dst count).2.1 = (queueRead (contents rb) dst count.toNat).2.1 ∧
      (ringRead rb dst count).2.2 = (queueRead (contents rb) dst count.toNat).2.2 ∧
      Bounded (ringRead rb dst count).2.1 := by
  have got := ringRead_fst_toNat rb dst count
  have tailEq := ringRead_tail rb dst count
  have headLt := u64_toNat_lt rb.head
  have tailLt := u64_toNat_lt rb.tail
  have tailNat : (ringRead rb dst count).2.1.tail.toNat =
      (rb.tail.toNat + (ringRead rb dst count).1.toNat) % 2 ^ 64 := by
    rw [tailEq, u64_toNat_add]
  have availEq : (rb.head - (ringRead rb dst count).2.1.tail).toNat =
      (rb.head - rb.tail).toNat - (ringRead rb dst count).1.toNat := by
    rw [u64_toNat_sub, u64_toNat_sub, tailNat]
    rw [u64_toNat_sub] at got
    omega
  simp only [Bounded, ringCapacity, queueRead, length_contents] at bounded got ⊢
  refine ⟨got, ?_, ?_, by rw [ringRead_head, availEq]; omega⟩
  · refine List.ext_getElem (by simp [availEq, got]) fun j inNew _ => ?_
    simp only [length_contents, ringRead_head, availEq] at inNew
    rw [getElem_contents, List.getElem_drop, getElem_contents, ringRead_samples, tailNat]
    congr 1
    omega
  · funext e
    rw [ringRead_dst_apply rb dst count bounded]
    simp only [storeFrames, numChannels, Nat.zero_mul, Nat.zero_le, if_true, Nat.sub_zero]
    split
    · rename_i inside
      rw [List.getElem?_eq_getElem (by simp; omega), List.getElem_take, getElem_contents]
      simp only [frameAt, numChannels]
      split <;> (congr 1; omega)
    · rw [List.getElem?_eq_none (by simp; omega)]

end Step

/-! ## Sequences of calls -/

/-- A call on the ring, with the buffer and count the caller passes. -/
inductive RingCall (α : Type)
  | write (src : Nat → α) (count : UInt64)
  | read (dst : Nat → α) (count : UInt64)

/-- What a call returns to its caller: the count, and for `ring_read` the
caller's buffer afterwards. -/
inductive RingReturn (α : Type)
  | wrote (count : Nat)
  | read (count : Nat) (dst : Nat → α)

/-- One call on the concrete ring. -/
def ringCall (rb : RingBuffer α) : RingCall α → RingReturn α × RingBuffer α
  | .write src count =>
    let (w, rb) := ringWrite rb src count
    (.wrote w.toNat, rb)
  | .read dst count =>
    let (r, rb, dst) := ringRead rb dst count
    (.read r.toNat dst, rb)

/-- One call on the abstract queue. -/
def queueCall (q : List (Frame α)) : RingCall α → RingReturn α × List (Frame α)
  | .write src count =>
    let (w, q) := queueWrite q src count.toNat
    (.wrote w, q)
  | .read dst count =>
    let (r, q, dst) := queueRead q dst count.toNat
    (.read r dst, q)

/-- Run a sequence of calls on the concrete ring, collecting the returns. -/
def runRing (rb : RingBuffer α) : List (RingCall α) → List (RingReturn α) × RingBuffer α
  | [] => ([], rb)
  | call :: calls =>
    let (ret, rb) := ringCall rb call
    let (rets, rb) := runRing rb calls
    (ret :: rets, rb)

/-- Run a sequence of calls on the abstract queue, collecting the returns. -/
def runQueue (q : List (Frame α)) : List (RingCall α) → List (RingReturn α) × List (Frame α)
  | [] => ([], q)
  | call :: calls =>
    let (ret, q) := queueCall q call
    let (rets, q) := runQueue q calls
    (ret :: rets, q)

theorem ringCall_refines {rb : RingBuffer α} (bounded : Bounded rb) (call : RingCall α) :
    (ringCall rb call).1 = (queueCall (contents rb) call).1 ∧
      contents (ringCall rb call).2 = (queueCall (contents rb) call).2 ∧
      Bounded (ringCall rb call).2 := by
  cases call with
  | write src count =>
    obtain ⟨written, stored, stillBounded⟩ := ringWrite_refines rb bounded src count
    exact ⟨congrArg RingReturn.wrote written, stored, stillBounded⟩
  | read dst count =>
    obtain ⟨got, remaining, filled, stillBounded⟩ := ringRead_refines rb bounded dst count
    simp only [ringCall, queueCall]
    rw [got, filled]
    exact ⟨rfl, remaining, stillBounded⟩

/-- Every sequence of calls on a ring holding at most `RING_CAPACITY` frames
returns what the abstract queue returns, and ends with the queue's contents. -/
theorem runRing_refines {rb : RingBuffer α} (bounded : Bounded rb) (calls : List (RingCall α)) :
    (runRing rb calls).1 = (runQueue (contents rb) calls).1 ∧
      contents (runRing rb calls).2 = (runQueue (contents rb) calls).2 ∧
      Bounded (runRing rb calls).2 := by
  induction calls generalizing rb with
  | nil => exact ⟨rfl, rfl, bounded⟩
  | cons call calls ih =>
    obtain ⟨ret, stored, stillBounded⟩ := ringCall_refines bounded call
    obtain ⟨rets, final, finalBounded⟩ := ih stillBounded
    simp only [runRing, runQueue]
    rw [ret, ← stored, rets, final]
    exact ⟨rfl, rfl, finalBounded⟩

/-- After `ring_init`, the ring behaves as a FIFO queue of stereo frames with
capacity `RING_CAPACITY`, over every finite sequence of `ring_write` and
`ring_read` calls, with any counts: every call returns what the queue returns
(`ring_read`'s buffer included, bit for bit), the frames held are the queue's,
and `head - tail` modulo `2^64` is the queue's length, at most the capacity. -/
theorem ring_refines_queue [Zero α] (rb : RingBuffer α) (calls : List (RingCall α)) :
    (runRing (ringInit rb) calls).1 = (runQueue [] calls).1 ∧
      contents (runRing (ringInit rb) calls).2 = (runQueue [] calls).2 ∧
      ((runRing (ringInit rb) calls).2.head - (runRing (ringInit rb) calls).2.tail).toNat =
        (runQueue [] calls).2.length ∧
      (runQueue [] calls).2.length ≤ ringCapacity := by
  obtain ⟨rets, final, bounded⟩ := runRing_refines (ringInit_bounded rb) calls
  rw [ringInit_contents] at rets final
  refine ⟨rets, final, ?_, ?_⟩
  · rw [← final, length_contents]
  · rw [← final, length_contents]
    exact bounded

end BungholeAudio
