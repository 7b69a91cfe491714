import BungholeAudio.Basic

/-!
# The lock-free SPSC ring buffer

`RingBuffer` holds `RING_CAPACITY` interleaved stereo frames and two 64-bit
frame positions. `head` counts every frame ever written and `tail` every frame
ever read; both wrap modulo `2^64`, and a position is turned into a storage
slot by `% RING_CAPACITY`. Since the capacity divides `2^64`, the wrap of the
positions never disturbs the slot they denote.

This module is the sequential reading of `ring_write` and `ring_read`: each
call runs to its end before the next starts. The copy into or out of the
storage is the code's pair of `memcpy`s, split where the window of slots
crosses the end of the storage; `writeSample_eq`, `readSample_eq` and their
frame versions give the copy in closed form, one slot per frame.
-/

namespace BungholeAudio

variable {α : Type}

/-! ## The capacity as a word -/

@[simp]
theorem toNat_ofNat_ringCapacity : (UInt64.ofNat ringCapacity).toNat = 8192 := rfl

/-! ## The ring and its operations -/

/-- `RingBuffer`: `samples` holds `RING_CAPACITY * NUM_CHANNELS` floats. -/
structure RingBuffer (α : Type) where
  samples : Nat → α
  head : UInt64
  tail : UInt64

/-- `ring_init`: zero the storage and both positions. -/
def ringInit [Zero α] (rb : RingBuffer α) : RingBuffer α :=
  { samples := memset rb.samples 0 (ringCapacity * numChannels) 0, head := 0, tail := 0 }

/-- `ring_available`: the frames written and not yet read. -/
def ringAvailable (rb : RingBuffer α) : UInt64 :=
  rb.head - rb.tail

/-- `ring_write`: copy up to `count` frames from `src` into the ring; the first
component is the number of frames actually written. -/
def ringWrite (rb : RingBuffer α) (src : Nat → α) (count : UInt64) : UInt64 × RingBuffer α :=
  let h := rb.head
  let t := rb.tail
  let free := UInt64.ofNat ringCapacity - (h - t)
  let count := if count > free then free else count
  if count = 0 then (0, rb) else
    let idx := h % UInt64.ofNat ringCapacity
    let first := UInt64.ofNat ringCapacity - idx
    let first := if first > count then count else first
    let samples := memcpy rb.samples (idx.toNat * numChannels) src 0 (first.toNat * numChannels)
    let samples := if count > first then
        memcpy samples 0 src (first.toNat * numChannels) ((count - first).toNat * numChannels)
      else samples
    (count, { rb with samples := samples, head := h + count })

/-- `ring_read`: copy up to `count` frames out of the ring into `dst`; the
components are the number of frames read, the ring, and `dst` afterwards. -/
def ringRead (rb : RingBuffer α) (dst : Nat → α) (count : UInt64) :
    UInt64 × RingBuffer α × (Nat → α) :=
  let h := rb.head
  let t := rb.tail
  let avail := h - t
  let count := if count > avail then avail else count
  if count = 0 then (0, rb, dst) else
    let idx := t % UInt64.ofNat ringCapacity
    let first := UInt64.ofNat ringCapacity - idx
    let first := if first > count then count else first
    let dst := memcpy dst 0 rb.samples (idx.toNat * numChannels) (first.toNat * numChannels)
    let dst := if count > first then
        memcpy dst (first.toNat * numChannels) rb.samples 0 ((count - first).toNat * numChannels)
      else dst
    (count, { rb with tail := t + count }, dst)

/-! ## The wrapping copy in closed form -/

/-- The two `memcpy`s of `ring_write` store sample `m` of `src` at storage
element `(2 * idx + m) % 16384`, for every `m` below `2 * count`. -/
theorem writeSample_eq {samples src : Nat → α} {idx first count e : Nat}
    (idxLt : idx < 8192) (firstEq : first = min (8192 - idx) count) (countLe : count ≤ 8192)
    (inStorage : e < 16384) :
    (if count > first then
        memcpy (memcpy samples (idx * 2) src 0 (first * 2)) 0 src (first * 2) ((count - first) * 2)
      else memcpy samples (idx * 2) src 0 (first * 2)) e =
      if (e + 16384 - idx * 2) % 16384 < count * 2 then src ((e + 16384 - idx * 2) % 16384)
      else samples e := by
  split <;> simp only [memcpy] <;> split_ifs <;> first | rfl | omega | (congr 1; omega)

/-- The two `memcpy`s of `ring_read` fill element `e` of `dst`, for every `e`
below `2 * count`, from storage element `(2 * idx + e) % 16384`. -/
theorem readSample_eq {samples dst : Nat → α} {idx first count e : Nat}
    (idxLt : idx < 8192) (firstEq : first = min (8192 - idx) count) (countLe : count ≤ 8192) :
    (if count > first then
        memcpy (memcpy dst 0 samples (idx * 2) (first * 2)) (first * 2) samples 0
          ((count - first) * 2)
      else memcpy dst 0 samples (idx * 2) (first * 2)) e =
      if e < count * 2 then samples ((idx * 2 + e) % 16384) else dst e := by
  split <;> simp only [memcpy] <;> split_ifs <;> first | rfl | omega | (congr 1; omega)

/-! ## Specification of `ring_write` -/

section Write

variable (rb : RingBuffer α) (src : Nat → α) (count : UInt64)

/-- The clamped count of `ring_write`, `min(count, RING_CAPACITY - available)`. -/
theorem toNat_writeClamp (bounded : (rb.head - rb.tail).toNat ≤ ringCapacity) :
    (if count > UInt64.ofNat ringCapacity - (rb.head - rb.tail) then
        UInt64.ofNat ringCapacity - (rb.head - rb.tail) else count).toNat =
      min count.toNat (ringCapacity - (rb.head - rb.tail).toNat) := by
  rw [toNat_clamp, toNat_sub_of_toNat_le (by simpa [ringCapacity] using bounded)]
  rfl

/-- The clamp on the copy's first part, `min(RING_CAPACITY - idx, count)`. -/
theorem toNat_firstClamp (idx w : UInt64) (idxLt : idx.toNat < 8192) :
    (if UInt64.ofNat ringCapacity - idx > w then w else UInt64.ofNat ringCapacity - idx).toNat =
      min (8192 - idx.toNat) w.toNat := by
  rw [toNat_clamp, toNat_sub_of_toNat_le (by simp only [toNat_ofNat_ringCapacity]; omega),
    toNat_ofNat_ringCapacity]

/-- The frames `ring_write` accepts: `min(count, RING_CAPACITY - available)`. -/
theorem ringWrite_fst_toNat (bounded : (rb.head - rb.tail).toNat ≤ ringCapacity) :
    (ringWrite rb src count).1.toNat =
      min count.toNat (ringCapacity - (rb.head - rb.tail).toNat) := by
  have clamped := toNat_writeClamp rb count bounded
  simp only [ringWrite]
  generalize (if count > UInt64.ofNat ringCapacity - (rb.head - rb.tail) then
    UInt64.ofNat ringCapacity - (rb.head - rb.tail) else count) = w at clamped ⊢
  split
  · rename_i zero
    rw [← clamped, zero]
  · exact clamped

theorem ringWrite_head :
    (ringWrite rb src count).2.head = rb.head + (ringWrite rb src count).1 := by
  simp only [ringWrite]
  generalize (if count > UInt64.ofNat ringCapacity - (rb.head - rb.tail) then
    UInt64.ofNat ringCapacity - (rb.head - rb.tail) else count) = w
  split
  · exact (u64_add_zero rb.head).symm
  · rfl

@[simp]
theorem ringWrite_tail : (ringWrite rb src count).2.tail = rb.tail := by
  simp only [ringWrite]
  generalize (if count > UInt64.ofNat ringCapacity - (rb.head - rb.tail) then
    UInt64.ofNat ringCapacity - (rb.head - rb.tail) else count) = w
  split <;> rfl

/-- `ring_write` stores frame `i` of `src`, for `i` below the count it returns,
at slot `(head + i) % RING_CAPACITY`, and keeps every other slot. -/
theorem frameAt_ringWrite (bounded : (rb.head - rb.tail).toNat ≤ ringCapacity)
    {s : Nat} (slot : s < ringCapacity) :
    frameAt (ringWrite rb src count).2.samples s =
      if (s + 8192 - rb.head.toNat % 8192) % 8192 < (ringWrite rb src count).1.toNat then
        frameAt src ((s + 8192 - rb.head.toNat % 8192) % 8192)
      else frameAt rb.samples s := by
  have clamped := toNat_writeClamp rb count bounded
  simp only [ringWrite]
  generalize (if count > UInt64.ofNat ringCapacity - (rb.head - rb.tail) then
    UInt64.ofNat ringCapacity - (rb.head - rb.tail) else count) = w at clamped ⊢
  simp only [ringCapacity] at slot clamped
  split
  · simp
  · have idxEq : (rb.head % UInt64.ofNat ringCapacity).toNat = rb.head.toNat % 8192 := by
      rw [UInt64.toNat_mod, toNat_ofNat_ringCapacity]
    have firstEq := toNat_firstClamp (rb.head % UInt64.ofNat ringCapacity) w (by omega)
    generalize (if UInt64.ofNat ringCapacity - rb.head % UInt64.ofNat ringCapacity > w then w
      else UInt64.ofNat ringCapacity - rb.head % UInt64.ofNat ringCapacity) = first at firstEq ⊢
    rw [idxEq] at firstEq
    have firstLe : first ≤ w := by rw [u64_le_iff]; omega
    have later : (w > first) = (w.toNat > first.toNat) := rfl
    simp only [frameAt, numChannels, idxEq, later, toNat_sub_of_toNat_le (u64_le_iff.mp firstLe)]
    rw [writeSample_eq (by omega) firstEq (by omega) (by omega),
      writeSample_eq (by omega) firstEq (by omega) (by omega)]
    split_ifs <;> first | rfl | omega | (congr 2 <;> omega)

end Write

/-! ## Specification of `ring_read` -/

section Read

variable (rb : RingBuffer α) (dst : Nat → α) (count : UInt64)

/-- The frames `ring_read` delivers: `min(count, available)`. -/
theorem ringRead_fst_toNat :
    (ringRead rb dst count).1.toNat = min count.toNat (rb.head - rb.tail).toNat := by
  have clamped := toNat_clamp count (rb.head - rb.tail)
  simp only [ringRead]
  generalize (if count > rb.head - rb.tail then rb.head - rb.tail else count) = r at clamped ⊢
  split
  · rename_i zero
    rw [← clamped, zero]
  · exact clamped

@[simp]
theorem ringRead_head : (ringRead rb dst count).2.1.head = rb.head := by
  simp only [ringRead]
  generalize (if count > rb.head - rb.tail then rb.head - rb.tail else count) = r
  split <;> rfl

@[simp]
theorem ringRead_samples : (ringRead rb dst count).2.1.samples = rb.samples := by
  simp only [ringRead]
  generalize (if count > rb.head - rb.tail then rb.head - rb.tail else count) = r
  split <;> rfl

theorem ringRead_tail :
    (ringRead rb dst count).2.1.tail = rb.tail + (ringRead rb dst count).1 := by
  simp only [ringRead]
  generalize (if count > rb.head - rb.tail then rb.head - rb.tail else count) = r
  split
  · exact (u64_add_zero rb.tail).symm
  · rfl

/-- `ring_read` fills exactly `dst[0 .. 2 * got)`, sample `e` from storage
element `(2 * (tail % RING_CAPACITY) + e) % (2 * RING_CAPACITY)`. -/
theorem ringRead_dst_apply (bounded : (rb.head - rb.tail).toNat ≤ ringCapacity) (e : Nat) :
    (ringRead rb dst count).2.2 e =
      if e < (ringRead rb dst count).1.toNat * 2 then
        rb.samples ((rb.tail.toNat % 8192 * 2 + e) % 16384)
      else dst e := by
  have clamped := toNat_clamp count (rb.head - rb.tail)
  simp only [ringRead]
  generalize (if count > rb.head - rb.tail then rb.head - rb.tail else count) = r at clamped ⊢
  simp only [ringCapacity] at bounded
  split
  · simp
  · have idxEq : (rb.tail % UInt64.ofNat ringCapacity).toNat = rb.tail.toNat % 8192 := by
      rw [UInt64.toNat_mod, toNat_ofNat_ringCapacity]
    have firstEq := toNat_firstClamp (rb.tail % UInt64.ofNat ringCapacity) r (by omega)
    generalize (if UInt64.ofNat ringCapacity - rb.tail % UInt64.ofNat ringCapacity > r then r
      else UInt64.ofNat ringCapacity - rb.tail % UInt64.ofNat ringCapacity) = first at firstEq ⊢
    rw [idxEq] at firstEq
    have firstLe : first ≤ r := by rw [u64_le_iff]; omega
    have later : (r > first) = (r.toNat > first.toNat) := rfl
    simp only [numChannels, idxEq, later, toNat_sub_of_toNat_le (u64_le_iff.mp firstLe)]
    exact readSample_eq (by omega) firstEq (by omega)

/-- Frame `i` of `dst`, for `i` below the count `ring_read` returns, is the
frame at slot `(tail + i) % RING_CAPACITY`; the other frames of `dst` are kept. -/
theorem frameAt_ringRead_dst (bounded : (rb.head - rb.tail).toNat ≤ ringCapacity) (i : Nat) :
    frameAt (ringRead rb dst count).2.2 i =
      if i < (ringRead rb dst count).1.toNat then
        frameAt rb.samples ((rb.tail.toNat + i) % 8192)
      else frameAt dst i := by
  simp only [frameAt, numChannels, ringRead_dst_apply rb dst count bounded]
  split_ifs <;> first | rfl | omega | (congr 2 <;> omega)

end Read

end BungholeAudio
