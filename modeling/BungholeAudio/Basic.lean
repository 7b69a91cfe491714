import Mathlib

/-!
# Compile-time constants and sample buffers

The driver is built for one fixed configuration: 48 kHz, two interleaved
32-bit float channels, an 8192-frame ring and 960-frame Opus packets. This
module fixes those constants and models a C buffer of samples as the value it
holds at each element index, with the two block operations the driver applies
to buffers, `memcpy` and `memset`.

The driver copies only whole samples, so both operations count in samples
rather than bytes, and a sample is any type `α`: the copies never look at the
values they move, which is what makes them bit-exact.
-/

namespace BungholeAudio

/-! ## Compile-time constants -/

/-- `SAMPLE_RATE`. -/
def sampleRate : Nat := 48000

/-- `NUM_CHANNELS`: samples in one interleaved frame. -/
def numChannels : Nat := 2

/-- `RING_CAPACITY`, in frames. -/
def ringCapacity : Nat := 8192

/-- `OPUS_FRAME_SIZE`: frames in one codec packet. -/
def opusFrameSize : Nat := 960

/-- `OPUS_MAX_PACKET`: the largest payload of one wire frame, in bytes. -/
def opusMaxPacket : Nat := 1500

/-- `CLOCK_PERIOD_FRAMES`: frames between two zero timestamps. -/
def clockPeriodFrames : Nat := 480

/-! ## Machine words

`uint64_t` arithmetic is `UInt64` arithmetic; these facts move it to `Nat`,
where `omega` decides it. -/

theorem u64_toNat_add (a b : UInt64) : (a + b).toNat = (a.toNat + b.toNat) % 2 ^ 64 := rfl

theorem u64_toNat_sub (a b : UInt64) : (a - b).toNat = (2 ^ 64 - b.toNat + a.toNat) % 2 ^ 64 :=
  rfl

theorem u64_toNat_lt (a : UInt64) : a.toNat < 2 ^ 64 := a.val.isLt

theorem u64_ext {a b : UInt64} (same : a.toNat = b.toNat) : a = b := UInt64.toNat.inj same

theorem u64_lt_iff {a b : UInt64} : a < b ↔ a.toNat < b.toNat := Iff.rfl

theorem u64_le_iff {a b : UInt64} : a ≤ b ↔ a.toNat ≤ b.toNat := Iff.rfl

theorem u64_eq_zero_iff {a : UInt64} : a = 0 ↔ a.toNat = 0 :=
  ⟨fun zero => by rw [zero]; rfl, fun zero => u64_ext zero⟩

theorem u64_add_zero (a : UInt64) : a + 0 = a :=
  u64_ext (by rw [u64_toNat_add]; exact Nat.mod_eq_of_lt (u64_toNat_lt a))

theorem u64_sub_self (a : UInt64) : a - a = 0 :=
  u64_ext (by have := u64_toNat_lt a; rw [u64_toNat_sub]; simp; omega)

theorem u64_add_one_sub (a : UInt64) : a + 1 - a = 1 :=
  u64_ext (by have := u64_toNat_lt a; rw [u64_toNat_sub, u64_toNat_add]; simp; omega)

theorem toNat_sub_of_toNat_le {a b : UInt64} (le : b.toNat ≤ a.toNat) :
    (a - b).toNat = a.toNat - b.toNat :=
  UInt64.toNat_sub_of_le a b le

/-- The clamp `if (a > b) a = b;` computes the minimum. -/
theorem toNat_clamp (a b : UInt64) : (if a > b then b else a).toNat = min a.toNat b.toNat := by
  split
  · rename_i larger
    rw [gt_iff_lt, u64_lt_iff] at larger
    omega
  · rename_i notLarger
    rw [gt_iff_lt, u64_lt_iff] at notLarger
    omega

/-! ## Sample buffers -/

/-- A `float`, as its IEEE-754 binary32 bit pattern. -/
structure Float32 where
  bits : UInt32
  deriving DecidableEq, Repr

/-- `+0.0f`, the pattern `memset(…, 0, …)` leaves. -/
instance : Zero Float32 := ⟨⟨0⟩⟩

variable {α : Type}

/-- `memcpy(dst + dstOff, src + srcOff, n * sizeof(float))`. -/
def memcpy (dst : Nat → α) (dstOff : Nat) (src : Nat → α) (srcOff n : Nat) : Nat → α :=
  fun i => if dstOff ≤ i ∧ i < dstOff + n then src (srcOff + (i - dstOff)) else dst i

/-- `memset(dst + off, 0, n * sizeof(float))`; `zero` is the all-zero sample. -/
def memset (dst : Nat → α) (off n : Nat) (zero : α) : Nat → α :=
  fun i => if off ≤ i ∧ i < off + n then zero else dst i

theorem memcpy_apply_of_lt {dst src : Nat → α} {dstOff srcOff n i : Nat}
    (below : i < dstOff) : memcpy dst dstOff src srcOff n i = dst i := by
  simp only [memcpy]
  rw [if_neg (by omega)]

theorem memcpy_apply_of_ge {dst src : Nat → α} {dstOff srcOff n i : Nat}
    (above : dstOff + n ≤ i) : memcpy dst dstOff src srcOff n i = dst i := by
  simp only [memcpy]
  rw [if_neg (by omega)]

theorem memcpy_apply_of_mem {dst src : Nat → α} {dstOff srcOff n i : Nat}
    (lower : dstOff ≤ i) (upper : i < dstOff + n) :
    memcpy dst dstOff src srcOff n i = src (srcOff + (i - dstOff)) := by
  simp only [memcpy]
  rw [if_pos ⟨lower, upper⟩]

/-- One stereo frame: the left and the right sample. -/
abbrev Frame (α : Type) := α × α

/-- The frame at frame index `j` of an interleaved buffer. -/
def frameAt (mem : Nat → α) (j : Nat) : Frame α :=
  (mem (j * numChannels), mem (j * numChannels + 1))

/-- The first `n` frames of an interleaved buffer, `mem[0 .. n * NUM_CHANNELS)`. -/
def framesOf (mem : Nat → α) (n : Nat) : List (Frame α) :=
  (List.range n).map (frameAt mem)

@[simp]
theorem length_framesOf (mem : Nat → α) (n : Nat) : (framesOf mem n).length = n := by
  simp [framesOf]

@[simp]
theorem getElem_framesOf (mem : Nat → α) (n j : Nat) (h : j < (framesOf mem n).length) :
    (framesOf mem n)[j] = frameAt mem j := by
  simp [framesOf]

theorem framesOf_congr {mem mem' : Nat → α} {n : Nat}
    (same : ∀ j, j < n → frameAt mem j = frameAt mem' j) :
    framesOf mem n = framesOf mem' n :=
  List.ext_getElem (by simp) fun j h _ => by simpa using same j (by simpa using h)

theorem framesOf_add (mem : Nat → α) (m n : Nat) :
    framesOf mem (m + n) = framesOf mem m ++ framesOf (fun i => mem (m * numChannels + i)) n := by
  refine List.ext_getElem (by simp) fun j h _ => ?_
  simp only [length_framesOf] at h
  by_cases low : j < m
  · rw [List.getElem_append_left (by simpa using low)]
    simp
  · rw [List.getElem_append_right (by simp; omega)]
    simp only [getElem_framesOf, frameAt, length_framesOf, numChannels]
    congr 2 <;> omega

/-- A list of frames stored interleaved from frame index `base` on; every other
sample of `dst` is kept. -/
def storeFrames (dst : Nat → α) (base : Nat) (frames : List (Frame α)) : Nat → α :=
  fun i =>
    if base * numChannels ≤ i then
      match frames[(i - base * numChannels) / numChannels]? with
      | some frame => if (i - base * numChannels) % numChannels = 0 then frame.1 else frame.2
      | none => dst i
    else dst i

theorem storeFrames_apply_of_lt {dst : Nat → α} {base : Nat} {frames : List (Frame α)}
    {i : Nat} (below : i < base * numChannels) : storeFrames dst base frames i = dst i := by
  simp only [storeFrames]
  rw [if_neg (by omega)]

theorem storeFrames_apply_of_ge {dst : Nat → α} {base : Nat} {frames : List (Frame α)}
    {i : Nat} (above : (base + frames.length) * numChannels ≤ i) :
    storeFrames dst base frames i = dst i := by
  simp only [storeFrames, numChannels] at *
  rw [if_pos (by omega), List.getElem?_eq_none (by omega)]

theorem frameAt_storeFrames (dst : Nat → α) (base : Nat) (frames : List (Frame α)) (j : Nat) :
    frameAt (storeFrames dst base frames) j =
      if h : base ≤ j ∧ j < base + frames.length then frames[j - base]
      else frameAt dst j := by
  simp only [frameAt, storeFrames, numChannels]
  by_cases inside : base ≤ j ∧ j < base + frames.length
  · have first : (j * 2 - base * 2) / 2 = j - base := by omega
    have second : (j * 2 + 1 - base * 2) / 2 = j - base := by omega
    have even : (j * 2 - base * 2) % 2 = 0 := by omega
    have odd : (j * 2 + 1 - base * 2) % 2 ≠ 0 := by omega
    rw [dif_pos inside, if_pos (by omega), if_pos (by omega), first, second,
      List.getElem?_eq_getElem (by omega)]
    simp [even, odd]
  · rw [dif_neg inside]
    by_cases low : j < base
    · rw [if_neg (by omega), if_neg (by omega)]
    · rw [if_pos (by omega), if_pos (by omega), List.getElem?_eq_none (by omega),
        List.getElem?_eq_none (by omega)]

theorem framesOf_storeFrames (dst : Nat → α) (frames : List (Frame α)) :
    framesOf (storeFrames dst 0 frames) frames.length = frames :=
  List.ext_getElem (by simp) fun j h _ => by
    simp only [length_framesOf] at h
    simp [frameAt_storeFrames, h]

/-! ## Byte buffers -/

/-- A byte buffer after `bytes` have been stored at its start. -/
def storeBytes (buf : Nat → UInt8) (bytes : List UInt8) : Nat → UInt8 :=
  fun i => bytes.getD i (buf i)

theorem storeBytes_apply_of_lt {buf : Nat → UInt8} {bytes : List UInt8} {i : Nat}
    (inside : i < bytes.length) : storeBytes buf bytes i = bytes[i] :=
  List.getD_eq_getElem _ _ inside

theorem storeBytes_apply_of_ge {buf : Nat → UInt8} {bytes : List UInt8} {i : Nat}
    (outside : bytes.length ≤ i) : storeBytes buf bytes i = buf i :=
  List.getD_eq_default _ _ outside

/-- The bytes stored are the bytes read back. -/
theorem map_range_storeBytes (buf : Nat → UInt8) (bytes : List UInt8) :
    (List.range bytes.length).map (storeBytes buf bytes) = bytes :=
  List.ext_getElem (by simp) fun i _ inside => by
    simp only [List.getElem_map, List.getElem_range]
    exact storeBytes_apply_of_lt inside

end BungholeAudio
