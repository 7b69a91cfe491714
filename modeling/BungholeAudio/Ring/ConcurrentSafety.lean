import BungholeAudio.Ring.Concurrent

/-!
# Safety of the interleaved ring

`SpscInv` ties the shared positions to the two logs: `head` is the number of
accepted frames modulo `2^64`, `tail` the number of delivered frames, the
delivered frames are a prefix of the accepted ones, and every accepted frame
not yet delivered sits in its slot. `ProducerInv` and `ConsumerInv` say what
each thread's snapshot and partial copy mean.

Each side reads its own position exactly and the other's possibly stale, but a
stale `tail` only makes the producer more careful and a stale `head` only
makes the consumer read less: `consumerInv_of_produce` and
`producerInv_of_consume` are those two monotonicity facts. With them, every
scheduler choice preserves the invariant (`spscStep_inv`), and so does every
schedule (`spscRun_inv`).
-/

namespace BungholeAudio

variable {α : Type}

/-! ## The invariant -/

/-- What the producer's locals say about the shared state. -/
def ProducerInv (s : Spsc α) : Prop :=
  match s.producer with
  | .idle => True
  | .loadHead _ _ => True
  | .loadTail _ _ h => h = s.head
  | .copy src h count copied =>
    h = s.head ∧ copied ≤ count.toNat ∧
      s.accepted.length + count.toNat ≤ s.delivered.length + 8192 ∧
      ∀ m, m < copied → frameAt s.samples ((s.accepted.length + m) % 8192) = frameAt src m

/-- What the consumer's locals say about the shared state: its `head`
snapshot lies between the frames delivered and the frames accepted, and the
frames it copied are the next accepted ones. -/
def ConsumerInv (s : Spsc α) : Prop :=
  match s.consumer with
  | .idle => True
  | .loadHead _ _ => True
  | .loadTail _ _ h =>
    ∃ n, s.delivered.length ≤ n ∧ n ≤ s.accepted.length ∧ h.toNat = n % 2 ^ 64
  | .copy dst t count copied =>
    t = s.tail ∧ copied ≤ count.toNat ∧ s.delivered.length + count.toNat ≤ s.accepted.length ∧
      ∀ m, m < copied → s.accepted[s.delivered.length + m]? = some (frameAt dst m)

/-- The invariant of the interleaved ring. -/
structure SpscInv (s : Spsc α) : Prop where
  head_toNat : s.head.toNat = s.accepted.length % 2 ^ 64
  tail_toNat : s.tail.toNat = s.delivered.length % 2 ^ 64
  isPrefix : s.delivered <+: s.accepted
  length_le : s.accepted.length ≤ s.delivered.length + 8192
  stored : ∀ j, s.delivered.length ≤ j → j < s.accepted.length →
    s.accepted[j]? = some (frameAt s.samples (j % 8192))
  producer : ProducerInv s
  consumer : ConsumerInv s

theorem spscInit_inv [Zero α] (rb : RingBuffer α) : SpscInv (spscInit rb) where
  head_toNat := rfl
  tail_toNat := rfl
  isPrefix := List.prefix_refl []
  length_le := Nat.zero_le _
  stored := fun _ _ outside => absurd outside (Nat.not_lt_zero _)
  producer := trivial
  consumer := trivial

section Lemmas

variable {s : Spsc α}

/-- `head - tail` modulo `2^64` is the number of frames accepted and not delivered. -/
theorem SpscInv.available (inv : SpscInv s) :
    (s.head - s.tail).toNat = s.accepted.length - s.delivered.length := by
  have shorter := inv.isPrefix.length_le
  have bound := inv.length_le
  rw [u64_toNat_sub, inv.head_toNat, inv.tail_toNat]
  omega

/-- A producer step cannot break what the consumer's locals promise: it only
appends to `accepted`. -/
theorem consumerInv_of_produce {s' : Spsc α} (inv : ConsumerInv s)
    (consumerEq : s'.consumer = s.consumer) (tailEq : s'.tail = s.tail)
    (deliveredEq : s'.delivered = s.delivered) (grows : s.accepted <+: s'.accepted) :
    ConsumerInv s' := by
  obtain ⟨extra, acceptedEq⟩ := grows
  unfold ConsumerInv at inv ⊢
  rw [consumerEq, tailEq, deliveredEq, ← acceptedEq]
  split at inv
  · trivial
  · trivial
  · obtain ⟨n, low, high, snapshot⟩ := inv
    exact ⟨n, low, by simp; omega, snapshot⟩
  · obtain ⟨own, copiedLe, within, copiedOk⟩ := inv
    refine ⟨own, copiedLe, by simp; omega, fun m inCopy => ?_⟩
    rw [List.getElem?_append_left (by omega)]
    exact copiedOk m inCopy

/-- A consumer step cannot break what the producer's locals promise: it only
appends to `delivered`. -/
theorem producerInv_of_consume {s' : Spsc α} (inv : ProducerInv s)
    (producerEq : s'.producer = s.producer) (headEq : s'.head = s.head)
    (samplesEq : s'.samples = s.samples) (acceptedEq : s'.accepted = s.accepted)
    (grows : s.delivered.length ≤ s'.delivered.length) : ProducerInv s' := by
  unfold ProducerInv at inv ⊢
  rw [producerEq, headEq, samplesEq, acceptedEq]
  split at inv
  · trivial
  · trivial
  · exact inv
  · obtain ⟨own, copiedLe, within, copiedOk⟩ := inv
    exact ⟨own, copiedLe, by omega, copiedOk⟩

end Lemmas

/-! ## One step of each thread -/

section Steps

variable {s : Spsc α}

/-- The producer's copy of frame `copied` into the slot after the accepted
frames keeps every accepted, undelivered frame and extends its own copy. -/
theorem producer_copy_inv {src : Nat → α} {h count : UInt64} {copied : Nat} (inv : SpscInv s)
    (pc : s.producer = .copy src h count copied) (more : copied < count.toNat) :
    SpscInv { s with
      samples := storeFrames s.samples (copySlot h count copied) [frameAt src copied],
      producer := .copy src h count (copied + 1) } := by
  have producerInv := inv.producer
  simp only [ProducerInv, pc] at producerInv
  obtain ⟨own, copiedLe, within, copiedOk⟩ := producerInv
  have shorter := inv.isPrefix.length_le
  have slotEq : copySlot h count copied = (s.accepted.length + copied) % 8192 := by
    rw [copySlot_eq (by simp only [ringCapacity]; omega) more, own, inv.head_toNat]
    omega
  have keeps : ∀ n, s.delivered.length ≤ n → n < s.accepted.length + copied →
      frameAt (storeFrames s.samples (copySlot h count copied) [frameAt src copied]) (n % 8192) =
        frameAt s.samples (n % 8192) := fun n low high => by
    rw [frameAt_storeFrames, dif_neg (by rw [slotEq, List.length_singleton]; omega)]
  refine ⟨inv.head_toNat, inv.tail_toNat, inv.isPrefix, inv.length_le, fun j low high => ?_, ?_,
    inv.consumer⟩
  · dsimp only at low high ⊢
    rw [inv.stored j low high, keeps j low (by omega)]
  · simp only [ProducerInv]
    refine ⟨own, more, within, fun m inCopy => ?_⟩
    by_cases old : m < copied
    · rw [keeps (s.accepted.length + m) (by omega) (by omega)]
      exact copiedOk m old
    · obtain rfl : m = copied := by omega
      rw [frameAt_storeFrames, dif_pos (by rw [slotEq, List.length_singleton]; omega)]
      simp [slotEq]

/-- Storing `head` publishes the copied frames: they join `accepted`. -/
theorem producer_store_inv {src : Nat → α} {h count : UInt64} {copied : Nat} (inv : SpscInv s)
    (pc : s.producer = .copy src h count copied) (done : ¬copied < count.toNat) :
    SpscInv { s with head := h + count, producer := .idle,
                     accepted := s.accepted ++ framesOf src count.toNat } := by
  have producerInv := inv.producer
  simp only [ProducerInv, pc] at producerInv
  obtain ⟨own, copiedLe, within, copiedOk⟩ := producerInv
  have shorter := inv.isPrefix.length_le
  refine ⟨?_, inv.tail_toNat, inv.isPrefix.trans (List.prefix_append _ _), by simp; omega,
    fun j low high => ?_, trivial,
    consumerInv_of_produce inv.consumer rfl rfl rfl (List.prefix_append _ _)⟩
  · dsimp only
    rw [u64_toNat_add, own, inv.head_toNat, List.length_append, length_framesOf]
    omega
  · dsimp only at low high ⊢
    simp only [List.length_append, length_framesOf] at high
    by_cases old : j < s.accepted.length
    · rw [List.getElem?_append_left old]
      exact inv.stored j low old
    · rw [List.getElem?_append_right (by omega), List.getElem?_eq_getElem (by simp; omega),
        getElem_framesOf]
      have copiedFrame := copiedOk (j - s.accepted.length) (by omega)
      rw [Nat.add_sub_cancel' (by omega)] at copiedFrame
      rw [copiedFrame]

/-- Loading `tail` fixes how many frames the call accepts: never more than
the slots that the consumer, as far as the producer knows, has freed. -/
theorem producer_loadTail_inv {src : Nat → α} {count h : UInt64} (inv : SpscInv s)
    (pc : s.producer = .loadTail src count h) : SpscInv (producerStep s) := by
  have own : h = s.head := by
    have producerInv := inv.producer
    simpa only [ProducerInv, pc] using producerInv
  subst own
  have shorter := inv.isPrefix.length_le
  have bound := inv.length_le
  have clamp := toNat_clamp count (UInt64.ofNat ringCapacity - (s.head - s.tail))
  rw [toNat_sub_of_toNat_le (by rw [inv.available, toNat_ofNat_ringCapacity]; omega),
    inv.available, toNat_ofNat_ringCapacity] at clamp
  simp only [producerStep, pc]
  generalize (if count > UInt64.ofNat ringCapacity - (s.head - s.tail) then
    UInt64.ofNat ringCapacity - (s.head - s.tail) else count) = c at clamp ⊢
  split
  · exact { inv with producer := trivial }
  · rename_i nonzero
    rw [u64_eq_zero_iff] at nonzero
    refine { inv with producer := ?_ }
    dsimp only [ProducerInv]
    exact ⟨rfl, Nat.zero_le _, by omega, fun m none => absurd none (Nat.not_lt_zero m)⟩

/-- Every producer step preserves the invariant. -/
theorem producerStep_inv (inv : SpscInv s) : SpscInv (producerStep s) := by
  cases pc : s.producer with
  | idle => simpa only [producerStep, pc] using inv
  | loadHead src count =>
    simp only [producerStep, pc]
    exact { inv with producer := rfl }
  | loadTail src count h => exact producer_loadTail_inv inv pc
  | copy src h count copied =>
    simp only [producerStep, pc]
    split
    · exact producer_copy_inv inv pc ‹_›
    · exact producer_store_inv inv pc ‹_›

/-- Loading `tail` fixes how many frames the call reads: never more than the
frames accepted when the consumer loaded `head`. -/
theorem consumer_loadTail_inv {dst : Nat → α} {count h : UInt64} (inv : SpscInv s)
    (pc : s.consumer = .loadTail dst count h) : SpscInv (consumerStep s) := by
  have consumerInv := inv.consumer
  simp only [ConsumerInv, pc] at consumerInv
  obtain ⟨n, low, high, snapshot⟩ := consumerInv
  have bound := inv.length_le
  have clamp := toNat_clamp count (h - s.tail)
  rw [u64_toNat_sub, snapshot, inv.tail_toNat] at clamp
  simp only [consumerStep, pc]
  generalize (if count > h - s.tail then h - s.tail else count) = c at clamp ⊢
  split
  · exact { inv with consumer := trivial }
  · refine { inv with consumer := ?_ }
    dsimp only [ConsumerInv]
    exact ⟨rfl, Nat.zero_le _, by omega, fun m none => absurd none (Nat.not_lt_zero m)⟩

/-- The consumer's copy of frame `copied` takes the next accepted frame. -/
theorem consumer_copy_inv {dst : Nat → α} {t count : UInt64} {copied : Nat} (inv : SpscInv s)
    (pc : s.consumer = .copy dst t count copied) (more : copied < count.toNat) :
    SpscInv (consumerStep s) := by
  have consumerInv := inv.consumer
  simp only [ConsumerInv, pc] at consumerInv
  obtain ⟨own, copiedLe, within, copiedOk⟩ := consumerInv
  have bound := inv.length_le
  have slotEq : copySlot t count copied = (s.delivered.length + copied) % 8192 := by
    rw [copySlot_eq (by simp only [ringCapacity]; omega) more, own, inv.tail_toNat]
    omega
  simp only [consumerStep, pc, if_pos more]
  refine { inv with consumer := ?_ }
  dsimp only [ConsumerInv]
  refine ⟨own, more, within, fun m inCopy => ?_⟩
  rw [frameAt_storeFrames]
  by_cases old : m < copied
  · rw [dif_neg (by simp; omega)]
    exact copiedOk m old
  · obtain rfl : m = copied := by omega
    rw [dif_pos (by simp), slotEq]
    simpa using inv.stored (s.delivered.length + m) (by omega) (by omega)

/-- Storing `tail` hands the copied frames back: they join `delivered`, and
they are the accepted frames right after the ones delivered before. -/
theorem consumer_store_inv {dst : Nat → α} {t count : UInt64} {copied : Nat} (inv : SpscInv s)
    (pc : s.consumer = .copy dst t count copied) (done : ¬copied < count.toNat) :
    SpscInv (consumerStep s) := by
  have consumerInv := inv.consumer
  simp only [ConsumerInv, pc] at consumerInv
  obtain ⟨own, copiedLe, within, copiedOk⟩ := consumerInv
  obtain ⟨rest, acceptedEq⟩ := inv.isPrefix
  have restStart : framesOf dst count.toNat = rest.take count.toNat := by
    refine List.ext_getElem? fun m => ?_
    by_cases inCall : m < count.toNat
    · have next := copiedOk m (by omega)
      rw [← acceptedEq, List.getElem?_append_right (by omega), Nat.add_sub_cancel_left] at next
      rw [List.getElem?_take_of_lt inCall, next, List.getElem?_eq_getElem (by simpa using inCall),
        getElem_framesOf]
    · rw [List.getElem?_eq_none (by simp; omega), List.getElem?_eq_none (by simp; omega)]
  have bound := inv.length_le
  simp only [consumerStep, pc, if_neg done]
  refine ⟨inv.head_toNat, ?_, ?_, by simp; omega, fun j low high => ?_,
    producerInv_of_consume inv.producer rfl rfl rfl rfl (by simp), trivial⟩
  · dsimp only
    rw [u64_toNat_add, own, inv.tail_toNat, List.length_append, length_framesOf]
    omega
  · dsimp only
    rw [restStart, ← acceptedEq]
    exact (List.prefix_append_right_inj _).mpr (List.take_prefix _ _)
  · dsimp only at low high ⊢
    simp only [List.length_append, length_framesOf] at low
    exact inv.stored j (by omega) high

/-- Every consumer step preserves the invariant. -/
theorem consumerStep_inv (inv : SpscInv s) : SpscInv (consumerStep s) := by
  cases pc : s.consumer with
  | idle => simpa only [consumerStep, pc] using inv
  | loadHead dst count =>
    simp only [consumerStep, pc]
    refine { inv with consumer := ?_ }
    dsimp only [ConsumerInv]
    exact ⟨s.accepted.length, inv.isPrefix.length_le, le_refl _, inv.head_toNat⟩
  | loadTail dst count h => exact consumer_loadTail_inv inv pc
  | copy dst t count copied =>
    by_cases more : copied < count.toNat
    · exact consumer_copy_inv inv pc more
    · exact consumer_store_inv inv pc more

/-- Every scheduler choice preserves the invariant. -/
theorem spscStep_inv (inv : SpscInv s) (action : SpscAction α) : SpscInv (spscStep s action) := by
  cases action with
  | write src count =>
    simp only [spscStep]
    split
    · exact { inv with producer := trivial }
    · exact inv
  | produce => exact producerStep_inv inv
  | read dst count =>
    simp only [spscStep]
    split
    · exact { inv with consumer := trivial }
    · exact inv
  | consume => exact consumerStep_inv inv

/-- Every schedule preserves the invariant. -/
theorem spscRun_inv (inv : SpscInv s) (actions : List (SpscAction α)) :
    SpscInv (spscRun s actions) := by
  induction actions generalizing s with
  | nil => exact inv
  | cons action actions ih => exact ih (spscStep_inv inv action)

end Steps

/-! ## Every schedule -/

/-- For every schedule of one producer and one consumer after `ring_init`:
the stored `head` and `tail` are, modulo `2^64`, the numbers of frames accepted
by completed `ring_write` calls and handed back by completed `ring_read` calls,
and these unwrapped counts satisfy `tail ≤ head ≤ tail + RING_CAPACITY`; the
ring never holds more than `RING_CAPACITY` frames, `head - tail` counted modulo
`2^64`; while both threads are copying, the slots of the producer's window
`[h, h + w)` and of the consumer's window `[t, t + r)` are disjoint; and the
frames handed back are a prefix of the frames accepted, bit for bit. -/
theorem spsc_safe [Zero α] (rb : RingBuffer α) (actions : List (SpscAction α)) :
    let s := spscRun (spscInit rb) actions
    (s.head.toNat = s.accepted.length % 2 ^ 64 ∧ s.tail.toNat = s.delivered.length % 2 ^ 64 ∧
      s.delivered.length ≤ s.accepted.length ∧ s.accepted.length ≤ s.delivered.length + ringCapacity) ∧
      (s.head - s.tail).toNat ≤ ringCapacity ∧
      (∀ src h w copiedByProducer dst t r copiedByConsumer,
        s.producer = .copy src h w copiedByProducer → s.consumer = .copy dst t r copiedByConsumer →
        ∀ i, i < w.toNat → ∀ j, j < r.toNat →
          (h.toNat + i) % ringCapacity ≠ (t.toNat + j) % ringCapacity) ∧
      s.delivered <+: s.accepted := by
  intro s
  have inv : SpscInv s := spscRun_inv (spscInit_inv rb) actions
  refine ⟨⟨inv.head_toNat, inv.tail_toNat, inv.isPrefix.length_le, inv.length_le⟩, ?_,
    fun src h w _ dst t r _ producing consuming i inWrite j inRead => ?_, inv.isPrefix⟩
  · have bound := inv.length_le
    rw [inv.available]
    simp only [ringCapacity]
    omega
  · have producerInv := inv.producer
    have consumerInv := inv.consumer
    simp only [ProducerInv, producing] at producerInv
    simp only [ConsumerInv, consuming] at consumerInv
    obtain ⟨producerHead, -, producerRoom, -⟩ := producerInv
    obtain ⟨consumerTail, -, consumerRoom, -⟩ := consumerInv
    rw [producerHead, consumerTail, inv.head_toNat, inv.tail_toNat]
    simp only [ringCapacity]
    omega

/-! ## The positions wrap -/

/-- The producer writes one frame, alone. -/
def oneFrameWrite (src : Nat → α) : List (SpscAction α) :=
  [.write src 1, .produce, .produce, .produce, .produce]

/-- The consumer reads one frame, alone. -/
def oneFrameRead (dst : Nat → α) : List (SpscAction α) :=
  [.read dst 1, .consume, .consume, .consume, .consume]

theorem oneFrameWrite_run {s : Spsc α} (src : Nat → α) (idle : s.producer = .idle)
    (empty : s.head = s.tail) :
    (spscRun s (oneFrameWrite src)).producer = .idle ∧
      (spscRun s (oneFrameWrite src)).consumer = s.consumer ∧
      (spscRun s (oneFrameWrite src)).head = s.head + 1 ∧
      (spscRun s (oneFrameWrite src)).tail = s.tail := by
  have clamp : (if (1 : UInt64) > UInt64.ofNat ringCapacity - 0 then
      UInt64.ofNat ringCapacity - 0 else 1) = 1 := by decide
  have oneNe : ((1 : UInt64) = 0) = False := by decide
  have copyOne : (0 < (1 : UInt64).toNat) = True := by decide
  have copyDone : (1 < (1 : UInt64).toNat) = False := by decide
  simp only [oneFrameWrite, spscRun, spscStep, idle, producerStep, empty, u64_sub_self, clamp,
    oneNe, if_false, copyOne, if_true, zero_add, copyDone, and_self]

theorem oneFrameRead_run {s : Spsc α} (dst : Nat → α) (idle : s.consumer = .idle)
    (one : s.head = s.tail + 1) :
    (spscRun s (oneFrameRead dst)).consumer = .idle ∧
      (spscRun s (oneFrameRead dst)).producer = s.producer ∧
      (spscRun s (oneFrameRead dst)).head = s.head ∧
      (spscRun s (oneFrameRead dst)).tail = s.tail + 1 := by
  have clamp : (if (1 : UInt64) > 1 then 1 else 1) = (1 : UInt64) := by decide
  have oneNe : ((1 : UInt64) = 0) = False := by decide
  have copyOne : (0 < (1 : UInt64).toNat) = True := by decide
  have copyDone : (1 < (1 : UInt64).toNat) = False := by decide
  simp only [oneFrameRead, spscRun, spscStep, idle, consumerStep, one, u64_add_one_sub, clamp,
    oneNe, if_false, copyOne, if_true, zero_add, copyDone, and_self]

/-- `n` rounds of one frame written and read back move both positions by `n`,
modulo `2^64`. -/
theorem oneFrameRounds_run (src dst : Nat → α) (n : Nat) {s : Spsc α}
    (producerIdle : s.producer = .idle) (consumerIdle : s.consumer = .idle)
    (empty : s.head = s.tail) :
    let rounds := spscRun s (List.replicate n (oneFrameWrite src ++ oneFrameRead dst)).flatten
    rounds.producer = .idle ∧ rounds.consumer = .idle ∧ rounds.head = rounds.tail ∧
      rounds.tail.toNat = (s.tail.toNat + n) % 2 ^ 64 := by
  induction n generalizing s with
  | zero => exact ⟨producerIdle, consumerIdle, empty, (Nat.mod_eq_of_lt (u64_toNat_lt _)).symm⟩
  | succ n ih =>
    obtain ⟨wrote, consumerKept, headMoved, tailKept⟩ := oneFrameWrite_run src producerIdle empty
    obtain ⟨read, producerKept, headKept, tailMoved⟩ :=
      @oneFrameRead_run _ (spscRun s (oneFrameWrite src)) dst (by rw [consumerKept, consumerIdle])
        (by rw [headMoved, tailKept, empty])
    simp only [List.replicate_succ, List.flatten_cons, spscRun_append]
    obtain ⟨idleAgain, consumerAgain, emptyAgain, tailNat⟩ :=
      ih (by rw [producerKept, wrote]) read (by rw [headKept, tailMoved, headMoved, tailKept, empty])
    refine ⟨idleAgain, consumerAgain, emptyAgain, ?_⟩
    have oneNat : (1 : UInt64).toNat = 1 := rfl
    rw [tailNat, tailMoved, u64_toNat_add, tailKept, oneNat]
    omega

/-- `2^64 - 1` rounds of one frame, then one more frame written: `head` wraps
to zero while `tail` is at `2^64 - 1`. -/
def wrapSchedule (src dst : Nat → α) : List (SpscAction α) :=
  (List.replicate (2 ^ 64 - 1) (oneFrameWrite src ++ oneFrameRead dst)).flatten ++ oneFrameWrite src

/-- The positions are 64-bit words: after `wrapSchedule`, reached by a
legitimate schedule from `ring_init`, `tail ≤ head` no longer holds between the
stored words, although the ring holds exactly one frame. -/
theorem spsc_tail_le_head_fails :
    let s := spscRun (spscInit (⟨fun _ => 0, 0, 0⟩ : RingBuffer Float32))
      (wrapSchedule (fun _ => 0) (fun _ => 0))
    ¬(s.tail ≤ s.head ∧ s.head ≤ s.tail + 8192) := by
  obtain ⟨producerIdle, -, empty, tailNat⟩ :=
    @oneFrameRounds_run Float32 (fun _ => 0) (fun _ => 0) (2 ^ 64 - 1)
      (spscInit (⟨fun _ => 0, 0, 0⟩ : RingBuffer Float32)) rfl rfl rfl
  obtain ⟨-, -, headMoved, tailKept⟩ := oneFrameWrite_run (fun _ => (0 : Float32)) producerIdle empty
  have startNat : (spscInit (⟨fun _ => 0, 0, 0⟩ : RingBuffer Float32)).tail.toNat = 0 := rfl
  have oneNat : (1 : UInt64).toNat = 1 := rfl
  simp only [wrapSchedule, spscRun_append]
  rintro ⟨tailLe, -⟩
  rw [u64_le_iff, headMoved, tailKept, u64_toNat_add, empty, tailNat, startNat, oneNat] at tailLe
  omega

end BungholeAudio
