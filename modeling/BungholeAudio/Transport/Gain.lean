import BungholeAudio.Plugin.Volume

/-!
# The gain stage at the codec boundary

Before `opus_encode`, `output_transport_thread` scales every sample of the
block by the output gain and converts it to `int16_t`:

    float s = pcm[i] * gain * 32767.0f;
    if (s > 32767.0f) s = 32767.0f;
    if (s < -32768.0f) s = -32768.0f;
    pcm16[i] = (int16_t)s;

with `gain = mute ? 0.0f : vol`. The conversion `(int16_t)s` truncates toward
zero, and C leaves it undefined when the truncated value does not fit in
`int16_t` (C11 6.3.1.4), so for a NaN and for an infinity. `Float32.toInt16`
models it as an `Option`, `none` standing for undefined behaviour.

The two clamps bring every value that is not a NaN into
`[-32768.0f, 32767.0f]`, where the conversion is defined; a NaN passes both
comparisons unchanged (`egressSample_defined_iff`). The multiplication is
`FloatOps.mul`. The results that need more of it assume IEEE 754's rule for a
product that is a NaN (`Float32.mulIsNaN`): then a block converts without
undefined behaviour exactly when no sample is a NaN and no infinite sample
meets a zero gain, and once `driver_SetPropertyData` has stored a NaN gain, no
sample of any block converts.
-/

namespace BungholeAudio

namespace Float32

/-- `x` is `+inf` or `-inf`. -/
def isInf (x : Float32) : Bool := x.exponent == 255 && x.fraction == 0

/-- `x` is `+0.0f` or `-0.0f`. -/
def isZero (x : Float32) : Bool := x.exponent == 0 && x.fraction == 0

/-- The number a finite float stands for: subnormal when the exponent field is
zero, normal otherwise. -/
def value (x : Float32) : ℚ :=
  (if x.sign then -1 else 1) *
    if x.exponent = 0 then (x.fraction : ℚ) / 2 ^ 149
    else ((2 ^ 23 + x.fraction : ℕ) : ℚ) * 2 ^ x.exponent / 2 ^ 150

/-- `|x|` truncated to an integer, read off the fields: a subnormal truncates
to `0`. -/
def truncMagnitude (x : Float32) : Nat :=
  if x.exponent = 0 then 0 else (2 ^ 23 + x.fraction) * 2 ^ x.exponent / 2 ^ 150

/-- The conversion `(int16_t)x`: truncation toward zero, and `none` where C
leaves it undefined: a NaN, an infinity, or a value whose truncation lies
outside `[-32768, 32767]`. -/
def toInt16 (x : Float32) : Option Int :=
  if x.exponent = 255 then none
  else
    let v : Int := if x.sign then -(x.truncMagnitude : Int) else x.truncMagnitude
    if -32768 ≤ v ∧ v ≤ 32767 then some v else none

/-- IEEE 754's rule for when a product is a NaN: an operand is a NaN, or a zero
meets an infinity. -/
def mulIsNaN (a b : Float32) : Bool :=
  a.isNaN || b.isNaN || (a.isZero && b.isInf) || (a.isInf && b.isZero)

end Float32

/-- `32767.0f`. -/
def sampleMaxF : Float32 := ⟨0x46FFFE00⟩

/-- `-32768.0f`. -/
def sampleMinF : Float32 := ⟨0xC7000000⟩

/-- `mute ? 0.0f : vol`, the gain both transport threads apply. -/
def threadGain (vol : Float32) (mute : Int) : Float32 := if mute ≠ 0 then 0 else vol

/-- `if (s > 32767.0f) s = 32767.0f; if (s < -32768.0f) s = -32768.0f;` -/
def clampSample (s : Float32) : Float32 :=
  let s := if sampleMaxF.lt s then sampleMaxF else s
  if s.lt sampleMinF then sampleMinF else s

/-- One pass of the conversion loop of `output_transport_thread`, on the
sample `x`. -/
def egressSample (ops : FloatOps) (gain x : Float32) : Option Int :=
  (clampSample (ops.mul (ops.mul x gain) sampleMaxF)).toInt16

/-- The conversion loop over the `OPUS_FRAME_SIZE * NUM_CHANNELS` samples of
`pcm`, with the gain read from `vol` and `mute`: `pcm16`, with `none` at a
sample whose conversion is undefined. -/
def egressConvert (ops : FloatOps) (vol : Float32) (mute : Int) (pcm : Nat → Float32) :
    List (Option Int) :=
  (List.range (opusFrameSize * numChannels)).map fun i => egressSample ops (threadGain vol mute) (pcm i)

/-! ## Truncation -/

namespace Float32

/-- The bits below the sign are the exponent field followed by the fraction field. -/
theorem magnitude_bits (x : Float32) : x.bits.toNat % 2 ^ 31 = x.exponent * 2 ^ 23 + x.fraction := by
  have bounded := x.bits.toNat_lt_size
  simp only [exponent, fraction, UInt32.size] at bounded ⊢
  omega

/-- `truncMagnitude` is the floor of `|value|`: the model of `(int16_t)` truncates. -/
theorem truncMagnitude_eq_floor (x : Float32) : x.truncMagnitude = ⌊|x.value|⌋₊ := by
  have inner : |x.value| = if x.exponent = 0 then (x.fraction : ℚ) / 2 ^ 149
      else ((2 ^ 23 + x.fraction : ℕ) : ℚ) * 2 ^ x.exponent / 2 ^ 150 := by
    have signAbs : |(if x.sign then -1 else 1 : ℚ)| = 1 := by split_ifs <;> simp
    rw [value, abs_mul, signAbs, one_mul, abs_of_nonneg (by split_ifs <;> positivity)]
  have fractionLt : x.fraction < 2 ^ 149 :=
    (Nat.mod_lt _ (by positivity)).trans (Nat.pow_lt_pow_right (by norm_num) (by norm_num))
  rw [truncMagnitude, inner]
  split_ifs
  · rw [show (x.fraction : ℚ) / 2 ^ 149 = ((x.fraction : ℕ) : ℚ) / ((2 ^ 149 : ℕ) : ℚ) by norm_num,
      Nat.floor_div_eq_div, Nat.div_eq_of_lt fractionLt]
  · rw [show ((2 ^ 23 + x.fraction : ℕ) : ℚ) * 2 ^ x.exponent / 2 ^ 150 =
        (((2 ^ 23 + x.fraction) * 2 ^ x.exponent : ℕ) : ℚ) / ((2 ^ 150 : ℕ) : ℚ) by norm_num,
      Nat.floor_div_eq_div]

/-- A float below another in magnitude truncates to no more. -/
theorem truncMagnitude_mono {x y : Float32} (smaller : x.bits.toNat % 2 ^ 31 ≤ y.bits.toNat % 2 ^ 31) :
    x.truncMagnitude ≤ y.truncMagnitude := by
  rw [magnitude_bits, magnitude_bits] at smaller
  have xFraction : x.fraction < 2 ^ 23 := Nat.mod_lt _ (by norm_num)
  have yFraction : y.fraction < 2 ^ 23 := Nat.mod_lt _ (by norm_num)
  unfold truncMagnitude
  split_ifs with xZero yZero
  · exact le_refl 0
  · exact Nat.zero_le _
  · omega
  · apply Nat.div_le_div_right
    rcases Nat.lt_or_ge x.exponent y.exponent with lower | same
    · calc (2 ^ 23 + x.fraction) * 2 ^ x.exponent
          ≤ 2 ^ 24 * 2 ^ x.exponent := Nat.mul_le_mul_right _ (by omega)
        _ = 2 ^ 23 * 2 ^ (x.exponent + 1) := by rw [Nat.pow_succ]; ring
        _ ≤ 2 ^ 23 * 2 ^ y.exponent := Nat.mul_le_mul_left _ (Nat.pow_le_pow_right (by norm_num) lower)
        _ ≤ (2 ^ 23 + y.fraction) * 2 ^ y.exponent := Nat.mul_le_mul_right _ (by omega)
    · have sameExponent : x.exponent = y.exponent := by omega
      rw [sameExponent]
      exact Nat.mul_le_mul_right _ (by omega)

theorem isNaN_eq_true_iff (x : Float32) : x.isNaN = true ↔ x.exponent = 255 ∧ x.fraction ≠ 0 := by
  simp [isNaN]

end Float32

/-! ## The clamps -/

theorem orderKey_sampleMaxF : sampleMaxF.orderKey = 0x46FFFE00 := by decide

theorem orderKey_sampleMinF : sampleMinF.orderKey = -0x47000000 := by decide

theorem magnitude_sampleMaxF : sampleMaxF.bits.toNat % 2 ^ 31 = 0x46FFFE00 := by decide

theorem magnitude_sampleMinF : sampleMinF.bits.toNat % 2 ^ 31 = 0x47000000 := by decide

/-- Between the two clamp bounds, `(int16_t)` is defined. -/
theorem toInt16_isSome_of_between {z : Float32} (zNum : z.isNaN = false)
    (above : sampleMinF.le z = true) (below : z.le sampleMaxF = true) : z.toInt16.isSome = true := by
  simp only [Float32.le, zNum, Bool.not_false, Bool.and_true, Bool.true_and, decide_eq_true_eq,
    orderKey_sampleMaxF, orderKey_sampleMinF, show sampleMinF.isNaN = false by decide,
    show sampleMaxF.isNaN = false by decide] at above below
  have magnitude := z.magnitude_bits
  have fractionLt : z.fraction < 2 ^ 23 := Nat.mod_lt _ (by norm_num)
  unfold Float32.orderKey at above below
  unfold Float32.toInt16
  split_ifs at above below with negative
  · have truncated : z.truncMagnitude ≤ 32768 :=
      (Float32.truncMagnitude_mono (y := sampleMinF) (by rw [magnitude_sampleMinF]; omega)).trans
        (by decide)
    rw [if_neg (by omega), if_pos negative, if_pos (by omega)]
    rfl
  · have truncated : z.truncMagnitude ≤ 32767 :=
      (Float32.truncMagnitude_mono (y := sampleMaxF) (by rw [magnitude_sampleMaxF]; omega)).trans
        (by decide)
    rw [if_neg (by omega), if_neg negative, if_pos (by omega)]
    rfl

/-- The clamps bring a value that is not a NaN between the bounds. -/
theorem clampSample_between {s : Float32} (sNum : s.isNaN = false) :
    (clampSample s).isNaN = false ∧ sampleMinF.le (clampSample s) = true ∧
      (clampSample s).le sampleMaxF = true := by
  have minNum : sampleMinF.isNaN = false := by decide
  have maxNum : sampleMaxF.isNaN = false := by decide
  unfold clampSample
  simp only [Float32.lt, Float32.le, sNum, minNum, maxNum, Bool.not_false, Bool.true_and,
    decide_eq_true_eq, orderKey_sampleMaxF, orderKey_sampleMinF]
  by_cases high : 0x46FFFE00 < s.orderKey
  · simp only [high, decide_True, if_true, maxNum, orderKey_sampleMaxF]
    decide
  · simp only [high, decide_False, Bool.false_eq_true, if_false, sNum, Bool.not_false,
      Bool.true_and]
    by_cases low : s.orderKey < -0x47000000
    · simp only [low, decide_True, if_true, minNum, orderKey_sampleMinF]
      decide
    · simp only [low, decide_False, Bool.false_eq_true, if_false, sNum, Bool.not_false,
        Bool.true_and, decide_eq_true_eq, true_and]
      omega

/-- After the clamps, `(int16_t)` is defined exactly when the value was not a NaN. -/
theorem toInt16_clampSample (s : Float32) : (clampSample s).toInt16.isSome = !s.isNaN := by
  cases notANumber : s.isNaN
  · obtain ⟨clampedNum, above, below⟩ := clampSample_between notANumber
    exact toInt16_isSome_of_between clampedNum above below
  · have unchanged : clampSample s = s := by
      simp [clampSample, Float32.lt_eq_false_of_isNaN_right _ notANumber,
        Float32.lt_eq_false_of_isNaN_left _ notANumber]
    rw [Float32.isNaN_eq_true_iff] at notANumber
    simp [unchanged, Float32.toInt16, notANumber.1]

/-- Each sample's conversion in `output_transport_thread` is defined exactly
when the product `pcm[i] * gain * 32767.0f` is not a NaN, whatever the
multiplication computes. -/
theorem egressSample_defined_iff (ops : FloatOps) (gain x : Float32) :
    (egressSample ops gain x).isSome = true ↔ (ops.mul (ops.mul x gain) sampleMaxF).isNaN = false := by
  rw [egressSample, toInt16_clampSample, Bool.not_eq_true']

/-! ## With IEEE multiplication -/

section IeeeMul

variable {ops : FloatOps} (ieeeMul : ∀ a b : Float32, (ops.mul a b).isNaN = Float32.mulIsNaN a b)

/-- Multiplying by `32767.0f` makes a NaN only of a NaN. -/
theorem mulIsNaN_sampleMaxF (a : Float32) : Float32.mulIsNaN a sampleMaxF = a.isNaN := by
  have facts : sampleMaxF.isNaN = false ∧ sampleMaxF.isInf = false ∧ sampleMaxF.isZero = false := by
    decide
  simp [Float32.mulIsNaN, facts]

include ieeeMul in
theorem egressSample_isSome (gain x : Float32) :
    (egressSample ops gain x).isSome = !Float32.mulIsNaN x gain := by
  rw [egressSample, toInt16_clampSample, ieeeMul, mulIsNaN_sampleMaxF, ieeeMul]

include ieeeMul in
/-- With IEEE multiplication, a block converts without undefined behaviour
exactly when no sample is a NaN or an infinity that meets a zero gain, and the
gain is neither a NaN nor an infinity that meets a zero sample. -/
theorem egressConvert_defined (vol : Float32) (mute : Int) (pcm : Nat → Float32) :
    (egressConvert ops vol mute pcm).all Option.isSome = true ↔
      ∀ i < opusFrameSize * numChannels, Float32.mulIsNaN (pcm i) (threadGain vol mute) = false := by
  simp only [egressConvert, List.all_eq_true, List.forall_mem_map, List.mem_range,
    egressSample_isSome ieeeMul, Bool.not_eq_true']

/-- On the silence of a fresh `pcm` buffer at full gain. -/
theorem egressConvert_defined_silence :
    let ops : FloatOps :=
      ⟨fun a b => if Float32.mulIsNaN a b then Float32.nan else 0, fun _ _ => 0, fun _ => 0,
        fun _ _ => 0⟩
    (∀ a b : Float32, (ops.mul a b).isNaN = Float32.mulIsNaN a b) ∧
      ((egressConvert ops Float32.one 0 fun _ => 0).all Option.isSome = true ↔
        ∀ i < opusFrameSize * numChannels,
          Float32.mulIsNaN ((fun _ => 0 : Nat → Float32) i) (threadGain Float32.one 0) = false) := by
  intro ops
  have rule : ∀ a b : Float32, (ops.mul a b).isNaN = Float32.mulIsNaN a b := by
    intro a b
    show (if Float32.mulIsNaN a b then Float32.nan else 0).isNaN = _
    cases Float32.mulIsNaN a b <;> decide
  exact ⟨rule, @egressConvert_defined ops rule Float32.one 0 fun _ => 0⟩

include ieeeMul in
/-- Once `driver_SetPropertyData` has stored a NaN output gain, the conversion
of every sample of every block is undefined, whatever the samples. -/
theorem nan_gain_egress_undefined (st : DriverState) (inSize : UInt32) (inData : Nat → UInt8)
    (sized : 4 ≤ inSize.toNat) (notANumber : (readFloat32 inData).isNaN = true)
    (pcm : Nat → Float32) :
    let st' := (driverSetPropertyData ops st objectIDOutputVolume
      .audioLevelControlPropertyScalarValue inSize inData).2
    egressConvert ops st'.outputVolume 0 pcm = List.replicate (opusFrameSize * numChannels) none := by
  dsimp only
  rw [setScalarValue_stores_nan ops st inSize inData sized notANumber, List.eq_replicate_iff]
  refine ⟨by simp [egressConvert], fun sample member => ?_⟩
  obtain ⟨i, -, rfl⟩ := List.mem_map.mp member
  rw [← Option.not_isSome_iff_eq_none, egressSample_isSome ieeeMul]
  simp [threadGain, Float32.mulIsNaN, notANumber]

/-- The quiet NaN `0x7FC00000` stored through the output gain. -/
theorem nan_gain_egress_undefined_quiet :
    let ops : FloatOps :=
      ⟨fun a b => if Float32.mulIsNaN a b then Float32.nan else 0, fun _ _ => 0, fun _ => 0,
        fun _ _ => 0⟩
    let st : DriverState := ⟨⟨fun _ => 0, 0, 0⟩, ⟨fun _ => 0, 0, 0⟩, Float32.one, Float32.one,
      0, 0, 0, 0, ⟨1, 1⟩⟩
    let inData := storeBytes (fun _ => 0) Float32.nan.bytes
    (∀ a b : Float32, (ops.mul a b).isNaN = Float32.mulIsNaN a b) ∧ 4 ≤ (4 : UInt32).toNat ∧
      (readFloat32 inData).isNaN = true ∧
      egressConvert ops (driverSetPropertyData ops st objectIDOutputVolume
          .audioLevelControlPropertyScalarValue 4 inData).2.outputVolume 0 (fun _ => 0) =
        List.replicate (opusFrameSize * numChannels) none := by
  intro ops st inData
  have rule : ∀ a b : Float32, (ops.mul a b).isNaN = Float32.mulIsNaN a b := by
    intro a b
    show (if Float32.mulIsNaN a b then Float32.nan else 0).isNaN = _
    cases Float32.mulIsNaN a b <;> decide
  have notANumber : (readFloat32 inData).isNaN = true := by decide
  exact ⟨rule, le_refl 4, notANumber,
    @nan_gain_egress_undefined ops rule st 4 inData (le_refl 4) notANumber fun _ => 0⟩

end IeeeMul

end BungholeAudio
