import BungholeAudio.Basic

/-!
# Floats as bit patterns

The plug-in compares `float`s, stores them, and hands them to `log10f` and
`powf`. A `float` is its IEEE-754 binary32 bit pattern and a `double` its
binary64 pattern. The comparisons are IEEE's, read off the sign, exponent and
fraction fields, so that a NaN compares false with everything. The arithmetic
and the `libm` calls are not computed: `FloatOps` holds them as parameters, and
a result that depends on them says what it assumes.

The driver's property data is written in the host's byte order, little-endian
on both Apple architectures; `leBytes` and `readLE` are that encoding.
-/

namespace BungholeAudio

/-- A `double`, as its IEEE-754 binary64 bit pattern. -/
structure Float64 where
  bits : UInt64
  deriving DecidableEq, Repr

namespace Float64

/-- The sign bit. -/
def sign (x : Float64) : Bool := decide (2 ^ 63 ≤ x.bits.toNat)

/-- The biased exponent field. -/
def exponent (x : Float64) : Nat := x.bits.toNat / 2 ^ 52 % 2 ^ 11

/-- The fraction field. -/
def fraction (x : Float64) : Nat := x.bits.toNat % 2 ^ 52

/-- The number a finite double stands for: subnormal when the exponent field
is zero, normal otherwise. -/
def value (x : Float64) : ℚ :=
  (if x.sign then -1 else 1) *
    if x.exponent = 0 then (x.fraction : ℚ) / 2 ^ 1074
    else ((2 ^ 52 + x.fraction : ℕ) : ℚ) * 2 ^ x.exponent / 2 ^ 1075

/-- The conversion `(Float64)n` of a `uint64_t`: the nearest double, ties to
even. Below `2^53` no bit is lost. -/
def ofUInt64 (n : UInt64) : Float64 :=
  let m := n.toNat
  if m = 0 then ⟨0⟩
  else
    let e := m.log2
    if e ≤ 52 then ⟨UInt64.ofNat ((1023 + e) * 2 ^ 52 + (m * 2 ^ (52 - e) - 2 ^ 52))⟩
    else
      let shift := e - 52
      let q := m / 2 ^ shift
      let rem := m % 2 ^ shift
      let half := 2 ^ (shift - 1)
      let q := if half < rem ∨ (rem = half ∧ q % 2 = 1) then q + 1 else q
      ⟨UInt64.ofNat ((1023 + e) * 2 ^ 52 + q - 2 ^ 52)⟩

/-- A double stored from the fields of a positive normal number. -/
theorem value_of_fields {biased frac : Nat} (biasedPos : 1 ≤ biased) (biasedLt : biased < 2 ^ 11)
    (fracLt : frac < 2 ^ 52) :
    (⟨UInt64.ofNat (biased * 2 ^ 52 + frac)⟩ : Float64).value =
      ((2 ^ 52 + frac : ℕ) : ℚ) * 2 ^ biased / 2 ^ 1075 := by
  have bits : (UInt64.ofNat (biased * 2 ^ 52 + frac)).toNat = biased * 2 ^ 52 + frac :=
    UInt64.toNat_ofNat_of_lt (by simp only [UInt64.size]; omega)
  have positive : ¬2 ^ 63 ≤ biased * 2 ^ 52 + frac := by omega
  have field : (biased * 2 ^ 52 + frac) / 2 ^ 52 % 2 ^ 11 = biased := by omega
  simp only [value, sign, exponent, fraction, bits, positive, decide_False, field,
    show biased ≠ 0 by omega, if_false, Bool.false_eq_true, one_mul,
    show (biased * 2 ^ 52 + frac) % 2 ^ 52 = frac by omega]

/-- `(Float64)n` is exact for `n < 2^53`. -/
theorem value_ofUInt64 {n : UInt64} (small : n.toNat < 2 ^ 53) : (ofUInt64 n).value = n.toNat := by
  unfold ofUInt64
  dsimp only
  split
  · rename_i zero
    have fields : (⟨0⟩ : Float64).exponent = 0 ∧ (⟨0⟩ : Float64).fraction = 0 := by decide
    simp [zero, value, fields]
  · rename_i nonzero
    have e_le : n.toNat.log2 ≤ 52 := Nat.lt_succ_iff.mp ((Nat.log2_lt nonzero).mpr small)
    have lower : 2 ^ 52 ≤ n.toNat * 2 ^ (52 - n.toNat.log2) := by
      calc 2 ^ 52 = 2 ^ n.toNat.log2 * 2 ^ (52 - n.toNat.log2) := by
            rw [← Nat.pow_add, Nat.add_sub_cancel' e_le]
        _ ≤ n.toNat * 2 ^ (52 - n.toNat.log2) := Nat.mul_le_mul_right _ (Nat.log2_self_le nonzero)
    have upper : n.toNat * 2 ^ (52 - n.toNat.log2) < 2 ^ 53 := by
      calc n.toNat * 2 ^ (52 - n.toNat.log2)
          < 2 ^ (n.toNat.log2 + 1) * 2 ^ (52 - n.toNat.log2) :=
            Nat.mul_lt_mul_of_pos_right Nat.lt_log2_self (Nat.two_pow_pos _)
        _ = 2 ^ 53 := by rw [← Nat.pow_add]; congr 1; omega
    rw [if_pos e_le, value_of_fields (by omega) (by omega) (by omega),
      Nat.add_sub_cancel' lower]
    push_cast
    rw [mul_assoc, ← pow_add, show 52 - n.toNat.log2 + (1023 + n.toNat.log2) = 1075 by omega]
    field_simp

end Float64

namespace Float32

/-- The sign bit. -/
def sign (x : Float32) : Bool := decide (2 ^ 31 ≤ x.bits.toNat)

/-- The biased exponent field. -/
def exponent (x : Float32) : Nat := x.bits.toNat / 2 ^ 23 % 2 ^ 8

/-- The fraction field. -/
def fraction (x : Float32) : Nat := x.bits.toNat % 2 ^ 23

def isNaN (x : Float32) : Bool := x.exponent == 255 && x.fraction != 0

/-- Where a value that is not NaN sits in the order of the reals: the exponent
and fraction fields read as one number, negated when the sign bit is set. Both
zeros sit at `0` and the infinities at the two ends. -/
def orderKey (x : Float32) : Int :=
  if x.sign then -((x.bits.toNat % 2 ^ 31 : Nat) : Int) else ((x.bits.toNat % 2 ^ 31 : Nat) : Int)

/-- `a < b`, false when either side is NaN. -/
def lt (a b : Float32) : Bool := !a.isNaN && !b.isNaN && decide (a.orderKey < b.orderKey)

/-- `a <= b`, false when either side is NaN. -/
def le (a b : Float32) : Bool := !a.isNaN && !b.isNaN && decide (a.orderKey ≤ b.orderKey)

/-- `1.0f`. -/
def one : Float32 := ⟨0x3F800000⟩

/-- The quiet NaN `0x7FC00000`. -/
def nan : Float32 := ⟨0x7FC00000⟩

theorem lt_eq_false_of_isNaN_left {a : Float32} (b : Float32) (notANumber : a.isNaN = true) :
    a.lt b = false := by
  simp [lt, notANumber]

theorem lt_eq_false_of_isNaN_right (a : Float32) {b : Float32} (notANumber : b.isNaN = true) :
    a.lt b = false := by
  simp [lt, notANumber]

/-- The closed unit interval `[0.0f, 1.0f]`; no NaN lies in it. -/
def InUnit (x : Float32) : Prop := (0 : Float32).le x = true ∧ x.le one = true

instance (x : Float32) : Decidable x.InUnit := inferInstanceAs (Decidable (_ ∧ _))

theorem isNaN_zero : (0 : Float32).isNaN = false := by decide

theorem isNaN_one : one.isNaN = false := by decide

theorem orderKey_zero : (0 : Float32).orderKey = 0 := by decide

theorem orderKey_one : one.orderKey = 0x3F800000 := by decide

theorem lt_of_not_le {a b : Float32} (aNum : a.isNaN = false) (bNum : b.isNaN = false)
    (notLe : a.le b = false) : b.lt a = true := by
  simp only [le, lt, aNum, bNum, Bool.not_false, Bool.true_and, decide_eq_false_iff_not,
    decide_eq_true_eq] at notLe ⊢
  omega

/-- The two-sided clamp `if (x < lo) x = lo; if (x > hi) x = hi;` of a value
that is not NaN lands in `[lo, hi]`. -/
theorem clamp_between {lo hi x : Float32} (loNum : lo.isNaN = false) (hiNum : hi.isNaN = false)
    (ordered : lo.le hi = true) (xNum : x.isNaN = false) :
    let z := if hi.lt (if x.lt lo then lo else x) then hi else if x.lt lo then lo else x
    z.isNaN = false ∧ lo.le z = true ∧ z.le hi = true := by
  simp only [le, lt, loNum, hiNum, xNum, Bool.not_false, Bool.true_and, decide_eq_true_eq]
    at ordered ⊢
  by_cases below : x.orderKey < lo.orderKey
  · simp only [below, decide_True, if_true, loNum, Bool.not_false, Bool.true_and,
      show ¬hi.orderKey < lo.orderKey by omega, decide_False, Bool.and_false, Bool.false_eq_true,
      if_false, decide_eq_true_eq, le_refl, true_and]
    exact ordered
  · simp only [below, decide_False, Bool.false_eq_true, if_false, xNum, Bool.not_false,
      Bool.true_and]
    by_cases above : hi.orderKey < x.orderKey
    · simp only [above, decide_True, if_true, hiNum, Bool.not_false, Bool.true_and,
        decide_eq_true_eq, le_refl, and_true]
      exact ⟨trivial, ordered⟩
    · simp only [above, decide_False, Bool.false_eq_true, if_false, xNum, Bool.not_false,
        Bool.true_and, decide_eq_true_eq]
      exact ⟨trivial, by omega, by omega⟩

/-- `if (v < 0.0f) v = 0.0f; if (v > 1.0f) v = 1.0f;` lands in `[0, 1]` when
`v` is not NaN. -/
theorem clampUnit_inUnit (v : Float32) (notANumber : v.isNaN = false) :
    (if one.lt (if v.lt 0 then 0 else v) then one else if v.lt 0 then 0 else v).InUnit :=
  (clamp_between isNaN_zero isNaN_one (by decide) notANumber).2

/-- The same clamp leaves a value already in `[0, 1]`, or a NaN, as it is. -/
theorem clampUnit_of_inUnit_or_isNaN {v : Float32} (kept : v.InUnit ∨ v.isNaN = true) :
    (if one.lt (if v.lt 0 then 0 else v) then one else if v.lt 0 then 0 else v) = v := by
  have inside : v.lt 0 = false ∧ one.lt v = false := by
    rcases kept with ⟨above, below⟩ | notANumber
    · simp only [le, lt, Bool.and_eq_true, decide_eq_true_eq] at above below ⊢
      refine ⟨?_, ?_⟩ <;> simp only [Bool.and_eq_false_iff, decide_eq_false_iff_not, not_lt] <;>
        exact .inr (by omega)
    · exact ⟨lt_eq_false_of_isNaN_left _ notANumber, lt_eq_false_of_isNaN_right _ notANumber⟩
  simp [inside.1, inside.2]

end Float32

/-- `VOLUME_MIN_DB`, `-96.0f`. -/
def volumeMinDb : Float32 := ⟨0xC2C00000⟩

/-- `VOLUME_MAX_DB`, `0.0f`. -/
def volumeMaxDb : Float32 := ⟨0⟩

/-- `20.0f`. -/
def twentyF : Float32 := ⟨0x41A00000⟩

/-- `10.0f`. -/
def tenF : Float32 := ⟨0x41200000⟩

/-- The float arithmetic and the `libm` calls of the volume conversions, which
the model does not compute. -/
structure FloatOps where
  mul : Float32 → Float32 → Float32
  div : Float32 → Float32 → Float32
  log10f : Float32 → Float32
  powf : Float32 → Float32 → Float32

/-! ## Bytes in memory -/

/-- The `width` bytes of `n` in little-endian order, as a store of a
`width`-byte integer leaves them. -/
def leBytes (n width : Nat) : List UInt8 :=
  (List.range width).map fun k => UInt8.ofNat (n / 256 ^ k)

@[simp]
theorem length_leBytes (n width : Nat) : (leBytes n width).length = width := by
  simp [leBytes]

/-- Four little-endian bytes determine the 32-bit number they store. -/
theorem leBytes_inj_of_lt {a b : Nat} (aLt : a < 2 ^ 32) (bLt : b < 2 ^ 32)
    (same : leBytes a 4 = leBytes b 4) : a = b := by
  have ofNat8 (n : Nat) : (UInt8.ofNat n).toNat = n % 256 := rfl
  simp only [leBytes, List.range_succ, List.range_zero, List.nil_append, List.map_cons,
    List.map_nil, List.cons_append, List.cons.injEq, and_true, Nat.reducePow, pow_zero,
    pow_one] at same
  obtain ⟨b0, b1, b2, b3⟩ := same
  have e0 := congrArg UInt8.toNat b0
  have e1 := congrArg UInt8.toNat b1
  have e2 := congrArg UInt8.toNat b2
  have e3 := congrArg UInt8.toNat b3
  simp only [ofNat8] at e0 e1 e2 e3
  omega

/-- The `width`-byte little-endian integer at `mem[off ..)`. -/
def readLE (mem : Nat → UInt8) (off width : Nat) : Nat :=
  ((List.range width).map fun k => (mem (off + k)).toNat * 256 ^ k).sum

/-- The `width` bytes of `n` stored at the start of a buffer read back as
those bytes. -/
@[simp]
theorem map_range_storeBytes_leBytes (buf : Nat → UInt8) (n width : Nat) :
    (List.range width).map (storeBytes buf (leBytes n width)) = leBytes n width := by
  simpa using map_range_storeBytes buf (leBytes n width)

/-- `*(const Float32 *)p`. -/
def readFloat32 (mem : Nat → UInt8) : Float32 :=
  ⟨UInt32.ofNat (readLE mem 0 4)⟩

/-- The bytes a `Float32` store leaves. -/
def Float32.bytes (x : Float32) : List UInt8 := leBytes x.bits.toNat 4

/-- The bytes a `Float64` store leaves. -/
def Float64.bytes (x : Float64) : List UInt8 := leBytes x.bits.toNat 8

/-- A `Float32` read from four bytes stores back as those bytes. -/
theorem bytes_readFloat32 (mem : Nat → UInt8) : (readFloat32 mem).bytes = (List.range 4).map mem := by
  have byte (k : Nat) : (mem k).toNat < 256 := (mem k).val.isLt
  have b0 := byte 0
  have b1 := byte 1
  have b2 := byte 2
  have b3 := byte 3
  have ofNat8 (n : Nat) : (UInt8.ofNat n).toNat = n % 256 := rfl
  have ofNat32 (n : Nat) : (UInt32.ofNat n).toNat = n % 2 ^ 32 := rfl
  simp only [Float32.bytes, readFloat32, leBytes, readLE, List.range_succ, List.range_zero,
    List.nil_append, List.map_cons, List.map_nil, List.sum_cons, List.sum_nil, List.cons_append,
    ofNat32, List.cons.injEq, and_true, Nat.zero_add, Nat.reducePow]
  refine ⟨?_, ?_, ?_, ?_⟩ <;> apply UInt8.toNat.inj <;> rw [ofNat8] <;> omega

end BungholeAudio
