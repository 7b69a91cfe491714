import BungholeAudio.Plugin.Driver

/-!
# The volume controls

Each device has one level control. Its gain is a `float` scalar in the
driver's state; the host sets it as a scalar or in decibels through
`driver_SetPropertyData`, which clamps the value before storing it:
`if (v < 0.0f) v = 0.0f; if (v > 1.0f) v = 1.0f;`, or the same against
`VOLUME_MIN_DB` and `VOLUME_MAX_DB` before `db_to_scalar`.

An IEEE comparison with a NaN is false, so a NaN passes both clamps and is
stored as the gain: `setScalarValue_nan` shows it. Every payload that is not a
NaN is clamped into `[0, 1]`, given that `powf(10, db / 20)` lies in `[0, 1]`
for the decibel values the clamp lets through (`volumes_inUnit`).
-/

namespace BungholeAudio

/-! ## Conversions -/

/-- `scalar_to_db`. -/
def scalarToDb (ops : FloatOps) (scalar : Float32) : Float32 :=
  if scalar.le 0 then volumeMinDb
  else
    let db := ops.mul twentyF (ops.log10f scalar)
    if db.lt volumeMinDb then volumeMinDb else db

/-- `db_to_scalar`. -/
def dbToScalar (ops : FloatOps) (db : Float32) : Float32 :=
  if db.le volumeMinDb then 0 else ops.powf tenF (ops.div db twentyF)

/-! ## Setting a gain -/

/-- `driver_SetPropertyData`; `inData` is the caller's buffer. -/
def driverSetPropertyData (ops : FloatOps) (st : DriverState) (id : UInt32) (sel : Selector)
    (inSize : UInt32) (inData : Nat → UInt8) : Status × DriverState :=
  if isVolume id then
    let isOutputVol := id == objectIDOutputVolume
    let store : Float32 → DriverState := fun v =>
      if isOutputVol then { st with outputVolume := v } else { st with inputVolume := v }
    match sel with
    | .audioLevelControlPropertyScalarValue =>
      if inSize.toNat < 4 then (.audioHardwareBadPropertySizeError, st)
      else
        let v := readFloat32 inData
        let v := if v.lt 0 then 0 else v
        let v := if Float32.one.lt v then Float32.one else v
        (.audioHardwareNoError, store v)
    | .audioLevelControlPropertyDecibelValue =>
      if inSize.toNat < 4 then (.audioHardwareBadPropertySizeError, st)
      else
        let db := readFloat32 inData
        let db := if db.lt volumeMinDb then volumeMinDb else db
        let db := if volumeMaxDb.lt db then volumeMaxDb else db
        (.audioHardwareNoError, store (dbToScalar ops db))
    | _ => (.audioHardwareUnsupportedOperationError, st)
  else (.audioHardwareUnsupportedOperationError, st)

/-- What a call can do to the gains: leave the state alone, or store one new
value into one of the two gains. -/
theorem driverSetPropertyData_cases (ops : FloatOps) (st : DriverState) (id : UInt32)
    (sel : Selector) (inSize : UInt32) (inData : Nat → UInt8) :
    (driverSetPropertyData ops st id sel inSize inData).2 = st ∨
      ∃ v, ((sel = .audioLevelControlPropertyScalarValue ∧
            v = (let v := readFloat32 inData
                 let v := if v.lt 0 then 0 else v
                 if Float32.one.lt v then Float32.one else v)) ∨
          (sel = .audioLevelControlPropertyDecibelValue ∧
            v = dbToScalar ops (let db := readFloat32 inData
                 let db := if db.lt volumeMinDb then volumeMinDb else db
                 if volumeMaxDb.lt db then volumeMaxDb else db))) ∧
        ((driverSetPropertyData ops st id sel inSize inData).2 = { st with outputVolume := v } ∨
          (driverSetPropertyData ops st id sel inSize inData).2 = { st with inputVolume := v }) := by
  unfold driverSetPropertyData
  split
  · split
    · split
      · exact .inl rfl
      · refine .inr ⟨_, .inl ⟨rfl, rfl⟩, ?_⟩
        dsimp only
        split <;> simp
    · split
      · exact .inl rfl
      · refine .inr ⟨_, .inr ⟨rfl, rfl⟩, ?_⟩
        dsimp only
        split <;> simp
    · exact .inl rfl
  · exact .inl rfl

/-! ## A NaN gain -/

/-- Through `kAudioLevelControlPropertyScalarValue`, a payload whose float is
a NaN is stored unclamped. -/
theorem setScalarValue_stores_nan (ops : FloatOps) (st : DriverState) (inSize : UInt32)
    (inData : Nat → UInt8) (sized : 4 ≤ inSize.toNat)
    (notANumber : (readFloat32 inData).isNaN = true) :
    driverSetPropertyData ops st objectIDOutputVolume .audioLevelControlPropertyScalarValue
        inSize inData =
      (.audioHardwareNoError, { st with outputVolume := readFloat32 inData }) := by
  simp only [driverSetPropertyData, show isVolume objectIDOutputVolume = true from rfl,
    if_true, beq_self_eq_true, if_neg (Nat.not_lt.mpr sized),
    Float32.lt_eq_false_of_isNaN_left _ notANumber,
    Float32.lt_eq_false_of_isNaN_right _ notANumber, Bool.false_eq_true, if_false]

/-- After `driver_Initialize`, setting the output gain to the quiet NaN through
`kAudioLevelControlPropertyScalarValue` succeeds and leaves a gain outside
`[0, 1]`. -/
theorem setScalarValue_nan (ops : FloatOps) (prior : DriverState) (timebase : Timebase)
    (encoderOk decoderOk : Bool) :
    let st := (driverInitialize prior timebase encoderOk decoderOk).2
    let r := driverSetPropertyData ops st objectIDOutputVolume
      .audioLevelControlPropertyScalarValue 4 (storeBytes (fun _ => 0) Float32.nan.bytes)
    r.1 = .audioHardwareNoError ∧ r.2.outputVolume = Float32.nan ∧ ¬r.2.outputVolume.InUnit := by
  have decoded : readFloat32 (storeBytes (fun _ => 0) Float32.nan.bytes) = Float32.nan := by decide
  intro st r
  have stored := setScalarValue_stores_nan ops st 4 (storeBytes (fun _ => 0) Float32.nan.bytes)
    (by decide) (by rw [decoded]; decide)
  rw [decoded] at stored
  simp only [r, stored, true_and]
  decide

/-! ## Gains that stay in range -/

/-- Both gains lie in `[0, 1]`. -/
def VolumesInUnit (st : DriverState) : Prop := st.outputVolume.InUnit ∧ st.inputVolume.InUnit

theorem driverInitialize_volumesInUnit (prior : DriverState) (timebase : Timebase)
    (encoderOk decoderOk : Bool) :
    VolumesInUnit (driverInitialize prior timebase encoderOk decoderOk).2 := by
  simp only [VolumesInUnit, driverInitialize_outputVolume, driverInitialize_inputVolume]
  exact ⟨by decide, by decide⟩

section InRange

variable {ops : FloatOps}
  (powfInUnit : ∀ db : Float32, db.isNaN = false → volumeMinDb.lt db = true →
    db.le volumeMaxDb = true → (ops.powf tenF (ops.div db twentyF)).InUnit)

include powfInUnit in
/-- `db_to_scalar` of a decibel value in `(-inf, VOLUME_MAX_DB]` is in `[0, 1]`. -/
theorem dbToScalar_inUnit {db : Float32} (notANumber : db.isNaN = false)
    (belowMax : db.le volumeMaxDb = true) : (dbToScalar ops db).InUnit := by
  unfold dbToScalar
  split
  · decide
  · rename_i notLe
    exact powfInUnit db notANumber
      (Float32.lt_of_not_le notANumber (by decide) (by simpa using notLe)) belowMax

include powfInUnit in
/-- A decibel value that is not NaN, clamped to `[VOLUME_MIN_DB, VOLUME_MAX_DB]`,
converts to a scalar in `[0, 1]`. -/
theorem dbToScalar_clamp_inUnit (db : Float32) (notANumber : db.isNaN = false) :
    (dbToScalar ops (let db := if db.lt volumeMinDb then volumeMinDb else db
      if volumeMaxDb.lt db then volumeMaxDb else db)).InUnit := by
  obtain ⟨clampedNum, -, belowMax⟩ :=
    @Float32.clamp_between volumeMinDb volumeMaxDb db (by decide) (by decide) (by decide) notANumber
  exact dbToScalar_inUnit powfInUnit clampedNum belowMax

include powfInUnit in
/-- A call whose payload is not NaN keeps both gains in `[0, 1]`. -/
theorem driverSetPropertyData_volumesInUnit (st : DriverState) (inRange : VolumesInUnit st)
    (id : UInt32) (sel : Selector) (inSize : UInt32) (inData : Nat → UInt8)
    (notANumber : (readFloat32 inData).isNaN = false) :
    VolumesInUnit (driverSetPropertyData ops st id sel inSize inData).2 := by
  rcases driverSetPropertyData_cases ops st id sel inSize inData with same | ⟨v, value, stored⟩
  · rw [same]
    exact inRange
  · have valueInUnit : v.InUnit := by
      rcases value with ⟨-, rfl⟩ | ⟨-, rfl⟩
      · exact Float32.clampUnit_inUnit _ notANumber
      · exact dbToScalar_clamp_inUnit powfInUnit _ notANumber
    rcases stored with stored | stored <;> rw [stored]
    · exact ⟨valueInUnit, inRange.2⟩
    · exact ⟨inRange.1, valueInUnit⟩

/-- One `driver_SetPropertyData` call from the host. -/
structure SetCall where
  id : UInt32
  sel : Selector
  inSize : UInt32
  inData : Nat → UInt8

/-- A sequence of calls, each on the state the previous one left. -/
def runSetCalls (ops : FloatOps) (st : DriverState) : List SetCall → DriverState
  | [] => st
  | call :: calls =>
    runSetCalls ops (driverSetPropertyData ops st call.id call.sel call.inSize call.inData).2 calls

include powfInUnit in
/-- From `driver_Initialize`, every sequence of `driver_SetPropertyData` calls,
on any objects and selectors, whose payloads are not NaN keeps both gains in
`[0, 1]`. -/
theorem volumes_inUnit (prior : DriverState) (timebase : Timebase) (encoderOk decoderOk : Bool)
    (calls : List SetCall) (notANumber : ∀ call ∈ calls, (readFloat32 call.inData).isNaN = false) :
    VolumesInUnit (runSetCalls ops (driverInitialize prior timebase encoderOk decoderOk).2 calls) := by
  generalize (driverInitialize prior timebase encoderOk decoderOk).2 = st,
    driverInitialize_volumesInUnit prior timebase encoderOk decoderOk = inRange
  induction calls generalizing st with
  | nil => exact inRange
  | cons call calls ih =>
    exact ih (fun other mem => notANumber other (List.mem_cons_of_mem _ mem)) _
      (driverSetPropertyData_volumesInUnit powfInUnit st inRange call.id call.sel call.inSize
        call.inData (notANumber call (List.mem_cons_self _ _)))

end InRange

/-- After `driver_Initialize`, the output gain set to `2.0f`, which the clamp
brings down to `1.0f`, then the input gain set to `-6 dB`, with a `powf` that
returns `0.5f` for a negative exponent and `1.0f` otherwise. -/
theorem volumes_inUnit_clamped_and_db :
    let ops : FloatOps := ⟨fun a _ => a, fun a _ => a, fun a => a,
      fun _ e => if e.lt volumeMaxDb then ⟨0x3F000000⟩ else Float32.one⟩
    let prior : DriverState :=
      ⟨⟨fun _ => 0, 0, 0⟩, ⟨fun _ => 0, 0, 0⟩, 0, 0, 0, 0, 0, 0, ⟨1, 1⟩⟩
    let calls : List SetCall :=
      [⟨objectIDOutputVolume, .audioLevelControlPropertyScalarValue, 4,
        storeBytes (fun _ => 0) (Float32.bytes ⟨0x40000000⟩)⟩,
       ⟨objectIDInputVolume, .audioLevelControlPropertyDecibelValue, 4,
        storeBytes (fun _ => 0) (Float32.bytes ⟨0xC0C00000⟩)⟩]
    ((∀ db : Float32, db.isNaN = false → volumeMinDb.lt db = true → db.le volumeMaxDb = true →
        (ops.powf tenF (ops.div db twentyF)).InUnit) ∧
      ∀ call ∈ calls, (readFloat32 call.inData).isNaN = false) ∧
      VolumesInUnit (runSetCalls ops (driverInitialize prior ⟨1, 1⟩ true true).2 calls) := by
  intro ops prior calls
  have powfInUnit : ∀ db : Float32, db.isNaN = false → volumeMinDb.lt db = true →
      db.le volumeMaxDb = true → (ops.powf tenF (ops.div db twentyF)).InUnit := fun db _ _ _ => by
    show (if db.lt volumeMaxDb then (⟨0x3F000000⟩ : Float32) else Float32.one).InUnit
    split <;> decide
  have notANumber : ∀ call ∈ calls, (readFloat32 call.inData).isNaN = false := by decide
  exact ⟨⟨powfInUnit, notANumber⟩, volumes_inUnit powfInUnit _ _ _ _ _ notANumber⟩

end BungholeAudio
