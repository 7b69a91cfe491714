import BungholeAudio.Plugin.Driver

/-!
# The plug-in object

coreaudiod loads the plug-in through its factory, `BungholeAudio_Create`, which
allocates the one `DriverState` with `calloc`, keeps it in `gDriver`, and hands
out its first reference. From then on the host counts its references through
the `IUnknown` entry points: `driver_QueryInterface` takes one for each of the
three interface IDs it recognises, `driver_AddRef` takes one, and
`driver_Release` gives one back, ignoring a release at a count of `0`.

The design is a count of references on one live object (`References`).
`plugInRun_refines` shows that the code's `UInt32` count is that count, and
that `driver_AddRef` and `driver_Release` report it, as long as there is room
below `2^32` for the references taken (`RoomFor`): the count never wraps before
then. From the plug-in's load that is fewer than `2^32 - 1` references
(`references_counted`). No entry point
but the factory replaces or frees the object, and none stops the transport
threads (`driver_object_kept`): nothing in the source stores `0` to `running`,
and a count of `0` frees nothing. A host that gives back exactly the
references it took, never more than it holds, leaves the object as it found it
(`balanced_references`).
-/

namespace BungholeAudio

/-! ## Interface IDs -/

/-- `IUnknown`'s ID, `00000000-0000-0000-C000-000000000046`, as the bytes
`CFUUIDGetConstantUUIDWithBytes` is given. -/
def iunk : List UInt8 :=
  [0x00, 0x00, 0x00, 0x00, 0x00, 0x00, 0x00, 0x00, 0xC0, 0x00, 0x00, 0x00, 0x00, 0x00, 0x00, 0x46]

/-- `AudioServerPlugInDriverInterface`'s ID up to macOS 15,
`EEA5773D-CC43-49F1-8E00-8F9635872532`. -/
def idrvOld : List UInt8 :=
  [0xEE, 0xA5, 0x77, 0x3D, 0xCC, 0x43, 0x49, 0xF1, 0x8E, 0x00, 0x8F, 0x96, 0x35, 0x87, 0x25, 0x32]

/-- `AudioServerPlugInDriverInterface`'s ID from macOS 26,
`EEA5773D-CC43-49F1-8E00-8F96E7D23B17`. -/
def idrvNew : List UInt8 :=
  [0xEE, 0xA5, 0x77, 0x3D, 0xCC, 0x43, 0x49, 0xF1, 0x8E, 0x00, 0x8F, 0x96, 0xE7, 0xD2, 0x3B, 0x17]

/-- The plug-in type's ID up to macOS 15, `443ABEB8-E7B0-48D3-B2A0-381E2D0BB556`. -/
def typeOld : List UInt8 :=
  [0x44, 0x3A, 0xBE, 0xB8, 0xE7, 0xB0, 0x48, 0xD3, 0xB2, 0xA0, 0x38, 0x1E, 0x2D, 0x0B, 0xB5, 0x56]

/-- The plug-in type's ID from macOS 26, `443ABAB8-E7B3-491A-B985-BEB9187030DB`. -/
def typeNew : List UInt8 :=
  [0x44, 0x3A, 0xBA, 0xB8, 0xE7, 0xB3, 0x49, 0x1A, 0xB9, 0x85, 0xBE, 0xB9, 0x18, 0x70, 0x30, 0xDB]

/-- The condition of `driver_QueryInterface`: `CFEqual` with one of its three IDs. -/
def isKnownInterface (uuid : List UInt8) : Bool :=
  uuid == iunk || uuid == idrvOld || uuid == idrvNew

/-- The `HRESULT`s `driver_QueryInterface` returns. -/
inductive HResult
  | sOk
  | eNoInterface
  deriving DecidableEq

/-! ## The entry points -/

/-- The fields of `*gDriver` the factory and the `IUnknown` entry points use:
`refCount`, the state the other entry points use, and the transport threads'
`running` flag, an `int` kept as its bit pattern. `address` is where `calloc`
put the state, which is `&gDriver->interface`, since `interface` is its first
field. -/
structure DriverObject where
  address : Nat
  refCount : UInt32
  state : DriverState
  running : UInt32

/-- The `DriverState` `calloc` returns: every field zero. -/
def callocState : DriverState :=
  ⟨⟨fun _ => 0, 0, 0⟩, ⟨fun _ => 0, 0, 0⟩, 0, 0, 0, 0, 0, 0, ⟨0, 0⟩⟩

/-- `BungholeAudio_Create`: for one of the plug-in type's two IDs,
`gDriver = calloc(...)`, where `calloc` returns `block` (`none` for `NULL`,
which also loses any earlier object), and the first reference. -/
def bungholeAudioCreate (gDriver : Option DriverObject) (typeUUID : List UInt8)
    (block : Option Nat) : Option Nat × Option DriverObject :=
  if typeUUID != typeOld && typeUUID != typeNew then (none, gDriver)
  else
    match block with
    | none => (none, none)
    | some address => (some address, some ⟨address, 1, callocState, 0⟩)

/-- `driver_AddRef`: the count after `++refCount`, which wraps at `2^32`; `1`
without an object. -/
def driverAddRef : Option DriverObject → UInt32 × Option DriverObject
  | some d => (d.refCount + 1, some { d with refCount := d.refCount + 1 })
  | none => (1, none)

/-- `driver_Release`: the count after `--refCount`; a count of `0` is left alone,
and `0` is returned without an object. -/
def driverRelease : Option DriverObject → UInt32 × Option DriverObject
  | some d =>
    if d.refCount > 0 then (d.refCount - 1, some { d with refCount := d.refCount - 1 })
    else (0, some d)
  | none => (0, none)

/-- `driver_QueryInterface`: `S_OK`, a reference taken with `driver_AddRef`, and
`*outInterface = &gDriver->interface` for a recognised ID (without an object
that is `NULL` plus the offset `0` of `interface`); otherwise `E_NOINTERFACE`
and `NULL`. -/
def driverQueryInterface (gDriver : Option DriverObject) (uuid : List UInt8) :
    HResult × Option Nat × Option DriverObject :=
  if isKnownInterface uuid then
    let added := (driverAddRef gDriver).2
    (.sOk, added.map DriverObject.address, added)
  else (.eNoInterface, none, gDriver)

/-- `driver_Initialize` on `gDriver`: `kAudioHardwareUnspecifiedError` without an
object; otherwise `driverInitialize` on its state, and `running = 1` with the
threads started once both codecs are created. -/
def driverInitializeGlobal (gDriver : Option DriverObject) (timebase : Timebase)
    (encoderOk decoderOk : Bool) : Status × Option DriverObject :=
  match gDriver with
  | none => (.audioHardwareUnspecifiedError, none)
  | some d =>
    let r := driverInitialize d.state timebase encoderOk decoderOk
    (r.1, some { d with state := r.2, running := if encoderOk && decoderOk then 1 else d.running })

/-! ## Runs of calls -/

/-- A call of the factory or of an entry point that reads or writes `gDriver`
itself rather than the state behind it. -/
inductive PlugInCall
  /-- `BungholeAudio_Create`, where `calloc` returns `block`. -/
  | create (typeUUID : List UInt8) (block : Option Nat)
  | queryInterface (uuid : List UInt8)
  | addRef
  | release
  /-- `driver_Initialize`, with the timebase and whether the two codecs are created. -/
  | initializeDriver (timebase : Timebase) (encoderOk decoderOk : Bool)

/-- What a call returns. -/
inductive PlugInReturn
  /-- The interface pointer the factory returns. -/
  | pointer (p : Option Nat)
  /-- The `HRESULT` and `*outInterface`. -/
  | queried (result : HResult) (outInterface : Option Nat)
  /-- The `ULONG` count. -/
  | count (n : UInt32)
  | status (s : Status)

/-- One call on `gDriver`. -/
def plugInStep (gDriver : Option DriverObject) : PlugInCall → PlugInReturn × Option DriverObject
  | .create typeUUID block =>
    let r := bungholeAudioCreate gDriver typeUUID block
    (.pointer r.1, r.2)
  | .queryInterface uuid =>
    let r := driverQueryInterface gDriver uuid
    (.queried r.1 r.2.1, r.2.2)
  | .addRef =>
    let r := driverAddRef gDriver
    (.count r.1, r.2)
  | .release =>
    let r := driverRelease gDriver
    (.count r.1, r.2)
  | .initializeDriver timebase encoderOk decoderOk =>
    let r := driverInitializeGlobal gDriver timebase encoderOk decoderOk
    (.status r.1, r.2)

/-- A run of calls, with what each returned. -/
def plugInRun (gDriver : Option DriverObject) : List PlugInCall → List PlugInReturn × Option DriverObject
  | [] => ([], gDriver)
  | call :: calls =>
    let step := plugInStep gDriver call
    let rest := plugInRun step.2 calls
    (step.1 :: rest.1, rest.2)

/-! ## The design: a count of references -/

/-- The live object, by its address, and the number of references the host
holds on it. -/
structure References where
  address : Nat
  held : Nat
  deriving DecidableEq

/-- One more reference. -/
def References.take (refs : References) : References := ⟨refs.address, refs.held + 1⟩

/-- One reference fewer, if one is held. -/
def References.giveBack (refs : References) : References := ⟨refs.address, refs.held - 1⟩

/-- A call in the design, with the count it reports, if it reports one: a
recognised `QueryInterface` and `AddRef` take a reference and `Release` gives
one back; the factory, for its type, makes a new object with one reference or,
when allocation fails, loses the object. `AddRef` and `Release` report the
references held after them, and `1` and `0` when there is no object. -/
def referencesStep (refs : Option References) : PlugInCall → Option Nat × Option References
  | .create typeUUID block =>
    (none, if typeUUID = typeOld ∨ typeUUID = typeNew then block.map (⟨·, 1⟩) else refs)
  | .queryInterface uuid => (none, if isKnownInterface uuid then refs.map References.take else refs)
  | .addRef => (some ((refs.map References.take).elim 1 References.held), refs.map References.take)
  | .release =>
    (some ((refs.map References.giveBack).elim 0 References.held), refs.map References.giveBack)
  | .initializeDriver .. => (none, refs)

/-- A run of calls in the design. -/
def referencesRun (refs : Option References) : List PlugInCall → List (Option Nat) × Option References
  | [] => ([], refs)
  | call :: calls =>
    let step := referencesStep refs call
    let rest := referencesRun step.2 calls
    (step.1 :: rest.1, rest.2)

/-- The count a call reports, if it reports one. -/
def PlugInReturn.reportedCount : PlugInReturn → Option Nat
  | .count n => some n.toNat
  | _ => none

/-- What the design keeps of `gDriver`. -/
def referencesOf (gDriver : Option DriverObject) : Option References :=
  gDriver.map fun d => ⟨d.address, d.refCount.toNat⟩

/-- The references held, `0` without an object. -/
def heldOf (refs : Option References) : Nat := refs.elim 0 References.held

/-- Whether a call takes a reference. -/
def PlugInCall.takesReference : PlugInCall → Bool
  | .queryInterface uuid => isKnownInterface uuid
  | .addRef => true
  | _ => false

/-- Whether a call is `driver_Release`. -/
def PlugInCall.isRelease : PlugInCall → Bool
  | .release => true
  | _ => false

/-- Whether a call is the factory. -/
def PlugInCall.isCreate : PlugInCall → Bool
  | .create .. => true
  | _ => false

/-- Whether a call starts the transport threads: `driver_Initialize` with both
codecs created. -/
def PlugInCall.startsThreads : PlugInCall → Bool
  | .initializeDriver _ encoderOk decoderOk => encoderOk && decoderOk
  | _ => false

/-- Whether a call is one of the `IUnknown` entry points. -/
def PlugInCall.isIUnknown : PlugInCall → Bool
  | .queryInterface _ | .addRef | .release => true
  | _ => false

/-- The references a run takes. -/
def takes (calls : List PlugInCall) : Nat := (calls.filter PlugInCall.takesReference).length

/-- The `driver_Release` calls of a run. -/
def releases (calls : List PlugInCall) : Nat := (calls.filter PlugInCall.isRelease).length

@[simp]
theorem takes_nil : takes [] = 0 := rfl

@[simp]
theorem releases_nil : releases [] = 0 := rfl

@[simp]
theorem takes_cons (call : PlugInCall) (calls : List PlugInCall) :
    takes (call :: calls) = call.takesReference.toNat + takes calls := by
  cases taking : call.takesReference <;> simp [takes, List.filter_cons, taking, Nat.add_comm]

@[simp]
theorem releases_cons (call : PlugInCall) (calls : List PlugInCall) :
    releases (call :: calls) = call.isRelease.toNat + releases calls := by
  cases releasing : call.isRelease <;> simp [releases, List.filter_cons, releasing, Nat.add_comm]

/-- Room for every reference a run takes: the references held and those taken
stay below `2^32`, and so do one and those taken if the run calls the
factory. -/
def RoomFor (refs : Option References) (calls : List PlugInCall) : Prop :=
  heldOf refs + takes calls < 2 ^ 32 ∧ (calls.any PlugInCall.isCreate → takes calls + 1 < 2 ^ 32)

/-! ## The count never wraps -/

/-- A call adds a reference only if it takes one, unless it is the factory,
which leaves at most one. -/
theorem heldOf_referencesStep (refs : Option References) (call : PlugInCall) :
    heldOf (referencesStep refs call).2 ≤ heldOf refs + call.takesReference.toNat ∨
      call.isCreate ∧ heldOf (referencesStep refs call).2 ≤ 1 := by
  cases call with
  | create typeUUID block =>
    simp only [referencesStep]
    split_ifs
    · exact .inr ⟨rfl, by cases block <;> simp [heldOf]⟩
    · exact .inl (Nat.le_add_right _ _)
  | queryInterface uuid =>
    refine .inl ?_
    simp only [referencesStep, PlugInCall.takesReference]
    split_ifs with known
    · cases refs <;> simp [heldOf, References.take, known]
    · exact Nat.le_add_right _ _
  | addRef =>
    exact .inl (by cases refs <;> simp [referencesStep, heldOf, References.take, PlugInCall.takesReference])
  | release =>
    exact .inl (by
      cases refs <;> simp [referencesStep, heldOf, References.giveBack, PlugInCall.takesReference])
  | initializeDriver timebase encoderOk decoderOk => exact .inl (Nat.le_add_right _ _)

theorem roomFor_referencesStep {refs : Option References} {call : PlugInCall} {calls : List PlugInCall}
    (room : RoomFor refs (call :: calls)) : RoomFor (referencesStep refs call).2 calls := by
  obtain ⟨bounded, afterCreate⟩ := room
  simp only [takes_cons, List.any_cons, Bool.or_eq_true] at bounded afterCreate
  rcases heldOf_referencesStep refs call with grew | ⟨creating, one⟩
  · exact ⟨by omega, fun create => by have := afterCreate (.inr create); omega⟩
  · have := afterCreate (.inl creating)
    exact ⟨by omega, fun _ => by omega⟩

/-- `driver_AddRef` takes a reference and reports the count, while the count
cannot wrap. -/
theorem driverAddRef_refines (gDriver : Option DriverObject)
    (fits : heldOf (referencesOf gDriver) + 1 < 2 ^ 32) :
    (driverAddRef gDriver).1.toNat = ((referencesOf gDriver).map References.take).elim 1 References.held ∧
      referencesOf (driverAddRef gDriver).2 = (referencesOf gDriver).map References.take := by
  cases gDriver with
  | none => exact ⟨rfl, rfl⟩
  | some d =>
    have added : (d.refCount + 1).toNat = d.refCount.toNat + 1 := Nat.mod_eq_of_lt fits
    simp only [driverAddRef, referencesOf, Option.map, Option.elim, References.take, added, and_self]

/-- `driver_Release` gives back a reference, if one is held, and reports the count. -/
theorem driverRelease_refines (gDriver : Option DriverObject) :
    (driverRelease gDriver).1.toNat =
        ((referencesOf gDriver).map References.giveBack).elim 0 References.held ∧
      referencesOf (driverRelease gDriver).2 = (referencesOf gDriver).map References.giveBack := by
  cases gDriver with
  | none => exact ⟨rfl, rfl⟩
  | some d =>
    dsimp only [driverRelease]
    split_ifs with positive
    · have taken : (d.refCount - 1).toNat = d.refCount.toNat - 1 := UInt32.toNat_sub_of_le _ _ positive
      simp only [referencesOf, Option.map, Option.elim, References.giveBack, taken, and_self]
    · have zero : d.refCount.toNat = 0 := by
        have : ¬0 < d.refCount.toNat := positive
        omega
      simp only [referencesOf, Option.map, Option.elim, References.giveBack, zero, UInt32.toNat_zero,
        and_self]

/-- One call refines its design step while the next reference taken cannot
wrap the count. -/
theorem plugInStep_refines (gDriver : Option DriverObject) (call : PlugInCall)
    (room : call.takesReference → heldOf (referencesOf gDriver) + 1 < 2 ^ 32) :
    (plugInStep gDriver call).1.reportedCount = (referencesStep (referencesOf gDriver) call).1 ∧
      referencesOf (plugInStep gDriver call).2 = (referencesStep (referencesOf gDriver) call).2 := by
  cases call with
  | create typeUUID block =>
    refine ⟨rfl, ?_⟩
    simp only [plugInStep, bungholeAudioCreate, referencesStep, bne_iff_ne, ne_eq, Bool.and_eq_true,
      decide_eq_true_eq]
    split_ifs with refused accepted accepted
    · exact absurd accepted (by tauto)
    · rfl
    · cases block <;> rfl
    · exact absurd refused (by tauto)
  | queryInterface uuid =>
    refine ⟨rfl, ?_⟩
    simp only [plugInStep, driverQueryInterface, referencesStep]
    split_ifs with known
    · exact (driverAddRef_refines gDriver (room known)).2
    · rfl
  | addRef =>
    obtain ⟨count, refined⟩ := driverAddRef_refines gDriver (room rfl)
    exact ⟨congrArg some count, refined⟩
  | release =>
    obtain ⟨count, refined⟩ := driverRelease_refines gDriver
    exact ⟨congrArg some count, refined⟩
  | initializeDriver timebase encoderOk decoderOk => exact ⟨rfl, by cases gDriver <;> rfl⟩

/-- Over a run with room for every reference it takes, `driver_AddRef` and
`driver_Release` report, and `refCount` holds, the design's count. -/
theorem plugInRun_refines (gDriver : Option DriverObject) (calls : List PlugInCall)
    (room : RoomFor (referencesOf gDriver) calls) :
    (plugInRun gDriver calls).1.map PlugInReturn.reportedCount =
        (referencesRun (referencesOf gDriver) calls).1 ∧
      referencesOf (plugInRun gDriver calls).2 = (referencesRun (referencesOf gDriver) calls).2 := by
  induction calls generalizing gDriver with
  | nil => exact ⟨rfl, rfl⟩
  | cons call calls ih =>
    obtain ⟨reported, refined⟩ := plugInStep_refines gDriver call fun taking => by
      have bounded := room.1
      simp only [takes_cons, taking, Bool.toNat_true] at bounded
      omega
    have next := roomFor_referencesStep room
    rw [← refined] at next
    obtain ⟨restReported, restRefined⟩ := ih (plugInStep gDriver call).2 next
    simp only [plugInRun, referencesRun, List.map_cons, reported, restReported, ← refined, restRefined,
      and_self]

/-- From the plug-in's load, when `gDriver` is `NULL`, over every run of calls
that takes fewer than `2^32 - 1` references, `driver_AddRef` and
`driver_Release` report, and `refCount` holds, the references the design counts
on the live object: the count never wraps. -/
theorem references_counted (calls : List PlugInCall) (fewTakes : takes calls < 2 ^ 32 - 1) :
    (plugInRun none calls).1.map PlugInReturn.reportedCount = (referencesRun none calls).1 ∧
      referencesOf (plugInRun none calls).2 = (referencesRun none calls).2 :=
  plugInRun_refines none calls ⟨by simp only [referencesOf, Option.map, heldOf, Option.elim]; omega,
    fun _ => by omega⟩

/-- The factory, a query for the new interface ID, an extra reference, and three
releases, the last of them ignored at a count of `0`. -/
theorem references_counted_host_session :
    let calls : List PlugInCall :=
      [.create typeNew (some 4096), .queryInterface idrvNew, .addRef, .release, .release, .release,
        .release]
    takes calls < 2 ^ 32 - 1 ∧
      (plugInRun none calls).1.map PlugInReturn.reportedCount = (referencesRun none calls).1 ∧
        referencesOf (plugInRun none calls).2 = (referencesRun none calls).2 := by
  intro calls
  have fewTakes : takes calls < 2 ^ 32 - 1 := by decide
  exact ⟨fewTakes, references_counted calls fewTakes⟩

/-! ## What no call but the factory does -/

/-- An `IUnknown` call on a live object in the design takes one reference,
gives one back, or neither. -/
theorem referencesStep_iunknown {call : PlugInCall} (iunknown : call.isIUnknown) (refs : References) :
    (referencesStep (some refs) call).2 =
      some ⟨refs.address, refs.held + call.takesReference.toNat - call.isRelease.toNat⟩ := by
  cases call with
  | queryInterface uuid =>
    simp only [referencesStep, PlugInCall.takesReference, PlugInCall.isRelease, Bool.toNat_false,
      Nat.sub_zero]
    split_ifs with known <;> simp [known, References.take]
  | addRef => rfl
  | release => rfl
  | create typeUUID block => exact absurd iunknown Bool.false_ne_true
  | initializeDriver timebase encoderOk decoderOk => exact absurd iunknown Bool.false_ne_true

/-- Over `IUnknown` calls that never give back more references than are held,
the design holds what it held, plus the references taken, less those given
back. -/
theorem referencesRun_balance (refs : References) (calls : List PlugInCall)
    (iunknown : ∀ call ∈ calls, call.isIUnknown)
    (neverOverReleased : ∀ k ≤ calls.length, releases (calls.take k) ≤ refs.held + takes (calls.take k)) :
    (referencesRun (some refs) calls).2 =
      some ⟨refs.address, refs.held + takes calls - releases calls⟩ := by
  induction calls generalizing refs with
  | nil => rfl
  | cons call calls ih =>
    have first := neverOverReleased 1 (by simp)
    simp only [List.take_succ_cons, List.take_zero, releases_cons, takes_cons, releases_nil,
      takes_nil, Nat.add_zero] at first
    show (referencesRun (referencesStep (some refs) call).2 calls).2 = _
    rw [referencesStep_iunknown (iunknown call (List.mem_cons_self _ _)),
      ih _ (fun later mem => iunknown later (List.mem_cons_of_mem _ mem)) fun k bound => by
        have := neverOverReleased (k + 1) (by simp only [List.length_cons]; omega)
        simp only [List.take_succ_cons, releases_cons, takes_cons] at this
        dsimp only
        omega]
    rw [takes_cons, releases_cons]
    congr 2
    dsimp only
    omega

/-- An `IUnknown` call changes nothing of a live object but its count. -/
theorem plugInStep_iunknown {call : PlugInCall} (iunknown : call.isIUnknown) (d : DriverObject) :
    ∃ refCount : UInt32, (plugInStep (some d) call).2 = some { d with refCount := refCount } := by
  cases call with
  | queryInterface uuid =>
    simp only [plugInStep, driverQueryInterface, driverAddRef]
    split
    · exact ⟨_, rfl⟩
    · exact ⟨d.refCount, rfl⟩
  | addRef => exact ⟨_, rfl⟩
  | release =>
    simp only [plugInStep, driverRelease]
    split_ifs
    · exact ⟨_, rfl⟩
    · exact ⟨d.refCount, rfl⟩
  | create typeUUID block => exact absurd iunknown Bool.false_ne_true
  | initializeDriver timebase encoderOk decoderOk => exact absurd iunknown Bool.false_ne_true

theorem plugInRun_iunknown (d : DriverObject) (calls : List PlugInCall)
    (iunknown : ∀ call ∈ calls, call.isIUnknown) :
    ∃ refCount : UInt32, (plugInRun (some d) calls).2 = some { d with refCount := refCount } := by
  induction calls generalizing d with
  | nil => exact ⟨d.refCount, rfl⟩
  | cons call calls ih =>
    obtain ⟨refCount, step⟩ := plugInStep_iunknown (iunknown call (List.mem_cons_self _ _)) d
    obtain ⟨refCount', rest⟩ :=
      ih { d with refCount := refCount } fun later mem => iunknown later (List.mem_cons_of_mem _ mem)
    refine ⟨refCount', ?_⟩
    show (plugInRun (plugInStep (some d) call).2 calls).2 = _
    rw [step, rest]

/-- A host that gives back exactly the references it took, never more than it
holds, leaves the driver object as it found it, as long as the count cannot
wrap in between. -/
theorem balanced_references (d : DriverObject) (calls : List PlugInCall)
    (iunknown : ∀ call ∈ calls, call.isIUnknown)
    (neverOverReleased :
      ∀ k ≤ calls.length, releases (calls.take k) ≤ d.refCount.toNat + takes (calls.take k))
    (balanced : releases calls = takes calls) (room : d.refCount.toNat + takes calls < 2 ^ 32) :
    (plugInRun (some d) calls).2 = some d := by
  obtain ⟨refCount, kept⟩ := plugInRun_iunknown d calls iunknown
  have noFactory : calls.any PlugInCall.isCreate = false :=
    List.any_eq_false.mpr fun call mem => by
      cases call <;> first | exact Bool.false_ne_true | exact absurd (iunknown _ mem) Bool.false_ne_true
  have refined : referencesOf (plugInRun (some d) calls).2 =
      (referencesRun (some ⟨d.address, d.refCount.toNat⟩) calls).2 :=
    (plugInRun_refines (some d) calls ⟨room, fun create => absurd create (by rw [noFactory]; decide)⟩).2
  rw [kept, referencesRun_balance _ calls iunknown neverOverReleased, balanced, Nat.add_sub_cancel] at refined
  simp only [referencesOf, Option.map, Option.some.injEq, References.mk.injEq, true_and] at refined
  rw [kept, UInt32.toNat.inj refined]

/-- A balanced session of one query, one extra reference and two releases, from
the factory's count of `1`. -/
theorem balanced_references_query_and_release :
    let d : DriverObject := ⟨4096, 1, callocState, 0⟩
    let calls : List PlugInCall := [.queryInterface iunk, .addRef, .release, .release]
    ((∀ call ∈ calls, call.isIUnknown) ∧
      (∀ k ≤ calls.length, releases (calls.take k) ≤ d.refCount.toNat + takes (calls.take k)) ∧
      releases calls = takes calls ∧ d.refCount.toNat + takes calls < 2 ^ 32) ∧
      (plugInRun (some d) calls).2 = some d := by
  intro d calls
  have iunknown : ∀ call ∈ calls, call.isIUnknown := by decide
  have neverOverReleased :
      ∀ k ≤ calls.length, releases (calls.take k) ≤ d.refCount.toNat + takes (calls.take k) := by
    decide
  have balanced : releases calls = takes calls := by decide
  have room : d.refCount.toNat + takes calls < 2 ^ 32 := by decide
  exact ⟨⟨iunknown, neverOverReleased, balanced, room⟩,
    balanced_references d calls iunknown neverOverReleased balanced room⟩

/-- A call other than the factory keeps the object at its address, and sets
`running` only by starting the threads. -/
theorem plugInStep_kept (d : DriverObject) {call : PlugInCall} (notFactory : call.isCreate = false) :
    ∃ d', (plugInStep (some d) call).2 = some d' ∧ d'.address = d.address ∧
      (d'.running = 1 ↔ d.running = 1 ∨ call.startsThreads) := by
  have counted {call : PlugInCall} (iunknown : call.isIUnknown) (quiet : call.startsThreads = false) :
      ∃ d', (plugInStep (some d) call).2 = some d' ∧ d'.address = d.address ∧
        (d'.running = 1 ↔ d.running = 1 ∨ call.startsThreads) := by
    obtain ⟨refCount, step⟩ := plugInStep_iunknown iunknown d
    exact ⟨_, step, rfl, by simp [quiet]⟩
  cases call with
  | create typeUUID block => simp [PlugInCall.isCreate] at notFactory
  | initializeDriver timebase encoderOk decoderOk =>
    refine ⟨_, rfl, rfl, ?_⟩
    simp only [PlugInCall.startsThreads]
    split_ifs with started <;> simp [started]
  | queryInterface uuid => exact counted rfl rfl
  | addRef => exact counted rfl rfl
  | release => exact counted rfl rfl

/-- No entry point but the factory frees or replaces the driver object, and
none stops the transport threads: over every run of calls other than
`BungholeAudio_Create` from a live object, `gDriver` holds an object at the same
address, a count of `0` notwithstanding, and `running` is `1` exactly when it
was or some `driver_Initialize` created both codecs. -/
theorem driver_object_kept (d : DriverObject) (calls : List PlugInCall)
    (noFactory : ∀ call ∈ calls, call.isCreate = false) :
    ∃ d', (plugInRun (some d) calls).2 = some d' ∧ d'.address = d.address ∧
      (d'.running = 1 ↔ d.running = 1 ∨ ∃ call ∈ calls, call.startsThreads) := by
  induction calls generalizing d with
  | nil => exact ⟨d, rfl, rfl, by simp⟩
  | cons call calls ih =>
    obtain ⟨d₁, step, address₁, running₁⟩ := plugInStep_kept d (noFactory call (List.mem_cons_self _ _))
    obtain ⟨d', rest, address', running'⟩ :=
      ih d₁ fun later mem => noFactory later (List.mem_cons_of_mem _ mem)
    refine ⟨d', ?_, address'.trans address₁, ?_⟩
    · show (plugInRun (plugInStep (some d) call).2 calls).2 = _
      rw [step, rest]
    · rw [running', running₁, List.exists_mem_cons_iff, or_assoc]

/-- Released to `0`, the object is still there, and the threads `driver_Initialize`
started still run. -/
theorem driver_object_kept_released_to_zero :
    let d : DriverObject := ⟨4096, 1, callocState, 0⟩
    let calls : List PlugInCall := [.initializeDriver ⟨1, 1⟩ true true, .release, .release]
    (∀ call ∈ calls, call.isCreate = false) ∧
      ∃ d', (plugInRun (some d) calls).2 = some d' ∧ d'.address = d.address ∧
        (d'.running = 1 ↔ d.running = 1 ∨ ∃ call ∈ calls, call.startsThreads) := by
  intro d calls
  have noFactory : ∀ call ∈ calls, call.isCreate = false := by decide
  exact ⟨noFactory, driver_object_kept d calls noFactory⟩

end BungholeAudio
