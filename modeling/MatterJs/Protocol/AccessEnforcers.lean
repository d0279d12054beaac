import MatterJs.Protocol.AccessControl

/-! The access checks of a schema, each in two forms: one that throws and one that answers.
Where both forms decide the same. -/

namespace MatterJs.Protocol.AccessEnforcers

open MatterJs.Protocol.AccessControl (AccessLevel)

namespace Access

inductive Rw where
  | read
  | write
  | readWrite
  | readWriteOption
  deriving DecidableEq

inductive Fabric where
  | unaware
  | scoped
  | sensitive
  deriving DecidableEq

inductive Privilege where
  | view
  | operate
  | manage
  | administer
  deriving DecidableEq

def privilegeLevel : Privilege → AccessLevel
  | .view => .view
  | .operate => .operate
  | .manage => .manage
  | .administer => .administer

end Access

structure Access where
  rw : Option Access.Rw
  readPriv : Option Access.Privilege
  writePriv : Option Access.Privilege
  fabric : Option Access.Fabric
  timed : Bool
  deriving DecidableEq

def Access.readable (access : Access) : Bool :=
  access.rw ≠ some .write

def Access.writable (access : Access) : Bool :=
  access.rw.isSome && access.rw ≠ some .read

structure Schema where
  isCommand : Bool
  effectiveAccess : Access
  /-- Whether the value itself is fixed. -/
  fixed : Bool
  /-- Whether the values it is a part of are fixed, from the inside out. -/
  parentsFixed : List Bool
  deriving DecidableEq

structure Limits where
  readable : Bool
  readLevel : AccessLevel
  writable : Bool
  writeLevel : AccessLevel
  fabricScoped : Bool
  fabricSensitive : Bool
  timed : Bool
  deriving DecidableEq

/-- Any part of a fixed value is read-only. -/
def limitsFor (schema : Schema) : Limits :=
  let access := schema.effectiveAccess
  let fixed := schema.fixed || schema.parentsFixed.any id
  { readable := access.readable
    writable := access.writable && !fixed
    fabricScoped := access.fabric = some .scoped || access.fabric = some .sensitive
    fabricSensitive := access.fabric = some .sensitive
    timed := access.timed
    readLevel := (access.readPriv.map Access.privilegeLevel).getD .view
    writeLevel := (access.writePriv.map Access.privilegeLevel).getD .operate }

structure Location where
  path : String
  endpoint : Option Nat
  cluster : Option Nat
  owningFabric : Option Nat
  deriving DecidableEq

inductive Authority where
  | granted
  | unauthorized
  | restricted
  deriving DecidableEq

structure Session where
  authorityAt : AccessLevel → Location → Authority
  fabric : Option Nat
  fabricFiltered : Bool
  timed : Bool
  command : Bool
  offline : Bool

inductive AccessError where
  | readError (message : String) (code : Nat)
  | writeError (message : String) (code : Nat)
  | invokeError (message : String) (code : Nat)
  | schemaImplementationError (message : String)
  deriving DecidableEq

def unsupportedAccess : Nat := 126
def unsupportedWrite : Nat := 136
def unsupportedRead : Nat := 143
def needsTimedInteraction : Nat := 198
def timedRequestMismatch : Nat := 201

def readError (location : Location) (message : String) (code : Nat) : AccessError :=
  .readError s!"Reading {location.path}: {message} ({code})" code

def writeError (location : Location) (message : String) (code : Nat) : AccessError :=
  .writeError s!"Writing {location.path}: {message} ({code})" code

def invokeError (location : Location) (message : String) (code : Nat) : AccessError :=
  .invokeError s!"Invoking {location.path}: {message} ({code})" code

def schemaImplementationError (location : Location) (message : String) : AccessError :=
  .schemaImplementationError s!"Definition of {location.path}: {message}"

/-- `location.owningFabric && location.owningFabric !== session.fabric`. No fabric has the
number zero. -/
def ownedByOther (session : Session) (location : Location) : Bool :=
  match location.owningFabric with
  | none | some 0 => false
  | owningFabric => owningFabric ≠ session.fabric

/-! ## Enforcers -/

abbrev Assertion := Session → Location → Except AccessError Unit
abbrev Verification := Session → Location → Bool

structure AccessControl where
  limits : Limits
  authorizeRead : Assertion
  mayRead : Verification
  authorizeWrite : Assertion
  mayWrite : Verification
  authorizeInvoke : Assertion
  mayInvoke : Verification

/-- The checks of the privileges, before others are put around them. -/
def privilegeEnforcer (limits : Limits) : AccessControl where
  limits := limits
  mayRead := fun session location =>
    if session.offline || session.command then true
    else session.authorityAt limits.readLevel location = .granted
  mayWrite := fun session location =>
    if session.offline || session.command then true
    else session.authorityAt limits.writeLevel location = .granted
  authorizeRead := fun session location =>
    if session.offline || session.command then .ok ()
    else if session.authorityAt limits.readLevel location = .granted then .ok ()
    else .error (readError location "Permission denied" unsupportedAccess)
  authorizeWrite := fun session location =>
    if session.offline || session.command then .ok ()
    else if session.authorityAt limits.writeLevel location = .granted then .ok ()
    else .error (writeError location "Permission denied" unsupportedAccess)
  authorizeInvoke := fun _ location =>
    .error (schemaImplementationError location
      "Permission denied: Invoke request but non-command schema")
  mayInvoke := fun _ _ => false

variable (wrapped : AccessControl)

def timedEnforcer : AccessControl :=
  { wrapped with
    authorizeWrite := fun session location =>
      if !session.offline && !session.timed then
        .error (writeError location "Permission denied because interaction is not timed"
          needsTimedInteraction)
      else wrapped.authorizeWrite session location
    mayWrite := fun session location =>
      if !session.offline && !session.timed then false
      else wrapped.mayWrite session location }

def fabricSensitiveEnforcer : AccessControl :=
  { wrapped with
    authorizeRead := fun session location =>
      if session.offline || session.command then .ok ()
      else if session.fabricFiltered && session.fabric.isNone then
        .error (readError location "Permission denied: No accessing fabric" unsupportedAccess)
      else if session.fabricFiltered && ownedByOther session location then
        .error (readError location "Permission denied: Owning/accessing fabric mismatch"
          unsupportedAccess)
      else wrapped.authorizeRead session location
    mayRead := fun session location =>
      if session.offline || session.command then true
      else if session.fabric.isNone then false
      else if ownedByOther session location then false
      else wrapped.mayRead session location
    authorizeWrite := fun session location =>
      if session.offline || session.command then .ok ()
      else if session.fabric.isNone then
        .error (writeError location "Permission denied: No accessing fabric" unsupportedAccess)
      else if ownedByOther session location then
        .error (writeError location "Permission denied: Owning/accessing fabric mismatch"
          unsupportedWrite)
      else wrapped.authorizeWrite session location
    mayWrite := fun session location =>
      if session.offline || session.command then true
      else if session.fabric.isNone then false
      else if ownedByOther session location then false
      else wrapped.mayWrite session location }

def writeOnlyEnforcer : AccessControl :=
  { wrapped with
    authorizeRead := fun session location =>
      if session.offline || session.command then .ok ()
      else .error (readError location "Permission defined: Value is write-only" unsupportedRead)
    mayRead := fun session _ => session.offline || session.command }

def readOnlyEnforcer : AccessControl :=
  { wrapped with
    authorizeWrite := fun session location =>
      if session.offline || session.command then .ok ()
      else .error (writeError location "Permission denied: Value is read-only" unsupportedWrite)
    mayWrite := fun session _ => session.offline || session.command }

def dataEnforcerFor (schema : Schema) : AccessControl :=
  let limits := limitsFor schema
  let enforcer := privilegeEnforcer limits
  let enforcer := if limits.timed then timedEnforcer enforcer else enforcer
  let enforcer := if limits.fabricSensitive then fabricSensitiveEnforcer enforcer else enforcer
  let enforcer := if !limits.readable then writeOnlyEnforcer enforcer else enforcer
  if !limits.writable then readOnlyEnforcer enforcer else enforcer

def commandEnforcerFor (schema : Schema) : AccessControl :=
  let limits := limitsFor schema
  let timed := schema.effectiveAccess.timed
  let fabric := schema.effectiveAccess.fabric.isSome
  { limits
    authorizeRead := fun _ location =>
      .error (schemaImplementationError location
        "Permission denied: Read request but command schema")
    mayRead := fun _ _ => false
    authorizeWrite := fun _ location =>
      .error (schemaImplementationError location
        "Permission denied: Write request but command schema")
    mayWrite := fun _ _ => false
    authorizeInvoke := fun session location =>
      if session.offline then .ok ()
      else if !session.command then
        .error (invokeError location "Invoke attempt without command context" unsupportedAccess)
      else if timed && !session.timed then
        .error (invokeError location "Invoke attempt without required timed context"
          timedRequestMismatch)
      else if fabric && session.fabric.isNone then
        .error (writeError location "Permission denied: No accessing fabric" unsupportedAccess)
      else if session.authorityAt limits.writeLevel location = .granted then .ok ()
      else .error (invokeError location "Permission denied" unsupportedAccess)
    mayInvoke := fun session location =>
      if session.offline then true
      else if !session.command then false
      else if timed && !session.timed then false
      else if fabric && session.fabric.isNone then false
      else session.authorityAt limits.writeLevel location = .granted }

def enforcerFor (schema : Schema) : AccessControl :=
  if schema.isCommand then commandEnforcerFor schema else dataEnforcerFor schema

/-- The predicate holds where the assertion does not throw. -/
def Agree (may : Bool) (authorize : Except AccessError Unit) : Prop :=
  may = true ↔ authorize = .ok ()

section Decisions

variable {may : Bool} {authorize : Except AccessError Unit} {condition : Bool}
  {failure : AccessError}

theorem agree_allowed : Agree true (.ok ()) :=
  ⟨fun _ => rfl, fun _ => rfl⟩

theorem agree_refused : Agree false (.error failure) :=
  ⟨(by simp), (by simp)⟩

theorem agree_exempt (others : condition = false → Agree may authorize) :
    Agree (if condition then true else may) (if condition then .ok () else authorize) := by
  cases condition with
  | true => exact agree_allowed
  | false => exact others rfl

/-- Who is refused passes neither form. -/
theorem agree_guard (others : condition = false → Agree may authorize) :
    Agree (if condition then false else may)
      (if condition then .error failure else authorize) := by
  cases condition with
  | true => exact agree_refused
  | false => exact others rfl

/-- The last decision answers what the assertion branches on. -/
theorem agree_decide (granted : Prop) [Decidable granted] :
    Agree (decide granted) (if granted then .ok () else .error failure) := by
  by_cases holds : granted
  · simp [Agree]
  · simp [Agree]

end Decisions

/-! ## Both forms of the checks -/

namespace AccessControl

variable (control : AccessControl)

def ReadAgrees (session : Session) (location : Location) : Prop :=
  Agree (control.mayRead session location) (control.authorizeRead session location)

def WriteAgrees (session : Session) (location : Location) : Prop :=
  Agree (control.mayWrite session location) (control.authorizeWrite session location)

def InvokeAgrees (session : Session) (location : Location) : Prop :=
  Agree (control.mayInvoke session location) (control.authorizeInvoke session location)

end AccessControl

section Enforcers

variable {limits : Limits} {wrapped : AccessControl} {session : Session} {location : Location}

theorem privilegeEnforcer_readAgrees :
    (privilegeEnforcer limits).ReadAgrees session location :=
  agree_exempt fun _ => agree_decide _

theorem privilegeEnforcer_writeAgrees :
    (privilegeEnforcer limits).WriteAgrees session location :=
  agree_exempt fun _ => agree_decide _

theorem timedEnforcer_writeAgrees (agrees : wrapped.WriteAgrees session location) :
    (timedEnforcer wrapped).WriteAgrees session location :=
  agree_guard fun _ => agrees

theorem fabricSensitiveEnforcer_writeAgrees (agrees : wrapped.WriteAgrees session location) :
    (fabricSensitiveEnforcer wrapped).WriteAgrees session location :=
  agree_exempt fun _ => agree_guard fun _ => agree_guard fun _ => agrees

theorem writeOnlyEnforcer_readAgrees : (writeOnlyEnforcer wrapped).ReadAgrees session location := by
  show Agree (session.offline || session.command) _
  cases exempt : session.offline || session.command with
  | true =>
    simp only [writeOnlyEnforcer, exempt]
    exact agree_allowed
  | false =>
    simp only [writeOnlyEnforcer, exempt]
    exact agree_refused

theorem readOnlyEnforcer_writeAgrees : (readOnlyEnforcer wrapped).WriteAgrees session location := by
  show Agree (session.offline || session.command) _
  cases exempt : session.offline || session.command with
  | true =>
    simp only [readOnlyEnforcer, exempt]
    exact agree_allowed
  | false =>
    simp only [readOnlyEnforcer, exempt]
    exact agree_refused

def belongsToFabric (session : Session) (location : Location) : Bool :=
  session.fabric.isSome && !ownedByOther session location

theorem fabricSensitiveEnforcer_readAgrees_iff (agrees : wrapped.ReadAgrees session location) :
    (fabricSensitiveEnforcer wrapped).ReadAgrees session location ↔
      (session.offline || session.command || session.fabricFiltered ||
        belongsToFabric session location || !wrapped.mayRead session location) = true := by
  rw [AccessControl.ReadAgrees, Agree] at agrees
  rw [AccessControl.ReadAgrees, Agree]
  simp only [fabricSensitiveEnforcer, belongsToFabric]
  cases session.offline || session.command with
  | true => simp
  | false =>
    cases session.fabricFiltered with
    | true =>
      cases session.fabric.isNone <;> cases ownedByOther session location <;> simp [agrees]
    | false =>
      cases session.fabric <;> cases ownedByOther session location <;> simp [← agrees]

end Enforcers

section Schemas

variable {schema : Schema} {session : Session} {location : Location}

theorem commandEnforcerFor_readAgrees : (commandEnforcerFor schema).ReadAgrees session location :=
  agree_refused

theorem commandEnforcerFor_writeAgrees :
    (commandEnforcerFor schema).WriteAgrees session location :=
  agree_refused

theorem commandEnforcerFor_invokeAgrees :
    (commandEnforcerFor schema).InvokeAgrees session location :=
  agree_exempt fun _ => agree_guard fun _ => agree_guard fun _ => agree_guard fun _ =>
    agree_decide _

/-- What is put around the checks of the privileges leaves invocations alone. -/
theorem dataEnforcerFor_invokeAgrees :
    (dataEnforcerFor schema).InvokeAgrees session location := by
  have refused : (dataEnforcerFor schema).mayInvoke session location = false ∧
      ∃ failure, (dataEnforcerFor schema).authorizeInvoke session location = .error failure := by
    simp only [dataEnforcerFor]
    split <;> split <;> split <;> split <;> exact ⟨rfl, _, rfl⟩
  rcases refused with ⟨noMay, failure, throws⟩
  rw [AccessControl.InvokeAgrees, noMay, throws]
  exact agree_refused

theorem dataEnforcerFor_writeAgrees :
    (dataEnforcerFor schema).WriteAgrees session location := by
  have timed : AccessControl.WriteAgrees (if (limitsFor schema).timed then
      timedEnforcer (privilegeEnforcer (limitsFor schema))
      else privilegeEnforcer (limitsFor schema)) session location := by
    split
    · exact timedEnforcer_writeAgrees privilegeEnforcer_writeAgrees
    · exact privilegeEnforcer_writeAgrees
  simp only [dataEnforcerFor]
  split
  · exact readOnlyEnforcer_writeAgrees
  · split
    · show AccessControl.WriteAgrees (if _ then _ else _) session location
      split
      · exact fabricSensitiveEnforcer_writeAgrees timed
      · exact timed
    · split
      · exact fabricSensitiveEnforcer_writeAgrees timed
      · exact timed

/-- A session that is not bound to the fabric reads a value that only the fabric may
see: it is online and has the privilege, but does not filter what it reads. -/
structure ReadsForeignValue (schema : Schema) (session : Session) (location : Location) :
    Prop where
  isData : schema.isCommand = false
  sensitive : (limitsFor schema).fabricSensitive = true
  readable : (limitsFor schema).readable = true
  online : session.offline = false
  noCommand : session.command = false
  unfiltered : session.fabricFiltered = false
  foreign : belongsToFabric session location = false
  granted : session.authorityAt (limitsFor schema).readLevel location = .granted

theorem dataEnforcerFor_readAgrees_of_readable (readable : (limitsFor schema).readable = true) :
    (dataEnforcerFor schema).ReadAgrees session location ↔
      AccessControl.ReadAgrees (if (limitsFor schema).fabricSensitive then
        fabricSensitiveEnforcer (privilegeEnforcer (limitsFor schema))
        else privilegeEnforcer (limitsFor schema)) session location := by
  simp only [dataEnforcerFor, readable]
  cases (limitsFor schema).writable <;> cases (limitsFor schema).fabricSensitive <;>
    cases (limitsFor schema).timed <;> exact Iff.rfl

theorem dataEnforcerFor_readAgrees_of_writeOnly (writeOnly : (limitsFor schema).readable = false) :
    (dataEnforcerFor schema).ReadAgrees session location := by
  have agrees : (writeOnlyEnforcer (privilegeEnforcer (limitsFor schema))).ReadAgrees session
      location := writeOnlyEnforcer_readAgrees
  simp only [dataEnforcerFor, writeOnly]
  cases (limitsFor schema).writable <;> exact agrees

theorem dataEnforcerFor_readAgrees_iff (isData : schema.isCommand = false) :
    (dataEnforcerFor schema).ReadAgrees session location ↔
      ¬ReadsForeignValue schema session location := by
  cases readable : (limitsFor schema).readable with
  | false =>
    refine iff_of_true (dataEnforcerFor_readAgrees_of_writeOnly readable) fun foreign => ?_
    have isReadable := foreign.readable
    rw [readable] at isReadable
    cases isReadable
  | true =>
    rw [dataEnforcerFor_readAgrees_of_readable readable]
    cases sensitive : (limitsFor schema).fabricSensitive with
    | false =>
      refine iff_of_true privilegeEnforcer_readAgrees fun foreign => ?_
      have isSensitive := foreign.sensitive
      rw [sensitive] at isSensitive
      cases isSensitive
    | true =>
      rw [if_pos rfl, fabricSensitiveEnforcer_readAgrees_iff privilegeEnforcer_readAgrees]
      constructor
      · intro agrees foreign
        simp [privilegeEnforcer, foreign.online, foreign.noCommand, foreign.unfiltered,
          foreign.foreign, foreign.granted] at agrees
      · intro own
        by_contra differs
        simp only [Bool.not_eq_true, Bool.or_eq_false_iff, Bool.not_eq_false'] at differs
        rcases differs with ⟨⟨⟨⟨online, noCommand⟩, unfiltered⟩, foreign⟩, may⟩
        simp only [privilegeEnforcer, online, noCommand, Bool.or_self, Bool.false_eq_true,
          if_false, decide_eq_true_eq] at may
        exact own ⟨isData, sensitive, readable, online, noCommand, unfiltered, foreign, may⟩

/-- The two forms of the checks agree, unless a session that is not bound to the fabric
reads a value that only the fabric may see. -/
theorem enforcerFor_agrees_iff (schema : Schema) (session : Session) (location : Location) :
    ((enforcerFor schema).ReadAgrees session location ∧
      (enforcerFor schema).WriteAgrees session location ∧
      (enforcerFor schema).InvokeAgrees session location) ↔
      ¬ReadsForeignValue schema session location := by
  cases isCommand : schema.isCommand with
  | true =>
    simp only [enforcerFor, isCommand]
    constructor
    · rintro _ ⟨isData⟩
      rw [isCommand] at isData
      cases isData
    · intro _
      exact ⟨commandEnforcerFor_readAgrees, commandEnforcerFor_writeAgrees,
        commandEnforcerFor_invokeAgrees⟩
  | false =>
    simp only [enforcerFor, isCommand]
    constructor
    · rintro ⟨reads, _, _⟩
      exact (dataEnforcerFor_readAgrees_iff isCommand).mp reads
    · intro own
      exact ⟨(dataEnforcerFor_readAgrees_iff isCommand).mpr own, dataEnforcerFor_writeAgrees,
        dataEnforcerFor_invokeAgrees⟩

def fabricSensitiveList : Schema where
  isCommand := false
  effectiveAccess :=
    { rw := some .readWrite
      readPriv := some .administer
      writePriv := some .administer
      fabric := some .sensitive
      timed := false }
  fixed := false
  parentsFixed := []

/-- An administrator that is bound to the fabric with number two and reads unfiltered. -/
def unfilteredSession : Session where
  authorityAt := fun _ _ => .granted
  fabric := some 2
  fabricFiltered := false
  timed := false
  command := false
  offline := false

def entryOfFabricOne : Location where
  path := "accessControl.state.acl.0"
  endpoint := some 0
  cluster := some 31
  owningFabric := some 1

/-- The assertion lets a session read the entry of another fabric, which the predicate
denies it. -/
theorem foreignEntry_disagrees :
    ¬((enforcerFor fabricSensitiveList).mayRead unfilteredSession entryOfFabricOne = true ↔
      (enforcerFor fabricSensitiveList).authorizeRead unfilteredSession entryOfFabricOne =
        .ok ()) := by
  decide

end Schemas

end MatterJs.Protocol.AccessEnforcers
