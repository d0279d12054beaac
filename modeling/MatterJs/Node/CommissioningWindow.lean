import MatterJs.Protocol.FabricManager

/-! Commissioning windows: the commands that open them and the commissioner behind, and what
is left of an opening that fails. -/

namespace MatterJs.Node.CommissioningWindow

open General Protocol

inductive CommissioningWindowStatus where
  | windowNotOpen
  | enhancedWindowOpen
  | basicWindowOpen
  deriving DecidableEq

def CommissioningWindowStatus.toNat : CommissioningWindowStatus → Nat
  | windowNotOpen => 0
  | enhancedWindowOpen => 1
  | basicWindowOpen => 2

/-- `AdministratorCommissioning.StatusCode` -/
inductive ClusterStatusCode where
  | busy
  | pakeParameterError
  | windowNotOpen
  deriving DecidableEq

inductive WindowError where
  | statusResponse (message : String) (code : StatusCode)
      (clusterCode : Option ClusterStatusCode)
  | matter (error : MatterError)
  /-- What the computation of the verifier throws -/
  | pinRejected
  deriving DecidableEq

/-- A function object. Those that one opening makes are its own. -/
inductive Callback where
  | endCommissioning (opening : Nat)
  | fabricRemoved (opening : Nat)
  | other (number : Nat)
  deriving DecidableEq

structure PaseServer where
  reference : Nat
  iterations : Nat
  salt : Bytes
  deriving DecidableEq

/-- `AdministratorCommissioningServer.State` -/
structure WindowAttributes where
  windowStatus : CommissioningWindowStatus
  adminFabricIndex : Option Nat
  adminVendorId : Option Nat
  deriving DecidableEq

structure Server where
  /-- The timer that runs, with its duration in milliseconds -/
  commissioningWindowTimeout : Option Nat
  /-- The fabric object and the callback that it deletes there -/
  stopMonitoringFabricForRemoval : Option (FabricObject × Callback)
  minimumCommissioningTimeoutS : Nat
  maximumCommissioningTimeoutS : Nat
  attributes : WindowAttributes
  deriving DecidableEq

/-- `DeviceCommissioner` with the PASE commissioner of the secure channel protocol -/
structure Commissioner where
  isFailsafeArmed : Bool
  windowStatus : CommissioningWindowStatus
  activeDiscriminator : Option Nat
  activeCommissioningEndCallback : Option Callback
  paseCommissioner : Option PaseServer
  deriving DecidableEq

structure State where
  server : Server
  commissioner : Commissioner
  removeCallbacks : FabricObject → List Callback

inductive SessionContext where
  | none
  | insecure
  | secure (isPase : Bool) (fabric : Option FabricObject)
  deriving DecidableEq

/-- What a call finds around it -/
structure Surroundings where
  session : SessionContext
  /-- The number of the functions that this call makes -/
  opening : Nat
  fromVerificationValue : (value : Bytes) → (iterations : Nat) → (salt : Bytes) → PaseServer
  /-- `PaseServer.fromPin`, with nothing where it throws -/
  fromPin : Option PaseServer
  /-- What others do to the commissioner while the server is computed from the PIN -/
  meanwhile : Commissioner → Commissioner

def SessionContext.associatedFabric : SessionContext → Except MatterError FabricObject
  | none => .error (.implementationError "Illegal operation outside session context")
  | insecure => .error (.matterFlowError "Insecure session in secure context")
  | secure isPase fabric =>
    match fabric with
    | some fabric => .ok fabric
    | .none => .error (.noAssociatedFabricError
        ((if isPase then "PASE " else "") ++
          "Session needs to have an associated Fabric for fabric sensitive data handling."))

/-! ## The commissioner -/

namespace Commissioner

variable (commissioner : Commissioner)

/-- What `#becomeCommissionable` throws, where it does -/
def refusal (windowStatus : CommissioningWindowStatus) (discriminator : Option Nat) :
    Option WindowError :=
  if commissioner.windowStatus = windowStatus ∧
      (discriminator = none ∨ discriminator = commissioner.activeDiscriminator) then none
  else if commissioner.windowStatus ≠ .windowNotOpen then
    some (.matter (.internalError
      ("Commissioning window already open with different mode (" ++
        toString commissioner.windowStatus.toNat ++ ")!")))
  else if commissioner.activeCommissioningEndCallback ≠ none then
    some (.matter (.internalError "Commissioning window already open with different callback!"))
  else none

def becomeCommissionable (windowStatus : CommissioningWindowStatus)
    (activeCommissioningEndCallback : Option Callback) (discriminator : Option Nat) :
    Commissioner × Option WindowError :=
  if commissioner.windowStatus = windowStatus ∧
      (discriminator = none ∨ discriminator = commissioner.activeDiscriminator) then
    (commissioner, none)
  else
    match commissioner.refusal windowStatus discriminator with
    | some error => (commissioner, some error)
    | none =>
      ({ commissioner with
        activeCommissioningEndCallback
        activeDiscriminator := discriminator
        windowStatus }, none)

def setPaseCommissioner (paseServer : PaseServer) : Commissioner :=
  { commissioner with paseCommissioner := some paseServer }

def allowEnhancedCommissioning (discriminator : Nat) (paseServer : PaseServer)
    (commissioningEndCallback : Callback) : Commissioner × Option WindowError :=
  if commissioner.windowStatus = .basicWindowOpen then
    (commissioner, some (.matter (.matterFlowError
      "Basic commissioning window is already open! Cannot set Enhanced commissioning mode.")))
  else
    (commissioner.setPaseCommissioner paseServer).becomeCommissionable .enhancedWindowOpen
      (some commissioningEndCallback) (some discriminator)

end Commissioner

/-- What a call comes to -/
structure Outcome (Result : Type) where
  result : Result
  error : Option WindowError
  /-- Others have had their turn. -/
  awaited : Bool

def Commissioner.allowBasicCommissioning (surroundings : Surroundings)
    (commissioner : Commissioner) (commissioningEndCallback : Option Callback) :
    Outcome Commissioner :=
  if commissioner.windowStatus = .enhancedWindowOpen then
    ⟨commissioner, some (.matter (.matterFlowError
      "Enhanced commissioning window is already open! Cannot set Basic commissioning mode.")),
      false⟩
  else
    match surroundings.fromPin with
    | none => ⟨surroundings.meanwhile commissioner, some .pinRejected, true⟩
    | some paseServer =>
      let become := ((surroundings.meanwhile commissioner).setPaseCommissioner
        paseServer).becomeCommissionable .basicWindowOpen commissioningEndCallback none
      ⟨become.1, become.2, true⟩

/-! ## The commands -/

structure OpenCommissioningWindowRequest where
  commissioningTimeout : Nat
  pakePasscodeVerifier : Bytes
  discriminator : Nat
  iterations : Nat
  salt : Bytes
  deriving DecidableEq

def pakePasscodeVerifierLength : Nat := 32 + 65

def OpenCommissioningWindowRequest.check (request : OpenCommissioningWindowRequest) :
    Option WindowError :=
  if request.pakePasscodeVerifier.length ≠ pakePasscodeVerifierLength then
    some (.statusResponse "PAKE Passcode verifier length is invalid." .failure
      (some .pakeParameterError))
  else if request.iterations < 1000 ∨ 100000 < request.iterations then
    some (.statusResponse "PAKE iterations invalid." .failure (some .pakeParameterError))
  else if request.salt.length < 16 ∨ 32 < request.salt.length then
    some (.statusResponse "PAKE salt has invalid length." .failure (some .pakeParameterError))
  else none

namespace State

variable (state : State)

variable (surroundings : Surroundings) (commissioningTimeout : Nat)
  (windowStatus : CommissioningWindowStatus)

/-- `#assertCommissioningWindowRequirements`, with what it throws -/
def assertCommissioningWindowRequirements : Option WindowError :=
  if state.server.commissioningWindowTimeout ≠ none then
    some (.statusResponse "A commissioning window is already opened." .failure (some .busy))
  else if state.server.maximumCommissioningTimeoutS < commissioningTimeout then
    some (.statusResponse
      ("Commissioning timeout must not exceed " ++
        toString state.server.maximumCommissioningTimeoutS ++ " seconds.") .invalidCommand none)
  else if commissioningTimeout < state.server.minimumCommissioningTimeoutS then
    some (.statusResponse
      ("Commissioning timeout must not be lower then " ++
        toString state.server.minimumCommissioningTimeoutS ++ " seconds.") .invalidCommand none)
  else if state.commissioner.isFailsafeArmed then
    some (.statusResponse "Failsafe timer armed, assume commissioning in progress." .failure
      (some .busy))
  else none

def setTimer : State :=
  { state with
    server := { state.server with
      commissioningWindowTimeout := some (commissioningTimeout * 1000) } }

/-- The part of `#initializeCommissioningWindow` that has the fabric -/
def monitor (adminFabric : FabricObject) (opening : Nat) : State :=
  { state with
    server := { state.server with
      attributes :=
        { windowStatus
          adminFabricIndex := some adminFabric.fabricIndex
          adminVendorId := some adminFabric.config.rootVendorId }
      stopMonitoringFabricForRemoval := some (adminFabric, .fabricRemoved opening) }
    removeCallbacks := Function.update state.removeCallbacks adminFabric
      (state.removeCallbacks adminFabric ++ [.fabricRemoved opening]) }

def initializeCommissioningWindow : State × Option WindowError :=
  if state.server.commissioningWindowTimeout ≠ none then
    (state, some (.matter (.internalError "Commissioning window already initialized.")))
  else
    let state := state.setTimer commissioningTimeout
    match surroundings.session.associatedFabric with
    | .error error => (state, some (.matter error))
    | .ok adminFabric => (state.monitor windowStatus adminFabric surroundings.opening, none)

def finish (answer : Outcome Commissioner) : Outcome State :=
  ⟨{ state with commissioner := answer.result }, answer.error, answer.awaited⟩

/-- What both commands do once their parameters are right -/
def openWindow (allow : Commissioner → Outcome Commissioner) : Outcome State :=
  match state.assertCommissioningWindowRequirements commissioningTimeout with
  | some error => ⟨state, some error, false⟩
  | none =>
    match state.initializeCommissioningWindow surroundings commissioningTimeout
        windowStatus with
    | (state, some error) => ⟨state, some error, false⟩
    | (state, none) => state.finish (allow state.commissioner)

def openCommissioningWindow (request : OpenCommissioningWindowRequest) : Outcome State :=
  match request.check with
  | some error => ⟨state, some error, false⟩
  | none =>
    state.openWindow surroundings request.commissioningTimeout .enhancedWindowOpen
      fun commissioner =>
        let answer := commissioner.allowEnhancedCommissioning request.discriminator
          (surroundings.fromVerificationValue request.pakePasscodeVerifier request.iterations
            request.salt)
          (.endCommissioning surroundings.opening)
        ⟨answer.1, answer.2, false⟩

def openBasicCommissioningWindow : Outcome State :=
  state.openWindow surroundings commissioningTimeout .basicWindowOpen fun commissioner =>
    commissioner.allowBasicCommissioning surroundings
      (some (.endCommissioning surroundings.opening))

end State

/-- The transaction of a command that throws undoes its attribute writes. -/
def Outcome.rollback (outcome : Outcome State) (before : State) : Outcome State :=
  match outcome.error with
  | none => outcome
  | some _ =>
    { outcome with
      result := { outcome.result with
        server := { outcome.result.server with attributes := before.server.attributes } } }

inductive Call where
  | openCommissioningWindow (request : OpenCommissioningWindowRequest)
  | openBasicCommissioningWindow (commissioningTimeout : Nat)
  | allowEnhancedCommissioning (discriminator : Nat) (paseServer : PaseServer)
      (commissioningEndCallback : Callback)
  | allowBasicCommissioning (commissioningEndCallback : Option Callback)
  deriving DecidableEq

variable (surroundings : Surroundings)

def call (state : State) : Call → Outcome State
  | .openCommissioningWindow request =>
    (state.openCommissioningWindow surroundings request).rollback state
  | .openBasicCommissioningWindow commissioningTimeout =>
    (state.openBasicCommissioningWindow surroundings commissioningTimeout).rollback state
  | .allowEnhancedCommissioning discriminator paseServer commissioningEndCallback =>
    let answer := state.commissioner.allowEnhancedCommissioning discriminator paseServer
      commissioningEndCallback
    state.finish ⟨answer.1, answer.2, false⟩
  | .allowBasicCommissioning commissioningEndCallback =>
    state.finish (state.commissioner.allowBasicCommissioning surroundings commissioningEndCallback)

/-- Everything is as before the call, up to what others did to the commissioner. -/
structure Restored (surroundings : Surroundings) (state : State) (outcome : Outcome State) :
    Prop where
  server : outcome.result.server = state.server
  removeCallbacks : outcome.result.removeCallbacks = state.removeCallbacks
  commissioner : outcome.result.commissioner =
    if outcome.awaited then surroundings.meanwhile state.commissioner else state.commissioner

def AllOrNothing (state : State) (request : Call) : Prop :=
  (call surroundings state request).error ≠ none →
    Restored surroundings state (call surroundings state request)

/-- The checks that come before every change fail, or no check does. -/
def FailsFirstOrNever (state : State) : Call → Prop
  | .openCommissioningWindow request =>
    request.check ≠ none ∨
      state.assertCommissioningWindowRequirements request.commissioningTimeout ≠ none ∨
      ((∃ fabric, surroundings.session.associatedFabric = .ok fabric) ∧
        state.commissioner.windowStatus ≠ .basicWindowOpen ∧
        state.commissioner.refusal .enhancedWindowOpen (some request.discriminator) = none)
  | .openBasicCommissioningWindow commissioningTimeout =>
    state.assertCommissioningWindowRequirements commissioningTimeout ≠ none ∨
      ((∃ fabric, surroundings.session.associatedFabric = .ok fabric) ∧
        state.commissioner.windowStatus ≠ .enhancedWindowOpen ∧
        surroundings.fromPin ≠ none ∧
        (surroundings.meanwhile state.commissioner).refusal .basicWindowOpen none = none)
  | .allowEnhancedCommissioning discriminator paseServer _ =>
    state.commissioner.windowStatus = .basicWindowOpen ∨
      state.commissioner.refusal .enhancedWindowOpen (some discriminator) = none ∨
      state.commissioner.paseCommissioner = some paseServer
  | .allowBasicCommissioning _ =>
    state.commissioner.windowStatus = .enhancedWindowOpen ∨ surroundings.fromPin = none ∨
      (surroundings.meanwhile state.commissioner).refusal .basicWindowOpen none = none ∨
      (surroundings.meanwhile state.commissioner).paseCommissioner = surroundings.fromPin

/-! ## The commissioner's answers -/

section Answers

variable {surroundings : Surroundings} {commissioner : Commissioner}
  {windowStatus : CommissioningWindowStatus} {callback : Option Callback}
  {discriminator : Option Nat}

theorem becomeCommissionable_error :
    (commissioner.becomeCommissionable windowStatus callback discriminator).2 =
      commissioner.refusal windowStatus discriminator := by
  rw [Commissioner.becomeCommissionable]
  by_cases again : commissioner.windowStatus = windowStatus ∧
      (discriminator = none ∨ discriminator = commissioner.activeDiscriminator)
  · rw [if_pos again, Commissioner.refusal, if_pos again]
  · rw [if_neg again]
    cases commissioner.refusal windowStatus discriminator <;> rfl

theorem becomeCommissionable_of_refusal
    (refused : commissioner.refusal windowStatus discriminator ≠ none) :
    (commissioner.becomeCommissionable windowStatus callback discriminator).1 = commissioner := by
  rw [Commissioner.becomeCommissionable]
  by_cases again : commissioner.windowStatus = windowStatus ∧
      (discriminator = none ∨ discriminator = commissioner.activeDiscriminator)
  · rw [if_pos again]
  · rw [if_neg again]
    rcases Option.ne_none_iff_exists'.mp refused with ⟨error, isError⟩
    rw [isError]

theorem refusal_setPaseCommissioner (paseServer : PaseServer) :
    (commissioner.setPaseCommissioner paseServer).refusal windowStatus discriminator =
      commissioner.refusal windowStatus discriminator := rfl

theorem allowEnhancedCommissioning_error {discriminator : Nat} {paseServer : PaseServer}
    {callback : Callback} :
    (commissioner.allowEnhancedCommissioning discriminator paseServer callback).2 = none ↔
      commissioner.windowStatus ≠ .basicWindowOpen ∧
        commissioner.refusal .enhancedWindowOpen (some discriminator) = none := by
  rw [Commissioner.allowEnhancedCommissioning]
  by_cases basic : commissioner.windowStatus = .basicWindowOpen
  · simp [basic]
  · rw [if_neg basic, becomeCommissionable_error, refusal_setPaseCommissioner]
    simp [basic]

theorem allowBasicCommissioning_error :
    (commissioner.allowBasicCommissioning surroundings callback).error = none ↔
      commissioner.windowStatus ≠ .enhancedWindowOpen ∧ surroundings.fromPin ≠ none ∧
        (surroundings.meanwhile commissioner).refusal .basicWindowOpen none = none := by
  rw [Commissioner.allowBasicCommissioning]
  by_cases enhanced : commissioner.windowStatus = .enhancedWindowOpen
  · simp [enhanced]
  · rw [if_neg enhanced]
    cases fromPin : surroundings.fromPin with
    | none => simp
    | some paseServer =>
      dsimp only
      rw [becomeCommissionable_error, refusal_setPaseCommissioner]
      simp [enhanced]

theorem setPaseCommissioner_eq_self_iff (paseServer : PaseServer) :
    commissioner.setPaseCommissioner paseServer = commissioner ↔
      commissioner.paseCommissioner = some paseServer := by
  constructor
  · intro same
    rw [← same]
    rfl
  · intro isSet
    rw [Commissioner.setPaseCommissioner, ← isSet]

theorem allowEnhancedCommissioning_restored_iff {discriminator : Nat} {paseServer : PaseServer}
    {callback : Callback} :
    ((commissioner.allowEnhancedCommissioning discriminator paseServer callback).2 ≠ none →
      (commissioner.allowEnhancedCommissioning discriminator paseServer callback).1 =
        commissioner) ↔
      commissioner.windowStatus = .basicWindowOpen ∨
        commissioner.refusal .enhancedWindowOpen (some discriminator) = none ∨
        commissioner.paseCommissioner = some paseServer := by
  rw [Commissioner.allowEnhancedCommissioning]
  by_cases basic : commissioner.windowStatus = .basicWindowOpen
  · simp [basic]
  · rw [if_neg basic, becomeCommissionable_error, refusal_setPaseCommissioner]
    by_cases refused : commissioner.refusal .enhancedWindowOpen (some discriminator) = none
    · simp [refused]
    · rw [becomeCommissionable_of_refusal (by rwa [refusal_setPaseCommissioner]),
        setPaseCommissioner_eq_self_iff]
      simp [basic, refused]

theorem allowBasicCommissioning_restored_iff :
    ((commissioner.allowBasicCommissioning surroundings callback).error ≠ none →
      (commissioner.allowBasicCommissioning surroundings callback).result =
        if (commissioner.allowBasicCommissioning surroundings callback).awaited then
          surroundings.meanwhile commissioner
        else commissioner) ↔
      commissioner.windowStatus = .enhancedWindowOpen ∨ surroundings.fromPin = none ∨
        (surroundings.meanwhile commissioner).refusal .basicWindowOpen none = none ∨
        (surroundings.meanwhile commissioner).paseCommissioner = surroundings.fromPin := by
  rw [Commissioner.allowBasicCommissioning]
  by_cases enhanced : commissioner.windowStatus = .enhancedWindowOpen
  · simp [enhanced]
  · rw [if_neg enhanced]
    cases fromPin : surroundings.fromPin with
    | none => simp
    | some paseServer =>
      dsimp only
      rw [becomeCommissionable_error, refusal_setPaseCommissioner, if_pos rfl]
      by_cases refused :
          (surroundings.meanwhile commissioner).refusal .basicWindowOpen none = none
      · simp [refused]
      · rw [becomeCommissionable_of_refusal (by rwa [refusal_setPaseCommissioner]),
          setPaseCommissioner_eq_self_iff]
        simp [enhanced, refused]

end Answers

/-! ## The commands -/

section Commands

variable {surroundings : Surroundings} {state : State} {commissioningTimeout : Nat}
  {windowStatus : CommissioningWindowStatus} {allow : Commissioner → Outcome Commissioner}

theorem timeout_eq_none_of_requirements
    (meets : state.assertCommissioningWindowRequirements commissioningTimeout = none) :
    state.server.commissioningWindowTimeout = none := by
  rw [State.assertCommissioningWindowRequirements] at meets
  by_contra isOpen
  rw [if_pos isOpen] at meets
  cases meets

theorem openWindow_of_requirements
    (meets : state.assertCommissioningWindowRequirements commissioningTimeout = none) :
    state.openWindow surroundings commissioningTimeout windowStatus allow =
      match surroundings.session.associatedFabric with
      | .error error => ⟨state.setTimer commissioningTimeout, some (.matter error), false⟩
      | .ok fabric =>
        ((state.setTimer commissioningTimeout).monitor windowStatus fabric
          surroundings.opening).finish (allow state.commissioner) := by
  have closed := timeout_eq_none_of_requirements meets
  simp only [State.openWindow, meets, State.initializeCommissioningWindow, closed]
  cases surroundings.session.associatedFabric <;> rfl

theorem timer_openWindow
    (meets : state.assertCommissioningWindowRequirements commissioningTimeout = none) :
    ((state.openWindow surroundings commissioningTimeout windowStatus allow).rollback
      state).result.server.commissioningWindowTimeout = some (commissioningTimeout * 1000) := by
  rw [openWindow_of_requirements meets]
  cases surroundings.session.associatedFabric with
  | error error => rfl
  | ok fabric =>
    dsimp only [State.finish]
    cases (allow state.commissioner).error <;> rfl

theorem error_rollback (outcome : Outcome State) (before : State) :
    (outcome.rollback before).error = outcome.error := by
  rw [Outcome.rollback]
  cases isError : outcome.error with
  | none => exact isError
  | some error => rfl

theorem error_openWindow_iff
    (meets : state.assertCommissioningWindowRequirements commissioningTimeout = none) :
    (state.openWindow surroundings commissioningTimeout windowStatus allow).error = none ↔
      (∃ fabric, surroundings.session.associatedFabric = .ok fabric) ∧
        (allow state.commissioner).error = none := by
  rw [openWindow_of_requirements meets]
  cases surroundings.session.associatedFabric with
  | error error => simp
  | ok fabric => simp [State.finish]

theorem restored_of_unchanged {error : Option WindowError} :
    Restored surroundings state (Outcome.rollback ⟨state, error, false⟩ state) := by
  cases error <;> exact ⟨rfl, rfl, rfl⟩

theorem openWindow_restored_iff :
    (((state.openWindow surroundings commissioningTimeout windowStatus allow).rollback
        state).error ≠ none →
      Restored surroundings state
        ((state.openWindow surroundings commissioningTimeout windowStatus allow).rollback state)) ↔
      state.assertCommissioningWindowRequirements commissioningTimeout ≠ none ∨
        ((∃ fabric, surroundings.session.associatedFabric = .ok fabric) ∧
          (allow state.commissioner).error = none) := by
  by_cases meets : state.assertCommissioningWindowRequirements commissioningTimeout = none
  · have closed := timeout_eq_none_of_requirements meets
    have runs := @timer_openWindow surroundings state commissioningTimeout windowStatus allow meets
    rw [error_rollback, ← error_openWindow_iff meets]
    constructor
    · intro restores
      right
      by_contra fails
      have same := (restores fails).server
      rw [same, closed] at runs
      cases runs
    · rintro (unmet | succeeds) fails
      · exact absurd meets unmet
      · exact absurd succeeds fails
  · refine iff_of_true (fun _ => ?_) (.inl meets)
    rcases Option.ne_none_iff_exists'.mp meets with ⟨error, isError⟩
    rw [State.openWindow, isError]
    exact restored_of_unchanged

end Commands

/-- A call that throws changes nothing exactly when a check that comes first is the one that
fails. -/
theorem allOrNothing_iff (surroundings : Surroundings) (state : State) (request : Call) :
    AllOrNothing surroundings state request ↔ FailsFirstOrNever surroundings state request := by
  cases request with
  | openCommissioningWindow request =>
    rw [AllOrNothing, call, FailsFirstOrNever, State.openCommissioningWindow]
    cases check : request.check with
    | some error =>
      refine iff_of_true (fun _ => restored_of_unchanged) (.inl ?_)
      exact fun same => nomatch same
    | none =>
      rw [openWindow_restored_iff]
      rw [allowEnhancedCommissioning_error]
      simp
  | openBasicCommissioningWindow commissioningTimeout =>
    rw [AllOrNothing, call, FailsFirstOrNever, State.openBasicCommissioningWindow,
      openWindow_restored_iff, allowBasicCommissioning_error]
  | allowEnhancedCommissioning discriminator paseServer callback =>
    rw [FailsFirstOrNever, ← @allowEnhancedCommissioning_restored_iff state.commissioner
      discriminator paseServer callback]
    constructor
    · intro restores fails
      exact (restores fails).commissioner
    · intro restores fails
      exact ⟨rfl, rfl, restores fails⟩
  | allowBasicCommissioning callback =>
    rw [FailsFirstOrNever, ← @allowBasicCommissioning_restored_iff surroundings
      state.commissioner callback]
    constructor
    · intro restores fails
      exact (restores fails).commissioner
    · intro restores fails
      exact ⟨rfl, rfl, restores fails⟩

def closedState : State where
  server :=
    { commissioningWindowTimeout := none
      stopMonitoringFabricForRemoval := none
      minimumCommissioningTimeoutS := 180
      maximumCommissioningTimeoutS := 900
      attributes := ⟨.windowNotOpen, none, none⟩ }
  commissioner := ⟨false, .windowNotOpen, none, none, none⟩
  removeCallbacks := fun _ => []

def overPase : Surroundings where
  session := .secure true none
  opening := 0
  fromVerificationValue := fun _ iterations salt => ⟨1, iterations, salt⟩
  fromPin := some ⟨2, 1000, []⟩
  meanwhile := id

/-- The session has no fabric, which is only found out when the timer runs. -/
theorem allOrNothing_overPase_false :
    ¬AllOrNothing overPase closedState (.openBasicCommissioningWindow 180) := by
  intro all
  have restored := all (by decide)
  exact absurd restored.server (by decide)

end MatterJs.Node.CommissioningWindow
