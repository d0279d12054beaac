import MatterJs.Protocol.FabricBuilder
import MatterJs.Protocol.FabricManager

/-! Commissioning under an armed fail-safe: the commands that change the context, and the
rollback when it expires. -/

namespace MatterJs.Protocol

open General MatterJs.Types

universe u

structure CommandSession where
  id : Nat
  isPase : Bool
  fabric : Option FabricObject

structure OpenCaseSession where
  id : Nat
  peerNodeId : Nat
  fabric : FabricObject

/-- What commissioning changes of a node: the fabrics, the PASE session when one is open,
the CASE sessions, the networks and the breadcrumb, and the armed context with the networks
it has stored. -/
structure FailsafeContext (Networks : Type u) where
  fabrics : FabricManager
  paseSession : Option Nat
  caseSessions : List OpenCaseSession
  networks : Networks
  breadcrumb : Nat
  storedNetworks : Networks
  associatedFabric : Option FabricObject
  csrSessionId : Option Nat
  forUpdateNoc : Option Bool
  fabricBuilder : FabricBuilder
  rootCertSet : Bool
  /-- Tells the fabric objects made under the context apart. -/
  nextReference : Nat

/-- `NodeOperationalCertStatus` -/
inductive NodeOperationalCertStatus where
  | ok
  | invalidPublicKey
  | invalidNoc
  | missingCsr
  | tableFull
  | invalidAdminSubject
  | fabricConflict
  | invalidFabricIndex
  deriving DecidableEq

namespace FailsafeContext

variable {Networks : Type u}

def arm (fabrics : FabricManager) (paseSession : Option Nat)
    (caseSessions : List OpenCaseSession) (networks : Networks) (breadcrumb : Nat)
    (associatedFabric : Option FabricObject) (publicKey : Bytes) (nextReference : Nat) :
    FailsafeContext Networks where
  fabrics := fabrics
  paseSession := paseSession
  caseSessions := caseSessions
  networks := networks
  breadcrumb := breadcrumb
  storedNetworks := networks
  associatedFabric := associatedFabric
  csrSessionId := none
  forUpdateNoc := none
  fabricBuilder := .new publicKey
  rootCertSet := false
  nextReference := nextReference

def fabricIndex (context : FailsafeContext Networks) : Option Nat :=
  context.fabricBuilder.fabricIndex

abbrev Outcome (Networks : Type u) (Result : Type) : Type u :=
  FailsafeContext Networks × Except MatterError Result

variable (certificates : Certificates) (context : FailsafeContext Networks)
  (session : CommandSession)

/-- `new Fabric`: an object without any callbacks. -/
def createFabric (config : Fabric) : FabricObject × FailsafeContext Networks :=
  let fabric : FabricObject := { reference := context.nextReference, config }
  (fabric, { context with
    nextReference := context.nextReference + 1
    fabrics := { context.fabrics with
      removeCallbacks := Function.update context.fabrics.removeCallbacks fabric 0
      persistCallback := Function.update context.fabrics.persistCallback fabric false } })

/-- `Fabric.remove`, which also ends the sessions of the fabric object. -/
def removeFabricObject (fabric : FabricObject) : Outcome Networks Unit :=
  match context.fabrics.remove fabric with
  | (fabrics, .error error) => ({ context with fabrics }, .error error)
  | (fabrics, .ok _) =>
    ({ context with
      fabrics
      caseSessions := context.caseSessions.filter fun session => session.fabric ≠ fabric },
      .ok ())

/-! ## The commands -/

def mapNocErrors (error : MatterError) : Except MatterError NodeOperationalCertStatus :=
  match error with
  | .matterFabricConflictError _ => .ok .fabricConflict
  | .fabricTableFullError _ => .ok .tableFull
  | .cryptoVerifyError _ | .certificateError _ | .validationDatatypeMismatchError _ _
  | .validationMandatoryFieldMissingError _ _ | .validationOutOfBoundsError _ _
  | .unexpectedDataError _ => .ok .invalidNoc
  | .publicKeyError _ => .ok .invalidPublicKey
  | .matterFabricInvalidAdminSubjectError => .ok .invalidAdminSubject
  | error => .error error

def invokedName : String :=
  if context.forUpdateNoc = some true then "UpdateNOC" else "AddNOC"

/-- What `addTrustedRootCertificate` throws for an error of the certificate. -/
def mapRootCertErrors : MatterError → MatterError
  | .cryptoVerifyError message | .certificateError message
  | .validationDatatypeMismatchError message _ | .validationMandatoryFieldMissingError message _
  | .validationOutOfBoundsError message _ | .unexpectedDataError message =>
    .statusResponseError message .invalidCommand
  | error => error

def addTrustedRootCertificate (rootCaCertificate : Bytes) : Outcome Networks Unit :=
  if context.rootCertSet then
    (context, .error (.statusResponseError
      "Trusted root certificate already added in this FailSafe context" .constraintError))
  else if context.fabricIndex.isSome then
    (context, .error (.statusResponseError
      s!"Cannot add trusted root certificates after {context.invokedName}" .constraintError))
  else match context.fabricBuilder.setRootCert certificates rootCaCertificate with
    | .error error => (context, .error (mapRootCertErrors error))
    | .ok fabricBuilder => ({ context with fabricBuilder, rootCertSet := true }, .ok ())

def csrRequest (context : FailsafeContext Networks) (session : CommandSession)
    (csrNonce : Bytes) (isForUpdateNoc : Bool) : Outcome Networks Unit :=
  if csrNonce.length ≠ 32 then
    (context, .error (.statusResponseError "Invalid csr nonce length" .invalidCommand))
  else if isForUpdateNoc && session.isPase then
    (context, .error (.statusResponseError
      "csrRequest for UpdateNoc received on a PASE session" .invalidCommand))
  else if context.fabricIndex.isSome then
    (context, .error (.statusResponseError
      s!"csrRequest received after {context.invokedName} already invoked" .constraintError))
  else
    ({ context with csrSessionId := some session.id, forUpdateNoc := some isForUpdateNoc }, .ok ())

structure NocData where
  nocValue : Bytes
  icacValue : Option Bytes
  adminVendorId : Nat
  ipkValue : Bytes
  caseAdminSubject : Nat
  deriving DecidableEq

def buildFabric (nocData : NocData) : Outcome Networks FabricObject :=
  if !NodeId.isOperationalNodeId nocData.caseAdminSubject &&
      !NodeId.isCaseAuthenticatedTag nocData.caseAdminSubject then
    (context, .error .matterFabricInvalidAdminSubjectError)
  else match context.fabricBuilder.setOperationalCert certificates nocData.nocValue
      nocData.icacValue with
  | .error error => (context, .error error)
  | .ok builder =>
    if context.fabrics.fabrics.values.any fun fabric => builder.matchesToFabric fabric.config
    then
      ({ context with fabricBuilder := builder }, .error (.matterFabricConflictError
        s!"Fabric with Id {builder.fabricId} and Node Id {builder.nodeId} already exists."))
    else
      let builder := { builder with
        rootVendorId := some nocData.adminVendorId
        identityProtectionKey := some nocData.ipkValue
        rootNodeId := some nocData.caseAdminSubject }
      match context.fabrics.allocateFabricIndex with
      | .error error => ({ context with fabricBuilder := builder }, .error error)
      | .ok (fabricIndex, fabrics) =>
        match builder.build fabricIndex with
        | .error error =>
          ({ context with fabricBuilder := builder, fabrics }, .error error)
        | .ok (config, fabricBuilder) =>
          let (fabric, context) :=
            ({ context with fabricBuilder, fabrics }).createFabric config
          (context, .ok fabric)

/-- The end of `addNoc` for the built fabric. `listedInState` says whether the cluster's
state has an entry for its index, which is then an error. -/
def addBuiltFabric (fabric : FabricObject) (listedInState : Bool) :
    Outcome Networks NodeOperationalCertStatus :=
  match context.fabrics.addFabric fabric with
  | .error error => (context, .error error)
  | .ok fabrics =>
    let context := { context with fabrics, associatedFabric := some fabric }
    let failed (error : MatterError) : Outcome Networks NodeOperationalCertStatus :=
      match context.removeFabricObject fabric with
      | (context, .error failure) => (context, .error failure)
      | (context, .ok _) => (context, .error error)
    if session.isPase && session.fabric.isSome then
      failed (.matterFlowError "Session already has an associated Fabric. Cannot change this.")
    else if listedInState then
      failed (.matterFlowError
        s!"FabricIndex {fabric.fabricIndex} already exists in state. This should not happen")
    else (context, .ok .ok)

/-- `addNoc`; `tableFull` says whether the supported fabrics are all commissioned. -/
def addNoc (nocData : NocData) (tableFull listedInState : Bool) :
    Outcome Networks NodeOperationalCertStatus :=
  if context.fabricIndex.isSome then
    (context, .error (.statusResponseError
      s!"AddNoc is illegal after {context.invokedName} in the same failsafe context"
      .constraintError))
  else if context.fabricBuilder.rootCert = none then (context, .ok .invalidNoc)
  else if context.csrSessionId ≠ some session.id then (context, .ok .missingCsr)
  else if context.forUpdateNoc = some true then
    (context, .error (.statusResponseError
      "AddNoc is illegal after CsrRequest for UpdateNOC in same failsafe context"
      .constraintError))
  else if tableFull then (context, .ok .tableFull)
  else match context.buildFabric certificates nocData with
    | (context, .error error) => (context, mapNocErrors error)
    | (context, .ok fabric) => context.addBuiltFabric session fabric listedInState

def buildUpdatedFabric (nocValue : Bytes) (icacValue : Option Bytes) :
    Outcome Networks FabricObject :=
  match context.associatedFabric with
  | none => (context, .error (.matterFlowError
      "No fabric associated with failsafe context, but we prepare an Fabric update."))
  | some associated =>
    let builder := context.fabricBuilder.initializeFromFabricForUpdate associated.config
    match builder.setOperationalCert certificates nocValue icacValue with
    | .error error => ({ context with fabricBuilder := builder }, .error error)
    | .ok builder =>
      match builder.build associated.fabricIndex with
      | .error error => ({ context with fabricBuilder := builder }, .error error)
      | .ok (config, fabricBuilder) =>
        let (fabric, context) := ({ context with fabricBuilder }).createFabric config
        (context, .ok fabric)

def updateFabric (context : FailsafeContext Networks) (fabric : FabricObject) :
    Outcome Networks Unit :=
  match context.fabrics.updateFabric fabric with
  | .error error => (context, .error error)
  | .ok fabrics => ({ context with fabrics }, .ok ())

def updateNoc (nocValue : Bytes) (icacValue : Option Bytes) :
    Outcome Networks NodeOperationalCertStatus :=
  if context.fabricIndex.isSome then
    (context, .error (.statusResponseError
      s!"UpdateNoc is illegal after {context.invokedName} in same failsafe context"
      .constraintError))
  else if context.forUpdateNoc = some false then
    (context, .error (.statusResponseError
      "UpdateNoc is illegal after CsrRequest for AddNOC in same failsafe context"
      .constraintError))
  else if context.rootCertSet ∨ context.forUpdateNoc = none then (context, .ok .missingCsr)
  else match session.fabric with
  | none => (context, .error (.noAssociatedFabricError
      "Session needs to have an associated Fabric for fabric sensitive data handling."))
  | some fabric =>
    if some fabric.fabricIndex ≠ context.associatedFabric.map FabricObject.fabricIndex then
      (context, .error (.statusResponseError
        "Fabric of this session and the failsafe context do not match" .constraintError))
    else match context.buildUpdatedFabric certificates nocValue icacValue with
      | (context, .error error) => (context, mapNocErrors error)
      | (context, .ok updated) =>
        match context.updateFabric updated with
        | (context, .error error) => (context, mapNocErrors error)
        | (context, .ok _) => (context, .ok .ok)

/-- The `RemoveFabric` command. -/
def removeFabric (fabricIndex : Nat) : Outcome Networks NodeOperationalCertStatus :=
  match context.fabrics.fabrics.get fabricIndex with
  | none => (context, .ok .invalidFabricIndex)
  | some fabric =>
    match context.removeFabricObject fabric with
    | (context, .error error) => (context, .error error)
    | (context, .ok _) => (context, .ok .ok)

/-- What happens between arming and expiry. -/
inductive Command (Networks : Type u) where
  | addTrustedRootCertificate (rootCaCertificate : Bytes)
  | csrRequest (session : CommandSession) (csrNonce : Bytes) (isForUpdateNoc : Bool)
  | addNoc (session : CommandSession) (nocData : NocData) (tableFull listedInState : Bool)
  | updateNoc (session : CommandSession) (nocValue : Bytes) (icacValue : Option Bytes)
  | removeFabric (fabricIndex : Nat)
  | setNetworks (networks : Networks)
  | setBreadcrumb (breadcrumb : Nat)
  /-- Sessions come and go. -/
  | setSessions (paseSession : Option Nat) (caseSessions : List OpenCaseSession)

def execute : Command Networks → FailsafeContext Networks
  | .addTrustedRootCertificate rootCaCertificate =>
    (context.addTrustedRootCertificate certificates rootCaCertificate).1
  | .csrRequest session csrNonce isForUpdateNoc =>
    (context.csrRequest session csrNonce isForUpdateNoc).1
  | .addNoc session nocData tableFull listedInState =>
    (context.addNoc certificates session nocData tableFull listedInState).1
  | .updateNoc session nocValue icacValue =>
    (context.updateNoc certificates session nocValue icacValue).1
  | .removeFabric fabricIndex => (context.removeFabric fabricIndex).1
  | .setNetworks networks => { context with networks }
  | .setBreadcrumb breadcrumb => { context with breadcrumb }
  | .setSessions paseSession caseSessions => { context with paseSession, caseSessions }

/-! ## The rollback -/

def revokeBuiltFabric : Outcome Networks Unit :=
  match context.fabricIndex with
  | none => (context, .ok ())
  | some fabricIndex =>
    if context.forUpdateNoc = some true then (context, .ok ())
    else match context.fabrics.fabrics.get fabricIndex with
      | none => (context, .error (.matterFlowError
          s!"Fabric with index {fabricIndex} does not exist to revoke."))
      | some fabric => context.removeFabricObject fabric

def removePaseSession : FailsafeContext Networks :=
  { context with paseSession := none }

def removeCaseSession : FailsafeContext Networks :=
  match context.fabricIndex.bind context.fabrics.fabrics.get with
  | none => context
  | some fabric =>
    { context with
      caseSessions := context.caseSessions.eraseP fun session =>
        session.fabric.fabricIndex = fabric.fabricIndex &&
          session.peerNodeId = fabric.config.rootNodeId }

def restoreNetworkState : FailsafeContext Networks :=
  { context with networks := context.storedNetworks }

def restoreFabric : Outcome Networks Unit :=
  match context.associatedFabric with
  | none => (context, .ok ())
  | some fabric =>
    if context.forUpdateNoc = some true then context.updateFabric fabric
    else (context, .ok ())

/-- 6. Remove the fabric that was added, when `hadFabric` says that it was still there. -/
def revokeFabric (hadFabric : Bool) : Outcome Networks Unit :=
  if context.forUpdateNoc ≠ some true ∧ hadFabric then
    match context.fabricIndex.bind context.fabrics.fabrics.get with
    | none => (context, .ok ())
    | some fabric => context.removeFabricObject fabric
  else (context, .ok ())

def restoreBreadcrumb : FailsafeContext Networks :=
  { context with breadcrumb := 0 }

/-- The numbered steps. A step that throws leaves out what comes behind it. -/
def takeSteps : Outcome Networks Unit :=
  let context := context.removePaseSession
  let hadFabric := (context.fabricIndex.bind context.fabrics.fabrics.get).isSome
  let context := context.removeCaseSession
  let context := context.restoreNetworkState
  match context.restoreFabric with
  | (context, .error error) => (context, .error error)
  | (context, .ok _) =>
    match context.revokeFabric hadFabric with
    | (context, .error error) => (context, .error error)
    | (context, .ok _) => (context.restoreBreadcrumb, .ok ())

def rollback : Outcome Networks Unit :=
  match context.revokeBuiltFabric with
  | (context, .error error) => (context, .error error)
  | (context, .ok _) => context.takeSteps

end FailsafeContext

end MatterJs.Protocol
