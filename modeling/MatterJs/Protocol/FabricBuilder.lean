import MatterJs.Protocol.Fabric
import MatterJs.Types.NodeId

/-! The fabric builder: what a commissioner has sent of a fabric, and the fabric made of
it. -/

namespace MatterJs.Protocol

open General MatterJs.Types

/-- What a node operational certificate says. -/
structure NocSubject where
  nodeId : Nat
  fabricId : Nat
  caseAuthenticatedTags : List Nat
  ellipticCurvePublicKey : Bytes
  deriving DecidableEq

structure Certificates where
  /-- `TlvRootCertificate.decode` and `verifyRootCertificate`: the public key. -/
  readRootCert : Bytes → Except MatterError Bytes
  /-- `TlvOperationalCertificate.decode` -/
  decodeNoc : Bytes → Except MatterError NocSubject
  /-- The verification of the root, operational and intermediate certificate. -/
  verifyNoc : Bytes → Bytes → Option Bytes → Except MatterError Unit

structure FabricBuilder where
  /-- The public key of the builder's own key pair. -/
  publicKey : Bytes
  rootVendorId : Option Nat
  rootCert : Option Bytes
  rootPublicKey : Option Bytes
  intermediateCACert : Option Bytes
  operationalCert : Option Bytes
  fabricId : Option Nat
  nodeId : Option Nat
  rootNodeId : Option Nat
  identityProtectionKey : Option Bytes
  fabricIndex : Option Nat
  label : String
  deriving DecidableEq

namespace FabricBuilder

def new (publicKey : Bytes) : FabricBuilder where
  publicKey := publicKey
  rootVendorId := none
  rootCert := none
  rootPublicKey := none
  intermediateCACert := none
  operationalCert := none
  fabricId := none
  nodeId := none
  rootNodeId := none
  identityProtectionKey := none
  fabricIndex := none
  label := ""

def setRootCert (certificates : Certificates) (builder : FabricBuilder) (rootCert : Bytes) :
    Except MatterError FabricBuilder := do
  let rootPublicKey ← certificates.readRootCert rootCert
  return { builder with rootCert := some rootCert, rootPublicKey := some rootPublicKey }

def setOperationalCert (certificates : Certificates) (builder : FabricBuilder)
    (operationalCert : Bytes) (intermediateCACert : Option Bytes) :
    Except MatterError FabricBuilder := do
  let intermediateCACert := if intermediateCACert = some [] then none else intermediateCACert
  let subject ← certificates.decodeNoc operationalCert
  CaseAuthenticatedTag.validateNocTagList subject.caseAuthenticatedTags
  if subject.ellipticCurvePublicKey ≠ builder.publicKey then
    .error (.publicKeyError "Operational Certificate does not match public key.")
  match builder.rootCert with
  | none => .error (.matterFlowError "Root Certificate needs to be set first.")
  | some rootCert =>
    certificates.verifyNoc rootCert operationalCert intermediateCACert
    return { builder with
      operationalCert := some operationalCert
      intermediateCACert
      fabricId := some subject.fabricId
      nodeId := some subject.nodeId }

def initializeFromFabricForUpdate (builder : FabricBuilder) (fabric : Fabric) :
    FabricBuilder :=
  { builder with
    rootVendorId := some fabric.rootVendorId
    rootNodeId := some fabric.rootNodeId
    identityProtectionKey := some fabric.identityProtectionKey
    rootCert := some fabric.rootCert
    rootPublicKey := some fabric.rootPublicKey
    label := fabric.label }

/-- `matchesToFabric`, called behind `setOperationalCert`, which leaves both values set. -/
def matchesToFabric (builder : FabricBuilder) (fabric : Fabric) : Bool :=
  match builder.fabricId, builder.rootPublicKey with
  | some fabricId, some rootPublicKey =>
    fabric.matchesFabricIdAndRootPublicKey fabricId rootPublicKey
  | _, _ => false

/-- `build`: the fabric, and the builder that has its index. -/
def build (builder : FabricBuilder) (fabricIndex : Nat) :
    Except MatterError (Fabric × FabricBuilder) :=
  if builder.fabricIndex.isSome then
    .error (.internalError "FabricBuilder can only be built once")
  else match builder.rootNodeId, builder.rootVendorId, builder.rootCert, builder.rootPublicKey,
      builder.identityProtectionKey, builder.operationalCert, builder.fabricId,
      builder.nodeId with
  | none, _, _, _, _, _, _, _ => .error (.internalError "rootNodeId needs to be set")
  | _, none, _, _, _, _, _, _ => .error (.internalError "vendorId needs to be set")
  | some rootNodeId, some rootVendorId, some rootCert, some rootPublicKey,
      some identityProtectionKey, some operationalCert, some fabricId, some nodeId =>
      .ok ({
        fabricIndex
        fabricId
        nodeId
        rootNodeId
        rootPublicKey
        rootVendorId
        rootCert
        identityProtectionKey
        intermediateCACert := builder.intermediateCACert
        operationalCert
        label := builder.label },
        { builder with fabricIndex := some fabricIndex })
  | _, _, some _, some _, none, _, _, _ =>
    .error (.internalError "identityProtectionKey needs to be set")
  | _, _, some _, some _, some _, _, _, _ =>
    .error (.internalError "operationalCert needs to be set")
  | _, _, _, _, _, _, _, _ => .error (.internalError "rootCert needs to be set")

variable {certificates : Certificates} {builder after : FabricBuilder}

theorem fabricIndex_setRootCert {rootCert : Bytes}
    (sets : builder.setRootCert certificates rootCert = .ok after) :
    after.fabricIndex = builder.fabricIndex := by
  rw [setRootCert] at sets
  cases read : certificates.readRootCert rootCert with
  | error error =>
    rw [read] at sets
    cases sets
  | ok rootPublicKey =>
    rw [read] at sets
    cases sets
    rfl

theorem fabricIndex_setOperationalCert {operationalCert : Bytes} {intermediateCACert : Option Bytes}
    (sets : builder.setOperationalCert certificates operationalCert intermediateCACert =
      .ok after) : after.fabricIndex = builder.fabricIndex := by
  simp only [setOperationalCert, bind, Except.bind] at sets
  repeat' split at sets
  all_goals first | cases sets; done | (cases sets; rfl)

theorem build_eq_ok {fabricIndex : Nat} {fabric : Fabric}
    (builds : builder.build fabricIndex = .ok (fabric, after)) :
    builder.fabricIndex = none ∧ fabric.fabricIndex = fabricIndex ∧
      after.fabricIndex = some fabricIndex := by
  rw [build] at builds
  by_cases built : builder.fabricIndex.isSome
  · rw [if_pos built] at builds
    cases builds
  · rw [if_neg built] at builds
    rw [Bool.not_eq_true, Option.isSome_eq_false_iff, Option.isNone_iff_eq_none] at built
    refine ⟨built, ?_⟩
    split at builds <;> cases builds
    exact ⟨rfl, rfl⟩

end FabricBuilder

end MatterJs.Protocol
