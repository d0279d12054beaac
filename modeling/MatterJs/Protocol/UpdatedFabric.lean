import MatterJs.Foundation.Utf8
import MatterJs.Protocol.FailsafeContext

/-! The fabric that `UpdateNOC` puts in the place of another one, with all that its
configuration says. -/

namespace MatterJs.Protocol

open General

structure BinaryKeyPair where
  publicKey : Bytes
  privateKey : Bytes
  deriving DecidableEq

/-- `Fabric.Config`; `Value` are the values of the scoped cluster data. -/
structure FabricConfig (Value : Type) extends Fabric where
  operationalId : Bytes
  keyPair : BinaryKeyPair
  operationalIdentityProtectionKey : Bytes
  /-- By cluster id and key; an empty map where a configuration has none. -/
  scopedClusterData : OrderedMap Nat (OrderedMap String Value)

/-- `Crypto.hkdf` -/
abbrev Hkdf : Type :=
  (secret salt info : Bytes) → (length : Nat) → Except MatterError Bytes

namespace FabricConfig

def compressedFabricIdInfo : Bytes := Utf8.encode "CompressedFabric".toList

def groupSecurityInfo : Bytes := Utf8.encode "GroupKey v1.0".toList

def deriveOperationalId (hkdf : Hkdf) (rootPublicKey : Bytes) (fabricId : Nat) :
    Except MatterError Bytes :=
  hkdf (rootPublicKey.drop 1) ((DataWriter.new .big).writeUInt64 fabricId).toByteArray
    compressedFabricIdInfo 8

def deriveOperationalKey (hkdf : Hkdf) (identityProtectionKey operationalId : Bytes) :
    Except MatterError Bytes :=
  hkdf identityProtectionKey operationalId groupSecurityInfo 16

variable {Value : Type}

/-- The operational id and key are the ones that `build` derives. -/
def IsDerived (hkdf : Hkdf) (fabric : FabricConfig Value) : Prop :=
  deriveOperationalId hkdf fabric.rootPublicKey fabric.fabricId = .ok fabric.operationalId ∧
    deriveOperationalKey hkdf fabric.identityProtectionKey fabric.operationalId =
      .ok fabric.operationalIdentityProtectionKey

/-- Another fabric has other credentials, and nothing else is different. -/
def DiffersOnlyInCredentials (fabric updated : FabricConfig Value) : Prop :=
  updated = { fabric with
    nodeId := updated.nodeId
    operationalCert := updated.operationalCert
    intermediateCACert := updated.intermediateCACert
    keyPair := updated.keyPair }

end FabricConfig

structure KeyedFabricBuilder extends FabricBuilder where
  privateKey : Bytes

namespace KeyedFabricBuilder

variable {Value : Type}

def initializeFromFabricForUpdate (builder : KeyedFabricBuilder) (fabric : FabricConfig Value) :
    KeyedFabricBuilder :=
  { builder with
    toFabricBuilder := builder.toFabricBuilder.initializeFromFabricForUpdate fabric.toFabric }

def setOperationalCert (certificates : Certificates) (builder : KeyedFabricBuilder)
    (operationalCert : Bytes) (intermediateCACert : Option Bytes) :
    Except MatterError KeyedFabricBuilder := do
  let withCert ← builder.toFabricBuilder.setOperationalCert certificates operationalCert
    intermediateCACert
  return { builder with toFabricBuilder := withCert }

/-- `build`. The new fabric is made without scoped cluster data. -/
def build (hkdf : Hkdf) (builder : KeyedFabricBuilder) (fabricIndex : Nat) :
    Except MatterError (FabricConfig Value) := do
  let (fabric, _) ← builder.toFabricBuilder.build fabricIndex
  let operationalId ← FabricConfig.deriveOperationalId hkdf fabric.rootPublicKey fabric.fabricId
  let operationalIdentityProtectionKey ←
    FabricConfig.deriveOperationalKey hkdf fabric.identityProtectionKey operationalId
  return { fabric with
    operationalId
    keyPair := ⟨builder.publicKey, builder.privateKey⟩
    operationalIdentityProtectionKey
    scopedClusterData := {} }

/-- `FailsafeContext.buildUpdatedFabric` for the fabric that is associated with the context -/
def buildUpdatedFabric (certificates : Certificates) (hkdf : Hkdf) (builder : KeyedFabricBuilder)
    (associatedFabric : FabricConfig Value) (nocValue : Bytes) (icacValue : Option Bytes) :
    Except MatterError (FabricConfig Value) := do
  let initialized := builder.initializeFromFabricForUpdate associatedFabric
  let withCert ← initialized.setOperationalCert certificates nocValue icacValue
  withCert.build hkdf associatedFabric.fabricIndex

end KeyedFabricBuilder

/-! ## What the builder takes over -/

theorem FabricBuilder.setOperationalCert_eq_ok {certificates : Certificates}
    {builder after : FabricBuilder} {operationalCert : Bytes} {intermediateCACert : Option Bytes}
    (sets : builder.setOperationalCert certificates operationalCert intermediateCACert =
      .ok after) :
    ∃ subject, certificates.decodeNoc operationalCert = .ok subject ∧
      after = { builder with
        operationalCert := some operationalCert
        intermediateCACert := if intermediateCACert = some [] then none else intermediateCACert
        fabricId := some subject.fabricId
        nodeId := some subject.nodeId } := by
  rw [setOperationalCert] at sets
  cases decoded : certificates.decodeNoc operationalCert with
  | error error =>
    rw [decoded] at sets
    cases sets
  | ok subject =>
    refine ⟨subject, rfl, ?_⟩
    generalize (if intermediateCACert = some [] then none else intermediateCACert) = used at sets ⊢
    simp only [decoded, bind, Except.bind] at sets
    repeat' split at sets
    all_goals first | cases sets; done | (cases sets; rfl)

namespace KeyedFabricBuilder

variable {Value : Type} {certificates : Certificates} {hkdf : Hkdf}
  {builder : KeyedFabricBuilder} {fabric updated : FabricConfig Value}
  {nocValue : Bytes} {icacValue : Option Bytes}

theorem buildUpdatedFabric_steps
    (builds : buildUpdatedFabric certificates hkdf builder fabric nocValue icacValue =
      .ok updated) :
    ∃ certified made after,
      (builder.toFabricBuilder.initializeFromFabricForUpdate fabric.toFabric).setOperationalCert
        certificates nocValue icacValue = .ok certified ∧
      certified.build fabric.fabricIndex = .ok (made, after) ∧ updated.IsDerived hkdf ∧
      updated = { made with
        operationalId := updated.operationalId
        keyPair := ⟨certified.publicKey, builder.privateKey⟩
        operationalIdentityProtectionKey := updated.operationalIdentityProtectionKey
        scopedClusterData := {} } := by
  rw [buildUpdatedFabric] at builds
  rcases bind_eq_ok_iff.mp builds with ⟨withCert, sets, buildsWithCert⟩
  rw [setOperationalCert] at sets
  rcases bind_eq_ok_iff.mp sets with ⟨certified, setsCert, same⟩
  cases same
  rw [build] at buildsWithCert
  rcases bind_eq_ok_iff.mp buildsWithCert with ⟨⟨made, after⟩, makes, derives⟩
  rcases bind_eq_ok_iff.mp derives with ⟨operationalId, derivesId, derivesRest⟩
  rcases bind_eq_ok_iff.mp derivesRest with ⟨operationalKey, derivesKey, result⟩
  cases result
  exact ⟨certified, made, after, setsCert, makes, ⟨derivesId, derivesKey⟩, rfl⟩

theorem buildUpdatedFabric_eq_ok
    (builds : buildUpdatedFabric certificates hkdf builder fabric nocValue icacValue =
      .ok updated) :
    ∃ subject, certificates.decodeNoc nocValue = .ok subject ∧ updated.IsDerived hkdf ∧
      updated = { fabric with
        fabricId := subject.fabricId
        nodeId := subject.nodeId
        operationalCert := nocValue
        intermediateCACert := if icacValue = some [] then none else icacValue
        operationalId := updated.operationalId
        keyPair := ⟨builder.publicKey, builder.privateKey⟩
        operationalIdentityProtectionKey := updated.operationalIdentityProtectionKey
        scopedClusterData := {} } := by
  rcases buildUpdatedFabric_steps builds with ⟨certified, made, _, setsCert, makes, derived, isMade⟩
  rcases FabricBuilder.setOperationalCert_eq_ok setsCert with ⟨subject, decoded, rfl⟩
  refine ⟨subject, decoded, derived, ?_⟩
  simp only [FabricBuilder.build] at makes
  split at makes
  · cases makes
  · cases makes
    exact isMade

/-- The replacement differs in its credentials only exactly when the fabric it is for has no
scoped cluster data, the id that the certificate names, and derived keys itself. -/
theorem differsOnlyInCredentials_iff
    (builds : buildUpdatedFabric certificates hkdf builder fabric nocValue icacValue =
      .ok updated) :
    fabric.DiffersOnlyInCredentials updated ↔
      fabric.scopedClusterData = {} ∧
        (certificates.decodeNoc nocValue).map NocSubject.fabricId = .ok fabric.fabricId ∧
        fabric.IsDerived hkdf := by
  rcases buildUpdatedFabric_eq_ok builds with ⟨subject, decoded, derived, isUpdated⟩
  rw [decoded]
  constructor
  · intro same
    have sameId : fabric.fabricId = subject.fabricId :=
      (congrArg (·.fabricId) same).symm.trans (congrArg (·.fabricId) isUpdated)
    refine ⟨?_, congrArg Except.ok sameId.symm, ?_⟩
    · exact (congrArg (·.scopedClusterData) same).symm.trans
        (congrArg (·.scopedClusterData) isUpdated)
    · rw [same] at derived
      exact derived
  · rintro ⟨noData, sameId, isDerived⟩
    have sameFabricId : subject.fabricId = fabric.fabricId := Except.ok.inj sameId
    have sameOperationalId : updated.operationalId = fabric.operationalId := by
      have derivesId := derived.1
      rw [isUpdated] at derivesId
      rw [sameFabricId, isDerived.1] at derivesId
      exact (Except.ok.inj derivesId).symm
    have sameKey : updated.operationalIdentityProtectionKey =
        fabric.operationalIdentityProtectionKey := by
      have derivesKey := derived.2
      rw [isUpdated] at derivesKey
      rw [sameOperationalId, isDerived.2] at derivesKey
      exact (Except.ok.inj derivesKey).symm
    rw [sameFabricId, sameOperationalId, sameKey, ← noData] at isUpdated
    rw [isUpdated]
    rfl

def updateCertificates : Certificates where
  readRootCert := fun _ => .ok (4 :: List.replicate 64 1)
  decodeNoc := fun _ => .ok
    { nodeId := 2, fabricId := 3, caseAuthenticatedTags := [], ellipticCurvePublicKey := [4, 7] }
  verifyNoc := fun _ _ _ => .ok ()

def updateHkdf : Hkdf := fun _ _ _ length =>
  .ok (if length = 8 then [157, 120, 55, 254, 84, 205, 190, 197]
    else [155, 198, 141, 101, 37, 110, 21, 207, 44, 99, 160, 209, 237, 218, 223, 53])

def fabricToUpdate (scopedClusterData : OrderedMap Nat (OrderedMap String Nat)) :
    FabricConfig Nat where
  fabricIndex := 1
  fabricId := 3
  nodeId := 1
  rootNodeId := 9
  rootPublicKey := 4 :: List.replicate 64 1
  rootVendorId := 0xFFF1
  rootCert := [1]
  identityProtectionKey := List.replicate 16 9
  intermediateCACert := none
  operationalCert := [2]
  label := "home"
  operationalId := [157, 120, 55, 254, 84, 205, 190, 197]
  keyPair := ⟨[4, 5], [6]⟩
  operationalIdentityProtectionKey :=
    [155, 198, 141, 101, 37, 110, 21, 207, 44, 99, 160, 209, 237, 218, 223, 53]
  scopedClusterData

def updateBuilder : KeyedFabricBuilder where
  toFabricBuilder := .new [4, 7]
  privateKey := [8]

theorem differsOnlyInCredentials_iff_noData : ∃ updated,
    buildUpdatedFabric updateCertificates updateHkdf updateBuilder (fabricToUpdate {}) [3] none =
      .ok updated ∧ (fabricToUpdate {}).DiffersOnlyInCredentials updated := by
  have builds : buildUpdatedFabric updateCertificates updateHkdf updateBuilder
      (fabricToUpdate {}) [3] none = .ok _ := rfl
  exact ⟨_, builds, (differsOnlyInCredentials_iff builds).mpr ⟨rfl, rfl, rfl, rfl⟩⟩

/-- The scoped data of the group key cluster are gone after the update. -/
theorem scopedClusterData_not_preserved :
    ¬∀ (certificates : Certificates) (hkdf : Hkdf) (builder : KeyedFabricBuilder)
      (fabric updated : FabricConfig Nat) (nocValue : Bytes) (icacValue : Option Bytes),
      buildUpdatedFabric certificates hkdf builder fabric nocValue icacValue = .ok updated →
        fabric.DiffersOnlyInCredentials updated := by
  intro all
  let data := ({} : OrderedMap Nat _).set 0x3F (({} : OrderedMap String Nat).set "groups" 1)
  have same := all updateCertificates updateHkdf updateBuilder (fabricToUpdate data) _ [3] none rfl
  have entries := congrArg (fun fabric => fabric.scopedClusterData.entries.length) same
  exact absurd entries (by decide)

end KeyedFabricBuilder

end MatterJs.Protocol
