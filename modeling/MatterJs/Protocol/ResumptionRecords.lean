import MatterJs.Foundation.OrderedMap
import MatterJs.Protocol.Fabric

/-! The resumption records: how the session manager stores them, and how it reads them
back when it starts. -/

namespace MatterJs.Protocol

open General

structure FabricTable where
  fabrics : List Fabric
  nodupIndices : (fabrics.map Fabric.fabricIndex).Nodup

namespace FabricTable

def find (table : FabricTable) (predicate : Fabric → Bool) : Option Fabric :=
  table.fabrics.find? predicate

end FabricTable

/-- A flag that is absent is not set. -/
structure SupportedTransports where
  tcpClient : Option Bool
  tcpServer : Option Bool
  deriving DecidableEq

namespace SupportedTransports

def tcpClientMask : Nat := 1 <<< 1

def tcpServerMask : Nat := 1 <<< 2

variable (value : SupportedTransports)

def encode : Nat :=
  let result := if value.tcpClient.getD false then 0 ||| tcpClientMask else 0
  if value.tcpServer.getD false then result ||| tcpServerMask else result

def decode (bitmap : Nat) : SupportedTransports where
  tcpClient := some (bitmap &&& tcpClientMask != 0)
  tcpServer := some (bitmap &&& tcpServerMask != 0)

/-- The same transports with every flag given. -/
def filled : SupportedTransports where
  tcpClient := some (value.tcpClient.getD false)
  tcpServer := some (value.tcpServer.getD false)

theorem decode_encode : decode value.encode = value.filled := by
  rcases value with ⟨tcpClient, tcpServer⟩
  rcases tcpClient with _ | _ | _ <;> rcases tcpServer with _ | _ | _ <;> rfl

@[simp] theorem filled_filled : value.filled.filled = value.filled := rfl

end SupportedTransports

structure SessionParameters where
  idleIntervalMs : Nat
  activeIntervalMs : Nat
  activeThresholdMs : Nat
  dataModelRevision : Nat
  interactionModelRevision : Nat
  specificationVersion : Nat
  maxPathsPerInvoke : Nat
  supportedTransports : SupportedTransports
  maxTcpMessageSize : Nat
  deriving DecidableEq

structure StoredSessionParameters where
  idleIntervalMs : Option Nat
  activeIntervalMs : Option Nat
  activeThresholdMs : Option Nat
  dataModelRevision : Option Nat
  interactionModelRevision : Option Nat
  specificationVersion : Option Nat
  maxPathsPerInvoke : Option Nat
  supportedTransports : Option Nat
  maxTcpMessageSize : Option Nat
  deriving DecidableEq

namespace StoredSessionParameters

def idleIntervalDefault : Nat := 500
def activeIntervalDefault : Nat := 300
def activeThresholdDefault : Nat := 4000
def fallbackDatamodelRevision : Nat := 17
def fallbackInteractionmodelRevision : Nat := 11
def fallbackSpecificationVersion : Nat := 0
def fallbackMaxPathsPerInvoke : Nat := 1
def fallbackMaxTcpMessageSize : Nat := 64000

/-- The parameters that `#storeResumptionRecords` writes. -/
def store (parameters : SessionParameters) : StoredSessionParameters where
  idleIntervalMs := some parameters.idleIntervalMs
  activeIntervalMs := some parameters.activeIntervalMs
  activeThresholdMs := some parameters.activeThresholdMs
  dataModelRevision := some parameters.dataModelRevision
  interactionModelRevision := some parameters.interactionModelRevision
  specificationVersion := some parameters.specificationVersion
  maxPathsPerInvoke := some parameters.maxPathsPerInvoke
  supportedTransports := some parameters.supportedTransports.encode
  maxTcpMessageSize := some parameters.maxTcpMessageSize

/-- The parameters that `#initialize` takes from them. -/
def restore (stored : StoredSessionParameters) : SessionParameters where
  idleIntervalMs := stored.idleIntervalMs.getD idleIntervalDefault
  activeIntervalMs := stored.activeIntervalMs.getD activeIntervalDefault
  activeThresholdMs := stored.activeThresholdMs.getD activeThresholdDefault
  dataModelRevision := stored.dataModelRevision.getD fallbackDatamodelRevision
  interactionModelRevision :=
    stored.interactionModelRevision.getD fallbackInteractionmodelRevision
  specificationVersion := stored.specificationVersion.getD fallbackSpecificationVersion
  maxPathsPerInvoke := stored.maxPathsPerInvoke.getD fallbackMaxPathsPerInvoke
  supportedTransports := stored.supportedTransports.elim
    { tcpClient := none, tcpServer := none } SupportedTransports.decode
  maxTcpMessageSize := stored.maxTcpMessageSize.getD fallbackMaxTcpMessageSize

theorem restore_store (parameters : SessionParameters) :
    (store parameters).restore =
      { parameters with supportedTransports := parameters.supportedTransports.filled } := by
  have transports := SupportedTransports.decode_encode parameters.supportedTransports
  simp [restore, store, transports]

end StoredSessionParameters

structure ResumptionRecord where
  sharedSecret : Bytes
  resumptionId : Bytes
  fabric : Fabric
  peerNodeId : Nat
  sessionParameters : SessionParameters
  caseAuthenticatedTags : Option (List Nat)
  deriving DecidableEq

structure ResumptionStorageRecord where
  nodeId : Nat
  sharedSecret : Bytes
  resumptionId : Bytes
  fabricId : Nat
  peerNodeId : Nat
  sessionParameters : StoredSessionParameters
  caseAuthenticatedTags : Option (List Nat)
  deriving DecidableEq

namespace ResumptionRecord

/-- The same record with every flag of the supported transports given. -/
def filled (record : ResumptionRecord) : ResumptionRecord :=
  { record with
    sessionParameters := { record.sessionParameters with
      supportedTransports := record.sessionParameters.supportedTransports.filled } }

@[simp] theorem filled_filled (record : ResumptionRecord) :
    record.filled.filled = record.filled := rfl

@[simp] theorem fabric_filled (record : ResumptionRecord) :
    record.filled.fabric = record.fabric := rfl

end ResumptionRecord

/-- The session manager's records, each under the address `saveResumptionRecord` gives it,
for peers on fabrics of the table. -/
structure ResumptionRecords (table : FabricTable) where
  records : OrderedMap PeerAddress ResumptionRecord
  address_of : ∀ entry ∈ records.entries, entry.1 = entry.2.fabric.addressOf entry.2.peerNodeId
  onFabric : ∀ entry ∈ records.entries, entry.2.fabric ∈ table.fabrics

namespace ResumptionRecords

variable {table : FabricTable}

def storeRecord (entry : PeerAddress × ResumptionRecord) : ResumptionStorageRecord where
  nodeId := entry.1.nodeId
  sharedSecret := entry.2.sharedSecret
  resumptionId := entry.2.resumptionId
  fabricId := entry.2.fabric.fabricId
  peerNodeId := entry.2.peerNodeId
  sessionParameters := .store entry.2.sessionParameters
  caseAuthenticatedTags := entry.2.caseAuthenticatedTags

/-- What `#storeResumptionRecords` sets in the storage. -/
def storeResumptionRecords (held : ResumptionRecords table) : List ResumptionStorageRecord :=
  held.records.entries.map storeRecord

def restoreRecord (table : FabricTable) (records : OrderedMap PeerAddress ResumptionRecord)
    (stored : ResumptionStorageRecord) : OrderedMap PeerAddress ResumptionRecord :=
  match table.find fun fabric => fabric.fabricId = stored.fabricId with
  | none => records
  | some fabric =>
    records.set (fabric.addressOf stored.nodeId)
      { sharedSecret := stored.sharedSecret
        resumptionId := stored.resumptionId
        fabric
        peerNodeId := stored.peerNodeId
        sessionParameters := stored.sessionParameters.restore
        caseAuthenticatedTags := stored.caseAuthenticatedTags }

/-- The records after `#initialize`. -/
def initializeRecords (table : FabricTable) (stored : List ResumptionStorageRecord) :
    OrderedMap PeerAddress ResumptionRecord :=
  stored.foldl (restoreRecord table) {}

/-- The records are the same after a restart, up to the flags that are spelled out. -/
def SurviveRestart (held : ResumptionRecords table) : Prop :=
  ∀ address,
    ((initializeRecords table held.storeResumptionRecords).get address).map ResumptionRecord.filled =
      (held.records.get address).map ResumptionRecord.filled

def FoundAgain (table : FabricTable) (record : ResumptionRecord) : Prop :=
  (table.find fun fabric => fabric.fabricId = record.fabric.fabricId) = some record.fabric

/-! ## Reading back what was stored -/

theorem restoreRecord_storeRecord {records : OrderedMap PeerAddress ResumptionRecord}
    {entry : PeerAddress × ResumptionRecord} (foundAgain : FoundAgain table entry.2)
    (isAddress : entry.1 = entry.2.fabric.addressOf entry.2.peerNodeId) :
    restoreRecord table records (storeRecord entry) =
      records.set entry.1 entry.2.filled := by
  rcases entry with ⟨address, record⟩
  have sameAddress : record.fabric.addressOf address.nodeId = address := by
    rw [show address = record.fabric.addressOf record.peerNodeId from isAddress]
    rfl
  have found : (table.find fun fabric =>
      fabric.fabricId = (storeRecord (address, record)).fabricId) = some record.fabric :=
    foundAgain
  rw [restoreRecord, found]
  simp [storeRecord, sameAddress, StoredSessionParameters.restore_store, ResumptionRecord.filled]

theorem entries_foldl_restoreRecord {records : OrderedMap PeerAddress ResumptionRecord}
    {entries : List (PeerAddress × ResumptionRecord)}
    (foundAgain : ∀ entry ∈ entries, FoundAgain table entry.2)
    (isAddress : ∀ entry ∈ entries, entry.1 = entry.2.fabric.addressOf entry.2.peerNodeId)
    (nodup : (records.entries.map Prod.fst ++ entries.map Prod.fst).Nodup) :
    ((entries.map storeRecord).foldl (restoreRecord table) records).entries =
      records.entries ++ entries.map fun entry => (entry.1, entry.2.filled) := by
  induction entries generalizing records with
  | nil => simp
  | cons entry entries induction =>
    rw [List.map_cons, List.foldl_cons,
      restoreRecord_storeRecord (foundAgain entry List.mem_cons_self)
        (isAddress entry List.mem_cons_self)]
    rw [List.map_cons, List.append_cons] at nodup
    have new : entry.1 ∉ records.entries.map Prod.fst := by
      intro member
      have earlier := (List.nodup_append.mp nodup).1
      rw [List.nodup_append] at earlier
      exact earlier.2.2 entry.1 member entry.1 (List.mem_singleton_self _) rfl
    have set : (records.set entry.1 entry.2.filled).entries =
        records.entries ++ [(entry.1, entry.2.filled)] :=
      OrderedMap.setEntries_of_new new entry.2.filled
    rw [induction (fun other member => foundAgain other (List.mem_cons_of_mem _ member))
      (fun other member => isAddress other (List.mem_cons_of_mem _ member))
      (by rw [set, List.map_append]; exact nodup), set, List.append_assoc]
    rfl

theorem foundAgain_of_foldl {stored : List ResumptionStorageRecord}
    {records : OrderedMap PeerAddress ResumptionRecord} {address : PeerAddress}
    {record : ResumptionRecord}
    (earlier : ∀ address record, records.get address = some record → FoundAgain table record)
    (found : (stored.foldl (restoreRecord table) records).get address = some record) :
    FoundAgain table record := by
  induction stored generalizing records with
  | nil => exact earlier address record found
  | cons first stored induction =>
    apply induction _ found
    intro address record isRecord
    rw [restoreRecord] at isRecord
    cases search : table.find fun fabric => fabric.fabricId = first.fabricId with
    | none =>
      rw [search] at isRecord
      exact earlier address record isRecord
    | some fabric =>
      rw [search] at isRecord
      have sameId : fabric.fabricId = first.fabricId := by
        simpa using List.find?_some search
      simp only [OrderedMap.get_set] at isRecord
      split at isRecord
      · rw [← Option.some.inj isRecord, FoundAgain, sameId]
        exact search
      · exact earlier address record isRecord

/-- The records survive a restart exactly when the fabric of each is the first in the table
with its fabric id. -/
theorem surviveRestart_iff (held : ResumptionRecords table) :
    held.SurviveRestart ↔ ∀ entry ∈ held.records.entries, FoundAgain table entry.2 := by
  constructor
  · rintro survive ⟨address, record⟩ member
    have isRecord := (OrderedMap.mem_entries_iff _ _ _).mp member
    have restored := survive address
    rw [isRecord, Option.map_some, Option.map_eq_some_iff] at restored
    rcases restored with ⟨other, isOther, same⟩
    have again : FoundAgain table other := by
      apply foundAgain_of_foldl _ isOther
      intro address record isRecord
      cases isRecord
    have sameFabric := congrArg ResumptionRecord.fabric same
    rw [ResumptionRecord.fabric_filled, ResumptionRecord.fabric_filled] at sameFabric
    rw [FoundAgain, sameFabric] at again
    exact again
  · intro foundAgain address
    have restored : (initializeRecords table held.storeResumptionRecords).entries =
        held.records.entries.map fun entry => (entry.1, entry.2.filled) :=
      entries_foldl_restoreRecord foundAgain held.address_of held.records.nodupKeys
    rw [OrderedMap.get, restored, OrderedMap.lookup_map fun _ => ResumptionRecord.filled,
      Option.map_map]
    rfl

def fabricOf (fabricIndex fabricId : Nat) (rootPublicKey : Bytes) : Fabric where
  fabricIndex := fabricIndex
  fabricId := fabricId
  nodeId := 5
  rootNodeId := 1
  rootPublicKey := rootPublicKey
  rootVendorId := 0xfff1
  rootCert := []
  identityProtectionKey := []
  intermediateCACert := none
  operationalCert := []
  label := ""

def sharedFabricId : FabricTable where
  fabrics := [fabricOf 1 7 [4, 1], fabricOf 2 7 [4, 2]]
  nodupIndices := by decide

def recordOnSecondFabric : ResumptionRecords sharedFabricId where
  records := OrderedMap.empty.set ⟨2, 9⟩
    { sharedSecret := [1]
      resumptionId := [2]
      fabric := fabricOf 2 7 [4, 2]
      peerNodeId := 9
      sessionParameters :=
        { idleIntervalMs := 500
          activeIntervalMs := 300
          activeThresholdMs := 4000
          dataModelRevision := 17
          interactionModelRevision := 11
          specificationVersion := 0
          maxPathsPerInvoke := 1
          supportedTransports := { tcpClient := none, tcpServer := none }
          maxTcpMessageSize := 64000 }
      caseAuthenticatedTags := none }
  address_of := by decide
  onFabric := by decide

/-- The record comes back for the first fabric. -/
theorem sharedFabricId_loses_record :
    ¬∀ (table : FabricTable) (held : ResumptionRecords table), held.SurviveRestart := by
  intro always
  have survives := always sharedFabricId recordOnSecondFabric ⟨2, 9⟩
  exact absurd survives (by decide +kernel)

end ResumptionRecords

end MatterJs.Protocol
