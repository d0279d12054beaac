import MatterJs.Foundation.Execution
import MatterJs.Protocol.FabricManager

/-! CASE handshakes, full and resumed, among removals of fabrics: every await of both is a
point at which others go on. -/

namespace MatterJs.Protocol.CaseHandshakes

open General

/-! ## What handshakes and removals share -/

structure SecureSession where
  reference : Nat
  id : Nat
  fabric : FabricObject
  peerNodeId : Nat
  deriving DecidableEq

/-- A resumption record object. Its id changes and is kept apart from it. -/
structure ResumptionRecord where
  reference : Nat
  fabric : FabricObject
  peerNodeId : Nat
  deriving DecidableEq

namespace ResumptionRecord

/-- The key that `saveResumptionRecord` uses -/
def address (record : ResumptionRecord) : PeerAddress :=
  record.fabric.config.addressOf record.peerNodeId

end ResumptionRecord

structure StoredRecord where
  fabric : FabricObject
  peerNodeId : Nat
  resumptionId : Nat
  deriving DecidableEq

/-- What `Fabric.remove` waits for -/
inductive Removal where
  | notStarted
  /-- the construction of the manager, in the callback of `#addFabric` -/
  | construction (currentSessionId : Option Nat)
  /-- `persistFabrics`, behind which the manager reports the fabric as deleted -/
  | persistFabrics (currentSessionId : Option Nat) (deleted : FabricObject)
  /-- the end of the callback, and the others -/
  | callbacks (currentSessionId : Option Nat)
  /-- the end of the sessions that it has listed -/
  | destroying (currentSessionId : Option Nat) (sessions : List SecureSession)
  | completed (currentSessionId : Option Nat)
  | failed
  deriving DecidableEq

/-- What `deleteResumptionRecordsForFabric` waits for -/
inductive Deletion where
  | notStarted
  | construction
  /-- The records are deleted, and are going to be stored. -/
  | constructionToStore
  | storageSet
  | completed
  | failed
  deriving DecidableEq

/-- The state of the two managers and of the fabric objects -/
structure Managers where
  fabrics : FabricManager
  /-- `#sessions` of the fabric objects -/
  fabricSessions : FabricObject → List SecureSession
  sessions : List SecureSession
  closingAfterExchangeFinished : SecureSession → Bool
  resumptionRecords : OrderedMap PeerAddress ResumptionRecord
  /-- The ids of the record objects, by reference -/
  resumptionIds : Nat → Nat
  storedRecords : List StoredRecord
  /-- The references below it are taken. -/
  nextReference : Nat
  removals : FabricObject → Removal
  deletions : FabricObject → Deletion

namespace Managers

variable (managers : Managers)

variable (session : SecureSession) (fabric : FabricObject)

/-- The constructor of `SecureSession`, for an object that is there already -/
def addSession : Managers :=
  { managers with
    sessions := managers.sessions.insert session
    fabricSessions := Function.update managers.fabricSessions session.fabric
      ((managers.fabricSessions session.fabric).insert session) }

/-- The end of `createSecureSession` adds the session to the manager once more. -/
def registerSession : Managers :=
  { managers with sessions := managers.sessions.insert session }

def removeFromFabric : Managers :=
  { managers with
    fabricSessions := Function.update managers.fabricSessions session.fabric
      ((managers.fabricSessions session.fabric).filter (· ≠ session)) }

/-- `SecureSession.destroy` behind the end of the subscriptions -/
def destroy (closeAfterExchangeFinished : Bool) : Managers :=
  let managers := managers.removeFromFabric session
  if closeAfterExchangeFinished then
    { managers with
      closingAfterExchangeFinished :=
        Function.update managers.closingAfterExchangeFinished session true }
  else { managers with sessions := managers.sessions.filter (· ≠ session) }

def findResumptionRecordById (resumptionId : Nat) : Option ResumptionRecord :=
  managers.resumptionRecords.values.find? fun record =>
    managers.resumptionIds record.reference = resumptionId

def setResumptionId (record : ResumptionRecord) (resumptionId : Nat) : Managers :=
  { managers with
    resumptionIds := Function.update managers.resumptionIds record.reference resumptionId }

def setResumptionRecord (record : ResumptionRecord) : Managers :=
  { managers with
    resumptionRecords := managers.resumptionRecords.set record.address record }

/-- `#storeResumptionRecords` behind the construction -/
def storeResumptionRecords : Managers :=
  { managers with
    storedRecords := managers.resumptionRecords.values.map fun record =>
      { fabric := record.fabric
        peerNodeId := record.peerNodeId
        resumptionId := managers.resumptionIds record.reference } }

/-- The loop of `deleteResumptionRecordsForFabric` -/
def deleteResumptionRecords : Managers :=
  { managers with
    resumptionRecords := managers.resumptionRecords.keys.foldl
      (fun records address =>
        if address.fabricIndex = fabric.fabricIndex then records.delete address else records)
      managers.resumptionRecords }

def takeReference : Managers :=
  { managers with nextReference := managers.nextReference + 1 }

def setRemoval (removal : Removal) : Managers :=
  { managers with removals := Function.update managers.removals fabric removal }

def setDeletion (deletion : Deletion) : Managers :=
  { managers with deletions := Function.update managers.deletions fabric deletion }

/-- `Fabric.remove` up to its first await -/
def remove (currentSessionId : Option Nat) : Managers :=
  match managers.removals fabric with
  | .notStarted =>
    if managers.fabrics.fabrics.get fabric.fabricIndex = some fabric then
      managers.setRemoval fabric (.construction currentSessionId)
    else managers
  | _ => managers

def proceedRemoval : Managers :=
  match managers.removals fabric with
  | .construction currentSessionId =>
    match managers.fabrics.fabrics.get fabric.fabricIndex,
        managers.fabrics.removeFabric fabric.fabricIndex with
    | some deleted, .ok fabrics =>
      ({ managers with fabrics } : Managers).setRemoval fabric
        (.persistFabrics currentSessionId deleted)
    | _, _ => managers.setRemoval fabric .failed
  | .persistFabrics currentSessionId deleted =>
    (managers.setDeletion deleted .construction).setRemoval fabric (.callbacks currentSessionId)
  | .callbacks currentSessionId =>
    managers.setRemoval fabric (.destroying currentSessionId (managers.fabricSessions fabric))
  | .destroying currentSessionId (session :: sessions) =>
    (managers.destroy session (some session.id = currentSessionId)).setRemoval fabric
      (.destroying currentSessionId sessions)
  | .destroying currentSessionId [] => managers.setRemoval fabric (.completed currentSessionId)
  | _ => managers

def failRemoval : Managers :=
  match managers.removals fabric with
  | .notStarted | .completed _ => managers
  | _ => managers.setRemoval fabric .failed

def proceedDeletion : Managers :=
  match managers.deletions fabric with
  | .construction =>
    (managers.deleteResumptionRecords fabric).setDeletion fabric .constructionToStore
  | .constructionToStore => managers.storeResumptionRecords.setDeletion fabric .storageSet
  | .storageSet => managers.setDeletion fabric .completed
  | _ => managers

/-- The storage refuses the records. -/
def failDeletion : Managers :=
  match managers.deletions fabric with
  | .constructionToStore => managers.setDeletion fabric .failed
  | _ => managers

def endExchange : Managers :=
  if managers.closingAfterExchangeFinished session then managers.destroy session false
  else managers

/-- `addFabric` of a fabric object that was never removed -/
def addFabric (fabric : FabricObject) : Managers :=
  match managers.removals fabric, managers.fabrics.addFabric fabric with
  | .notStarted, .ok fabrics => { managers with fabrics }
  | _, _ => managers

end Managers

/-! ## A handshake goes on -/

/-- What `handleSigma1` waits for once it has its fabric, in order for each of the two ways
through it -/
inductive Stage where
  | deriveSigma2Key
  | deriveResumeKey
  | getNextAvailableSessionId
  | sendSigma2
  | readSigma3
  | deriveSigma3Key
  /-- the construction of the manager, in `createSecureSession` -/
  | construction
  | deriveSessionKeys
  /-- the end of `SecureSession.create` -/
  | createSession (session : SecureSession)
  | createSecureSession (session : SecureSession)
  | deriveResumeMicKey (session : SecureSession)
  | sendSigma2Resume (session : SecureSession)
  /-- the end of the subscriptions, when the message could not be sent -/
  | destroySession (session : SecureSession)
  | waitForSuccess
  | sendSuccess
  | close
  /-- the construction of the manager, in `saveResumptionRecord` -/
  | constructionToSave
  | constructionToStore
  | storageSet
  deriving DecidableEq

structure Handshake where
  fabric : FabricObject
  /-- The record of a resumption -/
  resumed : Option ResumptionRecord
  /-- `Crypto.getRandomData(16)` -/
  resumptionId : Nat
  /-- Unspecified until the peer has sent its certificate -/
  peerNodeId : Nat
  sessionId : Nat
  stage : Stage
  deriving DecidableEq

inductive Phase where
  | readSigma1
  | chosen (handshake : Handshake)
  deriving DecidableEq

/-- What the first message says, with the fabrics whose destination id it has -/
structure Sigma1 where
  resumptionId : Option Nat
  hasResumeMic : Bool
  isDestination : FabricObject → Bool

structure State where
  managers : Managers
  handshakes : OrderedMap Nat Phase

inductive Event where
  /-- A peer starts a handshake on an exchange. -/
  | started (exchange : Nat)
  /-- The first message with the new resumption id -/
  | sigma1 (exchange : Nat) (message : Sigma1) (resumptionId : Nat)
  /-- The await ends, in some stages with a session id or the node id of a certificate. -/
  | proceeds (exchange : Nat) (yielded : Nat)
  | throws (exchange : Nat)
  | removed (fabric : FabricObject) (currentSessionId : Option Nat)
  | removalProceeds (fabric : FabricObject)
  | removalThrows (fabric : FabricObject)
  | deletionProceeds (fabric : FabricObject)
  | deletionThrows (fabric : FabricObject)
  /-- `getNextAvailableSessionId` ends the oldest session. -/
  | evicted (session : SecureSession)
  | exchangeEnded (session : SecureSession)
  | fabricAdded (fabric : FabricObject)

namespace Handshake

variable (handshake : Handshake)

def full (fabric : FabricObject) (resumptionId : Nat) : Handshake where
  fabric := fabric
  resumed := none
  resumptionId := resumptionId
  peerNodeId := 0
  sessionId := 0
  stage := .deriveSigma2Key

def resumption (record : ResumptionRecord) (resumptionId : Nat) : Handshake where
  fabric := record.fabric
  resumed := some record
  resumptionId := resumptionId
  peerNodeId := record.peerNodeId
  sessionId := 0
  stage := .deriveResumeKey

def at' (stage : Stage) : Handshake :=
  { handshake with stage }

def isResumption : Bool :=
  handshake.resumed.isSome

def session (reference : Nat) : SecureSession where
  reference := reference
  id := handshake.sessionId
  fabric := handshake.fabric
  peerNodeId := handshake.peerNodeId

/-- The record that the handshake saves: the one that it resumed, or a new one -/
def record (reference : Nat) : ResumptionRecord :=
  handshake.resumed.getD
    { reference
      fabric := handshake.fabric
      peerNodeId := handshake.peerNodeId }

variable (managers : Managers)

/-- `saveResumptionRecord` behind the construction -/
def save : Managers :=
  match handshake.resumed with
  | some record => managers.setResumptionRecord record
  | none =>
    let record := handshake.record managers.nextReference
    (managers.takeReference.setResumptionId record handshake.resumptionId).setResumptionRecord
      record

/-- The await of the stage ends. A handshake that is over is no longer there. -/
def proceed (yielded : Nat) : Managers × Option Handshake :=
  match handshake.stage with
  | .deriveSigma2Key => (managers, some (handshake.at' .getNextAvailableSessionId))
  | .deriveResumeKey => (managers, some (handshake.at' .getNextAvailableSessionId))
  | .getNextAvailableSessionId =>
    (managers, some { handshake with
      sessionId := yielded
      stage := if handshake.isResumption then .construction else .sendSigma2 })
  | .sendSigma2 => (managers, some (handshake.at' .readSigma3))
  | .readSigma3 => (managers, some (handshake.at' .deriveSigma3Key))
  | .deriveSigma3Key =>
    (managers, some { handshake with peerNodeId := yielded, stage := .construction })
  | .construction => (managers, some (handshake.at' .deriveSessionKeys))
  | .deriveSessionKeys =>
    let session := handshake.session managers.nextReference
    (managers.takeReference.addSession session, some (handshake.at' (.createSession session)))
  | .createSession session =>
    (managers.registerSession session, some (handshake.at' (.createSecureSession session)))
  | .createSecureSession session =>
    (managers, some (handshake.at'
      (if handshake.isResumption then .deriveResumeMicKey session else .sendSuccess)))
  | .deriveResumeMicKey session => (managers, some (handshake.at' (.sendSigma2Resume session)))
  | .sendSigma2Resume _ =>
    (match handshake.resumed with
      | some record => managers.setResumptionId record handshake.resumptionId
      | none => managers,
    some (handshake.at' .waitForSuccess))
  | .destroySession session => (managers.destroy session true, none)
  | .waitForSuccess => (managers, some (handshake.at' .close))
  | .sendSuccess => (managers, some (handshake.at' .close))
  | .close => (managers, some (handshake.at' .constructionToSave))
  | .constructionToSave =>
    (handshake.save managers, some (handshake.at' .constructionToStore))
  | .constructionToStore =>
    (managers.storeResumptionRecords, some (handshake.at' .storageSet))
  | .storageSet => (managers, none)

/-- The await of the stage, or what follows it up to the next one, throws. -/
def fail : Option Handshake :=
  match handshake.stage with
  | .sendSigma2Resume session => some (handshake.at' (.destroySession session))
  | _ => none

/-- The choice that `handleSigma1` makes when it has the message -/
def choose (message : Sigma1) (resumptionId : Nat) : Option Handshake :=
  let withFabric := (managers.fabrics.fabrics.values.find? message.isDestination).map fun fabric =>
    full fabric resumptionId
  match message.resumptionId, message.hasResumeMic with
  | some peerResumptionId, true =>
    match managers.findResumptionRecordById peerResumptionId with
    | some record => some (resumption record resumptionId)
    | none => withFabric
  | none, false => withFabric
  | _, _ => none

end Handshake

namespace State

variable (state : State)

def setHandshake (exchange : Nat) : Option Handshake → State
  | some handshake =>
    { state with handshakes := state.handshakes.set exchange (.chosen handshake) }
  | none => { state with handshakes := state.handshakes.delete exchange }

def setManagers (managers : Managers) : State :=
  { state with managers }

end State

def step (state : State) : Event → State
  | .started exchange =>
    if state.handshakes.has exchange then state
    else { state with handshakes := state.handshakes.set exchange .readSigma1 }
  | .sigma1 exchange message resumptionId =>
    match state.handshakes.get exchange with
    | some .readSigma1 =>
      state.setHandshake exchange (Handshake.choose state.managers message resumptionId)
    | _ => state
  | .proceeds exchange yielded =>
    match state.handshakes.get exchange with
    | some (.chosen handshake) =>
      let (managers, handshake) := handshake.proceed state.managers yielded
      (state.setManagers managers).setHandshake exchange handshake
    | _ => state
  | .throws exchange =>
    match state.handshakes.get exchange with
    | some .readSigma1 => state.setHandshake exchange none
    | some (.chosen handshake) => state.setHandshake exchange handshake.fail
    | none => state
  | .removed fabric currentSessionId =>
    state.setManagers (state.managers.remove fabric currentSessionId)
  | .removalProceeds fabric => state.setManagers (state.managers.proceedRemoval fabric)
  | .removalThrows fabric => state.setManagers (state.managers.failRemoval fabric)
  | .deletionProceeds fabric => state.setManagers (state.managers.proceedDeletion fabric)
  | .deletionThrows fabric => state.setManagers (state.managers.failDeletion fabric)
  | .evicted session => state.setManagers (state.managers.destroy session false)
  | .exchangeEnded session => state.setManagers (state.managers.endExchange session)
  | .fabricAdded fabric => state.setManagers (state.managers.addFabric fabric)

end MatterJs.Protocol.CaseHandshakes
