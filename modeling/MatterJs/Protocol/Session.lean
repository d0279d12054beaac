import MatterJs.Foundation.OrderedMap
import MatterJs.Protocol.MessageCodec
import MatterJs.Protocol.MessageReceptionState

/-! Sessions as the receiving side needs them: their reception state, how they
decode a packet, and where the session manager keeps them. -/

namespace MatterJs.Protocol

open General

def unicastUnsecureSessionId : Nat := 0x0000

def unspecifiedNodeId : Nat := 0

/-- `Crypto.decrypt` of a key, the encrypted data, a nonce and the associated
data. It throws when the data is not authentic. -/
abbrev Decrypt := Bytes → Bytes → Bytes → Bytes → Except MatterError Bytes

structure SecureSession where
  id : Nat
  peerNodeId : Nat
  decryptKey : Bytes
  closingAfterExchangeFinished : Bool
  messageReceptionState : MessageReceptionState .encryptedWithoutRollover
  deriving DecidableEq

structure InsecureSession where
  initiatorNodeId : Nat
  messageReceptionState : MessageReceptionState .unencryptedWithRollover
  deriving DecidableEq

namespace SecureSession

def generateNonce (securityFlags messageId nodeId : Nat) : Bytes :=
  let writer := DataWriter.new .little
  let writer := writer.writeUInt8 securityFlags
  let writer := writer.writeUInt32 messageId
  let writer := writer.writeUInt64 nodeId
  writer.toByteArray

def decode (decrypt : Decrypt) (session : SecureSession) (packet : DecodedPacket)
    (aad : Bytes) : Except MatterError DecodedMessage := do
  let nonce := generateNonce packet.header.securityFlags packet.header.messageId session.peerNodeId
  let applicationPayload ← decrypt session.decryptKey packet.applicationPayload nonce aad
  MessageCodec.decodePayload
    { header := packet.header, messageExtension := none, applicationPayload }

def updateMessageCounter (session : SecureSession) (messageCounter : Nat) :
    Except MatterError SecureSession := do
  let messageReceptionState ← session.messageReceptionState.updateMessageCounter messageCounter
  return { session with messageReceptionState }

end SecureSession

namespace InsecureSession

def new (initiatorNodeId : Nat) : InsecureSession where
  initiatorNodeId := initiatorNodeId
  messageReceptionState := .new none

def updateMessageCounter (session : InsecureSession) (messageCounter : Nat) :
    Except MatterError InsecureSession := do
  let messageReceptionState ← session.messageReceptionState.updateMessageCounter messageCounter
  return { session with messageReceptionState }

end InsecureSession

inductive Session where
  | secure (session : SecureSession)
  | insecure (session : InsecureSession)
  deriving DecidableEq

namespace Session

def id : Session → Nat
  | secure session => session.id
  | insecure _ => unicastUnsecureSessionId

def closingAfterExchangeFinished : Session → Bool
  | secure session => session.closingAfterExchangeFinished
  | insecure _ => false

def updateMessageCounter (messageCounter : Nat) : Session → Except MatterError Session
  | secure session => do return secure (← session.updateMessageCounter messageCounter)
  | insecure session => do return insecure (← session.updateMessageCounter messageCounter)

def decode (decrypt : Decrypt) (packet : DecodedPacket) (aad : Bytes) :
    Session → Except MatterError DecodedMessage
  | secure session => session.decode decrypt packet aad
  | insecure _ => MessageCodec.decodePayload packet

end Session

/-- The sessions by their id, and the insecure ones by their initiator. -/
structure SessionManager where
  sessions : OrderedMap Nat SecureSession
  insecureSessions : OrderedMap Nat InsecureSession
  id_of_get : ∀ {id session}, sessions.get id = some session → session.id = id
  initiator_of_get : ∀ {nodeId session}, insecureSessions.get nodeId = some session →
    session.initiatorNodeId = nodeId

namespace SessionManager

variable (manager : SessionManager)

def getSession (sessionId : Nat) : Option SecureSession :=
  manager.sessions.get sessionId

def getUnsecureSession (sourceNodeId : Nat) : Option InsecureSession :=
  manager.insecureSessions.get sourceNodeId

/-- What a method call on the session leaves behind. -/
def updateSession : Session → SessionManager
  | .secure session =>
    { manager with
      sessions := manager.sessions.set session.id session
      id_of_get := by
        intro id other found
        rw [OrderedMap.get_set] at found
        by_cases same : id = session.id
        · rw [if_pos same] at found
          rw [← Option.some.inj found, same]
        · rw [if_neg same] at found
          exact manager.id_of_get found }
  | .insecure session =>
    { manager with
      insecureSessions := manager.insecureSessions.set session.initiatorNodeId session
      initiator_of_get := by
        intro nodeId other found
        rw [OrderedMap.get_set] at found
        by_cases same : nodeId = session.initiatorNodeId
        · rw [if_pos same] at found
          rw [← Option.some.inj found, same]
        · rw [if_neg same] at found
          exact manager.initiator_of_get found }

/-- `createInsecureSession` for a given initiator. -/
def createInsecureSession (initiatorNodeId : Nat) :
    Except MatterError (SessionManager × InsecureSession) :=
  if manager.insecureSessions.has initiatorNodeId then
    .error (.matterFlowError s!"UnsecureSession with NodeId {initiatorNodeId} already exists.")
  else
    let session := InsecureSession.new initiatorNodeId
    .ok (manager.updateSession (.insecure session), session)

@[simp] theorem getSession_updateSession_secure (session : SecureSession) :
    (manager.updateSession (.secure session)).getSession session.id = some session :=
  manager.sessions.get_set_self session.id session

end SessionManager

end MatterJs.Protocol
