import MatterJs.Protocol.MessageExchange
import MatterJs.Protocol.Session

/-! What the exchange manager does with the bytes of a received message. -/

namespace MatterJs.Protocol

open General

structure ExchangeManager where
  sessionManager : SessionManager
  exchanges : OrderedMap Nat MessageExchange
  /-- The protocols with a handler. -/
  protocols : List Int
  closing : Bool

/-- What became of a received message. The last two wait for a channel to the
sender before they go on. -/
inductive Dispatch where
  | ignored
  | received (exchangeIndex : Nat)
  | openExchange (exchangeIndex : Nat) (session : Session) (message : DecodedMessage)
  | acknowledge (exchangeIndex : Nat) (session : Session) (message : DecodedMessage)
  deriving DecidableEq

namespace ExchangeManager

variable (manager : ExchangeManager) (exchangeIndex : Nat)

/-- What a method call on an exchange leaves behind. A closed exchange is
deleted. -/
def updateExchange (exchange : MessageExchange) : ExchangeManager :=
  { manager with
    exchanges :=
      if exchange.closed then manager.exchanges.delete exchangeIndex
      else manager.exchanges.set exchangeIndex exchange }

/-- Initiated and received exchange index are different, since the exchange id
can be the same. -/
def exchangeIndexOf (payloadHeader : PayloadHeader) : Nat :=
  if payloadHeader.isInitiatorMessage then payloadHeader.exchangeId
  else payloadHeader.exchangeId ||| 0x10000

def exchangeFor (session : Session) (payloadHeader : PayloadHeader) : Option MessageExchange :=
  (manager.exchanges.get (exchangeIndexOf payloadHeader)).filter fun exchange =>
    exchange.sessionId == session.id && exchange.isInitiator != payloadHeader.isInitiatorMessage

/-- `onMessage` for a message that belongs to no exchange. -/
def onUnsolicitedMessage (session : Session) (message : DecodedMessage) (isDuplicate : Bool) :
    Except MatterError Dispatch :=
  let payloadHeader := message.payloadHeader
  let exchangeIndex := exchangeIndexOf payloadHeader
  if manager.closing then .ok .ignored
  else if session.closingAfterExchangeFinished then
    .error (.matterFlowError
      (s!"Session with ID {message.packetHeader.sessionId} marked for closure, " ++
        "decline new exchange creation."))
  else if manager.protocols.contains payloadHeader.protocolId &&
      payloadHeader.isInitiatorMessage && !isDuplicate then
    if payloadHeader.messageType = SecureMessageType.standaloneAck ∧
        payloadHeader.requiresAck = false then
      .ok .ignored
    else .ok (.openExchange exchangeIndex session message)
  else if payloadHeader.requiresAck then
    .ok (.acknowledge exchangeIndex session message)
  else if manager.protocols.contains payloadHeader.protocolId then .ok .ignored
  else .error (.matterFlowError s!"Unsupported protocol {payloadHeader.protocolId}")

/-- `onMessage` behind the decoding of the message. -/
def onDecodedMessage (session : Session) (message : DecodedMessage) (isDuplicate : Bool) :
    ExchangeManager × Except MatterError Dispatch :=
  let exchangeIndex := exchangeIndexOf message.payloadHeader
  match manager.exchangeFor session message.payloadHeader with
  | some exchange =>
    let (exchange, outcome) := exchange.onMessageReceived message.toMessage isDuplicate
    (manager.updateExchange exchangeIndex exchange, outcome.map fun _ => .received exchangeIndex)
  | none => (manager, manager.onUnsolicitedMessage session message isDuplicate)

/-- Header and extensions: the packet without its application payload. -/
def aadOf (messageBytes : Bytes) (packet : DecodedPacket) : Bytes :=
  messageBytes.take (messageBytes.length - packet.applicationPayload.length)

/-- `onMessage` behind the message counter. -/
def onCountedPacket (decrypt : Decrypt) (manager : ExchangeManager) (messageBytes : Bytes)
    (packet : DecodedPacket) (session : Session) (isDuplicate : Bool) :
    ExchangeManager × Except MatterError Dispatch :=
  match session.decode decrypt packet (aadOf messageBytes packet) with
  | .ok message => manager.onDecodedMessage session message isDuplicate
  | .error error => (manager, .error error)

/-- `onMessage` for the session found. The message counter is updated before
anything of the packet is decrypted. -/
def onPacket (decrypt : Decrypt) (manager : ExchangeManager) (messageBytes : Bytes)
    (packet : DecodedPacket) (session : Session) :
    ExchangeManager × Except MatterError Dispatch :=
  match session.updateMessageCounter packet.header.messageId with
  | .ok session =>
    { manager with
      sessionManager := manager.sessionManager.updateSession session }.onCountedPacket
        decrypt messageBytes packet session false
  | .error (.duplicateMessageError _) =>
    manager.onCountedPacket decrypt messageBytes packet session true
  | .error error => (manager, .error error)

def onMessage (decrypt : Decrypt) (manager : ExchangeManager) (messageBytes : Bytes) :
    ExchangeManager × Except MatterError Dispatch :=
  match MessageCodec.decodePacket messageBytes with
  | .error error => (manager, .error error)
  | .ok packet =>
    match packet.header.sessionType with
    | .group =>
      (manager, .error (.notImplementedError "Group messages are not supported"))
    | .unicast =>
      if packet.header.sessionId = unicastUnsecureSessionId then
        if manager.closing then (manager, .ok .ignored)
        else
          let initiatorNodeId := packet.header.sourceNodeId.getD unspecifiedNodeId
          match manager.sessionManager.getUnsecureSession initiatorNodeId with
          | some session =>
            manager.onPacket decrypt messageBytes packet (.insecure session)
          | none =>
            match manager.sessionManager.createInsecureSession initiatorNodeId with
            | .ok (sessionManager, session) =>
              { manager with sessionManager }.onPacket decrypt messageBytes packet
                (.insecure session)
            | .error error => (manager, .error error)
      else
        match manager.sessionManager.getSession packet.header.sessionId with
        | some session => manager.onPacket decrypt messageBytes packet (.secure session)
        | none =>
          let source :=
            match packet.header.sourceNodeId with
            | some nodeId => s!" and source NodeId {nodeId}"
            | none => ""
          (manager, .error (.matterFlowError
            (s!"Cannot find a session for ID {packet.header.sessionId}" ++ source)))

def Selects (header : DecodedPacketHeader) (session : SecureSession) : Prop :=
  header.sessionType = .unicast ∧ header.sessionId ≠ unicastUnsecureSessionId ∧
    manager.sessionManager.getSession header.sessionId = some session

theorem onMessage_of_selects {decrypt : Decrypt} {manager : ExchangeManager}
    {messageBytes : Bytes} {packet : DecodedPacket} {session : SecureSession}
    (decodes : MessageCodec.decodePacket messageBytes = .ok packet)
    (selects : manager.Selects packet.header session) :
    onMessage decrypt manager messageBytes =
      manager.onPacket decrypt messageBytes packet (.secure session) := by
  rcases selects with ⟨unicast, secured, found⟩
  simp [onMessage, decodes, unicast, if_neg secured, found]

end ExchangeManager

end MatterJs.Protocol
