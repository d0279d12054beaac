import MatterJs.General.DataReadQueue
import MatterJs.Protocol.MessageCodec

/-! One message exchange with its reliable messaging: which message is to be
acknowledged, which sent message waits for its acknowledgement, and the timers.

A call runs up to its next `await`; what it does behind that is kept in
`suspended` until the environment resumes it, in any order. -/

namespace MatterJs.Protocol

open General

def secureChannelProtocolId : Int := 0x0000

namespace SecureMessageType
def standaloneAck : Nat := 0x10
end SecureMessageType

def isStandaloneAck (protocolId : Int) (messageType : Nat) : Bool :=
  protocolId == secureChannelProtocolId && messageType == SecureMessageType.standaloneAck

/-- The maximum number of transmission attempts for a given reliable message. -/
def mrpMaxTransmissions : Nat := 5

def defaultExpectedProcessingTimeMs : Nat := 2000

structure ExchangeSendOptions where
  expectAckOnly : Bool
  expectedProcessingTimeMs : Nat
  requiresAck : Option Bool
  includeAcknowledgeMessageId : Option Nat
  disableMrpLogic : Bool
  deriving DecidableEq

def ExchangeSendOptions.default : ExchangeSendOptions where
  expectAckOnly := false
  expectedProcessingTimeMs := defaultExpectedProcessingTimeMs
  requiresAck := none
  includeAcknowledgeMessageId := none
  disableMrpLogic := false

/-- What the exchange does once a call of `send` is over. -/
inductive AfterSend where
  | nothing
  | close
  | startCloseTimer
  deriving DecidableEq

/-- The local variables of a call of `send`. -/
structure SendCall where
  messageType : Nat
  payload : Bytes
  requiresAck : Option Bool
  ackedMessageId : Option Nat
  expectAckOnly : Bool
  disableMrpLogic : Bool
  expectedProcessingTimeMs : Nat
  after : AfterSend
  deriving DecidableEq

/-- A call that waits, and for what. Promises for an acknowledgement are
numbered in the order in which they are created. -/
inductive Suspended where
  | messageCounter (call : SendCall)
  | channel (call : SendCall) (ackPromise : Option Nat)
  | ack (call : SendCall) (ackPromise : Nat)
  | resubmission (message : Message) (expectedProcessingTimeMs : Option Nat)
  deriving DecidableEq

inductive ChannelOutcome where
  | sent
  | channelNotConnected
  | failed
  deriving DecidableEq

def ChannelOutcome.toError : ChannelOutcome → MatterError
  | .channelNotConnected => .channelNotConnectedError ""
  | _ => .error ""

inductive Resumption where
  | messageCounter (outcome : Except MatterError Nat)
  | channel (outcome : ChannelOutcome)
  | ack

/-- A timer that calls `retransmitMessage`. -/
structure RetransmissionTimer where
  message : Message
  expectedProcessingTimeMs : Option Nat
  running : Bool
  deriving DecidableEq

structure MessageExchange where
  sessionId : Nat
  isInitiator : Bool
  peerSessionId : Nat
  nodeId : Option Nat
  peerNodeId : Option Nat
  exchangeId : Nat
  protocolId : Int
  useMRP : Bool
  messagesQueue : DataReadQueue Message
  receivedMessageToAck : Option Message
  /-- Whether the timer for the standalone acknowledgement runs. -/
  receivedMessageAckTimer : Bool
  sentMessageToAck : Option Message
  sentMessageAckSuccess : Option Nat
  sentMessageAckFailure : Option Nat
  /-- All retransmission timers created; the code holds a reference to one. -/
  retransmissionTimers : List RetransmissionTimer
  retransmissionTimer : Option Nat
  retransmissionCounter : Nat
  /-- All close timers created, whether they run; the code holds a reference to one. -/
  closeTimers : List Bool
  closeTimer : Option Nat
  isClosing : Bool
  /-- Whether `closed` was emitted. -/
  closed : Bool
  suspended : List Suspended
  ackPromises : Nat
  settled : List (Nat × Except MatterError Message)
  /-- The calls of `send` that returned behind an `await`, and how. -/
  finished : List (SendCall × Except MatterError Unit)
  /-- Every message handed to the channel, oldest first. -/
  sent : List Message

namespace MessageExchange

/-- The constructor. MRP is used when the session supports it, as all of them
do, and the channel is not reliable. -/
def new (sessionId : Nat) (channelIsReliable isInitiator : Bool) (peerSessionId : Nat)
    (nodeId peerNodeId : Option Nat) (exchangeId : Nat) (protocolId : Int) :
    MessageExchange where
  sessionId := sessionId
  isInitiator := isInitiator
  peerSessionId := peerSessionId
  nodeId := nodeId
  peerNodeId := peerNodeId
  exchangeId := exchangeId
  protocolId := protocolId
  useMRP := !channelIsReliable
  messagesQueue := .new
  receivedMessageToAck := none
  receivedMessageAckTimer := false
  sentMessageToAck := none
  sentMessageAckSuccess := none
  sentMessageAckFailure := none
  retransmissionTimers := []
  retransmissionTimer := none
  retransmissionCounter := 0
  closeTimers := []
  closeTimer := none
  isClosing := false
  closed := false
  suspended := []
  ackPromises := 0
  settled := []
  finished := []
  sent := []

variable (exchange : MessageExchange) (call : SendCall) (message : Message)

def stopRetransmissionTimer : MessageExchange :=
  match exchange.retransmissionTimer with
  | some index =>
    { exchange with
      retransmissionTimers :=
        exchange.retransmissionTimers.modify index ({ · with running := false }) }
  | none => exchange

def startRetransmissionTimer : MessageExchange :=
  match exchange.retransmissionTimer with
  | some index =>
    { exchange with
      retransmissionTimers :=
        exchange.retransmissionTimers.modify index ({ · with running := true }) }
  | none => exchange

/-- `this.#retransmissionTimer = Time.getTimer(...)` -/
def setRetransmissionTimer (timer : RetransmissionTimer) : MessageExchange :=
  { exchange with
    retransmissionTimers := exchange.retransmissionTimers ++ [timer]
    retransmissionTimer := some exchange.retransmissionTimers.length }

def stopCloseTimer : MessageExchange :=
  match exchange.closeTimer with
  | some index =>
    { exchange with closeTimers := exchange.closeTimers.modify index fun _ => false }
  | none => exchange

def startCloseTimer : MessageExchange :=
  { exchange with
    closeTimers := exchange.closeTimers ++ [true]
    closeTimer := some exchange.closeTimers.length }

/-- The private `#close`. -/
def closeNow : MessageExchange :=
  let exchange := { exchange with isClosing := true }
  let exchange := exchange.stopRetransmissionTimer
  let exchange := exchange.stopCloseTimer
  { exchange with
    messagesQueue := exchange.messagesQueue.close
    closed := true }

def afterSend : AfterSend → MessageExchange
  | .nothing => exchange
  | .close => exchange.closeNow
  | .startCloseTimer => exchange.startCloseTimer

def finish (outcome : Except MatterError Unit) : MessageExchange :=
  { exchange with finished := exchange.finished ++ [(call, outcome)] }.afterSend call.after

/-- Call `sentMessageAckSuccess` or `sentMessageAckFailure`, and forget both. -/
def settle (promise : Nat) (outcome : Except MatterError Message) : MessageExchange :=
  { exchange with
    settled := exchange.settled ++ [(promise, outcome)]
    sentMessageAckSuccess := none
    sentMessageAckFailure := none }

/-- The end of `send` before the message counter. Without an explicit id the
pending acknowledgement is piggybacked. -/
def awaitMessageCounter (messageType : Nat) (payload : Bytes) (requiresAck : Option Bool)
    (options : ExchangeSendOptions) (after : AfterSend) : MessageExchange :=
  let call : SendCall :=
    { messageType, payload, requiresAck
      ackedMessageId := options.includeAcknowledgeMessageId
      expectAckOnly := options.expectAckOnly
      disableMrpLogic := options.disableMrpLogic
      expectedProcessingTimeMs := options.expectedProcessingTimeMs
      after }
  match options.includeAcknowledgeMessageId, exchange.useMRP,
      exchange.receivedMessageToAck with
  | none, true, some messageToAck =>
    let call := { call with ackedMessageId := some messageToAck.packetHeader.messageId }
    { exchange with
      receivedMessageAckTimer := false
      receivedMessageToAck := none
      suspended := exchange.suspended ++ [.messageCounter call] }
  | _, _, _ =>
    { exchange with suspended := exchange.suspended ++ [.messageCounter call] }

/-- `send` up to the message counter. -/
def send (exchange : MessageExchange) (messageType : Nat) (payload : Bytes)
    (options : ExchangeSendOptions) (after : AfterSend) :
    MessageExchange × Except MatterError Unit :=
  let requiresAck :=
    if options.requiresAck = some true ∧ exchange.useMRP = false then some false
    else options.requiresAck
  if exchange.useMRP = false ∧ options.includeAcknowledgeMessageId.isSome then
    (exchange, .error (.internalError
      "Cannot include an acknowledge message ID when MRP is not used"))
  else if messageType = SecureMessageType.standaloneAck ∧ exchange.useMRP = false then
    (exchange.afterSend after, .ok ())
  else if messageType = SecureMessageType.standaloneAck ∧ requiresAck = some true then
    (exchange, .error (.matterFlowError "A standalone ack may not require acknowledgement."))
  else if exchange.sentMessageToAck.isSome ∧
      messageType ≠ SecureMessageType.standaloneAck then
    (exchange, .error (.matterFlowError
      "The previous message has not been acked yet, cannot send a new message."))
  else
    (exchange.awaitMessageCounter messageType payload requiresAck options after, .ok ())

/-- The message a call of `send` builds. -/
def messageOf (messageId : Nat) : Message where
  packetHeader :=
    { sessionId := exchange.peerSessionId
      sessionType := .unicast
      messageId
      destNodeId := exchange.peerNodeId
      destGroupId := none
      sourceNodeId := exchange.nodeId
      hasPrivacyEnhancements := false
      isControlMessage := false
      hasMessageExtensions := false }
  payloadHeader :=
    { exchangeId := exchange.exchangeId
      protocolId :=
        if call.messageType = SecureMessageType.standaloneAck then secureChannelProtocolId
        else exchange.protocolId
      messageType := call.messageType
      isInitiatorMessage := exchange.isInitiator
      requiresAck := call.requiresAck.getD
        (exchange.useMRP && call.messageType != SecureMessageType.standaloneAck)
      ackedMessageId := call.ackedMessageId
      hasSecuredExtension := false }
  securityExtension := none
  payload := call.payload

/-- `send` from the message counter to the channel. -/
def transmit (messageId : Nat) : MessageExchange :=
  let message := exchange.messageOf call messageId
  if exchange.useMRP && message.payloadHeader.requiresAck && !call.disableMrpLogic then
    let exchange := { exchange with sentMessageToAck := some message }
    let exchange := exchange.setRetransmissionTimer
      { message
        expectedProcessingTimeMs := some call.expectedProcessingTimeMs
        running := false }
    { exchange with
      ackPromises := exchange.ackPromises + 1
      sentMessageAckSuccess := some exchange.ackPromises
      sentMessageAckFailure := some exchange.ackPromises
      sent := exchange.sent ++ [message]
      suspended := exchange.suspended ++ [.channel call (some exchange.ackPromises)] }
  else
    { exchange with
      sent := exchange.sent ++ [message]
      suspended := exchange.suspended ++ [.channel call none] }

/-- `send` from the channel to the acknowledgement it waits for. -/
def awaitAck : Option Nat → MessageExchange
  | none => exchange.finish call (.ok ())
  | some ackPromise =>
    let exchange := { exchange with retransmissionCounter := 0 }
    let exchange := exchange.startRetransmissionTimer
    { exchange with suspended := exchange.suspended ++ [.ack call ackPromise] }

def sendStandaloneAckForMessage (after : AfterSend) : MessageExchange × Except MatterError Unit :=
  if message.payloadHeader.requiresAck = false ∨ exchange.useMRP = false then
    (exchange.afterSend after, .ok ())
  else
    exchange.send SecureMessageType.standaloneAck []
      { ExchangeSendOptions.default with
        includeAcknowledgeMessageId := some message.packetHeader.messageId }
      after

/-! ## Receiving -/

/-- The other side has received our previous message. -/
def acceptAck : MessageExchange :=
  let exchange := { exchange.stopRetransmissionTimer with retransmissionCounter := 0 }
  let exchange :=
    match exchange.sentMessageAckSuccess with
    | some promise => exchange.settle promise (.ok message)
    | none => { exchange with sentMessageAckFailure := none }
  { exchange with sentMessageToAck := none }

/-- How a received message settles the sent one that waits for an
acknowledgement; the second part tells whether the exchange closed on it. -/
def handleAck : Except MatterError (MessageExchange × Bool) :=
  let isStandaloneAck :=
    isStandaloneAck message.payloadHeader.protocolId message.payloadHeader.messageType
  match exchange.sentMessageToAck, message.payloadHeader.ackedMessageId with
  | none, _ => .ok (exchange, false)
  | some _, none => .error (.matterFlowError "Previous message ack is missing")
  | some sent, some ackedMessageId =>
    let sentMessageIdToAck := sent.packetHeader.messageId
    if ackedMessageId ≠ sentMessageIdToAck then
      -- a standalone ack for another message was probably a retransmission
      if isStandaloneAck then .ok (exchange, false)
      else .error (.matterFlowError
        s!"Incorrect ack received. Expected {sentMessageIdToAck}, received: {ackedMessageId}")
    else
      let exchange := exchange.acceptAck message
      if isStandaloneAck && exchange.closeTimer.isSome then .ok (exchange.closeNow, true)
      else .ok (exchange, false)

/-- `await this.#messagesQueue.write(message)` -/
def writeMessage : MessageExchange × Except MatterError Unit :=
  match exchange.messagesQueue.write message with
  | .ok messagesQueue => ({ exchange with messagesQueue }, .ok ())
  | .error error => (exchange, .error error)

/-- The end of `onMessageReceived`, for a message of the message stream. -/
def enqueue : MessageExchange × Except MatterError Unit :=
  if message.payloadHeader.requiresAck then
    match exchange.receivedMessageToAck with
    | some receivedMessageToAck =>
      -- the earlier message is acknowledged at once, and this one is dropped
      { exchange with receivedMessageAckTimer := false }.sendStandaloneAckForMessage
        receivedMessageToAck .nothing
    | none =>
      { exchange with
        receivedMessageToAck := some message
        receivedMessageAckTimer := true }.writeMessage message
  else
    exchange.writeMessage message

/-- The message as the exchange takes it: without MRP nothing is acknowledged. -/
def adjust : Message :=
  if message.payloadHeader.requiresAck && !exchange.useMRP then
    { message with payloadHeader := { message.payloadHeader with requiresAck := false } }
  else message

/-- `onMessageReceived` for a message seen for the first time. -/
def onFreshMessage : MessageExchange × Except MatterError Unit :=
  match exchange.handleAck message with
  | .error error => (exchange, .error error)
  | .ok (exchange, true) => (exchange, .ok ())
  | .ok (exchange, false) =>
    -- standalone acks are not part of the message stream
    if isStandaloneAck message.payloadHeader.protocolId message.payloadHeader.messageType
    then (exchange, .ok ())
    else exchange.enqueue message

def onMessageReceived (duplicate : Bool) : MessageExchange × Except MatterError Unit :=
  let message := exchange.adjust message
  let payloadHeader := message.payloadHeader
  let isStandaloneAck := isStandaloneAck payloadHeader.protocolId payloadHeader.messageType
  if payloadHeader.protocolId ≠ exchange.protocolId ∧ isStandaloneAck = false then
    (exchange, .error (.matterFlowError
      (s!"Drop received a message for an unexpected protocol. Expected: " ++
        s!"{exchange.protocolId}, received: {payloadHeader.protocolId}")))
  else if duplicate then
    if payloadHeader.requiresAck then exchange.sendStandaloneAckForMessage message .nothing
    else (exchange, .ok ())
  else
    match exchange.sentMessageToAck with
    | some sent =>
      if sent.payloadHeader.ackedMessageId = some message.packetHeader.messageId then
        -- the other side did not get our ack, so the reply that contains it is sent again
        ({ exchange with sent := exchange.sent ++ [sent] }, .ok ())
      else
        exchange.onFreshMessage message
    | none => exchange.onFreshMessage message

/-! ## Timers firing -/

def onReceivedMessageAckTimer : MessageExchange :=
  if exchange.receivedMessageAckTimer then
    let exchange := { exchange with receivedMessageAckTimer := false }
    match exchange.receivedMessageToAck with
    | some messageToAck =>
      ({ exchange with receivedMessageToAck := none }.sendStandaloneAckForMessage
        messageToAck .nothing).1
    | none => exchange
  else exchange

/-- Reject the send that waits for its acknowledgement. The acknowledgement
pending for the other side is given up with it. -/
def rejectSentMessage : MessageExchange :=
  match exchange.sentMessageToAck, exchange.sentMessageAckFailure with
  | some _, some promise =>
    { exchange with receivedMessageToAck := none }.settle promise
      (.error (.retransmissionLimitReachedError ""))
  | _, _ => exchange

/-- The end of all retransmissions. -/
def giveUp : MessageExchange :=
  let exchange := exchange.rejectSentMessage
  if exchange.closeTimer.isSome then exchange.closeNow else exchange

/-- `finalWaitTime` is what the maximum response time of the peer leaves to
wait after the last retransmission. -/
def retransmitMessage (expectedProcessingTimeMs : Option Nat) (finalWaitTime : Int) :
    MessageExchange :=
  let exchange :=
    { exchange with retransmissionCounter := exchange.retransmissionCounter + 1 }
  if mrpMaxTransmissions ≤ exchange.retransmissionCounter then
    if expectedProcessingTimeMs.isSome ∧ 0 < finalWaitTime then
      let exchange :=
        { exchange with retransmissionCounter := exchange.retransmissionCounter - 1 }
      exchange.setRetransmissionTimer { message, expectedProcessingTimeMs := none, running := true }
    else exchange.giveUp
  else
    { exchange with
      sent := exchange.sent ++ [message]
      suspended := exchange.suspended ++ [.resubmission message expectedProcessingTimeMs] }

def initializeResubmission (expectedProcessingTimeMs : Option Nat) : MessageExchange :=
  exchange.setRetransmissionTimer { message, expectedProcessingTimeMs, running := true }

def onRetransmissionTimer (index : Nat) (finalWaitTime : Int) : MessageExchange :=
  match exchange.retransmissionTimers[index]? with
  | some timer =>
    if timer.running then
      let exchange :=
        { exchange with
          retransmissionTimers :=
            exchange.retransmissionTimers.modify index ({ · with running := false }) }
      exchange.retransmitMessage timer.message timer.expectedProcessingTimeMs finalWaitTime
    else exchange
  | none => exchange

def onCloseTimer (index : Nat) : MessageExchange :=
  if exchange.closeTimers[index]? = some true then
    { exchange with
      closeTimers := exchange.closeTimers.modify index fun _ => false }.closeNow
  else exchange

/-- `send` behind the acknowledgement it waited for. -/
def onAckSettled : Except MatterError Message → MessageExchange
  | .ok response =>
    let exchange :=
      { exchange with sentMessageAckSuccess := none, sentMessageAckFailure := none }
    let payloadHeader := response.payloadHeader
    if call.expectAckOnly ∧
        isStandaloneAck payloadHeader.protocolId payloadHeader.messageType = false then
      exchange.finish call (.error (.unexpectedMessageError "Expected ack only"))
    else exchange.finish call (.ok ())
  | .error error => exchange.finish call (.error error)

/-- Go on with a suspended call. A resumption that does not fit what the call
waits for changes nothing. -/
def resume (position : Nat) (resumption : Resumption) : MessageExchange :=
  let resumed := { exchange with suspended := exchange.suspended.eraseIdx position }
  match exchange.suspended[position]?, resumption with
  | some (.messageCounter call), .messageCounter (.ok messageId) =>
    resumed.transmit call messageId
  | some (.messageCounter call), .messageCounter (.error error) =>
    resumed.finish call (.error error)
  | some (.channel call ackPromise), .channel .sent => resumed.awaitAck call ackPromise
  | some (.channel call _), .channel outcome => resumed.finish call (.error outcome.toError)
  | some (.ack call ackPromise), .ack =>
    match exchange.settled.lookup ackPromise with
    | some outcome => resumed.onAckSettled call outcome
    | none => exchange
  | some (.resubmission _ _), .channel .channelNotConnected => resumed.closeNow
  | some (.resubmission message expectedProcessingTimeMs), .channel _ =>
    resumed.initializeResubmission message expectedProcessingTimeMs
  | _, _ => exchange

/-- Acknowledge what is pending, then go on as `after` says. An error of the
send is only logged. -/
def flushAck (messageToAck : Message) (after : AfterSend) : MessageExchange :=
  let exchange :=
    { exchange with receivedMessageAckTimer := false, receivedMessageToAck := none }
  match exchange.sendStandaloneAckForMessage messageToAck after with
  | (exchange, .ok _) => exchange
  | (exchange, .error _) => exchange.afterSend after

def destroy : MessageExchange :=
  match exchange.closeTimer, exchange.receivedMessageToAck with
  | none, some messageToAck => exchange.flushAck messageToAck .close
  | _, _ => exchange.closeNow

def close (exchange : MessageExchange) (force : Bool) : MessageExchange :=
  if exchange.closeTimer.isSome then
    if force then exchange.stopCloseTimer.closeNow else exchange
  else
    let exchange := { exchange with isClosing := true }
    match exchange.receivedMessageToAck with
    | some messageToAck =>
      exchange.flushAck messageToAck (if force then .close else .startCloseTimer)
    | none =>
      if exchange.sentMessageToAck.isNone ∨ force then exchange.closeNow
      else exchange.startCloseTimer

/-- `nextMessage` up to where it waits. -/
def nextMessage : MessageExchange :=
  match exchange.messagesQueue.read with
  | .ok messagesQueue => { exchange with messagesQueue }
  | .error _ => exchange

def onReadTimeout : MessageExchange :=
  { exchange with messagesQueue := exchange.messagesQueue.readTimeout }

/-- What an exchange does besides receiving messages: calls of its users, timers
that fire, and calls that go on behind what they waited for. -/
inductive Action where
  | send (messageType : Nat) (payload : Bytes) (options : ExchangeSendOptions)
  | resume (position : Nat) (resumption : Resumption)
  | receivedMessageAckTimer
  | retransmissionTimer (index : Nat) (finalWaitTime : Int)
  | closeTimer (index : Nat)
  | close (force : Bool)
  | destroy
  | nextMessage
  | readTimeout

def act : Action → MessageExchange
  | .send messageType payload options =>
    (exchange.send messageType payload options .nothing).1
  | .resume position resumption => exchange.resume position resumption
  | .receivedMessageAckTimer => exchange.onReceivedMessageAckTimer
  | .retransmissionTimer index finalWaitTime =>
    exchange.onRetransmissionTimer index finalWaitTime
  | .closeTimer index => exchange.onCloseTimer index
  | .close force => exchange.close force
  | .destroy => exchange.destroy
  | .nextMessage => exchange.nextMessage
  | .readTimeout => exchange.onReadTimeout

end MessageExchange

end MatterJs.Protocol
