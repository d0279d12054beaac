import MatterJs.Foundation.SerialNumbers
import MatterJs.General.SignedReader
import MatterJs.Protocol.BtpCodec

/-! A session of the Bluetooth transport protocol: one side of it, between what the
application sends and what comes in. Calls that wait for a write are cut in two there. -/

namespace MatterJs.Protocol

open General SerialNumbers

inductive BtpRole where
  | central
  | peripheral
  deriving DecidableEq

structure BtpParameters where
  role : BtpRole
  fragmentSize : Nat
  clientWindowSize : UInt8
  deriving DecidableEq

/-- The numbers of outgoing packets. `unacknowledged` is not the code's: the numbers of the
packets that were sent and that no acknowledgement the code took was for. -/
structure SendWindow where
  prevIncomingAckNumber : Int
  sequenceNumber : Int
  unacknowledged : List Int
  deriving DecidableEq

/-- The message whose segments come in, and the messages the callback was given. -/
structure SegmentAssembly where
  currentIncomingSegmentedMsgLength : Option Nat
  currentIncomingSegmentedPayload : Option Bytes
  handled : List Bytes
  deriving DecidableEq

/-- A timer is given by whether it is running. -/
structure BtpSessionHandler where
  assembly : SegmentAssembly
  prevIncomingSequenceNumber : Nat
  window : SendWindow
  ackReceiveTimer : Bool
  prevAckedSequenceNumber : Int
  queuedOutgoingMatterMessages : List SignedReader
  sendInProgress : Bool
  sendAckTimer : Bool
  isActive : Bool
  idleTimeout : Bool
  /-- The segment the loop of `processSendQueue` waits for the write of: whether it ends its
  message. -/
  pendingSegment : Option Bool
  /-- The packets without a segment that are being written. -/
  pendingAcks : Nat
  /-- The packets given to the transport. -/
  written : List Bytes

def maximumSequenceNumber : Int := 255

/-- Increments sequence number for the packets and round it off to 0 when it reaches the
maximum limit. -/
def getNextSequenceNumber (sequenceNumber : Int) : Int :=
  if sequenceNumber + 1 > maximumSequenceNumber then 0 else sequenceNumber + 1

def exceedsWindowSize (clientWindowSize : UInt8)
    (prevIncomingAckNumber currentSequenceNumber : Int) : Bool :=
  let prevIncomingAckNumber :=
    if prevIncomingAckNumber > currentSequenceNumber then
      prevIncomingAckNumber.tmod maximumSequenceNumber - 1
    else prevIncomingAckNumber
  currentSequenceNumber - prevIncomingAckNumber > (clientWindowSize.toNat : Int) - 1

namespace SendWindow

variable (window : SendWindow)

def isFull (clientWindowSize : UInt8) : Bool :=
  exceedsWindowSize clientWindowSize window.prevIncomingAckNumber window.sequenceNumber

def numberTaken : SendWindow :=
  { window with sequenceNumber := getNextSequenceNumber window.sequenceNumber }

/-- The packet with the number taken last is given to the transport. -/
def sent : SendWindow :=
  { window with unacknowledged := window.unacknowledged ++ [window.sequenceNumber] }

/-- The check of an acknowledgement. -/
def accepts (clientWindowSize : UInt8) (ackNumber : Nat) : Bool :=
  !(ackNumber > window.sequenceNumber ||
    exceedsWindowSize clientWindowSize window.prevIncomingAckNumber ackNumber)

def acknowledge (ackNumber : Nat) : SendWindow :=
  { window with
    prevIncomingAckNumber := ackNumber
    unacknowledged := dropThrough (ackNumber : Int) window.unacknowledged }

end SendWindow

namespace SegmentAssembly

variable (assembly : SegmentAssembly) (packet : DecodedBtpPacket)

/-- Set or add the payload to the current incoming segmented payload. -/
def addSegment : Except MatterError SegmentAssembly :=
  let { header, payload } := packet
  if header.isBeginningSegment then
    if assembly.currentIncomingSegmentedPayload.isSome then
      .error (.btpProtocolError ("BTP message flow error! New beginning packet was received " ++
        "without previous message being completed."))
    else
      .ok { assembly with
            currentIncomingSegmentedMsgLength := payload.messageLength
            currentIncomingSegmentedPayload := some payload.segmentPayload }
  else if header.isContinuingSegment || header.isEndingSegment then
    match assembly.currentIncomingSegmentedPayload with
    | none =>
      .error (.btpProtocolError
        "BTP Continuing or ending packet received without beginning packet.")
    | some received =>
      if payload.segmentPayload = [] then
        .error (.btpProtocolError "BTP Continuing or ending packet received without payload.")
      else
        .ok { assembly with
              currentIncomingSegmentedPayload := some (received ++ payload.segmentPayload) }
  else .ok assembly

def completeMessage : Except MatterError SegmentAssembly :=
  if packet.header.isEndingSegment then
    match assembly.currentIncomingSegmentedMsgLength,
      assembly.currentIncomingSegmentedPayload with
    | some length, some payload =>
      if payload.length ≠ length then
        .error (.btpProtocolError (s!"BTP packet payload length does not match message " ++
          s!"length: {payload.length} !== {length}"))
      else
        .ok { currentIncomingSegmentedMsgLength := none
              currentIncomingSegmentedPayload := none
              handled := assembly.handled ++ [payload] }
    | _, _ =>
      .error (.btpProtocolError "BTP beginning packet missing but ending packet received.")
  else .ok assembly

/-- Both parts of what a packet does to the message it belongs to. -/
def receive : Except MatterError SegmentAssembly := do
  let assembly ← assembly.addSegment packet
  assembly.completeMessage packet

end SegmentAssembly

/-- Steps in order; one that throws leaves what those before it did. -/
def inTurn {State Failure : Type} :
    List (State → Except Failure State) → State → State × Except Failure Unit
  | [], state => (state, .ok ())
  | action :: actions, state =>
    match action state with
    | .ok next => inTurn actions next
    | .error failure => (state, .error failure)

namespace BtpSessionHandler

/-- A new session, for version 4 of the protocol, the only one there is. The peripheral has
sent its handshake response as the packet 0, and the central has received it. -/
def start (role : BtpRole) : BtpSessionHandler where
  assembly :=
    { currentIncomingSegmentedMsgLength := none
      currentIncomingSegmentedPayload := none
      handled := [] }
  prevIncomingSequenceNumber :=
    match role with
    | .peripheral => 255
    | .central => 0
  window :=
    match role with
    | .peripheral =>
      { prevIncomingAckNumber := -1
        sequenceNumber := 0
        unacknowledged := [0] }
    | .central =>
      { prevIncomingAckNumber := -1
        sequenceNumber := -1
        unacknowledged := [] }
  ackReceiveTimer := role = .peripheral
  prevAckedSequenceNumber := -1
  queuedOutgoingMatterMessages := []
  sendInProgress := false
  sendAckTimer := role = .central
  isActive := true
  idleTimeout := false
  pendingSegment := none
  pendingAcks := 0
  written := []

def close (session : BtpSessionHandler) : BtpSessionHandler :=
  { session with
    sendAckTimer := false
    ackReceiveTimer := false
    idleTimeout := false
    isActive := false }

variable (parameters : BtpParameters)

/-! ## Incoming packets -/

def checkIncomingPacket (session : BtpSessionHandler) (data : Bytes) :
    Except MatterError DecodedBtpPacket :=
  if data.length > parameters.fragmentSize + 3 then
    .error (.btpProtocolError (s!"Received data {data.length} bytes exceeds fragment size of " ++
      s!"{parameters.fragmentSize} bytes"))
  else
    match BtpCodec.decodeBtpPacket data with
    | .error error => .error error
    | .ok packet =>
      if packet.header.isHandshakeRequest || packet.header.hasManagementOpcode then
        .error (.btpProtocolError
          "BTP packet must not be a handshake request or have a management opcode.")
      else if packet.payload.segmentPayload = [] && !packet.header.hasAckNumber then
        .error (.btpProtocolError "BTP packet must have a segment payload or an ack number.")
      else if packet.payload.sequenceNumber ≠ (session.prevIncomingSequenceNumber + 1) % 256 then
        .error (.btpProtocolError "Expected and actual BTP packets sequence number does not match")
      else .ok packet

def receiveSequenceNumber (session : BtpSessionHandler) (packet : DecodedBtpPacket) :
    BtpSessionHandler :=
  { session with
    prevIncomingSequenceNumber := packet.payload.sequenceNumber
    sendAckTimer := true }

/-- Check that ack number is valid; if still waiting for ack for sequence number restart
timer. -/
def receiveAckNumber (packet : DecodedBtpPacket) (session : BtpSessionHandler) :
    Except MatterError BtpSessionHandler :=
  match packet.payload.ackNumber with
  | none => .ok session
  | some ackNumber =>
    let window := session.window
    if window.accepts parameters.clientWindowSize ackNumber then
      .ok { session with
            window := window.acknowledge ackNumber
            ackReceiveTimer := (ackNumber : Int) ≠ window.sequenceNumber }
    else
      .error (.btpProtocolError (s!"Invalid Ack Number, Ack Number: {ackNumber}, " ++
        s!"Sequence Number: {window.sequenceNumber}, " ++
        s!"Previous AckNumber: {window.prevIncomingAckNumber}"))

def onAssembly (change : SegmentAssembly → Except MatterError SegmentAssembly)
    (session : BtpSessionHandler) : Except MatterError BtpSessionHandler := do
  let assembly ← change session.assembly
  return { session with assembly }

/-- `BtpProtocolError.accept` -/
def acceptProtocolError : MatterError → Except MatterError Unit
  | .btpProtocolError _ => .ok ()
  | error => .error error

def handleIncomingBleData (session : BtpSessionHandler) (data : Bytes) :
    BtpSessionHandler × Except MatterError Unit :=
  if session.isActive then
    match session.checkIncomingPacket parameters data with
    | .error error => (session.close, acceptProtocolError error)
    | .ok packet =>
      let handling := inTurn
        [receiveAckNumber parameters packet, onAssembly (·.addSegment packet),
          onAssembly (·.completeMessage packet)]
        (session.receiveSequenceNumber packet)
      match handling with
      | (session, .ok ()) => (session, .ok ())
      | (session, .error error) => (session.close, acceptProtocolError error)
  else (session, .ok ())

/-! ## Outgoing packets -/

def write (session : BtpSessionHandler) (packet : Bytes) : BtpSessionHandler :=
  { session with
    window := session.window.sent
    written := session.written ++ [packet] }

def hasAckNumber (session : BtpSessionHandler) : Bool :=
  (session.prevIncomingSequenceNumber : Int) ≠ session.prevAckedSequenceNumber

def btpHeaderLength (isBeginningSegment hasAckNumber : Bool) : Int :=
  2 + (if isBeginningSegment then 2 else 0) + (if hasAckNumber then 1 else 0)

def segmentRoom (session : BtpSessionHandler) (message : SignedReader) : Int :=
  parameters.fragmentSize -
    btpHeaderLength (message.remainingBytesCount == message.buffer.length) session.hasAckNumber

def nextHeader (session : BtpSessionHandler) (message : SignedReader) : BtpHeader :=
  let isBeginningSegment := message.remainingBytesCount == message.buffer.length
  { isHandshakeRequest := false
    hasManagementOpcode := false
    hasAckNumber := session.hasAckNumber
    isEndingSegment := message.remainingBytesCount ≤ session.segmentRoom parameters message
    isContinuingSegment := !isBeginningSegment
    isBeginningSegment }

def nextPacket (session : BtpSessionHandler) (message : SignedReader) (sequenceNumber : Int) :
    BtpPacket :=
  let header := session.nextHeader parameters message
  { header
    payload :=
      { ackNumber :=
          if header.hasAckNumber then some session.prevIncomingSequenceNumber else none
        sequenceNumber
        messageLength :=
          if header.isBeginningSegment then some message.remainingBytesCount.toNat else none
        segmentPayload :=
          some (message.readByteArray (session.segmentRoom parameters message)).1 } }

/-- The pending acknowledgement goes out with a packet. -/
def acknowledgeIncoming (session : BtpSessionHandler) : BtpSessionHandler :=
  { session with
    prevAckedSequenceNumber :=
      if session.hasAckNumber then session.prevIncomingSequenceNumber
      else session.prevAckedSequenceNumber
    sendAckTimer := session.sendAckTimer && !session.hasAckNumber }

/-- The loop of `processSendQueue` from its head up to the write of a segment. When the packet
cannot be encoded, the call ends without resetting `sendInProgress`. -/
def sendSegment (session : BtpSessionHandler) : BtpSessionHandler :=
  match session.queuedOutgoingMatterMessages with
  | [] => { session with sendInProgress := false }
  | message :: later =>
    let window := session.window.numberTaken
    let packet := session.nextPacket parameters message window.sequenceNumber
    let read := (message.readByteArray (session.segmentRoom parameters message)).2
    let taken :=
      { session.acknowledgeIncoming with
        window
        queuedOutgoingMatterMessages := read :: later }
    match BtpCodec.encodeBtpPacket packet with
    | .error _ => taken
    | .ok data =>
      { taken.write data with pendingSegment := some packet.header.isEndingSegment }

def processSendQueue (session : BtpSessionHandler) : BtpSessionHandler :=
  if session.sendInProgress then session
  else if session.window.isFull parameters.clientWindowSize then session
  else if session.queuedOutgoingMatterMessages = [] then session
  else sendSegment parameters { session with sendInProgress := true }

def enqueue (session : BtpSessionHandler) (data : Bytes) : BtpSessionHandler :=
  { session with
    queuedOutgoingMatterMessages :=
      session.queuedOutgoingMatterMessages ++ [SignedReader.new data] }

def sendMatterMessage (session : BtpSessionHandler) (data : Bytes) :
    Except MatterError BtpSessionHandler :=
  if !session.isActive then .error (.btpFlowError "BTP session is not active")
  else if data.length = 0 then .error (.btpFlowError "BTP packet must not be empty")
  else .ok (processSendQueue parameters (session.enqueue data))

def afterSegment (session : BtpSessionHandler) (isEndingSegment : Bool) : BtpSessionHandler :=
  { session with
    pendingSegment := none
    ackReceiveTimer := true
    idleTimeout := session.idleTimeout || parameters.role = .central
    queuedOutgoingMatterMessages :=
      if isEndingSegment then session.queuedOutgoingMatterMessages.tail
      else session.queuedOutgoingMatterMessages }

/-- The loop of `processSendQueue` from the write of a segment on. -/
def segmentWritten (session : BtpSessionHandler) : BtpSessionHandler :=
  match session.pendingSegment with
  | none => session
  | some isEndingSegment =>
    let session := session.afterSegment parameters isEndingSegment
    if session.window.isFull parameters.clientWindowSize then
      { session with sendInProgress := false }
    else sendSegment parameters session

def ackPacket (session : BtpSessionHandler) (sequenceNumber : Int) : BtpPacket where
  header :=
    { isHandshakeRequest := false
      hasManagementOpcode := false
      hasAckNumber := true
      isEndingSegment := false
      isContinuingSegment := false
      isBeginningSegment := false }
  payload :=
    { ackNumber := some session.prevIncomingSequenceNumber
      sequenceNumber
      messageLength := none
      segmentPayload := none }

/-- If this timer expires and the peer has a pending acknowledgement, the peer SHALL immediately
send that acknowledgement. -/
def btpSendAckTimeoutTriggered (session : BtpSessionHandler) : BtpSessionHandler :=
  if (session.prevIncomingSequenceNumber : Int) > session.prevAckedSequenceNumber then
    let window := session.window.numberTaken
    let taken :=
      { session with
        window
        prevAckedSequenceNumber := session.prevIncomingSequenceNumber }
    match BtpCodec.encodeBtpPacket (session.ackPacket window.sequenceNumber) with
    | .error _ => taken
    | .ok data => { taken.write data with pendingAcks := session.pendingAcks + 1 }
  else session

/-- If a peer's acknowledgement-received timer expires, the peer SHALL close the BTP session. -/
def btpAckTimeoutTriggered (session : BtpSessionHandler) : BtpSessionHandler :=
  if session.window.prevIncomingAckNumber ≠ session.window.sequenceNumber then session.close
  else session

end BtpSessionHandler

inductive BtpEvent where
  | sendMatterMessage (data : Bytes)
  | handleIncomingBleData (data : Bytes)
  /-- The transport is done with the segment the send loop waits for. -/
  | segmentWritten
  | segmentWriteFailed
  /-- The transport is done with a packet without a segment. -/
  | ackWritten
  | ackWriteFailed
  | sendAckTimeout
  | ackReceiveTimeout
  | idleTimeout
  /-- The transport is gone, or the callback for a message threw. -/
  | close
  deriving DecidableEq

open BtpSessionHandler in
def BtpSessionHandler.step (parameters : BtpParameters) (session : BtpSessionHandler) :
    BtpEvent → BtpSessionHandler
  | .sendMatterMessage data =>
    match session.sendMatterMessage parameters data with
    | .ok next => next
    | .error _ => session
  | .handleIncomingBleData data => (session.handleIncomingBleData parameters data).1
  | .segmentWritten => session.segmentWritten parameters
  | .segmentWriteFailed => { session with pendingSegment := none }
  | .ackWritten =>
    if session.pendingAcks = 0 then session
    else { session with pendingAcks := session.pendingAcks - 1, ackReceiveTimer := true }
  | .ackWriteFailed => { session with pendingAcks := session.pendingAcks - 1 }
  | .sendAckTimeout =>
    if session.sendAckTimer then
      { session with sendAckTimer := false }.btpSendAckTimeoutTriggered
    else session
  | .ackReceiveTimeout =>
    if session.ackReceiveTimer then
      { session with ackReceiveTimer := false }.btpAckTimeoutTriggered
    else session
  | .idleTimeout => if session.idleTimeout then session.close else session
  | .close => session.close

/-! ## What a step does to the outgoing side -/

namespace BtpSessionHandler

variable {parameters : BtpParameters} {session : BtpSessionHandler}

def atLoopHead (parameters : BtpParameters) (session : BtpSessionHandler) :
    BtpEvent → Option BtpSessionHandler
  | .sendMatterMessage data =>
    if session.isActive ∧ data ≠ [] ∧ ¬session.sendInProgress ∧
        ¬session.window.isFull parameters.clientWindowSize then
      some { session.enqueue data with sendInProgress := true }
    else none
  | .segmentWritten =>
    match session.pendingSegment with
    | some isEndingSegment =>
      if session.window.isFull parameters.clientWindowSize then none
      else some (session.afterSegment parameters isEndingSegment)
    | none => none
  | _ => none

def HasRoom (parameters : BtpParameters) (session : BtpSessionHandler)
    (message : SignedReader) : Prop :=
  (message.readByteArray (session.segmentRoom parameters message)).1 ≠ []

instance (message : SignedReader) : Decidable (session.HasRoom parameters message) :=
  inferInstanceAs (Decidable (_ ≠ _))

theorem nextPacket_coherent {message : SignedReader} (sequenceNumber : Int)
    (room : session.HasRoom parameters message) :
    (session.nextPacket parameters message sequenceNumber).Coherent where
  noHandshake := rfl
  noManagement := rfl
  ackNumber := by
    simp only [nextPacket]
    cases (session.nextHeader parameters message).hasAckNumber <;> rfl
  messageLength := by
    simp only [nextPacket]
    cases (session.nextHeader parameters message).isBeginningSegment <;> rfl
  oneKind beginning := by
    simp only [nextPacket, nextHeader] at beginning ⊢
    rw [beginning]
    rfl
  ofSegment _ := by
    simp only [nextPacket, nextHeader, Bool.not_eq_true']
    exact (Bool.eq_false_or_eq_true _)
  segment _ := room

theorem ackPacket_coherent (sequenceNumber : Int) :
    (session.ackPacket sequenceNumber).Coherent where
  noHandshake := rfl
  noManagement := rfl
  ackNumber := rfl
  messageLength := rfl
  oneKind := nofun
  ofSegment := nofun
  segment := by rintro (beginning | continuing) <;> contradiction

theorem encode_nextPacket_of_noRoom {message : SignedReader} (sequenceNumber : Int)
    (noRoom : ¬session.HasRoom parameters message) :
    ∃ error, BtpCodec.encodeBtpPacket (session.nextPacket parameters message sequenceNumber) =
      .error error := by
  apply BtpCodec.encodeBtpPacket_of_noSegment
  · exact Bool.or_not_self _
  · exact not_not.mp noRoom

def segmentTaken (parameters : BtpParameters) (session : BtpSessionHandler)
    (message : SignedReader) (later : List SignedReader) : BtpSessionHandler :=
  { session.acknowledgeIncoming with
    window := session.window.numberTaken
    queuedOutgoingMatterMessages :=
      (message.readByteArray (session.segmentRoom parameters message)).2 :: later }

section

variable {message : SignedReader} {later : List SignedReader}

theorem sendSegment_of_empty (empty : session.queuedOutgoingMatterMessages = []) :
    session.sendSegment parameters = { session with sendInProgress := false } := by
  rw [sendSegment, empty]

theorem sendSegment_of_noRoom (queue : session.queuedOutgoingMatterMessages = message :: later)
    (noRoom : ¬session.HasRoom parameters message) :
    session.sendSegment parameters = session.segmentTaken parameters message later := by
  rcases encode_nextPacket_of_noRoom session.window.numberTaken.sequenceNumber noRoom with
    ⟨error, encoded⟩
  rw [sendSegment, queue]
  simp only [encoded]
  rfl

theorem sendSegment_of_room (queue : session.queuedOutgoingMatterMessages = message :: later)
    (room : session.HasRoom parameters message) :
    ∃ data, BtpCodec.encodeBtpPacket
        (session.nextPacket parameters message session.window.numberTaken.sequenceNumber) =
          .ok data ∧
      session.sendSegment parameters =
        { (session.segmentTaken parameters message later).write data with
          pendingSegment := some (session.nextHeader parameters message).isEndingSegment } := by
  have encoded := BtpCodec.encodeBtpPacket_of_coherent
    (nextPacket_coherent session.window.numberTaken.sequenceNumber room)
  refine ⟨_, encoded, ?_⟩
  rw [sendSegment, queue]
  simp only [encoded]
  rfl

end

/-- The step takes an acknowledgement that its check lets through. -/
def TakesAck (parameters : BtpParameters) (session : BtpSessionHandler) (ackNumber : Nat) :
    BtpEvent → Prop
  | .handleIncomingBleData data =>
    session.isActive = true ∧ ∃ packet, session.checkIncomingPacket parameters data = .ok packet ∧
      packet.payload.ackNumber = some ackNumber ∧
      session.window.accepts parameters.clientWindowSize ackNumber = true
  | _ => False

/-- The step sends a packet without a segment. -/
def SendsAck (session : BtpSessionHandler) : BtpEvent → Prop
  | .sendAckTimeout =>
    session.sendAckTimer = true ∧
      session.prevAckedSequenceNumber < session.prevIncomingSequenceNumber
  | _ => False

variable {data : Bytes} {event : BtpEvent} {packet : DecodedBtpPacket}

theorem noHead_of_waits (waits : session.sendInProgress = true ∨
      session.window.isFull parameters.clientWindowSize = true) :
    session.atLoopHead parameters (.sendMatterMessage data) = none := by
  refine if_neg fun reached => ?_
  rcases waits with sending | isFull
  · exact reached.2.2.1 sending
  · exact reached.2.2.2 isFull

theorem noHead_of_isFull (isFull : session.window.isFull parameters.clientWindowSize = true) :
    session.atLoopHead parameters .segmentWritten = none := by
  rw [atLoopHead]
  cases session.pendingSegment with
  | none => rfl
  | some isEndingSegment => exact if_pos isFull

theorem SendsAck.noHead (sends : session.SendsAck event) :
    session.atLoopHead parameters event = none := by
  cases event with
  | sendAckTimeout => rfl
  | _ => exact sends.elim

theorem TakesAck.noHead {ackNumber : Nat} (takes : session.TakesAck parameters ackNumber event) :
    session.atLoopHead parameters event = none := by
  cases event with
  | handleIncomingBleData data => rfl
  | _ => exact takes.elim

theorem TakesAck.noAck {ackNumber : Nat} (takes : session.TakesAck parameters ackNumber event) :
    ¬session.SendsAck event := by
  cases event with
  | handleIncomingBleData data => exact nofun
  | _ => exact takes.elim

/-- The queue and the send loop are left alone. -/
structure SameLoop (session next : BtpSessionHandler) : Prop where
  queue : next.queuedOutgoingMatterMessages = session.queuedOutgoingMatterMessages
  sendInProgress : next.sendInProgress = session.sendInProgress
  pendingSegment : next.pendingSegment = session.pendingSegment

theorem SameLoop.refl : SameLoop session session := ⟨rfl, rfl, rfl⟩

/-- The step has nothing to do with outgoing packets. -/
structure Quiet (parameters : BtpParameters) (session : BtpSessionHandler)
    (event : BtpEvent) : Prop where
  noHead : session.atLoopHead parameters event = none
  noAck : ¬session.SendsAck event
  noTake : ∀ ackNumber, ¬session.TakesAck parameters ackNumber event
  notFailed : event ≠ .segmentWriteFailed

/-- What a step does to the window, the queue and the send loop. -/
inductive Sending (parameters : BtpParameters) (session : BtpSessionHandler) (event : BtpEvent)
    (next : BtpSessionHandler) : Prop where
  | looped (head : BtpSessionHandler) (reached : session.atLoopHead parameters event = some head)
      (same : next = head.sendSegment parameters)
  | acknowledged (ackNumber : Nat) (takes : session.TakesAck parameters ackNumber event)
      (window : next.window = session.window.acknowledge ackNumber) (loop : SameLoop session next)
  | ackSent (sends : session.SendsAck event)
      (window : next.window = session.window.numberTaken.sent)
      (loop : SameLoop session next)
  | queued (data : Bytes) (isSend : event = .sendMatterMessage data)
      (waits : session.sendInProgress = true ∨
        session.window.isFull parameters.clientWindowSize = true)
      (same : next = session.enqueue data)
  | ended (isEndingSegment : Bool) (isWritten : event = .segmentWritten)
      (pending : session.pendingSegment = some isEndingSegment)
      (isFull : session.window.isFull parameters.clientWindowSize = true)
      (same : next = { session.afterSegment parameters isEndingSegment with
        sendInProgress := false })
  | failed (isFailure : event = .segmentWriteFailed)
      (same : next = { session with pendingSegment := none })
  | quiet (isQuiet : Quiet parameters session event) (window : next.window = session.window)
      (loop : SameLoop session next)

theorem step_sendMatterMessage (active : session.isActive = true) (notEmpty : data ≠ []) :
    session.step parameters (.sendMatterMessage data) =
      processSendQueue parameters (session.enqueue data) := by
  simp [step, sendMatterMessage, active, notEmpty]

theorem sending_sendMatterMessage (data : Bytes) :
    Sending parameters session (.sendMatterMessage data)
      (session.step parameters (.sendMatterMessage data)) := by
  by_cases usable : session.isActive = true ∧ data ≠ []
  · rw [step_sendMatterMessage usable.1 usable.2, processSendQueue]
    by_cases sending : session.sendInProgress = true
    · rw [if_pos (show (session.enqueue data).sendInProgress = true from sending)]
      exact .queued data rfl (.inl sending) rfl
    · rw [if_neg (show ¬(session.enqueue data).sendInProgress = true from sending)]
      by_cases isFull : session.window.isFull parameters.clientWindowSize = true
      · rw [if_pos (by exact isFull)]
        exact .queued data rfl (.inr isFull) rfl
      · rw [if_neg (by exact isFull), if_neg (by simp [enqueue])]
        exact .looped _ (if_pos ⟨usable.1, usable.2, sending, isFull⟩) rfl
  · have refused : session.step parameters (.sendMatterMessage data) = session := by
      rw [step, sendMatterMessage]
      cases active : session.isActive with
      | false => rfl
      | true => simp [not_not.mp fun notEmpty => usable ⟨active, notEmpty⟩]
    rw [refused]
    have noHead : session.atLoopHead parameters (.sendMatterMessage data) = none :=
      if_neg fun reached => usable ⟨reached.1, reached.2.1⟩
    exact .quiet ⟨noHead, nofun, fun _ => nofun, nofun⟩ rfl .refl

theorem sending_segmentWritten :
    Sending parameters session .segmentWritten (session.step parameters .segmentWritten) := by
  rw [step, segmentWritten]
  cases pending : session.pendingSegment with
  | none =>
    have noHead : session.atLoopHead parameters .segmentWritten = none := by
      rw [atLoopHead, pending]
    exact .quiet ⟨noHead, nofun, fun _ => nofun, nofun⟩ rfl .refl
  | some isEndingSegment =>
    by_cases isFull : session.window.isFull parameters.clientWindowSize = true
    · exact .ended isEndingSegment rfl pending isFull (if_pos isFull)
    · refine .looped (session.afterSegment parameters isEndingSegment) ?_ (if_neg isFull)
      rw [atLoopHead, pending]
      exact if_neg isFull

/-! ## What an incoming packet does -/

structure Carries (parameters : BtpParameters) (data : Bytes) (packet : DecodedBtpPacket) :
    Prop where
  short : data.length ≤ parameters.fragmentSize + 3
  decoded : BtpCodec.decodeBtpPacket data = .ok packet
  plain : packet.header.isHandshakeRequest = false ∧ packet.header.hasManagementOpcode = false
  nonempty : packet.payload.segmentPayload = [] → packet.header.hasAckNumber = true

structure Checked (parameters : BtpParameters) (session : BtpSessionHandler) (data : Bytes)
    (packet : DecodedBtpPacket) : Prop extends Carries parameters data packet where
  inOrder : packet.payload.sequenceNumber = (session.prevIncomingSequenceNumber + 1) % 256

theorem checkIncomingPacket_eq_ok_iff :
    session.checkIncomingPacket parameters data = .ok packet ↔
      Checked parameters session data packet := by
  rw [checkIncomingPacket]
  constructor
  · intro checked
    split_ifs at checked with long
    cases decoded : BtpCodec.decodeBtpPacket data with
    | error error => simp [decoded] at checked
    | ok other =>
      simp only [decoded] at checked
      split_ifs at checked with special empty order
      cases checked
      refine ⟨⟨Nat.le_of_not_lt long, decoded, ?_, ?_⟩, not_not.mp order⟩
      · simpa using special
      · simpa using empty
  · rintro ⟨⟨short, decoded, plain, nonempty⟩, inOrder⟩
    rw [if_neg (Nat.not_lt.mpr short), decoded]
    simp only [plain.1, plain.2]
    rw [if_neg (by simp), if_neg (by simpa using nonempty), if_neg (not_not.mpr inOrder)]

theorem onAssembly_eq (change : SegmentAssembly → Except MatterError SegmentAssembly) :
    onAssembly change session =
      (change session.assembly).map fun assembly => { session with assembly } := by
  rw [onAssembly]
  cases change session.assembly <;> rfl

/-- What the last parts of the handling come to, whether or not they throw. -/
theorem inTurn_assembly (session : BtpSessionHandler) (packet : DecodedBtpPacket) :
    let handling :=
      inTurn [onAssembly (·.addSegment packet), onAssembly (·.completeMessage packet)] session
    (∃ assembly, session.assembly.receive packet = .ok assembly ∧
      handling = ({ session with assembly }, .ok ())) ∨
    ∃ error assembly, session.assembly.receive packet = .error error ∧
      handling = ({ session with assembly }, .error error) := by
  rw [inTurn, onAssembly_eq, SegmentAssembly.receive]
  cases session.assembly.addSegment packet with
  | error error => exact .inr ⟨error, session.assembly, rfl, rfl⟩
  | ok added =>
    simp only [Except.map, inTurn, onAssembly_eq]
    cases completed : added.completeMessage packet with
    | error error => exact .inr ⟨error, added, completed, rfl⟩
    | ok assembly => exact .inl ⟨assembly, completed, rfl⟩

theorem receiveAckNumber_eq_ok_iff {taken : BtpSessionHandler} :
    session.receiveAckNumber parameters packet = .ok taken ↔
      (packet.payload.ackNumber = none ∧ taken = session) ∨
      ∃ ackNumber, packet.payload.ackNumber = some ackNumber ∧
        session.window.accepts parameters.clientWindowSize ackNumber = true ∧
        taken = { session with
                  window := session.window.acknowledge ackNumber
                  ackReceiveTimer := (ackNumber : Int) ≠ session.window.sequenceNumber } := by
  rw [receiveAckNumber]
  cases packet.payload.ackNumber with
  | none => simp [Eq.comm (b := session)]
  | some ackNumber =>
    by_cases accepted : session.window.accepts parameters.clientWindowSize ackNumber = true
    · simp [accepted, Eq.comm (b := taken)]
    · simp [accepted]

theorem handleIncomingBleData_of_inactive (inactive : session.isActive = false) (data : Bytes) :
    session.handleIncomingBleData parameters data = (session, .ok ()) := by
  rw [handleIncomingBleData, inactive]
  rfl

theorem handleIncomingBleData_of_unchecked {error : MatterError} (active : session.isActive = true)
    (checked : session.checkIncomingPacket parameters data = .error error) :
    session.handleIncomingBleData parameters data = (session.close, acceptProtocolError error) := by
  rw [handleIncomingBleData, active, checked]
  rfl

theorem handleIncomingBleData_cases (active : session.isActive = true)
    (checked : session.checkIncomingPacket parameters data = .ok packet) :
    let received := session.receiveSequenceNumber packet
    let after := (session.handleIncomingBleData parameters data).1
    (∃ error, received.receiveAckNumber parameters packet = .error error ∧ after = received.close) ∨
    ∃ taken, received.receiveAckNumber parameters packet = .ok taken ∧
      ((∃ assembly, session.assembly.receive packet = .ok assembly ∧
          after = { taken with assembly }) ∨
        ∃ error assembly, session.assembly.receive packet = .error error ∧
          after = { taken with assembly }.close) := by
  intro received after
  have handled : after = (session.handleIncomingBleData parameters data).1 := rfl
  rw [handleIncomingBleData, active, checked] at handled
  simp only [if_true] at handled
  rw [inTurn] at handled
  cases acked : received.receiveAckNumber parameters packet with
  | error error =>
    rw [acked] at handled
    exact .inl ⟨error, rfl, handled⟩
  | ok taken =>
    rw [acked] at handled
    have sameAssembly : taken.assembly = session.assembly := by
      rcases receiveAckNumber_eq_ok_iff.mp acked with ⟨_, rfl⟩ | ⟨_, _, _, rfl⟩ <;> rfl
    refine .inr ⟨taken, rfl, ?_⟩
    rcases inTurn_assembly taken packet with
      ⟨assembly, receives, handling⟩ | ⟨error, assembly, receives, handling⟩
    · simp only [handling] at handled
      exact .inl ⟨assembly, sameAssembly ▸ receives, handled⟩
    · simp only [handling] at handled
      exact .inr ⟨error, assembly, sameAssembly ▸ receives, handled⟩

theorem handleIncomingBleData_of_accepted {assembly : SegmentAssembly}
    (active : session.isActive = true) (checked : Checked parameters session data packet)
    (accepted : ∀ ackNumber, packet.payload.ackNumber = some ackNumber →
      session.window.accepts parameters.clientWindowSize ackNumber = true)
    (receives : session.assembly.receive packet = .ok assembly) :
    ∃ ackReceiveTimer, (session.handleIncomingBleData parameters data).1 =
      { session.receiveSequenceNumber packet with
        assembly
        ackReceiveTimer
        window := packet.payload.ackNumber.elim session.window session.window.acknowledge } := by
  rcases handleIncomingBleData_cases active (checkIncomingPacket_eq_ok_iff.mpr checked) with
    ⟨error, refused, _⟩ | ⟨taken, acked, outcome⟩
  · rw [receiveAckNumber] at refused
    cases isAck : packet.payload.ackNumber with
    | none =>
      rw [isAck] at refused
      cases refused
    | some ackNumber =>
      rw [isAck] at refused
      have isAccepted : (session.receiveSequenceNumber packet).window.accepts
          parameters.clientWindowSize ackNumber = true := accepted ackNumber isAck
      simp [isAccepted] at refused
  · rcases outcome with ⟨other, otherReceives, after⟩ | ⟨error, other, otherReceives, _⟩
    · cases Except.ok.inj (receives.symm.trans otherReceives)
      rw [after]
      rcases receiveAckNumber_eq_ok_iff.mp acked with ⟨noAck, rfl⟩ | ⟨ackNumber, isAck, _, rfl⟩
      · rw [noAck]
        exact ⟨session.ackReceiveTimer, rfl⟩
      · rw [isAck]
        exact ⟨_, rfl⟩
    · rw [receives] at otherReceives
      cases otherReceives

theorem sending_handleIncomingBleData (data : Bytes) :
    Sending parameters session (.handleIncomingBleData data)
      (session.step parameters (.handleIncomingBleData data)) := by
  rw [step]
  cases active : session.isActive with
  | false =>
    rw [handleIncomingBleData_of_inactive active]
    have noTake (ackNumber : Nat) :
        ¬session.TakesAck parameters ackNumber (.handleIncomingBleData data) := by
      rintro ⟨isActive, _⟩
      rw [active] at isActive
      cases isActive
    exact .quiet ⟨rfl, nofun, noTake, nofun⟩ rfl .refl
  | true =>
    cases checked : session.checkIncomingPacket parameters data with
    | error error =>
      rw [handleIncomingBleData_of_unchecked active checked]
      have noTake (ackNumber : Nat) :
          ¬session.TakesAck parameters ackNumber (.handleIncomingBleData data) := by
        rintro ⟨_, packet, isChecked, _⟩
        rw [checked] at isChecked
        cases isChecked
      exact .quiet ⟨rfl, nofun, noTake, nofun⟩ rfl ⟨rfl, rfl, rfl⟩
    | ok packet =>
      rcases handleIncomingBleData_cases active checked with
        ⟨error, refused, after⟩ | ⟨taken, acked, outcome⟩
      · rw [after]
        have noTake (ackNumber : Nat) :
            ¬session.TakesAck parameters ackNumber (.handleIncomingBleData data) := by
          rintro ⟨_, other, isChecked, isAck, accepted⟩
          cases Except.ok.inj (checked.symm.trans isChecked)
          have acked : (session.receiveSequenceNumber packet).receiveAckNumber parameters
              packet = .ok _ :=
            receiveAckNumber_eq_ok_iff.mpr (.inr ⟨ackNumber, isAck, accepted, rfl⟩)
          rw [acked] at refused
          cases refused
        exact .quiet ⟨rfl, nofun, noTake, nofun⟩ rfl ⟨rfl, rfl, rfl⟩
      · have kept : (session.handleIncomingBleData parameters data).1.window = taken.window ∧
            SameLoop taken (session.handleIncomingBleData parameters data).1 := by
          rcases outcome with ⟨assembly, _, after⟩ | ⟨error, assembly, _, after⟩
          · rw [after]
            exact ⟨rfl, rfl, rfl, rfl⟩
          · rw [after]
            exact ⟨rfl, rfl, rfl, rfl⟩
        rcases receiveAckNumber_eq_ok_iff.mp acked with
          ⟨noAck, rfl⟩ | ⟨ackNumber, isAck, accepted, rfl⟩
        · have noTake (ackNumber : Nat) :
              ¬session.TakesAck parameters ackNumber (.handleIncomingBleData data) := by
            rintro ⟨_, other, isChecked, isAck, _⟩
            cases Except.ok.inj (checked.symm.trans isChecked)
            rw [noAck] at isAck
            cases isAck
          exact .quiet ⟨rfl, nofun, noTake, nofun⟩ kept.1 ⟨kept.2.1, kept.2.2, kept.2.3⟩
        · exact .acknowledged ackNumber ⟨active, packet, checked, isAck, accepted⟩ kept.1
            ⟨kept.2.1, kept.2.2, kept.2.3⟩

theorem sending_sendAckTimeout :
    Sending parameters session .sendAckTimeout (session.step parameters .sendAckTimeout) := by
  by_cases sends : session.SendsAck .sendAckTimeout
  · have encoded := BtpCodec.encodeBtpPacket_of_coherent
      (@ackPacket_coherent { session with sendAckTimer := false }
        session.window.numberTaken.sequenceNumber)
    rw [step, if_pos sends.1, btpSendAckTimeoutTriggered, if_pos sends.2]
    simp only [encoded]
    exact .ackSent sends rfl ⟨rfl, rfl, rfl⟩
  · have kept : (session.step parameters .sendAckTimeout).window = session.window ∧
        SameLoop session (session.step parameters .sendAckTimeout) := by
      rw [step]
      split
      · rename_i running
        rw [btpSendAckTimeoutTriggered, if_neg fun pending => sends ⟨running, pending⟩]
        exact ⟨rfl, rfl, rfl, rfl⟩
      · exact ⟨rfl, .refl⟩
    exact .quiet ⟨rfl, sends, fun _ => nofun, nofun⟩ kept.1 kept.2

theorem step_sending (parameters : BtpParameters) (session : BtpSessionHandler)
    (event : BtpEvent) : Sending parameters session event (session.step parameters event) := by
  cases event with
  | sendMatterMessage data => exact sending_sendMatterMessage data
  | handleIncomingBleData data => exact sending_handleIncomingBleData data
  | segmentWritten => exact sending_segmentWritten
  | segmentWriteFailed => exact .failed rfl rfl
  | ackWritten =>
    rw [step]
    split
    · exact .quiet ⟨rfl, nofun, fun _ => nofun, nofun⟩ rfl .refl
    · exact .quiet ⟨rfl, nofun, fun _ => nofun, nofun⟩ rfl ⟨rfl, rfl, rfl⟩
  | ackWriteFailed => exact .quiet ⟨rfl, nofun, fun _ => nofun, nofun⟩ rfl ⟨rfl, rfl, rfl⟩
  | sendAckTimeout => exact sending_sendAckTimeout
  | ackReceiveTimeout =>
    rw [step]
    split
    · rw [btpAckTimeoutTriggered]
      split
      · exact .quiet ⟨rfl, nofun, fun _ => nofun, nofun⟩ rfl ⟨rfl, rfl, rfl⟩
      · exact .quiet ⟨rfl, nofun, fun _ => nofun, nofun⟩ rfl ⟨rfl, rfl, rfl⟩
    · exact .quiet ⟨rfl, nofun, fun _ => nofun, nofun⟩ rfl .refl
  | idleTimeout =>
    rw [step]
    split
    · exact .quiet ⟨rfl, nofun, fun _ => nofun, nofun⟩ rfl ⟨rfl, rfl, rfl⟩
    · exact .quiet ⟨rfl, nofun, fun _ => nofun, nofun⟩ rfl .refl
  | close => exact .quiet ⟨rfl, nofun, fun _ => nofun, nofun⟩ rfl ⟨rfl, rfl, rfl⟩

theorem step_of_atLoopHead {head : BtpSessionHandler}
    (reached : session.atLoopHead parameters event = some head) :
    session.step parameters event = head.sendSegment parameters := by
  have contradiction (noHead : session.atLoopHead parameters event = none) :
      session.step parameters event = head.sendSegment parameters := by
    rw [noHead] at reached
    cases reached
  rcases step_sending parameters session event with
    ⟨other, otherReached, same⟩ | ⟨_, takes, _⟩ | ⟨sends, _⟩ | ⟨data, isSend, waits, _⟩ |
    ⟨_, isWritten, _, isFull, _⟩ | ⟨isFailure, _⟩ | ⟨isQuiet, _⟩
  case looped =>
    cases Option.some.inj (reached.symm.trans otherReached)
    exact same
  case acknowledged => exact contradiction takes.noHead
  case ackSent => exact contradiction sends.noHead
  case queued => exact contradiction (by rw [isSend]; exact noHead_of_waits waits)
  case ended => exact contradiction (by rw [isWritten]; exact noHead_of_isFull isFull)
  case failed => exact contradiction (by rw [isFailure]; rfl)
  case quiet => exact contradiction isQuiet.noHead

/-! ## The send loop -/

/-- `sendInProgress` is set while the loop waits for a write, and there is a message then. -/
structure LoopWaits (session : BtpSessionHandler) : Prop where
  sending : session.pendingSegment ≠ none → session.sendInProgress = true
  queued : session.sendInProgress = true → session.queuedOutgoingMatterMessages ≠ []

structure AtHead (parameters : BtpParameters) (session head : BtpSessionHandler) : Prop where
  window : head.window = session.window
  notFull : ¬session.window.isFull parameters.clientWindowSize = true
  sending : head.sendInProgress = true
  notPending : head.pendingSegment = none

theorem LoopWaits.atHead (waits : session.LoopWaits) {head : BtpSessionHandler}
    (reached : session.atLoopHead parameters event = some head) :
    AtHead parameters session head := by
  cases event with
  | sendMatterMessage data =>
    rcases Option.ite_none_right_eq_some.mp reached with ⟨⟨_, _, idle, notFull⟩, same⟩
    cases same
    exact ⟨rfl, notFull, rfl, not_not.mp fun pending => idle (waits.sending pending)⟩
  | segmentWritten =>
    cases pending : session.pendingSegment with
    | none => simp [atLoopHead, pending] at reached
    | some isEndingSegment =>
      rw [atLoopHead, pending] at reached
      rcases Option.ite_none_left_eq_some.mp reached with ⟨notFull, same⟩
      cases same
      exact ⟨rfl, notFull, waits.sending (by rw [pending]; nofun), rfl⟩
  | _ => cases reached

theorem LoopWaits.step (waits : session.LoopWaits) (event : BtpEvent) :
    (session.step parameters event).LoopWaits := by
  rcases step_sending parameters session event with
    ⟨head, reached, same⟩ | ⟨_, _, _, loop⟩ | ⟨_, _, loop⟩ | ⟨data, _, _, same⟩ |
    ⟨isEndingSegment, _, _, _, same⟩ | ⟨_, same⟩ | ⟨_, _, loop⟩
  case looped =>
    have atHead := waits.atHead reached
    rw [same]
    cases queue : head.queuedOutgoingMatterMessages with
    | nil =>
      rw [sendSegment_of_empty queue]
      exact ⟨fun pending => absurd atHead.notPending pending, nofun⟩
    | cons message later =>
      by_cases room : head.HasRoom parameters message
      · rcases sendSegment_of_room queue room with ⟨data, _, sent⟩
        rw [sent]
        exact ⟨fun _ => atHead.sending, fun _ => List.cons_ne_nil _ _⟩
      · rw [sendSegment_of_noRoom queue room]
        exact ⟨fun _ => atHead.sending, fun _ => List.cons_ne_nil _ _⟩
  case queued =>
    rw [same]
    exact ⟨waits.sending, fun _ => by simp [enqueue]⟩
  case ended =>
    rw [same]
    exact ⟨fun pending => absurd rfl pending, nofun⟩
  case failed =>
    rw [same]
    exact ⟨fun pending => absurd rfl pending, waits.queued⟩
  all_goals
    exact ⟨by rw [loop.pendingSegment, loop.sendInProgress]; exact waits.sending,
      by rw [loop.sendInProgress, loop.queue]; exact waits.queued⟩

theorem start_loopWaits (role : BtpRole) : (start role).LoopWaits := ⟨nofun, nofun⟩

/-- The loop ended without resetting `sendInProgress`. -/
def Stalled (session : BtpSessionHandler) : Prop :=
  session.sendInProgress = true ∧ session.pendingSegment = none

theorem Stalled.noHead (stalled : session.Stalled) (event : BtpEvent) :
    session.atLoopHead parameters event = none := by
  cases event with
  | sendMatterMessage data => exact if_neg fun reached => reached.2.2.1 stalled.1
  | segmentWritten => rw [atLoopHead, stalled.2]
  | _ => rfl

@[simp] theorem sendSegment_isActive :
    (session.sendSegment parameters).isActive = session.isActive := by
  cases queue : session.queuedOutgoingMatterMessages with
  | nil => rw [sendSegment_of_empty queue]
  | cons message later =>
    by_cases room : session.HasRoom parameters message
    · rcases sendSegment_of_room queue room with ⟨data, _, sent⟩
      rw [sent]
      rfl
    · rw [sendSegment_of_noRoom queue room]
      rfl

theorem step_of_inactive (inactive : session.isActive = false) (event : BtpEvent) :
    (session.step parameters event).isActive = false := by
  cases event with
  | sendMatterMessage data => simp [step, sendMatterMessage, inactive]
  | handleIncomingBleData data =>
    rw [step, handleIncomingBleData_of_inactive inactive]
    exact inactive
  | segmentWritten =>
    rw [step, segmentWritten]
    cases session.pendingSegment with
    | none => exact inactive
    | some isEndingSegment =>
      dsimp only
      split
      · exact inactive
      · rw [sendSegment_isActive]
        exact inactive
  | sendAckTimeout =>
    rw [step]
    split
    · rw [btpSendAckTimeoutTriggered]
      split
      · dsimp only
        split <;> exact inactive
      · exact inactive
    · exact inactive
  | ackReceiveTimeout =>
    rw [step]
    split
    · rw [btpAckTimeoutTriggered]
      split
      · rfl
      · exact inactive
    · exact inactive
  | ackWritten =>
    rw [step]
    split <;> exact inactive
  | idleTimeout =>
    rw [step]
    split
    · rfl
    · exact inactive
  | segmentWriteFailed => exact inactive
  | ackWriteFailed => exact inactive
  | close => rfl

end BtpSessionHandler

end MatterJs.Protocol
