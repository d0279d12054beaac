import MatterJs.Protocol.BtpSegments
import MatterJs.Protocol.BtpSendQueue

/-! Two connected sessions, one of which is given messages to send, with the packets that are
under way between them. -/

namespace MatterJs.Protocol

open General SerialNumbers Execution BtpSessionHandler

structure MatterMessage where
  data : Bytes
  notEmpty : data ≠ []
  fits : data.length < 256 ^ 2

def BtpRole.other : BtpRole → BtpRole
  | .central => .peripheral
  | .peripheral => .central

/-- What the handshake settles, with the role of the side that sends. -/
structure BtpLinkParameters where
  senderRole : BtpRole
  fragmentSize : Nat
  clientWindowSize : UInt8

namespace BtpLinkParameters

def sender (parameters : BtpLinkParameters) : BtpParameters where
  role := parameters.senderRole
  fragmentSize := parameters.fragmentSize
  clientWindowSize := parameters.clientWindowSize

def receiver (parameters : BtpLinkParameters) : BtpParameters where
  role := parameters.senderRole.other
  fragmentSize := parameters.fragmentSize
  clientWindowSize := parameters.clientWindowSize

end BtpLinkParameters

/-- Two sessions and the packets that are under way between them, in order. -/
structure BtpLink where
  sender : BtpSessionHandler
  receiver : BtpSessionHandler
  toReceiver : List Bytes
  toSender : List Bytes

/-- What can happen next. No write fails, and no timer closes a session. -/
inductive LinkEvent where
  | sendMatterMessage (message : MatterMessage)
  | segmentWritten
  | senderAckWritten
  | senderAckTimeout
  | receiverAckWritten
  | receiverAckTimeout
  | deliverToReceiver
  | deliverToSender

namespace BtpLink

/-- The two sides after the handshake. -/
def start (parameters : BtpLinkParameters) : BtpLink where
  sender := .start parameters.senderRole
  receiver := .start parameters.senderRole.other
  toReceiver := []
  toSender := []

/-- What a step gives to the transport. -/
def emitted (session next : BtpSessionHandler) : List Bytes :=
  next.written.drop session.written.length

variable (parameters : BtpLinkParameters) (link : BtpLink)

def onSender (event : BtpEvent) : BtpLink :=
  let next := link.sender.step parameters.sender event
  { link with
    sender := next
    toReceiver := link.toReceiver ++ emitted link.sender next }

def onReceiver (event : BtpEvent) : BtpLink :=
  let next := link.receiver.step parameters.receiver event
  { link with
    receiver := next
    toSender := link.toSender ++ emitted link.receiver next }

def step : LinkEvent → BtpLink
  | .sendMatterMessage message => link.onSender parameters (.sendMatterMessage message.data)
  | .segmentWritten => link.onSender parameters .segmentWritten
  | .senderAckWritten => link.onSender parameters .ackWritten
  | .senderAckTimeout => link.onSender parameters .sendAckTimeout
  | .receiverAckWritten => link.onReceiver parameters .ackWritten
  | .receiverAckTimeout => link.onReceiver parameters .sendAckTimeout
  | .deliverToReceiver =>
    match link.toReceiver with
    | [] => link
    | data :: later =>
      { link with toReceiver := later }.onReceiver parameters (.handleIncomingBleData data)
  | .deliverToSender =>
    match link.toSender with
    | [] => link
    | data :: later =>
      { link with toSender := later }.onSender parameters (.handleIncomingBleData data)

/-- Nothing is under way, and nothing is about to be sent. -/
structure Quiescent (link : BtpLink) : Prop where
  delivered : link.toReceiver = []
  acknowledged : link.toSender = []
  written : link.sender.pendingSegment = none
  noAckPending : link.receiver.sendAckTimer = false

/-- The acknowledgement of the packet, if it has one, passes its check. -/
def AcceptsAck (parameters : BtpParameters) (session : BtpSessionHandler) (data : Bytes) : Prop :=
  ∀ packet, BtpCodec.decodeBtpPacket data = .ok packet →
    ∀ ackNumber, packet.payload.ackNumber = some ackNumber →
      session.window.accepts parameters.clientWindowSize ackNumber = true

/-- The step meets none of the faults of the window: acknowledgements that are delivered are
taken, they do not open the window before a waiting message, and a pending acknowledgement is
not taken for one that was sent. -/
def Unhindered : LinkEvent → Prop
  | .deliverToReceiver =>
    ∀ data, link.toReceiver.head? = some data → AcceptsAck parameters.receiver link.receiver data
  | .deliverToSender =>
    ∀ data, link.toSender.head? = some data →
      AcceptsAck parameters.sender link.sender data ∧
        link.sender.KeepsSending parameters.sender (.handleIncomingBleData data)
  | .senderAckTimeout => link.sender.KeepsSending parameters.sender .sendAckTimeout
  | .receiverAckTimeout =>
    link.receiver.sendAckTimer = true →
      link.receiver.prevAckedSequenceNumber ≤ link.receiver.prevIncomingSequenceNumber
  | _ => True

end BtpLink

def messagesOf (events : List LinkEvent) : List Bytes :=
  events.filterMap fun
    | .sendMatterMessage message => some message.data
    | _ => none

/-! ## The packets that are under way -/

/-- The numbers of the packets under way follow the one received last, and end with the one
taken last. -/
structure Numbered (sequenceNumber : Int) (prevIncoming : Nat)
    (packets : List DecodedBtpPacket) : Prop where
  ge : -1 ≤ sequenceNumber
  le : sequenceNumber ≤ 255
  isByte : prevIncoming < 256
  numbers : packets.map (fun packet => (packet.payload.sequenceNumber : Int)) =
    successors 256 prevIncoming packets.length
  last : (sequenceNumber + 1) % 256 = (prevIncoming + (packets.length + 1) : Int) % 256

namespace Numbered

variable {sequenceNumber : Int} {prevIncoming : Nat} {packet : DecodedBtpPacket}
  {packets : List DecodedBtpPacket}

theorem next_bounds (numbered : Numbered sequenceNumber prevIncoming packets) :
    0 ≤ getNextSequenceNumber sequenceNumber ∧ getNextSequenceNumber sequenceNumber < 256 := by
  have ge := numbered.ge
  rw [getNextSequenceNumber, maximumSequenceNumber]
  split <;> omega

theorem sent (numbered : Numbered sequenceNumber prevIncoming packets)
    (isNext : packet.payload.sequenceNumber = (getNextSequenceNumber sequenceNumber).toNat) :
    Numbered (getNextSequenceNumber sequenceNumber) prevIncoming (packets ++ [packet]) := by
  rcases numbered.next_bounds with ⟨nonneg, small⟩
  rcases numbered with ⟨ge, le, isByte, numbers, last⟩
  have next : getNextSequenceNumber sequenceNumber =
      (prevIncoming + (packets.length + 1) : Int) % 256 := by
    rw [getNextSequenceNumber, maximumSequenceNumber]
    split <;> omega
  refine ⟨by omega, by omega, isByte, ?_, ?_⟩
  · rw [List.map_append, numbers, List.length_append, List.length_singleton, successors_succ,
      ← next, List.map_singleton, isNext, Int.toNat_of_nonneg nonneg]
  · rw [List.length_append, List.length_singleton]
    omega

theorem delivered (numbered : Numbered sequenceNumber prevIncoming (packet :: packets)) :
    packet.payload.sequenceNumber = (prevIncoming + 1) % 256 ∧
      Numbered sequenceNumber packet.payload.sequenceNumber packets := by
  rcases numbered with ⟨ge, le, isByte, numbers, last⟩
  rcases List.cons.inj numbers with ⟨first, rest⟩
  have first : (packet.payload.sequenceNumber : Int) = (prevIncoming + 1) % 256 := first
  have isNext : packet.payload.sequenceNumber = (prevIncoming + 1) % 256 := by omega
  refine ⟨isNext, ge, le, by omega, ?_, ?_⟩
  · rw [rest, ← first]
  · rw [last, List.length_cons]
    omega

end Numbered

/-- The acknowledgement that a session has when the packets have arrived. -/
def lastAck (prevIncomingAckNumber : Int) (packets : List DecodedBtpPacket) : Int :=
  packets.foldl (fun last packet => packet.payload.ackNumber.elim last Nat.cast)
    prevIncomingAckNumber

/-- The messages of a queue, the first of them possibly sent in part. -/
def WellQueued : List SignedReader → Prop
  | [] => True
  | message :: later => IsUnsent message ∧ ∀ other ∈ later, IsUnsent other ∧ other.offset = 0

/-- The messages that are not sent to their end. -/
def BtpSessionHandler.unsent (session : BtpSessionHandler) : List SignedReader :=
  if session.pendingSegment = some true then session.queuedOutgoingMatterMessages.tail
  else session.queuedOutgoingMatterMessages

/-- How the two sides and the packets under way fit together when `messages` were queued. -/
structure Connected (parameters : BtpLinkParameters) (messages : List Bytes) (link : BtpLink)
    (outgoing acks : List DecodedBtpPacket) : Prop where
  senderActive : link.sender.isActive = true
  receiverActive : link.receiver.isActive = true
  carried : List.Forall₂ (Carries parameters.receiver) link.toReceiver outgoing
  acksCarried : List.Forall₂ (Carries parameters.sender) link.toSender acks
  numbered : Numbered link.sender.window.sequenceNumber link.receiver.prevIncomingSequenceNumber
    outgoing
  acksNumbered : Numbered link.receiver.window.sequenceNumber
    link.sender.prevIncomingSequenceNumber acks
  withoutSegments : ∀ packet ∈ acks, ∀ assembly : SegmentAssembly,
    assembly.receive packet = .ok assembly
  isLastAck : lastAck link.sender.window.prevIncomingAckNumber acks =
    link.receiver.prevAckedSequenceNumber
  /-- What was received is acknowledged, or will be, or nothing was received. -/
  acknowledging : link.receiver.sendAckTimer = true ∨
    (link.receiver.prevIncomingSequenceNumber : Int) = link.receiver.prevAckedSequenceNumber ∨
    (link.receiver.prevAckedSequenceNumber = -1 ∧
      (link.toReceiver ≠ [] ∨ link.sender.window.sequenceNumber = -1))
  wellQueued : WellQueued link.sender.unsent
  /-- Once what is under way has arrived, the receiver has what the sender has sent. -/
  assembled : ∃ handled,
    outgoing.foldlM SegmentAssembly.receive link.receiver.assembly =
      .ok (assemblyOf handled link.sender.unsent) ∧
    handled ++ link.sender.unsent.map (·.buffer) = messages

end MatterJs.Protocol
