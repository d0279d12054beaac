import MatterJs.Foundation.Bitwise32
import MatterJs.General.DataReader

/-! Message layer encoding: the packet header with its flags and optional
addresses, and the payload header inside the application payload. -/

namespace MatterJs.Protocol

open General ByteOrder

inductive SessionType where
  | unicast
  | group
  deriving DecidableEq

def SessionType.toNat : SessionType → Nat
  | .unicast => 0
  | .group => 1

structure PacketHeader where
  sessionId : Nat
  sessionType : SessionType
  hasPrivacyEnhancements : Bool
  isControlMessage : Bool
  hasMessageExtensions : Bool
  messageId : Nat
  sourceNodeId : Option Nat
  destNodeId : Option Nat
  destGroupId : Option Nat
  deriving DecidableEq

structure DecodedPacketHeader extends PacketHeader where
  /-- The security flags as pure data field to be used as nonce. -/
  securityFlags : Nat
  deriving DecidableEq

structure PayloadHeader where
  exchangeId : Nat
  protocolId : Int
  messageType : Nat
  isInitiatorMessage : Bool
  requiresAck : Bool
  ackedMessageId : Option Nat
  hasSecuredExtension : Bool
  deriving DecidableEq

structure Packet where
  header : PacketHeader
  messageExtension : Option Bytes
  applicationPayload : Bytes
  deriving DecidableEq

structure DecodedPacket where
  header : DecodedPacketHeader
  messageExtension : Option Bytes
  applicationPayload : Bytes
  deriving DecidableEq

structure Message where
  packetHeader : PacketHeader
  payloadHeader : PayloadHeader
  securityExtension : Option Bytes
  payload : Bytes
  deriving DecidableEq

structure DecodedMessage where
  packetHeader : DecodedPacketHeader
  payloadHeader : PayloadHeader
  securityExtension : Option Bytes
  payload : Bytes
  deriving DecidableEq

def DecodedMessage.toMessage (message : DecodedMessage) : Message where
  packetHeader := message.packetHeader.toPacketHeader
  payloadHeader := message.payloadHeader
  securityExtension := message.securityExtension
  payload := message.payload

def headerVersion : Nat := 0x00

def commonVendorId : Int := 0x0000

namespace PacketHeaderFlag
def hasDestNodeId : Nat := 0b00000001
def hasDestGroupId : Nat := 0b00000010
def hasSourceNodeId : Nat := 0b00000100
def versionMask : Nat := 0b11110000
end PacketHeaderFlag

namespace PayloadHeaderFlag
def isInitiatorMessage : Nat := 0b00000001
def isAckMessage : Nat := 0b00000010
def requiresAck : Nat := 0b00000100
def hasSecureExtension : Nat := 0b00001000
def hasVendorId : Nat := 0b00010000
end PayloadHeaderFlag

namespace SecurityFlag
def hasPrivacyEnhancements : Nat := 0b10000000
def isControlMessage : Nat := 0b01000000
def hasMessageExtension : Nat := 0b00100000
end SecurityFlag

/-- `present ? read() : undefined` -/
def readOptional (present : Bool)
    (read : DataReader → Except MatterError (Nat × DataReader)) (reader : DataReader) :
    Except MatterError (Option Nat × DataReader) :=
  if present then do
    let (value, reader) ← read reader
    return (some value, reader)
  else
    return (none, reader)

/-- `if (value !== undefined) write(value)` -/
def writeOptional (write : DataWriter → Int → DataWriter) (writer : DataWriter) :
    Option Nat → DataWriter
  | some value => write writer value
  | none => writer

namespace MessageCodec

def decodeSessionType (securityFlags : Nat) : Except MatterError SessionType :=
  match securityFlags &&& 0b00000011 with
  | 0 => .ok .unicast
  | 1 => .ok .group
  | sessionType => .error (.unexpectedDataError s!"Unsupported session type {sessionType}")

def decodePacketHeader (reader : DataReader) :
    Except MatterError (DecodedPacketHeader × DataReader) := do
  -- read and parse message flags
  let (flags, reader) ← reader.readUInt8
  let version := (flags &&& PacketHeaderFlag.versionMask) >>> 4
  let hasDestNodeId := flags &&& PacketHeaderFlag.hasDestNodeId != 0
  let hasDestGroupId := flags &&& PacketHeaderFlag.hasDestGroupId != 0
  let hasSourceNodeId := flags &&& PacketHeaderFlag.hasSourceNodeId != 0
  if hasDestNodeId && hasDestGroupId then
    throw (.unexpectedDataError
      ("The header cannot contain destination group and node at the same time. " ++
        "Reserved for future use. Discard message."))
  if version != headerVersion then
    throw (.notImplementedError s!"Unsupported header version {version}.")
  let (sessionId, reader) ← reader.readUInt16
  let (securityFlags, reader) ← reader.readUInt8
  let (messageId, reader) ← reader.readUInt32
  let (sourceNodeId, reader) ← readOptional hasSourceNodeId DataReader.readUInt64 reader
  let (destNodeId, reader) ← readOptional hasDestNodeId DataReader.readUInt64 reader
  let (destGroupId, reader) ← readOptional hasDestGroupId DataReader.readUInt16 reader
  let sessionType ← decodeSessionType securityFlags
  let hasPrivacyEnhancements :=
    securityFlags &&& SecurityFlag.hasPrivacyEnhancements != 0
  if hasPrivacyEnhancements then
    throw (.notImplementedError "Privacy enhancements not supported")
  let isControlMessage := securityFlags &&& SecurityFlag.isControlMessage != 0
  if isControlMessage then
    throw (.notImplementedError "Control Messages not supported")
  let hasMessageExtensions := securityFlags &&& SecurityFlag.hasMessageExtension != 0
  return ({ securityFlags, sessionId, sourceNodeId, messageId, destGroupId, destNodeId,
            sessionType, hasPrivacyEnhancements, isControlMessage,
            hasMessageExtensions }, reader)

def decodePacket (data : Bytes) : Except MatterError DecodedPacket := do
  let reader := DataReader.new data .little
  let (header, reader) ← decodePacketHeader reader
  if header.hasMessageExtensions then
    let (extensionLength, reader) ← reader.readUInt16
    let (messageExtension, reader) := reader.readByteArray extensionLength
    return { header, messageExtension := some messageExtension
             applicationPayload := reader.remainingBytes }
  else
    return { header, messageExtension := none
             applicationPayload := reader.remainingBytes }

def encodePacketHeader (header : PacketHeader) : Bytes :=
  let flags := (headerVersion <<< 4) |||
    (if header.destGroupId.isSome then PacketHeaderFlag.hasDestGroupId else 0) |||
    (if header.destNodeId.isSome then PacketHeaderFlag.hasDestNodeId else 0) |||
    (if header.sourceNodeId.isSome then PacketHeaderFlag.hasSourceNodeId else 0)
  let securityFlags := header.sessionType.toNat
  let writer := DataWriter.new .little
  let writer := writer.writeUInt8 flags
  let writer := writer.writeUInt16 header.sessionId
  let writer := writer.writeUInt8 securityFlags
  let writer := writer.writeUInt32 header.messageId
  let writer := writeOptional DataWriter.writeUInt64 writer header.sourceNodeId
  let writer := writeOptional DataWriter.writeUInt64 writer header.destNodeId
  let writer := writeOptional DataWriter.writeUInt32 writer header.destGroupId
  writer.toByteArray

def encodePacket (packet : Packet) : Except MatterError Bytes :=
  if packet.messageExtension.isSome || packet.header.hasMessageExtensions then
    .error (.notImplementedError "Message extensions not supported when encoding a packet.")
  else
    .ok (encodePacketHeader packet.header ++ packet.applicationPayload)

def decodePayloadHeader (reader : DataReader) :
    Except MatterError (PayloadHeader × DataReader) := do
  let (exchangeFlags, reader) ← reader.readUInt8
  let isInitiatorMessage := exchangeFlags &&& PayloadHeaderFlag.isInitiatorMessage != 0
  let isAckMessage := exchangeFlags &&& PayloadHeaderFlag.isAckMessage != 0
  let requiresAck := exchangeFlags &&& PayloadHeaderFlag.requiresAck != 0
  let hasSecuredExtension := exchangeFlags &&& PayloadHeaderFlag.hasSecureExtension != 0
  let hasVendorId := exchangeFlags &&& PayloadHeaderFlag.hasVendorId != 0
  let (messageType, reader) ← reader.readUInt8
  let (exchangeId, reader) ← reader.readUInt16
  let (vendorId, reader) ← readOptional hasVendorId DataReader.readUInt16 reader
  let (protocolPart, reader) ← reader.readUInt16
  let protocolId := Bitwise32.or
    (Bitwise32.shiftLeft (vendorId.elim commonVendorId Int.ofNat) 16) protocolPart
  let (ackedMessageId, reader) ← readOptional isAckMessage DataReader.readUInt32 reader
  return ({ protocolId, exchangeId, messageType, isInitiatorMessage, requiresAck,
            ackedMessageId, hasSecuredExtension }, reader)

def decodePayload (packet : DecodedPacket) : Except MatterError DecodedMessage := do
  let reader := DataReader.new packet.applicationPayload .little
  let (payloadHeader, reader) ← decodePayloadHeader reader
  if payloadHeader.hasSecuredExtension then
    let (extensionLength, reader) ← reader.readUInt16
    let (securityExtension, reader) := reader.readByteArray extensionLength
    return { packetHeader := packet.header, payloadHeader
             securityExtension := some securityExtension
             payload := reader.remainingBytes }
  else
    return { packetHeader := packet.header, payloadHeader
             securityExtension := none, payload := reader.remainingBytes }

def encodePayloadHeader (header : PayloadHeader) : Bytes :=
  let vendorId := Bitwise32.signedShiftRight (Bitwise32.and header.protocolId 0xffff0000) 16
  let flags :=
    (if header.isInitiatorMessage then PayloadHeaderFlag.isInitiatorMessage else 0) |||
    (if header.ackedMessageId.isSome then PayloadHeaderFlag.isAckMessage else 0) |||
    (if header.requiresAck then PayloadHeaderFlag.requiresAck else 0) |||
    (if vendorId ≠ commonVendorId then PayloadHeaderFlag.hasVendorId else 0)
  let writer := DataWriter.new .little
  let writer := writer.writeUInt8 flags
  let writer := writer.writeUInt8 header.messageType
  let writer := writer.writeUInt16 header.exchangeId
  let writer := if vendorId ≠ commonVendorId then writer.writeUInt32 header.protocolId
    else writer.writeUInt16 header.protocolId
  let writer := writeOptional DataWriter.writeUInt32 writer header.ackedMessageId
  writer.toByteArray

def encodePayload (message : Message) : Except MatterError Packet :=
  if message.securityExtension.isSome || message.payloadHeader.hasSecuredExtension then
    .error (.notImplementedError "Security extensions not supported when encoding a payload.")
  else
    .ok { header := message.packetHeader
          messageExtension := none
          applicationPayload :=
            encodePayloadHeader message.payloadHeader ++ message.payload }

end MessageCodec

end MatterJs.Protocol
