import MatterJs.Protocol.PacketRoundTrip

/-! The packets of the Bluetooth transport protocol, and what the decoder makes of the bytes
of the encoder. -/

namespace MatterJs.Protocol

open General ByteOrder

structure BtpHeader where
  isHandshakeRequest : Bool
  hasManagementOpcode : Bool
  hasAckNumber : Bool
  isEndingSegment : Bool
  isContinuingSegment : Bool
  isBeginningSegment : Bool
  deriving DecidableEq

structure BtpPacketPayload where
  ackNumber : Option Nat
  sequenceNumber : Int
  messageLength : Option Nat
  segmentPayload : Option Bytes
  deriving DecidableEq

structure DecodedBtpPacketPayload where
  ackNumber : Option Nat
  sequenceNumber : Nat
  messageLength : Option Nat
  segmentPayload : Bytes
  deriving DecidableEq

structure BtpPacket where
  header : BtpHeader
  payload : BtpPacketPayload
  deriving DecidableEq

structure DecodedBtpPacket where
  header : BtpHeader
  payload : DecodedBtpPacketPayload
  deriving DecidableEq

namespace BtpHeaderBits
def handshakeBit : Nat := 0b01000000
def managementMsg : Nat := 0b00100000
def ackMsg : Nat := 0b00001000
def endSegment : Nat := 0b00000100
def continuingSegment : Nat := 0b00000010
def beginSegment : Nat := 0b00000001
end BtpHeaderBits

namespace BtpCodec

def decodeBtpPacketHeader (reader : DataReader) :
    Except MatterError (BtpHeader × DataReader) := do
  let (headerBits, reader) ← reader.readUInt8
  let hasManagementOpcode := headerBits &&& BtpHeaderBits.managementMsg != 0
  if hasManagementOpcode then
    throw (.btpProtocolError "Management Opcode for BTPHandshake Request is not expected")
  return ({ isHandshakeRequest := headerBits &&& BtpHeaderBits.handshakeBit != 0
            hasManagementOpcode
            hasAckNumber := headerBits &&& BtpHeaderBits.ackMsg != 0
            isEndingSegment := headerBits &&& BtpHeaderBits.endSegment != 0
            isContinuingSegment := headerBits &&& BtpHeaderBits.continuingSegment != 0
            isBeginningSegment := headerBits &&& BtpHeaderBits.beginSegment != 0 }, reader)

def decodeBtpPacketPayload (reader : DataReader) (header : BtpHeader) :
    Except MatterError DecodedBtpPacketPayload := do
  let (ackNumber, reader) ← readOptional header.hasAckNumber DataReader.readUInt8 reader
  let (sequenceNumber, reader) ← reader.readUInt8
  let (messageLength, reader) ← readOptional header.isBeginningSegment DataReader.readUInt16 reader
  return { ackNumber, sequenceNumber, messageLength, segmentPayload := reader.remainingBytes }

def decodeBtpPacket (data : Bytes) : Except MatterError DecodedBtpPacket := do
  let reader := DataReader.new data .little
  let (header, reader) ← decodeBtpPacketHeader reader
  let payload ← decodeBtpPacketPayload reader header
  return { header, payload }

variable (header : BtpHeader) (payload : BtpPacketPayload)

/-- The flags of a packet. -/
def headerBits : Nat :=
  (if header.hasAckNumber then BtpHeaderBits.ackMsg else 0) |||
    (if header.isEndingSegment then BtpHeaderBits.endSegment else 0) |||
    (if header.isContinuingSegment then BtpHeaderBits.continuingSegment else 0) |||
    (if header.isBeginningSegment then BtpHeaderBits.beginSegment else 0)

def encodeBtpPacketHeader : Except MatterError Bytes := do
  if header.isHandshakeRequest || header.hasManagementOpcode then
    throw (.btpProtocolError "Please use the specific methods to encode a Handshake packet")
  return ((DataWriter.new .little).writeUInt8 (headerBits header)).toByteArray

def writeBtpPacketPayload : DataWriter :=
  let writer := DataWriter.new .little
  let writer := writeOptional DataWriter.writeUInt8 writer payload.ackNumber
  let writer := writer.writeUInt8 payload.sequenceNumber
  let writer := writeOptional DataWriter.writeUInt16 writer payload.messageLength
  payload.segmentPayload.elim writer writer.writeByteArray

/-- What is wrong when the header does not match the fields of the payload. -/
def payloadError : Option String :=
  if !header.hasAckNumber && payload.ackNumber.isSome then
    some "Ack number shouldn't be set because header flag is not set."
  else if header.hasAckNumber && payload.ackNumber.isNone then
    some "Ack number needs to be set because header flag is set."
  else if header.isBeginningSegment && header.isContinuingSegment then
    some "Beginning and continuing segment flags can't be set at the same time."
  else if header.isEndingSegment && !header.isContinuingSegment &&
      !header.isBeginningSegment then
    some "Ending segment flag can't be set without continuing segment flag."
  else if (header.isBeginningSegment || header.isContinuingSegment) &&
      payload.segmentPayload.getD [] = [] then
    some "Payload needs to be set because header flag indicates a message with payload."
  else if header.isBeginningSegment && payload.messageLength.isNone then
    some "Message length needs to be set because packet is a beginning segment."
  else if !header.isBeginningSegment && payload.messageLength.isSome then
    some "Message length shouldn't be set because the package is not a beginning segment."
  else none

def encodeBtpPacketPayload : Except MatterError Bytes :=
  match payloadError header payload with
  | some message => .error (.btpProtocolError message)
  | none => .ok (writeBtpPacketPayload payload).toByteArray

def encodeBtpPacket (packet : BtpPacket) : Except MatterError Bytes := do
  let header ← encodeBtpPacketHeader packet.header
  let payload ← encodeBtpPacketPayload packet.header packet.payload
  return header ++ payload

end BtpCodec

/-! ## Packets the encoder accepts -/

/-- The header says what the payload has. -/
structure BtpPacket.Coherent (packet : BtpPacket) : Prop where
  noHandshake : packet.header.isHandshakeRequest = false
  noManagement : packet.header.hasManagementOpcode = false
  ackNumber : packet.payload.ackNumber.isSome = packet.header.hasAckNumber
  messageLength : packet.payload.messageLength.isSome = packet.header.isBeginningSegment
  oneKind : packet.header.isBeginningSegment = true → packet.header.isContinuingSegment = false
  ofSegment : packet.header.isEndingSegment = true →
    packet.header.isBeginningSegment = true ∨ packet.header.isContinuingSegment = true
  segment : packet.header.isBeginningSegment = true ∨ packet.header.isContinuingSegment = true →
    packet.payload.segmentPayload.getD [] ≠ []

theorem BtpPacket.Coherent.withoutFlags {packet : BtpPacket} (coherent : packet.Coherent) :
    { packet.header with isHandshakeRequest := false, hasManagementOpcode := false } =
      packet.header := by
  nth_rewrite 1 [← coherent.noHandshake, ← coherent.noManagement]
  rfl

structure BtpPacketPayload.Fits (payload : BtpPacketPayload) : Prop where
  ackNumber : ∀ number ∈ payload.ackNumber, number < 256 ^ 1
  sequenceNumber_nonneg : 0 ≤ payload.sequenceNumber
  sequenceNumber_lt : payload.sequenceNumber < 256
  messageLength : ∀ length ∈ payload.messageLength, length < 256 ^ 2

def BtpPacketPayload.decoded (payload : BtpPacketPayload) : DecodedBtpPacketPayload where
  ackNumber := payload.ackNumber
  sequenceNumber := payload.sequenceNumber.toNat
  messageLength := payload.messageLength
  segmentPayload := payload.segmentPayload.getD []

namespace BtpCodec

open MessageCodec

theorem headerBits_read (header : BtpHeader) :
    headerBits header < 256 ^ 1 ∧
      headerBits header &&& BtpHeaderBits.managementMsg = 0 ∧
      headerBits header &&& BtpHeaderBits.handshakeBit = 0 ∧
      (headerBits header &&& BtpHeaderBits.ackMsg != 0) = header.hasAckNumber ∧
      (headerBits header &&& BtpHeaderBits.endSegment != 0) = header.isEndingSegment ∧
      (headerBits header &&& BtpHeaderBits.continuingSegment != 0) = header.isContinuingSegment ∧
      (headerBits header &&& BtpHeaderBits.beginSegment != 0) = header.isBeginningSegment := by
  rcases header with ⟨handshake, management, ack, ending, continuing, beginning⟩
  decide +revert

theorem payloadError_of_coherent {packet : BtpPacket} (coherent : packet.Coherent) :
    payloadError packet.header packet.payload = none := by
  rcases coherent with ⟨_, _, ackNumber, messageLength, oneKind, ofSegment, segment⟩
  have noAck := Option.not_isSome packet.payload.ackNumber
  have noLength := Option.not_isSome packet.payload.messageLength
  rw [ackNumber] at noAck
  rw [messageLength] at noLength
  rw [payloadError, ackNumber, messageLength, ← noAck, ← noLength]
  cases beginning : packet.header.isBeginningSegment with
  | true => simp [oneKind beginning, segment (.inl beginning)]
  | false =>
    cases continuing : packet.header.isContinuingSegment with
    | true => simp [segment (.inr continuing)]
    | false =>
      have noEnding : packet.header.isEndingSegment = false := by
        cases ending : packet.header.isEndingSegment with
        | false => rfl
        | true => rcases ofSegment ending with ofSegment | ofSegment <;> simp_all
      simp [noEnding]

theorem encodeBtpPacket_of_noSegment {packet : BtpPacket}
    (ofMessage : (packet.header.isBeginningSegment || packet.header.isContinuingSegment) = true)
    (empty : packet.payload.segmentPayload.getD [] = []) :
    ∃ error, encodeBtpPacket packet = .error error := by
  have wrong : ∃ message, payloadError packet.header packet.payload = some message := by
    rw [payloadError, ofMessage, empty]
    split_ifs with _ _ _ _ noSegment
    all_goals first
      | exact ⟨_, rfl⟩
      | exact absurd rfl noSegment
  rcases wrong with ⟨message, wrong⟩
  rw [encodeBtpPacket, encodeBtpPacketHeader, encodeBtpPacketPayload, wrong]
  split
  · exact ⟨_, rfl⟩
  · exact ⟨_, rfl⟩

def packetBytes (packet : BtpPacket) : Bytes :=
  encode .little 1 (headerBits packet.header) ++
    (optionalBytes 1 packet.payload.ackNumber ++
      (encode .little 1 packet.payload.sequenceNumber.toNat ++
        (optionalBytes 2 packet.payload.messageLength ++ packet.payload.segmentPayload.getD [])))

theorem optionalBytes_length (width : Nat) (value : Option Nat) :
    (optionalBytes width value).length = if value.isSome then width else 0 := by
  cases value with
  | none => rfl
  | some number => exact ByteOrder.encode_length .little width number

theorem packetBytes_length (packet : BtpPacket) :
    (packetBytes packet).length =
      2 + (if packet.payload.ackNumber.isSome then 1 else 0) +
        (if packet.payload.messageLength.isSome then 2 else 0) +
        (packet.payload.segmentPayload.getD []).length := by
  simp only [packetBytes, List.length_append, encode_length, optionalBytes_length]
  omega

theorem encodeBtpPacket_of_coherent {packet : BtpPacket} (coherent : packet.Coherent) :
    encodeBtpPacket packet =
      .ok (encode .little 1 (headerBits packet.header) ++
        (writeBtpPacketPayload packet.payload).toByteArray) := by
  have plain : (packet.header.isHandshakeRequest || packet.header.hasManagementOpcode) = false := by
    rw [coherent.noHandshake, coherent.noManagement]
    rfl
  rw [encodeBtpPacket, encodeBtpPacketPayload, payloadError_of_coherent coherent,
    encodeBtpPacketHeader, plain,
    DataWriter.writeUInt8, DataWriter.toByteArray_writeUInt_of_fits _ (headerBits_read _).1]
  rfl

theorem toByteArray_writeBtpPacketPayload {payload : BtpPacketPayload} (fits : payload.Fits) :
    (writeBtpPacketPayload payload).toByteArray =
      optionalBytes 1 payload.ackNumber ++ (encode .little 1 payload.sequenceNumber.toNat ++
        (optionalBytes 2 payload.messageLength ++ payload.segmentPayload.getD [])) := by
  let withAck := writeOptional DataWriter.writeUInt8 (.new .little) payload.ackNumber
  have ackBytes : withAck.toByteArray = optionalBytes 1 payload.ackNumber :=
    toByteArray_writeOptional 1 fits.ackNumber rfl
  have ackLittle : withAck.endian = .little := endian_writeOptional _ 1 _
  let numbered := withAck.writeUInt8 payload.sequenceNumber
  have numberedBytes : numbered.toByteArray =
      withAck.toByteArray ++ encode .little 1 payload.sequenceNumber.toNat := by
    have small : payload.sequenceNumber % 256 ^ 1 = payload.sequenceNumber :=
      Int.emod_eq_of_lt fits.sequenceNumber_nonneg fits.sequenceNumber_lt
    rw [← ackLittle, ← small]
    exact DataWriter.toByteArray_writeUInt withAck 1 payload.sequenceNumber
  let whole := writeOptional DataWriter.writeUInt16 numbered payload.messageLength
  have wholeBytes : whole.toByteArray =
      numbered.toByteArray ++ optionalBytes 2 payload.messageLength :=
    toByteArray_writeOptional 2 fits.messageLength ackLittle
  have written : (writeBtpPacketPayload payload).toByteArray =
      whole.toByteArray ++ payload.segmentPayload.getD [] := by
    cases segment : payload.segmentPayload with
    | none => simp [writeBtpPacketPayload, segment, whole, numbered, withAck]
    | some bytes => simp [writeBtpPacketPayload, segment, whole, numbered, withAck]
  rw [written, wholeBytes, numberedBytes, ackBytes]
  simp

theorem encodeBtpPacket_eq {packet : BtpPacket} (coherent : packet.Coherent)
    (fits : packet.payload.Fits) : encodeBtpPacket packet = .ok (packetBytes packet) := by
  rw [encodeBtpPacket_of_coherent coherent, toByteArray_writeBtpPacketPayload fits]
  rfl

theorem decodeBtpPacketPayload_of_remaining {packet : BtpPacket} (coherent : packet.Coherent)
    (fits : packet.payload.Fits) {reader : DataReader} (little : reader.endian = .little)
    (remaining : reader.remainingBytes = optionalBytes 1 packet.payload.ackNumber ++
      (encode .little 1 packet.payload.sequenceNumber.toNat ++
        (optionalBytes 2 packet.payload.messageLength ++ packet.payload.segmentPayload.getD []))) :
    decodeBtpPacketPayload reader packet.header = .ok packet.payload.decoded := by
  have numberFits : packet.payload.sequenceNumber.toNat < 256 ^ 1 := by
    have := fits.sequenceNumber_lt
    omega
  rcases readOptional_of_fits 1 little fits.ackNumber remaining with
    ⟨afterAck, ackRead, ackLittle, ackLeft⟩
  rcases DataReader.readUInt_of_fits numberFits (by rw [ackLittle]; exact ackLeft) with
    ⟨afterNumber, numberRead, numberEndian, numberLeft⟩
  rcases readOptional_of_fits 2 (numberEndian.trans ackLittle) fits.messageLength numberLeft with
    ⟨afterLength, lengthRead, _, lengthLeft⟩
  rw [coherent.ackNumber] at ackRead
  rw [coherent.messageLength] at lengthRead
  rw [decodeBtpPacketPayload]
  refine bind_eq_ok_iff.mpr ⟨_, ackRead, bind_eq_ok_iff.mpr ⟨_, numberRead,
    bind_eq_ok_iff.mpr ⟨_, lengthRead, ?_⟩⟩⟩
  simp only [lengthLeft]
  rfl

theorem decodeBtpPacket_packetBytes {packet : BtpPacket} (coherent : packet.Coherent)
    (fits : packet.payload.Fits) :
    decodeBtpPacket (packetBytes packet) =
      .ok { header := packet.header, payload := packet.payload.decoded } := by
  rcases headerBits_read packet.header with
    ⟨bitsFit, management, handshake, ack, ending, continuing, beginning⟩
  rcases DataReader.readUInt_of_fits
    (show headerBits packet.header < 256 ^ 1 from bitsFit)
    (DataReader.remainingBytes_new (packetBytes packet) .little) with
    ⟨afterHeader, headerRead, headerEndian, headerLeft⟩
  have header : decodeBtpPacketHeader (.new (packetBytes packet) .little) =
      .ok (packet.header, afterHeader) := by
    rw [decodeBtpPacketHeader]
    refine bind_eq_ok_iff.mpr ⟨_, headerRead, ?_⟩
    simp only [management, handshake, ack, ending, continuing, beginning]
    exact congrArg (fun header => Except.ok (header, afterHeader)) coherent.withoutFlags
  rw [decodeBtpPacket]
  exact bind_eq_ok_iff.mpr ⟨_, header, bind_eq_ok_iff.mpr ⟨_,
    decodeBtpPacketPayload_of_remaining coherent fits headerEndian headerLeft, rfl⟩⟩

theorem ackNumber_lt_of_decode {data : Bytes} {packet : DecodedBtpPacket} {ackNumber : Nat}
    (decoded : decodeBtpPacket data = .ok packet)
    (isAck : packet.payload.ackNumber = some ackNumber) : ackNumber < 256 := by
  rcases bind_eq_ok_iff.mp decoded with ⟨⟨header, reader⟩, _, decoded⟩
  rcases bind_eq_ok_iff.mp decoded with ⟨payload, payloadRead, same⟩
  rcases bind_eq_ok_iff.mp payloadRead with ⟨⟨ack, afterAck⟩, ackRead, payloadRead⟩
  rcases bind_eq_ok_iff.mp payloadRead with ⟨⟨number, afterNumber⟩, _, payloadRead⟩
  rcases bind_eq_ok_iff.mp payloadRead with ⟨⟨length, afterLength⟩, _, payloadSame⟩
  cases same
  cases payloadSame
  cases isAck
  rw [readOptional] at ackRead
  split at ackRead
  · rcases bind_eq_ok_iff.mp ackRead with ⟨⟨value, next⟩, read, same⟩
    cases same
    exact DataReader.readUInt_lt read
  · cases ackRead

end BtpCodec

end MatterJs.Protocol
