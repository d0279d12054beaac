import MatterJs.Protocol.PacketRoundTrip

/-! What `decodePayload` makes of the application payload of `encodePayload`. -/

namespace MatterJs.Protocol

open General ByteOrder PayloadHeaderFlag

/-- Every number of the header fits the field it is written to. -/
structure PayloadHeader.InRange (header : PayloadHeader) : Prop where
  exchangeId_lt : header.exchangeId < 2 ^ 16
  messageType_lt : header.messageType < 2 ^ 8
  protocolId_nonneg : 0 ≤ header.protocolId
  protocolId_lt : header.protocolId < 2 ^ 32
  ackedMessageId_lt : ∀ messageId ∈ header.ackedMessageId, messageId < 2 ^ 32

namespace PayloadHeader

def vendorId (header : PayloadHeader) : Nat :=
  header.protocolId.toNat / 2 ^ 16

def protocolWord (header : PayloadHeader) : Nat :=
  header.protocolId.toNat % 2 ^ 16

def unsigned (header : PayloadHeader) : PayloadHeader :=
  { header with protocolId := header.protocolId % 2 ^ 32 }

variable {header : PayloadHeader}

theorem InRange.protocolId_eq (inRange : header.InRange) :
    header.protocolId = ((header.vendorId * 2 ^ 16 + header.protocolWord : Nat) : Int) := by
  have nonnegative := inRange.protocolId_nonneg
  unfold vendorId protocolWord
  omega

theorem InRange.vendorId_lt (inRange : header.InRange) : header.vendorId < 2 ^ 16 := by
  have bound := inRange.protocolId_lt
  unfold vendorId
  omega

theorem protocolWord_lt (header : PayloadHeader) : header.protocolWord < 2 ^ 16 :=
  Nat.mod_lt _ (by decide)

end PayloadHeader

def Packet.arrived (packet : Packet) (securityFlags : Nat) : DecodedPacket where
  header := { packet.header with securityFlags }
  messageExtension := packet.messageExtension
  applicationPayload := packet.applicationPayload

namespace MessageCodec

def payloadRoundTrip (message : Message) (securityFlags : Nat) :
    Except MatterError DecodedMessage := do
  let packet ← encodePayload message
  decodePayload (packet.arrived securityFlags)

variable {header : PayloadHeader}

theorem exchangeFlags_read (initiator acks requires vendor : Bool) :
    let flags := (if initiator then isInitiatorMessage else 0) |||
      (if acks then isAckMessage else 0) |||
      (if requires then requiresAck else 0) |||
      (if vendor then hasVendorId else 0)
    flags < 256 ^ 1 ∧
      (flags &&& isInitiatorMessage != 0) = initiator ∧
      (flags &&& isAckMessage != 0) = acks ∧
      (flags &&& requiresAck != 0) = requires ∧
      (flags &&& hasSecureExtension != 0) = false ∧
      (flags &&& hasVendorId != 0) = vendor := by
  cases initiator <;> cases acks <;> cases requires <;> cases vendor <;> decide

/-! ## The protocol id -/

/-- What the reader takes for the vendor id: the first word, if there are two. -/
def readVendorId (header : PayloadHeader) : Option Nat :=
  if header.vendorId = 0 then none else some header.protocolWord

/-- What the reader takes for the protocol's own word: the last one. -/
def readProtocolWord (header : PayloadHeader) : Nat :=
  if header.vendorId = 0 then header.protocolWord else header.vendorId

/-- The header the reader puts together: the two words of a protocol id change
places. -/
def readHeader (header : PayloadHeader) : PayloadHeader :=
  { header with
    protocolId := Bitwise32.or
      (Bitwise32.shiftLeft ((readVendorId header).elim commonVendorId Int.ofNat) 16)
      (readProtocolWord header)
    hasSecuredExtension := false }

theorem readVendorId_lt (header : PayloadHeader) :
    ∀ vendorId ∈ readVendorId header, vendorId < 256 ^ 2 := by
  intro vendorId member
  rw [readVendorId] at member
  split at member
  · cases member
  · cases member
    exact header.protocolWord_lt

theorem readProtocolWord_lt (inRange : header.InRange) :
    readProtocolWord header < 256 ^ 2 := by
  rw [readProtocolWord]
  split
  · exact header.protocolWord_lt
  · exact inRange.vendorId_lt

theorem protocolId_readHeader (inRange : header.InRange) :
    (readHeader header).unsigned.protocolId =
      ((readVendorId header).getD 0 * 2 ^ 16 + readProtocolWord header : Nat) := by
  have vendorFits : (readVendorId header).getD 0 < 2 ^ 16 := by
    cases read : readVendorId header with
    | none => decide
    | some vendorId => exact readVendorId_lt header vendorId read
  have elim : (readVendorId header).elim commonVendorId Int.ofNat =
      ((readVendorId header).getD 0 : Nat) := by
    cases readVendorId header <;> rfl
  have joined := Bitwise32.or_shiftLeft_halves vendorFits (readProtocolWord_lt inRange)
  rw [PayloadHeader.unsigned, readHeader, elim]
  norm_cast

theorem unsigned_readHeader_eq_iff (notAnnounced : header.hasSecuredExtension = false) :
    (readHeader header).unsigned = header ↔
      (readHeader header).unsigned.protocolId = header.protocolId := by
  constructor
  · intro same
    rw [same]
  · intro sameId
    have others : (readHeader header).unsigned =
        { header with
          protocolId := (readHeader header).unsigned.protocolId
          hasSecuredExtension := false } := rfl
    rw [others, sameId, ← notAnnounced]

theorem readHeader_protocolId_eq_iff (inRange : header.InRange) :
    (readHeader header).unsigned.protocolId = header.protocolId ↔
      header.vendorId = 0 ∨ header.vendorId = header.protocolWord := by
  rw [protocolId_readHeader inRange, inRange.protocolId_eq, readVendorId, readProtocolWord]
  by_cases common : header.vendorId = 0
  · simp [common]
  · simp only [if_neg common, Option.getD_some]
    omega

theorem writtenVendorId_eq_common_iff (inRange : header.InRange) :
    Bitwise32.signedShiftRight (Bitwise32.and header.protocolId 0xffff0000) 16 =
        commonVendorId ↔ header.vendorId = 0 := by
  have nonnegative := inRange.protocolId_nonneg
  have bound := inRange.protocolId_lt
  have natural : header.protocolId = (header.protocolId.toNat : Int) := by omega
  rw [natural, commonVendorId, Bitwise32.upperHalf_eq_zero_iff (by omega)]
  unfold PayloadHeader.vendorId
  omega

theorem toByteArray_writeProtocolId (inRange : header.InRange) {writer : DataWriter}
    (little : writer.endian = .little) :
    (if header.vendorId ≠ 0 then writer.writeUInt32 header.protocolId
      else writer.writeUInt16 header.protocolId).toByteArray =
      writer.toByteArray ++ (optionalBytes 2 (readVendorId header) ++
        encode .little 2 (readProtocolWord header)) := by
  have wordFits : header.protocolWord < 256 ^ 2 := header.protocolWord_lt
  have idFits : header.vendorId * 2 ^ 16 + header.protocolWord < 256 ^ 4 := by
    have bound := inRange.vendorId_lt
    omega
  rw [inRange.protocolId_eq]
  by_cases common : header.vendorId = 0
  · rw [if_neg (not_not_intro common), readVendorId, readProtocolWord, common, Nat.zero_mul,
      Nat.zero_add, DataWriter.writeUInt16, DataWriter.toByteArray_writeUInt_of_fits _ wordFits,
      little]
    rfl
  · have lowWord : digits 2 (header.vendorId * 2 ^ 16 + header.protocolWord) =
        digits 2 header.protocolWord := by
      rw [show header.vendorId * 2 ^ 16 = header.vendorId * 256 ^ 2 by omega, digits_mul_add]
    have highWord : (header.vendorId * 2 ^ 16 + header.protocolWord) / 256 ^ 2 =
        header.vendorId := by omega
    rw [if_pos common, readVendorId, readProtocolWord, if_neg common,
      if_neg common, DataWriter.writeUInt32,
      DataWriter.toByteArray_writeUInt_of_fits _ idFits, little, encode,
      digits_add 2 2, lowWord, highWord]
    rfl

/-! ## The payload header -/

def exchangeFlags (header : PayloadHeader) : Nat :=
  (if header.isInitiatorMessage then isInitiatorMessage else 0) |||
    (if header.ackedMessageId.isSome then isAckMessage else 0) |||
    (if header.requiresAck then requiresAck else 0) |||
    (if (readVendorId header).isSome then hasVendorId else 0)

theorem isSome_readVendorId (header : PayloadHeader) :
    (readVendorId header).isSome = decide (header.vendorId ≠ 0) := by
  unfold readVendorId
  split <;> simp [*]

theorem encodePayloadHeader_eq (inRange : header.InRange) :
    encodePayloadHeader header =
      encode .little 1 (exchangeFlags header) ++ (encode .little 1 header.messageType ++
      (encode .little 2 header.exchangeId ++ (optionalBytes 2 (readVendorId header) ++
      (encode .little 2 (readProtocolWord header) ++
      optionalBytes 4 header.ackedMessageId)))) := by
  have flagsFit : exchangeFlags header < 256 ^ 1 := (exchangeFlags_read
    header.isInitiatorMessage header.ackedMessageId.isSome header.requiresAck
    (readVendorId header).isSome).1
  have typeFits : header.messageType < 256 ^ 1 := inRange.messageType_lt
  have exchangeFits : header.exchangeId < 256 ^ 2 := inRange.exchangeId_lt
  let fixed := (((DataWriter.new .little).writeUInt8 (exchangeFlags header)).writeUInt8
    header.messageType).writeUInt16 header.exchangeId
  have fixedBytes : fixed.toByteArray = encode .little 1 (exchangeFlags header) ++
      encode .little 1 header.messageType ++ encode .little 2 header.exchangeId := by
    simp [fixed, DataWriter.writeUInt8, DataWriter.writeUInt16,
      DataWriter.toByteArray_writeUInt_of_fits _ exchangeFits,
      DataWriter.toByteArray_writeUInt_of_fits _ typeFits,
      DataWriter.toByteArray_writeUInt_of_fits _ flagsFit]
  have little : fixed.endian = .little := rfl
  let withProtocol := if header.vendorId ≠ 0 then fixed.writeUInt32 header.protocolId
    else fixed.writeUInt16 header.protocolId
  have protocolBytes := toByteArray_writeProtocolId inRange little
  have protocolLittle : withProtocol.endian = .little := by
    simp only [withProtocol]
    split <;> exact little
  have ackedBytes := toByteArray_writeOptional 4 inRange.ackedMessageId_lt protocolLittle
  have encoded : encodePayloadHeader header =
      (writeOptional DataWriter.writeUInt32 withProtocol header.ackedMessageId).toByteArray := by
    have vendorFlag : Bitwise32.signedShiftRight
        (Bitwise32.and header.protocolId 0xffff0000) 16 ≠ commonVendorId ↔
          header.vendorId ≠ 0 := not_congr (writtenVendorId_eq_common_iff inRange)
    simp [encodePayloadHeader, vendorFlag, withProtocol, fixed, exchangeFlags, isSome_readVendorId]
  rw [encoded]
  refine ackedBytes.trans ?_
  rw [show withProtocol.toByteArray = _ from protocolBytes, fixedBytes]
  simp

theorem decodePayloadHeader_of_remaining (inRange : header.InRange) (reader : DataReader)
    (payload : Bytes) (little : reader.endian = .little)
    (remaining : reader.remainingBytes = encodePayloadHeader header ++ payload) :
    ∃ next, decodePayloadHeader reader = .ok (readHeader header, next) ∧
      next.remainingBytes = payload := by
  have flags := exchangeFlags_read header.isInitiatorMessage header.ackedMessageId.isSome
    header.requiresAck (readVendorId header).isSome
  rcases flags with ⟨flagsFit, initiatorFlag, ackFlag, requiresFlag, extensionFlag, vendorFlag⟩
  change exchangeFlags header < 256 ^ 1 at flagsFit
  change (exchangeFlags header &&& _ != 0) = _
    at initiatorFlag ackFlag requiresFlag extensionFlag vendorFlag
  rw [encodePayloadHeader_eq inRange] at remaining
  simp only [List.append_assoc] at remaining
  have typeFits : header.messageType < 256 ^ 1 := inRange.messageType_lt
  have exchangeFits : header.exchangeId < 256 ^ 2 := inRange.exchangeId_lt
  rcases DataReader.readUInt_of_fits flagsFit (by rw [little]; exact remaining) with
    ⟨afterFlags, readFlags, endianFlags, remainingFlags⟩
  rcases DataReader.readUInt_of_fits typeFits
    (by rw [endianFlags, little]; exact remainingFlags) with
    ⟨afterType, readType, endianType, remainingType⟩
  rcases DataReader.readUInt_of_fits exchangeFits
    (by rw [endianType, endianFlags, little]; exact remainingType) with
    ⟨afterExchange, readExchange, endianExchange, remainingExchange⟩
  rcases readOptional_of_fits 2
    (by rw [endianExchange, endianType, endianFlags, little]) (readVendorId_lt header)
    remainingExchange with ⟨afterVendor, readVendor, endianVendor, remainingVendor⟩
  rcases DataReader.readUInt_of_fits (readProtocolWord_lt inRange)
    (by rw [endianVendor]; exact remainingVendor) with
    ⟨afterWord, readWord, endianWord, remainingWord⟩
  rcases readOptional_of_fits 4 (by rw [endianWord, endianVendor])
    inRange.ackedMessageId_lt remainingWord with
    ⟨afterAcked, readAcked, _, remainingAcked⟩
  have readVendor' : readOptional (readVendorId header).isSome DataReader.readUInt16
      afterExchange = .ok (readVendorId header, afterVendor) := readVendor
  have readAcked' : readOptional header.ackedMessageId.isSome DataReader.readUInt32
      afterWord = .ok (header.ackedMessageId, afterAcked) := readAcked
  refine ⟨afterAcked, ?_, remainingAcked⟩
  simp only [decodePayloadHeader, DataReader.readUInt8, DataReader.readUInt16, readFlags, readType,
    readExchange, bind, Except.bind, initiatorFlag, ackFlag, requiresFlag, extensionFlag,
    vendorFlag, readVendor', readWord, readAcked']
  rfl

theorem payloadRoundTrip_of_extension {message : Message} (securityFlags : Nat)
    (unsupported : ¬(message.securityExtension = none ∧
      message.payloadHeader.hasSecuredExtension = false)) :
    ∃ error, payloadRoundTrip message securityFlags = .error error := by
  refine ⟨.notImplementedError "Security extensions not supported when encoding a payload.", ?_⟩
  have refused : (message.securityExtension.isSome ||
      message.payloadHeader.hasSecuredExtension) = true := by
    cases extension : message.securityExtension <;>
      cases announced : message.payloadHeader.hasSecuredExtension <;>
      simp [extension, announced] at unsupported ⊢
  rw [payloadRoundTrip, encodePayload, if_pos refused]
  rfl

theorem payloadRoundTrip_of_inRange {message : Message} (securityFlags : Nat)
    (inRange : message.payloadHeader.InRange) (noExtension : message.securityExtension = none)
    (notAnnounced : message.payloadHeader.hasSecuredExtension = false) :
    payloadRoundTrip message securityFlags =
      .ok { packetHeader := { message.packetHeader with securityFlags }
            payloadHeader := readHeader message.payloadHeader
            securityExtension := none
            payload := message.payload } := by
  rcases decodePayloadHeader_of_remaining inRange
    (DataReader.new (encodePayloadHeader message.payloadHeader ++ message.payload) .little)
    message.payload rfl (by simp) with ⟨afterHeader, decodes, remaining⟩
  have notRead : (readHeader message.payloadHeader).hasSecuredExtension = false := rfl
  simp [payloadRoundTrip, encodePayload, noExtension, notAnnounced, bind, Except.bind,
    Packet.arrived, decodePayload, decodes, notRead, remaining, pure, Except.pure]

/-- A message is read back with its header and its payload exactly when it has
no security extension and its protocol id reads the same with its two words
exchanged, or is one of the common vendor. -/
theorem payloadRoundTrip_iff {message : Message} (securityFlags : Nat)
    (inRange : message.payloadHeader.InRange) :
    (∃ decoded, payloadRoundTrip message securityFlags = .ok decoded ∧
        decoded.payloadHeader.unsigned = message.payloadHeader ∧
        decoded.payload = message.payload) ↔
      (message.securityExtension = none ∧ message.payloadHeader.hasSecuredExtension = false) ∧
      (message.payloadHeader.vendorId = 0 ∨
        message.payloadHeader.vendorId = message.payloadHeader.protocolWord) := by
  by_cases supported : message.securityExtension = none ∧
      message.payloadHeader.hasSecuredExtension = false
  · rw [payloadRoundTrip_of_inRange securityFlags inRange supported.1 supported.2,
      ← readHeader_protocolId_eq_iff inRange, ← unsigned_readHeader_eq_iff supported.2]
    constructor
    · intro roundTrip
      rcases roundTrip with ⟨decoded, decodes, sameHeader, _⟩
      cases decodes
      exact ⟨supported, sameHeader⟩
    · intro same
      exact ⟨_, rfl, same.2, rfl⟩
  · rcases payloadRoundTrip_of_extension securityFlags supported with ⟨error, refuses⟩
    rw [refuses]
    simp [supported]

def commonMessage : Message where
  packetHeader :=
    { sessionId := 0x1234, sessionType := .unicast, hasPrivacyEnhancements := false
      isControlMessage := false, hasMessageExtensions := false, messageId := 7
      sourceNodeId := none, destNodeId := none, destGroupId := none }
  payloadHeader :=
    { exchangeId := 1, protocolId := 0x0001, messageType := 5, isInitiatorMessage := true
      requiresAck := true, ackedMessageId := some 6, hasSecuredExtension := false }
  securityExtension := none
  payload := [1, 2, 3]

def vendorMessage : Message :=
  { commonMessage with
    payloadHeader := { commonMessage.payloadHeader with protocolId := 0xfff10001 } }

theorem commonMessage_inRange : commonMessage.payloadHeader.InRange := by
  constructor <;> simp [commonMessage]

theorem vendorMessage_inRange : vendorMessage.payloadHeader.InRange := by
  constructor <;> simp [vendorMessage, commonMessage]

theorem payloadRoundTrip_commonMessage :
    ∃ decoded, payloadRoundTrip commonMessage 0 = .ok decoded ∧
      decoded.payloadHeader.unsigned = commonMessage.payloadHeader ∧
      decoded.payload = commonMessage.payload :=
  (payloadRoundTrip_iff 0 commonMessage_inRange).mpr ⟨⟨rfl, rfl⟩, .inl rfl⟩

/-- The protocol 0xfff10001 is read back as 0x0001fff1. -/
theorem payloadRoundTrip_vendorMessage :
    vendorMessage.payloadHeader.InRange ∧ vendorMessage.securityExtension = none ∧
      vendorMessage.payloadHeader.hasSecuredExtension = false ∧
      ¬∃ decoded, payloadRoundTrip vendorMessage 0 = .ok decoded ∧
        decoded.payloadHeader.unsigned = vendorMessage.payloadHeader ∧
        decoded.payload = vendorMessage.payload := by
  refine ⟨vendorMessage_inRange, rfl, rfl, ?_⟩
  intro roundTrip
  rcases roundTrip with ⟨decoded, decodes, sameHeader, _⟩
  cases decodes
  exact absurd (congrArg PayloadHeader.protocolId sameHeader) (by decide)

end MessageCodec

end MatterJs.Protocol
