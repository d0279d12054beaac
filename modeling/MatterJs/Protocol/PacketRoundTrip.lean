import MatterJs.Protocol.MessageCodec

/-! What `decodePacket` makes of the bytes of `encodePacket`. -/

namespace MatterJs.Protocol

open General ByteOrder PacketHeaderFlag DataReader

/-- The headers the code constructs: every number fits its field, there is at
most one destination, and no feature is announced that is not supported. -/
structure PacketHeader.Constructed (header : PacketHeader) : Prop where
  sessionId_lt : header.sessionId < 2 ^ 16
  messageId_lt : header.messageId < 2 ^ 32
  sourceNodeId_lt : ∀ nodeId ∈ header.sourceNodeId, nodeId < 2 ^ 64
  destNodeId_lt : ∀ nodeId ∈ header.destNodeId, nodeId < 2 ^ 64
  destGroupId_lt : ∀ groupId ∈ header.destGroupId, groupId < 2 ^ 16
  oneDestination : header.destNodeId = none ∨ header.destGroupId = none
  noPrivacyEnhancements : header.hasPrivacyEnhancements = false
  noControlMessage : header.isControlMessage = false
  noMessageExtensions : header.hasMessageExtensions = false

theorem PacketHeader.Constructed.withoutFlags {header : PacketHeader}
    (constructed : header.Constructed) :
    { header with hasPrivacyEnhancements := false, isControlMessage := false } = header := by
  rcases header with ⟨_, _, privacyEnhancements, controlMessage, _, _, _, _, _⟩
  have noPrivacyEnhancements : privacyEnhancements = false :=
    constructed.noPrivacyEnhancements
  have noControlMessage : controlMessage = false := constructed.noControlMessage
  rw [noPrivacyEnhancements, noControlMessage]

namespace MessageCodec

theorem packetFlags_read (group node source : Bool) :
    let flags := (headerVersion <<< 4) |||
      (if group then hasDestGroupId else 0) |||
      (if node then hasDestNodeId else 0) |||
      (if source then hasSourceNodeId else 0)
    flags < 256 ^ 1 ∧
      (flags &&& versionMask) >>> 4 = headerVersion ∧
      (flags &&& hasDestNodeId != 0) = node ∧
      (flags &&& hasDestGroupId != 0) = group ∧
      (flags &&& hasSourceNodeId != 0) = source := by
  cases group <;> cases node <;> cases source <;> decide

def optionalBytes (width : Nat) : Option Nat → Bytes
  | some value => encode .little width value
  | none => []

theorem readOptional_of_fits {reader : DataReader} (width : Nat) {value : Option Nat}
    {rest : Bytes} (little : reader.endian = .little)
    (fits : ∀ number ∈ value, number < 256 ^ width)
    (remaining : reader.remainingBytes = optionalBytes width value ++ rest) :
    ∃ next, readOptional value.isSome (readUInt · width) reader = .ok (value, next) ∧
      next.endian = .little ∧ next.remainingBytes = rest := by
  cases value with
  | none => exact ⟨reader, rfl, little, remaining⟩
  | some number =>
    rcases readUInt_of_fits (fits number rfl)
      (by rw [little]; exact remaining) with ⟨next, reads, endian, nextRemaining⟩
    refine ⟨next, ?_, endian.trans little, nextRemaining⟩
    simp only [readOptional, reads]
    rfl

@[simp] theorem endian_writeOptional (writer : DataWriter) (width : Nat)
    (value : Option Nat) :
    (writeOptional (DataWriter.writeUInt · width) writer value).endian =
      writer.endian := by
  cases value <;> rfl

theorem toByteArray_writeOptional (width : Nat) {value : Option Nat}
    (fits : ∀ number ∈ value, number < 256 ^ width) {writer : DataWriter}
    (little : writer.endian = .little) :
    (writeOptional (DataWriter.writeUInt · width) writer value).toByteArray =
      writer.toByteArray ++ optionalBytes width value := by
  cases value with
  | none => simp [writeOptional, optionalBytes]
  | some number =>
    rw [writeOptional, DataWriter.toByteArray_writeUInt_of_fits _ (fits number rfl), little]
    rfl

/-! ## The packet header -/

def packetFlags (header : PacketHeader) : Nat :=
  (headerVersion <<< 4) |||
    (if header.destGroupId.isSome then hasDestGroupId else 0) |||
    (if header.destNodeId.isSome then hasDestNodeId else 0) |||
    (if header.sourceNodeId.isSome then hasSourceNodeId else 0)

theorem sessionType_lt (sessionType : SessionType) : sessionType.toNat < 256 ^ 1 := by
  cases sessionType <;> decide

theorem encodePacketHeader_eq {header : PacketHeader} (constructed : header.Constructed) :
    encodePacketHeader header =
      encode .little 1 (packetFlags header) ++ (encode .little 2 header.sessionId ++
      (encode .little 1 header.sessionType.toNat ++ (encode .little 4 header.messageId ++
      (optionalBytes 8 header.sourceNodeId ++ (optionalBytes 8 header.destNodeId ++
      optionalBytes 4 header.destGroupId))))) := by
  have groupFits : ∀ groupId ∈ header.destGroupId, groupId < 256 ^ 4 := by
    intro groupId member
    have bound := constructed.destGroupId_lt groupId member
    omega
  have flagsFit : packetFlags header < 256 ^ 1 := (packetFlags_read
    header.destGroupId.isSome header.destNodeId.isSome header.sourceNodeId.isSome).1
  let fixed := ((((DataWriter.new .little).writeUInt8 (packetFlags header)).writeUInt16
    header.sessionId).writeUInt8 header.sessionType.toNat).writeUInt32 header.messageId
  have fixedBytes : fixed.toByteArray = encode .little 1 (packetFlags header) ++
      encode .little 2 header.sessionId ++ encode .little 1 header.sessionType.toNat ++
      encode .little 4 header.messageId := by
    have sessionFits : header.sessionId < 256 ^ 2 := constructed.sessionId_lt
    have messageFits : header.messageId < 256 ^ 4 := constructed.messageId_lt
    simp [fixed, DataWriter.writeUInt8, DataWriter.writeUInt16, DataWriter.writeUInt32,
      DataWriter.toByteArray_writeUInt_of_fits _ messageFits,
      DataWriter.toByteArray_writeUInt_of_fits _ (sessionType_lt _),
      DataWriter.toByteArray_writeUInt_of_fits _ sessionFits,
      DataWriter.toByteArray_writeUInt_of_fits _ flagsFit]
  have little : fixed.endian = .little := rfl
  have withSource := toByteArray_writeOptional 8 constructed.sourceNodeId_lt little
  have withNode := toByteArray_writeOptional 8 constructed.destNodeId_lt
    ((endian_writeOptional fixed 8 header.sourceNodeId).trans little)
  have withGroup := toByteArray_writeOptional 4 groupFits
    ((endian_writeOptional _ 8 header.destNodeId).trans
      ((endian_writeOptional fixed 8 header.sourceNodeId).trans little))
  have encoded : encodePacketHeader header = fixed.toByteArray ++
      optionalBytes 8 header.sourceNodeId ++ optionalBytes 8 header.destNodeId ++
      optionalBytes 4 header.destGroupId := by
    rw [← withSource, ← withNode, ← withGroup]
    rfl
  rw [encoded, fixedBytes]
  simp

/-- What a group address leaves unread: it is written with four bytes and read
with two. -/
def groupPadding (destGroupId : Option Nat) : Bytes :=
  if destGroupId.isSome then [0, 0] else []

theorem optionalBytes_group {destGroupId : Option Nat}
    (fits : ∀ groupId ∈ destGroupId, groupId < 2 ^ 16) :
    optionalBytes 4 destGroupId = optionalBytes 2 destGroupId ++ groupPadding destGroupId := by
  cases destGroupId with
  | none => rfl
  | some groupId =>
    have high : groupId / 256 ^ 2 = 0 := Nat.div_eq_of_lt (fits groupId rfl)
    simp only [optionalBytes, encode, groupPadding]
    rw [digits_add 2 2, high]
    rfl

theorem decodePacketHeader_of_remaining {header : PacketHeader}
    (constructed : header.Constructed) (reader : DataReader) (payload : Bytes)
    (little : reader.endian = .little)
    (remaining : reader.remainingBytes = encodePacketHeader header ++ payload) :
    ∃ next, decodePacketHeader reader =
        .ok ({ header with securityFlags := header.sessionType.toNat }, next) ∧
      next.endian = .little ∧
      next.remainingBytes = groupPadding header.destGroupId ++ payload := by
  have flags := packetFlags_read header.destGroupId.isSome header.destNodeId.isSome
    header.sourceNodeId.isSome
  rcases flags with ⟨flagsFit, version, nodeFlag, groupFlag, sourceFlag⟩
  change packetFlags header < 256 ^ 1 at flagsFit
  change (packetFlags header &&& _) >>> 4 = _ at version
  change (packetFlags header &&& _ != 0) = _ at nodeFlag groupFlag sourceFlag
  rw [encodePacketHeader_eq constructed, optionalBytes_group constructed.destGroupId_lt]
    at remaining
  simp only [List.append_assoc] at remaining
  rcases readUInt_of_fits flagsFit (by rw [little]; exact remaining) with
    ⟨afterFlags, readFlags, endianFlags, remainingFlags⟩
  have sessionFits : header.sessionId < 256 ^ 2 := constructed.sessionId_lt
  rcases readUInt_of_fits sessionFits
    (by rw [endianFlags, little]; exact remainingFlags) with
    ⟨afterSession, readSession, endianSession, remainingSession⟩
  rcases readUInt_of_fits (sessionType_lt header.sessionType)
    (by rw [endianSession, endianFlags, little]; exact remainingSession) with
    ⟨afterSecurity, readSecurity, endianSecurity, remainingSecurity⟩
  have messageFits : header.messageId < 256 ^ 4 := constructed.messageId_lt
  rcases readUInt_of_fits messageFits
    (by rw [endianSecurity, endianSession, endianFlags, little]; exact remainingSecurity) with
    ⟨afterMessage, readMessage, endianMessage, remainingMessage⟩
  rcases readOptional_of_fits 8
    (by rw [endianMessage, endianSecurity, endianSession, endianFlags, little])
    constructed.sourceNodeId_lt remainingMessage with
    ⟨afterSource, readSource, endianSource, remainingSource⟩
  rcases readOptional_of_fits 8 endianSource constructed.destNodeId_lt
    remainingSource with ⟨afterNode, readNode, endianNode, remainingNode⟩
  rcases readOptional_of_fits 2 endianNode constructed.destGroupId_lt
    remainingNode with ⟨afterGroup, readGroup, endianGroup, remainingGroup⟩
  refine ⟨afterGroup, ?_, endianGroup, remainingGroup⟩
  have oneDestination : (header.destNodeId.isSome && header.destGroupId.isSome) = false := by
    rcases constructed.oneDestination with noNode | noGroup
    · simp [noNode]
    · simp [noGroup]
  have supportedVersion : (headerVersion != headerVersion) = false := by decide
  have readSource' : readOptional header.sourceNodeId.isSome readUInt64
      afterMessage = .ok (header.sourceNodeId, afterSource) := readSource
  have readNode' : readOptional header.destNodeId.isSome readUInt64
      afterSource = .ok (header.destNodeId, afterNode) := readNode
  have readGroup' : readOptional header.destGroupId.isSome readUInt16
      afterNode = .ok (header.destGroupId, afterGroup) := readGroup
  -- the security flags byte is the session type alone
  have supported : (header.sessionType.toNat &&& SecurityFlag.hasPrivacyEnhancements != 0) =
      header.hasPrivacyEnhancements ∧
      (header.sessionType.toNat &&& SecurityFlag.isControlMessage != 0) = header.isControlMessage ∧
      (header.sessionType.toNat &&& SecurityFlag.hasMessageExtension != 0) =
        header.hasMessageExtensions := by
    rw [constructed.noPrivacyEnhancements, constructed.noControlMessage,
      constructed.noMessageExtensions]
    cases header.sessionType <;> decide
  have sessionType : decodeSessionType header.sessionType.toNat = .ok header.sessionType := by
    cases header.sessionType <;> rfl
  rw [constructed.noPrivacyEnhancements, constructed.noControlMessage] at supported
  simp only [decodePacketHeader, readUInt8, readUInt16,
    readUInt32, readFlags, readSession, readSecurity, readMessage, bind,
    Except.bind, version, nodeFlag, groupFlag, sourceFlag, oneDestination,
    supportedVersion, Bool.false_eq_true, if_false, readSource', readNode', readGroup',
    sessionType, supported, pure, Except.pure]
  have withoutFlags := constructed.withoutFlags
  rw [← withoutFlags]

/-! ## Packets -/

theorem encodePacket_of_constructed {packet : Packet}
    (constructed : packet.header.Constructed) (noExtension : packet.messageExtension = none) :
    encodePacket packet = .ok (encodePacketHeader packet.header ++ packet.applicationPayload) := by
  simp [encodePacket, noExtension, constructed.noMessageExtensions]

theorem decodePacket_encodePacketHeader {header : PacketHeader}
    (constructed : header.Constructed) (payload : Bytes) :
    decodePacket (encodePacketHeader header ++ payload) =
      .ok { header := { header with securityFlags := header.sessionType.toNat }
            messageExtension := none
            applicationPayload := groupPadding header.destGroupId ++ payload } := by
  rcases decodePacketHeader_of_remaining constructed
    (new (encodePacketHeader header ++ payload) .little) payload
    rfl (by simp) with ⟨afterHeader, decodes, _, remaining⟩
  simp [decodePacket, decodes, bind, Except.bind, constructed.noMessageExtensions, remaining, pure,
    Except.pure]

theorem decodePacket_encodePacket {packet : Packet} (constructed : packet.header.Constructed)
    (noExtension : packet.messageExtension = none) :
    (encodePacket packet >>= decodePacket) =
      .ok { header := { packet.header with securityFlags := packet.header.sessionType.toNat }
            messageExtension := none
            applicationPayload :=
              groupPadding packet.header.destGroupId ++ packet.applicationPayload } := by
  rw [encodePacket_of_constructed constructed noExtension]
  exact decodePacket_encodePacketHeader constructed packet.applicationPayload

/-- A packet is read back with its header and its payload exactly when it is
not addressed to a group. -/
theorem decodePacket_encodePacket_iff {packet : Packet}
    (constructed : packet.header.Constructed) (noExtension : packet.messageExtension = none) :
    (∃ decoded, (encodePacket packet >>= decodePacket) = .ok decoded ∧
        decoded.header.toPacketHeader = packet.header ∧
        decoded.applicationPayload = packet.applicationPayload) ↔
      packet.header.destGroupId = none := by
  rw [decodePacket_encodePacket constructed noExtension]
  constructor
  · intro roundTrip
    rcases roundTrip with ⟨decoded, decodes, _, samePayload⟩
    cases decodes
    have noPadding : groupPadding packet.header.destGroupId = [] :=
      List.append_left_eq_self.mp samePayload
    cases destination : packet.header.destGroupId with
    | none => rfl
    | some groupId =>
      rw [destination] at noPadding
      exact absurd noPadding (by simp [groupPadding])
  · intro noGroup
    exact ⟨_, rfl, rfl, by rw [noGroup]; rfl⟩

/-- A packet of a secure session, as a node sends it. -/
def unicastPacket : Packet where
  header :=
    { sessionId := 0x1234, sessionType := .unicast, hasPrivacyEnhancements := false
      isControlMessage := false, hasMessageExtensions := false, messageId := 7
      sourceNodeId := some 1, destNodeId := some 2, destGroupId := none }
  messageExtension := none
  applicationPayload := [1, 2, 3]

def groupPacket : Packet where
  header :=
    { unicastPacket.header with
      sessionType := .group, destNodeId := none, destGroupId := some 9 }
  messageExtension := none
  applicationPayload := [1, 2, 3]

theorem unicastPacket_constructed : unicastPacket.header.Constructed := by
  constructor <;> simp [unicastPacket]

theorem groupPacket_constructed : groupPacket.header.Constructed := by
  constructor <;> simp [groupPacket, unicastPacket]

theorem decodePacket_encodePacket_unicast :
    ∃ decoded, (encodePacket unicastPacket >>= decodePacket) = .ok decoded ∧
      decoded.header.toPacketHeader = unicastPacket.header ∧
      decoded.applicationPayload = unicastPacket.applicationPayload :=
  (decodePacket_encodePacket_iff unicastPacket_constructed rfl).mpr rfl

/-- The payload of a group packet comes back behind two zero bytes. -/
theorem decodePacket_encodePacket_group :
    groupPacket.header.Constructed ∧
      ¬∃ decoded, (encodePacket groupPacket >>= decodePacket) = .ok decoded ∧
        decoded.header.toPacketHeader = groupPacket.header ∧
        decoded.applicationPayload = groupPacket.applicationPayload := by
  refine ⟨groupPacket_constructed, ?_⟩
  intro roundTrip
  rcases roundTrip with ⟨decoded, decodes, _, samePayload⟩
  cases decodes
  exact absurd samePayload (by decide)

end MessageCodec

end MatterJs.Protocol
