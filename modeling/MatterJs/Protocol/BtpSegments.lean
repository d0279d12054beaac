import MatterJs.Protocol.BtpSessionHandler

/-! The segments a message is sent in, and what the other side puts together of them. -/

namespace MatterJs.Protocol

open General

/-- A message that has not been read to its end, and whose length fits its field. -/
structure IsUnsent (message : SignedReader) : Prop where
  nonneg : 0 ≤ message.offset
  left : message.offset < message.buffer.length
  fits : message.buffer.length < 256 ^ 2

namespace IsUnsent

variable {message : SignedReader}

theorem readByteArray_fst (unsent : IsUnsent message) (length : Nat) :
    (message.readByteArray length).1 =
      (message.buffer.drop message.offset.toNat).take length := by
  have offset := Int.toNat_of_nonneg unsent.nonneg
  have inside : message.offset.toNat ≤ message.buffer.length := by
    have := unsent.left
    omega
  have cut := SignedReader.subarray_ofNat message.buffer inside length
  rwa [offset] at cut

theorem new {data : Bytes} (notEmpty : data ≠ []) (fits : data.length < 256 ^ 2) :
    IsUnsent (SignedReader.new data) where
  nonneg := Int.le_refl 0
  left := Int.natCast_pos.mpr (List.length_pos_iff.mpr notEmpty)
  fits := fits

end IsUnsent

theorem isBeginning_eq (message : SignedReader) :
    (message.remainingBytesCount == message.buffer.length) = decide (message.offset = 0) := by
  rw [SignedReader.remainingBytesCount, Bool.eq_iff_iff, beq_iff_eq, decide_eq_true_iff]
  omega

/-- What has been put together when the first of these messages is sent as far as it was read. -/
def assemblyOf (handled : List Bytes) : List SignedReader → SegmentAssembly
  | [] =>
    { currentIncomingSegmentedMsgLength := none
      currentIncomingSegmentedPayload := none
      handled }
  | message :: _ =>
    if message.offset = 0 then
      { currentIncomingSegmentedMsgLength := none
        currentIncomingSegmentedPayload := none
        handled }
    else
      { currentIncomingSegmentedMsgLength := some message.buffer.length
        currentIncomingSegmentedPayload := some (message.buffer.take message.offset.toNat)
        handled }

def BtpPacket.decoded (packet : BtpPacket) : DecodedBtpPacket where
  header := packet.header
  payload := packet.payload.decoded

namespace BtpSessionHandler

variable {parameters : BtpParameters} {session : BtpSessionHandler} {message : SignedReader}

theorem exists_segmentRoom (large : 6 ≤ parameters.fragmentSize) (message : SignedReader) :
    ∃ room : Nat, 0 < room ∧ session.segmentRoom parameters message = room ∧
      (btpHeaderLength (message.remainingBytesCount == message.buffer.length)
        session.hasAckNumber + room : Int) = parameters.fragmentSize := by
  have few : btpHeaderLength (message.remainingBytesCount == message.buffer.length)
      session.hasAckNumber ≤ 5 := by
    rw [btpHeaderLength]
    split <;> split <;> omega
  refine ⟨(session.segmentRoom parameters message).toNat, ?_, ?_, ?_⟩
  all_goals
    rw [segmentRoom]
    omega

theorem hasRoom (large : 6 ≤ parameters.fragmentSize) (unsent : IsUnsent message) :
    session.HasRoom parameters message := by
  rcases @exists_segmentRoom parameters session large message with ⟨room, positive, isRoom, _⟩
  have left := unsent.left
  have nonneg := unsent.nonneg
  rw [HasRoom, isRoom, unsent.readByteArray_fst, ← List.length_pos_iff, List.length_take,
    List.length_drop]
  omega

theorem addSegment_nextPacket {room : Nat} (positive : 0 < room)
    (isRoom : session.segmentRoom parameters message = room) (unsent : IsUnsent message)
    (handled : List Bytes) (later : List SignedReader) (sequenceNumber : Int) :
    (assemblyOf handled (message :: later)).addSegment
        (session.nextPacket parameters message sequenceNumber).decoded =
      .ok { currentIncomingSegmentedMsgLength := some message.buffer.length
            currentIncomingSegmentedPayload :=
              some (message.buffer.take (message.offset.toNat + room))
            handled } := by
  let packet := (session.nextPacket parameters message sequenceNumber).decoded
  have segment : packet.payload.segmentPayload =
      (message.buffer.drop message.offset.toNat).take room := by
    rw [← unsent.readByteArray_fst, ← isRoom]
    rfl
  have beginning : packet.header.isBeginningSegment = decide (message.offset = 0) :=
    isBeginning_eq message
  have continuing : packet.header.isContinuingSegment = !decide (message.offset = 0) :=
    congrArg (!·) (isBeginning_eq message)
  by_cases first : message.offset = 0
  · have length : packet.payload.messageLength = some message.buffer.length := by
      have remaining : message.remainingBytesCount.toNat = message.buffer.length := by
        rw [SignedReader.remainingBytesCount]
        omega
      rw [← remaining]
      exact if_pos (beginning.trans (decide_eq_true first))
    rw [assemblyOf, SegmentAssembly.addSegment]
    simp only [packet] at beginning length segment
    simp [beginning, length, segment, first]
  · have notEmpty : (message.buffer.drop message.offset.toNat).take room ≠ [] := by
      have left := unsent.left
      have nonneg := unsent.nonneg
      rw [← List.length_pos_iff, List.length_take, List.length_drop]
      omega
    rw [assemblyOf, SegmentAssembly.addSegment]
    simp only [packet] at beginning continuing segment
    simp [beginning, continuing, segment, first, notEmpty, List.take_add]

theorem receive_nextPacket (large : 6 ≤ parameters.fragmentSize) (unsent : IsUnsent message)
    (handled : List Bytes) (later : List SignedReader) (sequenceNumber : Int) :
    let read := (message.readByteArray (session.segmentRoom parameters message)).2
    let received := (assemblyOf handled (message :: later)).receive
      (session.nextPacket parameters message sequenceNumber).decoded
    read.buffer = message.buffer ∧
      if (session.nextHeader parameters message).isEndingSegment then
        received = .ok
          { currentIncomingSegmentedMsgLength := none
            currentIncomingSegmentedPayload := none
            handled := handled ++ [message.buffer] }
      else IsUnsent read ∧ received = .ok (assemblyOf handled (read :: later)) := by
  intro read received
  rcases @exists_segmentRoom parameters session large message with ⟨room, positive, isRoom, _⟩
  have added := addSegment_nextPacket positive isRoom unsent handled later sequenceNumber
  have readOffset : read.offset = min (message.offset + room) message.buffer.length := by
    simp only [read, isRoom]
    rfl
  have nonneg := unsent.nonneg
  have isEnding : (session.nextHeader parameters message).isEndingSegment =
      decide (message.buffer.length ≤ message.offset.toNat + room) := by
    simp only [nextHeader, isRoom, SignedReader.remainingBytesCount]
    rw [decide_eq_decide]
    omega
  refine ⟨rfl, ?_⟩
  simp only [received, SegmentAssembly.receive]
  rw [added]
  show if _ then SegmentAssembly.completeMessage _ _ = _
    else _ ∧ SegmentAssembly.completeMessage _ _ = _
  have ending : (session.nextPacket parameters message
      sequenceNumber).decoded.header.isEndingSegment = decide _ := isEnding
  rw [SegmentAssembly.completeMessage, ending, isEnding]
  by_cases last : message.buffer.length ≤ message.offset.toNat + room
  · simp [last]
  · have further : read.offset = message.offset + room := by omega
    have notFirst : read.offset ≠ 0 := by omega
    have position : read.offset.toNat = message.offset.toNat + room := by omega
    have sameBuffer : read.buffer = message.buffer := rfl
    simp only [last, decide_false, Bool.false_eq_true, if_false, assemblyOf, if_neg notFirst,
      position, sameBuffer]
    refine ⟨⟨by omega, ?_, unsent.fits⟩, trivial⟩
    rw [sameBuffer]
    omega

/-! ## The packets -/

theorem nextPacket_fits (unsent : IsUnsent message)
    (isByte : session.prevIncomingSequenceNumber < 256) {sequenceNumber : Int}
    (nonneg : 0 ≤ sequenceNumber) (small : sequenceNumber < 256) :
    (session.nextPacket parameters message sequenceNumber).payload.Fits where
  ackNumber := by
    intro number isAck
    rcases Option.ite_none_right_eq_some.mp isAck with ⟨_, same⟩
    cases same
    exact isByte
  sequenceNumber_nonneg := nonneg
  sequenceNumber_lt := small
  messageLength := by
    intro length isLength
    rcases Option.ite_none_right_eq_some.mp isLength with ⟨_, same⟩
    cases same
    have := unsent.fits
    have := unsent.nonneg
    rw [SignedReader.remainingBytesCount]
    omega

theorem carries_nextPacket (large : 6 ≤ parameters.fragmentSize) (unsent : IsUnsent message)
    (isByte : session.prevIncomingSequenceNumber < 256) {sequenceNumber : Int}
    (nonneg : 0 ≤ sequenceNumber) (small : sequenceNumber < 256) {data : Bytes}
    (encoded : BtpCodec.encodeBtpPacket (session.nextPacket parameters message sequenceNumber) =
      .ok data) :
    Carries parameters data (session.nextPacket parameters message sequenceNumber).decoded := by
  have room : session.HasRoom parameters message := hasRoom large unsent
  have coherent := nextPacket_coherent sequenceNumber room
  have fits := @nextPacket_fits parameters session message unsent isByte sequenceNumber nonneg small
  cases (BtpCodec.encodeBtpPacket_eq coherent fits).symm.trans encoded
  refine ⟨?_, BtpCodec.decodeBtpPacket_packetBytes coherent fits, ⟨rfl, rfl⟩,
    fun empty => absurd empty room⟩
  rcases @exists_segmentRoom parameters session large message with ⟨room, positive, isRoom, total⟩
  have segment : ((session.nextPacket parameters message
      sequenceNumber).payload.segmentPayload.getD []).length ≤ room := by
    have cut := unsent.readByteArray_fst room
    rw [← isRoom] at cut
    show (message.readByteArray (session.segmentRoom parameters message)).1.length ≤ room
    rw [cut]
    exact List.length_take_le _ _
  rw [BtpCodec.packetBytes_length, coherent.ackNumber, coherent.messageLength]
  rw [btpHeaderLength] at total
  have sameAck : (session.nextPacket parameters message sequenceNumber).header.hasAckNumber =
    session.hasAckNumber := rfl
  have sameBeginning : (session.nextPacket parameters message
      sequenceNumber).header.isBeginningSegment =
    (message.remainingBytesCount == message.buffer.length) := rfl
  rw [sameAck, sameBeginning]
  split_ifs at total ⊢ <;> omega

theorem carries_ackPacket (isByte : session.prevIncomingSequenceNumber < 256)
    {sequenceNumber : Int} (nonneg : 0 ≤ sequenceNumber) (small : sequenceNumber < 256)
    {data : Bytes}
    (encoded : BtpCodec.encodeBtpPacket (session.ackPacket sequenceNumber) = .ok data) :
    Carries parameters data (session.ackPacket sequenceNumber).decoded := by
  have coherent := @ackPacket_coherent session sequenceNumber
  have fits : (session.ackPacket sequenceNumber).payload.Fits := by
    refine ⟨?_, nonneg, small, nofun⟩
    intro number isAck
    cases isAck
    exact isByte
  cases (BtpCodec.encodeBtpPacket_eq coherent fits).symm.trans encoded
  refine ⟨?_, BtpCodec.decodeBtpPacket_packetBytes coherent fits, ⟨rfl, rfl⟩, fun _ => rfl⟩
  exact Nat.le_add_left 3 parameters.fragmentSize

theorem receive_ackPacket (assembly : SegmentAssembly) (sequenceNumber : Int) :
    assembly.receive (session.ackPacket sequenceNumber).decoded = .ok assembly := rfl

end BtpSessionHandler

end MatterJs.Protocol
