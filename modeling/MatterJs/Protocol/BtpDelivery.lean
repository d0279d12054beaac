import MatterJs.Protocol.BtpLink

/-! What the receiving side hands to its callback, over every order of writes, deliveries and
timers. -/

namespace MatterJs.Protocol

open General SerialNumbers Execution BtpSessionHandler BtpSessionHandler

variable {parameters : BtpLinkParameters} {messages : List Bytes} {link : BtpLink}
  {outgoing acks : List DecodedBtpPacket}

theorem assemblyOf_append_new (handled : List Bytes) (queue : List SignedReader) (data : Bytes) :
    assemblyOf handled (queue ++ [SignedReader.new data]) = assemblyOf handled queue := by
  cases queue with
  | nil => rfl
  | cons message later => rfl

variable {message : SignedReader}

theorem WellQueued.append {queue : List SignedReader} (wellQueued : WellQueued queue)
    (unsent : IsUnsent message) (isNew : message.offset = 0) : WellQueued (queue ++ [message]) := by
  cases queue with
  | nil => exact ⟨unsent, nofun⟩
  | cons first later =>
    refine ⟨wellQueued.1, fun other member => ?_⟩
    rcases List.mem_append.mp member with before | last
    · exact wellQueued.2 other before
    · cases List.mem_singleton.mp last
      exact ⟨unsent, isNew⟩

theorem WellQueued.tail {later : List SignedReader} (wellQueued : WellQueued (message :: later)) :
    WellQueued later := by
  cases later with
  | nil => trivial
  | cons next rest =>
    exact ⟨(wellQueued.2 next (List.mem_cons_self ..)).1,
      fun other member => wellQueued.2 other (List.mem_cons_of_mem _ member)⟩

/-- Messages of which nothing was sent leave nothing to put together. -/
theorem assemblyOf_tail {later : List SignedReader} (wellQueued : WellQueued (message :: later))
    (handled : List Bytes) :
    assemblyOf handled later =
      { currentIncomingSegmentedMsgLength := none
        currentIncomingSegmentedPayload := none
        handled } := by
  cases later with
  | nil => rfl
  | cons next rest => exact if_pos (wellQueued.2 next (List.mem_cons_self ..)).2

namespace Connected

variable {next : BtpSessionHandler}

/-- The sending side changes, and what it has to send. -/
theorem withQueue (connected : Connected parameters messages link outgoing acks)
    {others : List Bytes} (window : next.window = link.sender.window)
    (incoming : next.prevIncomingSequenceNumber = link.sender.prevIncomingSequenceNumber)
    (isActive : next.isActive = link.sender.isActive) (wellQueued : WellQueued next.unsent)
    (assembled : ∃ handled,
      outgoing.foldlM SegmentAssembly.receive link.receiver.assembly =
      .ok (assemblyOf handled next.unsent) ∧ handled ++ next.unsent.map (·.buffer) = others) :
    Connected parameters others { link with sender := next } outgoing acks := by
  rcases connected with ⟨senderActive, receiverActive, carried, acksCarried, numbered,
    acksNumbered, withoutSegments, isLastAck, acknowledging, _, _⟩
  rw [← window] at numbered isLastAck acknowledging
  rw [← incoming] at acksNumbered
  rw [← isActive] at senderActive
  exact ⟨senderActive, receiverActive, carried, acksCarried, numbered, acksNumbered,
    withoutSegments, isLastAck, acknowledging, wellQueued, assembled⟩

theorem withSender (connected : Connected parameters messages link outgoing acks)
    (window : next.window = link.sender.window)
    (incoming : next.prevIncomingSequenceNumber = link.sender.prevIncomingSequenceNumber)
    (isActive : next.isActive = link.sender.isActive) (unsent : next.unsent = link.sender.unsent) :
    Connected parameters messages { link with sender := next } outgoing acks := by
  apply connected.withQueue window incoming isActive
  · rw [unsent]
    exact connected.wellQueued
  · rw [unsent]
    exact connected.assembled

theorem sends (connected : Connected parameters messages link outgoing acks) {data : Bytes}
    {packet : DecodedBtpPacket} (carries : Carries parameters.receiver data packet)
    (number : packet.payload.sequenceNumber =
      (getNextSequenceNumber link.sender.window.sequenceNumber).toNat)
    (window : next.window = link.sender.window.numberTaken.sent)
    (incoming : next.prevIncomingSequenceNumber = link.sender.prevIncomingSequenceNumber)
    (isActive : next.isActive = link.sender.isActive) (wellQueued : WellQueued next.unsent)
    (assembled : ∀ handled, handled ++ link.sender.unsent.map (·.buffer) = messages →
      ∃ more, (assemblyOf handled link.sender.unsent).receive packet =
      .ok (assemblyOf more next.unsent) ∧ more ++ next.unsent.map (·.buffer) = messages) :
    Connected parameters messages
      { link with sender := next, toReceiver := link.toReceiver ++ [data] }
      (outgoing ++ [packet]) acks where
  senderActive := isActive.trans connected.senderActive
  receiverActive := connected.receiverActive
  carried := List.rel_append connected.carried (.cons carries .nil)
  acksCarried := connected.acksCarried
  numbered := by
    rw [window]
    exact connected.numbered.sent number
  acksNumbered := by
    rw [incoming]
    exact connected.acksNumbered
  withoutSegments := connected.withoutSegments
  isLastAck := by
    rw [window]
    exact connected.isLastAck
  acknowledging := connected.acknowledging.imp_right (Or.imp_right fun nothing =>
    ⟨nothing.1, .inl (by simp)⟩)
  wellQueued := wellQueued
  assembled := by
    rcases connected.assembled with ⟨handled, received, total⟩
    rcases assembled handled total with ⟨more, receives, moreTotal⟩
    refine ⟨more, ?_, moreTotal⟩
    rw [List.foldlM_append, received]
    show [packet].foldlM SegmentAssembly.receive (assemblyOf handled link.sender.unsent) = _
    rw [List.foldlM_cons, receives]
    rfl

end Connected

/-! ## The send loop -/

theorem Connected.sendSegment (large : 6 ≤ parameters.fragmentSize)
    (connected : Connected parameters messages link outgoing acks)
    (notPending : link.sender.pendingSegment = none) :
    let next := link.sender.sendSegment parameters.sender
    ∃ outgoing, Connected parameters messages
      { link with
        sender := next, toReceiver := link.toReceiver ++ BtpLink.emitted link.sender next }
      outgoing acks := by
  intro next
  have unsent : link.sender.unsent = link.sender.queuedOutgoingMatterMessages :=
    if_neg (by rw [notPending]; nofun)
  cases queue : link.sender.queuedOutgoingMatterMessages with
  | nil =>
    have same : next = { link.sender with sendInProgress := false } := sendSegment_of_empty queue
    refine ⟨outgoing, ?_⟩
    have nothing : BtpLink.emitted link.sender next = [] := by
      rw [same]
      exact List.drop_length
    rw [nothing, List.append_nil]
    exact connected.withSender (by rw [same]) (by rw [same]) (by rw [same]) (by rw [same]; rfl)
  | cons message later =>
    have wellQueued := connected.wellQueued
    rw [unsent, queue] at wellQueued
    have room : link.sender.HasRoom parameters.sender message := hasRoom large wellQueued.1
    rcases sendSegment_of_room queue room with ⟨data, encoded, same⟩
    have bounds := connected.numbered.next_bounds
    have carries := carries_nextPacket large wellQueued.1 connected.acksNumbered.isByte bounds.1
      bounds.2 encoded
    have isEmitted : BtpLink.emitted link.sender next = [data] := by
      rw [BtpLink.emitted, show next = _ from same]
      exact List.drop_left
    rw [isEmitted]
    let number := link.sender.window.numberTaken.sequenceNumber
    let packet := (link.sender.nextPacket parameters.sender message number).decoded
    have receives (handled : List Bytes) :=
      @receive_nextPacket parameters.sender link.sender message large wellQueued.1 handled later
        number
    have after : WellQueued next.unsent ∧
        ∀ handled, handled ++ link.sender.unsent.map (·.buffer) = messages →
          ∃ more, (assemblyOf handled link.sender.unsent).receive packet =
              .ok (assemblyOf more next.unsent) ∧
            more ++ next.unsent.map (·.buffer) = messages := by
      rw [unsent, queue]
      cases ending : (link.sender.nextHeader parameters.sender message).isEndingSegment with
      | true =>
        have nextUnsent : next.unsent = later := by
          rw [show next = _ from same, ending]
          rfl
        rw [nextUnsent]
        refine ⟨wellQueued.tail, fun handled total => ?_⟩
        have received := (receives handled).2
        rw [if_pos ending] at received
        refine ⟨handled ++ [message.buffer], ?_, ?_⟩
        · rw [assemblyOf_tail wellQueued]
          exact received
        · rw [← total]
          simp
      | false =>
        have nextUnsent : next.unsent = (message.readByteArray
            (link.sender.segmentRoom parameters.sender message)).2 :: later := by
          rw [show next = _ from same, ending]
          rfl
        have received (handled : List Bytes) := (receives handled).2
        simp only [ending] at received
        rw [nextUnsent]
        refine ⟨⟨(received []).1, wellQueued.2⟩, fun handled total => ?_⟩
        refine ⟨handled, (received handled).2, ?_⟩
        rw [← total, List.map_cons, List.map_cons, (receives handled).1]
    refine ⟨outgoing ++ [packet], connected.sends
      ⟨carries.short, carries.decoded, carries.plain, carries.nonempty⟩ rfl ?_ ?_ ?_
      after.1 after.2⟩
    all_goals
      rw [show next = _ from same]
      rfl

/-- What holds between the steps of a run that was given `messages`. -/
structure Linked (parameters : BtpLinkParameters) (messages : List Bytes) (link : BtpLink) :
    Prop where
  connected : ∃ outgoing acks, Connected parameters messages link outgoing acks
  waits : link.sender.LoopWaits
  notStalled : ¬link.sender.Stalled
  noStall : link.sender.NoStall parameters.sender

theorem start_numbered (role : BtpRole) :
    Numbered (start role).window.sequenceNumber
      (start role.other).prevIncomingSequenceNumber [] := by
  cases role <;> exact ⟨by decide, by decide, by decide, rfl, rfl⟩

theorem start_linked (parameters : BtpLinkParameters) :
    Linked parameters [] (.start parameters) where
  connected := by
    have otherSide : parameters.senderRole.other.other = parameters.senderRole := by
      cases parameters.senderRole <;> rfl
    have acksNumbered := start_numbered parameters.senderRole.other
    rw [otherSide] at acksNumbered
    refine ⟨[], [], rfl, rfl, .nil, .nil, start_numbered parameters.senderRole, acksNumbered,
      nofun, ?_, ?_, trivial, [], rfl, rfl⟩
    · rw [BtpLink.start]
      cases parameters.senderRole <;> rfl
    · rw [BtpLink.start]
      cases parameters.senderRole with
      | central => exact .inr (.inr ⟨rfl, .inr rfl⟩)
      | peripheral => exact .inl rfl
  waits := start_loopWaits _
  notStalled := nofun
  noStall _ notEmpty := absurd rfl notEmpty

/-- A step of the sending side that gives nothing to the transport, and leaves what the other
side has to do with. -/
theorem Linked.onSender_of_quiet {event : BtpEvent} (linked : Linked parameters messages link)
    (window : (link.sender.step parameters.sender event).window = link.sender.window)
    (incoming : (link.sender.step parameters.sender event).prevIncomingSequenceNumber =
      link.sender.prevIncomingSequenceNumber)
    (isActive : (link.sender.step parameters.sender event).isActive = link.sender.isActive)
    (loop : SameLoop link.sender (link.sender.step parameters.sender event))
    (written : (link.sender.step parameters.sender event).written = link.sender.written) :
    Linked parameters messages (link.onSender parameters event) := by
  rcases linked with ⟨⟨outgoing, acks, connected⟩, waits, notStalled, noStall⟩
  have nothing : BtpLink.emitted link.sender (link.sender.step parameters.sender event) = [] := by
    rw [BtpLink.emitted, written, List.drop_length]
  have unsent : (link.sender.step parameters.sender event).unsent = link.sender.unsent := by
    rw [unsent, unsent, loop.queue, loop.pendingSegment]
  constructor
  · refine ⟨outgoing, acks, ?_⟩
    rw [BtpLink.onSender, nothing, List.append_nil]
    exact connected.withSender window incoming isActive unsent
  · exact waits.step event
  · exact fun stalled => notStalled ⟨loop.sendInProgress ▸ stalled.1,
    loop.pendingSegment ▸ stalled.2⟩
  · show BtpSessionHandler.NoStall _ (link.sender.step parameters.sender event)
    rw [NoStall, window, loop.queue, loop.pendingSegment]
    exact noStall

variable {session : BtpSessionHandler} {assembly next : SegmentAssembly} {packet : DecodedBtpPacket}

theorem sendSegment_notStalled {parameters : BtpParameters} (large : 6 ≤ parameters.fragmentSize)
    (wellQueued : WellQueued session.queuedOutgoingMatterMessages) :
    ¬(session.sendSegment parameters).Stalled := by
  cases queue : session.queuedOutgoingMatterMessages with
  | nil =>
    rw [sendSegment_of_empty queue]
    exact nofun
  | cons message later =>
    rw [queue] at wellQueued
    have room : session.HasRoom parameters message := hasRoom large wellQueued.1
    rcases sendSegment_of_room queue room with ⟨data, _, same⟩
    rw [same]
    exact nofun

theorem Linked.of_head (large : 6 ≤ parameters.fragmentSize) {before : List Bytes}
    (linked : Linked parameters before link) {event : BtpEvent} {head : BtpSessionHandler}
    (reached : link.sender.atLoopHead parameters.sender event = some head)
    (connected : Connected parameters messages { link with sender := head } outgoing acks)
    (written : head.written = link.sender.written) :
    Linked parameters messages (link.onSender parameters event) := by
  have atHead := linked.waits.atHead reached
  have unsent : head.unsent = head.queuedOutgoingMatterMessages :=
    if_neg (by rw [atHead.notPending]; nofun)
  have wellQueued : WellQueued head.queuedOutgoingMatterMessages := by
    rw [← unsent]
    exact connected.wellQueued
  have same := step_of_atLoopHead reached
  constructor
  · rcases connected.sendSegment large atHead.notPending with ⟨outgoing, sent⟩
    refine ⟨outgoing, acks, ?_⟩
    rw [BtpLink.onSender, same, BtpLink.emitted, ← written]
    exact sent
  · exact linked.waits.step event
  · rw [BtpLink.onSender, same]
    exact sendSegment_notStalled large wellQueued
  · refine (noStall_step_iff linked.waits linked.noStall).mpr ((keepsSending_of_head reached).mpr ?_)
    intro message isHead noRoom
    cases queue : head.queuedOutgoingMatterMessages with
    | nil =>
      rw [queue] at isHead
      cases isHead
    | cons first later =>
      rw [queue] at isHead wellQueued
      cases isHead
      have room : head.HasRoom parameters.sender message := hasRoom large wellQueued.1
      exact absurd room noRoom

theorem Connected.enqueue (connected : Connected parameters messages link outgoing acks)
    (waits : link.sender.LoopWaits) (message : MatterMessage) :
    Connected parameters (messages ++ [message.data])
      { link with sender := link.sender.enqueue message.data } outgoing acks := by
  have unsent : (link.sender.enqueue message.data).unsent =
      link.sender.unsent ++ [SignedReader.new message.data] := by
    rw [unsent, unsent]
    by_cases ending : link.sender.pendingSegment = some true
    · have queued := waits.queued (waits.sending (by rw [ending]; nofun))
      rw [if_pos (by exact ending), if_pos ending]
      exact List.tail_append_of_ne_nil queued
    · rw [if_neg (by exact ending), if_neg ending]
      rfl
  refine connected.withQueue ?_ ?_ ?_ ?_ ?_
  · rfl
  · rfl
  · rfl
  · rw [unsent]
    exact connected.wellQueued.append (.new message.notEmpty message.fits) rfl
  · rcases connected.assembled with ⟨handled, received, total⟩
    refine ⟨handled, ?_, ?_⟩
    · rw [unsent, assemblyOf_append_new]
      exact received
    · rw [unsent, List.map_append, ← List.append_assoc, total]
      rfl

theorem Linked.sendMatterMessage (large : 6 ≤ parameters.fragmentSize)
    (linked : Linked parameters messages link) (message : MatterMessage) :
    Linked parameters (messages ++ [message.data])
      (link.onSender parameters (.sendMatterMessage message.data)) := by
  rcases linked.connected with ⟨outgoing, acks, connected⟩
  have queued := connected.enqueue linked.waits message
  have active := connected.senderActive
  cases reached : link.sender.atLoopHead parameters.sender (.sendMatterMessage message.data) with
  | some head =>
    have same : head = { link.sender.enqueue message.data with sendInProgress := true } := by
      rcases Option.ite_none_right_eq_some.mp reached with ⟨_, same⟩
      exact (Option.some.inj same).symm
    have atHead : Connected parameters (messages ++ [message.data]) { link with sender := head }
        outgoing acks :=
      queued.withSender (by rw [same]) (by rw [same]) (by rw [same]) (by rw [same]; rfl)
    exact linked.of_head large reached atHead (by rw [same]; rfl)
  | none =>
    have waiting : link.sender.sendInProgress = true ∨
        link.sender.window.isFull parameters.sender.clientWindowSize = true := by
      by_contra neither
      rcases not_or.mp neither with ⟨idle, notFull⟩
      have head : link.sender.atLoopHead parameters.sender (.sendMatterMessage message.data) =
          some _ := if_pos ⟨active, message.notEmpty, idle, notFull⟩
      rw [reached] at head
      cases head
    have same : link.sender.step parameters.sender (.sendMatterMessage message.data) =
        link.sender.enqueue message.data := by
      rw [step_sendMatterMessage active message.notEmpty]
      rcases waiting with sending | isFull
      · exact if_pos sending
      · exact ite_eq_left_iff.mpr fun _ => if_pos isFull
    constructor
    · refine ⟨outgoing, acks, ?_⟩
      have nothing : BtpLink.emitted link.sender (link.sender.enqueue message.data) = [] :=
        List.drop_length
      rw [BtpLink.onSender, same, nothing, List.append_nil]
      exact queued
    · exact linked.waits.step (.sendMatterMessage message.data)
    · rw [BtpLink.onSender, same]
      exact linked.notStalled
    · exact (noStall_step_iff linked.waits linked.noStall).mpr
        ((keepsSending_of_noHead reached).mpr ⟨fun _ none => (by cases none),
          fun ends => (by cases ends),
          fun none => (by cases none)⟩)

theorem Linked.segmentWritten (large : 6 ≤ parameters.fragmentSize)
    (linked : Linked parameters messages link) :
    Linked parameters messages (link.onSender parameters .segmentWritten) := by
  rcases linked.connected with ⟨outgoing, acks, connected⟩
  cases pending : link.sender.pendingSegment with
  | none =>
    have same : link.sender.step parameters.sender .segmentWritten = link.sender := by
      rw [step, BtpSessionHandler.segmentWritten, pending]
    refine linked.onSender_of_quiet ?_ ?_ ?_ ?_ ?_
    all_goals rw [same]
    exact .refl
  | some isEndingSegment =>
    let after := link.sender.afterSegment parameters.sender isEndingSegment
    have unsent : after.unsent = link.sender.unsent := by
      rw [BtpSessionHandler.unsent, BtpSessionHandler.unsent, pending]
      cases isEndingSegment <;> rfl
    have continued : Connected parameters messages { link with sender := after } outgoing acks :=
      connected.withSender rfl rfl rfl unsent
    by_cases isFull : link.sender.window.isFull parameters.sender.clientWindowSize = true
    · have same : link.sender.step parameters.sender .segmentWritten =
          { after with sendInProgress := false } := by
        rw [step, BtpSessionHandler.segmentWritten, pending]
        exact if_pos isFull
      constructor
      · refine ⟨outgoing, acks, ?_⟩
        have nothing : BtpLink.emitted link.sender { after with sendInProgress := false } = [] :=
          List.drop_length
        rw [BtpLink.onSender, same, nothing, List.append_nil]
        exact continued.withSender rfl rfl rfl rfl
      · exact linked.waits.step .segmentWritten
      · rw [BtpLink.onSender, same]
        exact fun stalled => by cases stalled.1
      · exact (noStall_step_iff linked.waits linked.noStall).mpr
          ((keepsSending_of_noHead (noHead_of_isFull isFull)).mpr
            ⟨fun _ none => (by cases none), fun ends => (by cases ends),
          fun none => (by cases none)⟩)
    · have reached : link.sender.atLoopHead parameters.sender .segmentWritten = some after := by
        rw [atLoopHead, pending]
        exact if_neg isFull
      exact linked.of_head large reached continued rfl

/-! ## Packets without a segment -/

theorem step_ackWritten {parameters : BtpParameters} :
    ∃ pendingAcks ackReceiveTimer, session.step parameters .ackWritten =
      { session with pendingAcks, ackReceiveTimer } := by
  rw [step]
  split
  · exact ⟨session.pendingAcks, session.ackReceiveTimer, rfl⟩
  · exact ⟨_, _, rfl⟩

theorem Linked.senderAckWritten (linked : Linked parameters messages link) :
    Linked parameters messages (link.onSender parameters .ackWritten) := by
  rcases @step_ackWritten link.sender parameters.sender with ⟨pendingAcks, ackReceiveTimer, same⟩
  refine linked.onSender_of_quiet ?_ ?_ ?_ ?_ ?_
  all_goals rw [same]
  exact ⟨rfl, rfl, rfl⟩

theorem step_sendAckTimeout_cases {parameters : BtpParameters} :
    (¬session.SendsAck .sendAckTimeout ∧ session.step parameters .sendAckTimeout =
        { session with sendAckTimer := false }) ∨
    ∃ data, session.SendsAck .sendAckTimeout ∧
      BtpCodec.encodeBtpPacket (session.ackPacket session.window.numberTaken.sequenceNumber) =
        .ok data ∧
      session.step parameters .sendAckTimeout =
        { session with
          sendAckTimer := false
          window := session.window.numberTaken.sent
          prevAckedSequenceNumber := session.prevIncomingSequenceNumber
          pendingAcks := session.pendingAcks + 1
          written := session.written ++ [data] } := by
  by_cases sends : session.SendsAck .sendAckTimeout
  · have encoded := BtpCodec.encodeBtpPacket_of_coherent
      (@ackPacket_coherent session session.window.numberTaken.sequenceNumber)
    refine .inr ⟨_, sends, encoded, ?_⟩
    have sameEncoded : BtpCodec.encodeBtpPacket
        ({ session with sendAckTimer := false }.ackPacket
          session.window.numberTaken.sequenceNumber) = _ := encoded
    rw [step, if_pos sends.1, btpSendAckTimeoutTriggered, if_pos sends.2]
    simp only [sameEncoded]
    rfl
  · refine .inl ⟨sends, ?_⟩
    rw [step]
    split
    · rename_i running
      rw [btpSendAckTimeoutTriggered, if_neg fun pending => sends ⟨running, pending⟩]
    · rename_i stopped
      rw [← Bool.eq_false_of_not_eq_true stopped]

theorem Linked.senderAckTimeout (linked : Linked parameters messages link)
    (keeps : link.sender.KeepsSending parameters.sender .sendAckTimeout) :
    Linked parameters messages (link.onSender parameters .sendAckTimeout) := by
  rcases linked.connected with ⟨outgoing, acks, connected⟩
  rcases @step_sendAckTimeout_cases link.sender parameters.sender with
    ⟨_, same⟩ | ⟨data, _, encoded, same⟩
  · refine linked.onSender_of_quiet ?_ ?_ ?_ ?_ ?_
    all_goals rw [same]
    exact ⟨rfl, rfl, rfl⟩
  · have bounds := connected.numbered.next_bounds
    have carries : Carries parameters.receiver data
        (link.sender.ackPacket link.sender.window.numberTaken.sequenceNumber).decoded :=
      carries_ackPacket connected.acksNumbered.isByte bounds.1 bounds.2 encoded
    constructor
    · refine ⟨outgoing ++
        [(link.sender.ackPacket link.sender.window.numberTaken.sequenceNumber).decoded], acks, ?_⟩
      have isEmitted : BtpLink.emitted link.sender
          (link.sender.step parameters.sender .sendAckTimeout) = [data] := by
        rw [same]
        exact List.drop_left
      rw [BtpLink.onSender, isEmitted, same]
      exact connected.sends carries rfl rfl rfl rfl connected.wellQueued
        fun handled total => ⟨handled, receive_ackPacket _ _, total⟩
    · have waits : (link.sender.step parameters.sender .sendAckTimeout).LoopWaits :=
        linked.waits.step .sendAckTimeout
      exact waits
    · rw [BtpLink.onSender, same]
      exact linked.notStalled
    · exact (noStall_step_iff linked.waits linked.noStall).mpr keeps

theorem Linked.receiverAckWritten (linked : Linked parameters messages link) :
    Linked parameters messages (link.onReceiver parameters .ackWritten) := by
  rcases linked with ⟨⟨outgoing, acks, connected⟩, waits, notStalled, noStall⟩
  rcases @step_ackWritten link.receiver parameters.receiver with
    ⟨pendingAcks, ackReceiveTimer, same⟩
  refine ⟨⟨outgoing, acks, ?_⟩, waits, notStalled, noStall⟩
  have nothing : BtpLink.emitted link.receiver
      { link.receiver with pendingAcks, ackReceiveTimer } = [] := List.drop_length
  rw [BtpLink.onReceiver, same, nothing, List.append_nil]
  exact ⟨connected.senderActive, connected.receiverActive, connected.carried,
    connected.acksCarried, connected.numbered, connected.acksNumbered, connected.withoutSegments,
    connected.isLastAck, connected.acknowledging, connected.wellQueued, connected.assembled⟩

theorem lastAck_append (prev : Int) (packets : List DecodedBtpPacket) {sequenceNumber : Int} :
    lastAck prev (packets ++ [(session.ackPacket sequenceNumber).decoded]) =
      session.prevIncomingSequenceNumber := by
  rw [lastAck, List.foldl_append]
  rfl

theorem Linked.receiverAckTimeout (linked : Linked parameters messages link)
    (inOrder : link.receiver.sendAckTimer = true →
      link.receiver.prevAckedSequenceNumber ≤ link.receiver.prevIncomingSequenceNumber) :
    Linked parameters messages (link.onReceiver parameters .sendAckTimeout) := by
  rcases linked with ⟨⟨outgoing, acks, connected⟩, waits, notStalled, noStall⟩
  rcases @step_sendAckTimeout_cases link.receiver parameters.receiver with
    ⟨nothingPending, same⟩ | ⟨data, _, encoded, same⟩
  · refine ⟨⟨outgoing, acks, ?_⟩, waits, notStalled, noStall⟩
    have nothing : BtpLink.emitted link.receiver
        { link.receiver with sendAckTimer := false } = [] := List.drop_length
    rw [BtpLink.onReceiver, same, nothing, List.append_nil]
    refine ⟨connected.senderActive, connected.receiverActive, connected.carried,
      connected.acksCarried, connected.numbered, connected.acksNumbered,
      connected.withoutSegments, connected.isLastAck, .inr ?_, connected.wellQueued,
      connected.assembled⟩
    rcases connected.acknowledging with running | others
    · have notLess : ¬link.receiver.prevAckedSequenceNumber <
          link.receiver.prevIncomingSequenceNumber := fun pending =>
        nothingPending ⟨running, pending⟩
      have ordered := inOrder running
      have equal : (link.receiver.prevIncomingSequenceNumber : Int) =
          link.receiver.prevAckedSequenceNumber := by omega
      exact .inl equal
    · exact others
  · have bounds := connected.acksNumbered.next_bounds
    have carries : Carries parameters.sender data
        (link.receiver.ackPacket link.receiver.window.numberTaken.sequenceNumber).decoded :=
      carries_ackPacket connected.numbered.isByte bounds.1 bounds.2 encoded
    have isEmitted : BtpLink.emitted link.receiver
        (link.receiver.step parameters.receiver .sendAckTimeout) = [data] := by
      rw [same]
      exact List.drop_left
    refine ⟨⟨outgoing, acks ++
      [(link.receiver.ackPacket link.receiver.window.numberTaken.sequenceNumber).decoded], ?_⟩,
      waits, notStalled, noStall⟩
    rw [BtpLink.onReceiver, isEmitted, same]
    refine ⟨connected.senderActive, connected.receiverActive, connected.carried,
      List.rel_append connected.acksCarried (.cons carries .nil), connected.numbered,
      connected.acksNumbered.sent rfl, ?_, lastAck_append _ _, .inr (.inl rfl),
      connected.wellQueued, connected.assembled⟩
    intro packet member assembly
    rcases List.mem_append.mp member with before | last
    · exact connected.withoutSegments packet before assembly
    · cases List.mem_singleton.mp last
      exact receive_ackPacket assembly _

/-! ## Deliveries -/

theorem elim_acknowledge_sequenceNumber (window : SendWindow) (ackNumber : Option Nat) :
    (ackNumber.elim window window.acknowledge).sequenceNumber = window.sequenceNumber := by
  cases ackNumber <;> rfl

theorem elim_acknowledge_prevIncomingAckNumber (window : SendWindow) (ackNumber : Option Nat) :
    (ackNumber.elim window window.acknowledge).prevIncomingAckNumber =
      ackNumber.elim window.prevIncomingAckNumber Nat.cast := by
  cases ackNumber <;> rfl

theorem Connected.receives (connected : Connected parameters messages link outgoing acks)
    {data : Bytes} {later : List Bytes} (arrives : link.toReceiver = data :: later)
    (accepts : BtpLink.AcceptsAck parameters.receiver link.receiver data) :
    let next := link.receiver.step parameters.receiver (.handleIncomingBleData data)
    next.written = link.receiver.written ∧
      ∃ outgoing, Connected parameters messages
        { link with receiver := next, toReceiver := later } outgoing acks := by
  intro next
  rcases connected with ⟨senderActive, receiverActive, carried, acksCarried, numbered,
    acksNumbered, withoutSegments, isLastAck, acknowledging, wellQueued, handled, assembled, total⟩
  rw [arrives] at carried
  cases carried with
  | @cons _ packet _ packets carries carried =>
    rcases numbered.delivered with ⟨inOrder, numbered⟩
    rw [List.foldlM_cons] at assembled
    cases received : link.receiver.assembly.receive packet with
    | error error =>
      rw [received] at assembled
      cases assembled
    | ok assembly =>
      rw [received] at assembled
      rcases handleIncomingBleData_of_accepted receiverActive ⟨carries, inOrder⟩
        (accepts packet carries.decoded) received with ⟨ackReceiveTimer, same⟩
      have same : next = _ := same
      rw [same]
      refine ⟨rfl, packets, senderActive, receiverActive, carried, acksCarried, numbered, ?_,
        withoutSegments, isLastAck, .inl rfl, wellQueued, handled, assembled, total⟩
      rw [← elim_acknowledge_sequenceNumber link.receiver.window packet.payload.ackNumber]
        at acksNumbered
      exact acksNumbered

theorem Linked.deliverToReceiver (linked : Linked parameters messages link)
    (unhindered : link.Unhindered parameters .deliverToReceiver) :
    Linked parameters messages (link.step parameters .deliverToReceiver) := by
  rcases linked with ⟨⟨outgoing, acks, connected⟩, waits, notStalled, noStall⟩
  rw [BtpLink.step]
  cases arrives : link.toReceiver with
  | nil => exact ⟨⟨outgoing, acks, connected⟩, waits, notStalled, noStall⟩
  | cons data later =>
    rcases connected.receives arrives (unhindered data (by rw [arrives]; rfl)) with
      ⟨written, others, connected⟩
    refine ⟨⟨others, acks, ?_⟩, waits, notStalled, noStall⟩
    have nothing : BtpLink.emitted link.receiver
        (link.receiver.step parameters.receiver (.handleIncomingBleData data)) = [] := by
      rw [BtpLink.emitted, written, List.drop_length]
    dsimp only
    rw [BtpLink.onReceiver, nothing, List.append_nil]
    exact connected

theorem Connected.takesAck (connected : Connected parameters messages link outgoing acks)
    {data : Bytes} {later : List Bytes} (arrives : link.toSender = data :: later)
    (accepts : BtpLink.AcceptsAck parameters.sender link.sender data) :
    let next := link.sender.step parameters.sender (.handleIncomingBleData data)
    next.written = link.sender.written ∧ SameLoop link.sender next ∧
      ∃ acks, Connected parameters messages
        { link with sender := next, toSender := later } outgoing acks := by
  intro next
  rcases connected with ⟨senderActive, receiverActive, carried, acksCarried, numbered,
    acksNumbered, withoutSegments, isLastAck, acknowledging, wellQueued, assembled⟩
  rw [arrives] at acksCarried
  cases acksCarried with
  | @cons _ packet _ packets carries acksCarried =>
    rcases acksNumbered.delivered with ⟨inOrder, acksNumbered⟩
    have received := withoutSegments packet (List.mem_cons_self ..) link.sender.assembly
    rcases handleIncomingBleData_of_accepted senderActive ⟨carries, inOrder⟩
      (accepts packet carries.decoded) received with ⟨ackReceiveTimer, same⟩
    have same : next = _ := same
    rw [same]
    have others : ∀ other ∈ packets, ∀ assembly : SegmentAssembly,
        assembly.receive other = .ok assembly := fun other member =>
      withoutSegments other (List.mem_cons_of_mem packet member)
    rw [← elim_acknowledge_sequenceNumber link.sender.window packet.payload.ackNumber]
      at numbered acknowledging
    rw [lastAck, List.foldl_cons, ← elim_acknowledge_prevIncomingAckNumber] at isLastAck
    exact ⟨rfl, ⟨rfl, rfl, rfl⟩, packets, senderActive, receiverActive, carried, acksCarried,
      numbered, acksNumbered, others, isLastAck, acknowledging, wellQueued, assembled⟩

theorem Linked.deliverToSender (linked : Linked parameters messages link)
    (unhindered : link.Unhindered parameters .deliverToSender) :
    Linked parameters messages (link.step parameters .deliverToSender) := by
  rcases linked with ⟨⟨outgoing, acks, connected⟩, waits, notStalled, noStall⟩
  rw [BtpLink.step]
  cases arrives : link.toSender with
  | nil => exact ⟨⟨outgoing, acks, connected⟩, waits, notStalled, noStall⟩
  | cons data later =>
    rcases unhindered data (by rw [arrives]; rfl) with ⟨accepts, keeps⟩
    rcases connected.takesAck arrives accepts with ⟨written, loop, others, connected⟩
    constructor
    · refine ⟨outgoing, others, ?_⟩
      have nothing : BtpLink.emitted link.sender
          (link.sender.step parameters.sender (.handleIncomingBleData data)) = [] := by
        rw [BtpLink.emitted, written, List.drop_length]
      dsimp only
      rw [BtpLink.onSender, nothing, List.append_nil]
      exact connected
    · exact waits.step (.handleIncomingBleData data)
    · exact fun stalled =>
        notStalled ⟨loop.sendInProgress ▸ stalled.1, loop.pendingSegment ▸ stalled.2⟩
    · exact (noStall_step_iff waits noStall).mpr keeps

theorem Linked.step (large : 6 ≤ parameters.fragmentSize)
    (linked : Linked parameters messages link) {event : LinkEvent}
    (unhindered : link.Unhindered parameters event) :
    Linked parameters (messages ++ messagesOf [event]) (link.step parameters event) := by
  cases event with
  | sendMatterMessage message => exact linked.sendMatterMessage large message
  | _ =>
    rw [show messagesOf [_] = [] from rfl, List.append_nil]
    first
    | exact linked.segmentWritten large
    | exact linked.senderAckWritten
    | exact linked.senderAckTimeout unhindered
    | exact linked.receiverAckWritten
    | exact linked.receiverAckTimeout unhindered
    | exact linked.deliverToReceiver unhindered
    | exact linked.deliverToSender unhindered

theorem Linked.run (large : 6 ≤ parameters.fragmentSize)
    (linked : Linked parameters messages link) {events : List LinkEvent}
    (unhindered : Along (BtpLink.step parameters) (BtpLink.Unhindered parameters) link events) :
    Linked parameters (messages ++ messagesOf events)
      (Execution.run (BtpLink.step parameters) link events) := by
  induction events generalizing messages link with
  | nil =>
    rw [show messagesOf [] = [] from rfl, List.append_nil]
    exact linked
  | cons event events induction =>
    have rest := induction (linked.step large unhindered.1) unhindered.2
    rw [List.append_assoc, messagesOf, messagesOf, ← List.filterMap_append] at rest
    exact rest

/-! ## What the callback was given -/

theorem SegmentAssembly.addSegment_handled (added : assembly.addSegment packet = .ok next) :
    next.handled = assembly.handled := by
  rw [addSegment] at added
  split at added
  · split at added
    · cases added
    · cases added
      rfl
  · split at added
    · cases received : assembly.currentIncomingSegmentedPayload with
      | none =>
        rw [received] at added
        cases added
      | some payload =>
        rw [received] at added
        dsimp only at added
        split at added
        · cases added
        · cases added
          rfl
    · cases added
      rfl

theorem SegmentAssembly.completeMessage_handled
    (completed : assembly.completeMessage packet = .ok next) :
    assembly.handled <+: next.handled := by
  rw [completeMessage] at completed
  split at completed
  · split at completed
    · split at completed
      · cases completed
      · cases completed
        exact List.prefix_append _ _
    · cases completed
  · cases completed
    exact List.prefix_rfl

/-- The callback is not given a message back. -/
theorem SegmentAssembly.receive_handled (received : assembly.receive packet = .ok next) :
    assembly.handled <+: next.handled := by
  rw [receive] at received
  cases added : assembly.addSegment packet with
  | error error =>
    rw [added] at received
    cases received
  | ok between =>
    rw [added] at received
    rw [← addSegment_handled added]
    exact completeMessage_handled received

theorem SegmentAssembly.foldlM_receive_handled {final : SegmentAssembly}
    {packets : List DecodedBtpPacket}
    (received : packets.foldlM SegmentAssembly.receive assembly = .ok final) :
    assembly.handled <+: final.handled := by
  induction packets generalizing assembly with
  | nil =>
    cases received
    exact List.prefix_rfl
  | cons packet packets induction =>
    rw [List.foldlM_cons] at received
    cases first : assembly.receive packet with
    | error error =>
      rw [first] at received
      cases received
    | ok next =>
      rw [first] at received
      exact (receive_handled first).trans (induction received)

theorem assemblyOf_handled (handled : List Bytes) (queue : List SignedReader) :
    (assemblyOf handled queue).handled = handled := by
  cases queue with
  | nil => rfl
  | cons message later =>
    rw [assemblyOf]
    split <;> rfl

theorem Linked.handled_prefix (linked : Linked parameters messages link) :
    link.receiver.assembly.handled <+: messages := by
  rcases linked.connected with ⟨outgoing, acks, connected⟩
  rcases connected.assembled with ⟨handled, received, total⟩
  have sofar := SegmentAssembly.foldlM_receive_handled received
  rw [assemblyOf_handled] at sofar
  rw [← total]
  exact sofar.trans (List.prefix_append _ _)

/-- When nothing is under way and nothing is pending, everything is acknowledged. -/
theorem Connected.notFull (connected : Connected parameters messages link outgoing acks)
    (positive : 0 < parameters.clientWindowSize.toNat) (quiescent : link.Quiescent) :
    ¬link.sender.window.isFull parameters.clientWindowSize = true := by
  rcases connected with ⟨_, _, carried, acksCarried, numbered, _, _, isLastAck, acknowledging, _, _⟩
  rw [quiescent.delivered] at carried
  rw [quiescent.acknowledged] at acksCarried
  cases carried
  cases acksCarried
  rcases numbered with ⟨ge, le, isByte, _, last⟩
  have isLastAck : link.sender.window.prevIncomingAckNumber =
      link.receiver.prevAckedSequenceNumber := isLastAck
  have last : (link.sender.window.sequenceNumber + 1) % 256 =
      (link.receiver.prevIncomingSequenceNumber + 1 : Int) % 256 := last
  have acknowledged : link.receiver.prevAckedSequenceNumber =
        link.receiver.prevIncomingSequenceNumber ∨
      link.receiver.prevAckedSequenceNumber = -1 ∧ link.sender.window.sequenceNumber = -1 := by
    rcases acknowledging with running | acknowledged | ⟨nothing, underWay | initial⟩
    · rw [quiescent.noAckPending] at running
      cases running
    · exact .inl acknowledged.symm
    · exact absurd quiescent.delivered underWay
    · exact .inr ⟨nothing, initial⟩
  rw [SendWindow.isFull, SendWindow.exceedsWindowSize_iff (by omega) ge]
  split_ifs <;> omega

theorem Linked.handled_of_quiescent (linked : Linked parameters messages link)
    (positive : 0 < parameters.clientWindowSize.toNat) (quiescent : link.Quiescent) :
    link.receiver.assembly.handled = messages := by
  rcases linked.connected with ⟨outgoing, acks, connected⟩
  have notFull := connected.notFull positive quiescent
  have empty : link.sender.queuedOutgoingMatterMessages = [] := by
    by_contra notEmpty
    exact notFull (linked.noStall quiescent.written notEmpty)
  have unsent : link.sender.unsent = [] := by
    rw [unsent, if_neg (by rw [quiescent.written]; nofun), empty]
  have carried := connected.carried
  rw [quiescent.delivered] at carried
  cases carried
  rcases connected.assembled with ⟨handled, received, total⟩
  rw [unsent] at received total
  have same : link.receiver.assembly = assemblyOf handled [] := Except.ok.inj received
  rw [same, ← total]
  exact (List.append_nil handled).symm

namespace BtpLink

/-- In every run that is not hindered, the callback is given the messages whole and in order,
and all of them once nothing is under way. -/
theorem run_delivers (parameters : BtpLinkParameters) (large : 6 ≤ parameters.fragmentSize)
    (positive : 0 < parameters.clientWindowSize.toNat) (events : List LinkEvent)
    (unhindered : Along (step parameters) (Unhindered parameters) (start parameters) events) :
    let link := run (step parameters) (start parameters) events
    link.receiver.assembly.handled <+: messagesOf events ∧
      (link.Quiescent → link.receiver.assembly.handled = messagesOf events) := by
  have linked := (start_linked parameters).run large unhindered
  exact ⟨linked.handled_prefix, linked.handled_of_quiescent positive⟩

/-- Segments of a few bytes, two packets at a time. -/
def smallSegments : BtpLinkParameters where
  senderRole := .central
  fragmentSize := 6
  clientWindowSize := 2

def twoSegments : List LinkEvent :=
  [.sendMatterMessage ⟨[1, 2, 3], by decide, by decide⟩, .deliverToReceiver,
    .receiverAckTimeout, .deliverToSender, .segmentWritten, .deliverToReceiver,
    .segmentWritten, .receiverAckTimeout, .deliverToSender]

theorem acceptsAck_of_head {parameters : BtpParameters} {session : BtpSessionHandler}
    {underWay : List Bytes} (first : Bytes) (isFirst : underWay.head? = some first)
    (accepted : (BtpCodec.decodeBtpPacket first).toOption.all (fun packet =>
      packet.payload.ackNumber.all (session.window.accepts parameters.clientWindowSize)) = true) :
    ∀ data, underWay.head? = some data → AcceptsAck parameters session data := by
  intro data isHead packet decoded ackNumber isAck
  cases Option.some.inj (isFirst.symm.trans isHead)
  rw [decoded] at accepted
  simpa [Except.toOption, isAck] using accepted

theorem keepsSending_of_notWaiting {parameters : BtpParameters} {session : BtpSessionHandler}
    (notWaiting : ¬(session.pendingSegment = none ∧ session.queuedOutgoingMatterMessages ≠ []))
    (data : Bytes) : session.KeepsSending parameters (.handleIncomingBleData data) :=
  (keepsSending_of_noHead rfl).mpr ⟨fun _ _ waiting => absurd waiting notWaiting, nofun, nofun⟩

theorem run_delivers_twoSegments :
    (run (step smallSegments) (start smallSegments) twoSegments).receiver.assembly.handled =
      messagesOf twoSegments := by
  refine (run_delivers smallSegments (by decide) (by decide) twoSegments ?_).2
    ⟨by decide, by decide, by decide, by decide⟩
  refine ⟨trivial, ?_, fun _ => by decide, fun data isHead => ⟨?_, ?_⟩, trivial, ?_, trivial,
    fun _ => by decide, fun data isHead => ⟨?_, ?_⟩, trivial⟩
  · exact acceptsAck_of_head [9, 0, 0, 3, 0, 1] (by decide) (by decide)
  · exact acceptsAck_of_head [8, 0, 1] (by decide) (by decide) data isHead
  · exact keepsSending_of_notWaiting (by decide) data
  · exact acceptsAck_of_head [14, 1, 1, 2, 3] (by decide) (by decide)
  · exact acceptsAck_of_head [8, 1, 2] (by decide) (by decide) data isHead
  · exact keepsSending_of_notWaiting (by decide) data

/-- A message in more segments than there is room for before an acknowledgement. -/
def manySegments : List LinkEvent :=
  [.sendMatterMessage ⟨[1, 2, 3, 4, 5, 6, 7, 8, 9], by decide, by decide⟩, .deliverToReceiver,
    .segmentWritten, .receiverAckTimeout, .segmentWritten, .deliverToReceiver,
    .deliverToSender, .receiverAckTimeout, .deliverToSender]

theorem manySegments_undelivered :
    let link := run (step smallSegments) (start smallSegments) manySegments
    link.Quiescent ∧ link.receiver.assembly.handled ≠ messagesOf manySegments := by
  exact ⟨⟨by decide, by decide, by decide, by decide⟩, by decide⟩

end BtpLink

end MatterJs.Protocol
