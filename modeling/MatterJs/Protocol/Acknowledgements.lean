import MatterJs.Protocol.MessageExchange

/-! Which messages an exchange may acknowledge, now or later, and what every
operation adds to them. -/

namespace MatterJs.Protocol

open General

/-- If the message acknowledges another one, then one of `allowed`. -/
def Message.AcksOnly (allowed : Nat → Prop) (message : Message) : Prop :=
  ∀ messageId ∈ message.payloadHeader.ackedMessageId, allowed messageId

def Suspended.AcksOnly (allowed : Nat → Prop) : Suspended → Prop
  | .messageCounter call => ∀ messageId ∈ call.ackedMessageId, allowed messageId
  | .channel _ _ => True
  | .ack _ _ => True
  | .resubmission message _ => message.AcksOnly allowed

namespace MessageExchange

/-- Everything the exchange acknowledged, or still holds an acknowledgement
for, is one of `allowed`. -/
structure AcksOnly (allowed : Nat → Prop) (exchange : MessageExchange) : Prop where
  received : ∀ message ∈ exchange.receivedMessageToAck, allowed message.packetHeader.messageId
  waiting : ∀ message ∈ exchange.sentMessageToAck, message.AcksOnly allowed
  timers : ∀ message ∈ exchange.retransmissionTimers.map (·.message), message.AcksOnly allowed
  suspended : ∀ call ∈ exchange.suspended, call.AcksOnly allowed
  sent : ∀ message ∈ exchange.sent, message.AcksOnly allowed

theorem AcksOnly.none_pending {allowed : Nat → Prop} :
    ∀ message ∈ (none : Option Message), allowed message.packetHeader.messageId := by
  intro message isMessage
  cases isMessage

theorem AcksOnly.mono {allowed other : Nat → Prop} {exchange : MessageExchange}
    (weaker : ∀ messageId, allowed messageId → other messageId)
    (acks : AcksOnly allowed exchange) : AcksOnly other exchange := by
  refine ⟨?_, ?_, ?_, ?_, ?_⟩
  · intro message isMessage
    exact weaker _ (acks.received message isMessage)
  · intro message isMessage messageId isAcked
    exact weaker _ (acks.waiting message isMessage messageId isAcked)
  · intro message isMessage messageId isAcked
    exact weaker _ (acks.timers message isMessage messageId isAcked)
  · intro call isCall
    have callAcks := acks.suspended call isCall
    cases call with
    | messageCounter call => exact fun messageId isAcked => weaker _ (callAcks messageId isAcked)
    | channel call ackPromise => trivial
    | ack call ackPromise => trivial
    | resubmission message expectedProcessingTimeMs =>
      exact fun messageId isAcked => weaker _ (callAcks messageId isAcked)
  · intro message isMessage messageId isAcked
    exact weaker _ (acks.sent message isMessage messageId isAcked)

/-- An operation that neither holds new acknowledgements nor writes to the
queue. -/
structure Quiet (before after : MessageExchange) : Prop where
  acks : ∀ {allowed}, AcksOnly allowed before → AcksOnly allowed after
  written : after.messagesQueue.written = before.messagesQueue.written

namespace Quiet

/-- An operation on other fields. -/
theorem of_same {before after : MessageExchange}
    (received : after.receivedMessageToAck = before.receivedMessageToAck)
    (waiting : after.sentMessageToAck = before.sentMessageToAck)
    (timers : after.retransmissionTimers.map (·.message) =
      before.retransmissionTimers.map (·.message))
    (suspended : after.suspended = before.suspended) (sent : after.sent = before.sent)
    (written : after.messagesQueue.written = before.messagesQueue.written) :
    Quiet before after where
  acks acks :=
    ⟨received ▸ acks.received, waiting ▸ acks.waiting, timers ▸ acks.timers,
      suspended ▸ acks.suspended, sent ▸ acks.sent⟩
  written := written

theorem refl (exchange : MessageExchange) : Quiet exchange exchange := ⟨id, rfl⟩

theorem trans {first second third : MessageExchange} (firstQuiet : Quiet first second)
    (secondQuiet : Quiet second third) : Quiet first third :=
  ⟨fun acks => secondQuiet.acks (firstQuiet.acks acks),
    secondQuiet.written.trans firstQuiet.written⟩

end Quiet

variable (exchange : MessageExchange)

/-! ## Timers and closing -/

theorem map_message_modify (timers : List RetransmissionTimer) (index : Nat) (running : Bool) :
    (timers.modify index ({ · with running })).map (·.message) =
      timers.map (·.message) := by
  induction timers generalizing index with
  | nil => simp
  | cons timer timers induction =>
    cases index with
    | zero => simp
    | succ index => simp [induction]

theorem quiet_stopRetransmissionTimer : Quiet exchange exchange.stopRetransmissionTimer := by
  unfold stopRetransmissionTimer
  split
  · exact .of_same rfl rfl (map_message_modify _ _ false) rfl rfl rfl
  · exact Quiet.refl exchange

theorem quiet_startRetransmissionTimer :
    Quiet exchange exchange.startRetransmissionTimer := by
  unfold startRetransmissionTimer
  split
  · exact .of_same rfl rfl (map_message_modify _ _ true) rfl rfl rfl
  · exact Quiet.refl exchange

theorem quiet_stopCloseTimer : Quiet exchange exchange.stopCloseTimer := by
  unfold stopCloseTimer
  split
  · exact .of_same rfl rfl rfl rfl rfl rfl
  · exact Quiet.refl exchange

theorem quiet_startCloseTimer : Quiet exchange exchange.startCloseTimer :=
  .of_same rfl rfl rfl rfl rfl rfl

theorem quiet_closeNow : Quiet exchange exchange.closeNow := by
  have closing : Quiet exchange { exchange with isClosing := true } :=
    .of_same rfl rfl rfl rfl rfl rfl
  have stopped := (closing.trans (quiet_stopRetransmissionTimer _)).trans (quiet_stopCloseTimer _)
  exact stopped.trans (.of_same rfl rfl rfl rfl rfl (DataReadQueue.written_close _))

theorem quiet_afterSend (after : AfterSend) : Quiet exchange (exchange.afterSend after) := by
  cases after with
  | nothing => exact Quiet.refl exchange
  | close => exact quiet_closeNow exchange
  | startCloseTimer => exact quiet_startCloseTimer exchange

theorem quiet_finish (call : SendCall) (outcome : Except MatterError Unit) :
    Quiet exchange (exchange.finish call outcome) := by
  have logged : Quiet exchange
      { exchange with finished := exchange.finished ++ [(call, outcome)] } :=
    .of_same rfl rfl rfl rfl rfl rfl
  exact logged.trans (quiet_afterSend _ call.after)

theorem quiet_settle (promise : Nat) (outcome : Except MatterError Message) :
    Quiet exchange (exchange.settle promise outcome) :=
  .of_same rfl rfl rfl rfl rfl rfl

theorem setRetransmissionTimer_acks {allowed : Nat → Prop} {timer : RetransmissionTimer}
    (held : timer.message.AcksOnly allowed) (acks : AcksOnly allowed exchange) :
    AcksOnly allowed (exchange.setRetransmissionTimer timer) := by
  refine ⟨acks.received, acks.waiting, ?_, acks.suspended, acks.sent⟩
  intro message member
  simp only [setRetransmissionTimer, List.map_append, List.map_cons, List.map_nil,
    List.mem_append, List.mem_singleton] at member
  rcases member with member | isTimer
  · exact acks.timers message member
  · rwa [isTimer]

theorem awaitMessageCounter_acks {allowed : Nat → Prop} (messageType : Nat)
    (payload : Bytes) (requiresAck : Option Bool) {options : ExchangeSendOptions}
    (after : AfterSend)
    (included : ∀ messageId ∈ options.includeAcknowledgeMessageId, allowed messageId)
    (acks : AcksOnly allowed exchange) :
    AcksOnly allowed
      (exchange.awaitMessageCounter messageType payload requiresAck options after) := by
  unfold awaitMessageCounter
  split
  · rename_i messageToAck _ _ pending
    have pendingAcks : ∀ messageId ∈ some messageToAck.packetHeader.messageId,
        allowed messageId := by
      intro messageId isPending
      cases isPending
      exact acks.received messageToAck pending
    exact ⟨AcksOnly.none_pending, acks.waiting, acks.timers,
      List.forall_mem_append.mpr
        ⟨acks.suspended, List.forall_mem_singleton.mpr pendingAcks⟩, acks.sent⟩
  · exact ⟨acks.received, acks.waiting, acks.timers,
      List.forall_mem_append.mpr ⟨acks.suspended, List.forall_mem_singleton.mpr included⟩,
      acks.sent⟩

theorem awaitMessageCounter_written (messageType : Nat) (payload : Bytes)
    (requiresAck : Option Bool) (options : ExchangeSendOptions) (after : AfterSend) :
    (exchange.awaitMessageCounter messageType payload requiresAck options
      after).messagesQueue.written = exchange.messagesQueue.written := by
  unfold awaitMessageCounter
  split <;> rfl

theorem send_cases (messageType : Nat) (payload : Bytes) (options : ExchangeSendOptions)
    (after : AfterSend) :
    (exchange.send messageType payload options after).1 = exchange ∨
      (exchange.send messageType payload options after).1 = exchange.afterSend after ∨
      (exchange.useMRP = false → options.includeAcknowledgeMessageId = none) ∧
        ∃ requiresAck, (exchange.send messageType payload options after).1 =
          exchange.awaitMessageCounter messageType payload requiresAck options after := by
  unfold send
  dsimp only
  generalize (if options.requiresAck = some true ∧ exchange.useMRP = false then some false
    else options.requiresAck) = requiresAck
  split
  · exact .inl rfl
  · rename_i notRefused
    split
    · exact .inr (.inl rfl)
    · split
      · exact .inl rfl
      · split
        · exact .inl rfl
        · refine .inr (.inr ⟨?_, requiresAck, rfl⟩)
          intro noMrp
          cases included : options.includeAcknowledgeMessageId with
          | none => rfl
          | some messageId => exact absurd ⟨noMrp, by simp [included]⟩ notRefused

theorem send_acks {allowed : Nat → Prop} (messageType : Nat) (payload : Bytes)
    {options : ExchangeSendOptions} (after : AfterSend)
    (included : exchange.useMRP = true →
      ∀ messageId ∈ options.includeAcknowledgeMessageId, allowed messageId)
    (acks : AcksOnly allowed exchange) :
    AcksOnly allowed (exchange.send messageType payload options after).1 := by
  rcases exchange.send_cases messageType payload options after with
    unchanged | given | ⟨noMrp, requiresAck, waits⟩
  · rwa [unchanged]
  · rw [given]
    exact (quiet_afterSend exchange after).acks acks
  · rw [waits]
    apply awaitMessageCounter_acks exchange _ _ _ _ _ acks
    intro messageId isIncluded
    cases mrp : exchange.useMRP with
    | true => exact included mrp messageId isIncluded
    | false =>
      rw [noMrp mrp] at isIncluded
      cases isIncluded

theorem send_written (messageType : Nat) (payload : Bytes) (options : ExchangeSendOptions)
    (after : AfterSend) :
    (exchange.send messageType payload options after).1.messagesQueue.written =
      exchange.messagesQueue.written := by
  rcases exchange.send_cases messageType payload options after with
    unchanged | given | ⟨_, requiresAck, waits⟩
  · rw [unchanged]
  · rw [given]
    exact (quiet_afterSend exchange after).written
  · rw [waits]
    exact awaitMessageCounter_written exchange _ _ _ _ _

theorem sendStandaloneAck_acks {allowed : Nat → Prop} (message : Message) (after : AfterSend)
    (asked : message.payloadHeader.requiresAck = true → exchange.useMRP = true →
      allowed message.packetHeader.messageId)
    (acks : AcksOnly allowed exchange) :
    AcksOnly allowed (exchange.sendStandaloneAckForMessage message after).1 := by
  unfold sendStandaloneAckForMessage
  split
  · exact (quiet_afterSend exchange after).acks acks
  · rename_i asks
    apply send_acks exchange _ _ _ _ acks
    intro mrp messageId isMessage
    cases isMessage
    apply asked _ mrp
    simpa [mrp] using asks

theorem sendStandaloneAck_written (message : Message) (after : AfterSend) :
    (exchange.sendStandaloneAckForMessage message after).1.messagesQueue.written =
      exchange.messagesQueue.written := by
  unfold sendStandaloneAckForMessage
  split
  · exact (quiet_afterSend exchange after).written
  · exact send_written exchange _ _ _ _

theorem quiet_sendStandaloneAck {message : Message} (after : AfterSend)
    (held : ∀ {allowed}, AcksOnly allowed exchange → allowed message.packetHeader.messageId) :
    Quiet exchange (exchange.sendStandaloneAckForMessage message after).1 where
  acks acks := sendStandaloneAck_acks exchange message after (fun _ _ => held acks) acks
  written := sendStandaloneAck_written exchange message after

theorem transmit_acks {allowed : Nat → Prop} {call : SendCall} (messageId : Nat)
    (held : ∀ acked ∈ call.ackedMessageId, allowed acked)
    (acks : AcksOnly allowed exchange) :
    AcksOnly allowed (exchange.transmit call messageId) := by
  have messageAcks : (exchange.messageOf call messageId).AcksOnly allowed := held
  have sentAcks : ∀ message ∈ exchange.sent ++ [exchange.messageOf call messageId],
      message.AcksOnly allowed :=
    List.forall_mem_append.mpr ⟨acks.sent, List.forall_mem_singleton.mpr messageAcks⟩
  have suspendedAcks (ackPromise : Option Nat) :
      ∀ other ∈ exchange.suspended ++ [.channel call ackPromise],
        other.AcksOnly allowed :=
    List.forall_mem_append.mpr ⟨acks.suspended, List.forall_mem_singleton.mpr trivial⟩
  unfold transmit
  dsimp only
  split
  · refine ⟨acks.received, ?_, ?_, suspendedAcks _, sentAcks⟩
    · intro message isMessage
      cases isMessage
      exact messageAcks
    · exact (setRetransmissionTimer_acks exchange messageAcks acks).timers
  · exact ⟨acks.received, acks.waiting, acks.timers, suspendedAcks none, sentAcks⟩

theorem transmit_written (call : SendCall) (messageId : Nat) :
    (exchange.transmit call messageId).messagesQueue.written =
      exchange.messagesQueue.written := by
  unfold transmit
  dsimp only
  split <;> rfl

theorem quiet_awaitAck (call : SendCall) (ackPromise : Option Nat) :
    Quiet exchange (exchange.awaitAck call ackPromise) := by
  cases ackPromise with
  | none => exact quiet_finish exchange call (.ok ())
  | some ackPromise =>
    have reset : Quiet exchange { exchange with retransmissionCounter := 0 } :=
      .of_same rfl rfl rfl rfl rfl rfl
    refine (reset.trans (quiet_startRetransmissionTimer _)).trans ⟨?_, rfl⟩
    intro allowed acks
    exact ⟨acks.received, acks.waiting, acks.timers,
      List.forall_mem_append.mpr ⟨acks.suspended, List.forall_mem_singleton.mpr trivial⟩,
      acks.sent⟩

/-! ## Timers firing -/

theorem quiet_onReceivedMessageAckTimer :
    Quiet exchange exchange.onReceivedMessageAckTimer := by
  unfold onReceivedMessageAckTimer
  split
  · dsimp only
    split
    · rename_i messageToAck pending
      refine ⟨?_, sendStandaloneAck_written _ _ _⟩
      intro allowed acks
      apply sendStandaloneAck_acks
      · intro _ _
        exact acks.received messageToAck pending
      · exact ⟨AcksOnly.none_pending, acks.waiting, acks.timers, acks.suspended, acks.sent⟩
    · exact .of_same rfl rfl rfl rfl rfl rfl
  · exact Quiet.refl exchange

theorem quiet_rejectSentMessage : Quiet exchange exchange.rejectSentMessage := by
  have forgets : Quiet exchange { exchange with receivedMessageToAck := none } :=
    ⟨fun acks => ⟨AcksOnly.none_pending, acks.waiting, acks.timers, acks.suspended, acks.sent⟩, rfl⟩
  unfold rejectSentMessage
  split
  · exact forgets.trans (quiet_settle _ _ _)
  · exact Quiet.refl exchange

theorem quiet_giveUp : Quiet exchange exchange.giveUp := by
  unfold giveUp
  dsimp only
  split
  · exact (quiet_rejectSentMessage exchange).trans (quiet_closeNow _)
  · exact quiet_rejectSentMessage exchange

theorem quiet_retransmitMessage {message : Message}
    (expectedProcessingTimeMs : Option Nat) (finalWaitTime : Int)
    (held : ∀ {allowed}, AcksOnly allowed exchange → message.AcksOnly allowed) :
    Quiet exchange
      (exchange.retransmitMessage message expectedProcessingTimeMs finalWaitTime) := by
  have counts (counter : Nat) :
      Quiet exchange { exchange with retransmissionCounter := counter } :=
    .of_same rfl rfl rfl rfl rfl rfl
  unfold retransmitMessage
  dsimp only
  split
  · split
    · refine ⟨?_, rfl⟩
      intro allowed acks
      exact setRetransmissionTimer_acks _ (held acks)
        ((counts (exchange.retransmissionCounter + 1 - 1)).acks acks)
    · exact (counts _).trans (quiet_giveUp _)
  · refine ⟨?_, rfl⟩
    intro allowed acks
    have messageAcks := held acks
    exact ⟨acks.received, acks.waiting, acks.timers,
      List.forall_mem_append.mpr ⟨acks.suspended, List.forall_mem_singleton.mpr messageAcks⟩,
      List.forall_mem_append.mpr ⟨acks.sent, List.forall_mem_singleton.mpr messageAcks⟩⟩

theorem quiet_onRetransmissionTimer (index : Nat) (finalWaitTime : Int) :
    Quiet exchange (exchange.onRetransmissionTimer index finalWaitTime) := by
  unfold onRetransmissionTimer
  split
  · rename_i timer found
    split
    · have stops : Quiet exchange { exchange with
          retransmissionTimers :=
            exchange.retransmissionTimers.modify index ({ · with running := false }) } :=
        .of_same rfl rfl (map_message_modify _ _ false) rfl rfl rfl
      refine stops.trans (quiet_retransmitMessage _ _ _ ?_)
      intro allowed acks
      apply acks.timers
      rw [map_message_modify]
      exact List.mem_map_of_mem (List.mem_of_getElem? found)
    · exact Quiet.refl exchange
  · exact Quiet.refl exchange

theorem quiet_onCloseTimer (index : Nat) : Quiet exchange (exchange.onCloseTimer index) := by
  unfold onCloseTimer
  split
  · have stops : Quiet exchange
        { exchange with closeTimers := exchange.closeTimers.modify index fun _ => false } :=
      .of_same rfl rfl rfl rfl rfl rfl
    exact stops.trans (quiet_closeNow _)
  · exact Quiet.refl exchange

/-! ## Resuming, closing and reading -/

theorem quiet_onAckSettled (call : SendCall) (outcome : Except MatterError Message) :
    Quiet exchange (exchange.onAckSettled call outcome) := by
  cases outcome with
  | error error => exact quiet_finish exchange call (.error error)
  | ok response =>
    have forgets : Quiet exchange
        { exchange with sentMessageAckSuccess := none, sentMessageAckFailure := none } :=
      .of_same rfl rfl rfl rfl rfl rfl
    unfold onAckSettled
    dsimp only
    split
    · exact forgets.trans (quiet_finish _ _ _)
    · exact forgets.trans (quiet_finish _ _ _)

theorem quiet_removeSuspended (position : Nat) :
    Quiet exchange { exchange with suspended := exchange.suspended.eraseIdx position } := by
  refine ⟨?_, rfl⟩
  intro allowed acks
  refine ⟨acks.received, acks.waiting, acks.timers, ?_, acks.sent⟩
  intro call member
  exact acks.suspended call (List.mem_of_mem_eraseIdx member)

theorem quiet_resume (position : Nat) (resumption : Resumption) :
    Quiet exchange (exchange.resume position resumption) := by
  have removes := quiet_removeSuspended exchange position
  unfold resume
  split
  · rename_i call messageId found
    refine ⟨?_, transmit_written _ call messageId⟩
    intro allowed acks
    exact transmit_acks _ messageId (acks.suspended _ (List.mem_of_getElem? found))
      (removes.acks acks)
  · exact removes.trans (quiet_finish _ _ _)
  · exact removes.trans (quiet_awaitAck _ _ _)
  · exact removes.trans (quiet_finish _ _ _)
  · split
    · exact removes.trans (quiet_onAckSettled _ _ _)
    · exact Quiet.refl exchange
  · exact removes.trans (quiet_closeNow _)
  · rename_i message expectedProcessingTimeMs _ _ found
    refine ⟨?_, rfl⟩
    intro allowed acks
    exact setRetransmissionTimer_acks _ (acks.suspended _ (List.mem_of_getElem? found))
      (removes.acks acks)
  · exact Quiet.refl exchange

theorem quiet_flushAck {messageToAck : Message} (after : AfterSend)
    (pending : exchange.receivedMessageToAck = some messageToAck) :
    Quiet exchange (exchange.flushAck messageToAck after) := by
  let cleared :=
    { exchange with receivedMessageAckTimer := false, receivedMessageToAck := none }
  have flushed : Quiet exchange
      (cleared.sendStandaloneAckForMessage messageToAck after).1 := by
    refine ⟨?_, sendStandaloneAck_written cleared messageToAck after⟩
    intro allowed acks
    apply sendStandaloneAck_acks
    · intro _ _
      exact acks.received messageToAck pending
    · exact ⟨AcksOnly.none_pending, acks.waiting, acks.timers, acks.suspended, acks.sent⟩
  unfold flushAck
  dsimp only
  split
  · rename_i next _ sends
    rwa [show next = _ from (congrArg Prod.fst sends).symm]
  · rename_i next _ sends
    rw [show next = _ from (congrArg Prod.fst sends).symm]
    exact flushed.trans (quiet_afterSend _ after)

theorem quiet_destroy : Quiet exchange exchange.destroy := by
  unfold destroy
  split
  · rename_i pending
    exact quiet_flushAck exchange .close pending
  · exact quiet_closeNow exchange

theorem quiet_close (force : Bool) : Quiet exchange (exchange.close force) := by
  have closing : Quiet exchange { exchange with isClosing := true } :=
    .of_same rfl rfl rfl rfl rfl rfl
  unfold close
  split
  · split
    · exact (quiet_stopCloseTimer exchange).trans (quiet_closeNow _)
    · exact Quiet.refl exchange
  · dsimp only
    split
    · rename_i messageToAck pending
      exact closing.trans (quiet_flushAck _ _ pending)
    · split
      · exact closing.trans (quiet_closeNow _)
      · exact closing.trans (quiet_startCloseTimer _)

theorem quiet_nextMessage : Quiet exchange exchange.nextMessage := by
  unfold nextMessage
  split
  · rename_i queue reads
    exact .of_same rfl rfl rfl rfl rfl (DataReadQueue.written_read reads)
  · exact Quiet.refl exchange

theorem quiet_onReadTimeout : Quiet exchange exchange.onReadTimeout :=
  .of_same rfl rfl rfl rfl rfl (DataReadQueue.written_readTimeout _)

def Action.included : Action → Option Nat
  | .send _ _ options => options.includeAcknowledgeMessageId
  | _ => none

theorem act_acks {allowed : Nat → Prop} {action : Action}
    (included : exchange.useMRP = true → ∀ messageId ∈ action.included, allowed messageId)
    (acks : AcksOnly allowed exchange) : AcksOnly allowed (exchange.act action) := by
  cases action with
  | send messageType payload options => exact send_acks exchange _ _ _ included acks
  | resume position resumption => exact (quiet_resume exchange position resumption).acks acks
  | receivedMessageAckTimer => exact (quiet_onReceivedMessageAckTimer exchange).acks acks
  | retransmissionTimer index finalWaitTime =>
    exact (quiet_onRetransmissionTimer exchange index finalWaitTime).acks acks
  | closeTimer index => exact (quiet_onCloseTimer exchange index).acks acks
  | close force => exact (quiet_close exchange force).acks acks
  | destroy => exact (quiet_destroy exchange).acks acks
  | nextMessage => exact (quiet_nextMessage exchange).acks acks
  | readTimeout => exact (quiet_onReadTimeout exchange).acks acks

theorem act_written (action : Action) :
    (exchange.act action).messagesQueue.written = exchange.messagesQueue.written := by
  cases action with
  | send messageType payload options => exact send_written exchange _ _ _ _
  | resume position resumption => exact (quiet_resume exchange position resumption).written
  | receivedMessageAckTimer => exact (quiet_onReceivedMessageAckTimer exchange).written
  | retransmissionTimer index finalWaitTime =>
    exact (quiet_onRetransmissionTimer exchange index finalWaitTime).written
  | closeTimer index => exact (quiet_onCloseTimer exchange index).written
  | close force => exact (quiet_close exchange force).written
  | destroy => exact (quiet_destroy exchange).written
  | nextMessage => exact (quiet_nextMessage exchange).written
  | readTimeout => exact (quiet_onReadTimeout exchange).written

/-! ## Receiving -/

variable (message : Message)

theorem quiet_acceptAck : Quiet exchange (exchange.acceptAck message) := by
  refine (quiet_stopRetransmissionTimer exchange).trans ?_
  have noneWaiting {allowed : Nat → Prop} :
      ∀ other ∈ (none : Option Message), other.AcksOnly allowed := by
    intro other isOther
    cases isOther
  unfold acceptAck
  dsimp only
  split
  · exact ⟨fun acks => ⟨acks.received, noneWaiting, acks.timers, acks.suspended, acks.sent⟩, rfl⟩
  · exact ⟨fun acks => ⟨acks.received, noneWaiting, acks.timers, acks.suspended, acks.sent⟩, rfl⟩

theorem acceptAck_receiving :
    (exchange.acceptAck message).receivedMessageToAck = exchange.receivedMessageToAck ∧
      (exchange.acceptAck message).useMRP = exchange.useMRP ∧
      (exchange.acceptAck message).messagesQueue = exchange.messagesQueue := by
  have stopped : exchange.stopRetransmissionTimer.receivedMessageToAck =
        exchange.receivedMessageToAck ∧
      exchange.stopRetransmissionTimer.useMRP = exchange.useMRP ∧
      exchange.stopRetransmissionTimer.messagesQueue = exchange.messagesQueue := by
    unfold stopRetransmissionTimer
    split <;> exact ⟨rfl, rfl, rfl⟩
  unfold acceptAck
  dsimp only
  split <;> exact stopped

def IsStandaloneAck (message : Message) : Prop :=
  isStandaloneAck message.payloadHeader.protocolId message.payloadHeader.messageType = true

/-- The message does not settle the sent one that waits: it acknowledges nothing
or another message. -/
def LeavesUnacked (exchange : MessageExchange) (message : Message) : Prop :=
  ∃ sent ∈ exchange.sentMessageToAck,
    message.payloadHeader.ackedMessageId ≠ some sent.packetHeader.messageId

def AckedByWaiting (exchange : MessageExchange) (message : Message) : Prop :=
  ∃ sent ∈ exchange.sentMessageToAck,
    sent.payloadHeader.ackedMessageId = some message.packetHeader.messageId

def AsksForAck (exchange : MessageExchange) (message : Message) : Prop :=
  message.payloadHeader.requiresAck = true ∧ exchange.useMRP = true

def ForeignProtocol (exchange : MessageExchange) (message : Message) : Prop :=
  message.payloadHeader.protocolId ≠ exchange.protocolId

/-- A new message of the stream that does not reach the queue, although the
reception state has counted it: an unexpected protocol, a wrong or missing
acknowledgement of the sent message that waits, or an acknowledgement still
pending for an earlier message. -/
def Drops (exchange : MessageExchange) (message : Message) : Prop :=
  ForeignProtocol exchange message ∨ AckedByWaiting exchange message ∨
    LeavesUnacked exchange message ∨
    AsksForAck exchange message ∧ exchange.receivedMessageToAck.isSome = true

instance (message : Message) : Decidable (IsStandaloneAck message) :=
  inferInstanceAs (Decidable (_ = _))

instance (exchange : MessageExchange) (message : Message) :
    Decidable (LeavesUnacked exchange message) :=
  inferInstanceAs (Decidable (∃ sent ∈ exchange.sentMessageToAck, _ ≠ _))

instance (exchange : MessageExchange) (message : Message) :
    Decidable (AckedByWaiting exchange message) :=
  inferInstanceAs (Decidable (∃ sent ∈ exchange.sentMessageToAck, _ = _))

instance (exchange : MessageExchange) (message : Message) :
    Decidable (AsksForAck exchange message) :=
  inferInstanceAs (Decidable (_ ∧ _))

instance (exchange : MessageExchange) (message : Message) :
    Decidable (ForeignProtocol exchange message) :=
  inferInstanceAs (Decidable (_ ≠ _))

instance (exchange : MessageExchange) (message : Message) :
    Decidable (Drops exchange message) :=
  inferInstanceAs (Decidable (_ ∨ _ ∨ _ ∨ _ ∧ _))

theorem handleAck_cases (inStream : ¬IsStandaloneAck message) :
    (LeavesUnacked exchange message ∧ ∃ error, exchange.handleAck message = .error error) ∨
      ¬LeavesUnacked exchange message ∧
        ∃ next, exchange.handleAck message = .ok (next, false) ∧ Quiet exchange next ∧
          next.receivedMessageToAck = exchange.receivedMessageToAck ∧
          next.useMRP = exchange.useMRP ∧
          next.messagesQueue = exchange.messagesQueue := by
  have notAck : isStandaloneAck message.payloadHeader.protocolId
      message.payloadHeader.messageType = false := by
    simpa [IsStandaloneAck] using inStream
  unfold handleAck
  cases waiting : exchange.sentMessageToAck with
  | none =>
    refine .inr ⟨?_, exchange, rfl, Quiet.refl exchange, rfl, rfl, rfl⟩
    intro leaves
    rcases leaves with ⟨sent, isWaiting, _⟩
    cases waiting.symm.trans isWaiting
  | some sent =>
    cases acked : message.payloadHeader.ackedMessageId with
    | none => exact .inl ⟨⟨sent, waiting, by simp [acked]⟩, _, rfl⟩
    | some ackedMessageId =>
      by_cases other : ackedMessageId ≠ sent.packetHeader.messageId
      · refine .inl ⟨⟨sent, waiting, by simpa [acked] using other⟩, ?_⟩
        simp [other, notAck]
      · have same : ackedMessageId = sent.packetHeader.messageId := not_not.mp other
        refine .inr ⟨?_, exchange.acceptAck message, ?_, quiet_acceptAck exchange message,
          acceptAck_receiving exchange message⟩
        · intro leaves
          rcases leaves with ⟨waits, isWaiting, notAcked⟩
          cases waiting.symm.trans isWaiting
          rw [acked, same] at notAcked
          exact notAcked rfl
        · simp [same, notAck]

theorem quiet_handleAck {next : MessageExchange} {closes : Bool}
    (handles : exchange.handleAck message = .ok (next, closes)) :
    Quiet exchange next := by
  unfold handleAck at handles
  dsimp only at handles
  split at handles
  · cases handles
    exact Quiet.refl exchange
  · cases handles
  · split at handles
    · split at handles
      · cases handles
        exact Quiet.refl exchange
      · cases handles
    · split at handles
      · cases handles
        exact (quiet_acceptAck exchange message).trans (quiet_closeNow _)
      · cases handles
        exact quiet_acceptAck exchange message

theorem writeMessage_of_open (isOpen : exchange.messagesQueue.closed = false) :
    ∃ queue, exchange.writeMessage message = ({ exchange with messagesQueue := queue }, .ok ()) ∧
      queue.written = exchange.messagesQueue.written ++ [message] := by
  rcases DataReadQueue.write_of_open isOpen message with ⟨queue, writes, written⟩
  refine ⟨queue, ?_, written⟩
  rw [writeMessage, writes]

theorem writeMessage_of_closed (isClosed : exchange.messagesQueue.closed = true) :
    (exchange.writeMessage message).1 = exchange := by
  rcases DataReadQueue.write_of_closed isClosed message with ⟨error, fails⟩
  rw [writeMessage, fails]

theorem quiet_enqueue_of_pending (asks : message.payloadHeader.requiresAck = true)
    (pending : exchange.receivedMessageToAck.isSome = true) :
    Quiet exchange (exchange.enqueue message).1 := by
  have stops : Quiet exchange { exchange with receivedMessageAckTimer := false } :=
    .of_same rfl rfl rfl rfl rfl rfl
  unfold enqueue
  rw [if_pos asks]
  split
  · rename_i earlier isEarlier
    refine stops.trans (quiet_sendStandaloneAck _ .nothing ?_)
    intro allowed acks
    exact acks.received earlier isEarlier
  · rename_i nonePending
    rw [nonePending] at pending
    cases pending

theorem enqueue_of_open
    (free : message.payloadHeader.requiresAck = true → exchange.receivedMessageToAck = none)
    (isOpen : exchange.messagesQueue.closed = false) :
    (exchange.enqueue message).1.messagesQueue.written =
        exchange.messagesQueue.written ++ [message] ∧
      ∀ {allowed : Nat → Prop}, allowed message.packetHeader.messageId →
        AcksOnly allowed exchange → AcksOnly allowed (exchange.enqueue message).1 := by
  unfold enqueue
  split
  · rename_i asks
    rw [free asks]
    rcases writeMessage_of_open { exchange with
      receivedMessageToAck := some message, receivedMessageAckTimer := true }
      message isOpen with ⟨queue, writes, written⟩
    rw [writes]
    refine ⟨written, ?_⟩
    intro allowed isAllowed acks
    refine ⟨?_, acks.waiting, acks.timers, acks.suspended, acks.sent⟩
    intro other isOther
    cases isOther
    exact isAllowed
  · rcases writeMessage_of_open exchange message isOpen with ⟨queue, writes, written⟩
    rw [writes]
    exact ⟨written, fun _ acks =>
      ⟨acks.received, acks.waiting, acks.timers, acks.suspended, acks.sent⟩⟩

theorem enqueue_of_closed (asksNothing : message.payloadHeader.requiresAck = false)
    (isClosed : exchange.messagesQueue.closed = true) :
    (exchange.enqueue message).1 = exchange := by
  rw [enqueue, asksNothing]
  exact writeMessage_of_closed exchange message isClosed

/-! ## One received message -/

theorem adjust_requiresAck :
    (exchange.adjust message).payloadHeader.requiresAck =
      (message.payloadHeader.requiresAck && exchange.useMRP) := by
  unfold adjust
  cases asks : message.payloadHeader.requiresAck <;> cases mrp : exchange.useMRP <;>
    simp [asks]

theorem adjust_other :
    (exchange.adjust message).packetHeader = message.packetHeader ∧
      (exchange.adjust message).payloadHeader.ackedMessageId =
        message.payloadHeader.ackedMessageId ∧
      (exchange.adjust message).payloadHeader.protocolId = message.payloadHeader.protocolId ∧
      (exchange.adjust message).payloadHeader.messageType =
        message.payloadHeader.messageType := by
  unfold adjust
  split <;> exact ⟨rfl, rfl, rfl, rfl⟩

theorem onMessageReceived_duplicate :
    (exchange.onMessageReceived message true).1.messagesQueue.written =
        exchange.messagesQueue.written ∧
      ∀ {allowed : Nat → Prop},
        (AsksForAck exchange message →
          ¬ForeignProtocol exchange message ∨ IsStandaloneAck message →
            allowed message.packetHeader.messageId) →
        AcksOnly allowed exchange →
          AcksOnly allowed (exchange.onMessageReceived message true).1 := by
  rcases adjust_other exchange message with ⟨samePacket, _, sameProtocol, sameType⟩
  have requiresAck := adjust_requiresAck exchange message
  unfold onMessageReceived
  dsimp only
  rw [sameProtocol, sameType]
  split
  · exact ⟨rfl, fun _ acks => acks⟩
  · rename_i notForeign
    rw [if_pos rfl]
    split
    · refine ⟨sendStandaloneAck_written exchange _ _, ?_⟩
      intro allowed isAllowed acks
      apply sendStandaloneAck_acks exchange _ _ _ acks
      intro asks mrp
      rw [samePacket]
      rw [requiresAck, mrp, Bool.and_true] at asks
      apply isAllowed ⟨asks, mrp⟩
      by_cases foreign : ForeignProtocol exchange message
      · refine .inr (by_contra fun inStream => notForeign ⟨foreign, ?_⟩)
        simpa [IsStandaloneAck] using inStream
      · exact .inl foreign
    · exact ⟨rfl, fun _ acks => acks⟩

theorem onMessageReceived_of_foreign (foreign : ForeignProtocol exchange message)
    (inStream : ¬IsStandaloneAck message) :
    (exchange.onMessageReceived message false).1 = exchange := by
  rcases adjust_other exchange message with ⟨_, _, sameProtocol, sameType⟩
  have notAck : isStandaloneAck message.payloadHeader.protocolId
      message.payloadHeader.messageType = false := by
    simpa [IsStandaloneAck] using inStream
  unfold onMessageReceived
  dsimp only
  rw [sameProtocol, sameType, if_pos ⟨foreign, notAck⟩]

theorem onMessageReceived_fresh
    (accepted : ¬ForeignProtocol exchange message ∨ IsStandaloneAck message) :
    (AckedByWaiting exchange message ∧
        ∃ sent ∈ exchange.sentMessageToAck,
          (exchange.onMessageReceived message false).1 =
            { exchange with sent := exchange.sent ++ [sent] }) ∨
      ¬AckedByWaiting exchange message ∧
        exchange.onMessageReceived message false =
          exchange.onFreshMessage (exchange.adjust message) := by
  rcases adjust_other exchange message with ⟨samePacket, _, sameProtocol, sameType⟩
  have notForeign : ¬(message.payloadHeader.protocolId ≠ exchange.protocolId ∧
      isStandaloneAck message.payloadHeader.protocolId
        message.payloadHeader.messageType = false) := by
    intro refused
    rcases accepted with notForeign | isAck
    · exact notForeign refused.1
    · exact Bool.false_ne_true (refused.2.symm.trans isAck)
  unfold onMessageReceived
  dsimp only
  rw [sameProtocol, sameType, if_neg notForeign, if_neg Bool.false_ne_true, samePacket]
  split
  · rename_i sent isWaiting
    split
    · rename_i acked
      exact .inl ⟨⟨sent, isWaiting, acked⟩, sent, isWaiting, rfl⟩
    · rename_i notAcked
      refine .inr ⟨?_, rfl⟩
      intro acked
      rcases acked with ⟨waiting, waits, acked⟩
      cases isWaiting.symm.trans waits
      exact notAcked acked
  · rename_i noneWaits
    refine .inr ⟨?_, rfl⟩
    intro acked
    rcases acked with ⟨waiting, waits, _⟩
    cases noneWaits.symm.trans waits

theorem quiet_sentAgain {sent : Message} (waits : sent ∈ exchange.sentMessageToAck) :
    Quiet exchange { exchange with sent := exchange.sent ++ [sent] } := by
  refine ⟨?_, rfl⟩
  intro allowed acks
  have sentAcks := acks.waiting sent waits
  exact ⟨acks.received, acks.waiting, acks.timers, acks.suspended,
    List.forall_mem_append.mpr ⟨acks.sent, List.forall_mem_singleton.mpr sentAcks⟩⟩

theorem quiet_onMessageReceived_of_standaloneAck (isAck : IsStandaloneAck message) :
    Quiet exchange (exchange.onMessageReceived message false).1 := by
  rcases adjust_other exchange message with ⟨_, _, sameProtocol, sameType⟩
  rcases onMessageReceived_fresh exchange message (.inr isAck) with
    ⟨_, sent, waits, again⟩ | ⟨_, fresh⟩
  · rw [again]
    exact quiet_sentAgain exchange waits
  · rw [fresh]
    unfold onFreshMessage
    split
    · exact Quiet.refl exchange
    · rename_i next handles
      exact quiet_handleAck exchange _ handles
    · rename_i next handles
      have ack : isStandaloneAck message.payloadHeader.protocolId
          message.payloadHeader.messageType = true := isAck
      rw [sameProtocol, sameType, if_pos ack]
      exact quiet_handleAck exchange _ handles

theorem onFreshMessage_inStream (inStream : ¬IsStandaloneAck message) :
    (LeavesUnacked exchange message ∧ (exchange.onFreshMessage message).1 = exchange) ∨
      ¬LeavesUnacked exchange message ∧
        ∃ next, exchange.onFreshMessage message = next.enqueue message ∧
          Quiet exchange next ∧
          next.receivedMessageToAck = exchange.receivedMessageToAck ∧
          next.useMRP = exchange.useMRP ∧
          next.messagesQueue = exchange.messagesQueue := by
  rcases handleAck_cases exchange message inStream with
    ⟨leaves, error, fails⟩ | ⟨settles, next, handles, unchanged⟩
  · refine .inl ⟨leaves, ?_⟩
    rw [onFreshMessage, fails]
  · refine .inr ⟨settles, next, ?_, unchanged⟩
    have notAck : isStandaloneAck message.payloadHeader.protocolId
        message.payloadHeader.messageType = false := by
      simpa [IsStandaloneAck] using inStream
    rw [onFreshMessage, handles]
    dsimp only
    rw [notAck, if_neg Bool.false_ne_true]

theorem onMessageReceived_inStream (inStream : ¬IsStandaloneAck message) :
    (Drops exchange message ∧ Quiet exchange (exchange.onMessageReceived message false).1) ∨
      ¬Drops exchange message ∧
        ∃ next, exchange.onMessageReceived message false = next.enqueue (exchange.adjust message) ∧
          Quiet exchange next ∧
          ((exchange.adjust message).payloadHeader.requiresAck = true →
            next.receivedMessageToAck = none) ∧
          next.messagesQueue = exchange.messagesQueue := by
  rcases adjust_other exchange message with ⟨_, sameAcked, sameProtocol, sameType⟩
  have requiresAck := adjust_requiresAck exchange message
  have adjustedInStream : ¬IsStandaloneAck (exchange.adjust message) := by
    rwa [IsStandaloneAck, sameProtocol, sameType]
  have sameLeaves : LeavesUnacked exchange (exchange.adjust message) ↔
      LeavesUnacked exchange message := by
    rw [LeavesUnacked, LeavesUnacked, sameAcked]
  by_cases foreign : ForeignProtocol exchange message
  · refine .inl ⟨.inl foreign, ?_⟩
    rw [onMessageReceived_of_foreign exchange message foreign inStream]
    exact Quiet.refl exchange
  rcases onMessageReceived_fresh exchange message (.inl foreign) with
    ⟨acked, sent, waits, again⟩ | ⟨notAcked, fresh⟩
  · refine .inl ⟨.inr (.inl acked), ?_⟩
    rw [again]
    exact quiet_sentAgain exchange waits
  rcases onFreshMessage_inStream exchange (exchange.adjust message) adjustedInStream with
    ⟨leaves, unchanged⟩ | ⟨settles, next, enqueues, quiet, received, _, queue⟩
  · refine .inl ⟨.inr (.inr (.inl (sameLeaves.mp leaves))), ?_⟩
    rw [fresh, unchanged]
    exact Quiet.refl exchange
  by_cases blocked : AsksForAck exchange message ∧ exchange.receivedMessageToAck.isSome = true
  · refine .inl ⟨.inr (.inr (.inr blocked)), ?_⟩
    rw [fresh, enqueues]
    apply quiet.trans (quiet_enqueue_of_pending next _ _ _)
    · rw [requiresAck, blocked.1.1, blocked.1.2, Bool.and_true]
    · rw [received, blocked.2]
  · refine .inr ⟨?_, next, fresh.trans enqueues, quiet, ?_, queue⟩
    · intro drops
      rcases drops with isForeign | acked | leaves | pending
      · exact foreign isForeign
      · exact notAcked acked
      · exact settles (sameLeaves.mpr leaves)
      · exact blocked pending
    · intro asks
      rw [requiresAck, Bool.and_eq_true] at asks
      rw [received]
      by_contra pending
      exact blocked ⟨asks, Option.isSome_iff_ne_none.mpr pending⟩

end MessageExchange

end MatterJs.Protocol
