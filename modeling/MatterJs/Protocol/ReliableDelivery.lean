import MatterJs.Protocol.Acknowledgements
import MatterJs.Protocol.ExchangeManager
import MatterJs.Protocol.ReplayWindow

/-! What an acknowledgement promises to the other side: that the message it names
was handed on exactly once. -/

namespace MatterJs.Protocol

open General Execution ReplayFilter MessageReceptionState MessageExchange

/-- A message that reached the exchange, and whether it met all conditions to
be queued. -/
structure Arrival where
  message : Message
  duplicate : Bool
  queued : Bool
  deriving DecidableEq

/-- One exchange with the reception state of its session, and everything that
arrived. -/
structure Delivery (kind : MessageReceptionKind) where
  reception : MessageReceptionState kind
  exchange : MessageExchange
  arrivals : List Arrival

inductive DeliveryEvent where
  | receive (message : Message)
  | elsewhere (messageCounter : Nat)
  | act (action : MessageExchange.Action)

namespace Delivery

variable {kind : MessageReceptionKind}

variable (exchange : MessageExchange) (delivery : Delivery kind) (message : Message)
  (messageId : Nat)

def Queues : Prop :=
  ¬IsStandaloneAck message ∧ ¬Drops exchange message ∧ exchange.messagesQueue.closed = false

instance (exchange : MessageExchange) (message : Message) :
    Decidable (Queues exchange message) :=
  inferInstanceAs (Decidable (_ ∧ _ ∧ _))

/-- The message after its counter was accepted or taken for a duplicate. -/
def deliver (duplicate : Bool) : Delivery kind :=
  { delivery with
    exchange := (delivery.exchange.onMessageReceived message duplicate).1
    arrivals := delivery.arrivals ++
      [{ message, duplicate
         queued := !duplicate && decide (Queues delivery.exchange message) }] }

def receive : Delivery kind :=
  match delivery.reception.updateMessageCounter message.packetHeader.messageId with
  | .ok reception => { delivery with reception }.deliver message false
  | .error (.duplicateMessageError _) => delivery.deliver message true
  | .error _ => delivery

def elsewhere (messageCounter : Nat) : Delivery kind :=
  match delivery.reception.updateMessageCounter messageCounter with
  | .ok reception => { delivery with reception }
  | .error _ => delivery

def step : DeliveryEvent → Delivery kind
  | .receive message => delivery.receive message
  | .elsewhere messageCounter => delivery.elsewhere messageCounter
  | .act action => { delivery with exchange := delivery.exchange.act action }

def start (reception : MessageReceptionState kind) (exchange : MessageExchange) :
    Delivery kind where
  reception := reception
  exchange := exchange
  arrivals := []

def Acknowledged : Prop :=
  ∃ message ∈ exchange.sent, message.payloadHeader.ackedMessageId = some messageId

instance (exchange : MessageExchange) (messageId : Nat) :
    Decidable (Acknowledged exchange messageId) :=
  inferInstanceAs (Decidable (∃ message ∈ exchange.sent, _ = _))

def timesWritten : Nat :=
  (exchange.messagesQueue.written.map (·.packetHeader.messageId)).count messageId

/-- Every acknowledged message that arrived was written to the queue exactly
once. -/
def KeepsPromise : Prop :=
  ∀ arrival ∈ delivery.arrivals, ¬IsStandaloneAck arrival.message →
    Acknowledged delivery.exchange arrival.message.packetHeader.messageId →
      timesWritten delivery.exchange arrival.message.packetHeader.messageId = 1

instance (delivery : Delivery kind) : Decidable delivery.KeepsPromise :=
  inferInstanceAs (Decidable (∀ arrival ∈ delivery.arrivals, _ → _ → _ = 1))

/-! ## Steps that keep it -/

/-- An earlier copy of the message was new and met the conditions to be queued. -/
def QueuedBefore : Prop :=
  ∃ arrival ∈ delivery.arrivals,
    arrival.queued = true ∧ arrival.message.packetHeader.messageId = messageId

instance (delivery : Delivery kind) (messageId : Nat) :
    Decidable (delivery.QueuedBefore messageId) :=
  inferInstanceAs (Decidable (∃ arrival ∈ delivery.arrivals, _ ∧ _))

/-- What `onMessage` makes of a counter: `none` where it throws. -/
def duplicateFlag : Option Bool :=
  match delivery.reception.updateMessageCounter message.packetHeader.messageId with
  | .ok _ => some false
  | .error (.duplicateMessageError _) => some true
  | .error _ => none

/-- A duplicate that is acknowledged is a copy of a message that was queued, and
not of one that was dropped. -/
def DuplicateWasQueued : Prop :=
  AsksForAck delivery.exchange message →
    ¬ForeignProtocol delivery.exchange message ∨ IsStandaloneAck message →
      delivery.QueuedBefore message.packetHeader.messageId

/-- A new message that is to be acknowledged finds the queue open. Where
counters may be used again, no queued message had the same one. -/
def NewCanBeQueued : Prop :=
  (AsksForAck delivery.exchange message → ¬IsStandaloneAck message →
    ¬Drops delivery.exchange message → delivery.exchange.messagesQueue.closed = false) ∧
  (Queues delivery.exchange message → kind ≠ .encryptedWithoutRollover →
    ¬delivery.QueuedBefore message.packetHeader.messageId)

instance (delivery : Delivery kind) (message : Message) :
    Decidable (delivery.DuplicateWasQueued message) :=
  inferInstanceAs (Decidable (_ → _ → _))

instance (delivery : Delivery kind) (message : Message) :
    Decidable (delivery.NewCanBeQueued message) :=
  inferInstanceAs (Decidable ((_ → _ → _ → _) ∧ (_ → _ → _)))

/-- No step acknowledges a message that was dropped. -/
def Condition : DeliveryEvent → Prop
  | .receive message =>
    (delivery.duplicateFlag message = some true → delivery.DuplicateWasQueued message) ∧
    (delivery.duplicateFlag message = some false → delivery.NewCanBeQueued message)
  | .elsewhere _ => True
  | .act action => delivery.exchange.useMRP = true →
      ∀ messageId ∈ action.included, delivery.QueuedBefore messageId

instance (delivery : Delivery kind) (event : DeliveryEvent) :
    Decidable (delivery.Condition event) :=
  match event with
  | .receive _ => inferInstanceAs (Decidable ((_ → _) ∧ (_ → _)))
  | .elsewhere _ => inferInstanceAs (Decidable True)
  | .act action => inferInstanceAs (Decidable (_ → ∀ messageId ∈ action.included, _))

/-! ## The invariant -/

def queuedIds : List Nat :=
  (delivery.arrivals.filter (·.queued)).map (·.message.packetHeader.messageId)

theorem mem_queuedIds_iff : messageId ∈ delivery.queuedIds ↔ delivery.QueuedBefore messageId := by
  simp [queuedIds, QueuedBefore, and_assoc]

theorem queuedIds_deliver (duplicate : Bool) :
    (delivery.deliver message duplicate).queuedIds =
      delivery.queuedIds ++
        if duplicate = false ∧ Queues delivery.exchange message then
          [message.packetHeader.messageId]
        else [] := by
  unfold queuedIds deliver
  cases duplicate with
  | true => simp
  | false => by_cases queues : Queues delivery.exchange message <;> simp [queues]

/-- The queue holds exactly the messages that met its conditions, each of them
once, and only they are acknowledged. -/
structure Accounted (delivery : Delivery kind) : Prop where
  written : delivery.exchange.messagesQueue.written.map (·.packetHeader.messageId) =
    delivery.queuedIds
  nodup : delivery.queuedIds.Nodup
  acks : AcksOnly (· ∈ delivery.queuedIds) delivery.exchange
  refused : kind = .encryptedWithoutRollover → ∀ messageId ∈ delivery.queuedIds,
    accept delivery.reception messageId = none

theorem accounted_start (reception : MessageReceptionState kind) (sessionId : Nat)
    (channelIsReliable isInitiator : Bool) (peerSessionId : Nat)
    (nodeId peerNodeId : Option Nat) (exchangeId : Nat) (protocolId : Int) :
    (start reception (.new sessionId channelIsReliable isInitiator peerSessionId nodeId
      peerNodeId exchangeId protocolId)).Accounted := by
  constructor
  · rfl
  · exact List.nodup_nil
  · constructor <;> simp [start, MessageExchange.new]
  · simp [start, queuedIds]

theorem Accounted.keepsPromise {delivery : Delivery kind} (accounted : delivery.Accounted) :
    delivery.KeepsPromise := by
  intro arrival _ _ acknowledged
  rcases acknowledged with ⟨message, isSent, acks⟩
  have queued := accounted.acks.sent message isSent _ acks
  rw [timesWritten, accounted.written]
  exact List.count_eq_one_of_mem accounted.nodup queued

theorem onMessageReceived_new (openQueue : AsksForAck exchange message → ¬IsStandaloneAck message →
      ¬Drops exchange message → exchange.messagesQueue.closed = false) :
    (Queues exchange message ∧
        (exchange.onMessageReceived message false).1.messagesQueue.written =
          exchange.messagesQueue.written ++ [exchange.adjust message] ∧
        ∀ {allowed : Nat → Prop}, allowed message.packetHeader.messageId →
          AcksOnly allowed exchange →
            AcksOnly allowed (exchange.onMessageReceived message false).1) ∨
      ¬Queues exchange message ∧
        Quiet exchange (exchange.onMessageReceived message false).1 := by
  have samePacket := (adjust_other exchange message).1
  by_cases inStream : ¬IsStandaloneAck message
  · rcases onMessageReceived_inStream exchange message inStream with
      ⟨drops, quiet⟩ | ⟨kept, next, enqueues, quiet, free, sameQueue⟩
    · exact .inr ⟨fun queues => queues.2.1 drops, quiet⟩
    · cases closed : exchange.messagesQueue.closed with
      | false =>
        refine .inl ⟨⟨inStream, kept, closed⟩, ?_⟩
        rw [enqueues]
        rcases enqueue_of_open next (exchange.adjust message) free
          (by rw [sameQueue, closed]) with ⟨written, acks⟩
        rw [written, sameQueue]
        refine ⟨rfl, ?_⟩
        intro allowed isAllowed before
        exact acks (samePacket ▸ isAllowed) (quiet.acks before)
      | true =>
        refine .inr ⟨fun queues => by simp [queues.2.2] at closed, ?_⟩
        have asksNothing : (exchange.adjust message).payloadHeader.requiresAck = false := by
          rw [adjust_requiresAck]
          by_contra asks
          have isOpen := openQueue (by simpa [AsksForAck] using asks) inStream kept
          rw [isOpen] at closed
          cases closed
        rw [enqueues, enqueue_of_closed next _ asksNothing (by rw [sameQueue, closed])]
        exact quiet
  · refine .inr ⟨fun queues => inStream queues.1, ?_⟩
    exact quiet_onMessageReceived_of_standaloneAck exchange message (not_not.mp inStream)

theorem remembers_of_secure (secure : kind = .encryptedWithoutRollover) :
    Remembers (@accept kind) := by
  subst secure
  exact accept_remembers

theorem accept_of_ok {reception next : MessageReceptionState kind} {messageCounter : Nat}
    (updates : reception.updateMessageCounter messageCounter = .ok next) :
    accept reception messageCounter = some next := by
  simp [accept, updates, Except.toOption]

theorem refused_after {delivery : Delivery kind} {next : MessageReceptionState kind}
    {messageCounter : Nat} (accounted : delivery.Accounted)
    (updates : delivery.reception.updateMessageCounter messageCounter = .ok next)
    (secure : kind = .encryptedWithoutRollover) {messageId : Nat}
    (queued : messageId ∈ delivery.queuedIds ∨ messageId = messageCounter) :
    accept next messageId = none := by
  rcases queued with earlier | isCounter
  · exact (remembers_of_secure secure).keepsRefusing (accept_of_ok updates)
      (accounted.refused secure messageId earlier)
  · rw [isCounter]
    exact (remembers_of_secure secure).refusesAccepted (accept_of_ok updates)

theorem accounted_deliver_new {delivery : Delivery kind} {message : Message}
    {reception : MessageReceptionState kind} (accounted : delivery.Accounted)
    (updates : delivery.reception.updateMessageCounter message.packetHeader.messageId =
      .ok reception)
    (safe : delivery.NewCanBeQueued message) :
    ({ delivery with reception }.deliver message false).Accounted := by
  have ids := queuedIds_deliver { delivery with reception } message false
  have samePacket := (adjust_other delivery.exchange message).1
  rcases onMessageReceived_new delivery.exchange message safe.1 with
    ⟨queues, written, acks⟩ | ⟨notQueued, quiet⟩
  · rw [if_pos ⟨rfl, queues⟩] at ids
    have notBefore : message.packetHeader.messageId ∉ delivery.queuedIds := by
      by_cases secure : kind = .encryptedWithoutRollover
      · intro earlier
        have refused := accounted.refused secure _ earlier
        rw [accept_of_ok updates] at refused
        cases refused
      · rw [mem_queuedIds_iff]
        exact safe.2 queues secure
    constructor
    · rw [ids, deliver, written, List.map_append, accounted.written, List.map_singleton, samePacket]
      rfl
    · rw [ids]
      exact accounted.nodup.append (List.nodup_singleton _) (List.disjoint_singleton.mpr notBefore)
    · rw [ids]
      apply acks
      · exact List.mem_append_right _ (List.mem_singleton.mpr rfl)
      · exact accounted.acks.mono fun _ earlier => List.mem_append_left _ earlier
    · intro secure messageId queued
      rw [ids, List.mem_append, List.mem_singleton] at queued
      exact refused_after accounted updates secure queued
  · rw [if_neg fun queues => notQueued queues.2, List.append_nil] at ids
    constructor
    · rw [ids, deliver, quiet.written]
      exact accounted.written
    · rw [ids]
      exact accounted.nodup
    · rw [ids]
      exact quiet.acks accounted.acks
    · intro secure messageId queued
      rw [ids] at queued
      exact refused_after accounted updates secure (.inl queued)

theorem accounted_deliver_duplicate {delivery : Delivery kind} {message : Message}
    (accounted : delivery.Accounted) (safe : delivery.DuplicateWasQueued message) :
    (delivery.deliver message true).Accounted := by
  have ids := queuedIds_deliver delivery message true
  rw [if_neg fun queues => Bool.false_ne_true queues.1.symm, List.append_nil] at ids
  rcases onMessageReceived_duplicate delivery.exchange message with ⟨written, acks⟩
  constructor
  · rw [ids, deliver, written]
    exact accounted.written
  · rw [ids]
    exact accounted.nodup
  · rw [ids]
    apply acks _ accounted.acks
    intro asks accepted
    rw [mem_queuedIds_iff]
    exact safe asks accepted
  · rw [ids]
    exact accounted.refused

theorem accounted_step (event : DeliveryEvent) (condition : delivery.Condition event)
    (accounted : delivery.Accounted) : (delivery.step event).Accounted := by
  cases event with
  | receive message =>
    change (delivery.receive message).Accounted
    rw [receive]
    cases updates : delivery.reception.updateMessageCounter
        message.packetHeader.messageId with
    | ok reception =>
      have flag : delivery.duplicateFlag message = some false := by
        simp [duplicateFlag, updates]
      exact accounted_deliver_new accounted updates (condition.2 flag)
    | error error =>
      cases error with
      | duplicateMessageError text =>
        have flag : delivery.duplicateFlag message = some true := by
          simp [duplicateFlag, updates]
        exact accounted_deliver_duplicate accounted (condition.1 flag)
      | _ => exact accounted
  | elsewhere messageCounter =>
    change (delivery.elsewhere messageCounter).Accounted
    rw [elsewhere]
    cases updates : delivery.reception.updateMessageCounter messageCounter with
    | ok reception =>
      exact ⟨accounted.written, accounted.nodup, accounted.acks,
        fun secure messageId queued =>
          refused_after accounted updates secure (.inl queued)⟩
    | error error => exact accounted
  | act action =>
    constructor
    · exact (congrArg _ (act_written delivery.exchange action)).trans accounted.written
    · exact accounted.nodup
    · apply act_acks delivery.exchange _ accounted.acks
      intro mrp messageId included
      exact (mem_queuedIds_iff delivery messageId).mpr (condition mrp messageId included)
    · exact accounted.refused

/-- An exchange keeps its promise in every state of every run in which no
message is acknowledged that was dropped. -/
theorem run_keepsPromise (reception : MessageReceptionState kind) (sessionId : Nat)
    (channelIsReliable isInitiator : Bool) (peerSessionId : Nat)
    (nodeId peerNodeId : Option Nat) (exchangeId : Nat) (protocolId : Int)
    {events : List DeliveryEvent}
    (along : Along step Condition
      (start reception (.new sessionId channelIsReliable isInitiator peerSessionId nodeId
        peerNodeId exchangeId protocolId)) events)
    {earlier : List DeliveryEvent} (cut : earlier <+: events) :
    (run step (start reception (.new sessionId channelIsReliable isInitiator peerSessionId
      nodeId peerNodeId exchangeId protocolId)) earlier).KeepsPromise := by
  rcases cut with ⟨later, split⟩
  rw [← split, along_append] at along
  exact (run_invariant_along Accounted accounted_step (accounted_start reception _ _ _ _ _ _
    _ _) along.1).keepsPromise

def reliableMessage : Message where
  packetHeader :=
    { sessionId := 5, sessionType := .unicast, hasPrivacyEnhancements := false
      isControlMessage := false, hasMessageExtensions := false, messageId
      sourceNodeId := none, destNodeId := none, destGroupId := none }
  payloadHeader :=
    { exchangeId := 1, protocolId := 1, messageType := 2, isInitiatorMessage := true
      requiresAck := true, ackedMessageId := none, hasSecuredExtension := false }
  securityExtension := none
  payload := []

/-- The responder's exchange on a new secure session. -/
def newDelivery : Delivery .encryptedWithoutRollover :=
  start (.new none) (.new 5 false false 5 none none 1 1)

/-- The acknowledgement of the first message is lost, so that it is sent again. -/
def lostAckEvents : List DeliveryEvent :=
  [.receive (reliableMessage 7),
    .act .receivedMessageAckTimer,
    .act (.resume 0 (.messageCounter (.ok 100))),
    .receive (reliableMessage 7),
    .act (.resume 1 (.messageCounter (.ok 101)))]

theorem lostAck_keepsPromise : (run step newDelivery lostAckEvents).KeepsPromise := by
  apply run_keepsPromise (.new none) 5 false false 5 none none 1 1 _ (List.prefix_refl _)
  decide

/-- The second message arrives while the acknowledgement of the first one is
pending: it is dropped, sent again, and acknowledged without ever being queued. -/
def droppedEvents : List DeliveryEvent :=
  [.receive (reliableMessage 7),
    .receive (reliableMessage 8),
    .act (.resume 0 (.messageCounter (.ok 100))),
    .receive (reliableMessage 8),
    .act (.resume 1 (.messageCounter (.ok 101)))]

theorem dropped_not_keepsPromise : ¬(run step newDelivery droppedEvents).KeepsPromise := by
  decide

end Delivery

end MatterJs.Protocol
