import MatterJs.Foundation.Execution
import MatterJs.Protocol.ServerSubscription

/-! Which changes and events a subscription still accounts for: those that the peer has
acknowledged, those in the message that is being sent, and those in its queues. -/

namespace MatterJs.Protocol

open General

universe u

variable {Value : Type u}

/-! ## What is to be accounted for -/

/-- The changes and events of a subscription, each by its number, and the messages that the
peer has acknowledged. -/
structure SubscriptionHistory (Value : Type u) where
  latestChange : ElementPathId → Option Nat
  triggeredEvents : List Nat
  acknowledgedAttributes : List (AttributePathWithValueVersion Value)
  acknowledgedEvents : List (EventPathWithEventData Value)

namespace SubscriptionHistory

variable (history : SubscriptionHistory Value)

def recordChange (pathId : ElementPathId) (change : Nat) : SubscriptionHistory Value :=
  { history with latestChange := Function.update history.latestChange pathId (some change) }

def recordEvent (change : Nat) : SubscriptionHistory Value :=
  { history with triggeredEvents := change :: history.triggeredEvents }

def recordAcknowledged (attributes : List (AttributePathWithValueVersion Value))
    (events : List (EventPathWithEventData Value)) : SubscriptionHistory Value :=
  { history with
    acknowledgedAttributes := history.acknowledgedAttributes ++ attributes
    acknowledgedEvents := history.acknowledgedEvents ++ events }

theorem latestChange_recordChange_self (pathId : ElementPathId) (change : Nat) :
    (history.recordChange pathId change).latestChange pathId = some change :=
  Function.update_self ..

theorem latestChange_recordChange_of_ne {pathId other : ElementPathId} (change : Nat)
    (different : other ≠ pathId) :
    (history.recordChange pathId change).latestChange other = history.latestChange other :=
  Function.update_of_ne different ..

end SubscriptionHistory

def HoldsChange (updates : List (AttributePathWithValueVersion Value)) (pathId : ElementPathId)
    (change : Nat) : Prop :=
  ∃ update ∈ updates, update.pathId = pathId ∧ update.change = change

def HoldsEvent (events : List (EventPathWithEventData Value)) (change : Nat) : Prop :=
  ∃ event ∈ events, event.change = change

/-- The history is accounted for by the queues and the message that is being sent; what is
queued, and what is being sent and not queued again, is the latest change. -/
structure Accounted (history : SubscriptionHistory Value)
    (outstanding : ElementPathId → Option (AttributePathWithValueVersion Value))
    (outstandingEvents : List (EventPathWithEventData Value))
    (sending : List (AttributePathWithValueVersion Value))
    (sendingEvents : List (EventPathWithEventData Value)) : Prop where
  pathId_of_outstanding : ∀ pathId update, outstanding pathId = some update → update.pathId = pathId
  latest_of_outstanding : ∀ pathId update, outstanding pathId = some update →
    history.latestChange pathId = some update.change
  latest_of_sending : ∀ update ∈ sending, outstanding update.pathId = none →
    history.latestChange update.pathId = some update.change
  attributes : ∀ pathId change, history.latestChange pathId = some change →
    HoldsChange history.acknowledgedAttributes pathId change ∨
      HoldsChange sending pathId change ∨
        ∃ update, outstanding pathId = some update ∧ update.change = change
  events : ∀ change ∈ history.triggeredEvents,
    HoldsEvent history.acknowledgedEvents change ∨ HoldsEvent sendingEvents change ∨
      HoldsEvent outstandingEvents change

namespace Accounted

variable {history : SubscriptionHistory Value}
  {outstanding : ElementPathId → Option (AttributePathWithValueVersion Value)}
  {outstandingEvents sendingEvents : List (EventPathWithEventData Value)}
  {sending : List (AttributePathWithValueVersion Value)}

theorem queue (accounted : Accounted history outstanding outstandingEvents sending sendingEvents)
    (update : AttributePathWithValueVersion Value) :
    Accounted (history.recordChange update.pathId update.change)
      (Function.update outstanding update.pathId (some update)) outstandingEvents sending
      sendingEvents where
  pathId_of_outstanding := by
    intro pathId other found
    by_cases same : pathId = update.pathId
    · rw [same, Function.update_self, Option.some.injEq] at found
      rw [← found, same]
    · rw [Function.update_of_ne same] at found
      exact accounted.pathId_of_outstanding pathId other found
  latest_of_outstanding := by
    intro pathId other found
    by_cases same : pathId = update.pathId
    · rw [same, Function.update_self, Option.some.injEq] at found
      rw [same, history.latestChange_recordChange_self, found]
    · rw [Function.update_of_ne same] at found
      rw [history.latestChange_recordChange_of_ne _ same]
      exact accounted.latest_of_outstanding pathId other found
  latest_of_sending := by
    intro other member notQueued
    by_cases same : other.pathId = update.pathId
    · rw [same, Function.update_self] at notQueued
      cases notQueued
    · rw [Function.update_of_ne same] at notQueued
      rw [history.latestChange_recordChange_of_ne _ same]
      exact accounted.latest_of_sending other member notQueued
  attributes := by
    intro pathId change isLatest
    by_cases same : pathId = update.pathId
    · rw [same, history.latestChange_recordChange_self, Option.some.injEq] at isLatest
      refine Or.inr (Or.inr ⟨update, ?_, isLatest⟩)
      rw [same, Function.update_self]
    · rw [history.latestChange_recordChange_of_ne _ same] at isLatest
      rw [Function.update_of_ne same]
      exact accounted.attributes pathId change isLatest
  events := accounted.events

theorem queueEvent
    (accounted : Accounted history outstanding outstandingEvents sending sendingEvents)
    (event : EventPathWithEventData Value) :
    Accounted (history.recordEvent event.change) outstanding
      (outstandingEvents ++ [event]) sending sendingEvents :=
  { accounted with
    events := by
      intro change member
      rcases List.mem_cons.mp member with same | earlier
      · exact Or.inr (Or.inr ⟨event, List.mem_append_right _ (List.mem_singleton_self event),
          same.symm⟩)
      · rcases accounted.events change earlier with acknowledged | isSending | queued
        · exact Or.inl acknowledged
        · exact Or.inr (Or.inl isSending)
        · rcases queued with ⟨other, isQueued, isChange⟩
          exact Or.inr (Or.inr ⟨other, List.mem_append_left _ isQueued, isChange⟩) }

theorem send (accounted : Accounted history outstanding outstandingEvents [] [])
    {message : List (AttributePathWithValueVersion Value)}
    (isMessage : ∀ update, update ∈ message ↔ ∃ pathId, outstanding pathId = some update) :
    Accounted history (fun _ => none) [] message outstandingEvents where
  pathId_of_outstanding := by
    intro pathId update found
    cases found
  latest_of_outstanding := by
    intro pathId update found
    cases found
  latest_of_sending := by
    intro update member _
    rcases (isMessage update).mp member with ⟨pathId, found⟩
    rw [accounted.pathId_of_outstanding pathId update found]
    exact accounted.latest_of_outstanding pathId update found
  attributes := by
    intro pathId change isLatest
    rcases accounted.attributes pathId change isLatest with acknowledged | isSending | queued
    · exact Or.inl acknowledged
    · rcases isSending with ⟨_, member, _⟩
      cases member
    · rcases queued with ⟨update, found, isChange⟩
      refine Or.inr (Or.inl ⟨update, (isMessage update).mpr ⟨pathId, found⟩, ?_, isChange⟩)
      exact accounted.pathId_of_outstanding pathId update found
  events := by
    intro change member
    rcases accounted.events change member with acknowledged | isSending | queued
    · exact Or.inl acknowledged
    · rcases isSending with ⟨_, member, _⟩
      cases member
    · exact Or.inr (Or.inl queued)

theorem acknowledge
    (accounted : Accounted history outstanding outstandingEvents sending sendingEvents) :
    Accounted (history.recordAcknowledged sending sendingEvents) outstanding outstandingEvents
      [] [] :=
  { accounted with
    latest_of_sending := by
      intro update member
      cases member
    attributes := by
      intro pathId change isLatest
      rcases accounted.attributes pathId change isLatest with acknowledged | isSending | queued
      · rcases acknowledged with ⟨update, member, isUpdate⟩
        exact Or.inl ⟨update, List.mem_append_left _ member, isUpdate⟩
      · rcases isSending with ⟨update, member, isUpdate⟩
        exact Or.inl ⟨update, List.mem_append_right _ member, isUpdate⟩
      · exact Or.inr (Or.inr queued)
    events := by
      intro change member
      rcases accounted.events change member with acknowledged | isSending | queued
      · rcases acknowledged with ⟨event, member, isEvent⟩
        exact Or.inl ⟨event, List.mem_append_left _ member, isEvent⟩
      · rcases isSending with ⟨event, member, isEvent⟩
        exact Or.inl ⟨event, List.mem_append_right _ member, isEvent⟩
      · exact Or.inr (Or.inr queued) }

theorem refill (accounted : Accounted history outstanding outstandingEvents sending sendingEvents)
    {refilled : ElementPathId → Option (AttributePathWithValueVersion Value)}
    (kept : ∀ pathId update, outstanding pathId = some update → refilled pathId = some update)
    (filled : ∀ pathId, outstanding pathId = none → ∀ update, refilled pathId = some update →
      update ∈ sending ∧ update.pathId = pathId)
    (complete : ∀ update ∈ sending, refilled update.pathId ≠ none) :
    Accounted history refilled (sendingEvents ++ outstandingEvents) [] [] where
  pathId_of_outstanding := by
    intro pathId update found
    cases before : outstanding pathId with
    | none => exact (filled pathId before update found).2
    | some queued =>
      rw [kept pathId queued before, Option.some.injEq] at found
      rw [← found]
      exact accounted.pathId_of_outstanding pathId queued before
  latest_of_outstanding := by
    intro pathId update found
    cases before : outstanding pathId with
    | none =>
      rcases filled pathId before update found with ⟨member, same⟩
      rw [← same]
      rw [← same] at before
      exact accounted.latest_of_sending update member before
    | some queued =>
      rw [kept pathId queued before, Option.some.injEq] at found
      rw [← found]
      exact accounted.latest_of_outstanding pathId queued before
  latest_of_sending := by
    intro update member
    cases member
  attributes := by
    intro pathId change isLatest
    rcases accounted.attributes pathId change isLatest with acknowledged | isSending | queued
    · exact Or.inl acknowledged
    · right
      right
      rcases isSending with ⟨update, member, samePath, isChange⟩
      cases before : outstanding pathId with
      | some queued =>
        refine ⟨queued, kept pathId queued before, ?_⟩
        exact Option.some.inj ((accounted.latest_of_outstanding pathId queued before).symm.trans
          isLatest)
      | none =>
        have isThere := complete update member
        rw [samePath] at isThere
        rcases Option.ne_none_iff_exists'.mp isThere with ⟨other, found⟩
        rcases filled pathId before other found with ⟨otherMember, otherPath⟩
        rw [← otherPath] at before
        have otherLatest := accounted.latest_of_sending other otherMember before
        rw [otherPath] at otherLatest
        exact ⟨other, found, Option.some.inj (otherLatest.symm.trans isLatest)⟩
    · rcases queued with ⟨update, found, isChange⟩
      exact Or.inr (Or.inr ⟨update, kept pathId update found, isChange⟩)
  events := by
    intro change member
    rcases accounted.events change member with acknowledged | isSending | queued
    · exact Or.inl acknowledged
    · rcases isSending with ⟨event, member, isEvent⟩
      exact Or.inr (Or.inr ⟨event, List.mem_append_left _ member, isEvent⟩)
    · rcases queued with ⟨event, member, isEvent⟩
      exact Or.inr (Or.inr ⟨event, List.mem_append_right _ member, isEvent⟩)

/-- A message that is dropped loses nothing when all of it is queued again already. -/
theorem drop (accounted : Accounted history outstanding outstandingEvents sending [])
    (superseded : ∀ update ∈ sending, outstanding update.pathId ≠ none) :
    Accounted history outstanding outstandingEvents [] [] :=
  { accounted with
    latest_of_sending := by
      intro update member
      cases member
    attributes := by
      intro pathId change isLatest
      rcases accounted.attributes pathId change isLatest with acknowledged | isSending | queued
      · exact Or.inl acknowledged
      · rcases isSending with ⟨update, member, samePath, _⟩
        have isThere := superseded update member
        rw [samePath] at isThere
        rcases Option.ne_none_iff_exists'.mp isThere with ⟨queued, found⟩
        refine Or.inr (Or.inr ⟨queued, found, ?_⟩)
        exact Option.some.inj ((accounted.latest_of_outstanding pathId queued found).symm.trans
          isLatest)
      · exact Or.inr (Or.inr queued) }

end Accounted

/-! ## The operations of a subscription -/

namespace CurrentUpdate

def attributes : CurrentUpdate Value → List (AttributePathWithValueVersion Value)
  | .sending attributes _ => attributes
  | _ => []

def events : CurrentUpdate Value → List (EventPathWithEventData Value)
  | .sending _ events => events
  | _ => []

end CurrentUpdate

namespace ServerSubscription

def AccountsFor (subscription : ServerSubscription Value)
    (history : SubscriptionHistory Value) : Prop :=
  Accounted history subscription.outstandingAttributeUpdates.get
    subscription.outstandingEventUpdates subscription.currentUpdate.attributes
    subscription.currentUpdate.events

def QueuesAccountFor (subscription : ServerSubscription Value)
    (history : SubscriptionHistory Value) : Prop :=
  Accounted history subscription.outstandingAttributeUpdates.get
    subscription.outstandingEventUpdates [] []

variable {subscription : ServerSubscription Value} {history : SubscriptionHistory Value}

theorem exists_prepareDataUpdate (now : Nat) (subscription : ServerSubscription Value) :
    ∃ updateTimerRunning sendDelayTimerRunning, subscription.prepareDataUpdate now =
      { subscription with updateTimerRunning, sendDelayTimerRunning } := by
  rw [prepareDataUpdate]
  split
  · exact ⟨_, _, rfl⟩
  · split
    · exact ⟨_, _, rfl⟩
    · split <;> exact ⟨_, _, rfl⟩

theorem AccountsFor.prepareDataUpdate (accounts : subscription.AccountsFor history) (now : Nat) :
    (subscription.prepareDataUpdate now).AccountsFor history := by
  rcases exists_prepareDataUpdate now subscription with ⟨_, _, same⟩
  rw [same]
  exact accounts

theorem AccountsFor.queueAttribute (accounts : subscription.AccountsFor history)
    (update : AttributePathWithValueVersion Value) :
    (subscription.queueAttribute update).AccountsFor
      (history.recordChange update.pathId update.change) := by
  have queued := Accounted.queue accounts update
  have same : (subscription.outstandingAttributeUpdates.set update.pathId update).get =
      Function.update subscription.outstandingAttributeUpdates.get update.pathId
        (some update) := by
    funext pathId
    rw [OrderedMap.get_set, Function.update_apply]
  rw [← same] at queued
  exact queued

theorem mem_groupByCluster (updates : List (AttributePathWithValueVersion Value))
    (update : AttributePathWithValueVersion Value) :
    update ∈ (groupByCluster updates).values.flatten ↔ update ∈ updates := by
  suffices grouped : ∀ groups : OrderedMap (Option Nat × Nat × Nat)
      (List (AttributePathWithValueVersion Value)),
      update ∈ (updates.foldl (fun groups update => groups.set update.clusterId
        ((groups.get update.clusterId).getD [] ++ [update])) groups).values.flatten ↔
          update ∈ groups.values.flatten ∨ update ∈ updates by
    exact (grouped {}).trans (or_iff_right List.not_mem_nil)
  induction updates with
  | nil => simp
  | cons first updates induction =>
    intro groups
    rw [List.foldl_cons, induction, List.mem_cons, ← or_assoc]
    apply or_congr_left
    simp only [List.mem_flatten, OrderedMap.mem_values_iff, OrderedMap.get_set]
    constructor
    · rintro ⟨group, ⟨key, found⟩, member⟩
      by_cases same : key = first.clusterId
      · rw [if_pos same, Option.some.injEq] at found
        rw [← found, List.mem_append, List.mem_singleton] at member
        rcases member with earlier | isFirst
        · cases before : groups.get first.clusterId with
          | none =>
            rw [before] at earlier
            cases earlier
          | some old =>
            rw [before] at earlier
            exact Or.inl ⟨old, ⟨first.clusterId, before⟩, earlier⟩
        · exact Or.inr isFirst
      · rw [if_neg same] at found
        exact Or.inl ⟨group, ⟨key, found⟩, member⟩
    · rintro (⟨group, ⟨key, found⟩, member⟩ | isFirst)
      · by_cases same : key = first.clusterId
        · rw [same] at found
          refine ⟨group ++ [first], ⟨first.clusterId, ?_⟩, List.mem_append_left _ member⟩
          rw [if_pos rfl, found, Option.getD_some]
        · exact ⟨group, ⟨key, by rw [if_neg same, found]⟩, member⟩
      · refine ⟨_, ⟨first.clusterId, if_pos rfl⟩, ?_⟩
        rw [isFirst]
        exact List.mem_append_right _ (List.mem_singleton_self first)

theorem mem_attributeUpdatesToSend (subscription : ServerSubscription Value)
    (update : AttributePathWithValueVersion Value) :
    update ∈ subscription.attributeUpdatesToSend ↔
      ∃ pathId, subscription.outstandingAttributeUpdates.get pathId = some update := by
  rw [← OrderedMap.mem_values_iff, attributeUpdatesToSend, List.mem_flatMap]
  simp only [List.mem_mergeSort]
  rw [← List.mem_flatten, mem_groupByCluster]

theorem QueuesAccountFor.sendUpdate (accounts : subscription.QueuesAccountFor history)
    (now : Nat) (onlyWithData : Bool) :
    (subscription.sendUpdate now onlyWithData).AccountsFor history := by
  have sent := Accounted.send accounts subscription.mem_attributeUpdatesToSend
  rw [ServerSubscription.sendUpdate]
  split
  next nothing =>
    rw [Bool.and_eq_true, Bool.and_eq_true, List.isEmpty_iff, List.isEmpty_iff] at nothing
    rw [nothing.1.2, nothing.2] at sent
    exact sent
  next _ => exact sent

theorem AccountsFor.triggerSendUpdate (accounts : subscription.AccountsFor history)
    (now : Nat) : (subscription.triggerSendUpdate now).AccountsFor history := by
  rw [ServerSubscription.triggerSendUpdate]
  split
  next isNone =>
    rw [AccountsFor, isNone] at accounts
    exact QueuesAccountFor.sendUpdate accounts now false
  next _ => exact accounts

theorem QueuesAccountFor.sendDelayedUpdate (accounts : subscription.QueuesAccountFor history)
    (now : Nat) : (subscription.sendDelayedUpdate now).AccountsFor history := by
  rw [ServerSubscription.sendDelayedUpdate]
  split
  · have delayed : QueuesAccountFor { subscription with sendNextUpdateImmediately := false }
      history := accounts
    exact delayed.sendUpdate now true
  · exact accounts

theorem AccountsFor.refill {attributes : List (AttributePathWithValueVersion Value)}
    {events : List (EventPathWithEventData Value)} (accounts : subscription.AccountsFor history)
    (isSending : subscription.currentUpdate = .sending attributes events) :
    (subscription.refill attributes events).QueuesAccountFor history := by
  rw [AccountsFor, isSending] at accounts
  let outstanding := subscription.outstandingAttributeUpdates
  have isOwn := OrderedMap.find_values AttributePathWithValueVersion.pathId outstanding
    accounts.pathId_of_outstanding
  have isRefilled : ∀ pathId,
      (subscription.refill attributes events).outstandingAttributeUpdates.get pathId =
        (outstanding.get pathId).or
          (attributes.reverse.find? fun update => update.pathId = pathId) := by
    intro pathId
    have refilled := OrderedMap.get_foldl_set AttributePathWithValueVersion.pathId
      (attributes ++ outstanding.values) {} pathId
    rw [List.reverse_append, List.find?_append, isOwn] at refilled
    exact refilled.trans (by rw [show ({} : OrderedMap ElementPathId
      (AttributePathWithValueVersion Value)).get pathId = none from rfl, Option.or_none])
  refine Accounted.refill accounts ?_ ?_ ?_
  · intro pathId update found
    rw [isRefilled, found, Option.some_or]
  · intro pathId before update found
    rw [isRefilled, before] at found
    have same : update.pathId = pathId := by simpa using List.find?_some found
    exact ⟨List.mem_reverse.mp (List.mem_of_find?_eq_some found), same⟩
  · intro update member isNone
    rw [isRefilled, Option.or_eq_none_iff, List.find?_eq_none] at isNone
    exact isNone.2 update (List.mem_reverse.mpr member) (decide_eq_true rfl)

/-- Whether nothing is dropped in a step: a change that is to be read can be read, and a
message that fails for the third time or later, other than for the network, is one that is
queued again altogether. -/
def DropsNothing (subscription : ServerSubscription Value) : Event Value → Prop
  | .attributeChange path _ _ read _ => ∀ attributeServer,
      subscription.attributeListeners.get (genericElementPathToId path) = some attributeServer →
        attributeServer.isFabricScoped → ∃ value, read = .ok value
  | .sendEnds .otherError _ => subscription.isClosed = false →
      2 ≤ subscription.sendUpdateErrorCounter →
        subscription.currentUpdate.events = [] ∧
          ∀ update ∈ subscription.currentUpdate.attributes,
            subscription.outstandingAttributeUpdates.get update.pathId ≠ none
  | _ => True

def record (subscription : ServerSubscription Value) (change : Nat)
    (history : SubscriptionHistory Value) : Event Value → SubscriptionHistory Value
  | .attributeChange path _ _ _ _ =>
    if subscription.attributeListeners.has (genericElementPathToId path) then
      history.recordChange (genericElementPathToId path) change
    else history
  | .eventTriggered path newEvent _ =>
    match subscription.eventListeners.get (genericElementPathToId path.toElementPath) with
    | none => history
    | some eventServer =>
      if subscription.isOfOtherFabric eventServer newEvent then history
      else history.recordEvent change
  | .sendEnds .acknowledged _ =>
    history.recordAcknowledged subscription.currentUpdate.attributes
      subscription.currentUpdate.events
  | _ => history

theorem AccountsFor.attributeChangeHandler (accounts : subscription.AccountsFor history)
    (path : ElementPath) (version : Nat) (value : Value) (read : Except MatterError Value)
    (change now : Nat)
    (isRead : subscription.DropsNothing (.attributeChange path version value read now)) :
    (subscription.next change (.attributeChange path version value read now)).AccountsFor
      (subscription.record change history (.attributeChange path version value read now)) := by
  rw [next, record, OrderedMap.has]
  rcases (subscription.attributeListeners.get
    (genericElementPathToId path)).eq_none_or_eq_some with listens | ⟨attributeServer, listens⟩
  · rw [ServerSubscription.attributeChangeHandler, listens]
    exact accounts
  · let update (value : Value) : AttributePathWithValueVersion Value :=
      { path, attributeServer, version, value, change }
    have queued : ∀ {subscription : ServerSubscription Value}
        {history : SubscriptionHistory Value}, subscription.AccountsFor history →
        ∀ value, ((subscription.queueAttribute (update value)).prepareDataUpdate
          now).AccountsFor (history.recordChange (genericElementPathToId path) change) :=
      fun accounts value => (accounts.queueAttribute (update value)).prepareDataUpdate now
    by_cases isScoped : attributeServer.isFabricScoped
    · rcases isRead attributeServer listens isScoped with ⟨readValue, reads⟩
      have once := queued accounts readValue
      have twice := queued once value
      have same : (history.recordChange (genericElementPathToId path) change).recordChange
          (genericElementPathToId path) change =
            history.recordChange (genericElementPathToId path) change := by
        simp [SubscriptionHistory.recordChange]
      rw [same] at twice
      rw [ServerSubscription.attributeChangeHandler, listens, reads]
      simp only [isScoped]
      exact twice
    · rw [ServerSubscription.attributeChangeHandler, listens]
      simp only [isScoped]
      exact queued accounts value

theorem AccountsFor.eventChangeListener (accounts : subscription.AccountsFor history)
    (path : EventPath) (newEvent : NumberedOccurrence Value) (change now : Nat) :
    (subscription.next change (.eventTriggered path newEvent now)).AccountsFor
      (subscription.record change history (.eventTriggered path newEvent now)) := by
  rw [next, record, ServerSubscription.eventChangeListener]
  cases subscription.eventListeners.get (genericElementPathToId path.toElementPath) with
  | none => exact accounts
  | some eventServer =>
    by_cases isOther : subscription.isOfOtherFabric eventServer newEvent
    · simp only [isOther]
      exact accounts
    · simp only [isOther]
      have queued : AccountsFor { subscription with
          outstandingEventUpdates := subscription.outstandingEventUpdates ++
            [{ path, eventServer, data := newEvent, change }] }
          (history.recordEvent change) :=
        Accounted.queueEvent accounts { path, eventServer, data := newEvent, change }
      by_cases isUrgent : path.isUrgent
      · simp only [isUrgent]
        exact queued.prepareDataUpdate now
      · simp only [isUrgent]
        exact queued

theorem AccountsFor.sendFailed {attributes : List (AttributePathWithValueVersion Value)}
    {events : List (EventPathWithEventData Value)} (accounts : subscription.AccountsFor history)
    (isOpen : subscription.isClosed = false)
    (isSending : subscription.currentUpdate = .sending attributes events) (now : Nat)
    (isNetworkError : Bool)
    (dropsNothing : isNetworkError = false → 2 ≤ subscription.sendUpdateErrorCounter →
      events = [] ∧ ∀ update ∈ attributes,
        subscription.outstandingAttributeUpdates.get update.pathId ≠ none) :
    (subscription.sendFailed now isNetworkError attributes events).isClosed = true ∨
      (subscription.sendFailed now isNetworkError attributes events).AccountsFor history := by
  have notClosed : ¬subscription.isClosed = true := by
    rw [isOpen]
    exact Bool.false_ne_true
  rw [ServerSubscription.sendFailed, if_neg notClosed]
  by_cases few : subscription.sendUpdateErrorCounter + 1 ≤ 2
  · right
    simp only [few]
    have failed : AccountsFor { subscription with
      sendUpdateErrorCounter := subscription.sendUpdateErrorCounter + 1 } history := accounts
    exact (failed.refill isSending).sendDelayedUpdate now
  · simp only [few]
    cases isNetworkError with
    | true => exact Or.inl rfl
    | false =>
      right
      have dropped := dropsNothing rfl (by omega)
      rw [AccountsFor, isSending, dropped.1] at accounts
      exact Accounted.drop accounts dropped.2

theorem AccountsFor.sendEnds (accounts : subscription.AccountsFor history)
    (isOpen : subscription.isClosed = false) (change now : Nat) (outcome : SendOutcome)
    (dropsNothing : subscription.DropsNothing (.sendEnds outcome now)) :
    (subscription.sendEnds now outcome).isClosed = true ∨
      (subscription.sendEnds now outcome).AccountsFor
        (subscription.record change history (.sendEnds outcome now)) := by
  rw [ServerSubscription.sendEnds]
  split
  next attributes events isSending =>
    have isOpenNot : ¬subscription.isClosed = true := by
      rw [isOpen]
      exact Bool.false_ne_true
    cases outcome with
    | acknowledged =>
      right
      have acknowledged := Accounted.acknowledge accounts
      have queues : QueuesAccountFor { subscription with sendUpdateErrorCounter := 0 }
        (history.recordAcknowledged subscription.currentUpdate.attributes
          subscription.currentUpdate.events) := acknowledged
      exact queues.sendDelayedUpdate now
    | statusResponse isCanceled =>
      left
      simp only [if_neg isOpenNot]
      rfl
    | networkError =>
      exact accounts.sendFailed isOpen isSending now true (fun isFalse => by cases isFalse)
    | otherError =>
      apply accounts.sendFailed isOpen isSending now false
      intro _ many
      have dropped := dropsNothing isOpen many
      rw [isSending] at dropped
      exact dropped
  next notSending =>
    right
    cases outcome with
    | acknowledged =>
      have nothing : subscription.currentUpdate.attributes = [] ∧
          subscription.currentUpdate.events = [] := by
        cases isUpdate : subscription.currentUpdate with
        | sending attributes events => exact absurd isUpdate (notSending attributes events)
        | none | ended | waitsForItself => exact ⟨rfl, rfl⟩
      have same : subscription.record change history (.sendEnds .acknowledged now) =
          history := by
        rw [record, nothing.1, nothing.2, SubscriptionHistory.recordAcknowledged,
          List.append_nil, List.append_nil]
      rw [same]
      exact accounts
    | statusResponse isCanceled => exact accounts
    | networkError => exact accounts
    | otherError => exact accounts

/-! ## Closed subscriptions -/

section Closed

variable (isClosed : subscription.isClosed = true)
include isClosed

variable (now : Nat)

theorem isClosed_prepareDataUpdate : (subscription.prepareDataUpdate now).isClosed = true := by
  rcases exists_prepareDataUpdate now subscription with ⟨_, _, same⟩
  rw [same]
  exact isClosed

theorem isClosed_sendUpdate (onlyWithData : Bool) :
    (subscription.sendUpdate now onlyWithData).isClosed = true := by
  rw [sendUpdate]
  split <;> exact isClosed

theorem isClosed_triggerSendUpdate : (subscription.triggerSendUpdate now).isClosed = true := by
  rw [triggerSendUpdate]
  split
  · exact isClosed_sendUpdate isClosed now false
  · exact isClosed

theorem isClosed_sendDelayedUpdate : (subscription.sendDelayedUpdate now).isClosed = true := by
  rw [sendDelayedUpdate]
  split
  · apply isClosed_sendUpdate
    exact isClosed
  · exact isClosed

theorem isClosed_sendSucceeded : (subscription.sendSucceeded now).isClosed = true := by
  apply isClosed_sendDelayedUpdate
  exact isClosed

theorem isClosed_attributeChangeHandler {read : Except MatterError Value} {path : ElementPath}
    {version change now : Nat} {value : Value} {after : ServerSubscription Value}
    (handles : subscription.attributeChangeHandler read path version value change now =
      .ok after) : after.isClosed = true := by
  have queued : ∀ (subscription : ServerSubscription Value) update,
      subscription.isClosed = true →
        ((subscription.queueAttribute update).prepareDataUpdate now).isClosed = true :=
    fun subscription update closed =>
      @isClosed_prepareDataUpdate Value (subscription.queueAttribute update) closed now
  rw [attributeChangeHandler] at handles
  split at handles
  · cases handles
    exact isClosed
  · split at handles
    · split at handles
      · cases handles
      · cases handles
        exact queued _ _ (queued _ _ isClosed)
    · cases handles
      exact queued _ _ isClosed

theorem isClosed_eventChangeListener (path : EventPath) (newEvent : NumberedOccurrence Value)
    (change now : Nat) :
    (subscription.eventChangeListener path newEvent change now).isClosed = true := by
  rw [eventChangeListener]
  split
  · exact isClosed
  · split
    · exact isClosed
    · dsimp only
      split
      · apply isClosed_prepareDataUpdate
        exact isClosed
      · exact isClosed

theorem isClosed_sendEnds (outcome : SendOutcome) :
    (subscription.sendEnds now outcome).isClosed = true := by
  rw [sendEnds]
  split
  · cases outcome with
    | acknowledged => exact isClosed_sendSucceeded isClosed now
    | statusResponse isCanceled =>
      simp only [if_pos isClosed]
      apply isClosed_sendSucceeded
      exact isClosed
    | networkError =>
      simp only [sendFailed, if_pos isClosed]
      exact isClosed
    | otherError =>
      simp only [sendFailed, if_pos isClosed]
      exact isClosed
  · exact isClosed

theorem isClosed_next (change : Nat) (event : Event Value) :
    (subscription.next change event).isClosed = true := by
  cases event with
  | activate now =>
    rw [next, activate]
    split
    · apply isClosed_triggerSendUpdate
      exact isClosed
    · exact isClosed
  | attributeChange path version value read now =>
    rw [next]
    split
    next after handles => exact isClosed_attributeChangeHandler isClosed handles
    next _ => exact isClosed
  | eventTriggered path newEvent now =>
    exact isClosed_eventChangeListener isClosed path newEvent change now
  | updateTimerFires now =>
    rw [next]
    split
    · apply isClosed_prepareDataUpdate
      exact isClosed
    · exact isClosed
  | sendDelayTimerFires now =>
    rw [next]
    split
    · apply isClosed_triggerSendUpdate
      exact isClosed
    · exact isClosed
  | sendEnds outcome now => exact isClosed_sendEnds isClosed now outcome
  | updateSettles =>
    rw [next]
    split <;> exact isClosed
  | close graceful cancelledByPeer now =>
    rw [next, close, if_pos isClosed]
    exact isClosed

end Closed

theorem AccountsFor.next (accounts : subscription.AccountsFor history)
    (isOpen : subscription.isClosed = false) (change : Nat) (event : Event Value)
    (dropsNothing : subscription.DropsNothing event) :
    (subscription.next change event).isClosed = true ∨
      (subscription.next change event).AccountsFor
        (subscription.record change history event) := by
  have notClosed : ¬subscription.isClosed = true := by
    rw [isOpen]
    exact Bool.false_ne_true
  cases event with
  | activate now =>
    right
    have activated : AccountsFor { subscription with sendUpdatesActivated := true } history :=
      accounts
    rw [ServerSubscription.next, activate]
    split
    · exact activated.triggerSendUpdate now
    · exact activated
  | attributeChange path version value read now =>
    exact Or.inr (accounts.attributeChangeHandler path version value read change now dropsNothing)
  | eventTriggered path newEvent now =>
    exact Or.inr (accounts.eventChangeListener path newEvent change now)
  | updateTimerFires now =>
    right
    have fired : AccountsFor { subscription with updateTimerRunning := false } history :=
      accounts
    rw [ServerSubscription.next]
    split
    · exact fired.prepareDataUpdate now
    · exact accounts
  | sendDelayTimerFires now =>
    right
    have fired : AccountsFor { subscription with sendDelayTimerRunning := false } history :=
      accounts
    rw [ServerSubscription.next]
    split
    · exact fired.triggerSendUpdate now
    · exact accounts
  | sendEnds outcome now => exact accounts.sendEnds isOpen change now outcome dropsNothing
  | updateSettles =>
    right
    rw [ServerSubscription.next]
    split
    next isEnded =>
      rw [AccountsFor, isEnded] at accounts
      exact accounts
    next _ => exact accounts
  | close graceful cancelledByPeer now =>
    left
    rw [ServerSubscription.next, close, if_neg notClosed]
    split
    · rw [flush]
      split
      · apply isClosed_triggerSendUpdate
        rfl
      · rfl
    · rfl

end ServerSubscription

/-- A subscription with its history; `steps` numbers the changes and events. -/
structure ObservedSubscription (Value : Type u) where
  subscription : ServerSubscription Value
  steps : Nat
  history : SubscriptionHistory Value

namespace ObservedSubscription

def establish (fabricIndex : Option Nat) (isFabricFiltered : Bool) (minIntervalFloorMs : Nat)
    (attributeListeners : OrderedMap ElementPathId SubscribedAttribute)
    (eventListeners : OrderedMap ElementPathId SubscribedEvent) (now : Nat) :
    ObservedSubscription Value where
  subscription := .establish fabricIndex isFabricFiltered minIntervalFloorMs attributeListeners
    eventListeners now
  steps := 0
  history :=
    { latestChange := fun _ => none
      triggeredEvents := []
      acknowledgedAttributes := []
      acknowledgedEvents := [] }

theorem accountsFor_establish (fabricIndex : Option Nat) (isFabricFiltered : Bool)
    (minIntervalFloorMs : Nat)
    (attributeListeners : OrderedMap ElementPathId SubscribedAttribute)
    (eventListeners : OrderedMap ElementPathId SubscribedEvent) (now : Nat) :
    let observed : ObservedSubscription Value := establish fabricIndex isFabricFiltered
      minIntervalFloorMs attributeListeners eventListeners now
    observed.subscription.AccountsFor observed.history where
  pathId_of_outstanding := by
    intro pathId update found
    cases found
  latest_of_outstanding := by
    intro pathId update found
    cases found
  latest_of_sending := by
    intro update member
    cases member
  attributes := by
    intro pathId change isLatest
    cases isLatest
  events := by
    intro change member
    cases member

def next (observed : ObservedSubscription Value) (event : ServerSubscription.Event Value) :
    ObservedSubscription Value where
  subscription := observed.subscription.next observed.steps event
  steps := observed.steps + 1
  history := observed.subscription.record observed.steps observed.history event

/-- The latest change of every attribute and every event that was triggered has been
acknowledged, or is in the message that is being sent, or in the queues. -/
structure LosesNothing (observed : ObservedSubscription Value) : Prop where
  attributes : ∀ pathId change, observed.history.latestChange pathId = some change →
    HoldsChange observed.history.acknowledgedAttributes pathId change ∨
      HoldsChange observed.subscription.currentUpdate.attributes pathId change ∨
        HoldsChange observed.subscription.outstandingAttributeUpdates.values pathId change
  events : ∀ change ∈ observed.history.triggeredEvents,
    HoldsEvent observed.history.acknowledgedEvents change ∨
      HoldsEvent observed.subscription.currentUpdate.events change ∨
        HoldsEvent observed.subscription.outstandingEventUpdates change

theorem losesNothing_of_accountsFor {observed : ObservedSubscription Value}
    (accounts : observed.subscription.AccountsFor observed.history) :
    observed.LosesNothing where
  attributes := by
    intro pathId change isLatest
    rcases accounts.attributes pathId change isLatest with acknowledged | isSending | queued
    · exact Or.inl acknowledged
    · exact Or.inr (Or.inl isSending)
    · rcases queued with ⟨update, found, isChange⟩
      refine Or.inr (Or.inr ⟨update, ?_, ?_, isChange⟩)
      · exact (OrderedMap.mem_values_iff _ _).mpr ⟨pathId, found⟩
      · exact accounts.pathId_of_outstanding pathId update found
  events := accounts.events

/-- In a run that drops nothing, a subscription that is not closed has lost nothing. -/
theorem losesNothing_of_run {fabricIndex : Option Nat} {isFabricFiltered : Bool}
    {minIntervalFloorMs : Nat}
    {attributeListeners : OrderedMap ElementPathId SubscribedAttribute}
    {eventListeners : OrderedMap ElementPathId SubscribedEvent} {now : Nat}
    {events : List (ServerSubscription.Event Value)}
    (dropsNothing : Execution.Along next
      (fun observed event => observed.subscription.DropsNothing event)
      (establish fabricIndex isFabricFiltered minIntervalFloorMs attributeListeners
        eventListeners now) events) :
    let after := Execution.run next (establish fabricIndex isFabricFiltered minIntervalFloorMs
      attributeListeners eventListeners now) events
    after.subscription.isClosed = false → after.LosesNothing := by
  have accounts := Execution.run_invariant_along (fun observed : ObservedSubscription Value =>
    observed.subscription.isClosed = true ∨ observed.subscription.AccountsFor observed.history) (by
    intro observed event eventDropsNothing holds
    cases isClosed : observed.subscription.isClosed with
    | true => exact Or.inl (ServerSubscription.isClosed_next isClosed observed.steps event)
    | false =>
      rcases holds with closed | accounts
      · rw [isClosed] at closed
        cases closed
      · exact accounts.next isClosed observed.steps event eventDropsNothing)
    (Or.inr (accountsFor_establish fabricIndex isFabricFiltered minIntervalFloorMs
      attributeListeners eventListeners now)) dropsNothing
  intro after isOpen
  rcases accounts with closed | accounts
  · rw [isOpen] at closed
    cases closed
  · exact losesNothing_of_accountsFor accounts

def examplePath : ElementPath :=
  { nodeId := none, endpointId := 1, clusterId := 6, elementId := 0 }

def exampleEstablished : ObservedSubscription Nat :=
  establish (some 1) true 0
    (OrderedMap.empty.set (genericElementPathToId examplePath)
      { isFabricScoped := false, hasFabricSensitiveData := false }) {} 0

/-- A message that fails once, and is acknowledged when it is sent again. -/
def exampleDelivery : List (ServerSubscription.Event Nat) :=
  [.activate 0, .attributeChange examplePath 1 5 (.ok 5) 10, .sendDelayTimerFires 60,
    .sendEnds .otherError 70, .updateSettles, .updateTimerFires 80, .sendDelayTimerFires 130,
    .sendEnds .acknowledged 140]

theorem losesNothing_of_exampleDelivery :
    (Execution.run next exampleEstablished exampleDelivery).LosesNothing := by
  have dropsNothing : Execution.Along next
      (fun observed event => observed.subscription.DropsNothing event) exampleEstablished
      exampleDelivery := by
    refine ⟨trivial, ?_, trivial, ?_, trivial, trivial, trivial, trivial, trivial⟩
    · intro attributeServer listens isScoped
      cases listens
      cases isScoped
    · intro _ many
      cases many
  exact losesNothing_of_run dropsNothing rfl

/-- A message that fails three times, for another reason than the network. -/
def exampleFailures : List (ServerSubscription.Event Nat) :=
  [.activate 0, .attributeChange examplePath 1 5 (.ok 5) 10, .sendDelayTimerFires 60,
    .sendEnds .otherError 70, .updateSettles, .updateTimerFires 80, .sendDelayTimerFires 130,
    .sendEnds .otherError 140, .updateSettles, .updateTimerFires 150, .sendDelayTimerFires 200,
    .sendEnds .otherError 210]

/-- The third time its change is lost, and the subscription stays open. -/
theorem exampleFailures_lose_change :
    let after := Execution.run next exampleEstablished exampleFailures
    after.subscription.isClosed = false ∧ ¬after.LosesNothing := by
  refine ⟨rfl, fun losesNothing => ?_⟩
  have covered := losesNothing.attributes (genericElementPathToId examplePath) 1 rfl
  rcases covered with ⟨update, member, _⟩ | ⟨update, member, _⟩ | ⟨update, member, _⟩ <;>
    exact List.not_mem_nil member

end ObservedSubscription

end MatterJs.Protocol
