import Mathlib.Data.Prod.Lex
import MatterJs.Protocol.ReportLoop

/-! When sending the reports of a payload ends. Each round reads, or places a report, or
empties the message, unless the message is empty already. -/

namespace MatterJs.Protocol.InteractionServerMessenger

open General MatterJs.Types Iteration

variable {reporting : Reporting} {state after : SendState}
  {attributeToSend : QueuedAttributeReport}

/-! ## Rounds that change nothing -/

def hasNoReports (reporting : Reporting) (state : SendState) : Bool :=
  state.messageSize = reporting.emptyDataReportBytes.length &&
    state.dataReport.attributeReports.isNone && state.dataReport.eventReports.isNone

/-- The report whose turn it is does not fit into any message and is not chunked into this
one. It needs the message to be sent, to which no report was added. -/
structure Stuck (reporting : Reporting) (state : SendState) : Prop where
  nothingRead : readsNewData state = .ok false
  noReports : hasNoReports reporting state = true
  sendable : ∃ message,
    sendDataReportMessage reporting.maxPayloadSize state.dataReport = .ok message
  oversized : ∃ attributeToSend queue waiting sendOutTheMessage,
    state.attributeReportsToSend = attributeToSend :: queue ∧
      IsOversized reporting attributeToSend ∧
      placeBigAttribute reporting { state with attributeReportsToSend := queue } attributeToSend
        (availableBytes reporting state) = .ok (.postponed waiting sendOutTheMessage) ∧
      needsSending reporting waiting sendOutTheMessage = true

theorem hasNoReports_iff : hasNoReports reporting state = true ↔
    state.messageSize = reporting.emptyDataReportBytes.length ∧
      state.dataReport.attributeReports = none ∧ state.dataReport.eventReports = none := by
  simp [hasNoReports, and_assoc]

theorem hasNoReports_afterSending (message : SentMessage) :
    hasNoReports reporting (afterSending reporting state message) = true :=
  hasNoReports_iff.mpr ⟨rfl, rfl, rfl⟩

theorem placeBigAttribute_congr {other waiting : SendState} {available : Int}
    {sendOutTheMessage : Bool} (same : other.allDataReceived = state.allDataReceived)
    (placed : placeBigAttribute reporting state attributeToSend available =
      .ok (.postponed waiting sendOutTheMessage)) :
    ∃ otherWaiting, placeBigAttribute reporting other attributeToSend available =
      .ok (.postponed otherWaiting sendOutTheMessage) := by
  rw [placeBigAttribute] at placed ⊢
  rw [same]
  split at placed
  · rename_i chunkable
    rcases placeChunks_eq_ok placed with ⟨emptyChunk, first, chunks, size, chunked, isSize,
      ⟨short, isPostponed⟩ | ⟨_, _, isChunked, _⟩⟩
    · cases isPostponed
      refine ⟨other, ?_⟩
      rw [if_pos chunkable, placeChunks, chunked]
      rcases bind_eq_ok_iff.mp isSize with ⟨encoded, encodes, isLength⟩
      show encodeAttributePayload _ _ >>= _ = _
      rw [encodes]
      show AnySchema.getEncodedByteLength encoded >>= _ = _
      rw [isLength]
      show (if available > size then _ else _) = _
      rw [if_neg (Int.not_lt.mpr short)]
      rfl
    · cases isChunked
  · rename_i notChunkable
    rw [if_neg notChunkable]
    split at placed
    · rename_i next
      cases placed
      exact ⟨other, by rw [if_pos next]⟩
    · rename_i notNext
      cases placed
      exact ⟨_, by rw [if_neg notNext]⟩

theorem needsSending_congr {other : SendState} (sendOutTheMessage : Bool)
    (sameSize : other.messageSize = state.messageSize)
    (sameQueue : other.attributeReportsToSend = state.attributeReportsToSend) :
    needsSending reporting other sendOutTheMessage =
      needsSending reporting state sendOutTheMessage := by
  rw [needsSending, needsSending, availableBytes, availableBytes, sameSize, sameQueue]

theorem readsNewData_queueFirst (first : state.processQueueFirst = true)
    (waits : state.attributeReportsToSend ≠ []) : readsNewData state = .ok false := by
  rw [readsNewData]
  split
  · rfl
  · rw [if_neg (by simp [waits]), if_neg (by simp [first])]

theorem queueFirst_of_nothingRead {queue : List QueuedAttributeReport}
    (nothingRead : readsNewData state = .ok false) (notAll : state.allDataReceived = false)
    (isFirst : state.attributeReportsToSend = attributeToSend :: queue)
    (notNext : attributeToSend.needSendNext = false)
    (short : queue.length < DATA_REPORT_MAX_QUEUED_ATTRIBUTE_MESSAGES) :
    state.processQueueFirst = true := by
  by_contra notFirst
  have lengths : (attributeToSend :: queue).length ≤ DATA_REPORT_MAX_QUEUED_ATTRIBUTE_MESSAGES :=
    short
  simp [readsNewData, notAll, isFirst, notFirst, notNext] at nothingRead
  exact absurd lengths (by simpa using nothingRead)

theorem Stuck.next (stuck : Stuck reporting state) :
    ∃ after, round reporting state = .next after ∧ Stuck reporting after := by
  rcases stuck.oversized with
    ⟨attributeToSend, queue, waiting, sendOutTheMessage, isFirst, oversized, placed, needed⟩
  rcases stuck.sendable with ⟨message, sends⟩
  rcases hasNoReports_iff.mp stuck.noReports with ⟨isEmpty, noAttributes, noEvents⟩
  rcases waiting_fields placed with
    ⟨_, sameAll, sameSize, sameReport, sameQueue, _, _⟩
  have tooBig : attributeToSend.encodedSize > availableBytes reporting state := by
    rw [availableBytes, isEmpty]
    exact oversized
  let after : SendState := { afterSending reporting waiting message with
    attributeReportsToSend := attributeToSend :: waiting.attributeReportsToSend }
  rw [← sameReport] at sends
  have sendsAttribute : sendAttribute reporting { state with attributeReportsToSend := queue }
      attributeToSend = .ok after :=
    sendAttribute_putBack tooBig placed needed sends oversized
  refine ⟨after, ?_, ?_⟩
  · have iterates : iteration reporting state = .ok (.yield after) := by
      refine bind_eq_ok_iff.mpr ⟨false, stuck.nothingRead, ?_⟩
      simp only [processQueues, isFirst]
      exact bind_eq_ok_iff.mpr ⟨after, sendsAttribute, rfl⟩
    rw [round, iterates]
  · have sameSizeAfter : after.messageSize = state.messageSize := isEmpty.symm
    rcases placeBigAttribute_congr
        (show ({ after with attributeReportsToSend := queue } : SendState).allDataReceived =
          ({ state with attributeReportsToSend := queue } : SendState).allDataReceived from sameAll)
        placed with ⟨otherWaiting, placedAgain⟩
    rcases waiting_fields placedAgain with
      ⟨_, _, otherSize, _, otherQueue, _, _⟩
    refine ⟨readsNewData_queueFirst rfl (List.cons_ne_nil _ _),
      hasNoReports_afterSending message, ⟨message, ?_⟩, ?_⟩
    · have sameMessage : after.dataReport = waiting.dataReport := by
        rw [← sameReport] at noAttributes noEvents
        exact DataReport.withoutReports_of_none noAttributes noEvents
      rw [sameMessage]
      exact sends
    · refine ⟨attributeToSend, queue, otherWaiting, sendOutTheMessage, ?_, oversized, ?_, ?_⟩
      · show attributeToSend :: waiting.attributeReportsToSend = _
        rw [sameQueue]
      · have sameBytes : availableBytes reporting after = availableBytes reporting state := by
          rw [availableBytes, availableBytes, sameSizeAfter]
        rw [sameBytes]
        exact placedAgain
      · rw [needsSending_congr sendOutTheMessage (otherSize.trans (sameSizeAfter.trans sameSize.symm))
          (otherQueue.trans sameQueue.symm)]
        exact needed

/-! ## Rounds that make progress -/

theorem chunks_unchunkable {report emptyChunk : AttributeReportPayload}
    {chunks : List AttributeReportPayload}
    (chunked : chunkAttributePayload report = .ok (emptyChunk :: chunks)) :
    ∀ chunk ∈ chunks, canAttributePayloadBeChunked chunk = false := by
  rcases report with ⟨sensitive, data, status⟩
  match data with
  | some ⟨schema, path, payload, dataVersion⟩ =>
    simp only [chunkAttributePayload] at chunked
    split at chunked
    · cases chunked
      intro chunk member
      rcases List.mem_map.mp member with ⟨element, _, rfl⟩
      simp only [canAttributePayloadBeChunked]
      split
      · rename_i isData
        cases isData
        rw [OrderedMap.lookup_setEntries_self]
        exact Bool.and_false _
      · rfl
    · cases chunked

def weight (report : AttributeReportPayload) : Nat :=
  match canAttributePayloadBeChunked report, chunkAttributePayload report with
  | true, .ok chunks => chunks.length
  | _, _ => 1

def queueWeight (queue : List QueuedAttributeReport) : Nat :=
  (queue.map fun queued => weight queued.attributeReport).sum

def work (state : SendState) : Nat :=
  queueWeight state.attributeReportsToSend + state.eventReportsToSend.length

/-- What is still to be read. The end of the data is read like a report. -/
def pending (state : SendState) : Nat :=
  state.payload.length + if state.allDataReceived then 0 else 1

/-- The reports in the queues first, then what a round can do without placing one. -/
def load (reporting : Reporting) (state : SendState) : Nat :=
  4 * work state + (if hasNoReports reporting state then 0 else 2) +
    if state.processQueueFirst then 1 else 0

/-- When all data was received, every attribute report is to be sent next. -/
def AllFlagged (state : SendState) : Prop :=
  state.allDataReceived = true → ∀ queued ∈ state.attributeReportsToSend, queued.needSendNext = true

theorem weight_pos (report : AttributeReportPayload) : 0 < weight report := by
  rw [weight]
  split
  · rename_i chunks _ chunked
    rw [chunkAttributePayload] at chunked
    split at chunked
    · cases chunked
    · split at chunked
      · cases chunked
        exact Nat.succ_pos _
      · cases chunked
  · exact Nat.one_pos

theorem weight_of_unchunkable {report : AttributeReportPayload}
    (unchunkable : canAttributePayloadBeChunked report = false) : weight report = 1 := by
  rw [weight, unchunkable]

theorem weight_of_chunked {report : AttributeReportPayload} {chunks : List AttributeReportPayload}
    (chunkable : canAttributePayloadBeChunked report = true)
    (chunked : chunkAttributePayload report = .ok chunks) : weight report = chunks.length := by
  rw [weight, chunkable, chunked]

@[simp] theorem queueWeight_nil : queueWeight [] = 0 := rfl

@[simp] theorem queueWeight_cons (queued : QueuedAttributeReport)
    (queue : List QueuedAttributeReport) :
    queueWeight (queued :: queue) = weight queued.attributeReport + queueWeight queue := rfl

@[simp] theorem queueWeight_append (first second : List QueuedAttributeReport) :
    queueWeight (first ++ second) = queueWeight first + queueWeight second := by
  simp [queueWeight]

theorem queueWeight_of_unchunkable {queue : List QueuedAttributeReport}
    (unchunkable : ∀ queued ∈ queue, canAttributePayloadBeChunked queued.attributeReport = false) :
    queueWeight queue = queue.length := by
  induction queue with
  | nil => rfl
  | cons queued queue induction =>
    rw [List.forall_mem_cons] at unchunkable
    rw [queueWeight_cons, weight_of_unchunkable unchunkable.1, induction unchunkable.2,
      List.length_cons, Nat.add_comm]

/-- The chunks that go back to the queue are fewer than the list weighs. -/
theorem placeChunks_chunked {available : Int}
    (chunkable : canAttributePayloadBeChunked attributeToSend.attributeReport = true)
    (placed : placeChunks reporting state attributeToSend available = .ok (.chunked after)) :
    ∃ pieces size report,
      after = { state with
        messageSize := size
        attributeReportsToSend := pieces ++ state.attributeReportsToSend
        dataReport := report } ∧
      (∀ piece ∈ pieces, piece.needSendNext = true) ∧
      queueWeight pieces < weight attributeToSend.attributeReport := by
  rcases placeChunks_eq_ok placed with ⟨emptyChunk, first, chunks, size, chunked, _,
    ⟨_, isPostponed⟩ | ⟨_, next, isChunked, added⟩⟩
  · cases isPostponed
  · cases isChunked
    have isWeight := weight_of_chunked chunkable chunked
    rw [List.length_cons, List.length_cons] at isWeight
    have unchunkable := chunks_unchunkable chunked
    rcases addChunks_eq_ok added with ⟨taken, rest, takenSize, rfl, _, _,
      ⟨_, rfl⟩ | ⟨_, _, _, pieces, _, _, _, _, encodes, _, rfl⟩⟩
    · exact ⟨[], _, _, rfl, List.forall_mem_nil _, by rw [queueWeight_nil]; omega⟩
    · have flagged : ∀ piece ∈ pieces, piece.needSendNext = true ∧
          canAttributePayloadBeChunked piece.attributeReport = false := by
        refine PairedLists.forall_seconds (fun piece => piece.needSendNext = true ∧
          canAttributePayloadBeChunked piece.attributeReport = false) encodes ?_
        intro chunk member piece isPiece
        rcases encodeAttribute_eq_ok isPiece with ⟨rfl, isFlagged, _, _⟩
        exact ⟨isFlagged, unchunkable _ (List.mem_cons_of_mem _ (List.mem_append_right _ member))⟩
      refine ⟨pieces, _, _, rfl, fun piece member => (flagged piece member).1, ?_⟩
      rw [queueWeight_of_unchunkable fun piece member => (flagged piece member).2,
        ← encodes.length_eq]
      rw [List.length_append] at isWeight
      omega

theorem load_lt_of_work_lt (less : work after < work state) :
    load reporting after < load reporting state := by
  rw [load, load]
  split <;> split <;> split <;> split <;> omega

theorem AttributeStep.load_lt {queue : List QueuedAttributeReport}
    (isFirst : state.attributeReportsToSend = attributeToSend :: queue)
    (flagged : AllFlagged state) (nothingRead : readsNewData state = .ok false)
    (notStuck : ¬Stuck reporting state)
    (step : AttributeStep reporting { state with attributeReportsToSend := queue }
      attributeToSend after) : load reporting after < load reporting state := by
  have isWork : work state =
      weight attributeToSend.attributeReport + queueWeight queue +
        state.eventReportsToSend.length := by
    rw [work, isFirst, queueWeight_cons]
  have positive := weight_pos attributeToSend.attributeReport
  cases step with
  | fits room =>
    apply load_lt_of_work_lt
    show queueWeight queue + state.eventReportsToSend.length < _
    omega
  | chunked tooBig chunkable placed =>
    rcases placeChunks_chunked chunkable placed with ⟨pieces, size, report, rfl, _, fewer⟩
    apply load_lt_of_work_lt
    show queueWeight (pieces ++ queue) + state.eventReportsToSend.length < _
    rw [queueWeight_append]
    omega
  | @sentBefore waiting _ message tooBig placed needed sends small =>
    rcases waiting_fields placed with
      ⟨_, _, _, _, sameQueue, sameEvents, _⟩
    apply load_lt_of_work_lt
    show queueWeight waiting.attributeReportsToSend + waiting.eventReportsToSend.length < _
    rw [sameQueue, sameEvents]
    show queueWeight queue + state.eventReportsToSend.length < _
    omega
  | @putBack waiting sendOut message tooBig placed needed sends oversized =>
    rcases waiting_fields placed with
      ⟨_, _, _, sameReport, sameQueue, sameEvents, _⟩
    have hadReports : hasNoReports reporting state = false := by
      rw [← Bool.not_eq_true]
      intro noReports
      rw [sameReport] at sends
      exact notStuck ⟨nothingRead, noReports, ⟨message, sends⟩,
        ⟨attributeToSend, queue, waiting, sendOut, isFirst, oversized, placed, needed⟩⟩
    have sameWork : work { afterSending reporting waiting message with
        attributeReportsToSend := attributeToSend :: waiting.attributeReportsToSend } =
        work state := by
      rw [isWork]
      show queueWeight (attributeToSend :: waiting.attributeReportsToSend) +
        waiting.eventReportsToSend.length = _
      rw [sameQueue, sameEvents, queueWeight_cons]
    have emptied : hasNoReports reporting { afterSending reporting waiting message with
        attributeReportsToSend := attributeToSend :: waiting.attributeReportsToSend } = true :=
      hasNoReports_afterSending message
    rw [load, load, sameWork, emptied, hadReports]
    show 4 * work state + 0 + 1 < 4 * work state + 2 + _
    split <;> omega
  | @waits waiting sendOut tooBig placed notNeeded =>
    rcases placeBigAttribute_postponed placed with ⟨rfl, isWaiting⟩
    rcases waiting_fields placed with ⟨_, _, _, _, sameQueue, _, _⟩
    rw [needsSending] at notNeeded
    simp only [Bool.or_eq_false_iff, decide_eq_false_iff_not, not_le] at notNeeded
    rcases notNeeded with ⟨⟨⟨notNext, _⟩, _⟩, short⟩
    rw [sameQueue] at short
    have notAll : state.allDataReceived = false := by
      rw [← Bool.not_eq_true]
      intro all
      have isFlagged := flagged all attributeToSend (by rw [isFirst]; exact List.mem_cons_self)
      rw [notNext] at isFlagged
      cases isFlagged
    have queueFirst := queueFirst_of_nothingRead nothingRead notAll isFirst notNext short
    rcases isWaiting with ⟨_, mustSend⟩ | rfl
    · rw [Bool.or_eq_true] at mustSend
      rcases mustSend with all | next
      · rw [show state.allDataReceived = true from all] at notAll
        cases notAll
      · rw [next] at notNext
        cases notNext
    · have sameWork : work ({ state with
          processQueueFirst := false
          attributeReportsToSend := queue ++ [attributeToSend] } : SendState) = work state := by
        show queueWeight (queue ++ [attributeToSend]) + _ = _
        rw [queueWeight_append, queueWeight_cons, queueWeight_nil]
        show _ + state.eventReportsToSend.length = _
        omega
      rw [load, load, sameWork, queueFirst]
      show 4 * work state + (if hasNoReports reporting state then 0 else 2) + 0 < _ + 1
      omega

theorem load_lt_of_event {eventToSend : QueuedEventReport} {queue : List QueuedEventReport}
    (isFirst : state.eventReportsToSend = eventToSend :: queue)
    (sends : sendEvent reporting { state with eventReportsToSend := queue } eventToSend =
      .ok after) : load reporting after < load reporting state := by
  apply load_lt_of_work_lt
  have isWork : work state = queueWeight state.attributeReportsToSend + (queue.length + 1) := by
    rw [work, isFirst, List.length_cons]
  have isWorkAfter : work after = queueWeight state.attributeReportsToSend + queue.length := by
    rcases sendEvent_cases sends with ⟨rfl, _⟩ | ⟨message, _, rfl⟩
    · rfl
    · rfl
  omega

theorem AttributeStep.keeps (step : AttributeStep reporting state attributeToSend after) :
    after.payload = state.payload ∧ after.allDataReceived = state.allDataReceived := by
  cases step with
  | fits room => exact ⟨rfl, rfl⟩
  | chunked tooBig chunkable placed =>
    rcases placeChunks_chunked chunkable placed with ⟨pieces, size, report, rfl, _, _⟩
    exact ⟨rfl, rfl⟩
  | sentBefore tooBig placed needed sends small =>
    rcases waiting_fields placed with ⟨samePayload, sameAll, _⟩
    exact ⟨samePayload, sameAll⟩
  | putBack tooBig placed needed sends oversized =>
    rcases waiting_fields placed with ⟨samePayload, sameAll, _⟩
    exact ⟨samePayload, sameAll⟩
  | waits tooBig placed notNeeded =>
    rcases waiting_fields placed with ⟨samePayload, sameAll, _⟩
    exact ⟨samePayload, sameAll⟩

theorem QueueStep.keeps (step : QueueStep reporting state after) :
    after.payload = state.payload ∧ after.allDataReceived = state.allDataReceived := by
  cases step with
  | attributeReport isFirst step => exact step.keeps
  | eventReport noAttributes isFirst sends =>
    rcases sendEvent_cases sends with ⟨rfl, _⟩ | ⟨message, _, rfl⟩
    · exact ⟨rfl, rfl⟩
    · exact ⟨rfl, rfl⟩
  | idle => exact ⟨rfl, rfl⟩

theorem allDataReceived_of_reads (reads : readsNewData state = .ok true) :
    state.allDataReceived = false := by
  rw [readsNewData] at reads
  split at reads
  · cases reads
  · rename_i notAll
    exact Bool.eq_false_iff.mpr notAll

theorem receive_fields {value : EventOrAttributeDataPayload}
    (receives : receive reporting state value = .ok after) :
    after = { state with
      attributeReportsToSend := after.attributeReportsToSend
      eventReportsToSend := after.eventReportsToSend } := by
  cases value with
  | attributeReport report =>
    rcases bind_eq_ok_iff.mp receives with ⟨queued, _, rest⟩
    cases rest
    rfl
  | eventReport report =>
    rcases bind_eq_ok_iff.mp receives with ⟨queued, _, rest⟩
    cases rest
    rfl

/-! ## The end of the loop -/

/-- Of two states the one from which less is to be read comes later, then the one with
less load. -/
def Later : Nat × Nat → Nat × Nat → Prop :=
  Prod.Lex (· < ·) (· < ·)

theorem later_wellFounded : WellFounded Later :=
  WellFounded.prod_lex Nat.lt_wfRel.wf Nat.lt_wfRel.wf

theorem RoundStep.later (flagged : AllFlagged state) (notStuck : ¬Stuck reporting state)
    (step : RoundStep reporting state after) :
    Later (pending after, load reporting after) (pending state, load reporting state) := by
  cases step with
  | receivedAll reads nothingLeft =>
    apply Prod.Lex.left
    rw [pending, pending, allDataReceived_of_reads reads]
    simp
  | processed begins step =>
    rcases step.keeps with ⟨samePayload, sameAll⟩
    cases begins with
    | queueFirst nothingRead =>
      have samePending : pending after = pending state := by
        rw [pending, pending, samePayload, sameAll]
      rw [samePending]
      apply Prod.Lex.right
      cases step with
      | attributeReport isFirst step => exact step.load_lt isFirst flagged nothingRead notStuck
      | eventReport noAttributes isFirst sends => exact load_lt_of_event isFirst sends
      | idle noAttributes noEvents notAll =>
        simp [readsNewData, notAll, noAttributes, noEvents] at nothingRead
    | @received value payload current reads gives receives =>
      apply Prod.Lex.left
      have received := receive_fields receives
      have notAll := allDataReceived_of_reads reads
      have payloadAfter : after.payload = payload :=
        samePayload.trans (congrArg SendState.payload received)
      have allAfter : after.allDataReceived = false :=
        (sameAll.trans (congrArg SendState.allDataReceived received)).trans notAll
      rw [pending, pending, payloadAfter, allAfter, gives, notAll, List.length_cons]
      omega

theorem AttributeStep.allFlagged {queue : List QueuedAttributeReport}
    (isFirst : state.attributeReportsToSend = attributeToSend :: queue)
    (flagged : AllFlagged state)
    (step : AttributeStep reporting { state with attributeReportsToSend := queue }
      attributeToSend after) : AllFlagged after := by
  intro all
  have keepsAll : after.allDataReceived = state.allDataReceived := step.keeps.2
  rw [keepsAll] at all
  have allFlagged := flagged all
  rw [isFirst, List.forall_mem_cons] at allFlagged
  cases step with
  | fits room => exact allFlagged.2
  | chunked tooBig chunkable placed =>
    rcases placeChunks_chunked chunkable placed with ⟨pieces, size, report, rfl, isFlagged, _⟩
    exact List.forall_mem_append.mpr ⟨isFlagged, allFlagged.2⟩
  | @sentBefore waiting _ _ tooBig placed needed sends small =>
    rcases waiting_fields placed with ⟨_, _, _, _, sameQueue, _, _⟩
    show ∀ queued ∈ waiting.attributeReportsToSend, queued.needSendNext = true
    rw [sameQueue]
    exact allFlagged.2
  | putBack tooBig placed needed sends oversized =>
    rcases waiting_fields placed with ⟨_, _, _, _, sameQueue, _, _⟩
    refine List.forall_mem_cons.mpr ⟨allFlagged.1, ?_⟩
    rw [sameQueue]
    exact allFlagged.2
  | waits tooBig placed notNeeded =>
    rcases waiting_fields placed with ⟨_, _, _, _, sameQueue, _, _⟩
    refine List.forall_mem_append.mpr ⟨?_, List.forall_mem_singleton.mpr allFlagged.1⟩
    rw [sameQueue]
    exact allFlagged.2

theorem RoundStep.allFlagged (flagged : AllFlagged state)
    (step : RoundStep reporting state after) : AllFlagged after := by
  cases step with
  | receivedAll reads nothingLeft =>
    intro _ queued member
    rcases List.mem_map.mp member with ⟨original, _, rfl⟩
    rfl
  | processed begins step =>
    cases begins with
    | queueFirst nothingRead =>
      cases step with
      | attributeReport isFirst step => exact step.allFlagged isFirst flagged
      | eventReport noAttributes isFirst sends =>
        intro all
        rcases sendEvent_cases sends with ⟨rfl, _⟩ | ⟨message, _, rfl⟩
        · exact flagged all
        · exact flagged all
      | idle => exact flagged
    | received reads gives receives =>
      intro all
      have allBefore : state.allDataReceived = true :=
        ((step.keeps.2.trans
          (congrArg SendState.allDataReceived (receive_fields receives))).symm).trans all
      rw [allDataReceived_of_reads reads] at allBefore
      cases allBefore

theorem allFlagged_start (payload : List EventOrAttributeDataPayload) :
    AllFlagged (start reporting payload) := nofun

theorem ends_iff (payload : List EventOrAttributeDataPayload) :
    Ends (round reporting) (start reporting payload) ↔
      ∀ state, Reaches (round reporting) (start reporting payload) state →
        ¬Stuck reporting state := by
  constructor
  · intro ends state reaches stuck
    exact not_ends_of_trap (Stuck reporting) Stuck.next reaches stuck ends
  · intro notStuck
    refine ends_of_decreasing later_wellFounded
      (fun state => (pending state, load reporting state)) ?_
    intro state after reaches goesOn
    have flagged : AllFlagged state :=
      reaches.invariant AllFlagged (fun holds next => (round_step next).allFlagged holds)
        (allFlagged_start payload)
    exact (round_step goesOn).later flagged (notStuck state reaches)

section Ending

variable (maxPayloadSize : Nat) (base : BaseDataReport) (forFabricFilteredRead : Bool)

/-- Sending the reports of a payload ends, with a result or an error, exactly when no round
begins with an empty message and an attribute report that fits into no message, is not
chunked into this one, and needs it to be sent. -/
theorem sendDataReport_ends_iff (payload : Option (List EventOrAttributeDataPayload)) :
    (∃ fuel outcome, sendDataReport maxPayloadSize base forFabricFilteredRead
      payload fuel = some outcome) ↔
    ∀ reports emptyDataReportBytes, payload = some reports →
      (DataReport.empty base).encode = .ok emptyDataReportBytes →
      let reporting : Reporting :=
        { maxPayloadSize, forFabricFilteredRead, base, emptyDataReportBytes }
      ∀ state, Reaches (round reporting) (start reporting reports) state →
        ¬Stuck reporting state := by
  cases payload with
  | none =>
    constructor
    · intro _ reports emptyDataReportBytes isSome
      cases isSome
    · intro _
      refine ⟨0, ?_⟩
      simp only [sendDataReport]
      split
      · exact ⟨_, rfl⟩
      · exact ⟨_, rfl⟩
  | some reports =>
    cases encodes : (DataReport.empty base).encode with
    | error failure =>
      constructor
      · intro _ _ emptyDataReportBytes _ isOk
        cases isOk
      · intro _
        refine ⟨0, { sent := [], result := .error failure }, ?_⟩
        simp [sendDataReport, encodes]
    | ok emptyDataReportBytes =>
      have loop : (∃ fuel outcome, sendDataReport maxPayloadSize base
          forFabricFilteredRead (some reports) fuel = some outcome) ↔
          Ends (round { maxPayloadSize, forFabricFilteredRead, base,
                        emptyDataReportBytes })
            (start { maxPayloadSize, forFabricFilteredRead, base,
                     emptyDataReportBytes } reports) := by
        simp only [sendDataReport, encodes]
        exact Iff.rfl
      rw [loop, ends_iff]
      constructor
      · intro notStuck others bytes isSome isOk
        cases isSome
        cases isOk
        exact notStuck
      · intro notStuck
        exact notStuck reports emptyDataReportBytes rfl rfl

end Ending

/-! ## A value too big for a message -/

def bytesReport (length : Nat) : AttributeReportPayload where
  hasFabricSensitiveData := false
  attributeData := some
    { schema := .string TlvByteString
      path := [("nodeId", .number 1), ("endpointId", .number 1), ("clusterId", .number 6),
        ("attributeId", .number 0)]
      payload := .bytes (List.replicate length 0)
      dataVersion := some 3 }
  attributeStatus := none

def readBase : BaseDataReport where
  subscriptionId := none
  suppressResponse := some true
  interactionModelRevision := 12

theorem encode_empty_readBase :
    (DataReport.empty readBase).encode = .ok [21, 41, 3, 41, 4, 36, 255, 12, 24] := by
  decide +kernel

theorem encode_empty_toSend :
    (DataReport.empty readBase).toSend.encode = .ok [21, 41, 3, 40, 4, 36, 255, 12, 24] := by
  decide +kernel

/-- The largest message of every channel, without the headers. -/
def readReporting : Reporting where
  maxPayloadSize := 1178
  forFabricFilteredRead := true
  base := readBase
  emptyDataReportBytes := [21, 41, 3, 41, 4, 36, 255, 12, 24]

theorem exists_bytesReport_queued :
    ∃ queued, encodeAttribute (readReporting.options false) false (bytesReport 1200) =
      .ok queued ∧ queued.encodedSize = 1227 := by
  have isSize : (encodeAttribute (readReporting.options false) false (bytesReport 1200)).map
      QueuedAttributeReport.encodedSize = .ok 1227 := by
    decide +kernel
  cases encodes : encodeAttribute (readReporting.options false) false (bytesReport 1200) with
  | error failure =>
    rw [encodes] at isSize
    cases isSize
  | ok queued =>
    rw [encodes] at isSize
    exact ⟨queued, rfl, Except.ok.inj isSize⟩

theorem bigValue_stuck : ∃ state, Reaches (round readReporting)
    (start readReporting [.attributeReport (bytesReport 1200)]) state ∧
      Stuck readReporting state := by
  rcases exists_bytesReport_queued with ⟨queued, encodes, isSize⟩
  rcases encodeAttribute_eq_ok encodes with ⟨isReport, notNext, _, _⟩
  have unchunkable : canAttributePayloadBeChunked queued.attributeReport = false := by
    rw [isReport]
    rfl
  let initial := start readReporting [.attributeReport (bytesReport 1200)]
  let waiting : SendState := { initial with
    payload := [], processQueueFirst := false, attributeReportsToSend := [queued] }
  let flagged : SendState := { waiting with
    allDataReceived := true, attributeReportsToSend := [queued.flag] }
  have first : round readReporting initial = .next waiting := by
    have received : receive readReporting { initial with payload := [] }
        (.attributeReport (bytesReport 1200)) =
          .ok { initial with payload := [], attributeReportsToSend := [queued] } :=
      bind_eq_ok_iff.mpr ⟨queued, encodes, rfl⟩
    have sends : sendAttribute readReporting { initial with payload := [] } queued =
        .ok waiting := by
      rw [sendAttribute, if_pos (show (queued.encodedSize : Int) > _ by rw [isSize]; decide),
        placeBigAttribute, notNext]
      rfl
    have iterates : iteration readReporting initial = .ok (.yield waiting) :=
      bind_eq_ok_iff.mpr ⟨true, rfl, bind_eq_ok_iff.mpr ⟨_, received,
        bind_eq_ok_iff.mpr ⟨waiting, sends, rfl⟩⟩⟩
    rw [round, iterates]
  have second : round readReporting waiting = .next flagged := by
    have reads : readsNewData waiting = .ok true := by
      show Except.ok (!queued.needSendNext) = _
      rw [notNext]
      rfl
    have iterates : iteration readReporting waiting = .ok (.yield flagged) :=
      bind_eq_ok_iff.mpr ⟨true, reads, rfl⟩
    rw [round, iterates]
  refine ⟨flagged, (Reaches.initial.round first).round second, ?_⟩
  have sendable : ∃ message,
      sendDataReportMessage readReporting.maxPayloadSize flagged.dataReport = .ok message :=
    ⟨⟨(DataReport.empty readBase).toSend, [21, 41, 3, 40, 4, 36, 255, 12, 24]⟩,
      sendDataReportMessage_eq_ok_iff.mpr ⟨rfl, encode_empty_toSend, by decide⟩⟩
  have oversized : IsOversized readReporting queued.flag := by
    show (queued.encodedSize : Int) > _
    rw [isSize]
    decide
  have placed : placeBigAttribute readReporting { flagged with attributeReportsToSend := [] }
      queued.flag (availableBytes readReporting flagged) =
        .ok (.postponed { flagged with attributeReportsToSend := [] } true) := by
    have unchunkableToo : canAttributePayloadBeChunked queued.flag.attributeReport = false :=
      unchunkable
    rw [placeBigAttribute, unchunkableToo]
    rfl
  exact ⟨rfl, rfl, sendable, ⟨queued.flag, [], _, true, rfl, oversized, placed, rfl⟩⟩

/-- A read of one attribute whose value takes 1200 bytes, over a channel of 1178 bytes, is
answered by empty messages without end. -/
theorem bigValue_never_ends : ¬∃ fuel outcome,
    sendDataReport 1178 readBase true
      (some [.attributeReport (bytesReport 1200)]) fuel = some outcome := by
  rcases bigValue_stuck with ⟨state, reaches, stuck⟩
  have neverEnds := not_ends_of_trap (Stuck readReporting) Stuck.next reaches stuck
  rintro ⟨fuel, outcome, ends⟩
  have loop : sendDataReport 1178 readBase true
      (some [.attributeReport (bytesReport 1200)]) fuel =
      run (round readReporting) fuel
        (start readReporting [.attributeReport (bytesReport 1200)]) := by
    simp only [sendDataReport, encode_empty_readBase]
    rfl
  rw [loop] at ends
  exact neverEnds ⟨fuel, outcome, ends⟩

end MatterJs.Protocol.InteractionServerMessenger
