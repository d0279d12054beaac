import MatterJs.Protocol.InvokeRequest

/-! How the responses to an invoke request are packed into messages, and which responses the
packing never comes to an end with. -/

namespace MatterJs.Protocol

open General MatterJs.Types Iteration Totals AnySchema TlvByteArrayWriter InvokeResponseMessage

/-- The bytes of a message without responses, with its flag. -/
def emptySize : Nat := 12

/-- A message with nothing but the response is not too long. -/
def FitsAlone (maxPayloadSize : Nat) (response : InvokeResponseData) : Prop :=
  ∃ encoded bytes, response.encodeTlv = .ok encoded ∧
    InvokeResponseMessage.encode
      { invokeResponses := [encoded], moreChunkedMessages := some true } = .ok bytes ∧
    bytes.length ≤ maxPayloadSize

/-- The messages with all the responses in their order, none of them too long, and the last of
them marked as the last. -/
structure CompleteResponse (maxPayloadSize : Nat) (responses : List InvokeResponseData)
    (sent : List SentInvokeResponse) : Prop where
  contents : responses.mapM InvokeResponseData.encodeTlv =
    .ok (sent.flatMap (·.message.invokeResponses))
  encoded : ∀ message ∈ sent, message.message.encode = .ok message.bytes
  short : ∀ message ∈ sent, message.bytes.length ≤ maxPayloadSize
  lastMarked : sent = [] ∨ ∃ earlier last, sent = earlier ++ [last] ∧
    last.message.moreChunkedMessages = none ∧
    ∀ message ∈ earlier, message.message.moreChunkedMessages = some true

/-- The response is expected to take more than an empty message has room for. -/
def Oversized (maxPayloadSize : Nat) (response : InvokeResponseData) : Prop :=
  ∃ encoded size, InvokeState.measure response = .ok (encoded, size) ∧
    maxPayloadSize < emptySize + size

structure Takes (response : InvokeResponseData) (encoded : TlvStream) (size : Nat) : Prop where
  encodes : response.encodeTlv = .ok encoded
  taken : total bytesTaken encoded = .ok size

variable {response : InvokeResponseData} {encoded : TlvStream} {size maxPayloadSize : Nat}

theorem Takes.measure (takes : Takes response encoded size) :
    InvokeState.measure response = .ok (encoded, size) := by
  rw [InvokeState.measure, takes.encodes]
  show (getEncodedByteLength encoded >>= _) = _
  rw [getEncodedByteLength_of_taken takes.taken]
  rfl

/-- It is a structure, which begins with a byte of its own. -/
theorem Takes.pos (takes : Takes response encoded size) : 0 < size := by
  have encodes := takes.encodes
  rw [InvokeResponseData.encodeTlv, TlvInvokeResponseData] at encodes
  rcases bind_eq_ok_iff.mp encodes with ⟨parts, _, isEncoded⟩
  cases isEncoded
  rcases total_cons_iff.mp takes.taken with ⟨first, rest, isFirst, _, rfl⟩
  have start : first = 1 := Except.ok.inj (isFirst.symm.trans (bytesTaken_container rfl))
  omega

theorem fitsAlone_iff : FitsAlone maxPayloadSize response ↔
    ∃ encoded size, Takes response encoded size ∧ emptySize + size ≤ maxPayloadSize := by
  constructor
  · rintro ⟨encoded, bytes, encodes, isMessage, short⟩
    rcases encode_iff.mp ⟨bytes, isMessage, rfl⟩ with ⟨_, contents, taken, isLength⟩
    rw [total_singleton] at taken
    have length : emptySize + contents = bytes.length := isLength
    exact ⟨encoded, contents, ⟨encodes, taken⟩, by omega⟩
  · rintro ⟨encoded, size, takes, short⟩
    have single : total (total bytesTaken) [encoded] = .ok size :=
      total_singleton.trans takes.taken
    rcases (@encode_iff { invokeResponses := [encoded], moreChunkedMessages := some true }
      (emptySize + size)).mpr ⟨Nat.le_add_left 1 65534, size, single, rfl⟩ with
    ⟨bytes, isMessage, isLength⟩
    exact ⟨encoded, bytes, takes.encodes, isMessage, isLength ▸ short⟩

/-! ## One response -/

namespace InvokeState

variable {handling : InvokeHandling} {encodeds : List TlvStream} {state : InvokeState}

/-- What holds between two calls, with the responses that were processed. -/
structure Filled (handling : InvokeHandling) (encodeds : List TlvStream) (state : InvokeState) :
    Prop where
  processed : state.invokeResultsProcessed = encodeds.length
  size : ∃ contents, total (total bytesTaken) state.invokeResponses = .ok contents ∧
    state.invokeResponses.length ≤ contents ∧ state.messageSize = emptySize + contents
  short : state.invokeResponses ≠ [] → state.messageSize ≤ handling.exchange.maxPayloadSize
  all : state.sent.flatMap (·.message.invokeResponses) ++ state.invokeResponses = encodeds
  sent : ∀ message ∈ state.sent, message.message.invokeResponses ≠ [] ∧
    message.message.encode = .ok message.bytes ∧
    message.bytes.length ≤ handling.exchange.maxPayloadSize
  notLast : encodeds.length < handling.requestCount →
    ∀ message ∈ state.sent, message.message.moreChunkedMessages = some true

/-- What holds between two responses. -/
structure Packed (handling : InvokeHandling) (encodeds : List TlvStream) (state : InvokeState) :
    Prop extends Filled handling encodeds state where
  pending : encodeds ≠ [] → encodeds.length ≠ handling.requestCount → state.invokeResponses ≠ []
  last : encodeds ≠ [] → encodeds.length = handling.requestCount →
    state.invokeResponses = [] ∧ ∃ earlier last, state.sent = earlier ++ [last] ∧
      last.message.moreChunkedMessages = none ∧
      ∀ message ∈ earlier, message.message.moreChunkedMessages = some true

theorem messageSize_of_empty (filled : Filled handling encodeds state)
    (none : state.invokeResponses = []) : state.messageSize = emptySize := by
  rcases filled.size with ⟨contents, isContents, _, isSize⟩
  rw [none] at isContents
  cases isContents
  exact isSize

theorem exists_flush {contents : Nat} (lastMessageProcessed : Bool)
    (some : state.invokeResponses ≠ [])
    (isContents : total (total bytesTaken) state.invokeResponses = .ok contents)
    (few : state.invokeResponses.length ≤ contents)
    (short : emptySize + contents ≤ handling.exchange.maxPayloadSize) :
    ∃ message : SentInvokeResponse, state.flush handling lastMessageProcessed =
        ({ state with
           sent := state.sent ++ [message]
           invokeResponses := []
           messageSize := handling.emptyInvokeResponseBytes.length }, .ok ()) ∧
      message.message.invokeResponses = state.invokeResponses ∧
      message.message.moreChunkedMessages =
        (if lastMessageProcessed then none else Option.some true) ∧
      message.message.encode = .ok message.bytes ∧
      message.bytes.length ≤ handling.exchange.maxPayloadSize := by
  have bounded := handling.exchange.withinChannel
  rw [MAX_UDP_MESSAGE_SIZE] at bounded
  let more := if lastMessageProcessed then none else Option.some true
  have flag : flagSize more ≤ 2 := by
    cases lastMessageProcessed <;> decide
  rcases (@encode_iff
    { invokeResponses := state.invokeResponses, moreChunkedMessages := more } _).mpr
    ⟨by show state.invokeResponses.length ≤ 65535; omega, contents, isContents, rfl⟩ with
    ⟨bytes, isMessage, isLength⟩
  refine ⟨⟨{ invokeResponses := state.invokeResponses, moreChunkedMessages := more }, bytes⟩,
    ?_, rfl, rfl, isMessage, ?_⟩
  · rw [flush, if_pos (List.length_pos_iff.mpr some)]
    dsimp only
    rw [isMessage]
  · rw [isLength]
    show ownSize + flagSize more + contents ≤ _
    rw [ownSize]
    rw [emptySize] at short
    omega

theorem total_push {contents : Nat}
    (isContents : total (total bytesTaken) state.invokeResponses = .ok contents)
    (takes : Takes response encoded size) :
    total (total bytesTaken) (state.push encoded).invokeResponses = .ok (contents + size) :=
  total_append isContents (total_singleton.trans takes.taken)

def counted (state : InvokeState) : InvokeState :=
  { state with invokeResultsProcessed := state.invokeResultsProcessed + 1 }

variable (isEmpty : handling.emptyInvokeResponseBytes.length = emptySize)
  (unicast : handling.exchange.sessionType = .unicast)

include unicast

theorem processResponseResult_eq (measured : measure response = .ok (encoded, size)) :
    processResponseResult handling response state =
      if ¬state.messageSize + size ≤ handling.exchange.maxPayloadSize ∨
          state.invokeResultsProcessed + 1 = handling.requestCount then
        if state.messageSize + size ≤ handling.exchange.maxPayloadSize then
          .ended ((state.counted.push encoded).flush handling true)
        else match state.counted.flush handling false with
        | (state, .error failure) => .ended (state, .error failure)
        | (state, .ok ()) =>
          .next { state with invokeResultsProcessed := state.invokeResultsProcessed - 1 }
      else
        .ended ({ state.counted.push encoded with messageSize := state.messageSize + size },
          .ok ()) := by
  have notGroup : ¬handling.exchange.sessionType = .group := by
    rw [unicast]
    decide
  rw [processResponseResult, if_neg notGroup, measured]
  rfl

include isEmpty

theorem processResponseResult_of_room (filled : Filled handling encodeds state)
    (takes : Takes response encoded size)
    (room : state.messageSize + size ≤ handling.exchange.maxPayloadSize) :
    ∃ after, processResponseResult handling response state = .ended (after, .ok ()) ∧
      Packed handling (encodeds ++ [encoded]) after := by
  rcases filled.size with ⟨contents, isContents, few, isSize⟩
  have pushed := total_push isContents takes
  have pushedFew : (state.push encoded).invokeResponses.length ≤ contents + size := by
    have := takes.pos
    show (state.invokeResponses ++ [encoded]).length ≤ _
    rw [List.length_append, List.length_singleton]
    omega
  have pushedSome : (state.push encoded).invokeResponses ≠ [] :=
    List.append_ne_nil_of_right_ne_nil _ (List.cons_ne_nil encoded [])
  have all : state.sent.flatMap (·.message.invokeResponses) ++
      (state.push encoded).invokeResponses = encodeds ++ [encoded] := by
    rw [← filled.all, List.append_assoc]
    rfl
  have processed : state.invokeResultsProcessed + 1 = (encodeds ++ [encoded]).length := by
    rw [filled.processed, List.length_append, List.length_singleton]
  rw [processResponseResult_eq unicast takes.measure]
  by_cases final : state.invokeResultsProcessed + 1 = handling.requestCount
  · rw [if_pos (.inr final), if_pos room]
    rcases @exists_flush handling (state.counted.push encoded) _ true pushedSome pushed pushedFew
      (by omega) with ⟨message, flushes, responses, more, encodes, short⟩
    refine ⟨_, congrArg Round.ended flushes, ?_⟩
    have notLast := filled.notLast (by rw [← final, filled.processed]; exact Nat.lt_succ_self _)
    constructor
    · constructor
      · exact processed
      · exact ⟨0, rfl, Nat.le_refl 0, isEmpty⟩
      · exact fun some => absurd rfl some
      · show (state.sent ++ [message]).flatMap (·.message.invokeResponses) ++ [] = _
        rw [List.append_nil, List.flatMap_append, List.flatMap_singleton, responses]
        exact all
      · intro other member
        rcases List.mem_append.mp member with earlier | isNew
        · exact filled.sent other earlier
        · rw [List.mem_singleton.mp isNew]
          exact ⟨responses ▸ pushedSome, encodes, short⟩
      · intro less
        omega
    · intro _ different
      omega
    · intro _ _
      exact ⟨rfl, state.sent, message, rfl, more, notLast⟩
  · rw [if_neg (by rintro (full | isFinal); exacts [full room, final isFinal])]
    refine ⟨_, rfl, ?_⟩
    constructor
    · constructor
      · exact processed
      · exact ⟨contents + size, pushed, pushedFew,
          show state.messageSize + size = _ by rw [isSize, Nat.add_assoc]⟩
      · exact fun _ => room
      · exact all
      · exact filled.sent
      · intro less
        exact filled.notLast (by rw [List.length_append] at less; omega)
    · exact fun _ _ => pushedSome
    · intro _ isFinal
      omega

theorem processResponseResult_of_full (packed : Packed handling encodeds state)
    (measured : measure response = .ok (encoded, size)) (some : state.invokeResponses ≠ [])
    (full : ¬state.messageSize + size ≤ handling.exchange.maxPayloadSize) :
    ∃ after, processResponseResult handling response state = .next after ∧
      Filled handling encodeds after ∧ after.invokeResponses = [] ∧
      after.messageSize = emptySize := by
  rcases packed.size with ⟨contents, isContents, few, isSize⟩
  have within := packed.short some
  rcases @exists_flush handling state.counted _ false some isContents few (by omega) with
    ⟨message, flushes, responses, more, encodes, messageShort⟩
  rw [processResponseResult_eq unicast measured, if_pos (.inl full), if_neg full, flushes]
  refine ⟨_, rfl, ?_, rfl, isEmpty⟩
  constructor
  · exact packed.processed
  · exact ⟨0, rfl, Nat.le_refl 0, isEmpty⟩
  · exact fun some => absurd rfl some
  · show (state.sent ++ [message]).flatMap (·.message.invokeResponses) ++ [] = _
    rw [List.append_nil, List.flatMap_append, List.flatMap_singleton, responses]
    exact packed.all
  · intro other member
    rcases List.mem_append.mp member with earlier | isNew
    · exact packed.sent other earlier
    · rw [List.mem_singleton.mp isNew]
      exact ⟨responses ▸ some, encodes, messageShort⟩
  · intro less other member
    rcases List.mem_append.mp member with earlier | isNew
    · exact packed.notLast less other earlier
    · rw [List.mem_singleton.mp isNew]
      exact more

theorem run_processResponseResult (packed : Packed handling encodeds state)
    (takes : Takes response encoded size)
    (short : emptySize + size ≤ handling.exchange.maxPayloadSize) (fuel : Nat) :
    ∃ after, Iteration.run (processResponseResult handling response) (fuel + 2) state =
        some (after, .ok ()) ∧ Packed handling (encodeds ++ [encoded]) after := by
  by_cases room : state.messageSize + size ≤ handling.exchange.maxPayloadSize
  · rcases processResponseResult_of_room isEmpty unicast packed.toFilled takes room with
      ⟨after, ends, packedAfter⟩
    exact ⟨after, run_succ_ended (fuel + 1) ends, packedAfter⟩
  · have some : state.invokeResponses ≠ [] := fun none =>
      room (messageSize_of_empty packed.toFilled none ▸ short)
    rcases processResponseResult_of_full isEmpty unicast packed takes.measure some room with
      ⟨flushed, goesOn, filled, _, isSize⟩
    rcases processResponseResult_of_room isEmpty unicast filled takes (isSize ▸ short) with
      ⟨after, ends, packedAfter⟩
    refine ⟨after, ?_, packedAfter⟩
    rw [run_succ_next (fuel + 1) goesOn, run_succ_ended fuel ends]

/-! ## All responses -/

omit isEmpty unicast

theorem processAll_add {fuel : Nat} {outcomes : List (Except MatterError InvokeResponseData)}
    {ended : InvokeEnd} (runs : processAll handling fuel outcomes state = some ended)
    (more : Nat) : processAll handling (fuel + more) outcomes state = some ended := by
  induction outcomes generalizing state with
  | nil => exact runs
  | cons outcome outcomes induction =>
    cases outcome with
    | error failure => exact runs
    | ok response =>
      rw [processAll] at runs ⊢
      cases one : Iteration.run (processResponseResult handling response) fuel state with
      | none =>
        rw [one] at runs
        cases runs
      | some after =>
        rcases after with ⟨after, _ | _⟩
        · rw [one] at runs
          rw [run_add one more]
          exact runs
        · rw [one] at runs
          rw [run_add one more]
          exact induction runs

include isEmpty unicast

theorem processAll_fitting {responses : List InvokeResponseData}
    (fits : ∀ response ∈ responses, FitsAlone handling.exchange.maxPayloadSize response)
    (packed : Packed handling encodeds state) (fuel : Nat)
    (later : List (Except MatterError InvokeResponseData)) :
    ∃ added after, responses.mapM InvokeResponseData.encodeTlv = .ok added ∧
      Packed handling (encodeds ++ added) after ∧
      processAll handling (fuel + 2) (responses.map .ok ++ later) state =
        processAll handling (fuel + 2) later after := by
  induction responses generalizing encodeds state with
  | nil => exact ⟨[], state, rfl, (List.append_nil encodeds).symm ▸ packed, rfl⟩
  | cons response responses induction =>
    rw [List.forall_mem_cons] at fits
    rcases fitsAlone_iff.mp fits.1 with ⟨encoded, size, takes, short⟩
    rcases run_processResponseResult isEmpty unicast packed takes short fuel with
      ⟨middle, runs, packedMiddle⟩
    rcases induction fits.2 packedMiddle with ⟨added, after, encodes, packedAfter, same⟩
    refine ⟨encoded :: added, after, ?_, ?_, ?_⟩
    · rw [List.mapM_cons, takes.encodes, encodes]
      rfl
    · rw [List.append_cons]
      exact packedAfter
    · rw [List.map_cons, List.cons_append, processAll, runs]
      exact same

omit isEmpty unicast in
theorem complete_iff_of_packed {responses : List InvokeResponseData}
    (packed : Packed handling encodeds state)
    (encodes : responses.mapM InvokeResponseData.encodeTlv = .ok encodeds) :
    CompleteResponse handling.exchange.maxPayloadSize responses state.sent ↔
      responses = [] ∨ responses.length = handling.requestCount := by
  have sameLength : responses.length = encodeds.length :=
    (mapM_eq_ok_iff.mp encodes).length_eq
  have complete (noneLeft : state.invokeResponses = [])
      (marked : state.sent = [] ∨ ∃ earlier last, state.sent = earlier ++ [last] ∧
        last.message.moreChunkedMessages = none ∧
        ∀ message ∈ earlier, message.message.moreChunkedMessages = some true) :
      CompleteResponse handling.exchange.maxPayloadSize responses state.sent := by
    have all := packed.all
    rw [noneLeft, List.append_nil] at all
    exact ⟨all.symm ▸ encodes, fun message member => (packed.sent message member).2.1,
      fun message member => (packed.sent message member).2.2, marked⟩
  by_cases noResponse : encodeds = []
  · have nothing : responses = [] := by
      rw [← List.length_eq_zero_iff, sameLength, noResponse]
      rfl
    refine iff_of_true ?_ (.inl nothing)
    have all := packed.all
    rw [noResponse, List.append_eq_nil_iff] at all
    refine complete all.2 (.inl ?_)
    cases noMessage : state.sent with
    | nil => rfl
    | cons message sent =>
      have member : message ∈ state.sent := noMessage ▸ List.mem_cons_self
      have empty := List.flatMap_eq_nil_iff.mp all.1 message member
      exact absurd empty (packed.sent message member).1
  · have something : responses ≠ [] := by
      rintro rfl
      cases encodes
      exact noResponse rfl
    rw [or_iff_right something, sameLength]
    by_cases isLast : encodeds.length = handling.requestCount
    · rcases packed.last noResponse isLast with ⟨noneLeft, marked⟩
      exact iff_of_true (complete noneLeft (.inr marked)) isLast
    · refine iff_of_false ?_ isLast
      intro complete
      have same : encodeds = state.sent.flatMap (·.message.invokeResponses) :=
        Except.ok.inj (encodes.symm.trans complete.contents)
      have all := packed.all
      rw [← same, List.append_right_eq_self] at all
      exact packed.pending noResponse isLast all

/-! ## Responses that do not fit -/

omit isEmpty unicast

/-- A response in the message cannot be written. -/
def Unwritable (state : InvokeState) : Prop :=
  ∃ encoded ∈ state.invokeResponses, ∀ size, total bytesTaken encoded ≠ .ok size

theorem flush_of_unwritable (unwritable : state.Unwritable) (lastMessageProcessed : Bool) :
    ∃ failure, state.flush handling lastMessageProcessed = (state, .error failure) := by
  rcases unwritable with ⟨encoded, member, refused⟩
  rw [flush, if_pos (List.length_pos_of_mem member)]
  dsimp only
  split
  · rename_i bytes isMessage
    rcases encode_iff.mp ⟨bytes, isMessage, rfl⟩ with ⟨_, contents, isContents, _⟩
    rcases exists_cost_of_total isContents member with ⟨size, taken⟩
    exact absurd taken (refused size)
  · rename_i failure _
    exact ⟨failure, rfl⟩

/-- How a response that ends with this call leaves the handler. -/
def Settles (handling : InvokeHandling) (response : InvokeResponseData) (state : InvokeState) :
    Prop :=
  ∃ after result, processResponseResult handling response state = .ended (after, result) ∧
    (result = .ok () → after.Unwritable)

include unicast

/-- With a response that cannot be written, no message is sent any more. -/
theorem settles_of_unwritable (unwritable : state.Unwritable) (response : InvokeResponseData) :
    Settles handling response state := by
  rcases unwritable with ⟨refusedOne, member, refused⟩
  have counted : state.counted.Unwritable := ⟨refusedOne, member, refused⟩
  have pushed (encoded : TlvStream) : (state.counted.push encoded).Unwritable :=
    ⟨refusedOne, List.mem_append_left _ member, refused⟩
  cases measured : measure response with
  | error failure =>
    refine ⟨state.counted, .error failure, ?_, nofun⟩
    have notGroup : ¬handling.exchange.sessionType = .group := by
      rw [unicast]
      decide
    rw [processResponseResult, if_neg notGroup, measured]
    rfl
  | ok taken =>
    rcases taken with ⟨encoded, size⟩
    rw [Settles, processResponseResult_eq unicast measured]
    split_ifs
    · rcases @flush_of_unwritable handling _ (pushed encoded) true with ⟨failure, flushes⟩
      exact ⟨_, _, congrArg Round.ended flushes, nofun⟩
    · rcases @flush_of_unwritable handling _ counted false with ⟨failure, flushes⟩
      rw [flushes]
      exact ⟨_, _, rfl, nofun⟩
    · exact ⟨_, _, rfl, fun _ => pushed encoded⟩

theorem processAll_of_unwritable (unwritable : state.Unwritable) (fuel : Nat)
    (outcomes : List (Except MatterError InvokeResponseData)) :
    (processAll handling (fuel + 1) outcomes state).isSome := by
  induction outcomes generalizing state with
  | nil => rfl
  | cons outcome outcomes induction =>
    cases outcome with
    | error failure => rfl
    | ok response =>
      rcases settles_of_unwritable unicast unwritable response with
        ⟨after, result, ends, stays⟩
      rw [processAll, run_succ_ended fuel ends]
      cases result with
      | error failure => rfl
      | ok _ => exact induction (stays rfl)

theorem settles_of_not_fitsAlone (notFits : ¬FitsAlone handling.exchange.maxPayloadSize response)
    (measured : measure response = .ok (encoded, size))
    (short : emptySize + size ≤ handling.exchange.maxPayloadSize)
    (room : state.messageSize + size ≤ handling.exchange.maxPayloadSize) :
    Settles handling response state := by
  have pushed : (state.counted.push encoded).Unwritable := by
    refine ⟨encoded, List.mem_append_right _ List.mem_cons_self, fun other taken => notFits ?_⟩
    rcases bind_eq_ok_iff.mp measured with ⟨stream, encodes, rest⟩
    rcases bind_eq_ok_iff.mp rest with ⟨length, isLength, same⟩
    cases same
    rw [getEncodedByteLength_of_taken taken] at isLength
    cases isLength
    exact fitsAlone_iff.mpr ⟨_, _, ⟨encodes, taken⟩, short⟩
  rw [Settles, processResponseResult_eq unicast measured]
  split_ifs
  · rcases @flush_of_unwritable handling _ pushed true with ⟨failure, flushes⟩
    exact ⟨_, _, congrArg Round.ended flushes, nofun⟩
  · exact ⟨_, _, rfl, fun _ => pushed⟩

include isEmpty

/-- Whatever the response, two calls are enough where it is not too long. -/
theorem run_of_not_oversized (packed : Packed handling encodeds state)
    (notFits : ¬FitsAlone handling.exchange.maxPayloadSize response)
    (notOversized : ¬Oversized handling.exchange.maxPayloadSize response) :
    ∃ after result, Iteration.run (processResponseResult handling response) 2 state =
        some (after, result) ∧ (result = .ok () → after.Unwritable) := by
  have notGroup : ¬handling.exchange.sessionType = .group := by
    rw [unicast]
    decide
  cases measured : measure response with
  | error failure =>
    refine ⟨state.counted, .error failure, run_succ_ended 1 ?_, nofun⟩
    rw [processResponseResult, if_neg notGroup, measured]
    rfl
  | ok taken =>
    rcases taken with ⟨encoded, size⟩
    have short : emptySize + size ≤ handling.exchange.maxPayloadSize :=
      Nat.le_of_not_lt fun long => notOversized ⟨encoded, size, measured, long⟩
    by_cases room : state.messageSize + size ≤ handling.exchange.maxPayloadSize
    · rcases settles_of_not_fitsAlone unicast notFits measured short room with
        ⟨after, result, ends, stays⟩
      exact ⟨after, result, run_succ_ended 1 ends, stays⟩
    · have some : state.invokeResponses ≠ [] := fun none =>
        room (messageSize_of_empty packed.toFilled none ▸ short)
      rcases processResponseResult_of_full isEmpty unicast packed measured some room with
        ⟨flushed, goesOn, _, _, isSize⟩
      rcases settles_of_not_fitsAlone unicast notFits measured short (isSize ▸ short) with
        ⟨after, result, ends, stays⟩
      exact ⟨after, result, by rw [run_succ_next 1 goesOn, run_succ_ended 0 ends], stays⟩

theorem processAll_isSome {outcomes : List (Except MatterError InvokeResponseData)}
    (notOversized : ∀ earlier response later,
      outcomes = List.map .ok earlier ++ .ok response :: later →
      (∀ other ∈ earlier, FitsAlone handling.exchange.maxPayloadSize other) →
        ¬Oversized handling.exchange.maxPayloadSize response)
    (packed : Packed handling encodeds state) : (processAll handling 2 outcomes state).isSome := by
  induction outcomes generalizing encodeds state with
  | nil => rfl
  | cons outcome outcomes induction =>
    cases outcome with
    | error failure => rfl
    | ok response =>
      rw [processAll]
      by_cases fits : FitsAlone handling.exchange.maxPayloadSize response
      · rcases fitsAlone_iff.mp fits with ⟨encoded, size, takes, short⟩
        rcases run_processResponseResult isEmpty unicast packed takes short 0 with
          ⟨after, runs, packedAfter⟩
        rw [runs]
        apply induction ?_ packedAfter
        intro earlier other later split allFit
        apply notOversized (response :: earlier) other later
        · rw [split, List.map_cons, List.cons_append]
        · exact List.forall_mem_cons.mpr ⟨fits, allFit⟩
      · have first := notOversized [] response outcomes rfl nofun
        rcases run_of_not_oversized isEmpty unicast packed fits first with
          ⟨after, result, runs, stays⟩
        rw [runs]
        cases result with
        | error failure => rfl
        | ok _ => exact processAll_of_unwritable unicast (stays rfl) 1 outcomes

/-- A response that is too long for an empty message is tried again and again. -/
theorem run_of_oversized (packed : Packed handling encodeds state)
    (oversized : Oversized handling.exchange.maxPayloadSize response) (fuel : Nat) :
    Iteration.run (processResponseResult handling response) fuel state = none := by
  rcases oversized with ⟨encoded, size, measured, long⟩
  let Trap : InvokeState → Prop := fun state =>
    state.invokeResponses = [] ∧ state.messageSize = emptySize
  have traps {state : InvokeState} (trap : Trap state) :
      ∃ after, processResponseResult handling response state = .next after ∧ Trap after := by
    have full : ¬state.messageSize + size ≤ handling.exchange.maxPayloadSize := by
      rw [trap.2]
      exact Nat.not_le_of_lt long
    have nothing : state.counted.flush handling false = (state.counted, .ok ()) := by
      rw [flush, if_neg]
      show ¬0 < state.invokeResponses.length
      rw [trap.1]
      exact Nat.lt_irrefl 0
    rw [processResponseResult_eq unicast measured, if_pos (.inl full), if_neg full, nothing]
    exact ⟨_, rfl, trap⟩
  by_cases none : state.invokeResponses = []
  · exact run_eq_none_of_trap Trap traps ⟨none, messageSize_of_empty packed.toFilled none⟩ fuel
  · rcases packed.size with ⟨contents, _, _, isSize⟩
    have full : ¬state.messageSize + size ≤ handling.exchange.maxPayloadSize := by omega
    rcases processResponseResult_of_full isEmpty unicast packed measured none full with
      ⟨flushed, goesOn, _, noneLeft, emptied⟩
    cases fuel with
    | zero => rfl
    | succ fuel =>
      rw [run_succ_next fuel goesOn]
      exact run_eq_none_of_trap Trap traps ⟨noneLeft, emptied⟩ fuel

end InvokeState

end MatterJs.Protocol
