import MatterJs.Protocol.InvokeChunks

/-! Which invoke requests get a response to each of their commands, and which are handled to
an end. -/

namespace MatterJs.Protocol

open General MatterJs.Types Iteration Totals AnySchema TlvByteArrayWriter InvokeResponseMessage
  InvokeState

def producedResponses : List (Except MatterError InvokeResponseData) → List InvokeResponseData
  | .ok response :: outcomes => response :: producedResponses outcomes
  | _ => []

theorem exists_producedResponses (outcomes : List (Except MatterError InvokeResponseData)) :
    ∃ later, outcomes = (producedResponses outcomes).map .ok ++ later ∧
      (later = [] ∨ ∃ failure others, later = .error failure :: others) := by
  induction outcomes with
  | nil => exact ⟨[], rfl, .inl rfl⟩
  | cons outcome outcomes induction =>
    cases outcome with
    | error failure => exact ⟨_, rfl, .inr ⟨failure, outcomes, rfl⟩⟩
    | ok response =>
      rcases induction with ⟨later, split, ends⟩
      refine ⟨later, ?_, ends⟩
      rw [producedResponses, List.map_cons, List.cons_append, ← split]

namespace InvokeServer

variable {server : InvokeServer} {exchange : InvokeExchange} {request : InvokeRequest}
  {results : InvokeResults}

theorem commandOutcome_isSome (commandRef : Option Nat) (path : ElementPathId)
    (command : CommandServer) (result : Except InvokeError InvokeResult) :
    (server.commandOutcome exchange true commandRef path command result).isSome := by
  rcases result with (_ | _) | _ <;> (simp only [commandOutcome]; split_ifs <;> rfl)

theorem length_pathOutcomes {data : CommandData} (isConcrete : data.commandPath.isConcrete)
    (results : Nat → Except InvokeError InvokeResult) :
    (server.pathOutcomes exchange data results).length = 1 := by
  rcases Option.isSome_iff_exists.mp isConcrete with ⟨path, concrete⟩
  rw [pathOutcomes, concrete]
  cases found : server.endpointStructure.getCommands data.commandPath with
  | error failure => rfl
  | ok commands =>
    have few := InteractionEndpointStructure.length_getCommands_le isConcrete found
    match commands, few with
    | [], _ =>
      dsimp only
      split <;> rfl
    | [(path, command)], _ =>
      rcases Option.isSome_iff_exists.mp (@commandOutcome_isSome server exchange
        data.commandRef path command (results 0)) with ⟨outcome, isOutcome⟩
      rw [isConcrete]
      show (List.filterMap _ [((path, command), 0)]).length = 1
      rw [List.filterMap_cons]
      dsimp only
      rw [isOutcome]
      rfl

theorem isConcrete_of_validateBatch {requests : List CommandData} {pathsUsed : List ElementPathId}
    {commandRefsUsed : List Nat} (valid : validateBatch pathsUsed commandRefsUsed requests = .ok ())
    {data : CommandData} (member : data ∈ requests) : data.commandPath.isConcrete := by
  induction requests generalizing pathsUsed commandRefsUsed with
  | nil => cases member
  | cons first requests induction =>
    rcases first with ⟨commandPath, commandRef⟩
    rw [validateBatch] at valid
    cases concrete : commandPath.concrete with
    | none =>
      simp only [concrete] at valid
      cases valid
    | some path =>
      simp only [concrete] at valid
      rcases List.mem_cons.mp member with rfl | later
      · rw [RequestPath.isConcrete, concrete]
        rfl
      · split_ifs at valid
        cases commandRef with
        | none => cases valid
        | some commandRef =>
          dsimp only at valid
          split_ifs at valid
          exact induction valid later

/-- Several paths are concrete, and each comes to one response or error. -/
theorem length_outcomes (valid : server.validateInvokeRequest exchange request = .ok ())
    (several : 1 < request.invokeRequests.length) :
    (server.outcomes exchange request results).length = request.invokeRequests.length := by
  rw [validateInvokeRequest] at valid
  split_ifs at valid
  rcases bind_eq_ok_iff.mp valid with ⟨_, _, batch⟩
  have concrete : ∀ data ∈ request.invokeRequests, data.commandPath.isConcrete :=
    fun data => isConcrete_of_validateBatch batch
  rw [outcomes, List.length_flatMap]
  have ones : (request.invokeRequests.zipIdx).map (fun entry =>
      (server.pathOutcomes exchange entry.1 (results entry.2)).length) =
      (request.invokeRequests.zipIdx).map fun _ => 1 := by
    apply List.map_congr_left
    intro entry member
    exact length_pathOutcomes (concrete _ (List.fst_mem_of_mem_zipIdx member)) _
  rw [ones]
  simp

/-- A single path gives one response at most; of several paths, no command fails with an error
that is no status response, or the first one does. -/
def CommandsRespond (request : InvokeRequest)
    (outcomes : List (Except MatterError InvokeResponseData)) : Prop :=
  (request.invokeRequests.length = 1 → (producedResponses outcomes).length ≤ 1) ∧
    (1 < request.invokeRequests.length → producedResponses outcomes = [] ∨
      ∀ outcome ∈ outcomes, ∃ response, outcome = .ok response)

theorem length_producedResponses_eq_iff (outcomes : List (Except MatterError InvokeResponseData)) :
    (producedResponses outcomes).length = outcomes.length ↔
      ∀ outcome ∈ outcomes, ∃ response, outcome = .ok response := by
  rcases exists_producedResponses outcomes with ⟨later, split, ends⟩
  have lengths := congrArg List.length split
  rw [List.length_append, List.length_map] at lengths
  rcases ends with rfl | ⟨failure, others, rfl⟩
  · refine iff_of_true lengths.symm ?_
    rw [split, List.append_nil]
    intro outcome member
    rcases List.mem_map.mp member with ⟨response, _, rfl⟩
    exact ⟨response, rfl⟩
  · refine iff_of_false (by rw [lengths, List.length_cons]; omega) ?_
    intro allRespond
    rcases allRespond (.error failure) (by rw [split]; simp) with ⟨response, isResponse⟩
    cases isResponse

theorem commandsRespond_iff (valid : server.validateInvokeRequest exchange request = .ok ()) :
    CommandsRespond request (server.outcomes exchange request results) ↔
      producedResponses (server.outcomes exchange request results) = [] ∨
      (producedResponses (server.outcomes exchange request results)).length =
        request.invokeRequests.length := by
  rw [CommandsRespond]
  rcases Nat.lt_trichotomy request.invokeRequests.length 1 with none | single | several
  · have noRequest : request.invokeRequests = [] := List.length_eq_zero_iff.mp (by omega)
    have noOutcome : server.outcomes exchange request results = [] := by
      rw [outcomes, noRequest]
      rfl
    rw [noOutcome]
    exact iff_of_true ⟨fun _ => Nat.zero_le _, fun _ => .inl rfl⟩ (.inl rfl)
  · rw [← List.length_eq_zero_iff, single]
    constructor
    · intro ⟨few, _⟩
      omega
    · intro few
      exact ⟨fun _ => by omega, fun many => absurd many (Nat.lt_irrefl 1)⟩
  · rw [← length_producedResponses_eq_iff, length_outcomes valid several]
    constructor
    · intro ⟨_, responds⟩
      exact responds several
    · intro responds
      exact ⟨fun single => absurd single (by omega), fun _ => responds⟩

theorem exists_empty (requestCount : Nat) :
    ∃ bytes, InvokeResponseMessage.encode
      { invokeResponses := [], moreChunkedMessages := some (requestCount > 1) } = .ok bytes ∧
      bytes.length = emptySize :=
  encode_iff.mpr ⟨Nat.zero_le _, 0, rfl, rfl⟩

theorem handleInvokeRequest_of_valid
    (valid : server.validateInvokeRequest exchange request = .ok ())
    (results : InvokeResults) :
    ∃ handling initial, handling.exchange = exchange ∧
      handling.requestCount = request.invokeRequests.length ∧
      handling.emptyInvokeResponseBytes.length = emptySize ∧
      InvokeState.Packed handling [] initial ∧
      ∀ fuel, server.handleInvokeRequest exchange request results fuel =
        (processAll handling fuel (server.outcomes exchange request results)
          initial).map fun (state, result) => (state.sent, result) := by
  rcases exists_empty request.invokeRequests.length with ⟨bytes, isEmpty, isLength⟩
  refine ⟨⟨exchange, request.invokeRequests.length, bytes⟩,
    { invokeResponses := [], messageSize := bytes.length, invokeResultsProcessed := 0, sent := [] },
    rfl, rfl, isLength, ?_, ?_⟩
  · constructor
    · constructor
      · rfl
      · exact ⟨0, rfl, Nat.le_refl 0, isLength⟩
      · exact fun some => absurd rfl some
      · rfl
      · exact nofun
      · exact nofun
    · exact fun some => absurd rfl some
    · exact fun some => absurd rfl some
  · intro fuel
    rw [handleInvokeRequest, valid, isEmpty]

def toggle : CommandServer where
  responseId := 2
  requiresTimedInteraction := false

def twoLights : InvokeServer where
  model :=
    { isFixed := fun _ => false
      changesOmitted := fun _ => false
      isDiagnosticsCluster := fun _ => false
      isFabricScopedCommand := fun _ _ => false }
  endpointStructure :=
    { endpoints := (OrderedMap.empty.set 1 [6]).set 2 [6]
      attributes := .empty
      attributePaths := []
      commands := (OrderedMap.empty.set ⟨1, 6, 2⟩ toggle).set ⟨2, 6, 2⟩ toggle
      commandPaths := [⟨1, 6, 2⟩, ⟨2, 6, 2⟩] }
  maxPathsPerInvoke := 10

/-- A secure session over UDP. -/
def lightExchange : InvokeExchange where
  maxPayloadSize := 1178
  withinChannel := by decide
  timedInteraction := none
  sessionType := .unicast
  hasFabric := true

def toggleAt (endpointId : Option Nat) : InvokeRequest where
  invokeRequests :=
    [{ commandPath := { endpointId, clusterId := some 6, elementId := some 2 }
       commandRef := none }]
  timedRequest := false

def respondsWith (response : TlvStream) : InvokeResults := fun _ _ =>
  .ok { code := .success, clusterCode := none, responseId := 3, response }

theorem handleInvokeRequest_unique {fuel other : Nat}
    {ended otherEnded : List SentInvokeResponse × Except MatterError Unit}
    (handled : server.handleInvokeRequest exchange request results fuel = some ended)
    (otherHandled : server.handleInvokeRequest exchange request results other = some otherEnded) :
    ended = otherEnded := by
  cases valid : server.validateInvokeRequest exchange request with
  | error failure =>
    rw [handleInvokeRequest, valid] at handled otherHandled
    exact Option.some.inj (handled.symm.trans otherHandled)
  | ok _ =>
    rcases handleInvokeRequest_of_valid valid results with
      ⟨handling, initial, rfl, _, _, _, handles⟩
    rw [handles, Option.map_eq_some_iff] at handled otherHandled
    rcases handled with ⟨state, processed, rfl⟩
    rcases otherHandled with ⟨otherState, otherProcessed, rfl⟩
    have more := processAll_add processed other
    have otherMore := processAll_add otherProcessed fuel
    rw [Nat.add_comm, otherMore] at more
    rw [Option.some.inj more]

/-- On a unicast session, with responses that fit alone: a valid request gets all of them
exactly when its commands respond as they are counted. -/
theorem handleInvokeRequest_complete_iff (server : InvokeServer) (exchange : InvokeExchange)
    (request : InvokeRequest) (results : InvokeResults)
    (unicast : exchange.sessionType = .unicast)
    (valid : server.validateInvokeRequest exchange request = .ok ())
    (fits : ∀ response ∈ producedResponses (server.outcomes exchange request results),
      FitsAlone exchange.maxPayloadSize response) :
    (∃ fuel sent result,
      server.handleInvokeRequest exchange request results fuel = some (sent, result) ∧
      CompleteResponse exchange.maxPayloadSize
        (producedResponses (server.outcomes exchange request results)) sent) ↔
      CommandsRespond request (server.outcomes exchange request results) := by
  rcases handleInvokeRequest_of_valid valid results with
    ⟨handling, initial, rfl, sameCount, isEmpty, packed, handles⟩
  rcases exists_producedResponses (server.outcomes handling.exchange request results) with
    ⟨later, split, ends⟩
  rcases @InvokeState.processAll_fitting _ _ _ isEmpty unicast _ fits packed 0 later with
    ⟨encodeds, after, encodes, packedAfter, runs⟩
  rw [← split] at runs
  have ended : ∃ result, InvokeState.processAll handling 2
      (server.outcomes handling.exchange request results) initial = some (after, result) := by
    rw [runs]
    rcases ends with rfl | ⟨failure, others, rfl⟩
    · exact ⟨.ok (), rfl⟩
    · exact ⟨.error failure, rfl⟩
  rcases ended with ⟨result, ended⟩
  have handles2 : server.handleInvokeRequest handling.exchange request results 2 =
      some (after.sent, result) := by
    rw [handles, ended]
    rfl
  have complete := InvokeState.complete_iff_of_packed packedAfter encodes
  rw [commandsRespond_iff valid, ← sameCount, ← complete]
  constructor
  · rintro ⟨fuel, sent, otherResult, handled, isComplete⟩
    cases handleInvokeRequest_unique handled handles2
    exact isComplete
  · intro isComplete
    exact ⟨2, after.sent, result, handles2, isComplete⟩

/-- One light is toggled: its response is sent in one message. -/
theorem toggleOne_complete :
    ∃ fuel sent result,
      twoLights.handleInvokeRequest lightExchange (toggleAt (some 1)) (respondsWith []) fuel =
        some (sent, result) ∧
      CompleteResponse 1178 [.status ⟨1, 6, 2⟩ .success none none] sent := by
  refine (handleInvokeRequest_complete_iff twoLights lightExchange (toggleAt (some 1))
    (respondsWith []) rfl rfl ?_).mpr ⟨fun _ => Nat.le_refl 1, fun several => ?_⟩
  · intro response member
    rw [List.mem_singleton.mp member]
    exact ⟨_, _, rfl, rfl, by decide⟩
  · exact absurd several (by decide)

/-- Every light is toggled: the first response is sent as the last, and the second is not. -/
theorem toggleAll_incomplete :
    let produced := producedResponses
      (twoLights.outcomes lightExchange (toggleAt none) (respondsWith []))
    twoLights.validateInvokeRequest lightExchange (toggleAt none) = .ok () ∧
      (∀ response ∈ produced, FitsAlone 1178 response) ∧
      ¬∃ fuel sent result,
        twoLights.handleInvokeRequest lightExchange (toggleAt none) (respondsWith []) fuel =
          some (sent, result) ∧ CompleteResponse 1178 produced sent := by
  refine ⟨rfl, ?_, ?_⟩
  · intro response member
    rcases List.mem_pair.mp member with rfl | rfl
    · exact ⟨_, _, rfl, rfl, by decide⟩
    · exact ⟨_, _, rfl, rfl, by decide⟩
  · rintro ⟨fuel, sent, result, handled, isComplete⟩
    have one : ∃ message, twoLights.handleInvokeRequest lightExchange (toggleAt none)
        (respondsWith []) 2 = some ([message], .ok ()) ∧
        message.message.invokeResponses.length = 1 := ⟨_, rfl, rfl⟩
    rcases one with ⟨message, handledTwice, single⟩
    cases handleInvokeRequest_unique handled handledTwice
    have lengths := (mapM_eq_ok_iff.mp isComplete.contents).length_eq
    rw [List.flatMap_singleton, single] at lengths
    exact absurd lengths (by decide)

theorem processAll_of_group {handling : InvokeHandling}
    (group : handling.exchange.sessionType = .group)
    (outcomes : List (Except MatterError InvokeResponseData)) (state : InvokeState) :
    (processAll handling 1 outcomes state).isSome := by
  induction outcomes generalizing state with
  | nil => rfl
  | cons outcome outcomes induction =>
    cases outcome with
    | error failure => rfl
    | ok response =>
      have ends : processResponseResult handling response state =
          .ended (state.counted, .ok ()) := by
        rw [processResponseResult, if_pos group]
        rfl
      rw [processAll, run_succ_ended 0 ends]
      exact induction state.counted

/-- The handler ends on a group session, when it declines the request, and when no response
that is too long for an empty message comes behind only responses that fit alone. -/
theorem handleInvokeRequest_ends_iff (server : InvokeServer) (exchange : InvokeExchange)
    (request : InvokeRequest) (results : InvokeResults) :
    (∃ fuel, (server.handleInvokeRequest exchange request results fuel).isSome) ↔
      exchange.sessionType = .group ∨ server.validateInvokeRequest exchange request ≠ .ok () ∨
      ∀ earlier response later, server.outcomes exchange request results =
          List.map .ok earlier ++ .ok response :: later →
        (∀ other ∈ earlier, FitsAlone exchange.maxPayloadSize other) →
          ¬Oversized exchange.maxPayloadSize response := by
  cases valid : server.validateInvokeRequest exchange request with
  | error failure =>
    refine iff_of_true ⟨0, ?_⟩ (.inr (.inl nofun))
    rw [handleInvokeRequest, valid]
    rfl
  | ok _ =>
    rcases handleInvokeRequest_of_valid valid results with
      ⟨handling, initial, rfl, _, isEmpty, packed, handles⟩
    simp only [handles, Option.isSome_map]
    cases session : handling.exchange.sessionType with
    | group => exact iff_of_true ⟨1, processAll_of_group session _ _⟩ (.inl rfl)
    | unicast =>
      rw [or_iff_right nofun, or_iff_right (not_not.mpr rfl)]
      constructor
      · rintro ⟨fuel, ends⟩ earlier response later split allFit oversized
        rcases Option.isSome_iff_exists.mp ends with ⟨ended, runs⟩
        have more := InvokeState.processAll_add runs 2
        rcases InvokeState.processAll_fitting isEmpty session allFit packed fuel
            (.ok response :: later) with ⟨_, after, _, packedAfter, same⟩
        rw [split, same, InvokeState.processAll,
          InvokeState.run_of_oversized isEmpty session packedAfter oversized] at more
        cases more
      · intro notOversized
        exact ⟨2, InvokeState.processAll_isSome isEmpty session notOversized packed⟩

/-- A string of bytes that takes more than a message. -/
def longResponse : TlvStream :=
  [containerElement none .struct,
    { tag := contextTag 0
      typeLength := .byteString .twoBytes
      value := some (.bytes (List.replicate 1200 0)) },
    endElement]

set_option maxRecDepth 10000 in
/-- The response to one light is tried again and again. -/
theorem longResponse_never_ends :
    ¬∃ fuel, (twoLights.handleInvokeRequest lightExchange (toggleAt (some 1))
      (respondsWith longResponse) fuel).isSome := by
  rintro ⟨fuel, ends⟩
  have valid : twoLights.validateInvokeRequest lightExchange (toggleAt (some 1)) = .ok () := rfl
  rcases handleInvokeRequest_of_valid valid (respondsWith longResponse) with
    ⟨handling, initial, sameExchange, _, isEmpty, packed, handles⟩
  have unicast : handling.exchange.sessionType = .unicast := by
    rw [sameExchange]
    rfl
  have oversized : Oversized handling.exchange.maxPayloadSize
      (.command ⟨1, 6, 3⟩ longResponse none) := by
    rw [sameExchange]
    exact ⟨_, _, rfl, by decide⟩
  rw [handles, Option.isSome_map] at ends
  have single : twoLights.outcomes lightExchange (toggleAt (some 1))
      (respondsWith longResponse) = [.ok (.command ⟨1, 6, 3⟩ longResponse none)] := rfl
  rw [single, InvokeState.processAll,
    InvokeState.run_of_oversized isEmpty unicast packed oversized] at ends
  cases ends

end InvokeServer

end MatterJs.Protocol
