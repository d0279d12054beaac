import MatterJs.Foundation.Execution
import MatterJs.General.DeepEqual
import MatterJs.Protocol.MdnsRecords

/-! How the mDNS server answers queries, and which answers it leaves out because it has sent
them before. -/

namespace MatterJs.Protocol.Mdns

open General Execution

def textData (text : List Char) : Data := .scalar (.string (String.ofList text))

def valueData : DnsRecordData → Data
  | .ptr name => textData name
  | .srv value =>
    .struct [("priority", Data.count value.priority), ("weight", Data.count value.weight),
      ("port", Data.count value.port), ("target", textData value.target)]
  | .txt entries => .list (entries.map fun entry => some (textData entry))
  | .aaaa ip | .a ip => textData ip
  | .other _ _ (some value) => .scalar (.bytes value)
  | .other _ _ none => .undefined

def optionData {Value : Type} (convert : Value → Data) : Option Value → Data
  | some value => convert value
  | none => .undefined

def recordData (record : DnsRecord) : Data :=
  .struct [("name", textData record.name), ("value", valueData record.data),
    ("ttl", Data.count record.ttl), ("recordType", Data.count record.data.recordType),
    ("recordClass", Data.count record.recordClass),
    ("flushCache", optionData (fun flag => .scalar (.boolean flag)) record.flushCache),
    ("forInstance", optionData textData record.forInstance)]

/-! ## The server -/

structure SentResponse where
  time : Nat
  netInterface : String
  unicastTarget : Option String
  transactionId : Nat
  answers : List DnsRecord
  additionalRecords : List DnsRecord

/-- A message that is being handled, with the records of the ports that it is still to be
answered from. -/
structure Handling where
  message : DnsMessage
  remoteIp : String
  netInterface : String
  remaining : List (List DnsRecord)

structure MdnsServer where
  recordLastSentAsMulticastAnswer : OrderedMap String Nat
  recordLastSentAsUnicastAnswer : OrderedMap String Nat
  handlings : List Handling
  /-- The responses sent since the times were last cleared, the latest first. -/
  responses : List SentResponse

namespace MdnsServer

def new : MdnsServer where
  recordLastSentAsMulticastAnswer := ∅
  recordLastSentAsUnicastAnswer := ∅
  handlings := []
  responses := []

inductive Event where
  /-- A message has been decoded that came while the interface had these records. -/
  | message (message : DnsMessage) (remoteIp netInterface : String)
      (records : List (List DnsRecord))
  /-- The handling of a message goes on with the records of the next port. -/
  | nextPort (handling now : Nat)
  /-- Generators are set or expired, and the times are cleared. -/
  | clear

def targetText : Option String → String
  | some unicastTarget => unicastTarget
  | none => "undefined"

def buildDnsRecordKey (record : DnsRecord) (netInterface : String)
    (unicastTarget : Option String) : String :=
  String.ofList record.name ++ "-" ++ toString record.recordClass ++ "-" ++
    toString record.data.recordType ++ "-" ++ netInterface ++ "-" ++ targetText unicastTarget

def ANY : Nat := 255

def queryRecords (query : DnsQuery) (records : List DnsRecord) : List DnsRecord :=
  if query.recordType = ANY then records.filter (·.name = query.name)
  else records.filter fun record =>
    record.name = query.name && record.data.recordType = query.recordType

def isKnown (knownAnswers : List DnsRecord) (record : DnsRecord) : Bool :=
  knownAnswers.any fun known => isDeepEqual true (recordData record) (recordData known)

variable (message : DnsMessage) (portRecords : List DnsRecord)

def matching : List DnsRecord :=
  message.queries.flatMap fun query => queryRecords query portRecords

def dueAnswers : List DnsRecord :=
  (matching message portRecords).filter fun record => !isKnown message.answers record

def dueAdditionalRecords : List DnsRecord :=
  if message.queries.any fun query =>
      query.recordType ≠ DnsRecordType.a && query.recordType ≠ DnsRecordType.aaaa then
    (portRecords.filter fun record => record ∉ matching message portRecords &&
      record.data.recordType ≠ DnsRecordType.ptr).filter fun record =>
        !isKnown message.answers record
  else []

def timeSince (times : OrderedMap String Nat) (key : String) (now : Nat) : Int :=
  now - ((times.get key).getD 0 : Nat)

section Answer

variable (server : MdnsServer) (handling : Handling) (portRecords : List DnsRecord) (now : Nat)

def timeSinceLastMultiCast (record : DnsRecord) : Int :=
  timeSince server.recordLastSentAsMulticastAnswer
    (buildDnsRecordKey record handling.netInterface none) now

def timeSinceLastUniCast (record : DnsRecord) : Int :=
  timeSince server.recordLastSentAsUnicastAnswer
    (buildDnsRecordKey record handling.netInterface (some handling.remoteIp)) now

/-- The response goes to the asking node alone, if all queries want that and no answer was
last sent to all longer ago than a quarter of its time to live. -/
def uniCastResponse : Bool :=
  (handling.message.queries.all fun query => query.uniCastResponse = some true) &&
  !((dueAnswers handling.message portRecords).any fun record =>
    server.timeSinceLastMultiCast handling now record > 250 * (record.ttl : Int))

def unicastTarget : Option String :=
  if server.uniCastResponse handling portRecords now then some handling.remoteIp else none

def timeSinceLastSent (record : DnsRecord) : Int :=
  if server.uniCastResponse handling portRecords now then
    server.timeSinceLastUniCast handling now record
  else server.timeSinceLastMultiCast handling now record

def answers : List DnsRecord :=
  (dueAnswers handling.message portRecords).filter fun record =>
    server.timeSinceLastSent handling portRecords now record > 1000

/-- The answers are sent now. -/
def setTimes (times : OrderedMap String Nat) (keys : List String) : OrderedMap String Nat :=
  keys.foldl (fun times key => times.set key now) times

/-- The body of the loop over the records of the ports -/
def answerPort : MdnsServer :=
  if server.answers handling portRecords now = [] then server
  else
    let target := server.unicastTarget handling portRecords now
    let keys := (server.answers handling portRecords now).map fun record =>
      buildDnsRecordKey record handling.netInterface target
    { server with
      recordLastSentAsMulticastAnswer :=
        if target = none then setTimes now server.recordLastSentAsMulticastAnswer keys
        else server.recordLastSentAsMulticastAnswer
      recordLastSentAsUnicastAnswer :=
        if target = none then server.recordLastSentAsUnicastAnswer
        else setTimes now server.recordLastSentAsUnicastAnswer keys
      responses :=
        { time := now
          netInterface := handling.netInterface
          unicastTarget := target
          transactionId := handling.message.transactionId
          answers := server.answers handling portRecords now
          additionalRecords := dueAdditionalRecords handling.message portRecords } ::
          server.responses }

end Answer

/-- The checks of `#handleDnsMessage` before it goes over the ports -/
def isAnswered (message : DnsMessage) (records : List (List DnsRecord)) : Bool :=
  records ≠ [] &&
    (message.messageType = DnsMessageType.query ||
      message.messageType = DnsMessageType.truncatedQuery) &&
    message.queries ≠ []

variable (server : MdnsServer)

def step : Event → MdnsServer
  | .message message remoteIp netInterface records =>
    if isAnswered message records then
      { server with
        handlings := server.handlings ++ [⟨message, remoteIp, netInterface, records⟩] }
    else server
  | .nextPort index now =>
    match server.handlings[index]? with
    | some ⟨message, remoteIp, netInterface, portRecords :: remaining⟩ =>
      { server.answerPort ⟨message, remoteIp, netInterface, portRecords :: remaining⟩
          portRecords now with
        handlings := server.handlings.set index ⟨message, remoteIp, netInterface, remaining⟩ }
    | _ => server
  | .clear =>
    { server with
      recordLastSentAsMulticastAnswer := ∅
      recordLastSentAsUnicastAnswer := ∅
      responses := [] }

/-! ## What was sent before -/

/-- Same name, class, type and value -/
def SameRecord (record other : DnsRecord) : Prop :=
  record.name = other.name ∧ record.recordClass = other.recordClass ∧ record.data = other.data

def SentRecently (netInterface : String) (unicastTarget : Option String) (now : Nat)
    (record : DnsRecord) : Prop :=
  ∃ response ∈ server.responses, response.netInterface = netInterface ∧
    response.unicastTarget = unicastTarget ∧ (now : Int) - response.time ≤ 1000 ∧
    ∃ answer ∈ response.answers, SameRecord answer record

def lastSent (responses : List SentResponse) (unicast : Bool) (key : String) : Option Nat :=
  (responses.find? fun response => response.unicastTarget.isSome = unicast &&
    response.answers.any fun answer =>
      buildDnsRecordKey answer response.netInterface response.unicastTarget = key).map
    SentResponse.time

/-- The due answers that are left out were sent within the last second. -/
def SuppressesRepeats : Event → Prop
  | .nextPort index now =>
    ∀ handling portRecords remaining, server.handlings[index]? = some handling →
      handling.remaining = portRecords :: remaining →
      ∀ record ∈ dueAnswers handling.message portRecords,
        record ∉ server.answers handling portRecords now →
        server.SentRecently handling.netInterface
          (server.unicastTarget handling portRecords now) now record
  | _ => True

/-- Of the due answers, each whose key was last used at most a second ago was itself sent
within the last second. Keys that were never used count as used at time zero. -/
def KeysApart : Event → Prop
  | .nextPort index now =>
    ∀ handling portRecords remaining, server.handlings[index]? = some handling →
      handling.remaining = portRecords :: remaining →
      ∀ record ∈ dueAnswers handling.message portRecords,
        let target := server.unicastTarget handling portRecords now
        (now : Int) - ((lastSent server.responses target.isSome
          (buildDnsRecordKey record handling.netInterface target)).getD 0 : Nat) ≤ 1000 →
        server.SentRecently handling.netInterface target now record
  | _ => True

structure Timed (server : MdnsServer) : Prop where
  multicast : ∀ key, server.recordLastSentAsMulticastAnswer.get key =
    lastSent server.responses false key
  unicast : ∀ key, server.recordLastSentAsUnicastAnswer.get key = lastSent server.responses true key

theorem get_setTimes (now : Nat) (times : OrderedMap String Nat) (keys : List String)
    (key : String) :
    (setTimes now times keys).get key = if key ∈ keys then some now else times.get key := by
  induction keys generalizing times with
  | nil => rfl
  | cons first keys induction =>
    rw [setTimes, List.foldl_cons, ← setTimes, induction, OrderedMap.get_set]
    by_cases later : key ∈ keys
    · simp [later]
    · by_cases isFirst : key = first
      · simp [isFirst]
      · simp [isFirst]

theorem lastSent_cons (response : SentResponse) (responses : List SentResponse) (unicast : Bool)
    (key : String) :
    lastSent (response :: responses) unicast key =
      if response.unicastTarget.isSome = unicast ∧ key ∈ response.answers.map (fun answer =>
          buildDnsRecordKey answer response.netInterface response.unicastTarget) then
        some response.time
      else lastSent responses unicast key := by
  by_cases used : response.unicastTarget.isSome = unicast ∧ key ∈ response.answers.map
      (fun answer => buildDnsRecordKey answer response.netInterface response.unicastTarget)
  · rcases List.mem_map.mp used.2 with ⟨answer, member, isKey⟩
    have found : (response.answers.any fun answer =>
        buildDnsRecordKey answer response.netInterface response.unicastTarget = key) = true :=
      List.any_eq_true.mpr ⟨answer, member, decide_eq_true isKey⟩
    rw [if_pos used, lastSent, List.find?_cons_of_pos]
    · rfl
    · simp [used.1, found]
  · rw [if_neg used, lastSent, List.find?_cons_of_neg]
    · rfl
    · intro found
      simp only [Bool.and_eq_true, decide_eq_true_eq, List.any_eq_true] at found
      rcases found with ⟨isUnicast, answer, member, isKey⟩
      exact used ⟨isUnicast, List.mem_map.mpr ⟨answer, member, isKey⟩⟩

theorem timed_new : new.Timed := ⟨fun _ => rfl, fun _ => rfl⟩

theorem Timed.answerPort {server : MdnsServer} (timed : server.Timed) (handling : Handling)
    (portRecords : List DnsRecord) (now : Nat) :
    (server.answerPort handling portRecords now).Timed := by
  rw [MdnsServer.answerPort]
  split
  · exact timed
  · cases isTarget : server.unicastTarget handling portRecords now with
    | none =>
      constructor
      · intro key
        dsimp only
        rw [lastSent_cons, if_pos rfl, get_setTimes, timed.multicast]
        simp
      · intro key
        dsimp only
        rw [lastSent_cons, if_pos rfl, timed.unicast]
        simp
    | some target =>
      constructor
      · intro key
        dsimp only
        rw [lastSent_cons, if_neg nofun, timed.multicast]
        simp
      · intro key
        dsimp only
        rw [lastSent_cons, if_neg nofun, get_setTimes, timed.unicast]
        simp

theorem Timed.step {server : MdnsServer} (timed : server.Timed) (event : Event) :
    (server.step event).Timed := by
  cases event with
  | message message remoteIp netInterface records =>
    rw [MdnsServer.step]
    split
    · exact ⟨timed.multicast, timed.unicast⟩
    · exact timed
  | nextPort index now =>
    rw [MdnsServer.step]
    split
    · rename_i message remoteIp netInterface portRecords remaining found
      have after := timed.answerPort
        ⟨message, remoteIp, netInterface, portRecords :: remaining⟩ portRecords now
      exact ⟨after.multicast, after.unicast⟩
    · exact timed
  | clear => exact ⟨fun _ => rfl, fun _ => rfl⟩

theorem Timed.timeSinceLastSent_eq {server : MdnsServer} (timed : server.Timed)
    (handling : Handling) (portRecords : List DnsRecord) (now : Nat) (record : DnsRecord) :
    server.timeSinceLastSent handling portRecords now record =
      (now : Int) - ((lastSent server.responses
        (server.unicastTarget handling portRecords now).isSome
        (buildDnsRecordKey record handling.netInterface
          (server.unicastTarget handling portRecords now))).getD 0 : Nat) := by
  rw [timeSinceLastSent, unicastTarget]
  split
  · rw [timeSinceLastUniCast, timeSince, timed.unicast]
    rfl
  · rw [timeSinceLastMultiCast, timeSince, timed.multicast]
    rfl

theorem not_mem_answers_iff {server : MdnsServer} {handling : Handling}
    {portRecords : List DnsRecord} {now : Nat} {record : DnsRecord}
    (due : record ∈ dueAnswers handling.message portRecords) :
    record ∉ server.answers handling portRecords now ↔
      server.timeSinceLastSent handling portRecords now record ≤ 1000 := by
  rw [answers, List.mem_filter, decide_eq_true_eq]
  constructor
  · intro left
    by_contra long
    exact left ⟨due, lt_of_not_ge long⟩
  · intro recent sent
    exact absurd sent.2 (not_lt_of_ge recent)

theorem suppressesRepeats_iff {server : MdnsServer} (timed : server.Timed) (event : Event) :
    server.SuppressesRepeats event ↔ server.KeysApart event := by
  cases event with
  | message message remoteIp netInterface records => exact Iff.rfl
  | clear => exact Iff.rfl
  | nextPort index now =>
    refine forall_congr' fun handling => forall_congr' fun portRecords =>
      forall_congr' fun remaining => imp_congr_right fun _ => imp_congr_right fun _ =>
      forall_congr' fun record => imp_congr_right fun due => ?_
    rw [not_mem_answers_iff due, timed.timeSinceLastSent_eq]

/-- In every history of queries, answers are left out only as repeats if and only if, at each
port that a query is answered from, every due answer whose name, class and type were sent
within the last second was itself sent within it. -/
theorem suppressesRepeats_iff_keysApart (events : List Event) :
    Along step SuppressesRepeats new events ↔ Along step KeysApart new events :=
  along_iff_along Timed timed_new (fun _ event _ timed => timed.step event)
    (fun _ event timed => suppressesRepeats_iff timed event)

/-- The service discovery records of a port's operational and commissionable sets -/
def operationalPtr : DnsRecord := ptrRecord SERVICE_DISCOVERY_QNAME MATTER_SERVICE_QNAME none

def commissionablePtr : DnsRecord :=
  ptrRecord SERVICE_DISCOVERY_QNAME MATTER_COMMISSION_SERVICE_QNAME none

def discoveryQuery : DnsMessage where
  transactionId := 0
  messageType := DnsMessageType.query
  queries := [⟨SERVICE_DISCOVERY_QNAME, DnsRecordType.ptr, IN, none⟩]
  answers := []
  authorities := []
  additionalRecords := []

def discoveryHandling (remaining : List (List DnsRecord)) : Handling :=
  ⟨discoveryQuery, "fe80::1", "eth0", remaining⟩

def answeredOperational : MdnsServer :=
  run step new
    [.message discoveryQuery "fe80::1" "eth0" [[operationalPtr], [commissionablePtr]],
      .nextPort 0 100000]

theorem responses_answeredOperational : answeredOperational.responses =
    [⟨100000, "eth0", none, 0, [operationalPtr], []⟩] := by
  rfl

/-- The second set's record is left out for the first one's, which has another value. -/
theorem suppressesRepeats_discovery_false :
    ¬ Along step SuppressesRepeats new
      [.message discoveryQuery "fe80::1" "eth0" [[operationalPtr], [commissionablePtr]],
        .nextPort 0 100000, .nextPort 0 100050] := by
  rintro ⟨-, -, repeats, -⟩
  have timed : answeredOperational.Timed :=
    run_invariant step Timed (fun _ event timed => timed.step event) timed_new _
  have due : commissionablePtr ∈
      dueAnswers (discoveryHandling [[commissionablePtr]]).message [commissionablePtr] := by decide
  have leftOut : commissionablePtr ∉ answeredOperational.answers
      (discoveryHandling [[commissionablePtr]]) [commissionablePtr] 100050 := by
    decide
  rcases repeats (discoveryHandling [[commissionablePtr]]) [commissionablePtr] [] rfl rfl
    commissionablePtr due leftOut with ⟨response, sent, -, -, -, answer, isAnswer, same⟩
  change response ∈ answeredOperational.responses at sent
  rw [responses_answeredOperational, List.mem_singleton] at sent
  rw [sent, List.mem_singleton] at isAnswer
  rw [isAnswer] at same
  have differ : operationalPtr.data ≠ commissionablePtr.data := by decide
  exact differ same.2.2

end MdnsServer

end MatterJs.Protocol.Mdns
