import MatterJs.Protocol.StructuredAnswers

/-! The queries that an mDNS scanner sends with the answers that it knows, in as many messages
as the answers need. -/

namespace MatterJs.Protocol

open General DnsMessageType DnsCodec

/-- The maximum MDNS message size to usually fit into one UDP network MTU packet -/
def maxMdnsMessageSize : Nat :=
  1232

inductive AnswerTable where
  | operational
  | commissionable
  | addressesV4
  | addressesV6
  deriving DecidableEq

def AnswerTable.all : List AnswerTable :=
  [.operational, .commissionable, .addressesV4, .addressesV6]

structure ActiveQuery where
  queries : List DnsQuery
  answers : StructuredDnsAnswers
  /-- The order in which the tables came into `answers`; those that did not are skipped. -/
  order : List AnswerTable
  isOrder : order.Perm AnswerTable.all

/-- What becomes of the answers: `flatMap` takes arrays apart, but leaves the iterator over the
values of a `Map` as it is. -/
inductive FlatAnswer where
  | record (record : AnyDnsRecordWithExpiry)
  | iterator (records : RecordMap)

namespace FlatAnswer

def records : FlatAnswer → List AnyDnsRecordWithExpiry
  | .record answer => [answer]
  | .iterator answers => answers.values

/-- `encodeRecord`; an iterator has none of the properties that it reads. -/
def encodeRecord : FlatAnswer → Except MatterError Bytes
  | .record answer => DnsCodec.encodeRecord answer.toDnsRecord
  | .iterator _ => .error (.unexpectedDataError "Unsupported record type undefined")

end FlatAnswer

namespace StructuredDnsAnswers

def serviceAnswers (table : Option (OrderedMap Nat (List AnyDnsRecordWithExpiry))) :
    List FlatAnswer :=
  ((table.getD {}).entries.mergeSort fun entry other => entry.1 ≤ other.1).flatMap fun entry =>
    entry.2.map .record

def addressAnswers (table : Option (OrderedMap (List Char) RecordMap)) : List FlatAnswer :=
  (table.getD {}).values.map .iterator

def tableAnswers (answers : StructuredDnsAnswers) : AnswerTable → List FlatAnswer
  | .operational => serviceAnswers answers.operational
  | .commissionable => serviceAnswers answers.commissionable
  | .addressesV4 => addressAnswers answers.addressesV4
  | .addressesV6 => addressAnswers answers.addressesV6

/-- No name is in the address tables. -/
def HasNoAddresses (answers : StructuredDnsAnswers) : Prop :=
  (answers.addressesV4.getD {}).values = [] ∧ (answers.addressesV6.getD {}).values = []

end StructuredDnsAnswers

namespace ActiveQuery

def flatAnswers (query : ActiveQuery) : List FlatAnswer :=
  query.order.flatMap query.answers.tableAnswers

def knownAnswers (query : ActiveQuery) : List AnyDnsRecordWithExpiry :=
  query.flatAnswers.flatMap FlatAnswer.records

end ActiveQuery

structure DnsMessageDataToSend where
  queries : List DnsQuery
  answers : List Bytes

namespace DnsMessageDataToSend

def toPartial (data : DnsMessageDataToSend) (messageType : Nat) : PartialDnsMessage where
  messageType := some messageType
  transactionId := 0
  queries := data.queries
  answers := data.answers.map .inr

end DnsMessageDataToSend

/-- The loop over `answersToSend`: the messages sent, and the error that ended it. -/
def sendAnswers (emptyDnsMessageLength : Nat) (data : DnsMessageDataToSend)
    (dnsMessageSize : Nat) : List FlatAnswer → List Bytes × Option MatterError
  | [] =>
    match encode (data.toPartial query) with
    | .error error => ([], some error)
    | .ok message => ([message], none)
  | nextAnswer :: answersToSend =>
    match nextAnswer.encodeRecord with
    | .error error => ([], some error)
    | .ok nextAnswerEncoded =>
      if maxMdnsMessageSize < dnsMessageSize + nextAnswerEncoded.length then
        -- New answer do not fit anymore, send out the message
        match encode (data.toPartial truncatedQuery) with
        | .error error => ([], some error)
        | .ok message =>
          let sent := sendAnswers emptyDnsMessageLength ⟨[], [nextAnswerEncoded]⟩
            (emptyDnsMessageLength + nextAnswerEncoded.length) answersToSend
          (message :: sent.1, sent.2)
      else
        sendAnswers emptyDnsMessageLength
          { data with answers := data.answers ++ [nextAnswerEncoded] }
          (dnsMessageSize + nextAnswerEncoded.length) answersToSend

variable (activeAnnounceQueries : OrderedMap (List Char) ActiveQuery)

def sendQueries : List Bytes × Option MatterError :=
  let queries := activeAnnounceQueries.values.flatMap ActiveQuery.queries
  let answers := activeAnnounceQueries.values.flatMap ActiveQuery.flatAnswers
  let data : DnsMessageDataToSend := ⟨queries, []⟩
  match encode (data.toPartial truncatedQuery) with
  | .error error => ([], some error)
  | .ok emptyDnsMessage => sendAnswers emptyDnsMessage.length data emptyDnsMessage.length answers

structure QueryMessage extends DnsMessageDataToSend where
  messageType : Nat
  bytes : Bytes
  encodes : encode (toDnsMessageDataToSend.toPartial messageType) = .ok bytes

/-- The queries are in the first of the messages, the answers in all of them, and only the last
one is not truncated. -/
structure CarriesAnswers (queries : List DnsQuery) (answers : List Bytes)
    (messages : List QueryMessage) : Prop where
  queriesFirst : ∃ first rest, messages = first :: rest ∧ first.queries = queries ∧
    ∀ message ∈ rest, message.queries = []
  answersInOrder : messages.flatMap (·.answers) = answers
  small : ∀ message ∈ messages, 1 < message.answers.length →
    message.bytes.length ≤ maxMdnsMessageSize
  lastComplete : ∃ truncated last, messages = truncated ++ [last] ∧
    last.messageType = query ∧
    ∀ message ∈ truncated, message.messageType = truncatedQuery

def SendsKnownAnswers : Prop :=
  ∃ messages answers,
    sendQueries activeAnnounceQueries = (messages.map QueryMessage.bytes, none) ∧
    CarriesAnswers (activeAnnounceQueries.values.flatMap ActiveQuery.queries) answers messages ∧
    List.Forall₂ (fun (record : AnyDnsRecordWithExpiry) bytes =>
        encodeRecord record.toDnsRecord = .ok bytes)
      (activeAnnounceQueries.values.flatMap ActiveQuery.knownAnswers) answers

def Encodable (record : AnyDnsRecordWithExpiry) : Prop :=
  ∃ bytes, encodeRecord record.toDnsRecord = .ok bytes

/-- No query knows an address, and every record can be encoded. -/
def OnlyServices : Prop :=
  ∀ query ∈ activeAnnounceQueries.values,
    query.answers.HasNoAddresses ∧ ∀ record ∈ query.knownAnswers, Encodable record

/-! ## The length of a message -/

namespace DnsMessageDataToSend

def queryLength (query : DnsQuery) : Nat :=
  (encodeQName query.name).length + 4

def byteLength (data : DnsMessageDataToSend) : Nat :=
  12 + (data.queries.map queryLength).sum + (data.answers.map List.length).sum

theorem length_foldl_writeQuery (queries : List DnsQuery) (writer : DataWriter) :
    (queries.foldl writeQuery writer).length =
      writer.length + (queries.map queryLength).sum := by
  induction queries generalizing writer with
  | nil => rfl
  | cons query queries induction =>
    have written : (writeQuery writer query).length =
        writer.length + queryLength query := by
      simp [writeQuery, DataWriter.writeUInt16, DataWriter.writeUInt,
        DataWriter.writeByteArray, queryLength, Nat.add_assoc]
    rw [List.foldl_cons, induction, written, List.map_cons, List.sum_cons, Nat.add_assoc]

theorem foldlM_writeRecord_encoded (records : List Bytes) (writer : DataWriter) :
    ∃ after, (records.map Sum.inr).foldlM writeRecord writer = .ok after ∧
      after.length = writer.length + (records.map List.length).sum := by
  induction records generalizing writer with
  | nil => exact ⟨writer, rfl, rfl⟩
  | cons encoded records induction =>
    rcases induction (writer.writeByteArray encoded) with ⟨after, writes, length⟩
    refine ⟨after, writes, ?_⟩
    rw [length, List.map_cons, List.sum_cons, ← Nat.add_assoc]
    rfl

theorem exists_encode_toPartial (data : DnsMessageDataToSend) {messageType : Nat}
    (isQuery : messageType = query ∨ messageType = truncatedQuery) :
    ∃ bytes, encode (data.toPartial messageType) = .ok bytes ∧
      bytes.length = data.byteLength := by
  have allowed : ¬(data.queries.length > 0 ∧ messageType ≠ query ∧
      messageType ≠ truncatedQuery) := by
    rintro ⟨_, notQuery, notTruncated⟩
    exact isQuery.elim notQuery notTruncated
  let header := (((((((DataWriter.new .big).writeUInt16 0).writeUInt16 messageType).writeUInt16
    data.queries.length).writeUInt16 (data.toPartial messageType).answers.length).writeUInt16
    0).writeUInt16 0)
  rcases foldlM_writeRecord_encoded data.answers (data.queries.foldl writeQuery header)
    with ⟨after, writes, length⟩
  refine ⟨after.toByteArray, ?_, ?_⟩
  · refine (if_neg allowed).trans ((if_neg (Nat.lt_irrefl 0)).trans ?_)
    change (do
      let writer ← (data.answers.map Sum.inr ++ [] ++ []).foldlM writeRecord
        (data.queries.foldl writeQuery header)
      return writer.toByteArray) = _
    rw [List.append_nil, List.append_nil, writes]
    rfl
  · have headerLength : header.length = 12 := by
      simp [header, DataWriter.writeUInt16, DataWriter.writeUInt, DataWriter.writeByteArray,
        DataWriter.new]
    rw [DataWriter.toByteArray_length, length, length_foldl_writeQuery, headerLength, byteLength]

end DnsMessageDataToSend

open DnsMessageDataToSend

/-! ## Splitting the answers -/

theorem CarriesAnswers.single {message : QueryMessage} (isQuery : message.messageType = query)
    (small : 1 < message.answers.length → message.bytes.length ≤ maxMdnsMessageSize) :
    CarriesAnswers message.queries message.answers [message] where
  queriesFirst := ⟨message, [], rfl, rfl, nofun⟩
  answersInOrder := List.flatMap_singleton ..
  small := by
    rw [List.forall_mem_singleton]
    exact small
  lastComplete := ⟨[], message, rfl, isQuery, nofun⟩

theorem CarriesAnswers.cons {message : QueryMessage} {answers : List Bytes}
    {messages : List QueryMessage} (carries : CarriesAnswers [] answers messages)
    (isTruncated : message.messageType = truncatedQuery)
    (small : 1 < message.answers.length → message.bytes.length ≤ maxMdnsMessageSize) :
    CarriesAnswers message.queries (message.answers ++ answers) (message :: messages) where
  queriesFirst := by
    rcases carries.queriesFirst with ⟨first, rest, rfl, firstEmpty, restEmpty⟩
    exact ⟨message, first :: rest, rfl, rfl, List.forall_mem_cons.mpr ⟨firstEmpty, restEmpty⟩⟩
  answersInOrder := by rw [List.flatMap_cons, carries.answersInOrder]
  small := List.forall_mem_cons.mpr ⟨small, carries.small⟩
  lastComplete := by
    rcases carries.lastComplete with ⟨truncated, last, rfl, isQuery, areTruncated⟩
    exact ⟨message :: truncated, last, rfl, isQuery,
      List.forall_mem_cons.mpr ⟨isTruncated, areTruncated⟩⟩

theorem sendAnswers_carries {emptyLength dnsMessageSize : Nat} {data : DnsMessageDataToSend}
    {answers : List FlatAnswer} {encoded : List Bytes}
    (encodes : List.Forall₂ (fun answer bytes => answer.encodeRecord = .ok bytes) answers encoded)
    (headerCounted : 12 ≤ emptyLength) (counted : data.byteLength ≤ dnsMessageSize)
    (small : 1 < data.answers.length → dnsMessageSize ≤ maxMdnsMessageSize) :
    ∃ messages, sendAnswers emptyLength data dnsMessageSize answers =
        (messages.map QueryMessage.bytes, none) ∧
      CarriesAnswers data.queries (data.answers ++ encoded) messages := by
  induction encodes generalizing data dnsMessageSize with
  | nil =>
    rcases data.exists_encode_toPartial (.inl rfl) with ⟨bytes, encodesData, length⟩
    refine ⟨[⟨data, _, bytes, encodesData⟩], ?_, ?_⟩
    · rw [sendAnswers, encodesData]
      rfl
    · rw [List.append_nil]
      apply @CarriesAnswers.single ⟨data, _, bytes, encodesData⟩ rfl
      intro several
      exact (length.trans_le counted).trans (small several)
  | @cons answer bytes answers encoded encodesAnswer _ induction =>
    rw [sendAnswers, encodesAnswer]
    dsimp only
    by_cases full : maxMdnsMessageSize < dnsMessageSize + bytes.length
    · rw [if_pos full]
      rcases data.exists_encode_toPartial (.inr rfl) with ⟨message, encodesData, length⟩
      rw [encodesData]
      have nextCounted : (DnsMessageDataToSend.mk [] [bytes]).byteLength ≤
          emptyLength + bytes.length := by
        simp [byteLength]
        omega
      rcases induction nextCounted (fun several => absurd several (Nat.lt_irrefl 1)) with
        ⟨messages, sends, carries⟩
      refine ⟨⟨data, _, message, encodesData⟩ :: messages, ?_, ?_⟩
      · dsimp only
        rw [sends]
        rfl
      · apply @CarriesAnswers.cons ⟨data, _, message, encodesData⟩ _ _ carries rfl
        intro several
        exact (length.trans_le counted).trans (small several)
    · rw [if_neg full]
      have nextCounted : DnsMessageDataToSend.byteLength
          { data with answers := data.answers ++ [bytes] } ≤ dnsMessageSize + bytes.length := by
        rw [byteLength] at counted ⊢
        simp
        omega
      rcases induction nextCounted (fun _ => Nat.not_lt.mp full) with
        ⟨messages, sends, carries⟩
      refine ⟨messages, sends, ?_⟩
      rwa [List.append_assoc] at carries

theorem encodes_of_sendAnswers {emptyLength dnsMessageSize : Nat} {data : DnsMessageDataToSend}
    {answers : List FlatAnswer}
    (noError : (sendAnswers emptyLength data dnsMessageSize answers).2 = none) :
    ∀ answer ∈ answers, ∃ bytes, answer.encodeRecord = .ok bytes := by
  induction answers generalizing data dnsMessageSize with
  | nil => exact nofun
  | cons answer answers induction =>
    rw [sendAnswers] at noError
    cases encoded : answer.encodeRecord with
    | error error =>
      rw [encoded] at noError
      cases noError
    | ok bytes =>
      rw [encoded] at noError
      dsimp only at noError
      refine List.forall_mem_cons.mpr ⟨⟨bytes, encoded⟩, ?_⟩
      by_cases full : maxMdnsMessageSize < dnsMessageSize + bytes.length
      · rcases data.exists_encode_toPartial (.inr rfl) with ⟨message, encodesData, _⟩
        rw [if_pos full, encodesData] at noError
        exact induction noError
      · rw [if_neg full] at noError
        exact induction noError

/-! ## The answers of all queries -/

theorem mem_addressAnswers {table : Option (OrderedMap (List Char) RecordMap)}
    {records : RecordMap} :
    FlatAnswer.iterator records ∈ StructuredDnsAnswers.addressAnswers table ↔
      records ∈ (table.getD {}).values := by
  simp [StructuredDnsAnswers.addressAnswers]

theorem iterator_not_mem_serviceAnswers
    (table : Option (OrderedMap Nat (List AnyDnsRecordWithExpiry))) (records : RecordMap) :
    FlatAnswer.iterator records ∉ StructuredDnsAnswers.serviceAnswers table := by
  simp [StructuredDnsAnswers.serviceAnswers]

theorem iterator_not_mem_iff (query : ActiveQuery) :
    (∀ records, FlatAnswer.iterator records ∉ query.flatAnswers) ↔
      query.answers.HasNoAddresses := by
  constructor
  · intro noIterator
    have none : ∀ table records,
        FlatAnswer.iterator records ∉ query.answers.tableAnswers table := by
      intro table records member
      have inOrder : table ∈ query.order :=
        query.isOrder.mem_iff.mpr (by cases table <;> decide)
      exact noIterator records (List.mem_flatMap.mpr ⟨table, inOrder, member⟩)
    constructor
    · apply List.eq_nil_iff_forall_not_mem.mpr
      exact fun records member => none .addressesV4 records (mem_addressAnswers.mpr member)
    · apply List.eq_nil_iff_forall_not_mem.mpr
      exact fun records member => none .addressesV6 records (mem_addressAnswers.mpr member)
  · rintro ⟨noV4, noV6⟩ records member
    rcases List.mem_flatMap.mp member with ⟨table, _, inTable⟩
    cases table with
    | operational => exact iterator_not_mem_serviceAnswers _ records inTable
    | commissionable => exact iterator_not_mem_serviceAnswers _ records inTable
    | addressesV4 =>
      rw [StructuredDnsAnswers.tableAnswers, mem_addressAnswers, noV4] at inTable
      cases inTable
    | addressesV6 =>
      rw [StructuredDnsAnswers.tableAnswers, mem_addressAnswers, noV6] at inTable
      cases inTable

theorem encodes_flatAnswers_iff (query : ActiveQuery) :
    (∀ answer ∈ query.flatAnswers, ∃ bytes, answer.encodeRecord = .ok bytes) ↔
      query.answers.HasNoAddresses ∧ ∀ record ∈ query.knownAnswers, Encodable record := by
  rw [← iterator_not_mem_iff]
  constructor
  · intro encodes
    have noIterator : ∀ records, FlatAnswer.iterator records ∉ query.flatAnswers := by
      intro records member
      rcases encodes _ member with ⟨bytes, encoded⟩
      cases encoded
    refine ⟨noIterator, fun record member => ?_⟩
    rcases List.mem_flatMap.mp member with ⟨answer, inAnswers, isRecord⟩
    cases answer with
    | record answer =>
      rw [List.mem_singleton.mp isRecord]
      exact encodes _ inAnswers
    | iterator records => exact absurd inAnswers (noIterator records)
  · rintro ⟨noIterator, encodes⟩ answer member
    cases answer with
    | record answer =>
      exact encodes answer (List.mem_flatMap.mpr ⟨_, member, List.mem_singleton_self answer⟩)
    | iterator records => exact absurd member (noIterator records)

theorem exists_encoded {answers : List FlatAnswer}
    (encodes : ∀ answer ∈ answers, ∃ bytes, answer.encodeRecord = .ok bytes) :
    ∃ encoded, List.Forall₂ (fun answer bytes => FlatAnswer.encodeRecord answer = .ok bytes)
      answers encoded := by
  induction answers with
  | nil => exact ⟨[], .nil⟩
  | cons answer answers induction =>
    rw [List.forall_mem_cons] at encodes
    rcases encodes.1 with ⟨bytes, first⟩
    rcases induction encodes.2 with ⟨encoded, rest⟩
    exact ⟨bytes :: encoded, .cons first rest⟩

theorem forall₂_records {answers : List FlatAnswer} {encoded : List Bytes}
    (encodes : List.Forall₂ (fun answer bytes => FlatAnswer.encodeRecord answer = .ok bytes)
      answers encoded) :
    List.Forall₂ (fun (record : AnyDnsRecordWithExpiry) bytes =>
        DnsCodec.encodeRecord record.toDnsRecord = .ok bytes)
      (answers.flatMap FlatAnswer.records) encoded := by
  induction encodes with
  | nil => exact .nil
  | @cons answer bytes _ _ first _ induction =>
    cases answer with
    | record answer => exact .cons first induction
    | iterator records => cases first

/-- The messages carry every query and every known answer exactly when no query knows an
address and all records can be encoded. -/
theorem sendsKnownAnswers_iff_onlyServices
    (activeAnnounceQueries : OrderedMap (List Char) ActiveQuery) :
    SendsKnownAnswers activeAnnounceQueries ↔ OnlyServices activeAnnounceQueries := by
  let data : DnsMessageDataToSend :=
    ⟨activeAnnounceQueries.values.flatMap ActiveQuery.queries, []⟩
  rcases data.exists_encode_toPartial (.inr rfl) with ⟨empty, encodesEmpty, length⟩
  have sends : sendQueries activeAnnounceQueries = sendAnswers empty.length data empty.length
      (activeAnnounceQueries.values.flatMap ActiveQuery.flatAnswers) := by
    rw [sendQueries, encodesEmpty]
  constructor
  · rintro ⟨messages, answers, isSent, _⟩ query member
    apply (encodes_flatAnswers_iff query).mp
    intro answer isAnswer
    rw [sends] at isSent
    exact encodes_of_sendAnswers (congrArg Prod.snd isSent) answer
      (List.mem_flatMap.mpr ⟨query, member, isAnswer⟩)
  · intro onlyServices
    have encodes : ∀ answer ∈ activeAnnounceQueries.values.flatMap ActiveQuery.flatAnswers,
        ∃ bytes, answer.encodeRecord = .ok bytes := by
      intro answer isAnswer
      rcases List.mem_flatMap.mp isAnswer with ⟨query, member, inQuery⟩
      exact (encodes_flatAnswers_iff query).mpr (onlyServices query member) answer inQuery
    rcases exists_encoded encodes with ⟨encoded, allEncoded⟩
    have headerCounted : 12 ≤ empty.length := by
      rw [length, byteLength, Nat.add_assoc]
      exact Nat.le_add_right ..
    rcases sendAnswers_carries allEncoded headerCounted (Nat.le_of_eq length.symm) nofun with
      ⟨messages, isSent, carries⟩
    refine ⟨messages, encoded, sends.trans isSent, carries, ?_⟩
    have known := forall₂_records allEncoded
    rwa [List.flatMap_assoc] at known

def addressQuery : ActiveQuery where
  queries := [⟨['q'], DnsRecordType.srv, 1, none⟩]
  answers := addressAnswers
  order := AnswerTable.all
  isOrder := .refl _

/-- No message is sent at all. -/
theorem addressQuery_not_sent :
    ¬∀ activeAnnounceQueries, SendsKnownAnswers activeAnnounceQueries := by
  intro all
  rcases all (({} : OrderedMap _ _).set ['a'] addressQuery) with ⟨messages, answers, sent, _⟩
  have noError : (sendQueries (({} : OrderedMap _ _).set ['a'] addressQuery)).2 = none := by
    rw [sent]
  exact absurd noError (by decide +kernel)

end MatterJs.Protocol
