import MatterJs.General.DataReader
import MatterJs.General.ParseInt

namespace MatterJs.General

open Consumption DataReader

/-! DNS messages: names with compression, queries and records. -/

structure SrvRecordValue where
  priority : Nat
  weight : Nat
  port : Nat
  target : List Char
  deriving DecidableEq

structure DnsQuery where
  name : List Char
  recordType : Nat
  recordClass : Nat
  uniCastResponse : Option Bool
  deriving DecidableEq

namespace DnsMessageType
def query : Nat := 0x0000
def truncatedQuery : Nat := 0x0200
def response : Nat := 0x8400
def truncatedResponse : Nat := 0x8600
end DnsMessageType

namespace DnsRecordType

def a : Nat := 0x01
def ptr : Nat := 0x0c
def txt : Nat := 0x10
def aaaa : Nat := 0x1c
def srv : Nat := 0x21

/-- The types whose values the codec knows. -/
def known : List Nat := [a, ptr, txt, aaaa, srv]

end DnsRecordType

/-- The type of a record with its value, which is of the kind the codec casts it to. -/
inductive DnsRecordData where
  | ptr (name : List Char)
  | srv (value : SrvRecordValue)
  | txt (entries : List (List Char))
  | aaaa (ip : List Char)
  | a (ip : List Char)
  /-- A type the codec does not know. The value is `none` where it is no byte array. -/
  | other (recordType : Nat) (unknown : recordType ∉ DnsRecordType.known) (value : Option Bytes)
  deriving DecidableEq

def DnsRecordData.recordType : DnsRecordData → Nat
  | .ptr _ => DnsRecordType.ptr
  | .srv _ => DnsRecordType.srv
  | .txt _ => DnsRecordType.txt
  | .aaaa _ => DnsRecordType.aaaa
  | .a _ => DnsRecordType.a
  | .other recordType _ _ => recordType

structure DnsRecord where
  name : List Char
  recordClass : Nat
  flushCache : Option Bool
  ttl : Nat
  data : DnsRecordData
  forInstance : Option (List Char)
  deriving DecidableEq

structure DnsMessage where
  transactionId : Nat
  messageType : Nat
  queries : List DnsQuery
  answers : List DnsRecord
  authorities : List DnsRecord
  additionalRecords : List DnsRecord
  deriving DecidableEq

/-- What `encode` takes: fields may be left out, and records encoded before. -/
structure PartialDnsMessage where
  messageType : Option Nat
  transactionId : Nat := 0
  queries : List DnsQuery := []
  answers : List (DnsRecord ⊕ Bytes) := []
  authorities : List DnsRecord := []
  additionalRecords : List (DnsRecord ⊕ Bytes) := []

def DnsMessage.toPartial (message : DnsMessage) : PartialDnsMessage where
  messageType := some message.messageType
  transactionId := message.transactionId
  queries := message.queries
  answers := message.answers.map .inl
  authorities := message.authorities
  additionalRecords := message.additionalRecords.map .inl

namespace DnsCodec

/-- Why a decoder stops short of a value. -/
inductive Stop where
  /-- It took more calls and rounds than it was given. -/
  | outOfFuel
  | thrown (error : MatterError)

abbrev Decoder (α : Type) := Action DataReader Stop α

def read {α : Type} (action : DataReader → Except MatterError (α × DataReader)) : Decoder α :=
  mapFailure .thrown (reading action)

def take {α : Type} (action : DataReader → α × DataReader) : Decoder α :=
  mapFailure .thrown (taking action)

def throwing {α : Type} (error : MatterError) : Decoder α :=
  throw (.thrown error)

def inspect {α : Type} (property : DataReader → α) : Decoder α :=
  fun reader => .ok (property reader, reader)

def onReader {α : Type} (other : DataReader) (decoder : Decoder α) : Decoder α :=
  fun reader => (decoder other).map fun result => (result.1, reader)

/-- One item of a name. `decodeQName` decodes the name a pointer points to. -/
def decodeQNameItem (message : Bytes) (decodeQName : List Nat → Decoder (List Char))
    (visited : List Nat) (qNameItems : List (List Char)) :
    Decoder (ForInStep (List (List Char))) := do
  let itemLength ← read readUInt8
  let remaining ← inspect remainingBytesCount
  if itemLength = 0 then
    return .done qNameItems
  else if itemLength &&& 0xc0 ≠ 0 then
    if remaining < 1 then
      throwing (.unexpectedDataError "QNAME pointer exceeds remaining bytes.")
    else
      let low ← read readUInt8
      let indexInMessage := low ||| ((itemLength &&& 0x3f) <<< 8)
      if indexInMessage ≥ message.length then
        throwing (.unexpectedDataError
          "Invalid compressed QNAME pointer pointing to out of bounds index.")
      else
        match (new message .big).setOffset indexInMessage with
        | .error error => throwing error
        | .ok messageReader =>
          let name ← onReader messageReader (decodeQName visited)
          return .done (qNameItems ++ [name])
  else if remaining < itemLength + 1 then
    throwing (.unexpectedDataError s!"QNAME item length {itemLength} exceeds remaining bytes.")
  else
    let item ← take (readUtf8String · itemLength)
    return .yield (qNameItems ++ [item])

/-- A name, with the offsets at which names it is part of begin. -/
def decodeQName (message : Bytes) : Nat → List Nat → Decoder (List Char)
  | 0, _ => throw .outOfFuel
  | fuel + 1, visited => do
    let offset ← inspect offset
    if visited.contains offset then
      throwing (.unexpectedDataError s!"QNAME pointer loop detected. Index {offset} visited twice.")
    else
      let qNameItems ← loop .outOfFuel
        (decodeQNameItem message (decodeQName message fuel) (visited ++ [offset])) fuel []
      return ['.'].intercalate qNameItems

section

variable (fuel : Nat) (message : Bytes)

def decodeQuery : Decoder DnsQuery := do
  let name ← decodeQName message fuel []
  let recordType ← read readUInt16
  let classInt ← read readUInt16
  return {
    name := name
    recordType := recordType
    recordClass := classInt &&& 0x7fff
    uniCastResponse := some (classInt &&& 0x8000 != 0) }

def decodeSrvRecord : Decoder SrvRecordValue := do
  let priority ← read readUInt16
  let weight ← read readUInt16
  let port ← read readUInt16
  let target ← decodeQName message fuel []
  return { priority := priority, weight := weight, port := port, target := target }

/-- A round of the loop over the entries, with the number of bytes read so far. -/
def decodeTxtEntry (length : Nat) (progress : Nat × List (List Char)) :
    Decoder (ForInStep (Nat × List (List Char))) :=
  if progress.1 < length then do
    let entryLength ← read readUInt8
    let entry ← take (readUtf8String · entryLength)
    return .yield (progress.1 + (entryLength + 1), progress.2 ++ [entry])
  else
    return .done progress

def decodeTxtRecord (length : Nat) : Decoder (List (List Char)) := do
  let result ← loop .outOfFuel (decodeTxtEntry length) fuel (0, [])
  return result.2

/-- The results of `count` runs of a decoder. -/
def times {α : Type} (decoder : Decoder α) : Nat → Decoder (List α)
  | 0 => return []
  | count + 1 => do
    let first ← decoder
    let others ← times decoder count
    return first :: others

/-- Where sequences of zeros begin, and how long they are, with `start` the index of the
first item and `zeros` how many zeros stand right before it. -/
def zeroSequences (start zeros : Nat) : List (List Char) → List (Nat × Nat)
  | [] => if zeros = 0 then [] else [(start - zeros, zeros)]
  | item :: items =>
    if item = ['0'] then zeroSequences (start + 1) (zeros + 1) items
    else if zeros = 0 then zeroSequences (start + 1) 0 items
    else (start - zeros, zeros) :: zeroSequences (start + 1) 0 items

def decodeAaaaRecord : Decoder (List Char) := do
  let parts ← times (read readUInt16) 8
  let ipItems := parts.map (Nat.toDigits 16)
  match (zeroSequences 0 0 ipItems).mergeSort fun first second => first.2 ≤ second.2 with
  | [] => return [':'].intercalate ipItems
  | (start, length) :: _ =>
    return [':'].intercalate (ipItems.take start ++ [] :: ipItems.drop (start + length))

def decodeARecord : Decoder (List Char) := do
  let parts ← times (read readUInt8) 4
  return ['.'].intercalate (parts.map (Nat.toDigits 10))

def decodeRecordValue (valueBytes : Bytes) (recordType : Nat) : Decoder DnsRecordData :=
  let onValue {α : Type} : Decoder α → Decoder α := onReader (.new valueBytes .big)
  if known : recordType ∈ DnsRecordType.known then
    if recordType = DnsRecordType.ptr then
      DnsRecordData.ptr <$> onValue (decodeQName message fuel [])
    else if recordType = DnsRecordType.srv then
      DnsRecordData.srv <$> onValue (decodeSrvRecord fuel message)
    else if recordType = DnsRecordType.txt then
      DnsRecordData.txt <$> onValue (decodeTxtRecord fuel valueBytes.length)
    else if recordType = DnsRecordType.aaaa then
      DnsRecordData.aaaa <$> onValue decodeAaaaRecord
    else
      DnsRecordData.a <$> onValue decodeARecord
  else
    return .other recordType known (some valueBytes)

def decodeRecord : Decoder DnsRecord := do
  let name ← decodeQName message fuel []
  let recordType ← read readUInt16
  let classInt ← read readUInt16
  let ttl ← read readUInt32
  let valueLength ← read readUInt16
  let valueBytes ← take (readByteArray · valueLength)
  let data ← decodeRecordValue fuel message valueBytes recordType
  return {
    name := name
    recordClass := classInt &&& 0x7fff
    flushCache := some (classInt &&& 0x8000 != 0)
    ttl := ttl
    data := data
    forInstance := none }

/-- What `decode` tries. -/
def decodeMessage : Decoder DnsMessage := do
  let transactionId ← read readUInt16
  let messageType ← read readUInt16
  let queriesCount ← read readUInt16
  let answersCount ← read readUInt16
  let authoritiesCount ← read readUInt16
  let additionalRecordsCount ← read readUInt16
  let queries ← times (decodeQuery fuel message) queriesCount
  let answers ← times (decodeRecord fuel message) answersCount
  let authorities ← times (decodeRecord fuel message) authoritiesCount
  let additionalRecords ← times (decodeRecord fuel message) additionalRecordsCount
  return {
    transactionId := transactionId
    messageType := messageType
    queries := queries
    answers := answers
    authorities := authorities
    additionalRecords := additionalRecords }

/-- The message, or `some none` for undefined. `none` when the fuel runs out. -/
def decode : Option (Option DnsMessage) :=
  match decodeMessage fuel message (.new message .big) with
  | .ok (decoded, _) => some (some decoded)
  | .error (.thrown _) => some none
  | .error .outOfFuel => none

end

def encodeQName (qname : List Char) : Bytes :=
  let writer := DataWriter.new .big
  let writer :=
    if qname.length > 0 then
      (qname.splitOn '.').foldl (fun writer label =>
        let labelData := Utf8.encode label
        (writer.writeUInt8 labelData.length).writeByteArray labelData) writer
    else writer
  (writer.writeUInt8 0).toByteArray

def encodeSrvRecord (value : SrvRecordValue) : Bytes :=
  (((((DataWriter.new .big).writeUInt16 value.priority).writeUInt16 value.weight).writeUInt16
    value.port).writeByteArray (encodeQName value.target)).toByteArray

def encodeTxtRecord (entries : List (List Char)) : Bytes :=
  (entries.foldl (fun writer entry =>
    let entryData := Utf8.encode entry
    (writer.writeUInt8 entryData.length).writeByteArray entryData)
    (DataWriter.new .big)).toByteArray

def isIPv4 (ip : List Char) : Bool := ip.contains '.'

def isIPv6 (ip : List Char) : Bool := ip.contains ':'

def encodeARecord (ip : List Char) : Except MatterError Bytes :=
  if !isIPv4 ip then
    .error (.unexpectedDataError ("Invalid A Record value: " ++ String.ofList ip))
  else
    .ok ((ip.splitOn '.').foldl (fun writer part =>
      writer.writeUInt8 ((parseInt part 10).getD 0)) (DataWriter.new .big)).toByteArray

def encodeAaaaRecord (ip : List Char) : Except MatterError Bytes :=
  if !isIPv6 ip then
    .error (.unexpectedDataError ("Invalid AAAA Record value: " ++ String.ofList ip))
  else
    let parts := ip.splitOn ':'
    .ok (parts.foldl (fun writer part =>
      let writer :=
        if part = [] then
          (List.range (8 - parts.length)).foldl (fun writer _ => writer.writeUInt16 0) writer
        else writer
      writer.writeUInt16 ((parseInt part 16).getD 0)) (DataWriter.new .big)).toByteArray

def encodeRecordValue (data : DnsRecordData) : Except MatterError Bytes :=
  match data with
  | .ptr name => .ok (encodeQName name)
  | .srv value => .ok (encodeSrvRecord value)
  | .txt entries => .ok (encodeTxtRecord entries)
  | .aaaa ip => encodeAaaaRecord ip
  | .a ip => encodeARecord ip
  | .other recordType _ value =>
    match value with
    | some value => .ok value
    | none => .error (.unexpectedDataError s!"Unsupported record type {recordType}")

/-- A class with the flag that stands in its top bit, which is off by default. -/
def classWithFlag (recordClass : Nat) (flag : Option Bool) : Nat :=
  recordClass ||| (if flag.getD false then 0x8000 else 0)

def encodeRecord (record : DnsRecord) : Except MatterError Bytes := do
  let writer := (DataWriter.new .big).writeByteArray (encodeQName record.name)
  let writer := writer.writeUInt16 record.data.recordType
  let writer := writer.writeUInt16 (classWithFlag record.recordClass record.flushCache)
  let writer := writer.writeUInt32 record.ttl
  let encodedValue ← encodeRecordValue record.data
  let writer := writer.writeUInt16 encodedValue.length
  return (writer.writeByteArray encodedValue).toByteArray

def writeQuery (writer : DataWriter) (query : DnsQuery) : DataWriter :=
  let writer := writer.writeByteArray (encodeQName query.name)
  let writer := writer.writeUInt16 query.recordType
  writer.writeUInt16 (classWithFlag query.recordClass query.uniCastResponse)

def writeRecord (writer : DataWriter) (record : DnsRecord ⊕ Bytes) :
    Except MatterError DataWriter :=
  match record with
  | .inr encoded => .ok (writer.writeByteArray encoded)
  | .inl record => do
    let encoded ← encodeRecord record
    return writer.writeByteArray encoded

def encode (message : PartialDnsMessage) : Except MatterError Bytes :=
  match message.messageType with
  | none => .error (.internalError "Message type must be specified!")
  | some messageType =>
    if message.queries.length > 0 ∧ messageType ≠ DnsMessageType.query ∧
        messageType ≠ DnsMessageType.truncatedQuery then
      .error (.internalError "Queries can only be included in query messages!")
    else if message.authorities.length > 0 then
      .error (.notImplementedError "Authority answers are not supported yet!")
    else do
      let writer := (DataWriter.new .big).writeUInt16 message.transactionId
      let writer := writer.writeUInt16 messageType
      let writer := writer.writeUInt16 message.queries.length
      let writer := writer.writeUInt16 message.answers.length
      let writer := writer.writeUInt16 message.authorities.length
      let writer := writer.writeUInt16 message.additionalRecords.length
      let writer := message.queries.foldl writeQuery writer
      let writer ← (message.answers ++ message.authorities.map Sum.inl ++
        message.additionalRecords).foldlM writeRecord writer
      return writer.toByteArray

end DnsCodec

end MatterJs.General
