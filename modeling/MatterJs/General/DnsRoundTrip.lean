import Mathlib.Data.Nat.Bitwise
import MatterJs.General.DnsTermination

namespace MatterJs.General.DnsCodec

open Consumption
open DataReader (source)

/-! What the encoders write is what the decoders read: names, the values of records, records
and whole messages. -/

section

variable {value : Nat}

theorem reads_readUInt8 (fits : value < 256 ^ 1) :
    Reads (source .big) (read DataReader.readUInt8) (ByteOrder.encode .big 1 value) value :=
  (DataReader.reads_readUInt fits).mapFailure _

theorem reads_readUInt16 (fits : value < 256 ^ 2) :
    Reads (source .big) (read DataReader.readUInt16) (ByteOrder.encode .big 2 value) value :=
  (DataReader.reads_readUInt fits).mapFailure _

theorem reads_readUInt32 (fits : value < 256 ^ 4) :
    Reads (source .big) (read DataReader.readUInt32) (ByteOrder.encode .big 4 value) value :=
  (DataReader.reads_readUInt fits).mapFailure _

end

theorem reads_take_text {text : List Char} (noMark : text.head? ≠ some Utf8.byteOrderMark) :
    Reads (source .big) (take (DataReader.readUtf8String · (Utf8.encode text).length))
      (Utf8.encode text) text := by
  have reads := @DataReader.reads_readUtf8String .big text
  rw [(DataReader.dropByteOrderMark_eq_iff text).mpr noMark] at reads
  exact reads.mapFailure _

theorem classWithFlag_read {recordClass : Nat} (fits : recordClass < 2 ^ 15) (flag : Option Bool) :
    classWithFlag recordClass flag < 256 ^ 2 ∧
      classWithFlag recordClass flag &&& 0x7fff = recordClass ∧
      (classWithFlag recordClass flag &&& 0x8000 != 0) = flag.getD false := by
  rw [classWithFlag]
  have mask (word : Nat) : word &&& 0x7fff = word % 2 ^ 15 := Nat.and_two_pow_sub_one_eq_mod _ 15
  have top (word : Nat) : (word &&& 0x8000 != 0) = word.testBit 15 := by
    rw [show 0x8000 = 2 ^ 15 from rfl, Nat.and_two_pow]
    cases word.testBit 15 <;> rfl
  rw [mask, top]
  cases flag.getD false with
  | false =>
    rw [if_neg Bool.false_ne_true, Nat.or_zero]
    refine ⟨by omega, Nat.mod_eq_of_lt fits, Nat.testBit_lt_two_pow fits⟩
  | true =>
    rw [if_pos rfl, Nat.or_two_pow_eq_add_of_lt fits]
    refine ⟨by omega, by omega, ?_⟩
    rw [Nat.add_comm, Nat.testBit_two_pow_add_eq, Nat.testBit_lt_two_pow fits]
    rfl

def labels (name : List Char) : List (List Char) :=
  if name = [] then [] else name.splitOn '.'

/-- The labels a name may have: of 1 to 63 bytes, and the text decoder leaves them alone. -/
def IsLabel (label : List Char) : Prop :=
  1 ≤ (Utf8.encode label).length ∧ (Utf8.encode label).length ≤ 63 ∧
    label.head? ≠ some Utf8.byteOrderMark

instance (label : List Char) : Decidable (IsLabel label) :=
  inferInstanceAs (Decidable (_ ∧ _ ∧ _))

def IsName (name : List Char) : Prop := ∀ label ∈ labels name, IsLabel label

instance (name : List Char) : Decidable (IsName name) :=
  inferInstanceAs (Decidable (∀ label ∈ labels name, IsLabel label))

theorem intercalate_labels (name : List Char) : ['.'].intercalate (labels name) = name := by
  rw [labels]
  split
  · rename_i isRoot
    rw [isRoot]
    rfl
  · exact List.intercalate_splitOn '.'

def withLength (text : List Char) : Bytes :=
  ByteOrder.encode .big 1 (Utf8.encode text).length ++ Utf8.encode text

theorem foldl_withLength {texts : List (List Char)}
    (short : ∀ text ∈ texts, (Utf8.encode text).length < 256) {writer : DataWriter}
    (big : writer.endian = .big) :
    (texts.foldl (fun writer text => (writer.writeUInt8 (Utf8.encode text).length).writeByteArray
      (Utf8.encode text)) writer).toByteArray =
      writer.toByteArray ++ (texts.map withLength).flatten := by
  induction texts generalizing writer with
  | nil => simp
  | cons text texts induction =>
    rw [List.forall_mem_cons] at short
    rw [List.foldl_cons, induction short.2 (by exact big), DataWriter.toByteArray_writeByteArray,
      DataWriter.writeUInt8, DataWriter.toByteArray_writeUInt_of_fits _ short.1, big]
    simp [withLength]

theorem encodeQName_eq {name : List Char} (isName : IsName name) :
    encodeQName name = ((labels name).map withLength).flatten ++ [0] := by
  have short : ∀ label ∈ labels name, (Utf8.encode label).length < 256 := by
    intro label member
    have := (isName label member).2.1
    omega
  have closing (writer : DataWriter) : (writer.writeUInt8 0).toByteArray =
      writer.toByteArray ++ ByteOrder.encode writer.endian 1 0 :=
    DataWriter.toByteArray_writeUInt writer 1 0
  have big (texts : List (List Char)) (writer : DataWriter) : (texts.foldl (fun writer text =>
      (writer.writeUInt8 (Utf8.encode text).length).writeByteArray (Utf8.encode text))
      writer).endian = writer.endian := by
    induction texts generalizing writer with
    | nil => rfl
    | cons text texts induction => exact induction _
  unfold encodeQName
  rw [labels] at short ⊢
  by_cases isRoot : name = []
  · rw [isRoot]
    rfl
  · rw [if_neg isRoot] at short ⊢
    dsimp only
    rw [if_pos (List.length_pos_iff.mpr isRoot), closing, foldl_withLength short rfl, big]
    rfl

theorem noPointer {length : Nat} (short : length < 64) : length &&& 0xc0 = 0 := by
  revert length
  decide

theorem decodeQNameItem_label {message : Bytes} {decodeQName : List Nat → Decoder (List Char)}
    {visited : List Nat} {qNameItems : List (List Char)} {label : List Char}
    (isLabel : IsLabel label) {reader : DataReader} (big : reader.endian = .big) {rest : Bytes}
    (notEmpty : rest ≠ []) (remaining : reader.remainingBytes = withLength label ++ rest) :
    ∃ next, decodeQNameItem message decodeQName visited qNameItems reader =
        .ok (.yield (qNameItems ++ [label]), next) ∧
      next.endian = .big ∧ next.remainingBytes = rest := by
  have positive := List.length_pos_iff.mpr notEmpty
  rcases isLabel with ⟨lower, upper, noMark⟩
  rw [withLength, List.append_assoc] at remaining
  rcases reads_readUInt8 (show (Utf8.encode label).length < 256 ^ 1 by omega) reader _ big
    remaining with ⟨afterLength, readsLength, afterBig, left⟩
  rcases reads_take_text noMark afterLength rest afterBig left with
    ⟨next, readsLabel, nextBig, nothing⟩
  refine ⟨next, ?_, nextBig, nothing⟩
  have isShort := noPointer (Nat.lt_succ_of_le upper)
  have enough : ¬afterLength.remainingBytesCount < (Utf8.encode label).length + 1 := by
    have lengths := congrArg List.length left
    change afterLength.remainingBytes.length = _ at lengths
    rw [DataReader.remainingBytes_length, List.length_append] at lengths
    rw [DataReader.remainingBytesCount]
    omega
  rw [decodeQNameItem, run_bind_ok readsLength,
    run_bind_ok (show inspect _ _ = .ok (_, _) from rfl),
    if_neg (by omega), if_neg (not_not.mpr isShort), if_neg enough, run_bind_ok readsLabel]
  rfl

theorem decodeQNameItem_end {message : Bytes} {decodeQName : List Nat → Decoder (List Char)}
    {visited : List Nat} {qNameItems : List (List Char)} :
    Reads (source .big) (decodeQNameItem message decodeQName visited qNameItems) [0]
      (.done qNameItems) := by
  intro reader rest big remaining
  rcases reads_readUInt8 (show 0 < 256 ^ 1 by decide) reader rest big remaining with
    ⟨next, reads, nextBig, left⟩
  refine ⟨next, ?_, nextBig, left⟩
  rw [decodeQNameItem, run_bind_ok reads]
  rfl

theorem reads_labels {message : Bytes} {decodeQName : List Nat → Decoder (List Char)}
    {visited : List Nat} {qNameItems names : List (List Char)}
    (areLabels : ∀ label ∈ names, IsLabel label) {fuel : Nat} (enough : names.length < fuel) :
    Reads (source .big)
      (loop .outOfFuel (decodeQNameItem message decodeQName visited) fuel qNameItems)
      ((names.map withLength).flatten ++ [0]) (qNameItems ++ names) := by
  induction names generalizing fuel qNameItems with
  | nil =>
    rw [List.append_nil]
    exact Reads.loop_done decodeQNameItem_end enough
  | cons label names induction =>
    rw [List.forall_mem_cons] at areLabels
    cases fuel with
    | zero => exact absurd enough (Nat.not_lt_zero _)
    | succ fuel =>
      intro reader rest big remaining
      rw [List.map_cons, List.flatten_cons, List.append_assoc, List.append_assoc] at remaining
      rcases @decodeQNameItem_label message decodeQName visited qNameItems label areLabels.1
        reader big _ (by simp) remaining with ⟨middle, round, middleBig, left⟩
      rw [loop, run_bind_ok round]
      have others := @induction (qNameItems ++ [label]) areLabels.2 fuel
        (Nat.lt_of_succ_lt_succ enough) middle rest middleBig
        (by rw [List.append_assoc]; exact left)
      rwa [List.append_assoc] at others

theorem length_labels_lt {name : List Char} (isName : IsName name) :
    (labels name).length < (encodeQName name).length := by
  have atLeast : ∀ names : List (List Char),
      names.length ≤ (names.map withLength).flatten.length := by
    intro names
    induction names with
    | nil => exact Nat.le_refl _
    | cons label names induction =>
      rw [List.map_cons, List.flatten_cons, List.length_append, List.length_cons, withLength,
        List.length_append, ByteOrder.encode_length]
      omega
  rw [encodeQName_eq isName, List.length_append]
  exact Nat.lt_succ_of_le (atLeast _)

theorem reads_decodeQName {message : Bytes} {name : List Char} (isName : IsName name) {fuel : Nat}
    (enough : (encodeQName name).length < fuel) :
    Reads (source .big) (decodeQName message fuel []) (encodeQName name) name := by
  cases fuel with
  | zero => exact absurd enough (Nat.not_lt_zero _)
  | succ fuel =>
    intro reader rest big remaining
    have rounds := length_labels_lt isName
    have items := @reads_labels message (decodeQName message fuel) ([] ++ [reader.offset]) []
      (labels name) isName fuel (by omega)
    rw [← encodeQName_eq isName] at items
    rcases items reader rest big remaining with ⟨next, run, nextBig, left⟩
    refine ⟨next, ?_, nextBig, left⟩
    rw [decodeQName, run_bind_ok (show inspect _ _ = .ok (_, _) from rfl)]
    rw [if_neg (by simp), run_bind_ok run, List.nil_append, intercalate_labels]
    rfl

/-! ## The values of records -/

theorem reads_onReader {α : Type} {decoder : Decoder α} {bytes : Bytes} {value : α}
    (reads : Reads (source .big) decoder bytes value) :
    Reads (source .big) (onReader (.new bytes .big) decoder) [] value := by
  intro reader rest big remaining
  rcases reads (.new bytes .big) [] rfl (List.append_nil _).symm with ⟨last, run, _, _⟩
  exact ⟨reader, onReader_eq_ok_iff.mpr ⟨rfl, last, run⟩, big, remaining⟩

theorem reads_map {α β : Type} {decoder : Decoder α} {bytes : Bytes} {value : α}
    (transform : α → β) (reads : Reads (source .big) decoder bytes value) :
    Reads (source .big) (transform <$> decoder) bytes (transform value) := by
  exact reads.map transform

theorem reads_times {α : Type} {decoder : Decoder α} {bytesOf : α → Bytes} {readAs : α → α}
    {values : List α}
    (reads : ∀ value ∈ values, Reads (source .big) decoder (bytesOf value) (readAs value)) :
    Reads (source .big) (times decoder values.length) (values.map bytesOf).flatten
      (values.map readAs) := by
  induction values with
  | nil => exact Reads.pure _
  | cons value values induction =>
    rw [List.forall_mem_cons] at reads
    exact reads.1.bind ((induction reads.2).map _)

structure IsSrvValue (value : SrvRecordValue) : Prop where
  priority : value.priority < 256 ^ 2
  weight : value.weight < 256 ^ 2
  port : value.port < 256 ^ 2
  target : IsName value.target

theorem encodeSrvRecord_eq {value : SrvRecordValue} (carried : IsSrvValue value) :
    encodeSrvRecord value = ByteOrder.encode .big 2 value.priority ++
      (ByteOrder.encode .big 2 value.weight ++ (ByteOrder.encode .big 2 value.port ++
        encodeQName value.target)) := by
  simp [encodeSrvRecord, DataWriter.writeUInt16,
    DataWriter.toByteArray_writeUInt_of_fits _ carried.priority,
    DataWriter.toByteArray_writeUInt_of_fits _ carried.weight,
    DataWriter.toByteArray_writeUInt_of_fits _ carried.port]

theorem reads_decodeSrvRecord {message : Bytes} {value : SrvRecordValue}
    (carried : IsSrvValue value) {fuel : Nat} (enough : (encodeSrvRecord value).length < fuel) :
    Reads (source .big) (decodeSrvRecord fuel message) (encodeSrvRecord value) value := by
  rw [encodeSrvRecord_eq carried] at enough ⊢
  simp only [List.length_append] at enough
  exact (reads_readUInt16 carried.priority).bind ((reads_readUInt16 carried.weight).bind
    ((reads_readUInt16 carried.port).bind ((reads_decodeQName carried.target (by omega)).map _)))

/-- The entries of a text record: no more than a length byte can say, and left alone by the
text decoder. -/
def IsTxtEntry (entry : List Char) : Prop :=
  (Utf8.encode entry).length ≤ 255 ∧ entry.head? ≠ some Utf8.byteOrderMark

instance (entry : List Char) : Decidable (IsTxtEntry entry) :=
  inferInstanceAs (Decidable (_ ∧ _))

theorem encodeTxtRecord_eq {entries : List (List Char)}
    (areEntries : ∀ entry ∈ entries, IsTxtEntry entry) :
    encodeTxtRecord entries = (entries.map withLength).flatten := by
  have short : ∀ entry ∈ entries, (Utf8.encode entry).length < 256 :=
    fun entry member => Nat.lt_succ_of_le (areEntries entry member).1
  exact foldl_withLength short rfl

theorem reads_decodeTxtEntry {length read : Nat} {result : List (List Char)} {entry : List Char}
    (isEntry : IsTxtEntry entry) (goesOn : read < length) :
    Reads (source .big) (decodeTxtEntry length (read, result)) (withLength entry)
      (.yield (read + (withLength entry).length, result ++ [entry])) := by
  rw [decodeTxtEntry, if_pos goesOn, withLength, List.length_append, ByteOrder.encode_length,
    Nat.add_comm 1]
  have lengthReads := reads_readUInt8 (show (Utf8.encode entry).length < 256 ^ 1 by
    have := isEntry.1
    omega)
  exact lengthReads.bind ((reads_take_text isEntry.2).map _)

theorem reads_txtEntries {length read : Nat} {result entries : List (List Char)}
    (areEntries : ∀ entry ∈ entries, IsTxtEntry entry)
    (left : read + (entries.map withLength).flatten.length = length) {fuel : Nat}
    (enough : (entries.map withLength).flatten.length < fuel) :
    Reads (source .big) (loop .outOfFuel (decodeTxtEntry length) fuel (read, result))
      (entries.map withLength).flatten (length, result ++ entries) := by
  induction entries generalizing read result fuel with
  | nil =>
    rw [List.map_nil, List.flatten_nil, List.length_nil, Nat.add_zero] at left
    rw [List.append_nil, ← left]
    apply Reads.loop_done _ (Nat.zero_lt_of_lt enough)
    rw [decodeTxtEntry, if_neg (Nat.lt_irrefl _)]
    exact Reads.pure _
  | cons entry entries induction =>
    rw [List.forall_mem_cons] at areEntries
    rw [List.map_cons, List.flatten_cons] at enough left ⊢
    rw [List.length_append] at enough left
    have positive : 0 < (withLength entry).length := by
      rw [withLength, List.length_append, ByteOrder.encode_length]
      omega
    cases fuel with
    | zero => exact absurd enough (Nat.not_lt_zero _)
    | succ fuel =>
      have others := @induction (read + (withLength entry).length) (result ++ [entry])
        areEntries.2 (by omega) fuel (by omega)
      rw [List.append_assoc] at others
      exact Reads.loop_yield (reads_decodeTxtEntry areEntries.1 (by omega)) others

theorem reads_decodeTxtRecord {entries : List (List Char)}
    (areEntries : ∀ entry ∈ entries, IsTxtEntry entry) {fuel : Nat}
    (enough : (encodeTxtRecord entries).length < fuel) :
    Reads (source .big) (decodeTxtRecord fuel (encodeTxtRecord entries).length)
      (encodeTxtRecord entries) entries := by
  rw [encodeTxtRecord_eq areEntries] at enough ⊢
  exact (reads_txtEntries areEntries (Nat.zero_add _) enough).map Prod.snd

/-- Four decimal numbers of a byte each, without leading zeros. -/
def IsIPv4Address (ip : List Char) : Prop :=
  ∃ first second third fourth : Fin 256,
    ip = ['.'].intercalate ([first.val, second.val, third.val, fourth.val].map (Nat.toDigits 10))

theorem dot_not_mem_toDigits (number : Nat) : '.' ∉ Nat.toDigits 10 number := by
  intro dot
  have isDigit := Nat.isDigit_of_mem_toDigits (by decide) (by decide) dot
  cases isDigit

theorem foldl_writeUInt8 {parts : List Nat} (areBytes : ∀ part ∈ parts, part < 256)
    {writer : DataWriter} (big : writer.endian = .big) :
    ((parts.map (Nat.toDigits 10)).foldl (fun writer part =>
      writer.writeUInt8 ((parseInt part 10).getD 0)) writer).toByteArray =
      writer.toByteArray ++ (parts.map (ByteOrder.encode .big 1)).flatten := by
  induction parts generalizing writer with
  | nil => simp
  | cons part parts induction =>
    rw [List.forall_mem_cons] at areBytes
    rw [List.map_cons, List.foldl_cons, parseInt_toDigits,
      induction areBytes.2 (by exact big), Option.getD_some, DataWriter.writeUInt8,
      DataWriter.toByteArray_writeUInt_of_fits _ areBytes.1, big]
    simp

theorem encodeARecord_eq {parts : List Nat} (several : 2 ≤ parts.length)
    (areBytes : ∀ part ∈ parts, part < 256) :
    encodeARecord (['.'].intercalate (parts.map (Nat.toDigits 10))) =
      .ok (parts.map (ByteOrder.encode .big 1)).flatten := by
  have parted : (['.'].intercalate (parts.map (Nat.toDigits 10))).splitOn '.' =
      parts.map (Nat.toDigits 10) := by
    apply List.splitOn_intercalate
    · intro part member
      rcases List.mem_map.mp member with ⟨number, _, rfl⟩
      exact dot_not_mem_toDigits number
    · intro empty
      rw [List.map_eq_nil_iff] at empty
      rw [empty] at several
      exact absurd several (by decide)
  have dotted : isIPv4 (['.'].intercalate (parts.map (Nat.toDigits 10))) = true := by
    match parts, several with
    | first :: second :: others, _ => simp [isIPv4]
  rw [encodeARecord, dotted, parted, foldl_writeUInt8 areBytes rfl]
  rfl

theorem reads_decodeARecord {parts : List Nat} (four : parts.length = 4)
    (areBytes : ∀ part ∈ parts, part < 256) :
    Reads (source .big) decodeARecord (parts.map (ByteOrder.encode .big 1)).flatten
      (['.'].intercalate (parts.map (Nat.toDigits 10))) := by
  have reads := @reads_times _ _ _ id _ fun part member => reads_readUInt8 (areBytes part member)
  rw [List.map_id, four] at reads
  exact reads.map fun parts => ['.'].intercalate (parts.map (Nat.toDigits 10))

/-- The values the codec carries: those its encoders write in full. -/
def IsValue : DnsRecordData → Prop
  | .ptr name => IsName name
  | .srv value => IsSrvValue value
  | .txt entries => ∀ entry ∈ entries, IsTxtEntry entry
  | .aaaa _ => False
  | .a ip => IsIPv4Address ip
  | .other recordType _ value => recordType < 256 ^ 2 ∧ value.isSome

theorem recordType_lt {data : DnsRecordData} (isValue : IsValue data) :
    data.recordType < 256 ^ 2 := by
  cases data with
  | ptr | srv | txt | aaaa | a => exact Nat.le_of_ble_eq_true rfl
  | other recordType unknown value => exact isValue.1

theorem decodeRecordValue_of_unknown (fuel : Nat) (message valueBytes : Bytes) {recordType : Nat}
    (unknown : recordType ∉ DnsRecordType.known) :
    decodeRecordValue fuel message valueBytes recordType =
      pure (.other recordType unknown (some valueBytes)) :=
  dif_neg unknown

theorem exists_encodeRecordValue {data : DnsRecordData} (isValue : IsValue data) :
    ∃ bytes, encodeRecordValue data = .ok bytes ∧ ∀ (message : Bytes) (fuel : Nat),
      bytes.length < fuel →
        Reads (source .big) (decodeRecordValue fuel message bytes data.recordType) [] data := by
  cases data with
  | ptr name =>
    exact ⟨_, rfl, fun message fuel enough =>
      reads_map _ (reads_onReader (reads_decodeQName isValue enough))⟩
  | srv value =>
    exact ⟨_, rfl, fun message fuel enough =>
      reads_map _ (reads_onReader (reads_decodeSrvRecord isValue enough))⟩
  | txt entries =>
    exact ⟨_, rfl, fun message fuel enough =>
      reads_map _ (reads_onReader (reads_decodeTxtRecord isValue enough))⟩
  | aaaa ip => exact isValue.elim
  | a ip =>
    rcases isValue with ⟨first, second, third, fourth, rfl⟩
    have areBytes : ∀ part ∈ [first.val, second.val, third.val, fourth.val], part < 256 := by
      simp
    exact ⟨_, encodeARecord_eq (by simp) areBytes, fun message fuel enough =>
      reads_map _ (reads_onReader (reads_decodeARecord rfl areBytes))⟩
  | other recordType unknown value =>
    rcases Option.isSome_iff_exists.mp isValue.2 with ⟨bytes, rfl⟩
    refine ⟨bytes, rfl, fun message fuel enough => ?_⟩
    change Reads _ (decodeRecordValue fuel message bytes recordType) _ _
    rw [decodeRecordValue_of_unknown fuel message bytes unknown]
    exact Reads.pure _

/-! ## Queries and records -/

structure IsQuery (query : DnsQuery) : Prop where
  name : IsName query.name
  recordType : query.recordType < 256 ^ 2
  recordClass : query.recordClass < 2 ^ 15

structure IsRecord (record : DnsRecord) : Prop where
  name : IsName record.name
  recordClass : record.recordClass < 2 ^ 15
  ttl : record.ttl < 256 ^ 4
  value : IsValue record.data
  /-- The length of the value is written in two bytes. -/
  valueLength : ∀ bytes, encodeRecordValue record.data = .ok bytes → bytes.length < 256 ^ 2

/-- A query as it is read back: a flag that was left out is off. -/
def withDefaultsQuery (query : DnsQuery) : DnsQuery :=
  { query with uniCastResponse := some (query.uniCastResponse.getD false) }

/-- A record as it is read back: a flag that was left out is off, and the instance a record
is for is not written. -/
def withDefaultsRecord (record : DnsRecord) : DnsRecord :=
  { record with
    flushCache := some (record.flushCache.getD false)
    forInstance := none }

def queryBytes (query : DnsQuery) : Bytes :=
  encodeQName query.name ++ (ByteOrder.encode .big 2 query.recordType ++
    ByteOrder.encode .big 2 (classWithFlag query.recordClass query.uniCastResponse))

theorem toByteArray_writeQuery {query : DnsQuery} (isQuery : IsQuery query) {writer : DataWriter}
    (big : writer.endian = .big) :
    (writeQuery writer query).toByteArray = writer.toByteArray ++ queryBytes query := by
  simp [writeQuery, DataWriter.writeUInt16, big, queryBytes,
    DataWriter.toByteArray_writeUInt_of_fits _ isQuery.recordType,
    DataWriter.toByteArray_writeUInt_of_fits _
      (classWithFlag_read isQuery.recordClass query.uniCastResponse).1]

theorem reads_decodeQuery {message : Bytes} {query : DnsQuery} (isQuery : IsQuery query)
    {fuel : Nat} (enough : (queryBytes query).length < fuel) :
    Reads (source .big) (decodeQuery fuel message) (queryBytes query) (withDefaultsQuery query) := by
  rcases classWithFlag_read isQuery.recordClass query.uniCastResponse with
    ⟨fits, recordClass, flag⟩
  rw [queryBytes, List.length_append] at enough
  have classReads := (reads_readUInt16 fits).map fun classInt =>
    ({ name := query.name
       recordType := query.recordType
       recordClass := classInt &&& 0x7fff
       uniCastResponse := some (classInt &&& 0x8000 != 0) } : DnsQuery)
  rw [recordClass, flag] at classReads
  exact (reads_decodeQName isQuery.name (by omega)).bind
    ((reads_readUInt16 isQuery.recordType).bind classReads)

def recordBytes (record : DnsRecord) (encodedValue : Bytes) : Bytes :=
  encodeQName record.name ++ (ByteOrder.encode .big 2 record.data.recordType ++
    (ByteOrder.encode .big 2 (classWithFlag record.recordClass record.flushCache) ++
      (ByteOrder.encode .big 4 record.ttl ++
        (ByteOrder.encode .big 2 encodedValue.length ++ encodedValue))))

theorem encodeRecord_eq {record : DnsRecord} (isRecord : IsRecord record) {encodedValue : Bytes}
    (encodes : encodeRecordValue record.data = .ok encodedValue) :
    encodeRecord record = .ok (recordBytes record encodedValue) := by
  have lengthFits := isRecord.valueLength _ encodes
  rw [encodeRecord, encodes]
  apply congrArg Except.ok
  simp [DataWriter.writeUInt16, DataWriter.writeUInt32, recordBytes,
    DataWriter.toByteArray_writeUInt_of_fits _ (recordType_lt isRecord.value),
    DataWriter.toByteArray_writeUInt_of_fits _
      (classWithFlag_read isRecord.recordClass record.flushCache).1,
    DataWriter.toByteArray_writeUInt_of_fits _ isRecord.ttl,
    DataWriter.toByteArray_writeUInt_of_fits _ lengthFits]

theorem exists_encodeRecord {record : DnsRecord} (isRecord : IsRecord record) :
    ∃ bytes, encodeRecord record = .ok bytes ∧ ∀ (message : Bytes) (fuel : Nat),
      bytes.length < fuel →
        Reads (source .big) (decodeRecord fuel message) bytes (withDefaultsRecord record) := by
  rcases exists_encodeRecordValue isRecord.value with ⟨encodedValue, encodes, decodes⟩
  refine ⟨_, encodeRecord_eq isRecord encodes, fun message fuel enough => ?_⟩
  rcases classWithFlag_read isRecord.recordClass record.flushCache with
    ⟨fits, recordClass, flag⟩
  simp only [recordBytes, List.length_append] at enough
  have isRead : withDefaultsRecord record =
      { name := record.name
        recordClass := classWithFlag record.recordClass record.flushCache &&& 0x7fff
        flushCache := some (classWithFlag record.recordClass record.flushCache &&& 0x8000 != 0)
        ttl := record.ttl
        data := record.data
        forInstance := none } := by
    rw [recordClass, flag]
    rfl
  rw [isRead]
  have valueReads := decodes message fuel (by omega)
  have bytesRead := (@DataReader.reads_readByteArray .big encodedValue).mapFailure Stop.thrown
  exact (reads_decodeQName isRecord.name (by omega)).bind
    ((reads_readUInt16 (recordType_lt isRecord.value)).bind ((reads_readUInt16 fits).bind
      ((reads_readUInt32 isRecord.ttl).bind
        ((reads_readUInt16 (isRecord.valueLength _ encodes)).bind
          (bytesRead.bind_nothing (valueReads.map _))))))

/-- What `encodeRecord` makes of a record, if anything. -/
def encodedRecord (record : DnsRecord) : Bytes :=
  match encodeRecord record with
  | .ok bytes => bytes
  | .error _ => []

theorem encodeRecord_ok {record : DnsRecord} (isRecord : IsRecord record) :
    encodeRecord record = .ok (encodedRecord record) := by
  rcases exists_encodeRecord isRecord with ⟨bytes, encodes, _⟩
  rw [encodedRecord, encodes]

theorem reads_decodeRecord {message : Bytes} {record : DnsRecord} (isRecord : IsRecord record)
    {fuel : Nat} (enough : (encodedRecord record).length < fuel) :
    Reads (source .big) (decodeRecord fuel message) (encodedRecord record)
      (withDefaultsRecord record) := by
  rcases exists_encodeRecord isRecord with ⟨bytes, encodes, decodes⟩
  rw [encodedRecord, encodes] at enough ⊢
  exact decodes message fuel enough

/-- The messages the codec carries. The encoder refuses authorities, and queries in any
message that is not a query; the numbers have the widths they are written in. -/
structure IsMessage (message : DnsMessage) : Prop where
  transactionId : message.transactionId < 256 ^ 2
  messageType : message.messageType < 256 ^ 2
  queriesAllowed : message.queries = [] ∨ message.messageType = DnsMessageType.query ∨
    message.messageType = DnsMessageType.truncatedQuery
  authorities : message.authorities = []
  queriesCount : message.queries.length < 256 ^ 2
  answersCount : message.answers.length < 256 ^ 2
  additionalRecordsCount : message.additionalRecords.length < 256 ^ 2
  queries : ∀ query ∈ message.queries, IsQuery query
  answers : ∀ record ∈ message.answers, IsRecord record
  additionalRecords : ∀ record ∈ message.additionalRecords, IsRecord record

def withDefaults (message : DnsMessage) : DnsMessage :=
  { message with
    queries := message.queries.map withDefaultsQuery
    answers := message.answers.map withDefaultsRecord
    authorities := message.authorities.map withDefaultsRecord
    additionalRecords := message.additionalRecords.map withDefaultsRecord }

def messageBytes (message : DnsMessage) : Bytes :=
  ByteOrder.encode .big 2 message.transactionId ++ (ByteOrder.encode .big 2 message.messageType ++
    (ByteOrder.encode .big 2 message.queries.length ++
      (ByteOrder.encode .big 2 message.answers.length ++ (ByteOrder.encode .big 2 0 ++
        (ByteOrder.encode .big 2 message.additionalRecords.length ++
          ((message.queries.map queryBytes).flatten ++
            ((message.answers.map encodedRecord).flatten ++
              (message.additionalRecords.map encodedRecord).flatten)))))))

theorem foldl_writeQuery {queries : List DnsQuery} (areQueries : ∀ query ∈ queries, IsQuery query)
    {writer : DataWriter} (big : writer.endian = .big) :
    (queries.foldl writeQuery writer).endian = .big ∧
      (queries.foldl writeQuery writer).toByteArray =
        writer.toByteArray ++ (queries.map queryBytes).flatten := by
  induction queries generalizing writer with
  | nil => exact ⟨big, (List.append_nil _).symm⟩
  | cons query queries induction =>
    rw [List.forall_mem_cons] at areQueries
    rcases @induction areQueries.2 (writeQuery writer query) big with
      ⟨stillBig, written⟩
    refine ⟨stillBig, ?_⟩
    rw [List.foldl_cons, written, toByteArray_writeQuery areQueries.1 big, List.map_cons,
      List.flatten_cons, List.append_assoc]

theorem foldlM_writeRecord {records : List DnsRecord}
    (areRecords : ∀ record ∈ records, IsRecord record) (writer : DataWriter) :
    ∃ after, (records.map Sum.inl).foldlM writeRecord writer = .ok after ∧
      after.toByteArray = writer.toByteArray ++ (records.map encodedRecord).flatten := by
  induction records generalizing writer with
  | nil => exact ⟨writer, rfl, (List.append_nil _).symm⟩
  | cons record records induction =>
    rw [List.forall_mem_cons] at areRecords
    rcases induction areRecords.2 (writer.writeByteArray (encodedRecord record)) with
      ⟨after, writes, written⟩
    refine ⟨after, ?_, ?_⟩
    · rw [List.map_cons, List.foldlM_cons, writeRecord, encodeRecord_ok areRecords.1]
      exact writes
    · rw [written, DataWriter.toByteArray_writeByteArray, List.map_cons, List.flatten_cons,
        List.append_assoc]

theorem encode_eq {message : DnsMessage} (isMessage : IsMessage message) :
    encode message.toPartial = .ok (messageBytes message) := by
  have allowed : ¬(message.queries.length > 0 ∧ message.messageType ≠ DnsMessageType.query ∧
      message.messageType ≠ DnsMessageType.truncatedQuery) := by
    rintro ⟨some, notQuery, notTruncated⟩
    rcases isMessage.queriesAllowed with none | query | truncated
    · rw [none] at some
      exact Nat.lt_irrefl 0 some
    · exact notQuery query
    · exact notTruncated truncated
  have noAuthorities : ¬message.authorities.length > 0 := by
    rw [isMessage.authorities]
    exact Nat.lt_irrefl 0
  let header := (((((DataWriter.new .big).writeUInt16 message.transactionId).writeUInt16
    message.messageType).writeUInt16 message.queries.length).writeUInt16
    message.toPartial.answers.length).writeUInt16 message.authorities.length
  let counted := header.writeUInt16 message.toPartial.additionalRecords.length
  rcases foldl_writeQuery isMessage.queries (show counted.endian = .big from rfl) with
    ⟨_, queriesWritten⟩
  have areRecords : ∀ record ∈ message.answers ++ message.additionalRecords, IsRecord record := by
    intro record member
    rcases List.mem_append.mp member with answer | additional
    · exact isMessage.answers record answer
    · exact isMessage.additionalRecords record additional
  rcases foldlM_writeRecord areRecords (message.queries.foldl writeQuery counted) with
    ⟨after, writes, written⟩
  have records : (message.toPartial.answers ++ message.toPartial.authorities.map Sum.inl ++
      message.toPartial.additionalRecords) =
        (message.answers ++ message.additionalRecords).map Sum.inl := by
    change message.answers.map Sum.inl ++ message.authorities.map Sum.inl ++
      message.additionalRecords.map Sum.inl = _
    rw [isMessage.authorities, List.map_nil, List.append_nil, List.map_append]
  have encodes : encode message.toPartial = .ok after.toByteArray := by
    refine (if_neg allowed).trans ((if_neg noAuthorities).trans ?_)
    rw [records]
    change (do
      let writer ← ((message.answers ++ message.additionalRecords).map Sum.inl).foldlM
        writeRecord (message.queries.foldl writeQuery counted)
      return writer.toByteArray) = _
    rw [writes]
    rfl
  rw [encodes, written, queriesWritten]
  simp [counted, header, DnsMessage.toPartial, DataWriter.writeUInt16, messageBytes,
    isMessage.authorities,
    DataWriter.toByteArray_writeUInt_of_fits _ isMessage.transactionId,
    DataWriter.toByteArray_writeUInt_of_fits _ isMessage.messageType,
    DataWriter.toByteArray_writeUInt_of_fits _ isMessage.queriesCount,
    DataWriter.toByteArray_writeUInt_of_fits _ isMessage.answersCount,
    DataWriter.toByteArray_writeUInt_of_fits _ isMessage.additionalRecordsCount]

theorem length_le_flatten {α : Type} {bytesOf : α → Bytes} {values : List α} {value : α}
    (member : value ∈ values) : (bytesOf value).length ≤ (values.map bytesOf).flatten.length :=
  (List.sublist_flatten_of_mem (List.mem_map_of_mem member)).length_le

theorem reads_decodeMessage {data : Bytes} {message : DnsMessage} (isMessage : IsMessage message)
    {fuel : Nat} (enough : (messageBytes message).length < fuel) :
    Reads (source .big) (decodeMessage fuel data) (messageBytes message)
      (withDefaults message) := by
  have lengths := congrArg List.length (messageBytes.eq_1 message)
  simp only [List.length_append] at lengths
  have queriesRead := reads_times fun query member =>
    @reads_decodeQuery data query (isMessage.queries query member) fuel (by
      have := @length_le_flatten _ queryBytes _ _ member
      omega)
  have answersRead := reads_times fun record member =>
    @reads_decodeRecord data record (isMessage.answers record member) fuel (by
      have := @length_le_flatten _ encodedRecord _ _ member
      omega)
  have additionalRead := reads_times fun record member =>
    @reads_decodeRecord data record (isMessage.additionalRecords record member) fuel (by
      have := @length_le_flatten _ encodedRecord _ _ member
      omega)
  have noAuthorities : withDefaults message =
      { transactionId := message.transactionId
        messageType := message.messageType
        queries := message.queries.map withDefaultsQuery
        answers := message.answers.map withDefaultsRecord
        authorities := []
        additionalRecords := message.additionalRecords.map withDefaultsRecord } := by
    rw [withDefaults, isMessage.authorities]
    rfl
  rw [noAuthorities]
  have authoritiesRead : Reads (source .big) (times (decodeRecord fuel data) 0) [] [] :=
    Reads.pure _
  exact (reads_readUInt16 isMessage.transactionId).bind
    ((reads_readUInt16 isMessage.messageType).bind
      ((reads_readUInt16 isMessage.queriesCount).bind
        ((reads_readUInt16 isMessage.answersCount).bind
          ((reads_readUInt16 (by decide)).bind
            ((reads_readUInt16 isMessage.additionalRecordsCount).bind
              (queriesRead.bind (answersRead.bind
                (authoritiesRead.bind (additionalRead.map _)))))))))

/-- What the encoder makes of a message is decoded to the message, with the flags that were
left out off. -/
theorem decode_encode_message {message : DnsMessage} (isMessage : IsMessage message) :
    ∃ data, encode message.toPartial = .ok data ∧
      ∀ fuel, fuelFor data ≤ fuel → decode fuel data = some (some (withDefaults message)) := by
  refine ⟨_, encode_eq isMessage, fun fuel enough => ?_⟩
  rw [fuelFor] at enough
  rcases @reads_decodeMessage (messageBytes message) message isMessage fuel (by omega)
    (.new (messageBytes message) .big) []
    rfl (List.append_nil _).symm with ⟨last, run, _, _⟩
  rw [decode, run]

/-- A query with known answers: a pointer to the instance `a.b` and its address. -/
def knownAnswers : DnsMessage where
  transactionId := 7
  messageType := DnsMessageType.query
  queries := [{ name := ['b'], recordType := DnsRecordType.ptr, recordClass := 1
                uniCastResponse := some true }]
  answers := [{ name := ['b'], recordClass := 1, flushCache := none, ttl := 120
                data := .ptr ['a', '.', 'b'], forInstance := none }]
  authorities := []
  additionalRecords := [{ name := ['a', '.', 'b'], recordClass := 1, flushCache := some true
                          ttl := 120, data := .a ['1', '0', '.', '0', '.', '0', '.', '7']
                          forInstance := none }]

theorem decode_encode_knownAnswers : ∃ data, encode knownAnswers.toPartial = .ok data ∧
    ∀ fuel, fuelFor data ≤ fuel → decode fuel data = some (some (withDefaults knownAnswers)) := by
  apply decode_encode_message
  have isQuery : ∀ query ∈ knownAnswers.queries, IsQuery query := by
    rintro query (_ | ⟨_, none⟩)
    · exact ⟨by decide, by decide, by decide⟩
    · cases none
  have areAnswers : ∀ record ∈ knownAnswers.answers, IsRecord record := by
    rintro record (_ | ⟨_, none⟩)
    · exact ⟨by decide, by decide, by decide, (show IsName _ by decide), by
        intro bytes encodes
        cases encodes
        decide⟩
    · cases none
  have areAdditional : ∀ record ∈ knownAnswers.additionalRecords, IsRecord record := by
    rintro record (_ | ⟨_, none⟩)
    · exact ⟨by decide, by decide, by decide, ⟨10, 0, 0, 7, by decide⟩, by
        intro bytes encodes
        cases encodes
        decide⟩
    · cases none
  exact ⟨by decide, by decide, .inr (.inl rfl), rfl, by decide, by decide, by decide, isQuery,
    areAnswers, areAdditional⟩

/-- A response that names an authority, and one that repeats its query. -/
def withAuthority : DnsMessage :=
  { knownAnswers with
    messageType := DnsMessageType.response
    queries := []
    authorities := knownAnswers.answers }

def withQuery : DnsMessage :=
  { knownAnswers with messageType := DnsMessageType.response }

/-- Neither is encoded. -/
theorem responses_notEncoded :
    encode withAuthority.toPartial =
        .error (.notImplementedError "Authority answers are not supported yet!") ∧
      encode withQuery.toPartial =
        .error (.internalError "Queries can only be included in query messages!") :=
  ⟨rfl, rfl⟩

end MatterJs.General.DnsCodec
