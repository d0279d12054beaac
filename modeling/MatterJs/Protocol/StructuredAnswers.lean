import MatterJs.Foundation.OrderedMap
import MatterJs.General.DnsCodec

/-! The answers that an mDNS scanner knows, and how it combines those of several sources. -/

namespace MatterJs.Protocol

open General

/-- A DNS record with the time in milliseconds at which it was discovered -/
structure AnyDnsRecordWithExpiry extends DnsRecord where
  discoveredAt : Nat
  deriving DecidableEq

namespace AnyDnsRecordWithExpiry

/-- The `value` of a record where it is a string. The values of the other types are objects. -/
def stringValue (record : AnyDnsRecordWithExpiry) : Option (List Char) :=
  match record.data with
  | .ptr name => some name
  | .aaaa ip => some ip
  | .a ip => some ip
  | .srv _ => none
  | .txt _ => none
  | .other _ _ _ => none

end AnyDnsRecordWithExpiry

abbrev RecordMap : Type := OrderedMap (List Char) AnyDnsRecordWithExpiry

/-- Service records by record type, address records by name and IP -/
structure StructuredDnsAnswers where
  operational : Option (OrderedMap Nat (List AnyDnsRecordWithExpiry)) := none
  commissionable : Option (OrderedMap Nat (List AnyDnsRecordWithExpiry)) := none
  addressesV4 : Option (OrderedMap (List Char) RecordMap) := none
  addressesV6 : Option (OrderedMap (List Char) RecordMap) := none

/-- The special type for easier combination of answers -/
structure CombinedAnswers where
  operational : Option (OrderedMap Nat RecordMap) := none
  commissionable : Option (OrderedMap Nat RecordMap) := none
  addressesV4 : Option (OrderedMap (List Char) RecordMap) := none
  addressesV6 : Option (OrderedMap (List Char) RecordMap) := none

/-- `Object.values` of a `Map`, whose entries are no properties of it -/
def objectValues (_ : RecordMap) : List AnyDnsRecordWithExpiry :=
  []

/-- What `combineStructuredAnswers` does with a record, given the record that it found for it
and the key that it changes. -/
def combineRecord (existingRecord : Option AnyDnsRecordWithExpiry) (key : List Char)
    (records : RecordMap) (record : AnyDnsRecordWithExpiry) : RecordMap :=
  match existingRecord with
  | none => records
  | some existingRecord =>
    if existingRecord.discoveredAt < record.discoveredAt then
      if record.ttl = 0 then records.delete key else records.set key record
    else records

def combineServiceRecord (records : RecordMap) (record : AnyDnsRecordWithExpiry) : RecordMap :=
  combineRecord (records.get record.name) record.name records record

/-- The record is looked up by its value, and the key that changes is the name. -/
def combineAddressRecord (name : List Char) (records : RecordMap)
    (record : AnyDnsRecordWithExpiry) : RecordMap :=
  combineRecord (record.stringValue.bind records.get) name records record

section Tables

variable {Key Records : Type} [DecidableEq Key]

def combineTable (combineEntry : Key → RecordMap → Records → RecordMap)
    (combined : Option (OrderedMap Key RecordMap)) (answers : Option (OrderedMap Key Records)) :
    Option (OrderedMap Key RecordMap) :=
  match answers with
  | none => combined
  | some answers =>
    some (answers.entries.foldl
      (fun combined entry => combined.set entry.1
        (combineEntry entry.1 ((combined.get entry.1).getD {}) entry.2))
      (combined.getD {}))

end Tables

def combineServices : Option (OrderedMap Nat RecordMap) →
    Option (OrderedMap Nat (List AnyDnsRecordWithExpiry)) → Option (OrderedMap Nat RecordMap) :=
  combineTable fun _ combined records => records.foldl combineServiceRecord combined

def combineAddresses : Option (OrderedMap (List Char) RecordMap) →
    Option (OrderedMap (List Char) RecordMap) → Option (OrderedMap (List Char) RecordMap) :=
  combineTable fun name combined records =>
    (objectValues records).foldl (combineAddressRecord name) combined

/-- One turn of the loop over the inputs -/
def combineAnswers (enableIpv4 : Bool) (combined : CombinedAnswers)
    (answers : StructuredDnsAnswers) : CombinedAnswers where
  operational := combineServices combined.operational answers.operational
  commissionable := combineServices combined.commissionable answers.commissionable
  addressesV6 := combineAddresses combined.addressesV6 answers.addressesV6
  addressesV4 :=
    if enableIpv4 then combineAddresses combined.addressesV4 answers.addressesV4
    else combined.addressesV4

def combineStructuredAnswers (enableIpv4 : Bool) (answersList : List StructuredDnsAnswers) :
    StructuredDnsAnswers :=
  let combinedAnswers := answersList.foldl (combineAnswers enableIpv4) {}
  { operational := combinedAnswers.operational.map (·.mapValues OrderedMap.values)
    commissionable := combinedAnswers.commissionable.map (·.mapValues OrderedMap.values)
    addressesV6 := combinedAnswers.addressesV6
    addressesV4 := if enableIpv4 then combinedAnswers.addressesV4 else none }

/-- What tells records apart: the type and name of a service record, the name and IP of an
address record -/
inductive AnswerKey where
  | operational (recordType : Nat) (name : List Char)
  | commissionable (recordType : Nat) (name : List Char)
  | addressV4 (name ip : List Char)
  | addressV6 (name ip : List Char)
  deriving DecidableEq

namespace StructuredDnsAnswers

def servicesAt (table : Option (OrderedMap Nat (List AnyDnsRecordWithExpiry)))
    (recordType : Nat) (name : List Char) : List AnyDnsRecordWithExpiry :=
  ((table.bind (·.get recordType)).getD []).filter fun record => record.name = name

def addressesAt (table : Option (OrderedMap (List Char) RecordMap)) (name ip : List Char) :
    List AnyDnsRecordWithExpiry :=
  ((table.bind (·.get name)).bind (·.get ip)).toList

def recordsAt (answers : StructuredDnsAnswers) : AnswerKey → List AnyDnsRecordWithExpiry
  | .operational recordType name => servicesAt answers.operational recordType name
  | .commissionable recordType name => servicesAt answers.commissionable recordType name
  | .addressV4 name ip => addressesAt answers.addressesV4 name ip
  | .addressV6 name ip => addressesAt answers.addressesV6 name ip

def occurrences (answersList : List StructuredDnsAnswers) (key : AnswerKey) :
    List AnyDnsRecordWithExpiry :=
  answersList.flatMap (·.recordsAt key)

end StructuredDnsAnswers

open StructuredDnsAnswers

def IsLatest (records : List AnyDnsRecordWithExpiry) (latest : AnyDnsRecordWithExpiry) : Prop :=
  latest ∈ records ∧ ∀ record ∈ records, record.discoveredAt ≤ latest.discoveredAt

/-- Under every key that occurs, the result has the latest record, and nothing where that
has `ttl` 0. -/
def CombinedNewestFirst (answersList : List StructuredDnsAnswers)
    (result : StructuredDnsAnswers) : Prop :=
  ∀ key, occurrences answersList key ≠ [] → ∃ latest,
    IsLatest (occurrences answersList key) latest ∧
      result.recordsAt key = if latest.ttl = 0 then [] else [latest]

/-- Every key that occurs has a latest record with `ttl` 0. -/
def OnlyExpired (answersList : List StructuredDnsAnswers) : Prop :=
  ∀ key, occurrences answersList key ≠ [] → ∃ latest,
    IsLatest (occurrences answersList key) latest ∧ latest.ttl = 0

/-! ## No record is ever stored -/

theorem foldl_combineServiceRecord_empty (added : List AnyDnsRecordWithExpiry) :
    added.foldl combineServiceRecord {} = {} := by
  induction added with
  | nil => rfl
  | cons record added induction => exact induction

section Tables

variable {Key Records : Type} [DecidableEq Key]

def HasNoRecords (table : Option (OrderedMap Key RecordMap)) : Prop :=
  ∀ key, ((table.bind (·.get key)).getD {} : RecordMap) = {}

theorem hasNoRecords_none : HasNoRecords (none : Option (OrderedMap Key RecordMap)) :=
  fun _ => rfl

theorem HasNoRecords.getD {table : Option (OrderedMap Key RecordMap)}
    (noRecords : HasNoRecords table) : HasNoRecords (some (table.getD {})) := by
  cases table with
  | none => exact hasNoRecords_none
  | some table => exact noRecords

theorem HasNoRecords.set {table : OrderedMap Key RecordMap} (noRecords : HasNoRecords (some table))
    (key : Key) : HasNoRecords (some (table.set key {})) := by
  intro other
  rw [Option.bind_some, OrderedMap.get_set]
  by_cases same : other = key
  · rw [if_pos same]
    rfl
  · rw [if_neg same]
    exact noRecords other

theorem HasNoRecords.combineTable {combineEntry : Key → RecordMap → Records → RecordMap}
    (stays : ∀ key records, combineEntry key {} records = {})
    {combined : Option (OrderedMap Key RecordMap)} (noRecords : HasNoRecords combined)
    (answers : Option (OrderedMap Key Records)) :
    HasNoRecords (combineTable combineEntry combined answers) := by
  cases answers with
  | none => exact noRecords
  | some answers =>
    have start := noRecords.getD
    rw [Protocol.combineTable]
    induction answers.entries generalizing combined with
    | nil => exact start
    | cons entry entries induction =>
      have empty := start entry.1
      rw [Option.bind_some] at empty
      rw [List.foldl_cons, empty, stays]
      have later := start.set entry.1
      exact induction later later

end Tables

theorem HasNoRecords.combineServices {combined : Option (OrderedMap Nat RecordMap)}
    (noRecords : HasNoRecords combined)
    (answers : Option (OrderedMap Nat (List AnyDnsRecordWithExpiry))) :
    HasNoRecords (combineServices combined answers) := by
  apply noRecords.combineTable
  intro _ records
  exact foldl_combineServiceRecord_empty records

theorem HasNoRecords.combineAddresses {combined : Option (OrderedMap (List Char) RecordMap)}
    (noRecords : HasNoRecords combined) (answers : Option (OrderedMap (List Char) RecordMap)) :
    HasNoRecords (combineAddresses combined answers) := by
  apply noRecords.combineTable
  intro _ _
  rfl

structure CombinedAnswers.HasNoRecords (combined : CombinedAnswers) : Prop where
  operational : Protocol.HasNoRecords combined.operational
  commissionable : Protocol.HasNoRecords combined.commissionable
  addressesV4 : Protocol.HasNoRecords combined.addressesV4
  addressesV6 : Protocol.HasNoRecords combined.addressesV6

theorem CombinedAnswers.HasNoRecords.combineAnswers {combined : CombinedAnswers}
    (noRecords : combined.HasNoRecords) (enableIpv4 : Bool) (answers : StructuredDnsAnswers) :
    (combineAnswers enableIpv4 combined answers).HasNoRecords where
  operational := noRecords.operational.combineServices _
  commissionable := noRecords.commissionable.combineServices _
  addressesV6 := noRecords.addressesV6.combineAddresses _
  addressesV4 := by
    cases enableIpv4 with
    | true => exact noRecords.addressesV4.combineAddresses _
    | false => exact noRecords.addressesV4

theorem hasNoRecords_foldl (enableIpv4 : Bool) (answersList : List StructuredDnsAnswers)
    {combined : CombinedAnswers} (noRecords : combined.HasNoRecords) :
    (answersList.foldl (combineAnswers enableIpv4) combined).HasNoRecords := by
  induction answersList generalizing combined with
  | nil => exact noRecords
  | cons answers answersList induction =>
    exact induction (noRecords.combineAnswers enableIpv4 answers)

theorem servicesAt_of_hasNoRecords {table : Option (OrderedMap Nat RecordMap)}
    (noRecords : HasNoRecords table) (recordType : Nat) (name : List Char) :
    servicesAt (table.map (·.mapValues OrderedMap.values)) recordType name = [] := by
  have empty := noRecords recordType
  cases table with
  | none => rfl
  | some table =>
    rw [servicesAt, Option.map_some, Option.bind_some, OrderedMap.get_mapValues]
    rw [Option.bind_some] at empty
    cases found : table.get recordType with
    | none => rfl
    | some records =>
      rw [found, Option.getD_some] at empty
      rw [empty]
      rfl

theorem addressesAt_of_hasNoRecords {table : Option (OrderedMap (List Char) RecordMap)}
    (noRecords : HasNoRecords table) (name ip : List Char) : addressesAt table name ip = [] := by
  have empty := noRecords name
  rw [addressesAt]
  cases found : table.bind (·.get name) with
  | none => rfl
  | some records =>
    rw [found, Option.getD_some] at empty
    rw [empty]
    rfl

/-- A record is only stored in the place of one that is there already, so none ever is. -/
theorem recordsAt_combineStructuredAnswers (enableIpv4 : Bool)
    (answersList : List StructuredDnsAnswers) (key : AnswerKey) :
    (combineStructuredAnswers enableIpv4 answersList).recordsAt key = [] := by
  have start : CombinedAnswers.HasNoRecords {} :=
    ⟨hasNoRecords_none, hasNoRecords_none, hasNoRecords_none, hasNoRecords_none⟩
  have noRecords := hasNoRecords_foldl enableIpv4 answersList start
  cases key with
  | operational recordType name =>
    exact servicesAt_of_hasNoRecords noRecords.operational recordType name
  | commissionable recordType name =>
    exact servicesAt_of_hasNoRecords noRecords.commissionable recordType name
  | addressV6 name ip => exact addressesAt_of_hasNoRecords noRecords.addressesV6 name ip
  | addressV4 name ip =>
    cases enableIpv4 with
    | true => exact addressesAt_of_hasNoRecords noRecords.addressesV4 name ip
    | false => rfl

/-- Answers are combined newest first exactly when there is nothing to keep. -/
theorem combinedNewestFirst_iff (enableIpv4 : Bool) (answersList : List StructuredDnsAnswers) :
    CombinedNewestFirst answersList (combineStructuredAnswers enableIpv4 answersList) ↔
      OnlyExpired answersList := by
  constructor
  · intro newest key occurs
    rcases newest key occurs with ⟨latest, isLatest, kept⟩
    refine ⟨latest, isLatest, ?_⟩
    by_contra alive
    rw [recordsAt_combineStructuredAnswers, if_neg alive] at kept
    cases kept
  · intro expired key occurs
    rcases expired key occurs with ⟨latest, isLatest, noTtl⟩
    refine ⟨latest, isLatest, ?_⟩
    rw [recordsAt_combineStructuredAnswers, if_pos noTtl]

def addressRecord : AnyDnsRecordWithExpiry where
  name := "host.local".toList
  recordClass := 1
  flushCache := some false
  ttl := 120
  data := .aaaa "fe80::1".toList
  forInstance := none
  discoveredAt := 1000

def addressAnswers : StructuredDnsAnswers where
  addressesV6 := some (OrderedMap.empty.set "host.local".toList
    (OrderedMap.empty.set "fe80::1".toList addressRecord))

/-- The address of the only input, far from expired, is not in the result. -/
theorem addressAnswers_lost :
    ¬CombinedNewestFirst [addressAnswers] (combineStructuredAnswers true [addressAnswers]) := by
  intro newest
  have single : occurrences [addressAnswers]
      (.addressV6 "host.local".toList "fe80::1".toList) = [addressRecord] := by decide +kernel
  rcases newest (.addressV6 "host.local".toList "fe80::1".toList) (by rw [single]; decide) with
    ⟨latest, isLatest, kept⟩
  rw [single] at isLatest
  rw [List.mem_singleton.mp isLatest.1] at kept
  exact absurd kept (by decide +kernel)

end MatterJs.Protocol
