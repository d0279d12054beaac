import MatterJs.Protocol.StructuredAnswers

/-! What an mDNS scanner forgets in its periodic check. Times are in milliseconds. -/

namespace MatterJs.Protocol

open General

universe u v

namespace MdnsScanner

/-- The TTL with the grace period factor 1.05, rounded up -/
def effectiveTTL (ttl : Nat) : Nat :=
  (ttl * 105 + 99) / 100

end MdnsScanner

open MdnsScanner

structure MatterServerRecordWithExpire where
  ip : List Char
  port : Nat
  discoveredAt : Nat
  ttl : Nat
  deriving DecidableEq

namespace MatterServerRecordWithExpire

def Expired (now : Nat) (record : MatterServerRecordWithExpire) : Prop :=
  ¬now < record.discoveredAt + effectiveTTL record.ttl

instance (now : Nat) : DecidablePred (Expired now) := fun _ => inferInstanceAs (Decidable (¬_))

end MatterServerRecordWithExpire

/-- An operational or commissionable device; `Device` has what is no matter of its lifetime. -/
structure DeviceRecordWithExpire (Device : Type u) where
  device : Device
  addresses : OrderedMap (List Char) MatterServerRecordWithExpire
  discoveredAt : Nat
  ttl : Nat

namespace DeviceRecordWithExpire

variable {Device : Type u}

def expires (record : DeviceRecordWithExpire Device) : Nat :=
  record.discoveredAt + effectiveTTL record.ttl

def unexpired (now : Nat) (record : DeviceRecordWithExpire Device) :
    OrderedMap (List Char) MatterServerRecordWithExpire :=
  record.addresses.filterMapValues fun address =>
    if address.Expired now then none else some address

def expire (now : Nat) (record : DeviceRecordWithExpire Device) :
    Option (DeviceRecordWithExpire Device) :=
  -- Only check expired IPs if not device itself has expired
  let addresses := if now ≤ record.expires then record.unexpired now else record.addresses
  if record.expires < now ∧ addresses.entries = [] then none
  else some { record with addresses }

/-- The lifetime of the device and of every one of its addresses has passed. -/
def Stale (now : Nat) (record : DeviceRecordWithExpire Device) : Prop :=
  record.expires < now ∧ ∀ address ∈ record.addresses.values, address.Expired now

def AddressesOutlive (now : Nat) (record : DeviceRecordWithExpire Device) : Prop :=
  record.expires < now → ∀ address ∈ record.addresses.values, ¬address.Expired now

instance (now : Nat) (record : DeviceRecordWithExpire Device) : Decidable (record.Stale now) :=
  inferInstanceAs (Decidable (_ ∧ _))

variable {now : Nat} {record : DeviceRecordWithExpire Device}

theorem unexpired_eq_self_iff :
    record.unexpired now = record.addresses ↔
      ∀ address ∈ record.addresses.values, ¬address.Expired now := by
  constructor
  · intro same address member expired
    rcases (OrderedMap.mem_values_iff ..).mp member with ⟨ip, found⟩
    have kept := found
    rw [← same, unexpired, OrderedMap.get_filterMapValues, found, Option.bind_some,
      if_pos expired] at kept
    cases kept
  · intro live
    apply OrderedMap.filterMapValues_eq_self
    intro address member
    exact if_neg (live address member)

theorem expire_of_live (live : ¬record.expires < now) :
    record.expire now = some { record with addresses := record.unexpired now } := by
  rw [expire, if_pos (Nat.not_lt.mp live), if_neg fun gone => live gone.1]

theorem expire_of_expired (expired : record.expires < now) :
    record.expire now = if record.addresses.entries = [] then none else some record := by
  rw [expire, if_neg (Nat.not_le.mpr expired)]
  by_cases empty : record.addresses.entries = []
  · rw [if_pos ⟨expired, empty⟩, if_pos empty]
  · rw [if_neg fun gone => empty gone.2, if_neg empty]

theorem not_stale_of_addresses (live : ∀ address ∈ record.addresses.values, ¬address.Expired now)
    (addresses : record.addresses.entries ≠ []) : ¬record.Stale now := by
  rintro ⟨_, allExpired⟩
  rcases List.exists_mem_of_ne_nil _ addresses with ⟨entry, member⟩
  have isAddress : entry.2 ∈ record.addresses.values := List.mem_map_of_mem member
  exact live entry.2 isAddress (allExpired entry.2 isAddress)

theorem expire_eq_iff :
    (record.expire now = if record.Stale now then none
      else some { record with addresses := record.unexpired now }) ↔
        record.AddressesOutlive now := by
  by_cases expired : record.expires < now
  · rw [expire_of_expired expired]
    by_cases empty : record.addresses.entries = []
    · have noAddress : record.addresses.values = [] := by rw [OrderedMap.values, empty]; rfl
      have stale : record.Stale now := ⟨expired, by rw [noAddress]; simp⟩
      rw [if_pos empty, if_pos stale]
      exact iff_of_true rfl fun _ => by rw [noAddress]; simp
    · rw [if_neg empty]
      constructor
      · intro kept _
        by_cases stale : record.Stale now
        · rw [if_pos stale] at kept
          cases kept
        · rw [if_neg stale] at kept
          exact unexpired_eq_self_iff.mp
            (congrArg DeviceRecordWithExpire.addresses (Option.some.inj kept)).symm
      · intro outlive
        have live := outlive expired
        rw [if_neg (not_stale_of_addresses live empty), unexpired_eq_self_iff.mpr live]
  · rw [expire_of_live expired, if_neg fun stale => expired stale.1]
    exact iff_of_true rfl fun gone => absurd gone expired

end DeviceRecordWithExpire

namespace AnyDnsRecordWithExpiry

def Expired (now : Nat) (record : AnyDnsRecordWithExpiry) : Prop :=
  ¬now < record.discoveredAt + effectiveTTL (record.ttl * 1000)

instance (now : Nat) : DecidablePred (Expired now) := fun _ => inferInstanceAs (Decidable (¬_))

end AnyDnsRecordWithExpiry

def expireServices (now : Nat) (records : List AnyDnsRecordWithExpiry) :
    Option (List AnyDnsRecordWithExpiry) :=
  let records := records.filter fun record => ¬record.Expired now
  if records = [] then none else some records

/-- The unexpired records of one name, if there are any -/
def expireAddresses (now : Nat) (records : RecordMap) : Option RecordMap :=
  let records := records.filterMapValues fun record =>
    if record.Expired now then none else some record
  if records.entries = [] then none else some records

def expireStructuredAnswers (now : Nat) (data : StructuredDnsAnswers) : StructuredDnsAnswers where
  operational := data.operational.map (·.filterMapValues (expireServices now))
  commissionable := data.commissionable.map (·.filterMapValues (expireServices now))
  addressesV4 := data.addressesV4.map (·.filterMapValues (expireAddresses now))
  addressesV6 := data.addressesV6.map (·.filterMapValues (expireAddresses now))

/-! ## The periodic check -/

/-- The records that the check goes through. `Query` has the queries of an active announce. -/
structure DiscoveredRecords (Operational : Type u) (Commissionable : Type v) (Query : Type) where
  operationalDeviceRecords : OrderedMap (List Char) (DeviceRecordWithExpire Operational)
  commissionableDeviceRecords : OrderedMap (List Char) (DeviceRecordWithExpire Commissionable)
  activeAnnounceQueries : OrderedMap (List Char) (List Query × StructuredDnsAnswers)
  discoveredIpRecords : OrderedMap (List Char) StructuredDnsAnswers

namespace DiscoveredRecords

variable {Operational : Type u} {Commissionable : Type v} {Query : Type}

def expire (now : Nat) (records : DiscoveredRecords Operational Commissionable Query) :
    DiscoveredRecords Operational Commissionable Query where
  operationalDeviceRecords :=
    records.operationalDeviceRecords.filterMapValues (DeviceRecordWithExpire.expire now)
  commissionableDeviceRecords :=
    records.commissionableDeviceRecords.filterMapValues (DeviceRecordWithExpire.expire now)
  activeAnnounceQueries :=
    records.activeAnnounceQueries.mapValues fun query =>
      (query.1, expireStructuredAnswers now query.2)
  discoveredIpRecords := records.discoveredIpRecords.mapValues (expireStructuredAnswers now)

end DiscoveredRecords

/-- Of the devices, those that are stale are gone and the others have their unexpired addresses. -/
def StaleForgotten {Device : Type u} (now : Nat)
    (before after : OrderedMap (List Char) (DeviceRecordWithExpire Device)) : Prop :=
  ∀ key, after.get key = (before.get key).bind fun record =>
    if record.Stale now then none else some { record with addresses := record.unexpired now }

theorem staleForgotten_iff {Device : Type u} (now : Nat)
    (records : OrderedMap (List Char) (DeviceRecordWithExpire Device)) :
    StaleForgotten now records (records.filterMapValues (DeviceRecordWithExpire.expire now)) ↔
      ∀ record ∈ records.values, record.AddressesOutlive now := by
  constructor
  · intro forgotten record member
    rcases (OrderedMap.mem_values_iff ..).mp member with ⟨key, found⟩
    have same := forgotten key
    rw [OrderedMap.get_filterMapValues, found] at same
    exact DeviceRecordWithExpire.expire_eq_iff.mp same
  · intro outlive key
    rw [OrderedMap.get_filterMapValues]
    cases found : records.get key with
    | none => rfl
    | some record =>
      exact DeviceRecordWithExpire.expire_eq_iff.mpr
        (outlive record ((OrderedMap.mem_values_iff ..).mpr ⟨key, found⟩))

namespace DiscoveredRecords

variable {Operational : Type u} {Commissionable : Type v} {Query : Type}

/-- What the check leaves of the operational and of the commissionable devices -/
def ForgetsStale (now : Nat)
    (records : DiscoveredRecords Operational Commissionable Query) : Prop :=
  StaleForgotten now records.operationalDeviceRecords
      (records.expire now).operationalDeviceRecords ∧
    StaleForgotten now records.commissionableDeviceRecords
      (records.expire now).commissionableDeviceRecords

/-- The check forgets the stale devices, and of the others the expired addresses, exactly when
no address of an expired device has expired. -/
theorem forgetsStale_iff (now : Nat)
    (records : DiscoveredRecords Operational Commissionable Query) :
    records.ForgetsStale now ↔
      (∀ record ∈ records.operationalDeviceRecords.values, record.AddressesOutlive now) ∧
        ∀ record ∈ records.commissionableDeviceRecords.values, record.AddressesOutlive now :=
  and_congr (staleForgotten_iff now _) (staleForgotten_iff now _)

/-- One operational device and its address, both discovered at 0 for 100 milliseconds -/
def outlived : DiscoveredRecords Unit Unit Unit where
  operationalDeviceRecords := ({} : OrderedMap _ _).set ['d']
    { device := (), discoveredAt := 0, ttl := 100
      addresses := ({} : OrderedMap _ _).set ['a'] ⟨['a'], 5540, 0, 100⟩ }
  commissionableDeviceRecords := {}
  activeAnnounceQueries := {}
  discoveredIpRecords := {}

/-- The device and its address stay. -/
theorem outlived_not_forgetsStale :
    ¬∀ (records : DiscoveredRecords Unit Unit Unit) (now : Nat), records.ForgetsStale now := by
  intro all
  have gone : ((outlived.expire 200).operationalDeviceRecords.get ['d']).isNone :=
    Option.isNone_iff_eq_none.mpr ((all outlived 200).1 ['d'])
  exact absurd gone (by decide)

end DiscoveredRecords

end MatterJs.Protocol
