import MatterJs.General.DnsCodec

/-! The records that the mDNS broadcaster generates for the fabrics of a node. -/

namespace MatterJs.Protocol.Mdns

open General

def SERVICE_DISCOVERY_QNAME : List Char := "_services._dns-sd._udp.local".toList
def MATTER_COMMISSION_SERVICE_QNAME : List Char := "_matterc._udp.local".toList
def MATTER_SERVICE_QNAME : List Char := "_matter._tcp.local".toList

def IN : Nat := 1

def ptrRecord (name ptr : List Char) (forInstance : Option (List Char)) : DnsRecord :=
  { name, data := .ptr ptr, ttl := 120, recordClass := IN, flushCache := some false, forInstance }

def srvRecord (name : List Char) (srv : SrvRecordValue) (forInstance : Option (List Char)) :
    DnsRecord :=
  { name, data := .srv srv, ttl := 120, recordClass := IN, flushCache := some false, forInstance }

def txtRecord (name : List Char) (entries : List (List Char)) (forInstance : Option (List Char)) :
    DnsRecord :=
  { name, data := .txt entries, ttl := 120, recordClass := IN, flushCache := some false,
    forInstance }

def aRecord (name ip : List Char) : DnsRecord :=
  { name, data := .a ip, ttl := 120, recordClass := IN, flushCache := some false,
    forInstance := none }

def aaaaRecord (name ip : List Char) : DnsRecord :=
  { name, data := .aaaa ip, ttl := 120, recordClass := IN, flushCache := some false,
    forInstance := none }

/-- `Bytes.toHex` in capital letters -/
def hexText (bytes : List UInt8) : List Char :=
  bytes.flatMap fun byte =>
    [(Nat.digitChar (byte.toNat / 16)).toUpper, (Nat.digitChar (byte.toNat % 16)).toUpper]

/-- `NodeId.toHexString` -/
def nodeIdText (nodeId : Nat) : List Char :=
  hexText ((List.range 8).map fun index => UInt8.ofNat (nodeId / 256 ^ (7 - index)))

def getFabricQname (operationalIdString : List Char) : List Char :=
  "_I".toList ++ operationalIdString ++ "._sub.".toList ++ MATTER_SERVICE_QNAME

def getDeviceMatterQname (operationalIdString nodeIdString : List Char) : List Char :=
  operationalIdString ++ '-' :: nodeIdString ++ '.' :: MATTER_SERVICE_QNAME

/-! ## Operational records -/

structure AnnouncedFabric where
  fabricIndex : Nat
  operationalId : List UInt8
  nodeId : Nat
  deriving DecidableEq

def AnnouncedFabric.instanceName (fabric : AnnouncedFabric) : List Char :=
  getDeviceMatterQname (hexText fabric.operationalId) (nodeIdText fabric.nodeId)

/-- An address with what `isIPv6` and `isIPv4` say of it. -/
inductive IpAddress where
  | ipV6 (ip : List Char)
  | ipV4 (ip : List Char)
  | unknown (ip : List Char)
  deriving DecidableEq

structure IpMac where
  mac : List Char
  ipV4 : List IpAddress
  ipV6 : List IpAddress
  deriving DecidableEq

/-- The intervals of `OperationalInstanceData`, with their defaults -/
structure OperationalInstanceData where
  sessionIdleInterval : Nat := 500
  sessionActiveInterval : Nat := 300
  sessionActiveThreshold : Nat := 4000
  deriving DecidableEq

def hostname (mac : List Char) : List Char :=
  (mac.filter (· ≠ ':')).map Char.toUpper ++ "0000.local".toList

def getIpRecords (enableIpv4 : Bool) (hostname : List Char) (ips : List IpAddress) :
    List DnsRecord :=
  ips.filterMap fun
    | .ipV6 ip => some (aaaaRecord hostname ip)
    | .ipV4 ip => if enableIpv4 then some (aRecord hostname ip) else none
    | .unknown _ => none

def fabricRecords (announcedNetPort : Nat) (data : OperationalInstanceData)
    (hostname : List Char) (fabric : AnnouncedFabric) : List DnsRecord :=
  let fabricQname := getFabricQname (hexText fabric.operationalId)
  let deviceMatterQname := fabric.instanceName
  [ptrRecord SERVICE_DISCOVERY_QNAME fabricQname (some deviceMatterQname),
    ptrRecord MATTER_SERVICE_QNAME deviceMatterQname (some deviceMatterQname),
    ptrRecord fabricQname deviceMatterQname (some deviceMatterQname),
    srvRecord deviceMatterQname ⟨0, 0, announcedNetPort, hostname⟩ (some deviceMatterQname),
    txtRecord deviceMatterQname
      ["SII=".toList ++ Nat.toDigits 10 data.sessionIdleInterval,
        "SAI=".toList ++ Nat.toDigits 10 data.sessionActiveInterval,
        "SAT=".toList ++ Nat.toDigits 10 data.sessionActiveThreshold]
      (some deviceMatterQname)]

/-- The generator that `setFabrics` registers -/
def operationalRecords (enableIpv4 : Bool) (announcedNetPort : Nat)
    (data : OperationalInstanceData) (fabrics : List AnnouncedFabric) (ipMac : Option IpMac) :
    List DnsRecord :=
  match ipMac with
  | none => []
  | some ipMac =>
    ptrRecord SERVICE_DISCOVERY_QNAME MATTER_SERVICE_QNAME none ::
      (fabrics.flatMap (fabricRecords announcedNetPort data (hostname ipMac.mac)) ++
        getIpRecords enableIpv4 (hostname ipMac.mac) (ipMac.ipV6 ++ ipMac.ipV4))

/-- On every interface that has an address, there are the records of every one of the fabrics
and, besides those that belong to no instance, of no others. -/
def GeneratesFor (announcedNetPort : Nat) (data : OperationalInstanceData)
    (fabrics : List AnnouncedFabric) (generator : Option IpMac → List DnsRecord) : Prop :=
  ∀ ipMac : IpMac,
    (∀ fabric ∈ fabrics, ∀ record ∈ fabricRecords announcedNetPort data (hostname ipMac.mac) fabric,
      record ∈ generator (some ipMac)) ∧
    ∀ record ∈ generator (some ipMac), record.forInstance ≠ none →
      ∃ fabric ∈ fabrics, record ∈ fabricRecords announcedNetPort data (hostname ipMac.mac) fabric

theorem forInstance_of_mem_getIpRecords {enableIpv4 : Bool} {hostname : List Char}
    {ips : List IpAddress} {record : DnsRecord}
    (member : record ∈ getIpRecords enableIpv4 hostname ips) :
    record.forInstance = none := by
  rcases List.mem_filterMap.mp member with ⟨ip, _, isRecord⟩
  cases ip with
  | ipV6 ip =>
    rw [← Option.some.inj isRecord]
    rfl
  | ipV4 ip =>
    cases enableIpv4 with
    | true =>
      rw [← Option.some.inj isRecord]
      rfl
    | false => cases isRecord
  | unknown ip => cases isRecord

theorem generatesFor_operationalRecords (enableIpv4 : Bool) (announcedNetPort : Nat)
    (data : OperationalInstanceData) (fabrics : List AnnouncedFabric) :
    GeneratesFor announcedNetPort data fabrics
      (operationalRecords enableIpv4 announcedNetPort data fabrics) := by
  intro ipMac
  constructor
  · intro fabric isFabric record isRecord
    apply List.mem_cons_of_mem
    apply List.mem_append_left
    exact List.mem_flatMap.mpr ⟨fabric, isFabric, isRecord⟩
  · intro record member forInstance
    rcases List.mem_cons.mp member with first | member
    · rw [first] at forInstance
      exact absurd rfl forInstance
    · rcases List.mem_append.mp member with ofFabric | ofIp
      · exact List.mem_flatMap.mp ofFabric
      · exact absurd (forInstance_of_mem_getIpRecords ofIp) forInstance

end MatterJs.Protocol.Mdns
