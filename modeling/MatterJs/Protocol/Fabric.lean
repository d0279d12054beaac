import MatterJs.General.DataWriter

/-! Fabrics, and the addresses of nodes on them. -/

namespace MatterJs.Protocol

open General

/-- The logical address of a peer: two addresses with the same parts are one address. -/
structure PeerAddress where
  fabricIndex : Nat
  nodeId : Nat
  deriving DecidableEq

/-- `Fabric` with what its `config` says. -/
structure Fabric where
  fabricIndex : Nat
  fabricId : Nat
  nodeId : Nat
  rootNodeId : Nat
  rootPublicKey : Bytes
  rootVendorId : Nat
  rootCert : Bytes
  identityProtectionKey : Bytes
  intermediateCACert : Option Bytes
  operationalCert : Bytes
  label : String
  deriving DecidableEq

namespace Fabric

def addressOf (fabric : Fabric) (nodeId : Nat) : PeerAddress where
  fabricIndex := fabric.fabricIndex
  nodeId := nodeId

def matchesFabricIdAndRootPublicKey (fabric : Fabric) (fabricId : Nat)
    (rootPublicKey : Bytes) : Bool :=
  fabric.fabricId = fabricId && fabric.rootPublicKey = rootPublicKey

end Fabric

end MatterJs.Protocol
