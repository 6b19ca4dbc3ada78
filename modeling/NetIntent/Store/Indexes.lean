import NetIntent.Policy.VirtualServer
import NetIntent.Policy.SubnetPort
import NetIntent.Store.Basic

/-!
The indexes of the two record kinds: servers by service, by service and port, by type and by load
balancer; ports by owning Pod uid, by owning Pod name and by subnet.
-/

namespace NetIntent

namespace VirtualServer

def serviceIndex : String := Tag.Scope.serviceUid
def servicePortIndex : String := "nsx-op/LbVs-service-and-port"
def typeIndex : String := Tag.Scope.serverType
def balancerIndex : String := "nsx-op/LbVs-lbs-id"

def indexNames : List String := [serviceIndex, servicePortIndex, typeIndex, balancerIndex]

/-- A service uid and a port as one key. -/
def servicePortKey (uid port : String) : String := uid ++ "|" ++ port

def indexKeys (name : String) (s : VirtualServer) : List String :=
  if name = serviceIndex then Tag.values s.tags Tag.Scope.serviceUid
  else if name = servicePortIndex then
    s.ports.flatMap fun port =>
      (Tag.values s.tags Tag.Scope.serviceUid).map fun uid => servicePortKey uid port
  else if name = typeIndex then Tag.values s.tags Tag.Scope.serverType
  else if name = balancerIndex then s.balancerId.toList
  else []

instance : Indexed VirtualServer where
  kind := kind
  key := id
  indexKeys := indexKeys
  tombstone := markedForDelete

def emptyStore : Store VirtualServer := .empty indexNames

end VirtualServer

namespace SubnetPort

def podUidIndex : String := Tag.Scope.podUid
def podNameIndex : String := "nsx-op/pod_namespaced_name"
def subnetIndex : String := "nsx-op/subnet_path"

def indexNames : List String := [podUidIndex, podNameIndex, subnetIndex]

def indexKeys (name : String) (p : SubnetPort) : List String :=
  if name = podUidIndex then Tag.values p.tags Tag.Scope.podUid
  else if name = podNameIndex then p.podKey.toList
  else if name = subnetIndex then p.subnetPath.toList
  else []

instance : Indexed SubnetPort where
  kind := kind
  key := id
  indexKeys := indexKeys
  tombstone := markedForDelete

def emptyStore : Store SubnetPort := .empty indexNames

end SubnetPort

end NetIntent
