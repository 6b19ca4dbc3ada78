import NetIntent.Policy.Path
import NetIntent.Policy.Tag

/-!
Load-balancer virtual servers, the service a server is tagged for, and the tags of layer-4 servers.
-/

namespace NetIntent

open Document

structure VirtualServer where
  id : Option String := none
  displayName : Option String := none
  path : Option String := none
  address : Option String := none
  ports : List String := []
  balancerPath : Option String := none
  tags : List Tag := []
  markedForDelete : Bool := false
  deriving DecidableEq

namespace VirtualServer

def kind : String := "LBVirtualServer"

/-- The given path, else the one that the id determines. -/
def policyPath (s : VirtualServer) : Option String := s.path <|> s.id.map Path.virtualServer

def serviceUid (s : VirtualServer) : Option String := Tag.value? s.tags Tag.Scope.serviceUid

/-- The id of the load balancer the server is attached to. -/
def balancerId (s : VirtualServer) : Option String := s.balancerPath.bind Path.lastSegment

def toDocument (s : VirtualServer) : Document :=
  .map (memberIfSome "id" s.id ++ memberIfSome "display_name" s.displayName ++
    memberIfSome "path" s.path ++ memberIfSome "ip_address" s.address ++
    [("ports", ofTexts s.ports)] ++ memberIfSome "lb_service_path" s.balancerPath ++
    [("tags", .list (s.tags.map Tag.toDocument)), ("marked_for_delete", .bool s.markedForDelete)])

def ofDocument? (d : Document) : Option VirtualServer := do
  let [id, displayName, path, address, ports, balancerPath, tags, marked] ← d.fields
    ["id", "display_name", "path", "ip_address", "ports", "lb_service_path", "tags",
      "marked_for_delete"] | none
  pure { id := ← optional text? id
         displayName := ← optional text? displayName
         path := ← optional text? path
         address := ← optional text? address
         ports := ← orElse (listOf text?) [] ports
         balancerPath := ← optional text? balancerPath
         tags := ← orElse (listOf Tag.ofDocument?) [] tags
         markedForDelete := ← orElse bool? false marked }

def layer4 : String := "layer_4"

end VirtualServer

/-- The parts of a service that the tags of its servers are built from. -/
structure ServiceRef where
  namespaceName : String
  name : String
  uid : String
  annotations : List (String × String)

namespace ServiceRef

def recordedVersion : String := "1.0.0"

/-- The annotation of a service that is managed through its own load-balancer resource. -/
def managedAnnotation : String := "nsx.vmware.com/load-balancer-crd"

def createdFor (s : ServiceRef) : String :=
  if s.annotations.any (·.1 == managedAnnotation) then "CRD_SLB" else "SLB"

/-- The tags of a layer-4 server; the address pool is tagged unless its name is empty. -/
def layer4Tags (cluster : String) (s : ServiceRef) (pool : Option String) : List Tag :=
  [⟨Tag.Scope.cluster, cluster⟩, ⟨Tag.Scope.version, recordedVersion⟩,
    ⟨Tag.Scope.namespaceName, s.namespaceName⟩, ⟨Tag.Scope.serviceName, s.name⟩,
    ⟨Tag.Scope.serviceUid, s.uid⟩, ⟨Tag.Scope.serverType, VirtualServer.layer4⟩,
    ⟨Tag.Scope.createdFor, s.createdFor⟩] ++
  ((pool.filter (· ≠ "")).map fun p => ⟨Tag.Scope.ipPool, p⟩).toList

end ServiceRef

end NetIntent
