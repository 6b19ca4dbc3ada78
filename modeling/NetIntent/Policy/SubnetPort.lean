import NetIntent.Policy.Path
import NetIntent.Policy.Tag

/-!
Subnet ports and the Pods that own them. A port belongs to the subnet it names, or else to the
parent of its own path.
-/

namespace NetIntent

open Document

structure SubnetPort where
  id : Option String := none
  displayName : Option String := none
  path : Option String := none
  parentPath : Option String := none
  tags : List Tag := []
  markedForDelete : Bool := false
  deriving DecidableEq

/-- A Pod that exists in the cluster. -/
structure Pod where
  namespaceName : String
  name : String
  uid : String
  deriving DecidableEq

namespace Pod

def key (namespaceName name : String) : String := namespaceName ++ "/" ++ name

/-- The id of the port that belongs to a Pod. -/
def portId (name uid : String) : String := name ++ "_" ++ uid

end Pod

namespace SubnetPort

def kind : String := "VpcSubnetPort"

def subnetPath (p : SubnetPort) : Option String :=
  p.parentPath <|> p.path.bind fun path => (Path.parent path).toOption

def podUid (p : SubnetPort) : Option String := Tag.value? p.tags Tag.Scope.podUid

/-- Namespace and name of the owning Pod, when the port is tagged with both. -/
def podKey (p : SubnetPort) : Option String := do
  let namespaceName ← Tag.value? p.tags Tag.Scope.namespaceName
  let name ← Tag.value? p.tags Tag.Scope.podName
  pure (Pod.key namespaceName name)

def toDocument (p : SubnetPort) : Document :=
  .map (memberIfSome "id" p.id ++ memberIfSome "display_name" p.displayName ++
    memberIfSome "path" p.path ++ memberIfSome "parent_path" p.parentPath ++
    [("tags", .list (p.tags.map Tag.toDocument)), ("marked_for_delete", .bool p.markedForDelete)])

def ofDocument? (d : Document) : Option SubnetPort := do
  let [id, displayName, path, parentPath, tags, marked] ← d.fields
    ["id", "display_name", "path", "parent_path", "tags", "marked_for_delete"] | none
  pure { id := ← optional text? id
         displayName := ← optional text? displayName
         path := ← optional text? path
         parentPath := ← optional text? parentPath
         tags := ← orElse (listOf Tag.ofDocument?) [] tags
         markedForDelete := ← orElse bool? false marked }

end SubnetPort

end NetIntent
