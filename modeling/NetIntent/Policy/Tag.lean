import NetIntent.Document.Fields

/-!
Tags: scope and value pairs on remote objects, and the scopes this library writes. A scope may occur
more than once, and a half that is absent is the empty text.
-/

namespace NetIntent

structure Tag where
  scope : String
  value : String
  deriving DecidableEq

namespace Tag

namespace Scope

def cluster : String := "nsx-op/cluster"
def version : String := "nsx-op/version"
def namespaceName : String := "nsx-op/namespace"
def serviceName : String := "nsx-op/service_name"
def serviceUid : String := "nsx-op/service_uid"
def serverType : String := "nsx-op/lbvs_type"
def createdFor : String := "nsx-op/created_for"
def ipPool : String := "nsx-op/ip_pool_id"
def podName : String := "nsx-op/pod_name"
def podUid : String := "nsx-op/pod_uid"

end Scope

def display (t : Tag) : String := t.scope ++ "=" ++ t.value

/-- Every value under a scope, in tag order. -/
def values (tags : List Tag) (scope : String) : List String :=
  (tags.filter (·.scope == scope)).map (·.value)

/-- The first value under a scope. -/
def value? (tags : List Tag) (scope : String) : Option String :=
  (tags.find? (·.scope == scope)).map (·.value)

def toDocument (t : Tag) : Document := .map [("scope", .text t.scope), ("tag", .text t.value)]

def ofDocument? (d : Document) : Option Tag := do
  let [scope, value] ← d.fields ["scope", "tag"] | none
  pure { scope := ← Document.orElse Document.text? "" scope
         value := ← Document.orElse Document.text? "" value }

end Tag

end NetIntent
