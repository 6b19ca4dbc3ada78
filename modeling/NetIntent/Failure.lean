import NetIntent.Policy.Path
import NetIntent.Store.Basic

/-!
Failures by cause. A realization that the remote side reports as failed is final; one that was not
settled in time, a lost request, a fault of the remote side and a bulk failure may be tried again.
-/

namespace NetIntent

inductive ClientError where
  | notFound (kind id : String)
  | api (code : Int64) (message : String)
  /-- The request was not sent or its answer was not understood. -/
  | transport (message : String)
  deriving DecidableEq

namespace ClientError

def message : ClientError → String
  | notFound kind id => kind ++ " '" ++ id ++ "' not found"
  | api code message => "NSX API error " ++ toString code.toInt ++ ": " ++ message
  | transport message => "transport error: " ++ message

def isNotFound : ClientError → Bool
  | notFound _ _ => true
  | _ => false

end ClientError

inductive RealizeError where
  /-- The remote side reported the intent as failed. -/
  | state (path : String) (messages : List String)
  /-- No verdict within the allowed attempts. -/
  | exhausted
  deriving DecidableEq

def RealizeError.message : RealizeError → String
  | .state path messages => path ++ " realized with errors: [" ++ " ".intercalate messages ++ "]"
  | .exhausted => "realization retry exhausted"

inductive Failure where
  | realize (error : RealizeError)
  | client (error : ClientError)
  | store (error : StoreError)
  | path (error : PathError)
  | missingId (kind : String)
  | missingField (kind field : String)
  /-- Several independent operations failed. -/
  | several (messages : List String)
  | internal (message : String)
  deriving DecidableEq

namespace Failure

def message : Failure → String
  | realize e => e.message
  | client e => e.message
  | store e => e.message
  | path e => e.message
  | missingId kind => kind ++ " has no id"
  | missingField kind field => kind ++ " is missing required field '" ++ field ++ "'"
  | several messages => "\n".intercalate messages
  | internal message => "internal error: " ++ message

/-- What a deletion comes to: an object that is already gone counts as deleted. -/
def ofDeletion : Except ClientError Unit → Except Failure Unit
  | .ok () => .ok ()
  | .error e => if e.isNotFound then .ok () else .error (client e)

/-- The text of the failure that a result holds. -/
def messageOf {α : Type} : Except Failure α → Option String
  | .ok _ => none
  | .error f => some f.message

/-- Whether the same request may succeed later. -/
def retryable : Failure → Bool
  | realize .exhausted => true
  | client (.transport _) => true
  | client (.api code _) => 500 ≤ code
  | several _ => true
  | _ => false

/-- Whether the remote side reported the intent as failed. -/
def terminal : Failure → Bool
  | realize (.state _ _) => true
  | _ => false

end Failure

end NetIntent
