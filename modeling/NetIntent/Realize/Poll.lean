import NetIntent.Procedure
import NetIntent.Realize.Verdict
import NetIntent.Retry.Backoff

/-!
Polling an intent path until it is realized, fails, or the attempts are used up. A query that fails
counts as an attempt without a verdict, and pauses come only between attempts.
-/

namespace NetIntent.Realization

variable {σ : Type}

/-- The end of a poll that one answer brings about, if any. -/
def decision (path : String) (expected : List Expected) :
    Except ClientError Response → Option (Except RealizeError Unit)
  | .error _ => none
  | .ok response =>
    match classify expected response with
    | .realized => some (.ok ())
    | .failed messages => some (.error (.state path messages))
    | .pending _ => none

/-- Pauses for the next delay of a policy. -/
def wait (b : Backoff) (rest : Procedure σ (Except RealizeError Unit)) :
    Procedure σ (Except RealizeError Unit) :=
  if b.isJittered then .draw b.jitter fun extra => .pause (b.delay extra) rest
  else .pause (b.delay 0.0) rest

/-- The attempts that follow a first one without verdict; `left` more are allowed. -/
def attempts (path : String) (expected : List Expected) :
    Nat → Backoff → Procedure σ (Except RealizeError Unit)
  | 0, _ => .done (.error .exhausted)
  | left + 1, b =>
    wait b <| .call (.entities path) fun answer =>
      match decision path expected answer with
      | some result => .done result
      | none => attempts path expected left b.grow

/-- Queries at least once, and as often as the policy has steps. -/
def poll (b : Backoff) (path : String) (expected : List Expected) :
    Procedure σ (Except RealizeError Unit) :=
  .call (.entities path) fun answer =>
    match decision path expected answer with
    | some result => .done result
    | none => attempts path expected (b.steps.toNat - 1) b

end NetIntent.Realization
