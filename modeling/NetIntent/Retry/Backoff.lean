import NetIntent.Document.Fields
import NetIntent.Time.Span

/-!
Backoff policies: how long to wait between attempts, how the wait grows and how many attempts there
are. A wait may be stretched at random, by at most the policy's jitter.
-/

namespace NetIntent

open Document

structure Backoff where
  duration : Span
  factor : Float
  jitter : Float
  steps : UInt32

namespace Backoff

def subnet : Backoff := ⟨.ofSecs 1, 2.0, 0.0, 6⟩

def standard : Backoff := ⟨.ofMillis 500, 1.0, 0.1, 10⟩

/-- Load balancers are slow to set up and get far more attempts. -/
def virtualServer : Backoff := ⟨.ofMillis 500, 1.0, 0.1, 60⟩

def isJittered (b : Backoff) : Bool := b.jitter.isFinite && 0 < b.jitter

/-- The wait before the next attempt, given the part of the jitter that chance picked. -/
def delay (b : Backoff) (extra : Float) : Span :=
  if b.isJittered then b.duration.scale (1.0 + extra) else b.duration

/-- The duration after a wait: multiplied by the factor if that is positive and not one. -/
def grow (b : Backoff) : Backoff :=
  if 0 < b.factor && b.factor != 1.0 then { b with duration := b.duration.scale b.factor } else b

/-- The sum of `n` unjittered waits and `total`. A duration that grows no more is added in one
step. -/
def accumulate : Nat → Backoff → Span → Span
  | 0, _, total => total
  | n + 1, b, total =>
    if b.grow.duration = b.duration then total + b.duration.times (n + 1)
    else accumulate n b.grow (total + b.duration)

/-- An upper bound on the time that the waits between all attempts take together. -/
def maxTotal (b : Backoff) : Span :=
  let total := accumulate (b.steps.toNat - 1) b .zero
  if b.isJittered then total.scale (1.0 + b.jitter) else total

def toDocument (b : Backoff) : Document :=
  .map [("duration_ms", .number (.int b.duration.millis.toNat)),
    ("factor", .number (.real b.factor)), ("jitter", .number (.real b.jitter)),
    ("steps", .number (.int b.steps.toNat))]

def ofDocument? (d : Document) : Option Backoff := do
  let [duration, factor, jitter, steps] ← d.fields
    ["duration_ms", "factor", "jitter", "steps"] | none
  pure { duration := .ofMillis (← required word? duration)
         factor := ← required real? factor
         jitter := ← required real? jitter
         steps := UInt32.ofNat (← required (nat? UInt32.size) steps) }

end Backoff

inductive ResourceKind where
  | subnet
  | subnetPort
  | standard
  | virtualServer
  deriving DecidableEq

structure RetryPolicies where
  subnet : Backoff := .subnet
  standard : Backoff := .standard
  virtualServer : Backoff := .virtualServer

namespace RetryPolicies

/-- Subnets and their ports share a policy. -/
def forKind (p : RetryPolicies) : ResourceKind → Backoff
  | .subnet | .subnetPort => p.subnet
  | .standard => p.standard
  | .virtualServer => p.virtualServer

def ofDocument? (d : Document) : Option RetryPolicies := do
  let [subnet, standard, virtualServer] ← d.fields
    ["subnet", "default", "lb_virtual_server"] | none
  pure { subnet := ← orElse Backoff.ofDocument? .subnet subnet
         standard := ← orElse Backoff.ofDocument? .standard standard
         virtualServer := ← orElse Backoff.ofDocument? .virtualServer virtualServer }

end RetryPolicies

end NetIntent
