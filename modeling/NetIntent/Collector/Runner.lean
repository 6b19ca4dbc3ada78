/-!
A collector that waits for an interval, runs a round and starts again until it is cancelled. The
wait begins anew after each round, a cancellation ends a wait but not a round, and an interval of
zero allows a single round.
-/

namespace NetIntent.Collector

/-- Times are nanoseconds since some start. -/
inductive Phase where
  | waiting (since due : Nat)
  | collecting (finish : Nat)
  | stopped (time : Nat)
  deriving DecidableEq

structure Runner where
  interval : Nat
  phase : Phase
  /-- When the runner was cancelled. -/
  cancelled : Option Nat := none
  /-- When each round started, the latest first. -/
  started : List Nat := []
  /-- The number of finished rounds. -/
  rounds : Nat := 0
  deriving DecidableEq

namespace Runner

def start (interval now : Nat) : Runner := { interval, phase := .waiting now (now + interval) }

/-- A second cancellation has no effect. -/
def cancel (r : Runner) (now : Nat) : Runner := { r with cancelled := r.cancelled <|> some now }

/-- The time at which a wait is cut short. -/
def cut? (r : Runner) (since due : Nat) : Option Nat :=
  match r.cancelled with
  | some time => if time < due then some (max since time) else none
  | none => none

/-- The time of the next change, if there will be one. -/
def due? (r : Runner) : Option Nat :=
  match r.phase with
  | .waiting since due => some ((r.cut? since due).getD due)
  | .collecting finish => some finish
  | .stopped _ => none

/-- The next change, in which a round that starts takes `length`. -/
def change (length : Nat) (r : Runner) : Runner :=
  match r.phase with
  | .waiting since due =>
    match r.cut? since due with
    | some time => { r with phase := .stopped time }
    | none => { r with phase := .collecting (due + length), started := due :: r.started }
  | .collecting finish =>
    { r with
      rounds := r.rounds + 1
      phase := if r.interval = 0 then .stopped finish else .waiting finish (finish + r.interval) }
  | .stopped _ => r

def hasStopped (r : Runner) : Bool :=
  match r.phase with
  | .stopped _ => true
  | _ => false

/-- At most `fuel` changes before a time; the round after `k` others takes `length k`. -/
def changes (length : Nat → Nat) (now : Nat) : Nat → Runner → Runner
  | 0, r => r
  | fuel + 1, r =>
    match r.due? with
    | none => r
    | some due =>
      if due < now then changes length now fuel (r.change (length r.started.length)) else r

/-- Every change before a time: what waits for that time itself comes first. A round and the wait
before it take at least a nanosecond, so there are at most two changes for each. -/
def before (length : Nat → Nat) (now : Nat) (r : Runner) : Runner :=
  changes length now (2 * now + 4) r

end Runner

end NetIntent.Collector
