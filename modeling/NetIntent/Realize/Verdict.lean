import NetIntent.Policy.Realization

/-!
The verdict on one realization response. Only relevant entities count. An entity in error fails the
intent unless it merely waits for its provider; then, and while any entity is not realized, the
verdict is pending.
-/

namespace NetIntent.Realization

inductive Verdict where
  | realized
  | pending (reason : String)
  | failed (messages : List String)
  deriving DecidableEq

/-- Without expectations every entity is relevant. -/
def relevant (expected : List Expected) (e : Entity) : Bool :=
  expected.isEmpty || expected.any (·.selects e)

def Entity.describe (e : Entity) : String := e.type.getD "<unknown>" ++ " " ++ e.state.name

def Entity.inError (e : Entity) : Bool := e.state == .error

/-- In error, but only until the provider is ready. -/
def Entity.awaitsProvider (e : Entity) : Bool := e.inError && e.alarms.any (·.providerNotReady)

def Entity.failing (e : Entity) : Bool := e.inError && !e.awaitsProvider

def judge (entities : List Entity) : Verdict :=
  if entities.any Entity.failing then
    .failed ((entities.filter Entity.failing).flatMap Entity.messages)
  else
    match entities.find? Entity.awaitsProvider with
    | some e => .pending (e.describe ++ ": provider not ready")
    | none =>
      match entities.find? (·.state != .realized) with
      | some e => .pending e.describe
      | none => .realized

def classify (expected : List Expected) (response : Response) : Verdict :=
  judge (response.entities.filter (relevant expected))

end NetIntent.Realization
