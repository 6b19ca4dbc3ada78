import NetIntent.Audit.Entry
import NetIntent.Remote.Call
import NetIntent.Time.Span

/-!
Operations as trees of steps. A step changes the local state at once, calls the remote side, records
an audit entry, draws a number at random, pauses, or enters or leaves the section that one operation
at a time may be in. One tree serves for a run on its own and for runs interleaved with others.
-/

namespace NetIntent

/-- An operation on local states `σ` with results `α`. -/
inductive Procedure (σ α : Type) where
  | done (result : α)
  /-- Replaces the local state; the rest sees the state as it was before. -/
  | update (next : σ → σ) (rest : σ → Procedure σ α)
  | call (c : Call) (rest : c.Reply → Procedure σ α)
  | record (entry : Audit.Entry) (rest : Procedure σ α)
  /-- Draws a number from zero to a limit. -/
  | draw (limit : Float) (rest : Float → Procedure σ α)
  | pause (span : Span) (rest : Procedure σ α)
  | enter (rest : Procedure σ α)
  | leave (rest : Procedure σ α)

namespace Procedure

variable {σ ω α β : Type}

/-- Reads the local state. -/
def read (rest : σ → Procedure σ α) : Procedure σ α := .update id rest

def bind : Procedure σ α → (α → Procedure σ β) → Procedure σ β
  | done a, f => f a
  | update next rest, f => update next fun s => (rest s).bind f
  | call c rest, f => call c fun r => (rest r).bind f
  | record entry rest, f => record entry (rest.bind f)
  | draw limit rest, f => draw limit fun x => (rest x).bind f
  | pause span rest, f => pause span (rest.bind f)
  | enter rest, f => enter (rest.bind f)
  | leave rest, f => leave (rest.bind f)

end Procedure

/-- What surrounds a run on its own: how the remote side answers, what chance draws, what becomes of
an audit entry and what happens to everything while the run pauses. -/
structure World (σ ω : Type) where
  reply : (c : Call) → ω → c.Reply × ω
  chance : Float → ω → Float × ω
  note : Audit.Entry → ω → ω
  pass : Span → σ × ω → σ × ω

/-- A run without other runs beside it, where the section is always free. -/
def Procedure.run {σ ω α : Type} (world : World σ ω) :
    Procedure σ α → σ × ω → α × σ × ω
  | .done a, state => (a, state)
  | .update next rest, (s, w) => (rest s).run world (next s, w)
  | .call c rest, (s, w) =>
    let (reply, w) := world.reply c w
    (rest reply).run world (s, w)
  | .record entry rest, (s, w) => rest.run world (s, world.note entry w)
  | .draw limit rest, (s, w) =>
    let (x, w) := world.chance limit w
    (rest x).run world (s, w)
  | .pause span rest, state => rest.run world (world.pass span state)
  | .enter rest, state => rest.run world state
  | .leave rest, state => rest.run world state

end NetIntent
