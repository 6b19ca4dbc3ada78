import NetIntent.Proofs.Run

/-! Single actions of procedures, and what they are to an observer: changes of the local state, calls
with their replies, audit entries, and the entrance and exit of the section. Procedures side by side on
one state act in any order, and between two actions of one the others may leave another state. -/
namespace NetIntent

/-- What a procedure does. -/
inductive Deed (σ : Type) where
  | change (before after : σ)
  | call (exchange : Exchange)
  | entry (entry : Audit.Entry)

namespace Deed

variable {σ : Type}

def exchange? : Deed σ → Option Exchange
  | .call exchange => some exchange
  | _ => none

def note? : Deed σ → Option Audit.Entry
  | .entry e => some e
  | _ => none

end Deed

/-- What an action of a procedure is to its surroundings. A draw and a pause are not seen. -/
inductive Event (σ : Type) where
  | deed (deed : Deed σ)
  | silent
  | enter
  | leave

namespace Event

variable {σ : Type}

def deeds : Event σ → List (Deed σ)
  | deed d => [d]
  | silent | enter | leave => []

/-- An action that neither enters nor leaves the section. -/
def Inner : Event σ → Prop
  | enter | leave => False
  | deed _ | silent => True

end Event

namespace Procedure

variable {σ α : Type}

/-- One action of a procedure in the local state that it finds, with any reply to a call. -/
inductive Step : Procedure σ α → σ → Event σ → σ → Procedure σ α → Prop where
  | update (next : σ → σ) (rest : σ → Procedure σ α) (s : σ) :
      Step (.update next rest) s (.deed (.change s (next s))) (next s) (rest s)
  | call (c : Call) (rest : c.Reply → Procedure σ α) (reply : c.Reply) (s : σ) :
      Step (.call c rest) s (.deed (.call ⟨c, reply⟩)) s (rest reply)
  | record (entry : Audit.Entry) (rest : Procedure σ α) (s : σ) :
      Step (.record entry rest) s (.deed (.entry entry)) s rest
  | draw (limit : Float) (rest : Float → Procedure σ α) (x : Float) (s : σ) :
      Step (.draw limit rest) s .silent s (rest x)
  | pause (span : Span) (rest : Procedure σ α) (s : σ) : Step (.pause span rest) s .silent s rest
  | enter (rest : Procedure σ α) (s : σ) : Step (.enter rest) s .enter s rest
  | leave (rest : Procedure σ α) (s : σ) : Step (.leave rest) s .leave s rest

/-- An action of a procedure in a good state changes the state as the procedure may, or not at all,
and makes a call that the procedure may make, if any. -/
theorem Obeys.step {good : σ → Prop} {kind : σ → σ → Prop} {allowed : Call → Prop}
    {p p' : Procedure σ α} {s s' : σ} {event : Event σ} (obeys : p.Obeys good kind allowed)
    (found : good s) (step : p.Step s event s' p') :
    (s' = s ∨ kind s s') ∧ p'.Obeys good kind allowed ∧
      ∀ exchange, event = .deed (.call exchange) → allowed exchange.call := by
  cases step with
  | update next rest =>
    obtain ⟨change, later⟩ := obeys s found
    refine ⟨.inr change, later, ?_⟩
    rintro _ ⟨⟩
  | call c rest reply =>
    refine ⟨.inl rfl, obeys.2 reply, ?_⟩
    rintro _ ⟨⟩
    exact obeys.1
  | draw limit rest x =>
    refine ⟨.inl rfl, obeys x, ?_⟩
    rintro _ ⟨⟩
  | record | pause | enter | leave =>
    refine ⟨.inl rfl, obeys, ?_⟩
    rintro _ ⟨⟩

end Procedure

end NetIntent
