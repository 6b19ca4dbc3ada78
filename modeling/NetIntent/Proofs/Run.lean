import NetIntent.Procedure

/-! Runs of composed procedures, and the calls that a run makes. A call is kept with the local state
and the surroundings in which it was made, so that a statement about calls need not name a step. -/
namespace NetIntent

/-- A call and what came back. -/
structure Exchange where
  call : Call
  reply : call.Reply

namespace Procedure

variable {σ ω α β : Type} {world : World σ ω}

structure Moment (σ ω : Type) where
  state : σ
  remote : ω
  call : Call

/-- The calls of a run in the order in which they are made. -/
def moments (world : World σ ω) : Procedure σ α → σ × ω → List (Moment σ ω)
  | .done _, _ => []
  | .update next rest, (s, w) => (rest s).moments world (next s, w)
  | .call c rest, (s, w) =>
    let (reply, after) := world.reply c w
    ⟨s, w, c⟩ :: (rest reply).moments world (s, after)
  | .record entry rest, (s, w) => rest.moments world (s, world.note entry w)
  | .draw limit rest, (s, w) =>
    let (x, w) := world.chance limit w
    (rest x).moments world (s, w)
  | .pause span rest, state => rest.moments world (world.pass span state)
  | .enter rest, state => rest.moments world state
  | .leave rest, state => rest.moments world state

theorem bind_done (p : Procedure σ α) : p.bind .done = p := by
  induction p with
  | done a => rfl
  | update next rest ih => exact congrArg (update next) (funext ih)
  | call c rest ih => exact congrArg (call c) (funext ih)
  | record entry rest ih => exact congrArg (record entry) ih
  | draw limit rest ih => exact congrArg (draw limit) (funext ih)
  | pause span rest ih => exact congrArg (pause span) ih
  | enter rest ih => exact congrArg enter ih
  | leave rest ih => exact congrArg leave ih

theorem bind_assoc {γ : Type} (p : Procedure σ α) (f : α → Procedure σ β) (g : β → Procedure σ γ) :
    (p.bind f).bind g = p.bind fun a => (f a).bind g := by
  induction p with
  | done a => rfl
  | update next rest ih => exact congrArg (update next) (funext ih)
  | call c rest ih => exact congrArg (call c) (funext ih)
  | record entry rest ih => exact congrArg (record entry) ih
  | draw limit rest ih => exact congrArg (draw limit) (funext ih)
  | pause span rest ih => exact congrArg (pause span) ih
  | enter rest ih => exact congrArg enter ih
  | leave rest ih => exact congrArg leave ih

theorem run_bind (p : Procedure σ α) (f : α → Procedure σ β) (state : σ × ω) :
    (p.bind f).run world state = (f (p.run world state).1).run world (p.run world state).2 := by
  induction p generalizing state with
  | done a => rfl
  | update next rest ih => exact ih _ _
  | call c rest ih => exact ih _ _
  | record entry rest ih => exact ih _
  | draw limit rest ih => exact ih _ _
  | pause span rest ih => exact ih _
  | enter rest ih => exact ih _
  | leave rest ih => exact ih _

theorem moments_bind (p : Procedure σ α) (f : α → Procedure σ β) (state : σ × ω) :
    (p.bind f).moments world state =
      p.moments world state ++ (f (p.run world state).1).moments world (p.run world state).2 := by
  induction p generalizing state with
  | done a => rfl
  | update next rest ih => exact ih _ _
  | call c rest ih => exact congrArg (List.cons _) (ih _ _)
  | record entry rest ih => exact ih _
  | draw limit rest ih => exact ih _ _
  | pause span rest ih => exact ih _
  | enter rest ih => exact ih _
  | leave rest ih => exact ih _

/-- A call with the reply it gets. -/
def Moment.exchange (world : World σ ω) (m : Moment σ ω) : Exchange :=
  ⟨m.call, (world.reply m.call m.remote).1⟩

/-- The calls of a run with their replies, in the order in which they are made. -/
def exchanges (world : World σ ω) (p : Procedure σ α) (state : σ × ω) : List Exchange :=
  (p.moments world state).map (·.exchange world)

theorem run_read (rest : σ → Procedure σ α) (s : σ) (w : ω) :
    (read rest).run world (s, w) = (rest s).run world (s, w) := rfl

theorem run_call (c : Call) (rest : c.Reply → Procedure σ α) (s : σ) (w : ω) :
    (call c rest).run world (s, w) =
      (rest (world.reply c w).1).run world (s, (world.reply c w).2) := rfl

theorem moments_call (c : Call) (rest : c.Reply → Procedure σ α) (s : σ) (w : ω) :
    (call c rest).moments world (s, w) =
      ⟨s, w, c⟩ :: (rest (world.reply c w).1).moments world (s, (world.reply c w).2) := rfl

theorem exchanges_read (rest : σ → Procedure σ α) (s : σ) (w : ω) :
    (read rest).exchanges world (s, w) = (rest s).exchanges world (s, w) := rfl

@[simp] theorem exchanges_done (a : α) (state : σ × ω) : (done a).exchanges world state = [] := rfl

theorem exchanges_call (c : Call) (rest : c.Reply → Procedure σ α) (s : σ) (w : ω) :
    (call c rest).exchanges world (s, w) =
      ⟨c, (world.reply c w).1⟩ ::
        (rest (world.reply c w).1).exchanges world (s, (world.reply c w).2) := rfl

theorem exchanges_bind (p : Procedure σ α) (f : α → Procedure σ β) (state : σ × ω) :
    (p.bind f).exchanges world state =
      p.exchanges world state ++ (f (p.run world state).1).exchanges world (p.run world state).2 := by
  simp only [exchanges, moments_bind, List.map_append]

/-- The audit entries of a run in the order in which they are recorded. -/
def entries (world : World σ ω) : Procedure σ α → σ × ω → List Audit.Entry
  | .done _, _ => []
  | .update next rest, (s, w) => (rest s).entries world (next s, w)
  | .call c rest, (s, w) =>
    let (reply, after) := world.reply c w
    (rest reply).entries world (s, after)
  | .record entry rest, (s, w) => entry :: rest.entries world (s, world.note entry w)
  | .draw limit rest, (s, w) =>
    let (x, w) := world.chance limit w
    (rest x).entries world (s, w)
  | .pause span rest, state => rest.entries world (world.pass span state)
  | .enter rest, state => rest.entries world state
  | .leave rest, state => rest.entries world state

theorem entries_bind (p : Procedure σ α) (f : α → Procedure σ β) (state : σ × ω) :
    (p.bind f).entries world state =
      p.entries world state ++ (f (p.run world state).1).entries world (p.run world state).2 := by
  induction p generalizing state with
  | done a => rfl
  | update next rest ih => exact ih _ _
  | call c rest ih => exact ih _ _
  | record entry rest ih => exact congrArg (List.cons _) (ih _)
  | draw limit rest ih => exact ih _ _
  | pause span rest ih => exact ih _
  | enter rest ih => exact ih _
  | leave rest ih => exact ih _

theorem entries_read (rest : σ → Procedure σ α) (s : σ) (w : ω) :
    (read rest).entries world (s, w) = (rest s).entries world (s, w) := rfl

theorem entries_call (c : Call) (rest : c.Reply → Procedure σ α) (s : σ) (w : ω) :
    (call c rest).entries world (s, w) =
      (rest (world.reply c w).1).entries world (s, (world.reply c w).2) := rfl

/-- A procedure that leaves the local state alone and makes only calls of one kind. -/
def Asks (allowed : Call → Prop) : Procedure σ α → Prop
  | .done _ => True
  | .call c rest => allowed c ∧ ∀ reply, (rest reply).Asks allowed
  | .record _ rest | .pause _ rest => rest.Asks allowed
  | .draw _ rest => ∀ x, (rest x).Asks allowed
  | .update .. | .enter _ | .leave _ => False

theorem Asks.bind {allowed : Call → Prop} {p : Procedure σ α} {f : α → Procedure σ β}
    (first : p.Asks allowed) (rest : ∀ a, (f a).Asks allowed) : (p.bind f).Asks allowed := by
  induction p with
  | done a => exact rest a
  | update => exact first.elim
  | call c _ ih => exact ⟨first.1, fun reply => ih reply (first.2 reply)⟩
  | record _ _ ih => exact ih first
  | draw _ _ ih => exact fun x => ih x (first x)
  | pause _ _ ih => exact ih first
  | enter => exact first.elim
  | leave => exact first.elim

theorem Asks.mono {allowed allowed' : Call → Prop} {p : Procedure σ α} (asks : p.Asks allowed)
    (wider : ∀ c, allowed c → allowed' c) : p.Asks allowed' := by
  induction p with
  | done => trivial
  | update => exact asks.elim
  | call c _ ih => exact ⟨wider c asks.1, fun reply => ih reply (asks.2 reply)⟩
  | record _ _ ih => exact ih asks
  | draw _ _ ih => exact fun x => ih x (asks x)
  | pause _ _ ih => exact ih asks
  | enter => exact asks.elim
  | leave => exact asks.elim

end Procedure

/-- Nothing else changes the local state while a run pauses. -/
def World.Quiet {σ ω : Type} (world : World σ ω) : Prop :=
  ∀ span s w, (world.pass span (s, w)).1 = s

theorem World.Quiet.pass_eq {σ ω : Type} {world : World σ ω} (quiet : world.Quiet) {span : Span}
    {s : σ} {w : ω} : world.pass span (s, w) = (s, (world.pass span (s, w)).2) :=
  Prod.ext (quiet span s w) rfl

namespace Procedure

variable {σ ω α β : Type} {world : World σ ω}

/-- A procedure that only asks leaves the local state as it was, and makes every call in it. -/
theorem Asks.still {allowed : Call → Prop} {p : Procedure σ α} (asks : p.Asks allowed)
    (quiet : world.Quiet) (s : σ) (w : ω) :
    (p.run world (s, w)).2.1 = s ∧ ∀ m ∈ p.moments world (s, w), m.state = s ∧ allowed m.call := by
  induction p generalizing w with
  | done => exact ⟨rfl, fun _ member => absurd member List.not_mem_nil⟩
  | update => exact asks.elim
  | call c rest ih =>
    obtain ⟨same, made⟩ := ih (world.reply c w).1 (asks.2 _) (world.reply c w).2
    exact ⟨same, List.forall_mem_cons.mpr ⟨⟨rfl, asks.1⟩, made⟩⟩
  | record entry rest ih => exact ih asks (world.note entry w)
  | draw limit rest ih => exact ih (world.chance limit w).1 (asks _) (world.chance limit w).2
  | pause span rest ih =>
    have later := ih asks (world.pass span (s, w)).2
    rwa [← quiet.pass_eq] at later
  | enter => exact asks.elim
  | leave => exact asks.elim

/-- As long as the states that a procedure finds are good, its changes of the local state are of one
kind, and so are its calls. -/
def Obeys (good : σ → Prop) (kind : σ → σ → Prop) (allowed : Call → Prop) : Procedure σ α → Prop
  | .done _ => True
  | .update next rest => ∀ s, good s → kind s (next s) ∧ (rest s).Obeys good kind allowed
  | .call c rest => allowed c ∧ ∀ reply, (rest reply).Obeys good kind allowed
  | .draw _ rest => ∀ x, (rest x).Obeys good kind allowed
  | .record _ rest | .pause _ rest | .enter rest | .leave rest => rest.Obeys good kind allowed

namespace Obeys

variable {good : σ → Prop} {kind kind' : σ → σ → Prop} {allowed allowed' : Call → Prop}
  {p : Procedure σ α}

theorem bind {f : α → Procedure σ β} (first : p.Obeys good kind allowed)
    (rest : ∀ a, (f a).Obeys good kind allowed) : (p.bind f).Obeys good kind allowed := by
  induction p with
  | done a => exact rest a
  | update _ _ ih => exact fun s found => ⟨(first s found).1, ih s (first s found).2⟩
  | call _ _ ih => exact ⟨first.1, fun reply => ih reply (first.2 reply)⟩
  | record _ _ ih => exact ih first
  | draw _ _ ih => exact fun x => ih x (first x)
  | pause _ _ ih => exact ih first
  | enter _ ih => exact ih first
  | leave _ ih => exact ih first

theorem mono (obeys : p.Obeys good kind allowed) (changes : ∀ s s', kind s s' → kind' s s')
    (calls : ∀ c, allowed c → allowed' c) : p.Obeys good kind' allowed' := by
  induction p with
  | done => trivial
  | update _ _ ih =>
    exact fun s found => ⟨changes _ _ (obeys s found).1, ih s (obeys s found).2⟩
  | call c _ ih => exact ⟨calls c obeys.1, fun reply => ih reply (obeys.2 reply)⟩
  | record _ _ ih => exact ih obeys
  | draw _ _ ih => exact fun x => ih x (obeys x)
  | pause _ _ ih => exact ih obeys
  | enter _ ih => exact ih obeys
  | leave _ ih => exact ih obeys

end Obeys

/-- Every change of the local state that a procedure may make is of one kind. -/
abbrev Changes (kind : σ → σ → Prop) (p : Procedure σ α) : Prop :=
  p.Obeys (fun _ => True) kind fun _ => True

theorem Changes.wider {kind kind' : σ → σ → Prop} {p : Procedure σ α} (changes : p.Changes kind)
    (wider : ∀ s s', kind s s' → kind' s s') : p.Changes kind' := changes.mono wider fun _ => id

theorem Changes.run {kind : σ → σ → Prop} {p : Procedure σ α} (changes : p.Changes kind)
    (refl : ∀ s, kind s s) (trans : ∀ {s s' s''}, kind s s' → kind s' s'' → kind s s'')
    (quiet : world.Quiet) (s : σ) (w : ω) : kind s (p.run world (s, w)).2.1 := by
  induction p generalizing s w with
  | done => exact refl s
  | update next rest ih =>
    obtain ⟨change, later⟩ := changes s trivial
    exact trans change (ih s later (next s) w)
  | call c rest ih => exact ih _ (changes.2 _) s (world.reply c w).2
  | record entry rest ih => exact ih changes s (world.note entry w)
  | draw limit rest ih => exact ih _ (changes _) s (world.chance limit w).2
  | pause span rest ih =>
    have later := ih changes s (world.pass span (s, w)).2
    rwa [← quiet.pass_eq] at later
  | enter rest ih => exact ih changes s w
  | leave rest ih => exact ih changes s w

end Procedure

end NetIntent
