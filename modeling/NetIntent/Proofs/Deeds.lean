import Mathlib.Algebra.BigOperators.Group.Finset.Piecewise
import NetIntent.Proofs.Interleaving

/-! The deeds of procedures side by side on one state. What one of them did, by itself, is a course of
it, in which the states found and the replies may be any. -/
namespace NetIntent

/-- What one of several procedures did. -/
def deedsOf {σ : Type} (i : Nat) (history : List (Nat × Deed σ)) : List (Deed σ) :=
  (history.filter (·.1 = i)).map (·.2)

namespace Procedure

variable {σ ω α β : Type} {p p' : Procedure σ α} {s s' : σ} {deeds later : List (Deed σ)} {event : Event σ}

/-- Actions of several procedures in any order, with who did what. -/
inductive Together : List (Procedure σ α) → σ → List (Nat × Deed σ) → List (Procedure σ α) → σ → Prop where
  | rest (ps : List (Procedure σ α)) (s : σ) : Together ps s [] ps s
  | acts {ps ps' : List (Procedure σ α)} {i : Nat} {p p' : Procedure σ α} {s s' s'' : σ}
      {event : Event σ} {history : List (Nat × Deed σ)} (among : ps[i]? = some p)
      (step : p.Step s event s' p') (later : Together (ps.set i p') s' history ps' s'') :
      Together ps s (event.deeds.map (i, ·) ++ history) ps' s''

/-- A course of a procedure to its end: what it does, whatever it finds. -/
def Goes : Procedure σ α → List (Deed σ) → α → Prop
  | .done a, deeds, b => deeds = [] ∧ b = a
  | .update next rest, deeds, b =>
    ∃ s later, deeds = .change s (next s) :: later ∧ (rest s).Goes later b
  | .call c rest, deeds, b => ∃ reply later, deeds = .call ⟨c, reply⟩ :: later ∧ (rest reply).Goes later b
  | .record entry rest, deeds, b => ∃ later, deeds = .entry entry :: later ∧ rest.Goes later b
  | .draw _ rest, deeds, b => ∃ x, (rest x).Goes deeds b
  | .pause _ rest, deeds, b | .enter rest, deeds, b | .leave rest, deeds, b => rest.Goes deeds b

/-- The course of a composed procedure has a part for each. -/
theorem Goes.parts {f : α → Procedure σ β} {b : β} (goes : (p.bind f).Goes deeds b) :
    ∃ first a later, deeds = first ++ later ∧ p.Goes first a ∧ (f a).Goes later b := by
  induction p generalizing deeds with
  | done a => exact ⟨[], a, deeds, rfl, ⟨rfl, rfl⟩, goes⟩
  | update next rest ih =>
    obtain ⟨s, more, rfl, goes⟩ := goes
    obtain ⟨first, a, later, rfl, goes, follows⟩ := ih s goes
    exact ⟨.change s (next s) :: first, a, later, rfl, ⟨s, first, rfl, goes⟩, follows⟩
  | call c rest ih =>
    obtain ⟨reply, more, rfl, goes⟩ := goes
    obtain ⟨first, a, later, rfl, goes, follows⟩ := ih reply goes
    exact ⟨.call ⟨c, reply⟩ :: first, a, later, rfl, ⟨reply, first, rfl, goes⟩, follows⟩
  | record entry rest ih =>
    obtain ⟨more, rfl, goes⟩ := goes
    obtain ⟨first, a, later, rfl, goes, follows⟩ := ih goes
    exact ⟨.entry entry :: first, a, later, rfl, ⟨first, rfl, goes⟩, follows⟩
  | draw limit rest ih =>
    obtain ⟨x, goes⟩ := goes
    obtain ⟨first, a, later, rfl, goes, follows⟩ := ih x goes
    exact ⟨first, a, later, rfl, ⟨x, goes⟩, follows⟩
  | pause span rest ih => exact ih goes
  | enter rest ih => exact ih goes
  | leave rest ih => exact ih goes

theorem Step.goes {a : α} (step : p.Step s event s' p') (goes : p'.Goes later a) :
    p.Goes (event.deeds ++ later) a := by
  cases step with
  | update next rest => exact ⟨s, later, rfl, goes⟩
  | call c rest reply => exact ⟨reply, later, rfl, goes⟩
  | record entry rest => exact ⟨later, rfl, goes⟩
  | draw limit rest x => exact ⟨x, goes⟩
  | pause | enter | leave => exact goes

theorem deedsOf_append (i : Nat) (first rest : List (Nat × Deed σ)) :
    deedsOf i (first ++ rest) = deedsOf i first ++ deedsOf i rest := by
  simp [deedsOf]

theorem deedsOf_own (i : Nat) (deeds : List (Deed σ)) : deedsOf i (deeds.map (i, ·)) = deeds := by
  simp [deedsOf, List.filter_map, Function.comp_def]

theorem deedsOf_other {i j : Nat} (different : j ≠ i) (deeds : List (Deed σ)) :
    deedsOf i (deeds.map (j, ·)) = [] := by
  simp [deedsOf, List.filter_map, Function.comp_def, different]

namespace Together

variable {ps ps' : List (Procedure σ α)} {history : List (Nat × Deed σ)}

/-- What a procedure among others did until its end is a course of it. -/
theorem goes (ran : Together ps s history ps' s') {i : Nat} {a : α} (among : ps[i]? = some p)
    (ended : ps'[i]? = some (.done a)) : p.Goes (deedsOf i history) a := by
  induction ran generalizing p with
  | rest =>
    obtain rfl := Option.some.inj (among.symm.trans ended)
    exact ⟨rfl, rfl⟩
  | @acts ps _ j q q' _ _ _ event history found step _ ih =>
    rw [deedsOf_append]
    by_cases same : j = i
    · subst same
      obtain rfl := Option.some.inj (found.symm.trans among)
      rw [deedsOf_own]
      exact step.goes (ih (List.getElem?_set_self (List.getElem?_eq_some_iff.mp found).1) ended)
    · rw [deedsOf_other same, List.nil_append]
      exact ih ((List.getElem?_set_ne same).trans among) ended

theorem length_eq (ran : Together ps s history ps' s') : ps'.length = ps.length := by
  induction ran with
  | rest => rfl
  | acts _ _ _ ih => rw [ih, List.length_set]

/-- Nobody acts but the procedures. -/
theorem actors (ran : Together ps s history ps' s') : ∀ item ∈ history, item.1 < ps.length := by
  induction ran with
  | rest => exact fun _ member => absurd member List.not_mem_nil
  | acts found step _ ih =>
    intro item member
    rcases List.mem_append.mp member with own | later
    · obtain ⟨_, -, rfl⟩ := List.mem_map.mp own
      exact (List.getElem?_eq_some_iff.mp found).1
    · exact List.length_set ▸ ih item later

end Together

/-- What is added up over a history is added up by actors. -/
theorem sum_by_actor {M : Type} [AddCommMonoid M] (f : Deed σ → M) {history : List (Nat × Deed σ)} {n : Nat}
    (actors : ∀ item ∈ history, item.1 < n) :
    (history.map fun item => f item.2).sum =
      ∑ i ∈ Finset.range n, ((deedsOf i history).map f).sum := by
  induction history with
  | nil => simp [deedsOf]
  | cons item rest ih =>
    obtain ⟨own, others⟩ := List.forall_mem_cons.mp actors
    have each : ∀ i, ((deedsOf i (item :: rest)).map f).sum =
        (if item.1 = i then f item.2 else 0) + ((deedsOf i rest).map f).sum := by
      intro i
      by_cases same : item.1 = i <;> simp [deedsOf, same]
    simp only [each, Finset.sum_add_distrib, Finset.sum_ite_eq, Finset.mem_range, own, if_true,
      List.map_cons, List.sum_cons, ih others]

/-- A run on its own, as the only one of several. -/
theorem run_together {world : World σ ω} (quiet : world.Quiet) (p : Procedure σ α) (s : σ) (w : ω) :
    ∃ deeds : List (Deed σ), Together [p] s (deeds.map (0, ·)) [.done (p.run world (s, w)).1] (p.run world (s, w)).2.1 ∧
      deeds.filterMap Deed.exchange? = p.exchanges world (s, w) ∧
      deeds.filterMap Deed.note? = p.entries world (s, w) := by
  induction p generalizing s w with
  | done a => exact ⟨[], .rest _ s, rfl, rfl⟩
  | update next rest ih =>
    obtain ⟨deeds, ran, calls, entries⟩ := ih s (next s) w
    exact ⟨.change s (next s) :: deeds, .acts rfl (.update next rest s) ran, calls, entries⟩
  | call c rest ih =>
    obtain ⟨deeds, ran, calls, entries⟩ := ih (world.reply c w).1 s (world.reply c w).2
    exact ⟨.call ⟨c, (world.reply c w).1⟩ :: deeds, .acts rfl (.call c rest _ s) ran,
      congrArg (List.cons _) calls, entries⟩
  | record entry rest ih =>
    obtain ⟨deeds, ran, calls, entries⟩ := ih s (world.note entry w)
    exact ⟨.entry entry :: deeds, .acts rfl (.record entry rest s) ran, calls,
      congrArg (List.cons _) entries⟩
  | draw limit rest ih =>
    obtain ⟨deeds, ran, calls, entries⟩ := ih (world.chance limit w).1 s (world.chance limit w).2
    exact ⟨deeds, .acts (i := 0) rfl (.draw limit rest _ s) ran, calls, entries⟩
  | pause span rest ih =>
    obtain ⟨deeds, ran, calls, entries⟩ := ih s (world.pass span (s, w)).2
    rw [← quiet.pass_eq] at ran calls entries
    exact ⟨deeds, .acts (i := 0) rfl (.pause span rest s) ran, calls, entries⟩
  | enter rest ih =>
    obtain ⟨deeds, ran, calls, entries⟩ := ih s w
    exact ⟨deeds, .acts (i := 0) rfl (.enter rest s) ran, calls, entries⟩
  | leave rest ih =>
    obtain ⟨deeds, ran, calls, entries⟩ := ih s w
    exact ⟨deeds, .acts (i := 0) rfl (.leave rest s) ran, calls, entries⟩

/-- Everything that a procedure may do is of one kind. -/
def Only (kind : Deed σ → Prop) : Procedure σ α → Prop
  | .done _ => True
  | .update next rest => ∀ s, kind (.change s (next s)) ∧ (rest s).Only kind
  | .call c rest => ∀ reply, kind (.call ⟨c, reply⟩) ∧ (rest reply).Only kind
  | .record entry rest => kind (.entry entry) ∧ rest.Only kind
  | .draw _ rest => ∀ x, (rest x).Only kind
  | .pause _ rest | .enter rest | .leave rest => rest.Only kind

theorem Only.goes {kind : Deed σ → Prop} {a : α} (only : p.Only kind) (goes : p.Goes deeds a) :
    ∀ deed ∈ deeds, kind deed := by
  induction p generalizing deeds with
  | done =>
    rw [goes.1]
    exact fun _ member => absurd member List.not_mem_nil
  | update next rest ih =>
    obtain ⟨s, later, rfl, goes⟩ := goes
    exact List.forall_mem_cons.mpr ⟨(only s).1, ih s (only s).2 goes⟩
  | call c rest ih =>
    obtain ⟨reply, later, rfl, goes⟩ := goes
    exact List.forall_mem_cons.mpr ⟨(only reply).1, ih reply (only reply).2 goes⟩
  | record entry rest ih =>
    obtain ⟨later, rfl, goes⟩ := goes
    exact List.forall_mem_cons.mpr ⟨only.1, ih only.2 goes⟩
  | draw limit rest ih =>
    obtain ⟨x, goes⟩ := goes
    exact ih x (only x) goes
  | pause span rest ih => exact ih only goes
  | enter rest ih => exact ih only goes
  | leave rest ih => exact ih only goes

theorem Only.bind {kind : Deed σ → Prop} {f : α → Procedure σ β} (first : p.Only kind)
    (rest : ∀ a, (f a).Only kind) : (p.bind f).Only kind := by
  induction p with
  | done a => exact rest a
  | update next _ ih => exact fun s => ⟨(first s).1, ih s (first s).2⟩
  | call c _ ih => exact fun reply => ⟨(first reply).1, ih reply (first reply).2⟩
  | record entry _ ih => exact ⟨first.1, ih first.2⟩
  | draw limit _ ih => exact fun x => ih x (first x)
  | pause span _ ih => exact ih first
  | enter _ ih => exact ih first
  | leave _ ih => exact ih first

end Procedure

end NetIntent
