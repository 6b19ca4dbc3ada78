import NetIntent.Load.Loader

/-!
Filling several stores at once. Loaders take their pages in any interleaving; their results are
looked at in the order in which they finished. The first failure looked at ends the whole load and
stops every other loader; without one the counts add up.
-/

namespace NetIntent.Load

/-- A loader of some kind of record with the answers its listing still has to give. A listing that
has run out answers with an empty last page. -/
structure Task where
  Record : Type
  indexed : Indexed Record
  loader : Loader Record
  replies : List (Reply Record)

namespace Task

def name (t : Task) : String := t.indexed.kind

def result? (t : Task) : Option (Except Failure UInt64) := t.loader.result?

def advance (t : Task) : Task :=
  let _ := t.indexed
  match t.replies with
  | [] => { t with loader := t.loader.receive (.page ⟨[], none⟩) }
  | reply :: rest => { t with loader := t.loader.receive reply, replies := rest }

theorem advance_record (t : Task) : t.advance.Record = t.Record := by
  unfold advance
  split <;> rfl

end Task

structure Board where
  tasks : List Task
  /-- Finished tasks whose result was not looked at yet, in the order in which they finished. -/
  waiting : List Nat := []
  /-- How many results were looked at. -/
  seen : Nat := 0
  /-- The sum of the counts looked at, modulo `2 ^ 64`. -/
  total : UInt64 := 0
  outcome : Option (Except Failure UInt64) := none

namespace Board

/-- Ends the load once every result was looked at. -/
def settle (b : Board) : Board :=
  if b.seen = b.tasks.length then { b with outcome := some (.ok b.total) } else b

def start (tasks : List Task) : Board := settle { tasks }

/-- The next answer reaches one loader, unless that has finished or the load has ended. -/
def advance (b : Board) (i : Nat) : Board :=
  match b.outcome, b.tasks[i]? with
  | none, some t =>
    if t.result?.isSome then b
    else
      let t := t.advance
      { b with tasks := b.tasks.set i t
               waiting := if t.result?.isSome then b.waiting ++ [i] else b.waiting }
  | _, _ => b

/-- Looks at the result that has waited longest. -/
def collect (b : Board) : Board :=
  match b.outcome, b.waiting with
  | none, i :: rest =>
    match b.tasks[i]?.bind Task.result? with
    | some (.ok n) => settle { b with waiting := rest, seen := b.seen + 1, total := b.total + n }
    | some (.error f) => { b with waiting := rest, outcome := some (.error f) }
    | none => { b with waiting := rest }
  | _, _ => b

inductive Move where
  | advance (i : Nat)
  | collect
  deriving DecidableEq

def move (b : Board) : Move → Board
  | .advance i => b.advance i
  | .collect => b.collect

def run (b : Board) (moves : List Move) : Board := moves.foldl move b

theorem settle_tasks (b : Board) : b.settle.tasks = b.tasks := by
  unfold settle
  split <;> rfl

theorem collect_tasks (b : Board) : b.collect.tasks = b.tasks := by
  unfold collect
  split
  · split
    · exact settle_tasks _
    · rfl
    · rfl
  · rfl

theorem start_tasks (tasks : List Task) : (start tasks).tasks = tasks := settle_tasks _

/-- A task goes on with the records that it has begun with. -/
theorem run_records (b : Board) (moves : List Move) :
    (b.run moves).tasks.map Task.Record = b.tasks.map Task.Record := by
  induction moves generalizing b with
  | nil => rfl
  | cons first rest ih =>
    refine (ih (b.move first)).trans ?_
    cases first with
    | collect => rw [move, collect_tasks]
    | advance i =>
      rw [move, advance]
      split
      · rename_i t _ found
        split
        · rfl
        · rw [List.map_set, Task.advance_record]
          obtain ⟨within, rfl⟩ := List.getElem?_eq_some_iff.mp found
          rw [← List.getElem_map Task.Record (h := by simpa using within)]
          exact List.set_getElem_self _
      · rfl

/-- The store of a task, given the type of its records. -/
def storeAt {R : Type} (b : Board) (i : Nat) (own : (b.tasks.map Task.Record)[i]? = some R) : Store R :=
  have within : i < b.tasks.length := by
    simpa using (List.getElem?_eq_some_iff.mp own).1
  have same : b.tasks[i].Record = R := by
    simpa [List.getElem?_eq_getElem within] using own
  same ▸ b.tasks[i].loader.store

end Board

end NetIntent.Load
