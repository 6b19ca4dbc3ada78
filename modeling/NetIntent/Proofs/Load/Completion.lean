import NetIntent.Proofs.Load.Schedules
import NetIntent.Store.Indexes

/-! Every load of several stores ends. Each move that changes the board leaves less to do, and until the
end some loader can go on or some result can be looked at; so the load ends as soon as each had its
turn often enough, and it comes to the same in every order. -/
namespace NetIntent.Load

namespace Task

variable {t : Task}

/-- How many answers the loader may still take, the last page included. -/
def left (t : Task) : Nat := if t.result?.isSome then 0 else t.replies.length + 1

theorem left_le (t : Task) : t.left ≤ t.replies.length + 1 := by
  unfold left
  split <;> omega

theorem advance_left (unfinished : t.result? = none) : t.advance.left < t.left := by
  have whole : t.left = t.replies.length + 1 := by simp [left, unfinished]
  rw [whole]
  unfold advance
  split
  · -- The listing has run out, and its last page ends the load.
    cases phase : t.loader.phase with
    | finished => simp [result?, Loader.result?, phase] at unfinished
    | asking =>
      simp [left, result?, Loader.receive, phase, Loader.takePage, Loader.applyAll, Loader.finish,
        Loader.result?]
  · rename_i reply rest more
    refine Nat.lt_of_le_of_lt (left_le _) ?_
    simp [more]

end Task

namespace Board

variable {tasks : List Task} {moves : List Move} {b b' : Board} {i : Nat} {t : Task} {seen : List Nat}

/-- How much is to be done before the load ends. -/
def rank (b : Board) : Nat :=
  if b.outcome.isSome then 0 else (b.tasks.map Task.left).sum + (b.tasks.length - b.seen)

theorem sum_left_advance {now : List Task} (found : now[i]? = some t) (unfinished : t.result? = none) :
    ((now.set i t.advance).map Task.left).sum < (now.map Task.left).sum := by
  induction now generalizing i with
  | nil => cases found
  | cons first rest ih =>
    cases i with
    | zero =>
      obtain rfl := Option.some.inj found
      simpa using Task.advance_left unfinished
    | succ i => simpa using ih found

theorem Going.seen_lt (going : Going tasks moves b seen) : seen.length < tasks.length := by
  have inside : seen ⊆ List.range tasks.length := by
    intro i member
    have done := (going.finished i).mp (List.mem_append_left _ member)
    exact List.mem_range.mpr (going.follows.within done)
  have most := (List.subperm_of_subset (List.Nodup.of_append_left going.once) inside).length_le
  rw [List.length_range] at most
  exact Nat.lt_of_le_of_ne most going.left

theorem Going.rank_eq (going : Going tasks moves b seen) :
    b.rank = (b.tasks.map Task.left).sum + (b.tasks.length - b.seen) ∧ b.seen < b.tasks.length := by
  have more := going.seen_lt
  rw [← going.follows.1, ← going.looked] at more
  exact ⟨by simp [rank, going.unended], more⟩

theorem Going.advance_lowers (going : Going tasks moves b seen) (next : Advances b i b') :
    (b' = b ∧ ∀ t, b.tasks[i]? = some t → t.result?.isSome) ∨ b'.rank < b.rank := by
  obtain ⟨rank, more⟩ := going.rank_eq
  cases next with
  | idle closed =>
    rw [going.unended] at closed
    exact .inl ⟨rfl, closed.resolve_left Bool.false_ne_true⟩
  | goes found unfinished | ends found unfinished =>
    have less := sum_left_advance found unfinished
    refine .inr ?_
    rw [rank]
    simp only [Board.rank, going.unended, List.length_set]
    simpa using less

theorem Going.collect_lowers (going : Going tasks moves b seen) (next : Collects b b') :
    (b' = b ∧ b.waiting = []) ∨ b'.rank < b.rank := by
  obtain ⟨rank, more⟩ := going.rank_eq
  cases next with
  | idle closed =>
    rw [going.unended] at closed
    exact .inl ⟨rfl, closed.resolve_left Bool.false_ne_true⟩
  | fails =>
    refine .inr ?_
    rw [rank]
    simp [Board.rank]
    omega
  | counts =>
    refine .inr ?_
    rw [rank]
    unfold settle Board.rank
    split
    · simp
      omega
    · simp [going.unended]
      omega

/-- Until the end some result can be looked at, or some loader can go on. -/
theorem Going.useful (going : Going tasks moves b seen) :
    b.collect.rank < b.rank ∨ ∃ i < tasks.length, (b.advance i).rank < b.rank := by
  obtain ⟨-, none⟩ | lower := going.collect_lowers (collect_cases fun i waits =>
    (going.finished i).mp (List.mem_append_right seen waits))
  · -- Nothing waits, so a task whose result was not looked at goes on.
    have ⟨i, within, unseen⟩ : ∃ i < tasks.length, i ∉ seen := by
      refine Classical.byContradiction fun all => Nat.not_le.mpr going.seen_lt ?_
      have subset : List.range tasks.length ⊆ seen := by
        intro i member
        refine Classical.byContradiction fun unseen => all ⟨i, List.mem_range.mp member, unseen⟩
      simpa using (List.subperm_of_subset List.nodup_range subset).length_le
    obtain ⟨-, finished⟩ | lower := going.advance_lowers (advance_cases b i)
    · rw [← going.follows.1] at within
      have found := List.getElem?_eq_getElem within
      have done : i ∈ seen ++ b.waiting := by
        rw [going.finished, resultAt, found, Option.bind_some]
        exact finished _ found
      rw [none, List.append_nil] at done
      exact absurd done unseen
    · exact .inr ⟨i, within, lower⟩
  · exact .inl lower

theorem Returns.ok_iff {result : Except Failure UInt64} (returns : Returns tasks moves result) :
    (∃ n, result = .ok n) ↔ ∀ t ∈ tasks, ∃ n, t.alone.result? = some (.ok n) := by
  cases returns with
  | loaded all =>
    refine ⟨fun _ t member => ?_, fun _ => ⟨_, rfl⟩⟩
    obtain ⟨i, given⟩ := List.getElem?_of_mem member
    exact ⟨_, (run_follows tasks moves).result given (all i t given)⟩
  | @failed i t f first own alone =>
    constructor
    · rintro ⟨n, ok⟩
      cases ok
    · intro all
      obtain ⟨n, ok⟩ := all t (List.mem_of_getElem? own)
      rw [alone] at ok
      cases ok

/-- Each loader and the results have their turn. -/
def Covers (tasks : List Task) (round : List Move) : Prop :=
  .collect ∈ round ∧ ∀ i < tasks.length, .advance i ∈ round

/-- How much there is to do at the start: all answers, their last pages, and a look at each result. -/
def work (tasks : List Task) : Nat := (tasks.map fun t => t.replies.length + 1).sum + tasks.length

/-- How far a task is, and what its load comes to: the store holds as many of the records offered as
were counted, and once there is a result all is as the load leaves it by itself. -/
structure Part (t : Task) (k : Nat) : Prop where
  holding : ∃ n ≤ (offered t.replies).length,
    t.holding n = .ok (t.after k).loader.store ∧ (t.after k).loader.count = .ofNat n
  complete : (t.after k).result?.isSome → (t.after k).loader = t.alone
  verdict : t.alone.result? = some t.verdict

section Fresh

variable (fresh : ∀ t ∈ tasks, t.Fresh)

include fresh

theorem move_lowers (moves : List Move) (move : Move) :
    (start tasks).run (moves ++ [move]) = (start tasks).run moves ∨
      ((start tasks).run (moves ++ [move])).rank < ((start tasks).run moves).rank := by
  rw [run_append]
  obtain ⟨seen, going⟩ | ⟨result, outcome, -⟩ := run_cases fresh moves
  · cases move with
    | advance i => exact (going.advance_lowers (advance_cases _ i)).imp_left And.left
    | collect =>
      refine (going.collect_lowers (collect_cases fun i waits => ?_)).imp_left And.left
      exact (going.finished i).mp (List.mem_append_right seen waits)
  · exact .inl (run_ended (Option.isSome_of_eq_some outcome) _)

theorem run_lowers (moves more : List Move) :
    (start tasks).run (moves ++ more) = (start tasks).run moves ∨
      ((start tasks).run (moves ++ more)).rank < ((start tasks).run moves).rank := by
  induction more using List.reverseRecOn with
  | nil => exact .inl (by rw [List.append_nil])
  | append_singleton more move ih =>
    have last := move_lowers fresh (moves ++ more) move
    rw [← List.append_assoc]
    obtain same | less := ih
    · rwa [same] at last
    · obtain still | lower := last
      · exact .inr (still ▸ less)
      · exact .inr (Nat.lt_trans lower less)

theorem round_lowers {round : List Move} (covers : Covers tasks round)
    (unended : ((start tasks).run moves).outcome = none) :
    ((start tasks).run (moves ++ round)).rank < ((start tasks).run moves).rank := by
  obtain ⟨seen, going⟩ | ⟨result, outcome, -⟩ := run_cases fresh moves
  · obtain ⟨move, turn, lowers⟩ : ∃ move ∈ round,
        (((start tasks).run moves).move move).rank < ((start tasks).run moves).rank := by
      obtain lowers | ⟨i, within, lowers⟩ := going.useful
      · exact ⟨.collect, covers.1, lowers⟩
      · exact ⟨.advance i, covers.2 i within, lowers⟩
    obtain ⟨before, after, rfl⟩ := List.append_of_mem turn
    rw [← List.append_assoc]
    obtain same | less := run_lowers fresh moves before
    · -- Up to the useful move nothing has changed.
      have moved : (start tasks).run (moves ++ before ++ [move]) =
          ((start tasks).run moves).move move := by
        rw [run_append, same]
        rfl
      have rest := run_lowers fresh (moves ++ before ++ [move]) after
      rw [moved, List.append_assoc, List.singleton_append] at rest
      obtain still | lower := rest
      · rwa [still]
      · exact Nat.lt_trans lower lowers
    · obtain still | lower := run_lowers fresh (moves ++ before) (move :: after)
      · rwa [still]
      · exact Nat.lt_trans lower less
  · rw [outcome] at unended
    cases unended

/-- As many rounds as there is still to do are enough. -/
theorem rounds_end (rounds : List (List Move)) (covers : ∀ round ∈ rounds, Covers tasks round)
    (enough : ((start tasks).run moves).rank ≤ rounds.length) :
    ((start tasks).run (moves ++ rounds.flatten)).outcome.isSome := by
  induction rounds generalizing moves with
  | nil =>
    rw [List.flatten_nil, List.append_nil]
    obtain ⟨seen, going⟩ | ⟨result, outcome, -⟩ := run_cases fresh moves
    · obtain ⟨rank, more⟩ := going.rank_eq
      rw [rank, List.length_nil] at enough
      omega
    · exact Option.isSome_of_eq_some outcome
  | cons round rest ih =>
    obtain ⟨first, others⟩ := List.forall_mem_cons.mp covers
    cases ended : ((start tasks).run moves).outcome with
    | some result =>
      have closed := Option.isSome_of_eq_some ended
      rwa [run_append, run_ended closed]
    | none =>
      have lower := round_lowers fresh first ended
      rw [List.length_cons] at enough
      rw [List.flatten_cons, ← List.append_assoc]
      exact ih others (by omega)

theorem rank_le_work (moves : List Move) : ((start tasks).run moves).rank ≤ work tasks := by
  have first : (start tasks).rank ≤ work tasks := by
    have left : tasks.map Task.left = tasks.map fun t => t.replies.length + 1 :=
      List.map_congr_left fun t member => by simp [Task.left, (fresh t member).result]
    unfold rank
    split
    · exact Nat.zero_le _
    · rw [start_tasks, left, work]
      omega
  obtain same | less := run_lowers fresh [] moves
  · exact Nat.le_trans (Nat.le_of_eq (congrArg rank same)) first
  · exact Nat.le_of_lt (Nat.lt_of_lt_of_le less first)

/-- Whatever the order of the moves, each task does a part of its load by itself. The load ends within
a number of rounds, once and for all: with the counts of all tasks added, or with the failure that came
first. -/
theorem loads_alike_in_every_order (moves : List Move) :
    (∀ (i : Nat) (t : Task), tasks[i]? = some t → ∃ k,
      ((start tasks).run moves).tasks[i]? = some (t.after k) ∧ Part t k) ∧
    (∀ result, ((start tasks).run moves).outcome = some result → Returns tasks moves result ∧
      ((∃ n, result = .ok n) ↔ ∀ t ∈ tasks, ∃ n, t.alone.result? = some (.ok n)) ∧
      ∀ more, (start tasks).run (moves ++ more) = (start tasks).run moves) ∧
    ∀ rounds : List (List Move), (∀ round ∈ rounds, Covers tasks round) →
      work tasks ≤ rounds.length →
        ((start tasks).run (moves ++ rounds.flatten)).outcome.isSome := by
  refine ⟨?parts, ?outcome, ?ends⟩
  case parts =>
    intro i t given
    obtain ⟨k, reached⟩ := (run_follows tasks moves).2 i t given
    have own := fresh t (List.mem_of_getElem? given)
    exact ⟨k, reached, Task.after_holding own k, Task.after_finished, Task.alone_result own⟩
  case outcome =>
    intro result outcome
    obtain ⟨seen, going⟩ | ⟨result', outcome', returns⟩ := run_cases fresh moves
    · rw [going.unended] at outcome
      cases outcome
    · obtain rfl := Option.some.inj (outcome'.symm.trans outcome)
      refine ⟨returns, returns.ok_iff, fun more => ?_⟩
      rw [run_append, run_ended (Option.isSome_of_eq_some outcome)]
  case ends =>
    intro rounds covers enough
    exact rounds_end fresh rounds covers (Nat.le_trans (rank_le_work fresh moves) enough)

end Fresh

namespace Sample

/-- Two pages of ports. -/
def ports : Task where
  Record := SubnetPort
  indexed := inferInstance
  loader := .start SubnetPort.emptyStore
  replies := [.page ⟨[{ id := some "web" }], some "2"⟩, .page ⟨[{ id := some "vm" }], none⟩]

/-- A page of servers, and then the task dies. -/
def servers : Task where
  Record := VirtualServer
  indexed := inferInstance
  loader := .start VirtualServer.emptyStore
  replies := [.page ⟨[{ id := some "front" }], some "2"⟩, .died "task 1 panicked"]

/-- The ports are loaded first, and looked at first. -/
def turns : List Move := [.advance 1, .advance 0, .advance 0, .advance 1, .collect, .collect]

end Sample

open Sample in
/-- The failure behind a success is not lost, and what was loaded stays. -/
theorem death_behind_success : (∀ t ∈ [ports, servers], t.Fresh) ∧
    ((start [ports, servers]).run turns).outcome = some (.error (Loader.taskDied "task 1 panicked")) ∧
    Returns [ports, servers] turns (.error (Loader.taskDied "task 1 panicked")) ∧
    ((start [ports, servers]).run turns).resultAt 0 = some (.ok 2) ∧
    ∃ k, ((start [ports, servers]).run turns).tasks[1]? = some (servers.after k) ∧ Part servers k := by
  have fresh : ∀ t ∈ [ports, servers], t.Fresh := by
    intro t member
    obtain rfl | only := List.mem_cons.mp member
    · rfl
    · obtain rfl := List.mem_singleton.mp only
      rfl
  have outcome : ((start [ports, servers]).run turns).outcome = some (.error (Loader.taskDied "task 1 panicked")) := by
    decide +kernel
  have law := loads_alike_in_every_order fresh turns
  exact ⟨fresh, outcome, (law.2.1 _ outcome).1, by decide +kernel, law.1 1 servers rfl⟩

end Board

end NetIntent.Load
