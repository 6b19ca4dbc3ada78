import Mathlib.Algebra.BigOperators.Group.List.Basic
import Mathlib.Data.List.Induction
import Mathlib.Data.List.Nodup
import Mathlib.Data.List.Perm.Subperm
import Mathlib.Data.UInt
import NetIntent.Proofs.Load.Listing

/-! Several loads in any interleaving. Whatever the order of the moves, each task is on the way of its
load by itself, and results wait in the order in which they came; so the first failure to come is the
first to be looked at, and without one the counts of all tasks are added. -/
namespace NetIntent.Load.Board

/-- The result of a task, looked at or not. -/
def resultAt (b : Board) (i : Nat) : Option (Except Failure UInt64) := b.tasks[i]?.bind Task.result?

/-- What an answer to one loader makes of a board. -/
inductive Advances (b : Board) (i : Nat) : Board → Prop where
  | idle (closed : b.outcome.isSome ∨ ∀ t, b.tasks[i]? = some t → t.result?.isSome) : Advances b i b
  | goes {t : Task} (found : b.tasks[i]? = some t) (unfinished : t.result? = none)
      (pending : t.advance.result? = none) :
      Advances b i { b with tasks := b.tasks.set i t.advance }
  | ends {t : Task} (found : b.tasks[i]? = some t) (unfinished : t.result? = none)
      (ended : t.advance.result?.isSome) :
      Advances b i { b with tasks := b.tasks.set i t.advance, waiting := b.waiting ++ [i] }

/-- What a look at the results makes of a board on which only finished tasks wait. -/
inductive Collects (b : Board) : Board → Prop where
  | idle (closed : b.outcome.isSome ∨ b.waiting = []) : Collects b b
  | counts {i : Nat} {rest : List Nat} {n : UInt64} (unended : b.outcome = none)
      (next : b.waiting = i :: rest) (result : b.resultAt i = some (.ok n)) : Collects b
        (settle { b with waiting := rest, seen := b.seen + 1, total := b.total + n })
  | fails {i : Nat} {rest : List Nat} {f : Failure} (unended : b.outcome = none)
      (next : b.waiting = i :: rest) (result : b.resultAt i = some (.error f)) :
      Collects b { b with waiting := rest, outcome := some (.error f) }

variable {tasks : List Task} {moves : List Move} {b : Board} {i j : Nat} {t : Task} {f : Failure}

theorem advance_cases (b : Board) (i : Nat) : Advances b i (b.advance i) := by
  unfold advance
  split
  · rename_i t _ found
    split
    · rename_i done
      refine .idle (.inr fun t' found' => ?_)
      obtain rfl := Option.some.inj (found'.symm.trans found)
      exact done
    · rename_i unfinished
      have unfinished : t.result? = none := by simpa using unfinished
      by_cases ended : t.advance.result?.isSome
      · simp only [ended, if_true]
        exact .ends found unfinished ended
      · simp only [ended]
        exact .goes found unfinished (by simpa using ended)
  · rename_i closed
    refine .idle ?_
    cases outcome : b.outcome with
    | some => exact .inl rfl
    | none => exact .inr fun t found => absurd found (closed t outcome)

theorem collect_cases (finished : ∀ i ∈ b.waiting, (b.resultAt i).isSome) :
    Collects b b.collect := by
  unfold collect
  split
  · rename_i i rest unended next
    obtain ⟨result, given⟩ := Option.isSome_iff_exists.mp (finished i (next ▸ List.mem_cons_self))
    have looked : b.tasks[i]?.bind Task.result? = some result := given
    rw [looked]
    cases result with
    | ok n => exact .counts unended next given
    | error f => exact .fails unended next given
  · rename_i closed
    refine .idle ?_
    cases outcome : b.outcome with
    | some => exact .inl rfl
    | none =>
      cases first : b.waiting with
      | nil => exact .inr rfl
      | cons i rest => exact absurd first (closed i rest outcome)

theorem run_append (b : Board) (moves more : List Move) :
    b.run (moves ++ more) = (b.run moves).run more := List.foldl_append

/-- Once the load has ended, nothing happens any more. -/
theorem run_ended (ended : b.outcome.isSome) (moves : List Move) : b.run moves = b := by
  induction moves with
  | nil => rfl
  | cons move rest ih =>
    have still : b.move move = b := by
      obtain ⟨result, outcome⟩ := Option.isSome_iff_exists.mp ended
      cases move <;> simp [Board.move, advance, collect, outcome]
    exact (congrArg (run · rest) still).trans ih

theorem resultAt_set (found : b.tasks[i]? = some t) (t' : Task) (waiting : List Nat) (j : Nat) :
    resultAt { b with tasks := b.tasks.set i t', waiting } j =
      if i = j then t'.result? else b.resultAt j := by
  unfold resultAt
  by_cases same : i = j
  · subst same
    rw [if_pos rfl, List.getElem?_set_self (List.getElem?_eq_some_iff.mp found).1, Option.bind_some]
  · rw [if_neg same, List.getElem?_set_ne same]

/-- The tasks are those given, each with some of its answers. -/
def Follows (tasks now : List Task) : Prop :=
  now.length = tasks.length ∧
    ∀ (i : Nat) (t : Task), tasks[i]? = some t → ∃ k, now[i]? = some (t.after k)

theorem Follows.advance {now : List Task} (follows : Follows tasks now) (found : now[i]? = some t)
    (unfinished : t.result? = none) : Follows tasks (now.set i t.advance) := by
  refine ⟨List.length_set.trans follows.1, fun j own given => ?_⟩
  obtain ⟨k, reached⟩ := follows.2 j own given
  by_cases same : i = j
  · subst same
    obtain rfl := Option.some.inj (found.symm.trans reached)
    refine ⟨k + 1, ?_⟩
    rw [List.getElem?_set_self (List.getElem?_eq_some_iff.mp found).1, Task.advance_after unfinished]
  · exact ⟨k, (List.getElem?_set_ne same).trans reached⟩

theorem Follows.move (follows : Follows tasks b.tasks) (move : Move) :
    Follows tasks (b.move move).tasks := by
  cases move with
  | collect => rwa [Board.move, collect_tasks]
  | advance i =>
    rw [Board.move]
    have next := advance_cases b i
    generalize b.advance i = b' at next ⊢
    cases next with
    | idle => exact follows
    | goes found unfinished | ends found unfinished => exact follows.advance found unfinished

theorem run_follows (tasks : List Task) (moves : List Move) :
    Follows tasks ((start tasks).run moves).tasks := by
  induction moves using List.reverseRecOn with
  | nil =>
    refine ⟨congrArg List.length (start_tasks tasks), fun i t given => ⟨0, ?_⟩⟩
    rw [Task.after_zero, run, List.foldl_nil, start_tasks, given]
  | append_singleton moves move ih =>
    rw [run_append]
    exact ih.move move

/-- The load of one task is the first to fail: none has failed before the answer on which it does. -/
def FailsFirst (tasks : List Task) (moves : List Move) (i : Nat) (f : Failure) : Prop :=
  ∃ before after, moves = before ++ .advance i :: after ∧
    (∀ j g, ((start tasks).run before).resultAt j ≠ some (.error g)) ∧
    ((start tasks).run (before ++ [.advance i])).resultAt i = some (.error f)

theorem FailsFirst.more (first : FailsFirst tasks moves i f) (move : Move) :
    FailsFirst tasks (moves ++ [move]) i f := by
  obtain ⟨before, after, rfl, fine, fails⟩ := first
  exact ⟨before, after ++ [move], by simp, fine, fails⟩

/-- How many records the load of a task applies by itself. -/
def share (tasks : List Task) (i : Nat) : UInt64 := (tasks[i]?.map fun t => t.alone.count).getD 0

theorem Follows.result (follows : Follows tasks b.tasks) (given : tasks[i]? = some t)
    {result : Except Failure UInt64} (found : b.resultAt i = some result) :
    t.alone.result? = some result := by
  obtain ⟨k, reached⟩ := follows.2 i t given
  rw [resultAt, reached, Option.bind_some] at found
  rw [← Task.after_finished (Option.isSome_of_eq_some found)]
  exact found

theorem Follows.within (follows : Follows tasks b.tasks) (done : (b.resultAt i).isSome) :
    i < tasks.length := by
  rw [← follows.1]
  refine Nat.lt_of_not_le fun beyond => ?_
  rw [resultAt, List.getElem?_eq_none beyond] at done
  cases done

theorem share_eq (given : tasks[i]? = some t) : share tasks i = t.alone.count := by
  simp [share, given]

theorem Follows.share (follows : Follows tasks b.tasks) (fresh : ∀ t ∈ tasks, t.Fresh) {n : UInt64}
    (ok : b.resultAt i = some (.ok n)) : n = share tasks i := by
  have within := follows.within (Option.isSome_of_eq_some ok)
  have given := List.getElem?_eq_getElem within
  have own := follows.result given ok
  rw [share_eq given]
  exact Task.alone_count (fresh _ (List.getElem_mem within)) own

/-- A load that goes on. The results looked at are counted, and of those that wait the first failure
is the first that came. -/
structure Going (tasks : List Task) (moves : List Move) (b : Board) (seen : List Nat) : Prop where
  follows : Follows tasks b.tasks
  unended : b.outcome = none
  once : (seen ++ b.waiting).Nodup
  finished : ∀ i, i ∈ seen ++ b.waiting ↔ (b.resultAt i).isSome
  looked : b.seen = seen.length
  left : seen.length ≠ tasks.length
  fine : ∀ i ∈ seen, b.resultAt i = some (.ok (share tasks i))
  counted : b.total = (seen.map (share tasks)).sum
  first : ∀ earlier i later f, b.waiting = earlier ++ i :: later →
    (∀ j ∈ earlier, ∃ n, b.resultAt j = some (.ok n)) → b.resultAt i = some (.error f) →
      FailsFirst tasks moves i f

variable {seen : List Nat}

theorem Going.advance (going : Going tasks moves ((start tasks).run moves) seen) (i : Nat) :
    Going tasks (moves ++ [.advance i]) ((start tasks).run (moves ++ [.advance i])) seen := by
  have ran : (start tasks).run (moves ++ [.advance i]) = ((start tasks).run moves).advance i :=
    run_append _ moves [.advance i]
  have follows := run_follows tasks (moves ++ [.advance i])
  have next := advance_cases ((start tasks).run moves) i
  have latest : ∀ f, ((start tasks).run (moves ++ [.advance i])).resultAt i = some (.error f) →
      (∀ j g, ((start tasks).run moves).resultAt j ≠ some (.error g)) →
        FailsFirst tasks (moves ++ [.advance i]) i f :=
    fun f fails fine => ⟨moves, [], rfl, fine, fails⟩
  rw [ran] at follows latest ⊢
  generalize (start tasks).run moves = b at going next follows latest ⊢
  generalize b.advance i = b' at next follows latest ⊢
  cases next with
  | idle =>
    exact { going with first := fun earlier j later f cut fine fails =>
      (going.first earlier j later f cut fine fails).more _ }
  | @goes t found unfinished pending =>
    have same : ∀ j, resultAt { b with tasks := b.tasks.set i t.advance } j = b.resultAt j := by
      intro j
      refine (resultAt_set found t.advance b.waiting j).trans ?_
      split
      · rename_i own
        rw [pending, resultAt, ← own, found, Option.bind_some, unfinished]
      · rfl
    refine ⟨follows, going.unended, going.once, ?_, going.looked, going.left, ?_, going.counted, ?_⟩
    · simpa only [same] using going.finished
    · simpa only [same] using going.fine
    · simp only [same]
      exact fun earlier j later f cut fine fails =>
        (going.first earlier j later f cut fine fails).more _
  | @ends t found unfinished ended =>
    have absent : i ∉ seen ++ b.waiting := by
      rw [going.finished, resultAt, found, Option.bind_some, unfinished]
      exact Bool.false_ne_true
    have set := resultAt_set found t.advance (b.waiting ++ [i])
    have same : ∀ j ∈ seen ++ b.waiting,
        resultAt { b with tasks := b.tasks.set i t.advance, waiting := b.waiting ++ [i] } j =
          b.resultAt j := by
      intro j member
      rw [set, if_neg]
      rintro rfl
      exact absent member
    refine ⟨follows, going.unended, ?once, ?finished, going.looked, going.left, ?fine, going.counted,
      ?first⟩
    case once =>
      rw [← List.append_assoc, List.nodup_append]
      refine ⟨going.once, List.nodup_singleton i, fun j member k own => ?_⟩
      rw [List.mem_singleton.mp own]
      rintro rfl
      exact absent member
    case finished =>
      intro j
      rw [← List.append_assoc, List.mem_append, List.mem_singleton, going.finished, set]
      by_cases own : i = j
      · simp [own, ended]
      · simp [own, Ne.symm own]
    case fine =>
      intro j member
      rw [same j (List.mem_append_left _ member)]
      exact going.fine j member
    case first =>
      intro earlier j later f cut fine fails
      obtain rfl | ⟨later, last, rfl⟩ := later.eq_nil_or_concat'
      · -- The latest result is the first failure: it stands behind successes only.
        obtain ⟨rfl, own⟩ := List.append_inj' cut rfl
        obtain rfl := List.singleton_inj.mp own
        refine latest f fails fun k g failed => ?_
        have member : k ∈ seen ++ b.waiting := by
          rw [going.finished, failed]
          rfl
        obtain looked | waits := List.mem_append.mp member
        · rw [going.fine k looked] at failed
          cases failed
        · obtain ⟨n, ok⟩ := fine k waits
          rw [same k member, failed] at ok
          cases ok
      · have before : b.waiting = earlier ++ j :: later := by
          have whole : b.waiting ++ [i] = (earlier ++ j :: later) ++ [last] := by simpa using cut
          exact (List.append_inj' whole rfl).1
        have waits : ∀ k ∈ b.waiting, k ∈ seen ++ b.waiting :=
          fun k member => List.mem_append_right seen member
        rw [same j (waits j (by simp [before]))] at fails
        refine (going.first earlier j later f before ?_ fails).more _
        intro k member
        rw [← same k (waits k (by simp [before, member]))]
        exact fine k member

/-- What a load comes to that has ended after some moves. -/
inductive Returns (tasks : List Task) (moves : List Move) : Except Failure UInt64 → Prop where
  | loaded (all : ∀ (i : Nat) (t : Task), tasks[i]? = some t →
        ((start tasks).run moves).resultAt i = some (.ok t.alone.count)) :
      Returns tasks moves (.ok (tasks.map fun t => t.alone.count).sum)
  | failed {i : Nat} {t : Task} {f : Failure} (first : FailsFirst tasks moves i f)
      (own : tasks[i]? = some t) (alone : t.alone.result? = some (.error f)) :
      Returns tasks moves (.error f)

theorem Returns.more {result : Except Failure UInt64} (returns : Returns tasks moves result)
    (ended : ((start tasks).run moves).outcome.isSome) (move : Move) :
    Returns tasks (moves ++ [move]) result := by
  cases returns with
  | loaded all =>
    refine .loaded ?_
    rwa [run_append, run_ended ended]
  | failed first own alone => exact .failed (first.more move) own alone

/-- The shares of all tasks, in whichever order their results came. -/
theorem sum_shares {order : List Nat} (once : order.Nodup) (inside : ∀ i ∈ order, i < tasks.length)
    (all : order.length = tasks.length) :
    (∀ i < tasks.length, i ∈ order) ∧
      (order.map (share tasks)).sum = (tasks.map fun t => t.alone.count).sum := by
  have subset : order ⊆ List.range tasks.length :=
    fun i member => List.mem_range.mpr (inside i member)
  have perm : order.Perm (List.range tasks.length) :=
    (List.subperm_of_subset once subset).perm_of_length_le (by simp [all])
  have listed : (List.range tasks.length).map (share tasks) = tasks.map fun t => t.alone.count := by
    apply List.ext_getElem
    · simp
    · intro i _ within
      have within : i < tasks.length := by simpa using within
      simp [share_eq (List.getElem?_eq_getElem within)]
  exact ⟨fun i within => perm.mem_iff.mpr (List.mem_range.mpr within),
    listed ▸ (perm.map (share tasks)).sum_eq⟩

theorem Going.collect (fresh : ∀ t ∈ tasks, t.Fresh)
    (going : Going tasks moves ((start tasks).run moves) seen) :
    (∃ seen, Going tasks (moves ++ [.collect]) ((start tasks).run (moves ++ [.collect])) seen) ∨
      ∃ result, ((start tasks).run (moves ++ [.collect])).outcome = some result ∧
        Returns tasks (moves ++ [.collect]) result := by
  have ran : (start tasks).run (moves ++ [.collect]) = ((start tasks).run moves).collect :=
    run_append _ moves [.collect]
  have next := @collect_cases ((start tasks).run moves) fun i waits =>
    (going.finished i).mp (List.mem_append_right seen waits)
  have loaded := @Returns.loaded tasks (moves ++ [.collect])
  rw [ran] at loaded ⊢
  generalize (start tasks).run moves = b at going next loaded ⊢
  generalize b.collect = b' at next loaded ⊢
  cases next with
  | idle =>
    exact .inl ⟨seen, { going with first := fun earlier j later f cut fine fails =>
      (going.first earlier j later f cut fine fails).more _ }⟩
  | @fails i rest f unended next result =>
    have first := going.first [] i rest f next (fun _ member => absurd member List.not_mem_nil) result
    have own := List.getElem?_eq_getElem (going.follows.within (Option.isSome_of_eq_some result))
    exact .inr ⟨_, rfl, .failed (first.more _) own (going.follows.result own result)⟩
  | @counts i rest n unended next result =>
    have own : n = share tasks i := going.follows.share fresh result
    have moved : seen ++ b.waiting = (seen ++ [i]) ++ rest := by simp [next]
    have once : ((seen ++ [i]) ++ rest).Nodup := moved ▸ going.once
    have fine : ∀ j ∈ seen ++ [i], b.resultAt j = some (.ok (share tasks j)) := by
      intro j member
      obtain earlier | latest := List.mem_append.mp member
      · exact going.fine j earlier
      · rw [List.mem_singleton.mp latest, ← own]
        exact result
    have counted : b.total + n = ((seen ++ [i]).map (share tasks)).sum := by
      simp [going.counted, own]
    have inside : ∀ j ∈ seen ++ [i], j < tasks.length :=
      fun j member => going.follows.within (Option.isSome_of_eq_some (fine j member))
    unfold settle at loaded ⊢
    by_cases all : b.seen + 1 = b.tasks.length
    · -- The last result: all were successes, and all counts are in.
      rw [if_pos all] at loaded ⊢
      have length : (seen ++ [i]).length = tasks.length := by
        simp [← going.follows.1, ← all, going.looked]
      obtain ⟨every, sum⟩ := sum_shares (List.Nodup.of_append_left once) inside length
      refine .inr ⟨_, rfl, ?_⟩
      rw [counted, sum]
      refine loaded fun j t given => ?_
      rw [← share_eq given]
      exact fine j (every j (List.getElem?_eq_some_iff.mp given).1)
    · rw [if_neg all] at loaded ⊢
      refine .inl ⟨seen ++ [i], going.follows, unended, once, ?finished, ?looked, ?left, fine, counted,
        ?first⟩
      case finished =>
        intro j
        rw [← moved]
        exact going.finished j
      case looked => simp [going.looked]
      case left =>
        rw [← going.follows.1]
        simpa [going.looked] using all
      case first =>
        intro earlier j later f cut good fails
        have whole := next.trans (congrArg (i :: ·) cut)
        refine (going.first (i :: earlier) j later f whole ?_ fails).more _
        exact List.forall_mem_cons.mpr ⟨⟨n, result⟩, good⟩

/-- After any moves the load goes on, or it has ended as it should. -/
theorem run_cases (fresh : ∀ t ∈ tasks, t.Fresh) (moves : List Move) :
    (∃ seen, Going tasks moves ((start tasks).run moves) seen) ∨
      ∃ result, ((start tasks).run moves).outcome = some result ∧ Returns tasks moves result := by
  induction moves using List.reverseRecOn with
  | nil =>
    cases tasks with
    | nil =>
      refine .inr ⟨.ok 0, rfl, .loaded ?_⟩
      intro i t given
      cases given
    | cons t rest =>
      have none : ∀ i, (start (t :: rest)).resultAt i = none := by
        intro i
        rw [resultAt, start_tasks]
        cases given : (t :: rest)[i]? with
        | none => rfl
        | some own => exact (fresh own (List.mem_of_getElem? given)).result
      refine .inl ⟨[], run_follows _ [], rfl, List.nodup_nil, ?_, rfl, Nat.ne_of_lt (Nat.succ_pos _),
        fun _ member => absurd member List.not_mem_nil, rfl, ?_⟩
      · intro i
        rw [show (start (t :: rest)).run [] = start (t :: rest) from rfl, none]
        simp [start, settle]
      · intro earlier i later f cut
        cases earlier <;> cases cut
  | append_singleton moves move ih =>
    obtain ⟨seen, going⟩ | ⟨result, outcome, returns⟩ := ih
    · cases move with
      | advance i => exact .inl ⟨seen, going.advance i⟩
      | collect => exact going.collect fresh
    · have ended := Option.isSome_of_eq_some outcome
      refine .inr ⟨result, ?_, returns.more ended move⟩
      rwa [run_append, run_ended ended]

end NetIntent.Load.Board
