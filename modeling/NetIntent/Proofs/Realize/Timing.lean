import Mathlib.Data.List.Forall2
import NetIntent.Proofs.Realize.Polling
import NetIntent.Proofs.Retry.Waits

/-! The timing of a poll whose policy has no jitter. Queries and pauses alternate, from a query to a query,
and each pause is the next wait of the policy, so that all of them stay within the total that the policy
declares and use it up only with the last query allowed. A poll takes nothing from the policy: the next one
under it goes alike. -/
namespace NetIntent

/-- What a clock tells of a run: an exchange with the remote side, or a pause. -/
inductive Beat where
  | exchange (exchange : Exchange)
  | pause (span : Span)

namespace Beat

def pause? : Beat → Option Span
  | .pause span => some span
  | .exchange _ => none

end Beat

namespace Procedure

variable {σ ω α β : Type} {world : World σ ω}

/-- The exchanges and pauses of a run in the order in which they come. -/
def beats (world : World σ ω) : Procedure σ α → σ × ω → List Beat
  | .done _, _ => []
  | .update next rest, (s, w) => (rest s).beats world (next s, w)
  | .call c rest, (s, w) =>
    let (reply, after) := world.reply c w
    .exchange ⟨c, reply⟩ :: (rest reply).beats world (s, after)
  | .record entry rest, (s, w) => rest.beats world (s, world.note entry w)
  | .draw limit rest, (s, w) =>
    let (x, w) := world.chance limit w
    (rest x).beats world (s, w)
  | .pause span rest, state => .pause span :: rest.beats world (world.pass span state)
  | .enter rest, state => rest.beats world state
  | .leave rest, state => rest.beats world state

theorem beats_bind (p : Procedure σ α) (f : α → Procedure σ β) (state : σ × ω) :
    (p.bind f).beats world state =
      p.beats world state ++ (f (p.run world state).1).beats world (p.run world state).2 := by
  induction p generalizing state with
  | done a => rfl
  | update next rest ih => exact ih _ _
  | call c rest ih => exact congrArg (List.cons _) (ih _ _)
  | record entry rest ih => exact ih _
  | draw limit rest ih => exact ih _ _
  | pause span rest ih => exact congrArg (List.cons _) (ih _)
  | enter rest ih => exact ih _
  | leave rest ih => exact ih _

theorem beats_call (c : Call) (rest : c.Reply → Procedure σ α) (s : σ) (w : ω) :
    (call c rest).beats world (s, w) =
      .exchange ⟨c, (world.reply c w).1⟩ ::
        (rest (world.reply c w).1).beats world (s, (world.reply c w).2) := rfl

end Procedure

namespace Realization

variable {σ ω : Type} {world : World σ ω} {path : String} {expected : List Expected} {b : Backoff}

/-- Further attempts, each after the next wait of a policy, with the answers they get. -/
def retries (path : String) : Backoff → List (Except ClientError Response) → List Beat
  | _, [] => []
  | b, answer :: rest => .pause b.duration :: .exchange (queried path answer) :: retries path b.grow rest

theorem retries_length (b : Backoff) (answers : List (Except ClientError Response)) :
    (retries path b answers).length = 2 * answers.length := by
  induction answers generalizing b with
  | nil => rfl
  | cons answer rest ih =>
    rw [retries, List.length_cons, List.length_cons, List.length_cons, ih]
    omega

theorem retries_pauses (b : Backoff) (answers : List (Except ClientError Response)) :
    (retries path b answers).filterMap Beat.pause? = b.waits answers.length := by
  induction answers generalizing b with
  | nil => rfl
  | cons answer rest ih =>
    rw [List.length_cons, Backoff.waits_succ, ← ih]
    rfl

theorem retries_pause (b : Backoff) {answers : List (Except ClientError Response)} {i : Nat}
    (below : i < answers.length) : (retries path b answers)[2 * i]? = some (.pause (b.base i)) := by
  induction answers generalizing b i with
  | nil => exact absurd below (Nat.not_lt_zero i)
  | cons answer rest ih =>
    cases i with
    | zero => rfl
    | succ i =>
      rw [Backoff.base_succ, ← ih b.grow (Nat.lt_of_succ_lt_succ below)]
      rfl

theorem retries_query (b : Backoff) {answers : List (Except ClientError Response)} {i : Nat}
    (below : i < answers.length) :
    (retries path b answers)[2 * i + 1]? = some (.exchange (queried path answers[i])) := by
  induction answers generalizing b i with
  | nil => exact absurd below (Nat.not_lt_zero i)
  | cons answer rest ih =>
    cases i with
    | zero => rfl
    | succ i => exact ih b.grow (Nat.lt_of_succ_lt_succ below)

/-- The attempts after the first one pause, query and go on while they are allowed and undecided. -/
theorem attempts_beats (plain : b.isJittered = false) (left : Nat) (state : σ × ω) :
    ∃ answers, answers.length ≤ left ∧
      (attempts path expected left b).beats world state = retries path b answers := by
  induction left generalizing b state with
  | zero => exact ⟨[], Nat.le_refl 0, rfl⟩
  | succ left ih =>
    have delay : b.delay 0.0 = b.duration := by simp [Backoff.delay, plain]
    unfold attempts wait
    rw [plain, if_neg Bool.false_ne_true, delay]
    rcases passed : world.pass b.duration state with ⟨s, w⟩
    rcases replied : world.reply (.entities path) w with ⟨answer, after⟩
    obtain ⟨answers, within, made⟩ := ih (Backoff.grow_isJittered.trans plain) (s, after)
    cases ends : decision path expected answer with
    | some result =>
      refine ⟨[answer], Nat.le_add_left 1 left, ?_⟩
      rw [Procedure.beats, passed, Procedure.beats_call, replied, ends]
      rfl
    | none =>
      refine ⟨answer :: answers, Nat.succ_le_succ within, ?_⟩
      rw [Procedure.beats, passed, Procedure.beats_call, replied, ends, retries, ← made]

theorem poll_beats (plain : b.isJittered = false) (path : String) (expected : List Expected) (state : σ × ω) :
    ∃ first answers, answers.length < budget b ∧
      (poll b path expected).beats world state = .exchange (queried path first) :: retries path b answers := by
  obtain ⟨s, w⟩ := state
  rcases replied : world.reply (.entities path) w with ⟨answer, after⟩
  obtain ⟨answers, within, made⟩ :=
    @attempts_beats _ _ world path expected b plain (b.steps.toNat - 1) (s, after)
  have allowed : b.steps.toNat - 1 < budget b := by
    unfold budget
    omega
  cases ends : decision path expected answer with
  | some result =>
    refine ⟨answer, [], Nat.lt_of_le_of_lt (Nat.zero_le _) allowed, ?_⟩
    rw [poll, Procedure.beats_call, replied, ends]
    rfl
  | none =>
    refine ⟨answer, answers, Nat.lt_of_le_of_lt within allowed, ?_⟩
    rw [poll, Procedure.beats_call, replied, ends, ← made]

/-- The course of a poll with some number of queries. -/
structure Paced (b : Backoff) (path : String) (course : List Beat) (queries : Nat) : Prop where
  first : 0 < queries
  allowed : queries ≤ budget b
  length : course.length = 2 * queries - 1
  query : ∀ i < queries, ∃ answer, course[2 * i]? = some (.exchange (queried path answer))
  pause : ∀ i < queries - 1, course[2 * i + 1]? = some (.pause (b.base i))
  pauses : course.filterMap Beat.pause? = b.waits (queries - 1)
  within : (Span.sum (course.filterMap Beat.pause?)).nanos ≤ b.maxTotal.nanos
  full : queries = budget b → Span.sum (course.filterMap Beat.pause?) = b.maxTotal

theorem poll_paced (plain : b.isJittered = false) (path : String) (expected : List Expected) (state : σ × ω) :
    ∃ queries, Paced b path ((poll b path expected).beats world state) queries := by
  obtain ⟨first, answers, within, made⟩ := @poll_beats _ _ world b plain path expected state
  have spent : answers.length ≤ b.steps.toNat - 1 := by
    unfold budget at within
    omega
  have pauses : (Beat.exchange (queried path first) :: retries path b answers).filterMap Beat.pause? =
      b.waits answers.length := retries_pauses b answers
  rw [made]
  refine ⟨answers.length + 1, Nat.succ_pos _, within, ?_, ?_, ?_, pauses, ?_, ?_⟩
  · rw [List.length_cons, retries_length]
    omega
  · rintro (_ | i) below
    · exact ⟨first, rfl⟩
    · exact ⟨_, retries_query b (Nat.lt_of_succ_lt_succ below)⟩
  · intro i below
    exact retries_pause b below
  · rw [pauses]
    exact Backoff.sum_waits_le plain spent
  · intro all
    have same : answers.length = b.steps.toNat - 1 := by
      unfold budget at all
      omega
    rw [pauses, Backoff.maxTotal_eq plain, same]

/-- Polls in turn under the policy that the caller keeps in its state, whatever they come to. -/
def pollEach (policy : σ → Backoff) : List (String × List Expected) → Procedure σ Unit
  | [] => .done ()
  | (path, expected) :: rest =>
    .read fun s => (poll (policy s) path expected).bind fun _ => pollEach policy rest

theorem pollEach_paced {policy : σ → Backoff} {s : σ} (quiet : world.Quiet)
    (plain : (policy s).isJittered = false) (targets : List (String × List Expected)) (w : ω) :
    ((pollEach policy targets).run world (s, w)).2.1 = s ∧
      ∃ courses : List (List Beat), (pollEach policy targets).beats world (s, w) = courses.flatten ∧
        List.Forall₂ (fun target course => ∃ queries, Paced (policy s) target.1 course queries)
          targets courses := by
  induction targets generalizing w with
  | nil => exact ⟨rfl, [], rfl, .nil⟩
  | cons target rest ih =>
    obtain ⟨path, expected⟩ := target
    have asks := @poll_asks σ (policy s) path expected
    have still := (asks.still quiet s w).1
    rcases ended : (poll (policy s) path expected).run world (s, w) with ⟨result, s', after⟩
    rw [ended] at still
    obtain rfl : s' = s := still
    obtain ⟨kept, courses, made, paced⟩ := ih after
    refine ⟨?_, (poll (policy s') path expected).beats world (s', w) :: courses, ?_, ?_⟩
    · rw [pollEach, Procedure.run_read, Procedure.run_bind, ended]
      exact kept
    · show ((poll (policy s') path expected).bind fun _ => pollEach policy rest).beats world (s', w) = _
      rw [Procedure.beats_bind, ended, made, List.flatten_cons]
    · exact .cons (poll_paced plain path expected (s', w)) paced

/-- Under a policy without jitter every poll keeps to its waits and within its declared total, which the
queries use up only if they are as many as allowed; and a caller that polls again and again finds its policy
as it was, so that each of its polls does so. -/
theorem polls_keep_to_policy (b : Backoff) (plain : b.isJittered = false) :
    (∀ (world : World σ ω) path expected state, ∃ queries,
      Paced b path ((poll b path expected).beats world state) queries) ∧
    ∀ (world : World σ ω) (policy : σ → Backoff) (s : σ), world.Quiet → policy s = b → ∀ targets w,
      ((pollEach policy targets).run world (s, w)).2.1 = s ∧
        ∃ courses : List (List Beat), (pollEach policy targets).beats world (s, w) = courses.flatten ∧
          List.Forall₂ (fun target course => ∃ queries, Paced b target.1 course queries) targets courses := by
  refine ⟨fun world path expected state => poll_paced plain path expected state, ?_⟩
  rintro world policy s quiet rfl targets w
  exact pollEach_paced quiet plain targets w

namespace Sample

/-- A caller whose state is a policy, where the third query is the first that decides. -/
def keeping : World Backoff Nat where
  reply := (counting slow).reply
  chance := (counting slow).chance
  note := (counting slow).note
  pass _ state := state

def targets : List (String × List Expected) := [("/infra/x", []), ("/infra/x", [])]

end Sample

open Sample in
/-- Two attempts without a verdict and a third that decides take two pauses, the second twice as long; a poll
after that needs one query and does not pause. -/
theorem paced_through_two_polls :
    Backoff.subnet.isJittered = false ∧ keeping.Quiet ∧ id Backoff.subnet = .subnet ∧
      Paced .subnet "/infra/x" ((poll .subnet "/infra/x" []).beats keeping (.subnet, 0)) 3 ∧
      ((pollEach id targets).beats keeping (.subnet, 0)).filterMap Beat.pause? = [.ofSecs 1, .ofSecs 2] ∧
      ((pollEach id targets).run keeping (.subnet, 0)).2.1 = .subnet ∧
      ∃ courses : List (List Beat), (pollEach id targets).beats keeping (.subnet, 0) = courses.flatten ∧
        List.Forall₂ (fun target course => ∃ queries, Paced .subnet target.1 course queries)
          targets courses := by
  have plain : Backoff.subnet.isJittered = false := by decide
  have quiet : keeping.Quiet := fun _ _ _ => rfl
  have keeps := @polls_keep_to_policy Backoff Nat .subnet plain
  obtain ⟨queries, paced⟩ := keeps.1 keeping "/infra/x" [] (.subnet, 0)
  have length : ((poll .subnet "/infra/x" []).beats keeping (.subnet, 0)).length = 5 := by decide
  obtain rfl : queries = 3 := by
    have counted := paced.length
    omega
  refine ⟨plain, quiet, rfl, paced, by decide +kernel, ?_⟩
  exact keeps.2 keeping id .subnet quiet rfl targets 0

end Realization

end NetIntent
