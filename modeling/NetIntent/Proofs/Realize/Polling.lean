import NetIntent.Proofs.Run
import NetIntent.Realize.Poll

/-! The end of a poll. Its queries are all of one intent path, and the first answer with a verdict
that is not pending ends it; without one it ends when the attempts are used up. Waits, failed queries
and the answers after the end play no part. -/
namespace NetIntent.Realization

variable {σ ω : Type} {world : World σ ω} {path : String} {expected : List Expected}

/-- An answer after which a poll goes on. -/
def Undecided (expected : List Expected) : Except ClientError Response → Prop
  | .error _ => True
  | .ok response => ∃ reason, classify expected response = .pending reason

/-- An answer that ends a poll of a path, and the result that it brings. -/
inductive Decides (path : String) (expected : List Expected) :
    Except ClientError Response → Except RealizeError Unit → Prop where
  | realized {response : Response} (verdict : classify expected response = .realized) :
      Decides path expected (.ok response) (.ok ())
  | failed {response : Response} {messages : List String}
      (verdict : classify expected response = .failed messages) :
      Decides path expected (.ok response) (.error (.state path messages))

theorem Decides.decided {answer : Except ClientError Response} {result : Except RealizeError Unit}
    (decides : Decides path expected answer result) (undecided : Undecided expected answer) : False := by
  cases decides with
  | realized verdict | failed verdict =>
    obtain ⟨_, pending⟩ := undecided
    cases verdict.symm.trans pending

theorem Decides.unique {answer : Except ClientError Response} {result result' : Except RealizeError Unit}
    (decides : Decides path expected answer result) (decides' : Decides path expected answer result') :
    result = result' := by
  cases decides <;> cases decides' <;> simp_all

abbrev queried (path : String) (answer : Except ClientError Response) : Exchange :=
  ⟨.entities path, answer⟩

/-- Answers to the queries of a poll, of which a number is allowed, and the result they bring. -/
inductive Polled (path : String) (expected : List Expected) (allowed : Nat)
    (answers : List (Except ClientError Response)) : Except RealizeError Unit → Prop where
  | decided {before : List (Except ClientError Response)} {last : Except ClientError Response}
      {result : Except RealizeError Unit} (all : answers = before ++ [last])
      (within : answers.length ≤ allowed) (undecided : ∀ a ∈ before, Undecided expected a)
      (decides : Decides path expected last result) : Polled path expected allowed answers result
  | exhausted (spent : answers.length = allowed) (undecided : ∀ a ∈ answers, Undecided expected a) :
      Polled path expected allowed answers (.error .exhausted)

/-- The end of a poll whose queries are answered in turn from a sequence: its result and the number
of queries. -/
inductive Ends (path : String) (expected : List Expected)
    (answers : Nat → Except ClientError Response) (allowed : Nat) :
    Except RealizeError Unit → Nat → Prop where
  | decided {k : Nat} {result : Except RealizeError Unit} (within : k < allowed)
      (first : ∀ i < k, Undecided expected (answers i))
      (decides : Decides path expected (answers k) result) :
      Ends path expected answers allowed result (k + 1)
  | exhausted (undecided : ∀ i < allowed, Undecided expected (answers i)) :
      Ends path expected answers allowed (.error .exhausted) allowed

theorem decision_cases (path : String) (expected : List Expected)
    (answer : Except ClientError Response) :
    (decision path expected answer = none ∧ Undecided expected answer) ∨
      ∃ result, decision path expected answer = some result ∧ Decides path expected answer result := by
  cases answer with
  | error e => exact .inl ⟨rfl, trivial⟩
  | ok response =>
    cases verdict : classify expected response with
    | realized => exact .inr ⟨.ok (), by simp only [decision, verdict], .realized verdict⟩
    | pending reason => exact .inl ⟨by simp only [decision, verdict], reason, verdict⟩
    | failed messages =>
      exact .inr ⟨.error (.state path messages), by simp only [decision, verdict], .failed verdict⟩

theorem Polled.next {allowed : Nat} {answer : Except ClientError Response}
    {answers : List (Except ClientError Response)} {result : Except RealizeError Unit}
    (undecided : Undecided expected answer) (rest : Polled path expected allowed answers result) :
    Polled path expected (allowed + 1) (answer :: answers) result := by
  cases rest with
  | @decided before _ _ all within pending decides =>
    have extended : answer :: answers = (answer :: before) ++ [_] := congrArg (answer :: ·) all
    have pending' := List.forall_mem_cons.mpr ⟨undecided, pending⟩
    exact .decided extended (Nat.succ_le_succ within) pending' decides
  | exhausted spent pending =>
    exact .exhausted (congrArg (· + 1) spent) (List.forall_mem_cons.mpr ⟨undecided, pending⟩)

/-- What a procedure does that only polls a path: its queries and result for any start. -/
def Polls (world : World σ ω) (path : String) (expected : List Expected) (allowed : Nat)
    (p : Procedure σ (Except RealizeError Unit)) : Prop :=
  ∀ state, ∃ answers, p.exchanges world state = answers.map (queried path) ∧
    Polled path expected allowed answers (p.run world state).1

/-- One query, and what follows an answer without verdict. -/
theorem Polls.query {allowed : Nat} {rest : Procedure σ (Except RealizeError Unit)}
    (polls : Polls world path expected allowed rest) :
    Polls world path expected (allowed + 1) (.call (.entities path) fun answer =>
      match decision path expected answer with
      | some result => .done result
      | none => rest) := by
  rintro ⟨s, w⟩
  rcases replied : world.reply (.entities path) w with ⟨answer, after⟩
  obtain ⟨goes, undecided⟩ | ⟨result, ends, decides⟩ := decision_cases path expected answer
  · obtain ⟨answers, made, polled⟩ := polls (s, after)
    refine ⟨answer :: answers, ?_, ?_⟩
    · rw [Procedure.exchanges_call, replied, goes, made, List.map_cons]
    · rw [Procedure.run_call, replied, goes]
      exact polled.next undecided
  · refine ⟨[answer], ?_, ?_⟩
    · rw [Procedure.exchanges_call, replied, ends, Procedure.exchanges_done, List.map_singleton]
    · rw [Procedure.run_call, replied, ends]
      exact .decided (List.nil_append _).symm (Nat.le_add_left _ _) (by simp) decides

theorem attempts_polls (world : World σ ω) (path : String) (expected : List Expected) (left : Nat)
    (b : Backoff) : Polls world path expected left (attempts path expected left b) := by
  induction left generalizing b with
  | zero => exact fun _ => ⟨[], rfl, .exhausted rfl (by simp)⟩
  | succ left ih =>
    unfold attempts wait
    split
    · rintro ⟨s, w⟩
      exact (ih b.grow).query _
    · exact fun state => (ih b.grow).query _

/-- The number of queries that a policy allows. -/
abbrev budget (b : Backoff) : Nat := max 1 b.steps.toNat

theorem poll_polls (world : World σ ω) (b : Backoff) (path : String) (expected : List Expected) :
    Polls world path expected (budget b) (poll b path expected) := by
  have counted : b.steps.toNat - 1 + 1 = budget b := by
    unfold budget
    omega
  rw [← counted]
  exact (attempts_polls world path expected _ b).query

theorem decided_asks {path : String} {rest : Procedure σ (Except RealizeError Unit)}
    (asks : rest.Asks (· = .entities path)) (expected : List Expected)
    (answer : Except ClientError Response) :
    Procedure.Asks (· = .entities path)
      (match decision path expected answer with
        | some result => .done result
        | none => rest) := by
  split
  · trivial
  · exact asks

theorem attempts_asks (path : String) (expected : List Expected) (left : Nat) (b : Backoff) :
    (attempts path expected left b : Procedure σ _).Asks (· = .entities path) := by
  induction left generalizing b with
  | zero => trivial
  | succ left ih =>
    unfold attempts wait
    split
    · exact fun _ => ⟨rfl, decided_asks (ih b.grow) expected⟩
    · exact ⟨rfl, decided_asks (ih b.grow) expected⟩

theorem poll_asks (b : Backoff) (path : String) (expected : List Expected) :
    (poll b path expected : Procedure σ _).Asks (· = .entities path) :=
  ⟨rfl, decided_asks (attempts_asks path expected _ b) expected⟩

/-- Surroundings in which the queries of a path are answered in turn from a sequence, given the number
of queries so far. What else happens does not count as a query. -/
structure Plays (world : World σ ω) (path : String) (asked : ω → Nat)
    (answers : Nat → Except ClientError Response) : Prop where
  reply : ∀ w, (world.reply (.entities path) w).1 = answers (asked w)
  counted : ∀ w, asked (world.reply (.entities path) w).2 = asked w + 1
  chance : ∀ limit w, asked (world.chance limit w).2 = asked w
  note : ∀ entry w, asked (world.note entry w) = asked w
  pass : ∀ span state, asked (world.pass span state).2 = asked state.2

theorem Plays.exchanges {α : Type} {asked : ω → Nat} {answers : Nat → Except ClientError Response}
    (plays : Plays world path asked answers) {p : Procedure σ α} (asks : p.Asks (· = .entities path))
    (state : σ × ω) :
    p.exchanges world state =
      (List.range' (asked state.2) (p.exchanges world state).length).map
        fun i => queried path (answers i) := by
  induction p generalizing state with
  | done => rfl
  | update => exact asks.elim
  | call c rest ih =>
    obtain ⟨rfl, asks⟩ := asks
    obtain ⟨s, w⟩ := state
    have later := ih (world.reply (.entities path) w).1 (asks _) (s, (world.reply (.entities path) w).2)
    rw [plays.counted] at later
    have made : (Procedure.call (.entities path) rest).exchanges world (s, w) =
        queried path (answers (asked w)) :: (rest (world.reply (.entities path) w).1).exchanges world
          (s, (world.reply (.entities path) w).2) := by
      rw [← plays.reply]
      rfl
    rw [made, List.length_cons, List.range'_succ, List.map_cons, ← later]
  | record entry rest ih =>
    have later := ih asks (state.1, world.note entry state.2)
    rwa [plays.note] at later
  | draw limit rest ih =>
    have later := ih (world.chance limit state.2).1 (asks _) (state.1, (world.chance limit state.2).2)
    rwa [plays.chance] at later
  | pause span rest ih =>
    have later := ih asks (world.pass span state)
    rwa [plays.pass] at later
  | enter => exact asks.elim
  | leave => exact asks.elim

namespace Ends

variable {answers answers' : Nat → Except ClientError Response} {allowed k k' : Nat}
  {result result' : Except RealizeError Unit}

theorem of_polled (polled : Polled path expected allowed ((List.range k).map answers) result) :
    Ends path expected answers allowed result k := by
  cases polled with
  | @decided before last _ all within undecided decides =>
    have length : k = before.length + 1 := by simpa using congrArg List.length all
    subst length
    rw [List.range_succ, List.map_append] at all
    obtain ⟨earlier, same⟩ := List.append_inj all (by simp)
    obtain rfl : answers before.length = last := by simpa using same
    have inside : before.length + 1 ≤ allowed := by simpa using within
    refine .decided inside (fun i below => undecided _ ?_) decides
    rw [← earlier]
    exact List.mem_map_of_mem (List.mem_range.mpr below)
  | exhausted spent undecided =>
    obtain rfl : k = allowed := by simpa using spent
    exact .exhausted fun i below => undecided _ (List.mem_map_of_mem (List.mem_range.mpr below))

/-- Only the answers up to the end matter. -/
theorem congr (ends : Ends path expected answers allowed result k)
    (same : ∀ i < k, answers' i = answers i) : Ends path expected answers' allowed result k := by
  cases ends with
  | @decided k _ within first decides =>
    refine .decided within (fun i below => ?_) ?_
    · rw [same i (Nat.lt_succ_of_lt below)]
      exact first i below
    · rwa [same k (Nat.lt_succ_self k)]
  | exhausted undecided =>
    refine .exhausted fun i below => ?_
    rw [same i below]
    exact undecided i below

theorem unique (ends : Ends path expected answers allowed result k)
    (ends' : Ends path expected answers allowed result' k') : result = result' ∧ k = k' := by
  cases ends with
  | @decided k _ within first decides =>
    cases ends' with
    | @decided k' _ _ first' decides' =>
      obtain below | rfl | above := Nat.lt_trichotomy k k'
      · exact (decides.decided (first' k below)).elim
      · exact ⟨decides.unique decides', rfl⟩
      · exact (decides'.decided (first k' above)).elim
    | exhausted undecided => exact (decides.decided (undecided k within)).elim
  | exhausted undecided =>
    cases ends' with
    | @decided k' _ within' _ decides' => exact (decides'.decided (undecided k' within')).elim
    | exhausted => exact ⟨rfl, rfl⟩

end Ends

/-- A poll comes to a result after some queries. They are of its path and get the first answers of a
sequence. -/
def Takes (world : World σ ω) (b : Backoff) (path : String) (expected : List Expected)
    (answers : Nat → Except ClientError Response) (state : σ × ω) (result : Except RealizeError Unit)
    (k : Nat) : Prop :=
  ((poll b path expected).run world state).1 = result ∧
    (poll b path expected).exchanges world state =
      (List.range k).map fun i => queried path (answers i)

section

variable {asked : ω → Nat} {answers : Nat → Except ClientError Response}
  {state : σ × ω} {b : Backoff} {result : Except RealizeError Unit} {k : Nat}

theorem Takes.unique {result' : Except RealizeError Unit} {k' : Nat}
    (takes : Takes world b path expected answers state result k)
    (takes' : Takes world b path expected answers state result' k') : result = result' ∧ k = k' := by
  refine ⟨takes.1.symm.trans takes'.1, ?_⟩
  simpa using congrArg List.length (takes.2.symm.trans takes'.2)

theorem takes_ends (plays : Plays world path asked answers) (fresh : asked state.2 = 0) :
    ∃ result k, Takes world b path expected answers state result k ∧
      Ends path expected answers (budget b) result k := by
  obtain ⟨given, made, polled⟩ := poll_polls world b path expected state
  have asks := @poll_asks σ b path expected
  have played := plays.exchanges asks state
  rw [fresh, ← List.range_eq_range'] at played
  have same : given = (List.range given.length).map answers := by
    rw [made, List.length_map] at played
    exact (List.map_inj_right fun a a' eq => by simpa [queried] using eq).mp
      (played.trans List.map_map.symm)
  rw [made, List.length_map] at played
  rw [same] at polled
  exact ⟨_, given.length, ⟨rfl, made.trans played⟩, .of_polled polled⟩

theorem takes_iff (plays : Plays world path asked answers) (fresh : asked state.2 = 0) :
    Takes world b path expected answers state result k ↔
      Ends path expected answers (budget b) result k := by
  obtain ⟨result', k', takes, ends⟩ := @takes_ends _ _ world path expected _ _ _ b plays fresh
  constructor
  · intro takes'
    obtain ⟨rfl, rfl⟩ := takes.unique takes'
    exact ends
  · intro ends'
    obtain ⟨rfl, rfl⟩ := ends.unique ends'
    exact takes

/-- A poll ends with the first answer that decides, or exhausted after as many queries as its policy
allows. Another policy with as many steps, other surroundings and other answers after the end come to
the same. -/
theorem poll_ends_iff (plays : Plays world path asked answers) (fresh : asked state.2 = 0) :
    (∃ result k, Takes world b path expected answers state result k) ∧
      (∀ result k, Takes world b path expected answers state result k ↔
        Ends path expected answers (budget b) result k) ∧
      ∀ {σ' ω' : Type} {world' : World σ' ω'} {asked' : ω' → Nat} {b' : Backoff}
        {answers' : Nat → Except ClientError Response} {state' : σ' × ω'} {result k},
        Plays world' path asked' answers' → asked' state'.2 = 0 → b'.steps = b.steps →
        Takes world b path expected answers state result k → (∀ i < k, answers' i = answers i) →
          Takes world' b' path expected answers' state' result k := by
  obtain ⟨result, k, takes, _⟩ := @takes_ends _ _ world path expected _ _ _ b plays fresh
  refine ⟨⟨result, k, takes⟩, fun _ _ => takes_iff plays fresh, ?_⟩
  intro σ' ω' world' asked' b' answers' state' result k plays' fresh' steps takes same
  have ends := ((takes_iff plays fresh).mp takes).congr same
  rw [budget, ← steps] at ends
  exact (takes_iff plays' fresh').mpr ends

end

namespace Sample

def entity (state : State) : Entity := ⟨none, some "RealizedLogicalPort", state, []⟩

/-- A response that is pending, a query that fails, then realized responses. -/
def slow : Nat → Except ClientError Response
  | 0 => .ok ⟨[entity .unrealized]⟩
  | 1 => .error (.transport "connection reset")
  | _ => .ok ⟨[entity .realized]⟩

/-- Surroundings that count the queries, whatever path they are of. -/
def counting (answers : Nat → Except ClientError Response) : World Unit Nat where
  reply c n :=
    match c with
    | .entities _ => (answers n, n + 1)
    | _ => (.error (.transport "not reached"), n)
  chance limit n := (limit, n)
  note _ n := n
  pass _ state := state

end Sample

open Sample in
/-- Two attempts without a verdict, one of them a failed query, do not hide the third. -/
theorem realized_at_third_query :
    Plays (counting slow) "/infra/x" id slow ∧ id 0 = 0 ∧
      Takes (counting slow) .standard "/infra/x" [] slow ((), 0) (.ok ()) 3 := by
  have plays : Plays (counting slow) "/infra/x" id slow :=
    ⟨fun _ => rfl, fun _ => rfl, fun _ _ => rfl, fun _ _ => rfl, fun _ _ => rfl⟩
  have first : ∀ i < 2, Undecided [] (slow i)
    | 0, _ => ⟨"RealizedLogicalPort UNREALIZED", by decide⟩
    | 1, _ => trivial
  have third : Decides "/infra/x" [] (slow 2) (.ok ()) := .realized (by decide)
  have ends : Ends "/infra/x" [] slow (budget .standard) (.ok ()) 3 :=
    .decided (by decide) first third
  exact ⟨plays, rfl, ((poll_ends_iff plays rfl).2.1 _ _).mpr ends⟩

end NetIntent.Realization
