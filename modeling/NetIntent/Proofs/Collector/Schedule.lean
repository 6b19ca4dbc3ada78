import Mathlib.Algebra.GroupWithZero.Nat
import Mathlib.Order.Monotone.Basic
import NetIntent.Collector.Runner

/-! The schedule of a runner. Each round is due an interval after the end of the one before it. A runner that is
never cancelled runs every round when it is due; a cancellation lets the round in progress end, allows no other,
and ends a wait at once. An interval of zero allows a single round. -/
namespace NetIntent.Collector

/-- A runner's interval, the time at which it is started, and how long its rounds take. -/
structure Plan where
  start : Nat
  interval : Nat
  length : Nat → Nat

namespace Plan

variable {p : Plan} {j k n : Nat}

/-- When a round is due: after an interval for itself and for each round before it, and after these rounds. -/
def scheduled (p : Plan) (k : Nat) : Nat :=
  p.start + (k + 1) * p.interval + ((List.range k).map p.length).sum

/-- When a round is over that starts when it is due. -/
def ends (p : Plan) (k : Nat) : Nat := p.scheduled k + p.length k

/-- When the wait for a round begins. -/
def idleFrom (p : Plan) (k : Nat) : Nat := p.start + k * p.interval + ((List.range k).map p.length).sum

theorem scheduled_eq (p : Plan) (k : Nat) : p.scheduled k = p.idleFrom k + p.interval := by
  rw [scheduled, idleFrom, Nat.add_mul, Nat.one_mul]
  omega

theorem idleFrom_zero (p : Plan) : p.idleFrom 0 = p.start := by simp [idleFrom]

/-- The wait for the next round begins when a round is over. -/
theorem idleFrom_succ (p : Plan) (k : Nat) : p.idleFrom (k + 1) = p.ends k := by
  rw [ends, scheduled, idleFrom, List.range_succ, List.map_append, List.sum_append, List.map_singleton,
    List.sum_singleton]
  omega

theorem idleFrom_mono (p : Plan) : Monotone p.idleFrom := by
  refine monotone_nat_of_le_succ fun k => ?_
  rw [idleFrom_succ, ends, scheduled_eq]
  omega

theorem scheduled_mono (p : Plan) : Monotone p.scheduled := by
  intro j k order
  rw [scheduled_eq, scheduled_eq]
  exact Nat.add_le_add_right (p.idleFrom_mono order) _

theorem ends_mono (p : Plan) : Monotone p.ends := by
  intro j k order
  rw [← idleFrom_succ, ← idleFrom_succ]
  exact p.idleFrom_mono (Nat.succ_le_succ order)

/-- Rounds before another are over when the wait for that begins. -/
theorem ends_le_idleFrom (order : j < k) : p.ends j ≤ p.idleFrom k := by
  rw [← idleFrom_succ]
  exact p.idleFrom_mono order

/-- The starts of the first rounds, the latest first. -/
def starts (p : Plan) (n : Nat) : List Nat := ((List.range n).map p.scheduled).reverse

@[simp] theorem starts_length : (p.starts n).length = n := by simp [starts]

theorem starts_succ : p.starts (n + 1) = p.scheduled n :: p.starts n := by simp [starts, List.range_succ]

/-- A runner that waits for a round. -/
def waitingFor (p : Plan) (cancelled : Option Nat) (k : Nat) : Runner :=
  ⟨p.interval, .waiting (p.idleFrom k) (p.scheduled k), cancelled, p.starts k, k⟩

/-- A runner in a round. -/
def inRound (p : Plan) (cancelled : Option Nat) (k : Nat) : Runner :=
  ⟨p.interval, .collecting (p.ends k), cancelled, p.starts (k + 1), k⟩

/-- A runner that returned after some rounds. -/
def returned (p : Plan) (cancelled : Option Nat) (k time : Nat) : Runner :=
  ⟨p.interval, .stopped time, cancelled, p.starts k, k⟩

def begin (p : Plan) : Runner := .start p.interval p.start

theorem begin_eq (p : Plan) : p.begin = p.waitingFor none 0 := by
  simp [begin, Runner.start, waitingFor, idleFrom, scheduled, starts]

end Plan

namespace Runner

variable {length : Nat → Nat} {now fuel due : Nat} {r : Runner}

theorem changes_due (next : r.due? = some due) (before : due < now) :
    changes length now (fuel + 1) r = changes length now fuel (r.change (length r.started.length)) := by
  rw [changes, next]
  exact if_pos before

theorem changes_later (next : r.due? = some due) (later : now ≤ due) : changes length now fuel r = r := by
  cases fuel with
  | zero => rfl
  | succ fuel =>
    rw [changes, next]
    exact if_neg (Nat.not_lt.mpr later)

theorem changes_idle (idle : r.due? = none) : changes length now fuel r = r := by
  cases fuel with
  | zero => rfl
  | succ fuel => rw [changes, idle]

end Runner

namespace Plan

open Runner

variable {p : Plan} {cancelled : Option Nat} {c k now fuel : Nat}

/-! What becomes of a wait and of a round at their ends. -/

theorem waitingFor_ends : (p.waitingFor none k).change (p.length k) = p.inRound none k := by
  rw [inRound, starts_succ]
  rfl

theorem waitingFor_cut (cut : c < p.scheduled k) (taken : Nat) :
    (p.waitingFor (some c) k).due? = some (max (p.idleFrom k) c) ∧
      (p.waitingFor (some c) k).change taken = p.returned (some c) k (max (p.idleFrom k) c) := by
  have made : (p.waitingFor (some c) k).cut? (p.idleFrom k) (p.scheduled k) =
      some (max (p.idleFrom k) c) := if_pos cut
  refine ⟨?_, ?_⟩
  · show some (((p.waitingFor (some c) k).cut? _ _).getD _) = _
    rw [made]
    rfl
  · rw [waitingFor] at made ⊢
    simp only [Runner.change, made]
    rfl

theorem inRound_ends (positive : 0 < p.interval) (taken : Nat) :
    (p.inRound cancelled k).change taken = p.waitingFor cancelled (k + 1) := by
  have again : p.interval ≠ 0 := Nat.ne_of_gt positive
  rw [change, waitingFor, scheduled_eq, idleFrom_succ]
  simp [inRound, again]

theorem inRound_ends_once (once : p.interval = 0) (taken : Nat) :
    (p.inRound cancelled k).change taken = p.returned cancelled (k + 1) (p.ends k) := by
  rw [change]
  simp [inRound, returned, once]

theorem due_waitingFor : (p.waitingFor none k).due? = some (p.scheduled k) := rfl

theorem changes_waitingFor (before : p.scheduled k < now) :
    changes p.length now (fuel + 1) (p.waitingFor none k) = changes p.length now fuel (p.inRound none k) := by
  rw [changes_due due_waitingFor before, ← waitingFor_ends]
  exact congrArg (fun n => changes p.length now fuel ((p.waitingFor none k).change (p.length n))) starts_length

/-- A runner that is not cancelled, as far as it has come before a time. -/
inductive Reached (p : Plan) (now : Nat) : Runner → Prop where
  | waiting (k : Nat) (begun : k = 0 ∨ p.idleFrom k < now) (until_ : now ≤ p.scheduled k) :
      Reached p now (p.waitingFor none k)
  | inRound (k : Nat) (begun : p.scheduled k < now) (until_ : now ≤ p.ends k) :
      Reached p now (p.inRound none k)

/-- Each wait takes time, so that two changes for each moment that is left are enough. -/
theorem changes_reached (positive : 0 < p.interval) (fuel k : Nat) :
    (2 * (now - p.idleFrom k) < fuel → (k = 0 ∨ p.idleFrom k < now) →
      p.Reached now (changes p.length now fuel (p.waitingFor none k))) ∧
    (2 * (now - p.ends k) + 1 < fuel → p.scheduled k < now →
      p.Reached now (changes p.length now fuel (p.inRound none k))) := by
  have wait := p.scheduled_eq k
  have round : p.ends k = p.scheduled k + p.length k := rfl
  induction fuel generalizing k with
  | zero =>
    constructor
    · exact fun enough => absurd enough (Nat.not_lt_zero _)
    · exact fun enough => absurd enough (Nat.not_lt_zero _)
  | succ fuel ih =>
    constructor
    · intro enough begun
      by_cases before : p.scheduled k < now
      · rw [changes_waitingFor before]
        exact (ih k wait round).2 (by omega) before
      · rw [changes_later due_waitingFor (Nat.le_of_not_lt before)]
        exact .waiting k begun (Nat.le_of_not_lt before)
    · intro enough begun
      have due : (p.inRound none k).due? = some (p.ends k) := rfl
      by_cases before : p.ends k < now
      · have next := p.idleFrom_succ k
        rw [changes_due due before, inRound_ends positive]
        exact (ih (k + 1) (p.scheduled_eq _) rfl).1 (by omega) (.inr (by omega))
      · rw [changes_later due (Nat.le_of_not_lt before)]
        exact .inRound k begun (Nat.le_of_not_lt before)

theorem before_reached (positive : 0 < p.interval) (now : Nat) :
    p.Reached now (p.begin.before p.length now) := by
  rw [begin_eq]
  exact (changes_reached positive _ 0).1 (by omega) (.inl rfl)

/-- What a runner has done before a time, if it runs some of the rounds. -/
structure Progress (p : Plan) (runs : Nat → Prop) (now : Nat) (r : Runner) : Prop where
  started : ∃ n, r.started.reverse = (List.range n).map p.scheduled ∧
    ∀ k, k < n ↔ runs k ∧ p.scheduled k < now
  finished : ∀ k, k < r.rounds ↔ runs k ∧ p.ends k < now
  alone : r.started.length ≤ r.rounds + 1

/-- What holds of the first numbers only is told by the last of them and the one after it. -/
theorem lt_iff_of_last {holds : Nat → Prop} (earlier : ∀ j k, j ≤ k → holds k → holds j) {n : Nat}
    (last : ∀ k, k + 1 = n → holds k) (next : ¬holds n) (k : Nat) : k < n ↔ holds k := by
  constructor
  · intro below
    cases n with
    | zero => exact absurd below (Nat.not_lt_zero k)
    | succ n => exact earlier k n (Nat.le_of_lt_succ below) (last n rfl)
  · intro held
    by_contra above
    exact next (earlier n k (Nat.le_of_not_lt above) held)

/-- Rounds begin and end in their order. -/
theorem Progress.of_last {runs : Nat → Prop} {r : Runner} (n m : Nat)
    (earlier : ∀ j k, j ≤ k → runs k → runs j) (started : r.started = p.starts n) (rounds : r.rounds = m)
    (alone : n ≤ m + 1) (begun : ∀ k, k + 1 = n → runs k ∧ p.scheduled k < now)
    (next : ¬(runs n ∧ p.scheduled n < now)) (ended : ∀ k, k + 1 = m → runs k ∧ p.ends k < now)
    (going : ¬(runs m ∧ p.ends m < now)) : p.Progress runs now r where
  started := by
    refine ⟨n, by rw [started, starts, List.reverse_reverse], lt_iff_of_last ?_ begun next⟩
    exact fun j k order held =>
      ⟨earlier j k order held.1, Nat.lt_of_le_of_lt (p.scheduled_mono order) held.2⟩
  finished := by
    rw [rounds]
    refine lt_iff_of_last ?_ ended going
    exact fun j k order held => ⟨earlier j k order held.1, Nat.lt_of_le_of_lt (p.ends_mono order) held.2⟩
  alone := by rwa [started, starts_length, rounds]

/-- A round is due before it is over, and the wait for the next one begins when it is. -/
theorem ends_last {j : Nat} (last : j + 1 = k) : p.scheduled j ≤ p.ends j ∧ p.ends j = p.idleFrom k := by
  subst last
  exact ⟨Nat.le_add_right _ _, (p.idleFrom_succ j).symm⟩

theorem Reached.progress {r : Runner} {runs : Nat → Prop} (reached : p.Reached now r)
    (earlier : ∀ j k, j ≤ k → runs k → runs j) (all : ∀ k, p.scheduled k < now → runs k) :
    p.Progress runs now r := by
  cases reached with
  | waiting k begun until_ =>
    have due : p.scheduled k ≤ p.ends k := Nat.le_add_right _ _
    have before : ∀ j, j + 1 = k → p.scheduled j < now ∧ p.ends j < now := by
      intro j last
      have := p.ends_last last
      omega
    refine .of_last k k earlier rfl rfl (Nat.le_succ k) ?_ (fun next => ?_) ?_ (fun ended => ?_)
    · exact fun j last => ⟨all j (before j last).1, (before j last).1⟩
    · exact absurd next.2 (Nat.not_lt.mpr until_)
    · exact fun j last => ⟨all j (before j last).1, (before j last).2⟩
    · exact absurd ended.2 (Nat.not_lt.mpr (until_.trans due))
  | inRound k begun until_ =>
    have wait := p.scheduled_eq k
    have following := p.scheduled_eq (k + 1)
    rw [idleFrom_succ] at following
    refine .of_last (k + 1) k earlier rfl rfl (Nat.le_refl (k + 1)) (fun j last => ?_) (fun next => ?_)
      (fun j last => ?_) (fun ended => ?_)
    · obtain rfl := Nat.succ.inj last
      exact ⟨all j begun, begun⟩
    · omega
    · have := p.ends_last last
      exact ⟨all j (by omega), by omega⟩
    · exact absurd ended.2 (Nat.not_lt.mpr until_)

theorem Reached.running {r : Runner} (reached : p.Reached now r) :
    r.hasStopped = false ∧ ∀ time, r.phase ≠ .stopped time := by
  cases reached <;> exact ⟨rfl, nofun⟩

/-- The runner at a time, if it is cancelled at some time or never. -/
def state (p : Plan) (cancel? : Option Nat) (now : Nat) : Runner :=
  match cancel? with
  | some c =>
    if c < now then ((p.begin.before p.length c).cancel c).before p.length now
    else p.begin.before p.length now
  | none => p.begin.before p.length now

/-- A runner that was cancelled at a time, some time after. -/
inductive Cancelled (p : Plan) (c now : Nat) : Runner → Prop where
  | inWait (k : Nat) (begun : p.idleFrom k < c ∨ k = 0) (undue : c < p.scheduled k) :
      Cancelled p c now (p.returned (some c) k c)
  | inRound (k : Nat) (begun : p.scheduled k < c) (going : c ≤ p.ends k) (until_ : now ≤ p.ends k) :
      Cancelled p c now (p.inRound (some c) k)
  | afterRound (k : Nat) (begun : p.scheduled k < c) (going : c ≤ p.ends k) (ended : p.ends k < now) :
      Cancelled p c now (p.returned (some c) (k + 1) (p.ends k))

theorem state_cancelled (positive : 0 < p.interval) (from_ : p.start ≤ c) (apart : ∀ k, c ≠ p.scheduled k)
    (later : c < now) : p.Cancelled c now (p.state (some c) now) := by
  have reached := p.before_reached positive c
  rw [state, if_pos later]
  generalize p.begin.before p.length c = r at reached
  cases reached with
  | waiting k begun until_ =>
    have since : p.idleFrom k ≤ c := by
      rcases begun with rfl | begun
      · rwa [idleFrom_zero]
      · exact Nat.le_of_lt begun
    have undue : c < p.scheduled k := Nat.lt_of_le_of_ne until_ (apart k)
    have cut := @waitingFor_cut p c k undue
    rw [Nat.max_eq_right since] at cut
    show p.Cancelled c now (changes p.length now (2 * now + 4) (p.waitingFor (some c) k))
    rw [changes_due (cut 0).1 later, (cut _).2, changes_idle rfl]
    exact .inWait k begun.symm undue
  | inRound k begun until_ =>
    have due : (p.inRound (some c) k).due? = some (p.ends k) := rfl
    show p.Cancelled c now (changes p.length now (2 * now + 4) (p.inRound (some c) k))
    by_cases ended : p.ends k < now
    · have next := p.scheduled_eq (k + 1)
      rw [idleFrom_succ] at next
      have cut := @waitingFor_cut p c (k + 1) (by omega)
      rw [idleFrom_succ, Nat.max_eq_left until_] at cut
      rw [changes_due due ended, inRound_ends positive, changes_due (cut 0).1 ended, (cut _).2, changes_idle rfl]
      exact .afterRound k begun until_ ended
    · rw [changes_later due (Nat.le_of_not_lt ended)]
      exact .inRound k begun until_ (Nat.le_of_not_lt ended)

theorem Cancelled.progress {r : Runner} (cancelled : p.Cancelled c now r) (later : c < now) :
    p.Progress (p.scheduled · < c) now r := by
  have earlier : ∀ j k, j ≤ k → p.scheduled k < c → p.scheduled j < c :=
    fun j k order held => Nat.lt_of_le_of_lt (p.scheduled_mono order) held
  cases cancelled with
  | inWait k begun undue =>
    refine .of_last k k earlier rfl rfl (Nat.le_succ k) (fun j last => ?_) (fun next => ?_) (fun j last => ?_)
      (fun ended => ?_)
    · have := p.ends_last last
      omega
    · exact absurd next.1 (Nat.not_lt.mpr undue.le)
    · have := p.ends_last last
      omega
    · exact absurd ended.1 (Nat.not_lt.mpr undue.le)
  | inRound k begun going until_ =>
    have wait := p.scheduled_eq k
    have following := p.scheduled_eq (k + 1)
    rw [idleFrom_succ] at following
    refine .of_last (k + 1) k earlier rfl rfl (Nat.le_refl (k + 1)) (fun j last => ?_) (fun next => ?_)
      (fun j last => ?_) (fun ended => ?_)
    · obtain rfl := Nat.succ.inj last
      exact ⟨begun, begun.trans later⟩
    · omega
    · have := p.ends_last last
      omega
    · exact absurd ended.2 (Nat.not_lt.mpr until_)
  | afterRound k begun going ended =>
    have following := p.scheduled_eq (k + 1)
    rw [idleFrom_succ] at following
    refine .of_last (k + 1) (k + 1) earlier rfl rfl (Nat.le_succ (k + 1)) (fun j last => ?_) (fun next => ?_)
      (fun j last => ?_) (fun ended => ?_)
    · obtain rfl := Nat.succ.inj last
      exact ⟨begun, begun.trans later⟩
    · omega
    · obtain rfl := Nat.succ.inj last
      exact ⟨begun, ended⟩
    · have : p.scheduled (k + 1) < c := ended.1
      omega

/-- When a runner returns that is cancelled at a time: then, or when the round in progress is over. -/
inductive Returns (p : Plan) (c : Nat) : Nat → Prop where
  | atOnce (idle : ∀ k, ¬(p.scheduled k < c ∧ c < p.ends k)) : Returns p c c
  | afterRound (k : Nat) (begun : p.scheduled k < c) (going : c < p.ends k) : Returns p c (p.ends k)

/-- Only one round can be in progress at a time. -/
theorem progress_unique {j : Nat} (begun : p.scheduled j < c) (going : c < p.ends j)
    (begun' : p.scheduled k < c) (going' : c ≤ p.ends k) : j = k := by
  rcases Nat.lt_trichotomy j k with before | same | after
  · have ended := p.ends_le_idleFrom before
    have wait := p.scheduled_eq k
    omega
  · exact same
  · have ended := p.ends_le_idleFrom after
    have wait := p.scheduled_eq j
    omega

theorem returns_exists (p : Plan) (c : Nat) : ∃ time, p.Returns c time := by
  by_cases busy : ∃ k, p.scheduled k < c ∧ c < p.ends k
  · obtain ⟨k, begun, going⟩ := busy
    exact ⟨_, .afterRound k begun going⟩
  · exact ⟨c, .atOnce fun k during => busy ⟨k, during⟩⟩

theorem Returns.le {time : Nat} (returns : p.Returns c time) : c ≤ time := by
  cases returns with
  | atOnce => exact Nat.le_refl c
  | afterRound k begun going => exact Nat.le_of_lt going

theorem Cancelled.stopped_iff {r : Runner} {time : Nat} (cancelled : p.Cancelled c now r) (later : c < now)
    (returns : p.Returns c time) (t : Nat) : r.phase = .stopped t ↔ t = time ∧ time < now := by
  have stopped : ∀ t', Phase.stopped t' = .stopped t ↔ t = t' := by
    intro t'
    rw [Phase.stopped.injEq, eq_comm]
  cases returns with
  | atOnce idle =>
    cases cancelled with
    | inWait k => exact (stopped c).trans (and_iff_left later).symm
    | inRound k begun going until_ => exact absurd ⟨begun, by omega⟩ (idle k)
    | afterRound k begun going ended =>
      have same : p.ends k = c := by
        have := idle k
        omega
      exact (stopped _).trans (by rw [same, and_iff_left later])
  | afterRound j begun going =>
    cases cancelled with
    | inWait k after undue =>
      rcases Nat.lt_or_ge j k with before | order
      · have ended := p.ends_le_idleFrom before
        omega
      · have due := p.scheduled_mono order
        omega
    | inRound k begun' going' until_ =>
      obtain rfl := progress_unique begun going begun' going'
      exact ⟨nofun, fun held => absurd held.2 (Nat.not_lt.mpr until_)⟩
    | afterRound k begun' going' ended =>
      obtain rfl := progress_unique begun going begun' going'
      exact (stopped _).trans (and_iff_left ended).symm

/-- A runner with an interval of zero runs one round and returns. -/
theorem state_once (once : p.interval = 0) (now : Nat) :
    p.Progress (· = 0) now (p.state none now) ∧
      ∀ t, (p.state none now).phase = .stopped t ↔ t = p.ends 0 ∧ p.ends 0 < now := by
  have order : p.scheduled 0 ≤ p.ends 0 := Nat.le_add_right _ _
  have earlier : ∀ j k : Nat, j ≤ k → k = 0 → j = 0 := fun j k order last => by omega
  rw [state, begin_eq, before]
  by_cases begun : p.scheduled 0 < now
  · rw [changes_waitingFor begun]
    have due : (p.inRound none 0).due? = some (p.ends 0) := rfl
    by_cases ended : p.ends 0 < now
    · rw [changes_due due ended, inRound_ends_once once, changes_idle rfl]
      refine ⟨.of_last 1 1 earlier rfl rfl (Nat.le_succ 1) (fun k last => ?_) nofun (fun k last => ?_) nofun,
        ?_⟩
      · obtain rfl := Nat.succ.inj last
        exact ⟨rfl, begun⟩
      · obtain rfl := Nat.succ.inj last
        exact ⟨rfl, ended⟩
      · intro t
        rw [and_iff_left ended, returned, Phase.stopped.injEq, eq_comm]
    · rw [changes_later due (Nat.le_of_not_lt ended)]
      refine ⟨.of_last 1 0 earlier rfl rfl (Nat.le_refl 1) (fun k last => ?_) nofun nofun
        fun held => ended held.2, fun t => ⟨nofun, fun held => absurd held.2 ended⟩⟩
      obtain rfl := Nat.succ.inj last
      exact ⟨rfl, begun⟩
  · rw [changes_later due_waitingFor (Nat.le_of_not_lt begun)]
    refine ⟨.of_last 0 0 earlier rfl rfl (Nat.zero_le 1) nofun (fun held => begun held.2) nofun
      (fun held => begun (by omega)), fun t => ⟨nofun, fun held => absurd held.2 (by omega)⟩⟩

/-- Rounds run when they are due, one at a time and each to its end, until a cancellation; then the runner
returns, after the round in progress if there is one. Without a cancellation it does not return, unless its
interval is zero: then it returns after its only round. -/
theorem rounds_run_as_scheduled (p : Plan) :
    (0 < p.interval →
      (∀ now, p.Progress (fun _ => True) now (p.state none now) ∧ (p.state none now).hasStopped = false) ∧
      ∀ c, p.start ≤ c → (∀ k, c ≠ p.scheduled k) → ∃ time, p.Returns c time ∧
        ∀ now, p.Progress (p.scheduled · < c) now (p.state (some c) now) ∧
          ∀ t, (p.state (some c) now).phase = .stopped t ↔ t = time ∧ time < now) ∧
    (p.interval = 0 → ∀ now, p.Progress (· = 0) now (p.state none now) ∧
      ∀ t, (p.state none now).phase = .stopped t ↔ t = p.ends 0 ∧ p.ends 0 < now) := by
  refine ⟨fun positive => ⟨fun now => ?_, fun c from_ apart => ?_⟩, state_once⟩
  · have reached := p.before_reached positive now
    exact ⟨reached.progress (fun _ _ _ => id) fun _ _ => trivial, reached.running.1⟩
  · obtain ⟨time, returns⟩ := p.returns_exists c
    refine ⟨time, returns, fun now => ?_⟩
    by_cases later : c < now
    · have cancelled := state_cancelled positive from_ apart later
      exact ⟨cancelled.progress later, cancelled.stopped_iff later returns⟩
    · have reached := p.before_reached positive now
      have early := returns.le
      rw [state, if_neg later]
      refine ⟨reached.progress ?_ ?_, fun t => ⟨fun stopped => ?_, fun held => ?_⟩⟩
      · exact fun j k order held => Nat.lt_of_le_of_lt (p.scheduled_mono order) held
      · intro k before
        omega
      · exact absurd stopped (reached.running.2 t)
      · omega

namespace Sample

/-- The second round takes longer than two intervals. -/
def slow : Plan := ⟨0, 10, fun k => if k = 0 then 4 else 25⟩

def once : Plan := ⟨0, 0, fun _ => 5⟩

theorem slow_apart (k : Nat) : 30 ≠ slow.scheduled k := by
  match k with
  | 0 | 1 => decide
  | k + 2 =>
    have third : slow.scheduled 2 = 59 := by decide
    have later := slow.scheduled_mono (Nat.le_add_left 2 k)
    omega

end Sample

open Sample in
/-- A cancellation in the second round lets it end and no third begin; an interval of zero ends a runner after its
first. -/
theorem returned_after_second_round :
    (0 < slow.interval ∧ slow.start ≤ 30 ∧ (∀ k, 30 ≠ slow.scheduled k) ∧ slow.Returns 30 49 ∧
      slow.Progress (slow.scheduled · < 30) 60 (slow.state (some 30) 60) ∧
      (slow.state (some 30) 60).phase = .stopped 49 ∧ (slow.state (some 30) 60).started = [24, 10]) ∧
    once.interval = 0 ∧ once.Progress (· = 0) 6 (once.state none 6) ∧
      (once.state none 6).phase = .stopped 5 := by
  refine ⟨?_, rfl, ((rounds_run_as_scheduled once).2 rfl 6).1, by decide⟩
  have positive : 0 < slow.interval := by decide
  obtain ⟨time, returns, told⟩ :=
    ((rounds_run_as_scheduled slow).1 positive).2 30 (Nat.zero_le 30) slow_apart
  have stopped : (slow.state (some 30) 60).phase = .stopped 49 := by decide
  obtain ⟨rfl, -⟩ := ((told 60).2 49).mp stopped
  exact ⟨positive, Nat.zero_le 30, slow_apart, returns, (told 60).1, stopped, by decide⟩

end Plan

end NetIntent.Collector
