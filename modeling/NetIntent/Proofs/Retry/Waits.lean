import Mathlib.Algebra.GroupWithZero.Nat
import NetIntent.Retry.Backoff

/-! The waits of a policy and the total that it declares. Without jitter the first wait is the duration, and
each later one is the one before it as the factor grows it. As many waits as the steps allow sum up to the
declared total, which stops at the longest span; fewer stay within it. -/
namespace NetIntent

namespace Span

variable {a b : Span}

theorem ext (same : a.nanos = b.nanos) : a = b := by
  cases a
  cases b
  cases same
  rfl

theorem nanos_ofNanos (n : Nat) : (ofNanos n).nanos = min n limit := by
  unfold ofNanos
  split
  · rename_i within
    exact (Nat.min_eq_left within).symm
  · rename_i beyond
    exact (Nat.min_eq_right (Nat.le_of_not_le beyond)).symm

theorem nanos_add (a b : Span) : (a + b).nanos = min (a.nanos + b.nanos) limit := nanos_ofNanos _

theorem nanos_times (n : Nat) (a : Span) : (a.times n).nanos = min (n * a.nanos) limit := nanos_ofNanos _

/-- The sum of some spans, added up in turn. -/
def sum (spans : List Span) : Span := spans.foldl (· + ·) zero

/-- A sum that stops at the limit in between stops there in the end. -/
theorem nanos_foldl_add (spans : List Span) (total : Span) :
    (spans.foldl (· + ·) total).nanos = min (total.nanos + (spans.map nanos).sum) limit := by
  induction spans generalizing total with
  | nil => exact (Nat.min_eq_left total.le_limit).symm
  | cons a rest ih =>
    rw [List.foldl_cons, ih, nanos_add, List.map_cons, List.sum_cons]
    omega

theorem nanos_sum (spans : List Span) : (sum spans).nanos = min (spans.map nanos).sum limit := by
  rw [sum, nanos_foldl_add, show zero.nanos = 0 from rfl, Nat.zero_add]

theorem sum_append_le (spans later : List Span) : (sum spans).nanos ≤ (sum (spans ++ later)).nanos := by
  rw [nanos_sum, nanos_sum, List.map_append, List.sum_append]
  omega

end Span

namespace Backoff

variable {b : Backoff}

/-- The duration after a number of waits. -/
def base (b : Backoff) : Nat → Span
  | 0 => b.duration
  | i + 1 => if 0 < b.factor && b.factor != 1.0 then (b.base i).scale b.factor else b.base i

@[simp] theorem grow_factor : b.grow.factor = b.factor := by
  unfold grow
  split <;> rfl

theorem grow_isJittered : b.grow.isJittered = b.isJittered := by
  unfold grow
  split <;> rfl

theorem base_succ (b : Backoff) (i : Nat) : b.base (i + 1) = b.grow.base i := by
  induction i with
  | zero =>
    simp only [base, grow]
    split <;> rfl
  | succ i ih => rw [base, ih, base, grow_factor]

/-- The first waits under a policy, without jitter. -/
def waits (b : Backoff) (n : Nat) : List Span := (List.range n).map b.base

theorem waits_succ (b : Backoff) (n : Nat) : b.waits (n + 1) = b.duration :: b.grow.waits n := by
  rw [waits, List.range_succ_eq_map, List.map_cons, List.map_map]
  exact congrArg (List.cons b.duration) (List.map_congr_left fun i _ => b.base_succ i)

theorem grow_eq_self (steady : b.grow.duration = b.duration) : b.grow = b := by
  unfold grow at steady ⊢
  split
  · rename_i grows
    rw [if_pos grows] at steady
    exact congrArg (fun duration => { b with duration }) steady
  · rfl

theorem waits_of_steady (steady : b.grow = b) (n : Nat) : b.waits n = List.replicate n b.duration := by
  induction n with
  | zero => rfl
  | succ n ih => rw [waits_succ, steady, ih, List.replicate_succ]

/-- Adding up at once what grows no more makes no difference. -/
theorem accumulate_eq (n : Nat) (b : Backoff) (total : Span) :
    accumulate n b total = (b.waits n).foldl (· + ·) total := by
  induction n generalizing b total with
  | zero => rfl
  | succ n ih =>
    rw [accumulate]
    split
    · rename_i steady
      apply Span.ext
      rw [waits_of_steady (grow_eq_self steady), Span.nanos_foldl_add, List.map_replicate,
        List.sum_replicate_nat, Span.nanos_add, Span.nanos_times]
      omega
    · rw [ih, waits_succ, List.foldl_cons]

theorem maxTotal_eq (plain : b.isJittered = false) : b.maxTotal = Span.sum (b.waits (b.steps.toNat - 1)) := by
  simp only [maxTotal, plain, Bool.false_eq_true, if_false]
  exact accumulate_eq _ _ _

theorem sum_waits_le (plain : b.isJittered = false) {n : Nat} (within : n ≤ b.steps.toNat - 1) :
    (Span.sum (b.waits n)).nanos ≤ b.maxTotal.nanos := by
  obtain ⟨more, whole⟩ := Nat.exists_eq_add_of_le within
  rw [maxTotal_eq plain, whole, waits, waits, List.range_add, List.map_append]
  exact Span.sum_append_le _ _

end Backoff

end NetIntent
