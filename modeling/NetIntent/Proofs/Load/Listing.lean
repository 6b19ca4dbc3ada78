import NetIntent.Load.Board

/-! One load against the answers of its listing. Its pages offer one sequence of records, of which the
store takes a beginning that the count tells the length of; a load that succeeds has taken all of it. -/
namespace NetIntent.Load

variable {R : Type}

/-- The records that a listing offers before it ends or fails. -/
def offered : List (Reply R) → List R
  | .page page :: rest =>
    page.records ++ if (page.cursor.filter (· ≠ "")).isSome then offered rest else []
  | _ => []

/-- How a listing ends, if it does. -/
def ending : List (Reply R) → Option (Except Failure Unit)
  | .page page :: rest =>
    if (page.cursor.filter (· ≠ "")).isSome then ending rest else some (.ok ())
  | .refused e :: _ => some (.error (.client e))
  | .died reason :: _ => some (.error (Loader.taskDied reason))
  | [] => none

/-- A last page without records. -/
def Reply.last : Reply R := .page ⟨[], none⟩

/-- Nothing more is offered, and a listing that was not at its end is. -/
theorem offered_last (replies : List (Reply R)) : offered (replies ++ [.last]) = offered replies ∧
    ending (replies ++ [.last]) = some ((ending replies).getD (.ok ())) := by
  induction replies with
  | nil => exact ⟨rfl, rfl⟩
  | cons reply rest ih =>
    cases reply with
    | page page =>
      simp only [List.cons_append, offered, ending]
      split
      · exact ⟨congrArg (page.records ++ ·) ih.1, ih.2⟩
      · exact ⟨rfl, rfl⟩
    | refused | died => exact ⟨rfl, rfl⟩

theorem offered_prefix (replies more : List (Reply R)) :
    offered replies <+: offered (replies ++ more) := by
  induction replies with
  | nil => exact List.nil_prefix
  | cons reply rest ih =>
    cases reply with
    | page page =>
      simp only [List.cons_append, offered]
      split
      · exact (List.prefix_append_right_inj page.records).mpr ih
      · exact List.prefix_rfl
    | refused | died => exact List.prefix_rfl

namespace Loader

variable [Indexed R] {l : Loader R} {s : Store R}

theorem applyAll_append (s : Store R) (records more : List R) :
    applyAll s (records ++ more) =
      match applyAll s records with
      | (s', n, some e) => (s', n, some e)
      | (s', n, none) =>
        ((applyAll s' more).1, n + (applyAll s' more).2.1, (applyAll s' more).2.2) := by
  induction records generalizing s with
  | nil => simp [applyAll]
  | cons record rest ih =>
    simp only [List.cons_append, applyAll]
    cases s.apply record with
    | error e => rfl
    | ok s' =>
      simp only [ih]
      rcases applyAll s' rest with ⟨s'', n, e | e⟩
      · simp only [Prod.mk.injEq, and_true, true_and]
        omega
      · rfl

/-- Records are applied up to the first one without key. -/
theorem applyAll_cases (s : Store R) (records : List R) :
    (∃ after, records.foldlM Store.apply s = .ok after ∧
        applyAll s records = (after, records.length, none)) ∨
      ∃ before record later after, records = before ++ record :: later ∧
        before.foldlM Store.apply s = .ok after ∧ Indexed.key record = none ∧
        applyAll s records = (after, before.length, some (.missingKey (Indexed.kind R))) := by
  induction records generalizing s with
  | nil => exact .inl ⟨s, rfl, rfl⟩
  | cons record rest ih =>
    cases keyed : Indexed.key record with
    | none =>
      have refused : s.apply record = .error (.missingKey (Indexed.kind R)) := by
        simp only [Store.apply, keyed]
      refine .inr ⟨[], record, rest, s, rfl, rfl, keyed, ?_⟩
      simp only [applyAll, refused, List.length_nil]
    | some key =>
      obtain ⟨s', applied⟩ : ∃ s', s.apply record = .ok s' := by simp [Store.apply, keyed]
      have joined : ∀ records : List R, (record :: records).foldlM Store.apply s =
          records.foldlM Store.apply s' := fun records => by
        rw [List.foldlM_cons, applied]
        rfl
      obtain ⟨after, fold, all⟩ | ⟨before, bare, later, after, rfl, fold, unkeyed, cut⟩ := ih s'
      · refine .inl ⟨after, (joined rest).trans fold, ?_⟩
        simp only [applyAll, applied, all, List.length_cons]
      · refine .inr ⟨record :: before, bare, later, after, rfl, (joined before).trans fold, unkeyed, ?_⟩
        simp only [applyAll, applied, cut, List.length_cons]

/-- The records applied are the first ones, and all of them if none was refused. -/
theorem applyAll_take (s : Store R) (records : List R) :
    (records.take (applyAll s records).2.1).foldlM Store.apply s = .ok (applyAll s records).1 ∧
      (applyAll s records).2.1 ≤ records.length ∧
      ((applyAll s records).2.2 = none → (applyAll s records).2.1 = records.length) := by
  obtain ⟨after, fold, all⟩ | ⟨before, record, later, after, rfl, fold, -, cut⟩ := applyAll_cases s records
  · rw [all, List.take_length]
    exact ⟨fold, Nat.le_refl _, fun _ => rfl⟩
  · rw [cut, List.take_left' rfl]
    exact ⟨fold, by simp, fun none => by cases none⟩

theorem applyAll_refused {records : List R} {e : StoreError}
    (refused : (applyAll s records).2.2 = some e) : records.foldlM Store.apply s = .error e := by
  obtain ⟨after, -, all⟩ | ⟨before, record, later, after, rfl, fold, unkeyed, cut⟩ :=
    applyAll_cases s records
  · rw [all] at refused
    cases refused
  · rw [cut] at refused
    cases refused
    have stops : (record :: later).foldlM Store.apply after =
        .error (.missingKey (Indexed.kind R)) := by
      rw [List.foldlM_cons]
      simp only [Store.apply, unkeyed]
      rfl
    rw [List.foldlM_append, fold]
    exact stops

theorem applyAll_of_fold {records : List R} {after : Store R}
    (fold : records.foldlM Store.apply s = .ok after) :
    applyAll s records = (after, records.length, none) := by
  obtain ⟨after', fold', all⟩ | ⟨before, record, later, after', -, -, -, cut⟩ :=
    applyAll_cases s records
  · cases fold.symm.trans fold'
    exact all
  · cases fold.symm.trans (applyAll_refused (congrArg (·.2.2) cut))

theorem applyAll_of_unkeyed {before later : List R} {record : R} {after : Store R}
    (fold : before.foldlM Store.apply s = .ok after) (unkeyed : Indexed.key record = none) :
    applyAll s (before ++ record :: later) =
      (after, before.length, some (.missingKey (Indexed.kind R))) := by
  have stops : applyAll after (record :: later) = (after, 0, some (.missingKey (Indexed.kind R))) := by
    simp only [applyAll, Store.apply, unkeyed]
  rw [applyAll_append, applyAll_of_fold fold]
  simp only [stops, Nat.add_zero]

theorem load_append (l : Loader R) (replies more : List (Reply R)) :
    l.load (replies ++ more) = (l.load replies).load more := List.foldl_append

theorem load_finished (done : l.result?.isSome) (replies : List (Reply R)) : l.load replies = l := by
  induction replies with
  | nil => rfl
  | cons reply rest ih =>
    have still : l.receive reply = l := by
      unfold receive
      cases phase : l.phase with
      | asking => simp [result?, phase] at done
      | finished => rfl
    exact (congrArg (load · rest) still).trans ih

/-- The verdict of a load: the first record refused is what fails, or else what its listing ends
with. -/
def verdict (count : UInt64) (refused : Option StoreError) (ending : Option (Except Failure Unit)) :
    Option (Except Failure UInt64) :=
  match refused with
  | some e => some (.error (.store e))
  | none => ending.map fun e => e.map fun _ => count

theorem verdict_ok {count n : UInt64} {refused : Option StoreError}
    {ending : Option (Except Failure Unit)} (ok : verdict count refused ending = some (.ok n)) :
    n = count := by
  unfold verdict at ok
  split at ok
  · cases ok
  · obtain _ | _ | _ := ending <;> cases ok
    rfl

/-- The pages make no difference: the records that they offer are applied in turn. -/
theorem load_eq {cursor : Option String} (asking : l.phase = .asking cursor)
    (replies : List (Reply R)) :
    (l.load replies).store = (applyAll l.store (offered replies)).1 ∧
      (l.load replies).count = l.count + .ofNat (applyAll l.store (offered replies)).2.1 ∧
      (l.load replies).result? = verdict (l.count + .ofNat (applyAll l.store (offered replies)).2.1)
        (applyAll l.store (offered replies)).2.2 (ending replies) := by
  induction replies generalizing l cursor with
  | nil =>
    exact ⟨rfl, (UInt64.add_zero l.count).symm,
      by simp [load, result?, asking, offered, applyAll, verdict, ending]⟩
  | cons reply rest ih =>
    have first : l.load (reply :: rest) = (l.receive reply).load rest := rfl
    rw [first]
    cases reply with
    | refused | died =>
      simp only [receive, asking]
      rw [load_finished rfl]
      exact ⟨rfl, (UInt64.add_zero l.count).symm, rfl⟩
    | page page =>
      simp only [receive, asking, takePage, offered, ending, applyAll_append]
      rcases applyAll l.store page.records with ⟨s, n, none | e⟩
      · simp only
        cases page.cursor.filter (· ≠ "") with
        | none =>
          rw [load_finished rfl]
          exact ⟨rfl, rfl, rfl⟩
        | some next =>
          obtain ⟨store, count, result⟩ := @ih
            { l with store := s, count := l.count + .ofNat n, asked := l.asked ++ [some next]
                     phase := .asking (some next) } _ rfl
          simp only [UInt64.add_assoc, ← UInt64.ofNat_add] at store count result
          exact ⟨store, count, result⟩
      · rw [load_finished rfl]
        exact ⟨rfl, rfl, rfl⟩

end Loader

namespace Task

variable {t : Task} {k : Nat}

/-- All answers of the listing, with the last page that it gives once it has run out. -/
def script (t : Task) : List (Reply t.Record) := t.replies ++ [.last]

/-- The loader at the end of a load by itself. -/
def alone (t : Task) : Loader t.Record :=
  let _ := t.indexed
  t.loader.load t.script

/-- The task once its loader was given some answers. -/
def after (t : Task) (k : Nat) : Task :=
  let _ := t.indexed
  { t with loader := t.loader.load (t.script.take k), replies := t.replies.drop k }

/-- The store with the first records that the listing offers. -/
def holding (t : Task) (n : Nat) : Except StoreError (Store t.Record) :=
  let _ := t.indexed
  ((offered t.replies).take n).foldlM Store.apply t.loader.store

def Fresh (t : Task) : Prop := t.loader = .start t.loader.store

theorem Fresh.result (fresh : t.Fresh) : t.result? = none := by
  rw [result?, fresh]
  rfl

theorem after_zero (t : Task) : t.after 0 = t := rfl

theorem alone_isSome (t : Task) : t.alone.result?.isSome := by
  let _ := t.indexed
  cases phase : t.loader.phase with
  | finished result =>
    have done : t.loader.result?.isSome := by simp [Loader.result?, phase]
    rw [alone, Loader.load_finished done]
    exact done
  | asking cursor =>
    rw [alone, (Loader.load_eq phase t.script).2.2, script, (offered_last t.replies).2]
    unfold Loader.verdict
    split <;> rfl

/-- A loader that has finished needs no more answers. -/
theorem after_finished (done : (t.after k).result?.isSome) : (t.after k).loader = t.alone := by
  let _ := t.indexed
  have all : t.script = t.script.take k ++ t.script.drop k := (List.take_append_drop k t.script).symm
  rw [alone, all, Loader.load_append]
  exact (@Loader.load_finished t.Record t.indexed _ done _).symm

theorem advance_after (unfinished : (t.after k).result? = none) :
    (t.after k).advance = t.after (k + 1) := by
  let _ := t.indexed
  -- A further answer, the last page of a listing that has run out, or none that is still asked for.
  obtain within | rfl | beyond := Nat.lt_trichotomy k t.replies.length
  · have more : t.replies.drop k = t.replies[k] :: t.replies.drop (k + 1) :=
      List.drop_eq_getElem_cons within
    have given : t.script.take (k + 1) = t.script.take k ++ [t.replies[k]] := by
      rw [List.take_add_one, script, List.getElem?_append_left within,
        List.getElem?_eq_getElem within]
      rfl
    simp only [after, given, Loader.load_append]
    unfold advance
    simp only [more]
    rfl
  · have given : t.script.take (t.replies.length + 1) =
        t.script.take t.replies.length ++ [.last] := by
      simp [script, List.take_of_length_le]
    simp only [after, given, Loader.load_append]
    unfold advance
    simp only [List.drop_length, List.drop_of_length_le (Nat.le_succ t.replies.length)]
    rfl
  · have all : t.script.take k = t.script := List.take_of_length_le (by simp [script]; omega)
    have done := t.alone_isSome
    have same : (t.after k).result? = t.alone.result? := by
      simp only [after, result?, all]
      rfl
    rw [← same, unfinished] at done
    cases done

theorem Fresh.load (fresh : t.Fresh) (given : List (Reply t.Record)) :
    let _ := t.indexed
    let applied := Loader.applyAll t.loader.store (offered given)
    (t.loader.load given).store = applied.1 ∧ (t.loader.load given).count = .ofNat applied.2.1 ∧
      (t.loader.load given).result? = Loader.verdict (.ofNat applied.2.1) applied.2.2 (ending given) := by
  have none : t.loader.count = 0 := congrArg Loader.count fresh
  have spec := @Loader.load_eq _ t.indexed _ _ (congrArg Loader.phase fresh) given
  rwa [none, UInt64.zero_add] at spec

/-- At any time the store holds as many of the records offered as were counted. -/
theorem after_holding (fresh : t.Fresh) (k : Nat) : ∃ n ≤ (offered t.replies).length,
    t.holding n = .ok (t.after k).loader.store ∧ (t.after k).loader.count = .ofNat n := by
  let _ := t.indexed
  obtain ⟨store, count, -⟩ := fresh.load (t.script.take k)
  obtain ⟨fold, within, -⟩ := Loader.applyAll_take t.loader.store (offered (t.script.take k))
  have first : offered (t.script.take k) <+: offered t.replies := by
    have cut := offered_prefix (t.script.take k) (t.script.drop k)
    rwa [List.take_append_drop, script, (offered_last t.replies).1] at cut
  obtain ⟨rest, whole⟩ := first
  refine ⟨_, ?_, ?_, count⟩
  · rw [← whole, List.length_append]
    omega
  · simp only [holding, after, store]
    rw [← whole, List.take_append_of_le_length within]
    exact fold

/-- What the load of a task by itself comes to: a record refused, or else what its listing ends with,
and with the number of all records offered if that is no failure. -/
def verdict (t : Task) : Except Failure UInt64 :=
  match t.holding (offered t.replies).length with
  | .error e => .error (.store e)
  | .ok _ => ((ending t.replies).getD (.ok ())).map fun _ => .ofNat (offered t.replies).length

theorem alone_result (fresh : t.Fresh) : t.alone.result? = some t.verdict := by
  let _ := t.indexed
  obtain ⟨-, -, result⟩ := fresh.load t.script
  rw [script, (offered_last t.replies).1, (offered_last t.replies).2] at result
  obtain ⟨fold, -, all⟩ := Loader.applyAll_take t.loader.store (offered t.replies)
  rw [alone, script, result]
  unfold verdict holding
  rw [List.take_length]
  cases refused : (Loader.applyAll t.loader.store (offered t.replies)).2.2 with
  | some e =>
    rw [Loader.applyAll_refused refused]
    rfl
  | none =>
    rw [all refused, List.take_length] at fold
    rw [fold, all refused]
    rfl

theorem alone_count (fresh : t.Fresh) {n : UInt64} (ok : t.alone.result? = some (.ok n)) :
    n = t.alone.count := by
  let _ := t.indexed
  obtain ⟨-, count, result⟩ := fresh.load t.script
  rw [alone, count]
  exact Loader.verdict_ok (result.symm.trans ok)

end Task

end NetIntent.Load
