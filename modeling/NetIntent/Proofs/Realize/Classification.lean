import NetIntent.Realize.Verdict

/-! The verdict on one response, told from the states and alarms of the entities that count. A failing
entity outweighs all others and only failing ones give messages, one that awaits its provider outweighs
those that are merely not realized. Other entities play no part, and order matters to the texts only. -/
namespace NetIntent.Realization

/-- All entities count without expectations, else those that a pair names. -/
def Counts (expected : List Expected) (e : Entity) : Prop :=
  expected = [] ∨ ∃ x ∈ expected, e.id = some x.id ∧ e.type = some x.type

instance (expected : List Expected) : DecidablePred (Counts expected) := fun e =>
  inferInstanceAs (Decidable (_ ∨ ∃ x ∈ expected, e.id = some x.id ∧ e.type = some x.type))

/-- In error, and no alarm tells of a provider that is not ready. -/
def Entity.Fails (e : Entity) : Prop := e.state = .error ∧ ∀ a ∈ e.alarms, a.code ≠ some 500030

instance : DecidablePred Entity.Fails := fun e =>
  inferInstanceAs (Decidable (e.state = .error ∧ ∀ a ∈ e.alarms, a.code ≠ some 500030))

/-- The failing entities that count, in the order of the response. -/
def failures (expected : List Expected) (entities : List Entity) : List Entity :=
  entities.filter fun e => Counts expected e ∧ e.Fails

/-- The first entity that counts and is in one of some states. -/
def FirstIn (expected : List Expected) (states : State → Prop) (entities : List Entity) (e : Entity) :
    Prop :=
  ∃ before after, entities = before ++ e :: after ∧ Counts expected e ∧ states e.state ∧
    ∀ b ∈ before, Counts expected b → ¬states b.state

/-- The verdict on some entities, by the worst that counts among them. -/
inductive Judged (expected : List Expected) (entities : List Entity) : Verdict → Prop where
  | failed (some : failures expected entities ≠ []) :
      Judged expected entities (.failed ((failures expected entities).flatMap Entity.messages))
  | awaiting {e : Entity} (none : failures expected entities = [])
      (first : FirstIn expected (· = .error) entities e) :
      Judged expected entities (.pending (e.describe ++ ": provider not ready"))
  | unsettled {e : Entity} (calm : ∀ e ∈ entities, Counts expected e → e.state ≠ .error)
      (first : FirstIn expected (· ≠ .realized) entities e) :
      Judged expected entities (.pending e.describe)
  | realized (all : ∀ e ∈ entities, Counts expected e → e.state = .realized) :
      Judged expected entities .realized

variable {expected : List Expected} {entities entities' : List Entity} {e : Entity}

theorem relevant_iff : relevant expected e = true ↔ Counts expected e := by
  simp [relevant, Counts, Expected.selects]

theorem failing_iff : e.failing = true ↔ e.Fails := by
  simp [Entity.failing, Entity.awaitsProvider, Entity.inError, Entity.Fails, Alarm.providerNotReady,
    Alarm.providerNotReadyCode]
  exact fun error other => absurd error other

theorem mem_failures : e ∈ failures expected entities ↔
    e ∈ entities ∧ Counts expected e ∧ e.Fails := by
  simp [failures]

theorem failures_eq : failures expected entities =
    (entities.filter (relevant expected)).filter Entity.failing := by
  rw [List.filter_filter, failures]
  refine List.filter_congr fun e _ => ?_
  rw [Bool.eq_iff_iff, Bool.and_eq_true, relevant_iff, failing_iff, decide_eq_true_iff, and_comm]

/-- A test that tells the states of the entities that count finds the first one in them. -/
theorem FirstIn.of_find? {test : Entity → Bool} {states : State → Prop}
    (tests : ∀ e ∈ entities, Counts expected e → (test e = true ↔ states e.state))
    (found : (entities.filter (relevant expected)).find? test = some e) :
    FirstIn expected states entities e := by
  rw [List.find?_filter, List.find?_eq_some_iff_append] at found
  obtain ⟨here, before, after, rfl, passed⟩ := found
  simp only [decide_eq_true_eq, relevant_iff] at here
  refine ⟨before, after, rfl, here.1, (tests e (by simp) here.1).mp here.2, fun b member counts => ?_⟩
  rw [← tests b (by simp [member]) counts]
  have refused := passed b member
  simp only [relevant_iff, Bool.not_eq_eq_eq_not, Bool.not_true, decide_eq_false_iff_not, not_and] at refused
  exact refused counts

theorem classify_judged (expected : List Expected) (response : Response) :
    Judged expected response.entities (classify expected response) := by
  obtain ⟨entities⟩ := response
  unfold classify judge
  split
  · rename_i some
    rw [← failures_eq]
    refine .failed fun none => ?_
    rw [failures_eq, List.filter_eq_nil_iff] at none
    obtain ⟨e, member, fails⟩ := List.any_eq_true.mp some
    exact none e member fails
  · rename_i calm
    have none : failures expected entities = [] := by
      rw [failures_eq, List.filter_eq_nil_iff]
      exact fun e member fails => calm (List.any_eq_true.mpr ⟨e, member, fails⟩)
    -- Without a failing entity, those in error are the ones that await their provider.
    have awaits : ∀ e ∈ entities, Counts expected e → (e.awaitsProvider = true ↔ e.state = .error) := by
      intro e member counts
      have spared : ¬e.Fails := fun fails => by
        simpa [none] using mem_failures.mpr ⟨member, counts, fails⟩
      rw [← failing_iff] at spared
      simp only [Entity.failing, Entity.awaitsProvider, Entity.inError] at spared ⊢
      by_cases error : e.state = .error <;> simp_all
    split
    · rename_i e found
      exact .awaiting none (.of_find? awaits found)
    · rename_i absent
      have settled : ∀ e ∈ entities, Counts expected e → e.state ≠ .error := by
        intro e member counts error
        have kept := List.mem_filter.mpr ⟨member, relevant_iff.mpr counts⟩
        exact List.find?_eq_none.mp absent e kept ((awaits e member counts).mpr error)
      split
      · rename_i e found
        refine .unsettled settled (.of_find? (fun e _ _ => ?_) found)
        exact bne_iff_ne
      · rename_i absent
        refine .realized fun e member counts => ?_
        have kept := List.mem_filter.mpr ⟨member, relevant_iff.mpr counts⟩
        simpa using List.find?_eq_none.mp absent e kept

/-- What holds of the entities that count when a verdict of a kind is returned. -/
def Fits (expected : List Expected) (entities : List Entity) : Verdict → Prop
  | .failed _ => ∃ e ∈ entities, Counts expected e ∧ e.Fails
  | .pending _ => (¬∃ e ∈ entities, Counts expected e ∧ e.Fails) ∧
      ∃ e ∈ entities, Counts expected e ∧ e.state ≠ .realized
  | .realized => ∀ e ∈ entities, Counts expected e → e.state = .realized

/-- The same of the three verdicts, whatever text it carries. -/
def Verdict.Alike : Verdict → Verdict → Prop
  | .realized, .realized | .pending _, .pending _ | .failed _, .failed _ => True
  | _, _ => False

theorem Judged.fits {verdict : Verdict} (judged : Judged expected entities verdict) :
    Fits expected entities verdict := by
  have failing (some : ∃ e ∈ entities, Counts expected e ∧ e.Fails) :
      failures expected entities ≠ [] := by
    obtain ⟨e, fails⟩ := some
    exact List.ne_nil_of_mem (mem_failures.mpr fails)
  cases judged with
  | failed some =>
    obtain ⟨e, member⟩ := List.exists_mem_of_ne_nil _ some
    exact ⟨e, mem_failures.mp member⟩
  | awaiting none first =>
    obtain ⟨before, after, rfl, counts, error, -⟩ := first
    refine ⟨fun some => failing some none, _, by simp, counts, ?_⟩
    rw [error]
    decide
  | unsettled calm first =>
    obtain ⟨before, after, rfl, counts, unrealized, -⟩ := first
    refine ⟨?_, _, by simp, counts, unrealized⟩
    rintro ⟨e, member, counts, error, -⟩
    exact calm e member counts error
  | realized all => exact all

theorem Fits.alike {v v' : Verdict} (fits : Fits expected entities v) (fits' : Fits expected entities v') :
    v.Alike v' := by
  have apart (all : ∀ e ∈ entities, Counts expected e → e.state = .realized) :
      ¬∃ e ∈ entities, Counts expected e ∧ e.Fails := by
    rintro ⟨e, member, counts, error, -⟩
    cases error.symm.trans (all e member counts)
  have settled (all : ∀ e ∈ entities, Counts expected e → e.state = .realized) :
      ¬∃ e ∈ entities, Counts expected e ∧ e.state ≠ .realized := by
    rintro ⟨e, member, counts, unrealized⟩
    exact unrealized (all e member counts)
  cases v <;> cases v'
  case realized.realized | pending.pending | failed.failed => trivial
  case realized.pending => exact settled fits fits'.2
  case pending.realized => exact settled fits' fits.2
  case realized.failed => exact apart fits fits'
  case failed.realized => exact apart fits' fits
  case pending.failed => exact fits.1 fits'
  case failed.pending => exact fits'.1 fits

theorem Fits.perm {v : Verdict} (fits : Fits expected entities v) (perm : entities'.Perm entities) :
    Fits expected entities' v := by
  cases v with
  | realized | pending _ | failed _ => simpa only [Fits, perm.mem_iff] using fits

namespace Fits

variable {v : Verdict} (fits : Fits expected entities v)

include fits

theorem failed_iff : (∃ messages, v = .failed messages) ↔
    ∃ e ∈ entities, Counts expected e ∧ e.Fails := by
  constructor
  · rintro ⟨messages, rfl⟩
    exact fits
  · intro failing
    have alike : v.Alike (.failed []) := fits.alike failing
    cases v with
    | failed messages => exact ⟨messages, rfl⟩
    | realized | pending _ => exact alike.elim

theorem pending_iff : (∃ reason, v = .pending reason) ↔
    (¬∃ e ∈ entities, Counts expected e ∧ e.Fails) ∧
      ∃ e ∈ entities, Counts expected e ∧ e.state ≠ .realized := by
  constructor
  · rintro ⟨reason, rfl⟩
    exact fits
  · intro waits
    have alike : v.Alike (.pending "") := fits.alike waits
    cases v with
    | pending reason => exact ⟨reason, rfl⟩
    | realized | failed _ => exact alike.elim

theorem realized_iff : v = .realized ↔
    ∀ e ∈ entities, Counts expected e → e.state = .realized := by
  constructor
  · rintro rfl
    exact fits
  · intro all
    have alike : v.Alike .realized := fits.alike all
    cases v with
    | realized => rfl
    | pending _ | failed _ => exact alike.elim

end Fits

namespace Judged

theorem messages {messages : List String} (judged : Judged expected entities (.failed messages)) :
    messages = (failures expected entities).flatMap Entity.messages := by
  cases judged
  rfl

theorem reason {reason : String} (judged : Judged expected entities (.pending reason)) :
    (∃ e, FirstIn expected (· = .error) entities e ∧
        reason = e.describe ++ ": provider not ready") ∨
      (∀ e ∈ entities, Counts expected e → e.state ≠ .error) ∧
        ∃ e, FirstIn expected (· ≠ .realized) entities e ∧ reason = e.describe := by
  cases judged with
  | awaiting none first => exact .inl ⟨_, first, rfl⟩
  | unsettled calm first => exact .inr ⟨calm, _, first, rfl⟩

end Judged

/-- Only entities that count are seen. -/
theorem classify_irrelevant {before others after : List Entity}
    (irrelevant : ∀ e ∈ others, ¬Counts expected e) :
    classify expected ⟨before ++ others ++ after⟩ = classify expected ⟨before ++ after⟩ := by
  have none : others.filter (relevant expected) = [] :=
    List.filter_eq_nil_iff.mpr fun e member kept => irrelevant e member (relevant_iff.mp kept)
  simp only [classify, List.filter_append, none, List.append_nil]

/-- What a classification owes to the entities that count. -/
structure Ruled (expected : List Expected) (entities : List Entity) : Prop where
  failed_iff : (∃ messages, classify expected ⟨entities⟩ = .failed messages) ↔
    ∃ e ∈ entities, Counts expected e ∧ e.Fails
  messages : ∀ messages, classify expected ⟨entities⟩ = .failed messages →
    messages = (failures expected entities).flatMap Entity.messages
  pending_iff : (∃ reason, classify expected ⟨entities⟩ = .pending reason) ↔
    (¬∃ e ∈ entities, Counts expected e ∧ e.Fails) ∧
      ∃ e ∈ entities, Counts expected e ∧ e.state ≠ .realized
  reason : ∀ reason, classify expected ⟨entities⟩ = .pending reason →
    (∃ e, FirstIn expected (· = .error) entities e ∧
        reason = e.describe ++ ": provider not ready") ∨
      (∀ e ∈ entities, Counts expected e → e.state ≠ .error) ∧
        ∃ e, FirstIn expected (· ≠ .realized) entities e ∧ reason = e.describe
  realized_iff : classify expected ⟨entities⟩ = .realized ↔
    ∀ e ∈ entities, Counts expected e → e.state = .realized
  irrelevant : ∀ before others after, entities = before ++ others ++ after →
    (∀ e ∈ others, ¬Counts expected e) →
      classify expected ⟨entities⟩ = classify expected ⟨before ++ after⟩
  reordered : ∀ entities' : List Entity, entities'.Perm entities →
    (classify expected ⟨entities'⟩).Alike (classify expected ⟨entities⟩) ∧
      ∀ messages, classify expected ⟨entities'⟩ = .failed messages →
        ∃ failing : List Entity, failing.Perm (failures expected entities) ∧
          messages = failing.flatMap Entity.messages

/-- Every classification follows the rules: the worst that counts decides, entities that do not count
play no part, and the order of the others only that of the messages. -/
theorem worst_entity_that_counts_decides (expected : List Expected) (entities : List Entity) :
    Ruled expected entities := by
  have judged := fun entities => classify_judged expected ⟨entities⟩
  refine
    { failed_iff := (judged entities).fits.failed_iff
      messages := fun messages failed => (failed ▸ judged entities).messages
      pending_iff := (judged entities).fits.pending_iff
      reason := fun reason pending => (pending ▸ judged entities).reason
      realized_iff := (judged entities).fits.realized_iff
      irrelevant := ?_
      reordered := fun entities' perm => ⟨?_, fun messages failed => ?_⟩ }
  · rintro before others after rfl irrelevant
    exact classify_irrelevant irrelevant
  · exact (judged entities').fits.alike ((judged entities).fits.perm perm)
  · exact ⟨failures expected entities', perm.filter _, (failed ▸ judged entities').messages⟩

/-- The text of an entity that awaits its provider, or of one that does not count, is not reported. -/
example : classify [⟨"a", "Port"⟩] ⟨[⟨some "b", some "Port", .error, [.ofMessage "other"]⟩,
      ⟨some "a", some "Port", .error, [.ofCode "busy" 500030]⟩,
      ⟨some "a", some "Port", .error, [⟨none, none⟩, .ofMessage "refused"]⟩]⟩ =
    .failed ["refused"] := by
  decide

end NetIntent.Realization
