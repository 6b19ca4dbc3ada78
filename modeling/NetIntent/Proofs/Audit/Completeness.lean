import Mathlib.Data.UInt
import NetIntent.Proofs.Audit.Operations
import NetIntent.Proofs.Collector.Round

/-! The audit trail is complete and truthful. Workers carry out operations of the services side by side;
what each of them does is a trail, in which the mutations made are the mutations recorded, and the
counters grow by what is recorded of the collections. -/
namespace NetIntent

open Audit

variable {services : Services} {deeds : List (Deed State)}

namespace Deed

def mutation? (deed : Deed State) : Option Mutation := deed.exchange?.bind (·.call.mutation?)

def recorded? (deed : Deed State) : Option Mutation := deed.note?.bind (·.mutation?)

/-- What a deed adds to a counter. -/
def gain (m : Counters → UInt64) : Deed State → UInt64
  | .change before after => m after.counters - m before.counters
  | _ => 0

/-- Whether a deed is an entry of some sort, as a number. -/
def counts (sort : Entry → Bool) : Deed State → UInt64
  | .entry e => if sort e then 1 else 0
  | _ => 0

theorem Plain.unmatched {deed : Deed State} (plain : deed.Plain) :
    deed.mutation? = none ∧ deed.recorded? = none := by
  cases deed with
  | change => exact ⟨rfl, rfl⟩
  | call exchange => exact ⟨plain, rfl⟩
  | entry => exact plain.elim

theorem Plain.still {deed : Deed State} (plain : deed.Plain) (m : Counters → UInt64) (sort : Entry → Bool) :
    deed.gain m = deed.counts sort := by
  cases deed with
  | change before after =>
    have same : after.counters = before.counters := plain
    simp only [gain, same, sub_self, counts]
  | call => rfl
  | entry => exact plain.elim

end Deed

/-- The calls of a submission: the first is one, the others ask. -/
theorem Submission.mutations {kind id path : String} {submit fetch : Call} {allowed : Nat}
    {held : State → Bool} {exchanges : List Exchange} {result : Except Failure fetch.Answer}
    (submission : Submission services kind id submit fetch path allowed held)
    (stages : Stages submit fetch path allowed exchanges result) :
    exchanges.filterMap (·.call.mutation?) = [.submission kind id] := by
  have submitted : submit.mutation? = some (.submission kind id) ∧ fetch.mutation? = none := by
    cases submission <;> exact ⟨rfl, rfl⟩
  have queries : ∀ answers : List (Except ClientError Realization.Response),
      (answers.map (Realization.queried path)).filterMap (·.call.mutation?) = [] := by
    intro answers
    rw [List.filterMap_map, List.filterMap_eq_nil_iff]
    exact fun _ _ => rfl
  cases stages <;>
    simp [submitted, queries]

theorem Matched.recorded (matched : Matched services deeds) :
    deeds.filterMap Deed.mutation? = deeds.filterMap Deed.recorded? := by
  induction matched with
  | nothing => rfl
  | plain plain _ ih =>
    obtain ⟨unmade, unrecorded⟩ := plain.unmatched
    rw [List.filterMap_cons_none unmade, List.filterMap_cons_none unrecorded, ih]
  | @submission s kind id _ _ _ _ held exchanges _ entry later submission stages reports _ ih =>
    have made : (exchanges.map Deed.call).filterMap Deed.mutation? = [.submission kind id] := by
      rw [List.filterMap_map]
      exact submission.mutations stages
    have silent : (exchanges.map Deed.call).filterMap Deed.recorded? = [] := by
      rw [List.filterMap_map, List.filterMap_eq_nil_iff]
      exact fun _ _ => rfl
    have recorded : Deed.recorded? (.entry entry) = some (.submission kind id) := by
      have about := reports.mutation
      split at about <;> exact about
    rw [List.filterMap_cons_none rfl, List.filterMap_cons_none rfl, List.filterMap_append,
      List.filterMap_append, made, silent, List.filterMap_cons_none rfl,
      List.filterMap_cons_some recorded, ih]
    rfl
  | @deletion c kind id reply entry _ deletes reports _ ih =>
    have made : Deed.mutation? (.call ⟨c, reply⟩) = some (.deletion kind id) := deletes
    have recorded : Deed.recorded? (.entry entry) = some (.deletion kind id) := reports.mutation
    rw [List.filterMap_cons_some made, List.filterMap_cons_none rfl, List.filterMap_cons_none rfl,
      List.filterMap_cons_some recorded, ih]

theorem Handled.recorded {ids : List String} (handled : Handled services ids deeds) :
    deeds.filterMap Deed.mutation? = deeds.filterMap Deed.recorded? := by
  induction handled with
  | nothing => rfl
  | @port _ _ _ _ _ _ _ entry deleted matched reports _ ih =>
    have unrecorded : Deed.recorded? (.entry entry) = none := reports.mutation
    rw [List.filterMap_cons_none rfl, List.filterMap_cons_none rfl, List.filterMap_append,
      List.filterMap_append, matched.recorded, List.filterMap_cons_none rfl,
      List.filterMap_cons_none unrecorded, List.filterMap_cons_none rfl, List.filterMap_cons_none rfl, ih]

/-- The mutations made are the mutations recorded, in the same order. -/
theorem Trail.recorded (trail : Trail services deeds) :
    deeds.filterMap Deed.mutation? = deeds.filterMap Deed.recorded? := by
  induction trail with
  | nothing => rfl
  | matched first _ ih => rw [List.filterMap_append, List.filterMap_append, first.recorded, ih]
  | round handled _ ih =>
    rw [List.filterMap_cons_none rfl, List.filterMap_cons_none rfl, List.filterMap_cons_none rfl,
      List.filterMap_cons_none rfl, List.filterMap_append, List.filterMap_append, handled.recorded, ih]

/-- A counter, and the sort of entries about collections that it counts. -/
structure Tally (m : Counters → UInt64) (sort : Entry → Bool) : Prop where
  collects : ∀ e, sort e = true → e.category = .collect
  counted : ∀ (before after : Counters) (result : Except Failure Unit) (e : Entry) (id : String),
    e.Reports .collect SubnetPort.kind id (Failure.messageOf result) →
      (m before.begin - m before) + (m (after.conclude result.toBool) - m after) =
        if sort e then 1 else 0

section

variable {m : Counters → UInt64} {sort : Entry → Bool} (tally : Tally m sort)

include tally

theorem Tally.other {e : Entry} {category : Category} {kind id : String} {error : Option String}
    (reports : e.Reports category kind id error) (other : category ≠ .collect) :
    Deed.counts sort (.entry e) = 0 := by
  refine if_neg fun counted => other ?_
  rw [← reports.category, tally.collects e counted]

theorem Matched.tallied (matched : Matched services deeds) :
    (deeds.map (Deed.gain m)).sum = (deeds.map (Deed.counts sort)).sum := by
  induction matched with
  | nothing => rfl
  | plain plain _ ih => rw [List.map_cons, List.map_cons, List.sum_cons, List.sum_cons, plain.still m sort, ih]
  | @submission s kind id _ _ _ _ held exchanges _ entry later submission stages reports _ ih =>
    have uncounted : Deed.counts sort (.entry entry) = 0 := by
      refine tally.other reports ?_
      split <;> exact nofun
    have silent : ∀ f : Deed State → UInt64, (∀ x, f (.call x) = 0) →
        ((exchanges.map Deed.call).map f).sum = 0 := by
      intro f nought
      rw [List.map_map, show f ∘ Deed.call = fun _ => 0 from funext nought]
      simp
    simp only [List.map_cons, List.map_append, List.sum_cons, List.sum_append, uncounted, ih,
      silent (Deed.gain m) fun _ => rfl, silent (Deed.counts sort) fun _ => rfl]
    simp [Deed.gain, Deed.counts]
  | deletion deletes reports _ ih =>
    have uncounted := tally.other reports nofun
    simp only [List.map_cons, List.sum_cons, uncounted, ih]
    rfl

theorem Handled.tallied {ids : List String} (handled : Handled services ids deeds) :
    (deeds.map (Deed.gain m)).sum = (deeds.map (Deed.counts sort)).sum := by
  induction handled with
  | nothing => rfl
  | @port id _ s s' _ _ result entry deleted matched reports _ ih =>
    have counted := tally.counted s.counters s'.counters result entry id reports
    simp only [List.map_cons, List.map_append, List.sum_cons, List.sum_append, matched.tallied tally, ih]
    simp only [Deed.gain, Deed.counts, State.withCounters, ← counted]
    ac_rfl

theorem Trail.tallied (trail : Trail services deeds) :
    (deeds.map (Deed.gain m)).sum = (deeds.map (Deed.counts sort)).sum := by
  induction trail with
  | nothing => rfl
  | matched first _ ih =>
    rw [List.map_append, List.map_append, List.sum_append, List.sum_append, first.tallied tally, ih]
  | round handled _ ih =>
    simp only [List.map_cons, List.map_append, List.sum_cons, List.sum_append, handled.tallied tally, ih]
    simp [Deed.gain, Deed.counts]

end

/-- The entries about collections in a history. -/
def collections (history : List (Nat × Deed State)) : List Entry :=
  (history.filterMap (·.2.note?)).filter (·.category = .collect)

theorem total_tally : Tally Counters.total (·.category = .collect) where
  collects e counted := of_decide_eq_true counted
  counted before after result e id reports := by
    rw [decide_eq_true reports.category]
    cases result <;> simp [Counters.begin, Counters.conclude, Except.toBool]

theorem removed_tally : Tally Counters.removed fun e => e.outcome = .success ∧ e.category = .collect where
  collects e counted := (of_decide_eq_true counted).2
  counted before after result e id reports := by
    cases result <;>
      simp [reports.category, reports.outcome, Failure.messageOf, Counters.begin, Counters.conclude,
        Except.toBool]

theorem failed_tally : Tally Counters.failed fun e => e.outcome = .failure ∧ e.category = .collect where
  collects e counted := (of_decide_eq_true counted).2
  counted before after result e id reports := by
    cases result <;>
      simp [reports.category, reports.outcome, Failure.messageOf, Counters.begin, Counters.conclude,
        Except.toBool]

theorem sum_counts (sort : Entry → Bool) (history : List (Nat × Deed State)) :
    (history.map fun item => item.2.counts sort).sum =
      .ofNat ((history.filterMap (·.2.note?)).filter sort).length := by
  induction history with
  | nil => rfl
  | cons item rest ih =>
    obtain ⟨i, deed⟩ := item
    rw [List.map_cons, List.sum_cons, ih]
    cases deed with
    | change | call => simp [Deed.counts, Deed.note?]
    | entry e =>
      by_cases counted : sort e = true
      · simp [Deed.counts, Deed.note?, counted]
        ac_rfl
      · simp [Deed.counts, Deed.note?, counted]

/-- A counter grows by what the changes of a history add to it. -/
theorem Procedure.Together.gain {ps ps' : List (Procedure State Unit)} {s s' : State}
    {history : List (Nat × Deed State)} (ran : Procedure.Together ps s history ps' s')
    (m : Counters → UInt64) :
    m s'.counters - m s.counters = (history.map fun item => item.2.gain m).sum := by
  induction ran with
  | rest ps s => exact sub_self _
  | acts among step _ ih =>
    rw [List.map_append, List.sum_append, ← ih]
    cases step with
    | update next rest s => simp [Event.deeds, Deed.gain]
    | call | record => simp [Event.deeds, Deed.gain]
    | draw | pause | enter | leave => simp [Event.deeds]

/-- Where all did trails, a counter has grown by the entries that it counts. -/
theorem Procedure.Together.tallied {ps ps' : List (Procedure State Unit)} {s s' : State}
    {history : List (Nat × Deed State)} (ran : Procedure.Together ps s history ps' s')
    (trails : ∀ i < ps.length, Trail services (deedsOf i history)) {m : Counters → UInt64}
    {sort : Entry → Bool} (tally : Tally m sort) :
    m s'.counters = m s.counters + .ofNat ((history.filterMap (·.2.note?)).filter sort).length := by
  have gained := ran.gain m
  have recorded := sum_counts sort history
  rw [Procedure.sum_by_actor _ ran.actors] at gained recorded
  have same : ∀ i ∈ Finset.range ps.length, ((deedsOf i history).map (Deed.gain m)).sum =
      ((deedsOf i history).map (Deed.counts sort)).sum :=
    fun i inside => (trails i (Finset.mem_range.mp inside)).tallied tally
  rw [Finset.sum_congr rfl same, recorded] at gained
  exact sub_eq_iff_eq_add'.mp gained

namespace Operation

/-- A request that is refused before anything is asked for. -/
def Rejected : Operation → Prop
  | server (.create s) => s.id = none
  | createPort port _ => port.id = none
  | deletePort port => port.id = none ∨ port.subnetPath = none
  | _ => False

theorem Rejected.idle {operation : Operation} (rejected : operation.Rejected)
    (goes : (operation.procedure services).Goes deeds ()) : deeds = [] := by
  cases operation with
  | server request =>
    cases request with
    | create server =>
      simp only [procedure, VirtualServers.Request.procedure, VirtualServers.create,
        show server.id = none from rejected] at goes
      exact goes.1
    | delete | deleteForPort | sync => exact rejected.elim
  | createPort port subnet =>
    simp only [procedure, SubnetPorts.create, show port.id = none from rejected] at goes
    exact goes.1
  | deletePort port =>
    obtain missing | missing := (rejected : port.id = none ∨ port.subnetPath = none)
    · simp only [procedure, SubnetPorts.delete, missing] at goes
      exact goes.1
    · cases own : port.id with
      | none =>
        simp only [procedure, SubnetPorts.delete, own] at goes
        exact goes.1
      | some id =>
        simp only [procedure, SubnetPorts.delete, own, missing] at goes
        exact goes.1
  | resetBaseline | deletePortById | deletePortsOfPod | collect => exact rejected.elim

end Operation

/-- Workers carry out operations of the services side by side, each some of them in turn. What a worker
did until its end is a trail, so the mutations made are the mutations recorded; at the end of all, the
counters of the collection have grown by the entries about collections; and a request that is rejected
leaves nothing. -/
theorem every_mutation_recorded_once {workers : List (List Operation)} {s s' : State}
    {history : List (Nat × Deed State)} {left : List (Procedure State Unit)}
    (ran : Procedure.Together (workers.map (Operation.inTurn services)) s history left s') :
    (∀ i operations, workers[i]? = some operations → left[i]? = some (.done ()) →
      Trail services (deedsOf i history) ∧
      (deedsOf i history).filterMap Deed.mutation? = (deedsOf i history).filterMap Deed.recorded?) ∧
    ((∀ p ∈ left, p = .done ()) →
      s'.counters.total = s.counters.total + .ofNat (collections history).length ∧
      s'.counters.removed =
        s.counters.removed + .ofNat ((collections history).filter (·.outcome = .success)).length ∧
      s'.counters.failed =
        s.counters.failed + .ofNat ((collections history).filter (·.outcome = .failure)).length) ∧
    ∀ operation : Operation, operation.Rejected → ∀ deeds,
      (operation.procedure services).Goes deeds () → deeds = [] := by
  have trail : ∀ i operations, workers[i]? = some operations → left[i]? = some (.done ()) →
      Trail services (deedsOf i history) := by
    intro i operations among ended
    have started : (workers.map (Operation.inTurn services))[i]? =
        some (Operation.inTurn services operations) := by
      rw [List.getElem?_map, among, Option.map_some]
    exact Operation.inTurn_trails operations _ _ (ran.goes started ended)
  refine ⟨fun i operations among ended => ?trails, fun ended => ?counters,
    fun operation rejected deeds goes => rejected.idle goes⟩
  case trails => exact ⟨trail i operations among ended, (trail i operations among ended).recorded⟩
  case counters =>
    have trails : ∀ i < (workers.map (Operation.inTurn services)).length,
        Trail services (deedsOf i history) := by
      intro i inside
      rw [List.length_map] at inside
      have below : i < left.length := by rwa [ran.length_eq, List.length_map]
      have done := List.getElem?_eq_getElem below
      rw [ended _ (List.getElem_mem _)] at done
      exact trail i _ (List.getElem?_eq_getElem inside) done
    have tallied {m : Counters → UInt64} {sort : Entry → Bool} (tally : Tally m sort) :=
      ran.tallied trails tally
    refine ⟨tallied total_tally, ?_, ?_⟩
    · simpa [collections, List.filter_filter] using tallied removed_tally
    · simpa [collections, List.filter_filter] using tallied failed_tally

namespace Sample

/-- A creation whose submission is refused, and a collection of two stale ports. -/
def chores : List Operation := [.server (.create VirtualServers.Sample.server), .collect (.held String)]

end Sample

open Sample StalePorts.Sample in
/-- A refused creation and two stale ports, one of them without a path: four entries. -/
theorem four_entries_of_two_operations : ∃ history s',
    Procedure.Together ([chores].map (Operation.inTurn assembly)) start history [.done ()] s' ∧
      Trail assembly (deedsOf 0 history) ∧
      (history.filterMap (·.2.note?)).map (fun e => (e.category, e.objectId, e.outcome)) =
        [(.create, some "b", .failure), (.delete, some "web_u1", .success),
          (.collect, some "web_u1", .success), (.collect, some "web_u3", .failure)] ∧
      s'.counters.total = start.counters.total + .ofNat (collections history).length ∧
      s'.counters = ⟨2, 1, 1⟩ := by
  have quiet : remote.Quiet := fun _ _ _ => rfl
  obtain ⟨deeds, ran, -, entries⟩ :=
    Procedure.run_together quiet (Operation.inTurn assembly chores) start ()
  have law := @every_mutation_recorded_once assembly [chores] _ _ _ _ ran
  have ended : ∀ p ∈ [(.done () : Procedure State Unit)], p = .done () := fun _ => List.mem_singleton.mp
  have same : (deeds.map ((0 : Nat), ·)).filterMap (·.2.note?) = deeds.filterMap Deed.note? :=
    List.filterMap_map
  refine ⟨deeds.map (0, ·), _, ran, (law.1 0 chores rfl rfl).1, ?_, (law.2.1 ended).1, by decide +kernel⟩
  rw [same, entries]
  decide +kernel

end NetIntent
