import NetIntent.Proofs.Service.Provenance

/-! The exact effect of a collection. Each held port of a Pod that no listed Pod accounts for is
handled once: it is deleted remotely at its subnet path and then lost, or it stays and counts as a
failure. Nothing else is deleted, lost or counted, so the counters stay balanced over all operations. -/
namespace NetIntent.StalePorts

/-- A port held under an id that is tagged with the uid of a Pod. -/
def Owned (s : State) (id : String) : Prop :=
  ∃ port, s.ports.get? id = some port ∧ ∃ tag ∈ port.tags, tag.scope = Tag.Scope.podUid

/-- An id that a Pod accounts for. -/
def Live (pods : List Pod) (id : String) : Prop :=
  ∃ pod ∈ pods, Pod.portId pod.name pod.uid = id

/-- How a stale port was handled: it has no subnet path to be deleted at, or its deletion there was
asked for and answered. -/
inductive Handling where
  | pathless (id : String)
  | asked (subnet id : String) (reply : Except ClientError Unit)

namespace Handling

def id : Handling → String
  | pathless id | asked _ id _ => id

/-- The subnet path of the port, as it is held. -/
def Of (s : State) : Handling → Prop
  | pathless id => ∃ port, s.ports.get? id = some port ∧ port.subnetPath = none
  | asked subnet id _ => ∃ port, s.ports.get? id = some port ∧ port.subnetPath = some subnet

def exchange? : Handling → Option Exchange
  | pathless _ => none
  | asked subnet id reply => some ⟨.deletePort subnet id, reply⟩

/-- Whether the port is gone. -/
def removed : Handling → Bool
  | pathless _ => false
  | asked _ _ reply => Confirms reply

def result : Handling → Except Failure Unit
  | pathless _ => .error (.missingField SubnetPort.kind "parent_path")
  | asked _ _ reply => Failure.ofDeletion reply

/-- The audit entries: one for a deletion that was asked for, one for the collection. -/
def entries (h : Handling) : List Audit.Entry :=
  (h.exchange?.toList.map fun _ => SubnetPorts.deleteEntry h.id h.result) ++ [entry h.id h.result]

end Handling

/-- What handling some ports leaves: those removed are gone, all others are held and listed as
before, and each is counted once. -/
structure Left (s : State) (handled : List Handling) (s' : State) : Prop where
  consistent : s'.ports.Consistent
  gone : ∀ h ∈ handled, h.removed = true → s'.ports.get? h.id = none
  agree : s.ports.AgreeOutside (fun id => ∃ h ∈ handled, h.id = id ∧ h.removed = true) s'.ports
  counted : s'.counters =
    { total := s.counters.total + .ofNat handled.length
      removed := s.counters.removed + .ofNat (handled.countP (·.removed))
      failed := s.counters.failed + .ofNat (handled.countP (!·.removed)) }
  rest : s'.servers = s.servers ∧ s'.published = s.published

/-- A collection: without ports of Pods it does nothing, without a list of the Pods nothing follows,
and else it handles the ports of Pods that are not live. -/
inductive Round (s : State) : List Exchange → List Audit.Entry → State → Prop where
  | idle (none : ∀ id, ¬Owned s id) : Round s [] [] s
  | unlisted {e : ClientError} (some : ∃ id, Owned s id) : Round s [⟨.pods, .error e⟩] [] s
  | swept {pods : List Pod} {handled : List Handling} {s' : State} (some : ∃ id, Owned s id)
      (once : (handled.map Handling.id).Nodup)
      (stale : ∀ id, id ∈ handled.map Handling.id ↔ Owned s id ∧ ¬Live pods id)
      (paths : ∀ h ∈ handled, h.Of s) (left : Left s handled s')
      (kept : ∀ id, Live pods id ∨ ¬Owned s id → s'.ports.get? id = s.ports.get? id ∧
        ∀ name value, id ∈ s'.ports.keysAt name value ↔ id ∈ s.ports.keysAt name value) :
      Round s (⟨.pods, .ok pods⟩ :: handled.filterMap Handling.exchange?)
        (handled.flatMap Handling.entries) s'

variable {ω : Type} {world : World State ω} {s s' s'' : State} {w : ω} {id : String}

theorem Left.none (consistent : s.ports.Consistent) : Left s [] s :=
  ⟨consistent, fun _ member => absurd member List.not_mem_nil, .refl _, by simp, rfl, rfl⟩

theorem Left.cons {h : Handling} {handled : List Handling} (first : Left s [h] s')
    (rest : Left s' handled s'') : Left s (h :: handled) s'' where
  consistent := rest.consistent
  gone k member removed := by
    obtain rfl | later := List.mem_cons.mp member
    · by_cases again : ∃ l ∈ handled, l.id = k.id ∧ l.removed = true
      · obtain ⟨l, member, same, removed⟩ := again
        rw [← same]
        exact rest.gone l member removed
      · rw [rest.agree.held _ again]
        exact first.gone k List.mem_cons_self removed
    · exact rest.gone k later removed
  agree := by
    refine (first.agree.mono ?_).trans (rest.agree.mono ?_)
    · rintro _ ⟨l, member, touched⟩
      exact ⟨l, List.mem_cons.mpr (.inl (List.mem_singleton.mp member)), touched⟩
    · rintro _ ⟨l, member, touched⟩
      exact ⟨l, List.mem_cons_of_mem h member, touched⟩
  counted := by
    rw [rest.counted, first.counted]
    simp only [List.countP_cons, List.length_cons, List.countP_nil, List.length_nil, Counters.mk.injEq,
      UInt64.ofNat_add]
    refine ⟨?_, ?_, ?_⟩ <;> ac_rfl
  rest := ⟨rest.rest.1.trans first.rest.1, rest.rest.2.trans first.rest.2⟩

namespace Handling

theorem result_toBool (h : Handling) : h.result.toBool = h.removed := by
  cases h with
  | pathless => rfl
  | asked subnet id reply => rcases reply with (_ | _ | _) | _ <;> rfl

/-- The subnet path of the port. -/
def subnet? : Handling → Option String
  | pathless _ => none
  | asked subnet _ _ => some subnet

theorem Of.held {h : Handling} {port : SubnetPort} (held : s.ports.get? h.id = some port)
    (path : h.subnet? = port.subnetPath) : h.Of s := by
  cases h with
  | pathless | asked => exact ⟨port, held, path.symm⟩

theorem Of.congr {h : Handling} (path : h.Of s')
    (same : s'.ports.get? h.id = s.ports.get? h.id) : h.Of s := by
  cases h with
  | pathless id | asked subnet id reply =>
    obtain ⟨port, held, path⟩ := path
    exact ⟨port, same.symm.trans held, path⟩

end Handling

/-- The deletion of a port with an id, as a way of handling it. -/
theorem delete_handles {port : SubnetPort} (own : port.id = some id) (s : State) (w : ω) :
    ∃ h : Handling, h.id = id ∧ h.subnet? = port.subnetPath ∧
      (SubnetPorts.delete port).exchanges world (s, w) = h.exchange?.toList ∧
      (SubnetPorts.delete port).entries world (s, w) =
        h.exchange?.toList.map (fun _ => SubnetPorts.deleteEntry h.id h.result) ∧
      ((SubnetPorts.delete port).run world (s, w)).1 = h.result ∧
      ((SubnetPorts.delete port).run world (s, w)).2.1 =
        if h.removed then s.withPorts (·.erase id) else s := by
  cases path : port.subnetPath with
  | none =>
    refine ⟨.pathless id, rfl, rfl, ?_⟩
    simp only [SubnetPorts.delete, own, path]
    exact ⟨rfl, rfl, rfl, rfl⟩
  | some subnet =>
    simp only [SubnetPorts.delete, own, path]
    rw [Procedure.exchanges_call, Procedure.entries_call, Procedure.run_call]
    rcases world.reply (.deletePort subnet id) w with ⟨reply, w₁⟩
    refine ⟨.asked subnet id reply, rfl, rfl, ?_⟩
    rcases reply with (_ | _ | _) | _ <;> exact ⟨rfl, rfl, rfl, rfl⟩

/-- The deletion of one held port, as a way of handling it. -/
theorem deleteById_handles (consistent : s.ports.Consistent) {port : SubnetPort}
    (held : s.ports.get? id = some port) (w : ω) : ∃ h : Handling, h.id = id ∧ h.Of s ∧
      (SubnetPorts.deleteById id).exchanges world (s, w) = h.exchange?.toList ∧
      (SubnetPorts.deleteById id).entries world (s, w) =
        h.exchange?.toList.map (fun _ => SubnetPorts.deleteEntry h.id h.result) ∧
      ((SubnetPorts.deleteById id).run world (s, w)).1 = h.result ∧
      ((SubnetPorts.deleteById id).run world (s, w)).2.1 =
        if h.removed then s.withPorts (·.erase id) else s := by
  have own : port.id = some id := consistent.keyed id port held
  obtain ⟨h, rfl, path, deleted⟩ := @delete_handles ω world id port own s w
  simp only [SubnetPorts.deleteById, Procedure.exchanges_read, Procedure.entries_read,
    Procedure.run_read, held]
  exact ⟨h, rfl, .held held path, deleted⟩

/-- One port handled and counted. -/
theorem Left.one (consistent : s.ports.Consistent) (h : Handling) {s₁ : State}
    (deleted : s₁ = if h.removed then (s.withCounters Counters.begin).withPorts (·.erase h.id)
      else s.withCounters Counters.begin) :
    Left s [h] (s₁.withCounters (Counters.conclude h.removed)) := by
  by_cases removed : h.removed = true
  · rw [if_pos removed] at deleted
    subst deleted
    refine ⟨consistent.erase, ?_, (Store.erase_agree s.ports h.id).mono ?_, ?_, rfl, rfl⟩
    · intro k member _
      rw [List.mem_singleton.mp member]
      simp [State.withCounters, State.withPorts, Store.get?_erase]
    · rintro _ rfl
      exact ⟨h, List.mem_singleton_self h, rfl, removed⟩
    · simp [State.withCounters, State.withPorts, Counters.begin, Counters.conclude, removed]
  · rw [if_neg removed] at deleted
    subst deleted
    refine ⟨consistent, ?_, .refl _, ?_, rfl, rfl⟩
    · intro k member gone
      rw [List.mem_singleton.mp member] at gone
      exact absurd gone removed
    · simp [State.withCounters, Counters.begin, Counters.conclude, removed]

theorem handleAll_cons {ids : List String} {result : Except Failure Unit} {s₁ : State} {w₁ : ω}
    (ran : (SubnetPorts.deleteById id).run world (s.withCounters Counters.begin, w) =
      (result, s₁, w₁)) :
    (handleAll (id :: ids)).exchanges world (s, w) =
        (SubnetPorts.deleteById id).exchanges world (s.withCounters Counters.begin, w) ++
          (handleAll ids).exchanges world (s₁.withCounters (Counters.conclude result.toBool),
            world.note (entry id result) w₁) ∧
      (handleAll (id :: ids)).entries world (s, w) =
        (SubnetPorts.deleteById id).entries world (s.withCounters Counters.begin, w) ++
          entry id result :: (handleAll ids).entries world
            (s₁.withCounters (Counters.conclude result.toBool), world.note (entry id result) w₁) ∧
      (handleAll (id :: ids)).run world (s, w) = (handleAll ids).run world
        (s₁.withCounters (Counters.conclude result.toBool), world.note (entry id result) w₁) := by
  let rest : Except Failure Unit → Procedure State Unit := fun result =>
    .record (entry id result) <|
      .update (State.withCounters (Counters.conclude result.toBool)) fun _ => handleAll ids
  have exchanges := @Procedure.exchanges_bind _ _ _ _ world (SubnetPorts.deleteById id) rest
    (s.withCounters Counters.begin, w)
  have entries := @Procedure.entries_bind _ _ _ _ world (SubnetPorts.deleteById id) rest
    (s.withCounters Counters.begin, w)
  have run := @Procedure.run_bind _ _ _ _ world (SubnetPorts.deleteById id) rest
    (s.withCounters Counters.begin, w)
  rw [ran] at exchanges entries run
  exact ⟨exchanges, entries, run⟩

theorem handleAll_handles (consistent : s.ports.Consistent) {ids : List String} (distinct : ids.Nodup)
    (held : ∀ id ∈ ids, ∃ port, s.ports.get? id = some port) (w : ω) : ∃ handled : List Handling,
      handled.map Handling.id = ids ∧ (∀ h ∈ handled, h.Of s) ∧
      (handleAll ids).exchanges world (s, w) = handled.filterMap Handling.exchange? ∧
      (handleAll ids).entries world (s, w) = handled.flatMap Handling.entries ∧
      Left s handled ((handleAll ids).run world (s, w)).2.1 := by
  induction ids generalizing s w with
  | nil => exact ⟨[], rfl, fun _ member => absurd member List.not_mem_nil, rfl, rfl, .none consistent⟩
  | cons id rest ih =>
    obtain ⟨absent, apart⟩ := List.nodup_cons.mp distinct
    obtain ⟨port, found⟩ := held id List.mem_cons_self
    obtain ⟨h, rfl, path, asked, recorded, answered, deleted⟩ :=
      @deleteById_handles ω world (s.withCounters Counters.begin) id consistent port found w
    rcases ran : (SubnetPorts.deleteById h.id).run world (s.withCounters Counters.begin, w)
      with ⟨result, s₁, w₁⟩
    rw [ran] at answered deleted
    obtain rfl : result = h.result := answered
    have first := Left.one consistent h deleted
    -- What follows finds the other ports as they were.
    have others : ∀ k ∈ rest,
        (s₁.withCounters (Counters.conclude h.removed)).ports.get? k = s.ports.get? k := by
      intro k member
      refine first.agree.held k ?_
      rintro ⟨l, only, rfl, -⟩
      rw [List.mem_singleton.mp only] at member
      exact absent member
    obtain ⟨handled, ids, paths, exchanges, entries, left⟩ := ih first.consistent apart
      (fun k member => (others k member).symm ▸ held k (List.mem_cons_of_mem _ member))
      (world.note (entry h.id h.result) w₁)
    obtain ⟨calls, notes, run⟩ := @handleAll_cons _ _ _ _ _ rest _ _ _ ran
    rw [h.result_toBool] at calls notes run
    refine ⟨h :: handled, congrArg (h.id :: ·) ids, ?_, ?_, ?_, ?_⟩
    · refine List.forall_mem_cons.mpr ⟨path, fun l member => (paths l member).congr (others l.id ?_)⟩
      rw [← ids]
      exact List.mem_map_of_mem member
    · rw [calls, asked, exchanges]
      cases h <;> rfl
    · rw [notes, recorded, entries, List.flatMap_cons, Handling.entries, List.append_assoc]
      rfl
    · rw [run]
      exact first.cons left

theorem podUid_isSome {port : SubnetPort} :
    port.podUid.isSome = true ↔ ∃ tag ∈ port.tags, tag.scope = Tag.Scope.podUid := by
  simp [SubnetPort.podUid, Tag.value?]

theorem owned_iff (consistent : s.ports.Consistent) : id ∈ SubnetPorts.podPortIds s ↔ Owned s id := by
  simp only [SubnetPorts.podPortIds, Std.ExtTreeSet.mem_ofList, List.contains_iff_mem,
    List.mem_filterMap, List.mem_filter, Store.mem_list, podUid_isSome]
  constructor
  · rintro ⟨port, ⟨⟨key, held⟩, owner⟩, own⟩
    have keyed : port.id = some key := consistent.keyed key port held
    obtain rfl : key = id := Option.some.inj (keyed.symm.trans own)
    exact ⟨port, held, owner⟩
  · rintro ⟨port, held, owner⟩
    exact ⟨port, ⟨⟨id, held⟩, owner⟩, consistent.keyed id port held⟩

theorem live_iff {pods : List Pod} : id ∈ livePortIds pods ↔ Live pods id := by
  simp [livePortIds, Live]

/-- A round, whichever order it visits the stale ports in. -/
theorem collect_round (order : VisitOrder String) (consistent : s.ports.Consistent) (w : ω) :
    Round s ((collect order).exchanges world (s, w)) ((collect order).entries world (s, w))
      ((collect order).run world (s, w)).2.1 := by
  unfold collect
  rw [Procedure.exchanges_read, Procedure.entries_read, Procedure.run_read]
  dsimp only
  split
  · rename_i bare
    refine .idle fun id owned => ?_
    rw [← owned_iff consistent] at owned
    rw [Std.ExtTreeSet.isEmpty_iff.mp bare] at owned
    exact Std.ExtTreeSet.not_mem_empty owned
  · rename_i filled
    have some : ∃ id, Owned s id := by
      refine Classical.byContradiction fun none => filled ?_
      refine Std.ExtTreeSet.isEmpty_iff.mpr (Std.ExtTreeSet.eq_empty_iff_forall_not_mem.mpr ?_)
      exact fun id member => none ⟨id, (owned_iff consistent).mp member⟩
    rw [Procedure.exchanges_call, Procedure.entries_call, Procedure.run_call]
    rcases world.reply .pods w with ⟨_ | pods, w₁⟩
    · exact .unlisted some
    · have perm := order.perm (SubnetPorts.podPortIds s \ livePortIds pods).toList
      have distinct : (SubnetPorts.podPortIds s \ livePortIds pods).toList.Nodup :=
        Std.ExtTreeSet.distinct_toList.imp fun different same => different (by simp [same])
      have stale : ∀ id, id ∈ order.arrange (SubnetPorts.podPortIds s \ livePortIds pods).toList ↔
          Owned s id ∧ ¬Live pods id := by
        intro id
        rw [perm.mem_iff, Std.ExtTreeSet.mem_toList, Std.ExtTreeSet.mem_diff_iff,
          owned_iff consistent, live_iff]
      obtain ⟨handled, ids, paths, exchanges, entries, left⟩ :=
        @handleAll_handles ω world s consistent _ (perm.nodup_iff.mpr distinct)
          (fun id member => ((stale id).mp member).1.imp fun _ held => held.1) w₁
      have untouched : ∀ id, Live pods id ∨ ¬Owned s id →
          ¬∃ h ∈ handled, h.id = id ∧ h.removed = true := by
        rintro _ spared ⟨h, member, rfl, -⟩
        have handledId : h.id ∈ handled.map Handling.id := List.mem_map_of_mem member
        rw [ids, stale] at handledId
        exact spared.elim handledId.2 fun unowned => unowned handledId.1
      dsimp only
      rw [exchanges, entries]
      refine .swept some (ids ▸ perm.nodup_iff.mpr distinct) (ids ▸ stale) paths left ?_
      exact fun id spared => ⟨left.agree.held id (untouched id spared),
        left.agree.listed id (untouched id spared)⟩

end NetIntent.StalePorts

namespace NetIntent

variable {ω : Type} {world : World State ω} {s s' : State} {w : ω}

/-- The ports are listed as they are held, and every port handled counts as removed or failed. -/
structure Orderly (s : State) : Prop where
  consistent : s.ports.Consistent
  balanced : s.counters.total = s.counters.removed + s.counters.failed

theorem Loss.orderly (loss : Loss s s') (orderly : Orderly s) : Orderly s' := by
  cases loss with
  | nothing => exact orderly
  | published | server => exact ⟨orderly.consistent, orderly.balanced⟩
  | port => exact ⟨orderly.consistent.erase, orderly.balanced⟩

theorem StalePorts.Round.orderly {exchanges : List Exchange} {entries : List Audit.Entry}
    (round : StalePorts.Round s exchanges entries s') (orderly : Orderly s) : Orderly s' := by
  cases round with
  | idle | unlisted => exact orderly
  | @swept _ handled _ _ _ _ _ left _ =>
    refine ⟨left.consistent, ?_⟩
    have balanced := orderly.balanced
    have all : handled.length =
        handled.countP (·.removed) + handled.countP (!·.removed) := by
      simpa using List.length_eq_countP_add_countP (l := handled) StalePorts.Handling.removed
    simp only [left.counted]
    rw [balanced, all, UInt64.ofNat_add]
    ac_rfl

/-- A creation keeps the counters, and its store consistent. -/
theorem Transaction.consistent {R : Type} [Indexed R] {submit fetch : Call} {path : String}
    {allowed : Nat} {store : State → Store R} {put : State → Store R → State} {adopt : fetch.Answer → R}
    {calls : List (Procedure.Moment State ω)} {answer : Except Failure R}
    (transaction : Transaction world submit fetch path allowed store put adopt s calls answer s')
    (consistent : (store s).Consistent) : (store s').Consistent := by
  cases transaction with
  | failed => exact consistent
  | fetched stages before holding =>
    cases holding with
    | refused => exact consistent
    | held applied agree publishing kept rest answered => exact kept ▸ consistent.apply applied

namespace Operation

variable {services : Services}

theorem procedure_orderly (quiet : world.Quiet) (operation : Operation) (w : ω)
    (orderly : Orderly s) : Orderly ((operation.procedure services).run world (s, w)).2.1 := by
  obtain changes | ⟨server, rfl⟩ | ⟨port, subnet, rfl⟩ | ⟨order, rfl⟩ :=
    operation.procedure_cases services
  · have keeps : (operation.procedure services).Changes fun s s' => Orderly s → Orderly s' :=
      changes.wider fun _ _ => Loss.orderly
    exact keeps.run (fun _ => id) (fun first rest before => rest (first before)) quiet s w orderly
  · simp only [procedure, VirtualServers.Request.procedure, Procedure.run_bind, Procedure.run]
    cases given : server.id with
    | none =>
      rw [(VirtualServers.create_unsubmitted services.servers given (s, w)).1]
      exact orderly
    | some id =>
      have transaction := VirtualServers.create_transaction services.servers quiet given s w
      obtain same | rest := transaction.rest
      · rwa [same]
      · rw [rest]
        exact ⟨orderly.consistent, orderly.balanced⟩
  · simp only [procedure, Procedure.run_bind, Procedure.run]
    cases given : port.id with
    | none =>
      rw [(SubnetPorts.create_unsubmitted services.ports given subnet (s, w)).1]
      exact orderly
    | some id =>
      have transaction := SubnetPorts.create_transaction services.ports quiet given subnet s w
      have consistent := transaction.consistent orderly.consistent
      obtain same | rest := transaction.rest
      · rwa [same]
      · rw [rest]
        exact ⟨consistent, orderly.balanced⟩
  · exact (StalePorts.collect_round order orderly.consistent w).orderly orderly

theorem inTurn_orderly (quiet : world.Quiet) (operations : List Operation) (w : ω)
    (orderly : Orderly s) : Orderly ((inTurn services operations).run world (s, w)).2.1 := by
  induction operations generalizing s w with
  | nil => exact orderly
  | cons operation rest ih =>
    have first := @procedure_orderly ω world s services quiet operation w orderly
    simp only [inTurn, Procedure.run_bind]
    exact ih _ first

end Operation

namespace StalePorts

/-- A collection is a round; and the counters stay balanced, and the ports listed as they are held, so
that every collection is, over any operations of the services. -/
theorem collects_exactly (order : VisitOrder String) (consistent : s.ports.Consistent) (w : ω) :
    Round s ((collect order).exchanges world (s, w)) ((collect order).entries world (s, w))
        ((collect order).run world (s, w)).2.1 ∧
      (world.Quiet → ∀ (services : Services) (operations : List Operation) (s : State) (w : ω),
        Orderly s → Orderly ((Operation.inTurn services operations).run world (s, w)).2.1) :=
  ⟨collect_round order consistent w,
    fun quiet _ operations _ w orderly => Operation.inTurn_orderly quiet operations w orderly⟩

namespace Sample

def portOf (uid : String) (parentPath : Option String) : SubnetPort :=
  { id := some (Pod.portId "web" uid), parentPath
    tags := [⟨Tag.Scope.podUid, uid⟩] }

/-- Ports of three Pods of one name, one of them without a path, and a port of no Pod. -/
def ports : Store SubnetPort :=
  [("web_u1", portOf "u1" (some "/subnet")), ("web_u2", portOf "u2" (some "/subnet")),
    ("web_u3", portOf "u3" none), ("vm", { id := some "vm" })].foldl
      (fun store (key, port) => store.insert key port) SubnetPort.emptyStore

def start : State := .ofStores VirtualServer.emptyStore ports

/-- Only the second Pod exists, and a port to delete is already gone. -/
def remote : World State Unit where
  reply
    | .pods, w => (.ok [⟨"ns", "web", "u2"⟩], w)
    | .deletePort _ id, w => (.error (.notFound SubnetPort.kind id), w)
    | _, w => (.error (.transport "refused"), w)
  chance limit w := (limit, w)
  note _ w := w
  pass _ state := state

def round : Procedure State Unit := collect (.held String)

theorem ports_consistent : ports.Consistent :=
  ((((Store.Consistent.empty _).insert rfl).insert rfl).insert rfl).insert rfl

end Sample

open NetIntent.StalePorts.Sample in
/-- The port of the first Pod goes, the one without a path stays and counts as a failure. -/
theorem collects_first_of_three :
    start.ports.Consistent ∧ remote.Quiet ∧
      Round start (round.exchanges remote (start, ())) (round.entries remote (start, ()))
        (round.run remote (start, ())).2.1 ∧
      Orderly ((Operation.inTurn NetIntent.Sample.assembly [.collect (.held String)]).run remote (start, ())).2.1 ∧
      (round.run remote (start, ())).2.1.ports.keys = ["vm", "web_u2", "web_u3"] ∧
      (round.run remote (start, ())).2.1.counters = ⟨2, 1, 1⟩ := by
  have quiet : remote.Quiet := fun _ _ _ => rfl
  have law := @collects_exactly _ remote start (.held String) ports_consistent ()
  exact ⟨ports_consistent, quiet, law.1, law.2 quiet _ _ start () ⟨ports_consistent, rfl⟩,
    by decide +kernel, by decide +kernel⟩

end StalePorts

end NetIntent
