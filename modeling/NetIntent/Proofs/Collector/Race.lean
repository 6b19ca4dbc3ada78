import Mathlib.Logic.Relation
import NetIntent.Proofs.Collector.Round
import NetIntent.Proofs.Interleaving

/-! Collections beside a cluster that changes. A round reads the held ports before it lists the Pods,
so each id it read belongs to a Pod that existed by then or was held from the start, and an id that no
Pod accounts for once they are listed is never one of an existing Pod again. -/
namespace NetIntent

/-- With plain uids, the ids of ports tell the uids of their Pods. -/
theorem Pod.uid_of_portId {name name' uid uid' : String} (plain : '_' ∉ uid.toList)
    (plain' : '_' ∉ uid'.toList) (same : portId name uid = portId name' uid') : uid = uid' := by
  have split : name.toList ++ '_' :: uid.toList = name'.toList ++ '_' :: uid'.toList := by
    simpa [portId] using congrArg String.toList same
  obtain ⟨between, -, rest⟩ | ⟨between, -, rest⟩ := List.append_eq_append_iff.mp split
  · cases between with
    | nil => exact String.toList_inj.mp (List.cons.inj rest).2
    | cons c between =>
      refine absurd ?_ plain
      rw [(List.cons.inj rest).2]
      simp
  · cases between with
    | nil => exact (String.toList_inj.mp (List.cons.inj rest).2).symm
    | cons c between =>
      refine absurd ?_ plain'
      rw [(List.cons.inj rest).2]
      simp

/-- The services of a cluster: the Pods that exist, those that ever did, and the collections under
way, each with what is left of it. -/
structure Cluster where
  state : State
  pods : List Pod
  past : List Pod
  rounds : List (Procedure State Unit)

namespace Cluster

/-- A cluster before any collection. -/
structure Initial (c : Cluster) : Prop where
  consistent : c.state.ports.Consistent
  past : ∀ pod ∈ c.pods, pod ∈ c.past
  plain : ∀ pod ∈ c.past, '_' ∉ pod.uid.toList
  idle : c.rounds = []

/-- What happens beside the actions of collections. Uids are never used again, ports are held for
existing Pods only, and no port cached at the start has the id of a later Pod's port. -/
inductive Change (cached : Store SubnetPort) (c : Cluster) : Cluster → Prop where
  | podCreated {pod : Pod} (fresh : ∀ old ∈ c.past, old.uid ≠ pod.uid)
      (plain : '_' ∉ pod.uid.toList)
      (free : cached.get? (Pod.portId pod.name pod.uid) = none) :
      Change cached c { c with pods := pod :: c.pods, past := pod :: c.past }
  | podDeleted (pod : Pod) : Change cached c { c with pods := c.pods.filter (· ≠ pod) }
  | portAdded {pod : Pod} {port : SubnetPort} {ports : Store SubnetPort} (existing : pod ∈ c.pods)
      (own : port.id = some (Pod.portId pod.name pod.uid)) (tagged : port.podUid = some pod.uid)
      (applied : c.state.ports.apply port = .ok ports) :
      Change cached c { c with state := { c.state with ports } }
  | portDropped (id : String) :
      Change cached c { c with state := c.state.withPorts (·.erase id) }
  | roundStarted (order : VisitOrder String) :
      Change cached c { c with rounds := StalePorts.collect order :: c.rounds }

/-- One collection takes one action. A list of the Pods has exactly those that exist. -/
inductive Acts (c : Cluster) (event : Event State) : Cluster → Prop where
  | round {before after : List (Procedure State Unit)} {p p' : Procedure State Unit} {s : State}
      (among : c.rounds = before ++ p :: after) (acts : p.Step c.state event s p')
      (truthful : ∀ listed, event = .deed (.call ⟨.pods, .ok listed⟩) → ∀ pod, pod ∈ listed ↔ pod ∈ c.pods) :
      Acts c event { c with state := s, rounds := before ++ p' :: after }

/-- The only collection under way takes an action. -/
theorem Acts.only {event : Event State} {s s' : State} {pods past : List Pod} {p p' : Procedure State Unit}
    (step : p.Step s event s' p')
    (truthful : ∀ listed, event = .deed (.call ⟨.pods, .ok listed⟩) → ∀ pod, pod ∈ listed ↔ pod ∈ pods) :
    Acts ⟨s, pods, past, [p]⟩ event ⟨s', pods, past, [p']⟩ :=
  @Acts.round _ event [] [] _ _ _ rfl step truthful

def Next (cached : Store SubnetPort) (c c' : Cluster) : Prop :=
  Change cached c c' ∨ ∃ event, Acts c event c'

/-- Any number of steps in any order. -/
def Reaches (start c : Cluster) : Prop := Relation.ReflTransGen (Next start.state.ports) start c

variable {start c c' : Cluster}

theorem Reaches.change (reaches : Reaches start c) (change : Change start.state.ports c c') :
    Reaches start c' := reaches.tail (.inl change)

theorem Reaches.act {event : Event State} (reaches : Reaches start c) (acts : Acts c event c') :
    Reaches start c' := reaches.tail (.inr ⟨event, acts⟩)

end Cluster

namespace StalePorts

/-- With consistent ports, a procedure only sweeps, and deletes only ports whose ids are of one kind. -/
def Sweeps {α : Type} (stale : String → Prop) (p : Procedure State α) : Prop :=
  p.Obeys (·.ports.Consistent) Sweep fun c => ∃ subnet id, c = .deletePort subnet id ∧ stale id

theorem Sweeps.mono {α : Type} {stale stale' : String → Prop} {p : Procedure State α}
    (sweeps : Sweeps stale p) (wider : ∀ id, stale id → stale' id) : Sweeps stale' p :=
  Procedure.Obeys.mono sweeps (fun _ _ => id) fun _ ⟨subnet, id, call, inside⟩ =>
    ⟨subnet, id, call, wider id inside⟩

/-- The port held under an id has that id, so no other is deleted. -/
theorem deleteById_sweeps (id : String) : Sweeps (· = id) (SubnetPorts.deleteById id) := by
  refine fun s consistent => ⟨.inl .nothing, ?_⟩
  dsimp only
  split
  · rename_i port held
    have own : port.id = some id := consistent.keyed id port held
    unfold SubnetPorts.delete
    split
    · trivial
    · trivial
    · rename_i subnet given path
      obtain rfl : _ = id := Option.some.inj (given.symm.trans own)
      refine ⟨⟨subnet, _, rfl, rfl⟩, fun reply => ?_⟩
      dsimp only [Procedure.Obeys]
      split
      · trivial
      · exact fun _ _ => ⟨.inl (.port _), trivial⟩
  · trivial

theorem handleAll_deletes (ids : List String) : Sweeps (· ∈ ids) (handleAll ids) := by
  induction ids with
  | nil => trivial
  | cons id rest ih =>
    have first : Sweeps (· ∈ id :: rest) (SubnetPorts.deleteById id) :=
      (deleteById_sweeps id).mono fun k same => List.mem_cons.mpr (.inl same)
    have others : Sweeps (· ∈ id :: rest) (handleAll rest) :=
      ih.mono fun k member => List.mem_cons_of_mem id member
    refine fun s _ => ⟨.inr ⟨_, rfl⟩, Procedure.Obeys.bind first fun result => ?_⟩
    exact fun s _ => ⟨.inr ⟨_, rfl⟩, others⟩

/-- What is left of a collection that holds the ids it has read and waits for the Pods. -/
def listed (order : VisitOrder String) (held : KeySet) : Call.Reply .pods → Procedure State Unit
  | .error _ => .done ()
  | .ok pods => handleAll (order.arrange (held \ livePortIds pods).toList)

theorem collect_eq (order : VisitOrder String) : collect order = .read fun s =>
    if (SubnetPorts.podPortIds s).isEmpty then .done ()
    else .call .pods (listed order (SubnetPorts.podPortIds s)) := rfl

theorem mem_arrange {order : VisitOrder String} {held : KeySet} {pods : List Pod} {id : String} :
    id ∈ order.arrange (held \ livePortIds pods).toList ↔ id ∈ held ∧ ¬Live pods id := by
  rw [(order.perm _).mem_iff, Std.ExtTreeSet.mem_toList, Std.ExtTreeSet.mem_diff_iff, live_iff]

/-- How far a collection is: it has read nothing, it has read ids that are known, or it deletes
nothing but barred ports. -/
inductive Phase (known barred : String → Prop) : Procedure State Unit → Prop where
  | waiting (order : VisitOrder String) : Phase known barred (collect order)
  | read (order : VisitOrder String) {held : KeySet} (ids : ∀ id ∈ held, known id) :
      Phase known barred (.call .pods (listed order held))
  | deleting {p : Procedure State Unit} (sweeps : Sweeps barred p) : Phase known barred p

namespace Phase

variable {known known' barred barred' : String → Prop} {p p' : Procedure State Unit} {s s' : State}
  {event : Event State} {pods : List Pod}

theorem mono (phase : Phase known barred p) (grows : ∀ id, known id → known' id)
    (stays : ∀ id, barred id → barred' id) : Phase known' barred' p := by
  cases phase with
  | waiting order => exact .waiting order
  | read order ids => exact .read order fun id member => grows id (ids id member)
  | deleting sweeps => exact .deleting (sweeps.mono stays)

/-- An action takes a collection on. It only sweeps, and if it deletes a port, that port is barred. -/
theorem step (phase : Phase known barred p) (consistent : s.ports.Consistent)
    (held : ∀ id port, s.ports.get? id = some port → known id)
    (settled : ∀ id, known id → ¬Live pods id → barred id)
    (truthful : ∀ listed, event = .deed (.call ⟨.pods, .ok listed⟩) → ∀ pod, pod ∈ listed ↔ pod ∈ pods)
    (step : p.Step s event s' p') : Sweep s s' ∧ Phase known barred p' ∧
      ∀ subnet id reply, event = .deed (.call ⟨.deletePort subnet id, reply⟩) → barred id := by
  cases phase with
  | waiting order =>
    cases step with
    | update next rest =>
      refine ⟨.inl .nothing, ?_, fun _ _ _ same => by cases same⟩
      dsimp only
      split
      · exact .deleting trivial
      · refine .read order fun id member => ?_
        obtain ⟨port, found, -⟩ := (owned_iff consistent).mp member
        exact held id port found
  | @read order keys ids =>
    cases step with
    | call c rest reply =>
      refine ⟨.inl .nothing, ?_, fun _ _ _ same => by cases same⟩
      cases reply with
      | error e => exact .deleting trivial
      | ok pods' =>
        refine .deleting ((handleAll_deletes _).mono fun id member => ?_)
        obtain ⟨read, gone⟩ := mem_arrange.mp member
        -- The list is exact, so an id that it does not account for is barred from here on.
        refine settled id (ids id read) ?_
        rintro ⟨pod, existing, same⟩
        exact gone ⟨pod, (truthful pods' rfl pod).mpr existing, same⟩
  | deleting sweeps =>
    obtain ⟨changed, left, allowed⟩ := Procedure.Obeys.step sweeps consistent step
    refine ⟨changed.elim (fun same => same ▸ .inl .nothing) id, .deleting left, ?_⟩
    intro subnet id reply same
    obtain ⟨_, _, call, stale⟩ := allowed _ same
    cases call
    exact stale

end Phase

theorem Sweep.consistent {s s' : State} (sweep : Sweep s s') (consistent : s.ports.Consistent) :
    s'.ports.Consistent := by
  obtain loss | ⟨f, rfl⟩ := sweep
  · cases loss with
    | port => exact consistent.erase
    | nothing | published | server => exact consistent
  · exact consistent

end StalePorts

namespace Cluster

variable {cached : Store SubnetPort} {start c c' : Cluster} {event : Event State} {id : String}

/-- An id held from the start, or of the port of a Pod that has existed. -/
def Known (cached : Store SubnetPort) (c : Cluster) (id : String) : Prop :=
  (∃ port, cached.get? id = some port) ∨ StalePorts.Live c.past id

/-- A known id that no existing Pod accounts for. -/
def Barred (cached : Store SubnetPort) (c : Cluster) (id : String) : Prop :=
  Known cached c id ∧ ¬StalePorts.Live c.pods id

theorem Change.known (change : Change cached c c') (known : Known cached c id) :
    Known cached c' id := by
  cases change with
  | @podCreated pod =>
    exact known.imp_right fun ⟨old, member, same⟩ => ⟨old, List.mem_cons_of_mem pod member, same⟩
  | podDeleted | portAdded | portDropped | roundStarted => exact known

/-- Once no existing Pod accounts for a known id, none ever does again. -/
theorem Change.barred (change : Change cached c c') (plain : ∀ pod ∈ c.past, '_' ∉ pod.uid.toList)
    (barred : Barred cached c id) : Barred cached c' id := by
  refine ⟨change.known barred.1, ?_⟩
  rintro ⟨pod, existing, rfl⟩
  cases change with
  | podCreated fresh unseen free =>
    obtain rfl | before := List.mem_cons.mp existing
    · obtain ⟨port, held⟩ | ⟨old, past, same⟩ := barred.1
      · exact Option.some_ne_none port (held.symm.trans free)
      · exact fresh old past (Pod.uid_of_portId (plain old past) unseen same)
    · exact barred.2 ⟨pod, before, rfl⟩
  | podDeleted => exact barred.2 ⟨pod, (List.mem_filter.mp existing).1, rfl⟩
  | portAdded | portDropped | roundStarted => exact barred.2 ⟨pod, existing, rfl⟩

/-- What every step keeps. All held ids are known, and each collection is in some phase. -/
structure Tracked (cached : Store SubnetPort) (c : Cluster) : Prop where
  consistent : c.state.ports.Consistent
  past : ∀ pod ∈ c.pods, pod ∈ c.past
  plain : ∀ pod ∈ c.past, '_' ∉ pod.uid.toList
  held : ∀ id port, c.state.ports.get? id = some port → Known cached c id
  phases : ∀ p ∈ c.rounds, StalePorts.Phase (Known cached c) (Barred cached c) p

theorem Initial.tracked (initial : Initial c) : Tracked c.state.ports c where
  consistent := initial.consistent
  past := initial.past
  plain := initial.plain
  held _ port found := .inl ⟨port, found⟩
  phases _ member := absurd (initial.idle ▸ member) List.not_mem_nil

theorem Change.tracked (change : Change cached c c') (tracked : Tracked cached c) :
    Tracked cached c' := by
  have phases : ∀ p ∈ c.rounds, StalePorts.Phase (Known cached c') (Barred cached c') p :=
    fun p member => (tracked.phases p member).mono (fun _ => change.known)
      fun _ => change.barred tracked.plain
  have held : ∀ id port, c.state.ports.get? id = some port → Known cached c' id :=
    fun id port found => change.known (tracked.held id port found)
  cases change with
  | @podCreated pod fresh plain free =>
    have past : ∀ old ∈ pod :: c.pods, old ∈ pod :: c.past :=
      List.forall_mem_cons.mpr ⟨List.mem_cons_self, fun old member =>
        List.mem_cons_of_mem pod (tracked.past old member)⟩
    exact ⟨tracked.consistent, past, List.forall_mem_cons.mpr ⟨plain, tracked.plain⟩, held, phases⟩
  | podDeleted pod =>
    have past : ∀ old ∈ c.pods.filter (· ≠ pod), old ∈ c.past :=
      fun old member => tracked.past old (List.mem_filter.mp member).1
    exact ⟨tracked.consistent, past, tracked.plain, held, phases⟩
  | @portAdded pod port ports existing own tagged applied =>
    refine ⟨tracked.consistent.apply applied, tracked.past, tracked.plain, fun id r found => ?_, phases⟩
    obtain before | ⟨-, key⟩ := Store.held_of_apply applied found
    · exact held id r before
    · exact .inr ⟨pod, tracked.past pod existing, Option.some.inj (own.symm.trans key)⟩
  | portDropped key =>
    exact ⟨tracked.consistent.erase, tracked.past, tracked.plain,
      fun id r found => held id r (Store.held_of_erase found), phases⟩
  | roundStarted order =>
    exact ⟨tracked.consistent, tracked.past, tracked.plain, held,
      List.forall_mem_cons.mpr ⟨.waiting order, phases⟩⟩

theorem Acts.tracked (acts : Acts c event c') (tracked : Tracked cached c) : Tracked cached c' ∧
    ∀ subnet id reply, event = .deed (.call ⟨.deletePort subnet id, reply⟩) → Barred cached c id := by
  obtain ⟨among, step, truthful⟩ := acts
  rename_i before after p p' s
  have member : p ∈ c.rounds := among ▸ List.mem_append_cons_self
  obtain ⟨sweep, phase, barred⟩ := (tracked.phases p member).step tracked.consistent tracked.held
    (fun id known gone => ⟨known, gone⟩) truthful step
  have phases : ∀ q ∈ before ++ p' :: after, StalePorts.Phase (Known cached c) (Barred cached c) q := by
    intro q inside
    obtain earlier | rfl | later : q ∈ before ∨ q = p' ∨ q ∈ after := by simpa using inside
    · exact tracked.phases q (among ▸ List.mem_append_left _ earlier)
    · exact phase
    · exact tracked.phases q (among ▸ List.mem_append_right _ (List.mem_cons_of_mem p later))
  have held : ∀ id port, s.ports.get? id = some port → Known cached c id :=
    fun id port found => tracked.held id port (sweep.drops.ports id port found)
  exact ⟨⟨sweep.consistent tracked.consistent, tracked.past, tracked.plain, held, phases⟩, barred⟩

theorem Reaches.tracked (reaches : Reaches start c) (initial : Initial start) :
    Tracked start.state.ports c := by
  induction reaches with
  | refl => exact initial.tracked
  | tail _ next ih =>
    obtain change | ⟨event, acts⟩ := next
    · exact change.tracked ih
    · exact (acts.tracked ih).1

/-- Whatever happens in between, no collection deletes the port of a Pod that exists then. -/
theorem spares_existing_pods (initial : Initial start) (reaches : Reaches start c)
    {subnet : String} {reply : Call.Reply (.deletePort subnet id)}
    (acts : Acts c (.deed (.call ⟨.deletePort subnet id, reply⟩)) c') :
    ∀ pod ∈ c.pods, Pod.portId pod.name pod.uid ≠ id :=
  fun pod existing same =>
    ((acts.tracked (reaches.tracked initial)).2 subnet id reply rfl).2 ⟨pod, existing, same⟩

namespace Sample

open StalePorts.Sample (portOf)

def gone : Pod := ⟨"ns", "web", "u1"⟩

def recreated : Pod := ⟨"ns", "web", "u2"⟩

def ports : Store SubnetPort := SubnetPort.emptyStore.insert "web_u1" (portOf "u1" (some "/subnet"))

/-- A Pod is gone and its port is still held. -/
def first : Cluster := ⟨.ofStores VirtualServer.emptyStore ports, [], [gone], []⟩

end Sample

open NetIntent.Cluster.Sample StalePorts.Sample StalePorts in
/-- A Pod created again between the two reads of a collection, whose port is held at once, is safe
when that of its predecessor is deleted. -/
theorem spares_recreated_pod : first.Initial ∧ ∃ late last,
    Reaches first late ∧ Acts late (.deed (.call ⟨.deletePort "/subnet" "web_u1", .ok ()⟩)) last ∧
      late.pods = [recreated] ∧ late.state.ports.keys = ["web_u1", "web_u2"] ∧
      ∀ pod ∈ late.pods, Pod.portId pod.name pod.uid ≠ "web_u1" := by
  have initial : first.Initial :=
    ⟨(Store.Consistent.empty _).insert rfl, by decide, by decide, rfl⟩
  have unlisted : ∀ {s s' : State} {pods : List Pod} listed,
      Event.deed (.change s s') = .deed (.call ⟨.pods, .ok listed⟩) → ∀ pod, pod ∈ listed ↔ pod ∈ pods :=
    fun _ same => by cases same
  let held := SubnetPorts.podPortIds first.state
  let listing := Procedure.call .pods (listed (.held String) held)
  have started : Reaches first ⟨first.state, [], [gone], [collect (.held String)]⟩ :=
    .change .refl (.roundStarted (.held String))
  have read : Reaches first ⟨first.state, [], [gone], [listing]⟩ := by
    rw [collect_eq] at started
    have next := started.act (.only (.update id _ first.state) unlisted)
    rwa [if_neg (by decide +kernel)] at next
  have created : Reaches first ⟨first.state, [recreated], [recreated, gone], [listing]⟩ :=
    read.change (@Change.podCreated _ _ recreated (by decide) (by decide) (by decide +kernel))
  let late := first.state.withPorts (·.insert "web_u2" (portOf "u2" (some "/subnet")))
  have cached : Reaches first ⟨late, [recreated], [recreated, gone], [listing]⟩ :=
    created.change (@Change.portAdded _ _ recreated (portOf "u2" (some "/subnet")) _
      (by decide) rfl rfl rfl)
  have deleting : Reaches first ⟨late, [recreated], [recreated, gone], [handleAll ["web_u1"]]⟩ := by
    have next := cached.act (.only (.call .pods _ (.ok [recreated]) late) ?_)
    · rwa [listed, show (held \ livePortIds [recreated]).toList = ["web_u1"] by decide +kernel] at next
    · rintro listed ⟨⟩
      exact fun _ => .rfl
  have stale : (late.withCounters Counters.begin).ports.get? "web_u1" =
      some (portOf "u1" (some "/subnet")) := by decide +kernel
  have keys : late.ports.keys = ["web_u1", "web_u2"] := by decide +kernel
  obtain ⟨rest, pending⟩ : ∃ rest, Reaches first ⟨late.withCounters Counters.begin, [recreated],
      [recreated, gone], [.call (.deletePort "/subnet" "web_u1") rest]⟩ := by
    have next := (deleting.act (.only (.update _ _ late) unlisted)).act (.only (.update id _ _) unlisted)
    dsimp only at next
    rw [stale] at next
    exact ⟨_, next⟩
  have acts := @Acts.only _ _ _ [recreated] [recreated, gone] _ _
    (.call (.deletePort "/subnet" "web_u1") rest (.ok ()) (late.withCounters Counters.begin))
    fun _ same => by cases same
  exact ⟨initial, _, _, pending, acts, rfl, keys, spares_existing_pods initial pending acts⟩

end Cluster

end NetIntent
