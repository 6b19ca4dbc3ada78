import NetIntent.Proofs.Collector.Round

/-! Two notions of the owner of a port. A collection picks ports by the uid that they are tagged with
and spares them by their id, so a port for a listed Pod is safe only under the id made from the name
and the uid of a listed Pod. -/
namespace NetIntent.StalePorts

/-- The uid that a port is tagged with is that of a listed Pod. -/
def ForPod (pods : List Pod) (port : SubnetPort) : Prop :=
  ∃ pod ∈ pods, port.podUid = some pod.uid

def Asked (id : String) (exchanges : List Exchange) : Prop :=
  ∃ subnet reply, ⟨.deletePort subnet id, reply⟩ ∈ exchanges

/-- No port for a listed Pod is asked to be deleted, or lost. -/
def Spares (s : State) (pods : List Pod) (exchanges : List Exchange) (s' : State) : Prop :=
  ∀ id port, s.ports.get? id = some port → ForPod pods port →
    ¬Asked id exchanges ∧ s'.ports.get? id = some port

variable {ω : Type} {world : World State ω} {s s' : State} {w : ω} {id : String} {port : SubnetPort}
  {pods : List Pod} {exchanges : List Exchange} {entries : List Audit.Entry}

theorem ForPod.owned (own : ForPod pods port) (held : s.ports.get? id = some port) : Owned s id := by
  obtain ⟨pod, -, tagged⟩ := own
  exact ⟨port, held, podUid_isSome.mp (Option.isSome_of_eq_some tagged)⟩

theorem Handling.exchange_mem {handled : List Handling} {subnet : String}
    {reply : Call.Reply (.deletePort subnet id)} :
    ⟨.deletePort subnet id, reply⟩ ∈ handled.filterMap Handling.exchange? ↔
      .asked subnet id reply ∈ handled := by
  constructor
  · intro member
    obtain ⟨h, inside, same⟩ := List.mem_filterMap.mp member
    cases h with
    | pathless => cases same
    | asked =>
      cases same
      exact inside
  · exact fun inside => List.mem_filterMap.mpr ⟨_, inside, rfl⟩

theorem Handling.pods_not_mem {handled : List Handling} {reply : Call.Reply .pods} :
    ⟨.pods, reply⟩ ∉ handled.filterMap Handling.exchange? := by
  intro member
  obtain ⟨h, -, same⟩ := List.mem_filterMap.mp member
  cases h <;> cases same

/-- The Pods are listed once, and only after that ports are deleted. -/
theorem Round.listed_once (round : Round s exchanges entries s')
    (listed : ⟨.pods, .ok pods⟩ ∈ exchanges) : ∃ handled : List Handling,
      exchanges = ⟨.pods, .ok pods⟩ :: handled.filterMap Handling.exchange? ∧
      (∀ id, id ∈ handled.map Handling.id ↔ Owned s id ∧ ¬Live pods id) ∧
      (∀ h ∈ handled, h.Of s) ∧ Left s handled s' := by
  cases round with
  | idle => exact absurd listed List.not_mem_nil
  | unlisted =>
    have same := List.mem_singleton.mp listed
    cases same
  | @swept pods' handled _ some once stale paths left kept =>
    obtain same | later := List.mem_cons.mp listed
    · cases same
      exact ⟨handled, rfl, stale, paths, left⟩
    · exact absurd later Handling.pods_not_mem

/-- A held port is asked to be deleted exactly if it is tagged for some Pod, has a subnet path and has
not the id of a listed Pod's port. -/
theorem Round.asked_iff (round : Round s exchanges entries s')
    (listed : ⟨.pods, .ok pods⟩ ∈ exchanges) (held : s.ports.get? id = some port) :
    Asked id exchanges ↔ Owned s id ∧ port.subnetPath.isSome ∧ ¬Live pods id := by
  obtain ⟨handled, rfl, stale, paths, -⟩ := round.listed_once listed
  constructor
  · rintro ⟨subnet, reply, member⟩
    obtain same | later := List.mem_cons.mp member
    · cases same
    · have inside := Handling.exchange_mem.mp later
      obtain ⟨owned, gone⟩ := (stale id).mp (List.mem_map_of_mem inside)
      obtain ⟨port', held', path⟩ := paths _ inside
      obtain rfl := Option.some.inj (held'.symm.trans held)
      exact ⟨owned, Option.isSome_of_eq_some path, gone⟩
  · rintro ⟨owned, path, gone⟩
    obtain ⟨h, inside, rfl⟩ := List.mem_map.mp ((stale id).mpr ⟨owned, gone⟩)
    cases h with
    | pathless key =>
      obtain ⟨port', held', pathless⟩ := paths _ inside
      obtain rfl := Option.some.inj (held'.symm.trans held)
      rw [pathless] at path
      cases path
    | asked subnet key reply =>
      exact ⟨subnet, reply, List.mem_cons_of_mem _ (Handling.exchange_mem.mpr inside)⟩

theorem Round.kept (round : Round s exchanges entries s') (listed : ⟨.pods, .ok pods⟩ ∈ exchanges)
    (spared : ¬Asked id exchanges) : s'.ports.get? id = s.ports.get? id := by
  obtain ⟨handled, rfl, -, -, left⟩ := round.listed_once listed
  refine left.agree.held id ?_
  rintro ⟨h, inside, rfl, removed⟩
  cases h with
  | pathless => cases removed
  | asked subnet key reply =>
    exact spared ⟨subnet, reply, List.mem_cons_of_mem _ (Handling.exchange_mem.mpr inside)⟩

/-- A collection that has a list of the Pods spares their ports exactly if each port with the uid of a
listed Pod that can be deleted has the id of a listed Pod's port. -/
theorem spares_tagged_iff (order : VisitOrder String) (consistent : s.ports.Consistent)
    (listed : ⟨.pods, .ok pods⟩ ∈ (collect order).exchanges world (s, w)) :
    Spares s pods ((collect order).exchanges world (s, w)) ((collect order).run world (s, w)).2.1 ↔
      ∀ id port, s.ports.get? id = some port → ForPod pods port → port.subnetPath.isSome →
        Live pods id := by
  have round := @collect_round _ world s order consistent w
  constructor
  · intro spares id port held own path
    refine Classical.byContradiction fun gone => (spares id port held own).1 ?_
    exact (round.asked_iff listed held).mpr ⟨own.owned held, path, gone⟩
  · intro named id port held own
    have spared : ¬Asked id ((collect order).exchanges world (s, w)) := by
      intro asked
      obtain ⟨-, path, gone⟩ := (round.asked_iff listed held).mp asked
      exact gone (named id port held own path)
    exact ⟨spared, (round.kept listed spared).trans held⟩

namespace Sample

def listing : List Pod := [⟨"ns", "web", "u2"⟩]

def extra : SubnetPort := { portOf "u2" (some "/subnet") with id := some "web_extra" }

/-- The Pod that exists has a second port, which is not named after it. -/
def withExtra : State := start.withPorts (·.insert "web_extra" extra)

theorem listed_of_owned {s : State} (some : (SubnetPorts.podPortIds s).isEmpty = false) :
    ⟨.pods, .ok listing⟩ ∈ round.exchanges remote (s, ()) := by
  simp only [round, collect, Procedure.exchanges_read, some, Bool.false_eq_true, if_false,
    Procedure.exchanges_call]
  exact List.mem_cons_self

end Sample

open NetIntent.StalePorts.Sample in
/-- All ports of Pods are named after them, so that of the listed Pod is spared. -/
theorem spares_second_of_three : start.ports.Consistent ∧
    ⟨.pods, .ok listing⟩ ∈ round.exchanges remote (start, ()) ∧
    Spares start listing (round.exchanges remote (start, ())) (round.run remote (start, ())).2.1 := by
  have listed := @listed_of_owned start (by decide +kernel)
  have named : ∀ key ∈ start.ports.keys,
      (start.ports.get? key).bind SubnetPort.podUid = some "u2" → key = "web_u2" := by
    decide +kernel
  refine ⟨ports_consistent, listed, (spares_tagged_iff (.held String) ports_consistent listed).mpr ?_⟩
  intro id port held own _
  obtain ⟨pod, member, tagged⟩ := own
  obtain rfl : pod = ⟨"ns", "web", "u2"⟩ := List.mem_singleton.mp member
  have key : id ∈ start.ports.keys := Store.mem_keys.mpr (Option.isSome_of_eq_some held)
  obtain rfl := named id key (by rw [held, Option.bind_some, tagged])
  exact ⟨_, member, rfl⟩

open NetIntent.StalePorts.Sample in
/-- The second port for the same Pod is deleted and lost. -/
theorem extra_port_deleted : withExtra.ports.Consistent ∧ ForPod listing extra ∧
    ⟨.pods, .ok listing⟩ ∈ round.exchanges remote (withExtra, ()) ∧
    ¬Spares withExtra listing (round.exchanges remote (withExtra, ()))
      (round.run remote (withExtra, ())).2.1 := by
  have own : ForPod listing extra := ⟨⟨"ns", "web", "u2"⟩, List.mem_singleton_self _, rfl⟩
  have consistent : withExtra.ports.Consistent := ports_consistent.insert rfl
  have held : withExtra.ports.get? "web_extra" = some extra := by decide +kernel
  have lost : (round.run remote (withExtra, ())).2.1.ports.get? "web_extra" = none := by
    decide +kernel
  refine ⟨consistent, own, listed_of_owned (by decide +kernel), ?_⟩
  intro spares
  have kept := (spares "web_extra" extra held own).2
  rw [lost] at kept
  cases kept

end NetIntent.StalePorts
