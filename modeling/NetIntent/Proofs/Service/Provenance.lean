import NetIntent.Proofs.Service.Operations
import NetIntent.Proofs.Service.Submission

/-! Where held records come from. A creation is a transaction, and no other operation takes records
up; so whatever is held after any operations was held before or has been submitted, realized and
fetched in between. -/
namespace NetIntent

open Realization (budget)

variable {ω : Type} {world : World State ω} {services : Services} {s s' s'' : State}
  {exchanges exchanges' : List Exchange}

/-- Everything held afterwards was held before. -/
structure Drops (s s' : State) : Prop where
  servers : ∀ key r, s'.servers.get? key = some r → s.servers.get? key = some r
  ports : ∀ key r, s'.ports.get? key = some r → s.ports.get? key = some r

theorem Drops.refl (s : State) : Drops s s := ⟨fun _ _ => id, fun _ _ => id⟩

theorem Drops.trans (first : Drops s s') (rest : Drops s' s'') : Drops s s'' where
  servers key r held := first.servers key r (rest.servers key r held)
  ports key r held := first.ports key r (rest.ports key r held)

theorem Loss.drops (loss : Loss s s') : Drops s s' := by
  cases loss with
  | nothing | published => exact ⟨fun _ _ held => held, fun _ _ held => held⟩
  | server key => exact ⟨fun _ _ => Store.held_of_erase, fun _ _ held => held⟩
  | port key => exact ⟨fun _ _ held => held, fun _ _ => Store.held_of_erase⟩

theorem StalePorts.Sweep.drops (sweep : StalePorts.Sweep s s') : Drops s s' := by
  obtain loss | ⟨f, rfl⟩ := sweep
  · exact loss.drops
  · exact ⟨fun _ _ held => held, fun _ _ held => held⟩

/-- Every record held afterwards was held before, or stages that succeeded are among the exchanges in
between and have fetched it. -/
structure Sourced (services : Services) (s : State) (exchanges : List Exchange) (s' : State) : Prop where
  servers : ∀ key r, s'.servers.get? key = some r → s.servers.get? key = some r ∨
    ∃ id server stages, stages <:+: exchanges ∧
      Stages (.patchServer id server) (.getServer id) (Path.virtualServer id)
        (budget services.servers.policy) stages (.ok r)
  ports : ∀ key r, s'.ports.get? key = some r → s.ports.get? key = some r ∨
    ∃ subnet id port stages fetched, stages <:+: exchanges ∧
      Stages (.patchPort subnet id port) (.getPort subnet id) (Path.subnetPort subnet id)
        (budget services.ports.policy) stages (.ok fetched) ∧
      r = { fetched with parentPath := some (fetched.parentPath.getD subnet) }

namespace Sourced

theorem of_drops (drops : Drops s s') : Sourced services s exchanges s' :=
  ⟨fun key r held => .inl (drops.servers key r held), fun key r held => .inl (drops.ports key r held)⟩

theorem trans (first : Sourced services s exchanges s') (rest : Sourced services s' exchanges' s'') :
    Sourced services s (exchanges ++ exchanges') s'' where
  servers key r held := by
    obtain before | ⟨id, server, stages, inside, fetched⟩ := rest.servers key r held
    · obtain before | ⟨id, server, stages, inside, fetched⟩ := first.servers key r before
      · exact .inl before
      · exact .inr ⟨id, server, stages, inside.trans (List.prefix_append ..).isInfix, fetched⟩
    · exact .inr ⟨id, server, stages, inside.trans (List.suffix_append ..).isInfix, fetched⟩
  ports key r held := by
    obtain before | ⟨subnet, id, port, stages, object, inside, fetched⟩ := rest.ports key r held
    · obtain before | ⟨subnet, id, port, stages, object, inside, fetched⟩ := first.ports key r before
      · exact .inl before
      · exact .inr ⟨subnet, id, port, stages, object, inside.trans (List.prefix_append ..).isInfix,
          fetched⟩
    · exact .inr ⟨subnet, id, port, stages, object, inside.trans (List.suffix_append ..).isInfix,
        fetched⟩

end Sourced

/-- What a transaction leaves in its store: a record held before, or the one it fetched. -/
theorem Transaction.held {R : Type} [Indexed R] {submit fetch : Call} {path : String} {allowed : Nat}
    {store : State → Store R} {put : State → Store R → State} {adopt : fetch.Answer → R}
    {calls : List (Procedure.Moment State ω)} {answer : Except Failure R}
    (transaction : Transaction world submit fetch path allowed store put adopt s calls answer s')
    {key : String} {r : R} (found : (store s').get? key = some r) :
    (store s).get? key = some r ∨ ∃ stages object, stages <:+: calls.map (·.exchange world) ∧
      Stages submit fetch path allowed stages (.ok object) ∧ r = adopt object := by
  cases transaction with
  | failed => exact .inl found
  | fetched stages before holding =>
    cases holding with
    | refused => exact .inl found
    | held applied agree publishing kept rest answered =>
      rw [kept] at found
      obtain before | ⟨same, -⟩ := Store.held_of_apply applied found
      · exact .inl before
      · rw [List.map_append]
        exact .inr ⟨_, _, (List.prefix_append ..).isInfix, stages, same⟩

/-- Outside its store a transaction changes nothing but the addresses last written. -/
theorem Transaction.rest {R : Type} [Indexed R] {submit fetch : Call} {path : String} {allowed : Nat}
    {store : State → Store R} {put : State → Store R → State} {adopt : fetch.Answer → R}
    {calls : List (Procedure.Moment State ω)} {answer : Except Failure R}
    (transaction : Transaction world submit fetch path allowed store put adopt s calls answer s') :
    s' = s ∨ s' = { put s (store s') with published := s'.published } := by
  cases transaction with
  | failed => exact .inl rfl
  | fetched stages before holding =>
    cases holding with
    | refused => exact .inl rfl
    | held applied agree publishing kept rest answered => exact .inr (kept ▸ rest)

namespace VirtualServers

theorem create_unsubmitted (settings : Settings) {server : VirtualServer} (missing : server.id = none)
    (state : State × ω) :
    (create settings server).run world state = (.error (.missingId VirtualServer.kind), state) ∧
      (create settings server).moments world state = [] := by
  simp only [create, missing]
  exact ⟨rfl, rfl⟩

theorem create_sourced (quiet : world.Quiet) (server : VirtualServer) (s : State) (w : ω) :
    Sourced services s ((create services.servers server).exchanges world (s, w))
      ((create services.servers server).run world (s, w)).2.1 := by
  cases given : server.id with
  | none =>
    rw [(create_unsubmitted services.servers given (s, w)).1]
    exact .of_drops (.refl s)
  | some id =>
    have transaction := create_transaction services.servers quiet given s w
    refine ⟨fun key r held => ?_, fun key r held => .inl ?_⟩
    · obtain before | ⟨stages, _, inside, fetched, rfl⟩ := transaction.held held
      · exact .inl before
      · exact .inr ⟨id, server, stages, inside, fetched⟩
    · obtain same | rest := transaction.rest
      · rwa [same] at held
      · rwa [rest] at held

end VirtualServers

namespace SubnetPorts

theorem confirmed_eq (subnet : String) : confirmed subnet = fun port =>
    { port with parentPath := some (port.parentPath.getD subnet) } := by
  funext port
  unfold confirmed
  cases port.parentPath <;> rfl

theorem create_unsubmitted (settings : Settings) {port : SubnetPort} (missing : port.id = none)
    (subnet : String) (state : State × ω) :
    (create settings port subnet).run world state = (.error (.missingId SubnetPort.kind), state) ∧
      (create settings port subnet).moments world state = [] := by
  simp only [create, missing]
  exact ⟨rfl, rfl⟩

theorem create_sourced (quiet : world.Quiet) (port : SubnetPort) (subnet : String) (s : State) (w : ω) :
    Sourced services s ((create services.ports port subnet).exchanges world (s, w))
      ((create services.ports port subnet).run world (s, w)).2.1 := by
  cases given : port.id with
  | none =>
    rw [(create_unsubmitted services.ports given subnet (s, w)).1]
    exact .of_drops (.refl s)
  | some id =>
    have transaction := create_transaction services.ports quiet given subnet s w
    refine ⟨fun key r held => .inl ?_, fun key r held => ?_⟩
    · obtain same | rest := transaction.rest
      · rwa [same] at held
      · rwa [rest] at held
    · rw [confirmed_eq] at transaction
      obtain before | ⟨stages, object, inside, fetched, same⟩ := transaction.held held
      · exact .inl before
      · exact .inr ⟨subnet, id, port, stages, object, inside, fetched, same⟩

end SubnetPorts

namespace Operation

theorem procedure_sourced (quiet : world.Quiet) (operation : Operation) (s : State) (w : ω) :
    Sourced services s ((operation.procedure services).exchanges world (s, w))
      ((operation.procedure services).run world (s, w)).2.1 := by
  have drops : (operation.procedure services).Changes Drops →
      Sourced services s ((operation.procedure services).exchanges world (s, w))
        ((operation.procedure services).run world (s, w)).2.1 :=
    fun changes => .of_drops (changes.run .refl .trans quiet s w)
  obtain changes | ⟨server, rfl⟩ | ⟨port, subnet, rfl⟩ | ⟨order, rfl⟩ :=
    operation.procedure_cases services
  · exact drops (changes.wider fun _ _ => Loss.drops)
  · simp only [procedure, VirtualServers.Request.procedure, Procedure.exchanges_bind,
      Procedure.run_bind, Procedure.exchanges_done, Procedure.run, List.append_nil]
    exact VirtualServers.create_sourced quiet server s w
  · simp only [procedure, Procedure.exchanges_bind, Procedure.run_bind, Procedure.exchanges_done,
      Procedure.run, List.append_nil]
    exact SubnetPorts.create_sourced quiet port subnet s w
  · exact drops ((StalePorts.collect_sweeps order).wider fun _ _ sweep => sweep.drops)

theorem inTurn_sourced (quiet : world.Quiet) (operations : List Operation) (s : State) (w : ω) :
    Sourced services s ((inTurn services operations).exchanges world (s, w))
      ((inTurn services operations).run world (s, w)).2.1 := by
  induction operations generalizing s w with
  | nil => exact .of_drops (.refl s)
  | cons operation rest ih =>
    have first := @procedure_sourced ω world services quiet operation s w
    simp only [inTurn, Procedure.exchanges_bind, Procedure.run_bind]
    exact first.trans (ih _ _)

end Operation

/-- Creations of both kinds are transactions, and what is held after any operations comes from
them. -/
theorem held_only_after_realization (services : Services) (quiet : world.Quiet) :
    (∀ (server : VirtualServer) (s : State) (w : ω),
      (server.id = none →
        (VirtualServers.create services.servers server).run world (s, w) =
            (.error (.missingId VirtualServer.kind), s, w) ∧
          (VirtualServers.create services.servers server).moments world (s, w) = []) ∧
      ∀ id, server.id = some id →
        Transaction world (.patchServer id server) (.getServer id) (Path.virtualServer id)
          (budget services.servers.policy) State.servers VirtualServers.put (fun fetched => fetched) s
          ((VirtualServers.create services.servers server).moments world (s, w))
          ((VirtualServers.create services.servers server).run world (s, w)).1
          ((VirtualServers.create services.servers server).run world (s, w)).2.1) ∧
    (∀ (port : SubnetPort) (subnet : String) (s : State) (w : ω),
      (port.id = none →
        (SubnetPorts.create services.ports port subnet).run world (s, w) =
            (.error (.missingId SubnetPort.kind), s, w) ∧
          (SubnetPorts.create services.ports port subnet).moments world (s, w) = []) ∧
      ∀ id, port.id = some id →
        Transaction world (.patchPort subnet id port) (.getPort subnet id) (Path.subnetPort subnet id)
          (budget services.ports.policy) State.ports SubnetPorts.put
          (fun fetched => { fetched with parentPath := some (fetched.parentPath.getD subnet) }) s
          ((SubnetPorts.create services.ports port subnet).moments world (s, w))
          ((SubnetPorts.create services.ports port subnet).run world (s, w)).1
          ((SubnetPorts.create services.ports port subnet).run world (s, w)).2.1) ∧
    ∀ (operations : List Operation) (s : State) (w : ω),
      Sourced services s ((Operation.inTurn services operations).exchanges world (s, w))
        ((Operation.inTurn services operations).run world (s, w)).2.1 := by
  refine ⟨fun server s w => ⟨fun missing => ?_, fun id given => ?_⟩,
    fun port subnet s w => ⟨fun missing => ?_, fun id given => ?_⟩, Operation.inTurn_sourced quiet⟩
  · exact VirtualServers.create_unsubmitted services.servers missing (s, w)
  · exact VirtualServers.create_transaction services.servers quiet given s w
  · exact SubnetPorts.create_unsubmitted services.ports missing subnet (s, w)
  · rw [← SubnetPorts.confirmed_eq]
    exact SubnetPorts.create_transaction services.ports quiet given subnet s w

namespace Sample

def assembly : Services := ⟨VirtualServers.Sample.standard, ⟨.subnet⟩⟩

/-- The first request for the object submitted, the third call, is not answered. -/
def forgetful : World State VirtualServers.Cloud :=
  VirtualServers.Remote.world (.faulty VirtualServers.Sample.server [2] false)

def vacant : VirtualServers.Scene := VirtualServers.Sample.start VirtualServer.emptyStore [] []

/-- The same creation twice. -/
def creations : Procedure State Unit :=
  Operation.inTurn assembly [.server (.create VirtualServers.Sample.server),
    .server (.create VirtualServers.Sample.server)]

end Sample

open Sample in
/-- A creation that cannot fetch its object holds nothing, and the next one does. -/
theorem held_after_second_creation :
    forgetful.Quiet ∧
      Transaction forgetful (.patchServer "b" VirtualServers.Sample.server) (.getServer "b")
        (Path.virtualServer "b") (budget assembly.servers.policy) State.servers VirtualServers.put
        (fun fetched => fetched) vacant.state
        ((VirtualServers.create assembly.servers VirtualServers.Sample.server).moments forgetful
          (vacant.state, vacant.cloud))
        (.error (.client (.transport "connection reset"))) vacant.state ∧
      Sourced assembly vacant.state (creations.exchanges forgetful (vacant.state, vacant.cloud))
        (creations.run forgetful (vacant.state, vacant.cloud)).2.1 ∧
      (creations.run forgetful (vacant.state, vacant.cloud)).2.1.servers.keys = ["b"] := by
  have quiet : forgetful.Quiet := fun _ _ _ => rfl
  have law := held_only_after_realization assembly quiet
  exact ⟨quiet, (law.1 VirtualServers.Sample.server vacant.state vacant.cloud).2 "b" rfl,
    law.2.2 _ vacant.state vacant.cloud, by decide +kernel⟩

end NetIntent
