import NetIntent.Proofs.Group.Setting
import NetIntent.Service.StalePorts

/-! All operations of the services, and what each may change. Apart from creations, which take up
what they fetched, and collections, which count, an operation only loses records and sets the
addresses last written. -/
namespace NetIntent

structure Services where
  servers : VirtualServers.Settings
  ports : SubnetPorts.Settings

inductive Operation where
  | server (request : VirtualServers.Request)
  | resetBaseline
  | createPort (port : SubnetPort) (subnet : String)
  | deletePort (port : SubnetPort)
  | deletePortById (id : String)
  | deletePortsOfPod (order : VisitOrder SubnetPort) (namespaceName name : String)
  | collect (order : VisitOrder String)

namespace Operation

/-- An operation without its answer. -/
def procedure (services : Services) : Operation → Procedure State Unit
  | server request => (request.procedure services.servers).bind fun _ => .done ()
  | resetBaseline => VirtualServers.resetBaseline
  | createPort port subnet => (SubnetPorts.create services.ports port subnet).bind fun _ => .done ()
  | deletePort port => (SubnetPorts.delete port).bind fun _ => .done ()
  | deletePortById id => (SubnetPorts.deleteById id).bind fun _ => .done ()
  | deletePortsOfPod order namespaceName name =>
    (SubnetPorts.deleteOfPod order namespaceName name).bind fun _ => .done ()
  | collect order => StalePorts.collect order

/-- Operations one after the other. -/
def inTurn (services : Services) : List Operation → Procedure State Unit
  | [] => .done ()
  | operation :: rest => (operation.procedure services).bind fun _ => inTurn services rest

end Operation

/-- A change by which nothing new is held or counted. -/
inductive Loss (s : State) : State → Prop where
  | nothing : Loss s s
  | published (addresses : AddressSet) : Loss s { s with published := addresses }
  | server (id : String) : Loss s (s.withServers (·.erase id))
  | port (id : String) : Loss s (s.withPorts (·.erase id))

namespace VirtualServers

variable (settings : Settings)

theorem publish_loses : (publish settings).Changes Loss := by
  refine fun s _ => ⟨.nothing, ?_⟩
  dsimp only
  split
  · trivial
  · refine ⟨trivial, fun reply => ?_⟩
    cases reply with
    | error e => trivial
    | ok group =>
      refine ⟨trivial, fun reply => ?_⟩
      cases reply with
      | error e => trivial
      | ok _ => exact fun t _ => ⟨.published _, trivial⟩

theorem sync_loses : (sync settings).Changes Loss := by
  unfold sync
  split
  · exact publish_loses settings
  · trivial

theorem delete_loses (id : String) : (delete settings id).Changes Loss := by
  refine ⟨trivial, fun reply => ?_⟩
  dsimp only [Procedure.Obeys]
  split
  · trivial
  · exact fun s _ => ⟨.server id, sync_loses settings⟩

theorem deleteAll_loses (ids : List String) : (deleteAll settings ids).Changes Loss := by
  induction ids with
  | nil => trivial
  | cons id rest ih => exact (delete_loses settings id).bind fun _ => ih.bind fun _ => trivial

theorem deleteForPort_loses (order : VisitOrder VirtualServer) (uid port : String) :
    (deleteForPort settings order uid port).Changes Loss :=
  fun _ _ => ⟨.nothing, (deleteAll_loses settings _).bind fun _ => trivial⟩

theorem resetBaseline_loses : resetBaseline.Changes Loss := fun _ _ => ⟨.published _, trivial⟩

end VirtualServers

namespace SubnetPorts

theorem delete_loses (port : SubnetPort) : (delete port).Changes Loss := by
  unfold delete
  split
  · trivial
  · trivial
  · rename_i id subnet _ _
    refine ⟨trivial, fun reply => ?_⟩
    dsimp only [Procedure.Obeys]
    split
    · trivial
    · exact fun s _ => ⟨.port id, trivial⟩

theorem deleteById_loses (id : String) : (deleteById id).Changes Loss := by
  refine fun s _ => ⟨.nothing, ?_⟩
  dsimp only
  split
  · exact delete_loses _
  · trivial

theorem deleteAll_loses (ports : List SubnetPort) : (deleteAll ports).Changes Loss := by
  induction ports with
  | nil => trivial
  | cons port rest ih =>
    refine (delete_loses port).bind fun result => ?_
    cases result with
    | error f => trivial
    | ok _ => exact ih

theorem deleteOfPod_loses (order : VisitOrder SubnetPort) (namespaceName name : String) :
    (deleteOfPod order namespaceName name).Changes Loss :=
  fun _ _ => ⟨.nothing, deleteAll_loses _⟩

end SubnetPorts

namespace StalePorts

/-- A loss, or a change of the counters. -/
def Sweep (s s' : State) : Prop := Loss s s' ∨ ∃ f, s' = s.withCounters f

theorem handleAll_sweeps (ids : List String) : (handleAll ids).Changes Sweep := by
  induction ids with
  | nil => trivial
  | cons id rest ih =>
    refine fun s _ => ⟨.inr ⟨_, rfl⟩, ?_⟩
    refine ((SubnetPorts.deleteById_loses id).wider fun _ _ => .inl).bind fun result => ?_
    exact fun s _ => ⟨.inr ⟨_, rfl⟩, ih⟩

theorem collect_sweeps (order : VisitOrder String) : (collect order).Changes Sweep := by
  refine fun s _ => ⟨.inl .nothing, ?_⟩
  dsimp only
  split
  · trivial
  · refine ⟨trivial, fun reply => ?_⟩
    cases reply with
    | error e => trivial
    | ok pods => exact handleAll_sweeps _

end StalePorts

/-- An operation loses at most, unless it is a creation or a collection. -/
theorem Operation.procedure_cases (services : Services) (operation : Operation) :
    (operation.procedure services).Changes Loss ∨
      (∃ server, operation = .server (.create server)) ∨
      (∃ port subnet, operation = .createPort port subnet) ∨ ∃ order, operation = .collect order := by
  have unanswered : ∀ {α : Type} {p : Procedure State α}, p.Changes Loss →
      (p.bind fun _ => .done ()).Changes Loss := fun changes => changes.bind fun _ => trivial
  cases operation with
  | server request =>
    cases request with
    | create server => exact .inr (.inl ⟨server, rfl⟩)
    | delete id => exact .inl (unanswered (VirtualServers.delete_loses services.servers id))
    | deleteForPort order uid port =>
      exact .inl (unanswered (VirtualServers.deleteForPort_loses services.servers order uid port))
    | sync => exact .inl (unanswered (VirtualServers.sync_loses services.servers))
  | resetBaseline => exact .inl VirtualServers.resetBaseline_loses
  | createPort port subnet => exact .inr (.inr (.inl ⟨port, subnet, rfl⟩))
  | deletePort port => exact .inl (unanswered (SubnetPorts.delete_loses port))
  | deletePortById id => exact .inl (unanswered (SubnetPorts.deleteById_loses id))
  | deletePortsOfPod order namespaceName name =>
    exact .inl (unanswered (SubnetPorts.deleteOfPod_loses order namespaceName name))
  | collect order => exact .inr (.inr (.inr ⟨order, rfl⟩))

end NetIntent
