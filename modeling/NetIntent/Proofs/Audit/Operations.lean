import NetIntent.Proofs.Audit.Trail

/-! Every course of every operation is a trail. -/
namespace NetIntent

open Realization (budget)
open Audit

variable {α β : Type} {services : Services}

/-- Every course of a procedure is a trail. -/
def Trails (services : Services) (p : Procedure State α) : Prop :=
  ∀ deeds a, p.Goes deeds a → Trail services deeds

/-- Every course of a procedure is a trail without rounds. -/
def Matches (services : Services) (p : Procedure State α) : Prop :=
  ∀ deeds a, p.Goes deeds a → Matched services deeds

theorem Trails.bind {p : Procedure State α} {f : α → Procedure State β} (first : Trails services p)
    (rest : ∀ a, Trails services (f a)) : Trails services (p.bind f) := by
  intro deeds b goes
  obtain ⟨before, a, later, rfl, goes, follows⟩ := goes.parts
  exact (first before a goes).append (rest a later b follows)

namespace Matches

variable {p : Procedure State α}

theorem trails (matched : Matches services p) : Trails services p :=
  fun deeds a goes => (matched deeds a goes).trail

theorem bind {f : α → Procedure State β} (first : Matches services p)
    (rest : ∀ a, Matches services (f a)) : Matches services (p.bind f) := by
  intro deeds b goes
  obtain ⟨before, a, later, rfl, goes, follows⟩ := goes.parts
  exact (first before a goes).append (rest a later b follows)

theorem of_only (only : p.Only Deed.Plain) : Matches services p :=
  fun _ _ goes => .of_plain (only.goes goes)

theorem done (a : α) : Matches services (.done a : Procedure State α) := of_only trivial

theorem read {rest : State → Procedure State α} (later : ∀ s, Matches services (rest s)) :
    Matches services (.read rest) := by
  rintro deeds a ⟨s, _, rfl, goes⟩
  exact .plain rfl (later s _ a goes)

/-- An object is looked up, its stages are gone through and recorded, and nothing further needs an
entry. -/
theorem staged {kind id path : String} {submit fetch : Call} {policy : Backoff} {held : State → Bool}
    {entry : State → Except Failure fetch.Answer → Entry}
    {rest : Except Failure fetch.Answer → Procedure State α}
    (submission : Submission services kind id submit fetch path (budget policy) held)
    (reports : ∀ s result, (entry s result).Reports (if held s then .modify else .create) kind id
      (Failure.messageOf result))
    (plain : ∀ result, (rest result).Only Deed.Plain) :
    Matches services (.read fun s =>
      (NetIntent.staged policy path submit fetch).bind fun result =>
        .record (entry s result) (rest result)) := by
  rintro deeds a ⟨s, _, rfl, goes⟩
  obtain ⟨staging, result, _, rfl, ended, later, rfl, follows⟩ := goes.parts
  obtain ⟨exchanges, rfl, stages⟩ := staged_goes ended
  exact .submission submission stages (reports s result) (.of_plain ((plain result).goes follows))

/-- A deletion is answered and recorded, and nothing further needs an entry. -/
theorem deletion {c : Call} {kind id : String} {entry : c.Reply → Entry}
    {rest : c.Reply → Procedure State α} (deletes : c.mutation? = some (.deletion kind id))
    (reports : ∀ reply, (entry reply).Reports .delete kind id (deletionError reply))
    (plain : ∀ reply, (rest reply).Only Deed.Plain) :
    Matches services (.call c fun reply => .record (entry reply) (rest reply)) := by
  rintro deeds a ⟨reply, _, rfl, later, rfl, goes⟩
  exact .deletion deletes (reports reply) (.of_plain ((plain reply).goes goes))

end Matches

namespace VirtualServers

variable (settings : Settings)

theorem publish_plain : (publish settings).Only Deed.Plain := by
  refine fun s => ⟨rfl, ?_⟩
  dsimp only
  split
  · trivial
  · refine fun reply => ⟨rfl, ?_⟩
    cases reply with
    | error e => trivial
    | ok group =>
      refine fun reply => ⟨rfl, ?_⟩
      cases reply with
      | error e => trivial
      | ok _ => exact fun t => ⟨rfl, trivial⟩

theorem sync_plain : (sync settings).Only Deed.Plain := by
  unfold sync
  split
  · exact publish_plain settings
  · trivial

theorem resetBaseline_plain : resetBaseline.Only Deed.Plain := fun _ => ⟨rfl, trivial⟩

theorem hold_plain (confirmed : VirtualServer) : (hold settings confirmed).Only Deed.Plain := by
  refine fun s => ⟨rfl, ?_⟩
  dsimp only
  split
  · trivial
  · exact (sync_plain settings).bind fun _ => trivial

theorem createEntry_reports (held : Bool) (id : String) (server : VirtualServer)
    (result : Except Failure VirtualServer) :
    (createEntry held id server result).Reports (if held then .modify else .create) VirtualServer.kind id
      (Failure.messageOf result) := Entry.about_reports ..

theorem deleteEntry_reports (id : String) (reply : Except ClientError Unit) :
    (deleteEntry id (Failure.ofDeletion reply)).Reports .delete VirtualServer.kind id
      (deletionError reply) :=
  messageOf_ofDeletion reply ▸ Entry.about_reports ..

theorem create_matches (server : VirtualServer) : Matches services (create services.servers server) := by
  unfold create
  split
  · exact .done _
  · simp only [realize_eq_staged]
    refine .staged (.server _ server) (fun s => createEntry_reports _ _ server) fun result => ?_
    cases result with
    | error f => trivial
    | ok confirmed => exact hold_plain services.servers confirmed

theorem delete_matches (id : String) : Matches services (delete services.servers id) := by
  refine .deletion rfl (deleteEntry_reports id) fun reply => ?_
  cases Failure.ofDeletion reply with
  | error f => trivial
  | ok _ => exact fun s => ⟨rfl, sync_plain services.servers⟩

theorem deleteAll_matches (ids : List String) : Matches services (deleteAll services.servers ids) := by
  induction ids with
  | nil => exact .done _
  | cons id rest ih => exact (delete_matches id).bind fun _ => ih.bind fun _ => .done _

theorem deleteForPort_matches (order : VisitOrder VirtualServer) (uid port : String) :
    Matches services (deleteForPort services.servers order uid port) :=
  .read fun _ => (deleteAll_matches _).bind fun _ => .done _

end VirtualServers

namespace SubnetPorts

theorem hold_plain (port : SubnetPort) : (hold port).Only Deed.Plain := by
  refine fun s => ⟨rfl, ?_⟩
  dsimp only
  split <;> trivial

theorem createEntry_reports (held : Bool) (subnet id : String) (result : Except Failure SubnetPort) :
    (createEntry held subnet id result).Reports (if held then .modify else .create) SubnetPort.kind id
      (Failure.messageOf result) := Entry.about_reports ..

theorem deleteEntry_reports (id : String) (reply : Except ClientError Unit) :
    (deleteEntry id (Failure.ofDeletion reply)).Reports .delete SubnetPort.kind id
      (deletionError reply) :=
  messageOf_ofDeletion reply ▸ Entry.about_reports ..

theorem create_matches (port : SubnetPort) (subnet : String) :
    Matches services (create services.ports port subnet) := by
  unfold create
  split
  · exact .done _
  · simp only [realize_eq_staged]
    refine .staged (.port subnet _ port) (fun s => createEntry_reports _ subnet _) fun result => ?_
    cases result with
    | error f => trivial
    | ok object => exact hold_plain _

theorem delete_matches (port : SubnetPort) : Matches services (delete port) := by
  unfold delete
  split
  · exact .done _
  · exact .done _
  · refine .deletion rfl (deleteEntry_reports _) fun reply => ?_
    cases Failure.ofDeletion reply with
    | error f => trivial
    | ok _ => exact fun s => ⟨rfl, trivial⟩

theorem deleteById_matches (id : String) : Matches services (deleteById id) := by
  refine .read fun s => ?_
  split
  · exact delete_matches _
  · exact .done _

theorem deleteAll_matches (ports : List SubnetPort) : Matches services (deleteAll ports) := by
  induction ports with
  | nil => exact .done _
  | cons port rest ih =>
    refine (delete_matches port).bind fun result => ?_
    cases result with
    | error f => exact .done _
    | ok _ => exact ih

theorem deleteOfPod_matches (order : VisitOrder SubnetPort) (namespaceName name : String) :
    Matches services (deleteOfPod order namespaceName name) :=
  .read fun _ => deleteAll_matches _

end SubnetPorts

namespace StalePorts

theorem entry_reports (id : String) (result : Except Failure Unit) :
    (entry id result).Reports .collect SubnetPort.kind id (Failure.messageOf result) :=
  Entry.about_reports ..

theorem handleAll_handled {ids : List String} {deeds : List (Deed State)}
    (goes : (handleAll ids).Goes deeds ()) : Handled services ids deeds := by
  induction ids generalizing deeds with
  | nil =>
    obtain ⟨rfl, -⟩ := goes
    exact .nothing
  | cons id rest ih =>
    obtain ⟨s, _, rfl, goes⟩ := goes
    obtain ⟨deleting, result, _, rfl, deleted, _, rfl, s', later, rfl, follows⟩ := goes.parts
    exact .port deleted (SubnetPorts.deleteById_matches id deleting result deleted)
      (entry_reports id result) (ih follows)

theorem collect_trails (order : VisitOrder String) : Trails services (collect order) := by
  rintro deeds a ⟨s, later, rfl, goes⟩
  dsimp only at goes
  split at goes
  · obtain ⟨rfl, -⟩ := goes
    have idle : Matched services [.change s s] := .plain rfl .nothing
    exact idle.trail
  · obtain ⟨reply, later, rfl, goes⟩ := goes
    cases reply with
    | error e =>
      obtain ⟨rfl, -⟩ := goes
      have unlisted : Matched services [.change s s, .call ⟨.pods, .error e⟩] :=
        .plain rfl (.plain rfl .nothing)
      exact unlisted.trail
    | ok pods =>
      have handled : Handled services _ later := handleAll_handled goes
      have round := Trail.round handled .nothing
      rwa [List.append_nil] at round

end StalePorts

namespace Operation

theorem procedure_trails (operation : Operation) : Trails services (operation.procedure services) := by
  have unanswered : ∀ {α : Type} {p : Procedure State α}, Matches services p →
      Trails services (p.bind fun _ => .done ()) :=
    fun matched => (matched.bind fun _ => .done ()).trails
  cases operation with
  | server request =>
    cases request with
    | create server => exact unanswered (VirtualServers.create_matches server)
    | delete id => exact unanswered (VirtualServers.delete_matches id)
    | deleteForPort order uid port => exact unanswered (VirtualServers.deleteForPort_matches order uid port)
    | sync => exact unanswered (.of_only (VirtualServers.sync_plain services.servers))
  | resetBaseline => exact (Matches.of_only VirtualServers.resetBaseline_plain).trails
  | createPort port subnet => exact unanswered (SubnetPorts.create_matches port subnet)
  | deletePort port => exact unanswered (SubnetPorts.delete_matches port)
  | deletePortById id => exact unanswered (SubnetPorts.deleteById_matches id)
  | deletePortsOfPod order namespaceName name =>
    exact unanswered (SubnetPorts.deleteOfPod_matches order namespaceName name)
  | collect order => exact StalePorts.collect_trails order

theorem inTurn_trails (operations : List Operation) : Trails services (inTurn services operations) := by
  induction operations with
  | nil => exact (Matches.done ()).trails
  | cons operation rest ih => exact operation.procedure_trails.bind fun _ => ih

end Operation

end NetIntent
