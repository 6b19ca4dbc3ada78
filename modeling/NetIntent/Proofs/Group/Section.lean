import NetIntent.Proofs.Group.Addresses
import NetIntent.Proofs.Group.Effects
import NetIntent.Proofs.Interleaving
import NetIntent.Proofs.Realize.Polling

/-! Creations and deletions among others, cut at the section that one of them at a time may be in.
Before it a call changes the store at most, once and last; within it nothing else touches the group, so
what it read of the group and of the addresses last written still stands when it writes. -/
namespace NetIntent.VirtualServers

inductive Mutation where
  | create (server : VirtualServer)
  | delete (id : String)

/-- A creation or a deletion, without the server that a creation answers with. -/
def Mutation.procedure (settings : Settings) : Mutation → Procedure State (Except Failure Unit)
  | create server =>
    (VirtualServers.create settings server).bind fun result => .done (result.map fun _ => ())
  | delete id => VirtualServers.delete settings id

/-- What is left of a call before its section: it leaves the group alone, and the addresses last
written, and after a change of the store only its section is left. -/
def Prepares (settings : Settings) : Procedure State (Except Failure Unit) → Prop
  | .done _ => True
  | .update next rest => ∀ s, (next s = s ∧ Prepares settings (rest s)) ∨
      ((next s).published = s.published ∧ rest s = .enter (publish settings))
  | .call c rest => c.onGroup = false ∧ ∀ reply, Prepares settings (rest reply)
  | .record _ rest | .pause _ rest => Prepares settings rest
  | .draw _ rest => ∀ x, Prepares settings (rest x)
  | .enter _ | .leave _ => False

variable {settings : Settings}

theorem prepares_asks {α : Type} {p : Procedure State α} {path : String}
    (asks : p.Asks (· = .entities path)) {f : α → Procedure State (Except Failure Unit)}
    (rest : ∀ a, Prepares settings (f a)) : Prepares settings (p.bind f) := by
  induction p with
  | done a => exact rest a
  | update => exact asks.elim
  | call c _ ih =>
    obtain ⟨rfl, asks⟩ := asks
    exact ⟨rfl, fun reply => ih reply (asks reply)⟩
  | record _ _ ih => exact ih asks
  | draw _ _ ih => exact fun x => ih x (asks x)
  | pause _ _ ih => exact ih asks
  | enter => exact asks.elim
  | leave => exact asks.elim

theorem sync_eq (enabled : settings.vipGroup.enabled = true) :
    sync settings = .enter (publish settings) := if_pos enabled

theorem delete_prepares (enabled : settings.vipGroup.enabled = true) (id : String) :
    Prepares settings (delete settings id) := by
  refine ⟨rfl, fun reply => ?_⟩
  dsimp only [Prepares]
  split
  · trivial
  · exact fun s => .inr ⟨rfl, sync_eq enabled⟩

theorem realize_prepares (id : String) (server : VirtualServer)
    {f : Except Failure VirtualServer → Procedure State (Except Failure Unit)}
    (rest : ∀ result, Prepares settings (f result)) :
    Prepares settings ((realize settings id server).bind f) := by
  refine ⟨rfl, fun reply => ?_⟩
  cases reply with
  | error e => exact rest _
  | ok =>
    dsimp only
    rw [Procedure.bind_assoc]
    refine prepares_asks (Realization.poll_asks settings.policy (Path.virtualServer id) []) ?_
    intro ended
    cases ended with
    | error e => exact rest _
    | ok => exact ⟨rfl, fun reply => rest _⟩

theorem hold_prepares (enabled : settings.vipGroup.enabled = true) (confirmed : VirtualServer) :
    Prepares settings
      ((hold settings confirmed).bind fun result => .done (result.map fun _ => ())) := by
  intro s
  dsimp only
  cases applied : s.servers.apply confirmed with
  | error e =>
    refine .inl ⟨?_, trivial⟩
    simp only [State.withServers, applied, Except.toOption, Option.getD_none]
  | ok servers =>
    refine .inr ⟨rfl, ?_⟩
    dsimp only
    rw [Procedure.bind_assoc, sync_eq enabled]
    refine congrArg Procedure.enter ((congrArg (publish settings).bind (funext fun result => ?_)).trans
      (Procedure.bind_done _))
    cases result <;> rfl

theorem create_prepares (enabled : settings.vipGroup.enabled = true) (server : VirtualServer) :
    Prepares settings
      ((create settings server).bind fun result => .done (result.map fun _ => ())) := by
  unfold create
  split
  · trivial
  · refine fun s => .inl ⟨rfl, ?_⟩
    dsimp only
    rw [Procedure.bind_assoc]
    refine realize_prepares _ server fun result => ?_
    cases result with
    | error f => trivial
    | ok confirmed => exact hold_prepares enabled confirmed

theorem Mutation.prepares (enabled : settings.vipGroup.enabled = true) (mutation : Mutation) :
    Prepares settings (mutation.procedure settings) := by
  cases mutation with
  | create server => exact create_prepares enabled server
  | delete id => exact delete_prepares enabled id

/-- The group has one list at most, of the addresses of others and of some of our own. -/
def Holds (foreign own : AddressSet) (g : Group) : Prop :=
  g.lists.length ≤ 1 ∧ g.addresses = foreign ∪ own

theorem Holds.update {foreign old : AddressSet} {g : Group} (holds : Holds foreign old g)
    (apart : ∀ a ∈ foreign, a ∉ old) (new : AddressSet) : Holds foreign new (g.update old new) := by
  refine ⟨Group.lists_update, Std.ExtTreeSet.ext_mem fun a => ?_⟩
  rw [Group.mem_addresses_update, holds.2, Std.ExtTreeSet.mem_union_iff, Std.ExtTreeSet.mem_union_iff]
  have own := apart a
  grind

/-- What is left of a section after the group write was answered. -/
def written (new : AddressSet) : Except ClientError Unit → Procedure State (Except Failure Unit)
  | .error e => .leave (.done (.error (.client e)))
  | .ok () => .update (fun s => { s with published := new }) fun _ => .leave (.done (.ok ()))

/-- What is left of a section after the group was fetched. -/
def fetched (settings : Settings) (old new : AddressSet) :
    Except ClientError Group → Procedure State (Except Failure Unit)
  | .error e => .leave (.done (.error (.client e)))
  | .ok group =>
    .call (.patchGroup settings.vipGroup.domain settings.vipGroup.group (group.update old new))
      (written new)

theorem publish_eq : publish settings = .read fun s =>
    if s.published = s.addresses then .leave (.done (.ok ()))
    else .call settings.fetch (fetched settings s.published s.addresses) := by
  refine congrArg Procedure.read (funext fun s => ?_)
  refine congrArg (ite _ _) (congrArg (Procedure.call settings.fetch) (funext fun reply => ?_))
  cases reply with
  | error e => rfl
  | ok group =>
    refine congrArg (Procedure.call _) (funext fun reply => ?_)
    cases reply <;> rfl

/-- What is left of a call within its section, while the group and the addresses last written are as
given. What it read of the store is fresh as far as may be said of it. -/
inductive Inside (settings : Settings) (foreign : AddressSet) (fresh : AddressSet → Prop)
    (published : AddressSet) (g : Group) : Procedure State (Except Failure Unit) → Prop where
  | reading (holds : Holds foreign published g) :
      Inside settings foreign fresh published g (publish settings)
  | fetching {new : AddressSet} (holds : Holds foreign published g) (read : fresh new) :
      Inside settings foreign fresh published g (.call settings.fetch (fetched settings published new))
  | writing {new : AddressSet} (holds : Holds foreign published g) (read : fresh new) :
      Inside settings foreign fresh published g
        (.call (.patchGroup settings.vipGroup.domain settings.vipGroup.group (g.update published new))
          (written new))
  | noting {new : AddressSet} (holds : Holds foreign new g) (read : fresh new) :
      Inside settings foreign fresh published g
        (.update (fun s => { s with published := new }) fun _ => .leave (.done (.ok ())))
  | leaving {result : Except Failure Unit} (holds : Holds foreign published g)
      (read : result = .ok () → fresh published) :
      Inside settings foreign fresh published g (.leave (.done result))

theorem Inside.mono {foreign published : AddressSet} {fresh fresh' : AddressSet → Prop} {g : Group}
    {p : Procedure State (Except Failure Unit)} (inside : Inside settings foreign fresh published g p)
    (wider : ∀ new, fresh new → fresh' new) : Inside settings foreign fresh' published g p := by
  cases inside with
  | reading holds => exact .reading holds
  | fetching holds read => exact .fetching holds (wider _ read)
  | writing holds read => exact .writing holds (wider _ read)
  | noting holds read => exact .noting holds (wider _ read)
  | leaving holds read => exact .leaving holds fun ok => wider _ (read ok)

/-- A call in its section has not returned, and does not wait for the section. -/
theorem Inside.acts {foreign published : AddressSet} {fresh : AddressSet → Prop} {g : Group}
    {p : Procedure State (Except Failure Unit)} (inside : Inside settings foreign fresh published g p) :
    (∀ result, p ≠ .done result) ∧ ∀ rest, p ≠ .enter rest := by
  constructor
  · rintro result rfl
    cases inside
  · rintro rest rfl
    cases inside

/-- What an action makes of the remote side. -/
def Meets (remote : Remote) (cloud : Cloud) : Event State → Cloud → Prop
  | .deed (.call exchange), after => remote.reply exchange.call cloud = (exchange.reply, after)
  | _, after => after = cloud

variable {p p' : Procedure State (Except Failure Unit)} {s s' : State} {event : Event State} {remote : Remote}
  {cloud cloud' : Cloud}

/-- Before its section a call leaves the group alone. -/
theorem Prepares.step (prepares : Prepares settings p) (step : p.Step s event s' p')
    (meets : Meets remote cloud event cloud') :
    event.Inner ∧ (∀ exchange, event = .deed (.call exchange) → exchange.call.onGroup = false) ∧
      cloud'.group = cloud.group ∧ s'.published = s.published ∧
      ((s' = s ∧ Prepares settings p') ∨ p' = .enter (publish settings)) := by
  cases step with
  | update next rest =>
    obtain rfl : cloud' = cloud := meets
    refine ⟨trivial, by rintro _ ⟨⟩, rfl, ?_⟩
    obtain ⟨same, later⟩ | ⟨same, last⟩ := prepares s
    · exact ⟨congrArg State.published same, .inl ⟨same, later⟩⟩
    · exact ⟨same, .inr last⟩
  | call c rest reply =>
    have replied : remote.reply c cloud = (reply, cloud') := meets
    have kept := @Remote.group_reply remote cloud c prepares.1
    rw [replied] at kept
    refine ⟨trivial, ?_, kept, rfl, .inl ⟨rfl, prepares.2 reply⟩⟩
    rintro _ ⟨⟩
    exact prepares.1
  | record entry rest | pause span rest =>
    obtain rfl : cloud' = cloud := meets
    exact ⟨trivial, by rintro _ ⟨⟩, rfl, rfl, .inl ⟨rfl, prepares⟩⟩
  | draw limit rest x =>
    obtain rfl : cloud' = cloud := meets
    exact ⟨trivial, by rintro _ ⟨⟩, rfl, rfl, .inl ⟨rfl, prepares x⟩⟩
  | enter | leave => exact prepares.elim

theorem Remote.fetch_reply {reply : Except ClientError Group} {domain group : String}
    (replied : remote.reply (.getGroup domain group) cloud = (reply, cloud')) :
    cloud'.group = cloud.group ∧ ∀ value, reply = .ok value → value = cloud.group := by
  obtain ⟨rfl, rfl⟩ := Prod.mk.inj replied
  refine ⟨rfl, fun value ok => ?_⟩
  cases answered : remote.answer cloud.calls (.getGroup domain group) with
  | error e =>
    rw [answered] at ok
    cases ok
  | ok =>
    rw [answered] at ok
    exact (Except.ok.inj ok).symm

/-- Where no lost write takes effect, a write that fails leaves the group as it was. -/
theorem Remote.write_reply (honest : ∀ n, remote.takesEffect n = false)
    {reply : Except ClientError Unit} {domain group : String} {value : Group}
    (replied : remote.reply (.patchGroup domain group value) cloud = (reply, cloud')) :
    (∃ e, reply = .error e ∧ cloud'.group = cloud.group) ∨ (reply = .ok () ∧ cloud'.group = value) := by
  unfold Remote.reply at replied
  dsimp only at replied
  split at replied
  · obtain ⟨rfl, rfl⟩ := Prod.mk.inj replied
    exact .inr ⟨rfl, rfl⟩
  · rw [honest cloud.calls] at replied
    obtain ⟨rfl, rfl⟩ := Prod.mk.inj replied
    exact .inl ⟨_, rfl, rfl⟩
  · obtain ⟨rfl, rfl⟩ := Prod.mk.inj replied
    exact .inl ⟨_, rfl, rfl⟩

variable {foreign : AddressSet} {fresh : AddressSet → Prop}

/-- An action in the section goes on with it, in which the store stays as it is, or leaves it in
order. -/
theorem Inside.step (honest : ∀ n, remote.takesEffect n = false)
    (apart : ∀ a ∈ foreign, a ∉ s.published) (current : fresh s.addresses)
    (inside : Inside settings foreign fresh s.published cloud.group p) (step : p.Step s event s' p')
    (meets : Meets remote cloud event cloud') :
    (event.Inner ∧ s'.servers = s.servers ∧ (s'.published = s.published ∨ fresh s'.published) ∧
        Inside settings foreign fresh s'.published cloud'.group p') ∨
      (event = .leave ∧ s' = s ∧ cloud' = cloud ∧ Holds foreign s.published cloud.group ∧
        ∃ result, p' = .done result ∧ (result = .ok () → fresh s.published)) := by
  cases inside with
  | reading holds =>
    rw [publish_eq] at step
    cases step with
    | update =>
      obtain rfl : cloud' = cloud := meets
      refine .inl ⟨trivial, rfl, .inl rfl, ?_⟩
      dsimp only [id]
      split
      · rename_i same
        refine .leaving holds fun _ => ?_
        rw [same]
        exact current
      · exact .fetching holds current
  | fetching holds read =>
    cases step with
    | call c rest reply =>
      obtain ⟨kept, present⟩ := Remote.fetch_reply meets
      rw [← kept] at holds
      refine .inl ⟨trivial, rfl, .inl rfl, ?_⟩
      cases reply with
      | error e => exact .leaving holds fun ok => nomatch ok
      | ok group =>
        obtain rfl := present group rfl
        rw [fetched, ← kept]
        exact .writing holds read
  | writing holds read =>
    cases step with
    | call c rest reply =>
      refine .inl ⟨trivial, rfl, .inl rfl, ?_⟩
      obtain ⟨e, rfl, kept⟩ | ⟨rfl, changed⟩ :=
        @Remote.write_reply remote cloud cloud' honest reply _ _ _ meets
      · exact .leaving (kept ▸ holds) fun ok => nomatch ok
      · refine .noting ?_ read
        rw [changed]
        exact holds.update apart _
  | noting holds read =>
    cases step with
    | update =>
      obtain rfl : cloud' = cloud := meets
      exact .inl ⟨trivial, rfl, .inr read, .leaving holds fun _ => read⟩
  | leaving holds read =>
    cases step with
    | leave =>
      obtain rfl : cloud' = cloud := meets
      exact .inr ⟨rfl, rfl, rfl, holds, _, rfl, read⟩

end NetIntent.VirtualServers
