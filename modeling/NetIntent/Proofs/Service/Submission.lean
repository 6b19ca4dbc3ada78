import NetIntent.Proofs.Group.Effects
import NetIntent.Proofs.Realize.Polling
import NetIntent.Proofs.Store.Frame
import NetIntent.Service.SubnetPorts

/-! A creation as one transaction. An object is submitted, its intent path polled and the object
fetched, up to the first stage that fails, and until then nothing is held. Only what was fetched is
held, and only then is the group touched, which cannot undo it. -/
namespace NetIntent

open Realization (Polled queried budget)

/-- The exchanges of a submission, up to the first stage that fails, and what they come to. -/
inductive Stages (submit fetch : Call) (path : String) (allowed : Nat) :
    List Exchange → Except Failure fetch.Answer → Prop where
  | refused {e : ClientError} :
      Stages submit fetch path allowed [⟨submit, .error e⟩] (.error (.client e))
  | unrealized {accepted : submit.Answer} {answers : List (Except ClientError Realization.Response)}
      {e : RealizeError} (polled : Polled path [] allowed answers (.error e)) :
      Stages submit fetch path allowed (⟨submit, .ok accepted⟩ :: answers.map (queried path))
        (.error (.realize e))
  | unread {accepted : submit.Answer} {answers : List (Except ClientError Realization.Response)}
      {e : ClientError} (polled : Polled path [] allowed answers (.ok ())) :
      Stages submit fetch path allowed
        (⟨submit, .ok accepted⟩ :: (answers.map (queried path) ++ [⟨fetch, .error e⟩]))
        (.error (.client e))
  | fetched {accepted : submit.Answer} {answers : List (Except ClientError Realization.Response)}
      {object : fetch.Answer} (polled : Polled path [] allowed answers (.ok ())) :
      Stages submit fetch path allowed
        (⟨submit, .ok accepted⟩ :: (answers.map (queried path) ++ [⟨fetch, .ok object⟩])) (.ok object)

/-- The realization of an object of either kind, by its calls and its intent path. -/
def staged {σ : Type} (policy : Backoff) (path : String) (submit fetch : Call) :
    Procedure σ (Except Failure fetch.Answer) :=
  .call submit fun
    | .error e => .done (.error (.client e))
    | .ok _ =>
      (Realization.poll policy path []).bind fun
        | .error e => .done (.error (.realize e))
        | .ok () => .call fetch fun reply => .done (reply.mapError .client)

theorem VirtualServers.realize_eq_staged (settings : Settings) (id : String) (server : VirtualServer) :
    realize settings id server =
      staged settings.policy (Path.virtualServer id) (.patchServer id server) (.getServer id) := by
  unfold realize staged
  congr 1
  funext reply
  cases reply <;> rfl

theorem SubnetPorts.realize_eq_staged (settings : Settings) (subnet id : String) (port : SubnetPort) :
    realize settings subnet id port =
      staged settings.policy (Path.subnetPort subnet id) (.patchPort subnet id port)
        (.getPort subnet id) := by
  unfold realize staged
  congr 1
  funext reply
  cases reply <;> rfl

variable {σ ω : Type} {world : World σ ω} {submit fetch : Call} {policy : Backoff} {path : String}

theorem staged_asks : (staged policy path submit fetch : Procedure σ _).Asks
    fun c => c = submit ∨ c = .entities path ∨ c = fetch := by
  refine ⟨.inl rfl, fun reply => ?_⟩
  cases reply with
  | error e => trivial
  | ok accepted =>
    refine ((Realization.poll_asks policy path []).mono fun c same => .inr (.inl same)).bind fun ended => ?_
    cases ended with
    | error e => trivial
    | ok _ => exact ⟨.inr (.inr rfl), fun reply => trivial⟩

theorem staged_stages (state : σ × ω) :
    Stages submit fetch path (budget policy)
      ((staged policy path submit fetch).exchanges world state)
      ((staged policy path submit fetch).run world state).1 := by
  obtain ⟨s, w⟩ := state
  unfold staged
  rw [Procedure.exchanges_call, Procedure.run_call]
  rcases world.reply submit w with ⟨_ | accepted, w₁⟩
  · exact .refused
  · obtain ⟨answers, made, polled⟩ := Realization.poll_polls world policy path [] (s, w₁)
    simp only [Procedure.exchanges_bind, Procedure.run_bind, made]
    rcases ran : (Realization.poll policy path []).run world (s, w₁) with ⟨_ | _, s₂, w₂⟩
    · rw [ran] at polled
      rw [Procedure.exchanges_done, List.append_nil]
      exact .unrealized polled
    · rw [ran] at polled
      simp only [Procedure.exchanges_call, Procedure.run_call]
      rcases world.reply fetch w₂ with ⟨_ | object, w₃⟩
      · exact .unread polled
      · exact .fetched polled

/-- What becomes of a fetched object: without a key it is refused, else the store becomes what its
application makes of it. Calls about the group come after that, and only their failure is reported. -/
inductive Holding {R : Type} [Indexed R] (world : World State ω) (store : State → Store R)
    (put : State → Store R → State) (s : State) (record : R) :
    List (Procedure.Moment State ω) → Except Failure R → State → Prop where
  | refused {e : StoreError} (unkeyed : (store s).apply record = .error e) :
      Holding world store put s record [] (.error (.store e)) s
  | held {group : List (Procedure.Moment State ω)} {after : Store R} {answer : Except Failure R}
      {s' : State} (applied : (store s).apply record = .ok after)
      (agree : (store s).AgreeOutside (some · = Indexed.key record) after)
      (publishing : ∀ m ∈ group, m.call.onGroup = true ∧ store m.state = after)
      (kept : store s' = after) (rest : s' = { put s after with published := s'.published })
      (answered : answer = .ok record ∨
        ∃ m ∈ group, ∃ e, (m.exchange world).reply = .error e ∧ answer = .error (.client e)) :
      Holding world store put s record group answer s'

/-- A creation as one transaction: it fails in a stage and leaves everything as it was, or all stages
succeed in that state and the object fetched, with what it is given to be held, is taken up. -/
inductive Transaction {R : Type} [Indexed R] (world : World State ω) (submit fetch : Call)
    (path : String) (allowed : Nat) (store : State → Store R) (put : State → Store R → State)
    (adopt : fetch.Answer → R) (s : State) :
    List (Procedure.Moment State ω) → Except Failure R → State → Prop where
  | failed {calls : List (Procedure.Moment State ω)} {f : Failure}
      (stages : Stages submit fetch path allowed (calls.map (·.exchange world)) (.error f))
      (before : ∀ m ∈ calls, m.state = s) :
      Transaction world submit fetch path allowed store put adopt s calls (.error f) s
  | fetched {calls group : List (Procedure.Moment State ω)} {object : fetch.Answer}
      {answer : Except Failure R} {s' : State}
      (stages : Stages submit fetch path allowed (calls.map (·.exchange world)) (.ok object))
      (before : ∀ m ∈ calls, m.state = s)
      (holding : Holding world store put s (adopt object) group answer s') :
      Transaction world submit fetch path allowed store put adopt s (calls ++ group) answer s'

section

variable {ω : Type} {world : World State ω}

/-- Stages, an audit entry and the holding of what was fetched make a transaction. -/
theorem staged_transaction {R : Type} [Indexed R] {store : State → Store R} {put : State → Store R → State}
    {adopt : fetch.Answer → R} {hold : fetch.Answer → Procedure State (Except Failure R)}
    {rest : Except Failure fetch.Answer → Procedure State (Except Failure R)} (quiet : world.Quiet)
    (fails : ∀ f, ∃ entry, rest (.error f) = .record entry (.done (.error f)))
    (goes : ∀ object, ∃ entry, rest (.ok object) = .record entry (hold object)) {s : State}
    (holds : ∀ object w, Holding world store put s (adopt object) ((hold object).moments world (s, w))
      ((hold object).run world (s, w)).1 ((hold object).run world (s, w)).2.1) (w : ω) :
    Transaction world submit fetch path (budget policy) store put adopt s
      (((staged policy path submit fetch).bind rest).moments world (s, w))
      (((staged policy path submit fetch).bind rest).run world (s, w)).1
      (((staged policy path submit fetch).bind rest).run world (s, w)).2.1 := by
  have stages := @staged_stages _ _ world submit fetch policy path (s, w)
  obtain ⟨same, before⟩ := (@staged_asks State submit fetch policy path).still quiet s w
  have before := fun m member => (before m member).1
  rw [Procedure.moments_bind, Procedure.run_bind]
  rcases ran : (staged policy path submit fetch).run world (s, w) with ⟨f | object, s₁, w₁⟩
  · rw [ran] at stages same
    obtain rfl := same
    obtain ⟨entry, next⟩ := fails f
    simp only [next, Procedure.run, Procedure.moments, List.append_nil]
    exact .failed stages before
  · rw [ran] at stages same
    obtain rfl := same
    obtain ⟨entry, next⟩ := goes object
    simp only [next, Procedure.run, Procedure.moments]
    exact .fetched stages before (holds object (world.note entry w₁))

namespace VirtualServers

abbrev put (s : State) (servers : Store VirtualServer) : State := { s with servers }

/-- What a sync does for any remote side: its calls are about the group, it keeps all but the
addresses last written, and it fails only with one of the calls. -/
structure Published (world : World State ω) (s : State) (calls : List (Procedure.Moment State ω))
    (answer : Except Failure Unit) (s' : State) : Prop where
  onGroup : ∀ m ∈ calls, m.call.onGroup = true ∧ m.state = s
  kept : s' = { s with published := s'.published }
  answered : answer = .ok () ∨
    ∃ m ∈ calls, ∃ e, (m.exchange world).reply = .error e ∧ answer = .error (.client e)

theorem publish_published (settings : Settings) (world : World State ω) (s : State) (w : ω) :
    Published world s ((publish settings).moments world (s, w)) ((publish settings).run world (s, w)).1
      ((publish settings).run world (s, w)).2.1 := by
  unfold publish
  simp only [Procedure.read, Procedure.run, Procedure.moments, id_eq]
  split
  · exact ⟨by simp [Procedure.moments], rfl, .inl rfl⟩
  · rw [Procedure.moments_call, Procedure.run_call]
    rcases get : world.reply (.getGroup settings.vipGroup.domain settings.vipGroup.group) w
      with ⟨_ | group, w₁⟩
    · exact ⟨by simp [Procedure.moments, Call.onGroup], rfl, .inr (by
        simp [Procedure.moments, Procedure.run, Procedure.Moment.exchange, get])⟩
    · simp only [Procedure.moments_call, Procedure.run_call]
      generalize Group.update group s.published s.addresses = value
      rcases patch : world.reply (.patchGroup settings.vipGroup.domain settings.vipGroup.group value) w₁
        with ⟨_ | _, w₂⟩
      · exact ⟨by simp [Procedure.moments, Call.onGroup], rfl, .inr (by
          simp [Procedure.moments, Procedure.run, Procedure.Moment.exchange, patch, get])⟩
      · exact ⟨by simp [Procedure.moments, Call.onGroup], rfl, .inl rfl⟩

theorem sync_published (settings : Settings) (world : World State ω) (s : State) (w : ω) :
    Published world s ((sync settings).moments world (s, w)) ((sync settings).run world (s, w)).1
      ((sync settings).run world (s, w)).2.1 := by
  unfold sync
  split
  · exact publish_published settings world s w
  · exact ⟨by simp [Procedure.moments], rfl, .inl rfl⟩

theorem hold_holding (settings : Settings) (confirmed : VirtualServer) (s : State) (w : ω) :
    Holding world State.servers put s confirmed ((hold settings confirmed).moments world (s, w))
      ((hold settings confirmed).run world (s, w)).1
      ((hold settings confirmed).run world (s, w)).2.1 := by
  unfold hold
  simp only [Procedure.run, Procedure.moments]
  cases applied : s.servers.apply confirmed with
  | error e =>
    simp only [Procedure.run, Procedure.moments, State.withServers, applied, Except.toOption,
      Option.getD_none]
    exact .refused applied
  | ok after =>
    have published := sync_published settings world { s with servers := after } w
    simp only [Procedure.run, Procedure.moments, Procedure.run_bind, Procedure.moments_bind,
      List.append_nil, State.withServers, applied, Except.toOption, Option.getD_some]
    refine .held applied (Store.apply_agree applied) (fun m member => ?_)
      (congrArg State.servers published.kept) published.kept ?_
    · obtain ⟨onGroup, same⟩ := published.onGroup m member
      exact ⟨onGroup, congrArg State.servers same⟩
    · obtain ok | ⟨m, member, e, failed, error⟩ := published.answered
      · exact .inl (by rw [ok]; rfl)
      · exact .inr ⟨m, member, e, failed, by rw [error]; rfl⟩

theorem create_transaction (settings : Settings) (quiet : world.Quiet) {server : VirtualServer}
    {id : String} (given : server.id = some id) (s : State) (w : ω) :
    Transaction world (.patchServer id server) (.getServer id) (Path.virtualServer id)
      (budget settings.policy) State.servers put (fun server => server) s
      ((create settings server).moments world (s, w)) ((create settings server).run world (s, w)).1
      ((create settings server).run world (s, w)).2.1 := by
  simp only [create, given, realize_eq_staged, Procedure.read, Procedure.run, Procedure.moments, id_eq]
  exact staged_transaction quiet (fun _ => ⟨_, rfl⟩) (fun _ => ⟨_, rfl⟩)
    (fun object => hold_holding settings object s) w

end VirtualServers

namespace SubnetPorts

abbrev put (s : State) (ports : Store SubnetPort) : State := { s with ports }

theorem hold_holding (port : SubnetPort) (s : State) (w : ω) :
    Holding world State.ports put s port ((hold port).moments world (s, w))
      ((hold port).run world (s, w)).1 ((hold port).run world (s, w)).2.1 := by
  unfold hold
  simp only [Procedure.run, Procedure.moments]
  cases applied : s.ports.apply port with
  | error e =>
    simp only [Procedure.run, Procedure.moments, State.withPorts, applied, Except.toOption,
      Option.getD_none]
    exact .refused applied
  | ok after =>
    simp only [Procedure.run, Procedure.moments, State.withPorts, applied, Except.toOption,
      Option.getD_some]
    exact .held applied (Store.apply_agree applied) (fun _ member => absurd member List.not_mem_nil)
      rfl rfl (.inl rfl)

theorem create_transaction (settings : Settings) (quiet : world.Quiet) {port : SubnetPort}
    {id : String} (given : port.id = some id) (subnet : String) (s : State) (w : ω) :
    Transaction world (.patchPort subnet id port) (.getPort subnet id) (Path.subnetPort subnet id)
      (budget settings.policy) State.ports put (confirmed subnet) s
      ((create settings port subnet).moments world (s, w))
      ((create settings port subnet).run world (s, w)).1
      ((create settings port subnet).run world (s, w)).2.1 := by
  simp only [create, given, realize_eq_staged, Procedure.read, Procedure.run, Procedure.moments, id_eq]
  exact staged_transaction quiet (fun _ => ⟨_, rfl⟩) (fun _ => ⟨_, rfl⟩)
    (fun object => hold_holding (confirmed subnet object) s) w

end SubnetPorts

end

end NetIntent
