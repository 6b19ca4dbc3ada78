import NetIntent.Proofs.Group.Addresses
import NetIntent.Proofs.Group.Effects
import NetIntent.Proofs.Realize.Polling

/-! Every operation is a sequence of effects. A creation, a deletion and a sync are one effect each,
whose success is their own; a deletion by service and port is one effect for each server found. -/
namespace NetIntent

namespace VirtualServers

variable {settings : Settings} {remote : Remote} {s s' s₁ : State} {w w' w₁ : Cloud}
  {calls calls' : List Moment}

namespace Exchanges

theorem trans (first : Exchanges remote s w calls s₁ w₁) (rest : Exchanges remote s₁ w₁ calls' s' w') :
    Exchanges remote s w (calls ++ calls') s' w' := by
  induction rest with
  | none => simpa only [List.append_nil] using first
  | next _ c apart ih => simpa only [List.append_assoc] using ih.next c apart

theorem one (remote : Remote) (s : State) (w : Cloud) (c : Call) (apart : c.onGroup = false) :
    Exchanges remote s w [⟨s, w, c⟩] (s.withServers (confirm · c (remote.reply c w).1))
      (remote.reply c w).2 :=
  Exchanges.none.next c apart

theorem of_asks {α : Type} {p : Procedure State α} {path : String}
    (asks : p.Asks (· = .entities path)) (remote : Remote) (s : State) (w : Cloud) :
    (p.run remote.world (s, w)).2.1 = s ∧
      Exchanges remote s w (p.moments remote.world (s, w)) s (p.run remote.world (s, w)).2.2 := by
  induction p generalizing w with
  | done a => exact ⟨rfl, .none⟩
  | update next rest => exact asks.elim
  | call c rest ih =>
    obtain ⟨rfl, asks⟩ := asks
    obtain ⟨same, exchanges⟩ := ih _ (asks _) (remote.reply (.entities path) w).2
    exact ⟨same, (one remote s w (.entities path) rfl).trans exchanges⟩
  | record entry rest ih => exact ih asks w
  | draw limit rest ih => exact ih _ (asks _) w
  | pause span rest ih => exact ih asks w
  | enter rest => exact asks.elim
  | leave rest => exact asks.elim

end Exchanges

/-- A realization ends in a failure or with the server to hold, which nothing else has touched yet. -/
theorem realize_exchanges (remote : Remote) (id : String) (server : VirtualServer) (s : State)
    (w : Cloud) :
    ((realize settings id server).run remote.world (s, w)).2.1 = s ∧
      Exchanges remote s w ((realize settings id server).moments remote.world (s, w))
        (match ((realize settings id server).run remote.world (s, w)).1 with
          | .error _ => s
          | .ok confirmed => s.withServers (holding confirmed))
        ((realize settings id server).run remote.world (s, w)).2.2 := by
  have patched := Exchanges.one remote s w (.patchServer id server) rfl
  unfold realize
  rw [Procedure.run_call, Procedure.moments_call, Remote.reply_world]
  rcases patch : remote.reply (.patchServer id server) w with ⟨_ | _, w₁⟩
  · rw [patch] at patched
    exact ⟨rfl, patched⟩
  · rw [patch] at patched
    have asks := @Realization.poll_asks State settings.policy (Path.virtualServer id) []
    obtain ⟨same, polled⟩ := Exchanges.of_asks asks remote s w₁
    simp only [Procedure.run_bind, Procedure.moments_bind]
    rcases ran : (Realization.poll settings.policy (Path.virtualServer id) []).run remote.world
      (s, w₁) with ⟨_ | _, s₂, w₂⟩
    · rw [ran] at same polled
      obtain rfl := same
      exact ⟨rfl, patched.trans (polled.trans .none)⟩
    · rw [ran] at same polled
      obtain rfl := same
      simp only [Procedure.run_call, Procedure.moments_call, Remote.reply_world]
      have fetched := Exchanges.one remote s₂ w₂ (.getServer id) rfl
      rcases get : remote.reply (.getServer id) w₂ with ⟨_ | confirmed, w₃⟩
      · rw [get] at fetched
        exact ⟨rfl, patched.trans (polled.trans fetched)⟩
      · rw [get] at fetched
        exact ⟨rfl, patched.trans (polled.trans fetched)⟩

/-- Every run is one effect, with the run's own success. -/
def IsEffect (settings : Settings) (remote : Remote) {α : Type}
    (p : Procedure State (Except Failure α)) : Prop :=
  ∀ s w, Effect settings remote s w (p.moments remote.world (s, w)) (p.run remote.world (s, w)).1.isOk
    (p.run remote.world (s, w)).2.1 (p.run remote.world (s, w)).2.2

theorem sync_effect (settings : Settings) (remote : Remote) :
    IsEffect settings remote (sync settings) := fun _ _ => .tried .none

theorem delete_effect (settings : Settings) (remote : Remote) (id : String) :
    IsEffect settings remote (delete settings id) := by
  intro s w
  have deleted := Exchanges.one remote s w (.deleteServer id) rfl
  unfold delete
  rw [Procedure.run_call, Procedure.moments_call, Remote.reply_world]
  cases confirms : Confirms (remote.reply (.deleteServer id) w).1 with
  | true =>
    simp only [confirm, confirms] at deleted
    simp only [Confirms.ofDeletion confirms]
    exact .tried deleted
  | false =>
    obtain ⟨e, -, failed⟩ := refused_of_not_confirms confirms
    simp only [confirm, confirms] at deleted
    simp only [failed]
    exact .refused deleted

theorem isOk_map {ε α β : Type} (result : Except ε α) (f : α → β) :
    (result.map f).isOk = result.isOk := by
  cases result <;> rfl

theorem hold_effect (confirmed : VirtualServer)
    (exchanges : Exchanges remote s w calls (s.withServers (holding confirmed)) w₁) :
    Effect settings remote s w
      (calls ++ (hold settings confirmed).moments remote.world (s, w₁))
      ((hold settings confirmed).run remote.world (s, w₁)).1.isOk
      ((hold settings confirmed).run remote.world (s, w₁)).2.1
      ((hold settings confirmed).run remote.world (s, w₁)).2.2 := by
  unfold hold
  simp only [Procedure.run, Procedure.moments]
  cases applied : s.servers.apply confirmed with
  | error e =>
    have same : s.withServers (holding confirmed) = s := by
      simp only [State.withServers, holding, applied, Except.toOption, Option.getD_none]
    rw [same] at exchanges
    change Effect settings remote s w (calls ++ []) false (s.withServers (holding confirmed)) w₁
    rw [same, List.append_nil]
    exact .refused exchanges
  | ok servers =>
    simp only [Procedure.run_bind, Procedure.moments_bind, Procedure.run, Procedure.moments,
      List.append_nil, isOk_map]
    exact .tried exchanges

theorem create_effect (settings : Settings) (remote : Remote) (server : VirtualServer) :
    IsEffect settings remote (create settings server) := by
  intro s w
  unfold create
  split
  · exact .refused .none
  · rename_i id _
    obtain ⟨same, exchanges⟩ := @realize_exchanges settings remote id server s w
    simp only [Procedure.read, Procedure.run, Procedure.moments, Procedure.run_bind,
      Procedure.moments_bind, id_eq]
    rcases ran : (realize settings id server).run remote.world (s, w) with ⟨_ | confirmed, s₁, w₁⟩
    · simp only [ran] at same exchanges
      subst same
      simp only [Procedure.run, Procedure.moments, List.append_nil]
      exact .refused exchanges
    · simp only [ran] at same exchanges
      subst same
      exact hold_effect confirmed exchanges

theorem delete_addresses (enabled : settings.vipGroup.enabled = true) (remote : Remote) (id : String)
    (s : State) (w : Cloud) {a : String}
    (held : a ∈ ((delete settings id).run remote.world (s, w)).2.1.addresses) : a ∈ s.addresses := by
  unfold delete at held
  rw [Procedure.run_call, Remote.reply_world] at held
  rcases answered : Failure.ofDeletion (remote.reply (.deleteServer id) w).1 with _ | _
  · simp only [answered, Procedure.run] at held
    exact held
  · simp only [answered, Procedure.run] at held
    rw [(sync_attempt enabled remote _ _).addresses] at held
    exact State.addressesOf_erase held

/-- Deletions in turn. The addresses they write were all held at the start, and if none fails, the
last one leaves the addresses held as those last written. -/
theorem deleteAll_effects (enabled : settings.vipGroup.enabled = true) (remote : Remote)
    (ids : List String) (s : State) (w : Cloud) :
    Effects settings remote s w ((deleteAll settings ids).moments remote.world (s, w))
        ((deleteAll settings ids).run remote.world (s, w)).2.1
        ((deleteAll settings ids).run remote.world (s, w)).2.2 ∧
      (∀ write ∈ remote.writes ((deleteAll settings ids).moments remote.world (s, w)),
        ∀ a ∈ write.wanted, a ∈ s.addresses) ∧
      (ids ≠ [] → ((deleteAll settings ids).run remote.world (s, w)).1 = [] →
        ((deleteAll settings ids).run remote.world (s, w)).2.1.published =
          ((deleteAll settings ids).run remote.world (s, w)).2.1.addresses) := by
  induction ids generalizing s w with
  | nil => exact ⟨.none, fun _ member => absurd member List.not_mem_nil, fun filled => absurd rfl filled⟩
  | cons id rest ih =>
    have first := delete_effect settings remote id s w
    have smaller := @delete_addresses settings enabled remote id s w
    simp only [deleteAll, Procedure.run_bind, Procedure.moments_bind, Procedure.run,
      Procedure.moments, List.append_nil]
    rcases ran : (delete settings id).run remote.world (s, w) with ⟨result, s₁, w₁⟩
    simp only [ran] at first smaller
    obtain ⟨more, wanted, published⟩ := ih s₁ w₁
    refine ⟨(Effects.one first).trans more, fun write member a requested => ?_, fun _ silent => ?_⟩
    · rw [Remote.writes_append, List.mem_append] at member
      obtain later | now := member
      · exact smaller (wanted write later a requested)
      · exact smaller (first.wanted enabled write now ▸ requested)
    · cases result with
      | error f => cases silent
      | ok _ =>
        cases rest with
        | nil => exact first.published enabled
        | cons => exact published (List.cons_ne_nil _ _) silent

theorem IsEffect.effects {α : Type} {p : Procedure State (Except Failure α)}
    (enabled : settings.vipGroup.enabled = true) (effect : IsEffect settings remote p) (s : State)
    (w : Cloud) :
    Effects settings remote s w (p.moments remote.world (s, w)) (p.run remote.world (s, w)).2.1
        (p.run remote.world (s, w)).2.2 ∧
      ∀ write ∈ remote.writes (p.moments remote.world (s, w)), ∀ a ∈ write.wanted,
        a ∈ s.addresses ∨ a ∈ (p.run remote.world (s, w)).2.1.addresses := by
  refine ⟨.one (effect s w), fun write member a requested => .inr ?_⟩
  rwa [← (effect s w).wanted enabled write member]

theorem request_effects (enabled : settings.vipGroup.enabled = true) (remote : Remote) (scene : Scene)
    (request : Request) :
    Effects settings remote scene.state scene.cloud (scene.calls settings remote request)
        (scene.after settings remote request).state (scene.after settings remote request).cloud ∧
      ∀ write ∈ remote.writes (scene.calls settings remote request), ∀ a ∈ write.wanted,
        a ∈ scene.state.addresses ∨ a ∈ (scene.after settings remote request).state.addresses := by
  cases request with
  | create server => exact (create_effect settings remote server).effects enabled _ _
  | delete id => exact (delete_effect settings remote id).effects enabled _ _
  | sync => exact (sync_effect settings remote).effects enabled _ _
  | deleteForPort order uid port =>
    obtain ⟨effects, wanted, -⟩ := deleteAll_effects enabled remote
      ((order.arrange (ofServiceAndPort scene.state uid port)).filterMap (·.id)) scene.state scene.cloud
    simp only [Scene.calls, Scene.after, Request.procedure, deleteForPort, Procedure.read,
      Procedure.run, Procedure.moments, Procedure.run_bind, Procedure.moments_bind, id_eq,
      List.append_nil]
    exact ⟨effects, fun write member a requested => .inl (wanted write member a requested)⟩

end VirtualServers

end NetIntent
