import NetIntent.Proofs.Group.Setting

/-! What a run of an operation consists of. Calls apart from the group come first, and change the
store as far as the remote side confirms it; one attempt to bring the group in line follows. Several
deletions are such effects one after the other. -/
namespace NetIntent

def Call.onGroup : Call → Bool
  | .getGroup .. | .patchGroup .. => true
  | _ => false

def Call.writesGroup : Call → Bool
  | .patchGroup .. => true
  | _ => false

/-- An answer by which an object is gone: it was deleted, or was not there. -/
def Confirms {α : Type} : Except ClientError α → Bool
  | .ok _ | .error (.notFound ..) => true
  | .error _ => false

theorem Confirms.ofDeletion {reply : Except ClientError Unit} (confirms : Confirms reply = true) :
    Failure.ofDeletion reply = .ok () := by
  rcases reply with (_ | _ | _) | _
  · rfl
  · cases confirms
  · cases confirms
  · rfl

theorem refused_of_not_confirms {reply : Except ClientError Unit} (other : Confirms reply = false) :
    ∃ e, reply = .error e ∧ Failure.ofDeletion reply = .error (.client e) := by
  rcases reply with (_ | _ | _) | _
  · cases other
  · exact ⟨_, rfl, rfl⟩
  · exact ⟨_, rfl, rfl⟩
  · cases other

namespace VirtualServers

abbrev Settings.fetch (settings : Settings) : Call :=
  .getGroup settings.vipGroup.domain settings.vipGroup.group

/-- The write that replaces the addresses last written by those held. -/
abbrev Settings.write (settings : Settings) (s : State) (w : Cloud) : Call :=
  .patchGroup settings.vipGroup.domain settings.vipGroup.group (w.group.update s.published s.addresses)

/-- One attempt to bring the group in line. It reads and writes the group only if the addresses held
are not those last written, and writes it once; only an acknowledged write is remembered. -/
inductive Attempt (settings : Settings) (remote : Remote) (s : State) (w : Cloud) :
    List Moment → Except Failure Unit → State → Cloud → Prop where
  | agreed (same : s.published = s.addresses) : Attempt settings remote s w [] (.ok ()) s w
  | unfetched {e : ClientError} {w' : Cloud} (differs : s.published ≠ s.addresses)
      (get : remote.reply settings.fetch w = (.error e, w')) (kept : w'.group = w.group) :
      Attempt settings remote s w [⟨s, w, settings.fetch⟩] (.error (.client e)) s w'
  | refused {e : ClientError} {w₁ w' : Cloud} (differs : s.published ≠ s.addresses)
      (get : remote.reply settings.fetch w = (.ok w.group, w₁))
      (patch : remote.reply (settings.write s w) w₁ = (.error e, w'))
      (lost : remote.write? ⟨s, w₁, settings.write s w⟩ = none) (kept : w'.group = w.group) :
      Attempt settings remote s w [⟨s, w, settings.fetch⟩, ⟨s, w₁, settings.write s w⟩]
        (.error (.client e)) s w'
  | unread {text : String} {w₁ w' : Cloud} (differs : s.published ≠ s.addresses)
      (get : remote.reply settings.fetch w = (.ok w.group, w₁))
      (patch : remote.reply (settings.write s w) w₁ = (.error (.transport text), w'))
      (effect : remote.write? ⟨s, w₁, settings.write s w⟩ = some ⟨s.published, s.addresses, false⟩)
      (changed : w'.group = w.group.update s.published s.addresses) :
      Attempt settings remote s w [⟨s, w, settings.fetch⟩, ⟨s, w₁, settings.write s w⟩]
        (.error (.client (.transport text))) s w'
  | written {w₁ w' : Cloud} (differs : s.published ≠ s.addresses)
      (get : remote.reply settings.fetch w = (.ok w.group, w₁))
      (patch : remote.reply (settings.write s w) w₁ = (.ok (), w'))
      (effect : remote.write? ⟨s, w₁, settings.write s w⟩ = some ⟨s.published, s.addresses, true⟩)
      (changed : w'.group = w.group.update s.published s.addresses) :
      Attempt settings remote s w [⟨s, w, settings.fetch⟩, ⟨s, w₁, settings.write s w⟩]
        (.ok ()) { s with published := s.addresses } w'

/-- A fetched server is held, unless it has no id to be held under. -/
def holding (fetched : VirtualServer) (servers : Store VirtualServer) : Store VirtualServer :=
  (servers.apply fetched).toOption.getD servers

/-- What an answer confirms about the servers: a fetched one is held, a deleted one is not. -/
def confirm (servers : Store VirtualServer) (c : Call) (reply : c.Reply) : Store VirtualServer :=
  match c, reply with
  | .getServer _, .ok server => holding server servers
  | .deleteServer id, reply => if Confirms reply then servers.erase id else servers
  | _, _ => servers

/-- The servers after what some calls confirm. No answer about the group matters. -/
def Remote.confirmed (remote : Remote) (calls : List Moment) (servers : Store VirtualServer) :
    Store VirtualServer :=
  calls.foldl (fun servers m => confirm servers m.call (remote.reply m.call m.remote).1) servers

/-- Calls apart from the group, with what they confirm. -/
inductive Exchanges (remote : Remote) (s : State) (w : Cloud) : List Moment → State → Cloud → Prop where
  | none : Exchanges remote s w [] s w
  | next {calls : List Moment} {s₁ : State} {w₁ : Cloud}
      (before : Exchanges remote s w calls s₁ w₁) (c : Call) (apart : c.onGroup = false) :
      Exchanges remote s w (calls ++ [⟨s₁, w₁, c⟩])
        (s₁.withServers (confirm · c (remote.reply c w₁).1)) (remote.reply c w₁).2

/-- One change of the servers and its end: whether it succeeded and what it leaves. A change that is
not refused is followed by a sync. -/
inductive Effect (settings : Settings) (remote : Remote) (s : State) (w : Cloud) :
    List Moment → Bool → State → Cloud → Prop where
  | refused {calls : List Moment} {w' : Cloud} (exchanges : Exchanges remote s w calls s w') :
      Effect settings remote s w calls false s w'
  | tried {calls : List Moment} {s₁ : State} {w₁ : Cloud}
      (exchanges : Exchanges remote s w calls s₁ w₁) :
      Effect settings remote s w (calls ++ (sync settings).moments remote.world (s₁, w₁))
        ((sync settings).run remote.world (s₁, w₁)).1.isOk
        ((sync settings).run remote.world (s₁, w₁)).2.1
        ((sync settings).run remote.world (s₁, w₁)).2.2

inductive Effects (settings : Settings) (remote : Remote) (s : State) (w : Cloud) :
    List Moment → State → Cloud → Prop where
  | none : Effects settings remote s w [] s w
  | next {calls calls' : List Moment} {ok : Bool} {s₁ s' : State} {w₁ w' : Cloud}
      (before : Effects settings remote s w calls s₁ w₁)
      (effect : Effect settings remote s₁ w₁ calls' ok s' w') :
      Effects settings remote s w (calls ++ calls') s' w'

variable {settings : Settings} {remote : Remote} {s s' : State} {w w' : Cloud} {calls : List Moment}

namespace Remote

theorem foreign_reply (c : Call) : (remote.reply c w).2.foreign = w.foreign := by
  cases c with
  | patchGroup domain group value =>
    simp only [reply]
    split
    · rfl
    · split <;> rfl
    · rfl
  | _ => rfl

theorem foreign_of_reply {c : Call} {reply : c.Reply} (replied : remote.reply c w = (reply, w')) :
    w'.foreign = w.foreign := by
  have kept := @foreign_reply remote w c
  rwa [replied] at kept

theorem group_reply {c : Call} (apart : c.onGroup = false) :
    (remote.reply c w).2.group = w.group := by
  cases c with
  | getGroup => rfl
  | patchGroup => cases apart
  | _ => rfl

theorem writes_append (calls calls' : List Moment) :
    remote.writes (calls ++ calls') = remote.writes calls' ++ remote.writes calls := by
  simp only [writes, List.filterMap_append, List.reverse_append]

theorem writes_apart {c : Call} (apart : c.onGroup = false) : remote.writes [⟨s, w, c⟩] = [] := by
  cases c with
  | getGroup => rfl
  | patchGroup => cases apart
  | _ => rfl

/-- A group write is answered with a failure and takes no effect, or it takes effect. -/
theorem reply_write (s : State) (w : Cloud) (domain group : String) (value : Group) :
    (∃ e, (remote.reply (.patchGroup domain group value) w).1 = .error e ∧
      remote.write? ⟨s, w, .patchGroup domain group value⟩ = none ∧
      (remote.reply (.patchGroup domain group value) w).2.group = w.group) ∨
    (∃ text, (remote.reply (.patchGroup domain group value) w).1 = .error (.transport text) ∧
      remote.write? ⟨s, w, .patchGroup domain group value⟩ = some ⟨s.published, s.addresses, false⟩ ∧
      (remote.reply (.patchGroup domain group value) w).2.group = value) ∨
    ((remote.reply (.patchGroup domain group value) w).1 = .ok () ∧
      remote.write? ⟨s, w, .patchGroup domain group value⟩ = some ⟨s.published, s.addresses, true⟩ ∧
      (remote.reply (.patchGroup domain group value) w).2.group = value) := by
  simp only [reply, write?]
  split
  · exact .inr (.inr ⟨rfl, rfl, rfl⟩)
  · rename_i text _
    by_cases effect : remote.takesEffect w.calls = true
    · exact .inr (.inl ⟨text, rfl, by simp [effect], by simp [effect]⟩)
    · exact .inl ⟨_, rfl, by simp [effect], by simp [effect]⟩
  · rename_i e silent _
    exact .inl ⟨e, rfl, rfl, rfl⟩

end Remote

theorem sync_attempt (enabled : settings.vipGroup.enabled = true) (remote : Remote) (s : State)
    (w : Cloud) :
    Attempt settings remote s w ((sync settings).moments remote.world (s, w))
      ((sync settings).run remote.world (s, w)).1 ((sync settings).run remote.world (s, w)).2.1
      ((sync settings).run remote.world (s, w)).2.2 := by
  unfold sync publish
  rw [if_pos enabled]
  by_cases same : s.published = s.addresses
  · simp only [Procedure.moments, Procedure.run, Procedure.read, id, if_pos same]
    exact .agreed same
  · simp only [Procedure.moments, Procedure.run, Procedure.read, id, if_neg same, Remote.world]
    have asked : remote.reply settings.fetch w =
        ((remote.reply settings.fetch w).1.map fun _ => w.group, { w with calls := w.calls + 1 }) := by
      simp only [Remote.reply]
      cases remote.answer w.calls settings.fetch <;> rfl
    rcases get : remote.reply settings.fetch w with ⟨_ | group, w₁⟩
    · rw [get] at asked
      exact .unfetched same get (congrArg (fun reply => reply.2.group) asked)
    · rw [get] at asked
      obtain rfl : group = w.group := by simpa [Except.map] using congrArg Prod.fst asked
      have answered := remote.reply_write s w₁ settings.vipGroup.domain settings.vipGroup.group
        (w.group.update s.published s.addresses)
      simp only [Procedure.moments, Procedure.run]
      rcases patch : remote.reply (settings.write s w) w₁ with ⟨e | _, w₂⟩
      · rw [patch] at answered
        obtain ⟨_, -, lost, kept⟩ | ⟨text, failed, effect, changed⟩ | ⟨done, -⟩ := answered
        · exact .refused same get patch lost (kept.trans (congrArg (fun reply => reply.2.group) asked))
        · cases failed
          exact .unread same get patch effect changed
        · cases done
      · rw [patch] at answered
        obtain ⟨_, failed, -⟩ | ⟨_, failed, -⟩ | ⟨-, effect, changed⟩ := answered
        · cases failed
        · cases failed
        · exact .written same get patch effect changed

theorem Remote.confirmed_append (calls calls' : List Moment) (servers : Store VirtualServer) :
    remote.confirmed (calls ++ calls') servers =
      remote.confirmed calls' (remote.confirmed calls servers) := List.foldl_append

theorem Exchanges.keeps (exchanges : Exchanges remote s w calls s' w') :
    s'.published = s.published ∧ w'.group = w.group ∧ w'.foreign = w.foreign ∧
      remote.writes calls = [] := by
  induction exchanges with
  | none => exact ⟨rfl, rfl, rfl, rfl⟩
  | next before c apart ih =>
    obtain ⟨published, group, foreign, writes⟩ := ih
    refine ⟨published, (Remote.group_reply apart).trans group, (Remote.foreign_reply c).trans foreign, ?_⟩
    rw [Remote.writes_append, writes, Remote.writes_apart apart, List.append_nil]

theorem Exchanges.servers (exchanges : Exchanges remote s w calls s' w') :
    s'.servers = remote.confirmed calls s.servers := by
  induction exchanges with
  | none => rfl
  | next before c apart ih =>
    rw [Remote.confirmed_append, ← ih]
    rfl

namespace Attempt

variable {result : Except Failure Unit}

theorem servers (attempt : Attempt settings remote s w calls result s' w') : s'.servers = s.servers := by
  cases attempt <;> rfl

theorem confirmed (attempt : Attempt settings remote s w calls result s' w')
    (servers : Store VirtualServer) : remote.confirmed calls servers = servers := by
  cases attempt <;> rfl

theorem addresses (attempt : Attempt settings remote s w calls result s' w') :
    s'.addresses = s.addresses := congrArg State.addressesOf attempt.servers

theorem published_of_ok (attempt : Attempt settings remote s w calls result s' w')
    (ok : result.isOk = true) : s'.published = s'.addresses := by
  cases attempt with
  | agreed same => exact same
  | written => rfl
  | _ => cases ok

theorem foreign (attempt : Attempt settings remote s w calls result s' w') : w'.foreign = w.foreign := by
  cases attempt with
  | agreed => rfl
  | unfetched _ get => exact Remote.foreign_of_reply get
  | refused _ get patch | unread _ get patch | written _ get patch =>
    exact (Remote.foreign_of_reply patch).trans (Remote.foreign_of_reply get)

/-- The writes of an attempt: none, or one of the addresses held. -/
theorem writes_eq (attempt : Attempt settings remote s w calls result s' w') :
    remote.writes calls = [] ∨ ∃ acknowledged,
      remote.writes calls = [⟨s.published, s.addresses, acknowledged⟩] := by
  cases attempt with
  | agreed => exact .inl rfl
  | unfetched => exact .inl rfl
  | refused _ _ _ lost =>
    refine .inl ?_
    simp only [Remote.writes, List.filterMap_cons, List.filterMap_nil, lost]
    rfl
  | unread _ _ _ effect =>
    refine .inr ⟨false, ?_⟩
    simp only [Remote.writes, List.filterMap_cons, List.filterMap_nil, effect]
    rfl
  | written _ _ _ effect =>
    refine .inr ⟨true, ?_⟩
    simp only [Remote.writes, List.filterMap_cons, List.filterMap_nil, effect]
    rfl

end Attempt

namespace Effect

variable {ok : Bool}

theorem published (enabled : settings.vipGroup.enabled = true)
    (effect : Effect settings remote s w calls true s' w') : s'.published = s'.addresses := by
  generalize succeeded : true = ok at effect
  cases effect with
  | refused => cases succeeded
  | tried => exact (sync_attempt enabled remote _ _).published_of_ok succeeded.symm

theorem servers (enabled : settings.vipGroup.enabled = true)
    (effect : Effect settings remote s w calls ok s' w') :
    s'.servers = remote.confirmed calls s.servers := by
  cases effect with
  | refused exchanges => exact exchanges.servers
  | @tried before s₁ w₁ exchanges =>
    have attempt := sync_attempt enabled remote s₁ w₁
    rw [Remote.confirmed_append, attempt.confirmed, attempt.servers]
    exact exchanges.servers

theorem wanted (enabled : settings.vipGroup.enabled = true)
    (effect : Effect settings remote s w calls ok s' w') :
    ∀ write ∈ remote.writes calls, write.wanted = s'.addresses := by
  intro write member
  cases effect with
  | refused exchanges =>
    rw [exchanges.keeps.2.2.2] at member
    cases member
  | @tried before s₁ w₁ exchanges =>
    have attempt := sync_attempt enabled remote s₁ w₁
    rw [Remote.writes_append, exchanges.keeps.2.2.2, List.append_nil] at member
    rw [attempt.addresses]
    obtain none | ⟨_, one⟩ := attempt.writes_eq
    · rw [none] at member
      cases member
    · rw [one, List.mem_singleton] at member
      rw [member]

end Effect

namespace Effects

variable {calls' : List Moment} {s₁ : State} {w₁ : Cloud} {ok : Bool}

theorem one (effect : Effect settings remote s w calls ok s' w') :
    Effects settings remote s w calls s' w' := Effects.none.next effect

theorem trans (first : Effects settings remote s w calls s₁ w₁)
    (rest : Effects settings remote s₁ w₁ calls' s' w') :
    Effects settings remote s w (calls ++ calls') s' w' := by
  induction rest with
  | none => simpa only [List.append_nil] using first
  | next _ effect ih => simpa only [List.append_assoc] using ih.next effect

theorem servers (enabled : settings.vipGroup.enabled = true)
    (effects : Effects settings remote s w calls s' w') :
    s'.servers = remote.confirmed calls s.servers := by
  induction effects with
  | none => rfl
  | next before effect ih => rw [effect.servers enabled, ih, Remote.confirmed_append]

end Effects

end VirtualServers

end NetIntent
