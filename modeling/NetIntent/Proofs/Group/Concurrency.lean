import Mathlib.Data.List.Induction
import NetIntent.Proofs.Group.Section

/-! Creations and deletions side by side. A call that changes the store while another is in the section
has its own section still to come; so the last section to succeed has read the store as it is, and what
it wrote to the group is what the store holds. -/
namespace NetIntent.VirtualServers

/-- The calls under way on one service: what is left of each, whether one of them is in the section, and
what they did, the latest first. -/
structure Crowd where
  state : State
  cloud : Cloud
  calls : List (Procedure State (Except Failure Unit))
  locked : Bool := false
  past : List (Nat × Event State) := []

namespace Crowd

def start (settings : Settings) (state : State) (cloud : Cloud) (mutations : List Mutation) :
    Crowd where
  state := state
  cloud := cloud
  calls := mutations.map (·.procedure settings)

def acted (c : Crowd) (i : Nat) (event : Event State)
    (rest : Procedure State (Except Failure Unit)) : Crowd :=
  { c with calls := c.calls.set i rest, past := (i, event) :: c.past }

/-- The next action of one call, with a number for it to draw. A call that has returned does nothing,
and one that waits for the section does nothing while another is in it. -/
def act (remote : Remote) (c : Crowd) (i : Nat) (x : Float) : Crowd :=
  match c.calls[i]? with
  | none | some (.done _) => c
  | some (.update next rest) =>
    { c.acted i (.deed (.change c.state (next c.state))) (rest c.state) with state := next c.state }
  | some (.call call rest) =>
    let (reply, cloud) := remote.reply call c.cloud
    { c.acted i (.deed (.call ⟨call, reply⟩)) (rest reply) with cloud }
  | some (.record entry rest) => c.acted i (.deed (.entry entry)) rest
  | some (.pause _ rest) => c.acted i .silent rest
  | some (.draw _ rest) => c.acted i .silent (rest x)
  | some (.enter rest) => if c.locked then c else { c.acted i .enter rest with locked := true }
  | some (.leave rest) => { c.acted i .leave rest with locked := false }

/-- Actions in any order, each of the call and with the draw that a turn names. -/
def run (remote : Remote) (c : Crowd) (turns : List (Nat × Float)) : Crowd :=
  turns.foldl (fun c turn => c.act remote turn.1 turn.2) c

/-- A call is in the section: it has entered it and not left it since. -/
def Within (i : Nat) : List (Nat × Event State) → Prop
  | [] => False
  | (j, .enter) :: earlier => i = j ∨ Within i earlier
  | (j, .leave) :: earlier => i ≠ j ∧ Within i earlier
  | _ :: earlier => Within i earlier

def lastEntered : List (Nat × Event State) → Option Nat
  | [] => none
  | (i, .enter) :: _ => some i
  | _ :: earlier => lastEntered earlier

/-- Every call on the group was made within the section. -/
def Guarded : List (Nat × Event State) → Prop
  | [] => True
  | (i, .deed (.call exchange)) :: earlier =>
    (exchange.call.onGroup = true → Within i earlier) ∧ Guarded earlier
  | _ :: earlier => Guarded earlier

/-- What an action makes of the section. -/
def Locks (before : Bool) : Event State → Bool → Prop
  | .enter, after => before = false ∧ after = true
  | .leave, after => after = false
  | _, after => after = before

inductive Acts (remote : Remote) (c : Crowd) (i : Nat) : Crowd → Prop where
  | idle : Acts remote c i c
  | acts {p p' : Procedure State (Except Failure Unit)} {s : State} {event : Event State} {cloud : Cloud}
      {locked : Bool} (among : c.calls[i]? = some p) (step : p.Step c.state event s p')
      (meets : Meets remote c.cloud event cloud) (lock : Locks c.locked event locked) :
      Acts remote c i ⟨s, cloud, c.calls.set i p', locked, (i, event) :: c.past⟩

theorem act_cases (remote : Remote) (c : Crowd) (i : Nat) (x : Float) :
    Acts remote c i (c.act remote i x) := by
  unfold act
  split
  · exact .idle
  · exact .idle
  · exact .acts ‹_› (.update _ _ _) rfl rfl
  · exact .acts ‹_› (.call _ _ _ _) rfl rfl
  · exact .acts ‹_› (.record _ _ _) rfl rfl
  · exact .acts ‹_› (.pause _ _ _) rfl rfl
  · exact .acts ‹_› (.draw _ _ _ _) rfl rfl
  · split
    · exact .idle
    · exact .acts ‹_› (.enter _ _) rfl ⟨Bool.of_not_eq_true ‹_›, rfl⟩
  · exact .acts ‹_› (.leave _ _) rfl rfl

/-- Some call has changed the store and is about to enter the section. -/
def Owed (settings : Settings) (calls : List (Procedure State (Except Failure Unit))) : Prop :=
  ∃ i : Nat, calls[i]? = some (Procedure.enter (publish settings))

/-- Addresses that the store holds, or that a section still to come will replace. -/
def Fresh (settings : Settings) (own : String → Prop) (c : Crowd) (addresses : AddressSet) : Prop :=
  (∀ a ∈ addresses, own a) ∧ (addresses = c.state.addresses ∨ Owed settings c.calls)

/-- What is left of a call that is not in the section: it prepares, or it waits for the section. -/
def Outside (settings : Settings) (p : Procedure State (Except Failure Unit)) : Prop :=
  Prepares settings p ∨ p = .enter (publish settings)

/-- All calls of some kind are outside of the section. -/
def Apart (settings : Settings) (kind : Nat → Prop)
    (calls : List (Procedure State (Except Failure Unit))) : Prop :=
  ∀ (i : Nat) (p : Procedure State (Except Failure Unit)), kind i → calls[i]? = some p →
    Outside settings p

/-- The section is free, and if all went well with the last call in it, or none was, the addresses last
written are fresh. Or one call is in it. -/
inductive Stage (settings : Settings) (own : String → Prop) (foreign : AddressSet) (c : Crowd) :
    Prop where
  | free (unlocked : c.locked = false)
      (outside : Apart settings (fun _ => True) c.calls)
      (none : ∀ i, ¬Within i c.past)
      (holds : Holds foreign c.state.published c.cloud.group)
      (returned : ∀ i, lastEntered c.past = some i → ∃ result, c.calls[i]? = some (.done result))
      (current : (∀ i, lastEntered c.past = some i → c.calls[i]? = some (.done (.ok ()))) →
        Fresh settings own c c.state.published)
  | held {h : Nat} {p : Procedure State (Except Failure Unit)} (locked : c.locked = true)
      (among : c.calls[h]? = some p)
      (inside : Inside settings foreign (Fresh settings own c) c.state.published c.cloud.group p)
      (outside : Apart settings (· ≠ h) c.calls)
      (only : ∀ i, Within i c.past ↔ i = h) (last : lastEntered c.past = some h)

/-- What every action keeps. -/
structure Tracked (settings : Settings) (own : String → Prop) (foreign : AddressSet) (c : Crowd) :
    Prop where
  held : ∀ a ∈ c.state.addresses, own a
  known : ∀ a ∈ c.state.published, own a
  guarded : Guarded c.past
  stage : Stage settings own foreign c

variable {settings : Settings} {own : String → Prop} {foreign : AddressSet} {remote : Remote}
  {c c' : Crowd} {i j : Nat} {p p' q : Procedure State (Except Failure Unit)} {event : Event State}
  {calls : List (Procedure State (Except Failure Unit))}

theorem set_cases (found : (calls.set i p')[j]? = some q) :
    (j = i ∧ q = p') ∨ (j ≠ i ∧ calls[j]? = some q) := by
  by_cases same : i = j
  · subst same
    rw [List.getElem?_set, if_pos rfl] at found
    split at found
    · exact .inl ⟨rfl, (Option.some.inj found).symm⟩
    · cases found
  · rw [List.getElem?_set_ne same] at found
    exact .inr ⟨Ne.symm same, found⟩

theorem set_self (among : calls[i]? = some p) : (calls.set i p')[i]? = some p' :=
  List.getElem?_set_self (List.getElem?_eq_some_iff.mp among).1

theorem other_kept (found : calls[j]? = some q) (among : calls[i]? = some p) (other : p ≠ q) :
    (calls.set i p')[j]? = some q := by
  rwa [List.getElem?_set_ne]
  rintro rfl
  exact other (Option.some.inj (among.symm.trans found))

theorem Owed.kept (owed : Owed settings calls) (among : calls[i]? = some p)
    (other : p ≠ .enter (publish settings)) : Owed settings (calls.set i p') := by
  obtain ⟨j, waits⟩ := owed
  exact ⟨j, other_kept waits among other⟩

theorem Apart.set {kind kind' : Nat → Prop} (outside : Apart settings kind calls)
    (next : kind' i → Outside settings p') (others : ∀ j, j ≠ i → kind' j → kind j) :
    Apart settings kind' (calls.set i p') := by
  intro j q own found
  obtain ⟨rfl, rfl⟩ | ⟨other, before⟩ := set_cases found
  · exact next own
  · exact outside j q (others j other own) before

theorem within_inner (inner : event.Inner) (past : List (Nat × Event State)) :
    Within j ((i, event) :: past) ↔ Within j past := by
  cases event with
  | deed | silent => exact Iff.rfl
  | enter | leave => exact inner.elim

theorem lastEntered_inner (inner : event.Inner) (past : List (Nat × Event State)) :
    lastEntered ((i, event) :: past) = lastEntered past := by
  cases event with
  | deed | silent => rfl
  | enter | leave => exact inner.elim

theorem locks_inner {before after : Bool} (inner : event.Inner) (lock : Locks before event after) :
    after = before := by
  cases event with
  | deed | silent => exact lock
  | enter | leave => exact inner.elim

theorem Guarded.cons {past : List (Nat × Event State)} (guarded : Guarded past)
    (inside : ∀ exchange, event = .deed (.call exchange) → exchange.call.onGroup = true → Within i past) :
    Guarded ((i, event) :: past) := by
  cases event with
  | deed deed =>
    cases deed with
    | call exchange => exact ⟨inside exchange rfl, guarded⟩
    | change | entry => exact guarded
  | silent | enter | leave => exact guarded

section

variable {s : State} {cloud : Cloud} {locked : Bool} {addresses : AddressSet} {h : Nat}
  (among : c.calls[i]? = some p) (step : p.Step c.state event s p')
  (meets : Meets remote c.cloud event cloud) (lock : Locks c.locked event locked)

include among step meets

/-- What is fresh stays so when a call outside of the section acts: if that changes the store, a section
of its own is still to come. -/
theorem Fresh.prepares (prepares : Prepares settings p) (fresh : Fresh settings own c addresses) :
    Fresh settings own ⟨s, cloud, c.calls.set i p', locked, (i, event) :: c.past⟩ addresses := by
  obtain ⟨-, -, -, -, ⟨rfl, -⟩ | rfl⟩ := prepares.step step meets
  · refine ⟨fresh.1, fresh.2.imp_right fun owed => owed.kept among ?_⟩
    rintro rfl
    exact prepares
  · exact ⟨fresh.1, .inr ⟨i, set_self among⟩⟩

include lock

/-- A call outside of the section acts: whoever is in it finds what it has read as fresh as before. -/
theorem Stage.prepares (stage : Stage settings own foreign c) (prepares : Prepares settings p)
    (other : ∀ h, c.locked = true → lastEntered c.past = some h → i ≠ h) :
    Stage settings own foreign ⟨s, cloud, c.calls.set i p', locked, (i, event) :: c.past⟩ := by
  have stays := fun addresses => @Fresh.prepares settings own remote c i p p' event s cloud locked
    addresses among step meets prepares
  obtain ⟨inner, -, group, published, next⟩ := prepares.step step meets
  have outside' : Outside settings p' := next.imp_left And.right
  have still := locks_inner inner lock
  cases stage with
  | free unlocked outside none holds returned current =>
    have unfinished : ∀ result, p ≠ .done result := by
      rintro result rfl
      cases step
    refine .free (still.trans unlocked) (outside.set (fun _ => outside') fun _ _ _ => trivial) ?none
      ?holds ?returned ?current
    case none =>
      intro j
      rw [within_inner inner]
      exact none j
    case holds => simpa only [group, published] using holds
    case returned =>
      intro j last
      rw [lastEntered_inner inner] at last
      obtain ⟨result, found⟩ := returned j last
      exact ⟨result, other_kept found among (unfinished result)⟩
    case current =>
      -- A call that has returned does nothing more, so the last one in the section is still that one.
      intro fine
      rw [published]
      refine stays _ (current fun j last => ?_)
      obtain ⟨result, found⟩ := returned j last
      have ok := fine j ((lastEntered_inner inner c.past).trans last)
      rw [other_kept found among (unfinished result)] at ok
      rw [found]
      exact ok
  | @held h q locked' held inside outside only last =>
    have apart := other h locked' last
    have kept : (c.calls.set i p')[h]? = some q := by rwa [List.getElem?_set_ne apart]
    refine .held (still.trans locked') kept ?inside
      (outside.set (fun _ => outside') fun _ _ own => own) ?only
      ((lastEntered_inner inner c.past).trans last)
    case inside => simpa only [group, published] using inside.mono stays
    case only =>
      intro j
      rw [within_inner inner]
      exact only j

theorem Tracked.prepares (tracked : Tracked settings own foreign c) (prepares : Prepares settings p)
    (other : ∀ h, c.locked = true → lastEntered c.past = some h → i ≠ h)
    (held : ∀ a ∈ s.addresses, own a) :
    Tracked settings own foreign ⟨s, cloud, c.calls.set i p', locked, (i, event) :: c.past⟩ := by
  obtain ⟨-, calls, -, published, -⟩ := prepares.step step meets
  refine ⟨held, ?known, tracked.guarded.cons ?guarded,
    tracked.stage.prepares among step meets lock prepares other⟩
  case known =>
    rw [published]
    exact tracked.known
  case guarded =>
    intro exchange made onGroup
    rw [calls exchange made] at onGroup
    cases onGroup

/-- The call in the section acts: it goes on with what it has read, or leaves the section in order. -/
theorem Stage.inside (honest : ∀ n, remote.takesEffect n = false)
    (current : Fresh settings own c c.state.addresses) (apart : ∀ a ∈ foreign, a ∉ c.state.published)
    (inside : Inside settings foreign (Fresh settings own c) c.state.published c.cloud.group p)
    (outside : Apart settings (· ≠ i) c.calls) (only : ∀ j, Within j c.past ↔ j = i)
    (last : lastEntered c.past = some i) (locked' : c.locked = true) :
    Stage settings own foreign ⟨s, cloud, c.calls.set i p', locked, (i, event) :: c.past⟩ ∧
      (s.published = c.state.published ∨ Fresh settings own c s.published) := by
  have stays : s.servers = c.state.servers → ∀ addresses, Fresh settings own c addresses →
      Fresh settings own ⟨s, cloud, c.calls.set i p', locked, (i, event) :: c.past⟩ addresses := by
    intro same addresses fresh
    have held : s.addresses = c.state.addresses := congrArg State.addressesOf same
    refine ⟨fresh.1, fresh.2.imp (fun own => own.trans held.symm) fun owed => ?_⟩
    exact owed.kept among (inside.acts.2 _)
  obtain ⟨inner, servers, published, next⟩ | ⟨rfl, rfl, rfl, holds, result, rfl, read⟩ :=
    inside.step honest apart current step meets
  · refine ⟨.held ((locks_inner inner lock).trans locked') (set_self among) (next.mono (stays servers))
      (outside.set (fun own => absurd rfl own) fun _ _ own => own) ?_
      ((lastEntered_inner inner c.past).trans last), published⟩
    intro j
    rw [within_inner inner]
    exact only j
  · refine ⟨.free lock (outside.set (fun _ => .inl trivial) fun _ other _ => other) ?none holds
      ?returned ?current, .inl rfl⟩
    case none =>
      rintro j ⟨other, before⟩
      exact other ((only j).mp before)
    case returned =>
      intro j entered
      obtain rfl := Option.some.inj (last.symm.trans entered)
      exact ⟨result, set_self among⟩
    case current =>
      intro fine
      have ok := fine i last
      rw [set_self among] at ok
      cases ok
      exact stays rfl _ (read rfl)

end

theorem Tracked.acts (honest : ∀ n, remote.takesEffect n = false) (apart : ∀ a ∈ foreign, ¬own a)
    (tracked : Tracked settings own foreign c) (acts : Acts remote c i c')
    (held : ∀ a ∈ c'.state.addresses, own a) : Tracked settings own foreign c' := by
  obtain _ | ⟨among, step, meets, lock⟩ := acts
  · exact tracked
  rename_i p p' s event cloud locked
  cases tracked.stage with
  | free unlocked outside none holds returned current =>
    obtain prepares | rfl := outside i p trivial among
    · refine tracked.prepares among step meets lock prepares (fun h locked => ?_) held
      exact absurd (unlocked.symm.trans locked) Bool.false_ne_true
    · cases step with
      | enter =>
        obtain rfl : cloud = c.cloud := meets
        refine ⟨held, tracked.known, tracked.guarded, .held lock.2 (set_self among) (.reading holds)
          (outside.set (fun own => absurd rfl own) fun _ _ _ => trivial) ?_ rfl⟩
        intro j
        simp [Within, none j]
  | @held h q locked' found inside outside only last =>
    -- Either the call in the section acts, or one that may only prepare: the section is not free.
    by_cases mine : i = h
    · subst mine
      obtain rfl := Option.some.inj (among.symm.trans found)
      have current : Fresh settings own c c.state.addresses := ⟨tracked.held, .inl rfl⟩
      have foreign' : ∀ a ∈ foreign, a ∉ c.state.published :=
        fun a other published => apart a other (tracked.known a published)
      obtain ⟨stage, published⟩ :=
        Stage.inside among step meets lock honest current foreign' inside outside only last locked'
      refine ⟨held, ?_, tracked.guarded.cons fun _ _ _ => (only i).mpr rfl, stage⟩
      obtain same | fresh := published
      · simpa only [same] using tracked.known
      · exact fresh.1
    · obtain prepares | rfl := outside i p mine among
      · refine tracked.prepares among step meets lock prepares (fun h' _ last' => ?_) held
        rwa [← Option.some.inj (last.symm.trans last')]
      · cases step with
        | enter => exact absurd (lock.1.symm.trans locked') Bool.false_ne_true

theorem act_acts (found : c.calls[i]? = some p) (unreturned : ∀ result, p ≠ .done result)
    (free : c.locked = true → ∀ rest, p ≠ .enter rest) (x : Float) :
    ∃ event, (c.act remote i x).past = (i, event) :: c.past := by
  unfold act
  rw [found]
  cases p with
  | done result => exact absurd rfl (unreturned result)
  | update | call | record | draw | pause | leave => exact ⟨_, rfl⟩
  | enter rest =>
    cases locked : c.locked with
    | true => exact absurd rfl (free locked rest)
    | false => exact ⟨_, rfl⟩

/-- The section is always left again: some call can act until all have returned. -/
theorem Tracked.goes_on (tracked : Tracked settings own foreign c) (remote : Remote)
    (member : p ∈ c.calls) (unreturned : ∀ result, p ≠ .done result) :
    ∃ j, ∀ x, ∃ event, (c.act remote j x).past = (j, event) :: c.past := by
  cases tracked.stage with
  | free unlocked =>
    obtain ⟨i, found⟩ := List.getElem?_of_mem member
    refine ⟨i, act_acts found unreturned fun locked => ?_⟩
    exact absurd (unlocked.symm.trans locked) Bool.false_ne_true
  | @held h q _ found inside =>
    exact ⟨h, act_acts found inside.acts.1 fun _ => inside.acts.2⟩

/-- What the calls find at first: the addresses last written are those of the store, and the group has
them beside those of others. -/
structure Ready (own : String → Prop) (s : State) (cloud : Cloud) : Prop where
  current : s.published = s.addresses
  holds : Holds cloud.foreign s.addresses cloud.group
  apart : ∀ a ∈ cloud.foreign, ¬own a

theorem start_tracked (enabled : settings.vipGroup.enabled = true) {s : State} {cloud : Cloud}
    (ready : Ready own s cloud) (mutations : List Mutation) (held : ∀ a ∈ s.addresses, own a) :
    Tracked settings own cloud.foreign (start settings s cloud mutations) := by
  refine ⟨held, ready.current ▸ held, trivial, .free rfl ?_ (fun _ => id) ?_ ?_ ?_⟩
  · intro i p _ found
    obtain ⟨mutation, -, rfl⟩ := List.mem_map.mp (List.mem_of_getElem? found)
    exact .inl (mutation.prepares enabled)
  · exact ready.current ▸ ready.holds
  · intro i entered
    cases entered
  · exact fun _ => ⟨ready.current ▸ held, .inl ready.current⟩

theorem run_tracked (enabled : settings.vipGroup.enabled = true)
    (honest : ∀ n, remote.takesEffect n = false) {s : State} {cloud : Cloud} (ready : Ready own s cloud)
    (mutations : List Mutation) (turns : List (Nat × Float))
    (held : ∀ early, early <+: turns →
      ∀ a ∈ ((start settings s cloud mutations).run remote early).state.addresses, own a) :
    Tracked settings own cloud.foreign ((start settings s cloud mutations).run remote turns) := by
  induction turns using List.reverseRecOn with
  | nil => exact start_tracked enabled ready mutations (held [] List.prefix_rfl)
  | append_singleton turns turn ih =>
    have before := ih fun early first => held early (first.trans (List.prefix_append turns [turn]))
    have own := held (turns ++ [turn]) List.prefix_rfl
    have ran : (start settings s cloud mutations).run remote (turns ++ [turn]) =
        ((start settings s cloud mutations).run remote turns).act remote turn.1 turn.2 := by
      simp [run]
    rw [ran] at own ⊢
    exact before.acts honest ready.apart (act_cases remote _ turn.1 turn.2) own

/-- Whatever the order of their actions, one call at a time is in the section, and only there the group
is asked for or written, and some call can act until all have returned. Then, unless the last that
entered the section failed in it, which is its answer, the addresses last written are those of the
store, and the group has exactly them beside those of others. -/
theorem mutations_side_by_side_lose_no_address (enabled : settings.vipGroup.enabled = true)
    (honest : ∀ n, remote.takesEffect n = false) {s : State} {cloud : Cloud} (ready : Ready own s cloud)
    (mutations : List Mutation) (turns : List (Nat × Float))
    (held : ∀ early, early <+: turns →
      ∀ a ∈ ((start settings s cloud mutations).run remote early).state.addresses, own a) :
    let c := (start settings s cloud mutations).run remote turns
    (∀ i j, Within i c.past → Within j c.past → i = j) ∧ Guarded c.past ∧
      (∀ p ∈ c.calls, (∀ result, p ≠ .done result) →
        ∃ j, ∀ x, ∃ event, (c.act remote j x).past = (j, event) :: c.past) ∧
      ((∀ p ∈ c.calls, ∃ result, p = .done result) →
        (∀ i, lastEntered c.past = some i → c.calls[i]? = some (.done (.ok ()))) →
          c.state.published = c.state.addresses ∧
            Holds cloud.foreign c.state.addresses c.cloud.group) := by
  intro c
  have tracked : Tracked settings own cloud.foreign c :=
    run_tracked enabled honest ready mutations turns held
  refine ⟨?alone, tracked.guarded, fun p => tracked.goes_on remote, ?published⟩
  case alone =>
    intro i j first second
    cases tracked.stage with
    | free _ _ none => exact absurd first (none i)
    | held _ _ _ _ only => exact ((only i).mp first).trans ((only j).mp second).symm
  case published =>
    intro returned fine
    cases tracked.stage with
    | free _ _ _ holds _ current =>
      have same : c.state.published = c.state.addresses := by
        refine (current fine).2.resolve_right ?_
        rintro ⟨i, waits⟩
        obtain ⟨result, done⟩ := returned _ (List.mem_of_getElem? waits)
        cases done
      exact ⟨same, same ▸ holds⟩
    | held _ among inside =>
      obtain ⟨result, rfl⟩ := returned _ (List.mem_of_getElem? among)
      cases inside

def result? : Procedure State (Except Failure Unit) → Option (Except Failure Unit)
  | .done result => some result
  | _ => none

theorem done_of_result? {result : Except Failure Unit} (ended : result? p = some result) :
    p = .done result := by
  cases p <;> cases ended
  rfl

namespace Sample

open NetIntent.VirtualServers.Sample (standard server)

def ofOthers : String := "10.0.0.9"

def shared : State :=
  .ofStores (VirtualServer.emptyStore.insert "a" { id := some "a", address := some "10.0.0.1" })
    SubnetPort.emptyStore

def cloud : Cloud where
  group := { expressions := [.addresses ["10.0.0.1", ofOthers]] }
  foreign := .ofList [ofOthers]

def sure : Remote := .faulty server [] false

/-- While the deletion is in its section, the creation changes the store and then waits. -/
def turns : List (Nat × Float) :=
  [0, 0, 0, 0, 0, 1, 1, 1, 1, 1, 1, 1, 0, 0, 0, 0, 1, 1, 1, 1, 1, 1].map (·, 0.0)

/-- A deletion and a creation after some of the turns. -/
def reached (k : Nat) : Crowd :=
  (Crowd.start standard shared cloud [.delete "a", .create server]).run sure (turns.take k)

end Sample

open NetIntent.VirtualServers.Sample NetIntent.VirtualServers.Crowd.Sample in
/-- The deletion publishes a store that the creation has changed meanwhile, and the creation makes up
for it. -/
theorem creation_within_deletion : (∀ n, sure.takesEffect n = false) ∧
    Ready (· ≠ ofOthers) shared Crowd.Sample.cloud ∧
    lastEntered (reached 12).past = some 0 ∧ (reached 12).locked = true ∧
    (reached 12).state.addresses.toList = ["10.0.0.2"] ∧
    (reached 16).cloud.group.addresses.toList = [ofOthers] ∧
    (reached 22).state.published = (reached 22).state.addresses ∧
    Holds (.ofList [ofOthers]) (reached 22).state.addresses (reached 22).cloud.group ∧
    (reached 22).cloud.group.addresses.toList = ["10.0.0.2", ofOthers] := by
  have honest : ∀ n, sure.takesEffect n = false := fun _ => rfl
  have ready : Ready (· ≠ ofOthers) shared Crowd.Sample.cloud :=
    ⟨rfl, ⟨by decide +kernel, Std.ExtTreeSet.toList_inj.mp (by decide +kernel)⟩,
      AddressSet.all_mem (by decide +kernel)⟩
  have held : ∀ early, early <+: turns → ∀ a ∈ ((Crowd.start standard shared Crowd.Sample.cloud
      [.delete "a", .create server]).run sure early).state.addresses, a ≠ ofOthers := by
    have listed : ∀ k ≤ 22, ∀ a ∈ (reached k).state.addresses.toList, a ≠ ofOthers := by
      decide +kernel
    intro early first
    rw [List.prefix_iff_eq_take.mp first]
    exact AddressSet.all_mem (listed _ first.length_le)
  have results : (reached 22).calls.map result? = [some (.ok ()), some (.ok ())] := by decide +kernel
  have ended : ∀ p ∈ (reached 22).calls, p = .done (.ok ()) := by
    intro p member
    have result : result? p ∈ (reached 22).calls.map result? := List.mem_map_of_mem member
    rw [results] at result
    exact done_of_result? (by simpa using result)
  have last : lastEntered (reached 22).past = some 1 := by decide +kernel
  obtain ⟨-, -, -, publishes⟩ := mutations_side_by_side_lose_no_address rfl honest ready
    [.delete "a", .create server] turns held
  have fine : ∀ i, lastEntered (reached 22).past = some i →
      (reached 22).calls[i]? = some (.done (.ok ())) := by
    intro i entered
    obtain rfl := Option.some.inj (last.symm.trans entered)
    have within : 1 < (reached 22).calls.length := by decide +kernel
    exact (List.getElem?_eq_getElem within).trans (congrArg some (ended _ (List.getElem_mem within)))
  obtain ⟨published, holds⟩ := publishes (fun p member => ⟨_, ended p member⟩) fine
  exact ⟨honest, ready, by decide +kernel, by decide +kernel, by decide +kernel, by decide +kernel,
    published, holds, by decide +kernel⟩

end Crowd

end NetIntent.VirtualServers
