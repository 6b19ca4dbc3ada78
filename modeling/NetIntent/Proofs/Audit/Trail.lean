import NetIntent.Proofs.Deeds
import NetIntent.Proofs.Service.Operations
import NetIntent.Proofs.Service.Submission

/-! The audit trail of the services. A submission is followed by one entry that says how its stages
ended, a deletion by one that says how it was answered, and a stale port that was handled by one that
says whether it is gone. There are no other entries, whatever is found and answered. -/
namespace NetIntent

open Realization (Polled queried budget decision Undecided)

namespace Audit

/-- What is done on the remote side to a server or a port, by its kind and its id. -/
inductive Mutation where
  | submission (kind id : String)
  | deletion (kind id : String)

/-- The mutation that entries of a category are about. -/
def Category.mutation? (kind id : String) : Category → Option Mutation
  | .create | .modify => some (.submission kind id)
  | .delete => some (.deletion kind id)
  | .collect => none

namespace Entry

/-- What an entry says of an action on an object that ended with an error, or without one. -/
structure Reports (e : Entry) (category : Category) (kind id : String) (error : Option String) : Prop where
  category : e.category = category
  kind : e.objectType = some kind
  id : e.objectId = some id
  outcome : e.outcome = if error.isNone then .success else .failure
  error : e.error = error

theorem about_reports (category : Category) (source action kind id : String) (details : Option Document)
    (error : Option String) :
    ({ about category source action id kind with details }.concluded error).Reports category kind id error := by
  cases error with
  | none | some => exact ⟨rfl, rfl, rfl, rfl, rfl⟩

/-- The mutation that an entry is about. -/
def mutation? (e : Entry) : Option Mutation := do
  e.category.mutation? (← e.objectType) (← e.objectId)

theorem Reports.mutation {e : Entry} {category : Category} {kind id : String} {error : Option String}
    (reports : e.Reports category kind id error) : e.mutation? = category.mutation? kind id := by
  simp only [mutation?, reports.category, reports.kind, reports.id, Option.bind_eq_bind, Option.bind_some]

end Entry

end Audit

open Audit

/-- The mutation that a call is. Group writes are not among them. -/
def Call.mutation? : Call → Option Mutation
  | patchServer id _ => some (.submission VirtualServer.kind id)
  | patchPort _ id _ => some (.submission SubnetPort.kind id)
  | deleteServer id => some (.deletion VirtualServer.kind id)
  | deletePort _ id => some (.deletion SubnetPort.kind id)
  | _ => none

/-- A deed that needs no entry and is none: it is no mutation, and it does not count. -/
def Deed.Plain : Deed State → Prop
  | .change before after => after.counters = before.counters
  | .call exchange => exchange.call.mutation? = none
  | .entry _ => False

/-- The submission of an object of some kind under an id: its calls, its intent path, the number of
queries, and whether the object was held. -/
inductive Submission (services : Services) :
    String → String → Call → Call → String → Nat → (State → Bool) → Prop where
  | server (id : String) (server : VirtualServer) :
      Submission services VirtualServer.kind id (.patchServer id server) (.getServer id)
        (Path.virtualServer id) (budget services.servers.policy) fun s => (s.servers.get? id).isSome
  | port (subnet id : String) (port : SubnetPort) :
      Submission services SubnetPort.kind id (.patchPort subnet id port) (.getPort subnet id)
        (Path.subnetPort subnet id) (budget services.ports.policy) fun s => (s.ports.get? id).isSome

/-- The error of a deletion, if the object is not gone. -/
def deletionError {α : Type} (reply : Except ClientError α) : Option String :=
  if Confirms reply then none else Failure.messageOf (reply.mapError .client)

theorem messageOf_ofDeletion (reply : Except ClientError Unit) :
    Failure.messageOf (Failure.ofDeletion reply) = deletionError reply := by
  rcases reply with (_ | _ | _) | _ <;> rfl

/-- Submissions and deletions, each with its entry, among deeds that need none. -/
inductive Matched (services : Services) : List (Deed State) → Prop where
  | nothing : Matched services []
  | plain {deed : Deed State} {later : List (Deed State)} (plain : deed.Plain)
      (rest : Matched services later) : Matched services (deed :: later)
  | submission {s : State} {kind id path : String} {submit fetch : Call} {allowed : Nat}
      {held : State → Bool} {exchanges : List Exchange} {result : Except Failure fetch.Answer}
      {entry : Entry} {later : List (Deed State)}
      (submission : Submission services kind id submit fetch path allowed held)
      (stages : Stages submit fetch path allowed exchanges result)
      (reports : entry.Reports (if held s then .modify else .create) kind id (Failure.messageOf result))
      (rest : Matched services later) :
      Matched services (.change s s :: (exchanges.map .call ++ .entry entry :: later))
  | deletion {c : Call} {kind id : String} {reply : c.Reply} {entry : Entry} {later : List (Deed State)}
      (deletes : c.mutation? = some (.deletion kind id))
      (reports : entry.Reports .delete kind id (deletionError reply)) (rest : Matched services later) :
      Matched services (.call ⟨c, reply⟩ :: .entry entry :: later)

/-- Stale ports handled in turn. Each is counted, deleted as it is for a request to delete it, recorded
with the result of that, and counted as removed or failed. -/
inductive Handled (services : Services) : List String → List (Deed State) → Prop where
  | nothing : Handled services [] []
  | port {id : String} {ids : List String} {s s' : State} {deleting later : List (Deed State)}
      {result : Except Failure Unit} {entry : Entry}
      (deleted : (SubnetPorts.deleteById id).Goes deleting result) (matched : Matched services deleting)
      (reports : entry.Reports .collect SubnetPort.kind id (Failure.messageOf result))
      (rest : Handled services ids later) :
      Handled services (id :: ids) (.change s (s.withCounters Counters.begin) ::
        (deleting ++ .entry entry :: .change s' (s'.withCounters (Counters.conclude result.toBool)) :: later))

/-- What the services do: mutations with their entries, and rounds of the collection, each of which
handles the ports of Pods that it found held and not accounted for by the Pods listed. -/
inductive Trail (services : Services) : List (Deed State) → Prop where
  | nothing : Trail services []
  | matched {deeds later : List (Deed State)} (first : Matched services deeds)
      (rest : Trail services later) : Trail services (deeds ++ later)
  | round {s : State} {order : VisitOrder String} {pods : List Pod} {deeds later : List (Deed State)}
      (handled : Handled services
        (order.arrange (SubnetPorts.podPortIds s \ StalePorts.livePortIds pods).toList) deeds)
      (rest : Trail services later) :
      Trail services (.change s s :: .call ⟨.pods, .ok pods⟩ :: (deeds ++ later))

variable {services : Services} {deeds later : List (Deed State)}

theorem Matched.of_plain (plain : ∀ deed ∈ deeds, deed.Plain) : Matched services deeds := by
  induction deeds with
  | nil => exact .nothing
  | cons deed rest ih =>
    obtain ⟨first, others⟩ := List.forall_mem_cons.mp plain
    exact .plain first (ih others)

theorem Matched.append (first : Matched services deeds) (rest : Matched services later) :
    Matched services (deeds ++ later) := by
  induction first with
  | nothing => exact rest
  | plain plain _ ih => exact .plain plain ih
  | submission submission stages reports _ ih =>
    rw [List.cons_append, List.append_assoc]
    exact .submission submission stages reports ih
  | deletion deletes reports _ ih => exact .deletion deletes reports ih

theorem Trail.append (first : Trail services deeds) (rest : Trail services later) :
    Trail services (deeds ++ later) := by
  induction first with
  | nothing => exact rest
  | matched first _ ih =>
    rw [List.append_assoc]
    exact .matched first ih
  | round handled _ ih =>
    rw [List.cons_append, List.cons_append, List.append_assoc]
    exact .round handled ih

theorem Matched.trail (matched : Matched services deeds) : Trail services deeds :=
  List.append_nil deeds ▸ .matched matched .nothing

section

variable {σ : Type} {path : String} {expected : List Realization.Expected} {allowed : Nat}

namespace Realization

/-- The courses of a procedure that only polls a path. -/
def Queries (path : String) (expected : List Expected) (allowed : Nat)
    (p : Procedure σ (Except RealizeError Unit)) : Prop :=
  ∀ deeds result, p.Goes deeds result → ∃ answers, deeds = (answers.map (queried path)).map .call ∧
    Polled path expected allowed answers result

theorem Queries.query {rest : Procedure σ (Except RealizeError Unit)}
    (queries : Queries path expected allowed rest) :
    Queries path expected (allowed + 1) (.call (.entities path) fun answer =>
      match decision path expected answer with
      | some result => .done result
      | none => rest) := by
  rintro deeds result ⟨answer, later, rfl, goes⟩
  obtain ⟨more, undecided⟩ | ⟨_, ends, decides⟩ := decision_cases path expected answer
  · simp only [more] at goes
    obtain ⟨answers, rfl, polled⟩ := queries later result goes
    exact ⟨answer :: answers, rfl, polled.next undecided⟩
  · simp only [ends] at goes
    obtain ⟨rfl, rfl⟩ := goes
    exact ⟨[answer], rfl, .decided (List.nil_append _).symm (Nat.le_add_left _ _) (by simp) decides⟩

theorem attempts_queries (path : String) (expected : List Expected) (left : Nat) (b : Backoff) :
    Queries path expected left (attempts path expected left b : Procedure σ _) := by
  induction left generalizing b with
  | zero =>
    rintro deeds result ⟨rfl, rfl⟩
    exact ⟨[], rfl, .exhausted rfl (by simp)⟩
  | succ left ih =>
    unfold attempts wait
    split
    · rintro deeds result ⟨x, goes⟩
      exact (ih b.grow).query deeds result goes
    · exact (ih b.grow).query

theorem poll_queries (b : Backoff) (path : String) (expected : List Expected) :
    Queries path expected (budget b) (poll b path expected : Procedure σ _) := by
  have counted : b.steps.toNat - 1 + 1 = budget b := by
    unfold budget
    omega
  rw [← counted]
  exact (attempts_queries path expected _ b).query

end Realization

theorem staged_goes {policy : Backoff} {submit fetch : Call} {deeds : List (Deed σ)}
    {result : Except Failure fetch.Answer} (goes : (staged policy path submit fetch).Goes deeds result) :
    ∃ exchanges, deeds = exchanges.map .call ∧ Stages submit fetch path (budget policy) exchanges result := by
  obtain ⟨reply, later, rfl, goes⟩ := goes
  cases reply with
  | error e =>
    obtain ⟨rfl, rfl⟩ := goes
    exact ⟨[_], rfl, .refused⟩
  | ok accepted =>
    obtain ⟨polling, ended, later, rfl, polls, goes⟩ := goes.parts
    obtain ⟨answers, rfl, polled⟩ := Realization.poll_queries policy path [] polling ended polls
    cases ended with
    | error e =>
      obtain ⟨rfl, rfl⟩ := goes
      rw [List.append_nil]
      exact ⟨⟨submit, .ok accepted⟩ :: answers.map (queried path), rfl, .unrealized polled⟩
    | ok _ =>
      obtain ⟨reply, later, rfl, rfl, rfl⟩ := goes
      refine ⟨⟨submit, .ok accepted⟩ :: (answers.map (queried path) ++ [⟨fetch, reply⟩]), by simp, ?_⟩
      cases reply with
      | error e => exact .unread polled
      | ok object => exact .fetched polled

end

end NetIntent
