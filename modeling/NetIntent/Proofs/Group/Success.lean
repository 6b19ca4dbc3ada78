import NetIntent.Proofs.Group.Operations

/-! What a success says about the group. Every operation ends in a sync that succeeds with it, apart
from a deletion by service and port that finds no server: it succeeds without a call, also when an
earlier write has failed and the addresses held still wait to be written. -/
namespace NetIntent.VirtualServers

variable {settings : Settings} {remote : Remote}

/-- A deletion by service and port for which no server is held. -/
def Request.FindsNone (s : State) : Request → Prop
  | .deleteForPort _ uid port => (ofServiceAndPort s uid port).filterMap (·.id) = []
  | .create _ | .delete _ | .sync => False

theorem IsEffect.published {α : Type} {p : Procedure State (Except Failure α)}
    (enabled : settings.vipGroup.enabled = true) (effect : IsEffect settings remote p) {s : State}
    {w : Cloud} (succeeded : (p.run remote.world (s, w)).1.isOk = true) :
    (p.run remote.world (s, w)).2.1.published = (p.run remote.world (s, w)).2.1.addresses := by
  have ran := effect s w
  rw [succeeded] at ran
  exact ran.published enabled

theorem ids_arranged (order : VisitOrder VirtualServer) (found : List VirtualServer) :
    (order.arrange found).filterMap (·.id) = [] ↔ found.filterMap (·.id) = [] := by
  have same := ((order.perm found).filterMap (·.id)).length_eq
  rw [← List.length_eq_zero_iff, ← List.length_eq_zero_iff, same]

theorem deleteForPort_idle {s : State} (order : VisitOrder VirtualServer) {uid port : String}
    (none : (ofServiceAndPort s uid port).filterMap (·.id) = []) (w : Cloud) :
    (deleteForPort settings order uid port).run remote.world (s, w) = (.ok (), s, w) := by
  simp only [deleteForPort, Procedure.read, Procedure.run, id_eq, (ids_arranged order _).mpr none]
  rfl

theorem deleteForPort_published (enabled : settings.vipGroup.enabled = true) {s : State} {w : Cloud}
    {order : VisitOrder VirtualServer} {uid port : String}
    (found : (ofServiceAndPort s uid port).filterMap (·.id) ≠ [])
    (succeeded : ((deleteForPort settings order uid port).run remote.world (s, w)).1.isOk = true) :
    ((deleteForPort settings order uid port).run remote.world (s, w)).2.1.published =
      ((deleteForPort settings order uid port).run remote.world (s, w)).2.1.addresses := by
  have last := (deleteAll_effects enabled remote
    ((order.arrange (ofServiceAndPort s uid port)).filterMap (·.id)) s w).2.2
      (mt (ids_arranged order _).mp found)
  simp only [deleteForPort, Procedure.read, Procedure.run, Procedure.run_bind, id_eq] at succeeded ⊢
  apply last
  split at succeeded
  · rename_i silent
    exact List.isEmpty_iff.mp silent
  · cases succeeded

theorem success_published (enabled : settings.vipGroup.enabled = true) {scene : Scene}
    {request : Request} (succeeded : (scene.answer settings remote request).isOk = true)
    (found : ¬request.FindsNone scene.state) :
    (scene.after settings remote request).state.published =
      (scene.after settings remote request).state.addresses := by
  cases request with
  | create server => exact (create_effect settings remote server).published enabled succeeded
  | delete id => exact (delete_effect settings remote id).published enabled succeeded
  | sync => exact (sync_effect settings remote).published enabled succeeded
  | deleteForPort order uid port => exact deleteForPort_published enabled found succeeded

theorem findsNone_idle {scene : Scene} {request : Request} (none : request.FindsNone scene.state) :
    (scene.after settings remote request).state = scene.state := by
  cases request with
  | create server => exact none.elim
  | delete id => exact none.elim
  | sync => exact none.elim
  | deleteForPort order uid port =>
    exact congrArg (·.2.1) (deleteForPort_idle order none scene.cloud)

/-- An operation that succeeds leaves the addresses held as those last written, unless it found
nothing to delete and they were not so before. -/
theorem success_published_iff (enabled : settings.vipGroup.enabled = true) {scene : Scene}
    {request : Request} (succeeded : (scene.answer settings remote request).isOk = true) :
    (scene.after settings remote request).state.published =
        (scene.after settings remote request).state.addresses ↔
      (request.FindsNone scene.state → scene.state.published = scene.state.addresses) := by
  by_cases none : request.FindsNone scene.state
  · rw [findsNone_idle none]
    exact ⟨fun published _ => published, fun published => published none⟩
  · have published := success_published enabled succeeded none
    exact ⟨fun _ finds => absurd finds none, fun _ => published⟩

namespace Sample

/-- The deletion is answered, the request for the group after it is not. -/
def unread : Remote := .faulty server [1] false

def request : Request := .deleteForPort (.held VirtualServer) "uid" "80"

def held : Scene := start stocked ["10.0.0.2"] []

def failed : Scene := held.after standard unread request

def retried : Scene := failed.after standard unread request

end Sample

open Sample in
/-- A first deletion by service and port to which every call is answered. -/
theorem published_after_deletion :
    (held.answer standard (.faulty server [] false) request).isOk = true ∧
      ¬request.FindsNone held.state ∧
      (held.after standard (.faulty server [] false) request).state.published =
        (held.after standard (.faulty server [] false) request).state.addresses := by
  have succeeded : (held.answer standard (.faulty server [] false) request).isOk = true := by
    decide +kernel
  have found : ¬request.FindsNone held.state := by
    unfold request Request.FindsNone
    decide +kernel
  exact ⟨succeeded, found, (success_published_iff rfl succeeded).mpr fun none => absurd none found⟩

open Sample in
/-- After a deletion whose sync failed, the same request succeeds and leaves the group unwritten. -/
theorem unpublished_after_retried_deletion :
    held.state.published = held.state.addresses ∧
      held.answer standard unread request =
        .error (.several ["transport error: connection reset"]) ∧
      (failed.answer standard unread request).isOk = true ∧
      retried.state.published.toList = ["10.0.0.2"] ∧ retried.state.addresses.toList = [] ∧
      retried.cloud.group.addresses.toList = ["10.0.0.2"] ∧
      retried.state.published ≠ retried.state.addresses := by
  refine ⟨rfl, by rfl, by decide +kernel, by decide +kernel, by decide +kernel, by decide +kernel,
    fun agreed => ?_⟩
  exact absurd (Std.ExtTreeSet.toList_inj.mpr agreed) (by decide +kernel)

end NetIntent.VirtualServers
