import NetIntent.Proofs.Collector.Round
import NetIntent.Proofs.Load.Listing
import NetIntent.Proofs.Policy.Grammar

/-! A port before and after a restart. A creation holds a port under the subnet path as it was given,
and a load of the listing under the parent of the port's own path, which has no slashes at its end. So
the port is found alike before and after exactly if the path given has none either. -/
namespace NetIntent

namespace Store

variable {R : Type} [Indexed R] {s s' : Store R} {record x : R} {records : List R} {key : String}

theorem get?_apply (applied : s.apply record = .ok s') (own : Indexed.key record = some key)
    (lasting : Indexed.tombstone record = false) : s'.get? key = some record := by
  simp only [Store.apply, own, lasting, Except.ok.injEq] at applied
  rw [← applied]
  exact get?_insert.trans (if_pos rfl)

/-- Snapshots taken in turn keep a store consistent, and leave it with one that no other replaces. -/
theorem foldlM_apply (fold : records.foldlM Store.apply s = .ok s') (consistent : s.Consistent) :
    s'.Consistent ∧ s'.indexNames = s.indexNames ∧
      (Indexed.key x = some key → Indexed.tombstone x = false →
        (∀ r ∈ records, Indexed.key r = some key → r = x) →
        x ∈ records ∨ s.get? key = some x → s'.get? key = some x) := by
  induction records generalizing s with
  | nil =>
    cases fold
    exact ⟨consistent, rfl, fun _ _ _ held => held.resolve_left List.not_mem_nil⟩
  | cons record rest ih =>
    rw [List.foldlM_cons] at fold
    cases applied : s.apply record with
    | error e =>
      rw [applied] at fold
      cases fold
    | ok next =>
      rw [applied] at fold
      obtain ⟨kept, names, held⟩ := ih fold (consistent.apply applied)
      refine ⟨kept, names.trans (apply_agree applied).names, fun own lasting only among => ?_⟩
      refine held own lasting (fun r member => only r (List.mem_cons_of_mem _ member)) ?_
      by_cases same : Indexed.key record = some key
      · rw [← only record List.mem_cons_self same] at lasting ⊢
        exact .inr (get?_apply applied same lasting)
      · rcases among with member | before
        · refine .inl ((List.mem_cons.mp member).resolve_left ?_)
          rintro rfl
          exact same own
        · exact .inr (((apply_agree applied).held key (Ne.symm same)).trans before)

end Store

namespace Load.Loader

variable {R : Type} [Indexed R] {s : Store R} {replies : List (Reply R)} {n : UInt64}

/-- A load that succeeds has applied all records offered. -/
theorem foldlM_of_loaded (loaded : ((Loader.start s).load replies).result? = some (.ok n)) :
    (offered replies).foldlM Store.apply s = .ok ((Loader.start s).load replies).store := by
  obtain ⟨store, -, result⟩ := load_eq (l := Loader.start s) rfl replies
  obtain ⟨fold, -, all⟩ := applyAll_take s (offered replies)
  rw [result] at loaded
  cases refused : (applyAll s (offered replies)).2.2 with
  | some e => simp [start, refused, verdict] at loaded
  | none =>
    rw [all refused, List.take_length] at fold
    rw [fold, store]
    rfl

end Load.Loader

section

variable {ω : Type} {world : World State ω} {submit fetch : Call} {path : String} {allowed : Nat}

theorem Procedure.Moment.replied {m : Procedure.Moment State ω} {c : Call} {reply : c.Reply}
    (made : m.exchange world = ⟨c, reply⟩) : (world.reply c m.remote).1 = reply := by
  cases m
  cases made
  rfl

theorem Stages.fetch_mem {exchanges : List Exchange} {object : fetch.Answer}
    (stages : Stages submit fetch path allowed exchanges (.ok object)) :
    ⟨fetch, .ok object⟩ ∈ exchanges := by
  cases stages with
  | fetched => simp

/-- A creation that succeeds holds what it fetched, unless that is marked for deletion. -/
theorem Transaction.holds {R : Type} [Indexed R] {store : State → Store R}
    {put : State → Store R → State} {adopt : fetch.Answer → R} {s s' : State}
    {calls : List (Procedure.Moment State ω)} {record : R} {object : fetch.Answer} {key : String}
    (transaction : Transaction world submit fetch path allowed store put adopt s calls (.ok record) s')
    (read : ∀ w, (world.reply fetch w).1 = .ok object)
    (own : Indexed.key (adopt object) = some key) (lasting : Indexed.tombstone (adopt object) = false) :
    record = adopt object ∧ (store s').get? key = some record ∧
      (store s').indexNames = (store s).indexNames := by
  cases transaction with
  | @fetched _ _ object' _ _ stages _ holding =>
    obtain ⟨m, -, made⟩ := List.mem_map.mp stages.fetch_mem
    obtain rfl : object = object' := Except.ok.inj ((read m.remote).symm.trans (Procedure.Moment.replied made))
    cases holding with
    | held applied agree _ kept _ answered =>
      have same : record = adopt object := by
        obtain ok | ⟨_, _, _, _, failed⟩ := answered
        · exact Except.ok.inj ok
        · cases failed
      rw [kept, same]
      exact ⟨rfl, Store.get?_apply applied own lasting, agree.names⟩

end

namespace SubnetPorts

/-- What the remote side has for a port: an object under the port's path, without a parent of its own. -/
structure Standing (subnet id : String) (object : SubnetPort) : Prop where
  own : object.id = some id
  path : object.path = some (Path.subnetPort subnet id)
  orphan : object.parentPath = none
  lasting : object.markedForDelete = false

/-- A port that is held, and found under one subnet path and no other. -/
structure Found (s : State) (id : String) (port : SubnetPort) (subnet : String) : Prop where
  held : s.ports.get? id = some port
  path : port.subnetPath = some subnet
  keys : Indexed.indexKeys SubnetPort.subnetIndex port = [subnet]
  answered : subnetOf s id = some subnet
  listed : ∀ value, (∃ p ∈ ofSubnet s value, p.id = some id) ↔ value = subnet

/-- The questions about the subnet of a port and the ports of a subnet have the same answers for one
port in two states. -/
structure FoundAlike (id : String) (s s' : State) : Prop where
  path : (s'.ports.get? id).map SubnetPort.subnetPath = (s.ports.get? id).map SubnetPort.subnetPath
  keys : (s'.ports.get? id).map (Indexed.indexKeys SubnetPort.subnetIndex) =
    (s.ports.get? id).map (Indexed.indexKeys SubnetPort.subnetIndex)
  answered : subnetOf s' id = subnetOf s id
  listed : ∀ value, (∃ p ∈ ofSubnet s' value, p.id = some id) ↔ ∃ p ∈ ofSubnet s value, p.id = some id

variable {s s' : State} {id subnet subnet' : String} {port port' : SubnetPort}

theorem Found.of_held (consistent : s.ports.Consistent)
    (registered : SubnetPort.subnetIndex ∈ s.ports.indexNames) (held : s.ports.get? id = some port)
    (path : port.subnetPath = some subnet) : Found s id port subnet := by
  have keys : Indexed.indexKeys SubnetPort.subnetIndex port = [subnet] := by
    simp only [Indexed.indexKeys, SubnetPort.indexKeys, path]
    rfl
  refine ⟨held, path, keys, by rw [subnetOf, held, Option.bind_some, path], fun value => ?_⟩
  constructor
  · rintro ⟨p, member, own⟩
    obtain ⟨⟨key, found⟩, listed⟩ := (Store.mem_recordsAt consistent registered).mp member
    have keyed : p.id = some key := consistent.keyed key p found
    obtain rfl : key = id := Option.some.inj (keyed.symm.trans own)
    obtain rfl := Option.some.inj (held.symm.trans found)
    rw [keys] at listed
    exact List.mem_singleton.mp listed
  · rintro rfl
    refine ⟨port, (Store.mem_recordsAt consistent registered).mpr ⟨⟨id, held⟩, ?_⟩,
      consistent.keyed id port held⟩
    rw [keys]
    exact List.mem_singleton_self value

theorem Found.alike_iff (before : Found s id port subnet) (after : Found s' id port' subnet') :
    FoundAlike id s s' ↔ subnet' = subnet := by
  constructor
  · intro alike
    have answered := alike.answered
    rw [after.answered, before.answered] at answered
    exact Option.some.inj answered
  · rintro rfl
    refine ⟨?_, ?_, after.answered.trans before.answered.symm, fun value => ?_⟩
    · rw [after.held, before.held, Option.map_some, Option.map_some, after.path, before.path]
    · rw [after.held, before.held, Option.map_some, Option.map_some, after.keys, before.keys]
    · rw [after.listed, before.listed]

variable {ω : Type} {world : World State ω} {object : SubnetPort}

/-- A port that stands is found, after its creation, under the subnet that this was given. -/
theorem found_of_create (settings : Settings) (quiet : world.Quiet) (standing : Standing subnet id object)
    (given : port.id = some id) (consistent : s.ports.Consistent)
    (registered : SubnetPort.subnetIndex ∈ s.ports.indexNames) {w : ω}
    (read : ∀ w, (world.reply (.getPort subnet id) w).1 = .ok object)
    (created : ((create settings port subnet).run world (s, w)).1 = .ok port') :
    Found ((create settings port subnet).run world (s, w)).2.1 id port' subnet := by
  have transaction := create_transaction settings quiet given subnet s w
  have steady := transaction.consistent consistent
  rw [created] at transaction
  obtain ⟨rfl, held, names⟩ := transaction.holds read standing.own standing.lasting
  refine .of_held steady (names ▸ registered) held ?_
  simp [SubnetPort.subnetPath, confirmed, standing.orphan]

/-- A port that stands, and is listed so, is found under its subnet without slashes at the end. -/
theorem found_of_load (standing : Standing subnet id object) (absolute : ∃ rest, subnet.toList = '/' :: rest)
    (proper : ∃ c ∈ subnet.toList, c ≠ '/') (filled : id ≠ "") (plain : '/' ∉ id.toList)
    {listing : List (Load.Reply SubnetPort)} (listed : object ∈ Load.offered listing)
    (only : ∀ r ∈ Load.offered listing, r.id = some id → r = object) {n : UInt64}
    (loaded : ((Load.Loader.start SubnetPort.emptyStore).load listing).result? = some (.ok n))
    (servers : Store VirtualServer) :
    Found (.ofStores servers ((Load.Loader.start SubnetPort.emptyStore).load listing).store) id object
      (String.ofList (Path.withoutEndSlashes subnet.toList)) := by
  obtain ⟨rest, absolute⟩ := absolute
  obtain ⟨consistent, names, held⟩ :=
    @Store.foldlM_apply _ _ _ _ object _ id (Load.Loader.foldlM_of_loaded loaded) (.empty _)
  refine .of_held consistent (names ▸ ?_) (held standing.own standing.lasting only (.inl listed)) ?_
  · exact List.mem_cons_of_mem _ (List.mem_cons_of_mem _ List.mem_cons_self)
  · have parent := Path.parent_subnetPort absolute proper filled plain
    simp [SubnetPort.subnetPath, standing.orphan, standing.path, parent, Except.toOption]

/-- A port is found under the subnet given before a restart, under that subnet without slashes at its
end after it, and alike exactly if it has none. -/
theorem refound_iff (settings : Settings) (quiet : world.Quiet) (standing : Standing subnet id object)
    (absolute : ∃ rest, subnet.toList = '/' :: rest) (proper : ∃ c ∈ subnet.toList, c ≠ '/')
    (filled : id ≠ "") (plain : '/' ∉ id.toList) (given : port.id = some id)
    (consistent : s.ports.Consistent) (registered : SubnetPort.subnetIndex ∈ s.ports.indexNames) {w : ω}
    (read : ∀ w, (world.reply (.getPort subnet id) w).1 = .ok object)
    (created : ((create settings port subnet).run world (s, w)).1 = .ok port')
    {listing : List (Load.Reply SubnetPort)} (listed : object ∈ Load.offered listing)
    (only : ∀ r ∈ Load.offered listing, r.id = some id → r = object) {n : UInt64}
    (loaded : ((Load.Loader.start SubnetPort.emptyStore).load listing).result? = some (.ok n))
    (servers : Store VirtualServer) :
    let before := ((create settings port subnet).run world (s, w)).2.1
    let after := State.ofStores servers ((Load.Loader.start SubnetPort.emptyStore).load listing).store
    Found before id port' subnet ∧
      Found after id object (String.ofList (Path.withoutEndSlashes subnet.toList)) ∧
      (FoundAlike id before after ↔ subnet.toList.getLast? ≠ some '/') := by
  have before := found_of_create settings quiet standing given consistent registered read created
  have after := found_of_load standing absolute proper filled plain listed only loaded servers
  refine ⟨before, after, (before.alike_iff after).trans ?_⟩
  rw [← Path.withoutEndSlashes_eq_self, ← String.toList_inj, String.toList_ofList]

namespace Sample

/-- A remote side that realizes whatever is submitted, and has one port. -/
def having (object : SubnetPort) : World State Unit where
  reply
    | .patchPort .., w => (.ok (), w)
    | .entities _, w => (.ok ⟨[]⟩, w)
    | .getPort .., w => (.ok object, w)
    | _, w => (.error (.transport "refused"), w)
  chance limit w := (limit, w)
  note _ w := w
  pass _ state := state

def requested : SubnetPort := { id := some "web" }

def standing (subnet : String) : SubnetPort :=
  { requested with path := some (Path.subnetPort subnet "web") }

def vacant : State := .ofStores VirtualServer.emptyStore SubnetPort.emptyStore

def creation (subnet : String) : Except Failure SubnetPort × State × Unit :=
  (create ⟨.subnet⟩ requested subnet).run (having (standing subnet)) (vacant, ())

def listing (subnet : String) : List (Load.Reply SubnetPort) := [.page ⟨[standing subnet], none⟩]

def reload (subnet : String) : Load.Loader SubnetPort :=
  Load.Loader.load (.start SubnetPort.emptyStore) (listing subnet)

def restarted (subnet : String) : State := .ofStores VirtualServer.emptyStore (reload subnet).store

end Sample

open NetIntent.SubnetPorts.Sample in
/-- A port of a subnet whose path has no slash at its end is found alike. -/
theorem found_alike_without_slash : (having (standing "/infra/s")).Quiet ∧
    Standing "/infra/s" "web" (standing "/infra/s") ∧ SubnetPort.emptyStore.Consistent ∧
    (creation "/infra/s").1 = .ok (confirmed "/infra/s" (standing "/infra/s")) ∧
    (reload "/infra/s").result?.isSome ∧
    FoundAlike "web" (creation "/infra/s").2.1 (restarted "/infra/s") := by
  have quiet : (having (standing "/infra/s")).Quiet := fun _ _ _ => rfl
  have stands : Standing "/infra/s" "web" (standing "/infra/s") := ⟨rfl, rfl, rfl, rfl⟩
  have consistent : SubnetPort.emptyStore.Consistent := .empty _
  have created : (creation "/infra/s").1 = .ok (confirmed "/infra/s" (standing "/infra/s")) := rfl
  have loaded : (reload "/infra/s").result? = some (.ok 1) := rfl
  have alone : ∀ r ∈ Load.offered (listing "/infra/s"), r.id = some "web" → r = standing "/infra/s" :=
    fun r member _ => List.mem_singleton.mp member
  have law := refound_iff ⟨.subnet⟩ quiet stands ⟨"infra/s".toList, rfl⟩ ⟨'i', by decide, by decide⟩
    (by decide) (by decide) rfl (s := vacant) (w := ()) consistent (by decide) (fun _ => rfl) created
    (List.mem_singleton_self _) alone loaded VirtualServer.emptyStore
  exact ⟨quiet, stands, consistent, created, Option.isSome_of_eq_some loaded, law.2.2.mpr (by decide)⟩

open NetIntent.SubnetPorts.Sample in
/-- A port of a subnet given with a slash at the end moves to another subnet. -/
theorem moved_by_slash : Standing "/s/" "web" (standing "/s/") ∧
    (creation "/s/").1 = .ok (confirmed "/s/" (standing "/s/")) ∧
    (∀ w, ((having (standing "/s/")).reply (.getPort "/s/" "web") w).1 = .ok (standing "/s/")) ∧
    Load.offered (listing "/s/") = [standing "/s/"] ∧ (reload "/s/").result?.isSome ∧
    subnetOf (creation "/s/").2.1 "web" = some "/s/" ∧ subnetOf (restarted "/s/") "web" = some "/s" ∧
    ¬FoundAlike "web" (creation "/s/").2.1 (restarted "/s/") := by
  have before : subnetOf (creation "/s/").2.1 "web" = some "/s/" := by decide +kernel
  have after : subnetOf (restarted "/s/") "web" = some "/s" := by decide +kernel
  refine ⟨⟨rfl, rfl, rfl, rfl⟩, rfl, fun _ => rfl, rfl, rfl, before, after, fun alike => ?_⟩
  have answered := alike.answered
  rw [before, after] at answered
  exact absurd answered (by decide)

end SubnetPorts

end NetIntent
