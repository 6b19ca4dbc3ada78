import NetIntent.Proofs.Policy.Paths
import NetIntent.Proofs.Store.Losses
import NetIntent.Service.VirtualServers

/-! Lookups of virtual servers. Each finds the held servers that it is named for, once, after any changes:
by service, by type, by load balancer, and by service and port as long as no port contains the separator.
A server with the tags of a layer-4 server is found under each of them. -/
namespace NetIntent

theorem Tag.mem_values {tags : List Tag} {scope value : String} :
    value ∈ Tag.values tags scope ↔ ⟨scope, value⟩ ∈ tags := by
  simp only [Tag.values, List.mem_map, List.mem_filter, beq_iff_eq]
  constructor
  · rintro ⟨⟨_, _⟩, ⟨member, rfl⟩, rfl⟩
    exact member
  · exact fun member => ⟨_, ⟨member, rfl⟩, rfl⟩

theorem separator_first {c : Char} {between p p' : List Char} (plain : c ∉ p)
    (same : c :: p = between ++ c :: p') : between = [] ∧ p = p' := by
  cases between with
  | nil => exact ⟨rfl, (List.cons.inj same).2⟩
  | cons d between =>
    have occurs : c ∈ p := (List.cons.inj same).2 ▸ List.mem_append_right between List.mem_cons_self
    exact absurd occurs plain

/-- Texts on both sides of a separator can be told apart if it does not occur in the last one. -/
theorem append_separator_inj {c : Char} {u u' p p' : List Char} (plain : c ∉ p) (plain' : c ∉ p') :
    u ++ c :: p = u' ++ c :: p' ↔ u = u' ∧ p = p' := by
  constructor
  · intro same
    obtain ⟨between, rfl, rest⟩ | ⟨between, rfl, rest⟩ := List.append_eq_append_iff.mp same
    · obtain ⟨rfl, rfl⟩ := separator_first plain rest
      exact ⟨(List.append_nil u).symm, rfl⟩
    · obtain ⟨rfl, rfl⟩ := separator_first plain' rest
      exact ⟨List.append_nil u', rfl⟩
  · rintro ⟨rfl, rfl⟩
    rfl

namespace VirtualServer

theorem servicePortKey_inj {uid uid' port port' : String} (plain : '|' ∉ port.toList)
    (plain' : '|' ∉ port'.toList) :
    servicePortKey uid port = servicePortKey uid' port' ↔ uid = uid' ∧ port = port' := by
  have spelled : ∀ uid port : String,
      (servicePortKey uid port).toList = uid.toList ++ '|' :: port.toList := by
    intro uid port
    simp [servicePortKey]
  rw [← String.toList_inj, spelled, spelled, append_separator_inj plain plain', String.toList_inj,
    String.toList_inj]

theorem mem_serviceKeys {server : VirtualServer} {uid : String} :
    uid ∈ indexKeys serviceIndex server ↔ ⟨Tag.Scope.serviceUid, uid⟩ ∈ server.tags := Tag.mem_values

theorem mem_typeKeys {server : VirtualServer} {type : String} :
    type ∈ indexKeys typeIndex server ↔ ⟨Tag.Scope.serverType, type⟩ ∈ server.tags := Tag.mem_values

theorem mem_servicePortKeys {server : VirtualServer} {key : String} :
    key ∈ indexKeys servicePortIndex server ↔ ∃ port ∈ server.ports, ∃ uid : String,
      ⟨Tag.Scope.serviceUid, uid⟩ ∈ server.tags ∧ servicePortKey uid port = key := by
  have keys : indexKeys servicePortIndex server = server.ports.flatMap fun port =>
      (Tag.values server.tags Tag.Scope.serviceUid).map fun uid => servicePortKey uid port := rfl
  simp only [keys, List.mem_flatMap, List.mem_map, Tag.mem_values]

theorem mem_balancerKeys {server : VirtualServer} {id : String} :
    id ∈ indexKeys balancerIndex server ↔ ∃ path, server.balancerPath = some path ∧
      Path.lastFilled path.toList = some id.toList := by
  have keys : indexKeys balancerIndex server = server.balancerId.toList := rfl
  simp only [keys, Option.mem_toList, balancerId, Option.bind_eq_some_iff, Path.lastSegment_eq_some_iff]

end VirtualServer

/-- All items of a kind, each once. -/
structure Exactly {α : Type} (items : List α) (kind : α → Prop) : Prop where
  once : items.Nodup
  all : ∀ item, item ∈ items ↔ kind item

/-- An index finds the held records of a kind if these are the ones with the value among their keys. -/
theorem Store.Sound.recordsAt_exactly {R : Type} [Indexed R] {s : Store R} {names : List String}
    (sound : s.Sound names) {name value : String} {kind : R → Prop} (registered : name ∈ names)
    (keys : ∀ r, (∃ key, s.get? key = some r) → (value ∈ Indexed.indexKeys name r ↔ kind r)) :
    Exactly (s.recordsAt name value) fun r => (∃ key, s.get? key = some r) ∧ kind r where
  once := nodup_of_found sound.consistent keysAt_nodup (recordsAt_map_some sound.consistent)
  all r := by
    rw [mem_recordsAt sound.consistent (sound.indexes.symm ▸ registered)]
    exact and_congr_right (keys r)

namespace VirtualServers

variable {s : State} {server : VirtualServer} {uid port : String}

def Held (s : State) (server : VirtualServer) : Prop := ∃ id, s.servers.get? id = some server

def Tagged (scope value : String) (server : VirtualServer) : Prop := ⟨scope, value⟩ ∈ server.tags

/-- What each lookup finds in a state. -/
structure Answers (s : State) : Prop where
  service (uid : String) : Exactly (ofService s uid) fun server =>
    Held s server ∧ Tagged Tag.Scope.serviceUid uid server
  serviceKeys (uid : String) : Exactly (keysOfService s uid) fun id =>
    ∃ server, s.servers.get? id = some server ∧ Tagged Tag.Scope.serviceUid uid server
  type (type : String) : Exactly (ofType s type) fun server =>
    Held s server ∧ Tagged Tag.Scope.serverType type server
  balancer (id : String) : Exactly (ofBalancer s id) fun server =>
    Held s server ∧ ∃ path, server.balancerPath = some path ∧
      Path.lastFilled path.toList = some id.toList
  /-- As long as no port contains the separator. -/
  serviceAndPort (uid port : String) (plain : '|' ∉ port.toList)
    (plainPorts : ∀ server, Held s server → ∀ port ∈ server.ports, '|' ∉ port.toList) :
    Exactly (ofServiceAndPort s uid port) fun server =>
      Held s server ∧ Tagged Tag.Scope.serviceUid uid server ∧ port ∈ server.ports
  /-- Every server with the tags of a layer-4 server, whatever its ports. -/
  layer4 (settings : Settings) (service : ServiceRef) (pool : Option String) (server : VirtualServer)
    (held : Held s server) (tags : server.tags = layer4Tags settings service pool) :
    server ∈ layer4 s ∧ server ∈ ofService s service.uid ∧
      (∀ port ∈ server.ports, server ∈ ofServiceAndPort s service.uid port) ∧
      server.serviceUid = some service.uid

theorem layer4Tags_tagged {settings : Settings} {service : ServiceRef} {pool : Option String}
    (tags : server.tags = layer4Tags settings service pool) :
    Tagged Tag.Scope.serverType VirtualServer.layer4 server ∧
      Tagged Tag.Scope.serviceUid service.uid server ∧ server.serviceUid = some service.uid := by
  refine ⟨?_, ?_, ?_⟩
  · simp [Tagged, tags, layer4Tags, ServiceRef.layer4Tags]
  · simp [Tagged, tags, layer4Tags, ServiceRef.layer4Tags]
  · rw [VirtualServer.serviceUid, tags]
    rfl

theorem answers (sound : s.servers.Sound VirtualServer.indexNames) : Answers s where
  service uid := sound.recordsAt_exactly (by decide) fun _ _ => VirtualServer.mem_serviceKeys
  serviceKeys uid := ⟨Store.keysAt_nodup, fun id => by
    rw [keysOfService, Store.mem_keysAt sound.consistent (sound.indexes.symm ▸ by decide)]
    simp only [Indexed.indexKeys, VirtualServer.mem_serviceKeys, Tagged]⟩
  type type := sound.recordsAt_exactly (by decide) fun _ _ => VirtualServer.mem_typeKeys
  balancer id := sound.recordsAt_exactly (by decide) fun _ _ => VirtualServer.mem_balancerKeys
  serviceAndPort uid port plain plainPorts := by
    refine sound.recordsAt_exactly (by decide) fun server held =>
      VirtualServer.mem_servicePortKeys.trans ?_
    constructor
    · rintro ⟨port', listed, uid', tagged, same⟩
      obtain ⟨rfl, rfl⟩ :=
        (VirtualServer.servicePortKey_inj (plainPorts server held port' listed) plain).mp same
      exact ⟨tagged, listed⟩
    · rintro ⟨tagged, listed⟩
      exact ⟨port, listed, uid, tagged, rfl⟩
  layer4 settings service pool server held tags := by
    obtain ⟨type, tagged, first⟩ := layer4Tags_tagged tags
    have finds : ∀ {name value : String}, name ∈ VirtualServer.indexNames →
        value ∈ VirtualServer.indexKeys name server → server ∈ s.servers.recordsAt name value :=
      fun registered listed => (Store.mem_recordsAt sound.consistent
        (sound.indexes.symm ▸ registered)).mpr ⟨held, listed⟩
    refine ⟨finds (by decide) (VirtualServer.mem_typeKeys.mpr type),
      finds (by decide) (VirtualServer.mem_serviceKeys.mpr tagged), fun port listed => ?_, first⟩
    exact finds (by decide) (VirtualServer.mem_servicePortKeys.mpr ⟨port, listed, _, tagged, rfl⟩)

/-- Every lookup of a store of servers that changes have built means what it says. -/
theorem lookups_answer_exactly (changes : List (Store.Change VirtualServer)) (s : State) :
    Answers { s with servers := VirtualServer.emptyStore.served changes } :=
  answers (Store.served_sound _ _)

/-- A port with the separator in it is found for a service that the server has no tag of. -/
example :
    let server : VirtualServer :=
      { id := some "a", ports := ["1|80"], tags := [⟨Tag.Scope.serviceUid, "u"⟩] }
    let s : State := .ofStores (VirtualServer.emptyStore.served [.apply server]) SubnetPort.emptyStore
    (ofServiceAndPort s "u|1" "80").map (·.id) = [some "a"] ∧ ofService s "u|1" = [] := by
  decide +kernel

end VirtualServers

end NetIntent
