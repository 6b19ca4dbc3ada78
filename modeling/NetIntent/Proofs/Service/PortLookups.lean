import NetIntent.Proofs.Collector.Round
import NetIntent.Proofs.Service.Lookups

/-! Lookups of subnet ports. After any changes, a port is found by the Pod that its first tags name, as
long as no namespace contains a slash, and by the subnet that it names or else its path lies in. The subnet
told for an id is the one its port is listed in, and the ports of Pods are those with a Pod uid as a key. -/
namespace NetIntent

/-- The first of some tags under a scope has a value. -/
def Tag.First (scope value : String) (tags : List Tag) : Prop :=
  ∃ before after, tags = before ++ ⟨scope, value⟩ :: after ∧ ∀ tag ∈ before, tag.scope ≠ scope

theorem Tag.value?_eq_some_iff {tags : List Tag} {scope value : String} :
    Tag.value? tags scope = some value ↔ Tag.First scope value tags := by
  rw [Tag.value?, Option.map_eq_some_iff]
  constructor
  · rintro ⟨tag, found, rfl⟩
    obtain ⟨own, before, after, rfl, others⟩ := List.find?_eq_some_iff_append.mp found
    obtain rfl := beq_iff_eq.mp own
    exact ⟨before, after, rfl, fun tag member => by simpa using others tag member⟩
  · rintro ⟨before, after, rfl, others⟩
    refine ⟨⟨scope, value⟩, List.find?_eq_some_iff_append.mpr ⟨beq_iff_eq.mpr rfl, before, after, rfl, ?_⟩, rfl⟩
    exact fun tag member => by simpa using others tag member

/-- Texts on both sides of a separator can be told apart if it does not occur in the first one. -/
theorem separator_append_inj {c : Char} {u u' p p' : List Char} (plain : c ∉ u) (plain' : c ∉ u') :
    u ++ c :: p = u' ++ c :: p' ↔ u = u' ∧ p = p' := by
  have mirrored := @append_separator_inj c p.reverse p'.reverse u.reverse u'.reverse
    (mt List.mem_reverse.mp plain) (mt List.mem_reverse.mp plain')
  rw [List.reverse_inj, List.reverse_inj, and_comm] at mirrored
  rw [← mirrored, ← List.reverse_inj]
  simp

theorem Pod.key_inj {ns ns' name name' : String} (plain : '/' ∉ ns.toList) (plain' : '/' ∉ ns'.toList) :
    Pod.key ns name = Pod.key ns' name' ↔ ns = ns' ∧ name = name' := by
  have spelled : ∀ ns name : String, (Pod.key ns name).toList = ns.toList ++ '/' :: name.toList := by
    intro ns name
    simp [Pod.key]
  rw [← String.toList_inj, spelled, spelled, separator_append_inj plain plain', String.toList_inj,
    String.toList_inj]

namespace SubnetPort

variable {port : SubnetPort} {key : String}

theorem mem_podUidKeys : key ∈ indexKeys podUidIndex port ↔ ⟨Tag.Scope.podUid, key⟩ ∈ port.tags :=
  Tag.mem_values

theorem mem_podNameKeys : key ∈ indexKeys podNameIndex port ↔ ∃ ns name,
    Tag.First Tag.Scope.namespaceName ns port.tags ∧ Tag.First Tag.Scope.podName name port.tags ∧
      Pod.key ns name = key := by
  have keys : indexKeys podNameIndex port = port.podKey.toList := rfl
  simp [keys, podKey, Option.bind_eq_some_iff, Tag.value?_eq_some_iff]

/-- The subnet that a port names, or else the parent of its path. -/
inductive In (port : SubnetPort) (subnet : String) : Prop where
  | named (own : port.parentPath = some subnet)
  | derived {path : String} (unnamed : port.parentPath = none) (own : port.path = some path)
      (parent : Path.parent path = .ok subnet)

theorem subnetPath_eq_some_iff {subnet : String} : port.subnetPath = some subnet ↔ port.In subnet := by
  unfold subnetPath
  constructor
  · intro found
    cases named : port.parentPath with
    | some own =>
      rw [named] at found
      exact .named (named.trans found)
    | none =>
      rw [named] at found
      obtain ⟨path, own, parent⟩ := Option.bind_eq_some_iff.mp found
      cases taken : Path.parent path with
      | error =>
        rw [taken] at parent
        cases parent
      | ok subnet' =>
        rw [taken] at parent
        cases parent
        exact .derived named own taken
  · rintro (own | ⟨unnamed, own, parent⟩)
    · rw [own]
      rfl
    · rw [unnamed, own]
      show (Path.parent _).toOption = some subnet
      rw [parent]
      rfl

theorem mem_subnetKeys : key ∈ indexKeys subnetIndex port ↔ port.In key := by
  have keys : indexKeys subnetIndex port = port.subnetPath.toList := rfl
  rw [keys, Option.mem_toList, subnetPath_eq_some_iff]

end SubnetPort

namespace SubnetPorts

variable {s : State}

def Held (s : State) (port : SubnetPort) : Prop := ∃ id, s.ports.get? id = some port

/-- What each lookup finds in a state. -/
structure Answers (s : State) : Prop where
  /-- As long as no namespace contains a slash. -/
  pod (ns name : String) (plain : '/' ∉ ns.toList)
    (plainPorts : ∀ port, Held s port → ∀ ns, Tag.First Tag.Scope.namespaceName ns port.tags → '/' ∉ ns.toList) :
    Exactly (ofPod s ns name) fun port => Held s port ∧
      Tag.First Tag.Scope.namespaceName ns port.tags ∧ Tag.First Tag.Scope.podName name port.tags
  subnet (subnet : String) : Exactly (ofSubnet s subnet) fun port => Held s port ∧ port.In subnet
  subnetOf (id subnet : String) : subnetOf s id = some subnet ↔
    ∃ port, s.ports.get? id = some port ∧ port ∈ ofSubnet s subnet
  podPortIds : Exactly (podPortIds s).toList fun id =>
    ∃ port, s.ports.get? id = some port ∧ ∃ uid, port ∈ s.ports.recordsAt SubnetPort.podUidIndex uid

theorem mem_recordsAt (sound : s.ports.Sound SubnetPort.indexNames) {id name value : String}
    {port : SubnetPort} (registered : name ∈ SubnetPort.indexNames) (held : s.ports.get? id = some port) :
    port ∈ s.ports.recordsAt name value ↔ value ∈ SubnetPort.indexKeys name port := by
  rw [Store.mem_recordsAt sound.consistent (sound.indexes.symm ▸ registered)]
  exact and_iff_right ⟨id, held⟩

theorem answers (sound : s.ports.Sound SubnetPort.indexNames) : Answers s where
  pod ns name plain plainPorts := by
    refine sound.recordsAt_exactly (by decide) fun port held => SubnetPort.mem_podNameKeys.trans ?_
    constructor
    · rintro ⟨ns', name', first, named, same⟩
      obtain ⟨rfl, rfl⟩ := (Pod.key_inj (plainPorts port held ns' first) plain).mp same
      exact ⟨first, named⟩
    · rintro ⟨first, named⟩
      exact ⟨ns, name, first, named, rfl⟩
  subnet subnet := sound.recordsAt_exactly (by decide) fun _ _ => SubnetPort.mem_subnetKeys
  subnetOf id subnet := by
    rw [SubnetPorts.subnetOf, Option.bind_eq_some_iff]
    refine exists_congr fun port => and_congr_right fun held => ?_
    rw [ofSubnet, mem_recordsAt sound (by decide) held, SubnetPort.mem_subnetKeys,
      SubnetPort.subnetPath_eq_some_iff]
  podPortIds := by
    refine ⟨Std.ExtTreeSet.distinct_toList.imp fun different same => different (by simp [same]), fun id => ?_⟩
    rw [Std.ExtTreeSet.mem_toList, StalePorts.owned_iff sound.consistent]
    refine exists_congr fun port => and_congr_right fun held => ?_
    simp only [mem_recordsAt sound (show SubnetPort.podUidIndex ∈ SubnetPort.indexNames by decide) held,
      SubnetPort.mem_podUidKeys]
    constructor
    · rintro ⟨⟨_, uid⟩, member, rfl⟩
      exact ⟨uid, member⟩
    · rintro ⟨uid, member⟩
      exact ⟨_, member, rfl⟩

/-- Every lookup of a store of ports that changes have built means what it says. -/
theorem port_lookups_answer_exactly (changes : List (Store.Change SubnetPort)) (s : State) :
    Answers { s with ports := SubnetPort.emptyStore.served changes } :=
  answers (Store.served_sound _ _)

/-- A port of Pod `b` in a namespace with a slash is found for another namespace. -/
example :
    let port : SubnetPort :=
      { id := some "p", tags := [⟨Tag.Scope.namespaceName, "ns/a"⟩, ⟨Tag.Scope.podName, "b"⟩] }
    let s : State := .ofStores VirtualServer.emptyStore (SubnetPort.emptyStore.served [.apply port])
    (ofPod s "ns" "a/b").map (·.id) = [some "p"] := by
  decide +kernel

end SubnetPorts

end NetIntent
