import NetIntent.Proofs.Group.Setting
import NetIntent.Proofs.Store.Lookup

/-! The addresses of a group after an update, and those of a store after a deletion. -/
namespace NetIntent

theorem AddressSet.all_mem {p : String → Prop} {addresses : AddressSet}
    (listed : ∀ a ∈ addresses.toList, p a) : ∀ a ∈ addresses, p a :=
  fun a held => listed a (Std.ExtTreeSet.mem_toList.mpr held)

variable {g : Group} {old new : AddressSet} {a : String}

theorem Group.addresses_update : (g.update old new).addresses = (g.addresses \ old) ∪ new := by
  apply Std.ExtTreeSet.ext_mem
  intro a
  simp only [update, updated, addresses, List.findSome?_cons, Std.ExtTreeSet.mem_ofList,
    List.contains_iff_mem, Std.ExtTreeSet.mem_toList]

theorem Group.mem_addresses_update :
    a ∈ (g.update old new).addresses ↔ (a ∈ g.addresses ∧ a ∉ old) ∨ a ∈ new := by
  rw [addresses_update, Std.ExtTreeSet.mem_union_iff, Std.ExtTreeSet.mem_diff_iff]

theorem Group.lists_update : (g.update old new).lists.length ≤ 1 := Nat.le_refl 1

variable {servers : Store VirtualServer} {key : String}

theorem State.mem_addressesOf : a ∈ addressesOf servers ↔
    a ≠ "" ∧ ∃ key server, servers.get? key = some server ∧ server.address = some a := by
  simp only [addressesOf, Std.ExtTreeSet.mem_ofList, List.contains_iff_mem, List.mem_filter,
    List.mem_filterMap, Store.mem_list, decide_eq_true_eq]
  grind

theorem State.addressesOf_erase (held : a ∈ addressesOf (servers.erase key)) :
    a ∈ addressesOf servers := by
  rw [mem_addressesOf] at held ⊢
  obtain ⟨filled, k, server, found, address⟩ := held
  rw [Store.get?_erase] at found
  split at found
  · contradiction
  · exact ⟨filled, k, server, found, address⟩

end NetIntent
