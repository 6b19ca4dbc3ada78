import NetIntent.Proofs.Group.Addresses

/-! What an update leaves of a group that has other expressions beside one list of addresses. It reads
the first list and writes a single one, so the addresses of all lists change as one set exactly if the
later lists add nothing to the first and to the update, and expressions of another kind do not stay. -/
namespace NetIntent.Group

/-- The addresses of all lists together. -/
def allAddresses (g : Group) : AddressSet := .ofList g.lists.flatten

/-- The expressions that are not lists of addresses. -/
def others (g : Group) : List Expression := g.expressions.filter (· = .other)

variable {g : Group} {old new : AddressSet} {a : String}

theorem mem_allAddresses : a ∈ g.allAddresses ↔ ∃ items ∈ g.lists, a ∈ items := by
  simp [allAddresses, Std.ExtTreeSet.mem_ofList]

/-- The addresses read are those of the first list. -/
theorem mem_addresses : a ∈ g.addresses ↔ ∃ items, g.lists.head? = some items ∧ a ∈ items := by
  unfold addresses
  split
  · rename_i items found
    have first : g.lists.head? = some items := List.head?_filterMap.trans found
    simp [first, Std.ExtTreeSet.mem_ofList]
  · rename_i missing
    have first : g.lists.head? = none := List.head?_filterMap.trans missing
    simp [first]

theorem mem_allAddresses_of_mem (read : a ∈ g.addresses) : a ∈ g.allAddresses := by
  obtain ⟨items, first, member⟩ := mem_addresses.mp read
  exact mem_allAddresses.mpr ⟨items, List.mem_of_mem_head? first, member⟩

theorem mem_allAddresses_update :
    a ∈ (g.update old new).allAddresses ↔ (a ∈ g.addresses ∧ a ∉ old) ∨ a ∈ new := by
  have only : (g.update old new).allAddresses = (g.update old new).addresses := by
    simp [allAddresses, addresses, lists, update]
  rw [only, mem_addresses_update]

theorem others_update : (g.update old new).others = [] := rfl

theorem update_accounts_iff (g : Group) (old new : AddressSet) :
    (g.update old new).allAddresses = (g.allAddresses \ old) ∪ new ↔
      ∀ a ∈ g.allAddresses, a ∈ g.addresses ∨ a ∈ old ∨ a ∈ new := by
  constructor
  · intro kept a held
    by_cases written : a ∈ old ∨ a ∈ new
    · exact .inr written
    · rw [not_or] at written
      have stays : a ∈ (g.update old new).allAddresses := by
        rw [kept, Std.ExtTreeSet.mem_union_iff, Std.ExtTreeSet.mem_diff_iff]
        exact .inl ⟨held, written.1⟩
      exact .inl ((mem_allAddresses_update.mp stays).resolve_right written.2).1
  · intro accounted
    apply Std.ExtTreeSet.ext_mem
    intro a
    rw [mem_allAddresses_update, Std.ExtTreeSet.mem_union_iff, Std.ExtTreeSet.mem_diff_iff]
    constructor
    · rintro (⟨read, free⟩ | added)
      · exact .inl ⟨mem_allAddresses_of_mem read, free⟩
      · exact .inr added
    · rintro (⟨held, free⟩ | added)
      · obtain read | gone | added := accounted a held
        · exact .inl ⟨read, free⟩
        · exact absurd gone free
        · exact .inr added
      · exact .inr added

/-- The addresses of all lists change as one set exactly if none stands in a later list only, and the
other expressions stay exactly if there is none. Whatever else a group has stays. -/
theorem update_keeps_iff (g : Group) (old new : AddressSet) :
    ((g.update old new).allAddresses = (g.allAddresses \ old) ∪ new ↔
        ∀ a ∈ g.allAddresses, a ∈ g.addresses ∨ a ∈ old ∨ a ∈ new) ∧
      ((g.update old new).others = g.others ↔ g.others = []) ∧
      (g.update old new).id = g.id ∧ (g.update old new).displayName = g.displayName ∧
      (g.update old new).tags = g.tags := by
  refine ⟨update_accounts_iff g old new, ?_, rfl, rfl, rfl⟩
  rw [others_update]
  exact eq_comm

/-- A group with two lists and a condition between them. -/
def Sample.shared : Group where
  id := some "shared"
  expressions := [.addresses ["10.0.0.8"], .other, .addresses ["10.0.0.9"]]

open Sample in
/-- The later list and the condition are lost when an address is added. -/
theorem later_list_lost :
    shared.allAddresses.toList = ["10.0.0.8", "10.0.0.9"] ∧
      (shared.update ∅ (.ofList ["10.0.0.1"])).allAddresses.toList = ["10.0.0.1", "10.0.0.8"] ∧
      (shared.update ∅ (.ofList ["10.0.0.1"])).allAddresses ≠
        (shared.allAddresses \ ∅) ∪ .ofList ["10.0.0.1"] ∧
      shared.others = [.other] ∧ (shared.update ∅ (.ofList ["10.0.0.1"])).others = [] := by
  refine ⟨by decide +kernel, by decide +kernel, fun kept => ?_, rfl, rfl⟩
  exact absurd (Std.ExtTreeSet.toList_inj.mpr kept) (by decide +kernel)

end NetIntent.Group
