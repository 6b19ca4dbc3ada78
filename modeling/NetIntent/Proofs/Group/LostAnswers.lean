import NetIntent.Proofs.Group.Ledger

/-! The group when writes may take effect although their answers are lost. A sync compares the
addresses held with those it knows to be written, so it succeeds without a call once they agree
again. Whether the group is then in line depends on what became of the writes with lost answers. -/
namespace NetIntent.VirtualServers

variable {settings : Settings} {remote : Remote} {own : String → Prop}

/-- The group shows the addresses held beside those of other writers, and no others. -/
def Scene.InLine (scene : Scene) : Prop :=
  scene.cloud.group.addresses = scene.cloud.foreign ∪ scene.state.addresses

/-- A sync that succeeds leaves the group in line exactly if the writes are settled. -/
theorem synced_in_line_iff_settled {start scene : Scene} (enabled : settings.vipGroup.enabled = true)
    (starts : Starts own start) (reached : Reached settings remote own start scene)
    (synced : (scene.answer settings remote .sync).isOk = true) :
    (scene.after settings remote .sync).InLine ↔ Settled (scene.after settings remote .sync).writes := by
  have attempt := sync_attempt enabled remote scene.state scene.cloud
  have held : ∀ a ∈ (scene.after settings remote .sync).state.addresses, own a := by
    have same : (scene.after settings remote .sync).state.addresses = scene.state.addresses :=
      attempt.addresses
    rw [same]
    exact (reached_tracked enabled starts reached).2
  have tracked := (reached_tracked enabled starts (reached.request .sync held)).1
  have agreed : (scene.after settings remote .sync).state.published =
      (scene.after settings remote .sync).state.addresses := attempt.published_of_ok synced
  rw [Scene.InLine, ← agreed]
  exact tracked.matching_iff_settled

namespace Sample

def empty : Scene := start VirtualServer.emptyStore [] []

/-- The answer to the group write of the creation is lost. -/
def deaf : Remote := .faulty server [4] true

def created : Scene := empty.after standard deaf (.create server)

def withdrawn : Scene := created.after standard deaf (.delete "b")

theorem empty_starts : Starts (· = "10.0.0.2") empty where
  built := ⟨_, _, rfl⟩
  fresh := rfl
  single := Nat.le_refl 1
  group := Std.ExtTreeSet.toList_inj.mp (by decide +kernel)
  held := AddressSet.all_mem (by decide +kernel)
  apart := AddressSet.all_mem (by decide +kernel)

theorem created_reached : Reached standard deaf (· = "10.0.0.2") empty created :=
  .request .start (.create server) (AddressSet.all_mem (by decide +kernel))

end Sample

open Sample in
/-- A sync after the lost answer writes again and settles it. -/
theorem in_line_after_second_write :
    (created.answer standard deaf .sync).isOk = true ∧
      ((created.after standard deaf .sync).InLine ↔
        Settled (created.after standard deaf .sync).writes) ∧
      (created.after standard deaf .sync).InLine :=
  ⟨by decide +kernel,
    synced_in_line_iff_settled rfl empty_starts created_reached (by decide +kernel),
    Std.ExtTreeSet.toList_inj.mp (by decide +kernel)⟩

open Sample in
/-- A deletion after the lost answer brings the addresses back to those known: the sync succeeds,
and the address stays in the group. -/
theorem withdrawn_address_stays :
    Starts (· = "10.0.0.2") empty ∧
      Reached standard deaf (· = "10.0.0.2") empty withdrawn ∧
      (withdrawn.answer standard deaf .sync).isOk = true ∧
      (withdrawn.after standard deaf .sync).state.addresses.toList = [] ∧
      (withdrawn.after standard deaf .sync).cloud.group.addresses.toList = ["10.0.0.2"] ∧
      ¬(withdrawn.after standard deaf .sync).InLine := by
  refine ⟨empty_starts, .request created_reached (.delete "b") (AddressSet.all_mem (by decide +kernel)),
    by decide +kernel, by decide +kernel, by decide +kernel, fun inLine => ?_⟩
  exact absurd (Std.ExtTreeSet.toList_inj.mpr inLine) (by decide +kernel)

end NetIntent.VirtualServers
