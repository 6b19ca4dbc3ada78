import NetIntent.Proofs.Load.Listing
import NetIntent.Store.Indexes

/-! The requests of one load and what they load. Each further page is asked for with the cursor of the
page before, up to the first page without one or the first failure, and the records of the pages taken
are applied in their order. How these are cut into pages makes no difference. -/
namespace NetIntent.Load

variable {R : Type}

/-- A page that names where the next one begins. -/
def Page.Continues (page : Page R) : Prop := ∃ cursor, page.cursor = some cursor ∧ cursor ≠ ""

def Reply.records : Reply R → List R
  | .page taken => taken.records
  | .refused _ | .died _ => []

/-- The failure of a request that brought no page. -/
def Reply.failure? : Reply R → Option Failure
  | .page _ => none
  | .refused e => some (.client e)
  | .died reason => some (Loader.taskDied reason)

/-- A load from its first request on: the cursors it asks with, its result and the store it leaves.
The answers it takes are pages that continue and the one that ends it. -/
inductive Loads [Indexed R] (first : Option String) (s : Store R) (script : List (Reply R)) :
    List (Option String) → Except Failure UInt64 → Store R → Prop where
  | ended {pages : List (Page R)} {last : Page R} {untaken : List (Reply R)} {after : Store R}
      (more : ∀ page ∈ pages, page.Continues) (final : ¬last.Continues)
      (taken : script = pages.map .page ++ .page last :: untaken)
      (applied : (pages.flatMap (·.records) ++ last.records).foldlM Store.apply s = .ok after) :
      Loads first s script (first :: pages.map (·.cursor))
        (.ok (.ofNat (pages.flatMap (·.records) ++ last.records).length)) after
  | unkeyed {pages : List (Page R)} {page : Page R} {untaken : List (Reply R)} {before later : List R}
      {record : R} {after : Store R} (more : ∀ page ∈ pages, page.Continues)
      (cut : page.records = before ++ record :: later) (bare : Indexed.key record = none)
      (taken : script = pages.map .page ++ .page page :: untaken)
      (applied : (pages.flatMap (·.records) ++ before).foldlM Store.apply s = .ok after) :
      Loads first s script (first :: pages.map (·.cursor))
        (.error (.store (.missingKey (Indexed.kind R)))) after
  | failed {pages : List (Page R)} {reply : Reply R} {untaken : List (Reply R)} {f : Failure}
      {after : Store R} (more : ∀ page ∈ pages, page.Continues) (fails : reply.failure? = some f)
      (taken : script = pages.map .page ++ reply :: untaken)
      (applied : (pages.flatMap (·.records)).foldlM Store.apply s = .ok after) :
      Loads first s script (first :: pages.map (·.cursor)) (.error f) after

/-- A page with records in front of those of a load, and its own cursor as the first one asked with. -/
theorem Loads.next [Indexed R] {first : Option String} {s s' after : Store R} {page : Page R}
    {script : List (Reply R)} {asked : List (Option String)} {result : Except Failure UInt64}
    (continues : page.Continues) (applied : page.records.foldlM Store.apply s = .ok s')
    (rest : Loads page.cursor s' script asked result after) :
    Loads first s (.page page :: script) (first :: asked)
      (result.map (.ofNat page.records.length + ·)) after := by
  have joined : ∀ (pages : List (Page R)) (records : List R),
      ((page :: pages).flatMap (·.records) ++ records).foldlM Store.apply s =
        (pages.flatMap (·.records) ++ records).foldlM Store.apply s' := by
    intro pages records
    rw [List.flatMap_cons, List.append_assoc, List.foldlM_append, applied]
    rfl
  cases rest with
  | @ended pages last _ _ more final taken fold =>
    have total : .ofNat page.records.length + .ofNat (pages.flatMap (·.records) ++ last.records).length =
        UInt64.ofNat ((page :: pages).flatMap (·.records) ++ last.records).length := by
      simp only [← UInt64.ofNat_add, List.flatMap_cons, List.length_append, Nat.add_assoc]
    rw [Except.map, total]
    exact .ended (List.forall_mem_cons.mpr ⟨continues, more⟩) final
      (congrArg (.page page :: ·) taken) ((joined _ _).trans fold)
  | unkeyed more cut bare taken fold =>
    exact .unkeyed (List.forall_mem_cons.mpr ⟨continues, more⟩) cut bare
      (congrArg (.page page :: ·) taken) ((joined _ _).trans fold)
  | @failed pages _ _ _ _ more fails taken fold =>
    have joined := joined pages []
    rw [List.append_nil, List.append_nil] at joined
    exact .failed (List.forall_mem_cons.mpr ⟨continues, more⟩) fails
      (congrArg (.page page :: ·) taken) (joined.trans fold)

theorem Page.continues_iff {page : Page R} :
    page.Continues ↔ ∃ cursor, page.cursor.filter (· ≠ "") = some cursor := by
  simp [Continues, Option.filter_eq_some_iff]

namespace Loader

variable [Indexed R]

theorem load_loads {l : Loader R} {cursor : Option String} {earlier : List (Option String)}
    (asking : l.phase = .asking cursor) (waits : l.asked = earlier ++ [cursor])
    {script : List (Reply R)} (ends : (ending script).isSome) :
    ∃ asked result, Loads cursor l.store script asked result (l.load script).store ∧
      (l.load script).asked = earlier ++ asked ∧
      (l.load script).result? = some (result.map (l.count + ·)) := by
  have none : ∀ page ∈ ([] : List (Page R)), page.Continues := by simp
  induction script generalizing l cursor earlier with
  | nil => cases ends
  | cons reply rest ih =>
    have first : l.load (reply :: rest) = (l.receive reply).load rest := rfl
    rw [first]
    have failing : ∀ f, reply.failure? = some f → l.receive reply = l.finish (.error f) := by
      intro f fails
      cases reply <;> cases fails <;> simp only [receive, asking]
    cases reply with
    | refused | died =>
      rw [failing _ rfl, load_finished rfl]
      exact ⟨[cursor], _, .failed none rfl rfl rfl, waits, rfl⟩
    | page page =>
      simp only [receive, asking, takePage]
      obtain ⟨after, fold, all⟩ | ⟨before, record, later, after, cut, fold, bare, refused⟩ :=
        applyAll_cases l.store page.records
      · simp only [all]
        cases next : page.cursor.filter (· ≠ "") with
        | none =>
          have final : ¬page.Continues := by
            rw [Page.continues_iff, next]
            rintro ⟨_, ⟨⟩⟩
          simp only
          rw [load_finished rfl]
          exact ⟨[cursor], _, .ended none final rfl fold, waits, rfl⟩
        | some next' =>
          have continues : page.Continues := Page.continues_iff.mpr ⟨next', next⟩
          have given : page.cursor = some next' := (Option.filter_eq_some_iff.mp next).1
          rw [ending, next] at ends
          let l' : Loader R := { l with store := after, count := l.count + .ofNat page.records.length
                                        asked := l.asked ++ [some next'], phase := .asking (some next') }
          obtain ⟨asked, result, loads, made, ended⟩ :=
            @ih l' (some next') (earlier ++ [cursor]) rfl (congrArg (· ++ [some next']) waits) ends
          refine ⟨cursor :: asked, _, (given ▸ loads).next continues fold, ?_, ?_⟩
          · rw [made, List.append_assoc]
            rfl
          · rw [ended]
            cases result with
            | error f => rfl
            | ok n => simp only [Except.map, l', UInt64.add_assoc]
      · simp only [refused]
        rw [load_finished rfl]
        exact ⟨[cursor], _, .unkeyed none cut bare rfl fold, waits, rfl⟩

/-- The load of a listing that answers in turn, and then with a last page without records. -/
def ofListing (s : Store R) (replies : List (Reply R)) : Loader R :=
  (Loader.start s).load (replies ++ [.last])

theorem ofListing_loads (s : Store R) (replies : List (Reply R)) :
    ∃ result, (ofListing s replies).result? = some result ∧
      Loads none s (replies ++ [.last]) (ofListing s replies).asked result
        (ofListing s replies).store := by
  have ends : (ending (replies ++ [.last])).isSome := by
    rw [(offered_last replies).2]
    rfl
  obtain ⟨asked, result, loads, made, ended⟩ :=
    @load_loads R _ (.start s) none [] rfl rfl _ ends
  refine ⟨result, ?_, ?_⟩
  · rw [ofListing, ended]
    cases result with
    | error f => rfl
    | ok n => simp only [Except.map, start, UInt64.zero_add]
  · rw [ofListing, made]
    exact loads

end Loader

/-- As many answers as requests: the pages that continue and the answer after them. -/
theorem take_taken (first : Option String) (pages : List (Page R)) (reply : Reply R)
    (untaken : List (Reply R)) :
    (pages.map Reply.page ++ reply :: untaken).take (first :: pages.map (·.cursor)).length =
      pages.map Reply.page ++ [reply] := by
  rw [List.append_cons, List.take_left' (by simp)]

theorem records_taken (pages : List (Page R)) (last : Page R) :
    (pages.map Reply.page ++ [Reply.page last]).flatMap Reply.records =
      pages.flatMap (·.records) ++ last.records := by
  rw [List.flatMap_append, List.flatMap_map, List.flatMap_singleton]
  rfl

/-- Without a failure of the listing, the records of the pages taken decide what a load comes to. -/
theorem Loads.decided [Indexed R] {first : Option String} {s after : Store R}
    {script : List (Reply R)} {asked : List (Option String)} {result : Except Failure UInt64}
    (loads : Loads first s script asked result after)
    (pages : ∀ reply ∈ script.take asked.length, reply.failure? = none) :
    let applied := Loader.applyAll s ((script.take asked.length).flatMap Reply.records)
    after = applied.1 ∧ some result = Loader.verdict (.ofNat applied.2.1) applied.2.2 (some (.ok ())) := by
  cases loads with
  | ended more final taken applied =>
    rw [taken, take_taken, records_taken, Loader.applyAll_of_fold applied]
    exact ⟨rfl, rfl⟩
  | unkeyed more cut bare taken applied =>
    rw [taken, take_taken, records_taken, cut, ← List.append_assoc,
      Loader.applyAll_of_unkeyed applied bare]
    exact ⟨rfl, rfl⟩
  | @failed _ reply _ f _ more fails taken applied =>
    rw [taken, take_taken] at pages
    have none := pages reply (by simp)
    cases fails.symm.trans none

theorem ending_of_pages {replies : List (Reply R)}
    (pages : ∀ reply ∈ replies, reply.failure? = none) :
    ending (replies ++ [.last]) = some (.ok ()) := by
  induction replies with
  | nil => rfl
  | cons reply rest ih =>
    obtain ⟨first, later⟩ := List.forall_mem_cons.mp pages
    cases reply with
    | refused | died => cases first
    | page page =>
      rw [List.cons_append, ending]
      split
      · exact ih later
      · rfl

section

variable [Indexed R] (s : Store R) (replies replies' : List (Reply R))

/-- The answers that a load of a listing takes. -/
def taken : List (Reply R) := (replies ++ [Reply.last]).take (Loader.ofListing s replies).asked.length

/-- Two listings without failures that give the same records: in the pages taken, or in all pages up to
the last one. -/
inductive Recut : Prop where
  | taken (pages : ∀ reply ∈ taken s replies, reply.failure? = none)
      (pages' : ∀ reply ∈ taken s replies', reply.failure? = none)
      (same : (taken s replies').flatMap Reply.records = (taken s replies).flatMap Reply.records)
  | offered (pages : ∀ reply ∈ replies, reply.failure? = none)
      (pages' : ∀ reply ∈ replies', reply.failure? = none) (same : offered replies' = offered replies)

theorem Recut.alike {s : Store R} {replies replies' : List (Reply R)} (recut : Recut s replies replies') :
    (Loader.ofListing s replies').result? = (Loader.ofListing s replies).result? ∧
      (Loader.ofListing s replies').store = (Loader.ofListing s replies).store := by
  cases recut with
  | taken pages pages' same =>
    obtain ⟨result, ended, loads⟩ := Loader.ofListing_loads s replies
    obtain ⟨result', ended', loads'⟩ := Loader.ofListing_loads s replies'
    obtain ⟨store, verdict⟩ := loads.decided pages
    obtain ⟨store', verdict'⟩ := loads'.decided pages'
    rw [Load.taken, Load.taken] at same
    rw [same] at store' verdict'
    exact ⟨ended'.trans (verdict'.trans (verdict.symm.trans ended.symm)), store'.trans store.symm⟩
  | offered pages pages' same =>
    obtain ⟨store, -, result⟩ := Loader.load_eq (l := .start s) rfl (replies ++ [.last])
    obtain ⟨store', -, result'⟩ := Loader.load_eq (l := .start s) rfl (replies' ++ [.last])
    rw [(offered_last replies).1, ending_of_pages pages] at result
    rw [(offered_last replies').1, ending_of_pages pages', same] at result'
    rw [(offered_last replies).1] at store
    rw [(offered_last replies').1, same] at store'
    exact ⟨result'.trans result.symm, store'.trans store.symm⟩

end

/-- A load asks for the pages in turn and applies their records in order, and two listings of the same
records cannot be told apart by what they load. -/
theorem pages_load_as_one_listing [Indexed R] (s : Store R) (replies : List (Reply R)) :
    (∃ result, (Loader.ofListing s replies).result? = some result ∧
      Loads none s (replies ++ [.last]) (Loader.ofListing s replies).asked result
        (Loader.ofListing s replies).store) ∧
      ∀ replies', Recut s replies replies' →
        (Loader.ofListing s replies').result? = (Loader.ofListing s replies).result? ∧
          (Loader.ofListing s replies').store = (Loader.ofListing s replies).store :=
  ⟨Loader.ofListing_loads s replies, fun _ recut => recut.alike⟩

namespace Sample

def server (id : String) : VirtualServer := { id := some id }

/-- Three servers on two pages. -/
def listing : List (Reply VirtualServer) :=
  [.page ⟨[server "a", server "b"], some "2"⟩, .page ⟨[server "c"], none⟩]

/-- The same servers on three pages, of which the second is empty and the last has an empty cursor. A
request for a fourth one would fail. -/
def recut : List (Reply VirtualServer) :=
  [.page ⟨[server "a"], some "1"⟩, .page ⟨[], some "1b"⟩, .page ⟨[server "b", server "c"], some ""⟩,
    .refused (.transport "reset")]

end Sample

open Sample in
/-- Two listings of three servers load alike, though they are asked for with other cursors. -/
theorem recut_listing_loads_alike : Recut VirtualServer.emptyStore listing recut ∧
    (Loader.ofListing VirtualServer.emptyStore recut).result? =
      (Loader.ofListing VirtualServer.emptyStore listing).result? ∧
    (Loader.ofListing VirtualServer.emptyStore recut).store =
      (Loader.ofListing VirtualServer.emptyStore listing).store ∧
    (Loader.ofListing VirtualServer.emptyStore listing).asked = [none, some "2"] ∧
    (Loader.ofListing VirtualServer.emptyStore recut).asked = [none, some "1", some "1b"] ∧
    (Loader.ofListing VirtualServer.emptyStore recut).result? = some (.ok 3) := by
  have alike : Recut VirtualServer.emptyStore listing recut :=
    .taken (by decide +kernel) (by decide +kernel) rfl
  have law := (pages_load_as_one_listing VirtualServer.emptyStore listing).2 recut alike
  exact ⟨alike, law.1, law.2, rfl, rfl, rfl⟩

end NetIntent.Load
