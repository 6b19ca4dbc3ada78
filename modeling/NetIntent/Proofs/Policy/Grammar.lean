import NetIntent.Proofs.Policy.Paths

/-! What the readers of paths accept. A parent is read from the paths two names below an absolute path, a
project from its one spelling, and every other text is refused as it was given. A last segment is read from
every path that does not hold slashes only. -/
namespace NetIntent.Path

variable {path kept above segment org id : String}

/-- A text that can stand between two slashes. -/
structure IsName (name : String) : Prop where
  filled : name ≠ ""
  plain : '/' ∉ name.toList

def OnlySlashes (text : String) : Prop := ∀ c ∈ text.toList, c = '/'

instance (text : String) : Decidable (OnlySlashes text) := List.decidableBAll (· = '/') text.toList

def IsAbsolute (path : String) : Prop := ∃ rest, path = "/" ++ rest

/-- What is left of a path without the slashes at its end. -/
structure Trims (path kept : String) : Prop where
  cut : ∃ slashes, OnlySlashes slashes ∧ path = kept ++ slashes
  firm : kept.toList.getLast? ≠ some '/'

/-- Without the slashes at its end, a path goes on from an absolute path with two names. -/
inductive HasParent (path above : String) : Prop where
  | below (collection id : String) (collectionName : IsName collection) (idName : IsName id)
      (absolute : IsAbsolute above) (spelled : Trims path (above ++ "/" ++ collection ++ "/" ++ id))

/-- The path of a project of an organisation. -/
def project (org id : String) : String := "/orgs/" ++ org ++ "/projects/" ++ id

structure IsProject (path org id : String) : Prop where
  spelled : path = project org id
  orgName : IsName org
  idName : IsName id

/-- The last name in a path, with nothing but slashes after it. -/
structure EndsIn (path segment : String) : Prop where
  name : IsName segment
  placed : ∃ front slashes, path = front ++ segment ++ slashes ∧ OnlySlashes slashes ∧
    (front = "" ∨ ∃ before, front = before ++ "/")

section Readers

variable {α : Type} {read : String → Except PathError α} {refusal : String → PathError}
  {Spells : String → α → Prop}

/-- A reader answers what a text spells, which is one value at most, and refuses the texts that spell none. -/
structure ReadsExactly (read : String → Except PathError α) (refusal : String → PathError)
    (Spells : String → α → Prop) : Prop where
  ok (path : String) (value : α) : read path = .ok value ↔ Spells path value
  unique (path : String) (value other : α) : Spells path value → Spells path other → value = other
  error (path : String) (e : PathError) :
    read path = .error e ↔ e = refusal path ∧ ∀ value, ¬Spells path value

theorem ReadsExactly.of_outcomes (complete : ∀ path value, Spells path value → read path = .ok value)
    (outcome : ∀ path, (∃ value, Spells path value ∧ read path = .ok value) ∨
      read path = .error (refusal path)) : ReadsExactly read refusal Spells where
  ok path value := by
    refine ⟨fun answered => ?_, complete path value⟩
    rcases outcome path with ⟨other, spells, same⟩ | refused
    · cases answered.symm.trans same
      exact spells
    · cases answered.symm.trans refused
  unique path value other spells spells' :=
    Except.ok.inj ((complete path value spells).symm.trans (complete path other spells'))
  error path e := by
    constructor
    · intro refused
      have silent : ∀ value, ¬Spells path value := by
        intro value spells
        cases refused.symm.trans (complete path value spells)
      rcases outcome path with ⟨value, spells, -⟩ | same
      · exact absurd spells (silent value)
      · exact ⟨Except.error.inj (refused.symm.trans same), silent⟩
    · rintro ⟨rfl, silent⟩
      exact (outcome path).resolve_left fun ⟨value, spells, _⟩ => silent value spells

end Readers

theorem isName_iff {name : String} : IsName name ↔ name.toList ≠ [] ∧ '/' ∉ name.toList := by
  rw [Ne, String.toList_eq_nil_iff]
  constructor
  · rintro ⟨filled, plain⟩
    exact ⟨filled, plain⟩
  · rintro ⟨filled, plain⟩
    exact ⟨filled, plain⟩

instance (name : String) : Decidable (IsName name) := decidable_of_iff _ isName_iff.symm

theorem isName_ofList {cs : List Char} : IsName (.ofList cs) ↔ cs ≠ [] ∧ '/' ∉ cs := by
  rw [isName_iff, String.toList_ofList]

theorem isAbsolute_iff : IsAbsolute path ↔ ∃ rest, path.toList = '/' :: rest := by
  constructor
  · rintro ⟨rest, rfl⟩
    exact ⟨rest.toList, String.toList_append⟩
  · rintro ⟨rest, spelled⟩
    refine ⟨.ofList rest, ?_⟩
    rw [← String.toList_inj, spelled]
    simp

theorem trims_iff : Trims path kept ↔ withoutEndSlashes path.toList = kept.toList := by
  constructor
  · rintro ⟨⟨slashes, bare, rfl⟩, firm⟩
    rw [String.toList_append, withoutEndSlashes_append bare firm]
  · intro trimmed
    have parts : kept.toList ++ path.toList.rtakeWhile (· == '/') = path.toList := by
      rw [← trimmed]
      exact List.rdropWhile_append_rtakeWhile
    refine ⟨⟨.ofList (path.toList.rtakeWhile (· == '/')), fun c member => ?_, ?_⟩, ?_⟩
    · rw [String.toList_ofList] at member
      exact beq_iff_eq.mp (List.mem_rtakeWhile_imp (p := (· == '/')) member)
    · rw [← String.toList_inj, String.toList_append, String.toList_ofList, parts]
    · rw [← withoutEndSlashes_eq_self, ← trimmed]
      exact List.rdropWhile_idempotent _ _

theorem trims_self (path : String) : Trims path (.ofList (withoutEndSlashes path.toList)) :=
  trims_iff.mpr String.toList_ofList.symm

theorem IsName.trims {name slashes : String} (isName : IsName name) (bare : OnlySlashes slashes)
    (front : String) : Trims (front ++ name ++ slashes) (front ++ name) := by
  refine ⟨⟨slashes, bare, rfl⟩, fun slash => isName.plain ?_⟩
  rw [String.toList_append, List.getLast?_append_of_ne_nil _ (isName_iff.mp isName).1] at slash
  exact List.mem_of_getLast? slash

theorem parent_of_hasParent (has : HasParent path above) : parent path = .ok above := by
  obtain ⟨collection, id, collectionName, idName, ⟨rest, rfl⟩, spelled⟩ := has
  have cuts : withoutEndSlashes path.toList =
      ('/' :: rest.toList ++ '/' :: collection.toList) ++ '/' :: id.toList := by
    simp [trims_iff.mp spelled]
  unfold parent
  rw [cuts, cutLast_append idName.plain]
  dsimp only
  rw [cutLast_append collectionName.plain]
  simp [collectionName.filled, idName.filled]

theorem parent_outcome (path : String) :
    (∃ above, HasParent path above ∧ parent path = .ok above) ∨
      parent path = .error (.notPolicy path) := by
  -- Only the branch with two cuts and two names in them answers.
  unfold parent
  split
  · rename_i front id idCut
    split
    · rename_i rest collection collectionCut
      split
      · rename_i filled
        obtain ⟨whole, idPlain⟩ := cutLast_eq_some_iff.mp idCut
        obtain ⟨rfl, collectionPlain⟩ := cutLast_eq_some_iff.mp collectionCut
        have absolute : IsAbsolute (.ofList ('/' :: rest)) :=
          isAbsolute_iff.mpr ⟨rest, String.toList_ofList⟩
        have spelled : withoutEndSlashes path.toList =
            (String.ofList ('/' :: rest) ++ "/" ++ .ofList collection ++ "/" ++ .ofList id).toList := by
          simp [whole]
        exact .inl ⟨_, .below _ _ (isName_ofList.mpr ⟨filled.2, collectionPlain⟩)
          (isName_ofList.mpr ⟨filled.1, idPlain⟩) absolute (trims_iff.mpr spelled), rfl⟩
      · exact .inr rfl
    · exact .inr rfl
  · exact .inr rfl

theorem hasParent_subnetPort (trims : Trims path kept) (absolute : IsAbsolute kept)
    (idName : IsName id) : HasParent (subnetPort path id) kept := by
  have spelled : subnetPort path id = kept ++ "/" ++ "ports" ++ "/" ++ id ++ "" := by
    rw [← String.toList_inj, subnetPort, trims_iff.mp trims]
    simp
  refine .below "ports" id (by decide) idName absolute ?_
  rw [spelled]
  exact idName.trims (by decide) _

/-- The port of a subnet has that subnet as its parent, without slashes at its end. -/
theorem parent_subnetPort {subnet id : String} {rest : List Char} (absolute : subnet.toList = '/' :: rest)
    (proper : ∃ c ∈ subnet.toList, c ≠ '/') (filled : id ≠ "") (plain : '/' ∉ id.toList) :
    parent (subnetPort subnet id) = .ok (String.ofList (withoutEndSlashes subnet.toList)) := by
  have left : IsAbsolute (.ofList (withoutEndSlashes subnet.toList)) := by
    rw [absolute] at proper ⊢
    rw [isAbsolute_iff, String.toList_ofList]
    exact withoutEndSlashes_absolute proper
  exact parent_of_hasParent (hasParent_subnetPort (trims_self subnet) left ⟨filled, plain⟩)

/-- A parent is read from the paths that have one, which is one only, and the path of a port gives back its
subnet without the slashes at its end. -/
theorem parent_reads_exactly :
    ReadsExactly parent .notPolicy HasParent ∧
      ∀ subnet kept id, Trims subnet kept → IsAbsolute kept → IsName id →
        parent (subnetPort subnet id) = .ok kept := by
  constructor
  · exact .of_outcomes (fun _ _ => parent_of_hasParent) parent_outcome
  · intro subnet kept id trims absolute idName
    exact parent_of_hasParent (hasParent_subnetPort trims absolute idName)

/-- A path right below the root has two slashes before its two names. -/
theorem root_and_slashed_subnet_are_parents : HasParent "//c/i//" "/" ∧ parent "//c/i//" = .ok "/" ∧
    Trims "//s//" "//s" ∧ IsAbsolute "//s" ∧ IsName "web" ∧ parent (subnetPort "//s//" "web") = .ok "//s" := by
  have root : HasParent "//c/i//" "/" :=
    .below "c" "i" (by decide) (by decide) ⟨"", rfl⟩ ⟨⟨"//", by decide, rfl⟩, by decide⟩
  have trims : Trims "//s//" "//s" := ⟨⟨"//", by decide, rfl⟩, by decide⟩
  have absolute : IsAbsolute "//s" := ⟨"/s", rfl⟩
  have name : IsName "web" := by decide
  exact ⟨root, (parent_reads_exactly.1.ok _ _).mpr root, trims, absolute, name,
    parent_reads_exactly.2 _ _ _ trims absolute name⟩

/-- With one slash the parent would be the empty text, which is not absolute. -/
example : parent "/c/i" = .error (.notPolicy "/c/i") := by rfl

theorem project_toList (org id : String) : (project org id).toList =
    ['/'].intercalate [[], "orgs".toList, org.toList, "projects".toList, id.toList] := by
  simp [project]

theorem projectIds_project (orgName : IsName org) (idName : IsName id) :
    projectIds (project org id) = .ok (org, id) := by
  have parts : segments (project org id).toList =
      [[], "orgs".toList, org.toList, "projects".toList, id.toList] := by
    refine (segments_eq_iff (List.cons_ne_nil _ _)).mpr ⟨project_toList org id, ?_⟩
    simp [orgName.plain, idName.plain]
  simp [projectIds, parts, orgName.filled, idName.filled]

theorem projectIds_outcome (path : String) :
    (∃ ids : String × String, IsProject path ids.1 ids.2 ∧ projectIds path = .ok ids) ∨
      projectIds path = .error (.notProject path) := by
  unfold projectIds
  split
  · rename_i orgs org projects id parts
    split
    · rename_i fits
      obtain ⟨rfl, rfl, orgFilled, idFilled⟩ := fits
      obtain ⟨whole, plain⟩ := (segments_eq_iff (List.cons_ne_nil _ _)).mp parts
      have spelled : path = project (.ofList org) (.ofList id) := by
        rw [← String.toList_inj, whole, project_toList]
        simp
      exact .inl ⟨(.ofList org, .ofList id), ⟨spelled, isName_ofList.mpr ⟨orgFilled, plain org (by simp)⟩,
        isName_ofList.mpr ⟨idFilled, plain id (by simp)⟩⟩, rfl⟩
    · exact .inr rfl
  · exact .inr rfl

theorem projectIds_readsExactly :
    ReadsExactly projectIds .notProject fun path ids => IsProject path ids.1 ids.2 := by
  refine .of_outcomes ?_ projectIds_outcome
  rintro path ⟨org, id⟩ ⟨rfl, orgName, idName⟩
  exact projectIds_project orgName idName

theorem lastSegment_of_endsIn (ends : EndsIn path segment) : lastSegment path = some segment := by
  obtain ⟨name, front, slashes, rfl, bare, start⟩ := ends
  obtain ⟨filled, plain⟩ := isName_iff.mp name
  rw [lastSegment_eq_some_iff, ← lastFilled_withoutEndSlashes, trims_iff.mp (name.trims bare front)]
  rcases start with rfl | ⟨before, rfl⟩
  · rw [String.empty_append, lastFilled_plain plain filled]
  · have cut : (before ++ "/" ++ segment).toList = before.toList ++ '/' :: segment.toList := by simp
    rw [cut, lastFilled_cut plain filled]

theorem lastSegment_of_onlySlashes (bare : OnlySlashes path) : lastSegment path = none := by
  have trims : Trims path "" := ⟨⟨path, bare, String.empty_append.symm⟩, by decide⟩
  rw [lastSegment_eq, ← lastFilled_withoutEndSlashes, trims_iff.mp trims]
  rfl

theorem endsIn_or_onlySlashes (path : String) : (∃ segment, EndsIn path segment) ∨ OnlySlashes path := by
  obtain ⟨⟨slashes, bare, whole⟩, firm⟩ := trims_self path
  generalize String.ofList (withoutEndSlashes path.toList) = kept at whole firm
  subst whole
  by_cases slash : '/' ∈ kept.toList
  · obtain ⟨front, last, cut, plain⟩ := exists_cut slash
    -- A cut at the very end would leave a slash there.
    have filled : last ≠ [] := by
      rintro rfl
      exact firm (by simp [cut])
    have spelled : kept = .ofList front ++ "/" ++ .ofList last := by
      rw [← String.toList_inj, cut]
      simp
    exact .inl ⟨.ofList last, isName_ofList.mpr ⟨filled, plain⟩, .ofList front ++ "/", slashes,
      by rw [spelled], bare, .inr ⟨.ofList front, rfl⟩⟩
  · by_cases filled : kept = ""
    · rw [filled, String.empty_append]
      exact .inr bare
    · exact .inl ⟨kept, ⟨filled, slash⟩, "", slashes, by rw [String.empty_append], bare, .inl rfl⟩

theorem lastSegment_eq_some_iff_endsIn : lastSegment path = some segment ↔ EndsIn path segment := by
  refine ⟨fun found => ?_, lastSegment_of_endsIn⟩
  rcases endsIn_or_onlySlashes path with ⟨other, ends⟩ | bare
  · cases found.symm.trans (lastSegment_of_endsIn ends)
    exact ends
  · cases found.symm.trans (lastSegment_of_onlySlashes bare)

theorem lastSegment_eq_none_iff : lastSegment path = none ↔ OnlySlashes path := by
  refine ⟨fun missing => (endsIn_or_onlySlashes path).resolve_left ?_, lastSegment_of_onlySlashes⟩
  rintro ⟨segment, ends⟩
  cases missing.symm.trans (lastSegment_of_endsIn ends)

theorem endsIn_virtualServer (name : IsName id) : EndsIn (virtualServer id) id := by
  refine ⟨name, virtualServers ++ "/", "", ?_, by decide, .inr ⟨virtualServers, rfl⟩⟩
  rw [String.append_empty, virtualServer]

/-- The ids of a project are read from its one spelling, which they give back, and a last segment from every
path that does not hold slashes only. -/
theorem projects_and_segments_read_exactly :
    ReadsExactly projectIds .notProject (fun path ids => IsProject path ids.1 ids.2) ∧
      (∀ org id, IsName org → IsName id → projectIds (project org id) = .ok (org, id)) ∧
      (∀ path org id, projectIds path = .ok (org, id) → project org id = path) ∧
      (∀ path segment, lastSegment path = some segment ↔ EndsIn path segment) ∧
      (∀ path, lastSegment path = none ↔ OnlySlashes path) ∧
      ∀ id, IsName id → lastSegment (virtualServer id) = some id := by
  refine ⟨projectIds_readsExactly, ?_, ?_, ?_, ?_, ?_⟩
  · intro org id orgName idName
    exact projectIds_project orgName idName
  · intro path org id answered
    exact ((projectIds_readsExactly.ok path (org, id)).mp answered).spelled.symm
  · intro path segment
    exact lastSegment_eq_some_iff_endsIn
  · intro path
    exact lastSegment_eq_none_iff
  · intro id idName
    exact lastSegment_of_endsIn (endsIn_virtualServer idName)

theorem project_ids_and_slashed_segment_read : IsName "default" ∧ IsName "web" ∧
    projectIds "/orgs/default/projects/web" = .ok ("default", "web") ∧
    EndsIn "a//b//" "b" ∧ lastSegment "a//b//" = some "b" ∧
    lastSegment (virtualServer "web") = some "web" := by
  have org : IsName "default" := by decide
  have name : IsName "web" := by decide
  have ends : EndsIn "a//b//" "b" := ⟨by decide, "a//", "//", rfl, by decide, .inr ⟨"a/", rfl⟩⟩
  have ⟨_, formatted, _, last, _, server⟩ := projects_and_segments_read_exactly
  exact ⟨org, name, formatted _ _ org name, ends, (last _ _).mpr ends, server _ name⟩

/-- A slash at the end is not ignored here. -/
example : projectIds "/orgs/default/projects/web/" = .error (.notProject "/orgs/default/projects/web/") := by rfl

end NetIntent.Path
