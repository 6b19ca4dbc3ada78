import Mathlib.Data.List.Nodup
import NetIntent.Document.Fields

/-! Records and what they look at. A record is read from the members it knows, by name; their order,
other members, and nulls for absent optional values play no part, at any depth. A codec is lawful if it
reads back what it writes and reads alike what differs only in these respects. -/
namespace NetIntent.Document

/-- A member that a record knows: its name, whether null stands for its absence, and which of its
values are read alike. -/
structure Member where
  name : String
  nullable : Bool := false
  alike : Document → Document → Prop := fun _ _ => False

/-- Lists that differ in one item. -/
inductive ItemsAlike (alike : Document → Document → Prop) : Document → Document → Prop where
  | item (before after : List Document) {item item' : Document} (changed : alike item item') :
      ItemsAlike alike (.list (before ++ item :: after)) (.list (before ++ item' :: after))

/-- Objects that differ in one respect that does not matter to a record, or to one inside it. -/
inductive Alike (known : List Member) : Document → Document → Prop where
  | reordered {members members' : List (String × Document)} (perm : members.Perm members') :
      Alike known (.map members) (.map members')
  | unknown {members : List (String × Document)} {name : String} {value : Document}
      (strange : name ∉ known.map Member.name) (readable : value.readable = true) :
      Alike known (.map members) (.map ((name, value) :: members))
  | null {members : List (String × Document)} {m : Member} (own : m ∈ known)
      (nullable : m.nullable = true) (absent : m.name ∉ members.map Prod.fst) :
      Alike known (.map members) (.map ((m.name, .null) :: members))
  | nested {members : List (String × Document)} {m : Member} {value value' : Document} (own : m ∈ known)
      (changed : m.alike value value') :
      Alike known (.map ((m.name, value) :: members)) (.map ((m.name, value') :: members))

namespace Member

/-- A value that has to be there or has a default. -/
abbrev plain (name : String) : Member := { name }

abbrev optional (name : String) : Member := { name, nullable := true }

/-- A list of records. -/
abbrev records (name : String) (known : List Member) : Member :=
  { name, alike := ItemsAlike (Alike known) }

/-- An optional record. -/
abbrev record (name : String) (known : List Member) : Member :=
  { name, nullable := true, alike := Alike known }

end Member

/-- Records of a kind: the members they know, and how they are read and written. -/
structure Codec (α : Type) where
  known : List Member
  read : Document → Option α
  write : α → Document

/-- Whatever is written is read back, and what does not matter is passed over, so that what is read can
be brought to a normal form by writing it. -/
structure Codec.Lawful {α : Type} (c : Codec α) : Prop where
  read_write : ∀ r, c.read (c.write r) = some r
  read_alike : ∀ d d', Alike c.known d d' → c.read d = c.read d'
  normal : ∀ d r, c.read d = some r → (c.read (c.write r)).map c.write = some (c.write r)

variable {α β : Type} {members members' : List (String × Document)} {name other : String}
  {value value' : Document}

theorem Codec.lawful {c : Codec α} (back : ∀ r, c.read (c.write r) = some r)
    (alike : ∀ d d', Alike c.known d d' → c.read d = c.read d') : c.Lawful :=
  ⟨back, alike, fun _ r _ => by rw [back r, Option.map_some]⟩

theorem sole_perm (perm : members.Perm members') (name : String) :
    sole members name = sole members' name := by
  have filtered := perm.filter (·.1 == name)
  unfold sole
  generalize members.filter (·.1 == name) = found at filtered
  generalize members'.filter (·.1 == name) = found' at filtered
  have length := filtered.length_eq
  match found, found' with
  | [], [] => rfl
  | [_], [_] =>
    obtain rfl := List.singleton_inj.mp (List.singleton_perm.mp filtered)
    rfl
  | _ :: _ :: _, _ :: _ :: _ => rfl
  | [], _ :: _ | [_], [] | [_], _ :: _ :: _ | _ :: _ :: _, [] | _ :: _ :: _, [_] => simp at length

theorem filter_of_absent (absent : name ∉ members.map Prod.fst) : members.filter (·.1 == name) = [] := by
  refine List.filter_eq_nil_iff.mpr fun item member => ?_
  rw [beq_iff_eq]
  rintro rfl
  exact absent (List.mem_map_of_mem member)

theorem sole_of_absent (absent : name ∉ members.map Prod.fst) : sole members name = some none := by
  rw [sole, filter_of_absent absent]

theorem sole_cons_of_absent (absent : name ∉ members.map Prod.fst) :
    sole ((name, value) :: members) name = some (some value) := by
  simp [sole, filter_of_absent absent]

theorem sole_cons_of_mem (again : name ∈ members.map Prod.fst) :
    sole ((name, value) :: members) name = none := by
  obtain ⟨item, member, rfl⟩ := List.mem_map.mp again
  have found : item ∈ members.filter (·.1 == item.1) :=
    List.mem_filter.mpr ⟨member, beq_iff_eq.mpr rfl⟩
  obtain ⟨first, rest, more⟩ := List.exists_cons_of_ne_nil (List.ne_nil_of_mem found)
  simp [sole, more]

theorem sole_cons_of_ne (different : name ≠ other) :
    sole ((name, value) :: members) other = sole members other := by
  simp [sole, different]

theorem readableMembers_perm (perm : members.Perm members') :
    readableMembers members = readableMembers members' := by
  induction perm with
  | nil => rfl
  | cons item _ ih => rw [readableMembers, readableMembers, ih]
  | swap item item' rest => simp only [readableMembers, Bool.and_left_comm]
  | trans _ _ ih ih' => exact ih.trans ih'

/-- What alike objects may give for a known member. -/
inductive Varies (m : Member) : Option Document → Option Document → Prop where
  | same (field : Option Document) : Varies m field field
  | null (nullable : m.nullable = true) : Varies m none (some .null)
  | nested {value value' : Document} (changed : m.alike value value') :
      Varies m (some value) (some value')

namespace Varies

variable {field field' : Option Document} {known : List Member}

theorem plain (varies : Varies (.plain name) field field') : field = field' := by
  cases varies with
  | same => rfl
  | null nullable => cases nullable
  | nested changed => exact changed.elim

theorem optional (varies : Varies (.optional name) field field') (read : Document → Option α) :
    Document.optional read field = Document.optional read field' := by
  cases varies with
  | same | null => rfl
  | nested changed => exact changed.elim

theorem record (varies : Varies (.record name known) field field') (read : Document → Option α)
    (reads : ∀ d d', Alike known d d' → read d = read d') :
    Document.optional read field = Document.optional read field' := by
  cases varies with
  | same | null => rfl
  | nested changed =>
    have same := reads _ _ changed
    cases changed <;> simp only [Document.optional, same]

theorem records (varies : Varies (.records name known) field field') (read : Document → Option α)
    (reads : ∀ d d', Alike known d d' → read d = read d') (value : List α) :
    orElse (listOf read) value field = orElse (listOf read) value field' := by
  cases varies with
  | same => rfl
  | null nullable => cases nullable
  | nested changed =>
    obtain ⟨before, after, changed⟩ := changed
    simp only [orElse, listOf, List.mapM_append, List.mapM_cons, reads _ _ changed]

end Varies

/-- What alike objects give for all known members. -/
inductive Vary : List Member → List (Option Document) → List (Option Document) → Prop where
  | nil : Vary [] [] []
  | cons {m : Member} {known : List Member} {field field' : Option Document}
      {fields fields' : List (Option Document)} (first : Varies m field field')
      (rest : Vary known fields fields') : Vary (m :: known) (field :: fields) (field' :: fields')

namespace Alike

variable {known : List Member} {d d' : Document}

theorem objects (alike : Alike known d d') : ∃ members members', d = .map members ∧ d' = .map members' := by
  cases alike <;> exact ⟨_, _, rfl, rfl⟩

theorem sole_varies {m : Member} (alike : Alike known (.map members) (.map members'))
    (distinct : (known.map Member.name).Nodup) (own : m ∈ known) :
    Option.Rel (Varies m) (sole members m.name) (sole members' m.name) := by
  have unchanged : ∀ found : Option (Option Document), Option.Rel (Varies m) found found := by
    rintro (_ | field)
    · exact .none
    · exact .some (.same field)
  cases alike with
  | reordered perm =>
    rw [sole_perm perm]
    exact unchanged _
  | @unknown _ name value strange readable =>
    have different : name ≠ m.name := by
      rintro rfl
      exact strange (List.mem_map_of_mem own)
    rw [sole_cons_of_ne different]
    exact unchanged _
  | @null _ m' own' nullable absent =>
    by_cases same : m'.name = m.name
    · obtain rfl := List.inj_on_of_nodup_map distinct own' own same
      rw [sole_of_absent absent, sole_cons_of_absent absent]
      exact .some (.null nullable)
    · rw [sole_cons_of_ne same]
      exact unchanged _
  | @nested rest m' value value' own' changed =>
    by_cases same : m'.name = m.name
    · obtain rfl := List.inj_on_of_nodup_map distinct own' own same
      by_cases again : m'.name ∈ rest.map Prod.fst
      · rw [sole_cons_of_mem again, sole_cons_of_mem again]
        exact .none
      · rw [sole_cons_of_absent again, sole_cons_of_absent again]
        exact .some (.nested changed)
    · rw [sole_cons_of_ne same, sole_cons_of_ne same]
      exact unchanged _

/-- All known members of alike objects are found together. -/
theorem members_vary (alike : Alike known (.map members) (.map members'))
    (distinct : (known.map Member.name).Nodup) {part : List Member} (own : ∀ m ∈ part, m ∈ known) :
    Option.Rel (Vary part) ((part.map Member.name).mapM (sole members))
      ((part.map Member.name).mapM (sole members')) := by
  induction part with
  | nil => exact .some .nil
  | cons m rest ih =>
    obtain ⟨first, others⟩ := List.forall_mem_cons.mp own
    have varies := alike.sole_varies distinct first
    have vary := ih others
    rw [List.map_cons, List.mapM_cons, List.mapM_cons]
    generalize sole members m.name = found at varies
    generalize sole members' m.name = found' at varies
    generalize (rest.map Member.name).mapM (sole members) = more at vary
    generalize (rest.map Member.name).mapM (sole members') = more' at vary
    cases varies with
    | none => exact .none
    | some varies =>
      cases vary with
      | none => exact .none
      | some vary => exact .some (.cons varies vary)

theorem sole_plain (alike : Alike known (.map members) (.map members'))
    (distinct : (known.map Member.name).Nodup) (name : String) (own : .plain name ∈ known) :
    sole members name = sole members' name := by
  have varies := alike.sole_varies distinct own
  generalize sole members name = found at varies
  generalize sole members' name = found' at varies
  cases varies with
  | none => rfl
  | some varies => rw [varies.plain]

theorem readable (alike : Alike known (.map members) (.map members'))
    (plain : ∀ m ∈ known, m = .plain m.name) :
    (Document.map members).readable = (Document.map members').readable := by
  cases alike with
  | reordered perm => exact readableMembers_perm perm
  | unknown _ readable => rw [Document.readable, Document.readable, readableMembers, readable, Bool.true_and]
  | null own nullable =>
    rw [plain _ own] at nullable
    cases nullable
  | nested own changed =>
    rw [plain _ own] at changed
    exact changed.elim

/-- A reading that takes alike values of the known members to one result reads alike objects alike. -/
theorem read {build : List (Option Document) → Option α} (alike : Alike known d d')
    (distinct : (known.map Member.name).Nodup)
    (builds : ∀ fields fields', Vary known fields fields' → build fields = build fields') :
    (d.fields (known.map Member.name)).bind build = (d'.fields (known.map Member.name)).bind build := by
  obtain ⟨members, members', rfl, rfl⟩ := alike.objects
  have vary := alike.members_vary distinct fun _ => id
  simp only [fields]
  generalize (known.map Member.name).mapM (sole members) = found at vary
  generalize (known.map Member.name).mapM (sole members') = found' at vary
  cases vary with
  | none => rfl
  | some vary => exact builds _ _ vary

end Alike

/-- The members of some fields, without those that are left out. -/
def filled (slots : List (String × Option Document)) : List (String × Document) :=
  slots.flatMap fun slot => (slot.2.map (slot.1, ·)).toList

theorem filled_subset (slots : List (String × Option Document)) :
    (filled slots).map Prod.fst ⊆ slots.map Prod.fst := by
  intro name member
  obtain ⟨_, among, rfl⟩ := List.mem_map.mp member
  obtain ⟨slot, own, found⟩ := List.mem_flatMap.mp among
  obtain ⟨value, -, rfl⟩ := Option.map_eq_some_iff.mp (Option.mem_toList.mp found)
  exact List.mem_map_of_mem own

theorem sole_filled {slots : List (String × Option Document)} (distinct : (slots.map Prod.fst).Nodup)
    {slot : String × Option Document} (own : slot ∈ slots) :
    sole (filled slots) slot.1 = some slot.2 := by
  induction slots with
  | nil => exact absurd own List.not_mem_nil
  | cons first rest ih =>
    obtain ⟨name, value⟩ := first
    obtain ⟨apart, others⟩ := List.nodup_cons.mp distinct
    have absent : name ∉ (filled rest).map Prod.fst := fun member => apart (filled_subset rest member)
    obtain rfl | later := List.mem_cons.mp own
    · cases value with
      | none => exact sole_of_absent absent
      | some value => exact sole_cons_of_absent absent
    · have different : name ≠ slot.1 := by
        have member := List.mem_map_of_mem (f := Prod.fst) later
        rintro rfl
        exact apart member
      cases value with
      | none => exact ih others later
      | some value => exact (sole_cons_of_ne different).trans (ih others later)

theorem mapM_eq_some_map {α β : Type} {f : α → Option β} {g : α → β} {items : List α}
    (each : ∀ a ∈ items, f a = some (g a)) : items.mapM f = some (items.map g) := by
  induction items with
  | nil => rfl
  | cons a rest ih =>
    obtain ⟨first, others⟩ := List.forall_mem_cons.mp each
    rw [List.mapM_cons, first, ih others]
    rfl

theorem read_filled {build : List (Option Document) → Option α} {names : List String}
    {slots : List (String × Option Document)} (named : slots.map Prod.fst = names)
    (distinct : names.Nodup) :
    ((Document.map (filled slots)).fields names).bind build = build (slots.map Prod.snd) := by
  subst named
  have found : (slots.map Prod.fst).mapM (sole (filled slots)) = some (slots.map Prod.snd) := by
    rw [List.mapM_map]
    exact mapM_eq_some_map fun slot own => sole_filled distinct own
  rw [fields, found, Option.bind_some]

theorem listOf_list {read : Document → Option α} (write : α → Document)
    (back : ∀ a, read (write a) = some a) (items : List α) :
    listOf read (.list (items.map write)) = some items := by
  rw [listOf, List.mapM_map]
  exact (mapM_eq_some_map fun a _ => back a).trans (congrArg some (List.map_id items))

theorem Codec.Lawful.read_list {c : Codec α} (lawful : c.Lawful) (items : List α) :
    listOf c.read (.list (items.map c.write)) = some items := listOf_list c.write lawful.read_write items

theorem listOf_ofTexts (items : List String) : listOf text? (ofTexts items) = some items :=
  listOf_list .text (fun _ => rfl) items

theorem optional_map {read : Document → Option α} (write : α → Document)
    (back : ∀ a, read (write a) = some a) (filled : ∀ a, write a ≠ .null) (value : Option α) :
    optional read (value.map write) = some value := by
  cases value with
  | none => rfl
  | some a =>
    have read := back a
    have present := filled a
    rw [Option.map_some]
    generalize write a = d at read present
    cases d <;> simp_all [optional]

theorem optional_text (value : Option String) : optional text? (value.map .text) = some value :=
  optional_map .text (fun _ => rfl) (fun _ => nofun) value

theorem memberIfSome_eq (name : String) (value : Option String) :
    memberIfSome name value = ((value.map .text).map (name, ·)).toList := by
  cases value <;> rfl

theorem readable_ofTexts (items : List String) : (ofTexts items).readable = true := by
  induction items with
  | nil => rfl
  | cons item rest ih =>
    simp only [ofTexts, readable, List.map_cons, readableAll, Bool.true_and] at ih ⊢
    exact ih

end NetIntent.Document
