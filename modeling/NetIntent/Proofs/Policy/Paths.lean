import Mathlib.Data.List.DropRight
import NetIntent.Policy.Path

/-! Taking paths apart undoes putting them together. A path is cut at its last slash in one way, its segments
are the texts without slashes that it joins, and its last segment is the last one that is not empty. -/
namespace NetIntent.Path

variable {cs front last : List Char}

theorem withoutEndSlashes_eq_self : withoutEndSlashes cs = cs ↔ cs.getLast? ≠ some '/' := by
  rw [show withoutEndSlashes cs = cs.rdropWhile (· == '/') from rfl, List.rdropWhile_eq_self_iff]
  rcases cs.eq_nil_or_concat with rfl | ⟨front, c, rfl⟩
  · simp
  · simp

theorem withoutEndSlashes_append {slashes : List Char} (bare : ∀ c ∈ slashes, c = '/')
    (firm : cs.getLast? ≠ some '/') : withoutEndSlashes (cs ++ slashes) = cs := by
  have dropped : ∀ c ∈ slashes.reverse, (c == '/') = true := by
    intro c member
    rw [bare c (List.mem_reverse.mp member), beq_self_eq_true]
  rw [withoutEndSlashes, List.reverse_append, List.dropWhile_append_of_pos dropped]
  exact withoutEndSlashes_eq_self.mpr firm

/-- What is left of an absolute path that has more than slashes is an absolute path. -/
theorem withoutEndSlashes_absolute {rest : List Char} (proper : ∃ c ∈ '/' :: rest, c ≠ '/') :
    ∃ rest', withoutEndSlashes ('/' :: rest) = '/' :: rest' := by
  have first : withoutEndSlashes ('/' :: rest) <+: '/' :: rest := List.rdropWhile_prefix _ _
  have filled : withoutEndSlashes ('/' :: rest) ≠ [] := by
    intro bare
    obtain ⟨c, member, other⟩ := proper
    exact other (by simpa using List.rdropWhile_eq_nil_iff.mp bare c member)
  obtain ⟨c, kept, same⟩ := List.exists_cons_of_ne_nil filled
  rw [same, List.cons_prefix_cons] at first
  exact ⟨kept, by rw [same, first.1]⟩

theorem free_of_plain (plain : '/' ∉ last) : ∀ c ∈ last.reverse, (c != '/') = true := by
  intro c member
  rw [bne_iff_ne]
  rintro rfl
  exact plain (List.mem_reverse.mp member)

theorem exists_cut (slash : '/' ∈ cs) : ∃ front last, cs = front ++ '/' :: last ∧ '/' ∉ last := by
  obtain ⟨last, front, cut, plain⟩ := List.eq_append_cons_of_mem (List.mem_reverse.mpr slash)
  exact ⟨front.reverse, last.reverse, by simpa using congrArg List.reverse cut, by simpa using plain⟩

theorem cutLast_append (plain : '/' ∉ last) : cutLast (front ++ '/' :: last) = some (front, last) := by
  have free := free_of_plain plain
  simp [cutLast, List.takeWhile_append_of_pos free, List.dropWhile_append_of_pos free]

theorem cutLast_eq_some_iff : cutLast cs = some (front, last) ↔ cs = front ++ '/' :: last ∧ '/' ∉ last := by
  constructor
  · intro cut
    by_cases slash : '/' ∈ cs
    · obtain ⟨front', last', rfl, plain⟩ := exists_cut slash
      rw [cutLast_append plain] at cut
      cases cut
      exact ⟨rfl, plain⟩
    · have whole : cs.reverse.dropWhile (· != '/') = [] := List.dropWhile_eq_nil_iff.mpr (free_of_plain slash)
      rw [cutLast, whole] at cut
      cases cut
  · rintro ⟨rfl, plain⟩
    exact cutLast_append plain

theorem segments_eq_splitOn (cs : List Char) : segments cs = cs.splitOn '/' := by
  induction cs with
  | nil => rfl
  | cons c rest ih =>
    rw [segments, List.splitOn_cons_eq_if_modifyHead, ih]
    by_cases slash : c = '/'
    · rw [if_pos slash, if_pos (beq_iff_eq.mpr slash)]
    · rw [if_neg slash, if_neg (mt beq_iff_eq.mp slash)]
      cases first : rest.splitOn '/' with
      | nil => exact absurd first (List.splitOn_ne_nil '/' rest)
      | cons first others => rfl

theorem segments_plain (plain : '/' ∉ cs) : segments cs = [cs] := by
  rw [segments_eq_splitOn, List.splitOn_eq_singleton plain]

theorem segments_ne_nil (cs : List Char) : segments cs ≠ [] :=
  segments_eq_splitOn cs ▸ List.splitOn_ne_nil '/' cs

theorem segments_append_slash (front rest : List Char) :
    segments (front ++ '/' :: rest) = segments front ++ segments rest := by
  simp only [segments_eq_splitOn, List.splitOn_append_cons_self]

theorem plain_of_mem_segments {part : List Char} (member : part ∈ segments cs) : '/' ∉ part := by
  induction cs generalizing part with
  | nil =>
    obtain rfl := List.mem_singleton.mp member
    exact List.not_mem_nil
  | cons c rest ih =>
    rw [segments] at member
    split at member
    · rcases List.mem_cons.mp member with rfl | later
      · exact List.not_mem_nil
      · exact ih later
    · rename_i other
      obtain ⟨first, others, same⟩ := List.exists_cons_of_ne_nil (segments_ne_nil rest)
      rw [same] at member ih
      rcases List.mem_cons.mp member with rfl | later
      · exact List.not_mem_cons_of_ne_of_not_mem (Ne.symm other) (ih List.mem_cons_self)
      · exact ih (List.mem_cons_of_mem first later)

theorem segments_eq_iff {parts : List (List Char)} (filled : parts ≠ []) :
    segments cs = parts ↔ cs = ['/'].intercalate parts ∧ ∀ part ∈ parts, '/' ∉ part := by
  constructor
  · rintro rfl
    refine ⟨?_, fun part member => plain_of_mem_segments member⟩
    rw [segments_eq_splitOn, List.intercalate_splitOn]
  · rintro ⟨rfl, plain⟩
    rw [segments_eq_splitOn, List.splitOn_intercalate '/' plain filled]

/-- The last segment of a path that is not empty. -/
def lastFilled (path : List Char) : Option (List Char) := ((segments path).filter (· ≠ [])).getLast?

theorem lastFilled_slash (front : List Char) : lastFilled (front ++ ['/']) = lastFilled front := by
  simp [lastFilled, segments_append_slash, segments]

theorem lastFilled_withoutEndSlashes (cs : List Char) : lastFilled (withoutEndSlashes cs) = lastFilled cs := by
  induction cs using List.reverseRecOn with
  | nil => rfl
  | append_singleton front c ih =>
    by_cases slash : c = '/'
    · subst slash
      rw [lastFilled_slash, ← ih]
      simp [withoutEndSlashes]
    · simp [withoutEndSlashes, slash]

theorem lastFilled_plain (plain : '/' ∉ cs) (filled : cs ≠ []) : lastFilled cs = some cs := by
  simp [lastFilled, segments_plain plain, filled]

theorem lastFilled_cut (plain : '/' ∉ last) (filled : last ≠ []) :
    lastFilled (front ++ '/' :: last) = some last := by
  simp [lastFilled, segments_append_slash, segments_plain plain, filled]

/-- The last segment, as it is read from the end of a path, is the last one that is not empty. -/
theorem lastSegment_eq (path : String) :
    lastSegment path = (lastFilled path.toList).map String.ofList := by
  have trimmed : (withoutEndSlashes path.toList).getLast? ≠ some '/' :=
    withoutEndSlashes_eq_self.mp (List.rdropWhile_idempotent _ _)
  rw [← lastFilled_withoutEndSlashes, lastSegment]
  generalize withoutEndSlashes path.toList = cs at trimmed ⊢
  by_cases slash : '/' ∈ cs
  · obtain ⟨front, last, rfl, plain⟩ := exists_cut slash
    have filled : last ≠ [] := by
      rintro rfl
      exact trimmed (by simp)
    simp [List.takeWhile_append_of_pos (free_of_plain plain), lastFilled_cut plain filled, filled]
  · have whole : cs.reverse.takeWhile (· != '/') = cs.reverse :=
      List.takeWhile_eq_self_iff.mpr (free_of_plain slash)
    by_cases filled : cs = []
    · subst filled
      rfl
    · simp [whole, lastFilled_plain slash filled, filled]

theorem lastSegment_eq_some_iff {path segment : String} :
    lastSegment path = some segment ↔ lastFilled path.toList = some segment.toList := by
  rw [lastSegment_eq, Option.map_eq_some_iff]
  constructor
  · rintro ⟨cs, found, rfl⟩
    rw [found, String.toList_ofList]
  · exact fun found => ⟨_, found, String.ofList_toList⟩

end NetIntent.Path
