import RecordCopy.Proofs.PathText
import RecordCopy.Schema

/-!
# Paths as written and paths as read

A candidate keeps its path and its container as they were written, and so does a mapping its
target.  What is reported of them is the text, with a dot between container and path; what is
resolved are the two parts, each read on its own.  The dot between them is one at which the whole
text is taken apart, so reading the whole comes to the same as reading the parts, whatever blanks
and dots they have at their ends: it fails if one of them does, and otherwise puts the one path
before the other.
-/

namespace RecordCopy

namespace FieldPath

/-- The pieces of two texts with a dot between them are those of the one and those of the other. -/
theorem splitOn_dotted (outer inner : String) :
    (outer ++ "." ++ inner).toList.splitOn '.' =
      outer.toList.splitOn '.' ++ inner.toList.splitOn '.' := by
  rw [String.toList_append, String.toList_append, List.append_assoc]
  exact List.splitOn_append_cons_self _ _

theorem parse?_dotted (outer inner : String) :
    parse? (outer ++ "." ++ inner) =
      (parse? outer).bind fun p => (parse? inner).map fun q => p.within q := by
  ext path
  rw [parse?_eq_some_iff, splitOn_dotted, List.mapM_append, ← map_segments_parse?,
    ← map_segments_parse?]
  cases parse? outer with
  | none => simp
  | some p =>
    cases parse? inner with
    | none => simp
    | some q =>
      simp only [Option.map_some, Option.bind_some, Option.bind_eq_bind, Option.pure_def,
        Option.some.injEq, ← segments_within, segments_inj]

end FieldPath

theorem Candidate.sourcePath?_eq_parse? (c : Candidate) :
    c.sourcePath? = FieldPath.parse? c.effectivePath := by
  unfold sourcePath? effectivePath
  cases c.container with
  | none => rfl
  | some container =>
    dsimp only
    rw [FieldPath.parse?_dotted]
    cases FieldPath.parse? container with
    | none => rfl
    | some outer =>
      cases FieldPath.parse? c.path with
      | none => rfl
      | some inner => rfl

theorem FieldMapping.targetRoot?_of_parse? {m : FieldMapping} {p : FieldPath}
    (h : FieldPath.parse? m.target = some p) : m.targetRoot? = some p.root := by
  have hmap := mapM_eq_some_iff.mp (FieldPath.parse?_eq_some_iff.mp h)
  rw [Text.splitOn_eq_cut, List.map_cons] at hmap
  exact (List.cons.inj hmap).1

/-- Two texts with a dot between them are read exactly if both are read, and the first path is
    then put before the second.  So the path of a candidate, in whatever containers it was put one
    after another, is what is read from its whole text, and the first piece of a target that can be
    read is the root of its path. -/
theorem FieldPath.parse?_written :
    (∀ (outer inner : String) (path : FieldPath), parse? (outer ++ "." ++ inner) = some path ↔
      ∃ p q, parse? outer = some p ∧ parse? inner = some q ∧ path = p.within q) ∧
    (∀ (source : Ty) (path : String) (containers : List String),
      let c := containers.foldl Candidate.on (.ofPath source path)
      c.sourcePath? = parse? c.effectivePath) ∧
    ∀ (m : FieldMapping) (p : FieldPath), parse? m.target = some p →
      m.targetRoot? = some p.root := by
  refine ⟨?_, ?_, ?_⟩
  · intro outer inner path
    rw [parse?_dotted, Option.bind_eq_some_iff]
    constructor
    · rintro ⟨p, hp, hpath⟩
      obtain ⟨q, hq, rfl⟩ := Option.map_eq_some_iff.mp hpath
      exact ⟨p, q, hp, hq, rfl⟩
    · rintro ⟨p, q, hp, hq, rfl⟩
      exact ⟨p, hp, by rw [hq]; rfl⟩
  · intro source path containers
    exact Candidate.sourcePath?_eq_parse? _
  · intro m p hp
    exact FieldMapping.targetRoot?_of_parse? hp

/-- The root of a target with blanks around its segments. -/
theorem FieldPath.parse?_written_address :
    let m : FieldMapping := ⟨" address . city", []⟩
    parse? m.target = some ⟨"address", ["city"]⟩ ∧ m.targetRoot? = some "address" := by
  intro m
  have hread : parse? m.target = some ⟨"address", ["city"]⟩ := by decide
  exact ⟨hread, parse?_written.2.2 m _ hread⟩

end RecordCopy
