import RecordCopy.Proofs.LeftmostProblem
import RecordCopy.Proofs.Modes
import RecordCopy.Proofs.Names

/-!
# Mappings of a type's own fields

A record type may be mapped onto paths that none of its fields is on, and then no source can be
copied into it.  Where every mapping targets a field by its name and names are single segments,
that does not happen: a path that is not found is a path of the source.

How a resolution fails is told from the last step backwards.  A path that fails is not found, or
there is no access to a field on it; a path of one name that a field has is found; so what remains
of a finding that failed for want of a field is the candidate that was followed.
-/

namespace RecordCopy

/-! ### How findings fail -/

/-- An instruction fails by one of its paths, or because its types do not fit. -/
theorem Schema.instruction_error {schema : Schema} {s d : RecordType}
    {sourcePath path : FieldPath} {report : Report}
    (h : schema.instruction s sourcePath d path = .error report) :
    schema.resolveRead s sourcePath = .error report ∨ schema.resolveWrite d path = .error report ∨
      ∀ record text, report.fault ≠ .fieldNotFound record text := by
  unfold instruction at h
  split at h
  · rename_i raised hread
    obtain rfl := Except.error.inj h
    exact .inl hread
  · split at h
    · rename_i raised hwrite
      obtain rfl := Except.error.inj h
      exact .inr (.inl hwrite)
    · unfold pair at h
      split at h
      · cases h
      · obtain rfl := Except.error.inj h
        exact .inr (.inr fun _ _ => Fault.noConfusion)

/-- A candidate leads to no field of a source type: its path is malformed, or not found. -/
def Candidate.Misses (schema : Schema) (source : RecordType) (c : Candidate) (report : Report) :
    Prop :=
  c.sourcePath? = none ∧ report.fault = .fieldNotFound source.name c.effectivePath ∨
    ∃ path, c.sourcePath? = some path ∧ schema.resolveRead source path = .error report ∧
      report.fault = .fieldNotFound source.name path.display

theorem Candidate.Misses.record_eq {schema : Schema} {source : RecordType} {c : Candidate}
    {report : Report} (h : c.Misses schema source report) {record text : String}
    (hfault : report.fault = .fieldNotFound record text) : record = source.name := by
  rcases h with ⟨-, hsource⟩ | ⟨path, -, -, hsource⟩
  · exact (Fault.fieldNotFound.inj (hfault.symm.trans hsource)).1
  · exact (Fault.fieldNotFound.inj (hfault.symm.trans hsource)).1

/-! ### Types whose mappings are for their own fields -/

/-- Fields have names that are single segments, and mappings have names of fields as targets. -/
structure RecordType.OwnTargets (r : RecordType) : Prop where
  names : ∀ f ∈ r.fields, FieldPath.CanonicalSegment f.name
  targets : ∀ m ∈ r.mappings, ∃ f ∈ r.fields, m.target = f.name

namespace RecordType.OwnTargets

variable {schema : Schema} {r source : RecordType}

theorem target (h : r.OwnTargets) {m : FieldMapping} (hm : m ∈ r.mappings) :
    ∃ f ∈ r.fields, m.target = f.name ∧ FieldPath.parse? m.target = some ⟨f.name, []⟩ ∧
      m.targetRoot? = some f.name := by
  obtain ⟨f, hf, htarget⟩ := h.targets m hm
  have hname := h.names f hf
  refine ⟨f, hf, htarget, ?_, ?_⟩
  · rw [htarget]
    exact hname.parse?
  · rw [FieldMapping.targetRoot?, htarget, Text.cut_of_not_mem hname.2.1]
    exact hname.segment?

theorem no_stray (h : r.OwnTargets) : Schema.strayMapping? r = none := by
  rw [Schema.strayMapping?_eq_none_iff]
  intro m hm
  obtain ⟨f, hf, -, -, hroot⟩ := h.target hm
  exact ⟨f, hf, hroot⟩

theorem found_for_writing {f : Field} (hf : f ∈ r.fields) {report : Report}
    (h : schema.resolveWrite r ⟨f.name, []⟩ = .error report) (record text : String) :
    report.fault ≠ .fieldNotFound record text := by
  obtain ⟨g, hg⟩ := exists_field? hf
  exact Schema.found_of_field? hg (Schema.resolveWrite_eq_error_iff.mp h) record text

theorem misses_of_findMapping (h : r.OwnTargets) {m : FieldMapping} (hm : m ∈ r.mappings)
    {report : Report} (hfailed : schema.findMapping source r m = .failed report)
    {record text : String} (hfault : report.fault = .fieldNotFound record text) :
    ∃ c ∈ m.candidates, c.Misses schema source report := by
  rcases schema.findMapping_cases source r m with
    ⟨-, hfound⟩ | ⟨c, hcandidate, hrest⟩
  · cases hfound.symm.trans hfailed
  · have hc : c ∈ m.candidates := List.mem_of_find?_eq_some hcandidate
    obtain ⟨f, hf, -, hparse, -⟩ := h.target hm
    rcases hrest with ⟨hpath, hfound⟩ | ⟨path, hpath, ⟨hnone, -⟩ | ⟨target, htarget, hfound⟩⟩
    · obtain rfl := Finding.failed.inj (hfound.symm.trans hfailed)
      exact ⟨c, hc, .inl ⟨hpath, rfl⟩⟩
    · cases hnone.symm.trans hparse
    · obtain rfl := Option.some.inj (htarget.symm.trans hparse)
      have hinstruction := Finding.ofExcept_eq_failed (hfound.symm.trans hfailed)
      -- of the source path, the target and their types only the first can miss a field
      rcases Schema.instruction_error hinstruction with hread | hwrite | hother
      · obtain ⟨hrecord, htext⟩ :=
          Schema.notFound_of_resolveFor (Schema.resolveRead_eq_error_iff.mp hread) hfault
        rw [hrecord, htext] at hfault
        exact ⟨c, hc, .inr ⟨path, hpath, hread, hfault⟩⟩
      · exact absurd hfault (found_for_writing hf hwrite record text)
      · exact absurd hfault (hother record text)

theorem found_of_findSameName (h : r.OwnTargets) {f : Field} (hf : f ∈ r.fields) {report : Report}
    (hfailed : Finding.failed report ∈ schema.findSameName source r f) (record text : String) :
    report.fault ≠ .fieldNotFound record text := by
  unfold Schema.findSameName at hfailed
  split at hfailed
  · rename_i hoffers
    rw [(h.names f hf).parse?] at hfailed
    have hinstruction := Finding.ofExcept_eq_failed (List.mem_singleton.mp hfailed).symm
    rcases Schema.instruction_error hinstruction with hread | hwrite | hother
    · have hsource : ∃ g, source.field? f.name = some g := by
        obtain ⟨-, hoffered⟩ := Bool.and_eq_true_iff.mp hoffers
        unfold Schema.offers at hoffered
        split at hoffered
        · rename_i g hg
          exact ⟨g, hg⟩
        · cases hoffered
      obtain ⟨g, hg⟩ := hsource
      exact Schema.found_of_field? hg (Schema.resolveRead_eq_error_iff.mp hread) record text
    · exact found_for_writing hf hwrite record text
    · exact hother record text
  · cases hfailed

/-- Whatever the mode, a resolution that fails for want of a field fails by a candidate. -/
theorem misses_of_resolve (h : r.OwnTargets) {mode : CopyMode} {report : Report}
    (hfailed : (schema.resolve mode source r).result = .error report) {record text : String}
    (hfault : report.fault = .fieldNotFound record text) :
    ∃ m ∈ r.mappings, ∃ c ∈ m.candidates, c.Misses schema source report := by
  rw [Schema.resolve_of_no_stray h.no_stray] at hfailed
  have hmem := Finding.failed_mem_of_collect hfailed
  obtain ⟨f, hf, hfound⟩ := List.mem_flatMap.mp hmem
  have hdeclared : Finding.failed report ∈ schema.findDeclared source r f →
      ∃ m ∈ r.mappings, ∃ c ∈ m.candidates, c.Misses schema source report := by
    intro hmapped
    obtain ⟨m, hm, hfinding⟩ := List.mem_map.mp hmapped
    have hmapping : m ∈ r.mappings := (List.mem_filter.mp hm).1
    obtain ⟨c, hc, hmisses⟩ := h.misses_of_findMapping hmapping hfinding hfault
    exact ⟨m, hmapping, c, hc, hmisses⟩
  have hsame : Finding.failed report ∉ schema.findSameName source r f := by
    intro hsame
    exact h.found_of_findSameName hf hsame record text hfault
  cases mode with
  | annotationDriven => exact hdeclared hfound
  | directCopy => exact absurd hfound hsame
  | all =>
    simp only [Schema.findField] at hfound
    split at hfound
    · exact hdeclared hfound
    · rcases List.mem_append.mp hfound with hfirst | hsecond
      · exact hdeclared hfirst
      · exact absurd hsecond hsame

end RecordType.OwnTargets

end RecordCopy
