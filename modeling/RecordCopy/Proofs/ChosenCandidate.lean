import Mathlib.Data.List.Forall2
import RecordCopy.Proofs.Modes

/-!
# The candidate that is chosen

A mapping may have many candidates, for sources of different types and with paths that lead nowhere.
For one source at most one of them counts: the first one that matches its type.  The others are not
so much as read, so no resolution fails by them.

Whatever a resolution looks at in the destination is therefore told by its name and its fields, and
for each mapping by its target and the candidate chosen.  Destinations that have these in common are
resolved alike, with one log and one answer; a destination without the candidates that are not
chosen is one of them.
-/

namespace RecordCopy

/-! ### Other mappings -/

def RecordType.withMappings (r : RecordType) (mappings : List FieldMapping) : RecordType :=
  { r with mappings := mappings }

@[simp] theorem RecordType.withMappings_name (r : RecordType) (mappings : List FieldMapping) :
    (r.withMappings mappings).name = r.name := rfl

/-- The mapping without any candidates but the first one that matches a source type. -/
def FieldMapping.prunedFor (schema : Schema) (source : RecordType) (m : FieldMapping) :
    FieldMapping :=
  let matching := m.candidates.filter fun c =>
    schema.compatible (some c.source.valueType) (some source.valueType)
  { m with candidates := matching.take 1 }

def RecordType.prunedFor (r : RecordType) (schema : Schema) (source : RecordType) : RecordType :=
  r.withMappings (r.mappings.map (FieldMapping.prunedFor schema source))

namespace Schema

/-- Two mappings are for one target, and for a source type the same candidate of theirs is chosen,
    or none. -/
structure ChoosesAlike (schema : Schema) (source : RecordType) (m m' : FieldMapping) : Prop where
  target : m.target = m'.target
  chosen : schema.candidateFor? source m = schema.candidateFor? source m'

variable {schema : Schema} {source destination : RecordType} {mappings : List FieldMapping}

theorem choosesAlike_prunedFor (schema : Schema) (source : RecordType) (m : FieldMapping) :
    schema.ChoosesAlike source m (m.prunedFor schema source) := by
  refine ⟨rfl, ?_⟩
  unfold candidateFor? FieldMapping.prunedFor
  generalize (fun c : Candidate =>
    schema.compatible (some c.source.valueType) (some source.valueType)) = matching
  -- what is found first is what stands first among all that match
  rw [← List.head?_filter]
  cases hmatching : m.candidates.filter matching with
  | nil => rfl
  | cons c rest =>
    have hc : c ∈ m.candidates.filter matching := by
      rw [hmatching]
      exact List.mem_cons_self
    obtain ⟨-, hmatch⟩ := List.mem_filter.mp hc
    simp [hmatch]

/-! ### Paths -/

/-- Following a path from a record type has nothing to do with its mappings. -/
theorem fieldsAlong_withMappings {path : FieldPath} {use : Use} {owner : Option RecordType}
    {names : List String} :
    schema.fieldsAlong (destination.withMappings mappings) path use owner names =
      schema.fieldsAlong destination path use owner names := by
  induction names generalizing owner with
  | nil => rfl
  | cons name rest ih =>
    simp only [fieldsAlong, ih]
    rfl

theorem resolveFor_withMappings {through last : Use} {path : FieldPath} :
    schema.resolveFor through last (destination.withMappings mappings) path =
      schema.resolveFor through last destination path := by
  have hcontainers : schema.fieldsAlong (destination.withMappings mappings) path through
      (some (destination.withMappings mappings)) path.containers =
        schema.fieldsAlong destination path through (some destination) path.containers := by
    rw [fieldsAlong_withMappings]
    -- no more than the first segment is looked for in the record type itself
    cases path.containers <;> rfl
  unfold resolveFor
  rw [hcontainers]
  cases schema.fieldsAlong destination path through (some destination) path.containers with
  | error report => rfl
  | ok containers => cases containers <;> rfl

theorem instruction_withMappings {sourcePath path : FieldPath} :
    schema.instruction source sourcePath (destination.withMappings mappings) path =
      schema.instruction source sourcePath destination path := by
  simp only [instruction, resolveWrite, resolveFor_withMappings]

/-! ### Mappings -/

theorem findMapping_withMappings {m m' : FieldMapping} (h : schema.ChoosesAlike source m m') :
    schema.findMapping source (destination.withMappings mappings) m' =
      schema.findMapping source destination m := by
  unfold findMapping
  rw [← h.chosen, ← h.target]
  simp only [instruction_withMappings, RecordType.withMappings_name]

theorem findDeclared_withMappings
    (h : List.Forall₂ (schema.ChoosesAlike source) destination.mappings mappings) (f : Field) :
    schema.findDeclared source (destination.withMappings mappings) f =
      schema.findDeclared source destination f := by
  have hall : ∀ ms ms' : List FieldMapping, List.Forall₂ (schema.ChoosesAlike source) ms ms' →
      (ms'.filter fun m => decide (m.targetRoot? = some f.name)).map
          (schema.findMapping source (destination.withMappings mappings)) =
        (ms.filter fun m => decide (m.targetRoot? = some f.name)).map
          (schema.findMapping source destination) := by
    intro ms ms' hms
    induction hms with
    | nil => simp only [List.filter_nil, List.map_nil]
    | @cons m m' ms ms' hm _ ih =>
      have hroot : m'.targetRoot? = m.targetRoot? := by
        unfold FieldMapping.targetRoot?
        rw [hm.target]
      by_cases hfor : m.targetRoot? = some f.name
      · simp [hroot, hfor, ih, findMapping_withMappings hm]
      · simp [hroot, hfor, ih]
  exact hall _ _ h

theorem map_target_strayMapping? (destination : RecordType) :
    (strayMapping? destination).map FieldMapping.target =
      (destination.mappings.map FieldMapping.target).find? fun target =>
        ((FieldPath.segment? (Text.cut '.' target.toList).1).bind destination.field?).isNone := by
  rw [List.find?_map]
  rfl

theorem map_target_of_choosesAlike {ms ms' : List FieldMapping}
    (h : List.Forall₂ (schema.ChoosesAlike source) ms ms') :
    ms.map FieldMapping.target = ms'.map FieldMapping.target := by
  induction h with
  | nil => rfl
  | cons hm _ ih => rw [List.map_cons, List.map_cons, hm.target, ih]

/-! ### Resolutions -/

theorem findField_withMappings
    (h : List.Forall₂ (schema.ChoosesAlike source) destination.mappings mappings) (mode : CopyMode)
    (f : Field) : schema.findField mode source (destination.withMappings mappings) f =
      schema.findField mode source destination f := by
  have hsame : schema.findSameName source (destination.withMappings mappings) f =
      schema.findSameName source destination f := by
    simp only [findSameName, instruction_withMappings, RecordType.withMappings_name]
  cases mode with
  | annotationDriven => exact findDeclared_withMappings h f
  | directCopy => exact hsame
  | all => simp only [findField, findDeclared_withMappings h, hsame]

theorem findings_withMappings
    (h : List.Forall₂ (schema.ChoosesAlike source) destination.mappings mappings)
    (mode : CopyMode) : schema.findings mode source (destination.withMappings mappings) =
      schema.findings mode source destination := by
  have hfields : (destination.withMappings mappings).fields.flatMap
      (schema.findField mode source (destination.withMappings mappings)) =
        destination.fields.flatMap (schema.findField mode source destination) := by
    apply List.flatMap_congr
    intro f _
    exact findField_withMappings h mode f
  have hstray : (strayMapping? (destination.withMappings mappings)).map FieldMapping.target =
      (strayMapping? destination).map FieldMapping.target := by
    rw [map_target_strayMapping?, map_target_strayMapping?, map_target_of_choosesAlike h]
    rfl
  unfold findings
  cases hfirst : strayMapping? destination with
  | none =>
    rw [hfirst, Option.map_none, Option.map_eq_none_iff] at hstray
    rw [hstray]
    cases mode <;> exact hfields
  | some m =>
    rw [hfirst, Option.map_some, Option.map_eq_some_iff] at hstray
    obtain ⟨m', hfirst', htarget⟩ := hstray
    have hreport : strayTarget (destination.withMappings mappings) m' =
        strayTarget destination m := by
      unfold strayTarget
      rw [htarget]
      rfl
    rw [hfirst']
    cases mode with
    | annotationDriven | all => exact congrArg (fun report => [Finding.failed report]) hreport
    | directCopy => exact hfields

/-- Only the candidates that are chosen matter.  In every mode, a destination without the others is
    resolved as the destination is, to the same instructions or the same failure, and with the same
    log; and so is one that has, for the same targets, any other candidates among which the same are
    chosen. -/
theorem resolve_chosen (schema : Schema) (mode : CopyMode) (source destination : RecordType) :
    schema.resolve mode source (destination.prunedFor schema source) =
        schema.resolve mode source destination ∧
      ∀ mappings, List.Forall₂ (schema.ChoosesAlike source) destination.mappings mappings →
        schema.resolve mode source (destination.withMappings mappings) =
          schema.resolve mode source destination := by
  have halike : ∀ mappings,
      List.Forall₂ (schema.ChoosesAlike source) destination.mappings mappings →
        schema.resolve mode source (destination.withMappings mappings) =
          schema.resolve mode source destination := by
    intro mappings h
    rw [resolve, findings_withMappings h]
    rfl
  refine ⟨halike _ ?_, halike⟩
  rw [List.forall₂_map_right_iff, List.forall₂_same]
  intro m _
  exact schema.choosesAlike_prunedFor source m

end Schema

end RecordCopy
