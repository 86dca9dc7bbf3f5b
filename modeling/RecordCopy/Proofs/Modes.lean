import RecordCopy.Correspondence
import RecordCopy.Proofs.Resolution

/-!
# How the copy modes agree

The mode that takes declared mappings first is made of the other two, field by field:
where the mappings of a field yield instructions, it has exactly these, and elsewhere
what equal names yield.  With all findings in order the lists of the fields come one after
the other, so agreement on every field carries over to whole record types; so does the
first failure, provided that equal names never fail on a field before it.
-/

namespace RecordCopy

/-! ### What findings come to -/

namespace Finding

/-- Findings in a row come to what the first of them come to, unless these fail. -/
theorem result_collect_append (first rest : List Finding) :
    (collect (first ++ rest)).result = match (collect first).result with
      | .error report => .error report
      | .ok found => (collect rest).result.map (found ++ ·) := by
  induction first with
  | nil => cases h : (collect rest).result <;> simp [collect, h, Except.map]
  | cons finding first ih =>
    cases finding with
    | failed report => rfl
    | unmapped source destination target => exact ih
    | resolved instruction =>
      simp only [List.cons_append, collect, ih]
      cases (collect first).result with
      | error report => rfl
      | ok found => cases (collect rest).result <;> rfl

/-- Nothing is found exactly where no candidate matches. -/
theorem result_collect_eq_nil_iff {found : List Finding} :
    (collect found).result = .ok [] ↔ found.any Finding.covers = false := by
  induction found with
  | nil => simp [collect]
  | cons finding rest ih =>
    cases finding with
    | failed report => simp [collect, covers]
    | unmapped source destination target => simpa [collect, covers] using ih
    | resolved instruction =>
      simp only [collect, List.any_cons, covers, Bool.true_or]
      cases (collect rest).result <;> simp [Except.map]

theorem failed_mem_of_collect {found : List Finding} {report : Report}
    (h : (collect found).result = .error report) : Finding.failed report ∈ found := by
  induction found with
  | nil => cases h
  | cons finding rest ih =>
    cases finding with
    | failed raised =>
      obtain rfl := Except.error.inj h
      exact List.mem_cons_self
    | unmapped source destination target => exact List.mem_cons_of_mem _ (ih h)
    | resolved instruction =>
      simp only [collect] at h
      cases hrest : (collect rest).result with
      | error raised =>
        rw [hrest] at h
        obtain rfl := Except.error.inj h
        exact List.mem_cons_of_mem _ (ih hrest)
      | ok others =>
        rw [hrest] at h
        cases h

theorem ofExcept_eq_failed {result : Except Report Instruction} {report : Report}
    (h : ofExcept result = .failed report) : result = .error report := by
  cases result with
  | ok found => cases h
  | error raised =>
    cases h
    rfl

/-! ### Over all fields -/

variable {fields : List Field} {found more : Field → List Finding}

theorem result_collect_flatMap {lists : Field → List Instruction}
    (h : ∀ f ∈ fields, (collect (found f)).result = .ok (lists f)) :
    (collect (fields.flatMap found)).result = .ok (fields.flatMap lists) := by
  induction fields with
  | nil => rfl
  | cons f fields ih =>
    have hrest := ih fun g hg => h g (List.mem_cons_of_mem _ hg)
    rw [List.flatMap_cons, List.flatMap_cons, result_collect_append, h f List.mem_cons_self, hrest]
    rfl

/-- All findings are in order when they are so field by field. -/
theorem exists_result_collect_flatMap_iff :
    (∃ list, (collect (fields.flatMap found)).result = .ok list) ↔
      ∀ f ∈ fields, ∃ part, (collect (found f)).result = .ok part := by
  induction fields with
  | nil => exact ⟨fun _ f hf => absurd hf List.not_mem_nil, fun _ => ⟨[], rfl⟩⟩
  | cons f fields ih =>
    rw [List.forall_mem_cons, ← ih, List.flatMap_cons, result_collect_append]
    cases (collect (found f)).result with
    | error report => simp
    | ok part => cases (collect (fields.flatMap found)).result <;> simp [Except.map]

/-- The first failure stays the first one when nothing else comes to fail. -/
theorem result_collect_flatMap_error {report : Report}
    (hfailed : ∀ f ∈ fields, ∀ r, (collect (found f)).result = .error r →
      (collect (more f)).result = .error r)
    (hok : ∀ f ∈ fields, ∀ part, (collect (found f)).result = .ok part →
      ∃ other, (collect (more f)).result = .ok other)
    (h : (collect (fields.flatMap found)).result = .error report) :
    (collect (fields.flatMap more)).result = .error report := by
  induction fields with
  | nil => cases h
  | cons f fields ih =>
    rw [List.flatMap_cons, result_collect_append] at h ⊢
    cases hf : (collect (found f)).result with
    | error r =>
      rw [hf] at h
      rw [hfailed f List.mem_cons_self r hf]
      exact h
    | ok part =>
      rw [hf] at h
      obtain ⟨other, hother⟩ := hok f List.mem_cons_self part hf
      rw [hother]
      cases hrest : (collect (fields.flatMap found)).result with
      | ok others =>
        rw [hrest] at h
        cases h
      | error r =>
        rw [hrest] at h
        have hmore := ih (fun g hg => hfailed g (List.mem_cons_of_mem _ hg))
          (fun g hg => hok g (List.mem_cons_of_mem _ hg)) (hrest.trans h)
        rw [hmore]
        rfl

end Finding

namespace Schema

variable {schema : Schema} {source destination : RecordType}

/-! ### One mapping -/

/-- All that a mapping can come to. -/
theorem findMapping_cases (schema : Schema) (source destination : RecordType) (m : FieldMapping) :
    schema.candidateFor? source m = none ∧
        schema.findMapping source destination m =
          .unmapped source.name destination.name m.target ∨
      ∃ c, schema.candidateFor? source m = some c ∧
        (c.sourcePath? = none ∧ schema.findMapping source destination m =
            .failed (.of (.fieldNotFound source.name c.effectivePath)) ∨
          ∃ sourcePath, c.sourcePath? = some sourcePath ∧
            (FieldPath.parse? m.target = none ∧ schema.findMapping source destination m =
                .failed (.of (.fieldNotFound destination.name m.target)) ∨
              ∃ target, FieldPath.parse? m.target = some target ∧
                schema.findMapping source destination m =
                  .ofExcept (schema.instruction source sourcePath destination target))) := by
  unfold findMapping
  cases hcandidate : schema.candidateFor? source m with
  | none => exact .inl ⟨rfl, rfl⟩
  | some c =>
    refine .inr ⟨c, rfl, ?_⟩
    cases hsource : c.sourcePath? with
    | none => exact .inl ⟨rfl, by simp only [hsource]⟩
    | some sourcePath =>
      refine .inr ⟨sourcePath, rfl, ?_⟩
      cases htarget : FieldPath.parse? m.target with
      | none => exact .inl ⟨rfl, by simp only [hsource]⟩
      | some target => exact .inr ⟨target, rfl, by simp only [hsource]⟩

/-! ### One field -/

/-- The instructions that a mode finds for one field of the destination. -/
def fieldInstructions (schema : Schema) (mode : CopyMode) (source destination : RecordType)
    (f : Field) : Except Report (List Instruction) :=
  (Finding.collect (schema.findField mode source destination f)).result

/-- Declared instructions win; a field without any is copied by its name. -/
theorem fieldInstructions_all (f : Field) : schema.fieldInstructions .all source destination f =
    match schema.fieldInstructions .annotationDriven source destination f with
    | .error report => .error report
    | .ok [] => schema.fieldInstructions .directCopy source destination f
    | .ok (i :: rest) => .ok (i :: rest) := by
  unfold fieldInstructions
  simp only [findField]
  cases hcovers : (schema.findDeclared source destination f).any Finding.covers with
  | true =>
    simp only [if_true]
    cases hdeclared : (Finding.collect (schema.findDeclared source destination f)).result with
    | error report => rfl
    | ok list =>
      cases list with
      | nil =>
        rw [Finding.result_collect_eq_nil_iff.mp hdeclared] at hcovers
        cases hcovers
      | cons i rest => rfl
  | false =>
    have hnone := Finding.result_collect_eq_nil_iff.mpr hcovers
    simp only [Bool.false_eq_true, if_false, Finding.result_collect_append, hnone]
    cases (Finding.collect (schema.findSameName source destination f)).result <;> rfl

theorem fieldInstructions_all_eq_ok {f : Field} {part : List Instruction}
    (h : schema.fieldInstructions .all source destination f = .ok part) :
    ∃ declared, schema.fieldInstructions .annotationDriven source destination f = .ok declared ∧
      (declared = [] ∧ schema.fieldInstructions .directCopy source destination f = .ok part ∨
        declared ≠ [] ∧ part = declared) := by
  rw [fieldInstructions_all] at h
  cases hdeclared : schema.fieldInstructions .annotationDriven source destination f with
  | error report =>
    rw [hdeclared] at h
    cases h
  | ok declared =>
    rw [hdeclared] at h
    cases declared with
    | nil => exact ⟨[], rfl, .inl ⟨rfl, h⟩⟩
    | cons i rest => exact ⟨i :: rest, rfl, .inr ⟨List.cons_ne_nil i rest, (Except.ok.inj h).symm⟩⟩

/-! ### All fields -/

theorem resolve_directCopy : schema.resolve .directCopy source destination = Finding.collect
    (destination.fields.flatMap (schema.findField .directCopy source destination)) := by
  unfold resolve findings
  cases strayMapping? destination <;> rfl

/-- No mapping is stray exactly if each is rooted at a field. -/
theorem strayMapping?_eq_none_iff : strayMapping? destination = none ↔
    ∀ m ∈ destination.mappings, ∃ f ∈ destination.fields, m.targetRoot? = some f.name := by
  unfold strayMapping?
  rw [List.find?_eq_none]
  refine forall₂_congr ?_
  intro m _
  rw [Bool.not_eq_true, Option.isNone_eq_false_iff, Option.isSome_iff_exists]
  constructor
  · rintro ⟨f, hf⟩
    obtain ⟨name, hroot, hfield⟩ := Option.bind_eq_some_iff.mp hf
    obtain ⟨-, hmem, rfl⟩ := RecordType.field?_eq_some hfield
    exact ⟨f.field, List.mem_of_getElem? hmem, hroot⟩
  · rintro ⟨f, hf, hroot⟩
    obtain ⟨g, hg⟩ := RecordType.exists_field? hf
    refine ⟨g, ?_⟩
    rw [hroot, Option.bind_some, hg]

theorem resolve_of_stray (schema : Schema) (source : RecordType) {m : FieldMapping}
    (h : strayMapping? destination = some m) :
    (schema.resolve .annotationDriven source destination).result =
        .error (strayTarget destination m) ∧
      (schema.resolve .all source destination).result = .error (strayTarget destination m) := by
  simp only [resolve, findings, h]
  exact ⟨rfl, rfl⟩

theorem resolve_of_no_stray (h : strayMapping? destination = none) (mode : CopyMode) :
    schema.resolve mode source destination = Finding.collect
      (destination.fields.flatMap (schema.findField mode source destination)) := by
  unfold resolve findings
  rw [h]
  cases mode <;> rfl

/-- A type without mappings has nothing declared for any field. -/
theorem findDeclared_of_no_mappings (h : destination.mappings = []) (f : Field) :
    schema.findDeclared source destination f = [] := by
  simp [findDeclared, RecordType.mappingsFor, h]

/-- What the mode of declared mappings first finds, the mode of declared mappings finds
    too, and the rest comes of equal names. -/
theorem resolve_all_eq_ok {list : List Instruction}
    (h : (schema.resolve .all source destination).result = .ok list) :
    ∃ declared sameName : Field → List Instruction,
      (∀ f ∈ destination.fields, schema.fieldInstructions .annotationDriven source destination f =
        .ok (declared f)) ∧
      (∀ f ∈ destination.fields, declared f = [] →
        schema.fieldInstructions .directCopy source destination f = .ok (sameName f)) ∧
      (schema.resolve .annotationDriven source destination).result =
        .ok (destination.fields.flatMap declared) ∧
      list = destination.fields.flatMap fun f =>
        if declared f = [] then sameName f else declared f := by
  cases hstray : strayMapping? destination with
  | some m =>
    rw [(resolve_of_stray schema source hstray).2] at h
    cases h
  | none =>
    let found (mode : CopyMode) (f : Field) : List Instruction :=
      (schema.fieldInstructions mode source destination f).toOption.getD []
    have hfound : ∀ {mode f part}, schema.fieldInstructions mode source destination f = .ok part →
        schema.fieldInstructions mode source destination f = .ok (found mode f) := by
      intro mode f part hpart
      simp only [found, hpart, Except.toOption, Option.getD_some]
    rw [resolve_of_no_stray hstray] at h
    have hparts := Finding.exists_result_collect_flatMap_iff.mp ⟨list, h⟩
    have hannotated : ∀ f ∈ destination.fields,
        schema.fieldInstructions .annotationDriven source destination f =
          .ok (found .annotationDriven f) := by
      intro f hf
      obtain ⟨part, hpart⟩ := hparts f hf
      obtain ⟨declared, hdeclared, -⟩ := fieldInstructions_all_eq_ok hpart
      exact hfound hdeclared
    have hdirect : ∀ f ∈ destination.fields, found .annotationDriven f = [] →
        schema.fieldInstructions .directCopy source destination f = .ok (found .directCopy f) := by
      intro f hf hnone
      obtain ⟨part, hpart⟩ := hparts f hf
      obtain ⟨declared, hdeclared, ⟨-, hsame⟩ | ⟨hsome, -⟩⟩ := fieldInstructions_all_eq_ok hpart
      · exact hfound hsame
      · rw [hannotated f hf] at hdeclared
        exact absurd ((Except.ok.inj hdeclared).symm.trans hnone) hsome
    have hall : ∀ f ∈ destination.fields, schema.fieldInstructions .all source destination f =
        .ok (if found .annotationDriven f = [] then found .directCopy f
          else found .annotationDriven f) := by
      intro f hf
      split
      · rename_i hnone
        rw [fieldInstructions_all, hannotated f hf, hnone]
        exact hdirect f hf hnone
      · rename_i hsome
        rw [fieldInstructions_all, hannotated f hf]
        cases hdeclared : found .annotationDriven f with
        | nil => exact absurd hdeclared hsome
        | cons i rest => rfl
    refine ⟨found .annotationDriven, found .directCopy, hannotated, hdirect, ?_, ?_⟩
    · rw [resolve_of_no_stray hstray]
      exact Finding.result_collect_flatMap hannotated
    · exact Except.ok.inj (h.symm.trans (Finding.result_collect_flatMap hall))

/-- Where equal names never fail, a field fails only by its mappings. -/
theorem exists_fieldInstructions_all {f : Field} {declared sameName : List Instruction}
    (hdeclared : schema.fieldInstructions .annotationDriven source destination f = .ok declared)
    (hsame : schema.fieldInstructions .directCopy source destination f = .ok sameName) :
    ∃ part, schema.fieldInstructions .all source destination f = .ok part := by
  rw [fieldInstructions_all, hdeclared]
  cases declared with
  | nil => exact ⟨sameName, hsame⟩
  | cons i rest => exact ⟨i :: rest, rfl⟩

/-- The failure of a declared mapping is the failure of both modes that look at it. -/
theorem resolve_all_eq_error {report : Report} {list : List Instruction}
    (hannotated : (schema.resolve .annotationDriven source destination).result = .error report)
    (hdirect : (schema.resolve .directCopy source destination).result = .ok list) :
    (schema.resolve .all source destination).result = .error report := by
  cases hstray : strayMapping? destination with
  | some m =>
    obtain ⟨hfirst, hsecond⟩ := resolve_of_stray schema source hstray
    rw [hsecond, ← hfirst, hannotated]
  | none =>
    rw [resolve_of_no_stray hstray] at hannotated ⊢
    rw [resolve_directCopy] at hdirect
    have hsame := Finding.exists_result_collect_flatMap_iff.mp ⟨list, hdirect⟩
    refine Finding.result_collect_flatMap_error ?_ ?_ hannotated
    · intro f _ r hr
      change schema.fieldInstructions .annotationDriven source destination f = .error r at hr
      change schema.fieldInstructions .all source destination f = .error r
      rw [fieldInstructions_all, hr]
    · intro f hf part hpart
      obtain ⟨sameName, hsameName⟩ := hsame f hf
      exact exists_fieldInstructions_all hpart hsameName

theorem exists_resolve_all {declared sameName : List Instruction}
    (hannotated : (schema.resolve .annotationDriven source destination).result = .ok declared)
    (hdirect : (schema.resolve .directCopy source destination).result = .ok sameName) :
    ∃ list, (schema.resolve .all source destination).result = .ok list := by
  cases hstray : strayMapping? destination with
  | some m =>
    rw [(resolve_of_stray schema source hstray).1] at hannotated
    cases hannotated
  | none =>
    rw [resolve_of_no_stray hstray] at hannotated ⊢
    rw [resolve_directCopy] at hdirect
    have hdeclared := Finding.exists_result_collect_flatMap_iff.mp ⟨declared, hannotated⟩
    have hsame := Finding.exists_result_collect_flatMap_iff.mp ⟨sameName, hdirect⟩
    rw [Finding.exists_result_collect_flatMap_iff]
    intro f hf
    obtain ⟨declaredPart, hdeclaredPart⟩ := hdeclared f hf
    obtain ⟨samePart, hsamePart⟩ := hsame f hf
    exact exists_fieldInstructions_all hdeclaredPart hsamePart

/-- Without mappings, not even the logs of the two modes differ. -/
theorem resolve_all_of_no_mappings (h : destination.mappings = []) :
    schema.resolve .all source destination = schema.resolve .directCopy source destination := by
  have hstray : strayMapping? destination = none := by simp [strayMapping?, h]
  have hfield : schema.findField .all source destination =
      schema.findField .directCopy source destination := by
    funext f
    simp [findField, findDeclared_of_no_mappings h]
  rw [resolve_of_no_stray hstray, resolve_of_no_stray hstray, hfield]

/-- The three modes agree.  The combined list is made field by field of the declared
    instructions and, where there are none, of what equal names yield; it is there when the
    other two are; a failure of declared mappings alone is its failure; and without any
    mappings it is the list of equal names, or their failure. -/
theorem resolve_modes_agree (schema : Schema) (source destination : RecordType) :
    (∀ list, (schema.resolve .all source destination).result = .ok list →
      ∃ declared sameName : Field → List Instruction,
        (∀ f ∈ destination.fields,
          schema.fieldInstructions .annotationDriven source destination f = .ok (declared f)) ∧
        (∀ f ∈ destination.fields, declared f = [] →
          schema.fieldInstructions .directCopy source destination f = .ok (sameName f)) ∧
        (schema.resolve .annotationDriven source destination).result =
          .ok (destination.fields.flatMap declared) ∧
        list = destination.fields.flatMap fun f =>
          if declared f = [] then sameName f else declared f) ∧
    (∀ declared sameName,
      (schema.resolve .annotationDriven source destination).result = .ok declared →
      (schema.resolve .directCopy source destination).result = .ok sameName →
      ∃ list, (schema.resolve .all source destination).result = .ok list) ∧
    (∀ report sameName,
      (schema.resolve .annotationDriven source destination).result = .error report →
      (schema.resolve .directCopy source destination).result = .ok sameName →
      (schema.resolve .all source destination).result = .error report) ∧
    (destination.mappings = [] → (schema.resolve .all source destination).result =
      (schema.resolve .directCopy source destination).result) := by
  refine ⟨fun list h => resolve_all_eq_ok h, fun declared sameName => exists_resolve_all,
    fun report sameName => resolve_all_eq_error, ?_⟩
  intro h
  rw [resolve_all_of_no_mappings h]

end Schema

end RecordCopy
