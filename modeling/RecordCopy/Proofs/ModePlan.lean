import RecordCopy.Proofs.Delivery
import RecordCopy.Proofs.Modes
import RecordCopy.Proofs.OncePerPair

/-!
# The plans of the copy modes

Whatever mode is chosen, each instruction it finds is made for the two types at hand: its
source path was resolved for reading on the one, and its destination path for writing on the
other.  And a plan that a copier of the mode hands out for two declared types is compiled from
what the mode finds between them, however many requests went before.

So a fact about all instructions that are made for two types is a fact about what copiers do.
-/

namespace RecordCopy

/-! ### What is found is made -/

theorem Finding.resolved_mem_of_collect {found : List Finding} {list : List Instruction}
    (h : (collect found).result = .ok list) {i : Instruction} (hi : i ∈ list) :
    Finding.resolved i ∈ found := by
  induction found generalizing list with
  | nil =>
    cases h
    cases hi
  | cons finding rest ih =>
    cases finding with
    | failed report => cases h
    | unmapped source destination target => exact List.mem_cons_of_mem _ (ih h hi)
    | resolved first =>
      obtain ⟨others, hrest, rfl⟩ := exists_eq_ok_of_map h
      rcases List.mem_cons.mp hi with rfl | hother
      · exact List.mem_cons_self
      · exact List.mem_cons_of_mem _ (ih hrest hother)

theorem Finding.ofExcept_eq_resolved {result : Except Report Instruction} {i : Instruction}
    (h : Finding.ofExcept result = .resolved i) : result = .ok i := by
  cases result with
  | error report => cases h
  | ok found =>
    cases h
    rfl

namespace Schema

variable {schema : Schema} {s d : RecordType} {i : Instruction}

theorem instruction_eq_ok {sourcePath destinationPath : FieldPath}
    (h : schema.instruction s sourcePath d destinationPath = .ok i) :
    schema.resolveRead s sourcePath = .ok i.source ∧
      schema.resolveWrite d destinationPath = .ok i.destination ∧
      schema.pair i.source i.destination = .ok i := by
  unfold instruction at h
  split at h
  · cases h
  · rename_i reading hreading
    split at h
    · cases h
    · rename_i writing hwriting
      have hpair : i = ⟨reading, writing⟩ := by
        unfold pair at h
        split at h
        · exact (Except.ok.inj h).symm
        · cases h
      subst hpair
      exact ⟨hreading, hwriting, h⟩

theorem made_of_instruction {sourcePath destinationPath : FieldPath}
    (h : schema.instruction s sourcePath d destinationPath = .ok i) : schema.Made s d i := by
  obtain ⟨hreading, hwriting, hpair⟩ := instruction_eq_ok h
  obtain ⟨-, rfl, -⟩ := resolveFor_eq_ok_iff.mp (resolveRead_eq_ok_iff.mp hreading)
  obtain ⟨-, rfl, -⟩ := resolveFor_eq_ok_iff.mp (resolveWrite_eq_ok_iff.mp hwriting)
  exact ⟨hreading, hwriting, hpair⟩

/-- What a mapping comes to is an instruction only if one was made. -/
theorem made_of_findMapping {m : FieldMapping} (h : schema.findMapping s d m = .resolved i) :
    schema.Made s d i := by
  rcases findMapping_cases schema s d m with
    ⟨-, hfound⟩ | ⟨c, -, ⟨-, hfound⟩ | ⟨sourcePath, -, ⟨-, hfound⟩ | ⟨target, -, hfound⟩⟩⟩
  · cases hfound.symm.trans h
  · cases hfound.symm.trans h
  · cases hfound.symm.trans h
  · exact made_of_instruction (Finding.ofExcept_eq_resolved (hfound.symm.trans h))

theorem made_of_mem_findDeclared {f : Field} (h : Finding.resolved i ∈ schema.findDeclared s d f) :
    schema.Made s d i := by
  obtain ⟨m, -, hm⟩ := List.mem_map.mp h
  exact made_of_findMapping hm

theorem made_of_mem_findSameName {f : Field} (h : Finding.resolved i ∈ schema.findSameName s d f) :
    schema.Made s d i := by
  unfold findSameName at h
  split at h
  · split at h
    · cases List.mem_singleton.mp h
    · exact made_of_instruction (Finding.ofExcept_eq_resolved (List.mem_singleton.mp h).symm)
  · cases h

theorem made_of_mem_findField {mode : CopyMode} {f : Field}
    (h : Finding.resolved i ∈ schema.findField mode s d f) : schema.Made s d i := by
  cases mode with
  | annotationDriven => exact made_of_mem_findDeclared h
  | directCopy =>
    simp only [findField] at h
    exact made_of_mem_findSameName h
  | all =>
    simp only [findField] at h
    split at h
    · exact made_of_mem_findDeclared h
    · rcases List.mem_append.mp h with hdeclared | hsame
      · exact made_of_mem_findDeclared hdeclared
      · exact made_of_mem_findSameName hsame

/-- Every instruction that a mode finds is made for the two types. -/
theorem made_of_mem_resolve {mode : CopyMode} {list : List Instruction}
    (h : (schema.resolve mode s d).result = .ok list) (hi : i ∈ list) : schema.Made s d i := by
  have hmem : Finding.resolved i ∈ schema.findings mode s d :=
    Finding.resolved_mem_of_collect h hi
  have hfields : Finding.resolved i ∈ d.fields.flatMap (schema.findField mode s d) := by
    unfold findings at hmem
    split at hmem
    · cases List.mem_singleton.mp hmem
    · cases List.mem_singleton.mp hmem
    · exact hmem
  obtain ⟨f, -, hf⟩ := List.mem_flatMap.mp hfields
  exact made_of_mem_findField hf

end Schema

/-! ### What a copier of a mode hands out -/

/-- The request is about record types of the schema. -/
def Request.Within (schema : Schema) (q : Request) : Prop :=
  schema.Declares q.types.1 ∧ schema.Declares q.types.2

namespace Copier

variable {schema : Schema} {mode : CopyMode} {history : List Request} {s d : RecordType}

/-- Whatever was asked before, the answer about two declared types is what becomes of the
    instructions or the fault that the mode finds between them. -/
theorem answer_ofMode (hhistory : ∀ q ∈ history, q.Within schema) (hs : schema.Declares s)
    (hd : schema.Declares d) :
    let c := ((Copier.ofMode schema mode).serveAll schema history).1
    ((c.plan s d).answer.mapError Report.fault).map SharedPlan.plan =
      (PlanCache.settle s d (.returned (schema.resolve mode s d).result)).mapError
        Report.fault := by
  intro c
  have htidy : c.cache.Tidy (Resolver.ofMode schema mode) () (asked history) :=
    tidy_start_serveAll schema _ () history
  have hkept := PlanCache.kept?_get c.cache s d
  obtain ⟨before, types, later, hasked, hnames, -, houtcome⟩ :=
    (htidy.get s d).first _ _ (PlanCache.mem_slots_of_kept? hkept)
  -- a request about types of these two names is about these two types
  have htypes : types = (s, d) := by
    obtain ⟨hsource, hdestination⟩ := Prod.mk.inj hnames
    have hmem : types ∈ asked history ++ [(s, d)] := by simp [hasked]
    have hdeclared : schema.Declares types.1 ∧ schema.Declares types.2 := by
      rcases List.mem_append.mp hmem with hold | hnew
      · obtain ⟨q, hq, rfl⟩ := List.mem_map.mp hold
        exact hhistory q (List.mem_of_mem_filter hq)
      · rw [List.mem_singleton.mp hnew]
        exact ⟨hs, hd⟩
    exact Prod.ext (hdeclared.1.eq_of_name hs hsource) (hdeclared.2.eq_of_name hd hdestination)
  subst htypes
  exact houtcome

/-- The plan of a mode for two declared types is compiled from what the mode finds between
    them. -/
theorem plan_ofMode {shared : SharedPlan} (hhistory : ∀ q ∈ history, q.Within schema)
    (hs : schema.Declares s) (hd : schema.Declares d)
    (h : (((Copier.ofMode schema mode).serveAll schema history).1.plan s d).answer = .ok shared) :
    ∃ list, (schema.resolve mode s d).result = .ok list ∧
      shared.plan = Plan.compile s d list := by
  have hanswer := @answer_ofMode schema mode history s d hhistory hs hd
  simp only [h] at hanswer
  cases hresult : (schema.resolve mode s d).result with
  | error report =>
    rw [hresult] at hanswer
    cases hanswer
  | ok list =>
    rw [hresult] at hanswer
    exact ⟨list, rfl, Except.ok.inj hanswer⟩

/-- A copier of a mode carries out the instructions that the mode finds, or it finds a fault
    and touches nothing. -/
theorem map_ofMode (hhistory : ∀ q ∈ history, q.Within schema) (hs : schema.Declares s)
    (hd : schema.Declares d) (source : Value) (target : Target) :
    let c := ((Copier.ofMode schema mode).serveAll schema history).1
    let mapped := c.map schema source s target d
    (∃ list, (schema.resolve mode s d).result = .ok list ∧
      (mapped.target, mapped.result) = Composition.runAll schema.copy source list target) ∨
    (∃ raised, (schema.resolve mode s d).result = .error raised) ∧ mapped.target = target ∧
      ∃ report, mapped.result = .error report := by
  intro c mapped
  have hcopied := c.map_copiedFrom schema source s target d
  cases hanswer : (c.plan s d).answer with
  | ok shared =>
    rw [hanswer] at hcopied
    obtain ⟨list, hlist, hplan⟩ := plan_ofMode hhistory hs hd hanswer
    refine .inl ⟨list, hlist, ?_⟩
    rw [← Schema.execute_compile schema s d, ← hplan]
    exact hcopied
  | error report =>
    rw [hanswer] at hcopied
    obtain ⟨htarget, other, hother, -⟩ := hcopied
    refine .inr ⟨?_, htarget, other, hother⟩
    have hfound : ((c.plan s d).answer.mapError Report.fault).map SharedPlan.plan = _ :=
      answer_ofMode hhistory hs hd
    rw [hanswer] at hfound
    cases hresult : (schema.resolve mode s d).result with
    | error raised => exact ⟨raised, rfl⟩
    | ok list =>
      rw [hresult] at hfound
      cases hfound

end Copier

end RecordCopy
