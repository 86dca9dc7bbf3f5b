import RecordCopy.Proofs.Frame
import RecordCopy.Proofs.InOrder
import RecordCopy.Proofs.OncePerPair

/-!
# What an error says about its stage

A checked copy goes through three stages: both instances are checked, the plan for their
types is looked up or compiled, and the plan is carried out.  Each stage has kinds of faults
of its own, so the fault of an error tells how far the copy got and what it left behind.

A resolver may report any fault whatever and may break off.  That the stages stay apart is
due to the cache, which keeps faults of resolution only (`PlanCache.Tidy.isResolution`), and to
plans, which fail in two ways only (`Schema.isExecution_of_run`).
-/

namespace RecordCopy

/-- Found while a plan is carried out. -/
def Fault.isExecution : Fault → Bool
  | .missingContainer .. | .unassignableValue .. => true
  | .fieldNotFound .. | .incompatibleFieldTypes .. | .accessDenied .. | .constructionFailed ..
  | .compilationFailed .. | .typeMismatch .. | .invalidConfiguration .. => false

/-- No fault is found both before any value is touched and while a plan is carried out. -/
theorem Fault.isExecution_of_isResolution {f : Fault} (h : f.isResolution = true) :
    f.isExecution = false := by
  cases f <;> first | rfl | cases h

/-! ### Carrying out a plan -/

theorem Composition.exists_error_of_runAll {α σ δ ε : Type}
    {perform : α → σ → δ → δ × Except ε Unit} {source : σ} {operations : List α} {state : δ} {e : ε}
    (h : (runAll perform source operations state).2 = .error e) :
    ∃ operation ∈ operations, ∃ before, (perform operation source before).2 = .error e := by
  obtain ⟨before, m, rest, hmet, -, hm⟩ := runAll_eq_error_iff.mp h
  refine ⟨m.1, ?_, m.2, hm⟩
  rw [← map_fst_met perform source operations state, hmet]
  exact List.mem_map_of_mem (List.mem_append_right before List.mem_cons_self)

namespace Schema

variable {schema : Schema}

theorem isExecution_of_copy {i : Instruction} {source : Value} {target : Target} {report : Report}
    (h : (schema.copy i source target).2 = .error report) : report.fault.isExecution = true := by
  unfold copy at h
  split at h
  · cases h
    rfl
  · split at h
    · cases h
      rfl
    · split at h
      · cases h
      · cases h
        rfl

/-- A plan fails for want of a container or of a fitting value, and in no other way. -/
theorem isExecution_of_run {plan : Plan} {source : Value} {target : Target} {report : Report}
    (h : (schema.execute plan source target).2 = .error report) :
    report.fault.isExecution = true := by
  unfold execute at h
  rw [Composition.run_eq_runAll] at h
  obtain ⟨i, -, before, hcopy⟩ := Composition.exists_error_of_runAll h
  exact isExecution_of_copy hcopy

end Schema

/-! ### What is kept -/

namespace PlanCache

variable {σ : Type}

/-- Whatever a resolver answers, a failure that comes of it is one of resolution. -/
theorem isResolution_of_settle {s d : RecordType} {answer : Answer} {report : Report}
    (h : settle s d answer = .error report) : report.fault.isResolution = true := by
  cases answer with
  | panicked message =>
    cases h
    rfl
  | returned result =>
    cases result with
    | ok instructions => cases h
    | error raised =>
      cases h
      unfold keepable
      by_cases hraised : raised.fault.isResolution = true
      · rw [if_pos hraised]
        exact hraised
      · rw [if_neg hraised]
        rfl

theorem Tidy.isResolution {r : Resolver σ} {state : σ} {cache : PlanCache σ}
    {asked : List (RecordType × RecordType)} (h : Tidy r state cache asked)
    {pair : String × String} {fault : Fault} (hkept : cache.kept? pair = some (.error fault)) :
    fault.isResolution = true := by
  obtain ⟨before, types, -, -, -, -, houtcome⟩ := h.first pair _ (mem_slots_of_kept? hkept)
  cases hsettled : outcome r ((PlanCache.start r state).after before).state types.1 types.2 with
  | ok plan =>
    rw [hsettled] at houtcome
    cases houtcome
  | error report =>
    rw [hsettled] at houtcome
    cases houtcome
    exact isResolution_of_settle hsettled

end PlanCache

/-! ### Checked copies -/

namespace Copier

variable {σ : Type}

/-- A copy past the checks fails because its plan could not be had, and then nothing is
    touched, or because the plan failed. -/
theorem map_error_cases {schema : Schema} {c : Copier σ} {value : Value}
    {source destination : RecordType} {target : Target} {report : Report}
    (h : (c.map schema value source target destination).result = .error report) :
    let mapped := c.map schema value source target destination
    let kept := mapped.copier.cache.kept? (source.name, destination.name)
    (kept = some (.error report.fault) ∧ mapped.target = target) ∨
      ∃ shared, kept = some (.ok shared) ∧
        schema.execute shared.plan value target = (mapped.target, .error report) := by
  intro mapped kept
  have hkept : kept = some ((c.plan source destination).answer.mapError Report.fault) := by
    change mapped.copier.cache.kept? _ = _
    rw [c.map_copier schema value source target destination]
    exact c.cache.kept?_get source destination
  have hcopied := c.map_copiedFrom schema value source target destination
  cases hanswer : (c.plan source destination).answer with
  | error raised =>
    rw [hanswer] at hkept hcopied
    obtain ⟨hsame, other, hother, hfault⟩ := hcopied
    have hreport : report = other := Except.error.inj (h.symm.trans hother)
    subst hreport
    rw [hfault]
    exact .inl ⟨hkept, hsame⟩
  | ok shared =>
    rw [hanswer] at hkept hcopied
    rw [h] at hcopied
    exact .inr ⟨shared, hkept, hcopied.symm⟩

/-- The three stages at which a checked copy fails. -/
theorem mapChecked_error_cases {schema : Schema} {r : Resolver σ} {state : σ} {c : Copier σ}
    {asked : List (RecordType × RecordType)} (htidy : c.cache.Tidy r state asked) {value : Value}
    {source destination : RecordType} {target : Target} {report : Report}
    (h : (c.mapChecked schema value source target destination).result = .error report) :
    let mapped := c.mapChecked schema value source target destination
    let kept := mapped.copier.cache.kept? (source.name, destination.name)
    (mapped.copier = c ∧ mapped.target = target ∧
      ∃ expected, report.fault = .typeMismatch expected unknownType ∧
        (value.type ≠ source.type ∧ expected = source.name ∨
          value.type = source.type ∧ target.value.type ≠ destination.type ∧
            expected = destination.name)) ∨
    (report.fault.isResolution = true ∧ kept = some (.error report.fault) ∧
      mapped.target = target) ∨
    (report.fault.isExecution = true ∧ value.type = source.type ∧
      target.value.type = destination.type ∧
      ∃ shared, kept = some (.ok shared) ∧
        schema.execute shared.plan value target = (mapped.target, .error report)) := by
  by_cases hmatch : value.type = source.type ∧ target.value.type = destination.type
  · obtain ⟨hvalue, htarget⟩ := hmatch
    rw [mapChecked_of_types hvalue htarget] at h ⊢
    rcases map_error_cases h with ⟨hkept, htouched⟩ | ⟨shared, hkept, hexecuted⟩
    · have hafter := htidy.get source destination
      have hstored : (c.cache.get source destination).cache.kept?
          (source.name, destination.name) = some (.error report.fault) := by
        rw [← hkept, map_copier]
        rfl
      exact .inr (.inl ⟨hafter.isResolution hstored, hkept, htouched⟩)
    · have hfailed : (schema.execute shared.plan value target).2 = .error report := by
        rw [hexecuted]
      exact .inr (.inr ⟨Schema.isExecution_of_run hfailed, hvalue, htarget, shared, hkept,
        hexecuted⟩)
  · rw [mapChecked_of_mismatch hmatch] at h ⊢
    have hreport := Except.error.inj h
    refine .inl ⟨rfl, rfl, ?_⟩
    by_cases hvalue : value.type = source.type
    · rw [if_pos hvalue] at hreport
      have htarget : target.value.type ≠ destination.type := fun ht => hmatch ⟨hvalue, ht⟩
      subst hreport
      exact ⟨destination.name, rfl, .inr ⟨hvalue, htarget, rfl⟩⟩
    · rw [if_neg hvalue] at hreport
      subst hreport
      exact ⟨source.name, rfl, .inl ⟨hvalue, rfl⟩⟩

/-- Whatever was asked of a copier before and whatever its resolver answers, the error of a
    checked copy tells its stage.  A mismatch is that of the source, or of the destination if
    the source matches, and nothing was asked, kept or touched.  A fault of resolution is kept
    for the pair of types, and the destination is untouched.  Any other fault is one of
    carrying out the plan that is kept for the pair, between instances that match. -/
theorem mapChecked_error_tells_stage (schema : Schema) (r : Resolver σ) (state : σ)
    (history : List Request) (value : Value) (source : RecordType) (target : Target)
    (destination : RecordType) (report : Report)
    (h : (((Copier.start r state).serveAll schema history).1.mapChecked schema value source target
      destination).result = .error report) :
    let c := ((Copier.start r state).serveAll schema history).1
    let recording := ((Copier.start r.recorded (state, [])).serveAll schema history).1
    let mapped := c.mapChecked schema value source target destination
    let kept := mapped.copier.cache.kept? (source.name, destination.name)
    (∀ expected found, report.fault = .typeMismatch expected found →
      mapped.copier = c ∧ mapped.target = target ∧
      (recording.mapChecked schema value source target destination).copier.cache.state.2 =
        recording.cache.state.2 ∧
      (value.type ≠ source.type ∧ expected = source.name ∨
        value.type = source.type ∧ target.value.type ≠ destination.type ∧
          expected = destination.name)) ∧
    (report.fault.isResolution = true →
      kept = some (.error report.fault) ∧ mapped.target = target) ∧
    (report.fault.isExecution = true →
      value.type = source.type ∧ target.value.type = destination.type ∧
      ∃ shared, kept = some (.ok shared) ∧
        schema.execute shared.plan value target = (mapped.target, .error report)) ∧
    ((∃ expected found, report.fault = .typeMismatch expected found) ∨
      report.fault.isResolution = true ∨ report.fault.isExecution = true) := by
  intro c recording mapped kept
  have htidy : c.cache.Tidy r state (asked history) :=
    tidy_start_serveAll schema r state history
  rcases mapChecked_error_cases htidy h with
    ⟨hcopier, htouched, expected, hfault, hnamed⟩ | ⟨hresolution, hkept, htouched⟩ |
      ⟨hexecution, hran⟩
  -- a copier that records its calls is left as it was, so there was no call
  · have hrecording : recording = c.recorded :=
      congrArg Prod.fst ((Copier.start r state).serveAll_recorded schema history)
    have hcalls : (recording.mapChecked schema value source target destination).copier =
        recording := by
      rw [hrecording, mapChecked_recorded]
      exact congrArg Copier.recorded hcopier
    rw [hfault]
    refine ⟨?_, nofun, nofun, .inl ⟨expected, unknownType, rfl⟩⟩
    intro _ _ hsame
    obtain ⟨rfl, -⟩ := Fault.typeMismatch.inj hsame
    exact ⟨hcopier, htouched, by rw [hcalls], hnamed⟩
  · refine ⟨?_, fun _ => ⟨hkept, htouched⟩, ?_, .inr (.inl hresolution)⟩
    · intro expected found hmismatch
      rw [hmismatch] at hresolution
      cases hresolution
    · intro hexecution
      rw [Fault.isExecution_of_isResolution hresolution] at hexecution
      cases hexecution
  · refine ⟨?_, ?_, fun _ => hran, .inr (.inr hexecution)⟩
    · intro expected found hmismatch
      rw [hmismatch] at hexecution
      cases hexecution
    · intro hresolution
      rw [Fault.isExecution_of_isResolution hresolution] at hexecution
      cases hexecution

end Copier

def Sample.confused : Resolver Unit := .failing "confused" (.of (.typeMismatch "Ward" "Chart"))

/-- A resolver's mismatch is not taken for one of the instances.  It was kept when the plan was
    asked for, and is the answer to the copy as a failure to compile the pair. -/
theorem Copier.mapChecked_error_tells_stage_sample :
    let c := ((Copier.start Sample.confused ()).serveAll Sample.clinic
      [.plan Sample.patient Sample.chart]).1
    let mapped := c.mapChecked Sample.clinic Sample.grace Sample.patient ⟨Sample.emptyChart, 0⟩
      Sample.chart
    let fault := Fault.compilationFailed "Patient" "Chart"
      (Fault.typeMismatch "Ward" "Chart").message
    mapped.result = .error (PlanCache.keptFailure Sample.patient Sample.chart fault) ∧
      mapped.copier.cache.kept? ("Patient", "Chart") = some (.error fault) ∧
      mapped.target = ⟨Sample.emptyChart, 0⟩ := by
  intro c mapped fault
  have hresult : mapped.result =
      .error (PlanCache.keptFailure Sample.patient Sample.chart fault) := rfl
  obtain ⟨-, hresolution, -, -⟩ := Copier.mapChecked_error_tells_stage Sample.clinic
    Sample.confused () [.plan Sample.patient Sample.chart] Sample.grace Sample.patient
    ⟨Sample.emptyChart, 0⟩ Sample.chart _ hresult
  exact ⟨hresult, hresolution rfl⟩

end RecordCopy
