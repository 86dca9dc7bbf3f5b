import RecordCopy.Proofs.Stages

/-!
# What becomes of a failure

A pair of types that could not be compiled is not compiled again.  The caller whose request ran
the compile hears all that the resolver had to say; whoever asks later hears the fault that was
kept, with a note that it was kept and no other.

A failure reaches the two along different ways, so what a fault is turned into before it is kept
is stated once, for the first caller (`PlanCache.ToldFirst`).  What is kept is the fault of that
report, and a run of requests in between leaves it where it is, for the slots only grow.
-/

namespace RecordCopy

namespace PlanCache

variable {σ : Type}

/-! ### Requests one after the other -/

theorem slots_prefix_after (cache : PlanCache σ) (requests : List (RecordType × RecordType)) :
    cache.slots <+: (cache.after requests).slots := by
  induction requests generalizing cache with
  | nil => exact List.prefix_refl _
  | cons request rest ih =>
    obtain ⟨s, d⟩ := request
    exact (cache.slots_prefix_get s d).trans (ih _)

/-! ### The first caller -/

/-- What the caller hears whose request ran the compile.  A fault of resolution comes as it was
    raised, any other one and a panic as a failure to compile the pair; the notes are those of
    the resolver. -/
structure ToldFirst (s d : RecordType) (answer : Answer) (told : Except Report SharedPlan) :
    Prop where
  resolution : ∀ raised, answer = .returned (.error raised) →
    raised.fault.isResolution = true → told = .error raised
  other : ∀ raised, answer = .returned (.error raised) → raised.fault.isResolution = false →
    told = .error ⟨.compilationFailed s.name d.name raised.fault.message, raised.notes⟩
  panic : ∀ message, answer = .panicked message →
    told = .error ⟨.compilationFailed s.name d.name (message.getD "resolver panicked"), []⟩
  plan : ∀ instructions, answer = .returned (.ok instructions) →
    ∃ shared, told = .ok shared ∧ shared.plan = Plan.compile s d instructions

theorem toldFirst_get {cache : PlanCache σ} {s d : RecordType}
    (hnew : (s.name, d.name) ∉ cache.pairs) :
    ToldFirst s d (cache.resolver.resolve cache.state s d).2.answer (cache.get s d).answer := by
  have hanswer : (cache.get s d).answer =
      (settle s d (cache.resolver.resolve cache.state s d).2.answer).map
        (SharedPlan.mk cache.slots.length) := by
    rw [get_of_not_mem hnew]
    rfl
  rw [hanswer]
  generalize (cache.resolver.resolve cache.state s d).2.answer = answer
  constructor
  · rintro raised rfl hraised
    simp only [settle, keepable, hraised, if_true]
    rfl
  · rintro raised rfl hraised
    simp only [settle, keepable, hraised, Bool.false_eq_true, if_false]
    rfl
  · rintro message rfl
    rfl
  · rintro instructions rfl
    exact ⟨_, rfl, rfl⟩

/-! ### Later callers -/

theorem get_of_kept_error {cache : PlanCache σ} {s d : RecordType} {fault : Fault}
    (h : cache.kept? (s.name, d.name) = some (.error fault)) :
    cache.get s d = ⟨.error (keptFailure s d fault), cache, []⟩ := by
  have hslot : cache.slot? s d = some (.error fault) := h
  simp only [get, hslot]

/-- A failure is heard again by whoever asks about the pair, whatever was asked in between. -/
theorem get_again {cache : PlanCache σ} {s d : RecordType} {report : Report}
    (hfailed : (cache.get s d).answer = .error report)
    (between : List (RecordType × RecordType)) :
    let later := (cache.get s d).cache.after between
    later.kept? (s.name, d.name) = some (.error report.fault) ∧
      ∀ s' d' : RecordType, s'.name = s.name → d'.name = d.name →
        later.get s' d' = ⟨.error (keptFailure s d report.fault), later, []⟩ := by
  intro later
  have hstored := cache.kept?_get s d
  rw [hfailed] at hstored
  have hkept : later.kept? (s.name, d.name) = some (.error report.fault) :=
    kept?_of_prefix (slots_prefix_after _ between) hstored
  refine ⟨hkept, ?_⟩
  intro s' d' hs hd
  rw [← hs, ← hd] at hkept
  have hsame : keptFailure s' d' report.fault = keptFailure s d report.fault := by
    simp only [keptFailure, hs, hd]
  rw [get_of_kept_error hkept, hsame]

/-- Whatever a resolver answers and whatever a cache over it is asked: the first caller of a pair
    hears how the resolver failed, as `ToldFirst` says; that fault is kept, and every later caller
    hears it with the one note that it was kept; and all that is ever kept of failures is faults
    of resolution. -/
theorem get_tells_failures (r : Resolver σ) (state : σ)
    (before between : List (RecordType × RecordType)) (s d : RecordType)
    (hnew : (s.name, d.name) ∉ before.map names) :
    let cache := (start r state).after before
    let first := cache.get s d
    let later := first.cache.after between
    ToldFirst s d (r.resolve cache.state s d).2.answer first.answer ∧
    (∀ report, first.answer = .error report →
      later.kept? (s.name, d.name) = some (.error report.fault) ∧
      ∀ s' d' : RecordType, s'.name = s.name → d'.name = d.name → later.get s' d' =
        ⟨.error ⟨report.fault, ["Cached failure for " ++ s.name ++ " -> " ++ d.name]⟩,
          later, []⟩) ∧
    ∀ requests pair fault,
      ((start r state).after requests).kept? pair = some (.error fault) →
        fault.isResolution = true := by
  intro cache first later
  refine ⟨?_, ?_, ?_⟩
  · have htidy : Tidy r state cache before := tidy_after r state before
    have hfresh : (s.name, d.name) ∉ cache.pairs := by
      rw [htidy.mem_iff]
      exact hnew
    have htold := toldFirst_get hfresh
    rw [htidy.resolver] at htold
    exact htold
  · intro report hfailed
    exact get_again hfailed between
  · intro requests pair fault hkept
    exact (tidy_after r state requests).isResolution hkept

end PlanCache

namespace Sample

/-- Reports a mismatch of types where it is asked for instructions, with a note. -/
def puzzled : Resolver Unit :=
  .failing "puzzled" ⟨.typeMismatch "Ward" "Chart", ["asked at night"]⟩

end Sample

/-- The mismatch is kept as a failure to compile the pair.  The resolver's note goes to the first
    caller, and the note that the failure was kept to the others. -/
theorem PlanCache.get_tells_failures_sample :
    let cache := (start Sample.puzzled ()).after [(Sample.patient, Sample.ward)]
    let first := cache.get Sample.patient Sample.chart
    let later := first.cache.after
      [(Sample.chart, Sample.ward), (Sample.patient, Sample.chart)]
    let fault := Fault.compilationFailed "Patient" "Chart"
      (Fault.typeMismatch "Ward" "Chart").message
    (Sample.patient.name, Sample.chart.name) ∉ [(Sample.patient, Sample.ward)].map names ∧
      first.answer = .error ⟨fault, ["asked at night"]⟩ ∧
      later.kept? ("Patient", "Chart") = some (.error fault) ∧
      (later.get Sample.patient Sample.chart).answer =
        .error ⟨fault, ["Cached failure for Patient -> Chart"]⟩ ∧
      fault.isResolution = true := by
  intro cache first later fault
  have hnew : (Sample.patient.name, Sample.chart.name) ∉
      [(Sample.patient, Sample.ward)].map names := by decide
  obtain ⟨htold, hagain, hstored⟩ := get_tells_failures Sample.puzzled ()
    [(Sample.patient, Sample.ward)] [(Sample.chart, Sample.ward), (Sample.patient, Sample.chart)]
    Sample.patient Sample.chart hnew
  have hfirst : first.answer = .error ⟨fault, ["asked at night"]⟩ := htold.other _ rfl rfl
  obtain ⟨hkept, hlater⟩ := hagain _ hfirst
  have hanswer := hlater Sample.patient Sample.chart rfl rfl
  refine ⟨hnew, hfirst, hkept, ?_, ?_⟩
  · exact congrArg Served.answer hanswer
  · exact hstored [(Sample.patient, Sample.chart)] ("Patient", "Chart") fault rfl

end RecordCopy
