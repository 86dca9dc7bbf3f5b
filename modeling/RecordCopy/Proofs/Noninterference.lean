import RecordCopy.Proofs.Frame
import RecordCopy.Proofs.FreshAllocations
import RecordCopy.Proofs.ModePlan

/-!
# Hidden fields of a source

What a source hides has no influence on a copy: two sources that store the same in every field
that may be read are copied alike.  The first field of each path that is read may be read, so
an instruction reads the same from both (`Schema.read_eq_of_agree`), and of its source an
instruction uses nothing but what it reads.

The two copies may number the allocations they make differently.  Then their destinations are
the same up to these numbers; numbered from the same one on, they are the same altogether.
-/

namespace RecordCopy

namespace Schema

variable {schema : Schema} {s d : RecordType} {v w : Value}

/-- A path resolved for reading reads the same from sources that agree where they may be
    read. -/
theorem read_eq_of_agree {path : FieldPath} {p : ReadPath}
    (h : schema.resolveRead s path = .ok p) (hagree : s.AgreeWhereReadable v w) :
    p.read v = p.read w := by
  obtain ⟨⟨_, htrail⟩, hreadable⟩ := readable_of_resolveRead h
  unfold ReadPath.read ReadPath.steps
  generalize p.fields = fields, path.segments = names at htrail hreadable
  -- what lies behind the first field is read inside of what the first field stores
  cases htrail with
  | nil => rfl
  | @cons _ first name names fields _ hfield _ =>
    obtain ⟨howner, hposition, -⟩ := RecordType.field?_eq_some hfield
    have hstored := hagree first.position first.field hposition (hreadable first List.mem_cons_self)
    apply walk_congr
    simp only [BoundField.get, howner, hstored]

/-- Instructions made for a type copy alike from sources that agree where they may be read. -/
theorem runAll_copy_of_agree {instructions : List Instruction}
    (hmade : ∀ i ∈ instructions, schema.Made s d i) (hagree : s.AgreeWhereReadable v w)
    (target : Target) :
    Composition.runAll schema.copy v instructions target =
      Composition.runAll schema.copy w instructions target := by
  apply runAll_copy_of_read_eq
  intro i hi
  exact read_eq_of_agree (hmade i hi).source hagree

end Schema

namespace Copier

/-- With the same numbers for new allocations, the two copies are the same in everything. -/
theorem map_eq_of_agree {schema : Schema} {mode : CopyMode} {history : List Request}
    (hhistory : ∀ q ∈ history, q.Within schema) {s d : RecordType} (hs : schema.Declares s)
    (hd : schema.Declares d) {v w : Value} (hagree : s.AgreeWhereReadable v w)
    (target : Target) :
    let c := ((Copier.ofMode schema mode).serveAll schema history).1
    c.map schema v s target d = c.map schema w s target d := by
  intro c
  cases hanswer : (c.plan s d).answer with
  | error report => simp only [map, hanswer]
  | ok shared =>
    obtain ⟨list, hlist, hplan⟩ := plan_ofMode hhistory hs hd hanswer
    have hmade : ∀ i ∈ list, schema.Made s d i := fun i hi => Schema.made_of_mem_resolve hlist hi
    have hexecuted : schema.execute shared.plan v target = schema.execute shared.plan w target := by
      rw [hplan, Schema.execute_compile, Schema.execute_compile]
      exact Schema.runAll_copy_of_agree hmade hagree target
    simp only [map, hanswer, hexecuted]

/-- A copy treats destinations alike that are the same up to fresh allocations. -/
theorem map_sameFrom {σ : Type} (schema : Schema) (c : Copier σ) (source : Value)
    (s d : RecordType) {first : Allocation} {t u : Target} (h : t.SameFrom first u) :
    let one := c.map schema source s t d
    let other := c.map schema source s u d
    one.target.SameFrom first other.target ∧ one.result = other.result ∧
      one.copier = other.copier ∧ one.events = other.events := by
  intro one other
  cases hanswer : (c.plan s d).answer with
  | error report =>
    simp only [one, other, map, hanswer, and_true]
    exact h
  | ok shared =>
    obtain ⟨htarget, hresult⟩ := schema.execute_sameFrom shared.plan source h
    simp only [one, other, map, hanswer, and_true]
    exact ⟨htarget, hresult⟩

/-- What a source hides changes neither the answer, report and notes included, nor the
    destination, nor what the copier keeps and logs. -/
theorem map_noninterference (schema : Schema) (mode : CopyMode) (history : List Request)
    (hhistory : ∀ q ∈ history, q.Within schema) (s d : RecordType) (hs : schema.Declares s)
    (hd : schema.Declares d) (v w : Value) (hagree : s.AgreeWhereReadable v w)
    (destination : Value) (a b : Allocation) :
    let c := ((Copier.ofMode schema mode).serveAll schema history).1
    let one := c.map schema v s ⟨destination, a⟩ d
    let other := c.map schema w s ⟨destination, b⟩ d
    one.result = other.result ∧ one.target.value.SameUpTo (min a b) other.target.value ∧
      (a = b → one.target = other.target) ∧
      one.copier = other.copier ∧ one.events = other.events := by
  intro c one other
  have hsource : one = c.map schema w s ⟨destination, a⟩ d :=
    map_eq_of_agree hhistory hs hd hagree ⟨destination, a⟩
  have hnumbers : Target.SameFrom (min a b) ⟨destination, a⟩ ⟨destination, b⟩ :=
    ⟨.refl _ destination, Nat.min_le_left a b, Nat.min_le_right a b⟩
  obtain ⟨htarget, hresult, hcopier, hevents⟩ := map_sameFrom schema c w s d hnumbers
  rw [hsource]
  refine ⟨hresult, htarget.value, ?_, hcopier, hevents⟩
  rintro rfl
  rfl

end Copier

namespace Sample

def moved : Value :=
  .record "Patient" [written "Grace", room "12" "left", room "8" "open", written "wax"]

theorem grace_agrees_moved : patient.AgreeWhereReadable grace moved := by
  intro position f hf hreadable
  match position, hf with
  | 0, _ | 1, _ | 3, _ => rfl
  | 2, hf =>
    cases hf
    cases hreadable
  | position + 4, hf => cases hf

end Sample

/-- The hidden rooms differ, and all that tells the two charts apart is the number of the
    allocation made for the name.  Both copies fail for want of a place. -/
theorem Copier.map_noninterference_sample :
    let history := [Request.plan Sample.patient Sample.ward]
    let c := ((Copier.ofMode Sample.clinic .all).serveAll Sample.clinic history).1
    let one := c.map Sample.clinic Sample.grace Sample.patient ⟨Sample.emptyChart, 4⟩ Sample.chart
    let other := c.map Sample.clinic Sample.moved Sample.patient ⟨Sample.emptyChart, 9⟩ Sample.chart
    (∀ q ∈ history, q.Within Sample.clinic) ∧
    Sample.clinic.Declares Sample.patient ∧ Sample.clinic.Declares Sample.chart ∧
    Sample.patient.AgreeWhereReadable Sample.grace Sample.moved ∧
    Sample.grace.field? "Patient" 2 ≠ Sample.moved.field? "Patient" 2 ∧
    one.target.value.field? "Chart" 4 = some (.holding 5 (Sample.written "Grace")) ∧
    other.target.value.SameUpTo 4 one.target.value ∧
    other.result = one.result ∧ ∃ report, one.result = .error report := by
  intro history c one other
  have hhistory : ∀ q ∈ history, q.Within Sample.clinic := by
    simp only [history, List.forall_mem_singleton]
    exact ⟨rfl, rfl⟩
  have hpatient : Sample.clinic.Declares Sample.patient := rfl
  have hchart : Sample.clinic.Declares Sample.chart := rfl
  have hhidden : Sample.grace.field? "Patient" 2 ≠ Sample.moved.field? "Patient" 2 := by
    simp [Sample.grace, Sample.moved, Value.field?, Sample.room, Sample.written]
  obtain ⟨hresult, htarget, -⟩ := Copier.map_noninterference Sample.clinic .all history hhistory
    Sample.patient Sample.chart hpatient hchart Sample.grace Sample.moved
    Sample.grace_agrees_moved Sample.emptyChart 4 9
  rcases @Copier.map_ofMode Sample.clinic .all history Sample.patient Sample.chart hhistory
      hpatient hchart Sample.grace ⟨Sample.emptyChart, 4⟩ with
    ⟨list, hlist, hcopied⟩ | ⟨⟨raised, hraised⟩, -⟩
  · cases hlist
    have hname := congrArg (fun done => done.1.value.field? "Chart" 4) hcopied
    have hfailed := congrArg Prod.snd hcopied
    exact ⟨hhistory, hpatient, hchart, Sample.grace_agrees_moved, hhidden, hname, htarget.symm,
      hresult.symm, _, hfailed⟩
  · cases hraised

end RecordCopy
