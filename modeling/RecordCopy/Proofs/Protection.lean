import RecordCopy.Proofs.Frame
import RecordCopy.Proofs.ModePlan

/-!
# Fields that are never written

A field that is read-only or hidden keeps its value through every copy of every mode.  What an
instruction puts into its slot goes into the first field on the path, and that field may be
written, as may all the others; so a field at the top that may not be written is another one.

Metadata may aim at any text, a path inside a protected field included.  Such a target is
refused where the path is resolved, and then there is no plan to carry out.
-/

namespace RecordCopy

namespace Schema

variable {schema : Schema} {s d : RecordType}

/-- What is put into a slot behind fields that may be written leaves the fields at the top
    that may not. -/
theorem field?_replace_of_protected {fs : List BoundField} {names : List String}
    {last : Option RecordType} (htrail : schema.Trail (some d) names fs last)
    (hwritable : ∀ f ∈ fs, f.field.access = .readWrite) {position : Nat} {f : Field}
    (hf : d.fields[position]? = some f) (hprotected : f.access ≠ .readWrite) {v : Value}
    {p : Place} (h : slotAlong fs v = some p) (w : Value) :
    (p.replace w).field? d.name position = v.field? d.name position := by
  cases htrail with
  | nil => cases h
  | @cons _ first name names fs _ hfield hrest =>
    obtain ⟨howner, hposition, -⟩ := RecordType.field?_eq_some hfield
    -- the first field on the way may be written, so it stands at another position
    have hne : first.position ≠ position := by
      intro hsame
      rw [hsame, hf] at hposition
      apply hprotected
      rw [Option.some.inj hposition]
      exact hwritable first List.mem_cons_self
    obtain ⟨field, hplace, hreplace⟩ := exists_place_of_slotAlong h
    obtain ⟨content, hcontent⟩ := hreplace w
    obtain ⟨-, fields, old, rfl, -, rfl⟩ := BoundField.place_eq_some hplace
    rw [hcontent]
    simp only [Value.field?, howner, if_true, List.getElem?_set_ne hne]

theorem field?_runAll_copy {instructions : List Instruction}
    (hmade : ∀ i ∈ instructions, schema.Made s d i) {position : Nat} {f : Field}
    (hf : d.fields[position]? = some f) (hprotected : f.access ≠ .readWrite) (source : Value)
    (target : Target) :
    (Composition.runAll schema.copy source instructions target).1.value.field? d.name position =
      target.value.field? d.name position := by
  apply runAll_copy_preserves (Value.field? d.name position)
  intro i hi v place hplace content
  obtain ⟨⟨last, htrail⟩, hwritable⟩ := readWrite_of_resolveWrite (hmade i hi).destination
  exact field?_replace_of_protected htrail hwritable hf hprotected hplace content

end Schema

/-- A copier of any mode, whatever it was asked before, leaves every field of the destination
    that is read-only or hidden as it is, whether the copy fails or not.  And whatever a mode
    finds between two types goes through fields only that may be written. -/
theorem Copier.map_keeps_protected (schema : Schema) (mode : CopyMode) (history : List Request)
    (hhistory : ∀ q ∈ history, q.Within schema) (s d : RecordType) (hs : schema.Declares s)
    (hd : schema.Declares d) (value : Value) (target : Target) :
    let c := ((Copier.ofMode schema mode).serveAll schema history).1
    let mapped := c.map schema value s target d
    (∀ (position : Nat) (f : Field), d.fields[position]? = some f → f.access ≠ .readWrite →
      mapped.target.value.field? d.name position = target.value.field? d.name position) ∧
    ∀ (other : CopyMode) (list : List Instruction),
      (schema.resolve other s d).result = .ok list → ∀ i ∈ list,
        (∃ last, schema.Trail (some d) i.destination.path.segments i.destination.fields last) ∧
          ∀ f ∈ i.destination.fields, f.field.access = .readWrite := by
  intro c mapped
  constructor
  · intro position f hf hprotected
    rcases Copier.map_ofMode hhistory hs hd value target with
      ⟨list, hlist, hcopied⟩ | ⟨-, hafter, -⟩
    · have hafter : mapped.target = (Composition.runAll schema.copy value list target).1 :=
        congrArg Prod.fst hcopied
      rw [hafter]
      have hmade : ∀ i ∈ list, schema.Made s d i := fun i hi => Schema.made_of_mem_resolve hlist hi
      exact Schema.field?_runAll_copy hmade hf hprotected value target
    · exact congrArg (fun t => t.value.field? d.name position) hafter
  · intro other list hlist i hi
    exact Schema.readWrite_of_resolveWrite (Schema.made_of_mem_resolve hlist hi).destination

/-- The room is refused for want of a place, the name is copied twice, and the seal and the
    hidden code of the chart are left alone. -/
theorem Copier.map_keeps_protected_sample :
    let history := [Request.plan Sample.patient Sample.ward, .plan Sample.chart Sample.patient]
    let mapped := ((Copier.ofMode Sample.clinic .all).serveAll Sample.clinic history).1.map
      Sample.clinic Sample.grace Sample.patient ⟨Sample.emptyChart, 0⟩ Sample.chart
    (∀ q ∈ history, q.Within Sample.clinic) ∧
    Sample.clinic.Declares Sample.patient ∧ Sample.clinic.Declares Sample.chart ∧
    mapped.target.value.field? "Chart" 2 = some (Sample.written "lead") ∧
    mapped.target.value.field? "Chart" 3 = some (Sample.room "3" "shut") ∧
    ∃ list, (Sample.clinic.resolve .all Sample.patient Sample.chart).result = .ok list ∧
      list.length = 3 ∧ ∀ i ∈ list, ∀ f ∈ i.destination.fields, f.field.access = .readWrite := by
  intro history mapped
  have hhistory : ∀ q ∈ history, q.Within Sample.clinic := by
    simp only [history, List.forall_mem_cons]
    exact ⟨⟨rfl, rfl⟩, ⟨rfl, rfl⟩, by simp⟩
  have hpatient : Sample.clinic.Declares Sample.patient := rfl
  have hchart : Sample.clinic.Declares Sample.chart := rfl
  obtain ⟨hkept, hfound⟩ := Copier.map_keeps_protected Sample.clinic .all history hhistory
    Sample.patient Sample.chart hpatient hchart Sample.grace ⟨Sample.emptyChart, 0⟩
  have hseal := hkept 2 ⟨"seal", .readOnly, Sample.text.valueType, Sample.text, true⟩ rfl nofun
  have hcode := hkept 3 (Sample.sealedField "code" .hidden Sample.ward.type) rfl nofun
  refine ⟨hhistory, hpatient, hchart, hseal, hcode, _, rfl, rfl, ?_⟩
  intro i hi
  exact (hfound .all _ rfl i hi).2

end RecordCopy
