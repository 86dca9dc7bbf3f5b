import RecordCopy.Proofs.Frame
import RecordCopy.Proofs.OncePerPair

/-!
# Copies between known types

Where the types of both instances are known, a copy between them is the copy that checks them
first, for the checks find nothing wrong.  A fresh instance of a known type is always checked
before anything is copied into it, so it cannot turn out to be of another type afterwards: what
makes an instance of another type is caught by the check, when nothing has been compiled yet.

Behind both is that carrying out a plan, whichever it is, keeps the type of the destination
(`Copier.type_map`).
-/

namespace RecordCopy

namespace Copier

variable {σ : Type}

/-- An instance made of another type is refused like one that is at hand. -/
theorem createChecked_of_misconstructed {schema : Schema} {c : Copier σ} {value made : Value}
    {source destination : RecordType} (hvalue : value.type = source.type)
    (hmade : destination.instance? = some made) (htype : made.type ≠ destination.type)
    (fresh : Allocation) : c.createChecked schema value source fresh destination =
      ⟨.error (mismatch destination), fresh, c, []⟩ := by
  have hmismatch := @mapChecked_of_mismatch σ schema c value source destination ⟨made, fresh⟩
    fun htypes => htype htypes.2
  simp only [createChecked, hmade, hmismatch, hvalue, if_true]
  rfl

/-- Whatever was asked of a copier before and whatever its resolver answers, an instance of its
    type is copied into one of the destination's like with checks, in all that there is to
    observe.  Into a fresh instance it is copied alike in both forms, and what comes of it is of
    the destination's type.  A fresh instance of that type is copied into like one at hand; one
    of another type is a mismatch of the destination, with nothing compiled, kept or logged. -/
theorem create_of_known_types (schema : Schema) (r : Resolver σ) (state : σ)
    (history : List Request) (value : Value) (source destination : RecordType)
    (hvalue : value.type = source.type) :
    let c := ((Copier.start r state).serveAll schema history).1
    let recording := ((Copier.start r.recorded (state, [])).serveAll schema history).1
    (∀ target, target.value.type = destination.type →
      c.map schema value source target destination =
        c.mapChecked schema value source target destination) ∧
    ∀ fresh,
      let created := c.createChecked schema value source fresh destination
      c.create schema value source fresh destination = created ∧
      (∀ v, created.result = .ok v → v.type = destination.type) ∧
      ∀ made, destination.instance? = some made →
        (made.type = destination.type →
          let mapped := c.map schema value source ⟨made, fresh⟩ destination
          created = ⟨mapped.result.map fun _ => mapped.target.value, mapped.target.fresh,
            mapped.copier, mapped.events⟩) ∧
        (made.type ≠ destination.type →
          created = ⟨.error (.of (.typeMismatch destination.name unknownType)), fresh, c, []⟩ ∧
          (recording.createChecked schema value source fresh destination).copier.cache.state.2 =
            recording.cache.state.2) := by
  intro c recording
  refine ⟨fun target htarget => (mapChecked_of_types hvalue htarget).symm, ?_⟩
  intro fresh created
  refine ⟨c.create_eq_createChecked schema value source fresh destination,
    fun v => type_of_createChecked, ?_⟩
  intro made hmade
  refine ⟨fun htype => createChecked_of_types hmade hvalue htype fresh, ?_⟩
  intro htype
  exact ⟨createChecked_of_misconstructed hvalue hmade htype fresh,
    by rw [createChecked_of_misconstructed hvalue hmade htype fresh]⟩

end Copier

/-- A chart that is made as a patient. -/
def Sample.misprint : RecordType := { Sample.chart with instance? := some Sample.grace }

/-- What is made of the other type is a mismatch of the chart, also after something else was
    compiled, and the pair is not asked about. -/
theorem Copier.create_of_known_types_misprint :
    let resolver := Resolver.ofMode Sample.clinic .all
    let history := [Request.plan Sample.patient Sample.ward]
    let c := ((start resolver ()).serveAll Sample.clinic history).1
    let recording := ((start resolver.recorded ((), [])).serveAll Sample.clinic history).1
    Sample.grace.type = Sample.patient.type ∧ Sample.grace.type ≠ Sample.misprint.type ∧
    c.create Sample.clinic Sample.grace Sample.patient 0 Sample.misprint =
      ⟨.error (.of (.typeMismatch "Chart" "unknown")), 0, c, []⟩ ∧
    (recording.createChecked Sample.clinic Sample.grace Sample.patient 0
      Sample.misprint).copier.cache.state.2 = [("Patient", "Ward")] := by
  intro resolver history c recording
  have hvalue : Sample.grace.type = Sample.patient.type := rfl
  have hother : Sample.grace.type ≠ Sample.misprint.type := by decide
  obtain ⟨-, hfresh⟩ := Copier.create_of_known_types Sample.clinic resolver () history Sample.grace
    Sample.patient Sample.misprint hvalue
  obtain ⟨hcreate, -, hmade⟩ := hfresh 0
  obtain ⟨hmismatch, hasked⟩ := (hmade Sample.grace rfl).2 hother
  exact ⟨hvalue, hother, hcreate.trans hmismatch, hasked.trans rfl⟩

end RecordCopy
