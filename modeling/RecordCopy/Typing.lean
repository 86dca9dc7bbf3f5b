import RecordCopy.Ancestry
/-!
# Well-typed values

`Value.type` is the type a value goes by: of a record it is the name, and says nothing
about the fields.  `Schema.Typed` looks at all of a value, down to its innermost
record: whatever record it holds is declared, and has for each declared field one
value of the type stored there.

Copying is only ever asked for between such values.
-/
namespace RecordCopy

/-- A value is of the declared shape wherever it holds a record. -/
inductive Schema.Typed (schema : Schema) : Value → Prop where
  | scalar (content : Scalar) : Typed schema (.scalar content)
  | bytes (content : List UInt8) : Typed schema (.bytes content)
  | empty : Typed schema .empty
  | holding (allocation : Allocation) {held : Value} :
    Typed schema held → Typed schema (.holding allocation held)
  | absent (inner : Ty) : Typed schema (.absent inner)
  | present {inner : Value} : Typed schema inner → Typed schema (.present inner)
  | record {r : RecordType} {fields : List Value} :
    schema.record? r.name = some r → fields.map Value.type = r.fields.map Field.stored →
      (∀ v ∈ fields, Typed schema v) → Typed schema (.record r.name fields)

namespace Schema

/-- The schema knows a record type under its name. -/
def Declares (schema : Schema) (r : RecordType) : Prop := schema.record? r.name = some r

def Instance (schema : Schema) (r : RecordType) (v : Value) : Prop :=
  v.type = r.type ∧ schema.Typed v

/-! ### Small facts -/

/-- A name stands for one record type. -/
theorem Declares.eq_of_name {schema : Schema} {r q : RecordType} (hr : schema.Declares r)
    (hq : schema.Declares q) (hname : r.name = q.name) : r = q := by
  unfold Declares at hr hq
  rw [hname, hq] at hr
  exact (Option.some.inj hr).symm

/-- An instance is the record of its fields, one for each declared field. -/
theorem Instance.exists_fields {schema : Schema} {r : RecordType} {v : Value}
    (hr : schema.Declares r) (h : schema.Instance r v) :
    ∃ fields, v = .record r.name fields ∧ fields.map Value.type = r.fields.map Field.stored ∧
      ∀ w ∈ fields, schema.Typed w := by
  obtain ⟨htype, htyped⟩ := h
  cases htyped with
  | @record q fields hq hfields hall =>
    simp only [Value.type, RecordType.type, Ty.record.injEq] at htype
    have hdeclared : schema.Declares q := hq
    have hsame : q = r := hdeclared.eq_of_name hr htype
    subst hsame
    exact ⟨fields, rfl, hfields, hall⟩
  | _ => simp [Value.type, RecordType.type] at htype

end Schema

end RecordCopy
