import RecordCopy.Schema
/-!
# Positions in a value

A position is a list of field names, each of a field of the record reached by the
names before it, through any number of present options.  `Schema.valueAt` is what lies
there.  It asks the value alone which records it holds, and whether a field may be read
or written plays no part in it: hidden fields have positions like all others.
-/
namespace RecordCopy

namespace Value

/-- What is held behind all option layers, if none of them is absent. -/
def bare? : Value → Option Value
  | .absent _ => none
  | .present inner => inner.bare?
  | v => some v

def Full (v : Value) : Prop := v.bare?.isSome = true

instance (v : Value) : Decidable v.Full := inferInstanceAs (Decidable (_ = true))

end Value

def RecordType.AgreeWhereReadable (r : RecordType) (v w : Value) : Prop :=
  ∀ (position : Nat) (f : Field), r.fields[position]? = some f → f.access.readable = true →
    v.field? r.name position = w.field? r.name position

namespace Schema

/-- What a value stores under the name of a field, behind its option layers. -/
def fieldAt (schema : Schema) (v : Value) (name : String) : Option Value :=
  match v.bare? with
  | some (.record record fields) =>
    match (schema.record? record).bind (·.field? name) with
    | some f => fields[f.position]?
    | none => none
  | _ => none

/-- What lies at a position of a value, if anything does. -/
def valueAt (schema : Schema) (v : Value) : List String → Option Value
  | [] => some v
  | name :: rest =>
    match schema.fieldAt v name with
    | some w => valueAt schema w rest
    | none => none

end Schema

end RecordCopy
