import RecordCopy.FieldPath
import RecordCopy.ValueType
/-!
# Schemas

A schema describes record types: their fields in declaration order with the access
each one grants, the correspondences declared for their fields, their supertypes,
and an instance to start from.

A field is declared with a type, and a value of the record stores something for it.
The two agree for a field bound as it should be (`Field.Faithful`); a schema
written by hand may get the stored type wrong, or leave the field unbound, and then
the field is never found in a value.
-/
namespace RecordCopy

/-! ### Access -/

inductive Access where
  | readWrite
  /-- Not written, and nothing inside it written either. -/
  | readOnly
  /-- Neither read nor written. -/
  | hidden
deriving DecidableEq, Repr

namespace Access

def readable : Access → Bool
  | .readWrite | .readOnly => true
  | .hidden => false

def writable : Access → Bool
  | .readWrite => true
  | .readOnly | .hidden => false

def display : Access → String
  | .readWrite => "read_write"
  | .readOnly => "read_only"
  | .hidden => "hidden"

def outline : Access → String
  | .readWrite => "ReadWrite"
  | .readOnly => "ReadOnly"
  | .hidden => "Hidden"

end Access

/-! ### Fields -/

structure Field where
  name : String
  access : Access
  /-- The type the field is declared with. -/
  type : ValueType
  /-- The type of what values of the record store for the field. -/
  stored : Ty
  /-- Whether the field is found in values at all. -/
  bound : Bool
deriving DecidableEq, Repr

namespace Field

/-- Found in values, with the type it is declared with. -/
def Faithful (f : Field) : Prop := f.bound = true ∧ f.stored = f.type.type

def outline (f : Field) : String :=
  Text.partialOutline "FieldDescriptor"
    [("name", Text.quoted f.name), ("access", f.access.outline),
     ("value_type", Text.quoted f.type.type.fullName)]

end Field

/-- A field of a particular record, at its position there. -/
structure BoundField where
  owner : String
  position : Nat
  field : Field
deriving DecidableEq, Repr

namespace BoundField

def get (f : BoundField) (v : Value) : Option Value :=
  if f.field.bound then v.field? f.owner f.position else none

def place (f : BoundField) (v : Value) : Option Place :=
  if f.field.bound then v.fieldPlace? f.owner f.position else none

theorem map_content_place (f : BoundField) (v : Value) :
    (f.place v).map Place.content = f.get v := by
  unfold place get
  split
  · exact Value.map_content_fieldPlace? _ _ v
  · rfl

end BoundField

/-! ### Declared correspondences -/

/-- One possible source of a destination field: a path on sources of a type. -/
structure Candidate where
  source : Ty
  path : String
  container : Option String
deriving DecidableEq, Repr

namespace Candidate

def ofPath (source : Ty) (path : String) : Candidate := ⟨source, path, none⟩

/-- Read the path on what `container` holds; a container of blanks is no container. -/
def on (c : Candidate) (container : String) : Candidate :=
  { c with container := if Text.trim container.toList = [] then none else some container }

def effectivePath (c : Candidate) : String :=
  match c.container with
  | none => c.path
  | some container => container ++ "." ++ c.path

/-- The path read from the source, if both parts are well formed. -/
def sourcePath? (c : Candidate) : Option FieldPath :=
  match c.container with
  | none => FieldPath.parse? c.path
  | some container =>
    match FieldPath.parse? container, FieldPath.parse? c.path with
    | some outer, some inner => some (outer.within inner)
    | _, _ => none

end Candidate

/-- Where a destination path may be copied from: candidates, the preferred one first. -/
structure FieldMapping where
  target : String
  candidates : List Candidate
deriving DecidableEq, Repr

/-- The first segment of the target, which names a field of the destination. -/
def FieldMapping.targetRoot? (m : FieldMapping) : Option String :=
  FieldPath.segment? (Text.cut '.' m.target.toList).1

/-! ### Record types -/

/-- A declared supertype with the conversion into it, which makes nothing but values of
    the supertype. -/
structure Supertype where
  record : String
  convert : Value → Value
  convert_type : ∀ v, (convert v).type = .record record

structure RecordType where
  name : String
  fields : List Field
  mappings : List FieldMapping
  supertypes : List Supertype
  /-- A fresh instance, if the type says how to make one. -/
  instance? : Option Value

namespace RecordType

def type (r : RecordType) : Ty := .record r.name

def valueType (r : RecordType) : ValueType := r.type.valueType

def field? (r : RecordType) (name : String) : Option BoundField :=
  (r.fields.zipIdx.find? fun f => decide (f.1.name = name)).map fun f => ⟨r.name, f.2, f.1⟩

/-- The mappings whose target is the field or lies inside it. -/
def mappingsFor (r : RecordType) (name : String) : List FieldMapping :=
  r.mappings.filter fun m => decide (m.targetRoot? = some name)

def Faithful (r : RecordType) : Prop := ∀ f ∈ r.fields, f.Faithful

def outline (r : RecordType) : String :=
  Text.partialOutline "TypeDescriptor"
    [("name", Text.quoted r.name), ("fields", Text.bracketed (r.fields.map Field.outline)),
     ("mappings", toString r.mappings.length),
     ("constructible", if r.instance?.isSome then "true" else "false")]

end RecordType

structure Schema where
  records : List RecordType

namespace Schema

def record? (schema : Schema) (name : String) : Option RecordType :=
  schema.records.find? fun r => decide (r.name = name)

/-- The record type behind the option layers of a field's type. -/
def recordOf? (schema : Schema) (t : ValueType) : Option RecordType :=
  t.recordName?.bind schema.record?

def Faithful (schema : Schema) : Prop := ∀ r ∈ schema.records, r.Faithful

theorem name_of_record? {schema : Schema} {name : String} {r : RecordType}
    (h : schema.record? name = some r) : r.name = name := by
  simpa using List.find?_some h

theorem mem_of_record? {schema : Schema} {name : String} {r : RecordType}
    (h : schema.record? name = some r) : r ∈ schema.records :=
  List.mem_of_find?_eq_some h

end Schema

end RecordCopy
