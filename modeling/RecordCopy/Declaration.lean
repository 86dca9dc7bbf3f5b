import RecordCopy.Schema
/-!
# Declarations

Callers describe record types by declarations and values by drafts.  A draft of a
record gives the fields it sets and leaves the others to their defaults; a
declaration gives a default for a field or leaves it to the type the field stores.

`declare` turns declarations into a schema.  Two things it fills in.  The instance
with which a type starts is built from the defaults of its fields.  The conversion
into a supertype copies every field that both records store under the same name and
with the same type, and leaves the other fields of the supertype at their defaults.
-/
namespace RecordCopy

/-- A value as a caller writes it. -/
inductive Draft where
  /-- The default of the type. -/
  | default
  | scalar (content : Scalar)
  | bytes (content : List UInt8)
  | empty
  /-- A wildcard that holds a value of a type. -/
  | holding (type : Ty) (held : Draft)
  | absent
  | present (inner : Draft)
  /-- A record with some of its fields. -/
  | record (given : List (String × Draft))

structure FieldDecl where
  name : String
  access : Access
  type : Ty
  /-- What values really store, where that is not the declared type. -/
  stored : Option Ty
  bound : Bool
  initial : Option Draft

inductive MakerDecl where
  | none
  /-- The instance whose fields have their defaults. -/
  | default
  /-- A value of some type, which need not be the type declared. -/
  | returning (type : Ty) (value : Draft)

structure RecordDecl where
  name : String
  fields : List FieldDecl
  mappings : List FieldMapping
  /-- The names of the supertypes. -/
  supertypes : List String
  maker : MakerDecl

namespace FieldDecl

def storedType (f : FieldDecl) : Ty := f.stored.getD f.type

/-- A hidden field is closed, whatever its type. -/
def field (f : FieldDecl) : Field :=
  { name := f.name
    access := f.access
    type := if f.access = .hidden then .sealedOf f.type else f.type.valueType
    stored := f.storedType
    bound := f.bound }

end FieldDecl

/-! ### Defaults -/

abbrev Defaults := List (String × List Value)

abbrev Allocating := StateM Allocation

def allocate : Allocating Allocation := fun next => (next, next + 1)

namespace Defaults

def fieldsOf (defaults : Defaults) (name : String) : List Value :=
  match defaults.find? fun d => decide (d.1 = name) with
  | some d => d.2
  | none => []

def ofType (defaults : Defaults) : Ty → Value
  | .scalar .bool => .scalar (.bool false)
  | .scalar .char => .scalar (.char '\x00')
  | .scalar (.integer type) => .scalar (.integer type 0)
  | .scalar (.float type) => .scalar (.float type 0)
  | .scalar .string => .scalar (.string "")
  | .wildcard => .empty
  | .bytes => .bytes []
  | .option inner => .absent inner
  | .record name => .record name (defaults.fieldsOf name)

end Defaults

namespace RecordDecl

def field? (r : RecordDecl) (name : String) : Option (FieldDecl × Nat) :=
  r.fields.zipIdx.find? fun f => decide (f.1.name = name)

end RecordDecl

def declared? (decls : List RecordDecl) (name : String) : Option RecordDecl :=
  decls.find? fun r => decide (r.name = name)

mutual
/-- The value of a type that a draft stands for.  Every wildcard that holds something
    makes an allocation. -/
def Draft.complete (decls : List RecordDecl) (defaults : Defaults) (type : Ty) :
    Draft → Allocating Value
  | .default => pure (defaults.ofType type)
  | .scalar content => pure (.scalar content)
  | .bytes content => pure (.bytes content)
  | .empty => pure .empty
  | .holding held draft => do
    let v ← draft.complete decls defaults held
    let allocation ← allocate
    return .holding allocation v
  | .absent =>
    match type with
    | .option inner => pure (.absent inner)
    | type => pure (defaults.ofType type)
  | .present draft =>
    match type with
    | .option inner => do return .present (← draft.complete decls defaults inner)
    | type => pure (defaults.ofType type)
  | .record given =>
    match type with
    | .record name => do
      return .record name (← completeFields decls defaults name given (defaults.fieldsOf name))
    | type => pure (defaults.ofType type)

/-- Fields of a record with those that are given put in; of fields of one name the
    first is meant. -/
def completeFields (decls : List RecordDecl) (defaults : Defaults) (record : String) :
    List (String × Draft) → List Value → Allocating (List Value)
  | [], fields => pure fields
  | (name, draft) :: rest, fields =>
    match (declared? decls record).bind (·.field? name) with
    | none => completeFields decls defaults record rest fields
    | some (f, position) => do
      let v ← draft.complete decls defaults f.storedType
      completeFields decls defaults record rest (fields.set position v)
end

namespace Defaults

def round (decls : List RecordDecl) (defaults : Defaults) : Allocating Defaults :=
  decls.mapM fun r => do
    let fields ← r.fields.mapM fun f =>
      (f.initial.getD .default).complete decls defaults f.storedType
    return (r.name, fields)

/-- Rounds of filling in.  A record whose defaults go `n` records deep is right after
    `n + 1` rounds. -/
def rounds (decls : List RecordDecl) : Nat → Defaults → Allocating Defaults
  | 0, defaults => pure defaults
  | n + 1, defaults => do rounds decls n (← round decls defaults)

/-- The default fields of every declared record.  No finite value repeats a record in
    its own defaults, so as many rounds as there are records are enough. -/
def ofDecls (decls : List RecordDecl) : Allocating Defaults := rounds decls decls.length []

end Defaults

/-! ### From declarations to a schema -/

/-- The value of a supertype made from a value of a record: fields of the same name and
    stored type are kept, and the others are the default ones. -/
def convertByName (decls : List RecordDecl) (defaults : Defaults) (sub super : String)
    (v : Value) : Value :=
  match declared? decls sub, declared? decls super, v with
  | some lower, some upper, .record _ contents =>
    .record super <| upper.fields.zipIdx.map fun (f, position) =>
      let shared : Option Value := do
        let (g, at_) ← lower.field? f.name
        if g.storedType = f.storedType then contents[at_]? else none
      shared.getD (((defaults.fieldsOf super)[position]?).getD (defaults.ofType f.storedType))
  | _, _, _ => defaults.ofType (.record super)

theorem type_convertByName (decls : List RecordDecl) (defaults : Defaults) (sub super : String)
    (v : Value) : (convertByName decls defaults sub super v).type = .record super := by
  unfold convertByName
  split <;> rfl

def supertypeByName (decls : List RecordDecl) (defaults : Defaults) (sub super : String) :
    Supertype :=
  ⟨super, convertByName decls defaults sub super, type_convertByName decls defaults sub super⟩

structure Declared where
  decls : List RecordDecl
  defaults : Defaults
  schema : Schema
  /-- The number of the first allocation that the defaults do not use. -/
  fresh : Allocation

namespace RecordDecl

def recordType (decls : List RecordDecl) (defaults : Defaults) (r : RecordDecl) :
    Allocating RecordType := do
  let made : Option Value ←
    match r.maker with
    | .none => pure none
    | .default => pure (some (defaults.ofType (.record r.name)))
    | .returning type draft => some <$> draft.complete decls defaults type
  return {
    name := r.name
    fields := r.fields.map FieldDecl.field
    mappings := r.mappings
    supertypes := r.supertypes.map (supertypeByName decls defaults r.name)
    instance? := made }

end RecordDecl

namespace Declared

def ofDecls (decls : List RecordDecl) : Declared :=
  let built : Allocating (Defaults × List RecordType) := do
    let defaults ← Defaults.ofDecls decls
    return (defaults, ← decls.mapM (RecordDecl.recordType decls defaults))
  let ((defaults, records), fresh) := built.run 0
  ⟨decls, defaults, ⟨records⟩, fresh⟩

def complete (d : Declared) (type : Ty) (draft : Draft) (fresh : Allocation) :
    Value × Allocation :=
  (draft.complete d.decls d.defaults type).run fresh

end Declared

end RecordCopy
