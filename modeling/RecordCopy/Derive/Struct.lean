import RecordCopy.Derive.Attribute
/-!
# Deriving a record type

A struct with named fields describes a record type: one field for each of its own, one
mapping for each field that has candidates, the supertypes, and how to make an
instance.  Anything else is refused, and of several faults the first in this order is
answered: what is not written as declarations are, type parameters, the kind of item, the
kind of fields, the attributes of the struct, and then the fields one by one.

Types stay texts in what is derived.  `Derived.recordType` is the record type it
stands for, once it is known which type each text means.
-/
namespace RecordCopy.Derive

inductive ItemKind where
  /-- A struct with named fields. -/
  | struct
  /-- A struct with fields by position. -/
  | tuple
  /-- A struct without fields. -/
  | unit
  /-- An enumeration or a union. -/
  | other
deriving DecidableEq, Repr

structure FieldText where
  name : String
  type : String
  attributes : List AttributeText
deriving DecidableEq, Repr

structure ItemDecl where
  kind : ItemKind
  name : String
  /-- The text behind the name, if there is one. -/
  generics : Option String
  attributes : List AttributeText
  fields : List FieldText
deriving DecidableEq, Repr

/-! ### As written -/

/-- A field with its name and its type in their normal spelling, if it is written as
    fields are.  Only a field of a struct needs a name. -/
def FieldText.normal? (named : Bool) (f : FieldText) : Option FieldText := do
  let name ← if named then Grammar.whole? (Grammar.givenName true) f.name else some f.name
  let type ← Grammar.whole? Grammar.typeText f.type
  if f.attributes.all AttributeText.isWritten then some { f with name, type } else none

/-- The parameters behind the name.  Between a name and fields by position there are no
    conditions. -/
def ItemDecl.parameters? (d : ItemDecl) : Option Nat :=
  match d.generics with
  | none => some 0
  | some text =>
    (Grammar.whole? Grammar.declarationParameters text).bind fun p =>
      if d.kind = .tuple && p.conditions then none else some p.number

/-- The declaration with names and types in their normal spelling, and the number of its
    parameters, if it is written as declarations are. -/
def ItemDecl.normal? (d : ItemDecl) : Option (ItemDecl × Nat) := do
  let name ← Grammar.whole? (Grammar.givenName false) d.name
  let number ← d.parameters?
  let fields ← d.fields.mapM (FieldText.normal? (d.kind = .struct))
  if d.attributes.all AttributeText.isWritten then some ({ d with name, fields }, number) else none

/-! ### What is derived -/

structure DerivedField where
  name : String
  type : String
  access : Access
deriving DecidableEq, Repr

structure DerivedCandidate where
  source : String
  path : String
  container : Option String
deriving DecidableEq, Repr

structure DerivedMapping where
  target : String
  candidates : List DerivedCandidate
deriving DecidableEq, Repr

inductive Maker where
  | none
  | default
  /-- A call of the function at a path. -/
  | call (path : String)
deriving DecidableEq, Repr

structure Derived where
  name : String
  fields : List DerivedField
  mappings : List DerivedMapping
  supertypes : List String
  maker : Maker
deriving DecidableEq, Repr

/-- A candidate reads the field of the same name unless it says otherwise. -/
def CandidateText.derived (field : String) (c : CandidateText) : DerivedCandidate :=
  ⟨c.source, c.path.getD field, c.container⟩

structure FieldPart where
  field : DerivedField
  mapping : Option DerivedMapping
deriving DecidableEq, Repr

def FieldPart.of (name type : String) (s : FieldSettings) : FieldPart :=
  ⟨⟨name, type, s.access⟩,
    if s.candidates = [] then none
    else some ⟨name, s.candidates.map (CandidateText.derived name)⟩⟩

def FieldText.part (f : FieldText) : Except DeriveFault FieldPart :=
  (FieldSettings.ofAttributes f.attributes).map (FieldPart.of f.name f.type)

def Maker.of (s : TypeSettings) : Maker :=
  if s.default then .default
  else match s.constructor with
    | some path => .call path
    | .none => .none

def Derived.of (name : String) (s : TypeSettings) (parts : List FieldPart) : Derived :=
  { name
    fields := parts.map FieldPart.field
    mappings := parts.filterMap FieldPart.mapping
    supertypes := s.supertypes
    maker := .of s }

def ItemDecl.derived (d : ItemDecl) : Except DeriveFault Derived :=
  match d.kind with
  | .other => .error (.refused .notStruct)
  | .tuple | .unit => .error (.refused .unnamedFields)
  | .struct =>
    match TypeSettings.ofAttributes d.attributes with
    | .error fault => .error fault
    | .ok settings => (d.fields.mapM FieldText.part).map (Derived.of d.name settings)

/-- The record type that a declaration describes. -/
def derive (d : ItemDecl) : Except DeriveFault Derived :=
  match d.normal? with
  | none => .error .malformed
  | some (normal, number) =>
    if number ≠ 0 then .error (.refused .generic) else normal.derived

/-! ### As a record type -/

/-- What the texts of a declaration mean where it stands. -/
structure Meaning where
  type : String → Ty
  supertype : String → Supertype
  /-- The instance that a way to make one yields. -/
  make : Maker → Option Value

def DerivedField.field (m : Meaning) (f : DerivedField) : Field :=
  { name := f.name
    access := f.access
    type := if f.access = .hidden then .sealedOf (m.type f.type) else (m.type f.type).valueType
    stored := m.type f.type
    bound := true }

def DerivedCandidate.candidate (m : Meaning) (c : DerivedCandidate) : Candidate :=
  let read := Candidate.ofPath (m.type c.source) c.path
  match c.container with
  | none => read
  | some container => read.on container

def DerivedMapping.mapping (m : Meaning) (d : DerivedMapping) : FieldMapping :=
  ⟨d.target, d.candidates.map (DerivedCandidate.candidate m)⟩

def Derived.recordType (m : Meaning) (d : Derived) : RecordType :=
  { name := d.name
    fields := d.fields.map (DerivedField.field m)
    mappings := d.mappings.map (DerivedMapping.mapping m)
    supertypes := d.supertypes.map m.supertype
    instance? := m.make d.maker }

end RecordCopy.Derive
