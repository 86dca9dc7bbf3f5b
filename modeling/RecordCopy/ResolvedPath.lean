import RecordCopy.Ancestry
import RecordCopy.Report
/-!
# Resolved paths

A path is resolved once against a record type: every name on it is looked up, and what
is left is the list of fields it passes.  From then on the path is followed without
looking at the schema.  Between two fields the type of the first one says what is
entered.

`ReadPath.read` follows the fields one by one.  `ReadPath.compile` folds them into a
single function beforehand, in which entering the value of a field is left to the step
after it.  `WritePath.slot` finds the place of the last field.

Resolution itself is `Schema.resolveRead`, which follows all segments in one go, and
`Schema.resolveWrite`, which follows the containers and then looks for the last field by
itself.  The leftmost segment that cannot be followed decides how either fails.
`Schema.Trail` says which fields a path passes, without a word on access or on failures.
-/
namespace RecordCopy

structure ResolvedPath where
  root : String
  path : FieldPath
  /-- The fields that lead to the last one. -/
  containers : List BoundField
  leaf : BoundField
deriving DecidableEq, Repr

namespace ResolvedPath

def terminal (p : ResolvedPath) : ValueType := p.leaf.field.type

def depth (p : ResolvedPath) : Nat := p.containers.length

def fields (p : ResolvedPath) : List BoundField := p.containers ++ [p.leaf]

def outline (p : ResolvedPath) : String := p.root ++ "." ++ p.path.display

end ResolvedPath

/-! ### Reading -/

structure ReadStep where
  /-- Find the field. -/
  get : Value → Option Value
  /-- Enter what was found. -/
  enter : Value → Option Value

namespace ReadStep

def ofField (f : BoundField) : ReadStep := ⟨f.get, f.field.type.enter⟩

/-- Follow steps in order; the value of the last field is not entered. -/
def walk : List ReadStep → Value → Option Value
  | [], _ => none
  | [last], v => last.get v
  | step :: next :: rest, v =>
    match step.get v with
    | none => none
    | some field =>
      match step.enter field with
      | none => none
      | some inner => walk (next :: rest) inner

/-- A reader made so far, and the entering that it leaves to the next step. -/
abbrev Pending := (Value → Option Value) × (Value → Option Value)

def Pending.extend (before : Pending) (step : ReadStep) : Pending :=
  (fun v => ((before.1 v).bind before.2).bind step.get, step.enter)

def composed : List ReadStep → Value → Option Value
  | [] => fun _ => none
  | first :: rest => (rest.foldl Pending.extend (first.get, first.enter)).1

end ReadStep

structure ReadPath extends ResolvedPath
deriving DecidableEq, Repr

namespace ReadPath

def steps (p : ReadPath) : List ReadStep := p.fields.map ReadStep.ofField

def read (p : ReadPath) (v : Value) : Option Value := ReadStep.walk p.steps v

def compile (p : ReadPath) : Value → Option Value := ReadStep.composed p.steps

end ReadPath

/-! ### Writing -/

inductive WriteOutcome where
  | written (result : Value)
  /-- A container on the path is absent. -/
  | missingContainer
  /-- The slot does not take the value. -/
  | unassignable
deriving Repr

/-- What a write came to, by the instance after it; there is none where no slot was found. -/
def WriteOutcome.of : Option Stored → WriteOutcome
  | none => .missingContainer
  | some after => if after.taken then .written after.content else .unassignable

def BoundField.inner (f : BoundField) (v : Value) : Option Place :=
  match f.place v with
  | none => none
  | some field => (f.field.type.enterPlace field.content).map field.inside

structure WritePath extends ResolvedPath
deriving DecidableEq, Repr

namespace WritePath

/-- The place of what the last of the fields holds; with no fields, the whole value. -/
def locate : List BoundField → Value → Option Place
  | [], v => some (Place.whole v)
  | f :: rest, v =>
    match f.inner v with
    | none => none
    | some inner => (locate rest inner.content).map inner.inside

def slot (p : WritePath) (v : Value) : Option Place :=
  match locate p.containers v with
  | none => none
  | some container => (p.leaf.place container.content).map container.inside

/-- Put a value into the slot at the end of the path, as `store` does.  The instance has
    afterwards what the slot has, whether that took the value or not. -/
def storeWith (p : WritePath) (store : Value → Value → Stored) (instance_ v : Value) :
    Option Stored :=
  match p.slot instance_ with
  | none => none
  | some place =>
    let after := store place.content v
    some ⟨place.replace after.content, after.taken⟩

def writeWith (p : WritePath) (store : Value → Value → Stored) (instance_ v : Value) :
    WriteOutcome :=
  .of (p.storeWith store instance_ v)

def write (p : WritePath) (instance_ v : Value) : WriteOutcome :=
  p.writeWith p.terminal.store instance_ v

end WritePath

/-! ### Resolution -/

inductive Use where
  | read
  /-- To write something inside what it holds. -/
  | navigate
  | write
deriving DecidableEq, Repr

namespace Use

def verb : Use → String
  | .read => "read"
  | .navigate => "navigate through"
  | .write => "write"

def permittedBy : Use → Access → Bool
  | .read, access => access.readable
  | .navigate, access | .write, access => access.writable

end Use

def RecordType.noField (root : RecordType) (path : FieldPath) : Report :=
  .of (.fieldNotFound root.name path.display)

def RecordType.noAccess (root : RecordType) (path : FieldPath) (f : BoundField) (use : Use) :
    Report :=
  (Report.of (.cannotBind f.owner f.field.name
    ("field is " ++ f.field.access.display ++ ", cannot " ++ use.verb))).note
    ("Requested path: " ++ root.name ++ "." ++ path.display)

/-- The field that a segment names on the record reached so far, for a use. -/
def RecordType.fieldFor (root : RecordType) (path : FieldPath) (use : Use)
    (owner : Option RecordType) (segment : String) : Except Report BoundField :=
  match owner.bind (·.field? segment) with
  | none => .error (root.noField path)
  | some f => if use.permittedBy f.field.access then .ok f else .error (root.noAccess path f use)

namespace Schema

/-- The fields that segments name one after the other, each on the record that the
    one before holds. -/
def fieldsAlong (schema : Schema) (root : RecordType) (path : FieldPath) (use : Use)
    (owner : Option RecordType) : List String → Except Report (List BoundField)
  | [] => .ok []
  | segment :: rest =>
    match root.fieldFor path use owner segment with
    | .error report => .error report
    | .ok f =>
      match fieldsAlong schema root path use (schema.recordOf? f.field.type) rest with
      | .error report => .error report
      | .ok fs => .ok (f :: fs)

/-- The record that the last of the fields holds; with no fields, the root. -/
def reached (schema : Schema) (root : RecordType) (fields : List BoundField) : Option RecordType :=
  match fields.getLast? with
  | none => some root
  | some f => schema.recordOf? f.field.type

/-- Resolve a path whose containers and whose last field are wanted for the given uses. -/
def resolveFor (schema : Schema) (through last : Use) (root : RecordType) (path : FieldPath) :
    Except Report ResolvedPath :=
  match schema.fieldsAlong root path through (some root) path.containers with
  | .error report => .error report
  | .ok containers =>
    (root.fieldFor path last (schema.reached root containers) path.leaf).map
      (ResolvedPath.mk root.name path containers)

/-- Resolve a path for reading: every field on it has to be readable. -/
def resolveRead (schema : Schema) (root : RecordType) (path : FieldPath) : Except Report ReadPath :=
  match schema.fieldsAlong root path .read (some root) path.segments with
  | .error report => .error report
  | .ok fields =>
    match fields.getLast? with
    | none => .error (root.noField path)
    | some leaf => .ok ⟨⟨root.name, path, fields.dropLast, leaf⟩⟩

/-- Resolve a path for writing: every field on it has to be writable. -/
def resolveWrite (schema : Schema) (root : RecordType) (path : FieldPath) :
    Except Report WritePath :=
  (schema.resolveFor .navigate .write root path).map WritePath.mk

/-! ### The fields a path passes -/

/-- Names lead from a record through fields to a record, each name being that of a field
    of the record reached before it.  No record is reached where a field holds none, and
    no name leads on from there. -/
inductive Trail (schema : Schema) :
    Option RecordType → List String → List BoundField → Option RecordType → Prop where
  | nil (owner : Option RecordType) : Trail schema owner [] [] owner
  | cons {r : RecordType} {f : BoundField} {name : String} {names : List String}
    {fields : List BoundField} {last : Option RecordType} :
    r.field? name = some f → Trail schema (schema.recordOf? f.field.type) names fields last →
      Trail schema (some r) (name :: names) (f :: fields) last

end Schema

end RecordCopy
