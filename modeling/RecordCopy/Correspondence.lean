import RecordCopy.CopyMode
import RecordCopy.Event
import RecordCopy.Instruction
/-!
# Correspondences between two record types

For each field of the destination, in declaration order, a copy mode finds what is to
be copied into it.  A declared mapping yields one finding: an instruction, or that no
candidate matches the source type, or a failure.  A field of the same name yields one
finding or, where the source has no such field to read or the destination may not be
written, none.

Findings are collected from the left up to the first failure, which is then the
answer; what was found before it has been logged.
-/
namespace RecordCopy

inductive Finding where
  | resolved (instruction : Instruction)
  /-- No candidate of the mapping of `target` matches the source type. -/
  | unmapped (source destination target : String)
  | failed (report : Report)

structure Resolution where
  events : List Event
  result : Except Report (List Instruction)

namespace Finding

def ofExcept : Except Report Instruction → Finding
  | .ok instruction => .resolved instruction
  | .error report => .failed report

/-- Whether the finding leaves nothing to be looked for: it is not merely that no
    candidate matches. -/
def covers : Finding → Bool
  | .unmapped .. => false
  | _ => true

def collect : List Finding → Resolution
  | [] => ⟨[], .ok []⟩
  | .failed report :: _ => ⟨[], .error report⟩
  | .unmapped source destination target :: rest =>
    ⟨.fieldUnmapped source destination target :: (collect rest).events, (collect rest).result⟩
  | .resolved instruction :: rest =>
    ⟨.instructionResolved instruction.source.root instruction.source.path.display
        instruction.destination.root instruction.destination.path.display ::
        (collect rest).events,
      (collect rest).result.map (instruction :: ·)⟩

end Finding

namespace Schema

def instruction (schema : Schema) (source : RecordType) (sourcePath : FieldPath)
    (destination : RecordType) (destinationPath : FieldPath) : Except Report Instruction :=
  match schema.resolveRead source sourcePath with
  | .error report => .error report
  | .ok reading =>
    match schema.resolveWrite destination destinationPath with
    | .error report => .error report
    | .ok writing => schema.pair reading writing

/-! ### Declared mappings -/

/-- The preferred one of the candidates that match a source type. -/
def candidateFor? (schema : Schema) (source : RecordType) (m : FieldMapping) : Option Candidate :=
  m.candidates.find? fun c => schema.compatible (some c.source.valueType) (some source.valueType)

/-- What a mapping of the destination comes to for a source type. -/
def findMapping (schema : Schema) (source destination : RecordType) (m : FieldMapping) : Finding :=
  match schema.candidateFor? source m with
  | none => .unmapped source.name destination.name m.target
  | some c =>
    match c.sourcePath? with
    | none => .failed (.of (.fieldNotFound source.name c.effectivePath))
    | some sourcePath =>
      match FieldPath.parse? m.target with
      | none => .failed (.of (.fieldNotFound destination.name m.target))
      | some target => .ofExcept (schema.instruction source sourcePath destination target)

def findDeclared (schema : Schema) (source destination : RecordType) (f : Field) : List Finding :=
  (destination.mappingsFor f.name).map (schema.findMapping source destination)

def strayMapping? (destination : RecordType) : Option FieldMapping :=
  destination.mappings.find? fun m => (m.targetRoot?.bind destination.field?).isNone

def strayTarget (destination : RecordType) (m : FieldMapping) : Report :=
  (Report.of (.fieldNotFound destination.name m.target)).note
    "Mapping metadata targets a field the destination does not declare"

/-! ### Equal names -/

def offers (source : RecordType) (name : String) : Bool :=
  match source.field? name with
  | some f => f.field.access.readable
  | none => false

/-- What a field of the destination comes to by its name. -/
def findSameName (schema : Schema) (source destination : RecordType) (f : Field) : List Finding :=
  if f.access.writable && offers source f.name then
    match FieldPath.parse? f.name with
    | none => [.failed (.of (.fieldNotFound destination.name f.name))]
    | some path => [.ofExcept (schema.instruction source path destination path)]
  else []

/-! ### The three modes -/

/-- What a field of the destination comes to in a mode.  Equal names are looked at
    after declared mappings only for a field they leave uncovered. -/
def findField (schema : Schema) (mode : CopyMode) (source destination : RecordType) (f : Field) :
    List Finding :=
  match mode with
  | .annotationDriven => schema.findDeclared source destination f
  | .directCopy => schema.findSameName source destination f
  | .all =>
    let declared := schema.findDeclared source destination f
    if declared.any Finding.covers then declared
    else declared ++ schema.findSameName source destination f

/-- What all fields of the destination come to, in declaration order.  Where mappings
    count, each of them has to be for a field of the destination. -/
def findings (schema : Schema) (mode : CopyMode) (source destination : RecordType) :
    List Finding :=
  match mode, strayMapping? destination with
  | .annotationDriven, some m | .all, some m => [.failed (strayTarget destination m)]
  | mode, _ => destination.fields.flatMap (schema.findField mode source destination)

def resolve (schema : Schema) (mode : CopyMode) (source destination : RecordType) : Resolution :=
  Finding.collect (schema.findings mode source destination)

/-! ### Chosen pairs of paths -/

def pairInstruction (schema : Schema) (source destination : RecordType) (from_ to_ : String) :
    Except Report Instruction :=
  match FieldPath.parse? from_ with
  | none => .error (.of (.fieldNotFound source.name from_))
  | some sourcePath =>
    match schema.resolveRead source sourcePath with
    | .error report => .error report
    | .ok reading =>
      match FieldPath.parse? to_ with
      | none => .error (.of (.fieldNotFound destination.name to_))
      | some destinationPath =>
        match schema.resolveWrite destination destinationPath with
        | .error report => .error report
        | .ok writing => schema.pair reading writing

/-- The instructions between pairs of paths, the first failure being the answer. -/
def pairInstructions (schema : Schema) (source destination : RecordType)
    (pairs : List (String × String)) : Except Report (List Instruction) :=
  pairs.mapM fun p => schema.pairInstruction source destination p.1 p.2

end Schema

end RecordCopy
