import RecordCopy.Text.Outline
/-!
# What can go wrong, and how it is reported

A `Fault` is a cause: a path that names no field, two field types without a copy
between them, a container that is absent at the time of the copy.  Its wording is
in `Fault.message` alone.  The first five faults are found while a correspondence
between two types is worked out (`isResolution`), before any value is touched.

A `Report` is a fault with notes on where it arose, the latest note first.
-/
namespace RecordCopy

inductive Fault where
  | fieldNotFound (record path : String)
  | incompatibleFieldTypes (sourceType sourcePath destType destPath : String)
  | accessDenied (detail : String)
  | constructionFailed (record reason : String)
  | compilationFailed (sourceType destType cause : String)
  | missingContainer (record path : String)
  | unassignableValue (valueType destType destPath : String)
  | typeMismatch (expected found : String)
  | invalidConfiguration (detail : String)
deriving DecidableEq, Repr

namespace Fault

def cannotBind (record field reason : String) : Fault :=
  .accessDenied ("Cannot bind " ++ record ++ "." ++ field ++ ": " ++ reason)

def unreadable (what details : String) : Fault :=
  .invalidConfiguration ("Failed to parse " ++ what ++ ": " ++ details)

def kind : Fault → String
  | .fieldNotFound .. => "FieldNotFound"
  | .incompatibleFieldTypes .. => "IncompatibleFieldTypes"
  | .accessDenied .. => "AccessDenied"
  | .constructionFailed .. => "ConstructionFailed"
  | .compilationFailed .. => "CompilationFailed"
  | .missingContainer .. => "MissingContainer"
  | .unassignableValue .. => "UnassignableValue"
  | .typeMismatch .. => "TypeMismatch"
  | .invalidConfiguration .. => "InvalidConfiguration"

def message : Fault → String
  | .fieldNotFound record path => "Failed to find field: " ++ record ++ "." ++ path
  | .incompatibleFieldTypes sourceType sourcePath destType destPath =>
    "Incompatible field types: " ++ sourceType ++ "." ++ sourcePath ++ " cannot be copied to " ++
      destType ++ "." ++ destPath
  | .accessDenied detail => "Access denied: " ++ detail
  | .constructionFailed record reason => "Construction failed for " ++ record ++ ": " ++ reason
  | .compilationFailed sourceType destType cause =>
    "Failed to compile mapping from " ++ sourceType ++ " to " ++ destType ++ ": " ++ cause
  | .missingContainer record path => "Missing container while navigating " ++ record ++ "." ++ path
  | .unassignableValue valueType destType destPath =>
    "Value of type " ++ valueType ++ " cannot be assigned to " ++ destType ++ "." ++ destPath
  | .typeMismatch expected found =>
    "Type mismatch: expected an instance of " ++ expected ++ ", got " ++ found
  | .invalidConfiguration detail => "Invalid configuration: " ++ detail

/-- Found while a correspondence is worked out, before any value is touched. -/
def isResolution : Fault → Bool
  | .fieldNotFound .. | .incompatibleFieldTypes .. | .accessDenied .. | .constructionFailed ..
  | .compilationFailed .. => true
  | .missingContainer .. | .unassignableValue .. | .typeMismatch ..
  | .invalidConfiguration .. => false

def parts : Fault → List (String × String) ⊕ String
  | .fieldNotFound record path | .missingContainer record path =>
    .inl [("type_name", record), ("path", path)]
  | .incompatibleFieldTypes sourceType sourcePath destType destPath =>
    .inl [("source_type", sourceType), ("source_path", sourcePath), ("dest_type", destType),
      ("dest_path", destPath)]
  | .constructionFailed record reason => .inl [("type_name", record), ("reason", reason)]
  | .compilationFailed sourceType destType cause =>
    .inl [("source_type", sourceType), ("dest_type", destType), ("cause", cause)]
  | .unassignableValue valueType destType destPath =>
    .inl [("value_type", valueType), ("dest_type", destType), ("dest_path", destPath)]
  | .typeMismatch expected found => .inl [("expected", expected), ("found", found)]
  | .accessDenied detail | .invalidConfiguration detail => .inr detail

/-- The fault in outline, with its texts between quotes. -/
def outline (f : Fault) : String :=
  match f.parts with
  | .inl parts => Text.outline f.kind (parts.map fun p => (p.1, Text.quoted p.2))
  | .inr detail => Text.wrapped f.kind (Text.quoted detail)

end Fault

structure Report where
  fault : Fault
  /-- Notes on the fault, the latest first. -/
  notes : List String
deriving DecidableEq, Repr

namespace Report

def of (f : Fault) : Report := ⟨f, []⟩

def note (r : Report) (text : String) : Report := ⟨r.fault, text :: r.notes⟩

/-- The same notes on another fault. -/
def recast (r : Report) (f : Fault) : Report := ⟨f, r.notes⟩

end Report

end RecordCopy
