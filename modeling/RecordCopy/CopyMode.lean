/-!
# Copy modes

A mode says which correspondences between two record types count: those their
mapping metadata declares, those of equal field names, or the declared ones first
and equal names for every field they leave uncovered.
-/
namespace RecordCopy

inductive CopyMode where
  /-- Declared correspondences, then equal names for the fields left uncovered. -/
  | all
  /-- Declared correspondences only. -/
  | annotationDriven
  /-- Equal names only. -/
  | directCopy
deriving DecidableEq, Repr, Inhabited

namespace CopyMode

/-- All modes, the default one first. -/
def modes : List CopyMode := [.all, .annotationDriven, .directCopy]

def display : CopyMode → String
  | .all => "ALL"
  | .annotationDriven => "ANNOTATION_DRIVEN"
  | .directCopy => "DIRECT_COPY"

def outline : CopyMode → String
  | .all => "All"
  | .annotationDriven => "AnnotationDriven"
  | .directCopy => "DirectCopy"

/-- The name under which the resolver of a mode appears in the log. -/
def resolverName : CopyMode → String
  | .all => "combined"
  | .annotationDriven => "annotation_driven"
  | .directCopy => "direct_by_name"

/-- Read a name exactly as `display` writes it. -/
def ofName? (name : String) : Option CopyMode :=
  modes.find? fun m => decide (m.display = name)

/-- Read a name in any mixture of ASCII upper and lower case; nothing is trimmed. -/
def ofText? (text : String) : Option CopyMode :=
  ofName? (String.ofList (text.toList.map Char.toUpper))

def unknownName : String := "Matching variant not found"

end CopyMode

end RecordCopy
