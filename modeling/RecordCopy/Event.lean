/-!
# The log

What is worth knowing about a run is logged: each correspondence found, each mapping
without a matching candidate, and the one compile of each pair of types.
-/
namespace RecordCopy

inductive Event where
  | instructionResolved (source sourcePath destination destinationPath : String)
  | fieldUnmapped (source destination field : String)
  | planCompiled (source destination resolver : String) (instructions depth : Nat) (noop : Bool)
  | compileFailed (source destination resolver fault : String)
deriving DecidableEq, Repr

namespace Event

def level : Event → String
  | .instructionResolved .. => "TRACE"
  | .fieldUnmapped .. | .planCompiled .. => "DEBUG"
  | .compileFailed .. => "WARN"

def message : Event → String
  | .instructionResolved .. => "Resolved mapping instruction"
  | .fieldUnmapped .. => "No candidate matches the source type, field left unmapped"
  | .planCompiled .. => "Compiled copy plan"
  | .compileFailed .. => "Copy plan compile failed, caching the failure"

/-- The fields of an event with their contents, in order. -/
def fields : Event → List (String × String)
  | .instructionResolved source sourcePath destination destinationPath =>
    [("source", source), ("source_path", sourcePath), ("destination", destination),
     ("destination_path", destinationPath)]
  | .fieldUnmapped source destination field =>
    [("source", source), ("destination", destination), ("field", field)]
  | .planCompiled source destination resolver instructions depth noop =>
    [("source", source), ("destination", destination), ("resolver", resolver),
     ("instructions", toString instructions), ("depth", toString depth),
     ("noop", if noop then "true" else "false")]
  | .compileFailed source destination resolver fault =>
    [("source", source), ("destination", destination), ("resolver", resolver), ("error", fault)]

end Event

end RecordCopy
