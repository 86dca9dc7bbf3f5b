import RecordCopy.Composition
import RecordCopy.Instruction
/-!
# Plans

A plan holds the instructions that copy one record type into another, composed once.
Executing it carries all of them out, in order and whatever fails in between, and
answers with the first failure.
-/
namespace RecordCopy

structure Plan where
  source : String
  destination : String
  operation : Composition Instruction
  instructionCount : Nat
  depth : Nat
deriving DecidableEq, Repr

namespace Plan

def compile (source destination : RecordType) (instructions : List Instruction) : Plan :=
  let composed := Composition.balanced instructions
  ⟨source.name, destination.name, composed.1, instructions.length, composed.2⟩

/-- Whether the plan copies nothing at all. -/
def isNoop (p : Plan) : Bool := p.operation.isIdle

def outline (p : Plan) : String :=
  Text.partialOutline "CompiledPlan"
    [("source", Text.quoted p.source), ("destination", Text.quoted p.destination),
     ("instruction_count", toString p.instructionCount), ("depth", toString p.depth)]

end Plan

namespace Schema

def execute (schema : Schema) (plan : Plan) (source : Value) (target : Target) :
    Target × Except Report Unit :=
  plan.operation.run schema.copy source target

end Schema

end RecordCopy
