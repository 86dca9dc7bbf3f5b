import RecordCopy.ResolvedPath
/-!
# Instructions

An instruction copies the value at one path of a source into the slot at one path of
a destination.  Its two paths end in types that were found compatible when the
instruction was made.

How the value travels depends on the two types: it is put into the slot as it is,
erased into a wildcard first, or converted into a supertype (`Transfer`).  A slot that
refuses a value is written all the same, with what it held.
-/
namespace RecordCopy

structure Instruction where
  source : ReadPath
  destination : WritePath
deriving DecidableEq, Repr

namespace Instruction

def outline (i : Instruction) : String :=
  Text.outline "MappingInstruction"
    [("source", i.source.outline), ("destination", i.destination.outline)]

/-! ### How a copy fails -/

def missingSourceContainer (i : Instruction) : Report :=
  (Report.of (.missingContainer i.source.root i.source.path.display)).note
    "An optional container on the source path holds no value"

def missingDestinationContainer (i : Instruction) : Report :=
  (Report.of (.missingContainer i.destination.root i.destination.path.display)).note
    "Intermediate destination containers are not created"

def unassignable (i : Instruction) : Report :=
  (Report.of (.unassignableValue i.source.terminal.type.fullName i.destination.root
    i.destination.path.display)).note ("Read from " ++ i.source.outline)

end Instruction

inductive Transfer where
  /-- Put into the slot as the type of the slot says. -/
  | plain
  /-- Erased into a wildcard first. -/
  | erased
  /-- Converted into a supertype. -/
  | converted (upcast : Upcast)

/-- What a copy writes into: the destination, and the number of the next allocation. -/
structure Target where
  value : Value
  fresh : Allocation
deriving Repr

namespace Schema

def pair (schema : Schema) (source : ReadPath) (destination : WritePath) :
    Except Report Instruction :=
  if schema.compatible (some source.terminal) (some destination.terminal) then
    .ok ⟨source, destination⟩
  else
    .error ((Report.of (.incompatibleFieldTypes source.root source.path.display destination.root
      destination.path.display)).note
      ("Source field type: " ++ source.terminal.type.fullName ++ ", destination field type: " ++
        destination.terminal.type.fullName))

/-- How values get from a field of one type into a slot of another.  What goes into a
    wildcard is erased unless it is a wildcard; into anything else a value is
    converted when a supertype is declared for it. -/
def transfer (schema : Schema) (source destination : ValueType) : Transfer :=
  if destination.isWildcard then
    if source.isWildcard then .plain else .erased
  else
    match schema.upcast? source destination with
    | some upcast => .converted upcast
    | none => .plain

/-- Put a value read from the source field into the destination slot, if there is one.  A
    value that cannot be erased or converted does not get that far. -/
def deliver (schema : Schema) (i : Instruction) (v : Value) (target : Target) : Option Stored :=
  match schema.transfer i.source.terminal i.destination.terminal with
  | .plain => i.destination.storeWith i.destination.terminal.store target.value v
  | .erased =>
    match i.source.terminal.erase target.fresh v with
    | none => some (.refused target.value)
    | some wildcard => i.destination.storeWith i.destination.terminal.store target.value wildcard
  | .converted upcast =>
    match upcast.lead v with
    | none => some (.refused target.value)
    | some w => i.destination.storeWith upcast.last.store target.value w

/-- Carry out one instruction.  A value that is erased on the way takes the next
    allocation, so an instruction carried out moves on to the one after. -/
def copy (schema : Schema) (i : Instruction) (source : Value) (target : Target) :
    Target × Except Report Unit :=
  match i.source.compile source with
  | none => (target, .error i.missingSourceContainer)
  | some v =>
    match schema.deliver i v target with
    | none => (target, .error i.missingDestinationContainer)
    | some after =>
      if after.taken then (⟨after.content, target.fresh + 1⟩, .ok ())
      else (⟨after.content, target.fresh⟩, .error i.unassignable)

end Schema

end RecordCopy
