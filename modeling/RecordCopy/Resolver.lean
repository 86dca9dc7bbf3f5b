import RecordCopy.Correspondence
/-!
# Resolvers

A resolver answers which instructions copy one record type into another.  It may keep
a state of its own and answer differently from call to call; it may fail with any
report; and it may break off in a panic, whose message is text or something else.

The copy modes are resolvers without a state.  `recorded` keeps a record of the calls.
-/
namespace RecordCopy

inductive Answer where
  | returned (result : Except Report (List Instruction))
  /-- The call broke off, with a message if what it left behind is a text. -/
  | panicked (message : Option String)

structure Response where
  /-- What the resolver logged. -/
  events : List Event
  answer : Answer

structure Resolver (σ : Type) where
  /-- The name of the resolver in the log. -/
  name : String
  resolve : σ → RecordType → RecordType → σ × Response

namespace Resolver

/-- A resolver that answers every call for a pair in the same way. -/
def stateless (name : String) (answer : RecordType → RecordType → Response) : Resolver Unit :=
  ⟨name, fun _ source destination => ((), answer source destination)⟩

def Response.ofResolution (r : Resolution) : Response := ⟨r.events, .returned r.result⟩

def ofMode (schema : Schema) (mode : CopyMode) : Resolver Unit :=
  stateless mode.resolverName fun source destination =>
    Response.ofResolution (schema.resolve mode source destination)

/-- The same pairs of paths between any two types. -/
def ofPairs (schema : Schema) (name : String) (pairs : List (String × String)) : Resolver Unit :=
  stateless name fun source destination =>
    ⟨[], .returned (schema.pairInstructions source destination pairs)⟩

def failing (name : String) (report : Report) : Resolver Unit :=
  stateless name fun _ _ => ⟨[], .returned (.error report)⟩

def panicking (name : String) (message : Option String) : Resolver Unit :=
  stateless name fun _ _ => ⟨[], .panicked message⟩

variable {σ : Type}

def named (r : Resolver σ) (name : String) : Resolver σ := { r with name := name }

/-- The same resolver with a record of the pairs it was asked about, the latest last. -/
def recorded (r : Resolver σ) : Resolver (σ × List (String × String)) :=
  ⟨r.name, fun state source destination =>
    let next := r.resolve state.1 source destination
    ((next.1, state.2 ++ [(source.name, destination.name)]), next.2)⟩

end Resolver

end RecordCopy
