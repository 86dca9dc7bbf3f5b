import RecordCopy.Plan
import RecordCopy.Resolver
/-!
# Plans kept for pairs of types

The plan for a pair of record types is compiled when it is first asked for, and kept.
So is a failure: the resolver is never asked about a pair again.  Whoever asked first
sees the whole report of a failure; everyone later sees the same fault, with a note
that it was kept.

A failure that is kept is always one of resolution.  Whatever else a resolver reports,
and a panic, becomes a failure to compile the pair.
-/
namespace RecordCopy

/-- A plan that is handed out to everyone who asks for its pair.  The serial number
    tells it apart from any other plan of the same cache. -/
structure SharedPlan where
  serial : Nat
  plan : Plan
deriving DecidableEq, Repr

structure PlanCache (σ : Type) where
  resolver : Resolver σ
  state : σ
  /-- The pairs asked for, with the plan or the failure kept for each. -/
  slots : List ((String × String) × Except Fault SharedPlan)

namespace PlanCache

variable {σ : Type}

def start (resolver : Resolver σ) (state : σ) : PlanCache σ := ⟨resolver, state, []⟩

def slot? (cache : PlanCache σ) (source destination : RecordType) :
    Option (Except Fault SharedPlan) :=
  (cache.slots.find? fun s => decide (s.1 = (source.name, destination.name))).map (·.2)

/-- How many pairs were compiled, failures included. -/
def size (cache : PlanCache σ) : Nat := cache.slots.length

def isEmpty (cache : PlanCache σ) : Bool := cache.slots.isEmpty

def panicText : String := "resolver panicked"

/-- A report that may be kept: one of resolution as it is, any other as a failure to
    compile the pair. -/
def keepable (source destination : RecordType) (report : Report) : Report :=
  if report.fault.isResolution then report
  else report.recast (.compilationFailed source.name destination.name report.fault.message)

def settle (source destination : RecordType) : Answer → Except Report Plan
  | .returned (.ok instructions) => .ok (Plan.compile source destination instructions)
  | .returned (.error report) => .error (keepable source destination report)
  | .panicked message =>
    .error (.of (.compilationFailed source.name destination.name (message.getD panicText)))

def compileEvent (resolver : String) (source destination : RecordType) :
    Except Report Plan → Event
  | .ok plan =>
    .planCompiled source.name destination.name resolver plan.instructionCount plan.depth plan.isNoop
  | .error report => .compileFailed source.name destination.name resolver report.fault.message

structure Served (σ : Type) where
  answer : Except Report SharedPlan
  cache : PlanCache σ
  events : List Event

/-- A failure that was kept, as reported to later requests. -/
def keptFailure (source destination : RecordType) (fault : Fault) : Report :=
  (Report.of fault).note ("Cached failure for " ++ source.name ++ " -> " ++ destination.name)

/-- Ask the resolver about a pair and keep what comes of it. -/
def compile (cache : PlanCache σ) (source destination : RecordType) : Served σ :=
  let called := cache.resolver.resolve cache.state source destination
  let settled := settle source destination called.2.answer
  let shared := settled.map (SharedPlan.mk cache.slots.length)
  { answer := shared
    cache :=
      { cache with
        state := called.1
        slots := cache.slots ++ [((source.name, destination.name), shared.mapError Report.fault)] }
    events := called.2.events ++ [compileEvent cache.resolver.name source destination settled] }

/-- The plan for a pair, compiled when the pair is asked for the first time. -/
def get (cache : PlanCache σ) (source destination : RecordType) : Served σ :=
  match cache.slot? source destination with
  | some (.ok shared) => ⟨.ok shared, cache, []⟩
  | some (.error fault) => ⟨.error (keptFailure source destination fault), cache, []⟩
  | none => cache.compile source destination

end PlanCache

end RecordCopy
