import RecordCopy.PlanCache
/-!
# Copying instances

A copier keeps the plans it compiled and copies instances with them.  `map` copies
into an instance that is at hand, `create` makes a fresh one first.  Both come in a
form for instances whose types are known, and in a form that checks an instance
against the type it is described with before anything else happens.
-/
namespace RecordCopy

structure Copier (σ : Type) where
  cache : PlanCache σ

structure Mapped (σ : Type) where
  result : Except Report Unit
  /-- The destination after the copy, also after one that failed. -/
  target : Target
  copier : Copier σ
  events : List Event

structure Created (σ : Type) where
  result : Except Report Value
  /-- The number of the next allocation. -/
  fresh : Allocation
  copier : Copier σ
  events : List Event

namespace Copier

variable {σ : Type}

def start (resolver : Resolver σ) (state : σ) : Copier σ := ⟨.start resolver state⟩

def ofMode (schema : Schema) (mode : CopyMode) : Copier Unit :=
  start (Resolver.ofMode schema mode) ()

/-- How many pairs were compiled so far, failures included. -/
def cachedPlans (c : Copier σ) : Nat := c.cache.size

def plan (c : Copier σ) (source destination : RecordType) : PlanCache.Served σ :=
  c.cache.get source destination

/-! ### Checks -/

def unknownType : String := "unknown"

def mismatch (expected : RecordType) : Report := .of (.typeMismatch expected.name unknownType)

/-- An instance has to be of exactly the type it is described with. -/
def checkInstance (v : Value) (described : RecordType) : Except Report Unit :=
  if v.type = described.type then .ok () else .error (mismatch described)

def notConstructible (r : RecordType) : Report :=
  (Report.of (.constructionFailed r.name "no default constructor declared")).note
    "Declare one with #[mapping(default)] or #[mapping(constructor = path)]"

def misconstructed (r : RecordType) : Report :=
  .of (.constructionFailed r.name "constructor produced an instance of another type")

/-! ### Copying -/

/-- Copy between instances that are of the two types. -/
def map (schema : Schema) (c : Copier σ) (source : Value) (sourceType : RecordType)
    (target : Target) (destinationType : RecordType) : Mapped σ :=
  let served := c.plan sourceType destinationType
  match served.answer with
  | .error report => ⟨.error report, target, ⟨served.cache⟩, served.events⟩
  | .ok shared =>
    let done := schema.execute shared.plan source target
    ⟨done.2, done.1, ⟨served.cache⟩, served.events⟩

/-- Copy between any instances, each described with a type. -/
def mapChecked (schema : Schema) (c : Copier σ) (source : Value) (sourceType : RecordType)
    (target : Target) (destinationType : RecordType) : Mapped σ :=
  match checkInstance source sourceType with
  | .error report => ⟨.error report, target, c, []⟩
  | .ok () =>
    match checkInstance target.value destinationType with
    | .error report => ⟨.error report, target, c, []⟩
    | .ok () => c.map schema source sourceType target destinationType

/-- Copy any instance into a fresh one. -/
def createChecked (schema : Schema) (c : Copier σ) (source : Value) (sourceType : RecordType)
    (fresh : Allocation) (destinationType : RecordType) : Created σ :=
  match destinationType.instance? with
  | none => ⟨.error (notConstructible destinationType), fresh, c, []⟩
  | some made =>
    let mapped := c.mapChecked schema source sourceType ⟨made, fresh⟩ destinationType
    ⟨mapped.result.map fun _ => mapped.target.value, mapped.target.fresh, mapped.copier,
      mapped.events⟩

/-- Copy an instance of a known type into a fresh one of a known type. -/
def create (schema : Schema) (c : Copier σ) (source : Value) (sourceType : RecordType)
    (fresh : Allocation) (destinationType : RecordType) : Created σ :=
  let created := c.createChecked schema source sourceType fresh destinationType
  match created.result with
  | .error _ => created
  | .ok v =>
    if v.type = destinationType.type then created
    else { created with result := .error (misconstructed destinationType) }

end Copier

end RecordCopy
