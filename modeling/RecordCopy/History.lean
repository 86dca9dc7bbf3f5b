import RecordCopy.Copier
/-!
# Histories

A copier serves one request after the other, and what it keeps from one of them shows
in the next.  A history is a list of requests; `Copier.serveAll` answers all of them.

`Request.pair?` says about which pair of types a request asks for a plan.  A request
whose instances are not of the types they are described with asks for none, nor does one
for a fresh instance where none can be made.
-/
namespace RecordCopy

inductive Request where
  | plan (source destination : RecordType)
  | map (value : Value) (source : RecordType) (target : Target) (destination : RecordType)
  | mapChecked (value : Value) (source : RecordType) (target : Target) (destination : RecordType)
  | create (value : Value) (source : RecordType) (fresh : Allocation) (destination : RecordType)
  | createChecked (value : Value) (source : RecordType) (fresh : Allocation)
    (destination : RecordType)

inductive Reply where
  | planned (answer : Except Report SharedPlan)
  | mapped (result : Except Report Unit) (target : Target)
  | created (result : Except Report Value) (fresh : Allocation)

/-- What a request comes to, and what was logged meanwhile. -/
structure Handled where
  reply : Reply
  events : List Event

namespace Request

def types : Request → RecordType × RecordType
  | .plan source destination | .map _ source _ destination | .mapChecked _ source _ destination
  | .create _ source _ destination | .createChecked _ source _ destination => (source, destination)

/-- Whether the instances of a request are what they are described as; of a fresh
    instance, whether it can be made and is of the type it is made for. -/
def Admitted : Request → Prop
  | .plan .. | .map .. => True
  | .mapChecked value source target destination =>
    value.type = source.type ∧ target.value.type = destination.type
  | .create value source _ destination | .createChecked value source _ destination =>
    ∃ made, destination.instance? = some made ∧ value.type = source.type ∧
      made.type = destination.type

instance : DecidablePred Admitted
  | .plan .. | .map .. => isTrue trivial
  | .mapChecked .. => inferInstanceAs (Decidable (_ ∧ _))
  | .create _ _ _ destination | .createChecked _ _ _ destination =>
    match h : destination.instance? with
    | none => isFalse fun ⟨_, made, _⟩ => by rw [h] at made; cases made
    | some made =>
      if hd : _ ∧ made.type = destination.type then isTrue ⟨made, h, hd⟩
      else isFalse fun ⟨other, made', rest⟩ => by
        rw [h] at made'
        cases made'
        exact hd rest

/-- The names of the pair of types whose plan a request asks for. -/
def pair? (r : Request) : Option (String × String) :=
  if r.Admitted then some (r.types.1.name, r.types.2.name) else none

end Request

namespace Copier

variable {σ : Type}

def serve (schema : Schema) (c : Copier σ) : Request → Copier σ × Handled
  | .plan source destination =>
    let served := c.plan source destination
    (⟨served.cache⟩, ⟨.planned served.answer, served.events⟩)
  | .map value source target destination =>
    let mapped := c.map schema value source target destination
    (mapped.copier, ⟨.mapped mapped.result mapped.target, mapped.events⟩)
  | .mapChecked value source target destination =>
    let mapped := c.mapChecked schema value source target destination
    (mapped.copier, ⟨.mapped mapped.result mapped.target, mapped.events⟩)
  | .create value source fresh destination =>
    let created := c.create schema value source fresh destination
    (created.copier, ⟨.created created.result created.fresh, created.events⟩)
  | .createChecked value source fresh destination =>
    let created := c.createChecked schema value source fresh destination
    (created.copier, ⟨.created created.result created.fresh, created.events⟩)

def serveAll (schema : Schema) (c : Copier σ) : List Request → Copier σ × List Handled
  | [] => (c, [])
  | request :: rest =>
    let first := c.serve schema request
    let later := first.1.serveAll schema rest
    (later.1, first.2 :: later.2)

end Copier

end RecordCopy
