/-!
# Balanced composition

Operations are composed into a binary tree: the list is split in the middle, each
half is composed, and the left one runs before the right one.  Every operation runs,
also after a failure, and the first failure in the order of the list is the answer.
No operations at all make up the one idle composition.

`runAll` is the same run without a tree, one operation after the other.
-/
namespace RecordCopy

inductive Composition (α : Type) where
  | idle
  | single (operation : α)
  | both (left right : Composition α)
deriving DecidableEq, Repr

namespace Composition

variable {α σ δ ε : Type}

def isIdle : Composition α → Bool
  | .idle => true
  | _ => false

def nesting : Composition α → Nat
  | .idle | .single _ => 0
  | .both left right => 1 + max left.nesting right.nesting

/-- The operations in the order in which they run. -/
def operations : Composition α → List α
  | .idle => []
  | .single operation => [operation]
  | .both left right => left.operations ++ right.operations

def firstFailure : Except ε Unit → Except ε Unit → Except ε Unit
  | .error e, _ => .error e
  | .ok (), second => second

def run (perform : α → σ → δ → δ × Except ε Unit) (c : Composition α) (source : σ) (state : δ) :
    δ × Except ε Unit :=
  match c with
  | .idle => (state, .ok ())
  | .single operation => perform operation source state
  | .both left right =>
    let first := left.run perform source state
    let second := right.run perform source first.1
    (second.1, firstFailure first.2 second.2)

/-- Compose a list of operations, and say how deep the composition is nested. -/
def balanced : List α → Composition α × Nat
  | [] => (.idle, 0)
  | [operation] => (.single operation, 0)
  | a :: b :: rest =>
    let operations := a :: b :: rest
    let half := operations.length / 2
    let left := balanced (operations.take half)
    let right := balanced (operations.drop half)
    (.both left.1 right.1, 1 + max left.2 right.2)
termination_by operations => operations.length
decreasing_by
  all_goals simp only [List.length_take, List.length_drop, List.length_cons]; omega

/-- Run operations one after the other, each on the state the one before left. -/
def runAll (perform : α → σ → δ → δ × Except ε Unit) (source : σ) :
    List α → δ → δ × Except ε Unit
  | [], state => (state, .ok ())
  | operation :: rest, state =>
    let first := perform operation source state
    let second := runAll perform source rest first.1
    (second.1, firstFailure first.2 second.2)

end Composition

end RecordCopy
