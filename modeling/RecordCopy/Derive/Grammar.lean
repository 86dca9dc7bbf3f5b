import RecordCopy.Derive.Grammar.Statement
/-!
# The grammar as a whole

Each module of the grammar reads its notions from readers for their parts.  `next` puts
these together, and `upTo n` is what comes of it after `n` rounds: it reads what is
nested no deeper.  From one token read to the next there are at most a few rounds, so a
number of rounds that grows with the number of tokens reads whatever can be read.

What is asked of the grammar from outside are types and paths, with their normal
spelling, and whether a declaration has parameters.
-/
namespace RecordCopy.Derive

namespace Grammar

open Reader

/-- One round more. -/
def next (g : Grammar) : Grammar where
  type := readType g
  bound := readBound g
  pattern := readPattern g
  operand := readOperand g
  operators := readOperators g
  clause := readClause g
  block := readBlock g

def upTo : Nat → Grammar
  | 0 => empty
  | n + 1 => (upTo n).next

def roundsFor (ts : List Token) : Nat := 4 * (ts.length + 1)

/-- Reads with enough rounds for what is left. -/
def ample {α : Type} (r : Grammar → Reader α) : Reader α := do
  r (upTo (roundsFor (← rest)))

def typeText : Reader String := text (ample fun g => g.type true)

def pathText : Reader String := text (ample fun g => path g false)

/-- A name that something is given.  A field may also have the low line in its place. -/
def givenName (low : Bool) : Reader String := do
  match ← token fun _ => true with
  | .name text => if isName text || (low && text == "_") then return text else failure
  | _ => failure

def content : Reader String := do
  match ← token fun _ => true with
  | .text content _ => return content
  | _ => failure

/-! ### All of a list of tokens -/

/-- What a reader answers if it takes all of the tokens and leaves nothing over between
    brackets. -/
def whole {α : Type} (r : Reader α) (ts : List Token) : Option α :=
  match r.run (.ofTokens ts) with
  | some (a, s) => if s.rest.isEmpty && !s.leftover then some a else none
  | none => none

def whole? {α : Type} (r : Reader α) (text : String) : Option α :=
  (Token.ofPart? text).bind (whole r)

/-- What stands behind the name of a declaration. -/
structure Parameters where
  number : Nat
  conditions : Bool
deriving DecidableEq, Repr

def declarationParameters : Reader Parameters := ample fun g => do
  let number ← parameters g
  return ⟨number, ← conditions g⟩

end Grammar

end RecordCopy.Derive
