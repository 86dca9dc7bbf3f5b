import RecordCopy.Derive.Reader
/-!
# Notions of the grammar

Types, bounds, patterns, expressions and blocks of Rust refer to each other: the length
of an array is an expression, and an expression may name types.  `Grammar` has one
reader for each of these notions, and the modules beside this one say how to read each
of them if the readers for their parts are given.

The readers answer the little that whoever reads a larger notion has to know of its
parts.
-/
namespace RecordCopy.Derive

/-- What a type is, as far as it matters to what stands around it. -/
inductive TypeForm where
  /-- A path; `lone` if it is one name, maybe with arguments. -/
  | path (lone : Bool)
  /-- One bound without a plus sign behind it, maybe in parentheses. -/
  | bound (grouped : Bool)
  | other
deriving DecidableEq, Repr

inductive BoundForm where
  | lifetime
  /-- The names that a hidden type may use. -/
  | capture
  | trait
deriving DecidableEq, Repr

inductive PatternForm where
  /-- A range that lacks one of its ends. -/
  | openRange
  | other
deriving DecidableEq, Repr

inductive ExpressionForm where
  | range
  | comparison
  /-- Ends with a brace and may stand as a statement of its own. -/
  | block
  /-- An invocation with braces. -/
  | invocation
  | other
deriving DecidableEq, Repr

/-- How tightly operators bind, the loosest first. -/
inductive Level where
  | lowest | assignment | range | or | and | condition | comparison | bitOr | bitXor | bitAnd
  | shift | sum | product | cast
deriving DecidableEq, Repr

def Level.below (a b : Level) : Bool := decide (a.ctorIdx < b.ctorIdx)

structure Grammar where
  /-- A type.  With `plus`, bounds may be joined to it. -/
  type : (plus : Bool) → Reader TypeForm
  /-- A bound.  With `uses` it may be a capture, with `const` the trait may be constant. -/
  bound : (uses const : Bool) → Reader BoundForm
  pattern : Reader PatternForm
  /-- An expression without binary operators.  With `braces` it may be a struct. -/
  operand : (braces : Bool) → Reader ExpressionForm
  /-- The operators behind an expression that bind at least as tightly as the level. -/
  operators : (braces : Bool) → ExpressionForm → Level → Reader ExpressionForm
  /-- An expression as a statement or as the value of a case.  If it begins with one that
      ends with a brace, it mostly ends there. -/
  clause : Reader ExpressionForm
  /-- Statements in braces.  With `attributes`, some may stand before them. -/
  block : (attributes : Bool) → Reader Unit

namespace Grammar

def empty : Grammar where
  type _ := failure
  bound _ _ := failure
  pattern := failure
  operand _ := failure
  operators _ _ _ := failure
  clause := failure
  block _ := failure

def expression (g : Grammar) (braces : Bool) : Reader ExpressionForm := do
  g.operators braces (← g.operand braces) .lowest

/-! ### Words -/

def keywords : List String :=
  ["_", "abstract", "as", "async", "await", "become", "box", "break", "const", "continue", "crate",
   "do", "dyn", "else", "enum", "extern", "false", "final", "fn", "for", "if", "impl", "in", "let",
   "loop", "macro", "match", "mod", "move", "mut", "override", "priv", "pub", "ref", "return",
   "Self", "self", "static", "struct", "super", "trait", "true", "try", "type", "typeof", "unsafe",
   "unsized", "use", "virtual", "where", "while", "yield"]

def isName (text : String) : Bool := !keywords.contains text

def startsName : List Token → Bool
  | .name text :: _ => isName text
  | _ => false

def name : Reader Unit := do
  let _ ← Reader.token fun t => startsName [t]

/-- A name or the low line, which names nothing. -/
def startsLabel (ts : List Token) : Bool := startsName ts || startsWord "_" ts

def startsOneOf (words : List String) (ts : List Token) : Bool := words.any (startsWord · ts)

/-- A colon that is not the first of two. -/
def startsColon (ts : List Token) : Bool := startsSign ":" ts && !startsSign "::" ts

/-- An equals sign that begins neither an arrow nor a comparison. -/
def startsEquals (ts : List Token) : Bool :=
  startsSign "=" ts && !startsSign "=>" ts && !startsSign "==" ts

/-- A point that does not begin a range. -/
def startsPoint (ts : List Token) : Bool := startsSign "." ts && !startsSign ".." ts

/-! ### Literals -/

def startsLiteral : List Token → Bool
  | .literal _ :: _ | .text _ _ :: _ => true
  | .name text :: _ => text == "true" || text == "false"
  | .mark '-' _ :: .literal spelling :: _ => Literal.isNumber spelling.toList
  | _ => false

def literal : Reader Unit := do
  Reader.expect startsLiteral
  let _ ← Reader.optionalSign "-"
  let _ ← Reader.token fun _ => true

def stringLiteral : Reader Unit := do
  let _ ← Reader.token fun t => match t with
    | .text _ _ => true
    | _ => false

def startsConstant (ts : List Token) : Bool := startsLiteral ts || startsGroup '\x7b' ts

def constant (g : Grammar) : Reader Unit := do
  if ← Reader.ahead startsLiteral then literal else g.block true

/-! ### Invocations -/

/-- The mark of an invocation, if it stands behind a path. -/
def startsExclamation (ts : List Token) : Bool := startsSign "!" ts && !startsSign "!=" ts

/-- An invocation behind its path; answers its kind of bracket. -/
def invocation : Reader Char := do
  Reader.sign "!"
  Reader.anyGroup

end Grammar

end RecordCopy.Derive
