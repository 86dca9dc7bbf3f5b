import RecordCopy.Derive.Grammar.Basic
/-!
# Paths

A path is a list of names with two colons between them.  A name may have arguments in
angle brackets: lifetimes, types, constants, and names with a type, a constant or bounds.
In their normal order the lifetimes come first.

In expressions two colons have to stand before the arguments, since otherwise a smaller
sign could not be told from a bracket.  A path may also start from a type in angle
brackets, maybe taken as a trait.
-/
namespace RecordCopy.Derive

/-- What a path is, as far as it matters to what stands around it. -/
structure PathForm where
  /-- No name has arguments, not even none between brackets. -/
  plain : Bool
  /-- One name only. -/
  lone : Bool
  /-- The brackets of the last name, if there is nothing between them. -/
  hollow : List Token
  /-- The last name has an argument. -/
  applied : Bool
deriving DecidableEq, Repr

namespace Grammar

open Reader

variable (g : Grammar)

/-! ### Arguments -/

def argument : Reader Bool := do
  let ts ← rest
  if startsLifetime ts && !startsSign "+" (ts.drop 1) then
    lifetime
    return true
  if startsConstant ts then
    constant g
    return false
  if (← g.type true) = .path true then
    if ← optionalSign "=" then
      if ← ahead startsConstant then constant g else let _ ← g.type true
    else if ← optionalSign ":" then
      let _ ← joined (fun ts => startsSign "," ts || startsSign ">" ts) "+" (g.bound false true)
  return false

/-- Arguments in angle brackets; answers whether there are any. -/
def arguments : Reader Bool := do
  let _ ← when (startsSign "::") (sign "::")
  sign "<"
  let found ← pieces (startsSign ">") (argument g)
  writePieces (· == true) found
  sign ">"
  return !found.isEmpty

/-! ### Segments -/

def isRootWord : List Token → Bool := startsOneOf ["super", "self", "crate", "try"]

def opensArguments (expression : Bool) (ts : List Token) : Bool :=
  (!expression && startsSign "<" ts && !startsSign "<=" ts && !startsSign "<<=" ts) ||
    (startsSign "::" ts && startsSign "<" (ts.drop 2))

/-- A segment as a path of its own. -/
def segment (expression : Bool) : Reader PathForm := do
  if ← ahead isRootWord then
    anyWord
    return ⟨true, true, [], false⟩
  if !(← optionalWord "Self") then name
  if ← ahead (opensArguments expression) then
    let (applied, tokens) ← captured (arguments g)
    write tokens
    return ⟨false, true, if applied then [] else tokens, applied⟩
  return ⟨true, true, [], false⟩

/-- Further segments as long as `more` says so. -/
def segments (expression : Bool) (more : List Token → Bool) (first : PathForm) :
    Reader PathForm :=
  steps (fun before => do
    if ← ahead more then
      sign "::"
      let last ← segment g expression
      return some { last with plain := before.plain && last.plain, lone := false }
    else return none) first

/-- Two colons that do not stand before parentheses. -/
def startsSegment (ts : List Token) : Bool := startsSign "::" ts && !startsGroup '(' (ts.drop 2)

def path (expression : Bool) : Reader PathForm := do
  let rooted ← optionalSign "::"
  let first ← segment g expression
  segments g expression startsSegment { first with lone := !rooted }

/-- A path.  If it starts from a type, there is no more to know of it. -/
def qualified (expression : Bool) : Reader (Option PathForm) := do
  if ← optionalSign "<" then
    let _ ← g.type true
    if ← optionalWord "as" then let _ ← path g false
    sign ">"
    sign "::"
    let first ← segment g expression
    let _ ← segments g expression (startsSign "::") first
    return none
  else return some (← path g expression)

/-- A path of bare names, as attributes and invocations have it. -/
def barePath : Reader Unit := do
  let startsBare (ts : List Token) : Bool :=
    startsName ts || startsOneOf ["super", "self", "Self", "crate"] ts
  let _ ← optionalSign "::"
  again do
    expect startsBare
    anyWord
    optionalSign "::"

/-! ### Parentheses behind a path -/

def result : Reader Unit := do
  if ← optionalSign "->" then let _ ← g.type false

def signature : Reader Unit := do
  grouped '(' (listed atEnd "," (g.type true))
  result g

end Grammar

end RecordCopy.Derive
