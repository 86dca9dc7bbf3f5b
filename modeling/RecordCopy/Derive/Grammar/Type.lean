import RecordCopy.Derive.Grammar.Bound
/-!
# Types

Types are paths, references and pointers, tuples, slices and arrays, functions, objects
and hidden types given by bounds, invocations, and a few words and marks of their own.

Parentheses are where the forms meet: around nothing or around several types they make a
tuple, around one type they only group it, and if a plus sign follows, what they group
has to be a single trait, which is then the first of several bounds.
-/
namespace RecordCopy.Derive.Grammar

open Reader

variable (g : Grammar)

/-- Further bounds of an object, with a plus sign in front of each. -/
def addedBounds : Reader Unit :=
  again do
    when (startsSign "+") do
      sign "+"
      g.bound false false

inductive GroupForm where
  /-- Several types or none, or bounds that take no others. -/
  | closed
  /-- A trait with a question mark. -/
  | question
  | single (form : TypeForm)
deriving DecidableEq, Repr

def groupContent : Reader GroupForm := do
  if ← ahead atEnd then return .closed
  if ← ahead startsLifetime then
    bounds g true false false
    return .closed
  if ← ahead (startsSign "?") then
    let _ ← bareTrait g false
    return .question
  let form ← g.type true
  if ← optionalSign "," then
    listed atEnd "," (g.type true)
    return .closed
  return .single form

/-- A type in parentheses, or bounds that begin with them. -/
def groupedType (plus : Bool) : Reader TypeForm := do
  let (content, tokens) ← captured (grouped '(' (groupContent g))
  let added := plus && (← ahead (startsSign "+"))
  match content with
  | .closed =>
    write tokens
    return .other
  | .question =>
    write tokens
    if ← ahead (startsSign "+") then
      addedBounds g
      return .other
    return .bound true
  | .single form =>
    write (if form = .bound true && added then (tokens.drop 1).dropLast else tokens)
    if form ≠ .other && added then addedBounds g
    return .other

/-! ### Functions -/

/-- A parameter of a function type.  The first one may be the receiver, which is written
    as it was if it is mutable. -/
def functionParameter (first : Bool) : Reader Unit := do
  let ts ← rest
  if first && startsWord "mut" ts && startsWord "self" (ts.drop 1) then
    verbatim do
      word "mut"
      word "self"
      if ← ahead startsColon then
        sign ":"
        let _ ← g.type true
  else
    if (startsLabel ts || (first && startsWord "self" ts)) && startsColon (ts.drop 1) then
      anyWord
      sign ":"
    let _ ← g.type true

/-- Further arguments of any number, maybe with a name. -/
def startsVariadic (ts : List Token) : Bool :=
  startsSign "..." ts ||
    (startsLabel ts && startsSign ":" (ts.drop 1) && startsSign "..." (ts.drop 2))

def variadic : Reader Unit := do
  if !(← ahead (startsSign "...")) then
    anyWord
    sign ":"
  sign "..."
  let _ ← optionalSign ","

/-- The parameters of a function type.  What follows the variadic one is left over. -/
def functionParameters : Reader Unit := do
  let _ ← steps (fun first => do
    if ← ahead atEnd then return none
    outerAttributes g
    if ← ahead startsVariadic then
      variadic
      return none
    functionParameter g first
    if ← ahead atEnd then return none
    sign ","
    return some false) true

def functionType : Reader Unit := do
  let _ ← optionalWord "unsafe"
  if ← optionalWord "extern" then
    let _ ← when (fun ts => match ts with
      | .text _ _ :: _ => true
      | _ => false) stringLiteral
  word "fn"
  grouped '(' (functionParameters g)
  result g

/-! ### All types -/

/-- The name of something that is built in, with its arguments. -/
def startsBuiltin (ts : List Token) : Bool := startsWord "builtin" ts && startsSign "#" (ts.drop 1)

def builtin : Reader Unit := do
  word "builtin"
  sign "#"
  name
  expect (startsGroup '(')
  let _ ← anyGroup

/-- A type that begins with a path, behind the parameters bound in front of it.  An
    invocation is written without them. -/
def pathType (plus : Bool) (bound : List Token) : Reader TypeForm := do
  let (form, tokens) ← captured (qualified g false)
  match form with
  | none =>
    write tokens
    return .other
  | some form =>
    if form.plain && (← ahead startsExclamation) then
      write tokens
      let _ ← invocation
      return .other
    write (bound ++ tokens)
    if plus && (← ahead (startsSign "+")) then
      sign "+"
      let _ ← when (startsBound false) do
        let _ ← g.bound false false
        again do
          if ← optionalSign "+" then when (startsBound false) (g.bound false false)
          else return false
      return .other
    return if bound.isEmpty then .path form.lone else .bound false

def startsOwnPath (ts : List Token) : Bool :=
  startsName ts || startsOneOf ["super", "self", "Self", "crate"] ts

def startsPath (ts : List Token) : Bool :=
  startsOwnPath ts || startsSign "::" ts || startsSign "<" ts

def startsFunction (ts : List Token) : Bool := startsOneOf ["fn", "unsafe", "extern"] ts

def pointerType : Reader Unit := do
  sign "*"
  if !(← optionalWord "const") then word "mut"
  let _ ← g.type false

def referenceType : Reader Unit := do
  sign "&"
  let _ ← optionalLifetime
  let _ ← optionalWord "mut"
  let _ ← g.type false

def sequenceType : Reader Unit :=
  grouped '[' do
    let _ ← g.type true
    if ← optionalSign ";" then let _ ← g.expression true

def objectType (plus : Bool) : Reader Unit := do
  let _ ← verbatimIf id do
    word "dyn"
    let star ← optionalSign "*"
    bounds g plus false false
    return star

def hiddenType (plus : Bool) : Reader Unit := do
  word "impl"
  bounds g plus true true

/-- A type that begins with a word for its form or with a mark. -/
def markedType (plus : Bool) (ts : List Token) : Reader Unit :=
  if startsWord "dyn" ts then objectType g plus
  else if startsGroup '[' ts then sequenceType g
  else if startsSign "*" ts then pointerType g
  else if startsSign "&" ts then referenceType g
  else if startsSign "!" ts && !startsSign "!=" ts then sign "!"
  else if startsWord "impl" ts then hiddenType g plus
  else if startsWord "_" ts then word "_"
  else if startsLifetime ts then bounds g true false false
  else failure

def readType (plus : Bool) : Reader TypeForm := do
  let (bound, parameters) ← captured (when (startsWord "for") (binder g))
  let ts ← rest
  if startsFunction ts then
    write parameters
    functionType g
    return .other
  else if bound && !startsOwnPath ts then failure
  else if startsGroup '(' ts then groupedType g plus
  else if startsBuiltin ts then
    write parameters
    builtin
    return .other
  else if startsPath ts then pathType g plus parameters
  else
    markedType g plus ts
    return .other

end RecordCopy.Derive.Grammar
