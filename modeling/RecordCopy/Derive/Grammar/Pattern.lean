import RecordCopy.Derive.Grammar.Type
/-!
# Patterns

Patterns take values apart: they are names, maybe with a pattern behind them, literals and
ranges, paths with the parts of a struct in braces or parentheses, tuples, slices and
references.  Several of them may be joined by bars.

A range that ends at its last value may still be written with three points; the normal
order has an equals sign instead of the third.
-/
namespace RecordCopy.Derive.Grammar

open Reader

variable (g : Grammar)

def startsBar (ts : List Token) : Bool :=
  startsSign "|" ts && !startsSign "||" ts && !startsSign "|=" ts

def patterns : Reader PatternForm := do
  let leading ← optionalSign "|"
  let form ← g.pattern
  let bar ← ahead startsBar
  again do
    when startsBar do
      sign "|"
      g.pattern
  return if leading || bar then .other else form

/-! ### Ranges -/

/-- The sign of a range; answers whether it needs an end. -/
def rangeSign : Reader Bool := do
  if ← optionalSign "..=" then return true
  else if ← ahead (startsSign "...") then
    let _ ← silently (sign "...")
    write [.mark '.' true, .mark '.' true, .mark '=' false]
    return true
  else
    sign ".."
    return false

def endsRange (ts : List Token) : Bool :=
  atEnd ts || startsSign "|" ts || startsSign "=" ts || startsColon ts || startsSign "," ts ||
    startsSign ";" ts || startsWord "if" ts

/-- The end of a range, if there is one. -/
def rangeEnd : Reader Bool := do
  if ← ahead endsRange then return false
  let ts ← rest
  if startsLiteral ts then literal
  else if startsPath ts then let _ ← qualified g true
  else
    word "const"
    g.block true
  return true

def rangeTail : Reader PatternForm := do
  let needed ← rangeSign
  let present ← rangeEnd g
  expect fun _ => present || !needed
  return if present then .other else .openRange

/-- A range without a start.  Without an end it stands for all the rest. -/
def startlessRange : Reader PatternForm := do
  expect fun ts => !startsSign "..." ts
  let needed ← rangeSign
  let present ← rangeEnd g
  expect fun _ => present || !needed
  return if present then .openRange else .other

/-! ### Members -/

/-- A field by its name or by its position, which is written in base ten; answers whether
    it is a name. -/
def member : Reader Bool := do
  if ← ahead startsName then
    name
    return true
  let (t, _) ← captured (token fun _ => true)
  match t with
  | .literal spelling =>
    match Literal.index? spelling.toList with
    | some n =>
      write [.literal (toString n)]
      return false
    | none => failure
  | _ => failure

def fieldPattern : Reader Unit := do
  let boxed ← optionalWord "box"
  let shared ← optionalWord "ref"
  let mutable_ ← optionalWord "mut"
  if boxed || shared || mutable_ then name
  else
    let named ← member
    if !named || (← ahead (startsSign ":")) then
      sign ":"
      let _ ← patterns g

/-- Fields in braces, and two points for those left out, behind which nothing comes. -/
def fieldPatterns : Reader Unit :=
  again do
    if ← ahead atEnd then return false
    outerAttributes g
    if ← optionalSign ".." then return false
    fieldPattern g
    if ← ahead atEnd then return false
    sign ","
    return true

/-! ### All patterns -/

def startsPathPattern (ts : List Token) : Bool :=
  let second := ts.drop 1
  (startsName ts && (startsSign "::" second || startsSign "!" second ||
      startsGroup '\x7b' second || startsGroup '(' second || startsSign ".." second)) ||
    (startsWord "self" ts && startsSign "::" second) ||
    startsSign "::" ts || startsSign "<" ts || startsOneOf ["Self", "super", "crate"] ts

def pathPattern : Reader PatternForm := do
  let form ← qualified g true
  let ts ← rest
  if (form.any fun f => f.plain) && startsExclamation ts then
    let _ ← invocation
    return .other
  if startsGroup '\x7b' ts then
    grouped '\x7b' (fieldPatterns g)
    return .other
  if startsGroup '(' ts then
    grouped '(' (listed atEnd "," (patterns g))
    return .other
  if startsSign ".." ts then rangeTail g else return .other

def namePattern : Reader Unit := do
  let _ ← optionalWord "ref"
  let _ ← optionalWord "mut"
  if !(← optionalWord "self") then name
  if ← optionalSign "@" then let _ ← g.pattern

def constantPattern : Reader PatternForm := do
  expect fun ts => !endsRange ts
  let _ ← rangeEnd g
  if ← ahead (startsSign "..") then rangeTail g else return .other

def referencePattern : Reader Unit := do
  sign "&"
  let _ ← optionalWord "mut"
  let _ ← g.pattern

/-- In a slice, a range that lacks an end would have to be in parentheses. -/
def slicePattern : Reader Unit :=
  grouped '[' <| listed atEnd "," do
    let form ← patterns g
    expect fun _ => form ≠ .openRange

def readPattern : Reader PatternForm := do
  let ts ← rest
  let plain (r : Reader Unit) : Reader PatternForm := do
    r
    return .other
  if startsPathPattern ts then pathPattern g
  else if startsWord "_" ts then plain (word "_")
  else if startsWord "box" ts then
    plain <| verbatim do
      word "box"
      let _ ← g.pattern
  else if startsSign "-" ts || startsLiteral ts || startsWord "const" ts then constantPattern g
  else if startsOneOf ["ref", "mut", "self"] ts || startsName ts then plain (namePattern g)
  else if startsSign "&" ts then plain (referencePattern g)
  else if startsGroup '(' ts then plain (grouped '(' (listed atEnd "," (patterns g)))
  else if startsGroup '[' ts then plain (slicePattern g)
  else if startsSign ".." ts then startlessRange g
  else failure

end RecordCopy.Derive.Grammar
