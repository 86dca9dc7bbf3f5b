import RecordCopy.Derive.Grammar.Path
/-!
# Bounds and parameters

A bound is a lifetime, a trait, or the list of names that a hidden type captures.  The
path of a trait may have parameters in parentheses and a result, and lifetimes may be
bound in front of it.

Parameters of a declaration are lifetimes, types with bounds, and constants, each maybe
with attributes; conditions on them follow after `where`.  Where a parameter has a colon
but no bounds, the normal order is without the colon.
-/
namespace RecordCopy.Derive.Grammar

open Reader

variable (g : Grammar)

/-! ### Attributes -/

def attributeName : Reader Unit := do
  if !(← optionalWord "unsafe") then barePath

/-- What an attribute says between its brackets: its name, maybe with tokens in brackets
    or with a value. -/
def attributeContent : Reader Unit := do
  attributeName
  let ts ← rest
  if startsGroup '(' ts || startsGroup '[' ts || startsGroup '\x7b' ts then
    let _ ← anyGroup
  else if ← optionalSign "=" then
    let ts ← rest
    if startsSign "#" ts && startsGroup '[' (ts.drop 1) then failure
    let _ ← g.expression true

def outerAttributes : Reader Unit :=
  again do
    when (startsSign "#") do
      sign "#"
      grouped '[' (attributeContent g)

def innerAttributes : Reader Unit :=
  again do
    when (fun ts => startsSign "#" ts && startsSign "!" (ts.drop 1)) do
      sign "#"
      sign "!"
      grouped '[' (attributeContent g)

/-! ### Parameters -/

/-- Bounds behind a colon, up to where `done` holds; without bounds the colon is not
    written. -/
def optionalBounds (done : List Token → Bool) (one : Reader Unit) : Reader Unit := do
  if ← ahead (startsSign ":") then
    let (_, colon) ← captured (sign ":")
    let (present, tokens) ← captured (joined done "+" one)
    if present then write (colon ++ tokens)

def endsParameter (ts : List Token) : Bool := atEnd ts || startsSign "," ts || startsSign ">" ts

def lifetimeParameter : Reader Unit := do
  lifetime
  optionalBounds endsParameter lifetime

def typeParameter : Reader Unit := do
  name
  optionalBounds (fun ts => endsParameter ts || startsSign "=" ts) do
    let _ ← g.bound false true
  if ← optionalSign "=" then let _ ← g.type true

def constParameter : Reader Unit := do
  word "const"
  name
  sign ":"
  let _ ← g.type true
  if ← optionalSign "=" then
    if ← ahead startsName then name
    else
      expect startsConstant
      constant g

/-- A parameter; answers whether it is a lifetime. -/
def parameter : Reader Bool := do
  outerAttributes g
  let ts ← rest
  if startsLifetime ts then
    lifetimeParameter
    return true
  if startsName ts then typeParameter g else constParameter g
  return false

def binder : Reader Unit := do
  word "for"
  sign "<"
  listed (startsSign ">") "," (parameter g)
  sign ">"

/-- Parameters of a declaration, if there are any brackets; answers their number. -/
def parameters : Reader Nat := do
  if ← ahead (startsSign "<") then
    let (found, _) ← captured do
      sign "<"
      let found ← pieces (startsSign ">") do
        outerAttributes g
        if ← ahead (startsWord "_") then
          word "_"
          return false
        else parameter g
      sign ">"
      return found
    if !found.isEmpty then
      write [.mark '<' false]
      writePieces (· == true) found
      write [.mark '>' false]
    return found.length
  else return 0

/-! ### Bounds -/

def capture : Reader Unit := do
  word "use"
  sign "<"
  let found ← pieces (startsSign ">") do
    if ← optionalLifetime then return true
    if !(← optionalWord "Self") then name
    return false
  writePieces (· == true) found
  sign ">"

/-- A trait without parentheses around it; answers whether it may be constant. -/
def bareTrait (const : Bool) : Reader Bool := do
  let bound ← when (startsWord "for") (binder g)
  let before ← rest
  let constant := startsGroup '[' before || startsWord "const" before
  if constant then
    expect fun _ => const
    if startsGroup '[' before then grouped '[' (word "const") else word "const"
  if ← optionalSign "?" then
    expect fun ts => !bound && !startsWord "for" ts
  let (form, tokens) ← captured (path g false)
  let ts ← rest
  let opened := startsGroup '(' ts || (startsSign "::" ts && startsGroup '(' (ts.drop 2))
  if opened && !form.applied then
    write (tokens.take (tokens.length - form.hollow.length))
    silently do
      let _ ← optionalSign "::"
    signature g
  else write tokens
  return constant

/-- A trait, maybe in parentheses.  One that may be constant is written as it was. -/
def traitBound (const : Bool) : Reader Unit := do
  let _ ← verbatimIf id do
    if ← ahead (startsGroup '(') then grouped '(' (bareTrait g const) else bareTrait g const

def readBound (uses const : Bool) : Reader BoundForm := do
  if ← optionalLifetime then return .lifetime
  if ← ahead (startsWord "use") then
    expect fun _ => uses
    capture
    return .capture
  traitBound g const
  return .trait

def startsBound (const : Bool) (ts : List Token) : Bool :=
  startsAnyWord ts || startsSign "::" ts || startsSign "?" ts || startsLifetime ts ||
    startsGroup '(' ts || (const && startsGroup '[' ts)

/-- Bounds with plus signs between them, the last of which may stand alone.  One of them
    has to be a trait.  Without `plus` there is one bound. -/
def bounds (plus uses const : Bool) : Reader Unit := do
  let first ← g.bound uses const
  let forms ← steps (fun forms => do
    if plus && (← ahead (startsSign "+")) then
      sign "+"
      if ← ahead (startsBound const) then return some (forms ++ [← g.bound uses const])
      else return none
    else return none) [first]
  expect fun _ => forms.contains .trait

/-! ### Conditions -/

/-- Whether parameters rather than a path would stand behind `where`. -/
def startsParameters (ts : List Token) : Bool :=
  let second := ts.drop 1
  let third := ts.drop 2
  startsSign "<" ts &&
    (startsSign ">" second || startsSign "#" second || startsWord "const" second ||
      ((startsLifetime second || startsName second) &&
        (startsSign ">" third || startsSign "," third || startsColon third ||
          startsSign "=" third)))

def endsConditions (ts : List Token) : Bool :=
  atEnd ts || startsGroup '\x7b' ts || startsSign "," ts || startsSign ";" ts || startsColon ts ||
    startsSign "=" ts

def condition : Reader Unit := do
  let ts ← rest
  if startsLifetime ts && startsSign ":" (ts.drop 1) then
    lifetime
    sign ":"
    let _ ← joined endsConditions "+" lifetime
  else
    let _ ← when (startsWord "for") (binder g)
    let _ ← g.type true
    sign ":"
    let _ ← joined endsConditions "+" (g.bound false true)

/-- Conditions on parameters, if there are any; answers whether the word for them is
    there. -/
def conditions : Reader Bool := do
  if ← ahead (startsWord "where") then
    let (_, tokens) ← captured do
      word "where"
      expect fun ts => !startsParameters ts
      let _ ← joined endsConditions "," (condition g)
    if tokens.length ≠ 1 then write tokens
    return true
  else return false

end RecordCopy.Derive.Grammar
