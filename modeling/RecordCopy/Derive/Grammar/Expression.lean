import RecordCopy.Derive.Grammar.Pattern
/-!
# Expressions

An expression is read as an operand and then, from the left, the binary operators behind
it with what they are applied to, each as far as it binds.  Comparisons are not chained,
and nothing is applied to a range.

An operand is an atom with signs in front and with calls, fields, indices and question
marks behind it.  Where a brace would begin a block of what stands around the expression,
as behind a condition, a path is not read on as a struct.
-/
namespace RecordCopy.Derive.Grammar

open Reader

variable (g : Grammar)

/-! ### Binary operators -/

/-- The operators with their levels, the longer ones before those that they begin with. -/
def operatorSigns : List (String × Level) :=
  [("+=", .assignment), ("-=", .assignment), ("*=", .assignment), ("/=", .assignment),
   ("%=", .assignment), ("^=", .assignment), ("&=", .assignment), ("|=", .assignment),
   ("<<=", .assignment), (">>=", .assignment), ("&&", .and), ("||", .or), ("<<", .shift),
   (">>", .shift), ("==", .comparison), ("<=", .comparison), ("!=", .comparison),
   (">=", .comparison), ("+", .sum), ("-", .sum), ("*", .product), ("/", .product),
   ("%", .product), ("^", .bitXor), ("&", .bitAnd), ("|", .bitOr), ("<", .comparison),
   (">", .comparison)]

def operator? (ts : List Token) : Option (String × Level) :=
  operatorSigns.find? fun o => startsSign o.1 ts

def levelAhead (ts : List Token) : Level :=
  match operator? ts with
  | some o => o.2
  | none =>
    if startsSign "=" ts && !startsSign "=>" ts then .assignment
    else if startsSign ".." ts then .range
    else if startsWord "as" ts then .cast
    else .lowest

/-- What an operator of the given level is applied to on its right: an operand with the
    operators behind it that bind more tightly.  Assignments associate to the right. -/
def rightSide (braces : Bool) (level : Level) : Reader Unit := do
  let first ← g.operand braces
  let _ ← steps (fun right => do
    let before ← rest
    let next := levelAhead before
    if level.below next || (next = .assignment && level = .assignment) then
      let right ← g.operators braces right next
      if (← rest).length < before.length then return some right else return none
    else return none) first

/-- What stands behind a range without an end. -/
def endsHalfRange (braces : Bool) (ts : List Token) : Bool :=
  atEnd ts || startsPoint ts || startsWord "as" ts || (!braces && startsGroup '\x7b' ts) ||
    [",", ";", "?", "=>", "=", "+", "/", "%", "^", ">", "<=", "!=", "-=", "*=", "&=", "|=",
      "<<="].any (startsSign · ts)

def range (braces : Bool) : Reader Unit := do
  if ← optionalSign "..=" then rightSide g braces .range
  else
    expect fun ts => !startsSign "..." ts
    sign ".."
    if !(← ahead (endsHalfRange braces)) then rightSide g braces .range

def castSuffix (ts : List Token) : Bool :=
  startsPoint ts || startsSign "?" ts || startsGroup '[' ts || startsGroup '(' ts

def readOperators (braces : Bool) (left : ExpressionForm) (base : Level) :
    Reader ExpressionForm := do
  let ts ← rest
  if left = .range then return left
  match operator? ts with
  | some (text, level) =>
    if level.below base then return left
    expect fun _ => !(level = .comparison && left = .comparison)
    sign text
    rightSide g braces level
    g.operators braces (if level = .comparison then .comparison else .other) base
  | none =>
    if !Level.assignment.below base && startsEquals ts then
      sign "="
      rightSide g braces .assignment
      g.operators braces .other base
    else if !Level.range.below base && startsSign ".." ts then
      range g braces
      return .range
    else if startsWord "as" ts then
      word "as"
      let _ ← g.type false
      expect fun ts => !castSuffix ts
      g.operators braces .other base
    else return left

/-! ### Behind an atom -/

def callArguments : Reader Unit := grouped '(' (listed atEnd "," (g.expression true))

/-- Positions with points between them, as a number with a point spells them; answers
    whether the number ends with a point, behind which a member has to follow. -/
def positions (spelling : String) : Reader Bool := do
  let cs := spelling.toList
  let trailing := cs.getLast? == some '.'
  let (head, tail) := Text.cut '.' (if trailing then cs.dropLast else cs)
  match (head :: tail).mapM Literal.index? with
  | some ns =>
    write ([Token.mark '.' false].intercalate (ns.map fun n => [.literal (toString n)]))
    if trailing then write [.mark '.' false]
    return trailing
  | none => failure

def namedMember : Reader Unit := do
  if ← optionalWord "await" then return ()
  let named ← member
  if named && (← ahead (startsSign "::")) then
    sign "::"
    expect (startsSign "<")
    let _ ← arguments g
    callArguments g
  else if named && (← ahead (startsGroup '(')) then callArguments g

def memberOrPositions : Reader Unit := do
  match ← rest with
  | .literal spelling :: _ =>
    let _ ← silently (token fun _ => true)
    if ← positions spelling then namedMember g
  | _ => namedMember g

/-- Calls, members, indices and question marks behind an atom. -/
def suffixes (atom : ExpressionForm) : Reader ExpressionForm :=
  steps (fun before => do
    let ts ← rest
    if startsGroup '(' ts then
      callArguments g
      return some .other
    else if startsPoint ts && before ≠ .range then
      sign "."
      memberOrPositions g
      return some .other
    else if startsGroup '[' ts then
      grouped '[' do
        let _ ← g.expression true
      return some .other
    else if startsSign "?" ts && before ≠ .range then
      sign "?"
      return some .other
    else return none) atom

/-! ### Atoms -/

/-- A field of a struct with its value; by its name alone, it has the value of that
    name. -/
def fieldValue : Reader Unit := do
  outerAttributes g
  let named ← member
  if !named || (← ahead (startsSign ":")) then
    sign ":"
    let _ ← g.expression true

/-- The fields of a struct, and maybe a struct that has the others. -/
def fieldValues : Reader Unit :=
  again do
    if ← ahead atEnd then return false
    if ← optionalSign ".." then
      if !(← ahead atEnd) then let _ ← g.expression true
      return false
    fieldValue g
    if ← ahead atEnd then return false
    sign ","
    return true

def pathExpression (braces : Bool) : Reader ExpressionForm := do
  let form ← qualified g true
  let ts ← rest
  if (form.any fun f => f.plain) && startsExclamation ts then
    return if (← invocation) = '\x7b' then .invocation else .other
  if braces && startsGroup '\x7b' ts then grouped '\x7b' (fieldValues g)
  return .other

/-- Items with commas, or an item and a number of times. -/
def sequence : Reader Unit :=
  grouped '[' do
    if ← ahead atEnd then return ()
    let _ ← g.expression true
    if ← optionalSign ";" then let _ ← g.expression true
    else if !(← ahead atEnd) then
      sign ","
      listed atEnd "," (g.expression true)

def closureParameter : Reader Unit := do
  outerAttributes g
  let _ ← g.pattern
  if ← optionalSign ":" then let _ ← g.type true

def closure (braces : Bool) : Reader Unit := do
  let _ ← when (startsWord "for") (binder g)
  let _ ← optionalWord "const"
  let _ ← optionalWord "static"
  let _ ← optionalWord "async"
  let _ ← optionalWord "move"
  sign "|"
  listed (startsSign "|") "," (closureParameter g)
  sign "|"
  if ← optionalSign "->" then
    let _ ← g.type true
    g.block false
  else let _ ← g.expression braces

def startsExpression (ts : List Token) : Bool :=
  startsAnyWord ts || startsGroup '(' ts || startsGroup '[' ts || startsGroup '\x7b' ts ||
    startsLiteral ts || startsExclamation ts || startsLifetime ts ||
    (startsSign "-" ts && !startsSign "-=" ts && !startsSign "->" ts) ||
    (startsSign "*" ts && !startsSign "*=" ts) || (startsSign "|" ts && !startsSign "|=" ts) ||
    (startsSign "&" ts && !startsSign "&=" ts) || startsSign ".." ts ||
    (startsSign "<" ts && !startsSign "<=" ts && !startsSign "<<=" ts) ||
    startsSign "::" ts || startsSign "#" ts

def optionalExpression (braces : Bool) : Reader Unit := do
  let ts ← rest
  if startsExpression ts && (braces || !startsGroup '\x7b' ts) then
    let _ ← g.expression true

def breakExpression (braces : Bool) : Reader Unit := do
  word "break"
  expect fun ts => !(startsLifetime ts && startsSign ":" (ts.drop 1))
  let _ ← optionalLifetime
  optionalExpression g braces

def letExpression (braces : Bool) : Reader Unit := do
  word "let"
  let _ ← patterns g
  sign "="
  let _ ← g.operators braces (← g.operand braces) .comparison

def ifExpression : Reader Unit :=
  again do
    word "if"
    let _ ← g.expression false
    g.block false
    if ← optionalWord "else" then
      if ← ahead (startsWord "if") then return true
      g.block false
    return false

/-- One case of a match.  Unless its value ends with a brace, a comma follows. -/
def arm : Reader Unit := do
  outerAttributes g
  let _ ← patterns g
  if ← optionalWord "if" then let _ ← g.expression true
  sign "=>"
  let form ← g.clause
  if !(← optionalSign ",") then
    expect fun ts => form = .block || atEnd ts

def matchExpression : Reader Unit := do
  word "match"
  let _ ← g.expression false
  grouped '\x7b' do
    innerAttributes g
    again (when (fun ts => !atEnd ts) (arm g))

def forLoop : Reader Unit := do
  word "for"
  let _ ← patterns g
  word "in"
  let _ ← g.expression false
  g.block true

def whileLoop : Reader Unit := do
  word "while"
  let _ ← g.expression false
  g.block true

def blockBehind (text : String) (attributes : Bool) : Reader Unit := do
  word text
  g.block attributes

def labeled : Reader Unit := do
  lifetime
  sign ":"
  let ts ← rest
  if startsWord "while" ts then whileLoop g
  else if startsWord "for" ts then forLoop g
  else if startsWord "loop" ts then blockBehind g "loop" true
  else g.block true

def asyncBlock : Reader Unit := do
  word "async"
  let _ ← optionalWord "move"
  g.block false

/-! ### Expressions that end with a brace -/

def startsBinder (ts : List Token) : Bool := startsWord "for" ts && startsParameters (ts.drop 1)

/-- What may stand as a statement without a semicolon, since it ends with a brace. -/
def blockExpression? (ts : List Token) : Option (Reader Unit) :=
  let opensBlock := startsGroup '\x7b' (ts.drop 1)
  if startsWord "if" ts then some (ifExpression g)
  else if startsWord "while" ts then some (whileLoop g)
  else if startsWord "for" ts && !startsBinder ts then some (forLoop g)
  else if startsWord "loop" ts then some (blockBehind g "loop" true)
  else if startsWord "match" ts then some (matchExpression g)
  else if startsWord "try" ts && opensBlock then some (blockBehind g "try" false)
  else if startsWord "unsafe" ts then some (blockBehind g "unsafe" true)
  else if startsWord "const" ts && opensBlock then some (blockBehind g "const" true)
  else if startsGroup '\x7b' ts then some (g.block true)
  else if startsLifetime ts then some (labeled g)
  else none

def startsClosure (ts : List Token) : Bool :=
  let second := ts.drop 1
  startsSign "|" ts || startsWord "move" ts || startsBinder ts ||
    (startsWord "const" ts && !startsGroup '\x7b' second) || startsWord "static" ts ||
    (startsWord "async" ts && (startsSign "|" second || startsWord "move" second))

def startsAsyncBlock (ts : List Token) : Bool :=
  let second := ts.drop 1
  startsWord "async" ts && (startsGroup '\x7b' second ||
    (startsWord "move" second && startsGroup '\x7b' (ts.drop 2)))

/-- Paths in expressions may begin with one more word. -/
def startsPathExpression (ts : List Token) : Bool :=
  startsPath ts ||
    (startsWord "try" ts && (startsSign "!" (ts.drop 1) || startsSign "::" (ts.drop 1)))

/-- Several expressions in parentheses, or one. -/
def tuple : Reader Unit := grouped '(' (listed atEnd "," (g.expression true))

def atom (braces : Bool) : Reader ExpressionForm := do
  let ts ← rest
  let other (r : Reader Unit) : Reader ExpressionForm := do
    r
    return .other
  if startsLiteral ts then other literal
  else if startsAsyncBlock ts then other (asyncBlock g)
  else if startsClosure ts then other (closure g braces)
  else if startsBuiltin ts then other builtin
  else if startsPathExpression ts then pathExpression g braces
  else if startsGroup '(' ts then other (tuple g)
  else if startsWord "break" ts then other (breakExpression g braces)
  else if startsWord "continue" ts then other do
    word "continue"
    let _ ← optionalLifetime
  else if startsWord "return" ts || startsWord "yield" ts then other do
    anyWord
    optionalExpression g true
  else if startsWord "become" ts then other <| verbatim do
    word "become"
    let _ ← g.expression true
  else if startsGroup '[' ts then other (sequence g)
  else if startsWord "let" ts then other (letExpression g braces)
  else if startsSign ".." ts then
    range g braces
    return .range
  else if startsWord "_" ts then other (word "_")
  else
    match blockExpression? g ts with
    | some r =>
      r
      return .block
    | none => failure

/-! ### All expressions -/

def readClause : Reader ExpressionForm := do
  outerAttributes g
  match blockExpression? g (← rest) with
  | some r =>
    r
    let ts ← rest
    if startsPoint ts || startsSign "?" ts then g.operators true (← suffixes g .block) .lowest
    else return .block
  | none => g.expression true

def readOperand (braces : Bool) : Reader ExpressionForm := do
  outerAttributes g
  let ts ← rest
  if startsSign "&" ts then
    sign "&"
    let raw ← when (fun ts => startsWord "raw" ts && startsOneOf ["mut", "const"] (ts.drop 1))
      anyWord
    if !(← optionalWord "mut") then
      if raw then word "const"
    let _ ← g.operand braces
    return .other
  else if startsSign "*" ts || startsSign "!" ts || startsSign "-" ts then
    let _ ← token fun _ => true
    let _ ← g.operand braces
    return .other
  else suffixes g (← atom g braces)

end RecordCopy.Derive.Grammar
