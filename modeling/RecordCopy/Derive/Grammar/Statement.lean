import RecordCopy.Derive.Grammar.Item
/-!
# Statements and blocks

A block is a list of statements in braces.  A statement declares a variable or an item,
or is an expression; a semicolon ends it unless it ends with a brace or is the last one.
-/
namespace RecordCopy.Derive.Grammar

open Reader

variable (g : Grammar)

def endsWithBrace (ts : List Token) : Bool := ts.getLast? == some (.closing '\x7d')

/-- A variable with a pattern, and maybe with a value and what to do if it does not
    match. -/
def declaration : Reader Unit := do
  word "let"
  let _ ← g.pattern
  if ← optionalSign ":" then let _ ← g.type true
  if ← optionalSign "=" then
    let (_, tokens) ← captured (g.expression true)
    write tokens
    if !endsWithBrace tokens && (← ahead (startsWord "else")) then
      word "else"
      g.block false
  sign ";"

inductive InvocationKind where
  | item
  /-- A statement of its own, since its brackets are braces. -/
  | statement
  | expression
deriving DecidableEq, Repr

def invocationKind (ts : List Token) : InvocationKind :=
  match (silently barePath).run (.ofTokens ts) with
  | some ((), s) =>
    let second := s.rest.drop 1
    if !startsSign "!" s.rest then .expression
    else if startsName second || startsWord "try" second then .item
    else
      match second with
      | .opening '\x7b' :: inside =>
        match Token.behindGroup 0 inside with
        | some behind =>
          if startsPoint behind || startsSign "?" behind then .expression else .statement
        | none => .expression
      | _ => .expression
  | none => .expression

/-- A statement; answers whether another one may follow it. -/
def statement : Reader Bool := do
  outerAttributes g
  let ts ← rest
  match invocationKind ts with
  | .statement =>
    barePath
    let _ ← invocation
    let _ ← optionalSign ";"
    return true
  | .item =>
    invocationItem
    return true
  | .expression =>
    if startsWord "let" ts then
      declaration g
      return true
    else if startsItem ts then
      item g
      return true
    else
      let form ← g.clause
      let ended ← optionalSign ";"
      return ended || form = .block || form = .invocation

def statements : Reader Unit := do
  let _ ← steps (fun more => do
    if ← optionalSign ";" then return some true
    if ← ahead atEnd then return none
    expect fun _ => more
    return some (← statement g)) true

def readBlock (attributes : Bool) : Reader Unit :=
  grouped '\x7b' do
    if attributes then innerAttributes g
    statements g

end RecordCopy.Derive.Grammar
