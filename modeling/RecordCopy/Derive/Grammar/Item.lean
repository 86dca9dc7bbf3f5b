import RecordCopy.Derive.Grammar.Expression
/-!
# Items among statements

A block may declare things of its own: constants, functions, structs, enumerations, other
names for types, and names from elsewhere.  They are read here; traits, implementations
and modules are not.
-/
namespace RecordCopy.Derive.Grammar

open Reader

variable (g : Grammar)

/-! ### Visibility -/

/-- Where a public thing may be seen, in parentheses. -/
def restriction : Reader Unit := do
  grouped '(' do
    if ← optionalWord "in" then barePath
    else
      expect (startsOneOf ["crate", "self", "super"])
      anyWord
      expect atEnd

def visibility : Reader Unit := do
  if ← optionalWord "pub" then restriction <|> pure ()

/-! ### Fields -/

def namedField : Reader Unit := do
  outerAttributes g
  visibility
  if !(← optionalWord "_") then name
  sign ":"
  let _ ← g.type true

def namedFields : Reader Unit := grouped '\x7b' (listed atEnd "," (namedField g))

def positionalFields : Reader Unit :=
  grouped '(' <| listed atEnd "," do
    outerAttributes g
    visibility
    g.type true

/-! ### Structs and enumerations -/

def structItem : Reader Unit := do
  word "struct"
  name
  let _ ← parameters g
  if ← conditions g then
    if ← ahead (startsGroup '\x7b') then namedFields g else sign ";"
  else if ← ahead (startsGroup '\x7b') then namedFields g
  else
    if ← ahead (startsGroup '(') then
      positionalFields g
      let _ ← conditions g
    sign ";"

/-- A variant of an enumeration; who may see it is not written. -/
def variant : Reader Unit := do
  outerAttributes g
  silently visibility
  name
  let ts ← rest
  if startsGroup '\x7b' ts then namedFields g
  else if startsGroup '(' ts then positionalFields g
  if ← optionalSign "=" then let _ ← g.expression true

def enumItem : Reader Unit := do
  word "enum"
  name
  let _ ← parameters g
  let _ ← conditions g
  grouped '\x7b' (listed atEnd "," (variant g))

/-! ### Functions -/

def receiver : Reader Unit := do
  let reference ← optionalSign "&"
  if reference then let _ ← optionalLifetime
  let _ ← optionalWord "mut"
  word "self"
  if !reference then
    if ← optionalSign ":" then let _ ← g.type true

def functionArgument : Reader Unit := do
  outerAttributes g
  receiver g <|> do
    let _ ← g.pattern
    sign ":"
    let _ ← g.type true

/-- Whether the words in front of a function are next. -/
def startsFunctionItem : List Token → Bool
  | .name "fn" :: _ => true
  | .name text :: rest => ["const", "async", "unsafe"].contains text && startsFunctionItem rest ||
      (text == "extern" && startsWord "fn" (match rest with
        | .text _ _ :: rest => rest
        | rest => rest))
  | _ => false

def functionItem : Reader Unit := do
  let _ ← optionalWord "const"
  let _ ← optionalWord "async"
  let _ ← optionalWord "unsafe"
  if ← optionalWord "extern" then
    let _ ← when (fun ts => !startsWord "fn" ts) stringLiteral
  word "fn"
  name
  let _ ← parameters g
  grouped '(' (listed atEnd "," (functionArgument g))
  if ← optionalSign "->" then let _ ← g.type true
  let _ ← conditions g
  g.block true

/-! ### Constants and other names -/

def valueItem : Reader Unit := do
  if ← optionalWord "static" then
    let _ ← optionalWord "mut"
    name
  else
    word "const"
    if !(← optionalWord "_") then name
  sign ":"
  let _ ← g.type true
  sign "="
  let _ ← g.expression true
  sign ";"

def aliasItem : Reader Unit := do
  word "type"
  name
  let _ ← parameters g
  let _ ← conditions g
  sign "="
  let _ ← g.type true
  sign ";"

/-- A path to names from elsewhere, with several ends in braces. -/
def useTree : Nat → Reader Unit
  | 0 => failure
  | n + 1 => do
    if ← ahead (startsGroup '\x7b') then grouped '\x7b' (listed atEnd "," (useTree n))
    else if ← optionalSign "*" then return ()
    else
      expect fun ts => startsName ts || startsOneOf ["self", "super", "crate", "try"] ts
      anyWord
      if ← optionalSign "::" then useTree n
      else if ← optionalWord "as" then
        if !(← optionalWord "_") then name

def useItem : Reader Unit := do
  word "use"
  let _ ← optionalSign "::"
  useTree (← rest).length
  sign ";"

/-- An invocation that may declare a name. -/
def invocationItem : Reader Unit := do
  barePath
  sign "!"
  let _ ← optionalWord "try"
  let _ ← when startsName name
  if (← anyGroup) ≠ '\x7b' then sign ";"

/-! ### All items -/

/-- Whether an item rather than an expression is next. -/
def startsItem (ts : List Token) : Bool :=
  let second := ts.drop 1
  startsWord "pub" ts || (startsWord "crate" ts && !startsSign "::" second) ||
    startsOneOf ["extern", "use", "fn", "mod", "type", "struct", "enum", "trait", "impl",
      "macro"] ts ||
    (startsWord "static" ts && (startsWord "mut" second || startsName second)) ||
    (startsWord "const" ts && !(startsGroup '\x7b' second ||
      startsOneOf ["static", "move"] second || startsSign "|" second ||
      (startsWord "async" second && !startsOneOf ["unsafe", "extern", "fn"] (ts.drop 2)))) ||
    (startsWord "unsafe" ts && !startsGroup '\x7b' second) ||
    (startsWord "async" ts && startsOneOf ["unsafe", "extern", "fn"] second) ||
    (startsWord "union" ts && startsName second) ||
    (startsWord "auto" ts && startsWord "trait" second) ||
    (startsWord "default" ts && startsOneOf ["unsafe", "impl"] second)

/-- An item behind its attributes. -/
def item : Reader Unit := do
  visibility
  let ts ← rest
  if startsFunctionItem ts then functionItem g
  else if startsWord "use" ts then useItem
  else if startsWord "static" ts || startsWord "const" ts then valueItem g
  else if startsWord "type" ts then aliasItem g
  else if startsWord "struct" ts then structItem g
  else if startsWord "enum" ts then enumItem g
  else failure

end RecordCopy.Derive.Grammar
