import RecordCopy.Derive.Literal
import RecordCopy.Text.Quoted
/-!
# Tokens of a declaration

A struct declaration is written in Rust.  Only its types and the arguments of its
attributes are looked into, as lists of tokens: names, lifetimes, literals, marks and
brackets.  Of literals only those of strings are told apart, since an attribute may
ask for one and then for its content.

Blanks and comments separate tokens and are otherwise dropped, so the spellings of the
tokens of a type, one behind the other, are the type without blanks.  Only a comment for
documentation leaves something behind, the attribute that it stands for.
-/
namespace RecordCopy.Derive

inductive Token where
  /-- A name or a keyword; a raw name keeps its `r#`. -/
  | name (text : String)
  | lifetime (text : String)
  /-- A string literal with what it stands for. -/
  | text (content spelling : String)
  /-- A literal that is not one of a string. -/
  | literal (spelling : String)
  /-- A punctuation mark, and whether another mark follows it directly. -/
  | mark (char : Char) (joint : Bool)
  | opening (bracket : Char)
  | closing (bracket : Char)
deriving DecidableEq, Repr

namespace Token

def spelling : Token → String
  | .name s | .lifetime s | .literal s | .text _ s => s
  | .mark c _ | .opening c | .closing c => c.toString

def squeezed (ts : List Token) : String :=
  String.ofList ((ts.flatMap fun t => t.spelling.toList).filter fun c => !Text.isBlank c)

/-! ### Blanks and comments -/

/-- What separates tokens: the blanks and the two marks for the direction of writing. -/
def isGap (c : Char) : Bool := Text.isBlank c || c == '\u200e' || c == '\u200f'

def line : List Char → List Char × List Char
  | [] => ([], [])
  | '\n' :: rest => ([], '\n' :: rest)
  | '\r' :: '\n' :: rest => ([], '\r' :: '\n' :: rest)
  | c :: rest => ((c :: (line rest).1), (line rest).2)

/-- The inside of a comment of the given depth up to the end of the outermost one, and
    the text behind it. -/
def comment? : Nat → List Char → Option (List Char × List Char)
  | _, [] => none
  | 0, _ => none
  | 1, '*' :: '/' :: rest => some ([], rest)
  | depth + 1, '*' :: '/' :: rest =>
    (comment? depth rest).map fun r => ('*' :: '/' :: r.1, r.2)
  | depth, '/' :: '*' :: rest =>
    (comment? (depth + 1) rest).map fun r => ('/' :: '*' :: r.1, r.2)
  | depth, c :: rest => (comment? depth rest).map fun r => (c :: r.1, r.2)
termination_by _ cs => cs.length

def afterComment? : List Char → Option (List Char)
  | '/' :: '/' :: '/' :: '/' :: rest => some (line rest).2
  | '/' :: '/' :: '/' :: _ => none
  | '/' :: '/' :: '!' :: _ => none
  | '/' :: '/' :: rest => some (line rest).2
  | '/' :: '*' :: '*' :: '/' :: rest => some rest
  | '/' :: '*' :: '*' :: '*' :: rest => (comment? 1 ('*' :: '*' :: rest)).map (·.2)
  | '/' :: '*' :: '*' :: _ => none
  | '/' :: '*' :: '!' :: _ => none
  | '/' :: '*' :: rest => (comment? 1 rest).map (·.2)
  | _ => none

def returnsPaired : List Char → Bool
  | [] => true
  | '\r' :: '\n' :: rest => returnsPaired rest
  | '\r' :: _ => false
  | _ :: rest => returnsPaired rest

/-- A null character before an octal digit is spelled so that the digit stays apart. -/
def escapeBefore (next : Option Char) (c : Char) : List Char :=
  if c = '\x00' ∧ next.any (fun d => decide ('0' ≤ d ∧ d ≤ '7')) then ['\\', 'x', '0', '0']
  else Text.escape c

def ofContent (content : List Char) : Token :=
  let spelled := (content.zip (content.tail.map some ++ [none])).flatMap fun p =>
    escapeBefore p.2 p.1
  .text (String.ofList content) (String.ofList ('"' :: spelled ++ ['"']))

/-- The attribute that a comment with the given inside stands for; `outside` if it
    documents what follows it. -/
def documentation (outside : Bool) (content : List Char) : List Token :=
  .mark '#' false :: (if outside then [] else [.mark '!' false]) ++
    [.opening '[', .name "doc", .mark '=' false, ofContent content, .closing ']']

def documentation? (cs : List Char) : Option (List Token × List Char) :=
  let found : Option (Bool × List Char × List Char) := match cs with
    | '/' :: '/' :: '!' :: rest => some (false, line rest)
    | '/' :: '*' :: '!' :: rest => (comment? 1 rest).map fun r => (false, r)
    | '/' :: '/' :: '/' :: '/' :: _ => none
    | '/' :: '/' :: '/' :: rest => some (true, line rest)
    | '/' :: '*' :: '*' :: '*' :: _ => none
    | '/' :: '*' :: '*' :: '/' :: _ => none
    | '/' :: '*' :: '*' :: rest => (comment? 1 rest).map fun r => (true, r)
    | _ => none
  match found with
  | some (outside, content, rest) =>
    if returnsPaired content then some (documentation outside content, rest) else none
  | none => none

/-! ### One token -/

def spelled (cs rest : List Char) : String := String.ofList (cs.take (cs.length - rest.length))

def isMark (c : Char) : Bool := "~!@#$%^&*-=+|;:,<.>/?".toList.contains c

def opensComment : List Char → Bool
  | '/' :: '/' :: _ | '/' :: '*' :: _ => true
  | _ => false

def literal? (cs : List Char) : Option (Token × List Char) :=
  let other (found : Option (List Char)) : Option (Token × List Char) :=
    found.map fun rest => (.literal (spelled cs rest), rest)
  match Literal.string? .text cs with
  | some (content, rest) => some (.text (String.ofList content) (spelled cs rest), rest)
  | none =>
    match cs with
    | 'b' :: rest =>
      other (((Literal.string? .bytes rest).map (·.2)).or (Literal.afterCharacter? .bytes rest))
    | 'c' :: rest => other ((Literal.string? .terminated rest).map (·.2))
    | cs => other ((Literal.afterCharacter? .text cs).or (Literal.afterNumber? cs))

/-- The text behind a name that may be raw.  Some words are never raw. -/
def afterName? (cs : List Char) : Option (List Char) :=
  match cs with
  | 'r' :: '#' :: rest =>
    (Literal.afterWord? rest).filter fun behind =>
      !(["_", "super", "self", "Self", "crate"].contains (spelled rest behind))
  | cs => Literal.afterWord? cs

/-- The beginnings of literals that no name has. -/
def beginsLiteral (cs : List Char) : Bool :=
  ["r\"", "r#\"", "r##", "b\"", "b'", "br\"", "br#", "c\"", "cr\"", "cr#"].any fun s =>
    s.toList.isPrefixOf cs

def name? (cs : List Char) : Option (Token × List Char) :=
  if beginsLiteral cs then none
  else (afterName? cs).map fun rest => (.name (spelled cs rest), rest)

/-- A lifetime behind its quote.  A quote behind its name would be the end of a literal
    that is none, and so would a hash mark unless the name is raw. -/
def lifetime? (cs : List Char) : Option (Token × List Char) :=
  match name? cs with
  | some (t, rest) =>
    match rest with
    | '\'' :: _ => none
    | '#' :: _ => if "r#".toList.isPrefixOf cs then some (t, rest) else none
    | _ => some (t, rest)
  | none => none

def first? (cs : List Char) : Option (Token × List Char) :=
  match literal? cs with
  | some found => some found
  | none =>
    match cs with
    | [] => none
    | '\'' :: rest => (lifetime? rest).map fun r => (.lifetime ("'" ++ r.1.spelling), r.2)
    | c :: rest =>
      if "([\x7b".toList.contains c then some (.opening c, rest)
      else if ")]\x7d".toList.contains c then some (.closing c, rest)
      else if isMark c then
        if opensComment cs then none
        else some (.mark c (rest.head?.any isMark && !opensComment rest), rest)
      else name? cs

/-! ### All tokens -/

/-- A text that stands for what could not be written; it is a literal. -/
def failureMark : List Char := "(/*ERROR*/)".toList

/-- The tokens of a text, given at least as much fuel as it has characters. -/
def lex : Nat → List Char → Option (List Token)
  | _, [] => some []
  | 0, _ => none
  | fuel + 1, c :: cs =>
    if isGap c then lex fuel cs
    else
      match afterComment? (c :: cs) with
      | some rest => lex fuel rest
      | none =>
        match documentation? (c :: cs) with
        | some (ts, rest) => (lex fuel rest).map (ts ++ ·)
        | none =>
          if failureMark.isPrefixOf (c :: cs) then
            (lex fuel (cs.drop (failureMark.length - 1))).map
              (.literal (String.ofList failureMark) :: ·)
          else
            match first? (c :: cs) with
            | some (t, rest) => (lex fuel rest).map (t :: ·)
            | none => none

/-! ### Brackets -/

def closes : Char → Char → Bool
  | '(', ')' | '[', ']' | '\x7b', '\x7d' => true
  | _, _ => false

/-- Whether every bracket is closed by its own kind, given those still open. -/
def balanced : List Char → List Token → Bool
  | open_, [] => open_.isEmpty
  | open_, .opening c :: rest => balanced (c :: open_) rest
  | o :: open_, .closing c :: rest => closes o c && balanced open_ rest
  | [], .closing _ :: _ => false
  | open_, _ :: rest => balanced open_ rest

def ofText? (text : String) : Option (List Token) :=
  (lex (text.toList.length + 1) text.toList).filter (balanced [])

/-- The tokens behind the bracket that closes the one opened last. -/
def behindGroup : Nat → List Token → Option (List Token)
  | _, [] => none
  | depth, .opening _ :: rest => behindGroup (depth + 1) rest
  | 0, .closing _ :: rest => some rest
  | depth + 1, .closing _ :: rest => behindGroup depth rest
  | depth, _ :: rest => behindGroup depth rest

/-- What stands between the brackets, if the tokens are one group in round ones. -/
def grouped? : List Token → Option (List Token)
  | .opening '(' :: ts =>
    match behindGroup 0 ts with
    | some [] => some ts.dropLast
    | _ => none
  | _ => none

/-- The tokens of a text that stands between others on its line.  In brackets, it must
    not close them itself or end with a comment that would take in what follows. -/
def ofPart? (text : String) : Option (List Token) := (ofText? ("(" ++ text ++ ")")).bind grouped?

end Token

end RecordCopy.Derive
