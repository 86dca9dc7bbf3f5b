import RecordCopy.Text.Identifier
/-!
# Literals and words at the front of a text

A recogniser takes the characters of a text and answers the rest of them behind what it
recognises, or nothing.  Words are identifiers without more.  Literals are those of
strings, of characters and of numbers; strings come in three kinds, each with escapes or
raw, and of strings the content is read as well.

Whether a number is an integer or not is decided by what follows its digits: a point is
part of the number unless another point or a word follows it, and an exponent only if it
has a digit.
-/
namespace RecordCopy.Derive.Literal

abbrev Recogniser := List Char → Option (List Char)

/-! ### Words -/

def afterWord? : Recogniser
  | [] => none
  | c :: cs =>
    if Text.isIdentifierStart c then some (cs.dropWhile Text.isIdentifierPart) else none

def afterSuffix (cs : List Char) : List Char := (afterWord? cs).getD cs

/-! ### Strings -/

inductive StringKind where
  /-- Any text. -/
  | text
  /-- Bytes, written in ASCII. -/
  | bytes
  /-- A text that ends at its first null character and so has none inside. -/
  | terminated
deriving DecidableEq, Repr

def StringKind.allows (k : StringKind) (c : Char) : Bool :=
  match k with
  | .text => true
  | .bytes => decide (c.toNat < 0x80)
  | .terminated => decide (c ≠ '\x00')

def StringKind.allowsCode (k : StringKind) (n : Nat) : Bool :=
  match k with
  | .text => decide (n < 0x80)
  | .bytes => true
  | .terminated => decide (n ≠ 0)

def hexDigit? (c : Char) : Option Nat :=
  if c.isDigit then some (c.toNat - '0'.toNat)
  else if 'a' ≤ c && c ≤ 'f' then some (c.toNat - 'a'.toNat + 10)
  else if 'A' ≤ c && c ≤ 'F' then some (c.toNat - 'A'.toNat + 10)
  else none

/-- The character whose code point has one to six digits up to a closing brace; low
    lines may follow the first one.  So far there were `count` digits with the value
    `n`. -/
def codePoint? (count n : Nat) : List Char → Option (Char × List Char)
  | [] => none
  | c :: rest =>
    if count ≠ 0 ∧ c = '\x7d' then if n.isValidChar then some (Char.ofNat n, rest) else none
    else if count ≠ 0 ∧ c = '_' then codePoint? count n rest
    else if count = 6 then none
    else (hexDigit? c).bind fun d => codePoint? (count + 1) (16 * n + d) rest

def escaped? (k : StringKind) : List Char → Option (Char × List Char)
  | 'n' :: rest => some ('\n', rest)
  | 'r' :: rest => some ('\r', rest)
  | 't' :: rest => some ('\t', rest)
  | '\\' :: rest => some ('\\', rest)
  | '"' :: rest => some ('"', rest)
  | '\'' :: rest => some ('\'', rest)
  | '0' :: rest => if k = .terminated then none else some ('\x00', rest)
  | 'x' :: a :: b :: rest =>
    match hexDigit? a, hexDigit? b with
    | some high, some low =>
      if k.allowsCode (16 * high + low) then some (Char.ofNat (16 * high + low), rest) else none
    | _, _ => none
  | 'u' :: '\x7b' :: rest =>
    match k, codePoint? 0 0 rest with
    | .bytes, _ => none
    | .terminated, some ('\x00', _) => none
    | _, found => found
  | _ => none

/-- Behind the blanks and line ends that a backslash at the end of a line takes away.  A
    carriage return belongs to a line feed, and some text has to follow. -/
def afterLineEnd : Recogniser
  | [] => none
  | ' ' :: rest | '\t' :: rest | '\n' :: rest => afterLineEnd rest
  | '\r' :: '\n' :: rest => afterLineEnd rest
  | '\r' :: _ => none
  | cs => some cs

/-- The content of a literal with escapes, behind its opening quote, and the text behind
    the closing one. -/
def quotedContent (k : StringKind) : Nat → List Char → Option (List Char × List Char)
  | 0, _ => none
  | fuel + 1, cs =>
    let more (c : Char) (rest : List Char) :=
      (quotedContent k fuel rest).map fun r => (c :: r.1, r.2)
    match cs with
    | [] => none
    | '"' :: rest => some ([], rest)
    | '\r' :: '\n' :: rest => more '\n' rest
    | '\r' :: _ => none
    | '\\' :: '\n' :: rest => (afterLineEnd ('\n' :: rest)).bind (quotedContent k fuel)
    | '\\' :: '\r' :: rest => (afterLineEnd ('\r' :: rest)).bind (quotedContent k fuel)
    | '\\' :: rest =>
      match escaped? k rest with
      | some (c, rest) => more c rest
      | none => none
    | c :: rest => if k.allows c then more c rest else none

/-- The content of a raw literal behind its opening quote, up to a quote with the given
    hash marks behind it, and the text after those. -/
def rawContent (k : StringKind) (hashes : List Char) : List Char → Option (List Char × List Char)
  | [] => none
  | c :: rest =>
    if c = '"' && hashes.isPrefixOf rest then some ([], rest.drop hashes.length)
    else if c = '\r' && rest.head? != some '\n' then none
    else if k.allows c then (rawContent k hashes rest).map fun r => (c :: r.1, r.2)
    else none

def string? (k : StringKind) : List Char → Option (List Char × List Char)
  | '"' :: rest => (quotedContent k (rest.length + 1) rest).map fun r => (r.1, afterSuffix r.2)
  | 'r' :: rest =>
    let hashes := rest.takeWhile (· == '#')
    match rest.dropWhile (· == '#') with
    | '"' :: rest =>
      if hashes.length ≤ 255 then
        (rawContent k hashes rest).map fun r => (r.1, afterSuffix r.2)
      else none
    | _ => none
  | _ => none

/-! ### Characters -/

def afterCharacter? (k : StringKind) : Recogniser
  | '\'' :: '\\' :: rest =>
    match escaped? k rest with
    | some (_, '\'' :: rest) => some (afterSuffix rest)
    | _ => none
  | '\'' :: c :: '\'' :: rest => if k.allows c then some (afterSuffix rest) else none
  | _ => none

/-! ### Numbers -/

def isDigitOrLow (c : Char) : Bool := c.isDigit || c == '_'

/-- Behind an exponent from its first character on.  Its sign comes before any digit,
    and it has a digit. -/
def afterExponent? (sign digit : Bool) : Recogniser
  | [] => if digit then some [] else none
  | c :: cs =>
    if c == '+' || c == '-' then
      if digit then some (c :: cs) else if sign then none else afterExponent? true digit cs
    else if c.isDigit then afterExponent? sign true cs
    else if c == '_' then afterExponent? sign digit cs
    else if digit then some (c :: cs)
    else none

def afterDecimal? (cs : List Char) : Option (List Char) :=
  match cs.dropWhile isDigitOrLow with
  | 'e' :: rest | 'E' :: rest => afterExponent? false false rest
  | '.' :: rest =>
    if rest.head?.any fun c => c == '.' || Text.isIdentifierStart c then none
    else
      match rest.dropWhile isDigitOrLow with
      | 'e' :: behind => some ((afterExponent? false false behind).getD ('e' :: behind))
      | 'E' :: behind => some ((afterExponent? false false behind).getD ('E' :: behind))
      | behind => some behind
  | _ => none

/-- Behind the digits of an integer in the given base.  `digit` tells whether there was
    one before. -/
def afterDigits? (base : Nat) (digit : Bool) : Recogniser
  | [] => if digit then some [] else none
  | c :: cs =>
    if c == '_' then afterDigits? base digit cs
    else
      match hexDigit? c with
      | some d =>
        if d < base then afterDigits? base true cs
        else if c.isDigit then none
        else if digit then some (c :: cs)
        else none
      | none => if digit then some (c :: cs) else none

def afterInteger? : Recogniser
  | '0' :: 'x' :: rest => afterDigits? 16 false rest
  | '0' :: 'o' :: rest => afterDigits? 8 false rest
  | '0' :: 'b' :: rest => afterDigits? 2 false rest
  | cs => afterDigits? 10 false cs

def isNumber (cs : List Char) : Bool := cs.head?.any Char.isDigit

/-- Behind a number with the word that may follow it; nothing else of a word may. -/
def afterNumber? (cs : List Char) : Option (List Char) :=
  let ended (rest : List Char) : Option (List Char) :=
    let rest := afterSuffix rest
    if rest.head?.any Text.isIdentifierPart then none else some rest
  if isNumber cs then
    ((afterDecimal? cs).bind ended).or ((afterInteger? cs).bind ended)
  else none

/-! ### The value of an index -/

/-- The value of digits in a base, which low lines may separate, if there are any. -/
def digitsValue? (base : Nat) (cs : List Char) : Option Nat :=
  match cs.filter (· != '_') with
  | [] => none
  | ds =>
    ds.foldlM (fun n c => ((hexDigit? c).filter (decide <| · < base)).map (base * n + ·)) 0

/-- The value of an integer without a suffix, if it fits into thirty-two bits. -/
def index? (cs : List Char) : Option Nat :=
  let value := match cs with
    | '0' :: 'x' :: ds => digitsValue? 16 ds
    | '0' :: 'o' :: ds => digitsValue? 8 ds
    | '0' :: 'b' :: ds => digitsValue? 2 ds
    | ds => digitsValue? 10 ds
  value.filter (decide <| · < 0x100000000)

end RecordCopy.Derive.Literal
