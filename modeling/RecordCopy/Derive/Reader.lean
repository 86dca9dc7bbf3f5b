import RecordCopy.Derive.Token
/-!
# Readers of tokens

A reader takes tokens off the front of what is left and writes them down in their normal
order, which is mostly the order in which they came.  It either succeeds or yields
nothing; in the first case it may answer something on what it read.

Brackets confine a reader to what stands between them.  What a reader leaves over there
is no failure of its own.  It is only remembered, so that whoever asked for the whole
can refuse it in the end.
-/
namespace RecordCopy.Derive

/-- What is left to read and what was written down, the latest token first. -/
structure Source where
  rest : List Token
  written : List Token
  /-- Whether something was left over between brackets. -/
  leftover : Bool
deriving DecidableEq, Repr

def Source.ofTokens (ts : List Token) : Source := ⟨ts, [], false⟩

abbrev Reader := StateT Source Option

/-! ### Looking ahead -/

/-- The tokens behind a sign made of marks without anything between them. -/
def behindSign? : List Char → List Token → Option (List Token)
  | [], ts => some ts
  | [c], .mark d _ :: ts => if c = d then some ts else none
  | c :: cs, .mark d true :: ts => if c = d then behindSign? cs ts else none
  | _, _ => none

def startsSign (sign : String) (ts : List Token) : Bool := (behindSign? sign.toList ts).isSome

def startsWord (word : String) : List Token → Bool
  | .name text :: _ => text == word
  | _ => false

def startsGroup (bracket : Char) : List Token → Bool
  | .opening c :: _ => c == bracket
  | _ => false

def startsLifetime : List Token → Bool
  | .lifetime _ :: _ => true
  | _ => false

def startsAnyWord : List Token → Bool
  | .name _ :: _ => true
  | _ => false

/-- Nothing is left, or nothing between the brackets. -/
def atEnd : List Token → Bool
  | [] | .closing _ :: _ => true
  | _ => false

namespace Reader

variable {α β : Type}

def rest : Reader (List Token) := do return (← get).rest

def ahead (p : List Token → Bool) : Reader Bool := do return p (← get).rest

def expect (p : List Token → Bool) : Reader Unit := do
  if p (← get).rest then return () else failure

/-! ### Reading and writing -/

def write (ts : List Token) : Reader Unit :=
  modify fun s => { s with written := ts.reverse ++ s.written }

/-- The next token, if it is one of those that `p` holds of. -/
def token (p : Token → Bool) : Reader Token := fun s =>
  match s.rest with
  | t :: ts => if p t then some (t, { s with rest := ts, written := t :: s.written }) else none
  | [] => none

def sign (text : String) : Reader Unit := fun s =>
  (behindSign? text.toList s.rest).map fun ts =>
    ((), { s with rest := ts, written := (s.rest.take text.length).reverse ++ s.written })

def word (text : String) : Reader Unit := do
  let _ ← token (· == .name text)

def anyWord : Reader Unit := do
  let _ ← token fun t => startsAnyWord [t]

def lifetime : Reader Unit := do
  let _ ← token fun t => startsLifetime [t]

/-- Reads if what is left is as `p` says; answers whether it did. -/
def when (p : List Token → Bool) (r : Reader α) : Reader Bool := do
  if ← ahead p then
    let _ ← r
    return true
  else return false

def optionalSign (text : String) : Reader Bool := when (startsSign text) (sign text)

def optionalWord (text : String) : Reader Bool := when (startsWord text) (word text)

def optionalLifetime : Reader Bool := when startsLifetime lifetime

/-! ### What was written -/

/-- Keeps what a reader writes apart, and answers it in its order. -/
def captured (r : Reader α) : Reader (α × List Token) := fun s =>
  (r { s with written := [] }).map fun p =>
    ((p.1, p.2.written.reverse), { p.2 with written := s.written })

def text (r : Reader α) : Reader String := do return Token.squeezed (← captured r).2

def silently (r : Reader α) : Reader α := do return (← captured r).1

/-- Writes what is read as it was, not in its normal order, if the answer is as `p`
    says. -/
def verbatimIf (p : α → Bool) (r : Reader α) : Reader α := fun s =>
  (r s).map fun (a, after) =>
    let read := s.rest.take (s.rest.length - after.rest.length)
    (a, if p a then { after with written := read.reverse ++ s.written } else after)

def verbatim (r : Reader α) : Reader α := verbatimIf (fun _ => true) r

/-! ### Brackets -/

def leave : Reader Unit := fun s =>
  match s.rest with
  | .closing c :: ts => some ((), { s with rest := ts, written := .closing c :: s.written })
  | ts => (Token.behindGroup 0 ts).map fun ts => ((), { s with rest := ts, leftover := true })

def grouped (bracket : Char) (inside : Reader α) : Reader α := do
  let _ ← token (· == .opening bracket)
  let a ← inside
  leave
  return a

/-- Every token between brackets of any kind; answers which they were. -/
def anyGroup : Reader Char := fun s =>
  match s.rest with
  | .opening c :: ts =>
    (Token.behindGroup 0 ts).map fun rest =>
      let read := s.rest.take (s.rest.length - rest.length)
      (c, { s with rest := rest, written := read.reverse ++ s.written })
  | _ => none

/-! ### Repetition -/

/-- Steps from `a` on, as long as they yield something; there are fewer than `n`. -/
def stepsBelow (step : α → Reader (Option α)) : Nat → α → Reader α
  | 0, _ => failure
  | n + 1, a => do
    match ← step a with
    | some a => stepsBelow step n a
    | none => return a

/-- Steps from `a` on, as long as they yield something.  Each of them reads a token. -/
def steps (step : α → Reader (Option α)) (a : α) : Reader α := do
  stepsBelow step ((← rest).length + 1) a

def again (step : Reader Bool) : Reader Unit :=
  steps (fun () => do if ← step then return some () else return none) ()

/-- Items with a sign between them, up to where `done` holds.  The sign may also stand
    behind the last item. -/
def listed (done : List Token → Bool) (between : String) (one : Reader α) : Reader Unit :=
  again do
    if ← ahead done then return false
    let _ ← one
    if ← ahead done then return false
    sign between
    return true

/-- Items with a sign between them, up to where `done` holds or no sign follows; answers
    whether there was one. -/
def joined (done : List Token → Bool) (between : String) (one : Reader α) : Reader Bool := do
  let present := !(← ahead done)
  again do
    if ← ahead done then return false
    let _ ← one
    optionalSign between
  return present

/-- An item of a list with commas, as written, and what there is to know about it. -/
structure Piece (α : Type) where
  about : α
  tokens : List Token
  comma : Bool

/-- Items with commas between them, up to where `done` holds, kept apart. -/
def pieces (done : List Token → Bool) (one : Reader α) : Reader (List (Piece α)) := do
  let read ← steps (fun found => do
    if ← ahead done then return none
    if found.any fun p => !p.comma then failure
    let (about, tokens) ← captured one
    let (comma, _) ← captured (optionalSign ",")
    return some (found ++ [⟨about, tokens, comma⟩])) []
  return read

/-- Writes items with the ones first that `early` holds of; where their last one had no
    comma and others follow, it gets one. -/
def writePieces (early : α → Bool) (found : List (Piece α)) : Reader Unit := do
  let first := found.filter fun p => early p.about
  let second := found.filter fun p => !early p.about
  let comma (c : Bool) : List Token := if c then [.mark ',' false] else []
  write (first.flatMap fun p => p.tokens ++ comma p.comma)
  if !second.isEmpty && (first.getLast?.any fun p => !p.comma) then write [.mark ',' false]
  write (second.flatMap fun p => p.tokens ++ comma p.comma)

end Reader

end RecordCopy.Derive
