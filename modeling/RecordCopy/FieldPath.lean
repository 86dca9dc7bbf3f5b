import RecordCopy.Text.Blank
/-!
# Field paths

A path names a field reached through other fields: `address.city` is the field
`city` of what the field `address` holds.  A path has at least one segment, so it
is a first segment and the segments after it.

`parse?` reads the dotted form, blanks around the whole and around a segment not
counting, and `display` writes it.  `Canonical` says which segments reading produces; on such
paths the two are inverse to each other.
-/
namespace RecordCopy

structure FieldPath where
  root : String
  rest : List String
deriving DecidableEq, Repr

namespace FieldPath

def segments (p : FieldPath) : List String := p.root :: p.rest

def length (p : FieldPath) : Nat := p.segments.length

/-- Every segment but the last: the fields a value has to be reached through. -/
def containers (p : FieldPath) : List String := p.segments.dropLast

def leaf (p : FieldPath) : String := p.segments.getLast (List.cons_ne_nil _ _)

/-- `inner` seen from outside: first `outer`, then `inner` on what it holds. -/
def within (outer inner : FieldPath) : FieldPath :=
  ⟨outer.root, outer.rest ++ inner.segments⟩

def joinDots : String → List String → String
  | s, [] => s
  | s, t :: ts => s ++ "." ++ joinDots t ts

def display (p : FieldPath) : String := joinDots p.root p.rest

/-- One segment as written, or nothing when only blanks were written. -/
def segment? (piece : List Char) : Option String :=
  match Text.trim piece with
  | [] => none
  | c :: cs => some (String.ofList (c :: cs))

/-- Read a dotted path.  A piece between dots with nothing but blanks in it makes
    the whole text malformed. -/
def parse? (raw : String) : Option FieldPath :=
  let pieces := Text.cut '.' (Text.trim raw.toList)
  match segment? pieces.1, pieces.2.mapM segment? with
  | some root, some rest => some ⟨root, rest⟩
  | _, _ => none

/-- A segment that reading can produce: not empty, without dots, and with no
    blank at either end. -/
def CanonicalSegment (s : String) : Prop :=
  s.toList ≠ [] ∧ '.' ∉ s.toList ∧ Text.trim s.toList = s.toList

def Canonical (p : FieldPath) : Prop := ∀ s ∈ p.segments, CanonicalSegment s

/-- One path equals the other or leads to it. -/
def Leads (p q : FieldPath) : Prop := p.segments <+: q.segments

/-- Neither path leads to the other, so no value lies inside the other's. -/
def Unrelated (p q : FieldPath) : Prop := ¬ p.Leads q ∧ ¬ q.Leads p

/-! ### Small facts -/

@[simp] theorem segments_within (outer inner : FieldPath) :
    (outer.within inner).segments = outer.segments ++ inner.segments := rfl

theorem containers_append_leaf (p : FieldPath) : p.containers ++ [p.leaf] = p.segments :=
  List.dropLast_concat_getLast (List.cons_ne_nil _ _)

end FieldPath

end RecordCopy
