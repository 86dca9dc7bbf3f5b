import RecordCopy.Value
import RecordCopy.Text.Outline
/-!
# Types of fields, and what a slot accepts

A field is declared with a type, and possibly as closed: then it is only known to
be there, and no value of it is read, written or entered.  Bytes are always closed.

Three operations depend on the type of a slot.  `enter` reaches what a container
holds: a record is entered as it is, an option through one layer.  `store` puts a value
into a slot, which holds something afterwards whether it took the value or not; one that
refused it holds what it held (`ValueType.content_store_of_refused`).  `erase` puts a
value into a wildcard.  Between a type, its option and the wildcard the rules of
`Ty.store` move values in every direction.
-/
namespace RecordCopy

inductive Kind where
  | scalar
  | optional (inner : Ty)
  | record (name : String)
  | wildcard
  /-- Declared, but taking no part in copying. -/
  | closed
deriving DecidableEq, Repr

def Kind.outline : Kind → String
  | .scalar => "Scalar"
  | .optional inner => Text.wrapped "Optional" (Text.quoted inner.fullName)
  | .record name => Text.wrapped "Record" (Text.quoted name)
  | .wildcard => "Wildcard"
  | .closed => "Opaque"

structure ValueType where
  type : Ty
  closed : Bool
deriving DecidableEq, Repr

/-- The type of a field that takes part in copying, unless it is bytes. -/
def Ty.valueType (type : Ty) : ValueType := ⟨type, decide (type = .bytes)⟩

/-! ### What a slot accepts -/

/-- A slot after a value was to be put into it. -/
structure Stored where
  content : Value
  /-- Whether the slot took the value. -/
  taken : Bool
deriving Repr

namespace Stored

def took (content : Value) : Stored := ⟨content, true⟩

def refused (content : Value) : Stored := ⟨content, false⟩

def result? (s : Stored) : Option Value := if s.taken then some s.content else none

end Stored

namespace Ty

/-- What a slot of a type becomes when it takes a value, whatever it held before. -/
def accept? : Ty → Value → Option Value
  | .wildcard, v =>
    v.wildcard?.map fun
      | none => .empty
      | some (allocation, held) => .holding allocation held
  | .option inner, v =>
    if v.type = .option inner then some v
    else
      match v.wildcard? with
      | some none => some (.absent inner)
      | _ => (v.as? inner <|> v.held? inner).map .present
  | type, v => v.as? type <|> v.payload? type <|> v.held? type

/-- Put a value into a slot of a type.

    A wildcard takes the content of wildcards only, an absent one emptying it.  An
    option takes an option of its own type whole; an empty wildcard clears it; and a
    value of the inner type, also out of a wildcard, makes it present.  Any other
    type takes a value of its own, out of a present option or a wildcard as well. -/
def store : Ty → Value → Value → Stored
  | .wildcard, slot, v =>
    match v.wildcard? with
    | some (some (allocation, held)) => .took (.holding allocation held)
    | some none => .took .empty
    | none => .refused slot
  | .option inner, slot, v =>
    if v.type = .option inner then .took v
    else
      match v.wildcard? with
      | some none => .took (.absent inner)
      | _ =>
        match v.as? inner <|> v.held? inner with
        | some w => .took (.present w)
        | none => .refused slot
  | type, slot, v =>
    match v.as? type <|> v.payload? type <|> v.held? type with
    | some w => .took w
    | none => .refused slot

/-- A slot takes what it accepts, and is left alone otherwise. -/
theorem store_eq (t : Ty) (slot v : Value) :
    t.store slot v = (t.accept? v).elim (.refused slot) .took := by
  cases t with
  | wildcard =>
    simp only [store, accept?]
    cases v.wildcard? with
    | none => rfl
    | some held => cases held <;> rfl
  | option inner =>
    simp only [store, accept?]
    split
    · rfl
    · cases v.wildcard? with
      | none => cases v.as? inner <|> v.held? inner <;> rfl
      | some held =>
        cases held with
        | none => rfl
        | some held => cases v.as? inner <|> v.held? inner <;> rfl
  | scalar | bytes | record =>
    simp only [store, accept?]
    split
    · rename_i h
      rw [h]
      rfl
    · rename_i h
      rw [h]
      rfl

theorem content_store_of_refused {t : Ty} {slot v : Value}
    (h : (t.store slot v).taken = false) : (t.store slot v).content = slot := by
  rw [store_eq] at h ⊢
  cases haccept : t.accept? v with
  | none => rfl
  | some content =>
    rw [haccept] at h
    cases h

end Ty

namespace ValueType

def sealedOf (type : Ty) : ValueType := ⟨type, true⟩

def kind : ValueType → Kind
  | ⟨_, true⟩ => .closed
  | ⟨.scalar _, false⟩ => .scalar
  | ⟨.wildcard, false⟩ => .wildcard
  | ⟨.bytes, false⟩ => .closed
  | ⟨.record name, false⟩ => .record name
  | ⟨.option inner, false⟩ => .optional inner

/-- The type that decides compatibility: the type under its option layers, and of a
    closed field the declared type itself. -/
def canonical (t : ValueType) : Ty := if t.closed then t.type else t.type.canonical

def isWildcard (t : ValueType) : Bool := decide (t.canonical = .wildcard)

def isOptional (t : ValueType) : Bool :=
  match t.kind with
  | .optional _ => true
  | _ => false

/-- The record behind the option layers, if there is one. -/
def recordName? (t : ValueType) : Option String :=
  if t.closed then none
  else match t.type.canonical with
    | .record name => some name
    | _ => none

/-! ### Entering a container -/

def enter (t : ValueType) (v : Value) : Option Value :=
  match t.kind with
  | .record name => v.as? (.record name)
  | .optional inner => v.payload? inner
  | .scalar | .wildcard | .closed => none

def enterPlace (t : ValueType) (v : Value) : Option Place :=
  match t.kind with
  | .record name => (v.as? (.record name)).map Place.whole
  | .optional inner => v.payloadPlace? inner
  | .scalar | .wildcard | .closed => none

/-! ### Putting a value into a slot -/

/-- Put a value into a slot of this type, which has to hold a value of exactly this type
    already. -/
def store (t : ValueType) (slot v : Value) : Stored :=
  match t.kind with
  | .closed => .refused slot
  | _ => if slot.type = t.type then t.type.store slot v else .refused slot

def assign (t : ValueType) (slot v : Value) : Option Value := (t.store slot v).result?

/-- The wildcard for a value of this type.  A wildcard stays itself, an option gives
    up one layer, and anything held is a new allocation of the given number. -/
def erase (t : ValueType) (fresh : Allocation) (v : Value) : Option Value :=
  match t.kind with
  | .closed => none
  | .optional inner =>
    if v.type = .option inner then
      match v with
      | .present content => some (.holding fresh content)
      | _ => some .empty
    else none
  | .scalar | .record _ | .wildcard =>
    if v.type = .wildcard then some v else (v.as? t.type).map (.holding fresh)

/-! ### Outlines -/

def outline (t : ValueType) : String :=
  Text.partialOutline "ValueType"
    [("name", Text.quoted t.type.fullName), ("kind", t.kind.outline)]

/-! ### Small facts -/

theorem map_content_enterPlace (t : ValueType) (v : Value) :
    (t.enterPlace v).map Place.content = t.enter v := by
  unfold enterPlace enter
  split
  · cases v.as? _ <;> rfl
  · exact Value.map_content_payloadPlace? _ v
  · rfl
  · rfl
  · rfl

theorem assign_eq (t : ValueType) (slot v : Value) : t.assign slot v =
    match t.kind with
    | .closed => none
    | _ => if slot.type = t.type then t.type.accept? v else none := by
  unfold assign store
  split
  · rfl
  · split
    · rw [Ty.store_eq]
      cases t.type.accept? v <;> rfl
    · rfl

/-- A slot that refuses a value holds what it held. -/
theorem content_store_of_refused {t : ValueType} {slot v : Value}
    (h : (t.store slot v).taken = false) : (t.store slot v).content = slot := by
  revert h
  unfold store
  split
  · exact fun _ => rfl
  · split
    · exact Ty.content_store_of_refused
    · exact fun _ => rfl

end ValueType

namespace Value

/-- Two wildcards are the same when both are empty or both share one allocation. -/
def sameWildcard : Value → Value → Bool
  | .empty, .empty => true
  | .holding a _, .holding b _ => decide (a = b)
  | _, _ => false

def isEmptyWildcard : Value → Bool
  | .empty => true
  | _ => false

/-- A wildcard in outline: whether it holds anything, and nothing more. -/
def wildcardOutline : Value → String
  | .holding _ _ => Text.wrapped "AnyValue" ".."
  | _ => Text.wrapped "AnyValue" "empty"

end Value

end RecordCopy
