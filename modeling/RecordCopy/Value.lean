import RecordCopy.Ty
/-!
# Values

A value knows its exact type, also when it is an absent option.  What a wildcard
holds is shared between all wildcards copied from it: they refer to one allocation,
which is told apart from others by its number.

A `Place` is a spot inside a value, with what lies there and the way to put
something else in its stead.  Writing through a chain of fields is finding a place
and replacing what it holds.
-/
namespace RecordCopy

/-- The number of an allocation shared by wildcards. -/
abbrev Allocation := Nat

/-- A scalar.  Scalars are only ever moved, so an integer is kept as a number and a
    float as its bit pattern. -/
inductive Scalar where
  | bool (value : Bool)
  | char (value : Char)
  | integer (type : IntegerType) (value : Int)
  | float (type : FloatType) (bits : Nat)
  | string (value : String)
deriving DecidableEq, Repr

def Scalar.type : Scalar → ScalarType
  | .bool _ => .bool
  | .char _ => .char
  | .integer type _ => .integer type
  | .float type _ => .float type
  | .string _ => .string

inductive Value where
  | scalar (content : Scalar)
  | bytes (content : List UInt8)
  /-- A wildcard that holds nothing. -/
  | empty
  /-- A wildcard that holds a value. -/
  | holding (allocation : Allocation) (held : Value)
  /-- An absent option of values of a type. -/
  | absent (inner : Ty)
  | present (inner : Value)
  /-- The fields of a record in declaration order. -/
  | record (name : String) (fields : List Value)
deriving Repr, Inhabited

namespace Value

def type : Value → Ty
  | .scalar content => .scalar content.type
  | .bytes _ => .bytes
  | .empty | .holding _ _ => .wildcard
  | .absent inner => .option inner
  | .present inner => .option inner.type
  | .record name _ => .record name

/-- The value itself, if it has exactly the type asked for. -/
def as? (type : Ty) (v : Value) : Option Value :=
  if v.type = type then some v else none

/-- What a present option holds, if that has exactly the type asked for. -/
def payload? (type : Ty) : Value → Option Value
  | .present inner => inner.as? type
  | _ => none

/-- What a wildcard or an optional wildcard holds: nothing at all, or a value with
    its allocation.  Any other value is no wildcard. -/
def wildcard? : Value → Option (Option (Allocation × Value))
  | .empty => some none
  | .holding allocation held => some (some (allocation, held))
  | .absent .wildcard => some none
  | .present .empty => some none
  | .present (.holding allocation held) => some (some (allocation, held))
  | _ => none

/-- The value held by a wildcard or an optional wildcard, if it has exactly the type
    asked for. -/
def held? (type : Ty) (v : Value) : Option Value :=
  match v.wildcard? with
  | some (some (_, held)) => held.as? type
  | _ => none

/-! ### Shared allocations -/

mutual
/-- The value with every allocation from `first` on renumbered `first`: values that
    agree after this differ at most in which of the later allocations they share. -/
def blur (first : Allocation) : Value → Value
  | .holding allocation held => .holding (min allocation first) (held.blur first)
  | .present inner => .present (inner.blur first)
  | .record name fields => .record name (blurAll first fields)
  | .scalar content => .scalar content
  | .bytes content => .bytes content
  | .empty => .empty
  | .absent inner => .absent inner

def blurAll (first : Allocation) : List Value → List Value
  | [] => []
  | v :: vs => v.blur first :: blurAll first vs
end

/-- Equal up to the identity of allocations made from `first` on. -/
def SameUpTo (first : Allocation) (v w : Value) : Prop := v.blur first = w.blur first

end Value

/-! ### Places -/

structure Place where
  /-- What lies at the place. -/
  content : Value
  /-- The whole value with something else put at the place. -/
  replace : Value → Value

namespace Place

def whole (v : Value) : Place := ⟨v, id⟩

/-- A place inside what lies at another place. -/
def inside (outer inner : Place) : Place := ⟨inner.content, outer.replace ∘ inner.replace⟩

end Place

namespace Value

/-- The field at a position of a record of exactly the given name. -/
def field? (record : String) (position : Nat) : Value → Option Value
  | .record name fields => if name = record then fields[position]? else none
  | _ => none

def fieldPlace? (record : String) (position : Nat) : Value → Option Place
  | .record name fields =>
    if name = record then
      fields[position]?.map fun v => ⟨v, fun w => .record name (fields.set position w)⟩
    else none
  | _ => none

def payloadPlace? (type : Ty) : Value → Option Place
  | .present inner => (inner.as? type).map fun v => ⟨v, .present⟩
  | _ => none

/-! ### Small facts -/

theorem as?_eq_some_iff {t : Ty} {v w : Value} : v.as? t = some w ↔ v.type = t ∧ v = w := by
  unfold as?
  split <;> simp_all

@[simp] theorem as?_type (v : Value) : v.as? v.type = some v := by simp [as?]

/-- A field is read where its place is. -/
theorem map_content_fieldPlace? (record : String) (position : Nat) (v : Value) :
    (v.fieldPlace? record position).map Place.content = v.field? record position := by
  cases v with
  | record name fields =>
    simp only [fieldPlace?, field?]
    split
    · cases fields[position]? <;> rfl
    · rfl
  | _ => rfl

theorem map_content_payloadPlace? (t : Ty) (v : Value) :
    (v.payloadPlace? t).map Place.content = v.payload? t := by
  cases v with
  | present inner => simp only [payloadPlace?, payload?]; cases inner.as? t <;> rfl
  | _ => rfl

end Value

end RecordCopy
