/-!
# Types

A type is a scalar, the wildcard, a string of bytes, or a record, under any number
of option layers.  Records are known by name alone; what a name declares is kept in
a schema, so record types may refer to each other and to themselves.

A type has a short label, in which callers write it, and a full name, which is what
messages show.  `canonical` strips the option layers: two types of the same
canonical type differ only in whether a value may be absent.
-/
namespace RecordCopy

inductive IntegerType where
  | i8 | i16 | i32 | i64 | i128 | isize | u8 | u16 | u32 | u64 | u128 | usize
deriving DecidableEq, Repr

inductive FloatType where
  | f32 | f64
deriving DecidableEq, Repr

inductive ScalarType where
  | bool
  | char
  | integer (type : IntegerType)
  | float (type : FloatType)
  | string
deriving DecidableEq, Repr

inductive Ty where
  | scalar (type : ScalarType)
  /-- Holds a value of any type, or nothing. -/
  | wildcard
  /-- A string of bytes, which takes no part in copying. -/
  | bytes
  | record (name : String)
  | option (inner : Ty)
deriving DecidableEq, Repr

namespace IntegerType

def label : IntegerType → String
  | .i8 => "i8" | .i16 => "i16" | .i32 => "i32" | .i64 => "i64" | .i128 => "i128"
  | .isize => "isize" | .u8 => "u8" | .u16 => "u16" | .u32 => "u32" | .u64 => "u64"
  | .u128 => "u128" | .usize => "usize"

end IntegerType

namespace ScalarType

def label : ScalarType → String
  | .bool => "bool"
  | .char => "char"
  | .integer type => type.label
  | .float .f32 => "f32"
  | .float .f64 => "f64"
  | .string => "String"

def scalars : List ScalarType :=
  [.bool, .char, .integer .i8, .integer .i16, .integer .i32, .integer .i64, .integer .i128,
   .integer .isize, .integer .u8, .integer .u16, .integer .u32, .integer .u64, .integer .u128,
   .integer .usize, .float .f32, .float .f64, .string]

def fullName : ScalarType → String
  | .string => "alloc::string::String"
  | type => type.label

end ScalarType

namespace Ty

/-- The short form of a type, as callers write it. -/
def label : Ty → String
  | .scalar type => type.label
  | .wildcard => "AnyValue"
  | .bytes => "Bytes"
  | .record name => name
  | .option inner => "Option<" ++ inner.label ++ ">"

def fullName : Ty → String
  | .scalar type => type.fullName
  | .wildcard => "reflectmap::type_info::any_value::AnyValue"
  | .bytes => "Bytes"
  | .record name => name
  | .option inner => "core::option::Option<" ++ inner.fullName ++ ">"

/-- The type under its option layers. -/
def canonical : Ty → Ty
  | .option inner => inner.canonical
  | type => type

/-- The type whose label has no option layer around it; a name that is no scalar's,
    the wildcard's or the bytes' is a record's. -/
def ofBase (name : String) : Ty :=
  if name = "AnyValue" then .wildcard
  else if name = "Bytes" then .bytes
  else match ScalarType.scalars.find? fun t => decide (t.label = name) with
    | some type => .scalar type
    | none => .record name

/-- The text inside `Option<` and `>`, if the label has that form. -/
def underOption? (label : List Char) : Option (List Char) :=
  match label with
  | 'O' :: 'p' :: 't' :: 'i' :: 'o' :: 'n' :: '<' :: inner =>
    if inner.getLast? = some '>' then some inner.dropLast else none
  | _ => none

theorem length_underOption? {label inner : List Char} (h : underOption? label = some inner) :
    inner.length < label.length := by
  unfold underOption? at h
  split at h
  · split at h
    · cases h
      simp only [List.length_dropLast, List.length_cons]
      omega
    · cases h
  · cases h

/-- Read a label, one option layer after the other. -/
def ofLabelChars (label : List Char) : Ty :=
  match _h : underOption? label with
  | some inner => .option (ofLabelChars inner)
  | none => ofBase (String.ofList label)
termination_by label.length
decreasing_by exact length_underOption? _h

def ofLabel (label : String) : Ty := ofLabelChars label.toList

/-! ### Small facts -/

@[simp] theorem canonical_option (t : Ty) : (Ty.option t).canonical = t.canonical := rfl

end Ty

end RecordCopy
