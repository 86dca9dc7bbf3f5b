import RecordCopy.Text.Quoted
/-!
# Outlines of values in diagnostics

A diagnostic shows a value by its name and its parts: named parts in braces, one
unnamed part in parentheses, a list in brackets.  An outline that leaves parts out
says so with two dots at its end.
-/
namespace RecordCopy.Text

/-- `name: part` for each part, with commas between them. -/
def namedParts (parts : List (String × String)) : String :=
  ", ".intercalate (parts.map fun p => p.1 ++ ": " ++ p.2)

/-- All parts by name. -/
def outline (name : String) (parts : List (String × String)) : String :=
  name ++ " \x7b " ++ namedParts parts ++ " \x7d"

/-- Some parts by name, others left out. -/
def partialOutline (name : String) (parts : List (String × String)) : String :=
  name ++ " \x7b " ++ namedParts parts ++ ", .. \x7d"

/-- The only part of a value, without a name. -/
def wrapped (name part : String) : String := name ++ "(" ++ part ++ ")"

def bracketed (parts : List String) : String := "[" ++ ", ".intercalate parts ++ "]"

end RecordCopy.Text
