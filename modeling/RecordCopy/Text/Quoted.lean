import RecordCopy.Text.Blank
import RecordCopy.Text.Unprintable
/-!
# Quoted text

Diagnostics show texts between double quotes.  A quote and a backslash get a
backslash in front, the four usual control characters have a letter, and a
character without a shape of its own is written as its code point in braces.
-/
namespace RecordCopy.Text

/-- The digits of `n` in base sixteen, lower case and without leading zeros. -/
def hexDigits (n : Nat) : List Char := Nat.toDigits 16 n

/-- How a character is written between double quotes. -/
def escape (c : Char) : List Char :=
  match c with
  | '\x00' => ['\\', '0']
  | '\t' => ['\\', 't']
  | '\n' => ['\\', 'n']
  | '\r' => ['\\', 'r']
  | '"' => ['\\', '"']
  | '\\' => ['\\', '\\']
  | c => if isUnprintable c then ['\\', 'u', '\x7b'] ++ hexDigits c.toNat ++ ['\x7d'] else [c]

def quoted (s : String) : String := String.ofList ('"' :: s.toList.flatMap escape ++ ['"'])

end RecordCopy.Text
