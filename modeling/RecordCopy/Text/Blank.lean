/-!
# White space and pieces of a text

Field paths and settings are written by people, so blanks around their parts do not
count.  A blank is a character with the Unicode property `White_Space`; there are
twenty-five of them.

Texts are cut on lists of characters, where the two operations used later have one
equation per case: `trim` drops the blanks at both ends, and `cut` splits at every
occurrence of a separator and so always yields at least one piece.
-/
namespace RecordCopy.Text

/-- The characters with the property `White_Space`, as ranges of code points. -/
def blankRanges : List (Nat × Nat) :=
  [(0x09, 0x0D), (0x20, 0x20), (0x85, 0x85), (0xA0, 0xA0), (0x1680, 0x1680), (0x2000, 0x200A),
   (0x2028, 0x2029), (0x202F, 0x202F), (0x205F, 0x205F), (0x3000, 0x3000)]

example : (blankRanges.map fun r => r.2 - r.1 + 1).sum = 25 := rfl

def inRanges (ranges : List (Nat × Nat)) (n : Nat) : Bool :=
  ranges.any fun r => decide (r.1 ≤ n) && decide (n ≤ r.2)

def isBlank (c : Char) : Bool := inRanges blankRanges c.toNat

/-- The text without the blanks at either end. -/
def trim (cs : List Char) : List Char :=
  ((cs.dropWhile isBlank).reverse.dropWhile isBlank).reverse

def trimmed (s : String) : String := String.ofList (trim s.toList)

/-- The pieces between the occurrences of `sep`: the first one, and those after it. -/
def cut (sep : Char) : List Char → List Char × List (List Char)
  | [] => ([], [])
  | c :: cs =>
    if c = sep then ([], (cut sep cs).1 :: (cut sep cs).2)
    else (c :: (cut sep cs).1, (cut sep cs).2)

end RecordCopy.Text
