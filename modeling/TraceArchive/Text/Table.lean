/-!
Hexadecimal digits, and tables of characters that are written with them as texts: a list of ranges,
or a list of rows.
-/

namespace TraceArchive

namespace Text

/-- The value of a hexadecimal digit in either case. -/
def hexValue? (b : UInt8) : Option Nat :=
  if 0x30 ≤ b && b ≤ 0x39 then some (b.toNat - 0x30)
  else if 0x41 ≤ b && b ≤ 0x46 then some (b.toNat - 0x37)
  else if 0x61 ≤ b && b ≤ 0x66 then some (b.toNat - 0x57)
  else none

/-- The value of a character that is a hexadecimal digit. -/
def hexDigitValue? (c : Char) : Option Nat :=
  if c.toNat < 0x80 then hexValue? c.toNat.toUInt8 else none

/-- The words of a text, which blanks and line breaks set apart. -/
def words (text : List Char) : List (List Char) :=
  (text.splitOnP Char.isWhitespace).filter (· ≠ [])

/-- The number that hexadecimal digits denote. -/
def hexNumber (digits : List Char) : Nat :=
  digits.foldl (fun n c => n * 16 + (hexDigitValue? c).getD 0) 0

/-- The ranges a text lists: each word is a number, or the first and last of several with a hyphen
between. -/
def ranges (text : String) : List (Nat × Nat) :=
  (words text.toList).map fun word =>
    match word.splitOn '-' with
    | [first, last] => (hexNumber first, hexNumber last)
    | _ => (hexNumber word, hexNumber word)

/-- The rows a text lists: the numbers before each semicolon. -/
def rows (text : String) : List (List Nat) :=
  ((text.toList.splitOn ';').map fun row => (words row).map hexNumber).filter (· ≠ [])

/-- Whether a number lies in one of some ranges, which have their first and last in them. -/
def inRanges (ranges : List (Nat × Nat)) (n : Nat) : Bool :=
  ranges.any fun (first, last) => first ≤ n && n ≤ last

end Text

end TraceArchive
