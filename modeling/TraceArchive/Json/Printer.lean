import TraceArchive.Json.Value
import TraceArchive.Number.Decimal
/-!
JSON values as text.  One printer serves both written forms: a `Layout` says what stands before
each item of a bracket and after each name.  `compact` writes no blank at all, `pretty` a line break
and four spaces for each open bracket; an empty bracket stays on its line in both.
-/

namespace TraceArchive

namespace Json

/-- A hexadecimal digit in lower case. -/
def hexDigit (n : Nat) : Char :=
  Nat.digitChar n

/-- A character inside quotes.  Quote, backslash and the characters below U+0020 are escaped, the
rest stand for themselves. -/
def escapeChar (c : Char) : List Char :=
  if c = '"' then ['\\', '"']
  else if c = '\\' then ['\\', '\\']
  else if c = '\x08' then ['\\', 'b']
  else if c = '\x0c' then ['\\', 'f']
  else if c = '\n' then ['\\', 'n']
  else if c = '\r' then ['\\', 'r']
  else if c = '\t' then ['\\', 't']
  else if c.toNat < 0x20 then
    ['\\', 'u', '0', '0', hexDigit (c.toNat / 16), hexDigit (c.toNat % 16)]
  else [c]

/-- A text in quotes. -/
def quoted (s : String) : List Char :=
  '"' :: (s.toList.flatMap escapeChar ++ ['"'])

/-- The decimal digits of an integer, with a minus sign where it is negative. -/
def integerText (n : Int) : List Char :=
  if n < 0 then '-' :: Nat.toDigits 10 n.natAbs else Nat.toDigits 10 n.natAbs

def Number.text : Number → List Char
  | .integer n _ => integerText n
  | .double d => d.text

/-- Where blanks stand: before an item at a nesting depth, and after the colon of a member. -/
structure Layout where
  beforeItem : Nat → List Char
  afterColon : List Char

namespace Layout

def compact : Layout :=
  ⟨fun _ => [], []⟩

def pretty : Layout :=
  ⟨fun depth => '\n' :: List.replicate (4 * depth) ' ', [' ']⟩

end Layout

namespace Value

mutual

/-- The text of a value that stands inside `depth` brackets. -/
def print (layout : Layout) (depth : Nat) : Value → List Char
  | .null => ['n', 'u', 'l', 'l']
  | .bool true => ['t', 'r', 'u', 'e']
  | .bool false => ['f', 'a', 'l', 's', 'e']
  | .number n => n.text
  | .string s => quoted s
  | .array [] => ['[', ']']
  | .array (x :: xs) =>
    '[' :: (layout.beforeItem (depth + 1) ++ (x.print layout (depth + 1)
      ++ (printItems layout (depth + 1) xs ++ (layout.beforeItem depth ++ [']']))))
  | .object [] => ['{', '}']
  | .object ((name, v) :: ms) =>
    '{' :: (layout.beforeItem (depth + 1) ++ (quoted name ++ (':' :: (layout.afterColon
      ++ (v.print layout (depth + 1)
        ++ (printMembers layout (depth + 1) ms ++ (layout.beforeItem depth ++ ['}'])))))))

/-- The items after the first, each behind a comma. -/
def printItems (layout : Layout) (depth : Nat) : List Value → List Char
  | [] => []
  | x :: xs =>
    ',' :: (layout.beforeItem depth ++ (x.print layout depth ++ printItems layout depth xs))

/-- The members after the first, each behind a comma. -/
def printMembers (layout : Layout) (depth : Nat) : List (String × Value) → List Char
  | [] => []
  | (name, v) :: ms =>
    ',' :: (layout.beforeItem depth ++ (quoted name ++ (':' :: (layout.afterColon
      ++ (v.print layout depth ++ printMembers layout depth ms)))))

end

/-- The value on one line, without blanks. -/
def compact (v : Value) : List Char :=
  v.print Layout.compact 0

/-- The value over several lines, four spaces for each open bracket. -/
def pretty (v : Value) : List Char :=
  v.print Layout.pretty 0

end Value

end Json

end TraceArchive
