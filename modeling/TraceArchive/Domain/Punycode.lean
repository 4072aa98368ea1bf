/-!
Punycode: the characters of a label beyond ASCII, written in ASCII.  They are taken in the order of
their code points, and each is given by a number: how far to go on in code points and places from
the one before.
-/

namespace TraceArchive

namespace Domain

namespace Punycode

/-! ## Digits and numbers

A number has its lowest digit first.  Digits are to base 36, and one below the threshold of its
place is the last. -/

def digitValue? (c : Char) : Option Nat :=
  if c.isLower then some (c.toNat - 'a'.toNat)
  else if c.isDigit then some (c.toNat - '0'.toNat + 26)
  else none

def digit (value : Nat) : Char :=
  if value < 26 then Char.ofNat (value + 'a'.toNat) else Char.ofNat (value - 26 + '0'.toNat)

/-- The threshold of a place; places are counted in steps of 36. -/
def threshold (bias place : Nat) : Nat :=
  min 26 (max 1 (place - bias))

theorem threshold_pos (bias place : Nat) : 0 < threshold bias place := by
  unfold threshold; omega

/-- Where thresholds change for numbers of a size. -/
def biasFor (size : Nat) : Nat :=
  if 455 < size then 36 + biasFor (size / 35) else 36 * size / (size + 38)

/-- The bias after a number, which gave a text so many characters. -/
def nextBias (number count : Nat) (isFirst : Bool) : Nat :=
  let size := if isFirst then number / 700 else number / 2
  biasFor (size + size / count)

def initialBias : Nat := 72

/-! ## Reading -/

/-- A text half read: its characters so far, the code point and the place of the last, and what is
known of the number for the next. -/
structure Reading where
  text : List Char
  codePoint : Nat := 0x80
  index : Nat := 0
  bias : Nat := initialBias
  number : Nat := 0
  weight : Nat := 1
  place : Nat := 36

/-- Puts the character that a number gives into the text. -/
def Reading.insert? (r : Reading) (number : Nat) : Option Reading :=
  let count := r.text.length + 1
  let codePoint := r.codePoint + (r.index + number) / count
  let index := (r.index + number) % count
  if codePoint.isValidChar then
    some {
      text := r.text.insertIdx index (Char.ofNat codePoint)
      codePoint := codePoint
      index := index + 1
      bias := nextBias number count (r.index = 0) }
  else none

/-- Reads one digit. -/
def Reading.next? (r : Reading) (c : Char) : Option Reading := do
  let value ← digitValue? c
  let number := r.number + value * r.weight
  let limit := threshold r.bias r.place
  if value < limit then r.insert? number
  else some { r with number := number, weight := r.weight * (36 - limit), place := r.place + 36 }

/-- Whether no number is left half read. -/
def Reading.isWhole (r : Reading) : Bool :=
  r.place = 36

/-- The ASCII characters of a written text and its numbers, which the last hyphen sets apart.  With
nothing before that hyphen, there are only numbers. -/
def divide (written : List Char) : List Char × List Char :=
  let numbers := (written.reverse.takeWhile (· ≠ '-')).reverse
  let before := written.take (written.length - numbers.length)
  match before.dropLast with
  | [] => ([], before ++ numbers)
  | ascii => (ascii, numbers)

def decode (written : List Char) : Option (List Char) := do
  let (ascii, numbers) := divide written
  let r ← numbers.foldlM Reading.next? { text := ascii }
  if r.isWhole then some r.text else none

/-! ## Writing -/

def writeNumber (bias place number : Nat) : List Char :=
  let limit := threshold bias place
  if number < limit then [digit number]
  else
    digit (limit + (number - limit) % (36 - limit))
      :: writeNumber bias (place + 36) ((number - limit) / (36 - limit))
termination_by number
decreasing_by
  have := threshold_pos bias place
  have := Nat.div_le_self (number - threshold bias place) (36 - threshold bias place)
  omega

/-- A text half written: its numbers so far, the number in progress, and how many characters are
done. -/
structure Writing where
  written : List Char := []
  number : Nat := 0
  bias : Nat := initialBias
  ascii : Nat
  done : Nat

/-- Passes one character of the text while those of a code point are written: lower ones are in
place already and count, those of the code point are given. -/
def Writing.pass (codePoint : Nat) (w : Writing) (c : Char) : Writing :=
  if c.toNat < codePoint then { w with number := w.number + 1 }
  else if c.toNat = codePoint then
    { w with
      written := w.written ++ writeNumber w.bias 36 w.number
      number := 0
      bias := nextBias w.number (w.done + 1) (w.done = w.ascii)
      done := w.done + 1 }
  else w

/-- Writes all characters of some code points, which ascend; `next` is the first code point that may
come. -/
def Writing.run (text : List Char) (w : Writing) (next : Nat) : List Nat → Writing
  | [] => w
  | codePoint :: others =>
    let w := { w with number := w.number + (codePoint - next) * (w.done + 1) }
    let w := text.foldl (Writing.pass codePoint) w
    Writing.run text { w with number := w.number + 1 } (codePoint + 1) others

def encode (text : List Char) : List Char :=
  let ascii := text.filter (·.toNat < 0x80)
  let others := ((text.map Char.toNat).filter (0x80 ≤ ·)).eraseDups.mergeSort
  let w := Writing.run text { ascii := ascii.length, done := ascii.length } 0x80 others
  (if ascii = [] then [] else ascii ++ ['-']) ++ w.written

end Punycode

end Domain

end TraceArchive
