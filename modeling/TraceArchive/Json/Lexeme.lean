import TraceArchive.Json.Fault
import TraceArchive.Number.Decimal
import TraceArchive.Text.Table
/-!
The smallest parts of a JSON text: blanks, the words `null`, `true` and `false`, strings and number
literals.  Each reader takes the bytes that are left and gives what it read and what is left then.
-/

namespace TraceArchive

namespace Json

/-- Space, line feed, carriage return or tab. -/
def isBlank (b : UInt8) : Bool :=
  b = 0x20 || b = 0x0A || b = 0x0D || b = 0x09

def skipBlanks (s : Bytes) : Bytes :=
  s.dropWhile isBlank

/-- Reads the given letters.  A letter that differs counts as read. -/
def word : Bytes → Bytes → Except Fault Bytes
  | [], s => .ok s
  | _ :: _, [] => faultAt .endInValue []
  | w :: ws, b :: s => if b = w then word ws s else faultAt .expectedIdent s

/-- The letters of `null` after the first. -/
def nullTail : Bytes := [0x75, 0x6C, 0x6C]

/-- The letters of `true` after the first. -/
def trueTail : Bytes := [0x72, 0x75, 0x65]

/-- The letters of `false` after the first. -/
def falseTail : Bytes := [0x61, 0x6C, 0x73, 0x65]

/-! ## Strings -/

/-- The value of four hexadecimal digits. -/
def hexFour? (a b c d : UInt8) : Option Nat := do
  let a ← Text.hexValue? a
  let b ← Text.hexValue? b
  let c ← Text.hexValue? c
  let d ← Text.hexValue? d
  return ((a * 16 + b) * 16 + c) * 16 + d

/-- The byte that a backslash and this letter stand for. -/
def shortEscape? (b : UInt8) : Option UInt8 :=
  if b = 0x22 || b = 0x5C || b = 0x2F then some b
  else if b = 0x62 then some 0x08
  else if b = 0x66 then some 0x0C
  else if b = 0x6E then some 0x0A
  else if b = 0x72 then some 0x0D
  else if b = 0x74 then some 0x09
  else none

/-- The first half of a surrogate pair. -/
def isHighSurrogate (n : Nat) : Bool :=
  0xD800 ≤ n && n ≤ 0xDBFF

/-- The second half of a surrogate pair. -/
def isLowSurrogate (n : Nat) : Bool :=
  0xDC00 ≤ n && n ≤ 0xDFFF

/-- The code point of a surrogate pair. -/
def pairValue (high low : Nat) : Nat :=
  0x10000 + (high - 0xD800) * 0x400 + (low - 0xDC00)

/-- The text of a stretch of plain bytes that ends before `rest`; it is refused at the first byte
that belongs to no character. -/
def plainText (bytes rest : Bytes) : Except Fault (List Char) :=
  match Utf8.decode bytes with
  | some text => .ok text
  | none =>
    .error ⟨.invalidCodePoint, .unread (bytes.length - Utf8.validLength bytes - 1 + rest.length)⟩

/-- Reads a string up to its closing quote.  `done` is its text so far and `run` the plain bytes
since the last escape, both held in reverse. -/
def stringRest (done : List Char) (run : Bytes) : Bytes → Except Fault (List Char × Bytes)
  | [] => faultAt .endInString []
  | b :: r =>
    if b = 0x22 then do
      let text ← plainText run.reverse (b :: r)
      return (done.reverse ++ text, r)
    else if b = 0x5C then do
      let text ← plainText run.reverse (b :: r)
      let done := text.reverse ++ done
      match r with
      | [] => faultAt .endInString []
      | e :: r₁ =>
        if e = 0x75 then
          match r₁ with
          | h₁ :: h₂ :: h₃ :: h₄ :: r₂ =>
            match hexFour? h₁ h₂ h₃ h₄ with
            | none => faultAt .invalidEscape r₂
            | some n =>
              if isLowSurrogate n then faultAt .loneSurrogate r₂
              else if !isHighSurrogate n then stringRest (Char.ofNat n :: done) [] r₂
              else
                match r₂ with
                | [] => faultAt .endInString []
                | e₁ :: r₃ =>
                  if e₁ ≠ 0x5C then faultAt .unfinishedSurrogatePair r₃
                  else match r₃ with
                    | [] => faultAt .endInString []
                    | e₂ :: r₄ =>
                      if e₂ ≠ 0x75 then faultAt .unfinishedSurrogatePair r₄
                      else match r₄ with
                        | l₁ :: l₂ :: l₃ :: l₄ :: r₅ =>
                          match hexFour? l₁ l₂ l₃ l₄ with
                          | none => faultAt .invalidEscape r₅
                          | some m =>
                            if !isLowSurrogate m then faultAt .loneSurrogate r₅
                            else stringRest (Char.ofNat (pairValue n m) :: done) [] r₅
                        | _ => faultAt .endInString []
          | _ => faultAt .endInString []
        else
          match shortEscape? e with
          | some c => stringRest (Char.ofNat c.toNat :: done) [] r₁
          | none => faultAt .invalidEscape r₁
    else if b < 0x20 then faultAt .controlCharacter r
    else stringRest done (b :: run) r

/-- The text of a string whose opening quote is read. -/
def string (s : Bytes) : Except Fault (String × Bytes) := do
  let (text, rest) ← stringRest [] [] s
  return (String.ofList text, rest)

/-- Passes over a string whose opening quote is read.  Escapes need only have the right form. -/
def skipString : Bytes → Except Fault Bytes
  | [] => faultAt .endInString []
  | b :: r =>
    if b = 0x22 then .ok r
    else if b = 0x5C then
      match r with
      | [] => faultAt .endInString []
      | e :: r₁ =>
        if e = 0x75 then
          match r₁ with
          | h₁ :: h₂ :: h₃ :: h₄ :: r₂ =>
            match hexFour? h₁ h₂ h₃ h₄ with
            | none => faultAt .invalidEscape r₂
            | some _ => skipString r₂
          | _ => faultAt .endInString []
        else
          match shortEscape? e with
          | some _ => skipString r₁
          | none => faultAt .invalidEscape r₁
    else if b < 0x20 then faultAt .controlCharacter (b :: r)
    else skipString r

/-! ## Numbers -/

def isDigit (b : UInt8) : Bool :=
  0x30 ≤ b && b ≤ 0x39

/-- The parts of a number literal, all digits in order. -/
structure Literal where
  negative : Bool
  whole : List Char
  fraction : Option (List Char)
  /-- Whether the exponent is negative, and its digits. -/
  exponent : Option (Bool × List Char)

/-- The digits in front, and what follows them. -/
def digits (s : Bytes) : List Char × Bytes :=
  ((s.takeWhile isDigit).map fun b => Char.ofNat b.toNat, s.dropWhile isDigit)

/-- The digits before the point: a single zero, or digits that do not start with one. -/
def wholePart (atEnd : Cause) : Bytes → Except Fault (List Char × Bytes)
  | [] => faultAt atEnd []
  | b :: r =>
    if b = 0x30 then
      match r with
      | c :: _ => if isDigit c then faultPast .invalidNumber r else .ok (['0'], r)
      | [] => .ok (['0'], [])
    else if isDigit b then .ok (digits (b :: r))
    else faultAt .invalidNumber r

/-- The digits after a point, if there is a point. -/
def fractionPart (atEnd : Cause) (s : Bytes) : Except Fault (Option (List Char) × Bytes) :=
  match s with
  | [] => .ok (none, [])
  | b :: r =>
    if b ≠ 0x2E then .ok (none, s)
    else match digits r with
      | ([], []) => faultAt atEnd []
      | ([], rest) => faultPast .invalidNumber rest
      | (ds, rest) => .ok (some ds, rest)

/-- The sign and the digits of an exponent, if there is one. -/
def exponentPart (atEnd : Cause) (s : Bytes) : Except Fault (Option (Bool × List Char) × Bytes) :=
  match s with
  | [] => .ok (none, [])
  | b :: r =>
    if b ≠ 0x65 && b ≠ 0x45 then .ok (none, s)
    else
      let (negative, r) := match r with
        | c :: r₁ => if c = 0x2D then (true, r₁) else if c = 0x2B then (false, r₁) else (false, r)
        | [] => (false, r)
      match r with
      | [] => faultAt atEnd []
      | c :: r₁ =>
        if !isDigit c then faultAt .invalidNumber r₁
        else
          let (ds, rest) := digits (c :: r₁)
          .ok (some (negative, ds), rest)

/-- Reads a number literal whose sign is read.  `atEnd` is what a literal broken off by the end of
the text is refused with. -/
def literal (atEnd : Cause) (negative : Bool) (s : Bytes) : Except Fault (Literal × Bytes) := do
  let (whole, s) ← wholePart atEnd s
  let (fraction, s) ← fractionPart atEnd s
  let (exponent, s) ← exponentPart atEnd s
  return (⟨negative, whole, fraction, exponent⟩, s)

/-- The largest exponent that is computed with. -/
def maxExponent : Nat := 0x7FFFFFFF

/-- The number of digits that are left once the digits before them exceed `maxExponent`; none if
they never do. -/
def excessDigits? (ds : List Char) : Option Nat :=
  (List.range (ds.length + 1)).findSome? fun n =>
    if maxExponent < Nat.ofDigitChars 10 (ds.take n) 0 then some (ds.length - n) else none

/-- The largest significand. -/
def maxSignificand : Nat := 0xFFFFFFFFFFFFFFFF

/-- Takes digits into a significand as long as it does not exceed `maxSignificand`, and counts them.
-/
def takeDigits (significand : Nat) : List Char → Nat × Nat
  | [] => (significand, 0)
  | c :: cs =>
    let next := Nat.ofDigitChars 10 [c] significand
    if next ≤ maxSignificand then
      let (significand, taken) := takeDigits next cs
      (significand, taken + 1)
    else (significand, 0)

namespace Literal

/-- The coefficient of a literal: its digits without the point. -/
def coefficient (l : Literal) : Nat :=
  Nat.ofDigitChars 10 (l.whole ++ l.fraction.getD []) 0

/-- The number an exponent stands for. -/
def exponentValue : Option (Bool × List Char) → Int
  | none => 0
  | some (true, ds) => -(Nat.ofDigitChars 10 ds 0 : Int)
  | some (false, ds) => Nat.ofDigitChars 10 ds 0

/-- The literal as a double.  Its first digits, as many as make a significand of 64 bits, are scaled
by a power of ten, and the others only count as places.  This need not be the nearest double. -/
def double? (l : Literal) : Option Double :=
  let (whole, wholeTaken) := takeDigits 0 l.whole
  let (significand, fractionTaken) := takeDigits whole (l.fraction.getD [])
  let places : Int := (l.whole.length - wholeTaken : Nat) - (fractionTaken : Int)
  Double.ofRank? l.negative (Double.scaledRank significand (exponentValue l.exponent + places))

/-- An integer literal that fits is that integer, minus zero apart; every other literal is a
double. -/
def value? (l : Literal) : Option Number :=
  let n : Int := if l.negative then -l.coefficient else l.coefficient
  if h : IntegerFits n then
    if l.fraction.isNone && l.exponent.isNone && !(l.negative && l.coefficient = 0) then
      some (.integer n h)
    else l.double?.map .double
  else l.double?.map .double

/-- The number of a literal that ends before `rest`.  An exponent beyond `maxExponent` makes a
number that is too large as soon as it is seen to be, or else zero. -/
def toNumber (l : Literal) (rest : Bytes) : Except Fault Number :=
  match l.exponent.bind fun (_, ds) => excessDigits? ds with
  | some excess =>
    if l.coefficient ≠ 0 && l.exponent.any (fun (negative, _) => !negative) then
      .error ⟨.numberOutOfRange, .unread (rest.length + excess)⟩
    else .ok (.double (Double.zero l.negative))
  | none =>
    match l.value? with
    | some n => .ok n
    | none => faultAt .numberOutOfRange rest

end Literal

/-- Reads a number whose first byte, a minus sign or a digit, is `b`. -/
def number (b : UInt8) (r : Bytes) : Except Fault (Number × Bytes) := do
  let (l, rest) ←
    if b = 0x2D then literal .endInValue true r else literal .endInValue false (b :: r)
  let n ← l.toNumber rest
  return (n, rest)

/-- Passes over a number whose first byte is `b`. -/
def skipNumber (b : UInt8) (r : Bytes) : Except Fault Bytes := do
  let (_, rest) ←
    if b = 0x2D then literal .invalidNumber true r else literal .invalidNumber false (b :: r)
  return rest

end Json

end TraceArchive
