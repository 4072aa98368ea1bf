/-!
Characters as bytes.  `encode` writes the UTF-8 form of a text, `scan` splits a byte string into
its characters and the stretches that are none, and `decode` and `decodeLossy` are the two readings
of a scan: refuse what is no character, or show each such stretch as U+FFFD.
-/

namespace TraceArchive

/-- A byte string, read from the front. -/
abbrev Bytes := List UInt8

namespace Utf8

/-- The bytes of one character: one byte below U+0080, else a lead byte and one to three tails of
six bits each. -/
def encodeChar (c : Char) : Bytes :=
  let n := c.toNat
  if n < 0x80 then [n.toUInt8]
  else if n < 0x800 then [(0xC0 + n / 0x40).toUInt8, (0x80 + n % 0x40).toUInt8]
  else if n < 0x10000 then
    [(0xE0 + n / 0x1000).toUInt8, (0x80 + n / 0x40 % 0x40).toUInt8, (0x80 + n % 0x40).toUInt8]
  else
    [(0xF0 + n / 0x40000).toUInt8, (0x80 + n / 0x1000 % 0x40).toUInt8,
      (0x80 + n / 0x40 % 0x40).toUInt8, (0x80 + n % 0x40).toUInt8]

def encode (text : List Char) : Bytes :=
  text.flatMap encodeChar

/-- A byte that continues a character. -/
def isTail (b : UInt8) : Bool :=
  0x80 ≤ b && b < 0xC0

/-- The second bytes a lead byte allows.  The four special leads leave out overlong forms, the
surrogates, and what lies beyond U+10FFFF. -/
def follows (lead b : UInt8) : Bool :=
  if lead = 0xE0 then 0xA0 ≤ b && b < 0xC0
  else if lead = 0xED then 0x80 ≤ b && b < 0xA0
  else if lead = 0xF0 then 0x90 ≤ b && b < 0xC0
  else if lead = 0xF4 then 0x80 ≤ b && b < 0x90
  else isTail b

/-- The six bits a tail byte carries. -/
def tailBits (b : UInt8) : Nat :=
  b.toNat - 0x80

/-- The characters of a byte string in order, with `none` for each longest stretch that starts a
character without completing it, and for each byte that starts none. -/
def scan : Bytes → List (Option Char)
  | [] => []
  | a :: r =>
    if a < 0x80 then some (Char.ofNat a.toNat) :: scan r
    else if a < 0xC2 || 0xF4 < a then none :: scan r
    else match r with
      | [] => [none]
      | b :: r₁ =>
        if !follows a b then none :: scan (b :: r₁)
        else if a < 0xE0 then
          some (Char.ofNat ((a.toNat - 0xC0) * 0x40 + tailBits b)) :: scan r₁
        else match r₁ with
          | [] => [none]
          | c :: r₂ =>
            if !isTail c then none :: scan (c :: r₂)
            else if a < 0xF0 then
              some (Char.ofNat (((a.toNat - 0xE0) * 0x40 + tailBits b) * 0x40 + tailBits c))
                :: scan r₂
            else match r₂ with
              | [] => [none]
              | d :: r₃ =>
                if !isTail d then none :: scan (d :: r₃)
                else
                  some (Char.ofNat ((((a.toNat - 0xF0) * 0x40 + tailBits b) * 0x40
                    + tailBits c) * 0x40 + tailBits d)) :: scan r₃

/-- The text a byte string encodes, if it encodes one. -/
def decode (bytes : Bytes) : Option (List Char) :=
  (scan bytes).mapM id

/-- The number of bytes before the first stretch that encodes nothing. -/
def validLength (bytes : Bytes) : Nat :=
  (encode (((scan bytes).takeWhile Option.isSome).filterMap id)).length

/-- The text of a byte string, with U+FFFD for each stretch that encodes nothing. -/
def decodeLossy (bytes : Bytes) : List Char :=
  (scan bytes).map (·.getD '\uFFFD')

def ofString (text : String) : Bytes :=
  encode text.toList

def toString? (bytes : Bytes) : Option String :=
  (decode bytes).map String.ofList

end Utf8

end TraceArchive
