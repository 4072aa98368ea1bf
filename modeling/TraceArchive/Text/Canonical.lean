import TraceArchive.Text.Canonical.Class
import TraceArchive.Text.Canonical.Parts
/-!
Composed texts (normalization form C).  Of the texts that are canonically equivalent, the composed
one has its marks in the order of their classes and a composite wherever there is one.
-/

namespace TraceArchive

namespace Text

/-! ## Hangul syllables, which are numbered by their parts -/

def syllableStart : Nat := 0xAC00
def leadStart : Nat := 0x1100
def vowelStart : Nat := 0x1161
/-- One before the first trailing consonant, so that zero stands for none. -/
def trailStart : Nat := 0x11A7
def leadCount : Nat := 19
def vowelCount : Nat := 21
def trailCount : Nat := 28
def syllableCount : Nat := leadCount * vowelCount * trailCount

/-- The two or three parts of a syllable. -/
def syllableParts? (c : Char) : Option (List Char) :=
  let index := c.toNat - syllableStart
  if syllableStart ≤ c.toNat && index < syllableCount then
    let lead := Char.ofNat (leadStart + index / (vowelCount * trailCount))
    let vowel := Char.ofNat (vowelStart + index / trailCount % vowelCount)
    if index % trailCount = 0 then some [lead, vowel]
    else some [lead, vowel, Char.ofNat (trailStart + index % trailCount)]
  else none

/-- The syllable of a leading consonant and a vowel, or of a syllable without a trailing consonant
and one. -/
def syllable? (a b : Char) : Option Char :=
  let lead := a.toNat - leadStart
  let vowel := b.toNat - vowelStart
  let index := a.toNat - syllableStart
  let trail := b.toNat - trailStart
  if leadStart ≤ a.toNat && lead < leadCount && vowelStart ≤ b.toNat && vowel < vowelCount then
    some (.ofNat (syllableStart + (lead * vowelCount + vowel) * trailCount))
  else if syllableStart ≤ a.toNat && index < syllableCount && index % trailCount = 0
      && trailStart < b.toNat && trail < trailCount then
    some (.ofNat (a.toNat + trail))
  else none

/-! ## Taking apart -/

/-- How deep composites are nested. -/
def compositeDepth : Nat := 3

/-- The parts of a character that have no parts themselves, for composites nested so deep. -/
def partsToDepth : Nat → Char → List Char
  | 0, c => [c]
  | depth + 1, c =>
    match composites.find? (·.whole = c) with
    | some composite => partsToDepth depth composite.first ++ [composite.second]
    | none =>
      match expansions.find? (·.whole = c) with
      | some expansion => expansion.parts
      | none => (syllableParts? c).getD [c]

/-- The parts of a character. -/
def canonicalParts (c : Char) : List Char :=
  if c.toNat < 0xC0 then [c] else partsToDepth compositeDepth c

/-! ## Ordering -/

/-- Puts a character in front of a text with ordered marks, behind the marks of lower classes. -/
def insertByClass (c : Char) : List Char → List Char
  | [] => [c]
  | d :: rest =>
    if 0 < combiningClass d && combiningClass d < combiningClass c then d :: insertByClass c rest
    else c :: d :: rest

/-- The text with its marks in the order of their classes. -/
def orderMarks (text : List Char) : List Char :=
  text.foldr insertByClass []

/-! ## Putting together -/

/-- The character that stands for two. -/
def composite? (a b : Char) : Option Char :=
  match composites.find? fun p => p.first = a && p.second = b with
  | some composite => some composite.whole
  | none => syllable? a b

/-- Composes a character of class zero with what follows.  The marks in between, last first, are
those it was not composed with; a character composes past them if its class is above theirs. -/
def composeAfter (base : Char) (between : List Char) : List Char → List Char
  | [] => base :: between.reverse
  | c :: rest =>
    let reaches := match between with
      | [] => true
      | last :: _ => combiningClass last < combiningClass c
    match if reaches then composite? base c else none with
    | some whole => composeAfter whole between rest
    | none =>
      if combiningClass c = 0 then base :: between.reverse ++ composeAfter c [] rest
      else composeAfter base (c :: between) rest

/-- Composes a text of parts in order. -/
def composeParts : List Char → List Char
  | [] => []
  | c :: rest => if combiningClass c = 0 then composeAfter c [] rest else c :: composeParts rest

/-- The composed text that is canonically equivalent to a text. -/
def composed (text : List Char) : List Char :=
  composeParts (orderMarks (text.flatMap canonicalParts))

end Text

end TraceArchive
