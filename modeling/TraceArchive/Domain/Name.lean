import TraceArchive.Domain.Direction
import TraceArchive.Domain.Fate
import TraceArchive.Domain.Joiner
import TraceArchive.Domain.Punycode
import TraceArchive.Text.Canonical
/-!
Domain names beyond ASCII.  A name is mapped character by character and composed, its labels are
checked, and each gets its ASCII form.  A label may come in its ASCII form already; it is checked as
what it shows.
-/

namespace TraceArchive

namespace Domain

/-- A label as it is shown, and in ASCII. -/
structure Label where
  shown : List Char
  ascii : List Char
  deriving DecidableEq, Repr

/-- What the ASCII form of a label begins with where it shows more than ASCII. -/
def asciiMark : List Char :=
  ['x', 'n', '-', '-']

/-- The most characters a label beyond ASCII may show. -/
def maxShown : Nat := 1000

/-- The most characters an ASCII form may have after its mark. -/
def maxWritten : Nat := 2000

def isAscii (c : Char) : Bool :=
  c.toNat < 0x80

/-- ASCII characters that no name has: controls, the blank, and what ends a host in a URL or means
something in it. -/
def isDenied (c : Char) : Bool :=
  c.toNat ≤ 0x20 || c.toNat = 0x7F
    || ['%', '#', '/', ':', '<', '>', '?', '@', '[', '\\', ']', '^', '|'].contains c

namespace Label

/-- Whether characters can be shown as a label. -/
def canShow (text : List Char) : Bool :=
  !(text.head?.any Text.isMark) && joinersMatter text

/-- The label that an ASCII form stands for, given without its mark.  It must be what mapping and
composing leave alone, and show more than ASCII. -/
def ofWritten? (written : List Char) : Option Label :=
  if written.length ≤ maxWritten then
    match Punycode.decode written with
    | some shown =>
      if shown.any (!isAscii ·) && shown.all (fateOf · = .stays) && Text.composed shown = shown
          && canShow shown then
        some ⟨shown, asciiMark ++ written⟩
      else none
    | none => none
  else none

/-- The label of a text that was mapped and composed. -/
def ofText? (text : List Char) : Option Label :=
  if text.any isDenied then none
  else if asciiMark.isPrefixOf text then
    if text.all isAscii then ofWritten? (text.drop asciiMark.length) else none
  else if text.all isAscii then some ⟨text, text⟩
  else if text.length ≤ maxShown && canShow text then
    some ⟨text, asciiMark ++ Punycode.encode text⟩
  else none

end Label

/-- The characters that take the place of one; none where the name is refused. -/
def mapped? (c : Char) : Option (List Char) :=
  match fateOf c with
  | .stays => some [c]
  | .goes => some []
  | .becomes text => some text
  | .refused => none

/-- Whether the labels of a name keep to one direction each, as they must if one of them is written
right to left. -/
def directionsFit (labels : List Label) : Bool :=
  !(labels.any fun l => isRightToLeft l.shown) || labels.all fun l => keepsDirection l.shown

/-- The labels of a name. -/
def labels? (name : List Char) : Option (List Label) :=
  match name.mapM mapped? with
  | none => none
  | some texts =>
    match ((Text.composed texts.flatten).splitOn '.').mapM Label.ofText? with
    | none => none
    | some labels => if directionsFit labels then some labels else none

end Domain

end TraceArchive
