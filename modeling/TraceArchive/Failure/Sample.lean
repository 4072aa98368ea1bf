import TraceArchive.Failure.Framed
/-!
Two small vocabularies of framed errors: one that takes in errors of other kinds, those of reading a
natural among them, and one that has none but its own.
-/

namespace TraceArchive

/-! ## Naturals of 64 bits -/

namespace Text

/-- Why a text is no natural of 64 bits. -/
inductive NaturalFault where
  | empty
  | invalidDigit
  | tooLarge
  deriving DecidableEq, Repr

/-- Reads the digits that follow a number; the first fault from the left is the one that counts. -/
def naturalDigits (n : Nat) : List Char → Except NaturalFault Nat
  | [] => .ok n
  | c :: cs =>
    if c.isDigit then
      let next := n * 10 + (c.toNat - '0'.toNat)
      if next < UInt64.size then naturalDigits next cs else .error .tooLarge
    else .error .invalidDigit

/-- Reads a natural. -/
def natural (text : String) : Except NaturalFault Nat :=
  match text.toList with
  | [] => .error .empty
  | ['+'] | ['-'] => .error .invalidDigit
  | '+' :: digits => naturalDigits 0 digits
  | digits => naturalDigits 0 digits

end Text

/-! ## Errors -/

namespace Sample

instance : Shown Text.NaturalFault where
  shown fault :=
    let kind := match fault with
      | .empty => "Empty"
      | .invalidDigit => "InvalidDigit"
      | .tooLarge => "PosOverflow"
    Text.fields "ParseIntError" [("kind", kind)]

/-- Errors of loading, with what other parts of a program report among them. -/
inductive LoadFault where
  | missing (key : String)
  | number (fault : Text.NaturalFault)
  /-- An error that is kept as its text alone. -/
  | loose (text : String)

instance : Shown LoadFault where
  shown
    | .missing key => Text.fields "Missing" [("key", Text.quoted key)]
    | .number fault => Text.applied "Parse" (shown fault)
    | .loose text => Text.applied "Loose" (Text.quoted text)

/-- The error of a text that could not be formatted. -/
def LoadFault.unformatted : LoadFault :=
  .loose "Error"

inductive LoadFrame where
  | load (path : String)
  | read (key : String)

instance : Shown LoadFrame where
  shown
    | .load path => Text.fields "OnLoad" [("path", Text.quoted path)]
    | .read key => Text.fields "OnRead" [("key", Text.quoted key)]

abbrev LoadError := Framed LoadFault LoadFrame

/-- Errors of one part of a program alone, of every form that an error can have. -/
inductive PlainFault where
  | empty
  | pair (n : Int) (text : String)
  | fields (a : String) (b : Option Nat)

instance : Shown PlainFault where
  shown
    | .empty => "Empty"
    | .pair n text => Text.applied "Pair" (toString n ++ ", " ++ Text.quoted text)
    | .fields a b =>
      Text.fields "Fields" [("a", Text.quoted a), ("b", Text.optional (b.map toString))]

inductive PlainFrame where
  | both (name : String) (index : Nat)
  | nothing

instance : Shown PlainFrame where
  shown
    | .both name index =>
      Text.fields "OnBoth" [("name", Text.quoted name), ("index", toString index)]
    | .nothing => "OnNothing"

abbrev PlainError := Framed PlainFault PlainFrame

end Sample

end TraceArchive
