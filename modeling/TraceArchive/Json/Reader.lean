import TraceArchive.Json.Bracket
/-!
Reading values of a wanted kind from the front of a text: any value, a string, an integer, an array
of values.  `document` reads a whole text, and `Value.parse` a text that holds one value.

Values nest at most `maxDepth` deep.  Of a repeated name the last value is kept at the first place.
An object whose first name is `embeddedName` stands for the value written in its one string.
-/

namespace TraceArchive

namespace Json

/-- The number of brackets that may be open at once. -/
def maxDepth : Nat := 127

/-- The name under which an object carries a value as text. -/
def embeddedName : String := "$serde_json::private::RawValue"

/-- Reads a whole text: one value as `read` reads it, with nothing but blanks around it. -/
def document (read : Bytes → Except Fault (α × Bytes)) (text : Bytes) : Except Error α :=
  match read text with
  | .error f => .error (f.locate text)
  | .ok (v, rest) =>
    match skipBlanks rest with
    | [] => .ok v
    | left => .error (Fault.locate text ⟨.trailingCharacters, .unread (left.length - 1)⟩)

/-- What stands in front, and what is left behind it.  Brackets are not entered. -/
def met (s : Bytes) : Except Fault (Found × Bytes) :=
  match s with
  | [] => faultAt .endInValue []
  | b :: r =>
    if b = 0x6E then do return (.null, ← word nullTail r)
    else if b = 0x74 then do return (.bool true, ← word trueTail r)
    else if b = 0x66 then do return (.bool false, ← word falseTail r)
    else if b = 0x2D || isDigit b then do
      let (n, rest) ← number b r
      return (.number n, rest)
    else if b = 0x22 then do
      let (text, rest) ← string r
      return (.string text, rest)
    else if b = 0x5B then .ok (.sequence, s)
    else if b = 0x7B then .ok (.map, s)
    else faultPast .expectedValue s

/-- Refuses what stands in front for not being of the expected kind. -/
def mismatch (expected : String) (s : Bytes) : Except Fault α := do
  let (found, rest) ← met s
  faultAt (.invalidType found expected) rest

/-- Reads a string, which `expected` names. -/
def stringOf (expected : String) (s : Bytes) : Except Fault (String × Bytes) :=
  match skipBlanks s with
  | [] => faultAt .endInValue []
  | b :: r => if b = 0x22 then string r else mismatch expected (b :: r)

/-- Reads an integer within the given bounds, which `expected` names. -/
def integerOf (expected : String) (low high : Int) (s : Bytes) : Except Fault (Int × Bytes) :=
  match skipBlanks s with
  | [] => faultAt .endInValue []
  | b :: r =>
    if b = 0x2D || isDigit b then do
      let (n, rest) ← number b r
      match n with
      | .integer i _ =>
        if low ≤ i ∧ i ≤ high then .ok (i, rest)
        else faultAt (.invalidValue (.number n) expected) rest
      | .double _ => faultAt (.invalidType (.number n) expected) rest
    else mismatch expected (b :: r)

/-- Reads the closing brace of an object that is to have no further member. -/
def closeObject (s : Bytes) : Except Fault Bytes :=
  match skipBlanks s with
  | [] => faultAt .endInObject []
  | b :: r =>
    if b = 0x7D then .ok r
    else if b = 0x2C then faultPast .trailingComma (b :: r)
    else faultPast .trailingCharacters (b :: r)

/-- Reads the closing bracket of an array that is to have no further item. -/
def closeArray (s : Bytes) : Except Fault Bytes :=
  match skipBlanks s with
  | [] => faultAt .endInList []
  | b :: r =>
    if b = 0x5D then .ok r
    else if b = 0x2C then
      match skipBlanks r with
      | [] => faultAt .trailingCharacters []
      | c :: r₁ =>
        faultPast (if c = 0x5D then .trailingComma else .trailingCharacters) (c :: r₁)
    else faultPast .trailingCharacters (b :: r)

/-- How a reader treats objects. -/
inductive ObjectPolicy where
  /-- Members are kept as they are written, repeated names included. -/
  | verbatim
  /-- A repeated name is one member, and `embeddedName` marks a value written as text, which the
  given function reads. -/
  | settled (embedded : Bytes → Except Error Value)

/-- Reads a value, entering at most `depth` brackets. -/
def value (policy : ObjectPolicy) : Nat → Bytes → Except Fault (Value × Bytes)
  | depth, s =>
    match skipBlanks s with
    | [] => faultAt .endInValue []
    | b :: r =>
      if b = 0x6E then do return (.null, ← word nullTail r)
      else if b = 0x74 then do return (.bool true, ← word trueTail r)
      else if b = 0x66 then do return (.bool false, ← word falseTail r)
      else if b = 0x2D || isDigit b then do
        let (n, rest) ← number b r
        return (.number n, rest)
      else if b = 0x22 then do
        let (text, rest) ← string r
        return (.string text, rest)
      else if b = 0x5B then
        match depth with
        | 0 => faultPast .tooDeep (b :: r)
        | depth + 1 => do
          let (items, rest) ← foldItems .building
            (fun items s => do
              let (v, rest) ← value policy depth s
              return (v :: items, rest)) (r.length + 1) true [] r
          return (.array items.reverse, rest)
      else if b = 0x7B then
        match depth with
        | 0 => faultPast .tooDeep (b :: r)
        | depth + 1 =>
          match policy with
          | .verbatim => do
            let (members, rest) ← foldMembers .building string
              (fun members name s => do
                let (v, rest) ← value policy depth (← colon s)
                return ((name, v) :: members, rest)) (r.length + 1) true [] r
            return (.object members.reverse, rest)
          | .settled embedded => do
            match ← nextName .building true r with
            | .closed rest => return (.object [], rest)
            | .more rest =>
              let (first, rest) ← string rest
              if first = embeddedName then
                let (text, rest) ← stringOf "raw value" (← colon rest)
                match embedded (Utf8.ofString text) with
                | .error e => .error ⟨e.cause, .known e.line e.column⟩
                | .ok v => return (v, ← closeObject rest)
              else
                let (v, rest) ← value policy depth (← colon rest)
                let (members, rest) ← foldMembers .building string
                  (fun members name s => do
                    let (v, rest) ← value policy depth (← colon s)
                    return (setMember members name v, rest)) (r.length + 1) false [(first, v)] rest
                return (.object members, rest)
      else faultPast .expectedValue (b :: r)

namespace Value

/-- Reads a text of one value; `levels` bounds how often a value is carried as text within the text
of another. -/
def parseWithin : Nat → Bytes → Except Error Value
  | 0, _ => .error ⟨.tooDeep, 0, 0⟩
  | levels + 1, text => document (value (.settled (parseWithin levels)) maxDepth) text

/-- Reads a text of one value.  A text carried within another is shorter than it, so the bound on
the levels is never reached. -/
def parse (text : Bytes) : Except Error Value :=
  parseWithin (text.length + 1) text

end Value

/-- How objects are read where nothing else is said. -/
def ObjectPolicy.usual : ObjectPolicy :=
  .settled Value.parse

/-- Reads an array of values. -/
def arrayOf (expected : String) (depth : Nat) (s : Bytes) :
    Except Fault (List Value × Bytes) :=
  match skipBlanks s with
  | [] => faultAt .endInValue []
  | b :: r =>
    if b = 0x5B then
      match depth with
      | 0 => faultPast .tooDeep (b :: r)
      | depth + 1 => do
        let (items, rest) ← foldItems .building
          (fun items s => do
            let (v, rest) ← value .usual depth s
            return (v :: items, rest)) (r.length + 1) true [] r
        return (items.reverse, rest)
    else mismatch expected (b :: r)

namespace Value

mutual

/-- A value read verbatim, as the usual policy would have read it: repeated names become one member,
and a value carried as text takes the place of its object. -/
def settle : Value → Option Value
  | .null => some .null
  | .bool b => some (.bool b)
  | .number n => some (.number n)
  | .string s => some (.string s)
  | .array xs => (settleItems xs).map .array
  | .object [] => some (.object [])
  | .object ((name, v) :: ms) =>
    if name = embeddedName then
      match v, ms with
      | .string text, [] => (parse (Utf8.ofString text)).toOption
      | _, _ => none
    else do
      let v ← v.settle
      let members ← settleMembers [(name, v)] ms
      return .object members

def settleItems : List Value → Option (List Value)
  | [] => some []
  | x :: xs => do
    let x ← x.settle
    let xs ← settleItems xs
    return x :: xs

def settleMembers (settled : List (String × Value)) :
    List (String × Value) → Option (List (String × Value))
  | [] => some settled
  | (name, v) :: ms => do
    let v ← v.settle
    settleMembers (setMember settled name v) ms

end

end Value

end Json

end TraceArchive
