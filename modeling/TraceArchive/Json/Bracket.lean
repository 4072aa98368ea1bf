import TraceArchive.Json.Lexeme
/-!
Arrays and objects between their brackets.  `foldItems` and `foldMembers` walk a bracket whose
opening byte is read, hand each item or name to a step, and give what was gathered together with
what stands behind the closing byte.  `skipValue` passes over a value by them and checks nothing but
its grammar.
-/

namespace TraceArchive

namespace Json

/-- What is said of a comma behind which nothing more comes. -/
structure DanglingComma where
  beforeListEnd : Cause
  beforeObjectEnd : Cause
  atObjectBreak : Cause

/-- While a value is built. -/
def DanglingComma.building : DanglingComma :=
  ⟨.trailingComma, .trailingComma, .endInValue⟩

/-- While a value is passed over. -/
def DanglingComma.skipping : DanglingComma :=
  ⟨.expectedValue, .nameNotString, .endInObject⟩

/-- What a bracket goes on with. -/
inductive Next where
  | closed (rest : Bytes)
  | more (rest : Bytes)

/-- Goes on in an array: to its end, or to the next item. -/
def nextItem (dangling : DanglingComma) (first : Bool) (s : Bytes) : Except Fault Next :=
  match skipBlanks s with
  | [] => faultAt .endInList []
  | b :: r =>
    if b = 0x5D then .ok (.closed r)
    else if first then .ok (.more (b :: r))
    else if b = 0x2C then
      match skipBlanks r with
      | [] => faultAt .endInValue []
      | c :: r₁ =>
        if c = 0x5D then faultPast dangling.beforeListEnd (c :: r₁) else .ok (.more (c :: r₁))
    else faultPast .expectedListCommaOrEnd (b :: r)

/-- Goes on in an object: to its end, or to the first byte of the next name. -/
def nextName (dangling : DanglingComma) (first : Bool) (s : Bytes) : Except Fault Next :=
  match skipBlanks s with
  | [] => faultAt .endInObject []
  | b :: r =>
    if b = 0x7D then .ok (.closed r)
    else if first then
      if b = 0x22 then .ok (.more r) else faultPast .nameNotString (b :: r)
    else if b = 0x2C then
      match skipBlanks r with
      | [] => faultAt dangling.atObjectBreak []
      | c :: r₁ =>
        if c = 0x22 then .ok (.more r₁)
        else if c = 0x7D then faultPast dangling.beforeObjectEnd (c :: r₁)
        else faultPast .nameNotString (c :: r₁)
    else faultPast .expectedObjectCommaOrEnd (b :: r)

/-- Reads the colon between a name and its value. -/
def colon (s : Bytes) : Except Fault Bytes :=
  match skipBlanks s with
  | [] => faultAt .endInObject []
  | b :: r => if b = 0x3A then .ok r else faultPast .expectedColon (b :: r)

/-- Walks the items of an array.  Every item takes a byte at least, so a fuel above the number of
bytes left is never used up. -/
def foldItems (dangling : DanglingComma) (step : σ → Bytes → Except Fault (σ × Bytes)) :
    Nat → Bool → σ → Bytes → Except Fault (σ × Bytes)
  | 0, _, _, s => faultAt .endInList s
  | fuel + 1, first, gathered, s => do
    match ← nextItem dangling first s with
    | .closed rest => .ok (gathered, rest)
    | .more rest =>
      let (gathered, rest) ← step gathered rest
      foldItems dangling step fuel false gathered rest

/-- Walks the members of an object: `name` reads a name whose opening quote is read, and `step`
takes it with what stands behind it. -/
def foldMembers (dangling : DanglingComma) (name : Bytes → Except Fault (κ × Bytes))
    (step : σ → κ → Bytes → Except Fault (σ × Bytes)) :
    Nat → Bool → σ → Bytes → Except Fault (σ × Bytes)
  | 0, _, _, s => faultAt .endInObject s
  | fuel + 1, first, gathered, s => do
    match ← nextName dangling first s with
    | .closed rest => .ok (gathered, rest)
    | .more rest =>
      let (key, rest) ← name rest
      let (gathered, rest) ← step gathered key rest
      foldMembers dangling name step fuel false gathered rest

/-- Passes over a value.  `depth` bounds the nesting; a bound of the number of bytes is never
reached. -/
def skipNested : Nat → Bytes → Except Fault Bytes
  | depth, s =>
    match skipBlanks s with
    | [] => faultAt .endInValue []
    | b :: r =>
      if b = 0x6E then word nullTail r
      else if b = 0x74 then word trueTail r
      else if b = 0x66 then word falseTail r
      else if b = 0x2D || isDigit b then skipNumber b r
      else if b = 0x22 then skipString r
      else if b = 0x5B then
        match depth with
        | 0 => faultPast .tooDeep (b :: r)
        | depth + 1 => do
          let ((), rest) ← foldItems .skipping
            (fun _ s => do return ((), ← skipNested depth s)) (r.length + 1) true () r
          return rest
      else if b = 0x7B then
        match depth with
        | 0 => faultPast .tooDeep (b :: r)
        | depth + 1 => do
          let ((), rest) ← foldMembers .skipping (fun s => do return ((), ← skipString s))
            (fun _ _ s => do return ((), ← skipNested depth (← colon s))) (r.length + 1) true () r
          return rest
      else faultPast .expectedValue (b :: r)

/-- Passes over a value of any depth, checking its grammar alone: names and strings need not be
text, numbers may be of any size. -/
def skipValue (s : Bytes) : Except Fault Bytes :=
  skipNested s.length s

/-- A value as it is written, from its first byte to its last. -/
def rawValue (s : Bytes) : Except Fault (String × Bytes) := do
  let start := skipBlanks s
  let rest ← skipValue start
  let text ← plainText (start.take (start.length - rest.length)) rest
  return (String.ofList text, rest)

end Json

end TraceArchive
