/-!
Patterns by which a log is searched: characters and classes of them, sequence, choice, repetition,
and the places between characters.  A pattern is matched by stepping through a text once; `step`
gives what a pattern still asks for behind a character.
-/

namespace TraceArchive

namespace Log

/-- A place between two characters of a text. -/
inductive Anchor where
  | start
  | finish
  /-- Between a word character and one that is none. -/
  | boundary
  | noBoundary
  deriving DecidableEq

inductive Pattern where
  | never
  | empty
  | char (accepts : Char → Bool)
  | anchor (a : Anchor)
  | seq (p q : Pattern)
  | alt (p q : Pattern)
  | star (p : Pattern)

namespace Pattern

def isWordChar (c : Char) : Bool :=
  c.isAlphanum || c = '_'

def Anchor.holds (before after : Option Char) : Anchor → Bool
  | .start => before.isNone
  | .finish => after.isNone
  | .boundary => before.any isWordChar != after.any isWordChar
  | .noBoundary => before.any isWordChar == after.any isWordChar

/-- Whether a pattern matches nothing at all at the place between two characters. -/
def matchesEmpty (before after : Option Char) : Pattern → Bool
  | never => false
  | empty => true
  | char _ => false
  | anchor a => Anchor.holds before after a
  | seq p q => p.matchesEmpty before after && q.matchesEmpty before after
  | alt p q => p.matchesEmpty before after || q.matchesEmpty before after
  | star _ => true

def seq' : Pattern → Pattern → Pattern
  | never, _ => never
  | _, never => never
  | empty, q => q
  | p, q => seq p q

def alt' : Pattern → Pattern → Pattern
  | never, q => q
  | p, never => p
  | p, q => alt p q

/-- What a pattern asks for behind the character `c`. -/
def step (before : Option Char) (c : Char) : Pattern → Pattern
  | never | empty | anchor _ => never
  | char accepts => if accepts c then empty else never
  | seq p q =>
    let first := seq' (p.step before c) q
    if p.matchesEmpty before (some c) then alt' first (q.step before c) else first
  | alt p q => alt' (p.step before c) (q.step before c)
  | star p => seq' (p.step before c) (star p)

/-- Whether a match of `p`, or the rest of one under way, is found in the rest of a text. -/
def foundFrom (p : Pattern) (underway : Pattern) (before : Option Char) : List Char → Bool
  | [] => (alt' underway p).matchesEmpty before none
  | c :: cs =>
    let now := alt' underway p
    now.matchesEmpty before (some c) || foundFrom p (now.step before c) (some c) cs

/-- Whether a text has a part that a pattern matches. -/
def foundIn (p : Pattern) (text : String) : Bool :=
  foundFrom p never none text.toList

/-- A pattern some number of times. -/
def times (p : Pattern) : Nat → Pattern
  | 0 => empty
  | n + 1 => seq p (p.times n)

/-- A pattern up to some number of times. -/
def upTo (p : Pattern) : Nat → Pattern
  | 0 => empty
  | n + 1 => alt empty (seq p (p.upTo n))

/-! ## Reading -/

/-- Why a text is no pattern, with the number of characters from the fault to the end. -/
structure Fault where
  message : String
  left : Nat

def isSpaceChar (c : Char) : Bool :=
  c = ' ' || c = '\t' || c = '\n' || c = '\r' || c = '\x0b' || c = '\x0c'

/-- The characters that a letter behind a backslash stands for. -/
def classOf? (c : Char) : Option (Char → Bool) :=
  if c = 'd' then some Char.isDigit
  else if c = 'D' then some fun x => !x.isDigit
  else if c = 'w' then some isWordChar
  else if c = 'W' then some fun x => !isWordChar x
  else if c = 's' then some isSpaceChar
  else if c = 'S' then some fun x => !isSpaceChar x
  else none

/-- The single character that a letter behind a backslash stands for. -/
def escapedChar? (c : Char) : Option Char :=
  if c = 'n' then some '\n'
  else if c = 't' then some '\t'
  else if c = 'r' then some '\r'
  else if c = 'f' then some '\x0c'
  else if c = 'v' then some '\x0b'
  else if c = 'a' then some '\x07'
  else if c.isAlphanum || !(0x20 < c.toNat && c.toNat < 0x7F) then none
  else some c

def equals (ignoreCase : Bool) (c : Char) : Char → Bool :=
  if ignoreCase then fun x => x.toLower == c.toLower else fun x => x == c

def between (ignoreCase : Bool) (low high : Char) : Char → Bool :=
  let inside (x : Char) : Bool := low ≤ x && x ≤ high
  if ignoreCase then fun x => inside x.toLower || inside x.toUpper else inside

/-- Reads the members of a class in brackets, of which `accepted` are read; `opened` is the number
of characters from the opening bracket to the end. -/
def classMembers (ignoreCase : Bool) (opened : Nat) :
    Nat → Bool → (Char → Bool) → List Char → Except Fault ((Char → Bool) × List Char)
  | 0, _, _, _ => .error ⟨"unclosed character class", opened⟩
  | fuel + 1, first, accepted, cs =>
    match cs with
    | [] => .error ⟨"unclosed character class", opened⟩
    | ']' :: rest =>
      if first then
        classMembers ignoreCase opened fuel false (fun x => accepted x || x == ']') rest
      else .ok (accepted, rest)
    | '\\' :: c :: rest =>
      match classOf? c, escapedChar? c with
      | some accepts, _ =>
        classMembers ignoreCase opened fuel false (fun x => accepted x || accepts x) rest
      | none, some d =>
        classMembers ignoreCase opened fuel false
          (fun x => accepted x || equals ignoreCase d x) rest
      | none, none => .error ⟨"unrecognized escape sequence", rest.length + 2⟩
    | low :: '-' :: high :: rest =>
      if high = ']' then
        classMembers ignoreCase opened fuel false
          (fun x => accepted x || equals ignoreCase low x) ('-' :: high :: rest)
      else if high < low then
        .error ⟨"invalid character class range, the start must be <= the end", rest.length + 3⟩
      else
        classMembers ignoreCase opened fuel false
          (fun x => accepted x || between ignoreCase low high x) rest
    | c :: rest =>
      classMembers ignoreCase opened fuel false
        (fun x => accepted x || equals ignoreCase c x) rest

/-- Reads the numbers of a counted repetition behind its opening brace. -/
def counts? (cs : List Char) : Option (Nat × Option Nat × List Char) :=
  let low := cs.takeWhile Char.isDigit
  if low.isEmpty then none
  else
    let n := Nat.ofDigitChars 10 low 0
    match cs.dropWhile Char.isDigit with
    | '}' :: rest => some (n, some n, rest)
    | ',' :: more =>
      let high := more.takeWhile Char.isDigit
      match more.dropWhile Char.isDigit with
      | '}' :: rest =>
        if high.isEmpty then some (n, none, rest)
        else some (n, some (Nat.ofDigitChars 10 high 0), rest)
      | _ => none
    | _ => none

/-- Applies the repetitions that stand behind a pattern. -/
def repeated : Nat → Pattern → List Char → Except Fault (Pattern × List Char)
  | 0, p, cs => .ok (p, cs)
  | fuel + 1, p, cs =>
    let lazily (rest : List Char) : List Char :=
      match rest with
      | '?' :: rest => rest
      | _ => rest
    match cs with
    | '*' :: rest => repeated fuel (star p) (lazily rest)
    | '+' :: rest => repeated fuel (seq p (star p)) (lazily rest)
    | '?' :: rest => repeated fuel (alt empty p) (lazily rest)
    | '{' :: rest =>
      match counts? rest with
      | some (low, none, rest) => repeated fuel (seq (p.times low) (star p)) (lazily rest)
      | some (low, some high, rest) =>
        if high < low then
          .error ⟨"invalid repetition count range, the start must be <= the end", cs.length⟩
        else repeated fuel (seq (p.times low) (p.upTo (high - low))) (lazily rest)
      | none => .error ⟨"repetition quantifier expects a valid decimal", rest.length⟩
    | _ => .ok (p, cs)

mutual

/-- Reads a choice up to a closing parenthesis or the end. -/
def choice (ignoreCase : Bool) : Nat → List Char → Except Fault (Pattern × List Char)
  | 0, cs => .ok (empty, cs)
  | fuel + 1, cs => do
    let (p, rest) ← sequence ignoreCase fuel cs
    match rest with
    | '|' :: rest =>
      let (q, rest) ← choice ignoreCase fuel rest
      return (alt p q, rest)
    | _ => return (p, rest)

/-- Reads a sequence up to a bar, a closing parenthesis or the end. -/
def sequence (ignoreCase : Bool) : Nat → List Char → Except Fault (Pattern × List Char)
  | 0, cs => .ok (empty, cs)
  | fuel + 1, cs =>
    match cs with
    | [] => .ok (empty, [])
    | c :: _ =>
      if c = '|' || c = ')' then .ok (empty, cs)
      else do
        let (p, rest) ← atom ignoreCase fuel cs
        let (p, rest) ← repeated (rest.length + 1) p rest
        let (q, rest) ← sequence ignoreCase fuel rest
        return (seq p q, rest)

/-- Reads one character, class, place or group. -/
def atom (ignoreCase : Bool) : Nat → List Char → Except Fault (Pattern × List Char)
  | 0, cs => .ok (empty, cs)
  | fuel + 1, cs =>
    match cs with
    | [] => .ok (empty, [])
    | '.' :: rest => .ok (char (· ≠ '\n'), rest)
    | '^' :: rest => .ok (anchor .start, rest)
    | '$' :: rest => .ok (anchor .finish, rest)
    | '(' :: rest => do
      let inner :=
        match rest with
        | '?' :: ':' :: rest => rest
        | _ => rest
      let (p, after) ← choice ignoreCase fuel inner
      match after with
      | ')' :: after => return (p, after)
      | _ => .error ⟨"unclosed group", cs.length⟩
    | '[' :: '^' :: rest => do
      let (accepts, rest) ← classMembers ignoreCase cs.length (rest.length + 1) true
        (fun _ => false) rest
      return (char fun x => !accepts x, rest)
    | '[' :: rest => do
      let (accepts, rest) ← classMembers ignoreCase cs.length (rest.length + 1) true
        (fun _ => false) rest
      return (char accepts, rest)
    | '\\' :: rest =>
      match rest with
      | [] => .error
          ⟨"incomplete escape sequence, reached end of pattern prematurely", cs.length⟩
      | 'b' :: rest => .ok (anchor .boundary, rest)
      | 'B' :: rest => .ok (anchor .noBoundary, rest)
      | 'A' :: rest => .ok (anchor .start, rest)
      | 'z' :: rest => .ok (anchor .finish, rest)
      | c :: rest =>
        match classOf? c, escapedChar? c with
        | some accepts, _ => .ok (char accepts, rest)
        | none, some d => .ok (char (· == d), rest)
        | none, none => .error ⟨"unrecognized escape sequence", cs.length⟩
    | c :: rest =>
      if c = '*' || c = '+' || c = '?' || c = '{' then
        .error ⟨"repetition operator missing expression", cs.length⟩
      else .ok (char (equals ignoreCase c), rest)

end

/-- Reads a pattern; `(?i)` in front lets letters match in either case. -/
def parse (text : String) : Except Fault Pattern := do
  let cs := text.toList
  let (ignoreCase, body) :=
    match cs with
    | '(' :: '?' :: 'i' :: ')' :: rest => (true, rest)
    | _ => (false, cs)
  let (p, rest) ← choice ignoreCase (3 * body.length + 3) body
  match rest with
  | [] => return p
  | _ => .error ⟨"unopened group", rest.length⟩

/-- What is said of a text that is no pattern. -/
def Fault.display (text : String) (f : Fault) : String :=
  "regex parse error:\n    " ++ text ++ "\n" ++ "".pushn ' ' (4 + (text.length - f.left)) ++ "^\n"
    ++ "error: " ++ f.message

end Pattern

end Log

end TraceArchive
