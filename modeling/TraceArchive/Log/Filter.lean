import TraceArchive.Log.Pattern
import TraceArchive.Log.Record
/-!
Log filters.  The text of a filter is a list of directives between commas, each a level, a target,
or `target=level`, and at the end perhaps a slash and a pattern for messages.  Of the directives
whose target begins a record's target the longest decides.
-/

namespace TraceArchive

namespace Log

/-- What a directive lets through: the records up to a level, or none. -/
inductive Threshold where
  | off
  | upTo (level : Level)
  deriving DecidableEq, Repr

def Threshold.admits : Threshold → Level → Bool
  | .off, _ => false
  | .upTo t, level => level.verbosity ≤ t.verbosity

/-- The threshold of a name, in either case. -/
def Threshold.ofName? (name : String) : Option Threshold :=
  let upper := String.ofList (name.toList.map Char.toUpper)
  if upper = "OFF" then some .off
  else (Level.all.find? (·.name = upper)).map .upTo

structure Directive where
  /-- How the targets begin that the directive is for; all targets where there is none. -/
  target : Option String
  threshold : Threshold
  deriving DecidableEq, Repr

structure Filter where
  directives : List Directive
  pattern : Option Pattern

namespace Filter

def isTrimmed (c : Char) : Bool :=
  let n := c.toNat
  (0x09 ≤ n && n ≤ 0x0D) || n = 0x20 || n = 0x85 || n = 0xA0 || n = 0x1680
    || (0x2000 ≤ n && n ≤ 0x200A) || n = 0x2028 || n = 0x2029 || n = 0x202F || n = 0x205F
    || n = 0x3000

/-- A text without the blanks around it. -/
def trim (s : String) : String :=
  String.ofList (((s.toList.dropWhile isTrimmed).reverse.dropWhile isTrimmed).reverse)

/-- What is said of a part that is no directive. -/
def specMessage (part : String) : String :=
  "invalid logging spec '" ++ part ++ "'"

/-- Reads one part between commas, without the blanks around it. -/
def directive (part : String) : Except String Directive :=
  match part.splitOn "=" with
  | [name] =>
    match Threshold.ofName? name with
    | some threshold => .ok ⟨none, threshold⟩
    | none => .ok ⟨some name, .upTo .trace⟩
  | [name, level] =>
    let level := trim level
    if level.isEmpty then .ok ⟨some name, .upTo .trace⟩
    else match Threshold.ofName? level with
      | some threshold => .ok ⟨some name, threshold⟩
      | none => .error (specMessage level)
  | _ => .error (specMessage part)

/-- Adds a directive; one with the same target gives way to it. -/
def addDirective (d : Directive) : List Directive → List Directive
  | [] => [d]
  | e :: es => if e.target = d.target then d :: es else e :: addDirective d es

/-- Reads the parts between commas, giving what is wrong with those that are no directives. -/
def readDirectives (spec : String) : List Directive × List String :=
  let parts := ((spec.splitOn ",").map trim).filter (!·.isEmpty)
  parts.foldl
    (fun (found, faults) part =>
      match directive part with
      | .ok d => (addDirective d found, faults)
      | .error fault => (found, faults ++ [fault]))
    ([], [])

/-- A filter without directives lets errors through only. -/
def ofDirectives (ds : List Directive) (pattern : Option Pattern) : Filter :=
  ⟨if ds.isEmpty then [⟨none, .upTo .error⟩] else ds, pattern⟩

/-- Reads the text of a filter, giving what is wrong with it as well. -/
def parse (spec : String) : Filter × List String :=
  match spec.splitOn "/" with
  | [levels] =>
    let (ds, faults) := readDirectives levels
    (ofDirectives ds none, faults)
  | [levels, search] =>
    let (ds, faults) := readDirectives levels
    match Pattern.parse search with
    | .ok p => (ofDirectives ds (some p), faults)
    | .error f =>
      (ofDirectives ds none, faults ++ ["invalid regex filter - " ++ f.display search])
  | _ => (ofDirectives [] none, [specMessage spec ++ " (too many '/'s)"])

/-- How a fault of a filter's text is reported. -/
def warning (fault : String) : String :=
  "warning: " ++ fault ++ ", ignoring it"

/-- The length of the target that a directive names. -/
def rank (d : Directive) : Nat :=
  (d.target.map String.utf8ByteSize).getD 0

/-- The directive that decides on a target: of those that apply the longest, and of two equally long
the later one. -/
def deciding? (f : Filter) (target : String) : Option Directive :=
  (f.directives.filter fun d => d.target.all fun t => t.toList.isPrefixOf target.toList).foldl
    (fun best d =>
      match best with
      | none => some d
      | some b => if rank b ≤ rank d then some d else some b)
    none

/-- Whether a record is let through. -/
def admits (f : Filter) (r : Record) : Bool :=
  (f.deciding? r.target).any (·.threshold.admits r.level) && f.pattern.all (·.foundIn r.message)

end Filter

end Log

end TraceArchive
