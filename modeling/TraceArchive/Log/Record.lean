/-!
Log records: a level, the part of the program that speaks, and a message.
-/

namespace TraceArchive

namespace Log

inductive Level where
  | error
  | warn
  | info
  | debug
  | trace
  deriving DecidableEq, Repr

namespace Level

def all : List Level :=
  [.error, .warn, .info, .debug, .trace]

def name : Level → String
  | .error => "ERROR"
  | .warn => "WARN"
  | .info => "INFO"
  | .debug => "DEBUG"
  | .trace => "TRACE"

/-- How much a level lets through: one that is higher lets through more. -/
def verbosity : Level → Nat
  | .error => 1
  | .warn => 2
  | .info => 3
  | .debug => 4
  | .trace => 5

end Level

structure Record where
  level : Level
  target : String
  message : String
  deriving DecidableEq, Repr

namespace Record

/-- A record on one line: level, target, message. -/
def text (r : Record) : String :=
  r.level.name ++ " " ++ r.target ++ " " ++ r.message

/-- A record as a log shows it behind a stamp, such as the time and a blank.  The level has five
places, and further lines of a message are set in by four spaces. -/
def stampedLines (stamp : String) (r : Record) : List String :=
  let level := r.level.name ++ "".pushn ' ' (5 - r.level.name.length)
  let head := "[" ++ stamp ++ level ++ " " ++ r.target ++ "] "
  match r.message.splitOn "\n" with
  | first :: rest => (head ++ first) :: rest.map ("    " ++ ·)
  | [] => [head]

/-- A record as a log shows it, without the time. -/
def lines (r : Record) : List String :=
  r.stampedLines ""

end Record

end Log

end TraceArchive
