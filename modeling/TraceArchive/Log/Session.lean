import TraceArchive.Log.Filter
/-!
A logging session: what a log has shown, and the filter once one is set up.  It is set up once; only
a session for tests may be set up again, which then changes nothing but repeats the reports.
-/

namespace TraceArchive

namespace Log

/-- The environment variable that names a filter, before any other choice. -/
def filterVariable : String :=
  "RUST_LOG"

/-- Something that a log shows, as its lines. -/
inductive Notice where
  /-- A report on the text of a filter. -/
  | report (lines : List String)
  | record (lines : List String)

def Notice.lines : Notice → List String
  | .report lines => lines
  | .record lines => lines

structure Session where
  filter : Option Filter := none
  notices : List Notice := []

namespace Session

/-- The text of the filter that is used: the environment's, even if it is empty, or a default. -/
def filterText (fromEnvironment : Option String) (default : String) : String :=
  fromEnvironment.getD default

/-- Shows the reports on the text of a filter. -/
def report (s : Session) (faults : List String) : Session :=
  let notices := faults.map fun fault => Notice.report ((Filter.warning fault).splitOn "\n")
  { s with notices := s.notices ++ notices }

/-- Sets up a session; none if that was done before. -/
def start? (s : Session) (spec : String) : Option Session :=
  if s.filter.isSome then none
  else
    let (filter, faults) := Filter.parse spec
    some { s.report faults with filter := some filter }

/-- Sets up a session for tests, unless that was done before. -/
def startForTests (s : Session) (spec : String) : Session :=
  let (filter, faults) := Filter.parse spec
  { s.report faults with filter := some (s.filter.getD filter) }

/-- Logs a record. -/
def note (s : Session) (r : Record) : Session :=
  if s.filter.any (·.admits r) then { s with notices := s.notices ++ [.record r.lines] } else s

/-- All lines shown. -/
def lines (s : Session) : List String :=
  s.notices.flatMap Notice.lines

/-- The first line of each record shown. -/
def recordHeads (s : Session) : List String :=
  s.notices.filterMap fun n =>
    match n with
    | .record lines => lines.head?
    | .report _ => none

end Session

end Log

end TraceArchive
