import TraceArchive.CommandLine.Options
import TraceArchive.Fetch.Fetcher
import TraceArchive.Log.Session
/-!
A run of the whole program.  `plan` says what a command line comes to.  Where that is to fetch,
`run` puts settings together from options, a file and defaults, and fetches every hash; `exitCode`
is what the program ends with.
-/

namespace TraceArchive

namespace Program

open CommandLine (Environment Options UsageFault)

variable {m : Type → Type} [Surroundings m]

/-- The part of the program that records of a run come from. -/
def target : String := "trace_tx"

/-- Puts the values of options, which stand above those of a file, in place. -/
def overridden (o : Options) (s : Settings) : Settings :=
  s.withOverrides o.endpoint (o.outputDir.map Path.mk)

/-- What is said of a file that holds no settings. -/
def loadMessage (file : String) (fault : Settings.Fault) : String :=
  "load config " ++ file ++ ": " ++ fault.display

/-- The settings of a run, or what is wrong with the file they are in. -/
def settings (o : Options) : m (Except String Settings) := do
  match o.config with
  | none => return .ok (overridden o .standard)
  | some file =>
    match Settings.ofContent (← Surroundings.readFile ⟨file⟩) with
    | .ok s => return .ok (overridden o s)
    | .error fault => return .error (loadMessage file fault)

/-- Runs; says whether every hash was found and written. -/
def run (o : Options) : m Bool := do
  match ← settings o with
  | .error message =>
    Surroundings.error target message
    return false
  | .ok s =>
    match Fetcher.ofSettings s with
    | .error e =>
      Surroundings.error target ("invalid endpoint " ++ s.endpoint ++ ": " ++ e.message)
      return false
    | .ok fetcher => fetcher.fetchAll o.print o.hashes

/-- The log filter of a run where the environment names none. -/
def defaultFilter (o : Options) : String :=
  if o.verbose then "debug" else "info"

/-- What a command line comes to. -/
inductive Plan where
  /-- A text is printed, and that is all. -/
  | say (text : String)
  | refuse (fault : UsageFault)
  /-- Hashes are fetched, with a log filter. -/
  | fetch (options : Options) (filter : String)

def plan (env : Environment) (words : List String) : Plan :=
  match CommandLine.parse env words with
  | .ok o => .fetch o (Log.Session.filterText (env.get? Log.filterVariable) (defaultFilter o))
  | .error .help => .say (CommandLine.helpText env)
  | .error .version => .say CommandLine.versionText
  | .error (.usage fault) => .refuse fault

/-- The exit code where a text is said. -/
def saidCode : Nat := 0

/-- The exit code of a command line that is refused. -/
def refusedCode : Nat := 2

/-- The exit code of a run: whether all went well, or that it ended before its time. -/
def exitCode : Except String Bool → Nat
  | .ok true => 0
  | .ok false => 1
  | .error _ => 101

end Program

end TraceArchive
