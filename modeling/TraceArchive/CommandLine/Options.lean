/-!
The words of a command line, the options they give, and what the command line says of itself.

Options and hashes may be mixed.  A value follows its option as the next word, behind `=`, or behind
the letter of a short option; a word that begins with a dash is no value of its own.  Behind `--`
every word is a hash.  `parse` takes the values of environment variables for options not given.
-/

namespace TraceArchive

namespace CommandLine

/-- What a command line asks for. -/
structure Options where
  config : Option String := none
  endpoint : Option String := none
  outputDir : Option String := none
  print : Bool := false
  verbose : Bool := false
  hashes : List String := []
  deriving DecidableEq, Repr

inductive UsageFault where
  | unknownArgument
  /-- An option is given twice. -/
  | argumentConflict
  /-- An option lacks its value, or has an empty one where it must not. -/
  | invalidValue
  /-- A flag is given a value. -/
  | tooManyValues
  /-- There is no hash. -/
  | missingArgument
  deriving DecidableEq, Repr

/-- Why a command line yields no options. -/
inductive Stop where
  | help
  | version
  | usage (fault : UsageFault)
  deriving DecidableEq, Repr

/-- The options that take a value. -/
inductive ValueOption where
  | config
  | endpoint
  | outputDir
  deriving DecidableEq, Repr

/-- The options that take none. -/
inductive Flag where
  | print
  | verbose
  | help
  | version
  deriving DecidableEq, Repr

inductive Key where
  | value (option : ValueOption)
  | flag (flag : Flag)
  deriving DecidableEq, Repr

def longKey? (name : String) : Option Key :=
  if name = "cfg" then some (.value .config)
  else if name = "endpoint" then some (.value .endpoint)
  else if name = "output-dir" then some (.value .outputDir)
  else if name = "print" then some (.flag .print)
  else if name = "verbose" then some (.flag .verbose)
  else if name = "help" then some (.flag .help)
  else if name = "version" then some (.flag .version)
  else none

def shortKey? (letter : Char) : Option Key :=
  if letter = 'c' then some (.value .config)
  else if letter = 'v' then some (.flag .verbose)
  else if letter = 'h' then some (.flag .help)
  else if letter = 'V' then some (.flag .version)
  else none

/-- The words read so far. -/
structure State where
  options : Options := {}
  /-- An option that is given as a word of its own, and its value if that word was read too.
  Whether the two are in order is settled when the next option or hash comes, or the end. -/
  pending : Option (ValueOption × Option String) := none
  /-- Whether `--` was read. -/
  onlyHashes : Bool := false

namespace Options

def value? (o : Options) : ValueOption → Option String
  | .config => o.config
  | .endpoint => o.endpoint
  | .outputDir => o.outputDir

def withValue (o : Options) (v : String) : ValueOption → Options
  | .config => { o with config := some v }
  | .endpoint => { o with endpoint := some v }
  | .outputDir => { o with outputDir := some v }

/-- Gives an option its value, for the first time; the directory must have a name. -/
def setValue (o : Options) (option : ValueOption) (v : String) : Except Stop Options :=
  if (o.value? option).isSome then .error (.usage .argumentConflict)
  else if option = .outputDir && v.isEmpty then .error (.usage .invalidValue)
  else .ok (o.withValue v option)

/-- Raises a flag, for the first time. -/
def raise (o : Options) : Flag → Except Stop Options
  | .print =>
    if o.print then .error (.usage .argumentConflict) else .ok { o with print := true }
  | .verbose =>
    if o.verbose then .error (.usage .argumentConflict) else .ok { o with verbose := true }
  | .help => .error .help
  | .version => .error .version

end Options

namespace State

/-- Settles a pending option. -/
def settle (s : State) : Except Stop State :=
  match s.pending with
  | none => .ok s
  | some (_, none) => .error (.usage .invalidValue)
  | some (option, some v) => do
    let options ← s.options.setValue option v
    return { s with options, pending := none }

/-- Takes an option with the value that is joined to it, if one is. -/
def takeValue (s : State) (option : ValueOption) (v : Option String) : Except Stop State := do
  let s ← s.settle
  match v with
  | some v => return { s with options := ← s.options.setValue option v }
  | none => return { s with pending := some (option, none) }

def takeFlag (s : State) (flag : Flag) : Except Stop State := do
  let s ← s.settle
  return { s with options := ← s.options.raise flag }

def takeHash (s : State) (hash : String) : Except Stop State := do
  let s ← s.settle
  return { s with options := { s.options with hashes := s.options.hashes ++ [hash] } }

/-- Takes an option in its long form, given without the dashes. -/
def takeLong (s : State) (word : List Char) : Except Stop State :=
  let name := word.takeWhile (· ≠ '=')
  let joined : Option String :=
    match word.dropWhile (· ≠ '=') with
    | _ :: v => some (String.ofList v)
    | [] => none
  match longKey? (String.ofList name) with
  | none => .error (.usage .unknownArgument)
  | some (.value option) => s.takeValue option joined
  | some (.flag flag) =>
    if joined.isSome then .error (.usage .tooManyValues) else s.takeFlag flag

/-- Takes the letters of a word with one dash. -/
def takeLetters (s : State) : List Char → Except Stop State
  | [] => .ok s
  | letter :: rest =>
    match shortKey? letter with
    | none => .error (.usage .unknownArgument)
    | some (.flag flag) => do takeLetters (← s.takeFlag flag) rest
    | some (.value option) =>
      match rest with
      | [] => s.takeValue option none
      | '=' :: v => s.takeValue option (some (String.ofList v))
      | v => s.takeValue option (some (String.ofList v))

/-- Takes a word that is no option: the value of a pending one, or a hash. -/
def takePlain (s : State) (word : String) : Except Stop State :=
  match s.pending with
  | some (option, none) => .ok { s with pending := some (option, some word) }
  | _ => s.takeHash word

def takeWord (s : State) (word : String) : Except Stop State :=
  if s.onlyHashes then s.takeHash word
  else match word.toList with
    | ['-', '-'] => .ok { s with onlyHashes := true }
    | '-' :: '-' :: rest => s.takeLong rest
    | '-' :: letter :: rest => s.takeLetters (letter :: rest)
    | _ => s.takePlain word

def takeWords (s : State) : List String → Except Stop State
  | [] => .ok s
  | word :: words => do takeWords (← s.takeWord word) words

end State

/-- Values of environment variables. -/
abbrev Environment := List (String × String)

/-- The value of a variable, the last one given to it. -/
def Environment.get? (env : Environment) (name : String) : Option String :=
  (env.reverse : List (String × String)).lookup name

def endpointVariable : String :=
  "TRACE_TX_ENDPOINT"

def outputDirVariable : String :=
  "TRACE_TX_OUTPUT_DIR"

namespace Options

/-- Takes a variable's value for an option that is not given. -/
def fillFrom (o : Options) (option : ValueOption) (v : Option String) : Except Stop Options :=
  match o.value? option, v with
  | none, some v => o.setValue option v
  | _, _ => .ok o

end Options

/-- The options of a command line.  There must be a hash. -/
def parse (env : Environment) (words : List String) : Except Stop Options := do
  let s ← State.takeWords {} words
  let s ← s.settle
  let options ← s.options.fillFrom .endpoint (env.get? endpointVariable)
  let options ← options.fillFrom .outputDir (env.get? outputDirVariable)
  if options.hashes.isEmpty then .error (.usage .missingArgument) else .ok options

/-! ## What the command line says of itself -/

def programName : String :=
  "trace-tx"

def versionText : String :=
  programName ++ " 0.1.0\n"

/-- A variable and its present value. -/
def variableText (env : Environment) (name : String) : String :=
  " [env: " ++ name ++ "=" ++ (env.get? name).getD "" ++ "]"

def helpText (env : Environment) : String :=
  "\n".intercalate
    ["Fetch a transaction's traces and its block timestamp",
      "",
      "Usage: " ++ programName ++ " [OPTIONS] <TX>...",
      "",
      "Arguments:",
      "  <TX>...  ",
      "",
      "Options:",
      "  -c, --cfg <CFG>                JSON config file, see `Config`",
      "      --endpoint <ENDPOINT>      JSON-RPC endpoint of a node serving `trace_transaction`"
        ++ variableText env endpointVariable,
      "      --output-dir <OUTPUT_DIR>  Where `<tx>_trace.json` files are written"
        ++ variableText env outputDirVariable,
      "      --print                    Also print each result to stdout",
      "  -v, --verbose                  ",
      "  -h, --help                     Print help",
      "  -V, --version                  Print version",
      ""]

end CommandLine

end TraceArchive
