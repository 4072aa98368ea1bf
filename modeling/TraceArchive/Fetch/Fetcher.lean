import TraceArchive.Calendar.Instant
import TraceArchive.Fetch.Reading
import TraceArchive.Outcome
import TraceArchive.Settings
/-!
Fetching: the traces of a transaction and the time of its block are asked of a node, put together
and written to a file.  `fetch` does so for one hash, `fetchAll` for several in turn.

The second request needs the block number that the first reply gives, so the two are in order.
-/

namespace TraceArchive

open Json (Value)

/-- Fetches by a client and writes below a directory. -/
structure Fetcher where
  client : Client
  outputDir : Path

namespace Fetcher

open Fetch (Fault Error Frame)

/-- A fetcher with the given settings, whose endpoint must be a URL. -/
def ofSettings (s : Settings) : Except Error Fetcher :=
  match Client.dial s.endpoint with
  | .ok client => .ok ⟨client, s.outputDir⟩
  | .error e => .error (.plain (.client e))

/-- The end of the name of each file that is written. -/
def fileSuffix : String :=
  "_trace.json"

/-- The file for a hash. -/
def outputPath (f : Fetcher) (hash : String) : Path :=
  f.outputDir.join ⟨hash ++ fileSuffix⟩

/-- What is written for an entry. -/
def fileContent (e : Entry) : Bytes :=
  Utf8.encode e.toValue.pretty

/-- What is printed for an outcome: its text and a line break. -/
def printedContent (o : Outcome) : Bytes :=
  Utf8.encode (o.toValue.pretty ++ ['\n'])

variable {m : Type → Type} [Surroundings m]

/-- The part of the program that records of fetching come from. -/
def target : String := "tx_tracer::fetcher"

/-- A record's beginning, which names the hash it is about. -/
def about (hash message : String) : String :=
  "[" ++ hash ++ "] " ++ message

/-- Writes an entry to its file, in place of whatever the file held; gives the path. -/
def write (f : Fetcher) (e : Entry) : m (Except Error Path) := do
  let path := f.outputPath e.hash
  match ← Surroundings.createDirs f.outputDir with
  | .error fault => return .error (Framed.push (.writeOutput path) (.plain (.disk fault)))
  | .ok () =>
    match ← Surroundings.writeFile path (fileContent e) with
    | .error fault => return .error (Framed.push (.writeOutput path) (.plain (.disk fault)))
    | .ok () => return .ok path

/-- What the log says of an entry that was written. -/
def writtenText (e : Entry) (path : Path) : String :=
  "block " ++ e.blockNumber ++ " at " ++ toString e.timestamp.toNat ++ " ("
    ++ (Instant.ofSeconds e.timestamp).display ++ "), " ++ toString e.traces.length
    ++ " traces -> " ++ path.text

/-- Writes an entry and logs it. -/
def record (f : Fetcher) (e : Entry) : m (Except Error Outcome) := do
  match ← f.write e with
  | .error e => return .error e
  | .ok path =>
    Surroundings.info target (about e.hash (writtenText e path))
    return .ok (.found e)

/-- Goes on from traces that were found: asks for their block and records the entry. -/
def complete (f : Fetcher) (hash : String) (traces : List Value) : m (Except Error Outcome) := do
  match blockNumberOf traces with
  | .error fault => return .error (.plain fault)
  | .ok number =>
    match ← f.client.blockByNumber number false with
    | .error e => return .error (.plain (.client e))
    | .ok none => return .error (.plain (.blockNotFound number))
    | .ok (some block) =>
      match timestampOf block number with
      | .error fault => return .error (.plain fault)
      | .ok timestamp => f.record ⟨hash, number, timestamp, traces⟩

/-- Fetches the traces of one transaction.  Where the node has none, or answers with an error
object, the transaction is not found; nothing is asked or written further then. -/
def fetch (f : Fetcher) (hash : String) : m (Except Error Outcome) := do
  match ← f.client.traceTransaction hash with
  | .ok none | .ok (some []) =>
    Surroundings.warn target (about hash "no traces returned")
    return .ok (.notFound .standard)
  | .ok (some traces) => f.complete hash traces
  | .error e =>
    if Client.isRefusal e then
      Surroundings.warn target (about hash ("node rejected trace_transaction: " ++ e.message))
      return .ok (.notFound .standard)
    else return .error (.plain (.client e))

/-- The end of the fetch of one of several: its outcome is printed if it is to be.  Says whether an
entry was found, and printed if it was to be. -/
def finish (print : Bool) (hash : String) (outcome : Outcome) (found : Bool) : m Bool := do
  if print then
    match ← Surroundings.print (printedContent outcome) with
    | .ok () => return found
    | .error fault =>
      Surroundings.error target (about hash ("print failed: " ++ fault.words))
      return false
  else return found

/-- What is done with the result of the fetch of one of several: errors and absences are logged. -/
def settle (print : Bool) (hash : String) : Except Error Outcome → m Bool
  | .error e => do
    Surroundings.error target (about hash ("fetch failed: " ++ e.message))
    return false
  | .ok (.found e) => finish print hash (.found e) true
  | .ok (.notFound absence) => do
    Surroundings.warn target (about hash absence.error)
    finish print hash (.notFound absence) false

/-- Fetches one transaction of several. -/
def fetchEach (f : Fetcher) (print : Bool) (hash : String) : m Bool := do
  let result ← f.fetch hash
  settle print hash result

/-- Fetches transactions in turn, going on after a failure; says whether all went well. -/
def fetchAll (f : Fetcher) (print : Bool) : List String → m Bool
  | [] => pure true
  | hash :: hashes => do
    let one ← f.fetchEach print hash
    let others ← fetchAll f print hashes
    return one && others

end Fetcher

end TraceArchive
