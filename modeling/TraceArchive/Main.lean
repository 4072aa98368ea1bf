import Std.Async.DNS
import Std.Async.TCP
import Std.Time
import TraceArchive.Http.Message
import TraceArchive.Program
/-!
The program itself: a run in the surroundings of a process, with its files, its clock, its streams
and connections to nodes.  What it does is decided in `Program`.
-/

namespace TraceArchive

namespace Live

/-- What a run has at hand: the filter of its log and the number of requests it made. -/
structure Context where
  filter : Log.Filter
  sent : IO.Ref Nat

/-- A run in a process, which may end before its time with a reason. -/
abbrev Run := ReaderT Context (ExceptT String IO)

/-! ## Files -/

/-- A number of a system error, which comes with either sign. -/
def unsigned (code : UInt32) : Nat :=
  if code < 0x80000000 then code.toNat else UInt32.size - code.toNat

/-- The number that the system gave an error. -/
def errorCode : IO.Error → Nat
  | .alreadyExists _ code _ | .otherError code _ | .resourceBusy code _ | .resourceVanished code _
  | .unsupportedOperation code _ | .hardwareFault code _ | .unsatisfiedConstraints code _
  | .illegalOperation code _ | .protocolError code _ | .timeExpired code _ | .interrupted _ code _
  | .noFileOrDirectory _ code _ | .invalidArgument _ code _ | .permissionDenied _ code _
  | .resourceExhausted _ code _ | .inappropriateType _ code _ | .noSuchThing _ code _ =>
    unsigned code
  | .unexpectedEof | .userError _ => 0

/-- An operation on the disk, with its fault as a value. -/
def onDisk (path : Path) (operation : IO α) : IO (Except Disk.Fault α) := do
  if path.text.toList.contains '\x00' then return .error .zeroByteInName
  try return .ok (← operation)
  catch e => return .error (.system (errorCode e))

def ofByteArray (bytes : ByteArray) : Bytes :=
  bytes.toList

def toByteArray (bytes : Bytes) : ByteArray :=
  ⟨bytes.toArray⟩

/-! ## Connections -/

/-- The addresses of a host. -/
def addressesOf : Host → IO (List Std.Net.IPAddr)
  | .ipv4 address =>
    match Host.octets address with
    | [a, b, c, d] => return [.v4 (.ofParts a.toUInt8 b.toUInt8 c.toUInt8 d.toUInt8)]
    | _ => return []
  | .ipv6 pieces =>
    match pieces.map Nat.toUInt16 with
    | [a, b, c, d, e, f, g, h] => return [.v6 (.ofParts a b c d e f g h)]
    | _ => return []
  | host => do
    let found ← (Std.Async.DNS.getAddrInfo (String.ofList host.text) "").block
    return found.toList

def socketAddress (port : UInt16) : Std.Net.IPAddr → Std.Net.SocketAddress
  | .v4 address => .v4 ⟨address, port⟩
  | .v6 address => .v6 ⟨address, port⟩

/-- A connection to the first of some addresses that takes one. -/
def connect? (port : UInt16) :
    List Std.Net.IPAddr → IO (Option Std.Async.TCP.Socket.Client)
  | [] => return none
  | address :: others => do
    try
      let socket ← Std.Async.TCP.Socket.Client.mk
      (socket.connect (socketAddress port address)).block
      return some socket
    catch _ => connect? port others

/-- How many bytes are taken from a connection at once. -/
def blockSize : UInt64 := 65536

/-- All bytes that come over a connection until it is closed. -/
partial def receiveAll (socket : Std.Async.TCP.Socket.Client) (sofar : ByteArray) :
    IO ByteArray := do
  match ← (socket.recv? blockSize).block with
  | some block => receiveAll socket (sofar ++ block)
  | none => return sofar

/-- Sends a request over a new connection and takes the reply. -/
def exchange (socket : Std.Async.TCP.Socket.Client) (request : Bytes) : IO Delivery := do
  try
    (socket.send (toByteArray request)).block
    match Http.Reply.ofBytes? (ofByteArray (← receiveAll socket .empty)) with
    | some reply => return .reply reply.status reply.body
    | none => return .dropped
  catch _ => return .dropped

/-- Posts a request to an endpoint.  Only plain connections are made. -/
def deliver (endpoint : String) (request : Rpc.Request) : IO Delivery := do
  match Url.parse endpoint with
  | .ok url =>
    match url.scheme, url.host with
    | "http", some host =>
      let port := (url.port.getD Http.defaultPort).toUInt16
      try
        match ← connect? port (← addressesOf host) with
        | some socket => exchange socket (Http.post url request.body)
        | none => return .refused
      catch _ => return .refused
    | _, _ => return .refused
  | .error _ => return .refused

/-! ## The log -/

/-- The time as the log shows it: a date, a `T`, a time of day and a `Z`. -/
def stampOf (now : Instant) : String :=
  String.ofList (now.text.map fun c => if c = ' ' then 'T' else c) ++ "Z "

def note (filter : Log.Filter) (record : Log.Record) : IO Unit := do
  if filter.admits record then
    let now ← Std.Time.Timestamp.now
    let nanos := now.toNanosecondsSinceUnixEpoch.val.toNat
    let instant :=
      Instant.ofDuration ⟨(nanos / nanosPerSecond).toUInt64, nanos % nanosPerSecond⟩
    for line in record.stampedLines (stampOf instant) do IO.eprintln line

/-! ## The run -/

instance : Surroundings Run where
  nextId := do (← read).sent.modifyGet fun n => (n, n + 1)
  send endpoint request := deliver endpoint request
  note record := do Live.note (← read).filter record
  readFile path := onDisk path do return ofByteArray (← IO.FS.readBinFile path.text)
  createDirs path := onDisk path (IO.FS.createDirAll path.text)
  writeFile path content := onDisk path (IO.FS.writeBinFile path.text (toByteArray content))
  print text := do
    let stdout ← IO.getStdout
    try
      stdout.write (toByteArray text)
      stdout.flush
      return .ok ()
    catch e => return .error (.system (.system (errorCode e)))
  abort reason := throw reason

/-- The variables that the program reads, as far as they are set. -/
def environment : IO CommandLine.Environment := do
  let names := [CommandLine.endpointVariable, CommandLine.outputDirVariable, Log.filterVariable]
  names.filterMapM fun name => return (← IO.getEnv name).map fun value => (name, value)

/-- What is said of a command line that cannot be used. -/
def usageText : CommandLine.UsageFault → String
  | .unknownArgument => "error: unexpected argument found"
  | .argumentConflict => "error: an argument cannot be used multiple times"
  | .invalidValue => "error: a value is required for an argument"
  | .tooManyValues => "error: unexpected value for an argument"
  | .missingArgument => "error: the following required arguments were not provided: <TX>..."

/-- Fetches as the options say; gives the exit code. -/
def fetch (options : CommandLine.Options) (spec : String) : IO Nat := do
  let (filter, faults) := Log.Filter.parse spec
  for fault in faults do IO.eprintln (Log.Filter.warning fault)
  let context : Context := ⟨filter, ← IO.mkRef 0⟩
  let ended ← ExceptT.run ((Program.run (m := Run) options).run context)
  if let .error reason := ended then IO.eprintln reason
  return Program.exitCode ended

/-- Does what a command line comes to; gives the exit code. -/
def follow : Program.Plan → IO Nat
  | .say text => do
    IO.print text
    return Program.saidCode
  | .refuse fault => do
    IO.eprintln (usageText fault)
    return Program.refusedCode
  | .fetch options filter => fetch options filter

end Live

end TraceArchive

open TraceArchive in
/-- The exit code is 0 where every fetch went well, 1 where one did not, and 2 where the command
line cannot be used. -/
def main (args : List String) : IO UInt32 := do
  let code ← Live.follow (Program.plan (← Live.environment) args)
  return code.toUInt32
