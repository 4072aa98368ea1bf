import TraceArchive.Rpc.Reply
import TraceArchive.Surroundings
import TraceArchive.Url.Basic
/-!
Calls to a node: any method with any parameters, the traces of a transaction, a block by its number;
and the errors of a client, with the calls in which they arose.
-/

namespace TraceArchive

open Json (Value)

/-! ## Errors -/

namespace Client

inductive Fault where
  | url (fault : Url.Fault)
  | rpc (fault : Rpc.Fault)

instance : Shown Fault where
  shown
    | .url fault => Text.applied "Url" (shown fault)
    | .rpc fault => Text.applied "Rpc" (shown fault)

/-- The call in which an error arose. -/
inductive Frame where
  | traceTransaction (hash : String)
  | getBlock (number : String)
  deriving DecidableEq

instance : Shown Frame where
  shown
    | .traceTransaction hash =>
      Text.fields "OnTraceTransaction" [("hash", Text.quoted hash)]
    | .getBlock number => Text.fields "OnGetBlock" [("number", Text.quoted number)]

abbrev Error := Framed Fault Frame

/-- Whether the node answered with an error object, as opposed to not answering properly. -/
def isRefusal (e : Error) : Bool :=
  match e.origin with
  | .rpc (.refused _) => true
  | _ => false

end Client

/-! ## Calls -/

/-- A client of the node at an endpoint. -/
structure Client where
  endpoint : String

namespace Client

/-- A client of an endpoint, which must be a URL. -/
def dial (endpoint : String) : Except Error Client :=
  match Url.parse endpoint with
  | .ok _ => .ok ⟨endpoint⟩
  | .error fault => .error (.plain (.url fault))

/-- What a reply comes to, read as the wanted kind of result; none for a batch, which answers
nothing. -/
def answerOf (wanted : Rpc.Wanted α) : Delivery → Option (Except Rpc.Fault α)
  | .refused | .dropped => some (.error (.transport .connection))
  | .reply status body =>
    if status ≠ 200 then
      some (.error (.transport (.status status (String.ofList (Utf8.decodeLossy body)))))
    else match Rpc.Body.ofBytes body with
      | .result text => some (wanted.ofText text)
      | .fault fault => some (.error fault)
      | .batch => none

/-- What is said of a batch. -/
def batchMessage : String :=
  "received batch response from single request"

variable {m : Type → Type} [Surroundings m]

/-- Makes a request, which is given its number.  A batch in answer to it ends the run. -/
def ask (c : Client) (call : Nat → Rpc.Request) (wanted : Rpc.Wanted α) :
    m (Except Rpc.Fault α) := do
  let id ← Surroundings.nextId
  let delivery ← Surroundings.send c.endpoint (call id)
  match answerOf wanted delivery with
  | some answer => return answer
  | none => Surroundings.abort batchMessage

/-- Calls a method. -/
def request (c : Client) (method : String) (params : Value) (wanted : Rpc.Wanted α) :
    m (Except Rpc.Fault α) :=
  c.ask (Rpc.Request.mk method params) wanted

/-- The part of the program that client records come from. -/
def target : String := "clients::eth"

/-- A fault of a call as an error with its frame. -/
def framed (frame : Frame) : Except Rpc.Fault α → Except Error α
  | .ok v => .ok v
  | .error fault => .error (Framed.push frame (.plain (.rpc fault)))

/-- The traces of a transaction, or nothing if the node answers null. -/
def traceTransaction (c : Client) (hash : String) : m (Except Error (Option (List Value))) := do
  Surroundings.debug target ("[" ++ c.endpoint ++ "] trace_transaction " ++ hash)
  let answer ← c.ask (Rpc.Request.traces hash) Rpc.Wanted.values.orNull
  return framed (.traceTransaction hash) answer

/-- The block of a number, or nothing if the node answers null. -/
def blockByNumber (c : Client) (number : String) (full : Bool) :
    m (Except Error (Option Value)) := do
  Surroundings.debug target ("[" ++ c.endpoint ++ "] eth_getBlockByNumber " ++ number ++ " full="
    ++ (if full then "true" else "false"))
  let answer ← c.ask (Rpc.Request.block number full) Rpc.Wanted.any.orNull
  return framed (.getBlock number) answer

end Client

end TraceArchive
