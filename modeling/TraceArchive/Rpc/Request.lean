import TraceArchive.Failure.Framed
import TraceArchive.Json.Fault
import TraceArchive.Json.Printer
/-!
Requests to a node, and what can go wrong between a request and a usable result.
-/

namespace TraceArchive

namespace Rpc

/-- A call of a method, numbered so that replies can be told apart. -/
structure Request where
  method : String
  params : Json.Value
  id : Nat

namespace Request

/-- The request for the traces of a transaction, whose hash goes out as it is given. -/
def traces (hash : String) (id : Nat) : Request :=
  ⟨"trace_transaction", .array [.string hash], id⟩

/-- The request for the block of a number, which goes out as it is given; with its transactions in
full or not. -/
def block (number : String) (full : Bool) (id : Nat) : Request :=
  ⟨"eth_getBlockByNumber", .array [.string number, .bool full], id⟩

/-- The body that carries a request. -/
def body (r : Request) : List Char :=
  "\x7b\"method\":".toList ++ Json.quoted r.method ++ ",\"params\":".toList ++ r.params.compact
    ++ ",\"id\":".toList ++ Nat.toDigits 10 r.id ++ ",\"jsonrpc\":\"2.0\"\x7d".toList

end Request

/-! ## Failures -/

/-- The error object by which a node refuses a request. -/
structure ErrorObject where
  code : Int
  message : String
  /-- The further data, as it was written. -/
  data : Option String

instance : Shown ErrorObject where
  shown e := Text.fields "ErrorPayload"
    [("code", toString e.code), ("message", Text.quoted e.message),
      ("data", Text.optional (e.data.map (Text.applied "RawValue")))]

/-- Why no reply came through. -/
inductive TransportFault where
  | backendGone
  | noSubscriptions
  /-- The connection failed. -/
  | connection
  | custom (text : String)
  | status (code : Nat) (body : String)

instance : Shown TransportFault where
  shown
    | .backendGone => "BackendGone"
    | .noSubscriptions => "PubsubUnavailable"
    | .connection => Text.applied "Custom" ".."
    | .custom text => Text.applied "Custom" (Text.quoted text)
    | .status code body => Text.applied "HttpError"
        (Text.fields "HttpError" [("status", toString code), ("body", Text.quoted body)])

inductive Fault where
  /-- The node answered with an error object. -/
  | refused (error : ErrorObject)
  /-- Nothing was answered where something was due. -/
  | emptyReply
  | unsupported (feature : String)
  /-- The request itself could not be made. -/
  | misuse (text : String)
  /-- A text was answered that is no reply, or not one of the wanted kind. -/
  | unreadable (error : Json.Error) (text : String)
  | transport (fault : TransportFault)

instance : Shown Json.Error :=
  ⟨Json.Error.display⟩

instance : Shown Fault where
  shown
    | .refused error => Text.applied "ErrorResp" (shown error)
    | .emptyReply => "NullResp"
    | .unsupported feature => Text.applied "UnsupportedFeature" (Text.quoted feature)
    | .misuse text => Text.applied "LocalUsageError" (Text.quoted text)
    | .unreadable error text => Text.fields "DeserError"
        [("err", shown error), ("text", Text.quoted text)]
    | .transport fault => Text.applied "Transport" (shown fault)

end Rpc

end TraceArchive
