import TraceArchive.Json.Record
import TraceArchive.Rpc.Request
/-!
Replies of a node.  A body is one response object or an array of them; a response carries a result,
kept as it was written, or an error object.  `ofBody` reads a body, `resultOf` the result as a value
of a wanted kind.  A text that is neither but is an error object on its own counts as one.
-/

namespace TraceArchive

namespace Rpc

open Json (Member Shape Value)

/-- Where reading stands after an array was refused at its opening bracket: behind its closing
bracket if that comes next. -/
def afterArrayEnd (s : Bytes) : Bytes :=
  match Json.skipBlanks s with
  | [] => []
  | b :: r =>
    if b = 0x5D then r else if b = 0x2C then Json.skipBlanks r else b :: r

/-- Reads a record that is written as an object only. -/
def readObject (shape : Shape σ τ) (depth : Nat) (s : Bytes) : Except Json.Fault (τ × Bytes) :=
  match Json.skipBlanks s with
  | [] => Json.faultAt .endInValue []
  | b :: r =>
    if b = 0x7B then shape.read depth (b :: r)
    else if b = 0x5B then
      match depth with
      | 0 => Json.faultPast .tooDeep (b :: r)
      | _ + 1 => Json.faultAt (.invalidType .sequence shape.title) (afterArrayEnd r)
    else Json.mismatch shape.title (b :: r)

namespace ErrorObject

/-- The fields of an error object gathered so far. -/
structure Draft where
  code : Option Int := none
  message : Option String := none
  data : Option String := none

def codeField : Member Draft where
  name := "code"
  given d := d.code.isSome
  read _ d s := do
    let (n, rest) ← Json.integerOf "i64" (-0x8000000000000000) 0x7FFFFFFFFFFFFFFF s
    return ({ d with code := some n }, rest)
  ofValue? _ _ := none

def messageField : Member Draft :=
  .text "message" "a string" (·.message) fun d text => { d with message := some text }

def dataField : Member Draft where
  name := "data"
  given d := d.data.isSome
  read _ d s := do
    let (text, rest) ← Json.rawValue s
    return ({ d with data := some text }, rest)
  ofValue? _ _ := none

def shape : Shape Draft ErrorObject where
  title := "a JSON-RPC2.0 error object"
  fields := [codeField, messageField, dataField]
  blank := {}
  finish d :=
    match d.code with
    | some code => .ok ⟨code, d.message.getD "", d.data⟩
    | none => .error (.missingField "code")
  exactLength := none

def parse (text : Bytes) : Except Json.Error ErrorObject :=
  Json.document (readObject shape Json.maxDepth) text

end ErrorObject

/-- What a response carries. -/
inductive Response where
  /-- A result, as it was written. -/
  | result (text : String)
  | failure (error : ErrorObject)

namespace Response

/-- The fields of a response gathered so far. -/
structure Draft where
  result : Option String := none
  failure : Option ErrorObject := none
  hasId : Bool := false

def resultField : Member Draft where
  name := "result"
  given d := d.result.isSome
  read _ d s := do
    let (text, rest) ← Json.rawValue s
    return ({ d with result := some text }, rest)
  ofValue? _ _ := none

def errorField : Member Draft where
  name := "error"
  given d := d.failure.isSome
  read depth d s := do
    let (e, rest) ← readObject ErrorObject.shape depth s
    return ({ d with failure := some e }, rest)
  ofValue? _ _ := none

/-- Reads an identifier: a string, an unsigned integer or null. -/
def readId (depth : Nat) (s : Bytes) : Except Json.Fault Bytes :=
  let title := "a string, a number, or null"
  match Json.skipBlanks s with
  | [] => Json.faultAt .endInValue []
  | b :: r =>
    if b = 0x5B || b = 0x7B then
      match depth with
      | 0 => Json.faultPast .tooDeep (b :: r)
      | _ + 1 =>
        if b = 0x5B then Json.faultAt (.invalidType .sequence title) (afterArrayEnd r)
        else
          let rest := Json.skipBlanks r
          Json.faultAt (.invalidType .map title)
            (if rest.head? = some 0x7D then rest.drop 1 else rest)
    else do
      let (found, rest) ← Json.met (b :: r)
      match found with
      | .null | .string _ => .ok rest
      | .number (.integer n _) =>
        if 0 ≤ n then .ok rest else Json.faultAt (.invalidType found title) rest
      | _ => Json.faultAt (.invalidType found title) rest

def idField : Member Draft where
  name := "id"
  given d := d.hasId
  read depth d s := do
    let rest ← readId depth s
    return ({ d with hasId := true }, rest)
  ofValue? _ _ := none

def shape : Shape Draft Response where
  title := "a JSON-RPC response object, consisting of either a result or an error"
  fields := [resultField, errorField, idField]
  blank := {}
  finish d :=
    match d.result, d.failure with
    | some text, none => .ok (.result text)
    | none, some e => .ok (.failure e)
    | none, none => .error (.missingField "result or error")
    | some _, some _ => .error (.exclusiveFields "result" "error")
  exactLength := none

/-- Reads a response as an item of an array. -/
def readItem (depth : Nat) (s : Bytes) : Except Json.Fault (Response × Bytes) :=
  match Json.skipBlanks s with
  | [] => Json.faultAt .endInValue []
  | b :: r =>
    if b = 0x7B then shape.read depth (b :: r) else Json.mismatch shape.title (b :: r)

end Response

/-- The content of a body. -/
inductive Packet where
  | single (response : Response)
  | batch (responses : List Response)

/-- Reads a body. -/
def Packet.read (depth : Nat) (s : Bytes) : Except Json.Fault (Packet × Bytes) :=
  match Json.skipBlanks s with
  | [] => Json.faultAt .endInValue []
  | b :: r =>
    if b = 0x7B then do
      let (response, rest) ← Response.shape.read depth (b :: r)
      return (.single response, rest)
    else if b = 0x5B then
      match depth with
      | 0 => Json.faultPast .tooDeep (b :: r)
      | depth + 1 => do
        let (responses, rest) ← Json.foldItems .building
          (fun responses s => do
            let (response, rest) ← Response.readItem depth s
            return (response :: responses, rest)) (r.length + 1) true [] r
        return (.batch responses.reverse, rest)
    else Json.mismatch "a single response or a batch of responses" (b :: r)

def Packet.parse (text : Bytes) : Except Json.Error Packet :=
  Json.document (Packet.read Json.maxDepth) text

/-- The fault of a text that could not be read as it should: the error object that it is on its own,
or else that it is unreadable. -/
def Fault.ofText (error : Json.Error) (text : String) : Fault :=
  match ErrorObject.parse (Utf8.ofString text) with
  | .ok e => .refused e
  | .error _ => .unreadable error text

/-- What a body comes to: the text of its result, or a fault; nothing can be made of a batch. -/
inductive Body where
  | result (text : String)
  | fault (fault : Fault)
  | batch

def Body.ofBytes (body : Bytes) : Body :=
  match Packet.parse body with
  | .ok (.single (.result text)) => .result text
  | .ok (.single (.failure e)) => .fault (.refused e)
  | .ok (.batch _) => .batch
  | .error e => .fault (.ofText e (String.ofList (Utf8.decodeLossy body)))

/-- A kind of result that can be wanted of a request. -/
structure Wanted (α : Type) where
  read : Bytes → Except Json.Fault (α × Bytes)

namespace Wanted

/-- Any value. -/
def any : Wanted Value :=
  ⟨Json.value .usual Json.maxDepth⟩

/-- A value of the given kind, or null. -/
def orNull (wanted : Wanted α) : Wanted (Option α) where
  read s :=
    match Json.skipBlanks s with
    | b :: r =>
      if b = 0x6E then do return (none, ← Json.word Json.nullTail r)
      else do
        let (v, rest) ← wanted.read (b :: r)
        return (some v, rest)
    | [] => do
      let (v, rest) ← wanted.read []
      return (some v, rest)

/-- An array of values. -/
def values : Wanted (List Value) :=
  ⟨Json.arrayOf "a sequence" Json.maxDepth⟩

/-- The result of a text, read as the wanted kind. -/
def ofText (wanted : Wanted α) (text : String) : Except Fault α :=
  match Json.document wanted.read (Utf8.ofString text) with
  | .ok v => .ok v
  | .error e => .error (.ofText e text)

end Wanted

end Rpc

end TraceArchive
