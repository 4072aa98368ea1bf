import TraceArchive.Json.Record
/-!
What a fetch yields: an `Entry`, the traces of a transaction with the time of its block, or an
`Absence`, the node knowing no such traces.  Both have a JSON form; an `Outcome` is written as the
one it holds, and read as an entry if it can be, else as an absence.
-/

namespace TraceArchive

open Json (Value Shape Member)

/-- The traces of one transaction, together with the number and the time of its block. -/
structure Entry where
  /-- The hash as the caller gave it. -/
  hash : String
  /-- The block number as the node wrote it. -/
  blockNumber : String
  /-- Seconds since the start of 1970. -/
  timestamp : UInt64
  traces : List Value

/-- The statement that a transaction was not found. -/
structure Absence where
  error : String

inductive Outcome where
  | found (entry : Entry)
  | notFound (absence : Absence)

/-- The absence that a fetch reports. -/
def Absence.standard : Absence :=
  ⟨"Transaction not found or traces unavailable"⟩

namespace Entry

/-- The members an entry is written with. -/
def members (e : Entry) : List (String × Value) :=
  [("transactionHash", .string e.hash), ("blockNumber", .string e.blockNumber),
    ("timestamp", .number (.ofUInt64 e.timestamp)), ("traces", .array e.traces)]

def toValue (e : Entry) : Value :=
  .object e.members

/-- The fields of an entry gathered so far. -/
structure Draft where
  hash : Option String := none
  blockNumber : Option String := none
  timestamp : Option UInt64 := none
  traces : Option (List Value) := none

def hashField : Member Draft :=
  .text "transactionHash" "a string" (·.hash) fun d text => { d with hash := some text }

def blockNumberField : Member Draft :=
  .text "blockNumber" "a string" (·.blockNumber) fun d text => { d with blockNumber := some text }

def timestampField : Member Draft where
  name := "timestamp"
  given d := d.timestamp.isSome
  read _ d s := do
    let (n, rest) ← Json.integerOf "u64" 0 0xFFFFFFFFFFFFFFFF s
    return ({ d with timestamp := some n.toNat.toUInt64 }, rest)
  ofValue? d v :=
    match v with
    | .number (.integer n _) =>
      if 0 ≤ n then some { d with timestamp := some n.toNat.toUInt64 } else none
    | _ => none

def tracesField : Member Draft where
  name := "traces"
  given d := d.traces.isSome
  read depth d s := do
    let (items, rest) ← Json.arrayOf "a sequence" depth s
    return ({ d with traces := some items }, rest)
  ofValue? d v :=
    match v with
    | .array items => (Value.settleItems items).map fun items => { d with traces := some items }
    | _ => none

def shape : Shape Draft Entry where
  title := "struct CombinedResult"
  fields := [hashField, blockNumberField, timestampField, tracesField]
  blank := {}
  finish d :=
    match d.hash, d.blockNumber, d.timestamp, d.traces with
    | some hash, some blockNumber, some timestamp, some traces =>
      .ok ⟨hash, blockNumber, timestamp, traces⟩
    | none, _, _, _ => .error (.missingField "transactionHash")
    | _, none, _, _ => .error (.missingField "blockNumber")
    | _, _, none, _ => .error (.missingField "timestamp")
    | _, _, _, none => .error (.missingField "traces")
  exactLength := some "struct CombinedResult with 4 elements"

def parse (text : Bytes) : Except Json.Error Entry :=
  shape.parse text

/-- Equality of entries, traces compared as JSON values. -/
def same (a b : Entry) : Bool :=
  a.hash == b.hash && a.blockNumber == b.blockNumber && a.timestamp == b.timestamp
    && Value.sameItems a.traces b.traces

end Entry

namespace Absence

def toValue (a : Absence) : Value :=
  .object [("error", .string a.error)]

def errorField : Member (Option String) :=
  .text "error" "a string" id fun _ text => some text

def shape : Shape (Option String) Absence where
  title := "struct NotFound"
  fields := [errorField]
  blank := none
  finish d :=
    match d with
    | some error => .ok ⟨error⟩
    | none => .error (.missingField "error")
  exactLength := some "struct NotFound with 1 element"

def parse (text : Bytes) : Except Json.Error Absence :=
  shape.parse text

end Absence

namespace Outcome

def toValue : Outcome → Value
  | .found e => e.toValue
  | .notFound a => a.toValue

/-- The outcome written by a value, the form of an entry tried first. -/
def ofValue? (v : Value) : Option Outcome :=
  match Entry.shape.ofValue? v with
  | some e => some (.found e)
  | none => (Absence.shape.ofValue? v).map .notFound

/-- Reads an outcome.  A value that has neither form is a fault of the text as a whole. -/
def read (s : Bytes) : Except Json.Fault (Outcome × Bytes) := do
  let (v, rest) ← Json.value .verbatim Json.maxDepth s
  match ofValue? v with
  | some outcome => .ok (outcome, rest)
  | none => .error ⟨.noVariant "FetchOutcome", .known 0 0⟩

def parse (text : Bytes) : Except Json.Error Outcome :=
  Json.document read text

/-- Equality of outcomes: both found with the same entry, or both absent with the same words. -/
def same : Outcome → Outcome → Bool
  | .found a, .found b => a.same b
  | .notFound a, .notFound b => a.error == b.error
  | _, _ => false

/-- The hash of the entry that was found. -/
def foundHash? : Outcome → Option String
  | .found e => some e.hash
  | .notFound _ => none

end Outcome

end TraceArchive
