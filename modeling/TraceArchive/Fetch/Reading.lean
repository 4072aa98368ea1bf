import TraceArchive.Client.Call
/-!
What a fetch reads out of the replies of a node, a block number and a time, and what can go wrong
with a fetch.  A time is a quantity of 64 bits in hexadecimal: its digits are read from the last to
the first, and underscores between them count for nothing.
-/

namespace TraceArchive

open Json (Value)

/-! ## Quantities -/

namespace Quantity

/-- Why digits are no quantity. -/
inductive Fault where
  /-- A byte that is no digit, as the character of its number. -/
  | invalidDigit (c : Char)
  | overflow
  deriving DecidableEq

instance : Shown Fault where
  shown
    | .invalidDigit c => Text.applied "InvalidDigit" (Text.quotedChar c)
    | .overflow => Text.applied "BaseConvertError" "Overflow"

/-- The number of digits a quantity has room for. -/
def room : Nat := 16

/-- Reads digits that are given from the last to the first; `seen` of them, worth `value`, were read
before. -/
def readBack (seen value : Nat) : Bytes → Except Fault Nat
  | [] => .ok value
  | b :: r =>
    if b = 0x5F then readBack seen value r
    else match Text.hexValue? b with
      | none => .error (.invalidDigit (Char.ofNat b.toNat))
      | some n =>
        if seen < room then readBack (seen + 1) (value + n * Nat.pow 16 seen) r
        else if n = 0 then readBack (seen + 1) value r
        else .error .overflow

/-- Reads the digits of a quantity; no digit at all is zero. -/
def read (digits : String) : Except Fault Nat :=
  readBack 0 0 (Utf8.ofString digits).reverse

/-- A text without the mark `0x` in front, if it has one. -/
def stripMark (text : List Char) : List Char :=
  match text with
  | '0' :: 'x' :: rest => rest
  | _ => text

end Quantity

/-! ## Errors -/

namespace Fetch

inductive Fault where
  | missingBlockNumber
  | blockNotFound (number : String)
  | missingTimestamp (number : String)
  /-- A timestamp that is no quantity; without a reason where it has no digit at all. -/
  | invalidTimestamp (value : String) (reason : Option Quantity.Fault)
  | client (error : Client.Error)
  | disk (fault : Disk.Fault)
  | json (error : Json.Error)

instance : Shown Disk.Fault :=
  ⟨Disk.Fault.display⟩

instance : Shown Fault where
  shown
    | .missingBlockNumber => "MissingBlockNumber"
    | .blockNotFound number => Text.fields "BlockNotFound" [("number", Text.quoted number)]
    | .missingTimestamp number => Text.fields "MissingTimestamp" [("number", Text.quoted number)]
    | .invalidTimestamp value reason => Text.fields "InvalidTimestamp"
        [("value", Text.quoted value), ("reason", Text.optional (reason.map shown))]
    | .client error => Text.applied "Eth" (shown error)
    | .disk fault => Text.applied "Io" (shown fault)
    | .json error => Text.applied "Json" (shown error)

/-- What was being done when an error arose. -/
inductive Frame where
  | writeOutput (path : Path)
  deriving DecidableEq

instance : Shown Frame where
  shown
    | .writeOutput path => Text.fields "OnWriteOutput" [("path", Text.quoted path.text)]

abbrev Error := Framed Fault Frame

end Fetch

/-! ## Readings -/

namespace Fetcher

open Fetch (Fault)

/-- The block number that the first of some traces gives. -/
def blockNumberOf (traces : List Value) : Except Fault String :=
  match ((traces.head?.bind (·.get? "blockNumber")).bind Value.asString?) with
  | some number => .ok number
  | none => .error .missingBlockNumber

/-- The seconds that the timestamp of a block denotes. -/
def timestampOf (block : Value) (number : String) : Except Fault UInt64 :=
  match (block.get? "timestamp").bind Value.asString? with
  | none => .error (.missingTimestamp number)
  | some value =>
    match Quantity.stripMark value.toList with
    | [] => .error (.invalidTimestamp value none)
    | digits =>
      match Quantity.read (String.ofList digits) with
      | .ok seconds => .ok seconds.toUInt64
      | .error reason => .error (.invalidTimestamp value (some reason))

end Fetcher

end TraceArchive
