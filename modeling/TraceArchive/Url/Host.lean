import TraceArchive.Domain.Name
import TraceArchive.Failure.Framed
import TraceArchive.Text.Utf8
/-!
Hosts: a domain name or an address, or for schemes that do not know these, nearly any text.

An IPv4 address is one to four numbers with dots between, the last of which fills the bytes that are
left; a number is decimal, octal after a zero, or hexadecimal after `0x`.  An IPv6 address is eight
pieces of sixteen bits with colons between; a double colon stands once for as many zero pieces as
are missing, and the last two pieces may be four decimal bytes.
-/

namespace TraceArchive

inductive Url.Fault where
  | emptyHost
  | invalidDomain
  | invalidPort
  | invalidIpv4
  | invalidIpv6
  /-- A character that no host name can hold. -/
  | invalidHostCharacter
  /-- There is no scheme, and nothing that the text could be relative to. -/
  | relative
  deriving DecidableEq, Repr

instance : Shown Url.Fault where
  shown
    | .emptyHost => "EmptyHost"
    | .invalidDomain => "IdnaError"
    | .invalidPort => "InvalidPort"
    | .invalidIpv4 => "InvalidIpv4Address"
    | .invalidIpv6 => "InvalidIpv6Address"
    | .invalidHostCharacter => "InvalidDomainCharacter"
    | .relative => "RelativeUrlWithoutBase"

/-! ## IPv4 addresses -/

namespace Ipv4

def octalDigitValue? (c : Char) : Option Nat :=
  if '0' ≤ c && c ≤ '7' then some (c.toNat - '0'.toNat) else none

def decimalDigitValue? (c : Char) : Option Nat :=
  if c.isDigit then some (c.toNat - '0'.toNat) else none

/-- The number that digits to a base denote; no digits are zero. -/
def digits? (base : Nat) (value? : Char → Option Nat) (text : List Char) : Option Nat :=
  text.foldlM (fun n c => (value? c).map (n * base + ·)) 0

def number? : List Char → Option Nat
  | [] => none
  | '0' :: 'x' :: text | '0' :: 'X' :: text => digits? 16 Text.hexDigitValue? text
  | '0' :: c :: text => digits? 8 octalDigitValue? (c :: text)
  | text => digits? 10 decimalDigitValue? text

/-- The parts of a name that may be an address: a dot at the end counts for nothing. -/
def parts (name : List (List Char)) : List (List Char) :=
  if name.getLast? = some [] then name.dropLast else name

/-- Whether a name ends in a number, and so has to be an address. -/
def isMeant (name : List (List Char)) : Bool :=
  match (parts name).getLast? with
  | none | some [] => false
  | some last => last.all Char.isDigit || (number? last).isSome

/-- The address that numbers make up: all but the last are bytes, and the last fits what is left. -/
def join? (bytes : List Nat) (last : Nat) : Option Nat :=
  if bytes.length < 4 && bytes.all (· < 256) && last < Nat.pow 256 (4 - bytes.length) then
    some (bytes.foldr (fun b n => b * 0x1000000 + n / 256) 0 + last)
  else none

def address? (name : List (List Char)) : Option Nat :=
  match ((parts name).mapM number?).map List.reverse with
  | some (last :: others) => join? others.reverse last
  | _ => none

end Ipv4

/-! ## IPv6 addresses -/

namespace Ipv6

def pieceCount : Nat := 8

/-- A piece of one to four hexadecimal digits. -/
def piece? (text : List Char) : Option Nat :=
  if text.length = 0 || 4 < text.length then none
  else text.foldlM (fun n c => (Text.hexDigitValue? c).map (n * 16 + ·)) 0

/-- A decimal byte without zeros in front. -/
def byte? (text : List Char) : Option Nat :=
  if text.length = 0 || 3 < text.length || !text.all Char.isDigit
      || (text.head? = some '0' && 1 < text.length) then none
  else
    let n := text.foldl (fun n c => n * 10 + (c.toNat - '0'.toNat)) 0
    if n < 256 then some n else none

/-- The two pieces that four decimal bytes with dots between make up. -/
def dotted? (text : List Char) : Option (List Nat) :=
  match (text.splitOn '.').mapM byte? with
  | some [a, b, c, d] => some [a * 256 + b, c * 256 + d]
  | _ => none

/-- The pieces of groups with colons between, the last of which may be decimal bytes. -/
def pieces? (mayEndDotted : Bool) : List (List Char) → Option (List Nat)
  | [] => some []
  | [last] =>
    if mayEndDotted && last.contains '.' then dotted? last else (piece? last).map fun n => [n]
  | group :: groups => do
    let n ← piece? group
    return n :: (← pieces? mayEndDotted groups)

/-- The texts before and after the first double colon. -/
def divide? : List Char → Option (List Char × List Char)
  | ':' :: ':' :: after => some ([], after)
  | c :: rest => (divide? rest).map fun (before, after) => (c :: before, after)
  | [] => none

/-- The groups of a text, which has none if it is empty. -/
def groups (text : List Char) : List (List Char) :=
  if text = [] then [] else text.splitOn ':'

/-- The eight pieces of an address. -/
def address? (text : List Char) : Option (List Nat) :=
  match divide? text with
  | none =>
    match pieces? true (groups text) with
    | some ns => if ns.length = pieceCount then some ns else none
    | none => none
  | some (before, after) =>
    match pieces? false (groups before), pieces? true (groups after) with
    | some ns, some ms =>
      let missing := pieceCount - (ns.length + ms.length)
      if 0 < missing then some (ns ++ List.replicate missing 0 ++ ms) else none
    | _, _ => none

end Ipv6

/-! ## Hosts -/

inductive Host where
  /-- A name by its labels in ASCII. -/
  | name (labels : List (List Char))
  | ipv4 (address : Nat)
  | ipv6 (pieces : List Nat)
  | plain (text : List Char)
  deriving DecidableEq, Repr

namespace Host

/-- Puts the bytes that percent signs with two hexadecimal digits stand for in their place. -/
def percentDecoded : Bytes → Bytes
  | 0x25 :: a :: b :: rest =>
    match Text.hexValue? a, Text.hexValue? b with
    | some m, some n => (m * 16 + n).toUInt8 :: percentDecoded rest
    | _, _ => 0x25 :: percentDecoded (a :: b :: rest)
  | b :: rest => b :: percentDecoded rest
  | [] => []

/-- The host between brackets, if brackets are opened. -/
def bracketed? : List Char → Option (Except Url.Fault Host)
  | '[' :: text =>
    if text.getLast? = some ']' then
      match Ipv6.address? text.dropLast with
      | some pieces => some (.ok (.ipv6 pieces))
      | none => some (.error .invalidIpv6)
    else some (.error .invalidIpv6)
  | _ => none

/-- The host that labels make up: an address if the last is a number, else a name. -/
def ofLabels (labels : List (List Char)) : Except Url.Fault Host :=
  if labels = [[]] then .error .emptyHost
  else if Ipv4.isMeant labels then
    match Ipv4.address? labels with
    | some address => .ok (.ipv4 address)
    | none => .error .invalidIpv4
  else .ok (.name labels)

/-- A host for the schemes that know names and addresses. -/
def ofText (text : List Char) : Except Url.Fault Host :=
  match bracketed? text with
  | some result => result
  | none =>
    match (Utf8.decode (percentDecoded (Utf8.encode text))).bind Domain.labels? with
    | some labels => ofLabels (labels.map (·.ascii))
    | none => .error .invalidDomain

/-- What no host can hold under any scheme. -/
def isForbidden (c : Char) : Bool :=
  ['\x00', '\t', '\n', '\r', ' ', '#', '/', ':', '<', '>', '?', '@', '[', '\\', ']', '^',
    '|'].contains c

/-- A host for the other schemes. -/
def ofPlain (text : List Char) : Except Url.Fault Host :=
  match bracketed? text with
  | some result => result
  | none =>
    if text.any isForbidden then .error .invalidHostCharacter else .ok (.plain text)

/-- The bytes of an IPv4 address, the first of highest value. -/
def octets (address : Nat) : List Nat :=
  [address / 0x1000000 % 256, address / 0x10000 % 256, address / 0x100 % 256, address % 256]

/-- A host as it is written in a URL. -/
def text : Host → List Char
  | .name labels => ['.'].intercalate labels
  | .ipv4 address => ['.'].intercalate ((octets address).map (Nat.toDigits 10))
  | .ipv6 pieces => '[' :: [':'].intercalate (pieces.map (Nat.toDigits 16)) ++ [']']
  | .plain text => text

end Host

end TraceArchive
