import TraceArchive.Url.Basic
/-!
HTTP messages: the bytes that post a body to a URL over a connection of its own, and replies, read
from all the bytes of a connection that was closed after them.
-/

namespace TraceArchive

/-! ## Requests -/

namespace Http

/-- What ends each line of a message's head. -/
def lineEnd : String :=
  "\r\n"

/-- Bytes that a request line can show as they are. -/
def isPlain (b : UInt8) : Bool :=
  0x21 ≤ b && b < 0x7F && b != 0x22 && b != 0x3C && b != 0x3E

/-- A text with a percent sign and two hexadecimal digits for each byte that is not plain. -/
def percentEncoded (text : List Char) : List Char :=
  (Utf8.encode text).flatMap fun b =>
    if isPlain b then [Char.ofNat b.toNat]
    else '%' :: [b.toNat / 16, b.toNat % 16].map fun n => (Nat.digitChar n).toUpper

/-- The path and query that a URL asks for; the fragment is not sent. -/
def targetOf (u : Url) : List Char :=
  let shown := u.target.takeWhile (· ≠ '#')
  let path := (shown.takeWhile (· ≠ '?')).map fun c => if c = '\\' then '/' else c
  let rooted := if path.head? = some '/' then path else '/' :: path
  percentEncoded (rooted ++ shown.dropWhile (· ≠ '?'))

/-- The host, with the port where one is given. -/
def hostOf (u : Url) : List Char :=
  ((u.host.map Host.text).getD []) ++ match u.port with
    | some port => ':' :: Nat.toDigits 10 port
    | none => []

def defaultPort : Nat := 80

/-- The request that posts a JSON body. -/
def post (u : Url) (body : List Char) : Bytes :=
  let content := Utf8.encode body
  let head :=
    ["POST " ++ String.ofList (targetOf u) ++ " HTTP/1.1",
      "host: " ++ String.ofList (hostOf u),
      "accept: */*",
      "content-type: application/json",
      "content-length: " ++ toString content.length,
      "connection: close",
      "",
      ""]
  Utf8.ofString (lineEnd.intercalate head) ++ content

/-! ## Replies -/

structure Reply where
  status : Nat
  /-- The fields of the head, names in lower case. -/
  fields : List (String × String)
  body : Bytes

/-- The bytes before and after the first place where a mark stands. -/
def divideAt (mark : Bytes) : Bytes → Option (Bytes × Bytes)
  | [] => none
  | b :: rest =>
    if mark.isPrefixOf (b :: rest) then some ([], (b :: rest).drop mark.length)
    else (divideAt mark rest).map fun (before, after) => (b :: before, after)

def breakMark : Bytes := [0x0D, 0x0A]

/-- An empty line, which ends a head. -/
def headMark : Bytes := breakMark ++ breakMark

/-- A text without the blanks around it. -/
def trimmed (text : List Char) : List Char :=
  ((text.dropWhile Char.isWhitespace).reverse.dropWhile Char.isWhitespace).reverse

/-- A field of a head: a name, a colon and a value. -/
def field? (line : List Char) : Option (String × String) :=
  let name := line.takeWhile (· ≠ ':')
  match line.drop name.length with
  | ':' :: value => some (String.ofList (name.map Char.toLower), String.ofList (trimmed value))
  | _ => none

/-- The status in the first line of a head. -/
def status? (line : List Char) : Option Nat :=
  match Text.words line with
  | version :: status :: _ =>
    if "HTTP/1.".toList.isPrefixOf version then (String.ofList status).toNat? else none
  | _ => none

/-- Puts chunks together, as many as are allowed: a size in hexadecimal, then so many bytes, and a
chunk of size zero at the end. -/
def chunksUpTo : Nat → Bytes → Option Bytes
  | 0, _ => none
  | count + 1, bytes =>
    match divideAt breakMark bytes with
    | none => none
    | some (line, rest) =>
      let digits := (Utf8.decodeLossy line).takeWhile fun c => (Text.hexDigitValue? c).isSome
      if digits = [] then none
      else
        let size := Text.hexNumber digits
        if size = 0 then some []
        else if rest.length < size then none
        else (chunksUpTo count (rest.drop (size + breakMark.length))).map (rest.take size ++ ·)

/-- The body that chunks make up; each of them has a byte at least. -/
def dechunked (bytes : Bytes) : Option Bytes :=
  chunksUpTo (bytes.length + 1) bytes

/-- The body of a reply with the given fields, from all bytes after the head. -/
def bodyOf (fields : List (String × String)) (bytes : Bytes) : Option Bytes :=
  if (fields.lookup "transfer-encoding").any (·.toLower = "chunked") then dechunked bytes
  else match (fields.lookup "content-length").bind String.toNat? with
    | some length => if bytes.length < length then none else some (bytes.take length)
    | none => some bytes

def Reply.ofBytes? (bytes : Bytes) : Option Reply := do
  let (head, rest) ← divideAt headMark bytes
  match (String.ofList (Utf8.decodeLossy head)).splitOn "\r\n" with
  | [] => none
  | first :: lines =>
    let status ← status? first.toList
    let fields := lines.filterMap (field? ·.toList)
    let body ← bodyOf fields rest
    return ⟨status, fields, body⟩

end Http

end TraceArchive
