import TraceArchive.Url.Host
/-!
Absolute URLs: a scheme, an authority with a host and a port where two slashes open one, and the
rest.  Blanks and controls around a URL do not count, nor do tabs and line breaks inside it.
-/

namespace TraceArchive

/-- A URL as far as it says where to connect. -/
structure Url where
  /-- In lower case. -/
  scheme : String
  host : Option Host := none
  /-- The port, if it is given. -/
  port : Option Nat := none
  /-- What follows: path, query and fragment as they are written. -/
  target : List Char := []
  deriving DecidableEq, Repr

namespace Url

/-! ## Schemes -/

/-- What is known of a scheme. -/
inductive Kind where
  /-- Files, perhaps of a host, but never at a port. -/
  | file
  /-- A host is needed, and a backslash is a slash. -/
  | network
  | other
  deriving DecidableEq, Repr

def kindOf (scheme : String) : Kind :=
  if scheme = "file" then .file
  else if ["http", "https", "ws", "wss", "ftp"].contains scheme then .network
  else .other

def isSchemeChar (c : Char) : Bool :=
  c.isAlphanum || c = '+' || c = '-' || c = '.'

/-- The scheme that opens a text, and what follows its colon. -/
def scheme? (text : List Char) : Option (String × List Char) :=
  let name := text.takeWhile isSchemeChar
  match name, text.drop name.length with
  | c :: _, ':' :: rest =>
    if c.isAlpha then some (String.ofList (name.map Char.toLower), rest) else none
  | _, _ => none

/-- Whether a character ends an authority. -/
def endsAuthority (kind : Kind) (c : Char) : Bool :=
  c = '/' || c = '?' || c = '#' || (kind ≠ .other && c = '\\')

/-! ## Authorities -/

/-- The texts before and after the last at sign; none before it if there is none. -/
def divideUser (authority : List Char) : Option (List Char) × List Char :=
  let host := (authority.reverse.takeWhile (· ≠ '@')).reverse
  let before := authority.take (authority.length - host.length)
  (if before = [] then none else some before.dropLast, host)

/-- The texts before and from the colon that ends a host; a colon within brackets does not. -/
def divideHost (inBrackets : Bool) : List Char → List Char × List Char
  | [] => ([], [])
  | c :: rest =>
    if c = ':' && !inBrackets then ([], c :: rest)
    else
      let stillIn := if c = '[' then true else if c = ']' then false else inBrackets
      let (host, port) := divideHost stillIn rest
      (c :: host, port)

def maxPort : Nat := 65535

/-- The port that digits denote; none if there are no digits. -/
def port? (text : List Char) : Except Fault (Option Nat) :=
  if text = [] then .ok none
  else if text.all Char.isDigit then
    let n := text.foldl (fun n c => n * 10 + (c.toNat - '0'.toNat)) 0
    if n ≤ maxPort then .ok (some n) else .error .invalidPort
  else .error .invalidPort

/-- Whether what stands before an at sign names a user or has a password. -/
def namesUser (user : Option (List Char)) : Bool :=
  match user with
  | none | some [] | some [':'] => false
  | some _ => true

/-- A URL from the text after the slashes that open its authority. -/
def ofAuthority (scheme : String) (text : List Char) : Except Fault Url := do
  let kind := kindOf scheme
  let authority := text.takeWhile (!endsAuthority kind ·)
  let target := text.dropWhile (!endsAuthority kind ·)
  let (user, place) := divideUser authority
  if user = some [] && place = [] && target ≠ [] then throw .emptyHost
  let (hostText, portText) := divideHost false place
  if kind = .network && hostText = [] then throw .emptyHost
  let host ← if kind = .network then Host.ofText hostText else Host.ofPlain hostText
  if hostText = [] && portText ≠ [] then throw .emptyHost
  -- without a known scheme a backslash ends the port, though not the authority
  let digits := (portText.drop 1).takeWhile (· ≠ '\\')
  let port ← port? digits
  if hostText = [] && namesUser user then throw .emptyHost
  return {
    scheme := scheme
    host := if hostText = [] then none else some host
    port := port
    target := (portText.drop 1).drop digits.length ++ target }

/-! ## Files -/

/-- A letter with a colon or a bar, which names a drive and not a host. -/
def isDrive : List Char → Bool
  | [letter, mark] => letter.isAlpha && (mark = ':' || mark = '|')
  | _ => false

/-- A file URL from the text after its scheme. -/
def ofFile (scheme : String) (text : List Char) : Except Fault Url :=
  let isSlash (c : Char) : Bool := c = '/' || c = '\\'
  match text with
  | a :: b :: rest =>
    if isSlash a && isSlash b then
      let name := rest.takeWhile (!endsAuthority .file ·)
      if name = [] || isDrive name then .ok { scheme := scheme, target := rest }
      else (Host.ofText name).map fun host =>
        { scheme := scheme, host := some host, target := rest.drop name.length }
    else .ok { scheme := scheme, target := text }
  | _ => .ok { scheme := scheme, target := text }

/-! ## All -/

/-- Takes the blanks and controls around a text off. -/
def trimmed (text : List Char) : List Char :=
  let isBlank (c : Char) : Bool := c.toNat ≤ 0x20
  ((text.dropWhile isBlank).reverse.dropWhile isBlank).reverse

/-- A tab or line break, which a URL can be broken with anywhere. -/
def isBreak (c : Char) : Bool :=
  c = '\t' || c = '\n' || c = '\r'

/-- A URL from the text after its scheme. -/
def ofScheme (scheme : String) (text : List Char) : Except Fault Url :=
  match kindOf scheme with
  | .file => ofFile scheme text
  | .network => ofAuthority scheme (text.dropWhile fun c => c = '/' || c = '\\')
  | .other =>
    match text with
    | '/' :: '/' :: rest => ofAuthority scheme rest
    | _ => .ok { scheme := scheme, target := text }

def parse (text : String) : Except Fault Url :=
  match scheme? ((trimmed text.toList).filter (!isBreak ·)) with
  | some (scheme, rest) => ofScheme scheme rest
  | none => .error .relative

end Url

end TraceArchive
