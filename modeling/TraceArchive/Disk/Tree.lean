import TraceArchive.Disk.Fault
import TraceArchive.Text.Utf8
/-!
A disk as a value: which locations hold a directory or a file, and from where relative paths start.
`read`, `createDirs` and `write` follow paths as a disk does, name by name from a directory that is
there, with `.` and `..` taken as they are met.

Paths are texts.  `parts` are the names between slashes as a disk follows them, `components` the
names as paths are compared: a single dot counts only where it opens a relative path.
-/

namespace TraceArchive

/-! ## Paths -/

structure Path where
  text : String
  deriving DecidableEq, Repr

namespace Path

def isAbsolute (p : Path) : Bool :=
  p.text.toList.head? = some '/'

def endsWithSlash (p : Path) : Bool :=
  p.text.toList.getLast? = some '/'

/-- A path within another: an absolute one stands alone, and a slash is put between the two only
where there is none. -/
def join (dir file : Path) : Path :=
  if file.isAbsolute then file
  else if dir.text.isEmpty || dir.endsWithSlash then ⟨dir.text ++ file.text⟩
  else ⟨dir.text ++ "/" ++ file.text⟩

/-- The names between the slashes of a text. -/
def partsOf (text : List Char) : List String :=
  ((text.splitOn '/').filter (· ≠ [])).map String.ofList

/-- The names between slashes. -/
def parts (p : Path) : List String :=
  partsOf p.text.toList

/-- The names that matter when paths are compared. -/
def components (p : Path) : List String :=
  let named := p.parts.filter (· ≠ ".")
  if !p.isAbsolute && p.parts.head? = some "." then "." :: named else named

/-- Whether two paths are the same up to doubled slashes, slashes at the end, and single dots. -/
def same (p q : Path) : Bool :=
  p.isAbsolute == q.isAbsolute && p.components == q.components

end Path

/-! ## Disks -/

/-- The names from the root to a place. -/
abbrev Location := List String

inductive Disk.Entry where
  | directory
  | file (content : Bytes)
  deriving DecidableEq, Repr

/-- The entries of a disk, one for each location in use, and the working directory.  The root is a
directory without an entry. -/
structure Disk where
  entries : List (Location × Disk.Entry) := []
  workDir : Location := []

namespace Disk

def get? (d : Disk) (place : Location) : Option Entry :=
  if place = [] then some .directory else d.entries.lookup place

def isDir (d : Disk) (place : Location) : Bool :=
  d.get? place = some .directory

/-- Replaces the entry of a location, or adds one. -/
def setEntry (place : Location) (e : Entry) : List (Location × Entry) → List (Location × Entry)
  | [] => [(place, e)]
  | (l, old) :: rest => if l = place then (l, e) :: rest else (l, old) :: setEntry place e rest

def set (d : Disk) (place : Location) (e : Entry) : Disk :=
  { d with entries := setEntry place e d.entries }

/-- The longest name, in bytes, that an entry can have. -/
def maxNameLength : Nat := 255

/-- A path of this many bytes or more is refused as a whole. -/
def maxPathLength : Nat := 4096

/-- The place that one name leads to from a directory, whether something is there or not. -/
def step (place : Location) (name : String) : Except Fault Location :=
  if name = "." then .ok place
  else if name = ".." then .ok place.dropLast
  else if maxNameLength < (Utf8.ofString name).length then .error .nameTooLong
  else .ok (place ++ [name])

/-- Follows names through directories to a directory. -/
def enter (d : Disk) : Location → List String → Except Fault Location
  | place, [] => .ok place
  | place, name :: names => do
    let next ← step place name
    match d.get? next with
    | some .directory => d.enter next names
    | some (.file _) => .error .notDirectory
    | none => .error .notFound

/-- Refuses what no disk can follow. -/
def checkPath (p : Path) : Except Fault Unit :=
  if p.text.toList.contains '\x00' then .error .zeroByteInName
  else if maxPathLength ≤ (Utf8.ofString p.text).length then .error .nameTooLong
  else if p.text.isEmpty then .error .notFound
  else .ok ()

/-- Where a path starts. -/
def start (d : Disk) (p : Path) : Location :=
  if p.isAbsolute then [] else d.workDir

/-- What the last name of a path names. -/
inductive Target where
  /-- A directory that is there without being looked up: the start of the path, `.` or `..`. -/
  | self
  /-- A named place, in a directory that is there. -/
  | named (place : Location)

/-- Follows all names but the last. -/
def resolve (d : Disk) (start : Location) (names : List String) : Except Fault Target :=
  match names.getLast? with
  | none => .ok .self
  | some last => do
    let parent ← d.enter start names.dropLast
    if last = "." || last = ".." then .ok .self
    else return .named (← step parent last)

/-- The bytes of a file. -/
def read (d : Disk) (p : Path) : Except Fault Bytes := do
  checkPath p
  match ← d.resolve (d.start p) p.parts with
  | .self => .error .isDirectory
  | .named place =>
    match d.get? place with
    | some (.file content) => if p.endsWithSlash then .error .notDirectory else .ok content
    | some .directory => .error .isDirectory
    | none => .error .notFound

/-- Creates one directory; the names are those of a path. -/
def createDir (d : Disk) (start : Location) (names : List String) : Except Fault Disk := do
  match ← d.resolve start names with
  | .self => .error .alreadyExists
  | .named place =>
    match d.get? place with
    | some _ => .error .alreadyExists
    | none => .ok (d.set place .directory)

/-- Whether a path leads to a directory. -/
def leadsToDir (d : Disk) (start : Location) (names : List String) : Bool :=
  (d.enter start names).toBool

/-- Creates the directories of a list of paths in order, those that are there already left as they
are.  The first other refusal ends it; what was created before stays. -/
def createEach (d : Disk) (start : Location) : List (List String) → Disk × Except Fault Unit
  | [] => (d, .ok ())
  | names :: rest =>
    match d.createDir start names with
    | .ok d => d.createEach start rest
    | .error f =>
      if f = .alreadyExists && d.leadsToDir start names then d.createEach start rest
      else (d, .error f)

/-- Looks from a path up through the ones that hold it for one that can be created or is there, and
then creates the others from there down.  `below` are those passed so far, the lowest last. -/
def createUpwards (d : Disk) (start : Location) :
    List (List String) → List (List String) → Disk × Except Fault Unit
  | [], below => d.createEach start below
  | names :: above, below =>
    match d.createDir start names with
    | .ok d => d.createEach start below
    | .error f =>
      if f = .notFound then d.createUpwards start above (names :: below)
      else if f = .alreadyExists && d.leadsToDir start names then d.createEach start below
      else (d, .error f)

/-- The proper beginnings of a list of names, the longest first and the empty one left out. -/
def beginnings (names : List String) : List (List String) :=
  ((List.range names.length).filter (0 < ·)).reverse.map names.take

/-- Creates a directory and the ones that hold it, as far as they are missing.  A refusal leaves
what was created before it. -/
def createDirs (d : Disk) (p : Path) : Disk × Except Fault Unit :=
  if p.text.isEmpty then (d, .ok ())
  else match checkPath p with
    | .error f => (d, .error f)
    | .ok () => d.createUpwards (d.start p) (p.parts :: beginnings p.components) []

/-- Gives a file new content, creating it where it is missing. -/
def write (d : Disk) (p : Path) (content : Bytes) : Except Fault Disk := do
  checkPath p
  match ← d.resolve (d.start p) p.parts with
  | .self => .error .isDirectory
  | .named place =>
    match d.get? place with
    | some .directory => .error .isDirectory
    | some (.file _) =>
      if p.endsWithSlash then .error .notDirectory else .ok (d.set place (.file content))
    | none => if p.endsWithSlash then .error .isDirectory else .ok (d.set place (.file content))

end Disk

end TraceArchive
