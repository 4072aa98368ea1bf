import TraceArchive.Surroundings
/-!
Surroundings held as a value: a `World` has a disk, a node that answers by a function, the log that
was written and the stream that is printed to.  A run in a world is a function from worlds to
worlds; what a stream does with a text is left to its `Sink`.
-/

namespace TraceArchive

/-- A node: what it answers to each request, by the number of requests it received before and the
request itself. -/
structure Node where
  answer : Nat → Rpc.Request → Delivery
  /-- Whether an endpoint leads to this node. -/
  serves : String → Bool
  received : List Rpc.Request := []

namespace Node

/-- Sends a request to an endpoint.  A request that is refused a connection is not received. -/
def send (n : Node) (endpoint : String) (request : Rpc.Request) : Delivery × Node :=
  if n.serves endpoint then
    match n.answer n.received.length request with
    | .refused => (.refused, n)
    | delivery => (delivery, { n with received := n.received ++ [request] })
  else (.refused, n)

/-- A node that nobody reaches. -/
def unreachable : Node :=
  ⟨fun _ _ => .refused, fun _ => false, []⟩

end Node

/-- A stream by what it says to a text, that it took it or why it did not, and what it is then. -/
abbrev Sink (σ : Type) :=
  σ → Bytes → Except PrintFault Unit × σ

/-- A stream by what it took and how much more it takes. -/
structure Printer where
  taken : Bytes := []
  /-- The number of bytes it still takes; any number where there is none. -/
  room : Option Nat := none
  /-- What it says when it takes no more. -/
  fault : PrintFault := .system .noSpace

/-- Prints a text as far as it is taken. -/
def Printer.print (p : Printer) (text : Bytes) : Except PrintFault Unit × Printer :=
  match p.room with
  | none => (.ok (), { p with taken := p.taken ++ text })
  | some room =>
    let left := { p with taken := p.taken ++ text.take room, room := some (room - text.length) }
    if text.length ≤ room then (.ok (), left) else (.error p.fault, left)

structure World (σ : Type := Printer) where
  disk : Disk := {}
  node : Node := .unreachable
  /-- The number of requests made. -/
  sent : Nat := 0
  log : List Log.Record := []
  /-- The stream that results are printed to. -/
  printer : σ := by exact {}

/-- A run in a world, whose stream does as the sink says.  It may end before its time with a reason.
-/
def Piped {σ : Type} (_sink : Sink σ) (α : Type) : Type :=
  World σ → Except String α × World σ

namespace Piped

variable {σ : Type} {sink : Sink σ}

/-- What a run comes to in a world. -/
def runIn (t : Piped sink α) (w : World σ) : Except String α × World σ :=
  t w

instance : Monad (Piped sink) where
  pure a := fun w => (.ok a, w)
  bind t k := fun w =>
    match t w with
    | (.ok a, w) => k a w
    | (.error reason, w) => (.error reason, w)

/-- A step that never ends the run. -/
def step (f : World σ → α × World σ) : Piped sink α :=
  fun w => let (a, w) := f w; (.ok a, w)

instance : Surroundings (Piped sink) where
  nextId := step fun w => (w.sent, { w with sent := w.sent + 1 })
  send endpoint request := step fun w =>
    let (delivery, node) := w.node.send endpoint request
    (delivery, { w with node := node })
  note record := step fun w => ((), { w with log := w.log ++ [record] })
  readFile path := step fun w => (w.disk.read path, w)
  createDirs path := step fun w =>
    let (disk, result) := w.disk.createDirs path
    (result, { w with disk := disk })
  writeFile path content := step fun w =>
    match w.disk.write path content with
    | .ok disk => (.ok (), { w with disk := disk })
    | .error fault => (.error fault, w)
  print text := step fun w =>
    let (result, printer) := sink w.printer text
    (result, { w with printer := printer })
  abort reason := fun w => (.error reason, w)

end Piped

/-- A run that prints to a `Printer`. -/
abbrev Trial :=
  Piped Printer.print

end TraceArchive
