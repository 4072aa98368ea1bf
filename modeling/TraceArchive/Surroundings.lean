import TraceArchive.Disk.Tree
import TraceArchive.Log.Record
import TraceArchive.Rpc.Request
/-!
What a run asks of its surroundings: a node that answers requests, a disk, a log, and a stream that
results are printed to.
-/

namespace TraceArchive

/-- What comes of sending a request. -/
inductive Delivery where
  /-- No connection came about; the node has not seen the request. -/
  | refused
  /-- The node has the request and closed the connection without a reply. -/
  | dropped
  | reply (status : Nat) (body : Bytes)

/-- Why a stream did not take what was printed. -/
inductive PrintFault where
  | system (fault : Disk.Fault)
  /-- The stream takes nothing more and does not say why. -/
  | tookNothing

def PrintFault.words : PrintFault → String
  | .system fault => fault.words
  | .tookNothing => "failed to write whole buffer"

/-- A monad in which a run can act. -/
class Surroundings (m : Type → Type) extends Monad m where
  /-- A number that no earlier request of the run has. -/
  nextId : m Nat
  send (endpoint : String) (request : Rpc.Request) : m Delivery
  note (record : Log.Record) : m Unit
  readFile (path : Path) : m (Except Disk.Fault Bytes)
  createDirs (path : Path) : m (Except Disk.Fault Unit)
  writeFile (path : Path) (content : Bytes) : m (Except Disk.Fault Unit)
  print (text : Bytes) : m (Except PrintFault Unit)
  /-- Ends the run at once. -/
  abort {α : Type} (reason : String) : m α

namespace Surroundings

variable {m : Type → Type} [Surroundings m]

def error (target message : String) : m Unit :=
  note ⟨.error, target, message⟩

def warn (target message : String) : m Unit :=
  note ⟨.warn, target, message⟩

def info (target message : String) : m Unit :=
  note ⟨.info, target, message⟩

def debug (target message : String) : m Unit :=
  note ⟨.debug, target, message⟩

end Surroundings

end TraceArchive
