import TraceArchive.Disk.Tree
import TraceArchive.Json.Record
/-!
Settings: the node to ask and the directory to write to.  They have defaults, a JSON form in which
each may be left out, and overrides.
-/

namespace TraceArchive

structure Settings where
  endpoint : String
  outputDir : Path

namespace Settings

def defaultEndpoint : String :=
  "http://localhost:8545"

def defaultOutputDir : Path :=
  ⟨"."⟩

def standard : Settings :=
  ⟨defaultEndpoint, defaultOutputDir⟩

/-- The settings a text gives, as far as it gives them. -/
structure Draft where
  endpoint : Option String := none
  outputDir : Option Path := none

def endpointField : Json.Member Draft :=
  .text "endpoint" "a string" (·.endpoint) fun d text => { d with endpoint := some text }

def outputDirField : Json.Member Draft :=
  .text "output_dir" "path string" (·.outputDir.map Path.text) fun d text =>
    { d with outputDir := some ⟨text⟩ }

def shape : Json.Shape Draft Settings where
  title := "struct Config"
  fields := [endpointField, outputDirField]
  blank := {}
  finish d := .ok ⟨d.endpoint.getD defaultEndpoint, d.outputDir.getD defaultOutputDir⟩
  exactLength := none

/-- Why settings could not be read. -/
inductive Fault where
  | disk (fault : Disk.Fault)
  | json (error : Json.Error)

def Fault.display : Fault → String
  | .disk f => f.display
  | .json e => e.display

def parse (text : Bytes) : Except Fault Settings :=
  match shape.parse text with
  | .ok settings => .ok settings
  | .error e => .error (.json e)

/-- Settings from a file whose content was asked for. -/
def ofContent : Except Disk.Fault Bytes → Except Fault Settings
  | .ok text => parse text
  | .error f => .error (.disk f)

/-- Puts the given values in place of the present ones. -/
def withOverrides (s : Settings) (endpoint : Option String) (outputDir : Option Path) : Settings :=
  ⟨endpoint.getD s.endpoint, outputDir.getD s.outputDir⟩

/-- Equality of settings, directories compared as paths. -/
def same (a b : Settings) : Bool :=
  a.endpoint == b.endpoint && a.outputDir.same b.outputDir

end Settings

end TraceArchive
