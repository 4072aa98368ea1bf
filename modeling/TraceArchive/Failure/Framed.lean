import TraceArchive.Text.Quoted
/-!
Errors with frames: an error, and around it the things that were being done when it arose, the
innermost first.  `push` adds a frame to the outermost list of frames; `origin` is the error itself,
however it is wrapped.
-/

namespace TraceArchive

/-- The text by which messages show a value. -/
class Shown (α : Type) where
  shown : α → String

export Shown (shown)

/-- An error of type `ε` within frames of type `φ`. -/
inductive Framed (ε φ : Type) where
  | plain (error : ε)
  | stacked (inner : Framed ε φ) (frames : List φ)

namespace Framed

/-- The innermost error, without any frame. -/
def origin : Framed ε φ → ε
  | plain e => e
  | stacked inner _ => inner.origin

/-- The frames of the outermost stack, innermost first. -/
def frames : Framed ε φ → List φ
  | plain _ => []
  | stacked _ fs => fs

/-- Adds what was being done around everything noted so far. -/
def push (frame : φ) : Framed ε φ → Framed ε φ
  | plain e => stacked (plain e) [frame]
  | stacked inner fs => stacked inner (fs ++ [frame])

/-- The structure of a framed error in full. -/
def structureText [Shown ε] [Shown φ] : Framed ε φ → String
  | plain e => shown e
  | stacked inner fs =>
    Text.fields "Stack" [("origin", inner.structureText), ("stack", Text.listed (fs.map shown))]

instance [Shown ε] [Shown φ] : Shown (Framed ε φ) :=
  ⟨structureText⟩

/-- A framed error as a message: what it is, and where it arose if that was noted. -/
def message [Shown ε] [Shown φ] : Framed ε φ → String
  | plain e => shown e
  | stacked inner fs => shown inner ++ " (at " ++ Text.listed (fs.map shown) ++ ")"

end Framed

end TraceArchive
