import TraceArchive.Fetch.Reading
/-!
How frames gather around an error.  An error is `Reachable` if it was plain and had its frames noted
one after the other.  Such an error has all its frames in one list, however many were noted, and its
message shows them all; the error that they were noted for stays its origin.
-/

namespace TraceArchive

namespace Framed

variable {ε φ : Type}

/-- The errors that come about: those without a frame, and what noting a frame makes of them. -/
inductive Reachable : Framed ε φ → Prop
  | plain (error : ε) : Reachable (.plain error)
  | push {e : Framed ε φ} (frame : φ) (h : Reachable e) : Reachable (e.push frame)

/-- An error with further frames noted, the first of them first. -/
def within (e : Framed ε φ) (frames : List φ) : Framed ε φ :=
  frames.foldl (fun e frame => e.push frame) e

/-- The errors with at most one list of frames, which is not empty. -/
inductive Merged : Framed ε φ → Prop
  | plain (error : ε) : Merged (.plain error)
  | stacked (error : ε) {frames : List φ} (hsome : frames ≠ []) :
      Merged (.stacked (.plain error) frames)

/-- The second error is the first, or stands within it. -/
inductive Holds : Framed ε φ → Framed ε φ → Prop
  | itself (e : Framed ε φ) : Holds e e
  | inner {e e' : Framed ε φ} (frames : List φ) (h : Holds e e') : Holds (.stacked e frames) e'

/-! ## Noting frames -/

theorem frames_push (e : Framed ε φ) (frame : φ) : (e.push frame).frames = e.frames ++ [frame] := by
  cases e <;> rfl

theorem origin_push (e : Framed ε φ) (frame : φ) : (e.push frame).origin = e.origin := by
  cases e <;> rfl

theorem Merged.push {e : Framed ε φ} (h : e.Merged) (frame : φ) : (e.push frame).Merged := by
  cases h with
  | plain error => exact .stacked error (List.cons_ne_nil frame [])
  | stacked error hsome => exact .stacked error (List.append_ne_nil_of_left_ne_nil hsome [frame])

theorem frames_within (e : Framed ε φ) (frames : List φ) :
    (e.within frames).frames = e.frames ++ frames := by
  induction frames generalizing e with
  | nil => exact (List.append_nil e.frames).symm
  | cons frame frames ih =>
      calc ((e.push frame).within frames).frames
          = (e.push frame).frames ++ frames := ih (e.push frame)
        _ = e.frames ++ frame :: frames := by
            rw [frames_push, List.append_assoc, List.singleton_append]

theorem origin_within (e : Framed ε φ) (frames : List φ) :
    (e.within frames).origin = e.origin := by
  induction frames generalizing e with
  | nil => rfl
  | cons frame frames ih => exact (ih (e.push frame)).trans (e.origin_push frame)

theorem Reachable.within {e : Framed ε φ} (h : e.Reachable) (frames : List φ) :
    (e.within frames).Reachable := by
  induction frames generalizing e with
  | nil => exact h
  | cons frame frames ih => exact ih (h.push frame)

/-- Noting a frame merges it into the frames that are there, so none is ever put around others. -/
theorem Reachable.merged {e : Framed ε φ} (h : e.Reachable) : e.Merged := by
  induction h with
  | plain error => exact .plain error
  | push frame _ ih => exact ih.push frame

/-- The message of an error whose frames are in one list shows the origin and all of them. -/
theorem Merged.message [Shown ε] [Shown φ] {e : Framed ε φ} (h : e.Merged) :
    (e.frames = [] → e.message = shown e.origin) ∧
      (e.frames ≠ [] → e.message =
        shown e.origin ++ " (at " ++ Text.listed (e.frames.map shown) ++ ")") := by
  cases h with
  | plain error => exact ⟨fun _ => rfl, fun hsome => absurd rfl hsome⟩
  | stacked error hsome => exact ⟨fun hnone => absurd hnone hsome, fun _ => rfl⟩

/-! ## Origins -/

/-- The origin stands within an error without a frame of its own. -/
theorem holds_origin (e : Framed ε φ) : e.Holds (.plain e.origin) := by
  induction e with
  | plain error => exact .itself _
  | stacked inner frames ih => exact ih.inner frames

/-- All that stands within an error has the same origin. -/
theorem Holds.origin_eq {e e' : Framed ε φ} (h : e.Holds e') : e'.origin = e.origin := by
  induction h with
  | itself e => rfl
  | inner frames _ ih => exact ih

/-- What becomes of an error when further frames are noted. -/
structure Noted [Shown ε] [Shown φ] (e : Framed ε φ) (more : List φ) (e' : Framed ε φ) : Prop where
  frames : e'.frames = e.frames ++ more
  origin : e'.origin = e.origin
  merged : e'.Merged
  message_plain : e.frames ++ more = [] → e'.message = shown e.origin
  message_framed : e.frames ++ more ≠ [] → e'.message =
    shown e.origin ++ " (at " ++ Text.listed ((e.frames ++ more).map shown) ++ ")"

theorem Reachable.noted [Shown ε] [Shown φ] {e : Framed ε φ} (h : e.Reachable) (more : List φ) :
    e.Noted more (e.within more) := by
  have hmerged := (h.within more).merged
  have hmessage := hmerged.message
  rw [frames_within, origin_within] at hmessage
  exact ⟨e.frames_within more, e.origin_within more, hmerged, hmessage.1, hmessage.2⟩

/-- What an error comes from, whatever frames stand in it: the one error without a frame that it
holds, which is its own origin. -/
structure ComesFrom (e : Framed ε φ) (error : ε) : Prop where
  held : e.Holds (.plain error)
  own : (plain error : Framed ε φ).origin = error
  only : ∀ other, e.Holds (.plain other) → other = error

theorem comesFrom_origin (e : Framed ε φ) : e.ComesFrom e.origin :=
  ⟨e.holds_origin, rfl, fun _ h => h.origin_eq⟩

end Framed

theorem Client.isRefusal_within (e : Client.Error) (frames : List Client.Frame) :
    Client.isRefusal (e.within frames) = Client.isRefusal e := by
  simp only [Client.isRefusal, Framed.origin_within]

/-- Errors of a client and of a fetch take up frames in order, into one list around the error that
they came from; and whether that is a refusal does not depend on frames. -/
theorem errors_take_frames :
    (∀ e : Client.Error, e.Reachable → ∀ frames, e.Noted frames (e.within frames)) ∧
    (∀ e : Fetch.Error, e.Reachable → ∀ frames, e.Noted frames (e.within frames)) ∧
    (∀ e : Client.Error, e.ComesFrom e.origin) ∧
    (∀ e : Fetch.Error, e.ComesFrom e.origin) ∧
    ∀ (e : Client.Error) (frames : List Client.Frame),
      Client.isRefusal (e.within frames) = Client.isRefusal e :=
  ⟨fun _ h => h.noted, fun _ h => h.noted, fun e => e.comesFrom_origin,
    fun e => e.comesFrom_origin, Client.isRefusal_within⟩

/-- A fetch that failed in a call of its client, with two frames noted around that. -/
theorem errors_take_frames_client :
    ∃ e : Fetch.Error, e.Reachable ∧
      (e.within [.writeOutput ⟨"a"⟩, .writeOutput ⟨"b"⟩]).frames =
        [.writeOutput ⟨"a"⟩, .writeOutput ⟨"b"⟩] ∧
      (e.within [.writeOutput ⟨"a"⟩, .writeOutput ⟨"b"⟩]).message =
        "Eth(Stack \x7b origin: Rpc(NullResp), stack: [OnGetBlock \x7b number: \"0x1\" \x7d] \x7d)"
          ++ " (at [OnWriteOutput \x7b path: \"a\" \x7d, OnWriteOutput \x7b path: \"b\" \x7d])" := by
  obtain ⟨e, he⟩ : ∃ e : Fetch.Error,
      e = .plain (.client (Framed.push (.getBlock "0x1") (.plain (.rpc .emptyReply)))) := ⟨_, rfl⟩
  have hreachable : e.Reachable := he ▸ .plain _
  have hframes : e.frames = [] := he ▸ rfl
  obtain ⟨hwithin, _, _, _, hmessage⟩ := errors_take_frames.2.1 e hreachable
    [.writeOutput ⟨"a"⟩, .writeOutput ⟨"b"⟩]
  rw [hframes, List.nil_append] at hwithin hmessage
  refine ⟨e, hreachable, hwithin, (hmessage (List.cons_ne_nil _ _)).trans ?_⟩
  rw [he]
  decide +kernel

end TraceArchive
