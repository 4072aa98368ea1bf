import TraceArchive.Proofs.Fetch.Exchanges
import TraceArchive.Proofs.Json.Spaced
/-!
The stream of what a run prints.  Each outcome adds its text and a line break, and an error adds
nothing.  The text of an entry is what its file holds.  As a text of JSON shows where it ends, the
stream can be cut into the texts that it was put together from.
-/

namespace TraceArchive

open Fetch (Error)

/-- A node that knows one transaction, has no traces of another and nothing more. -/
def Node.knowingOne : Node :=
  .replaying (Delivery.known "0x5" ++ [.reply 200 (Utf8.ofString "\x7b\"result\":null\x7d")])

theorem Node.knowingOne_noBatch : Node.knowingOne.NoBatch :=
  replaying_noBatch (by decide +kernel)

namespace Fetcher

variable {f : Fetcher} {hash : String} {hashes : List String} {w w' : World}
variable {result : Except Error Outcome}

theorem printedContent_eq (o : Outcome) : printedContent o = o.rendered ++ [0x0A] := by
  rw [printedContent, Utf8.encode_append, Outcome.rendered]
  rfl

/-! ## Cutting the stream -/

/-- A stream that goes on from an outcome shows the outcome's text and how it goes on. -/
theorem rendered_append_inj {o o' : Outcome} {s s' : Bytes}
    (h : o.rendered ++ 0x0A :: s = o'.rendered ++ 0x0A :: s') :
    o.rendered = o'.rendered ∧ s = s' := by
  have hends : ∀ s, Json.EndsNumber (0x0A :: s) := by
    rintro s b ⟨⟩
    decide
  obtain ⟨hvalue, hrest⟩ :=
    Json.print_append_inj Json.Layout.pretty_blank (hends s) (hends s') h
  exact ⟨congrArg (fun v => Utf8.encode (Json.Value.pretty v)) hvalue,
    List.tail_eq_of_cons_eq hrest⟩

/-- The texts of outcomes in order, with a line break behind each. -/
def stream (os : List Outcome) : Bytes :=
  os.flatMap fun o => o.rendered ++ [0x0A]

theorem stream_cons (o : Outcome) (os : List Outcome) :
    stream (o :: os) = o.rendered ++ 0x0A :: stream os := by
  rw [stream, List.flatMap_cons, List.append_assoc, List.singleton_append]
  rfl

theorem stream_ne_nil (o : Outcome) (os : List Outcome) : stream (o :: os) ≠ [] := by
  rw [stream_cons]
  exact List.append_ne_nil_of_right_ne_nil _ (List.cons_ne_nil _ _)

/-- A stream determines the texts in it. -/
theorem stream_inj {os os' : List Outcome} (h : stream os = stream os') :
    os.map Outcome.rendered = os'.map Outcome.rendered := by
  induction os generalizing os' with
  | nil =>
      cases os' with
      | nil => rfl
      | cons o os => exact absurd h.symm (stream_ne_nil o os)
  | cons o os ih =>
      cases os' with
      | nil => exact absurd h (stream_ne_nil o os)
      | cons o' os' =>
          rw [stream_cons, stream_cons] at h
          obtain ⟨htext, hrest⟩ := rendered_append_inj h
          rw [List.map_cons, List.map_cons, htext, ih hrest]

/-! ## What a run prints -/

/-- The outcomes among results, in order. -/
def outcomes (results : List (String × Except String (Except Error Outcome))) : List Outcome :=
  results.filterMap fun r => r.2.toOption.bind Except.toOption

theorem outcomes_cons (hash : String) (result : Except Error Outcome)
    (results : List (String × Except String (Except Error Outcome))) :
    outcomes ((hash, .ok result) :: results) = result.toOption.toList ++ outcomes results := by
  rw [outcomes, List.filterMap_cons]
  cases result with
  | error e => rfl
  | ok o => rfl

/-- A stream without a limit takes what is printed of a result. -/
theorem print_verdict {p : Printer} (h : p.room = none) (outcome : Option Outcome) :
    (verdict Printer.print true outcome p).2 =
      { p with taken := p.taken ++ stream outcome.toList } := by
  cases outcome with
  | none =>
      change p = { p with taken := p.taken ++ [] }
      rw [List.append_nil]
  | some o =>
      rw [verdict, Printer.print_of_room_none h, printedContent_eq]
      simp [stream]

theorem stream_append (os os' : List Outcome) : stream (os ++ os') = stream os ++ stream os' :=
  List.flatMap_append

/-- A run that prints to a stream without a limit adds the stream of its outcomes. -/
theorem exists_printed (hnode : w.node.NoBatch) (hroom : w.printer.room = none)
    (f : Fetcher) (hashes : List String) :
    ∃ all w', (f.fetchAll true hashes : Trial Bool).runIn w = (.ok all, w') ∧
      w'.printer.taken = w.printer.taken ++ stream (outcomes (f.results true hashes w)) := by
  induction hashes generalizing w with
  | nil => exact ⟨true, w, runIn_fetchAll_nil, (List.append_nil _).symm⟩
  | cons hash hashes ih =>
      obtain ⟨result, u, hexit⟩ := exists_exit hnode f hash
      have heach : (f.fetchEach true hash : Trial Bool).runIn w = _ :=
        runIn_fetchEach hexit.run true
      rw [hexit.printer] at heach
      have hstream := print_verdict hroom result.toOption
      obtain ⟨others, w', hrun, htaken⟩ := ih (w := u.concluded _ _) (hexit.noBatch hnode)
        (verdict_of_room_none hroom).2
      refine ⟨_, w', runIn_fetchAll_cons.mpr ⟨_, _, others, heach, hrun, rfl⟩, ?_⟩
      rw [results_cons hexit.run heach, outcomes_cons, stream_append, htaken, ← List.append_assoc]
      exact congrArg (Printer.taken · ++ _) hstream

/-- A run that prints to a stream without a limit prints, in the order of the hashes, the text of
each outcome that a fetch came to, with a line break behind it.  For an entry that is what the fetch
has just written to the entry's file.  And two lists of outcomes have different streams unless they
have the same texts. -/
theorem fetchAll_prints (f : Fetcher) (hashes : List String) (hnode : w.node.NoBatch)
    (hroom : w.printer.room = none) :
    (∃ all w', (f.fetchAll true hashes : Trial Bool).runIn w = (.ok all, w') ∧
      (f.results true hashes w).map Prod.fst = hashes ∧
      w'.printer.taken = w.printer.taken ++ stream (outcomes (f.results true hashes w))) ∧
    (∀ hash u e u',
      (f.fetch hash : Trial (Except Error Outcome)).runIn u = (.ok (.ok (.found e)), u') →
      ∃ content, u'.disk.read (f.outputPath hash) = .ok content ∧
        stream [.found e] = content ++ [0x0A]) ∧
    ∀ os os', stream os = stream os' → os.map Outcome.rendered = os'.map Outcome.rendered := by
  refine ⟨?_, ?_, fun os os' => stream_inj⟩
  · obtain ⟨all, w', hrun, htaken⟩ := exists_printed hnode hroom f hashes
    exact ⟨all, w', hrun, map_fst_results f true hashes w, htaken⟩
  · intro hash u e u' hrun
    obtain ⟨rfl, hrecorded⟩ := (runIn_fetch_eq_ok.mp hrun).recorded
    exact ⟨_, hrecorded.stored.content, stream_cons _ _⟩

/-- A run over a transaction that the node knows, one that it has no traces of and one that
connections are dropped for: the first two are printed. -/
theorem fetchAll_prints_two :
    Node.knowingOne.NoBatch ∧ ({ node := .knowingOne : World }).printer.room = none ∧
    ∃ all w', (Fetcher.fetchAll ⟨⟨"http://node"⟩, ⟨"out"⟩⟩ true ["0x7", "0x8", "0x9"] :
        Trial Bool).runIn { node := .knowingOne } = (.ok all, w') ∧
      w'.printer.taken = stream (outcomes (results ⟨⟨"http://node"⟩, ⟨"out"⟩⟩ true
        ["0x7", "0x8", "0x9"] { node := .knowingOne })) ∧
      (outcomes (results ⟨⟨"http://node"⟩, ⟨"out"⟩⟩ true
        ["0x7", "0x8", "0x9"] { node := .knowingOne })).map Outcome.foundHash? =
          [some "0x7", none] := by
  obtain ⟨⟨all, w', hrun, _, htaken⟩, _⟩ := fetchAll_prints (w := { node := .knowingOne })
    ⟨⟨"http://node"⟩, ⟨"out"⟩⟩ ["0x7", "0x8", "0x9"] Node.knowingOne_noBatch rfl
  exact ⟨Node.knowingOne_noBatch, rfl, all, w', hrun, htaken.trans (List.nil_append _),
    by decide +kernel⟩

end Fetcher

end TraceArchive
