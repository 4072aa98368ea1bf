import TraceArchive.Proofs.Client.Calls
import TraceArchive.Proofs.Fetch.Store
/-!
The exits of a fetch.  `Exit` lists the ways in which the fetch of a hash can come to an end, each
with its condition, its result and the world that it leaves.  A fetch that gives a result takes one
of them, and a fetch gives no result only where a batch is delivered.
-/

namespace TraceArchive

open Json (Value)
open Fetch (Fault Error)

namespace Fetcher

variable {σ : Type} {sink : Sink σ} {f : Fetcher} {hash : String} {w w' : World σ}
variable {result : Except Error Outcome}

/-- What the request for traces comes to; nothing where a batch is delivered. -/
def tracesAnswer (f : Fetcher) (hash : String) (w : World σ) :
    Option (Except Rpc.Fault (Option (List Value))) :=
  Client.answerOf Rpc.Wanted.values.orNull (f.client.tracesReply w hash)

/-- What comes of the request for a block that follows the one for traces. -/
def blockReply (f : Fetcher) (hash number : String) (w : World σ) : Delivery :=
  f.client.blockReply (f.client.tracesAsked w hash) number

/-- What the request for a block comes to; nothing where a batch is delivered. -/
def blockAnswer (f : Fetcher) (hash number : String) (w : World σ) :
    Option (Except Rpc.Fault (Option Value)) :=
  Client.answerOf Rpc.Wanted.any.orNull (f.blockReply hash number w)

/-- The world after both requests. -/
def blockAsked (f : Fetcher) (hash number : String) (w : World σ) : World σ :=
  f.client.blockAsked (f.client.tracesAsked w hash) number

/-- The node has traces, and the first of them gives a block number. -/
def HasNumber (f : Fetcher) (hash : String) (w : World σ) (traces : List Value) (number : String) :
    Prop :=
  f.tracesAnswer hash w = some (.ok (some traces)) ∧ blockNumberOf traces = .ok number

/-- The error of a call that came to a fault. -/
def callError (frame : Client.Frame) (fault : Rpc.Fault) : Client.Error :=
  .stacked (.plain (.rpc fault)) [frame]

/-- The ways in which the fetch of a hash comes to an end. -/
inductive Exit (f : Fetcher) (hash : String) (w : World σ) : Except Error Outcome → World σ → Prop
  | noTraces {answer : Option (List Value)} (htraces : f.tracesAnswer hash w = some (.ok answer))
      (hnone : answer = none ∨ answer = some []) :
      Exit f hash w (.ok (.notFound .standard))
        ((f.client.tracesAsked w hash).noted ⟨.warn, target, about hash "no traces returned"⟩)
  | refused {object : Rpc.ErrorObject}
      (htraces : f.tracesAnswer hash w = some (.error (.refused object))) :
      Exit f hash w (.ok (.notFound .standard))
        ((f.client.tracesAsked w hash).noted ⟨.warn, target, about hash
          ("node rejected trace_transaction: "
            ++ (callError (.traceTransaction hash) (.refused object)).message)⟩)
  | tracesFault {fault : Rpc.Fault} (htraces : f.tracesAnswer hash w = some (.error fault))
      (hfault : ∀ object, fault ≠ .refused object) :
      Exit f hash w (.error (.plain (.client (callError (.traceTransaction hash) fault))))
        (f.client.tracesAsked w hash)
  | noNumber {traces : List Value} {fault : Fault}
      (htraces : f.tracesAnswer hash w = some (.ok (some traces))) (hsome : traces ≠ [])
      (hnumber : blockNumberOf traces = .error fault) :
      Exit f hash w (.error (.plain fault)) (f.client.tracesAsked w hash)
  | blockFault {traces : List Value} {number : String} {fault : Rpc.Fault}
      (hnumber : f.HasNumber hash w traces number)
      (hblock : f.blockAnswer hash number w = some (.error fault)) :
      Exit f hash w (.error (.plain (.client (callError (.getBlock number) fault))))
        (f.blockAsked hash number w)
  | noBlock {traces : List Value} {number : String} (hnumber : f.HasNumber hash w traces number)
      (hblock : f.blockAnswer hash number w = some (.ok none)) :
      Exit f hash w (.error (.plain (.blockNotFound number))) (f.blockAsked hash number w)
  | noTimestamp {traces : List Value} {number : String} {block : Value} {fault : Fault}
      (hnumber : f.HasNumber hash w traces number)
      (hblock : f.blockAnswer hash number w = some (.ok (some block)))
      (htime : timestampOf block number = .error fault) :
      Exit f hash w (.error (.plain fault)) (f.blockAsked hash number w)
  | notStored {traces : List Value} {number : String} {block : Value} {seconds : UInt64}
      {later : Disk} {fault : Disk.Fault} (hnumber : f.HasNumber hash w traces number)
      (hblock : f.blockAnswer hash number w = some (.ok (some block)))
      (htime : timestampOf block number = .ok seconds)
      (hstore : f.store ⟨hash, number, seconds, traces⟩ w.disk = (later, .error fault)) :
      Exit f hash w (.error (f.storeError hash fault))
        ((f.blockAsked hash number w).withDisk later)
  | found {traces : List Value} {number : String} {block : Value} {seconds : UInt64}
      {later : Disk} (hnumber : f.HasNumber hash w traces number)
      (hblock : f.blockAnswer hash number w = some (.ok (some block)))
      (htime : timestampOf block number = .ok seconds)
      (hstore : f.store ⟨hash, number, seconds, traces⟩ w.disk = (later, .ok ())) :
      Exit f hash w (.ok (.found ⟨hash, number, seconds, traces⟩))
        (((f.blockAsked hash number w).withDisk later).noted ⟨.info, target,
          about hash (writtenText ⟨hash, number, seconds, traces⟩ (f.outputPath hash))⟩)

/-! ## Runs of the parts -/

theorem runIn_record (f : Fetcher) (e : Entry) (w : World σ) :
    (f.record e : Piped sink (Except Error Outcome)).runIn w =
      match f.store e w.disk with
      | (later, .ok ()) => (.ok (.ok (.found e)), (w.withDisk later).noted
          ⟨.info, target, about e.hash (writtenText e (f.outputPath e.hash))⟩)
      | (later, .error fault) => (.ok (.error (f.storeError e.hash fault)), w.withDisk later) := by
  rw [record, Piped.runIn_bind, runIn_write]
  cases f.store e w.disk with
  | mk later stored =>
      cases stored with
      | error fault => rfl
      | ok u => rfl

theorem isRefusal_callError {frame : Client.Frame} {fault : Rpc.Fault} :
    Client.isRefusal (callError frame fault) = true ↔ ∃ object, fault = .refused object := by
  cases fault <;> simp [Client.isRefusal, callError, Framed.origin]

theorem ne_nil_of_blockNumberOf {traces : List Value} {number : String}
    (h : blockNumberOf traces = .ok number) : traces ≠ [] := by
  rintro rfl
  cases h

/-- The fetch of traces that are found goes on with them. -/
theorem runIn_fetch_of_traces {traces : List Value}
    (htraces : f.tracesAnswer hash w = some (.ok (some traces))) (hsome : traces ≠ []) :
    (f.fetch hash : Piped sink (Except Error Outcome)).runIn w =
      (f.complete hash traces : Piped sink (Except Error Outcome)).runIn
        (f.client.tracesAsked w hash) := by
  rw [tracesAnswer] at htraces
  cases traces with
  | nil => exact absurd rfl hsome
  | cons first rest =>
      rw [fetch, Piped.runIn_bind, Client.runIn_traceTransaction, htraces]
      rfl

/-- From a block number on, a fetch asks for the block and looks at what comes of it. -/
theorem runIn_complete_of_answer {traces : List Value} {number : String}
    {answer : Except Rpc.Fault (Option Value)} (hnumber : blockNumberOf traces = .ok number)
    (hblock : f.blockAnswer hash number w = some answer) :
    (f.complete hash traces : Piped sink (Except Error Outcome)).runIn
        (f.client.tracesAsked w hash) =
      (match answer with
        | .error fault => pure (.error (.plain (.client (callError (.getBlock number) fault))))
        | .ok none => pure (.error (.plain (.blockNotFound number)))
        | .ok (some block) =>
          match timestampOf block number with
          | .error fault => pure (.error (.plain fault))
          | .ok seconds => f.record ⟨hash, number, seconds, traces⟩ :
        Piped sink (Except Error Outcome)).runIn (f.blockAsked hash number w) := by
  rw [blockAnswer, blockReply] at hblock
  rw [complete, hnumber]
  simp only
  rw [Piped.runIn_bind, Client.runIn_blockByNumber, hblock]
  cases answer with
  | error fault => rfl
  | ok block =>
      cases block with
      | none => rfl
      | some block => rfl

theorem disk_blockAsked (f : Fetcher) (hash number : String) (w : World σ) :
    (f.blockAsked hash number w).disk = w.disk :=
  rfl

theorem HasNumber.runIn_fetch {traces : List Value} {number : String}
    (h : f.HasNumber hash w traces number) :
    (f.fetch hash : Piped sink (Except Error Outcome)).runIn w =
      (f.complete hash traces : Piped sink (Except Error Outcome)).runIn
        (f.client.tracesAsked w hash) :=
  runIn_fetch_of_traces h.1 (ne_nil_of_blockNumberOf h.2)

/-- With a time for its block a fetch records the entry. -/
theorem HasNumber.runIn_fetch_record {traces : List Value} {number : String} {block : Value}
    {seconds : UInt64} (h : f.HasNumber hash w traces number)
    (hblock : f.blockAnswer hash number w = some (.ok (some block)))
    (htime : timestampOf block number = .ok seconds) :
    (f.fetch hash : Piped sink (Except Error Outcome)).runIn w =
      (f.record ⟨hash, number, seconds, traces⟩ : Piped sink (Except Error Outcome)).runIn
        (f.blockAsked hash number w) := by
  rw [h.runIn_fetch, runIn_complete_of_answer h.2 hblock]
  simp only [htime]

/-! ## Runs and exits -/

theorem Exit.run (h : f.Exit hash w result w') :
    (f.fetch hash : Piped sink (Except Error Outcome)).runIn w = (.ok result, w') := by
  cases h with
  | noTraces htraces hnone =>
      rw [tracesAnswer] at htraces
      rw [fetch, Piped.runIn_bind, Client.runIn_traceTransaction, htraces]
      rcases hnone with rfl | rfl
      · rfl
      · rfl
  | refused htraces =>
      rw [tracesAnswer] at htraces
      rw [fetch, Piped.runIn_bind, Client.runIn_traceTransaction, htraces]
      rfl
  | @tracesFault fault htraces hfault =>
      have hrefusal : Client.isRefusal (callError (.traceTransaction hash) fault) = false := by
        rw [Bool.eq_false_iff, ne_eq, isRefusal_callError]
        rintro ⟨object, hobject⟩
        exact hfault object hobject
      rw [tracesAnswer] at htraces
      rw [fetch, Piped.runIn_bind, Client.runIn_traceTransaction, htraces]
      change (if Client.isRefusal (callError (.traceTransaction hash) fault) then _
        else pure _ : Piped sink (Except Error Outcome)).runIn _ = _
      rw [hrefusal]
      rfl
  | noNumber htraces hsome hnumber =>
      rw [runIn_fetch_of_traces htraces hsome, complete, hnumber]
      rfl
  | blockFault hnumber hblock =>
      rw [hnumber.runIn_fetch, runIn_complete_of_answer hnumber.2 hblock]
      rfl
  | noBlock hnumber hblock =>
      rw [hnumber.runIn_fetch, runIn_complete_of_answer hnumber.2 hblock]
      rfl
  | noTimestamp hnumber hblock htime =>
      rw [hnumber.runIn_fetch, runIn_complete_of_answer hnumber.2 hblock]
      simp only [htime]
      rfl
  | notStored hnumber hblock htime hstore =>
      rw [hnumber.runIn_fetch_record hblock htime, runIn_record, disk_blockAsked, hstore]
  | found hnumber hblock htime hstore =>
      rw [hnumber.runIn_fetch_record hblock htime, runIn_record, disk_blockAsked, hstore]

/-- A fetch takes one of its exits, or a batch is delivered in answer to one of its requests. -/
theorem exit_or_batch (f : Fetcher) (hash : String) (w : World σ) :
    (∃ result w', f.Exit hash w result w') ∨ (f.client.tracesReply w hash).IsBatch ∨
      ∃ traces number, f.HasNumber hash w traces number ∧ (f.blockReply hash number w).IsBatch := by
  cases htraces : f.tracesAnswer hash w with
  | none => exact Or.inr (Or.inl (Client.answerOf_eq_none.mp htraces))
  | some answer =>
      match answer with
      | .error fault =>
          by_cases hfault : ∃ object, fault = .refused object
          · obtain ⟨object, rfl⟩ := hfault
            exact Or.inl ⟨_, _, .refused htraces⟩
          · exact Or.inl ⟨_, _, .tracesFault htraces (not_exists.mp hfault)⟩
      | .ok none => exact Or.inl ⟨_, _, .noTraces htraces (Or.inl rfl)⟩
      | .ok (some []) => exact Or.inl ⟨_, _, .noTraces htraces (Or.inr rfl)⟩
      | .ok (some (first :: rest)) =>
          cases hnumber : blockNumberOf (first :: rest) with
          | error fault =>
              exact Or.inl ⟨_, _, .noNumber htraces (List.cons_ne_nil first rest) hnumber⟩
          | ok number =>
              have hhas : f.HasNumber hash w (first :: rest) number := ⟨htraces, hnumber⟩
              cases hblock : f.blockAnswer hash number w with
              | none =>
                  exact Or.inr (Or.inr ⟨_, number, hhas, Client.answerOf_eq_none.mp hblock⟩)
              | some answer =>
                  match answer with
                  | .error fault => exact Or.inl ⟨_, _, .blockFault hhas hblock⟩
                  | .ok none => exact Or.inl ⟨_, _, .noBlock hhas hblock⟩
                  | .ok (some block) =>
                      cases htime : timestampOf block number with
                      | error fault => exact Or.inl ⟨_, _, .noTimestamp hhas hblock htime⟩
                      | ok seconds =>
                          match hstore :
                              f.store ⟨hash, number, seconds, first :: rest⟩ w.disk with
                          | (later, .ok ()) => exact Or.inl ⟨_, _, .found hhas hblock htime hstore⟩
                          | (later, .error fault) =>
                              exact Or.inl ⟨_, _, .notStored hhas hblock htime hstore⟩

/-- A batch ends the run. -/
theorem runIn_fetch_of_batch
    (h : (f.client.tracesReply w hash).IsBatch ∨
      ∃ traces number, f.HasNumber hash w traces number ∧ (f.blockReply hash number w).IsBatch) :
    ((f.fetch hash : Piped sink (Except Error Outcome)).runIn w).1 =
      .error Client.batchMessage := by
  rcases h with htraces | ⟨traces, number, hhas, hblock⟩
  · rw [fetch, Piped.runIn_bind, Client.runIn_traceTransaction,
      Client.answerOf_eq_none.mpr htraces]
  · rw [blockReply] at hblock
    rw [hhas.runIn_fetch, complete, hhas.2]
    simp only
    rw [Piped.runIn_bind, Client.runIn_blockByNumber, Client.answerOf_eq_none.mpr hblock]

/-- A fetch gives a result exactly by one of its exits. -/
theorem runIn_fetch_eq_ok :
    (f.fetch hash : Piped sink (Except Error Outcome)).runIn w = (.ok result, w') ↔
      f.Exit hash w result w' := by
  constructor
  · intro hrun
    rcases f.exit_or_batch hash w with ⟨result₁, w₁, hexit⟩ | hbatch
    · obtain ⟨hresult, rfl⟩ := Prod.mk.inj (hexit.run.symm.trans hrun)
      obtain rfl := Except.ok.inj hresult
      exact hexit
    · have hended : ((f.fetch hash : Piped sink (Except Error Outcome)).runIn w).1 = _ :=
        runIn_fetch_of_batch hbatch
      rw [hrun] at hended
      cases hended
  · exact Exit.run

/-- Without batches every fetch comes to one of its exits. -/
theorem exists_exit (hnode : w.node.NoBatch) (f : Fetcher) (hash : String) :
    ∃ result w', f.Exit hash w result w' := by
  rcases f.exit_or_batch hash w with hexit | htraces | ⟨traces, number, _, hblock⟩
  · exact hexit
  · exact absurd htraces (hnode.not_isBatch_send _ _)
  · have hasked : (f.client.tracesAsked w hash).node.NoBatch := by
      rw [Node.NoBatch, Client.answer_tracesAsked]
      exact hnode
    exact absurd hblock (hasked.not_isBatch_send _ _)

end Fetcher

end TraceArchive
