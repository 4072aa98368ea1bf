import TraceArchive.Proofs.Fetch.Exchanges
/-!
Where the error of a fetch comes from.  A fetch can fail at five stages, and `FailsAt` says what its
error is at each of them.  Every error is one of exactly one stage, and shows how many requests were
made before it.  Only an error of the file carries a frame of its own: those of a call have theirs
inside, where the call was made.
-/

namespace TraceArchive

open Json (Value)
open Fetch (Fault Error)

/-- A stage of a fetch at which it may fail. -/
inductive Stage where
  /-- asking for the traces -/
  | traces
  /-- looking for the block number in the first trace -/
  | number
  /-- asking for the block -/
  | block
  /-- looking for the time in the block -/
  | time
  /-- writing the file -/
  | file

namespace Stage

/-- The requests that a fetch makes up to the end of a stage. -/
def requests : Stage → Nat
  | traces | number => 1
  | block | time | file => 2

/-- The stage that an error by its form belongs to. -/
def ofError : Error → Stage
  | .stacked _ _ => file
  | .plain .missingBlockNumber => number
  | .plain (.client e) =>
    match e.frames with
    | [.traceTransaction _] => traces
    | _ => block
  | .plain _ => time

end Stage

namespace Fetcher

/-- The error is one of the stage, in the fetch of a hash.  A block is named by the number that the
traces give, and a timestamp that cannot be read is the text that the block has. -/
inductive FailsAt (f : Fetcher) (hash : String) (w : World) : Error → Stage → Prop
  | traces {e : Client.Error} (hframes : e.frames = [.traceTransaction hash])
      (hrefusal : ¬ Client.isRefusal e) : FailsAt f hash w (.plain (.client e)) .traces
  | noNumber (hnumber : ∀ number, ¬ (f.client.tracesReply w hash).GivesNumber number) :
      FailsAt f hash w (.plain .missingBlockNumber) .number
  | block {number : String} {e : Client.Error}
      (hnumber : (f.client.tracesReply w hash).GivesNumber number)
      (hframes : e.frames = [.getBlock number]) : FailsAt f hash w (.plain (.client e)) .block
  | noBlock {number : String} (hnumber : (f.client.tracesReply w hash).GivesNumber number) :
      FailsAt f hash w (.plain (.blockNotFound number)) .time
  | noTime {number : String} (hnumber : (f.client.tracesReply w hash).GivesNumber number) :
      FailsAt f hash w (.plain (.missingTimestamp number)) .time
  | badTime {number text : String} {members : List (String × Value)}
      {reason : Option Quantity.Fault}
      (hnumber : (f.client.tracesReply w hash).GivesNumber number)
      (hblock : (f.blockReply hash number w).Answers .any (.object members))
      (htext : members.lookup "timestamp" = some (.string text)) :
      FailsAt f hash w (.plain (.invalidTimestamp text reason)) .time
  | file {e : Error} {fault : Disk.Fault} (horigin : e.origin = .disk fault)
      (hframes : e.frames = [.writeOutput (f.outputPath hash)]) : FailsAt f hash w e .file

variable {f : Fetcher} {hash : String} {w w' : World} {e : Error} {stage : Stage}

/-- The form of an error tells its stage. -/
theorem FailsAt.ofError (h : f.FailsAt hash w e stage) : Stage.ofError e = stage := by
  cases h with
  | traces hframes _ => simp only [Stage.ofError, hframes]
  | noNumber => rfl
  | block _ hframes => simp only [Stage.ofError, hframes]
  | noBlock => rfl
  | noTime => rfl
  | badTime => rfl
  | file _ hframes =>
      cases e with
      | plain error => cases hframes
      | stacked inner frames => rfl

/-- What can be wrong with a block's timestamp. -/
theorem fault_of_timestampOf {block : Value} {number : String} {fault : Fault}
    (h : timestampOf block number = .error fault) :
    fault = .missingTimestamp number ∨
      ∃ members text reason, block = .object members ∧
        members.lookup "timestamp" = some (.string text) ∧
        fault = .invalidTimestamp text reason := by
  rw [timestampOf] at h
  cases htext : (block.get? "timestamp").bind Value.asString? with
  | none =>
      rw [htext] at h
      exact Or.inl (Except.error.inj h).symm
  | some text =>
      obtain ⟨members, hblock, hmember⟩ := (Value.textMember_eq_some _ _ _).mp htext
      rw [htext] at h
      simp only at h
      have hinvalid : ∃ reason, fault = .invalidTimestamp text reason := by
        split at h
        · exact ⟨none, (Except.error.inj h).symm⟩
        · split at h
          · cases h
          · exact ⟨_, (Except.error.inj h).symm⟩
      obtain ⟨reason, hfault⟩ := hinvalid
      exact Or.inr ⟨members, text, reason, hblock, hmember, hfault⟩

theorem fault_of_blockNumberOf {traces : List Value} {fault : Fault}
    (h : blockNumberOf traces = .error fault) : fault = .missingBlockNumber := by
  rw [blockNumberOf] at h
  split at h
  · cases h
  · exact (Except.error.inj h).symm

/-- An exit with an error is at one of the stages, with its requests made. -/
theorem Exit.failsAt (h : f.Exit hash w (.error e) w') :
    ∃ stage, f.FailsAt hash w e stage ∧ w'.sent = w.sent + stage.requests := by
  cases h with
  | @tracesFault fault htraces hfault =>
      refine ⟨.traces, .traces rfl ?_, rfl⟩
      rw [isRefusal_callError]
      rintro ⟨object, hobject⟩
      exact hfault object hobject
  | @noNumber traces fault htraces hsome hnumber =>
      obtain rfl := fault_of_blockNumberOf hnumber
      refine ⟨.number, .noNumber fun number hgives => ?_, rfl⟩
      obtain ⟨found, hfound, hgiven⟩ := givesNumber_iff.mp hgives
      obtain rfl : found = traces := by simpa [hfound] using htraces
      rw [hgiven] at hnumber
      cases hnumber
  | blockFault hnumber hblock =>
      exact ⟨.block, .block (givesNumber_iff.mpr ⟨_, hnumber⟩) rfl, rfl⟩
  | noBlock hnumber hblock =>
      exact ⟨.time, .noBlock (givesNumber_iff.mpr ⟨_, hnumber⟩), rfl⟩
  | @noTimestamp traces number block fault hnumber hblock htime =>
      have hgives := givesNumber_iff.mpr ⟨traces, hnumber⟩
      obtain rfl | ⟨members, text, reason, rfl, htext, rfl⟩ := fault_of_timestampOf htime
      · exact ⟨.time, .noTime hgives, rfl⟩
      · exact ⟨.time, .badTime hgives (blockAnswer_eq_object.mp hblock) htext, rfl⟩
  | notStored hnumber hblock htime hstore => exact ⟨.file, .file rfl rfl, rfl⟩

/-- No error of a fetch comes from writing JSON or from the client's endpoint. -/
theorem Exit.origin (h : f.Exit hash w (.error e) w') :
    (∀ error, e.origin ≠ .json error) ∧
      ∀ error fault, e.origin = .client error → error.origin ≠ .url fault := by
  cases h with
  | tracesFault htraces hfault =>
      refine ⟨by rintro error ⟨⟩, ?_⟩
      rintro _ fault ⟨⟩ ⟨⟩
  | blockFault hnumber hblock =>
      refine ⟨by rintro error ⟨⟩, ?_⟩
      rintro _ fault ⟨⟩ ⟨⟩
  | noNumber htraces hsome hnumber =>
      obtain rfl := fault_of_blockNumberOf hnumber
      exact ⟨by rintro error ⟨⟩, by rintro error fault ⟨⟩⟩
  | noBlock hnumber hblock => exact ⟨by rintro error ⟨⟩, by rintro error fault ⟨⟩⟩
  | noTimestamp hnumber hblock htime =>
      obtain rfl | ⟨members, text, reason, _, _, rfl⟩ := fault_of_timestampOf htime
      · exact ⟨by rintro error ⟨⟩, by rintro error fault ⟨⟩⟩
      · exact ⟨by rintro error ⟨⟩, by rintro error fault ⟨⟩⟩
  | notStored hnumber hblock htime hstore =>
      exact ⟨by rintro error ⟨⟩, by rintro error fault ⟨⟩⟩

/-- An error of a stage other than the last has no frame. -/
theorem FailsAt.frames (h : f.FailsAt hash w e stage) (hstage : stage ≠ .file) :
    e.frames = [] := by
  cases h with
  | file => exact absurd rfl hstage
  | traces | noNumber | block | noBlock | noTime | badTime => rfl

/-- A fetch that comes to an error failed at exactly one stage, with as many requests made as that
takes.  The error carries no frame, unless it is one of the file.  It never comes from writing JSON
or from the client's endpoint. -/
theorem fetch_error_origin
    (hrun : (f.fetch hash : Trial (Except Error Outcome)).runIn w = (.ok (.error e), w')) :
    (∃! stage, f.FailsAt hash w e stage ∧ w'.sent = w.sent + stage.requests) ∧
      (∀ stage, f.FailsAt hash w e stage → stage ≠ .file → e.frames = []) ∧
      (∀ error, e.origin ≠ .json error) ∧
      ∀ error fault, e.origin = .client error → error.origin ≠ .url fault := by
  have hexit := runIn_fetch_eq_ok.mp hrun
  obtain ⟨stage, hfails, hsent⟩ := hexit.failsAt
  refine ⟨⟨stage, ⟨hfails, hsent⟩, ?_⟩, fun _ hfails => hfails.frames, hexit.origin⟩
  rintro other ⟨hother, _⟩
  exact hother.ofError.symm.trans hfails.ofError

/-- A hash with a slash: both requests were made when the disk refused the file. -/
theorem fetch_error_origin_slash :
    ∃ e w', (Fetcher.fetch ⟨⟨"http://node"⟩, ⟨"out"⟩⟩ "0x7/1" :
        Trial (Except Error Outcome)).runIn { node := .knowing } = (.ok (.error e), w') ∧
      FailsAt ⟨⟨"http://node"⟩, ⟨"out"⟩⟩ "0x7/1" { node := .knowing } e .file ∧ w'.sent = 2 := by
  have hfault : diskFault? ((Fetcher.fetch ⟨⟨"http://node"⟩, ⟨"out"⟩⟩ "0x7/1" :
      Trial (Except Error Outcome)).runIn { node := .knowing }).1 = some .notFound := by
    decide +kernel
  obtain ⟨e, w', hrun, horigin⟩ := run_of_diskFault? hfault
  obtain ⟨⟨stage, ⟨hfails, hsent⟩, _⟩, _⟩ := fetch_error_origin hrun
  obtain rfl : stage = .file := by
    cases hfails with
    | file => rfl
    | traces | noNumber | block | noBlock | noTime | badTime => cases horigin
  exact ⟨e, w', hrun, hfails, hsent⟩

end Fetcher

end TraceArchive
