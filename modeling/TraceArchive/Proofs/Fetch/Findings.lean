import TraceArchive.Proofs.Fetch.Several
import TraceArchive.Proofs.Fetch.Storing
/-!
What the replies to a fetch come to.  A `Finding` is settled by the replies alone; the disk has a
say only in whether its entry can be stored.  So two worlds that reply alike take the fetch of a
hash in the same way: `exists_each` gives one finding for all of them.
-/

namespace TraceArchive

open Json (Value)
open Fetch (Error)

/-- What the replies to a fetch come to: an entry to store, that there is none, or a failure. -/
inductive Finding where
  | entry (e : Entry)
  | absent
  | failed

namespace Finding

def entries : Finding → List Entry
  | .entry e => [e]
  | .absent | .failed => []

/-- The outcome of a fetch with this finding; nothing where the fetch fails. -/
def outcome? (f : Fetcher) (d : Disk) : Finding → Option Outcome
  | .entry e => if (f.slot? d e.hash).isSome then some (.found e) else none
  | .absent => some (.notFound .standard)
  | .failed => none

def IsFor (hash : String) (finding : Finding) : Prop :=
  ∀ e ∈ finding.entries, e.hash = hash

theorem isFor_entry {hash : String} {e : Entry} (h : e.hash = hash) : (entry e).IsFor hash :=
  fun _ he => List.mem_singleton.mp he ▸ h

theorem isFor_absent (hash : String) : absent.IsFor hash :=
  fun _ he => absurd he List.not_mem_nil

theorem isFor_failed (hash : String) : failed.IsFor hash :=
  fun _ he => absurd he List.not_mem_nil

/-- What is found for a hash is one entry at most. -/
theorem entries_subsingleton {finding : Finding} {e e' : Entry} (he : e ∈ finding.entries)
    (he' : e' ∈ finding.entries) : e = e' := by
  cases finding with
  | entry found => exact (List.mem_singleton.mp he).trans (List.mem_singleton.mp he').symm
  | absent => cases he
  | failed => cases he

theorem entries_of_outcome {f : Fetcher} {d : Disk} {finding : Finding} {e : Entry}
    (h : finding.outcome? f d = some (.found e)) : finding.entries = [e] := by
  cases finding with
  | entry found =>
      simp only [outcome?] at h
      split at h
      · obtain rfl : found = e := by simpa using h
        rfl
      · cases h
  | absent => simp [outcome?] at h
  | failed => simp [outcome?] at h

/-- Disks with the same slots lead to the same outcome. -/
theorem outcome?_congr {f : Fetcher} {d later : Disk}
    (h : ∀ hash, f.slot? later hash = f.slot? d hash) (finding : Finding) :
    finding.outcome? f later = finding.outcome? f d := by
  cases finding with
  | entry e => rw [outcome?, outcome?, h]
  | absent => rfl
  | failed => rfl

end Finding

/-- The requests that a fetch makes: for traces, and for a block or not. -/
inductive Inquiry where
  | traces
  | block (number : String)

/-- The world after an inquiry. -/
def Inquiry.made (f : Fetcher) (hash : String) (w : World) : Inquiry → World
  | .traces => f.client.tracesAsked w hash
  | .block number => f.blockAsked hash number w

namespace Fetcher

variable {f : Fetcher} {print : Bool} {hash : String} {w w' u v : World}
variable {result : Except Error Outcome} {finding : Finding} {inquiry : Inquiry}

/-- The replies to the fetch of a hash are the same in both worlds. -/
structure SameReplies (f : Fetcher) (hash : String) (w u : World) : Prop where
  traces : f.client.tracesReply u hash = f.client.tracesReply w hash
  block : ∀ number, f.blockReply hash number u = f.blockReply hash number w

namespace SameReplies

theorem tracesAnswer (h : f.SameReplies hash w u) :
    f.tracesAnswer hash u = f.tracesAnswer hash w := by
  rw [Fetcher.tracesAnswer, Fetcher.tracesAnswer, h.traces]

theorem blockAnswer (h : f.SameReplies hash w u) (number : String) :
    f.blockAnswer hash number u = f.blockAnswer hash number w := by
  rw [Fetcher.blockAnswer, Fetcher.blockAnswer, h.block]

theorem hasNumber {traces : List Value} {number : String} (h : f.SameReplies hash w u)
    (hhas : f.HasNumber hash w traces number) : f.HasNumber hash u traces number :=
  ⟨h.tracesAnswer.trans hhas.1, hhas.2⟩

end SameReplies

/-- How the fetch of one of several passes in a world, when its requests and its finding are given:
what it says, and the world that it leaves. -/
structure Each (f : Fetcher) (print : Bool) (hash : String) (finding : Finding) (inquiry : Inquiry)
    (u : World) (one : Bool) (v : World) : Prop where
  run : (f.fetchEach print hash : Trial Bool).runIn u = (.ok one, v)
  one : one = wentWell (finding.outcome? f u.disk)
    (verdict Printer.print print (finding.outcome? f u.disk) u.printer).1
  disk : v.disk = f.storeAll finding.entries u.disk
  node : v.node = (inquiry.made f hash u).node
  sent : v.sent = (inquiry.made f hash u).sent
  printer : v.printer = (verdict Printer.print print (finding.outcome? f u.disk) u.printer).2

theorem Exit.each (h : f.Exit hash u result v)
    (houtcome : result.toOption = finding.outcome? f u.disk)
    (hdisk : v.disk = f.storeAll finding.entries u.disk)
    (hnode : v.node = (inquiry.made f hash u).node) (hsent : v.sent = (inquiry.made f hash u).sent)
    (print : Bool) : ∃ one v, f.Each print hash finding inquiry u one v := by
  have hrun : (f.fetchEach print hash : Trial Bool).runIn u = _ := runIn_fetchEach h.run print
  rw [h.printer, houtcome] at hrun
  exact ⟨_, _, hrun, rfl, hdisk, hnode, hsent, rfl⟩

/-- With an entry to store, the disk decides what the fetch comes to. -/
theorem exists_each_entry {traces : List Value} {number : String} {block : Value}
    {seconds : UInt64} (hhas : f.HasNumber hash u traces number)
    (hblock : f.blockAnswer hash number u = some (.ok (some block)))
    (htime : timestampOf block number = .ok seconds) (print : Bool) :
    ∃ one v,
      f.Each print hash (.entry ⟨hash, number, seconds, traces⟩) (.block number) u one v := by
  cases hslot : f.slot? u.disk hash with
  | none =>
      obtain ⟨fault, hstore⟩ :=
        store_of_no_slot (e := ⟨hash, number, seconds, traces⟩) hslot
      refine (Exit.notStored hhas hblock htime hstore).each ?_ ?_ rfl rfl print
      · simp [Finding.outcome?, hslot, Except.toOption]
      · simp [Finding.entries, storeAll, hstore]
  | some place =>
      have hstore := store_of_slot (e := ⟨hash, number, seconds, traces⟩) hslot
      refine (Exit.found hhas hblock htime hstore).each ?_ ?_ rfl rfl print
      · simp [Finding.outcome?, hslot, Except.toOption]
      · simp [Finding.entries, storeAll, hstore, World.noted]

/-- The replies to a fetch settle its finding and its requests, whatever the world is like else. -/
theorem exists_each (hnode : w.node.NoBatch) (f : Fetcher) (print : Bool) (hash : String) :
    ∃ finding inquiry, finding.IsFor hash ∧
      ∀ u, f.SameReplies hash w u → ∃ one v, f.Each print hash finding inquiry u one v := by
  obtain ⟨result, w', hexit⟩ := exists_exit hnode f hash
  cases hexit with
  | noTraces htraces hnone =>
      exact ⟨.absent, .traces, Finding.isFor_absent hash, fun u h =>
        (Exit.noTraces (h.tracesAnswer.trans htraces) hnone).each rfl rfl rfl rfl print⟩
  | refused htraces =>
      exact ⟨.absent, .traces, Finding.isFor_absent hash, fun u h =>
        (Exit.refused (h.tracesAnswer.trans htraces)).each rfl rfl rfl rfl print⟩
  | tracesFault htraces hfault =>
      exact ⟨.failed, .traces, Finding.isFor_failed hash, fun u h =>
        (Exit.tracesFault (h.tracesAnswer.trans htraces) hfault).each rfl rfl rfl rfl print⟩
  | noNumber htraces hsome hnumber =>
      exact ⟨.failed, .traces, Finding.isFor_failed hash, fun u h =>
        (Exit.noNumber (h.tracesAnswer.trans htraces) hsome hnumber).each rfl rfl rfl rfl print⟩
  | @blockFault traces number fault hhas hblock =>
      exact ⟨.failed, .block number, Finding.isFor_failed hash, fun u h =>
        (Exit.blockFault (h.hasNumber hhas) ((h.blockAnswer number).trans hblock)).each
          rfl rfl rfl rfl print⟩
  | @noBlock traces number hhas hblock =>
      exact ⟨.failed, .block number, Finding.isFor_failed hash, fun u h =>
        (Exit.noBlock (h.hasNumber hhas) ((h.blockAnswer number).trans hblock)).each
          rfl rfl rfl rfl print⟩
  | @noTimestamp traces number block fault hhas hblock htime =>
      exact ⟨.failed, .block number, Finding.isFor_failed hash, fun u h =>
        (Exit.noTimestamp (h.hasNumber hhas) ((h.blockAnswer number).trans hblock) htime).each
          rfl rfl rfl rfl print⟩
  | @notStored traces number block seconds later fault hhas hblock htime hstore =>
      exact ⟨.entry ⟨hash, number, seconds, traces⟩, .block number, Finding.isFor_entry rfl,
        fun u h => exists_each_entry (h.hasNumber hhas) ((h.blockAnswer number).trans hblock) htime
          print⟩
  | @found traces number block seconds later hhas hblock htime hstore =>
      exact ⟨.entry ⟨hash, number, seconds, traces⟩, .block number, Finding.isFor_entry rfl,
        fun u h => exists_each_entry (h.hasNumber hhas) ((h.blockAnswer number).trans hblock) htime
          print⟩

end Fetcher

end TraceArchive
