import TraceArchive.Proofs.Fetch.Refusal
import TraceArchive.Proofs.Outcome.RoundTrip
/-!
Reading back what a fetch wrote.  The traces of an entry are plain, as they were read, so its file
parses if it nests at most `maxDepth` deep, and then as the entry up to doubles that are not read
back as themselves.  Traces may nest as deep as that in the reply, and stand one bracket deeper in
the file: such a file is written and cannot be read.
-/

namespace TraceArchive

open Json (Value Yields)
open Fetch (Error)

namespace Rpc

theorem yields_values (s : Bytes) : Yields (Wanted.values.read s) (fun r => ∀ v ∈ r.1, v.Plain) :=
  Json.yields_arrayOf "a sequence" Json.maxDepth s

end Rpc

theorem Delivery.Answers.plain {d : Delivery} {traces : List Value}
    (h : d.Answers Rpc.Wanted.values traces) : ∀ v ∈ traces, v.Plain := by
  obtain ⟨body, text, _, _, hread⟩ := h
  exact Json.yields_document (P := fun traces => ∀ v ∈ traces, v.Plain) (Rpc.yields_values _)
    traces hread

namespace Rpc

/-- A value is read from what is written of it, if it nests at most `maxDepth` deep. -/
theorem any_compact {v : Value} (hplain : v.Plain) (hexact : v.Exact) (hnull : v ≠ .null)
    (hlevels : v.levels ≤ Json.maxDepth) :
    Wanted.any.orNull.ofText (String.ofList v.compact) = .ok (some v) := by
  have hkeeps : Json.ObjectPolicy.usual.Keeps v := hplain
  have hread := (Json.spaced_print Json.Layout.compact_blank v 0).rereadsAt hkeeps Json.maxDepth []
    Json.endsNumber_nil
  rw [List.append_nil, Value.exact_iff.mp hexact] at hread
  rw [Wanted.ofText_eq_ok, Wanted.document_any_orNull hnull, Json.document_eq_ok_iff, Utf8.ofString,
    String.toList_ofList]
  exact ⟨[], hread.ok hlevels, rfl⟩

/-- Traces are read from what is written of them, if they nest at most `maxDepth` deep. -/
theorem values_compact {traces : List Value} (hplain : (Value.array traces).Plain)
    (hexact : (Value.array traces).Exact)
    (hlevels : (Value.array traces).levels ≤ Json.maxDepth) :
    Wanted.values.orNull.ofText (String.ofList (Value.array traces).compact) =
      .ok (some traces) := by
  have hread := (Json.spaced_print Json.Layout.compact_blank (.array traces) 0).arrayOf hplain
    "a sequence" Json.maxDepth .empty []
  have hsettled : (Value.array traces).settledItems? = some traces :=
    Value.settleItems_eq fun v hv => (hplain.items v hv).settle
  rw [List.append_nil, Value.exact_iff.mp hexact, Option.bind_some, hsettled] at hread
  rw [Wanted.ofText_eq_ok, Wanted.document_values_orNull, Json.document_eq_ok_iff, Utf8.ofString,
    String.toList_ofList]
  exact ⟨[], hread.ok hlevels, rfl⟩

/-- A body whose result is the text of a value. -/
def bodyOf (v : Value) : Bytes :=
  resultBody (String.ofList v.compact)

/-- The result of that body is the text of the value. -/
theorem parse_bodyOf (v : Value) :
    Packet.parse (bodyOf v) = .ok (.single (.result (String.ofList v.compact))) := by
  apply Packet.parse_resultBody
  rw [Utf8.ofString, String.toList_ofList]
  exact (Json.spaced_print Json.Layout.compact_blank v 0).grammatical

end Rpc

/-- Traces of a transaction, the second of them arrays of the given depth. -/
def deepTraces (depth : Nat) : List Value :=
  [.object [("blockNumber", .string "0x1")], nested depth]

/-- A block with a timestamp. -/
def timedBlock : Value :=
  .object [("timestamp", .string "0x5")]

theorem plain_single (name text : String) (hname : name ≠ Json.embeddedName) :
    (Value.object [(name, .string text)]).Plain :=
  .object (List.pairwise_singleton _ name) (fun h => hname (Option.some.inj h))
    (List.forall_mem_singleton.mpr (.string text))

theorem exact_single (name text : String) : (Value.object [(name, .string text)]).Exact :=
  .object (List.forall_mem_singleton.mpr (.string text))

theorem timedBlock_plain : timedBlock.Plain :=
  plain_single _ _ (by decide)

theorem deepTraces_plain (depth : Nat) : ∀ v ∈ deepTraces depth, v.Plain :=
  List.forall_mem_cons.mpr ⟨plain_single _ _ (by decide),
    List.forall_mem_singleton.mpr (nested_plain depth)⟩

theorem deepTraces_exact (depth : Nat) : ∀ v ∈ deepTraces depth, v.Exact :=
  List.forall_mem_cons.mpr ⟨exact_single _ _, List.forall_mem_singleton.mpr (nested_exact depth)⟩

/-- A node that has such traces, and their block. -/
def Node.deep (depth : Nat) : Node :=
  .replaying [.reply 200 (Rpc.bodyOf (.array (deepTraces depth))),
    .reply 200 (Rpc.bodyOf timedBlock)]

namespace Fetcher

variable {f : Fetcher} {hash : String} {w w' : World} {e : Entry}

theorem Exit.plain (h : f.Exit hash w (.ok (.found e)) w') : e.Plain := by
  cases h with
  | found hnumber hblock htime hstore => exact (tracesAnswer_eq_some.mp hnumber.1).plain

/-- The file of an entry that was found, and what parsing it gives. -/
theorem Exit.readable (h : f.Exit hash w (.ok (.found e)) w') :
    w'.disk.read (f.outputPath hash) = .ok (Outcome.found e).rendered ∧
      ∀ u, Entry.parse (Outcome.found e).rendered = .ok u ↔
        e.toValue.levels ≤ Json.maxDepth ∧ e.reread? = some u := by
  obtain ⟨rfl, hrecorded⟩ := h.recorded
  refine ⟨hrecorded.stored.content, fun u => Entry.parse_spaced h.plain ?_⟩
  exact Json.spaced_print Json.Layout.pretty_blank e.toValue 0

/-- The file of an entry that was found parses exactly if the entry nests at most `maxDepth` deep
and no double of its traces is read as out of range, and then as the entry with its doubles as they
are read back.  So it parses as that very entry exactly if the entry nests at most `maxDepth` deep
and the text of each double is read back as that double. -/
theorem fetch_found_parses
    (hrun : (f.fetch hash : Trial (Except Error Outcome)).runIn w = (.ok (.ok (.found e)), w')) :
    ∃ content, w'.disk.read (f.outputPath hash) = .ok content ∧
      (∀ u, Entry.parse content = .ok u ↔
        e.toValue.levels ≤ Json.maxDepth ∧ e.reread? = some u) ∧
      (Entry.parse content = .ok e ↔ e.toValue.levels ≤ Json.maxDepth ∧ e.Exact) := by
  obtain ⟨hread, hparse⟩ := (runIn_fetch_eq_ok.mp hrun).readable
  refine ⟨_, hread, hparse, ?_⟩
  rw [hparse, Entry.exact_iff]

/-- Whether an entry can be stored depends on its hash alone. -/
theorem exists_store {e e' : Entry} {d : Disk} (h : (f.store e d).2 = .ok ())
    (hhash : e.hash = e'.hash) : ∃ later, f.store e' d = (later, .ok ()) := by
  rw [store] at h ⊢
  cases hdirs : d.createDirs f.outputDir with
  | mk mid result =>
      rw [hdirs] at h
      cases result with
      | error fault => cases h
      | ok u =>
          simp only at h ⊢
          cases hwrite : mid.write (f.outputPath e.hash) (fileContent e) with
          | error fault =>
              rw [hwrite] at h
              cases h
          | ok later =>
              obtain ⟨hfile, place, hplace, hentry, _⟩ := Disk.write_eq_ok_iff.mp hwrite
              rw [hhash] at hfile hplace
              have hwritten : mid.write (f.outputPath e'.hash) (fileContent e') =
                  .ok (mid.set place (.file (fileContent e'))) :=
                Disk.write_eq_ok_iff.mpr ⟨hfile, place, hplace, hentry, rfl⟩
              rw [hwritten]
              exact ⟨_, rfl⟩

/-- What comes of a fetch from a node whose traces nest no deeper than a result may. -/
def deepEntry (depth : Nat) : Entry :=
  ⟨"0x7", "0x1", .ofNat 5, deepTraces depth⟩

theorem levels_deepEntry (depth : Nat) :
    (deepEntry depth).toValue.levels = max 1 depth + 2 := by
  simp [deepEntry, deepTraces, Entry.toValue, Entry.members, Value.levels, Value.levelsOfItems,
    Value.levelsOfMembers, levels_nested]

theorem exit_deep (depth : Nat) (hdepth : depth < Json.maxDepth) :
    ∃ w', Exit ⟨⟨"http://node"⟩, ⟨"out"⟩⟩ "0x7" ({ node := .deep depth } : World)
      (.ok (.found (deepEntry depth))) w' := by
  have hlevels : (Value.array (deepTraces depth)).levels ≤ Json.maxDepth := by
    simp only [deepTraces, Value.levels, Value.levelsOfItems, Value.levelsOfMembers, levels_nested,
      Json.maxDepth] at hdepth ⊢
    omega
  have htraces : tracesAnswer ⟨⟨"http://node"⟩, ⟨"out"⟩⟩ "0x7" ({ node := .deep depth } : World) =
      some (.ok (some (deepTraces depth))) := by
    rw [tracesAnswer_of_result rfl (Rpc.parse_bodyOf _),
      Rpc.values_compact (.array (deepTraces_plain depth)) (.array (deepTraces_exact depth))
        hlevels]
  have hblock : blockAnswer ⟨⟨"http://node"⟩, ⟨"out"⟩⟩ "0x7" "0x1"
      ({ node := .deep depth } : World) = some (.ok (some timedBlock)) := by
    change Client.answerOf Rpc.Wanted.any.orNull (.reply 200 (Rpc.bodyOf timedBlock)) = _
    rw [Client.answerOf_of_result (Rpc.parse_bodyOf _),
      Rpc.any_compact timedBlock_plain (exact_single _ _) (by rintro ⟨⟩) (by decide)]
  have hstored : (store ⟨⟨"http://node"⟩, ⟨"out"⟩⟩ ⟨"0x7", "", .ofNat 0, []⟩ {}).2 = .ok () := by
    decide +kernel
  obtain ⟨later, hstore⟩ : ∃ later,
      store ⟨⟨"http://node"⟩, ⟨"out"⟩⟩ (deepEntry depth) {} = (later, .ok ()) :=
    exists_store hstored rfl
  exact ⟨_, .found ⟨htraces, rfl⟩ hblock rfl hstore⟩

/-- The fetch of a transaction whose traces nest as deep as a file of theirs may. -/
theorem fetch_found_parses_deep :
    ∃ e w' content, (Fetcher.fetch ⟨⟨"http://node"⟩, ⟨"out"⟩⟩ "0x7" :
        Trial (Except Error Outcome)).runIn { node := .deep 125 } =
          (.ok (.ok (.found e)), w') ∧
      w'.disk.read ⟨"out/0x7_trace.json"⟩ = .ok content ∧ Entry.parse content = .ok e := by
  obtain ⟨w', hexit⟩ := exit_deep 125 (by decide)
  obtain ⟨content, hread, _, hsame⟩ := fetch_found_parses hexit.run
  refine ⟨_, w', content, hexit.run, hread, hsame.mpr ⟨?_, deepTraces_exact 125⟩⟩
  rw [levels_deepEntry]
  decide

/-- Traces that nest one level deeper are still read from the reply and written, but what is written
of them cannot be parsed. -/
theorem fetch_found_unreadable :
    ∃ e w' content, (Fetcher.fetch ⟨⟨"http://node"⟩, ⟨"out"⟩⟩ "0x7" :
        Trial (Except Error Outcome)).runIn { node := .deep 126 } =
          (.ok (.ok (.found e)), w') ∧
      w'.disk.read ⟨"out/0x7_trace.json"⟩ = .ok content ∧ ∀ u, Entry.parse content ≠ .ok u := by
  obtain ⟨w', hexit⟩ := exit_deep 126 (by decide)
  obtain ⟨hread, hparse⟩ := hexit.readable
  refine ⟨_, w', _, hexit.run, hread, fun u hu => ?_⟩
  have hshallow := ((hparse u).mp hu).1
  rw [levels_deepEntry] at hshallow
  exact absurd hshallow (by decide)

end Fetcher

end TraceArchive
