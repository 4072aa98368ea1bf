import TraceArchive.Proofs.Fetch.Exits
/-!
What one fetch comes to.  An entry is found exactly where the two replies give its parts and its
file can be written, and then two requests were made and the disk holds the entry.  Every other
result leaves all files as they were, and leaves the whole disk so unless the disk itself refused
something.
-/

namespace TraceArchive

open Json (Value)
open Fetch (Fault Error)

/-- The replies to the fetch of a known transaction whose block has the given time. -/
def Delivery.known (time : String) : List Delivery :=
  [.reply 200 (Utf8.ofString "\x7b\"result\":[\x7b\"blockNumber\":\"0x1\"\x7d]\x7d"),
    .reply 200 (Utf8.ofString "\x7b\"result\":\x7b\"timestamp\":\"" ++ Utf8.ofString time
      ++ Utf8.ofString "\"\x7d\x7d")]

/-- A node that knows one transaction and nothing more. -/
def Node.knowing : Node :=
  .replaying (Delivery.known "0x5")

theorem Node.knowing_noBatch : Node.knowing.NoBatch :=
  replaying_noBatch (by decide +kernel)

namespace Fetcher

/-- The entry that a run came to. -/
def found? : Except String (Except Error Outcome) → Option Entry
  | .ok (.ok (.found e)) => some e
  | _ => none

theorem run_of_found? {run : Except String (Except Error Outcome) × World} {e : Entry}
    (h : found? run.1 = some e) : ∃ w', run = (.ok (.ok (.found e)), w') := by
  match run with
  | (.ok (.ok (.found e')), w') =>
      obtain rfl : e' = e := Option.some.inj h
      exact ⟨w', rfl⟩

/-- The fault of the disk that a run came to. -/
def diskFault? : Except String (Except Error Outcome) → Option Disk.Fault
  | .ok (.error e) =>
    match e.origin with
    | .disk fault => some fault
    | _ => none
  | _ => none

theorem run_of_diskFault? {run : Except String (Except Error Outcome) × World}
    {fault : Disk.Fault} (h : diskFault? run.1 = some fault) :
    ∃ e w', run = (.ok (.error e), w') ∧ e.origin = .disk fault := by
  match run with
  | (.ok (.error e), w') =>
      refine ⟨e, w', rfl, ?_⟩
      simp only [diskFault?] at h
      split at h
      · rename_i horigin
        rw [horigin, Option.some.inj h]
      · cases h

variable {f : Fetcher} {hash : String} {w w' : World} {result : Except Error Outcome}

/-! ## Parts of an entry -/

theorem blockNumberOf_eq_ok {traces : List Value} {number : String} :
    blockNumberOf traces = .ok number ↔
      ∃ first, traces.head? = some (.object first) ∧
        first.lookup "blockNumber" = some (.string number) := by
  cases traces with
  | nil => simp [blockNumberOf]
  | cons trace rest =>
      rw [blockNumberOf]
      simp only [List.head?_cons, Option.bind_some, Option.some.injEq]
      rw [← Value.textMember_eq_some trace "blockNumber" number]
      cases (trace.get? "blockNumber").bind Value.asString? with
      | none => simp
      | some found => simp

/-- Only an object with a text under the name has a timestamp. -/
theorem member_of_timestampOf {block : Value} {number : String} {seconds : UInt64}
    (h : timestampOf block number = .ok seconds) :
    ∃ members text, block = .object members ∧
      members.lookup "timestamp" = some (.string text) := by
  rw [timestampOf] at h
  cases htext : (block.get? "timestamp").bind Value.asString? with
  | none =>
      rw [htext] at h
      cases h
  | some text =>
      obtain ⟨members, hblock, hmember⟩ := (Value.textMember_eq_some _ _ _).mp htext
      exact ⟨members, text, hblock, hmember⟩

theorem tracesAnswer_eq_some {traces : List Value} :
    f.tracesAnswer hash w = some (.ok (some traces)) ↔
      (f.client.tracesReply w hash).Answers .values traces := by
  rw [tracesAnswer, Client.answerOf_eq_ok]
  simp only [Delivery.Answers, Rpc.Wanted.document_values_orNull]

theorem blockAnswer_eq_object {number : String} {members : List (String × Value)} :
    f.blockAnswer hash number w = some (.ok (some (.object members))) ↔
      (f.blockReply hash number w).Answers .any (.object members) := by
  have hobject : Value.object members ≠ .null := by
    intro h
    cases h
  rw [blockAnswer, Client.answerOf_eq_ok]
  simp only [Delivery.Answers, Rpc.Wanted.document_any_orNull hobject]

/-! ## An entry that is found -/

/-- What finding an entry leaves: the node has received the two requests, no other was made, and the
disk stores the entry. -/
structure Recorded (f : Fetcher) (w w' : World) (e : Entry) : Prop where
  received : w'.node.received = w.node.received ++
    [.traces e.hash w.sent, .block e.blockNumber false (w.sent + 1)]
  sent : w'.sent = w.sent + 2
  stored : f.Stored e w.disk w'.disk

theorem Exit.recorded {e : Entry} (h : f.Exit hash w (.ok (.found e)) w') :
    e.hash = hash ∧ f.Recorded w w' e := by
  cases h with
  | @found traces number block seconds later hnumber hblock htime hstore =>
      obtain ⟨members, text, rfl, _⟩ := member_of_timestampOf htime
      have htraces := Client.received_tracesAsked _ _ (tracesAnswer_eq_some.mp hnumber.1)
      have hsecond := Client.received_blockAsked _ _ (blockAnswer_eq_object.mp hblock)
      refine ⟨rfl, ⟨?_, rfl, stored_of_store hstore⟩⟩
      change (f.client.blockAsked (f.client.tracesAsked w hash) number).node.received = _
      rw [hsecond, htraces, List.append_assoc]
      rfl

theorem write_runs_iff {e : Entry} :
    (∃ path later, (f.write e : Trial (Except Error Path)).runIn w = (.ok (.ok path), later)) ↔
      ∃ later, f.store e w.disk = (later, .ok ()) := by
  rw [runIn_write]
  cases f.store e w.disk with
  | mk later stored =>
      cases stored with
      | error fault => simp
      | ok u => simp

/-- A fetch comes to an entry exactly where the first reply answers with traces of which the first
gives a block number, the second answers with a block whose timestamp is a quantity, and the entry
made of these can be written.  The entry holds them as they came; and its fetch made two requests
and left the disk as `Stored` says. -/
theorem fetch_found_iff (f : Fetcher) (hash : String) (w : World) (e : Entry) :
    ((∃ w', (f.fetch hash : Trial (Except Error Outcome)).runIn w = (.ok (.ok (.found e)), w')) ↔
      ∃ traces first number block text seconds,
        (f.client.tracesReply w hash).Answers .values traces ∧
        traces.head? = some (.object first) ∧
        first.lookup "blockNumber" = some (.string number) ∧
        (f.client.blockReply (f.client.tracesAsked w hash) number).Answers .any (.object block) ∧
        block.lookup "timestamp" = some (.string text) ∧
        timestampOf (.object block) number = .ok seconds ∧
        (∃ path w', (f.write ⟨hash, number, seconds, traces⟩ : Trial (Except Error Path)).runIn w =
          (.ok (.ok path), w')) ∧
        e = ⟨hash, number, seconds, traces⟩) ∧
    ∀ w', (f.fetch hash : Trial (Except Error Outcome)).runIn w = (.ok (.ok (.found e)), w') →
      f.Recorded w w' e := by
  refine ⟨⟨?_, ?_⟩, ?_⟩
  · rintro ⟨w', hrun⟩
    cases runIn_fetch_eq_ok.mp hrun with
    | @found traces number block seconds later hnumber hblock htime hstore =>
        obtain ⟨members, text, rfl, htext⟩ := member_of_timestampOf htime
        obtain ⟨first, hfirst, hmember⟩ := blockNumberOf_eq_ok.mp hnumber.2
        exact ⟨traces, first, number, members, text, seconds, tracesAnswer_eq_some.mp hnumber.1,
          hfirst, hmember, blockAnswer_eq_object.mp hblock, htext, htime,
          write_runs_iff.mpr ⟨later, hstore⟩, rfl⟩
  · rintro ⟨traces, first, number, block, text, seconds, htraces, hfirst, hmember, hblock, _,
      htime, hwrite, rfl⟩
    obtain ⟨later, hstore⟩ := write_runs_iff.mp hwrite
    have hnumber : f.HasNumber hash w traces number :=
      ⟨tracesAnswer_eq_some.mpr htraces, blockNumberOf_eq_ok.mpr ⟨first, hfirst, hmember⟩⟩
    exact ⟨_, (Exit.found hnumber (blockAnswer_eq_object.mpr hblock) htime hstore).run⟩
  · intro w' hrun
    exact (Exit.recorded (runIn_fetch_eq_ok.mp hrun)).2

/-- The fetch of a known transaction into a directory that is not there yet: the entry is found, and
recorded as the theorem says. -/
theorem fetch_found_known :
    ∃ e w', (Fetcher.fetch ⟨⟨"http://node"⟩, ⟨"out/../new"⟩⟩ "0x7" :
        Trial (Except Error Outcome)).runIn { node := .knowing } = (.ok (.ok (.found e)), w') ∧
      Recorded ⟨⟨"http://node"⟩, ⟨"out/../new"⟩⟩ { node := .knowing } w' e := by
  have hhash : (found? ((Fetcher.fetch ⟨⟨"http://node"⟩, ⟨"out/../new"⟩⟩ "0x7" :
      Trial (Except Error Outcome)).runIn { node := .knowing }).1).map (·.hash) = some "0x7" := by
    decide +kernel
  obtain ⟨e, hfound, _⟩ := Option.map_eq_some_iff.mp hhash
  obtain ⟨w', hrun⟩ := run_of_found? hfound
  exact ⟨e, w', hrun, (fetch_found_iff _ "0x7" _ e).2 w' hrun⟩

/-! ## Every other result -/

/-- The disk that an exit without an entry leaves: the same one, or, where the disk refused
something, one with new directories. -/
theorem Exit.disk (h : f.Exit hash w result w') (hresult : ∀ e, result ≠ .ok (.found e)) :
    w'.disk = w.disk ∨ ∃ fault, result = .error (f.storeError hash fault) ∧
      w.disk.Grown w'.disk (w.disk.start f.outputDir) (· <+: f.outputDir.parts) := by
  cases h with
  | noTraces => exact Or.inl rfl
  | refused => exact Or.inl rfl
  | tracesFault => exact Or.inl rfl
  | noNumber => exact Or.inl rfl
  | blockFault => exact Or.inl rfl
  | noBlock => exact Or.inl rfl
  | noTimestamp => exact Or.inl rfl
  | notStored _ _ _ hstore => exact Or.inr ⟨_, rfl, grown_of_store_error hstore⟩
  | found => exact absurd rfl (hresult _)

/-- A fetch that comes to an absence or an error creates, changes and removes no file.  It leaves
the disk as it was, unless its error is one of the disk: then there may be new directories, each
where a beginning of the output directory leads, and nothing else is new. -/
theorem fetch_keeps_files
    (hrun : (f.fetch hash : Trial (Except Error Outcome)).runIn w = (.ok result, w'))
    (hresult : ∀ e, result ≠ .ok (.found e)) :
    (∀ place content,
      w'.disk.get? place = some (.file content) ↔ w.disk.get? place = some (.file content)) ∧
    ((∀ e fault, result = .error e → e.origin ≠ .disk fault) → w'.disk = w.disk) ∧
    w.disk.Grown w'.disk (w.disk.start f.outputDir) (· <+: f.outputDir.parts) := by
  rcases (runIn_fetch_eq_ok.mp hrun).disk hresult with hsame | ⟨fault, rfl, hgrown⟩
  · rw [hsame]
    exact ⟨fun _ _ => Iff.rfl, fun _ => rfl, .refl _ _ _⟩
  · exact ⟨hgrown.file_iff, fun horigin => absurd rfl (horigin _ fault rfl), hgrown⟩

/-- A hash with a slash names a file in a directory that is not made: the disk refuses the file, and
has gained the output directory. -/
theorem fetch_keeps_files_slash :
    ∃ e w', (Fetcher.fetch ⟨⟨"http://node"⟩, ⟨"out"⟩⟩ "0x7/1" :
        Trial (Except Error Outcome)).runIn { node := .knowing } = (.ok (.error e), w') ∧
      (∀ e', (Except.error e : Except Error Outcome) ≠ .ok (.found e')) ∧
      e.origin = .disk .notFound ∧ w'.disk.get? ["out"] = some .directory ∧
      ∀ place content, w'.disk.get? place ≠ some (.file content) := by
  have hfault : diskFault? ((Fetcher.fetch ⟨⟨"http://node"⟩, ⟨"out"⟩⟩ "0x7/1" :
      Trial (Except Error Outcome)).runIn { node := .knowing }).1 = some .notFound := by
    decide +kernel
  have hdir : ((Fetcher.fetch ⟨⟨"http://node"⟩, ⟨"out"⟩⟩ "0x7/1" :
      Trial (Except Error Outcome)).runIn { node := .knowing }).2.disk.get? ["out"] =
        some .directory := by
    decide +kernel
  obtain ⟨e, w', hrun, horigin⟩ := run_of_diskFault? hfault
  have hresult : ∀ e', (Except.error e : Except Error Outcome) ≠ .ok (.found e') := by
    intro e' h
    cases h
  rw [hrun] at hdir
  refine ⟨e, w', hrun, hresult, horigin, hdir, ?_⟩
  intro place content hfile
  rw [(fetch_keeps_files hrun hresult).1 place content] at hfile
  simp only [Disk.get?, List.lookup_nil] at hfile
  split at hfile
  · cases hfile
  · cases hfile

end Fetcher

end TraceArchive
