import TraceArchive.Proofs.Fetch.Readable
import TraceArchive.Proofs.Json.Places
import TraceArchive.Proofs.Json.Unspaced
/-!
What becomes of traces between the reply and the file.  They are kept as they were read, so from a
canonical text not a byte is lost but blanks outside quotes, if every double of it is exact.  The
nearest double to `10 ^ -23` is not: its text is read as the next larger one.
-/

namespace TraceArchive

open Json (Value)
open Fetch (Error)

namespace Json

variable {depth : Nat} {s rest : Bytes}

/-- An array of values is a value. -/
theorem value_of_arrayOf {expected : String} {items : List Value}
    (h : arrayOf expected depth s = .ok (items, rest)) :
    value .usual depth s = .ok (.array items, rest) := by
  obtain ⟨r, hs⟩ := List.head?_eq_some_iff.mp (head_of_arrayOf h)
  rw [← arrayOf_skipBlanks, hs] at h
  rw [← value_skipBlanks, hs]
  cases depth with
  | zero => cases h
  | succ depth =>
      rw [arrayOf_bracket] at h
      obtain ⟨⟨found, left⟩, hfold, hitems⟩ := bind_eq_ok.mp h
      cases hitems
      rw [value_bracket, hfold]
      rfl

/-- From a text of a plain value it is read as it is read back, and no other. -/
theorem Spaced.reread_of_value {v u : Value} {t : Bytes} (h : Spaced v t) (hplain : v.Plain)
    (hread : value .usual depth t = .ok (u, rest)) : v.reread? = some u := by
  have hkeeps : ObjectPolicy.usual.Keeps v := hplain
  have hreads := h.rereadsAt hkeeps depth [] endsNumber_nil
  rw [List.append_nil] at hreads
  obtain ⟨_, hresult⟩ := hreads.eq_ok_iff.mp hread
  obtain ⟨found, hreread, heq⟩ := Option.map_eq_some_iff.mp hresult
  obtain rfl : found = u := congrArg Prod.fst heq
  exact hreread

end Json

/-- A node that answers for the traces with the text of a result, and for their block like one that
knows it. -/
def Node.tracing (text : String) : Node :=
  .replaying (.reply 200 (Rpc.resultBody text) :: (Delivery.known "0x5").tail)

namespace Fetcher

variable {f : Fetcher} {hash : String} {w w' : World} {e : Entry} {body : Bytes} {text : String}

/-- The traces of an entry are what is read from the result of the reply. -/
theorem Exit.traces (h : f.Exit hash w (.ok (.found e)) w')
    (hreply : f.client.tracesReply w hash = .reply 200 body)
    (hbody : Rpc.Packet.parse body = .ok (.single (.result text))) :
    ∃ rest, Json.value .usual Json.maxDepth (Utf8.ofString text) = .ok (.array e.traces, rest) := by
  cases h with
  | found hnumber hblock htime hstore =>
      obtain ⟨body', text', hreply', hbody', hread⟩ := tracesAnswer_eq_some.mp hnumber.1
      obtain ⟨_, rfl⟩ := Delivery.reply.inj (hreply.symm.trans hreply')
      rw [hbody] at hbody'
      obtain ⟨⟩ := hbody'
      obtain ⟨rest, harray, _⟩ := Json.document_eq_ok_iff.mp hread
      exact ⟨rest, Json.value_of_arrayOf harray⟩

/-- The file of an entry begins with the entry. -/
theorem Exit.begins (h : f.Exit hash w (.ok (.found e)) w') :
    ∃ content, w'.disk.read (f.outputPath hash) = .ok content ∧ Json.Begins e.toValue content := by
  obtain ⟨rfl, hrecorded⟩ := h.recorded
  exact ⟨_, hrecorded.stored.content, Json.begins_print Json.Layout.pretty_blank e.toValue 0⟩

theorem at?_traces (e : Entry) (path : List Json.Step) :
    e.toValue.at? (.member "traces" :: path) = (Value.array e.traces).at? path := by
  simp [Entry.toValue, Entry.members, Value.at?, Json.soleMember?, Json.under]

/-- What the traces of an entry are if they came in a text of a plain value, and what the file has
of them. -/
theorem Exit.spaced_traces (h : f.Exit hash w (.ok (.found e)) w')
    (hreply : f.client.tracesReply w hash = .reply 200 body)
    (hbody : Rpc.Packet.parse body = .ok (.single (.result text))) {v : Value} (hplain : v.Plain)
    (hspaced : Json.Spaced v (Utf8.ofString text)) :
    v.reread? = some (.array e.traces) ∧
      ∃ content written, w'.disk.read (f.outputPath hash) = .ok content ∧
        Json.writtenAt? [.member "traces"] content = some written ∧
        Json.Spaced (.array e.traces) written := by
  obtain ⟨rest, hread⟩ := h.traces hreply hbody
  obtain ⟨content, hcontent, hbegins⟩ := h.begins
  obtain ⟨written, hwritten, hsame⟩ := hbegins.writtenAt? (at?_traces e [])
  exact ⟨hspaced.reread_of_value hplain hread, content, written, hcontent, hwritten, hsame⟩

/-- Traces that came in a canonical text are those of its value, but for doubles that are not read
back as themselves.  So the text of the traces on one line is that text without the blanks outside
its quotes exactly if every double in it is exact; and the same goes for what the file has under
their name. -/
theorem fetch_found_opaque
    (hrun : (f.fetch hash : Trial (Except Error Outcome)).runIn w = (.ok (.ok (.found e)), w'))
    (hreply : f.client.tracesReply w hash = .reply 200 body)
    (hbody : Rpc.Packet.parse body = .ok (.single (.result text)))
    (hcanonical : Json.Canonical (Utf8.ofString text)) :
    ∃ v content written, v.Plain ∧ Json.Spaced v (Utf8.ofString text) ∧
      v.reread? = some (.array e.traces) ∧
      w'.disk.read (f.outputPath hash) = .ok content ∧
      Json.writtenAt? [.member "traces"] content = some written ∧
      (Utf8.encode (Value.array e.traces).compact = Json.unspaced (Utf8.ofString text) ↔
        v.Exact) ∧
      (Json.unspaced written = Json.unspaced (Utf8.ofString text) ↔ v.Exact) := by
  obtain ⟨v, hplain, hspaced⟩ := hcanonical
  obtain ⟨hreread, content, written, hcontent, hwritten, hsame⟩ :=
    (runIn_fetch_eq_ok.mp hrun).spaced_traces hreply hbody hplain hspaced
  have hexact : Value.array e.traces = v ↔ v.Exact := by
    rw [Value.exact_iff, hreread, Option.some.injEq]
  refine ⟨v, content, written, hplain, hspaced, hreread, hcontent, hwritten, ?_, ?_⟩
  · rw [← hsame.unspaced_eq, hsame.unspaced_eq_iff hspaced, hexact]
  · rw [hsame.unspaced_eq_iff hspaced, hexact]

/-- Such a node's text is one of the grammar, and the fetch comes to an entry. -/
def Traceable (text : String) : Prop :=
  Json.Grammatical (Utf8.ofString text) ∧
    (found? ((Fetcher.fetch ⟨⟨"http://node"⟩, ⟨"out"⟩⟩ "0x7" :
      Trial (Except Error Outcome)).runIn { node := .tracing text }).1).map (·.hash) = some "0x7"

instance (text : String) : Decidable (Traceable text) :=
  inferInstanceAs (Decidable (_ ∧ _))

theorem Traceable.found (h : Traceable text) :
    Rpc.Packet.parse (Rpc.resultBody text) = .ok (.single (.result text)) ∧
      ∃ e w', (Fetcher.fetch ⟨⟨"http://node"⟩, ⟨"out"⟩⟩ "0x7" :
        Trial (Except Error Outcome)).runIn { node := .tracing text } =
          (.ok (.ok (.found e)), w') := by
  obtain ⟨hgrammatical, hhash⟩ := h
  obtain ⟨e, hfound, _⟩ := Option.map_eq_some_iff.mp hhash
  exact ⟨Rpc.Packet.parse_resultBody hgrammatical, e, run_of_found? hfound⟩

/-- Traces that came in several lines. -/
theorem fetch_found_opaque_pretty :
    ∃ text e w' content written,
      (Fetcher.fetch ⟨⟨"http://node"⟩, ⟨"out"⟩⟩ "0x7" :
        Trial (Except Error Outcome)).runIn { node := .tracing text } =
          (.ok (.ok (.found e)), w') ∧
      0x0A ∈ Utf8.ofString text ∧ Json.Canonical (Utf8.ofString text) ∧
      Utf8.encode (Value.array e.traces).compact = Json.unspaced (Utf8.ofString text) ∧
      w'.disk.read ⟨"out/0x7_trace.json"⟩ = .ok content ∧
      Json.writtenAt? [.member "traces"] content = some written ∧
      Json.unspaced written = Json.unspaced (Utf8.ofString text) := by
  obtain ⟨text, htext⟩ : ∃ text, text = String.ofList (Value.array (deepTraces 2)).pretty :=
    ⟨_, rfl⟩
  have hspaced : Json.Spaced (.array (deepTraces 2)) (Utf8.ofString text) := by
    rw [htext, Utf8.ofString, String.toList_ofList]
    exact Json.spaced_print Json.Layout.pretty_blank _ 0
  have hcanonical : Json.Canonical (Utf8.ofString text) :=
    ⟨_, .array (deepTraces_plain 2), hspaced⟩
  have htraceable : Traceable text := htext ▸ by decide +kernel
  have hlines : 0x0A ∈ Utf8.ofString text := htext ▸ by decide +kernel
  obtain ⟨hbody, e, w', hrun⟩ := htraceable.found
  obtain ⟨v, content, written, _, hvalue, _, hread, hwritten, hcompact, hsame⟩ :=
    fetch_found_opaque hrun rfl hbody hcanonical
  obtain rfl := hspaced.unique hvalue
  have hexact : (Value.array (deepTraces 2)).Exact := .array (deepTraces_exact 2)
  exact ⟨text, e, w', content, written, hrun, hlines, hcanonical, hcompact.mpr hexact, hread,
    hwritten, hsame.mpr hexact⟩

/-- The double nearest to `10 ^ -23`, whose text is `1e-23`. -/
def tenToMinus23 : Double where
  negative := false
  rank := 4262707295203537489

theorem tenToMinus23_not_exact : ¬ Json.DoubleExact tenToMinus23 := by
  decide +kernel

/-- Traces with that double. -/
def inexactTraces : List Value :=
  [.object [("blockNumber", .string "0x1"), ("v", .number (.double tenToMinus23))]]

theorem inexactTraces_plain : (Value.array inexactTraces).Plain := by
  have hnames : ["blockNumber", "v"].Nodup := by decide
  have hhead : ["blockNumber", "v"].head? ≠ some Json.embeddedName := by decide
  refine .array (List.forall_mem_singleton.mpr (.object hnames hhead ?_))
  exact List.forall_mem_cons.mpr ⟨.string _, List.forall_mem_singleton.mpr (.number _)⟩

/-- They are canonical as they are written on one line, and come back as others: neither the traces
of the entry nor those in its file have the text that the reply has. -/
theorem fetch_found_inexact :
    ∃ text e w' content written,
      text = "[\x7b\"blockNumber\":\"0x1\",\"v\":1e-23\x7d]" ∧
      (Fetcher.fetch ⟨⟨"http://node"⟩, ⟨"out"⟩⟩ "0x7" :
        Trial (Except Error Outcome)).runIn { node := .tracing text } =
          (.ok (.ok (.found e)), w') ∧
      Json.Canonical (Utf8.ofString text) ∧
      Utf8.encode (Value.array e.traces).compact ≠ Json.unspaced (Utf8.ofString text) ∧
      w'.disk.read ⟨"out/0x7_trace.json"⟩ = .ok content ∧
      Json.writtenAt? [.member "traces"] content = some written ∧
      Json.unspaced written ≠ Json.unspaced (Utf8.ofString text) := by
  obtain ⟨text, htext⟩ : ∃ text, text = "[\x7b\"blockNumber\":\"0x1\",\"v\":1e-23\x7d]" :=
    ⟨_, rfl⟩
  have hcompact : text.toList = (Value.array inexactTraces).compact := htext ▸ by decide +kernel
  have hspaced : Json.Spaced (.array inexactTraces) (Utf8.ofString text) := by
    rw [Utf8.ofString, hcompact]
    exact Json.spaced_print Json.Layout.compact_blank _ 0
  have htraceable : Traceable text := htext ▸ by decide +kernel
  obtain ⟨hbody, e, w', hrun⟩ := htraceable.found
  obtain ⟨hreread, content, written, hread, hwritten, hsame⟩ :=
    (runIn_fetch_eq_ok.mp hrun).spaced_traces rfl hbody inexactTraces_plain hspaced
  have hother : Value.array e.traces ≠ .array inexactTraces := by
    intro heq
    rw [heq, ← Value.exact_iff] at hreread
    cases hreread with
    | array hitems =>
        cases hitems _ List.mem_cons_self with
        | object hmembers =>
            cases hmembers _ (List.mem_cons_of_mem _ List.mem_cons_self) with
            | double hexact => exact tenToMinus23_not_exact hexact
  have hfile : Json.unspaced written ≠ Json.unspaced (Utf8.ofString text) := by
    rwa [ne_eq, hsame.unspaced_eq_iff hspaced]
  refine ⟨text, e, w', content, written, htext, hrun, ⟨_, inexactTraces_plain, hspaced⟩, ?_, hread,
    hwritten, hfile⟩
  rwa [← hsame.unspaced_eq]

end Fetcher

end TraceArchive
