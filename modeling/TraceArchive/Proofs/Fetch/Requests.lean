import TraceArchive.Proofs.Client.Requests
import TraceArchive.Proofs.Fetch.Exchanges
import TraceArchive.Proofs.Fetch.Opaque
import TraceArchive.Proofs.Json.Spelling
/-!
What is asked of the node: the traces of a hash, which goes out as it was given, and a block by the
number that the node gave.  However the reply spells that number, the request for the block carries
its characters.
-/

namespace TraceArchive

open Json (Value)
open Fetch (Error)
open Rpc (Request)

namespace Json

variable {depth : Nat} {s t r rest : Bytes} {v u : Value} {name : String}

/-- The text that begins with the value of the last member of a name. -/
def lastText? (name : String) (s : Bytes) : Option Bytes :=
  (memberTexts? s).bind fun members => (under name members).getLast?

/-- The text that begins with the first item of an array. -/
def headText? (s : Bytes) : Option Bytes :=
  (itemTexts? s).bind List.head?

/-- The first item of an array is what is read where it begins, settled. -/
theorem head?_of_headText? {items : List Value}
    (hread : value .usual depth s = .ok (.array items, rest)) (ht : headText? s = some t) :
    ∃ inner x y left, value .verbatim inner t = .ok (x, left) ∧ x.settle = some y ∧
      items.head? = some y := by
  obtain ⟨v, hv, hsettle⟩ := exists_settled hread
  obtain ⟨texts, htexts, hhead⟩ := Option.bind_eq_some_iff.mp ht
  obtain ⟨r, hs⟩ := head_of_itemTexts? htexts
  obtain ⟨inner, xs, rfl, hxs⟩ := (verbatim_of_value hv).items hs
  obtain ⟨found, hfound, rfl, hall⟩ := hxs.located
  rw [itemTexts?_of_items hs hfound (takes_verbatim inner) fun _ _ _ hx =>
    (verbatim_of_value hx).skipValue] at htexts
  obtain rfl := Option.some.inj htexts
  rw [List.head?_eq_getElem?, List.getElem?_map] at hhead
  obtain ⟨x, hx, rfl⟩ := Option.map_eq_some_iff.mp hhead
  obtain ⟨left, hleft⟩ := hall x (List.mem_of_getElem? hx)
  obtain ⟨settled, hsettled, hitems⟩ := Option.map_eq_some_iff.mp hsettle
  obtain rfl := Value.array.inj hitems
  have hx : (found.map Prod.snd)[0]? = some x.2 := by rw [List.getElem?_map, hx, Option.map_some]
  obtain ⟨y, hy, hhead⟩ := Value.settleItems_getElem? hsettled hx
  exact ⟨inner, x.2, y, left, hleft, hy, List.head?_eq_getElem?.trans hhead⟩

/-- The member of a name is what is read where the last one of that name begins, settled. -/
theorem lookup_of_lastText? (hread : value .verbatim depth s = .ok (v, rest))
    (hsettle : v.settle = some u) (hname : name ≠ embeddedName) (ht : lastText? name s = some t) :
    ∃ members inner x y left, u = .object members ∧ members.lookup name = some y ∧
      value .verbatim inner t = .ok (x, left) ∧ x.settle = some y := by
  obtain ⟨texts, htexts, hlast⟩ := Option.bind_eq_some_iff.mp ht
  obtain ⟨r, hs⟩ := head_of_memberTexts? htexts
  obtain ⟨inner, ms, rfl, hms⟩ := (verbatim_of_value hread).members hs
  obtain ⟨found, hfound, rfl, hall⟩ := hms.located
  rw [memberTexts?_of_members hs hfound (takes_verbatim inner) fun _ _ _ hx =>
    (verbatim_of_value hx).skipValue] at htexts
  obtain rfl := Option.some.inj htexts
  rw [under_map, List.getLast?_map] at hlast
  obtain ⟨x, hx, rfl⟩ := Option.map_eq_some_iff.mp hlast
  obtain ⟨left, hleft⟩ := hall (name, x) (mem_of_mem_under (List.mem_of_getLast? hx))
  have hvalue : (under name (found.map fun m => (m.1, m.2.2))).getLast? = some x.2 := by
    rw [under_map, List.getLast?_map, hx, Option.map_some]
  obtain ⟨text, hsole⟩ | ⟨members, hmembers, rfl⟩ := Value.settle_object hsettle
  · -- an object that stands for the value in its string has no member of another name
    rw [hsole, under, if_neg hname.symm] at hvalue
    cases hvalue
  · obtain ⟨y, hy, hunder⟩ := Value.under_settleMembers hmembers hvalue
    refine ⟨members, inner, x.2, y, left, rfl, ?_, hleft, hy⟩
    rw [lookup_eq_head?_under, hunder, List.head?_cons]

/-- A value that begins with a quote is a string. -/
theorem string_of_quote {policy : ObjectPolicy} (hs : skipBlanks s = 0x22 :: r)
    (hread : value policy depth s = .ok (v, rest)) :
    ∃ text, v = .string text ∧ string r = .ok (text, rest) := by
  rw [← value_skipBlanks, hs, value_quote] at hread
  obtain ⟨⟨text, left⟩, hstring, hread⟩ := bind_eq_ok.mp hread
  obtain ⟨rfl, rfl⟩ := Prod.mk.inj (Except.ok.inj hread)
  exact ⟨text, rfl, hstring⟩

/-- The text that is read is the only one that is spelled there. -/
theorem eq_iff_spelled {text other : String} (hread : string r = .ok (text, rest)) :
    text = other ↔ ∃ bytes later, r = bytes ++ 0x22 :: later ∧ Spelled other.toList bytes := by
  constructor
  · rintro rfl
    obtain ⟨bytes, hr, hspelled⟩ := string_eq_ok.mp hread
    exact ⟨bytes, rest, hr, hspelled⟩
  · rintro ⟨bytes, later, hr, hspelled⟩
    have hother := string_eq_ok.mpr ⟨bytes, hr, hspelled⟩
    exact (Prod.mk.inj (Except.ok.inj (hread.symm.trans hother))).1

end Json

/-! ## The number in a reply -/

namespace Delivery

variable {d : Delivery} {t r : Bytes} {number : String}

theorem Answers.eq {wanted : Rpc.Wanted α} {v u : α} (h : d.Answers wanted v)
    (h' : d.Answers wanted u) : v = u := by
  obtain ⟨body, text, hreply, hbody, hread⟩ := h
  obtain ⟨body', text', hreply', hbody', hread'⟩ := h'
  obtain ⟨_, rfl⟩ := Delivery.reply.inj (hreply.symm.trans hreply')
  have hpacket := hbody.symm.trans hbody'
  simp only [Except.ok.injEq, Rpc.Packet.single.injEq, Rpc.Response.result.injEq] at hpacket
  subst hpacket
  exact Except.ok.inj (hread.symm.trans hread')

/-- The delivery answers with traces, and the text begins with the block number of the first. -/
def NumberText (d : Delivery) (t : Bytes) : Prop :=
  ∃ body text traces first, d = .reply 200 body ∧
    Rpc.Packet.parse body = .ok (.single (.result text)) ∧
    Json.document Rpc.Wanted.values.read (Utf8.ofString text) = .ok traces ∧
    Json.headText? (Utf8.ofString text) = some first ∧
    Json.lastText? "blockNumber" first = some t

/-- A number that is written in quotes is the one that is spelled between them. -/
theorem NumberText.givesNumber_iff (h : d.NumberText t) (hs : Json.skipBlanks t = 0x22 :: r) :
    d.GivesNumber number ↔
      ∃ bytes later, r = bytes ++ 0x22 :: later ∧ Json.Spelled number.toList bytes := by
  obtain ⟨body, text, traces, first, rfl, hbody, hread, hfirst, hnumber⟩ := h
  have hanswers : (Delivery.reply 200 body).Answers .values traces :=
    ⟨body, text, rfl, hbody, hread⟩
  obtain ⟨rest, harray, _⟩ := Json.document_eq_ok_iff.mp hread
  have htraces : Json.value .usual Json.maxDepth (Utf8.ofString text) = .ok (.array traces, rest) :=
    Json.value_of_arrayOf harray
  obtain ⟨_, _, _, _, hx, hsettle, hhead⟩ := Json.head?_of_headText? htraces hfirst
  obtain ⟨members, _, x, y, _, rfl, hmember, hvalue, hy⟩ :=
    Json.lookup_of_lastText? hx hsettle (by decide) hnumber
  obtain ⟨given, rfl, hstring⟩ := Json.string_of_quote hs hvalue
  obtain rfl : .string given = y := Option.some.inj hy
  rw [← Json.eq_iff_spelled hstring]
  constructor
  · rintro ⟨traces', first', hanswers', hhead', hmember'⟩
    obtain rfl := hanswers.eq hanswers'
    obtain rfl := Value.object.inj (Option.some.inj (hhead.symm.trans hhead'))
    exact Value.string.inj (Option.some.inj (hmember.symm.trans hmember'))
  · rintro rfl
    exact ⟨traces, members, hanswers, hhead, hmember⟩

end Delivery

/-! ## Requests of calls -/

namespace Client

variable {c : Client} {w : World}

theorem node_ask (c : Client) (w : World) (call : Nat → Request) (wanted : Rpc.Wanted α) :
    ((c.ask call wanted : Trial _).runIn w).2.node =
      (w.node.send c.endpoint (call w.sent)).2 := by
  rw [runIn_ask]
  cases answerOf wanted (w.reply c.endpoint call) <;> rfl

/-- A call that is noted and framed makes one request. -/
theorem node_called (c : Client) (w : World) (r : Log.Record) (call : Nat → Request)
    (wanted : Rpc.Wanted α) (frame : Frame) :
    ((do
      Surroundings.note r
      let answer ← c.ask call wanted
      return framed frame answer : Trial _).runIn w).2.node =
      (w.node.send c.endpoint (call w.sent)).2 := by
  have hnode := c.node_ask (w.noted r) call wanted
  simp only [Piped.runIn_bind, Piped.runIn_note]
  cases hrun : (c.ask call wanted : Trial _).runIn (w.noted r) with
  | mk answer u =>
      rw [hrun] at hnode
      cases answer <;> exact hnode

theorem received_traceTransaction (htakes : w.node.Takes c.endpoint) (hash : String) :
    ((c.traceTransaction hash : Trial _).runIn w).2.node.received =
      w.node.received ++ [.traces hash w.sent] := by
  rw [traceTransaction, Surroundings.debug, node_called]
  exact htakes.received_send _

theorem received_blockByNumber (htakes : w.node.Takes c.endpoint) (number : String)
    (full : Bool) :
    ((c.blockByNumber number full : Trial _).runIn w).2.node.received =
      w.node.received ++ [.block number full w.sent] := by
  rw [blockByNumber, Surroundings.debug, node_called]
  exact htakes.received_send _

end Client

/-! ## Requests of a fetch -/

namespace Fetcher

variable {f : Fetcher} {w : World} {hash number : String}

theorem received_fetch (htakes : w.node.Takes f.client.endpoint)
    (h : (f.client.tracesReply w hash).GivesNumber number) :
    ((f.fetch hash : Trial (Except Error Outcome)).runIn w).2.node.received =
      w.node.received ++ [.traces hash w.sent, .block number false (w.sent + 1)] := by
  obtain ⟨traces, hhas⟩ := givesNumber_iff.mp h
  rw [hhas.node_fetch, (conversed_blockAsked htakes hash number).received]
  rfl

/-- Strings go out to the node as they are.  The body of a request for traces is read as a call with
exactly the hash, so different hashes have different bodies; that of a request for a block is read
as a call with exactly the number.  A fetch asks for the block by the number that the reply gives,
which is, however it is spelled there, character for character the one between the quotes. -/
theorem requests_verbatim (f : Fetcher) (w : World) (htakes : w.node.Takes f.client.endpoint) :
    (∀ hash, ((f.client.traceTransaction hash : Trial _).runIn w).2.node.received =
      w.node.received ++ [.traces hash w.sent]) ∧
    (∀ number full, ((f.client.blockByNumber number full : Trial _).runIn w).2.node.received =
      w.node.received ++ [.block number full w.sent]) ∧
    (∀ hash (id : Nat), Json.IntegerFits id →
      (Request.traces hash id).Carries "trace_transaction" [.string hash]) ∧
    (∀ number full (id : Nat), Json.IntegerFits id →
      (Request.block number full id).Carries "eth_getBlockByNumber"
        [.string number, .bool full]) ∧
    (∀ hash hash' id id', hash ≠ hash' →
      (Request.traces hash id).body ≠ (Request.traces hash' id').body) ∧
    (∀ hash number, (f.client.tracesReply w hash).GivesNumber number →
      ((f.fetch hash : Trial (Except Error Outcome)).runIn w).2.node.received =
        w.node.received ++ [.traces hash w.sent, .block number false (w.sent + 1)]) ∧
    (∀ hash t r number, (f.client.tracesReply w hash).NumberText t →
      Json.skipBlanks t = 0x22 :: r →
      ((f.client.tracesReply w hash).GivesNumber number ↔
        ∃ bytes later, r = bytes ++ 0x22 :: later ∧ Json.Spelled number.toList bytes)) := by
  refine ⟨Client.received_traceTransaction htakes, Client.received_blockByNumber htakes, ?_, ?_, ?_,
    ?_, ?_⟩
  · intro hash id fits
    exact Request.carries_traces fits
  · intro number full id fits
    exact Request.carries_block fits
  · intro hash hash' id id' hne hbody
    obtain ⟨_, hparams, _⟩ := Request.mk.inj (Request.body_injective hbody)
    apply hne
    simpa using hparams
  · intro hash number hgives
    exact received_fetch htakes hgives
  · intro hash t r number htext hquote
    exact htext.givesNumber_iff hquote

/-- A hash with a quote and a line break, and a reply that gives two block numbers: the second one
counts, whose characters are escaped in three ways. -/
theorem requests_verbatim_escaped :
    ∃ text t, (Node.tracing text).Takes "http://node" ∧
      (Delivery.reply 200 (Rpc.resultBody text)).NumberText t ∧
      Json.skipBlanks t = 0x22 :: Utf8.ofString "\\u0030x\\/\\ud83d\\ude00\"\x7d]" ∧
      ((Fetcher.fetch ⟨⟨"http://node"⟩, ⟨"out"⟩⟩ "\"\n" :
        Trial (Except Error Outcome)).runIn { node := .tracing text }).2.node.received =
          [.traces "\"\n" 0,
            .block (String.ofList ['0', 'x', '/', Char.ofNat 0x1F600]) false 1] := by
  obtain ⟨text, htext⟩ : ∃ text, text = "[\x7b\"blockNumber\":\"7\",\"blockNumber\": "
      ++ "\"\\u0030x\\/\\ud83d\\ude00\"\x7d]" := ⟨_, rfl⟩
  have hgrammatical : Json.Grammatical (Utf8.ofString text) := by
    subst htext
    decide +kernel
  have htraces : (Json.document Rpc.Wanted.values.read (Utf8.ofString text)).toOption.isSome := by
    subst htext
    decide +kernel
  have hnumber : ∃ t, (Json.headText? (Utf8.ofString text)).bind (Json.lastText? "blockNumber") =
      some t ∧ t = Utf8.ofString " \"\\u0030x\\/\\ud83d\\ude00\"\x7d]" := by
    subst htext
    exact ⟨_, by decide +kernel, rfl⟩
  have hstring : (Json.string (Utf8.ofString "\\u0030x\\/\\ud83d\\ude00\"\x7d]")).toOption =
      some (String.ofList ['0', 'x', '/', Char.ofNat 0x1F600], Utf8.ofString "\x7d]") := by
    decide +kernel
  obtain ⟨t, hnumber, ht⟩ := hnumber
  obtain ⟨first, hfirst, hmember⟩ := Option.bind_eq_some_iff.mp hnumber
  obtain ⟨traces, hread⟩ := Option.isSome_iff_exists.mp htraces
  have hquote : Json.skipBlanks t =
      0x22 :: Utf8.ofString "\\u0030x\\/\\ud83d\\ude00\"\x7d]" := by
    subst ht
    decide +kernel
  have htakes : (Node.tracing text).Takes "http://node" :=
    Node.replaying_takes (by simp [Delivery.known]) _
  have hwrites : (Delivery.reply 200 (Rpc.resultBody text)).NumberText t :=
    ⟨_, text, traces, first, rfl, Rpc.Packet.parse_resultBody hgrammatical,
      Json.toOption_eq_some.mp hread, hfirst, hmember⟩
  obtain ⟨bytes, hspelling, hspelled⟩ := Json.string_eq_ok.mp (Json.toOption_eq_some.mp hstring)
  obtain ⟨_, _, _, _, _, hfetch, hgives⟩ := requests_verbatim ⟨⟨"http://node"⟩, ⟨"out"⟩⟩
    { node := .tracing text } htakes
  refine ⟨text, t, htakes, hwrites, hquote, ?_⟩
  apply hfetch
  exact (hgives _ _ _ _ hwrites hquote).mpr ⟨bytes, _, hspelling, hspelled⟩

end Fetcher

end TraceArchive
