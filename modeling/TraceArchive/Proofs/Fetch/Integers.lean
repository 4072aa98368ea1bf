import TraceArchive.Proofs.Fetch.Opaque
import TraceArchive.Proofs.Json.Numerals
/-!
What becomes of integers in traces.  Those of 64 bits, signed or unsigned, are written as they came.
Of any other the leading digits that fit 64 bits are scaled by a power of ten: what is written is
the double that this comes to, and no integer at all.
-/

namespace TraceArchive

open Json (Value)
open Fetch (Error)

namespace Json

/-- The number of a literal is what is read at the literal's place. -/
theorem number_of_literalAt? {depth : Nat} {s rest : Bytes} {v : Value} {path : List Step}
    {l : Literal} (h : value .usual depth s = .ok (v, rest)) (hl : literalAt? path s = some l) :
    ∃ n left, v.at? path = some (.number n) ∧ l.toNumber left = .ok n := by
  obtain ⟨u, hu, hsettle⟩ := exists_settled h
  obtain ⟨t, ht, hliteral⟩ := Option.bind_eq_some_iff.mp hl
  obtain ⟨x, inner, left, hx, hread⟩ := at?_of_textAt? hu ht
  obtain ⟨n, rfl, hn⟩ := (verbatim_of_value hread).number_of_literalIn? hliteral
  obtain ⟨y, hy, hat⟩ | ⟨text, htext⟩ := Value.at?_settle hsettle hx
  · obtain rfl : .number n = y := Option.some.inj hy
    exact ⟨n, left, hat, hn⟩
  · cases htext

end Json

namespace Fetcher

variable {f : Fetcher} {hash : String} {w w' : World} {e : Entry} {body : Bytes} {text : String}
  {path : List Json.Step} {l : Json.Literal} {n : Int}

/-- Where a literal stood in the traces, the file has the text of its number. -/
theorem Exit.literal_kept (h : f.Exit hash w (.ok (.found e)) w')
    (hreply : f.client.tracesReply w hash = .reply 200 body)
    (hbody : Rpc.Packet.parse body = .ok (.single (.result text)))
    (hliteral : Json.literalAt? path (Utf8.ofString text) = some l) :
    ∃ number left content kept, l.toNumber left = .ok number ∧
      w'.disk.read (f.outputPath hash) = .ok content ∧
      Json.literalAt? (.member "traces" :: path) content = some kept ∧
      kept.text = number.text ∧ kept.integer? = number.integer? := by
  obtain ⟨rest, hread⟩ := h.traces hreply hbody
  obtain ⟨number, left, hat, hnumber⟩ := Json.number_of_literalAt? hread hliteral
  obtain ⟨content, hcontent, hbegins⟩ := h.begins
  obtain ⟨kept, hkept, htext, hinteger⟩ :=
    hbegins.literalAt? ((at?_traces e path).trans hat)
  exact ⟨number, left, content, kept, hnumber, hcontent, hkept, htext, hinteger⟩

/-- Where an integer stood in the traces of an entry, the file has the same integer if it is one of
64 bits.  Otherwise it has the text of the double that the literal is read as, which is no integer.
-/
theorem fetch_found_integers
    (hrun : (f.fetch hash : Trial (Except Error Outcome)).runIn w = (.ok (.ok (.found e)), w'))
    (hreply : f.client.tracesReply w hash = .reply 200 body)
    (hbody : Rpc.Packet.parse body = .ok (.single (.result text)))
    (hliteral : Json.literalAt? path (Utf8.ofString text) = some l)
    (hinteger : l.integer? = some n) :
    ∃ content kept, w'.disk.read (f.outputPath hash) = .ok content ∧
      Json.literalAt? (.member "traces" :: path) content = some kept ∧
      (Json.IntegerFits n → kept.integer? = some n) ∧
      (¬ Json.IntegerFits n →
        kept.integer? = none ∧ ∃ d, l.double? = some d ∧ kept.text = d.text) := by
  obtain ⟨number, left, content, kept, hnumber, hcontent, hkept, htext, hsame⟩ :=
    (runIn_fetch_eq_ok.mp hrun).literal_kept hreply hbody hliteral
  rw [Json.Literal.toNumber_of_integer? hinteger] at hnumber
  refine ⟨content, kept, hcontent, hkept, fun fits => ?_, fun hlarge => ?_⟩
  · rw [dif_pos fits] at hnumber
    obtain rfl := Except.ok.inj hnumber
    exact hsame
  · rw [dif_neg hlarge] at hnumber
    split at hnumber
    · rename_i d hd
      obtain rfl := Except.ok.inj hnumber
      exact ⟨hsame, d, hd, htext⟩
    · cases hnumber

/-- A trace with the least integer of 64 bits, and with one that has no place in them. -/
def extremes : String :=
  "[\x7b\"blockNumber\":\"0x1\",\"least\":-9223372036854775808," ++
    "\"beyond\":18446744073709551616\x7d]"

/-- The least integer of 64 bits is still in the file. -/
theorem fetch_found_integers_least :
    ∃ e w' content kept, (Fetcher.fetch ⟨⟨"http://node"⟩, ⟨"out"⟩⟩ "0x7" :
        Trial (Except Error Outcome)).runIn { node := .tracing extremes } =
          (.ok (.ok (.found e)), w') ∧
      w'.disk.read ⟨"out/0x7_trace.json"⟩ = .ok content ∧
      Json.literalAt? [.member "traces", .item 0, .member "least"] content = some kept ∧
      kept.integer? = some (-0x8000000000000000) := by
  have htraceable : Traceable extremes := by decide +kernel
  have hplace : (Json.literalAt? [.item 0, .member "least"] (Utf8.ofString extremes)).bind
      Json.Literal.integer? = some (-0x8000000000000000) := by decide +kernel
  obtain ⟨l, hliteral, hinteger⟩ := Option.bind_eq_some_iff.mp hplace
  obtain ⟨hbody, e, w', hrun⟩ := htraceable.found
  obtain ⟨content, kept, hcontent, hkept, hsame, _⟩ :=
    fetch_found_integers hrun rfl hbody hliteral hinteger
  exact ⟨e, w', content, kept, hrun, hcontent, hkept, hsame (by decide)⟩

/-- The integer `2 ^ 64` is not: the file has a number with an exponent there. -/
theorem fetch_found_rounds :
    ∃ l e w' content kept,
      Json.literalAt? [.item 0, .member "beyond"] (Utf8.ofString extremes) = some l ∧
      l.integer? = some 0x10000000000000000 ∧
      (Fetcher.fetch ⟨⟨"http://node"⟩, ⟨"out"⟩⟩ "0x7" :
        Trial (Except Error Outcome)).runIn { node := .tracing extremes } =
          (.ok (.ok (.found e)), w') ∧
      w'.disk.read ⟨"out/0x7_trace.json"⟩ = .ok content ∧
      Json.literalAt? [.member "traces", .item 0, .member "beyond"] content = some kept ∧
      kept.integer? = none ∧ kept.text = "1.8446744073709552e+19".toList := by
  have htraceable : Traceable extremes := by decide +kernel
  have hplace : (Json.literalAt? [.item 0, .member "beyond"] (Utf8.ofString extremes)).map
      (fun l => (l.integer?, l.double?.map Double.text)) =
        some (some 0x10000000000000000, some "1.8446744073709552e+19".toList) := by
    decide +kernel
  obtain ⟨l, hliteral, hparts⟩ := Option.map_eq_some_iff.mp hplace
  obtain ⟨hinteger, hdouble⟩ := Prod.mk.inj hparts
  obtain ⟨hbody, e, w', hrun⟩ := htraceable.found
  obtain ⟨number, left, content, kept, hnumber, hcontent, hkept, htext, hsame⟩ :=
    (runIn_fetch_eq_ok.mp hrun).literal_kept rfl hbody hliteral
  obtain ⟨d, hd, hround⟩ := Option.map_eq_some_iff.mp hdouble
  rw [Json.Literal.toNumber_of_integer? hinteger, dif_neg (by decide), hd] at hnumber
  obtain rfl := Except.ok.inj hnumber
  exact ⟨l, e, w', content, kept, hliteral, hinteger, hrun, hcontent, hkept, hsame,
    htext.trans hround⟩

end Fetcher

end TraceArchive
