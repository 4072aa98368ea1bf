import TraceArchive.Proofs.Fetch.Result
import TraceArchive.Proofs.Json.Spaced
import TraceArchive.Proofs.Json.Taking
import TraceArchive.Proofs.Json.Yields
/-!
When a transaction counts as not found although the node gave a result.  A result that is neither
null nor the empty array makes the transaction not found exactly if its text is an error object:
such a text fails to be traces, and is then taken for the error object that it would be on its own.
-/

namespace TraceArchive

open Json (Value)
open Fetch (Error)

namespace Json

variable {depth : Nat} {s r rest : Bytes} {text : Bytes}

/-- A text that begins as null and ends where null does is null. -/
theorem value_of_word {policy : ObjectPolicy} (hs : skipBlanks s = 0x6E :: r)
    (h : word nullTail r = .ok rest) : value policy depth s = .ok (.null, rest) := by
  rw [value.eq_def]
  simp only [hs, ↓reduceIte, h]
  rfl

/-- Only an array that closes at once gathers nothing. -/
theorem nextItem_of_foldItems_nil {policy : ObjectPolicy} {fuel : Nat}
    (h : foldItems .building
      (fun items s => do
        let (v, rest) ← value policy depth s
        return (v :: items, rest)) (fuel + 1) true [] r = .ok ([], rest)) :
    nextItem .building true r = .ok (.closed rest) := by
  rw [foldItems] at h
  cases hnext : nextItem .building true r with
  | error fault =>
      rw [hnext] at h
      cases h
  | ok next =>
      cases next with
      | closed left =>
          rw [hnext] at h
          obtain ⟨_, rfl⟩ := Prod.mk.inj (Except.ok.inj h)
          rfl
      | more left =>
          rw [hnext] at h
          have hyields : Yields
              ((do
                let (v, rest) ← value policy depth left
                return (v :: [], rest)) >>= fun found => foldItems .building
                  (fun items s => do
                    let (v, rest) ← value policy depth s
                    return (v :: items, rest)) fuel false found.1 found.2)
              (fun found : List Value × Bytes => found.1 ≠ []) := by
            refine Yields.bind (P := fun found : List Value × Bytes => found.1 ≠ [])
              (Yields.bind_any fun _ => .ok (List.cons_ne_nil _ [])) fun items hitems => ?_
            refine yields_foldItems (I := fun items : List Value => items ≠ []) ?_ hitems
            exact fun items s _ => Yields.bind_any fun _ => .ok (List.cons_ne_nil _ items)
          exact absurd rfl (hyields _ h)

/-- An array without items is one under every policy. -/
theorem value_of_arrayOf_nil {policy : ObjectPolicy} {expected : String}
    (h : arrayOf expected depth s = .ok ([], rest)) :
    value policy depth s = .ok (.array [], rest) := by
  rw [arrayOf] at h
  cases hs : skipBlanks s with
  | nil =>
      rw [hs] at h
      cases h
  | cons b r =>
      rw [hs] at h
      simp only at h
      split_ifs at h with hb
      · subst hb
        cases depth with
        | zero => cases h
        | succ depth =>
            obtain ⟨⟨items, left⟩, hfold, hitems⟩ := bind_eq_ok.mp h
            obtain ⟨hnil, rfl⟩ := Prod.mk.inj (Except.ok.inj hitems)
            obtain rfl := List.reverse_eq_nil_iff.mp hnil
            have hnext := nextItem_of_foldItems_nil hfold
            rw [← value_skipBlanks, hs, value_bracket, foldItems, hnext]
            rfl
      · exact absurd h (mismatch_ne_ok expected (b :: r) ([], rest))

end Json

/-! ## Readings of a result -/

namespace Rpc

variable {text : Bytes} {object : ErrorObject}

theorem read_orNull_eq_none {wanted : Wanted α} {s rest : Bytes} :
    wanted.orNull.read s = .ok (none, rest) ↔
      ∃ r, Json.skipBlanks s = 0x6E :: r ∧ Json.word Json.nullTail r = .ok rest := by
  simp only [Wanted.orNull]
  cases hs : Json.skipBlanks s with
  | nil => cases wanted.read [] <;> simp [bind, Except.bind, pure, Except.pure]
  | cons b r =>
      by_cases hb : b = 0x6E
      · cases hword : Json.word Json.nullTail r <;>
          simp [hb, hword, bind, Except.bind, pure, Except.pure]
      · cases hread : wanted.read (b :: r) <;>
          simp [hb, hread, bind, Except.bind, pure, Except.pure]

/-- No traces are read from null and from an array without items alone. -/
theorem parse_of_no_traces {answer : Option (List Value)}
    (h : Json.document Wanted.values.orNull.read text = .ok answer)
    (hnone : answer = none ∨ answer = some []) :
    Value.parse text = .ok .null ∨ Value.parse text = .ok (.array []) := by
  rcases hnone with rfl | rfl
  · obtain ⟨rest, hread, hrest⟩ := Json.document_eq_ok_iff.mp h
    obtain ⟨r, hs, hword⟩ := read_orNull_eq_none.mp hread
    exact Or.inl (Json.document_eq_ok_iff.mpr ⟨rest, Json.value_of_word hs hword, hrest⟩)
  · obtain ⟨rest, hread, hrest⟩ :=
      Json.document_eq_ok_iff.mp (Wanted.document_values_orNull.mp h)
    exact Or.inr (Json.document_eq_ok_iff.mpr ⟨rest, Json.value_of_arrayOf_nil hread, hrest⟩)

/-- An error object begins with its brace. -/
theorem head_of_errorObject (h : ErrorObject.parse text = .ok object) :
    (Json.skipBlanks text).head? = some 0x7B := by
  obtain ⟨rest, hread, _⟩ := Json.document_eq_ok_iff.mp h
  rw [readObject] at hread
  cases hs : Json.skipBlanks text with
  | nil =>
      rw [hs] at hread
      cases hread
  | cons b r =>
      rw [hs] at hread
      simp only at hread
      split_ifs at hread with hbrace hbracket
      · rw [hbrace]
        rfl
      · cases hread
      · exact absurd hread (Json.mismatch_ne_ok _ _ _)

/-- A text that is an error object reads as no traces, nor as null. -/
theorem ofText_of_errorObject {text : String}
    (h : ErrorObject.parse (Utf8.ofString text) = .ok object) :
    Wanted.values.orNull.ofText text = .error (.refused object) := by
  have hhead := head_of_errorObject h
  have hread (answer : Option (List Value)) :
      Json.document Wanted.values.orNull.read (Utf8.ofString text) ≠ .ok answer := by
    intro hanswer
    cases answer with
    | none =>
        obtain ⟨rest, hread, _⟩ := Json.document_eq_ok_iff.mp hanswer
        obtain ⟨r, hs, _⟩ := read_orNull_eq_none.mp hread
        rw [hs] at hhead
        cases hhead
    | some traces =>
        obtain ⟨rest, hread, _⟩ :=
          Json.document_eq_ok_iff.mp (Wanted.document_values_orNull.mp hanswer)
        rw [Wanted.values_read] at hread
        have hbracket := Json.head_of_arrayOf hread
        rw [hhead] at hbracket
        cases hbracket
  rw [Wanted.ofText]
  cases hdocument : Json.document Wanted.values.orNull.read (Utf8.ofString text) with
  | ok answer => exact absurd hdocument (hread answer)
  | error e => simp only [Fault.ofText, h]

theorem errorObject_of_ofText {wanted : Wanted α} {text : String}
    (h : wanted.ofText text = .error (.refused object)) :
    ErrorObject.parse (Utf8.ofString text) = .ok object := by
  rw [Wanted.ofText] at h
  cases hdocument : Json.document wanted.read (Utf8.ofString text) with
  | ok v =>
      rw [hdocument] at h
      cases h
  | error e =>
      rw [hdocument] at h
      simp only [Fault.ofText, Except.error.injEq] at h
      cases hparse : ErrorObject.parse (Utf8.ofString text) with
      | ok found =>
          rw [hparse] at h
          rw [Fault.refused.inj h]
      | error e =>
          rw [hparse] at h
          cases h

/-- A body that gives a result. -/
def resultBody (text : String) : Bytes :=
  Utf8.ofString ("\x7b\"result\":" ++ text ++ "\x7d")

section Results

open Json

variable {text : String} {depth : Nat} {blanks : Blanks}

/-- The member of a body that gives a result. -/
def resultPart (text : String) : NamedPiece where
  lead := .empty
  before := .empty
  name := Utf8.encode (Json.quoted "result")
  afterName := .empty
  afterColon := .empty
  text := Utf8.ofString text

theorem resultBody_eq (text : String) :
    resultBody text = 0x7B :: piecesText 0x7D true .empty [(resultPart text).piece] := by
  have hopen : Utf8.encode "\x7b\"result\":".toList =
      0x7B :: (Utf8.encode (Json.quoted "result") ++ [0x3A]) := by decide
  have hclose : Utf8.encode "\x7d".toList = [0x7D] := by decide
  rw [resultBody, Utf8.ofString, String.toList_append, String.toList_append, Utf8.encode_append,
    Utf8.encode_append, hopen, hclose]
  simp [piecesText, NamedPiece.piece, NamedPiece.valued, resultPart, comma, Utf8.ofString]

/-- A response takes its result as it is written. -/
theorem readMember_result {d : Response.Draft} {written named left : Bytes}
    (hwritten : written = Utf8.ofString text) (h : Grammatical written) (hleft : EndsNumber left)
    (hcolon : colon named = .ok (blanks.bytes ++ (written ++ left))) :
    (Response.shape.readMember depth d "result" named).toOption =
      if d.result.isSome then none else some ({ d with result := some text }, left) := by
  have hfind : Response.shape.fields.find? (·.name = "result") = some Response.resultField := rfl
  subst hwritten
  rw [Shape.readMember, hfind, hcolon]
  obtain ⟨result, failure, hasId⟩ := d
  cases result with
  | some taken => rfl
  | none =>
      change (Json.rawValue _ >>= _).toOption = _
      rw [h.rawValue blanks hleft]
      rfl

/-- An object whose only member is a result is read as that, however it is written. -/
theorem readMembers_result {m : NamedPiece} (hname : Quotes "result" m.name)
    (htext : m.text = Utf8.ofString text) (h : Grammatical m.text) (last : Blanks) (depth : Nat)
    (rest : Bytes) :
    Response.shape.readMembers depth (piecesText 0x7D true last [m.piece] ++ rest) =
      .ok ({ result := some text }, rest) := by
  have hnamed : ∀ n ∈ [("result", m)], ∃ body, n.2.name = 0x22 :: body ∧
      ∀ later, Json.Gives string (body ++ later) n.1 later :=
    List.forall_mem_singleton.mpr hname.string
  have hfound := members_pieces (P := (· = m)) (f := id) hnamed
    (List.forall_mem_singleton.mpr rfl) true last rest
  have htakes : Takes (Stands (· = m) fun n => n.afterColon.bytes ++ n.text) :=
    takes_stands fun n hn => List.append_ne_nil_of_right_ne_nil _ (hn ▸ h.ne_nil)
  have hwalk : (foldMembers .building string (Response.shape.readMember depth) _ true
      Response.shape.blank _).toOption = _ :=
    hfound.fold takes_string htakes id
      (fun d _ => if d.result.isSome then none else some { d with result := some text })
      (fun _ _ _ h => h) ?_ (Nat.lt_succ_self _) Response.shape.blank
  · rw [Shape.readMembers_eq, ← toOption_eq_some]
    exact hwalk
  · rintro d _ named _ n left hmem _ hcolon ⟨rfl, hleft, rfl⟩
    obtain ⟨rfl, _⟩ := Prod.mk.inj (List.mem_singleton.mp hmem)
    rw [List.append_assoc] at hcolon
    refine (readMember_result htext h hleft hcolon).trans ?_
    cases d.result <;> rfl

/-- A text of the grammar is the result of the body that it is put into. -/
theorem Packet.parse_resultBody (h : Grammatical (Utf8.ofString text)) :
    Packet.parse (resultBody text) = .ok (.single (.result text)) := by
  have hread := readMembers_result (m := resultPart text) (quotes_quoted "result") rfl h
    .empty 126 []
  have hopen : skipBlanks (resultBody text) = resultBody text := by
    rw [resultBody_eq]
    exact skipBlanks_cons (by decide) _
  rw [Packet.parse, document_eq_ok_iff]
  refine ⟨[], ?_, rfl⟩
  rw [List.append_nil] at hread
  rw [Packet.read, hopen, resultBody_eq]
  simp only [↓reduceIte]
  rw [Shape.read, skipBlanks_cons (by decide)]
  change ((Response.shape.readMembers 126 _ >>= _) >>= _) = _
  rw [hread]
  rfl

end Results

/-- A text of the grammar that is read as a value with a member of the name. -/
def HasMember (name text : String) : Prop :=
  Json.Grammatical (Utf8.ofString text) ∧
    ((Value.parse (Utf8.ofString text)).toOption.bind (·.get? name)).isSome

instance (name text : String) : Decidable (HasMember name text) :=
  inferInstanceAs (Decidable (_ ∧ _))

theorem HasMember.parse {name text : String} (h : HasMember name text) :
    Packet.parse (resultBody text) = .ok (.single (.result text)) ∧
      Value.parse (Utf8.ofString text) ≠ .ok .null ∧
      Value.parse (Utf8.ofString text) ≠ .ok (.array []) := by
  obtain ⟨hgrammatical, hmember⟩ := h
  refine ⟨Packet.parse_resultBody hgrammatical, ?_, ?_⟩
  · intro hparse
    rw [hparse] at hmember
    cases hmember
  · intro hparse
    rw [hparse] at hmember
    cases hmember

/-- A text that is an error object on its own. -/
def IsErrorObject (text : String) : Prop :=
  ∃ object, ErrorObject.parse (Utf8.ofString text) = .ok object

instance (text : String) : Decidable (IsErrorObject text) :=
  decidable_of_iff ((ErrorObject.parse (Utf8.ofString text)).toOption.isSome) <| by
    rw [IsErrorObject]
    cases ErrorObject.parse (Utf8.ofString text) <;> simp [Except.toOption]

end Rpc

theorem Client.answerOf_of_result {wanted : Rpc.Wanted α} {body : Bytes} {text : String}
    (h : Rpc.Packet.parse body = .ok (.single (.result text))) :
    Client.answerOf wanted (.reply 200 body) = some (wanted.ofText text) := by
  rw [Client.answerOf, if_neg (by decide), Rpc.Body.ofBytes_eq_result.mpr h]

/-- A node that answers the first request with a result and then drops connections. -/
def Node.resulting (text : String) : Node :=
  .replaying [.reply 200 (Rpc.resultBody text)]

namespace Fetcher

variable {f : Fetcher} {hash text : String} {w : World} {body : Bytes}

/-- What the request for traces comes to if the node gives a result. -/
theorem tracesAnswer_of_result (hreply : f.client.tracesReply w hash = .reply 200 body)
    (hbody : Rpc.Packet.parse body = .ok (.single (.result text))) :
    f.tracesAnswer hash w = some (Rpc.Wanted.values.orNull.ofText text) := by
  rw [tracesAnswer, hreply, Client.answerOf_of_result hbody]

/-- A result that is neither null nor the empty array makes a transaction not found exactly if its
text is an error object. -/
theorem fetch_notFound_iff_errorObject
    (hreply : f.client.tracesReply w hash = .reply 200 body)
    (hbody : Rpc.Packet.parse body = .ok (.single (.result text)))
    (hnull : Value.parse (Utf8.ofString text) ≠ .ok .null)
    (hempty : Value.parse (Utf8.ofString text) ≠ .ok (.array [])) :
    (∃ a w', (f.fetch hash : Trial (Except Error Outcome)).runIn w =
      (.ok (.ok (.notFound a)), w')) ↔ Rpc.IsErrorObject text := by
  have hanswer := tracesAnswer_of_result hreply hbody
  constructor
  · rintro ⟨a, w', hrun⟩
    cases runIn_fetch_eq_ok.mp hrun with
    | noTraces htraces hnone =>
        rw [hanswer, Option.some.injEq, Rpc.Wanted.ofText_eq_ok] at htraces
        rcases Rpc.parse_of_no_traces htraces hnone with hparse | hparse
        · exact absurd hparse hnull
        · exact absurd hparse hempty
    | @refused object htraces =>
        rw [hanswer, Option.some.injEq] at htraces
        exact ⟨object, Rpc.errorObject_of_ofText htraces⟩
  · rintro ⟨object, hobject⟩
    rw [Rpc.ofText_of_errorObject hobject] at hanswer
    exact ⟨_, _, (Exit.refused hanswer).run⟩

/-- A result in the form of an error object, and one that only resembles it. -/
theorem fetch_notFound_object :
    (∃ a w', (Fetcher.fetch ⟨⟨"http://node"⟩, ⟨"out"⟩⟩ "0x7" :
        Trial (Except Error Outcome)).runIn
          { node := .resulting "\x7b\"data\":[[]],\"code\":-32000\x7d" } =
        (.ok (.ok (.notFound a)), w')) ∧
      ¬ ∃ a w', (Fetcher.fetch ⟨⟨"http://node"⟩, ⟨"out"⟩⟩ "0x7" :
        Trial (Except Error Outcome)).runIn { node := .resulting "\x7b\"code\":\"0x5\"\x7d" } =
          (.ok (.ok (.notFound a)), w') := by
  constructor
  · have hresult : Rpc.HasMember "code" "\x7b\"data\":[[]],\"code\":-32000\x7d" := by
      decide +kernel
    have hobject : Rpc.IsErrorObject "\x7b\"data\":[[]],\"code\":-32000\x7d" := by
      decide +kernel
    obtain ⟨hbody, hnull, hempty⟩ := hresult.parse
    exact (fetch_notFound_iff_errorObject rfl hbody hnull hempty).mpr hobject
  · have hresult : Rpc.HasMember "code" "\x7b\"code\":\"0x5\"\x7d" := by
      decide +kernel
    have hobject : ¬ Rpc.IsErrorObject "\x7b\"code\":\"0x5\"\x7d" := by
      decide +kernel
    obtain ⟨hbody, hnull, hempty⟩ := hresult.parse
    rwa [fetch_notFound_iff_errorObject rfl hbody hnull hempty]

/-- Traces that are not found though the node gives a result, an object with a code: it is taken for
the refusal of the request. -/
theorem fetch_notFound_code :
    ∃ body text w', (Client.mk "http://node").tracesReply
        ({ node := .resulting "\x7b\"code\":5\x7d" } : World) "0x7" = .reply 200 body ∧
      Rpc.Packet.parse body = .ok (.single (.result text)) ∧
      Value.parse (Utf8.ofString text) ≠ .ok .null ∧
      Value.parse (Utf8.ofString text) ≠ .ok (.array []) ∧
      (Fetcher.fetch ⟨⟨"http://node"⟩, ⟨"out"⟩⟩ "0x7" : Trial (Except Error Outcome)).runIn
        { node := .resulting "\x7b\"code\":5\x7d" } = (.ok (.ok (.notFound .standard)), w') := by
  have hresult : Rpc.HasMember "code" "\x7b\"code\":5\x7d" := by decide +kernel
  have hobject : Rpc.IsErrorObject "\x7b\"code\":5\x7d" := by decide +kernel
  obtain ⟨hbody, hnull, hempty⟩ := hresult.parse
  obtain ⟨object, hobject⟩ := hobject
  have hanswer : tracesAnswer ⟨⟨"http://node"⟩, ⟨"out"⟩⟩ "0x7"
      ({ node := .resulting "\x7b\"code\":5\x7d" } : World) =
        some (.error (.refused object)) := by
    rw [tracesAnswer_of_result rfl hbody, Rpc.ofText_of_errorObject hobject]
  exact ⟨_, _, _, rfl, hbody, hnull, hempty, (Exit.refused hanswer).run⟩

end Fetcher

end TraceArchive
