import TraceArchive.Proofs.Fetch.Refusal
import TraceArchive.Proofs.Json.Taking
import TraceArchive.Proofs.Json.Spaced
/-!
When a transaction is not found.  That depends on the first reply alone: its status is 200, and its
body `Denies` the transaction, by a result without traces or by an error object, which can stand in
three places.  Every other status and every connection that fails make the fetch fail.
-/

namespace TraceArchive

open Json (Value)
open Fetch (Error)

namespace Json

variable {s rest : Bytes} {depth : Nat}

/-- An array without items closes where it opened, blanks apart. -/
theorem arrayOf_eq_nil {expected : String} :
    arrayOf expected (depth + 1) s = .ok ([], rest) ↔
      ∃ r, skipBlanks s = 0x5B :: r ∧ skipBlanks r = 0x5D :: rest := by
  constructor
  · intro hread
    obtain ⟨r, hs⟩ := List.head?_eq_some_iff.mp (head_of_arrayOf hread)
    rw [← arrayOf_skipBlanks, hs, arrayOf_bracket] at hread
    obtain ⟨⟨items, left⟩, hfold, hitems⟩ := bind_eq_ok.mp hread
    obtain ⟨hnil, rfl⟩ := Prod.mk.inj (Except.ok.inj hitems)
    obtain rfl := List.reverse_eq_nil_iff.mp hnil
    exact ⟨r, hs, nextItem_eq_closed.mp (nextItem_of_foldItems_nil hfold)⟩
  · rintro ⟨r, hs, hr⟩
    rw [← arrayOf_skipBlanks, hs, arrayOf_bracket, foldItems, nextItem_eq_closed.mpr hr]
    rfl

end Json

namespace Rpc

variable {text : Bytes} {body : Bytes}

/-- The text is null or an array without items, with blanks of any kind. -/
inductive WritesNone : Bytes → Prop
  | null (before after : Json.Blanks) :
      WritesNone (before.bytes ++ 0x6E :: (Json.nullTail ++ after.bytes))
  | empty (before inner after : Json.Blanks) :
      WritesNone (before.bytes ++ 0x5B :: (inner.bytes ++ 0x5D :: after.bytes))

/-- The bodies by which a node denies that it knows a transaction. -/
inductive Denies (body : Bytes) : Prop
  /-- The result is null or an array without items. -/
  | noTraces {text : String} (hbody : Packet.parse body = .ok (.single (.result text)))
      (hnone : WritesNone (Utf8.ofString text))
  /-- There is an error object instead of a result. -/
  | failure {object : ErrorObject} (hbody : Packet.parse body = .ok (.single (.failure object)))
  /-- The body is neither a response nor a batch of them, but an error object on its own. -/
  | bare {e : Json.Error} (hbody : Packet.parse body = .error e)
      (hobject : IsErrorObject (String.ofList (Utf8.decodeLossy body)))
  /-- The result is neither null nor an array of values, but an error object on its own. -/
  | posing {text : String} (hbody : Packet.parse body = .ok (.single (.result text)))
      (hother : ∀ answer, Json.document Wanted.values.orNull.read (Utf8.ofString text) ≠ .ok answer)
      (hobject : IsErrorObject text)

/-- No traces are read exactly from such a text. -/
theorem writesNone_iff :
    WritesNone text ↔ ∃ answer, Json.document Wanted.values.orNull.read text = .ok answer ∧
      (answer = none ∨ answer = some []) := by
  constructor
  · intro h
    cases h with
    | null before after =>
        refine ⟨none, Json.document_eq_ok_iff.mpr ⟨after.bytes, ?_, ?_⟩, Or.inl rfl⟩
        · exact read_orNull_eq_none.mpr
            ⟨_, (Json.skipBlanks_eq_cons rfl).mpr ⟨before, rfl⟩, Json.word_eq_ok.mpr rfl⟩
        · exact Json.skipBlanks_eq_nil.mpr ⟨after, rfl⟩
    | empty before inner after =>
        refine ⟨some [], Wanted.document_values_orNull.mpr ?_, Or.inr rfl⟩
        refine Json.document_eq_ok_iff.mpr
          ⟨after.bytes, ?_, Json.skipBlanks_eq_nil.mpr ⟨after, rfl⟩⟩
        exact Json.arrayOf_eq_nil.mpr ⟨_, (Json.skipBlanks_eq_cons rfl).mpr ⟨before, rfl⟩,
          (Json.skipBlanks_eq_cons rfl).mpr ⟨inner, rfl⟩⟩
  · rintro ⟨answer, hdocument, rfl | rfl⟩
    · obtain ⟨rest, hread, hrest⟩ := Json.document_eq_ok_iff.mp hdocument
      obtain ⟨r, hs, hword⟩ := read_orNull_eq_none.mp hread
      obtain ⟨before, rfl⟩ := (Json.skipBlanks_eq_cons rfl).mp hs
      obtain rfl := Json.word_eq_ok.mp hword
      obtain ⟨after, rfl⟩ := Json.skipBlanks_eq_nil.mp hrest
      exact .null before after
    · obtain ⟨rest, hread, hrest⟩ :=
        Json.document_eq_ok_iff.mp (Wanted.document_values_orNull.mp hdocument)
      obtain ⟨r, hs, hr⟩ := Json.arrayOf_eq_nil.mp hread
      obtain ⟨before, rfl⟩ := (Json.skipBlanks_eq_cons rfl).mp hs
      obtain ⟨inner, rfl⟩ := (Json.skipBlanks_eq_cons rfl).mp hr
      obtain ⟨after, rfl⟩ := Json.skipBlanks_eq_nil.mp hrest
      exact .empty before inner after

/-- What a text that is no reply is taken for: a refusal exactly if it is an error object. -/
theorem ofText_eq_refused {e : Json.Error} {text : String} {object : ErrorObject} :
    Fault.ofText e text = .refused object ↔
      ErrorObject.parse (Utf8.ofString text) = .ok object := by
  rw [Fault.ofText]
  cases ErrorObject.parse (Utf8.ofString text) <;> simp

end Rpc

namespace Client

variable {wanted : Rpc.Wanted α} {body : Bytes}

theorem answerOf_of_failure {object : Rpc.ErrorObject}
    (h : Rpc.Packet.parse body = .ok (.single (.failure object))) :
    answerOf wanted (.reply 200 body) = some (.error (.refused object)) := by
  rw [answerOf, if_neg (by decide), Rpc.Body.ofBytes, h]

theorem answerOf_of_error {e : Json.Error} (h : Rpc.Packet.parse body = .error e) :
    answerOf wanted (.reply 200 body) =
      some (.error (.ofText e (String.ofList (Utf8.decodeLossy body)))) := by
  rw [answerOf, if_neg (by decide), Rpc.Body.ofBytes, h]

/-- A delivery answers a call for traces by none, or refuses it. -/
inductive Denied (d : Delivery) : Prop
  | noTraces {answer : Option (List Value)}
      (hanswer : answerOf Rpc.Wanted.values.orNull d = some (.ok answer))
      (hnone : answer = none ∨ answer = some [])
  | refused {object : Rpc.ErrorObject}
      (hanswer : answerOf Rpc.Wanted.values.orNull d = some (.error (.refused object)))

theorem Denied.of_denies (h : Rpc.Denies body) : Denied (.reply 200 body) := by
  cases h with
  | noTraces hbody hnone =>
      obtain ⟨answer, hread, hanswer⟩ := Rpc.writesNone_iff.mp hnone
      apply Denied.noTraces _ hanswer
      rw [answerOf_of_result hbody, Rpc.Wanted.ofText_eq_ok.mpr hread]
  | failure hbody => exact .refused (answerOf_of_failure hbody)
  | bare hbody hobject =>
      obtain ⟨object, hobject⟩ := hobject
      apply Denied.refused
      rw [answerOf_of_error hbody, Rpc.ofText_eq_refused.mpr hobject]
  | posing hbody hother hobject =>
      obtain ⟨object, hobject⟩ := hobject
      apply Denied.refused
      rw [answerOf_of_result hbody, Rpc.ofText_of_errorObject hobject]

theorem Denied.denies (h : Denied (.reply 200 body)) : Rpc.Denies body := by
  cases hbody : Rpc.Packet.parse body with
  | error e =>
      cases h with
      | noTraces hanswer _ =>
          rw [answerOf_of_error hbody] at hanswer
          cases hanswer
      | @refused object hanswer =>
          rw [answerOf_of_error hbody, Option.some.injEq, Except.error.injEq,
            Rpc.ofText_eq_refused] at hanswer
          exact .bare hbody ⟨object, hanswer⟩
  | ok packet =>
      match packet with
      | .single (.failure object) => exact .failure hbody
      | .batch responses =>
          have hbatch : answerOf Rpc.Wanted.values.orNull (.reply 200 body) = none :=
            answerOf_eq_none.mpr ⟨body, responses, rfl, hbody⟩
          cases h with
          | noTraces hanswer _ => cases hbatch.symm.trans hanswer
          | refused hanswer => cases hbatch.symm.trans hanswer
      | .single (.result text) =>
          cases h with
          | @noTraces answer hanswer hnone =>
              rw [answerOf_of_result hbody, Option.some.injEq, Rpc.Wanted.ofText_eq_ok] at hanswer
              exact .noTraces hbody (Rpc.writesNone_iff.mpr ⟨answer, hanswer, hnone⟩)
          | @refused object hanswer =>
              rw [answerOf_of_result hbody, Option.some.injEq] at hanswer
              apply Rpc.Denies.posing hbody
              · intro answer hread
                rw [Rpc.Wanted.ofText_eq_ok.mpr hread] at hanswer
                cases hanswer
              · exact ⟨object, Rpc.errorObject_of_ofText hanswer⟩

/-- Only a reply of status 200 is an answer or a refusal. -/
theorem answerOf_of_other {d : Delivery} (h : ∀ body, d ≠ .reply 200 body) :
    ∃ fault, answerOf wanted d = some (.error (.transport fault)) := by
  cases d with
  | refused => exact ⟨_, rfl⟩
  | dropped => exact ⟨_, rfl⟩
  | reply status body =>
      have hstatus : status ≠ 200 := by
        rintro rfl
        exact h body rfl
      rw [answerOf, if_pos hstatus]
      exact ⟨_, rfl⟩

/-- A delivery denies a transaction exactly by its body, under status 200. -/
theorem denied_iff {d : Delivery} :
    Denied d ↔ ∃ body, d = .reply 200 body ∧ Rpc.Denies body := by
  constructor
  · intro h
    by_cases hreply : ∃ body, d = .reply 200 body
    · obtain ⟨body, rfl⟩ := hreply
      exact ⟨body, rfl, h.denies⟩
    · obtain ⟨fault, hfault⟩ : ∃ fault,
          answerOf Rpc.Wanted.values.orNull d = some (.error (.transport fault)) :=
        answerOf_of_other (not_exists.mp hreply)
      cases h with
      | noTraces hanswer _ => cases hfault.symm.trans hanswer
      | refused hanswer => cases hfault.symm.trans hanswer
  · rintro ⟨body, rfl, hdenies⟩
    exact .of_denies hdenies

end Client

namespace Fetcher

variable {f : Fetcher} {hash : String} {w w' : World} {a : Absence}

theorem fetch_notFound_iff_denied :
    (∃ a w', (f.fetch hash : Trial (Except Error Outcome)).runIn w =
      (.ok (.ok (.notFound a)), w')) ↔ Client.Denied (f.client.tracesReply w hash) := by
  constructor
  · rintro ⟨a, w', hrun⟩
    cases runIn_fetch_eq_ok.mp hrun with
    | noTraces htraces hnone => exact .noTraces htraces hnone
    | refused htraces => exact .refused htraces
  · intro h
    cases h with
    | noTraces hanswer hnone => exact ⟨_, _, (Exit.noTraces hanswer hnone).run⟩
    | refused hanswer => exact ⟨_, _, (Exit.refused hanswer).run⟩

/-- What an absence leaves: the request for traces was made, and nothing was written. -/
structure LeftAlone (hash : String) (w w' : World) : Prop where
  sent : w'.sent = w.sent + 1
  received : w'.node.received =
    w.node.received ++ [.traces hash w.sent]
  disk : w'.disk = w.disk

theorem leftAlone_of_notFound
    (h : (f.fetch hash : Trial (Except Error Outcome)).runIn w = (.ok (.ok (.notFound a)), w')) :
    a = .standard ∧ LeftAlone hash w w' := by
  obtain ⟨body, hreply, _⟩ := Client.denied_iff.mp (fetch_notFound_iff_denied.mp ⟨a, w', h⟩)
  have hreceived := Node.received_send _ _ _ hreply
  cases runIn_fetch_eq_ok.mp h with
  | noTraces _ _ => exact ⟨rfl, rfl, hreceived, rfl⟩
  | refused _ => exact ⟨rfl, rfl, hreceived, rfl⟩

/-- A transaction is not found exactly if the request for its traces is answered, under status 200,
by a body that denies it.  Only that request is made then, and the disk stays as it is.  Under any
other status, and where no reply comes, the fetch fails. -/
theorem fetch_notFound_iff (f : Fetcher) (hash : String) (w : World) :
    ((∃ a w', (f.fetch hash : Trial (Except Error Outcome)).runIn w =
        (.ok (.ok (.notFound a)), w')) ↔
      ∃ body, f.client.tracesReply w hash = .reply 200 body ∧ Rpc.Denies body) ∧
    (∀ a w', (f.fetch hash : Trial (Except Error Outcome)).runIn w =
        (.ok (.ok (.notFound a)), w') → a = .standard ∧ LeftAlone hash w w') ∧
    ((∀ body, f.client.tracesReply w hash ≠ .reply 200 body) →
      ∃ e w', (f.fetch hash : Trial (Except Error Outcome)).runIn w = (.ok (.error e), w')) := by
  refine ⟨fetch_notFound_iff_denied.trans Client.denied_iff, ?_, ?_⟩
  · intro a w' hrun
    exact leftAlone_of_notFound hrun
  · intro hother
    obtain ⟨fault, hfault⟩ := Client.answerOf_of_other hother
    have hexit : f.Exit hash w _ _ := .tracesFault hfault (by intro object heq; cases heq)
    exact ⟨_, _, hexit.run⟩

/-- A body that is no text, and an error object on its own once the byte that belongs to no
character is replaced: it denies a transaction under status 200 alone. -/
theorem fetch_notFound_bare :
    ∃ body : Bytes, Utf8.decode body = none ∧
      (∃ a w', (Fetcher.fetch ⟨⟨"http://node"⟩, ⟨"out"⟩⟩ "0x7" :
        Trial (Except Error Outcome)).runIn { node := .replaying [.reply 200 body] } =
          (.ok (.ok (.notFound a)), w')) ∧
      ∃ e w', (Fetcher.fetch ⟨⟨"http://node"⟩, ⟨"out"⟩⟩ "0x7" :
        Trial (Except Error Outcome)).runIn { node := .replaying [.reply 404 body] } =
          (.ok (.error e), w') := by
  obtain ⟨body, hbody⟩ : ∃ body : Bytes, body = Utf8.ofString "\x7b\"code\":-32000,\"message\":\""
      ++ 0xFF :: Utf8.ofString "\"\x7d" := ⟨_, rfl⟩
  have hdecode : Utf8.decode body = none := by
    subst hbody
    decide +kernel
  have hobject : Rpc.IsErrorObject (String.ofList (Utf8.decodeLossy body)) := by
    subst hbody
    decide +kernel
  have hpacket : (Rpc.Packet.parse body).toOption.isNone := by
    subst hbody
    decide +kernel
  refine ⟨body, hdecode, ?_, ?_⟩
  · cases hparse : Rpc.Packet.parse body with
    | ok packet => simp [hparse, Except.toOption] at hpacket
    | error e => exact (fetch_notFound_iff _ _ _).1.mpr ⟨body, rfl, .bare hparse hobject⟩
  · apply (fetch_notFound_iff _ _ _).2.2
    intro other heq
    cases heq

end Fetcher

end TraceArchive
