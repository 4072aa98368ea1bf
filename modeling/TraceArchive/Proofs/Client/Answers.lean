import TraceArchive.Client.Call
import TraceArchive.Proofs.Json.Document
import TraceArchive.Proofs.Piped
/-!
Answers to calls.  `Delivery.Answers` says of a delivery what it takes to be a usable answer, and
`Delivery.IsBatch` when it is a batch.  A call gives a value exactly where the delivery answers with
it, and ends the run exactly where the delivery is a batch; otherwise it gives a fault.
-/

namespace TraceArchive

/-- The delivery is a reply of status 200 with one response, whose result reads as a value. -/
def Delivery.Answers (wanted : Rpc.Wanted α) (v : α) (d : Delivery) : Prop :=
  ∃ body text, d = .reply 200 body ∧ Rpc.Packet.parse body = .ok (.single (.result text)) ∧
    Json.document wanted.read (Utf8.ofString text) = .ok v

/-- The delivery is a reply of status 200 with a batch of responses. -/
def Delivery.IsBatch (d : Delivery) : Prop :=
  ∃ body responses, d = .reply 200 body ∧ Rpc.Packet.parse body = .ok (.batch responses)

/-- The node never replies with a batch. -/
def Node.NoBatch (n : Node) : Prop :=
  ∀ count request, ¬ (n.answer count request).IsBatch

theorem Node.NoBatch.not_isBatch_send {n : Node} (h : n.NoBatch) (endpoint : String)
    (request : Rpc.Request) : ¬ (n.send endpoint request).1.IsBatch := by
  rcases n.send_delivery endpoint request with hsend | hsend
  · rw [hsend]
    exact h _ _
  · rw [hsend]
    rintro ⟨body, responses, heq, _⟩
    cases heq

namespace Rpc

namespace Body

theorem ofBytes_eq_result {body : Bytes} {text : String} :
    Body.ofBytes body = .result text ↔ Packet.parse body = .ok (.single (.result text)) := by
  rw [Body.ofBytes]
  split <;> simp_all

theorem ofBytes_eq_batch {body : Bytes} :
    Body.ofBytes body = .batch ↔ ∃ responses, Packet.parse body = .ok (.batch responses) := by
  rw [Body.ofBytes]
  split <;> simp_all

end Body

namespace Wanted

theorem ofText_eq_ok {wanted : Wanted α} {text : String} {v : α} :
    wanted.ofText text = .ok v ↔ Json.document wanted.read (Utf8.ofString text) = .ok v := by
  rw [ofText]
  split <;> simp_all

/-- A value that may be null is one that does not begin as null does. -/
theorem read_orNull_eq_some {wanted : Wanted α} {s rest : Bytes} {v : α}
    (hblanks : wanted.read (Json.skipBlanks s) = wanted.read s) :
    wanted.orNull.read s = .ok (some v, rest) ↔
      (Json.skipBlanks s).head? ≠ some 0x6E ∧ wanted.read s = .ok (v, rest) := by
  rw [← hblanks]
  simp only [orNull]
  cases hs : Json.skipBlanks s with
  | nil =>
      cases hread : wanted.read [] with
      | error fault => simp [bind, Except.bind]
      | ok found => simp [bind, Except.bind, pure, Except.pure, Prod.ext_iff]
  | cons b r =>
      by_cases hb : b = 0x6E
      · cases hword : Json.word Json.nullTail r with
        | error fault => simp [hb, bind, Except.bind, hword]
        | ok left => simp [hb, bind, Except.bind, pure, Except.pure, hword]
      · cases hread : wanted.read (b :: r) with
        | error fault => simp [hb, hread, bind, Except.bind]
        | ok found => simp [hb, hread, bind, Except.bind, pure, Except.pure, Prod.ext_iff]

theorem values_read (s : Bytes) :
    values.read s = Json.arrayOf "a sequence" Json.maxDepth s :=
  rfl

theorem any_read (s : Bytes) : any.read s = Json.value .usual Json.maxDepth s :=
  rfl

theorem document_values_orNull {text : Bytes} {items : List Json.Value} :
    Json.document values.orNull.read text = .ok (some items) ↔
      Json.document values.read text = .ok items := by
  have hblanks : values.read (Json.skipBlanks text) = values.read text := by
    rw [values_read, values_read, Json.arrayOf_skipBlanks]
  simp only [Json.document_eq_ok_iff, read_orNull_eq_some hblanks]
  constructor
  · rintro ⟨rest, ⟨_, hread⟩, hrest⟩
    exact ⟨rest, hread, hrest⟩
  · rintro ⟨rest, hread, hrest⟩
    refine ⟨rest, ⟨?_, hread⟩, hrest⟩
    rw [values_read] at hread
    rw [Json.head_of_arrayOf hread]
    decide

theorem document_any_orNull {text : Bytes} {v : Json.Value} (hv : v ≠ .null) :
    Json.document any.orNull.read text = .ok (some v) ↔
      Json.document any.read text = .ok v := by
  have hblanks : any.read (Json.skipBlanks text) = any.read text := by
    rw [any_read, any_read, Json.value_skipBlanks]
  simp only [Json.document_eq_ok_iff, read_orNull_eq_some hblanks]
  constructor
  · rintro ⟨rest, ⟨_, hread⟩, hrest⟩
    exact ⟨rest, hread, hrest⟩
  · rintro ⟨rest, hread, hrest⟩
    refine ⟨rest, ⟨?_, hread⟩, hrest⟩
    intro hhead
    obtain ⟨r, hr⟩ := List.head?_eq_some_iff.mp hhead
    rw [any_read] at hread
    exact hv (Json.eq_null_of_value hr hread)

end Wanted

end Rpc

namespace Delivery

theorem answers_reply {wanted : Rpc.Wanted α} {v : α} {status : Nat} {body : Bytes} :
    (reply status body).Answers wanted v ↔
      status = 200 ∧ ∃ text, Rpc.Body.ofBytes body = .result text ∧ wanted.ofText text = .ok v := by
  simp only [Rpc.Body.ofBytes_eq_result, Rpc.Wanted.ofText_eq_ok]
  constructor
  · rintro ⟨_, text, ⟨⟩, hpacket, hread⟩
    exact ⟨rfl, text, hpacket, hread⟩
  · rintro ⟨rfl, text, hpacket, hread⟩
    exact ⟨body, text, rfl, hpacket, hread⟩

theorem isBatch_reply {status : Nat} {body : Bytes} :
    (reply status body).IsBatch ↔ status = 200 ∧ Rpc.Body.ofBytes body = .batch := by
  rw [Rpc.Body.ofBytes_eq_batch]
  constructor
  · rintro ⟨_, responses, ⟨⟩, hpacket⟩
    exact ⟨rfl, responses, hpacket⟩
  · rintro ⟨rfl, responses, hpacket⟩
    exact ⟨body, responses, rfl, hpacket⟩

end Delivery

namespace Client

/-- What a call makes of a delivery: a value exactly where the delivery answers with it. -/
theorem answerOf_eq_ok {wanted : Rpc.Wanted α} {d : Delivery} {v : α} :
    answerOf wanted d = some (.ok v) ↔ d.Answers wanted v := by
  cases d with
  | refused => simp [answerOf, Delivery.Answers]
  | dropped => simp [answerOf, Delivery.Answers]
  | reply status body =>
      rw [Delivery.answers_reply, answerOf]
      by_cases hstatus : status = 200
      · cases hbody : Rpc.Body.ofBytes body <;> simp [hstatus]
      · simp [hstatus]

/-- Nothing is made of a batch, and of a batch alone. -/
theorem answerOf_eq_none {wanted : Rpc.Wanted α} {d : Delivery} :
    answerOf wanted d = none ↔ d.IsBatch := by
  cases d with
  | refused => simp [answerOf, Delivery.IsBatch]
  | dropped => simp [answerOf, Delivery.IsBatch]
  | reply status body =>
      rw [Delivery.isBatch_reply, answerOf]
      by_cases hstatus : status = 200
      · cases hbody : Rpc.Body.ofBytes body <;> simp [hstatus]
      · simp [hstatus]

end Client

instance : DecidablePred Delivery.IsBatch := fun d =>
  decidable_of_iff ((Client.answerOf Rpc.Wanted.any d).isNone = true)
    (Option.isNone_iff_eq_none.trans Client.answerOf_eq_none)

/-- A node that gives listed replies in turn, at every endpoint, and then drops connections. -/
def Node.replaying (replies : List Delivery) : Node where
  answer count _ := replies[count]?.getD .dropped
  serves _ := true

theorem Node.replaying_noBatch {replies : List Delivery} (h : ∀ d ∈ replies, ¬ d.IsBatch) :
    (Node.replaying replies).NoBatch := by
  intro count request
  simp only [Node.replaying]
  cases hreply : replies[count]? with
  | none =>
      rintro ⟨body, responses, heq, _⟩
      cases heq
  | some d => exact h d (List.mem_of_getElem? hreply)

end TraceArchive
