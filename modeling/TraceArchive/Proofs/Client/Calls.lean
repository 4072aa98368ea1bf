import TraceArchive.Proofs.Client.Answers
/-!
Runs of calls.  A call leaves a world that the delivery does not depend on: the request is made and
logged, whatever comes of it.
-/

namespace TraceArchive

open Json (Value)

namespace Client

variable {σ : Type} {sink : Sink σ} (c : Client) (w : World σ)

/-- What comes of asking for the traces of a transaction. -/
def tracesReply (hash : String) : Delivery :=
  w.reply c.endpoint (Rpc.Request.traces hash)

/-- The world once the traces of a transaction were asked for. -/
def tracesAsked (hash : String) : World σ :=
  (w.noted ⟨.debug, target, "[" ++ c.endpoint ++ "] trace_transaction " ++ hash⟩).asked
    c.endpoint (Rpc.Request.traces hash)

/-- What comes of asking for a block without its transactions. -/
def blockReply (number : String) : Delivery :=
  w.reply c.endpoint (Rpc.Request.block number false)

/-- The world once a block without its transactions was asked for. -/
def blockAsked (number : String) : World σ :=
  (w.noted ⟨.debug, target, "[" ++ c.endpoint ++ "] eth_getBlockByNumber " ++ number
    ++ " full=" ++ "false"⟩).asked
    c.endpoint (Rpc.Request.block number false)

@[simp] theorem printer_tracesAsked (hash : String) :
    (c.tracesAsked w hash).printer = w.printer :=
  rfl

@[simp] theorem printer_blockAsked (number : String) :
    (c.blockAsked w number).printer = w.printer :=
  rfl

@[simp] theorem answer_tracesAsked (hash : String) :
    (c.tracesAsked w hash).node.answer = w.node.answer :=
  World.answer_asked _ _ _

@[simp] theorem answer_blockAsked (number : String) :
    (c.blockAsked w number).node.answer = w.node.answer :=
  World.answer_asked _ _ _

/-- An answer shows that the node has the request for traces. -/
theorem received_tracesAsked {hash : String} {wanted : Rpc.Wanted α} {v : α}
    (h : (c.tracesReply w hash).Answers wanted v) :
    (c.tracesAsked w hash).node.received =
      w.node.received ++ [Rpc.Request.traces hash w.sent] := by
  obtain ⟨body, text, hreply, _⟩ := h
  exact Node.received_send _ _ _ hreply

/-- An answer shows that the node has the request for a block. -/
theorem received_blockAsked {number : String} {wanted : Rpc.Wanted α} {v : α}
    (h : (c.blockReply w number).Answers wanted v) :
    (c.blockAsked w number).node.received =
      w.node.received ++ [Rpc.Request.block number false w.sent] := by
  obtain ⟨body, text, hreply, _⟩ := h
  exact Node.received_send _ _ _ hreply

/-! ## Runs -/

theorem runIn_ask (call : Nat → Rpc.Request) (wanted : Rpc.Wanted α) :
    (c.ask call wanted : Piped sink _).runIn w =
      match answerOf wanted (w.reply c.endpoint call) with
      | some answer => (.ok answer, w.asked c.endpoint call)
      | none => (.error batchMessage, w.asked c.endpoint call) := by
  simp only [ask, Piped.runIn_bind, Piped.runIn_nextId, Piped.runIn_send]
  change (match answerOf wanted (w.reply c.endpoint call) with
      | some answer => (pure answer : Piped sink _)
      | none => Surroundings.abort batchMessage).runIn (w.asked c.endpoint call) = _
  cases answerOf wanted (w.reply c.endpoint call) with
  | some answer => exact Piped.runIn_pure _ answer
  | none => exact Piped.runIn_abort _ batchMessage

theorem runIn_traceTransaction (hash : String) :
    (c.traceTransaction hash : Piped sink _).runIn w =
      match answerOf Rpc.Wanted.values.orNull (c.tracesReply w hash) with
      | some answer => (.ok (framed (.traceTransaction hash) answer), c.tracesAsked w hash)
      | none => (.error batchMessage, c.tracesAsked w hash) := by
  simp only [traceTransaction, Surroundings.debug, Piped.runIn_bind, Piped.runIn_note,
    runIn_ask, World.reply_noted, tracesReply, tracesAsked]
  cases answerOf Rpc.Wanted.values.orNull (w.reply c.endpoint (Rpc.Request.traces hash)) with
  | some answer => rfl
  | none => rfl

theorem runIn_blockByNumber (number : String) :
    (c.blockByNumber number false : Piped sink _).runIn w =
      match answerOf Rpc.Wanted.any.orNull (c.blockReply w number) with
      | some answer => (.ok (framed (.getBlock number) answer), c.blockAsked w number)
      | none => (.error batchMessage, c.blockAsked w number) := by
  simp only [blockByNumber, Surroundings.debug, Piped.runIn_bind, Piped.runIn_note,
    runIn_ask, World.reply_noted, blockReply, blockAsked]
  cases answerOf Rpc.Wanted.any.orNull
      (w.reply c.endpoint (Rpc.Request.block number false)) with
  | some answer => rfl
  | none => rfl

end Client

end TraceArchive
