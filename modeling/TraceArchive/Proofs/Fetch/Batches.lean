import TraceArchive.Proofs.Fetch.Result
import TraceArchive.Proofs.Fetch.Several
/-!
Which runs over several hashes come to their end.  A batch delivered in answer to a request ends the
run at once, and nothing else does: a run ends properly exactly if it is `Undisturbed`, and has then
asked for the traces of every hash, in order.
-/

namespace TraceArchive

open Json (Value)
open Fetch (Error)

/-! ## Requests for traces -/

namespace Rpc.Request

/-- Whether a request asks for the traces of a transaction. -/
def asksTraces (request : Rpc.Request) : Bool :=
  request.method == "trace_transaction"

/-- The parameters of the requests for traces among some requests. -/
def tracesParams (requests : List Rpc.Request) : List Value :=
  (requests.filter asksTraces).map (·.params)

theorem tracesParams_append (former latter : List Rpc.Request) :
    tracesParams (former ++ latter) = tracesParams former ++ tracesParams latter := by
  rw [tracesParams, List.filter_append, List.map_append]
  rfl

end Rpc.Request

open Rpc.Request (tracesParams tracesParams_append)

namespace Node

variable {n : Node} {endpoint : String}

/-- A node that an endpoint leads to and that refuses no connection. -/
structure Takes (n : Node) (endpoint : String) : Prop where
  serves : n.serves endpoint = true
  answers : ∀ count request, n.answer count request ≠ .refused

theorem serves_send (n : Node) (endpoint : String) (request : Rpc.Request) :
    (n.send endpoint request).2.serves = n.serves := by
  rw [send]
  split
  · split <;> rfl
  · rfl

theorem Takes.received_send (h : n.Takes endpoint) (request : Rpc.Request) :
    (n.send endpoint request).2.received = n.received ++ [request] := by
  rw [send, if_pos h.serves]
  split
  · rename_i hrefused
    exact absurd hrefused (h.answers _ _)
  · rfl

theorem Takes.send (h : n.Takes endpoint) (request : Rpc.Request) :
    (n.send endpoint request).2.Takes endpoint := by
  refine ⟨?_, fun count request => ?_⟩
  · rw [serves_send, h.serves]
  · rw [answer_send]
    exact h.answers count request

theorem replaying_takes {replies : List Delivery} (h : ∀ d ∈ replies, d ≠ .refused)
    (endpoint : String) : (Node.replaying replies).Takes endpoint := by
  refine ⟨rfl, fun count request => ?_⟩
  simp only [Node.replaying]
  cases hreply : replies[count]? with
  | none =>
      intro heq
      cases heq
  | some d => exact h d (List.mem_of_getElem? hreply)

end Node

namespace Fetcher

variable {f : Fetcher} {print : Bool} {hash : String} {hashes : List String} {w u v : World}

/-! ## Runs that end -/

/-- A batch is delivered in answer to a request that the fetch of a hash makes. -/
def MeetsBatch (f : Fetcher) (hash : String) (w : World) : Prop :=
  (f.client.tracesReply w hash).IsBatch ∨
    ∃ traces number, f.HasNumber hash w traces number ∧ (f.blockReply hash number w).IsBatch

/-- No fetch of a run meets a batch, each made in the world that those before it left. -/
def Undisturbed (f : Fetcher) (print : Bool) : List String → World → Prop
  | [], _ => True
  | hash :: hashes, w =>
    ¬ f.MeetsBatch hash w ∧
      f.Undisturbed print hashes ((f.fetchEach print hash : Trial Bool).runIn w).2

theorem runIn_fetchEach_of_batch (h : f.MeetsBatch hash w) (print : Bool) :
    ((f.fetchEach print hash : Trial Bool).runIn w).1 = .error Client.batchMessage := by
  have hfetch : ((f.fetch hash : Trial (Except Error Outcome)).runIn w).1 = _ :=
    runIn_fetch_of_batch h
  rw [fetchEach, Piped.runIn_bind]
  cases hrun : (f.fetch hash : Trial (Except Error Outcome)).runIn w with
  | mk value u =>
      rw [hrun] at hfetch
      obtain rfl : value = .error Client.batchMessage := hfetch
      rfl

/-- The fetch of one of several ends if it meets no batch. -/
theorem exists_fetchEach (h : ¬ f.MeetsBatch hash w) (print : Bool) :
    ∃ one v, (f.fetchEach print hash : Trial Bool).runIn w = (.ok one, v) := by
  rcases f.exit_or_batch hash w with ⟨result, u, hexit⟩ | hbatch
  · obtain ⟨one, v, hrun, _⟩ := settled_of_fetch hexit.run print
    exact ⟨one, v, hrun⟩
  · exact absurd hbatch h

/-- The hashes that a run comes to: all of them, or those up to one whose fetch ends the run. -/
def reached (f : Fetcher) (print : Bool) : List String → World → List String
  | [], _ => []
  | hash :: hashes, w =>
    hash :: match (f.fetchEach print hash : Trial Bool).runIn w with
      | (.ok _, v) => f.reached print hashes v
      | (.error _, _) => []

/-- An undisturbed run ends with a verdict, and has come to every hash. -/
theorem runIn_fetchAll_of_undisturbed (h : f.Undisturbed print hashes w) :
    (∃ all w', (f.fetchAll print hashes : Trial Bool).runIn w = (.ok all, w')) ∧
      f.reached print hashes w = hashes := by
  induction hashes generalizing w with
  | nil => exact ⟨⟨true, w, runIn_fetchAll_nil⟩, rfl⟩
  | cons hash hashes ih =>
      obtain ⟨hhash, hhashes⟩ := h
      obtain ⟨one, v, heach⟩ := exists_fetchEach hhash print
      rw [heach] at hhashes
      obtain ⟨⟨others, w', hrun⟩, hreached⟩ := ih hhashes
      refine ⟨⟨_, w', runIn_fetchAll_cons.mpr ⟨one, v, others, heach, hrun, rfl⟩⟩, ?_⟩
      rw [reached, heach]
      simp only [hreached]

/-- What a run over one more hash comes to: the same reason and world if the fetch of that hash ends
it, else what the run over the others comes to. -/
theorem runIn_fetchAll_step :
    (f.fetchAll print (hash :: hashes) : Trial Bool).runIn w =
      match (f.fetchEach print hash : Trial Bool).runIn w with
      | (.ok one, v) =>
        (((f.fetchAll print hashes : Trial Bool).runIn v).1.map (one && ·),
          ((f.fetchAll print hashes : Trial Bool).runIn v).2)
      | (.error reason, v) => (.error reason, v) := by
  rw [fetchAll, Piped.runIn_bind]
  cases (f.fetchEach print hash : Trial Bool).runIn w with
  | mk one v =>
      cases one with
      | error reason => rfl
      | ok one =>
          simp only
          rw [Piped.runIn_bind]
          cases (f.fetchAll print hashes : Trial Bool).runIn v with
          | mk others w' =>
              cases others with
              | error reason => rfl
              | ok others => rfl

/-- A run that is disturbed goes well up to a hash whose fetch meets a batch, and ends there with
what is said of a batch. -/
theorem runIn_fetchAll_of_disturbed (h : ¬ f.Undisturbed print hashes w) :
    ((f.fetchAll print hashes : Trial Bool).runIn w).1 = .error Client.batchMessage ∧
      ∃ former hash latter all v, hashes = former ++ hash :: latter ∧
        (f.fetchAll print former : Trial Bool).runIn w = (.ok all, v) ∧ f.MeetsBatch hash v ∧
        f.reached print hashes w = former ++ [hash] := by
  induction hashes generalizing w with
  | nil => exact absurd trivial h
  | cons hash hashes ih =>
      rw [runIn_fetchAll_step, reached]
      by_cases hbatch : f.MeetsBatch hash w
      · have heach := runIn_fetchEach_of_batch hbatch print
        cases hrun : (f.fetchEach print hash : Trial Bool).runIn w with
        | mk one v =>
            rw [hrun] at heach
            obtain rfl : one = .error Client.batchMessage := heach
            exact ⟨rfl, [], hash, hashes, true, w, rfl, rfl, hbatch, rfl⟩
      · obtain ⟨one, v, heach⟩ := exists_fetchEach hbatch print
        have hothers : ¬ f.Undisturbed print hashes v := by
          intro hhashes
          refine h ⟨hbatch, ?_⟩
          rw [heach]
          exact hhashes
        obtain ⟨hended, former, last, latter, all, u, rfl, hformer, hlast, hreached⟩ := ih hothers
        rw [heach]
        refine ⟨?_, hash :: former, last, latter, one && all, u, rfl, ?_, hlast, ?_⟩
        · simp only [hended]
          rfl
        · exact runIn_fetchAll_cons.mpr ⟨one, v, all, heach, hformer, rfl⟩
        · simp only [hreached]
          rfl

/-- Nothing disturbs a run where no node delivers a batch. -/
theorem undisturbed_of_noBatch (hnode : w.node.NoBatch) : f.Undisturbed print hashes w := by
  induction hashes generalizing w with
  | nil => trivial
  | cons hash hashes ih =>
      obtain ⟨result, u, one, v, hexit, _, heach, hv⟩ := exists_settled hnode f print hash
      constructor
      · intro hbatch
        have hended : ((f.fetch hash : Trial (Except Error Outcome)).runIn w).1 = _ :=
          runIn_fetch_of_batch hbatch
        rw [hexit.run] at hended
        cases hended
      · rw [heach]
        exact ih hv

/-! ## Requests of a run -/

/-- A node goes on taking requests, and those it received meanwhile ask for traces by the given
parameters. -/
structure AsksFor (w w' : World) (endpoint : String) (params : List Value) : Prop where
  takes : w'.node.Takes endpoint
  received : ∃ requests, w'.node.received = w.node.received ++ requests ∧
    tracesParams requests = params

theorem AsksFor.trans {endpoint : String} {params params' : List Value}
    (h : AsksFor w u endpoint params) (h' : AsksFor u v endpoint params') :
    AsksFor w v endpoint (params ++ params') := by
  obtain ⟨requests, hreceived, hparams⟩ := h.received
  obtain ⟨requests', hreceived', hparams'⟩ := h'.received
  refine ⟨h'.takes, requests ++ requests', ?_, ?_⟩
  · rw [hreceived', hreceived, List.append_assoc]
  · rw [tracesParams_append, hparams, hparams']

theorem AsksFor.of_node {endpoint : String} {params : List Value}
    (h : AsksFor w u endpoint params) (hsame : v.node = u.node) : AsksFor w v endpoint params := by
  obtain ⟨htakes, hreceived⟩ := h
  rw [← hsame] at htakes hreceived
  exact ⟨htakes, hreceived⟩

theorem asksFor_tracesAsked (hnode : w.node.Takes f.client.endpoint) (hash : String) :
    AsksFor w (f.client.tracesAsked w hash) f.client.endpoint [.array [.string hash]] :=
  ⟨hnode.send _, _, hnode.received_send _, rfl⟩

theorem asksFor_blockAsked (hnode : w.node.Takes f.client.endpoint) (hash number : String) :
    AsksFor w (f.blockAsked hash number w) f.client.endpoint [.array [.string hash]] := by
  have htraces := asksFor_tracesAsked hnode hash
  have hblock : AsksFor (f.client.tracesAsked w hash) (f.blockAsked hash number w)
      f.client.endpoint [] :=
    ⟨htraces.takes.send _, _, htraces.takes.received_send _, rfl⟩
  exact htraces.trans hblock

theorem node_record (f : Fetcher) (e : Entry) (w : World) :
    ((f.record e : Trial (Except Error Outcome)).runIn w).2.node = w.node := by
  rw [runIn_record]
  cases f.store e w.disk with
  | mk later stored => cases stored <;> rfl

/-- From traces that give a number a fetch asks for the block, and for nothing behind it. -/
theorem HasNumber.node_fetch {traces : List Value} {number : String}
    (h : f.HasNumber hash w traces number) :
    ((f.fetch hash : Trial (Except Error Outcome)).runIn w).2.node =
      (f.blockAsked hash number w).node := by
  rw [h.runIn_fetch]
  cases hblock : f.blockAnswer hash number w with
  | none =>
      -- the reply is a batch, which ends the run once both requests are made
      rw [blockAnswer, blockReply] at hblock
      rw [complete, h.2]
      simp only
      rw [Piped.runIn_bind, Client.runIn_blockByNumber, hblock]
      rfl
  | some answer =>
      rw [runIn_complete_of_answer h.2 hblock]
      cases answer with
      | error fault => rfl
      | ok found =>
          cases found with
          | none => rfl
          | some block =>
              cases htime : timestampOf block number with
              | error fault =>
                  simp only [htime]
                  rfl
              | ok seconds =>
                  simp only [htime]
                  exact f.node_record ⟨hash, number, seconds, traces⟩ _

/-- A fetch leaves its node with the request for traces, or with the one for a block behind it. -/
theorem node_fetch (f : Fetcher) (hash : String) (w : World) :
    ((f.fetch hash : Trial (Except Error Outcome)).runIn w).2.node =
        (f.client.tracesAsked w hash).node ∨
      ∃ number, ((f.fetch hash : Trial (Except Error Outcome)).runIn w).2.node =
        (f.blockAsked hash number w).node := by
  rcases f.exit_or_batch hash w with ⟨result, w', hexit⟩ | htraces | ⟨traces, number, hhas, hblock⟩
  · rw [hexit.run]
    cases hexit with
    | noTraces => exact Or.inl rfl
    | refused => exact Or.inl rfl
    | tracesFault => exact Or.inl rfl
    | noNumber => exact Or.inl rfl
    | blockFault => exact Or.inr ⟨_, rfl⟩
    | noBlock => exact Or.inr ⟨_, rfl⟩
    | noTimestamp => exact Or.inr ⟨_, rfl⟩
    | notStored => exact Or.inr ⟨_, rfl⟩
    | found => exact Or.inr ⟨_, rfl⟩
  · left
    rw [fetch, Piped.runIn_bind, Client.runIn_traceTransaction, Client.answerOf_eq_none.mpr htraces]
  · exact Or.inr ⟨number, hhas.node_fetch⟩

theorem node_fetchEach (f : Fetcher) (print : Bool) (hash : String) (w : World) :
    ((f.fetchEach print hash : Trial Bool).runIn w).2.node =
      ((f.fetch hash : Trial (Except Error Outcome)).runIn w).2.node := by
  cases hrun : (f.fetch hash : Trial (Except Error Outcome)).runIn w with
  | mk value u =>
      cases value with
      | error reason =>
          rw [fetchEach, Piped.runIn_bind, hrun]
      | ok result =>
          obtain ⟨one, v, heach, hsettled⟩ := settled_of_fetch hrun print
          rw [heach]
          exact hsettled.node

/-- The fetch of one of several asks for the traces of its hash once, whatever comes of it. -/
theorem fetchEach_asksFor (hnode : w.node.Takes f.client.endpoint) (print : Bool) (hash : String) :
    AsksFor w ((f.fetchEach print hash : Trial Bool).runIn w).2 f.client.endpoint
      [.array [.string hash]] := by
  have heach := f.node_fetchEach print hash w
  rcases f.node_fetch hash w with hsame | ⟨number, hsame⟩
  · exact (asksFor_tracesAsked hnode hash).of_node (heach.trans hsame)
  · exact (asksFor_blockAsked hnode hash number).of_node (heach.trans hsame)

/-- A run asks for the traces of each hash that it comes to once, in order. -/
theorem fetchAll_asksFor (hnode : w.node.Takes f.client.endpoint) :
    AsksFor w ((f.fetchAll print hashes : Trial Bool).runIn w).2 f.client.endpoint
      ((f.reached print hashes w).map fun hash => .array [.string hash]) := by
  induction hashes generalizing w with
  | nil => exact ⟨hnode, [], (List.append_nil _).symm, rfl⟩
  | cons hash hashes ih =>
      have heach := fetchEach_asksFor hnode print hash
      rw [runIn_fetchAll_step, reached]
      cases hrun : (f.fetchEach print hash : Trial Bool).runIn w with
      | mk one v =>
          rw [hrun] at heach
          cases one with
          | error reason => exact heach
          | ok one => exact heach.trans (ih heach.takes)

/-! ## Runs and their ends -/

/-- A run over several hashes ends with a verdict exactly if it is undisturbed, and has come to all
of them then.  Else it goes well up to a hash whose fetch meets a batch, and ends there.  A node
that takes requests has received one for the traces of each hash that the run came to, in order. -/
theorem fetchAll_ends_iff (f : Fetcher) (print : Bool) (hashes : List String) (w : World) :
    ((∃ all w', (f.fetchAll print hashes : Trial Bool).runIn w = (.ok all, w')) ↔
      f.Undisturbed print hashes w) ∧
    (f.Undisturbed print hashes w → f.reached print hashes w = hashes) ∧
    (¬ f.Undisturbed print hashes w →
      ((f.fetchAll print hashes : Trial Bool).runIn w).1 = .error Client.batchMessage ∧
        ∃ former hash latter all v, hashes = former ++ hash :: latter ∧
          (f.fetchAll print former : Trial Bool).runIn w = (.ok all, v) ∧ f.MeetsBatch hash v ∧
          f.reached print hashes w = former ++ [hash]) ∧
    (w.node.Takes f.client.endpoint → ∃ requests,
      ((f.fetchAll print hashes : Trial Bool).runIn w).2.node.received =
        w.node.received ++ requests ∧
      tracesParams requests =
        (f.reached print hashes w).map fun hash => .array [.string hash]) := by
  refine ⟨⟨?_, fun h => (runIn_fetchAll_of_undisturbed h).1⟩,
    fun h => (runIn_fetchAll_of_undisturbed h).2, runIn_fetchAll_of_disturbed,
    fun hnode => (fetchAll_asksFor hnode).received⟩
  rintro ⟨all, w', hrun⟩
  by_contra hdisturbed
  have hended := (runIn_fetchAll_of_disturbed hdisturbed).1
  rw [hrun] at hended
  cases hended

/-- A run over a known transaction and one that connections are dropped for: it ends, and the traces
of both were asked for. -/
theorem fetchAll_ends_dropped :
    ∃ all w', (Fetcher.fetchAll ⟨⟨"http://node"⟩, ⟨"out"⟩⟩ false ["0x7", "0x8"] :
        Trial Bool).runIn { node := .knowing } = (.ok all, w') ∧
      tracesParams w'.node.received = [.array [.string "0x7"], .array [.string "0x8"]] := by
  obtain ⟨hends, hreached, _, hreceived⟩ :=
    fetchAll_ends_iff ⟨⟨"http://node"⟩, ⟨"out"⟩⟩ false ["0x7", "0x8"] { node := .knowing }
  have hundisturbed : Undisturbed ⟨⟨"http://node"⟩, ⟨"out"⟩⟩ false ["0x7", "0x8"]
      { node := .knowing } :=
    undisturbed_of_noBatch Node.knowing_noBatch
  obtain ⟨all, w', hrun⟩ := hends.mpr hundisturbed
  obtain ⟨requests, hrequests, hparams⟩ :=
    hreceived (Node.replaying_takes (by simp [Delivery.known]) "http://node")
  rw [hrun] at hrequests
  rw [hreached hundisturbed] at hparams
  refine ⟨all, w', hrun, ?_⟩
  rw [show w'.node.received = requests from hrequests]
  exact hparams

/-- An empty list in answer to the first request ends the run: the traces of the second transaction
are never asked for. -/
theorem fetchAll_ended_by_batch :
    ((Fetcher.fetchAll ⟨⟨"http://node"⟩, ⟨"out"⟩⟩ false ["0x1", "0x2"] : Trial Bool).runIn
        { node := .replaying [.reply 200 (Utf8.ofString "[]")] }).1 =
      .error Client.batchMessage ∧
    tracesParams ((Fetcher.fetchAll ⟨⟨"http://node"⟩, ⟨"out"⟩⟩ false ["0x1", "0x2"] :
        Trial Bool).runIn
        { node := .replaying [.reply 200 (Utf8.ofString "[]")] }).2.node.received =
      [.array [.string "0x1"]] := by
  constructor
  · rfl
  · rfl

end Fetcher

end TraceArchive
