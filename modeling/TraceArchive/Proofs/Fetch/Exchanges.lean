import TraceArchive.Proofs.Fetch.Batches
/-!
The exchanges of a run: each request that is made, with what the node delivers in answer to it.  A
hash has its `Turn`, one exchange or two, and a run has the turns of its hashes in order.  The
requests are numbered in the order in which they are made, and each has the node's reply of its
number.
-/

namespace TraceArchive

open Json (Value)
open Fetch (Error)

/-- The delivery answers with traces of which the first is an object with this block number. -/
def Delivery.GivesNumber (d : Delivery) (number : String) : Prop :=
  ∃ traces first, d.Answers .values traces ∧ traces.head? = some (.object first) ∧
    first.lookup "blockNumber" = some (.string number)

/-- A request, with what was delivered in answer to it. -/
structure Exchange where
  request : Rpc.Request
  delivery : Delivery

theorem Node.Takes.delivery_send {n : Node} {endpoint : String} (h : n.Takes endpoint)
    (request : Rpc.Request) :
    (n.send endpoint request).1 = n.answer n.received.length request := by
  rcases n.send_delivery endpoint request with hsend | hsend
  · exact hsend
  · rw [Node.send, if_pos h.serves] at hsend
    split at hsend
    · rename_i hrefused
      exact absurd hrefused (h.answers _ _)
    · rename_i hanswer
      exact absurd hsend (h.answers _ _)

/-- Between the two worlds a node that takes requests had these exchanges. -/
structure Conversed (w w' : World) (endpoint : String) (exchanges : List Exchange) : Prop where
  takes : w'.node.Takes endpoint
  answer : w'.node.answer = w.node.answer
  received : w'.node.received = w.node.received ++ exchanges.map (·.request)
  sent : w'.sent = w.sent + exchanges.length
  numbered : ∀ k x, exchanges[k]? = some x → x.request.id = w.sent + k ∧
    x.delivery = w.node.answer (w.node.received.length + k) x.request

namespace Conversed

variable {w u v : World} {endpoint : String} {exchanges exchanges' : List Exchange}

theorem refl (h : w.node.Takes endpoint) : Conversed w w endpoint [] := by
  refine ⟨h, rfl, ?_, rfl, ?_⟩
  · rw [List.map_nil, List.append_nil]
  · intro k x hx
    cases hx

theorem trans (h : Conversed w u endpoint exchanges) (h' : Conversed u v endpoint exchanges') :
    Conversed w v endpoint (exchanges ++ exchanges') := by
  refine ⟨h'.takes, h'.answer.trans h.answer, ?_, ?_, ?_⟩
  · rw [h'.received, h.received, List.map_append, List.append_assoc]
  · rw [h'.sent, h.sent, List.length_append, Nat.add_assoc]
  · intro k x hx
    rw [List.getElem?_append] at hx
    split at hx
    · exact h.numbered k x hx
    · rename_i hlength
      have hlater := h'.numbered _ x hx
      have hcount : w.node.received.length + exchanges.length + (k - exchanges.length) =
          w.node.received.length + k := by omega
      have hid : w.sent + exchanges.length + (k - exchanges.length) = w.sent + k := by omega
      rwa [h.answer, h.received, h.sent, List.length_append, List.length_map, hcount, hid] at hlater

theorem of_node (h : Conversed w u endpoint exchanges) (hnode : v.node = u.node)
    (hsent : v.sent = u.sent) : Conversed w v endpoint exchanges := by
  refine ⟨?_, ?_, ?_, hsent.trans h.sent, h.numbered⟩
  · exact hnode ▸ h.takes
  · exact hnode ▸ h.answer
  · exact hnode ▸ h.received

theorem asked (h : w.node.Takes endpoint) (call : Nat → Rpc.Request)
    (hid : ∀ id, (call id).id = id) :
    Conversed w (w.asked endpoint call) endpoint [⟨call w.sent, w.reply endpoint call⟩] := by
  refine ⟨h.send _, w.answer_asked _ _, h.received_send _, rfl, ?_⟩
  intro k x hx
  obtain ⟨rfl, rfl⟩ : k = 0 ∧ ⟨call w.sent, w.reply endpoint call⟩ = x := by
    simpa [List.getElem?_singleton] using hx
  exact ⟨hid w.sent, h.delivery_send _⟩

end Conversed

namespace Fetcher

variable {f : Fetcher} {print : Bool} {hash number : String} {hashes : List String}
variable {w w' : World} {result : Except Error Outcome}

/-! ## The turn of a hash -/

/-- The exchanges for a hash, and the result that its fetch comes to.  Its traces are asked for, and
then a block, exactly if the reply gives its number.  An entry that is found is what the two replies
say. -/
inductive Turn (hash : String) (result : Except Error Outcome) : List Exchange → Prop
  | traces {id : Nat} {reply : Delivery} (hnumber : ∀ number, ¬ reply.GivesNumber number)
      (hresult : ∀ e, result ≠ .ok (.found e)) :
      Turn hash result [⟨.traces hash id, reply⟩]
  | block {id id' : Nat} {number : String} {reply reply' : Delivery}
      (hnumber : reply.GivesNumber number)
      (hresult : ∀ e, result = .ok (.found e) → e.blockNumber = number ∧
        reply.Answers .values e.traces ∧
        ∃ block, reply'.Answers .any (.object block) ∧
          timestampOf (.object block) number = .ok e.timestamp) :
      Turn hash result [⟨.traces hash id, reply⟩, ⟨.block number false id', reply'⟩]

theorem givesNumber_iff :
    (f.client.tracesReply w hash).GivesNumber number ↔
      ∃ traces, f.HasNumber hash w traces number := by
  simp only [Delivery.GivesNumber, HasNumber, tracesAnswer_eq_some, blockNumberOf_eq_ok]
  constructor
  · rintro ⟨traces, first, hanswer, hfirst, hmember⟩
    exact ⟨traces, hanswer, first, hfirst, hmember⟩
  · rintro ⟨traces, hanswer, first, hfirst, hmember⟩
    exact ⟨traces, first, hanswer, hfirst, hmember⟩

theorem conversed_tracesAsked (h : w.node.Takes f.client.endpoint) (hash : String) :
    Conversed w (f.client.tracesAsked w hash) f.client.endpoint
      [⟨.traces hash w.sent, f.client.tracesReply w hash⟩] := by
  obtain ⟨htakes, hanswer, hreceived, hsent, hnumbered⟩ :=
    Conversed.asked (w := w.noted ⟨.debug, Client.target,
      "[" ++ f.client.endpoint ++ "] trace_transaction " ++ hash⟩) h
      (.traces hash) fun _ => rfl
  exact ⟨htakes, hanswer, hreceived, hsent, hnumbered⟩

theorem conversed_blockAsked (h : w.node.Takes f.client.endpoint) (hash number : String) :
    Conversed w (f.blockAsked hash number w) f.client.endpoint
      [⟨.traces hash w.sent, f.client.tracesReply w hash⟩,
        ⟨.block number false (w.sent + 1), f.blockReply hash number w⟩] := by
  have htraces := conversed_tracesAsked h hash
  obtain ⟨htakes, hanswer, hreceived, hsent, hnumbered⟩ :=
    Conversed.asked (w := (f.client.tracesAsked w hash).noted ⟨.debug, Client.target,
      "[" ++ f.client.endpoint ++ "] eth_getBlockByNumber " ++ number ++ " full=" ++ "false"⟩)
      htraces.takes (.block number false) fun _ => rfl
  exact htraces.trans ⟨htakes, hanswer, hreceived, hsent, hnumbered⟩

/-- Whatever a fetch comes to, it had the exchanges of its turn. -/
theorem Exit.conversed (h : f.Exit hash w result w') (htakes : w.node.Takes f.client.endpoint) :
    ∃ turn, Turn hash result turn ∧ Conversed w w' f.client.endpoint turn := by
  have htraces := conversed_tracesAsked htakes hash
  have hblock := conversed_blockAsked htakes hash
  cases h with
  | @noTraces answer hanswer hnone =>
      refine ⟨_, .traces ?_ (by simp), htraces.of_node rfl rfl⟩
      intro number hgives
      obtain ⟨traces, hhas⟩ := givesNumber_iff.mp hgives
      obtain rfl : some traces = answer := by simpa [hhas.1] using hanswer
      rcases hnone with hnone | hnone
      · cases hnone
      · exact ne_nil_of_blockNumberOf hhas.2 (Option.some.inj hnone)
  | refused hanswer =>
      refine ⟨_, .traces ?_ (by simp), htraces.of_node rfl rfl⟩
      intro number hgives
      obtain ⟨traces, hhas⟩ := givesNumber_iff.mp hgives
      simp [hhas.1] at hanswer
  | tracesFault hanswer hfault =>
      refine ⟨_, .traces ?_ (by simp), htraces.of_node rfl rfl⟩
      intro number hgives
      obtain ⟨traces, hhas⟩ := givesNumber_iff.mp hgives
      simp [hhas.1] at hanswer
  | @noNumber traces fault hanswer hsome hnumber =>
      refine ⟨_, .traces ?_ (by simp), htraces.of_node rfl rfl⟩
      intro number hgives
      obtain ⟨traces', hhas⟩ := givesNumber_iff.mp hgives
      obtain rfl : traces' = traces := by simpa [hhas.1] using hanswer
      rw [hhas.2] at hnumber
      cases hnumber
  | blockFault hhas hanswer =>
      exact ⟨_, .block (givesNumber_iff.mpr ⟨_, hhas⟩) (by simp), (hblock _).of_node rfl rfl⟩
  | noBlock hhas hanswer =>
      exact ⟨_, .block (givesNumber_iff.mpr ⟨_, hhas⟩) (by simp), (hblock _).of_node rfl rfl⟩
  | noTimestamp hhas hanswer htime =>
      exact ⟨_, .block (givesNumber_iff.mpr ⟨_, hhas⟩) (by simp), (hblock _).of_node rfl rfl⟩
  | notStored hhas hanswer htime hstore =>
      exact ⟨_, .block (givesNumber_iff.mpr ⟨_, hhas⟩) (by simp), (hblock _).of_node rfl rfl⟩
  | @found traces number block seconds later hhas hanswer htime hstore =>
      refine ⟨_, .block (givesNumber_iff.mpr ⟨_, hhas⟩) ?_, (hblock number).of_node rfl rfl⟩
      rintro e ⟨⟩
      obtain ⟨members, text, rfl, _⟩ := member_of_timestampOf htime
      exact ⟨rfl, tracesAnswer_eq_some.mp hhas.1, members, blockAnswer_eq_object.mp hanswer, htime⟩

/-! ## The turns of a run -/

theorem map_fst_results (f : Fetcher) (print : Bool) (hashes : List String) (w : World) :
    (f.results print hashes w).map Prod.fst = hashes := by
  induction hashes generalizing w with
  | nil => rfl
  | cons hash hashes ih => rw [results, List.map_cons, ih]

/-- The turns of several hashes in order, each with the result of its hash. -/
abbrev Turns (results : List (String × Except String (Except Error Outcome)))
    (turns : List (List Exchange)) : Prop :=
  List.Forall₂ (fun r turn => ∃ result, r.2 = .ok result ∧ Turn r.1 result turn) results turns

theorem length_turns {results : List (String × Except String (Except Error Outcome))}
    {turns : List (List Exchange)} (h : Turns results turns) :
    results.length ≤ turns.flatten.length ∧ turns.flatten.length ≤ 2 * results.length := by
  induction h with
  | nil => simp
  | @cons r turn results turns hturn _ ih =>
      obtain ⟨result, _, hturn⟩ := hturn
      have hlength : 1 ≤ turn.length ∧ turn.length ≤ 2 := by
        cases hturn with
        | traces => simp
        | block => simp
      rw [List.flatten_cons, List.length_append, List.length_cons]
      omega

theorem exists_turns (hnode : w.node.NoBatch) (htakes : w.node.Takes f.client.endpoint)
    (print : Bool) (hashes : List String) :
    ∃ all w' turns, (f.fetchAll print hashes : Trial Bool).runIn w = (.ok all, w') ∧
      Turns (f.results print hashes w) turns ∧
      Conversed w w' f.client.endpoint turns.flatten := by
  induction hashes generalizing w with
  | nil => exact ⟨true, w, [], runIn_fetchAll_nil, .nil, .refl htakes⟩
  | cons hash hashes ih =>
      obtain ⟨result, u, one, v, hexit, hsettled, heach, hv⟩ := exists_settled hnode f print hash
      obtain ⟨turn, hturn, hconversed⟩ := hexit.conversed htakes
      have hstep := hconversed.of_node hsettled.node hsettled.sent
      obtain ⟨others, w', turns, hrun, hturns, hrest⟩ := ih hv hstep.takes
      refine ⟨_, w', turn :: turns, runIn_fetchAll_cons.mpr ⟨_, _, others, heach, hrun, rfl⟩, ?_,
        hstep.trans hrest⟩
      rw [results_cons hexit.run heach]
      exact .cons ⟨result, rfl, hturn⟩ hturns

end Fetcher

end TraceArchive
