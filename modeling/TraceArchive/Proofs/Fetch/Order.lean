import TraceArchive.Proofs.Fetch.Again
import TraceArchive.Proofs.Fetch.Batches
/-!
Runs in another order.  Where a node answers each call always alike, a hash has one finding,
whatever was fetched before it, and files of different hashes are at different places.  So a run
over several hashes is settled by which hashes they are: `Findings.run` says how, and neither their
order nor a further copy of one of them changes what the run says and what it leaves on the disk.
-/

namespace TraceArchive

open Json (Value)

/-! ## Nodes that answer by call -/

/-- What the node answers depends on the method and the parameters of a request alone. -/
def Node.AnswersByCall (n : Node) : Prop :=
  ∃ reply : String → Value → Delivery,
    ∀ count request, n.answer count request = reply request.method request.params

/-- The nodes differ in what they have received at most. -/
structure Node.Alike (n m : Node) : Prop where
  answer : m.answer = n.answer
  serves : m.serves = n.serves

theorem Node.AnswersByCall.delivery_send {n m : Node} (h : n.AnswersByCall) (halike : n.Alike m)
    (endpoint method : String) (params : Value) (id id' : Nat) :
    (m.send endpoint ⟨method, params, id'⟩).1 = (n.send endpoint ⟨method, params, id⟩).1 := by
  obtain ⟨reply, hreply⟩ := h
  simp only [send, halike.answer, halike.serves, hreply]
  by_cases hserves : n.serves endpoint = true
  · simp only [hserves, ↓reduceIte]
    cases reply method params with
    | refused => rfl
    | dropped => rfl
    | reply status body => rfl
  · simp only [hserves, Bool.false_eq_true, ↓reduceIte]

theorem Inquiry.alike_made {n : Node} {u : World} (h : n.Alike u.node) (f : Fetcher)
    (hash : String) (inquiry : Inquiry) : n.Alike (inquiry.made f hash u).node := by
  constructor
  · rw [answer_made, h.answer]
  · rw [← h.serves]
    cases inquiry <;> simp [made, Fetcher.blockAsked, Client.blockAsked, Client.tracesAsked,
      World.asked, World.noted, Node.serves_send]

theorem Node.AnswersByCall.sameReplies {w u : World} (h : w.node.AnswersByCall)
    (halike : w.node.Alike u.node) (f : Fetcher) (hash : String) : f.SameReplies hash w u := by
  have hw := Inquiry.alike_made (n := w.node) ⟨rfl, rfl⟩ f hash .traces
  have hu := Inquiry.alike_made halike f hash .traces
  refine ⟨h.delivery_send halike _ _ _ _ _, fun number => ?_⟩
  exact (h.delivery_send hu _ _ _ w.sent _).trans (h.delivery_send hw _ _ _ w.sent _).symm

/-- A node that knows every transaction, all of them in one block. -/
def Node.steady : Node where
  answer _ request :=
    (Delivery.known "0x5")[if request.method = "trace_transaction" then 0 else 1]?.getD .dropped
  serves _ := true

theorem Node.steady_noBatch : Node.steady.NoBatch := by
  intro count request
  simp only [steady]
  split
  · decide +kernel
  · decide +kernel

theorem Node.steady_answersByCall : Node.steady.AnswersByCall :=
  ⟨fun method _ => steady.answer 0 ⟨method, .null, 0⟩, fun _ _ => rfl⟩

/-- A stream that takes so many bytes more. -/
def Printer.Holds (p : Printer) (count : Nat) : Prop :=
  ∀ room, p.room = some room → count ≤ room

/-- A stream takes one text and then so many bytes more if it takes all of that. -/
theorem Printer.print_holds {p : Printer} {text : Bytes} {count : Nat} :
    (p.print text).1 = .ok () ∧ (p.print text).2.Holds count ↔ p.Holds (text.length + count) := by
  cases hroom : p.room with
  | none => simp [print, Holds, hroom]
  | some room =>
      by_cases hlength : text.length ≤ room
      · simp only [print, Holds, hroom, hlength, ↓reduceIte, true_and, Option.some.injEq,
          forall_eq']
        omega
      · simp only [print, Holds, hroom, hlength, ↓reduceIte, reduceCtorEq, false_and,
          Option.some.injEq, forall_eq', false_iff]
        omega

namespace Fetcher

variable {f : Fetcher} {print : Bool} {hash : String} {hashes others : List String}
variable {n : Node} {find : String → Finding} {w u : World} {d : Disk} {es es' : List Entry}

/-! ## Entries of different hashes -/

/-- Entries of different hashes are stored in any order, and as often as one likes. -/
theorem sameTree_storeAll (hplain : ∀ e ∈ es, '/' ∉ e.hash.toList)
    (hone : ∀ e ∈ es, ∀ e' ∈ es, e.hash = e'.hash → e = e') (hmem : ∀ e, e ∈ es ↔ e ∈ es') :
    (f.storeAll es d).SameTree (f.storeAll es' d) := by
  by_cases hnone : es = []
  · obtain rfl : es' = [] := List.eq_nil_iff_forall_not_mem.mpr fun e he => by
      simpa [hnone] using (hmem e).mpr he
    rw [hnone]
    exact ⟨rfl, fun _ => rfl⟩
  · have hnone' : es' ≠ [] := by
      obtain ⟨e, he⟩ := List.exists_mem_of_ne_nil es hnone
      exact List.ne_nil_of_mem ((hmem e).mp he)
    rw [storeAll_eq hnone, storeAll_eq hnone']
    refine Disk.sameTree_setFiles (fun w => ne_root_of_mem_writes) ?_ ?_
    · simp only [mem_writes, hmem, implies_true]
    · intro w hw w' hw' hplace
      obtain ⟨e, he, hslot, hcontent⟩ := mem_writes.mp hw
      obtain ⟨e', he', hslot', hcontent'⟩ := mem_writes.mp hw'
      rw [hplace] at hslot
      have hhash : e.hash = e'.hash :=
        hash_eq_of_placeOf (hplain e he) (hplain e' he') (placeOf_of_slot hslot)
          (placeOf_of_slot hslot')
      rw [hcontent, hcontent', hone e he e' he' hhash]

/-! ## Findings of a node -/

/-- What the fetch of each hash finds, wherever it is made. -/
structure Findings (f : Fetcher) (print : Bool) (n : Node) (find : String → Finding) : Prop where
  isFor : ∀ hash, (find hash).IsFor hash
  each : ∀ hash u, n.Alike u.node →
    ∃ inquiry one v, f.Each print hash (find hash) inquiry u one v

theorem exists_findings (hnode : w.node.NoBatch) (hcall : w.node.AnswersByCall) (f : Fetcher)
    (print : Bool) : ∃ find, f.Findings print w.node find := by
  choose find inquiry hfor heach using exists_each hnode f print
  exact ⟨find, hfor, fun hash u halike =>
    ⟨inquiry hash, heach hash u (hcall.sameReplies halike f hash)⟩⟩

/-- The entries that are found for several hashes. -/
def entriesOf (find : String → Finding) (hashes : List String) : List Entry :=
  hashes.flatMap fun hash => (find hash).entries

/-- The number of bytes that are printed for entries. -/
def printedLength (es : List Entry) : Nat :=
  (es.flatMap fun e => printedContent (.found e)).length

/-- An entry is found for each hash and can be stored, and there is room for all that is printed. -/
def GoesWell (f : Fetcher) (print : Bool) (find : String → Finding) (hashes : List String)
    (u : World) : Prop :=
  (∀ hash ∈ hashes, ∃ e, (find hash).outcome? f u.disk = some (.found e)) ∧
    (print = true → u.printer.Holds (printedLength (entriesOf find hashes)))

theorem verdict_holds {outcome : Outcome} {p : Printer} {count : Nat} :
    ((verdict Printer.print print (some outcome) p).1 = .ok () ∧
        (print = true → (verdict Printer.print print (some outcome) p).2.Holds count)) ↔
      (print = true → p.Holds ((printedContent outcome).length + count)) := by
  cases print with
  | false => simp [verdict]
  | true => simp only [verdict, forall_const, Printer.print_holds]

/-- All goes well if the first fetch does, and then the others do. -/
theorem Each.goesWell_cons {one : Bool} {inquiry : Inquiry} {v : World}
    (hv : f.Each print hash (find hash) inquiry u one v) :
    f.GoesWell print find (hash :: hashes) u ↔ one = true ∧ f.GoesWell print find hashes v := by
  have hlater : ∀ other, (find other).outcome? f v.disk = (find other).outcome? f u.disk :=
    fun other => Finding.outcome?_congr hv.keeps_slots (find other)
  simp only [GoesWell, List.forall_mem_cons, hlater, hv.one, wentWell_eq_true, hv.printer]
  by_cases hfound : ∃ e, (find hash).outcome? f u.disk = some (.found e)
  · obtain ⟨e, he⟩ := hfound
    have hlength : printedLength (entriesOf find (hash :: hashes)) =
        (printedContent (.found e)).length + printedLength (entriesOf find hashes) := by
      rw [entriesOf, List.flatMap_cons, Finding.entries_of_outcome he, printedLength,
        List.singleton_append, List.flatMap_cons, List.length_append]
      rfl
    rw [he, hlength, ← verdict_holds]
    simp only [Option.some.injEq, Outcome.found.injEq, exists_eq', true_and]
    exact and_left_comm
  · simp only [hfound, false_and]

/-- A run over several hashes stores what is found for them, and says whether all went well. -/
theorem Findings.run (h : f.Findings print n find) (hashes : List String)
    (halike : n.Alike u.node) :
    ∃ all u', (f.fetchAll print hashes : Trial Bool).runIn u = (.ok all, u') ∧
      u'.disk = f.storeAll (entriesOf find hashes) u.disk ∧
      (all = true ↔ f.GoesWell print find hashes u) := by
  induction hashes generalizing u with
  | nil =>
      refine ⟨true, u, runIn_fetchAll_nil, rfl, ?_⟩
      simp [GoesWell, entriesOf, printedLength, Printer.Holds]
  | cons hash hashes ih =>
      obtain ⟨inquiry, one, v, hv⟩ := h.each hash u halike
      have hnext : n.Alike v.node := by
        rw [hv.node]
        exact Inquiry.alike_made halike f hash inquiry
      obtain ⟨others, u', hrun, hdisk, hothers⟩ := ih hnext
      refine ⟨one && others, u', runIn_fetchAll_cons.mpr ⟨one, v, others, hv.run, hrun, rfl⟩, ?_,
        ?_⟩
      · rw [hdisk, hv.disk, ← storeAll_append]
        rfl
      · rw [Bool.and_eq_true, hothers, hv.goesWell_cons]

/-- Only which hashes there are matters to what is left on the disk. -/
theorem Findings.sameTree (h : f.Findings print n find)
    (hplain : ∀ hash ∈ hashes, '/' ∉ hash.toList)
    (hmem : ∀ hash, hash ∈ hashes ↔ hash ∈ others) :
    (f.storeAll (entriesOf find hashes) d).SameTree (f.storeAll (entriesOf find others) d) := by
  apply sameTree_storeAll
  · intro e he
    obtain ⟨hash, hhash, he⟩ := List.mem_flatMap.mp he
    rw [h.isFor hash e he]
    exact hplain hash hhash
  · intro e he e' he' heq
    obtain ⟨hash, _, he⟩ := List.mem_flatMap.mp he
    obtain ⟨hash', _, he'⟩ := List.mem_flatMap.mp he'
    obtain rfl : hash = hash' := by
      rw [← h.isFor hash e he, ← h.isFor hash' e' he', heq]
    exact Finding.entries_subsingleton he he'
  · intro e
    simp only [entriesOf, List.mem_flatMap, hmem]

/-! ## Order and copies -/

theorem goesWell_of_perm (h : hashes.Perm others) :
    f.GoesWell print find hashes u ↔ f.GoesWell print find others u := by
  have hlength : printedLength (entriesOf find hashes) = printedLength (entriesOf find others) :=
    ((h.flatMap_right _).flatMap_right _).length_eq
  simp only [GoesWell, h.mem_iff, hlength]

/-- Where the stream takes all that is printed, only which hashes there are matters. -/
theorem goesWell_of_mem_iff (hroom : print = true → u.printer.room = none)
    (hmem : ∀ hash, hash ∈ hashes ↔ hash ∈ others) :
    f.GoesWell print find hashes u ↔ f.GoesWell print find others u := by
  have hholds : ∀ count, print = true → u.printer.Holds count := by
    intro count hprint room hsome
    rw [hroom hprint] at hsome
    cases hsome
  simp only [GoesWell, hmem]
  exact and_congr_right' ⟨fun _ => hholds _, fun _ => hholds _⟩

/-- From a node that answers each call always alike, a run over hashes without slashes says the same
and leaves the same on the disk whatever their order is.  A further copy of one of the hashes, at
any place, changes neither, as long as the stream takes all that is printed. -/
theorem fetchAll_anyOrder (f : Fetcher) (print : Bool) (hnode : w.node.NoBatch)
    (hcall : w.node.AnswersByCall) (hplain : ∀ hash ∈ hashes, '/' ∉ hash.toList) :
    ∃ all w', (f.fetchAll print hashes : Trial Bool).runIn w = (.ok all, w') ∧
      (∀ others, hashes.Perm others →
        ∃ u, (f.fetchAll print others : Trial Bool).runIn w = (.ok all, u) ∧
          w'.disk.SameTree u.disk) ∧
      ∀ former latter hash, hashes = former ++ latter → hash ∈ hashes →
        ∃ again u, (f.fetchAll print (former ++ hash :: latter) : Trial Bool).runIn w =
            (.ok again, u) ∧ w'.disk.SameTree u.disk ∧
          ((print = true → w.printer.room = none) → again = all) := by
  obtain ⟨find, hfind⟩ := exists_findings hnode hcall f print
  have halike : w.node.Alike w.node := ⟨rfl, rfl⟩
  obtain ⟨all, w', hrun, hdisk, hall⟩ := hfind.run hashes halike
  refine ⟨all, w', hrun, ?_, ?_⟩
  · intro others hperm
    obtain ⟨all', u, hrun', hdisk', hall'⟩ := hfind.run others halike
    obtain rfl : all' = all := Bool.eq_iff_iff.mpr (by rw [hall, hall', goesWell_of_perm hperm])
    refine ⟨u, hrun', ?_⟩
    rw [hdisk, hdisk']
    exact hfind.sameTree hplain fun _ => hperm.mem_iff
  · rintro former latter hash rfl hhash
    have hmem : ∀ other, other ∈ former ++ latter ↔ other ∈ former ++ hash :: latter := by
      intro other
      rw [List.perm_middle.mem_iff, List.mem_cons]
      exact ⟨Or.inr, fun h => h.elim (fun heq => heq ▸ hhash) id⟩
    obtain ⟨again, u, hrun', hdisk', hagain⟩ := hfind.run (former ++ hash :: latter) halike
    refine ⟨again, u, hrun', ?_, fun hroom => Bool.eq_iff_iff.mpr ?_⟩
    · rw [hdisk, hdisk']
      exact hfind.sameTree hplain hmem
    · rw [hall, hagain, goesWell_of_mem_iff hroom hmem]

/-- Two transactions in either order, and one of them once more. -/
theorem fetchAll_anyOrder_steady :
    Node.steady.NoBatch ∧ Node.steady.AnswersByCall ∧ ∃ w' u v,
      (Fetcher.fetchAll ⟨⟨"http://node"⟩, ⟨"out"⟩⟩ true ["0x7", "0x9"] :
        Trial Bool).runIn { node := .steady } = (.ok true, w') ∧
      (Fetcher.fetchAll ⟨⟨"http://node"⟩, ⟨"out"⟩⟩ true ["0x9", "0x7"] :
        Trial Bool).runIn { node := .steady } = (.ok true, u) ∧
      (Fetcher.fetchAll ⟨⟨"http://node"⟩, ⟨"out"⟩⟩ true ["0x7", "0x9", "0x7"] :
        Trial Bool).runIn { node := .steady } = (.ok true, v) ∧
      w'.disk.SameTree u.disk ∧ w'.disk.SameTree v.disk := by
  have hplain : ∀ hash ∈ ["0x7", "0x9"], '/' ∉ hash.toList := by decide
  have hwell : ((Fetcher.fetchAll ⟨⟨"http://node"⟩, ⟨"out"⟩⟩ true ["0x7", "0x9"] :
      Trial Bool).runIn { node := .steady }).1.toOption = some true := by
    decide +kernel
  obtain ⟨all, w', hrun, horder, hcopy⟩ :=
    fetchAll_anyOrder ⟨⟨"http://node"⟩, ⟨"out"⟩⟩ true (w := { node := .steady })
      Node.steady_noBatch Node.steady_answersByCall hplain
  rw [hrun] at hwell
  obtain rfl : all = true := Option.some.inj hwell
  obtain ⟨u, hrun', htree'⟩ := horder ["0x9", "0x7"] (List.Perm.swap _ _ [])
  obtain ⟨again, v, hrun'', htree'', hsame⟩ := hcopy ["0x7", "0x9"] [] "0x7" rfl (by decide)
  obtain rfl : again = true := hsame fun _ => rfl
  exact ⟨Node.steady_noBatch, Node.steady_answersByCall, w', u, v, hrun, hrun', hrun'', htree',
    htree''⟩

/-- With room for one entry alone, a further copy of its hash is not printed. -/
example :
    ((Fetcher.fetchAll ⟨⟨"http://node"⟩, ⟨"out"⟩⟩ true ["0x7"] : Trial Bool).runIn
        { node := .steady, printer := { room := some 200 } }).1.toOption = some true ∧
      ((Fetcher.fetchAll ⟨⟨"http://node"⟩, ⟨"out"⟩⟩ true ["0x7", "0x7"] : Trial Bool).runIn
        { node := .steady, printer := { room := some 200 } }).1.toOption = some false := by
  decide +kernel

end Fetcher

end TraceArchive
