import TraceArchive.Proofs.Fetch.Exits
/-!
Fetches of several hashes in turn.  Each is a fetch whose result is then logged and printed:
`verdict` is what the stream says to it, and `remarks` what is logged.  Where no batch is delivered,
a run over several hashes comes to its end, whatever becomes of the single fetches.
-/

namespace TraceArchive

open Fetch (Error)
open Log (Record)

variable {σ : Type} {sink : Sink σ}

/-- The world with more records in its log and another stream. -/
def World.concluded (w : World σ) (records : List Record) (printer : σ) : World σ :=
  { w with log := w.log ++ records, printer := printer }

theorem World.concluded_nil (w : World σ) (printer : σ) :
    w.concluded [] printer = { w with printer := printer } := by
  rw [concluded, List.append_nil]

theorem World.concluded_noted (w : World σ) (record : Record) (records : List Record)
    (printer : σ) : (w.noted record).concluded records printer =
      w.concluded (record :: records) printer := by
  rw [concluded, concluded, noted, List.append_assoc]
  rfl

namespace Fetcher

section Each

variable {f : Fetcher} {print : Bool} {hash : String} {w u w' : World σ}
variable {result : Except Error Outcome}

theorem Exit.answer (h : f.Exit hash w result w') : w'.node.answer = w.node.answer := by
  cases h <;> simp [blockAsked]

theorem Exit.noBatch (h : f.Exit hash w result w') (hnode : w.node.NoBatch) :
    w'.node.NoBatch := by
  rw [Node.NoBatch, h.answer]
  exact hnode

theorem Exit.printer (h : f.Exit hash w result w') : w'.printer = w.printer := by
  cases h <;> simp [blockAsked]

/-! ## What is said of a result -/

/-- What a stream says, and is left with, when a fetch of one of several has come to an outcome or
to an error: outcomes alone are printed, and only if they are to be. -/
def verdict (sink : Sink σ) (print : Bool) (outcome : Option Outcome) (p : σ) :
    Except PrintFault Unit × σ :=
  match print, outcome with
  | true, some outcome => sink p (printedContent outcome)
  | _, _ => (.ok (), p)

/-- Whether a fetch of one of several went well: it found an entry, and that was printed if it was
to be. -/
def wentWell (outcome : Option Outcome) (printed : Except PrintFault Unit) : Bool :=
  match outcome, printed with
  | some (.found _), .ok () => true
  | _, _ => false

theorem wentWell_eq_true {outcome : Option Outcome} {printed : Except PrintFault Unit} :
    wentWell outcome printed = true ↔ (∃ e, outcome = some (.found e)) ∧ printed = .ok () := by
  match outcome, printed with
  | some (.found e), .ok () => simp [wentWell]
  | some (.found e), .error fault => simp [wentWell]
  | some (.notFound absence), _ => simp [wentWell]
  | none, _ => simp [wentWell]

theorem wentWell_toOption {printed : Except PrintFault Unit} :
    wentWell result.toOption printed = true ↔
      (∃ e, result = .ok (.found e)) ∧ printed = .ok () := by
  rw [wentWell_eq_true]
  match result with
  | .error e => simp [Except.toOption]
  | .ok outcome => simp [Except.toOption]

/-- What is logged of the result of a fetch. -/
def resultRemarks (hash : String) : Except Error Outcome → List Record
  | .error e => [⟨.error, target, about hash ("fetch failed: " ++ e.message)⟩]
  | .ok (.found _) => []
  | .ok (.notFound absence) => [⟨.warn, target, about hash absence.error⟩]

/-- What is logged of what a stream said. -/
def printRemarks (hash : String) : Except PrintFault Unit → List Record
  | .ok () => []
  | .error fault => [⟨.error, target, about hash ("print failed: " ++ fault.words)⟩]

/-- What is said of a fetch when it is over. -/
def remarks (hash : String) (result : Except Error Outcome) (printed : Except PrintFault Unit) :
    List Record :=
  resultRemarks hash result ++ printRemarks hash printed

/-! ## The fetch of one of several -/

theorem runIn_finish (print : Bool) (hash : String) (outcome : Outcome) (found : Bool)
    (u : World σ) :
    (finish print hash outcome found : Piped sink Bool).runIn u =
      (.ok (match (verdict sink print (some outcome) u.printer).1 with
          | .ok () => found
          | .error _ => false),
        u.concluded (printRemarks hash (verdict sink print (some outcome) u.printer).1)
          (verdict sink print (some outcome) u.printer).2) := by
  cases print with
  | false => exact congrArg (fun v => (Except.ok found, v)) (u.concluded_nil u.printer).symm
  | true =>
      simp only [finish, ↓reduceIte, Piped.runIn_bind, Piped.runIn_print, verdict]
      rcases sink u.printer (printedContent outcome) with ⟨_ | _, left⟩
      · rfl
      · exact congrArg (fun v => (Except.ok found, v)) (u.concluded_nil left).symm

theorem runIn_settle (print : Bool) (hash : String) (result : Except Error Outcome)
    (u : World σ) :
    (settle print hash result : Piped sink Bool).runIn u =
      (.ok (wentWell result.toOption (verdict sink print result.toOption u.printer).1),
        u.concluded (remarks hash result (verdict sink print result.toOption u.printer).1)
          (verdict sink print result.toOption u.printer).2) := by
  match result with
  | .error e =>
      cases print
      · rfl
      · rfl
  | .ok (.found e) =>
      rw [settle, runIn_finish, Except.toOption]
      rcases verdict sink print (some (.found e)) u.printer with ⟨_ | _, left⟩
      · rfl
      · rfl
  | .ok (.notFound absence) =>
      change (finish print hash (.notFound absence) false : Piped sink Bool).runIn
        (u.noted ⟨.warn, target, about hash absence.error⟩) = _
      rw [runIn_finish, World.concluded_noted, World.printer_noted, Except.toOption]
      rcases verdict sink print (some (.notFound absence)) u.printer with ⟨_ | _, left⟩
      · rfl
      · rfl

/-- Once a fetch has given its result, that of one of several logs and prints it. -/
theorem runIn_fetchEach
    (hfetch : (f.fetch hash : Piped sink (Except Error Outcome)).runIn w = (.ok result, u))
    (print : Bool) :
    (f.fetchEach print hash : Piped sink Bool).runIn w =
      (.ok (wentWell result.toOption (verdict sink print result.toOption u.printer).1),
        u.concluded (remarks hash result (verdict sink print result.toOption u.printer).1)
          (verdict sink print result.toOption u.printer).2) := by
  rw [fetchEach, Piped.runIn_bind_of_ok hfetch]
  exact runIn_settle print hash result u

/-! ## Runs over several hashes -/

variable {hashes : List String} {one : Bool}

theorem runIn_fetchAll_nil : (f.fetchAll print [] : Piped sink Bool).runIn w = (.ok true, w) :=
  rfl

theorem runIn_fetchAll_cons {all : Bool} :
    (f.fetchAll print (hash :: hashes) : Piped sink Bool).runIn w = (.ok all, w') ↔
      ∃ one v others, (f.fetchEach print hash : Piped sink Bool).runIn w = (.ok one, v) ∧
        (f.fetchAll print hashes : Piped sink Bool).runIn v = (.ok others, w') ∧
        all = (one && others) := by
  rw [fetchAll, Piped.runIn_bind_eq_ok]
  simp only [Piped.runIn_bind_eq_ok, Piped.runIn_pure, Prod.mk.injEq, Except.ok.injEq]
  constructor
  · rintro ⟨one, v, hone, others, z, hothers, rfl, rfl⟩
    exact ⟨one, v, others, hone, hothers, rfl⟩
  · rintro ⟨one, v, others, hone, hothers, rfl⟩
    exact ⟨one, v, hone, others, w', hothers, rfl, rfl⟩

/-- A run over two lists one behind the other is a run over the first and then one over the second
from where the first ended. -/
theorem runIn_fetchAll_append {xs ys : List String} {others : Bool}
    (hxs : (f.fetchAll print xs : Piped sink Bool).runIn w = (.ok one, u))
    (hys : (f.fetchAll print ys : Piped sink Bool).runIn u = (.ok others, w')) :
    (f.fetchAll print (xs ++ ys) : Piped sink Bool).runIn w = (.ok (one && others), w') := by
  induction xs generalizing w one with
  | nil =>
      rw [runIn_fetchAll_nil] at hxs
      obtain ⟨hone, rfl⟩ := Prod.mk.inj hxs
      obtain rfl := Except.ok.inj hone
      exact hys
  | cons hash xs ih =>
      obtain ⟨first, v, rest, hfirst, hrest, rfl⟩ := runIn_fetchAll_cons.mp hxs
      exact runIn_fetchAll_cons.mpr ⟨first, v, rest && others, hfirst, ih hrest, Bool.and_assoc ..⟩

end Each

/-! ## Runs that print to a `Printer` -/

variable {f : Fetcher} {print one : Bool} {hash : String} {hashes : List String}
variable {w u v w' : World} {result : Except Error Outcome}

/-- What logging and printing the result of a fetch leaves: nothing that was fetched is lost, and if
all is printed then an entry is what goes well. -/
structure Settled (print : Bool) (result : Except Error Outcome) (u : World) (one : Bool)
    (v : World) : Prop where
  disk : v.disk = u.disk
  node : v.node = u.node
  sent : v.sent = u.sent
  room : u.printer.room = none → v.printer.room = none
  one_iff : (print = true → u.printer.room = none) →
    (one = true ↔ ∃ e, result = .ok (.found e))

/-- A stream without a limit takes what there is to print, and still has no limit. -/
theorem verdict_of_room_none {p : Printer} {outcome : Option Outcome} (h : p.room = none) :
    (verdict Printer.print print outcome p).1 = .ok () ∧
      (verdict Printer.print print outcome p).2.room = none := by
  match print, outcome with
  | true, some outcome =>
      rw [verdict, Printer.print_of_room_none h]
      exact ⟨rfl, h⟩
  | true, none => exact ⟨rfl, h⟩
  | false, _ => exact ⟨rfl, h⟩

/-- Once a fetch has given its result, that of one of several comes to its end. -/
theorem settled_of_fetch
    (hfetch : (f.fetch hash : Trial (Except Error Outcome)).runIn w = (.ok result, u))
    (print : Bool) :
    ∃ one v, (f.fetchEach print hash : Trial Bool).runIn w = (.ok one, v) ∧
      Settled print result u one v := by
  refine ⟨_, _, runIn_fetchEach hfetch print, rfl, rfl, rfl,
    fun h => (verdict_of_room_none h).2, ?_⟩
  intro hroom
  rw [wentWell_toOption, and_iff_left]
  cases print with
  | false => rfl
  | true => exact (verdict_of_room_none (hroom rfl)).1

/-- Without batches the fetch of one of several takes an exit of its fetch and settles what it gave.
-/
theorem exists_settled (hnode : w.node.NoBatch) (f : Fetcher) (print : Bool) (hash : String) :
    ∃ result u one v, f.Exit hash w result u ∧ Settled print result u one v ∧
      (f.fetchEach print hash : Trial Bool).runIn w = (.ok one, v) ∧ v.node.NoBatch := by
  obtain ⟨result, u, hexit⟩ := exists_exit hnode f hash
  obtain ⟨one, v, hrun, hsettled⟩ := settled_of_fetch hexit.run print
  refine ⟨result, u, one, v, hexit, hsettled, hrun, ?_⟩
  rw [hsettled.node]
  exact hexit.noBatch hnode

/-- What the fetch of each of several hashes comes to, made in the world that those before it left.
-/
def results (f : Fetcher) (print : Bool) :
    List String → World → List (String × Except String (Except Error Outcome))
  | [], _ => []
  | hash :: hashes, w =>
    (hash, ((f.fetch hash : Trial (Except Error Outcome)).runIn w).1) ::
      f.results print hashes ((f.fetchEach print hash : Trial Bool).runIn w).2

theorem results_cons
    (hfetch : (f.fetch hash : Trial (Except Error Outcome)).runIn w = (.ok result, u))
    (heach : (f.fetchEach print hash : Trial Bool).runIn w = (.ok one, v)) :
    f.results print (hash :: hashes) w = (hash, .ok result) :: f.results print hashes v := by
  rw [results, hfetch, heach]

/-- Without batches a run over several hashes comes to its end, and if all is printed it goes well
exactly where every fetch comes to an entry. -/
theorem exists_runIn_fetchAll (hnode : w.node.NoBatch) (f : Fetcher) (print : Bool)
    (hashes : List String) :
    ∃ all w', (f.fetchAll print hashes : Trial Bool).runIn w = (.ok all, w') ∧
      w'.node.NoBatch ∧
      ((print = true → w.printer.room = none) →
        (all = true ↔ ∀ r ∈ f.results print hashes w, ∃ e, r.2 = .ok (.ok (.found e)))) := by
  induction hashes generalizing w with
  | nil => exact ⟨true, w, runIn_fetchAll_nil, hnode, fun _ => by simp [results]⟩
  | cons hash hashes ih =>
      obtain ⟨result, u, one, v, hexit, hsettled, heach, hv⟩ := exists_settled hnode f print hash
      obtain ⟨others, w', hrun, hw', hothers⟩ := ih hv
      have hall := runIn_fetchAll_cons.mpr ⟨one, v, others, heach, hrun, rfl⟩
      refine ⟨one && others, w', hall, hw', ?_⟩
      intro hprinted
      have hroom : print = true → u.printer.room = none := by
        rw [hexit.printer]
        exact hprinted
      rw [results_cons hexit.run heach, Bool.and_eq_true, hsettled.one_iff hroom,
        hothers fun hprint => hsettled.room (hroom hprint), List.forall_mem_cons]
      simp only [Except.ok.injEq]

end Fetcher

end TraceArchive
