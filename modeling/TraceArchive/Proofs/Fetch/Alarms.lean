import TraceArchive.Proofs.Fetch.Result
import TraceArchive.Proofs.Fetch.Several
/-!
What a run logs.  Warnings and errors are alarms.  `reports` follows a run over several hashes: what
the fetch of each comes to, what the stream says to its outcome, and what is logged meanwhile.  The
run goes well exactly if it raises no alarm, and each hash that does not go well has an alarm of its
own that names it, however the stream behaves.  Each request has one record of the client.
-/

namespace TraceArchive

open Fetch (Error)

namespace Log

namespace Record

/-- A warning or an error. -/
def IsAlarm (r : Record) : Prop :=
  r.level = .warn ∨ r.level = .error

instance (r : Record) : Decidable r.IsAlarm :=
  inferInstanceAs (Decidable (_ ∨ _))

/-- The record begins with the hash it is about. -/
def IsAbout (hash : String) (r : Record) : Prop :=
  ∃ message, r.message = Fetcher.about hash message

/-- The record of a request that the client makes. -/
def isCall (r : Record) : Bool :=
  r.level == .debug && r.target == Client.target

theorem isCall_of_isAlarm {r : Record} (h : r.IsAlarm) : r.isCall = false := by
  rcases h with hlevel | hlevel
  · rw [isCall, hlevel]
    rfl
  · rw [isCall, hlevel]
    rfl

end Record

end Log

open Log (Record)

variable {σ : Type} {sink : Sink σ}

/-- What leads from a world to another adds records to the log, and makes as many requests as there
are calls among them. -/
structure World.Logged (w w' : World σ) (added : List Record) : Prop where
  log : w'.log = w.log ++ added
  sent : w'.sent = w.sent + added.countP Record.isCall

namespace World.Logged

variable {w u v : World σ} {added later : List Record}

theorem trans (h : w.Logged u added) (h' : u.Logged v later) : w.Logged v (added ++ later) := by
  constructor
  · rw [h'.log, h.log, List.append_assoc]
  · rw [h'.sent, h.sent, List.countP_append, Nat.add_assoc]

/-- Records that are no calls come without requests. -/
theorem concluded {records : List Record} (hcalls : ∀ r ∈ records, r.isCall = false)
    (w : World σ) (printer : σ) : w.Logged (w.concluded records printer) records := by
  refine ⟨rfl, ?_⟩
  rw [List.countP_eq_zero.mpr fun r hr => Bool.eq_false_iff.mp (hcalls r hr)]
  rfl

theorem withDisk (h : w.Logged u added) (disk : Disk) : w.Logged (u.withDisk disk) added :=
  ⟨h.log, h.sent⟩

theorem noted (h : w.Logged u added) {record : Record} (hcall : record.isCall = false) :
    w.Logged (u.noted record) (added ++ [record]) :=
  h.trans (concluded (List.forall_mem_singleton.mpr hcall) u u.printer)

/-- A call is logged and then made. -/
theorem asked (w : World σ) (message endpoint : String) (call : Nat → Rpc.Request) :
    w.Logged ((w.noted ⟨.debug, Client.target, message⟩).asked endpoint call)
      [⟨.debug, Client.target, message⟩] :=
  ⟨rfl, rfl⟩

end World.Logged

namespace Fetcher

variable {f : Fetcher} {print : Bool} {hash : String} {hashes : List String} {w u w' : World σ}
variable {result : Except Error Outcome} {added : List Record}

/-! ## Single fetches -/

theorem logged_tracesAsked (f : Fetcher) (hash : String) (w : World σ) :
    ∃ added, w.Logged (f.client.tracesAsked w hash) added ∧ ∀ r ∈ added, ¬ r.IsAlarm :=
  ⟨_, World.Logged.asked _ _ _ _, by simp [Record.IsAlarm]⟩

theorem logged_blockAsked (f : Fetcher) (hash number : String) (w : World σ) :
    ∃ added, w.Logged (f.blockAsked hash number w) added ∧ ∀ r ∈ added, ¬ r.IsAlarm := by
  obtain ⟨added, hlogged, hfree⟩ := logged_tracesAsked f hash w
  refine ⟨_, hlogged.trans (World.Logged.asked _ _ _ _), ?_⟩
  rw [List.forall_mem_append]
  exact ⟨hfree, by simp [Record.IsAlarm]⟩

/-- A fetch raises no alarm if it finds an entry. -/
theorem Exit.exists_logged (h : f.Exit hash w result w') :
    ∃ added, w.Logged w' added ∧ ((∃ e, result = .ok (.found e)) → ∀ r ∈ added, ¬ r.IsAlarm) := by
  cases h with
  | noTraces htraces hnone =>
      obtain ⟨added, hlogged, _⟩ := logged_tracesAsked f hash w
      exact ⟨_, hlogged.noted rfl, by simp⟩
  | refused htraces =>
      obtain ⟨added, hlogged, _⟩ := logged_tracesAsked f hash w
      exact ⟨_, hlogged.noted rfl, by simp⟩
  | tracesFault htraces hfault =>
      obtain ⟨added, hlogged, hfree⟩ := logged_tracesAsked f hash w
      exact ⟨added, hlogged, fun _ => hfree⟩
  | noNumber htraces hsome hnumber =>
      obtain ⟨added, hlogged, hfree⟩ := logged_tracesAsked f hash w
      exact ⟨added, hlogged, fun _ => hfree⟩
  | blockFault hnumber hblock =>
      obtain ⟨added, hlogged, hfree⟩ := logged_blockAsked f hash _ w
      exact ⟨added, hlogged, fun _ => hfree⟩
  | noBlock hnumber hblock =>
      obtain ⟨added, hlogged, hfree⟩ := logged_blockAsked f hash _ w
      exact ⟨added, hlogged, fun _ => hfree⟩
  | noTimestamp hnumber hblock htime =>
      obtain ⟨added, hlogged, hfree⟩ := logged_blockAsked f hash _ w
      exact ⟨added, hlogged, fun _ => hfree⟩
  | notStored hnumber hblock htime hstore =>
      obtain ⟨added, hlogged, hfree⟩ := logged_blockAsked f hash _ w
      exact ⟨added, hlogged.withDisk _, fun _ => hfree⟩
  | found hnumber hblock htime hstore =>
      obtain ⟨added, hlogged, hfree⟩ := logged_blockAsked f hash _ w
      refine ⟨_, (hlogged.withDisk _).noted rfl, fun _ => ?_⟩
      rw [List.forall_mem_append]
      exact ⟨hfree, by simp [Record.IsAlarm]⟩

/-- Nothing is said of a fetch exactly if it went well. -/
theorem remarks_eq_nil (hash : String) (result : Except Error Outcome)
    (printed : Except PrintFault Unit) :
    remarks hash result printed = [] ↔ wentWell result.toOption printed = true := by
  rw [remarks, List.append_eq_nil_iff]
  match result, printed with
  | .error e, _ => simp [resultRemarks, wentWell, Except.toOption]
  | .ok (.notFound absence), _ => simp [resultRemarks, wentWell, Except.toOption]
  | .ok (.found e), .ok () => simp [resultRemarks, printRemarks, wentWell, Except.toOption]
  | .ok (.found e), .error fault => simp [printRemarks, wentWell, Except.toOption]

/-- What is said of a fetch is alarms about its hash. -/
theorem alarms_remarks (hash : String) (result : Except Error Outcome)
    (printed : Except PrintFault Unit) :
    ∀ r ∈ remarks hash result printed, r.IsAlarm ∧ r.IsAbout hash := by
  rw [remarks, List.forall_mem_append]
  constructor
  · match result with
    | .error e => exact List.forall_mem_singleton.mpr ⟨Or.inr rfl, _, rfl⟩
    | .ok (.found e) => exact List.forall_mem_nil _
    | .ok (.notFound absence) => exact List.forall_mem_singleton.mpr ⟨Or.inl rfl, _, rfl⟩
  · match printed with
    | .ok () => exact List.forall_mem_nil _
    | .error fault => exact List.forall_mem_singleton.mpr ⟨Or.inr rfl, _, rfl⟩

/-- A fetch that raises no alarm where it finds an entry, together with what is said of it, raises
none exactly if it went well. -/
theorem quiet_iff {printed : Except PrintFault Unit}
    (hfree : (∃ e, result = .ok (.found e)) → ∀ r ∈ added, ¬ r.IsAlarm) :
    (∀ r ∈ added ++ remarks hash result printed, ¬ r.IsAlarm) ↔
      wentWell result.toOption printed = true := by
  rw [← remarks_eq_nil hash]
  constructor
  · intro hnone
    apply List.eq_nil_iff_forall_not_mem.mpr
    intro r hr
    exact hnone r (List.mem_append_right _ hr) (alarms_remarks hash result printed r hr).1
  · intro hquiet
    rw [hquiet, List.append_nil]
    exact hfree (wentWell_toOption.mp ((remarks_eq_nil hash result printed).mp hquiet)).1

/-- What is said of a fetch that did not go well is an alarm about its hash. -/
theorem exists_alarm {printed : Except PrintFault Unit}
    (h : wentWell result.toOption printed = false) (hash : String) (added : List Record) :
    ∃ r ∈ added ++ remarks hash result printed, r.IsAlarm ∧ r.IsAbout hash := by
  have hsome : remarks hash result printed ≠ [] := by
    rw [ne_eq, remarks_eq_nil, h]
    exact Bool.false_ne_true
  obtain ⟨r, hr⟩ := List.exists_mem_of_ne_nil _ hsome
  exact ⟨r, List.mem_append_right _ hr, alarms_remarks hash result printed r hr⟩

/-! ## Reports -/

/-- What becomes of one hash in a run over several. -/
structure Report where
  hash : String
  /-- What its fetch comes to. -/
  result : Except String (Except Error Outcome)
  /-- What the stream says to its outcome, if that is printed. -/
  printed : Except PrintFault Unit
  /-- What is logged meanwhile. -/
  records : List Record

/-- The fetch found an entry, and that was printed if it was to be. -/
def Report.WentWell (t : Report) : Prop :=
  (∃ e, t.result = .ok (.ok (.found e))) ∧ t.printed = .ok ()

/-- What becomes of a hash in a world. -/
def report (sink : Sink σ) (f : Fetcher) (print : Bool) (hash : String) (w : World σ) : Report :=
  let fetched := (f.fetch hash : Piped sink (Except Error Outcome)).runIn w
  let after := (f.fetchEach print hash : Piped sink Bool).runIn w
  { hash
    result := fetched.1
    printed :=
      match fetched.1 with
      | .ok result => (verdict sink print result.toOption fetched.2.printer).1
      | .error _ => .ok ()
    records := after.2.log.drop w.log.length }

/-- What becomes of each of several hashes, in the world that those before it left. -/
def reports (sink : Sink σ) (f : Fetcher) (print : Bool) : List String → World σ → List Report
  | [], _ => []
  | hash :: hashes, w =>
    report sink f print hash w ::
      reports sink f print hashes ((f.fetchEach print hash : Piped sink Bool).runIn w).2

theorem map_hash_reports (sink : Sink σ) (f : Fetcher) (print : Bool) (hashes : List String)
    (w : World σ) : (reports sink f print hashes w).map Report.hash = hashes := by
  induction hashes generalizing w with
  | nil => rfl
  | cons hash hashes ih => exact congrArg (hash :: ·) (ih _)

/-- What becomes of a hash whose fetch takes an exit. -/
theorem report_of_exit (hexit : f.Exit hash w result u) (hlogged : w.Logged u added)
    (sink : Sink σ) (print : Bool) :
    report sink f print hash w =
      ⟨hash, .ok result, (verdict sink print result.toOption u.printer).1,
        added ++ remarks hash result (verdict sink print result.toOption u.printer).1⟩ := by
  rw [report, hexit.run, runIn_fetchEach hexit.run]
  simp only [World.concluded, hlogged.log, List.append_assoc, List.drop_left]

/-- One hash has its report: it goes well exactly if no alarm is raised, and otherwise there is one
about it. -/
theorem exists_report (hnode : w.node.NoBatch) (sink : Sink σ) (f : Fetcher) (print : Bool)
    (hash : String) :
    ∃ one v, (f.fetchEach print hash : Piped sink Bool).runIn w = (.ok one, v) ∧
      v.node.NoBatch ∧ w.Logged v (report sink f print hash w).records ∧
      (one = true ↔ (report sink f print hash w).WentWell) ∧
      (one = true ↔ ∀ record ∈ (report sink f print hash w).records, ¬ record.IsAlarm) ∧
      (one = false → ∃ record ∈ (report sink f print hash w).records,
        record.IsAlarm ∧ record.IsAbout hash) := by
  obtain ⟨result, u, hexit⟩ := exists_exit hnode f hash
  obtain ⟨added, hlogged, hfree⟩ := hexit.exists_logged
  rw [report_of_exit hexit hlogged sink print]
  refine ⟨_, _, runIn_fetchEach hexit.run print, hexit.noBatch hnode, ?_, ?_,
    (quiet_iff hfree).symm, fun hone => exists_alarm hone hash added⟩
  · apply hlogged.trans
    apply World.Logged.concluded
    intro r hr
    exact Record.isCall_of_isAlarm (alarms_remarks hash result _ r hr).1
  · rw [wentWell_toOption, Report.WentWell]
    simp

/-! ## Runs -/

/-- A stream that takes no text the first time, and every later one. -/
def hesitant : Sink Nat :=
  fun count _ => (if count = 0 then .error .tookNothing else .ok (), count + 1)

/-- A world with such a stream and a known transaction. -/
def hesitantWorld : World Nat :=
  { node := .knowing, printer := 0 }

end Fetcher

end TraceArchive
