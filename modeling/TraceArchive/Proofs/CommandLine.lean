import TraceArchive.CommandLine.Options
import TraceArchive.Proofs.Json.Yields
/-!
What the environment adds to a command line.  The words alone say whether there are options at all;
a variable counts only for an option that the words do not give.
-/

namespace TraceArchive

namespace CommandLine

open Json (bind_eq_ok)

variable {env : Environment} {words : List String} {o o' : Options} {option : ValueOption}
variable {v : Option String}

namespace Options

/-- Options with the value of a variable for one that is not given. -/
def filled (o : Options) (option : ValueOption) (v : Option String) : Options :=
  match o.value? option, v with
  | none, some v => o.withValue v option
  | _, _ => o

theorem filled_endpoint (o : Options) (v : Option String) :
    o.filled .endpoint v = { o with endpoint := o.endpoint.or v } := by
  obtain ⟨config, endpoint, outputDir, print, verbose, hashes⟩ := o
  cases endpoint with
  | none =>
      cases v with
      | none => rfl
      | some v => rfl
  | some given => rfl

theorem filled_outputDir (o : Options) (v : Option String) :
    o.filled .outputDir v = { o with outputDir := o.outputDir.or v } := by
  obtain ⟨config, endpoint, outputDir, print, verbose, hashes⟩ := o
  cases outputDir with
  | none =>
      cases v with
      | none => rfl
      | some v => rfl
  | some given => rfl

theorem fillFrom_none (o : Options) (option : ValueOption) : o.fillFrom option none = .ok o := by
  unfold fillFrom
  cases o.value? option with
  | none => rfl
  | some given => rfl

/-- A variable whose value the option cannot have ends the reading of the options; any other fills
them. -/
theorem fillFrom_eq_ok (h : o.fillFrom option v = .ok o') : o' = o.filled option v := by
  unfold fillFrom at h
  unfold filled
  cases hgiven : o.value? option with
  | some given =>
      simp only [hgiven] at h ⊢
      exact (Except.ok.inj h).symm
  | none =>
      cases v with
      | none =>
          simp only [hgiven] at h ⊢
          exact (Except.ok.inj h).symm
      | some v =>
          simp only [hgiven, setValue, Option.isSome_none, Bool.false_eq_true, ↓reduceIte] at h ⊢
          split at h
          · cases h
          · exact (Except.ok.inj h).symm

end Options

/-- Options are complete with a hash. -/
def complete (o : Options) : Except Stop Options :=
  if o.hashes.isEmpty then .error (.usage .missingArgument) else .ok o

/-- The words are read without the environment, which then fills the options. -/
theorem parse_eq (env : Environment) (words : List String) :
    parse env words = (State.takeWords {} words >>= State.settle) >>= fun given =>
      given.options.fillFrom .endpoint (env.get? endpointVariable) >>= fun o =>
        o.fillFrom .outputDir (env.get? outputDirVariable) >>= complete := by
  rw [parse]
  cases State.takeWords {} words with
  | error stop => rfl
  | ok taken => rfl

/-- The options of a command line are those that its words give where nothing is set, with the
values of the variables for those that the words leave out. -/
theorem parse_eq_ok (h : parse env words = .ok o) :
    ∃ given, parse [] words = .ok given ∧
      o = { given with
        endpoint := given.endpoint.or (env.get? endpointVariable)
        outputDir := given.outputDir.or (env.get? outputDirVariable) } := by
  rw [parse_eq] at h
  obtain ⟨state, hstate, h⟩ := bind_eq_ok.mp h
  obtain ⟨half, hhalf, h⟩ := bind_eq_ok.mp h
  obtain ⟨whole, hwhole, h⟩ := bind_eq_ok.mp h
  have hfilled : whole = { state.options with
      endpoint := state.options.endpoint.or (env.get? endpointVariable)
      outputDir := state.options.outputDir.or (env.get? outputDirVariable) } := by
    rw [Options.fillFrom_eq_ok hwhole, Options.fillFrom_eq_ok hhalf, Options.filled_endpoint,
      Options.filled_outputDir]
  have hwords : parse [] words = complete state.options := by
    rw [parse_eq, hstate]
    change (state.options.fillFrom .endpoint none >>= fun o =>
      o.fillFrom .outputDir none >>= complete) = _
    simp only [Options.fillFrom_none]
    rfl
  rw [complete] at h
  split at h
  · cases h
  · rename_i hsome
    obtain rfl := Except.ok.inj h
    refine ⟨state.options, ?_, hfilled⟩
    rw [hfilled] at hsome
    rw [hwords, complete, if_neg hsome]

end CommandLine

end TraceArchive
