import TraceArchive.Program
import TraceArchive.Proofs.CommandLine
import TraceArchive.Proofs.Fetch.Result
import TraceArchive.Proofs.Fetch.Several
import TraceArchive.Proofs.Settings
/-!
Runs of the whole program.  Settings come from the words of the command line, else from the
environment, else from the file that the words name, else from the defaults; a file that is named
must hold settings even where nothing of it counts.  A run without settings, or without a URL among
them, says so and does nothing else.
-/

namespace TraceArchive

open CommandLine (Environment Options)

namespace Program

variable {o : Options} {disk : Disk} {w w' : World} {s : Settings} {message : String}

/-! ## Settings -/

/-- The value of a setting: the flag's, else the environment's, else the file's, or the default. -/
def resolved {α : Type} (flag environment file : Option α) (default : α) : α :=
  ((flag.or environment).or file).getD default

/-- What the file that is named, if one is, gives of settings. -/
def FileGives (config : Option String) (disk : Disk) (d : Settings.Draft) : Prop :=
  match config with
  | none => d = {}
  | some file => ∃ text, disk.read ⟨file⟩ = .ok text ∧ Settings.Gives text d

/-- There is a file of settings, if one is named. -/
def Loads (config : Option String) (disk : Disk) : Prop :=
  ∀ file, config = some file → ∃ s, Settings.ofContent (disk.read ⟨file⟩) = .ok s

/-- What loading settings comes to; the world stays as it is. -/
def loaded (o : Options) (disk : Disk) : Except String Settings :=
  match o.config with
  | none => .ok (overridden o .standard)
  | some file =>
    match Settings.ofContent (disk.read ⟨file⟩) with
    | .ok s => .ok (overridden o s)
    | .error fault => .error (loadMessage file fault)

theorem runIn_settings (o : Options) (w : World) :
    (settings o : Trial (Except String Settings)).runIn w = (.ok (loaded o w.disk), w) := by
  rw [settings, loaded]
  cases o.config with
  | none => rfl
  | some file =>
      simp only [Piped.runIn_bind, Piped.runIn_readFile]
      cases Settings.ofContent (w.disk.read ⟨file⟩) with
      | ok s => rfl
      | error fault => rfl

theorem exists_loaded_iff (o : Options) (disk : Disk) :
    (∃ s, loaded o disk = .ok s) ↔ Loads o.config disk := by
  rw [loaded, Loads]
  cases o.config with
  | none => simp
  | some file =>
      simp only [Option.some.injEq, forall_eq']
      cases Settings.ofContent (disk.read ⟨file⟩) with
      | ok s => simp
      | error fault => simp

/-- Settings that are loaded are what the file gives, under the values of the options. -/
theorem exists_fileGives (h : loaded o disk = .ok s) :
    ∃ d, FileGives o.config disk d ∧ s = overridden o (Settings.ofDraft d) := by
  rw [loaded] at h
  unfold FileGives
  cases hconfig : o.config with
  | none =>
      rw [hconfig] at h
      exact ⟨{}, rfl, (Except.ok.inj h).symm⟩
  | some file =>
      rw [hconfig] at h
      simp only at h
      cases hread : disk.read ⟨file⟩ with
      | error fault =>
          rw [hread] at h
          cases h
      | ok text =>
          rw [hread] at h
          cases hparse : Settings.parse text with
          | error fault =>
              simp [Settings.ofContent, hparse] at h
          | ok read =>
              obtain ⟨d, hgives, rfl⟩ := Settings.parse_eq_ok.mp hparse
              simp only [Settings.ofContent, hparse, Except.ok.injEq] at h
              exact ⟨d, ⟨text, hread, hgives⟩, h.symm⟩

theorem endpoint_overridden (o : Options) (d : Settings.Draft) :
    (overridden o (Settings.ofDraft d)).endpoint =
      (o.endpoint.or d.endpoint).getD Settings.defaultEndpoint := by
  rw [overridden, Settings.withOverrides, Settings.ofDraft]
  cases o.endpoint with
  | none => rfl
  | some given => rfl

theorem outputDir_overridden (o : Options) (d : Settings.Draft) :
    (overridden o (Settings.ofDraft d)).outputDir =
      ((o.outputDir.map Path.mk).or d.outputDir).getD Settings.defaultOutputDir := by
  rw [overridden, Settings.withOverrides, Settings.ofDraft]
  cases o.outputDir with
  | none => rfl
  | some given => rfl

/-! ## Gates -/

theorem ofSettings_eq_ok {f : Fetcher} :
    Fetcher.ofSettings s = .ok f ↔
      (∃ url, Url.parse s.endpoint = .ok url) ∧ f = ⟨⟨s.endpoint⟩, s.outputDir⟩ := by
  rw [Fetcher.ofSettings, Client.dial]
  cases Url.parse s.endpoint with
  | error fault => simp
  | ok url => simp [eq_comm]

/-- A run without settings says so and does nothing else. -/
theorem runIn_run_of_unloaded (h : loaded o w.disk = .error message) :
    (run o : Trial Bool).runIn w = (.ok false, w.noted ⟨.error, target, message⟩) := by
  have hsettings := runIn_settings o w
  rw [h] at hsettings
  rw [run, Piped.runIn_bind_of_ok hsettings]
  rfl

/-- A run whose endpoint is no URL says so and does nothing else. -/
theorem runIn_run_of_no_url (h : loaded o w.disk = .ok s)
    (hurl : ¬ ∃ url, Url.parse s.endpoint = .ok url) :
    ∃ message, (run o : Trial Bool).runIn w = (.ok false, w.noted ⟨.error, target, message⟩) := by
  have hsettings := runIn_settings o w
  rw [h] at hsettings
  rw [run, Piped.runIn_bind_of_ok hsettings]
  cases hfetcher : Fetcher.ofSettings s with
  | error e =>
      simp only [hfetcher]
      exact ⟨_, rfl⟩
  | ok f => exact absurd (ofSettings_eq_ok.mp hfetcher).1 hurl

theorem runIn_run_of_url (h : loaded o w.disk = .ok s)
    (hurl : ∃ url, Url.parse s.endpoint = .ok url) :
    (run o : Trial Bool).runIn w =
      (Fetcher.fetchAll ⟨⟨s.endpoint⟩, s.outputDir⟩ o.print o.hashes : Trial Bool).runIn w := by
  have hsettings := runIn_settings o w
  rw [h] at hsettings
  rw [run, Piped.runIn_bind_of_ok hsettings]
  simp only [ofSettings_eq_ok.mpr ⟨hurl, rfl⟩]

/-! ## Runs -/

/-- The settings that a run starts with: they are loaded, and their endpoint is a URL. -/
def StartsWith (result : Except String Settings) (s : Settings) : Prop :=
  result = .ok s ∧ ∃ url, Url.parse s.endpoint = .ok url

/-- What a run does once its settings are loaded: it fetches the hashes, or it leaves an error in
the log and nothing else. -/
theorem exists_runIn_run (hnode : w.node.NoBatch) (o : Options) :
    ∃ all w', (run o : Trial Bool).runIn w = (.ok all, w') ∧
      (all = true ↔ ∃ s, StartsWith (loaded o w.disk) s ∧
        (Fetcher.fetchAll ⟨⟨s.endpoint⟩, s.outputDir⟩ o.print o.hashes : Trial Bool).runIn w =
          (.ok true, w')) ∧
      ((¬ ∃ s, StartsWith (loaded o w.disk) s) →
        ∃ message, w' = w.noted ⟨.error, target, message⟩) := by
  by_cases hstarts : ∃ s, StartsWith (loaded o w.disk) s
  · obtain ⟨s, hloaded, hurl⟩ := hstarts
    obtain ⟨all, w', hall, _⟩ :=
      Fetcher.exists_runIn_fetchAll hnode ⟨⟨s.endpoint⟩, s.outputDir⟩ o.print o.hashes
    refine ⟨all, w', (runIn_run_of_url hloaded hurl).trans hall, ?_, ?_⟩
    · constructor
      · rintro rfl
        exact ⟨s, ⟨hloaded, hurl⟩, hall⟩
      · rintro ⟨other, ⟨hother, _⟩, htrue⟩
        obtain rfl := Except.ok.inj (hloaded.symm.trans hother)
        exact Except.ok.inj (Prod.mk.inj (hall.symm.trans htrue)).1
    · intro hnone
      exact absurd ⟨s, hloaded, hurl⟩ hnone
  · have hrun : ∃ message,
        (run o : Trial Bool).runIn w = (.ok false, w.noted ⟨.error, target, message⟩) := by
      cases hloaded : loaded o w.disk with
      | error message => exact ⟨message, runIn_run_of_unloaded hloaded⟩
      | ok s => exact runIn_run_of_no_url hloaded fun hurl => hstarts ⟨s, hloaded, hurl⟩
    obtain ⟨message, hrun⟩ := hrun
    refine ⟨false, _, hrun, ?_, fun _ => ⟨message, rfl⟩⟩
    simp only [Bool.false_eq_true, false_iff]
    rintro ⟨s, hs, _⟩
    exact hstarts ⟨s, hs⟩

/-- A disk with a file of settings. -/
def configured : Disk :=
  { entries := [(["cfg"], .file (Utf8.ofString
      "\x7b\"endpoint\": \"http://[::2]\", \"output_dir\": \"there\"\x7d"))] }

end Program

end TraceArchive
