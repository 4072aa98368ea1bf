import TraceArchive.Fetch.Fetcher
import TraceArchive.Proofs.Disk.Growth
import TraceArchive.Proofs.Disk.Storage
import TraceArchive.Proofs.Piped
/-!
Storing an entry, as a change of the disk alone.  `Stored` says all that a success leaves: the file
with the entry's text, and new directories where beginnings of the output directory lead.  A failure
leaves such directories at most.
-/

namespace TraceArchive

open Fetch (Error)

/-- The text of an outcome. -/
def Outcome.rendered (o : Outcome) : Bytes :=
  Utf8.encode o.toValue.pretty

namespace Fetcher

/-- What is written for an entry is the text of its outcome. -/
theorem fileContent_eq (e : Entry) : fileContent e = (Outcome.found e).rendered :=
  rfl

/-- Makes the output directory and writes an entry's file into it.  A refusal leaves what was made
before it. -/
def store (f : Fetcher) (e : Entry) (d : Disk) : Disk × Except Disk.Fault Unit :=
  match d.createDirs f.outputDir with
  | (mid, .error fault) => (mid, .error fault)
  | (mid, .ok ()) =>
    match mid.write (f.outputPath e.hash) (fileContent e) with
    | .ok later => (later, .ok ())
    | .error fault => (mid, .error fault)

/-- The error of a file that could not be written. -/
def storeError (f : Fetcher) (hash : String) (fault : Disk.Fault) : Error :=
  .stacked (.plain (.disk fault)) [.writeOutput (f.outputPath hash)]

theorem runIn_write {σ : Type} {sink : Sink σ} (f : Fetcher) (e : Entry) (w : World σ) :
    (f.write e : Piped sink (Except Error Path)).runIn w =
      match f.store e w.disk with
      | (later, .ok ()) => (.ok (.ok (f.outputPath e.hash)), w.withDisk later)
      | (later, .error fault) => (.ok (.error (f.storeError e.hash fault)), w.withDisk later) := by
  simp only [write, store, Piped.runIn_bind, Piped.runIn_createDirs]
  cases hdirs : w.disk.createDirs f.outputDir with
  | mk mid result =>
      cases result with
      | error fault => rfl
      | ok u =>
          simp only [Piped.runIn_bind, Piped.runIn_writeFile, World.disk_withDisk]
          cases mid.write (f.outputPath e.hash) (fileContent e) with
          | ok later => rfl
          | error fault => rfl

/-- Whatever comes of storing an entry, directories are made first, and then the file is written or
nothing more is done. -/
theorem store_cases (f : Fetcher) (e : Entry) (d : Disk) :
    ∃ mid, d.Grown mid (d.start f.outputDir) (· <+: f.outputDir.parts) ∧
      ((∃ later, mid.write (f.outputPath e.hash) (fileContent e) = .ok later ∧
          f.store e d = (later, .ok ())) ∨
        ∃ fault, f.store e d = (mid, .error fault)) := by
  have hgrown := Disk.grown_createDirs d f.outputDir
  rw [store]
  cases hdirs : d.createDirs f.outputDir with
  | mk mid result =>
      rw [hdirs] at hgrown
      refine ⟨mid, hgrown, ?_⟩
      cases result with
      | error fault => exact Or.inr ⟨fault, rfl⟩
      | ok u =>
          simp only
          cases mid.write (f.outputPath e.hash) (fileContent e) with
          | error fault => exact Or.inr ⟨fault, rfl⟩
          | ok later => exact Or.inl ⟨later, rfl, rfl⟩

theorem store_eq_ok {f : Fetcher} {e : Entry} {d later : Disk}
    (h : f.store e d = (later, .ok ())) :
    ∃ mid, d.Grown mid (d.start f.outputDir) (· <+: f.outputDir.parts) ∧
      mid.write (f.outputPath e.hash) (fileContent e) = .ok later := by
  obtain ⟨mid, hgrown, ⟨written, hwrite, hstore⟩ | ⟨fault, hstore⟩⟩ := f.store_cases e d
  · obtain ⟨rfl, _⟩ := Prod.mk.inj (hstore.symm.trans h)
    exact ⟨mid, hgrown, hwrite⟩
  · cases hstore.symm.trans h

theorem grown_of_store_error {f : Fetcher} {e : Entry} {d later : Disk} {fault : Disk.Fault}
    (h : f.store e d = (later, .error fault)) :
    d.Grown later (d.start f.outputDir) (· <+: f.outputDir.parts) := by
  obtain ⟨mid, hgrown, ⟨written, hwrite, hstore⟩ | ⟨fault, hstore⟩⟩ := f.store_cases e d
  · cases hstore.symm.trans h
  · obtain ⟨rfl, _⟩ := Prod.mk.inj (hstore.symm.trans h)
    exact hgrown

/-- What storing an entry leaves of a disk: the entry's file holds its text, every other file and
every directory is as it was, and what directories are new stand where beginnings of the output
directory lead. -/
structure Stored (f : Fetcher) (e : Entry) (d later : Disk) : Prop where
  workDir : later.workDir = d.workDir
  content : later.read (f.outputPath e.hash) = .ok (Outcome.found e).rendered
  others : ∀ place, later.placeOf (f.outputPath e.hash) ≠ some place →
    ∀ content, later.get? place = some (.file content) ↔ d.get? place = some (.file content)
  keepsDirs : d.KeepsDirs later
  newDirs : ∀ place, later.get? place = some .directory → d.get? place ≠ some .directory →
    ∃ names, names <+: f.outputDir.parts ∧
      later.enter (later.start f.outputDir) names = .ok place

theorem stored_of_store {f : Fetcher} {e : Entry} {d later : Disk}
    (h : f.store e d = (later, .ok ())) : f.Stored e d later := by
  obtain ⟨mid, hgrown, hwrite⟩ := store_eq_ok h
  obtain ⟨place, hplace, hcontent, -, hkeeps, hwork, hothers⟩ := Disk.write_effect hwrite
  refine ⟨hwork.trans hgrown.workDir, fileContent_eq e ▸ Disk.read_write hwrite, ?_, ?_, ?_⟩
  · intro other hother content
    have hne : other ≠ place := by
      rintro rfl
      exact hother hplace
    rw [hothers other hne, hgrown.file_iff]
  · intro other hdir
    exact hkeeps other (hgrown.keepsDirs other hdir)
  · intro other hdir hnew
    have hne : other ≠ place := by
      rintro rfl
      rw [hcontent] at hdir
      cases hdir
    rw [hothers other hne] at hdir
    have hnone : d.get? other = none := by
      cases hentry : d.get? other with
      | none => rfl
      | some old =>
          have := hgrown.kept other old hentry
          rw [hdir] at this
          rw [hentry, ← Option.some.inj this] at hnew
          exact absurd rfl hnew
    obtain ⟨-, names, hnames, henter⟩ := hgrown.added other .directory hnone hdir
    rw [Disk.start_congr (hwork.trans hgrown.workDir)]
    exact ⟨names, hnames, hkeeps.enter henter⟩

end Fetcher

end TraceArchive
