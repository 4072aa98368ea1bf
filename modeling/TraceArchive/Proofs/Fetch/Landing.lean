import TraceArchive.Proofs.Disk.Creation
import TraceArchive.Proofs.Fetch.Latest
/-!
Where the file of an entry lands.  A write creates or changes one file, at the place to which the
names in the hash lead from the output directory, or from the root where the hash begins with a
slash.  That is in the output directory or below it unless the hash leads out of it.
-/

namespace TraceArchive

open Fetch (Error)

/-- The place is below the directory, at any depth. -/
def Disk.Inside (dir place : Location) : Prop :=
  dir <+: place ∧ place ≠ dir

open Disk (Inside)

namespace Fetcher

variable {f : Fetcher} {e : Entry} {hash : String} {w w' : World} {d later : Disk}
variable {dir place : Location}

/-- The path of a hash's file as it stands behind the output directory. -/
def fileName (hash : String) : Path :=
  ⟨hash ++ fileSuffix⟩

/-- The place that the names in a hash lead to, whatever is on the disk. -/
def landing (dir : Location) (hash : String) : Location :=
  Disk.follow (if (fileName hash).isAbsolute then [] else dir) (fileName hash).parts

/-- The output directory resolves to the given one, the file of the entry is where the names in its
hash lead from there, and no other file is new or changed. -/
structure Lands (f : Fetcher) (e : Entry) (d later : Disk) (dir : Location) : Prop where
  directory : later.enter (later.start f.outputDir) f.outputDir.parts = .ok dir
  content : later.get? (landing dir e.hash) = some (.file (Outcome.found e).rendered)
  others : ∀ place, place ≠ landing dir e.hash →
    ∀ content, later.get? place = some (.file content) ↔ d.get? place = some (.file content)

theorem landing_of_placeOf (hdir : d.enter (d.start f.outputDir) f.outputDir.parts = .ok dir)
    (hplace : d.placeOf (f.outputPath hash) = some place) : place = landing dir hash := by
  rw [landing]
  cases habsolute : (fileName hash).isAbsolute with
  | true =>
      have hpath : f.outputPath hash = fileName hash := by
        rw [outputPath, Path.join]
        exact if_pos habsolute
      rw [hpath] at hplace
      rw [if_pos rfl, Disk.eq_follow_of_placeOf hplace, Disk.start, if_pos habsolute]
  | false =>
      rw [if_neg (by simp)]
      exact Disk.eq_follow_of_join habsolute hdir hplace

theorem store_eq_ok_iff :
    f.store e d = (later, .ok ()) ↔ (d.createDirs f.outputDir).2 = .ok () ∧
      (d.createDirs f.outputDir).1.write (f.outputPath e.hash) (fileContent e) = .ok later := by
  rw [store]
  rcases d.createDirs f.outputDir with ⟨mid, fault | u⟩
  · simp
  · simp only [true_and]
    rcases mid.write (f.outputPath e.hash) (fileContent e) with fault | written
    · simp
    · simp

theorem exists_lands (h : f.store e d = (later, .ok ())) : ∃ dir, f.Lands e d later dir := by
  obtain ⟨hdirs, hwrite⟩ := store_eq_ok_iff.mp h
  have hgrown := Disk.grown_createDirs d f.outputDir
  obtain ⟨dir, hdir⟩ := Disk.leads_of_createDirs hdirs
  obtain ⟨place, hplace, hcontent, _, hkeeps, hwork, hothers⟩ := Disk.write_effect hwrite
  have hdirectory : later.enter (later.start f.outputDir) f.outputDir.parts = .ok dir := by
    rw [Disk.start_congr (hwork.trans hgrown.workDir)]
    exact hkeeps.enter hdir
  obtain rfl := landing_of_placeOf hdirectory hplace
  refine ⟨dir, hdirectory, hcontent, ?_⟩
  intro other hother content
  rw [hothers other hother, hgrown.file_iff]

/-! ## Hashes that do not lead out -/

/-- A file name is none of the names that a walk takes for more than a name. -/
theorem name_ne_of_length {name other : String} (h : other.length < fileSuffix.length) :
    name ++ fileSuffix ≠ other := by
  rintro rfl
  rw [String.length_append] at h
  omega

/-- Names that end with a file name lead to a place of that name, wherever the others lead. -/
theorem follow_fileName (place : Location) (names : List String) (name : String) :
    Disk.follow place (names ++ [name ++ fileSuffix]) =
      Disk.follow place names ++ [name ++ fileSuffix] :=
  Disk.follow_concat (name_ne_of_length (by decide)) (name_ne_of_length (by decide)) place names

/-- A hash without slashes names a file in the output directory itself. -/
theorem landing_of_noSlash (hslash : '/' ∉ hash.toList) (dir : Location) :
    landing dir hash = dir ++ [hash ++ fileSuffix] := by
  have hname := slash_notMem_fileName hslash
  rw [landing, fileName, Path.isAbsolute_of_noSlash hname, if_neg Bool.false_ne_true,
    Path.parts_of_noSlash (fileName_ne_empty hash) hname]
  exact follow_fileName dir [] hash

/-- A hash that neither begins with a slash nor goes up names a file below the output directory. -/
theorem inside_landing (hrelative : (fileName hash).isAbsolute = false)
    (hup : ".." ∉ (fileName hash).parts) (dir : Location) : Inside dir (landing dir hash) := by
  obtain ⟨before, last, hparts⟩ : ∃ before last, (fileName hash).parts =
      before ++ [last ++ fileSuffix] := by
    have hsome : fileSuffix.toList ≠ [] := by decide
    have hslash : '/' ∉ fileSuffix.toList := by decide
    obtain ⟨before, last, hparts⟩ := Path.partsOf_append_name hash.toList hsome hslash
    refine ⟨before, String.ofList last, ?_⟩
    rw [Path.parts, fileName, String.toList_append, hparts, String.ofList_append,
      String.ofList_toList]
  rw [hparts, List.mem_append, not_or] at hup
  have hparent := Disk.isPrefix_follow hup.1 dir
  rw [landing, hrelative, if_neg Bool.false_ne_true, hparts, follow_fileName]
  refine ⟨hparent.trans (List.prefix_append _ _), ?_⟩
  intro hsame
  have hlength := congrArg List.length hsame
  have hle := hparent.length_le
  rw [List.length_append, List.length_singleton] at hlength
  omega

/-! ## Writes and fetches -/

theorem runIn_write_eq_ok {path : Path} :
    (f.write e : Trial (Except Error Path)).runIn w = (.ok (.ok path), w') ↔
      ∃ later, f.store e w.disk = (later, .ok ()) ∧ path = f.outputPath e.hash ∧
        w' = w.withDisk later := by
  rw [runIn_write]
  rcases f.store e w.disk with ⟨later, fault | u⟩
  · simp
  · simp [eq_comm]

/-- A write that succeeds, and so a fetch that finds an entry, creates or changes one file, the one
where the names in the hash lead to from the output directory, or from the root.  It is below the
output directory if the hash neither begins with a slash nor goes up, and in the directory itself if
the hash has no slash at all. -/
theorem write_lands (f : Fetcher) (w : World) :
    (∀ e path w', (f.write e : Trial (Except Error Path)).runIn w = (.ok (.ok path), w') →
      ∃ dir, f.Lands e w.disk w'.disk dir) ∧
    (∀ hash e w', (f.fetch hash : Trial (Except Error Outcome)).runIn w =
        (.ok (.ok (.found e)), w') →
      e.hash = hash ∧ ∃ dir, f.Lands e w.disk w'.disk dir) ∧
    ∀ hash dir,
      ((fileName hash).isAbsolute = false → ".." ∉ (fileName hash).parts →
        Inside dir (landing dir hash)) ∧
      ('/' ∉ hash.toList → landing dir hash = dir ++ [hash ++ fileSuffix]) := by
  refine ⟨?_, ?_, fun hash dir => ⟨fun hrelative hup => inside_landing hrelative hup dir,
    fun hslash => landing_of_noSlash hslash dir⟩⟩
  · intro e path w' hrun
    obtain ⟨later, hstore, _, rfl⟩ := runIn_write_eq_ok.mp hrun
    exact exists_lands hstore
  · intro hash e w' hrun
    cases runIn_fetch_eq_ok.mp hrun with
    | found hnumber hblock htime hstore => exact ⟨rfl, exists_lands hstore⟩

theorem runIn_write_of_stored (h : (f.store e w.disk).2 = .ok ()) :
    (f.write e : Trial (Except Error Path)).runIn w =
      (.ok (.ok (f.outputPath e.hash)), w.withDisk (f.store e w.disk).1) :=
  runIn_write_eq_ok.mpr ⟨_, Prod.ext rfl h, rfl, rfl⟩

/-- A hash that goes up from the output directory and back into it. -/
theorem write_lands_returning :
    ∃ path w' content,
      (Fetcher.write ⟨⟨"http://node"⟩, ⟨"new"⟩⟩ ⟨"../new/7", "0x1", .ofNat 5, []⟩ :
        Trial (Except Error Path)).runIn {} = (.ok (.ok path), w') ∧
      w'.disk.get? ["new", "7_trace.json"] = some (.file content) ∧
      Inside ["new"] ["new", "7_trace.json"] := by
  have hrun : (Fetcher.write ⟨⟨"http://node"⟩, ⟨"new"⟩⟩ ⟨"../new/7", "0x1", .ofNat 5, []⟩ :
      Trial (Except Error Path)).runIn {} = _ := runIn_write_of_stored (by decide +kernel)
  obtain ⟨dir, hlands⟩ := (write_lands _ _).1 _ _ _ hrun
  have hdir : Disk.enter (store ⟨⟨"http://node"⟩, ⟨"new"⟩⟩ ⟨"../new/7", "0x1", .ofNat 5, []⟩ {}).1
      [] ["new"] = .ok ["new"] := by
    decide +kernel
  obtain rfl : dir = ["new"] := Except.ok.inj (hlands.directory.symm.trans hdir)
  have hlanding : landing ["new"] "../new/7" = ["new", "7_trace.json"] := by decide +kernel
  exact ⟨_, _, _, hrun, hlanding ▸ hlands.content, by decide, by decide⟩

/-- The entry of a hash is written into the directory `out` of an empty disk, and creates a file
that is not below that directory. -/
def Strays (hash : String) (place : Location) : Prop :=
  ∃ path w' dir content,
    (Fetcher.write ⟨⟨"http://node"⟩, ⟨"out"⟩⟩ ⟨hash, "0x1", .ofNat 5, []⟩ :
      Trial (Except Error Path)).runIn {} = (.ok (.ok path), w') ∧
    w'.disk.enter (w'.disk.start ⟨"out"⟩) (Path.parts ⟨"out"⟩) = .ok dir ∧
    w'.disk.get? place = some (.file content) ∧ ({} : Disk).get? place = none ∧ ¬ Inside dir place

/-- Hashes that lead out of the output directory, upwards or from the root: the file is created
beside the directory. -/
theorem write_lands_outside :
    Strays "../7" ["7_trace.json"] ∧ Strays "/7" ["7_trace.json"] := by
  have houtside : ¬ Inside ["out"] ["7_trace.json"] := by
    rintro ⟨hbelow, _⟩
    exact absurd hbelow (by decide)
  constructor
  · exact ⟨_, _, ["out"], fileContent ⟨"../7", "0x1", .ofNat 5, []⟩,
      runIn_write_of_stored (by decide +kernel), by decide +kernel, by decide +kernel,
      by decide, houtside⟩
  · exact ⟨_, _, ["out"], fileContent ⟨"/7", "0x1", .ofNat 5, []⟩,
      runIn_write_of_stored (by decide +kernel), by decide +kernel, by decide +kernel,
      by decide, houtside⟩

end Fetcher

end TraceArchive
