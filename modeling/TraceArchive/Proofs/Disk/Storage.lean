import TraceArchive.Proofs.Disk.Walk
/-!
Files on a disk.  When `read` and `write` succeed, said by the place that the path names; what is
read after a write; and how files outlive other changes of the disk.
-/

namespace TraceArchive

namespace Disk

variable {d later : Disk} {p : Path} {content : Bytes}

/-- What a path must be for a file to be reached by it. -/
def NamesFile (p : Path) : Prop :=
  checkPath p = .ok () ∧ p.endsWithSlash = false

theorem read_eq_ok_iff :
    d.read p = .ok content ↔
      NamesFile p ∧ ∃ place, d.placeOf p = some place ∧ d.get? place = some (.file content) := by
  simp only [read, NamesFile, placeOf_eq_some]
  cases hcheck : checkPath p with
  | error fault => simp [bind, Except.bind]
  | ok u =>
      cases hresolve : d.resolve (d.start p) p.parts with
      | error fault => simp [bind, Except.bind]
      | ok target =>
          cases target with
          | self => simp [bind, Except.bind]
          | named place =>
              cases hentry : d.get? place with
              | none => simp [bind, Except.bind, hentry]
              | some e =>
                  cases e with
                  | directory => simp [bind, Except.bind, hentry]
                  | file old =>
                      cases hslash : p.endsWithSlash <;>
                        simp [bind, Except.bind, hentry]

theorem write_eq_ok_iff :
    d.write p content = .ok later ↔
      NamesFile p ∧ ∃ place, d.placeOf p = some place ∧ d.get? place ≠ some .directory ∧
        later = d.set place (.file content) := by
  simp only [write, NamesFile, placeOf_eq_some]
  cases hcheck : checkPath p with
  | error fault => simp [bind, Except.bind]
  | ok u =>
      cases hresolve : d.resolve (d.start p) p.parts with
      | error fault => simp [bind, Except.bind]
      | ok target =>
          cases target with
          | self => simp [bind, Except.bind]
          | named place =>
              cases hentry : d.get? place with
              | none =>
                  cases hslash : p.endsWithSlash <;>
                    simp [bind, Except.bind, hentry, eq_comm]
              | some e =>
                  cases e with
                  | directory => simp [bind, Except.bind, hentry]
                  | file old =>
                      cases hslash : p.endsWithSlash <;>
                        simp [bind, Except.bind, hentry, eq_comm]

/-- A place that holds no directory can be given a file without loss of a directory. -/
theorem keepsDirs_set_file {place : Location} (hplace : place ≠ [])
    (hentry : d.get? place ≠ some .directory) (content : Bytes) :
    d.KeepsDirs (d.set place (.file content)) := by
  intro other hother
  have hne : other ≠ place := by
    rintro rfl
    exact hentry hother
  rw [get?_set hplace, if_neg hne, hother]

/-- What a write leaves: the path names a place with the new content, and every other place has what
it had. -/
theorem write_effect (h : d.write p content = .ok later) :
    ∃ place, later.placeOf p = some place ∧ later.get? place = some (.file content) ∧
      d.get? place ≠ some .directory ∧ d.KeepsDirs later ∧ later.workDir = d.workDir ∧
      ∀ other, other ≠ place → later.get? other = d.get? other := by
  obtain ⟨_, place, hplace, hentry, rfl⟩ := write_eq_ok_iff.mp h
  have hroot := placeOf_ne_root hplace
  have hkeeps := keepsDirs_set_file hroot hentry content
  refine ⟨place, hkeeps.placeOf rfl hplace, ?_, hentry, hkeeps, rfl, ?_⟩
  · rw [get?_set hroot, if_pos rfl]
  · intro other hother
    rw [get?_set hroot, if_neg hother]

theorem read_write (h : d.write p content = .ok later) : later.read p = .ok content := by
  obtain ⟨place, hplace, hcontent, -⟩ := write_effect h
  exact read_eq_ok_iff.mpr ⟨(write_eq_ok_iff.mp h).1, place, hplace, hcontent⟩

/-- A file is read as before on a disk that still has its directories, and has the file at the place
that the path names now. -/
theorem read_of_keepsDirs (hkeeps : d.KeepsDirs later) (hwork : later.workDir = d.workDir)
    (hread : d.read p = .ok content)
    (hsame : ∀ place, later.placeOf p = some place → d.get? place = some (.file content) →
      later.get? place = some (.file content)) : later.read p = .ok content := by
  obtain ⟨hfile, place, hplace, hcontent⟩ := read_eq_ok_iff.mp hread
  have hlater := hkeeps.placeOf hwork hplace
  exact read_eq_ok_iff.mpr ⟨hfile, place, hlater, hsame place hlater hcontent⟩

end Disk

end TraceArchive
