import TraceArchive.Proofs.Disk.Walk
/-!
Directories that are created.  `Grown` says that a disk has gained directories and nothing else,
each where an allowed list of names leads.  Creating a directory with those that hold it makes a
disk grow so along the beginnings of the path, whether it succeeds or breaks off half way.
-/

namespace TraceArchive

namespace Disk

variable {d mid later : Disk} {start : Location} {ways : List String → Prop}

/-- The later disk has all entries of the first, and besides them directories alone, each at a place
to which allowed names lead on the later disk. -/
structure Grown (d later : Disk) (start : Location) (ways : List String → Prop) : Prop where
  workDir : later.workDir = d.workDir
  kept : ∀ place e, d.get? place = some e → later.get? place = some e
  added : ∀ place e, d.get? place = none → later.get? place = some e →
    e = .directory ∧ ∃ names, ways names ∧ later.enter start names = .ok place

namespace Grown

theorem refl (d : Disk) (start : Location) (ways : List String → Prop) :
    d.Grown d start ways := by
  refine ⟨rfl, fun _ _ h => h, ?_⟩
  intro place e hnone hsome
  rw [hnone] at hsome
  cases hsome

theorem keepsDirs (h : d.Grown later start ways) : d.KeepsDirs later :=
  fun place hdir => h.kept place .directory hdir

theorem trans (hfirst : d.Grown mid start ways) (hsecond : mid.Grown later start ways) :
    d.Grown later start ways := by
  refine ⟨hsecond.workDir.trans hfirst.workDir, ?_, ?_⟩
  · intro place e h
    exact hsecond.kept place e (hfirst.kept place e h)
  · intro place e hnone hsome
    cases hmid : mid.get? place with
    | none => exact hsecond.added place e hmid hsome
    | some old =>
        obtain ⟨rfl, names, hways, henter⟩ := hfirst.added place old hnone hmid
        have heq : e = .directory := by
          have := hsecond.kept place .directory hmid
          rw [hsome] at this
          exact Option.some.inj this
        exact ⟨heq, names, hways, hsecond.keepsDirs.enter henter⟩

theorem mono {others : List String → Prop} (h : d.Grown later start ways)
    (hways : ∀ names place, ways names → later.enter start names = .ok place →
      ∃ names', others names' ∧ later.enter start names' = .ok place) :
    d.Grown later start others := by
  refine ⟨h.workDir, h.kept, ?_⟩
  intro place e hnone hsome
  obtain ⟨hdir, names, hnames, henter⟩ := h.added place e hnone hsome
  exact ⟨hdir, hways names place hnames henter⟩

/-- Growth neither adds, removes nor changes a file. -/
theorem file_iff (h : d.Grown later start ways) (place : Location) (content : Bytes) :
    later.get? place = some (.file content) ↔ d.get? place = some (.file content) := by
  constructor
  · intro hlater
    cases hentry : d.get? place with
    | none => cases (h.added place _ hentry hlater).1
    | some e =>
        have := h.kept place e hentry
        rw [hlater] at this
        exact this.symm
  · exact h.kept place _

end Grown

/-! ## Creation -/

theorem createDir_eq_ok {names : List String} (h : d.createDir start names = .ok later) :
    ∃ place, d.resolve start names = .ok (.named place) ∧ d.get? place = none ∧
      later = d.set place .directory := by
  rw [createDir] at h
  cases hresolve : d.resolve start names with
  | error fault => simp [hresolve, bind, Except.bind] at h
  | ok target =>
      cases target with
      | self => simp [hresolve, bind, Except.bind] at h
      | named place =>
          cases hentry : d.get? place with
          | some e => simp [hresolve, hentry, bind, Except.bind] at h
          | none =>
              simp only [hresolve, hentry, bind, Except.bind, Except.ok.injEq] at h
              exact ⟨place, rfl, hentry, h.symm⟩

theorem grown_createDir {names : List String} (hways : ways names)
    (h : d.createDir start names = .ok later) : d.Grown later start ways := by
  obtain ⟨place, hresolve, hnone, rfl⟩ := createDir_eq_ok h
  obtain ⟨before, last, parent, rfl, hdot, hdots, henter, hstep⟩ := resolve_eq_named.mp hresolve
  have hroot : place ≠ [] := by
    rw [step_eq_append hdot hdots hstep]
    simp
  have hkept : ∀ other e, d.get? other = some e →
      (d.set place .directory).get? other = some e := by
    intro other e hother
    have hne : other ≠ place := by
      rintro rfl
      rw [hnone] at hother
      cases hother
    rw [get?_set hroot, if_neg hne, hother]
  refine ⟨rfl, hkept, ?_⟩
  intro other e hother hsome
  rw [get?_set hroot] at hsome
  split at hsome
  · rename_i heq
    subst heq
    refine ⟨(Option.some.inj hsome).symm, before ++ [last], hways, ?_⟩
    have hkeeps : d.KeepsDirs (d.set other .directory) := fun q hq => hkept q _ hq
    refine enter_append_eq_ok.mpr ⟨parent, hkeeps.enter henter, ?_⟩
    exact enter_cons_eq_ok.mpr ⟨other, hstep, by rw [get?_set hroot, if_pos rfl], rfl⟩
  · rw [hother] at hsome
    cases hsome

theorem grown_createEach {lists : List (List String)} (hways : ∀ names ∈ lists, ways names) :
    d.Grown (d.createEach start lists).1 start ways := by
  induction lists generalizing d with
  | nil => exact .refl d start ways
  | cons names rest ih =>
      have hnames := hways names List.mem_cons_self
      have hrest := fun other hother => hways other (List.mem_cons_of_mem names hother)
      rw [createEach]
      split
      · rename_i next hnext
        exact (grown_createDir hnames hnext).trans (ih hrest)
      · split
        · exact ih hrest
        · exact .refl d start ways

theorem grown_createUpwards {above below : List (List String)}
    (habove : ∀ names ∈ above, ways names) (hbelow : ∀ names ∈ below, ways names) :
    d.Grown (d.createUpwards start above below).1 start ways := by
  induction above generalizing below with
  | nil => exact grown_createEach hbelow
  | cons names rest ih =>
      have hnames := habove names List.mem_cons_self
      have hrest := fun other hother => habove other (List.mem_cons_of_mem names hother)
      rw [createUpwards]
      split
      · rename_i next hnext
        exact (grown_createDir hnames hnext).trans (grown_createEach hbelow)
      · split
        · refine ih hrest ?_
          intro other hother
          rcases List.mem_cons.mp hother with rfl | hother
          · exact hnames
          · exact hbelow other hother
        · split
          · exact grown_createEach hbelow
          · exact .refl d start ways

/-! ## Beginnings of a path -/

theorem components_of_absolute {p : Path} (h : p.isAbsolute = true) :
    p.components = p.parts.filter (· ≠ ".") := by
  simp [Path.components, h]

theorem components_of_relative {p : Path} (h : p.isAbsolute = false) {first : String}
    {others : List String} (hparts : p.parts = first :: others) :
    p.components = first :: others.filter (· ≠ ".") := by
  by_cases hfirst : first = "."
  · simp [Path.components, h, hparts, hfirst]
  · simp [Path.components, h, hparts, hfirst]

/-- Components leave out single dots, and still each beginning of them leads where a beginning of
the path leads: a dot that is left out stands behind a name that leads to a directory, or behind the
root. -/
theorem enter_prefix_parts {p : Path} {names : List String} {place : Location}
    (hnames : names <+: p.components) (h : d.enter (d.start p) names = .ok place) :
    ∃ names', names' <+: p.parts ∧ d.enter (d.start p) names' = .ok place := by
  cases habsolute : p.isAbsolute with
  | true =>
      have hstart : d.start p = [] := by simp [Disk.start, habsolute]
      rw [components_of_absolute habsolute, List.prefix_filter_iff] at hnames
      obtain ⟨names', hprefix, rfl⟩ := hnames
      rw [hstart] at h ⊢
      exact ⟨names', hprefix, (enter_filter_dots (get?_root d) names').mp h⟩
  | false =>
      cases hparts : p.parts with
      | nil =>
          have hnil : names = [] := by simpa [Path.components, hparts] using hnames
          subst hnil
          exact ⟨[], List.nil_prefix, h⟩
      | cons first others =>
          rw [components_of_relative habsolute hparts] at hnames
          cases names with
          | nil => exact ⟨[], List.nil_prefix, h⟩
          | cons name rest =>
              obtain ⟨rfl, hrest⟩ := List.cons_prefix_cons.mp hnames
              obtain ⟨rest', hprefix, rfl⟩ := List.prefix_filter_iff.mp hrest
              obtain ⟨next, hstep, hdir, henter⟩ := enter_cons_eq_ok.mp h
              refine ⟨name :: rest', List.cons_prefix_cons.mpr ⟨rfl, hprefix⟩, ?_⟩
              exact enter_cons_eq_ok.mpr
                ⟨next, hstep, hdir, (enter_filter_dots hdir rest').mp henter⟩

theorem prefix_of_mem_beginnings {names beginning : List String}
    (h : beginning ∈ beginnings names) : beginning <+: names := by
  simp only [beginnings, List.mem_map, List.mem_reverse] at h
  obtain ⟨n, _, rfl⟩ := h
  exact List.take_prefix n names

/-- Creating a directory adds directories alone, each where a beginning of its path leads, also
where it breaks off. -/
theorem grown_createDirs (d : Disk) (p : Path) :
    d.Grown (d.createDirs p).1 (d.start p) (· <+: p.parts) := by
  rw [createDirs]
  split
  · exact .refl d _ _
  · split
    · exact .refl d _ _
    · have hgrown : d.Grown
          (d.createUpwards (d.start p) (p.parts :: beginnings p.components) []).1 (d.start p)
          (fun names => names <+: p.parts ∨ names <+: p.components) := by
        apply grown_createUpwards
        · intro names hnames
          rcases List.mem_cons.mp hnames with rfl | hnames
          · exact Or.inl (List.prefix_refl _)
          · exact Or.inr (prefix_of_mem_beginnings hnames)
        · intro names hnames
          cases hnames
      generalize (d.createUpwards (d.start p) (p.parts :: beginnings p.components) []).1 = later
        at hgrown ⊢
      apply hgrown.mono
      rintro names place (hnames | hnames) henter
      · exact ⟨names, hnames, henter⟩
      · rw [← start_congr hgrown.workDir] at henter ⊢
        exact enter_prefix_parts hnames henter

end Disk

end TraceArchive
