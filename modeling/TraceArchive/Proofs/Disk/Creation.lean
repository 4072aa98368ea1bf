import TraceArchive.Proofs.Disk.Growth
/-!
Directories that are created again.  Creating a directory with those that hold it succeeds exactly
if its path leads to a directory afterwards.  Where it breaks off half way it would break off again
and create nothing more, so doing it a second time leaves the disk as it is and comes to the same.
-/

namespace TraceArchive

namespace Disk

variable {d later : Disk} {start : Location} {names : List String} {lists : List (List String)}

/-- Names lead to a directory. -/
def Leads (d : Disk) (start : Location) (names : List String) : Prop :=
  ∃ place, d.enter start names = .ok place

theorem leadsToDir_iff : d.leadsToDir start names = true ↔ d.Leads start names := by
  rw [leadsToDir, Leads]
  cases d.enter start names with
  | error fault => simp [Except.toBool]
  | ok place => simp [Except.toBool]

theorem leadsToDir_eq_false : d.leadsToDir start names = false ↔ ¬ d.Leads start names := by
  rw [← Bool.not_eq_true, leadsToDir_iff]

theorem KeepsDirs.leads (hkeeps : d.KeepsDirs later) (h : d.Leads start names) :
    later.Leads start names := by
  obtain ⟨place, henter⟩ := h
  exact ⟨place, hkeeps.enter henter⟩

theorem Leads.of_isPrefix {beginning : List String} (h : d.Leads start names)
    (hbeginning : beginning <+: names) : d.Leads start beginning := by
  obtain ⟨more, rfl⟩ := hbeginning
  obtain ⟨place, henter⟩ := h
  obtain ⟨half, hhalf, _⟩ := enter_append_eq_ok.mp henter
  exact ⟨half, hhalf⟩

theorem Leads.dropLast (h : d.Leads start names) : d.Leads start names.dropLast :=
  h.of_isPrefix names.dropLast_prefix

/-! ## One directory -/

theorem createDir_of_leads (h : d.Leads start names) :
    d.createDir start names = .error .alreadyExists := by
  obtain ⟨goal, henter⟩ := h
  rcases List.eq_nil_or_concat names with rfl | ⟨before, last, rfl⟩
  · rfl
  · rw [List.concat_eq_append] at henter ⊢
    obtain ⟨parent, hparent, hlast⟩ := enter_append_eq_ok.mp henter
    obtain ⟨next, hstep, hdir, _⟩ := enter_cons_eq_ok.mp hlast
    simp only [createDir, resolve, List.getLast?_concat, List.dropLast_concat, hparent, bind,
      Except.bind]
    by_cases hdots : (decide (last = ".") || decide (last = "..")) = true
    · simp only [hdots, ↓reduceIte]
    · simp only [hdots, Bool.false_eq_true, ↓reduceIte, hstep, pure, Except.pure, hdir]

theorem leads_of_createDir (h : d.createDir start names = .ok later) :
    later.Leads start names := by
  obtain ⟨place, hresolve, hnone, hlater⟩ := createDir_eq_ok h
  obtain ⟨before, last, parent, rfl, hdot, hdots, henter, hstep⟩ := resolve_eq_named.mp hresolve
  have hroot : place ≠ [] := by
    rw [step_eq_append hdot hdots hstep]
    simp
  have hgrown : d.Grown later start fun _ => True := grown_createDir trivial h
  refine ⟨place, enter_append_eq_ok.mpr ⟨parent, hgrown.keepsDirs.enter henter, ?_⟩⟩
  refine enter_cons_eq_ok.mpr ⟨place, hstep, ?_, rfl⟩
  rw [hlater, get?_set hroot, if_pos rfl]

/-- A directory that is created stands in one that was there. -/
theorem leads_dropLast_of_createDir (h : d.createDir start names = .ok later) :
    d.Leads start names.dropLast := by
  obtain ⟨place, hresolve, _⟩ := createDir_eq_ok h
  obtain ⟨before, last, parent, rfl, _, _, henter, _⟩ := resolve_eq_named.mp hresolve
  rw [List.dropLast_concat]
  exact ⟨parent, henter⟩

/-- What becomes of one directory: it is there, it is created, or it is refused. -/
theorem createDir_cases (d : Disk) (start : Location) (names : List String) :
    d.Leads start names ∨ (∃ next, d.createDir start names = .ok next) ∨
      ¬ d.Leads start names ∧ ∃ fault, d.createDir start names = .error fault := by
  by_cases hleads : d.Leads start names
  · exact Or.inl hleads
  · cases hcreate : d.createDir start names with
    | ok next => exact Or.inr (Or.inl ⟨next, rfl⟩)
    | error fault => exact Or.inr (Or.inr ⟨hleads, fault, rfl⟩)

/-! ## Directories in order -/

theorem createEach_of_leads (h : d.Leads start names) :
    d.createEach start (names :: lists) = d.createEach start lists := by
  rw [createEach, createDir_of_leads h]
  simp [leadsToDir_iff.mpr h]

theorem createEach_of_created {next : Disk} (h : d.createDir start names = .ok next) :
    d.createEach start (names :: lists) = next.createEach start lists := by
  rw [createEach, h]

theorem createEach_of_refused {fault : Fault} (hleads : ¬ d.Leads start names)
    (h : d.createDir start names = .error fault) :
    d.createEach start (names :: lists) = (d, .error fault) := by
  rw [createEach, h]
  simp [leadsToDir_eq_false.mpr hleads]

theorem keepsDirs_createEach (d : Disk) (start : Location) (lists : List (List String)) :
    d.KeepsDirs (d.createEach start lists).1 := by
  have hgrown : d.Grown (d.createEach start lists).1 start fun _ => True :=
    grown_createEach fun _ _ => trivial
  exact hgrown.keepsDirs

/-- How creating directories in order ends: all of them are there, or one is refused and those
before it are there. -/
inductive CreatedInOrder (start : Location) :
    List (List String) → Disk × Except Fault Unit → Prop
  | all {lists : List (List String)} {d : Disk} (hall : ∀ names ∈ lists, d.Leads start names) :
      CreatedInOrder start lists (d, .ok ())
  | broken {after : List (List String)} {names : List String} {d : Disk} {fault : Fault}
      (before : List (List String))
      (hbefore : ∀ upper ∈ before, d.Leads start upper) (hleads : ¬ d.Leads start names)
      (hrefused : d.createDir start names = .error fault) :
      CreatedInOrder start (before ++ names :: after) (d, .error fault)

theorem CreatedInOrder.cons {result : Disk × Except Fault Unit}
    (h : CreatedInOrder start lists result) (hleads : result.1.Leads start names) :
    CreatedInOrder start (names :: lists) result := by
  cases h with
  | all hall => exact .all (List.forall_mem_cons.mpr ⟨hleads, hall⟩)
  | broken before hbefore hnot hrefused =>
      exact .broken (names :: before) (List.forall_mem_cons.mpr ⟨hleads, hbefore⟩) hnot hrefused

theorem createdInOrder_createEach (d : Disk) (start : Location) (lists : List (List String)) :
    CreatedInOrder start lists (d.createEach start lists) := by
  induction lists generalizing d with
  | nil => exact .all fun _ hnames => absurd hnames List.not_mem_nil
  | cons names rest ih =>
      rcases createDir_cases d start names with hleads | ⟨next, hnext⟩ | ⟨hleads, fault, hrefused⟩
      · rw [createEach_of_leads hleads]
        exact (ih d).cons ((keepsDirs_createEach d start rest).leads hleads)
      · rw [createEach_of_created hnext]
        have hleads := leads_of_createDir hnext
        exact (ih next).cons ((keepsDirs_createEach next start rest).leads hleads)
      · rw [createEach_of_refused hleads hrefused]
        exact .broken [] (fun _ hupper => absurd hupper List.not_mem_nil) hleads hrefused

/-! ## Directories and those that hold them -/

/-- Going up from a directory ends with a refusal, or at one that is there or can be created; the
ones passed on the way are then created in order. -/
theorem createUpwards_cases (d : Disk) (start : Location) (above below : List (List String)) :
    (∃ fault, d.createUpwards start above below = (d, .error fault)) ∨
      ∃ (mid : Disk) (passed rest : List (List String)), above = passed ++ rest ∧
        (∀ names, rest.head? = some names → mid.Leads start names) ∧
        d.createUpwards start above below = mid.createEach start (passed.reverse ++ below) := by
  induction above generalizing below with
  | nil => exact Or.inr ⟨d, [], [], rfl, by simp, rfl⟩
  | cons names above ih =>
      rw [createUpwards]
      rcases createDir_cases d start names with hleads | ⟨next, hnext⟩ | ⟨hleads, fault, hrefused⟩
      · refine Or.inr ⟨d, [], names :: above, rfl, by simpa using hleads, ?_⟩
        rw [createDir_of_leads hleads]
        simp [leadsToDir_iff.mpr hleads]
      · refine Or.inr ⟨next, [], names :: above, rfl, by simpa using leads_of_createDir hnext, ?_⟩
        rw [hnext]
        rfl
      · rw [hrefused]
        simp only [leadsToDir_eq_false.mpr hleads, Bool.and_false, Bool.false_eq_true, ↓reduceIte]
        split
        · rcases ih (names :: below) with hfault | ⟨mid, passed, rest, rfl, hrest, heq⟩
          · exact Or.inl hfault
          · refine Or.inr ⟨mid, names :: passed, rest, rfl, hrest, ?_⟩
            rw [heq, List.reverse_cons, List.append_assoc, List.singleton_append]
        · exact Or.inl ⟨fault, rfl⟩

/-- Where no directory can be created the disk stays as it is. -/
theorem createEach_of_inert (h : ∀ names ∈ lists, ∀ next, d.createDir start names ≠ .ok next) :
    (d.createEach start lists).1 = d := by
  induction lists with
  | nil => rfl
  | cons names rest ih =>
      obtain ⟨hnames, hrest⟩ := List.forall_mem_cons.mp h
      rw [createEach]
      split
      · rename_i next hnext
        exact absurd hnext (hnames next)
      · split
        · exact ih hrest
        · rfl

theorem createUpwards_of_inert {above below : List (List String)}
    (habove : ∀ names ∈ above, ∀ next, d.createDir start names ≠ .ok next)
    (hbelow : ∀ names ∈ below, ∀ next, d.createDir start names ≠ .ok next) :
    (d.createUpwards start above below).1 = d := by
  induction above generalizing below with
  | nil => exact createEach_of_inert hbelow
  | cons names rest ih =>
      obtain ⟨hnames, hrest⟩ := List.forall_mem_cons.mp habove
      rw [createUpwards]
      split
      · rename_i next hnext
        exact absurd hnext (hnames next)
      · split
        · exact ih hrest (List.forall_mem_cons.mpr ⟨hnames, hbelow⟩)
        · split
          · exact createEach_of_inert hbelow
          · rfl

/-- Going up from a directory succeeds only if the directory is there in the end. -/
theorem leads_of_createUpwards {above : List (List String)}
    (h : (d.createUpwards start (names :: above) []).2 = .ok ()) :
    (d.createUpwards start (names :: above) []).1.Leads start names := by
  rcases d.createUpwards_cases start (names :: above) [] with
    ⟨fault, hfault⟩ | ⟨mid, passed, rest, heq, hrest, hmid⟩
  · rw [hfault] at h
    cases h
  · rw [List.append_nil] at hmid
    rw [hmid] at h ⊢
    cases passed with
    | nil =>
        rw [List.nil_append] at heq
        exact hrest names (by rw [← heq]; rfl)
    | cons first others =>
        obtain ⟨rfl, _⟩ := List.cons.inj heq
        generalize hlists : (names :: others).reverse = lists at h ⊢
        have hcreated := mid.createdInOrder_createEach start lists
        generalize mid.createEach start lists = result at h hcreated ⊢
        cases hcreated with
        | all hall => exact hall names (by simp [← hlists])
        | broken => cases h

/-- Paths in an order in which each stands below the ones after it: what holds the first, holds the
others on the way. -/
def Ascending (start : Location) (lists : List (List String)) : Prop :=
  lists.Pairwise fun lower upper => ∀ d : Disk, d.Leads start lower.dropLast → d.Leads start upper

namespace Ascending

variable {first : List String} {former latter : List (List String)}

theorem leads (h : Ascending start (first :: latter)) (hfirst : d.Leads start first) :
    ∀ upper ∈ latter, d.Leads start upper :=
  fun upper hupper => (List.pairwise_cons.mp h).1 upper hupper d hfirst.dropLast

/-- If the lowest of the paths is there, then so are all of them. -/
theorem forall_leads (h : Ascending start lists)
    (hfirst : ∀ first, lists.head? = some first → d.Leads start first) :
    ∀ upper ∈ lists, d.Leads start upper := by
  cases lists with
  | nil => simp
  | cons first latter =>
      have hthere := hfirst first rfl
      exact List.forall_mem_cons.mpr ⟨hthere, h.leads hthere⟩

/-- Below a directory that is not there none can be created. -/
theorem blocked (h : Ascending start (former ++ first :: latter))
    (hfirst : ¬ d.Leads start first) {lower : List String} (hlower : lower ∈ former) :
    ∀ next, d.createDir start lower ≠ .ok next := by
  intro next hnext
  have hholds := (List.pairwise_append.mp h).2.2 lower hlower first List.mem_cons_self d
  exact hfirst (hholds (leads_dropLast_of_createDir hnext))

/-- Where one of the paths cannot be created and those after it are there, none can be created. -/
theorem inert (h : Ascending start (former ++ first :: latter)) (hfirst : ¬ d.Leads start first)
    (hrefused : ∀ next, d.createDir start first ≠ .ok next)
    (hlatter : ∀ upper ∈ latter, d.Leads start upper) :
    ∀ names ∈ former ++ first :: latter, ∀ next, d.createDir start names ≠ .ok next := by
  refine List.forall_mem_append.mpr ⟨fun lower => h.blocked hfirst, ?_⟩
  refine List.forall_mem_cons.mpr ⟨hrefused, fun upper hupper next hnext => ?_⟩
  rw [createDir_of_leads (hlatter upper hupper)] at hnext
  cases hnext

end Ascending

/-- If going up from a directory breaks off, then going up from it once more creates nothing, and
breaks off too. -/
theorem createUpwards_broken {above : List (List String)} {fault : Fault}
    (horder : Ascending start (names :: above))
    (h : (d.createUpwards start (names :: above) []).2 = .error fault) :
    ∃ again, (d.createUpwards start (names :: above) []).1.createUpwards start (names :: above) [] =
      ((d.createUpwards start (names :: above) []).1, .error again) := by
  rcases d.createUpwards_cases start (names :: above) [] with
    ⟨why, hwhy⟩ | ⟨mid, passed, rest, heq, hrest, hmid⟩
  · rw [hwhy]
    exact ⟨why, hwhy⟩
  · rw [List.append_nil] at hmid
    have hkeeps := keepsDirs_createEach mid start passed.reverse
    have hcreated := mid.createdInOrder_createEach start passed.reverse
    rw [hmid] at h ⊢
    generalize hlists : passed.reverse = lists at h hcreated hkeeps ⊢
    generalize mid.createEach start lists = result at h hcreated hkeeps ⊢
    cases hcreated with
    | all => cases h
    | @broken after last later why before hbefore hleads hrefused =>
        rw [List.reverse_eq_iff] at hlists
        -- From the lowest: those below the refused one, itself, those that are there.
        have hall : names :: above = after.reverse ++ last :: (before.reverse ++ rest) := by
          simp [heq, hlists]
        have hordered : Ascending start rest := by
          rw [heq] at horder
          exact horder.sublist (List.sublist_append_right passed rest)
        have hthere : ∀ upper ∈ before.reverse ++ rest, later.Leads start upper := by
          refine List.forall_mem_append.mpr ⟨fun upper hupper => ?_, hordered.forall_leads ?_⟩
          · exact hbefore upper (List.mem_reverse.mp hupper)
          · exact fun first hfirst => hkeeps.leads (hrest first hfirst)
        have hinert : ∀ lower ∈ names :: above, ∀ next, later.createDir start lower ≠ .ok next := by
          rw [hall] at horder ⊢
          exact horder.inert hleads (by simp [hrefused]) hthere
        have hsame : (later.createUpwards start (names :: above) []).1 = later :=
          createUpwards_of_inert hinert (by simp)
        have hnames : ¬ later.Leads start names := by
          intro hnames
          have hlast : last ∈ names :: above := by simp [hall]
          rcases List.mem_cons.mp hlast with rfl | hlast
          · exact hleads hnames
          · exact hleads (horder.leads hnames last hlast)
        cases hagain : (later.createUpwards start (names :: above) []).2 with
        | ok u =>
            have hleads := leads_of_createUpwards hagain
            rw [hsame] at hleads
            exact absurd hleads hnames
        | error again => exact ⟨again, Prod.ext hsame hagain⟩

/-! ## A path -/

theorem dropLast_filter_isPrefix (keep : String → Bool) (names : List String) :
    (names.filter keep).dropLast <+: names.dropLast.filter keep := by
  rcases List.eq_nil_or_concat names with rfl | ⟨before, last, rfl⟩
  · exact List.nil_prefix
  · rw [List.concat_eq_append, List.dropLast_concat, List.filter_append]
    by_cases hlast : keep last = true
    · simp [hlast]
    · simp only [List.filter_cons, hlast, Bool.false_eq_true, ↓reduceIte, List.filter_nil,
        List.append_nil]
      exact List.dropLast_prefix _

/-- What holds a path holds what its components lead to but for the last of them. -/
theorem leads_dropLast_components (p : Path) (home : Disk)
    (h : d.Leads (home.start p) p.parts.dropLast) :
    d.Leads (home.start p) p.components.dropLast := by
  cases habsolute : p.isAbsolute with
  | true =>
      have hstart : home.start p = [] := by simp [Disk.start, habsolute]
      rw [hstart] at h ⊢
      obtain ⟨place, henter⟩ := h
      rw [components_of_absolute habsolute]
      have hfiltered : d.Leads [] (p.parts.dropLast.filter (· ≠ ".")) :=
        ⟨place, (enter_filter_dots (get?_root d) _).mpr henter⟩
      exact hfiltered.of_isPrefix (dropLast_filter_isPrefix _ _)
  | false =>
      cases hparts : p.parts with
      | nil =>
          rw [hparts] at h
          simpa [Path.components, hparts] using h
      | cons first others =>
          rw [components_of_relative habsolute hparts]
          rw [hparts] at h
          cases hkept : others.filter (· ≠ ".") with
          | nil => exact h.of_isPrefix List.nil_prefix
          | cons name rest =>
              have hothers : others ≠ [] := by
                rintro rfl
                cases hkept
              rw [List.dropLast_cons_of_ne_nil hothers] at h
              obtain ⟨place, henter⟩ := h
              obtain ⟨next, hstep, hdir, hrest⟩ := enter_cons_eq_ok.mp henter
              have hfiltered : d.Leads (home.start p)
                  (first :: others.dropLast.filter (· ≠ ".")) :=
                ⟨place, enter_cons_eq_ok.mpr
                  ⟨next, hstep, hdir, (enter_filter_dots hdir _).mpr hrest⟩⟩
              have hbeginning := dropLast_filter_isPrefix (· ≠ ".") others
              rw [hkept] at hbeginning
              exact hfiltered.of_isPrefix
                (List.cons_prefix_cons.mpr ⟨rfl, hbeginning⟩)

/-- Proper beginnings of names stand above the names, and the shorter above the longer. -/
theorem ascending_beginnings (start : Location) (names : List String) :
    Ascending start (beginnings names) := by
  rw [Ascending, beginnings, List.pairwise_map, List.pairwise_reverse]
  refine (List.pairwise_lt_range.filter _).imp_of_mem ?_
  intro short long hshort hlong hlt d hleads
  have hlength : long < names.length := by simpa using (List.mem_filter.mp hlong).1
  refine hleads.of_isPrefix ?_
  rw [List.dropLast_take hlength]
  exact List.take_prefix_take_left (by omega)

theorem ascending_path (home : Disk) (p : Path) :
    Ascending (home.start p) (p.parts :: beginnings p.components) := by
  refine List.pairwise_cons.mpr ⟨?_, ascending_beginnings _ _⟩
  intro upper hupper d hleads
  refine (leads_dropLast_components p home hleads).of_isPrefix ?_
  simp only [beginnings, List.mem_map, List.mem_reverse, List.mem_filter, List.mem_range] at hupper
  obtain ⟨n, ⟨hn, _⟩, rfl⟩ := hupper
  rw [List.dropLast_eq_take]
  exact List.take_prefix_take_left (by omega)

/-- For some paths nothing is done, whatever the disk; for the others the way is up from the whole
path. -/
theorem createDirs_cases (p : Path) :
    (∃ result, ∀ d : Disk, d.createDirs p = (d, result)) ∨
      ∀ d : Disk, d.createDirs p =
        d.createUpwards (d.start p) (p.parts :: beginnings p.components) [] := by
  by_cases hempty : p.text.isEmpty = true
  · exact Or.inl ⟨.ok (), fun d => by simp [createDirs, hempty]⟩
  · cases hcheck : checkPath p with
    | error fault => exact Or.inl ⟨.error fault, fun d => by simp [createDirs, hempty, hcheck]⟩
    | ok u => exact Or.inr fun d => by simp [createDirs, hempty, hcheck]

/-- A directory that was created, with those that hold it, is where its path leads. -/
theorem leads_of_createDirs {p : Path} (h : (d.createDirs p).2 = .ok ()) :
    (d.createDirs p).1.Leads (d.start p) p.parts := by
  by_cases hempty : p.text = ""
  · have hparts : p.parts = [] := by simp [Path.parts, Path.partsOf, hempty]
    rw [hparts]
    exact ⟨d.start p, rfl⟩
  · rw [createDirs, if_neg (by simpa using hempty)] at h ⊢
    cases hcheck : checkPath p with
    | error fault =>
        rw [hcheck] at h
        cases h
    | ok u =>
        rw [hcheck] at h
        exact leads_of_createUpwards h

/-- Where a directory was created, creating it again on a disk that still has its directories
changes nothing. -/
theorem createDirs_later {p : Path} (h : (d.createDirs p).2 = .ok ())
    (hkeeps : (d.createDirs p).1.KeepsDirs later) (hwork : later.workDir = d.workDir) :
    later.createDirs p = (later, .ok ()) := by
  rcases createDirs_cases p with ⟨result, hresult⟩ | hup
  · rw [hresult] at h ⊢
    rw [← h]
  · rw [hup] at h hkeeps ⊢
    have hleads := hkeeps.leads (leads_of_createUpwards h)
    rw [start_congr hwork, createUpwards, createDir_of_leads hleads]
    simp [leadsToDir_iff.mpr hleads, createEach]

/-- Creating a directory once more changes nothing, and succeeds exactly if it did before. -/
theorem createDirs_again (d : Disk) (p : Path) :
    ∃ again, (d.createDirs p).1.createDirs p = ((d.createDirs p).1, again) ∧
      (again = .ok () ↔ (d.createDirs p).2 = .ok ()) := by
  have hwork := (grown_createDirs d p).workDir
  cases hresult : (d.createDirs p).2 with
  | ok u => exact ⟨.ok (), createDirs_later hresult (fun _ hdir => hdir) hwork, Iff.rfl⟩
  | error fault =>
      rcases createDirs_cases p with ⟨result, hsame⟩ | hup
      · rw [hsame] at hresult ⊢
        exact ⟨result, rfl, by rw [← hresult]⟩
      · rw [hup] at hresult hwork ⊢
        obtain ⟨again, hagain⟩ := createUpwards_broken (ascending_path d p) hresult
        refine ⟨.error again, ?_, by simp⟩
        rw [hup, start_congr hwork, hagain]

end Disk

end TraceArchive
