import TraceArchive.Proofs.Disk.Storage
/-!
Where files can be written.  The place at which a path takes a file, its slot, depends on the
directories of the disk alone, and writing files changes no directory: so it does not matter to a
write which others were made before it.  Files written in turn are each as they were written last,
and writing them all once more changes nothing.  Where those at one place are the same, not even
their order matters.
-/

namespace TraceArchive

namespace Disk

variable {d later : Disk} {p : Path} {place : Location} {content : Bytes}

/-- Both disks have the same directories. -/
structure SameDirs (d later : Disk) : Prop where
  workDir : later.workDir = d.workDir
  iff : ∀ place, later.get? place = some .directory ↔ d.get? place = some .directory

namespace SameDirs

theorem symm (h : d.SameDirs later) : later.SameDirs d :=
  ⟨h.workDir.symm, fun place => (h.iff place).symm⟩

theorem keepsDirs (h : d.SameDirs later) : d.KeepsDirs later :=
  fun place => (h.iff place).mpr

theorem placeOf (h : d.SameDirs later) (p : Path) : later.placeOf p = d.placeOf p := by
  apply Option.ext
  intro place
  constructor
  · exact h.symm.keepsDirs.placeOf h.symm.workDir
  · exact h.keepsDirs.placeOf h.workDir

end SameDirs

/-! ## Slots -/

/-- The place at which a path takes a file: the one that it names, if no directory is there. -/
def slot? (d : Disk) (p : Path) : Option Location :=
  match checkPath p, d.placeOf p with
  | .ok (), some place => if p.endsWithSlash || d.isDir place then none else some place
  | _, _ => none

theorem slot?_eq_some :
    d.slot? p = some place ↔
      NamesFile p ∧ d.placeOf p = some place ∧ d.get? place ≠ some .directory := by
  rw [slot?, NamesFile]
  cases checkPath p with
  | error fault => simp
  | ok u =>
      cases d.placeOf p with
      | none => simp
      | some named =>
          by_cases hslash : p.endsWithSlash = true
          · simp [hslash]
          · by_cases hdir : d.get? named = some .directory
            · simp only [hslash, isDir, hdir, decide_true, Bool.or_true, ↓reduceIte, reduceCtorEq,
                false_iff]
              rintro ⟨_, ⟨⟩, hentry⟩
              exact hentry hdir
            · simp only [hslash, isDir, hdir, decide_false, Bool.or_self, Bool.false_eq_true,
                ↓reduceIte, Option.some.injEq, and_self, true_and]
              constructor
              · rintro rfl
                exact ⟨rfl, hdir⟩
              · exact And.left

theorem slot?_ne_root (h : d.slot? p = some place) : place ≠ [] :=
  placeOf_ne_root (slot?_eq_some.mp h).2.1

theorem write_eq_ok_iff_slot :
    d.write p content = .ok later ↔
      ∃ place, d.slot? p = some place ∧ later = d.set place (.file content) := by
  simp only [write_eq_ok_iff, slot?_eq_some]
  constructor
  · rintro ⟨hfile, place, hplace, hentry, hlater⟩
    exact ⟨place, ⟨hfile, hplace, hentry⟩, hlater⟩
  · rintro ⟨place, ⟨hfile, hplace, hentry⟩, hlater⟩
    exact ⟨hfile, place, hplace, hentry, hlater⟩

theorem SameDirs.slot? (h : d.SameDirs later) (p : Path) : later.slot? p = d.slot? p := by
  apply Option.ext
  intro place
  simp only [slot?_eq_some, h.placeOf, ne_eq, h.iff]

theorem sameDirs_set (hslot : d.slot? p = some place) (content : Bytes) :
    d.SameDirs (d.set place (.file content)) := by
  have hroot := slot?_ne_root hslot
  have hentry := (slot?_eq_some.mp hslot).2.2
  refine ⟨rfl, fun other => ?_⟩
  rw [get?_set hroot]
  split
  · rename_i heq
    simp [heq, hentry]
  · rfl

/-! ## Files written in turn -/

theorem setEntry_setEntry (place : Location) (e e' : Entry) (entries : List (Location × Entry)) :
    setEntry place e (setEntry place e' entries) = setEntry place e entries := by
  induction entries with
  | nil => simp [setEntry]
  | cons head rest ih =>
      by_cases hhead : head.1 = place
      · simp [setEntry, hhead]
      · simp [setEntry, hhead, ih]

/-- Entries that are there keep their order, so they can be replaced in any. -/
theorem setEntry_comm {place other : Location} (hne : place ≠ other) (e e' : Entry)
    {entries : List (Location × Entry)} (hplace : place ∈ entries.map Prod.fst) :
    setEntry other e' (setEntry place e entries) =
      setEntry place e (setEntry other e' entries) := by
  induction entries with
  | nil => cases hplace
  | cons head rest ih =>
      by_cases hhead : head.1 = place
      · simp [setEntry, hhead, hne]
      · have hrest : place ∈ rest.map Prod.fst := by
          simpa [Ne.symm hhead] using hplace
        by_cases hother : head.1 = other
        · simp [setEntry, hother, Ne.symm hne]
        · simp [setEntry, hhead, hother, ih hrest]

theorem setEntry_of_lookup {place : Location} {e : Entry} {entries : List (Location × Entry)}
    (h : entries.lookup place = some e) : setEntry place e entries = entries := by
  induction entries with
  | nil => cases h
  | cons head rest ih =>
      obtain ⟨l, old⟩ := head
      rw [List.lookup_cons] at h
      by_cases hl : l = place
      · subst hl
        simp only [BEq.rfl] at h
        simp [setEntry, Option.some.inj h]
      · have hne : (place == l) = false := beq_eq_false_iff_ne.mpr (Ne.symm hl)
        rw [hne] at h
        simp [setEntry, hl, ih h]

theorem mem_map_fst_setEntry (place : Location) (e : Entry) (entries : List (Location × Entry))
    (other : Location) :
    other ∈ (setEntry place e entries).map Prod.fst ↔
      other = place ∨ other ∈ entries.map Prod.fst := by
  induction entries with
  | nil => simp [setEntry]
  | cons head rest ih =>
      by_cases hhead : head.1 = place
      · simp [setEntry, hhead]
      · simp only [setEntry, hhead, ↓reduceIte, List.map_cons, List.mem_cons, ih]
        exact or_left_comm

/-- Files given their content at their places, one after another. -/
def setFiles (d : Disk) (writes : List (Location × Bytes)) : Disk :=
  writes.foldl (fun d w => d.set w.1 (.file w.2)) d

variable {writes : List (Location × Bytes)}

theorem setFiles_cons (w : Location × Bytes) :
    d.setFiles (w :: writes) = (d.set w.1 (.file w.2)).setFiles writes :=
  rfl

theorem workDir_setFiles (d : Disk) (writes : List (Location × Bytes)) :
    (d.setFiles writes).workDir = d.workDir := by
  induction writes generalizing d with
  | nil => rfl
  | cons w writes ih => exact ih _

/-- Where nothing is written there is what was there. -/
theorem get?_setFiles_of_not_mem (hroot : ∀ w ∈ writes, w.1 ≠ [])
    (hplace : ∀ w ∈ writes, w.1 ≠ place) : (d.setFiles writes).get? place = d.get? place := by
  induction writes generalizing d with
  | nil => rfl
  | cons w writes ih =>
      obtain ⟨hw, hwrites⟩ := List.forall_mem_cons.mp hroot
      obtain ⟨hne, hnes⟩ := List.forall_mem_cons.mp hplace
      rw [setFiles_cons, ih hwrites hnes, get?_set hw, if_neg (Ne.symm hne)]

/-- Where all that is written is the same, there is that. -/
theorem get?_setFiles_of_mem (hroot : ∀ w ∈ writes, w.1 ≠ []) (hmem : (place, content) ∈ writes)
    (hagree : ∀ w ∈ writes, w.1 = place → w.2 = content) :
    (d.setFiles writes).get? place = some (.file content) := by
  induction writes generalizing d with
  | nil => cases hmem
  | cons w writes ih =>
      obtain ⟨hw, hwrites⟩ := List.forall_mem_cons.mp hroot
      obtain ⟨hsame, hagrees⟩ := List.forall_mem_cons.mp hagree
      rw [setFiles_cons]
      by_cases hlater : (place, content) ∈ writes
      · exact ih hwrites hlater hagrees
      · rcases List.mem_cons.mp hmem with rfl | hmem
        · rw [get?_setFiles_of_not_mem hwrites, get?_set hw, if_pos rfl]
          intro w hw' hplace
          exact hlater (hagrees w hw' hplace ▸ hplace ▸ hw')
        · exact absurd hmem hlater

/-- Both disks hold the same at every place. -/
structure SameTree (d later : Disk) : Prop where
  workDir : later.workDir = d.workDir
  get? : ∀ place, later.get? place = d.get? place

/-- Neither the order of files written in turn matters nor how often each is written, if those at
one place are the same. -/
theorem sameTree_setFiles {writes' : List (Location × Bytes)} (hroot : ∀ w ∈ writes, w.1 ≠ [])
    (hmem : ∀ w, w ∈ writes ↔ w ∈ writes')
    (hagree : ∀ w ∈ writes, ∀ w' ∈ writes, w.1 = w'.1 → w.2 = w'.2) :
    (d.setFiles writes).SameTree (d.setFiles writes') := by
  have hroot' : ∀ w ∈ writes', w.1 ≠ [] := fun w hw => hroot w ((hmem w).mpr hw)
  refine ⟨by rw [workDir_setFiles, workDir_setFiles], fun place => ?_⟩
  by_cases hplace : ∃ content, (place, content) ∈ writes
  · obtain ⟨content, hcontent⟩ := hplace
    rw [get?_setFiles_of_mem hroot hcontent, get?_setFiles_of_mem hroot' ((hmem _).mp hcontent)]
    · exact fun w hw heq => hagree w ((hmem w).mpr hw) (place, content) hcontent heq
    · exact fun w hw heq => hagree w hw (place, content) hcontent heq
  · have hnone : ∀ w ∈ writes, w.1 ≠ place := by
      rintro ⟨_, content⟩ hw rfl
      exact hplace ⟨content, hw⟩
    rw [get?_setFiles_of_not_mem hroot hnone, get?_setFiles_of_not_mem hroot']
    exact fun w hw => hnone w ((hmem w).mpr hw)

/-- A write that is followed by another at its place leaves nothing, if something was there. -/
theorem setFiles_set (hthere : place ∈ d.entries.map Prod.fst)
    (hagain : place ∈ writes.map Prod.fst) (e : Entry) :
    (d.set place e).setFiles writes = d.setFiles writes := by
  induction writes generalizing d with
  | nil => cases hagain
  | cons w writes ih =>
      rw [setFiles_cons, setFiles_cons]
      by_cases hw : w.1 = place
      · simp only [set, hw, setEntry_setEntry]
      · have hcomm : (d.set place e).set w.1 (.file w.2) = (d.set w.1 (.file w.2)).set place e := by
          simp only [set, setEntry_comm (Ne.symm hw) e (.file w.2) hthere]
        have hthere' : place ∈ (d.set w.1 (.file w.2)).entries.map Prod.fst :=
          (mem_map_fst_setEntry _ _ _ _).mpr (Or.inr hthere)
        rw [hcomm]
        refine ih hthere' ?_
        simpa [Ne.symm hw] using hagain

theorem set_of_get? {e : Entry} (hroot : place ≠ []) (h : d.get? place = some e) :
    d.set place e = d := by
  rw [get?, if_neg hroot] at h
  simp only [set, setEntry_of_lookup h]

theorem mem_map_fst_setFiles (writes : List (Location × Bytes))
    (h : place ∈ d.entries.map Prod.fst) : place ∈ (d.setFiles writes).entries.map Prod.fst := by
  induction writes generalizing d with
  | nil => exact h
  | cons w writes ih => exact ih ((mem_map_fst_setEntry _ _ _ _).mpr (Or.inr h))

/-- Files written once more in the same order are as they were. -/
theorem setFiles_setFiles (hroot : ∀ w ∈ writes, w.1 ≠ []) :
    (d.setFiles writes).setFiles writes = d.setFiles writes := by
  induction writes generalizing d with
  | nil => rfl
  | cons w writes ih =>
      obtain ⟨hw, hwrites⟩ := List.forall_mem_cons.mp hroot
      have hthere : w.1 ∈ ((d.set w.1 (.file w.2)).setFiles writes).entries.map Prod.fst :=
        mem_map_fst_setFiles writes ((mem_map_fst_setEntry _ _ _ _).mpr (Or.inl rfl))
      simp only [setFiles_cons]
      by_cases hagain : w.1 ∈ writes.map Prod.fst
      · rw [setFiles_set hthere hagain, ih hwrites]
      · have hlast : ((d.set w.1 (.file w.2)).setFiles writes).get? w.1 = some (.file w.2) := by
          rw [get?_setFiles_of_not_mem hwrites, get?_set hw, if_pos rfl]
          intro other hother heq
          exact hagain (heq ▸ List.mem_map_of_mem hother)
        rw [set_of_get? hw hlast, ih hwrites]

end Disk

end TraceArchive
