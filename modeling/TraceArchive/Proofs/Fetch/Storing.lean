import TraceArchive.Proofs.Disk.Creation
import TraceArchive.Proofs.Disk.Slots
import TraceArchive.Proofs.Fetch.Store
/-!
Storing entries in turn.  The first of them makes the output directory, as far as it can be made.
Whether the file of a hash can be written, and at which place, is settled before that: no entry that
is stored first changes it.  So entries that are stored once more leave the disk as it is.
-/

namespace TraceArchive

namespace Fetcher

variable {f : Fetcher} {d : Disk} {hash : String} {place : Location} {e : Entry} {es : List Entry}

/-- The disk with the output directory, as far as that can be made. -/
def prepared (f : Fetcher) (d : Disk) : Disk :=
  (d.createDirs f.outputDir).1

/-- The place that the file of a hash is stored at, where it can be. -/
def slot? (f : Fetcher) (d : Disk) (hash : String) : Option Location :=
  match (d.createDirs f.outputDir).2 with
  | .ok () => (f.prepared d).slot? (f.outputPath hash)
  | .error _ => none

theorem slot?_eq_some :
    f.slot? d hash = some place ↔
      (d.createDirs f.outputDir).2 = .ok () ∧
        (f.prepared d).slot? (f.outputPath hash) = some place := by
  rw [slot?]
  cases (d.createDirs f.outputDir).2 with
  | error fault => simp
  | ok _ => simp

theorem slot?_ne_root (h : f.slot? d hash = some place) : place ≠ [] :=
  Disk.slot?_ne_root (slot?_eq_some.mp h).2

theorem placeOf_of_slot (h : f.slot? d hash = some place) :
    (f.prepared d).placeOf (f.outputPath hash) = some place :=
  (Disk.slot?_eq_some.mp (slot?_eq_some.mp h).2).2.1

/-! ## One entry -/

theorem store_of_slot (h : f.slot? d e.hash = some place) :
    f.store e d = ((f.prepared d).set place (.file (fileContent e)), .ok ()) := by
  obtain ⟨hdirs, hslot⟩ := slot?_eq_some.mp h
  have hwrite : (f.prepared d).write (f.outputPath e.hash) (fileContent e) =
      .ok ((f.prepared d).set place (.file (fileContent e))) :=
    Disk.write_eq_ok_iff_slot.mpr ⟨place, hslot, rfl⟩
  have hmade : d.createDirs f.outputDir = (f.prepared d, .ok ()) := Prod.ext rfl hdirs
  rw [store, hmade]
  simp only [hwrite]

theorem store_of_no_slot (h : f.slot? d e.hash = none) :
    ∃ fault, f.store e d = (f.prepared d, .error fault) := by
  rw [slot?] at h
  rw [store]
  cases hdirs : d.createDirs f.outputDir with
  | mk mid made =>
      have hmid : f.prepared d = mid := by rw [prepared, hdirs]
      rw [hdirs, hmid] at h
      cases made with
      | error fault => exact ⟨fault, by rw [hmid]⟩
      | ok _ =>
          simp only at h ⊢
          cases hwrite : mid.write (f.outputPath e.hash) (fileContent e) with
          | error fault => exact ⟨fault, by rw [hmid]⟩
          | ok later =>
              obtain ⟨place, hslot, _⟩ := Disk.write_eq_ok_iff_slot.mp hwrite
              rw [hslot] at h
              cases h

/-! ## What stays -/

theorem prepared_prepared (f : Fetcher) (d : Disk) : f.prepared (f.prepared d) = f.prepared d := by
  obtain ⟨again, hagain, _⟩ := d.createDirs_again f.outputDir
  rw [prepared, prepared, hagain]

theorem slot?_prepared (f : Fetcher) (d : Disk) (hash : String) :
    f.slot? (f.prepared d) hash = f.slot? d hash := by
  obtain ⟨again, hagain, hiff⟩ := d.createDirs_again f.outputDir
  have hsecond : ((f.prepared d).createDirs f.outputDir).2 = again := by rw [prepared, hagain]
  apply Option.ext
  intro place
  simp only [slot?_eq_some, prepared_prepared, hsecond, hiff]

/-- A file at a slot is in the way of no directory and of no other file. -/
theorem prepared_set (hslot : f.slot? d hash = some place) (content : Bytes) :
    f.prepared ((f.prepared d).set place (.file content)) =
        (f.prepared d).set place (.file content) ∧
      ∀ other, f.slot? ((f.prepared d).set place (.file content)) other = f.slot? d other := by
  obtain ⟨hdirs, hplace⟩ := slot?_eq_some.mp hslot
  have hsame := Disk.sameDirs_set hplace content
  have hwork : ((f.prepared d).set place (.file content)).workDir = d.workDir :=
    hsame.workDir.trans (Disk.grown_createDirs d f.outputDir).workDir
  have hagain := Disk.createDirs_later hdirs hsame.keepsDirs hwork
  have hprepared : f.prepared ((f.prepared d).set place (.file content)) =
      (f.prepared d).set place (.file content) := by
    rw [prepared, hagain]
  refine ⟨hprepared, fun other => Option.ext fun goal => ?_⟩
  simp only [slot?_eq_some, hprepared, hagain, hdirs, hsame.slot?]

/-- With an entry stored, be it refused, the output directory is as far made as it can be, and every
hash has the slot that it had. -/
theorem store_keeps_slots (f : Fetcher) (e : Entry) (d : Disk) :
    f.prepared (f.store e d).1 = (f.store e d).1 ∧
      ∀ hash, f.slot? (f.store e d).1 hash = f.slot? d hash := by
  cases hslot : f.slot? d e.hash with
  | none =>
      obtain ⟨fault, hstore⟩ := store_of_no_slot hslot
      rw [hstore]
      exact ⟨f.prepared_prepared d, f.slot?_prepared d⟩
  | some place =>
      rw [store_of_slot hslot]
      exact prepared_set hslot (fileContent e)

/-! ## Several entries -/

/-- The disk with entries stored in turn, those that are refused left out. -/
def storeAll (f : Fetcher) (es : List Entry) (d : Disk) : Disk :=
  es.foldl (fun d e => (f.store e d).1) d

/-- The files that entries stored in turn are written to. -/
def writes (f : Fetcher) (d : Disk) (es : List Entry) : List (Location × Bytes) :=
  es.filterMap fun e => (f.slot? d e.hash).map (·, fileContent e)

theorem storeAll_cons (f : Fetcher) (e : Entry) (es : List Entry) (d : Disk) :
    f.storeAll (e :: es) d = f.storeAll es (f.store e d).1 :=
  rfl

theorem storeAll_append (f : Fetcher) (former latter : List Entry) (d : Disk) :
    f.storeAll (former ++ latter) d = f.storeAll latter (f.storeAll former d) :=
  List.foldl_append

theorem mem_writes {w : Location × Bytes} :
    w ∈ f.writes d es ↔ ∃ e ∈ es, f.slot? d e.hash = some w.1 ∧ w.2 = fileContent e := by
  obtain ⟨place, content⟩ := w
  simp only [writes, List.mem_filterMap, Option.map_eq_some_iff, Prod.mk.injEq]
  constructor
  · rintro ⟨e, he, place, hslot, rfl, rfl⟩
    exact ⟨e, he, hslot, rfl⟩
  · rintro ⟨e, he, hslot, rfl⟩
    exact ⟨e, he, place, hslot, rfl, rfl⟩

theorem ne_root_of_mem_writes {w : Location × Bytes} (h : w ∈ f.writes d es) : w.1 ≠ [] := by
  obtain ⟨e, _, hslot, _⟩ := mem_writes.mp h
  exact slot?_ne_root hslot

theorem writes_congr {later : Disk} (h : ∀ hash, f.slot? later hash = f.slot? d hash)
    (es : List Entry) : f.writes later es = f.writes d es := by
  simp only [writes, h]

theorem storeAll_keeps_slots (f : Fetcher) (es : List Entry) (d : Disk) :
    ∀ hash, f.slot? (f.storeAll es d) hash = f.slot? d hash := by
  intro hash
  induction es generalizing d with
  | nil => rfl
  | cons e es ih => rw [storeAll_cons, ih, (f.store_keeps_slots e d).2]

/-- Once the output directory is as far made as it can be, storing entries is writing files. -/
theorem storeAll_of_prepared (h : f.prepared d = d) (es : List Entry) :
    f.storeAll es d = d.setFiles (f.writes d es) := by
  induction es generalizing d with
  | nil => rfl
  | cons e es ih =>
      obtain ⟨hprepared, hslots⟩ := f.store_keeps_slots e d
      rw [storeAll_cons, ih hprepared, writes_congr hslots]
      cases hslot : f.slot? d e.hash with
      | none =>
          obtain ⟨fault, hstore⟩ := store_of_no_slot hslot
          rw [hstore, h, writes, writes, List.filterMap_cons, hslot]
          rfl
      | some place =>
          rw [store_of_slot hslot, h, writes, writes, List.filterMap_cons, hslot]
          rfl

theorem store_prepared (f : Fetcher) (e : Entry) (d : Disk) :
    (f.store e (f.prepared d)).1 = (f.store e d).1 := by
  cases hslot : f.slot? d e.hash with
  | none =>
      obtain ⟨fault, hstore⟩ := store_of_no_slot hslot
      obtain ⟨fault', hstore'⟩ := store_of_no_slot ((f.slot?_prepared d e.hash).trans hslot)
      rw [hstore, hstore', prepared_prepared]
  | some place =>
      rw [store_of_slot hslot, store_of_slot ((f.slot?_prepared d e.hash).trans hslot),
        prepared_prepared]

/-- Storing entries, one at least, is making the output directory and then writing files. -/
theorem storeAll_eq (hsome : es ≠ []) (d : Disk) :
    f.storeAll es d = (f.prepared d).setFiles (f.writes d es) := by
  cases es with
  | nil => exact absurd rfl hsome
  | cons e es =>
      rw [storeAll_cons, ← store_prepared, ← storeAll_cons,
        storeAll_of_prepared (f.prepared_prepared d), writes_congr (f.slot?_prepared d)]

theorem prepared_storeAll (hsome : es ≠ []) (d : Disk) :
    f.prepared (f.storeAll es d) = f.storeAll es d := by
  rcases List.eq_nil_or_concat es with rfl | ⟨before, last, rfl⟩
  · exact absurd rfl hsome
  · rw [List.concat_eq_append, storeAll_append]
    exact (f.store_keeps_slots last _).1

/-- Entries stored once more, in the same order, leave the disk as it is. -/
theorem storeAll_storeAll (f : Fetcher) (es : List Entry) (d : Disk) :
    f.storeAll es (f.storeAll es d) = f.storeAll es d := by
  by_cases hnone : es = []
  · rw [hnone]
    rfl
  · rw [storeAll_of_prepared (prepared_storeAll hnone d),
      writes_congr (f.storeAll_keeps_slots es d), storeAll_eq hnone]
    exact Disk.setFiles_setFiles fun w => ne_root_of_mem_writes

end Fetcher

end TraceArchive
