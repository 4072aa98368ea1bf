import TraceArchive.Proofs.Disk.Names
import TraceArchive.Proofs.Fetch.Result
import TraceArchive.Proofs.Fetch.Several
/-!
What is on the disk after fetches in turn.  Files of different hashes are at different places, so an
entry stays as it was stored until another of its hash takes its place, and files that are no
entry's stay as they were.  `StoredAll` says this of a list of entries and is put together from what
the single fetches leave.
-/

namespace TraceArchive

open Fetch (Error)

/-- A node that knows a transaction, then knows it with another time of its block, and then knows
nothing more. -/
def Node.changing : Node :=
  .replaying (Delivery.known "0x5" ++ Delivery.known "0x6")

theorem Node.changing_noBatch : Node.changing.NoBatch :=
  replaying_noBatch (by decide +kernel)

namespace Fetcher

variable {f : Fetcher} {print : Bool} {hash : String} {hashes : List String} {w w' : World}
variable {result : Except Error Outcome} {d mid later : Disk}
variable {former latter : List (String × Entry)}

/-! ## Places of files -/

theorem fileName_ne_empty (hash : String) : hash ++ fileSuffix ≠ "" := by
  simp [fileSuffix]

theorem slash_notMem_fileName (h : '/' ∉ hash.toList) : '/' ∉ (hash ++ fileSuffix).toList := by
  rw [String.toList_append, List.mem_append, not_or]
  exact ⟨h, by decide⟩

/-- Files of different hashes are at different places, whatever the output directory looks like, and
also where the disk has changed in between. -/
theorem hash_eq_of_placeOf {hash' : String} {place : Location} (hplain : '/' ∉ hash.toList)
    (hplain' : '/' ∉ hash'.toList) (hplace : d.placeOf (f.outputPath hash) = some place)
    (hplace' : later.placeOf (f.outputPath hash') = some place) : hash = hash' := by
  obtain ⟨parent, heq⟩ :=
    Disk.placeOf_join (fileName_ne_empty hash) (slash_notMem_fileName hplain) hplace
  obtain ⟨parent', heq'⟩ :=
    Disk.placeOf_join (fileName_ne_empty hash') (slash_notMem_fileName hplain') hplace'
  have hname := (List.append_singleton_inj.mp (heq.symm.trans heq')).2
  exact String.append_left_inj fileSuffix |>.mp hname

/-! ## Entries stored in turn -/

/-- The last entry for a hash. -/
def latest (finds : List (String × Entry)) (hash : String) : Option Entry :=
  (finds.findRev? (·.1 = hash)).map Prod.snd

theorem latest_append (former latter : List (String × Entry)) (hash : String) :
    latest (former ++ latter) hash = (latest latter hash).or (latest former hash) := by
  simp [latest, Option.map_or]

theorem latest_eq_none : latest former hash = none ↔ ∀ find ∈ former, find.1 ≠ hash := by
  simp [latest]

theorem mem_of_latest {e : Entry} (h : latest former hash = some e) : (hash, e) ∈ former := by
  rw [latest, List.findRev?_eq_find?_reverse] at h
  obtain ⟨⟨hash', e'⟩, hfind, rfl⟩ := Option.map_eq_some_iff.mp h
  obtain rfl : hash' = hash := by simpa using List.find?_some hfind
  exact List.mem_reverse.mp (List.mem_of_find?_eq_some hfind)

/-- What storing entries in turn leaves of a disk: each hash has a file with its last entry, and
what files are at other places were there before. -/
structure StoredAll (f : Fetcher) (finds : List (String × Entry)) (d later : Disk) : Prop where
  plain : ∀ find ∈ finds, '/' ∉ find.1.toList
  workDir : later.workDir = d.workDir
  keepsDirs : d.KeepsDirs later
  latest : ∀ hash e, latest finds hash = some e →
    later.read (f.outputPath hash) = .ok (Outcome.found e).rendered
  others : ∀ place, (∀ find ∈ finds, later.placeOf (f.outputPath find.1) ≠ some place) →
    ∀ content, later.get? place = some (.file content) ↔ d.get? place = some (.file content)

theorem StoredAll.of_grown {start : Location} {ways : List String → Prop}
    (h : d.Grown later start ways) : f.StoredAll [] d later := by
  refine ⟨by simp, h.workDir, h.keepsDirs, ?_, fun place _ => h.file_iff place⟩
  intro hash e hlatest
  cases hlatest

theorem Stored.storedAll {e : Entry} (h : f.Stored e d later) (hplain : '/' ∉ e.hash.toList) :
    f.StoredAll [(e.hash, e)] d later := by
  refine ⟨by simpa using hplain, h.workDir, h.keepsDirs, ?_, ?_⟩
  · intro hash last hlast
    obtain ⟨rfl, rfl⟩ : hash = e.hash ∧ last = e := by
      simpa using mem_of_latest hlast
    exact h.content
  · intro place hplace
    exact h.others place (hplace (e.hash, e) List.mem_cons_self)

/-- Entries for other hashes leave the file of a hash as it was. -/
theorem StoredAll.read_of_none (h : f.StoredAll latter mid later) (hplain : '/' ∉ hash.toList)
    (hnone : Fetcher.latest latter hash = none) {content : Bytes}
    (hread : mid.read (f.outputPath hash) = .ok content) :
    later.read (f.outputPath hash) = .ok content := by
  refine Disk.read_of_keepsDirs h.keepsDirs h.workDir hread ?_
  intro place hplace hcontent
  have hother : ∀ find ∈ latter, later.placeOf (f.outputPath find.1) ≠ some place := by
    intro find hfind hplace'
    have hhash := hash_eq_of_placeOf (h.plain find hfind) hplain hplace' hplace
    exact latest_eq_none.mp hnone find hfind hhash
  exact (h.others place hother content).mpr hcontent

theorem StoredAll.trans (hfirst : f.StoredAll former d mid)
    (hsecond : f.StoredAll latter mid later) : f.StoredAll (former ++ latter) d later := by
  refine ⟨?_, hsecond.workDir.trans hfirst.workDir, ?_, ?_, ?_⟩
  · intro find hfind
    rcases List.mem_append.mp hfind with hfind | hfind
    · exact hfirst.plain find hfind
    · exact hsecond.plain find hfind
  · intro place hdir
    exact hsecond.keepsDirs place (hfirst.keepsDirs place hdir)
  · intro hash e hlatest
    rw [latest_append] at hlatest
    cases hlatter : Fetcher.latest latter hash with
    | some last =>
        rw [hlatter] at hlatest
        obtain rfl : last = e := Option.some.inj hlatest
        exact hsecond.latest hash last hlatter
    | none =>
        rw [hlatter, Option.none_or] at hlatest
        have hplain := hfirst.plain (hash, e) (mem_of_latest hlatest)
        exact hsecond.read_of_none hplain hlatter (hfirst.latest hash e hlatest)
  · intro place hplace content
    have hlatter : ∀ find ∈ latter, later.placeOf (f.outputPath find.1) ≠ some place :=
      fun find hfind => hplace find (List.mem_append_right former hfind)
    have hformer : ∀ find ∈ former, mid.placeOf (f.outputPath find.1) ≠ some place := by
      intro find hfind hmid
      have hlater := hsecond.keepsDirs.placeOf hsecond.workDir hmid
      exact hplace find (List.mem_append_left latter hfind) hlater
    rw [hsecond.others place hlatter content, hfirst.others place hformer content]

/-! ## Runs -/

/-- The entries that the fetches of several hashes come to, each with the hash it was found for. -/
def finds (f : Fetcher) (print : Bool) (hashes : List String) (w : World) :
    List (String × Entry) :=
  (f.results print hashes w).filterMap fun r => (found? r.2).map (r.1, ·)

theorem finds_cons {one : Bool} {u v : World}
    (hfetch : (f.fetch hash : Trial (Except Error Outcome)).runIn w = (.ok result, u))
    (heach : (f.fetchEach print hash : Trial Bool).runIn w = (.ok one, v)) :
    f.finds print (hash :: hashes) w =
      ((found? (.ok result)).map (hash, ·)).toList ++ f.finds print hashes v := by
  rw [finds, results_cons hfetch heach, List.filterMap_cons]
  cases found? (.ok result) with
  | none => rfl
  | some e => rfl

theorem Exit.storedAll (h : f.Exit hash w result w') (hplain : '/' ∉ hash.toList) :
    f.StoredAll ((found? (.ok result)).map (hash, ·)).toList w.disk w'.disk := by
  by_cases hresult : ∃ e, result = .ok (.found e)
  · obtain ⟨e, rfl⟩ := hresult
    obtain ⟨rfl, hrecorded⟩ := h.recorded
    exact hrecorded.stored.storedAll hplain
  · have hnone : found? (.ok result) = none := by
      match result with
      | .error e => rfl
      | .ok (.notFound absence) => rfl
      | .ok (.found e) => exact absurd ⟨e, rfl⟩ hresult
    rw [hnone]
    rcases h.disk (not_exists.mp hresult) with hsame | ⟨fault, _, hgrown⟩
    · rw [hsame]
      exact .of_grown (.refl w.disk [] fun _ => True)
    · exact .of_grown hgrown

theorem exists_storedAll (hnode : w.node.NoBatch) (f : Fetcher) (print : Bool)
    (hplain : ∀ hash ∈ hashes, '/' ∉ hash.toList) :
    ∃ all w', (f.fetchAll print hashes : Trial Bool).runIn w = (.ok all, w') ∧
      f.StoredAll (f.finds print hashes w) w.disk w'.disk := by
  induction hashes generalizing w with
  | nil => exact ⟨true, w, runIn_fetchAll_nil, .of_grown (.refl w.disk [] fun _ => True)⟩
  | cons hash hashes ih =>
      obtain ⟨hhash, hhashes⟩ := List.forall_mem_cons.mp hplain
      obtain ⟨result, u, one, v, hexit, hsettled, heach, hv⟩ := exists_settled hnode f print hash
      obtain ⟨others, w', hrun, hstored⟩ := ih hv hhashes
      refine ⟨one && others, w', runIn_fetchAll_cons.mpr ⟨one, v, others, heach, hrun, rfl⟩, ?_⟩
      rw [hsettled.disk] at hstored
      rw [finds_cons hexit.run heach]
      exact (hexit.storedAll hhash).trans hstored

/-- After a run over hashes without slashes each hash for which an entry was found, be it once or
several times, has a file that holds the last entry found for it, whatever its later fetches came
to.  What files are at other places than those of found entries were there before, with the same
content. -/
theorem fetchAll_keeps_latest (f : Fetcher) (print : Bool) (hnode : w.node.NoBatch)
    (hplain : ∀ hash ∈ hashes, '/' ∉ hash.toList) :
    ∃ all w', (f.fetchAll print hashes : Trial Bool).runIn w = (.ok all, w') ∧
      (∀ find ∈ f.finds print hashes w, ∃ last,
        latest (f.finds print hashes w) find.1 = some last ∧
        w'.disk.read (f.outputPath find.1) = .ok (Outcome.found last).rendered) ∧
      ∀ place,
        (∀ find ∈ f.finds print hashes w,
          w'.disk.placeOf (f.outputPath find.1) ≠ some place) →
        ∀ content,
          w'.disk.get? place = some (.file content) ↔ w.disk.get? place = some (.file content) := by
  obtain ⟨all, w', hrun, hstored⟩ := exists_storedAll hnode f print hplain
  refine ⟨all, w', hrun, ?_, hstored.others⟩
  intro find hfind
  cases hlatest : latest (f.finds print hashes w) find.1 with
  | none => exact absurd rfl (latest_eq_none.mp hlatest find hfind)
  | some last => exact ⟨last, rfl, hstored.latest find.1 last hlatest⟩

/-- Three fetches of one transaction, the second of which finds another timestamp and the third of
which fails: the file holds what the second found. -/
theorem fetchAll_keeps_latest_changing :
    ∃ all w' last, (Fetcher.fetchAll ⟨⟨"http://node"⟩, ⟨"out"⟩⟩ true ["0x7", "0x7", "0x7"] :
        Trial Bool).runIn { node := .changing } = (.ok all, w') ∧ last.timestamp = 6 ∧
      w'.disk.read (Fetcher.outputPath ⟨⟨"http://node"⟩, ⟨"out"⟩⟩ "0x7") =
        .ok (Outcome.found last).rendered := by
  have hplain : ∀ hash ∈ ["0x7", "0x7", "0x7"], '/' ∉ hash.toList := by decide
  have htimes : (latest (finds ⟨⟨"http://node"⟩, ⟨"out"⟩⟩ true ["0x7", "0x7", "0x7"]
      { node := .changing }) "0x7").map (·.timestamp) = some 6 := by
    decide +kernel
  obtain ⟨last, hlast, htime⟩ := Option.map_eq_some_iff.mp htimes
  obtain ⟨all, w', hrun, hlatest, _⟩ := fetchAll_keeps_latest ⟨⟨"http://node"⟩, ⟨"out"⟩⟩ true
    (w := { node := .changing }) Node.changing_noBatch hplain
  obtain ⟨last', hlast', hread⟩ := hlatest ("0x7", last) (mem_of_latest hlast)
  obtain rfl : last = last' := Option.some.inj (hlast.symm.trans hlast')
  exact ⟨all, w', last, hrun, htime, hread⟩

end Fetcher

end TraceArchive
