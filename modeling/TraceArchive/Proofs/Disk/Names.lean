import TraceArchive.Proofs.Disk.Walk
/-!
Names of paths.  A path is put together from a directory and a name without slashes: its last part
is that name whatever the directory looks like, so different names lead to different places.
`follow` says by the names alone where a walk along them ends, if it comes to an end.
-/

namespace TraceArchive

namespace Path

theorem partsOf_nil : partsOf [] = [] := by
  simp [partsOf]

theorem partsOf_append_slash (before after : List Char) :
    partsOf (before ++ '/' :: after) = partsOf before ++ partsOf after := by
  simp [partsOf, List.splitOn_append_cons_self]

theorem partsOf_name {name : List Char} (hname : name ≠ []) (hslash : '/' ∉ name) :
    partsOf name = [String.ofList name] := by
  simp [partsOf, List.splitOn_eq_singleton hslash, hname]

/-- A name without slashes at the end of a text ends the last part. -/
theorem partsOf_append_name (text : List Char) {name : List Char} (hname : name ≠ [])
    (hslash : '/' ∉ name) :
    ∃ before last, partsOf (text ++ name) = before ++ [String.ofList (last ++ name)] := by
  by_cases htext : '/' ∈ text
  · obtain ⟨after, before, hreverse, hafter⟩ :=
      List.eq_append_cons_of_mem (List.mem_reverse.mpr htext)
    have htext : text = before.reverse ++ '/' :: after.reverse := by
      simpa using congrArg List.reverse hreverse
    have hlast : partsOf (after.reverse ++ name) = [String.ofList (after.reverse ++ name)] :=
      partsOf_name (by simp [hname]) (by simp [hafter, hslash])
    refine ⟨partsOf before.reverse, after.reverse, ?_⟩
    rw [htext, List.append_assoc, List.cons_append, partsOf_append_slash, hlast]
  · refine ⟨[], text, ?_⟩
    rw [partsOf_name (by simp [hname]) (by simp [htext, hslash]), List.nil_append]

theorem join_of_relative (dir : Path) {file : Path} (h : file.isAbsolute = false) :
    dir.join file = ⟨dir.text ++ file.text⟩ ∧ (dir.text = "" ∨ dir.endsWithSlash = true) ∨
      dir.join file = ⟨dir.text ++ "/" ++ file.text⟩ := by
  simp only [join, h, Bool.false_eq_true, ↓reduceIte]
  split
  · rename_i hdir
    simp only [Bool.or_eq_true, String.isEmpty_iff] at hdir
    exact Or.inl ⟨rfl, hdir⟩
  · exact Or.inr rfl

theorem isAbsolute_of_noSlash {name : String} (hslash : '/' ∉ name.toList) :
    (⟨name⟩ : Path).isAbsolute = false := by
  simp only [isAbsolute, decide_eq_false_iff_not]
  intro hhead
  exact hslash (List.mem_of_mem_head? hhead)

theorem isAbsolute_join (dir : Path) {file : Path} (h : file.isAbsolute = false) :
    (dir.join file).isAbsolute = dir.isAbsolute := by
  by_cases hempty : dir.text = ""
  · have hjoin : dir.join file = file := by simp [join, h, hempty]
    rw [hjoin, h]
    simp [isAbsolute, hempty]
  · obtain ⟨c, rest, hdir⟩ := List.exists_cons_of_ne_nil (l := dir.text.toList) (by simpa)
    rcases join_of_relative dir h with ⟨hjoin, _⟩ | hjoin
    · simp [hjoin, isAbsolute, hdir]
    · simp [hjoin, isAbsolute, hdir]

/-- The parts of a directory's path, and then those of the file's. -/
theorem parts_join_of_relative (dir : Path) {file : Path} (h : file.isAbsolute = false) :
    (dir.join file).parts = dir.parts ++ file.parts := by
  rcases join_of_relative dir h with ⟨hjoin, hempty | hend⟩ | hjoin
  · simp only [hjoin, parts, hempty, String.toList_append, String.toList_empty,
      List.nil_append, partsOf_nil]
  · obtain ⟨before, hbefore⟩ : ∃ before, dir.text.toList = before ++ ['/'] := by
      simp only [endsWithSlash, decide_eq_true_eq] at hend
      exact List.getLast?_eq_some_iff.mp hend
    simp only [hjoin, parts, String.toList_append, hbefore, List.append_assoc,
      List.singleton_append, partsOf_append_slash, partsOf_nil, List.append_nil]
  · simp only [hjoin, parts, String.toList_append, List.append_assoc]
    exact partsOf_append_slash _ _

theorem parts_of_noSlash {name : String} (hname : name ≠ "") (hslash : '/' ∉ name.toList) :
    (⟨name⟩ : Path).parts = [name] := by
  rw [parts, partsOf_name (by simpa using hname) hslash, String.ofList_toList]

/-- The parts of a directory's path, and then the name. -/
theorem parts_join (dir : Path) {name : String} (hname : name ≠ "")
    (hslash : '/' ∉ name.toList) : (dir.join ⟨name⟩).parts = dir.parts ++ [name] := by
  rw [parts_join_of_relative dir (isAbsolute_of_noSlash hslash), parts_of_noSlash hname hslash]

end Path

namespace Disk

/-- A name without slashes is the last one of the place that its path names. -/
theorem placeOf_join {d : Disk} {dir : Path} {name : String} (hname : name ≠ "")
    (hslash : '/' ∉ name.toList) {place : Location}
    (h : d.placeOf (dir.join ⟨name⟩) = some place) : ∃ parent, place = parent ++ [name] := by
  obtain ⟨before, last, parent, hparts, hdot, hdots, _, hstep⟩ :=
    resolve_eq_named.mp (placeOf_eq_some.mp h)
  rw [Path.parts_join dir hname hslash] at hparts
  obtain ⟨_, rfl⟩ := List.append_singleton_inj.mp hparts
  exact ⟨parent, step_eq_append hdot hdots hstep⟩

/-! ## Names without a disk -/

/-- Where names lead from a place by themselves: a dot stays there, two dots go up, and any other
name goes down. -/
def follow (place : Location) : List String → Location
  | [] => place
  | name :: names =>
    if name = "." then follow place names
    else if name = ".." then follow place.dropLast names
    else follow (place ++ [name]) names

theorem follow_of_step {place next : Location} {name : String} (h : step place name = .ok next)
    (names : List String) : follow place (name :: names) = follow next names := by
  rw [follow]
  by_cases hdot : name = "."
  · rw [step, if_pos hdot] at h
    rw [if_pos hdot, Except.ok.inj h]
  · rw [if_neg hdot]
    by_cases hdots : name = ".."
    · rw [step, if_neg hdot, if_pos hdots] at h
      rw [if_pos hdots, Except.ok.inj h]
    · rw [if_neg hdots, step_eq_append hdot hdots h]

theorem follow_append (place : Location) (names more : List String) :
    follow place (names ++ more) = follow (follow place names) more := by
  induction names generalizing place with
  | nil => rfl
  | cons name names ih =>
      rw [List.cons_append, follow, follow]
      split
      · exact ih _
      · split
        · exact ih _
        · exact ih _

theorem follow_of_enter {d : Disk} {place goal : Location} {names : List String}
    (h : d.enter place names = .ok goal) : follow place names = goal := by
  induction names generalizing place with
  | nil => exact Except.ok.inj h
  | cons name names ih =>
      obtain ⟨next, hstep, _, hrest⟩ := enter_cons_eq_ok.mp h
      rw [follow_of_step hstep, ih hrest]

theorem follow_concat {name : String} (hdot : name ≠ ".") (hdots : name ≠ "..")
    (place : Location) (names : List String) :
    follow place (names ++ [name]) = follow place names ++ [name] := by
  rw [follow_append, follow, if_neg hdot, if_neg hdots, follow]

/-- A path names the place that its parts lead to. -/
theorem eq_follow_of_placeOf {d : Disk} {p : Path} {place : Location}
    (h : d.placeOf p = some place) : place = follow (d.start p) p.parts := by
  obtain ⟨before, last, parent, hparts, _, _, henter, hstep⟩ :=
    resolve_eq_named.mp (placeOf_eq_some.mp h)
  rw [hparts, follow_append, follow_of_enter henter, follow_of_step hstep, follow]

/-- Names that never go up lead to the place that they start from or below it. -/
theorem isPrefix_follow {names : List String} (h : ".." ∉ names) (place : Location) :
    place <+: follow place names := by
  induction names generalizing place with
  | nil => exact List.prefix_refl place
  | cons name names ih =>
      obtain ⟨hname, hnames⟩ : ".." ≠ name ∧ ".." ∉ names := by simpa using h
      rw [follow, if_neg (Ne.symm hname)]
      split
      · exact ih hnames place
      · exact (List.prefix_append place [name]).trans (ih hnames _)

/-- From a directory that a path leads to, the parts of a relative path lead to the place that both
together name. -/
theorem eq_follow_of_join {d : Disk} {dir file : Path} {home place : Location}
    (hfile : file.isAbsolute = false) (hdir : d.enter (d.start dir) dir.parts = .ok home)
    (h : d.placeOf (dir.join file) = some place) : place = follow home file.parts := by
  have hstart : d.start (dir.join file) = d.start dir := by
    rw [start, start, Path.isAbsolute_join dir hfile]
  rw [eq_follow_of_placeOf h, hstart, Path.parts_join_of_relative dir hfile, follow_append,
    follow_of_enter hdir]

end Disk

end TraceArchive
